import LayeredSettings.Proofs.Properties.Acceptance
import LayeredSettings.Proofs.Properties.Writing

/-! The natural lines of a text in groups: a line that is dropped, or the lines of an entry. A group
is told line by line, by the end of the line taken last, while the parser looks at all that it has
joined so far. Main statement: the entries of a text are those of its groups. -/
namespace LayeredSettings.Properties

/-- Natural lines that belong together: a line that is dropped, or the lines of an entry. -/
inductive Group where
  | dropped (line : List Char)
  | entry (first : List Char) (more : List (List Char))
  deriving DecidableEq

/-- What a line adds to its entry: no blanks at its front, nor the backslash by which it goes on. -/
def contribution (line : List Char) : List Char :=
  if continues line then (dropBlanks line).dropLast else dropBlanks line

namespace Group

def lines : Group → List (List Char)
  | dropped line => [line]
  | entry first more => first :: more

/-- The entry that a group makes up if its first line has number `n`. -/
def entry? (n : Nat) : Group → Option LogicalLine
  | dropped _ => none
  | entry first more => some ⟨(first :: more).flatMap contribution,n⟩

/-- The last line of an entry goes on, so that the entry would take in another line. -/
def GoesOn : Group → Prop
  | dropped _ => False
  | entry first more => continues (more.getLastD first) = true

instance : (group : Group) → Decidable group.GoesOn
  | dropped _ => inferInstanceAs (Decidable False)
  | entry _ _ => inferInstanceAs (Decidable (_ = true))

end Group

/-- The lines that an entry takes in after a given one: the next, whatever it holds, as long as the
line taken last goes on. -/
def takenAfter : (last : List Char) → List (List Char) → List (List Char)
  | _, [] => []
  | last, next :: rest => if continues last then next :: takenAfter next rest else []

/-- The natural lines of a text, walked through from group to group. -/
def groups : List (List Char) → List Group
  | [] => []
  | line :: rest =>
    if isIgnored (dropBlanks line) then .dropped line :: groups rest
    else .entry line (takenAfter line rest) :: groups (rest.drop (takenAfter line rest).length)
termination_by lines => lines.length

/-- The entries of groups that start at natural line `n`. -/
def entriesOf (n : Nat) : List Group → List LogicalLine
  | [] => []
  | group :: rest => (group.entry? n).toList ++ entriesOf (n + group.lines.length) rest

lemma takenAfter_of_closed {last : List Char} (h : continues last = false)
    (rest : List (List Char)) : takenAfter last rest = [] := by
  cases rest <;> simp [takenAfter, h]

lemma takenAfter_append_drop (last : List Char) (rest : List (List Char)) :
    takenAfter last rest ++ rest.drop (takenAfter last rest).length = rest := by
  induction rest generalizing last with
  | nil => rfl
  | cons next rest ih =>
    rw [takenAfter]
    split
    · rw [List.length_cons, List.drop_succ_cons, List.cons_append, ih]
    · rfl

/-- Every natural line is in one group, in its place. -/
theorem flatMap_lines_groups (lines : List (List Char)) :
    (groups lines).flatMap Group.lines = lines := by
  fun_induction groups lines with
  | case1 => rfl
  | case2 line rest hignored ih => rw [List.flatMap_cons, ih]; rfl
  | case3 line rest hentry ih =>
    rw [List.flatMap_cons, ih]
    exact congrArg (line :: ·) (takenAfter_append_drop line rest)

lemma ignored_of_dropped_mem {lines : List (List Char)} {line : List Char}
    (h : .dropped line ∈ groups lines) : isIgnored (dropBlanks line) = true := by
  fun_induction groups lines with
  | case1 => cases h
  | case2 first rest hignored ih =>
    rcases List.mem_cons.1 h with heq | h
    · cases heq
      exact hignored
    · exact ih h
  | case3 first rest hentry ih =>
    rcases List.mem_cons.1 h with heq | h
    · cases heq
    · exact ih h

lemma dropBlanks_ne_nil {line : List Char} (h : continues line = true) : dropBlanks line ≠ [] := by
  intro hnil
  rw [← continues_dropBlanks, hnil] at h
  cases h

/-- A pending entry takes in lines as its last line tells, although the parser looks at the text
joined so far: what was joined before leaves no backslash open. -/
lemma collect_pending {last : List Char} (hlast : continues last = true) {entry : LogicalLine}
    (hentry : entry.Closed) (n : Nat) (rest : List (List Char)) :
    collect (some entry) n rest =
      ⟨entry.text ++ (takenAfter last rest).flatMap contribution,entry.number⟩ ::
        collect none (n + (takenAfter last rest).length)
          (rest.drop (takenAfter last rest).length) := by
  induction rest generalizing last entry n with
  | nil => simp [collect, takenAfter]
  | cons next rest ih =>
    have htext : continues (entry.text ++ dropBlanks next) = continues next := by
      rw [continues_append hentry, continues_dropBlanks]
    rw [takenAfter, if_pos hlast]
    simp only [collect, takeLine, htext, List.flatMap_cons, List.length_cons, List.drop_succ_cons]
    by_cases hnext : continues next = true
    · have hdrop : (entry.text ++ dropBlanks next).dropLast = entry.text ++ contribution next := by
        rw [List.dropLast_append_of_ne_nil (dropBlanks_ne_nil hnext), contribution, if_pos hnext]
      have hclosed : LogicalLine.Closed ⟨entry.text ++ contribution next,entry.number⟩ := by
        rw [← hdrop]
        exact continues_dropLast (htext.trans hnext)
      rw [if_pos hnext, hdrop, ih hnext hclosed, List.append_assoc]
      simp only [Nat.add_assoc, Nat.add_comm 1]
    · have hcontribution : contribution next = dropBlanks next := if_neg hnext
      rw [if_neg hnext, takenAfter_of_closed (Bool.eq_false_of_not_eq_true hnext), hcontribution]
      simp

/-- Collecting lines yields the entries of their groups. -/
theorem collect_eq_entriesOf (n : Nat) (lines : List (List Char)) :
    collect none n lines = entriesOf n (groups lines) := by
  fun_induction groups lines generalizing n with
  | case1 => rfl
  | case2 line rest hignored ih =>
    rw [collect_of_ignored hignored, ih]
    rfl
  | case3 line rest hentry ih =>
    have hignored : isIgnored (dropBlanks line) = false := Bool.eq_false_of_not_eq_true hentry
    simp only [entriesOf, Group.entry?, Group.lines, Option.toList_some, List.singleton_append,
      List.flatMap_cons, List.length_cons]
    rw [← ih]
    by_cases hline : continues line = true
    · have hfirst : continues (dropBlanks line) = true := (continues_dropBlanks line).trans hline
      have hcontribution : contribution line = (dropBlanks line).dropLast := if_pos hline
      have hclosed : LogicalLine.Closed ⟨contribution line,n⟩ := by
        rw [hcontribution]
        exact continues_dropLast hfirst
      simp only [collect, takeLine, hignored, hfirst, Bool.false_eq_true, if_false, if_true]
      rw [← hcontribution, collect_pending hline hclosed]
      simp only [Nat.add_assoc, Nat.add_comm 1]
    · have hopen : continues line = false := Bool.eq_false_of_not_eq_true hline
      have hcontribution : contribution line = dropBlanks line := if_neg hline
      rw [collect_of_closed hignored ((continues_dropBlanks line).trans hopen),
        takenAfter_of_closed hopen, hcontribution]
      simp

/-- Unescaping comes to a backslash with nothing after it: at once, or after a piece that it has
read. -/
inductive MeetsEnd : List Char → Prop
  | lone : MeetsEnd ['\\']
  | later {c : Char} {w rest : List Char} (h : StandsFor TakenUnit c w) (hr : MeetsEnd rest) :
      MeetsEnd (w ++ rest)

/-- This happens on the texts that leave a backslash open, unless a malformed escape comes first. -/
theorem meetsEnd_iff {raw : List Char} :
    MeetsEnd raw ↔ continues raw = true ∧ unescape raw ≠ none := by
  constructor
  · intro h
    induction h with
    | lone => exact ⟨rfl,by decide⟩
    | later hpiece _ ih =>
      rw [hpiece.continues_append, hpiece.unescape_append, ne_eq, Option.map_eq_none_iff]
      exact ih
  · rintro ⟨hopen,hsome⟩
    induction raw using pieces_induction with
    | nothing => cases hopen
    | lone => exact .lone
    | piece hpiece ih =>
      rw [hpiece.continues_append] at hopen
      rw [hpiece.unescape_append, ne_eq, Option.map_eq_none_iff] at hsome
      exact .later hpiece (ih hopen hsome)
    | stuck hnone => exact absurd hnone hsome

/-- The entries of a text are those of its groups. Each natural line is in one group, and only blank
lines and comments are dropped. No entry ends in an odd number of backslashes, and neither its key
nor its value brings unescaping to a backslash with nothing after it. -/
theorem logicalLines_eq_entriesOf (text : List Char) :
    logicalLines text = entriesOf 1 (groups (naturalLines text)) ∧
    (groups (naturalLines text)).flatMap Group.lines = naturalLines text ∧
    (∀ line, .dropped line ∈ groups (naturalLines text) → isIgnored (dropBlanks line) = true) ∧
    ∀ line ∈ logicalLines text, trailingBackslashes line.text % 2 = 0 ∧
      ¬ MeetsEnd line.rawKey ∧ ¬ MeetsEnd line.rawValue := by
  refine ⟨collect_eq_entriesOf 1 _,flatMap_lines_groups _,fun line => ignored_of_dropped_mem,?_⟩
  intro line hline
  have hclosed : line.Closed := closed_of_mem_logicalLines line hline
  have heven : trailingBackslashes line.text % 2 = 0 := by
    rcases Nat.mod_two_eq_zero_or_one (trailingBackslashes line.text) with h | h
    · exact h
    · rw [LogicalLine.Closed, continues, h] at hclosed
      cases hclosed
  obtain ⟨hkey,hafter⟩ := continues_splitKey hclosed
  refine ⟨heven,fun h => ?_,fun h => ?_⟩
  · exact Bool.false_ne_true (hkey.symm.trans (meetsEnd_iff.1 h).1)
  · exact Bool.false_ne_true ((continues_rawValue hafter).symm.trans (meetsEnd_iff.1 h).1)

/-- A comment does not go on, whatever it ends in. An entry goes on with any line, even with what
would be a comment, and two backslashes at its end are text. -/
example : groups (naturalLines "# a\\\n b\\\n  # c=\\\\\n".toList) =
      [.dropped "# a\\".toList,.entry " b\\".toList ["  # c=\\\\".toList],.dropped []] ∧
    logicalLines "# a\\\n b\\\n  # c=\\\\\n".toList = [⟨"b# c=\\\\".toList,2⟩] := by
  decide +kernel

end LayeredSettings.Properties
