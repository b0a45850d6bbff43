import LayeredSettings.Proofs.Properties.Cut
import LayeredSettings.Proofs.Properties.Grouping

/-! Where the empty key of a source comes from: from entries that start with a mark, but also from
entries whose lines hold nothing but blanks and the backslashes by which they go on. Only a line
that is blank by itself is dropped, not one that has nothing left when it is joined. -/
namespace LayeredSettings.Properties

/-- Nothing but blanks, and perhaps the backslash by which the line goes on. -/
def HollowLine (line : List Char) : Prop :=
  ∃ blanks, Blanks blanks ∧ (line = blanks ∨ line = blanks ++ ['\\'])

namespace Group

/-- An entry all of whose lines are hollow. -/
def Hollow : Group → Prop
  | dropped _ => False
  | entry first more => ∀ line ∈ first :: more, HollowLine line

end Group

/-- The joined text starts with a mark, so that nothing stands before the separator. -/
def LogicalLine.StartsWithMark (line : LogicalLine) : Prop := ∃ c ∈ line.text.head?, IsMark c

instance (line : LogicalLine) : Decidable line.StartsWithMark :=
  Option.decidableExistsMem line.text.head?

/-- Logical lines with nothing but blanks and backslashes to go on are passed over: they make up no
entry, and the empty key is given by entries that start with a mark only. -/
structure PassesOverHollow (text : String) (source : Source) : Prop where
  key : ∀ value, source.get? "" = some value →
    ∃ line ∈ logicalLines text.toList, line.StartsWithMark
  entry : ∀ group ∈ groups (naturalLines text.toList), (∀ line ∈ group.lines, HollowLine line) →
    ∀ n, group.entry? n = none

lemma dropBlanks_eq_nil_iff {line : List Char} : dropBlanks line = [] ↔ Blanks line := by
  rw [dropBlanks, List.dropWhile_eq_nil_iff]
  simp only [isBlank_eq_true_iff, Blanks]

lemma eq_dropLast_append_of_continues {cs : List Char} (h : continues cs = true) :
    cs = cs.dropLast ++ ['\\'] := by
  rcases List.eq_nil_or_concat cs with rfl | ⟨init,c,rfl⟩
  · cases h
  · rw [List.concat_eq_append, continues_append_singleton, Bool.and_eq_true, beq_iff_eq] at h
    rw [List.concat_eq_append, List.dropLast_concat, h.1]

lemma contribution_eq_nil_iff {line : List Char} : contribution line = [] ↔ HollowLine line := by
  unfold contribution
  constructor
  · intro h
    split_ifs at h with hgoes
    · obtain ⟨blanks,hblanks,hline⟩ := exists_dropBlanks line
      rw [← continues_dropBlanks] at hgoes
      rw [eq_dropLast_append_of_continues hgoes, h, List.nil_append] at hline
      exact ⟨blanks,hblanks,.inr hline⟩
    · exact ⟨line,dropBlanks_eq_nil_iff.1 h,.inl rfl⟩
  · rintro ⟨blanks,hblanks,rfl | rfl⟩
    · simp [dropBlanks_eq_nil_iff.2 hblanks]
    · have hclosed : continues ([] ++ blanks) = false := hblanks.continues_append rfl
      have hgoes : continues (blanks ++ ['\\']) = true := by
        rw [continues_append_singleton, ← List.nil_append blanks, hclosed]
        rfl
      rw [if_pos hgoes, hblanks.dropBlanks_append]
      rfl

instance (line : List Char) : Decidable (HollowLine line) :=
  decidable_of_iff _ contribution_eq_nil_iff

instance : (group : Group) → Decidable group.Hollow
  | .dropped _ => inferInstanceAs (Decidable False)
  | .entry first more => inferInstanceAs (Decidable (∀ line ∈ first :: more, HollowLine line))

lemma not_blank_of_head_contribution (line : List Char) :
    ∀ c ∈ (contribution line).head?, ¬ IsBlank c := by
  intro c hc
  refine not_blank_of_head_dropBlanks line c ?_
  unfold contribution at hc
  split_ifs at hc
  · rw [List.head?_dropLast] at hc
    split_ifs at hc
    · exact hc
    · cases hc
  · exact hc

lemma not_blank_of_head_entry (lines : List (List Char)) :
    ∀ c ∈ (lines.flatMap contribution).head?, ¬ IsBlank c := by
  induction lines with
  | nil => simp
  | cons line lines ih =>
    intro c hc
    rw [List.flatMap_cons, List.head?_append, Option.mem_def, Option.or_eq_some_iff] at hc
    rcases hc with hc | ⟨-,hc⟩
    · exact not_blank_of_head_contribution line c hc
    · exact ih c hc

lemma Group.text_eq_nil_iff {group : Group} {n : Nat} :
    (∃ line, group.entry? n = some line ∧ line.text = []) ↔ group.Hollow := by
  cases group with
  | dropped line => simp [Hollow, entry?]
  | entry first more =>
    simp only [Hollow, entry?, Option.some.injEq, exists_eq_left', List.flatMap_eq_nil_iff,
      contribution_eq_nil_iff]

/-- What is true of the text of some entry is true of the text that some group makes up. -/
lemma exists_mem_entriesOf_iff {P : List Char → Prop} {n : Nat} {gs : List Group} :
    (∃ line ∈ entriesOf n gs, P line.text) ↔
      ∃ group ∈ gs, ∃ line, group.entry? 1 = some line ∧ P line.text := by
  induction gs generalizing n with
  | nil => simp [entriesOf]
  | cons group gs ih =>
    have hgroup : (∃ line, group.entry? n = some line ∧ P line.text) ↔
        ∃ line, group.entry? 1 = some line ∧ P line.text := by
      cases group <;> simp [ Group.entry?]
    simp only [entriesOf, List.mem_append, Option.mem_toList, or_and_right, exists_or, ih,
      List.mem_cons, exists_eq_left, ← hgroup]

lemma exists_empty_iff {text : List Char} :
    (∃ line ∈ logicalLines text, line.text = []) ↔
      ∃ group ∈ groups (naturalLines text), group.Hollow := by
  rw [logicalLines, collect_eq_entriesOf, exists_mem_entriesOf_iff (P := (· = []))]
  simp only [Group.text_eq_nil_iff]

lemma not_blank_of_head_logicalLines {text : List Char} {line : LogicalLine}
    (h : line ∈ logicalLines text) : ∀ c ∈ line.text.head?, ¬ IsBlank c := by
  rw [logicalLines, collect_eq_entriesOf] at h
  obtain ⟨group,-,line',hline',htext⟩ :=
    exists_mem_entriesOf_iff (P := (· = line.text)).1 ⟨line,h,rfl⟩
  rw [← htext]
  cases group with
  | dropped => cases hline'
  | entry first more =>
    obtain rfl := Option.some.inj hline'
    exact not_blank_of_head_entry (first :: more)

/-- The raw key of an entry is empty if nothing stands before a mark, or nothing stands there. -/
lemma rawKey_eq_nil_iff {line : LogicalLine} (h : ∀ c ∈ line.text.head?, ¬ IsBlank c) :
    line.rawKey = [] ↔ line.text = [] ∨ line.StartsWithMark := by
  obtain ⟨hjoin,-,hends⟩ := splitKey_spec line.text
  constructor
  · intro hkey
    rw [LogicalLine.rawKey] at hkey
    rw [hkey, List.nil_append] at hjoin
    rw [hjoin] at hends
    cases htext : line.text with
    | nil => exact .inl rfl
    | cons c rest =>
      rw [htext] at hends h
      exact .inr ⟨c,by rw [htext]; rfl,(hends c rfl).resolve_right (h c rfl)⟩
  · rintro (htext | ⟨c,hc,hmark⟩)
    · rw [LogicalLine.rawKey, htext]
      rfl
    · obtain ⟨rest,hrest⟩ := List.head?_eq_some_iff.1 hc
      rw [LogicalLine.rawKey, hrest, splitKey_of_ends (.inl hmark)]

/-- A key is empty exactly if the raw key that it is read from is. -/
lemma LogicalLine.Reads.rawKey_eq_nil_iff {line : LogicalLine} {pair : String × String}
    (h : line.Reads TakenUnit pair) : line.rawKey = [] ↔ pair.1 = "" := by
  obtain ⟨key,value⟩ := pair
  obtain ⟨hkey,-⟩ := h
  constructor
  · intro hraw
    have hread := hkey.unescape_eq
    rw [hraw, unescape, Option.some.injEq] at hread
    exact String.toList_eq_nil_iff.1 hread.symm
  · rintro rfl
    generalize line.rawKey = raw at hkey
    cases hkey
    rfl

lemma exists_mem_iff_of_forall₂ {α β : Type} {R : α → β → Prop} {P : α → Prop} {Q : β → Prop}
    (hiff : ∀ x y, R x y → (P x ↔ Q y)) {xs : List α} {ys : List β} (h : List.Forall₂ R xs ys) :
    (∃ x ∈ xs, P x) ↔ ∃ y ∈ ys, Q y := by
  induction h with
  | nil => simp
  | cons hxy _ ih => rw [List.exists_mem_cons_iff, List.exists_mem_cons_iff, ih, hiff _ _ hxy]

lemma exists_get?_ofList_iff {pairs : List (String × String)} {key : String} :
    (∃ value, (Dictionary.ofList pairs).get? key = some value) ↔ ∃ pair ∈ pairs, pair.1 = key := by
  rw [← Option.ne_none_iff_exists', Dictionary.get?_ofList, Ne, lookup_eq_none_iff_notMem,
    not_not, List.map_reverse, List.mem_reverse, List.mem_map]

/-- A source has the empty key exactly if some entry is empty when it is joined, or starts with a
mark. -/
theorem exists_get?_empty_iff {text : String} {source : Source}
    (h : Source.parse text = .ok source) : (∃ value, source.get? "" = some value) ↔
      ∃ line ∈ logicalLines text.toList, line.text = [] ∨ line.StartsWithMark := by
  obtain ⟨pairs,rfl,hpairs⟩ := (parsedBy_takenUnit text).decoded source h
  rw [exists_get?_ofList_iff,
    ← exists_mem_iff_of_forall₂ (fun _ _ hr => hr.rawKey_eq_nil_iff) hpairs]
  exact exists_congr fun line => and_congr_right fun hline =>
    rawKey_eq_nil_iff (not_blank_of_head_logicalLines hline)

/-- Which texts give rise to the empty key, and which pass over hollow lines. The empty key comes
from entries that start with a mark and from those whose lines are all hollow. Hollow lines are
passed over in exactly the texts that have no such entry. -/
theorem passesOverHollow_iff {text : String} {source : Source}
    (h : Source.parse text = .ok source) :
    ((∃ value, source.get? "" = some value) ↔
      (∃ group ∈ groups (naturalLines text.toList), group.Hollow) ∨
      ∃ line ∈ logicalLines text.toList, line.StartsWithMark) ∧
    (PassesOverHollow text source ↔
      ∀ group ∈ groups (naturalLines text.toList), ¬ group.Hollow) := by
  have hkey : (∃ value, source.get? "" = some value) ↔
      (∃ group ∈ groups (naturalLines text.toList), group.Hollow) ∨
      ∃ line ∈ logicalLines text.toList, line.StartsWithMark := by
    rw [exists_get?_empty_iff h, ← exists_empty_iff, ← exists_or]
    simp only [and_or_left]
  refine ⟨hkey,fun hpasses group hgroup hhollow => ?_,fun hnone => ⟨fun value hvalue => ?_,?_⟩⟩
  · cases group with
    | dropped => exact hhollow
    | entry first more => cases hpasses.entry _ hgroup hhollow 1
  · rcases hkey.1 ⟨value,hvalue⟩ with ⟨group,hgroup,hhollow⟩ | hmark
    · exact absurd hhollow (hnone group hgroup)
    · exact hmark
  · intro group hgroup hhollow n
    cases group with
    | dropped => rfl
    | entry first more => exact absurd hhollow (hnone _ hgroup)

/-- A hollow line that goes on to a mark is passed over, although the key is empty. -/
theorem passesOverHollow_mark :
    Source.parse " \\\n\t=b\n" = .ok (.ofList [("","b")]) ∧
    PassesOverHollow " \\\n\t=b\n" (.ofList [("","b")]) ∧
    ∃ line ∈ logicalLines " \\\n\t=b\n".toList, line.StartsWithMark := by
  have h : Source.parse " \\\n\t=b\n" = .ok (.ofList [("","b")]) := by decide +kernel
  have hnone : ∀ group ∈ groups (naturalLines " \\\n\t=b\n".toList), ¬ group.Hollow := by
    decide +kernel
  obtain ⟨hkey,hpasses⟩ := passesOverHollow_iff h
  refine ⟨h,hpasses.2 hnone,(hkey.1 ⟨"b",rfl⟩).resolve_left ?_⟩
  rintro ⟨group,hgroup,hhollow⟩
  exact hnone group hgroup hhollow

/-- A backslash alone on a line, with a blank line after it, is read as an entry. -/
theorem not_passesOverHollow :
    Source.parse "\\\n\nurl=x\n" = .ok (.ofList [("",""),("url","x")]) ∧
    ¬ PassesOverHollow "\\\n\nurl=x\n" (.ofList [("",""),("url","x")]) := by
  refine ⟨by decide +kernel,fun h => ?_⟩
  have hnone : ¬ ∃ line ∈ logicalLines "\\\n\nurl=x\n".toList, line.StartsWithMark := by
    decide +kernel
  exact hnone (h.key "" (by decide +kernel))

end LayeredSettings.Properties
