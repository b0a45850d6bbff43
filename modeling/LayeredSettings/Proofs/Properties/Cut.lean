import Mathlib.Data.List.TakeWhile
import LayeredSettings.Proofs.Properties.Acceptance
import LayeredSettings.Proofs.Properties.Writing

/-! An entry cut into a raw key, the gap after it, and a raw value. Main statement: every entry can
be cut in one way only and is read as the key and the value of this cut; no escape is cut apart or
taken for a separator, and of the marks that are not escaped only the first can be one. -/
namespace LayeredSettings.Properties

/-- Characters that are no backslash, and backslashes each with the character that it escapes. -/
inductive Whole : List Char → Prop
  | nil : Whole []
  | plain {c : Char} {rest : List Char} (h : c ≠ '\\') (hs : Whole rest) : Whole (c :: rest)
  | escape {c : Char} {rest : List Char} (hs : Whole rest) : Whole ('\\' :: c :: rest)

def IsMark (c : Char) : Prop := c = '=' ∨ c = ':'

instance (c : Char) : Decidable (IsMark c) := inferInstanceAs (Decidable (_ ∨ _))

/-- What separates a key from a value: blanks, and perhaps one mark among them. -/
inductive IsGap : List Char → Prop
  | blanks {gap : List Char} (h : Blanks gap) : IsGap gap
  | marked {before after : List Char} {mark : Char} (hb : Blanks before) (hm : IsMark mark)
      (ha : Blanks after) : IsGap (before ++ mark :: after)

/-- No mark and no blank of the key is unescaped. A character is escaped if what precedes it leaves
a backslash open. -/
def Unended (key : List Char) : Prop :=
  ∀ before c after, key = before ++ c :: after → continues before = false →
    ¬ IsMark c ∧ ¬ IsBlank c

structure Cut where
  key : List Char
  gap : List Char
  value : List Char

namespace Cut

/-- A way to cut a line. The key is whole, for else `a\=b` could be cut at its escaped mark too. -/
structure IsOf (cut : Cut) (line : List Char) : Prop where
  joins : line = cut.key ++ (cut.gap ++ cut.value)
  key_whole : Whole cut.key
  key_unended : Unended cut.key
  gap_separates : IsGap cut.gap
  value_not_blank : ∀ c ∈ cut.value.head?, ¬ IsBlank c
  value_not_mark : (∀ c ∈ cut.gap, ¬ IsMark c) → ∀ c ∈ cut.value.head?, ¬ IsMark c
  value_eq_nil : cut.gap = [] → cut.value = []

/-- Every escape of the line is in the key or in the value, as a whole. -/
def KeepsEscapes (cut : Cut) (line : List Char) : Prop :=
  ∀ before c w after, line = before ++ (w ++ after) → continues before = false →
    StandsFor TakenUnit c w → w.head? = some '\\' →
      (∃ rest, cut.key = before ++ (w ++ rest)) ∨ ∃ rest, cut.value = rest ++ (w ++ after)

/-- Every mark of the line is an escaped one in the key, or the one mark between the blanks of the
gap, or in the value. -/
def KeepsMarks (cut : Cut) (line : List Char) : Prop :=
  ∀ before c after, line = before ++ c :: after → IsMark c →
    (continues before = true ∧ ∃ rest, cut.key = before ++ c :: rest) ∨
    (∃ left right, before = cut.key ++ left ∧ cut.gap = left ++ c :: right ∧ Blanks left ∧
      Blanks right) ∨
    ∃ rest, cut.value = rest ++ c :: after

end Cut

/-- A text is whole if it ends in an even number of backslashes. -/
theorem whole_of_closed : {raw : List Char} → continues raw = false → Whole raw
  | [], _ => .nil
  | [c], h => .plain (by rintro rfl; cases h) .nil
  | c :: d :: rest, h => by
    by_cases hc : c = '\\'
    · subst hc
      rw [continues_escaped] at h
      exact .escape (whole_of_closed h)
    · rw [continues_cons hc] at h
      exact .plain hc (whole_of_closed h)

lemma Whole.closed {raw : List Char} (h : Whole raw) : continues raw = false := by
  induction h with
  | nil => rfl
  | plain hc _ ih => rwa [continues_cons hc]
  | escape _ ih => rwa [continues_escaped]

lemma IsMark.not_isBlank {c : Char} (h : IsMark c) : ¬ IsBlank c := by
  rcases h with rfl | rfl <;> decide

lemma IsGap.notMem_backslash {gap : List Char} (h : IsGap gap) : '\\' ∉ gap := by
  cases h with
  | blanks h => exact h.notMem_backslash
  | @marked _ _ mark hb hm ha =>
    have hmark : '\\' ≠ mark := by rcases hm with rfl | rfl <;> decide
    simp only [List.mem_append, List.mem_cons, not_or]
    exact ⟨hb.notMem_backslash,hmark,ha.notMem_backslash⟩

/-- A line that is divided at some place has each character before the place or after it. -/
lemma append_cons_split {before after xs ys : List Char} {c : Char}
    (h : before ++ c :: after = xs ++ ys) :
    (∃ rest, xs = before ++ c :: rest) ∨ ∃ left, before = xs ++ left ∧ ys = left ++ c :: after := by
  rcases List.append_eq_append_iff.1 h with ⟨as,rfl,has⟩ | ⟨left,hbefore,hys⟩
  · cases as with
    | nil => exact .inr ⟨[],by simp,by simpa using has.symm⟩
    | cons d as =>
      obtain ⟨rfl,-⟩ := List.cons_eq_cons.1 has
      exact .inl ⟨as,rfl⟩
  · exact .inr ⟨left,hbefore,hys⟩

lemma IsGap.around {left right : List Char} {c : Char} (h : IsGap (left ++ c :: right))
    (hc : IsMark c) : Blanks left ∧ Blanks right := by
  generalize hgap : left ++ c :: right = gap at h
  cases h with
  | blanks h =>
    have hblank := h c (hgap ▸ List.mem_append_right left List.mem_cons_self)
    exact absurd hblank hc.not_isBlank
  | @marked before after mark hb hm ha =>
    rcases append_cons_split hgap with ⟨rest,hrest⟩ | ⟨rest,rfl,hrest⟩
    · exact absurd (hrest ▸ List.mem_append_right left List.mem_cons_self) (hb.notMem hc.not_isBlank)
    · cases rest with
      | nil =>
        obtain ⟨-,rfl⟩ := List.cons_eq_cons.1 hrest
        rw [List.append_nil]
        exact ⟨hb,ha⟩
      | cons d rest =>
        obtain ⟨-,hafter⟩ := List.cons_eq_cons.1 hrest
        exact absurd (hafter ▸ List.mem_append_right rest List.mem_cons_self)
          (ha.notMem hc.not_isBlank)

lemma unended_nil : Unended [] := by
  intro before c after h
  simp at h

lemma Unended.cons {c : Char} {key : List Char} (h : Unended key) (hc : c ≠ '\\')
    (hmark : ¬ IsMark c) (hblank : ¬ IsBlank c) : Unended (c :: key) := by
  intro before d after heq hb
  cases before with
  | nil =>
    obtain ⟨rfl,-⟩ := List.cons_eq_cons.1 heq
    exact ⟨hmark,hblank⟩
  | cons x before =>
    obtain ⟨rfl,rfl⟩ := List.cons_eq_cons.1 heq
    rw [continues_cons hc] at hb
    exact h before d after rfl hb

lemma Unended.escaped {key : List Char} (h : Unended key) (c : Char) :
    Unended ('\\' :: c :: key) := by
  intro before d after heq hb
  rcases before with - | ⟨x,- | ⟨y,before⟩⟩
  · obtain ⟨rfl,-⟩ := List.cons_eq_cons.1 heq
    exact ⟨by decide,by decide⟩
  · obtain ⟨rfl,-⟩ := List.cons_eq_cons.1 heq
    cases hb
  · obtain ⟨rfl,rfl,rfl⟩ : '\\' = x ∧ c = y ∧ key = before ++ d :: after := by simpa using heq
    rw [continues_escaped] at hb
    exact h before d after rfl hb

lemma Unended.drop {key : List Char} (before : List Char) (h : Unended (before ++ key))
    (hb : continues before = false) : Unended key := by
  intro between c after heq hbetween
  refine h (before ++ between) c after (by rw [heq, List.append_assoc]) ?_
  rw [continues_append hb, hbetween]

/-- Splitting after the key loses nothing, and stops at the first mark or blank that is not
escaped. -/
lemma splitKey_spec (cs : List Char) : (splitKey cs).1 ++ (splitKey cs).2 = cs ∧
    Unended (splitKey cs).1 ∧ ∀ c ∈ (splitKey cs).2.head?, IsMark c ∨ IsBlank c := by
  fun_induction splitKey cs with
  | case1 => exact ⟨rfl,unended_nil,by simp⟩
  | case2 c rest key after heq ih =>
    rw [heq] at ih
    exact ⟨congrArg (fun cs => '\\' :: c :: cs) ih.1,ih.2.1.escaped c,ih.2.2⟩
  | case3 c rest _ hends =>
    refine ⟨rfl,unended_nil,fun d hd => ?_⟩
    obtain rfl := Option.some.inj hd
    simpa [IsMark] using hends
  | case4 c rest hne hends key after heq ih =>
    rw [heq] at ih
    obtain ⟨hjoin,hkey,hafter⟩ := ih
    obtain ⟨hmark,hblank⟩ : ¬ IsMark c ∧ ¬ IsBlank c := by simpa [IsMark] using hends
    refine ⟨congrArg (c :: ·) hjoin,?_,hafter⟩
    by_cases hc : c = '\\'
    · obtain rfl := rest_eq_nil_of_lone hne hc
      obtain ⟨rfl,rfl⟩ := List.append_eq_nil_iff.1 hjoin
      intro before d after hd _
      obtain ⟨rfl,rfl,rfl⟩ : before = [] ∧ d = c ∧ after = [] := by
        simpa [eq_comm, List.append_eq_singleton_iff] using hd
      exact ⟨hmark,hblank⟩
    · exact hkey.cons hc hmark hblank

/-- A whole key is split off where a mark or a blank follows it. -/
lemma Whole.splitKey_append {key : List Char} (h : Whole key) (hu : Unended key) {after : List Char}
    (ha : ∀ c ∈ after.head?, IsMark c ∨ IsBlank c) :
    splitKey (key ++ after) = (key,after) := by
  induction h with
  | nil =>
    cases after with
    | nil => rfl
    | cons c after => exact splitKey_of_ends (ha c rfl) after
  | @plain c rest hc _ ih =>
    obtain ⟨hmark,hblank⟩ := hu [] c rest rfl rfl
    have hrest : Unended rest := hu.drop [c] (continues_append_of_ne hc [])
    rw [IsMark, not_or] at hmark
    rw [List.cons_append, splitKey_cons hc hmark.1 hmark.2 hblank, ih hrest]
  | @escape c rest _ ih =>
    have hrest : Unended rest := hu.drop ['\\',c] (continues_escaped c [])
    rw [List.cons_append, List.cons_append, splitKey_escaped, ih hrest]

lemma exists_dropBlanks (cs : List Char) :
    ∃ blanks, Blanks blanks ∧ cs = blanks ++ dropBlanks cs := by
  refine ⟨cs.takeWhile isBlank,fun c hc => ?_,List.takeWhile_append_dropWhile.symm⟩
  exact isBlank_eq_true_iff.1 (List.mem_takeWhile_imp hc)

lemma not_blank_of_head_dropBlanks (cs : List Char) :
    ∀ c ∈ (dropBlanks cs).head?, ¬ IsBlank c := by
  intro c hc
  have h := List.head?_dropWhile_not isBlank cs
  rw [dropBlanks] at hc
  rw [hc] at h
  simpa using h

lemma dropBlanks_of_head {cs : List Char} (h : ∀ c ∈ cs.head?, ¬ IsBlank c) :
    dropBlanks cs = cs := by
  cases cs with
  | nil => rfl
  | cons c cs => exact dropBlanks_cons (h c rfl) cs

/-- What follows a key is a gap and the value, if it starts with a mark or a blank. -/
lemma exists_gap {after : List Char} (h : ∀ c ∈ after.head?, IsMark c ∨ IsBlank c) :
    ∃ gap, after = gap ++ rawValue after ∧ IsGap gap ∧
      (∀ c ∈ (rawValue after).head?, ¬ IsBlank c) ∧
      ((∀ c ∈ gap, ¬ IsMark c) → ∀ c ∈ (rawValue after).head?, ¬ IsMark c) ∧
      (gap = [] → rawValue after = []) := by
  obtain ⟨blanks,hblanks,hafter⟩ := exists_dropBlanks after
  have hmarked : ∀ mark rest, IsMark mark → dropBlanks after = mark :: rest →
      ∃ gap, after = gap ++ dropBlanks rest ∧ IsGap gap ∧
        (∀ c ∈ (dropBlanks rest).head?, ¬ IsBlank c) ∧
        ((∀ c ∈ gap, ¬ IsMark c) → ∀ c ∈ (dropBlanks rest).head?, ¬ IsMark c) ∧
        (gap = [] → dropBlanks rest = []) := by
    intro mark rest hmark hdrop
    obtain ⟨margin,hmargin,hrest⟩ := exists_dropBlanks rest
    refine ⟨blanks ++ mark :: margin,?_,.marked hblanks hmark hmargin,
      not_blank_of_head_dropBlanks _,fun hnone => ?_,fun hnil => by simp at hnil⟩
    · conv_lhs => rw [hafter, hdrop, hrest]
      simp
    · exact absurd hmark (hnone mark (by simp))
  unfold rawValue
  split
  · rename_i rest hdrop
    exact hmarked '=' rest (.inl rfl) hdrop
  · rename_i rest hdrop
    exact hmarked ':' rest (.inr rfl) hdrop
  · rename_i heq hcolon
    have hmark : ∀ c ∈ (dropBlanks after).head?, ¬ IsMark c := by
      intro c hc
      obtain ⟨rest,hrest⟩ := List.head?_eq_some_iff.1 hc
      rintro (rfl | rfl)
      · exact heq rest hrest
      · exact hcolon rest hrest
    refine ⟨blanks,hafter,.blanks hblanks,not_blank_of_head_dropBlanks _,fun _ => hmark,?_⟩
    rintro rfl
    rw [List.nil_append] at hafter
    cases hvalue : dropBlanks after with
    | nil => rfl
    | cons c rest =>
      rw [hvalue] at hmark hafter
      rw [hafter] at h
      rcases h c rfl with hc | hc
      · exact absurd hc (hmark c rfl)
      · exact absurd hc (not_blank_of_head_dropBlanks after c (by rw [hvalue]; rfl))

namespace Cut.IsOf

variable {cut : Cut} {line : List Char}

/-- The gap of a cut is all that is dropped before the value. -/
lemma rawValue_eq (h : cut.IsOf line) : rawValue (cut.gap ++ cut.value) = cut.value := by
  have hvalue := dropBlanks_of_head h.value_not_blank
  have hgap := h.gap_separates
  have hmark := h.value_not_mark
  generalize cut.gap = gap at hgap hmark
  cases hgap with
  | blanks hblanks =>
    have hnone : ∀ c ∈ gap, ¬ IsMark c := fun c hc hm => hblanks.notMem hm.not_isBlank hc
    rw [rawValue, hblanks.dropBlanks_append, hvalue]
    split
    · rename_i rest heq
      exact absurd (.inl rfl) (hmark hnone '=' (by rw [heq]; rfl))
    · rename_i rest heq
      exact absurd (.inr rfl) (hmark hnone ':' (by rw [heq]; rfl))
    · rfl
  | @marked before after mark hb hm ha =>
    rw [rawValue, List.append_assoc, hb.dropBlanks_append, List.cons_append,
      dropBlanks_cons hm.not_isBlank]
    rcases hm with rfl | rfl
    · exact (ha.dropBlanks_append cut.value).trans hvalue
    · exact (ha.dropBlanks_append cut.value).trans hvalue

lemma head_after (h : cut.IsOf line) :
    ∀ c ∈ (cut.gap ++ cut.value).head?, IsMark c ∨ IsBlank c := by
  intro c hc
  have hgap := h.gap_separates
  have hnil := h.value_eq_nil
  generalize cut.gap = gap at hgap hnil hc
  cases hgap with
  | blanks hblanks =>
    cases gap with
    | nil =>
      rw [hnil rfl] at hc
      cases hc
    | cons d gap =>
      obtain rfl := Option.some.inj hc
      exact .inr (hblanks d List.mem_cons_self)
  | @marked before after mark hb hm ha =>
    cases before with
    | nil =>
      obtain rfl := Option.some.inj hc
      exact .inl hm
    | cons d before =>
      obtain rfl := Option.some.inj hc
      exact .inr (hb d List.mem_cons_self)

lemma splitKey_eq (h : cut.IsOf line) : splitKey line = (cut.key,cut.gap ++ cut.value) := by
  rw [h.joins]
  exact h.key_whole.splitKey_append h.key_unended h.head_after

theorem unique {other : Cut} (h : cut.IsOf line) (hother : other.IsOf line) : other = cut := by
  obtain ⟨hkey,hafter⟩ := Prod.mk.inj (hother.splitKey_eq.symm.trans h.splitKey_eq)
  have hvalue : other.value = cut.value := by
    rw [← hother.rawValue_eq, hafter, h.rawValue_eq]
  have hgap : other.gap = cut.gap := by
    rw [hvalue] at hafter
    exact List.append_cancel_right hafter
  cases cut
  cases other
  simp_all

/-- What remains of a line after a part of the key is cut like the line. -/
lemma drop {before key : List Char} (h : cut.IsOf line) (hkey : cut.key = before ++ key)
    (hb : continues before = false) :
    Cut.IsOf ⟨key,cut.gap,cut.value⟩ (key ++ (cut.gap ++ cut.value)) where
  joins := rfl
  key_whole := by
    have hclosed := h.key_whole.closed
    rw [hkey, continues_append hb] at hclosed
    exact whole_of_closed hclosed
  key_unended := (hkey ▸ h.key_unended).drop before hb
  gap_separates := h.gap_separates
  value_not_blank := h.value_not_blank
  value_not_mark := h.value_not_mark
  value_eq_nil := h.value_eq_nil

end Cut.IsOf

lemma TakenUnit.splitKey_append {unit : Nat} {w : List Char} (h : TakenUnit unit w)
    (rest : List Char) : splitKey (w ++ rest) = (w ++ (splitKey rest).1,(splitKey rest).2) := by
  rcases h with h | ⟨b,c,d,rfl,hb,hc,hd⟩
  · exact h.splitKey_append rest
  · have hplus : PlainInKey '+' := by decide
    simp only [List.cons_append, List.nil_append, splitKey_escaped, splitKey_plain hplus,
      splitKey_plain hb.spec.2.2.2, splitKey_plain hc.spec.2.2.2, splitKey_plain hd.spec.2.2.2]

/-- No escape holds a character that could end a key. -/
lemma StandsFor.splitKey_append {c : Char} {w : List Char} (h : StandsFor TakenUnit c w)
    (hhead : w.head? = some '\\') (rest : List Char) :
    splitKey (w ++ rest) = (w ++ (splitKey rest).1,(splitKey rest).2) := by
  cases h with
  | itself hc => exact absurd (Option.some.inj hhead) hc
  | control => rfl
  | escaped => rfl
  | unit hu => exact hu.splitKey_append rest
  | pair _ hv hw =>
    rw [List.append_assoc, hv.splitKey_append, hw.splitKey_append, List.append_assoc]

namespace Cut.IsOf

variable {cut : Cut} {line : List Char}

theorem keepsEscapes (h : cut.IsOf line) : cut.KeepsEscapes line := by
  intro before c w after hline hb hpiece hw
  obtain ⟨tail,rfl⟩ := List.head?_eq_some_iff.1 hw
  have hjoins : before ++ '\\' :: (tail ++ after) = cut.key ++ (cut.gap ++ cut.value) :=
    hline.symm.trans h.joins
  rcases append_cons_split hjoins with ⟨rest,hkey⟩ | ⟨left,hbefore,hrest⟩
  · -- the escape starts in the key: what is left of the key from there on starts with it
    have hdrop := (h.drop hkey hb).splitKey_eq
    have hline' : '\\' :: rest ++ (cut.gap ++ cut.value) = '\\' :: tail ++ after := by
      rw [hkey, List.append_assoc] at hjoins
      exact (List.append_cancel_left hjoins).symm
    rw [hline', hpiece.splitKey_append hw] at hdrop
    exact .inl ⟨_,hkey.trans (congrArg (before ++ ·) (Prod.mk.inj hdrop).1.symm)⟩
  · rcases append_cons_split hrest.symm with ⟨right,hgap⟩ | ⟨rest,-,hvalue⟩
    · exact absurd (hgap ▸ List.mem_append_right left List.mem_cons_self)
        h.gap_separates.notMem_backslash
    · exact .inr ⟨rest,hvalue⟩

theorem keepsMarks (h : cut.IsOf line) : cut.KeepsMarks line := by
  intro before c after hline hc
  rcases append_cons_split (hline.symm.trans h.joins) with ⟨rest,hkey⟩ | ⟨left,hbefore,hrest⟩
  · refine .inl ⟨?_,rest,hkey⟩
    by_contra hclosed
    exact (h.key_unended before c rest hkey (Bool.eq_false_of_not_eq_true hclosed)).1 hc
  · rcases append_cons_split hrest.symm with ⟨right,hgap⟩ | ⟨rest,-,hvalue⟩
    · obtain ⟨hleft,hright⟩ := (hgap ▸ h.gap_separates).around hc
      exact .inr (.inl ⟨left,right,hbefore,hgap,hleft,hright⟩)
    · exact .inr (.inr ⟨rest,hvalue⟩)

end Cut.IsOf

theorem LogicalLine.Closed.exists_cut {line : LogicalLine} (h : line.Closed) :
    ∃ cut : Cut, cut.IsOf line.text ∧ cut.key = line.rawKey ∧ cut.value = line.rawValue := by
  obtain ⟨hjoin,hkey,hends⟩ := splitKey_spec line.text
  obtain ⟨gap,hafter,hgap,hblank,hmark,hnil⟩ := exists_gap hends
  refine ⟨⟨line.rawKey,gap,line.rawValue⟩,⟨?_,?_,hkey,hgap,hblank,hmark,hnil⟩,rfl,rfl⟩
  · exact hjoin.symm.trans (congrArg (line.rawKey ++ ·) hafter)
  · exact whole_of_closed (continues_splitKey h).1

/-- Every entry of a text can be cut in exactly one way. Its value is whole as well, no escape is
cut apart, no other mark is taken for the separator; and the entry is read as the key and the value
of the cut, unless unescaping one of them fails. -/
theorem existsUnique_cut {text : List Char} {line : LogicalLine} (h : line ∈ logicalLines text) :
    (∃! cut : Cut, cut.IsOf line.text) ∧
    ∀ cut : Cut, cut.IsOf line.text →
      Whole cut.value ∧ cut.KeepsEscapes line.text ∧ cut.KeepsMarks line.text ∧
      (∀ key value, splitEntry line = .ok (key,value) ↔
        unescape cut.key = some key.toList ∧ unescape cut.value = some value.toList) ∧
      ∀ e, splitEntry line = .error e ↔
        (unescape cut.key = none ∨ unescape cut.value = none) ∧
          e = .malformedEscape line.number := by
  have hclosed : line.Closed := closed_of_mem_logicalLines line h
  obtain ⟨cut,hcut,hkey,hvalue⟩ := hclosed.exists_cut
  refine ⟨⟨cut,hcut,fun other hother => hcut.unique hother⟩,fun other hother => ?_⟩
  obtain rfl := hcut.unique hother
  have hwhole : Whole other.value := by
    rw [hvalue]
    exact whole_of_closed (continues_rawValue (continues_splitKey hclosed).2)
  rw [hkey, hvalue]
  exact ⟨hvalue ▸ hwhole,hcut.keepsEscapes,hcut.keepsMarks,fun key value => splitEntry_eq_ok_iff,
    fun e => splitEntry_eq_error_iff⟩

/-- An escaped mark in the key, and further marks after the separator, one of them spelled by its
unit. -/
theorem existsUnique_cut_marks :
    (⟨"a\\=b =c:\\u003d".toList,1⟩ : LogicalLine) ∈ logicalLines "a\\=b =c:\\u003d".toList ∧
    ∃ cut : Cut, cut.IsOf "a\\=b =c:\\u003d".toList ∧
      (∀ other : Cut, other.IsOf "a\\=b =c:\\u003d".toList → other = cut) ∧
      unescape cut.key = some "a=b".toList ∧ unescape cut.value = some "c:=".toList := by
  have h : (⟨"a\\=b =c:\\u003d".toList,1⟩ : LogicalLine) ∈
      logicalLines "a\\=b =c:\\u003d".toList := by decide +kernel
  have hsplit : splitEntry ⟨"a\\=b =c:\\u003d".toList,1⟩ = .ok ("a=b","c:=") := by decide +kernel
  obtain ⟨⟨cut,hcut,hunique⟩,hread⟩ := existsUnique_cut h
  obtain ⟨-,-,-,hok,-⟩ := hread cut hcut
  exact ⟨h,cut,hcut,hunique,(hok "a=b" "c:=").1 hsplit⟩

end LayeredSettings.Properties
