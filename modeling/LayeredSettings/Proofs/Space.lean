import Mathlib.Data.List.DropRight
import LayeredSettings.Text.Space

/-! What is left of a text when the white space at its ends is gone. -/
namespace LayeredSettings.Text

lemma trimEnd_eq_rdropWhile (cs : List Char) : trimEnd cs = cs.rdropWhile isSpace := rfl

lemma forall_isSpace_trimStart {cs : List Char} :
    (∀ c ∈ trimStart cs, isSpace c) ↔ ∀ c ∈ cs, isSpace c := by
  constructor
  · intro h c hc
    rw [← List.takeWhile_append_dropWhile (p := isSpace) (l := cs)] at hc
    rcases List.mem_append.1 hc with hc | hc
    · exact List.mem_takeWhile_imp hc
    · exact h c hc
  · intro h c hc
    exact h c ((List.dropWhile_suffix isSpace).subset hc)

/-- Nothing is left of a text exactly if it is all white space. -/
theorem trim_eq_nil_iff {cs : List Char} : trim cs = [] ↔ ∀ c ∈ cs, isSpace c := by
  rw [trim, trimEnd_eq_rdropWhile, List.rdropWhile_eq_nil_iff, forall_isSpace_trimStart]

theorem trimmed_eq_empty_iff {text : String} :
    trimmed text = "" ↔ ∀ c ∈ text.toList, isSpace c := by
  rw [← trim_eq_nil_iff, trimmed, ← String.toList_inj, String.toList_ofList, String.toList_empty]

lemma trim_subset (cs : List Char) : trim cs ⊆ cs := by
  intro c hc
  exact (List.dropWhile_suffix isSpace).subset ((List.rdropWhile_prefix isSpace _).subset hc)

lemma trimStart_trimEnd {cs : List Char} (h : trimStart cs = cs) :
    trimStart (trimEnd cs) = trimEnd cs := by
  cases hcs : trimEnd cs with
  | nil => rfl
  | cons c front =>
    have hprefix : c :: front <+: cs := hcs ▸ List.rdropWhile_prefix isSpace cs
    obtain ⟨rest,rfl⟩ := hprefix
    have hc : isSpace c = false := by
      simpa using List.dropWhile_eq_self_iff.1 h (by simp)
    simp [trimStart, hc]

@[simp] theorem trim_trim (cs : List Char) : trim (trim cs) = trim cs := by
  have hstart : trimStart (trimStart cs) = trimStart cs := List.dropWhile_idempotent _ _
  have hend : trimStart (trim cs) = trim cs := trimStart_trimEnd hstart
  calc trim (trim cs) = trimEnd (trim cs) := congrArg trimEnd hend
    _ = trim cs := List.rdropWhile_idempotent _ _

@[simp] theorem trimmed_trimmed (s : String) : trimmed (trimmed s) = trimmed s := by
  simp only [trimmed, String.toList_ofList, trim_trim]

lemma trimEnd_append {rest : List Char} (h : ∀ c ∈ rest, isSpace c) (cs : List Char) :
    trimEnd (cs ++ rest) = trimEnd cs := by
  have hreverse : ∀ c ∈ rest.reverse, isSpace c := fun c hc => h c (List.mem_reverse.1 hc)
  rw [trimEnd, List.reverse_append, List.dropWhile_append_of_pos hreverse]
  rfl

/-- The text ends, and with something else than white space. -/
def EndsVisibly (cs : List Char) : Prop := ∃ front c, cs = front ++ [c] ∧ isSpace c = false

lemma EndsVisibly.append {cs : List Char} (h : EndsVisibly cs) (before : List Char) :
    EndsVisibly (before ++ cs) := by
  obtain ⟨front,c,rfl,hc⟩ := h
  exact ⟨before ++ front,c,(List.append_assoc _ _ _).symm,hc⟩

theorem EndsVisibly.trimEnd_eq {cs : List Char} (h : EndsVisibly cs) : trimEnd cs = cs := by
  obtain ⟨front,c,rfl,hc⟩ := h
  exact List.rdropWhile_concat_neg _ _ _ (by simp [hc])

end LayeredSettings.Text
