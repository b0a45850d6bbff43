import Mathlib.Tactic.Common
import LayeredSettings.Text.Parts

/-! A text and its parts: a separator ends one part and starts the next, and no part has one. -/
namespace LayeredSettings.Text

variable {separator : Char} {text before after part : String}

/-- The text is two texts with a separator between. -/
abbrev CutAt (separator : Char) (text before after : String) : Prop :=
  text.toList = before.toList ++ separator :: after.toList

theorem CutAt.parts_eq (h : CutAt separator text before after) :
    parts separator text = parts separator before ++ parts separator after := by
  rw [parts, h, List.splitOn_append_cons_self, List.map_append, parts, parts]

theorem parts_of_not_mem (h : separator ∉ text.toList) : parts separator text = [text] := by
  rw [parts, List.splitOn_eq_singleton h, List.map_singleton, String.ofList_toList]

/-- What holds of texts without separators, and of a text that is cut as soon as it holds of what is
before and after, holds of every text. -/
theorem parts_induction {motive : String → Prop} (separator : Char)
    (plain : ∀ text, separator ∉ text.toList → motive text)
    (cut : ∀ text before after, CutAt separator text before after → motive before →
      motive after → motive text) (text : String) : motive text := by
  by_cases h : separator ∈ text.toList
  · obtain ⟨before,after,hcut,hbefore⟩ := List.eq_append_cons_of_mem h
    have hplain : motive (String.ofList before) := plain _ (by simpa using hbefore)
    exact cut text (String.ofList before) (String.ofList after) (by simpa [CutAt] using hcut) hplain
      (parts_induction separator plain cut (String.ofList after))
  · exact plain text h
termination_by text.toList.length
decreasing_by
  rw [hcut, String.toList_ofList, List.length_append, List.length_cons]
  omega

theorem not_mem_of_mem_parts (h : part ∈ parts separator text) : separator ∉ part.toList := by
  induction text using parts_induction separator with
  | plain text htext =>
    rw [parts_of_not_mem htext] at h
    exact List.mem_singleton.1 h ▸ htext
  | cut text before after hcut ihbefore ihafter =>
    rw [hcut.parts_eq] at h
    exact (List.mem_append.1 h).elim ihbefore ihafter

theorem eq_or_exists_mem_parts (separator : Char) {c : Char} (h : c ∈ text.toList) :
    c = separator ∨ ∃ part ∈ parts separator text, c ∈ part.toList := by
  induction text using parts_induction separator with
  | plain text htext =>
    rw [parts_of_not_mem htext]
    exact .inr ⟨text,List.mem_singleton_self text,h⟩
  | cut text before after hcut ihbefore ihafter =>
    rw [hcut.parts_eq]
    rw [hcut, List.mem_append, List.mem_cons] at h
    rcases h with h | h | h
    · refine (ihbefore h).imp_right fun ⟨part,hpart,hc⟩ => ?_
      exact ⟨part,List.mem_append_left _ hpart,hc⟩
    · exact .inl h
    · refine (ihafter h).imp_right fun ⟨part,hpart,hc⟩ => ?_
      exact ⟨part,List.mem_append_right _ hpart,hc⟩

/-- Texts without separators are the parts of what they are joined to. -/
theorem parts_intercalate {texts : List String} (hne : texts ≠ [])
    (h : ∀ part ∈ texts, separator ∉ part.toList) :
    parts separator (String.intercalate (String.singleton separator) texts) = texts := by
  have hsplit : ([separator].intercalate (texts.map String.toList)).splitOn separator =
      texts.map String.toList :=
    List.splitOn_intercalate separator (by simpa using h) (by simpa using hne)
  rw [parts, String.toList_intercalate, String.toList_singleton, hsplit, List.map_map]
  simp [Function.comp_def]

end LayeredSettings.Text
