import Mathlib.Tactic.Common
import LayeredSettings.Parameter
import LayeredSettings.Proofs.Registry.Access

/-! Parameters as values of fields: a field passes over null, refuses what is no value of its kind,
and takes everything else as a value of its kind, whatever it holds. -/
namespace LayeredSettings

/-- A value without parts. -/
inductive Scalar where
  | string (s : String)
  | number (n : Number)
  | bool (b : Bool)

namespace Scalar

def toJson : Scalar → Json
  | string s => .string s
  | number n => .number n
  | bool b => .bool b

def text : Scalar → String
  | string s => s
  | number n => n.text
  | bool b => if b then "true" else "false"

end Scalar

namespace Json

/-- What cannot be an item of a list. -/
inductive Unlistable : Json → Prop
  | null : Unlistable .null
  | array (items : List Json) : Unlistable (.array items)
  | object (members : List (String × Json)) : Unlistable (.object members)

/-- A value that is none of a kind. -/
inductive Misfit : Kind → Json → Prop
  | number (n : Number) : Misfit .boolean (.number n)
  | list (items : List Json) : Misfit .boolean (.array items)
  | flag (b : Bool) : Misfit .text (.bool b)
  | item {items : List Json} {item : Json} (mem : item ∈ items) (h : item.Unlistable) :
      Misfit .text (.array items)
  | object (kind : Kind) (members : List (String × Json)) : Misfit kind (.object members)

theorem unlistable_or_scalar (item : Json) :
    item.Unlistable ∨ ∃ scalar : Scalar, item = scalar.toJson := by
  cases item with
  | null => exact .inl .null
  | array items => exact .inl (.array items)
  | object members => exact .inl (.object members)
  | string s => exact .inr ⟨.string s,rfl⟩
  | number n => exact .inr ⟨.number n,rfl⟩
  | bool b => exact .inr ⟨.bool b,rfl⟩

lemma Unlistable.ne_toJson {item : Json} (h : item.Unlistable) (scalar : Scalar) :
    item ≠ scalar.toJson := by
  rintro rfl
  cases scalar <;> cases h

/-- A list has something in it that is no item, or consists of scalars. -/
theorem exists_unlistable_or_scalars (items : List Json) :
    (∃ item ∈ items, item.Unlistable) ∨
      ∃ scalars : List Scalar, items = scalars.map Scalar.toJson := by
  induction items with
  | nil => exact .inr ⟨[],rfl⟩
  | cons first rest ih =>
    rcases first.unlistable_or_scalar with hfirst | ⟨scalar,rfl⟩
    · exact .inl ⟨first,List.mem_cons_self,hfirst⟩
    · rcases ih with ⟨item,hi,hu⟩ | ⟨scalars,rfl⟩
      · exact .inl ⟨item,List.mem_cons_of_mem _ hi,hu⟩
      · exact .inr ⟨scalar :: scalars,rfl⟩

lemma not_misfit_null (kind : Kind) : ¬ Misfit kind .null := nofun

lemma not_misfit_string (kind : Kind) (s : String) : ¬ Misfit kind (.string s) := nofun

lemma not_misfit_scalars (scalars : List Scalar) :
    ¬ Misfit .text (.array (scalars.map Scalar.toJson)) := by
  intro h
  cases h with
  | item mem h =>
    obtain ⟨scalar,-,rfl⟩ := List.mem_map.1 mem
    exact h.ne_toJson scalar rfl

end Json

namespace Field

open Json (Misfit)

variable {f : Field}

lemma itemText_toJson (f : Field) (scalar : Scalar) :
    f.itemText scalar.toJson = .ok scalar.text := by cases scalar <;> rfl

theorem itemTexts_toJson (f : Field) (scalars : List Scalar) :
    f.itemTexts (scalars.map Scalar.toJson) = .ok (scalars.map Scalar.text) := by
  induction scalars with
  | nil => rfl
  | cons scalar rest ih =>
    simp only [List.map_cons, itemTexts, itemText_toJson, ih]
    rfl

/-- What is no item stops the reading of a list, wherever it stands. -/
theorem itemTexts_of_unlistable (f : Field) {items : List Json} {item : Json} (hi : item ∈ items)
    (hu : item.Unlistable) : ∃ reason, f.itemTexts items = .error (.fieldAccess f.name reason) := by
  induction items with
  | nil => cases hi
  | cons first rest ih =>
    rcases first.unlistable_or_scalar with hfirst | ⟨scalar,rfl⟩
    · cases hfirst <;> exact ⟨_,rfl⟩
    · rcases List.mem_cons.1 hi with rfl | hi
      · exact absurd rfl (hu.ne_toJson scalar)
      · obtain ⟨reason,hr⟩ := ih hi
        refine ⟨reason,?_⟩
        simp only [itemTexts, itemText_toJson, hr]
        rfl

theorem valueFor_scalars (hk : f.kind = .text) (scalars : List Scalar) :
    f.valueFor (.array (scalars.map Scalar.toJson)) =
      .ok (some (.text (String.intercalate "," (scalars.map Scalar.text)))) := by
  simp only [valueFor, hk, itemTexts_toJson]
  rfl

lemma valueFor_of_unlistable (hk : f.kind = .text) {items : List Json} {item : Json}
    (hi : item ∈ items) (hu : item.Unlistable) :
    ∃ reason, f.valueFor (.array items) = .error (.fieldAccess f.name reason) := by
  obtain ⟨reason,hr⟩ := f.itemTexts_of_unlistable hi hu
  refine ⟨reason,?_⟩
  simp only [valueFor, hk, hr]
  rfl

/-- Null is passed over, what is no value of the field's kind is refused under the field's name, and
everything else becomes a value of the kind. -/
theorem valueFor_cases (f : Field) (item : Json) :
    item = .null ∧ f.valueFor item = .ok none ∨
    Misfit f.kind item ∧ (∃ reason, f.valueFor item = .error (.fieldAccess f.name reason)) ∨
    item ≠ .null ∧ ¬ Misfit f.kind item ∧
      ∃ value, f.valueFor item = .ok (some value) ∧ value.kind = f.kind := by
  cases item with
  | null => exact .inl ⟨rfl,by simp only [valueFor]⟩
  | string s =>
    have hvalue : f.valueFor (.string s) = .ok (some (coerce f.kind s)) := by
      cases hk : f.kind <;> simp only [valueFor, hk]
    exact .inr (.inr ⟨nofun,Json.not_misfit_string f.kind s,_,hvalue,kind_coerce f.kind s⟩)
  | object members =>
    have hrefused : ∃ reason, f.valueFor (.object members) =
        .error (.fieldAccess f.name reason) := by
      cases hk : f.kind <;> simp only [valueFor, hk] <;> exact ⟨_,rfl⟩
    exact .inr (.inl ⟨.object f.kind members,hrefused⟩)
  | bool b =>
    cases hk : f.kind with
    | boolean => exact .inr (.inr ⟨nofun,nofun,.bool b,by simp only [valueFor, hk],rfl⟩)
    | text => exact .inr (.inl ⟨.flag b,_,by simp only [valueFor, hk]; rfl⟩)
  | number n =>
    cases hk : f.kind with
    | boolean => exact .inr (.inl ⟨.number n,_,by simp only [valueFor, hk]; rfl⟩)
    | text => exact .inr (.inr ⟨nofun,nofun,.text n.text,by simp only [valueFor, hk],rfl⟩)
  | array items =>
    cases hk : f.kind with
    | boolean => exact .inr (.inl ⟨.list items,_,by simp only [valueFor, hk]; rfl⟩)
    | text =>
      rcases Json.exists_unlistable_or_scalars items with ⟨item,hi,hu⟩ | ⟨scalars,rfl⟩
      · exact .inr (.inl ⟨.item hi hu,valueFor_of_unlistable hk hi hu⟩)
      · exact .inr (.inr ⟨nofun,Json.not_misfit_scalars scalars,_,valueFor_scalars hk scalars,rfl⟩)

theorem kind_of_valueFor {item : Json} {value : Value} (h : f.valueFor item = .ok (some value)) :
    value.kind = f.kind := by
  rcases f.valueFor_cases item with ⟨-,hnone⟩ | ⟨-,reason,herr⟩ | ⟨-,-,value',hvalue,hk⟩
  · rw [hnone] at h
    cases h
  · rw [herr] at h
    cases h
  · obtain rfl := Option.some.inj (Except.ok.inj (hvalue.symm.trans h))
    exact hk

theorem eq_fieldAccess_of_valueFor {item : Json} {e : ConfigError} (h : f.valueFor item = .error e) :
    ∃ reason, e = .fieldAccess f.name reason := by
  rcases f.valueFor_cases item with ⟨-,hnone⟩ | ⟨-,reason,herr⟩ | ⟨-,-,value,hvalue,-⟩
  · rw [hnone] at h
    cases h
  · exact ⟨reason,Except.error.inj (h.symm.trans herr)⟩
  · rw [hvalue] at h
    cases h

theorem valueFor_eq_none_iff {item : Json} : f.valueFor item = .ok none ↔ item = .null := by
  rcases f.valueFor_cases item with ⟨h,hnone⟩ | ⟨hm,reason,herr⟩ | ⟨h,-,value,hvalue,-⟩
  · exact iff_of_true hnone h
  · refine iff_of_false (by simp [herr]) ?_
    rintro rfl
    exact Json.not_misfit_null f.kind hm
  · exact iff_of_false (by simp [hvalue]) h

theorem valueFor_eq_error_iff {item : Json} :
    (∃ e, f.valueFor item = .error e) ↔ Misfit f.kind item := by
  rcases f.valueFor_cases item with ⟨rfl,hnone⟩ | ⟨hm,reason,herr⟩ | ⟨-,hm,value,hvalue,-⟩
  · exact iff_of_false (by simp [hnone]) (Json.not_misfit_null f.kind)
  · exact iff_of_true ⟨_,herr⟩ hm
  · exact iff_of_false (by simp [hvalue]) hm

lemma itemTexts_hold (f : Field) (held : Option Value) (items : List Json) :
    (f.holding held).itemTexts items = f.itemTexts items := by
  induction items with
  | nil => rfl
  | cons item rest ih =>
    have hi : (f.holding held).itemText item = f.itemText item := by cases item <;> rfl
    simp only [itemTexts, ih, hi]

theorem valueFor_hold (f : Field) (held : Option Value) (item : Json) :
    (f.holding held).valueFor item = f.valueFor item := by
  simp only [valueFor, itemTexts_hold, holding_kind, holding_name]

end Field

end LayeredSettings
