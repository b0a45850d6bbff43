import Mathlib.Data.List.Nodup
import Mathlib.Tactic.Common
import LayeredSettings.Registry
import LayeredSettings.Proofs.Dictionary

/-! Reading a registry by name, and what a write leaves behind. The index tells one place for every
name, so a map over the fields that keeps names acts on `get?` name by name. -/
namespace LayeredSettings

namespace Field

/-- The field with something else in it. -/
def holding (f : Field) (held : Option Value) : Field := { f with current := held }

@[simp] theorem holding_name (f : Field) (held : Option Value) :
    (f.holding held).name = f.name := rfl

@[simp] theorem holding_kind (f : Field) (held : Option Value) :
    (f.holding held).kind = f.kind := rfl

@[simp] theorem holding_default (f : Field) (held : Option Value) :
    (f.holding held).default = f.default := rfl

@[simp] theorem holding_current (f : Field) (held : Option Value) :
    (f.holding held).current = held := rfl

@[simp] theorem holding_holding (f : Field) (held later : Option Value) :
    (f.holding held).holding later = f.holding later := rfl

@[simp] theorem holding_self (f : Field) : f.holding f.current = f := rfl

end Field

namespace Registry

/-- No name stands in two places, for the index tells one place only. -/
theorem distinct (r : Registry) : (r.fields.map (·.name)).Nodup := by
  rw [List.nodup_iff_getElem?_ne_getElem?]
  intro i j hij hj he
  have hsome := List.getElem?_eq_getElem hj
  have hi := (r.indexed _ i).2 (he.trans hsome)
  have hj' := (r.indexed _ j).2 hsome
  rw [hi, Option.some.injEq] at hj'
  omega

/-- Registries are told by their fields, for these leave the index no choice. -/
theorem eq_of_fields_eq {r s : Registry} (h : r.fields = s.fields) : r = s := by
  obtain ⟨fields,⟨entries,ordered⟩,hr⟩ := r
  obtain ⟨_,⟨entries',ordered'⟩,hs⟩ := s
  obtain rfl : fields = _ := h
  have hentries : entries = entries' := by
    refine keysIncrease_ext ordered ordered' fun name => Option.ext fun i => ?_
    exact (hr name i).trans (hs name i).symm
  subst hentries
  rfl

/-- The index leads to the fields of a name, and only to these. -/
theorem get?_eq_some_iff {r : Registry} {name : String} {f : Field} :
    r.get? name = some f ↔ f ∈ r.fields ∧ f.name = name := by
  rw [get?, Option.bind_eq_some_iff]
  constructor
  · rintro ⟨i,hi,hf⟩
    have hname := (r.indexed name i).1 hi
    rw [List.getElem?_map, hf] at hname
    exact ⟨List.mem_of_getElem? hf,Option.some.inj hname⟩
  · rintro ⟨hf,rfl⟩
    obtain ⟨i,hi⟩ := List.mem_iff_getElem?.1 hf
    exact ⟨i,(r.indexed f.name i).2 (by rw [List.getElem?_map, hi]; rfl),hi⟩

theorem get?_eq_none_iff {r : Registry} {name : String} :
    r.get? name = none ↔ name ∉ r.names := by
  rw [Option.eq_none_iff_forall_ne_some, names]
  simp only [ne_eq, get?_eq_some_iff, not_and, List.mem_map, not_exists]

lemma mem_names_of_get? {r : Registry} {name : String} {f : Field} (h : r.get? name = some f) :
    name ∈ r.names := by
  by_contra hn
  rw [get?_eq_none_iff.2 hn] at h
  cases h

/-- The index leads to what a search through the fields finds. -/
theorem get?_eq_find? (r : Registry) (name : String) :
    r.get? name = r.fields.find? (·.name = name) := by
  cases h : r.fields.find? (·.name = name) with
  | none =>
    rw [get?_eq_none_iff, names]
    simpa using h
  | some f =>
    exact get?_eq_some_iff.2 ⟨List.mem_of_find?_eq_some h,by simpa using List.find?_some h⟩

lemma get?_name {r : Registry} {f : Field} (h : f ∈ r.fields) : r.get? f.name = some f :=
  get?_eq_some_iff.2 ⟨h,rfl⟩

lemma name_of_get? {r : Registry} {name : String} {f : Field} (h : r.get? name = some f) :
    f.name = name := (get?_eq_some_iff.1 h).2

/-- A change of the fields that keeps their names is a change of what each name leads to. -/
theorem get?_of_fields_eq_map {r s : Registry} {g : Field → Field} (hg : ∀ f, (g f).name = f.name)
    (h : s.fields = r.fields.map g) (name : String) : s.get? name = (r.get? name).map g := by
  ext f
  rw [get?_eq_some_iff, h, List.mem_map, Option.map_eq_some_iff]
  simp only [get?_eq_some_iff]
  constructor
  · rintro ⟨⟨f,hf,rfl⟩,hn⟩
    exact ⟨f,⟨hf,(hg f).symm.trans hn⟩,rfl⟩
  · rintro ⟨f,⟨hf,hn⟩,rfl⟩
    exact ⟨⟨f,hf,rfl⟩,(hg f).trans hn⟩

lemma lookup_of_get? {r : Registry} {name : String} {f : Field} (h : r.get? name = some f) :
    r.lookup name = .ok f := by simp [lookup, h]

lemma lookup_of_get?_none {r : Registry} {name : String} (h : r.get? name = none) :
    r.lookup name = .error (.unknownField name) := by simp [lookup, h]

lemma lookup_eq_ok_iff {r : Registry} {name : String} {f : Field} :
    r.lookup name = .ok f ↔ r.get? name = some f := by
  unfold lookup
  cases r.get? name with
  | none => simp
  | some g => simp

/-- A change at a position is a change of the fields whose name stands there. -/
lemma modify_eq_map {r : Registry} {name : String} {i : Nat} (hi : r.index.get? name = some i)
    (change : Field → Field) :
    r.fields.modify i change = r.fields.map fun f => if f.name = name then change f else f := by
  apply List.ext_getElem?
  intro j
  rw [List.getElem?_modify, List.getElem?_map]
  cases hj : r.fields[j]? with
  | none => rfl
  | some f =>
    have hiff : f.name = name ↔ i = j := by
      have hname := r.indexed name j
      rw [hi, List.getElem?_map, hj, Option.map_some, Option.some.injEq, Option.some.injEq] at hname
      exact hname.symm
    by_cases h : i = j <;> simp [hiff, h]

@[simp] theorem fields_assign (r : Registry) (name : String) (value : Option Value) :
    (r.assign name value).fields =
      r.fields.map fun f => if f.name = name then f.holding value else f := by
  unfold assign write
  split
  · rename_i h
    have hname : name ∉ r.names := get?_eq_none_iff.1 (by rw [get?, h, Option.bind_none])
    have hsame : ∀ f ∈ r.fields, (if f.name = name then f.holding value else f) = f := by
      intro f hf
      exact if_neg fun hn : f.name = name => hname (hn ▸ List.mem_map_of_mem hf)
    rw [List.map_congr_left hsame, List.map_id']
  · rename_i i h
    exact modify_eq_map h _

/-- Where only what the fields hold has changed, it stays so when another field is written. -/
theorem exists_holding_assign {r s : Registry}
    (h : ∃ held : Field → Option Value, s.fields = r.fields.map fun f => f.holding (held f))
    (name : String) (value : Option Value) :
    ∃ held : Field → Option Value,
      (s.assign name value).fields = r.fields.map fun f => f.holding (held f) := by
  obtain ⟨held,hs⟩ := h
  refine ⟨fun f => if f.name = name then value else held f,?_⟩
  rw [fields_assign, hs, List.map_map]
  refine List.map_congr_left fun f _ => ?_
  by_cases hn : f.name = name <;> simp [hn]

@[simp] theorem index_assign (r : Registry) (name : String) (value : Option Value) :
    (r.assign name value).index = r.index := index_write r name _ _

theorem set_of_kind {r : Registry} {name : String} {f : Field} {value : Value}
    (h : r.get? name = some f) (hk : value.kind = f.kind) :
    r.set name value = .ok (r.assign name (some value)) := by
  have hc : f.checkType value = .ok () := (f.checkType_eq_ok_iff value).2 hk
  simp only [set, lookup_of_get? h, bind, Except.bind, hc]
  rfl

theorem set_of_unknown {r : Registry} {name : String} {value : Value} (h : r.get? name = none) :
    r.set name value = .error (.unknownField name) := by
  simp only [set, lookup_of_get?_none h]
  rfl

theorem text_of_get? {r : Registry} {name : String} {f : Field} (h : r.get? name = some f) :
    r.text name = match f.current with
      | none => .ok none
      | some (.text s) => .ok (some s)
      | some other => .error (.fieldAccess name ("expected text, found " ++ other.kind.name)) := by
  simp only [text, lookup_of_get? h]
  rfl

theorem flag_of_get? {r : Registry} {name : String} {f : Field} (h : r.get? name = some f) :
    r.flag name = match f.current with
      | none => .ok false
      | some (.bool b) => .ok b
      | some other =>
        .error (.fieldAccess name ("expected boolean, found " ++ other.kind.name)) := by
  simp only [flag, lookup_of_get? h]
  rfl

end Registry

end LayeredSettings
