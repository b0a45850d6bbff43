import LayeredSettings.Dictionary
import LayeredSettings.Field

/-! The table of fields of one run. The fields stand in order and an index tells where each name
stands, so names are distinct and a field is found by its name. Kinds, defaults and order never
change, only current values do. -/
namespace LayeredSettings

/-- An index tells of every name in a list where it stands, and knows no other name. -/
def Indexes (index : Dictionary Nat) (names : List String) : Prop :=
  ∀ name i, index.get? name = some i ↔ names[i]? = some name

theorem indexes_empty : Indexes .empty [] := by simp [Indexes]

/-- A name that is new can be entered at the end. -/
theorem Indexes.insert {index : Dictionary Nat} {names : List String} (h : Indexes index names)
    {name : String} (hn : index.get? name = none) :
    Indexes (index.insert name names.length) (names ++ [name]) := by
  intro other i
  have hfresh : names[i]? ≠ some name := by
    rw [Ne, ← h name i, hn]
    simp
  rw [Dictionary.get?_insert, List.getElem?_append]
  by_cases hi : i < names.length
  · by_cases ho : other = name
    · simp only [ho, hi, if_true, hfresh, iff_false, Option.some.injEq]
      omega
    · simp only [ho, hi, if_true, if_false, h other i]
  · have hnone : names[i]? = none := List.getElem?_eq_none (Nat.le_of_not_lt hi)
    by_cases ho : other = name
    · simp only [ho, hi, if_true, if_false, List.getElem?_singleton, Option.some.injEq]
      split <;> simp <;> omega
    · simp only [ho, hi, if_false, h other i, hnone, List.getElem?_singleton]
      split <;> simp [Ne.symm ho]

/-- Fields in order, and where the field of each name stands. -/
structure Registry where
  fields : List Field
  index : Dictionary Nat
  indexed : Indexes index (fields.map (·.name))

namespace Registry

/-- Enter the names of fields in an index, from position `i` on, up to the first fault: a name that
is taken, or a default of the wrong kind. -/
def enter (index : Dictionary Nat) (i : Nat) : List Field → Except ConfigError (Dictionary Nat)
  | [] => .ok index
  | f :: rest =>
    match index.get? f.name with
    | some _ => .error (.duplicateField f.name)
    | none =>
      match f.default.map f.checkType with
      | some (.error e) => .error e
      | _ => enter (index.insert f.name i) (i + 1) rest

theorem indexes_of_enter {index result : Dictionary Nat} {names : List String} {fields : List Field}
    (h : Indexes index names) (he : enter index names.length fields = .ok result) :
    Indexes result (names ++ fields.map (·.name)) := by
  induction fields generalizing index names with
  | nil =>
    cases he
    simpa using h
  | cons f rest ih =>
    simp only [enter] at he
    split at he
    · cases he
    · rename_i hn
      split at he
      · cases he
      · have hrest := ih (h.insert hn) (by simpa using he)
        simpa using hrest

/-- Build a registry, unless a name is repeated or a default has the wrong kind. -/
def ofFields (fields : List Field) : Except ConfigError Registry :=
  match h : enter .empty 0 fields with
  | .error e => .error e
  | .ok index => .ok ⟨fields, index, indexes_of_enter indexes_empty h⟩

def standard : Registry where
  fields := Field.baseTable ++ Field.configurableTable
  index := .ofList ((Field.baseTable ++ Field.configurableTable).map (·.name)).zipIdx
  indexed := @indexes_of_enter .empty _ [] (Field.baseTable ++ Field.configurableTable)
    indexes_empty rfl

theorem ofFields_standard : ofFields (Field.baseTable ++ Field.configurableTable) = .ok standard :=
  rfl

def names (r : Registry) : List String := r.fields.map (·.name)

def get? (r : Registry) (name : String) : Option Field :=
  (r.index.get? name).bind fun i => r.fields[i]?

def lookup (r : Registry) (name : String) : Except ConfigError Field :=
  match r.get? name with
  | some f => .ok f
  | none => .error (.unknownField name)

theorem map_name_modify {fields : List Field} (i : Nat) {change : Field → Field}
    (h : ∀ f, (change f).name = f.name) :
    (fields.modify i change).map (·.name) = fields.map (·.name) := by
  apply List.ext_getElem?
  intro j
  simp only [List.getElem?_map, List.getElem?_modify]
  cases fields[j]? with
  | none => rfl
  | some f => by_cases hj : i = j <;> simp [hj, h]

/-- Change what the field of the name holds and defaults to. -/
def write (r : Registry) (name : String) (current default : Option Value → Option Value) :
    Registry :=
  match r.index.get? name with
  | none => r
  | some i =>
    { r with
      fields := r.fields.modify i fun f =>
        { f with current := current f.current, default := default f.default }
      indexed := by
        rw [map_name_modify]
        · exact r.indexed
        · exact fun _ => rfl }

/-- Let the field of the name hold a value, whatever its kind. -/
def assign (r : Registry) (name : String) (value : Option Value) : Registry :=
  r.write name (fun _ => value) id

/-- Replace the default of the field of the name, whatever its kind. -/
def assignDefault (r : Registry) (name : String) (value : Option Value) : Registry :=
  r.write name id fun _ => value

@[simp] theorem index_write (r : Registry) (name : String) (current default) :
    (r.write name current default).index = r.index := by
  unfold write
  split <;> rfl

/-- Store a value on behalf of the host, after checking its kind. -/
def set (r : Registry) (name : String) (value : Value) : Except ConfigError Registry := do
  let f ← r.lookup name
  f.checkType value
  return r.assign name (some value)

def unset (r : Registry) (name : String) : Except ConfigError Registry := do
  let _ ← r.lookup name
  return r.assign name none

def text (r : Registry) (name : String) : Except ConfigError (Option String) := do
  let f ← r.lookup name
  match f.current with
  | none => return none
  | some (.text s) => return some s
  | some other => .error (.fieldAccess name ("expected text, found " ++ other.kind.name))

/-- What a boolean field holds; `false` when it holds nothing. -/
def flag (r : Registry) (name : String) : Except ConfigError Bool := do
  let f ← r.lookup name
  match f.current with
  | none => return false
  | some (.bool b) => return b
  | some other => .error (.fieldAccess name ("expected boolean, found " ++ other.kind.name))

def state (r : Registry) : List (String × Option Value) :=
  r.fields.map fun f => (f.name, f.current)

end Registry

end LayeredSettings
