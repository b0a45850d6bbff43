/-! Values under distinct text keys, kept in the order of the keys' code points. The last write to
a key wins, and reading back is by key. -/
namespace LayeredSettings

variable {α : Type}

def insertEntry (key : String) (value : α) : List (String × α) → List (String × α)
  | [] => [(key, value)]
  | (k, v) :: rest =>
    if key < k then (key, value) :: (k, v) :: rest
    else if key = k then (key, value) :: rest
    else (k, v) :: insertEntry key value rest

def KeysIncrease (entries : List (String × α)) : Prop := entries.Pairwise fun a b => a.1 < b.1

instance (entries : List (String × α)) : Decidable (KeysIncrease entries) :=
  inferInstanceAs (Decidable (entries.Pairwise _))

theorem mem_keys_insertEntry {key k : String} {value : α} {entries : List (String × α)} :
    k ∈ (insertEntry key value entries).map (·.1) ↔ k = key ∨ k ∈ entries.map (·.1) := by
  induction entries with
  | nil => simp [insertEntry]
  | cons e rest ih =>
    obtain ⟨k', v⟩ := e
    by_cases h₁ : key < k'
    · simp [insertEntry, h₁]
    · by_cases h₂ : key = k'
      · simp [insertEntry, h₂]
      · simp only [insertEntry, h₁, h₂, if_false, List.map_cons, List.mem_cons, ih]
        grind

theorem keysIncrease_insertEntry {key : String} {value : α} {entries : List (String × α)}
    (h : KeysIncrease entries) : KeysIncrease (insertEntry key value entries) := by
  induction entries with
  | nil => simp [insertEntry, KeysIncrease]
  | cons e rest ih =>
    obtain ⟨k, v⟩ := e
    obtain ⟨hk, hrest⟩ := List.pairwise_cons.1 h
    by_cases h₁ : key < k
    · simp only [insertEntry, h₁, if_true]
      refine List.pairwise_cons.2 ⟨fun b hb => ?_, h⟩
      rcases List.mem_cons.1 hb with rfl | hb
      · exact h₁
      · exact String.lt_trans h₁ (hk b hb)
    · by_cases h₂ : key = k
      · subst h₂
        simp only [insertEntry, h₁, if_false, if_true]
        exact List.pairwise_cons.2 ⟨hk, hrest⟩
      · simp only [insertEntry, h₁, h₂, if_false]
        refine List.pairwise_cons.2 ⟨fun b hb => ?_, ih hrest⟩
        have hmem : b.1 ∈ (insertEntry key value rest).map (·.1) := List.mem_map_of_mem hb
        rcases mem_keys_insertEntry.1 hmem with hb | hb
        · have hle : k ≤ key := String.not_lt.1 h₁
          show k < b.1
          rw [hb]
          exact Decidable.byContradiction fun hn =>
            h₂ (String.le_antisymm (String.not_lt.1 hn) hle)
        · obtain ⟨b', hb', heq⟩ := List.mem_map.1 hb
          show k < b.1
          rw [← heq]
          exact hk b' hb'

/-- Values under distinct keys, in key order. -/
structure Dictionary (α : Type) where
  entries : List (String × α)
  ordered : KeysIncrease entries
  deriving DecidableEq

namespace Dictionary

def empty : Dictionary α := ⟨[], List.Pairwise.nil⟩

def insert (d : Dictionary α) (key : String) (value : α) : Dictionary α :=
  ⟨insertEntry key value d.entries, keysIncrease_insertEntry d.ordered⟩

def get? (d : Dictionary α) (key : String) : Option α := d.entries.lookup key

def size (d : Dictionary α) : Nat := d.entries.length

def isEmpty (d : Dictionary α) : Bool := d.entries.isEmpty

/-- Write the pairs one after the other, so that the last pair of a key wins. -/
def ofList (pairs : List (String × α)) : Dictionary α :=
  pairs.foldl (fun d (k, v) => d.insert k v) empty

@[simp] theorem get?_empty (key : String) : (empty : Dictionary α).get? key = none := rfl

theorem lookup_cons_if (e : String × α) (rest : List (String × α)) (k : String) :
    List.lookup k (e :: rest) = if k = e.1 then some e.2 else List.lookup k rest := by
  rw [List.lookup_cons]
  by_cases h : k = e.1
  · simp [h]
  · simp [h, beq_eq_false_iff_ne.2 h]

theorem lookup_insertEntry (entries : List (String × α)) (key k : String) (value : α) :
    (insertEntry key value entries).lookup k = if k = key then some value else entries.lookup k := by
  induction entries with
  | nil => simp [insertEntry, lookup_cons_if]
  | cons e rest ih =>
    obtain ⟨k', v⟩ := e
    simp only [insertEntry]
    split
    · simp only [lookup_cons_if]
    · split
      · rename_i h
        subst h
        simp only [lookup_cons_if]
        split <;> rfl
      · simp only [lookup_cons_if, ih]
        grind

/-- Reading after a write: the written key has the new value, every other key its old one. -/
theorem get?_insert (d : Dictionary α) (key k : String) (value : α) :
    (d.insert key value).get? k = if k = key then some value else d.get? k :=
  lookup_insertEntry d.entries key k value

end Dictionary

end LayeredSettings
