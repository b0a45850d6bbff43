import LayeredSettings.Proofs.Registry.Construction
import LayeredSettings.Proofs.Registry.Reaches

/-! Registries whose fields have been let hold anything, also values of other kinds. Such writes
leave the declarations of the fields as they are. -/
namespace LayeredSettings.Registry

/-- Let fields hold values or nothing, one after the other, whatever the kinds. -/
def assignAll (r : Registry) (writes : List (String × Option Value)) : Registry :=
  writes.foldl (fun r write => r.assign write.1 write.2) r

theorem exists_fields_assignAll (r : Registry) (writes : List (String × Option Value)) :
    ∃ held : Field → Option Value,
      (r.assignAll writes).fields = r.fields.map fun f => f.holding (held f) := by
  induction writes using List.reverseRecOn with
  | nil => exact ⟨Field.current,(List.map_id' r.fields).symm⟩
  | append_singleton writes write ih =>
    rw [assignAll, List.foldl_append, List.foldl_cons, List.foldl_nil]
    exact exists_holding_assign ih write.1 write.2

lemma exists_get?_assignAll {r : Registry} {name : String} {f : Field} (hf : r.get? name = some f)
    (writes : List (String × Option Value)) :
    ∃ held, (r.assignAll writes).get? name = some (f.holding held) := by
  obtain ⟨held,hfields⟩ := r.exists_fields_assignAll writes
  refine ⟨held f,?_⟩
  rw [get?_of_fields_eq_map (fun f => f.holding_name (held f)) hfields, hf, Option.map_some]

/-- The defaults of a registry that could be built still have the kinds of their fields. -/
theorem canHold_default_of_assignAll {fields : List Field} {r : Registry}
    (h : ofFields fields = .ok r) (writes : List (String × Option Value)) :
    ∀ f ∈ (r.assignAll writes).fields, f.CanHold f.default := by
  obtain ⟨-,rfl⟩ := exists_enter_of_ofFields h
  obtain ⟨held,hfields⟩ := r.exists_fields_assignAll writes
  intro g hg
  rw [hfields] at hg
  obtain ⟨f,hf,rfl⟩ := List.mem_map.1 hg
  exact (coherent_of_ofFields h).defaults f hf

end LayeredSettings.Registry
