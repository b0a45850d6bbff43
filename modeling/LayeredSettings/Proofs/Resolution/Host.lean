import LayeredSettings.Proofs.Rules

/-! What the host gives to each field. Its stages run one after the other over the whole registry;
field by field the strongest stage that has something decides. -/
namespace LayeredSettings

namespace Rule

theorem parameter_value (item : Json) (f : Field) :
    parameter.value item f = (f.valueFor item).toOption.join := by
  cases h : f.valueFor item <;> simp [value, parameter, h, Except.toOption]

theorem raw_value (text : String) (f : Field) : raw.value text f = some (coerce f.kind text) := rfl

theorem raw_hold (items : List (String × String)) (f : Field) :
    raw.hold items f = ((items.reverse.lookup f.name).map (coerce f.kind)).or f.current := by
  induction items using List.reverseRecOn with
  | nil => rfl
  | append_singleton items entry ih =>
    rw [hold_append_singleton, ih, List.reverse_append, List.reverse_singleton,
      List.singleton_append, Dictionary.lookup_cons_if]
    by_cases h : entry.1 = f.name
    · simp [h, raw_value]
    · simp [h, Ne.symm h]

/-- Raw texts for other fields apart, a field takes the last text given to it. -/
theorem raw_supply (items : List (String × String)) (f : Field) (held : Option Value) :
    raw.supply items (f.holding held) =
      f.holding (((items.reverse.lookup f.name).map (coerce f.kind)).or held) := by
  rw [supply, raw_hold]
  rfl

/-- One text at most is found for each field. -/
theorem raw_supply_of_nodup {items : List (String × String)} (hn : (items.map (·.1)).Nodup)
    (f : Field) (held : Option Value) :
    raw.supply items (f.holding held) =
      f.holding (((items.lookup f.name).map (coerce f.kind)).or held) := by
  rw [supply, hold_of_nodup _ hn, Field.holding_name]
  cases items.lookup f.name <;> rfl

theorem parameter_supply (parameters : Dictionary Json) (f : Field) :
    parameter.supply parameters.entries f =
      f.holding (((parameters.get? f.name).bind fun item =>
        (f.valueFor item).toOption.join).or f.current) := by
  rw [supply, hold_of_nodup _ (nodup_keys parameters.ordered)]
  simp only [parameter_value]
  rfl

theorem typed_supply {items : List (String × Value)} (hn : (items.map (·.1)).Nodup) {f : Field}
    (hk : ∀ v, items.lookup f.name = some v → v.kind = f.kind) (held : Option Value) :
    typed.supply items (f.holding held) = f.holding ((items.lookup f.name).or held) := by
  rw [supply, hold_of_nodup _ hn, Field.holding_name]
  cases h : items.lookup f.name with
  | none => rfl
  | some v =>
    have hv : typed.value v (f.holding held) = some v := by
      simp [value, typed, Logged.quiet, Field.checkType, hk v h, Except.map]
    simp [hv]

end Rule

namespace Registry

lemma names_of_fields_eq_map {r s : Registry} {g : Field → Field} (hg : ∀ f, (g f).name = f.name)
    (h : s.fields = r.fields.map g) : s.names = r.names := by
  simp only [names, h, List.map_map]
  exact List.map_congr_left fun f _ => hg f

/-- Looking up a name among those that a partial map has values for is asking the map. -/
lemma lookup_filterMap_graph {β : Type} (values : String → Option β) (names : List String)
    (name : String) : (names.filterMap fun n => (values n).map fun v => (n,v)).lookup name =
      if name ∈ names then values name else none := by
  induction names with
  | nil => rfl
  | cons first rest ih =>
    rw [List.filterMap_cons]
    by_cases h : name = first
    · subst h
      cases hv : values name with
      | some v => simp
      | none => simp [ih, hv]
    · cases hv : values first with
      | some v => simp [Dictionary.lookup_cons_if, ih, h]
      | none => simp [ih, h]

/-- A field's override is what its variable holds. -/
theorem lookup_overrides (env : Environment) {r : Registry} {f : Field} (hf : f ∈ r.fields) :
    (r.overrides env).lookup f.name = env (VariableName.ofField f.name) := by
  have hn : f.name ∈ r.names := List.mem_map_of_mem hf
  rw [overrides, lookup_filterMap_graph, if_pos hn]

/-- Every name is among the pairs of a partial map once at most. -/
lemma nodup_filterMap_graph {β : Type} (values : String → Option β) {names : List String}
    (h : names.Nodup) :
    ((names.filterMap fun n => (values n).map fun v => (n,v)).map (·.1)).Nodup := by
  refine List.Sublist.nodup ?_ h
  induction names with
  | nil => simp
  | cons first rest ih =>
    rw [List.filterMap_cons]
    have hrest := ih h.of_cons
    cases values first with
    | none => exact hrest.cons first
    | some v => exact hrest.cons_cons first

lemma nodup_overrides (env : Environment) (r : Registry) :
    ((r.overrides env).map (·.1)).Nodup := nodup_filterMap_graph _ r.distinct

theorem fields_of_injectParameters_ok {parameters : Dictionary Json} {r : Registry}
    (h : (r.injectParameters parameters).result = .ok ()) :
    (r.injectParameters parameters).registry.fields =
      r.fields.map (Rule.parameter.supply parameters.entries) := by
  rw [injectParameters, injectEntries_eq_offerAll] at h ⊢
  exact fields_of_offerAll_ok (Rule.parameter_steady _) h

theorem fields_of_injectRaw_ok {assignments : List (String × String)} {r : Registry}
    (h : (r.injectRaw assignments).result = .ok ()) :
    (r.injectRaw assignments).registry.fields = r.fields.map (Rule.raw.supply assignments) := by
  rw [injectRaw_eq_offerAll] at h ⊢
  exact fields_of_offerAll_ok (Rule.raw_steady _) h

theorem fields_of_setAll_ok {values : List (String × Value)} {r : Registry}
    (h : (r.setAll values).result = .ok ()) :
    (r.setAll values).registry.fields = r.fields.map (Rule.typed.supply values) := by
  rw [setAll_eq_offerAll] at h ⊢
  exact fields_of_offerAll_ok (Rule.typed_steady _) h

theorem fields_of_applyEnvironment_ok {env : Environment} {r : Registry} {found : List String}
    (h : (r.applyEnvironment env).result = .ok found) :
    (r.applyEnvironment env).registry.fields =
      r.fields.map (Rule.raw.supply (r.overrides env)) := by
  unfold applyEnvironment at h ⊢
  simp only [Outcome.after_result, Outcome.after_registry] at h ⊢
  cases hr : (r.injectRaw (r.overrides env)).result with
  | error e => simp [Outcome.andThen_of_error hr, Outcome.failed] at h
  | ok value =>
    rw [Outcome.andThen_of_ok hr]
    exact fields_of_injectRaw_ok hr

end Registry

namespace Request

/-- What the host gives to a field: of its assignment, its flag, its variable, its parameter and its
default the first that is there. Of several assignments the last one counts. -/
def hostValue (q : Request) (parameters : Dictionary Json) (env : Environment) (f : Field) :
    Option Value :=
  ((q.assignments.reverse.lookup f.name).map (coerce f.kind)).or <|
  (q.flags.lookup f.name).or <|
  ((env (VariableName.ofField f.name)).map (coerce f.kind)).or <|
  ((parameters.get? f.name).bind fun parameter => (f.valueFor parameter).toOption.join).or f.default

/-- The registry that the host leaves behind holds what the host gives, field by field. -/
abbrev HostLeaves (q : Request) (parameters : Dictionary Json) (env : Environment)
    (r : Registry) : Prop :=
  r.fields = Registry.standard.fields.map fun f => f.holding (q.hostValue parameters env f)

/-- The value that a flag gives to the field of a name. -/
def flag? (q : Request) : String → Option Value
  | "changeLogFile" => q.changeLogFile.map .text
  | "dropFirst" => q.dropFirst.map .bool
  | "contexts" => q.contexts.map .text
  | "propertiesFile" => q.propertiesFile.map .text
  | "propertyFileWillOverride" => q.propertiesOverride.map .bool
  | "driver" => q.driver.map .text
  | "url" => q.url.map .text
  | "username" => q.username.map .text
  | "password" => q.password.map .text
  | "promptOnNonLocalDatabase" => q.promptOnNonLocalDatabase.map .bool
  | _ => none

def flagNames : List String :=
  ["changeLogFile", "dropFirst", "contexts", "propertiesFile", "propertyFileWillOverride", "driver",
    "url", "username", "password", "promptOnNonLocalDatabase"]

lemma flags_eq_filterMap (q : Request) :
    q.flags = flagNames.filterMap fun name => (q.flag? name).map fun v => (name,v) := by
  simp only [flags, flagNames, flag?, List.filterMap_cons, List.filterMap_nil, Option.map_map,
    Function.comp_def, id]

lemma nodup_flags (q : Request) : (q.flags.map (·.1)).Nodup := by
  rw [flags_eq_filterMap]
  exact Registry.nodup_filterMap_graph _ (by decide)

lemma kind_of_lookup_flags {q : Request} {f : Field} (hf : f ∈ Registry.standard.fields) {v : Value}
    (h : q.flags.lookup f.name = some v) : v.kind = f.kind := by
  have hv : q.flag? f.name = some v := by
    rw [flags_eq_filterMap, Registry.lookup_filterMap_graph] at h
    split_ifs at h
    exact h
  simp only [Registry.standard, Field.baseTable, Field.configurableTable, List.cons_append,
    List.nil_append, List.mem_cons, List.not_mem_nil, or_false] at hf
  rcases hf with rfl | rfl | rfl | rfl | rfl | rfl | rfl | rfl | rfl | rfl <;>
    obtain ⟨a,-,rfl⟩ := Option.map_eq_some_iff.1 hv <;> rfl

lemma kind_of_default {f : Field} (hf : f ∈ Registry.standard.fields) {v : Value}
    (h : f.default = some v) : v.kind = f.kind := by
  have hall : ∀ g ∈ Registry.standard.fields, g.default.all (·.kind = g.kind) = true := by decide
  simpa [h] using hall f hf

lemma current_of_standard {f : Field} (hf : f ∈ Registry.standard.fields) :
    f.current = f.default := by
  revert f
  decide

/-- Filling in by stages gives every field the value of the strongest stage that has one. -/
theorem hostLeaves_of_hostRegistry {q : Request} {parameters : Dictionary Json} {env : Environment}
    {r : Registry} (h : (q.hostRegistry parameters env).result = .ok r) :
    q.HostLeaves parameters env r := by
  obtain ⟨⟨r₁,_⟩,h₁,h⟩ := Logged.andThen_result_eq_ok_iff.1 h
  obtain ⟨⟨r₂,_⟩,h₂,h⟩ := Logged.andThen_result_eq_ok_iff.1 h
  rw [Logged.after_result] at h
  obtain ⟨⟨r₃,_⟩,h₃,h⟩ := Logged.andThen_result_eq_ok_iff.1 h
  obtain ⟨⟨r₄,_⟩,h₄,h⟩ := Logged.andThen_result_eq_ok_iff.1 h
  obtain rfl : r₄ = r := Except.ok.inj h
  obtain ⟨hok₁,rfl⟩ := Outcome.inStage_result_eq_ok_iff.1 h₁
  obtain ⟨hok₂,rfl⟩ := Outcome.inStage_result_eq_ok_iff.1 h₂
  obtain ⟨hok₃,rfl⟩ := Outcome.inStage_result_eq_ok_iff.1 h₃
  obtain ⟨hok₄,rfl⟩ := Outcome.inStage_result_eq_ok_iff.1 h₄
  have hf₁ := Registry.fields_of_injectParameters_ok hok₁
  have hf₂ := Registry.fields_of_applyEnvironment_ok hok₂
  have hf₃ := Registry.fields_of_setAll_ok hok₃
  have hf₄ := Registry.fields_of_injectRaw_ok hok₄
  rw [HostLeaves, hf₄, hf₃, hf₂, hf₁]
  simp only [List.map_map]
  refine List.map_congr_left fun f hf => ?_
  have hm : Rule.parameter.supply parameters.entries f ∈
      (Registry.standard.injectParameters parameters).registry.fields := by
    rw [hf₁]
    exact List.mem_map_of_mem hf
  have hfound := Registry.lookup_overrides env hm
  rw [Rule.supply_name] at hfound
  simp only [Function.comp, Rule.parameter_supply,
    Rule.raw_supply_of_nodup (Registry.nodup_overrides env _), hfound,
    Rule.typed_supply q.nodup_flags fun v => kind_of_lookup_flags hf, Rule.raw_supply,
    current_of_standard hf]
  rfl

theorem kind_of_hostValue {q : Request} {parameters : Dictionary Json} {env : Environment}
    {f : Field} (hf : f ∈ Registry.standard.fields) {v : Value}
    (h : q.hostValue parameters env f = some v) : v.kind = f.kind := by
  unfold hostValue at h
  simp only [Option.or_eq_some_iff] at h
  rcases h with h | ⟨-,h | ⟨-,h | ⟨-,h | ⟨-,h⟩⟩⟩⟩
  · obtain ⟨text,-,rfl⟩ := Option.map_eq_some_iff.1 h
    exact kind_coerce f.kind text
  · exact kind_of_lookup_flags hf h
  · obtain ⟨text,-,rfl⟩ := Option.map_eq_some_iff.1 h
    exact kind_coerce f.kind text
  · obtain ⟨item,-,hv⟩ := Option.bind_eq_some_iff.1 h
    have hi : f.valueFor item = .ok (some v) := by
      cases hi : f.valueFor item with
      | error e => simp [hi, Except.toOption] at hv
      | ok given => simpa [hi, Except.toOption] using hv
    exact Field.kind_of_valueFor hi
  · exact kind_of_default hf h

end Request

end LayeredSettings
