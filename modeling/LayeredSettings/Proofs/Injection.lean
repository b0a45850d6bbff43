import LayeredSettings.Proofs.Resolution.Host

/-! What the host's parameters, raw texts and variables do to a registry. Each of these injections
takes its items up to the first that is refused; which are refused, and what every field holds
afterwards, is told by the registry at the start. -/
namespace LayeredSettings

/-- The last text that is given to a name. -/
def lastText (assignments : List (String × String)) (name : String) : Option String :=
  (assignments.filter (·.1 = name)).getLast?.map (·.2)

lemma lastText_eq_lookup_reverse (assignments : List (String × String)) (name : String) :
    lastText assignments name = assignments.reverse.lookup name := by
  induction assignments using List.reverseRecOn with
  | nil => rfl
  | append_singleton assignments entry ih =>
    rw [List.reverse_append, List.reverse_singleton, List.singleton_append,
      Dictionary.lookup_cons_if, ← ih, lastText, lastText, List.filter_append]
    by_cases h : entry.1 = name
    · simp [h]
    · simp [h, Ne.symm h]

lemma lastText_eq_none_iff {assignments : List (String × String)} {name : String} :
    lastText assignments name = none ↔ name ∉ assignments.map (·.1) := by
  rw [lastText_eq_lookup_reverse, lookup_eq_none_iff_notMem, List.map_reverse, List.mem_reverse]

lemma lastText_of_nodup {assignments : List (String × String)} (hn : (assignments.map (·.1)).Nodup)
    (name : String) : lastText assignments name = assignments.lookup name := by
  rw [lastText_eq_lookup_reverse, lookup_reverse_of_nodup hn]

lemma lastText_of_perm {assignments others : List (String × String)} (h : others.Perm assignments)
    (hn : (assignments.map (·.1)).Nodup) (name : String) :
    lastText others name = lastText assignments name := by
  have hn' : (others.map (·.1)).Nodup := (h.map _).nodup_iff.2 hn
  rw [lastText_of_nodup hn', lastText_of_nodup hn]
  ext text
  rw [lookup_eq_some_iff_mem hn', lookup_eq_some_iff_mem hn, h.mem_iff]

namespace Field

/-- A field with a text in it, read as a value of its kind, or unchanged if there is no text. -/
def taking (text : Option String) (f : Field) : Field :=
  match text with
  | some raw => f.holding (some (coerce f.kind raw))
  | none => f

/-- A field with its parameter in it, or unchanged if it has none or one that is null. -/
def filled (parameters : Dictionary Json) (f : Field) : Field :=
  match (parameters.get? f.name).map f.valueFor with
  | some (.ok (some value)) => f.holding (some value)
  | _ => f

end Field

namespace Rule

theorem raw_supply_eq (assignments : List (String × String)) :
    raw.supply assignments = fun f => f.taking (lastText assignments f.name) := by
  funext f
  rw [supply, raw_hold, lastText_eq_lookup_reverse]
  cases assignments.reverse.lookup f.name <;> rfl

theorem parameter_supply_eq (parameters : Dictionary Json) :
    parameter.supply parameters.entries = Field.filled parameters := by
  funext f
  rw [parameter_supply, Field.filled]
  cases parameters.get? f.name with
  | none => rfl
  | some item => rcases hv : f.valueFor item with e | _ | value <;> simp [hv, Except.toOption]

end Rule

namespace Registry

/-- Why a parameter is refused: no field has its name, or it is no value of its field. -/
inductive Refuses (r : Registry) (name : String) (item : Json) : ConfigError → Prop
  | unknown (absent : name ∉ r.names) : Refuses r name item (.unknownField name)
  | misfit {f : Field} {reason : String} (found : r.get? name = some f)
      (h : Json.Misfit f.kind item) (told : f.valueFor item = .error (.fieldAccess name reason)) :
      Refuses r name item (.fieldAccess name reason)

variable {r : Registry}

theorem refusal?_parameter_eq_some_iff {entry : String × Json} {e : ConfigError} :
    r.refusal? .parameter entry = some e ↔ r.Refuses entry.1 entry.2 e := by
  unfold refusal?
  cases hf : r.get? entry.1 with
  | none =>
    constructor
    · rintro ⟨⟩
      exact .unknown (get?_eq_none_iff.1 hf)
    · intro h
      cases h with
      | unknown => rfl
      | misfit found => simp [hf] at found
  | some f =>
    have hn : f.name = entry.1 := name_of_get? hf
    simp only [Rule.parameter]
    constructor
    · intro h
      cases hv : f.valueFor entry.2 with
      | ok given => simp [hv] at h
      | error e' =>
        obtain rfl : e' = e := by simpa [hv] using h
        obtain ⟨reason,rfl⟩ := Field.eq_fieldAccess_of_valueFor hv
        have hmisfit := Field.valueFor_eq_error_iff.1 ⟨_,hv⟩
        rw [hn] at hv ⊢
        exact .misfit hf hmisfit hv
    · intro h
      cases h with
      | unknown absent => exact absurd (get?_eq_none_iff.2 absent) (by simp [hf])
      | misfit found _ told =>
        obtain rfl := Option.some.inj (hf.symm.trans found)
        rw [told]

theorem refusal?_parameter_eq_none_iff {entry : String × Json} :
    r.refusal? .parameter entry = none ↔ ∀ e, ¬ r.Refuses entry.1 entry.2 e := by
  rw [Option.eq_none_iff_forall_ne_some]
  exact forall_congr' fun e => not_congr refusal?_parameter_eq_some_iff

lemma refusal?_raw (entry : String × String) : r.refusal? .raw entry =
    if entry.1 ∈ r.names then none else some (.unknownField entry.1) := by
  unfold refusal?
  cases hf : r.get? entry.1 with
  | none => rw [if_neg (get?_eq_none_iff.1 hf)]
  | some f =>
    have hmem : entry.1 ∈ r.names := by
      by_contra hn
      simp [get?_eq_none_iff.2 hn] at hf
    rw [if_pos hmem]
    rfl

/-- Raw texts are all taken, or those before the first unknown name. -/
theorem injectRaw_spec (assignments : List (String × String)) (r : Registry) :
    ((∀ a ∈ assignments, a.1 ∈ r.names) ∧ (r.injectRaw assignments).result = .ok () ∧
      (r.injectRaw assignments).registry.fields =
        r.fields.map fun f => f.taking (lastText assignments f.name)) ∨
    ∃ before name raw after, assignments = before ++ (name,raw) :: after ∧
      (∀ a ∈ before, a.1 ∈ r.names) ∧ name ∉ r.names ∧
      (r.injectRaw assignments).result = .error (.unknownField name) ∧
      (r.injectRaw assignments).registry.fields =
        r.fields.map fun f => f.taking (lastText before f.name) := by
  rw [injectRaw_eq_offerAll]
  rcases offerAll_spec (Rule.raw_steady assignments) r with
    ⟨ha,hok,hfields⟩ | ⟨before,⟨name,raw⟩,after,e,hsplit,ha,hr,herr,hfields⟩
  all_goals simp only [refusal?_raw, ite_eq_left_iff, reduceCtorEq, imp_false, not_not] at ha
  all_goals rw [Rule.raw_supply_eq] at hfields
  · exact .inl ⟨ha,hok,hfields⟩
  · rw [refusal?_raw, Option.ite_none_left_eq_some, Option.some.injEq] at hr
    obtain ⟨hn,rfl⟩ := hr
    exact .inr ⟨before,name,raw,after,hsplit,ha,hn,herr,hfields⟩

theorem result_injectRaw_eq_ok_iff {assignments : List (String × String)} :
    (r.injectRaw assignments).result = .ok () ↔ ∀ a ∈ assignments, a.1 ∈ r.names := by
  rcases r.injectRaw_spec assignments with ⟨h,hok,-⟩ | ⟨before,name,raw,after,rfl,-,hn,herr,-⟩
  · exact iff_of_true hok h
  · exact iff_of_false (by simp [herr]) fun h => hn (h (name,raw) (by simp))

lemma result_injectRaw_eq_error_iff {assignments : List (String × String)} {e : ConfigError} :
    (r.injectRaw assignments).result = .error e ↔ ∃ before a after,
      assignments = before ++ a :: after ∧ (∀ b ∈ before, b.1 ∈ r.names) ∧ a.1 ∉ r.names ∧
        e = .unknownField a.1 := by
  rw [injectRaw_eq_offerAll, offerAll_result_eq_error_iff (Rule.raw_steady _)]
  simp only [refusal?_raw, ite_eq_left_iff, reduceCtorEq, imp_false, not_not,
    Option.ite_none_left_eq_some, Option.some.injEq, eq_comm (a := e)]

/-- Where every name is known, only the last text of each name counts. -/
theorem injectRaw_eq_of_lastText {assignments others : List (String × String)}
    (h : ∀ name, lastText others name = lastText assignments name)
    (hk : ∀ a ∈ assignments, a.1 ∈ r.names) :
    (r.injectRaw others).result = .ok () ∧
      (r.injectRaw others).registry = (r.injectRaw assignments).registry := by
  have hk' : ∀ a ∈ others, a.1 ∈ r.names := by
    intro a ha
    have hsome : lastText assignments a.1 ≠ none := by
      rw [← h, Ne, lastText_eq_none_iff, not_not]
      exact List.mem_map_of_mem ha
    rw [Ne, lastText_eq_none_iff, not_not] at hsome
    obtain ⟨b,hb,hn⟩ := List.mem_map.1 hsome
    exact hn ▸ hk b hb
  have hok := result_injectRaw_eq_ok_iff.2 hk
  have hok' := result_injectRaw_eq_ok_iff.2 hk'
  refine ⟨hok',eq_of_fields_eq ?_⟩
  rw [fields_of_injectRaw_ok hok, fields_of_injectRaw_ok hok']
  simp only [Rule.raw_supply_eq, h]

/-- The environment gives texts to fields that are there, so none is refused. -/
theorem result_injectRaw_overrides (env : Environment) (r : Registry) :
    (r.injectRaw (r.overrides env)).result = .ok () := by
  rw [result_injectRaw_eq_ok_iff]
  intro a ha
  obtain ⟨name,hn,hv⟩ := List.mem_filterMap.1 ha
  obtain ⟨raw,-,rfl⟩ := Option.map_eq_some_iff.1 hv
  exact hn

lemma map_fst_overrides (env : Environment) (r : Registry) :
    (r.overrides env).map (·.1) =
      r.names.filter fun name => (env (VariableName.ofField name)).isSome := by
  rw [overrides, List.map_filterMap, ← List.filterMap_eq_filter]
  refine List.filterMap_congr fun name _ => ?_
  cases h : env (VariableName.ofField name) <;> simp [Option.guard, h]

theorem result_applyEnvironment (env : Environment) (r : Registry) :
    (r.applyEnvironment env).result =
      .ok (r.names.filter fun name => (env (VariableName.ofField name)).isSome) := by
  rw [applyEnvironment, Outcome.after_result,
    Outcome.andThen_of_ok (r.result_injectRaw_overrides env), ← map_fst_overrides]
  rfl

theorem fields_applyEnvironment (env : Environment) (r : Registry) :
    (r.applyEnvironment env).registry.fields =
      r.fields.map fun f => f.taking (env (VariableName.ofField f.name)) := by
  rw [fields_of_applyEnvironment_ok (result_applyEnvironment env r), Rule.raw_supply_eq]
  refine List.map_congr_left fun f hf => ?_
  have hfound : lastText (r.overrides env) f.name = env (VariableName.ofField f.name) := by
    rw [lastText_of_nodup (nodup_overrides env r), lookup_overrides env hf]
  rw [hfound]

/-- Parameters are all taken, or those of smaller names than the least that is refused. -/
theorem injectParameters_spec (parameters : Dictionary Json) (r : Registry) :
    ((∀ entry ∈ parameters.entries, ∀ e, ¬ r.Refuses entry.1 entry.2 e) ∧
      (r.injectParameters parameters).result = .ok () ∧
      (r.injectParameters parameters).registry.fields = r.fields.map (Field.filled parameters)) ∨
    ∃ entry ∈ parameters.entries, ∃ e, r.Refuses entry.1 entry.2 e ∧
      (∀ other ∈ parameters.entries, ∀ e', r.Refuses other.1 other.2 e' → entry.1 ≤ other.1) ∧
      (r.injectParameters parameters).result = .error e ∧
      (r.injectParameters parameters).registry.fields =
        r.fields.map fun f => if f.name < entry.1 then f.filled parameters else f := by
  have hspec := offerAll_entries_spec .parameter parameters r
  rw [Rule.parameter_supply_eq, ← injectEntries_eq_offerAll, ← injectParameters] at hspec
  simpa only [refusal?_parameter_eq_none_iff, refusal?_parameter_eq_some_iff] using hspec

/-- A parameter is refused unless it has a field and is a value of this field or null. -/
theorem forall_not_refuses_iff {name : String} {item : Json} :
    (∀ e, ¬ r.Refuses name item e) ↔ ∃ f, r.get? name = some f ∧ ¬ Json.Misfit f.kind item := by
  constructor
  · intro h
    cases hf : r.get? name with
    | none => exact absurd (.unknown (get?_eq_none_iff.1 hf)) (h _)
    | some f =>
      refine ⟨f,rfl,fun hm => ?_⟩
      obtain ⟨e,he⟩ := Field.valueFor_eq_error_iff.2 hm
      obtain ⟨reason,rfl⟩ := Field.eq_fieldAccess_of_valueFor he
      rw [name_of_get? hf] at he
      exact h _ (.misfit hf hm he)
  · rintro ⟨f,hf,hm⟩ e he
    cases he with
    | unknown absent => exact absurd (get?_eq_none_iff.2 absent) (by simp [hf])
    | misfit found h _ =>
      obtain rfl := Option.some.inj (hf.symm.trans found)
      exact hm h

/-- Typed injection of parameters. A field passes over null, refuses exactly what is no value of its
kind, under its own name, and takes everything else as a value of its kind, which can always be
stored. So all parameters are taken if each has a field that does not refuse it, and then exactly the
fields with a parameter other than null hold that; otherwise the least name that is refused is the
error, and exactly the parameters of smaller names are taken. -/
theorem injectParameters_below_least_refused (r : Registry) (parameters : Dictionary Json) :
    (∀ (f : Field) item,
      (f.valueFor item = .ok none ↔ item = .null) ∧
      ((∃ e, f.valueFor item = .error e) ↔ Json.Misfit f.kind item) ∧
      (∀ e, f.valueFor item = .error e → ∃ reason, e = .fieldAccess f.name reason) ∧
      ∀ value, f.valueFor item = .ok (some value) → value.kind = f.kind) ∧
    (∀ (s : Registry) name f item value, s.get? name = some f →
      f.valueFor item = .ok (some value) → s.set name value = .ok (s.assign name (some value))) ∧
    ((r.injectParameters parameters).result = .ok () ↔
      ∀ name item, parameters.get? name = some item →
        ∃ f, r.get? name = some f ∧ ¬ Json.Misfit f.kind item) ∧
    ((r.injectParameters parameters).result = .ok () →
      (r.injectParameters parameters).registry.fields = r.fields.map (Field.filled parameters)) ∧
    ∀ e, (r.injectParameters parameters).result = .error e → ∃ name item,
      parameters.get? name = some item ∧ r.Refuses name item e ∧
      (∀ other item' e', parameters.get? other = some item' → r.Refuses other item' e' →
        name ≤ other) ∧
      (r.injectParameters parameters).registry.fields =
        r.fields.map fun f => if f.name < name then f.filled parameters else f := by
  refine ⟨fun f item => ⟨Field.valueFor_eq_none_iff,Field.valueFor_eq_error_iff,
      fun _ => Field.eq_fieldAccess_of_valueFor,fun _ => Field.kind_of_valueFor⟩,
    fun s name f item value hf hv => set_of_kind hf (Field.kind_of_valueFor hv),?_⟩
  simp only [← forall_not_refuses_iff, Dictionary.get?_eq_some_iff]
  rcases r.injectParameters_spec parameters with
    ⟨ha,hok,hfields⟩ | ⟨⟨name,item⟩,hmem,e,hr,hleast,herr,hfields⟩
  · refine ⟨iff_of_true hok fun name item hm => ha (name,item) hm,fun _ => hfields,fun e he => ?_⟩
    rw [hok] at he
    cases he
  · refine ⟨iff_of_false (by simp [herr]) fun ha => ha name item hmem e hr,fun hok => ?_,
      fun e' he => ?_⟩
    · rw [herr] at hok
      cases hok
    · obtain rfl := Except.error.inj (herr.symm.trans he)
      exact ⟨name,item,hmem,hr,fun other item' e' hm h => hleast (other,item') hm e' h,hfields⟩

/-- Raw texts and variables. Raw texts are all taken exactly if their names are known; then every
field with a text holds the last that is given to it, as a value of its kind, so that neither earlier
texts nor the order of the names matter. Otherwise the first unknown name is the error, and exactly
the texts before it are taken. Variables are never refused: a field holds the text of its variable
exactly if that is present, whether empty or shared with other fields. -/
theorem injectRaw_takes_last_text (r : Registry) :
    (∀ assignments,
      ((r.injectRaw assignments).result = .ok () ↔ ∀ a ∈ assignments, a.1 ∈ r.names) ∧
      ((r.injectRaw assignments).result = .ok () → (r.injectRaw assignments).registry.fields =
        r.fields.map fun f => f.taking (lastText assignments f.name)) ∧
      (∀ others, (r.injectRaw assignments).result = .ok () →
        (∀ name, lastText others name = lastText assignments name) ∨
          others.Perm assignments ∧ (assignments.map (·.1)).Nodup →
        (r.injectRaw others).result = .ok () ∧
          (r.injectRaw others).registry = (r.injectRaw assignments).registry) ∧
      ∀ e, (r.injectRaw assignments).result = .error e → ∃ before name raw after,
        assignments = before ++ (name,raw) :: after ∧ (∀ a ∈ before, a.1 ∈ r.names) ∧
        name ∉ r.names ∧ e = .unknownField name ∧
        (r.injectRaw assignments).registry.fields =
          r.fields.map fun f => f.taking (lastText before f.name)) ∧
    ∀ env,
      (r.applyEnvironment env).result =
        .ok (r.names.filter fun name => (env (VariableName.ofField name)).isSome) ∧
      (r.applyEnvironment env).registry.fields =
        r.fields.map fun f => f.taking (env (VariableName.ofField f.name)) := by
  refine ⟨fun assignments => ⟨result_injectRaw_eq_ok_iff,fun hok => ?_,fun others hok h => ?_,
    fun e he => ?_⟩,fun env => ⟨result_applyEnvironment env r,fields_applyEnvironment env r⟩⟩
  · rw [fields_of_injectRaw_ok hok, Rule.raw_supply_eq]
  · have hlast : ∀ name, lastText others name = lastText assignments name := by
      rcases h with h | ⟨hperm,hn⟩
      · exact h
      · exact lastText_of_perm hperm hn
    exact injectRaw_eq_of_lastText hlast (result_injectRaw_eq_ok_iff.1 hok)
  · rcases r.injectRaw_spec assignments with
      ⟨-,hok,-⟩ | ⟨before,name,raw,after,hsplit,hk,hn,herr,hfields⟩
    · rw [hok] at he
      cases he
    · obtain rfl := Except.error.inj (herr.symm.trans he)
      exact ⟨before,name,raw,after,hsplit,hk,hn,rfl,hfields⟩

end Registry

end LayeredSettings
