import LayeredSettings.Proofs.Injection
import LayeredSettings.Proofs.Registry.Reaches

/-! When the host fails to fill in a registry, and with which error: by a parameter that cannot be
given to a field, or else by an assignment to no field. What the environment and the flags give is
never refused. -/
namespace LayeredSettings

namespace Request

/-- A parameter that cannot be given to a field: there is none of the name, or the value is none of
the field's. -/
inductive ParameterFault (name : String) (item : Json) : ConfigError → Prop
  | unknown (absent : name ∉ Registry.standard.names) :
      ParameterFault name item (.unknownField name)
  | rejected {f : Field} {reason : String} (found : Registry.standard.get? name = some f)
      (h : f.valueFor item = .error (.fieldAccess name reason)) :
      ParameterFault name item (.fieldAccess name reason)

/-- Every parameter of a list can be given to its field. -/
def Accepted (entries : List (String × Json)) : Prop :=
  ∀ entry ∈ entries, ∀ e, ¬ ParameterFault entry.1 entry.2 e

/-- Every name of a list is that of a field. -/
def Known {α : Type} (entries : List (String × α)) : Prop :=
  ∀ entry ∈ entries, entry.1 ∈ Registry.standard.names

/-- Why the host cannot fill in a registry: the first parameter at fault, in the order of names, or
else the first assignment to a name that no field has. -/
inductive HostFault (q : Request) (parameters : Dictionary Json) : RunError → Prop
  | parameter {before after : List (String × Json)} {name : String} {item : Json} {e : ConfigError}
      (split : parameters.entries = before ++ (name,item) :: after) (first : Accepted before)
      (fault : ParameterFault name item e) : HostFault q parameters ⟨.parameters,e⟩
  | assignment {before after : List (String × String)} {name raw : String}
      (accepted : Accepted parameters.entries)
      (split : q.assignments = before ++ (name,raw) :: after) (first : Known before)
      (unknown : name ∉ Registry.standard.names) :
      HostFault q parameters ⟨.assignments,.unknownField name⟩

variable {q : Request} {parameters : Dictionary Json} {env : Environment}

lemma refuses_iff_parameterFault {name : String} {item : Json} {e : ConfigError} :
    Registry.standard.Refuses name item e ↔ ParameterFault name item e := by
  constructor
  · intro h
    cases h with
    | unknown absent => exact .unknown absent
    | misfit found _ told => exact .rejected found told
  · intro h
    cases h with
    | unknown absent => exact .unknown absent
    | rejected found told => exact .misfit found (Field.valueFor_eq_error_iff.1 ⟨_,told⟩) told

lemma accepted_iff {entries : List (String × Json)} :
    Accepted entries ↔ ∀ a ∈ entries, Registry.standard.refusal? .parameter a = none := by
  simp only [Accepted, Registry.refusal?_parameter_eq_none_iff, refuses_iff_parameterFault]

lemma result_injectParameters_eq_ok_iff :
    (Registry.standard.injectParameters parameters).result = .ok () ↔
      Accepted parameters.entries := by
  rw [Registry.injectParameters, Registry.injectEntries_eq_offerAll, accepted_iff]
  exact Registry.offerAll_result_eq_ok_iff (Rule.parameter_steady _)

lemma result_injectParameters_eq_error_iff {e : ConfigError} :
    (Registry.standard.injectParameters parameters).result = .error e ↔
      ∃ before a after, parameters.entries = before ++ a :: after ∧ Accepted before ∧
        ParameterFault a.1 a.2 e := by
  rw [Registry.injectParameters, Registry.injectEntries_eq_offerAll,
    Registry.offerAll_result_eq_error_iff (Rule.parameter_steady _)]
  simp only [accepted_iff, Registry.refusal?_parameter_eq_some_iff, refuses_iff_parameterFault]

end Request

namespace Registry

/-- Every flag gives to a field of the standard registry a value of its kind. -/
theorem result_setAll_flags {r : Registry} (h : standard.Reaches r) (q : Request) :
    (r.setAll q.flags).result = .ok () := by
  rw [setAll_eq_offerAll, offerAll_result_eq_ok_iff (Rule.typed_steady _)]
  intro a ha
  obtain ⟨held,hfields⟩ := h.exists_holding
  have hname : a.1 ∈ standard.names := by
    rw [Request.flags_eq_filterMap] at ha
    obtain ⟨name,hn,hv⟩ := List.mem_filterMap.1 ha
    obtain ⟨value,-,rfl⟩ := Option.map_eq_some_iff.1 hv
    have hall : ∀ name ∈ Request.flagNames, name ∈ standard.names := by decide
    exact hall name hn
  obtain ⟨f,hf,hn⟩ := List.mem_map.1 hname
  have hget := get?_of_fields_eq_map (fun f => f.holding_name (held f)) hfields a.1
  rw [← hn, get?_name hf, Option.map_some] at hget
  have hlookup : q.flags.lookup f.name = some a.2 :=
    lookup_eq_some_of_mem q.nodup_flags (by rw [hn]; exact ha)
  have hk : a.2.kind = f.kind := Request.kind_of_lookup_flags hf hlookup
  rw [refusal?_eq_none_iff, ← hn]
  refine ⟨_,some a.2,hget,?_⟩
  simp [Rule.typed, Logged.quiet, Field.checkType, hk, Except.map]

end Registry

namespace Request

variable {q : Request} {parameters : Dictionary Json} {env : Environment}

/-- With acceptable parameters only an assignment can stop the host. -/
lemma exists_hostRegistry_of_accepted (q : Request) (env : Environment)
    (h : Accepted parameters.entries) :
    ∃ r : Registry, r.names = Registry.standard.names ∧
      ∀ e, (q.hostRegistry parameters env).result = .error e ↔
        e.stage = .assignments ∧ (r.injectRaw q.assignments).result = .error e.cause := by
  have hok₁ := result_injectParameters_eq_ok_iff.2 h
  have hreach₁ := Registry.standard.reaches_injectParameters parameters
  generalize hr₁ : (Registry.standard.injectParameters parameters).registry = r₁ at hreach₁
  have hok₂ := Registry.result_applyEnvironment env r₁
  have hreach₂ := hreach₁.trans (r₁.reaches_applyEnvironment env)
  generalize hr₂ : (r₁.applyEnvironment env).registry = r₂ at hreach₂
  have hok₃ := Registry.result_setAll_flags hreach₂ q
  obtain ⟨held,hfields⟩ := (hreach₂.trans (r₂.reaches_setAll q.flags)).exists_holding
  refine ⟨_,Registry.names_of_fields_eq_map (fun f => f.holding_name (held f)) hfields,fun e => ?_⟩
  rw [hostRegistry, Logged.andThen_of_ok (Outcome.inStage_result_eq_ok_iff.2 ⟨hok₁,hr₁⟩)]
  simp only [Logged.after_result]
  rw [Logged.andThen_of_ok (Outcome.inStage_result_eq_ok_iff.2 ⟨hok₂,hr₂⟩)]
  simp only [Logged.after_result]
  rw [Logged.andThen_of_ok (Outcome.inStage_result_eq_ok_iff.2 ⟨hok₃,rfl⟩)]
  simp only [Logged.after_result, Logged.andThen_result_eq_error_iff,
    Outcome.inStage_result_eq_error_iff, Logged.quiet, reduceCtorEq, and_false, exists_false,
    or_false]

/-- The host fails by its first fault. -/
theorem hostRegistry_result_eq_error_iff {e : RunError} :
    (q.hostRegistry parameters env).result = .error e ↔ q.HostFault parameters e := by
  by_cases h : Accepted parameters.entries
  · obtain ⟨r,hnames,hr⟩ := exists_hostRegistry_of_accepted q env h
    rw [hr, Registry.result_injectRaw_eq_error_iff, hnames]
    constructor
    · obtain ⟨stage,cause⟩ := e
      rintro ⟨rfl,before,⟨name,raw⟩,after,split,first,unknown,rfl⟩
      exact .assignment h split first unknown
    · intro hf
      cases hf with
      | @parameter _ _ name item _ split _ fault =>
        exact absurd fault (h (name,item) (by simp [split]) _)
      | assignment _ split first unknown => exact ⟨rfl,_,_,_,split,first,unknown,rfl⟩
  · -- some parameter is at fault, so the host stops at once
    cases hres : (Registry.standard.injectParameters parameters).result with
    | ok => exact absurd (result_injectParameters_eq_ok_iff.1 hres) h
    | error cause =>
      obtain ⟨before,⟨name,item⟩,after,split,first,fault⟩ :=
        result_injectParameters_eq_error_iff.1 hres
      have hstage : ((Registry.standard.injectParameters parameters).inStage .parameters).result =
          .error ⟨.parameters,cause⟩ := Outcome.inStage_result_eq_error_iff.2 ⟨rfl,hres⟩
      rw [hostRegistry, Logged.andThen_of_error hstage]
      constructor
      · rintro ⟨⟩
        exact .parameter split first fault
      · intro hf
        cases hf with
        | parameter split' first' fault' =>
          have hres' := result_injectParameters_eq_error_iff.2 ⟨_,_,_,split',first',fault'⟩
          rw [Except.error.inj (hres.symm.trans hres')]
        | assignment accepted => exact absurd accepted h

lemma exists_hostRegistry_of_forall_not (h : ∀ e, ¬ q.HostFault parameters e) :
    ∃ r, (q.hostRegistry parameters env).result = .ok r := by
  cases hr : (q.hostRegistry parameters env).result with
  | ok r => exact ⟨r,rfl⟩
  | error e => exact absurd (hostRegistry_result_eq_error_iff.1 hr) (h e)

end Request

end LayeredSettings
