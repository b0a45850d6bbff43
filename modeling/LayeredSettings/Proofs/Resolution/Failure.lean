import LayeredSettings.Proofs.Opener
import LayeredSettings.Proofs.Resolution.HostFailure
import LayeredSettings.Proofs.Resolution.Run

/-! When a run fails, and with which error. Each stage has causes of its own, and a cause counts
only if the stages before it went well. -/
namespace LayeredSettings

open Properties (Source)

def Field.changeLogFile : Field :=
  { name := "changeLogFile", kind := .text, set := .configurable, required := true }

namespace Request

section
variable (q : Request) (parameters : Dictionary Json) (env : Environment) (opener : Opener)

/-- Why a registry that the host has filled in leads to no settings: the file that it names is not
there, or cannot be opened or read; the least of the file's keys that names no field; or, once the
file has been applied, that no change log is given. -/
inductive SessionFault : ConfigError → Prop
  | missing {path : String}
      (named : q.hostValueAt parameters env "propertiesFile" = some (.text path))
      (absent : (opener.ask path).result = .ok none) : SessionFault (.missingResource path)
  | unopened {path : String} {cause : IoError}
      (named : q.hostValueAt parameters env "propertiesFile" = some (.text path))
      (h : (opener.ask path).result = .error cause) :
      SessionFault (.malformedStream path (.io cause))
  | unread {path : String} {stream : Properties.Stream} {cause : PropertiesError}
      (named : q.hostValueAt parameters env "propertiesFile" = some (.text path))
      (found : (opener.ask path).result = .ok (some stream))
      (h : Source.read stream = .error cause) : SessionFault (.malformedStream path cause)
  | unknownKey {source : Source} {key : String}
      (reads : q.Reads parameters env opener (some source)) (mem : key ∈ source.keys)
      (unknown : key ∉ Registry.standard.names)
      (least : ∀ other ∈ source.keys, other ∉ Registry.standard.names → key ≤ other) :
      SessionFault (.unknownField key)
  | unsettled {source : Option Source} (reads : q.Reads parameters env opener source)
      (known : ∀ s ∈ source, Known s.entries)
      (unset : q.finalValue parameters env source Field.changeLogFile = none) :
      SessionFault (.missingRequired "changeLogFile")

/-- Why a run fails. -/
inductive Fails : RunError → Prop
  | host {e : RunError} (h : q.HostFault parameters e) : Fails e
  | session {cause : ConfigError} (filled : ∀ e, ¬ q.HostFault parameters e)
      (h : q.SessionFault parameters env opener cause) : Fails ⟨.session,cause⟩

end

end Request

namespace Registry

variable {r : Registry} {held : Field → Option Value}

lemma exists_field_of_standard
    (hr : r.fields = standard.fields.map fun f => f.holding (held f)) {name : String} {kind : Kind}
    (h : (standard.get? name).map (·.kind) = some kind) :
    ∃ f ∈ r.fields, f.name = name ∧ f.kind = kind := by
  obtain ⟨f,hf,rfl⟩ := Option.map_eq_some_iff.1 h
  obtain ⟨hmem,rfl⟩ := get?_eq_some_iff.1 hf
  exact ⟨f.holding (held f),hr ▸ List.mem_map_of_mem hmem,rfl,rfl⟩

/-- A text field of the standard registry can be read in every well-typed registry that holds
something else in the same fields; so can a boolean field. -/
lemma WellTyped.exists_text_of_standard (ht : r.WellTyped)
    (hr : r.fields = standard.fields.map fun f => f.holding (held f)) (name : String)
    (h : (standard.get? name).map (·.kind) = some .text) : ∃ given, r.text name = .ok given := by
  obtain ⟨f,hf,rfl,hk⟩ := exists_field_of_standard hr h
  exact ht.exists_text hf hk

lemma WellTyped.exists_flag_of_standard (ht : r.WellTyped)
    (hr : r.fields = standard.fields.map fun f => f.holding (held f)) (name : String)
    (h : (standard.get? name).map (·.kind) = some .boolean) : ∃ b, r.flag name = .ok b := by
  obtain ⟨f,hf,rfl,hk⟩ := exists_field_of_standard hr h
  exact ht.exists_flag hf hk

end Registry

namespace Request

variable {q : Request} {parameters : Dictionary Json} {env : Environment} {opener : Opener}

lemma Reads.unique {source other : Option Source} (h : q.Reads parameters env opener source)
    (ho : q.Reads parameters env opener other) : source = other := by
  cases source with
  | none =>
    cases other with
    | none => rfl
    | some other =>
      obtain ⟨path,hp,-⟩ := ho
      rw [Reads, hp] at h
      cases h
  | some source =>
    obtain ⟨path,hp,hs⟩ := h
    cases other with
    | none =>
      rw [Reads, hp] at ho
      cases ho
    | some other =>
      obtain ⟨path',hp',hs'⟩ := ho
      obtain rfl : path = path' := by simpa [hp] using hp'
      rw [Except.ok.inj (hs.symm.trans hs')]

/-- The keys of the source are looked at in their order; the first that names no field is fatal. -/
lemma resolve_of_host {r : Registry} (h : q.HostLeaves parameters env r) (p : Policy)
    (source : Source) :
    Known source.entries ∧ (r.resolve p source).result = .ok () ∨
    ∃ key ∈ source.keys, key ∉ Registry.standard.names ∧
      (∀ other ∈ source.keys, other ∉ Registry.standard.names → key ≤ other) ∧
      (r.resolve p source).result = .error (.unknownField key) := by
  rw [← h.names_eq]
  rcases Registry.resolve_spec p source r with ⟨hno,hok,-⟩ | ⟨key,hk,e,hfault,hleast,herr,-⟩
  · refine .inl ⟨fun entry he => ?_,hok⟩
    by_contra hn
    rw [← h.names_eq] at hn
    exact hno entry.1 (List.mem_map_of_mem he) _ (h.wellTyped.fault_iff.2 ⟨hn,rfl⟩)
  · obtain ⟨hn,rfl⟩ := h.wellTyped.fault_iff.1 hfault
    exact .inr ⟨key,hk,hn,fun other ho hno => hleast other ho _
      (h.wellTyped.fault_iff.2 ⟨hno,rfl⟩),herr⟩

lemma configure_of_none {r : Registry} (h : q.HostLeaves parameters env r)
    (hs : q.hostValueAt parameters env "propertiesFile" = none) :
    r.configure opener = .done r () := by
  have htext : r.text "propertiesFile" = .ok none := (text_propertiesFile_iff h).2 hs
  simp only [Registry.configure, htext]

lemma configure_of_load_error {r : Registry} (h : q.HostLeaves parameters env r) {path : String}
    (hs : q.hostValueAt parameters env "propertiesFile" = some (.text path)) {e : ConfigError}
    (hload : (opener.load path).result = .error e) :
    (r.configure opener).result = .error e := by
  have htext : r.text "propertiesFile" = .ok (some path) := (text_propertiesFile_iff h).2 hs
  simp only [Registry.configure, htext, hload]
  rfl

lemma configure_of_reads {r : Registry} (h : q.HostLeaves parameters env r) {source : Source}
    (hs : q.Reads parameters env opener (some source)) : ∃ p,
      (r.configure opener).result = (r.resolve p source).result := by
  obtain ⟨path,hpath,hload⟩ := hs
  obtain ⟨p,hp,-⟩ := exists_policy h
  have htext : r.text "propertiesFile" = .ok (some path) := (text_propertiesFile_iff h).2 hpath
  refine ⟨p,?_⟩
  simp only [Registry.configure, htext, hload, hp]
  rfl

/-- The host names no file, or one that cannot be loaded, or the source of the run. -/
lemma reads_cases {r : Registry} (h : q.HostLeaves parameters env r) (opener : Opener) :
    (∃ source, q.Reads parameters env opener source) ∨
    ∃ path e, q.hostValueAt parameters env "propertiesFile" = some (.text path) ∧
      (opener.load path).result = .error e := by
  obtain ⟨given,hgiven⟩ := h.wellTyped.exists_text_of_standard h "propertiesFile" (by decide)
  have hhost := (text_propertiesFile_iff h).1 hgiven
  cases given with
  | none => exact .inl ⟨none,hhost⟩
  | some path =>
    cases hload : (opener.load path).result with
    | ok source => exact .inl ⟨some source,path,hhost,hload⟩
    | error e => exact .inr ⟨path,e,hhost,hload⟩

/-- Configuring goes well exactly when there is a source, or none is named, and all its keys are
known. -/
lemma configure_result_eq_ok_iff {r : Registry} (h : q.HostLeaves parameters env r)
    {source : Option Source} (hs : q.Reads parameters env opener source) :
    (r.configure opener).result = .ok () ↔ ∀ s ∈ source, Known s.entries := by
  cases source with
  | none => simp [configure_of_none h hs, Outcome.done]
  | some source =>
    obtain ⟨p,hp⟩ := configure_of_reads h hs
    simp only [hp, Option.mem_some_iff, forall_eq']
    rcases resolve_of_host h p source with ⟨hknown,hok⟩ | ⟨key,hk,hn,-,herr⟩
    · exact iff_of_true hok hknown
    · refine iff_of_false (by simp [herr]) fun hknown => ?_
      obtain ⟨entry,he,rfl⟩ := List.mem_map.1 hk
      exact hn (hknown entry he)

end Request

namespace Settings

/-- Of the standard fields only the change log must hold something. -/
lemma missing?_of_standard {r : Registry} {held : Field → Option Value}
    (hr : r.fields = Registry.standard.fields.map fun f => f.holding (held f)) :
    missing? r = if held Field.changeLogFile = none then some "changeLogFile" else none := by
  have hother : ∀ f ∈ Registry.standard.fields, f.required = true → f = Field.changeLogFile := by
    decide
  have hmem : Field.changeLogFile ∈ Registry.standard.fields := by decide
  unfold missing?
  rw [hr]
  split_ifs with hnone
  · cases hfind : (Registry.standard.fields.map fun f => f.holding (held f)).find?
        fun f => f.required && f.current.isNone with
    | none =>
      have hall := List.find?_eq_none.1 hfind _ (List.mem_map_of_mem hmem)
      rw [hnone] at hall
      exact absurd rfl hall
    | some g =>
      obtain ⟨f,hf,rfl⟩ := List.mem_map.1 (List.mem_of_find?_eq_some hfind)
      have hreq := List.find?_some hfind
      rw [Bool.and_eq_true] at hreq
      rw [hother f hf hreq.1]
      rfl
  · rw [List.find?_eq_none.2]
    · rfl
    intro g hg
    obtain ⟨f,hf,rfl⟩ := List.mem_map.1 hg
    rw [Bool.and_eq_true]
    rintro ⟨hreq,hcurrent⟩
    rw [hother f hf hreq] at hcurrent
    exact hnone (Option.isNone_iff_eq_none.1 hcurrent)

theorem exists_ofRegistry {r : Registry} {held : Field → Option Value}
    (hr : r.fields = Registry.standard.fields.map fun f => f.holding (held f)) (ht : r.WellTyped)
    (hset : held Field.changeLogFile ≠ none) : ∃ s, ofRegistry r = .ok s := by
  have hmissing : missing? r = none := by rw [missing?_of_standard hr, if_neg hset]
  obtain ⟨file,hfile⟩ : ∃ file, r.text "changeLogFile" = .ok (some file) := by
    have hget : r.get? "changeLogFile" =
        some (Field.changeLogFile.holding (held Field.changeLogFile)) :=
      Registry.get?_eq_some_iff.2 ⟨hr ▸ List.mem_map_of_mem (by decide),rfl⟩
    obtain ⟨given,hgiven⟩ := ht.exists_text_of_standard hr "changeLogFile" (by decide)
    cases given with
    | none => exact absurd ((Registry.text_eq_ok_iff hget).1 hgiven) hset
    | some file => exact ⟨file,hgiven⟩
  obtain ⟨_,h₁⟩ := ht.exists_flag_of_standard hr "dropFirst" (by decide)
  obtain ⟨_,h₂⟩ := ht.exists_text_of_standard hr "contexts" (by decide)
  obtain ⟨_,h₃⟩ := ht.exists_text_of_standard hr "propertiesFile" (by decide)
  obtain ⟨_,h₄⟩ := ht.exists_flag_of_standard hr "propertyFileWillOverride" (by decide)
  obtain ⟨_,h₅⟩ := ht.exists_text_of_standard hr "driver" (by decide)
  obtain ⟨_,h₆⟩ := ht.exists_text_of_standard hr "url" (by decide)
  obtain ⟨_,h₇⟩ := ht.exists_text_of_standard hr "username" (by decide)
  obtain ⟨_,h₈⟩ := ht.exists_text_of_standard hr "password" (by decide)
  obtain ⟨_,h₉⟩ := ht.exists_flag_of_standard hr "promptOnNonLocalDatabase" (by decide)
  simp [ofRegistry, hmissing, hfile, h₁, h₂, h₃, h₄, h₅, h₆, h₇, h₈, h₉, bind, Except.bind, pure,
    Except.pure]

/-- Nothing but a missing change log keeps the settings from being read. -/
theorem ofRegistry_eq_error_iff {r : Registry} {held : Field → Option Value} {e : ConfigError}
    (hr : r.fields = Registry.standard.fields.map fun f => f.holding (held f))
    (ht : r.WellTyped) : ofRegistry r = .error e ↔
      held Field.changeLogFile = none ∧ e = .missingRequired "changeLogFile" := by
  by_cases hset : held Field.changeLogFile = none
  · have hmissing : missing? r = some "changeLogFile" := by
      rw [missing?_of_standard hr, if_pos hset]
    simp [ofRegistry, hmissing, hset, eq_comm]
  · obtain ⟨s,hs⟩ := exists_ofRegistry hr ht hset
    simp [hs, hset]

end Settings

namespace Request

variable {q : Request} {parameters : Dictionary Json} {env : Environment} {opener : Opener}

lemma sessionFault_of_load_error {path : String} {e : ConfigError}
    (named : q.hostValueAt parameters env "propertiesFile" = some (.text path))
    (h : (opener.load path).result = .error e) : q.SessionFault parameters env opener e := by
  cases Opener.load_result_eq_error_iff.1 h with
  | missing absent => exact .missing named absent
  | unopened hask => exact .unopened named hask
  | unread found => exact .unread named found rfl
  | malformed found hparse => exact .unread named found (by rw [Source.read, hparse])

/-- After the host a run fails by a fault of the file, or because no change log is given. -/
theorem run_result_eq_error_iff {r : Registry} (h : q.HostLeaves parameters env r)
    {e : ConfigError} :
    (r.run opener).result = .error e ↔ q.SessionFault parameters env opener e := by
  have hsettle {source : Option Source} (hs : q.Reads parameters env opener source)
      (hok : (r.configure opener).result = .ok ()) :
      Settings.ofRegistry (r.configure opener).registry = .error e ↔
        q.finalValue parameters env source Field.changeLogFile = none ∧
          e = .missingRequired "changeLogFile" := by
    obtain ⟨source',hs',hfields⟩ := configure_of_host h hok
    obtain rfl := hs.unique hs'
    exact Settings.ofRegistry_eq_error_iff hfields
      ((r.reaches_configure opener).wellTyped h.wellTyped)
  rw [Registry.run_result_eq_error_iff]
  constructor
  · rintro hrun
    rcases reads_cases h opener with ⟨source,hs⟩ | ⟨path,cause,named,hload⟩
    · rcases hrun with hc | ⟨hok,hread⟩
      · cases source with
        | none =>
          rw [configure_of_none h hs] at hc
          cases hc
        | some source =>
          obtain ⟨p,hp⟩ := configure_of_reads h hs
          rw [hp] at hc
          rcases resolve_of_host h p source with ⟨-,hok⟩ | ⟨key,hk,hn,hleast,herr⟩
          · rw [hok] at hc
            cases hc
          · obtain rfl := Except.error.inj (herr.symm.trans hc)
            exact .unknownKey hs hk hn hleast
      · obtain ⟨hunset,rfl⟩ := (hsettle hs hok).1 hread
        exact .unsettled hs ((configure_result_eq_ok_iff h hs).1 hok) hunset
    · have herr := configure_of_load_error h named hload
      rcases hrun with hc | ⟨hok,-⟩
      · obtain rfl := Except.error.inj (herr.symm.trans hc)
        exact sessionFault_of_load_error named hload
      · rw [herr] at hok
        cases hok
  · intro hfault
    cases hfault with
    | missing named absent =>
      exact .inl (configure_of_load_error h named (by simp [Opener.load, absent]))
    | unopened named hask =>
      exact .inl (configure_of_load_error h named (by simp [Opener.load, hask]))
    | unread named found hread =>
      exact .inl (configure_of_load_error h named
        (by simp [Opener.load, found, Opener.readProperties, hread]))
    | @unknownKey source key hs mem unknown least =>
      obtain ⟨p,hp⟩ := configure_of_reads h hs
      refine .inl (hp ▸ ?_)
      rcases resolve_of_host h p source with ⟨hknown,-⟩ | ⟨key',hk,hn,hleast,herr⟩
      · obtain ⟨entry,he,rfl⟩ := List.mem_map.1 mem
        exact absurd (hknown entry he) unknown
      · rw [herr, String.le_antisymm (least key' hk hn) (hleast key mem unknown)]
    | @unsettled source hs known unset =>
      have hok := (configure_result_eq_ok_iff h hs).2 known
      exact .inr ⟨hok,(hsettle hs hok).2 ⟨unset,rfl⟩⟩

lemma HostFault.stage_eq {e : RunError} (h : q.HostFault parameters e) :
    e.stage = .parameters ∨ e.stage = .assignments := by
  cases h with
  | parameter => exact .inl rfl
  | assignment => exact .inr rfl

/-- The kinds of error that a run can end in. -/
def failureCodes : List String :=
  ["UNKNOWN_FIELD","FIELD_ACCESS_ERROR","MISSING_PROPERTIES_RESOURCE",
    "MALFORMED_PROPERTIES_STREAM","MISSING_REQUIRED_FIELD"]

lemma Fails.code_mem {e : RunError} (h : q.Fails parameters env opener e) :
    e.cause.code ∈ failureCodes := by
  cases h with
  | host h =>
    cases h with
    | parameter _ _ fault => cases fault <;> simp [failureCodes, ConfigError.code]
    | assignment => simp [failureCodes, ConfigError.code]
  | session _ h => cases h <;> simp [failureCodes, ConfigError.code]

lemma Fails.stage_eq {e : RunError} (h : q.Fails parameters env opener e) :
    e.stage = .parameters ∨ e.stage = .assignments ∨ e.stage = .session := by
  cases h with
  | host h => exact h.stage_eq.imp_right .inl
  | session => exact .inr (.inr rfl)

/-- The failures of a run. It fails by the first fault there is: a parameter that cannot be given to
a field, an assignment to no field, a properties file that is not there or cannot be read, a key of
the file that names no field, no change log. What the environment and the flags give never makes it
fail, and no error of another kind is met. -/
theorem resolveWith_fails_iff (q : Request) (opener : Opener) (host : HostParameters)
    (env : Environment) :
    (∀ e, (q.resolveWith opener host env).result = .error e ↔
      q.Fails host.config.parameters env opener e) ∧
    ∀ e, (q.resolveWith opener host env).result = .error e →
      e.stage ∉ [.environment,.flags] ∧ e.cause.code ∈ failureCodes := by
  have hiff : ∀ e, (q.resolveWith opener host env).result = .error e ↔
      q.Fails host.config.parameters env opener e := by
    intro e
    simp only [resolveWith, Logged.after_result, Logged.andThen_result_eq_error_iff,
      Outcome.inStage_result_eq_error_iff, Logged.quiet, reduceCtorEq, and_false, exists_false,
      or_false, hostRegistry_result_eq_error_iff]
    constructor
    · rintro (h | ⟨r,hr,hstage,hrun⟩)
      · exact .host h
      · obtain ⟨stage,cause⟩ := e
        obtain rfl := hstage
        refine .session (fun e he => ?_)
          ((run_result_eq_error_iff (hostLeaves_of_hostRegistry hr)).1 hrun)
        rw [hostRegistry_result_eq_error_iff.2 he] at hr
        cases hr
    · intro h
      cases h with
      | host h => exact .inl h
      | session filled h =>
        obtain ⟨r,hr⟩ := exists_hostRegistry_of_forall_not filled
        exact .inr ⟨r,hr,rfl,(run_result_eq_error_iff (hostLeaves_of_hostRegistry hr)).2 h⟩
  refine ⟨hiff,fun e he => ?_⟩
  have hfails := (hiff e).1 he
  refine ⟨?_,hfails.code_mem⟩
  rcases hfails.stage_eq with h | h | h <;> simp [h]

end Request

end LayeredSettings
