import LayeredSettings.Resolution
import LayeredSettings.Proofs.Registry.Typing
import LayeredSettings.Proofs.Resolution.Host
import LayeredSettings.Proofs.Settings

/-! Which value every field has at the end of a run: the host's, unless a properties file that the
host names has an entry for the field and may replace what the host gave. -/
namespace LayeredSettings

open Properties (Source)

namespace Request

variable (q : Request) (parameters : Dictionary Json) (env : Environment)

/-- What the host gives to the field of a name. -/
def hostValueAt (name : String) : Option Value :=
  (Registry.standard.get? name).bind (q.hostValue parameters env)

/-- The source of a run is what the opener reads at the path that the host gives; there is none if
the host gives no path. -/
def Reads (opener : Opener) : Option Source → Prop
  | none => q.hostValueAt parameters env "propertiesFile" = none
  | some source => ∃ path, q.hostValueAt parameters env "propertiesFile" = some (.text path) ∧
      (opener.load path).result = .ok source

/-- The file may replace what the host gives: it overrides, or the host gives nothing, or only the
default. -/
def Yields (f : Field) : Prop :=
  q.hostValueAt parameters env "propertyFileWillOverride" = some (.bool true) ∨
    q.hostValue parameters env f = none ∨
    f.default.isSome = true ∧ q.hostValue parameters env f = f.default

instance (f : Field) : Decidable (q.Yields parameters env f) :=
  inferInstanceAs (Decidable (_ ∨ _))

/-- What a field holds in the end. -/
def finalValue (source : Option Source) (f : Field) : Option Value :=
  match source.bind (·.get? f.name) with
  | none => q.hostValue parameters env f
  | some raw =>
    if q.Yields parameters env f then some (coerce f.kind raw) else q.hostValue parameters env f

variable {q parameters env}

lemma get?_of_fields_eq_holding {r : Registry} {held : Field → Option Value}
    (h : r.fields = Registry.standard.fields.map fun f => f.holding (held f)) (name : String) :
    r.get? name = (Registry.standard.get? name).map fun f => f.holding (held f) :=
  Registry.get?_of_fields_eq_map (fun f => f.holding_name (held f)) h name

/-- The path of the properties file is what the host gives to its field. -/
lemma text_propertiesFile_iff {r : Registry} (h : q.HostLeaves parameters env r)
    {given : Option String} : r.text "propertiesFile" = .ok given ↔
      q.hostValueAt parameters env "propertiesFile" = given.map .text := by
  have hget := get?_of_fields_eq_holding h "propertiesFile"
  have hstd : Registry.standard.get? "propertiesFile" = some
      { name := "propertiesFile", kind := .text, set := .configurable } := by decide
  rw [hstd, Option.map_some] at hget
  rw [Registry.text_eq_ok_iff hget, Field.holding_current, hostValueAt, hstd, Option.bind_some]

/-- The host leaves a policy behind, which is what it gives to the policy's field. -/
theorem exists_policy {r : Registry} (h : q.HostLeaves parameters env r) :
    ∃ p, Policy.ofRegistry r = .ok p ∧ (p.override = true ↔
      q.hostValueAt parameters env "propertyFileWillOverride" = some (.bool true)) := by
  have hget := get?_of_fields_eq_holding h "propertyFileWillOverride"
  have hstd : Registry.standard.get? "propertyFileWillOverride" = some
      { name := "propertyFileWillOverride", kind := .boolean, set := .configurable,
        default := some (.bool false), current := some (.bool false) } := by decide
  rw [hstd, Option.map_some] at hget
  unfold Policy.ofRegistry
  rw [hostValueAt, hstd, Option.bind_some, Registry.flag_of_get? hget, Field.holding_current]
  cases hv : q.hostValue parameters env _ with
  | none => exact ⟨⟨false⟩,rfl,by simp⟩
  | some v =>
    cases v with
    | bool b => exact ⟨⟨b⟩,rfl,by simp⟩
    | text t => cases kind_of_hostValue (Registry.get?_eq_some_iff.1 hstd).1 hv

/-- A policy that replaces what the host left in a field is one to which the host's value yields. -/
lemma replaces_holding_iff {p : Policy} (hp : p.override = true ↔
      q.hostValueAt parameters env "propertyFileWillOverride" = some (.bool true)) (f : Field) :
    p.Replaces (f.holding (q.hostValue parameters env f)) ↔ q.Yields parameters env f := by
  simp only [Policy.Replaces, Yields, hp, Field.holding_current, Field.holding_default,
    eq_comm (a := f.default)]

lemma settle_holding {p : Policy} (hp : p.override = true ↔
      q.hostValueAt parameters env "propertyFileWillOverride" = some (.bool true))
    (source : Source) (f : Field) :
    p.settle source (f.holding (q.hostValue parameters env f)) =
      f.holding (q.finalValue parameters env (some source) f) := by
  simp only [Policy.settle, Field.holding_name, finalValue, Option.bind_some,
    replaces_holding_iff hp]
  cases source.get? f.name with
  | none => rfl
  | some raw => by_cases h : q.Yields parameters env f <;> simp [h]

lemma HostLeaves.wellTyped {r : Registry} (h : q.HostLeaves parameters env r) : r.WellTyped := by
  intro f hf
  rw [h] at hf
  obtain ⟨g,hg,rfl⟩ := List.mem_map.1 hf
  exact ⟨fun _ hv => kind_of_default hg hv,fun _ hv => kind_of_hostValue hg hv⟩

lemma HostLeaves.names_eq {r : Registry} (h : q.HostLeaves parameters env r) :
    r.names = Registry.standard.names :=
  Registry.names_of_fields_eq_map (fun f => f.holding_name _) h

/-- Where the host fills in a registry, an entry is at fault only if it names no field. -/
lemma forall_not_fault_iff {r : Registry} {p : Policy} {key : String}
    (h : q.HostLeaves parameters env r) :
    (∀ e, ¬ p.Fault r key e) ↔ key ∈ Registry.standard.names := by
  simp only [h.wellTyped.fault_iff, h.names_eq, not_and, imp_not_comm, forall_eq, not_not]

/-- Configuring what the host left behind reads the source of the run and leaves final values. -/
theorem configure_of_host {r : Registry} {opener : Opener}
    (h : q.HostLeaves parameters env r) (hok : (r.configure opener).result = .ok ()) :
    ∃ source, q.Reads parameters env opener source ∧
      (r.configure opener).registry.fields =
        Registry.standard.fields.map fun f => f.holding (q.finalValue parameters env source f) := by
  unfold Registry.configure at hok ⊢
  cases htext : r.text "propertiesFile" with
  | error e => simp [htext, Outcome.failed] at hok
  | ok given =>
    have hgiven := (text_propertiesFile_iff h).1 htext
    cases given with
    | none => exact ⟨none,hgiven,h⟩
    | some path =>
      simp only [htext] at hok ⊢
      cases hload : (opener.load path).result with
      | error e => simp [hload, Outcome.failed] at hok
      | ok source =>
        obtain ⟨p,hpolicy,hoverride⟩ := exists_policy h
        simp only [hload, hpolicy, Outcome.after_result, Outcome.after_registry] at hok ⊢
        refine ⟨some source,⟨path,hgiven,hload⟩,?_⟩
        rw [Registry.fields_of_resolve_ok hok, h, List.map_map]
        exact List.map_congr_left fun f _ => settle_holding hoverride source f

/-- A boolean field never ends empty, for it has a default. -/
lemma finalValue_ne_none {f : Field} (h : f.default.isSome = true) (source : Option Source) :
    q.finalValue parameters env source f ≠ none := by
  have hhost : q.hostValue parameters env f ≠ none := by
    obtain ⟨d,hd⟩ := Option.isSome_iff_exists.1 h
    simp [hostValue, hd]
  unfold finalValue
  cases source.bind (·.get? f.name) with
  | none => exact hhost
  | some raw =>
    simp only []
    split_ifs
    · exact Option.some_ne_none _
    · exact hhost

end Request

/-- A value as the settings show it: the change log's name is trimmed. -/
def Value.shownAt (name : String) : Value → Value
  | .text s => if name = "changeLogFile" then .text (Text.trimmed s) else .text s
  | .bool b => .bool b

lemma Value.map_shownAt_text {name : String} (h : name ≠ "changeLogFile") (given : Option String) :
    (given.map Value.text).map (Value.shownAt name) = given.map .text := by
  rw [Option.map_map]
  congr 1
  funext s
  exact if_neg h

namespace Settings

variable {r : Registry} {s : Settings}

/-- Settings show what the fields of their registry hold, provided that no field with a default is
empty. -/
theorem value_of_ofRegistry {held : Field → Option Value} (h : ofRegistry r = .ok s)
    (hr : r.fields = Registry.standard.fields.map fun f => f.holding (held f))
    (hd : ∀ f ∈ Registry.standard.fields, f.default.isSome = true → held f ≠ none) :
    ∀ f ∈ Registry.standard.fields, s.value f.name = (held f).map (Value.shownAt f.name) := by
  intro f hf
  have hget : r.get? f.name = some (f.holding (held f)) := by
    rw [Registry.get?_of_fields_eq_map (fun f => f.holding_name (held f)) hr, Registry.get?_name hf]
    rfl
  have hne := hd f hf
  have htext {given : Option String} (ht : r.text f.name = .ok given) :
      held f = given.map .text := (Registry.text_eq_ok_iff hget).1 ht
  have hoptional {given : Option String} (hn : f.name ≠ "changeLogFile")
      (ht : r.text f.name = .ok given) :
      given.map .text = (held f).map (Value.shownAt f.name) := by
    rw [htext ht, Value.map_shownAt_text hn]
  have hflag {b : Bool} (hb : r.flag f.name = .ok b) (hdef : f.default.isSome = true) :
      some (.bool b) = (held f).map (Value.shownAt f.name) := by
    rcases (Registry.flag_eq_ok_iff hget).1 hb with hb | ⟨hnone,-⟩
    · rw [Field.holding_current] at hb
      rw [hb]
      rfl
    · exact absurd hnone (hne hdef)
  obtain ⟨⟨file,h₁,hfile⟩,h₂,⟨contexts,h₃,hcontexts⟩,h₄,h₅,h₆,h₇,h₈,h₉,h₁₀⟩ := ofRegistry_eq_ok h
  simp only [Registry.standard, Field.baseTable, Field.configurableTable, List.cons_append,
    List.nil_append, List.mem_cons, List.not_mem_nil, or_false] at hf
  rcases hf with rfl | rfl | rfl | rfl | rfl | rfl | rfl | rfl | rfl | rfl
  · exact hoptional (by decide) h₆
  · exact hoptional (by decide) h₇
  · exact hoptional (by decide) h₈
  · exact hoptional (by decide) h₉
  · exact hflag h₁₀ rfl
  · rw [htext h₁]
    exact congrArg (fun text => some (Value.text text)) hfile
  · exact hflag h₂ rfl
  · cases contexts with
    | none => exact absurd (htext h₃) (hne rfl)
    | some text =>
      rw [htext h₃]
      exact congrArg (fun text => some (Value.text text)) hcontexts
  · exact hoptional (by decide) h₄
  · exact hflag h₅ rfl

end Settings

namespace Registry

@[simp] theorem registry_settle (r : Registry) : r.settle.registry = r := by
  unfold settle
  cases Settings.ofRegistry r <;> rfl

theorem settle_result (r : Registry) : r.settle.result = Settings.ofRegistry r := by
  unfold settle
  cases Settings.ofRegistry r <;> rfl

theorem run_result_eq_ok_iff {r : Registry} {opener : Opener} {settings : Settings} :
    (r.run opener).result = .ok settings ↔ (r.configure opener).result = .ok () ∧
      Settings.ofRegistry (r.configure opener).registry = .ok settings := by
  unfold run
  cases hc : (r.configure opener).result with
  | error e => simp [Outcome.andThen_of_error hc, Outcome.failed]
  | ok value => simp [Outcome.andThen_of_ok hc, settle_result]

theorem run_result_eq_error_iff {r : Registry} {opener : Opener} {e : ConfigError} :
    (r.run opener).result = .error e ↔ (r.configure opener).result = .error e ∨
      (r.configure opener).result = .ok () ∧
        Settings.ofRegistry (r.configure opener).registry = .error e := by
  unfold run
  cases hc : (r.configure opener).result with
  | error e => simp [Outcome.andThen_of_error hc, Outcome.failed]
  | ok value => simp [Outcome.andThen_of_ok hc, settle_result]

@[simp] theorem registry_run (r : Registry) (opener : Opener) :
    (r.run opener).registry = (r.configure opener).registry := by
  unfold run
  cases hc : (r.configure opener).result with
  | error e => simp [Outcome.andThen_of_error hc, Outcome.failed]
  | ok value => simp [Outcome.andThen_of_ok hc]

end Registry

namespace Request

lemma resolveWith_result_eq_ok_iff {q : Request} {opener : Opener} {host : HostParameters}
    {env : Environment} {settings : Settings} :
    (q.resolveWith opener host env).result = .ok settings ↔ ∃ r,
      (q.hostRegistry host.config.parameters env).result = .ok r ∧
        (r.run opener).result = .ok settings := by
  unfold resolveWith
  rw [Logged.after_result, Logged.andThen_result_eq_ok_iff]
  refine exists_congr fun r => and_congr_right fun _ => ?_
  constructor
  · intro h
    obtain ⟨⟨_,found⟩,hrun,h⟩ := Logged.andThen_result_eq_ok_iff.1 h
    obtain rfl : found = settings := Except.ok.inj h
    exact (Outcome.inStage_result_eq_ok_iff.1 hrun).1
  · intro h
    exact Logged.andThen_result_eq_ok_iff.2 ⟨_,Outcome.inStage_result_eq_ok_iff.2 ⟨h,rfl⟩,rfl⟩

/-- The settings of a run show the final values of its fields. -/
lemma exists_source_of_resolveWith {q : Request} {opener : Opener} {host : HostParameters}
    {env : Environment} {settings : Settings}
    (h : (q.resolveWith opener host env).result = .ok settings) :
    ∃ source, q.Reads host.config.parameters env opener source ∧
      ∀ f ∈ Registry.standard.fields, settings.value f.name =
        (q.finalValue host.config.parameters env source f).map (Value.shownAt f.name) := by
  obtain ⟨r,hr,hrun⟩ := resolveWith_result_eq_ok_iff.1 h
  obtain ⟨hconfigured,hread⟩ := Registry.run_result_eq_ok_iff.1 hrun
  obtain ⟨source,hsource,hfields⟩ := configure_of_host (hostLeaves_of_hostRegistry hr) hconfigured
  exact ⟨source,hsource,Settings.value_of_ofRegistry hread hfields
    fun g _ hdefault => finalValue_ne_none hdefault source⟩

/-- Whole-run precedence. A run that succeeds has filled in what the host gives to each field, has
read the file that the host names, if it names one, and ends with final values in every field; the
settings show these values. -/
theorem resolveWith_holds_final_values {q : Request} {opener : Opener} {host : HostParameters}
    {env : Environment} {settings : Settings}
    (h : (q.resolveWith opener host env).result = .ok settings) :
    ∃ r source, (q.hostRegistry host.config.parameters env).result = .ok r ∧
      q.Reads host.config.parameters env opener source ∧
      ∀ f ∈ Registry.standard.fields,
        (r.run opener).registry.get? f.name =
          some (f.holding (q.finalValue host.config.parameters env source f)) ∧
        settings.value f.name =
          (q.finalValue host.config.parameters env source f).map (Value.shownAt f.name) := by
  unfold resolveWith at h
  rw [Logged.after_result] at h
  obtain ⟨r,hr,h⟩ := Logged.andThen_result_eq_ok_iff.1 h
  obtain ⟨⟨r',settings'⟩,hrun,h⟩ := Logged.andThen_result_eq_ok_iff.1 h
  obtain rfl : settings' = settings := Except.ok.inj h
  obtain ⟨hrun,-⟩ := Outcome.inStage_result_eq_ok_iff.1 hrun
  obtain ⟨hconfigured,hread⟩ := Registry.run_result_eq_ok_iff.1 hrun
  have hhost := hostLeaves_of_hostRegistry hr
  obtain ⟨source,hsource,hfields⟩ := configure_of_host hhost hconfigured
  refine ⟨r,source,hr,hsource,fun f hf => ⟨?_,?_⟩⟩
  · rw [Registry.registry_run, get?_of_fields_eq_holding hfields, Registry.get?_name hf]
    rfl
  · exact Settings.value_of_ofRegistry hread hfields
      (fun g _ hdefault => finalValue_ne_none hdefault source) f hf

/-- A request in which an assignment, a flag, a variable, a parameter, a default and a file each
decide a field; the file also tries to replace the variable. -/
def sample : Request where
  changeLogFile := some " changes.xml "
  contexts := some "flag"
  assignments := [("contexts","first"),("contexts","last")]

def sampleHost : HostParameters where
  config.parameters := .ofList
    [("dropFirst",.bool true),("password",.null),("propertiesFile",.string "db.properties")]

def sampleEnvironment : Environment := fun name =>
  if name = VariableName.ofField "username" then some "environment" else none

def sampleOpener : Opener :=
  .leaf "memory" fun _ => .ok (some (.ok "username = file\nurl = file".toUTF8))

def sampleSettings : Settings where
  changeLogFile := "changes.xml"
  dropFirst := true
  contexts := "last"
  propertiesFile := some "db.properties"
  connection := {
    url := some "file", username := some "environment", promptOnNonLocalDatabase := true }

theorem sample_holds_final_values :
    (sample.resolveWith sampleOpener sampleHost sampleEnvironment).result = .ok sampleSettings ∧
    ∃ r source,
      (sample.hostRegistry sampleHost.config.parameters sampleEnvironment).result = .ok r ∧
      sample.Reads sampleHost.config.parameters sampleEnvironment sampleOpener source ∧
      ∀ f ∈ Registry.standard.fields,
        (r.run sampleOpener).registry.get? f.name = some (f.holding
          (sample.finalValue sampleHost.config.parameters sampleEnvironment source f)) ∧
        sampleSettings.value f.name =
          (sample.finalValue sampleHost.config.parameters sampleEnvironment source f).map
            (Value.shownAt f.name) := by
  have h : (sample.resolveWith sampleOpener sampleHost sampleEnvironment).result =
      .ok sampleSettings := by decide +kernel
  exact ⟨h,resolveWith_holds_final_values h⟩

end Request

end LayeredSettings
