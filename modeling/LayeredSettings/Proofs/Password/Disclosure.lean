import LayeredSettings.Proofs.Password.Run

/-! Which runs show the password in their log, told from what the host and the file give: injection
shows the text of a parameter, resolution the text of an entry that it applies. -/
namespace LayeredSettings

open Properties (Source)

variable {q q' : Request} {opener opener' : Opener} {host host' : HostParameters}
  {env env' : Environment}

namespace Request

/-- A run that applies the properties entry of the password: the host succeeds and names the file,
each smaller key names a field, and the file may replace what the host gives to the password. -/
structure AppliesPassword (q : Request) (parameters : Dictionary Json) (env : Environment)
    (opener : Opener) (source : Source) : Prop where
  host : ∃ r, (q.hostRegistry parameters env).result = .ok r
  reads : q.Reads parameters env opener (some source)
  reached : ∀ key ∈ source.keys, key < "password" → key ∈ Registry.standard.names
  yields : q.Yields parameters env Field.password

lemma loads_iff_reads {parameters : Dictionary Json} {r : Registry} {source : Source}
    (hr : (q.hostRegistry parameters env).result = .ok r) :
    r.Loads opener source ↔ q.Reads parameters env opener (some source) := by
  simp only [Registry.Loads, Reads, text_propertiesFile_iff (hostLeaves_of_hostRegistry hr),
    Option.map_some]

lemma get?_password_of_hostRegistry {parameters : Dictionary Json} {r : Registry}
    (hr : (q.hostRegistry parameters env).result = .ok r) : r.get? "password" =
      some (Field.password.holding (q.hostValue parameters env Field.password)) := by
  have hstd : Registry.standard.get? "password" = some Field.password := by decide
  rw [get?_of_fields_eq_holding (hostLeaves_of_hostRegistry hr), hstd, Option.map_some]

/-- The registry that the host leaves behind takes the password from the file exactly if the host
gives it room to. -/
theorem appliesPassword_iff {parameters : Dictionary Json} {r : Registry} {source : Source}
    (hr : (q.hostRegistry parameters env).result = .ok r) :
    r.AppliesPassword opener source ↔ q.AppliesPassword parameters env opener source := by
  have hleaves := hostLeaves_of_hostRegistry hr
  obtain ⟨p,hpolicy,hoverride⟩ := exists_policy hleaves
  have hget := get?_password_of_hostRegistry hr
  have hreached : (∀ a ∈ source.entries, a.1 < "password" → ∀ e, ¬ p.Fault r a.1 e) ↔
      ∀ key ∈ source.keys, key < "password" → key ∈ Registry.standard.names := by
    simp only [forall_not_fault_iff hleaves, Dictionary.keys, List.forall_mem_map]
  constructor
  · rintro ⟨hloads,p',f,hp',hall,hf,hreplaces⟩
    obtain rfl : p = p' := Except.ok.inj (hpolicy.symm.trans hp')
    obtain rfl := Option.some.inj (hget.symm.trans hf)
    exact ⟨⟨r,hr⟩,(loads_iff_reads hr).1 hloads,hreached.1 hall,
      (replaces_holding_iff hoverride _).1 hreplaces⟩
  · rintro ⟨-,hreads,hall,hyields⟩
    exact ⟨(loads_iff_reads hr).2 hreads,p,_,hpolicy,hreached.2 hall,hget,
      (replaces_holding_iff hoverride _).2 hyields⟩

lemma events_resolveWith (q : Request) (opener : Opener) (host : HostParameters)
    (env : Environment) : (q.resolveWith opener host env).events =
      host.sources.map (fun (tier,path) => sourceEvent tier path) ++
        ((q.hostRegistry host.config.parameters env).events ++
          match (q.hostRegistry host.config.parameters env).result with
          | .ok r => (r.run opener).events
          | .error _ => []) := by
  unfold resolveWith
  rw [Logged.after_events]
  cases hr : (q.hostRegistry host.config.parameters env).result with
  | error e => simp [Logged.andThen_of_error hr]
  | ok r =>
    rw [Logged.andThen_of_ok hr, Logged.after_events]
    cases hrun : (r.run opener).result with
    | error e => simp [Outcome.inStage_of_error hrun, Logged.andThen]
    | ok settings => simp [Outcome.inStage_of_ok hrun, Logged.andThen, Logged.quiet]

end Request

namespace DifferInPassword

/-- Two runs that differ in the password report the same exactly if, as far as they come to it, the
password's parameter has the same text in both, and so has the password's properties entry. -/
theorem events_eq_iff (h : DifferInPassword q q' opener opener' host host' env env') :
    (q.resolveWith opener host env).events = (q'.resolveWith opener' host' env').events ↔
      (InjectionReaches host.config.parameters →
        (host.config.parameters.get? "password").bind Field.passwordText =
          (host'.config.parameters.get? "password").bind Field.passwordText) ∧
      ∀ source other, q.AppliesPassword host.config.parameters env opener source →
        q'.Reads host'.config.parameters env' opener' (some other) →
        source.get? "password" = other.get? "password" := by
  obtain ⟨hresult,hev⟩ := h.hostRegistry
  rw [Request.events_resolveWith, Request.events_resolveWith, ← h.sources,
    List.append_cancel_left_eq]
  refine SameIff.eq_iff (hev.append ?_)
  cases hr : (q.hostRegistry host.config.parameters env).result with
  | error e =>
    rw [hr] at hresult
    rw [hresult.error_left]
    refine .of_eq rfl ?_
    rintro source other ⟨⟨r,hok⟩,-⟩
    rw [hr] at hok
    cases hok
  | ok r =>
    rw [hr] at hresult
    obtain ⟨s,hs,halike⟩ := hresult.ok_left
    rw [hs]
    refine (halike.run_sameIff h.events h.results).congr ?_
    simp only [Request.appliesPassword_iff hr, Request.loads_iff_reads hs]

/-- A request with one password as a flag and another as an assignment. -/
def sampleRequest (flag assignment : String) : Request where
  changeLogFile := some "changes.xml"
  password := some flag
  assignments := [("password",assignment)]

def sampleEnvironment (text : String) : Environment := fun name =>
  if name = VariableName.ofField "password" then some text else none

def sampleHost (text : String) : HostParameters where
  config.parameters := .ofList [("password",.string text)]

lemma sample (flag assignment value text : String) {flag' assignment' value' text' : String} :
    DifferInPassword (sampleRequest flag assignment) (sampleRequest flag' assignment')
      (.composite []) (.composite []) (sampleHost text) (sampleHost text')
      (sampleEnvironment value) (sampleEnvironment value') where
  request := rfl
  flag := rfl
  assignments := .cons ⟨rfl,fun hne => absurd rfl hne⟩ .nil
  sources := rfl
  parameters := .inr ⟨[],[],.string text,.string text',⟨rfl,rfl⟩,rfl,rfl⟩
  environment name hn := by
    have hnone (text : String) : sampleEnvironment text name = none := if_neg hn
    rw [hnone, hnone]
  presence := by
    have hsome (text : String) :
        sampleEnvironment text (VariableName.ofField "password") = some text := if_pos rfl
    rw [hsome, hsome]
    rfl
  events _ := rfl
  results _ := .error _

/-- A flag, an assignment and a variable for the password may differ without a trace in the log. -/
theorem sample_events_eq :
    ((sampleRequest "a" "b").resolveWith (.composite []) (sampleHost "s")
        (sampleEnvironment "c")).events =
      ((sampleRequest "x" "y").resolveWith (.composite []) (sampleHost "s")
        (sampleEnvironment "z")).events := by
  refine (events_eq_iff (sample "a" "b" "c" "s")).2 ⟨fun _ => rfl,?_⟩
  rintro source other ⟨-,⟨path,hpath,-⟩,-,-⟩
  have hnone : (sampleRequest "a" "b").hostValueAt (sampleHost "s").config.parameters
      (sampleEnvironment "c") "propertiesFile" = none := by decide +kernel
  rw [hnone] at hpath
  cases hpath

/-- The text of a parameter is shown: two runs that differ in it only report different events. -/
theorem sample_events_ne :
    DifferInPassword (sampleRequest "a" "b") (sampleRequest "a" "b") (.composite [])
        (.composite []) (sampleHost "hunter2") (sampleHost "swordfish") (sampleEnvironment "c")
        (sampleEnvironment "c") ∧
      ((sampleRequest "a" "b").resolveWith (.composite []) (sampleHost "hunter2")
          (sampleEnvironment "c")).events ≠
        ((sampleRequest "a" "b").resolveWith (.composite []) (sampleHost "swordfish")
          (sampleEnvironment "c")).events :=
  ⟨sample "a" "b" "c" "hunter2",by decide +kernel⟩

end DifferInPassword

end LayeredSettings
