import LayeredSettings.Migration
import LayeredSettings.Proofs.Resolution.Failure

/-! What a migration does with settled settings, and on whose word. Whatever a field ends with was
given to it by some source, so nothing is dropped unless a source asks for it. -/
namespace LayeredSettings

open Properties (Source)

section
variable {ε : Type} {engine : MigrationCall → Except ε Unit} {call : MigrationCall}
  {rest : List MigrationCall}

lemma makeCalls_of_ok (h : engine call = .ok ()) : makeCalls engine (call :: rest) =
    ⟨call :: (makeCalls engine rest).calls,(makeCalls engine rest).result⟩ := by
  rw [makeCalls, h]

lemma makeCalls_of_error {e : ε} (h : engine call = .error e) :
    makeCalls engine (call :: rest) = ⟨[call],.error e⟩ := by
  rw [makeCalls, h]

lemma makeCalls_singleton : makeCalls engine [call] = ⟨[call],engine call⟩ := by
  cases h : engine call with
  | error e => exact makeCalls_of_error h
  | ok _ => exact makeCalls_of_ok h

end

/-- Without a drop the contexts are chosen and the change log is applied; with one this comes after
the drop, and does not come at all if the drop fails. -/
theorem Settings.migrate_spec {ε : Type} (s : Settings) (dropAll : Except ε Unit)
    (update : String → Except ε Unit) :
    s.dropFirst = false ∧ (s.migrate dropAll update).result =
        ⟨[.setContexts s.contextList,.update s.changeLogFile],update s.changeLogFile⟩ ∨
    s.dropFirst = true ∧
      ((∃ e, dropAll = .error e ∧ (s.migrate dropAll update).result = ⟨[.dropAll],.error e⟩) ∨
        dropAll = .ok () ∧ (s.migrate dropAll update).result =
          ⟨[.dropAll,.setContexts s.contextList,.update s.changeLogFile],
            update s.changeLogFile⟩) := by
  unfold migrate plan
  cases s.dropFirst with
  | false =>
    refine .inl ⟨rfl,?_⟩
    simp only [Bool.false_eq_true, if_false, List.nil_append]
    rw [makeCalls_of_ok rfl, makeCalls_singleton]
  | true =>
    refine .inr ⟨rfl,?_⟩
    simp only [if_true, List.cons_append, List.nil_append]
    cases dropAll with
    | error e => exact .inl ⟨e,rfl,makeCalls_of_error rfl⟩
    | ok _ =>
      refine .inr ⟨rfl,?_⟩
      rw [makeCalls_of_ok rfl, makeCalls_of_ok rfl, makeCalls_singleton]

/-- A text that is "true" but for the case of its letters. -/
def SpellsTrue (raw : String) : Prop := raw.toLower = "true"

lemma coerce_boolean_eq_true_iff {raw : String} :
    coerce .boolean raw = .bool true ↔ SpellsTrue raw := by
  have htrue : "true".toList.map Char.toLower = "true".toList := by decide
  have hraw : raw.toLower.toList = raw.toList.map Char.toLower := String.toList_map
  rw [coerce, Value.bool.injEq, equalIgnoringCase, beq_iff_eq, htrue, SpellsTrue,
    ← String.toList_inj, hraw]

namespace Field

def dropFirst : Field :=
  ({ name := "dropFirst", kind := .boolean, set := .configurable } : Field).withDefault
    (.bool false)

lemma dropFirst_mem : dropFirst ∈ Registry.standard.fields := by decide

lemma changeLogFile_mem : changeLogFile ∈ Registry.standard.fields := by decide

/-- A parameter turns a boolean field on if it is true or spells it. -/
lemma eq_of_valueFor_eq_true {f : Field} (hf : f.kind = .boolean) {parameter : Json}
    (h : f.valueFor parameter = .ok (some (.bool true))) :
    parameter = .bool true ∨ ∃ raw, parameter = .string raw ∧ SpellsTrue raw := by
  unfold valueFor at h
  rw [hf] at h
  cases parameter with
  | bool b =>
    injection h with h
    injection h with h
    injection h with h
    exact .inl (congrArg Json.bool h)
  | string raw =>
    injection h with h
    injection h with h
    exact .inr ⟨raw,rfl,coerce_boolean_eq_true_iff.1 h⟩
  | null => cases h
  | number n => cases h
  | array items => cases h
  | object members => cases h

end Field

namespace Request

section
variable (q : Request) (parameters : Dictionary Json) (env : Environment) (source : Option Source)

/-- A source of a run gives a field a value. -/
inductive Supplies (f : Field) (v : Value) : Prop
  | entry {s : Source} {raw : String} (reads : source = some s) (h : s.get? f.name = some raw)
      (means : coerce f.kind raw = v)
  | assignment {raw : String} (h : (f.name,raw) ∈ q.assignments) (means : coerce f.kind raw = v)
  | flag (h : q.flag? f.name = some v)
  | variable {raw : String} (h : env (VariableName.ofField f.name) = some raw)
      (means : coerce f.kind raw = v)
  | parameter {item : Json} (h : parameters.get? f.name = some item)
      (means : f.valueFor item = .ok (some v))
  | default (h : f.default = some v)

/-- A source of a run asks for a drop: the properties file, an assignment, the flag, the environment
variable or a parameter. -/
inductive AsksToDrop : Prop
  | entry {s : Source} {raw : String} (reads : source = some s)
      (h : s.get? "dropFirst" = some raw) (spells : SpellsTrue raw)
  | assignment {raw : String} (h : ("dropFirst",raw) ∈ q.assignments) (spells : SpellsTrue raw)
  | flag (h : q.dropFirst = some true)
  | variable {raw : String} (h : env "MIGRATE_DROP_FIRST" = some raw) (spells : SpellsTrue raw)
  | parameter (h : parameters.get? "dropFirst" = some (.bool true))
  | parameterText {raw : String} (h : parameters.get? "dropFirst" = some (.string raw))
      (spells : SpellsTrue raw)

end

variable {q : Request} {parameters : Dictionary Json} {env : Environment} {source : Option Source}
  {f : Field} {v : Value}

lemma flag?_of_lookup {name : String} (h : q.flags.lookup name = some v) :
    q.flag? name = some v := by
  rw [flags_eq_filterMap, Registry.lookup_filterMap_graph] at h
  split_ifs at h
  exact h

/-- What the host gives to a field comes from a source of the host. -/
lemma supplies_of_hostValue (h : q.hostValue parameters env f = some v) :
    q.Supplies parameters env source f v := by
  unfold hostValue at h
  simp only [Option.or_eq_some_iff] at h
  rcases h with h | ⟨-,h | ⟨-,h | ⟨-,h | ⟨-,h⟩⟩⟩⟩
  · obtain ⟨raw,hraw,hv⟩ := Option.map_eq_some_iff.1 h
    obtain ⟨before,after,he,-⟩ := List.lookup_eq_some_iff.1 hraw
    have hmem : (f.name,raw) ∈ q.assignments := List.mem_reverse.1 (by simp [he])
    exact .assignment hmem hv
  · exact .flag (flag?_of_lookup h)
  · obtain ⟨raw,hraw,hv⟩ := Option.map_eq_some_iff.1 h
    exact .variable hraw hv
  · obtain ⟨item,hitem,hv⟩ := Option.bind_eq_some_iff.1 h
    cases hi : f.valueFor item with
    | error e => simp [hi, Except.toOption] at hv
    | ok given =>
      rw [hi] at hv
      obtain rfl : given = some v := hv
      exact .parameter hitem hi
  · exact .default h

/-- Provenance: whatever a field ends with was given to it by some source. -/
theorem supplies_of_finalValue (h : q.finalValue parameters env source f = some v) :
    q.Supplies parameters env source f v := by
  unfold finalValue at h
  cases hraw : source.bind (·.get? f.name) with
  | none =>
    rw [hraw] at h
    exact supplies_of_hostValue h
  | some raw =>
    rw [hraw] at h
    obtain ⟨s,hs,hget⟩ := Option.bind_eq_some_iff.1 hraw
    simp only at h
    split_ifs at h
    · exact .entry hs hget (Option.some.inj h)
    · exact supplies_of_hostValue h

/-- The default does not ask for a drop, so a source that gives the field true does. -/
theorem Supplies.asksToDrop (h : q.Supplies parameters env source Field.dropFirst (.bool true)) :
    q.AsksToDrop parameters env source := by
  cases h with
  | entry reads h means => exact .entry reads h (coerce_boolean_eq_true_iff.1 means)
  | assignment h means => exact .assignment h (coerce_boolean_eq_true_iff.1 means)
  | flag h =>
    obtain ⟨b,hb,hv⟩ := Option.map_eq_some_iff.1 h
    injection hv with hv
    exact .flag (hv ▸ hb)
  | «variable» h means =>
    have hname : VariableName.ofField Field.dropFirst.name = "MIGRATE_DROP_FIRST" := by
      decide +kernel
    exact .variable (hname ▸ h) (coerce_boolean_eq_true_iff.1 means)
  | parameter h means =>
    rcases Field.eq_of_valueFor_eq_true rfl means with rfl | ⟨raw,rfl,hspells⟩
    · exact .parameter h
    · exact .parameterText h hspells
  | default h => simp [Field.dropFirst, Field.withDefault] at h

/-- No accidental drop. A migration with the settings of a run drops only if a source of the run
asks for it, and does so before anything else; if that fails nothing follows. Otherwise the contexts
are chosen, and then the change log that the run ends with is applied, its name trimmed. -/
theorem migrate_drops_only_on_request {opener : Opener} {host : HostParameters}
    {settings : Settings} (h : (q.resolveWith opener host env).result = .ok settings) {ε : Type}
    (dropAll : Except ε Unit) (update : String → Except ε Unit) :
    ∃ source file, q.Reads host.config.parameters env opener source ∧
      q.finalValue host.config.parameters env source Field.changeLogFile = some (.text file) ∧
      ((settings.migrate dropAll update).result =
          ⟨[.setContexts settings.contextList,.update (Text.trimmed file)],
            update (Text.trimmed file)⟩ ∨
        q.AsksToDrop host.config.parameters env source ∧
          ((∃ e, dropAll = .error e ∧
              (settings.migrate dropAll update).result = ⟨[.dropAll],.error e⟩) ∨
            dropAll = .ok () ∧ (settings.migrate dropAll update).result =
              ⟨[.dropAll,.setContexts settings.contextList,.update (Text.trimmed file)],
                update (Text.trimmed file)⟩)) := by
  obtain ⟨r,hr,hrun⟩ := resolveWith_result_eq_ok_iff.1 h
  obtain ⟨hconfigured,hread⟩ := Registry.run_result_eq_ok_iff.1 hrun
  obtain ⟨source,hsource,hfields⟩ := configure_of_host (hostLeaves_of_hostRegistry hr) hconfigured
  have hvalue := Settings.value_of_ofRegistry hread hfields
    fun g _ hdefault => finalValue_ne_none hdefault source
  have hfile : ∃ file, settings.changeLogFile = Text.trimmed file ∧
      q.finalValue host.config.parameters env source Field.changeLogFile = some (.text file) := by
    obtain ⟨v,hv,hshown⟩ := Option.map_eq_some_iff.1 (hvalue _ Field.changeLogFile_mem).symm
    cases v with
    | text file =>
      injection hshown with hshown
      exact ⟨file,hshown.symm,hv⟩
    | bool b => cases hshown
  have hdrop (hon : settings.dropFirst = true) :
      q.AsksToDrop host.config.parameters env source := by
    obtain ⟨v,hv,hshown⟩ := Option.map_eq_some_iff.1 (hvalue _ Field.dropFirst_mem).symm
    cases v with
    | text file => cases hshown
    | bool b =>
      injection hshown with hshown
      rw [hshown, hon] at hv
      exact (supplies_of_finalValue hv).asksToDrop
  obtain ⟨file,hname,hfile⟩ := hfile
  refine ⟨source,file,hsource,hfile,?_⟩
  rw [← hname]
  rcases settings.migrate_spec dropAll update with ⟨-,hmigrate⟩ | ⟨hon,hmigrate⟩
  · exact .inl hmigrate
  · exact .inr ⟨hdrop hon,hmigrate⟩

/-- The sample has a source that asks for a drop; when that is refused, nothing else is done. -/
theorem sample_drops_on_request :
    (sample.resolveWith sampleOpener sampleHost sampleEnvironment).result = .ok sampleSettings ∧
    (∃ source, sample.Reads sampleHost.config.parameters sampleEnvironment sampleOpener source ∧
      sample.AsksToDrop sampleHost.config.parameters sampleEnvironment source) ∧
    (sampleSettings.migrate (.error "refused") fun _ => .ok ()).result =
      ⟨[.dropAll],.error "refused"⟩ := by
  have h : (sample.resolveWith sampleOpener sampleHost sampleEnvironment).result =
      .ok sampleSettings := by decide +kernel
  have hrefused : (sampleSettings.migrate (.error "refused") fun _ => .ok ()).result =
      ⟨[.dropAll],.error "refused"⟩ := rfl
  obtain ⟨source,file,hreads,-,hmigrate⟩ :=
    migrate_drops_only_on_request h (.error "refused") fun _ => .ok ()
  rcases hmigrate with hkept | ⟨hasks,-⟩
  · rw [hrefused] at hkept
    injection hkept with hcalls
    cases hcalls
  · exact ⟨h,⟨source,hreads,hasks⟩,hrefused⟩

end Request

end LayeredSettings
