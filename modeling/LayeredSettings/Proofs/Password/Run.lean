import LayeredSettings.Proofs.Password.Events
import LayeredSettings.Proofs.Resolution.Run

/-! What the log of a whole run tells about the password: the text of a parameter, and the text of a
properties entry, as far as the run comes to them. Flags, assignments and variables tell nothing. -/
namespace LayeredSettings

open Properties (Source)

/-- Two named texts of which only those for the password may differ. -/
def EntryAlike {α : Type} (a b : String × α) : Prop :=
  a.1 = b.1 ∧ (a.1 ≠ "password" → a.2 = b.2)

/-- Two runs whose inputs are the same but for the texts given to the password: as a flag, in
assignments, in a parameter, in the variable, in a properties file. -/
structure DifferInPassword (q q' : Request) (opener opener' : Opener) (host host' : HostParameters)
    (env env' : Environment) : Prop where
  request : q' = { q with password := q'.password, assignments := q'.assignments }
  flag : q.password.isSome = q'.password.isSome
  assignments : List.Forall₂ EntryAlike q.assignments q'.assignments
  sources : host.sources = host'.sources
  parameters : host.config.parameters.Alike GiveText host'.config.parameters
  environment : ∀ name, name ≠ VariableName.ofField "password" → env name = env' name
  presence : (env (VariableName.ofField "password")).isSome =
    (env' (VariableName.ofField "password")).isSome
  events : ∀ path, (opener.load path).events = (opener'.load path).events
  results : ∀ path, ResultAlike (Dictionary.Alike fun _ _ => True) (opener.load path).result
    (opener'.load path).result

/-- Logged results that are alike and report the same events. -/
structure Logged.Twin {α β ε : Type} (R : α → β → Prop) (a : Logged (Except ε α))
    (b : Logged (Except ε β)) : Prop where
  events : a.events = b.events
  result : ResultAlike R a.result b.result

namespace Logged.Twin

variable {α β γ δ ε : Type} {R : α → β → Prop} {S : γ → δ → Prop}

lemma after {a : Logged (Except ε α)} {b : Logged (Except ε β)} (h : Twin R a b)
    (events : List Event) : Twin R (a.after events) (b.after events) :=
  ⟨congrArg (events ++ ·) h.events,h.result⟩

theorem andThen {a : Logged (Except ε α)} {b : Logged (Except ε β)} (h : Twin R a b)
    {next : α → Logged (Except ε γ)} {other : β → Logged (Except ε δ)}
    (hnext : ∀ x y, R x y → Twin S (next x) (other y)) :
    Twin S (a.andThen next) (b.andThen other) := by
  obtain ⟨events,x⟩ := a
  obtain ⟨events',y⟩ := b
  obtain ⟨rfl,hresult⟩ := h
  cases hresult with
  | error e => exact ⟨rfl,.error e⟩
  | ok hxy => exact (hnext _ _ hxy).after events

end Logged.Twin

lemma Outcome.Alike.result_inStage {α : Type} {a b : Outcome α} (h : a.Alike b) (stage : Stage) :
    ResultAlike (fun x y => x.1.Alike y.1 ∧ x.2 = y.2) (a.inStage stage).result
      (b.inStage stage).result := by
  cases ha : a.result with
  | error e =>
    rw [inStage_of_error ha, inStage_of_error (h.result ▸ ha)]
    exact .error _
  | ok value =>
    rw [inStage_of_ok ha, inStage_of_ok (h.result ▸ ha)]
    exact .ok ⟨h.registry,rfl⟩

lemma Outcome.Twin.inStage {α : Type} {a b : Outcome α} (h : a.Twin b) (stage : Stage) :
    Logged.Twin (fun x y => x.1.Alike y.1 ∧ x.2 = y.2) (a.inStage stage) (b.inStage stage) :=
  ⟨h.events,h.result_inStage stage⟩

/-- Partial maps that differ at the password list their pairs side by side. -/
lemma forall₂_filterMap_graph {β : Type} {T : String × β → String × β → Prop}
    {values others : String → Option β} {names : List String}
    (h : ∀ n ∈ names, n ≠ "password" → values n = others n)
    (hp : (values "password").isSome = (others "password").isSome)
    (hsame : ∀ n v, n ≠ "password" → T (n,v) (n,v))
    (hpassword : ∀ v w, values "password" = some v → others "password" = some w →
      T ("password",v) ("password",w)) :
    List.Forall₂ T (names.filterMap fun n => (values n).map fun v => (n,v))
      (names.filterMap fun n => (others n).map fun v => (n,v)) := by
  induction names with
  | nil => exact .nil
  | cons n names ih =>
    have ih := ih fun m hm => h m (List.mem_cons_of_mem n hm)
    rw [List.filterMap_cons, List.filterMap_cons]
    by_cases hn : n = "password"
    · subst hn
      cases hv : values "password" with
      | none =>
        cases ho : others "password" with
        | none => exact ih
        | some w => simp [hv, ho] at hp
      | some v =>
        cases ho : others "password" with
        | none => simp [hv, ho] at hp
        | some w => exact .cons (hpassword v w hv ho) ih
    · rw [← h n List.mem_cons_self hn]
      cases values n with
      | none => exact ih
      | some v => exact .cons (hsame n v hn) ih

lemma map_fst_of_forall₂ {α : Type} {items others : List (String × α)}
    (h : List.Forall₂ EntryAlike items others) : items.map (·.1) = others.map (·.1) := by
  induction h with
  | nil => rfl
  | cons hab _ ih => rw [List.map_cons, List.map_cons, hab.1, ih]

namespace Registry

variable {r s : Registry}

theorem Alike.injectRaw (h : r.Alike s) {items others : List (String × String)}
    (hi : List.Forall₂ EntryAlike items others) :
    (r.injectRaw items).Twin (s.injectRaw others) := by
  rw [injectRaw_eq_offerAll, injectRaw_eq_offerAll]
  exact h.offerAll (hi.imp fun a b hab => Rule.raw_twin hab.1 hab.2)

/-- The environment's events name fields and variables, and no values. -/
theorem Alike.applyEnvironment (h : r.Alike s) {env env' : Environment}
    (hn : ∀ n ∈ r.names, n ≠ "password" →
      env (VariableName.ofField n) = env' (VariableName.ofField n))
    (hp : (env (VariableName.ofField "password")).isSome =
      (env' (VariableName.ofField "password")).isSome) :
    (r.applyEnvironment env).Twin (s.applyEnvironment env') := by
  have hfound : List.Forall₂ EntryAlike (r.overrides env) (s.overrides env') := by
    unfold overrides
    rw [← h.names_eq]
    exact forall₂_filterMap_graph hn hp (fun _ _ _ => ⟨rfl,fun _ => rfl⟩)
      fun _ _ _ _ => ⟨rfl,fun hne => absurd rfl hne⟩
  have hnames := map_fst_of_forall₂ hfound
  have hevents : (r.overrides env).map (fun e => overrideEvent e.1) =
      (s.overrides env').map fun e => overrideEvent e.1 := by
    simpa [List.map_map, Function.comp_def] using congrArg (List.map overrideEvent) hnames
  change (Outcome.after ((r.overrides env).map fun e => overrideEvent e.1) _).Twin
    (Outcome.after ((s.overrides env').map fun e => overrideEvent e.1) _)
  rw [hevents]
  refine Outcome.Twin.after (Outcome.Twin.andThen (h.injectRaw hfound) fun _ => ?_) _
  rw [hnames]
  exact .done (h.injectRaw hfound).registry _

end Registry

namespace Request

lemma setAll_flags_twin {q q' : Request} {r s : Registry} (h : r.Alike s)
    (hq : q' = { q with password := q'.password, assignments := q'.assignments })
    (hp : q.password.isSome = q'.password.isSome) :
    (r.setAll q.flags).Twin (s.setAll q'.flags) := by
  have hflags : List.Forall₂ Rule.typed.Twin q.flags q'.flags := by
    rw [flags_eq_filterMap, flags_eq_filterMap]
    refine forall₂_filterMap_graph (fun n _ hn => ?_) ?_ (fun n v hn => ?_) fun v w hv hw => ?_
    · rw [hq]
      unfold flag?
      split
      case h_9 => exact absurd rfl hn
      all_goals rfl
    · simpa [flag?] using hp
    · exact Rule.typed_twin rfl (fun _ => rfl) fun hpassword => absurd hpassword hn
    · obtain ⟨_,-,rfl⟩ := Option.map_eq_some_iff.1 hv
      obtain ⟨_,-,rfl⟩ := Option.map_eq_some_iff.1 hw
      exact Rule.typed_twin rfl (fun hne => absurd rfl hne) fun _ => ⟨rfl,rfl⟩
  rw [Registry.setAll_eq_offerAll, Registry.setAll_eq_offerAll]
  exact h.offerAll hflags

end Request

variable {q q' : Request} {opener opener' : Opener} {host host' : HostParameters}
  {env env' : Environment}

lemma variable_ne_of_standard : ∀ n ∈ Registry.standard.names, n ≠ "password" →
    VariableName.ofField n ≠ VariableName.ofField "password" := by
  decide +kernel

/-- Two hosts leave alike registries or fail alike, and their logs differ at most in the text of a
parameter. -/
theorem DifferInPassword.hostRegistry
    (h : DifferInPassword q q' opener opener' host host' env env') :
    ResultAlike Registry.Alike (q.hostRegistry host.config.parameters env).result
        (q'.hostRegistry host'.config.parameters env').result ∧
      SameIff (q.hostRegistry host.config.parameters env).events
        (q'.hostRegistry host'.config.parameters env').events
        (InjectionReaches host.config.parameters →
          (host.config.parameters.get? "password").bind Field.passwordText =
            (host'.config.parameters.get? "password").bind Field.passwordText) := by
  obtain ⟨hinject,hev⟩ := Registry.injectParameters_sameIff h.parameters
  unfold Request.hostRegistry
  cases hok : (Registry.standard.injectParameters host.config.parameters).result with
  | error e =>
    have hok' := hinject.result ▸ hok
    rw [Logged.andThen_of_error (by rw [Outcome.inStage_of_error hok]),
      Logged.andThen_of_error (by rw [Outcome.inStage_of_error hok'])]
    exact ⟨.error _,hev⟩
  | ok _ =>
    have hok' := hinject.result ▸ hok
    rw [Logged.andThen_of_ok (by rw [Outcome.inStage_of_ok hok]),
      Logged.andThen_of_ok (by rw [Outcome.inStage_of_ok hok'])]
    have hnames : (Registry.standard.injectParameters host.config.parameters).registry.names =
        Registry.standard.names :=
      Registry.names_of_fields_eq_map (Rule.parameter.supply_name _)
        (Registry.fields_of_injectParameters_ok hok)
    have happly := hinject.registry.applyEnvironment
      (fun n hn hne => h.environment _ (variable_ne_of_standard n (hnames ▸ hn) hne)) h.presence
    simp only [Logged.after_result, Logged.after_events]
    suffices htail : Logged.Twin Registry.Alike _ _ from
      ⟨htail.result,(hev.append (.of_eq htail.events trivial)).congr (by simp)⟩
    refine (happly.inStage .environment).andThen ?_
    rintro ⟨r,names⟩ ⟨s,_⟩ ⟨hrs,rfl⟩
    refine Logged.Twin.after ?_ _
    refine ((Request.setAll_flags_twin hrs h.request h.flag).inStage .flags).andThen ?_
    rintro ⟨r,_⟩ ⟨s,_⟩ ⟨hrs,-⟩
    refine ((hrs.injectRaw h.assignments).inStage .assignments).andThen ?_
    rintro ⟨r,_⟩ ⟨s,_⟩ ⟨hrs,-⟩
    exact ⟨rfl,.ok hrs⟩

namespace Registry

variable {r s : Registry}

lemma Alike.ofRegistry_eq (h : r.Alike s) : Policy.ofRegistry r = Policy.ofRegistry s := by
  unfold Policy.ofRegistry
  rw [h.flag_eq (by decide)]

/-- The registry names a file, and this is what the opener reads there. -/
def Loads (r : Registry) (opener : Opener) (source : Source) : Prop :=
  ∃ path, r.text "propertiesFile" = .ok (some path) ∧ (opener.load path).result = .ok source

/-- The file has an entry for the password, if any, applied: no smaller key is at fault, and the
policy replaces what the host gave. -/
def AppliesPassword (r : Registry) (opener : Opener) (source : Source) : Prop :=
  r.Loads opener source ∧ ∃ p f, Policy.ofRegistry r = .ok p ∧
    (∀ a ∈ source.entries, a.1 < "password" → ∀ e, ¬ p.Fault r a.1 e) ∧
    r.get? "password" = some f ∧ p.Replaces f

lemma Loads.unique {source other : Source} (h : r.Loads opener source)
    (ho : r.Loads opener other) : source = other := by
  obtain ⟨path,ht,hl⟩ := h
  obtain ⟨path',ht',hl'⟩ := ho
  obtain rfl : path = path' := by simpa [ht] using ht'
  exact Except.ok.inj (hl.symm.trans hl')

/-- The file and the policy are unique, so what is shown of them is what any such file shows. -/
lemma shows_iff_of_loads {source other : Source} {p : Policy} (hl : r.Loads opener source)
    (hl' : s.Loads opener' other) (hp : Policy.ofRegistry r = .ok p) :
    ((∀ a ∈ source.entries, a.1 < "password" → ∀ e, ¬ p.Fault r a.1 e) →
        (∃ f, r.get? "password" = some f ∧ p.Replaces f) →
        source.get? "password" = other.get? "password") ↔
      ∀ source other, r.AppliesPassword opener source → s.Loads opener' other →
        source.get? "password" = other.get? "password" := by
  constructor
  · rintro hshow source' other' ⟨hsource,p',f,hp',hreach,hf,hreplaces⟩ hother
    obtain rfl := hsource.unique hl
    obtain rfl := hother.unique hl'
    obtain rfl : p = p' := Except.ok.inj (hp.symm.trans hp')
    exact hshow hreach ⟨f,hf,hreplaces⟩
  · rintro hshow hreach ⟨f,hf,hreplaces⟩
    exact hshow source other ⟨hl,p,f,hp,hreach,hf,hreplaces⟩ hl'

/-- Configuring shows the text of the password's entry if it comes to the entry and applies it. -/
theorem Alike.configure_sameIff (h : r.Alike s)
    (hevents : ∀ path, (opener.load path).events = (opener'.load path).events)
    (hresults : ∀ path, ResultAlike (Dictionary.Alike fun _ _ => True) (opener.load path).result
      (opener'.load path).result) :
    (r.configure opener).Alike (s.configure opener') ∧
      SameIff (r.configure opener).events (s.configure opener').events
        (∀ source other, r.AppliesPassword opener source → s.Loads opener' other →
          source.get? "password" = other.get? "password") := by
  have htexts : r.text "propertiesFile" = s.text "propertiesFile" := h.text_eq (by decide)
  unfold configure
  rw [← htexts, ← h.ofRegistry_eq]
  cases htext : r.text "propertiesFile" with
  | error e => exact ⟨⟨h,rfl⟩,.of_eq rfl fun _ _ ⟨⟨_,ht,_⟩,_⟩ => by simp [htext] at ht⟩
  | ok given =>
    cases given with
    | none => exact ⟨⟨h,rfl⟩,.of_eq rfl fun _ _ ⟨⟨_,ht,_⟩,_⟩ => by simp [htext] at ht⟩
    | some path =>
      have hload := hresults path
      simp only [← hevents path]
      cases hs : (opener.load path).result with
      | error e =>
        simp only [(hs ▸ hload).error_left]
        refine ⟨⟨h,rfl⟩,.of_eq rfl ?_⟩
        rintro source other ⟨⟨path',ht,hl⟩,-⟩
        obtain rfl : path = path' := by simpa [htext] using ht
        rw [hs] at hl
        cases hl
      | ok source =>
        obtain ⟨other,ho,hsource⟩ := (hs ▸ hload).ok_left
        have hloads : r.Loads opener source := ⟨path,htext,hs⟩
        have hloads' : s.Loads opener' other := ⟨path,htexts ▸ htext,ho⟩
        simp only [ho]
        cases hp : Policy.ofRegistry r with
        | error e =>
          refine ⟨⟨h,rfl⟩,.of_eq rfl ?_⟩
          rintro source other ⟨-,p,f,hp',-⟩
          rw [hp] at hp'
          cases hp'
        | ok p =>
          obtain ⟨hout,hev⟩ := h.resolve_sameIff p hsource
          refine ⟨⟨hout.registry,hout.result⟩,?_⟩
          simp only [Outcome.after_events, resolvingEvent, hsource.size_eq]
          rw [← shows_iff_of_loads hloads hloads' hp]
          exact ((SameIff.of_eq rfl trivial).append hev).congr (by simp only [true_and])

/-- A whole run shows of the password what configuring shows; the settings are masked. -/
theorem Alike.run_sameIff (h : r.Alike s)
    (hevents : ∀ path, (opener.load path).events = (opener'.load path).events)
    (hresults : ∀ path, ResultAlike (Dictionary.Alike fun _ _ => True) (opener.load path).result
      (opener'.load path).result) :
    SameIff (r.run opener).events (s.run opener').events
      (∀ source other, r.AppliesPassword opener source → s.Loads opener' other →
        source.get? "password" = other.get? "password") := by
  obtain ⟨hout,hev⟩ := h.configure_sameIff hevents hresults
  unfold run
  cases hc : (r.configure opener).result with
  | error e =>
    rw [Outcome.andThen_of_error hc, Outcome.andThen_of_error (hout.result ▸ hc)]
    simpa [Outcome.failed] using hev
  | ok _ =>
    rw [Outcome.andThen_of_ok hc, Outcome.andThen_of_ok (hout.result ▸ hc)]
    exact (hev.append (.of_eq hout.registry.events_settle trivial)).congr (by simp)

end Registry

end LayeredSettings
