import LayeredSettings.Proofs.Resolution.Run

/-! What settled settings tell about the run behind them: which file it read, and under which policy.
Both are fields like any other and are read after the file has been applied, so an entry of the file
for one of them can stand in the settings in place of what the run went by. -/
namespace LayeredSettings

open Properties (Source)

namespace Policy

theorem ofRegistry_eq_ok_iff {r : Registry} {p : Policy} :
    ofRegistry r = .ok p ↔ r.flag "propertyFileWillOverride" = .ok p.override := by
  unfold ofRegistry
  cases r.flag "propertyFileWillOverride" with
  | error e => simp [Except.map]
  | ok b =>
    obtain ⟨override⟩ := p
    simp [Except.map]

end Policy

namespace Registry

variable {r s : Registry} {opener : Opener} {path : String} {p : Policy} {source : Source}

/-- A run that goes by a file: the registry names a path, a source is read there, and the registry
holds a policy. -/
structure GoesBy (r : Registry) (opener : Opener) (path : String) (source : Source) (p : Policy) :
    Prop where
  named : r.text "propertiesFile" = .ok (some path)
  loaded : (opener.load path).result = .ok source
  policy : Policy.ofRegistry r = .ok p

theorem GoesBy.configure_eq (h : r.GoesBy opener path source p) :
    r.configure opener = (r.resolve p source).after
      (loadingEvent path :: (opener.load path).events ++ [resolvingEvent source p]) := by
  simp only [configure, h.named, h.loaded, h.policy]

/-- A registry that names a path and is configured without a failure has gone by the file there. -/
theorem exists_goesBy (hpath : r.text "propertiesFile" = .ok (some path))
    (h : (r.configure opener).result = .ok ()) : ∃ source p, r.GoesBy opener path source p := by
  simp only [configure, hpath] at h
  cases hload : (opener.load path).result with
  | error e => simp [hload, Outcome.failed] at h
  | ok source =>
    cases hpolicy : Policy.ofRegistry r with
    | error e => simp [hload, hpolicy, Outcome.failed] at h
    | ok p => exact ⟨source,p,hpath,hload,hpolicy⟩

lemma get?_of_settled {name : String} {f : Field} (hf : r.get? name = some f)
    (hs : s.fields = r.fields.map (p.settle source)) : s.get? name = some (p.settle source f) := by
  rw [get?_of_fields_eq_map (p.settle_name source) hs, hf, Option.map_some]

/-- A text field reads after a source as the entry that was applied to it, or else as before. -/
theorem text_of_settled {name : String} {f : Field} {held given : Option String}
    (hf : r.get? name = some f) (hs : s.fields = r.fields.map (p.settle source))
    (hheld : r.text name = .ok held) (hgiven : s.text name = .ok given) :
    given = (p.applied source f).or held := by
  have hbefore : f.current = held.map .text := (text_eq_ok_iff hf).1 hheld
  have hafter : (p.settle source f).current = given.map .text :=
    (text_eq_ok_iff (get?_of_settled hf hs)).1 hgiven
  rw [Policy.settle_current, hbefore] at hafter
  have hinj : Function.Injective Value.text := fun _ _ => Value.text.inj
  cases happ : p.applied source f with
  | none =>
    rw [happ, Option.map_none, Option.none_or] at hafter
    rw [Option.none_or]
    exact (Option.map_injective hinj hafter).symm
  | some raw =>
    rw [happ, Option.map_some, Option.some_or] at hafter
    obtain ⟨text,htext,hvalue⟩ := Option.map_eq_some_iff.1 hafter.symm
    cases hk : f.kind with
    | boolean =>
      rw [hk] at hvalue
      cases hvalue
    | text =>
      rw [hk] at hvalue
      rw [htext, Option.some_or, Value.text.inj hvalue]

/-- So does a boolean field, whose entry is true if it spells "true" in any case. -/
theorem flag_of_settled {name : String} {f : Field} {held given : Bool}
    (hf : r.get? name = some f) (hs : s.fields = r.fields.map (p.settle source))
    (hheld : r.flag name = .ok held) (hgiven : s.flag name = .ok given) :
    given = ((p.applied source f).map fun raw => equalIgnoringCase raw "true").getD held := by
  have hafter := (flag_eq_ok_iff (get?_of_settled hf hs)).1 hgiven
  rw [Policy.settle_current] at hafter
  cases happ : p.applied source f with
  | none =>
    rw [happ, Option.map_none, Option.none_or, ← flag_eq_ok_iff hf, hheld] at hafter
    exact (Except.ok.inj hafter).symm
  | some raw =>
    rw [happ, Option.map_some, Option.some_or] at hafter
    rcases hafter with hvalue | ⟨hnone,-⟩
    · have hcoerce : coerce f.kind raw = .bool given := Option.some.inj hvalue
      cases hk : f.kind with
      | text =>
        rw [hk] at hcoerce
        cases hcoerce
      | boolean =>
        rw [hk] at hcoerce
        exact (Value.bool.inj hcoerce).symm
    · cases hnone

/-- Settings report the path that was opened and the policy that was applied, except where the file
itself has an entry for one of these fields and this entry applies: then they report the entry. -/
theorem run_reports_applied_entries {settings : Settings}
    (h : (r.run opener).result = .ok settings)
    (hpath : r.text "propertiesFile" = .ok (some path)) :
    ∃ source p file policy, r.GoesBy opener path source p ∧
      r.configure opener = (r.resolve p source).after
        (loadingEvent path :: (opener.load path).events ++ [resolvingEvent source p]) ∧
      r.get? "propertiesFile" = some file ∧
      r.get? "propertyFileWillOverride" = some policy ∧
      settings.propertiesFile = some ((p.applied source file).getD path) ∧
      settings.propertiesOverride =
        ((p.applied source policy).map fun raw => equalIgnoringCase raw "true").getD p.override := by
  obtain ⟨hconfigured,hread⟩ := run_result_eq_ok_iff.1 h
  obtain ⟨source,p,hgoes⟩ := exists_goesBy hpath hconfigured
  have hflag := Policy.ofRegistry_eq_ok_iff.1 hgoes.policy
  obtain ⟨file,hlookup,-⟩ := bind_eq_ok_iff.1 hpath
  have hfile := lookup_eq_ok_iff.1 hlookup
  obtain ⟨policy,hlookup',-⟩ := bind_eq_ok_iff.1 hflag
  have hpolicy := lookup_eq_ok_iff.1 hlookup'
  rw [hgoes.configure_eq, Outcome.after_result] at hconfigured
  rw [hgoes.configure_eq, Outcome.after_registry] at hread
  have hfields := fields_of_resolve_ok hconfigured
  obtain ⟨-,-,-,hfile',hoverride,-⟩ := Settings.ofRegistry_eq_ok hread
  refine ⟨source,p,file,policy,hgoes,hgoes.configure_eq,hfile,hpolicy,?_,?_⟩
  · rw [text_of_settled hfile hfields hpath hfile']
    cases p.applied source file <;> rfl
  · exact flag_of_settled hpolicy hfields hflag hoverride

/-- A registry that lets its file override, and a file that names another file and forbids this. -/
def selfNaming : Registry :=
  ((standard.assign "changeLogFile" (some (.text "changes.xml"))).assign "propertiesFile"
    (some (.text "db.properties"))).assign "propertyFileWillOverride" (some (.bool true))

def selfNamingOpener : Opener :=
  .leaf "memory" fun path =>
    if path = "db.properties" then
      .ok (some (.ok "propertiesFile=other.properties\npropertyFileWillOverride=false".toUTF8))
    else .ok none

def selfNamingSettings : Settings where
  changeLogFile := "changes.xml"
  propertiesFile := some "other.properties"
  connection.promptOnNonLocalDatabase := true

theorem selfNaming_reports :
    (selfNaming.run selfNamingOpener).result = .ok selfNamingSettings ∧
    selfNaming.text "propertiesFile" = .ok (some "db.properties") ∧
    ∃ source p file policy, selfNaming.GoesBy selfNamingOpener "db.properties" source p ∧
      selfNaming.configure selfNamingOpener = (selfNaming.resolve p source).after
        (loadingEvent "db.properties" :: (selfNamingOpener.load "db.properties").events ++
          [resolvingEvent source p]) ∧
      selfNaming.get? "propertiesFile" = some file ∧
      selfNaming.get? "propertyFileWillOverride" = some policy ∧
      selfNamingSettings.propertiesFile = some ((p.applied source file).getD "db.properties") ∧
      selfNamingSettings.propertiesOverride =
        ((p.applied source policy).map fun raw => equalIgnoringCase raw "true").getD p.override := by
  have hrun : (selfNaming.run selfNamingOpener).result = .ok selfNamingSettings := by decide +kernel
  have hpath : selfNaming.text "propertiesFile" = .ok (some "db.properties") := by decide +kernel
  exact ⟨hrun,hpath,run_reports_applied_entries hrun hpath⟩

/-- The settings tell neither the path that was opened nor the policy that the entries were resolved
under. -/
theorem selfNaming_misreports :
    (selfNaming.run selfNamingOpener).result = .ok selfNamingSettings ∧
    (∃ source, selfNaming.GoesBy selfNamingOpener "db.properties" source ⟨true⟩) ∧
    selfNamingSettings.propertiesFile ≠ some "db.properties" ∧
    selfNamingSettings.propertiesOverride ≠ true := by
  have hloaded : (selfNamingOpener.load "db.properties").result = .ok (.ofList
      [("propertiesFile","other.properties"),("propertyFileWillOverride","false")]) := by
    decide +kernel
  refine ⟨by decide +kernel,⟨_,?_,hloaded,?_⟩,by decide,by decide⟩
  · decide +kernel
  · decide +kernel

end Registry

end LayeredSettings
