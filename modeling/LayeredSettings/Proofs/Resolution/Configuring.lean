import LayeredSettings.Proofs.Opener
import LayeredSettings.Proofs.Resolution.Reported

/-! Loading a properties file is all or nothing. Until its first entry is resolved every failure
leaves the registry as it was; from then on the run is that of the resolution, which undoes nothing.
Which of the two kinds of failure has happened can be told from the error. -/
namespace LayeredSettings

namespace Registry

/-- A name cannot be read as a kind: there is no such field, or it holds a value of another kind. -/
inductive Unreadable (r : Registry) (name : String) (kind : Kind) : ConfigError → Prop
  | unknown (absent : name ∉ r.names) : Unreadable r name kind (.unknownField name)
  | mistyped {f : Field} {value : Value} (found : r.get? name = some f)
      (held : f.current = some value) (other : value.kind ≠ kind) :
      Unreadable r name kind
        (.fieldAccess name ("expected " ++ kind.name ++ ", found " ++ value.kind.name))

/-- What keeps the entries of a properties file from being resolved: the field for its path or the
one for the policy cannot be read, or no source can be loaded from the path. -/
inductive LoadFault (r : Registry) (opener : Opener) : ConfigError → Prop
  | path {e : ConfigError} (h : r.Unreadable "propertiesFile" .text e) : LoadFault r opener e
  | source {path : String} {e : ConfigError} (named : r.text "propertiesFile" = .ok (some path))
      (h : opener.Unloaded path e) : LoadFault r opener e
  | policy {path : String} {source : Properties.Source} {e : ConfigError}
      (named : r.text "propertiesFile" = .ok (some path))
      (loaded : (opener.load path).result = .ok source)
      (h : r.Unreadable "propertyFileWillOverride" .boolean e) : LoadFault r opener e

end Registry

/-- The errors of the steps before the resolution, told by themselves: about one of the two fields
that say what to load and how, or about the file. -/
def ConfigError.BeforeEntries : ConfigError → Prop
  | unknownField key | fieldAccess key _ => key ∈ ["propertiesFile","propertyFileWillOverride"]
  | missingResource _ | malformedStream _ _ => True
  | _ => False

namespace Registry

variable {r : Registry} {opener : Opener} {e : ConfigError}

lemma unreadable_of_none_iff {name : String} {kind : Kind} (h : r.get? name = none) :
    r.Unreadable name kind e ↔ e = .unknownField name := by
  constructor
  · intro hu
    cases hu with
    | unknown => rfl
    | mistyped found => cases h.symm.trans found
  · rintro rfl
    exact .unknown (get?_eq_none_iff.1 h)

lemma unreadable_of_get?_iff {name : String} {kind : Kind} {f : Field} (h : r.get? name = some f) :
    r.Unreadable name kind e ↔ ∃ value, f.current = some value ∧ value.kind ≠ kind ∧
      e = .fieldAccess name ("expected " ++ kind.name ++ ", found " ++ value.kind.name) := by
  constructor
  · intro hu
    cases hu with
    | unknown absent => exact absurd (mem_names_of_get? h) absent
    | mistyped found held other =>
      obtain rfl := Option.some.inj (h.symm.trans found)
      exact ⟨_,held,other,rfl⟩
  · rintro ⟨value,held,other,rfl⟩
    exact .mistyped h held other

/-- Reading a text fails exactly if the name cannot be read as one; so does reading a flag. -/
theorem text_eq_error_iff {name : String} :
    r.text name = .error e ↔ r.Unreadable name .text e := by
  cases hget : r.get? name with
  | none =>
    have hfail : r.text name = .error (.unknownField name) := by
      simp only [text, lookup_of_get?_none hget]
      rfl
    rw [hfail, unreadable_of_none_iff hget, Except.error.injEq, eq_comm]
  | some f =>
    rw [unreadable_of_get?_iff hget, text_of_get? hget]
    cases f.current with
    | none => simp
    | some value => cases value <;> simp [Value.kind, Kind.name, eq_comm]

theorem flag_eq_error_iff {name : String} :
    r.flag name = .error e ↔ r.Unreadable name .boolean e := by
  cases hget : r.get? name with
  | none =>
    have hfail : r.flag name = .error (.unknownField name) := by
      simp only [flag, lookup_of_get?_none hget]
      rfl
    rw [hfail, unreadable_of_none_iff hget, Except.error.injEq, eq_comm]
  | some f =>
    rw [unreadable_of_get?_iff hget, flag_of_get? hget]
    cases f.current with
    | none => simp
    | some value => cases value <;> simp [Value.kind, Kind.name, eq_comm]

lemma policy_eq_error_iff :
    Policy.ofRegistry r = .error e ↔ r.Unreadable "propertyFileWillOverride" .boolean e := by
  rw [← flag_eq_error_iff, Policy.ofRegistry]
  cases r.flag "propertyFileWillOverride" <;> simp [Except.map]

/-- A fault ends the loading at once. -/
theorem LoadFault.configure_eq (h : r.LoadFault opener e) :
    (r.configure opener).result = .error e ∧ (r.configure opener).registry = r := by
  cases h with
  | path h =>
    simp only [configure, text_eq_error_iff.2 h]
    exact ⟨rfl,rfl⟩
  | source named h =>
    simp only [configure, named, h.load_eq]
    exact ⟨rfl,rfl⟩
  | policy named loaded h =>
    simp only [configure, named, loaded, policy_eq_error_iff.2 h]
    exact ⟨rfl,rfl⟩

/-- There is a fault, or no path is named, or the run goes by a file. -/
theorem configure_cases (r : Registry) (opener : Opener) :
    (∃ e, r.LoadFault opener e) ∨ r.text "propertiesFile" = .ok none ∨
      ∃ path source p, r.GoesBy opener path source p := by
  cases htext : r.text "propertiesFile" with
  | error e => exact .inl ⟨e,.path (text_eq_error_iff.1 htext)⟩
  | ok given =>
    cases given with
    | none => exact .inr (.inl rfl)
    | some path =>
      rcases opener.load_cases path with ⟨source,hload⟩ | ⟨e,-,hunloaded⟩
      · cases hpolicy : Policy.ofRegistry r with
        | error e => exact .inl ⟨e,.policy htext hload (policy_eq_error_iff.1 hpolicy)⟩
        | ok p => exact .inr (.inr ⟨path,source,p,htext,hload,hpolicy⟩)
      · exact .inl ⟨e,.source htext hunloaded⟩

lemma Unreadable.beforeEntries {name : String} {kind : Kind} (h : r.Unreadable name kind e)
    (hname : name ∈ ["propertiesFile","propertyFileWillOverride"]) : e.BeforeEntries := by
  cases h with
  | unknown => exact hname
  | mistyped => exact hname

lemma LoadFault.beforeEntries (h : r.LoadFault opener e) : e.BeforeEntries := by
  cases h with
  | path h => exact h.beforeEntries (by simp)
  | source named h => cases h <;> exact trivial
  | policy named loaded h => exact h.beforeEntries (by simp)

/-- An entry is never refused with such an error, since the two fields have been read. -/
lemma GoesBy.not_beforeEntries {path : String} {source : Properties.Source} {p : Policy}
    (h : r.GoesBy opener path source p) (he : (r.resolve p source).result = .error e) :
    ¬ e.BeforeEntries := by
  rcases resolve_spec p source r with ⟨-,hok,-⟩ | ⟨key,-,e',hfault,-,herr,-⟩
  · rw [hok] at he
    cases he
  · obtain rfl := Except.error.inj (herr.symm.trans he)
    cases hfault with
    | mismatch => exact id
    | unknown absent =>
      intro hkey
      rcases List.mem_pair.1 hkey with rfl | rfl
      · cases h.named.symm.trans (text_eq_error_iff.2 (.unknown absent))
      · cases h.policy.symm.trans (policy_eq_error_iff.2 (.unknown absent))

/-- Loading is all or nothing. The errors about the two fields and about the file are those of the
faults, and leave the registry as it was, whatever the file holds. Without a path nothing is loaded,
and nothing changes. Otherwise the outcome is that of resolving the source that was loaded, under
the policy that the registry held before. -/
theorem configure_all_or_nothing (opener : Opener) (r : Registry) :
    (∀ e, r.LoadFault opener e ↔ (r.configure opener).result = .error e ∧ e.BeforeEntries) ∧
    (∀ e, (r.configure opener).result = .error e → e.BeforeEntries →
      (r.configure opener).registry = r) ∧
    (r.text "propertiesFile" = .ok none → r.configure opener = .done r ()) ∧
    ((∀ e, ¬ r.LoadFault opener e) → r.text "propertiesFile" ≠ .ok none →
      ∃ path source p, r.GoesBy opener path source p ∧
        (r.configure opener).result = (r.resolve p source).result ∧
        (r.configure opener).registry = (r.resolve p source).registry) := by
  have hunnamed (h : r.text "propertiesFile" = .ok none) : r.configure opener = .done r () := by
    simp only [configure, h]
  have hgoes {path source p} (h : r.GoesBy opener path source p) :
      (r.configure opener).result = (r.resolve p source).result ∧
      (r.configure opener).registry = (r.resolve p source).registry := by
    rw [h.configure_eq]
    exact ⟨rfl,rfl⟩
  have hfault : ∀ e, r.LoadFault opener e ↔
      (r.configure opener).result = .error e ∧ e.BeforeEntries := by
    intro e
    refine ⟨fun h => ⟨h.configure_eq.1,h.beforeEntries⟩,?_⟩
    rintro ⟨he,hbefore⟩
    rcases configure_cases r opener with ⟨e',h⟩ | h | ⟨path,source,p,h⟩
    · obtain rfl := Except.error.inj (h.configure_eq.1.symm.trans he)
      exact h
    · rw [hunnamed h] at he
      cases he
    · rw [(hgoes h).1] at he
      exact absurd hbefore (h.not_beforeEntries he)
  refine ⟨hfault,fun e he hbefore => ((hfault e).2 ⟨he,hbefore⟩).configure_eq.2,hunnamed,?_⟩
  intro hnone hnamed
  rcases configure_cases r opener with ⟨e,h⟩ | h | ⟨path,source,p,h⟩
  · exact absurd h (hnone e)
  · exact absurd h hnamed
  · exact ⟨path,source,p,h,hgoes h⟩

def namingFile : Registry := standard.assign "propertiesFile" (some (.text "db.properties"))

/-- A file at this path, and nothing elsewhere. -/
def fileOpener (text : String) : Opener :=
  .leaf "memory" fun path =>
    if path = "db.properties" then .ok (some (.ok text.toUTF8)) else .ok none

/-- A file with a good entry before a malformed one, no file, and a file with an unknown key, whose
first entry stays applied. -/
theorem configure_all_or_nothing_namingFile :
    ((namingFile.configure (fileOpener "url=x\nz=\\u12")).result =
        .error (.malformedStream "db.properties" (.malformedEscape 2)) ∧
      (namingFile.configure (fileOpener "url=x\nz=\\u12")).registry = namingFile) ∧
    (standard.text "propertiesFile" = .ok none ∧
      standard.configure (fileOpener "url=x") = .done standard ()) ∧
    (namingFile.configure (fileOpener "url=x\nz=1")).result = .error (.unknownField "z") ∧
    (namingFile.configure (fileOpener "url=x\nz=1")).registry.text "url" = .ok (some "x") ∧
    ∃ path source p, namingFile.GoesBy (fileOpener "url=x\nz=1") path source p ∧
      (namingFile.configure (fileOpener "url=x\nz=1")).result =
        (namingFile.resolve p source).result ∧
      (namingFile.configure (fileOpener "url=x\nz=1")).registry =
        (namingFile.resolve p source).registry := by
  have hbad : (namingFile.configure (fileOpener "url=x\nz=\\u12")).result =
      .error (.malformedStream "db.properties" (.malformedEscape 2)) := by decide +kernel
  have hunnamed : standard.text "propertiesFile" = .ok none := by decide +kernel
  have hunknown : (namingFile.configure (fileOpener "url=x\nz=1")).result =
      .error (.unknownField "z") := by decide +kernel
  have hnamed : namingFile.text "propertiesFile" ≠ .ok none := by decide +kernel
  obtain ⟨-,hkept,-,-⟩ := configure_all_or_nothing (fileOpener "url=x\nz=\\u12") namingFile
  obtain ⟨-,-,hnothing,-⟩ := configure_all_or_nothing (fileOpener "url=x") standard
  obtain ⟨hfault,-,-,hresolves⟩ := configure_all_or_nothing (fileOpener "url=x\nz=1") namingFile
  refine ⟨⟨hbad,hkept _ hbad trivial⟩,⟨hunnamed,hnothing hunnamed⟩,hunknown,by decide +kernel,
    hresolves (fun e h => ?_) hnamed⟩
  -- the error is about a key of the file, and so no fault
  obtain ⟨herr,hbefore⟩ := (hfault e).1 h
  obtain rfl := Except.error.inj (hunknown.symm.trans herr)
  exact absurd hbefore (by simp [ConfigError.BeforeEntries])

end Registry

end LayeredSettings
