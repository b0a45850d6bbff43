import LayeredSettings.Proofs.Registry.Writes
import LayeredSettings.Proofs.Resolution.Configuring

/-! What a properties file says about its own policy or about another file takes no part in how its
entries are resolved. The policy and the path are read before the file is applied, and whoever has
read them cannot stop at the entries for them, so these end in their own fields and nowhere else. -/
namespace LayeredSettings

open Properties (Source)

/-- Dictionaries that differ at most in what is under one key: added, removed or changed. -/
def Dictionary.AgreeExcept {α : Type} (key : String) (a b : Dictionary α) : Prop :=
  ∀ other, other ≠ key → a.get? other = b.get? other

namespace Dictionary.AgreeExcept

variable {α : Type} {key : String} {a b : Dictionary α}

lemma mem_keys_iff (h : a.AgreeExcept key b) {other : String} (ho : other ≠ key) :
    other ∈ a.keys ↔ other ∈ b.keys := by
  rw [← not_iff_not, ← get?_eq_none_iff, ← get?_eq_none_iff, h other ho]

end Dictionary.AgreeExcept

namespace Policy

/-- Sources that differ in one entry settle the fields of other names alike. -/
lemma settleWhere_eq_of_agreeExcept {p : Policy} {key : String} {a b : Source}
    (h : a.AgreeExcept key b) {f : Field} (hf : f.name ≠ key) (reached : String → Prop)
    [DecidablePred reached] : p.settleWhere a reached f = p.settleWhere b reached f := by
  simp only [settleWhere, settle, h f.name hf]

end Policy

namespace Registry

variable {r s t : Registry} {p : Policy} {key : String} {a b : Source} {opener other : Opener}

lemma get?_eq_of_settledWhere (h : a.AgreeExcept key b) {reached : String → Prop}
    [DecidablePred reached] (hs : s.fields = r.fields.map (p.settleWhere a reached))
    (ht : t.fields = r.fields.map (p.settleWhere b reached)) {name : String} (hname : name ≠ key) :
    s.get? name = t.get? name := by
  rw [get?_of_fields_eq_map (p.settleWhere_name a reached) hs,
    get?_of_fields_eq_map (p.settleWhere_name b reached) ht]
  cases hget : r.get? name with
  | none => rfl
  | some f =>
    rw [Option.map_some, Option.map_some,
      Policy.settleWhere_eq_of_agreeExcept h (name_of_get? hget ▸ hname)]

/-- Where the key in which two sources differ is not at fault, both have the same first fault. -/
lemma fault_key_eq (hkey : ∀ e, ¬ p.Fault r key e) (h : a.AgreeExcept key b) {k l : String}
    {e e' : ConfigError} (hk : k ∈ a.keys) (hl : l ∈ b.keys) (hfault : p.Fault r k e)
    (hfault' : p.Fault r l e')
    (hleast : ∀ other ∈ a.keys, ∀ e', p.Fault r other e' → k ≤ other)
    (hleast' : ∀ other ∈ b.keys, ∀ e', p.Fault r other e' → l ≤ other) : k = l := by
  have hne : k ≠ key := fun he => hkey e (he ▸ hfault)
  have hne' : l ≠ key := fun he => hkey e' (he ▸ hfault')
  exact String.le_antisymm (hleast l ((h.mem_keys_iff hne').2 hl) e' hfault')
    (hleast' k ((h.mem_keys_iff hne).1 hk) e hfault)

/-- Two sources that differ in one entry, which no run stops at, have the same result and leave the
same in all other fields, also when they fail. -/
theorem resolve_agreeExcept (hkey : ∀ e, ¬ p.Fault r key e) (h : a.AgreeExcept key b) :
    (r.resolve p a).result = (r.resolve p b).result ∧ ∀ name, name ≠ key →
      (r.resolve p a).registry.get? name = (r.resolve p b).registry.get? name := by
  rcases resolve_spec p a r with ⟨hnone,hok,hfields⟩ | ⟨k,hk,e,hfault,hleast,herr,hfields⟩
  · rcases resolve_spec p b r with ⟨-,hok',hfields'⟩ | ⟨l,hl,e',hfault',-⟩
    · rw [← p.settleWhere_true] at hfields hfields'
      exact ⟨hok.trans hok'.symm,fun name hn => get?_eq_of_settledWhere h hfields hfields' hn⟩
    · have hne : l ≠ key := fun he => hkey e' (he ▸ hfault')
      exact absurd hfault' (hnone l ((h.mem_keys_iff hne).2 hl) e')
  · rcases resolve_spec p b r with ⟨hnone,-⟩ | ⟨l,hl,e',hfault',hleast',herr',hfields'⟩
    · have hne : k ≠ key := fun he => hkey e (he ▸ hfault)
      exact absurd hfault (hnone k ((h.mem_keys_iff hne).1 hk) e)
    · obtain rfl := fault_key_eq hkey h hk hl hfault hfault' hleast hleast'
      obtain rfl : e = e' := hfault.unique hfault'
      have hs : (r.resolve p a).registry.fields = r.fields.map (p.settleWhere a (· < k)) := hfields
      have ht : (r.resolve p b).registry.fields = r.fields.map (p.settleWhere b (· < k)) := hfields'
      exact ⟨herr.trans herr'.symm,fun name hn => get?_eq_of_settledWhere h hs ht hn⟩

/-- A run that has read its path and its policy has found values of their kinds in both fields. -/
theorem not_fault_of_goesBy (writes : List (String × Option Value))
    {path : String} (hgoes : (standard.assignAll writes).GoesBy opener path a p)
    (hkey : key ∈ ["propertyFileWillOverride","propertiesFile"]) (e : ConfigError) :
    ¬ p.Fault (standard.assignAll writes) key e := by
  rcases List.mem_pair.1 hkey with rfl | rfl
  · have hstd : standard.get? "propertyFileWillOverride" = some
        { name := "propertyFileWillOverride", kind := .boolean, set := .configurable,
          default := some (.bool false), current := some (.bool false) } := by decide
    obtain ⟨held,hget⟩ := exists_get?_assignAll hstd writes
    refine not_fault_of_wellTyped hget ⟨?_,?_⟩ e
    · rintro value ⟨⟩
      rfl
    · intro value hvalue
      rw [Field.holding_current] at hvalue
      rcases (flag_eq_ok_iff hget).1 (Policy.ofRegistry_eq_ok_iff.1 hgoes.policy) with h | ⟨h,-⟩
      · obtain rfl := Option.some.inj (h.symm.trans hvalue)
        rfl
      · cases h.symm.trans hvalue
  · have hstd : standard.get? "propertiesFile" = some
        { name := "propertiesFile", kind := .text, set := .configurable } := by decide
    obtain ⟨held,hget⟩ := exists_get?_assignAll hstd writes
    refine not_fault_of_wellTyped hget ⟨nofun,?_⟩ e
    intro value hvalue
    obtain rfl := Option.some.inj (((text_eq_ok_iff hget).1 hgoes.named).symm.trans hvalue)
    rfl

/-- A configuration asks for the path that the registry names at its start, and for no other. -/
theorem configure_eq_of_ask (h : ∀ path, r.text "propertiesFile" = .ok (some path) →
    opener.ask path = other.ask path) : r.configure opener = r.configure other := by
  unfold configure
  cases htext : r.text "propertiesFile" with
  | error e => rfl
  | ok given =>
    cases given with
    | none => rfl
    | some path =>
      have hload : opener.load path = other.load path := by
        simp only [Opener.load, h path htext]
      simp only [hload]

/-- Two files that differ in one entry, which no run that goes by a file stops at, are configured
with the same result and leave the same in all other fields. -/
theorem configure_agreeExcept
    (hkey : ∀ path a p, r.GoesBy opener path a p → ∀ e, ¬ p.Fault r key e)
    (h : ∀ path, r.text "propertiesFile" = .ok (some path) → ∃ a b,
      (opener.load path).result = .ok a ∧ (other.load path).result = .ok b ∧ a.AgreeExcept key b) :
    (r.configure opener).result = (r.configure other).result ∧ ∀ name, name ≠ key →
      (r.configure opener).registry.get? name = (r.configure other).registry.get? name := by
  by_cases hnamed : ∃ path, r.text "propertiesFile" = .ok (some path)
  · obtain ⟨path,hpath⟩ := hnamed
    obtain ⟨a,b,hload,hload',hagree⟩ := h path hpath
    cases hpolicy : Policy.ofRegistry r with
    | error e =>
      have hunreadable := policy_eq_error_iff.1 hpolicy
      obtain ⟨hresult,hregistry⟩ := (LoadFault.policy hpath hload hunreadable).configure_eq
      obtain ⟨hresult',hregistry'⟩ := (LoadFault.policy hpath hload' hunreadable).configure_eq
      rw [hresult, hresult', hregistry, hregistry']
      exact ⟨rfl,fun _ _ => rfl⟩
    | ok p =>
      have hgoes : r.GoesBy opener path a p := ⟨hpath,hload,hpolicy⟩
      have hgoes' : r.GoesBy other path b p := ⟨hpath,hload',hpolicy⟩
      rw [hgoes.configure_eq, hgoes'.configure_eq]
      exact resolve_agreeExcept (hkey path a p hgoes) hagree
  · rw [configure_eq_of_ask fun path hpath => absurd ⟨path,hpath⟩ hnamed]
    exact ⟨rfl,fun _ _ => rfl⟩

/-- A file cannot change its own policy, nor send for another file. Whatever the standard fields
hold, two files at the path that the registry names which differ at most in the entry for the
policy, or in that for the path, are configured with the same result and leave the same in all other
fields; and of what an opener has, only its answer for that path takes part in a configuration. -/
theorem configure_own_entry (writes : List (String × Option Value))
    (hkey : key ∈ ["propertyFileWillOverride","propertiesFile"])
    (h : ∀ path, (standard.assignAll writes).text "propertiesFile" = .ok (some path) →
      ∃ a b, (opener.load path).result = .ok a ∧ (other.load path).result = .ok b ∧
        a.AgreeExcept key b) :
    let r := standard.assignAll writes
    (r.configure opener).result = (r.configure other).result ∧
    (∀ name, name ≠ key →
      (r.configure opener).registry.get? name = (r.configure other).registry.get? name) ∧
    ∀ one another : Opener, (∀ path, r.text "propertiesFile" = .ok (some path) →
      one.ask path = another.ask path) → r.configure one = r.configure another := by
  obtain ⟨hresult,hget⟩ :=
    configure_agreeExcept (fun _ _ _ hgoes => not_fault_of_goesBy writes hgoes hkey) h
  exact ⟨hresult,hget,fun one another hask => configure_eq_of_ask hask⟩

/-- A path, and contexts that are chosen. -/
def choosingContexts : List (String × Option Value) :=
  [("propertiesFile",some (.text "db.properties")),("contexts",some (.text "chosen"))]

/-- A file that asks to override does not, and is configured as without asking. -/
theorem configure_own_entry_choosingContexts :
    let r := standard.assignAll choosingContexts
    let asking := fileOpener "contexts=a\npropertyFileWillOverride=true\nurl=x"
    let silent := fileOpener "contexts=a\nurl=x"
    (r.configure asking).registry.flag "propertyFileWillOverride" = .ok true ∧
    (r.configure asking).registry.text "contexts" = .ok (some "chosen") ∧
    (r.configure asking).result = (r.configure silent).result ∧
    (∀ name, name ≠ "propertyFileWillOverride" →
      (r.configure asking).registry.get? name = (r.configure silent).registry.get? name) ∧
    ∀ one another : Opener, (∀ path, r.text "propertiesFile" = .ok (some path) →
      one.ask path = another.ask path) → r.configure one = r.configure another := by
  intro r asking silent
  have hnamed : r.text "propertiesFile" = .ok (some "db.properties") := by decide +kernel
  have hasking : (asking.load "db.properties").result = .ok (.ofList
      [("contexts","a"),("propertyFileWillOverride","true"),("url","x")]) := by decide +kernel
  have hsilent : (silent.load "db.properties").result = .ok (.ofList
      [("contexts","a"),("url","x")]) := by decide +kernel
  refine ⟨by decide +kernel,by decide +kernel,
    configure_own_entry choosingContexts (by simp) fun path hpath => ?_⟩
  obtain rfl : "db.properties" = path := Option.some.inj (Except.ok.inj (hnamed.symm.trans hpath))
  refine ⟨_,_,hasking,hsilent,fun name hname => ?_⟩
  simp [Dictionary.get?_ofList, Dictionary.lookup_cons_if, hname]

end Registry

end LayeredSettings
