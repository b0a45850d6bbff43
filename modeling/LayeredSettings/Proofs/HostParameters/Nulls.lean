import Mathlib
import LayeredSettings.Proofs.HostParameters.Loading
import LayeredSettings.Proofs.Resolution.HostFailure
import LayeredSettings.Yaml

/-! Null stands for "not specified" in a document, in a member of it and in a parameter: loading and
injecting without some nulls has the outcome that it had with them. One place breaks this: merged
documents whose parameters are null are refused, and those without parameters are not. -/
namespace LayeredSettings

open Json (NullLeftOut NullsLeftOut)

lemma Field.valueFor_null (f : Field) : f.valueFor .null = .ok none := by
  unfold valueFor
  cases f.kind <;> rfl

namespace HostConfig

/-- What every field of the standard registry holds once the parameters have been injected; nothing
if one of them is refused. -/
def fill (c : HostConfig) : Option (List (String × Option Value)) :=
  let injected := Registry.standard.injectParameters c.parameters
  match injected.result with
  | .ok _ => some (injected.registry.fields.map fun f => (f.name,f.current))
  | .error _ => none

/-- What the fields hold after a value has been read as a configuration and injected. -/
def filledBy (value : Json) : Option (List (String × Option Value)) :=
  (ofJson value).toOption.bind fill

lemma fill_of_accepted {c : HostConfig} (h : Request.Accepted c.parameters.entries) :
    c.fill = some (Registry.standard.fields.map fun f =>
      (f.name,((c.parameters.get? f.name).bind fun item =>
        (f.valueFor item).toOption.join).or f.current)) := by
  have hok := Request.result_injectParameters_eq_ok_iff.2 h
  unfold fill
  simp only [hok, Registry.fields_of_injectParameters_ok hok, List.map_map, Function.comp_def,
    Rule.parameter_supply, Field.holding_name, Field.holding_current]

lemma fill_of_not_accepted {c : HostConfig} (h : ¬ Request.Accepted c.parameters.entries) :
    c.fill = none := by
  unfold fill
  cases hr : (Registry.standard.injectParameters c.parameters).result with
  | ok _ => exact absurd (Request.result_injectParameters_eq_ok_iff.1 hr) h
  | error e => simp only [hr]

lemma fill_empty_ne_none : fill {} ≠ none := by
  have hnone : Request.Accepted (Dictionary.empty : Dictionary Json).entries :=
    fun _ h => absurd h List.not_mem_nil
  have hfill := fill_of_accepted (c := {}) hnone
  rw [hfill]
  exact Option.some_ne_none _

lemma not_parameterFault_null {name : String} (h : name ∈ Registry.standard.names)
    (e : ConfigError) : ¬ Request.ParameterFault name .null e := by
  intro hfault
  cases hfault with
  | unknown absent => exact absent h
  | @rejected f reason found hvalue =>
    rw [Field.valueFor_null] at hvalue
    cases hvalue

lemma accepted_iff_get? {d : Dictionary Json} : Request.Accepted d.entries ↔
    ∀ name item, d.get? name = some item → ∀ e, ¬ Request.ParameterFault name item e := by
  simp only [Request.Accepted, Prod.forall, Dictionary.get?_eq_some_iff]

/-- Parameters without some nulls are accepted exactly if they are accepted with them. -/
lemma accepted_iff_of_nullLeftOut {d fewer : Dictionary Json}
    (h : ∀ name, NullLeftOut (name ∈ Registry.standard.names) Eq (d.get? name) (fewer.get? name)) :
    Request.Accepted d.entries ↔ Request.Accepted fewer.entries := by
  rw [accepted_iff_get?, accepted_iff_get?]
  refine forall_congr' fun name => ?_
  have hplace := h name
  generalize d.get? name = given, fewer.get? name = left at hplace
  cases hplace with
  | absent => exact Iff.rfl
  | kept heq => rw [heq]
  | gone hname =>
    have hnull (item : Json) (hitem : some Json.null = some item) (e : ConfigError) :
        ¬ Request.ParameterFault name item e := by
      cases hitem
      exact not_parameterFault_null hname e
    exact iff_of_true hnull fun item hitem => by cases hitem

/-- Parameters without some nulls leave the same values in every field. -/
theorem fill_eq_of_nullLeftOut {c fewer : HostConfig}
    (h : ∀ name, NullLeftOut (name ∈ Registry.standard.names) Eq (c.parameters.get? name)
      (fewer.parameters.get? name)) : c.fill = fewer.fill := by
  have haccepted := accepted_iff_of_nullLeftOut h
  by_cases hc : Request.Accepted c.parameters.entries
  · rw [fill_of_accepted hc, fill_of_accepted (haccepted.1 hc)]
    congr 1
    refine List.map_congr_left fun f _ => ?_
    have hplace := h f.name
    generalize c.parameters.get? f.name = given, fewer.parameters.get? f.name = left at hplace
    cases hplace with
    | absent => rfl
    | kept heq => rw [heq]
    | gone =>
      rw [Option.bind_some, Field.valueFor_null]
      rfl
  · rw [fill_of_not_accepted hc, fill_of_not_accepted (mt haccepted.2 hc)]

end HostConfig

/-- Parameters before and after nulls under names of standard fields are left out. -/
def ParametersLeftOut : Json → Json → Prop :=
  NullsLeftOut (· ∈ Registry.standard.names) fun _ => Eq

/-- A document before and after nulls are left out: as its parameters, or among them. The parameters
are a member of it, or the first item of a list. -/
inductive DocumentLeftOut : Json → Json → Prop
  | members {x y : Json} (h : NullsLeftOut (· = "parameters")
      (fun key x y => if key = "parameters" then ParametersLeftOut x y else x = y) x y) :
      DocumentLeftOut x y
  | listed {x y : Json} {rest : List Json} (h : ParametersLeftOut x y) :
      DocumentLeftOut (.array (x :: rest)) (.array (y :: rest))

/-- A value whose member `parameters` is null. -/
def Json.NullParameters (x : Json) : Prop :=
  ∃ members, x = .object members ∧ members.lookup "parameters" = some .null

lemma ParametersLeftOut.merge {x x' y y' : Json} (hx : ParametersLeftOut x x')
    (hy : ParametersLeftOut y y') : ParametersLeftOut (x.merge y) (x'.merge y') := by
  refine NullsLeftOut.merge (fun _ x x' y y' hx hy => ?_) hx hy
  rw [hx, hy]

/-- Documents without some nulls are merged into one without some nulls. -/
theorem DocumentLeftOut.merge {x x' y y' : Json} (hx : DocumentLeftOut x x')
    (hy : DocumentLeftOut y y') : DocumentLeftOut (x.merge y) (x'.merge y') := by
  cases hy with
  | listed hy =>
    rw [Json.merge_eq_overlay Json.noConfusion (.inr fun _ => Json.noConfusion),
      Json.merge_eq_overlay Json.noConfusion (.inr fun _ => Json.noConfusion)]
    exact .listed hy
  | members hy =>
    cases hx with
    | members hx =>
      refine .members (hx.merge (fun key x x' y y' hx hy => ?_) hy)
      by_cases hkey : key = "parameters"
      · rw [if_pos hkey] at hx hy ⊢
        exact hx.merge hy
      · rw [if_neg hkey] at hx hy ⊢
        rw [hx, hy]
    | listed hx =>
      cases hy with
      | plain hy =>
        rcases Json.merge_plain hy with hkeeps | hreplaces
        · rw [hkeeps, hkeeps]
          exact .listed hx
        · rw [hreplaces, hreplaces]
          exact .members (.plain hy)
      | object ordered ordered' h => exact .members (.object ordered ordered' h)

namespace HostConfig

lemma fill_ofParameters_eq {x y : Json} (h : ParametersLeftOut x y) :
    (ofParameters x).toOption.bind fill = (ofParameters y).toOption.bind fill := by
  cases h with
  | plain => rfl
  | @object members fewer ordered ordered' h =>
    change fill ⟨.ofList members⟩ = fill ⟨.ofList fewer⟩
    refine fill_eq_of_nullLeftOut fun name => ?_
    rw [Dictionary.get?_ofList_of_nodup (nodup_keys ordered),
      Dictionary.get?_ofList_of_nodup (nodup_keys ordered')]
    exact h name

lemma filledBy_object (members : List (String × Json)) : filledBy (.object members) =
    match members.lookup "parameters" with
    | some x => (ofParameters x).toOption.bind fill
    | none => fill {} := by
  unfold filledBy
  simp only [ofJson]
  cases members.lookup "parameters" with
  | none => rfl
  | some x => rfl

lemma filledBy_array (x : Json) (rest : List Json) : filledBy (.array (x :: rest)) =
    if rest = [] then (ofParameters x).toOption.bind fill else none := by
  unfold filledBy
  cases rest with
  | nil => rfl
  | cons y rest =>
    simp only [ofJson]
    cases ofParameters x with
    | ok config => rfl
    | error e => rfl

/-- A document without some nulls leaves the same in every field, except that without its null
parameters it leaves the defaults and is not refused. -/
theorem filledBy_eq_iff {x y : Json} (h : DocumentLeftOut x y) :
    filledBy x = filledBy y ↔ (x.NullParameters → y.NullParameters) := by
  cases h with
  | @listed x y rest h =>
    refine iff_of_true ?_ fun ⟨_,hobject,_⟩ => Json.noConfusion hobject
    rw [filledBy_array, filledBy_array, fill_ofParameters_eq h]
  | members h =>
    cases h with
    | plain => exact iff_of_true rfl id
    | @object members fewer _ _ h =>
      have hplace := h "parameters"
      have hnull (entries : List (String × Json)) :
          (Json.object entries).NullParameters ↔ entries.lookup "parameters" = some .null := by
        constructor
        · rintro ⟨_,⟨⟩,hlookup⟩
          exact hlookup
        · exact fun hlookup => ⟨entries,rfl,hlookup⟩
      rw [filledBy_object, filledBy_object, hnull, hnull]
      generalize members.lookup "parameters" = given, fewer.lookup "parameters" = left at hplace
      cases hplace with
      | absent => exact iff_of_true rfl id
      | kept h =>
        rw [if_pos rfl] at h
        refine iff_of_true (fill_ofParameters_eq h) fun hgiven => ?_
        obtain rfl := Option.some.inj hgiven
        rw [h.eq_null]
      -- The one place where a null shows: the parameters are refused with it, and the defaults stay
      -- without it.
      | gone => exact iff_of_false fill_empty_ne_none.symm fun himp => by cases himp rfl

end HostConfig

namespace Documents

/-- The documents before and after nulls are left out, whole documents among them. -/
structure LeftOut (before after : Documents) : Prop where
  project : NullLeftOut True DocumentLeftOut before.project after.project
  user : NullLeftOut True DocumentLeftOut before.user after.user

lemma LeftOut.merged {before after : Documents} (h : before.LeftOut after) :
    DocumentLeftOut before.merged after.merged := by
  have hnull : DocumentLeftOut .null .null := .members (.plain fun _ => Json.noConfusion)
  have hplace := h.project.merge (fun _ _ _ _ hx hy => hx.merge hy) h.user
  rw [merged_eq, merged_eq]
  generalize Option.merge Json.merge before.project before.user = x,
    Option.merge Json.merge after.project after.user = y at hplace
  cases hplace with
  | absent => exact hnull
  | kept h => exact h
  | gone => exact hnull

end Documents

namespace HostParameters

/-- What the fields of the standard registry hold once what was loaded has been injected; nothing if
loading or injecting fails. -/
def filled (loaded : Except LoadError HostParameters) : Option (List (String × Option Value)) :=
  loaded.toOption.bind fun host => host.config.fill

variable {reader : String → Option Json}

lemma filled_loadTiers {disk : Disk} {directories : Directories} {documents : Documents}
    (h : Holds reader disk directories documents) :
    filled (loadTiers reader disk directories).result = HostConfig.filledBy documents.merged := by
  obtain ⟨sources,hload⟩ := loadTiers_of_holds h
  rw [hload]
  unfold HostConfig.filledBy interpret
  cases HostConfig.ofJson documents.merged <;> rfl

/-- Null means "not specified", up to one case. Leaving out null documents, null parameters and nulls
among the parameters changes the outcome of loading both tiers and injecting exactly if the merged
documents have null parameters before and not after. -/
theorem filled_eq_iff {disk disk' : Disk} {directories directories' : Directories}
    {before after : Documents} (hbefore : Holds reader disk directories before)
    (hafter : Holds reader disk' directories' after) (h : before.LeftOut after) :
    filled (loadTiers reader disk directories).result =
        filled (loadTiers reader disk' directories').result ↔
      (before.merged.NullParameters → after.merged.NullParameters) := by
  rw [filled_loadTiers hbefore, filled_loadTiers hafter]
  exact HostConfig.filledBy_eq_iff h.merged

def sampleDirectories : Directories := ⟨some "p",some "u"⟩

/-- A disk with files of these texts in the directories of the tiers. -/
def sampleDisk (project user : Option String) : Disk := fun path =>
  match if path = "p/config.yaml" then project
    else if path = "u/config.yaml" then user else none with
  | some text => .ok (.file text.toUTF8)
  | none => .error .notFound

def nullParameters : Json := .object [("parameters",.null)]

lemma read_nullParameters : Yaml.read? "parameters:" = some nullParameters := by cbv

lemma read_emptyMap : Yaml.read? "{}" = some (.object []) := by cbv

/-- A blank file of the project's tier holds a null document, and no file holds none. -/
theorem sample_filled_eq :
    Holds Yaml.read? (sampleDisk (some " ") (some "{}")) sampleDirectories
      ⟨some .null,some (.object [])⟩ ∧
    Holds Yaml.read? (sampleDisk none (some "{}")) sampleDirectories ⟨none,some (.object [])⟩ ∧
    (⟨some .null,some (.object [])⟩ : Documents).LeftOut ⟨none,some (.object [])⟩ ∧
    filled (loadTiers Yaml.read? (sampleDisk (some " ") (some "{}")) sampleDirectories).result =
      filled (loadTiers Yaml.read? (sampleDisk none (some "{}")) sampleDirectories).result := by
  have huser (project : Option String) :
      TierHolds Yaml.read? (sampleDisk project (some "{}")) (some "u") (some (.object [])) := by
    refine .read (readValue_of_text ?_ ?_ read_emptyMap)
    · rfl
    · decide +kernel
  have hbefore : Holds Yaml.read? (sampleDisk (some " ") (some "{}")) sampleDirectories
      ⟨some .null,some (.object [])⟩ := ⟨.read rfl,huser _⟩
  have hafter : Holds Yaml.read? (sampleDisk none (some "{}")) sampleDirectories
      ⟨none,some (.object [])⟩ := ⟨.missing rfl,huser _⟩
  have hkept : DocumentLeftOut (.object []) (.object []) :=
    .members (.object (by decide) (by decide) fun _ => .absent)
  have hleft : (⟨some .null,some (.object [])⟩ : Documents).LeftOut ⟨none,some (.object [])⟩ :=
    ⟨.gone trivial,.kept hkept⟩
  refine ⟨hbefore,hafter,hleft,(filled_eq_iff hbefore hafter hleft).2 ?_⟩
  rintro ⟨members,⟨⟩,hlookup⟩
  cases hlookup

/-- Null parameters are refused, where a document without parameters leaves the defaults. -/
theorem sample_filled_ne :
    Holds Yaml.read? (sampleDisk (some "parameters:") none) sampleDirectories
      ⟨some nullParameters,none⟩ ∧
    Holds Yaml.read? (sampleDisk (some "{}") none) sampleDirectories ⟨some (.object []),none⟩ ∧
    (⟨some nullParameters,none⟩ : Documents).LeftOut ⟨some (.object []),none⟩ ∧
    filled (loadTiers Yaml.read? (sampleDisk (some "parameters:") none) sampleDirectories).result ≠
      filled (loadTiers Yaml.read? (sampleDisk (some "{}") none) sampleDirectories).result := by
  have hproject {text : String} {value : Json} (hblank : (Text.trimmed text).isEmpty = false)
      (hread : Yaml.read? text = some value) :
      TierHolds Yaml.read? (sampleDisk (some text) none) (some "p") (some value) :=
    .read (readValue_of_text rfl hblank hread)
  have hleft : DocumentLeftOut nullParameters (.object []) := by
    refine .members (.object (by decide) (by decide) fun key => ?_)
    by_cases hkey : key = "parameters"
    · subst hkey
      exact .gone rfl
    · rw [Dictionary.lookup_cons_if, if_neg hkey]
      exact .absent
  refine ⟨⟨hproject (by decide +kernel) read_nullParameters,.missing rfl⟩,
    ⟨hproject (by decide +kernel) read_emptyMap,.missing rfl⟩,⟨.kept hleft,.absent⟩,?_⟩
  decide +kernel

end HostParameters

end LayeredSettings
