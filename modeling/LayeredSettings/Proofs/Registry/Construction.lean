import LayeredSettings.Proofs.Registry.Typing

/-! Which tables of fields a registry can be built from. Fields are entered one after the other. As
long as none is at fault, those entered so far are coherent and the index knows just their names;
the first field at fault ends the construction with its error. -/
namespace LayeredSettings

namespace Field

/-- A field cannot join fields of given names: its name is among them or, if it is new, its default
is not of its kind. -/
inductive Unfit (names : List String) (f : Field) : ConfigError → Prop
  | repeated (taken : f.name ∈ names) : Unfit names f (.duplicateField f.name)
  | mistyped {value : Value} (fresh : f.name ∉ names) (default : f.default = some value)
      (differ : value.kind ≠ f.kind) :
      Unfit names f (.fieldAccess f.name ("expected a " ++ f.kind.name ++ " value, got " ++
        value.kind.name ++ " '" ++ value.display ++ "'"))

/-- A field is unfit for one reason only, for a repeated name is told before anything else. -/
theorem Unfit.unique {names : List String} {f : Field} {e e' : ConfigError}
    (h : f.Unfit names e) (h' : f.Unfit names e') : e = e' := by
  cases h with
  | repeated taken =>
    cases h' with
    | repeated _ => rfl
    | mistyped fresh _ _ => exact absurd taken fresh
  | mistyped fresh default _ =>
    cases h' with
    | repeated taken => exact absurd taken fresh
    | mistyped _ default' _ =>
      obtain rfl := Option.some.inj (default.symm.trans default')
      rfl

theorem forall_not_unfit_iff {names : List String} {f : Field} :
    (∀ e, ¬ f.Unfit names e) ↔ f.name ∉ names ∧ f.CanHold f.default := by
  constructor
  · intro h
    have hfresh : f.name ∉ names := fun taken => h _ (.repeated taken)
    refine ⟨hfresh,fun value hv => ?_⟩
    by_contra hk
    exact h _ (.mistyped hfresh hv hk)
  · rintro ⟨hfresh,hd⟩ e he
    cases he with
    | repeated taken => exact hfresh taken
    | mistyped _ default differ => exact differ (hd _ default)

end Field

theorem Indexes.get?_eq_none_iff {index : Dictionary Nat} {names : List String}
    (h : Indexes index names) {name : String} : index.get? name = none ↔ name ∉ names := by
  rw [Option.eq_none_iff_forall_ne_some, List.mem_iff_getElem?, not_exists]
  exact forall_congr' fun i => not_congr (h name i)

namespace Registry

section

variable {index : Dictionary Nat} {names : List String} {f : Field}

/-- An unfit field ends the construction, whatever comes behind it. -/
lemma enter_of_unfit (h : Indexes index names) {e : ConfigError} (hf : f.Unfit names e) (i : Nat)
    (rest : List Field) : enter index i (f :: rest) = .error e := by
  cases hf with
  | repeated taken =>
    obtain ⟨j,hj⟩ := List.mem_iff_getElem?.1 taken
    simp only [enter, (h f.name j).2 hj]
  | mistyped fresh default differ =>
    have hcheck : f.checkType _ = .error _ := if_neg differ
    simp only [enter, h.get?_eq_none_iff.2 fresh, default, Option.map_some, hcheck]

lemma enter_of_fit (h : Indexes index names) (hf : ∀ e, ¬ f.Unfit names e) (i : Nat)
    (rest : List Field) :
    enter index i (f :: rest) = enter (index.insert f.name i) (i + 1) rest := by
  obtain ⟨hfresh,hd⟩ := Field.forall_not_unfit_iff.1 hf
  cases hdefault : f.default with
  | none => simp only [enter, h.get?_eq_none_iff.2 hfresh, hdefault, Option.map_none]
  | some value =>
    have hcheck : f.checkType value = .ok () := (f.checkType_eq_ok_iff value).2 (hd value hdefault)
    simp only [enter, h.get?_eq_none_iff.2 hfresh, hdefault, Option.map_some, hcheck]

end

/-- Fields with distinct names, each with a default of its kind if it has one. -/
structure Coherent (fields : List Field) : Prop where
  distinct : (fields.map (·.name)).Nodup
  defaults : ∀ f ∈ fields, f.CanHold f.default

lemma coherent_nil : Coherent [] := ⟨List.nodup_nil,by simp⟩

/-- Coherent fields stay so with one more field exactly if this one can join them. -/
theorem coherent_append_singleton {fields : List Field} {f : Field} :
    Coherent (fields ++ [f]) ↔ Coherent fields ∧ ∀ e, ¬ f.Unfit (fields.map (·.name)) e := by
  have hnames : ((fields ++ [f]).map (·.name)).Nodup ↔
      f.name ∉ fields.map (·.name) ∧ (fields.map (·.name)).Nodup := by
    rw [List.map_append, List.map_singleton, ← List.concat_eq_append, List.nodup_concat]
  have hdefaults : (∀ g ∈ fields ++ [f], g.CanHold g.default) ↔
      (∀ g ∈ fields, g.CanHold g.default) ∧ f.CanHold f.default := by
    rw [List.forall_mem_append, List.forall_mem_singleton]
  rw [Field.forall_not_unfit_iff]
  constructor
  · rintro ⟨hn,hd⟩
    obtain ⟨hfresh,hn⟩ := hnames.1 hn
    obtain ⟨hd,hf⟩ := hdefaults.1 hd
    exact ⟨⟨hn,hd⟩,hfresh,hf⟩
  · rintro ⟨⟨hn,hd⟩,hfresh,hf⟩
    exact ⟨hnames.2 ⟨hfresh,hn⟩,hdefaults.2 ⟨hd,hf⟩⟩

/-- The field at a position of a table cannot join those before it. -/
def FaultAt (fields : List Field) (i : Nat) (e : ConfigError) : Prop :=
  ∃ f, fields[i]? = some f ∧ f.Unfit ((fields.take i).map (·.name)) e

lemma faultAt_append_left {before after : List Field} {i : Nat} (h : i < before.length)
    {e : ConfigError} : FaultAt (before ++ after) i e ↔ FaultAt before i e := by
  rw [FaultAt, FaultAt, List.getElem?_append_left h,
    List.take_append_of_le_length (Nat.le_of_lt h)]

lemma faultAt_length {before after : List Field} {f : Field} {e : ConfigError} :
    FaultAt (before ++ f :: after) before.length e ↔ f.Unfit (before.map (·.name)) e := by
  simp [FaultAt]

theorem Coherent.not_faultAt {fields : List Field} (h : Coherent fields) (i : Nat)
    (e : ConfigError) : ¬ FaultAt fields i e := by
  induction fields using List.reverseRecOn with
  | nil =>
    rintro ⟨f,hf,-⟩
    simp at hf
  | append_singleton fields f ih =>
    obtain ⟨hfields,hf⟩ := coherent_append_singleton.1 h
    rcases Nat.lt_trichotomy i fields.length with hi | rfl | hi
    · rw [faultAt_append_left hi]
      exact ih hfields
    · rw [faultAt_length]
      exact hf e
    · rintro ⟨g,hg,-⟩
      have hlength : (fields ++ [f]).length ≤ i := by
        rw [List.length_append]
        exact hi
      rw [List.getElem?_eq_none hlength] at hg
      cases hg

/-- The error of the first position of a table that is at fault. -/
def FirstFault (fields : List Field) (e : ConfigError) : Prop :=
  ∃ i, FaultAt fields i e ∧ ∀ j < i, ∀ e', ¬ FaultAt fields j e'

theorem FirstFault.unique {fields : List Field} {e e' : ConfigError} (h : FirstFault fields e)
    (h' : FirstFault fields e') : e = e' := by
  obtain ⟨i,hi,hfirst⟩ := h
  obtain ⟨i',hi',hfirst'⟩ := h'
  rcases Nat.lt_trichotomy i i' with hlt | rfl | hlt
  · exact absurd hi (hfirst' i hlt e)
  · obtain ⟨f,hf,hunfit⟩ := hi
    obtain ⟨g,hg,hunfit'⟩ := hi'
    obtain rfl := Option.some.inj (hf.symm.trans hg)
    exact hunfit.unique hunfit'
  · exact absurd hi' (hfirst i' hlt e')

lemma Coherent.not_firstFault {fields : List Field} (h : Coherent fields) (e : ConfigError) :
    ¬ FirstFault fields e := by
  rintro ⟨i,hi,-⟩
  exact h.not_faultAt i e hi

/-- From coherent fields whose names the index knows, entering comes to the end of a table that is
coherent as a whole, and else to its first fault. -/
theorem enter_spec {index : Dictionary Nat} {before : List Field} (fields : List Field)
    (hindex : Indexes index (before.map (·.name))) (hbefore : Coherent before) :
    (Coherent (before ++ fields) ∧ ∃ result, enter index before.length fields = .ok result) ∨
      ∃ e, FirstFault (before ++ fields) e ∧ enter index before.length fields = .error e := by
  induction fields generalizing index before with
  | nil => exact .inl ⟨by rwa [List.append_nil],index,rfl⟩
  | cons f rest ih =>
    by_cases hf : ∀ e, ¬ f.Unfit (before.map (·.name)) e
    · have hfresh := (Field.forall_not_unfit_iff.1 hf).1
      have hnext : Indexes (index.insert f.name before.length) ((before ++ [f]).map (·.name)) := by
        simpa using hindex.insert (hindex.get?_eq_none_iff.2 hfresh)
      have hrest := ih hnext (coherent_append_singleton.2 ⟨hbefore,hf⟩)
      rw [enter_of_fit hindex hf]
      simpa using hrest
    · obtain ⟨e,he⟩ := not_forall_not.1 hf
      refine .inr ⟨e,⟨before.length,faultAt_length.2 he,fun j hj e' => ?_⟩,
        enter_of_unfit hindex he _ rest⟩
      rw [faultAt_append_left hj]
      exact hbefore.not_faultAt j e'

lemma exists_enter_of_ofFields {fields : List Field} {r : Registry} (h : ofFields fields = .ok r) :
    enter .empty 0 fields = .ok r.index ∧ r.fields = fields := by
  unfold ofFields at h
  split at h
  · cases h
  · rename_i index he
    obtain rfl := Except.ok.inj h
    exact ⟨he,rfl⟩

theorem coherent_of_ofFields {fields : List Field} {r : Registry} (h : ofFields fields = .ok r) :
    Coherent fields := by
  obtain ⟨henter,-⟩ := exists_enter_of_ofFields h
  rcases enter_spec fields indexes_empty coherent_nil with ⟨hc,-⟩ | ⟨e,-,herr⟩
  · exact hc
  · cases henter.symm.trans herr

theorem firstFault_of_ofFields {fields : List Field} {e : ConfigError}
    (h : ofFields fields = .error e) : FirstFault fields e := by
  have henter : enter .empty 0 fields = .error e := by
    unfold ofFields at h
    split at h
    · rename_i he
      rw [he, Except.error.inj h]
    · cases h
  rcases enter_spec fields indexes_empty coherent_nil with ⟨-,_,hok⟩ | ⟨_,hfault,herr⟩
  · cases henter.symm.trans hok
  · obtain rfl := Except.error.inj (henter.symm.trans herr)
    exact hfault

/-- A registry that can be built is well typed if its fields hold values of their kinds. -/
theorem wellTyped_of_ofFields {fields : List Field} {r : Registry} (h : ofFields fields = .ok r)
    (hc : ∀ f ∈ fields, f.CanHold f.current) : r.WellTyped := by
  obtain ⟨-,hfields⟩ := exists_enter_of_ofFields h
  intro f hf
  rw [hfields] at hf
  exact ⟨(coherent_of_ofFields h).defaults f hf,hc f hf⟩

theorem exists_ofFields_iff {fields : List Field} :
    (∃ r, ofFields fields = .ok r) ↔ Coherent fields := by
  constructor
  · rintro ⟨r,hr⟩
    exact coherent_of_ofFields hr
  · intro hc
    cases h : ofFields fields with
    | ok r => exact ⟨r,rfl⟩
    | error e => exact absurd (firstFault_of_ofFields h) (hc.not_firstFault e)

theorem ofFields_eq_error_iff {fields : List Field} {e : ConfigError} :
    ofFields fields = .error e ↔ FirstFault fields e := by
  constructor
  · exact firstFault_of_ofFields
  · intro hfault
    cases h : ofFields fields with
    | ok r => exact absurd hfault ((coherent_of_ofFields h).not_firstFault e)
    | error e' => rw [hfault.unique (firstFault_of_ofFields h)]

lemma lookup_getElem? {r : Registry} {i : Nat} {f : Field} (h : r.fields[i]? = some f) :
    r.index.get? f.name = some i ∧ r.lookup f.name = .ok f := by
  constructor
  · rw [r.indexed, List.getElem?_map, h, Option.map_some]
  · exact lookup_of_get? (get?_name (List.mem_of_getElem? h))

/-- A registry can be built from a table exactly if the table is coherent: names are distinct and
every default is of its field's kind. Otherwise the error is that of the first position at fault,
where a repeated name goes before a mistyped default. A registry that is built has the fields as
they were given, in their order, and leads from each name to the field at its position. -/
theorem ofFields_accepts_coherent (fields : List Field) :
    ((∃ r, ofFields fields = .ok r) ↔ Coherent fields) ∧
    (∀ e, ofFields fields = .error e ↔ FirstFault fields e) ∧
    ∀ r, ofFields fields = .ok r → r.fields = fields ∧
      ∀ i f, fields[i]? = some f → r.index.get? f.name = some i ∧ r.lookup f.name = .ok f := by
  refine ⟨exists_ofFields_iff,fun e => ofFields_eq_error_iff,fun r hr => ?_⟩
  obtain ⟨-,rfl⟩ := exists_enter_of_ofFields hr
  exact ⟨rfl,fun i f hf => lookup_getElem? hf⟩

/-- A table whose second field repeats a name and has a mistyped default, as the third one has. -/
def clashingFields : List Field := [
  { name := "url", kind := .text, set := .base },
  ({ name := "url", kind := .boolean, set := .configurable } : Field).withDefault (.text "no"),
  ({ name := "dropFirst", kind := .boolean, set := .base } : Field).withDefault (.text "")]

theorem ofFields_accepts_coherent_clashingFields :
    ofFields clashingFields = .error (.duplicateField "url") ∧
    FirstFault clashingFields (.duplicateField "url") ∧ ¬ Coherent clashingFields ∧
    ofFields (Field.baseTable ++ Field.configurableTable) = .ok standard ∧
    standard.index.get? "dropFirst" = some 6 ∧
    ∃ f, standard.lookup "dropFirst" = .ok f ∧ f.set = .configurable := by
  have herr : ofFields clashingFields = .error (.duplicateField "url") := rfl
  obtain ⟨haccepts,hrefuses,-⟩ := ofFields_accepts_coherent clashingFields
  obtain ⟨-,-,hbuilt⟩ := ofFields_accepts_coherent (Field.baseTable ++ Field.configurableTable)
  have hincoherent : ¬ Coherent clashingFields := by
    rw [← haccepts, herr]
    rintro ⟨_,h⟩
    cases h
  obtain ⟨hindex,hlookup⟩ := (hbuilt standard ofFields_standard).2 6 _ rfl
  exact ⟨herr,(hrefuses _).1 herr,hincoherent,ofFields_standard,hindex,_,hlookup,rfl⟩

end Registry

end LayeredSettings
