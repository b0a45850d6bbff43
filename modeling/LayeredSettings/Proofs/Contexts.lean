import LayeredSettings.Proofs.Parameter
import LayeredSettings.Proofs.Parts
import LayeredSettings.Proofs.Resolution.Run
import LayeredSettings.Proofs.Space

/-! The contexts of a run. A list of them is stored as one text and taken apart again when it is
needed; taking a text apart does not depend on where its commas came from. -/
namespace LayeredSettings

/-- The contexts that a text lists: its parts, trimmed, as far as anything is left of them. -/
def contextsIn (text : String) : List String :=
  ((Text.parts ',' text).map Text.trimmed).filter (· ≠ "")

theorem Settings.contextList_eq (s : Settings) : s.contextList = contextsIn s.contexts := by
  have hempty (cs : List Char) : String.ofList cs = "" ↔ cs = [] := by
    rw [← String.toList_inj, String.toList_ofList, String.toList_empty]
  unfold contextList contextsIn Text.parts
  rw [← List.filterMap_eq_filter, List.map_map, List.filterMap_map, List.filterMap_map]
  refine List.filterMap_congr fun cs _ => ?_
  by_cases h : Text.trim cs = []
  · simp [Text.trimmed, Option.guard, h]
  · simp [Text.trimmed, Option.guard, h, hempty]

/-- A context by itself: a text without commas that is not empty and has no white space at its
ends. -/
structure IsContext (entry : String) : Prop where
  nonempty : entry ≠ ""
  trimmed : Text.trimmed entry = entry
  undivided : ',' ∉ entry.toList

lemma contextsIn_empty : contextsIn "" = [] := by decide

/-- A comma parts what stands before it from what comes after. -/
theorem contextsIn_of_cut {text before after : String} (h : Text.CutAt ',' text before after) :
    contextsIn text = contextsIn before ++ contextsIn after := by
  simp only [contextsIn, h.parts_eq, List.map_append, List.filter_append]

/-- Texts with commas between list what each of them lists. -/
theorem contextsIn_intercalate (texts : List String) :
    contextsIn (String.intercalate "," texts) = texts.flatMap contextsIn := by
  induction texts with
  | nil => exact contextsIn_empty
  | cons first rest ih =>
    cases rest with
    | nil => simp
    | cons second rest =>
      have hcut : Text.CutAt ',' (String.intercalate "," (first :: second :: rest)) first
          (String.intercalate "," (second :: rest)) := by
        simp [Text.CutAt, String.intercalate_cons_cons]
      rw [contextsIn_of_cut hcut, ih]
      rfl

theorem IsContext.contextsIn_eq {entry : String} (h : IsContext entry) :
    contextsIn entry = [entry] := by
  rw [contextsIn, Text.parts_of_not_mem h.undivided, List.map_singleton, h.trimmed,
    List.filter_singleton]
  simp [h.nonempty]

theorem isContext_of_mem {text entry : String} (h : entry ∈ contextsIn text) : IsContext entry := by
  obtain ⟨hmem,hnonempty⟩ := List.mem_filter.1 h
  obtain ⟨part,hpart,rfl⟩ := List.mem_map.1 hmem
  refine ⟨by simpa using hnonempty,Text.trimmed_trimmed part,fun hcomma => ?_⟩
  rw [Text.trimmed, String.toList_ofList] at hcomma
  exact Text.not_mem_of_mem_parts hpart (Text.trim_subset _ hcomma)

theorem contextsIn_of_contexts {entries : List String} (h : ∀ entry ∈ entries, IsContext entry) :
    contextsIn (String.intercalate "," entries) = entries := by
  calc contextsIn (String.intercalate "," entries)
      = entries.flatMap contextsIn := contextsIn_intercalate entries
    _ = entries.flatMap fun entry => [entry] :=
        List.flatMap_congr fun entry hentry => (h entry hentry).contextsIn_eq
    _ = entries := List.flatMap_singleton' entries

/-- A text lists no contexts exactly if there is nothing in it but commas and white space. -/
theorem contextsIn_eq_nil_iff {text : String} :
    contextsIn text = [] ↔ ∀ c ∈ text.toList, c = ',' ∨ Text.isSpace c := by
  induction text using Text.parts_induction ',' with
  | plain text htext =>
    have hblank : contextsIn text = [] ↔ Text.trimmed text = "" := by
      simp [contextsIn, Text.parts_of_not_mem htext]
    rw [hblank, Text.trimmed_eq_empty_iff]
    refine forall₂_congr fun c hc => ?_
    have hne : c ≠ ',' := fun he => htext (he ▸ hc)
    simp [hne]
  | cut text before after hcut ihbefore ihafter =>
    rw [contextsIn_of_cut hcut, List.append_eq_nil_iff, ihbefore, ihafter, hcut]
    simp [or_imp, forall_and]

def Field.contexts : Field :=
  ({ name := "contexts", kind := .text, set := .configurable } : Field).withDefault (.text "")

lemma Field.contexts_mem : Field.contexts ∈ Registry.standard.fields := by decide

namespace Request

/-- No other source of a run takes the place of a field's parameter: no assignment, flag or variable
is there for the field, and no entry of the file replaces what the host gives. -/
structure Undisplaced (q : Request) (parameters : Dictionary Json) (env : Environment)
    (opener : Opener) (f : Field) : Prop where
  assignment (raw : String) : (f.name,raw) ∉ q.assignments
  flag : q.flag? f.name = none
  unset : env (VariableName.ofField f.name) = none
  entry {source : Properties.Source} {raw : String}
    (reads : q.Reads parameters env opener (some source)) (h : source.get? f.name = some raw) :
    ¬ q.Yields parameters env f

section
variable {q : Request} {parameters : Dictionary Json} {env : Environment} {opener : Opener}
  {f : Field} {item : Json} {v : Value}

/-- Where nothing stronger is given for a field, the host gives what the parameter says. -/
lemma Undisplaced.hostValue_eq (h : q.Undisplaced parameters env opener f)
    (hitem : parameters.get? f.name = some item) (hv : f.valueFor item = .ok (some v)) :
    q.hostValue parameters env f = some v := by
  have hassigned : q.assignments.reverse.lookup f.name = none := by
    refine List.lookup_eq_none_iff.2 fun entry hentry => ?_
    have hne : f.name ≠ entry.1 := by
      rintro hname
      exact h.assignment entry.2 (hname ▸ List.mem_reverse.1 hentry)
    simpa using hne
  have hflag : q.flags.lookup f.name = none := by
    rw [flags_eq_filterMap, Registry.lookup_filterMap_graph, h.flag, ite_self]
  simp [hostValue, hassigned, hflag, h.unset, hitem, hv, Except.toOption]

/-- A parameter that nothing displaces decides what its field ends with. -/
theorem Undisplaced.finalValue_eq (h : q.Undisplaced parameters env opener f)
    (hitem : parameters.get? f.name = some item) (hv : f.valueFor item = .ok (some v))
    {source : Option Properties.Source} (hreads : q.Reads parameters env opener source) :
    q.finalValue parameters env source f = some v := by
  have hhost := h.hostValue_eq hitem hv
  unfold finalValue
  cases hraw : source.bind (·.get? f.name) with
  | none => exact hhost
  | some raw =>
    obtain ⟨s,rfl,hget⟩ := Option.bind_eq_some_iff.1 hraw
    simp only [h.entry hreads hget, if_false]
    exact hhost

end

/-- A list of scalars that nothing displaces reaches the settings as one text. -/
theorem contexts_of_scalars {q : Request} {opener : Opener} {host : HostParameters}
    {env : Environment} {settings : Settings} {scalars : List Scalar}
    (h : (q.resolveWith opener host env).result = .ok settings)
    (hitem : host.config.parameters.get? "contexts" = some (.array (scalars.map Scalar.toJson)))
    (hplace : q.Undisplaced host.config.parameters env opener Field.contexts) :
    settings.contexts = String.intercalate "," (scalars.map Scalar.text) := by
  obtain ⟨source,hreads,hshown⟩ := exists_source_of_resolveWith h
  have hfinal := hplace.finalValue_eq hitem (Field.valueFor_scalars rfl scalars) hreads
  have hvalue := hshown _ Field.contexts_mem
  rw [hfinal] at hvalue
  injection hvalue with hvalue
  injection hvalue with hvalue

/-- Contexts survive the way from a list of parameters to the migration. The field takes every list
of scalars; where nothing displaces the list, the settings list what its items list, one after the
other. Whatever the text, its contexts stand by themselves, are listed alike when they are joined
again, and are missing only if there is nothing in the text but commas and white space. -/
theorem contextList_survives :
    (∀ scalars : List Scalar, ∃ text,
      Field.contexts.valueFor (.array (scalars.map Scalar.toJson)) = .ok (some (.text text))) ∧
    (∀ (q : Request) (opener : Opener) (host : HostParameters) (env : Environment)
      (settings : Settings) (scalars : List Scalar),
      (q.resolveWith opener host env).result = .ok settings →
      host.config.parameters.get? "contexts" = some (.array (scalars.map Scalar.toJson)) →
      q.Undisplaced host.config.parameters env opener Field.contexts →
      settings.contextList = scalars.flatMap fun scalar => contextsIn scalar.text) ∧
    ∀ s : Settings, (∀ entry ∈ s.contextList, IsContext entry) ∧
      ({ s with contexts := String.intercalate "," s.contextList } : Settings).contextList =
        s.contextList ∧
      (s.contextList = [] ↔ ∀ c ∈ s.contexts.toList, c = ',' ∨ Text.isSpace c) := by
  refine ⟨fun scalars => ⟨_,Field.valueFor_scalars rfl scalars⟩,?_,fun s => ?_⟩
  · intro q opener host env settings scalars h hitem hplace
    rw [Settings.contextList_eq, contexts_of_scalars h hitem hplace, contextsIn_intercalate,
      List.flatMap_map]
  · rw [Settings.contextList_eq, Settings.contextList_eq]
    exact ⟨fun entry => isContext_of_mem,contextsIn_of_contexts fun entry => isContext_of_mem,
      contextsIn_eq_nil_iff⟩

/-- A list with commas, a number, a truth value, wide blanks and nothing at all in its items. -/
def listedScalars : List Scalar :=
  [.string "test, ,prod",.number (.integer 7),.bool true,.string "\u3000first run\u00A0",.string ""]

def listingHost : HostParameters where
  config.parameters := .ofList
    [("changeLogFile",.string "changes.xml"),("contexts",.array (listedScalars.map Scalar.toJson)),
      ("propertiesFile",.string "db.properties")]

def listingOpener : Opener :=
  .leaf "memory" fun _ => .ok (some (.ok "url = file\ncontexts = other".toUTF8))

def listingSettings : Settings where
  changeLogFile := "changes.xml"
  contexts := "test, ,prod,7,true,\u3000first run\u00A0,"
  propertiesFile := some "db.properties"
  connection := { url := some "file", promptOnNonLocalDatabase := true }

/-- The file's entry does not replace the list, and every item contributes what it lists. -/
theorem listing_survives :
    ((({} : Request).resolveWith listingOpener listingHost fun _ => none).result =
      .ok listingSettings) ∧
    listingSettings.contextList = ["test","prod","7","true","first run"] := by
  have hresult : (({} : Request).resolveWith listingOpener listingHost fun _ => none).result =
      .ok listingSettings := by decide +kernel
  have hkept : ¬ ({} : Request).Yields listingHost.config.parameters (fun _ => none)
      Field.contexts := by decide +kernel
  have hplace : ({} : Request).Undisplaced listingHost.config.parameters (fun _ => none)
      listingOpener Field.contexts := ⟨fun _ => List.not_mem_nil,rfl,rfl,fun _ _ => hkept⟩
  have hlist := contextList_survives.2.1 {} listingOpener listingHost (fun _ => none)
    listingSettings listedScalars hresult rfl hplace
  refine ⟨hresult,hlist.trans ?_⟩
  decide +kernel

end Request

end LayeredSettings
