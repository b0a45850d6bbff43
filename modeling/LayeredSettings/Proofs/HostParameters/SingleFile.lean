import LayeredSettings.Proofs.HostParameters.Loading
import LayeredSettings.Proofs.Space
import LayeredSettings.Yaml

/-! A file that is loaded in place of the tiers, and the same file as the only one in the tiers that
says anything. Main statement: the parameters are the same, or loading fails either way. Both ways
come down to one function of the file's bytes. -/
namespace LayeredSettings.HostParameters

/-- The parameters that were loaded; nothing if loading failed. -/
def parameters? (loaded : Except LoadError HostParameters) : Option (Dictionary Json) :=
  loaded.toOption.map (·.config.parameters)

section
variable (reader : String → Option Json)

/-- The value that the bytes of a file stand for, if they are a text that the reader accepts. -/
def valueIn (content : ByteArray) : Option Json :=
  (String.fromUTF8? content).bind fun text =>
    if (Text.trimmed text).isEmpty then some .null else reader text

def parametersOf (value : Json) : Option (Dictionary Json) :=
  (HostConfig.ofJson value).toOption.map (·.parameters)

variable (disk : Disk)

/-- A tier that says nothing: it has no directory, no file in its directory, a file of white space
only, or one that is read as null. -/
inductive SaysNothing : Option String → Prop
  | unset : SaysNothing none
  | missing {directory : String}
      (h : disk.holds (joinPath directory Directories.fileName) = false) :
      SaysNothing (some directory)
  | blank {directory text : String}
      (hfile : disk (joinPath directory Directories.fileName) = .ok (.file text.toUTF8))
      (h : ∀ c ∈ text.toList, Text.isSpace c) : SaysNothing (some directory)
  | null {directory text : String}
      (hfile : disk (joinPath directory Directories.fileName) = .ok (.file text.toUTF8))
      (h : reader text = some .null) : SaysNothing (some directory)

/-- The file of one tier has the bytes, and the other tier says nothing. -/
inductive OnlyFile (content : ByteArray) : Directories → Prop
  | project {directory : String} {user : Option String}
      (hfile : disk (joinPath directory Directories.fileName) = .ok (.file content))
      (h : SaysNothing reader disk user) : OnlyFile content ⟨some directory,user⟩
  | user {directory : String} {project : Option String}
      (hfile : disk (joinPath directory Directories.fileName) = .ok (.file content))
      (h : SaysNothing reader disk project) : OnlyFile content ⟨project,some directory⟩

end

variable {reader : String → Option Json} {disk : Disk} {path : String} {content : ByteArray}

/-- Where a file stands matters for the error only. -/
lemma toOption_readValue (h : disk path = .ok (.file content)) :
    (readValue reader disk path).toOption = valueIn reader content := by
  have hread : disk.read path = .ok content := by
    unfold Disk.read
    rw [h]
  simp only [readValue, hread, valueIn]
  cases String.fromUTF8? content with
  | none => rfl
  | some text =>
    simp only [Option.bind_some]
    split_ifs with hblank
    · rfl
    · cases reader text <;> rfl

lemma readValue_eq_ok_iff (h : disk path = .ok (.file content)) {value : Json} :
    readValue reader disk path = .ok value ↔ valueIn reader content = some value := by
  rw [← toOption_readValue h]
  cases readValue reader disk path <;> simp [Except.toOption]

lemma holds_of_file (h : disk path = .ok (.file content)) : disk.holds path = true := by
  unfold Disk.holds
  rw [h]

lemma valueIn_of_blank {text : String} (h : ∀ c ∈ text.toList, Text.isSpace c) :
    valueIn reader text.toUTF8 = some .null := by
  have hblank : (Text.trimmed text).isEmpty = true := by
    rw [Text.trimmed_eq_empty_iff.2 h]
    rfl
  rw [valueIn, fromUTF8?_toUTF8, Option.bind_some, if_pos hblank]

lemma valueIn_of_null {text : String} (h : reader text = some .null) :
    valueIn reader text.toUTF8 = some .null := by
  rw [valueIn, fromUTF8?_toUTF8, Option.bind_some, h, ite_self]

lemma SaysNothing.tierHolds {directory : Option String} (h : SaysNothing reader disk directory) :
    ∃ document, TierHolds reader disk directory document ∧ document.getD .null = .null := by
  cases h with
  | unset => exact ⟨none,.unset,rfl⟩
  | missing h => exact ⟨none,.missing h,rfl⟩
  | blank hfile h =>
    exact ⟨some .null,.read ((readValue_eq_ok_iff hfile).2 (valueIn_of_blank h)),rfl⟩
  | null hfile h =>
    exact ⟨some .null,.read ((readValue_eq_ok_iff hfile).2 (valueIn_of_null h)),rfl⟩

/-- Next to no document or null, a document is merged into itself. -/
lemma merged_of_getD_eq_null {other : Option Json} (h : other.getD .null = .null) (value : Json) :
    Documents.merged ⟨some value,other⟩ = value ∧ Documents.merged ⟨other,some value⟩ = value := by
  rw [Documents.merged_eq, Documents.merged_eq]
  cases other with
  | none => exact ⟨rfl,rfl⟩
  | some document =>
    obtain rfl : document = .null := h
    exact ⟨Json.merge_null_right value,Json.merge_null_left value⟩

lemma exists_readValue_of_mem {sources : List (Tier × String)} {values : List Json}
    (h : (readValues reader disk sources).result = .ok values) :
    ∀ source ∈ sources, ∃ value, readValue reader disk source.2 = .ok value := by
  induction sources generalizing values with
  | nil => exact List.forall_mem_nil _
  | cons source rest ih =>
    obtain ⟨value,hvalue,hnext⟩ := Logged.andThen_result_eq_ok_iff.1 h
    obtain ⟨others,hothers,-⟩ := Logged.andThen_result_eq_ok_iff.1 hnext
    exact List.forall_mem_cons.2 ⟨⟨value,hvalue⟩,ih hothers⟩

lemma parameters?_interpret (path : Option String) (value : Json) (directories : Directories)
    (sources : List (Tier × String)) :
    parameters? ((interpret path value).map fun config => { directories, config, sources }) =
      parametersOf value := by
  unfold interpret parametersOf
  cases HostConfig.ofJson value <;> rfl

theorem parameters?_loadFile (h : disk path = .ok (.file content)) :
    parameters? (loadFile reader disk path) = (valueIn reader content).bind parametersOf := by
  rw [← toOption_readValue h]
  unfold loadFile
  cases readValue reader disk path with
  | error e => rfl
  | ok value => exact parameters?_interpret _ value _ _

lemma parameters?_loadTiers_of_holds {directories : Directories} {documents : Documents}
    (h : Holds reader disk directories documents) :
    parameters? (loadTiers reader disk directories).result = parametersOf documents.merged := by
  obtain ⟨sources,hload⟩ := loadTiers_of_holds h
  rw [hload, parameters?_interpret]

/-- A file of a tier that cannot be read fails the tiers. -/
lemma parameters?_loadTiers_of_unread {directories : Directories} {source : Tier × String}
    (hsource : source ∈ directories.files) (hfile : disk source.2 = .ok (.file content))
    (hvalue : valueIn reader content = none) :
    parameters? (loadTiers reader disk directories).result = none := by
  cases hload : (loadTiers reader disk directories).result with
  | error e => rfl
  | ok loaded =>
    obtain ⟨values,hvalues,-⟩ := Logged.andThen_result_eq_ok_iff.1 hload
    have hmem : source ∈ directories.files.filter fun source => disk.holds source.2 :=
      List.mem_filter.2 ⟨hsource,holds_of_file hfile⟩
    obtain ⟨value,hread⟩ := exists_readValue_of_mem hvalues source hmem
    rw [readValue_eq_ok_iff hfile, hvalue] at hread
    cases hread

/-- The tiers are loaded as the bytes of the only file say. -/
theorem parameters?_loadTiers {directories : Directories}
    (h : OnlyFile reader disk content directories) :
    parameters? (loadTiers reader disk directories).result =
      (valueIn reader content).bind parametersOf := by
  cases hvalue : valueIn reader content with
  | none =>
    cases h with
    | project hfile h => exact parameters?_loadTiers_of_unread (.head _) hfile hvalue
    | user hfile h =>
      exact parameters?_loadTiers_of_unread (List.mem_append_right _ (.head _)) hfile hvalue
  | some value =>
    rw [Option.bind_some]
    cases h with
    | @project directory user hfile h =>
      obtain ⟨document,huser,hnull⟩ := h.tierHolds
      have hholds : Holds reader disk ⟨some directory,user⟩ ⟨some value,document⟩ :=
        ⟨.read ((readValue_eq_ok_iff hfile).2 hvalue),huser⟩
      rw [parameters?_loadTiers_of_holds hholds, (merged_of_getD_eq_null hnull value).1]
    | @user directory project hfile h =>
      obtain ⟨document,hproject,hnull⟩ := h.tierHolds
      have hholds : Holds reader disk ⟨project,some directory⟩ ⟨document,some value⟩ :=
        ⟨hproject,.read ((readValue_eq_ok_iff hfile).2 hvalue)⟩
      rw [parameters?_loadTiers_of_holds hholds, (merged_of_getD_eq_null hnull value).2]

/-- A file loaded in place of the tiers, and the same file as the only one in the tiers that says
anything: the same parameters are loaded, or loading fails either way. -/
theorem loadTiers_agrees_loadFile {elsewhere : Disk} {directories : Directories}
    (hpath : elsewhere path = .ok (.file content))
    (h : OnlyFile reader disk content directories) :
    parameters? (loadTiers reader disk directories).result =
      parameters? (loadFile reader elsewhere path) := by
  rw [parameters?_loadTiers h, parameters?_loadFile hpath]

/-- A disk with a file that says something in the project's directory, and one of white space in the
user's. -/
def sampleFiles : Disk := fun path =>
  if path = "p/config.yaml" then .ok (.file "parameters: {url: x}".toUTF8)
  else if path = "u/config.yaml" then .ok (.file " \n".toUTF8)
  else .error .notFound

/-- Next to a file of white space, the project's file gives the parameter that it gives alone. -/
theorem loadTiers_agrees_loadFile_sampleFiles :
    OnlyFile Yaml.read? sampleFiles "parameters: {url: x}".toUTF8 ⟨some "p",some "u"⟩ ∧
    (parameters? (loadFile Yaml.read? sampleFiles "p/config.yaml")).map (·.keys) =
      some ["url"] ∧
    parameters? (loadTiers Yaml.read? sampleFiles ⟨some "p",some "u"⟩).result =
      parameters? (loadFile Yaml.read? sampleFiles "p/config.yaml") := by
  have hpath : sampleFiles "p/config.yaml" = .ok (.file "parameters: {url: x}".toUTF8) := rfl
  have hblank : ∀ c ∈ " \n".toList, Text.isSpace c := List.all_eq_true.1 rfl
  have honly : OnlyFile Yaml.read? sampleFiles "parameters: {url: x}".toUTF8
      ⟨some "p",some "u"⟩ := .project hpath (.blank rfl hblank)
  exact ⟨honly,by decide +kernel,loadTiers_agrees_loadFile hpath honly⟩

end LayeredSettings.HostParameters
