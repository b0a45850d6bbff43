import Mathlib.Data.List.Forall2
import LayeredSettings.HostParameters
import LayeredSettings.Proofs.Json.Merge
import LayeredSettings.Proofs.Outcome

/-! Loading both tiers: the documents that are there are read, and the user's is laid over the
project's. -/
namespace LayeredSettings

/-- The documents of the tiers, as far as they are there. -/
structure Documents where
  project : Option Json := none
  user : Option Json := none

namespace Documents

/-- The user's document over the project's, and null if neither is there. -/
def merged (d : Documents) : Json := Json.mergeAll (d.project.toList ++ d.user.toList)

lemma merged_eq (d : Documents) :
    d.merged = (Option.merge Json.merge d.project d.user).getD .null :=
  Json.mergeAll_toList d.project d.user

end Documents

namespace HostParameters

section
variable (reader : String → Option Json) (disk : Disk)

/-- The document that a tier's directory holds; there is none without a directory, or without a file
in it. -/
inductive TierHolds : Option String → Option Json → Prop
  | unset : TierHolds none none
  | missing {directory : String}
      (h : disk.holds (joinPath directory Directories.fileName) = false) :
      TierHolds (some directory) none
  | read {directory : String} {value : Json}
      (h : readValue reader disk (joinPath directory Directories.fileName) = .ok value) :
      TierHolds (some directory) (some value)

/-- The documents that the directories of the tiers hold. -/
structure Holds (directories : Directories) (documents : Documents) : Prop where
  project : TierHolds reader disk directories.project documents.project
  user : TierHolds reader disk directories.user documents.user

end

variable {reader : String → Option Json} {disk : Disk}

lemma holds_of_readValue {path : String} {value : Json}
    (h : readValue reader disk path = .ok value) : disk.holds path = true := by
  unfold readValue Disk.read at h
  unfold Disk.holds
  cases hd : disk path with
  | ok node => rfl
  | error e => simp [hd] at h

lemma fromUTF8?_toUTF8 (text : String) : String.fromUTF8? text.toUTF8 = some text := by
  unfold String.fromUTF8?
  exact dif_pos text.isValidUTF8

lemma readValue_of_text {path text : String} {value : Json}
    (hfile : disk path = .ok (.file text.toUTF8)) (hblank : (Text.trimmed text).isEmpty = false)
    (h : reader text = some value) : readValue reader disk path = .ok value := by
  have hbytes : disk.read path = .ok text.toUTF8 := by
    unfold Disk.read
    rw [hfile]
  simp only [readValue, hbytes, fromUTF8?_toUTF8, hblank, h, Bool.false_eq_true, if_false]

/-- The files that loading finds hold the documents. -/
lemma TierHolds.forall₂ {directory : Option String} {document : Option Json}
    (h : TierHolds reader disk directory document) (tier : Tier) :
    List.Forall₂ (fun source value => readValue reader disk source.2 = .ok value)
      ((directory.map fun dir => (tier,joinPath dir Directories.fileName)).toList.filter
        fun source => disk.holds source.2) document.toList := by
  cases h with
  | unset => exact .nil
  | missing h =>
    rw [Option.map_some, Option.toList_some, List.filter_cons_of_neg (by simp [h])]
    exact .nil
  | read h =>
    rw [Option.map_some, Option.toList_some, List.filter_cons_of_pos (by exact holds_of_readValue h)]
    exact .cons h .nil

lemma readValues_of_forall₂ {sources : List (Tier × String)} {values : List Json}
    (h : List.Forall₂ (fun source value => readValue reader disk source.2 = .ok value)
      sources values) : (readValues reader disk sources).result = .ok values := by
  induction h with
  | nil => rfl
  | @cons source value sources values hread _ ih =>
    obtain ⟨tier,path⟩ := source
    rw [readValues, Logged.after_result]
    refine Logged.andThen_result_eq_ok_iff.2 ⟨value,hread,?_⟩
    exact Logged.andThen_result_eq_ok_iff.2 ⟨values,ih,rfl⟩

/-- Loading the tiers interprets their merged documents. -/
theorem loadTiers_of_holds {directories : Directories} {documents : Documents}
    (h : Holds reader disk directories documents) : ∃ sources,
      (loadTiers reader disk directories).result =
        (interpret none documents.merged).map fun config => { directories, config, sources } := by
  have hread : (readValues reader disk (directories.files.filter fun source =>
      disk.holds source.2)).result = .ok (documents.project.toList ++ documents.user.toList) := by
    rw [Directories.files, List.filter_append]
    exact readValues_of_forall₂
      (List.rel_append (h.project.forall₂ .project) (h.user.forall₂ .user))
  refine ⟨directories.files.filter fun source => disk.holds source.2,?_⟩
  unfold loadTiers
  rw [Logged.andThen_of_ok hread, Logged.after_result]
  change (interpret none documents.merged >>= _) = _
  cases interpret none documents.merged with
  | error e => rfl
  | ok config => rfl

end HostParameters

end LayeredSettings
