import LayeredSettings.Proofs.FileTree
import LayeredSettings.Proofs.Opener.Leaves

/-! Searching directories for a file. What a directory lacks is looked for in the next one only if
the directory says that it is missing: a directory of that name, or a file on the way, ends the
search. -/
namespace LayeredSettings

open Properties (Source)

namespace Opener

/-- The directories of a disk, one after the other. -/
def search (disk : Disk) (bases : List String) : Opener := .composite (bases.map (directory disk))

/-- What a directory of a disk answers. -/
def answerIn (disk : Disk) (base path : String) : Answer := ((directory disk base).ask path).result

variable {disk : Disk} {base path : String} {before after : List String} {bytes : ByteArray}

lemma leaves_search (disk : Disk) (bases : List String) :
    (search disk bases).leaves = bases.map (answerIn disk) := by
  rw [search, leaves]
  induction bases with
  | nil => rfl
  | cons base rest ih =>
    rw [List.map_cons, List.map_cons, leavesOf, ih]
    rfl

lemma answerIn_of_notFound (h : disk (joinPath base path) = .error .notFound) :
    answerIn disk base path = .ok none := by
  simp only [answerIn, directory, ask, h]

lemma answerIn_of_file (h : disk (joinPath base path) = .ok (.file bytes)) :
    answerIn disk base path = .ok (some (.ok bytes)) := by
  simp only [answerIn, directory, ask, h]

lemma exists_spoiled_of_inTheWay (h : InTheWay (disk (joinPath base path))) :
    ∃ e, Answer.Spoiled (answerIn disk base path) (.io e) := by
  simp only [answerIn, directory, ask]
  generalize disk (joinPath base path) = found at h
  cases h with
  | directory => exact ⟨_,.unread .isDirectory⟩
  | @error e h =>
    refine ⟨e,?_⟩
    cases e <;> first | exact absurd rfl h | exact .unopened _

lemma readProperties_ne_io (bytes : ByteArray) (path : String) (e : IoError) :
    readProperties (some (.ok bytes)) path ≠ .error (.malformedStream path (.io e)) := by
  intro h
  have hread : Source.read (.ok bytes) = Source.parse (Text.decode bytes) := rfl
  simp only [readProperties, hread] at h
  cases hparse : Source.parse (Text.decode bytes) with
  | ok source => simp [hparse] at h
  | error cause =>
    obtain ⟨line,-,-,rfl⟩ := (Properties.parsedBy_takenUnit _).refused cause hparse
    simp [hparse] at h

section
variable (hmissing : ∀ earlier ∈ before, disk (joinPath earlier path) = .error .notFound)
  (after : List String)
include hmissing

/-- Directories in which the file is missing are passed over. -/
lemma ask_search (hanswers : answerIn disk base path ≠ .ok none) :
    ((search disk (before ++ base :: after)).ask path).result = answerIn disk base path := by
  have hfirst : FirstToAnswer path (search disk (before ++ base :: after)).leaves
      (answerIn disk base) := by
    refine ⟨before.map (answerIn disk),after.map (answerIn disk),?_,?_,hanswers⟩
    · rw [leaves_search, List.map_append, List.map_cons]
    · intro leaf hleaf
      obtain ⟨earlier,hearlier,rfl⟩ := List.mem_map.1 hleaf
      exact answerIn_of_notFound (hmissing earlier hearlier)
  rw [ask_result, hfirst.answerOf_eq]

lemma load_search_of_file (h : disk (joinPath base path) = .ok (.file bytes)) :
    ((search disk (before ++ base :: after)).load path).result =
      readProperties (some (.ok bytes)) path := by
  have hanswer := answerIn_of_file h
  have hanswers : answerIn disk base path ≠ .ok none := by simp [hanswer]
  simp only [load, ask_search hmissing after hanswers, hanswer]

lemma load_search_of_inTheWay (h : InTheWay (disk (joinPath base path))) :
    ∃ e, ((search disk (before ++ base :: after)).load path).result =
      .error (.malformedStream path (.io e)) := by
  obtain ⟨e,hspoiled⟩ := exists_spoiled_of_inTheWay h
  have hanswers : answerIn disk base path ≠ .ok none := by
    intro hnothing
    rw [hnothing] at hspoiled
    cases hspoiled
  refine ⟨e,load_eq_malformed_iff.2 ?_⟩
  rwa [ask_search hmissing after hanswers]

end

/-- The file is missing everywhere, or there is a first base with something in the way. -/
lemma missing_or_first_inTheWay
    (h : ∀ base ∈ before, InTheWay (disk (joinPath base path)) ∨
      disk (joinPath base path) = .error .notFound) :
    (∀ base ∈ before, disk (joinPath base path) = .error .notFound) ∨
      ∃ front base rest, before = front ++ base :: rest ∧
        (∀ earlier ∈ front, disk (joinPath earlier path) = .error .notFound) ∧
        InTheWay (disk (joinPath base path)) := by
  induction before with
  | nil => exact .inl (by simp)
  | cons base rest ih =>
    obtain ⟨hbase,hrest⟩ := List.forall_mem_cons.1 h
    rcases hbase with hway | hmissing
    · exact .inr ⟨[],base,rest,rfl,by simp,hway⟩
    · rcases ih hrest with hall | ⟨front,first,others,rfl,hfront,hway⟩
      · exact .inl (List.forall_mem_cons.2 ⟨hmissing,hall⟩)
      · exact .inr ⟨base :: front,first,others,rfl,List.forall_mem_cons.2 ⟨hmissing,hfront⟩,hway⟩

/-- Where no base before has the file, it is read from the base that has it, or something is in the
way and loading fails with that. -/
theorem load_search_cases (after : List String)
    (hbefore : ∀ earlier ∈ before, InTheWay (disk (joinPath earlier path)) ∨
      disk (joinPath earlier path) = .error .notFound)
    (hbase : InTheWay (disk (joinPath base path)) ∨
      disk (joinPath base path) = .ok (.file bytes)) :
    (∀ asked ∈ before ++ [base], ¬ InTheWay (disk (joinPath asked path))) ∧
      ((search disk (before ++ base :: after)).load path).result =
        readProperties (some (.ok bytes)) path ∨
    (∃ asked ∈ before ++ [base], InTheWay (disk (joinPath asked path))) ∧
      ∃ e, ((search disk (before ++ base :: after)).load path).result =
        .error (.malformedStream path (.io e)) := by
  rcases missing_or_first_inTheWay hbefore with hmissing | ⟨front,asked,rest,rfl,hfront,hway⟩
  · rcases hbase with hway | hfile
    · exact .inr ⟨⟨base,by simp,hway⟩,load_search_of_inTheWay hmissing after hway⟩
    · refine .inl ⟨fun asked hasked hway => ?_,load_search_of_file hmissing after hfile⟩
      rcases List.mem_append.1 hasked with hasked | hasked
      · rw [hmissing asked hasked] at hway
        cases hway with
        | error h => exact h rfl
      · rw [List.mem_singleton.1 hasked, hfile] at hway
        cases hway
  · refine .inr ⟨⟨asked,by simp,hway⟩,?_⟩
    rw [List.append_assoc, List.cons_append]
    exact load_search_of_inTheWay hfront (rest ++ base :: after) hway

open FileTree (Holds Hides find)

/-- The first base that holds a file at a path of ordinary names is the one it is read from exactly
if neither it nor any base before hides the path, and loading fails with an input error exactly if
one does. -/
theorem search_reads_first_iff {root : FileTree} {working names : List String}
    (hne : names ≠ []) (hnames : ∀ name ∈ names, OrdinaryName name)
    (hholds : Holds root working base names bytes)
    (hfirst : ∀ earlier ∈ before, ∀ other, ¬ Holds root working earlier names other)
    (after : List String) :
    (((search (find root working) (before ++ base :: after)).load (pathOf names)).result =
        readProperties (some (.ok bytes)) (pathOf names) ↔
      ∀ asked ∈ before ++ [base], ¬ Hides root working asked names) ∧
    ((∃ e, ((search (find root working) (before ++ base :: after)).load (pathOf names)).result =
        .error (.malformedStream (pathOf names) (.io e))) ↔
      ∃ asked ∈ before ++ [base], Hides root working asked names) := by
  have hway (asked : String) : InTheWay (find root working (joinPath asked (pathOf names))) ↔
      Hides root working asked names := FileTree.inTheWay_find_iff hne hnames
  have hbefore : ∀ earlier ∈ before,
      InTheWay (find root working (joinPath earlier (pathOf names))) ∨
        find root working (joinPath earlier (pathOf names)) = .error .notFound := by
    intro earlier hearlier
    by_cases hhides : Hides root working earlier names
    · exact .inl ((hway _).2 hhides)
    · exact .inr (FileTree.find_eq_notFound hne hnames (hfirst earlier hearlier) hhides)
  have hbase : InTheWay (find root working (joinPath base (pathOf names))) ∨
      find root working (joinPath base (pathOf names)) = .ok (.file bytes) := by
    by_cases hhides : Hides root working base names
    · exact .inl ((hway _).2 hhides)
    · exact .inr (hholds.find_eq hne hnames hhides)
  have hcases := load_search_cases after hbefore hbase
  simp only [hway] at hcases
  rcases hcases with ⟨hfree,hload⟩ | ⟨⟨asked,hasked,hhides⟩,e,hload⟩
  · refine ⟨iff_of_true hload hfree,iff_of_false ?_ ?_⟩
    · rintro ⟨e,he⟩
      exact readProperties_ne_io bytes (pathOf names) e (hload.symm.trans he)
    · rintro ⟨asked,hasked,hhides⟩
      exact hfree asked hasked hhides
  · refine ⟨iff_of_false (fun hread => ?_) fun hfree => hfree asked hasked hhides,
      iff_of_true ⟨e,hload⟩ ⟨asked,hasked,hhides⟩⟩
    exact readProperties_ne_io bytes (pathOf names) e (hread.symm.trans hload)

/-- For a list of bases the file is read from the first that holds one, whatever else there is. -/
def ReadsFirst (root : FileTree) (working bases names : List String) : Prop :=
  ∀ before base after bytes, bases = before ++ base :: after →
    Holds root working base names bytes →
    (∀ earlier ∈ before, ∀ other, ¬ Holds root working earlier names other) →
    ((search (find root working) bases).load (pathOf names)).result =
      readProperties (some (.ok bytes)) (pathOf names)

def sampleFile : ByteArray := "url=second\n".toUTF8

def sampleNames : List String := ["conf","db.properties"]

/-- A working directory with two bases: "b" holds the file, "a" has something in the file's place. -/
def sampleTree (conf : FileTree) : FileTree :=
  .directory [("work",.directory [("a",.directory [("conf",conf)]),
    ("b",.directory [("conf",.directory [("db.properties",.file sampleFile)])])])]

lemma ordinary_sampleNames : ∀ name ∈ sampleNames, OrdinaryName name := by decide

lemma holds_sampleTree (conf : FileTree) :
    Holds (sampleTree conf) ["work"] "b" sampleNames sampleFile :=
  ⟨_,rfl,.within rfl (.within rfl (.here sampleFile))⟩

lemma not_holds_sampleTree {conf : FileTree}
    (h : ∀ bytes, ¬ FileTree.HasFile conf ["db.properties"] bytes) :
    ∀ earlier ∈ ["a"], ∀ other, ¬ Holds (sampleTree conf) ["work"] earlier sampleNames other := by
  rintro earlier hearlier other ⟨tree,htree,hfile⟩
  obtain rfl := List.mem_singleton.1 hearlier
  have hreached : FileTree.follow (sampleTree conf) ["work"] "a" =
      .ok (.directory [("conf",conf)]) := rfl
  obtain rfl := Except.ok.inj (hreached.symm.trans htree)
  cases hfile with
  | within hchild next =>
    obtain rfl := Option.some.inj hchild
    exact h other next

/-- A directory without the file hides nothing. -/
theorem search_reads_first_sampleTree :
    ((search (find (sampleTree .empty) ["work"]) ["a","b"]).load "conf/db.properties").result =
      .ok (.ofList [("url","second")]) ∧
    ∀ asked ∈ ["a","b"], ¬ Hides (sampleTree .empty) ["work"] asked sampleNames := by
  have hload : ((search (find (sampleTree .empty) ["work"]) ["a","b"]).load
      "conf/db.properties").result = .ok (.ofList [("url","second")]) := by decide +kernel
  have hread : readProperties (some (.ok sampleFile)) "conf/db.properties" =
      .ok (.ofList [("url","second")]) := by decide +kernel
  have habsent : ∀ bytes, ¬ FileTree.HasFile .empty ["db.properties"] bytes := by
    rintro bytes ⟨⟩
    contradiction
  have hiff := (search_reads_first_iff (by decide) ordinary_sampleNames (holds_sampleTree .empty)
    (not_holds_sampleTree habsent) []).1
  exact ⟨hload,hiff.1 (hload.trans hread.symm)⟩

/-- A file where a directory is needed hides the file of a later base, and so does a directory of
the file's name. -/
theorem not_readsFirst_sampleTree :
    ¬ ReadsFirst (sampleTree (.file "x".toUTF8)) ["work"] ["a","b"] sampleNames ∧
    ¬ ReadsFirst (sampleTree (.directory [("db.properties",.empty)])) ["work"] ["a","b"]
      sampleNames := by
  constructor
  · intro h
    have hread := h ["a"] "b" [] sampleFile rfl (holds_sampleTree _) (not_holds_sampleTree nofun)
    revert hread
    decide +kernel
  · intro h
    have habsent : ∀ bytes, ¬ FileTree.HasFile (.directory [("db.properties",.empty)])
        ["db.properties"] bytes := by
      rintro bytes (⟨⟩ | ⟨hchild,next⟩)
      obtain rfl := Option.some.inj hchild
      cases next
    have hread := h ["a"] "b" [] sampleFile rfl (holds_sampleTree _) (not_holds_sampleTree habsent)
    revert hread
    decide +kernel

end Opener

end LayeredSettings
