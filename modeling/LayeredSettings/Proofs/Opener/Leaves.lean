import LayeredSettings.Proofs.Opener

/-! The order of the search in a tree of openers. However composites are nested, asking the tree is
asking its leaves from left to right, up to the first that has an answer, and loading makes of this
one answer what it would make of it without the tree. -/
namespace LayeredSettings

open Properties (Source)

namespace Answer

/-- An answer, or what comes later if it is that nothing is here. -/
def orLater (answer later : Answer) : Answer :=
  match answer with
  | .ok none => later
  | answer => answer

@[simp] theorem orLater_nothing (later : Answer) : orLater (.ok none) later = later := rfl

theorem orLater_of_ne {answer : Answer} (h : answer ≠ .ok none) (later : Answer) :
    orLater answer later = answer := by
  rcases answer with e | _ | stream
  · rfl
  · exact absurd rfl h
  · rfl

theorem orLater_assoc (first second third : Answer) :
    orLater (orLater first second) third = orLater first (orLater second third) := by
  by_cases h : first = .ok none
  · rw [h, orLater_nothing, orLater_nothing]
  · rw [orLater_of_ne h, orLater_of_ne h, orLater_of_ne h]

/-- An answer that no source can be read from, with the cause: it could not be opened, or not read
to its end, or what was read does not parse. -/
inductive Spoiled : Answer → PropertiesError → Prop
  | unopened (e : IoError) : Spoiled (.error e) (.io e)
  | unread (e : IoError) : Spoiled (.ok (some (.error e))) (.io e)
  | malformed {bytes : ByteArray} {cause : PropertiesError}
      (h : Source.parse (Text.decode bytes) = .error cause) :
      Spoiled (.ok (some (.ok bytes))) cause

/-- An answer that a source is read from. -/
inductive Spells : Answer → Source → Prop
  | read {bytes : ByteArray} {source : Source}
      (h : Source.parse (Text.decode bytes) = .ok source) : Spells (.ok (some (.ok bytes))) source

end Answer

namespace Opener

mutual

/-- What the leaves of a tree answer, from left to right. -/
def leaves : Opener → List (String → Answer)
  | leaf _ answer => [answer]
  | composite parts => leavesOf parts

def leavesOf : List Opener → List (String → Answer)
  | [] => []
  | part :: rest => part.leaves ++ leavesOf rest

end

/-- The first leaf that answers for a path; those before it have nothing there. -/
def FirstToAnswer (path : String) (leaves : List (String → Answer)) (leaf : String → Answer) :
    Prop :=
  ∃ before after, leaves = before ++ leaf :: after ∧ (∀ earlier ∈ before, earlier path = .ok none) ∧
    leaf path ≠ .ok none

/-- The answer of leaves that are asked one after the other. -/
def answerOf (path : String) : List (String → Answer) → Answer
  | [] => .ok none
  | first :: rest => (first path).orLater (answerOf path rest)

variable {path : String} {opener other : Opener} {leaf : String → Answer}
  {before after more leaves : List (String → Answer)}

theorem answerOf_append (path : String) (leaves more : List (String → Answer)) :
    answerOf path (leaves ++ more) = (answerOf path leaves).orLater (answerOf path more) := by
  induction leaves with
  | nil => rfl
  | cons leaf rest ih => rw [List.cons_append, answerOf, answerOf, ih, Answer.orLater_assoc]

theorem answerOf_of_silent (h : ∀ leaf ∈ leaves, leaf path = .ok none) :
    answerOf path leaves = .ok none := by
  induction leaves with
  | nil => rfl
  | cons leaf rest ih =>
    rw [List.forall_mem_cons] at h
    rw [answerOf, h.1, Answer.orLater_nothing, ih h.2]

lemma answerOf_cut (h : leaf path ≠ .ok none) :
    answerOf path (before ++ leaf :: after) = (answerOf path before).orLater (leaf path) := by
  rw [answerOf_append, answerOf, Answer.orLater_of_ne h]

lemma FirstToAnswer.answers (h : FirstToAnswer path leaves leaf) : leaf path ≠ .ok none := by
  obtain ⟨before,after,-,-,hanswers⟩ := h
  exact hanswers

theorem FirstToAnswer.answerOf_eq (h : FirstToAnswer path leaves leaf) :
    answerOf path leaves = leaf path := by
  obtain ⟨before,after,rfl,hsilent,hanswers⟩ := h
  rw [answerOf_cut hanswers, answerOf_of_silent hsilent, Answer.orLater_nothing]

/-- All leaves have nothing, or there is a first one that answers. -/
theorem silent_or_exists_first (path : String) (leaves : List (String → Answer)) :
    (∀ leaf ∈ leaves, leaf path = .ok none) ∨ ∃ leaf, FirstToAnswer path leaves leaf := by
  induction leaves with
  | nil => exact .inl (by simp)
  | cons leaf rest ih =>
    by_cases hleaf : leaf path = .ok none
    · rcases ih with hsilent | ⟨first,before,after,rfl,hsilent,hanswers⟩
      · exact .inl (List.forall_mem_cons.2 ⟨hleaf,hsilent⟩)
      · exact .inr ⟨first,leaf :: before,after,rfl,List.forall_mem_cons.2 ⟨hleaf,hsilent⟩,hanswers⟩
    · exact .inr ⟨leaf,[],rest,rfl,by simp,hleaf⟩

mutual

/-- Asking a tree is asking its leaves. -/
theorem ask_result (path : String) :
    (opener : Opener) → (opener.ask path).result = answerOf path opener.leaves
  | .leaf label answer => by
    rw [ask, leaves, answerOf, answerOf]
    rcases answer path with e | _ | stream <;> rfl
  | .composite parts => by rw [ask, leaves, askParts_result path parts]

theorem askParts_result (path : String) :
    (parts : List Opener) → (askParts path parts).result = answerOf path (leavesOf parts)
  | [] => rfl
  | part :: rest => by
    rw [leavesOf, answerOf_append, ← ask_result path part, ← askParts_result path rest, askParts]
    rcases ask path part with ⟨events,e | _ | stream⟩ <;> rfl

end

/-- What holds of the answer of a tree, but not of nothing, holds of the first leaf's that answers. -/
lemma ask_result_iff {P : Answer → Prop} (hP : ¬ P (.ok none)) :
    P (opener.ask path).result ↔ ∃ leaf, FirstToAnswer path opener.leaves leaf ∧ P (leaf path) := by
  rw [ask_result]
  constructor
  · intro h
    rcases silent_or_exists_first path opener.leaves with hsilent | ⟨leaf,hfirst⟩
    · rw [answerOf_of_silent hsilent] at h
      exact absurd h hP
    · exact ⟨leaf,hfirst,hfirst.answerOf_eq ▸ h⟩
  · rintro ⟨leaf,hfirst,h⟩
    rw [hfirst.answerOf_eq]
    exact h

lemma ask_result_eq_nothing_iff :
    (opener.ask path).result = .ok none ↔ ∀ leaf ∈ opener.leaves, leaf path = .ok none := by
  rw [ask_result]
  refine ⟨fun h => ?_,answerOf_of_silent⟩
  rcases silent_or_exists_first path opener.leaves with hsilent | ⟨leaf,hfirst⟩
  · exact hsilent
  · exact absurd (hfirst.answerOf_eq.symm.trans h) hfirst.answers

lemma load_eq_missing_iff : (opener.load path).result = .error (.missingResource path) ↔
    (opener.ask path).result = .ok none := by
  rw [load_result_eq_error_iff]
  constructor
  · intro h
    cases h with
    | missing absent => exact absent
  · exact .missing

lemma load_eq_malformed_iff {cause : PropertiesError} :
    (opener.load path).result = .error (.malformedStream path cause) ↔
      Answer.Spoiled (opener.ask path).result cause := by
  constructor
  · intro h
    cases load_result_eq_error_iff.1 h with
    | unopened hask => exact hask ▸ .unopened _
    | unread hask => exact hask ▸ .unread _
    | malformed hask hparse => exact hask ▸ .malformed hparse
  · generalize hask : (opener.ask path).result = answer
    intro h
    cases h with
    | unopened e => exact Unloaded.load_eq (.unopened hask)
    | unread e => exact Unloaded.load_eq (.unread hask)
    | malformed h => simp only [load, hask, readProperties, Source.read, h]

lemma load_eq_ok_iff {source : Source} : (opener.load path).result = .ok source ↔
    Answer.Spells (opener.ask path).result source := by
  constructor
  · intro h
    rcases hask : (opener.ask path).result with e | _ | e | bytes
    · cases h.symm.trans (Unloaded.load_eq (.unopened hask))
    · cases h.symm.trans (Unloaded.load_eq (.missing hask))
    · cases h.symm.trans (Unloaded.load_eq (.unread hask))
    · refine .read ?_
      cases hparse : Source.parse (Text.decode bytes) with
      | error e => simp [load, hask, readProperties, Source.read, hparse] at h
      | ok source' => simpa [load, hask, readProperties, Source.read, hparse] using h
  · generalize hask : (opener.ask path).result = answer
    rintro ⟨h⟩
    simp only [load, hask, readProperties, Source.read, h]

/-- Nothing after a leaf that answers takes part. -/
theorem result_eq_of_leaves (h : opener.leaves = before ++ leaf :: after)
    (ho : other.leaves = before ++ leaf :: more) (hanswers : leaf path ≠ .ok none) :
    (opener.ask path).result = (other.ask path).result ∧
    (opener.load path).result = (other.load path).result := by
  have hask : (opener.ask path).result = (other.ask path).result := by
    rw [ask_result, ask_result, h, ho, answerOf_cut hanswers, answerOf_cut hanswers]
  refine ⟨hask,?_⟩
  simp only [load, hask]

/-- The search order of a tree of openers. The tree answers what the first leaf that answers does, or
has nothing if none does. Loading finds a resource to be missing exactly if all leaves have nothing
there; it finds a stream to be malformed exactly if the first answer is spoiled, and else reads the
source that this answer spells. Leaves after the first that answers take no part. -/
theorem search_first_leaf (opener : Opener) (path : String) :
    ((∀ leaf ∈ opener.leaves, leaf path = .ok none) ∧ (opener.ask path).result = .ok none ∨
      ∃ leaf, FirstToAnswer path opener.leaves leaf ∧ (opener.ask path).result = leaf path) ∧
    ((opener.load path).result = .error (.missingResource path) ↔
      ∀ leaf ∈ opener.leaves, leaf path = .ok none) ∧
    (∀ cause, (opener.load path).result = .error (.malformedStream path cause) ↔
      ∃ leaf, FirstToAnswer path opener.leaves leaf ∧ Answer.Spoiled (leaf path) cause) ∧
    (∀ source, (opener.load path).result = .ok source ↔
      ∃ leaf, FirstToAnswer path opener.leaves leaf ∧ Answer.Spells (leaf path) source) ∧
    (∀ e, (opener.load path).result = .error e →
      e = .missingResource path ∨ ∃ cause, e = .malformedStream path cause) ∧
    ∀ (other : Opener) before leaf after more, opener.leaves = before ++ leaf :: after →
      other.leaves = before ++ leaf :: more → leaf path ≠ .ok none →
      (opener.ask path).result = (other.ask path).result ∧
      (opener.load path).result = (other.load path).result := by
  refine ⟨?_,?_,fun cause => ?_,fun source => ?_,fun e he => ?_,?_⟩
  · rw [ask_result]
    rcases silent_or_exists_first path opener.leaves with hsilent | ⟨leaf,hfirst⟩
    · exact .inl ⟨hsilent,answerOf_of_silent hsilent⟩
    · exact .inr ⟨leaf,hfirst,hfirst.answerOf_eq⟩
  · rw [load_eq_missing_iff, ask_result_eq_nothing_iff]
  · rw [load_eq_malformed_iff]
    exact ask_result_iff (P := (Answer.Spoiled · cause)) nofun
  · rw [load_eq_ok_iff]
    exact ask_result_iff (P := (Answer.Spells · source)) nofun
  · cases load_result_eq_error_iff.1 he with
    | missing => exact .inl rfl
    | unopened => exact .inr ⟨_,rfl⟩
    | unread => exact .inr ⟨_,rfl⟩
    | malformed => exact .inr ⟨_,rfl⟩
  · exact fun other before leaf after more => result_eq_of_leaves

/-- A place with nothing in it, one with the same file under every path, and one that is closed. -/
def emptyPlace : String → Answer := fun _ => .ok none

def urlFile : String → Answer := fun _ => .ok (some (.ok "url=x".toUTF8))

def closedPlace : String → Answer := fun _ => .error (.other "closed")

/-- A file behind an empty composite and an empty place, and another place after it. -/
def nestedOpener (last : String → Answer) : Opener :=
  .composite [.composite [],.composite [.leaf "empty" emptyPlace,.composite [.leaf "file" urlFile]],
    .leaf "last" last]

/-- The file is found, and that the place after it is closed does no harm. -/
theorem search_first_leaf_nestedOpener :
    FirstToAnswer "db.properties" (nestedOpener closedPlace).leaves urlFile ∧
    ((nestedOpener closedPlace).load "db.properties").result = .ok (.ofList [("url","x")]) ∧
    ((nestedOpener closedPlace).ask "db.properties").result =
      ((nestedOpener emptyPlace).ask "db.properties").result ∧
    ((nestedOpener closedPlace).load "db.properties").result =
      ((nestedOpener emptyPlace).load "db.properties").result := by
  have hfirst : FirstToAnswer "db.properties" (nestedOpener closedPlace).leaves urlFile :=
    ⟨[emptyPlace],[closedPlace],rfl,by simp [emptyPlace],by simp [urlFile]⟩
  have hparse : Source.parse (Text.decode "url=x".toUTF8) = .ok (.ofList [("url","x")]) := by
    decide +kernel
  obtain ⟨-,-,-,hok,-,hlater⟩ := search_first_leaf (nestedOpener closedPlace) "db.properties"
  refine ⟨hfirst,(hok _).2 ⟨urlFile,hfirst,.read hparse⟩,?_⟩
  exact hlater (nestedOpener emptyPlace) [emptyPlace] urlFile [closedPlace] [emptyPlace] rfl rfl
    (by simp [urlFile])

end Opener

end LayeredSettings
