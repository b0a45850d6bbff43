import LayeredSettings.FileTree
import LayeredSettings.Proofs.Parts

/-! What a path of ordinary names leads to. Below a directory such names lead to a file, to nothing,
or something is in the way. -/
namespace LayeredSettings

/-- A name that leads from a directory to one of its entries. -/
structure OrdinaryName (name : String) : Prop where
  nonempty : name ≠ ""
  not_here : name ≠ "."
  not_up : name ≠ ".."
  undivided : '/' ∉ name.toList
  clean : '\x00' ∉ name.toList

instance (name : String) : Decidable (OrdinaryName name) :=
  decidable_of_iff (name ≠ "" ∧ name ≠ "." ∧ name ≠ ".." ∧ '/' ∉ name.toList ∧
      '\x00' ∉ name.toList)
    ⟨fun ⟨h₁,h₂,h₃,h₄,h₅⟩ => ⟨h₁,h₂,h₃,h₄,h₅⟩,fun ⟨h₁,h₂,h₃,h₄,h₅⟩ => ⟨h₁,h₂,h₃,h₄,h₅⟩⟩

def pathOf (names : List String) : String := String.intercalate "/" names

/-- What is neither a file nor missing: a directory, or an error other than that nothing is there. -/
inductive InTheWay : Except IoError Node → Prop
  | directory : InTheWay (.ok .directory)
  | error {e : IoError} (h : e ≠ .notFound) : InTheWay (.error e)

namespace FileTree

/-- Names lead from a tree to a file. -/
inductive HasFile : FileTree → List String → ByteArray → Prop
  | here (bytes : ByteArray) : HasFile (file bytes) [] bytes
  | within {entries : List (String × FileTree)} {name : String} {child : FileTree}
      {rest : List String} {bytes : ByteArray} (h : entries.lookup name = some child)
      (next : HasFile child rest bytes) : HasFile (directory entries) (name :: rest) bytes

/-- Something is in the way of names: a directory at their end, a file before it, or a name that is
too long for any directory. -/
inductive Bars : FileTree → List String → Prop
  | atEnd (entries : List (String × FileTree)) : Bars (directory entries) []
  | file (bytes : ByteArray) (name : String) (rest : List String) : Bars (file bytes) (name :: rest)
  | overlong {name : String} (h : 255 < name.utf8ByteSize) (entries : List (String × FileTree))
      (rest : List String) : Bars (directory entries) (name :: rest)
  | within {entries : List (String × FileTree)} {name : String} {child : FileTree}
      {rest : List String} (h : entries.lookup name = some child) (next : Bars child rest) :
      Bars (directory entries) (name :: rest)

variable {above : List FileTree} {tree : FileTree} {name : String} {names rest more : List String}
  {entries : List (String × FileTree)} {bytes : ByteArray}

/-- An ordinary name leads to the entry of that name, unless it is too long. -/
lemma walk_directory (hname : OrdinaryName name) :
    walk above (directory entries) (name :: rest) =
      if 255 < name.utf8ByteSize then .error .nameTooLong
      else (entries.lookup name).elim (.error .notFound)
        fun child => walk (directory entries :: above) child rest := by
  simp only [walk, if_neg (not_or.2 ⟨hname.nonempty,hname.not_here⟩), if_neg hname.not_up]
  cases entries.lookup name <;> rfl

/-- Only ".." looks at the directories above. -/
theorem walk_above (h : ".." ∉ names) (above : List FileTree) (tree : FileTree) :
    walk above tree names = walk [] tree names := by
  induction names generalizing above tree with
  | nil => rfl
  | cons name rest ih =>
    cases tree with
    | file bytes => rfl
    | directory entries =>
      have hup : name ≠ ".." := fun he => h (he ▸ List.mem_cons_self)
      have hrest : ".." ∉ rest := fun hmem => h (List.mem_cons_of_mem _ hmem)
      simp only [walk, if_neg hup]
      simp only [ih hrest]

/-- To follow two paths in a row is to follow the one and then the other. -/
theorem walk_append (h : ".." ∉ more) :
    walk above tree (names ++ more) = walk above tree names >>= (walk [] · more) := by
  induction names generalizing above tree with
  | nil => exact walk_above h above tree
  | cons name rest ih =>
    cases tree with
    | file bytes => rfl
    | directory entries =>
      simp only [List.cons_append, walk]
      split_ifs
      · exact ih
      · cases above with
        | nil => exact ih
        | cons parent others => exact ih
      · rfl
      · cases entries.lookup name with
        | none => rfl
        | some child => exact ih

theorem HasFile.walk_eq (h : HasFile tree names bytes) (hnames : ∀ name ∈ names, OrdinaryName name)
    (hfree : ¬ Bars tree names) (above : List FileTree) :
    walk above tree names = .ok (file bytes) := by
  induction h generalizing above with
  | here bytes => rfl
  | within h next ih =>
    obtain ⟨hname,hrest⟩ := List.forall_mem_cons.1 hnames
    rw [walk_directory hname, if_neg fun hlong => hfree (.overlong hlong _ _), h]
    exact ih hrest (fun hbars => hfree (.within h hbars)) _

/-- Where there is no file and nothing in the way, a name is missing. -/
theorem walk_eq_notFound (habsent : ∀ bytes, ¬ HasFile tree names bytes)
    (hnames : ∀ name ∈ names, OrdinaryName name) (hfree : ¬ Bars tree names)
    (above : List FileTree) : walk above tree names = .error .notFound := by
  induction names generalizing above tree with
  | nil =>
    cases tree with
    | file bytes => exact absurd (.here bytes) (habsent bytes)
    | directory entries => exact absurd (.atEnd entries) hfree
  | cons name rest ih =>
    obtain ⟨hname,hrest⟩ := List.forall_mem_cons.1 hnames
    cases tree with
    | file bytes => exact absurd (.file bytes name rest) hfree
    | directory entries =>
      rw [walk_directory hname, if_neg fun hlong => hfree (.overlong hlong _ _)]
      cases hchild : entries.lookup name with
      | none => rfl
      | some child =>
        exact ih (fun bytes hfile => habsent bytes (.within hchild hfile)) hrest
          (fun hbars => hfree (.within hchild hbars)) _

theorem Bars.inTheWay (h : Bars tree names) (hnames : ∀ name ∈ names, OrdinaryName name)
    (above : List FileTree) : InTheWay ((walk above tree names).map kind) := by
  induction h generalizing above with
  | atEnd entries => exact .directory
  | file bytes name rest => exact .error nofun
  | overlong h entries rest =>
    rw [walk_directory (List.forall_mem_cons.1 hnames).1, if_pos h]
    exact .error nofun
  | within h next ih =>
    obtain ⟨hname,hrest⟩ := List.forall_mem_cons.1 hnames
    rw [walk_directory hname, h]
    split_ifs
    · exact .error nofun
    · exact ih hrest _

end FileTree

section
variable {names : List String} (hne : names ≠ []) (hnames : ∀ name ∈ names, OrdinaryName name)
include hne hnames

lemma parts_pathOf : Text.parts '/' (pathOf names) = names :=
  Text.parts_intercalate hne fun name hname => (hnames name hname).undivided

/-- A path of ordinary names does not start with a slash, for then its first name were empty. -/
lemma head?_pathOf : (pathOf names).toList.head? ≠ some '/' := by
  intro h
  obtain ⟨rest,hrest⟩ := List.head?_eq_some_iff.1 h
  have hcut : Text.CutAt '/' (pathOf names) "" (String.ofList rest) := by simp [Text.CutAt, hrest]
  have hparts := hcut.parts_eq
  rw [parts_pathOf hne hnames] at hparts
  have hempty : "" ∈ names := by
    rw [hparts]
    exact List.mem_append_left _ (List.mem_singleton_self "")
  exact (hnames "" hempty).nonempty rfl

lemma pathOf_ne_empty : pathOf names ≠ "" := by
  intro h
  have hparts := parts_pathOf hne hnames
  rw [h] at hparts
  have hempty : "" ∈ names := hparts ▸ List.mem_singleton_self ""
  exact (hnames "" hempty).nonempty rfl

lemma nul_not_mem_pathOf : '\x00' ∉ (pathOf names).toList := by
  intro h
  rcases Text.eq_or_exists_mem_parts '/' h with h | ⟨name,hname,hnul⟩
  · cases h
  · rw [parts_pathOf hne hnames] at hname
    exact (hnames name hname).clean hnul

end

/-- A relative path stays as it is below no base at all; else there is one slash in front of it. -/
lemma joinPath_cases (base : String) {path : String} (h : path.toList.head? ≠ some '/') :
    base = "" ∧ joinPath base path = path ∨
      ∃ front, (base = front ∧ front ≠ "" ∨ base = front ++ "/") ∧
        joinPath base path = front ++ "/" ++ path := by
  by_cases hbase : base = ""
  · exact .inl ⟨hbase,by simp [joinPath, hbase]⟩
  · have hjoin : joinPath base path =
        if base.toList.getLast? = some '/' then base ++ path else base ++ "/" ++ path := by
      simp [joinPath, h, hbase]
    refine .inr ?_
    by_cases hslash : base.toList.getLast? = some '/'
    · obtain ⟨front,hfront⟩ := List.getLast?_eq_some_iff.1 hslash
      have hcut : base = String.ofList front ++ "/" := by
        rw [← String.toList_inj, hfront]
        simp
      refine ⟨String.ofList front,.inr hcut,?_⟩
      rw [hjoin, if_pos hslash]
      exact congrArg (· ++ path) hcut
    · exact ⟨base,.inl ⟨rfl,hbase⟩,by rw [hjoin, if_neg hslash]⟩

section
variable (base : String) {path : String}

lemma nul_mem_joinPath_iff (h : path.toList.head? ≠ some '/') (hnul : '\x00' ∉ path.toList) :
    '\x00' ∈ (joinPath base path).toList ↔ '\x00' ∈ base.toList := by
  rcases joinPath_cases base h with ⟨rfl,hjoin⟩ | ⟨front,⟨rfl,-⟩ | rfl,hjoin⟩
  · simp [hjoin, hnul]
  · simp [hjoin, hnul]
  · simp [hjoin, hnul]

lemma head?_joinPath_iff (h : path.toList.head? ≠ some '/') :
    (joinPath base path).toList.head? = some '/' ↔ base.toList.head? = some '/' := by
  rcases joinPath_cases base h with ⟨rfl,hjoin⟩ | ⟨front,⟨rfl,hfront⟩ | rfl,hjoin⟩
  · simpa [hjoin] using h
  · obtain ⟨c,rest,hcons⟩ := List.exists_cons_of_ne_nil (String.toList_eq_nil_iff.not.2 hfront)
    simp [hjoin, hcons]
  · simp [hjoin]

lemma joinPath_ne_empty (h : path.toList.head? ≠ some '/') (hpath : path ≠ "") :
    joinPath base path ≠ "" := by
  rcases joinPath_cases base h with ⟨-,hjoin⟩ | ⟨front,-,hjoin⟩
  · rwa [hjoin]
  · simp [hjoin]

lemma parts_joinPath (h : path.toList.head? ≠ some '/') : ∃ front,
    (Text.parts '/' base = front ∨ Text.parts '/' base = front ++ [""]) ∧
    Text.parts '/' (joinPath base path) = front ++ Text.parts '/' path := by
  have hcut {front : String} (hjoin : joinPath base path = front ++ "/" ++ path) :
      Text.CutAt '/' (joinPath base path) front path := by simp [Text.CutAt, hjoin]
  rcases joinPath_cases base h with ⟨rfl,hjoin⟩ | ⟨front,⟨rfl,-⟩ | hbase,hjoin⟩
  · exact ⟨[],.inr rfl,by rw [hjoin, List.nil_append]⟩
  · exact ⟨_,.inl rfl,(hcut hjoin).parts_eq⟩
  · have hend : Text.CutAt '/' base front "" := by simp [Text.CutAt, hbase]
    exact ⟨Text.parts '/' front,.inr hend.parts_eq,(hcut hjoin).parts_eq⟩

end

namespace FileTree

variable {root tree : FileTree} {working names : List String} {base : String} {bytes : ByteArray}

/-- An empty name stays in a directory, and nothing is below a file with or without it. -/
lemma walk_empty_cons (hne : names ≠ []) : walk [] tree ("" :: names) = walk [] tree names := by
  obtain ⟨name,rest,rfl⟩ := List.exists_cons_of_ne_nil hne
  cases tree with
  | file bytes => rfl
  | directory entries => simp only [walk, true_or, if_true]

/-- A path of ordinary names below a base is followed from where the base leads. -/
theorem follow_joinPath (hne : names ≠ []) (hnames : ∀ name ∈ names, OrdinaryName name) :
    follow root working (joinPath base (pathOf names)) =
      follow root working base >>= (walk [] · names) := by
  have hhead := head?_pathOf hne hnames
  have hup : ".." ∉ names := fun h => (hnames _ h).not_up rfl
  have hempty : ".." ∉ "" :: names := by simpa using hup
  obtain ⟨front,hfront,hparts⟩ := parts_joinPath base hhead
  rw [parts_pathOf hne hnames] at hparts
  have hwalk (start : List String) : walk [] root (start ++ (front ++ names)) =
      walk [] root (start ++ Text.parts '/' base) >>= (walk [] · names) := by
    rcases hfront with hfront | hfront
    · rw [hfront, ← List.append_assoc, walk_append hup]
    · -- the base ends in a slash, and to follow its empty last name as well changes nothing
      calc walk [] root (start ++ (front ++ names))
          = walk [] root (start ++ front) >>= (walk [] · names) := by
            rw [← List.append_assoc, walk_append hup]
        _ = walk [] root (start ++ front) >>= (walk [] · ("" :: names)) := by
            simp only [walk_empty_cons hne]
        _ = walk [] root (start ++ front ++ "" :: names) := (walk_append hempty).symm
        _ = walk [] root (start ++ Text.parts '/' base) >>= (walk [] · names) := by
            rw [hfront, ← walk_append hup]
            simp only [List.append_assoc, List.singleton_append]
  unfold follow
  simp only [hparts, head?_joinPath_iff base hhead]
  split_ifs
  · exact hwalk []
  · exact hwalk working

/-- A file stands at a path of names below a base. -/
def Holds (root : FileTree) (working : List String) (base : String) (names : List String)
    (bytes : ByteArray) : Prop :=
  ∃ tree, follow root working base = .ok tree ∧ HasFile tree names bytes

/-- A base hides what later bases hold at a path of names. The path cannot be asked for, the base
is not reached although nothing is missing, or something below it is in the way. -/
inductive Hides (root : FileTree) (working : List String) (base : String) (names : List String) :
    Prop
  | nul (h : '\x00' ∈ base.toList)
  | overlong (h : longestPath < (joinPath base (pathOf names)).utf8ByteSize)
  | astray {e : IoError} (h : follow root working base = .error e) (he : e ≠ .notFound)
  | barred {tree : FileTree} (h : follow root working base = .ok tree) (hbars : Bars tree names)

section
variable (hne : names ≠ []) (hnames : ∀ name ∈ names, OrdinaryName name)
include hne hnames

/-- A path below a base leads where it is followed to, unless it cannot be asked for. -/
lemma find_joinPath : find root working (joinPath base (pathOf names)) =
    if '\x00' ∈ base.toList then .error .nulInPath
    else if longestPath < (joinPath base (pathOf names)).utf8ByteSize then .error .nameTooLong
    else (follow root working base >>= (walk [] · names)).map kind := by
  have hhead := head?_pathOf hne hnames
  have hempty : (joinPath base (pathOf names)).isEmpty = false := by
    simpa using joinPath_ne_empty base hhead (pathOf_ne_empty hne hnames)
  simp only [find, nul_mem_joinPath_iff base hhead (nul_not_mem_pathOf hne hnames), hempty,
    Bool.false_eq_true, if_false, gt_iff_lt, follow_joinPath hne hnames]

lemma find_joinPath_of_free (hfree : ¬ Hides root working base names) :
    find root working (joinPath base (pathOf names)) =
      (follow root working base >>= (walk [] · names)).map kind := by
  rw [find_joinPath hne hnames, if_neg fun hnul => hfree (.nul hnul),
    if_neg fun hlong => hfree (.overlong hlong)]

theorem Hides.inTheWay (h : Hides root working base names) :
    InTheWay (find root working (joinPath base (pathOf names))) := by
  rw [find_joinPath hne hnames]
  split_ifs with hnul hlong
  · exact .error nofun
  · exact .error nofun
  · cases h with
    | nul h => exact absurd h hnul
    | overlong h => exact absurd h hlong
    | astray h he =>
      rw [h]
      exact .error he
    | barred h hbars =>
      rw [h]
      exact hbars.inTheWay hnames []

theorem Holds.find_eq (h : Holds root working base names bytes)
    (hfree : ¬ Hides root working base names) :
    find root working (joinPath base (pathOf names)) = .ok (.file bytes) := by
  obtain ⟨tree,htree,hfile⟩ := h
  rw [find_joinPath_of_free hne hnames hfree, htree]
  exact congrArg (Except.map kind)
    (hfile.walk_eq hnames (fun hbars => hfree (.barred htree hbars)) [])

theorem find_eq_notFound (habsent : ∀ bytes, ¬ Holds root working base names bytes)
    (hfree : ¬ Hides root working base names) :
    find root working (joinPath base (pathOf names)) = .error .notFound := by
  rw [find_joinPath_of_free hne hnames hfree]
  cases htree : follow root working base with
  | error e =>
    by_cases he : e = .notFound
    · rw [he]
      rfl
    · exact absurd (.astray htree he) hfree
  | ok tree =>
    exact congrArg (Except.map kind) (walk_eq_notFound
      (fun bytes hfile => habsent bytes ⟨tree,htree,hfile⟩) hnames
      (fun hbars => hfree (.barred htree hbars)) [])

/-- What is in the way at the end of a path below a base is exactly what makes the base hide it. -/
theorem inTheWay_find_iff : InTheWay (find root working (joinPath base (pathOf names))) ↔
    Hides root working base names := by
  refine ⟨fun h => ?_,Hides.inTheWay hne hnames⟩
  by_contra hfree
  by_cases hholds : ∃ bytes, Holds root working base names bytes
  · obtain ⟨bytes,hholds⟩ := hholds
    rw [hholds.find_eq hne hnames hfree] at h
    cases h
  · rw [find_eq_notFound hne hnames (not_exists.1 hholds) hfree] at h
    cases h with
    | error h => exact h rfl

end

end FileTree

end LayeredSettings
