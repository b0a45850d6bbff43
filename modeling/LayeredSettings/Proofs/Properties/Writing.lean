import LayeredSettings.Proofs.Dictionary
import LayeredSettings.Proofs.Properties.Spelling

/-! Writing pairs as a properties text, one entry a line, and reading them back. Line ends, blanks,
comments, separators and escapes are told apart by several passes, which all agree on a written
text. -/
namespace LayeredSettings.Properties

def Blanks (cs : List Char) : Prop := ∀ c ∈ cs, IsBlank c

lemma blanks_nil : Blanks [] := fun _ h => absurd h List.not_mem_nil

/-- The line of an entry: the spelled key and value, a separator between them, blanks before the
key and on both sides of the separator. -/
inductive SpellsEntry (key value : String) : List Char → Prop
  | intro {indent k gap : List Char} {separator : Char} {margin v : List Char}
      (hi : Blanks indent) (hk : SpellsText PlainInKey PlainAtKey key.toList k)
      (hg : Blanks gap) (hs : separator = '=' ∨ separator = ':')
      (hm : Blanks margin) (hv : SpellsText Plain PlainAtValue value.toList v) :
      SpellsEntry key value (indent ++ (k ++ (gap ++ separator :: (margin ++ v))))

/-- A line without an entry: blanks, and perhaps a comment after them. -/
inductive IgnoredLine : List Char → Prop
  | blank {indent : List Char} (hi : Blanks indent) : IgnoredLine indent
  | comment {indent : List Char} {mark : Char} {rest : List Char} (hi : Blanks indent)
      (hm : mark = '#' ∨ mark = '!') (hn : '\n' ∉ rest) (hr : '\r' ∉ rest) :
      IgnoredLine (indent ++ mark :: rest)

/-- A text in which pairs are written line by line, with ignored lines between them. -/
inductive Writes : List (String × String) → List Char → Prop
  | nil : Writes [] []
  | ignored {pairs : List (String × String)} {line text : List Char} (h : IgnoredLine line)
      (ht : Writes pairs text) : Writes pairs (line ++ '\n' :: text)
  | entry {key value : String} {pairs : List (String × String)} {line text : List Char}
      (h : SpellsEntry key value line) (ht : Writes pairs text) :
      Writes ((key,value) :: pairs) (line ++ '\n' :: text)

lemma Blanks.notMem {cs : List Char} (h : Blanks cs) {c : Char} (hc : ¬ IsBlank c) : c ∉ cs :=
  fun hm => hc (h c hm)

lemma Blanks.notMem_backslash {cs : List Char} (h : Blanks cs) : '\\' ∉ cs := h.notMem (by decide)

lemma Blanks.notMem_of_lineEnd {cs : List Char} (h : Blanks cs) : '\n' ∉ cs ∧ '\r' ∉ cs :=
  ⟨h.notMem (by decide),h.notMem (by decide)⟩

lemma Blanks.dropBlanks_append {cs : List Char} (h : Blanks cs) (rest : List Char) :
    dropBlanks (cs ++ rest) = dropBlanks rest :=
  List.dropWhile_append_of_pos fun c hc => isBlank_eq_true_iff.2 (h c hc)

lemma Blanks.continues_append {cs before : List Char} (h : Blanks cs)
    (hb : continues before = false) : continues (before ++ cs) = false := by
  rcases List.eq_nil_or_concat cs with rfl | ⟨init,c,rfl⟩
  · rwa [List.append_nil]
  · have hc : c ≠ '\\' := by
      rintro rfl
      exact h.notMem_backslash (by simp)
    rw [List.concat_eq_append, ← List.append_assoc, continues_append_of_ne hc]

lemma dropBlanks_cons {c : Char} (h : ¬ IsBlank c) (rest : List Char) :
    dropBlanks (c :: rest) = c :: rest := by simp [dropBlanks, h]

theorem naturalLines_append {line : List Char} (hn : '\n' ∉ line) (hr : '\r' ∉ line)
    (rest : List Char) : naturalLines (line ++ '\n' :: rest) = line :: naturalLines rest := by
  have hfinal : dropFinalReturn line = line := by
    refine if_neg fun h => hr ?_
    exact List.mem_of_getLast? h
  rw [naturalLines, List.splitOn_append_cons_self_of_not_mem hn, List.flatMap_cons, hfinal,
    List.splitOn_eq_singleton hr]
  rfl

lemma collect_of_ignored {raw : List Char} (h : isIgnored (dropBlanks raw) = true) (n : Nat)
    (rest : List (List Char)) : collect none n (raw :: rest) = collect none (n + 1) rest := by
  simp [collect, takeLine, h]

lemma collect_of_closed {raw : List Char} (h : isIgnored (dropBlanks raw) = false)
    (hc : continues (dropBlanks raw) = false) (n : Nat) (rest : List (List Char)) :
    collect none n (raw :: rest) = ⟨dropBlanks raw,n⟩ :: collect none (n + 1) rest := by
  simp [collect, takeLine, h, hc]

lemma IgnoredLine.spec {line : List Char} (h : IgnoredLine line) :
    '\n' ∉ line ∧ '\r' ∉ line ∧ isIgnored (dropBlanks line) = true := by
  cases h with
  | blank hi =>
    refine ⟨hi.notMem_of_lineEnd.1,hi.notMem_of_lineEnd.2,?_⟩
    have hdrop := hi.dropBlanks_append []
    rw [List.append_nil] at hdrop
    rw [hdrop]
    rfl
  | @comment indent mark rest hi hm hn hr =>
    have hmark : ¬ IsBlank mark ∧ '\n' ≠ mark ∧ '\r' ≠ mark := by
      rcases hm with rfl | rfl <;> decide
    obtain ⟨hin,hir⟩ := hi.notMem_of_lineEnd
    simp only [List.mem_append, List.mem_cons, not_or]
    refine ⟨⟨hin,hmark.2.1,hn⟩,⟨hir,hmark.2.2,hr⟩,?_⟩
    rw [hi.dropBlanks_append, dropBlanks_cons hmark.1]
    rcases hm with rfl | rfl <;> rfl

lemma Spells.dropBlanks_append {plain : Char → Prop} (hp : ∀ c, plain c → ¬ IsBlank c)
    {c : Char} {w : List Char} (h : Spells plain c w) (rest : List Char) :
    dropBlanks (w ++ rest) = w ++ rest := by
  obtain ⟨d,tail,rfl,hd⟩ := h.head?
  refine dropBlanks_cons ?_ (tail ++ rest)
  rcases hd with hd | rfl
  · exact hp d hd
  · decide

/-- The blanks before a spelled value are all the blanks that can be dropped. -/
lemma SpellsText.dropBlanks_eq {cs v : List Char} (h : SpellsText Plain PlainAtValue cs v) :
    dropBlanks v = v := by
  cases h with
  | nil => rfl
  | cons hc => exact hc.dropBlanks_append (fun c => And.right) _

lemma separator_spec {separator : Char} (h : separator = '=' ∨ separator = ':') :
    ¬ IsBlank separator ∧ '\n' ≠ separator ∧ '\r' ≠ separator ∧ separator ≠ '\\' := by
  rcases h with rfl | rfl <;> decide

/-- Dropping the blanks at the front leaves the key as it is spelled, and what remains is no
comment. If the key is empty, the blanks after it are dropped as well. -/
lemma SpellsText.dropBlanks_key {cs k gap : List Char} {separator : Char}
    (hk : SpellsText PlainInKey PlainAtKey cs k) (hg : Blanks gap)
    (hs : separator = '=' ∨ separator = ':') (rest : List Char) :
    ∃ left, Blanks left ∧
      dropBlanks (k ++ (gap ++ separator :: rest)) = k ++ (left ++ separator :: rest) ∧
      isIgnored (k ++ (left ++ separator :: rest)) = false := by
  cases hk with
  | nil =>
    refine ⟨[],blanks_nil,?_,?_⟩
    · rw [List.nil_append, hg.dropBlanks_append, dropBlanks_cons (separator_spec hs).1]
      rfl
    · rcases hs with rfl | rfl <;> rfl
  | @cons _ _ w _ ws hc =>
    refine ⟨gap,hg,?_,?_⟩
    · rw [List.append_assoc]
      exact hc.dropBlanks_append (fun c hp => hp.1.2.2.2) _
    · obtain ⟨d,tail,rfl,hd⟩ := hc.head?
      rcases hd with ⟨-,hhash,hbang⟩ | rfl
      · simp [isIgnored, hhash, hbang]
      · rfl

lemma splitKey_gap {gap : List Char} (hg : Blanks gap) {separator : Char}
    (hs : separator = '=' ∨ separator = ':') (rest : List Char) :
    splitKey (gap ++ separator :: rest) = ([],gap ++ separator :: rest) := by
  cases gap with
  | nil => exact splitKey_of_ends (.inl hs) rest
  | cons c gap => exact splitKey_of_ends (.inr (hg c List.mem_cons_self)) _

lemma rawValue_gap {gap margin v cs : List Char} (hg : Blanks gap) {separator : Char}
    (hs : separator = '=' ∨ separator = ':') (hm : Blanks margin)
    (hv : SpellsText Plain PlainAtValue cs v) :
    rawValue (gap ++ separator :: (margin ++ v)) = v := by
  rw [rawValue, hg.dropBlanks_append, dropBlanks_cons (separator_spec hs).1]
  rcases hs with rfl | rfl
  · exact (hm.dropBlanks_append v).trans hv.dropBlanks_eq
  · exact (hm.dropBlanks_append v).trans hv.dropBlanks_eq

/-- Every pass takes the line of an entry for what it is: a single line that is not ignored and
does not go on, with the key and the value that it spells. -/
theorem SpellsEntry.spec {key value : String} {line : List Char} (h : SpellsEntry key value line) :
    '\n' ∉ line ∧ '\r' ∉ line ∧ isIgnored (dropBlanks line) = false ∧
      continues (dropBlanks line) = false ∧
      ∀ n, splitEntry ⟨dropBlanks line,n⟩ = .ok (key,value) := by
  cases h with
  | @intro indent k gap separator margin v hi hk hg hs hm hv =>
    have hkey : ∀ c, PlainInKey c → Plain c := fun c => And.left
    have hatKey : ∀ c, PlainAtKey c → PlainInKey c := fun c => And.left
    have hatValue : ∀ c, PlainAtValue c → Plain c := fun c => And.left
    obtain ⟨hin,hir⟩ := hi.notMem_of_lineEnd
    obtain ⟨hgn,hgr⟩ := hg.notMem_of_lineEnd
    obtain ⟨hmn,hmr⟩ := hm.notMem_of_lineEnd
    obtain ⟨hkn,hkr⟩ := hk.notMem_of_lineEnd (fun c hc => hkey c (hatKey c hc)) hkey
    obtain ⟨hvn,hvr⟩ := hv.notMem_of_lineEnd hatValue fun _ => id
    obtain ⟨hblank,hsn,hsr,hsb⟩ := separator_spec hs
    obtain ⟨left,hleft,hdrop,hignored⟩ := hk.dropBlanks_key hg hs (margin ++ v)
    rw [hi.dropBlanks_append, hdrop]
    refine ⟨?_,?_,hignored,?_,fun n => ?_⟩
    · simp only [List.mem_append, List.mem_cons, not_or]
      exact ⟨hin,hkn,hgn,hsn,hmn,hvn⟩
    · simp only [List.mem_append, List.mem_cons, not_or]
      exact ⟨hir,hkr,hgr,hsr,hmr,hvr⟩
    · have hopen : continues ((k ++ left) ++ [separator] ++ margin) = false := by
        exact hm.continues_append (continues_append_of_ne hsb _)
      have happ : k ++ (left ++ separator :: (margin ++ v)) =
          ((k ++ left) ++ [separator] ++ margin) ++ v := by simp
      rw [happ]
      exact hv.continues_append hatValue (fun _ => id) hopen
    · simp only [splitEntry, hk.splitKey_append hatKey (fun _ => id) (splitKey_gap hleft hs _),
        rawValue_gap hleft hs hm hv, hk.unescape_eq (fun c hc => hkey c (hatKey c hc)) hkey,
        hv.unescape_eq hatValue fun _ => id, String.ofList_toList]

/-- Reading a written text adds its pairs to a source, one after the other. -/
lemma Writes.ofLines_collect {pairs : List (String × String)} {text : List Char}
    (h : Writes pairs text) (n : Nat) (source : Source) :
    Source.ofLines source (collect none n (naturalLines text)) =
      .ok (pairs.foldl (fun d (k,v) => d.insert k v) source) := by
  induction h generalizing n source with
  | nil => rfl
  | ignored hline _ ih =>
    obtain ⟨hn,hr,hignored⟩ := hline.spec
    rw [naturalLines_append hn hr, collect_of_ignored hignored, ih]
  | entry hline _ ih =>
    obtain ⟨hn,hr,hignored,hclosed,hsplit⟩ := hline.spec
    rw [naturalLines_append hn hr, collect_of_closed hignored hclosed, Source.ofLines, hsplit]
    exact ih (n + 1) _

theorem Writes.parse_eq {pairs : List (String × String)} {text : String}
    (h : Writes pairs text.toList) : Source.parse text = .ok (.ofList pairs) :=
  h.ofLines_collect 1 .empty

theorem exists_writes (pairs : List (String × String)) : ∃ text, Writes pairs text := by
  induction pairs with
  | nil => exact ⟨[],.nil⟩
  | cons pair pairs ih =>
    obtain ⟨key,value⟩ := pair
    obtain ⟨k,hk⟩ := exists_spellsText PlainInKey PlainAtKey key.toList
    obtain ⟨v,hv⟩ := exists_spellsText Plain PlainAtValue value.toList
    obtain ⟨text,ht⟩ := ih
    exact ⟨_,.entry (.intro blanks_nil hk blanks_nil (.inl rfl) blanks_nil hv) ht⟩

/-- Every list of pairs can be written, and however it is written, it is read back as the source of
these pairs, in which the last pair of a key counts. -/
theorem parse_of_writes (pairs : List (String × String)) :
    (∃ text : String, Writes pairs text.toList) ∧
    (∀ text : String, Writes pairs text.toList → Source.parse text = .ok (.ofList pairs)) ∧
    ∀ key, (Dictionary.ofList pairs).get? key = pairs.reverse.lookup key := by
  refine ⟨?_,fun text h => h.parse_eq,fun key => ?_⟩
  · obtain ⟨text,h⟩ := exists_writes pairs
    exact ⟨String.ofList text,by rwa [String.toList_ofList]⟩
  · exact Dictionary.get?_ofList pairs key

/-- A comment, then an entry with escapes in its key and its value and a different blank at each of
the three places. -/
theorem parse_of_writes_escaped :
    Writes [("é=","\t😀")] "# note\n\t\\u00E9\\=\x0c: \\t\\uD83d\\uDE00\n".toList ∧
    Source.parse "# note\n\t\\u00E9\\=\x0c: \\t\\uD83d\\uDE00\n" = .ok (.ofList [("é=","\t😀")]) := by
  have hkey : SpellsText PlainInKey PlainAtKey "é=".toList "\\u00E9\\=".toList :=
    .cons (.unit ⟨_,_,_,_,rfl,by decide,by decide,by decide,by decide⟩)
      (.cons (.escaped (by decide)) .nil)
  have hvalue : SpellsText Plain PlainAtValue "\t😀".toList "\\t\\uD83d\\uDE00".toList :=
    .cons .tab (.cons (.pair (by decide) ⟨_,_,_,_,rfl,by decide,by decide,by decide,by decide⟩
      ⟨_,_,_,_,rfl,by decide,by decide,by decide,by decide⟩) .nil)
  have htab : Blanks ['\t'] := by simp [Blanks, IsBlank]
  have hformFeed : Blanks ['\x0c'] := by simp [Blanks, IsBlank]
  have hspace : Blanks [' '] := by simp [Blanks, IsBlank]
  have hentry : SpellsEntry "é=" "\t😀" "\t\\u00E9\\=\x0c: \\t\\uD83d\\uDE00".toList :=
    .intro htab hkey hformFeed (.inr rfl) hspace hvalue
  have hnote : IgnoredLine "# note".toList :=
    @IgnoredLine.comment [] '#' " note".toList blanks_nil (.inl rfl) (by decide) (by decide)
  have h : Writes [("é=","\t😀")] "# note\n\t\\u00E9\\=\x0c: \\t\\uD83d\\uDE00\n".toList :=
    .ignored hnote (.entry hentry .nil)
  exact ⟨h,(parse_of_writes _).2.1 _ h⟩

end LayeredSettings.Properties
