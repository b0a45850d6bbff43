import LayeredSettings.Proofs.Properties.Joining

/-! Texts that differ only in how their lines end. A carriage return ends a line as a line feed
does, and so do the two together. Main statement: a text is read like the text with a line feed for
every line end, with the same line in every error. -/
namespace LayeredSettings.Properties

/-- The text with a line feed for every line end: for a carriage return together with the line feed
after it, and for a carriage return alone. -/
def unifyEnds : List Char → List Char
  | [] => []
  | '\r' :: '\n' :: rest => '\n' :: unifyEnds rest
  | c :: rest => (if c = '\r' then '\n' else c) :: unifyEnds rest

lemma notMem_unifyEnds (text : List Char) : '\r' ∉ unifyEnds text := by
  fun_induction unifyEnds text with
  | case1 => exact List.not_mem_nil
  | case2 rest ih =>
    rw [List.mem_cons, not_or]
    exact ⟨by decide,ih⟩
  | case3 c rest _ ih =>
    rw [List.mem_cons, not_or]
    refine ⟨?_,ih⟩
    split_ifs with hc
    · decide
    · exact fun h => hc h.symm

lemma lineEnds_cons_of_ne {c : Char} {rest : List Char}
    (h : ∀ tail, c = '\r' → rest = '\n' :: tail → False) :
    lineEnds (c :: rest) = if c = '\r' ∨ c = '\n' then lineEnds rest + 1 else lineEnds rest := by
  rw [lineEnds]
  exact h

lemma lineEnds_unifyEnds (text : List Char) : lineEnds (unifyEnds text) = lineEnds text := by
  fun_induction unifyEnds text with
  | case1 => rfl
  | case2 rest ih => rw [lineEnds_cons_of_ne (by simp), if_pos (.inr rfl), ih, lineEnds]
  | case3 c rest hne ih =>
    rw [lineEnds_cons_of_ne hne]
    by_cases hr : c = '\r'
    · rw [if_pos hr, lineEnds_cons_of_ne (by simp), if_pos (.inr rfl), ih, if_pos (.inl hr)]
    · rw [if_neg hr, lineEnds_cons_of_ne fun _ h => absurd h hr, ih]

lemma naturalLines_lineFeed (rest : List Char) :
    naturalLines ('\n' :: rest) = [] :: naturalLines rest :=
  naturalLines_append_lineFeed [] rest

lemma naturalLines_returnFeed (rest : List Char) :
    naturalLines ('\r' :: '\n' :: rest) = [] :: naturalLines rest :=
  naturalLines_append_lineFeed ['\r'] rest

lemma dropFinalReturn_cons {c : Char} {line : List Char} (h : line = [] → c ≠ '\r') :
    dropFinalReturn (c :: line) = c :: dropFinalReturn line := by
  cases line with
  | nil => simp [dropFinalReturn, h rfl]
  | cons d line => exact dropFinalReturn_cons_cons c d line

/-- The natural lines up to the first line feed, and those after it. -/
lemma naturalLines_of_splitOn {text line : List Char} {more : List (List Char)}
    (h : text.splitOn '\n' = line :: more) :
    naturalLines text = (dropFinalReturn line).splitOn '\r' ++
      more.flatMap fun line => (dropFinalReturn line).splitOn '\r' := by
  rw [naturalLines, h, List.flatMap_cons]

lemma splitOn_cons_of_ne {c d : Char} (h : c ≠ d) {rest line : List Char}
    {more : List (List Char)} (hrest : rest.splitOn d = line :: more) :
    (c :: rest).splitOn d = (c :: line) :: more := by
  rw [List.splitOn_cons_eq_if_modifyHead, if_neg (by simpa using h), hrest, List.modifyHead_cons]

lemma naturalLines_return {d : Char} (h : d ≠ '\n') (rest : List Char) :
    naturalLines ('\r' :: d :: rest) = [] :: naturalLines (d :: rest) := by
  obtain ⟨line,more,hsplit⟩ := List.exists_cons_of_ne_nil (List.splitOn_ne_nil '\n' rest)
  have hline := splitOn_cons_of_ne h hsplit
  have hreturn := splitOn_cons_of_ne (by decide : '\r' ≠ '\n') hline
  rw [naturalLines_of_splitOn hline, naturalLines_of_splitOn hreturn,
    dropFinalReturn_cons_cons, List.splitOn_cons_eq_if_modifyHead]
  rfl

lemma naturalLines_plain {c : Char} (hr : c ≠ '\r') (hn : c ≠ '\n') {rest line : List Char}
    {more : List (List Char)} (h : naturalLines rest = line :: more) :
    naturalLines (c :: rest) = (c :: line) :: more := by
  obtain ⟨first,others,hfirst⟩ := List.exists_cons_of_ne_nil (List.splitOn_ne_nil '\n' rest)
  obtain ⟨piece,pieces,hpiece⟩ :=
    List.exists_cons_of_ne_nil (List.splitOn_ne_nil '\r' (dropFinalReturn first))
  rw [naturalLines_of_splitOn hfirst, hpiece, List.cons_append, List.cons.injEq] at h
  obtain ⟨rfl,rfl⟩ := h
  rw [naturalLines_of_splitOn (splitOn_cons_of_ne hn hfirst), dropFinalReturn_cons fun _ => hr,
    splitOn_cons_of_ne hr hpiece, List.cons_append]

lemma naturalLines_ne_nil (text : List Char) : naturalLines text ≠ [] := by
  obtain ⟨line,more,hsplit⟩ := List.exists_cons_of_ne_nil (List.splitOn_ne_nil '\n' text)
  rw [naturalLines_of_splitOn hsplit]
  exact List.append_ne_nil_of_left_ne_nil (List.splitOn_ne_nil '\r' _) _

lemma getLast?_cons_iff {c : Char} (h : c ≠ '\r') (rest : List Char) :
    (c :: rest).getLast? = some '\r' ↔ rest.getLast? = some '\r' := by
  cases rest with
  | nil => simp [h]
  | cons d rest => rw [List.getLast?_cons_cons]

/-- With line feeds for all line ends the natural lines are the same. Only at the very end of the
text a line feed is told from a carriage return: an empty line follows it. -/
theorem naturalLines_unifyEnds (text : List Char) :
    naturalLines (unifyEnds text) =
      naturalLines text ++ if text.getLast? = some '\r' then [[]] else [] := by
  have hfeed : '\n' ≠ '\r' := by decide
  fun_induction unifyEnds text with
  | case1 => rfl
  | case2 rest ih =>
    rw [naturalLines_lineFeed, naturalLines_returnFeed, ih, List.getLast?_cons_cons,
      List.cons_append]
    simp only [getLast?_cons_iff hfeed]
  | case3 c rest hne ih =>
    by_cases hr : c = '\r'
    · subst hr
      rw [if_pos rfl, naturalLines_lineFeed, ih]
      cases rest with
      | nil => rfl
      | cons d rest =>
        have hd : d ≠ '\n' := by
          rintro rfl
          exact hne rest rfl rfl
        rw [naturalLines_return hd, List.getLast?_cons_cons, List.cons_append]
    · simp only [if_neg hr, getLast?_cons_iff hr]
      by_cases hn : c = '\n'
      · rw [hn, naturalLines_lineFeed, naturalLines_lineFeed, ih, List.cons_append]
      · obtain ⟨line,more,hlines⟩ := List.exists_cons_of_ne_nil (naturalLines_ne_nil rest)
        rw [hlines, List.cons_append] at ih
        rw [naturalLines_plain hr hn ih, naturalLines_plain hr hn hlines, List.cons_append]

/-- An empty line at the end adds nothing: no entry starts there, and the one that takes it in has
lost its last backslash already. -/
lemma collect_append_nil {pending : Option LogicalLine} (h : ∀ entry ∈ pending, entry.Closed)
    (n : Nat) (lines : List (List Char)) :
    collect pending n (lines ++ [[]]) = collect pending n lines := by
  fun_induction collect pending n lines with
  | case1 pending n =>
    cases pending with
    | none => rfl
    | some entry =>
      have hclosed : continues entry.text = false := h entry rfl
      simp [collect, takeLine, dropBlanks, hclosed]
  | case2 pending n raw rest htake ih =>
    rw [List.cons_append, collect, htake]
    exact ih (by simp)
  | case3 pending n raw rest entry htake hc ih =>
    rw [List.cons_append, collect, htake]
    simp only [hc, if_true]
    refine ih fun e he => ?_
    obtain rfl := Option.some.inj he
    exact continues_dropLast hc
  | case4 pending n raw rest entry htake hc ih =>
    rw [List.cons_append, collect, htake]
    simp only [hc, if_false, Bool.false_eq_true]
    rw [ih (by simp)]

theorem logicalLines_unifyEnds (text : List Char) :
    logicalLines (unifyEnds text) = logicalLines text := by
  rw [logicalLines, naturalLines_unifyEnds]
  split_ifs
  · exact collect_append_nil (by simp) 1 (naturalLines text)
  · rw [List.append_nil, logicalLines]

/-- Line ends are interchangeable. With a line feed in the place of every other line end a text is
read as before: the same entries, or the same error on the same line. -/
theorem parse_unifyEnds (text : String) :
    '\r' ∉ unifyEnds text.toList ∧
    lineEnds (unifyEnds text.toList) = lineEnds text.toList ∧
    Source.parse (String.ofList (unifyEnds text.toList)) = Source.parse text := by
  refine ⟨notMem_unifyEnds _,lineEnds_unifyEnds _,?_⟩
  rw [Source.parse, String.toList_ofList, logicalLines_unifyEnds, Source.parse]

example : unifyEnds "a=\\\r\nb\r\r\nc\r".toList = "a=\\\nb\n\nc\n".toList := by decide

end LayeredSettings.Properties
