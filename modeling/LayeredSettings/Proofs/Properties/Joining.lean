import LayeredSettings.Proofs.Properties.Grouping

/-! Two properties texts, one after the other. If the entries of the first are complete at its end,
reading both is reading one and then the other: its entries first, its errors first, and the lines
of the second counted on from those of the first. -/
namespace LayeredSettings.Properties

/-- The number of line ends: a carriage return with a line feed, either of them alone. -/
def lineEnds : List Char → Nat
  | [] => 0
  | '\r' :: '\n' :: rest => lineEnds rest + 1
  | c :: rest => if c = '\r' ∨ c = '\n' then lineEnds rest + 1 else lineEnds rest

/-- Some entry of a text still goes on at the end of the text. A comment does not, whatever it ends
with. -/
def EndsOpen (text : List Char) : Prop := ∃ group ∈ groups (naturalLines text), group.GoesOn

instance (text : List Char) : Decidable (EndsOpen text) := inferInstanceAs (Decidable (∃ _ ∈ _, _))

/-- The entry as it is reported when `n` natural lines stand before its text. -/
def LogicalLine.later (n : Nat) (line : LogicalLine) : LogicalLine :=
  { line with number := line.number + n }

lemma naturalLines_append_lineFeed (a b : List Char) :
    naturalLines (a ++ '\n' :: b) = naturalLines a ++ naturalLines b := by
  rw [naturalLines, List.splitOn_append_cons_self, List.flatMap_append]
  rfl

lemma lineEnds_cons {c : Char} (hn : c ≠ '\n') {d : Char} (h : c = '\r' → d ≠ '\n')
    (rest : List Char) :
    lineEnds (c :: d :: rest) = (if c = '\r' then 1 else 0) + lineEnds (d :: rest) := by
  rw [lineEnds]
  · by_cases hr : c = '\r'
    · rw [if_pos (.inl hr), if_pos hr, Nat.add_comm]
    · rw [if_neg (by simp [hr, hn]), if_neg hr, Nat.zero_add]
  · rintro rest' rfl heq
    exact h rfl (List.cons_eq_cons.1 heq).1

lemma dropFinalReturn_cons_cons (c d : Char) (rest : List Char) :
    dropFinalReturn (c :: d :: rest) = c :: dropFinalReturn (d :: rest) := by
  simp only [dropFinalReturn, List.getLast?_cons_cons, List.dropLast_cons_cons]
  split <;> rfl

lemma length_splitOn_cons (c d : Char) (rest : List Char) :
    ((d :: rest).splitOn c).length = (if d = c then 1 else 0) + (rest.splitOn c).length := by
  rw [List.splitOn_cons_eq_if_modifyHead]
  by_cases h : d = c
  · simp [h, Nat.add_comm]
  · simp [h]

lemma lineEnds_append_lineFeed {line : List Char} (h : '\n' ∉ line) (rest : List Char) :
    lineEnds (line ++ '\n' :: rest) =
      ((dropFinalReturn line).splitOn '\r').length + lineEnds rest := by
  induction line with
  | nil => simp [lineEnds, dropFinalReturn, Nat.add_comm]
  | cons c line ih =>
    rw [List.mem_cons, not_or] at h
    have hc : c ≠ '\n' := fun hc => h.1 hc.symm
    cases line with
    | nil =>
      by_cases hr : c = '\r'
      · subst hr
        simp [lineEnds, dropFinalReturn, Nat.add_comm]
      · have hsplit : (dropFinalReturn [c]).splitOn '\r' = [[c]] := by
          simp [dropFinalReturn, hr, List.splitOn_eq_singleton, eq_comm (a := '\r')]
        rw [List.singleton_append, lineEnds_cons hc (fun h => absurd h hr), if_neg hr, hsplit]
        simp [lineEnds, Nat.add_comm]
    | cons d line =>
      have hd : d ≠ '\n' := fun hd => h.2 (hd ▸ List.mem_cons_self)
      rw [List.cons_append, List.cons_append, lineEnds_cons hc (fun _ => hd), ← List.cons_append,
        ih h.2, dropFinalReturn_cons_cons, length_splitOn_cons, Nat.add_assoc]

/-- A text with a line feed after it has as many line ends as the text has natural lines. -/
theorem length_naturalLines (text : List Char) :
    (naturalLines text).length = lineEnds (text ++ ['\n']) := by
  induction hn : text.length using Nat.strong_induction_on generalizing text with
  | _ n ih =>
    subst hn
    by_cases h : '\n' ∈ text
    · obtain ⟨line,rest,rfl,hline⟩ := List.eq_append_cons_of_mem h
      have hlt : rest.length < (line ++ '\n' :: rest).length := by
        rw [List.length_append, List.length_cons]
        omega
      have hfirst : naturalLines line = (dropFinalReturn line).splitOn '\r' := by
        rw [naturalLines, List.splitOn_eq_singleton hline]
        exact List.append_nil _
      rw [naturalLines_append_lineFeed, List.length_append, ih _ hlt rest rfl, hfirst,
        List.append_assoc, List.cons_append, lineEnds_append_lineFeed hline]
    · rw [lineEnds_append_lineFeed h, naturalLines, List.splitOn_eq_singleton h]
      simp [lineEnds]

lemma takenAfter_append {last : List Char} {rest : List (List Char)}
    (h : continues ((takenAfter last rest).getLastD last) = false) (more : List (List Char)) :
    takenAfter last (rest ++ more) = takenAfter last rest := by
  induction rest generalizing last with
  | nil => exact takenAfter_of_closed h more
  | cons next rest ih =>
    by_cases hlast : continues last = true
    · rw [takenAfter, if_pos hlast, List.getLastD_cons] at h
      rw [List.cons_append, takenAfter, takenAfter, if_pos hlast, if_pos hlast, ih h]
    · rw [takenAfter_of_closed (Bool.eq_false_of_not_eq_true hlast),
        takenAfter_of_closed (Bool.eq_false_of_not_eq_true hlast)]

/-- Lines after groups none of which goes on are in groups of their own. -/
theorem groups_append {lines : List (List Char)} (h : ∀ group ∈ groups lines, ¬ group.GoesOn)
    (more : List (List Char)) : groups (lines ++ more) = groups lines ++ groups more := by
  fun_induction groups lines with
  | case1 => rfl
  | case2 line rest hignored ih =>
    rw [List.forall_mem_cons] at h
    rw [List.cons_append, groups, if_pos hignored, ih h.2]
    rfl
  | case3 line rest hentry ih =>
    rw [List.forall_mem_cons] at h
    have hclosed : continues ((takenAfter line rest).getLastD line) = false :=
      Bool.eq_false_of_not_eq_true h.1
    have hlength : (takenAfter line rest).length ≤ rest.length := by
      conv_rhs => rw [← takenAfter_append_drop line rest, List.length_append]
      exact Nat.le_add_right _ _
    rw [List.cons_append, groups, if_neg hentry, takenAfter_append hclosed,
      List.drop_append_of_le_length hlength, ih h.2]
    rfl

lemma entriesOf_append (n : Nat) (before after : List Group) :
    entriesOf n (before ++ after) =
      entriesOf n before ++ entriesOf (n + (before.flatMap Group.lines).length) after := by
  induction before generalizing n with
  | nil => rfl
  | cons group before ih =>
    rw [List.cons_append, entriesOf, entriesOf, ih, List.append_assoc, List.flatMap_cons,
      List.length_append, Nat.add_assoc]

lemma entriesOf_add (n m : Nat) (gs : List Group) :
    entriesOf (m + n) gs = (entriesOf m gs).map (LogicalLine.later n) := by
  induction gs generalizing m with
  | nil => rfl
  | cons group gs ih =>
    have hgroup : group.entry? (m + n) = (group.entry? m).map (LogicalLine.later n) := by
      cases group <;> rfl
    rw [entriesOf, entriesOf, List.map_append, hgroup, ← ih, Nat.add_right_comm]
    cases group.entry? m <;> rfl

/-- The entries of two texts are those of the first and then those of the second, counted on. -/
theorem logicalLines_append_lineFeed {a : List Char} (h : ¬ EndsOpen a) (b : List Char) :
    logicalLines (a ++ '\n' :: b) =
      logicalLines a ++ (logicalLines b).map (LogicalLine.later (lineEnds (a ++ ['\n']))) := by
  have hclosed : ∀ group ∈ groups (naturalLines a), ¬ group.GoesOn :=
    fun group hg hgoes => h ⟨group,hg,hgoes⟩
  simp only [logicalLines, collect_eq_entriesOf]
  rw [naturalLines_append_lineFeed, groups_append hclosed, entriesOf_append, flatMap_lines_groups,
    length_naturalLines, entriesOf_add]

lemma ofLines_eq_mapM (source : Source) (lines : List LogicalLine) :
    Source.ofLines source lines = (lines.mapM splitEntry).map fun pairs =>
      pairs.foldl (fun d (k,v) => d.insert k v) source := by
  induction lines generalizing source with
  | nil => rfl
  | cons line lines ih =>
    rw [List.mapM_cons, Source.ofLines]
    cases splitEntry line with
    | error e => rfl
    | ok pair =>
      change Source.ofLines (source.insert pair.1 pair.2) lines = _
      rw [ih]
      cases lines.mapM splitEntry <;> rfl

lemma parse_eq_mapM (text : String) :
    Source.parse text = ((logicalLines text.toList).mapM splitEntry).map Dictionary.ofList :=
  ofLines_eq_mapM .empty _

lemma parse_eq_error_iff {text : String} {e : PropertiesError} :
    Source.parse text = .error e ↔ (logicalLines text.toList).mapM splitEntry = .error e := by
  rw [parse_eq_mapM]
  cases (logicalLines text.toList).mapM splitEntry <;> simp [Except.map]

lemma parse_eq_ok_iff {text : String} {source : Source} :
    Source.parse text = .ok source ↔
      ∃ pairs, (logicalLines text.toList).mapM splitEntry = .ok pairs ∧ source = .ofList pairs := by
  rw [parse_eq_mapM]
  cases (logicalLines text.toList).mapM splitEntry <;> simp [Except.map, eq_comm]

/-- An error as it is reported when `n` natural lines stand before the text. -/
def laterError (n : Nat) : PropertiesError → PropertiesError
  | .malformedEscape line => .malformedEscape (line + n)
  | e => e

/-- Entries are split in the same way wherever they stand; only the reported line moves. -/
lemma splitEntry_later (n : Nat) (line : LogicalLine) :
    splitEntry (line.later n) = (splitEntry line).mapError (laterError n) := by
  simp only [splitEntry, LogicalLine.later]
  split <;> rfl

lemma mapM_splitEntry_later (n : Nat) (lines : List LogicalLine) :
    (lines.map (LogicalLine.later n)).mapM splitEntry =
      (lines.mapM splitEntry).mapError (laterError n) := by
  induction lines with
  | nil => rfl
  | cons line lines ih =>
    rw [List.map_cons, List.mapM_cons, List.mapM_cons, ih, splitEntry_later]
    cases splitEntry line with
    | error e => rfl
    | ok pair => cases lines.mapM splitEntry <;> rfl

lemma parse_append_eq {a : String} (h : ¬ EndsOpen a.toList) (b : String) :
    Source.parse (a ++ "\n" ++ b) = do
      let pairs ← (logicalLines a.toList).mapM splitEntry
      let more ← ((logicalLines b.toList).mapM splitEntry).mapError
        (laterError (lineEnds (a ++ "\n").toList))
      return .ofList (pairs ++ more) := by
  have htext : (a ++ "\n" ++ b).toList = a.toList ++ '\n' :: b.toList := by simp
  have hends : (a ++ "\n").toList = a.toList ++ ['\n'] := by simp
  rw [parse_eq_mapM, htext, logicalLines_append_lineFeed h, List.mapM_append,
    mapM_splitEntry_later, hends]
  cases (logicalLines a.toList).mapM splitEntry with
  | error e => rfl
  | ok pairs => cases (logicalLines b.toList).mapM splitEntry <;> rfl

/-- A text is read as the sum of its parts, if no entry of the first part still goes on at its end.
An error in the first part is the error. An error in the second part is reported further down, by as
many lines as end in the first part and the line feed after it. If both parts are read, a key has
its value from the second part, or else from the first. -/
theorem parse_append_lineFeed (a b : String) (h : ¬ EndsOpen a.toList) :
    (∀ e, Source.parse a = .error e → (∃ n, e = .malformedEscape n) ∧
      Source.parse (a ++ "\n" ++ b) = .error e) ∧
    (∀ above e, Source.parse a = .ok above → Source.parse b = .error e →
      ∃ n, e = .malformedEscape n ∧ Source.parse (a ++ "\n" ++ b) =
        .error (.malformedEscape (n + lineEnds (a ++ "\n").toList))) ∧
    ∀ above below, Source.parse a = .ok above → Source.parse b = .ok below →
      ∃ joined, Source.parse (a ++ "\n" ++ b) = .ok joined ∧
        ∀ key, joined.get? key = (below.get? key).or (above.get? key) := by
  have hmalformed : ∀ text e, Source.parse text = .error e → ∃ n, e = .malformedEscape n := by
    intro text e he
    obtain ⟨line,-,-,rfl⟩ := (parsedBy_takenUnit text).refused e he
    exact ⟨line.number,rfl⟩
  have happend := parse_append_eq h b
  refine ⟨fun e ha => ⟨hmalformed a e ha,?_⟩,fun above e ha hb => ?_,fun above below ha hb => ?_⟩
  · rw [happend, parse_eq_error_iff.1 ha]
    rfl
  · obtain ⟨pairs,hpairs,-⟩ := parse_eq_ok_iff.1 ha
    obtain ⟨n,rfl⟩ := hmalformed b e hb
    refine ⟨n,rfl,?_⟩
    rw [happend, hpairs, parse_eq_error_iff.1 hb]
    rfl
  · obtain ⟨pairs,hpairs,rfl⟩ := parse_eq_ok_iff.1 ha
    obtain ⟨more,hmore,rfl⟩ := parse_eq_ok_iff.1 hb
    refine ⟨.ofList (pairs ++ more),?_,fun key => ?_⟩
    · rw [happend, hpairs, hmore]
      rfl
    · simp only [Dictionary.get?_ofList, List.reverse_append, List.lookup_append]

/-- An entry before a lone carriage return, and a comment that ends in a backslash; then an entry
that spells the same key otherwise, or a malformed one. -/
theorem parse_append_lineFeed_comment :
    ¬ EndsOpen "x=1\r# note \\".toList ∧
    (∃ joined, Source.parse ("x=1\r# note \\" ++ "\n" ++ "\\u0078=2") = .ok joined ∧
      joined.get? "x" = some "2") ∧
    Source.parse ("x=1\r# note \\" ++ "\n" ++ "y\n\\u00") = .error (.malformedEscape 4) := by
  have h : ¬ EndsOpen "x=1\r# note \\".toList := by decide +kernel
  have hread : Source.parse "x=1\r# note \\" = .ok (.ofList [("x","1")]) := by decide +kernel
  obtain ⟨-,-,hboth⟩ := parse_append_lineFeed "x=1\r# note \\" "\\u0078=2" h
  obtain ⟨-,hsecond,-⟩ := parse_append_lineFeed "x=1\r# note \\" "y\n\\u00" h
  refine ⟨h,?_,?_⟩
  · have hmore : Source.parse "\\u0078=2" = .ok (.ofList [("x","2")]) := by decide +kernel
    obtain ⟨joined,hjoined,hkeys⟩ := hboth _ _ hread hmore
    exact ⟨joined,hjoined,hkeys "x"⟩
  · have hmore : Source.parse "y\n\\u00" = .error (.malformedEscape 2) := by decide +kernel
    obtain ⟨n,hn,hjoined⟩ := hsecond _ _ hread hmore
    cases hn
    exact hjoined

end LayeredSettings.Properties
