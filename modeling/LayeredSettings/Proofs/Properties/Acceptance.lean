import Mathlib.Data.List.Forall2
import LayeredSettings.Proofs.Properties.Escapes

/-! Which properties texts are read, and as what. An entry is read if the escapes of its raw key and
its raw value are well named; the first entry of which this is not true stops the parser. -/
namespace LayeredSettings.Properties

namespace LogicalLine

variable (names : Nat → List Char → Prop) (line : LogicalLine)

def rawKey : List Char := (splitKey line.text).1

def rawValue : List Char := Properties.rawValue (splitKey line.text).2

/-- The escapes of the key and of the value all name characters. -/
def WellEscaped : Prop :=
  WellNamed names (escapes line.rawKey) ∧ WellNamed names (escapes line.rawValue)

/-- The line is the entry of a key and a value. -/
def Reads (pair : String × String) : Prop :=
  Decodes names line.rawKey pair.1.toList ∧ Decodes names line.rawValue pair.2.toList

/-- Some escape of the key or the value has a sign. -/
def Signed : Prop :=
  ∃ t, (t ∈ escapes line.rawKey ∨ t ∈ escapes line.rawValue) ∧ StartsSigned t

/-- No backslash is left open at the end of the line. -/
def Closed : Prop := continues line.text = false

end LogicalLine

/-- A text is parsed by what names its units: it is read exactly if all its entries are well escaped,
and then as the pairs that these stand for; otherwise an entry is reported that is not. -/
structure ParsedBy (names : Nat → List Char → Prop) (text : String) : Prop where
  accepted : (∃ source, Source.parse text = .ok source) ↔
    ∀ line ∈ logicalLines text.toList, line.WellEscaped names
  decoded : ∀ source, Source.parse text = .ok source → ∃ pairs, source = .ofList pairs ∧
    List.Forall₂ (LogicalLine.Reads names) (logicalLines text.toList) pairs
  refused : ∀ e, Source.parse text = .error e → ∃ line ∈ logicalLines text.toList,
    ¬ line.WellEscaped names ∧ e = .malformedEscape line.number

lemma wellEscaped_spellsUnit_iff {line : LogicalLine} :
    line.WellEscaped SpellsUnit ↔ line.WellEscaped TakenUnit ∧ ¬ line.Signed := by
  simp only [LogicalLine.WellEscaped, LogicalLine.Signed, wellNamed_spellsUnit_iff, not_exists,
    not_and, or_imp, forall_and]
  tauto

lemma continues_dropBlanks (cs : List Char) : continues (dropBlanks cs) = continues cs := by
  induction cs with
  | nil => rfl
  | cons c cs ih =>
    by_cases hc : isBlank c = true
    · have hne : c ≠ '\\' := by
        rintro rfl
        cases hc
      rw [continues_cons hne, ← ih]
      simp [dropBlanks, hc]
    · simp [dropBlanks, hc]

/-- A line that leaves no backslash open leaves none open in its raw key and after it. -/
lemma continues_splitKey {cs : List Char} (h : continues cs = false) :
    continues (splitKey cs).1 = false ∧ continues (splitKey cs).2 = false := by
  fun_induction splitKey cs with
  | case1 => exact ⟨rfl,rfl⟩
  | case2 c rest key after heq ih =>
    rw [continues_escaped] at h
    rw [heq] at ih
    exact ⟨(continues_escaped c key).trans (ih h).1,(ih h).2⟩
  | case3 c rest _ hend => exact ⟨rfl,h⟩
  | case4 c rest hne hend key after heq ih =>
    have hc : c ≠ '\\' := by
      rintro rfl
      rw [rest_eq_nil_of_lone hne rfl] at h
      cases h
    rw [continues_cons hc] at h
    rw [heq] at ih
    exact ⟨(continues_cons hc key).trans (ih h).1,(ih h).2⟩

lemma continues_rawValue {after : List Char} (h : continues after = false) :
    continues (rawValue after) = false := by
  rw [← continues_dropBlanks] at h
  unfold rawValue
  split
  · rename_i rest heq
    rwa [continues_dropBlanks, ← continues_cons (c := '=') (by decide), ← heq]
  · rename_i rest heq
    rwa [continues_dropBlanks, ← continues_cons (c := ':') (by decide), ← heq]
  · exact h

/-- A line that goes on is left with an even number of backslashes when it loses its last one. -/
lemma continues_dropLast {cs : List Char} (h : continues cs = true) :
    continues cs.dropLast = false := by
  rcases List.eq_nil_or_concat cs with rfl | ⟨init,c,rfl⟩
  · cases h
  · rw [List.concat_eq_append, continues_append_singleton, Bool.and_eq_true,
      Bool.not_eq_true'] at h
    rw [List.concat_eq_append, List.dropLast_concat]
    exact h.2

/-- A pending entry has lost the backslash by which it goes on, so that no entry has one open. -/
lemma closed_of_mem_collect {pending : Option LogicalLine} {n : Nat} {raws : List (List Char)}
    (hp : ∀ entry ∈ pending, entry.Closed) : ∀ line ∈ collect pending n raws, line.Closed := by
  fun_induction collect pending n raws with
  | case1 pending n => simpa using hp
  | case2 pending n raw rest htake ih => exact ih (by simp)
  | case3 pending n raw rest entry htake hc ih =>
    refine ih fun e he => ?_
    obtain rfl := Option.some.inj he
    exact continues_dropLast hc
  | case4 pending n raw rest entry htake hc ih =>
    rw [List.forall_mem_cons]
    exact ⟨by simpa [LogicalLine.Closed] using hc,ih (by simp)⟩

lemma closed_of_mem_logicalLines {text : List Char} :
    ∀ line ∈ logicalLines text, line.Closed := closed_of_mem_collect (by simp)

lemma splitEntry_eq_ok_iff {line : LogicalLine} {key value : String} :
    splitEntry line = .ok (key,value) ↔
      unescape line.rawKey = some key.toList ∧ unescape line.rawValue = some value.toList := by
  have hchars : ∀ (cs : List Char) (s : String), String.ofList cs = s ↔ cs = s.toList := by
    intro cs s
    refine ⟨fun h => ?_,fun h => ?_⟩
    · rw [← h, String.toList_ofList]
    · rw [h, String.ofList_toList]
  simp only [LogicalLine.rawKey, LogicalLine.rawValue, splitEntry]
  generalize unescape (splitKey line.text).1 = k
  generalize unescape (rawValue (splitKey line.text).2) = v
  cases k <;> cases v <;> simp [hchars]

lemma splitEntry_eq_error_iff {line : LogicalLine} {e : PropertiesError} :
    splitEntry line = .error e ↔
      (unescape line.rawKey = none ∨ unescape line.rawValue = none) ∧
        e = .malformedEscape line.number := by
  simp only [LogicalLine.rawKey, LogicalLine.rawValue, splitEntry]
  generalize unescape (splitKey line.text).1 = k
  generalize unescape (rawValue (splitKey line.text).2) = v
  cases k <;> cases v <;> simp [eq_comm]

lemma splitEntry_spec {line : LogicalLine} (h : line.Closed) :
    (∃ pair, splitEntry line = .ok pair ∧ line.Reads TakenUnit pair ∧
      line.WellEscaped TakenUnit) ∨
    splitEntry line = .error (.malformedEscape line.number) ∧ ¬ line.WellEscaped TakenUnit := by
  have hkey : continues line.rawKey = false := (continues_splitKey h).1
  have hvalue : continues line.rawValue = false := continues_rawValue (continues_splitKey h).2
  rcases unescape_spec hkey with ⟨key,hk,hkd,hkn⟩ | ⟨hk,hkn⟩
  · rcases unescape_spec hvalue with ⟨value,hv,hvd,hvn⟩ | ⟨hv,hvn⟩
    · refine .inl ⟨(String.ofList key,String.ofList value),?_,?_,hkn,hvn⟩
      · rw [splitEntry_eq_ok_iff, String.toList_ofList, String.toList_ofList]
        exact ⟨hk,hv⟩
      · rw [LogicalLine.Reads, String.toList_ofList, String.toList_ofList]
        exact ⟨hkd,hvd⟩
    · exact .inr ⟨splitEntry_eq_error_iff.2 ⟨.inr hv,rfl⟩,fun hw => hvn hw.2⟩
  · exact .inr ⟨splitEntry_eq_error_iff.2 ⟨.inl hk,rfl⟩,fun hw => hkn hw.1⟩

/-- Lines are read one after the other, up to the first that is not well escaped. -/
lemma ofLines_spec {lines : List LogicalLine} (hl : ∀ line ∈ lines, line.Closed) (source : Source) :
    (∃ pairs, Source.ofLines source lines = .ok (pairs.foldl (fun d (k,v) => d.insert k v) source) ∧
      List.Forall₂ (LogicalLine.Reads TakenUnit) lines pairs ∧
      ∀ line ∈ lines, line.WellEscaped TakenUnit) ∨
    ∃ line ∈ lines, Source.ofLines source lines = .error (.malformedEscape line.number) ∧
      ¬ line.WellEscaped TakenUnit := by
  induction lines generalizing source with
  | nil => exact .inl ⟨[],rfl,.nil,by simp⟩
  | cons line rest ih =>
    rw [List.forall_mem_cons] at hl
    rcases splitEntry_spec hl.1 with ⟨⟨key,value⟩,hok,hreads,hwell⟩ | ⟨herr,hnot⟩
    · rcases ih hl.2 (source.insert key value) with
        ⟨pairs,hrest,hpairs,hall⟩ | ⟨bad,hbad,herr,hnot⟩
      · refine .inl ⟨(key,value) :: pairs,?_,.cons hreads hpairs,?_⟩
        · simp only [Source.ofLines, hok, hrest, List.foldl_cons]
        · exact List.forall_mem_cons.2 ⟨hwell,hall⟩
      · exact .inr ⟨bad,List.mem_cons_of_mem line hbad,by simp only [Source.ofLines, hok, herr],hnot⟩
    · exact .inr ⟨line,List.mem_cons_self,by simp only [Source.ofLines, herr],hnot⟩

/-- The parser reads a text as it takes units. -/
theorem parsedBy_takenUnit (text : String) : ParsedBy TakenUnit text := by
  have hclosed : ∀ line ∈ logicalLines text.toList, line.Closed := closed_of_mem_logicalLines
  rcases ofLines_spec hclosed .empty with ⟨pairs,hok,hpairs,hall⟩ | ⟨line,hmem,herr,hnot⟩
  · have hparse : Source.parse text = .ok (.ofList pairs) := hok
    refine ⟨iff_of_true ⟨_,hparse⟩ hall,fun source hs => ?_,fun e he => ?_⟩
    · exact ⟨pairs,(Except.ok.inj (hparse.symm.trans hs)).symm,hpairs⟩
    · rw [hparse] at he
      cases he
  · have hparse : Source.parse text = .error (.malformedEscape line.number) := herr
    refine ⟨iff_of_false ?_ fun hall => hnot (hall line hmem),fun source hs => ?_,fun e he => ?_⟩
    · rintro ⟨source,hs⟩
      rw [hparse] at hs
      cases hs
    · rw [hparse] at hs
      cases hs
    · exact ⟨line,hmem,hnot,(Except.error.inj (hparse.symm.trans he)).symm⟩

lemma LogicalLine.Reads.spellsUnit {line : LogicalLine} {pair : String × String}
    (h : line.Reads TakenUnit pair) (hn : ¬ line.Signed) : line.Reads SpellsUnit pair :=
  ⟨h.1.spellsUnit fun t ht hs => hn ⟨t,.inl ht,hs⟩,h.2.spellsUnit fun t ht hs => hn ⟨t,.inr ht,hs⟩⟩

/-- What the parser takes, and how far that is what the format says. The parser follows its own
naming of units on every text. It follows the naming by four hexadecimal digits on exactly the texts
that have no escape with a sign, or are malformed anyway. -/
theorem parse_accepts_escapes (text : String) :
    ParsedBy TakenUnit text ∧
    (ParsedBy SpellsUnit text ↔
      (∀ line ∈ logicalLines text.toList, ¬ line.Signed) ∨
      ∃ line ∈ logicalLines text.toList, ¬ line.WellEscaped TakenUnit) := by
  have htaken := parsedBy_takenUnit text
  refine ⟨htaken,fun hdigits => ?_,?_⟩
  · by_cases hall : ∀ line ∈ logicalLines text.toList, line.WellEscaped TakenUnit
    · refine .inl fun line hline => ?_
      have hstrict := hdigits.accepted.1 (htaken.accepted.2 hall) line hline
      exact (wellEscaped_spellsUnit_iff.1 hstrict).2
    · push Not at hall
      exact .inr hall
  · rintro (hunsigned | hbad)
    · have hiff : ∀ line ∈ logicalLines text.toList,
          (line.WellEscaped SpellsUnit ↔ line.WellEscaped TakenUnit) := fun line hline => by
        rw [wellEscaped_spellsUnit_iff, and_iff_left (hunsigned line hline)]
      refine ⟨htaken.accepted.trans (forall₂_congr fun line hline => (hiff line hline).symm),?_,?_⟩
      · intro source hs
        obtain ⟨pairs,rfl,hpairs⟩ := htaken.decoded source hs
        have hboth := (List.forall₂_and_left _ _).2 ⟨hunsigned,hpairs⟩
        exact ⟨pairs,rfl,hboth.imp fun line pair h => h.2.spellsUnit h.1⟩
      · intro e he
        obtain ⟨line,hline,hnot,rfl⟩ := htaken.refused e he
        exact ⟨line,hline,fun h => hnot ((hiff line hline).1 h),rfl⟩
    · obtain ⟨bad,hbad,hnot⟩ := hbad
      have hfails : ¬ ∃ source, Source.parse text = .ok source := fun h =>
        hnot (htaken.accepted.1 h bad hbad)
      refine ⟨iff_of_false hfails fun h => ?_,fun source hs => absurd ⟨source,hs⟩ hfails,?_⟩
      · exact hnot (wellEscaped_spellsUnit_iff.1 (h bad hbad)).1
      · intro e he
        obtain ⟨line,hline,hnot,rfl⟩ := htaken.refused e he
        exact ⟨line,hline,fun h => hnot (wellEscaped_spellsUnit_iff.1 h).1,rfl⟩

/-- An escape with a sign and three digits is read, though it is none by four digits. -/
theorem parse_accepts_sign :
    Source.parse "x=\\u+041\n" = .ok (.ofList [("x","A")]) ∧
    ¬ ParsedBy SpellsUnit "x=\\u+041\n" := by
  have hparse : Source.parse "x=\\u+041\n" = .ok (.ofList [("x","A")]) := by decide +kernel
  refine ⟨hparse,fun h => ?_⟩
  have hline : (⟨"x=\\u+041".toList,1⟩ : LogicalLine) ∈ logicalLines "x=\\u+041\n".toList := by
    decide +kernel
  have hwell := (h.accepted.1 ⟨_,hparse⟩ _ hline).2
  have hsigned : SpellsSigned 65 "\\u+041".toList :=
    ⟨_,_,_,rfl,by decide,by decide,by decide⟩
  exact (wellNamed_spellsUnit_iff.1 hwell).2 _ List.mem_cons_self ⟨_,_,hsigned,List.prefix_rfl⟩

end LayeredSettings.Properties
