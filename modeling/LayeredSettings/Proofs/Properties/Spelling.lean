import Mathlib.Tactic.Common
import Mathlib.Tactic.IntervalCases
import LayeredSettings.Properties.Line
import LayeredSettings.Properties.Source

/-! How a character may be spelled in a properties text, and how a spelled text is read. Every
spelling stands for one character, wherever it occurs. -/
namespace LayeredSettings.Properties

/-- A hexadecimal digit of a number below sixteen, in either case. -/
def IsDigit (n : Nat) (d : Char) : Prop :=
  "0123456789abcdef".toList[n]? = some d ∨ "0123456789ABCDEF".toList[n]? = some d

instance (n : Nat) (d : Char) : Decidable (IsDigit n d) := inferInstanceAs (Decidable (_ ∨ _))

/-- The escape of a UTF-16 unit: four digits after a backslash and `u`. -/
def SpellsUnit (unit : Nat) (w : List Char) : Prop :=
  ∃ a b c d, w = ['\\','u',a,b,c,d] ∧ IsDigit (unit / 4096) a ∧ IsDigit (unit / 256 % 16) b ∧
    IsDigit (unit / 16 % 16) c ∧ IsDigit (unit % 16) d

/-- The spellings of a character: itself where that is plain, a backslash before it, the letter of a
control character, or its one or two UTF-16 units. -/
inductive Spells (plain : Char → Prop) : Char → List Char → Prop
  | itself {c : Char} (h : plain c) : Spells plain c [c]
  | escaped {c : Char} (h : c ∉ ['t','n','r','f','u','\r','\n']) : Spells plain c ['\\',c]
  | tab : Spells plain '\t' ['\\','t']
  | lineFeed : Spells plain '\n' ['\\','n']
  | carriageReturn : Spells plain '\r' ['\\','r']
  | formFeed : Spells plain '\x0c' ['\\','f']
  | unit {c : Char} {w : List Char} (h : SpellsUnit c.toNat w) : Spells plain c w
  | pair {c : Char} {v w : List Char} (h : 0x10000 ≤ c.toNat)
      (hv : SpellsUnit (0xD800 + (c.toNat - 0x10000) / 0x400) v)
      (hw : SpellsUnit (0xDC00 + (c.toNat - 0x10000) % 0x400) w) : Spells plain c (v ++ w)

/-- Characters spelled one after the other, the first of them under a condition of its own. -/
inductive SpellsText (later : Char → Prop) : (Char → Prop) → List Char → List Char → Prop
  | nil {first : Char → Prop} : SpellsText later first [] []
  | cons {first : Char → Prop} {c : Char} {w cs ws : List Char} (h : Spells first c w)
      (hs : SpellsText later later cs ws) : SpellsText later first (c :: cs) (w ++ ws)

/-- Space, tab and form feed. -/
def IsBlank (c : Char) : Prop := c = ' ' ∨ c = '\t' ∨ c = '\x0c'

instance (c : Char) : Decidable (IsBlank c) := inferInstanceAs (Decidable (_ ∨ _))

@[simp] theorem isBlank_eq_true_iff {c : Char} : isBlank c = true ↔ IsBlank c := by
  simp [isBlank, IsBlank, or_assoc]

@[simp] theorem isBlank_eq_false_iff {c : Char} : isBlank c = false ↔ ¬ IsBlank c := by
  rw [← isBlank_eq_true_iff, Bool.not_eq_true]

/-- What may stand for itself anywhere. -/
def Plain (c : Char) : Prop := c ≠ '\\' ∧ c ≠ '\r' ∧ c ≠ '\n'

def PlainInKey (c : Char) : Prop := Plain c ∧ c ≠ '=' ∧ c ≠ ':' ∧ ¬ IsBlank c

instance (c : Char) : Decidable (PlainInKey c) := inferInstanceAs (Decidable ((_ ∧ _) ∧ _))

def PlainAtKey (c : Char) : Prop := PlainInKey c ∧ c ≠ '#' ∧ c ≠ '!'

def PlainAtValue (c : Char) : Prop := Plain c ∧ ¬ IsBlank c

theorem Spells.mono {plain wider : Char → Prop} (h : ∀ c, plain c → wider c) {c : Char}
    {w : List Char} (hw : Spells plain c w) : Spells wider c w := by
  cases hw with
  | itself hp => exact .itself (h c hp)
  | escaped he => exact .escaped he
  | tab => exact .tab
  | lineFeed => exact .lineFeed
  | carriageReturn => exact .carriageReturn
  | formFeed => exact .formFeed
  | unit hu => exact .unit hu
  | pair hc hv hw => exact .pair hc hv hw

lemma IsDigit.spec {n : Nat} {d : Char} (h : IsDigit n d) :
    n < 16 ∧ hexValue? d = some n ∧ d ≠ '+' ∧ PlainInKey d := by
  have hn : n < 16 := by
    rcases h with h | h
    · exact (List.getElem?_eq_some_iff.1 h).1
    · exact (List.getElem?_eq_some_iff.1 h).1
  refine ⟨hn,?_⟩
  rcases h with h | h
  · interval_cases n <;> cases h <;> decide
  · interval_cases n <;> cases h <;> decide

lemma SpellsUnit.spec {unit : Nat} {w : List Char} (h : SpellsUnit unit w) :
    ∃ a b c d, w = ['\\','u',a,b,c,d] ∧ unit? a b c d = some unit ∧
      PlainInKey a ∧ PlainInKey b ∧ PlainInKey c ∧ PlainInKey d := by
  obtain ⟨a,b,c,d,rfl,ha,hb,hc,hd⟩ := h
  obtain ⟨hlt,hva,hplus,ha⟩ := ha.spec
  obtain ⟨-,hvb,-,hb⟩ := hb.spec
  obtain ⟨-,hvc,-,hc⟩ := hc.spec
  obtain ⟨-,hvd,-,hd⟩ := hd.spec
  refine ⟨a,b,c,d,rfl,?_,ha,hb,hc,hd⟩
  have hsum : ((unit / 4096 * 16 + unit / 256 % 16) * 16 + unit / 16 % 16) * 16 + unit % 16 =
      unit := by omega
  simp [unit?, hplus, hva, hvb, hvc, hvd, hsum]

lemma not_surrogate (c : Char) :
    isHighSurrogate c.toNat = false ∧ isLowSurrogate c.toNat = false := by
  have hc : c.toNat < 0xD800 ∨ 0xDFFF < c.toNat ∧ c.toNat < 0x110000 := c.valid
  simp only [isHighSurrogate, isLowSurrogate, Bool.and_eq_false_iff, decide_eq_false_iff_not]
  omega

/-- A character beyond the first plane is joined from its two units. -/
lemma pairedChar_units {c : Char} (h : 0x10000 ≤ c.toNat) :
    isHighSurrogate (0xD800 + (c.toNat - 0x10000) / 0x400) = true ∧
    isLowSurrogate (0xDC00 + (c.toNat - 0x10000) % 0x400) = true ∧
    pairedChar (0xD800 + (c.toNat - 0x10000) / 0x400) (0xDC00 + (c.toNat - 0x10000) % 0x400) =
      c := by
  have hc : c.toNat < 0xD800 ∨ 0xDFFF < c.toNat ∧ c.toNat < 0x110000 := c.valid
  refine ⟨?_,?_,?_⟩
  · simp only [isHighSurrogate, Bool.and_eq_true, decide_eq_true_eq]
    omega
  · simp only [isLowSurrogate, Bool.and_eq_true, decide_eq_true_eq]
    omega
  · have hsum : 0x10000 + (0xD800 + (c.toNat - 0x10000) / 0x400 - 0xD800) * 0x400 +
        (0xDC00 + (c.toNat - 0x10000) % 0x400 - 0xDC00) = c.toNat := by omega
    rw [pairedChar, hsum, Char.ofNat_toNat]

lemma unescape_plain {c : Char} (h : c ≠ '\\') (rest : List Char) :
    unescape (c :: rest) = (unescape rest).map (c :: ·) := by
  rw [unescape] <;> simp_all

lemma unescape_escaped {c : Char} (h : c ∉ ['t','n','r','f','u','\r','\n']) (rest : List Char) :
    unescape ('\\' :: c :: rest) = (unescape rest).map (c :: ·) := by
  rw [unescape] <;> simp_all

/-- Reading one spelling takes in its character and goes on after it. -/
theorem Spells.unescape_append {c : Char} {w : List Char} (h : Spells Plain c w)
    (rest : List Char) : unescape (w ++ rest) = (unescape rest).map (c :: ·) := by
  cases h with
  | itself hp => exact unescape_plain hp.1 rest
  | escaped he => exact unescape_escaped he rest
  | tab => rfl
  | lineFeed => rfl
  | carriageReturn => rfl
  | formFeed => rfl
  | unit hu =>
    obtain ⟨a,b,x,y,rfl,hvalue,-⟩ := hu.spec
    obtain ⟨hhigh,hlow⟩ := not_surrogate c
    simp only [List.cons_append, List.nil_append]
    rw [unescape]
    simp [hvalue, hhigh, hlow]
  | pair hc hv hw =>
    obtain ⟨a,b,x,y,rfl,hv,-⟩ := hv.spec
    obtain ⟨a',b',x',y',rfl,hw,-⟩ := hw.spec
    obtain ⟨hhigh,hlow,hpair⟩ := pairedChar_units hc
    simp only [List.cons_append, List.nil_append]
    rw [unescape]
    simp [hv, hw, hhigh, hlow, hpair]

/-- A spelled text is read back. -/
theorem SpellsText.unescape_eq {later first : Char → Prop} {cs w : List Char}
    (h : SpellsText later first cs w) (hf : ∀ c, first c → Plain c) (hl : ∀ c, later c → Plain c) :
    unescape w = some cs := by
  induction h with
  | nil => rfl
  | cons hc _ ih => rw [(hc.mono hf).unescape_append, ih hl, Option.map_some]

lemma splitKey_cons {c : Char} (hc : c ≠ '\\') (heq : c ≠ '=') (hcolon : c ≠ ':')
    (hblank : ¬ IsBlank c) (rest : List Char) :
    splitKey (c :: rest) = (c :: (splitKey rest).1,(splitKey rest).2) := by
  rw [splitKey] <;> simp_all

lemma splitKey_plain {c : Char} (h : PlainInKey c) (rest : List Char) :
    splitKey (c :: rest) = (c :: (splitKey rest).1,(splitKey rest).2) :=
  splitKey_cons h.1.1 h.2.1 h.2.2.1 h.2.2.2 rest

/-- A key ends at a blank or a separator. -/
lemma splitKey_of_ends {c : Char} (h : (c = '=' ∨ c = ':') ∨ IsBlank c) (rest : List Char) :
    splitKey (c :: rest) = ([],c :: rest) := by
  have hends : (c == '=' || c == ':' || isBlank c) = true := by simpa using h
  rw [splitKey]
  · exact if_pos hends
  · rintro d tail rfl -
    cases hends

lemma splitKey_escaped (c : Char) (rest : List Char) :
    splitKey ('\\' :: c :: rest) = ('\\' :: c :: (splitKey rest).1,(splitKey rest).2) := rfl

lemma SpellsUnit.splitKey_append {unit : Nat} {w : List Char} (h : SpellsUnit unit w)
    (rest : List Char) : splitKey (w ++ rest) = (w ++ (splitKey rest).1,(splitKey rest).2) := by
  obtain ⟨a,b,c,d,rfl,-,ha,hb,hc,hd⟩ := h.spec
  simp only [List.cons_append, List.nil_append, splitKey_escaped, splitKey_plain ha,
    splitKey_plain hb, splitKey_plain hc, splitKey_plain hd]

/-- No spelling in a key holds a character that could end the key. -/
theorem Spells.splitKey_append {c : Char} {w : List Char} (h : Spells PlainInKey c w)
    (rest : List Char) : splitKey (w ++ rest) = (w ++ (splitKey rest).1,(splitKey rest).2) := by
  cases h with
  | itself hp => exact splitKey_plain hp rest
  | escaped => rfl
  | tab => rfl
  | lineFeed => rfl
  | carriageReturn => rfl
  | formFeed => rfl
  | unit hu => exact hu.splitKey_append rest
  | pair _ hv hw =>
    rw [List.append_assoc, hv.splitKey_append, hw.splitKey_append, List.append_assoc]

/-- A spelled key ends where what follows it begins. -/
theorem SpellsText.splitKey_append {later first : Char → Prop} {cs w : List Char}
    (h : SpellsText later first cs w) (hf : ∀ c, first c → PlainInKey c)
    (hl : ∀ c, later c → PlainInKey c) {after : List Char} (ha : splitKey after = ([],after)) :
    splitKey (w ++ after) = (w,after) := by
  induction h with
  | nil => exact ha
  | cons hc _ ih => rw [List.append_assoc, (hc.mono hf).splitKey_append, ih hl]

theorem Spells.notMem_of_lineEnd {c : Char} {w : List Char} (h : Spells Plain c w) :
    '\n' ∉ w ∧ '\r' ∉ w := by
  have hunit {unit : Nat} {v : List Char} (hv : SpellsUnit unit v) : '\n' ∉ v ∧ '\r' ∉ v := by
    obtain ⟨a,b,x,y,rfl,-,⟨ha,-⟩,⟨hb,-⟩,⟨hx,-⟩,⟨hy,-⟩⟩ := hv.spec
    simp [ha.2.1.symm, hb.2.1.symm, hx.2.1.symm, hy.2.1.symm, ha.2.2.symm, hb.2.2.symm,
      hx.2.2.symm, hy.2.2.symm]
  cases h with
  | itself hp => simp [hp.2.1.symm, hp.2.2.symm]
  | escaped he => simp_all [eq_comm]
  | tab => decide
  | lineFeed => decide
  | carriageReturn => decide
  | formFeed => decide
  | unit hu => exact hunit hu
  | pair _ hv hw =>
    simp only [List.mem_append, not_or]
    exact ⟨⟨(hunit hv).1,(hunit hw).1⟩,(hunit hv).2,(hunit hw).2⟩

theorem SpellsText.notMem_of_lineEnd {later first : Char → Prop} {cs w : List Char}
    (h : SpellsText later first cs w) (hf : ∀ c, first c → Plain c)
    (hl : ∀ c, later c → Plain c) : '\n' ∉ w ∧ '\r' ∉ w := by
  induction h with
  | nil => simp
  | cons hc _ ih =>
    obtain ⟨hn,hr⟩ := (hc.mono hf).notMem_of_lineEnd
    obtain ⟨hn',hr'⟩ := ih hl
    simp only [List.mem_append, not_or]
    exact ⟨⟨hn,hn'⟩,hr,hr'⟩

/-- A line that is one character longer goes on exactly when this is a backslash that ends no
escape. -/
lemma continues_append_singleton (cs : List Char) (c : Char) :
    continues (cs ++ [c]) = (c == '\\' && !continues cs) := by
  simp only [continues, trailingBackslashes, List.reverse_append, List.reverse_singleton,
    List.singleton_append, List.takeWhile_cons]
  by_cases h : c = '\\'
  · simp only [h, beq_self_eq_true, if_true, List.length_cons, Bool.true_and]
    rcases Nat.mod_two_eq_zero_or_one (cs.reverse.takeWhile (· == '\\')).length with hn | hn
    · simp [Nat.add_mod, hn]
    · simp [Nat.add_mod, hn]
  · simp [h]

lemma continues_append_of_ne {c : Char} (h : c ≠ '\\') (cs : List Char) :
    continues (cs ++ [c]) = false := by simp [continues_append_singleton, h]

lemma continues_append_escaped {cs : List Char} (h : continues cs = false) (c : Char) :
    continues (cs ++ ['\\',c]) = false := by
  rw [List.append_cons, continues_append_singleton, continues_append_singleton, h]
  simp

theorem Spells.continues_append {c : Char} {w cs : List Char} (h : Spells Plain c w)
    (hcs : continues cs = false) : continues (cs ++ w) = false := by
  have hunit {unit : Nat} {v : List Char} (hv : SpellsUnit unit v) (cs : List Char) :
      continues (cs ++ v) = false := by
    obtain ⟨a,b,x,y,rfl,-,-,-,-,hy⟩ := hv.spec
    have happ : cs ++ ['\\','u',a,b,x,y] = (cs ++ ['\\','u',a,b,x]) ++ [y] := by simp
    rw [happ, continues_append_of_ne hy.1.1]
  cases h with
  | itself hp => exact continues_append_of_ne hp.1 cs
  | escaped => exact continues_append_escaped hcs _
  | tab => exact continues_append_escaped hcs _
  | lineFeed => exact continues_append_escaped hcs _
  | carriageReturn => exact continues_append_escaped hcs _
  | formFeed => exact continues_append_escaped hcs _
  | unit hu => exact hunit hu cs
  | pair _ hv hw =>
    rw [← List.append_assoc]
    exact hunit hw _

theorem SpellsText.continues_append {later first : Char → Prop} {cs w before : List Char}
    (h : SpellsText later first cs w) (hf : ∀ c, first c → Plain c) (hl : ∀ c, later c → Plain c)
    (hb : continues before = false) : continues (before ++ w) = false := by
  induction h generalizing before with
  | nil => rwa [List.append_nil]
  | cons hc _ ih =>
    rw [← List.append_assoc]
    exact ih hl ((hc.mono hf).continues_append hb)

/-- A spelling begins with its character, if that is plain, or with a backslash. -/
lemma Spells.head? {plain : Char → Prop} {c : Char} {w : List Char} (h : Spells plain c w) :
    ∃ d rest, w = d :: rest ∧ (plain d ∨ d = '\\') := by
  cases h with
  | itself hp => exact ⟨c,[],rfl,.inl hp⟩
  | unit hu =>
    obtain ⟨_,_,_,_,rfl,-⟩ := hu
    exact ⟨_,_,rfl,.inr rfl⟩
  | pair _ hv =>
    obtain ⟨_,_,_,_,rfl,-⟩ := hv
    exact ⟨_,_,rfl,.inr rfl⟩
  | _ => exact ⟨_,_,rfl,.inr rfl⟩

/-- Every character has a spelling that is allowed anywhere: by its units. -/
theorem exists_spells (plain : Char → Prop) (c : Char) : ∃ w, Spells plain c w := by
  have hdigit : ∀ n < 16, ∃ d, IsDigit n d := by
    intro n hn
    exact ⟨_,.inl (List.getElem?_eq_getElem (l := "0123456789abcdef".toList) hn)⟩
  have hunit : ∀ unit < 0x10000, ∃ w, SpellsUnit unit w := by
    intro unit hu
    obtain ⟨a,ha⟩ := hdigit (unit / 4096) (by omega)
    obtain ⟨b,hb⟩ := hdigit (unit / 256 % 16) (by omega)
    obtain ⟨x,hx⟩ := hdigit (unit / 16 % 16) (by omega)
    obtain ⟨y,hy⟩ := hdigit (unit % 16) (by omega)
    exact ⟨_,a,b,x,y,rfl,ha,hb,hx,hy⟩
  have hc : c.toNat < 0xD800 ∨ 0xDFFF < c.toNat ∧ c.toNat < 0x110000 := c.valid
  by_cases h : c.toNat < 0x10000
  · obtain ⟨w,hw⟩ := hunit c.toNat h
    exact ⟨w,.unit hw⟩
  · obtain ⟨v,hv⟩ := hunit (0xD800 + (c.toNat - 0x10000) / 0x400) (by omega)
    obtain ⟨w,hw⟩ := hunit (0xDC00 + (c.toNat - 0x10000) % 0x400) (by omega)
    exact ⟨v ++ w,.pair (by omega) hv hw⟩

theorem exists_spellsText (later first : Char → Prop) (cs : List Char) :
    ∃ w, SpellsText later first cs w := by
  induction cs generalizing first with
  | nil => exact ⟨[],.nil⟩
  | cons c cs ih =>
    obtain ⟨w,hw⟩ := exists_spells first c
    obtain ⟨ws,hws⟩ := ih later
    exact ⟨w ++ ws,.cons hw hws⟩

end LayeredSettings.Properties
