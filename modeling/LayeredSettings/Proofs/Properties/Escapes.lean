import LayeredSettings.Proofs.Dictionary
import LayeredSettings.Proofs.Properties.Spelling

/-! Which `\u` escapes are taken in a raw text, and what they contribute. How a unit may be named is
a parameter: by four hexadecimal digits, or by whatever the parser takes, which is also a plus sign
and three digits. -/
namespace LayeredSettings.Properties

/-- The escape of a unit by a plus sign and three digits. -/
def SpellsSigned (unit : Nat) (w : List Char) : Prop :=
  ∃ b c d, w = ['\\','u','+',b,c,d] ∧ IsDigit (unit / 256) b ∧ IsDigit (unit / 16 % 16) c ∧
    IsDigit (unit % 16) d

/-- The escapes of a unit that the parser takes. -/
def TakenUnit (unit : Nat) (w : List Char) : Prop := SpellsUnit unit w ∨ SpellsSigned unit w

/-- Every `\u` escape of a raw text, each with all that follows it. -/
def escapes : List Char → List (List Char)
  | [] => []
  | '\\' :: c :: rest => if c = 'u' then ('\\' :: c :: rest) :: escapes rest else escapes rest
  | _ :: rest => escapes rest

/-- Escapes one after the other that all name characters: a unit that is no surrogate, or a high
surrogate with the escape of a low one directly after it. -/
inductive WellNamed (names : Nat → List Char → Prop) : List (List Char) → Prop
  | nil : WellNamed names []
  | single {unit : Nat} {w t : List Char} {ts : List (List Char)} (starts : w <+: t)
      (h : names unit w) (hhigh : isHighSurrogate unit = false)
      (hlow : isLowSurrogate unit = false) (hs : WellNamed names ts) : WellNamed names (t :: ts)
  | pair {high low : Nat} {v w t u : List Char} {ts : List (List Char)} (joins : t = v ++ u)
      (starts : w <+: u) (hv : names high v) (hhigh : isHighSurrogate high = true)
      (hw : names low w) (hlow : isLowSurrogate low = true) (hs : WellNamed names ts) :
      WellNamed names (t :: u :: ts)

/-- The letters that stand for control characters after a backslash. -/
def controlLetters : List (Char × Char) := [('t','\t'),('n','\n'),('r','\r'),('f','\x0c')]

/-- The pieces of a raw text that stand for a character: itself, a letter or any other character
after a backslash, and the escapes of its one or two units. -/
inductive StandsFor (names : Nat → List Char → Prop) (c : Char) : List Char → Prop
  | itself (h : c ≠ '\\') : StandsFor names c [c]
  | control {letter : Char} (h : (letter,c) ∈ controlLetters) : StandsFor names c ['\\',letter]
  | escaped (hu : c ≠ 'u') (h : c ∉ controlLetters.map (·.1)) : StandsFor names c ['\\',c]
  | unit {w : List Char} (h : names c.toNat w) : StandsFor names c w
  | pair {v w : List Char} (h : 0x10000 ≤ c.toNat)
      (hv : names (0xD800 + (c.toNat - 0x10000) / 0x400) v)
      (hw : names (0xDC00 + (c.toNat - 0x10000) % 0x400) w) : StandsFor names c (v ++ w)

/-- What a raw text stands for, piece by piece. -/
inductive Decodes (names : Nat → List Char → Prop) : List Char → List Char → Prop
  | nil : Decodes names [] []
  | cons {c : Char} {w raw out : List Char} (h : StandsFor names c w)
      (hs : Decodes names raw out) : Decodes names (w ++ raw) (c :: out)

/-- What is appended to a text without an open backslash decides alone whether the line goes on. -/
lemma continues_append {before : List Char} (h : continues before = false) (cs : List Char) :
    continues (before ++ cs) = continues cs := by
  induction cs using List.reverseRecOn with
  | nil =>
    rw [List.append_nil, h]
    rfl
  | append_singleton cs c ih =>
    rw [← List.append_assoc, continues_append_singleton, continues_append_singleton, ih]

lemma continues_cons {c : Char} (h : c ≠ '\\') (cs : List Char) :
    continues (c :: cs) = continues cs :=
  continues_append (continues_append_of_ne h []) cs

lemma continues_escaped (c : Char) (cs : List Char) :
    continues ('\\' :: c :: cs) = continues cs := by
  have hclosed : continues ([] ++ ['\\',c]) = false := continues_append_escaped rfl c
  exact continues_append hclosed cs

lemma escapes_cons {c : Char} (h : c ≠ '\\') (raw : List Char) :
    escapes (c :: raw) = escapes raw := by rw [escapes]; simp [h]

lemma escapes_unit (raw : List Char) :
    escapes ('\\' :: 'u' :: raw) = ('\\' :: 'u' :: raw) :: escapes raw := rfl

lemma escapes_escaped {c : Char} (h : c ≠ 'u') (raw : List Char) :
    escapes ('\\' :: c :: raw) = escapes raw := if_neg h

/-- A backslash with no character to escape is the last character. -/
lemma rest_eq_nil_of_lone {c : Char} {rest : List Char}
    (h : ∀ d tail, c = '\\' → rest = d :: tail → False) (hc : c = '\\') : rest = [] := by
  cases rest with
  | nil => rfl
  | cons d tail => exact (h d tail hc rfl).elim

/-- The escapes of a raw text start where a `u` follows a backslash that no backslash escapes. -/
theorem mem_escapes_iff {raw t : List Char} : t ∈ escapes raw ↔
    ∃ before after, raw = before ++ t ∧ t = '\\' :: 'u' :: after ∧ continues before = false := by
  fun_induction escapes raw with
  | case1 =>
    refine iff_of_false List.not_mem_nil ?_
    rintro ⟨before,after,h,rfl,-⟩
    simp at h
  | case2 rest ih =>
    rw [List.mem_cons, ih]
    constructor
    · rintro (rfl | ⟨before,after,rfl,ht,hb⟩)
      · exact ⟨[],rest,rfl,rfl,rfl⟩
      · exact ⟨'\\' :: 'u' :: before,after,rfl,ht,(continues_escaped 'u' before).trans hb⟩
    · rintro ⟨before,after,h,ht,hb⟩
      rcases before with - | ⟨x,- | ⟨y,before⟩⟩
      · exact .inl h.symm
      · obtain ⟨rfl,-⟩ := List.cons_eq_cons.1 h
        cases hb
      · obtain ⟨rfl,rfl,rfl⟩ : '\\' = x ∧ 'u' = y ∧ rest = before ++ t := by simpa using h
        exact .inr ⟨before,after,rfl,ht,(continues_escaped 'u' before).symm.trans hb⟩
  | case3 c rest hc ih =>
    rw [ih]
    constructor
    · rintro ⟨before,after,rfl,ht,hb⟩
      exact ⟨'\\' :: c :: before,after,rfl,ht,(continues_escaped c before).trans hb⟩
    · rintro ⟨before,after,h,ht,hb⟩
      rcases before with - | ⟨x,- | ⟨y,before⟩⟩
      · rw [ht] at h
        simp [hc] at h
      · obtain ⟨rfl,-⟩ := List.cons_eq_cons.1 h
        cases hb
      · obtain ⟨rfl,rfl,rfl⟩ : '\\' = x ∧ c = y ∧ rest = before ++ t := by simpa using h
        exact ⟨before,after,rfl,ht,(continues_escaped c before).symm.trans hb⟩
  | case4 c rest hne ih =>
    rw [ih]
    have hrest : c = '\\' → rest = [] := rest_eq_nil_of_lone hne
    constructor
    · rintro ⟨before,after,rfl,ht,hb⟩
      refine ⟨c :: before,after,rfl,ht,?_⟩
      rw [continues_cons ?_ before, hb]
      intro hc
      simpa [ht] using hrest hc
    · rintro ⟨before,after,h,ht,hb⟩
      cases before with
      | nil =>
        obtain ⟨rfl,rfl⟩ : c = '\\' ∧ rest = 'u' :: after := by simpa [ht] using h
        simpa using hrest rfl
      | cons x before =>
        obtain ⟨rfl,rfl⟩ := List.cons_eq_cons.1 h
        refine ⟨before,after,rfl,ht,?_⟩
        rwa [continues_cons ?_ before] at hb
        intro hc
        simpa [ht] using hrest hc

example : escapes "\\\\u\\u0041b".toList = ["\\u0041b".toList] := by decide

lemma hexValue?_eq_some_iff {d : Char} {n : Nat} : hexValue? d = some n ↔ IsDigit n d := by
  refine ⟨fun h => ?_,fun h => h.spec.2.1⟩
  have hle {a b : Char} : a ≤ b ↔ a.toNat ≤ b.toNat := Iff.rfl
  simp only [hexValue?, hle] at h
  rw [← Char.ofNat_toNat d]
  generalize d.toNat = m at h ⊢
  split_ifs at h with h₁ h₂ h₃
  all_goals obtain rfl := Option.some.inj h
  · obtain ⟨hlow,hhigh⟩ : 48 ≤ m ∧ m ≤ 57 := h₁
    interval_cases m <;> decide
  · obtain ⟨hlow,hhigh⟩ : 97 ≤ m ∧ m ≤ 102 := h₂
    interval_cases m <;> decide
  · obtain ⟨hlow,hhigh⟩ : 65 ≤ m ∧ m ≤ 70 := h₃
    interval_cases m <;> decide

/-- A unit that is taken is named by four characters, none of which is a backslash. -/
lemma TakenUnit.spec {unit : Nat} {w : List Char} (h : TakenUnit unit w) :
    unit < 0x10000 ∧ ∃ a b c d, w = ['\\','u',a,b,c,d] ∧ unit? a b c d = some unit ∧
      a ≠ '\\' ∧ b ≠ '\\' ∧ c ≠ '\\' ∧ d ≠ '\\' := by
  rcases h with h | ⟨b,c,d,rfl,hb,hc,hd⟩
  · obtain ⟨a,b,c,d,rfl,ha,-⟩ := id h
    obtain ⟨a',b',c',d',heq,hvalue,ha',hb',hc',hd'⟩ := h.spec
    obtain ⟨rfl,rfl,rfl,rfl⟩ : a = a' ∧ b = b' ∧ c = c' ∧ d = d' := by simpa using heq
    have hlt := ha.spec.1
    exact ⟨by omega,_,_,_,_,rfl,hvalue,ha'.1.1,hb'.1.1,hc'.1.1,hd'.1.1⟩
  · obtain ⟨hlt,hvb,-,hb⟩ := hb.spec
    obtain ⟨-,hvc,-,hc⟩ := hc.spec
    obtain ⟨-,hvd,-,hd⟩ := hd.spec
    have hsum : (unit / 256 * 16 + unit / 16 % 16) * 16 + unit % 16 = unit := by omega
    refine ⟨by omega,_,_,_,_,rfl,?_,by decide,hb.1.1,hc.1.1,hd.1.1⟩
    simp [unit?, hvb, hvc, hvd, hsum]

lemma SpellsUnit.of_digits {m x y z : Nat} {a b c d : Char} (ha : IsDigit m a) (hb : IsDigit x b)
    (hc : IsDigit y c) (hd : IsDigit z d) :
    SpellsUnit (((m * 16 + x) * 16 + y) * 16 + z) ['\\','u',a,b,c,d] := by
  have hx := hb.spec.1
  have hy := hc.spec.1
  have hz := hd.spec.1
  have h₁ : (((m * 16 + x) * 16 + y) * 16 + z) / 4096 = m := by omega
  have h₂ : (((m * 16 + x) * 16 + y) * 16 + z) / 256 % 16 = x := by omega
  have h₃ : (((m * 16 + x) * 16 + y) * 16 + z) / 16 % 16 = y := by omega
  have h₄ : (((m * 16 + x) * 16 + y) * 16 + z) % 16 = z := by omega
  exact ⟨a,b,c,d,rfl,by rwa [h₁],by rwa [h₂],by rwa [h₃],by rwa [h₄]⟩

lemma SpellsSigned.of_digits {x y z : Nat} {b c d : Char} (hb : IsDigit x b) (hc : IsDigit y c)
    (hd : IsDigit z d) : SpellsSigned ((x * 16 + y) * 16 + z) ['\\','u','+',b,c,d] := by
  have hy := hc.spec.1
  have hz := hd.spec.1
  have h₁ : ((x * 16 + y) * 16 + z) / 256 = x := by omega
  have h₂ : ((x * 16 + y) * 16 + z) / 16 % 16 = y := by omega
  have h₃ : ((x * 16 + y) * 16 + z) % 16 = z := by omega
  exact ⟨b,c,d,rfl,by rwa [h₁],by rwa [h₂],by rwa [h₃]⟩

lemma unit?_eq_some_iff {a b c d : Char} {unit : Nat} :
    unit? a b c d = some unit ↔ TakenUnit unit ['\\','u',a,b,c,d] := by
  constructor
  · intro h
    simp only [unit?, Option.bind_eq_bind, Option.pure_def] at h
    split_ifs at h with hplus
    · simp only [Option.bind_some, Option.bind_eq_some_iff, Option.some.injEq,
        hexValue?_eq_some_iff, Nat.zero_mul, Nat.zero_add] at h
      obtain ⟨x,hx,y,hy,z,hz,rfl⟩ := h
      rw [hplus]
      exact .inr (.of_digits hx hy hz)
    · simp only [Option.bind_eq_some_iff, Option.some.injEq, hexValue?_eq_some_iff] at h
      obtain ⟨m,hm,x,hx,y,hy,z,hz,rfl⟩ := h
      exact .inl (.of_digits hm hx hy hz)
  · intro h
    obtain ⟨-,a',b',c',d',heq,hvalue,-⟩ := h.spec
    obtain ⟨rfl,rfl,rfl,rfl⟩ : a = a' ∧ b = b' ∧ c = c' ∧ d = d' := by simpa using heq
    exact hvalue

/-- A text can start with one escape of a unit at most. -/
lemma TakenUnit.of_prefix {unit : Nat} {w t : List Char} (h : TakenUnit unit w) (hw : w <+: t) :
    ∃ a b c d rest, w = ['\\','u',a,b,c,d] ∧ t = '\\' :: 'u' :: a :: b :: c :: d :: rest ∧
      unit? a b c d = some unit := by
  obtain ⟨-,a,b,c,d,rfl,hvalue,-⟩ := h.spec
  obtain ⟨rest,rfl⟩ := hw
  exact ⟨a,b,c,d,rest,rfl,rfl,hvalue⟩

lemma TakenUnit.unique {m n : Nat} {v w t : List Char} (hv : TakenUnit m v) (hw : TakenUnit n w)
    (hvt : v <+: t) (hwt : w <+: t) : m = n := by
  obtain ⟨a,b,c,d,rest,rfl,rfl,hm⟩ := hv.of_prefix hvt
  obtain ⟨a',b',c',d',rest',rfl,heq,hn⟩ := hw.of_prefix hwt
  obtain ⟨rfl,rfl,rfl,rfl,-⟩ : a = a' ∧ b = b' ∧ c = c' ∧ d = d' ∧ rest = rest' := by
    simpa using heq
  exact Option.some.inj (hm.symm.trans hn)

/-- The escape of a unit is followed by the escapes of what follows it. -/
lemma TakenUnit.escapes_append {unit : Nat} {w : List Char} (h : TakenUnit unit w)
    (raw : List Char) : escapes (w ++ raw) = (w ++ raw) :: escapes raw := by
  obtain ⟨-,a,b,c,d,rfl,-,ha,hb,hc,hd⟩ := h.spec
  simp only [List.cons_append, List.nil_append, escapes_unit, escapes_cons ha, escapes_cons hb,
    escapes_cons hc, escapes_cons hd]

lemma TakenUnit.continues_append {unit : Nat} {w : List Char} (h : TakenUnit unit w)
    (raw : List Char) : continues (w ++ raw) = continues raw := by
  obtain ⟨-,a,b,c,d,rfl,-,ha,hb,hc,hd⟩ := h.spec
  simp only [List.cons_append, List.nil_append, continues_escaped, continues_cons ha,
    continues_cons hb, continues_cons hc, continues_cons hd]

lemma ne_of_mem_controlLetters {letter c : Char} (h : (letter,c) ∈ controlLetters) :
    letter ≠ 'u' := by
  rintro rfl
  simp [controlLetters] at h

namespace StandsFor

variable {c : Char} {w : List Char}

lemma continues_append (h : StandsFor TakenUnit c w) (raw : List Char) :
    continues (w ++ raw) = continues raw := by
  cases h with
  | itself hc => exact continues_cons hc raw
  | control => exact continues_escaped _ raw
  | escaped => exact continues_escaped c raw
  | unit hu => exact hu.continues_append raw
  | pair _ hv hw => rw [List.append_assoc, hv.continues_append, hw.continues_append]

lemma unescape_append (h : StandsFor TakenUnit c w) (raw : List Char) :
    unescape (w ++ raw) = (unescape raw).map (c :: ·) := by
  cases h with
  | itself hc => exact unescape_plain hc raw
  | control hc =>
    simp only [controlLetters, List.mem_cons, Prod.mk.injEq, List.not_mem_nil, or_false] at hc
    rcases hc with ⟨rfl,rfl⟩ | ⟨rfl,rfl⟩ | ⟨rfl,rfl⟩ | ⟨rfl,rfl⟩
    all_goals rfl
  | escaped hu hc =>
    simp only [List.cons_append, List.nil_append]
    rw [unescape] <;> simp_all [controlLetters]
  | unit hu =>
    obtain ⟨-,a,b,x,y,rfl,hvalue,-⟩ := hu.spec
    obtain ⟨hhigh,hlow⟩ := not_surrogate c
    simp only [List.cons_append, List.nil_append]
    rw [unescape]
    simp [hvalue, hhigh, hlow]
  | pair hc hv hw =>
    obtain ⟨-,a,b,x,y,rfl,hv,-⟩ := hv.spec
    obtain ⟨-,a',b',x',y',rfl,hw,-⟩ := hw.spec
    obtain ⟨hhigh,hlow,hpair⟩ := pairedChar_units hc
    simp only [List.cons_append, List.nil_append]
    rw [unescape]
    simp [hv, hw, hhigh, hlow, hpair]

end StandsFor

/-- The head of well-named escapes names a character, together with the next if that is needed. -/
lemma WellNamed.head {t : List Char} {ts : List (List Char)} (h : WellNamed TakenUnit (t :: ts)) :
    ∃ a b c d rest unit, t = '\\' :: 'u' :: a :: b :: c :: d :: rest ∧
      unit? a b c d = some unit ∧
      (isHighSurrogate unit = false ∧ isLowSurrogate unit = false ∨
        isHighSurrogate unit = true ∧ ∃ e f g h rest' low,
          rest = '\\' :: 'u' :: e :: f :: g :: h :: rest' ∧ unit? e f g h = some low ∧
          isLowSurrogate low = true) := by
  cases h with
  | single starts hu hhigh hlow =>
    obtain ⟨a,b,c,d,rest,rfl,rfl,hvalue⟩ := hu.of_prefix starts
    exact ⟨a,b,c,d,rest,_,rfl,hvalue,.inl ⟨hhigh,hlow⟩⟩
  | pair joins starts hv hhigh hw hlow =>
    obtain ⟨e,f,g,h,rest',rfl,rfl,hlast⟩ := hw.of_prefix starts
    obtain ⟨-,a,b,c,d,rfl,hvalue,-⟩ := hv.spec
    exact ⟨a,b,c,d,_,_,joins,hvalue,.inr ⟨hhigh,e,f,g,h,rest',_,rfl,hlast,hlow⟩⟩

lemma WellNamed.head_unit {a b c d : Char} {rest : List Char}
    (h : WellNamed TakenUnit (escapes ('\\' :: 'u' :: a :: b :: c :: d :: rest))) :
    ∃ unit, unit? a b c d = some unit ∧
      (isHighSurrogate unit = false ∧ isLowSurrogate unit = false ∨
        isHighSurrogate unit = true ∧ ∃ e f g h rest' low,
          rest = '\\' :: 'u' :: e :: f :: g :: h :: rest' ∧ unit? e f g h = some low ∧
          isLowSurrogate low = true) := by
  obtain ⟨a',b',c',d',rest',unit,heq,hvalue,hhead⟩ := h.head
  obtain ⟨rfl,rfl,rfl,rfl,rfl⟩ : a = a' ∧ b = b' ∧ c = c' ∧ d = d' ∧ rest = rest' := by
    simpa using heq
  exact ⟨unit,hvalue,hhead⟩

/-- A piece takes its escapes away from those of the raw text that it stands before. -/
lemma StandsFor.wellNamed_iff {c : Char} {w : List Char} (h : StandsFor TakenUnit c w)
    (raw : List Char) :
    WellNamed TakenUnit (escapes (w ++ raw)) ↔ WellNamed TakenUnit (escapes raw) := by
  cases h with
  | itself hc => rw [List.singleton_append, escapes_cons hc]
  | control hc => exact iff_of_eq (congrArg _ (escapes_escaped (ne_of_mem_controlLetters hc) raw))
  | escaped hu => exact iff_of_eq (congrArg _ (escapes_escaped hu raw))
  | unit hu =>
    obtain ⟨hhigh,hlow⟩ := not_surrogate c
    rw [hu.escapes_append]
    refine ⟨fun h => ?_,.single (List.prefix_append w raw) hu hhigh hlow⟩
    generalize escapes raw = ts at h
    cases h with
    | single _ _ _ _ hs => exact hs
    | @pair high _ v _ _ u _ joins _ hv hhigh' =>
      obtain rfl := hv.unique hu (joins ▸ List.prefix_append v u) (List.prefix_append w raw)
      rw [hhigh] at hhigh'
      cases hhigh'
  | @pair v w hc hv hw =>
    obtain ⟨hhigh,hlow,-⟩ := pairedChar_units hc
    rw [List.append_assoc, hv.escapes_append, hw.escapes_append]
    refine ⟨fun h => ?_,.pair rfl (List.prefix_append w raw) hv hhigh hw hlow⟩
    generalize escapes raw = ts at h
    cases h with
    | single starts hu hhigh' =>
      obtain rfl := hu.unique hv starts (List.prefix_append v _)
      rw [hhigh] at hhigh'
      cases hhigh'
    | pair _ _ _ _ _ _ hs => exact hs

lemma toNat_ofNat {n : Nat} (h : n.isValidChar) : (Char.ofNat n).toNat = n := by
  rw [Char.ofNat, dif_pos h]
  rfl

lemma toNat_ofNat_unit {unit : Nat} (hlt : unit < 0x10000) (hhigh : isHighSurrogate unit = false)
    (hlow : isLowSurrogate unit = false) : (Char.ofNat unit).toNat = unit := by
  simp only [isHighSurrogate, isLowSurrogate, Bool.and_eq_false_iff, decide_eq_false_iff_not]
    at hhigh hlow
  exact toNat_ofNat (by unfold Nat.isValidChar; omega)

lemma toNat_pairedChar {high low : Nat} (hhigh : isHighSurrogate high = true)
    (hlow : isLowSurrogate low = true) : 0x10000 ≤ (pairedChar high low).toNat ∧
      0xD800 + ((pairedChar high low).toNat - 0x10000) / 0x400 = high ∧
      0xDC00 + ((pairedChar high low).toNat - 0x10000) % 0x400 = low := by
  simp only [isHighSurrogate, isLowSurrogate, Bool.and_eq_true, decide_eq_true_eq] at hhigh hlow
  rw [pairedChar, toNat_ofNat (by unfold Nat.isValidChar; omega)]
  omega

/-- How a raw text can begin: there is nothing, or a lone backslash, or a piece that stands for a
character, or a `\u` escape that is not well named, at which the parser stops. -/
inductive Begins : List Char → Prop
  | nothing : Begins []
  | lone : Begins ['\\']
  | piece {c : Char} {w rest : List Char} (h : StandsFor TakenUnit c w) (hw : w ≠ []) :
      Begins (w ++ rest)
  | stuck {raw : List Char} (h : unescape raw = none)
      (hn : ¬ WellNamed TakenUnit (escapes raw)) : Begins raw

theorem begins (raw : List Char) : Begins raw := by
  fun_cases unescape raw with
  | case1 => exact .nothing
  | case2 a b c d rest hunit =>
    refine .stuck (by simp [unescape, hunit]) fun hw => ?_
    obtain ⟨unit,hvalue,-⟩ := hw.head_unit
    simp [hunit] at hvalue
  | case3 a b c d unit hunit hhigh e f g h rest low hlow hislow =>
    obtain ⟨hge,hfirst,hsecond⟩ := toNat_pairedChar hhigh hislow
    refine .piece (w := ['\\','u',a,b,c,d] ++ ['\\','u',e,f,g,h]) (.pair hge ?_ ?_) (by simp)
    · rw [hfirst]
      exact unit?_eq_some_iff.1 hunit
    · rw [hsecond]
      exact unit?_eq_some_iff.1 hlow
  | case4 | case5 | case6 | case7 =>
    -- a surrogate that is not one of a pair
    refine .stuck (by simp_all [unescape]) fun hw => ?_
    obtain ⟨unit,hvalue,hhead⟩ := hw.head_unit
    simp_all
  | case8 a b c d rest unit hunit hhigh hlow =>
    have htaken := unit?_eq_some_iff.1 hunit
    have hnat := toNat_ofNat_unit htaken.spec.1 (by simpa using hhigh) (by simpa using hlow)
    exact .piece (w := ['\\','u',a,b,c,d]) (.unit (hnat.symm ▸ htaken)) (by simp)
  | case9 tail hshort =>
    refine .stuck (by simp_all [unescape]) fun hw => ?_
    obtain ⟨a,b,c,d,rest,-,heq,-⟩ := hw.head
    exact hshort a b c d rest (by simpa using heq)
  | case10 rest => exact .piece (w := ['\\','t']) (.control (c := '\t') (by decide)) (by simp)
  | case11 rest => exact .piece (w := ['\\','n']) (.control (c := '\n') (by decide)) (by simp)
  | case12 rest => exact .piece (w := ['\\','r']) (.control (c := '\r') (by decide)) (by simp)
  | case13 rest => exact .piece (w := ['\\','f']) (.control (c := '\x0c') (by decide)) (by simp)
  | case14 c rest _ hu ht hn hr hf =>
    have hc : c ∉ controlLetters.map (·.1) := by simp_all [controlLetters]
    exact .piece (w := ['\\',c]) (.escaped hu hc) (by simp)
  | case15 => exact .lone
  | case16 c rest _ _ _ _ _ _ hne hend =>
    have hc : c ≠ '\\' := by
      rintro rfl
      cases rest with
      | nil => exact hend rfl rfl
      | cons d rest => exact hne d rest rfl rfl
    exact .piece (w := [c]) (.itself hc) (by simp)

/-- What holds of every raw text is shown piece by piece, up to where unescaping stops. -/
@[elab_as_elim]
theorem pieces_induction {motive : List Char → Prop} (nothing : motive []) (lone : motive ['\\'])
    (piece : ∀ {c : Char} {w rest : List Char}, StandsFor TakenUnit c w → motive rest →
      motive (w ++ rest))
    (stuck : ∀ {raw : List Char}, unescape raw = none → ¬ WellNamed TakenUnit (escapes raw) →
      motive raw) (raw : List Char) : motive raw := by
  -- a piece may be longer than one character, so the induction is on the length
  induction hn : raw.length using Nat.strong_induction_on generalizing raw with
  | _ n ih =>
    subst hn
    cases begins raw with
    | nothing => exact nothing
    | lone => exact lone
    | @piece c w rest h hw =>
      have hlt : rest.length < (w ++ rest).length := by
        have hpos := List.length_pos_iff.2 hw
        rw [List.length_append]
        omega
      exact piece h (ih _ hlt rest rfl)
    | stuck h hnot => exact stuck h hnot

/-- A raw text that leaves no backslash open is unescaped exactly if its escapes are well named,
and it then stands for what comes out. -/
theorem unescape_spec {raw : List Char} (hopen : continues raw = false) :
    (∃ out, unescape raw = some out ∧ Decodes TakenUnit raw out ∧
      WellNamed TakenUnit (escapes raw)) ∨
    unescape raw = none ∧ ¬ WellNamed TakenUnit (escapes raw) := by
  induction raw using pieces_induction with
  | nothing => exact .inl ⟨[],rfl,.nil,.nil⟩
  | lone => cases hopen
  | @piece c w rest h ih =>
    rw [h.continues_append] at hopen
    rw [h.unescape_append, h.wellNamed_iff]
    rcases ih hopen with ⟨out,hout,hdecodes,hnamed⟩ | ⟨hnone,hnot⟩
    · exact .inl ⟨c :: out,by rw [hout]; rfl,.cons h hdecodes,hnamed⟩
    · exact .inr ⟨by rw [hnone]; rfl,hnot⟩
  | stuck h hnot => exact .inr ⟨h,hnot⟩

lemma Decodes.unescape_eq {raw out : List Char} (h : Decodes TakenUnit raw out) :
    unescape raw = some out := by
  induction h with
  | nil => rfl
  | cons h _ ih => rw [h.unescape_append, ih, Option.map_some]

/-- Unescaping yields what a raw text stands for, which is one text at most. -/
theorem unescape_eq_some_iff {raw out : List Char} (hopen : continues raw = false) :
    unescape raw = some out ↔ Decodes TakenUnit raw out := by
  refine ⟨fun h => ?_,fun h => h.unescape_eq⟩
  rcases unescape_spec hopen with ⟨out',hout,hdecodes,-⟩ | ⟨hnone,-⟩
  · obtain rfl := Option.some.inj (hout.symm.trans h)
    exact hdecodes
  · rw [hnone] at h
    cases h

/-- The escape of a unit by a sign starts here. -/
def StartsSigned (t : List Char) : Prop := ∃ unit w, SpellsSigned unit w ∧ w <+: t

lemma SpellsUnit.not_startsSigned {unit : Nat} {w t : List Char} (h : SpellsUnit unit w)
    (hw : w <+: t) : ¬ StartsSigned t := by
  rintro ⟨n,v,⟨b,c,d,rfl,-⟩,rest,rfl⟩
  obtain ⟨x,y,z,u,rfl,hx,-⟩ := h
  obtain ⟨rfl,-⟩ : x = '+' ∧ _ := by simpa using hw
  exact hx.spec.2.2.1 rfl

lemma TakenUnit.spellsUnit {unit : Nat} {w t : List Char} (h : TakenUnit unit w) (hw : w <+: t)
    (hn : ¬ StartsSigned t) : SpellsUnit unit w :=
  h.resolve_right fun hs => hn ⟨unit,w,hs,hw⟩

/-- Escapes are well named by four digits exactly if they are so for the parser and none of them has
a sign. -/
theorem wellNamed_spellsUnit_iff {ts : List (List Char)} :
    WellNamed SpellsUnit ts ↔ WellNamed TakenUnit ts ∧ ∀ t ∈ ts, ¬ StartsSigned t := by
  constructor
  · intro h
    induction h with
    | nil => exact ⟨.nil,fun t ht => absurd ht List.not_mem_nil⟩
    | single starts hu hhigh hlow _ ih =>
      refine ⟨.single starts (.inl hu) hhigh hlow ih.1,?_⟩
      rw [List.forall_mem_cons]
      exact ⟨hu.not_startsSigned starts,ih.2⟩
    | @pair _ _ v _ t u _ joins starts hv hhigh hw hlow _ ih =>
      have hvt : v <+: t := joins ▸ List.prefix_append v u
      refine ⟨.pair joins starts (.inl hv) hhigh (.inl hw) hlow ih.1,?_⟩
      rw [List.forall_mem_cons, List.forall_mem_cons]
      exact ⟨hv.not_startsSigned hvt,hw.not_startsSigned starts,ih.2⟩
  · rintro ⟨h,hn⟩
    induction h with
    | nil => exact .nil
    | single starts hu hhigh hlow _ ih =>
      rw [List.forall_mem_cons] at hn
      exact .single starts (hu.spellsUnit starts hn.1) hhigh hlow (ih hn.2)
    | @pair _ _ v _ t u _ joins starts hv hhigh hw hlow _ ih =>
      have hvt : v <+: t := joins ▸ List.prefix_append v u
      rw [List.forall_mem_cons, List.forall_mem_cons] at hn
      exact .pair joins starts (hv.spellsUnit hvt hn.1) hhigh (hw.spellsUnit starts hn.2.1) hlow
        (ih hn.2.2)

/-- Without a sign every piece is spelled with four digits, and no sign follows. -/
lemma StandsFor.spellsUnit {c : Char} {w raw : List Char} (h : StandsFor TakenUnit c w)
    (hn : ∀ t ∈ escapes (w ++ raw), ¬ StartsSigned t) :
    StandsFor SpellsUnit c w ∧ ∀ t ∈ escapes raw, ¬ StartsSigned t := by
  cases h with
  | itself hc =>
    rw [List.singleton_append, escapes_cons hc] at hn
    exact ⟨.itself hc,hn⟩
  | control hc =>
    exact ⟨.control hc,by rwa [← escapes_escaped (ne_of_mem_controlLetters hc) raw]⟩
  | escaped hu hc => exact ⟨.escaped hu hc,by rwa [← escapes_escaped hu raw]⟩
  | unit hu =>
    rw [hu.escapes_append, List.forall_mem_cons] at hn
    exact ⟨.unit (hu.spellsUnit (List.prefix_append w raw) hn.1),hn.2⟩
  | @pair v w hc hv hw =>
    rw [List.append_assoc, hv.escapes_append, hw.escapes_append, List.forall_mem_cons,
      List.forall_mem_cons] at hn
    exact ⟨.pair hc (hv.spellsUnit (List.prefix_append v _) hn.1)
      (hw.spellsUnit (List.prefix_append w raw) hn.2.1),hn.2.2⟩

lemma Decodes.spellsUnit {raw out : List Char} (h : Decodes TakenUnit raw out)
    (hn : ∀ t ∈ escapes raw, ¬ StartsSigned t) : Decodes SpellsUnit raw out := by
  induction h with
  | nil => exact .nil
  | cons h _ ih =>
    obtain ⟨hpiece,hrest⟩ := h.spellsUnit hn
    exact .cons hpiece (ih hrest)

end LayeredSettings.Properties
