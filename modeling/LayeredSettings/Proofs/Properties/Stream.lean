import Mathlib.Data.List.Chain
import LayeredSettings.Proofs.Properties.Acceptance

/-! Reading a stream of properties. A stream hands out its bytes in pieces and may fail between two
of them. The bytes are text in one of two encodings, and which of them it is has to be told from the
bytes. Main statement: a text is read back from its UTF-8 bytes, and from one byte a character
unless two of these could be part of a UTF-8 sequence; a stream fails only if it cannot be read to
its end or has a malformed escape. -/
namespace LayeredSettings

namespace Text

def latin1Byte (c : Char) : UInt8 := UInt8.ofNat c.toNat

/-- No character but the first 256, those that one byte spells. -/
def Latin1 (cs : List Char) : Prop := ∀ c ∈ cs, c.toNat < 256

instance (cs : List Char) : Decidable (Latin1 cs) :=
  List.decidableBAll (fun c : Char => c.toNat < 256) cs

/-- A text of such characters, one byte for each. -/
def latin1Bytes (text : String) : ByteArray := (text.toList.map latin1Byte).toByteArray

/-- As a byte, the character could start a UTF-8 sequence of several bytes. -/
def IsLead (c : Char) : Prop := 0xC2 ≤ c.toNat ∧ c.toNat ≤ 0xF4

instance (c : Char) : Decidable (IsLead c) := inferInstanceAs (Decidable (_ ∧ _))

/-- As a byte, the character could go on with a UTF-8 sequence. -/
def IsTail (c : Char) : Prop := 0x80 ≤ c.toNat ∧ c.toNat ≤ 0xBF

instance (c : Char) : Decidable (IsTail c) := inferInstanceAs (Decidable (_ ∧ _))

/-- No lead is directly followed by a tail. -/
def Unpaired (cs : List Char) : Prop := cs.IsChain fun c d => IsLead c → ¬ IsTail d

instance (cs : List Char) : Decidable (Unpaired cs) :=
  inferInstanceAs (Decidable (cs.IsChain fun c d => IsLead c → ¬ IsTail d))

lemma toNat_latin1Byte {c : Char} (h : c.toNat < 256) : (latin1Byte c).toNat = c.toNat := by
  rw [latin1Byte, UInt8.toNat_ofNat', Nat.mod_eq_of_lt h]

lemma utf8EncodeChar_spec (d : Char) :
    (d.toNat < 0x80 ∧ String.utf8EncodeChar d = [latin1Byte d]) ∨
    ∃ lead tail rest, String.utf8EncodeChar d = lead :: tail :: rest ∧
      (0xC2 ≤ lead.toNat ∧ lead.toNat ≤ 0xF4) ∧ 0x80 ≤ tail.toNat ∧ tail.toNat ≤ 0xBF := by
  have hd : d.toNat < 0xD800 ∨ 0xDFFF < d.toNat ∧ d.toNat < 0x110000 := d.valid
  have hval : d.val.toNat = d.toNat := rfl
  unfold String.utf8EncodeChar
  simp only [hval]
  split_ifs
  · exact .inl ⟨by omega,rfl⟩
  -- two, three or four bytes: lead and tail are a marker and some bits of the code point
  all_goals
    refine .inr ⟨_,_,_,rfl,?_⟩
    simp only [UInt8.toNat_ofNat']
    omega

/-- Characters without a lead before a tail, one byte for each, make up no UTF-8 text but their
own. -/
theorem eq_of_map_latin1Byte_eq {cs ds : List Char} (hb : Latin1 cs)
    (hu : Unpaired cs) (h : cs.map latin1Byte = ds.flatMap String.utf8EncodeChar) : cs = ds := by
  induction ds generalizing cs with
  | nil => exact List.map_eq_nil_iff.1 h
  | cons d ds ih =>
    rw [List.flatMap_cons] at h
    rcases utf8EncodeChar_spec d with ⟨hd,henc⟩ | ⟨lead,tail,rest,henc,hlead,htail⟩
    · rw [henc, List.singleton_append, List.map_eq_cons_iff] at h
      obtain ⟨c,cs,rfl,hc,hcs⟩ := h
      rw [Latin1, List.forall_mem_cons] at hb
      have hnat : c.toNat = d.toNat := by
        rw [← toNat_latin1Byte hb.1, hc, toNat_latin1Byte (by omega)]
      rw [Char.toNat_inj.1 hnat, ih hb.2 hu.tail hcs]
    · rw [henc, List.cons_append, List.cons_append, List.map_eq_cons_iff] at h
      obtain ⟨c,_,rfl,rfl,h⟩ := h
      obtain ⟨c',cs,rfl,rfl,-⟩ := List.map_eq_cons_iff.1 h
      rw [Latin1, List.forall_mem_cons, List.forall_mem_cons] at hb
      rw [toNat_latin1Byte hb.1] at hlead
      rw [toNat_latin1Byte hb.2.1] at htail
      exact absurd htail ((List.isChain_cons_cons.1 hu).1 hlead)

lemma toList_loop (bytes : ByteArray) (i : Nat) (taken : List UInt8) :
    ByteArray.toList.loop bytes i taken = taken.reverse ++ bytes.data.toList.drop i := by
  fun_induction ByteArray.toList.loop bytes i taken with
  | case1 i taken h ih =>
    have hi : i < bytes.data.toList.length := h
    have hget : bytes.get! i = bytes.data.toList[i] := getElem!_pos bytes.data i h
    rw [ih, hget, List.drop_eq_getElem_cons hi, List.reverse_cons, List.append_assoc]
    rfl
  | case2 i taken h =>
    have hi : bytes.data.toList.length ≤ i := Nat.le_of_not_lt h
    rw [List.drop_eq_nil_of_le hi, List.append_nil]

lemma toList_toByteArray (bytes : List UInt8) : bytes.toByteArray.toList = bytes := by
  rw [ByteArray.toList, toList_loop, List.toList_data_toByteArray]
  rfl

lemma latin1_latin1Bytes {text : String} (hb : Latin1 text.toList) :
    latin1 (latin1Bytes text) = text := by
  have hchars : ∀ c ∈ text.toList, ((fun b => Char.ofNat b.toNat) ∘ latin1Byte) c = id c := by
    intro c hc
    rw [Function.comp_apply, toNat_latin1Byte (hb c hc), Char.ofNat_toNat, id]
  rw [latin1, latin1Bytes, toList_toByteArray, List.map_map, List.map_congr_left hchars,
    List.map_id, String.ofList_toList]

lemma decode_of_valid (text : String) {bytes : ByteArray} (h : bytes = text.toByteArray) :
    decode bytes = text := by
  subst h
  rw [decode, String.fromUTF8?, dif_pos text.isValidUTF8]
  rfl

/-- Without a lead before a tail, a text is decoded from one byte a character: either these are no
UTF-8 text, or they are the UTF-8 bytes of the same characters. -/
theorem decode_latin1Bytes {text : String} (hb : Latin1 text.toList)
    (hu : Unpaired text.toList) : decode (latin1Bytes text) = text := by
  by_cases hvalid : (latin1Bytes text).IsValidUTF8
  · obtain ⟨ds,hds⟩ := hvalid
    refine decode_of_valid text ?_
    have hsame : text.toList = ds :=
      eq_of_map_latin1Byte_eq hb hu (List.toByteArray_inj.1 hds)
    rw [hds, ← hsame, ← String.toByteArray_ofList, String.ofList_toList]
  · rw [decode, String.fromUTF8?, dif_neg hvalid, Option.getD_none, latin1_latin1Bytes hb]

example : decode (latin1Bytes "Ã©") = "é" := by decide +kernel

end Text

namespace Properties

/-- A stream that hands out its bytes in pieces. It yields them all, one piece after the other, or
the first failure, whatever was handed out before. A read that was interrupted, and is tried again,
counts as an empty piece. -/
def Stream.ofPieces : List Stream → Stream
  | [] => .ok .empty
  | .error cause :: _ => .error cause
  | .ok bytes :: rest => (Stream.ofPieces rest).map (bytes ++ ·)

def joined (pieces : List ByteArray) : ByteArray := pieces.foldr (· ++ ·) .empty

namespace Stream

lemma ofPieces_map_ok (pieces : List ByteArray) :
    ofPieces (pieces.map .ok) = .ok (joined pieces) := by
  induction pieces with
  | nil => rfl
  | cons bytes pieces ih =>
    rw [List.map_cons, ofPieces, ih]
    rfl

lemma ofPieces_failing (before : List ByteArray) (cause : IoError) (after : List Stream) :
    ofPieces (before.map .ok ++ .error cause :: after) = .error cause := by
  induction before with
  | nil => rfl
  | cons bytes before ih =>
    rw [List.map_cons, List.cons_append, ofPieces, ih]
    rfl

/-- A stream is read to its end, or fails for a first time. -/
lemma pieces_cases (pieces : List Stream) :
    (∃ all : List ByteArray, pieces = all.map .ok) ∨
    ∃ (before : List ByteArray) (cause : IoError) (after : List Stream),
      pieces = before.map .ok ++ .error cause :: after := by
  induction pieces with
  | nil => exact .inl ⟨[],rfl⟩
  | cons piece pieces ih =>
    cases piece with
    | error cause => exact .inr ⟨[],cause,pieces,rfl⟩
    | ok bytes =>
      rcases ih with ⟨all,rfl⟩ | ⟨before,cause,after,rfl⟩
      · exact .inl ⟨bytes :: all,rfl⟩
      · exact .inr ⟨bytes :: before,cause,after,rfl⟩

end Stream

lemma Source.read_pieces (pieces : List ByteArray) :
    Source.read (.ofPieces (pieces.map .ok)) = Source.parse (Text.decode (joined pieces)) := by
  rw [Stream.ofPieces_map_ok, Source.read]

/-- Both encodings are read as they are written, whatever pieces the bytes come in: UTF-8 for every
text, and one byte a character for texts without a lead before a tail. A failure to read the stream
is the error, whatever was read before it; and there is no other error than this and a malformed
escape in a stream that is read to its end. -/
theorem read_pieces_eq_parse :
    (∀ (text : String) (pieces : List ByteArray), joined pieces = text.toUTF8 →
      Source.read (.ofPieces (pieces.map .ok)) = Source.parse text) ∧
    (∀ (text : String) (pieces : List ByteArray), Text.Latin1 text.toList →
      Text.Unpaired text.toList → joined pieces = Text.latin1Bytes text →
      Source.read (.ofPieces (pieces.map .ok)) = Source.parse text) ∧
    (∀ (before : List ByteArray) (cause : IoError) (after : List Stream),
      Source.read (.ofPieces (before.map .ok ++ .error cause :: after)) = .error (.io cause)) ∧
    ∀ pieces e, Source.read (.ofPieces pieces) = .error e →
      (∃ (before : List ByteArray) (cause : IoError) (after : List Stream),
        pieces = before.map .ok ++ .error cause :: after ∧ e = .io cause) ∨
      ∃ (all : List ByteArray) (line : Nat), pieces = all.map .ok ∧ e = .malformedEscape line ∧
        Source.parse (Text.decode (joined all)) = .error e := by
  have hfailing : ∀ (before : List ByteArray) (cause : IoError) (after : List Stream),
      Source.read (.ofPieces (before.map .ok ++ .error cause :: after)) = .error (.io cause) := by
    intro before cause after
    rw [Stream.ofPieces_failing, Source.read]
  refine ⟨fun text pieces h => ?_,fun text pieces hb hu h => ?_,hfailing,fun pieces e he => ?_⟩
  · rw [Source.read_pieces, Text.decode_of_valid text h]
  · rw [Source.read_pieces, h, Text.decode_latin1Bytes hb hu]
  · rcases Stream.pieces_cases pieces with ⟨all,rfl⟩ | ⟨before,cause,after,rfl⟩
    · rw [Source.read_pieces] at he
      obtain ⟨line,-,-,rfl⟩ := (parsedBy_takenUnit _).refused e he
      exact .inr ⟨all,line.number,rfl,rfl,he⟩
    · rw [hfailing] at he
      exact .inl ⟨before,cause,after,rfl,(Except.error.inj he).symm⟩

/-- An accent whose two bytes come in different pieces, and the same accent as one byte. -/
theorem read_pieces_eq_parse_accent :
    joined [⟨#[0x78,0x3D,0xC3]⟩,⟨#[0xA9]⟩] = "x=é".toUTF8 ∧
    joined [⟨#[0x78]⟩,⟨#[0x3D,0xE9]⟩] = Text.latin1Bytes "x=é" ∧
    Text.Unpaired "x=é".toList ∧
    Source.parse "x=é" = .ok (.ofList [("x","é")]) ∧
    Source.read (.ofPieces [.ok ⟨#[0x78,0x3D,0xC3]⟩,.ok ⟨#[0xA9]⟩]) = Source.parse "x=é" ∧
    Source.read (.ofPieces [.ok ⟨#[0x78]⟩,.ok ⟨#[0x3D,0xE9]⟩]) = Source.parse "x=é" := by
  obtain ⟨hutf8,hlatin1,-,-⟩ := read_pieces_eq_parse
  have htwo : joined [⟨#[0x78,0x3D,0xC3]⟩,⟨#[0xA9]⟩] = "x=é".toUTF8 := by decide +kernel
  have hone : joined [⟨#[0x78]⟩,⟨#[0x3D,0xE9]⟩] = Text.latin1Bytes "x=é" := by decide +kernel
  have hunpaired : Text.Unpaired "x=é".toList := by decide +kernel
  exact ⟨htwo,hone,hunpaired,by decide +kernel,hutf8 _ _ htwo,
    hlatin1 _ _ (by decide +kernel) hunpaired hone⟩

end Properties

end LayeredSettings
