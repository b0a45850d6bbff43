/-! Bytes as text: UTF-8, or else one character a byte. -/
namespace LayeredSettings.Text

/-- Every byte is the code point of the same number. -/
def latin1 (bytes : ByteArray) : String :=
  String.ofList (bytes.toList.map fun b => Char.ofNat b.toNat)

/-- Bytes that are not UTF-8 are read one character a byte. -/
def decode (bytes : ByteArray) : String := (String.fromUTF8? bytes).getD (latin1 bytes)

end LayeredSettings.Text
