import LayeredSettings.Dictionary
import LayeredSettings.Error
import LayeredSettings.Properties.Escape
import LayeredSettings.Properties.Line
import LayeredSettings.Text.Encoding

/-! A properties text as a map from keys to values. -/
namespace LayeredSettings.Properties

/-- The entries of a properties file in key order. -/
abbrev Source := Dictionary String

/-- Split an entry after its raw key: at the first separator or blank that no backslash escapes. -/
def splitKey : List Char → List Char × List Char
  | [] => ([], [])
  | '\\' :: c :: rest =>
    let (key, after) := splitKey rest
    ('\\' :: c :: key, after)
  | c :: rest =>
    if c == '=' || c == ':' || isBlank c then ([], c :: rest)
    else
      let (key, after) := splitKey rest
      (c :: key, after)

/-- What follows the key, without blanks, at most one separator, and blanks. -/
def rawValue (after : List Char) : List Char :=
  match dropBlanks after with
  | '=' :: rest => dropBlanks rest
  | ':' :: rest => dropBlanks rest
  | rest => rest

def splitEntry (line : LogicalLine) : Except PropertiesError (String × String) :=
  let (key, after) := splitKey line.text
  match unescape key, unescape (rawValue after) with
  | some key, some value => .ok (String.ofList key, String.ofList value)
  | _, _ => .error (.malformedEscape line.number)

def Source.ofLines (source : Source) : List LogicalLine → Except PropertiesError Source
  | [] => .ok source
  | line :: rest =>
    match splitEntry line with
    | .ok (key, value) => Source.ofLines (source.insert key value) rest
    | .error e => .error e

/-- Read a properties text. Of two entries with one key the later stays. -/
def Source.parse (text : String) : Except PropertiesError Source :=
  Source.ofLines .empty (logicalLines text.toList)

abbrev Stream := Except IoError ByteArray

/-- Read a stream of properties. Bytes that are not UTF-8 count as one character each. -/
def Source.read (stream : Stream) : Except PropertiesError Source :=
  match stream with
  | .ok bytes => Source.parse (Text.decode bytes)
  | .error cause => .error (.io cause)

end LayeredSettings.Properties
