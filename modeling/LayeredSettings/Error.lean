import LayeredSettings.Json.Printer

/-! Why a step can fail, and the words for it. An error is a cause; its wording is given by one
function beside each type. -/
namespace LayeredSettings

/-- Why a file or stream could not be used. -/
inductive IoError where
  | notFound
  | notDirectory
  | isDirectory
  | nameTooLong
  /-- The path holds a NUL character. -/
  | nulInPath
  /-- Text was wanted and the bytes are not UTF-8. -/
  | notText
  | other (text : String)
  deriving DecidableEq, Repr

namespace IoError

def message : IoError → String
  | notFound => "No such file or directory (os error 2)"
  | notDirectory => "Not a directory (os error 20)"
  | isDirectory => "Is a directory (os error 21)"
  | nameTooLong => "File name too long (os error 36)"
  | nulInPath => "file name contained an unexpected NUL byte"
  | notText => "stream did not contain valid UTF-8"
  | other text => text

end IoError

/-- Why a properties stream could not be read. -/
inductive PropertiesError where
  | io (cause : IoError)
  /-- A `\u` escape that names no character, in the entry starting on this line. -/
  | malformedEscape (line : Nat)
  deriving DecidableEq, Repr

namespace PropertiesError

def message : PropertiesError → String
  | io cause => "I/O error reading properties: " ++ cause.message
  | malformedEscape line => "Malformed \\uXXXX encoding on line " ++ toString line

def chain : PropertiesError → List String
  | io cause => [message (io cause), cause.message]
  | malformedEscape line => [message (malformedEscape line)]

end PropertiesError

/-- Why a table of fields could not be built, filled or resolved. -/
inductive ConfigError where
  | unknownField (key : String)
  | fieldAccess (key reason : String)
  | defaultLookup (key reason : String)
  | malformedStream (path : String) (cause : PropertiesError)
  | missingResource (path : String)
  | emptyInput
  | duplicateField (key : String)
  | missingRequired (key : String)
  deriving DecidableEq, Repr

namespace ConfigError

def message : ConfigError → String
  | unknownField key => "Unknown parameter: '" ++ key ++ "'"
  | fieldAccess key reason => "Cannot access field '" ++ key ++ "': " ++ reason
  | defaultLookup key reason => "Cannot read default value for '" ++ key ++ "': " ++ reason
  | malformedStream path _ => "Could not load the properties file '" ++ path ++ "'"
  | missingResource path => "Failed to resolve the properties file '" ++ path ++ "'"
  | emptyInput => "Properties file input stream is missing"
  | duplicateField key => "Duplicate field name: '" ++ key ++ "'"
  | missingRequired key => "Required parameter '" ++ key ++ "' is not set"

def code : ConfigError → String
  | unknownField _ => "UNKNOWN_FIELD"
  | fieldAccess _ _ => "FIELD_ACCESS_ERROR"
  | defaultLookup _ _ => "DEFAULT_LOOKUP_FAILURE"
  | malformedStream _ _ => "MALFORMED_PROPERTIES_STREAM"
  | missingResource _ => "MISSING_PROPERTIES_RESOURCE"
  | emptyInput => "EMPTY_INPUT"
  | duplicateField _ => "DUPLICATE_FIELD"
  | missingRequired _ => "MISSING_REQUIRED_FIELD"

def subject : ConfigError → Option String
  | unknownField key | fieldAccess key _ | defaultLookup key _ | duplicateField key
  | missingRequired key => some key
  | malformedStream path _ | missingResource path => some path
  | emptyInput => none

def chain : ConfigError → List String
  | malformedStream path cause => message (malformedStream path cause) :: cause.chain
  | error => [error.message]

def report (error : ConfigError) : Json :=
  .object ([("code", .string error.code), ("message", .string error.message)] ++
    (error.subject.map fun subject => ("subject", Json.string subject)).toList)

end ConfigError

end LayeredSettings
