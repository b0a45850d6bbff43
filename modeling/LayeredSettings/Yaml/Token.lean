/-! The words of a YAML text. -/
namespace LayeredSettings.Yaml

/-- A word, a sign, or the start or end of a collection that indentation marks. -/
inductive Token where
  /-- A `%YAML` line. -/
  | version (major minor : Nat)
  /-- A `%TAG` line: a handle and what it stands for. -/
  | tagHandle (handle expansion : String)
  | documentStart
  | documentEnd
  | blockSequenceStart
  | blockMappingStart
  | blockEnd
  | flowSequenceStart
  | flowSequenceEnd
  | flowMappingStart
  | flowMappingEnd
  | blockEntry
  | flowEntry
  | key
  | value
  | alias (name : String)
  | anchor (name : String)
  | tag (handle suffix : String)
  | scalar (text : String) (plain : Bool)
  deriving DecidableEq, Repr

end LayeredSettings.Yaml
