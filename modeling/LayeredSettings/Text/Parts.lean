/-! The parts of a text between separators. -/
namespace LayeredSettings.Text

/-- The texts between the occurrences of a character. -/
def parts (separator : Char) (text : String) : List String :=
  (text.toList.splitOn separator).map String.ofList

end LayeredSettings.Text
