import LayeredSettings.Text.Letter

/-! The environment variable that overrides a field: the field's name in capitals, words joined by
underscores, after a fixed lead. -/
namespace LayeredSettings.VariableName

/-- What the letters of the current word have been so far. -/
inductive Mode where
  | boundary
  | lower
  | upper
  deriving DecidableEq, Repr

/-- Letters set the mode; digits and other signs keep it. -/
def Mode.step (mode : Mode) (c : Char) : Mode :=
  if Text.isLowercase c then .lower else if Text.isUppercase c then .upper else mode

/-- Cut a run of letters and digits into words: between a lower-case and an upper-case letter, and
before the last capital of several that a lower-case letter follows. `word` is the current word,
backwards. -/
def cut (mode : Mode) (word : List Char) : List Char → List (List Char)
  | [] => []
  | [c] => [(c :: word).reverse]
  | c :: next :: rest =>
    if mode.step c = .lower ∧ Text.isUppercase next then
      (c :: word).reverse :: cut .boundary [] (next :: rest)
    else if mode = .upper ∧ Text.isUppercase c ∧ Text.isLowercase next then
      word.reverse :: cut .boundary [c] (next :: rest)
    else cut (mode.step c) (c :: word) (next :: rest)

/-- Maximal runs of letters and digits. -/
def runs : List Char → List (List Char)
  | [] => [[]]
  | c :: rest =>
    if Text.isAlphanumeric c then
      match runs rest with
      | run :: more => (c :: run) :: more
      | [] => [[c]]
    else [] :: runs rest

def words (name : List Char) : List (List Char) := (runs name).flatMap (cut .boundary [])

/-- The words in capitals, joined by underscores. -/
def capitals (name : String) : String :=
  String.ofList (List.intercalate ['_'] ((words name.toList).map (·.flatMap Text.uppercase)))

def ofField (name : String) : String := "MIGRATE_" ++ capitals name

example : ofField "promptOnNonLocalDatabase" = "MIGRATE_PROMPT_ON_NON_LOCAL_DATABASE" := by
  decide +kernel
example : ofField "XMLHttp2Request" = "MIGRATE_XML_HTTP2_REQUEST" := by decide +kernel

end LayeredSettings.VariableName
