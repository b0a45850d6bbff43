import LayeredSettings.Log

/-! Where log lines go, and how much is logged by default. -/
namespace LayeredSettings

inductive LogTarget where
  | off
  | stdout
  | stderr
  | file (path : String)
  deriving DecidableEq, Repr

/-- A target by number or name; any other text names a file. -/
def LogTarget.ofText (text : String) : LogTarget :=
  if text = "0" ∨ text = "off" then off
  else if text = "1" ∨ text = "stdout" then stdout
  else if text = "2" ∨ text = "stderr" then stderr
  else file text

/-- The most detailed level that is logged unless a filter is given. -/
def defaultLevel (verbose : Bool) : Level := if verbose then .debug else .info

end LayeredSettings
