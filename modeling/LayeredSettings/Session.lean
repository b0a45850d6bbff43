import LayeredSettings.Opener
import LayeredSettings.Precedence
import LayeredSettings.Settings

/-! One run: load the properties file that the registry names, resolve it, and settle the
settings. -/
namespace LayeredSettings

namespace Registry

def loadingEvent (path : String) : Event :=
  ⟨.info, .session, "Loading settings from properties file", [("path", path)]⟩

def resolvingEvent (source : Properties.Source) (p : Policy) : Event :=
  ⟨.info, .session, "Resolving properties file entries",
    [("entries", toString source.size), ("properties_override", Settings.showBool p.override)]⟩

/-- Load the properties file named by the registry, if any, and resolve it under the policy that
the registry holds before the file is applied. -/
def configure (opener : Opener) (r : Registry) : Outcome Unit :=
  match r.text "propertiesFile" with
  | .error e => .failed r e
  | .ok none => .done r ()
  | .ok (some path) =>
    let loaded := opener.load path
    let events := loadingEvent path :: loaded.events
    match loaded.result with
    | .error e => (Outcome.failed r e).after events
    | .ok source =>
      match Policy.ofRegistry r with
      | .error e => (Outcome.failed r e).after events
      | .ok p => (r.resolve p source).after (events ++ [resolvingEvent source p])

def settledEvent : Event :=
  { level := .info, component := .session, message := "Settings resolved" }

def settle (r : Registry) : Outcome Settings :=
  match Settings.ofRegistry r with
  | .error e => .failed r e
  | .ok settings => (Outcome.done r settings).after (settledEvent :: settings.events "    ")

def run (opener : Opener) (r : Registry) : Outcome Settings :=
  (r.configure opener).andThen fun _ r => r.settle

end Registry

end LayeredSettings
