import LayeredSettings.Log
import LayeredSettings.Registry

/-! What a step that changes a registry leaves behind. A step that fails keeps the changes made
before the failure: nothing is undone. -/
namespace LayeredSettings

/-- The registry reached, the events reported, and a value or the error that stopped the step. -/
structure Outcome (α : Type) where
  registry : Registry
  events : List Event := []
  result : Except ConfigError α

namespace Outcome

variable {α β : Type}

def done (r : Registry) (value : α) : Outcome α := ⟨r, [], .ok value⟩

def failed (r : Registry) (e : ConfigError) : Outcome α := ⟨r, [], .error e⟩

def after (events : List Event) (o : Outcome α) : Outcome α :=
  { o with events := events ++ o.events }

/-- Go on from the registry reached, unless the step failed. -/
def andThen (o : Outcome α) (next : α → Registry → Outcome β) : Outcome β :=
  match o.result with
  | .ok value => (next value o.registry).after o.events
  | .error e => ⟨o.registry, o.events, .error e⟩

/-- A change that either takes place as a whole or not at all. -/
def ofChange (r : Registry) (change : Except ConfigError Registry) : Outcome Unit :=
  match change with
  | .ok changed => done changed ()
  | .error e => failed r e

end Outcome

end LayeredSettings
