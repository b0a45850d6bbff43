import LayeredSettings.Outcome
import LayeredSettings.Properties.Source

/-! Which value wins when a properties file is applied to fields that already hold values. What the
user chose stays, unless the policy lets the file override it; what still equals its default counts
as not chosen. -/
namespace LayeredSettings

/-- Letters without case, ASCII only. -/
def equalIgnoringCase (a b : String) : Bool :=
  a.toList.map Char.toLower == b.toList.map Char.toLower

/-- A raw text as a value of a kind. Only "true", in any case, is true. -/
def coerce (kind : Kind) (raw : String) : Value :=
  match kind with
  | .text => .text raw
  | .boolean => .bool (equalIgnoringCase raw "true")

@[simp] theorem kind_coerce (kind : Kind) (raw : String) : (coerce kind raw).kind = kind := by
  cases kind <;> rfl

/-- Whether what a field holds counts as chosen by the user. Without a default every value does. -/
def Field.isSpecified (f : Field) : Except ConfigError Bool :=
  match f.current, f.default with
  | none, _ => .ok false
  | some _, none => .ok true
  | some current, some default =>
    if current.kind = default.kind then .ok (current ≠ default)
    else .error (.defaultLookup f.name ("current value is " ++ current.kind.name ++
      " but default is " ++ default.kind.name))

/-- The policy of a run: whether a properties file replaces values that were chosen. -/
structure Policy where
  override : Bool := false
  deriving DecidableEq, Repr

namespace Policy

def ofRegistry (r : Registry) : Except ConfigError Policy :=
  (r.flag "propertyFileWillOverride").map Policy.mk

def admits (p : Policy) (f : Field) : Except ConfigError Bool :=
  if p.override then .ok true else f.isSpecified.map (!·)

end Policy

namespace Registry

def keepingEvent (key : String) : Event :=
  ⟨.debug, .resolver, "Keeping specified value, ignoring properties file entry", [("key", key)]⟩

def settingEvent (key : String) (value : Value) : Event :=
  ⟨.debug, .resolver, "Properties file setting value", [("key", key), ("value", value.display)]⟩

/-- Apply one entry of a properties file; says whether it was applied. -/
def resolveKey (p : Policy) (key raw : String) (r : Registry) : Outcome Bool :=
  match r.lookup key with
  | .error e => .failed r e
  | .ok f =>
    match p.admits f with
    | .error e => .failed r e
    | .ok false => (Outcome.done r false).after [keepingEvent key]
    | .ok true =>
      let value := coerce f.kind raw
      ((Outcome.ofChange r (r.set key value)).andThen fun _ r => .done r true).after
        [settingEvent key value]

/-- Apply entries one after the other, up to the first that fails. -/
def resolveEntries (p : Policy) : List (String × String) → Registry → Outcome Unit
  | [], r => .done r ()
  | (key, raw) :: rest, r =>
    (resolveKey p key raw r).andThen fun _ r => resolveEntries p rest r

def resolve (p : Policy) (source : Properties.Source) (r : Registry) : Outcome Unit :=
  resolveEntries p source.entries r

end Registry

end LayeredSettings
