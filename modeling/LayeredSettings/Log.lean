/-! The events that steps report while they work. -/
namespace LayeredSettings

/-- Levels of events, the gravest first. The library itself reports at `info` and `debug`. -/
inductive Level where
  | error
  | warn
  | info
  | debug
  | trace
  deriving DecidableEq, Repr

namespace Level

def name : Level → String
  | error => "ERROR"
  | warn => "WARN"
  | info => "INFO"
  | debug => "DEBUG"
  | trace => "TRACE"

def rank : Level → Nat
  | error => 1
  | warn => 2
  | info => 3
  | debug => 4
  | trace => 5

end Level

inductive Component where
  | program
  | loader
  | injection
  | resolver
  | opener
  | session
  | settings
  | resolveCommand
  deriving DecidableEq, Repr

namespace Component

def target : Component → String
  | program => "migrate_settings"
  | loader => "migrate_settings::config::loader"
  | injection => "migrate_settings::config::inject"
  | resolver => "migrate_settings::resolver"
  | opener => "migrate_settings::opener"
  | session => "migrate_settings::session"
  | settings => "migrate_settings::settings"
  | resolveCommand => "migrate_settings::cli::resolve"

end Component

/-- One event: who reports it, how detailed it is, what it says, and named values in order. -/
structure Event where
  level : Level
  component : Component
  message : String
  details : List (String × String) := []
  deriving DecidableEq, Repr

namespace Event

def body (e : Event) : String :=
  e.details.foldl (fun text (name, value) => text ++ " " ++ name ++ "=" ++ value) e.message

def text (e : Event) : String := e.level.name ++ " " ++ e.body

/-- Characters that could drive a terminal are spelled out, all others stand for themselves. -/
def harmless (c : Char) : List Char :=
  match c with
  | '\x07' => ['\\', 'x', '0', '7']
  | '\x08' => ['\\', 'x', '0', '8']
  | '\x0c' => ['\\', 'x', '0', 'c']
  | '\x1b' => ['\\', 'x', '1', 'b']
  | '\x7f' => ['\\', 'x', '7', 'f']
  | _ =>
    if 0x80 ≤ c.toNat ∧ c.toNat ≤ 0x9f then
      ['\\', 'u', '{'] ++ Nat.toDigits 16 c.toNat ++ ['}']
    else [c]

/-- The event as a line of a log: the level in five columns, then who reports it. -/
def line (e : Event) : String :=
  let message := String.ofList (e.message.toList.flatMap harmless)
  String.ofList (List.replicate (5 - e.level.name.length) ' ') ++ e.level.name ++ " " ++
    e.component.target ++ ": " ++ { e with message }.body ++ "\n"

end Event

/-- A result together with the events reported on the way to it. -/
structure Logged (α : Type) where
  events : List Event
  result : α

namespace Logged

variable {α β ε : Type}

def quiet (result : α) : Logged α := ⟨[], result⟩

def after (events : List Event) (l : Logged α) : Logged α := ⟨events ++ l.events, l.result⟩

/-- Go on with the value, unless there is an error. -/
def andThen (l : Logged (Except ε α)) (next : α → Logged (Except ε β)) :
    Logged (Except ε β) :=
  match l.result with
  | .ok value => (next value).after l.events
  | .error e => ⟨l.events, .error e⟩

def mapError {δ : Type} (l : Logged (Except ε α)) (f : ε → δ) : Logged (Except δ α) :=
  ⟨l.events, l.result.mapError f⟩

end Logged

end LayeredSettings
