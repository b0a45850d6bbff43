import LayeredSettings.Settings

/-! Running a migration with settled settings: drop everything first if asked to, choose the
contexts, apply the change log. -/
namespace LayeredSettings

inductive MigrationCall where
  | dropAll
  | setContexts (contexts : List String)
  | update (changeLogFile : String)
  deriving DecidableEq, Repr

namespace Settings

def droppingEvent : Event :=
  { level := .info, component := .settings,
    message := "Dropping all database objects before update" }

/-- The calls that a migration makes when each succeeds. -/
def plan (s : Settings) : List MigrationCall :=
  (if s.dropFirst then [.dropAll] else []) ++ [.setContexts s.contextList, .update s.changeLogFile]

end Settings

/-- What a migration did: the calls made, in order, and the error of the last one if it failed. -/
structure MigrationRun (ε : Type) where
  calls : List MigrationCall
  result : Except ε Unit

/-- Make calls one after the other, up to the first that fails. -/
def makeCalls {ε : Type} (engine : MigrationCall → Except ε Unit) :
    List MigrationCall → MigrationRun ε
  | [] => ⟨[], .ok ()⟩
  | call :: rest =>
    match engine call with
    | .ok () =>
      let later := makeCalls engine rest
      ⟨call :: later.calls, later.result⟩
    | .error e => ⟨[call], .error e⟩

/-- Run a migration. Choosing contexts cannot fail. -/
def Settings.migrate {ε : Type} (s : Settings) (dropAll : Except ε Unit)
    (update : String → Except ε Unit) : Logged (MigrationRun ε) :=
  ⟨if s.dropFirst then [droppingEvent] else [],
    makeCalls (fun
      | .dropAll => dropAll
      | .setContexts _ => .ok ()
      | .update file => update file) s.plan⟩

end LayeredSettings
