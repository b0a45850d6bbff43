import LayeredSettings.Environment
import LayeredSettings.FileTree

/-! Where host configuration files stand: one in a directory of the project, one in a directory of
the user, and the environment can name others. -/
namespace LayeredSettings

/-- The levels of host configuration, the weaker first. -/
inductive Tier where
  | project
  | user
  deriving DecidableEq, Repr

def Tier.name : Tier → String
  | project => "project"
  | user => "user"

/-- The directory of each tier, if it has one. -/
structure Directories where
  project : Option String := none
  user : Option String := none
  deriving DecidableEq, Repr

namespace Directories

def fileName : String := "config.yaml"

/-- The variable that names a single file in place of both tiers. -/
def explicitVariable : String := "MIGRATE_SETTINGS_CONFIG_PATH"

/-- The variables that name the directories of the tiers. -/
def projectVariable : String := "MIGRATE_SETTINGS_PROJECT_DIR"

def userVariable : String := "MIGRATE_SETTINGS_USER_DIR"

/-- The user's home directory: `HOME`, or that of the account if one is known. -/
def home (env : Environment) (account : Option String) : Option String :=
  match env "HOME" with
  | some dir => if dir.isEmpty then account else some dir
  | none => account

/-- The directories that the environment asks for, or else `migrate-settings` below the working
directory and `.migrate-settings` below the home directory, if there is one. -/
def ofEnvironment (env : Environment) (account : Option String) : Directories where
  project := (env projectVariable).getD "migrate-settings"
  user := (env userVariable).or ((home env account).map (joinPath · ".migrate-settings"))

/-- The file of every tier that has a directory, the weaker tier first. -/
def files (d : Directories) : List (Tier × String) :=
  (d.project.map fun dir => (Tier.project, joinPath dir fileName)).toList ++
    (d.user.map fun dir => (Tier.user, joinPath dir fileName)).toList

end Directories

end LayeredSettings
