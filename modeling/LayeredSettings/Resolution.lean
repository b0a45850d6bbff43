import LayeredSettings.HostParameters
import LayeredSettings.Request
import LayeredSettings.Session

/-! A whole resolution: fill in the host's values, find and apply the properties file, settle the
settings. -/
namespace LayeredSettings.Request

/-- Where the properties file is looked for: in the base directory, then in the project's, if that
is there. -/
def opener (q : Request) (disk : Disk) (directories : Directories) : Opener :=
  .composite <| .directory disk (q.baseDirectory.getD ".") ::
    ((directories.project.filter disk.isDirectory).map (.directory disk)).toList

def sourceEvent (tier : Tier) (path : String) : Event :=
  ⟨.info, .resolveCommand, "Using host parameters", [("tier", tier.name), ("path", path)]⟩

/-- Resolve the settings, asking a given opener for the properties file. -/
def resolveWith (q : Request) (opener : Opener) (host : HostParameters) (env : Environment) :
    Logged (Except RunError Settings) :=
  Logged.after (host.sources.map fun (tier, path) => sourceEvent tier path) <|
    (q.hostRegistry host.config.parameters env).andThen fun r =>
      ((r.run opener).inStage .session).andThen fun (_, settings) => .quiet (.ok settings)

def resolve (q : Request) (disk : Disk) (host : HostParameters) (env : Environment) :
    Logged (Except RunError Settings) :=
  q.resolveWith (q.opener disk host.directories) host env

def output (q : Request) (settings : Settings) : String := settings.format q.format

end LayeredSettings.Request
