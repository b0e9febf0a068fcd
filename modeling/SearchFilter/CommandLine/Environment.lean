import SearchFilter.CommandLine.Run

/-!
# The environment

What the variables of the environment say: whether output is painted, where the settings usually
are, and the address of the database.
-/

namespace SearchFilter.CommandLine

/-- The variables that are set. -/
abbrev Environment := String → Option String

namespace Environment

/-- The name of the variable with the address of the database. -/
def databaseUrlName : String := "BOILING_DATABASE_URL"

/-- A variable is set to anything but zero. -/
def switchedOn (env : Environment) (name : String) : Bool := (env name).any (· != "0")

/-- Output is painted if that is forced, and else on a terminal, unless it is unwanted. -/
def colours (env : Environment) (terminal : Bool) : Bool :=
  if env.switchedOn "CLICOLOR_FORCE" then true
  else if (env "NO_COLOR").isSome then false
  else terminal && (env "CLICOLOR").all (· != "0")

/-- The folder of settings: the one that is named by its full path, or the one at home. -/
def settingsFolder? (env : Environment) : Option String :=
  match (env "XDG_CONFIG_HOME").filter (·.startsWith "/") with
  | some folder => some folder
  | none => ((env "HOME").filter (· != "")).map (· ++ "/.config")

/-- The file in which settings usually are. -/
def settingsPath? (env : Environment) : Option String :=
  env.settingsFolder?.map (· ++ "/boiling/config.toml")

end Environment

/-- The file that a request reads its settings from. -/
def Request.settingsPath? (r : Request) (usual : Option String) : Option String :=
  match r with
  | .search a => a.config.orElse fun _ => usual
  | _ => none

end SearchFilter.CommandLine
