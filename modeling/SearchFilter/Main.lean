import SearchFilter.CommandLine.Environment

/-!
# The program

The outer layer: it looks up variables, reads one file, and prints. It cannot reach a server, so that
a search that is not a dry run is refused when it connects. Of a document with a fault it says only
what is wrong, not where.
-/

namespace SearchFilter.CommandLine

/-- The variables that the program looks at. -/
def environmentNames : List String :=
  [Environment.databaseUrlName, "CLICOLOR_FORCE", "NO_COLOR", "CLICOLOR", "XDG_CONFIG_HOME", "HOME"]

/-- Look up variables. -/
def readEnvironment (names : List String) : IO Environment := do
  let found ← names.mapM fun name => return (name, ← IO.getEnv name)
  return fun name => (found.lookup name).join

/-- Look at what is at a path. -/
def readFile (path : String) : IO Settings.File := do
  try
    return .content (← IO.FS.readBinFile path)
  catch
    | .inappropriateType .. => return .directory
    | _ => return .missing

/-- What is wrong with a document, without the line. -/
def briefReport : Settings.Reporter := fun _ fault => fault.sentence?.getD "TOML parse error"

/-- Every server is out of reach. -/
def noClient : Client := fun _ _ => .error "there is no connection to a server"

/-- Run the program and answer with its exit code. -/
def program (args : List String) : IO UInt32 := do
  let stdout ← IO.getStdout
  let env ← readEnvironment environmentNames
  let databaseUrl := env Environment.databaseUrlName
  let usual := env.settingsPath?
  let file ← match (request databaseUrl args).settingsPath? usual with
    | some path => readFile path
    | none => pure .missing
  let report := runArguments {
    colours := env.colours (← stdout.isTty)
    databaseUrl := databaseUrl
    files := fun _ => file
    usualConfig := usual
    report := briefReport
    client := noClient } args
  stdout.putStr report.stdout
  stdout.flush
  IO.eprint report.stderr
  return report.exit.toUInt32

end SearchFilter.CommandLine

def main (args : List String) : IO UInt32 := SearchFilter.CommandLine.program args
