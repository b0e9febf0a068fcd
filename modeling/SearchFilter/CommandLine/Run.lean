import SearchFilter.CommandLine.Arguments
import SearchFilter.Database
import SearchFilter.ReleaseGroup.Json
import SearchFilter.ReleaseGroup.Listing

/-!
# Commands

What each command prints, as a function of the arguments and of everything outside them. A dry run
shows the statement that a live run would send.
-/

namespace SearchFilter.CommandLine

open SearchFilter.Terminal

/-- What a command depends on besides its arguments. -/
structure Surroundings where
  /-- Output is painted. -/
  colours : Bool
  /-- The address of the database that the environment gives. -/
  databaseUrl : Option String
  files : String → Settings.File
  /-- Where the settings usually are. -/
  usualConfig : Option String
  report : Settings.Reporter
  client : Client

/-- What a command leaves behind. -/
structure Report where
  exit : Nat
  stdout : String
  stderr : String
  /-- What was sent to the server. -/
  sent : Option SearchFilter.Request
deriving DecidableEq

namespace Report

/-- Success, with lines of output. -/
def ok (lines : List String) (sent : Option SearchFilter.Request) : Report :=
  ⟨0, String.join (lines.map (· ++ "\n")), "", sent⟩

/-- A failure and the one it comes from. -/
def causes : Failure → String
  | .io detail => Failure.message (.io detail) ++ ": " ++ detail
  | f => f.message

/-- Failure, after some lines of output. -/
def failed (w : Surroundings) (lines : List String) (text : String)
    (sent : Option SearchFilter.Request) : Report :=
  ⟨1, String.join (lines.map (· ++ "\n")),
    paint w.colours (.bold .red) "Error:" ++ " " ++ text ++ "\n", sent⟩

end Report

/-- The lines about the parameters of a statement, counted from 1. -/
def parameterLines (w : Surroundings) (params : List Value) : List String :=
  if params.isEmpty then []
  else
    "" :: paint w.colours (.plain .cyan) "Parameters:" ::
      params.mapIdx fun i v =>
        "  " ++ placeholder (i + 1) ++ " = " ++ paint w.colours (.plain .yellow) v.display

/-- The lines about a statement. -/
def statementLines (w : Surroundings) (indent : String) (s : Statement) : List String :=
  paint w.colours (.bold .green) "Generated SQL:" ::
    (indent ++ paint w.colours (.plain .white) s.sql) :: parameterLines w s.params

/-- The query of some arguments. -/
def FilterArguments.query (a : FilterArguments) : Except Failure Query :=
  ReleaseGroup.query a.filter a.sort (if a.descending then .descending else .ascending)

/-! ## Search -/

def SearchArguments.page (a : SearchArguments) : Page := ⟨a.offset, a.limit⟩

/-- The settings that hold for a search. -/
def SearchArguments.settings (w : Surroundings) (a : SearchArguments) : Except Failure Settings :=
  match Settings.load w.report w.files a.config w.usualConfig with
  | .error e => .error e
  | .ok s => .ok (s.withDatabaseUrl a.databaseUrl)

/-- The hint that no database is known. -/
def noDatabaseHint : String :=
  "⚠ No database URL. Use --database-url or set BOILING_DATABASE_URL"

/-- The lines about found rows. -/
def groupLines (w : Surroundings) (format : Format) (gs : List ReleaseGroup) : List String :=
  if gs.isEmpty then [paint w.colours .dimmed "(no results)"]
  else
    match format with
    | .json => [ReleaseGroup.listJson gs]
    | .table =>
      let sheet := ReleaseGroup.Listing.sheet gs
      paint w.colours (.bold .white) sheet.heading :: paint w.colours .dimmed sheet.rule ::
        sheet.rows ++
        ["", paint w.colours (.plain .cyan) (Text.integerText sheet.count) ++ " row(s) returned"]

/-- Send a search and show what is found. -/
def runLive (w : Surroundings) (a : SearchArguments) (settings : Settings) (q : Query) : Report :=
  match Database.connect w.client settings with
  | .error e => .failed w [] ("failed to open the database pool: " ++ Report.causes e) none
  | .ok db =>
    let x := db.search q a.page
    match x.outcome with
    | .error e => .failed w [] (Report.causes e) x.sent
    | .ok gs => .ok (groupLines w a.format gs) x.sent

/-- Search, or show the statement where nothing is to be sent or nowhere is known to send it. -/
def runSearch (w : Surroundings) (a : SearchArguments) : Report :=
  match a.filter.query with
  | .error e => .failed w [] (Report.causes e) none
  | .ok q =>
    match ReleaseGroup.search q a.page with
    | .error e => .failed w [] (Report.causes e) none
    | .ok statement =>
      match a.settings w with
      | .error e => .failed w [] (Report.causes e) none
      | .ok settings =>
        if a.dryRun then .ok (statementLines w "" statement) none
        else if settings.databaseUrl.isNone then
          .ok (statementLines w "" statement ++
            ["", paint w.colours (.plain .yellow) noDatabaseHint]) none
        else runLive w a settings q

/-! ## Explain -/

/-- The lines that explain a query. -/
def queryLines (w : Surroundings) (q : Query) : List String :=
  paint w.colours (.bold .green) "Tokens:" ::
    (q.tokens.map fun t => "  " ++ paint w.colours (.plain .white) t.display) ++
    "" :: statementLines w "  " q.build

/-- Show the tokens, the statement and the parameters of a filter. The filter itself is shown
first, even if it has a fault. -/
def runExplain (w : Surroundings) (a : FilterArguments) : Report :=
  let start := [
    paint w.colours (.bold .cyan) "Filter Explanation",
    "",
    paint w.colours .dimmed "Filter:" ++ " " ++ paint w.colours (.plain .yellow) a.filter,
    ""]
  match a.query with
  | .error e => .failed w start (Report.causes e) none
  | .ok q => .ok (start ++ queryLines w q) none

/-! ## Columns -/

/-- The width of the first column. -/
def nameWidth : Nat := 16

/-- List the columns that can be searched. -/
def runColumns (w : Surroundings) : Report :=
  .ok ([
    paint w.colours (.bold .cyan) "release_groups columns",
    "",
    paint w.colours (.bold .white) (pad nameWidth "Column") ++ " " ++
      paint w.colours (.bold .white) "Type",
    paint w.colours .dimmed (String.ofList (List.replicate 32 '─'))] ++
    ReleaseGroup.Key.all.map fun k =>
      paint w.colours (.plain .cyan) (pad nameWidth k.toString) ++ " " ++
        paint w.colours .dimmed k.columnType.sqlName) none

/-! ## All commands -/

def versionLine : String := "boiling 0.3.0"

/-- How the program is used. -/
def helpLines : List String := [
  "Compile and run release-group searches",
  "",
  "Usage: boiling [-v] <command>",
  "",
  "Commands:",
  "  search <filter> [-s <column> [--desc]] [-l <limit>] [-o <offset>] [-d]",
  "         [-f table|json] [--database-url <url>] [--config <file>]",
  "  explain <filter> [-s <column> [--desc]]",
  "  columns"]

/-- Carry out a request. -/
def run (w : Surroundings) : Request → Report
  | .search a => runSearch w a
  | .explain a => runExplain w a
  | .columns => runColumns w
  | .help => .ok helpLines none
  | .version => .ok [versionLine] none
  | .misuse => ⟨2, "", "error: the arguments do not fit; try --help\n", none⟩

/-- Carry out what the arguments ask for. -/
def runArguments (w : Surroundings) (args : List String) : Report :=
  run w (request w.databaseUrl args)

end SearchFilter.CommandLine
