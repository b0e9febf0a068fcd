import SearchFilter.Failure
import SearchFilter.Toml.Reader

/-!
# Settings

Settings come from a TOML document with at most two keys. The address of the database can then be
replaced, each time by a value that is given.
-/

namespace SearchFilter

/-- Where the database is and how many connections to it may be open. -/
structure Settings where
  databaseUrl : Option String
  maxConnections : UInt32
deriving DecidableEq, Repr

namespace Settings

/-- The settings of an empty document. -/
def default : Settings := ⟨none, 5⟩

/-! ## Documents -/

/-- Why a document cannot be read as settings. -/
inductive Fault where
  /-- It is not TOML. -/
  | malformed
  | unknownKey (key : Toml.Key)
  /-- A value of another kind than the expected one. -/
  | wrongKind (found : Toml) (expected : String)
  /-- An integer that does not fit. -/
  | outOfRange (found : Toml) (expected : String)

/-- What is said of a key or a value. -/
def Fault.sentence? : Fault → Option String
  | .malformed => none
  | .unknownKey key =>
    some ("unknown field `" ++ String.ofList key ++
      "`, expected `database_url` or `max_connections`")
  | .wrongKind found expected =>
    some ("invalid type: " ++ found.describe ++ ", expected " ++ expected)
  | .outOfRange found expected =>
    some ("invalid value: " ++ found.describe ++ ", expected " ++ expected)

/-- How a fault of a document is reported. A report may be long: it can show the line with the fault,
and say more of one that is not TOML. -/
abbrev Reporter := String → Fault → String

/-- The settings with one entry of a document added. -/
def set (s : Settings) (key : Toml.Key) (v : Toml) : Except Fault Settings :=
  if key = "database_url".toList then
    match v with
    | .string url => .ok { s with databaseUrl := some (String.ofList url) }
    | v => .error (.wrongKind v "a string")
  else if key = "max_connections".toList then
    match v with
    | .integer n =>
      if 0 ≤ n ∧ n < UInt32.size then .ok { s with maxConnections := UInt32.ofNat n.toNat }
      else .error (.outOfRange v "u32")
    | v => .error (.wrongKind v "u32")
  else .error (.unknownKey key)

/-- The settings with the entries of a document added in order. -/
def setAll (s : Settings) : Toml.Entries → Except Fault Settings
  | [] => .ok s
  | (k, v) :: es =>
    match s.set k v with
    | .error e => .error e
    | .ok s => setAll s es

/-- The settings that a document states. -/
def read (document : String) : Except Fault Settings :=
  match Toml.read? document.toList with
  | none => .error .malformed
  | some entries => default.setAll entries

/-- The settings of a document, which have to allow a connection. -/
def ofToml (report : Reporter) (document : String) : Except Failure Settings :=
  match read document with
  | .error fault => .error (.config (report document fault))
  | .ok s =>
    if s.maxConnections = 0 then .error (.config "max_connections must be at least 1") else .ok s

/-! ## The address of the database -/

/-- Replace the address of the database, if another one is given. -/
def withDatabaseUrl (s : Settings) (url : Option String) : Settings :=
  match url with
  | some u => { s with databaseUrl := some u }
  | none => s

/-- Replace the address of the database several times. -/
def withDatabaseUrls (s : Settings) (urls : List (Option String)) : Settings :=
  urls.foldl withDatabaseUrl s

/-- The address of the database, which has to be known. -/
def requireDatabaseUrl (s : Settings) : Except Failure String :=
  match s.databaseUrl with
  | some u => .ok u
  | none => .error (.config
      "no database URL; use --database-url, BOILING_DATABASE_URL or the config file")

/-! ## Files -/

/-- What a path leads to. -/
inductive File where
  | missing
  | directory
  | content (bytes : ByteArray)

/-- The text of a file. -/
def File.text : File → Except Failure String
  | .missing => .error (.io "No such file or directory (os error 2)")
  | .directory => .error (.io "Is a directory (os error 21)")
  | .content bytes =>
    match String.fromUTF8? bytes with
    | some s => .ok s
    | none => .error (.io "stream did not contain valid UTF-8")

/-- The settings of a file. What is wrong with its document is told with its path. -/
def ofFile (report : Reporter) (path : String) (file : File) : Except Failure Settings :=
  match file.text with
  | .error e => .error e
  | .ok document =>
    match ofToml report document with
    | .error (.config detail) => .error (.config (path ++ ": " ++ detail))
    | answer => answer

/-- The settings of the file that is asked for, or of the usual one. The file that is asked for has
to exist. -/
def load (report : Reporter) (files : String → File) (asked usual : Option String) :
    Except Failure Settings :=
  match asked with
  | some path => ofFile report path (files path)
  | none =>
    match usual with
    | none => .ok default
    | some path =>
      match files path with
      | .missing => .ok default
      | file => ofFile report path file

end Settings

end SearchFilter
