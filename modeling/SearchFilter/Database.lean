import SearchFilter.ReleaseGroup.Search
import SearchFilter.Settings

/-!
# The database

What is sent to a server and what becomes of its answer. A parameter is bound with a type, a null
with the type of its column. The rows of an answer are decoded all or none: the first column that
is missing or null, in the order of the rows and within a row in the order of the table, decides.
-/

namespace SearchFilter

/-! ## Binding -/

/-- The type with which a parameter is bound. -/
inductive SqlType where
  | bool
  | int8
  | float8
  | text
  | timestamptz
deriving DecidableEq, Repr

def SqlType.name : SqlType → String
  | .bool => "BOOL"
  | .int8 => "INT8"
  | .float8 => "FLOAT8"
  | .text => "TEXT"
  | .timestamptz => "TIMESTAMPTZ"

/-- The type with which values of a column are bound. -/
def ColumnType.sqlType : ColumnType → SqlType
  | .integer => .int8
  | .float => .float8
  | .bool => .bool
  | .text => .text
  | .timestamp => .timestamptz

/-- A parameter as it is sent. -/
inductive Bind where
  | null (type : SqlType)
  | bool (b : Bool)
  | int8 (n : Int64)
  | float8 (x : Binary64)
  | text (s : String)
  /-- Microseconds from the start of 1970. -/
  | timestamptz (micros : Int)
deriving DecidableEq

def Bind.type : Bind → SqlType
  | .null type => type
  | .bool _ => .bool
  | .int8 _ => .int8
  | .float8 _ => .float8
  | .text _ => .text
  | .timestamptz _ => .timestamptz

/-- A value as it is sent. A null that knows no type is sent as a text. -/
def Value.bind : Value → Bind
  | .null => .null .text
  | .typedNull type => .null type.sqlType
  | .bool b => .bool b
  | .int n => .int8 n
  | .float x => .float8 x
  | .text s => .text s
  | .timestamp t => .timestamptz t.micros

/-- A statement as it is sent. -/
structure Request where
  sql : String
  binds : List Bind
deriving DecidableEq

/-- Send the text of a statement and its parameters in order. -/
def Statement.request (s : Statement) : Request := ⟨s.sql, s.params.map Value.bind⟩

/-! ## Answers -/

/-- A row as it arrives: any column may be null. -/
structure Row where
  id : Option Int32
  name : Option String
  type : Option Int32
  releaseDate : Option Instant
deriving DecidableEq

/-- The rows of an answer, and the columns that it does not have. -/
structure ResultSet where
  missing : List ReleaseGroup.Key
  rows : List Row

namespace ResultSet

open SearchFilter.ReleaseGroup

/-- The failure of a column that the answer does not have. -/
def noColumn (k : Key) : Failure := .execution ("no column found for name: " ++ k.toString)

/-- The failure of a column that is null. -/
def isNull (k : Key) : Failure :=
  .execution ("error occurred while decoding column \"" ++ k.toString ++
    "\": unexpected null; try decoding as an `Option`")

/-- One column of a row. -/
def decode {α : Type} (missing : List Key) (k : Key) (v : Option α) : Except Failure α :=
  if missing.contains k then .error (noColumn k)
  else
    match v with
    | some a => .ok a
    | none => .error (isNull k)

/-- One row, column by column. -/
def decodeRow (missing : List Key) (r : Row) : Except Failure ReleaseGroup := do
  let id ← decode missing .id r.id
  let name ← decode missing .name r.name
  let type ← decode missing .type r.type
  let releaseDate ← decode missing .releaseDate r.releaseDate
  return ⟨id, name, type, releaseDate⟩

/-- The rows in order. The ones decoded so far are there, the last one first. -/
def decodeRows (missing : List Key) (done : List ReleaseGroup) :
    List Row → Except Failure (List ReleaseGroup)
  | [] => .ok done.reverse
  | r :: rs =>
    match decodeRow missing r with
    | .error e => .error e
    | .ok g => decodeRows missing (g :: done) rs

/-- All rows of an answer, or the first failure. -/
def groups (r : ResultSet) : Except Failure (List ReleaseGroup) := decodeRows r.missing [] r.rows

end ResultSet

/-! ## Servers -/

/-- How a server answers. -/
structure Server where
  /-- What is said of a statement that it does not carry out. -/
  failure : Option String
  result : ResultSet

/-- What opens so many connections to a server at an address, or says why it cannot. -/
abbrev Client := String → UInt32 → Except String Server

/-- An open connection. -/
structure Database where
  server : Server

/-- What was sent to a server, and what came of it. -/
structure Exchange where
  sent : Option Request
  outcome : Except Failure (List ReleaseGroup)

namespace Database

/-- Connect to the database of the settings. -/
def connect (client : Client) (settings : Settings) : Except Failure Database :=
  match settings.requireDatabaseUrl with
  | .error e => .error e
  | .ok url =>
    match client url settings.maxConnections with
    | .error detail => .error (.connection detail)
    | .ok server => .ok ⟨server⟩

/-- Send a statement and decode every row of the answer. -/
def fetchAll (db : Database) (s : Statement) : Exchange :=
  ⟨some s.request,
    match db.server.failure with
    | some detail => .error (.execution detail)
    | none => db.server.result.groups⟩

/-- Send the search of a page of a query. Nothing is sent if the page is not one. -/
def search (db : Database) (q : Query) (p : Page) : Exchange :=
  match ReleaseGroup.search q p with
  | .error e => ⟨none, .error e⟩
  | .ok s => db.fetchAll s

end Database

end SearchFilter
