import SearchFilter.Filter.Resolve
import SearchFilter.Query

/-!
# Release groups

The rows that are searched, the columns by which they are searched, and the search itself.
-/

namespace SearchFilter

/-- A row of release groups. -/
structure ReleaseGroup where
  id : Int32
  name : String
  type : Int32
  releaseDate : Instant
deriving DecidableEq

namespace ReleaseGroup

/-- The name of the table. -/
def table : String := "release_groups"

/-- The columns of the table. -/
inductive Key where
  | id
  | name
  | type
  | releaseDate
deriving DecidableEq, Repr, Inhabited

namespace Key

/-- The columns in the order of the table. -/
def all : List Key := [.id, .name, .type, .releaseDate]

def toString : Key → String
  | .id => "id"
  | .name => "name"
  | .type => "type"
  | .releaseDate => "release_date"

def columnType : Key → ColumnType
  | .id => .integer
  | .name => .text
  | .type => .integer
  | .releaseDate => .timestamp

/-- The column that has exactly this name. -/
def ofString? (s : String) : Option Key := all.find? fun k => k.toString == s

/-- The column that has exactly this name, or a failure that tells the name. -/
def find (s : String) : Except Failure Key :=
  match ofString? s with
  | some k => .ok k
  | none => .error (.unknownColumn s)

def column (k : Key) : Column := .plain k.toString

def field (k : Key) : Field := ⟨k.column, some k.columnType⟩

theorem ofString?_toString (k : Key) : ofString? k.toString = some k := by cases k <;> decide

theorem mem_all (k : Key) : k ∈ all := by cases k <;> decide

end Key

/-- Looks up names among the columns of the table. -/
def resolver : Resolver := fun name =>
  match Key.find name with
  | .ok k => .ok k.field
  | .error e => .error e

/-- The condition of a filter text over the columns of the table. -/
def parseFilter (text : String) : Except Failure Condition := Filter.parse resolver text

/-- The query of a filter text and the name of a column to sort by. The text is looked at
first. -/
def query (filter : String) (sort : Option String) (order : SortOrder) : Except Failure Query :=
  match parseFilter filter with
  | .error e => .error e
  | .ok c =>
    match sort with
    | none => .ok (.ofCondition c)
    | some name =>
      match Key.find name with
      | .error e => .error e
      | .ok k => .ok ((Query.ofCondition c).sortBy ⟨k.column, order⟩)

end ReleaseGroup

end SearchFilter
