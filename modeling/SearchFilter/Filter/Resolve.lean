import SearchFilter.Condition
import SearchFilter.Filter.Reader
import SearchFilter.Filter.Typing
import SearchFilter.Text.Bytes

/-!
# From filter texts to conditions

`Filter.parse` reads a text, looks up every column, types every literal and joins the comparisons
from the left. The first failure from left to right decides.
-/

namespace SearchFilter

/-- How the columns of a filter are looked up. -/
abbrev Resolver := String → Except Failure Field

/-- Looks up names in a list of columns. The first column of a name counts. -/
def Resolver.ofFields (fields : List Field) : Resolver := fun name =>
  match fields.find? fun f => f.column.name == name with
  | some f => .ok f
  | none => .error (.unknownColumn name)

namespace Filter

open Text

/-- How many bytes of a text come before what is left of it. -/
def position (source rest : List Char) : Nat := byteLength source - byteLength rest

/-- The failure of a fault in a text, where `rest` is left of it. -/
def failAt (source rest : List Char) (fault : Fault) : Failure :=
  .parse (position source rest) fault

/-- The part of a text from the place at fault on. -/
def Fault.rest : Fault → List Char
  | .expected _ rest => rest
  | .trailing rest => rest
  | .mistyped .. => []
  | .other _ => []

/-- The comparison of a clause: its column is looked up and its literal typed. -/
def Clause.resolve (source : List Char) (resolver : Resolver) (c : Clause) :
    Except Failure Condition :=
  match resolver (String.ofList c.name) with
  | .error e => .error e
  | .ok field =>
    match c.literal.value field.type with
    | .ok v => .ok (.compare field.column c.op v)
    | .error type => .error (failAt source c.tail (.mistyped type c.literal.word c.name))

/-- A folded chain. An empty one has no condition. -/
def joined (join : Conjunction) (cs : List Condition) : Except Failure Condition :=
  match Condition.join? join cs with
  | some c => .ok c
  | none => .error .missingExpression

mutual

/-- The condition of a filter. -/
def resolve (source : List Char) (resolver : Resolver) : Filter → Except Failure Condition
  | .clause c => c.resolve source resolver
  | .all fs =>
    match resolveEach source resolver fs [] with
    | .error e => .error e
    | .ok cs => joined .and cs
  | .any fs =>
    match resolveEach source resolver fs [] with
    | .error e => .error e
    | .ok cs => joined .or cs

/-- The conditions of some filters. The earlier ones are there, the last one first. -/
def resolveEach (source : List Char) (resolver : Resolver) :
    List Filter → List Condition → Except Failure (List Condition)
  | [], done => .ok done.reverse
  | f :: fs, done =>
    match resolve source resolver f with
    | .error e => .error e
    | .ok c => resolveEach source resolver fs (c :: done)

end

/-- Read a whole text, without white space around it. -/
def read (source : List Char) : Except Failure Filter :=
  if source.isEmpty then .error .missingExpression
  else
    match take .whole source with
    | .error fault => .error (failAt source fault.rest fault)
    | .ok ⟨f, [], _⟩ => .ok f
    | .ok ⟨_, rest, _⟩ => .error (failAt source rest (.trailing rest))

/-- The condition of a filter text. -/
def parse (resolver : Resolver) (text : String) : Except Failure Condition :=
  let source := trim text.toList
  match read source with
  | .error e => .error e
  | .ok f => f.resolve source resolver

end Filter

end SearchFilter
