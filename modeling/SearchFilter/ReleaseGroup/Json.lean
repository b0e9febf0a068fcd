import SearchFilter.Instant.Reading
import SearchFilter.Json
import SearchFilter.Json.Scanner
import SearchFilter.ReleaseGroup

/-!
# Release groups in JSON

A row is written as an object with its members in the order of the table. It is read from an
object with its members in any order, others among them being passed over, or from an array with
the members' values in order.
-/

namespace SearchFilter.ReleaseGroup

/-- The JSON of a row. -/
def toJson (g : ReleaseGroup) : Json :=
  .object [
    (Key.id.toString, .int g.id.toInt),
    (Key.name.toString, .string g.name),
    (Key.type.toString, .int g.type.toInt),
    (Key.releaseDate.toString, .string (g.releaseDate.text .zulu))]

/-- The JSON text of a row. -/
def json (g : ReleaseGroup) : String := g.toJson.compact

/-- The indented JSON text of some rows. -/
def listJson (gs : List ReleaseGroup) : String := (Json.array (gs.map toJson)).pretty 0

/-! ## Reading -/

/-- The members of a row that have been read. -/
structure Members where
  id : Option Int32
  name : Option String
  type : Option Int32
  releaseDate : Option Instant

namespace Members

def empty : Members := ⟨none, none, none, none⟩

/-- Whether a member has been read. -/
def has (p : Members) : Key → Bool
  | .id => p.id.isSome
  | .name => p.name.isSome
  | .type => p.type.isSome
  | .releaseDate => p.releaseDate.isSome

/-- The row, if every member has been read. -/
def finish (p : Members) : Except Json.Fault ReleaseGroup :=
  match p with
  | ⟨some id, some name, some type, some releaseDate⟩ => .ok ⟨id, name, type, releaseDate⟩
  | _ => .error .mismatch

/-- Read the value of a member. -/
def take (p : Members) (k : Key) (s : List Char) : Except Json.Fault (Members × List Char) :=
  match k with
  | .id =>
    match Json.wantInt s with
    | .error e => .error e
    | .ok (n, rest) =>
      match Value.int32? n with
      | some i => .ok ({ p with id := some i }, rest)
      | none => .error .mismatch
  | .type =>
    match Json.wantInt s with
    | .error e => .error e
    | .ok (n, rest) =>
      match Value.int32? n with
      | some i => .ok ({ p with type := some i }, rest)
      | none => .error .mismatch
  | .name =>
    match Json.wantString s with
    | .error e => .error e
    | .ok (cs, rest) => .ok ({ p with name := some (String.ofList cs) }, rest)
  | .releaseDate =>
    match Json.wantString s with
    | .error e => .error e
    | .ok (cs, rest) =>
      match Instant.readRelaxed? cs with
      | some t => .ok ({ p with releaseDate := some t }, rest)
      | none => .error .mismatch

end Members

/-- What follows the colon between a key and its value. -/
def skipColon (s : List Char) : Except Json.Fault (List Char) :=
  match Text.expect? ':' (Text.skipBlanks s) with
  | some t => .ok t
  | none => .error .malformed

/-- Read a member, given what follows the opening quote of its key. A key may not come twice. -/
def takeMember (p : Members) (s : List Char) : Except Json.Fault (Members × List Char) :=
  match Json.takeStringRest? [] s with
  | none => .error .malformed
  | some (key, rest) =>
    match Key.ofString? (String.ofList key) with
    | some k =>
      if p.has k then .error .mismatch
      else
        match skipColon rest with
        | .error e => .error e
        | .ok t => p.take k t
    | none =>
      match skipColon rest with
      | .error e => .error e
      | .ok t =>
        match Json.skipValue? .lenient t with
        | some u => .ok (p, u)
        | none => .error .malformed

/-- Read the members after the first. Every member takes a character, so the fuel of a text is its
length. -/
def takeMembers (p : Members) : Nat → List Char → Except Json.Fault (Members × List Char)
  | 0, _ => .error .malformed
  | fuel + 1, s =>
    match Text.skipBlanks s with
    | '}' :: t => .ok (p, t)
    | ',' :: t =>
      match Text.skipBlanks t with
      | '"' :: u =>
        match takeMember p u with
        | .error e => .error e
        | .ok (q, rest) => takeMembers q fuel rest
      | _ => .error .malformed
    | _ => .error .malformed

/-- Read the elements of an array for the given members. -/
def takeElements (p : Members) (first : Bool) :
    List Key → List Char → Except Json.Fault (Members × List Char)
  | [], s =>
    match Text.skipBlanks s with
    | ']' :: t => .ok (p, t)
    | _ => .error .malformed
  | k :: ks, s =>
    match first, Text.skipBlanks s with
    | _, ']' :: _ => .error .mismatch
    | true, t =>
      match p.take k t with
      | .error e => .error e
      | .ok (q, rest) => takeElements q false ks rest
    | false, ',' :: t =>
      match Text.skipBlanks t with
      | ']' :: _ => .error .malformed
      | u =>
        match p.take k u with
        | .error e => .error e
        | .ok (q, rest) => takeElements q false ks rest
    | false, _ => .error .malformed

/-- A row at the start of a text, after blanks, and what follows it. -/
def takeJson (s : List Char) : Except Json.Fault (ReleaseGroup × List Char) :=
  let parts : Except Json.Fault (Members × List Char) :=
    match Text.skipBlanks s with
    | '{' :: t =>
      match Text.skipBlanks t with
      | '}' :: u => .ok (.empty, u)
      | '"' :: u =>
        match takeMember .empty u with
        | .error e => .error e
        | .ok (p, rest) => takeMembers p (rest.length + 1) rest
      | _ => .error .malformed
    | '[' :: t => takeElements .empty true Key.all t
    | t => .error (Json.otherKind t)
  match parts with
  | .error e => .error e
  | .ok (p, rest) =>
    match p.finish with
    | .error e => .error e
    | .ok g => .ok (g, rest)

/-- The row of a JSON text. -/
def ofJson (s : String) : Except Json.Fault ReleaseGroup :=
  match takeJson s.toList with
  | .error e => .error e
  | .ok (g, rest) =>
    match Json.wantEnd rest with
    | .error e => .error e
    | .ok () => .ok g

end SearchFilter.ReleaseGroup
