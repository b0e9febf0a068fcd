import SearchFilter.Json
import SearchFilter.Json.Scanner
import SearchFilter.Value

/-!
# Values in JSON

A value is written without a tag: both nulls are `null` and a timestamp is a string. Reading gives
back a null, a truth value, an integer of 64 bits, any other number as a floating-point number, or
a text, and never a timestamp or a null with a type.
-/

namespace SearchFilter.Value

/-- The JSON of a value. -/
def toJson : Value → Json
  | .null => .null
  | .typedNull _ => .null
  | .bool b => .bool b
  | .int n => .int n.toInt
  | .float x => .float x
  | .text s => .string s
  | .timestamp t => .string (t.text .zulu)

/-- The JSON text of a value. -/
def json (v : Value) : String := v.toJson.compact

/-- The JSON text of a list of values. -/
def listJson (vs : List Value) : String := (Json.array (vs.map toJson)).compact

/-- The value of a JSON number. -/
def ofNumber : Json.Number → Value
  | .int n =>
    match int64? n with
    | some i => .int i
    | none => .float (.ofMagnitude (n < 0) (Binary64.nearest ⟨n.natAbs, 1⟩))
  | .float x => .float x

/-- A value at the start of a text, after blanks, and what follows it. Arrays and objects are no
values, but they have to be well formed. -/
def takeJson (s : List Char) : Except Json.Fault (Value × List Char) :=
  let t := Text.skipBlanks s
  let scalar? : Option (Value × List Char) :=
    match t with
    | 'n' :: _ => (Json.expectWord? "null".toList t).map fun r => (.null, r)
    | 't' :: _ => (Json.expectWord? "true".toList t).map fun r => (.bool true, r)
    | 'f' :: _ => (Json.expectWord? "false".toList t).map fun r => (.bool false, r)
    | '"' :: _ => (Json.takeString? t).map fun (cs, r) => (.text (String.ofList cs), r)
    | _ => (Json.takeNumber? t).map fun (n, r) => (ofNumber n, r)
  match scalar? with
  | some r => .ok r
  | none => .error (if (Json.skipValue? .strict t).isSome then .mismatch else .malformed)

/-- The value of a JSON text. -/
def ofJson (s : String) : Except Json.Fault Value :=
  match takeJson s.toList with
  | .error e => .error e
  | .ok (v, rest) =>
    match Json.wantEnd rest with
    | .error e => .error e
    | .ok () => .ok v

end SearchFilter.Value
