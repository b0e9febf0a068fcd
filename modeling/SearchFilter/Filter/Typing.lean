import SearchFilter.Failure
import SearchFilter.Filter.Syntax
import SearchFilter.Instant.Reading

/-!
# Typing literals

A literal takes the type of the column it is compared with. Against a column without a type, a
quoted literal is its own text and a bare word is classified by its form.
-/

namespace SearchFilter

open Text

/-- A word in lower case, as far as it is ASCII. -/
def Filter.lowered (word : List Char) : List Char := word.map Char.toLower

/-- The word is `null` in some letter case. -/
def Filter.isNull (word : List Char) : Bool := Filter.lowered word == "null".toList

namespace ColumnType

open SearchFilter.Filter

/-- A truth value: `true` or `false` in any letter case. -/
def readBool? (word : List Char) : Option Bool :=
  if lowered word = "true".toList then some true
  else if lowered word = "false".toList then some false
  else none

/-- The value of a type that a word stands for. -/
def read? (type : ColumnType) (word : List Char) : Option Value :=
  match type with
  | .text => some (.text (String.ofList word))
  | .integer => ((readInteger? word).bind Value.int64?).map .int
  | .float => (Binary64.read? word).map .float
  | .bool => (readBool? word).map .bool
  | .timestamp => (Instant.ofLiteral? word).map .timestamp

end ColumnType

namespace Filter

/-- The word, after any hyphens, begins with a digit. -/
def looksNumeric (word : List Char) : Bool :=
  match word.dropWhile (· == '-') with
  | c :: _ => c.isDigit
  | [] => false

/-- What a bare word means where no type is declared: a truth value, a null, an integer, and if it
looks numeric a floating-point number or a timestamp; else a text. -/
def classify (word : List Char) : Value :=
  if isNull word then .null
  else
    match ColumnType.read? .bool word with
    | some v => v
    | none =>
      match ColumnType.read? .integer word with
      | some v => v
      | none =>
        let numeric :=
          if looksNumeric word then
            (ColumnType.read? .float word).orElse fun _ => ColumnType.read? .timestamp word
          else none
        numeric.getD (.text (String.ofList word))

namespace Literal

/-- A word as a value of a type, or the type that it does not fit. -/
def accept (type : ColumnType) (word : List Char) : Except ColumnType Value :=
  match type.read? word with
  | some v => .ok v
  | none => .error type

/-- The value of a literal against a column, or the type of the column that it does not fit. -/
def value : Literal → Option ColumnType → Except ColumnType Value
  | .quoted t, none => .ok (.text (String.ofList t))
  | .bare w, none => .ok (classify w)
  | .quoted t, some type => accept type t
  | .bare w, some type => if isNull w then .ok (.typedNull type) else accept type w

end Literal

end Filter

end SearchFilter
