import SearchFilter.Failure
import SearchFilter.Filter.Syntax
import SearchFilter.Text.Alphanumeric
import SearchFilter.Text.Blank

/-!
# Reading filters

The grammar, with blanks allowed between the items:

```
filter  := chain ('|' chain)*
chain   := item ('&' item)*
item    := '(' filter ')' | clause
clause  := name operator literal
literal := '…' | word
```

The first character of an item decides which way it goes, so nothing is read twice: a parenthesis
commits to a group and a conjunction to an item after it. Every reader returns what it leaves of
the text, with the fact that it is shorter, and every failure carries the rest of the text from
the place at fault on.
-/

namespace SearchFilter.Filter

open Text

/-- A value read from a text, and the shorter text after it. -/
structure Taken (α : Type) (s : List Char) where
  value : α
  rest : List Char
  shorter : rest.length < s.length

/-- A reader's answer. -/
abbrev Answer (α : Type) (s : List Char) := Except Fault (Taken α s)

/-! ## Items of the text -/

/-- A character of a column's name. -/
def isNameChar (c : Char) : Bool := isAlphanumeric c || c == '_'

/-- A character of a word without quotes. -/
def isWordChar (c : Char) : Bool :=
  isAlphanumeric c || c == '_' || c == '-' || c == '.' || c == ':' || c == '+'

theorem length_dropWhile_lt {p : Char → Bool} {s : List Char} (h : s.takeWhile p ≠ []) :
    (s.dropWhile p).length < s.length := by
  have hs := congrArg List.length (List.takeWhile_append_dropWhile (p := p) (l := s))
  have := List.length_pos_iff.2 h
  rw [List.length_append] at hs
  omega

/-- The longest run of characters of a class, at least one. -/
def takeRun (p : Char → Bool) (s : List Char) : Answer (List Char) s :=
  if h : s.takeWhile p ≠ [] then .ok ⟨s.takeWhile p, s.dropWhile p, length_dropWhile_lt h⟩
  else .error (.expected .comparison s)

theorem length_lt_cons (c : Char) (s : List Char) : s.length < (c :: s).length :=
  Nat.lt_succ_self _

theorem length_lt_cons_cons (c d : Char) (s : List Char) : s.length < (c :: d :: s).length :=
  Nat.lt_succ_of_lt (Nat.lt_succ_self _)

/-- The shorter text after a mark and the blanks around it, if the mark comes next. -/
def takeMark? (mark : Char) (s : List Char) : Option { t : List Char // t.length < s.length } :=
  match h : skipBlanks s with
  | c :: t =>
    if c = mark then
      some ⟨skipBlanks t, Nat.lt_of_le_of_lt (length_skipBlanks_le t)
        (Nat.lt_of_lt_of_le (h ▸ length_lt_cons c t) (length_skipBlanks_le s))⟩
    else none
  | [] => none

/-- A comparison operator. The longer ones are tried first. -/
def takeOperator : (s : List Char) → Answer Comparator s
  | '!' :: '=' :: s => .ok ⟨.neq, s, length_lt_cons_cons ..⟩
  | '<' :: '=' :: s => .ok ⟨.lte, s, length_lt_cons_cons ..⟩
  | '>' :: '=' :: s => .ok ⟨.gte, s, length_lt_cons_cons ..⟩
  | '=' :: s => .ok ⟨.eq, s, length_lt_cons ..⟩
  | '<' :: s => .ok ⟨.lt, s, length_lt_cons ..⟩
  | '>' :: s => .ok ⟨.gt, s, length_lt_cons ..⟩
  | s => .error (.expected .comparison s)

/-- The text up to the next quote and what follows the quote. -/
def takeQuoted? (s : List Char) : Option (List Char × List Char) :=
  match s.dropWhile (· != '\'') with
  | [] => none
  | _ :: rest => some (s.takeWhile (· != '\''), rest)

theorem length_lt_of_takeQuoted? {s text rest : List Char}
    (h : takeQuoted? s = some (text, rest)) : rest.length < s.length := by
  have hs := (List.dropWhile_suffix (l := s) (· != '\'')).length_le
  unfold takeQuoted? at h
  split at h
  · cases h
  · next heq =>
    rw [heq] at hs
    cases h
    exact hs

/-- A text between quotes, or a word. A quote that is never closed begins neither. -/
def takeLiteral : (s : List Char) → Answer Literal s
  | '\'' :: s =>
    match h : takeQuoted? s with
    | some (text, rest) =>
      .ok ⟨.quoted text, rest, by have := length_lt_of_takeQuoted? h; simp; omega⟩
    | none => .error (.expected .comparison ('\'' :: s))
  | s =>
    match takeRun isWordChar s with
    | .ok ⟨word, rest, h⟩ => .ok ⟨.bare word, rest, h⟩
    | .error e => .error e

/-- A name, an operator and a literal, with the blanks around them. -/
def takeClause (s : List Char) : Answer Clause s :=
  match takeRun isNameChar (skipBlanks s) with
  | .error e => .error e
  | .ok ⟨name, afterName, h₁⟩ =>
    match takeOperator (skipBlanks afterName) with
    | .error e => .error e
    | .ok ⟨op, afterOp, h₂⟩ =>
      match takeLiteral (skipBlanks afterOp) with
      | .error e => .error e
      | .ok ⟨literal, rest, h₃⟩ =>
        .ok ⟨⟨name, op, literal, skipBlanks afterOp⟩, skipBlanks rest, by
          have h₀ := length_skipBlanks_le s
          have h₁' := length_skipBlanks_le afterName
          have h₂' := length_skipBlanks_le afterOp
          have h₃' := length_skipBlanks_le rest
          omega⟩

/-! ## The grammar -/

/-- What is read: an item, or a chain of one conjunction. -/
inductive Level where
  | item
  | chain (join : Conjunction)
deriving DecidableEq, Repr, Inhabited

namespace Level

/-- What a conjunction joins: `&` joins items, and `|` joins chains of `&`. -/
def operand : Conjunction → Level
  | .and => .item
  | .or => .chain .and

/-- The height of a level over the items. -/
def rank : Level → Nat
  | .item => 0
  | .chain .and => 1
  | .chain .or => 2

/-- A whole filter is a chain of `|`. -/
abbrev whole : Level := .chain .or

theorem rank_operand_lt (join : Conjunction) : (operand join).rank < (chain join).rank := by
  cases join <;> decide

end Level

/-- The character that stands for a conjunction. -/
def mark : Conjunction → Char
  | .and => '&'
  | .or => '|'

mutual

/-- An item is a group in parentheses or a clause, and a chain is operands with one conjunction
between them. A group leaves no trace but the shape of the tree. -/
def take (level : Level) (s : List Char) : Answer Filter s :=
  match level with
  | .item =>
    match takeMark? '(' s with
    | some ⟨t, ht⟩ =>
      match take .whole t with
      | .error e => .error e
      | .ok ⟨f, rest, h⟩ =>
        match takeMark? ')' rest with
        | some ⟨u, hu⟩ => .ok ⟨f, u, by omega⟩
        | none => .error (.expected .closingParen (skipBlanks rest))
    | none =>
      match takeClause s with
      | .error e => .error e
      | .ok ⟨c, rest, h⟩ => .ok ⟨.clause c, rest, h⟩
  | .chain join =>
    match take (.operand join) s with
    | .error e => .error e
    | .ok ⟨first, rest, h⟩ => takeMore join s [first] rest h
termination_by (s.length, level.rank + 1)
decreasing_by
  · exact Prod.Lex.left _ _ ht
  · exact Prod.Lex.right _ (Nat.succ_lt_succ (Level.rank_operand_lt join))
  · exact Prod.Lex.left _ _ h

/-- The further operands of a chain, if any. The earlier ones are there, the last one first. -/
def takeMore (join : Conjunction) (s : List Char) (done : List Filter) (rest : List Char)
    (h : rest.length < s.length) : Answer Filter s :=
  match takeMark? (mark join) rest with
  | none => .ok ⟨chain join done.reverse, rest, h⟩
  | some ⟨t, ht⟩ =>
    match take (.operand join) t with
    | .error e => .error e
    | .ok ⟨f, rest, h'⟩ => takeMore join s (f :: done) rest (by omega)
termination_by (rest.length, 0)
decreasing_by
  · exact Prod.Lex.left _ _ ht
  · exact Prod.Lex.left _ _ (by omega)

end

end SearchFilter.Filter
