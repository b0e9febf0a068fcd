/-!
# Colours

Text for a terminal is painted with a style, unless colours are off.
-/

namespace SearchFilter.Terminal

inductive Colour where
  | red
  | green
  | yellow
  | cyan
  | white
deriving DecidableEq, Repr

def Colour.code : Colour → String
  | .red => "31"
  | .green => "32"
  | .yellow => "33"
  | .cyan => "36"
  | .white => "37"

/-- The look of a text. -/
inductive Style where
  | plain (colour : Colour)
  | bold (colour : Colour)
  | dimmed
deriving DecidableEq, Repr

/-- What turns a style on. -/
def Style.start : Style → String
  | .plain c => "\x1b[" ++ c.code ++ "m"
  | .bold c => "\x1b[1;" ++ c.code ++ "m"
  | .dimmed => "\x1b[2m"

/-- What turns every style off. -/
def reset : String := "\x1b[0m"

/-- Turn a style on again wherever a text turns styles off. -/
def restyle (start : List Char) : List Char → List Char
  | '\x1b' :: '[' :: '0' :: 'm' :: s => reset.toList ++ start ++ restyle start s
  | c :: s => c :: restyle start s
  | [] => []

/-- A text in a style. Where the text itself turns styles off, this one is turned on again. -/
def paint (colours : Bool) (style : Style) (text : String) : String :=
  if colours then
    style.start ++ String.ofList (restyle style.start.toList text.toList) ++ reset
  else text

/-- A text filled up with spaces on the right. -/
def pad (width : Nat) (text : String) : String :=
  text ++ String.ofList (List.replicate (width - text.length) ' ')

end SearchFilter.Terminal
