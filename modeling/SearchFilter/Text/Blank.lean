import SearchFilter.Text.CodePoints

/-!
# White space

Two notions of white space. `isWhiteSpace` is the Unicode property White_Space and says what is
trimmed around a text. `isBlank` is the four characters that may stand between the items of a
filter.
-/

namespace SearchFilter.Text

/-- White_Space above ASCII. -/
def whiteSpaceRanges : Ranges :=
  [
    (0x85, 0x85), (0xa0, 0xa0), (0x1680, 0x1680), (0x2000, 0x200a), (0x2028, 0x2029),
    (0x202f, 0x202f), (0x205f, 0x205f), (0x3000, 0x3000)
  ]

/-- The Unicode property White_Space. -/
def isWhiteSpace (c : Char) : Bool :=
  if c.toNat < 128 then c.toNat == 32 || (9 ≤ c.toNat && c.toNat ≤ 13)
  else whiteSpaceRanges.contains c

/-- Space, tab, carriage return or line feed. -/
def isBlank (c : Char) : Bool :=
  c == ' ' || c == '\t' || c == '\r' || c == '\n'

/-- Every blank is white space. -/
theorem isWhiteSpace_of_isBlank {c : Char} (h : isBlank c = true) : isWhiteSpace c = true := by
  simp only [isBlank, Bool.or_eq_true, beq_iff_eq] at h
  rcases h with ((rfl | rfl) | rfl) | rfl <;> rfl

/-- Drop the blanks a text begins with. -/
def skipBlanks (s : List Char) : List Char := s.dropWhile isBlank

/-- Drop the white space a text begins with. -/
def trimStart (s : List Char) : List Char := s.dropWhile isWhiteSpace

/-- Drop the white space a text ends with. -/
def trimEnd (s : List Char) : List Char := (s.reverse.dropWhile isWhiteSpace).reverse

/-- Drop the white space around a text. -/
def trim (s : List Char) : List Char := trimEnd (trimStart s)

theorem skipBlanks_suffix (s : List Char) : skipBlanks s <:+ s := List.dropWhile_suffix _

theorem length_skipBlanks_le (s : List Char) : (skipBlanks s).length ≤ s.length :=
  (skipBlanks_suffix s).length_le

end SearchFilter.Text
