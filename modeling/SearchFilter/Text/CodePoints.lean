/-!
# Sets of code points

A Unicode property is held as a list of inclusive ranges of code points, in increasing order.
-/

namespace SearchFilter.Text

/-- A property of characters above ASCII, as inclusive ranges of code points. -/
abbrev Ranges := List (Nat × Nat)

namespace Ranges

/-- Whether some range holds the character. -/
def contains (rs : Ranges) (c : Char) : Bool :=
  rs.any fun r => r.1 ≤ c.toNat && c.toNat ≤ r.2

/-- Membership, said with an existential. -/
theorem contains_iff {rs : Ranges} {c : Char} :
    rs.contains c = true ↔ ∃ r ∈ rs, r.1 ≤ c.toNat ∧ c.toNat ≤ r.2 := by
  simp [contains]

end Ranges

end SearchFilter.Text
