import SearchFilter.Json.Number
import SearchFilter.Proofs.Text.Numerals

/-!
# Integers in JSON

The text of an integer is read back as the integer if it has 64 bits, with or without a sign
(`takeNumber?_integerText`). The text is a number of JSON because it has no zero in front
(`head?_decimalDigits`), and the significand keeps all its digits because the integer fits it. What
follows the text must not go on with the number (`NumberEnds`).
-/

namespace SearchFilter.Json

open Text

variable {ds rest : List Char}

/-! ## Digits -/

/-- A number with more than one digit does not begin with zero: it would have a digit less. -/
theorem head?_decimalDigits {n : Nat} (h : 1 < (decimalDigits n).length) :
    (decimalDigits n).head? ≠ some '0' := by
  intro hzero
  obtain ⟨ds, hds⟩ := List.head?_eq_some_iff.1 hzero
  have hdigits : ∀ c ∈ ds, c.isDigit = true := fun c hc =>
    isDigit_of_mem_decimalDigits (n := n) (hds ▸ List.mem_cons_of_mem _ hc)
  have hvalue : digitsValue ds = n := by
    have hzero : digitsValue (decimalDigits n) = digitsValue ds := by rw [hds]; rfl
    rw [← hzero, digitsValue_decimalDigits]
  have hlt := digitsValue_lt hdigits
  rw [hvalue] at hlt
  rw [hds, List.length_cons] at h
  have hle : (decimalDigits n).length ≤ ds.length :=
    (Nat.length_toDigits_le_iff (by decide) (by omega)).2 hlt
  rw [hds, List.length_cons] at hle
  omega

/-- What may go on with a number: a digit, a point or the letter of an exponent. -/
def continues (c : Char) : Bool := c.isDigit || c == '.' || c == 'e' || c == 'E'

/-- A number ends where this follows. -/
def NumberEnds (rest : List Char) : Prop := StartsOutside continues rest

theorem numberEnds_nil : NumberEnds [] := startsOutside_nil continues

theorem NumberEnds.startsOutside (h : NumberEnds rest) : StartsOutside Char.isDigit rest :=
  h.mono fun c hc => by simp [continues, hc]

theorem takeRun?_append (h : Digits ds) (hrest : StartsOutside Char.isDigit rest) :
    takeRun? (ds ++ rest) = some (ds, rest) := by
  unfold takeRun?
  rw [takeWhile_run h.isDigit hrest, dropWhile_run h.isDigit hrest]
  split
  · exact absurd rfl h.ne_nil
  · rfl

theorem NumberEnds.takeDecimals? (h : NumberEnds rest) :
    Json.takeDecimals? rest = some ([], rest) := by
  unfold Json.takeDecimals?
  split
  · exact absurd (startsOutside_cons.1 h) (by decide)
  · rfl

theorem NumberEnds.takeExponent? (h : NumberEnds rest) :
    Json.takeExponent? rest = some (none, rest) := by
  unfold Json.takeExponent?
  split
  · next c s =>
    apply if_neg
    rintro (rfl | rfl)
    · exact absurd (startsOutside_cons.1 h) (by decide)
    · exact absurd (startsOutside_cons.1 h) (by decide)
  · rfl

/-- A number begins with a digit or a hyphen. -/
theorem takeNumber?_eq_none {c : Char} {s : List Char} (hdigit : c.isDigit = false)
    (hhyphen : c ≠ '-') : takeNumber? (c :: s) = none := by
  have hrun : takeRun? (c :: s) = none := by
    rw [takeRun?, takeWhile_of_startsOutside (startsOutside_cons.2 hdigit)]
  have htext : takeNumberText? (c :: s) = none := by
    unfold takeNumberText?
    split
    next heq =>
      split at heq
      · next hminus => exact absurd (List.cons.inj hminus).1 hhyphen
      · cases heq
        rw [takeWhole?, hrun]
        rfl
  rw [takeNumber?, htext]
  rfl

/-! ## Significands -/

/-- What is read of some digits is at least what was read before them. -/
theorem le_foldl_digits (m : Nat) (ds : List Char) :
    m ≤ ds.foldl (fun n d => 10 * n + digitValue d) m := by
  induction ds generalizing m with
  | nil => exact Nat.le_refl m
  | cons d ds ih =>
    have hm : m ≤ 10 * m + digitValue d := by omega
    exact hm.trans (ih _)

/-- Digits that fit the significand are all added to it. -/
theorem Scaled.addWhole_eq {x : Scaled}
    (h : ds.foldl (fun n d => 10 * n + digitValue d) x.significand ≤ greatestSignificand) :
    x.addWhole ds =
      { x with significand := ds.foldl (fun n d => 10 * n + digitValue d) x.significand } := by
  induction ds generalizing x with
  | nil => rfl
  | cons d ds ih =>
    have hnext := (le_foldl_digits (10 * x.significand + digitValue d) ds).trans h
    rw [addWhole]
    simp only [if_pos hnext]
    exact ih h

theorem addWhole_decimalDigits {n : Nat} (h : n ≤ greatestSignificand) :
    Scaled.addWhole ⟨0, 0⟩ (decimalDigits n) = ⟨n, 0⟩ := by
  have hvalue : (decimalDigits n).foldl (fun n d => 10 * n + digitValue d) 0 = n :=
    digitsValue_decimalDigits n
  rw [Scaled.addWhole_eq (hvalue.symm ▸ h), hvalue]

/-! ## Integers -/

theorem takeWhole?_append (n : Nat) (hrest : StartsOutside Char.isDigit rest) :
    takeWhole? (decimalDigits n ++ rest) = some (decimalDigits n, rest) := by
  simp only [takeWhole?, takeRun?_append (digits_decimalDigits n) hrest, Option.bind_eq_bind,
    Option.bind_some]
  apply if_neg
  rintro ⟨hzero, hlength⟩
  exact head?_decimalDigits hlength hzero

theorem takeNumberText?_append (n : Nat) (h : NumberEnds rest) :
    takeNumberText? (decimalDigits n ++ rest) =
      some (⟨false, decimalDigits n, [], none⟩, rest) := by
  unfold takeNumberText?
  split
  next heq =>
    split at heq
    · next hminus => exact absurd ((digits_decimalDigits n).isDigit_head hminus) (by decide)
    · cases heq
      simp only [takeWhole?_append n h.startsOutside, h.takeDecimals?, h.takeExponent?,
        Option.bind_eq_bind, Option.bind_some]

theorem takeNumberText?_minus_append (n : Nat) (h : NumberEnds rest) :
    takeNumberText? ('-' :: decimalDigits n ++ rest) =
      some (⟨true, decimalDigits n, [], none⟩, rest) := by
  simp only [takeNumberText?, List.cons_append, takeWhole?_append n h.startsOutside,
    h.takeDecimals?, h.takeExponent?, Option.bind_eq_bind, Option.bind_some]

/-- An integer of 64 bits is read back. -/
theorem takeNumber?_integerText {n : Int} (hmin : -9223372036854775808 ≤ n)
    (hmax : n ≤ 9223372036854775807) (h : NumberEnds rest) :
    takeNumber? ((integerText n).toList ++ rest) = some (.int n, rest) := by
  have hfits : n.natAbs ≤ greatestSignificand := by
    show n.natAbs ≤ 18446744073709551615
    omega
  rw [integerText, String.toList_ofList]
  split
  · next hneg =>
    have hlimit : ¬(n.natAbs = 0 ∨ UInt64.size / 2 < n.natAbs) := by
      show ¬(n.natAbs = 0 ∨ 9223372036854775808 < n.natAbs)
      omega
    have habs : -(n.natAbs : Int) = n := by omega
    simp only [takeNumber?, takeNumberText?_minus_append n.natAbs h, NumberText.number?,
      addWhole_decimalDigits hfits, Option.bind_eq_bind, Option.bind_some, and_self, if_true,
      if_neg hlimit, habs]
  · next hneg =>
    have habs : (n.natAbs : Int) = n := by omega
    simp only [takeNumber?, takeNumberText?_append n.natAbs h, NumberText.number?,
      addWhole_decimalDigits hfits, Option.bind_eq_bind, Option.bind_some, and_self, if_true,
      Bool.false_eq_true, if_false, habs]

end SearchFilter.Json
