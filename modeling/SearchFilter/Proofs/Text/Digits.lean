import Mathlib.Algebra.Group.Nat.Defs
import SearchFilter.Proofs.Text.Run
import SearchFilter.Text.Digits
import SearchFilter.Value

/-!
# Written digits

The digits that are written for a number denote it, as many as it needs
(`digitsValue_decimalDigits`) and in a field of a fixed width (`digitsValue_paddedDigits`).
-/

namespace SearchFilter.Text

theorem digitsValue_eq_ofDigitChars (ds : List Char) : digitsValue ds = Nat.ofDigitChars 10 ds 0 :=
  rfl

@[simp] theorem digitsValue_decimalDigits (n : Nat) : digitsValue (decimalDigits n) = n :=
  Nat.ofDigitChars_ten_toDigits

theorem decimalDigits_ne_nil (n : Nat) : decimalDigits n ≠ [] := Nat.toDigits_ne_nil

theorem isDigit_of_mem_decimalDigits {n : Nat} {c : Char} (hc : c ∈ decimalDigits n) :
    c.isDigit = true := Nat.isDigit_of_mem_toDigits (by decide) (by decide) hc

/-! ## Runs of digits -/

/-- A run of digits, at least one. -/
structure Digits (ds : List Char) : Prop where
  ne_nil : ds ≠ []
  isDigit : ∀ c ∈ ds, c.isDigit = true

instance (ds : List Char) : Decidable (Digits ds) :=
  decidable_of_iff (ds ≠ [] ∧ ∀ c ∈ ds, c.isDigit = true)
    ⟨fun h => ⟨h.1, h.2⟩, fun h => ⟨h.1, h.2⟩⟩

theorem isDigits_iff {ds : List Char} : isDigits ds = true ↔ Digits ds := by
  rw [isDigits, Bool.and_eq_true, Bool.not_eq_true', List.isEmpty_eq_false_iff, List.all_eq_true]
  exact ⟨fun h => ⟨h.1, h.2⟩, fun h => ⟨h.1, h.2⟩⟩

theorem digits_decimalDigits (n : Nat) : Digits (decimalDigits n) :=
  ⟨decimalDigits_ne_nil n, fun _ hc => isDigit_of_mem_decimalDigits hc⟩

theorem Digits.exists_isDigit {ds : List Char} (h : Digits ds) : ∃ c ∈ ds, c.isDigit = true := by
  obtain ⟨c, hc⟩ := List.exists_mem_of_ne_nil ds h.ne_nil
  exact ⟨c, hc, h.isDigit c hc⟩

theorem Digits.notMem {ds : List Char} {c : Char} (h : Digits ds) (hc : c.isDigit = false) :
    c ∉ ds := by
  intro hmem
  rw [h.isDigit c hmem] at hc
  cases hc

theorem Digits.isDigit_head {ds s t : List Char} {c : Char} (h : Digits ds)
    (heq : ds ++ s = c :: t) : c.isDigit = true := by
  obtain ⟨d, ds, rfl⟩ := List.exists_cons_of_ne_nil h.ne_nil
  obtain ⟨rfl, -⟩ := List.cons.inj heq
  exact h.isDigit d List.mem_cons_self

/-- Digits do not begin with a character of another class. -/
theorem Digits.startsOutside {p : Char → Bool} {ds : List Char} (h : Digits ds)
    (hp : ∀ c, c.isDigit = true → p c = false) (s : List Char) : StartsOutside p (ds ++ s) := by
  intro c hc
  obtain ⟨t, ht⟩ := List.head?_eq_some_iff.1 hc
  exact hp c (h.isDigit_head ht)

/-- A text that begins with a digit has no sign. -/
theorem Digits.takeSign {ds : List Char} (h : Digits ds) : takeSign ds = (false, ds) := by
  unfold Text.takeSign
  split
  · exact absurd (h.isDigit '-' List.mem_cons_self) (by decide)
  · exact absurd (h.isDigit '+' List.mem_cons_self) (by decide)
  · rfl

/-! ## Fields of a fixed width -/

variable {width n : Nat} {c : Char}

/-- Zeros in front change nothing. -/
@[simp] theorem digitsValue_paddedDigits (width n : Nat) :
    digitsValue (paddedDigits width n) = n := by
  rw [paddedDigits, digitsValue_eq_ofDigitChars, Nat.ofDigitChars_append,
    Nat.ofDigitChars_replicate_zero, Nat.mul_zero]
  exact digitsValue_decimalDigits n

theorem isDigit_of_mem_paddedDigits (hc : c ∈ paddedDigits width n) : c.isDigit = true := by
  rcases List.mem_append.1 hc with hc | hc
  · rw [List.eq_of_mem_replicate hc]
    decide
  · exact isDigit_of_mem_decimalDigits hc

theorem digits_paddedDigits (width n : Nat) : Digits (paddedDigits width n) := by
  refine ⟨?_, fun _ hc => isDigit_of_mem_paddedDigits hc⟩
  intro hnil
  exact decimalDigits_ne_nil n (List.append_eq_nil_iff.1 hnil).2

theorem length_paddedDigits (hw : 0 < width) (hn : n < 10 ^ width) :
    (paddedDigits width n).length = width := by
  have h := (Nat.length_toDigits_le_iff (by decide) hw).2 hn
  simp only [paddedDigits, List.length_append, List.length_replicate, decimalDigits]
  omega

end SearchFilter.Text

namespace SearchFilter

/-- An integer of 64 bits is one. -/
theorem Value.int64?_toInt (n : Int64) : Value.int64? n.toInt = some n := by
  rw [Value.int64?, if_pos ⟨Int64.minValue_le_toInt n, Int64.toInt_le n⟩, Int64.ofInt_toInt]

/-- An integer of 32 bits is one. -/
theorem Value.int32?_toInt (n : Int32) : Value.int32? n.toInt = some n := by
  rw [Value.int32?, if_pos ⟨Int32.minValue_le_toInt n, Int32.toInt_le n⟩, Int32.ofInt_toInt]

end SearchFilter
