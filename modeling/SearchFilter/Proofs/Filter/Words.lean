import SearchFilter.Filter.Reader
import SearchFilter.Filter.Typing
import SearchFilter.Proofs.Instant.Spelling

/-!
# Words

The texts of integers and instants are words of the grammar, so that they may stand in a filter
without quotes. They hold a digit, which the word `null` does not in any letter case.
-/

namespace SearchFilter

open SearchFilter.Text SearchFilter.Filter

/-! ## Digits and nulls -/

namespace Filter

variable {w : List Char} {c : Char}

theorem isWordChar_of_isDigit (h : c.isDigit = true) : isWordChar c = true := by
  have hlt : c.toNat < 128 := by
    rw [Char.isDigit_iff_toNat] at h
    exact Nat.lt_of_le_of_lt h.2 (by decide)
  have hdigit : ('0' ≤ c && c ≤ '9') = true := by
    rw [Char.isDigit, Bool.and_eq_true, decide_eq_true_eq, decide_eq_true_eq] at h
    rw [Bool.and_eq_true]
    exact ⟨decide_eq_true h.1, decide_eq_true h.2⟩
  rw [isWordChar, isAlphanumeric, if_pos hlt, isAsciiAlphanumeric, hdigit, Bool.or_true]
  rfl

theorem isNull_iff : isNull w = true ↔ w.map Char.toLower = ['n', 'u', 'l', 'l'] := by
  rw [isNull, beq_iff_eq, lowered]
  rfl

theorem isNull_eq_false_iff : isNull w = false ↔ w.map Char.toLower ≠ ['n', 'u', 'l', 'l'] := by
  rw [Ne, ← isNull_iff, Bool.not_eq_true]

/-- Only ASCII letters have a lower case of their own. -/
theorem toLower_eq_self (h : c.toNat < 65 ∨ 90 < c.toNat) : c.toLower = c := by
  have hupper : ¬(c.val ≥ 'A'.val ∧ c.val ≤ 'Z'.val) := by
    rintro ⟨hge, hle⟩
    rcases h with h | h
    · exact absurd h (Nat.not_lt.2 hge)
    · exact absurd h (Nat.not_lt.2 hle)
  exact dif_neg hupper

/-- The letters of a null in either case. -/
def nullLetters : List Char := ['N', 'U', 'L', 'n', 'u', 'l']

theorem mem_nullLetters (h : isNull w = true) (hc : c ∈ w) : c ∈ nullLetters := by
  have hmem : c.toLower ∈ ['n', 'u', 'l', 'l'] := isNull_iff.1 h ▸ List.mem_map_of_mem hc
  by_cases hlt : c.toNat < 128
  · have hascii : ∀ n < 128, (Char.ofNat n).toLower ∈ ['n', 'u', 'l', 'l'] →
        Char.ofNat n ∈ nullLetters := by decide
    have h := hascii c.toNat hlt
    rw [Char.ofNat_toNat] at h
    exact h hmem
  · have hlower : c.toLower = c := toLower_eq_self (.inr (by omega))
    have hletters : ∀ d ∈ ['n', 'u', 'l', 'l'], d ∈ nullLetters := by decide
    exact hletters c (hlower ▸ hmem)

/-- A word with a digit is no `null`. -/
theorem isNull_eq_false_of_isDigit (hc : c ∈ w) (h : c.isDigit = true) : isNull w = false := by
  have hletters : ∀ d ∈ nullLetters, d.isDigit = false := by decide
  cases hnull : isNull w with
  | false => rfl
  | true => rw [← h, hletters c (mem_nullLetters hnull hc)]

end Filter

/-! ## Integers -/

theorem isWordChar_of_mem_integerText {n : Int} {c : Char} (hc : c ∈ (integerText n).toList) :
    isWordChar c = true := by
  rw [integerText, String.toList_ofList] at hc
  split at hc
  · rcases List.mem_cons.1 hc with rfl | hc
    · rfl
    · exact isWordChar_of_isDigit (isDigit_of_mem_decimalDigits hc)
  · exact isWordChar_of_isDigit (isDigit_of_mem_decimalDigits hc)

theorem exists_isDigit_integerText (n : Int) : ∃ c ∈ (integerText n).toList, c.isDigit = true := by
  obtain ⟨c, hc⟩ := List.exists_mem_of_ne_nil _ (decimalDigits_ne_nil n.natAbs)
  refine ⟨c, ?_, isDigit_of_mem_decimalDigits hc⟩
  rw [integerText, String.toList_ofList]
  split
  · exact List.mem_cons_of_mem _ hc
  · exact hc

/-! ## Instants -/

theorem isWordChar_of_mem_paddedDigits {width n : Nat} {c : Char} (hc : c ∈ paddedDigits width n) :
    isWordChar c = true :=
  isWordChar_of_isDigit (isDigit_of_mem_paddedDigits hc)

theorem Date.isWordChar_of_mem_text {d : Date} {c : Char} (hc : c ∈ d.text) :
    isWordChar c = true := by
  simp only [text, List.mem_append, List.mem_cons] at hc
  rcases hc with (hc | rfl | hc) | rfl | hc
  · unfold yearText at hc
    split at hc
    · exact isWordChar_of_mem_paddedDigits hc
    · rcases List.mem_cons.1 hc with rfl | hc
      · split <;> rfl
      · exact isWordChar_of_mem_paddedDigits hc
  · rfl
  · exact isWordChar_of_mem_paddedDigits hc
  · rfl
  · exact isWordChar_of_mem_paddedDigits hc

/-- A date has a digit. -/
theorem Date.exists_isDigit_text (d : Date) : ∃ c ∈ d.text, c.isDigit = true := by
  obtain ⟨c, hc⟩ := List.exists_mem_of_ne_nil _ (decimalDigits_ne_nil d.day)
  refine ⟨c, ?_, isDigit_of_mem_decimalDigits hc⟩
  simp [Date.text, paddedDigits, hc]

namespace Instant

variable {fraction mark s : List Char} {c : Char} {t : Instant} {zone : Zone}

theorem FractionText.isWordChar_of_mem {n : Nat} (h : FractionText n fraction) (hc : c ∈ fraction) :
    isWordChar c = true := by
  cases h with
  | none => cases hc
  | digits =>
    rcases List.mem_cons.1 hc with rfl | hc
    · rfl
    · exact isWordChar_of_mem_paddedDigits hc

theorem Clock.isWordChar_of_mem_face {k : Clock} (hc : c ∈ k.face) : isWordChar c = true := by
  simp only [face, List.mem_append, List.mem_cons] at hc
  rcases hc with (hc | rfl | hc) | rfl | hc
  · exact isWordChar_of_mem_paddedDigits hc
  · rfl
  · exact isWordChar_of_mem_paddedDigits hc
  · rfl
  · exact isWordChar_of_mem_paddedDigits hc

theorem isWordChar_of_mem_hoursAndMinutes {n : Nat} (hc : c ∈ hoursAndMinutes n) :
    isWordChar c = true := by
  simp only [hoursAndMinutes, List.mem_append, List.mem_cons] at hc
  rcases hc with hc | rfl | hc
  · exact isWordChar_of_mem_paddedDigits hc
  · rfl
  · exact isWordChar_of_mem_paddedDigits hc

theorem ZoneText.isWordChar_of_mem {minutes : Int} (h : ZoneText minutes mark) (hc : c ∈ mark) :
    isWordChar c = true := by
  cases h with
  | zulu =>
    rcases List.mem_singleton.1 hc with rfl
    decide
  | ahead =>
    rcases List.mem_cons.1 hc with rfl | hc
    · rfl
    · exact isWordChar_of_mem_hoursAndMinutes hc
  | behind =>
    rcases List.mem_cons.1 hc with rfl | hc
    · rfl
    · exact isWordChar_of_mem_hoursAndMinutes hc

/-- Every text of an instant is a word. -/
theorem TextAt.isWordChar_of_mem (h : TextAt t zone s) (hc : c ∈ s) : isWordChar c = true := by
  obtain ⟨hfraction, hmark⟩ := h
  simp only [List.mem_append, List.mem_cons] at hc
  rcases hc with hc | rfl | hc | hc | hc
  · exact Date.isWordChar_of_mem_text hc
  · decide
  · exact Clock.isWordChar_of_mem_face hc
  · exact hfraction.isWordChar_of_mem hc
  · exact hmark.isWordChar_of_mem hc

theorem TextAt.exists_isDigit (h : TextAt t zone s) : ∃ c ∈ s, c.isDigit = true := by
  obtain ⟨c, hc, hdigit⟩ := (t.toLocal zone).1.exists_isDigit_text
  cases h
  exact ⟨c, List.mem_append_left _ hc, hdigit⟩

theorem isWordChar_of_mem_text (hc : c ∈ (t.text zone).toList) : isWordChar c = true :=
  (textAt_text t zone).isWordChar_of_mem hc

theorem exists_isDigit_text (zone : Zone) (t : Instant) :
    ∃ c ∈ (t.text zone).toList, c.isDigit = true :=
  (textAt_text t zone).exists_isDigit

end Instant

end SearchFilter
