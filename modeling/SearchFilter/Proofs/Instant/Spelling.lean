import SearchFilter.Instant.Writing
import SearchFilter.Proofs.Text.Digits

/-!
# The texts of an instant

RFC 3339 writes an instant in more than one way: a fraction may have more digits than it needs, UTC
has a letter and two offsets of zero, and every zone shows its own date and time. `TextAt` are the
texts in a given zone. The texts that are written, with the fewest digits that are exact and one
mark for each zone, are among them (`textAt_text`).
-/

namespace SearchFilter.Instant

open Text

/-- A fraction of a second, exact in 0, 3, 6 or 9 digits. -/
inductive FractionText (nanos : Nat) : List Char → Prop where
  | none (h : nanos = 0) : FractionText nanos []
  | digits {width n : Nat} (hwidth : width = 3 ∨ width = 6 ∨ width = 9)
      (h : nanos = n * Nat.pow 10 (9 - width)) :
      FractionText nanos ('.' :: paddedDigits width n)

/-- Hours and minutes, each with two digits. -/
def hoursAndMinutes (minutes : Nat) : List Char :=
  paddedDigits 2 (minutes / 60) ++ ':' :: paddedDigits 2 (minutes % 60)

/-- The mark of a zone whose clocks are some minutes ahead of UTC: a signed offset, or the letter of
UTC. Zero may have either sign. -/
inductive ZoneText : Int → List Char → Prop where
  | zulu : ZoneText 0 ['Z']
  | ahead {minutes : Int} (h : 0 ≤ minutes) :
      ZoneText minutes ('+' :: hoursAndMinutes minutes.natAbs)
  | behind {minutes : Int} (h : minutes ≤ 0) :
      ZoneText minutes ('-' :: hoursAndMinutes minutes.natAbs)

/-- A time of day to the second. -/
def Clock.face (c : Clock) : List Char :=
  paddedDigits 2 c.hour ++ ':' :: paddedDigits 2 c.minute ++ ':' :: paddedDigits 2 c.second

/-- The texts of an instant in a zone. -/
inductive TextAt (t : Instant) (zone : Zone) : List Char → Prop where
  | mk {fraction mark : List Char} (hfraction : FractionText (t.toLocal zone).2.nanos fraction)
      (hmark : ZoneText zone.minutes mark) :
      TextAt t zone ((t.toLocal zone).1.text ++
        'T' :: ((t.toLocal zone).2.face ++ (fraction ++ mark)))

theorem fractionText_fractionText (n : Nat) : FractionText n (fractionText n) := by
  unfold fractionText
  split
  · next h => exact .none h
  split
  · next h => exact .digits (.inl rfl) (Nat.div_mul_cancel (Nat.dvd_of_mod_eq_zero h)).symm
  split
  · next h => exact .digits (.inr (.inl rfl)) (Nat.div_mul_cancel (Nat.dvd_of_mod_eq_zero h)).symm
  · exact .digits (.inr (.inr rfl)) (Nat.mul_one n).symm

theorem zoneText_text (zone : Zone) : ZoneText zone.minutes zone.text := by
  cases zone with
  | zulu => exact .zulu
  | offset m =>
    by_cases hneg : m < 0
    · rw [Zone.text, if_pos hneg]
      exact .behind (Int.le_of_lt hneg)
    · rw [Zone.text, if_neg hneg]
      exact .ahead (Int.not_lt.1 hneg)

/-- What is written is a text of the instant. -/
theorem textAt_text (t : Instant) (zone : Zone) : TextAt t zone (t.text zone).toList := by
  have htext : (t.text zone).toList = (t.toLocal zone).1.text ++
      'T' :: ((t.toLocal zone).2.face ++ (fractionText (t.toLocal zone).2.nanos ++ zone.text)) := by
    rw [text, String.toList_ofList]
    simp only [Clock.text, Clock.face, List.append_assoc, List.cons_append]
  rw [htext]
  exact .mk (fractionText_fractionText _) (zoneText_text zone)

end SearchFilter.Instant
