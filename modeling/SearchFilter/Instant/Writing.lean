import SearchFilter.Instant
import SearchFilter.Text.Digits

/-!
# Writing instants

The text of an instant is RFC 3339 in a chosen zone. A fraction has 0, 3, 6 or 9 digits, the
fewest that are exact. The second half of a long second is written as the next second, which is the
second 60 if the long one is the last of a minute.
-/

namespace SearchFilter

open Text

namespace Date

/-- Four digits for the years 0 to 9999, and a sign with at least four digits for the others. -/
def yearText (year : Int) : List Char :=
  if 0 ≤ year ∧ year ≤ 9999 then paddedDigits 4 year.natAbs
  else (if year < 0 then '-' else '+') :: paddedDigits 4 year.natAbs

/-- Year, month and day with hyphens between them. -/
def text (d : Date) : List Char :=
  yearText d.year ++ '-' :: paddedDigits 2 d.month ++ '-' :: paddedDigits 2 d.day

end Date

namespace Instant

/-- The zone an instant is written in. -/
inductive Zone where
  /-- UTC, marked with its letter. -/
  | zulu
  /-- Clocks that many minutes ahead of UTC, marked with a signed offset. -/
  | offset (minutes : Int)
deriving DecidableEq, Repr

namespace Zone

/-- UTC, marked with an offset of zero. -/
def utc : Zone := .offset 0

def minutes : Zone → Int
  | .zulu => 0
  | .offset m => m

def text : Zone → List Char
  | .zulu => ['Z']
  | .offset m =>
    (if m < 0 then '-' else '+') ::
      (paddedDigits 2 (m.natAbs / 60) ++ ':' :: paddedDigits 2 (m.natAbs % 60))

end Zone

/-- A fraction of a second in 0, 3, 6 or 9 digits. -/
def fractionText (nanos : Nat) : List Char :=
  if nanos = 0 then []
  else if nanos % 1000000 = 0 then '.' :: paddedDigits 3 (nanos / 1000000)
  else if nanos % 1000 = 0 then '.' :: paddedDigits 6 (nanos / 1000)
  else '.' :: paddedDigits 9 nanos

/-- The date and time that clocks of a zone show. -/
def toLocal (t : Instant) (zone : Zone) : Date × Clock :=
  let (day, second) := splitDay (t.seconds + zone.minutes * 60)
  let leap := if nanosPerSecond ≤ t.nanos then 1 else 0
  (.ofDayNumber day,
    ⟨second / 3600, second / 60 % 60, second % 60 + leap, t.nanos % nanosPerSecond⟩)

def Clock.text (c : Clock) : List Char :=
  paddedDigits 2 c.hour ++ ':' :: paddedDigits 2 c.minute ++ ':' :: paddedDigits 2 c.second ++
    fractionText c.nanos

/-- The text of an instant in a zone. -/
def text (zone : Zone) (t : Instant) : String :=
  let (date, clock) := t.toLocal zone
  String.ofList (date.text ++ 'T' :: clock.text ++ zone.text)

end Instant

end SearchFilter
