import SearchFilter.Date

/-!
# Instants

An instant is a second counted from the start of 1970 in UTC and a count of nanoseconds. A second may
be a long one and have as many nanoseconds as two: that is how a leap second is counted, which
follows the last second of a minute.
-/

namespace SearchFilter

namespace Instant

/-- The first year an instant can lie in. -/
def firstYear : Int := -262143

/-- The last year an instant can lie in. -/
def lastYear : Int := 262142

def firstSecond : Int := -8334601228800

def lastSecond : Int := 8210266876799

def secondsPerDay : Int := 86400

def nanosPerSecond : Nat := 1000000000

/-- The counts name an instant. -/
def Valid (seconds : Int) (nanos : Nat) : Prop :=
  firstSecond ≤ seconds ∧ seconds ≤ lastSecond ∧ nanos < 2 * nanosPerSecond

instance (seconds : Int) (nanos : Nat) : Decidable (Valid seconds nanos) :=
  inferInstanceAs (Decidable (_ ∧ _))

end Instant

/-- A point in time with a precision of a nanosecond. -/
structure Instant where
  seconds : Int
  nanos : Nat
  valid : Instant.Valid seconds nanos
deriving DecidableEq

namespace Instant

/-- The instant of two counts, if they name one. -/
def of? (seconds : Int) (nanos : Nat) : Option Instant :=
  if h : Valid seconds nanos then some ⟨seconds, nanos, h⟩ else none

@[simp] theorem of?_self (t : Instant) : of? t.seconds t.nanos = some t := by
  simp [of?, t.valid]

/-- The day number of a count of seconds, and the second of that day. -/
def splitDay (seconds : Int) : Int × Nat :=
  (seconds / secondsPerDay, (seconds % secondsPerDay).toNat)

/-- The date of an instant in UTC. -/
def date (t : Instant) : Date := .ofDayNumber (t.seconds / secondsPerDay)

/-- A time of day as written: the second 60 is a leap second. -/
structure Clock where
  hour : Nat
  minute : Nat
  second : Nat
  nanos : Nat
deriving DecidableEq, Repr

/-- The fields are those of a time of day. -/
def Clock.Exists (c : Clock) : Prop :=
  c.hour < 24 ∧ c.minute < 60 ∧ c.second ≤ 60 ∧ c.nanos < nanosPerSecond

instance (c : Clock) : Decidable c.Exists := inferInstanceAs (Decidable (_ ∧ _))

/-- The instant at which clocks `offset` seconds ahead of UTC show a date and a time. -/
def ofLocal? (d : Date) (c : Clock) (offset : Int) : Option Instant :=
  if d.Exists ∧ firstYear ≤ d.year ∧ d.year ≤ lastYear ∧ c.Exists then
    let (second, leap) := if c.second = 60 then (59, nanosPerSecond) else (c.second, 0)
    of? (d.dayNumber * secondsPerDay + c.hour * 3600 + c.minute * 60 + second - offset)
      (leap + c.nanos)
  else none

/-- The midnight in UTC that begins a date. -/
def midnight? (d : Date) : Option Instant := ofLocal? d ⟨0, 0, 0, 0⟩ 0

/-- The instant a count of microseconds after the start of 1970. -/
def ofMicros? (micros : Int) : Option Instant :=
  of? (micros / 1000000) ((micros % 1000000).toNat * 1000)

/-- The start of the year 2000, in seconds. -/
def year2000 : Int := 946684800

/-- Whole microseconds from the start of 1970. What is left of a microsecond is dropped towards
the start of 2000. -/
def micros (t : Instant) : Int :=
  let nanos := (t.seconds - year2000) * nanosPerSecond + t.nanos
  nanos.tdiv 1000 + year2000 * 1000000

end Instant

end SearchFilter
