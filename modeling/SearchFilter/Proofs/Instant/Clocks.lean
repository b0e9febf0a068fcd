import SearchFilter.Instant.Writing
import SearchFilter.Proofs.Date.Calendar

/-!
# Clocks

Clocks show the second half of a long second as the next second. At the end of a minute that is the
second 60, but elsewhere a short second is shown in the same way: an instant has the same time on
all clocks as the one `shown`, which is another one unless it is `Regular` (`toLocal_shown`). What
clocks of a zone show and the regular instant at which they show it determine each other
(`ofLocal?_toLocal`, `toLocal_of_ofLocal?`). On clocks of UTC every instant lies in the years of
instants, and every time of these years is that of an instant (`year_toLocal_utc`,
`exists_ofLocal?`); other clocks may go beyond the first and the last day.
-/

namespace SearchFilter.Instant

open Text

/-- The zone is less than a day away from UTC. -/
def Zone.Exists (zone : Zone) : Prop := zone.minutes.natAbs < 1440

instance (zone : Zone) : Decidable zone.Exists := inferInstanceAs (Decidable (_ < _))

/-! ## Long seconds -/

/-- The second is the last of a minute if it is a long one and the instant lies in its second
half. -/
def Regular (t : Instant) : Prop := nanosPerSecond ≤ t.nanos → t.seconds % 60 = 59

instance (t : Instant) : Decidable t.Regular := inferInstanceAs (Decidable (_ → _))

/-- The last second of all is the last of a minute, so that a second follows every other one. -/
theorem valid_of_not_regular {t : Instant} (h : ¬t.Regular) :
    Valid (t.seconds + 1) (t.nanos - nanosPerSecond) := by
  have hvalid := t.valid
  rw [Regular, Classical.not_imp] at h
  simp only [Valid, firstSecond, lastSecond, nanosPerSecond] at hvalid ⊢
  omega

/-- The regular instant at which clocks show the same. -/
def shown (t : Instant) : Instant :=
  if h : t.Regular then t else ⟨t.seconds + 1, t.nanos - nanosPerSecond, valid_of_not_regular h⟩

theorem Regular.shown_eq {t : Instant} (h : t.Regular) : t.shown = t := dif_pos h

theorem regular_shown (t : Instant) : t.shown.Regular := by
  by_cases h : t.Regular
  · rw [h.shown_eq]
    exact h
  · have hnanos := t.valid.2.2
    rw [shown, dif_neg h]
    intro hlong
    simp only [nanosPerSecond] at hnanos hlong
    omega

theorem shown_eq_self_iff {t : Instant} : t.shown = t ↔ t.Regular := by
  constructor
  · intro h
    rw [← h]
    exact t.regular_shown
  · exact Regular.shown_eq

theorem toLocal_shown (t : Instant) (zone : Zone) : t.shown.toLocal zone = t.toLocal zone := by
  by_cases h : t.Regular
  · rw [h.shown_eq]
  have hnanos := t.valid.2.2
  have hlong : nanosPerSecond ≤ t.nanos ∧ t.seconds % 60 ≠ 59 := Classical.not_imp.1 h
  have hshort : ¬nanosPerSecond ≤ t.nanos - nanosPerSecond := by omega
  have hday : (t.seconds + 1 + zone.minutes * 60) / secondsPerDay =
      (t.seconds + zone.minutes * 60) / secondsPerDay := by
    rw [secondsPerDay]
    omega
  have hsecond : ((t.seconds + 1 + zone.minutes * 60) % secondsPerDay).toNat =
      ((t.seconds + zone.minutes * 60) % secondsPerDay).toNat + 1 := by
    rw [secondsPerDay]
    omega
  have hrest : ((t.seconds + zone.minutes * 60) % secondsPerDay).toNat % 60 ≠ 59 := by
    rw [secondsPerDay]
    omega
  simp only [shown, dif_neg h, toLocal, splitDay, hday, hsecond, if_pos hlong.1, if_neg hshort,
    Prod.mk.injEq, Clock.mk.injEq, true_and]
  simp only [nanosPerSecond] at hnanos hlong ⊢
  omega

/-- Half a second into the second half of a long second, which is the first one of 1970. -/
def longSecond : Instant := ⟨0, 1500000000, by decide⟩

example : longSecond.shown = ⟨1, 500000000, by decide⟩ := by decide

/-! ## What clocks show -/

theorem exists_date_toLocal (t : Instant) (zone : Zone) : (t.toLocal zone).1.Exists :=
  Date.exists_ofDayNumber _

/-- A leap second, and nothing else, is shown as the second 60: it is the last one of a minute on
every clock. -/
theorem second_toLocal (t : Instant) (zone : Zone) :
    ((t.toLocal zone).2.second = 60 ↔ nanosPerSecond ≤ t.nanos ∧ t.seconds % 60 = 59) ∧
      (t.toLocal zone).2.second ≤ 60 := by
  by_cases hn : nanosPerSecond ≤ t.nanos
  · simp only [toLocal, splitDay, secondsPerDay, hn, if_true, true_and]
    omega
  · simp only [toLocal, splitDay, secondsPerDay, hn, if_false, false_and, iff_false]
    omega

theorem exists_clock_toLocal (t : Instant) (zone : Zone) : (t.toLocal zone).2.Exists := by
  refine ⟨?_, ?_, (second_toLocal t zone).2, Nat.mod_lt _ (by decide)⟩
  · simp only [toLocal, splitDay, secondsPerDay]
    omega
  · simp only [toLocal, splitDay, secondsPerDay]
    omega

/-- Where clocks show the beginning of a minute, no long second goes on. -/
theorem regular_of_second_toLocal {t : Instant} {zone : Zone}
    (h : (t.toLocal zone).2.second = 0) : t.Regular := by
  intro hn
  simp only [toLocal, if_pos hn] at h
  omega

theorem of?_eq_some_iff {seconds : Int} {nanos : Nat} {t : Instant} :
    of? seconds nanos = some t ↔ t.seconds = seconds ∧ t.nanos = nanos := by
  constructor
  · intro h
    unfold of? at h
    split at h
    · cases h
      exact ⟨rfl, rfl⟩
    · cases h
  · rintro ⟨rfl, rfl⟩
    exact of?_self t

/-- The two counts of the instant at which clocks show a date and a time. A leap second is counted as
the second before it. -/
theorem ofLocal?_eq_some_iff {d : Date} {c : Clock} {offset : Int} {t : Instant} :
    ofLocal? d c offset = some t ↔
      (d.Exists ∧ firstYear ≤ d.year ∧ d.year ≤ lastYear ∧ c.Exists) ∧
        t.seconds = d.dayNumber * secondsPerDay +
          (c.hour * 3600 + c.minute * 60 + min c.second 59 : Nat) - offset ∧
        t.nanos = c.second / 60 * nanosPerSecond + c.nanos := by
  unfold ofLocal?
  by_cases hexists : d.Exists ∧ firstYear ≤ d.year ∧ d.year ≤ lastYear ∧ c.Exists
  · have hsecond := hexists.2.2.2.2.2.1
    rw [if_pos hexists, and_iff_right hexists]
    by_cases h60 : c.second = 60
    · rw [if_pos h60]
      simp only [of?_eq_some_iff, h60]
      omega
    · rw [if_neg h60]
      simp only [of?_eq_some_iff, nanosPerSecond]
      omega
  · rw [if_neg hexists]
    simp only [hexists, false_and, reduceCtorEq]

/-- What clocks of a zone show at a regular instant determines it. -/
theorem Regular.ofLocal?_toLocal {t : Instant} (h : t.Regular) (zone : Zone)
    (hfirst : firstYear ≤ (t.toLocal zone).1.year) (hlast : (t.toLocal zone).1.year ≤ lastYear) :
    ofLocal? (t.toLocal zone).1 (t.toLocal zone).2 (zone.minutes * 60) = some t := by
  apply ofLocal?_eq_some_iff.2
  refine ⟨⟨exists_date_toLocal t zone, hfirst, hlast, exists_clock_toLocal t zone⟩, ?_⟩
  have hnanos := t.valid.2.2
  by_cases hn : nanosPerSecond ≤ t.nanos
  · have hleap := h hn
    simp only [toLocal, splitDay, secondsPerDay, if_pos hn, Date.dayNumber_ofDayNumber]
    simp only [nanosPerSecond] at hn hnanos ⊢
    omega
  · simp only [toLocal, splitDay, secondsPerDay, if_neg hn, Date.dayNumber_ofDayNumber]
    simp only [nanosPerSecond] at hn ⊢
    omega

/-- What clocks of a zone show at an instant is read as the regular one at which they show it. -/
theorem ofLocal?_toLocal (t : Instant) (zone : Zone) (hfirst : firstYear ≤ (t.toLocal zone).1.year)
    (hlast : (t.toLocal zone).1.year ≤ lastYear) :
    ofLocal? (t.toLocal zone).1 (t.toLocal zone).2 (zone.minutes * 60) = some t.shown := by
  rw [← t.toLocal_shown zone] at hfirst hlast ⊢
  exact t.regular_shown.ofLocal?_toLocal zone hfirst hlast

/-- Clocks of whole minutes give no other instants than regular ones. -/
theorem regular_of_ofLocal? {d : Date} {c : Clock} {t : Instant} (zone : Zone)
    (h : ofLocal? d c (zone.minutes * 60) = some t) : t.Regular := by
  obtain ⟨⟨-, -, -, -, -, hsecond, hnanos⟩, hseconds, htn⟩ := ofLocal?_eq_some_iff.1 h
  intro hlong
  rw [secondsPerDay] at hseconds
  rw [nanosPerSecond] at hnanos htn hlong
  omega

/-- An instant shows on clocks of a zone what they have to show to determine it. -/
theorem toLocal_of_ofLocal? {d : Date} {c : Clock} {t : Instant} (zone : Zone)
    (h : ofLocal? d c (zone.minutes * 60) = some t) : t.toLocal zone = (d, c) := by
  obtain ⟨⟨hd, -, -, hhour, hminute, hsecond, hnanos⟩, hseconds, htn⟩ := ofLocal?_eq_some_iff.1 h
  rw [nanosPerSecond] at hnanos htn
  have hday : (t.seconds + zone.minutes * 60) / secondsPerDay = d.dayNumber := by
    rw [hseconds, secondsPerDay]
    omega
  have hrest : ((t.seconds + zone.minutes * 60) % secondsPerDay).toNat =
      c.hour * 3600 + c.minute * 60 + min c.second 59 := by
    rw [hseconds, secondsPerDay]
    omega
  have hleap : (if nanosPerSecond ≤ t.nanos then 1 else 0) = c.second / 60 := by
    rw [nanosPerSecond]
    split <;> omega
  simp only [toLocal, splitDay, hday, hrest, hleap, Date.ofDayNumber_dayNumber hd, Prod.mk.injEq,
    true_and]
  obtain ⟨hour, minute, second, nanos⟩ := c
  simp only [nanosPerSecond, Clock.mk.injEq] at *
  omega

/-- A zone away from UTC may show dates beyond the first and the last day, but not beyond their
years. -/
theorem exists_ofLocal? {d : Date} {c : Clock} (zone : Zone) (hd : d.Exists) (hc : c.Exists)
    (hz : zone.Exists) (hyear : zone.minutes = 0 ∧ firstYear ≤ d.year ∧ d.year ≤ lastYear ∨
      firstYear < d.year ∧ d.year < lastYear) :
    ∃ t, ofLocal? d c (zone.minutes * 60) = some t := by
  obtain ⟨hhour, hminute, hsecond, hnanos⟩ := id hc
  have hyears : firstYear ≤ d.year ∧ d.year ≤ lastYear := by omega
  have hvalid : Valid (d.dayNumber * secondsPerDay +
      (c.hour * 3600 + c.minute * 60 + min c.second 59 : Nat) - zone.minutes * 60)
      (c.second / 60 * nanosPerSecond + c.nanos) := by
    rw [Zone.Exists] at hz
    simp only [Valid, firstSecond, lastSecond, secondsPerDay, nanosPerSecond] at hnanos ⊢
    rcases hyear with ⟨hzero, hfirst, hlast⟩ | ⟨hfirst, hlast⟩
    · have hday := Date.dayNumber_bounds hd hfirst hlast
      simp only [Date.daysBefore, firstYear, lastYear] at hday
      omega
    · have hday :=
        Date.dayNumber_bounds hd (Int.add_one_le_of_lt hfirst) (Int.le_sub_one_of_lt hlast)
      simp only [Date.daysBefore, firstYear, lastYear] at hday
      omega
  exact ⟨⟨_, _, hvalid⟩, ofLocal?_eq_some_iff.2 ⟨⟨hd, hyears.1, hyears.2, hc⟩, rfl, rfl⟩⟩

/-! ## Clocks of UTC -/

theorem date_toLocal_utc (t : Instant) : (t.toLocal .utc).1 = t.date := by
  simp [toLocal, splitDay, date, Zone.utc, Zone.minutes]

theorem year_toLocal_utc (t : Instant) :
    firstYear ≤ (t.toLocal .utc).1.year ∧ (t.toLocal .utc).1.year ≤ lastYear := by
  have hexists := exists_date_toLocal t .utc
  obtain ⟨hfirst, hlast, -⟩ := t.valid
  have hday : (t.toLocal .utc).1.dayNumber = t.seconds / secondsPerDay := by
    rw [date_toLocal_utc, date, Date.dayNumber_ofDayNumber]
  simp only [firstSecond, lastSecond, secondsPerDay] at hfirst hlast hday
  refine ⟨?_, ?_⟩
  · apply Int.not_lt.1
    intro hlt
    have hbound :=
      (Date.dayNumber_bounds hexists (Int.le_refl _) (Int.le_sub_one_of_lt hlt)).2
    simp only [Date.daysBefore, firstYear] at hbound
    omega
  · apply Int.not_lt.1
    intro hlt
    have hbound :=
      (Date.dayNumber_bounds hexists (Int.add_one_le_of_lt hlt) (Int.le_refl _)).1
    simp only [Date.daysBefore, lastYear] at hbound
    omega

/-- The midnight of a date is the instant at which clocks of UTC show the date and no time yet. -/
theorem midnight?_eq_some_iff {d : Date} {t : Instant} :
    midnight? d = some t ↔ t.toLocal .utc = (d, ⟨0, 0, 0, 0⟩) := by
  constructor
  · intro h
    exact toLocal_of_ofLocal? .utc h
  · intro h
    have hyear := year_toLocal_utc t
    have hsecond : (t.toLocal .utc).2.second = 0 := by rw [h]
    have hregular := regular_of_second_toLocal hsecond
    have hlocal := hregular.ofLocal?_toLocal .utc hyear.1 hyear.2
    rw [h] at hlocal
    exact hlocal

/-- The dates that four digits can write have a midnight. -/
theorem exists_midnight? {d : Date} (h : d.Exists) (hfirst : 0 ≤ d.year) (hlast : d.year ≤ 9999) :
    ∃ t, midnight? d = some t :=
  exists_ofLocal? .utc h (by decide) (by decide) (.inl ⟨rfl, by
    simp only [firstYear, lastYear]
    omega⟩)

/-- The text of the midnight of a date. -/
theorem text_of_midnight? {d : Date} {t : Instant} (h : midnight? d = some t) :
    t.text .utc = String.ofList (d.text ++ "T00:00:00+00:00".toList) := by
  rw [text, midnight?_eq_some_iff.1 h]
  simp only [Clock.text, List.append_assoc, List.cons_append]
  rfl

end SearchFilter.Instant
