import SearchFilter.Proofs.Instant.Formats
import SearchFilter.Proofs.Instant.Spelling

/-!
# Reading instants back

Every text of an instant is one of RFC 3339 for what clocks of the zone show (`TextAt.dateTimeText`)
where these show one of the years 0 to 9999, which are the years that RFC 3339 can write; hence it
is read as the regular instant that clocks show, which is the instant itself if it is regular. A date
of these years is read as its midnight. The relaxed reader takes a sign before the year, so it reads
the text of every instant in UTC (`readRelaxed?_text`).
-/

namespace SearchFilter.Instant

open Text

variable {n width : Nat} {minutes : Int} {s rest : List Char} {d : Date} {t : Instant} {zone : Zone}

/-! ## Parts of texts -/

theorem numeral_paddedDigits (hw : 0 < width) (hn : n < 10 ^ width) :
    Numeral width n (paddedDigits width n) :=
  ⟨length_paddedDigits hw hn, fun _ hc => isDigit_of_mem_paddedDigits hc,
    digitsValue_paddedDigits width n⟩

/-- A fraction that is exact in its digits is one of RFC 3339. -/
theorem FractionText.fraction (h : FractionText n s) (hn : n < nanosPerSecond) :
    Fraction n s := by
  cases h with
  | none h =>
    subst h
    exact .none
  | @digits width k hwidth h =>
    have hpos : 0 < width := by omega
    have hk : k < 10 ^ width := by
      rw [nanosPerSecond, h] at hn
      rcases hwidth with rfl | rfl | rfl
      · show k < 1000
        exact Nat.lt_of_mul_lt_mul_right (a := 1000000) hn
      · show k < 1000000
        exact Nat.lt_of_mul_lt_mul_right (a := 1000) hn
      · rw [Nat.mul_one] at hn
        exact hn
    have hnumeral := numeral_paddedDigits hpos hk
    have hvalue : n = decimalValue (paddedDigits width k) * 10 ^ 9 /
        10 ^ (paddedDigits width k).length := by
      rw [← hnumeral.eq_decimalValue, hnumeral.length, h]
      rcases hwidth with rfl | rfl | rfl
      · show k * 1000000 = k * 1000000000 / 1000
        omega
      · show k * 1000 = k * 1000000000 / 1000000
        omega
      · show k * 1 = k * 1000000000 / 1000000000
        omega
    rw [hvalue]
    exact .digits (hnumeral.digits hpos)

theorem FractionText.startsOutside (h : FractionText n s)
    (hrest : StartsOutside Char.isDigit rest) : StartsOutside Char.isDigit (s ++ rest) := by
  cases h with
  | none => exact hrest
  | digits => exact startsOutside_cons.2 (by decide)

theorem hoursMinutes_hoursAndMinutes (hn : n < 1440) : HoursMinutes n (hoursAndMinutes n) := by
  have hhours : Numeral 2 (n / 60) _ := numeral_paddedDigits (by decide) (by omega)
  have hminutes : Numeral 2 (n % 60) _ := numeral_paddedDigits (by decide) (by omega)
  have h := HoursMinutes.mk hhours hminutes (by omega)
  rw [Nat.div_add_mod'] at h
  exact h

theorem ZoneText.mark (h : ZoneText minutes s) (hm : minutes.natAbs < 1440) : Mark minutes s := by
  have hnumber := hoursMinutes_hoursAndMinutes hm
  cases h with
  | zulu => exact .zulu (.inl rfl)
  | ahead h =>
    have hahead := Mark.ahead hnumber
    rw [Int.natAbs_of_nonneg h] at hahead
    exact hahead
  | behind h =>
    have hbehind := Mark.behind (.inl rfl) hnumber
    rw [Int.ofNat_natAbs_of_nonpos h, Int.neg_neg] at hbehind
    exact hbehind

/-- The text of a date of four digits for the year. -/
theorem dateText_text (h : d.Exists) (hfirst : 0 ≤ d.year) (hlast : d.year ≤ 9999) :
    DateText d d.text := by
  obtain ⟨year, month, day⟩ := d
  obtain ⟨hmonth, hmonth', hday, hday'⟩ := h
  have hdays := Date.daysInMonth_le year month
  simp only at *
  obtain ⟨year, rfl⟩ := Int.eq_ofNat_of_zero_le hfirst
  rw [Date.text, Date.yearText, if_pos ⟨hfirst, hlast⟩, Int.natAbs_natCast]
  simp only [List.append_assoc, List.cons_append]
  apply DateText.mk
  · exact numeral_paddedDigits (by decide) (by omega)
  · exact numeral_paddedDigits (by decide) (by omega)
  · exact numeral_paddedDigits (by decide) (by omega)

theorem clockText_face {k : Clock} (h : k.Exists) (hfraction : FractionText k.nanos s) :
    ClockText k (k.face ++ s) := by
  obtain ⟨hour, minute, second, nanos⟩ := k
  obtain ⟨hhour, hminute, hsecond, hnanos⟩ := h
  simp only at *
  simp only [Clock.face, List.append_assoc, List.cons_append]
  apply ClockText.mk
  · exact numeral_paddedDigits (by decide) (by omega)
  · exact numeral_paddedDigits (by decide) (by omega)
  · exact numeral_paddedDigits (by decide) (by omega)
  · exact hfraction.fraction hnanos

/-! ## Whole texts -/

/-- Every text of an instant is one of RFC 3339. -/
theorem TextAt.dateTimeText (h : TextAt t zone s) (hz : zone.Exists)
    (hfirst : 0 ≤ (t.toLocal zone).1.year) (hlast : (t.toLocal zone).1.year ≤ 9999) :
    DateTimeText (t.toLocal zone).1 (t.toLocal zone).2 zone.minutes s := by
  obtain ⟨hfraction, hmark⟩ := h
  have hdate := dateText_text (exists_date_toLocal t zone) hfirst hlast
  have hclock := clockText_face (exists_clock_toLocal t zone) hfraction
  rw [← List.append_assoc]
  exact .mk hdate (by decide) hclock (hmark.mark hz)

/-- A literal of any text of an instant is read as what clocks show at it. -/
theorem TextAt.ofLiteral? (h : TextAt t zone s) (hz : zone.Exists)
    (hfirst : 0 ≤ (t.toLocal zone).1.year) (hlast : (t.toLocal zone).1.year ≤ 9999) :
    Instant.ofLiteral? s = some t.shown := by
  have htext := h.dateTimeText hz hfirst hlast
  exact ofLiteral?_eq_some_iff.2 (.dateTime t.regular_shown htext (t.toLocal_shown _))

/-- A literal of the text of an instant in UTC is read as what clocks show at it. -/
theorem ofLiteral?_text (hfirst : 0 ≤ t.date.year) (hlast : t.date.year ≤ 9999) :
    ofLiteral? (t.text .utc).toList = some t.shown := by
  rw [← date_toLocal_utc] at hfirst hlast
  exact (textAt_text t .utc).ofLiteral? (by decide) hfirst hlast

/-- A date is read as its midnight. -/
theorem ofLiteral?_date (h : d.Exists) (hfirst : 0 ≤ d.year) (hlast : d.year ≤ 9999) :
    ofLiteral? d.text = midnight? d := by
  obtain ⟨t, ht⟩ := exists_midnight? h hfirst hlast
  rw [ht, ofLiteral?_eq_some_iff]
  exact .date (dateText_text h hfirst hlast).loose (midnight?_eq_some_iff.1 ht)

/-! ## All years -/

/-- Every year is written as one: a year of four digits needs no sign. -/
theorem yearText_yearText (year : Int) : YearText year (Date.yearText year) := by
  have hdigits := digits_paddedDigits 4 year.natAbs
  have hvalue : decimalValue (paddedDigits 4 year.natAbs) = year.natAbs := by
    rw [← digitsValue_eq_decimalValue, digitsValue_paddedDigits]
  unfold Date.yearText
  split
  · next hyear =>
    have hlength : (paddedDigits 4 year.natAbs).length = 4 :=
      length_paddedDigits (by decide) (by omega)
    have htext := YearText.unsigned hdigits (Nat.le_of_eq hlength)
    rw [hvalue, Int.natAbs_of_nonneg hyear.1] at htext
    exact htext
  · split
    · next hneg =>
      have htext := YearText.minus hdigits
      rw [hvalue, Int.ofNat_natAbs_of_nonpos (Int.le_of_lt hneg), Int.neg_neg] at htext
      exact htext
    · next hpos =>
      have htext := YearText.plus hdigits
      rw [hvalue, Int.natAbs_of_nonneg (Int.not_lt.1 hpos)] at htext
      exact htext

theorem takeYear?_yearText (year : Int) (s : List Char) :
    takeYear? (Date.yearText year ++ '-' :: s) = some (year, '-' :: s) := by
  have hhyphen : StartsOutside Char.isDigit ('-' :: s) := startsOutside_cons.2 (by decide)
  have hyear := (yearText_yearText year).takeYear?_append allWhiteSpace_nil hhyphen
  exact hyear

/-- A number of two digits is a short one. -/
theorem takeShort?_paddedDigits (hn : n < 100) (hs : StartsOutside Char.isDigit s) :
    takeShort? (paddedDigits 2 n ++ s) = some (n, s) := by
  have hshort := shortText_of_numeral (numeral_paddedDigits (by decide) hn)
  have htake := hshort.takeShort?_append allWhiteSpace_nil hs
  exact htake

/-- The text of an instant in UTC is read as what clocks show at it, whatever its year. -/
theorem readRelaxed?_text (t : Instant) : readRelaxed? (t.text .zulu).toList = some t.shown := by
  have hlocal := ofLocal?_toLocal t .zulu (year_toLocal_utc t).1 (year_toLocal_utc t).2
  obtain ⟨-, hmonth, -, hday⟩ := exists_date_toLocal t .zulu
  obtain ⟨hhour, hminute, hsecond, hnanos⟩ := exists_clock_toLocal t .zulu
  rw [text, String.toList_ofList]
  generalize t.toLocal .zulu = face at *
  obtain ⟨⟨year, month, day⟩, ⟨hour, minute, second, nanos⟩⟩ := face
  have hdays := Date.daysInMonth_le year month
  simp only at *
  have htwo {n : Nat} {c : Char} (hn : n < 100) (hc : c.isDigit = false) (s : List Char) :
      takeShort? (paddedDigits 2 n ++ c :: s) = some (n, c :: s) :=
    takeShort?_paddedDigits hn (startsOutside_cons.2 hc)
  have hzone : StartsOutside Char.isDigit ['Z'] := startsOutside_cons.2 (by decide)
  have hfraction := fractionText_fractionText nanos
  have htakeSecond := takeShort?_paddedDigits (Nat.lt_of_le_of_lt hsecond (by decide))
    (hfraction.startsOutside hzone)
  have htakeFraction := (hfraction.fraction hnanos).takeFraction?_append hzone
    (startsOutside_cons.2 (by decide))
  simp only [Date.text, Clock.text, Zone.text, List.append_assoc, List.cons_append]
  -- one field after the other, as in `readRfc3339?_eq`
  refine Option.bind_eq_some_iff.2 ⟨_, takeYear?_yearText year _, ?_⟩
  refine Option.bind_eq_some_iff.2 ⟨_, expect?_cons_self '-' _, ?_⟩
  refine Option.bind_eq_some_iff.2 ⟨_, htwo (n := month) (by omega) (by decide) _, ?_⟩
  refine Option.bind_eq_some_iff.2 ⟨_, expect?_cons_self '-' _, ?_⟩
  refine Option.bind_eq_some_iff.2 ⟨_, htwo (n := day) (by omega) (by decide) _, ?_⟩
  refine Option.bind_eq_some_iff.2 ⟨_, rfl, ?_⟩
  refine Option.bind_eq_some_iff.2 ⟨_, htwo (n := hour) (by omega) (by decide) _, ?_⟩
  refine Option.bind_eq_some_iff.2 ⟨_, expect?_cons_self ':' _, ?_⟩
  refine Option.bind_eq_some_iff.2 ⟨_, htwo (n := minute) (by omega) (by decide) _, ?_⟩
  refine Option.bind_eq_some_iff.2 ⟨_, expect?_cons_self ':' _, ?_⟩
  refine Option.bind_eq_some_iff.2 ⟨_, htakeSecond, ?_⟩
  exact Option.bind_eq_some_iff.2 ⟨_, htakeFraction, hlocal⟩

end SearchFilter.Instant
