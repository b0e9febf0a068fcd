import SearchFilter.Date

/-!
# Day numbers

Day numbers and the dates of the calendar correspond one to one: every day number is that of a date
of the calendar (`exists_ofDayNumber`, `dayNumber_ofDayNumber`), and of that date alone
(`ofDayNumber_dayNumber`). A date is found by division: an era of 400 years is cut into centuries,
these into spans of four years and these into years. The last day of an era or of a span is a
leap day, and no division by the length of a common year gets it right without the corrections in
`Date.ofDayNumber`; `yearOfEra_eq` is the reason why they do.
-/

namespace SearchFilter.Date

/-! ## Years from March -/

/-- The number of days before a year from March. -/
def daysBefore (year : Int) : Int := 365 * year + year / 4 - year / 100 + year / 400

theorem daysBefore_mono {y z : Int} (h : y ≤ z) : daysBefore y ≤ daysBefore z := by
  obtain ⟨k, hk, rfl⟩ : ∃ k : Int, 0 ≤ k ∧ z = y + k := ⟨z - y, by omega, by omega⟩
  unfold daysBefore
  omega

/-- A day of an era lies in a century `c`, a span `q` of four years, and a year `z` of the span. -/
theorem exists_cycles {d : Int} (hd : 0 ≤ d ∧ d < 146097) :
    ∃ c q z t : Int, (0 ≤ c ∧ c ≤ 3) ∧ (0 ≤ q ∧ q ≤ 24) ∧ (0 ≤ z ∧ z ≤ 3) ∧ (0 ≤ t ∧ t ≤ 365) ∧
      (t = 365 → z = 3 ∧ (q = 24 → c = 3)) ∧ d = 36524 * c + 1461 * q + 365 * z + t := by
  -- the last century and the last year of a span are one day longer: `min` gives them that day
  refine ⟨min (d / 36524) 3, (d - 36524 * min (d / 36524) 3) / 1461,
    min ((d - 36524 * min (d / 36524) 3) % 1461 / 365) 3,
    (d - 36524 * min (d / 36524) 3) % 1461 -
      365 * min ((d - 36524 * min (d / 36524) 3) % 1461 / 365) 3, ?_⟩
  omega

/-- The corrections to a day of an era take away the leap days before it. -/
theorem yearOfEra_eq {c q z t d : Int} (hc : 0 ≤ c ∧ c ≤ 3) (hq : 0 ≤ q ∧ q ≤ 24)
    (hz : 0 ≤ z ∧ z ≤ 3) (ht : 0 ≤ t ∧ t ≤ 365) (hleap : t = 365 → z = 3 ∧ (q = 24 → c = 3))
    (hd : d = 36524 * c + 1461 * q + 365 * z + t) :
    (d - d / 1460 + d / 36524 - d / 146096) / 365 = 100 * c + 4 * q + z := by
  by_cases hlast : d = 146096
  · subst hlast
    omega
  · have hcentury : d / 36524 = c := by omega
    have hera : d / 146096 = 0 := by omega
    have hspan : d / 1460 = 25 * c + q + (24 * c + q + 365 * z + t) / 1460 := by omega
    have hrest : 0 ≤ t - (24 * c + q + 365 * z + t) / 1460 ∧
        t - (24 * c + q + 365 * z + t) / 1460 < 365 := by omega
    rw [hcentury, hera, hspan]
    generalize (24 * c + q + 365 * z + t) / 1460 = e at hrest ⊢
    omega

/-- A day of an era is day `t` of year `y`, and the corrected division finds the year. -/
theorem exists_yearDay {d : Int} (hd : 0 ≤ d ∧ d < 146097) :
    ∃ y t : Int, (0 ≤ y ∧ y < 400) ∧ (0 ≤ t ∧ t ≤ 365) ∧
      (t = 365 → y % 4 = 3 ∧ (y % 100 = 99 → y = 399)) ∧
      d = 365 * y + y / 4 - y / 100 + t ∧
      (d - d / 1460 + d / 36524 - d / 146096) / 365 = y := by
  obtain ⟨c, q, z, t, hc, hq, hz, ht, hleap, hd⟩ := exists_cycles hd
  have hspans : (100 * c + 4 * q + z) / 4 = 25 * c + q := by omega
  have hcenturies : (100 * c + 4 * q + z) / 100 = c := by omega
  refine ⟨100 * c + 4 * q + z, t, ?_, ht, ?_, ?_, yearOfEra_eq hc hq hz ht hleap hd⟩
  · omega
  · omega
  · omega

/-! ## Months from March -/

/-- The date of a year, month and day, the year from March and month and day counted from 0. -/
def ofMarch (year month day : Int) : Date :=
  let m := if month < 10 then month + 3 else month - 9
  ⟨year + (if m ≤ 2 then 1 else 0), m.toNat, (day + 1).toNat⟩

/-- The month and day, counted from March and from 0, are in the calendar. -/
structure InMarchYear (year month day : Int) : Prop where
  month_nonneg : 0 ≤ month
  month_le : month ≤ 11
  day_nonneg : 0 ≤ day
  day_le : day ≤ 30
  short : month = 1 ∨ month = 3 ∨ month = 6 ∨ month = 8 → day ≤ 29
  february : month = 11 → day ≤ 28
  leap : month = 11 → day = 28 →
    (year + 1) % 4 = 0 ∧ ((year + 1) % 100 = 0 → (year + 1) % 400 = 0)

variable {year month day : Int}

/-- The lengths of the months follow no linear formula, so that each month is looked at alone. -/
theorem InMarchYear.month_cases (h : InMarchYear year month day) : month = 0 ∨ month = 1 ∨
    month = 2 ∨ month = 3 ∨ month = 4 ∨ month = 5 ∨ month = 6 ∨ month = 7 ∨ month = 8 ∨
    month = 9 ∨ month = 10 ∨ month = 11 := by
  obtain ⟨hm, hm', -⟩ := h
  omega

theorem InMarchYear.exists (h : InMarchYear year month day) : (ofMarch year month day).Exists := by
  have hmonths := h.month_cases
  obtain ⟨-, -, hd, hd', hshort, hfeb, hleap⟩ := h
  rcases hmonths with rfl | rfl | rfl | rfl | rfl | rfl | rfl | rfl | rfl | rfl | rfl | rfl <;>
    simp [ofMarch, Exists, daysInMonth, isLeapYear] <;> grind

/-- Every date of the calendar is a day of a year from March. -/
theorem Exists.exists_ofMarch {d : Date} (h : d.Exists) :
    ∃ year month day : Int, InMarchYear year month day ∧ d = ofMarch year month day := by
  obtain ⟨y, m, k⟩ := d
  obtain ⟨hm, hm', hk, hk'⟩ := h
  simp only at hm hm' hk hk'
  refine ⟨if m ≤ 2 then y - 1 else y, ((m : Int) + 9) % 12, k - 1, ?_, ?_⟩
  · unfold daysInMonth isLeapYear at hk'
    constructor <;> grind
  · simp only [ofMarch, mk.injEq]
    refine ⟨?_, ?_, ?_⟩ <;> grind

theorem InMarchYear.dayNumber (h : InMarchYear year month day) :
    (ofMarch year month day).dayNumber =
      daysBefore year + ((153 * month + 2) / 5 + day) - 719468 := by
  obtain ⟨hm, hm', hd, -, -, -, -⟩ := h
  have hyear : (if (ofMarch year month day).month ≤ 2 then (ofMarch year month day).year - 1
      else (ofMarch year month day).year) = year := by
    simp only [ofMarch]
    split <;> omega
  have hmonth : (((ofMarch year month day).month : Int) + 9) % 12 = month := by
    simp only [ofMarch]
    omega
  have hday : ((ofMarch year month day).day : Int) = day + 1 := by
    simp only [ofMarch]
    omega
  simp only [Date.dayNumber, hyear, hmonth, hday, daysBefore]
  omega

/-- Every day number is that of a day of a year from March. -/
theorem exists_ofMarch (n : Int) : ∃ year month day : Int, InMarchYear year month day ∧
    ofDayNumber n = ofMarch year month day ∧
    n = daysBefore year + ((153 * month + 2) / 5 + day) - 719468 := by
  have hd : 0 ≤ (n + 719468) % 146097 ∧ (n + 719468) % 146097 < 146097 := by omega
  obtain ⟨y, t, hy, ht, hleap, hd, hyear⟩ := exists_yearDay hd
  have hday : (n + 719468) % 146097 - (365 * y + y / 4 - y / 100) = t := by omega
  refine ⟨y + (n + 719468) / 146097 * 400, (5 * t + 2) / 153,
    t - (153 * ((5 * t + 2) / 153) + 2) / 5, ?_, ?_, ?_⟩
  · constructor <;> omega
  · simp only [ofDayNumber, hyear, hday, ofMarch]
  · have hera := Int.mul_ediv_add_emod (n + 719468) 146097
    generalize (n + 719468) / 146097 = era at hera ⊢
    have h₁ : (y + era * 400) / 4 = y / 4 + era * 100 := by omega
    have h₂ : (y + era * 400) / 100 = y / 100 + era * 4 := by omega
    have h₃ : (y + era * 400) / 400 = era := by omega
    unfold daysBefore
    omega

/-! ## Days of different dates -/

/-- A day of a year comes before the next year. -/
theorem InMarchYear.daysBefore_bounds (h : InMarchYear year month day) :
    daysBefore year ≤ daysBefore year + ((153 * month + 2) / 5 + day) ∧
      daysBefore year + ((153 * month + 2) / 5 + day) < daysBefore (year + 1) := by
  obtain ⟨hm, hm', hd, hd', hshort, hfeb, hleap⟩ := h
  unfold daysBefore
  by_cases hlast : month = 11 ∧ day = 28
  · have := hleap hlast.1 hlast.2
    omega
  · omega

/-- The month of a day of the year is found by division. -/
theorem InMarchYear.month_eq (h : InMarchYear year month day) :
    (5 * ((153 * month + 2) / 5 + day) + 2) / 153 = month := by
  have hmonths := h.month_cases
  obtain ⟨-, -, hd, hd', hshort, hfeb, -⟩ := h
  rcases hmonths with rfl | rfl | rfl | rfl | rfl | rfl | rfl | rfl | rfl | rfl | rfl | rfl <;>
    omega

/-- Days with the same number are the same day of the same year. -/
theorem InMarchYear.eq_of_eq {year' month' day' : Int} (h : InMarchYear year month day)
    (h' : InMarchYear year' month' day')
    (heq : daysBefore year + ((153 * month + 2) / 5 + day) =
      daysBefore year' + ((153 * month' + 2) / 5 + day')) :
    year = year' ∧ month = month' ∧ day = day' := by
  have hb := h.daysBefore_bounds
  have hb' := h'.daysBefore_bounds
  have hyear : year = year' := by
    rcases Int.lt_trichotomy year year' with hlt | heq | hlt
    · have := daysBefore_mono (show year + 1 ≤ year' by omega)
      omega
    · exact heq
    · have := daysBefore_mono (show year' + 1 ≤ year by omega)
      omega
  subst hyear
  have hday : (153 * month + 2) / 5 + day = (153 * month' + 2) / 5 + day' := by omega
  have hmonth : month = month' := by rw [← h.month_eq, hday, h'.month_eq]
  subst hmonth
  exact ⟨rfl, rfl, by omega⟩

/-! ## Day numbers and dates -/

theorem daysInMonth_le (year : Int) (month : Nat) : daysInMonth year month ≤ 31 := by
  unfold daysInMonth
  grind

/-- The date of a day number is in the calendar. -/
theorem exists_ofDayNumber (n : Int) : (ofDayNumber n).Exists := by
  obtain ⟨year, month, day, h, hn, -⟩ := exists_ofMarch n
  rw [hn]
  exact h.exists

/-- A day number is that of its date. -/
@[simp] theorem dayNumber_ofDayNumber (n : Int) : (ofDayNumber n).dayNumber = n := by
  obtain ⟨year, month, day, h, hn, hday⟩ := exists_ofMarch n
  rw [hn, h.dayNumber, hday]

/-- A date of the calendar is that of its day number. -/
theorem ofDayNumber_dayNumber {d : Date} (h : d.Exists) : ofDayNumber d.dayNumber = d := by
  obtain ⟨year, month, day, hd, rfl⟩ := h.exists_ofMarch
  obtain ⟨year', month', day', hd', hn, hday⟩ := exists_ofMarch (ofMarch year month day).dayNumber
  rw [hn]
  rw [hd.dayNumber] at hday
  obtain ⟨rfl, rfl, rfl⟩ := hd.eq_of_eq hd' (by omega)
  rfl

/-- The first of January is day 306 of a year from March, counted from 0. -/
theorem dayNumber_bounds {d : Date} {first last : Int} (h : d.Exists) (hfirst : first ≤ d.year)
    (hlast : d.year ≤ last) :
    daysBefore (first - 1) + 306 - 719468 ≤ d.dayNumber ∧
      d.dayNumber < daysBefore last + 306 - 719468 := by
  obtain ⟨year, month, day, hd, rfl⟩ := h.exists_ofMarch
  have hnumber := hd.dayNumber
  have hday := hd.daysBefore_bounds
  obtain ⟨hm, hm', hk, hk', -⟩ := hd
  have hyear : (month < 10 → first ≤ year ∧ year ≤ last) ∧
      (10 ≤ month → first - 1 ≤ year ∧ year + 1 ≤ last) := by
    simp only [ofMarch] at hfirst hlast
    omega
  rw [hnumber]
  by_cases hmonth : month < 10
  · obtain ⟨hfirst, hlast⟩ := hyear.1 hmonth
    have hbefore := daysBefore_mono hfirst
    have hafter := daysBefore_mono hlast
    unfold daysBefore at *
    omega
  · obtain ⟨hfirst, hlast⟩ := hyear.2 (Int.not_lt.1 hmonth)
    have hbefore := daysBefore_mono hfirst
    have hafter := daysBefore_mono hlast
    omega

end SearchFilter.Date
