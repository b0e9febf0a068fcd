import SearchFilter.Instant.Reading
import SearchFilter.Proofs.Instant.Clocks
import SearchFilter.Proofs.Text.Numerals

/-!
# The formats of an instant

What the readers of instants accept, said by the texts alone. A text of RFC 3339 has fields of a
fixed width (`DateTimeText`). A date alone may have shorter fields, a signed year and white space
before every number (`LooseDateText`); the dates with four, two and two digits (`DateText`) are some
of these. A literal is read as an instant if it is one of the two (`ofLiteral?_eq_some_iff`), and
it is never both, since a time of day has a colon.
-/

namespace SearchFilter.Instant

open Text

variable {d : Date} {k : Clock} {t : Instant} {n : Nat} {offset minutes : Int} {c : Char}
  {s rest ds : List Char}

/-! ## Fractions -/

/-- A fraction of a second in nanoseconds: digits after a point, of which everything below a
nanosecond is dropped, or nothing at all. -/
inductive Fraction : Nat → List Char → Prop where
  | none : Fraction 0 []
  | digits {ds : List Char} (h : Digits ds) :
      Fraction (decimalValue ds * 10 ^ 9 / 10 ^ ds.length) ('.' :: ds)

/-- Nine digits, the missing ones zero, are the nanoseconds of a fraction. -/
theorem nanoseconds_eq (h : ∀ c ∈ ds, c.isDigit = true) :
    digitsValue (ds.take 9) * Nat.pow 10 (9 - (ds.take 9).length) =
      decimalValue ds * 10 ^ 9 / 10 ^ ds.length := by
  by_cases hlength : ds.length ≤ 9
  · have hpow : (10 : Nat) ^ 9 = 10 ^ (9 - ds.length) * 10 ^ ds.length := by
      rw [← Nat.pow_add, Nat.sub_add_cancel hlength]
    rw [List.take_of_length_le hlength, digitsValue_eq_decimalValue, hpow, ← Nat.mul_assoc,
      Nat.mul_div_cancel _ (Nat.pow_pos (by decide))]
    rfl
  · have htake : (ds.take 9).length = 9 := List.length_take_of_le (by omega)
    have hdrop : digitsValue (ds.drop 9) < 10 ^ (ds.drop 9).length :=
      digitsValue_lt fun c hc => h c (List.mem_of_mem_drop hc)
    have hvalue : decimalValue ds =
        digitsValue (ds.drop 9) + 10 ^ (ds.drop 9).length * digitsValue (ds.take 9) := by
      rw [← digitsValue_eq_decimalValue, ← digitsValue_append, List.take_append_drop]
    have hlength : ds.length = (ds.drop 9).length + 9 := by
      rw [List.length_drop]
      omega
    rw [htake, hvalue, hlength, Nat.pow_add, Nat.mul_div_mul_right _ _ (by decide),
      Nat.add_mul_div_left _ _ (Nat.pow_pos (by decide)), Nat.div_eq_of_lt hdrop, Nat.zero_add]
    exact Nat.mul_one _

theorem exists_of_takeFraction? (h : takeFraction? s = some (n, rest)) :
    ∃ fraction, Fraction n fraction ∧ s = fraction ++ rest := by
  unfold takeFraction? at h
  split at h
  · next s =>
    simp only at h
    split at h
    · cases h
    · next hne =>
      cases h
      have hdigits : ∀ c ∈ s.takeWhile Char.isDigit, c.isDigit = true :=
        fun c hc => List.mem_takeWhile_imp hc
      refine ⟨'.' :: s.takeWhile Char.isDigit, ?_, ?_⟩
      · rw [nanoseconds_eq hdigits]
        exact .digits ⟨by simpa using hne, hdigits⟩
      · rw [List.cons_append, List.takeWhile_append_dropWhile]
  · cases h
    exact ⟨[], .none, rfl⟩

/-- A fraction ends where no digit follows, and without one no point may. -/
theorem Fraction.takeFraction?_append {fraction : List Char} (h : Fraction n fraction)
    (hdigit : StartsOutside Char.isDigit rest) (hpoint : StartsOutside (· == '.') rest) :
    takeFraction? (fraction ++ rest) = some (n, rest) := by
  cases h with
  | none =>
    rw [List.nil_append]
    unfold takeFraction?
    split
    · exact absurd (startsOutside_cons.1 hpoint) (by decide)
    · rfl
  | digits h =>
    simp only [List.cons_append, takeFraction?, takeWhile_run h.isDigit hdigit,
      dropWhile_run h.isDigit hdigit, List.isEmpty_eq_false_iff.2 h.ne_nil, Bool.false_eq_true,
      if_false, nanoseconds_eq h.isDigit]

/-! ## Zones -/

/-- A number of minutes less than a day, as hours and minutes. -/
inductive HoursMinutes : Nat → List Char → Prop where
  | mk {hours minutes : Nat} {hh mm : List Char} (hhours : Numeral 2 hours hh)
      (hminutes : Numeral 2 minutes mm) (hlt : hours < 24 ∧ minutes < 60) :
      HoursMinutes (hours * 60 + minutes) (hh ++ ':' :: mm)

/-- The mark of clocks some minutes ahead of UTC: the letter of UTC in either case, or hours and
minutes after a sign. A minus sign may stand for the hyphen. -/
inductive Mark : Int → List Char → Prop where
  | zulu {letter : Char} (h : letter = 'Z' ∨ letter = 'z') : Mark 0 [letter]
  | ahead {n : Nat} {s : List Char} (h : HoursMinutes n s) : Mark n ('+' :: s)
  | behind {n : Nat} {s : List Char} {sign : Char} (hsign : sign = '-' ∨ sign = '\u2212')
      (h : HoursMinutes n s) : Mark (-n) (sign :: s)

theorem HoursMinutes.lt (h : HoursMinutes n s) : n < 1440 := by
  cases h with
  | mk _ _ hlt => omega

theorem Mark.exists (h : Mark offset s) : (Zone.offset offset).Exists := by
  rw [Zone.Exists, Zone.minutes]
  cases h with
  | zulu => decide
  | ahead h => have := h.lt; omega
  | behind _ h => have := h.lt; omega

theorem takeOffsetSign?_eq_some_iff {negative : Bool} :
    takeOffsetSign? s = some (negative, rest) ↔ s = '+' :: rest ∧ negative = false ∨
      ∃ sign, (sign = '-' ∨ sign = '\u2212') ∧ s = sign :: rest ∧ negative = true := by
  constructor
  · intro h
    unfold takeOffsetSign? at h
    split at h
    · cases h
      exact .inl ⟨rfl, rfl⟩
    · cases h
      exact .inr ⟨_, .inl rfl, rfl, rfl⟩
    · cases h
      exact .inr ⟨_, .inr rfl, rfl, rfl⟩
    · cases h
  · rintro (⟨rfl, rfl⟩ | ⟨_, rfl | rfl, rfl, rfl⟩) <;> rfl

theorem takeOffset?_eq_some_iff :
    takeOffset? (expect? ':') s = some (offset, rest) ↔ ∃ negative n hm,
      takeOffsetSign? s = some (negative, hm ++ rest) ∧ HoursMinutes n hm ∧
        offset = if negative then -(n : Int) * 60 else (n : Int) * 60 := by
  simp only [takeOffset?, Option.bind_eq_bind, Option.bind_eq_some_iff, Prod.exists,
    takeDigits?_eq_some_iff, expect?_eq_some_iff]
  constructor
  · rintro ⟨negative, _, hsign, hours, _, ⟨hh, hhours, rfl⟩, _, rfl, minutes, _,
      ⟨mm, hminutes, rfl⟩, h⟩
    split at h
    · next hlt =>
      cases h
      refine ⟨negative, _, hh ++ ':' :: mm, ?_, .mk hhours hminutes hlt, ?_⟩
      · rw [hsign, List.append_assoc, List.cons_append]
      · split <;> omega
    · cases h
  · rintro ⟨negative, n, _, hsign, @⟨hours, minutes, hh, mm, hhours, hminutes, hlt⟩, rfl⟩
    refine ⟨negative, _, hsign, hours, _, ⟨hh, hhours, List.append_assoc _ _ _⟩, _, rfl, minutes,
      _, ⟨mm, hminutes, rfl⟩, ?_⟩
    rw [if_pos hlt, Option.some_inj, Prod.mk.injEq, and_iff_left rfl]
    split <;> omega

theorem takeZone?_eq_some_iff :
    takeZone? (expect? ':') s = some (offset, rest) ↔
      ∃ minutes mark, Mark minutes mark ∧ s = mark ++ rest ∧ offset = minutes * 60 := by
  constructor
  · intro h
    unfold takeZone? at h
    split at h
    · cases h
      exact ⟨0, ['Z'], .zulu (.inl rfl), rfl, rfl⟩
    · cases h
      exact ⟨0, ['z'], .zulu (.inr rfl), rfl, rfl⟩
    · obtain ⟨negative, n, hm, hsign, hnumber, rfl⟩ := takeOffset?_eq_some_iff.1 h
      rcases takeOffsetSign?_eq_some_iff.1 hsign with ⟨rfl, rfl⟩ | ⟨sign, hchar, rfl, rfl⟩
      · exact ⟨n, '+' :: hm, .ahead hnumber, rfl, rfl⟩
      · exact ⟨-n, sign :: hm, .behind hchar hnumber, rfl, rfl⟩
  · rintro ⟨minutes, mark, h, rfl, rfl⟩
    cases h with
    | zulu h => rcases h with rfl | rfl <;> rfl
    | @ahead n hm h =>
      have hsign : takeOffsetSign? ('+' :: hm ++ rest) = some (false, hm ++ rest) := rfl
      exact takeOffset?_eq_some_iff.2 ⟨false, n, hm, hsign, h, rfl⟩
    | @behind n hm sign hchar h =>
      have hsign : takeOffsetSign? (sign :: hm ++ rest) = some (true, hm ++ rest) :=
        takeOffsetSign?_eq_some_iff.2 (.inr ⟨sign, hchar, rfl, rfl⟩)
      have hoffset := takeOffset?_eq_some_iff.2 ⟨true, n, hm, hsign, h, rfl⟩
      rcases hchar with rfl | rfl
      · exact hoffset
      · exact hoffset

theorem Mark.startsOutside {p : Char → Bool} (h : Mark minutes s)
    (hp : ∀ c ∈ ['Z', 'z', '+', '-', '\u2212'], p c = false) : StartsOutside p s := by
  cases h with
  | zulu h =>
    rw [startsOutside_cons]
    rcases h with rfl | rfl
    · exact hp 'Z' (by decide)
    · exact hp 'z' (by decide)
  | ahead => exact startsOutside_cons.2 (hp '+' (by decide))
  | behind hsign =>
    rw [startsOutside_cons]
    rcases hsign with rfl | rfl
    · exact hp '-' (by decide)
    · exact hp '\u2212' (by decide)

/-! ## Dates and times -/

/-- A date as four, two and two digits with hyphens between them. -/
inductive DateText : Date → List Char → Prop where
  | mk {year month day : Nat} {yyyy mm dd : List Char} (hyear : Numeral 4 year yyyy)
      (hmonth : Numeral 2 month mm) (hday : Numeral 2 day dd) :
      DateText ⟨year, month, day⟩ (yyyy ++ '-' :: (mm ++ '-' :: dd))

/-- A time of day as three numbers of two digits with colons between them, and a fraction. -/
inductive ClockText : Clock → List Char → Prop where
  | mk {hour minute second nanos : Nat} {hh mm ss fraction : List Char}
      (hhour : Numeral 2 hour hh) (hminute : Numeral 2 minute mm) (hsecond : Numeral 2 second ss)
      (hfraction : Fraction nanos fraction) :
      ClockText ⟨hour, minute, second, nanos⟩ (hh ++ ':' :: (mm ++ ':' :: (ss ++ fraction)))

/-- The texts of RFC 3339 for a date and a time on clocks some minutes ahead of UTC, whether or not
there are such a date and such a time. -/
inductive DateTimeText : Date → Clock → Int → List Char → Prop where
  | mk {d : Date} {k : Clock} {minutes : Int} {separator : Char} {date clock mark : List Char}
      (hdate : DateText d date) (hseparator : separator ∈ ['T', 't', ' '])
      (hclock : ClockText k clock) (hmark : Mark minutes mark) :
      DateTimeText d k minutes (date ++ separator :: (clock ++ mark))

theorem DateText.length (h : DateText d s) : s.length = 10 := by
  obtain ⟨hyear, hmonth, hday⟩ := h
  simp [hyear.length, hmonth.length, hday.length]

theorem DateText.year_bounds (h : DateText d s) : 0 ≤ d.year ∧ d.year ≤ 9999 := by
  obtain ⟨hyear, -, -⟩ := h
  have hlt := hyear.lt
  simp only
  omega

theorem DateTimeText.year_bounds (h : DateTimeText d k minutes s) : 0 ≤ d.year ∧ d.year ≤ 9999 := by
  obtain ⟨hdate, -, -, -⟩ := h
  exact hdate.year_bounds

theorem DateTimeText.zone_exists (h : DateTimeText d k minutes s) :
    (Zone.offset minutes).Exists := by
  obtain ⟨-, -, -, hmark⟩ := h
  exact hmark.exists

theorem takeSeparator?_eq_some_iff :
    takeSeparator? s = some rest ↔ ∃ c ∈ ['T', 't', ' '], s = c :: rest := by
  constructor
  · intro h
    unfold takeSeparator? at h
    split at h
    · cases h
      exact ⟨'T', by decide, rfl⟩
    · cases h
      exact ⟨'t', by decide, rfl⟩
    · cases h
      exact ⟨' ', by decide, rfl⟩
    · cases h
  · rintro ⟨c, hc, rfl⟩
    simp only [List.mem_cons, List.not_mem_nil, or_false] at hc
    rcases hc with rfl | rfl | rfl <;> rfl

/-- Four, two and two digits with hyphens between them. -/
def takeDate? (s : List Char) : Option (Date × List Char) := do
  let (year, s) ← takeDigits? 4 s
  let s ← expect? '-' s
  let (month, s) ← takeDigits? 2 s
  let s ← expect? '-' s
  let (day, s) ← takeDigits? 2 s
  some (⟨year, month, day⟩, s)

/-- Three numbers of two digits with colons between them, and a fraction. -/
def takeClock? (s : List Char) : Option (Clock × List Char) := do
  let (hour, s) ← takeDigits? 2 s
  let s ← expect? ':' s
  let (minute, s) ← takeDigits? 2 s
  let s ← expect? ':' s
  let (second, s) ← takeDigits? 2 s
  let (nanos, s) ← takeFraction? s
  some (⟨hour, minute, second, nanos⟩, s)

theorem bind_eq_bind_bind {α β γ : Type} {o : Option α} {f : α → Option γ} {g : α → Option β}
    {k : β → Option γ} (h : ∀ a, f a = (g a).bind k) : o.bind f = (o.bind g).bind k := by
  rw [Option.bind_assoc, funext h]

/-- The format is a date, a separator, a time of day and a zone. -/
theorem readRfc3339?_eq (s : List Char) : readRfc3339? s =
    (takeDate? s).bind fun (d, s) => (takeSeparator? s).bind fun s =>
      (takeClock? s).bind fun (k, s) => (takeZone? (expect? ':') s).bind fun (offset, s) =>
        if s.isEmpty then ofLocal? d k offset else none := by
  -- one field after the other: `simp` takes seconds to look through all the binders
  refine bind_eq_bind_bind fun (year, s) => ?_
  refine bind_eq_bind_bind fun s => ?_
  refine bind_eq_bind_bind fun (month, s) => ?_
  refine bind_eq_bind_bind fun s => ?_
  refine bind_eq_bind_bind fun (day, s) => ?_
  refine Option.bind_congr fun s _ => ?_
  refine bind_eq_bind_bind fun (hour, s) => ?_
  refine bind_eq_bind_bind fun s => ?_
  refine bind_eq_bind_bind fun (minute, s) => ?_
  refine bind_eq_bind_bind fun s => ?_
  refine bind_eq_bind_bind fun (second, s) => ?_
  refine bind_eq_bind_bind fun (nanos, s) => ?_
  rfl

theorem takeDate?_eq_some_iff :
    takeDate? s = some (d, rest) ↔ ∃ date, DateText d date ∧ s = date ++ rest := by
  simp only [takeDate?, Option.bind_eq_bind, Option.bind_eq_some_iff, Prod.exists,
    takeDigits?_eq_some_iff, expect?_eq_some_iff, Option.some_inj, Prod.mk.injEq]
  constructor
  · rintro ⟨year, _, ⟨yyyy, hyear, rfl⟩, _, rfl, month, _, ⟨mm, hmonth, rfl⟩, _, rfl, day, _,
      ⟨dd, hday, rfl⟩, rfl, rfl⟩
    exact ⟨_, .mk hyear hmonth hday, by simp⟩
  · rintro ⟨_, ⟨hyear, hmonth, hday⟩, rfl⟩
    simp only [List.append_assoc, List.cons_append]
    exact ⟨_, _, ⟨_, hyear, rfl⟩, _, rfl, _, _, ⟨_, hmonth, rfl⟩, _, rfl, _, _, ⟨_, hday, rfl⟩, rfl,
      rfl⟩

theorem exists_of_takeClock? (h : takeClock? s = some (k, rest)) :
    ∃ clock, ClockText k clock ∧ s = clock ++ rest := by
  simp only [takeClock?, Option.bind_eq_bind, Option.bind_eq_some_iff, Prod.exists,
    takeDigits?_eq_some_iff, expect?_eq_some_iff, Option.some_inj, Prod.mk.injEq] at h
  obtain ⟨hour, _, ⟨hh, hhour, rfl⟩, _, rfl, minute, _, ⟨mm, hminute, rfl⟩, _, rfl, second, _,
    ⟨ss, hsecond, rfl⟩, nanos, _, hnanos, rfl, rfl⟩ := h
  obtain ⟨fraction, hfraction, rfl⟩ := exists_of_takeFraction? hnanos
  exact ⟨_, .mk hhour hminute hsecond hfraction, by simp⟩

theorem ClockText.takeClock?_append {clock : List Char} (h : ClockText k clock)
    (hdigit : StartsOutside Char.isDigit rest) (hpoint : StartsOutside (· == '.') rest) :
    takeClock? (clock ++ rest) = some (k, rest) := by
  obtain ⟨hhour, hminute, hsecond, hfraction⟩ := h
  have hnanos := hfraction.takeFraction?_append hdigit hpoint
  simp only [takeClock?, Option.bind_eq_bind, List.append_assoc, List.cons_append,
    hhour.takeDigits?_append, hminute.takeDigits?_append, hsecond.takeDigits?_append,
    expect?_cons_self, hnanos, Option.bind_some]

/-- RFC 3339 is read exactly. -/
theorem readRfc3339?_eq_some_iff_ofLocal? : readRfc3339? s = some t ↔
    ∃ d k minutes, DateTimeText d k minutes s ∧ ofLocal? d k (minutes * 60) = some t := by
  simp only [readRfc3339?_eq, Option.bind_eq_some_iff, Prod.exists, takeDate?_eq_some_iff,
    takeSeparator?_eq_some_iff, takeZone?_eq_some_iff]
  constructor
  · rintro ⟨d, _, ⟨date, hdate, rfl⟩, _, ⟨separator, hseparator, rfl⟩, k, _, hclock, _, rest,
      ⟨minutes, mark, hmark, rfl, rfl⟩, h⟩
    obtain ⟨clock, hclockText, rfl⟩ := exists_of_takeClock? hclock
    split at h
    · next hrest =>
      obtain rfl := List.isEmpty_iff.1 hrest
      rw [List.append_nil]
      exact ⟨d, k, minutes, .mk hdate hseparator hclockText hmark, h⟩
    · cases h
  · rintro ⟨d, k, minutes, ⟨hdate, hseparator, hclock, hmark⟩, h⟩
    have hclock := hclock.takeClock?_append (hmark.startsOutside (by decide))
      (hmark.startsOutside (by decide))
    exact ⟨d, _, ⟨_, hdate, rfl⟩, _, ⟨_, hseparator, rfl⟩, k, _, hclock, _, [],
      ⟨minutes, _, hmark, (List.append_nil _).symm, rfl⟩, h⟩

/-- RFC 3339 is read exactly: the texts, and what they say of the instant. -/
theorem readRfc3339?_eq_some_iff : readRfc3339? s = some t ↔ t.Regular ∧
    ∃ d k minutes, DateTimeText d k minutes s ∧ t.toLocal (.offset minutes) = (d, k) := by
  constructor
  · intro h
    obtain ⟨d, k, minutes, htext, hlocal⟩ := readRfc3339?_eq_some_iff_ofLocal?.1 h
    exact ⟨regular_of_ofLocal? (.offset minutes) hlocal, d, k, minutes, htext,
      toLocal_of_ofLocal? (.offset minutes) hlocal⟩
  · rintro ⟨hregular, d, k, minutes, htext, hlocal⟩
    have hyear := htext.year_bounds
    have hread := hregular.ofLocal?_toLocal (.offset minutes)
    simp only [hlocal] at hread
    refine readRfc3339?_eq_some_iff_ofLocal?.2 ⟨d, k, minutes, htext, hread ?_ ?_⟩
    · simp only [firstYear]
      omega
    · simp only [lastYear]
      omega

/-! ## Dates alone -/

/-- The year of a date alone: up to four digits, or a sign and any number of digits. -/
inductive YearText : Int → List Char → Prop where
  | unsigned {ds : List Char} (h : Digits ds) (hlength : ds.length ≤ 4) :
      YearText (decimalValue ds) ds
  | plus {ds : List Char} (h : Digits ds) : YearText (decimalValue ds) ('+' :: ds)
  | minus {ds : List Char} (h : Digits ds) : YearText (-(decimalValue ds : Int)) ('-' :: ds)

/-- A number of one or two digits. -/
inductive ShortText : Nat → List Char → Prop where
  | mk {ds : List Char} (h : Digits ds) (hlength : ds.length ≤ 2) : ShortText (decimalValue ds) ds

/-- The texts of a date alone, whether or not there is such a date: three numbers with hyphens
between them and white space before any of them. -/
inductive LooseDateText : Date → List Char → Prop where
  | mk {year : Int} {month day : Nat} {y m k before space space' : List Char}
      (hyear : YearText year y) (hmonth : ShortText month m) (hday : ShortText day k)
      (hbefore : AllWhiteSpace before) (hspace : AllWhiteSpace space)
      (hspace' : AllWhiteSpace space') :
      LooseDateText ⟨year, month, day⟩
        (before ++ (y ++ '-' :: (space ++ (m ++ '-' :: (space' ++ k)))))

/-- Such a text does not begin with white space. -/
theorem YearText.startsOutside {year : Int} (h : YearText year s) (rest : List Char) :
    StartsOutside isWhiteSpace (s ++ rest) := by
  cases h with
  | unsigned h => exact h.startsOutside (fun _ => isWhiteSpace_of_isDigit) rest
  | plus => exact startsOutside_cons.2 (by decide)
  | minus => exact startsOutside_cons.2 (by decide)

theorem exists_of_takeYear? {year : Int} (h : takeYear? s = some (year, rest)) :
    ∃ before y, AllWhiteSpace before ∧ YearText year y ∧ s = before ++ (y ++ rest) := by
  obtain ⟨before, hbefore, hs⟩ := exists_trimStart s
  unfold takeYear? at h
  split at h
  · next t ht =>
    obtain ⟨⟨n, _⟩, hn, heq⟩ := Option.map_eq_some_iff.1 h
    cases heq
    obtain ⟨ds, ⟨hds, rfl⟩, rfl⟩ := exists_of_takeLongNumber? hn
    rw [digitsValue_eq_decimalValue]
    exact ⟨before, '-' :: ds, hbefore, .minus hds, by rw [hs, ht, List.cons_append]⟩
  · next t ht =>
    obtain ⟨⟨n, _⟩, hn, heq⟩ := Option.map_eq_some_iff.1 h
    cases heq
    obtain ⟨ds, ⟨hds, rfl⟩, rfl⟩ := exists_of_takeLongNumber? hn
    rw [digitsValue_eq_decimalValue]
    exact ⟨before, '+' :: ds, hbefore, .plus hds, by rw [hs, ht, List.cons_append]⟩
  · obtain ⟨⟨n, _⟩, hn, heq⟩ := Option.map_eq_some_iff.1 h
    cases heq
    obtain ⟨ds, ⟨hds, hlength, rfl⟩, hrest⟩ := exists_of_takeNumber? hn
    rw [digitsValue_eq_decimalValue]
    exact ⟨before, ds, hbefore, .unsigned hds hlength, by rw [← hrest, ← hs]⟩

theorem YearText.takeYear?_append {year : Int} {before y : List Char} (h : YearText year y)
    (hbefore : AllWhiteSpace before) (hrest : StartsOutside Char.isDigit rest) :
    takeYear? (before ++ (y ++ rest)) = some (year, rest) := by
  have htrim := trimStart_append hbefore (h.startsOutside rest)
  cases h with
  | unsigned h hlength =>
    unfold takeYear?
    rw [htrim]
    split
    · next heq => exact absurd (h.isDigit_head heq) (by decide)
    · next heq => exact absurd (h.isDigit_head heq) (by decide)
    · rw [takeNumber?_append h hlength hrest, digitsValue_eq_decimalValue]
      rfl
  | plus h =>
    rw [takeYear?, htrim]
    simp only [List.cons_append, takeLongNumber?_append h hrest, digitsValue_eq_decimalValue,
      Option.map_some]
  | minus h =>
    rw [takeYear?, htrim]
    simp only [List.cons_append, takeLongNumber?_append h hrest, digitsValue_eq_decimalValue,
      Option.map_some]

theorem exists_of_takeShort? (h : takeShort? s = some (n, rest)) :
    ∃ space ds, AllWhiteSpace space ∧ ShortText n ds ∧ s = space ++ (ds ++ rest) := by
  obtain ⟨space, hspace, hs⟩ := exists_trimStart s
  obtain ⟨ds, ⟨hds, hlength, rfl⟩, hrest⟩ := exists_of_takeNumber? h
  rw [digitsValue_eq_decimalValue]
  exact ⟨space, ds, hspace, .mk hds hlength, by rw [← hrest, ← hs]⟩

theorem ShortText.takeShort?_append {space : List Char} (h : ShortText n ds)
    (hspace : AllWhiteSpace space) (hrest : StartsOutside Char.isDigit rest) :
    takeShort? (space ++ (ds ++ rest)) = some (n, rest) := by
  obtain ⟨hds, hlength⟩ := h
  rw [takeShort?, trimStart_append hspace (hds.startsOutside (fun _ => isWhiteSpace_of_isDigit) rest),
    takeNumber?_append hds hlength hrest, digitsValue_eq_decimalValue]

/-- A date alone is read exactly. -/
theorem readDate?_eq_some_iff : readDate? s = some d ↔ LooseDateText d s := by
  constructor
  · intro h
    simp only [readDate?, Option.bind_eq_bind, Option.bind_eq_some_iff, Prod.exists,
      expect?_eq_some_iff] at h
    obtain ⟨year, _, hyear, _, rfl, month, _, hmonth, _, rfl, day, rest, hday, h⟩ := h
    obtain ⟨before, y, hbefore, hyearText, rfl⟩ := exists_of_takeYear? hyear
    obtain ⟨space, m, hspace, hmonthText, rfl⟩ := exists_of_takeShort? hmonth
    obtain ⟨space', k, hspace', hdayText, rfl⟩ := exists_of_takeShort? hday
    split at h
    · next hrest =>
      cases h
      obtain rfl := List.isEmpty_iff.1 hrest
      rw [List.append_nil]
      exact .mk hyearText hmonthText hdayText hbefore hspace hspace'
    · cases h
  · rintro ⟨hyear, hmonth, hday, hbefore, hspace, hspace'⟩
    have hhyphen (s : List Char) : StartsOutside Char.isDigit ('-' :: s) :=
      startsOutside_cons.2 (by decide)
    have htakeYear (s : List Char) := hyear.takeYear?_append hbefore (hhyphen s)
    have htakeMonth (s : List Char) := hmonth.takeShort?_append hspace (hhyphen s)
    have htakeDay := hday.takeShort?_append hspace' (startsOutside_nil _)
    rw [List.append_nil] at htakeDay
    simp only [readDate?, Option.bind_eq_bind, htakeYear, htakeMonth, htakeDay, expect?_cons_self,
      Option.bind_some, List.isEmpty_nil, if_true]

theorem shortText_of_numeral (h : Numeral 2 n ds) : ShortText n ds := by
  rw [h.eq_decimalValue]
  exact .mk (h.digits (by decide)) (Nat.le_of_eq h.length)

/-- A date of four, two and two digits is one of them. -/
theorem DateText.loose (h : DateText d s) : LooseDateText d s := by
  obtain @⟨year, month, day, yyyy, mm, dd, hyear, hmonth, hday⟩ := h
  have hyear : YearText year yyyy := by
    rw [hyear.eq_decimalValue]
    exact .unsigned (hyear.digits (by decide)) (Nat.le_of_eq hyear.length)
  exact .mk hyear (shortText_of_numeral hmonth) (shortText_of_numeral hday) allWhiteSpace_nil
    allWhiteSpace_nil allWhiteSpace_nil

/-! ## Literals -/

/-- The texts of literals that stand for an instant: RFC 3339, which says what clocks somewhere show
at the instant, and a date alone if clocks of UTC show its midnight. The instant is the regular one
of those at which clocks show this. -/
inductive LiteralText (t : Instant) : List Char → Prop where
  | dateTime {d : Date} {k : Clock} {minutes : Int} {s : List Char} (hregular : t.Regular)
      (htext : DateTimeText d k minutes s) (hshown : t.toLocal (.offset minutes) = (d, k)) :
      LiteralText t s
  | date {d : Date} {s : List Char} (htext : LooseDateText d s)
      (hshown : t.toLocal .utc = (d, ⟨0, 0, 0, 0⟩)) : LiteralText t s

theorem DateTimeText.colon_mem (h : DateTimeText d k minutes s) : ':' ∈ s := by
  obtain ⟨-, -, ⟨-, -, -, -⟩, -⟩ := h
  simp

theorem YearText.colon_notMem {year : Int} (h : YearText year s) : ':' ∉ s := by
  cases h with
  | unsigned h => exact h.notMem (by decide)
  | plus h => simpa using h.notMem (by decide)
  | minus h => simpa using h.notMem (by decide)

theorem LooseDateText.colon_notMem (h : LooseDateText d s) : ':' ∉ s := by
  have hwhite {space : List Char} (h : AllWhiteSpace space) : ':' ∉ space :=
    fun hc => absurd (h _ hc) (by decide)
  obtain ⟨hyear, ⟨hmonth, -⟩, ⟨hday, -⟩, hbefore, hspace, hspace'⟩ := h
  have hmonth := hmonth.notMem (c := ':') (by decide)
  have hday := hday.notMem (c := ':') (by decide)
  simp [hyear.colon_notMem, hmonth, hday, hwhite hbefore, hwhite hspace, hwhite hspace']

/-- Literals of instants are read exactly. -/
theorem ofLiteral?_eq_some_iff : ofLiteral? s = some t ↔ LiteralText t s := by
  rw [ofLiteral?]
  constructor
  · intro h
    cases hrfc : readRfc3339? s with
    | some u =>
      rw [hrfc, Option.orElse_some, Option.some_inj] at h
      obtain rfl := h
      obtain ⟨hregular, d, k, minutes, htext, hshown⟩ := readRfc3339?_eq_some_iff.1 hrfc
      exact .dateTime hregular htext hshown
    | none =>
      rw [hrfc, Option.orElse_none, Option.bind_eq_some_iff] at h
      obtain ⟨d, hdate, hmidnight⟩ := h
      exact .date (readDate?_eq_some_iff.1 hdate) (midnight?_eq_some_iff.1 hmidnight)
  · intro h
    cases h with
    | dateTime hregular htext hshown =>
      rw [readRfc3339?_eq_some_iff.2 ⟨hregular, _, _, _, htext, hshown⟩, Option.orElse_some]
    | date htext hshown =>
      have hrfc : readRfc3339? s = none := by
        apply Option.eq_none_iff_forall_ne_some.2
        intro u hu
        obtain ⟨-, _, _, _, hdateTime, -⟩ := readRfc3339?_eq_some_iff.1 hu
        exact htext.colon_notMem hdateTime.colon_mem
      rw [hrfc, Option.orElse_none, readDate?_eq_some_iff.2 htext, Option.bind_some,
        midnight?_eq_some_iff.2 hshown]

/-- A literal stands for some instant if it has one of the formats, its fields are those of a date
and a time, and the year of a date alone is one of instants. -/
theorem exists_literalText_iff : (∃ t, LiteralText t s) ↔
    (∃ d k minutes, DateTimeText d k minutes s ∧ d.Exists ∧ k.Exists) ∨
      ∃ d, LooseDateText d s ∧ d.Exists ∧ firstYear ≤ d.year ∧ d.year ≤ lastYear := by
  constructor
  · rintro ⟨t, h⟩
    cases h with
    | @dateTime d k minutes _ _ htext hshown =>
      have hdate := exists_date_toLocal t (.offset minutes)
      have hclock := exists_clock_toLocal t (.offset minutes)
      rw [hshown] at hdate hclock
      exact .inl ⟨d, k, minutes, htext, hdate, hclock⟩
    | @date d _ htext hshown =>
      have hdate := exists_date_toLocal t .utc
      have hyear := year_toLocal_utc t
      rw [hshown] at hdate hyear
      exact .inr ⟨d, htext, hdate, hyear⟩
  · rintro (⟨d, k, minutes, htext, hd, hk⟩ | ⟨d, htext, hd, hfirst, hlast⟩)
    · have hyear := htext.year_bounds
      obtain ⟨t, ht⟩ := exists_ofLocal? (.offset minutes) hd hk htext.zone_exists (.inr (by
        simp only [firstYear, lastYear]
        omega))
      exact ⟨t, .dateTime (regular_of_ofLocal? _ ht) htext (toLocal_of_ofLocal? _ ht)⟩
    · obtain ⟨t, ht⟩ := exists_ofLocal? (c := ⟨0, 0, 0, 0⟩) .utc hd (by decide) (by decide)
        (.inl ⟨rfl, hfirst, hlast⟩)
      exact ⟨t, .date htext (midnight?_eq_some_iff.1 ht)⟩

end SearchFilter.Instant
