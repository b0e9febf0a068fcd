import SearchFilter.Binary64.Text
import SearchFilter.Proofs.Text.Numerals

/-!
# Texts of floating-point numbers

The texts that are read as finite numbers are a sign or none, digits with a point or none before,
inside or after them, and an exponent or none (`DecimalText`). The decimal is what the digits and the
exponent denote, and the number is the one nearest to it, if that is finite
(`read?_eq_some_finite_iff`). The words for infinity and not-a-number are no such texts.
-/

namespace SearchFilter.Binary64

open Text

variable {s t : List Char} {d : Decimal} {negative : Bool} {x : Binary64}

/-! ## Decimals -/

/-- The texts of an exponent: none, or a letter and an integer. -/
inductive ExponentText : Int → List Char → Prop where
  | none : ExponentText 0 []
  | some {c : Char} {n : Int} {s : List Char} (hc : c = 'e' ∨ c = 'E') (h : IntegerText n s) :
      ExponentText n (c :: s)

/-- The texts of a decimal: digits with a point or none, and an exponent. Either side of the point
may be without digits. -/
inductive DecimalText : Decimal → List Char → Prop where
  | whole {ds s : List Char} {n : Int} (h : Digits ds) (hs : ExponentText n s) :
      DecimalText ⟨decimalValue ds, n⟩ (ds ++ s)
  | pointed {ds es s : List Char} {n : Int} (h : Digits (ds ++ es)) (hs : ExponentText n s) :
      DecimalText ⟨decimalValue (ds ++ es), n - es.length⟩ (ds ++ '.' :: (es ++ s))

/-- The exponent that is read of what follows the digits. -/
def readExponent? : List Char → Option Int
  | [] => some 0
  | c :: t => if c = 'e' ∨ c = 'E' then readInteger? t else none

theorem readExponent?_eq_some_iff {n : Int} : readExponent? s = some n ↔ ExponentText n s := by
  constructor
  · intro h
    unfold readExponent? at h
    split at h
    · cases h
      exact .none
    · split at h
      · next hc => exact .some hc (readInteger?_eq_some_iff.1 h)
      · cases h
  · intro h
    cases h with
    | none => rfl
    | some hc h => rw [readExponent?, if_pos hc, readInteger?_eq_some_iff.2 h]

theorem map_readExponent? (f : Int → Decimal) (rest : List Char) :
    (readExponent? rest).map f =
      match rest with
      | [] => (some 0).bind fun n => some (f n)
      | c :: t =>
        if c = 'e' ∨ c = 'E' then (readInteger? t).bind fun n => some (f n)
        else none.bind fun n => some (f n) := by
  cases rest with
  | nil => rfl
  | cons c t =>
    by_cases hc : c = 'e' ∨ c = 'E'
    · simp only [readExponent?, if_pos hc]
      cases readInteger? t <;> rfl
    · simp only [readExponent?, if_neg hc]
      rfl

/-- No digit or point begins an exponent. -/
theorem ExponentText.startsOutside {p : Char → Bool} {n : Int} (h : ExponentText n s)
    (hp : ∀ c ∈ ['e', 'E'], p c = false) : StartsOutside p s := by
  cases h with
  | none => exact startsOutside_nil p
  | some hc _ => exact startsOutside_cons.2 (hp _ (by simpa using hc))

/-- The digits after a point, if there is one, and what follows. -/
def takeFraction : List Char → List Char × List Char
  | '.' :: t => (t.takeWhile Char.isDigit, t.dropWhile Char.isDigit)
  | t => ([], t)

/-- A decimal is read as digits, a fraction and an exponent one after the other. -/
theorem readDecimal?_eq {fraction rest : List Char}
    (h : takeFraction (s.dropWhile Char.isDigit) = (fraction, rest)) :
    readDecimal? s =
      if s.takeWhile Char.isDigit = [] ∧ fraction = [] then none
      else (readExponent? rest).map fun n =>
        ⟨digitsValue (s.takeWhile Char.isDigit ++ fraction), n - fraction.length⟩ := by
  obtain ⟨rfl, rfl⟩ := Prod.ext_iff.1 h
  rw [map_readExponent?]
  rfl

theorem exists_of_takeFraction {fraction rest : List Char} (h : takeFraction s = (fraction, rest)) :
    (s = rest ∧ fraction = []) ∨
      ((∀ c ∈ fraction, c.isDigit = true) ∧ s = '.' :: (fraction ++ rest)) := by
  unfold takeFraction at h
  split at h
  · cases h
    exact .inr ⟨fun c hc => List.mem_takeWhile_imp hc, by rw [List.takeWhile_append_dropWhile]⟩
  · cases h
    exact .inl ⟨rfl, rfl⟩

theorem takeFraction_point {fraction rest : List Char} (h : ∀ c ∈ fraction, c.isDigit = true)
    (hrest : StartsOutside Char.isDigit rest) :
    takeFraction ('.' :: (fraction ++ rest)) = (fraction, rest) := by
  rw [takeFraction, takeWhile_run h hrest, dropWhile_run h hrest]

theorem takeFraction_of_startsOutside (h : StartsOutside (· == '.') s) :
    takeFraction s = ([], s) := by
  unfold takeFraction
  split
  · exact absurd (startsOutside_cons.1 h) (by decide)
  · rfl

theorem readDecimal?_eq_some_iff : readDecimal? s = some d ↔ DecimalText d s := by
  constructor
  · intro h
    have hwhole : ∀ c ∈ s.takeWhile Char.isDigit, c.isDigit = true :=
      fun c hc => List.mem_takeWhile_imp hc
    have hs : s.takeWhile Char.isDigit ++ s.dropWhile Char.isDigit = s :=
      List.takeWhile_append_dropWhile
    rcases hfraction : takeFraction (s.dropWhile Char.isDigit) with ⟨fraction, rest⟩
    rw [readDecimal?_eq hfraction] at h
    split at h
    · cases h
    · next hne =>
      obtain ⟨n, hn, rfl⟩ := Option.map_eq_some_iff.1 h
      rw [readExponent?_eq_some_iff] at hn
      generalize s.takeWhile Char.isDigit = whole at hwhole hs hne
      rw [digitsValue_eq_decimalValue]
      rcases exists_of_takeFraction hfraction with ⟨hrest, rfl⟩ | ⟨hdigits, hrest⟩
      · rw [hrest] at hs
        rw [← hs, List.append_nil, List.length_nil, Nat.cast_zero, Int.sub_zero]
        exact .whole ⟨fun hnil => hne ⟨hnil, rfl⟩, hwhole⟩ hn
      · rw [hrest] at hs
        rw [← hs]
        refine .pointed ⟨?_, List.forall_mem_append.2 ⟨hwhole, hdigits⟩⟩ hn
        rwa [Ne, List.append_eq_nil_iff]
  · intro h
    cases h with
    | @whole ds s n h hs =>
      have hdigit : StartsOutside Char.isDigit s := hs.startsOutside (by decide)
      have hfraction : takeFraction ((ds ++ s).dropWhile Char.isDigit) = ([], s) := by
        rw [dropWhile_run h.isDigit hdigit]
        exact takeFraction_of_startsOutside (hs.startsOutside (by decide))
      rw [readDecimal?_eq hfraction, takeWhile_run h.isDigit hdigit, if_neg (by simp [h.ne_nil]),
        readExponent?_eq_some_iff.2 hs]
      simp [digitsValue_eq_decimalValue]
    | @pointed ds es s n h hs =>
      obtain ⟨hds, hes⟩ := List.forall_mem_append.1 h.isDigit
      have hpoint : StartsOutside Char.isDigit ('.' :: (es ++ s)) := startsOutside_cons.2 (by decide)
      have hfraction :
          takeFraction ((ds ++ '.' :: (es ++ s)).dropWhile Char.isDigit) = (es, s) := by
        rw [dropWhile_run hds hpoint]
        exact takeFraction_point hes (hs.startsOutside (by decide))
      have hne : ¬(ds = [] ∧ es = []) := fun hnil => h.ne_nil (List.append_eq_nil_iff.2 hnil)
      rw [readDecimal?_eq hfraction, takeWhile_run hds hpoint, if_neg hne,
        readExponent?_eq_some_iff.2 hs]
      simp [digitsValue_eq_decimalValue]

/-- A decimal begins with a digit, or with a point. -/
theorem DecimalText.exists_head (h : DecimalText d s) :
    ∃ c t, s = c :: t ∧ (c.isDigit = true ∨ c = '.') := by
  cases h with
  | whole h hs =>
    obtain ⟨c, t, rfl⟩ := List.exists_cons_of_ne_nil h.ne_nil
    exact ⟨c, _, rfl, .inl (h.isDigit c List.mem_cons_self)⟩
  | @pointed ds es s n h hs =>
    cases ds with
    | nil => exact ⟨'.', _, rfl, .inr rfl⟩
    | cons c ds => exact ⟨c, _, rfl, .inl (h.isDigit c List.mem_cons_self)⟩

theorem DecimalText.exists_isDigit (h : DecimalText d s) : ∃ c ∈ s, c.isDigit = true := by
  cases h with
  | whole h hs =>
    obtain ⟨c, hc, hdigit⟩ := h.exists_isDigit
    exact ⟨c, List.mem_append_left _ hc, hdigit⟩
  | pointed h hs =>
    obtain ⟨c, hc, hdigit⟩ := h.exists_isDigit
    refine ⟨c, ?_, hdigit⟩
    simp only [List.mem_append, List.mem_cons] at hc ⊢
    exact hc.imp_right fun hc => .inr (.inl hc)

/-! ## Finite numbers -/

/-- The texts of a sign: none, a plus or a minus. -/
inductive SignText : Bool → List Char → Prop where
  | none : SignText false []
  | plus : SignText false ['+']
  | minus : SignText true ['-']

theorem exists_signText (s : List Char) :
    ∃ sign, SignText (takeSign s).1 sign ∧ s = sign ++ (takeSign s).2 := by
  unfold takeSign
  split
  · exact ⟨_, .minus, rfl⟩
  · exact ⟨_, .plus, rfl⟩
  · exact ⟨_, .none, rfl⟩

theorem SignText.takeSign_append {sign : List Char} (h : SignText negative sign)
    (ht : StartsOutside (fun c => c == '-' || c == '+') t) :
    takeSign (sign ++ t) = (negative, t) := by
  cases h with
  | plus => rfl
  | minus => rfl
  | none =>
    rw [List.nil_append]
    unfold takeSign
    split
    · exact absurd (startsOutside_cons.1 ht) (by decide)
    · exact absurd (startsOutside_cons.1 ht) (by decide)
    · rfl

theorem isFinite_infinity (negative : Bool) : (infinity negative).isFinite = false := by
  cases negative <;> decide

theorem isFinite_nan (negative : Bool) : (nan negative).isFinite = false := by
  cases negative <;> decide

/-- The number nearest to a decimal, with a sign. -/
def ofDecimal (negative : Bool) (d : Decimal) : Binary64 :=
  ofMagnitude negative (nearestDecimal d.digits d.exponent)

/-- The texts of a finite number: a sign, and a decimal to which it is the nearest number. -/
inductive FiniteText (x : Binary64) : List Char → Prop where
  | intro {negative : Bool} {d : Decimal} {sign t : List Char} (hsign : SignText negative sign)
      (h : DecimalText d t) (hx : x = ofDecimal negative d) (hfinite : x.isFinite = true) :
      FiniteText x (sign ++ t)

theorem FiniteText.exists_isDigit (h : FiniteText x s) : ∃ c ∈ s, c.isDigit = true := by
  obtain ⟨-, hdecimal, -, -⟩ := h
  obtain ⟨c, hc, hdigit⟩ := hdecimal.exists_isDigit
  exact ⟨c, List.mem_append_right _ hc, hdigit⟩

/-- No decimal begins like the words for infinity and not-a-number. -/
theorem DecimalText.map_toLower_ne (h : DecimalText d t) :
    ¬(t.map Char.toLower = "inf".toList ∨ t.map Char.toLower = "infinity".toList) ∧
      t.map Char.toLower ≠ "nan".toList := by
  obtain ⟨c, t, rfl, hc⟩ := h.exists_head
  have hle : c.toNat < 58 := by
    rcases hc with hc | rfl
    · exact Nat.lt_succ_of_le (Char.isDigit_iff_toNat.1 hc).2
    · decide
  have hlower : ∀ n < 58, (Char.ofNat n).toLower ≠ 'i' ∧ (Char.ofNat n).toLower ≠ 'n' := by
    decide
  have hhead := hlower c.toNat hle
  rw [Char.ofNat_toNat] at hhead
  simp [hhead]

/-- What is read as a finite number is a sign and a decimal. -/
theorem read?_eq_some_finite_iff :
    (read? s = some x ∧ x.isFinite = true) ↔ FiniteText x s := by
  constructor
  · rintro ⟨h, hfinite⟩
    obtain ⟨sign, hsign, hs⟩ := exists_signText s
    simp only [read?] at h
    generalize takeSign s = taken at h hsign hs
    subst hs
    split at h
    · cases h
      rw [isFinite_infinity] at hfinite
      cases hfinite
    split at h
    · cases h
      rw [isFinite_nan] at hfinite
      cases hfinite
    · obtain ⟨d, hd, rfl⟩ := Option.map_eq_some_iff.1 h
      exact .intro hsign (readDecimal?_eq_some_iff.1 hd) rfl hfinite
  · rintro ⟨hsign, h, rfl, hfinite⟩
    refine ⟨?_, hfinite⟩
    have hwords := h.map_toLower_ne
    obtain ⟨c, t, rfl, hc⟩ := h.exists_head
    have houtside : StartsOutside (fun c => c == '-' || c == '+') (c :: t) := by
      rw [startsOutside_cons]
      rcases hc with hc | rfl
      · cases hsign : c == '-' || c == '+' with
        | false => rfl
        | true =>
          simp only [Bool.or_eq_true, beq_iff_eq] at hsign
          rcases hsign with rfl | rfl <;> exact absurd hc (by decide)
      · rfl
    simp only [read?, hsign.takeSign_append houtside]
    rw [if_neg hwords.1, if_neg hwords.2, readDecimal?_eq_some_iff.2 h]
    rfl

end SearchFilter.Binary64
