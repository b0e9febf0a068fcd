import SearchFilter.Proofs.Binary64.Reading
import SearchFilter.Proofs.Filter.Dates

/-!
# Numbers without a type

A bare word that a column of floating-point numbers reads as a finite number is, against a column
without a type, an integer if it is one and else the same number, but for the words with a plus or
a point before every digit: these stay texts (`classifies_finite`, `parse_plus_decimal`). The
question that keeps the words for infinity and not-a-number from being numbers keeps these from it,
too (`looksNumeric_iff_not_disguised`).
-/

namespace SearchFilter.Filter

open Text Binary64

variable {word : List Char} {x : Binary64}

/-! ## Words that do not look numeric -/

/-- A plus or a point stands before every digit of the word. -/
inductive Disguised : List Char → Prop where
  | plus (t : List Char) : Disguised ('+' :: t)
  | point (t : List Char) : Disguised ('.' :: t)
  | minusPoint (t : List Char) : Disguised ('-' :: '.' :: t)

theorem looksNumeric_cons {c : Char} (h : c ≠ '-') (t : List Char) :
    looksNumeric (c :: t) = c.isDigit := by
  rw [looksNumeric, List.dropWhile_cons_of_neg (by simpa using h)]

theorem looksNumeric_minus {c : Char} (h : c ≠ '-') (t : List Char) :
    looksNumeric ('-' :: c :: t) = c.isDigit := looksNumeric_cons h t

/-- A finite number looks numeric unless a plus or a point comes first. -/
theorem looksNumeric_iff_not_disguised (h : FiniteText x word) :
    looksNumeric word = true ↔ ¬Disguised word := by
  obtain ⟨hsign, hdecimal, -, -⟩ := h
  obtain ⟨c, t, rfl, hc⟩ := hdecimal.exists_head
  have hminus : c ≠ '-' := by
    rintro rfl
    exact absurd hc (by decide)
  cases hsign with
  | plus =>
    refine iff_of_false ?_ (not_not.2 (.plus _))
    rw [List.singleton_append, looksNumeric_cons (by decide)]
    decide
  | none =>
    rw [List.nil_append, looksNumeric_cons hminus]
    rcases hc with hc | rfl
    · refine iff_of_true hc ?_
      rintro (_ | _ | _) <;> exact absurd hc (by decide)
    · exact iff_of_false (by decide) (not_not.2 (.point _))
  | minus =>
    rw [List.singleton_append, looksNumeric_minus hminus]
    rcases hc with hc | rfl
    · refine iff_of_true hc ?_
      rintro (_ | _ | _)
      exact absurd hc (by decide)
    · exact iff_of_false (by decide) (not_not.2 (.minusPoint _))

/-! ## Classification -/

theorem isNull_eq_false_of_finite (h : FiniteText x word) : isNull word = false := by
  obtain ⟨c, hc, hdigit⟩ := h.exists_isDigit
  exact isNull_eq_false_of_isDigit hc hdigit

/-- The words that a column of floating-point numbers reads as a finite number. -/
theorem value_float_iff :
    ((Literal.bare word).value (some .float) = .ok (.float x) ∧ x.isFinite = true) ↔
      FiniteText x word := by
  have hread : ColumnType.read? .float word = some (.float x) ↔ Binary64.read? word = some x := by
    simp [ColumnType.read?]
  rw [← read?_eq_some_finite_iff, ← hread]
  refine and_congr_left fun hfinite => ⟨fun h => ?_, fun h => ?_⟩
  · cases hnull : isNull word with
    | false => rwa [Literal.value_bare hnull, Literal.accept_eq_ok_iff] at h
    | true =>
      rw [Literal.value_bare_null hnull] at h
      cases h
  · have htext : FiniteText x word := read?_eq_some_finite_iff.1 ⟨hread.1 h, hfinite⟩
    rwa [Literal.value_bare (isNull_eq_false_of_finite htext), Literal.accept_eq_ok_iff]

/-- A word that is a finite number against a column of floating-point numbers is one without a type,
too: the integer that an integer column makes of it, or else the same number. The words with a plus
or a point before every digit are excepted: unless they are integers they stay texts. -/
theorem classifies_finite
    (h : (Literal.bare word).value (some .float) = .ok (.float x)) (hfinite : x.isFinite = true) :
    FiniteText x word ∧
    (∀ n, (Literal.bare word).value (some .integer) = .ok (.int n) →
      (Literal.bare word).value none = .ok (.int n)) ∧
    ((∀ n, (Literal.bare word).value (some .integer) ≠ .ok (.int n)) →
      (¬Disguised word → (Literal.bare word).value none = .ok (.float x)) ∧
      (Disguised word → (Literal.bare word).value none = .ok (.text (String.ofList word)))) := by
  have htext : FiniteText x word := value_float_iff.1 ⟨h, hfinite⟩
  have hnull := isNull_eq_false_of_finite htext
  have hlooks := looksNumeric_iff_not_disguised htext
  have htyped (ty : ColumnType) (v : Value) :
      (Literal.bare word).value (some ty) = .ok v ↔ ty.read? word = some v := by
    rw [Literal.value_bare hnull, Literal.accept_eq_ok_iff]
  have hfloat : ColumnType.read? .float word = some (.float x) := (htyped _ _).1 h
  refine ⟨htext, ?_⟩
  rw [Literal.value]
  simp only [htyped, ne_eq, Except.ok.injEq]
  generalize hv : classify word = v
  have hclass : Classified word v := hv ▸ classified word
  cases hclass with
  | null h =>
    rw [hnull] at h
    cases h
  | bool _ hbool =>
    obtain ⟨c, hc, hdigit⟩ := htext.exists_isDigit
    rw [read?_bool_eq_none_of_isDigit hc hdigit] at hbool
    cases hbool
  | int _ _ hint =>
    refine ⟨fun m hm => Option.some.inj (hint.symm.trans hm), fun hnone => ?_⟩
    exact absurd hint (hnone _)
  | float _ _ hint hnumeric hread =>
    refine ⟨fun m hm => ?_, fun _ => ⟨fun _ => ?_, fun hdisguised => ?_⟩⟩
    · cases hint.symm.trans hm
    · exact Option.some.inj (hread.symm.trans hfloat)
    · exact absurd hdisguised (hlooks.1 hnumeric)
  | timestamp _ _ _ _ hread =>
    rw [hfloat] at hread
    cases hread
  | text _ _ hint hrest =>
    refine ⟨fun m hm => ?_, fun _ => ⟨fun hplain => ?_, fun _ => rfl⟩⟩
    · cases hint.symm.trans hm
    · have hnone := (hrest (hlooks.2 hplain)).1
      rw [hfloat] at hnone
      cases hnone

theorem classifies_finite_signs :
    (Literal.bare "-1.5".toList).value none = .ok (.float ⟨0xbff8000000000000⟩) ∧
    (Literal.bare "+1e2".toList).value none = .ok (.text "+1e2") ∧
    (Literal.bare "+12".toList).value none = .ok (.int 12) := by
  have hminus : (Literal.bare "-1.5".toList).value (some .float) =
      .ok (.float ⟨0xbff8000000000000⟩) := by decide +kernel
  have hplus : (Literal.bare "+1e2".toList).value (some .float) =
      .ok (.float ⟨0x4059000000000000⟩) := by decide +kernel
  have hint : (Literal.bare "+12".toList).value (some .float) =
      .ok (.float ⟨0x4028000000000000⟩) := by decide +kernel
  have hfractional : ∀ word ∈ ["-1.5".toList, "+1e2".toList],
      (Literal.bare word).value (some .integer) = .error .integer := by decide
  refine ⟨?_, ?_, ?_⟩
  · have hrest := (classifies_finite hminus (by decide)).2.2
    exact (hrest (by rw [hfractional _ (by simp)]; exact nofun)).1 (by rintro (_ | _ | _))
  · have hrest := (classifies_finite hplus (by decide)).2.2
    exact (hrest (by rw [hfractional _ (by simp)]; exact nofun)).2 (.plus _)
  · exact (classifies_finite hint (by decide)).2.1 12 (by decide)

/-- One and a half. -/
def oneAndHalf : Binary64 := ⟨0x3ff8000000000000⟩

/-- `version=+1.5` -/
def plusDecimal : Wording := .compact "version" .eq (.bare "+1.5".toList)

/-- One and a half with a plus is a number to a column of numbers, and a text without a type, although
an integer with a plus is an integer there. -/
theorem parse_plus_decimal :
    (Literal.bare "+1.5".toList).value (some .float) = .ok (.float oneAndHalf) ∧
    oneAndHalf.isFinite = true ∧
    (Literal.bare "+1.5".toList).value (some .integer) = .error .integer ∧
    parse untyped "version=+1.5" = .ok (.compare (.plain "version") .eq (.text "+1.5")) ∧
    (Literal.bare "+1".toList).value none = .ok (.int 1) := by
  have hversion : untyped (String.ofList plusDecimal.name) = .ok ⟨.plain "version", none⟩ := rfl
  have htext : plusDecimal.literal.value none = .ok (.text "+1.5") := by decide
  exact ⟨by decide +kernel, by decide, by decide, plusDecimal.parse_eq_ok hversion htext, by decide⟩

end SearchFilter.Filter
