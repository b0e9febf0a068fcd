import Mathlib.Data.Nat.Digits.Defs
import SearchFilter.Proofs.Text.Digits
import SearchFilter.Proofs.Text.WhiteSpace

/-!
# Numbers in texts

What the readers of numbers accept, said by the digits alone: a whole text that is an integer
(`readInteger?_eq_some_iff`), and numbers at the start of a text, with a fixed width, with a
greatest width and with any.
-/

namespace SearchFilter.Text

variable {n width most : Nat} {c : Char} {s rest ds : List Char}

/-! ## The value of digits -/

/-- The number that digits denote in the decimal system. -/
def decimalValue (ds : List Char) : Nat := Nat.ofDigits 10 (ds.map digitValue).reverse

theorem digitsValue_eq_decimalValue (ds : List Char) : digitsValue ds = decimalValue ds := by
  rw [decimalValue, Nat.ofDigits_eq_foldr, List.foldr_reverse, List.foldl_map, digitsValue]
  simp only [Nat.cast_id, Nat.add_comm]

theorem digitsValue_append (ds es : List Char) :
    digitsValue (ds ++ es) = digitsValue es + 10 ^ es.length * digitsValue ds := by
  simp only [digitsValue_eq_decimalValue, decimalValue, List.map_append, List.reverse_append,
    Nat.ofDigits_append, List.length_reverse, List.length_map]

theorem digitValue_lt (h : c.isDigit = true) : digitValue c < 10 := by
  have hnine : '9'.toNat = 57 := rfl
  have hzero : '0'.toNat = 48 := rfl
  have hle := (Char.isDigit_iff_toNat.1 h).2
  rw [digitValue]
  omega

theorem digitsValue_lt (h : ∀ c ∈ ds, c.isDigit = true) : digitsValue ds < 10 ^ ds.length := by
  rw [digitsValue_eq_decimalValue, decimalValue]
  have hlength : (ds.map digitValue).reverse.length = ds.length := by simp
  rw [← hlength]
  apply Nat.ofDigits_lt_base_pow_length (by decide)
  intro d hd
  rw [List.mem_reverse, List.mem_map] at hd
  obtain ⟨c, hc, rfl⟩ := hd
  exact digitValue_lt (h c hc)

/-! ## Integers -/

/-- The texts of an integer: digits, with any number of zeros in front, after a sign or none. -/
inductive IntegerText : Int → List Char → Prop where
  | unsigned {ds : List Char} (h : Digits ds) : IntegerText (decimalValue ds) ds
  | plus {ds : List Char} (h : Digits ds) : IntegerText (decimalValue ds) ('+' :: ds)
  | minus {ds : List Char} (h : Digits ds) : IntegerText (-(decimalValue ds : Int)) ('-' :: ds)

theorem readInteger?_eq_some_iff {n : Int} : readInteger? s = some n ↔ IntegerText n s := by
  constructor
  · intro h
    unfold readInteger? takeSign at h
    split at h
    · next negative ds heq =>
      split at h
      · next hdigits =>
        rw [isDigits_iff] at hdigits
        rw [digitsValue_eq_decimalValue] at h
        split at heq
        · cases heq
          cases h
          exact .minus hdigits
        · cases heq
          cases h
          exact .plus hdigits
        · cases heq
          cases h
          exact .unsigned hdigits
      · cases h
  · intro h
    cases h with
    | unsigned h =>
      simp only [readInteger?, h.takeSign, isDigits_iff.2 h, digitsValue_eq_decimalValue, if_true,
        Bool.false_eq_true, if_false]
    | plus h =>
      simp only [readInteger?, takeSign, isDigits_iff.2 h, digitsValue_eq_decimalValue, if_true,
        Bool.false_eq_true, if_false]
    | minus h =>
      simp only [readInteger?, takeSign, isDigits_iff.2 h, digitsValue_eq_decimalValue, if_true]

/-- What is written for an integer is one of its texts. -/
theorem integerText_integerText (n : Int) : IntegerText n (integerText n).toList := by
  have hdigits := digits_decimalDigits n.natAbs
  have hvalue : decimalValue (decimalDigits n.natAbs) = n.natAbs := by
    rw [← digitsValue_eq_decimalValue, digitsValue_decimalDigits]
  rw [integerText, String.toList_ofList]
  split
  · have hn : -(n.natAbs : Int) = n := by omega
    have htext := IntegerText.minus hdigits
    rw [hvalue, hn] at htext
    exact htext
  · have hn : (n.natAbs : Int) = n := by omega
    have htext := IntegerText.unsigned hdigits
    rw [hvalue, hn] at htext
    exact htext

theorem readInteger?_integerText (n : Int) : readInteger? (integerText n).toList = some n :=
  readInteger?_eq_some_iff.2 (integerText_integerText n)

/-- The text of an integer begins with a minus or a digit. -/
theorem head_integerText {n : Int} {c : Char} (h : c ∈ (integerText n).toList.head?) :
    c = '-' ∨ c.isDigit = true := by
  rw [integerText, String.toList_ofList] at h
  split at h
  · exact .inl (Option.some.inj h).symm
  · exact .inr (isDigit_of_mem_decimalDigits (List.mem_of_mem_head? h))

/-! ## Numbers at the start of a text -/

/-- The digits of a number in a field of a fixed width. -/
structure Numeral (width n : Nat) (ds : List Char) : Prop where
  length : ds.length = width
  isDigit : ∀ c ∈ ds, c.isDigit = true
  value : digitsValue ds = n

theorem Numeral.eq_decimalValue (h : Numeral width n ds) : n = decimalValue ds := by
  rw [← h.value, digitsValue_eq_decimalValue]

theorem Numeral.digits (h : Numeral width n ds) (hwidth : 0 < width) : Digits ds := by
  have hlength := h.length
  exact ⟨List.ne_nil_of_length_pos (by omega), h.isDigit⟩

theorem Numeral.lt (h : Numeral width n ds) : n < 10 ^ width := by
  rw [← h.value, ← h.length]
  exact digitsValue_lt h.isDigit

theorem takeDigits?_eq_some_iff :
    takeDigits? width s = some (n, rest) ↔ ∃ ds, Numeral width n ds ∧ s = ds ++ rest := by
  constructor
  · intro h
    simp only [takeDigits?] at h
    split at h
    · next hds =>
      cases h
      exact ⟨_, ⟨hds.1, List.all_eq_true.1 hds.2, rfl⟩, (List.take_append_drop width s).symm⟩
    · cases h
  · rintro ⟨ds, ⟨hlength, hdigits, rfl⟩, rfl⟩
    rw [takeDigits?, List.take_left' hlength, List.drop_left' hlength]
    exact if_pos ⟨hlength, List.all_eq_true.2 hdigits⟩

theorem Numeral.takeDigits?_append (h : Numeral width n ds) :
    takeDigits? width (ds ++ rest) = some (n, rest) := takeDigits?_eq_some_iff.2 ⟨ds, h, rfl⟩

theorem exists_of_takeNumber? (h : takeNumber? most s = some (n, rest)) :
    ∃ ds, (Digits ds ∧ ds.length ≤ most ∧ digitsValue ds = n) ∧ s = ds ++ rest := by
  simp only [takeNumber?] at h
  split at h
  · cases h
  · next hne =>
    cases h
    have hrun := List.takeWhile_prefix Char.isDigit (l := s.take most)
    refine ⟨_, ⟨⟨?_, ?_⟩, ?_, rfl⟩, ?_⟩
    · simpa using hne
    · exact fun c hc => List.mem_takeWhile_imp hc
    · exact hrun.length_le.trans (List.length_take_le most s)
    · exact (List.prefix_iff_eq_append.1 (hrun.trans (List.take_prefix most s))).symm

theorem takeNumber?_append (h : Digits ds) (hlength : ds.length ≤ most)
    (hrest : StartsOutside Char.isDigit rest) :
    takeNumber? most (ds ++ rest) = some (digitsValue ds, rest) := by
  have hstops : StartsOutside Char.isDigit (rest.take (most - ds.length)) := by
    intro c hc
    rw [List.head?_take] at hc
    split at hc
    · cases hc
    · exact hrest c hc
  have hrun : ((ds ++ rest).take most).takeWhile Char.isDigit = ds := by
    rw [List.take_append, List.take_of_length_le hlength]
    exact takeWhile_run h.isDigit hstops
  simp only [takeNumber?, hrun, List.isEmpty_eq_false_iff.2 h.ne_nil, Bool.false_eq_true, if_false,
    List.drop_left]

theorem exists_of_takeLongNumber? (h : takeLongNumber? s = some (n, rest)) :
    ∃ ds, (Digits ds ∧ digitsValue ds = n) ∧ s = ds ++ rest := by
  simp only [takeLongNumber?] at h
  split at h
  · cases h
  · next hne =>
    cases h
    refine ⟨_, ⟨⟨?_, ?_⟩, rfl⟩, List.takeWhile_append_dropWhile.symm⟩
    · simpa using hne
    · exact fun c hc => List.mem_takeWhile_imp hc

theorem takeLongNumber?_append (h : Digits ds) (hrest : StartsOutside Char.isDigit rest) :
    takeLongNumber? (ds ++ rest) = some (digitsValue ds, rest) := by
  simp only [takeLongNumber?, takeWhile_run h.isDigit hrest, dropWhile_run h.isDigit hrest,
    List.isEmpty_eq_false_iff.2 h.ne_nil, Bool.false_eq_true, if_false]

@[simp] theorem expect?_cons_self (c : Char) (s : List Char) : expect? c (c :: s) = some s := by
  simp [expect?]

theorem expect?_eq_some_iff : expect? c s = some rest ↔ s = c :: rest := by
  cases s with
  | nil => simp [expect?]
  | cons d s => simp [expect?]

/-- White space at the start of a text is taken away. -/
theorem exists_trimStart (s : List Char) : ∃ space, AllWhiteSpace space ∧ s = space ++ trimStart s :=
  ⟨s.takeWhile isWhiteSpace, fun _ hc => List.mem_takeWhile_imp hc,
    List.takeWhile_append_dropWhile.symm⟩

theorem trimStart_append {space : List Char} (h : AllWhiteSpace space)
    (hs : StartsOutside isWhiteSpace s) : trimStart (space ++ s) = s := dropWhile_run h hs

end SearchFilter.Text
