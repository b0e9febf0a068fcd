import SearchFilter.Json
import SearchFilter.Json.Scanner

/-!
# Strings in JSON

Every text is read back from between its quotes (`takeString?_quotedChars`). One character at a time:
the reader takes the escape of a character, whatever follows it, for that character
(`takeStringRest?_escape`). The case to look at is the longest escape, since the reader looks further
ahead there for the second half of a pair of surrogates; the characters that are escaped so are none.
-/

namespace SearchFilter.Json

variable {done s : List Char} {a b c d ch : Char} {n : Nat}

/-! ## Steps of the reader -/

theorem takeStringRest?_short (h : shortEscape? c = some ch) :
    takeStringRest? done ('\\' :: c :: s) = takeStringRest? (ch :: done) s := by
  have hu : c ≠ 'u' := by
    rintro rfl
    cases h
  rw [takeStringRest?.eq_4 done c s (fun _ _ _ _ _ _ _ _ _ h => absurd h hu)
    (fun _ _ _ _ _ h => absurd h hu), h]

/-- Four hexadecimal digits of a character that is no surrogate are read alone, also where another
escape follows. -/
theorem takeStringRest?_code (h : hexValue4? a b c d = some n) (hn : n < 0xd800) :
    takeStringRest? done ('\\' :: 'u' :: a :: b :: c :: d :: s) =
      takeStringRest? (Char.ofNat n :: done) s := by
  by_cases hs : ∃ a' b' c' d' t, s = '\\' :: 'u' :: a' :: b' :: c' :: d' :: t
  · obtain ⟨a', b', c', d', t, rfl⟩ := hs
    rw [takeStringRest?.eq_2, h]
    exact if_pos (.inl hn)
  · rw [takeStringRest?.eq_3 done a b c d s fun _ _ _ _ _ h => hs ⟨_, _, _, _, _, h⟩, h]
    exact if_pos (.inl hn)

theorem takeStringRest?_self (hcontrol : 32 ≤ c.toNat) (hquote : c ≠ '"') (hbackslash : c ≠ '\\') :
    takeStringRest? done (c :: s) = takeStringRest? (c :: done) s := by
  rw [takeStringRest?.eq_5 done c s hquote (fun _ _ _ _ _ _ _ _ _ h => absurd h hbackslash)
    (fun _ _ _ _ _ h => absurd h hbackslash) (fun _ _ h => absurd h hbackslash)]
  apply if_neg
  rintro (hlt | h)
  · exact Nat.not_lt.2 hcontrol hlt
  · exact hbackslash h

/-! ## Escapes -/

/-- The two digits of a control character are its number. -/
theorem hexValue4?_hexDigit (h : n < 32) :
    hexValue4? '0' '0' (hexDigit (n / 16)) (hexDigit n) = some n := by
  revert n
  decide

/-- The escape of a character is read as the character. -/
theorem takeStringRest?_escape (done : List Char) (c : Char) (s : List Char) :
    takeStringRest? done (escape c ++ s) = takeStringRest? (c :: done) s := by
  unfold escape
  split
  · exact takeStringRest?_short rfl
  · exact takeStringRest?_short rfl
  · exact takeStringRest?_short rfl
  · exact takeStringRest?_short rfl
  · exact takeStringRest?_short rfl
  · exact takeStringRest?_short rfl
  · exact takeStringRest?_short rfl
  · next hquote hbackslash _ _ _ _ _ =>
    split
    · next hcontrol =>
      have hcode := hexValue4?_hexDigit hcontrol
      refine (takeStringRest?_code hcode (Nat.lt_trans hcontrol (by decide))).trans ?_
      rw [Char.ofNat_toNat, List.append_eq, List.nil_append]
    · next hcontrol => exact takeStringRest?_self (Nat.not_lt.1 hcontrol) hquote hbackslash

theorem takeStringRest?_flatMap_escape (done t s : List Char) :
    takeStringRest? done (t.flatMap escape ++ '"' :: s) = some (done.reverse ++ t, s) := by
  induction t generalizing done with
  | nil => rw [List.flatMap_nil, List.nil_append, List.append_nil, takeStringRest?.eq_1]
  | cons c t ih =>
    rw [List.flatMap_cons, List.append_assoc, takeStringRest?_escape, ih, List.reverse_cons,
      List.append_assoc, List.singleton_append]

/-- Every text is read back from between its quotes. -/
theorem takeString?_quotedChars (t s : List Char) :
    takeString? (quotedChars t ++ s) = some (t, s) := by
  show takeStringRest? [] (t.flatMap escape ++ ['"'] ++ s) = some (t, s)
  rw [List.append_assoc, List.singleton_append]
  exact takeStringRest?_flatMap_escape [] t s

end SearchFilter.Json
