import SearchFilter.Proofs.Text.Run
import SearchFilter.Text.Alphanumeric
import SearchFilter.Text.Blank

/-!
# White space around a text

Letters and digits are no white space, and trimming takes away all the white space around a text
and nothing else.
-/

namespace SearchFilter.Text

/-! ## Classes of characters -/

/-- The code points of white space. -/
def whiteSpaceCodes : List Nat :=
  [9, 10, 11, 12, 13, 32, 0x85, 0xa0, 0x1680, 0x2000, 0x2001, 0x2002, 0x2003, 0x2004, 0x2005,
    0x2006, 0x2007, 0x2008, 0x2009, 0x200a, 0x2028, 0x2029, 0x202f, 0x205f, 0x3000]

theorem mem_whiteSpaceCodes {c : Char} (h : isWhiteSpace c = true) :
    c.toNat ∈ whiteSpaceCodes := by
  unfold isWhiteSpace at h
  split at h
  · simp only [Bool.or_eq_true, beq_iff_eq, Bool.and_eq_true, decide_eq_true_eq] at h
    simp only [whiteSpaceCodes, List.mem_cons]
    omega
  · obtain ⟨r, hr, hlo, hhi⟩ := Ranges.contains_iff.1 h
    simp only [whiteSpaceRanges, List.mem_cons, List.not_mem_nil, or_false] at hr
    simp only [whiteSpaceCodes, List.mem_cons]
    rcases hr with rfl | rfl | rfl | rfl | rfl | rfl | rfl | rfl <;> omega

theorem isAlphanumeric_whiteSpaceCodes :
    ∀ n ∈ whiteSpaceCodes, isAlphanumeric (Char.ofNat n) = false := by decide +kernel

/-- A letter or digit is no white space. -/
theorem isWhiteSpace_of_isAlphanumeric {c : Char} (h : isAlphanumeric c = true) :
    isWhiteSpace c = false := by
  cases hc : isWhiteSpace c with
  | false => rfl
  | true =>
    have hn := isAlphanumeric_whiteSpaceCodes c.toNat (mem_whiteSpaceCodes hc)
    rw [Char.ofNat_toNat, h] at hn
    exact hn

/-- No digit is white space. -/
theorem isWhiteSpace_of_isDigit {c : Char} (h : c.isDigit = true) : isWhiteSpace c = false := by
  cases hc : isWhiteSpace c with
  | false => rfl
  | true =>
    have hcodes : ∀ n ∈ whiteSpaceCodes, ¬(48 ≤ n ∧ n ≤ 57) := by decide
    exact absurd (Char.isDigit_iff_toNat.1 h) (hcodes c.toNat (mem_whiteSpaceCodes hc))

theorem StartsOutside.blank {s : List Char} (h : StartsOutside isWhiteSpace s) :
    StartsOutside isBlank s := h.mono fun _ => isWhiteSpace_of_isBlank

/-! ## Trimming -/

/-- A text all of white space. -/
def AllWhiteSpace (s : List Char) : Prop := ∀ c ∈ s, isWhiteSpace c = true

theorem allWhiteSpace_nil : AllWhiteSpace [] := nofun

/-- White space around a text is trimmed away. -/
theorem trim_append {before after : List Char} (hb : AllWhiteSpace before)
    (ha : AllWhiteSpace after) (s : List Char) : trim (before ++ s ++ after) = trim s := by
  have hnil : trimStart after = [] := List.dropWhile_eq_nil_iff.2 ha
  have hr : ∀ c ∈ after.reverse, isWhiteSpace c = true := fun c hc => ha c (by simpa using hc)
  rw [trim, trimStart, List.append_assoc, List.dropWhile_append_of_pos hb, List.dropWhile_append]
  split
  next h =>
    rw [trim, trimStart, List.isEmpty_iff.1 h]
    exact congrArg trimEnd hnil
  next h => rw [trimEnd, List.reverse_append, List.dropWhile_append_of_pos hr]; rfl

/-- No white space begins or ends the text. -/
structure Trimmed (s : List Char) : Prop where
  start : StartsOutside isWhiteSpace s
  finish : StartsOutside isWhiteSpace s.reverse

theorem trimmed_trim (s : List Char) : Trimmed (trim s) := by
  refine ⟨?_, ?_⟩
  · intro c hc
    have hsuffix : (trim s).reverse <:+ (trimStart s).reverse := by
      rw [trim, trimEnd, List.reverse_reverse]
      exact List.dropWhile_suffix _
    obtain ⟨t, ht⟩ := List.reverse_suffix.1 hsuffix
    have hhead : c ∈ (trimStart s).head? := by
      rw [← ht, List.head?_append, Option.mem_def.1 hc]
      rfl
    exact startsOutside_dropWhile isWhiteSpace s c hhead
  · rw [trim, trimEnd, List.reverse_reverse]
    exact startsOutside_dropWhile isWhiteSpace _

theorem Trimmed.trim_eq {s : List Char} (h : Trimmed s) : trim s = s := by
  rw [trim, trimStart, dropWhile_of_startsOutside h.start, trimEnd,
    dropWhile_of_startsOutside h.finish, List.reverse_reverse]

/-- Nothing is left of a text if it is all white space. -/
theorem trim_eq_nil_iff {s : List Char} : trim s = [] ↔ AllWhiteSpace s := by
  constructor
  · intro h
    have hend := List.dropWhile_eq_nil_iff.1 (List.reverse_eq_nil_iff.1 h)
    have hstart := startsOutside_dropWhile isWhiteSpace s
    cases hs : trimStart s with
    | nil => exact List.dropWhile_eq_nil_iff.1 hs
    | cons c t =>
      have hc := hend c (by simp [hs])
      rw [trimStart] at hs
      rw [hs, startsOutside_cons, hc] at hstart
      cases hstart
  · intro h
    have htrim := trim_append h allWhiteSpace_nil []
    rwa [List.append_nil, List.append_nil] at htrim

end SearchFilter.Text
