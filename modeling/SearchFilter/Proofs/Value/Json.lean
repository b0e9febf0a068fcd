import SearchFilter.Instant.Reading
import SearchFilter.Proofs.Json.Numbers
import SearchFilter.Proofs.Json.Strings
import SearchFilter.Value.Json

/-!
# The normal form of values in JSON

Values are written without a tag. The kinds of values are tried in the order of their declaration,
and the first one that fits the text counts (`takeJson_eq`). Since texts come before timestamps and
integers before floating-point numbers, every value but a floating-point number is read back as
itself, except that a null loses its type and a timestamp becomes its text (`ofJson_json`).
-/

namespace SearchFilter.Value

open Json

/-! ## The first kind that fits -/

/-- The kinds of values that can be read. -/
inductive Kind where
  | null
  | bool
  | int
  | float
  | text
  | timestamp
deriving DecidableEq

/-- The number as a floating-point number. -/
def floatOfNumber : Json.Number → Binary64
  | .int n => .ofMagnitude (n < 0) (Binary64.nearest ⟨n.natAbs, 1⟩)
  | .float x => x

/-- The number as an integer of 64 bits, if it is one. -/
def intOfNumber? : Json.Number → Option Int64
  | .int n => int64? n
  | .float _ => none

/-- A value of a kind at the start of a text, and what follows it. -/
def Kind.take? (s : List Char) : Kind → Option (Value × List Char)
  | .null => (expectWord? "null".toList s).map fun r => (.null, r)
  | .bool =>
    ((expectWord? "true".toList s).map fun r => (Value.bool true, r)).or
      ((expectWord? "false".toList s).map fun r => (.bool false, r))
  | .int => (takeNumber? s).bind fun (n, r) => (intOfNumber? n).map fun i => (.int i, r)
  | .float => (takeNumber? s).map fun (n, r) => (.float (floatOfNumber n), r)
  | .text => (takeString? s).map fun (cs, r) => (.text (String.ofList cs), r)
  | .timestamp =>
    (takeString? s).bind fun (cs, r) => (Instant.readRelaxed? cs).map fun t => (.timestamp t, r)

/-- The kinds in the order of their declaration. -/
def Kind.declared : List Kind := [.null, .bool, .int, .float, .text, .timestamp]

/-- The value of the first kind that fits the start of a text, and what follows it. -/
def firstFit? (s : List Char) : Option (Value × List Char) := Kind.declared.findSome? (Kind.take? s)

/-! ## What the first character says -/

theorem expectWord?_eq_none {t : List Char} (c : Char) (word : List Char) (h : ∀ s, t ≠ c :: s) :
    expectWord? (c :: word) t = none := by
  cases t with
  | nil => rfl
  | cons d t =>
    have hne : (c == d) = false := by
      rw [beq_eq_false_iff_ne]
      rintro rfl
      exact h t rfl
    rw [expectWord?, List.isPrefixOf, hne, Bool.false_and, if_neg Bool.false_ne_true]

theorem takeString?_eq_none {t : List Char} (h : ∀ s, t ≠ '"' :: s) : takeString? t = none := by
  unfold takeString?
  split
  · exact absurd rfl (h _)
  · rfl

variable (s : List Char)

/-- Only nulls and truth values begin with letters. -/
theorem firstFit?_letter {c : Char} (hdigit : c.isDigit = false) (hhyphen : c ≠ '-')
    (hquote : c ≠ '"') :
    firstFit? (c :: s) = (Kind.null.take? (c :: s)).or (Kind.bool.take? (c :: s)) := by
  have hnumber : takeNumber? (c :: s) = none := takeNumber?_eq_none hdigit hhyphen
  have hstring : takeString? (c :: s) = none :=
    takeString?_eq_none fun t ht => hquote (List.cons.inj ht).1
  simp only [firstFit?, Kind.declared, List.findSome?_cons]
  cases Kind.null.take? (c :: s) with
  | some r => rfl
  | none =>
    cases Kind.bool.take? (c :: s) with
    | some r => rfl
    | none => simp [Kind.take?, hnumber, hstring]

/-- Every string is a text, so that none is left for the timestamps. -/
theorem firstFit?_quote : firstFit? ('"' :: s) =
    (takeString? ('"' :: s)).map fun (cs, r) => (.text (String.ofList cs), r) := by
  have hnull : expectWord? "null".toList ('"' :: s) = none := rfl
  have htrue : expectWord? "true".toList ('"' :: s) = none := rfl
  have hfalse : expectWord? "false".toList ('"' :: s) = none := rfl
  have hnumber : takeNumber? ('"' :: s) = none := takeNumber?_eq_none (by decide) (by decide)
  simp only [firstFit?, Kind.declared, List.findSome?_cons, Kind.take?, hnull, htrue, hfalse,
    hnumber]
  cases takeString? ('"' :: s) <;> rfl

/-- Every number is a floating-point number if it is no integer of 64 bits. -/
theorem firstFit?_number {t : List Char} (hn : ∀ s, t ≠ 'n' :: s) (ht : ∀ s, t ≠ 't' :: s)
    (hf : ∀ s, t ≠ 'f' :: s) (hquote : ∀ s, t ≠ '"' :: s) :
    firstFit? t = (takeNumber? t).map fun (n, r) => (ofNumber n, r) := by
  have hnull : expectWord? "null".toList t = none := expectWord?_eq_none 'n' ['u', 'l', 'l'] hn
  have htrue : expectWord? "true".toList t = none := expectWord?_eq_none 't' ['r', 'u', 'e'] ht
  have hfalse : expectWord? "false".toList t = none :=
    expectWord?_eq_none 'f' ['a', 'l', 's', 'e'] hf
  have hstring : takeString? t = none := takeString?_eq_none hquote
  simp only [firstFit?, Kind.declared, List.findSome?_cons, Kind.take?, hnull, htrue, hfalse,
    hstring]
  cases takeNumber? t with
  | none => rfl
  | some p =>
    obtain ⟨n | x, r⟩ := p
    · cases hint : int64? n <;> simp [intOfNumber?, floatOfNumber, ofNumber, hint]
    · rfl

/-- A value is that of the first kind that fits. -/
theorem takeJson_eq : takeJson s =
    match firstFit? (Text.skipBlanks s) with
    | some r => .ok r
    | none => .error (if (skipValue? .strict (Text.skipBlanks s)).isSome then .mismatch
        else .malformed) := by
  unfold takeJson
  extract_lets t scalar?
  have hscalar : scalar? = firstFit? t := by
    unfold scalar?
    clear scalar?
    clear_value t
    split
    · next t =>
      have hbool : Kind.bool.take? ('n' :: t) = none := rfl
      rw [firstFit?_letter t (by decide) (by decide) (by decide), hbool, Option.or_none, Kind.take?]
    · next t =>
      have hnull : Kind.null.take? ('t' :: t) = none := rfl
      have hfalse : expectWord? "false".toList ('t' :: t) = none := rfl
      rw [firstFit?_letter t (by decide) (by decide) (by decide), hnull, Option.none_or, Kind.take?,
        hfalse, Option.map_none, Option.or_none]
    · next t =>
      have hnull : Kind.null.take? ('f' :: t) = none := rfl
      have htrue : expectWord? "true".toList ('f' :: t) = none := rfl
      rw [firstFit?_letter t (by decide) (by decide) (by decide), hnull, Option.none_or, Kind.take?,
        htrue, Option.map_none, Option.none_or]
    · next t => exact (firstFit?_quote t).symm
    · next hn ht hf hquote => exact (firstFit?_number hn ht hf hquote).symm
  clear_value scalar?
  subst hscalar
  rfl

/-- No text is read as a timestamp: it would have to be a string, and every string is a text. -/
theorem exists_kind_of_firstFit? {p : Value × List Char} (h : firstFit? s = some p) :
    ∃ k ∈ [Kind.null, .bool, .int, .float, .text], k.take? s = some p := by
  have hdeclared : Kind.declared = [Kind.null, .bool, .int, .float, .text] ++ [.timestamp] := rfl
  rw [firstFit?, hdeclared, List.findSome?_append, Option.or_eq_some_iff] at h
  rcases h with h | ⟨hnone, h⟩
  · exact List.exists_of_findSome?_eq_some h
  · have htext := List.findSome?_eq_none_iff.1 hnone .text (by decide)
    rw [Kind.take?, Option.map_eq_none_iff] at htext
    obtain ⟨k, hk, htake⟩ := List.exists_of_findSome?_eq_some h
    rw [List.mem_singleton.1 hk, Kind.take?, htext] at htake
    cases htake

/-- What is read is no timestamp and no null with a type. -/
theorem firstFit?_untyped {v : Value} {r : List Char} (h : firstFit? s = some (v, r)) :
    (∀ t, v ≠ .timestamp t) ∧ ∀ type, v ≠ .typedNull type := by
  obtain ⟨k, hk, htake⟩ := exists_kind_of_firstFit? s h
  cases k with
  | null =>
    obtain ⟨_, -, heq⟩ := Option.map_eq_some_iff.1 htake
    cases heq
    simp
  | bool =>
    rcases Option.or_eq_some_iff.1 htake with h | ⟨-, h⟩
    · obtain ⟨_, -, heq⟩ := Option.map_eq_some_iff.1 h
      cases heq
      simp
    · obtain ⟨_, -, heq⟩ := Option.map_eq_some_iff.1 h
      cases heq
      simp
  | int =>
    obtain ⟨_, -, htake⟩ := Option.bind_eq_some_iff.1 htake
    obtain ⟨_, -, heq⟩ := Option.map_eq_some_iff.1 htake
    cases heq
    simp
  | float =>
    obtain ⟨_, -, heq⟩ := Option.map_eq_some_iff.1 htake
    cases heq
    simp
  | text =>
    obtain ⟨_, -, heq⟩ := Option.map_eq_some_iff.1 htake
    cases heq
    simp
  | timestamp => exact absurd hk (by decide)

/-! ## Reading back -/

/-- What JSON keeps of a value: a null loses its type and a timestamp becomes its text. -/
def plain : Value → Value
  | .typedNull _ => .null
  | .timestamp t => .text (t.text .zulu)
  | v => v

variable {v : Value}

/-- No kind fits a text that begins with a blank. -/
theorem startsOutside_of_firstFit? {s : List Char} {p : Value × List Char}
    (h : firstFit? s = some p) : Text.StartsOutside Text.isBlank s := by
  intro c hc
  obtain ⟨t, rfl⟩ := List.head?_eq_some_iff.1 hc
  cases hblank : Text.isBlank c with
  | false => rfl
  | true =>
    simp only [Text.isBlank, Bool.or_eq_true, beq_iff_eq] at hblank
    rcases hblank with ((rfl | rfl) | rfl) | rfl <;>
      · rw [firstFit?_letter t (by decide) (by decide) (by decide)] at h
        cases h

/-- A text that some kind fits as a whole is read as the first one reads it. -/
theorem ofJson_eq_ok {text : String} (h : firstFit? text.toList = some (v, [])) :
    ofJson text = .ok v := by
  have hblanks : Text.skipBlanks text.toList = text.toList :=
    Text.dropWhile_of_startsOutside (startsOutside_of_firstFit? h)
  rw [ofJson, takeJson_eq, hblanks, h]
  rfl

theorem exists_of_ofJson {text : String} (h : ofJson text = .ok v) :
    ∃ rest, firstFit? (Text.skipBlanks text.toList) = some (v, rest) := by
  rw [ofJson, takeJson_eq] at h
  cases hfit : firstFit? (Text.skipBlanks text.toList) with
  | none =>
    rw [hfit] at h
    cases h
  | some p =>
    obtain ⟨u, rest⟩ := p
    rw [hfit] at h
    simp only at h
    split at h
    · cases h
    · cases h
      exact ⟨rest, rfl⟩

/-- A string is a text, whatever it says. -/
theorem firstFit?_quoted (s : String) : firstFit? (quoted s).toList = some (.text s, []) := by
  have hread := takeString?_quotedChars s.toList []
  rw [List.append_nil] at hread
  rw [quoted, String.toList_ofList, quotedChars, List.cons_append, firstFit?_quote,
    ← List.cons_append, ← quotedChars, hread, Option.map_some]
  simp only [String.ofList_toList]

/-- An integer of 64 bits is one, although it fits a floating-point number as well. -/
theorem firstFit?_integerText (n : Int64) :
    firstFit? (Text.integerText n.toInt).toList = some (.int n, []) := by
  have hfirst {c : Char} {s : List Char} (h : (Text.integerText n.toInt).toList = c :: s) :
      c = '-' ∨ c.isDigit = true := Text.head_integerText (List.head?_eq_some_iff.2 ⟨s, h⟩)
  have hread :=
    takeNumber?_integerText (Int64.minValue_le_toInt n) (Int64.toInt_le n) numberEnds_nil
  rw [List.append_nil] at hread
  rw [firstFit?_number, hread, Option.map_some]
  · simp only [ofNumber, int64?_toInt]
  · exact fun s h => absurd (hfirst h) (by decide)
  · exact fun s h => absurd (hfirst h) (by decide)
  · exact fun s h => absurd (hfirst h) (by decide)
  · exact fun s h => absurd (hfirst h) (by decide)

theorem firstFit?_null_json : firstFit? null.json.toList = some (.null, []) := rfl

theorem firstFit?_json (h : ∀ x, v ≠ .float x) :
    firstFit? v.json.toList = some (v.plain, []) := by
  cases v with
  | null => exact firstFit?_null_json
  | typedNull type => exact firstFit?_null_json
  | bool b => cases b <;> rfl
  | int n => exact firstFit?_integerText n
  | float x => exact absurd rfl (h x)
  | text s => exact firstFit?_quoted s
  | timestamp t => exact firstFit?_quoted (t.text .zulu)

/-- The first kind that fits the JSON of a value, unless this is a floating-point number, gives what
JSON keeps of the value. So it is read back, and has the same JSON. No text at all is read as a
timestamp or as a null with a type. -/
theorem ofJson_json (v : Value) (h : ∀ x, v ≠ .float x) :
    firstFit? v.json.toList = some (v.plain, []) ∧ ofJson v.json = .ok v.plain ∧
      v.plain.json = v.json ∧
      ∀ text u, ofJson text = .ok u → (∀ t, u ≠ .timestamp t) ∧ ∀ type, u ≠ .typedNull type := by
  have hfit := firstFit?_json h
  refine ⟨hfit, ofJson_eq_ok hfit, ?_, ?_⟩
  · cases v <;> rfl
  · intro text u hu
    obtain ⟨rest, hrest⟩ := exists_of_ofJson hu
    exact firstFit?_untyped _ hrest

/-- The start of 1970. -/
def epoch : Instant := ⟨0, 0, by decide⟩

/-- A text with a control character and a quote that looks like a timestamp as far as it goes. -/
def lookalike : Value := .text "1970-01-01T00:00:00Z\x1f\""

theorem ofJson_json_lookalike :
    lookalike.json = "\"1970-01-01T00:00:00Z\\u001f\\\"\"" ∧ ofJson lookalike.json = .ok lookalike ∧
      ofJson (Value.int (-9223372036854775808)).json = .ok (.int (-9223372036854775808)) ∧
      ofJson (Value.timestamp epoch).json = .ok (.text "1970-01-01T00:00:00Z") ∧
      ofJson (Value.typedNull .timestamp).json = .ok .null := by
  have hepoch : (Value.timestamp epoch).plain = .text "1970-01-01T00:00:00Z" := by decide
  refine ⟨by decide, ?_, ?_, ?_, ?_⟩
  · exact (ofJson_json lookalike nofun).2.1
  · exact (ofJson_json (.int (-9223372036854775808)) nofun).2.1
  · rw [← hepoch]
    exact (ofJson_json (.timestamp epoch) nofun).2.1
  · exact (ofJson_json (.typedNull .timestamp) nofun).2.1

end SearchFilter.Value
