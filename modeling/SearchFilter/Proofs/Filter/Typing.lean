import SearchFilter.Proofs.Filter.Diagnosis
import SearchFilter.Proofs.Filter.Resolution
import SearchFilter.Proofs.Filter.Words
import SearchFilter.Proofs.Text.Numerals

/-!
# Typed and untyped literals

A literal is read in two ways. Against a column with a type it is a value of this type or does not
fit, and against a column without one a bare word is classified. The two ask different questions in
a different order. `classified` says once what the classification can answer and what was asked
before, and `coherent` that the two agree: what a word is classified as is what a column of that
type makes of it.
-/

namespace SearchFilter

open SearchFilter.Text SearchFilter.Filter

/-! ## Types of values -/

/-- The type of a value. The null that knows no type has none. -/
def Value.type? : Value → Option ColumnType
  | .null => none
  | .bool _ => some .bool
  | .int _ => some .integer
  | .float _ => some .float
  | .text _ => some .text
  | .timestamp _ => some .timestamp
  | .typedNull ty => some ty

variable {ty : ColumnType} {v : Value}

/-- What a type reads from a word is of this type, and no null. -/
theorem ColumnType.typed_of_read? {word : List Char} (h : ty.read? word = some v) :
    v.type? = some ty ∧ ∀ type, v ≠ .typedNull type := by
  cases ty with
  | text =>
    cases h
    exact ⟨rfl, nofun⟩
  | integer =>
    obtain ⟨n, -, rfl⟩ := Option.map_eq_some_iff.1 h
    exact ⟨rfl, nofun⟩
  | float =>
    obtain ⟨x, -, rfl⟩ := Option.map_eq_some_iff.1 h
    exact ⟨rfl, nofun⟩
  | bool =>
    obtain ⟨b, -, rfl⟩ := Option.map_eq_some_iff.1 h
    exact ⟨rfl, nofun⟩
  | timestamp =>
    obtain ⟨t, -, rfl⟩ := Option.map_eq_some_iff.1 h
    exact ⟨rfl, nofun⟩

namespace Filter

variable {word : List Char}

namespace Literal

theorem accept_eq_ok_iff : accept ty word = .ok v ↔ ty.read? word = some v := by
  unfold accept
  cases ty.read? word <;> simp

theorem value_bare (h : isNull word = false) : (bare word).value (some ty) = accept ty word := by
  rw [value, h, if_neg Bool.false_ne_true]

theorem value_bare_null (h : isNull word = true) :
    (bare word).value (some ty) = .ok (.typedNull ty) := by
  rw [value, if_pos h]

/-- A literal against a column with a type has this type. -/
theorem type?_of_value_eq_ok {l : Literal} (h : l.value (some ty) = .ok v) :
    v.type? = some ty := by
  cases l with
  | quoted t => exact (ColumnType.typed_of_read? (accept_eq_ok_iff.1 h)).1
  | bare w =>
    by_cases hnull : isNull w = true
    · rw [value_bare_null hnull] at h
      cases h
      rfl
    · rw [value_bare (Bool.not_eq_true _ ▸ hnull)] at h
      exact (ColumnType.typed_of_read? (accept_eq_ok_iff.1 h)).1

/-- What is quoted is never a null, whatever it says. -/
theorem ne_null_of_value_quoted {type : Option ColumnType}
    (h : (quoted word).value type = .ok v) : v ≠ .null ∧ ∀ ty, v ≠ .typedNull ty := by
  cases type with
  | none =>
    cases h
    exact ⟨nofun, nofun⟩
  | some ty =>
    obtain ⟨htype, hnull⟩ := ColumnType.typed_of_read? (accept_eq_ok_iff.1 h)
    refine ⟨?_, hnull⟩
    rintro rfl
    cases htype

end Literal

/-! ## Classification -/

/-- Lower case is as far from digits as upper case. -/
theorem mem_lowered_of_isDigit {c : Char} (hc : c ∈ word) (h : c.isDigit = true) :
    c ∈ lowered word := by
  have hlower : c.toLower = c := by
    apply toLower_eq_self
    exact .inl (Nat.lt_of_le_of_lt (Char.isDigit_iff_toNat.1 h).2 (by decide))
  rw [lowered, List.mem_map]
  exact ⟨c, hc, hlower⟩

theorem exists_isDigit_of_readInteger? {n : Int} (h : readInteger? word = some n) :
    ∃ c ∈ word, c.isDigit = true := by
  cases readInteger?_eq_some_iff.1 h with
  | unsigned hds => exact hds.exists_isDigit
  | plus hds =>
    obtain ⟨c, hc, hdigit⟩ := hds.exists_isDigit
    exact ⟨c, List.mem_cons_of_mem _ hc, hdigit⟩
  | minus hds =>
    obtain ⟨c, hc, hdigit⟩ := hds.exists_isDigit
    exact ⟨c, List.mem_cons_of_mem _ hc, hdigit⟩

/-- No word with a digit is a truth value. -/
theorem read?_bool_eq_none_of_isDigit {c : Char} (hc : c ∈ word) (h : c.isDigit = true) :
    ColumnType.read? .bool word = none := by
  have hmem := mem_lowered_of_isDigit hc h
  have hletters : ∀ d ∈ "true".toList ++ "false".toList, d.isDigit = false := by decide
  rw [ColumnType.read?, Option.map_eq_none_iff, ColumnType.readBool?, if_neg, if_neg]
  · intro hfalse
    rw [hletters c (List.mem_append_right _ (hfalse ▸ hmem))] at h
    cases h
  · intro htrue
    rw [hletters c (List.mem_append_left _ (htrue ▸ hmem))] at h
    cases h

/-- No truth value is an integer. -/
theorem read?_integer_eq_none_of_bool (h : ColumnType.read? .bool word = some v) :
    ColumnType.read? .integer word = none := by
  cases hread : readInteger? word with
  | none => rw [ColumnType.read?, hread, Option.bind_none, Option.map_none]
  | some n =>
    obtain ⟨c, hc, hdigit⟩ := exists_isDigit_of_readInteger? hread
    rw [read?_bool_eq_none_of_isDigit hc hdigit] at h
    cases h

/-- The answers of the classification, each with what has been asked before it. -/
inductive Classified (word : List Char) : Value → Prop where
  | null (hnull : isNull word = true) : Classified word .null
  | bool {b : Bool} (hnull : isNull word = false)
      (hbool : ColumnType.read? .bool word = some (.bool b)) : Classified word (.bool b)
  | int {n : Int64} (hnull : isNull word = false) (hbool : ColumnType.read? .bool word = none)
      (hint : ColumnType.read? .integer word = some (.int n)) : Classified word (.int n)
  | float {x : Binary64} (hnull : isNull word = false)
      (hbool : ColumnType.read? .bool word = none)
      (hint : ColumnType.read? .integer word = none) (hnumeric : looksNumeric word = true)
      (hfloat : ColumnType.read? .float word = some (.float x)) : Classified word (.float x)
  | timestamp {t : Instant} (hnull : isNull word = false)
      (hbool : ColumnType.read? .bool word = none)
      (hint : ColumnType.read? .integer word = none) (hnumeric : looksNumeric word = true)
      (hfloat : ColumnType.read? .float word = none)
      (htimestamp : ColumnType.read? .timestamp word = some (.timestamp t)) :
      Classified word (.timestamp t)
  | text (hnull : isNull word = false) (hbool : ColumnType.read? .bool word = none)
      (hint : ColumnType.read? .integer word = none)
      (hrest : looksNumeric word = true → ColumnType.read? .float word = none ∧
        ColumnType.read? .timestamp word = none) : Classified word (.text (String.ofList word))

theorem classified (word : List Char) : Classified word (classify word) := by
  unfold classify
  by_cases hnull : isNull word = true
  · rw [if_pos hnull]
    exact .null hnull
  rw [if_neg hnull]
  rw [Bool.not_eq_true] at hnull
  cases hbool : ColumnType.read? .bool word with
  | some v =>
    obtain ⟨b, -, rfl⟩ := Option.map_eq_some_iff.1 hbool
    exact .bool hnull hbool
  | none =>
    cases hint : ColumnType.read? .integer word with
    | some v =>
      obtain ⟨n, -, rfl⟩ := Option.map_eq_some_iff.1 hint
      exact .int hnull hbool hint
    | none =>
      by_cases hnumeric : looksNumeric word = true
      · cases hfloat : ColumnType.read? .float word with
        | some v =>
          obtain ⟨x, -, rfl⟩ := Option.map_eq_some_iff.1 hfloat
          simp only [hnumeric, if_true, Option.orElse_some, Option.getD_some]
          exact .float hnull hbool hint hnumeric hfloat
        | none =>
          cases htimestamp : ColumnType.read? .timestamp word with
          | some v =>
            obtain ⟨t, -, rfl⟩ := Option.map_eq_some_iff.1 htimestamp
            simp only [hnumeric, if_true, Option.orElse_none, Option.getD_some]
            exact .timestamp hnull hbool hint hnumeric hfloat htimestamp
          | none =>
            simp only [hnumeric, if_true, Option.orElse_none, Option.getD_none]
            exact .text hnull hbool hint fun _ => ⟨hfloat, htimestamp⟩
      · simp only [if_neg hnumeric, Option.getD_none]
        exact .text hnull hbool hint fun h => absurd h hnumeric

/-! ## Comparisons on their own -/

namespace Wording

variable {resolver : Resolver}

theorem parse_text (w : Wording) (resolver : Resolver) :
    parse resolver (String.ofList w.text) = (w.clause []).resolve w.text resolver := by
  have htrim : trim w.text = w.text := (Phrase.clause w).trimmed_text.trim_eq
  have hread : read w.text = .ok (.clause (w.clause [])) :=
    (read_eq_ok_iff (Phrase.clause w).trimmed_text).2 ⟨.one (.one (.clause w)), rfl, rfl⟩
  simp only [parse, String.toList_ofList, htrim, hread, resolve]

variable {w : Wording} {field : Field}

/-- A comparison that is a whole filter text is parsed as one of its column. -/
theorem parse_eq_ok (h : resolver (String.ofList w.name) = .ok field)
    (hv : w.literal.value field.type = .ok v) :
    parse resolver (String.ofList w.text) = .ok (.compare field.column w.op v) := by
  rw [parse_text, Clause.resolve, clause, h]
  simp only [hv]

/-- If its literal does not fit the column, it fails at the literal. -/
theorem parse_eq_error (h : resolver (String.ofList w.name) = .ok field)
    (hv : w.literal.value field.type = .error ty) :
    parse resolver (String.ofList w.text) =
      .error (.parse (byteLength (w.upTo .literal)) (.mistyped ty w.literal.word w.name)) := by
  have hposition : position w.text (w.literal.text ++ []) = byteLength (w.upTo .literal) := by
    rw [List.append_nil, w.upTo_literal, position_append]
  rw [parse_text, Clause.resolve, clause, h]
  simp only [hv, failAt, hposition]

/-- The comparison with another literal. -/
def withLiteral (w : Wording) (l : Literal) (h : l.WellFormed) : Wording :=
  { w with literal := l, wellFormed := h }

end Wording

/-- A bare word may also be quoted. -/
theorem Literal.wellFormed_quoted (h : (Literal.bare word).WellFormed) :
    (Literal.quoted word).WellFormed := by
  intro hquote
  exact absurd (h.2 _ hquote) (by decide)

/-! ## Coherence -/

/-- The two ways to read a word agree, with quotes and without. A null is the word `null` in any
letter case. -/
structure Coherent (word : List Char) : Prop where
  typed : ∀ ty, word.map Char.toLower ≠ ['n', 'u', 'l', 'l'] →
    (Literal.bare word).value (some ty) = (Literal.quoted word).value (some ty)
  /-- The same condition, or the same failure at the same place and with the same message. -/
  parsed : ∀ (w : Wording) (h : (Literal.bare word).WellFormed) (resolver : Resolver)
    (field : Field) (ty : ColumnType), resolver (String.ofList w.name) = .ok field →
    field.type = some ty → word.map Char.toLower ≠ ['n', 'u', 'l', 'l'] →
    parse resolver (String.ofList (w.withLiteral (.bare word) h).text) =
      parse resolver (String.ofList
        (w.withLiteral (.quoted word) (Literal.wellFormed_quoted h)).text)
  null : ∀ ty, word.map Char.toLower = ['n', 'u', 'l', 'l'] →
    (Literal.bare word).value (some ty) = .ok (.typedNull ty)
  quoted_ne_null : ∀ type v, (Literal.quoted word).value type = .ok v →
    v ≠ .null ∧ ∀ ty, v ≠ .typedNull ty
  untyped_null : (Literal.bare word).value none = .ok .null ↔
    word.map Char.toLower = ['n', 'u', 'l', 'l']
  untyped_bool : (∃ b, (Literal.bare word).value none = .ok (.bool b)) ↔
    word.map Char.toLower ≠ ['n', 'u', 'l', 'l'] ∧
      ∃ v, (Literal.bare word).value (some .bool) = .ok v
  untyped_int : (∃ n, (Literal.bare word).value none = .ok (.int n)) ↔
    word.map Char.toLower ≠ ['n', 'u', 'l', 'l'] ∧
      ∃ v, (Literal.bare word).value (some .integer) = .ok v
  untyped_typed : ∀ v ty, (Literal.bare word).value none = .ok v → v.type? = some ty →
    (Literal.bare word).value (some ty) = .ok v
  untyped_text : ∀ s, (Literal.bare word).value none = .ok (.text s) → s = String.ofList word
  untyped_quoted : (Literal.quoted word).value none = .ok (.text (String.ofList word))

theorem value_bare_eq_quoted (h : isNull word = false) (ty : ColumnType) :
    (Literal.bare word).value (some ty) = (Literal.quoted word).value (some ty) :=
  Literal.value_bare h

/-- A word without a type has the value that its type gives it. -/
theorem Classified.value_eq_ok (h : Classified word v) (htype : v.type? = some ty) :
    (Literal.bare word).value (some ty) = .ok v := by
  cases h with
  | null hnull => cases htype
  | bool hnull hbool =>
    cases htype
    rw [Literal.value_bare hnull, Literal.accept_eq_ok_iff, hbool]
  | int hnull _ hint =>
    cases htype
    rw [Literal.value_bare hnull, Literal.accept_eq_ok_iff, hint]
  | float hnull _ _ _ hfloat =>
    cases htype
    rw [Literal.value_bare hnull, Literal.accept_eq_ok_iff, hfloat]
  | timestamp hnull _ _ _ _ htimestamp =>
    cases htype
    rw [Literal.value_bare hnull, Literal.accept_eq_ok_iff, htimestamp]
  | text hnull =>
    cases htype
    rw [Literal.value_bare hnull, Literal.accept_eq_ok_iff, ColumnType.read?]

/-- The classification asks for a truth value first. -/
theorem Classified.exists_bool_iff (h : Classified word v) :
    (∃ b, v = .bool b) ↔ isNull word = false ∧ ∃ u, ColumnType.read? .bool word = some u := by
  cases h with
  | null hnull => simp [hnull]
  | bool hnull hbool => simp [hnull, hbool]
  | int hnull hbool => simp [hbool]
  | float hnull hbool => simp [hbool]
  | timestamp hnull hbool => simp [hbool]
  | text hnull hbool => simp [hbool]

/-- It asks for an integer next, and no truth value is one. -/
theorem Classified.exists_int_iff (h : Classified word v) :
    (∃ n, v = .int n) ↔ isNull word = false ∧ ∃ u, ColumnType.read? .integer word = some u := by
  cases h with
  | null hnull => simp [hnull]
  | bool hnull hbool => simp [read?_integer_eq_none_of_bool hbool]
  | int hnull _ hint => simp [hnull, hint]
  | float hnull _ hint => simp [hint]
  | timestamp hnull _ hint => simp [hint]
  | text hnull _ hint => simp [hint]

theorem Classified.eq_null_iff (h : Classified word v) : v = .null ↔ isNull word = true := by
  cases h with
  | null hnull => simp [hnull]
  | bool hnull => simp [hnull]
  | int hnull => simp [hnull]
  | float hnull => simp [hnull]
  | timestamp hnull => simp [hnull]
  | text hnull => simp [hnull]

theorem coherent (word : List Char) : Coherent word := by
  have hclass := classified word
  have huntyped (v : Value) : (Literal.bare word).value none = .ok v ↔ classify word = v := by
    rw [Literal.value, Except.ok.injEq]
  have htyped (ty : ColumnType) : (isNull word = false ∧ ∃ v, ty.read? word = some v) ↔
      word.map Char.toLower ≠ ['n', 'u', 'l', 'l'] ∧
        ∃ v, (Literal.bare word).value (some ty) = .ok v := by
    rw [← isNull_eq_false_iff]
    refine and_congr_right fun hnull => ?_
    rw [Literal.value_bare hnull]
    simp only [Literal.accept_eq_ok_iff]
  refine ⟨?_, ?_, ?_, ?_, ?_, ?_, ?_, ?_, ?_, rfl⟩
  · intro ty hnull
    exact value_bare_eq_quoted (isNull_eq_false_iff.2 hnull) ty
  · intro w h resolver field ty hfield hty hnull
    have hsame := value_bare_eq_quoted (isNull_eq_false_iff.2 hnull) ty
    rw [← hty] at hsame
    cases hv : (Literal.bare word).value field.type with
    | ok v =>
      rw [Wording.parse_eq_ok (w := w.withLiteral (.bare word) h) hfield hv]
      rw [Wording.parse_eq_ok (w := w.withLiteral (.quoted word) _) hfield (hsame ▸ hv)]
      rfl
    | error type =>
      rw [Wording.parse_eq_error (w := w.withLiteral (.bare word) h) hfield hv]
      rw [Wording.parse_eq_error (w := w.withLiteral (.quoted word) _) hfield (hsame ▸ hv)]
      rfl
  · intro ty hnull
    exact Literal.value_bare_null (isNull_iff.2 hnull)
  · intro type v hv
    exact Literal.ne_null_of_value_quoted hv
  · rw [huntyped, ← isNull_iff]
    exact hclass.eq_null_iff
  · simp only [huntyped]
    exact hclass.exists_bool_iff.trans (htyped .bool)
  · simp only [huntyped]
    exact hclass.exists_int_iff.trans (htyped .integer)
  · intro v ty hv htype
    rw [huntyped] at hv
    rw [hv] at hclass
    exact hclass.value_eq_ok htype
  · intro s hs
    rw [huntyped] at hs
    rw [hs] at hclass
    cases hclass
    rfl

/-- A null in both letter cases, with quotes and without, a word that only begins like one, and words
that are a truth value and an integer. -/
theorem coherent_mixed_case :
    (Literal.bare "NuLl".toList).value (some .integer) = .ok (.typedNull .integer) ∧
      (Literal.bare "NuLl".toList).value none = .ok .null ∧
      (∀ v, (Literal.quoted "NuLl".toList).value (some .text) = .ok v → ∀ ty, v ≠ .typedNull ty) ∧
      (Literal.quoted "NuLl".toList).value none = .ok (.text "NuLl") ∧
      (Literal.bare "nulls".toList).value (some .text) =
        (Literal.quoted "nulls".toList).value (some .text) ∧
      (Literal.bare "tRuE".toList).value (some .bool) = .ok (.bool true) ∧
      (Literal.bare "+7".toList).value (some .integer) = .ok (.int 7) := by
  have hnull := coherent "NuLl".toList
  refine ⟨hnull.null .integer rfl, hnull.untyped_null.2 rfl, ?_, hnull.untyped_quoted, ?_, ?_, ?_⟩
  · intro v hv
    exact (hnull.quoted_ne_null (some .text) v hv).2
  · exact (coherent "nulls".toList).typed .text (by decide)
  · exact (coherent "tRuE".toList).untyped_typed (.bool true) .bool (by decide) rfl
  · exact (coherent "+7".toList).untyped_typed (.int 7) .integer (by decide) rfl

end Filter

end SearchFilter
