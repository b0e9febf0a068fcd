import SearchFilter.Proofs.Filter.Printing
import SearchFilter.Proofs.Filter.Words
import SearchFilter.Proofs.Instant.RoundTrip
import SearchFilter.ReleaseGroup

/-!
# Filters over release groups

A condition over the columns of the table, printed as a filter text in any of the ways that
`Filter.Prints` allows, is parsed back. What is left to show here is that each column types the
literals of its values back into these values (`Key.Admits.value_eq_ok`), and that they are
literals of the grammar (`Key.Admits.wellFormed`). An instant in the second half of a long second is
printed like another one unless the second ends a minute, so it is not parsed back
(`parseFilter_of_prints_longSecond`).
-/

namespace SearchFilter

open SearchFilter.Text SearchFilter.Filter

/-! ## Literals -/

/-- How a value is written as a literal: an integer in decimal, a text between quotes, an instant as
its RFC 3339 text with quotes or without, and a null as a word in any letter case. -/
inductive Spells : Value → Literal → Prop where
  | int (n : Int64) : Spells (.int n) (.bare (integerText n.toInt).toList)
  | text (s : String) : Spells (.text s) (.quoted s.toList)
  | timestamp (t : Instant) : Spells (.timestamp t) (.bare (t.text .utc).toList)
  | quotedTimestamp (t : Instant) : Spells (.timestamp t) (.quoted (t.text .utc).toList)
  | null (type : ColumnType) {w : List Char} (h : w.map Char.toLower = ['n', 'u', 'l', 'l']) :
      Spells (.typedNull type) (.bare w)

namespace ReleaseGroup

/-- The values a column of the table is compared with: those of its type, and the null of its type.
A text holds no quote. An instant is regular, and RFC 3339 can write its year. -/
def Key.Admits (k : Key) : Value → Prop
  | .int _ => k.columnType = .integer
  | .text s => k.columnType = .text ∧ '\'' ∉ s.toList
  | .timestamp t =>
    k.columnType = .timestamp ∧ t.Regular ∧ 0 ≤ t.date.year ∧ t.date.year ≤ 9999
  | .typedNull ty => k.columnType = ty
  | .null | .bool _ | .float _ => False

instance (k : Key) : (v : Value) → Decidable (k.Admits v)
  | .int _ => inferInstanceAs (Decidable (k.columnType = .integer))
  | .text s => inferInstanceAs (Decidable (k.columnType = .text ∧ '\'' ∉ s.toList))
  | .timestamp t => inferInstanceAs
      (Decidable (k.columnType = .timestamp ∧ t.Regular ∧ 0 ≤ t.date.year ∧ t.date.year ≤ 9999))
  | .typedNull ty => inferInstanceAs (Decidable (k.columnType = ty))
  | .null | .bool _ | .float _ => .isFalse fun h => h

/-- A comparison of a column of the table with a value that it admits. -/
def Compares (c : Comparison) : Prop := ∃ k : Key, c.column = k.column ∧ k.Admits c.value

/-- How a comparison is written: the name of the column, the operator and a literal of the value,
with blanks between them. -/
def Writes (c : Comparison) (s : List Char) : Prop :=
  ∃ (before after : Blanks) (l : Literal), Spells c.value l ∧
    s = c.column.name.toList ++ (before ++ (c.op.spelling ++ (after ++ l.text)))

namespace Key

variable {k : Key} {v : Value} {l : Literal}

theorem Admits.exists_spells (h : k.Admits v) : ∃ l, Spells v l := by
  match v, h with
  | .int n, h => exact ⟨_, .int n⟩
  | .text s, h => exact ⟨_, .text s⟩
  | .timestamp t, h => exact ⟨_, .timestamp t⟩
  | .typedNull ty, h => exact ⟨.bare ['n', 'u', 'l', 'l'], .null ty rfl⟩

/-- The literals of an admitted value are literals of the grammar. -/
theorem Admits.wellFormed (h : k.Admits v) (hl : Spells v l) : l.WellFormed := by
  cases hl with
  | int n =>
    obtain ⟨c, hc, -⟩ := exists_isDigit_integerText n.toInt
    exact ⟨List.ne_nil_of_mem hc, fun c hc => isWordChar_of_mem_integerText hc⟩
  | text s => exact h.2
  | timestamp t =>
    obtain ⟨c, hc, -⟩ := Instant.exists_isDigit_text .utc t
    exact ⟨List.ne_nil_of_mem hc, fun c hc => Instant.isWordChar_of_mem_text hc⟩
  | quotedTimestamp t =>
    intro hc
    exact absurd (Instant.isWordChar_of_mem_text hc) (by decide)
  | null ty hw =>
    have hletters : ∀ d ∈ nullLetters, isWordChar d = true := by decide
    refine ⟨?_, fun c hc => hletters c (mem_nullLetters (isNull_iff.2 hw) hc)⟩
    rintro rfl
    cases hw

/-- A column types the literals of a value that it admits back into the value. -/
theorem Admits.value_eq_ok (h : k.Admits v) (hl : Spells v l) :
    l.value (some k.columnType) = .ok v := by
  cases hl with
  | int n =>
    obtain ⟨c, hc, hdigit⟩ := exists_isDigit_integerText n.toInt
    have hinteger : k.columnType = .integer := h
    rw [hinteger, Literal.value, isNull_eq_false_of_isDigit hc hdigit, Literal.accept]
    simp [ColumnType.read?, readInteger?_integerText, Value.int64?_toInt]
  | text s =>
    rw [h.1, Literal.value, Literal.accept, ColumnType.read?, String.ofList_toList]
  | timestamp t =>
    obtain ⟨htype, hregular, hfirst, hlast⟩ := h
    obtain ⟨c, hc, hdigit⟩ := Instant.exists_isDigit_text .utc t
    rw [htype, Literal.value, isNull_eq_false_of_isDigit hc hdigit, Literal.accept]
    simp [ColumnType.read?, Instant.ofLiteral?_text hfirst hlast, hregular.shown_eq]
  | quotedTimestamp t =>
    obtain ⟨htype, hregular, hfirst, hlast⟩ := h
    rw [htype, Literal.value, Literal.accept]
    simp [ColumnType.read?, Instant.ofLiteral?_text hfirst hlast, hregular.shown_eq]
  | null ty hw =>
    have htype : k.columnType = ty := h
    rw [Literal.value, isNull_iff.2 hw, htype]
    rfl

end Key

theorem name_toString (k : Key) :
    k.toString.toList ≠ [] ∧ ∀ c ∈ k.toString.toList, isNameChar c = true := by
  cases k <;> decide

/-- A comparison of a column of the table can be written. -/
theorem Compares.exists_writes {c : Comparison} (h : Compares c) : ∃ s, Writes c s := by
  obtain ⟨k, hk, hv⟩ := h
  obtain ⟨l, hl⟩ := hv.exists_spells
  exact ⟨_, .empty, .empty, l, hl, rfl⟩

/-- A comparison of a column of the table is read back however it is written. -/
theorem Compares.readsBack {c : Comparison} (h : Compares c) (source : List Char) :
    ReadsBack source resolver Writes c := by
  obtain ⟨k, hk, hv⟩ := h
  obtain ⟨hne, hname⟩ := name_toString k
  rintro s ⟨before, after, l, hl, rfl⟩
  refine ⟨⟨k.toString.toList, before, c.op, after, l, hne, hname, hv.wellFormed hl⟩, ?_, ?_⟩
  · rw [Wording.text, hk]
    rfl
  · intro rest
    have hfield : resolver (String.ofList k.toString.toList) = .ok k.field := by
      rw [String.ofList_toList]
      cases k <;> decide
    refine Clause.resolve_eq_ok_iff.2 ⟨k.field, c.value, hfield, hv.value_eq_ok hl, ?_⟩
    rw [Wording.clause, Condition.compare, Key.field, ← hk]

/-- A condition over the columns of the table can be printed, and every way to print it is parsed
back. -/
theorem parseFilter_of_prints {c : Condition} (hc : ∀ d ∈ c.leaves, Compares d) :
    (∃ s, Prints Writes .whole c s) ∧
      ∀ s, Prints Writes .whole c s → ∀ before after : List Char, AllWhiteSpace before →
        AllWhiteSpace after → parseFilter (String.ofList (before ++ s ++ after)) = .ok c := by
  refine ⟨Prints.exists_of_leaves fun d hd => (hc d hd).exists_writes, ?_⟩
  intro s hs before after hb ha
  exact parse_of_prints hs (fun d hd => (hc d hd).readsBack s) hb ha

/-- Both conjunctions, one of them on the right of another, and a leap second. -/
def sample : Condition :=
  .or (.and (.compare Key.id.column .gte (.int (-5))) (.compare Key.name.column .neq (.text "x|y")))
    (.or (.compare Key.releaseDate.column .lt
        (.timestamp ⟨1483228799, 1500000000, by decide⟩))
      (.compare Key.type.column .eq (.typedNull .integer)))

def sampleText : List Char :=
  "id>=-5 & name!='x|y'|(release_date<2016-12-31T23:59:60.500+00:00 | type=NuLL)".toList

theorem compares_sample : ∀ d ∈ sample.leaves, Compares d := by
  intro d hd
  simp only [sample, Condition.leaves, Condition.or, Condition.and, Condition.compare,
    List.cons_append, List.nil_append, List.mem_cons, List.not_mem_nil, or_false] at hd
  rcases hd with rfl | rfl | rfl | rfl
  · exact ⟨.id, rfl, by decide⟩
  · exact ⟨.name, rfl, by decide⟩
  · exact ⟨.releaseDate, rfl, by decide⟩
  · exact ⟨.type, rfl, by decide⟩

theorem prints_sample : Prints Writes .whole sample sampleText := by
  have hid : Writes ⟨Key.id.column, .gte, .int (-5)⟩ "id>=-5".toList :=
    ⟨.empty, .empty, _, .int (-5), rfl⟩
  have hname : Writes ⟨Key.name.column, .neq, .text "x|y"⟩ "name!='x|y'".toList :=
    ⟨.empty, .empty, _, .text "x|y", rfl⟩
  have hdate : Writes
      ⟨Key.releaseDate.column, .lt, .timestamp ⟨1483228799, 1500000000, by decide⟩⟩
      "release_date<2016-12-31T23:59:60.500+00:00".toList :=
    ⟨.empty, .empty, _, .timestamp _, rfl⟩
  have htype : Writes ⟨Key.type.column, .eq, .typedNull .integer⟩ "type=NuLL".toList :=
    ⟨.empty, .empty, .bare "NuLL".toList, .null .integer rfl, rfl⟩
  have hleft : Prints Writes (.chain .and) _ _ := .join .space .space
    (.of_item (.comparison hid)) (.of_item (.comparison hname))
  have hright : Prints Writes .whole _ _ := .join .space .space
    (.of_item (.comparison hdate)) (.of_item (.comparison htype))
  have hwhole : Prints Writes (.chain .or) _ _ := .join .empty .empty (.operand hleft)
    (.of_item (.parens .empty .empty hright))
  exact hwhole

theorem parseFilter_of_prints_sample :
    (∀ d ∈ sample.leaves, Compares d) ∧ Prints Writes .whole sample sampleText ∧
      AllWhiteSpace ['\n'] ∧
      parseFilter (String.ofList (['\n'] ++ sampleText ++ ['\n'])) = .ok sample := by
  have hspace : AllWhiteSpace ['\n'] := by simp [AllWhiteSpace]; decide
  refine ⟨compares_sample, prints_sample, hspace, ?_⟩
  exact (parseFilter_of_prints compares_sample).2 _ prints_sample _ _ hspace hspace

/-- A condition on an instant that is not regular, and the one that is parsed from its text. -/
theorem parseFilter_of_prints_longSecond :
    Instant.longSecond.date.year = 1970 ∧
      Prints Writes .whole
        (.compare Key.releaseDate.column .eq (.timestamp Instant.longSecond))
        "release_date=1970-01-01T00:00:01.500+00:00".toList ∧
      parseFilter "release_date=1970-01-01T00:00:01.500+00:00" =
        .ok (.compare Key.releaseDate.column .eq (.timestamp ⟨1, 500000000, by decide⟩)) ∧
      parseFilter "release_date=1970-01-01T00:00:01.500+00:00" ≠
        .ok (.compare Key.releaseDate.column .eq (.timestamp Instant.longSecond)) := by
  have hwrites : Writes ⟨Key.releaseDate.column, .eq, .timestamp Instant.longSecond⟩
      "release_date=1970-01-01T00:00:01.500+00:00".toList :=
    ⟨.empty, .empty, _, .timestamp _, rfl⟩
  have hprints : Prints Writes .whole _ _ := .of_item (.comparison hwrites)
  have hparse : parseFilter "release_date=1970-01-01T00:00:01.500+00:00" =
      .ok (.compare Key.releaseDate.column .eq (.timestamp ⟨1, 500000000, by decide⟩)) :=
    parse_eq_ok_iff.2 ⟨.one (.one (.clause (.compact "release_date" .eq
      (.bare "1970-01-01T00:00:01.500+00:00".toList)))), by decide, by decide⟩
  refine ⟨by decide, hprints, hparse, ?_⟩
  rw [hparse]
  decide

end ReleaseGroup

end SearchFilter
