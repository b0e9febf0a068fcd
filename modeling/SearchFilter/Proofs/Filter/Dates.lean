import SearchFilter.Proofs.Filter.Occurrence
import SearchFilter.Proofs.Instant.Formats
import SearchFilter.ReleaseGroup

/-!
# Timestamp literals

A literal of a timestamp column is RFC 3339 or a date, and stands for the instant that it writes;
every other literal is rejected where it begins. The dates are more than those of four, two and two
digits: months and days may be short, years short, long and signed, and white space may stand before
every number (`settles_timestamp`, `parse_short_date`). A bare word that is classified as a
timestamp begins with a digit and has one of the same formats, so that three short numbers with
hyphens between them are a date and no text.
-/

namespace SearchFilter.Filter

open Text

variable {resolver : Resolver} {text : String} {ws vs : List Wording} {w : Wording} {field : Field}

/-- The value is the instant that the word stands for. -/
def MeansInstant (word : List Char) (v : Value) : Prop :=
  ∃ t : Instant, t.LiteralText word ∧ v = .timestamp t

theorem read?_timestamp_eq_some_iff {word : List Char} {v : Value} :
    ColumnType.read? .timestamp word = some v ↔ MeansInstant word v := by
  simp only [ColumnType.read?, Option.map_eq_some_iff, Instant.ofLiteral?_eq_some_iff, MeansInstant,
    eq_comm (a := v)]

/-- A word is classified as a timestamp only if it begins with a digit, hyphens apart, and writes the
instant. -/
theorem literalText_of_value_none {l : Literal} {t : Instant}
    (h : l.value none = .ok (.timestamp t)) :
    ∃ word, l = .bare word ∧ looksNumeric word = true ∧ t.LiteralText word := by
  cases l with
  | quoted word => cases h
  | bare word =>
    rw [Literal.value, Except.ok.injEq] at h
    have hclass := classified word
    rw [h] at hclass
    cases hclass with
    | timestamp _ _ _ hnumeric _ htimestamp =>
      obtain ⟨u, hu, heq⟩ := read?_timestamp_eq_some_iff.1 htimestamp
      cases heq
      exact ⟨word, rfl, hnumeric, hu⟩

/-- A literal of a timestamp column, unless it is a null, is the instant that it writes, and without
one is rejected where it begins. Against a column without a type, a literal is a timestamp only if it
is a bare word that writes the instant. A word writes an instant if it is RFC 3339 or a date alone, of
a date and a time that exist; the dates of four, two and two digits are among these and are their
midnight in UTC. -/
theorem settles_timestamp (h : Occurs text ws w vs)
    (hfield : resolver (String.ofList w.name) = .ok field) :
    (field.type = some .timestamp → (∀ word, w.literal = .bare word → isNull word = false) →
      Settles resolver text ws w vs field.column .timestamp (MeansInstant w.literal.word)) ∧
    (field.type = none → ∀ c t, parse resolver text = .ok c →
      c.leaves[ws.length]? = some ⟨field.column, w.op, .timestamp t⟩ →
      ∃ word, w.literal = .bare word ∧ looksNumeric word = true ∧ t.LiteralText word) ∧
    (∀ word, (∃ v, MeansInstant word v) ↔
      (∃ d k minutes, Instant.DateTimeText d k minutes word ∧ d.Exists ∧ k.Exists) ∨
        ∃ d, Instant.LooseDateText d word ∧ d.Exists ∧ Instant.firstYear ≤ d.year ∧
          d.year ≤ Instant.lastYear) ∧
    ∀ word d, Instant.DateText d word → d.Exists → ∃ t : Instant,
      t.toLocal .utc = (d, ⟨0, 0, 0, 0⟩) ∧ ∀ v, MeansInstant word v ↔ v = .timestamp t := by
  refine ⟨?_, ?_, ?_, ?_⟩
  · intro htype hnull
    exact (h.settles hfield htype hnull).congr fun _ => read?_timestamp_eq_some_iff
  · intro htype c t hc hl
    obtain ⟨v, hv, hl'⟩ := h.leaf hfield hc
    cases hl.symm.trans hl'
    rw [htype] at hv
    exact literalText_of_value_none hv
  · intro word
    rw [← Instant.exists_literalText_iff]
    constructor
    · rintro ⟨_, t, ht, -⟩
      exact ⟨t, ht⟩
    · rintro ⟨t, ht⟩
      exact ⟨_, t, ht, rfl⟩
  · intro word d htext hd
    have hyear := htext.year_bounds
    obtain ⟨t, ht⟩ := Instant.exists_midnight? hd hyear.1 hyear.2
    have hshown := Instant.midnight?_eq_some_iff.1 ht
    have hword : Instant.ofLiteral? word = some t :=
      Instant.ofLiteral?_eq_some_iff.2 (.date htext.loose hshown)
    refine ⟨t, hshown, ?_⟩
    intro v
    rw [← read?_timestamp_eq_some_iff, ColumnType.read?, hword, Option.map_some, Option.some_inj,
      eq_comm]

/-- The midnight that begins the year 2000. -/
def newYear2000 : Instant := ⟨946684800, 0, by decide⟩

/-- The midnight that begins 3 February of the year 1. -/
def february3 : Instant := ⟨-62132745600, 0, by decide⟩

/-- `release_date=2000-1-1` -/
def shortDate : Wording := .compact "release_date" .eq (.bare "2000-1-1".toList)

/-- Resolves one column without a type. -/
def untyped : Resolver := .ofFields [⟨.plain "version", none⟩]

/-- `version<1-2-3` -/
def versionNumber : Wording := .compact "version" .lt (.bare "1-2-3".toList)

theorem settles_timestamp_lenient :
    (∃ c, parse ReleaseGroup.resolver "release_date=2000-1-1" = .ok c ∧
      c.leaves[0]? = some ⟨.plain "release_date", .eq, .timestamp newYear2000⟩) ∧
    ∃ c t, parse untyped "version<1-2-3" = .ok c ∧
      c.leaves[0]? = some ⟨.plain "version", .lt, .timestamp t⟩ ∧ t.LiteralText "1-2-3".toList := by
  have hshort : Occurs "release_date=2000-1-1" [] shortDate [] :=
    ⟨.one (.one (.clause shortDate)), by decide, rfl⟩
  have hnumber : Occurs "version<1-2-3" [] versionNumber [] :=
    ⟨.one (.one (.clause versionNumber)), by decide, rfl⟩
  have hdate : ReleaseGroup.resolver (String.ofList shortDate.name) =
      .ok ReleaseGroup.Key.releaseDate.field := rfl
  have hversion : untyped (String.ofList versionNumber.name) = .ok ⟨.plain "version", none⟩ := rfl
  have hmeans : MeansInstant shortDate.literal.word (.timestamp newYear2000) :=
    read?_timestamp_eq_some_iff.1 (by decide)
  refine ⟨?_, ?_⟩
  · have hsettles := (settles_timestamp hshort hdate).1 rfl (by rintro _ ⟨⟩; decide)
    exact (hsettles.accepted (by simp) _).2 hmeans
  · have hvalue : versionNumber.literal.value none = .ok (.timestamp february3) := by decide
    have hparse := versionNumber.parse_eq_ok hversion hvalue
    obtain ⟨word, hword, -, htext⟩ :=
      (settles_timestamp hnumber hversion).2.1 rfl _ february3 hparse rfl
    cases hword
    exact ⟨_, february3, hparse, rfl, htext⟩

/-- Dates with short fields are accepted, and classified as timestamps, although they are neither
RFC 3339 nor four, two and two digits. -/
theorem parse_short_date :
    (∃ c, parse ReleaseGroup.resolver "release_date=2000-1-1" = .ok c) ∧
    (∃ t, (Literal.bare "1-2-3".toList).value none = .ok (.timestamp t)) ∧
    ∀ word ∈ ["2000-1-1".toList, "1-2-3".toList],
      (∀ d k minutes, ¬Instant.DateTimeText d k minutes word) ∧ ∀ d, ¬Instant.DateText d word := by
  refine ⟨⟨_, shortDate.parse_eq_ok (v := .timestamp newYear2000) rfl (by decide)⟩, ?_, ?_⟩
  · exact ⟨february3, by decide⟩
  · intro word hword
    have hshort : ':' ∉ word ∧ word.length < 10 := by
      revert word
      decide
    refine ⟨?_, ?_⟩
    · intro d k minutes h
      exact hshort.1 h.colon_mem
    · intro d h
      exact Nat.ne_of_lt hshort.2 h.length

end SearchFilter.Filter
