import SearchFilter.Proofs.Filter.Typing
import SearchFilter.Proofs.Instant.RoundTrip
import SearchFilter.Value.Json

/-!
# Timestamps in filters

A timestamp may be written in a filter in many ways: in any zone, with a longer fraction than it
needs, between quotes or without. All of them are read as the same instant, and so are the texts
that show a timestamp to people and in JSON (`readsAs_timestamp`). It is the instant that was written
if that one is regular; if not, the texts are those of another instant, and this one is read
(`readsAs_longSecond`). The work is done elsewhere: the calendar and the clocks by
`Instant.TextAt.ofLiteral?`, the grammar by `Wording.parse_eq_ok`.
-/

namespace SearchFilter

open SearchFilter.Text SearchFilter.Filter

/-! ## Words as literals -/

namespace Filter

/-- The word, with quotes and without, is a literal that stands for the value in every comparison of
a column of the type. -/
structure ReadsAs (type : ColumnType) (word : List Char) (v : Value) : Prop where
  bare : (Literal.bare word).WellFormed
  quoted : (Literal.quoted word).WellFormed
  value_bare : (Literal.bare word).value (some type) = .ok v
  value_quoted : (Literal.quoted word).value (some type) = .ok v
  parsed : ∀ w : Wording, w.literal = .bare word ∨ w.literal = .quoted word →
    ∀ (resolver : Resolver) (field : Field), resolver (String.ofList w.name) = .ok field →
      field.type = some type →
      parse resolver (String.ofList w.text) = .ok (.compare field.column w.op v)

variable {type : ColumnType} {word : List Char} {v : Value} {c : Char}

/-- A word with a digit is read as its type reads it. -/
theorem readsAs_of_read? (hword : ∀ c ∈ word, isWordChar c = true)
    (hdigit : ∃ c ∈ word, c.isDigit = true) (h : type.read? word = some v) :
    ReadsAs type word v := by
  obtain ⟨c, hc, hdigit⟩ := hdigit
  have hwell : (Literal.bare word).WellFormed := ⟨List.ne_nil_of_mem hc, hword⟩
  have hnull : isNull word = false := isNull_eq_false_of_isDigit hc hdigit
  have hquoted : (Literal.quoted word).value (some type) = .ok v := Literal.accept_eq_ok_iff.2 h
  have hbare : (Literal.bare word).value (some type) = .ok v := by
    rw [Literal.value_bare hnull]
    exact hquoted
  refine ⟨hwell, Literal.wellFormed_quoted hwell, hbare, hquoted, ?_⟩
  intro w hw resolver field hfield htype
  have hvalue : w.literal.value field.type = .ok v := by
    rw [htype]
    rcases hw with hw | hw
    · rw [hw]
      exact hbare
    · rw [hw]
      exact hquoted
  exact Wording.parse_eq_ok hfield hvalue

end Filter

/-! ## Words in JSON -/

namespace Json

variable {s : String} {c : Char}

/-- The characters of words stand for themselves between the quotes of a JSON string. -/
theorem escape_of_isWordChar (h : isWordChar c = true) : escape c = [c] := by
  have hcontrol : ∀ n < 32, isWordChar (Char.ofNat n) = false := by decide
  unfold escape
  split
  · exact absurd h (by decide)
  · exact absurd h (by decide)
  · exact absurd h (by decide)
  · exact absurd h (by decide)
  · exact absurd h (by decide)
  · exact absurd h (by decide)
  · exact absurd h (by decide)
  · split
    · next hlt =>
      have hfalse := hcontrol c.toNat hlt
      rw [Char.ofNat_toNat, h] at hfalse
      cases hfalse
    · rfl

theorem quoted_of_isWordChar (h : ∀ c ∈ s.toList, isWordChar c = true) :
    quoted s = "\"" ++ s ++ "\"" := by
  have hchars : s.toList.flatMap escape = s.toList := by
    rw [List.flatMap_congr fun c hc => escape_of_isWordChar (h c hc), List.flatMap_singleton']
  rw [quoted, quotedChars, hchars, ← String.toList_inj]
  simp

end Json

/-! ## Timestamps -/

namespace Filter

variable {t : Instant} {s : List Char}

theorem readsAs_textAt {zone : Instant.Zone} (h : t.TextAt zone s) (hz : zone.Exists)
    (hfirst : 0 ≤ (t.toLocal zone).1.year) (hlast : (t.toLocal zone).1.year ≤ 9999) :
    ReadsAs .timestamp s (.timestamp t.shown) := by
  refine readsAs_of_read? (fun c hc => h.isWordChar_of_mem hc) h.exists_isDigit ?_
  rw [ColumnType.read?, h.ofLiteral? hz hfirst hlast, Option.map_some]

/-- A date is read as its midnight. -/
theorem readsAs_date {d : Date} (h : d.Exists) (hfirst : 0 ≤ d.year) (hlast : d.year ≤ 9999)
    (ht : Instant.midnight? d = some t) : ReadsAs .timestamp d.text (.timestamp t) := by
  refine readsAs_of_read? (fun c hc => Date.isWordChar_of_mem_text hc) d.exists_isDigit_text ?_
  rw [ColumnType.read?, Instant.ofLiteral?_date h hfirst hlast, ht, Option.map_some]

/-- Every text that RFC 3339 gives an instant is read as what clocks show at it, in every zone less
than a day away from UTC and whether or not the text stands between quotes. So are the texts between
the quotes of its display and of its JSON. What is read is the instant itself if it is regular, and
only then. A date is read as the instant that is displayed as its midnight in UTC. -/
theorem readsAs_timestamp :
    (∀ (t : Instant) (zone : Instant.Zone), zone.minutes.natAbs ≤ 23 * 60 + 59 →
      0 ≤ (t.toLocal zone).1.year → (t.toLocal zone).1.year ≤ 9999 →
      t.TextAt zone (t.text zone).toList ∧
        ∀ s, t.TextAt zone s → ReadsAs .timestamp s (.timestamp t.shown)) ∧
    (∀ t : Instant, 0 ≤ t.date.year → t.date.year ≤ 9999 → ∃ displayed written : String,
      (Value.timestamp t).display = "'" ++ displayed ++ "'" ∧
      ReadsAs .timestamp displayed.toList (.timestamp t.shown) ∧
      (Value.timestamp t).json = "\"" ++ written ++ "\"" ∧
      ReadsAs .timestamp written.toList (.timestamp t.shown)) ∧
    (∀ t : Instant, t.shown = t ↔ t.Regular) ∧
    ∀ d : Date, d.Exists → 0 ≤ d.year → d.year ≤ 9999 → ∃ t : Instant,
      ReadsAs .timestamp d.text (.timestamp t) ∧
      (Value.timestamp t).display = "'" ++ String.ofList d.text ++ "T00:00:00+00:00'" := by
  refine ⟨?_, ?_, fun _ => Instant.shown_eq_self_iff, ?_⟩
  · intro t zone hzone hfirst hlast
    refine ⟨Instant.textAt_text t zone, ?_⟩
    intro s hs
    exact readsAs_textAt hs (Nat.lt_succ_of_le hzone) hfirst hlast
  · intro t hfirst hlast
    rw [← Instant.date_toLocal_utc] at hfirst hlast
    refine ⟨t.text .utc, t.text .zulu, rfl, ?_, ?_, ?_⟩
    · exact readsAs_textAt (Instant.textAt_text t .utc) (by decide) hfirst hlast
    · exact Json.quoted_of_isWordChar fun c hc => Instant.isWordChar_of_mem_text hc
    · exact readsAs_textAt (Instant.textAt_text t .zulu) (by decide) hfirst hlast
  · intro d hd hfirst hlast
    obtain ⟨t, ht⟩ := Instant.exists_midnight? hd hfirst hlast
    refine ⟨t, readsAs_date hd hfirst hlast ht, ?_⟩
    rw [Value.display, Instant.text_of_midnight? ht, ← String.toList_inj]
    simp

/-- A quarter of a second into the leap second at the end of 2016. It is in 2017 on clocks that are
five and a half hours ahead. -/
def leapSecond : Instant := ⟨1483228799, 1250000000, by decide⟩

theorem readsAs_timestamp_ahead :
    leapSecond.TextAt (.offset 330) "2017-01-01T05:29:60.250000+05:30".toList ∧
      ReadsAs .timestamp "2017-01-01T05:29:60.250000+05:30".toList (.timestamp leapSecond) ∧
      (∃ displayed : String, (Value.timestamp leapSecond).display = "'" ++ displayed ++ "'" ∧
        ReadsAs .timestamp displayed.toList (.timestamp leapSecond)) ∧
      ∃ t : Instant, ReadsAs .timestamp "2000-02-29".toList (.timestamp t) ∧
        (Value.timestamp t).display = "'2000-02-29T00:00:00+00:00'" := by
  have hfraction : Instant.FractionText (leapSecond.toLocal (.offset 330)).2.nanos
      ('.' :: paddedDigits 6 250000) := .digits (.inr (.inl rfl)) rfl
  have hmark : Instant.ZoneText 330 ('+' :: Instant.hoursAndMinutes 330) := .ahead (by decide)
  have htext : leapSecond.TextAt (.offset 330) "2017-01-01T05:29:60.250000+05:30".toList :=
    .mk hfraction hmark
  obtain ⟨hzones, hdisplayed, hregular, hdates⟩ := readsAs_timestamp
  have hzones := hzones leapSecond (.offset 330) (by decide) (by decide) (by decide)
  have hdisplayed := hdisplayed leapSecond (by decide) (by decide)
  rw [(hregular leapSecond).2 (by decide)] at hzones hdisplayed
  refine ⟨htext, hzones.2 _ htext, ?_, ?_⟩
  · obtain ⟨displayed, -, hdisplay, hreads, -⟩ := hdisplayed
    exact ⟨displayed, hdisplay, hreads⟩
  · exact hdates ⟨2000, 2, 29⟩ (by decide) (by decide) (by decide)

/-- An instant in the second half of a long second that does not end a minute is written like the
one half a second into the next second, and that one is read. -/
theorem readsAs_longSecond :
    Instant.longSecond.TextAt .utc "1970-01-01T00:00:01.500+00:00".toList ∧
      ReadsAs .timestamp "1970-01-01T00:00:01.500+00:00".toList
        (.timestamp ⟨1, 500000000, by decide⟩) ∧
      ¬ReadsAs .timestamp "1970-01-01T00:00:01.500+00:00".toList
        (.timestamp Instant.longSecond) := by
  have htext : Instant.longSecond.TextAt .utc "1970-01-01T00:00:01.500+00:00".toList :=
    Instant.textAt_text Instant.longSecond .utc
  have hreads := readsAs_textAt htext (by decide) (by decide) (by decide)
  refine ⟨htext, hreads, ?_⟩
  intro h
  have hsame := h.value_bare.symm.trans hreads.value_bare
  exact absurd hsame (by decide)

end Filter

end SearchFilter
