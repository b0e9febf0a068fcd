import SearchFilter.Proofs.Filter.Occurrence
import SearchFilter.Proofs.Text.Numerals
import SearchFilter.ReleaseGroup

/-!
# Integer literals

A literal of an integer column is exact at every length. It is a sign or none and digits of ASCII,
and stands for the integer that these denote in the decimal system if that is one of 64 bits; every
other literal is rejected where it begins (`settles_integer`). The digits are read from the left
with no limit (`readInteger?_eq_some_iff`) and the limits of 64 bits are looked at afterwards, so
that neither end of the range is special.
-/

namespace SearchFilter

open SearchFilter.Text SearchFilter.Filter

/-! ## Integers of 64 bits -/

namespace Value

variable {n : Int} {k : Int64}

theorem int64?_eq_some_iff : int64? n = some k ↔ k.toInt = n := by
  constructor
  · intro h
    unfold int64? at h
    split at h
    · next hbounds =>
      cases h
      exact Int64.toInt_ofInt_of_le hbounds.1 (Int.lt_add_one_of_le hbounds.2)
    · cases h
  · rintro rfl
    exact int64?_toInt k

theorem toInt_bounds (k : Int64) :
    -9223372036854775808 ≤ k.toInt ∧ k.toInt ≤ 9223372036854775807 :=
  ⟨Int64.minValue_le_toInt k, Int64.toInt_le k⟩

end Value

namespace Filter

/-- The value is the integer that the word denotes, and that is one of 64 bits. -/
def MeansInteger (word : List Char) (v : Value) : Prop :=
  ∃ n : Int, IntegerText n word ∧ -9223372036854775808 ≤ n ∧ n ≤ 9223372036854775807 ∧
    ∃ k : Int64, k.toInt = n ∧ v = .int k

theorem read?_integer_eq_some_iff {word : List Char} {v : Value} :
    ColumnType.read? .integer word = some v ↔ MeansInteger word v := by
  simp only [ColumnType.read?, Option.map_eq_some_iff, Option.bind_eq_some_iff,
    readInteger?_eq_some_iff, Value.int64?_eq_some_iff]
  constructor
  · rintro ⟨k, ⟨n, hn, rfl⟩, rfl⟩
    obtain ⟨hmin, hmax⟩ := Value.toInt_bounds k
    exact ⟨k.toInt, hn, hmin, hmax, k, rfl, rfl⟩
  · rintro ⟨n, hn, -, -, k, rfl, rfl⟩
    exact ⟨k, ⟨k.toInt, hn, rfl⟩, rfl⟩

/-- A literal of an integer column, unless it is a null, is the integer that it denotes. If it denotes
none of 64 bits it is rejected where it begins, and is no value of any type. -/
theorem settles_integer {resolver : Resolver} {text : String} {ws vs : List Wording} {w : Wording}
    {field : Field} (h : Occurs text ws w vs) (hfield : resolver (String.ofList w.name) = .ok field)
    (htype : field.type = some .integer)
    (hnull : ∀ word, w.literal = .bare word → isNull word = false) :
    Settles resolver text ws w vs field.column .integer (MeansInteger w.literal.word) :=
  (h.settles hfield htype hnull).congr fun _ => read?_integer_eq_some_iff

/-- `id=+009223372036854775807` -/
def greatest : Wording := .compact "id" .eq (.bare "+009223372036854775807".toList)

/-- `type!='-9223372036854775809'` -/
def tooLow : Wording := .compact "type" .neq (.quoted "-9223372036854775809".toList)

theorem settles_integer_limits :
    (∃ c, parse ReleaseGroup.resolver "id=+009223372036854775807" = .ok c ∧
      c.leaves[0]? = some ⟨.plain "id", .eq, .int 9223372036854775807⟩) ∧
    ∃ before after,
      "id=+009223372036854775807 & type!='-9223372036854775809'".toList =
        before ++ (tooLow.text ++ after) ∧
      Comprises [greatest] before ∧
      parse ReleaseGroup.resolver "id=+009223372036854775807 & type!='-9223372036854775809'" =
        .error (.parse (byteLength (before ++ tooLow.upTo .literal))
          (.mistyped .integer "-9223372036854775809".toList "type".toList)) := by
  have hone : Occurs "id=+009223372036854775807" [] greatest [] :=
    ⟨.one (.one (.clause greatest)), by decide, rfl⟩
  have htwo : Occurs "id=+009223372036854775807 & type!='-9223372036854775809'" [greatest] tooLow
      [] := ⟨.one (.more (.clause greatest) .space .space (.one (.clause tooLow))), by decide, rfl⟩
  have hgreatest : MeansInteger greatest.literal.word (.int 9223372036854775807) :=
    read?_integer_eq_some_iff.1 (by decide)
  have htooLow (v : Value) : ¬MeansInteger tooLow.literal.word v := by
    have hread : ColumnType.read? .integer tooLow.literal.word = none := by decide
    rw [← read?_integer_eq_some_iff, hread]
    exact nofun
  have hfits : greatest.Fits ReleaseGroup.resolver :=
    ⟨_, .int 9223372036854775807, rfl, by decide⟩
  have hid : ReleaseGroup.resolver (String.ofList greatest.name) = .ok ReleaseGroup.Key.id.field :=
    rfl
  have htype : ReleaseGroup.resolver (String.ofList tooLow.name) =
      .ok ReleaseGroup.Key.type.field := rfl
  refine ⟨?_, ?_⟩
  · have hsettles := settles_integer hone hid rfl (by rintro _ ⟨⟩; decide)
    exact (hsettles.accepted (by simp) _).2 hgreatest
  · have hsettles := settles_integer htwo htype rfl nofun
    obtain ⟨before, after, htext, hbefore, -, hparse⟩ :=
      (hsettles.rejected htooLow).2 (by simpa using hfits)
    exact ⟨before, after, htext, hbefore, hparse⟩

end Filter

end SearchFilter
