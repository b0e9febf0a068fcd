import SearchFilter.Proofs.Filter.Lexical
import SearchFilter.Proofs.Instant.RoundTrip
import SearchFilter.Proofs.Json.Numbers
import SearchFilter.Proofs.Json.Strings
import SearchFilter.ReleaseGroup.Json

/-!
# Reading rows back from JSON

A row is read back from its JSON (`ofJson_toJson`), from either layout and with its members in any
order, if its date is regular; else it is read with the regular date that clocks show. The two halves
meet at the texts of a row, with any blanks between their parts (`RowText`): the reader takes every
one of them for the row as it is shown (`RowText.ofJson`), and both layouts are among them. The
reader's invariant is that it holds this row's own values of the members that it has seen
(`Members.of`), so that neither their order nor what is still to come matters.
-/

namespace SearchFilter.ReleaseGroup

open SearchFilter.Text SearchFilter.Json
open SearchFilter.Filter (Blanks skipBlanks_append_of_startsOutside skipBlanks_append_cons
  startsOutside_blanks_append)

variable {g : ReleaseGroup} {k : Key} {ks seen : List Key} {s rest : List Char}

/-! ## The texts of a row -/

/-- The value of a member. -/
def value (g : ReleaseGroup) : Key → Json
  | .id => .int g.id.toInt
  | .name => .string g.name
  | .type => .int g.type.toInt
  | .releaseDate => .string (g.releaseDate.text .zulu)

/-- A member of the JSON of a row. -/
def member (g : ReleaseGroup) (k : Key) : String × Json := (k.toString, g.value k)

theorem toJson_eq (g : ReleaseGroup) : g.toJson = .object (Key.all.map g.member) := rfl

/-- The characters of the value of a member. -/
def valueChars (g : ReleaseGroup) (k : Key) : List Char := (g.value k).scalarText.toList

/-- The texts of a member: a key, a colon and a value. -/
inductive MemberText (g : ReleaseGroup) (k : Key) : List Char → Prop where
  | mk (before gap gap' : Blanks) : MemberText g k
      (before ++ (quotedChars k.toString.toList ++ (gap ++ ':' :: (gap' ++ g.valueChars k))))

/-- The texts of the members after the first, to the brace that closes the object. -/
inductive MembersText (g : ReleaseGroup) : List Key → List Char → Prop where
  | close (before : Blanks) : MembersText g [] (before ++ ['}'])
  | comma {k : Key} {ks : List Key} {s t : List Char} (before : Blanks) (h : MemberText g k s)
      (ht : MembersText g ks t) : MembersText g (k :: ks) (before ++ ',' :: (s ++ t))

/-- The texts of a row with its members in the given order. -/
inductive RowText (g : ReleaseGroup) : List Key → List Char → Prop where
  | mk {k : Key} {ks : List Key} {s t : List Char} (before after : Blanks) (h : MemberText g k s)
      (ht : MembersText g ks t) : RowText g (k :: ks) (before ++ '{' :: (s ++ (t ++ after)))

/-! ## Values -/

theorem continues_of_isBlank {c : Char} (h : isBlank c = true) : continues c = false := by
  simp only [isBlank, Bool.or_eq_true, beq_iff_eq] at h
  rcases h with ((rfl | rfl) | rfl) | rfl <;> rfl

/-- After a value come blanks and a comma or a brace. -/
theorem MembersText.numberEnds (h : MembersText g ks s) (rest : List Char) :
    NumberEnds (s ++ rest) := by
  cases h with
  | close before =>
    rw [List.append_assoc]
    exact startsOutside_blanks_append (fun _ => continues_of_isBlank) before
      (startsOutside_cons.2 (by decide))
  | comma before =>
    rw [List.append_assoc]
    exact startsOutside_blanks_append (fun _ => continues_of_isBlank) before
      (startsOutside_cons.2 (by decide))

theorem startsOutside_integerText (n : Int) (rest : List Char) :
    StartsOutside isBlank ((integerText n).toList ++ rest) := by
  rw [integerText, String.toList_ofList]
  split
  · exact startsOutside_cons.2 (by decide)
  · have hdigits := digits_decimalDigits n.natAbs
    exact (hdigits.startsOutside (fun _ => isWhiteSpace_of_isDigit) rest).blank

theorem wantInt_append (n : Int32) (b : Blanks) (h : NumberEnds rest) :
    wantInt (b ++ ((integerText n.toInt).toList ++ rest)) = .ok (n.toInt, rest) := by
  have hmin : -2147483648 ≤ n.toInt := Int32.minValue_le_toInt n
  have hmax : n.toInt ≤ 2147483647 := Int32.toInt_le n
  have hread := takeNumber?_integerText (n := n.toInt) (by omega) (by omega) h
  rw [wantInt, skipBlanks_append_of_startsOutside _ (startsOutside_integerText _ _)]
  simp only [hread]

/-- A string begins with its quote, and what follows the quote is read. -/
theorem skipBlanks_quotedChars (t : List Char) (b : Blanks) (rest : List Char) :
    ∃ u, skipBlanks (b ++ (quotedChars t ++ rest)) = '"' :: u ∧
      takeStringRest? [] u = some (t, rest) := by
  refine ⟨t.flatMap escape ++ ['"'] ++ rest, ?_, takeString?_quotedChars t rest⟩
  exact skipBlanks_append_cons b (by decide) _

theorem wantString_append (t : List Char) (b : Blanks) (rest : List Char) :
    wantString (b ++ (quotedChars t ++ rest)) = .ok (t, rest) := by
  obtain ⟨u, hquote, hread⟩ := skipBlanks_quotedChars t b rest
  rw [wantString, hquote]
  simp only [hread]

/-! ## Members -/

/-- The row with the regular date that clocks show. -/
def shown (g : ReleaseGroup) : ReleaseGroup := { g with releaseDate := g.releaseDate.shown }

theorem shown_eq_self_iff : g.shown = g ↔ g.releaseDate.Regular := by
  obtain ⟨id, name, type, releaseDate⟩ := g
  simp [shown, Instant.shown_eq_self_iff]

/-- The row's own values of some members. -/
def Members.of (g : ReleaseGroup) (seen : List Key) : Members where
  id := if .id ∈ seen then some g.id else none
  name := if .name ∈ seen then some g.name else none
  type := if .type ∈ seen then some g.type else none
  releaseDate := if .releaseDate ∈ seen then some g.releaseDate else none

theorem Members.has_of (g : ReleaseGroup) (h : k ∉ seen) : (of g seen).has k = false := by
  cases k <;> simp [has, of, h]

/-- A row is whole once every member has been seen. -/
theorem Members.finish_of (g : ReleaseGroup) (h : ∀ k, k ∈ seen) : (of g seen).finish = .ok g := by
  simp [finish, of, h]

/-- The value of a member is read as it is shown. -/
theorem Members.take_of (g : ReleaseGroup) (seen : List Key) (k : Key) (b : Blanks)
    (h : NumberEnds rest) : (of g.shown seen).take k (b ++ (g.valueChars k ++ rest)) =
      .ok (of g.shown (k :: seen), rest) := by
  cases k with
  | id =>
    rw [take, valueChars, value, scalarText, wantInt_append g.id b h]
    simp [Value.int32?_toInt, of, shown]
  | name =>
    rw [take, valueChars, value, scalarText, Json.quoted, String.toList_ofList, wantString_append]
    simp [of, shown]
  | type =>
    rw [take, valueChars, value, scalarText, wantInt_append g.type b h]
    simp [Value.int32?_toInt, of, shown]
  | releaseDate =>
    rw [take, valueChars, value, scalarText, Json.quoted, String.toList_ofList, wantString_append]
    simp [Instant.readRelaxed?_text, of, shown]

theorem skipColon_append (b : Blanks) (s : List Char) : skipColon (b ++ ':' :: s) = .ok s := by
  rw [skipColon, skipBlanks_append_cons b (by decide), expect?_cons_self]

/-- A member that has not come yet is read. -/
theorem MemberText.takeMember (h : MemberText g k s) (hk : k ∉ seen) (hrest : NumberEnds rest) :
    ∃ u, skipBlanks (s ++ rest) = '"' :: u ∧
      takeMember (.of g.shown seen) u = .ok (.of g.shown (k :: seen), rest) := by
  obtain ⟨before, gap, gap'⟩ := h
  obtain ⟨u, hquote, hkey⟩ := skipBlanks_quotedChars k.toString.toList before
    (gap ++ ':' :: (gap' ++ (g.valueChars k ++ rest)))
  refine ⟨u, ?_, ?_⟩
  · rw [← hquote]
    simp only [List.append_assoc, List.cons_append]
  · simp only [ReleaseGroup.takeMember, hkey, String.ofList_toList, Key.ofString?_toString,
      Members.has_of g.shown hk, Bool.false_eq_true, if_false, skipColon_append,
      Members.take_of g seen k gap' hrest]

theorem MembersText.length_le (h : MembersText g ks s) : ks.length ≤ s.length := by
  induction h with
  | close before => simp
  | comma before h ht ih =>
    simp only [List.length_cons, List.length_append]
    omega

/-- The members after the first are read one by one. -/
theorem MembersText.takeMembers (h : MembersText g ks s) {fuel : Nat} (hfuel : ks.length < fuel)
    (hnodup : (ks ++ seen).Nodup) (rest : List Char) :
    takeMembers (.of g.shown seen) fuel (s ++ rest) =
      .ok (.of g.shown (ks.reverse ++ seen), rest) := by
  induction h generalizing seen fuel with
  | close before =>
    obtain ⟨fuel, rfl⟩ := Nat.exists_eq_add_one_of_ne_zero (Nat.ne_of_gt hfuel)
    have hbrace : skipBlanks (before ++ ['}'] ++ rest) = '}' :: rest := by
      rw [List.append_assoc]
      exact skipBlanks_append_cons before (by decide) rest
    rw [ReleaseGroup.takeMembers, hbrace]
    rfl
  | @comma k ks s t before h ht ih =>
    obtain ⟨fuel, rfl⟩ := Nat.exists_eq_add_one_of_ne_zero (Nat.ne_zero_of_lt hfuel)
    have hk : k ∉ seen := fun hk => (List.nodup_cons.1 hnodup).1 (List.mem_append_right ks hk)
    have hcomma : skipBlanks (before ++ ',' :: (s ++ t) ++ rest) = ',' :: (s ++ (t ++ rest)) := by
      rw [List.append_assoc, List.cons_append, List.append_assoc]
      exact skipBlanks_append_cons before (by decide) _
    obtain ⟨u, hquote, hmember⟩ := h.takeMember hk (ht.numberEnds rest)
    rw [ReleaseGroup.takeMembers, hcomma]
    simp only [hquote, hmember]
    rw [ih (Nat.lt_of_succ_lt_succ hfuel) (List.perm_middle.nodup_iff.2 hnodup),
      List.reverse_cons, List.append_assoc, List.singleton_append]

theorem RowText.exists_takeJson (h : RowText g ks s) (hks : ks.Perm Key.all) :
    ∃ after : Blanks, takeJson s = .ok (g.shown, after) := by
  obtain @⟨k, ks, s, t, before, after, h, ht⟩ := h
  have hseen : (ks.reverse ++ [k]).Perm (k :: ks) := by
    rw [← List.reverse_cons]
    exact List.reverse_perm (k :: ks)
  have hall (j : Key) : j ∈ ks.reverse ++ [k] := (hseen.trans hks).mem_iff.2 (Key.mem_all j)
  have hnodup : (ks ++ [k]).Nodup :=
    (List.perm_append_singleton k ks).nodup_iff.2 (hks.nodup_iff.2 (by decide))
  have hfuel : ks.length < (t ++ (after : List Char)).length + 1 := by
    have hlength := ht.length_le
    rw [List.length_append]
    omega
  have hempty : Members.empty = Members.of g.shown [] := rfl
  obtain ⟨u, hquote, hmember⟩ := h.takeMember (List.not_mem_nil (a := k)) (ht.numberEnds after)
  refine ⟨after, ?_⟩
  rw [takeJson, skipBlanks_append_cons before (by decide)]
  simp only [hquote, hempty, hmember, ht.takeMembers hfuel hnodup, Members.finish_of g.shown hall]

/-- Every text of a row is read as the row that it shows. -/
theorem RowText.ofJson (h : RowText g ks s) (hks : ks.Perm Key.all) :
    ofJson (String.ofList s) = .ok g.shown := by
  obtain ⟨after, htake⟩ := h.exists_takeJson hks
  have hend : wantEnd after = .ok () := by
    have hblanks : skipBlanks after = [] := List.dropWhile_eq_nil_iff.2 after.2
    rw [wantEnd, hblanks]
    rfl
  rw [ReleaseGroup.ofJson, String.toList_ofList, htake]
  simp only [hend]

/-! ## Layouts -/

/-- One layout: the same blanks before every member, and some before the last brace. -/
theorem rowText_intercalate {gap : Blanks} {f : Key → List Char}
    (hf : ∀ k, MemberText g k (gap ++ f k)) (close : Blanks) (k : Key) (ks : List Key) :
    RowText g (k :: ks) ('{' :: (gap ++
      (List.intercalate (',' :: gap) ((k :: ks).map f) ++ (close ++ ['}'])))) := by
  have hmembers : ∃ t, MembersText g ks t ∧
      List.intercalate (',' :: gap) ((k :: ks).map f) ++ (close ++ ['}']) = f k ++ t := by
    induction ks generalizing k with
    | nil => exact ⟨close ++ ['}'], .close close, by simp⟩
    | cons j ks ih =>
      obtain ⟨t, ht, heq⟩ := ih j
      refine ⟨_, .comma .empty (hf j) ht, ?_⟩
      rw [List.map_cons, List.map_cons, List.intercalate_cons_cons, ← List.map_cons,
        List.append_assoc, List.append_assoc, heq]
      simp
  obtain ⟨t, ht, heq⟩ := hmembers
  have hrow := RowText.mk .empty .empty (hf k) ht
  rw [heq]
  simpa using hrow

theorem compact_value (g : ReleaseGroup) (k : Key) :
    (g.value k).compact.toList = g.valueChars k := by
  cases k <;> rfl

theorem pretty_value (g : ReleaseGroup) (k : Key) (depth : Nat) :
    ((g.value k).pretty depth).toList = g.valueChars k := by
  cases k <;> rfl

theorem compactMembers_map (g : ReleaseGroup) (ks : List Key) :
    (compactMembers (ks.map g.member)).map String.toList =
      ks.map fun k => quotedChars k.toString.toList ++ ':' :: g.valueChars k := by
  induction ks with
  | nil => rfl
  | cons k ks ih =>
    rw [List.map_cons, member, compactMembers, List.map_cons, ih, List.map_cons]
    simp [Json.quoted, compact_value]

theorem prettyMembers_map (g : ReleaseGroup) (ks : List Key) (depth : Nat) :
    (prettyMembers depth (ks.map g.member)).map String.toList =
      ks.map fun k => quotedChars k.toString.toList ++ ':' :: ' ' :: g.valueChars k := by
  induction ks with
  | nil => rfl
  | cons k ks ih =>
    rw [List.map_cons, member, prettyMembers, List.map_cons, ih, List.map_cons]
    simp [Json.quoted, pretty_value]

/-- A new line and the spaces after it. -/
def newlineBlanks (depth : Nat) : Blanks where
  val := (newline depth).toList
  property := by
    intro c hc
    rw [newline, String.toList_append] at hc
    rcases List.mem_append.1 hc with hc | hc
    · rw [List.mem_singleton.1 hc]
      rfl
    · rw [String.toList_ofList] at hc
      rw [List.eq_of_mem_replicate hc]
      rfl

theorem rowText_compact (g : ReleaseGroup) (k : Key) (ks : List Key) :
    RowText g (k :: ks) (Json.object ((k :: ks).map g.member)).compact.toList := by
  have hmember (k : Key) : MemberText g k
      (Blanks.empty ++ (quotedChars k.toString.toList ++ ':' :: g.valueChars k)) :=
    .mk .empty .empty .empty
  have hrow := rowText_intercalate hmember .empty k ks
  rw [compact]
  simp only [String.toList_append, String.toList_intercalate, compactMembers_map]
  simpa using hrow

theorem rowText_pretty (g : ReleaseGroup) (k : Key) (ks : List Key) (depth : Nat) :
    RowText g (k :: ks) ((Json.object ((k :: ks).map g.member)).pretty depth).toList := by
  have hmember (k : Key) : MemberText g k (newlineBlanks (depth + 1) ++
      (quotedChars k.toString.toList ++ ':' :: ' ' :: g.valueChars k)) :=
    .mk (newlineBlanks (depth + 1)) .empty .space
  have hrow := rowText_intercalate hmember (newlineBlanks depth) k ks
  have hne : (k :: ks).map g.member ≠ [] := List.cons_ne_nil _ _
  rw [pretty.eq_4 depth _ hne]
  simp only [String.toList_append, String.toList_intercalate, prettyMembers_map]
  simpa [newlineBlanks] using hrow

/-! ## Reading back -/

/-- The JSON of a row is read as the row with the date that clocks show. So it is with its members in
any order, in either layout (at every depth, as it stands in a list) and with any blanks between the
parts. This is the row itself if its date is regular, and only then. -/
theorem ofJson_toJson (g : ReleaseGroup) :
    ofJson g.json = .ok g.shown ∧
      (∀ ks : List Key, ks.Perm Key.all →
        ofJson (Json.object (ks.map g.member)).compact = .ok g.shown ∧
        (∀ depth, ofJson ((Json.object (ks.map g.member)).pretty depth) = .ok g.shown) ∧
        ∀ s, RowText g ks s → ofJson (String.ofList s) = .ok g.shown) ∧
      (g.shown = g ↔ g.releaseDate.Regular) := by
  have hcompact {ks : List Key} (hks : ks.Perm Key.all) :
      ofJson (Json.object (ks.map g.member)).compact = .ok g.shown := by
    cases ks with
    | nil => exact absurd hks.length_eq (by decide)
    | cons k ks => simpa using (rowText_compact g k ks).ofJson hks
  refine ⟨?_, ?_, shown_eq_self_iff⟩
  · rw [json, toJson_eq]
    exact hcompact (List.Perm.refl Key.all)
  intro ks hks
  refine ⟨hcompact hks, ?_, fun s hs => hs.ofJson hks⟩
  intro depth
  cases ks with
  | nil => exact absurd hks.length_eq (by decide)
  | cons k ks => simpa using (rowText_pretty g k ks depth).ofJson hks

/-- A row at the limits: a leap second ends the last year of instants, and the name has a quote, a
backslash, a line feed and a control character. -/
def extreme : ReleaseGroup where
  id := -2147483648
  name := "\"\\\n\x1fé"
  type := 2147483647
  releaseDate := ⟨8210266876799, 1999999999, by decide⟩

theorem ofJson_toJson_extreme :
    extreme.json = "\x7b\"id\":-2147483648,\"name\":\"\\\"\\\\\\n\\u001fé\",\"type\":2147483647," ++
        "\"release_date\":\"+262142-12-31T23:59:60.999999999Z\"\x7d" ∧
      ofJson extreme.json = .ok extreme ∧
      ofJson (Json.object ([.releaseDate, .type, .name, .id].map extreme.member)).compact =
        .ok extreme := by
  obtain ⟨hjson, hlayouts, hregular⟩ := ofJson_toJson extreme
  rw [hregular.2 (by decide)] at hjson hlayouts
  exact ⟨by decide +kernel, hjson, (hlayouts [.releaseDate, .type, .name, .id] (by decide)).1⟩

/-- A row whose date is not regular. -/
def sinceLongSecond : ReleaseGroup where
  id := 1
  name := "a"
  type := 1
  releaseDate := Instant.longSecond

theorem ofJson_json_sinceLongSecond :
    sinceLongSecond.json =
        "\x7b\"id\":1,\"name\":\"a\",\"type\":1,\"release_date\":\"1970-01-01T00:00:01.500Z\"\x7d" ∧
      ofJson sinceLongSecond.json =
        .ok { sinceLongSecond with releaseDate := ⟨1, 500000000, by decide⟩ } ∧
      ofJson sinceLongSecond.json ≠ .ok sinceLongSecond := by
  have hjson : sinceLongSecond.json =
      "\x7b\"id\":1,\"name\":\"a\",\"type\":1,\"release_date\":\"1970-01-01T00:00:01.500Z\"\x7d" := by
    decide +kernel
  have hread : ofJson sinceLongSecond.json =
      .ok { sinceLongSecond with releaseDate := ⟨1, 500000000, by decide⟩ } := by
    rw [hjson]
    decide +kernel
  refine ⟨hjson, hread, ?_⟩
  rw [hread]
  decide

end SearchFilter.ReleaseGroup
