import Mathlib.Order.WellFounded
import SearchFilter.Database

/-!
# Decoding answers

An answer is decoded as a whole or not at all (`outcome_fetchAll`). A row is decoded field by field in
the order of the table, so that it fails with the first field that it lacks
(`decodeRow_eq_error_iff`), whether the column is missing or null there; the rows are decoded in
their order, so that the answer fails with the first row that lacks one
(`decodeRows_eq_error_iff`). A column that is missing is missed by a row and not by the answer:
without rows nothing is lacking.
-/

namespace SearchFilter

open SearchFilter.ReleaseGroup

/-- The row in which a release group arrives. -/
def Row.ofGroup (g : ReleaseGroup) : Row := ⟨some g.id, some g.name, some g.type, some g.releaseDate⟩

/-- The field is null. -/
def Row.IsNull (r : Row) : Key → Prop
  | .id => r.id = none
  | .name => r.name = none
  | .type => r.type = none
  | .releaseDate => r.releaseDate = none

namespace ResultSet

variable {missing : List Key} {r : Row} {k : Key} {g : ReleaseGroup} {e : Failure}

/-! ## Fields -/

/-- A row of an answer lacks a field if the answer does not have the column, or if it is null. -/
def Lacks (missing : List Key) (r : Row) (k : Key) : Prop := k ∈ missing ∨ r.IsNull k

/-- The failure of a field that is lacking. -/
def lackOf (missing : List Key) (k : Key) : Failure :=
  if k ∈ missing then noColumn k else isNull k

/-- The field is the first one in the order of the table that the row lacks. -/
structure LacksFirst (missing : List Key) (r : Row) (k : Key) : Prop where
  lacks : Lacks missing r k
  before : ∀ j, Key.all.idxOf j < Key.all.idxOf k → ¬Lacks missing r j

theorem decode_of_lacks {α : Type} {v : Option α} (h : k ∈ missing ∨ v = none) :
    decode missing k v = .error (lackOf missing k) := by
  unfold decode lackOf
  by_cases hk : k ∈ missing
  · rw [if_pos (List.contains_iff_mem.2 hk), if_pos hk]
  · obtain rfl := h.resolve_left hk
    rw [if_neg fun hc => hk (List.contains_iff_mem.1 hc), if_neg hk]

theorem decode_of_not_lacks {α : Type} {v : Option α} (h : ¬(k ∈ missing ∨ v = none)) :
    ∃ a, v = some a ∧ decode missing k v = .ok a := by
  obtain ⟨hk, hv⟩ := not_or.1 h
  obtain ⟨a, rfl⟩ := Option.ne_none_iff_exists'.1 hv
  refine ⟨a, rfl, ?_⟩
  rw [decode, if_neg fun hc => hk (List.contains_iff_mem.1 hc)]

/-! ## Rows -/

/-- A row that lacks nothing is decoded. -/
theorem decodeRow_of_not_lacks (h : ∀ k, ¬Lacks missing r k) :
    ∃ g, r = .ofGroup g ∧ decodeRow missing r = .ok g := by
  obtain ⟨id, name, type, releaseDate⟩ := r
  obtain ⟨id, rfl, hid⟩ := decode_of_not_lacks (h .id)
  obtain ⟨name, rfl, hname⟩ := decode_of_not_lacks (h .name)
  obtain ⟨type, rfl, htype⟩ := decode_of_not_lacks (h .type)
  obtain ⟨releaseDate, rfl, hdate⟩ := decode_of_not_lacks (h .releaseDate)
  refine ⟨⟨id, name, type, releaseDate⟩, rfl, ?_⟩
  simp only [decodeRow, hid, hname, htype, hdate]
  rfl

/-- The first field that a row lacks decides. -/
theorem LacksFirst.decodeRow (h : LacksFirst missing r k) :
    decodeRow missing r = .error (lackOf missing k) := by
  obtain ⟨hk, hbefore⟩ := h
  cases k with
  | id =>
    simp only [ResultSet.decodeRow, decode_of_lacks hk]
    rfl
  | name =>
    obtain ⟨id, -, hid⟩ := decode_of_not_lacks (hbefore .id (by decide))
    simp only [ResultSet.decodeRow, hid, decode_of_lacks hk]
    rfl
  | type =>
    obtain ⟨id, -, hid⟩ := decode_of_not_lacks (hbefore .id (by decide))
    obtain ⟨name, -, hname⟩ := decode_of_not_lacks (hbefore .name (by decide))
    simp only [ResultSet.decodeRow, hid, hname, decode_of_lacks hk]
    rfl
  | releaseDate =>
    obtain ⟨id, -, hid⟩ := decode_of_not_lacks (hbefore .id (by decide))
    obtain ⟨name, -, hname⟩ := decode_of_not_lacks (hbefore .name (by decide))
    obtain ⟨type, -, htype⟩ := decode_of_not_lacks (hbefore .type (by decide))
    simp only [ResultSet.decodeRow, hid, hname, htype, decode_of_lacks hk]
    rfl

theorem exists_lacksFirst (h : Lacks missing r k) : ∃ j, LacksFirst missing r j := by
  obtain ⟨j, hj, hmin⟩ := (measure Key.all.idxOf).wf.has_min {j | Lacks missing r j} ⟨k, h⟩
  exact ⟨j, hj, fun i hi hlacks => hmin i hlacks hi⟩

theorem decodeRow_eq_ok_iff :
    decodeRow missing r = .ok g ↔ r = .ofGroup g ∧ ∀ k, ¬Lacks missing r k := by
  by_cases h : ∀ k, ¬Lacks missing r k
  · obtain ⟨g', rfl, hg⟩ := decodeRow_of_not_lacks h
    rw [hg, and_iff_left h, Except.ok.injEq]
    obtain ⟨id, name, type, releaseDate⟩ := g
    obtain ⟨id', name', type', releaseDate'⟩ := g'
    simp [Row.ofGroup]
  · obtain ⟨k, hk⟩ := not_forall_not.1 h
    obtain ⟨j, hj⟩ := exists_lacksFirst hk
    simp [hj.decodeRow, h]

theorem decodeRow_eq_error_iff :
    decodeRow missing r = .error e ↔ ∃ k, LacksFirst missing r k ∧ e = lackOf missing k := by
  constructor
  · intro h
    by_cases hlacks : ∃ k, Lacks missing r k
    · obtain ⟨k, hk⟩ := hlacks
      obtain ⟨j, hj⟩ := exists_lacksFirst hk
      exact ⟨j, hj, Except.error.inj (h.symm.trans hj.decodeRow)⟩
    · obtain ⟨g, -, hg⟩ := decodeRow_of_not_lacks (not_exists.1 hlacks)
      cases h.symm.trans hg
  · rintro ⟨k, hk, rfl⟩
    exact hk.decodeRow

/-! ## Answers -/

variable {done gs : List ReleaseGroup} {rows : List Row}

theorem decodeRows_eq_ok_iff : decodeRows missing done rows = .ok gs ↔
    ∃ new, rows = new.map .ofGroup ∧ (∀ r ∈ rows, ∀ k, ¬Lacks missing r k) ∧
      gs = done.reverse ++ new := by
  induction rows generalizing done with
  | nil => simp [decodeRows, eq_comm]
  | cons r rows ih =>
    rw [decodeRows]
    cases hr : decodeRow missing r with
    | error e =>
      obtain ⟨k, hk, -⟩ := decodeRow_eq_error_iff.1 hr
      simp only [reduceCtorEq, false_iff, List.forall_mem_cons]
      rintro ⟨-, -, ⟨hwhole, -⟩, -⟩
      exact hwhole k hk.lacks
    | ok g =>
      obtain ⟨rfl, hwhole⟩ := decodeRow_eq_ok_iff.1 hr
      simp only [ih, List.forall_mem_cons]
      constructor
      · rintro ⟨new, rfl, hrows, rfl⟩
        exact ⟨g :: new, rfl, ⟨hwhole, hrows⟩, by simp⟩
      · rintro ⟨new, hnew, ⟨-, hrows⟩, rfl⟩
        obtain ⟨g', new, rfl, hg, rfl⟩ := List.map_eq_cons_iff.1 hnew.symm
        have hsame := decodeRow_eq_ok_iff.2 ⟨hg.symm, hwhole⟩
        cases hr.symm.trans hsame
        exact ⟨new, rfl, hrows, by simp⟩

theorem decodeRows_eq_error_iff : decodeRows missing done rows = .error e ↔
    ∃ before r after, rows = before ++ r :: after ∧
      (∀ b ∈ before, ∀ k, ¬Lacks missing b k) ∧ decodeRow missing r = .error e := by
  induction rows generalizing done with
  | nil => simp [decodeRows]
  | cons r rows ih =>
    rw [decodeRows]
    cases hr : decodeRow missing r with
    | error e' =>
      obtain ⟨k, hk, -⟩ := decodeRow_eq_error_iff.1 hr
      simp only [Except.error.injEq, List.cons_eq_append_iff]
      constructor
      · rintro rfl
        exact ⟨[], r, rows, .inl ⟨rfl, rfl⟩, List.forall_mem_nil _, hr⟩
      · rintro ⟨_, r', after, ⟨rfl, heq⟩ | ⟨before, rfl, -⟩, hbefore, he⟩
        · cases heq
          exact Except.error.inj (hr.symm.trans he)
        · exact absurd hk.lacks (hbefore r List.mem_cons_self k)
    | ok g =>
      simp only [ih, List.cons_eq_append_iff]
      constructor
      · rintro ⟨before, r', after, rfl, hbefore, he⟩
        refine ⟨r :: before, r', after, .inr ⟨before, rfl, rfl⟩, ?_, he⟩
        exact List.forall_mem_cons.2 ⟨(decodeRow_eq_ok_iff.1 hr).2, hbefore⟩
      · rintro ⟨_, r', after, ⟨rfl, heq⟩ | ⟨before, rfl, heq⟩, hbefore, he⟩
        · cases heq
          cases hr.symm.trans he
        · exact ⟨before, r', after, heq, (List.forall_mem_cons.1 hbefore).2, he⟩

variable {answer : ResultSet}

/-- The first row of an answer that lacks a field, and the first field that it lacks. -/
structure FirstLack (answer : ResultSet) (r : Row) (k : Key) : Prop where
  row : ∃ before after, answer.rows = before ++ r :: after ∧
    ∀ b ∈ before, ∀ j, ¬Lacks answer.missing b j
  field : LacksFirst answer.missing r k

/-- An answer in which no row lacks a field is decoded, row by row. -/
theorem groups_eq_ok_iff : answer.groups = .ok gs ↔
    answer.rows = gs.map .ofGroup ∧ ∀ r ∈ answer.rows, ∀ k, ¬Lacks answer.missing r k := by
  rw [groups, decodeRows_eq_ok_iff]
  constructor
  · rintro ⟨new, hnew, hwhole, rfl⟩
    exact ⟨hnew, hwhole⟩
  · rintro ⟨hgs, hwhole⟩
    exact ⟨gs, hgs, hwhole, rfl⟩

/-- The first field that is lacking decides. -/
theorem groups_eq_error_iff : answer.groups = .error e ↔
    ∃ r k, FirstLack answer r k ∧ e = lackOf answer.missing k := by
  simp only [groups, decodeRows_eq_error_iff, decodeRow_eq_error_iff]
  constructor
  · rintro ⟨before, r, after, hrows, hbefore, k, hk, rfl⟩
    exact ⟨r, k, ⟨⟨before, after, hrows, hbefore⟩, hk⟩, rfl⟩
  · rintro ⟨r, k, ⟨⟨before, after, hrows, hbefore⟩, hk⟩, rfl⟩
    exact ⟨before, r, after, hrows, hbefore, k, hk, rfl⟩

theorem exists_groups_eq_error_iff : (∃ e, answer.groups = .error e) ↔
    ∃ r ∈ answer.rows, ∃ k, Lacks answer.missing r k := by
  constructor
  · rintro ⟨e, he⟩
    obtain ⟨r, k, ⟨⟨before, after, hrows, -⟩, hk⟩, -⟩ := groups_eq_error_iff.1 he
    refine ⟨r, ?_, k, hk.lacks⟩
    rw [hrows]
    exact List.mem_append_right _ List.mem_cons_self
  · rintro ⟨r, hr, k, hk⟩
    cases hgroups : answer.groups with
    | error e => exact ⟨e, rfl⟩
    | ok gs => exact absurd hk ((groups_eq_ok_iff.1 hgroups).2 r hr k)

theorem lackOf_eq_execution (missing : List Key) (k : Key) :
    ∃ detail, lackOf missing k = .execution detail := by
  unfold lackOf
  split
  · exact ⟨_, rfl⟩
  · exact ⟨_, rfl⟩

end ResultSet

namespace Database

open ResultSet

/-- If a server carries a statement out, its answer is decoded as a whole, every row in order, or not
at all, if a row lacks a field; then the first such field of the first such row is the failure.
Without rows nothing is lacking, whatever columns are missing. -/
theorem outcome_fetchAll (db : Database) (s : Statement) (h : db.server.failure = none) :
    (∀ gs, (db.fetchAll s).outcome = .ok gs ↔ db.server.result.rows = gs.map .ofGroup ∧
      ∀ r ∈ db.server.result.rows, ∀ k, ¬Lacks db.server.result.missing r k) ∧
    (∀ e, (db.fetchAll s).outcome = .error e ↔ ∃ r k, FirstLack db.server.result r k ∧
      e = lackOf db.server.result.missing k) ∧
    ((∃ e, (db.fetchAll s).outcome = .error e) ↔
      ∃ r ∈ db.server.result.rows, ∃ k, Lacks db.server.result.missing r k) ∧
    (∀ e, (db.fetchAll s).outcome = .error e → ∃ detail, e = .execution detail) ∧
    (db.server.result.rows = [] → (db.fetchAll s).outcome = .ok []) := by
  have houtcome : (db.fetchAll s).outcome = db.server.result.groups := by rw [fetchAll, h]
  rw [houtcome]
  refine ⟨fun gs => groups_eq_ok_iff, fun e => groups_eq_error_iff, exists_groups_eq_error_iff,
    ?_, ?_⟩
  · intro e he
    obtain ⟨r, k, -, rfl⟩ := groups_eq_error_iff.1 he
    exact lackOf_eq_execution _ k
  · intro hrows
    rw [groups_eq_ok_iff, hrows]
    exact ⟨rfl, List.forall_mem_nil _⟩

/-- The first row is null in the second field and the second row in the first one, and a column
between the nulls of the first row is missing. -/
def deficient : Database :=
  ⟨⟨none, [.type], [⟨some 1, none, some 2, none⟩, ⟨none, some "Kid A", some 1, none⟩]⟩⟩

/-- The same row twice, and nothing is lacking. -/
def repeated : Database :=
  ⟨⟨none, [], [⟨some 7, some "", some (-1), some ⟨0, 1000, by decide⟩⟩,
    ⟨some 7, some "", some (-1), some ⟨0, 1000, by decide⟩⟩]⟩⟩

theorem outcome_fetchAll_deficient :
    (deficient.fetchAll ⟨"SELECT 1", []⟩).outcome = .error (isNull .name) ∧
      (repeated.fetchAll ⟨"SELECT 1", []⟩).outcome =
        .ok [⟨7, "", -1, ⟨0, 1000, by decide⟩⟩, ⟨7, "", -1, ⟨0, 1000, by decide⟩⟩] ∧
      (fetchAll ⟨⟨none, [.name, .id], []⟩⟩ ⟨"SELECT 1", []⟩).outcome = .ok [] := by
  have hlack : FirstLack deficient.server.result ⟨some 1, none, some 2, none⟩ .name := by
    refine ⟨⟨[], _, rfl, List.forall_mem_nil _⟩, .inr rfl, ?_⟩
    intro j hj
    cases j with
    | id => rintro (hmem | hnull) <;> contradiction
    | name => exact absurd hj (by decide)
    | type => exact absurd hj (by decide)
    | releaseDate => exact absurd hj (by decide)
  have hwhole : ∀ r ∈ repeated.server.result.rows, ∀ k, ¬Lacks [] r k := by
    rintro r hr k (hmem | hnull)
    · cases hmem
    · simp only [repeated, List.mem_cons, List.not_mem_nil, or_false, or_self] at hr
      subst hr
      cases k <;> cases hnull
  exact ⟨((outcome_fetchAll deficient _ rfl).2.1 _).2 ⟨_, _, hlack, rfl⟩,
    ((outcome_fetchAll repeated _ rfl).1 _).2 ⟨rfl, hwhole⟩,
    (outcome_fetchAll ⟨⟨none, [.name, .id], []⟩⟩ _ rfl).2.2.2.2 rfl⟩

end Database

end SearchFilter
