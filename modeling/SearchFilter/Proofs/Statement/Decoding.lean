import SearchFilter.Proofs.Condition.Outline
import SearchFilter.Proofs.Text.Run

/-!
# Reading statements back

The text of a query determines its outline, if no name of a column holds a double quote: of two
texts that begin alike, the conditions at their beginnings have the same outline, and the rests are
the same (`Condition.outline_eq_of_append_eq`). Names may hold anything else, so that spaces,
parentheses and operators are told apart only by the quotes around names. The numbers of the
placeholders need no reading: both texts count on from the same number.
-/

namespace SearchFilter

open Text

/-! ## Words -/

variable {s t : List Char}

theorem quoteName_append_eq {n m : String} (hn : '"' ∉ n.toList) (hm : '"' ∉ m.toList)
    (h : (quoteName n).toList ++ s = (quoteName m).toList ++ t) : n = m ∧ s = t := by
  have hrun {n : String} (hn : '"' ∉ n.toList) : ∀ c ∈ n.toList, (c != '"') = true := by
    intro c hc
    rw [bne_iff_ne]
    rintro rfl
    exact hn hc
  have hquote (u : List Char) : StartsOutside (· != '"') ('"' :: u) := by simp
  simp only [quoteName, String.toList_append, List.append_assoc] at h
  obtain ⟨hname, hrest⟩ := eq_and_eq_of_run (hrun hn) (hquote s) (hrun hm) (hquote t)
    (List.tail_eq_of_cons_eq h)
  exact ⟨String.toList_inj.1 hname, List.tail_eq_of_cons_eq hrest⟩

/-- No name of the column holds a double quote. -/
def Column.Unquoted (c : Column) : Prop := (∀ t ∈ c.table, '"' ∉ t.toList) ∧ '"' ∉ c.name.toList

instance (c : Column) : Decidable c.Unquoted :=
  inferInstanceAs (Decidable ((∀ t ∈ c.table, '"' ∉ t.toList) ∧ '"' ∉ c.name.toList))

/-- A column ends before a space: what goes on with a dot is qualified. -/
theorem Column.sql_append_eq {c d : Column} (hc : c.Unquoted) (hd : d.Unquoted)
    (h : c.sql.toList ++ ' ' :: s = d.sql.toList ++ ' ' :: t) : c = d ∧ s = t := by
  obtain ⟨_ | table, name⟩ := c <;> obtain ⟨_ | table', name'⟩ := d <;>
    simp only [sql, String.toList_append, List.append_assoc] at h
  · obtain ⟨rfl, hrest⟩ := quoteName_append_eq hc.2 hd.2 h
    exact ⟨rfl, List.tail_eq_of_cons_eq hrest⟩
  · obtain ⟨-, hrest⟩ := quoteName_append_eq hc.2 (hd.1 _ rfl) h
    cases hrest
  · obtain ⟨-, hrest⟩ := quoteName_append_eq (hc.1 _ rfl) hd.2 h
    cases hrest
  · obtain ⟨rfl, hdot⟩ := quoteName_append_eq (hc.1 _ rfl) (hd.1 _ rfl) h
    obtain ⟨rfl, hrest⟩ := quoteName_append_eq hc.2 hd.2 (List.append_cancel_left hdot)
    exact ⟨rfl, List.tail_eq_of_cons_eq hrest⟩

/-- An operator ends before a space, so that none goes on as another. -/
theorem Comparator.sql_append_eq {op op' : Comparator}
    (h : op.sql.toList ++ ' ' :: s = op'.sql.toList ++ ' ' :: t) : op = op' ∧ s = t := by
  cases op <;> cases op' <;> simp_all [sql]

theorem Conjunction.sql_append_eq {join join' : Conjunction}
    (h : join.sql.toList ++ s = join'.sql.toList ++ t) : join = join' ∧ s = t := by
  cases join <;> cases join' <;> simp_all [sql]

theorem SortOrder.eq_of_sql_eq {order order' : SortOrder} (h : order.sql = order'.sql) :
    order = order' := by
  cases order <;> cases order' <;> simp_all [sql]

/-! ## Conditions -/

namespace Condition

/-- Of two texts that begin with conditions whose first placeholders have the same number, both
conditions have the same outline, and the same text follows. -/
theorem outline_eq_of_append_eq {c d : Condition} (hc : ∀ l ∈ c.leaves, l.column.Unquoted)
    (hd : ∀ l ∈ d.leaves, l.column.Unquoted) {n : Nat}
    (h : (c.reference n).1.toList ++ s = (d.reference n).1.toList ++ t) :
    c.outline = d.outline ∧ s = t := by
  have hquote (l : Comparison) : ∃ u, l.column.sql.toList = '"' :: u := by
    obtain ⟨⟨_ | table, name⟩, op, v⟩ := l <;>
      simp [Column.sql, quoteName]
  induction c generalizing d n s t with
  | leaf k =>
    cases d with
    | leaf k' =>
      simp only [reference, String.toList_append, List.append_assoc] at h
      obtain ⟨hcolumn, h₁⟩ := Column.sql_append_eq (hc k (by simp [leaves]))
        (hd k' (by simp [leaves])) h
      obtain ⟨hop, h₂⟩ := Comparator.sql_append_eq h₁
      exact ⟨by rw [outline, outline, hcolumn, hop], List.append_cancel_left h₂⟩
    | node l join r =>
      obtain ⟨u, hu⟩ := hquote k
      simp [reference, hu] at h
  | node l join r ihl ihr =>
    cases d with
    | leaf k =>
      obtain ⟨u, hu⟩ := hquote k
      simp [reference, hu] at h
    | node l' join' r' =>
      simp only [leaves, List.mem_append] at hc hd
      simp only [reference, length_reference, String.toList_append, List.append_assoc] at h
      obtain ⟨hl, h₁⟩ := ihl (fun k hk => hc k (.inl hk)) (fun k hk => hd k (.inl hk))
        (List.append_cancel_left h)
      obtain ⟨rfl, h₂⟩ := Conjunction.sql_append_eq (List.append_cancel_left h₁)
      have hcount : l.leafCount = l'.leafCount := by
        rw [← leafCount_outline l, hl, leafCount_outline]
      rw [hcount] at h₂
      obtain ⟨hr, h₃⟩ := ihr (fun k hk => hc k (.inr hk)) (fun k hk => hd k (.inr hk))
        (List.append_cancel_left h₂)
      exact ⟨by rw [outline, outline, hl, hr], List.append_cancel_left h₃⟩

end Condition

/-! ## Queries -/

namespace Query

/-- The columns that a query names, those of its condition and that of its sorter. -/
def columns (q : Query) : List Column :=
  q.condition.leaves.map Comparison.column ++ (q.sorter.map Sorter.column).toList

/-- The text of a query determines its outline. -/
theorem outline_eq_of_sql_build_eq {q p : Query} (hq : ∀ c ∈ q.columns, c.Unquoted)
    (hp : ∀ c ∈ p.columns, c.Unquoted) (h : q.build.sql = p.build.sql) :
    q.outline = p.outline := by
  obtain ⟨c, s⟩ := q
  obtain ⟨d, s'⟩ := p
  simp only [columns, List.forall_mem_append, List.forall_mem_map] at hq hp
  rw [sql_build, sql_build, ← String.toList_inj] at h
  simp only [reference, String.toList_append] at h
  obtain ⟨hcondition, hsorter⟩ := Condition.outline_eq_of_append_eq hq.1 hp.1 h
  have hs : s = s' := by
    cases s with
    | none =>
      cases s' with
      | none => rfl
      | some s' => simp at hsorter
    | some s =>
      cases s' with
      | none => simp at hsorter
      | some s' =>
        obtain ⟨column, order⟩ := s
        obtain ⟨column', order'⟩ := s'
        simp only [Option.map_some, Option.getD_some, Sorter.sql, String.toList_append,
          List.append_assoc] at hsorter
        obtain ⟨rfl, horder⟩ := Column.sql_append_eq (hq.2 _ (by simp)) (hp.2 _ (by simp))
          (List.append_cancel_left (List.append_cancel_left hsorter))
        rw [SortOrder.eq_of_sql_eq (String.toList_inj.1 horder)]
  rw [outline, outline, hcondition, hs]

/-- A query is determined by its statement. -/
theorem eq_of_build_eq {q p : Query} (hq : ∀ c ∈ q.columns, c.Unquoted)
    (hp : ∀ c ∈ p.columns, c.Unquoted) (h : q.build = p.build) : q = p :=
  eq_of_outline_eq (outline_eq_of_sql_build_eq hq hp (by rw [h])) (by rw [h])

end Query

end SearchFilter
