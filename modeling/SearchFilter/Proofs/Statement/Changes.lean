import SearchFilter.Proofs.Condition.Equality
import SearchFilter.Proofs.Statement.Rendering
import SearchFilter.Proofs.Statement.Tokens

/-!
# The last order counts

The order of a query may be changed any number of times. A change leaves nothing of the one before
it (`change_change`), hence after some changes only the last one counts (`after_eq_last`). It adds
its order behind the text of the condition, and neither the text nor the parameters of the condition
depend on it (`build_after`).
-/

namespace SearchFilter.Query

/-- The order that a change leaves. -/
def Change.sorter : Change → Option Sorter
  | .sortBy s => some s
  | .unsort => none

/-- What the last change, if there is one, leaves behind the text of a condition. -/
def orderText : Option Change → String
  | some (.sortBy s) => " ORDER BY " ++ s.column.sql ++ " " ++ s.order.sql
  | some .unsort => ""
  | none => ""

variable (q : Query) (changes : List Change)

/-! ## Changes one after the other -/

theorem sorter_change (ch : Change) : (q.change ch).sorter = ch.sorter := by
  cases ch <;> rfl

/-- A change replaces the order and keeps the condition, so that nothing is left of an earlier
change. -/
theorem change_change (ch ch' : Change) : (q.change ch).change ch' = q.change ch' := by
  cases ch' <;> cases ch <;> rfl

theorem after_eq_last : q.after changes = q.after changes.getLast?.toList := by
  induction changes generalizing q with
  | nil => rfl
  | cons ch changes ih =>
    show (q.change ch).after changes = _
    rw [ih, List.getLast?_cons]
    cases changes.getLast? with
    | none => rfl
    | some last => exact change_change q ch last

theorem sorter_after (c : Condition) :
    ((ofCondition c).after changes).sorter = changes.getLast?.bind Change.sorter := by
  rw [after_eq_last]
  cases changes.getLast? with
  | none => rfl
  | some last => exact sorter_change (ofCondition c) last

/-! ## What is built -/

/-- The text of a query is that of its condition and, after it, that of its order. -/
theorem sql_build_eq_append :
    q.build.sql = (ofCondition q.condition).build.sql ++
      (q.sorter.map fun s => " ORDER BY " ++ s.column.sql ++ " " ++ s.order.sql).getD "" := by
  rw [sql_build, sql_build, reference, reference]
  cases hs : q.sorter with
  | none => simp [ofCondition]
  | some s => simp [ofCondition, Sorter.sql, ← String.append_assoc]

/-- A query equals the one of its condition alone if it has no order, unless a NaN keeps the
condition from being equal to itself. -/
theorem same_ofCondition_iff : q.same (ofCondition q.condition) = true ↔
    (∀ l ∈ q.condition.leaves, l.value.isNaN = false) ∧ q.sorter = none := by
  rw [same, Bool.and_eq_true, beq_iff_eq]
  apply and_congr_left
  intro _
  exact Condition.same_iff_agrees.trans Condition.Agrees.self_iff

theorem bind_sorter_eq_none_iff :
    changes.getLast?.bind Change.sorter = none ↔
      changes = [] ∨ changes.getLast? = some .unsort := by
  rw [← List.getLast?_eq_none_iff]
  rcases changes.getLast? with _ | (_ | _) <;> simp [Change.sorter]

/-- After any changes of its order, a query is built as if only the last one had been made. The
parameters are those of the condition, and the text is that of the condition and then the order of
the last change, if this leaves one. The condition is as it was, and the query equals the one of the
condition alone if no order is left, unless a NaN keeps it from being equal to itself. -/
theorem build_after (c : Condition) (changes : List Change) :
    ((ofCondition c).after changes).build =
        ((ofCondition c).after changes.getLast?.toList).build ∧
      ((ofCondition c).after changes).build.params = (ofCondition c).build.params ∧
      ((ofCondition c).after changes).build.sql =
        (ofCondition c).build.sql ++ orderText changes.getLast? ∧
      ((ofCondition c).after changes).condition = c ∧
      (((ofCondition c).after changes).same (ofCondition c) = true ↔
        (∀ l ∈ c.leaves, l.value.isNaN = false) ∧
          (changes = [] ∨ changes.getLast? = some .unsort)) := by
  have hcondition : ((ofCondition c).after changes).condition = c := condition_after _ changes
  have hsorter := sorter_after changes c
  refine ⟨?_, ?_, ?_, hcondition, ?_⟩
  · rw [← after_eq_last]
  · rw [params_build, params_build, hcondition]
    rfl
  · rw [sql_build_eq_append, hcondition, hsorter]
    rcases changes.getLast? with _ | (_ | _) <;> rfl
  · have hsame := same_ofCondition_iff ((ofCondition c).after changes)
    rw [hcondition, hsorter, bind_sorter_eq_none_iff] at hsame
    exact hsame

end SearchFilter.Query
