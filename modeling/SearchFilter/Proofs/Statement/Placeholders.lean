import Mathlib.Data.List.Nodup
import SearchFilter.Proofs.Statement.Rendering
import SearchFilter.Proofs.Text.Digits

/-!
# Placeholders in the text of a query

A word that begins with a dollar sign is a placeholder, and nothing else begins so: names stand
between double quotes. Read from left to right the placeholders of a query count from 1 without a
gap (`Query.filter_words`), and each of them stands after the column and the operator of its
comparison (`Condition.infix_words`).
-/

namespace SearchFilter

/-- The word is a placeholder. -/
def isPlaceholder (word : String) : Bool := word.toList.head? == some '$'

@[simp] theorem isPlaceholder_placeholder (n : Nat) : isPlaceholder (placeholder n) = true := by
  simp [isPlaceholder, placeholder]

theorem placeholder_injective : Function.Injective placeholder := by
  intro n m h
  rw [placeholder, placeholder, ← String.toList_inj] at h
  simp only [String.toList_append, String.toList_ofList] at h
  rw [← Text.digitsValue_decimalDigits n, List.append_cancel_left h,
    Text.digitsValue_decimalDigits]

@[simp] theorem Column.isPlaceholder_sql (c : Column) : isPlaceholder c.sql = false := by
  obtain ⟨_ | table, name⟩ := c <;> simp [isPlaceholder, sql, quoteName]

@[simp] theorem Comparator.isPlaceholder_sql (op : Comparator) : isPlaceholder op.sql = false := by
  cases op <;> decide

@[simp] theorem Conjunction.isPlaceholder_sql (join : Conjunction) :
    isPlaceholder join.sql = false := by
  cases join <;> decide

@[simp] theorem SortOrder.isPlaceholder_sql (order : SortOrder) :
    isPlaceholder order.sql = false := by
  cases order <;> decide

/-! ## Conditions -/

namespace Condition

/-- The placeholders of a condition count on from its first number. -/
theorem filter_words (c : Condition) (n : Nat) :
    (c.words n).filter isPlaceholder = (List.range' n c.leafCount).map placeholder := by
  induction c generalizing n with
  | leaf c => simp [words]
  | node l join r ihl ihr =>
    have hopen : isPlaceholder "(" = false := by decide
    have hclose : isPlaceholder ")" = false := by decide
    simp [words, hopen, hclose, ihl, ihr, ← List.map_append]

/-- A comparison stands in the text with its column, its operator and its placeholder. -/
theorem infix_words {c : Condition} {i : Nat} {l : Comparison} (h : c.leaves[i]? = some l)
    (n : Nat) : [l.column.sql, l.op.sql, placeholder (n + i)] <:+: c.words n := by
  induction c generalizing i n with
  | leaf c =>
    obtain ⟨hi, rfl⟩ := List.getElem?_eq_some_iff.1 h
    obtain rfl : i = 0 := by simpa [leaves] using hi
    exact List.infix_rfl
  | node a join b iha ihb =>
    rw [leaves] at h
    rw [words]
    by_cases hi : i < a.leaves.length
    · rw [List.getElem?_append_left hi] at h
      obtain ⟨s, t, hst⟩ := iha h n
      exact ⟨"(" :: s, t ++ join.sql :: (b.words (n + a.leafCount) ++ [")"]), by simp [← hst]⟩
    · rw [List.getElem?_append_right (by omega), ← leafCount_eq_length_leaves] at h
      have hn : n + a.leafCount + (i - a.leafCount) = n + i := by
        rw [leafCount_eq_length_leaves]
        omega
      obtain ⟨s, t, hst⟩ := ihb h (n + a.leafCount)
      rw [hn] at hst
      exact ⟨"(" :: (a.words n ++ join.sql :: s), t ++ [")"], by simp [← hst]⟩

end Condition

theorem Query.filter_words (q : Query) :
    q.words.filter isPlaceholder = (List.range' 1 q.condition.leafCount).map placeholder := by
  have horder : isPlaceholder "ORDER BY" = false := by decide
  obtain ⟨c, _ | s⟩ := q <;> simp [words, Condition.filter_words, horder]

end SearchFilter
