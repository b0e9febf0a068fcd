import Mathlib.Data.List.Forall2
import SearchFilter.Proofs.Condition.Walk

/-!
# Equality of conditions

Values are compared as values: a NaN differs from itself and the two zeros are equal
(`Value.Equals`). So equality of conditions is no identity. `Condition.Agrees` says it by recursion
on both trees, and the walk over pairs decides it (`samePairs_iff`). It is also equality of the
lists of tokens, token by token: the tokens of a condition determine where it ends, whatever follows
(`agrees_of_tokens`). What is left of an equivalence is read off the values
(`same_iff_tokens_same`).
-/

namespace SearchFilter

/-! ## Values -/

namespace Value

/-- The value is not a number. -/
def isNaN : Value → Bool
  | .float x => x.isNaN
  | _ => false

/-- Every value but NaN equals itself, and the zeros equal each other. -/
inductive Equals : Value → Value → Prop where
  | self {v : Value} (h : v.isNaN = false) : Equals v v
  | zeros {x y : Binary64} (hx : x.isZero = true) (hy : y.isZero = true) :
      Equals (.float x) (.float y)

theorem isNaN_eq_false_of_isZero {x : Binary64} (h : x.isZero = true) : x.isNaN = false := by
  rw [Binary64.isZero, beq_iff_eq] at h
  rw [Binary64.isNaN, h]
  rfl

theorem same_iff_equals {v w : Value} : v.same w = true ↔ v.Equals w := by
  constructor
  · intro h
    unfold same at h
    split at h
    · next x y =>
      simp only [Binary64.same, Bool.and_eq_true, Bool.not_eq_true', Bool.or_eq_true,
        beq_iff_eq] at h
      obtain ⟨⟨hx, -⟩, rfl | ⟨hzero, hzero'⟩⟩ := h
      · exact .self hx
      · exact .zeros hzero hzero'
    · next hfloat =>
      obtain rfl := of_decide_eq_true h
      cases v with
      | float x => exact (hfloat x x rfl rfl).elim
      | null | bool | int | text | timestamp | typedNull => exact .self rfl
  · intro h
    cases h with
    | self h =>
      cases v with
      | float x => exact (Binary64.same_self_iff x).2 h
      | null | bool | int | text | timestamp | typedNull => simp [same]
    | zeros hx hy =>
      simp [Binary64.same, isNaN_eq_false_of_isZero hx, isNaN_eq_false_of_isZero hy, hx, hy]

namespace Equals

variable {v w u : Value}

theorem symm (h : v.Equals w) : w.Equals v := by
  cases h with
  | self h => exact .self h
  | zeros hx hy => exact .zeros hy hx

theorem trans (h : v.Equals w) (h' : w.Equals u) : v.Equals u := by
  cases h with
  | self _ => exact h'
  | zeros hx hy =>
    cases h' with
    | self _ => exact .zeros hx hy
    | zeros _ hz => exact .zeros hx hz

theorem self_iff : v.Equals v ↔ v.isNaN = false := by
  constructor
  · intro h
    cases h with
    | self h => exact h
    | zeros hx _ => exact isNaN_eq_false_of_isZero hx
  · exact .self

end Equals

end Value

/-! ## Conditions -/

namespace Condition

/-- The conditions have the same shape and the same conjunctions. Where one compares a column with a
value, the other compares the same column in the same way with an equal value. -/
def Agrees : Condition → Condition → Prop
  | .leaf c, .leaf d => c.column = d.column ∧ c.op = d.op ∧ c.value.Equals d.value
  | .node l join r, .node l' join' r' => l.Agrees l' ∧ join = join' ∧ r.Agrees r'
  | .leaf _, .node .. => False
  | .node .., .leaf _ => False

namespace Agrees

variable {c d e : Condition}

theorem symm (h : c.Agrees d) : d.Agrees c := by
  induction c generalizing d with
  | leaf c =>
    cases d with
    | leaf d => exact ⟨h.1.symm, h.2.1.symm, h.2.2.symm⟩
    | node l join r => exact h.elim
  | node l join r ihl ihr =>
    cases d with
    | leaf d => exact h.elim
    | node l' join' r' => exact ⟨ihl h.1, h.2.1.symm, ihr h.2.2⟩

theorem trans (h : c.Agrees d) (h' : d.Agrees e) : c.Agrees e := by
  induction c generalizing d e with
  | leaf c =>
    cases d with
    | node l join r => exact h.elim
    | leaf d =>
      cases e with
      | node l join r => exact h'.elim
      | leaf e => exact ⟨h.1.trans h'.1, h.2.1.trans h'.2.1, h.2.2.trans h'.2.2⟩
  | node l join r ihl ihr =>
    cases d with
    | leaf d => exact h.elim
    | node l' join' r' =>
      cases e with
      | leaf e => exact h'.elim
      | node l'' join'' r'' => exact ⟨ihl h.1 h'.1, h.2.1.trans h'.2.1, ihr h.2.2 h'.2.2⟩

theorem self_iff : c.Agrees c ↔ ∀ l ∈ c.leaves, l.value.isNaN = false := by
  induction c with
  | leaf c => simp [Agrees, leaves, Value.Equals.self_iff]
  | node l join r ihl ihr => simp [Agrees, leaves, ihl, ihr, or_imp, forall_and]

end Agrees

theorem agrees_leaf_iff {c d : Comparison} : (leaf c).Agrees (leaf d) ↔ c.same d = true := by
  simp [Comparison.same, Agrees, Value.same_iff_equals, and_assoc]

/-- The pairs on a stack are all compared. -/
theorem samePairs_iff (ps : List (Condition × Condition)) :
    samePairs ps = true ↔ ∀ p ∈ ps, p.1.Agrees p.2 := by
  fun_induction samePairs ps with
  | case1 => simp
  | case2 c d ps ih => simp [ih, agrees_leaf_iff]
  | case3 l j r l' j' r' ps ih =>
    simp only [Bool.and_eq_true, beq_iff_eq, ih, List.forall_mem_cons, Agrees]
    tauto
  | case4 c l j r ps => simp [Agrees]
  | case5 l j r c ps => simp [Agrees]

theorem same_iff_agrees {c d : Condition} : c.same d = true ↔ c.Agrees d := by
  simp [same, samePairs_iff]

end Condition

/-! ## Tokens -/

/-- The lists are as long as each other, and equal token by token. -/
def SameTokens : List Token → List Token → Prop := List.Forall₂ fun s t => s.same t = true

variable {s t : List Token}

theorem sameTokens_cons {a b : Token} :
    SameTokens (a :: s) (b :: t) ↔ a.same b = true ∧ SameTokens s t := List.forall₂_cons

theorem SameTokens.append {s' t' : List Token} (h : SameTokens s t) (h' : SameTokens s' t') :
    SameTokens (s ++ s') (t ++ t') := List.rel_append h h'

theorem Column.sameTokens_self (c : Column) : SameTokens c.tokens c.tokens := by
  obtain ⟨_ | table, name⟩ := c <;> simp [tokens, SameTokens, Token.same]

theorem Column.eq_of_sameTokens {c d : Column} (h : SameTokens (c.tokens ++ s) (d.tokens ++ t)) :
    c = d ∧ SameTokens s t := by
  obtain ⟨_ | table, name⟩ := c <;> obtain ⟨_ | table', name'⟩ := d <;>
    simp_all [tokens, sameTokens_cons, Token.same]

theorem Comparator.same_token_iff {op op' : Comparator} :
    op.token.same op'.token = true ↔ op = op' := by
  cases op <;> cases op' <;> decide

theorem Conjunction.same_token_iff {join join' : Conjunction} :
    join.token.same join'.token = true ↔ join = join' := by
  cases join <;> cases join' <;> decide

namespace Condition

/-- The tokens of a comparison begin with a column, those of a node with a parenthesis. -/
theorem not_sameTokens_leaf_node {c : Comparison} {l r : Condition} {join : Conjunction} :
    ¬SameTokens ((leaf c).tokens ++ s) ((node l join r).tokens ++ t) ∧
      ¬SameTokens ((node l join r).tokens ++ s) ((leaf c).tokens ++ t) := by
  obtain ⟨⟨_ | table, name⟩, op, v⟩ := c <;>
    simp [Comparison.tokens, Column.tokens, sameTokens_cons, Token.same]

/-- Of two lists of tokens that are equal and begin with the tokens of conditions, both conditions
agree, and equal tokens follow. -/
theorem agrees_of_tokens {c d : Condition} (h : SameTokens (c.tokens ++ s) (d.tokens ++ t)) :
    c.Agrees d ∧ SameTokens s t := by
  induction c generalizing d s t with
  | leaf c =>
    cases d with
    | node l join r => exact absurd h not_sameTokens_leaf_node.1
    | leaf d =>
      simp only [tokens_leaf, Comparison.tokens, List.append_assoc] at h
      obtain ⟨hcolumn, h⟩ := Column.eq_of_sameTokens h
      obtain ⟨hop, h⟩ := sameTokens_cons.1 h
      obtain ⟨hvalue, hrest⟩ := sameTokens_cons.1 h
      exact ⟨⟨hcolumn, Comparator.same_token_iff.1 hop, Value.same_iff_equals.1 hvalue⟩, hrest⟩
  | node l join r ihl ihr =>
    cases d with
    | leaf d => exact absurd h not_sameTokens_leaf_node.2
    | node l' join' r' =>
      simp only [tokens_node, List.cons_append, List.append_assoc, List.nil_append] at h
      obtain ⟨-, h⟩ := sameTokens_cons.1 h
      obtain ⟨hl, h⟩ := ihl h
      obtain ⟨hjoin, h⟩ := sameTokens_cons.1 h
      obtain ⟨hr, h⟩ := ihr h
      obtain ⟨-, hrest⟩ := sameTokens_cons.1 h
      exact ⟨⟨hl, Conjunction.same_token_iff.1 hjoin, hr⟩, hrest⟩

theorem Agrees.sameTokens {c d : Condition} (h : c.Agrees d) : SameTokens c.tokens d.tokens := by
  induction c generalizing d with
  | leaf c =>
    cases d with
    | node l join r => exact h.elim
    | leaf d =>
      obtain ⟨hcolumn, hop, hvalue⟩ := h
      rw [tokens_leaf, tokens_leaf, Comparison.tokens, Comparison.tokens, hcolumn]
      exact d.column.sameTokens_self.append (.cons (Comparator.same_token_iff.2 hop)
        (.cons (Value.same_iff_equals.2 hvalue) .nil))
  | node l join r ihl ihr =>
    cases d with
    | leaf d => exact h.elim
    | node l' join' r' =>
      obtain ⟨hl, rfl, hr⟩ := h
      have hjoin : join.token.same join.token = true := Conjunction.same_token_iff.2 rfl
      rw [tokens_node, tokens_node]
      exact .cons rfl ((ihl hl).append (.cons hjoin ((ihr hr).append (.cons rfl .nil))))

/-- Conditions are equal exactly if their tokens are, and exactly if they agree as trees. So
equality is symmetric and transitive, and a condition equals itself exactly if none of its values is
a NaN. -/
theorem same_iff_tokens_same (c d : Condition) :
    (c.same d = true ↔ List.Forall₂ (fun s t => s.same t = true) c.tokens d.tokens) ∧
      (c.same d = true ↔ c.Agrees d) ∧
      (∀ v w : Value, v.same w = true ↔ v.Equals w) ∧
      (c.same d = true → d.same c = true) ∧
      (∀ e : Condition, c.same d = true → d.same e = true → c.same e = true) ∧
      (c.same c = true ↔ ∀ l ∈ c.leaves, l.value.isNaN = false) := by
  refine ⟨⟨?_, ?_⟩, same_iff_agrees, fun v w => Value.same_iff_equals, ?_, ?_, ?_⟩
  · intro h
    exact (same_iff_agrees.1 h).sameTokens
  · intro h
    have happend : SameTokens (c.tokens ++ []) (d.tokens ++ []) := SameTokens.append h .nil
    exact same_iff_agrees.2 (agrees_of_tokens happend).1
  · intro h
    exact same_iff_agrees.2 (same_iff_agrees.1 h).symm
  · intro e h h'
    exact same_iff_agrees.2 ((same_iff_agrees.1 h).trans (same_iff_agrees.1 h'))
  · rw [same_iff_agrees, Agrees.self_iff]

/-- A zero and its negative, in the same place, and a null without a type. -/
def zeros (negative : Bool) : Condition :=
  .or (.compare (.plain "x") .lt (.float (.ofMagnitude negative 0)))
    (.compare (.qualified "t" "x") .eq .null)

theorem same_iff_tokens_same_zeros :
    (zeros false).same (zeros true) = true ∧ (zeros true).same (zeros false) = true ∧
      zeros false ≠ zeros true ∧ (zeros true).same (zeros true) = true := by
  have hagrees : (zeros false).Agrees (zeros true) :=
    ⟨⟨rfl, rfl, .zeros rfl rfl⟩, rfl, rfl, rfl, .self rfl⟩
  have hsame : (zeros false).same (zeros true) = true :=
    (same_iff_tokens_same _ _).2.1.2 hagrees
  have hsymm := (same_iff_tokens_same _ _).2.2.2.1 hsame
  exact ⟨hsame, hsymm, by decide, (same_iff_tokens_same _ _).2.2.2.2.1 _ hsymm hsame⟩

end Condition

end SearchFilter
