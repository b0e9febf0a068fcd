import Mathlib.Logic.Relation
import SearchFilter.Proofs.Condition.Equality

/-!
# Rebuilding a condition

A condition is copied by a loop over two stacks: the tasks that are left, and the conditions that
are built. Whatever lies on them, a visit of a condition ends with that condition on top of what was
built and with the tasks below it next (`Rebuild.run_visit`). So the loop never comes to a
combination that lacks an operand, and what it leaves is the condition it began with, bit by bit
(`copy_eq_self`).
-/

namespace SearchFilter.Condition

namespace Rebuild

/-- Both stacks of the loop. -/
structure State where
  tasks : List Rebuild
  built : List Condition

/-- One turn of the loop. A combination with fewer than two conditions built has none. -/
inductive Turn : State → State → Prop where
  | leaf {c : Comparison} {tasks : List Rebuild} {built : List Condition} :
      Turn ⟨.visit (.leaf c) :: tasks, built⟩ ⟨tasks, .leaf c :: built⟩
  | node {l r : Condition} {join : Conjunction} {tasks : List Rebuild} {built : List Condition} :
      Turn ⟨.visit (.node l join r) :: tasks, built⟩
        ⟨.visit l :: .visit r :: .combine join :: tasks, built⟩
  | combine {l r : Condition} {join : Conjunction} {tasks : List Rebuild}
      {built : List Condition} :
      Turn ⟨.combine join :: tasks, r :: l :: built⟩ ⟨tasks, .node l join r :: built⟩

/-- What the loop leaves on the stack of built conditions. -/
def State.outcome (s : State) : Option (List Condition) := run s.tasks s.built

/-- A turn changes nothing about what the loop leaves. -/
theorem Turn.outcome_eq {s t : State} (h : Turn s t) : s.outcome = t.outcome := by
  cases h with
  | leaf => rw [State.outcome, run, State.outcome]
  | node => rw [State.outcome, run, State.outcome]
  | combine => rw [State.outcome, run, State.outcome]

/-- A loop that leaves something is done or has a next turn. -/
theorem State.exists_turn {s : State} {cs : List Condition} (h : s.outcome = some cs) :
    s = ⟨[], cs⟩ ∨ ∃ t, Turn s t := by
  obtain ⟨tasks, built⟩ := s
  match tasks, built with
  | [], built =>
    rw [outcome, run] at h
    cases h
    exact .inl rfl
  | .visit (.leaf c) :: tasks, built => exact .inr ⟨_, .leaf⟩
  | .visit (.node l join r) :: tasks, built => exact .inr ⟨_, .node⟩
  | .combine join :: tasks, r :: l :: built => exact .inr ⟨_, .combine⟩
  | .combine join :: tasks, [r] =>
    rw [outcome, run] at h
    cases h
  | .combine join :: tasks, [] =>
    rw [outcome, run] at h
    cases h

/-- A visit puts its condition on top of what was built, and the tasks below come next. -/
theorem run_visit (c : Condition) (tasks : List Rebuild) (built : List Condition) :
    run (.visit c :: tasks) built = run tasks (c :: built) := by
  induction c generalizing tasks built with
  | leaf c => rw [run]
  | node l join r ihl ihr =>
    -- the left operand is built first, so it lies below the right one when both are combined
    rw [run, ihl, ihr, run]

end Rebuild

open Rebuild

/-- The loop that copies a condition leaves that condition and nothing else, so no detached
comparison takes its place. Wherever the loop comes to, it is done with just the condition built, or
there is a next turn: no combination lacks an operand. -/
theorem copy_eq_self (c : Condition) :
    run [.visit c] [] = some [c] ∧ c.copy = c ∧
      ∀ s, Relation.ReflTransGen Turn ⟨[.visit c], []⟩ s → s = ⟨[], [c]⟩ ∨ ∃ t, Turn s t := by
  have hrun : run [.visit c] [] = some [c] := by rw [run_visit, run]
  refine ⟨hrun, ?_, ?_⟩
  · rw [copy, hrun]
  · intro s hs
    have houtcome : s.outcome = some [c] := by
      induction hs with
      | refl => exact hrun
      | tail _ hturn ih => rw [← hturn.outcome_eq, ih]
    exact State.exists_turn houtcome

/-- A NaN to the left of a combination. -/
def lopsided : Condition :=
  .or (.compare (.plain "a") .eq (.float ⟨0x7ff8000000000001⟩))
    (.and (.compare (.qualified "t" "b") .lt .null) (.compare (.plain "c") .gte (.int 3)))

/-- The loop when all comparisons of `lopsided` are built and none is combined. -/
def lopsidedLeaves : State :=
  ⟨[.combine .and, .combine .or], [.compare (.plain "c") .gte (.int 3),
    .compare (.qualified "t" "b") .lt .null,
    .compare (.plain "a") .eq (.float ⟨0x7ff8000000000001⟩)]⟩

theorem copy_eq_self_lopsided :
    lopsided.copy = lopsided ∧ lopsided.same lopsided = false ∧
      Relation.ReflTransGen Turn ⟨[.visit lopsided], []⟩ lopsidedLeaves ∧
      (lopsidedLeaves = ⟨[], [lopsided]⟩ ∨ ∃ t, Turn lopsidedLeaves t) := by
  have hsame : ¬lopsided.same lopsided = true := by
    rw [same_iff_agrees, Agrees.self_iff]
    intro h
    exact absurd (h _ List.mem_cons_self) (by decide)
  have hreach : Relation.ReflTransGen Turn ⟨[.visit lopsided], []⟩ lopsidedLeaves :=
    ((((Relation.ReflTransGen.single .node).tail .leaf).tail .node).tail .leaf).tail .leaf
  have h := copy_eq_self lopsided
  exact ⟨h.2.1, Bool.not_eq_true _ ▸ hsame, hreach, h.2.2 _ hreach⟩

end SearchFilter.Condition
