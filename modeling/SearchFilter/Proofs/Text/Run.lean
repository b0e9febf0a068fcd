import Mathlib.Data.List.TakeWhile

/-!
# Runs

A run of a class of characters, followed by a text that does not begin with one of them, is found
again by `takeWhile` and `dropWhile`; hence a text falls apart into a run and the rest in one way.
-/

namespace SearchFilter.Text

variable {p q : Char → Bool} {s t w v : List Char} {c : Char}

/-- What is said of every character of a text is decided along the text: there are too many
characters to go through them all. -/
instance (priority := high) decidableForallMem {P : Char → Prop} [DecidablePred P] (s : List Char) :
    Decidable (∀ c ∈ s, P c) := List.decidableBAll P s

/-- The text does not begin with a character of the class. -/
def StartsOutside (p : Char → Bool) (s : List Char) : Prop := ∀ c ∈ s.head?, p c = false

@[simp] theorem startsOutside_nil (p : Char → Bool) : StartsOutside p [] := by
  simp [StartsOutside]

@[simp] theorem startsOutside_cons : StartsOutside p (c :: s) ↔ p c = false := by
  simp [StartsOutside]

theorem StartsOutside.mono (h : StartsOutside q s) (hpq : ∀ c, p c = true → q c = true) :
    StartsOutside p s := by
  intro c hc
  cases hp : p c with
  | false => rfl
  | true => rw [← h c hc, hpq c hp]

theorem startsOutside_dropWhile (p : Char → Bool) (s : List Char) :
    StartsOutside p (s.dropWhile p) := by
  intro c hc
  have h := List.head?_dropWhile_not p s
  rw [Option.mem_def.1 hc] at h
  exact h

theorem dropWhile_of_startsOutside (h : StartsOutside p s) : s.dropWhile p = s := by
  cases s with
  | nil => rfl
  | cons c s => rw [List.dropWhile_cons_of_neg (by simp [startsOutside_cons.1 h])]

theorem takeWhile_of_startsOutside (h : StartsOutside p s) : s.takeWhile p = [] := by
  cases s with
  | nil => rfl
  | cons c s => rw [List.takeWhile_cons_of_neg (by simp [startsOutside_cons.1 h])]

theorem takeWhile_run (hw : ∀ c ∈ w, p c = true) (hs : StartsOutside p s) :
    (w ++ s).takeWhile p = w := by
  rw [List.takeWhile_append_of_pos hw, takeWhile_of_startsOutside hs, List.append_nil]

theorem dropWhile_run (hw : ∀ c ∈ w, p c = true) (hs : StartsOutside p s) :
    (w ++ s).dropWhile p = s := by
  rw [List.dropWhile_append_of_pos hw, dropWhile_of_startsOutside hs]

theorem eq_and_eq_of_run (hw : ∀ c ∈ w, p c = true) (hs : StartsOutside p s)
    (hv : ∀ c ∈ v, p c = true) (ht : StartsOutside p t) (h : w ++ s = v ++ t) :
    w = v ∧ s = t := by
  constructor
  · rw [← takeWhile_run hw hs, h, takeWhile_run hv ht]
  · rw [← dropWhile_run hw hs, h, dropWhile_run hv ht]

end SearchFilter.Text
