import SearchFilter.Filter.Reader
import SearchFilter.Proofs.Text.WhiteSpace

/-!
# The grammar of filters

A `Phrase` is a derivation of the grammar

```
filter := chain ('|' chain)*
chain  := item ('&' item)*
item   := '(' filter ')' | name operator literal
```

as a tree. It holds every run of blanks between two lexical items, so that `Phrase.text` is the
derived text character by character, and `Phrase.filter` is the filter that the derivation stands
for. The three levels of the grammar are one indexed family: the rules of both chains are the
same but for their conjunction.
-/

namespace SearchFilter

open Text

/-- A comparison operator in a filter. -/
def Comparator.spelling : Comparator → List Char
  | .eq => ['=']
  | .neq => ['!', '=']
  | .lt => ['<']
  | .lte => ['<', '=']
  | .gt => ['>']
  | .gte => ['>', '=']

namespace Filter

/-! ## Characters -/

theorem isWordChar_of_isNameChar {c : Char} (h : isNameChar c = true) : isWordChar c = true := by
  simp only [isNameChar, isWordChar, Bool.or_eq_true] at h ⊢
  exact .inl (.inl (.inl (.inl h)))

theorem isWhiteSpace_of_isWordChar {c : Char} (h : isWordChar c = true) :
    isWhiteSpace c = false := by
  simp only [isWordChar, Bool.or_eq_true, beq_iff_eq] at h
  rcases h with ((((h | rfl) | rfl) | rfl) | rfl) | rfl
  · exact isWhiteSpace_of_isAlphanumeric h
  all_goals decide

theorem isBlank_of_isWordChar {c : Char} (h : isWordChar c = true) : isBlank c = false := by
  cases hb : isBlank c with
  | false => rfl
  | true => rw [← isWhiteSpace_of_isWordChar h, isWhiteSpace_of_isBlank hb]

theorem isWordChar_of_isBlank {c : Char} (h : isBlank c = true) : isWordChar c = false := by
  cases hw : isWordChar c with
  | false => rfl
  | true => rw [← isBlank_of_isWordChar hw, h]

@[simp] theorem isBlank_mark (join : Conjunction) : isBlank (mark join) = false := by
  cases join <;> rfl

@[simp] theorem isWordChar_mark (join : Conjunction) : isWordChar (mark join) = false := by
  cases join <;> decide

/-! ## Comparisons -/

/-- A run of blanks. -/
abbrev Blanks := { b : List Char // ∀ c ∈ b, isBlank c = true }

namespace Blanks

/-- No blank at all. -/
def empty : Blanks := ⟨[], by simp⟩

/-- A single space. -/
def space : Blanks := ⟨[' '], by decide⟩

/-- One run of blanks after another. -/
def append (a b : Blanks) : Blanks :=
  ⟨a ++ b, List.forall_mem_append.2 ⟨a.2, b.2⟩⟩

@[simp] theorem coe_empty : (empty : List Char) = [] := rfl

@[simp] theorem coe_append (a b : Blanks) : (a.append b : List Char) = a ++ b := rfl

end Blanks

namespace Literal

/-- A literal as it is written. -/
def text : Literal → List Char
  | .quoted t => '\'' :: (t ++ ['\''])
  | .bare w => w

/-- A quoted text holds no quote; a bare word is a run of word characters. -/
def WellFormed : Literal → Prop
  | .quoted t => '\'' ∉ t
  | .bare w => w ≠ [] ∧ ∀ c ∈ w, isWordChar c = true

instance : (l : Literal) → Decidable l.WellFormed
  | .quoted t => inferInstanceAs (Decidable ('\'' ∉ t))
  | .bare w => inferInstanceAs (Decidable (w ≠ [] ∧ ∀ c ∈ w, isWordChar c = true))

end Literal

/-- A comparison as it is written: a name, an operator and a literal, with blanks between them. -/
structure Wording where
  name : List Char
  beforeOp : Blanks
  op : Comparator
  afterOp : Blanks
  literal : Literal
  name_ne_nil : name ≠ [] := by decide
  isNameChar_of_mem : ∀ c ∈ name, isNameChar c = true := by decide
  wellFormed : literal.WellFormed := by decide

namespace Wording

/-- A comparison that is written without blanks. -/
def compact (name : String) (op : Comparator) (literal : Literal)
    (h : decide (name.toList ≠ [] ∧ (∀ c ∈ name.toList, isNameChar c = true) ∧
      literal.WellFormed) = true := by exact Eq.refl true) : Wording :=
  have h := of_decide_eq_true h
  ⟨name.toList, .empty, op, .empty, literal, h.1, h.2.1, h.2.2⟩

def text (w : Wording) : List Char :=
  w.name ++ (w.beforeOp ++ (w.op.spelling ++ (w.afterOp ++ w.literal.text)))

/-- A comparison begins with its name. -/
theorem text_eq_cons (w : Wording) : ∃ c t, w.text = c :: t ∧ isNameChar c = true := by
  obtain ⟨c, t, hw⟩ := List.exists_cons_of_ne_nil w.name_ne_nil
  exact ⟨c, _, by rw [text, hw, List.cons_append], w.isNameChar_of_mem c (by simp [hw])⟩

/-- The clause of a comparison that is followed by `rest`. -/
def clause (w : Wording) (rest : List Char) : Clause :=
  ⟨w.name, w.op, w.literal, w.literal.text ++ rest⟩

end Wording

/-! ## Derivations -/

/-- A derivation of a level of the grammar. -/
inductive Phrase : Level → Type where
  /-- A comparison is an item. -/
  | clause (w : Wording) : Phrase .item
  /-- A filter in parentheses is an item. -/
  | group (before : Blanks) (body : Phrase .whole) (after : Blanks) : Phrase .item
  /-- A chain may be of one operand. -/
  | one {join : Conjunction} (p : Phrase (.operand join)) : Phrase (.chain join)
  /-- A chain may begin with an operand and a conjunction. -/
  | more {join : Conjunction} (p : Phrase (.operand join)) (before after : Blanks)
      (ps : Phrase (.chain join)) : Phrase (.chain join)

/-- A chain of at least two operands. -/
def node : Conjunction → List Filter → Filter
  | .and => .all
  | .or => .any

namespace Phrase

/-- The derived text. -/
def text : {level : Level} → Phrase level → List Char
  | _, .clause w => w.text
  | _, .group before body after => '(' :: (before ++ (body.text ++ (after ++ [')'])))
  | _, .one p => p.text
  | .chain join, .more p before after ps =>
    p.text ++ (before ++ mark join :: (after ++ ps.text))

mutual

/-- The filter of a derivation that is followed by `rest`. Parentheses leave no node, nor does a
chain of one operand. -/
def filter : {level : Level} → Phrase level → List Char → Filter
  | _, .clause w, rest => .clause (w.clause rest)
  | _, .group _ body after, rest => body.filter (after ++ ')' :: rest)
  | _, .one p, rest => p.filter rest
  | .chain join, .more p before after ps, rest =>
    node join (p.filter (before ++ mark join :: (after ++ (ps.text ++ rest))) :: ps.filters rest)

/-- The filters of the operands of a chain. -/
def filters : {level : Level} → Phrase level → List Char → List Filter
  | _, .clause w, rest => [.clause (w.clause rest)]
  | _, .group _ body after, rest => [body.filter (after ++ ')' :: rest)]
  | _, .one p, rest => [p.filter rest]
  | .chain join, .more p before after ps, rest =>
    p.filter (before ++ mark join :: (after ++ (ps.text ++ rest))) :: ps.filters rest

end

theorem filter_eq_chain {join : Conjunction} (p : Phrase (.chain join)) (rest : List Char) :
    p.filter rest = chain join (p.filters rest) := by
  cases p with
  | one p => simp only [filter, filters, chain_singleton]
  | more p before after ps => cases ps <;> cases join <;> simp [filter, filters, chain, node]

/-- A derived text begins with a name or a parenthesis. -/
theorem text_eq_cons {level : Level} (p : Phrase level) :
    ∃ c t, p.text = c :: t ∧ (isNameChar c = true ∨ c = '(') := by
  induction p with
  | clause w =>
    obtain ⟨c, t, hw, hc⟩ := w.text_eq_cons
    exact ⟨c, t, hw, .inl hc⟩
  | group before body after ih => exact ⟨'(', _, rfl, .inr rfl⟩
  | one p ih => exact ih
  | more p before after ps ihp ihps =>
    obtain ⟨c, t, hp, hc⟩ := ihp
    exact ⟨c, _, by rw [text, hp, List.cons_append], hc⟩

/-- A derived text ends with a parenthesis, a quote or a character of a word. -/
theorem text_eq_concat {level : Level} (p : Phrase level) :
    ∃ t c, p.text = t ++ [c] ∧ (isWordChar c = true ∨ c = ')' ∨ c = '\'') := by
  induction p with
  | clause w =>
    have hw := w.wellFormed
    cases hl : w.literal with
    | quoted t =>
      refine ⟨w.name ++ (w.beforeOp ++ (w.op.spelling ++ (w.afterOp ++ '\'' :: t))), '\'', ?_,
        .inr (.inr rfl)⟩
      simp [text, Wording.text, hl, Literal.text]
    | bare v =>
      rw [hl] at hw
      obtain ⟨hne, hv⟩ := hw
      refine ⟨w.name ++ (w.beforeOp ++ (w.op.spelling ++ (w.afterOp ++ v.dropLast))),
        v.getLast hne, ?_, .inl (hv _ (List.getLast_mem hne))⟩
      simp [text, Wording.text, hl, Literal.text, List.dropLast_concat_getLast]
  | group before body after ih =>
    exact ⟨'(' :: (before ++ (body.text ++ after)), ')', by simp [text], .inr (.inl rfl)⟩
  | one p ih => exact ih
  | @more join p before after ps ihp ihps =>
    obtain ⟨t, c, hp, hc⟩ := ihps
    exact ⟨p.text ++ (before ++ mark join :: (after ++ t)), c, by simp [text, hp], hc⟩

/-- No white space begins or ends a derived text. -/
theorem trimmed_text {level : Level} (p : Phrase level) : Trimmed p.text := by
  refine ⟨?_, ?_⟩
  · obtain ⟨c, t, hp, hc⟩ := p.text_eq_cons
    rw [hp, startsOutside_cons]
    rcases hc with hc | rfl
    · exact isWhiteSpace_of_isWordChar (isWordChar_of_isNameChar hc)
    · rfl
  · obtain ⟨t, c, hp, hc⟩ := p.text_eq_concat
    rw [hp, List.reverse_append, List.reverse_singleton, List.singleton_append,
      startsOutside_cons]
    rcases hc with hc | rfl | rfl
    · exact isWhiteSpace_of_isWordChar hc
    · rfl
    · rfl

theorem startsOutside_text {level : Level} (p : Phrase level) (rest : List Char) :
    StartsOutside isBlank (p.text ++ rest) := by
  obtain ⟨c, t, hp, -⟩ := p.text_eq_cons
  have h := p.trimmed_text.start.blank
  rw [hp, startsOutside_cons] at h
  rw [hp, List.cons_append, startsOutside_cons]
  exact h

end Phrase

end Filter

end SearchFilter
