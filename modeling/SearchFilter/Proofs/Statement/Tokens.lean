import SearchFilter.Proofs.Condition.Walk
import SearchFilter.Query

/-!
# The tokens of a query

The renderer takes for granted what the tokens of a query make together: a table is followed by its
dot and its column, parentheses pair up, and the order comes after all of them. Two properties of a
list of tokens carry this, and both pass from two lists to one after the other: the list falls into
columns and single tokens (`Worded`), and its parentheses pair up (`Nested`). `wellFormed_tokens`
is then said of every state that a query can reach.
-/

namespace SearchFilter

/-! ## Columns -/

/-- At a table the renderer asserts that a dot and a column come next. -/
def Qualifies (ts : List Token) (i : Nat) : Prop :=
  ts[i + 1]? = some .dot ∧ ∃ name, ts[i + 2]? = some (.column name)

/-- The tokens fall into qualified columns, and single tokens that are neither tables nor dots. -/
inductive Worded : List Token → Prop where
  | nil : Worded []
  | single {t : Token} {ts : List Token} (htable : ∀ name, t ≠ .table name) (hdot : t ≠ .dot)
      (h : Worded ts) : Worded (t :: ts)
  | qualified (table name : String) {ts : List Token} (h : Worded ts) :
      Worded (.table table :: .dot :: .column name :: ts)

namespace Worded

variable {ts us : List Token} {i : Nat}

theorem append (h : Worded ts) (h' : Worded us) : Worded (ts ++ us) := by
  induction h with
  | nil => exact h'
  | single htable hdot _ ih => exact .single htable hdot ih
  | qualified table name _ ih => exact .qualified table name ih

theorem qualifies {table : String} (h : Worded ts) (hi : ts[i]? = some (.table table)) :
    Qualifies ts i := by
  induction h generalizing i with
  | nil => cases hi
  | single htable _ _ ih =>
    cases i with
    | zero => exact absurd (Option.some.inj hi) (htable table)
    | succ i => exact ih hi
  | qualified table name _ ih =>
    match i, hi with
    | 0, _ => exact ⟨rfl, name, rfl⟩
    | i + 3, hi => exact ih hi

theorem exists_table (h : Worded ts) (hi : ts[i]? = some .dot) :
    ∃ j table, i = j + 1 ∧ ts[j]? = some (.table table) := by
  induction h generalizing i with
  | nil => cases hi
  | single _ hdot _ ih =>
    cases i with
    | zero => exact absurd (Option.some.inj hi) hdot
    | succ i =>
      obtain ⟨j, table, rfl, hj⟩ := ih hi
      exact ⟨j + 1, table, rfl, hj⟩
  | qualified table name _ ih =>
    match i, hi with
    | 1, _ => exact ⟨0, table, rfl, rfl⟩
    | i + 3, hi =>
      obtain ⟨j, table, rfl, hj⟩ := ih hi
      exact ⟨j + 3, table, rfl, hj⟩

end Worded

/-! ## Parentheses -/

/-- The parentheses pair up: there are as many of either kind, and none is closed that has not been
opened. -/
structure Nested (ts : List Token) : Prop where
  closed_le : ∀ us, us <+: ts → us.count .rightParen ≤ us.count .leftParen
  balanced : ts.count .rightParen = ts.count .leftParen

namespace Nested

variable {ts us : List Token}

theorem of_forall_ne (hleft : .leftParen ∉ ts) (hright : .rightParen ∉ ts) : Nested ts := by
  refine ⟨?_, ?_⟩
  · intro us hus
    rw [List.count_eq_zero_of_not_mem fun h => hright (hus.subset h)]
    exact Nat.zero_le _
  · rw [List.count_eq_zero_of_not_mem hleft, List.count_eq_zero_of_not_mem hright]

theorem append (h : Nested ts) (h' : Nested us) : Nested (ts ++ us) := by
  refine ⟨?_, ?_⟩
  · intro p hp
    rcases List.prefix_or_prefix_of_prefix hp (List.prefix_append ts us) with hts | hts
    · exact h.closed_le p hts
    · obtain ⟨q, rfl⟩ := hts
      have hq := h'.closed_le q ((List.prefix_append_right_inj ts).1 hp)
      have hts := h.balanced
      rw [List.count_append, List.count_append]
      omega
  · rw [List.count_append, List.count_append, h.balanced, h'.balanced]

/-- Once a parenthesis is open before them, the list is enclosed all along. -/
theorem lt_of_prefix (h : Nested ts) {us : List Token} (hus : us <+: ts) :
    (Token.leftParen :: us).count .rightParen < (Token.leftParen :: us).count .leftParen := by
  have hle := h.closed_le us hus
  rw [List.count_cons_of_ne (by decide), List.count_cons_self]
  omega

theorem parens (h : Nested ts) : Nested (.leftParen :: (ts ++ [.rightParen])) := by
  refine ⟨?_, ?_⟩
  · intro p hp
    rcases List.prefix_cons_iff.1 hp with rfl | ⟨q, rfl, hq⟩
    · exact Nat.le_refl _
    · rcases List.prefix_concat_iff.1 hq with rfl | hq
      · have hts := h.balanced
        simp [hts]
      · exact Nat.le_of_lt (h.lt_of_prefix hq)
  · have hts := h.balanced
    simp [hts]

end Nested

/-! ## Comparisons and conditions -/

/-- The token may stand in a comparison. -/
def Token.isOperand : Token → Bool
  | .table _ | .dot | .column _ | .placeholder _ | .eq | .neq | .lt | .lte | .gt | .gte => true
  | _ => false

/-- The token carries a value. -/
def Token.isPlaceholder : Token → Bool
  | .placeholder _ => true
  | _ => false

/-- A conjunction stands in no comparison and no order, and is no parenthesis. -/
theorem Token.isOperand_of_mem_conjunctions {t : Token} (ht : t ∈ [Token.and, .or]) :
    t.isOperand = false ∧ (t ≠ .leftParen ∧ t ≠ .rightParen) ∧
      t ∉ [.orderBy, .ascending, .descending] := by
  simp only [List.mem_cons, List.not_mem_nil, or_false] at ht
  rcases ht with rfl | rfl
  · decide
  · decide

theorem Column.isOperand_of_mem_tokens {c : Column} {t : Token} (h : t ∈ c.tokens) :
    t.isOperand = true ∧ t.isPlaceholder = false := by
  obtain ⟨_ | table, name⟩ := c
  · rcases List.mem_singleton.1 h with rfl
    exact ⟨rfl, rfl⟩
  · simp only [tokens, List.mem_cons, List.not_mem_nil, or_false] at h
    rcases h with rfl | rfl | rfl <;> exact ⟨rfl, rfl⟩

theorem Column.worded_tokens (c : Column) : Worded c.tokens := by
  obtain ⟨_ | table, name⟩ := c
  · exact .single nofun nofun .nil
  · exact .qualified table name .nil

namespace Comparison

theorem isOperand_of_mem_tokens {c : Comparison} {t : Token} (h : t ∈ c.tokens) :
    t.isOperand = true := by
  rcases List.mem_append.1 h with h | h
  · exact (Column.isOperand_of_mem_tokens h).1
  · rcases List.mem_cons.1 h with rfl | h
    · cases c.op <;> rfl
    · rcases List.mem_singleton.1 h with rfl
      rfl

theorem worded_tokens (c : Comparison) : Worded c.tokens := by
  refine c.column.worded_tokens.append (.single ?_ ?_ (.single nofun nofun .nil))
  · intro table
    cases c.op <;> exact nofun
  · cases c.op <;> exact nofun

theorem countP_isPlaceholder_tokens (c : Comparison) :
    c.tokens.countP Token.isPlaceholder = 1 := by
  have hcolumn : c.column.tokens.countP Token.isPlaceholder = 0 := by
    refine List.countP_eq_zero.2 ?_
    intro t ht h
    rw [(Column.isOperand_of_mem_tokens ht).2] at h
    cases h
  have hop : c.op.token.isPlaceholder = false := by cases c.op <;> rfl
  have hvalue : (Token.placeholder c.value).isPlaceholder = true := rfl
  rw [tokens, List.countP_append, hcolumn, List.countP_cons_of_neg (by simp [hop]),
    List.countP_cons_of_pos hvalue, List.countP_nil]

end Comparison

namespace Condition

/-- What a condition lists: parentheses and conjunctions, and what stands in comparisons. -/
theorem mem_tokens_cases {c : Condition} {t : Token} (h : t ∈ c.tokens) :
    t.isOperand = true ∨ t ∈ [.leftParen, .rightParen, .and, .or] := by
  induction c with
  | leaf c =>
    rw [tokens_leaf] at h
    exact .inl (Comparison.isOperand_of_mem_tokens h)
  | node l join r ihl ihr =>
    simp only [tokens_node, List.mem_cons, List.mem_append, List.not_mem_nil, or_false] at h
    rcases h with rfl | h | rfl | h | rfl
    · exact .inr (by decide)
    · exact ihl h
    · cases join <;> exact .inr (by decide)
    · exact ihr h
    · exact .inr (by decide)

theorem notMem_tokens {t : Token} (ht : t.isOperand = false)
    (ht' : t ∉ [.leftParen, .rightParen, .and, .or]) (c : Condition) : t ∉ c.tokens := by
  intro h
  rcases mem_tokens_cases h with h | h
  · rw [ht] at h
    cases h
  · exact ht' h

theorem worded_tokens (c : Condition) : Worded c.tokens := by
  induction c with
  | leaf c =>
    rw [tokens_leaf]
    exact c.worded_tokens
  | node l join r ihl ihr =>
    have hclose : Worded [.rightParen] := .single nofun nofun .nil
    have hright : Worded (join.token :: (r.tokens ++ [.rightParen])) := by
      refine .single ?_ ?_ (ihr.append hclose)
      · intro table
        cases join <;> exact nofun
      · cases join <;> exact nofun
    rw [tokens_node]
    exact .single nofun nofun (ihl.append hright)

theorem countP_isPlaceholder_tokens (c : Condition) :
    c.tokens.countP Token.isPlaceholder = c.leafCount := by
  induction c with
  | leaf c => rw [tokens_leaf, c.countP_isPlaceholder_tokens, leafCount_leaf]
  | node l join r ihl ihr =>
    have hjoin : [join.token].countP Token.isPlaceholder = 0 := by cases join <;> rfl
    have hparen : [Token.leftParen].countP Token.isPlaceholder = 0 ∧
        [Token.rightParen].countP Token.isPlaceholder = 0 := ⟨rfl, rfl⟩
    rw [tokens_node, ← List.singleton_append, ← List.singleton_append (x := join.token)]
    simp only [List.countP_append, ihl, ihr, hjoin, hparen, leafCount_node]
    omega

/-- The tokens between the parentheses of a combination. -/
def inner (l : Condition) (join : Conjunction) (r : Condition) : List Token :=
  l.tokens ++ join.token :: r.tokens

theorem tokens_eq_inner (l r : Condition) (join : Conjunction) :
    (node l join r).tokens = .leftParen :: (inner l join r ++ [.rightParen]) := by
  simp [inner]

theorem nested_inner {l r : Condition} (join : Conjunction) (hl : Nested l.tokens)
    (hr : Nested r.tokens) : Nested (inner l join r) := by
  have hjoin : Nested [join.token] := by cases join <;> exact .of_forall_ne (by decide) (by decide)
  exact hl.append (hjoin.append hr)

theorem nested_tokens (c : Condition) : Nested c.tokens := by
  induction c with
  | leaf c =>
    rw [tokens_leaf]
    refine .of_forall_ne ?_ ?_
    · intro h
      cases Comparison.isOperand_of_mem_tokens h
    · intro h
      cases Comparison.isOperand_of_mem_tokens h
  | node l join r ihl ihr =>
    rw [tokens_eq_inner]
    exact (nested_inner join ihl ihr).parens

/-- Every combination opens a parenthesis. -/
theorem count_leftParen_tokens (c : Condition) :
    c.tokens.count .leftParen + 1 = c.leafCount := by
  induction c with
  | leaf c =>
    rw [tokens_leaf, leafCount_leaf, List.count_eq_zero_of_not_mem]
    intro h
    cases Comparison.isOperand_of_mem_tokens h
  | node l join r ihl ihr =>
    have hjoin : join.token ≠ .leftParen := by cases join <;> decide
    have hclose : [Token.rightParen].count .leftParen = 0 := rfl
    rw [tokens_node, List.count_cons_self, List.count_append, List.count_cons_of_ne hjoin,
      List.count_append, hclose, leafCount_node]
    omega

/-- A conjunction stands between the parentheses of a combination. -/
theorem closed_lt_opened {c : Condition} {i : Nat} {t : Token} (ht : t ∈ [Token.and, .or])
    (hi : c.tokens[i]? = some t) :
    (c.tokens.take i).count .rightParen < (c.tokens.take i).count .leftParen := by
  cases c with
  | leaf c =>
    rw [tokens_leaf] at hi
    have h := Comparison.isOperand_of_mem_tokens (List.mem_of_getElem? hi)
    rw [(Token.isOperand_of_mem_conjunctions ht).1] at h
    cases h
  | node l join r =>
    have hinner := nested_inner join l.nested_tokens r.nested_tokens
    rw [tokens_eq_inner] at hi ⊢
    have hne := (Token.isOperand_of_mem_conjunctions ht).2.1
    obtain _ | i := i
    · exact absurd (Option.some.inj hi).symm hne.1
    · have hlt : i < (inner l join r).length := by
        refine Nat.lt_of_not_le ?_
        intro hge
        rw [List.getElem?_cons_succ, List.getElem?_append_right hge] at hi
        exact hne.2 (List.mem_singleton.1 (List.mem_of_getElem? hi))
      rw [List.take_succ_cons, List.take_append_of_le_length (Nat.le_of_lt hlt)]
      exact hinner.lt_of_prefix (List.take_prefix i _)

end Condition

/-! ## The renderer -/

namespace Rendering

/-- After a table the dot adds nothing: it has been written with the table. -/
theorem push_dot_of_table (r : Rendering) (table : String) :
    (r.push (.table table)).push .dot = r.push (.table table) := by
  simp [push, String.isEmpty_iff]

/-- The renderer writes nothing at the dots of qualified columns. -/
theorem push_dot_of_worded {ts : List Token} (h : Worded ts) {i : Nat}
    (hi : ts[i]? = some .dot) (r : Rendering) :
    ((ts.take i).foldl push r).push .dot = (ts.take i).foldl push r := by
  obtain ⟨j, table, rfl, hj⟩ := h.exists_table hi
  rw [List.take_add_one, hj, Option.toList_some, List.foldl_append, List.foldl_cons, List.foldl_nil]
  exact push_dot_of_table _ table

end Rendering

/-! ## Queries -/

namespace Query

/-- The tokens of an order, if there is one. -/
def ordering (s : Option Sorter) : List Token := (s.map Sorter.tokens).getD []

theorem tokens_eq_ordering (q : Query) : q.tokens = q.condition.tokens ++ ordering q.sorter := rfl

/-- The tokens after `ORDER BY`. -/
theorem mem_ordering_cases {s : Sorter} {t : Token} (h : t ∈ s.column.tokens ++ [s.order.token]) :
    t.isOperand = true ∧ t.isPlaceholder = false ∨ t ∈ [.ascending, .descending] := by
  rcases List.mem_append.1 h with h | h
  · exact .inl (Column.isOperand_of_mem_tokens h)
  · rcases List.mem_singleton.1 h with rfl
    cases s.order <;> exact .inr (by decide)

theorem worded_ordering (s : Option Sorter) : Worded (ordering s) := by
  cases s with
  | none => exact .nil
  | some s =>
    refine .single nofun nofun (s.column.worded_tokens.append (.single ?_ ?_ .nil))
    · intro table
      cases s.order <;> exact nofun
    · cases s.order <;> exact nofun

/-- An order holds no token of a condition but those of its column. -/
theorem notMem_ordering {t : Token} (ht : t.isOperand = false)
    (ht' : t ∉ [.orderBy, .ascending, .descending]) (s : Option Sorter) : t ∉ ordering s := by
  intro h
  cases s with
  | none => cases h
  | some s =>
    simp only [List.mem_cons, not_or] at ht'
    rcases List.mem_cons.1 h with rfl | h
    · exact ht'.1 rfl
    · rcases mem_ordering_cases h with ⟨h, -⟩ | h
      · rw [ht] at h
        cases h
      · simp only [List.mem_cons, List.not_mem_nil, or_false] at h
        rcases h with rfl | rfl
        · exact ht'.2.1 rfl
        · exact ht'.2.2.1 rfl

theorem countP_isPlaceholder_ordering (s : Option Sorter) :
    (ordering s).countP Token.isPlaceholder = 0 := by
  refine List.countP_eq_zero.2 ?_
  intro t ht h
  cases s with
  | none => cases ht
  | some s =>
    rcases List.mem_cons.1 ht with rfl | ht
    · cases h
    · rcases mem_ordering_cases ht with ⟨-, h'⟩ | h'
      · rw [h'] at h
        cases h
      · simp only [List.mem_cons, List.not_mem_nil, or_false] at h'
        rcases h' with rfl | rfl <;> cases h

/-- `ORDER BY` begins an order, and comes again nowhere in it. -/
theorem orderBy_notMem_tail (s : Sorter) : .orderBy ∉ s.column.tokens ++ [s.order.token] := by
  intro h
  rcases mem_ordering_cases h with ⟨h, -⟩ | h
  · cases h
  · exact absurd h (by decide)

theorem count_orderBy_ordering (s : Option Sorter) :
    (ordering s).count .orderBy = if s.isSome then 1 else 0 := by
  cases s with
  | none => rfl
  | some s =>
    show (Token.orderBy :: (s.column.tokens ++ [s.order.token])).count .orderBy = 1
    rw [List.count_cons_self, List.count_eq_zero_of_not_mem (orderBy_notMem_tail s)]

theorem eq_zero_of_ordering {s : Option Sorter} {i : Nat}
    (hi : (ordering s)[i]? = some .orderBy) : i = 0 := by
  cases s with
  | none => cases hi
  | some s =>
    cases i with
    | zero => rfl
    | succ i =>
      have htail : (s.column.tokens ++ [s.order.token])[i]? = some .orderBy := hi
      exact absurd (List.mem_of_getElem? htail) (orderBy_notMem_tail s)

theorem worded_tokens (q : Query) : Worded q.tokens :=
  q.condition.worded_tokens.append (worded_ordering q.sorter)

theorem nested_tokens (q : Query) : Nested q.tokens :=
  q.condition.nested_tokens.append (.of_forall_ne (notMem_ordering rfl (by decide) q.sorter)
    (notMem_ordering rfl (by decide) q.sorter))

theorem notMem_tokens {t : Token} (ht : t.isOperand = false)
    (hcondition : t ∉ [.leftParen, .rightParen, .and, .or])
    (horder : t ∉ [.orderBy, .ascending, .descending]) (q : Query) : t ∉ q.tokens := by
  intro h
  rcases List.mem_append.1 h with h | h
  · exact q.condition.notMem_tokens ht hcondition h
  · exact notMem_ordering ht horder q.sorter h

/-- The parentheses of a query are those of its condition. -/
theorem count_paren_tokens (q : Query) :
    q.tokens.count .leftParen + 1 = q.condition.leafCount ∧
      q.tokens.count .rightParen + 1 = q.condition.leafCount := by
  have hleft : (ordering q.sorter).count .leftParen = 0 :=
    List.count_eq_zero_of_not_mem (notMem_ordering rfl (by decide) q.sorter)
  have hopened : q.tokens.count .leftParen + 1 = q.condition.leafCount := by
    rw [tokens_eq_ordering, List.count_append, hleft]
    exact q.condition.count_leftParen_tokens
  exact ⟨hopened, by rw [q.nested_tokens.balanced, hopened]⟩

theorem closed_lt_opened {q : Query} {i : Nat} {t : Token} (ht : t ∈ [Token.and, .or])
    (hi : q.tokens[i]? = some t) :
    (q.tokens.take i).count .rightParen < (q.tokens.take i).count .leftParen := by
  have hordering : t ∉ ordering q.sorter := by
    obtain ⟨hoperand, -, horder⟩ := Token.isOperand_of_mem_conjunctions ht
    exact notMem_ordering hoperand horder q.sorter
  rw [tokens_eq_ordering] at hi ⊢
  have hlt : i < q.condition.tokens.length := by
    refine Nat.lt_of_not_le ?_
    intro hge
    rw [List.getElem?_append_right hge] at hi
    exact hordering (List.mem_of_getElem? hi)
  rw [List.getElem?_append_left hlt] at hi
  rw [List.take_append_of_le_length (Nat.le_of_lt hlt)]
  exact Condition.closed_lt_opened ht hi

/-- `ORDER BY` comes right after the condition. -/
theorem eq_length_of_orderBy {q : Query} {i : Nat} (hi : q.tokens[i]? = some .orderBy) :
    i = q.condition.tokens.length := by
  rw [tokens_eq_ordering] at hi
  have hge : q.condition.tokens.length ≤ i := by
    refine Nat.le_of_not_lt ?_
    intro hlt
    rw [List.getElem?_append_left hlt] at hi
    exact q.condition.notMem_tokens rfl (by decide) (List.mem_of_getElem? hi)
  rw [List.getElem?_append_right hge] at hi
  have hzero := eq_zero_of_ordering hi
  omega

theorem parens_closed_of_orderBy {q : Query} {i : Nat} (hi : q.tokens[i]? = some .orderBy) :
    (q.tokens.take i).count .rightParen + 1 = q.condition.leafCount ∧
      .leftParen ∉ q.tokens.drop i ∧ .rightParen ∉ q.tokens.drop i := by
  rw [eq_length_of_orderBy hi, tokens_eq_ordering, List.take_left, List.drop_left,
    q.condition.nested_tokens.balanced]
  exact ⟨q.condition.count_leftParen_tokens, notMem_ordering rfl (by decide) q.sorter,
    notMem_ordering rfl (by decide) q.sorter⟩

theorem countP_isPlaceholder_tokens (q : Query) :
    q.tokens.countP Token.isPlaceholder = q.condition.leafCount := by
  rw [tokens_eq_ordering, List.countP_append, q.condition.countP_isPlaceholder_tokens,
    countP_isPlaceholder_ordering, Nat.add_zero]

theorem count_orderBy_tokens (q : Query) :
    q.tokens.count .orderBy = if q.sorter.isSome then 1 else 0 := by
  have hcondition : q.condition.tokens.count .orderBy = 0 :=
    List.count_eq_zero_of_not_mem (q.condition.notMem_tokens rfl (by decide))
  rw [tokens_eq_ordering, List.count_append, hcondition, count_orderBy_ordering, Nat.zero_add]

/-- The tokens make up a condition with so many leaves, and an order behind it if there is one. The
renderer may rely on it: what it asserts at a table is true, and at a dot it has nothing to write. -/
structure WellFormed (leaves : Nat) (sorted : Bool) (ts : List Token) : Prop where
  table : ∀ i name, ts[i]? = some (.table name) → Qualifies ts i
  dot : ∀ i, ts[i]? = some .dot → ∃ j name, i = j + 1 ∧ ts[j]? = some (.table name)
  no_comma : .comma ∉ ts
  no_where : .where ∉ ts
  opened : ts.count .leftParen + 1 = leaves
  closed : ts.count .rightParen + 1 = leaves
  closed_le : ∀ us, us <+: ts → us.count .rightParen ≤ us.count .leftParen
  joined : ∀ i t, t ∈ [Token.and, .or] → ts[i]? = some t →
    (ts.take i).count .rightParen < (ts.take i).count .leftParen
  placeholders : ts.countP Token.isPlaceholder = leaves
  ordered : ts.count .orderBy = if sorted then 1 else 0
  order_last : ∀ i, ts[i]? = some .orderBy →
    (ts.take i).count .rightParen + 1 = leaves ∧ .leftParen ∉ ts.drop i ∧ .rightParen ∉ ts.drop i
  written : ∀ i, ts[i]? = some .dot →
    ((ts.take i).foldl Rendering.push .empty).push .dot = (ts.take i).foldl Rendering.push .empty

theorem wellFormed (q : Query) : WellFormed q.condition.leafCount q.sorter.isSome q.tokens where
  table i name hi := q.worded_tokens.qualifies hi
  dot i hi := q.worded_tokens.exists_table hi
  no_comma := q.notMem_tokens rfl (by decide) (by decide)
  no_where := q.notMem_tokens rfl (by decide) (by decide)
  opened := q.count_paren_tokens.1
  closed := q.count_paren_tokens.2
  closed_le := q.nested_tokens.closed_le
  joined i t ht hi := closed_lt_opened ht hi
  placeholders := q.countP_isPlaceholder_tokens
  ordered := q.count_orderBy_tokens
  order_last i hi := parens_closed_of_orderBy hi
  written i hi := Rendering.push_dot_of_worded q.worded_tokens hi .empty

/-! ## States of a query -/

/-- A change of the order of a query. -/
inductive Change where
  | sortBy (s : Sorter)
  | unsort
deriving DecidableEq, Inhabited

/-- A query after a change. -/
def change (q : Query) : Change → Query
  | .sortBy s => q.sortBy s
  | .unsort => q.unsorted

/-- A query after some changes, one after the other. -/
def after (q : Query) (changes : List Change) : Query := changes.foldl change q

theorem condition_change (q : Query) (ch : Change) : (q.change ch).condition = q.condition := by
  cases ch <;> rfl

theorem condition_after (q : Query) (changes : List Change) :
    (q.after changes).condition = q.condition := by
  induction changes generalizing q with
  | nil => rfl
  | cons ch changes ih =>
    show ((q.change ch).after changes).condition = q.condition
    rw [ih, condition_change]

theorem wellFormed_tokens (c : Condition) (changes : List Change) :
    WellFormed c.leafCount ((ofCondition c).after changes).sorter.isSome
      ((ofCondition c).after changes).tokens := by
  have h := ((ofCondition c).after changes).wellFormed
  rw [condition_after] at h
  exact h

end Query

end SearchFilter
