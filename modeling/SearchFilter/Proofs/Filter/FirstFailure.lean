import SearchFilter.Proofs.Filter.Comparisons
import SearchFilter.Proofs.Filter.Diagnosis

/-!
# The first failure decides

A text that the grammar does not derive fails with its fault, whatever the columns are. A derived
text has a condition exactly if every comparison fits: its column is found, and its literal is a
value of the type of the column. Else the first comparison from left to right that does not fit
tells the failure, at any depth (`parse_first_failure`).
-/

namespace SearchFilter.Filter

open Text

variable {source rest : List Char} {resolver : Resolver} {e : Failure} {level : Level}

/-! ## Chains -/

/-- The filters before some filter have conditions, and that one fails. -/
inductive FailsFirst (source : List Char) (resolver : Resolver) : List Filter → Failure → Prop where
  | here {f : Filter} {fs : List Filter} {e : Failure}
      (h : f.resolve source resolver = .error e) : FailsFirst source resolver (f :: fs) e
  | there {f : Filter} {fs : List Filter} {c : Condition} {e : Failure}
      (h : f.resolve source resolver = .ok c) (hs : FailsFirst source resolver fs e) :
      FailsFirst source resolver (f :: fs) e

theorem resolveEach_eq_error_iff {fs : List Filter} {done : List Condition} :
    resolveEach source resolver fs done = .error e ↔ FailsFirst source resolver fs e := by
  induction fs generalizing done with
  | nil =>
    rw [resolveEach]
    refine ⟨(fun h => by cases h), (fun h => by cases h)⟩
  | cons f fs ih =>
    rw [resolveEach]
    cases hf : f.resolve source resolver with
    | error e' =>
      simp only [Except.error.injEq]
      constructor
      · rintro rfl
        exact .here hf
      · intro h
        cases h with
        | here h => exact Except.error.inj (hf.symm.trans h)
        | there h => cases hf.symm.trans h
    | ok c =>
      simp only [ih]
      constructor
      · exact .there hf
      · intro h
        cases h with
        | here h => cases hf.symm.trans h
        | there _ hs => exact hs

/-- Only if there are no operands, there is nothing to join. -/
theorem join?_eq_none_iff_of_resolveEach {join : Conjunction} {fs : List Filter}
    {cs : List Condition} (h : resolveEach source resolver fs [] = .ok cs) :
    Condition.join? join cs = none ↔ fs = [] := by
  obtain ⟨_, hds, rfl⟩ := resolveEach_eq_ok_iff.1 h
  rw [Condition.join?_eq_none_iff, ← List.length_eq_zero_iff, ← hds.length_eq,
    List.length_eq_zero_iff]

/-- A chain with an operand has a condition if its operands have. -/
theorem exists_joined (join : Conjunction) {fs : List Filter} {cs : List Condition}
    (h : resolveEach source resolver fs [] = .ok cs) (hfs : fs ≠ []) :
    ∃ c, joined join cs = .ok c := by
  cases hc : Condition.join? join cs with
  | none => exact absurd ((join?_eq_none_iff_of_resolveEach h).1 hc) hfs
  | some c => exact ⟨c, joined_eq_ok_iff.2 hc⟩

/-- A chain fails with the first of its operands that does; an empty one has no condition. -/
theorem resolve_node_eq_error_iff {join : Conjunction} {fs : List Filter} :
    (node join fs).resolve source resolver = .error e ↔
      FailsFirst source resolver fs e ∨ fs = [] ∧ e = .missingExpression := by
  have heach : resolveEach source resolver fs [] = .error e ↔ FailsFirst source resolver fs e :=
    resolveEach_eq_error_iff
  rw [← heach]
  cases hfs : resolveEach source resolver fs [] with
  | error e' =>
    have hnode : (node join fs).resolve source resolver = .error e' := by
      cases join <;> simp only [node, resolve, hfs]
    have hne : fs ≠ [] := by
      rintro rfl
      cases hfs
    simp [hnode, hne]
  | ok cs =>
    have hnode : (node join fs).resolve source resolver = joined join cs := by
      cases join <;> simp only [node, resolve, hfs]
    rw [hnode, joined, ← join?_eq_none_iff_of_resolveEach hfs]
    cases Condition.join? join cs <;> simp [eq_comm]

/-- A derivation fails with the first of its operands that does. -/
theorem Phrase.failsFirst_of_resolve {p : Phrase level}
    (h : (p.filter rest).resolve source resolver = .error e) :
    FailsFirst source resolver (p.filters rest) e := by
  have hitem {f : Filter} (hf : f.resolve source resolver = .error e) :
      FailsFirst source resolver [f] e := .here hf
  cases p with
  | clause w => exact hitem h
  | group before body after => exact hitem h
  | one p => exact hitem h
  | more p before after ps =>
    rcases resolve_node_eq_error_iff.1 h with h | ⟨hnil, -⟩
    · exact h
    · cases hnil

/-! ## Comparisons -/

theorem Literal.value_eq_error {l : Literal} {type? : Option ColumnType} {type : ColumnType}
    (h : l.value type? = .error type) : type? = some type := by
  have haccept {ty : ColumnType} {word : List Char} (h : accept ty word = .error type) :
      ty = type := by
    unfold accept at h
    split at h <;> cases h
    rfl
  obtain _ | ty := type?
  · cases l <;> cases h
  · cases l with
    | quoted t => rw [haccept h]
    | bare w =>
      rw [value] at h
      split at h
      · cases h
      · rw [haccept h]

theorem Clause.resolve_eq_error_iff {k : Clause} :
    k.resolve source resolver = .error e ↔
      resolver (String.ofList k.name) = .error e ∨
      ∃ field type, resolver (String.ofList k.name) = .ok field ∧
        k.literal.value field.type = .error type ∧
        e = failAt source k.tail (.mistyped type k.literal.word k.name) := by
  unfold Clause.resolve
  cases resolver (String.ofList k.name) with
  | error e' => simp
  | ok field =>
    cases hv : k.literal.value field.type with
    | error type => simp [hv, eq_comm]
    | ok v => simp [hv]

/-- The column of the comparison is found, and the literal is a value of this column. -/
def Wording.Fits (resolver : Resolver) (w : Wording) : Prop :=
  ∃ field v, resolver (String.ofList w.name) = .ok field ∧ w.literal.value field.type = .ok v

/-- The names of types in messages. -/
def typeNames : List (ColumnType × String) :=
  [(.integer, "integer"), (.float, "double precision"), (.bool, "boolean"), (.text, "text"),
    (.timestamp, "timestamptz")]

theorem mem_typeNames (type : ColumnType) : (type, type.sqlName) ∈ typeNames := by
  cases type <;> decide

/-- Why a comparison does not fit whose literal begins so many bytes from the beginning. -/
inductive Wording.Clash (resolver : Resolver) (w : Wording) (position : Nat) : Failure → Prop where
  /-- The resolver fails on the column. -/
  | column {e : Failure} (h : resolver (String.ofList w.name) = .error e) :
      Clash resolver w position e
  /-- The literal is no value of the type of the column. -/
  | literal {field : Field} {type : ColumnType} {typeName : String} {fault : Fault}
      (hfield : resolver (String.ofList w.name) = .ok field) (htype : field.type = some type)
      (hvalue : ∀ v, w.literal.value field.type ≠ .ok v)
      (hfault : fault = .mistyped type w.literal.word w.name)
      (hname : (type, typeName) ∈ typeNames)
      (hmessage : fault.message = "Expected " ++ typeName ++ ", found '" ++
        String.ofList w.literal.word ++ "' for column '" ++ String.ofList w.name ++ "'") :
      Clash resolver w position (.parse position fault)

namespace Wording

variable {w : Wording}

theorem Clash.not_fits {position : Nat} (h : w.Clash resolver position e) :
    ¬w.Fits resolver := by
  rintro ⟨field, v, hfield, hv⟩
  cases h with
  | column h => cases hfield.symm.trans h
  | literal hfield' htype hvalue =>
    cases hfield.symm.trans hfield'
    exact hvalue v hv

/-- A comparison that stands in the text fails at its literal. -/
theorem clash_of_resolve {before after : List Char} (hsource : source = before ++ (w.text ++ after))
    (h : (w.clause after).resolve source resolver = .error e) :
    w.Clash resolver (byteLength (before ++ w.upTo .literal)) e := by
  rcases Clause.resolve_eq_error_iff.1 h with h | ⟨field, type, hfield, hv, rfl⟩
  · exact .column h
  · have hposition : position source (w.literal.text ++ after) =
        byteLength (before ++ w.upTo .literal) := by
      rw [hsource, w.upTo_literal, List.append_assoc, ← List.append_assoc before, position_append]
    simp only [clause] at hfield hv ⊢
    rw [failAt, hposition]
    refine .literal hfield (Literal.value_eq_error hv) ?_ rfl (mem_typeNames type) rfl
    intro v hv'
    cases hv.symm.trans hv'

end Wording

/-! ## Texts -/

namespace Phrase

theorem fits_of_resolve {p : Phrase level} {c : Condition}
    (h : (p.filter rest).resolve source resolver = .ok c) : ∀ w ∈ p.wordings, w.Fits resolver := by
  have hleaves := p.forall₂_wordings_leaves h
  generalize p.wordings = ws, c.leaves = ls at hleaves
  induction hleaves with
  | nil => simp
  | cons hl _ ih =>
    obtain ⟨rest, hl⟩ := hl
    obtain ⟨field, v, hfield, hv, -⟩ := Clause.resolve_eq_ok_iff.1 hl
    exact List.forall_mem_cons.2 ⟨⟨field, v, hfield, hv⟩, ih⟩

/-- The derivation, followed by `rest`, has a first comparison that does not fit, and it fails with
`e`. The text before it comprises the comparisons that fit. -/
def FailsAt (source : List Char) (resolver : Resolver) (p : Phrase level) (rest : List Char)
    (e : Failure) : Prop :=
  ∃ ws w vs before after, p.wordings = ws ++ w :: vs ∧ (∀ v ∈ ws, v.Fits resolver) ∧
    p.text = before ++ (w.text ++ after) ∧ Comprises ws before ∧ Comprises vs after ∧
    (w.clause (after ++ rest)).resolve source resolver = .error e

/-- If the operands of a derivation fail, one of its comparisons does. -/
theorem failsAt {p : Phrase level} (h : FailsFirst source resolver (p.filters rest) e) :
    p.FailsAt source resolver rest e := by
  have hnil : Comprises [] [] := .separators (by simp)
  induction p generalizing rest with
  | clause w =>
    cases h with
    | here h => exact ⟨[], w, [], [], [], rfl, by simp, by simp [text], hnil, hnil, h⟩
    | there _ hs => cases hs
  | group before body after ih =>
    cases h with
    | there _ hs => cases hs
    | here h =>
      obtain ⟨ws, w, vs, s, t, hw, hfits, htext, hs, ht, he⟩ := ih (failsFirst_of_resolve h)
      refine ⟨ws, w, vs, '(' :: before ++ s, t ++ (after ++ [')']), hw, hfits, ?_,
        hs.prepend (isSeparator_of_mem_opening before), ?_, ?_⟩
      · simp [text, htext]
      · have h := ht.append (.separators (isSeparator_of_mem_closing after))
        rwa [List.append_nil] at h
      · simpa using he
  | one p ih =>
    cases h with
    | there _ hs => cases hs
    | here h => exact ih (failsFirst_of_resolve h)
  | @more join p before after ps ihp ihps =>
    have hbetween := isSeparator_of_mem_between before after join
    cases h with
    | here h =>
      obtain ⟨ws, w, vs, s, t, hw, hfits, htext, hs, ht, he⟩ := ihp (failsFirst_of_resolve h)
      refine ⟨ws, w, vs ++ ps.wordings, s, t ++ (before ++ mark join :: after ++ ps.text), ?_,
        hfits, ?_, hs, ht.append (ps.comprises_text.prepend hbetween), ?_⟩
      · simp [wordings, hw]
      · simp [text, htext]
      · simpa using he
    | there h hrest =>
      obtain ⟨ws, w, vs, s, t, hw, hfits, htext, hs, ht, he⟩ := ihps hrest
      refine ⟨p.wordings ++ ws, w, vs, p.text ++ (before ++ mark join :: after ++ s), t, ?_,
        List.forall_mem_append.2 ⟨fits_of_resolve h, hfits⟩, ?_,
        p.comprises_text.append (hs.prepend hbetween), ht, he⟩
      · simp [wordings, hw]
      · simp [text, htext]

end Phrase

/-- The failures that tell that a text has no derivation. -/
inductive SyntaxFailure : Failure → Prop where
  | missing : SyntaxFailure .missingExpression
  | expected (position : Nat) (what : Expectation) (rest : List Char) :
      SyntaxFailure (.parse position (.expected what rest))
  | trailing (position : Nat) (rest : List Char) : SyntaxFailure (.parse position (.trailing rest))

theorem exists_syntaxFailure {s : List Char} (hs : Trimmed s)
    (hrejected : ∀ p : Phrase .whole, p.text ≠ s) : ∃ e, SyntaxFailure e ∧ read s = .error e := by
  by_cases hne : s = []
  · subst hne
    exact ⟨_, .missing, rfl⟩
  · obtain ⟨before, rest, fault, -, hread, hdiagnosis⟩ := read_of_rejected hs hne hrejected
    refine ⟨_, ?_, hread⟩
    rcases hdiagnosis.message with ⟨rfl, -⟩ | ⟨rfl, -⟩ | ⟨rfl, -, -⟩
    · exact .expected _ .comparison rest
    · exact .expected _ .closingParen rest
    · exact .trailing _ rest

/-- A text without a derivation fails with what is wrong with its syntax, for all resolvers alike. A
text with a derivation has a condition if and only if all its comparisons fit; else its failure is
that of the first one, from left to right, that does not. -/
theorem parse_first_failure (resolver : Resolver) (text : String) :
    ((∀ p : Phrase .whole, p.text ≠ trim text.toList) →
      ∃ e, SyntaxFailure e ∧ ∀ resolver, parse resolver text = .error e) ∧
    ∀ p : Phrase .whole, p.text = trim text.toList →
      ((∃ c, parse resolver text = .ok c) ↔ ∀ w ∈ p.wordings, w.Fits resolver) ∧
      ∀ e, parse resolver text = .error e → ∃ ws w vs before after,
        p.wordings = ws ++ w :: vs ∧ (∀ v ∈ ws, v.Fits resolver) ∧
        trim text.toList = before ++ (w.text ++ after) ∧
        Comprises ws before ∧ Comprises vs after ∧
        w.Clash resolver (byteLength (before ++ w.upTo .literal)) e := by
  refine ⟨?_, ?_⟩
  · intro hrejected
    obtain ⟨e, he, hread⟩ := exists_syntaxFailure (trimmed_trim _) hrejected
    exact ⟨e, he, fun resolver => by simp only [parse, hread]⟩
  · intro p hp
    have hparse : parse resolver text = (p.filter []).resolve (trim text.toList) resolver := by
      simp only [parse, (read_eq_ok_iff (trimmed_trim _)).2 ⟨p, hp, rfl⟩]
    rw [hparse]
    have hfailure {e : Failure}
        (he : (p.filter []).resolve (trim text.toList) resolver = .error e) :
        ∃ ws w vs before after, p.wordings = ws ++ w :: vs ∧ (∀ v ∈ ws, v.Fits resolver) ∧
          trim text.toList = before ++ (w.text ++ after) ∧ Comprises ws before ∧
          Comprises vs after ∧ w.Clash resolver (byteLength (before ++ w.upTo .literal)) e := by
      obtain ⟨ws, w, vs, before, after, hw, hfits, htext, hbefore, hafter, hresolve⟩ :=
        Phrase.failsAt (Phrase.failsFirst_of_resolve he)
      rw [hp] at htext
      rw [List.append_nil] at hresolve
      exact ⟨ws, w, vs, before, after, hw, hfits, htext, hbefore, hafter,
        Wording.clash_of_resolve htext hresolve⟩
    refine ⟨⟨?_, ?_⟩, fun e he => hfailure he⟩
    · rintro ⟨c, hc⟩
      exact Phrase.fits_of_resolve hc
    · intro hfits
      cases hresolve : (p.filter []).resolve (trim text.toList) resolver with
      | ok c => exact ⟨c, rfl⟩
      | error e =>
        obtain ⟨ws, w, vs, before, after, hw, -, -, -, -, hclash⟩ := hfailure hresolve
        exact absurd (hfits w (by simp [hw])) hclash.not_fits

/-- `name='ä' & (type='x y' | pass=1)`: two of three comparisons do not fit. -/
def clashing : Phrase .whole :=
  .one (.more (.clause (.compact "name" .eq (.quoted "ä".toList))) .space .space
    (.one (.group .empty
      (.more (.one (.clause (.compact "type" .eq (.quoted "x y".toList)))) .space .space
        (.one (.one (.clause (.compact "pass" .eq (.bare "1".toList)))))) .empty)))

def nameAndType : Resolver :=
  .ofFields [⟨.plain "name", some .text⟩, ⟨.plain "type", some .integer⟩]

theorem parse_first_failure_clashing :
    clashing.text = trim "name='ä' & (type='x y' | pass=1)".toList ∧
      parse nameAndType "name='ä' & (type='x y' | pass=1)" =
        .error (.parse 18 (.mistyped .integer "x y".toList "type".toList)) ∧
      (Failure.parse 18 (.mistyped .integer "x y".toList "type".toList)).message =
        "Parse error at position 18: Expected integer, found 'x y' for column 'type'" ∧
      ∃ ws w vs before after, clashing.wordings = ws ++ w :: vs ∧
        (∀ v ∈ ws, v.Fits nameAndType) ∧
        trim "name='ä' & (type='x y' | pass=1)".toList = before ++ (w.text ++ after) ∧
        Comprises ws before ∧ Comprises vs after ∧
        w.Clash nameAndType (byteLength (before ++ w.upTo .literal))
          (.parse 18 (.mistyped .integer "x y".toList "type".toList)) := by
  have htext : clashing.text = trim "name='ä' & (type='x y' | pass=1)".toList := by decide
  have hparse : parse nameAndType "name='ä' & (type='x y' | pass=1)" =
      .error (.parse 18 (.mistyped .integer "x y".toList "type".toList)) := by
    simp only [parse, (read_eq_ok_iff (trimmed_trim _)).2 ⟨clashing, htext, rfl⟩]
    decide
  have hmessage : (Failure.parse 18 (.mistyped .integer "x y".toList "type".toList)).message =
      "Parse error at position 18: Expected integer, found 'x y' for column 'type'" := rfl
  exact ⟨htext, hparse, hmessage,
    ((parse_first_failure nameAndType _).2 clashing htext).2 _ hparse⟩

end SearchFilter.Filter
