import SearchFilter.Database
import SearchFilter.Proofs.Filter.Comparisons
import SearchFilter.Proofs.Filter.Typing
import SearchFilter.Proofs.ReleaseGroup.Search

/-!
# Binding the parameters of a filter

The parameters of a query are the literals of its filter text in the order of the text, each typed
by its column and bound with the SQL type of the column. Three facts meet here: a literal has the
type of its column or is a null of that type (`Filter.Literal.type?_of_value_eq_ok`), a value is
bound with its type (`Value.type_bind`), and the order of the text is that of the leaves
(`forall₂_fills`), hence that of the parameters.
-/

namespace SearchFilter

open SearchFilter.Text SearchFilter.Filter

variable {ty : ColumnType} {v : Value}

/-- A value is bound with its type. -/
theorem Value.type_bind (h : v.type? = some ty) : v.bind.type = ty.sqlType := by
  cases v with
  | null => cases h
  | bool b => cases h; rfl
  | int n => cases h; rfl
  | float x => cases h; rfl
  | text s => cases h; rfl
  | timestamp t => cases h; rfl
  | typedNull ty => cases h; rfl

/-! ## Comparisons and parameters -/

/-- The comparison is one of a column that the resolver knows, and the parameter is its literal as a
value of this column. If the column has a type, so has the parameter, and it is bound with it. -/
def Fills (resolver : Resolver) (w : Wording) (v : Value) : Prop :=
  ∃ field, resolver (String.ofList w.name) = .ok field ∧ w.literal.value field.type = .ok v ∧
    ∀ ty, field.type = some ty → v.type? = some ty ∧ v.bind.type = ty.sqlType

theorem fills_of_resolve {source rest : List Char} {resolver : Resolver} {w : Wording}
    {l : Comparison} (h : (w.clause rest).resolve source resolver = .ok (.leaf l)) :
    Fills resolver w l.value := by
  obtain ⟨field, v, hfield, hv, hl⟩ := Clause.resolve_eq_ok_iff.1 h
  cases hl
  refine ⟨field, hfield, hv, ?_⟩
  intro ty hty
  rw [Wording.clause, hty] at hv
  have htype := Literal.type?_of_value_eq_ok hv
  exact ⟨htype, Value.type_bind htype⟩

/-- The leaves of the condition of a derivation are its comparisons, in the same order. -/
theorem forall₂_fills {source : List Char} {resolver : Resolver} {level : Level}
    (p : Phrase level) {rest : List Char} {c : Condition}
    (h : (p.filter rest).resolve source resolver = .ok c) :
    List.Forall₂ (fun w l => Fills resolver w l.value) p.wordings c.leaves :=
  (p.forall₂_wordings_leaves h).imp fun _ _ ⟨_, hl⟩ => fills_of_resolve hl

/-! ## Searches -/

/-- What is sent for a page of a query: the parameters of the query, the limit and the offset. -/
theorem Database.sent_search (db : Database) (q : Query) (page : Page) :
    (db.search q page).sent =
      if 0 ≤ page.offset ∧ 0 ≤ page.limit then
        some ⟨ReleaseGroup.selectHead ++ q.build.sql ++ ReleaseGroup.pageTail q.build.params.length,
          q.build.params.map Value.bind ++ [.int8 page.limit, .int8 page.offset]⟩
      else none := by
  rw [Database.search, ReleaseGroup.search]
  by_cases h : 0 ≤ page.offset ∧ 0 ≤ page.limit
  · rw [if_pos h, Page.check_eq_ok_iff.2 h]
    simp [fetchAll, Statement.request, Value.bind]
  · rw [if_neg h]
    cases hcheck : page.check with
    | error e => rfl
    | ok u => exact absurd (Page.check_eq_ok_iff.1 hcheck) h

/-- The parameters of the query of a filter text are the literals of the text, one for each of its
comparisons and in the order of the text, typed by their columns. They are what a search sends, and
then the limit and the offset. -/
theorem bindings_of_parse {resolver : Resolver} {text : String} {c : Condition}
    (h : parse resolver text = .ok c) (sorter : Option Sorter) :
    ∃ p : Phrase .whole, p.text = trim text.toList ∧
      (∀ q : Phrase .whole, q.text = trim text.toList → q = p) ∧
      Comprises p.wordings (trim text.toList) ∧
      (Query.build ⟨c, sorter⟩).params.length = p.wordings.length ∧
      List.Forall₂ (Fills resolver) p.wordings (Query.build ⟨c, sorter⟩).params ∧
      ∀ (db : Database) (page : Page),
        ((db.search ⟨c, sorter⟩ page).sent.isSome ↔ 0 ≤ page.offset ∧ 0 ≤ page.limit) ∧
        ∀ r, (db.search ⟨c, sorter⟩ page).sent = some r →
          r.binds = (Query.build ⟨c, sorter⟩).params.map Value.bind ++
            [.int8 page.limit, .int8 page.offset] := by
  obtain ⟨p, hp, hc⟩ := parse_eq_ok_iff.1 h
  have hfills := forall₂_fills p hc
  refine ⟨p, hp, ?_, hp ▸ p.comprises_text, ?_, ?_, ?_⟩
  · intro q hq
    exact Phrase.text_injective (hq.trans hp.symm)
  · rw [Query.params_build, List.length_map, hfills.length_eq]
  · rw [Query.params_build, List.forall₂_map_right_iff]
    exact hfills
  · intro db page
    rw [Database.sent_search]
    refine ⟨by simp, ?_⟩
    intro r hr
    split at hr
    · cases hr
      rfl
    · cases hr

/-- `type=NULL & (name!='NULL' | id>=-2)`: a null, and a text that is none. -/
def nulls : Phrase .whole :=
  .one (.more (.clause (.mk "type".toList .empty .eq .empty (.bare "NULL".toList))) .space .space
    (.one (.group .empty
      (.more (.one (.clause (.mk "name".toList .empty .neq .empty (.quoted "NULL".toList))))
        .space .space
        (.one (.one (.clause (.mk "id".toList .empty .gte .empty (.bare "-2".toList)))))) .empty)))

def nullsCondition : Condition :=
  .and (.compare (.plain "type") .eq (.typedNull .integer))
    (.or (.compare (.plain "name") .neq (.text "NULL")) (.compare (.plain "id") .gte (.int (-2))))

theorem bindings_of_parse_nulls :
    parse ReleaseGroup.resolver "type=NULL & (name!='NULL' | id>=-2)" = .ok nullsCondition ∧
      List.Forall₂ (Fills ReleaseGroup.resolver) nulls.wordings
        [.typedNull .integer, .text "NULL", .int (-2)] ∧
      ∀ (db : Database) (r : Request), (db.search ⟨nullsCondition, none⟩ ⟨20, 10⟩).sent = some r →
        r.binds = [.null .int8, .text "NULL", .int8 (-2), .int8 10, .int8 20] := by
  have htext : nulls.text = trim "type=NULL & (name!='NULL' | id>=-2)".toList := by decide
  have hparse : parse ReleaseGroup.resolver "type=NULL & (name!='NULL' | id>=-2)" =
      .ok nullsCondition := parse_eq_ok_iff.2 ⟨nulls, htext, by decide⟩
  obtain ⟨p, -, hunique, -, -, hfills, hsent⟩ := bindings_of_parse hparse none
  rw [Query.params_build] at hfills hsent
  rw [← hunique nulls htext] at hfills
  refine ⟨hparse, hfills, ?_⟩
  intro db r hr
  exact (hsent db ⟨20, 10⟩).2 r hr

end SearchFilter
