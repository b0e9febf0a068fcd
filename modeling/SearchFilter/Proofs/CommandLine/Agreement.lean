import SearchFilter.CommandLine.Run
import SearchFilter.Proofs.Filter.Recognition
import SearchFilter.Proofs.ReleaseGroup.Search

/-!
# What the commands show and what is sent

A search compiles its statement before it looks at the settings, and once more when it is sent; an
explanation compiles the query alone. All of them have the same statement (`search_agrees`), and
`printed` says on which lines the output has its text and its parameters. The inputs of a search are
looked at in a fixed order, the `Part`s, and the first one that is not valid is reported. What is told
of a part does not depend on the parts before it.
-/

namespace SearchFilter.CommandLine

open SearchFilter.ReleaseGroup SearchFilter.Terminal

variable {w : Surroundings} {a : SearchArguments} {q : Query} {s : Statement} {e : Failure}
  {settings : Settings} {url detail : String} {server : Server}

/-! ## The parts of the input -/

/-- A part of the input of a search. -/
inductive Part where
  | filter
  | sort
  | offset
  | limit
  | settings
  | connection
deriving DecidableEq, Repr

/-- What is told of an answer that is a failure. -/
def told {α : Type} : Except Failure α → Option String
  | .ok _ => none
  | .error e => some (Report.causes e)

namespace Part

/-- The parts in the order in which they are looked at. -/
def all : List Part := [.filter, .sort, .offset, .limit, .settings, .connection]

/-- What is told of a part that is not valid. A connection is one only if it is asked for. -/
def complaint? (w : Surroundings) (a : SearchArguments) : Part → Option String
  | .filter => told (parseFilter a.filter.filter)
  | .sort => a.filter.sort.bind fun name => told (Key.find name)
  | .offset =>
    if a.offset < 0 then
      some ("Invalid value: offset must not be negative, got " ++ Text.integerText a.offset.toInt)
    else none
  | .limit =>
    if a.limit < 0 then
      some ("Invalid value: limit must not be negative, got " ++ Text.integerText a.limit.toInt)
    else none
  | .settings => told (a.settings w)
  | .connection =>
    match a.settings w with
    | .error _ => none
    | .ok settings =>
      if a.dryRun then none
      else
        match settings.databaseUrl with
        | none => none
        | some url =>
          match w.client url settings.maxConnections with
          | .error detail => some ("failed to open the database pool: Connection error: " ++ detail)
          | .ok _ => none

end Part

/-! ## Queries -/

/-- A filter and a column to sort by have a query if both are valid. -/
theorem exists_query_iff (f : FilterArguments) :
    (∃ q, f.query = .ok q) ↔ (∃ c, parseFilter f.filter = .ok c) ∧
      ∀ name ∈ f.sort, ∃ k, Key.find name = .ok k := by
  obtain ⟨filter, sort, descending⟩ := f
  simp only [FilterArguments.query, query]
  cases parseFilter filter with
  | error e => simp
  | ok c =>
    cases sort with
    | none => simp
    | some name => cases hk : Key.find name <;> simp [hk]

/-- What is told of a query is told of the filter, or else of the column to sort by. -/
theorem told_query (a : SearchArguments) (w : Surroundings) :
    told a.filter.query =
      (Part.filter.complaint? w a).or (Part.sort.complaint? w a) := by
  obtain ⟨⟨filter, sort, descending⟩, limit, offset, dryRun, format, url, config⟩ := a
  simp only [FilterArguments.query, query, Part.complaint?]
  cases parseFilter filter with
  | error e => rfl
  | ok c =>
    cases sort with
    | none => rfl
    | some name => cases hk : Key.find name <;> simp [told, hk]

theorem told_invalidValue {α : Type} (head rest : String) :
    told (.error (.invalidValue (head ++ rest)) : Except Failure α) =
      some ("Invalid value: " ++ head ++ rest) :=
  congrArg some (@String.append_assoc "Invalid value: " head rest).symm

/-- What is told of a page is told of its offset, or else of its limit. -/
theorem told_check (a : SearchArguments) (w : Surroundings) :
    told a.page.check = (Part.offset.complaint? w a).or (Part.limit.complaint? w a) := by
  by_cases ho : a.offset < 0
  · have hcheck : a.page.check = .error _ := Page.check_of_offset_neg ho
    simp only [Part.complaint?, ho, hcheck, told_invalidValue, if_true, Option.some_or]
    rfl
  · by_cases hl : a.limit < 0
    · have hcheck : a.page.check = .error _ := Page.check_of_limit_neg (Int64.not_lt.1 ho) hl
      simp only [Part.complaint?, ho, hl, hcheck, told_invalidValue, if_true, if_false,
        Option.none_or]
      rfl
    · have hcheck : a.page.check = .ok () :=
        Page.check_eq_ok_iff.2 ⟨Int64.not_lt.1 ho, Int64.not_lt.1 hl⟩
      simp [Part.complaint?, ho, hl, told, hcheck]

/-- The first complaint is that of the query, of the page, of the settings or of the connection. -/
theorem findSome?_complaint? (w : Surroundings) (a : SearchArguments) :
    Part.all.findSome? (Part.complaint? w a) =
      (told a.filter.query).or ((told a.page.check).or
        ((told (a.settings w)).or (Part.connection.complaint? w a))) := by
  have hsettings : Part.settings.complaint? w a = told (a.settings w) := rfl
  rw [told_query a w, told_check a w, ← hsettings, Part.all]
  simp only [List.findSome?_cons, List.findSome?_nil]
  cases Part.filter.complaint? w a <;> cases Part.sort.complaint? w a <;>
    cases Part.offset.complaint? w a <;> cases Part.limit.complaint? w a <;>
    cases Part.settings.complaint? w a <;> cases Part.connection.complaint? w a <;> rfl

/-! ## Runs -/

theorem run_of_query_error (h : a.filter.query = .error e) :
    run w (.search a) = .failed w [] (Report.causes e) none := by
  simp only [run, runSearch, h]

theorem run_of_check_error (hq : a.filter.query = .ok q) (h : a.page.check = .error e) :
    run w (.search a) = .failed w [] (Report.causes e) none := by
  simp only [run, runSearch, hq, search_eq_error_iff.2 h]

theorem run_of_settings_error (hq : a.filter.query = .ok q) (hs : search q a.page = .ok s)
    (h : a.settings w = .error e) : run w (.search a) = .failed w [] (Report.causes e) none := by
  simp only [run, runSearch, hq, hs, h]

theorem run_of_dryRun (hq : a.filter.query = .ok q) (hs : search q a.page = .ok s)
    (h : a.settings w = .ok settings) (hdry : a.dryRun = true) :
    run w (.search a) = .ok (statementLines w "" s) none := by
  simp only [run, runSearch, hq, hs, h, hdry, if_true]

theorem run_of_no_url (hq : a.filter.query = .ok q) (hs : search q a.page = .ok s)
    (h : a.settings w = .ok settings) (hdry : a.dryRun = false)
    (hurl : settings.databaseUrl = none) :
    run w (.search a) =
      .ok (statementLines w "" s ++ ["", paint w.colours (.plain .yellow) noDatabaseHint])
        none := by
  simp only [run, runSearch, hq, hs, h, hdry, hurl, Bool.false_eq_true, if_false,
    Option.isNone_none, if_true]

theorem run_of_url (hq : a.filter.query = .ok q) (hs : search q a.page = .ok s)
    (h : a.settings w = .ok settings) (hdry : a.dryRun = false)
    (hurl : settings.databaseUrl = some url) :
    run w (.search a) = runLive w a settings q := by
  simp only [run, runSearch, hq, hs, h, hdry, hurl, Bool.false_eq_true, if_false,
    Option.isNone_some]

theorem runLive_of_client_error (hurl : settings.databaseUrl = some url)
    (h : w.client url settings.maxConnections = .error detail) : runLive w a settings q =
      .failed w [] ("failed to open the database pool: Connection error: " ++ detail) none := by
  have hcauses : "failed to open the database pool: " ++ Report.causes (.connection detail) =
      "failed to open the database pool: Connection error: " ++ detail :=
    (@String.append_assoc "failed to open the database pool: " "Connection error: " detail).symm
  simp only [runLive, Database.connect, Settings.requireDatabaseUrl, hurl, h, hcauses]

/-- A connection sends the statement. -/
theorem sent_runLive (hs : search q a.page = .ok s) (hurl : settings.databaseUrl = some url)
    (h : w.client url settings.maxConnections = .ok server) :
    (runLive w a settings q).sent = some s.request := by
  simp only [runLive, Database.connect, Settings.requireDatabaseUrl, hurl, h, Database.search, hs]
  cases (Database.fetchAll ⟨server⟩ s).outcome <;> rfl

theorem run_explain (hq : a.filter.query = .ok q) :
    ∃ lines, run w (.explain a.filter) = .ok (lines ++ statementLines w "  " q.build) none := by
  simp only [run, runExplain, hq, queryLines]
  exact ⟨_, by rw [← List.append_assoc, ← List.append_cons]⟩

/-! ## The course of a search -/

/-- What becomes of a search: its first invalid part is told, or its statement is shown and nothing
is sent, or its statement is sent. -/
inductive Course (w : Surroundings) (a : SearchArguments) : Prop where
  | refused {text : String} (complaint : Part.all.findSome? (Part.complaint? w a) = some text)
      (report : run w (.search a) = .failed w [] text none)
  | shown {q : Query} {s : Statement} {settings : Settings} {hint : List String}
      (complaint : Part.all.findSome? (Part.complaint? w a) = none)
      (report : run w (.search a) = .ok (statementLines w "" s ++ hint) none)
      (query : a.filter.query = .ok q) (statement : search q a.page = .ok s)
      (valid : a.settings w = .ok settings)
      (idle : a.dryRun = true ∨ settings.databaseUrl = none)
  | sent {q : Query} {s : Statement} {settings : Settings} {url : String} {server : Server}
      (complaint : Part.all.findSome? (Part.complaint? w a) = none)
      (report : (run w (.search a)).sent = some s.request)
      (query : a.filter.query = .ok q) (statement : search q a.page = .ok s)
      (valid : a.settings w = .ok settings) (live : a.dryRun = false)
      (address : settings.databaseUrl = some url)
      (connection : w.client url settings.maxConnections = .ok server)

/-- With a query, a page and settings, only the connection can be refused. -/
theorem course_of_settings (hq : a.filter.query = .ok q) (hpage : a.page.check = .ok ())
    (h : a.settings w = .ok settings) : Course w a := by
  have hs : search q a.page = .ok _ := search_eq_ok_iff.2 ⟨Page.check_eq_ok_iff.1 hpage, rfl⟩
  have hcomplaint : Part.all.findSome? (Part.complaint? w a) = Part.connection.complaint? w a := by
    rw [findSome?_complaint?, hq, hpage, h]
    rfl
  simp only [Part.complaint?, h] at hcomplaint
  cases hdry : a.dryRun with
  | true =>
    rw [hdry, if_pos rfl] at hcomplaint
    have hrun := run_of_dryRun hq hs h hdry
    rw [← List.append_nil (statementLines w "" _)] at hrun
    exact .shown hcomplaint hrun hq hs h (.inl hdry)
  | false =>
    rw [hdry, if_neg Bool.false_ne_true] at hcomplaint
    cases hurl : settings.databaseUrl with
    | none =>
      rw [hurl] at hcomplaint
      exact .shown hcomplaint (run_of_no_url hq hs h hdry hurl) hq hs h (.inr hurl)
    | some url =>
      rw [hurl] at hcomplaint
      have hrun := run_of_url hq hs h hdry hurl
      cases hclient : w.client url settings.maxConnections with
      | error detail =>
        simp only [hclient] at hcomplaint
        exact .refused hcomplaint (hrun.trans (runLive_of_client_error hurl hclient))
      | ok server =>
        simp only [hclient] at hcomplaint
        exact .sent hcomplaint (hrun ▸ sent_runLive hs hurl hclient) hq hs h hdry hurl hclient

theorem course (w : Surroundings) (a : SearchArguments) : Course w a := by
  have hcomplaint := findSome?_complaint? w a
  cases hq : a.filter.query with
  | error e =>
    simp only [hq, told, Option.some_or] at hcomplaint
    exact .refused hcomplaint (run_of_query_error hq)
  | ok q =>
    cases hpage : a.page.check with
    | error e =>
      simp only [hq, hpage, told, Option.none_or, Option.some_or] at hcomplaint
      exact .refused hcomplaint (run_of_check_error hq hpage)
    | ok u =>
      cases h : a.settings w with
      | error e =>
        have hs : search q a.page = .ok _ := search_eq_ok_iff.2 ⟨Page.check_eq_ok_iff.1 hpage, rfl⟩
        simp only [hq, hpage, h, told, Option.none_or, Option.some_or] at hcomplaint
        exact .refused hcomplaint (run_of_settings_error hq hs h)
      | ok settings => exact course_of_settings hq hpage h

/-! ## Agreement -/

/-- The output that shows a statement: its text on the line after a heading and, after an empty line
and another heading, a line with the number and the value of each parameter. -/
def printed (ink : Style → String → String) (indent : String) (s : Statement) : List String :=
  [ink (.bold .green) "Generated SQL:", indent ++ ink (.plain .white) s.sql, "",
    ink (.plain .cyan) "Parameters:"] ++
  s.params.mapIdx fun i v => "  $" ++ Nat.repr (i + 1) ++ " = " ++ ink (.plain .yellow) v.display

/-- A dry run shows a statement and an explanation, last of all, its fragment. -/
structure Shown (ink : Style → String → String) (w : Surroundings) (a : SearchArguments)
    (fragment whole : Statement) : Prop where
  dryRun : run w (.search { a with dryRun := true }) =
    ⟨0, String.join ((printed ink "" whole).map (· ++ "\n")), "", none⟩
  explanation : ∃ before, run w (.explain a.filter) =
    ⟨0, String.join ((before ++ printed ink "  " fragment).map (· ++ "\n")), "", none⟩
  sql : whole.sql =
    "SELECT \"id\", \"name\", \"type\", \"release_date\" FROM \"release_groups\" WHERE " ++
      fragment.sql ++ " LIMIT $" ++ Nat.repr (fragment.params.length + 1) ++
      " OFFSET $" ++ Nat.repr (fragment.params.length + 2)
  params : whole.params = fragment.params ++ [.int a.limit, .int a.offset]

/-- Every part of the input is valid, and the statement is not only to be shown. -/
structure Sendable (w : Surroundings) (a : SearchArguments) : Prop where
  filter : ∃ c, parseFilter a.filter.filter = .ok c
  sort : ∀ name ∈ a.filter.sort, ∃ k, Key.find name = .ok k
  offset : 0 ≤ a.offset
  limit : 0 ≤ a.limit
  live : a.dryRun = false
  connection : ∃ settings url server, a.settings w = .ok settings ∧
    settings.databaseUrl = some url ∧ w.client url settings.maxConnections = .ok server

/-- With a parameter there is a heading for the parameters. -/
theorem statementLines_eq_printed (w : Surroundings) (indent : String) (h : s.params ≠ []) :
    statementLines w indent s = printed (paint w.colours) indent s := by
  have hline (i : Nat) (v : Value) :
      "  " ++ placeholder (i + 1) ++ " = " ++ paint w.colours (.plain .yellow) v.display =
        "  $" ++ Nat.repr (i + 1) ++ " = " ++ paint w.colours (.plain .yellow) v.display :=
    congrArg (· ++ " = " ++ _) (@String.append_assoc "  " "$" (Nat.repr (i + 1))).symm
  rw [statementLines, parameterLines, if_neg (by simpa using h)]
  simp only [hline]
  rfl

theorem params_build_ne_nil (q : Query) : q.build.params ≠ [] := by
  simp [q.condition.leaves_ne_nil]

/-- The fixed parts of a search around the text and the number of parameters of its query. -/
theorem sql_eq (sql : String) (n : Nat) : selectHead ++ sql ++ pageTail n =
    "SELECT \"id\", \"name\", \"type\", \"release_date\" FROM \"release_groups\" WHERE " ++
      sql ++ " LIMIT $" ++ Nat.repr (n + 1) ++ " OFFSET $" ++ Nat.repr (n + 2) := by
  have hhead : selectHead =
      "SELECT \"id\", \"name\", \"type\", \"release_date\" FROM \"release_groups\" WHERE " := by
    decide
  have hplaceholder (k : Nat) : placeholder k = "$" ++ Nat.repr k := rfl
  have htail : pageTail n = " LIMIT $" ++ Nat.repr (n + 1) ++ " OFFSET $" ++ Nat.repr (n + 2) := by
    simp only [pageTail, hplaceholder, ← String.toList_inj, String.toList_append,
      List.append_assoc]
    rfl
  simp only [hhead, htail, String.append_assoc]

theorem shown_of_valid (hq : a.filter.query = .ok q) (hs : search q a.page = .ok s)
    (h : a.settings w = .ok settings) : Shown (paint w.colours) w a q.build s := by
  have hdry : run w (.search { a with dryRun := true }) = .ok (statementLines w "" s) none :=
    run_of_dryRun hq hs h rfl
  obtain ⟨before, hexplain⟩ := run_explain (w := w) hq
  obtain ⟨-, rfl⟩ := search_eq_ok_iff.1 hs
  rw [statementLines_eq_printed w "" (by simp)] at hdry
  rw [statementLines_eq_printed w "  " (params_build_ne_nil q)] at hexplain
  exact ⟨hdry, ⟨before, hexplain⟩, sql_eq q.build.sql q.build.params.length, rfl⟩

theorem isSome_sent_iff : (run w (.search a)).sent.isSome ↔ Sendable w a := by
  constructor
  · intro hsent
    cases course w a with
    | refused _ report =>
      rw [report] at hsent
      cases hsent
    | shown _ report =>
      rw [report] at hsent
      cases hsent
    | sent _ _ query statement valid live address connection =>
      obtain ⟨hfilter, hsort⟩ := (exists_query_iff a.filter).1 ⟨_, query⟩
      obtain ⟨⟨hoffset, hlimit⟩, -⟩ := search_eq_ok_iff.1 statement
      exact ⟨hfilter, hsort, hoffset, hlimit, live, _, _, _, valid, address, connection⟩
  · rintro ⟨hfilter, hsort, hoffset, hlimit, hlive, settings, url, server, hvalid, hurl, hclient⟩
    obtain ⟨q, hq⟩ := (exists_query_iff a.filter).2 ⟨hfilter, hsort⟩
    have hs : search q a.page = .ok _ := search_eq_ok_iff.2 ⟨⟨hoffset, hlimit⟩, rfl⟩
    rw [run_of_url hq hs hvalid hlive hurl, sent_runLive hs hurl hclient]
    rfl

/-- What succeeds, or sends something, has a statement. -/
theorem exists_statement (h : (run w (.search a)).exit = 0 ∨ (run w (.search a)).sent.isSome) :
    ∃ q s settings, a.filter.query = .ok q ∧ search q a.page = .ok s ∧
      a.settings w = .ok settings := by
  cases course w a with
  | refused _ report =>
    rw [report] at h
    obtain hexit | hsent := h
    · cases hexit
    · cases hsent
  | shown _ _ query statement valid => exact ⟨_, _, _, query, statement, valid⟩
  | sent _ _ query statement valid => exact ⟨_, _, _, query, statement, valid⟩

/-- What is sent is the statement of the search. -/
theorem eq_request_of_sent {x : SearchFilter.Request} (hq : a.filter.query = .ok q)
    (hs : search q a.page = .ok s) (h : (run w (.search a)).sent = some x) : x = s.request := by
  cases course w a with
  | refused _ report =>
    rw [report] at h
    cases h
  | shown _ report =>
    rw [report] at h
    cases h
  | sent _ report query statement =>
    cases hq.symm.trans query
    cases hs.symm.trans statement
    exact Option.some_inj.1 (h.symm.trans report)

/-- The statement that is sent is the one a dry run shows, and an explanation shows its fragment; if
output is not painted, it has nothing but these texts. Nothing is sent unless every part is valid, and
the first part that is not is told. -/
theorem search_agrees (w : Surroundings) (a : SearchArguments) :
    ((run w (.search { a with dryRun := true })).exit = 0 ∨ (run w (.search a)).sent.isSome →
        ∃ fragment whole, Shown (paint w.colours) w a fragment whole ∧
          (w.colours = false → Shown (fun _ text => text) w a fragment whole) ∧
          ∀ x, (run w (.search a)).sent = some x →
            x.sql = whole.sql ∧ x.binds = whole.params.map Value.bind) ∧
      ((run w (.search a)).sent.isSome ↔ Sendable w a) ∧
      (∀ text, Part.all.findSome? (Part.complaint? w a) = some text → run w (.search a) =
        ⟨1, "", paint w.colours (.bold .red) "Error:" ++ " " ++ text ++ "\n", none⟩) ∧
      (Part.all.findSome? (Part.complaint? w a) = none →
        (run w (.search a)).exit = 0 ∨ (run w (.search a)).sent.isSome) := by
  refine ⟨?_, isSome_sent_iff, ?_, ?_⟩
  · intro h
    obtain ⟨q, s, settings, hq, hs, hsettings⟩ :
        ∃ q s settings, a.filter.query = .ok q ∧ search q a.page = .ok s ∧
          a.settings w = .ok settings := by
      obtain hdry | hlive := h
      · exact exists_statement (a := { a with dryRun := true }) (.inl hdry)
      · exact exists_statement (.inr hlive)
    have hshown := shown_of_valid hq hs hsettings
    refine ⟨_, s, hshown, ?_, fun x hx => ?_⟩
    · intro hcolours
      have hplain : paint w.colours = fun _ text => text := by
        funext style text
        rw [paint, hcolours, if_neg Bool.false_ne_true]
      exact hplain ▸ hshown
    · obtain rfl := eq_request_of_sent hq hs hx
      exact ⟨rfl, rfl⟩
  · intro text htext
    cases course w a with
    | refused complaint report =>
      cases htext.symm.trans complaint
      exact report
    | shown complaint => cases htext.symm.trans complaint
    | sent complaint => cases htext.symm.trans complaint
  · intro h
    cases course w a with
    | refused complaint => cases h.symm.trans complaint
    | shown _ report =>
      rw [report]
      exact .inl rfl
    | sent _ report =>
      rw [report]
      exact .inr rfl

/-- A server that is always there, accepts everything and finds nothing, and no files. -/
def quiet : Surroundings where
  colours := false
  databaseUrl := none
  files := fun _ => .missing
  usualConfig := none
  report := fun _ _ => "not settings"
  client := fun _ _ => .ok ⟨none, [], []⟩

/-- The same with a server that refuses everything. -/
def refusing : Surroundings := { quiet with client := fun _ _ => .error "refused" }

/-- A search in which nothing is at fault. -/
def plainSearch : SearchArguments where
  filter := ⟨"id=1", some "name", true⟩
  limit := 25
  offset := 0
  dryRun := false
  format := .table
  databaseUrl := some "postgres://localhost"
  config := none

/-- The same with faults in the column to sort by and in the page. -/
def faultySearch : SearchArguments :=
  { plainSearch with filter := ⟨"id=1", some "Name", true⟩, offset := -1 }

/-- The query of a search in which nothing is at fault. -/
def plainQuery : Query :=
  ⟨.compare (.plain "id") .eq (.int 1), some ⟨.plain "name", .descending⟩⟩

theorem parseFilter_plain : parseFilter "id=1" = .ok (.compare (.plain "id") .eq (.int 1)) :=
  Filter.parse_eq_ok_iff.2
    ⟨.one (.one (.clause (.compact "id" .eq (.bare "1".toList)))), by decide, by decide⟩

theorem query_plainSearch : plainSearch.filter.query = .ok plainQuery := by
  simp only [plainSearch, FilterArguments.query, query, parseFilter_plain]
  rfl

theorem query_faultySearch : faultySearch.filter.query = .error (.unknownColumn "Name") := by
  simp only [faultySearch, plainSearch, FilterArguments.query, query, parseFilter_plain]
  rfl

/-- Output of a search and an explanation without colours, of a dry run with them, and three searches
with faults: the column before the offset, the settings before the connection, and the connection. -/
theorem search_agrees_quiet :
    (∃ fragment whole, Shown (fun _ text => text) quiet plainSearch fragment whole ∧
      (run quiet (.search plainSearch)).sent =
        some ⟨whole.sql, whole.params.map Value.bind⟩) ∧
    (run quiet (.search plainSearch)).sent =
      some ⟨"SELECT \"id\", \"name\", \"type\", \"release_date\" FROM \"release_groups\" WHERE " ++
        "\"id\" = $1 ORDER BY \"name\" DESC LIMIT $2 OFFSET $3",
        [.int8 1, .int8 25, .int8 0]⟩ ∧
    run quiet (.search { plainSearch with dryRun := true }) =
      ⟨0, "Generated SQL:\n" ++
        "SELECT \"id\", \"name\", \"type\", \"release_date\" FROM \"release_groups\" WHERE " ++
        "\"id\" = $1 ORDER BY \"name\" DESC LIMIT $2 OFFSET $3\n" ++
        "\nParameters:\n  $1 = 1\n  $2 = 25\n  $3 = 0\n", "", none⟩ ∧
    run quiet (.explain plainSearch.filter) =
      ⟨0, "Filter Explanation\n\nFilter: id=1\n\n" ++
        "Tokens:\n  Column(id)\n  =\n  Placeholder(1)\n  ORDER BY\n  Column(name)\n  DESC\n\n" ++
        "Generated SQL:\n  \"id\" = $1 ORDER BY \"name\" DESC\n" ++
        "\nParameters:\n  $1 = 1\n", "", none⟩ ∧
    run { quiet with colours := true } (.search { plainSearch with dryRun := true }) =
      ⟨0, "\x1b[1;32mGenerated SQL:\x1b[0m\n\x1b[37m" ++
        "SELECT \"id\", \"name\", \"type\", \"release_date\" FROM \"release_groups\" WHERE " ++
        "\"id\" = $1 ORDER BY \"name\" DESC LIMIT $2 OFFSET $3\x1b[0m\n" ++
        "\n\x1b[36mParameters:\x1b[0m\n  $1 = \x1b[33m1\x1b[0m\n" ++
        "  $2 = \x1b[33m25\x1b[0m\n  $3 = \x1b[33m0\x1b[0m\n", "", none⟩ ∧
    run quiet (.search faultySearch) = ⟨1, "", "Error: Unknown column: 'Name'\n", none⟩ ∧
    run refusing (.search { plainSearch with config := some "none.toml" }) =
      ⟨1, "", "Error: IO error: No such file or directory (os error 2): " ++
        "No such file or directory (os error 2)\n", none⟩ ∧
    run refusing (.search plainSearch) =
      ⟨1, "", "Error: failed to open the database pool: Connection error: refused\n", none⟩ := by
  have hsendable : Sendable quiet plainSearch := by
    refine ⟨⟨_, parseFilter_plain⟩, ?_, by decide, by decide, rfl, _, "postgres://localhost",
      _, rfl, rfl, rfl⟩
    rintro name ⟨⟩
    exact ⟨.name, rfl⟩
  have hsent := (search_agrees quiet plainSearch).2.1.2 hsendable
  obtain ⟨x, hx⟩ := Option.isSome_iff_exists.1 hsent
  obtain ⟨fragment, whole, -, hshown, hrequest⟩ :=
    (search_agrees quiet plainSearch).1 (.inr hsent)
  have hfaulty : Part.all.findSome? (Part.complaint? quiet faultySearch) =
      some "Unknown column: 'Name'" := by
    rw [findSome?_complaint?, query_faultySearch]
    decide
  have hmissing : Part.all.findSome?
      (Part.complaint? refusing { plainSearch with config := some "none.toml" }) =
        some ("IO error: No such file or directory (os error 2): " ++
          "No such file or directory (os error 2)") := by
    rw [findSome?_complaint?, query_plainSearch]
    decide
  have hrefused : Part.all.findSome? (Part.complaint? refusing plainSearch) =
      some "failed to open the database pool: Connection error: refused" := by
    rw [findSome?_complaint?, query_plainSearch]
    decide
  refine ⟨⟨fragment, whole, hshown rfl, ?_⟩, ?_, ?_, ?_, ?_, ?_, ?_, ?_⟩
  · obtain ⟨hsql, hbinds⟩ := hrequest x hx
    rw [hx, ← hsql, ← hbinds]
  · simp only [run, runSearch, query_plainSearch]
    decide +kernel
  · simp only [run, runSearch, query_plainSearch]
    decide +kernel
  · simp only [run, runExplain, query_plainSearch]
    decide +kernel
  · simp only [run, runSearch, query_plainSearch]
    decide +kernel
  · exact (search_agrees quiet faultySearch).2.2.1 _ hfaulty
  · exact (search_agrees refusing { plainSearch with config := some "none.toml" }).2.2.1 _ hmissing
  · exact (search_agrees refusing plainSearch).2.2.1 _ hrefused

end SearchFilter.CommandLine
