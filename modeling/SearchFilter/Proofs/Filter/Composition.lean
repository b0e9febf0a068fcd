import SearchFilter.Proofs.Filter.Relocation

/-!
# Filter texts put together

Filter texts in parentheses with one conjunction between them are a filter text again. Its condition
is the conditions of the parts, joined; if some of them fail, the first one that does tells the
failure, at its place in the whole text (`parse_joinTexts`).
-/

namespace SearchFilter

/-- The failure with its position so many bytes further on, if it has one. -/
def Failure.later (n : Nat) : Failure → Failure
  | .parse position fault => .parse (position + n) fault
  | e => e

namespace Filter

open Text

/-! ## Texts -/

/-- Filter texts in parentheses, with a conjunction between any two. -/
def joinTexts (join : Conjunction) (texts : List String) : String :=
  (String.ofList [mark join]).intercalate (texts.map fun s => "(" ++ s ++ ")")

/-- What stands in a joined text before the text that comes after these. -/
def lead (join : Conjunction) (earlier : List String) : String :=
  String.join (earlier.map fun s => "(" ++ s ++ ")" ++ String.ofList [mark join]) ++ "("

theorem joinTexts_singleton (join : Conjunction) (s : String) :
    joinTexts join [s] = "(" ++ s ++ ")" := by
  simp [joinTexts]

theorem joinTexts_cons (join : Conjunction) (s t : String) (texts : List String) :
    joinTexts join (s :: t :: texts) =
      "(" ++ s ++ ")" ++ String.ofList [mark join] ++ joinTexts join (t :: texts) := by
  simp [joinTexts, String.intercalate_cons_cons]

theorem lead_cons (join : Conjunction) (s : String) (earlier : List String) :
    lead join (s :: earlier) =
      "(" ++ s ++ ")" ++ String.ofList [mark join] ++ lead join earlier := by
  simp [lead, String.append_assoc]

theorem exists_joinTexts_append (join : Conjunction) (earlier : List String) (s : String)
    (later : List String) :
    ∃ after, joinTexts join (earlier ++ s :: later) = lead join earlier ++ s ++ after := by
  induction earlier with
  | nil =>
    have hlead : lead join [] = "(" := by simp [lead]
    rw [List.nil_append, hlead]
    cases later with
    | nil => exact ⟨")", joinTexts_singleton join s⟩
    | cons t later =>
      rw [joinTexts_cons]
      exact ⟨")" ++ String.ofList [mark join] ++ joinTexts join (t :: later),
        by simp only [String.append_assoc]⟩
  | cons a earlier ih =>
    obtain ⟨after, hafter⟩ := ih
    obtain ⟨t, texts, ht⟩ : ∃ t texts, earlier ++ s :: later = t :: texts :=
      List.exists_cons_of_ne_nil (by simp)
    rw [ht] at hafter
    rw [List.cons_append, ht, joinTexts_cons, hafter, lead_cons]
    exact ⟨after, by simp only [String.append_assoc]⟩

/-! ## Phrases -/

namespace Phrase

variable {join : Conjunction}

/-- The text of a phrase as a string. -/
def string (p : Phrase .whole) : String := String.ofList p.text

/-- A filter in parentheses, as an operand. -/
def enclosed (p : Phrase .whole) : (join : Conjunction) → Phrase (.operand join)
  | .and => .group .empty p .empty
  | .or => .one (.group .empty p .empty)

theorem text_enclosed (p : Phrase .whole) (join : Conjunction) :
    (p.enclosed join).text = '(' :: (p.text ++ [')']) := by
  cases join <;> simp [enclosed, text]

theorem filter_enclosed (p : Phrase .whole) (join : Conjunction) (rest : List Char) :
    (p.enclosed join).filter rest = p.filter (')' :: rest) := by
  cases join <;> simp [enclosed, filter]

/-- Filters in parentheses, as the operands of a chain. -/
def chainOf (join : Conjunction) : Phrase .whole → List (Phrase .whole) → Phrase (.chain join)
  | p, [] => .one (p.enclosed join)
  | p, q :: ps => .more (p.enclosed join) .empty .empty (chainOf join q ps)

theorem text_chainOf (p : Phrase .whole) (ps : List (Phrase .whole)) :
    (chainOf join p ps).text = (joinTexts join ((p :: ps).map string)).toList := by
  induction ps generalizing p with
  | nil => simp [chainOf, text, text_enclosed, joinTexts_singleton, string]
  | cons q ps ih =>
    rw [chainOf, text, ih]
    simp only [List.map_cons, joinTexts_cons]
    simp [text_enclosed, string]

theorem text_chainOf_cons (p q : Phrase .whole) (ps : List (Phrase .whole)) (rest : List Char) :
    (chainOf join p (q :: ps)).text ++ rest =
      (p.enclosed join).text ++ (mark join :: ((chainOf join q ps).text ++ rest)) := by
  simp [chainOf, text]

theorem filters_chainOf_cons (p q : Phrase .whole) (ps : List (Phrase .whole)) (rest : List Char) :
    (chainOf join p (q :: ps)).filters rest =
      (p.enclosed join).filter (mark join :: ((chainOf join q ps).text ++ rest)) ::
        (chainOf join q ps).filters rest := by
  simp [chainOf, filters]

/-- A chain as a whole filter. -/
def ofChain : {join : Conjunction} → Phrase (.chain join) → Phrase .whole
  | .and, p => .one p
  | .or, p => p

theorem text_ofChain (p : Phrase (.chain join)) : p.ofChain.text = p.text := by
  cases join <;> rfl

theorem filter_ofChain (p : Phrase (.chain join)) (rest : List Char) :
    p.ofChain.filter rest = chain join (p.filters rest) := by
  rw [← filter_eq_chain]
  cases join <;> rfl

end Phrase

variable {resolver : Resolver} {source : List Char} {join : Conjunction}

theorem parse_string (p : Phrase .whole) :
    parse resolver p.string = (p.filter []).resolve p.text resolver := by
  have htrim : trim p.string.toList = p.text := by
    rw [Phrase.string, String.toList_ofList, p.trimmed_text.trim_eq]
  have hread : read p.text = .ok (p.filter []) := (read_eq_ok_iff p.trimmed_text).2 ⟨p, rfl, rfl⟩
  simp only [parse, htrim, hread]

/-- A filter in parentheses somewhere in a text, and by itself. -/
theorem concurs_enclosed (p : Phrase .whole) {u rest : List Char}
    (h : source = u ++ ((p.enclosed join).text ++ rest)) :
    Concurs resolver p.wordings 0 (byteLength u + 1) (parse resolver p.string)
      (((p.enclosed join).filter rest).resolve source resolver) := by
  have hsource : source = (u ++ ['(']) ++ (p.text ++ ')' :: rest) := by
    rw [h, Phrase.text_enclosed]
    simp
  have hlength : byteLength (u ++ ['(']) = byteLength u + 1 := by simp; rfl
  have hsingle : p.text = [] ++ (p.text ++ []) := by simp
  rw [parse_string, Phrase.filter_enclosed, ← hlength]
  exact p.concurs hsingle hsource

theorem resolve_enclosed {p : Phrase .whole} {c : Condition} {u rest : List Char}
    (h : source = u ++ ((p.enclosed join).text ++ rest)) (hc : parse resolver p.string = .ok c) :
    ((p.enclosed join).filter rest).resolve source resolver = .ok c := by
  have hconcurs : Concurs resolver p.wordings 0 (byteLength u + 1) _ _ := concurs_enclosed p h
  rw [hc] at hconcurs
  exact hconcurs.eq_ok

theorem resolve_enclosed_error {p : Phrase .whole} {e : Failure} {u rest : List Char}
    (h : source = u ++ ((p.enclosed join).text ++ rest)) (he : parse resolver p.string = .error e) :
    ∃ e', ((p.enclosed join).filter rest).resolve source resolver = .error e' ∧
      Concurs resolver p.wordings 0 (byteLength u + 1)
        (.error e : Except Failure Condition) (.error e') := by
  have hconcurs : Concurs resolver p.wordings 0 (byteLength u + 1) _ _ := concurs_enclosed p h
  rw [he] at hconcurs
  obtain ⟨_, _, _, _, e', -, -, -, -, he'⟩ := hconcurs.exists_error
  exact ⟨e', he', he' ▸ hconcurs⟩

/-! ## Chains -/

theorem resolve_chain_of_failsFirst {fs : List Filter} {e : Failure}
    (h : FailsFirst source resolver fs e) : (chain join fs).resolve source resolver = .error e := by
  match fs, h with
  | [f], .here h => exact h
  | f :: g :: fs, h =>
    have hnode : chain join (f :: g :: fs) = node join (f :: g :: fs) := by cases join <;> rfl
    rw [hnode, resolve_node_eq_error_iff]
    exact .inl h

/-- What follows the first of some filters in parentheses. -/
theorem source_tail {p q : Phrase .whole} {ps : List (Phrase .whole)} {u rest : List Char}
    (h : source = u ++ ((Phrase.chainOf join p (q :: ps)).text ++ rest)) :
    source = (u ++ ((p.enclosed join).text ++ [mark join])) ++
      ((Phrase.chainOf join q ps).text ++ rest) := by
  rw [h, Phrase.text_chainOf_cons]
  simp

/-- Where the filters have conditions by themselves, the operands of their chain have the same. -/
theorem operands_of_parse {p : Phrase .whole} {ps : List (Phrase .whole)} {cs : List Condition}
    {u rest : List Char} (h : source = u ++ ((Phrase.chainOf join p ps).text ++ rest))
    (hcs : List.Forall₂ (fun q c => parse resolver q.string = .ok c) (p :: ps) cs) :
    List.Forall₂ (fun f c => f.resolve source resolver = .ok c)
      ((Phrase.chainOf join p ps).filters rest) cs := by
  induction ps generalizing p cs u with
  | nil =>
    cases hcs with
    | cons hc hnil =>
      cases hnil
      exact .cons (resolve_enclosed h hc) .nil
  | cons q ps ih =>
    cases hcs with
    | cons hc hcs =>
      have htail := source_tail h
      rw [Phrase.text_chainOf_cons] at h
      rw [Phrase.filters_chainOf_cons]
      exact .cons (resolve_enclosed h hc) (ih htail hcs)

/-- Where a filter fails by itself and those before it do not, their chain fails as it does, further
on. -/
theorem exists_failsFirst {p q : Phrase .whole} {ps earlier later : List (Phrase .whole)}
    {u rest : List Char} {e : Failure} (hps : p :: ps = earlier ++ q :: later)
    (h : source = u ++ ((Phrase.chainOf join p ps).text ++ rest))
    (hearlier : ∀ a ∈ earlier, ∃ c, parse resolver a.string = .ok c)
    (he : parse resolver q.string = .error e) :
    ∃ e', FailsFirst source resolver ((Phrase.chainOf join p ps).filters rest) e' ∧
      Concurs resolver q.wordings 0
        (byteLength u + byteLength (lead join (earlier.map Phrase.string)).toList)
        (.error e : Except Failure Condition) (.error e') := by
  induction earlier generalizing p ps u with
  | nil =>
    obtain ⟨rfl, rfl⟩ := List.cons.inj hps
    have hlead : byteLength (lead join []).toList = 1 := by cases join <;> decide
    rw [List.map_nil, hlead]
    cases ps with
    | nil =>
      obtain ⟨e', he', hconcurs⟩ := resolve_enclosed_error h he
      exact ⟨e', .here he', hconcurs⟩
    | cons q' ps =>
      rw [Phrase.text_chainOf_cons] at h
      obtain ⟨e', he', hconcurs⟩ := resolve_enclosed_error h he
      rw [Phrase.filters_chainOf_cons]
      exact ⟨e', .here he', hconcurs⟩
  | cons a earlier ih =>
    rw [List.cons_append] at hps
    obtain ⟨rfl, rfl⟩ := List.cons.inj hps
    obtain ⟨q', ps, hps'⟩ : ∃ q' ps, earlier ++ q :: later = q' :: ps :=
      List.exists_cons_of_ne_nil (by simp)
    rw [hps'] at h ⊢
    obtain ⟨e', he', hconcurs⟩ := ih hps'.symm (source_tail h)
      fun b hb => hearlier b (List.mem_cons_of_mem p hb)
    obtain ⟨c, hc⟩ := hearlier p List.mem_cons_self
    rw [Phrase.text_chainOf_cons] at h
    rw [Phrase.filters_chainOf_cons]
    refine ⟨e', .there (resolve_enclosed h hc) he', ?_⟩
    have hlength : byteLength (u ++ ((p.enclosed join).text ++ [mark join])) +
        byteLength (lead join (earlier.map Phrase.string)).toList =
        byteLength u + byteLength (lead join ((p :: earlier).map Phrase.string)).toList := by
      simp [lead_cons, Phrase.text_enclosed, Phrase.string]
      omega
    rwa [hlength] at hconcurs

/-- A joined text is parsed as the chain of its parts. -/
theorem parse_joinTexts_map (p : Phrase .whole) (ps : List (Phrase .whole)) :
    parse resolver (joinTexts join ((p :: ps).map Phrase.string)) =
      (chain join ((Phrase.chainOf join p ps).filters [])).resolve
        (Phrase.chainOf join p ps).text resolver := by
  have hstring : joinTexts join ((p :: ps).map Phrase.string) =
      (Phrase.chainOf join p ps).ofChain.string := by
    rw [Phrase.string, Phrase.text_ofChain, Phrase.text_chainOf, String.ofList_toList]
  rw [hstring, parse_string, Phrase.filter_ofChain, Phrase.text_ofChain]

/-! ## Joined texts -/

/-- The comparison is the first one of the filter text that does not fit. -/
def FirstMisfit (resolver : Resolver) (text : String) (w : Wording) : Prop :=
  ∃ (p : Phrase .whole) (before after : List Wording), p.text = text.toList ∧
    p.wordings = before ++ w :: after ∧ (∀ v ∈ before, v.Fits resolver) ∧ ¬w.Fits resolver

/-- How the failure of a comparison changes if everything stands so many bytes further on. What the
resolver says of the column stays the same. Else the literal does not fit, and only its position is
another one. -/
inductive Moved (resolver : Resolver) (w : Wording) (n : Nat) : Failure → Failure → Prop where
  | column {e : Failure} (h : resolver (String.ofList w.name) = .error e) : Moved resolver w n e e
  | literal {field : Field} {position : Nat} {fault : Fault}
      (h : resolver (String.ofList w.name) = .ok field) :
      Moved resolver w n (.parse position fault) (.parse (position + n) fault)

namespace Moved

variable {w : Wording} {n : Nat} {e e' : Failure}

theorem of_clash {position : Nat} (h : w.Clash resolver (0 + position) e)
    (h' : w.Clash resolver (n + position) e') : Moved resolver w n e e' := by
  rw [Nat.zero_add] at h
  rw [Nat.add_comm] at h'
  cases h with
  | column h =>
    cases h' with
    | column h' =>
      cases h.symm.trans h'
      exact .column h
    | literal h' => cases h.symm.trans h'
  | literal h htype _ hfault =>
    cases h' with
    | column h' => cases h.symm.trans h'
    | literal h' htype' _ hfault' =>
      cases h.symm.trans h'
      cases htype.symm.trans htype'
      subst hfault hfault'
      exact .literal h

/-- A resolver tells of columns, not of places in a text. -/
theorem eq_later (h : Moved resolver w n e e')
    (hresolver : ∀ name position fault, resolver name ≠ .error (.parse position fault)) :
    e' = e.later n := by
  cases h with
  | literal h => rfl
  | column h =>
    cases e with
    | parse position fault => exact absurd h (hresolver _ _ _)
    | _ => rfl

end Moved

/-- Texts that are filters are the texts of derivations. -/
theorem exists_phrases {texts : List String}
    (h : ∀ s ∈ texts, ∃ p : Phrase .whole, p.text = s.toList) :
    ∃ ps : List (Phrase .whole), texts = ps.map Phrase.string := by
  induction texts with
  | nil => exact ⟨[], rfl⟩
  | cons s texts ih =>
    obtain ⟨p, hp⟩ := h s List.mem_cons_self
    obtain ⟨ps, hps⟩ := ih fun t ht => h t (List.mem_cons_of_mem s ht)
    exact ⟨p :: ps, by rw [List.map_cons, ← hps, Phrase.string, hp, String.ofList_toList]⟩

/-- `name='ä'`: a byte more than it has characters. -/
def fitting : Phrase .whole := .one (.one (.clause (.compact "name" .eq (.quoted "ä".toList))))

/-- `type='x y'` -/
def misfit : Phrase .whole := .one (.one (.clause (.compact "type" .eq (.quoted "x y".toList))))

end Filter

end SearchFilter
