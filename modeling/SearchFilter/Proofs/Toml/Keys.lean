import Mathlib.Data.List.Nodup
import SearchFilter.Toml.Reader

/-!
# Keys of a document

No key is given twice at the top of a document (`distinct_of_read?`). Each step of the reader keeps
this of the document so far and, as long as no header has come, of the section that is being read,
which is the top itself until then (`Draft.Sound`). What is inside the values is of no concern: a
change below the top gives one of its keys another value, and leaves the key where it is.
-/

namespace SearchFilter.Toml

variable {es : Entries} {k : Key} {v : Toml} {dotted : Bool} {path parents : List Key} {t u : Table}

/-! ## Entries -/

/-- No key is given twice. -/
def Entries.Distinct (es : Entries) : Prop := (es.map Prod.fst).Nodup

theorem Entries.notMem_of_get?_eq_none (h : es.get? k = none) : k ∉ es.map Prod.fst := by
  intro hk
  obtain ⟨e, he, rfl⟩ := List.mem_map.1 hk
  exact List.find?_eq_none.1 (Option.map_eq_none_iff.1 h) e he (beq_self_eq_true e.1)

theorem Entries.Distinct.concat (h : es.Distinct) (hk : k ∉ es.map Prod.fst) (v : Toml) :
    Entries.Distinct (es ++ [(k, v)]) := by
  rw [Distinct, List.map_append, List.map_cons, List.map_nil]
  exact (List.perm_append_singleton k _).nodup_iff.2 (List.nodup_cons.2 ⟨hk, h⟩)

/-- A key that is there keeps its place. -/
theorem Entries.Distinct.put (h : es.Distinct) (k : Key) (v : Toml) :
    Entries.Distinct (es.put k v) := by
  unfold Entries.put
  split
  · have hkeys : (es.map fun e => if e.1 == k then (k, v) else e).map Prod.fst = es.map Prod.fst := by
      rw [List.map_map]
      apply List.map_congr_left
      intro e _
      by_cases he : e.1 = k
      · simp [he]
      · simp [he]
    rw [Distinct, hkeys]
    exact h
  · next hk =>
    apply h.concat
    intro hmem
    obtain ⟨e, he, rfl⟩ := List.mem_map.1 hmem
    exact hk (List.any_eq_true.2 ⟨e, he, beq_self_eq_true e.1⟩)

theorem Entries.Distinct.erase (h : es.Distinct) (k : Key) : Entries.Distinct (es.erase k) :=
  List.Nodup.sublist (List.filter_sublist.map Prod.fst) h

/-! ## Tables -/

/-- A change at the end of a path is of no concern to the keys at the top, unless the path is empty. -/
theorem Table.distinct_of_change? {f : Table → Option Table}
    (hf : ∀ t u : Table, t.entries.Distinct → f t = some u → u.entries.Distinct)
    (h : t.entries.Distinct) (hu : t.change? dotted f path = some u) : u.entries.Distinct := by
  cases path with
  | nil => exact hf t u h hu
  | cons k ks =>
    rw [change?] at hu
    split at hu
    · next hk =>
      obtain ⟨_, -, heq⟩ := Option.bind_eq_some_iff.1 hu
      cases heq
      exact h.concat (Entries.notMem_of_get?_eq_none hk) _
    · split at hu
      · cases hu
      · obtain ⟨_, -, heq⟩ := Option.bind_eq_some_iff.1 hu
        cases heq
        exact h.put k _
    · obtain ⟨_, -, heq⟩ := Option.bind_eq_some_iff.1 hu
      cases heq
      exact h.put k _
    · cases hu

theorem Table.distinct_of_define? (h : t.entries.Distinct) (hu : t.define? parents k v = some u) :
    u.entries.Distinct := by
  refine distinct_of_change? ?_ h hu
  intro t u h hu
  split at hu
  · cases hu
  split at hu
  · cases hu
  next hk =>
    cases hu
    exact h.concat (Entries.notMem_of_get?_eq_none (by simpa using hk)) _

/-! ## Documents -/

namespace Draft

variable {d d' : Draft} {s rest : List Char}

/-- No key is given twice at the top: in the part before the current section, and in the current
section as long as that is the top. -/
structure Sound (d : Draft) : Prop where
  root : d.root.entries.Distinct
  current : d.place = .root → d.current.entries.Distinct

theorem sound_empty : Sound empty := ⟨List.nodup_nil, fun _ => List.nodup_nil⟩

/-- A section is put where nothing is yet, or behind the other elements of an array. -/
theorem Sound.distinct_of_close? (h : d.Sound) (hu : d.close? = some u) : u.entries.Distinct := by
  unfold Draft.close? at hu
  split at hu
  · next hplace =>
    cases hu
    exact h.current hplace
  · refine Table.distinct_of_change? ?_ h.root hu
    intro t u h hu
    split at hu
    · next hk =>
      cases hu
      exact h.concat (Entries.notMem_of_get?_eq_none hk) _
    · cases hu
  · refine Table.distinct_of_change? ?_ h.root hu
    intro t u h hu
    split at hu
    · next hk =>
      cases hu
      exact h.concat (Entries.notMem_of_get?_eq_none hk) _
    · cases hu
      exact h.put _ _
    · cases hu

theorem Sound.define? (h : d.Sound) (hd : d.define? parents k v = some d') : d'.Sound := by
  obtain ⟨t, ht, rfl⟩ := Option.map_eq_some_iff.1 hd
  exact ⟨h.root, fun hplace => Table.distinct_of_define? (h.current hplace) ht⟩

theorem Sound.openTable? (h : d.Sound) (hd : d.openTable? path = some d') : d'.Sound := by
  simp only [Draft.openTable?, Option.bind_eq_bind, Option.bind_eq_some_iff] at hd
  obtain ⟨root, hroot, ⟨parents, k⟩, -, found, -, hd⟩ := hd
  have hdistinct := h.distinct_of_close? hroot
  split at hd
  · cases hd
    exact ⟨hdistinct, nofun⟩
  · obtain ⟨root', hroot', heq⟩ := Option.bind_eq_some_iff.1 hd
    cases heq
    refine ⟨Table.distinct_of_change? ?_ hdistinct hroot', nofun⟩
    rintro t _ h ⟨⟩
    exact h.erase k
  · cases hd

theorem Sound.openElement? (h : d.Sound) (hd : d.openElement? path = some d') : d'.Sound := by
  simp only [Draft.openElement?, Option.bind_eq_bind, Option.bind_eq_some_iff] at hd
  obtain ⟨root, hroot, ⟨parents, k⟩, -, found, -, hd⟩ := hd
  split at hd
  · cases hd
    exact ⟨h.distinct_of_close? hroot, nofun⟩
  · cases hd
    exact ⟨h.distinct_of_close? hroot, nofun⟩
  · cases hd

theorem Sound.takeLine? (h : d.Sound) (hd : takeLine? d s = some (d', rest)) : d'.Sound := by
  simp only [Toml.takeLine?, Option.bind_eq_bind, Option.bind_eq_some_iff] at hd
  obtain ⟨_, -, _, -, _, -, _, -, _, -, d'', hd, heq⟩ := hd
  cases heq
  exact h.define? hd

theorem Sound.takeHeader? (h : d.Sound) (hd : takeHeader? d s = some (d', rest)) : d'.Sound := by
  unfold Toml.takeHeader? at hd
  split at hd
  · simp only [Option.bind_eq_bind, Option.bind_eq_some_iff] at hd
    obtain ⟨_, -, _, -, _, -, d'', hd, heq⟩ := hd
    cases heq
    exact h.openElement? hd
  · simp only [Option.bind_eq_bind, Option.bind_eq_some_iff] at hd
    obtain ⟨_, -, _, -, _, -, d'', hd, heq⟩ := hd
    cases heq
    exact h.openTable? hd

/-- Line by line, the top stays without a key that is given twice. -/
theorem Sound.distinct_of_readLines? {fuel : Nat} (h : d.Sound) (hu : readLines? fuel d s = some u) :
    u.entries.Distinct := by
  induction fuel generalizing d s with
  | zero => cases hu
  | succ fuel ih =>
    unfold Toml.readLines? at hu
    split at hu
    · exact h.distinct_of_close? hu
    · obtain ⟨_, -, hu⟩ := Option.bind_eq_some_iff.1 hu
      exact ih h hu
    · exact ih h hu
    · exact ih h hu
    · obtain ⟨⟨d', rest⟩, hd, hu⟩ := Option.bind_eq_some_iff.1 hu
      exact ih (h.takeHeader? hd) hu
    · obtain ⟨⟨d', rest⟩, hd, hu⟩ := Option.bind_eq_some_iff.1 hu
      exact ih (h.takeLine? hd) hu

end Draft

theorem distinct_of_read? {s : List Char} (h : read? s = some es) : es.Distinct := by
  obtain ⟨t, ht, rfl⟩ := Option.map_eq_some_iff.1 h
  exact Draft.sound_empty.distinct_of_readLines? ht

end SearchFilter.Toml
