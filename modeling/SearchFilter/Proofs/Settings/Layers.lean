import SearchFilter.Proofs.Toml.Keys
import SearchFilter.Settings

/-!
# Layers of settings

Settings come in layers: the defaults, a document, and addresses of the database that are given later
(`ofToml_layered`). An entry of a document changes only the setting that its key owns (`Owns`), and no
key is given twice; hence a key that is there decides its setting wherever it stands, and a key that
is not there leaves it to the defaults. Of the addresses only the last one that is given counts.
-/

namespace SearchFilter.Settings

open Toml (Entries)

variable {s s' : Settings} {es : Entries} {k key : Toml.Key} {v : Toml} {report : Reporter}

/-! ## Entries -/

/-- The key of the address of the database. -/
def urlKey : Toml.Key := "database_url".toList

/-- The key of the number of connections. -/
def connectionsKey : Toml.Key := "max_connections".toList

/-- What an entry does to settings. -/
inductive Sets (s : Settings) : Toml.Key → Toml → Settings → Prop where
  | url (text : List Char) :
      Sets s urlKey (.string text) { s with databaseUrl := some (String.ofList text) }
  | connections {n : Int} (hmin : 0 ≤ n) (hmax : n ≤ 4294967295) :
      Sets s connectionsKey (.integer n) { s with maxConnections := UInt32.ofNat n.toNat }

theorem set_eq_ok_iff : s.set k v = .ok s' ↔ Sets s k v s' := by
  constructor
  · intro h
    unfold set at h
    split at h
    · next hk =>
      obtain rfl : k = urlKey := hk
      split at h
      · cases h
        exact .url _
      · cases h
    · split at h
      · next hk =>
        obtain rfl : k = connectionsKey := hk
        split at h
        · split at h
          · next hn =>
            cases h
            exact .connections hn.1 (Int.le_sub_one_of_lt hn.2)
          · cases h
        · cases h
      · cases h
  · intro h
    cases h with
    | url text => rfl
    | @connections n hmin hmax =>
      have hn : 0 ≤ n ∧ n < UInt32.size := ⟨hmin, Int.lt_add_one_of_le hmax⟩
      have hkey : connectionsKey = "max_connections".toList := rfl
      rw [set, if_neg (by decide), if_pos hkey]
      exact if_pos hn

/-- An entry that a document of settings may have: an address, or a number of connections from 1 to
the greatest one of 32 bits. -/
inductive Permitted : Toml.Key → Toml → Prop where
  | url (text : List Char) : Permitted urlKey (.string text)
  | connections {n : Int} (hmin : 1 ≤ n) (hmax : n ≤ 4294967295) :
      Permitted connectionsKey (.integer n)

theorem Permitted.eq_or_eq (h : Permitted k v) : k = urlKey ∨ k = connectionsKey := by
  cases h with
  | url => exact .inl rfl
  | connections => exact .inr rfl

/-- No connections at all are not refused by the entry itself. -/
theorem exists_sets_iff :
    (∃ s', Sets s k v s') ↔ Permitted k v ∨ k = connectionsKey ∧ v = .integer 0 := by
  constructor
  · rintro ⟨_, h⟩
    cases h with
    | url text => exact .inl (.url text)
    | @connections n hmin hmax =>
      by_cases hn : n = 0
      · exact .inr ⟨rfl, congrArg _ hn⟩
      · exact .inl (.connections (by omega) hmax)
  · rintro (h | ⟨rfl, rfl⟩)
    · cases h with
      | url text => exact ⟨_, .url text⟩
      | connections hmin hmax => exact ⟨_, .connections (by omega) hmax⟩
    · exact ⟨_, .connections (Int.le_refl 0) (by decide)⟩

/-! ## Documents -/

theorem setAll_cons_eq_ok_iff : s.setAll ((k, v) :: es) = .ok s' ↔
    ∃ t, Sets s k v t ∧ t.setAll es = .ok s' := by
  rw [setAll]
  cases hset : s.set k v with
  | error e =>
    simp only [reduceCtorEq, false_iff]
    rintro ⟨t, ht, -⟩
    cases hset.symm.trans (set_eq_ok_iff.2 ht)
  | ok t =>
    constructor
    · intro h
      exact ⟨t, set_eq_ok_iff.1 hset, h⟩
    · rintro ⟨t', ht', h⟩
      cases hset.symm.trans (set_eq_ok_iff.2 ht')
      exact h

/-- Whether the entries can be added does not depend on the settings they are added to. -/
theorem exists_setAll_iff : (∃ s', s.setAll es = .ok s') ↔
    ∀ e ∈ es, Permitted e.1 e.2 ∨ e.1 = connectionsKey ∧ e.2 = .integer 0 := by
  induction es generalizing s with
  | nil => simp [setAll]
  | cons e es ih =>
    obtain ⟨k, v⟩ := e
    rw [List.forall_mem_cons, ← exists_sets_iff (s := s)]
    constructor
    · rintro ⟨s', h⟩
      obtain ⟨t, ht, hs'⟩ := setAll_cons_eq_ok_iff.1 h
      exact ⟨⟨t, ht⟩, ih.1 ⟨s', hs'⟩⟩
    · rintro ⟨⟨t, ht⟩, hes⟩
      obtain ⟨s', hs'⟩ := (ih (s := t)).2 hes
      exact ⟨s', setAll_cons_eq_ok_iff.2 ⟨t, ht, hs'⟩⟩

section Owns

variable {α : Type} {setting : Settings → α}

/-- Entries with other keys leave the setting as it is. -/
def Owns (key : Toml.Key) (setting : Settings → α) : Prop :=
  ∀ s k v s', Sets s k v s' → k ≠ key → setting s' = setting s

theorem owns_databaseUrl : Owns urlKey databaseUrl := by
  rintro s k v s' h hk
  cases h with
  | url text => exact absurd rfl hk
  | connections => rfl

theorem owns_maxConnections : Owns connectionsKey maxConnections := by
  rintro s k v s' h hk
  cases h with
  | url text => rfl
  | connections => exact absurd rfl hk

/-- A key that is not there leaves its setting as it is. -/
theorem Owns.eq_of_notMem (howns : Owns key setting) (hkey : key ∉ es.map Prod.fst)
    (h : s.setAll es = .ok s') : setting s' = setting s := by
  induction es generalizing s with
  | nil =>
    cases h
    rfl
  | cons e es ih =>
    obtain ⟨k, v⟩ := e
    obtain ⟨hk, hkey⟩ := not_or.1 (mt List.mem_cons.2 hkey)
    obtain ⟨t, ht, h⟩ := setAll_cons_eq_ok_iff.1 h
    exact (ih hkey h).trans (howns s k v t ht (Ne.symm hk))

/-- A key that is there once decides its setting. -/
theorem Owns.exists_sets_of_mem (howns : Owns key setting) (hdistinct : es.Distinct)
    (hmem : (key, v) ∈ es) (h : s.setAll es = .ok s') :
    ∃ t t', Sets t key v t' ∧ setting s' = setting t' := by
  induction es generalizing s with
  | nil => cases hmem
  | cons e es ih =>
    obtain ⟨k, u⟩ := e
    obtain ⟨hk, hes⟩ := List.nodup_cons.1 hdistinct
    obtain ⟨t, ht, hrest⟩ := setAll_cons_eq_ok_iff.1 h
    rcases List.mem_cons.1 hmem with heq | hmem
    · cases heq
      exact ⟨s, t, ht, howns.eq_of_notMem hk hrest⟩
    · exact ih hes hmem hrest

end Owns

/-- The settings are those of the entries, and the defaults where there is no entry. -/
structure Describes (es : Entries) (s : Settings) : Prop where
  url : ∀ text, (urlKey, .string text) ∈ es → s.databaseUrl = some (String.ofList text)
  connections : ∀ n, (connectionsKey, .integer n) ∈ es → (s.maxConnections.toNat : Int) = n
  noUrl : urlKey ∉ es.map Prod.fst → s.databaseUrl = default.databaseUrl
  noConnections : connectionsKey ∉ es.map Prod.fst → s.maxConnections = default.maxConnections

theorem describes_of_setAll (hdistinct : es.Distinct) (h : default.setAll es = .ok s) :
    Describes es s := by
  refine ⟨?_, ?_, ?_, ?_⟩
  · intro text hmem
    obtain ⟨t, t', ht, hs⟩ := owns_databaseUrl.exists_sets_of_mem hdistinct hmem h
    rw [hs]
    cases ht
    rfl
  · intro n hmem
    obtain ⟨t, t', ht, hs⟩ := owns_maxConnections.exists_sets_of_mem hdistinct hmem h
    rw [hs]
    cases ht with
    | connections hmin hmax =>
      rw [UInt32.toNat_ofNat_of_lt' (by show n.toNat < 4294967296; omega), Int.toNat_of_nonneg hmin]
  · exact fun hkey => owns_databaseUrl.eq_of_notMem hkey h
  · exact fun hkey => owns_maxConnections.eq_of_notMem hkey h

/-- That there are no connections is looked at last. -/
theorem ofToml_eq_ok_iff {document : String} (hes : Toml.read? document.toList = some es) :
    ofToml report document = .ok s ↔ default.setAll es = .ok s ∧ s.maxConnections ≠ 0 := by
  have hread : read document = default.setAll es := by rw [read, hes]
  rw [ofToml, hread]
  cases default.setAll es with
  | error fault => simp
  | ok t =>
    by_cases hzero : t.maxConnections = 0
    · simp only [hzero, if_true, reduceCtorEq, Except.ok.injEq, false_iff]
      rintro ⟨rfl, hne⟩
      exact hne hzero
    · simp only [hzero, if_false, Except.ok.injEq, iff_self_and]
      rintro rfl
      exact hzero

/-- Entries that a document may have give at least one connection. -/
theorem Describes.maxConnections_ne_zero (h : Describes es s)
    (hes : ∀ e ∈ es, Permitted e.1 e.2) : s.maxConnections ≠ 0 := by
  intro hzero
  by_cases hkey : connectionsKey ∈ es.map Prod.fst
  · obtain ⟨⟨k, v⟩, hmem, hk⟩ := List.mem_map.1 hkey
    have hpermitted := hes _ hmem
    obtain rfl : k = connectionsKey := hk
    cases hpermitted with
    | connections hmin =>
      have hn := h.connections _ hmem
      rw [hzero] at hn
      exact absurd (hn ▸ hmin) (by decide)
  · have hdefault := h.noConnections hkey
    rw [hzero] at hdefault
    cases hdefault

/-- No connections at all are what is left to refuse once every entry could be added. -/
theorem exists_ofToml_iff {document : String} (hes : Toml.read? document.toList = some es) :
    (∃ s, ofToml report document = .ok s) ↔ ∀ e ∈ es, Permitted e.1 e.2 := by
  have hdistinct := Toml.distinct_of_read? hes
  simp only [ofToml_eq_ok_iff hes]
  constructor
  · rintro ⟨s, hs, hne⟩ ⟨k, v⟩ hmem
    rcases exists_setAll_iff.1 ⟨s, hs⟩ _ hmem with h | ⟨hk, hv⟩
    · exact h
    · obtain rfl : k = connectionsKey := hk
      obtain rfl : v = .integer 0 := hv
      have hzero := (describes_of_setAll hdistinct hs).connections 0 hmem
      exact absurd (UInt32.toNat_inj.1 (Int.ofNat_inj.1 hzero)) hne
  · intro h
    obtain ⟨s, hs⟩ := (exists_setAll_iff (s := default)).2 fun e he => .inl (h e he)
    exact ⟨s, hs, (describes_of_setAll hdistinct hs).maxConnections_ne_zero h⟩

/-! ## Addresses -/

theorem databaseUrl_withDatabaseUrls (s : Settings) (urls : List (Option String)) :
    (s.withDatabaseUrls urls).databaseUrl = (urls.filterMap id).getLast?.or s.databaseUrl := by
  induction urls generalizing s with
  | nil => rfl
  | cons url urls ih =>
    show ((s.withDatabaseUrl url).withDatabaseUrls urls).databaseUrl = _
    rw [ih]
    cases url with
    | none => rfl
    | some u =>
      show _ = ((u :: urls.filterMap id).getLast?).or s.databaseUrl
      rw [List.getLast?_cons]
      cases (urls.filterMap id).getLast? <;> rfl

theorem maxConnections_withDatabaseUrls (s : Settings) (urls : List (Option String)) :
    (s.withDatabaseUrls urls).maxConnections = s.maxConnections := by
  induction urls generalizing s with
  | nil => rfl
  | cons url urls ih =>
    show ((s.withDatabaseUrl url).withDatabaseUrls urls).maxConnections = _
    rw [ih]
    cases url <;> rfl

theorem requireDatabaseUrl_eq_ok_iff {url : String} :
    s.requireDatabaseUrl = .ok url ↔ s.databaseUrl = some url := by
  unfold requireDatabaseUrl
  cases s.databaseUrl <;> simp

theorem exists_requireDatabaseUrl_eq_error_iff :
    (∃ e, s.requireDatabaseUrl = .error e) ↔ s.databaseUrl = none := by
  unfold requireDatabaseUrl
  cases s.databaseUrl <;> simp

theorem databaseUrl_eq_none_iff {document : String} (hes : Toml.read? document.toList = some es)
    (h : ofToml report document = .ok s) : s.databaseUrl = none ↔ urlKey ∉ es.map Prod.fst := by
  have hpermitted := (exists_ofToml_iff hes).1 ⟨s, h⟩
  have hdescribes :=
    describes_of_setAll (Toml.distinct_of_read? hes) ((ofToml_eq_ok_iff hes).1 h).1
  constructor
  · intro hnone hkey
    obtain ⟨⟨k, v⟩, hmem, hk⟩ := List.mem_map.1 hkey
    have hentry := hpermitted _ hmem
    obtain rfl : k = urlKey := hk
    cases hentry with
    | url text => cases hnone.symm.trans (hdescribes.url text hmem)
  · exact hdescribes.noUrl

/-- A document has settings exactly if every entry may stand in one; the settings are those of the
entries, and the defaults where there is no entry. The address of the database is then the last one
that is given later, or else that of the document, and nothing else changes; there is none only if
neither the document nor anything later gives one. -/
theorem ofToml_layered (report : Reporter) (document : String) (es : Entries)
    (hes : Toml.read? document.toList = some es) :
    es.Distinct ∧ ((∃ s, ofToml report document = .ok s) ↔ ∀ e ∈ es, Permitted e.1 e.2) ∧
    ∀ s, ofToml report document = .ok s → Describes es s ∧ 1 ≤ s.maxConnections.toNat ∧
      ∀ urls : List (Option String),
        (s.withDatabaseUrls urls).databaseUrl = (urls.filterMap id).getLast?.or s.databaseUrl ∧
        (s.withDatabaseUrls urls).maxConnections = s.maxConnections ∧
        (∀ url, (s.withDatabaseUrls urls).requireDatabaseUrl = .ok url ↔
          (s.withDatabaseUrls urls).databaseUrl = some url) ∧
        ((∃ e, (s.withDatabaseUrls urls).requireDatabaseUrl = .error e) ↔
          urlKey ∉ es.map Prod.fst ∧ ∀ url ∈ urls, url = none) := by
  have hdistinct := Toml.distinct_of_read? hes
  refine ⟨hdistinct, exists_ofToml_iff hes, ?_⟩
  intro s hs
  obtain ⟨hset, hne⟩ := (ofToml_eq_ok_iff hes).1 hs
  have hpos : 1 ≤ s.maxConnections.toNat :=
    Nat.one_le_iff_ne_zero.2 fun hzero => hne (UInt32.toNat_inj.1 hzero)
  refine ⟨describes_of_setAll hdistinct hset, hpos, ?_⟩
  intro urls
  refine ⟨databaseUrl_withDatabaseUrls s urls, maxConnections_withDatabaseUrls s urls,
    fun url => requireDatabaseUrl_eq_ok_iff, ?_⟩
  rw [exists_requireDatabaseUrl_eq_error_iff, databaseUrl_withDatabaseUrls, Option.or_eq_none_iff,
    databaseUrl_eq_none_iff hes hs, List.getLast?_eq_none_iff, List.filterMap_eq_nil_iff, and_comm]
  rfl

/-- The greatest number of connections, and an address after it. -/
def layered : String := "max_connections = 0xffff_ffff\n\"database_url\" = 'postgres://file' # here"

/-- A report without detail. -/
def brief : Reporter := fun _ _ => "not settings"

/-- A key that is none. -/
def misspelt : String := "databse_url = \"postgres://file\""

theorem ofToml_layered_misspelt :
    (∃ es, Toml.read? layered.toList = some es ∧ ∀ e ∈ es, Permitted e.1 e.2) ∧
    (∃ s, ofToml brief layered = .ok s ∧ s.maxConnections = 4294967295 ∧
      (s.withDatabaseUrls [none, some "a", some "b", none]).databaseUrl = some "b" ∧
      (s.withDatabaseUrls [none, none]).requireDatabaseUrl = .ok "postgres://file") ∧
    ¬∃ s, ofToml brief misspelt = .ok s := by
  obtain ⟨es, hes⟩ : ∃ es, Toml.read? layered.toList = some es :=
    Option.isSome_iff_exists.1 (by decide +kernel)
  obtain ⟨es', hes', hkeys⟩ :
      ∃ es, Toml.read? misspelt.toList = some es ∧ es.map Prod.fst = ["databse_url".toList] :=
    Option.map_eq_some_iff.1 (by decide +kernel)
  have hs : ofToml brief layered = .ok ⟨some "postgres://file", 4294967295⟩ := by
    have hread : (ofToml brief layered).toOption = some ⟨some "postgres://file", 4294967295⟩ := by
      decide +kernel
    cases h : ofToml brief layered with
    | error e =>
      rw [h] at hread
      cases hread
    | ok s =>
      rw [h] at hread
      exact congrArg _ (Option.some.inj hread)
  obtain ⟨-, hiff, hlater⟩ := ofToml_layered brief layered es hes
  obtain ⟨-, -, hurls⟩ := hlater _ hs
  refine ⟨⟨es, hes, hiff.1 ⟨_, hs⟩⟩, ⟨_, hs, rfl, (hurls [none, some "a", some "b", none]).1, ?_⟩, ?_⟩
  · exact ((hurls [none, none]).2.2.1 _).2 (hurls [none, none]).1
  · intro h
    have hpermitted := (ofToml_layered brief misspelt es' hes').2.1.1 h
    have hkey : "databse_url".toList ∈ es'.map Prod.fst := by
      rw [hkeys]
      exact List.mem_singleton_self _
    obtain ⟨⟨k, v⟩, hmem, rfl⟩ := List.mem_map.1 hkey
    have hnone : "databse_url".toList ≠ urlKey ∧ "databse_url".toList ≠ connectionsKey := by decide
    rcases (hpermitted _ hmem).eq_or_eq with hk | hk
    · exact hnone.1 hk
    · exact hnone.2 hk

end SearchFilter.Settings
