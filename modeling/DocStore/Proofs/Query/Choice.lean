import DocStore.Proofs.Query.Walking

/-!
# One choice of documents

All statements of a query work on the same documents.  Two things could make them
differ, and both are said: rows that are equal in the order of a query with a window
(`Scan.IsDecided` excludes them), and a table with a name that a walk takes for
itself.

* `Scan.Picks.perm`, `Scan.PicksNumbered.picks`: what a scan picks is decided, with
  numbers and without.
* `Walk.Visits.id_mem_iff`: two walks from seeds that are decided reach the same rows.
* `Query.Agrees` puts the commands of a query side by side.
-/

namespace DocStore

open Sql

variable {Doc : Type} {e : Engine Doc} {ps : List Param} {rows : List (DocRow Doc)}

/-! ## Scans -/

namespace Scan

variable {s : Scan} {picked picked' : List (DocRow Doc)}

/-- What a scan picks does not depend on the order of equal rows: there is no window, or no two
rows under the filter are equal in the order. -/
def IsDecided (s : Scan) (e : Engine Doc) (ps : List Param) (rows : List (DocRow Doc)) : Prop :=
  (s.limit = none ∧ s.offset = none) ∨
    ∀ a ∈ s.kept e ps rows, ∀ b ∈ s.kept e ps rows,
      e.rowLe s.order a b = true → e.rowLe s.order b a = true → a = b

theorem exists_picks (s : Scan) (e : Engine Doc) (ps : List Param) (rows : List (DocRow Doc)) :
    ∃ picked, s.Picks e ps rows picked := by
  obtain ⟨ordered, hordered⟩ :=
    exists_arranged (e.rowLe_trans s.order) (e.rowLe_total s.order) (s.kept e ps rows)
  exact ⟨_, ordered, hordered, rfl⟩

theorem Picks.subperm (h : s.Picks e ps rows picked) : picked.Subperm (s.kept e ps rows) := by
  obtain ⟨ordered, hordered, rfl⟩ := h
  exact (window_sublist _ _ _).subperm.trans hordered.1.subperm

theorem Picks.perm_kept (h : s.Picks e ps rows picked) (hlimit : s.limit = none)
    (hoffset : s.offset = none) : picked.Perm (s.kept e ps rows) := by
  obtain ⟨ordered, hordered, rfl⟩ := h
  rw [hlimit, hoffset]
  exact hordered.1

theorem Picks.perm (h : s.Picks e ps rows picked) (h' : s.Picks e ps rows picked')
    (hdecided : s.IsDecided e ps rows) : picked.Perm picked' := by
  rcases hdecided with ⟨hlimit, hoffset⟩ | htotal
  · exact (h.perm_kept hlimit hoffset).trans (h'.perm_kept hlimit hoffset).symm
  · obtain ⟨ordered, hordered, rfl⟩ := h
    obtain ⟨ordered', hordered', rfl⟩ := h'
    have hperm := hordered.1.trans hordered'.1.symm
    have heq : ordered = ordered' := by
      refine List.Perm.eq_of_pairwise (fun a b ha hb => ?_) hordered.2 hordered'.2 hperm
      exact htotal a (hordered.1.mem_iff.1 ha) b (hordered'.1.mem_iff.1 hb)
    rw [heq]

/-- Without their numbers seeds are rows that the scan picks. -/
theorem PicksNumbered.picks {numbering : List SortTerm} {seeds : List (DocRow Doc × Nat)}
    (h : s.PicksNumbered e ps numbering rows seeds) :
    s.Picks e ps rows (seeds.map Prod.fst) := by
  obtain ⟨numbered, ordered, hnumbered, hordered, rfl⟩ := h
  have hfirst : (ordered.map Prod.fst).Perm (s.kept e ps rows) := by
    have hperm := hordered.1.map Prod.fst
    rw [List.zipIdx_map_fst] at hperm
    exact hperm.trans hnumbered.1
  exact ⟨ordered.map Prod.fst, ⟨hfirst, List.pairwise_map.2 hordered.2⟩, map_window _ _ _ _⟩

end Scan

/-! ## Rows and their ids -/

/-- Rows of a table are found by their ids. -/
theorem filter_id_mem_perm (hids : (rows.map DocRow.id).Nodup) {picked : List (DocRow Doc)}
    (hpicked : picked.Subperm rows) :
    (rows.filter (·.id ∈ picked.map DocRow.id)).Perm picked := by
  refine (List.perm_ext_iff_of_nodup (hids.of_map.filter _) ?_).2 fun r => ?_
  · obtain ⟨picked', hperm, hsub⟩ := hpicked
    exact hperm.nodup_iff.1 (hids.of_map.sublist hsub)
  · rw [List.mem_filter, decide_eq_true_eq, List.mem_map]
    constructor
    · rintro ⟨hr, r', hr', hid⟩
      exact List.inj_on_of_nodup_map hids (hpicked.subset hr') hr hid ▸ hr'
    · exact fun hr => ⟨hpicked.subset hr, r, hr, rfl⟩

theorem filter_id_notMem_congr {picked picked' : List (DocRow Doc)} (h : picked.Perm picked') :
    rows.filter (·.id ∉ picked.map DocRow.id) = rows.filter (·.id ∉ picked'.map DocRow.id) := by
  refine List.filter_congr fun r _ => ?_
  rw [decide_eq_decide, (h.map DocRow.id).mem_iff]

/-- What is left without the ids of some rows are the other rows. -/
theorem filter_id_notMem_filter (hids : (rows.map DocRow.id).Nodup) (p : DocRow Doc → Bool) :
    rows.filter (·.id ∉ (rows.filter p).map DocRow.id) = rows.filter (!p ·) := by
  refine List.filter_congr fun r hr => ?_
  have hid : r.id ∈ (rows.filter p).map DocRow.id ↔ p r = true := by
    rw [List.mem_map]
    constructor
    · rintro ⟨r', hr', hid⟩
      obtain ⟨hrow, hp⟩ := List.mem_filter.1 hr'
      exact List.inj_on_of_nodup_map hids hrow hr hid ▸ hp
    · exact fun hp => ⟨r, List.mem_filter.2 ⟨hr, hp⟩, rfl⟩
  simp only [decide_not, hid, Bool.decide_eq_true]

/-! ## Walks -/

namespace Walk

variable {w : Walk} {db db' : Tables Doc} {visits visits' : List (Visit Doc)}

/-- The rows of a walk, with what it covers. -/
theorem Visits.covers (h : w.Visits e ps db visits) (hstart : db w.seeds.table = some rows)
    (hrows : db w.table = some rows) :
    ∃ seeds, w.seeds.PicksNumbered e ps w.numbering rows seeds ∧ w.Covers e rows seeds visits := by
  obtain ⟨start, rows', seeds, n, hstart', hrows', hpicks, hlevel, rfl⟩ := h
  obtain rfl : rows = start := Option.some.inj (hstart.symm.trans hstart')
  obtain rfl : rows = rows' := Option.some.inj (hrows.symm.trans hrows')
  exact ⟨seeds, hpicks, covers_of_level_eq_nil hlevel⟩

/-- A walk depends on its two tables alone. -/
theorem Visits.of_tables (h : w.Visits e ps db visits)
    (hstart : db w.seeds.table = db' w.seeds.table) (hrows : db w.table = db' w.table) :
    w.Visits e ps db' visits := by
  obtain ⟨start, rows', seeds, n, hstart', hrows', hrest⟩ := h
  exact ⟨start, rows', seeds, n, hstart ▸ hstart', hrows ▸ hrows', hrest⟩

/-- Two walks whose seeds are decided reach the same rows. -/
theorem Visits.id_mem_iff (h : w.Visits e ps db visits) (h' : w.Visits e ps db' visits')
    (hstart : db w.seeds.table = some rows) (hrows : db w.table = some rows)
    (hstart' : db' w.seeds.table = some rows) (hrows' : db' w.table = some rows)
    (hids : (rows.map DocRow.id).Nodup) (hdecided : w.seeds.IsDecided e ps rows)
    {r : DocRow Doc} (hr : r ∈ rows) :
    r.id ∈ visits.map (·.row.id) ↔ r.id ∈ visits'.map (·.row.id) := by
  obtain ⟨seeds, hseeds, hcovers⟩ := h.covers hstart hrows
  obtain ⟨seeds', hseeds', hcovers'⟩ := h'.covers hstart' hrows'
  have hsame := hseeds.picks.perm hseeds'.picks hdecided
  have hcounts : hopCounts e w.traversal rows seeds r = hopCounts e w.traversal rows seeds' r := by
    ext n
    refine and_congr_right fun _ => ?_
    have hfirst : ∀ seeds : List (DocRow Doc × Nat),
        (∃ s ∈ seeds, Hops e w.traversal rows n s.1 r) ↔
          ∃ a ∈ seeds.map Prod.fst, Hops e w.traversal rows n a r := by
      intro seeds
      simp
    rw [hfirst, hfirst]
    simp only [hsame.mem_iff]
  rw [hcovers.id_mem_iff hseeds.mem_rows hids hr, hcovers'.id_mem_iff hseeds'.mem_rows hids hr,
    hcounts]

/-- What is joined to a walk are the rows that it reached. -/
theorem Visits.joinsReached_perm (h : w.Visits e ps db visits)
    (hstart : db w.seeds.table = some rows) (hrows : db w.table = some rows)
    (hids : (rows.map DocRow.id).Nodup) {joined : List (DocRow Doc)}
    (hjoins : JoinsReached visits rows joined) :
    joined.Perm (rows.filter (·.id ∈ visits.map (·.row.id))) := by
  obtain ⟨seeds, hseeds, hcovers⟩ := h.covers hstart hrows
  have hlisting := (hcovers.joinsReached_iff hseeds.mem_rows hids).1 hjoins
  refine (List.perm_ext_iff_of_nodup hlisting.nodup.of_map (hids.of_map.filter _)).2 fun r => ?_
  rw [hlisting.mem_iff, List.mem_filter, decide_eq_true_eq]
  exact and_congr_right fun hr => (hcovers.id_mem_iff hseeds.mem_rows hids hr).symm

theorem exists_visits (ps : List Param) (hstart : db w.seeds.table = some rows)
    (hrows : db w.table = some rows)
    (hends : w.bound.isSome = true ∨ HasNoCycle e w.traversal rows) :
    ∃ visits, w.Visits e ps db visits := by
  obtain ⟨seeds, hseeds⟩ := w.seeds.exists_picksNumbered e ps w.numbering rows
  obtain ⟨n, hlevel⟩ := exists_level_eq_nil hseeds.mem_rows hends
  exact ⟨_, rows, rows, seeds, n, hstart, hrows, hseeds, hlevel, rfl⟩

end Walk

theorem exists_joinsReached (visits : List (Visit Doc)) (rows : List (DocRow Doc)) :
    ∃ joined, JoinsReached visits rows joined := by
  obtain ⟨ordered, hordered⟩ := exists_arranged
    (r := fun a b : DocRow Doc × (Nat × Nat) => pairLe a.2 b.2)
    (fun _ _ _ => pairLe_trans _ _ _) (fun _ _ => pairLe_total _ _)
    (rows.filterMap fun r => (reachedAt? visits r.id).map fun p => (r, p))
  exact ⟨_, ordered, hordered, rfl⟩

/-! ## Commands -/

namespace Query

variable {q : Query} {table : TableName} {db : Tables Doc} {a : Result Doc}

theorem answers_select_iff (q : Query) (table : TableName) :
    (q.select table.text).Answers e db a ↔
      ∃ picked, (q.origin table.text).Gives e q.filterParams db picked ∧
        a = (Items.documents q.namedFields).answer e picked := by
  rw [Statement.answers_iff (q.readStatement?_select table),
    q.params_compile table .select rfl]
  exact Reading.answers_select_iff

theorem answers_count_iff (q : Query) (table : TableName) :
    (q.count table.text).Answers e db a ↔
      ∃ picked, (q.origin table.text).Gives e q.filterParams db picked ∧
        a = .number picked.length := by
  rw [Statement.answers_iff (q.readStatement?_count table),
    q.params_compile table .count rfl]
  exact Reading.answers_count_iff

/-- The statements of a query on one table, as far as the documents that they work on go. -/
structure Agrees (q : Query) (table : TableName) (e : Engine Doc) (db : Tables Doc)
    (rows chosen : List (DocRow Doc)) : Prop where
  select : ∀ a, (q.select table.text).Answers e db a →
    ∃ picked, picked.Perm chosen ∧ a = (Items.documents q.namedFields).answer e picked
  selectKeyed : ∀ lock a, (q.selectKeyed table.text lock).Answers e db a →
    ∃ picked, picked.Perm chosen ∧ a = .entries picked
  count : ∀ a, (q.count table.text).Answers e db a → a = .number chosen.length
  delete : ∀ a, (q.delete table.text).Answers e db a →
    ∃ gone : List (DocRow Doc), gone.Perm chosen ∧
      a = .removed (gone.map DocRow.id) (rows.filter (·.id ∉ chosen.map DocRow.id))
  /-- One of them has an answer when the others have. -/
  answered : ∀ lock,
    ((∃ a, (q.select table.text).Answers e db a) ↔
        ∃ a, (q.selectKeyed table.text lock).Answers e db a) ∧
      ((∃ a, (q.count table.text).Answers e db a) ↔
        ∃ a, (q.selectKeyed table.text lock).Answers e db a) ∧
      ((∃ a, (q.delete table.text).Answers e db a) ↔
        ∃ a, (q.selectKeyed table.text lock).Answers e db a)

/-- The selects and the count follow their common origin. -/
theorem agrees_of_gives {chosen : List (DocRow Doc)}
    (hgives : ∀ picked, (q.origin table.text).Gives e q.filterParams db picked →
      picked.Perm chosen)
    (hdelete : ∀ a, (q.deletion table.text).Answers e q.filterParams db a →
      ∃ gone : List (DocRow Doc), gone.Perm chosen ∧
        a = .removed (gone.map DocRow.id) (rows.filter (·.id ∉ chosen.map DocRow.id)))
    (hanswered : (∃ a, (q.deletion table.text).Answers e q.filterParams db a) ↔
      ∃ picked, (q.origin table.text).Gives e q.filterParams db picked) :
    q.Agrees table e db rows chosen where
  select := by
    intro a ha
    obtain ⟨picked, hpicked, rfl⟩ := (answers_select_iff q table).1 ha
    exact ⟨picked, hgives picked hpicked, rfl⟩
  selectKeyed := by
    intro lock a ha
    obtain ⟨picked, hpicked, rfl⟩ := (answers_selectKeyed_iff q table lock).1 ha
    exact ⟨picked, hgives picked hpicked, rfl⟩
  count := by
    intro a ha
    obtain ⟨picked, hpicked, rfl⟩ := (answers_count_iff q table).1 ha
    rw [(hgives picked hpicked).length_eq]
  delete := fun a ha => hdelete a ((answers_delete_iff q table).1 ha)
  answered := by
    intro lock
    have hsome : ∀ f : List (DocRow Doc) → Result Doc,
        (∃ a picked, (q.origin table.text).Gives e q.filterParams db picked ∧ a = f picked) ↔
          ∃ picked, (q.origin table.text).Gives e q.filterParams db picked := by
      intro f
      constructor
      · rintro ⟨_, picked, hpicked, -⟩
        exact ⟨picked, hpicked⟩
      · rintro ⟨picked, hpicked⟩
        exact ⟨_, picked, hpicked, rfl⟩
    simp only [answers_select_iff, answers_selectKeyed_iff, answers_count_iff, answers_delete_iff,
      hsome, hanswered, and_self]

/-- A query without order and window picks all rows under its filter. -/
theorem picks_of_not_isWindowed (h : q.isWindowed = false) {picked : List (DocRow Doc)}
    (hpicked : (q.scan table.text).Picks e ps rows picked) :
    picked.Perm (rows.filter (e.keeps ps q.conditions.expression?)) := by
  simp only [isWindowed, Bool.or_eq_false_iff, Option.isSome_eq_false_iff,
    Option.isNone_iff_eq_none] at h
  exact hpicked.perm_kept h.1.2 h.2

/-- Without a walk. -/
theorem exists_agrees_scan (hq : q.recurse = none) (hrows : db table.text = some rows)
    (hids : (rows.map DocRow.id).Nodup)
    (hdecided : (q.scan table.text).IsDecided e q.filterParams rows) :
    ∃ chosen, q.Agrees table e db rows chosen := by
  have horigin : q.origin table.text = .scan (q.scan table.text) := by
    rw [origin, hq]
  have hscan : ∀ picked, (q.scan table.text).Gives e q.filterParams db picked ↔
      (q.scan table.text).Picks e q.filterParams rows picked := by
    intro picked
    constructor
    · rintro ⟨rows', hrows', hpicks⟩
      obtain rfl : rows = rows' := Option.some.inj (hrows.symm.trans hrows')
      exact hpicks
    · exact fun hpicks => ⟨rows, hrows, hpicks⟩
  have hgives : ∀ picked, (q.origin table.text).Gives e q.filterParams db picked ↔
      (q.scan table.text).Picks e q.filterParams rows picked := by
    rw [horigin]
    exact hscan
  have hsub : ∀ {picked}, (q.scan table.text).Picks e q.filterParams rows picked →
      picked.Subperm rows := fun h => h.subperm.trans List.filter_sublist.subperm
  obtain ⟨chosen, hchosen⟩ := (q.scan table.text).exists_picks e q.filterParams rows
  have hsome : ∃ picked, (q.origin table.text).Gives e q.filterParams db picked :=
    ⟨chosen, (hgives chosen).2 hchosen⟩
  refine ⟨chosen, agrees_of_gives (fun picked h => ((hgives picked).1 h).perm hchosen hdecided)
    ?_ (iff_of_true ?_ hsome)⟩
  · intro a ha
    rw [deletion, hq] at ha
    cases hwindowed : q.isWindowed with
    | true =>
      rw [hwindowed] at ha
      obtain ⟨picked, gone, hpicked, hgone, rfl⟩ := (Reading.answers_deleteChosen_iff hrows).1 ha
      have hpicks := (hscan picked).1 hpicked
      have hperm := hpicks.perm hchosen hdecided
      exact ⟨gone, (hgone.trans (filter_id_mem_perm hids (hsub hpicks))).trans hperm,
        by rw [filter_id_notMem_congr hperm]⟩
    | false =>
      rw [hwindowed] at ha
      obtain ⟨gone, hgone, rfl⟩ := (Reading.answers_delete_iff hrows).1 ha
      have hall := picks_of_not_isWindowed hwindowed hchosen
      refine ⟨gone, hgone.trans hall.symm, ?_⟩
      rw [filter_id_notMem_congr hall, filter_id_notMem_filter hids]
  · rw [deletion, hq]
    cases hwindowed : q.isWindowed with
    | true =>
      exact ⟨_, (Reading.answers_deleteChosen_iff hrows).2
        ⟨chosen, _, (hscan chosen).2 hchosen, .refl _, rfl⟩⟩
    | false => exact ⟨_, (Reading.answers_delete_iff hrows).2 ⟨_, .refl _, rfl⟩⟩

/-- With a walk, whose names the table does not have. -/
theorem exists_agrees_walk {t : Traversal} (hq : q.recurse = some t)
    (hrows : db table.text = some rows) (hids : (rows.map DocRow.id).Nodup)
    (hdecided : (q.scan table.text).IsDecided e q.filterParams rows)
    (htable : table.text ∉ ["walk", "removed"]) :
    ∃ chosen, q.Agrees table e db rows chosen := by
  have hwalk : db.hiding ["walk"] table.text = some rows := by
    rwa [Tables.hiding_of_notMem fun h => htable (List.subset_append_left _ ["removed"] h)]
  have hremoved : db.hiding ["walk", "removed"] table.text = some rows := by
    rwa [Tables.hiding_of_notMem htable]
  have horigin : q.origin table.text = .walk (q.walkOf table.text t) table.text := by
    rw [origin, hq]
  have hdeletion : q.deletion table.text = .deleteWalked (q.walkOf table.text t) table.text := by
    rw [deletion, hq]
  -- All walks of the query reach the same rows, if there are any.
  obtain ⟨chosen, hchosen⟩ : ∃ chosen, ∀ (db' : Tables Doc) (visits : List (Visit Doc)),
      db' table.text = some rows →
      (q.walkOf table.text t).Visits e q.filterParams db' visits →
        rows.filter (·.id ∈ visits.map (·.row.id)) = chosen := by
    by_cases h : ∃ visits,
        (q.walkOf table.text t).Visits e q.filterParams (db.hiding ["walk"]) visits
    · obtain ⟨visits₀, h₀⟩ := h
      refine ⟨rows.filter (·.id ∈ visits₀.map (·.row.id)), fun db' visits hdb' h' =>
        List.filter_congr fun r hr => ?_⟩
      rw [decide_eq_decide]
      exact h'.id_mem_iff h₀ hdb' hdb' hwalk hwalk hids hdecided hr
    · refine ⟨[], fun db' visits hdb' h' => absurd ⟨visits, ?_⟩ h⟩
      exact h'.of_tables (hdb'.trans hwalk.symm) (hdb'.trans hwalk.symm)
  refine ⟨chosen, agrees_of_gives ?_ ?_ ?_⟩
  · intro picked hpicked
    rw [horigin] at hpicked
    obtain ⟨visits, rows', hvisits, hrows', hjoins⟩ := hpicked
    obtain rfl : rows = rows' := Option.some.inj (hwalk.symm.trans hrows')
    rw [← hchosen _ visits hwalk hvisits]
    exact hvisits.joinsReached_perm hwalk hwalk hids hjoins
  · intro a ha
    rw [hdeletion] at ha
    cases ha with
    | @deleteWalked _ _ visits rows' gone hvisits hrows' hgone =>
      obtain rfl : rows = rows' := Option.some.inj (hremoved.symm.trans hrows')
      obtain ⟨seeds, hseeds, hcovers⟩ := hvisits.covers hremoved hremoved
      have hjoins := (hcovers.joinsReached_filter_iff hseeds.mem_rows hids).1 hgone
      refine ⟨gone, ?_, ?_⟩
      · rw [← hchosen _ visits hremoved hvisits]
        exact hvisits.joinsReached_perm hremoved hremoved hids hjoins
      · rw [← hchosen _ visits hremoved hvisits, filter_id_notMem_filter hids]
        simp only [decide_not]
  · rw [horigin, hdeletion]
    constructor
    · rintro ⟨a, ha⟩
      cases ha with
      | @deleteWalked _ _ visits _ _ hvisits _ _ =>
        obtain ⟨joined, hjoins⟩ := exists_joinsReached visits rows
        exact ⟨joined, visits, rows, hvisits.of_tables (hremoved.trans hwalk.symm)
          (hremoved.trans hwalk.symm), hwalk, hjoins⟩
    · rintro ⟨picked, visits, -, hvisits, -, -⟩
      obtain ⟨gone, hgone⟩ :=
        exists_joinsReached visits (rows.filter (·.id ∈ visits.map (·.row.id)))
      exact ⟨_, .deleteWalked (hvisits.of_tables (hwalk.trans hremoved.symm)
        (hwalk.trans hremoved.symm)) hremoved hgone⟩

/-- The keyed select has an answer unless a walk hides its table or runs in a cycle. -/
theorem exists_answers_selectKeyed (q : Query) (table : TableName)
    (hrows : db table.text = some rows)
    (htable : q.recurse.isSome = true → table.text ≠ "walk")
    (hends : ∀ t, q.recurse = some t → t.maxDepth.isSome = true ∨ HasNoCycle e t rows) :
    ∃ a, (q.selectKeyed table.text false).Answers e db a := by
  have hgives : ∃ picked, (q.origin table.text).Gives e q.filterParams db picked := by
    rw [origin]
    cases hq : q.recurse with
    | none =>
      obtain ⟨picked, hpicked⟩ := (q.scan table.text).exists_picks e q.filterParams rows
      exact ⟨picked, rows, hrows, hpicked⟩
    | some t =>
      have hwalk : db.hiding ["walk"] table.text = some rows := by
        rwa [Tables.hiding_of_notMem (by simpa using htable (by rw [hq]; rfl))]
      obtain ⟨visits, hvisits⟩ := Walk.exists_visits q.filterParams
        (w := q.walkOf table.text t) (e := e) hwalk hwalk (hends t hq)
      obtain ⟨joined, hjoins⟩ := exists_joinsReached visits rows
      exact ⟨joined, visits, rows, hvisits, hwalk, hjoins⟩
  obtain ⟨picked, hpicked⟩ := hgives
  exact ⟨_, (answers_selectKeyed_iff q table false).2 ⟨picked, hpicked, rfl⟩⟩

/-- The statements of a query read their documents from one place.  In their texts stand the same
table and filter, the same order and window, and the same walk; a delete without a walk chooses
ids exactly when there is an order or a window.  All of them bind what the filter binds.  So on
one state of the database, where the window is decided, they work on one choice of documents:
the selects give it in some order, the count is its number, and the delete removes it and gives
its ids.  They have an answer together, and they have one unless a walk runs in a cycle without
bound. -/
theorem answers_agree (q : Query) (table : TableName) :
    (readStatement? (q.select table.text).sql =
        some (.select ⟨.documents q.namedFields, q.origin table.text, false⟩) ∧
      (∀ lock, readStatement? (q.selectKeyed table.text lock).sql =
        some (.select ⟨.entries, q.origin table.text, lock⟩)) ∧
      readStatement? (q.count table.text).sql =
        some (.count ⟨.entries, q.origin table.text, false⟩) ∧
      readStatement? (q.delete table.text).sql = some (q.deletion table.text)) ∧
    (∀ command s, q.compile table command = some s → s.params = q.filterParams) ∧
    ∀ {Doc : Type} (e : Engine Doc) (db : Tables Doc) (rows : List (DocRow Doc)),
      db table.text = some rows → (rows.map DocRow.id).Nodup →
      (q.scan table.text).IsDecided e q.filterParams rows →
      (q.recurse.isSome = true → table.text ∉ ["walk", "removed"]) →
      (∃ chosen, q.Agrees table e db rows chosen) ∧
        ((∀ t, q.recurse = some t → t.maxDepth.isSome = true ∨ HasNoCycle e t rows) →
          ∃ a, (q.selectKeyed table.text false).Answers e db a) := by
  refine ⟨⟨q.readStatement?_select table, q.readStatement?_selectKeyed table,
    q.readStatement?_count table, q.readStatement?_delete table⟩,
    fun command _ => q.params_compile table command, ?_⟩
  intro Doc e db rows hrows hids hdecided htable
  refine ⟨?_, exists_answers_selectKeyed q table hrows fun h hwalk => htable h (by simp [hwalk])⟩
  cases hq : q.recurse with
  | none => exact exists_agrees_scan hq hrows hids hdecided
  | some t => exact exists_agrees_walk hq hrows hids hdecided (htable (by rw [hq]; rfl))

/-- The first leaf and what is above it. -/
def firstUpwards : Query := { upwards with limit := some 1 }

theorem answers_agree_firstUpwards :
    (family.map DocRow.id).Nodup ∧
      (firstUpwards.scan "docs").IsDecided .json firstUpwards.filterParams family ∧
      ∃ chosen, firstUpwards.Agrees ⟨"docs", by decide, by decide⟩ .json (fun _ => some family)
        family chosen := by
  have hids : (family.map DocRow.id).Nodup := by decide
  have hdecided :
      (firstUpwards.scan "docs").IsDecided .json firstUpwards.filterParams family := by
    refine Or.inr ?_
    decide +kernel
  obtain ⟨-, -, hagree⟩ := answers_agree firstUpwards ⟨"docs", by decide, by decide⟩
  exact ⟨hids, hdecided, (hagree .json (fun _ => some family) family rfl hids hdecided
    fun _ => by decide).1⟩

/-- The delete of a walk hides a table that is called as its own part is: from a table `removed`
it deletes nothing that the select gives. -/
theorem delete_removed_unanswered :
    let q : Query := { all with recurse := some ⟨⟨["id"]⟩, ⟨["parent"]⟩, some 1⟩ }
    let root : DocRow Json := ⟨"A", .ofMembers [("id", .string "A")]⟩
    (∃ a, (q.selectKeyed "removed" false).Answers Engine.json (fun _ => some [root]) a) ∧
      ∀ a, ¬ (q.delete "removed").Answers Engine.json (fun _ => some [root]) a := by
  intro q root
  let table : TableName := ⟨"removed", by decide, by decide⟩
  refine ⟨?_, fun a ha => ?_⟩
  · refine exists_answers_selectKeyed q table rfl (fun _ => by decide) fun t ht => ?_
    rw [← Option.some.inj ht]
    exact Or.inl rfl
  · cases (answers_delete_iff q table).1 ha with
    | deleteWalked hvisits =>
      exact Walk.not_visits_of_hidden (List.mem_cons_of_mem _ (List.mem_singleton_self _)) _ hvisits

end Query

end DocStore
