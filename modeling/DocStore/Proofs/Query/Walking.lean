import DocStore.Proofs.Query.Answer
import DocStore.Proofs.Query.Outline
import Mathlib.Order.Lattice.Nat

/-!
# What a walk reaches

The documents of a query with a walk, said without levels and groups: `Hops` follows
links from one row to another, and `IsListing` is a list of the rows that allowed
walks reach from the seeds, each of them once, in the order of least hops and least
seed number.

* `Walk.mem_level_iff`: the rows of a level are those reached by as many hops, one for
  each way from a seed.  By induction on the level; the bound is tested before a hop,
  so that as many hops as it says are allowed and no more.
* `Walk.exists_level_eq_nil`: a walk ends when hops are bounded or links have no cycle.
* `joinsReached_iff`: the group by id and the join make a listing of a walk's rows.
-/

namespace DocStore

open Sql

variable {Doc : Type}

/-! ## Reachable rows -/

section

variable (e : Engine Doc) (t : Traversal) (rows : List (DocRow Doc))

/-- A row is reached from another one by so many hops. -/
inductive Hops : Nat → DocRow Doc → DocRow Doc → Prop where
  | here (a : DocRow Doc) : Hops 0 a a
  | hop {n : Nat} {a b c : DocRow Doc} (h : Hops n a b) (hc : c ∈ rows)
      (hlink : e.links t.linkField t.seedField b c = true) : Hops (n + 1) a c

/-- A walk may take so many hops. -/
def Traversal.Allows (n : Nat) : Prop := ∀ d, t.maxDepth = some d → n ≤ d

/-- No row is reached from itself. -/
def HasNoCycle : Prop := ∀ r n, ¬ Hops e t rows (n + 1) r r

variable (seeds : List (DocRow Doc × Nat))

/-- How many hops allowed walks from the seeds take to a row. -/
def hopCounts (r : DocRow Doc) : Set Nat :=
  {n | t.Allows n ∧ ∃ s ∈ seeds, Hops e t rows n s.1 r}

/-- The numbers of the seeds from which allowed walks reach a row. -/
def seedNumbers (r : DocRow Doc) : Set Nat :=
  {k | ∃ n, t.Allows n ∧ ∃ s ∈ seeds, s.2 = k ∧ Hops e t rows n s.1 r}

/-- The least of both. -/
noncomputable def place (r : DocRow Doc) : Nat × Nat :=
  (sInf (hopCounts e t rows seeds r), sInf (seedNumbers e t rows seeds r))

/-- The rows that allowed walks reach from the seeds, each once, by least hops and then by least
seed number. -/
structure IsListing (listed : List (DocRow Doc)) : Prop where
  nodup : (listed.map DocRow.id).Nodup
  mem_iff : ∀ r, r ∈ listed ↔ r ∈ rows ∧ (hopCounts e t rows seeds r).Nonempty
  ordered : listed.Pairwise fun a b =>
    pairLe (place e t rows seeds a) (place e t rows seeds b) = true

end

/-! ## Levels -/

/-- The fields and the bound of a walk. -/
def Walk.traversal (w : Walk) : Traversal := ⟨w.seed, w.link, w.bound⟩

variable {e : Engine Doc} {rows : List (DocRow Doc)} {seeds : List (DocRow Doc × Nat)}

namespace Walk

variable {w : Walk}

theorem mem_next_iff {newest : List (Visit Doc)} {v : Visit Doc} :
    v ∈ w.next e rows newest ↔ ∃ u ∈ newest, w.bound.all (u.depth < ·) = true ∧
      v.row ∈ rows ∧ e.links w.link w.seed u.row v.row = true ∧ v.depth = u.depth + 1 ∧
        v.ord = u.ord := by
  rw [next, List.mem_flatMap]
  constructor
  · rintro ⟨u, hu, hv⟩
    split at hv
    · rename_i hbound
      obtain ⟨r, hr, rfl⟩ := List.mem_map.1 hv
      obtain ⟨hr, hlink⟩ := List.mem_filter.1 hr
      exact ⟨u, hu, hbound, hr, hlink, rfl, rfl⟩
    · simp at hv
  · rintro ⟨u, hu, hbound, hr, hlink, hdepth, hord⟩
    refine ⟨u, hu, ?_⟩
    rw [if_pos hbound]
    refine List.mem_map.2 ⟨v.row, List.mem_filter.2 ⟨hr, hlink⟩, ?_⟩
    rw [← hdepth, ← hord]

/-- One more hop is allowed behind rows that are not as deep as the bound. -/
theorem allows_succ_iff {n : Nat} :
    w.traversal.Allows (n + 1) ↔ w.traversal.Allows n ∧ w.bound.all (n < ·) = true := by
  rw [Traversal.Allows, Traversal.Allows, traversal]
  cases w.bound with
  | none => simp
  | some d =>
    simp only [Option.some.injEq, forall_eq', Option.all_some, decide_eq_true_eq]
    omega

/-- A row is at a level once for each way of so many hops from a seed. -/
theorem mem_level_iff {n : Nat} {v : Visit Doc} :
    v ∈ w.level e rows seeds n ↔ v.depth = n ∧ w.traversal.Allows n ∧
      ∃ s ∈ seeds, s.2 = v.ord ∧ Hops e w.traversal rows n s.1 v.row := by
  induction n generalizing v with
  | zero =>
    rw [level, List.mem_map]
    constructor
    · rintro ⟨s, hs, rfl⟩
      exact ⟨rfl, fun d _ => Nat.zero_le d, s, hs, rfl, .here _⟩
    · rintro ⟨hdepth, -, s, hs, hord, hhops⟩
      refine ⟨s, hs, ?_⟩
      obtain ⟨row, depth, ord⟩ := v
      cases hhops
      obtain rfl : depth = 0 := hdepth
      obtain rfl : s.2 = ord := hord
      rfl
  | succ n ih =>
    rw [level, mem_next_iff, allows_succ_iff]
    constructor
    · rintro ⟨u, hu, hbound, hrow, hlink, hdepth, hord⟩
      obtain ⟨rfl, hallows, s, hs, hseed, hhops⟩ := ih.1 hu
      exact ⟨hdepth, ⟨hallows, hbound⟩, s, hs, hseed.trans hord.symm, .hop hhops hrow hlink⟩
    · rintro ⟨hdepth, ⟨hallows, hbound⟩, s, hs, hseed, hhops⟩
      cases hhops with
      | @hop _ _ b _ hhops hrow hlink =>
        have hu := ih (v := ⟨b, n, s.2⟩).2 ⟨rfl, hallows, s, hs, rfl, hhops⟩
        exact ⟨_, hu, hbound, hrow, hlink, hdepth, hseed.symm⟩

/-- The rows behind a hop are rows of the table. -/
theorem mem_rows_of_hops {t : Traversal} {n : Nat} {a b : DocRow Doc}
    (h : Hops e t rows n a b) (ha : a ∈ rows) : b ∈ rows := by
  cases h with
  | here => exact ha
  | hop _ hb _ => exact hb

/-! ## The end of a walk -/

/-- Without a cycle the rows on a way are all different. -/
theorem exists_way {t : Traversal} (hcycle : HasNoCycle e t rows) {n : Nat} {a b : DocRow Doc}
    (h : Hops e t rows n a b) (ha : a ∈ rows) :
    ∃ way : List (DocRow Doc), way.length = n + 1 ∧ way.Nodup ∧
      ∀ r ∈ way, r ∈ rows ∧ ∃ m, Hops e t rows m r b := by
  induction h with
  | here a => exact ⟨[a], rfl, List.nodup_singleton a, by simpa using ⟨ha, 0, .here a⟩⟩
  | @hop n a b c h hc hlink ih =>
    obtain ⟨way, hlength, hnodup, hway⟩ := ih ha
    refine ⟨c :: way, by rw [List.length_cons, hlength], List.nodup_cons.2 ⟨?_, hnodup⟩, ?_⟩
    · intro hmem
      obtain ⟨-, m, hback⟩ := hway c hmem
      exact hcycle c m (.hop hback hc hlink)
    · intro r hr
      rcases List.mem_cons.1 hr with rfl | hr
      · exact ⟨hc, 0, .here r⟩
      · obtain ⟨hrow, m, hm⟩ := hway r hr
        exact ⟨hrow, m + 1, .hop hm hc hlink⟩

/-- A walk ends when hops are bounded, and when links have no cycle. -/
theorem exists_level_eq_nil (hseeds : ∀ s ∈ seeds, s.1 ∈ rows)
    (hends : w.bound.isSome = true ∨ HasNoCycle e w.traversal rows) :
    ∃ n, w.level e rows seeds n = [] := by
  rcases hends with hbound | hcycle
  · obtain ⟨d, hd⟩ := Option.isSome_iff_exists.1 hbound
    refine ⟨d + 1, List.eq_nil_iff_forall_not_mem.2 fun v hv => ?_⟩
    have hle := (mem_level_iff.1 hv).2.1 d hd
    omega
  · refine ⟨rows.length, List.eq_nil_iff_forall_not_mem.2 fun v hv => ?_⟩
    obtain ⟨-, -, s, hs, -, hhops⟩ := mem_level_iff.1 hv
    obtain ⟨way, hlength, hnodup, hway⟩ := exists_way hcycle hhops (hseeds s hs)
    have hle := (hnodup.subperm fun r hr => (hway r hr).1).length_le
    omega

theorem level_eq_nil_of_le {n m : Nat} (h : w.level e rows seeds n = []) (hnm : n ≤ m) :
    w.level e rows seeds m = [] := by
  induction hnm with
  | refl => exact h
  | step _ ih =>
    rw [level, ih]
    rfl

/-- The rows of a walk that ends: one for each allowed way from a seed. -/
def Covers (w : Walk) (e : Engine Doc) (rows : List (DocRow Doc)) (seeds : List (DocRow Doc × Nat))
    (visits : List (Visit Doc)) : Prop :=
  ∀ v, v ∈ visits ↔ w.traversal.Allows v.depth ∧
    ∃ s ∈ seeds, s.2 = v.ord ∧ Hops e w.traversal rows v.depth s.1 v.row

theorem covers_of_level_eq_nil {n : Nat} (h : w.level e rows seeds n = []) :
    w.Covers e rows seeds ((List.range n).flatMap (w.level e rows seeds)) := by
  intro v
  rw [List.mem_flatMap]
  constructor
  · rintro ⟨m, -, hv⟩
    obtain ⟨rfl, hallows, hseed⟩ := mem_level_iff.1 hv
    exact ⟨hallows, hseed⟩
  · rintro ⟨hallows, hseed⟩
    have hv : v ∈ w.level e rows seeds v.depth := mem_level_iff.2 ⟨rfl, hallows, hseed⟩
    refine ⟨v.depth, List.mem_range.2 ?_, hv⟩
    by_contra hle
    rw [level_eq_nil_of_le h (Nat.le_of_not_lt hle)] at hv
    simp at hv

end Walk

/-! ## Listings -/

/-- The least of some numbers. -/
theorem min?_eq_some_iff_sInf {xs : List Nat} {s : Set Nat} (h : ∀ n, n ∈ xs ↔ n ∈ s) {a : Nat} :
    xs.min? = some a ↔ s.Nonempty ∧ a = sInf s := by
  rw [List.min?_eq_some_iff]
  constructor
  · rintro ⟨ha, hle⟩
    have hne : s.Nonempty := ⟨a, (h a).1 ha⟩
    exact ⟨hne, le_antisymm (hle _ ((h _).2 (Nat.sInf_mem hne))) (Nat.sInf_le ((h a).1 ha))⟩
  · rintro ⟨hne, rfl⟩
    exact ⟨(h _).2 (Nat.sInf_mem hne), fun b hb => Nat.sInf_le ((h b).1 hb)⟩

namespace Walk.Covers

variable {w : Walk} {visits : List (Visit Doc)}

/-- The group of a row has its place. -/
theorem reachedAt?_eq_some_iff (h : w.Covers e rows seeds visits)
    (hseeds : ∀ s ∈ seeds, s.1 ∈ rows) (hids : (rows.map DocRow.id).Nodup) {r : DocRow Doc}
    (hr : r ∈ rows) {p : Nat × Nat} :
    reachedAt? visits r.id = some p ↔
      (hopCounts e w.traversal rows seeds r).Nonempty ∧ p = place e w.traversal rows seeds r := by
  have hown : ∀ v, v ∈ visits.filter (·.row.id = r.id) ↔ v ∈ visits ∧ v.row = r := by
    intro v
    rw [List.mem_filter, decide_eq_true_eq]
    refine and_congr_right fun hv => ⟨fun hid => ?_, fun hrow => hrow ▸ rfl⟩
    obtain ⟨-, s, hs, -, hhops⟩ := (h v).1 hv
    exact List.inj_on_of_nodup_map hids (mem_rows_of_hops hhops (hseeds s hs)) hr hid
  have hdepth : ∀ n, n ∈ (visits.filter (·.row.id = r.id)).map Visit.depth ↔
      n ∈ hopCounts e w.traversal rows seeds r := by
    intro n
    rw [List.mem_map]
    constructor
    · rintro ⟨v, hv, rfl⟩
      obtain ⟨hvisit, rfl⟩ := (hown v).1 hv
      obtain ⟨hallows, s, hs, -, hhops⟩ := (h v).1 hvisit
      exact ⟨hallows, s, hs, hhops⟩
    · rintro ⟨hallows, s, hs, hhops⟩
      exact ⟨⟨r, n, s.2⟩, (hown _).2 ⟨(h _).2 ⟨hallows, s, hs, rfl, hhops⟩, rfl⟩, rfl⟩
  have hord : ∀ k, k ∈ (visits.filter (·.row.id = r.id)).map Visit.ord ↔
      k ∈ seedNumbers e w.traversal rows seeds r := by
    intro k
    rw [List.mem_map]
    constructor
    · rintro ⟨v, hv, rfl⟩
      obtain ⟨hvisit, rfl⟩ := (hown v).1 hv
      obtain ⟨hallows, s, hs, hseed, hhops⟩ := (h v).1 hvisit
      exact ⟨v.depth, hallows, s, hs, hseed, hhops⟩
    · rintro ⟨n, hallows, s, hs, rfl, hhops⟩
      exact ⟨⟨r, n, s.2⟩, (hown _).2 ⟨(h _).2 ⟨hallows, s, hs, rfl, hhops⟩, rfl⟩, rfl⟩
  have hnumbers : (hopCounts e w.traversal rows seeds r).Nonempty →
      (seedNumbers e w.traversal rows seeds r).Nonempty := by
    rintro ⟨n, hallows, s, hs, hhops⟩
    exact ⟨s.2, n, hallows, s, hs, rfl, hhops⟩
  show (Option.bind _ fun depth => Option.bind _ fun ord => some (depth, ord)) = some p ↔ _
  simp only [Option.bind_eq_some_iff, min?_eq_some_iff_sInf hdepth, min?_eq_some_iff_sInf hord]
  constructor
  · rintro ⟨depth, ⟨hne, rfl⟩, ord, ⟨-, rfl⟩, hp⟩
    exact ⟨hne, (Option.some.inj hp).symm⟩
  · rintro ⟨hne, rfl⟩
    exact ⟨_, ⟨hne, rfl⟩, _, ⟨hnumbers hne, rfl⟩, rfl⟩

/-- The rows with a group, each with its place. -/
theorem filterMap_reachedAt? (h : w.Covers e rows seeds visits)
    (hseeds : ∀ s ∈ seeds, s.1 ∈ rows) (hids : (rows.map DocRow.id).Nodup) :
    (rows.filterMap fun r => (reachedAt? visits r.id).map fun p => (r, p)) =
      (rows.filter fun r => (reachedAt? visits r.id).isSome).map fun r =>
        (r, place e w.traversal rows seeds r) := by
  rw [← List.filterMap_eq_map, List.filterMap_filter]
  refine List.filterMap_congr fun r hr => ?_
  cases hreached : reachedAt? visits r.id with
  | none => rfl
  | some p =>
    rw [((h.reachedAt?_eq_some_iff hseeds hids hr).1 hreached).2]
    rfl

/-- The join of what a walk reached with the rows of the table is a listing, in any order that
the places allow. -/
theorem joinsReached_iff (h : w.Covers e rows seeds visits)
    (hseeds : ∀ s ∈ seeds, s.1 ∈ rows) (hids : (rows.map DocRow.id).Nodup)
    {joined : List (DocRow Doc)} :
    JoinsReached visits rows joined ↔ IsListing e w.traversal rows seeds joined := by
  have hmem : ∀ r, r ∈ rows.filter (fun r => (reachedAt? visits r.id).isSome) ↔
      r ∈ rows ∧ (hopCounts e w.traversal rows seeds r).Nonempty := by
    intro r
    rw [List.mem_filter, Option.isSome_iff_exists]
    refine and_congr_right fun hr => ?_
    simp only [h.reachedAt?_eq_some_iff hseeds hids hr, exists_and_left, exists_eq, and_true]
  have hnodup : ((rows.filter fun r => (reachedAt? visits r.id).isSome).map DocRow.id).Nodup :=
    hids.sublist (List.filter_sublist.map _)
  rw [JoinsReached, h.filterMap_reachedAt? hseeds hids]
  constructor
  · rintro ⟨ordered, ⟨hperm, hordered⟩, rfl⟩
    have hplace : ∀ x ∈ ordered, x.2 = place e w.traversal rows seeds x.1 := by
      intro x hx
      obtain ⟨r, -, rfl⟩ := List.mem_map.1 (hperm.mem_iff.1 hx)
      rfl
    have hfirst := hperm.map Prod.fst
    rw [List.map_map, Function.comp_def, List.map_id'] at hfirst
    refine ⟨(hfirst.map DocRow.id).nodup_iff.2 hnodup, fun r => ?_, ?_⟩
    · rw [hfirst.mem_iff, hmem]
    · rw [List.pairwise_map]
      refine hordered.imp_of_mem fun {a b} ha hb hle => ?_
      rwa [← hplace a ha, ← hplace b hb]
  · rintro ⟨hlisted, hlist, hordered⟩
    refine ⟨joined.map fun r => (r, place e w.traversal rows seeds r), ⟨?_, ?_⟩, ?_⟩
    · refine List.Perm.map _ ((List.perm_ext_iff_of_nodup hlisted.of_map hnodup.of_map).2 ?_)
      intro r
      rw [hlist, hmem]
    · rwa [List.pairwise_map]
    · rw [List.map_map, Function.comp_def, List.map_id']

end Walk.Covers

/-! ## Seeds -/

namespace Scan

variable {s : Scan} {ps : List Param} {numbering : List SortTerm}

/-- Seeds are rows of the table. -/
theorem PicksNumbered.mem_rows (h : s.PicksNumbered e ps numbering rows seeds) :
    ∀ p ∈ seeds, p.1 ∈ rows := by
  obtain ⟨numbered, ordered, hnumbered, hordered, rfl⟩ := h
  intro p hp
  have hp : p ∈ numbered.zipIdx 1 := hordered.1.mem_iff.1 ((window_sublist _ _ _).subset hp)
  have hrow : p.1 ∈ numbered := List.fst_mem_of_mem_zipIdx hp
  exact (List.mem_filter.1 (hnumbered.1.mem_iff.1 hrow)).1

theorem exists_picksNumbered (s : Scan) (e : Engine Doc) (ps : List Param)
    (numbering : List SortTerm) (rows : List (DocRow Doc)) :
    ∃ seeds, s.PicksNumbered e ps numbering rows seeds := by
  obtain ⟨numbered, hnumbered⟩ := exists_arranged (e.rowLe_trans numbering)
    (e.rowLe_total numbering) (s.kept e ps rows)
  obtain ⟨ordered, hordered⟩ := exists_arranged
    (r := fun a b : DocRow Doc × Nat => e.rowLe s.order a.1 b.1)
    (fun a b c => e.rowLe_trans s.order a.1 b.1 c.1) (fun a b => e.rowLe_total s.order a.1 b.1)
    (numbered.zipIdx 1)
  exact ⟨_, numbered, ordered, hnumbered, hordered, rfl⟩

end Scan

theorem pairLe_iff {a b : Nat × Nat} : pairLe a b = true ↔ a.1 < b.1 ∨ a.1 = b.1 ∧ a.2 ≤ b.2 := by
  simp [pairLe]

theorem pairLe_trans (a b c : Nat × Nat) (hab : pairLe a b = true) (hbc : pairLe b c = true) :
    pairLe a c = true := by
  rw [pairLe_iff] at hab hbc ⊢
  omega

theorem pairLe_total (a b : Nat × Nat) : (pairLe a b || pairLe b a) = true := by
  rw [Bool.or_eq_true, pairLe_iff, pairLe_iff]
  omega

/-- What allowed walks reach can be listed. -/
theorem exists_isListing (e : Engine Doc) (t : Traversal) (hids : (rows.map DocRow.id).Nodup) :
    ∃ listed, IsListing e t rows seeds listed := by
  classical
  obtain ⟨listed, hperm, hordered⟩ := exists_arranged
    (r := fun a b => pairLe (place e t rows seeds a) (place e t rows seeds b))
    (fun _ _ _ => pairLe_trans _ _ _) (fun _ _ => pairLe_total _ _)
    (rows.filter fun r => (hopCounts e t rows seeds r).Nonempty)
  refine ⟨listed, (hperm.map DocRow.id).nodup_iff.2 (hids.sublist (List.filter_sublist.map _)),
    fun r => ?_, hordered⟩
  rw [hperm.mem_iff, List.mem_filter, decide_eq_true_eq]

/-- What is made of the rows of a walk depends on its seeds alone. -/
theorem Walk.exists_visits_iff {w : Walk} (ps : List Param) {db : Tables Doc}
    (hseeds : db w.seeds.table = some rows) (hrows : db w.table = some rows)
    (hends : w.bound.isSome = true ∨ HasNoCycle e w.traversal rows)
    {P : List (Visit Doc) → Prop} {Q : List (DocRow Doc × Nat) → Prop}
    (hiff : ∀ visits seeds, (∀ s ∈ seeds, s.1 ∈ rows) → w.Covers e rows seeds visits →
      (P visits ↔ Q seeds)) :
    (∃ visits, w.Visits e ps db visits ∧ P visits) ↔
      ∃ seeds, w.seeds.PicksNumbered e ps w.numbering rows seeds ∧ Q seeds := by
  constructor
  · rintro ⟨visits, ⟨start, rows', seeds, n, hstart, hrows', hpicks, hlevel, rfl⟩, hP⟩
    obtain rfl : rows = start := Option.some.inj (hseeds.symm.trans hstart)
    obtain rfl : rows = rows' := Option.some.inj (hrows.symm.trans hrows')
    exact ⟨seeds, hpicks, (hiff _ _ hpicks.mem_rows (covers_of_level_eq_nil hlevel)).1 hP⟩
  · rintro ⟨seeds, hpicks, hQ⟩
    obtain ⟨n, hlevel⟩ := exists_level_eq_nil hpicks.mem_rows hends
    exact ⟨_, ⟨rows, rows, seeds, n, hseeds, hrows, hpicks, hlevel, rfl⟩,
      (hiff _ _ hpicks.mem_rows (covers_of_level_eq_nil hlevel)).2 hQ⟩

namespace Walk.Covers

variable {w : Walk} {visits : List (Visit Doc)}

/-- An id is in a walk when its row is reached. -/
theorem id_mem_iff (h : w.Covers e rows seeds visits) (hseeds : ∀ s ∈ seeds, s.1 ∈ rows)
    (hids : (rows.map DocRow.id).Nodup) {r : DocRow Doc} (hr : r ∈ rows) :
    r.id ∈ visits.map (·.row.id) ↔ (hopCounts e w.traversal rows seeds r).Nonempty := by
  rw [List.mem_map]
  constructor
  · rintro ⟨v, hv, hid⟩
    obtain ⟨hallows, s, hs, -, hhops⟩ := (h v).1 hv
    have hrow := List.inj_on_of_nodup_map hids (mem_rows_of_hops hhops (hseeds s hs)) hr hid
    exact ⟨v.depth, hallows, s, hs, hrow ▸ hhops⟩
  · rintro ⟨n, hallows, s, hs, hhops⟩
    exact ⟨⟨r, n, s.2⟩, (h _).2 ⟨hallows, s, hs, rfl, hhops⟩, rfl⟩

/-- Rows that a walk did not reach are joined to nothing. -/
theorem joinsReached_filter_iff (h : w.Covers e rows seeds visits)
    (hseeds : ∀ s ∈ seeds, s.1 ∈ rows) (hids : (rows.map DocRow.id).Nodup)
    {joined : List (DocRow Doc)} :
    JoinsReached visits (rows.filter (·.id ∈ visits.map (·.row.id))) joined ↔
      JoinsReached visits rows joined := by
  have hsame : (rows.filter (·.id ∈ visits.map (·.row.id))).filterMap
      (fun r => (reachedAt? visits r.id).map fun p => (r, p)) =
        rows.filterMap fun r => (reachedAt? visits r.id).map fun p => (r, p) := by
    rw [List.filterMap_filter]
    refine List.filterMap_congr fun r hr => ?_
    split
    · rfl
    · rename_i hid
      rw [decide_eq_true_eq, h.id_mem_iff hseeds hids hr] at hid
      cases hreached : reachedAt? visits r.id with
      | none => rfl
      | some p => exact absurd ((h.reachedAt?_eq_some_iff hseeds hids hr).1 hreached).1 hid
  rw [JoinsReached, JoinsReached, hsame]

/-- The rows that a listing leaves out. -/
theorem filter_left (h : w.Covers e rows seeds visits) (hseeds : ∀ s ∈ seeds, s.1 ∈ rows)
    (hids : (rows.map DocRow.id).Nodup) {listed : List (DocRow Doc)}
    (hlisted : IsListing e w.traversal rows seeds listed) :
    rows.filter (·.id ∉ visits.map (·.row.id)) = rows.filter (·.id ∉ listed.map DocRow.id) := by
  refine List.filter_congr fun r hr => ?_
  have hlist : r.id ∈ listed.map DocRow.id ↔ (hopCounts e w.traversal rows seeds r).Nonempty := by
    rw [List.mem_map]
    constructor
    · rintro ⟨r', hr', hid⟩
      obtain ⟨hrow, hne⟩ := (hlisted.mem_iff r').1 hr'
      exact List.inj_on_of_nodup_map hids hrow hr hid ▸ hne
    · exact fun hne => ⟨r, (hlisted.mem_iff r).2 ⟨hr, hne⟩, rfl⟩
  rw [decide_eq_decide, h.id_mem_iff hseeds hids hr, hlist]

end Walk.Covers

/-! ## Statements -/

section Statements

variable {w : Walk} {table : String} {ps : List Param} {db : Tables Doc}

/-- The rows joined to a walk are the listings of what it reaches. -/
theorem Origin.gives_walk_iff (ps : List Param)
    (hseeds : db.hiding ["walk"] w.seeds.table = some rows)
    (hrows : db.hiding ["walk"] w.table = some rows)
    (htable : db.hiding ["walk"] table = some rows) (hids : (rows.map DocRow.id).Nodup)
    (hends : w.bound.isSome = true ∨ HasNoCycle e w.traversal rows) (picked : List (DocRow Doc)) :
    (Origin.walk w table).Gives e ps db picked ↔
      ∃ seeds, w.seeds.PicksNumbered e ps w.numbering rows seeds ∧
        IsListing e w.traversal rows seeds picked := by
  have hvisits := Walk.exists_visits_iff ps (P := (JoinsReached · rows picked)) hseeds hrows
    hends fun visits seeds hmem h => h.joinsReached_iff hmem hids
  rw [← hvisits]
  constructor
  · rintro ⟨visits, rows', hwalk, hrows', hjoins⟩
    obtain rfl : rows = rows' := Option.some.inj (htable.symm.trans hrows')
    exact ⟨visits, hwalk, hjoins⟩
  · rintro ⟨visits, hwalk, hjoins⟩
    exact ⟨visits, rows, hwalk, htable, hjoins⟩

/-- Deleting what a walk reaches gives the ids of a listing, and leaves all other rows. -/
theorem Reading.answers_deleteWalked_iff
    (hseeds : db.hiding ["walk", "removed"] w.seeds.table = some rows)
    (hrows : db.hiding ["walk", "removed"] w.table = some rows)
    (htable : db.hiding ["walk", "removed"] table = some rows)
    (hids : (rows.map DocRow.id).Nodup)
    (hends : w.bound.isSome = true ∨ HasNoCycle e w.traversal rows) {a : Result Doc} :
    (Reading.deleteWalked w table).Answers e ps db a ↔
      ∃ seeds, w.seeds.PicksNumbered e ps w.numbering rows seeds ∧
        ∃ listed, IsListing e w.traversal rows seeds listed ∧
          a = .removed (listed.map DocRow.id) (rows.filter (·.id ∉ listed.map DocRow.id)) := by
  have hvisits := Walk.exists_visits_iff ps hseeds hrows hends
    (P := fun visits => ∃ listed,
      JoinsReached visits (rows.filter (·.id ∈ visits.map (·.row.id))) listed ∧
        a = .removed (listed.map DocRow.id) (rows.filter (·.id ∉ visits.map (·.row.id))))
    (Q := fun seeds => ∃ listed, IsListing e w.traversal rows seeds listed ∧
      a = .removed (listed.map DocRow.id) (rows.filter (·.id ∉ listed.map DocRow.id)))
    fun visits seeds hmem h => exists_congr fun listed => by
      rw [h.joinsReached_filter_iff hmem hids, h.joinsReached_iff hmem hids]
      exact and_congr_right fun hlisted => by rw [h.filter_left hmem hids hlisted]
  rw [← hvisits]
  constructor
  · intro h
    cases h with
    | @deleteWalked _ _ visits rows' gone hwalk hrows' hgone =>
      obtain rfl : rows = rows' := Option.some.inj (htable.symm.trans hrows')
      exact ⟨visits, hwalk, gone, hgone, rfl⟩
  · rintro ⟨visits, hwalk, gone, hgone, rfl⟩
    exact .deleteWalked hwalk htable hgone

end Statements

/-! ## Queries -/

theorem Tables.hiding_of_notMem {db : Tables Doc} {names : List String} {table : String}
    (h : table ∉ names) : db.hiding names table = db table := if_neg h

/-- A walk whose table is hidden has no rows. -/
theorem Walk.not_visits_of_hidden {w : Walk} {ps : List Param} {db : Tables Doc}
    {names : List String} (h : w.table ∈ names) (visits : List (Visit Doc)) :
    ¬ w.Visits e ps (db.hiding names) visits := by
  rintro ⟨_, rows, _, _, -, hrows, -⟩
  rw [Tables.hiding, if_pos h] at hrows
  simp at hrows

namespace Query

variable {q : Query} {t : Traversal} {table : TableName} {db : Tables Doc}

/-- What the walk of a query may start from: rows under its filter in its order and window, with
the numbers that they have in that order. -/
def Seeds (q : Query) (e : Engine Doc) (table : String) (rows : List (DocRow Doc))
    (seeds : List (DocRow Doc × Nat)) : Prop :=
  (q.scan table).PicksNumbered e q.filterParams q.sort rows seeds

theorem answers_selectKeyed_iff (q : Query) (table : TableName) (lock : Bool) {a : Result Doc} :
    (q.selectKeyed table.text lock).Answers e db a ↔
      ∃ picked, (q.origin table.text).Gives e q.filterParams db picked ∧ a = .entries picked := by
  rw [Statement.answers_iff (q.readStatement?_selectKeyed table lock),
    q.params_compile table (.selectKeyed lock) rfl]
  exact Reading.answers_select_iff

theorem answers_delete_iff (q : Query) (table : TableName) {a : Result Doc} :
    (q.delete table.text).Answers e db a ↔
      (q.deletion table.text).Answers e q.filterParams db a := by
  rw [Statement.answers_iff (q.readStatement?_delete table),
    q.params_compile table .delete rfl]

/-- The keyed select of a walk answers the listings of what allowed walks reach from the seeds:
each such document once and no other, by least hops and then by least seed number, ties in any
order.  The delete answers the ids of these listings in their order and leaves all other rows.
There is a listing for all seeds that the server may pick. -/
theorem answers_walk (q : Query) (table : TableName) (e : Engine Doc) (db : Tables Doc)
    (hq : q.recurse = some t) (hrows : db table.text = some rows)
    (hids : (rows.map DocRow.id).Nodup) (hends : t.maxDepth.isSome = true ∨ HasNoCycle e t rows)
    (hwalk : table.text ≠ "walk") :
    (∃ seeds, q.Seeds e table.text rows seeds) ∧
      (∀ seeds, q.Seeds e table.text rows seeds → ∃ listed, IsListing e t rows seeds listed) ∧
      (∀ lock a, (q.selectKeyed table.text lock).Answers e db a ↔
        ∃ seeds, q.Seeds e table.text rows seeds ∧
          ∃ listed, IsListing e t rows seeds listed ∧ a = .entries listed) ∧
      (table.text ≠ "removed" → ∀ a, (q.delete table.text).Answers e db a ↔
        ∃ seeds, q.Seeds e table.text rows seeds ∧
          ∃ listed, IsListing e t rows seeds listed ∧
            a = .removed (listed.map DocRow.id) (rows.filter (·.id ∉ listed.map DocRow.id))) := by
  refine ⟨Scan.exists_picksNumbered _ e _ _ rows, fun _ _ => exists_isListing e t hids, ?_, ?_⟩
  · intro lock a
    have htable : db.hiding ["walk"] table.text = some rows := by
      rwa [Tables.hiding_of_notMem (by simpa using hwalk)]
    have horigin : q.origin table.text = .walk (q.walkOf table.text t) table.text := by
      rw [origin, hq]
    have hgives := fun picked => Origin.gives_walk_iff q.filterParams (w := q.walkOf table.text t)
      htable htable htable hids hends picked
    rw [answers_selectKeyed_iff, horigin]
    constructor
    · rintro ⟨picked, hpicked, rfl⟩
      obtain ⟨seeds, hseeds, hlisting⟩ := (hgives picked).1 hpicked
      exact ⟨seeds, hseeds, picked, hlisting, rfl⟩
    · rintro ⟨seeds, hseeds, listed, hlisting, rfl⟩
      exact ⟨listed, (hgives listed).2 ⟨seeds, hseeds, hlisting⟩, rfl⟩
  · intro hremoved a
    have htable : db.hiding ["walk", "removed"] table.text = some rows := by
      rwa [Tables.hiding_of_notMem (by simpa using ⟨hwalk, hremoved⟩)]
    have hdeletion : q.deletion table.text =
        .deleteWalked (q.walkOf table.text t) table.text := by
      rw [deletion, hq]
    rw [answers_delete_iff, hdeletion]
    exact Reading.answers_deleteWalked_iff htable htable htable hids hends

/-- From two leaves up to the root that they share, one hop far. -/
def upwards : Query :=
  { all with
    conditions := ⟨.and, [⟨⟨["kind"]⟩, .eq, [.string "leaf"]⟩], []⟩
    sort := [⟨⟨["id"]⟩, .asc⟩]
    recurse := some ⟨⟨["parent"]⟩, ⟨["id"]⟩, some 1⟩ }

/-- A root and two leaves. -/
def family : List (DocRow Json) :=
  [⟨"A", .ofMembers [("id", .string "A")]⟩,
    ⟨"B1", .ofMembers [("id", .string "B1"), ("kind", .string "leaf"), ("parent", .string "A")]⟩,
    ⟨"B2", .ofMembers [("id", .string "B2"), ("kind", .string "leaf"), ("parent", .string "A")]⟩]

theorem answers_walk_upwards :
    upwards.recurse = some ⟨⟨["parent"]⟩, ⟨["id"]⟩, some 1⟩ ∧ (family.map DocRow.id).Nodup ∧
      ∃ seeds listed, upwards.Seeds .json "docs" family seeds ∧
        IsListing .json ⟨⟨["parent"]⟩, ⟨["id"]⟩, some 1⟩ family seeds listed ∧
        (upwards.selectKeyed "docs" false).Answers .json (fun _ => some family)
          (.entries listed) ∧
        (upwards.delete "docs").Answers .json (fun _ => some family)
          (.removed (listed.map DocRow.id) (family.filter (·.id ∉ listed.map DocRow.id))) := by
  have hids : (family.map DocRow.id).Nodup := by decide
  obtain ⟨⟨seeds, hseeds⟩, hlist, hkeyed, hdelete⟩ := answers_walk upwards
    ⟨"docs", by decide, by decide⟩ .json (fun _ => some family) rfl rfl hids (Or.inl rfl)
    (by decide)
  obtain ⟨listed, hlisting⟩ := hlist seeds hseeds
  exact ⟨rfl, hids, seeds, listed, hseeds, hlisting,
    (hkeyed false _).2 ⟨seeds, hseeds, listed, hlisting, rfl⟩,
    (hdelete (by decide) _).2 ⟨seeds, hseeds, listed, hlisting, rfl⟩⟩

/-- A walk hides a table that is called as it is: with a table `walk` there is a document to
give, and no answer. -/
theorem selectKeyed_walk_unanswered :
    let t : Traversal := ⟨⟨["id"]⟩, ⟨["parent"]⟩, some 1⟩
    let q : Query := { all with recurse := some t }
    let root : DocRow Json := ⟨"A", .ofMembers [("id", .string "A")]⟩
    (∃ seeds listed, q.Seeds .json "walk" [root] seeds ∧
        IsListing .json t [root] seeds listed ∧ root ∈ listed) ∧
      ∀ a, ¬ (q.selectKeyed "walk" false).Answers Engine.json (fun _ => some [root]) a := by
  intro t q root
  refine ⟨?_, ?_⟩
  · have hseeds : q.Seeds .json "walk" [root] [(root, 1)] :=
      ⟨[root], [(root, 1)], ⟨.refl _, List.pairwise_singleton _ _⟩,
        ⟨.refl _, List.pairwise_singleton _ _⟩, rfl⟩
    obtain ⟨listed, hlisting⟩ : ∃ listed, IsListing .json t [root] [(root, 1)] listed :=
      exists_isListing .json t (List.nodup_singleton _)
    have hreached : (hopCounts Engine.json t [root] [(root, 1)] root).Nonempty :=
      ⟨0, fun d _ => Nat.zero_le d, (root, 1), List.mem_singleton_self _, .here root⟩
    exact ⟨_, listed, hseeds, hlisting,
      (hlisting.mem_iff root).2 ⟨List.mem_singleton_self _, hreached⟩⟩
  · intro a ha
    obtain ⟨picked, ⟨visits, rows, hvisits, -⟩, -⟩ :=
      (answers_selectKeyed_iff q ⟨"walk", by decide, by decide⟩ false).1 ha
    exact Walk.not_visits_of_hidden (List.mem_singleton_self _) visits hvisits

end Query

end DocStore
