import DocStore.Proofs.KeyValue.Settings

/-!
# Setting several values at once

The items of a batch are written one after the other under their keys in normal form, so
that items whose keys have one normal form are written to one row: the last of them stays
(`written`).

* `setMany_leaves`: what a batch leaves in the table, and what is read from it.
* `written_of_mem_iff`: every item is read back when items with one normal form agree, and
  otherwise one is not.
* `written_perm_iff`: then and only then the order of the items does not matter.
-/

namespace DocStore.KeyValueStore

open Sql
open KeyValue (normalKey)

/-! ## What stays of a batch -/

/-- What a batch writes under a key: the value of the last item with this normal form. -/
def written (items : Settings) (key : String) : Option String :=
  (items.filter fun item => normalKey item.1 = key).getLast?.map Prod.snd

/-- Items whose keys have one normal form have one value. -/
def Agree (items : Settings) : Prop :=
  ∀ item ∈ items, ∀ other ∈ items, normalKey item.1 = normalKey other.1 → item.2 = other.2

theorem written_cons (item : String × String) (rest : Settings) (key : String) :
    written (item :: rest) key =
      (written rest key).or (if normalKey item.1 = key then some item.2 else none) := by
  rw [written, List.filter_cons, written]
  by_cases h : normalKey item.1 = key
  · rw [if_pos (decide_eq_true h), if_pos h, List.getLast?_cons]
    cases (rest.filter fun item => normalKey item.1 = key).getLast? <;> rfl
  · rw [if_neg (by simpa using h), if_neg h, Option.or_none]

theorem written_eq_none_iff {items : Settings} {key : String} :
    written items key = none ↔ ∀ item ∈ items, normalKey item.1 ≠ key := by
  simp [written]

theorem written_append_singleton (items : Settings) (item : String × String) :
    written (items ++ [item]) (normalKey item.1) = some item.2 := by
  simp [written, List.filter_append]

/-- What is written is the value of an item. -/
theorem exists_of_written {items : Settings} {key value : String}
    (h : written items key = some value) :
    ∃ item ∈ items, normalKey item.1 = key ∧ item.2 = value := by
  obtain ⟨item, hlast, hvalue⟩ := Option.map_eq_some_iff.1 h
  obtain ⟨hitem, hkey⟩ := List.mem_filter.1 (List.mem_of_getLast? hlast)
  exact ⟨item, hitem, of_decide_eq_true hkey, hvalue⟩

/-- Every item is written when items with one normal form agree, and only then. -/
theorem written_of_mem_iff {items : Settings} :
    (∀ item ∈ items, written items (normalKey item.1) = some item.2) ↔ Agree items := by
  constructor
  · intro h item hitem other hother hsame
    have hwritten := h item hitem
    rw [hsame, h other hother] at hwritten
    exact (Option.some.inj hwritten).symm
  · intro h item hitem
    cases hwritten : written items (normalKey item.1) with
    | none => exact absurd rfl (written_eq_none_iff.1 hwritten item hitem)
    | some value =>
      obtain ⟨other, hother, hsame, rfl⟩ := exists_of_written hwritten
      rw [h other hother item hitem hsame]

/-- The order of the items does not matter when items with one normal form agree, and only
then. -/
theorem written_perm_iff {items : Settings} :
    (∀ items' : Settings, items'.Perm items → written items' = written items) ↔ Agree items := by
  constructor
  · intro h
    refine written_of_mem_iff.1 fun item hitem => ?_
    have hlast := h (items.erase item ++ [item])
      ((List.perm_append_singleton _ _).trans (List.perm_cons_erase hitem).symm)
    rw [← hlast]
    exact written_append_singleton _ _
  · intro h items' hperm
    have h' : Agree items' := fun item hitem other hother =>
      h item (hperm.mem_iff.1 hitem) other (hperm.mem_iff.1 hother)
    funext key
    cases hwritten : written items key with
    | none =>
      exact written_eq_none_iff.2 fun item hitem =>
        written_eq_none_iff.1 hwritten item (hperm.mem_iff.1 hitem)
    | some value =>
      obtain ⟨item, hitem, rfl, rfl⟩ := exists_of_written hwritten
      exact written_of_mem_iff.2 h' item (hperm.mem_iff.2 hitem)

/-! ## What a batch leaves -/

section Leaves

variable {s : KeyValueStore} {b : Backend} {t : Table} {outer after : Views}
  {past : List (Command × Reply)}

theorem of_put {key value : String} (ht : IsSettings t)
    (hpath : (s.put key value).Path past (.done ()))
    (h : Serves b s.table.text (t :: outer) past after) :
    ∃ t', after = t' :: outer ∧ IsSettings t' ∧
      ∀ k, setting? t' k = if k = normalKey key then some value else setting? t k := by
  obtain ⟨answer, rest, rfl, hrest⟩ := Script.Path.of_sendOr hpath
  obtain ⟨rfl, -⟩ := Script.Path.of_done hrest
  obtain ⟨t', ⟨-, now, hrun⟩, hended⟩ := h.of_execute s.meaning_upsertSql
  exact ⟨t', Serves.nil_iff.1 hended, ht.put hrun⟩

/-- Behind several writes every key has what was written there last. -/
theorem of_putAll {items : Settings} (ht : IsSettings t)
    (hpath : (s.putAll items).Path past (.done ()))
    (h : Serves b s.table.text (t :: outer) past after) :
    ∃ t', after = t' :: outer ∧ IsSettings t' ∧
      ∀ k, setting? t' k = (written items k).or (setting? t k) := by
  induction items generalizing t past with
  | nil =>
    obtain ⟨rfl, -⟩ := Script.Path.of_done hpath
    exact ⟨t, Serves.nil_iff.1 h, ht, fun _ => rfl⟩
  | cons item rest ih =>
    obtain ⟨done, first, later, rfl, hfirst, hlater⟩ := Script.Path.of_bind_done hpath
    obtain ⟨between, hserved, hrest⟩ := Serves.append_iff.1 h
    obtain ⟨t₁, rfl, ht₁, hput⟩ := of_put ht hfirst hserved
    obtain ⟨t', hafter, ht', hputs⟩ := ih ht₁ hlater hrest
    refine ⟨t', hafter, ht', fun k => ?_⟩
    rw [hputs, hput, written_cons, Option.or_assoc]
    by_cases hk : k = normalKey item.1
    · simp [hk]
    · simp [hk, Ne.symm hk]

/-- A batch that came to its end leaves under every key what it wrote there last, and what stood
there if it wrote nothing; that is what is read back. -/
theorem setMany_leaves {items : Settings} {pinned : Bool} (ht : IsSettings t)
    (hpath : ((s.setMany items).script pinned).Path past (.done ()))
    (h : Serves b s.table.text (t :: outer) past after) :
    ∃ t', after = t' :: outer ∧ IsSettings t' ∧
      (∀ key, setting? t' key = (written items key).or (setting? t key)) ∧
      (∀ {key : String} {pinned : Bool} {past : List (Command × Reply)} {after : Views}
        {found : Option String}, ((s.get key).script pinned).Path past (.done found) →
        Serves b s.table.text (t' :: outer) past after →
        found = (written items (normalKey key)).or (setting? t (normalKey key))) ∧
      ((∀ item ∈ items, setting? t' (normalKey item.1) = some item.2) ↔ Agree items) ∧
      ((∀ items' : Settings, items'.Perm items → written items' = written items) ↔
        Agree items) := by
  obtain ⟨later, hbody, hserved, -⟩ := of_operation hpath h
  obtain ⟨t', hafter, ht', hleft⟩ := hserved.of_transaction hbody
    fun first between hfirst hfirstServed => of_putAll ht hfirst hfirstServed
  refine ⟨t', hafter, ht', hleft, fun hpath hget => ?_, ?_, written_perm_iff⟩
  · rw [(get_eq_setting? ht' hpath hget).2, hleft]
  · rw [← written_of_mem_iff]
    refine forall₂_congr fun item hitem => ?_
    rw [hleft]
    cases hwritten : written items (normalKey item.1) with
    | none => exact absurd rfl (written_eq_none_iff.1 hwritten item hitem)
    | some value => rfl

end Leaves

/-! ### Two keys with one normal form -/

namespace Hosts

open Sample

/-- A row for the host. -/
def row (value : String) : Row := [("key", .text "smtp_host"), ("value", .text value)]

/-- Both keys are `smtp_host` in normal form. -/
def items : Settings := [("smtp-host", "a"), ("smtp.host", "b")]

/-- An exchange in which both are saved, the table being known. -/
def saving : List (Command × Reply) :=
  [(.begin, .ok ⟨[], 0⟩),
    (.execute ⟨store.upsertSql, [.text (normalKey "smtp-host"), .text "a"]⟩, .ok ⟨[], 1⟩),
    (.execute ⟨store.upsertSql, [.text (normalKey "smtp.host"), .text "b"]⟩, .ok ⟨[], 1⟩),
    (.commit, .ok ⟨[], 0⟩)]

/-- An exchange in which the first is read back. -/
def reading : List (Command × Reply) :=
  [(.execute ⟨Access.readOne.sql store.table.text, [.text (normalKey "smtp-host")]⟩,
    .ok ⟨[[.text "b"]], 1⟩)]

theorem isSettings_holding_nil : IsSettings (holding []) :=
  ⟨by decide, nofun, nofun, List.nodup_nil⟩

theorem path_saving : ((store.setMany items).script false).Path saving (.done ()) :=
  path_operation false (.ask (.ask (.ask (.ask (.refl _)))))

theorem run?_first :
    (Access.putting "settings").run? backend 0 [.text (normalKey "smtp-host"), .text "a"]
      (holding []) = some (holding [row "a"]) := by
  decide +kernel

theorem run?_second :
    (Access.putting "settings").run? backend 0 [.text (normalKey "smtp.host"), .text "b"]
      (holding [row "a"]) = some (holding [row "b"]) := by
  decide +kernel

theorem serves_saving : Serves backend "settings" [holding []] saving [holding [row "b"]] :=
  .next .begin
    (.next (.execute store.meaning_upsertSql ⟨rfl, 0, run?_first⟩)
      (.next (.execute store.meaning_upsertSql ⟨rfl, 0, run?_second⟩)
        (.next .commit (.refl _))))

theorem path_reading : ((store.get "smtp-host").script false).Path reading (.done (some "b")) :=
  path_operation false (.ask (.refl _))

theorem serves_reading :
    Serves backend "settings" [holding [row "b"]] reading [holding [row "b"]] := by
  have hgives : (Access.readingOne "settings").Gives backend 0 [.text (normalKey "smtp-host")]
      [row "b"] [[.text "b"]] :=
    ⟨[row "b"], ⟨by decide +kernel, by decide +kernel, nofun⟩, rfl⟩
  exact .next (.execute (Access.meaning_sql .readOne store.table) ⟨rfl, rfl, 0, hgives⟩) (.refl _)

/-- The batch leaves what it wrote last under the key of both. -/
theorem setMany_leaves_last :
    IsSettings (holding []) ∧ ((store.setMany items).script false).Path saving (.done ()) ∧
      Serves backend store.table.text [holding []] saving [holding [row "b"]] ∧
      ∃ t', [holding [row "b"]] = [t'] ∧
        setting? t' "smtp_host" =
          (written items "smtp_host").or (setting? (holding []) "smtp_host") := by
  obtain ⟨t', hafter, -, hleft, -⟩ :=
    setMany_leaves isSettings_holding_nil path_saving serves_saving
  exact ⟨isSettings_holding_nil, path_saving, serves_saving, t', hafter, hleft "smtp_host"⟩

/-- Not every item of a map is read back: of these two the first is gone. -/
theorem not_reads_back_every_item :
    ¬ ∀ (s : KeyValueStore) (b : Backend) (t t' : Table) (items : Settings)
      (past : List (Command × Reply)), items.Pairwise (·.1 < ·.1) → IsSettings t →
      ((s.setMany items).script false).Path past (.done ()) →
      Serves b s.table.text [t] past [t'] → ∀ item ∈ items, ∀ past' found,
        ((s.get item.1).script false).Path past' (.done found) →
        Serves b s.table.text [t'] past' [t'] → found = some item.2 := by
  intro h
  have hsorted : items.Pairwise (·.1 < ·.1) := by decide +kernel
  have hread := h store backend (holding []) (holding [row "b"]) items saving hsorted
    isSettings_holding_nil path_saving serves_saving ("smtp-host", "a") (by decide) reading
    (some "b") path_reading serves_reading
  exact absurd hread (by decide)

end Hosts

end DocStore.KeyValueStore
