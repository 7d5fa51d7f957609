import DocStore.Proofs.KeyValue.Batch
import DocStore.Proofs.KeyValue.Starting

/-!
# Passing a key that was read to the store again

A key that is read from the table has the form in which it stands there.  If it was written
by the store (`Writes`, `Write.Wrote`), that is a normal form, and a normal form is its own
(`KeyValue.normalKey_normalKey`).  So an operation that is given this key means the row that
it was read from: `normal_form_reads_back`.

On the way: what removing a key leaves (`of_delete`), what is found by the reads that give
several settings (`Listing.setting?_of_mem`), and what writes that succeeded one after the
other leave under a key (`Writes.setting?_eq`).
-/

namespace DocStore.KeyValueStore

open Sql
open KeyValue (normalKey normalKey_normalKey SameKey IsNormal)

variable {s : KeyValueStore} {b : Backend} {t t' : Table} {outer after : Views}
  {past : List (Command × Reply)}

/-! ## Removing -/

/-- The table without the rows of a key. -/
def without (key : String) (t : Table) : Table :=
  { t with rows := t.rows.filter fun row => row.lookup "key" ≠ some (.text key) }

/-- Removing a key leaves the other keys as they are. -/
theorem IsSettings.without (ht : IsSettings t) (key : String) :
    IsSettings (without key t) ∧
      ∀ k, setting? (KeyValueStore.without key t) k = if k = key then none else setting? t k := by
  have hold : ∀ row ∈ (KeyValueStore.without key t).rows, row ∈ t.rows := fun row hrow =>
    (List.mem_filter.1 hrow).1
  refine ⟨⟨ht.columns, fun row hrow => ht.key row (hold row hrow),
    fun row hrow => ht.value row (hold row hrow),
    (List.filter_sublist.map _).nodup ht.once⟩, fun k => ?_⟩
  rw [setting?, KeyValueStore.without, List.find?_filter]
  split
  · rename_i hk
    subst hk
    rw [Option.map_eq_none_iff, List.find?_eq_none]
    intro row _
    simp
  · rename_i hk
    rw [setting?]
    congr 2
    funext row
    by_cases hrow : row.lookup "key" = some (.text k)
    · simp [hrow, hk]
    · simp [hrow]

/-- The statement removes the rows of the key, of which there is one at most. -/
theorem IsSettings.holds_delete_iff {name key : String} {answer : Answer} (ht : IsSettings t) :
    (Access.delete.meaning name).Holds b [.text key] name t answer t' ↔
      t' = KeyValueStore.without key t ∧ answer.affected = (setting? t key).toList.length := by
  have hmeant : ∀ now, ∀ row ∈ t.rows,
      meant? b ⟨now, [.text key], [(name, row)]⟩
        (some (.equal (.column none "key") (.placeholder 1))) =
      some (decide (row.lookup "key" = some (.text key))) :=
    fun now row hrow => ht.meant?_equal hrow rfl rfl
  have hkept : ∀ now, (t.rows.filter fun row => meant? b ⟨now, [.text key], [(name, row)]⟩
      (some (.equal (.column none "key") (.placeholder 1))) = some false) =
        (KeyValueStore.without key t).rows := by
    intro now
    refine List.filter_congr fun row hrow => ?_
    simp [hmeant now row hrow]
  have hremoved : ∀ now, (t.rows.filter fun row => meant? b ⟨now, [.text key], [(name, row)]⟩
      (some (.equal (.column none "key") (.placeholder 1))) = some true).length =
        (setting? t key).toList.length := by
    intro now
    have hrows : (t.rows.filter fun row => meant? b ⟨now, [.text key], [(name, row)]⟩
        (some (.equal (.column none "key") (.placeholder 1))) = some true) =
          (t.rows.find? fun row => row.lookup "key" = some (.text key)).toList := by
      rw [← filter_eq_toList_find? ht.once]
      refine List.filter_congr fun row hrow => ?_
      simp [hmeant now row hrow]
    rw [hrows, setting?]
    cases t.rows.find? fun row => row.lookup "key" = some (.text key) <;> rfl
  constructor
  · rintro ⟨-, now, -, rfl, haffected⟩
    exact ⟨congrArg (fun rows => { t with rows }) (hkept now), haffected.trans (hremoved now)⟩
  · rintro ⟨rfl, haffected⟩
    refine ⟨rfl, 0, fun row hrow => ?_, congrArg (fun rows => { t with rows }) (hkept 0).symm,
      haffected.trans (hremoved 0).symm⟩
    exact Option.isSome_of_eq_some (hmeant 0 row hrow)

/-- Removing a key tells whether it was there. -/
theorem of_delete {key : String} {pinned existed : Bool} (ht : IsSettings t)
    (hpath : ((s.delete key).script pinned).Path past (.done existed))
    (h : Serves b s.table.text (t :: outer) past after) :
    after = without (normalKey key) t :: outer ∧
      existed = (setting? t (normalKey key)).isSome := by
  obtain ⟨later, hbody, hserved, -⟩ := of_operation hpath h
  obtain ⟨answer, rest, rfl, hrest⟩ := Script.Path.of_sendOr hbody
  obtain ⟨rfl, hdone⟩ := Script.Path.of_done hrest
  obtain rfl := Script.done.inj hdone
  obtain ⟨t', hholds, hended⟩ := hserved.of_execute (Access.meaning_sql .delete s.table)
  obtain ⟨rfl, haffected⟩ := ht.holds_delete_iff.1 hholds
  refine ⟨Serves.nil_iff.1 hended, ?_⟩
  rw [haffected]
  cases setting? t (normalKey key) <;> rfl

/-- A key that is there can be removed. -/
theorem exists_delete {key value : String} (pinned : Bool) (ht : IsSettings t)
    (hvalue : setting? t (normalKey key) = some value) :
    ∃ past, ((s.delete key).script pinned).Path past (.done true) ∧
      Serves b s.table.text (t :: outer) past (without (normalKey key) t :: outer) := by
  refine ⟨[(.execute ⟨Access.delete.sql s.table.text, [.text (normalKey key)]⟩, .ok ⟨[], 1⟩)],
    path_operation pinned (.ask (.refl _)), ?_⟩
  have hholds : (Access.delete.meaning s.table.text).Holds b [.text (normalKey key)] s.table.text t
      ⟨[], 1⟩ (without (normalKey key) t) :=
    ht.holds_delete_iff.2 ⟨rfl, by rw [hvalue]; rfl⟩
  exact .next (.execute (Access.meaning_sql .delete s.table) hholds) (.refl _)

/-! ## Reading -/

/-- A key that is there can be read. -/
theorem exists_get {key value : String} (pinned : Bool) (ht : IsSettings t)
    (hvalue : setting? t (normalKey key) = some value) :
    ∃ past, ((s.get key).script pinned).Path past (.done (some value)) ∧
      Serves b s.table.text (t :: outer) past (t :: outer) := by
  refine ⟨[(.execute ⟨Access.readOne.sql s.table.text, [.text (normalKey key)]⟩,
    .ok ⟨[[.text value]], 1⟩)], path_operation pinned (.ask (.refl _)), ?_⟩
  have hgives : (Access.readingOne s.table.text).Gives b 0 [.text (normalKey key)] t.rows
      [[.text value]] := ht.gives_readingOne_iff.2 (by rw [hvalue]; rfl)
  exact .next (.execute (Access.meaning_sql .readOne s.table) ⟨rfl, rfl, 0, hgives⟩) (.refl _)

/-- The reads that give several settings. -/
inductive Listing where
  | all
  | starting (start : String)

namespace Listing

def operation (s : KeyValueStore) : Listing → Operation Unit Settings
  | all => s.getAll
  | starting start => s.getStarting start

/-- What is found in rows of keys and values are settings, whatever the rows were chosen by. -/
theorem setting?_of_readSettings {condition : Option Term} {now : Int} {params : List Datum}
    {name : String} {answer : Answer} {found : Settings} {key value : String} (ht : IsSettings t)
    (hgives : Fetch.Gives b now params { Access.readingStarting name with condition } t.rows
      answer.rows)
    (hread : readSettings answer = .ok found) (hmem : (key, value) ∈ found) :
    setting? t key = some value := by
  obtain ⟨picked, hpicks, hcells⟩ := hgives
  have hpicked : ∀ row ∈ picked, row ∈ t.rows := fun row hrow =>
    (List.mem_filter.1 (hpicks.perm.mem_iff.1 hrow)).1
  let pair (row : Row) : String × String := (Row.textAt "key" row, Row.textAt "value" row)
  have hrows : answer.rows = (picked.map pair).map fun e => [.text e.1, .text e.2] := by
    have hcell : ∀ row ∈ picked, (Access.readingStarting name).cells? b now params row =
        some [.text (Row.textAt "key" row), .text (Row.textAt "value" row)] :=
      fun row hrow => ht.cells?_readingStarting (hpicked row hrow)
    have hall := mapM_eq_some_map hcell
    rw [List.map_map]
    exact (Option.some.inj (hall.symm.trans hcells)).symm
  have honce : ((picked.map pair).map Prod.fst).Nodup := by
    rw [List.map_map]
    exact (hpicks.perm.map _).nodup_iff.2 ((List.filter_sublist.map _).nodup ht.nodup_keys)
  obtain ⟨row, hrow, hpair⟩ := List.mem_map.1 (((readSettings_spec hrows honce hread).2 _).1 hmem)
  obtain ⟨rfl, rfl⟩ := Prod.mk.inj hpair
  exact ht.setting?_eq_some_iff.2 ⟨row, hpicked row hrow, ht.lookup_key (hpicked row hrow), rfl⟩

/-- A read leaves the table as it is, and what it finds are settings of the table. -/
theorem setting?_of_mem {l : Listing} {pinned : Bool} {found : Settings} (ht : IsSettings t)
    (hpath : ((l.operation s).script pinned).Path past (.done found))
    (h : Serves b s.table.text (t :: outer) past after) :
    after = t :: outer ∧
      ∀ {key value : String}, (key, value) ∈ found → setting? t key = some value := by
  cases l with
  | all =>
    have hsql : "SELECT key, COALESCE(value, '') FROM " ++ s.table.text =
        Access.readAll.sql s.table.text := String.append_empty.symm
    obtain ⟨hafter, answer, -, hread, now, hgives⟩ := of_read .readAll hsql rfl hpath h
    exact ⟨hafter, setting?_of_readSettings ht hgives hread⟩
  | starting start =>
    obtain ⟨hafter, answer, -, hread, now, hgives⟩ := of_read .readStarting rfl rfl hpath h
    exact ⟨hafter, setting?_of_readSettings ht hgives hread⟩

end Listing

/-! ## Writing -/

/-- An operation that writes. -/
inductive Write where
  | set (key value : String)
  | setMany (items : Settings)
  | delete (key : String)

namespace Write

/-- The keys under which a value is written, as they were given. -/
def keys : Write → List String
  | set key _ => [key]
  | setMany items => items.map Prod.fst
  | delete _ => []

/-- What stands under a key behind the write, where something may have stood before. -/
def leaves (key : String) (before : Option String) : Write → Option String
  | set written value => if key = normalKey written then some value else before
  | setMany items => (written items key).or before
  | delete removed => if key = normalKey removed then none else before

/-- The operation came to its end, and this is what it made of the table. -/
def Succeeds (s : KeyValueStore) (b : Backend) (t t' : Table) (w : Write) : Prop :=
  ∃ (pinned : Bool) (past : List (Command × Reply)), Serves b s.table.text [t] past [t'] ∧
    match w with
    | set key value => ((s.set key value).script pinned).Path past (.done ())
    | setMany items => ((s.setMany items).script pinned).Path past (.done ())
    | delete key => ∃ existed, ((s.delete key).script pinned).Path past (.done existed)

/-- A write leaves settings. -/
theorem Succeeds.leaves {w : Write} (ht : IsSettings t) (h : w.Succeeds s b t t') :
    IsSettings t' ∧ ∀ key, setting? t' key = w.leaves key (setting? t key) := by
  obtain ⟨pinned, past, hserved, hpath⟩ := h
  cases w with
  | set key value =>
    obtain ⟨later, hbody, hserved, -⟩ := of_operation hpath hserved
    obtain ⟨t'', hafter, ht'', hput⟩ := of_put ht hbody hserved
    obtain ⟨rfl, -⟩ := List.cons.inj hafter
    exact ⟨ht'', hput⟩
  | setMany items =>
    obtain ⟨later, hbody, hserved, -⟩ := of_operation hpath hserved
    obtain ⟨t'', hafter, ht'', hputs⟩ := hserved.of_transaction hbody
      fun first between hfirst hfirstServed => of_putAll ht hfirst hfirstServed
    obtain ⟨rfl, -⟩ := List.cons.inj hafter
    exact ⟨ht'', hputs⟩
  | delete key =>
    obtain ⟨existed, hpath⟩ := hpath
    obtain ⟨hafter, -⟩ := of_delete ht hpath hserved
    obtain ⟨rfl, -⟩ := List.cons.inj hafter
    exact ht.without (normalKey key)

/-- What stands under a key was written there or stood there before. -/
theorem leaves_eq_some {w : Write} {key value : String} {before : Option String}
    (h : w.leaves key before = some value) :
    (∃ given ∈ w.keys, normalKey given = key) ∨ before = some value := by
  cases w with
  | set given value' =>
    rw [leaves] at h
    split at h
    · rename_i hkey
      exact .inl ⟨given, List.mem_singleton_self _, hkey.symm⟩
    · exact .inr h
  | setMany items =>
    rw [leaves, Option.or_eq_some_iff] at h
    rcases h with h | ⟨-, h⟩
    · obtain ⟨item, hitem, hkey, -⟩ := exists_of_written h
      exact .inl ⟨item.1, List.mem_map_of_mem hitem, hkey⟩
    · exact .inr h
  | delete removed =>
    rw [leaves] at h
    split at h
    · cases h
    · exact .inr h

/-- A key stands in the form in which one of the writes wrote it. -/
def Wrote (ws : List Write) (key : String) : Prop :=
  ∃ w ∈ ws, ∃ given ∈ w.keys, normalKey given = key

end Write

/-- Writes that succeeded, one after the other. -/
inductive Writes (s : KeyValueStore) (b : Backend) : Table → List Write → Table → Prop where
  | nil (t : Table) : Writes s b t [] t
  | cons {t between t' : Table} {w : Write} {ws : List Write} (h : w.Succeeds s b t between)
      (hrest : Writes s b between ws t') : Writes s b t (w :: ws) t'

namespace Writes

/-- What stands under a key is what the writes leave there, each where the one before left
something. -/
theorem setting?_eq {ws : List Write} (ht : IsSettings t) (h : Writes s b t ws t') :
    IsSettings t' ∧
      ∀ key, setting? t' key = ws.foldl (fun before w => w.leaves key before) (setting? t key) := by
  induction h with
  | nil t => exact ⟨ht, fun _ => rfl⟩
  | cons h _ ih =>
    obtain ⟨hbetween, hleaves⟩ := h.leaves ht
    obtain ⟨ht', hrest⟩ := ih hbetween
    exact ⟨ht', fun key => by rw [hrest, hleaves, List.foldl_cons]⟩

/-- A key that stands there in the end stood there before, or was written in this form. -/
theorem wrote_of_setting? {ws : List Write} {key value : String} (ht : IsSettings t)
    (h : Writes s b t ws t') (hvalue : setting? t' key = some value) :
    Write.Wrote ws key ∨ ∃ before, setting? t key = some before := by
  induction h with
  | nil t => exact .inr ⟨value, hvalue⟩
  | @cons t between t' w ws h _ ih =>
    obtain ⟨hbetween, hleaves⟩ := h.leaves ht
    rcases ih hbetween hvalue with ⟨later, hlater, hwrote⟩ | ⟨before, hbefore⟩
    · exact .inl ⟨later, List.mem_cons_of_mem w hlater, hwrote⟩
    · rw [hleaves] at hbefore
      rcases Write.leaves_eq_some hbefore with hwrote | hold
      · exact .inl ⟨w, List.mem_cons_self, hwrote⟩
      · exact .inr ⟨before, hold⟩

end Writes

/-! ## A key that was read -/

/-- An operation that is given the key of a setting means this setting. -/
structure Means (s : KeyValueStore) (b : Backend) (t : Table) (key value : String) : Prop where
  /-- Reading gives the value. -/
  get : ∀ {pinned : Bool} {past : List (Command × Reply)} {after : Views} {found : Option String},
    ((s.get key).script pinned).Path past (.done found) → Serves b s.table.text [t] past after →
    after = [t] ∧ found = some value
  /-- A secret is opened from it. -/
  secret : ∀ {pinned : Bool} {past : List (Command × Reply)} {after : Views}
    {found : Option String} (cipher : Cipher.SecretCipher),
    ((s.get key).script pinned).Path past (.done found) → Serves b s.table.text [t] past after →
    openSecure cipher found = (cipher.decrypt value).map some
  /-- Removing finds the setting, and leaves all others. -/
  delete : ∀ {pinned : Bool} {past : List (Command × Reply)} {after : Views} {existed : Bool},
    ((s.delete key).script pinned).Path past (.done existed) →
    Serves b s.table.text [t] past after →
    existed = true ∧ ∃ t', after = [t'] ∧ IsSettings t' ∧
      ∀ k, setting? t' k = if k = key then none else setting? t k
  /-- Both can come to their end. -/
  ends : ∀ pinned, (∃ past, ((s.get key).script pinned).Path past (.done (some value)) ∧
      Serves b s.table.text [t] past [t]) ∧
    ∃ past t', ((s.delete key).script pinned).Path past (.done true) ∧
      Serves b s.table.text [t] past [t']

/-- The key of a setting in normal form means it. -/
theorem IsSettings.means {key value : String} (ht : IsSettings t) (hkey : normalKey key = key)
    (hvalue : setting? t key = some value) : Means s b t key value := by
  have hnormal : setting? t (normalKey key) = some value := by rw [hkey, hvalue]
  constructor
  · intro pinned past after found hpath h
    obtain ⟨hafter, rfl⟩ := get_eq_setting? ht hpath h
    exact ⟨hafter, hnormal⟩
  · intro pinned past after found cipher hpath h
    rw [(get_eq_setting? ht hpath h).2, hnormal, openSecure]
  · intro pinned past after existed hpath h
    obtain ⟨rfl, rfl⟩ := of_delete ht hpath h
    rw [hnormal, hkey]
    exact ⟨rfl, _, rfl, ht.without key⟩
  · intro pinned
    obtain ⟨past, hpath, h⟩ := @exists_delete s b t [] _ _ pinned ht hnormal
    exact ⟨exists_get pinned ht hnormal, past, _, hpath, h⟩

/-- Normal forms are stable, clean, and tell apart exactly the keys that differ in more than what
they do away with.  So a key that was written by the store and is returned by a read means the
setting that it was returned with. -/
theorem normal_form_reads_back :
    (∀ key, normalKey (normalKey key) = normalKey key) ∧ (∀ key, IsNormal (normalKey key)) ∧
    (∀ key other, normalKey key = normalKey other ↔ SameKey key other) ∧
    ∀ {s : KeyValueStore} {b : Backend} {t t' : Table} {ws : List Write},
      IsSettings t → Writes s b t ws t' →
      (∀ {key value : String}, setting? t' key = some value →
        Write.Wrote ws key ∨ ∃ before, setting? t key = some before) ∧
      ∀ {l : Listing} {pinned : Bool} {past : List (Command × Reply)} {after : Views}
        {found : Settings} {key value : String},
        ((l.operation s).script pinned).Path past (.done found) →
        Serves b s.table.text [t'] past after → (key, value) ∈ found → Write.Wrote ws key →
        after = [t'] ∧ Means s b t' key value := by
  refine ⟨normalKey_normalKey, KeyValue.isNormal_normalKey,
    fun _ _ => KeyValue.normalKey_eq_iff, ?_⟩
  intro s b t t' ws ht hwrites
  refine ⟨fun hvalue => hwrites.wrote_of_setting? ht hvalue, ?_⟩
  intro l pinned past after found key value hpath h hmem hwrote
  obtain ⟨ht', -⟩ := hwrites.setting?_eq ht
  obtain ⟨hafter, hfound⟩ := Listing.setting?_of_mem ht' hpath h
  obtain ⟨-, -, given, -, rfl⟩ := hwrote
  exact ⟨hafter, ht'.means (normalKey_normalKey given) (hfound hmem)⟩

/-! ### A key that was written with a hyphen -/

namespace Hosts

open Sample

/-- An exchange in which the keys with this start are read, the table being known. -/
def listing : List (Command × Reply) :=
  [(.execute ⟨Access.readStarting.sql store.table.text, [.text (startPattern " SMTP.")]⟩,
    .ok ⟨[[.text "smtp_host", .text "b"]], 1⟩)]

theorem writes_items : Writes store backend (holding []) [.setMany items] (holding [row "b"]) :=
  .cons ⟨false, saving, serves_saving, path_saving⟩ (.nil _)

theorem path_listing :
    (((Listing.starting " SMTP.").operation store).script false).Path listing
      (.done [("smtp_host", "b")]) :=
  path_operation false (.ask (.refl _))

theorem serves_listing :
    Serves backend store.table.text [holding [row "b"]] listing [holding [row "b"]] := by
  have hgives : (Access.readingStarting "settings").Gives backend 0
      [.text (startPattern " SMTP.")] [row "b"] [[.text "smtp_host", .text "b"]] :=
    ⟨[row "b"], ⟨by decide +kernel, by decide +kernel, nofun⟩, rfl⟩
  exact .next (.execute (Access.meaning_sql .readStarting store.table) ⟨rfl, rfl, 0, hgives⟩)
    (.refl _)

/-- The key that a read returns for `smtp-host` means its setting. -/
theorem normal_form_reads_back_host :
    IsSettings (holding []) ∧
      Writes store backend (holding []) [.setMany items] (holding [row "b"]) ∧
      (((Listing.starting " SMTP.").operation store).script false).Path listing
        (.done [("smtp_host", "b")]) ∧
      Serves backend store.table.text [holding [row "b"]] listing [holding [row "b"]] ∧
      Write.Wrote [.setMany items] "smtp_host" ∧
      Means store backend (holding [row "b"]) "smtp_host" "b" := by
  have hwrote : Write.Wrote [.setMany items] "smtp_host" :=
    ⟨_, List.mem_singleton_self _, "smtp-host", by decide, by decide +kernel⟩
  obtain ⟨-, -, -, hreads⟩ := normal_form_reads_back
  obtain ⟨-, hmeans⟩ := hreads isSettings_holding_nil writes_items
  exact ⟨isSettings_holding_nil, writes_items, path_listing, serves_listing, hwrote,
    (hmeans path_listing serves_listing (List.mem_singleton_self _) hwrote).2⟩

end Hosts

end DocStore.KeyValueStore
