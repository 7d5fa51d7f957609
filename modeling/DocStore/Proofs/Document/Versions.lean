import DocStore.Document.Store
import DocStore.Proofs.Document.Batches
import DocStore.Proofs.Table.Documents

/-!
# Versions

Documents are saved into a table one after the other (`after`), each by the statement that
the layout makes for it.  The version that is reported for a document counts the saves that
changed it (`versions_count_changes`).

The columns have no widths and their numbers no bounds: keys are those of at most 200 characters,
which the server takes, and versions those that fit their column.
-/

namespace DocStore

open Sql

/-- A save of a document, and when it takes place, in microseconds since 1970. -/
structure Save where
  now : Int
  entry : Entry

namespace DocumentTable

section Steps

variable (b : Backend) (table : DocumentTable) (l : TableLayout)

/-- What the statement of a save makes of the table; none if it is refused. -/
def saved? (t : Table) (save : Save) : Option Table :=
  let st := table.upsertStatement l save.entry
  match Meaning.ofSql? st.sql with
  | some (.save u) =>
      if u.table = table.name.text then u.run? b save.now (st.params.map Param.datum) t else none
  | _ => none

/-- The table behind a save. -/
def behind (t : Table) (save : Save) : Table := (table.saved? b l t save).getD t

/-- The table behind several saves. -/
def after (t : Table) (saves : List Save) : Table := saves.foldl (table.behind b l) t

/-- Several saves, each with the table in front of it. -/
def steps : Table → List Save → List (Table × Save)
  | _, [] => []
  | t, save :: rest => (t, save) :: steps (table.behind b l t save) rest

/-- A document of this key is saved, and the save is not refused. -/
def isSaveOf (key : String) (step : Table × Save) : Bool :=
  step.2.entry.key = key && (table.saved? b l step.1 step.2).isSome

/-- There was a document of this key already, and it said something else. -/
def isChangeOf (key : String) (step : Table × Save) : Bool :=
  table.isSaveOf b l key step && (TableLayout.rowAt? step.1 key).any fun row =>
    TableLayout.isChange? b step.2.entry.data.text row = some true

/-- The version of a document, if there is one. -/
def version? (t : Table) (key : String) : Option Int :=
  (TableLayout.rowAt? t key).map l.versionOf

/-- The metadata of a row. -/
def metadataOf (now : Int) (row : Row) : Metadata :=
  ⟨row.textAt "id", l.versionOf row, .ofMicros (l.lastUpdatedOf now row)⟩

/-- What the changes add to a version. -/
def growth (key : String) (steps : List (Table × Save)) : Int :=
  if l.version then steps.countP (table.isChangeOf b l key) else 0

end Steps

section Saves

variable {b : Backend} {table : DocumentTable} {l : TableLayout} {t : Table}

theorem saved?_eq (save : Save) :
    table.saved? b l t save =
      (l.saving table.name.text).run? b save.now [.text save.entry.key, .text save.entry.data.text]
        t := by
  have hmeaning : Meaning.ofSql? (table.upsertStatement l save.entry).sql =
      some (.save (l.saving table.name.text)) := l.meaning_upsertSql table.name
  rw [saved?, hmeaning]
  exact if_pos rfl

theorem saves_saved? (b : Backend) (table : DocumentTable) (ht : l.Fits t) (save : Save) :
    TableLayout.Saves b l save.now save.entry.key save.entry.data.text t
      (table.saved? b l t save) := by
  rw [saved?_eq]
  exact TableLayout.saves_run? ht

theorem fits_behind (ht : l.Fits t) (save : Save) : l.Fits (table.behind b l t save) := by
  have hsaves := saves_saved? b table ht save
  rw [behind]
  cases h : table.saved? b l t save with
  | none => exact ht
  | some t' => exact (h ▸ hsaves).fits ht

theorem fits_after (ht : l.Fits t) (saves : List Save) : l.Fits (table.after b l t saves) := by
  induction saves generalizing t with
  | nil => exact ht
  | cons save rest ih => exact ih (fits_behind ht save)

theorem growth_cons (key : String) (step : Table × Save) (steps : List (Table × Save)) :
    table.growth b l key (step :: steps) =
      table.growth b l key [step] + table.growth b l key steps := by
  rw [growth, growth, growth, List.countP_cons, List.countP_singleton]
  split
  · push_cast
    exact Int.add_comm _ _
  · rfl

/-- What is no save of the document adds nothing. -/
theorem growth_of_not_save {key : String} {step : Table × Save}
    (h : table.isSaveOf b l key step = false) : table.growth b l key [step] = 0 := by
  simp [growth, isChangeOf, h]

/-- A save counts for the version of its own document. -/
theorem version?_behind (ht : l.Fits t) (save : Save) (key : String) :
    version? l (table.behind b l t save) key =
      ((version? l t key).or (if table.isSaveOf b l key (t, save) then some 1 else none)).map
        (· + table.growth b l key [(t, save)]) := by
  have hsaves := saves_saved? b table ht save
  cases hsaved : table.saved? b l t save with
  | none =>
    have hsave : table.isSaveOf b l key (t, save) = false := by simp [isSaveOf, hsaved]
    rw [growth_of_not_save hsave, behind, hsaved, hsave]
    simp
  | some t' =>
    rw [hsaved] at hsaves
    rw [behind, hsaved, Option.getD_some, version?]
    by_cases hkey : save.entry.key = key
    · subst hkey
      rw [hsaves.version_eq ht, version?]
      cases hrow : TableLayout.rowAt? t save.entry.key with
      | none => simp [isSaveOf, hsaved, growth, isChangeOf, hrow]
      | some row =>
        by_cases hchange : TableLayout.isChange? b save.entry.data.text row = some true <;>
          simp [growth, isChangeOf, isSaveOf, hsaved, hrow, hchange]
    · have hsave : table.isSaveOf b l key (t, save) = false := by simp [isSaveOf, hkey]
      rw [growth_of_not_save hsave, hsave, hsaves.rowAt?_of_ne ht (Ne.symm hkey), version?]
      cases TableLayout.rowAt? t key <;> simp

/-- The version of a document counts what changed it. -/
theorem version?_after (b : Backend) (table : DocumentTable) (ht : l.Fits t)
    (saves : List Save) (key : String) :
    version? l (table.after b l t saves) key =
      ((version? l t key).or
        (if (table.steps b l t saves).any (table.isSaveOf b l key) then some 1 else none)).map
          (· + table.growth b l key (table.steps b l t saves)) := by
  induction saves generalizing t with
  | nil => simp [after, steps, growth]
  | cons save rest ih =>
    have hrest := ih (t := table.behind b l t save) (fits_behind ht save)
    rw [version?_behind ht] at hrest
    rw [steps, List.any_cons, growth_cons]
    refine Eq.trans hrest ?_
    cases version? l t key with
    | some v => simp [Int.add_assoc]
    | none =>
      cases hsave : table.isSaveOf b l key (t, save) with
      | true => simp [Int.add_assoc]
      | false =>
        rw [Bool.false_or]
        simp [growth_of_not_save hsave]

/-- There is a row for each key that had one or was saved, and no other. -/
theorem length_rows_after (ht : l.Fits t) (saves : List Save) (key : String) :
    ((table.after b l t saves).rows.filter fun row => row.lookup "id" = some (.text key)).length =
      if (TableLayout.rowAt? t key).isSome ||
        (table.steps b l t saves).any (table.isSaveOf b l key) then 1 else 0 := by
  have hversion := version?_after b table ht saves key
  rw [filter_eq_toList_find? (fits_after ht saves).once]
  have hsome : (TableLayout.rowAt? (table.after b l t saves) key).isSome =
      ((TableLayout.rowAt? t key).isSome ||
        (table.steps b l t saves).any (table.isSaveOf b l key)) := by
    have hcongr := congrArg Option.isSome hversion
    cases hrow : TableLayout.rowAt? t key <;>
      cases hsaved : (table.steps b l t saves).any (table.isSaveOf b l key) <;>
        simpa [version?, hrow, hsaved] using hcongr
  rw [← hsome, TableLayout.rowAt?]
  cases (table.after b l t saves).rows.find? fun row => row.lookup "id" = some (.text key) <;> rfl

/-- Saving a document once more changes nothing, at whatever times. -/
theorem after_again (ht : l.Fits t) {save : Save} {t' : Table}
    (h : table.saved? b l t save = some t') (times : List Int) :
    table.after b l t' (times.map fun now => ⟨now, save.entry⟩) = t' := by
  have hsaves := saves_saved? b table ht save
  rw [h] at hsaves
  have hbehind : ∀ now, table.behind b l t' ⟨now, save.entry⟩ = t' := by
    intro now
    have hrow := hsaves.rowAt?_self ht
    exact (saves_saved? b table (hsaves.fits ht) ⟨now, save.entry⟩).eq_of_not_change hrow
      (hsaves.isChange?_self ht hrow)
  induction times with
  | nil => rfl
  | cons now rest ih =>
    rw [List.map_cons, after, List.foldl_cons, hbehind]
    exact ih

/-- The metadata of the keys that have a document are reported in the order of the keys, with
the versions of their rows. -/
theorem metadata_of_gives (store : DocumentStore) (ht : l.Fits t) {keys : List String}
    {answer : Answer} {now : Int} (pinned : Bool)
    (h : (l.reporting store.tableName).Gives b now [.texts keys] t.rows answer.rows) :
    ∃ metas : List Metadata,
      ((store.metadata keys).script pinned).Path
        [(.execute ⟨l.metadataSql store.tableName, [.textArray keys]⟩, .ok answer)] (.done metas) ∧
      (metas.map Metadata.key).Pairwise (fun key key' => keys.idxOf key < keys.idxOf key') ∧
      (∀ key, key ∈ metas.map Metadata.key ↔
        key ∈ keys ∧ (TableLayout.rowAt? t key).isSome = true) ∧
      ∀ m ∈ metas, version? l t m.key = some m.version := by
  obtain ⟨picked, hpicked, hrows, hordered, hmem⟩ := ht.of_gives h
  have hkeys : (picked.map (metadataOf l now)).map Metadata.key =
      picked.map fun row => row.textAt "id" := by
    rw [List.map_map]
    rfl
  have hread : answer.readAll (fun row => do
      let key ← Cell.atPlace Cell.readText row 0
      let version ← Cell.atPlace Cell.readInteger row 1
      let lastUpdated ← Cell.atPlace Cell.readInstant row 2
      .ok (⟨key, version, lastUpdated⟩ : Metadata)) = .ok (picked.map (metadataOf l now)) := by
    rw [Answer.readAll, mapM_eq_ok_iff, hrows, List.forall₂_map_left_iff,
      List.forall₂_map_right_iff, List.forall₂_same]
    exact fun row _ => rfl
  refine ⟨picked.map (metadataOf l now), ?_, hkeys ▸ hordered, hkeys ▸ hmem, fun m hm => ?_⟩
  · refine @Script.Path.inspect _ _ _ (some l) _ _ (.ask ?_)
    show Script.Path (DocumentStore.orError (answer.readAll _)) [] _
    rw [hread]
    exact .refl _
  · obtain ⟨row, hrow, rfl⟩ := List.mem_map.1 hm
    exact congrArg (Option.map l.versionOf) (ht.rowAt?_of_mem (hpicked row hrow))

/-- The database that answers the statement of a save has saved the document. -/
theorem once_upsertStatement_iff {entry : Entry} {answer : Answer} {outer s' : Views} :
    Serves.Once b table.name.text (t :: outer) (.execute (table.upsertStatement l entry))
        (.ok answer) s' ↔
      ∃ now t', table.saved? b l t ⟨now, entry⟩ = some t' ∧ s' = t' :: outer := by
  have hmeaning : Meaning.ofSql? (table.upsertStatement l entry).sql =
      some (.save (l.saving table.name.text)) := l.meaning_upsertSql table.name
  constructor
  · intro h
    cases h with
    | @execute _ t' _ _ _ m hread h =>
      obtain rfl := Option.some.inj (hmeaning.symm.trans hread)
      obtain ⟨-, now, hrun⟩ := h
      exact ⟨now, t', (saved?_eq ⟨now, entry⟩).trans hrun, rfl⟩
  · rintro ⟨now, t', hsaved, rfl⟩
    exact .execute hmeaning ⟨rfl, now, (saved?_eq ⟨now, entry⟩).symm.trans hsaved⟩

/-- The database that answers the question for metadata leaves the table. -/
theorem of_once_metadata {store : DocumentStore} {keys : List String} {answer : Answer}
    {outer s' : Views}
    (h : Serves.Once b store.tableName (t :: outer)
      (.execute ⟨l.metadataSql store.tableName, [.textArray keys]⟩) (.ok answer) s') :
    s' = t :: outer ∧
      ∃ now, (l.reporting store.tableName).Gives b now [.texts keys] t.rows answer.rows := by
  cases h with
  | @execute _ t' _ _ _ m hread h =>
    obtain rfl := Option.some.inj ((l.meaning_metadataSql store.table.name).symm.trans hread)
    obtain ⟨-, rfl, hgives⟩ := h
    exact ⟨rfl, hgives⟩

theorem version?_eq_one_of_not_kept (h : l.version = false) {key : String} {v : Int}
    (hv : version? l t key = some v) : v = 1 := by
  obtain ⟨row, -, rfl⟩ := Option.map_eq_some_iff.1 hv
  rw [TableLayout.versionOf, h]
  rfl

end Saves

/-- However a table of documents looked and whatever is saved into it, each key has one row, and
the version that is reported for it counts the saves that changed the document. -/
theorem versions_count_changes (b : Backend) (store : DocumentStore) {l : TableLayout} {t : Table}
    (ht : l.Fits t) (saves : List Save) :
    let reached := store.table.after b l t saves
    let steps := store.table.steps b l t saves
    l.Fits reached ∧
    (∀ key, (reached.rows.filter fun row => row.lookup "id" = some (.text key)).length =
      if (TableLayout.rowAt? t key).isSome || steps.any (store.table.isSaveOf b l key) then 1
      else 0) ∧
    (∀ key, version? l reached key =
      ((version? l t key).or
        (if steps.any (store.table.isSaveOf b l key) then some 1 else none)).map
          (· + store.table.growth b l key steps)) ∧
    (l.version = false → ∀ key v, version? l reached key = some v → v = 1) ∧
    (∀ save : Save,
      (store.table.saved? b l reached save = none ↔
        b.isJson save.entry.data.text = false ∨
        ∃ row, TableLayout.rowAt? reached save.entry.key = some row ∧
          (TableLayout.isChange? b save.entry.data.text row = none ∨
            TableLayout.isChange? b save.entry.data.text row = some true ∧
              l.version = true ∧ b.greatest < l.versionOf row + 1)) ∧
      (∀ row, TableLayout.rowAt? reached save.entry.key = some row →
        TableLayout.isChange? b save.entry.data.text row = some false →
          store.table.behind b l reached save = reached) ∧
      ∀ t', store.table.saved? b l reached save = some t' → ∀ times : List Int,
        store.table.after b l t' (times.map fun now => ⟨now, save.entry⟩) = t') ∧
    (∀ (entry : Entry) (answer : Answer) (s' : Views),
      Serves.Once b store.tableName [reached] (.execute (store.table.upsertStatement l entry))
          (.ok answer) s' ↔
        ∃ now t', store.table.saved? b l reached ⟨now, entry⟩ = some t' ∧ s' = [t']) ∧
    ∀ (keys : List String) (pinned : Bool),
      let command := Command.execute ⟨l.metadataSql store.tableName, [.textArray keys]⟩
      (∃ answer, Serves.Once b store.tableName [reached] command (.ok answer) [reached]) ∧
      ∀ answer s', Serves.Once b store.tableName [reached] command (.ok answer) s' →
        s' = [reached] ∧
        ∃ metas : List Metadata,
          ((store.metadata keys).script pinned).Path [(command, .ok answer)] (.done metas) ∧
          (metas.map Metadata.key).Pairwise (fun key key' => keys.idxOf key < keys.idxOf key') ∧
          (∀ key, key ∈ metas.map Metadata.key ↔
            key ∈ keys ∧ (TableLayout.rowAt? reached key).isSome = true) ∧
          ∀ m ∈ metas, version? l reached m.key = some m.version := by
  intro reached steps
  have hreached : l.Fits reached := fits_after ht saves
  refine ⟨hreached, length_rows_after ht saves, version?_after b store.table ht saves,
    fun h key v => version?_eq_one_of_not_kept h, fun save => ⟨?_, ?_, ?_⟩,
    fun entry answer s' => once_upsertStatement_iff, fun keys pinned => ?_⟩
  · exact (saves_saved? b store.table hreached save).eq_none_iff
  · intro row hrow hchange
    exact (saves_saved? b store.table hreached save).eq_of_not_change hrow (by simp [hchange])
  · exact fun t' h => after_again hreached h
  · intro command
    refine ⟨?_, fun answer s' h => ?_⟩
    · obtain ⟨rows, hgives⟩ := hreached.exists_gives b 0 store.tableName keys
      exact ⟨⟨rows, 0⟩, .execute (l.meaning_metadataSql store.table.name) ⟨rfl, rfl, 0, hgives⟩⟩
    · obtain ⟨hleft, now, hgives⟩ := of_once_metadata h
      exact ⟨hleft, metadata_of_gives store hreached pinned hgives⟩

/-! ### A table with rows from before -/

namespace Legacy

def store : DocumentStore :=
  ⟨⟨⟨"lamps", by decide +kernel, by decide +kernel⟩, none⟩, .ofSeconds 30⟩

/-- Blanks do not count in documents; in those below none is inside a string. -/
def backend : Backend :=
  ⟨fun _ => true, fun text => some (.ofList (text.toList.filter (· ≠ ' '))), 2147483647⟩

/-- One row without a version, and one without a document. -/
def contents : Table where
  columns := [⟨"id", .value .null⟩, ⟨"data", .value .null⟩, ⟨"version", .value (.integer 1)⟩,
    ⟨"last_updated", .now⟩, ⟨"date_created", .now⟩]
  rows :=
    [[("id", .text "hall"), ("data", .json "\x7b\"on\": true\x7d"), ("version", .null),
        ("last_updated", .null), ("date_created", .null)],
      [("id", .text "attic"), ("data", .null), ("version", .integer 7),
        ("last_updated", .instant 5), ("date_created", .instant 5)]]

def lamp (on : Bool) : Json := .object [("on", .bool on)]

def saves : List Save :=
  [⟨10, ⟨"hall", lamp true⟩⟩, ⟨20, ⟨"hall", lamp false⟩⟩, ⟨30, ⟨"hall", lamp false⟩⟩,
    ⟨40, ⟨"attic", lamp true⟩⟩, ⟨50, ⟨"porch", lamp true⟩⟩]

theorem fits_contents : TableLayout.full.Fits contents := by
  refine ⟨by decide +kernel, by decide, ?_, ?_, fun row hrow => ?_, by decide⟩
  · simp [contents]
  · simp [contents]
  · simp only [contents, List.mem_cons, List.not_mem_nil, or_false] at hrow
    rcases hrow with rfl | rfl
    · exact ⟨rfl, ⟨_, rfl⟩, .inr ⟨_, rfl⟩, fun _ => .inl rfl, fun _ => .inl rfl⟩
    · exact ⟨rfl, ⟨_, rfl⟩, .inl rfl, fun _ => .inr ⟨_, rfl⟩, fun _ => .inr ⟨_, rfl⟩⟩

/-- The first of these saves changes nothing, nor does the third. -/
theorem versions_count_changes_of_lamps :
    TableLayout.full.Fits contents ∧
      let reached := store.table.after backend .full contents saves
      version? .full reached "hall" = some 2 ∧ version? .full reached "attic" = some 8 ∧
        version? .full reached "porch" = some 1 := by
  obtain ⟨-, -, hversion, -⟩ := versions_count_changes backend store fits_contents saves
  refine ⟨fits_contents, (hversion "hall").trans ?_, (hversion "attic").trans ?_,
    (hversion "porch").trans ?_⟩
  all_goals
    -- The meaning of the statements is not read again here.
    simp only [growth, List.countP, List.countP.go, List.any, isChangeOf, isSaveOf, steps, saves,
      behind, saved?_eq]
    decide +kernel

end Legacy

end DocumentTable

end DocStore
