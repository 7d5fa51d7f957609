import DocStore.Proofs.KeyValue.Settings

/-!
# Reading the keys with a common start

A key/value store asks for the keys with a start by a pattern, whose special characters
are escaped after the start is brought into normal form.  `getStarting_finds`: the pattern
matches the keys with this start and no others, and what is read are the settings of
these keys, among them all that were saved under a key with the start as it was given.
-/

namespace DocStore.KeyValueStore

open Sql
open KeyValue (normalKey)

/-! ## Reading an answer -/

/-- Settings in a row of fields: the values are those that are not missing. -/
def present (settings : Settings) : List (String × Option String) :=
  settings.map fun e => (e.1, some e.2)

theorem present_put (key value : String) (settings : Settings) :
    present (readSettings.put key value settings) =
      FieldRow.ofColumns.put key (some value) (present settings) := by
  induction settings with
  | nil => rfl
  | cons first rest ih =>
    have hfirst : present (first :: rest) = (first.1, some first.2) :: present rest := rfl
    rw [hfirst, readSettings.put, FieldRow.ofColumns.put, ← ih]
    split
    · rfl
    · split <;> rfl

theorem present_foldl_put (pairs kept : Settings) :
    present (pairs.foldl (fun acc e => readSettings.put e.1 e.2 acc) kept) =
      (present pairs).foldl (fun acc column => FieldRow.ofColumns.put column.1 column.2 acc)
        (present kept) := by
  induction pairs generalizing kept with
  | nil => rfl
  | cons first rest ih =>
    rw [List.foldl_cons, ih, present_put]
    rfl

/-- Rows with different keys are read as they are, once and in the order of the keys. -/
theorem readSettings_spec {pairs found : Settings} {answer : Answer}
    (hrows : answer.rows = pairs.map fun e => [.text e.1, .text e.2])
    (honce : (pairs.map Prod.fst).Nodup) (h : readSettings answer = .ok found) :
    found.Pairwise (·.1 < ·.1) ∧ ∀ e, e ∈ found ↔ e ∈ pairs := by
  have hread : answer.readAll (fun row => do
      let key ← Cell.atPlace Cell.readText row 0
      let value ← Cell.atPlace Cell.readText row 1
      .ok (key, value)) = .ok pairs := by
    rw [Answer.readAll, mapM_eq_ok_iff, hrows, List.forall₂_map_left_iff, List.forall₂_same]
    exact fun e _ => rfl
  obtain rfl : pairs.foldl (fun acc e => readSettings.put e.1 e.2 acc) [] = found := by
    rw [readSettings, hread] at h
    exact Except.ok.inj h
  have hagree : ∀ column ∈ present pairs, ∀ other ∈ present pairs, other.1 = column.1 →
      other = column := by
    intro column hcolumn other hother hsame
    obtain ⟨e, he, rfl⟩ := List.mem_map.1 hcolumn
    obtain ⟨e', he', rfl⟩ := List.mem_map.1 hother
    obtain rfl := List.inj_on_of_nodup_map honce he' he hsame
    rfl
  obtain ⟨hsorted, hmem⟩ := FieldRow.ofColumns_spec hagree
  have hfields : (FieldRow.ofColumns (present pairs)).fields =
      present (pairs.foldl (fun acc e => readSettings.put e.1 e.2 acc) []) :=
    (present_foldl_put pairs []).symm
  rw [hfields] at hsorted hmem
  rw [present, List.pairwise_map] at hsorted
  have hinj : Function.Injective fun e : String × String => (e.1, some e.2) := by
    rintro ⟨k, v⟩ ⟨k', v'⟩ heq
    simpa using heq
  refine ⟨hsorted, fun e => ?_⟩
  simpa only [present, List.mem_map_of_injective hinj] using hmem (e.1, some e.2)

/-! ## The rows that are meant -/

namespace IsSettings

variable {b : Backend} {now : Int} {t : Table} {name start : String} {row : Row}

theorem lookup_key (ht : IsSettings t) (hrow : row ∈ t.rows) :
    row.lookup "key" = some (.text (Row.textAt "key" row)) := by
  obtain ⟨key, hkey⟩ := ht.key row hrow
  rw [Row.textAt, hkey]

theorem nodup_keys (ht : IsSettings t) : (t.rows.map (Row.textAt "key")).Nodup := by
  have hkeys : t.rows.map (·.lookup "key") =
      (t.rows.map (Row.textAt "key")).map fun key => some (.text key) := by
    rw [List.map_map]
    exact List.map_congr_left fun row hrow => ht.lookup_key hrow
  exact .of_map _ (hkeys ▸ ht.once)

/-- The pattern means the rows whose key has the start. -/
theorem meant?_like (ht : IsSettings t) (hrow : row ∈ t.rows) {env : Env}
    (henv : env.row? none = some row)
    (hpattern : env.params[0]? = some (.text (startPattern start))) :
    meant? b env (Access.readingStarting name).condition =
      some (decide ((normalKey start).toList <+: (Row.textAt "key" row).toList)) := by
  have hlike := like?_startsWith (normalKey start).toList (Row.textAt "key" row).toList
  have hescape : "\\".toList = ['\\'] := rfl
  simp [Access.readingStarting, meant?, Term.eval?, henv, hpattern, ht.lookup_key hrow,
    Datum.matches?, startPattern, hescape, hlike]

theorem cells?_readingStarting (ht : IsSettings t) {params : List Datum} (hrow : row ∈ t.rows) :
    (Access.readingStarting name).cells? b now params row =
      some [.text (Row.textAt "key" row), .text (Row.textAt "value" row)] := by
  have hitems : (Access.readingStarting name).items = [.column none "key", Access.valueTerm] := rfl
  have henv := Fetch.row?_env now params (Access.readingStarting name) row
  rw [Fetch.cells?, hitems]
  simp [ht.eval?_valueTerm hrow henv, Term.eval?, ht.lookup_key hrow, Datum.cell?]

end IsSettings

/-- A prefix read asks with a pattern that matches the normal keys with the start in normal form
and no others, and a key with the start as it was given has it in normal form too.  So it
gives the settings of these keys, in the order of their keys. -/
theorem getStarting_finds (s : KeyValueStore) (start : String) :
    (∀ key : String, like? '\\' (startPattern start).toList key.toList =
      some (decide ((normalKey start).toList <+: key.toList))) ∧
    (∀ key : String, start.toList <+: key.toList →
      (normalKey start).toList <+: (normalKey key).toList) ∧
    ∀ {b : Backend} {t : Table} {outer after : Views} {past : List (Command × Reply)}
      {pinned : Bool} {found : Settings}, IsSettings t →
      ((s.getStarting start).script pinned).Path past (.done found) →
      Serves b s.table.text (t :: outer) past after →
      (∃ sql answer, (Command.execute ⟨sql, [.text (startPattern start)]⟩, .ok answer) ∈ past) ∧
      found.Pairwise (·.1 < ·.1) ∧
      (∀ key value : String, (key, value) ∈ found ↔
        (normalKey start).toList <+: key.toList ∧ setting? t key = some value) ∧
      ∀ key value : String, start.toList <+: key.toList → setting? t (normalKey key) = some value →
        (normalKey key, value) ∈ found := by
  have hnormal : ∀ key : String, start.toList <+: key.toList →
      (normalKey start).toList <+: (normalKey key).toList :=
    fun _ h => KeyValue.normalKey_isPrefix h
  refine ⟨fun key => ?_, hnormal, ?_⟩
  · rw [startPattern, String.toList_ofList]
    exact like?_startsWith _ _
  · intro b t outer after past pinned found ht hpath h
    obtain ⟨-, answer, hasked, hread, now, picked, hpicks, hcells⟩ :=
      of_read .readStarting rfl rfl hpath h
    have hpicked : ∀ row ∈ picked, row ∈ t.rows := fun row hrow =>
      (List.mem_filter.1 (hpicks.perm.mem_iff.1 hrow)).1
    have hperm := hpicks.perm_of_meant fun row hrow => ht.meant?_like hrow rfl rfl
    let pair (row : Row) : String × String := (Row.textAt "key" row, Row.textAt "value" row)
    have hrows : answer.rows = (picked.map pair).map fun e => [.text e.1, .text e.2] := by
      rw [mapM_eq_some_map fun row hrow => ht.cells?_readingStarting (hpicked row hrow)] at hcells
      rw [List.map_map]
      exact (Option.some.inj hcells).symm
    have honce : ((picked.map pair).map Prod.fst).Nodup := by
      rw [List.map_map]
      exact (hperm.map _).nodup_iff.2 ((List.filter_sublist.map _).nodup ht.nodup_keys)
    obtain ⟨hsorted, hmem⟩ := readSettings_spec hrows honce hread
    have hfound : ∀ key value : String, (key, value) ∈ found ↔
        (normalKey start).toList <+: key.toList ∧ setting? t key = some value := by
      intro key value
      rw [hmem, List.mem_map, ht.setting?_eq_some_iff]
      constructor
      · rintro ⟨row, hrow, heq⟩
        obtain ⟨rfl, rfl⟩ := Prod.mk.inj heq
        obtain ⟨hin, hstart⟩ := List.mem_filter.1 (hperm.mem_iff.1 hrow)
        exact ⟨of_decide_eq_true hstart, row, hin, ht.lookup_key hin, rfl⟩
      · rintro ⟨hstart, row, hin, hkey, rfl⟩
        have htext : Row.textAt "key" row = key := by rw [Row.textAt, hkey]
        refine ⟨row, hperm.mem_iff.2 (List.mem_filter.2 ⟨hin, ?_⟩), by rw [← htext]⟩
        rw [htext]
        exact decide_eq_true hstart
    exact ⟨⟨_, answer, hasked⟩, hsorted, hfound, fun key value hstart hvalue =>
      (hfound _ _).2 ⟨hnormal key hstart, hvalue⟩⟩

/-! ### A start with blanks and capitals -/

namespace Mail

open Sample

/-- A setting without a value, one whose key matches if the underscore is taken for any
character, and one more. -/
def rows : List Row :=
  [[("key", .text "smtp_port"), ("value", .null)],
    [("key", .text "smtpxhost"), ("value", .text "x")],
    [("key", .text "smtp_host"), ("value", .text "mail")]]

def found : Settings := [("smtp_host", "mail"), ("smtp_port", "")]

/-- An exchange in which the keys with this start are read, the table being known. -/
def reading : List (Command × Reply) :=
  [(.execute ⟨Access.readStarting.sql store.table.text, [.text (startPattern " Smtp.")]⟩,
    .ok ⟨[[.text "smtp_port", .text ""], [.text "smtp_host", .text "mail"]], 2⟩)]

theorem isSettings_holding : IsSettings (holding rows) := by
  refine ⟨by decide, ?_, ?_, by decide⟩
  · simp [holding, rows]
  · simp [holding, rows, List.lookup_cons]

theorem path_reading :
    ((store.getStarting " Smtp.").script false).Path reading (.done found) :=
  path_operation false (.ask (.refl _))

theorem serves_reading : Serves backend store.table.text [holding rows] reading [holding rows] := by
  have hgives : (Access.readingStarting "settings").Gives backend 0
      [.text (startPattern " Smtp.")] rows
      [[.text "smtp_port", .text ""], [.text "smtp_host", .text "mail"]] :=
    ⟨[rows[0], rows[2]], ⟨by decide +kernel, by decide +kernel, nofun⟩, rfl⟩
  exact .next (.execute (Access.meaning_sql .readStarting store.table) ⟨rfl, rfl, 0, hgives⟩)
    (.refl _)

/-- What was saved under `smtp_host` is found. -/
theorem getStarting_finds_host :
    IsSettings (holding rows) ∧
      ((store.getStarting " Smtp.").script false).Path reading (.done found) ∧
      Serves backend store.table.text [holding rows] reading [holding rows] ∧
      " Smtp.".toList <+: " Smtp.HOST".toList ∧
      setting? (holding rows) (normalKey " Smtp.HOST") = some "mail" ∧
      (normalKey " Smtp.HOST", "mail") ∈ found := by
  have hstart : " Smtp.".toList <+: " Smtp.HOST".toList := by decide +kernel
  have hsetting : setting? (holding rows) (normalKey " Smtp.HOST") = some "mail" := by
    decide +kernel
  obtain ⟨-, -, hfinds⟩ := getStarting_finds store " Smtp."
  obtain ⟨-, -, -, hfound⟩ := hfinds isSettings_holding path_reading serves_reading
  exact ⟨isSettings_holding, path_reading, serves_reading, hstart, hsetting,
    hfound " Smtp.HOST" "mail" hstart hsetting⟩

end Mail

end DocStore.KeyValueStore
