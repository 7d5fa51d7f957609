import DocStore.Proofs.Database.Contents
import DocStore.Proofs.KeyValue.Key
import DocStore.Proofs.Query.Columns
import DocStore.Proofs.Table.Naming

/-!
# The statements of a key/value store and its table

What the statements of a key/value store mean (`Access.meaning_sql`), and what they do to
a table that has a row for every key (`IsSettings`).

* Saving sets the value of one key: `IsSettings.put`.
* An operation does to the table what its body does, and one that reads leaves it alone:
  `of_operation`, `of_read`.
* What is read under a key is the value that stands there: `get_eq_setting?`.
-/

namespace DocStore.KeyValueStore

open Sql
open KeyValue (normalKey)

/-! ## What the statements mean -/

namespace Access

/-- The value of a row; a missing one is empty. -/
def valueTerm : Term := .coalesce (.column none "value") (.literal "")

/-- Sets the value of a key. -/
def putting (table : String) : Upsert where
  table := table
  standing := table
  columns := ["key", "value"]
  values := [.placeholder 1, .placeholder 2]
  key := "key"
  changes := [("value", .column (some "excluded") "value")]
  condition := none

/-- Reads the value of a key. -/
def readingOne (table : String) : Fetch where
  items := [valueTerm]
  table := table
  condition := some (.equal (.column none "key") (.placeholder 1))
  order := none

/-- Reads what has a key that matches a pattern. -/
def readingStarting (table : String) : Fetch where
  items := [.column none "key", valueTerm]
  table := table
  condition := some (.like (.column none "key") (.placeholder 1) (.literal "\\"))
  order := none

/-- What the statement does to the table of a name. -/
def meaning (table : String) : Access → Meaning
  | create => .make table
  | readOne => .read (readingOne table)
  | readAll => .read { readingStarting table with condition := none }
  | readStarting => .read (readingStarting table)
  | put => .save (putting table)
  | delete => .remove table (some (.equal (.column none "key") (.placeholder 1)))

/-- The tokens in front of the table. -/
def frontTokens : Access → List Token
  | create => [.word "create", .word "table", .word "if", .word "not", .word "exists"]
  | readOne =>
      [.word "select", .word "coalesce", .symbol '(', .word "value", .symbol ',',
        .quoted .literal "", .symbol ')', .word "from"]
  | readAll | readStarting =>
      [.word "select", .word "key", .symbol ',', .word "coalesce", .symbol '(', .word "value",
        .symbol ',', .quoted .literal "", .symbol ')', .word "from"]
  | put => [.word "insert", .word "into"]
  | delete => [.word "delete", .word "from"]

/-- The tokens behind the table. -/
def behindTokens : Access → List Token
  | create =>
      [.symbol '(', .word "key", .word "varchar", .symbol '(', .number "1000", .symbol ')',
        .word "primary", .word "key", .symbol ',', .word "value", .word "varchar", .symbol '(',
        .number "4000", .symbol ')', .symbol ')']
  | readOne | delete => [.word "where", .word "key", .operator "=", .placeholder 1]
  | readAll => []
  | readStarting =>
      [.word "where", .word "key", .word "like", .placeholder 1, .word "escape",
        .quoted .literal "\\"]
  | put =>
      [.symbol '(', .word "key", .symbol ',', .word "value", .symbol ')', .word "values",
        .symbol '(', .placeholder 1, .symbol ',', .placeholder 2, .symbol ')', .word "on",
        .word "conflict", .symbol '(', .word "key", .symbol ')', .word "do", .word "update",
        .word "set", .word "value", .operator "=", .word "excluded", .symbol '.', .word "value"]

/-- The server reads every statement as what it is meant to be, for whatever table. -/
theorem meaning_sql (a : Access) (table : TableName) :
    Meaning.ofSql? (a.sql table.text) = some (a.meaning table.text) := by
  have hfront : freeTokens? a.front = some a.frontTokens := by cases a <;> decide +kernel
  have hblank : startsBlank a.behind = true := by cases a <;> decide +kernel
  have hbehind : tokens? a.behind = some a.behindTokens := by cases a <;> decide +kernel
  refine read?_around table hfront hblank hbehind ?_
  cases a <;> rfl

end Access

/-! ## A table of settings -/

/-- A table with a row for each key; values can be missing. -/
structure IsSettings (t : Table) : Prop where
  columns : "key" ∈ t.names ∧ "value" ∈ t.names
  key : ∀ row ∈ t.rows, ∃ key, row.lookup "key" = some (.text key)
  value : ∀ row ∈ t.rows, row.lookup "value" = some .null ∨
    ∃ value, row.lookup "value" = some (.text value)
  once : (t.rows.map (·.lookup "key")).Nodup

/-- The value that a table has under a key. -/
def setting? (t : Table) (key : String) : Option String :=
  (t.rows.find? fun row => row.lookup "key" = some (.text key)).map (Row.textAt "value")

namespace IsSettings

variable {b : Backend} {now : Int} {t t' : Table} {name key value : String}

open Access (putting)

/-- A row to save has its key and its value. -/
theorem lookup_proposed (ht : IsSettings t) {proposed : Row}
    (h : (putting name).proposed? b now [.text key, .text value] t = some proposed) :
    proposed.lookup "key" = some (.text key) ∧ proposed.lookup "value" = some (.text value) := by
  obtain ⟨hkey, hvalue⟩ := ht.columns
  obtain ⟨_, -, -, hd⟩ := Table.exists_lookup_defaults hkey now
  obtain ⟨_, -, -, hd'⟩ := Table.exists_lookup_defaults hvalue now
  obtain rfl : (t.defaults now).updated [("key", .text key), ("value", .text value)] =
      proposed := by
    rw [Upsert.proposed?_of_columns (by simp [putting, hkey, hvalue]) rfl] at h
    simpa [putting, Term.eval?] using h
  rw [Row.lookup_updated, Row.lookup_updated, hd, hd']
  exact ⟨rfl, rfl⟩

/-- A row that stands under the key of another gets its value. -/
theorem lookup_changed {params : List Datum} {proposed standing row : Row} {d d' : Datum}
    (hproposed : proposed.lookup "value" = some d) (hstanding : standing.lookup "value" = some d')
    (h : (putting name).changed? b now params proposed standing = some row) :
    row.lookup "value" = some d := by
  rcases Upsert.cases_changed? h with ⟨hmeant, -⟩ | ⟨-, news, hnews, rfl⟩
  · exact nomatch hmeant
  · by_cases hname : "excluded" = name
    · simp [Upsert.news?, putting, Upsert.env, Term.eval?, Env.row?, hname] at hnews
    · obtain rfl : [("value", d)] = news := by
        simpa [Upsert.news?, putting, Upsert.env, Term.eval?, Env.row?, hname, hproposed]
          using hnews
      rw [Row.lookup_updated, hstanding]
      rfl

/-- Every row has something in the column of the values. -/
theorem exists_value (ht : IsSettings t) {row : Row} (hrow : row ∈ t.rows) :
    ∃ d, row.lookup "value" = some d := by
  rcases ht.value row hrow with hnull | ⟨v, hv⟩
  · exact ⟨_, hnull⟩
  · exact ⟨_, hv⟩

/-- Saving a value sets that of one key. -/
theorem put (ht : IsSettings t)
    (h : (putting name).run? b now [.text key, .text value] t = some t') :
    IsSettings t' ∧ ∀ k, setting? t' k = if k = key then some value else setting? t k := by
  obtain ⟨proposed, hproposed, h⟩ := Option.bind_eq_some_iff.1 h
  obtain ⟨rows, hrows, h⟩ := Option.bind_eq_some_iff.1 h
  obtain rfl := Option.some.inj h
  obtain ⟨hkey, hvalue⟩ := ht.lookup_proposed hproposed
  have hset : (putting name).key ∉ (putting name).changes.map Prod.fst := by
    simp [putting]
  -- The row under the key, new or changed, has the key and the value.
  have hnew : ∀ row ∈ rows, row ∈ t.rows ∨
      row.lookup "key" = some (.text key) ∧ row.lookup "value" = some (.text value) := by
    intro row hrow
    refine (Upsert.cases_mem_rows? hset hrows hrow).imp_right ?_
    rintro ⟨hsame, rfl | ⟨standing, hstanding, hchanged⟩⟩ <;>
      refine ⟨hsame.trans hkey, ?_⟩
    · exact hvalue
    · obtain ⟨d, hd⟩ := ht.exists_value hstanding
      exact lookup_changed hvalue hd hchanged
  refine ⟨⟨ht.columns, fun row hrow => ?_, fun row hrow => ?_, ?_⟩, fun k => ?_⟩
  · rcases hnew row hrow with hold | ⟨hk, -⟩
    · exact ht.key row hold
    · exact ⟨key, hk⟩
  · rcases hnew row hrow with hold | ⟨-, hv⟩
    · exact ht.value row hold
    · exact .inr ⟨value, hv⟩
  · exact Upsert.nodup_rows? hset hrows ht.once
  · split
    · rename_i hk
      subst hk
      obtain ⟨row, hfind, hrow⟩ := Upsert.find?_rows?_self hset hrows hkey
      have hv : row.lookup "value" = some (.text value) := by
        split at hrow
        · exact hrow ▸ hvalue
        · rename_i standing hstanding
          obtain ⟨d, hd⟩ := ht.exists_value (List.mem_of_find?_eq_some hstanding)
          exact lookup_changed hvalue hd hrow
      have htext : Row.textAt "value" row = value := by rw [Row.textAt, hv]
      exact (congrArg (Option.map (Row.textAt "value")) hfind).trans (congrArg some htext)
    · rename_i hk
      have hother : proposed.lookup "key" ≠ some (.text k) := by
        rw [hkey]
        simpa [eq_comm] using hk
      rw [setting?, setting?]
      exact congrArg _ (Upsert.find?_rows?_of_ne hset hrows hother)

/-- What is shown as the value of a row. -/
theorem eval?_valueTerm (ht : IsSettings t) {row : Row} (hrow : row ∈ t.rows) {env : Env}
    (henv : env.row? none = some row) :
    Access.valueTerm.eval? b env = some (.text (Row.textAt "value" row)) := by
  rcases ht.value row hrow with hnull | ⟨v, hv⟩
  · simp [Access.valueTerm, Term.eval?, henv, hnull, Row.textAt]
  · simp [Access.valueTerm, Term.eval?, henv, hv, Row.textAt]

/-- The row of a key is meant by it. -/
theorem meant?_equal (ht : IsSettings t) {row : Row} (hrow : row ∈ t.rows) {env : Env}
    (henv : env.row? none = some row) (hkey : env.params[0]? = some (.text key)) :
    meant? b env (some (.equal (.column none "key") (.placeholder 1))) =
      some (decide (row.lookup "key" = some (.text key))) := by
  obtain ⟨k, hk⟩ := ht.key row hrow
  simp [meant?, Term.eval?, henv, hkey, hk, Datum.equal?]

theorem cells?_readingOne (ht : IsSettings t) {params : List Datum} {row : Row}
    (hrow : row ∈ t.rows) :
    (Access.readingOne name).cells? b now params row = some [.text (Row.textAt "value" row)] := by
  have hitems : (Access.readingOne name).items = [Access.valueTerm] := rfl
  rw [Fetch.cells?, hitems]
  simp [ht.eval?_valueTerm hrow (Fetch.row?_env now params _ row), Datum.cell?]

/-- What is given for a key is the value that stands there. -/
theorem gives_readingOne_iff (ht : IsSettings t) {answer : List (List Cell)} :
    (Access.readingOne name).Gives b now [.text key] t.rows answer ↔
      answer = (setting? t key).toList.map fun value => [.text value] := by
  rw [Fetch.gives_iff_of_once rfl ht.once (fun row hrow => ht.meant?_equal hrow rfl rfl)
    fun row hrow => ht.cells?_readingOne hrow, setting?]
  cases t.rows.find? fun row => row.lookup "key" = some (.text key) <;> rfl

/-- Under a key stands the row that has it. -/
theorem setting?_eq_some_iff (ht : IsSettings t) :
    setting? t key = some value ↔
      ∃ row ∈ t.rows, row.lookup "key" = some (.text key) ∧ Row.textAt "value" row = value := by
  rw [setting?, Option.map_eq_some_iff]
  constructor
  · rintro ⟨row, hfind, rfl⟩
    exact ⟨row, List.mem_of_find?_eq_some hfind, by simpa using List.find?_some hfind, rfl⟩
  · rintro ⟨row, hrow, hkey, rfl⟩
    have hmem : row ∈ (t.rows.find? fun row => row.lookup "key" = some (.text key)).toList := by
      rw [← filter_eq_toList_find? ht.once]
      exact List.mem_filter.2 ⟨hrow, decide_eq_true hkey⟩
    exact ⟨row, Option.mem_toList.1 hmem, rfl⟩

end IsSettings

/-! ## Operations -/

section Operations

variable {s : KeyValueStore} {b : Backend} {t : Table} {outer after : Views}
  {past : List (Command × Reply)}

/-- Making sure of a table that is there leaves it as it is. -/
theorem of_ensureTable (hpath : s.ensureTable.Path past (.done ()))
    (h : Serves b s.table.text (t :: outer) past after) : after = t :: outer := by
  cases hpath with
  | @inspect _ known _ _ hpath =>
    cases known with
    | some _ =>
      obtain ⟨rfl, -⟩ := Script.Path.of_done hpath
      exact Serves.nil_iff.1 h
    | none =>
      -- Whatever is replied to the statement, nothing more is asked.
      have hkeep : ∀ {later}, (Script.keep () : Work Unit).Path later (.done ()) → later = [] := by
        intro later hkeep
        cases hkeep with
        | remember hdone => exact (Script.Path.of_done hdone).1
      cases hpath with
      | @ask _ _ r later _ hpath =>
        cases r with
        | ok answer =>
          obtain rfl := hkeep hpath
          obtain ⟨t', ⟨-, rfl⟩, hrest⟩ := h.of_execute (Access.meaning_sql .create s.table)
          exact Serves.nil_iff.1 hrest
        | error fault =>
          have hlater : later = [] := by
            dsimp only at hpath
            split at hpath
            · exact hkeep hpath
            · exact (Script.Path.of_fail hpath).1
          subst hlater
          obtain ⟨between, honce, h⟩ := Serves.cons_iff.1 h
          cases honce
          exact Serves.nil_iff.1 h

theorem meaning_upsertSql (s : KeyValueStore) :
    Meaning.ofSql? s.upsertSql = some (.save (Access.putting s.table.text)) := by
  rw [upsertSql_eq, Access.meaning_sql]
  rfl

/-- Where the table is known to be there, an operation does what its body does. -/
theorem path_operation {α : Type} {n : String} {body : Work α} (pinned : Bool) {y : Work α}
    (h : body.Path past y) : ((s.operation n body).script pinned).Path past y :=
  @Script.Path.inspect _ _ _ (some ()) _ _ h

/-- An operation does to a table that is there what its body does. -/
theorem of_operation {α : Type} {n : String} {body : Work α} {pinned : Bool} {a : α}
    (hpath : ((s.operation n body).script pinned).Path past (.done a))
    (h : Serves b s.table.text (t :: outer) past after) :
    ∃ later, body.Path later (.done a) ∧ Serves b s.table.text (t :: outer) later after ∧
      ∃ first, past = first ++ later := by
  obtain ⟨done, first, later, rfl, hfirst, hlater⟩ := Script.Path.of_bind_done hpath
  obtain ⟨between, hserved, h⟩ := Serves.append_iff.1 h
  obtain rfl := of_ensureTable hfirst hserved
  exact ⟨later, hlater, h, first, rfl⟩

/-- An operation that reads gives what is read from an answer of the table, which stays. -/
theorem of_read {α : Type} {n : String} {pinned : Bool} {a : α} (access : Access) {sql : String}
    (hsql : sql = access.sql s.table.text) {q : Fetch}
    (hq : access.meaning s.table.text = .read q) {params : List Param}
    {f : Answer → Except DatabaseFault α}
    (hpath : ((s.operation n do
      let answer ← Script.execute sql params
      orError (f answer)).script pinned).Path past (.done a))
    (h : Serves b s.table.text (t :: outer) past after) :
    after = t :: outer ∧ ∃ answer, (Command.execute ⟨sql, params⟩, .ok answer) ∈ past ∧
      f answer = .ok a ∧ ∃ now, q.Gives b now (params.map Param.datum) t.rows answer.rows := by
  obtain ⟨later, hbody, hserved, first, rfl⟩ := of_operation hpath h
  obtain ⟨answer, rest, rfl, hrest⟩ := Script.Path.of_sendOr hbody
  have hmeaning : Meaning.ofSql? sql = some (.read q) := by
    rw [hsql, Access.meaning_sql, hq]
  obtain ⟨t', ⟨-, rfl, hgives⟩, hended⟩ := hserved.of_execute hmeaning
  rw [orError] at hrest
  cases hf : f answer with
  | error fault =>
    rw [hf] at hrest
    cases (Script.Path.of_fail hrest).2
  | ok a' =>
    rw [hf] at hrest
    obtain ⟨rfl, hdone⟩ := Script.Path.of_done hrest
    obtain rfl := Script.done.inj hdone
    exact ⟨Serves.nil_iff.1 hended, answer, List.mem_append_right _ List.mem_cons_self, hf, hgives⟩

/-- What is read under a key is what the table has there. -/
theorem get_eq_setting? {key : String} {pinned : Bool} {found : Option String} (ht : IsSettings t)
    (hpath : ((s.get key).script pinned).Path past (.done found))
    (h : Serves b s.table.text (t :: outer) past after) :
    after = t :: outer ∧ found = setting? t (normalKey key) := by
  obtain ⟨hafter, answer, -, hread, now, hgives⟩ := of_read .readOne rfl rfl hpath h
  refine ⟨hafter, ?_⟩
  rw [Answer.readFirst?, ht.gives_readingOne_iff.1 hgives] at hread
  cases hvalue : setting? t (normalKey key) <;> rw [hvalue] at hread <;>
    exact (Except.ok.inj hread).symm

end Operations

/-! ### A store and its table -/

namespace Sample

def store : KeyValueStore :=
  ⟨⟨"settings", by decide +kernel, by decide +kernel⟩, .ofSeconds 30, none⟩

def backend : Backend := ⟨fun _ => true, some, 2147483647⟩

/-- A table with these rows. -/
def holding (rows : List Row) : Table := ⟨[⟨"key", .value .null⟩, ⟨"value", .value .null⟩], rows⟩

end Sample

end DocStore.KeyValueStore
