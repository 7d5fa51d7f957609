import DocStore.KeyValue.Store
import DocStore.Proofs.Database.Path
import DocStore.Proofs.Query.Outline
import DocStore.Proofs.Sql.Naming
import DocStore.Table.Layout

/-!
# The name of a table in its statements

The compiler, the layout of a table and the key/value store put the name of a table
into their statements without quotes.  `Wording` lists these texts, each with the
names that it gives to parts of its own.

* `Wording.embeds_sql`: in every one of them the name is a token of its own.
* `Wording.namesTable_iff`: that token names the table, unless it is a reserved word or the
  name of a part of the statement (`Wording.ownNames_eq` finds these in the compiled texts).
* `KeyValueStore.isConfined`: a key/value store sends no other texts than those listed.
* `TableName.parse_naming` puts this beside what `TableName.parse` takes, and which of the
  names that it takes are one table.

Besides its table a statement may name something else that the table has the name of.  There
is one such name: on a table `excluded` the upsert of a key/value store names its table, but its
`EXCLUDED.value` could be of the table or of the row that was to be inserted, and the server
refuses every such statement.
-/

namespace DocStore

open Sql

/-! ## Compiled statements -/

section Places

variable (filter : Option Filter) (order : List SortTerm) (limit offset : Option Nat)

theorem Rows.hasPlaces_fromTable :
    HasPlaces 1 fun name => (Rows.mk name filter order limit offset).fromTable := by
  -- The tail does not look at the name, so it is that of rows without one.
  have htail : HasPlaces 1 fun name => .name name :: (Rows.mk "" filter order limit offset).tail :=
    .cons_name (.const _)
  exact htail

/-- A walk names its table for the seeds and for the hops. -/
theorem hasPlaces_walkClause (t : Traversal) :
    HasPlaces 2 fun name => walkClause ⟨name, filter, order, limit, offset⟩ t := by
  have hparts : ∀ name, walkClause ⟨name, filter, order, limit, offset⟩ t =
      walkStart ⟨"", filter, order, limit, offset⟩ ++
        ((Rows.mk name filter order limit offset).fromTable ++ walkHops name t) := by
    intro name
    rw [walkClause_eq]
    rfl
  simp only [hparts]
  exact .const_append (.append (Rows.hasPlaces_fromTable filter order limit offset)
    (.cons (.cons_name (.const _)) _)) _

namespace Source

theorem hasPlaces_select_rows (fields : List FieldPath) :
    HasPlaces 1 fun name => (rows ⟨name, filter, order, limit, offset⟩).select fields :=
  .const_append (.cons (Rows.hasPlaces_fromTable filter order limit offset) _) _

theorem hasPlaces_select_walk (t : Traversal) (fields : List FieldPath) :
    HasPlaces 3 fun name => (walk ⟨name, filter, order, limit, offset⟩ t).select fields :=
  .append_const (.append (.append_const (hasPlaces_walkClause filter order limit offset t) _)
    (.cons (.cons_name (.const _)) _)) _

theorem hasPlaces_selectKeyed_rows (lock : Bool) :
    HasPlaces 1 fun name => (rows ⟨name, filter, order, limit, offset⟩).selectKeyed lock :=
  .append_const (.cons (Rows.hasPlaces_fromTable filter order limit offset) _) _

theorem hasPlaces_selectKeyed_walk (t : Traversal) (lock : Bool) :
    HasPlaces 3 fun name => (walk ⟨name, filter, order, limit, offset⟩ t).selectKeyed lock :=
  .append_const (.append_const (.append (hasPlaces_walkClause filter order limit offset t)
    (.cons (.cons_name (.const _)) _)) _) _

theorem hasPlaces_delete_walk (t : Traversal) :
    HasPlaces 3 fun name => (walk ⟨name, filter, order, limit, offset⟩ t).delete :=
  .append_const (.append (hasPlaces_walkClause filter order limit offset t)
    (.cons (.cons_name (.const _)) _)) _

/-- A window names the table once more. -/
theorem hasPlaces_delete_rows :
    ∃ k, HasPlaces (k + 1) fun name => (rows ⟨name, filter, order, limit, offset⟩).delete := by
  have hwindowed : ∀ name, (Rows.mk name filter order limit offset).isWindowed =
      (Rows.mk "" filter order limit offset).isWindowed := fun _ => rfl
  cases h : (Rows.mk "" filter order limit offset).isWindowed with
  | true =>
    have hpieces : ∀ name, (rows ⟨name, filter, order, limit, offset⟩).delete =
        [.text "DELETE FROM ", .name name, .text " WHERE id IN (SELECT id FROM "] ++
          (Rows.mk name filter order limit offset).fromTable ++ [.text ") RETURNING id"] := by
      intro name
      rw [delete, hwindowed, h, if_pos rfl]
    simp only [hpieces]
    exact ⟨1, .append_const (.append (.cons (.cons_name (.const _)) _)
      (Rows.hasPlaces_fromTable filter order limit offset)) _⟩
  | false =>
    have hpieces : ∀ name, (rows ⟨name, filter, order, limit, offset⟩).delete =
        [.text "DELETE FROM ", .name name] ++
          (Rows.mk "" filter order limit offset).whereClause ++ [.text " RETURNING id"] := by
      intro name
      rw [delete, hwindowed, h, if_neg Bool.false_ne_true]
      rfl
    simp only [hpieces]
    exact ⟨0, .append_const (.append_const (.cons (.cons_name (.const _)) _) _) _⟩

end Source

end Places

namespace Query

variable (q : Query)

theorem embeds_select : Embeds fun name => (q.select name).sql := by
  have hplaces : ∃ k, HasPlaces (k + 1) fun name => (q.source name).select q.fields := by
    unfold source
    cases q.recurse with
    | none => exact ⟨0, Source.hasPlaces_select_rows _ _ _ _ _⟩
    | some t => exact ⟨2, Source.hasPlaces_select_walk _ _ _ _ _ _⟩
  obtain ⟨k, hplaces⟩ := hplaces
  exact embeds_of_hasPlaces hplaces fun table =>
    ⟨_, Source.spacing_select (q.spacing_source table) q.fields⟩

theorem hasPlaces_selectKeyed (lock : Bool) :
    ∃ k, HasPlaces (k + 1) fun name => (q.source name).selectKeyed lock := by
  unfold source
  cases q.recurse with
  | none => exact ⟨0, Source.hasPlaces_selectKeyed_rows _ _ _ _ _⟩
  | some t => exact ⟨2, Source.hasPlaces_selectKeyed_walk _ _ _ _ _ _⟩

theorem embeds_selectKeyed (lock : Bool) : Embeds fun name => (q.selectKeyed name lock).sql := by
  obtain ⟨k, hplaces⟩ := q.hasPlaces_selectKeyed lock
  exact embeds_of_hasPlaces hplaces fun table =>
    ⟨_, Source.spacing_selectKeyed (q.spacing_source table) lock⟩

theorem embeds_count : Embeds fun name => (q.count name).sql := by
  obtain ⟨k, hplaces⟩ := q.hasPlaces_selectKeyed false
  exact embeds_of_hasPlaces (.append_const (.cons hplaces _) _) fun table =>
    ⟨_, Source.spacing_count (q.spacing_source table)⟩

theorem embeds_delete : Embeds fun name => (q.delete name).sql := by
  have hplaces : ∃ k, HasPlaces (k + 1) fun name => (q.source name).delete := by
    unfold source
    cases q.recurse with
    | none => exact Source.hasPlaces_delete_rows _ _ _ _
    | some t => exact ⟨2, Source.hasPlaces_delete_walk _ _ _ _ _⟩
  obtain ⟨k, hplaces⟩ := hplaces
  exact embeds_of_hasPlaces hplaces fun table =>
    ⟨_, Source.spacing_delete (q.spacing_source table)⟩

end Query

/-! ## The statements of a layout -/

namespace TableLayout

variable (l : TableLayout)

theorem embeds_upsertSql : Embeds l.upsertSql := by
  let start : String :=
    " AS doc (id, data) VALUES ($1, $2::json) " ++ "ON CONFLICT (id) DO UPDATE SET "
  let settings : String := ", ".intercalate (l.assignments.map Assignment.sql)
  let condition : String := " WHERE doc.data::jsonb IS DISTINCT FROM EXCLUDED.data::jsonb"
  have htext : ∀ name, l.upsertSql name =
      "INSERT INTO " ++ name ++ (start ++ (settings ++ condition)) := by
    intro name
    unfold upsertSql
    simp only [start, settings, condition, String.append_assoc, -String.reduceAppend]
  -- The start leaves the reader between two tokens, and the condition begins with a blank: the
  -- three parts are read one by one, whichever columns are set.
  have hstart : endsFree start = true := by decide +kernel
  have hsettings : isReadable settings = true := by
    have hall : ∀ version lastUpdated, isReadable (", ".intercalate
        ((assignments ⟨version, lastUpdated, true⟩).map Assignment.sql)) = true := by
      decide +kernel
    exact hall l.version l.lastUpdated
  have hcondition : isReadable condition = true := by decide +kernel
  have hbehind : isReadable (start ++ (settings ++ condition)) = true :=
    isReadable_append_of_endsFree hstart
      (isReadable_append_of_startsBlank hsettings (by decide +kernel) hcondition)
  rw [funext htext]
  exact embeds_of_free (by decide +kernel) (startsBlank_append (by decide +kernel)) hbehind

theorem embeds_metadataSql : Embeds l.metadataSql := by
  let version : String := if l.version then "COALESCE(version, 1)::bigint" else "1::bigint"
  let updated : String :=
    if l.lastUpdated then "COALESCE(last_updated::timestamptz, now())" else "now()"
  have hversion : endsFree (version ++ " AS version, ") = true := by
    simp only [version]
    cases l.version <;> decide +kernel
  have hupdated : endsFree (updated ++ " AS last_updated FROM ") = true := by
    simp only [updated]
    cases l.lastUpdated <;> decide +kernel
  have htext : ∀ name, l.metadataSql name =
      "SELECT id::text, " ++
        (version ++ " AS version, " ++ (updated ++ " AS last_updated FROM ")) ++ name ++
        " WHERE id = ANY($1) ORDER BY array_position($1, id::text)" := by
    intro name
    unfold metadataSql
    simp only [version, updated, String.append_assoc, -String.reduceAppend]
  have hselect : endsFree "SELECT id::text, " = true := by decide +kernel
  rw [funext htext]
  exact embeds_of_free (endsFree_append hselect (endsFree_append hversion hupdated))
    (by decide +kernel) (by decide +kernel)

theorem embeds_createTableSql : Embeds createTableSql := by
  let fixed : String :=
    " (" ++ ("id varchar(200) NOT NULL PRIMARY KEY, " ++ "data json NOT NULL, ")
  let bookkeeping : String :=
    "version integer NOT NULL DEFAULT 1, " ++
      ("last_updated timestamptz NOT NULL DEFAULT now(), " ++
        "date_created timestamptz NOT NULL DEFAULT now())")
  have htext : ∀ name, createTableSql name =
      "CREATE TABLE IF NOT EXISTS " ++ name ++ (fixed ++ bookkeeping) := by
    intro name
    unfold createTableSql
    simp only [fixed, bookkeeping, String.append_assoc, -String.reduceAppend]
  have hfixed : endsFree fixed = true := by decide +kernel
  have hbookkeeping : isReadable bookkeeping = true := by decide +kernel
  rw [funext htext]
  exact embeds_of_free (by decide +kernel) (startsBlank_append (by decide +kernel))
    (isReadable_append_of_endsFree hfixed hbookkeeping)

end TableLayout

/-! ## The statements of a key/value store -/

namespace KeyValueStore

/-- What a key/value store does to its table. -/
inductive Access where
  | create
  | readOne
  | readAll
  | readStarting
  | put
  | delete

namespace Access

/-- The text in front of the table. -/
def front : Access → String
  | create => "CREATE TABLE IF NOT EXISTS "
  | readOne => "SELECT COALESCE(value, '') FROM "
  | readAll | readStarting => "SELECT key, COALESCE(value, '') FROM "
  | put => "INSERT INTO "
  | delete => "DELETE FROM "

/-- The text behind the table. -/
def behind : Access → String
  | create => " (key varchar(1000) PRIMARY KEY, value varchar(4000))"
  | readOne | delete => " WHERE key = $1"
  | readAll => ""
  | readStarting => " WHERE key LIKE $1 ESCAPE '\\'"
  | put =>
      " (key, value) VALUES ($1, $2)" ++ " ON CONFLICT (key) DO UPDATE SET value = EXCLUDED.value"

def sql (a : Access) (table : String) : String := a.front ++ table ++ a.behind

theorem embeds_sql (a : Access) : Embeds a.sql := by
  have hfront : endsFree a.front = true := by cases a <;> decide +kernel
  have hblank : startsBlank a.behind = true := by cases a <;> decide +kernel
  have hbehind : isReadable a.behind = true := by cases a <;> decide +kernel
  exact embeds_of_free hfront hblank hbehind

end Access

/-- If the command executes something, it accesses the table. -/
def Accesses (table : String) (c : Command) : Prop :=
  ∀ st, c = .execute st → ∃ a : Access, st.sql = a.sql table

theorem accesses_execute {table sql : String} (a : Access) (h : sql = a.sql table)
    (params : List Param) : Accesses table (.execute ⟨sql, params⟩) := by
  rintro st heq
  obtain rfl := Command.execute.inj heq
  exact ⟨a, h⟩

/-- Whatever is replied, the commands of the operation access the table and nothing else. -/
def Confined {α : Type} (table : String) (o : Operation Unit α) : Prop :=
  ∀ pinned, (o.script pinned).Sends (fun _ _ => True) (Accesses table)

variable {α : Type} (s : KeyValueStore)

theorem upsertSql_eq : s.upsertSql = Access.put.sql s.table.text := by
  unfold upsertSql Access.sql Access.front Access.behind
  exact String.append_assoc

theorem sends_ensureTable :
    s.ensureTable.Sends (fun _ _ => True) (Accesses s.table.text) := by
  intro known
  cases known with
  | some _ => trivial
  | none =>
    refine ⟨accesses_execute .create rfl [], fun r _ => ?_⟩
    cases r with
    | ok _ => trivial
    | error fault =>
      dsimp only
      split <;> trivial

theorem confined_operation {body : Work α} (name : String)
    (hbody : body.Sends (fun _ _ => True) (Accesses s.table.text)) :
    Confined s.table.text (s.operation name body) :=
  fun _ => s.sends_ensureTable.bind fun _ => hbody

/-- An operation that executes one statement and reads the answer. -/
theorem confined_execute {sql : String} (name : String) (a : Access)
    (hsql : sql = a.sql s.table.text) (params : List Param) (f : Answer → Except DatabaseFault α) :
    Confined s.table.text (s.operation name do
      let answer ← Script.execute sql params
      orError (f answer)) :=
  s.confined_operation name (Script.sends_sendOr (accesses_execute a hsql params) fun answer _ => by
    rw [orError]
    cases f answer <;> trivial)

theorem sends_put (key value : String) :
    (s.put key value).Sends (fun _ _ => True) (Accesses s.table.text) :=
  Script.sends_sendOr (accesses_execute .put s.upsertSql_eq _) fun _ _ => trivial

theorem sends_putAll (items : Settings) :
    (s.putAll items).Sends (fun _ _ => True) (Accesses s.table.text) := by
  induction items with
  | nil => trivial
  | cons item rest ih => exact (s.sends_put item.1 item.2).bind fun _ => ih

theorem confined_set (key value : String) : Confined s.table.text (s.set key value) :=
  s.confined_operation "set" (s.sends_put key value)

/-- Every operation of the store is confined to its table. -/
structure IsConfined : Prop where
  init : Confined s.table.text s.init
  get : ∀ key, Confined s.table.text (s.get key)
  getAll : Confined s.table.text s.getAll
  getStarting : ∀ start, Confined s.table.text (s.getStarting start)
  set : ∀ key value, Confined s.table.text (s.set key value)
  setMany : ∀ items, Confined s.table.text (s.setMany items)
  delete : ∀ key, Confined s.table.text (s.delete key)
  setSecure : ∀ nonce key secret o, s.setSecure nonce key secret = .ok o → Confined s.table.text o

theorem isConfined : s.IsConfined where
  init := s.confined_operation "init" trivial
  get key := s.confined_execute "get" .readOne rfl _ _
  getAll := s.confined_execute "get_all" .readAll (String.append_empty).symm _ _
  getStarting start := s.confined_execute "get_with_prefix" .readStarting rfl _ _
  set := s.confined_set
  setMany items :=
    s.confined_operation "set_many" (Script.sends_transaction nofun (s.sends_putAll items) nofun)
  delete key := s.confined_operation "delete"
    (Script.sends_sendOr (accesses_execute .delete rfl _) fun _ _ => trivial)
  setSecure nonce key secret o ho := by
    rw [setSecure] at ho
    cases hcipher : s.needCipher with
    | error e =>
      rw [hcipher] at ho
      exact nomatch ho
    | ok cipher =>
      rw [hcipher] at ho
      cases hsealed : cipher.encrypt nonce secret with
      | error e => simp [hsealed, bind, Except.bind] at ho
      | ok sealed =>
        obtain rfl : s.set key sealed = o := by simpa [hsealed, bind, Except.bind] using ho
        exact s.confined_set key sealed

end KeyValueStore

/-! ## All of them -/

/-- The names of the parts of a statement that rows may be read from in place of a table. -/
def Origin.ownNames : Origin → List String
  | .scan _ => []
  | .walk _ _ => ["walk"]

def Reading.ownNames : Reading → List String
  | .select s | .count s => s.origin.ownNames
  | .delete _ _ | .deleteChosen _ _ => []
  | .deleteWalked _ _ => ["walk", "removed"]

namespace Query

variable (q : Query) (table : String)

theorem ownNames_origin :
    (q.origin table).ownNames = q.recurse.elim [] fun _ => ["walk"] := by
  rw [origin]
  cases q.recurse <;> rfl

theorem ownNames_deletion :
    (q.deletion table).ownNames = q.recurse.elim [] fun _ => ["walk", "removed"] := by
  rw [deletion]
  cases q.recurse with
  | none =>
    dsimp only
    split <;> rfl
  | some t => rfl

end Query

/-- A text with places for the name of a table. -/
inductive Wording where
  | select (q : Query)
  | selectKeyed (q : Query) (lock : Bool)
  | count (q : Query)
  | delete (q : Query)
  /-- Saves a document. -/
  | save (l : TableLayout)
  | metadata (l : TableLayout)
  | createTable
  | setting (a : KeyValueStore.Access)

namespace Wording

def sql : Wording → (table : String) → String
  | select q, table => (q.select table).sql
  | selectKeyed q lock, table => (q.selectKeyed table lock).sql
  | count q, table => (q.count table).sql
  | delete q, table => (q.delete table).sql
  | save l, table => l.upsertSql table
  | metadata l, table => l.metadataSql table
  | createTable, table => TableLayout.createTableSql table
  | setting a, table => a.sql table

/-- The names that the statement gives to parts of its own: only a walk does. -/
def ownNames : Wording → List String
  | select q | selectKeyed q _ | count q => q.recurse.elim [] fun _ => ["walk"]
  | delete q => q.recurse.elim [] fun _ => ["walk", "removed"]
  | save _ | metadata _ | createTable | setting _ => []

/-- Made from a query. -/
def isCompiled : Wording → Bool
  | select _ | selectKeyed _ _ | count _ | delete _ => true
  | _ => false

variable (w : Wording)

theorem ownNames_subset : w.ownNames ⊆ ["walk", "removed"] := by
  have hwalk : ∀ (t : Option Traversal) {names : List String}, names ⊆ ["walk", "removed"] →
      (t.elim [] fun _ => names) ⊆ ["walk", "removed"] := by
    intro t names hnames
    cases t with
    | none => exact List.nil_subset _
    | some _ => exact hnames
  cases w with
  | select q => exact hwalk q.recurse (by decide)
  | selectKeyed q lock => exact hwalk q.recurse (by decide)
  | count q => exact hwalk q.recurse (by decide)
  | delete q => exact hwalk q.recurse (by decide)
  | _ => exact List.nil_subset _

/-- The names can be read off the text. -/
theorem ownNames_eq (h : w.isCompiled = true) (table : TableName) :
    (readStatement? (w.sql table.text)).map Reading.ownNames = some w.ownNames := by
  cases w with
  | select q =>
    rw [sql, q.readStatement?_select table]
    exact congrArg some (q.ownNames_origin table.text)
  | selectKeyed q lock =>
    rw [sql, q.readStatement?_selectKeyed table]
    exact congrArg some (q.ownNames_origin table.text)
  | count q =>
    rw [sql, q.readStatement?_count table]
    exact congrArg some (q.ownNames_origin table.text)
  | delete q =>
    rw [sql, q.readStatement?_delete table]
    exact congrArg some (q.ownNames_deletion table.text)
  | _ => exact nomatch h

theorem embeds_sql : Embeds w.sql := by
  cases w with
  | select q => exact q.embeds_select
  | selectKeyed q lock => exact q.embeds_selectKeyed lock
  | count q => exact q.embeds_count
  | delete q => exact q.embeds_delete
  | save l => exact l.embeds_upsertSql
  | metadata l => exact l.embeds_metadataSql
  | createTable => exact TableLayout.embeds_createTableSql
  | setting a => exact a.embeds_sql

/-- Everywhere in its text the name is read as one token, and that token names the table. -/
def NamesTable (table : String) : Prop :=
  ∃ token between, 2 ≤ between.length ∧
    tokens? (w.sql table) = some ([token].intercalate between) ∧
    token.tableNamed? w.ownNames = some table

theorem namesTable_iff (table : TableName) :
    w.NamesTable table.text ↔ table.text ∉ reservedWords ∧ table.text ∉ w.ownNames := by
  constructor
  · rintro ⟨token, between, -, -, hnamed⟩
    exact (Token.tableNamed?_eq_some_iff.1 hnamed).2
  · intro hfree
    obtain ⟨between, hplaces, hread⟩ := w.embeds_sql
    exact ⟨.word table.text, between, hplaces, hread table,
      Token.tableNamed?_eq_some_iff.2 ⟨rfl, hfree⟩⟩

end Wording

/-! ## Names that are taken -/

namespace Sql.TableName

/-- What is to be known of the table that a text names. -/
structure NamedBy (table : TableName) (s : String) : Prop where
  again : parse table.text = .ok table
  /-- The names of one table differ in case alone. -/
  same : ∀ s' table', parse s' = .ok table' → (table' = table ↔ SameLetters s' s)
  /-- Some names are not read as their table. -/
  named : ∀ w : Wording,
    w.NamesTable table.text ↔ table.text ∉ reservedWords ∧ table.text ∉ w.ownNames

theorem namedBy_of_parse_eq_ok {s : String} {table : TableName} (h : parse s = .ok table) :
    table.NamedBy s where
  again := parse_text table
  same s' table' h' := by
    obtain ⟨-, htext⟩ := parse_eq_ok_iff.1 h
    obtain ⟨hs', htext'⟩ := parse_eq_ok_iff.1 h'
    rw [← foldCase_eq_iff, ← htext, ← htext']
    constructor
    · rintro rfl
      rfl
    · intro hsame
      have hok : parse s' = .ok table := parse_eq_ok_iff.2 ⟨hs', by rw [← hsame, htext']⟩
      exact Except.ok.inj (h'.symm.trans hok)
  named w := w.namesTable_iff table

/-- Words of letters, digits and underscores are taken, and nothing else.  In every statement
such a name is a token of its own; it names its table unless it is reserved or the name of a part
of the statement. -/
theorem parse_naming (s : String) :
    (IsIdentifier s → ∃ table, parse s = .ok table ∧ table.NamedBy s) ∧
      (¬ IsIdentifier s → parse s = .error (.invalidIdentifier s)) ∧
      (∀ w : Wording, Embeds w.sql) ∧ ∀ store : KeyValueStore, store.IsConfined := by
  refine ⟨fun h => ?_, parse_of_not_isIdentifier, Wording.embeds_sql, KeyValueStore.isConfined⟩
  obtain ⟨table, hparse, -⟩ := parse_of_isIdentifier h
  exact ⟨table, hparse, namedBy_of_parse_eq_ok hparse⟩

theorem parse_naming_orders :
    ∃ table, parse "Orders_2" = .ok table ∧ parse "oRDERS_2" = .ok table ∧
      ∀ w : Wording, w.NamesTable table.text := by
  have hname : IsIdentifier "Orders_2" := isName_iff.1 (by decide +kernel)
  obtain ⟨table, hparse, hnamed⟩ := (parse_naming "Orders_2").1 hname
  have htext : table.text = "orders_2" :=
    String.toList_injective ((parse_eq_ok_iff.1 hparse).2.trans (by decide +kernel))
  obtain ⟨other, hother, -⟩ := (parse_naming "oRDERS_2").1 (isName_iff.1 (by decide +kernel))
  have hsame : SameLetters "oRDERS_2" "Orders_2" := foldCase_eq_iff.1 (by decide +kernel)
  obtain rfl := (hnamed.same _ other hother).2 hsame
  refine ⟨other, hparse, hother, fun w => (hnamed.named w).2 ?_⟩
  rw [htext]
  exact ⟨by decide +kernel, fun hown => absurd (w.ownNames_subset hown) (by decide)⟩

/-- A reserved word is taken as a name, and no statement reads it as one. -/
theorem select_names_nothing :
    ∃ table, parse "Select" = .ok table ∧ table.text = "select" ∧
      ∀ w : Wording, Embeds w.sql ∧ ¬ w.NamesTable table.text := by
  obtain ⟨table, hparse, hfold⟩ := parse_of_isIdentifier (s := "Select")
    (isName_iff.1 (by decide +kernel))
  have htext : table.text = "select" := String.toList_injective (hfold.trans (by decide +kernel))
  refine ⟨table, hparse, htext, fun w => ⟨w.embeds_sql, fun hnamed => ?_⟩⟩
  rw [w.namesTable_iff, htext] at hnamed
  exact hnamed.1 (by decide +kernel)

end Sql.TableName

end DocStore
