import DocStore.Proofs.Json.Record
import DocStore.Proofs.Sql.Naming
import DocStore.Proofs.Sql.Term
import Mathlib.Data.List.Nodup

/-!
# Statements that save rows and read them

What an `INSERT … ON CONFLICT … DO UPDATE` does to a table (`Upsert.run?`) and which rows
a `SELECT` gives (`Fetch.Gives`), and how both are read from the text of the statement
(`Upsert.grammar`, `Fetch.grammar`).

A saved row stands behind the others if none has its key.  Otherwise the row with the key
is changed where it stands, if the condition of the statement means it: `Upsert.cases_rows?`.
Other rows are left as they are, so that a key has one row before and after
(`Upsert.nodup_rows?`), and what stands under other keys is the same
(`Upsert.find?_rows?_of_ne`).

A column has a name and a default here, and no type.  The server refuses a value that does
not fit the type of its column, such as a key of more than 200 characters or a setting of more
than 4000, and such a statement changes nothing; here it is carried out.
-/

namespace DocStore.Sql

theorem mapM_eq_some_iff {α β : Type} {f : α → Option β} {xs : List α} {ys : List β} :
    xs.mapM f = some ys ↔ List.Forall₂ (fun x y => f x = some y) xs ys := by
  induction xs generalizing ys with
  | nil =>
    rw [List.forall₂_nil_left_iff]
    exact ⟨fun h => (Option.some.inj h).symm, fun h => h ▸ rfl⟩
  | cons x xs ih =>
    rw [List.mapM_cons, List.forall₂_cons_left_iff]
    cases hx : f x with
    | none => simp
    | some y =>
      cases hxs : xs.mapM f with
      | none => simp [← ih, hxs]
      | some ys' => simp [← ih, hxs, eq_comm]

theorem mapM_eq_some_map {α β : Type} {f : α → Option β} {g : α → β} {xs : List α}
    (h : ∀ x ∈ xs, f x = some (g x)) : xs.mapM f = some (xs.map g) := by
  rw [mapM_eq_some_iff, List.forall₂_map_right_iff, List.forall₂_same]
  exact h

/-! ## Tables -/

/-- What a new row has in a column that it is given nothing for. -/
inductive Default where
  | value (d : Datum)
  | now
  deriving DecidableEq

def Default.datum (now : Int) : Default → Datum
  | .value d => d
  | .now => .instant now

structure Column where
  name : String
  default : Default
  deriving DecidableEq

/-- A table, its rows in the order in which they came. -/
structure Table where
  columns : List Column
  rows : List Row
  deriving DecidableEq

def Table.names (t : Table) : List String := t.columns.map Column.name

def Table.defaults (t : Table) (now : Int) : Row :=
  t.columns.map fun c => (c.name, c.default.datum now)

theorem Table.lookup_defaults (t : Table) (now : Int) (name : String) :
    (t.defaults now).lookup name =
      (t.columns.find? fun c => c.name = name).map fun c => c.default.datum now := by
  rw [defaults]
  induction t.columns with
  | nil => rfl
  | cons c rest ih =>
    rw [List.map_cons, List.lookup_cons, List.find?_cons, ih]
    by_cases h : c.name = name
    · simp [h]
    · have hother : (name == c.name) = false := beq_eq_false_iff_ne.2 (Ne.symm h)
      simp [h, hother]

/-- A column of the table has its default in a new row. -/
theorem Table.exists_lookup_defaults {t : Table} {name : String} (h : name ∈ t.names)
    (now : Int) :
    ∃ c ∈ t.columns, c.name = name ∧ (t.defaults now).lookup name = some (c.default.datum now) := by
  obtain ⟨c, hc, rfl⟩ := List.mem_map.1 h
  rw [lookup_defaults]
  cases hfind : t.columns.find? fun other => other.name = c.name with
  | none => exact absurd (List.find?_eq_none.1 hfind c hc) (by simp)
  | some other =>
    exact ⟨other, List.mem_of_find?_eq_some hfind, by simpa using List.find?_some hfind, rfl⟩

theorem Table.names_defaults (t : Table) (now : Int) : (t.defaults now).map Prod.fst = t.names := by
  simp [defaults, names, Function.comp_def]

/-- The row with new values in some of its columns. -/
def Row.updated (row news : Row) : Row :=
  row.map fun (name, d) => (name, (news.lookup name).getD d)

/-- The text in a column; what is missing is empty. -/
def Row.textAt (column : String) (row : Row) : String :=
  match row.lookup column with
  | some (.text s) => s
  | _ => ""

theorem Row.names_updated (row news : Row) :
    (row.updated news).map Prod.fst = row.map Prod.fst := by
  simp [updated, Function.comp_def]

theorem Row.lookup_updated (row news : Row) (name : String) :
    (row.updated news).lookup name = (row.lookup name).map ((news.lookup name).getD ·) := by
  induction row with
  | nil => rfl
  | cons cell rest ih =>
    obtain ⟨column, d⟩ := cell
    show List.lookup name ((column, (news.lookup column).getD d) :: Row.updated rest news) = _
    rw [List.lookup_cons, List.lookup_cons, ih]
    cases h : name == column with
    | false => rfl
    | true =>
      obtain rfl := eq_of_beq h
      rfl

theorem Row.lookup_updated_of_some {row news : Row} {name : String} {d d' : Datum}
    (hrow : row.lookup name = some d') (hnews : news.lookup name = some d) :
    (row.updated news).lookup name = some d := by
  rw [lookup_updated, hrow, hnews]
  rfl

theorem Row.lookup_updated_of_none {row news : Row} {name : String}
    (hnews : news.lookup name = none) : (row.updated news).lookup name = row.lookup name := by
  rw [lookup_updated, hnews]
  exact Option.map_id'

/-- At most one row has a value that no two rows share. -/
theorem filter_eq_toList_find? {rows : List Row} {column : String}
    (h : (rows.map (·.lookup column)).Nodup) (d : Datum) :
    (rows.filter fun row => row.lookup column = some d) =
      (rows.find? fun row => row.lookup column = some d).toList := by
  induction rows with
  | nil => rfl
  | cons first rest ih =>
    obtain ⟨hfirst, hrest⟩ := List.nodup_cons.1 h
    by_cases hd : first.lookup column = some d
    · have hnone : (rest.filter fun row => row.lookup column = some d) = [] := by
        refine List.filter_eq_nil_iff.2 fun row hrow => ?_
        rw [decide_eq_true_eq, ← hd]
        intro hsame
        exact hfirst (List.mem_map.2 ⟨row, hrow, hsame⟩)
      simp [hd, hnone]
    · simp [hd, ih hrest]

/-! ## Saving -/

/-- An `INSERT` that changes the row which has the key already. -/
structure Upsert where
  table : String
  /-- What the row that stands there is called. -/
  standing : String
  columns : List String
  values : List Term
  /-- The column of the key. -/
  key : String
  changes : List (String × Term)
  /-- Which standing rows are changed. -/
  condition : Option Term
  deriving DecidableEq

namespace Upsert

open Grammar

def grammar : Grammar Upsert := do
  phrase "INSERT INTO"
  let table ← name
  let standing ← clause "AS" name
  phrase "("
  let columns ← list name
  phrase ") VALUES ("
  let values ← list Term.grammar
  phrase ") ON CONFLICT ("
  let key ← name
  phrase ") DO UPDATE SET"
  let changes ← list do
    let column ← name
    phrase "="
    let term ← Term.grammar
    return (column, term)
  let condition ← clause "WHERE" Term.grammar
  return ⟨table, standing.getD table, columns, values, key, changes, condition⟩

section Run

variable (b : Backend) (now : Int) (params : List Datum) (u : Upsert)

/-- The row to save: what is given, and the defaults of the other columns. -/
def proposed? (t : Table) : Option Row := do
  guard (u.columns.all t.names.contains && u.columns.length = u.values.length)
  let values ← u.values.mapM (Term.eval? b ⟨now, params, []⟩)
  return (t.defaults now).updated (u.columns.zip values)

/-- What a change can name: the row that stands there and the one to save. -/
def env (proposed standing : Row) : Env :=
  ⟨now, params, [(u.standing, standing), ("excluded", proposed)]⟩

/-- The new values of the columns that a change sets. -/
def news? (proposed standing : Row) : Option Row :=
  u.changes.mapM fun change =>
    (change.2.eval? b (u.env now params proposed standing)).map (change.1, ·)

/-- What becomes of the row that stands under the key of the one to save. -/
def changed? (proposed standing : Row) : Option Row := do
  if ← meant? b (u.env now params proposed standing) u.condition then
    guard (u.changes.all fun change => (standing.map Prod.fst).contains change.1)
    let news ← u.news? b now params proposed standing
    return standing.updated news
  else
    return standing

/-- The rows of a table and the one to save, or the one that stands under its key changed. -/
def rows? (proposed : Row) : List Row → Option (List Row)
  | [] => some [proposed]
  | row :: rest =>
      if row.lookup u.key = proposed.lookup u.key then
        (u.changed? b now params proposed row).map (· :: rest)
      else (rows? proposed rest).map (row :: ·)

/-- The table behind the statement; none if the statement is refused. -/
def run? (t : Table) : Option Table := do
  let proposed ← u.proposed? b now params t
  let rows ← u.rows? b now params proposed t.rows
  return { t with rows }

end Run

/-! ### What a statement does -/

variable {b : Backend} {now : Int} {params : List Datum} {u : Upsert} {proposed : Row}
  {rows rows' : List Row}

/-- All that a statement can do: the row is new, or the one under its key is changed. -/
theorem cases_rows? (h : u.rows? b now params proposed rows = some rows') :
    ((∀ row ∈ rows, row.lookup u.key ≠ proposed.lookup u.key) ∧ rows' = rows ++ [proposed]) ∨
      ∃ front standing behind row, rows = front ++ standing :: behind ∧
        (∀ row ∈ front, row.lookup u.key ≠ proposed.lookup u.key) ∧
        standing.lookup u.key = proposed.lookup u.key ∧
        u.changed? b now params proposed standing = some row ∧
        rows' = front ++ row :: behind := by
  induction rows generalizing rows' with
  | nil =>
    obtain rfl := Option.some.inj h
    exact .inl ⟨nofun, rfl⟩
  | cons first rest ih =>
    rw [rows?] at h
    split at h
    · rename_i hkey
      obtain ⟨row, hrow, rfl⟩ := Option.map_eq_some_iff.1 h
      exact .inr ⟨[], first, rest, row, rfl, nofun, hkey, hrow, rfl⟩
    · rename_i hkey
      obtain ⟨more, hmore, rfl⟩ := Option.map_eq_some_iff.1 h
      rcases ih hmore with ⟨hnone, rfl⟩ | ⟨front, standing, behind, row, rfl, hfront, hmatch⟩
      · exact .inl ⟨List.forall_mem_cons.2 ⟨hkey, hnone⟩, rfl⟩
      · obtain ⟨hstanding, hrow, rfl⟩ := hmatch
        exact .inr ⟨first :: front, standing, behind, row, rfl,
          List.forall_mem_cons.2 ⟨hkey, hfront⟩, hstanding, hrow, rfl⟩

/-- A new row is taken. -/
theorem rows?_of_forall_ne (h : ∀ row ∈ rows, row.lookup u.key ≠ proposed.lookup u.key) :
    u.rows? b now params proposed rows = some (rows ++ [proposed]) := by
  induction rows with
  | nil => rfl
  | cons first rest ih =>
    obtain ⟨hfirst, hrest⟩ := List.forall_mem_cons.1 h
    rw [rows?, if_neg hfirst, ih hrest]
    rfl

/-- What becomes of the row under the key decides on the whole. -/
theorem rows?_of_front {front behind : List Row} {standing : Row}
    (hfront : ∀ row ∈ front, row.lookup u.key ≠ proposed.lookup u.key)
    (hkey : standing.lookup u.key = proposed.lookup u.key) :
    u.rows? b now params proposed (front ++ standing :: behind) =
      (u.changed? b now params proposed standing).map fun row => front ++ row :: behind := by
  induction front with
  | nil =>
    rw [List.nil_append, rows?, if_pos hkey]
    rfl
  | cons first front ih =>
    obtain ⟨hfirst, hrest⟩ := List.forall_mem_cons.1 hfront
    rw [List.cons_append, rows?, if_neg hfirst, ih hrest, Option.map_map]
    rfl

/-- A row is saved as soon as its values can be told. -/
theorem proposed?_of_columns {t : Table} (hcolumns : ∀ name ∈ u.columns, name ∈ t.names)
    (hlength : u.columns.length = u.values.length) :
    u.proposed? b now params t =
      (u.values.mapM (Term.eval? b ⟨now, params, []⟩)).map fun values =>
        (t.defaults now).updated (u.columns.zip values) := by
  have hall : (u.columns.all t.names.contains && u.columns.length = u.values.length) = true := by
    simpa [hlength] using hcolumns
  rw [proposed?, guard, if_pos hall]
  cases u.values.mapM (Term.eval? b ⟨now, params, []⟩) <;> rfl

/-- A row that is not meant stays. -/
theorem changed?_of_not_meant {standing : Row}
    (hmeant : meant? b (u.env now params proposed standing) u.condition = some false) :
    u.changed? b now params proposed standing = some standing := by
  rw [changed?, hmeant]
  rfl

/-- A row that is meant gets its new values. -/
theorem changed?_of_meant {standing : Row}
    (hmeant : meant? b (u.env now params proposed standing) u.condition = some true)
    (hset : ∀ change ∈ u.changes, change.1 ∈ standing.map Prod.fst) :
    u.changed? b now params proposed standing =
      (u.news? b now params proposed standing).map standing.updated := by
  have hall : (u.changes.all fun change => (standing.map Prod.fst).contains change.1) = true := by
    simpa using hset
  rw [changed?, hmeant, Option.bind_eq_bind, Option.bind_some, if_pos rfl, guard, if_pos hall]
  cases u.news? b now params proposed standing <;> rfl

/-- All that can become of a row. -/
theorem cases_changed? {standing row : Row}
    (h : u.changed? b now params proposed standing = some row) :
    meant? b (u.env now params proposed standing) u.condition = some false ∧ row = standing ∨
      meant? b (u.env now params proposed standing) u.condition = some true ∧
        ∃ news, u.news? b now params proposed standing = some news ∧
          row = standing.updated news := by
  obtain ⟨meant, hmeant, h⟩ := Option.bind_eq_some_iff.1 h
  cases meant with
  | false => exact .inl ⟨hmeant, (Option.some.inj h).symm⟩
  | true =>
    obtain ⟨-, -, h⟩ := Option.bind_eq_some_iff.1 h
    obtain ⟨news, hnews, h⟩ := Option.bind_eq_some_iff.1 h
    exact .inr ⟨hmeant, news, hnews, (Option.some.inj h).symm⟩

theorem map_fst_news? {standing news : Row}
    (h : u.news? b now params proposed standing = some news) :
    news.map Prod.fst = u.changes.map Prod.fst := by
  rw [← List.forall₂_eq_eq_eq, List.forall₂_map_left_iff, List.forall₂_map_right_iff]
  refine ((mapM_eq_some_iff.1 h).imp fun change cell hcell => ?_).flip
  obtain ⟨d, -, rfl⟩ := Option.map_eq_some_iff.1 hcell
  rfl

/-- What a change leaves alone: all columns but those it sets. -/
theorem lookup_changed? {standing row : Row}
    (h : u.changed? b now params proposed standing = some row) {name : String}
    (hname : name ∉ u.changes.map Prod.fst) : row.lookup name = standing.lookup name := by
  rcases cases_changed? h with ⟨-, rfl⟩ | ⟨-, news, hnews, rfl⟩
  · rfl
  · have hnone : news.lookup name = none := by
      rw [List.lookup_eq_none_iff]
      intro cell hcell
      rw [bne_iff_ne]
      rintro rfl
      exact hname (map_fst_news? hnews ▸ List.mem_map_of_mem hcell)
    exact Row.lookup_updated_of_none hnone

section Keys

variable (hset : u.key ∉ u.changes.map Prod.fst)
include hset

/-- A row that was not there has the key of the one to save: it is that one, or what became of
the one that stood there. -/
theorem cases_mem_rows? (h : u.rows? b now params proposed rows = some rows') {row : Row}
    (hrow : row ∈ rows') :
    row ∈ rows ∨ row.lookup u.key = proposed.lookup u.key ∧
      (row = proposed ∨
        ∃ standing ∈ rows, u.changed? b now params proposed standing = some row) := by
  rcases cases_rows? h with
    ⟨-, rfl⟩ | ⟨front, standing, behind, changed, rfl, -, hsame, hchanged, rfl⟩
  · rcases List.mem_append.1 hrow with hold | hnew
    · exact .inl hold
    · obtain rfl := List.mem_singleton.1 hnew
      exact .inr ⟨rfl, .inl rfl⟩
  · rcases List.mem_append.1 hrow with hfront | hrest
    · exact .inl (List.mem_append_left _ hfront)
    · rcases List.mem_cons.1 hrest with rfl | hbehind
      · exact .inr ⟨(lookup_changed? hchanged hset).trans hsame,
          .inr ⟨standing, List.mem_append_right _ List.mem_cons_self, hchanged⟩⟩
      · exact .inl (List.mem_append_right _ (List.mem_cons_of_mem _ hbehind))

/-- The keys of the rows stay, and one comes behind them if it is new. -/
theorem keys_rows? (h : u.rows? b now params proposed rows = some rows') :
    rows'.map (·.lookup u.key) = rows.map (·.lookup u.key) ∨
      proposed.lookup u.key ∉ rows.map (·.lookup u.key) ∧
        rows'.map (·.lookup u.key) = rows.map (·.lookup u.key) ++ [proposed.lookup u.key] := by
  rcases cases_rows? h with ⟨hnone, rfl⟩ | ⟨front, standing, behind, row, rfl, -, -, hrow, rfl⟩
  · refine .inr ⟨?_, by simp⟩
    rw [List.mem_map]
    rintro ⟨row, hrow, hkey⟩
    exact hnone row hrow hkey
  · exact .inl (by simp [lookup_changed? hrow hset])

/-- A key has one row, before and after. -/
theorem nodup_rows? (h : u.rows? b now params proposed rows = some rows')
    (hrows : (rows.map (·.lookup u.key)).Nodup) : (rows'.map (·.lookup u.key)).Nodup := by
  rcases keys_rows? hset h with hkeys | ⟨hnew, hkeys⟩
  · rwa [hkeys]
  · rw [hkeys]
    refine List.nodup_append.2 ⟨hrows, List.nodup_singleton _, ?_⟩
    rintro key hkey _ hself rfl
    rw [List.mem_singleton] at hself
    exact hnew (hself ▸ hkey)

/-- Under the other keys stands what stood there. -/
theorem find?_rows?_of_ne (h : u.rows? b now params proposed rows = some rows') {d : Datum}
    (hd : proposed.lookup u.key ≠ some d) :
    (rows'.find? fun row => row.lookup u.key = some d) =
      rows.find? fun row => row.lookup u.key = some d := by
  rcases cases_rows? h with
    ⟨-, rfl⟩ | ⟨front, standing, behind, row, rfl, -, hkey, hrow, rfl⟩
  · simp [List.find?_append, hd]
  · have hstanding : standing.lookup u.key ≠ some d := hkey ▸ hd
    have hnew : row.lookup u.key ≠ some d := lookup_changed? hrow hset ▸ hstanding
    simp [List.find?_append, hstanding, hnew]

/-- Under the key stands the new row, or what became of the one that stood there. -/
theorem find?_rows?_self (h : u.rows? b now params proposed rows = some rows') {d : Datum}
    (hd : proposed.lookup u.key = some d) :
    ∃ row, (rows'.find? fun row => row.lookup u.key = some d) = some row ∧
      match rows.find? fun row => row.lookup u.key = some d with
      | none => row = proposed
      | some standing => u.changed? b now params proposed standing = some row := by
  rcases cases_rows? h with
    ⟨hnone, rfl⟩ | ⟨front, standing, behind, row, rfl, hfront, hkey, hrow, rfl⟩
  · have hfind : (rows.find? fun row => row.lookup u.key = some d) = none := by
      simpa [hd] using hnone
    refine ⟨proposed, ?_, by rw [hfind]⟩
    simp [List.find?_append, hfind, hd]
  · have hfind : (front.find? fun row => row.lookup u.key = some d) = none := by
      simpa [hd] using hfront
    have hstanding : standing.lookup u.key = some d := hkey.trans hd
    have hnew : row.lookup u.key = some d := (lookup_changed? hrow hset).trans hstanding
    refine ⟨row, ?_, ?_⟩
    · simp [List.find?_append, hfind, hnew]
    · simpa [List.find?_append, hfind, hstanding] using hrow

end Keys

end Upsert

/-! ## Reading -/

/-- A `SELECT` from one table. -/
structure Fetch where
  items : List Term
  table : String
  /-- Which rows are meant. -/
  condition : Option Term
  /-- What the rows are put in order by. -/
  order : Option Term
  deriving DecidableEq

/-- The order of values; null is behind all others. -/
def Datum.precedes : Datum → Datum → Bool
  | .integer m, .integer n => m ≤ n
  | _, .null => true
  | _, _ => false

namespace Fetch

open Grammar

def grammar : Grammar Fetch := do
  phrase "SELECT"
  let items ← list do
    let item ← Term.grammar
    let _ ← clause "AS" name
    return item
  phrase "FROM"
  let table ← name
  let condition ← clause "WHERE" Term.grammar
  let order ← clause "ORDER BY" Term.grammar
  return ⟨items, table, condition, order⟩

section Run

variable (b : Backend) (now : Int) (params : List Datum) (q : Fetch)

/-- What the terms of the statement can name. -/
def env (row : Row) : Env := ⟨now, params, [(q.table, row)]⟩

@[simp] theorem row?_env (row : Row) : (q.env now params row).row? none = some row := rfl

/-- The cells that a row gives. -/
def cells? (row : Row) : Option (List Cell) :=
  q.items.mapM fun item => (item.eval? b (q.env now params row)).bind Datum.cell?

/-- The rows that are meant, in an order that the statement allows. -/
structure Picks (rows picked : List Row) : Prop where
  decided : ∀ row ∈ rows, (meant? b (q.env now params row) q.condition).isSome
  perm : picked.Perm
    (rows.filter fun row => meant? b (q.env now params row) q.condition = some true)
  inOrder : ∀ term ∈ q.order, picked.Pairwise fun row row' =>
    ∃ d d', term.eval? b (q.env now params row) = some d ∧
      term.eval? b (q.env now params row') = some d' ∧ d.precedes d' = true

/-- The statement can be answered with these rows. -/
def Gives (rows : List Row) (answer : List (List Cell)) : Prop :=
  ∃ picked, q.Picks b now params rows picked ∧
    picked.mapM (q.cells? b now params) = some answer

end Run

variable {b : Backend} {now : Int} {params : List Datum} {q : Fetch} {rows picked : List Row}

/-- The rows that are picked are those of which the condition is true. -/
theorem Picks.perm_of_meant (h : q.Picks b now params rows picked) {p : Row → Bool}
    (hp : ∀ row ∈ rows, meant? b (q.env now params row) q.condition = some (p row)) :
    picked.Perm (rows.filter p) := by
  refine h.perm.trans (List.Perm.of_eq (List.filter_congr fun row hrow => ?_))
  rw [hp row hrow]
  cases p row <;> rfl

/-- A statement without an order gives the rows that are meant, as they stand. -/
theorem gives_of_meant {p : Row → Bool} {cells : Row → List Cell} (horder : q.order = none)
    (hmeant : ∀ row ∈ rows, meant? b (q.env now params row) q.condition = some (p row))
    (hcells : ∀ row ∈ rows, q.cells? b now params row = some (cells row)) :
    q.Gives b now params rows ((rows.filter p).map cells) := by
  refine ⟨rows.filter p, ⟨fun row hrow => Option.isSome_of_eq_some (hmeant row hrow), ?_, ?_⟩,
    mapM_eq_some_map fun row hrow => hcells row (List.mem_filter.1 hrow).1⟩
  · refine List.Perm.of_eq (List.filter_congr fun row hrow => ?_)
    simp [hmeant row hrow]
  · rw [horder]
    nofun

/-- Where the row with a value is meant that no two rows share, it is given and nothing else. -/
theorem gives_iff_of_once {column : String} {d : Datum} {cells : Row → List Cell}
    {answer : List (List Cell)} (horder : q.order = none)
    (honce : (rows.map (·.lookup column)).Nodup)
    (hmeant : ∀ row ∈ rows, meant? b (q.env now params row) q.condition =
      some (decide (row.lookup column = some d)))
    (hcells : ∀ row ∈ rows, q.cells? b now params row = some (cells row)) :
    q.Gives b now params rows answer ↔
      answer = ((rows.find? fun row => row.lookup column = some d).toList).map cells := by
  have hrows := filter_eq_toList_find? honce d
  constructor
  · rintro ⟨picked, hpicks, hgiven⟩
    have hperm := hpicks.perm_of_meant hmeant
    rw [hrows] at hperm
    -- Of one row at most there is one order.
    obtain rfl : picked = (rows.find? fun row => row.lookup column = some d).toList := by
      cases hfind : rows.find? fun row => row.lookup column = some d with
      | none =>
        rw [hfind] at hperm
        exact hperm.eq_nil
      | some row =>
        rw [hfind] at hperm
        exact List.perm_singleton.1 hperm
    rw [mapM_eq_some_map fun row hrow => hcells row
      (List.mem_of_find?_eq_some (Option.mem_toList.1 hrow))] at hgiven
    exact (Option.some.inj hgiven).symm
  · rintro rfl
    rw [← hrows]
    exact gives_of_meant horder hmeant hcells

end Fetch

/-! ## Statements around the name of a table -/

/-- The tokens of a text that leaves the reader between two of them. -/
def freeTokens? (s : String) : Option (List Token) :=
  (Mode.blank.run? s.toList).bind fun r => if r.2 = .blank then some r.1 else none

theorem freeTokens?_eq_some_iff {s : String} {ts : List Token} :
    freeTokens? s = some ts ↔ Mode.blank.run? s.toList = some (ts, .blank) := by
  rw [freeTokens?, Option.bind_eq_some_iff]
  constructor
  · rintro ⟨⟨ended, m⟩, hrun, hfree⟩
    obtain ⟨rfl, heq⟩ := Option.ite_none_right_eq_some.1 hfree
    exact Option.some.inj heq ▸ hrun
  · intro h
    exact ⟨_, h, if_pos rfl⟩

theorem freeTokens?_append {a b : String} {before after : List Token}
    (ha : freeTokens? a = some before) (hb : freeTokens? b = some after) :
    freeTokens? (a ++ b) = some (before ++ after) := by
  rw [freeTokens?_eq_some_iff] at ha hb ⊢
  rw [String.toList_append, Mode.run?_append ha, hb]
  rfl

theorem tokens?_append_of_freeTokens? {a b : String} {before after : List Token}
    (ha : freeTokens? a = some before) (hb : tokens? b = some after) :
    tokens? (a ++ b) = some (before ++ after) := by
  rw [freeTokens?_eq_some_iff] at ha
  rw [tokens?] at hb ⊢
  obtain ⟨⟨ended', m'⟩, hrun', hclose⟩ := Option.bind_eq_some_iff.1 hb
  obtain ⟨last, hlast, rfl⟩ := Option.map_eq_some_iff.1 hclose
  rw [String.toList_append, Mode.run?_append ha, hrun']
  simp [Mode.behindTokens, hlast]

/-- A statement is read from the tokens in front of the table, the table, and the tokens
behind it. -/
theorem read?_around {α : Type} {g : Grammar α} {front behind : String}
    {before after : List Token} {value : α} (table : TableName)
    (hfront : freeTokens? front = some before) (hblank : startsBlank behind = true)
    (hbehind : tokens? behind = some after)
    (h : g (before ++ .word table.text :: after) = some (value, [])) :
    Grammar.read? g (front ++ table.text ++ behind) = some value := by
  have htokens : tokens? (front ++ table.text ++ behind) =
      some (before ++ .word table.text :: after) := by
    rw [tokens?_append_of_startsBlank
      (tokens?_append_of_freeTokens? hfront (tokens?_name table)) hblank, hbehind]
    simp
  rw [Grammar.read?, htokens, Option.bind_eq_bind, Option.bind_some, h]
  rfl

end DocStore.Sql
