import DocStore.Proofs.Document.Batches

/-!
# What statements do to the documents of a table

Read off its text, a statement locks rows, writes one row, or leaves the documents alone
(`Statement.effect`).

* Plain queries and walks alike lock what they read for an update:
  `Query.effect_selectKeyed`.
* Saving and deleting write one document each: `DocumentTable.effect_upsertStatement`,
  `DocumentTable.effect_deleteStatement`.
* Looking for the table and making it do nothing to its documents:
  `DocumentTable.effect_columns`, `DocumentTable.effect_create`.
-/

namespace DocStore

open Sql (Statement Piece)

/-- What is stored of a document: a text, or null. -/
abbrev Stored : Type := Option String

/-- The document that is read from what is stored. -/
def Stored.json? : Stored → Option Json
  | none => some .null
  | some text =>
      match Json.read text with
      | .ok value => some value
      | .error _ => none

/-- The key of a row and what is stored under it. -/
def storedRow? : List Cell → Option (String × Stored)
  | .text key :: .text data :: _ => some (key, some data)
  | .text key :: .null :: _ => some (key, none)
  | _ => none

/-- An entry is read from a row. -/
theorem storedRow?_of_readEntry {row : List Cell} {e : Entry}
    (h : DocumentStore.readEntry row = .ok e) :
    ∃ stored, storedRow? row = some (e.key, stored) ∧ stored.json? = some e.data := by
  have hkey : Cell.place? [keyColumn, dataColumn] keyColumn = some 0 := by decide
  have hdata : Cell.place? [keyColumn, dataColumn] dataColumn = some 1 := by decide
  simp only [DocumentStore.readEntry, Cell.atName, hkey, hdata, Option.bind_some] at h
  rcases row with _ | ⟨a, _ | ⟨b, rest⟩⟩
  · cases h
  · cases a <;> cases h
  · cases a with
    | text key =>
      cases b with
      | text data =>
        refine ⟨some data, ?_⟩
        simp only [List.getElem?_cons_zero, List.getElem?_cons_succ, Cell.readJson] at h
        cases hread : Json.read data with
        | error fault =>
          rw [hread] at h
          cases h
        | ok value =>
          rw [hread] at h
          obtain rfl : (⟨key, value⟩ : Entry) = e := Except.ok.inj h
          exact ⟨rfl, by rw [Stored.json?, hread]⟩
      | null =>
        obtain rfl : (⟨key, .null⟩ : Entry) = e := Except.ok.inj h
        exact ⟨none, rfl, rfl⟩
      | _ => cases h
    | _ => cases h

/-- A change of one document. -/
inductive Write where
  | put (key data : String)
  | remove (key : String)
  deriving DecidableEq

def Write.key : Write → String
  | put key _ | remove key => key

/-- What a statement does to the documents of a table. -/
inductive Effect where
  /-- It locks the rows that it reads. -/
  | lock
  | write (w : Write)
  /-- It asks for the columns of the table. -/
  | look
  | none

namespace Sql.Statement

/-- Whether the rows that are read stay locked. -/
def locksRows (s : Statement) : Bool :=
  [" FOR UPDATE", " FOR UPDATE OF doc"].any fun clause => clause.toList.isSuffixOf s.sql.toList

/-- How a statement starts that saves a document. -/
def upsertStart (table : String) : String :=
  "INSERT INTO " ++ table ++ " AS doc (id, data) VALUES ($1, $2::json) " ++
    "ON CONFLICT (id) DO UPDATE SET "

/-- What the statement does to the documents of a table. -/
def effect (table : String) (s : Statement) : Effect :=
  if s.locksRows then .lock
  else
    match s.params with
    | [.text key, .text data] =>
        if (upsertStart table).toList.isPrefixOf s.sql.toList then .write (.put key data) else .none
    | [.text key] =>
        if s.sql = "DELETE FROM " ++ table ++ " WHERE id = $1" then .write (.remove key)
        else if s.sql = TableLayout.columnsSql ∧ key = table then .look
        else .none
    | _ => .none

end Sql.Statement

/-! ## The last words of a statement -/

namespace Sql

theorem getLast?_append (s : String) {t : String} {c : Char} (h : t.toList.getLast? = some c) :
    (s ++ t).toList.getLast? = some c := by
  rw [String.toList_append, List.getLast?_append, h]
  rfl

/-- A statement that ends with another letter locks nothing. -/
theorem Statement.locksRows_of_getLast? {s : Statement} {c : Char}
    (h : s.sql.toList.getLast? = some c) (hc : c ∉ ['E', 'c']) : s.locksRows = false := by
  have hnot (clause : String) (d : Char) (hclause : clause.toList.getLast? = some d)
      (hd : d ∈ ['E', 'c']) : clause.toList.isSuffixOf s.sql.toList = false := by
    refine Bool.eq_false_iff.2 fun hsuffix => ?_
    obtain ⟨front, hfront⟩ := List.isSuffixOf_iff_suffix.1 hsuffix
    rw [← hfront, List.getLast?_append, hclause] at h
    exact hc (Option.some.inj h ▸ hd)
  rw [Statement.locksRows, List.any_cons, List.any_cons, List.any_nil,
    hnot " FOR UPDATE" 'E' rfl (by decide), hnot " FOR UPDATE OF doc" 'c' rfl (by decide)]
  rfl

theorem renderFrom_concat (n : Nat) (pieces : List Piece) (s : String) :
    ∃ front, renderFrom n (pieces ++ [.text s]) = front ++ s := by
  induction pieces generalizing n with
  | nil => exact ⟨"", by simp [renderFrom, Piece.render]⟩
  | cons piece rest ih =>
    obtain ⟨front, hfront⟩ := ih (if piece.param?.isSome then n + 1 else n)
    refine ⟨piece.render n ++ front, ?_⟩
    rw [List.cons_append, renderFrom, hfront, String.append_assoc]

/-- A statement that ends with one of the clauses locks rows. -/
theorem Statement.locksRows_ofPieces {pieces : List Piece} {clause : String}
    (hclause : clause ∈ [" FOR UPDATE", " FOR UPDATE OF doc"]) :
    (Statement.ofPieces (pieces ++ [.text clause])).locksRows = true := by
  obtain ⟨front, hfront⟩ := renderFrom_concat 1 pieces clause
  refine List.any_eq_true.2 ⟨clause, hclause, List.isSuffixOf_iff_suffix.2 ⟨front.toList, ?_⟩⟩
  rw [Statement.ofPieces, hfront, String.toList_append]

end Sql

/-! ## The statements of the operations -/

/-- A query that is asked to lock its rows locks them, be it plain or a walk. -/
theorem Query.locksRows_selectKeyed (q : Query) (table : String) :
    (q.selectKeyed table true).locksRows = true := by
  rw [selectKeyed]
  cases q.source table with
  | rows r => exact Statement.locksRows_ofPieces List.mem_cons_self
  | walk seed t => exact Statement.locksRows_ofPieces (List.mem_cons_of_mem _ List.mem_cons_self)

theorem Query.effect_selectKeyed (q : Query) (table : String) :
    (q.selectKeyed table true).effect table = .lock :=
  if_pos (q.locksRows_selectKeyed table)

theorem DocumentTable.effect_upsertStatement (t : DocumentTable) (layout : TableLayout)
    (e : Entry) :
    (t.upsertStatement layout e).effect t.name.text = .write (.put e.key e.data.text) := by
  have hlast : (t.upsertStatement layout e).locksRows = false :=
    Statement.locksRows_of_getLast? (Sql.getLast?_append _ (c := 'b') rfl) (by decide)
  have hstart : (Statement.upsertStart t.name.text).toList.isPrefixOf
      (t.upsertStatement layout e).sql.toList = true := by
    have hsql : (t.upsertStatement layout e).sql = Statement.upsertStart t.name.text ++
        (", ".intercalate (layout.assignments.map TableLayout.Assignment.sql) ++
          " WHERE doc.data::jsonb IS DISTINCT FROM EXCLUDED.data::jsonb") := by
      rw [← String.append_assoc]
      rfl
    rw [hsql, String.toList_append]
    exact List.isPrefixOf_iff_prefix.2 (List.prefix_append _ _)
  rw [Statement.effect, hlast, if_neg Bool.false_ne_true]
  exact if_pos hstart

/-- Removes the document under a key. -/
def DocumentTable.deleteStatement (t : DocumentTable) (key : String) : Statement :=
  ⟨"DELETE FROM " ++ t.name.text ++ " WHERE id = $1", [.text key]⟩

theorem DocumentTable.effect_deleteStatement (t : DocumentTable) (key : String) :
    (t.deleteStatement key).effect t.name.text = .write (.remove key) := by
  have hlast : (t.deleteStatement key).locksRows = false :=
    Statement.locksRows_of_getLast? (Sql.getLast?_append _ (c := '1') rfl) (by decide)
  rw [Statement.effect, hlast, if_neg Bool.false_ne_true]
  exact if_pos rfl

theorem DocumentTable.effect_columns (t : DocumentTable) :
    Statement.effect t.name.text ⟨TableLayout.columnsSql, [.text t.name.text]⟩ = .look := by
  have hlast : Statement.locksRows ⟨TableLayout.columnsSql, [.text t.name.text]⟩ = false :=
    Statement.locksRows_of_getLast? (Sql.getLast?_append _ (c := '1') rfl) (by decide)
  have hhead : TableLayout.columnsSql.toList.head? = some 'S' := Sql.head?_append rfl _
  have hdelete : ("DELETE FROM " ++ t.name.text ++ " WHERE id = $1").toList.head? = some 'D' :=
    Sql.head?_append (Sql.head?_append rfl _) _
  have hne : TableLayout.columnsSql ≠ "DELETE FROM " ++ t.name.text ++ " WHERE id = $1" := by
    intro heq
    rw [heq, hdelete] at hhead
    exact absurd hhead (by decide)
  rw [Statement.effect, hlast, if_neg Bool.false_ne_true]
  exact (if_neg hne).trans (if_pos ⟨rfl, rfl⟩)

theorem DocumentTable.effect_create (t : DocumentTable) (table : String) :
    Statement.effect table (.plain (TableLayout.createTableSql t.name.text)) = .none := by
  have hlast : (Statement.plain (TableLayout.createTableSql t.name.text)).locksRows = false :=
    Statement.locksRows_of_getLast? (Sql.getLast?_append _ (c := ')') rfl) (by decide)
  rw [Statement.effect, hlast]
  rfl

end DocStore
