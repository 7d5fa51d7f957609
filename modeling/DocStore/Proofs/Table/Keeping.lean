import DocStore.Proofs.Document.Effect
import DocStore.Proofs.Table.Documents

/-!
# What stands under a key

A save puts its text under its key, but not in the place of a text that says the same
(`Backend.kept?`): the text that stands there stays as it is written, and the save succeeds all
the same.  This is so whatever layout the statement was made for (`IsDocuments.put`), as long as
it is not refused.

Reading a key gives what stands there: `IsDocuments.gives_iff`.
-/

namespace DocStore

open Sql

/-- The text that stands under a key when this one was saved there; none if the two cannot be
compared. -/
def Sql.Backend.kept? (b : Backend) (payload : String) : Option Stored → Option String
  | some (some standing) => do
      let before ← b.content? standing
      let content ← b.content? payload
      return if before = content then standing else payload
  | _ => some payload

namespace DocumentTable

/-- A table with a row for each document; the text of a document can be missing. -/
structure IsDocuments (t : Table) : Prop where
  columns : "id" ∈ t.names ∧ "data" ∈ t.names
  key : ∀ row ∈ t.rows, ∃ key, row.lookup "id" = some (.text key)
  data : ∀ row ∈ t.rows,
    row.lookup "data" = some .null ∨ ∃ text, row.lookup "data" = some (.json text)
  once : (t.rows.map (·.lookup "id")).Nodup

/-- The text of a row. -/
def storedIn (row : Row) : Stored :=
  match row.lookup "data" with
  | some (.json text) => some text
  | _ => none

/-- What a table has under a key. -/
def stored? (t : Table) (key : String) : Option Stored :=
  (TableLayout.rowAt? t key).map storedIn

variable {b : Backend} {l : TableLayout} {now : Int} {t t' : Table} {name key payload : String}
  {row : Row}

theorem storedIn_of_json {text : String} (h : row.lookup "data" = some (.json text)) :
    storedIn row = some text := by
  rw [storedIn, h]

/-- A text that says something else takes the place of the one that stands there. -/
theorem kept?_eq {change : Bool}
    (hdata : row.lookup "data" = some .null ∨ ∃ text, row.lookup "data" = some (.json text))
    (h : TableLayout.isChange? b payload row = some change) :
    b.kept? payload (some (storedIn row)) =
      some (if change then payload else (storedIn row).getD "") := by
  obtain ⟨stored, hstored, h⟩ := Option.bind_eq_some_iff.1 h
  obtain ⟨content, hcontent, h⟩ := Option.bind_eq_some_iff.1 h
  obtain rfl := Option.some.inj h
  rcases hdata with hnull | ⟨text, htext⟩
  · have hnone : storedIn row = none := by rw [storedIn, hnull]
    obtain rfl : Datum.null = stored := by
      simpa [TableLayout.contentOf?, hnull, Datum.cast?] using hstored
    rw [hnone]
    simp [Backend.kept?]
  · obtain ⟨content', hcontent', rfl⟩ : ∃ content', b.content? text = some content' ∧
        Datum.content content' = stored := by
      simpa [TableLayout.contentOf?, htext, Datum.cast?] using hstored
    rw [storedIn_of_json htext]
    by_cases hsame : content' = content
    · simp [Backend.kept?, hcontent, hcontent', hsame]
    · simp [Backend.kept?, hcontent, hcontent', hsame]

namespace IsDocuments

/-- A row to save has its key and its text. -/
theorem lookup_proposed (ht : IsDocuments t) {proposed : Row}
    (h : (l.saving name).proposed? b now [.text key, .text payload] t = some proposed) :
    proposed.lookup "id" = some (.text key) ∧ proposed.lookup "data" = some (.json payload) := by
  rw [TableLayout.proposed?_saving ht.columns] at h
  obtain ⟨-, h⟩ := Option.ite_none_right_eq_some.1 h
  obtain rfl := Option.some.inj h
  exact TableLayout.lookup_newRow ht.columns now key payload

/-- A row that stands under the key has the text that is kept. -/
theorem lookup_changed {params : List Datum} {proposed standing row : Row}
    (hproposed : proposed.lookup "data" = some (.json payload))
    (hstanding : standing.lookup "data" = some .null ∨
      ∃ text, standing.lookup "data" = some (.json text))
    (h : (l.saving name).changed? b now params proposed standing = some row) :
    ∃ text, b.kept? payload (some (storedIn standing)) = some text ∧
      row.lookup "data" = some (.json text) := by
  have hmeant : meant? b ((l.saving name).env now params proposed standing)
      (l.saving name).condition = TableLayout.isChange? b payload standing :=
    TableLayout.meant?_differs hproposed hstanding
  rcases Upsert.cases_changed? h with ⟨hsame, rfl⟩ | ⟨hother, news, hnews, rfl⟩
  · rw [hmeant] at hsame
    refine ⟨_, kept?_eq hstanding hsame, ?_⟩
    rcases hstanding with hnull | ⟨text, htext⟩
    · cases hcontent : b.content? payload <;>
        simp [TableLayout.isChange?, TableLayout.contentOf?, hnull, Datum.cast?, hcontent] at hsame
    · rw [htext, storedIn_of_json htext]
      rfl
  · rw [hmeant] at hother
    refine ⟨_, kept?_eq hstanding hother, ?_⟩
    obtain ⟨d, hd⟩ : ∃ d, standing.lookup "data" = some d := by
      rcases hstanding with hnull | ⟨text, htext⟩
      · exact ⟨_, hnull⟩
      · exact ⟨_, htext⟩
    refine Row.lookup_updated_of_some hd ?_
    -- The first change is that of the text.
    obtain ⟨cell, rest, hcell, -, rfl⟩ := List.forall₂_cons_left_iff.1 (mapM_eq_some_iff.1 hnews)
    obtain ⟨d', hd', rfl⟩ := Option.map_eq_some_iff.1 hcell
    have hproposed' : ((l.saving name).env now params proposed standing).row? (some "excluded") =
        some proposed := rfl
    have heval : some (Datum.json payload) = some d' := by
      rw [← hd', ← hproposed]
      exact (congrArg (Option.bind · (·.lookup "data")) hproposed').symm
    obtain rfl := Option.some.inj heval
    rfl

/-- A save that is not refused puts its text under its key, unless the text there says the
same. -/
theorem put (ht : IsDocuments t)
    (h : (l.saving name).run? b now [.text key, .text payload] t = some t') :
    IsDocuments t' ∧
      (∃ text, b.kept? payload (stored? t key) = some text ∧
        stored? t' key = some (some text)) ∧
      ∀ k, k ≠ key → stored? t' k = stored? t k := by
  obtain ⟨proposed, hproposed, h⟩ := Option.bind_eq_some_iff.1 h
  obtain ⟨rows, hrows, h⟩ := Option.bind_eq_some_iff.1 h
  obtain rfl := Option.some.inj h
  obtain ⟨hkey, hdata⟩ := ht.lookup_proposed hproposed
  have hset : (l.saving name).key ∉ (l.saving name).changes.map Prod.fst := by
    cases hversion : l.version <;> cases hlast : l.lastUpdated <;>
      simp [TableLayout.saving, hversion, hlast]
  -- The row under the key, new or changed, has the key and a text.
  have hnew : ∀ row ∈ rows, row ∈ t.rows ∨
      row.lookup "id" = some (.text key) ∧ ∃ text, row.lookup "data" = some (.json text) := by
    intro row hrow
    refine (Upsert.cases_mem_rows? hset hrows hrow).imp_right ?_
    rintro ⟨hsame, rfl | ⟨standing, hstanding, hchanged⟩⟩ <;>
      refine ⟨hsame.trans hkey, ?_⟩
    · exact ⟨payload, hdata⟩
    · obtain ⟨text, -, htext⟩ := lookup_changed hdata (ht.data standing hstanding) hchanged
      exact ⟨text, htext⟩
  refine ⟨⟨ht.columns, fun row hrow => ?_, fun row hrow => ?_, ?_⟩, ?_, fun k hk => ?_⟩
  · rcases hnew row hrow with hold | ⟨hk, -⟩
    · exact ht.key row hold
    · exact ⟨key, hk⟩
  · rcases hnew row hrow with hold | ⟨-, htext⟩
    · exact ht.data row hold
    · exact .inr htext
  · exact Upsert.nodup_rows? hset hrows ht.once
  · obtain ⟨row, hfind, hrow⟩ := Upsert.find?_rows?_self hset hrows hkey
    have hfound : TableLayout.rowAt? { t with rows } key = some row := hfind
    obtain ⟨text, hkept, htext⟩ : ∃ text, b.kept? payload (stored? t key) = some text ∧
        row.lookup "data" = some (.json text) := by
      rw [stored?, TableLayout.rowAt?]
      split at hrow
      · rename_i hnone
        rw [show (t.rows.find? fun row => row.lookup "id" = some (.text key)) = none from hnone]
        exact ⟨payload, rfl, hrow ▸ hdata⟩
      · rename_i standing hstanding
        rw [show (t.rows.find? fun row => row.lookup "id" = some (.text key)) = some standing
          from hstanding]
        exact lookup_changed hdata (ht.data standing (List.mem_of_find?_eq_some hstanding)) hrow
    refine ⟨text, hkept, ?_⟩
    rw [stored?, hfound, Option.map_some, storedIn_of_json htext]
  · have hother : proposed.lookup "id" ≠ some (.text k) := by
      rw [hkey]
      simpa [eq_comm] using hk
    rw [stored?, stored?]
    exact congrArg _ (Upsert.find?_rows?_of_ne hset hrows hother)

end IsDocuments

/-! ## Reading -/

/-- Reads the document of a key. -/
def readingOne (table : String) : Fetch where
  items := [.column none "data"]
  table := table
  condition := some (.equal (.column none "id") (.placeholder 1))
  order := none

/-- Asks for the document of a key. -/
def selectStatement (t : DocumentTable) (key : String) : Statement :=
  ⟨"SELECT data FROM " ++ t.name.text ++ " WHERE id = $1", [.text key]⟩

theorem meaning_selectStatement (t : DocumentTable) (key : String) :
    Meaning.ofSql? (t.selectStatement key).sql = some (.read (readingOne t.name.text)) := by
  have hfront : freeTokens? "SELECT data FROM " =
      some [.word "select", .word "data", .word "from"] := by
    decide +kernel
  have hbehind : tokens? " WHERE id = $1" =
      some [.word "where", .word "id", .operator "=", .placeholder 1] := by
    decide +kernel
  exact read?_around t.name hfront (by decide +kernel) hbehind rfl

/-- A text as it is answered. -/
def cellOf : Stored → Cell
  | none => .null
  | some text => .text text

/-- What is given is what stands under the key. -/
theorem IsDocuments.gives_iff (ht : IsDocuments t) {answer : List (List Cell)} :
    (readingOne name).Gives b now [.text key] t.rows answer ↔
      answer = (stored? t key).toList.map fun stored => [cellOf stored] := by
  have hmeant : ∀ row ∈ t.rows,
      meant? b ((readingOne name).env now [.text key] row) (readingOne name).condition =
        some (decide (row.lookup "id" = some (.text key))) := by
    intro row hrow
    obtain ⟨id, hid⟩ := ht.key row hrow
    have henv := Fetch.row?_env now [.text key] (readingOne name) row
    have hparam : ((readingOne name).env now [.text key] row).params[0]? = some (.text key) := rfl
    have hcondition : (readingOne name).condition =
        some (.equal (.column none "id") (.placeholder 1)) := rfl
    rw [hcondition]
    simp [meant?, Term.eval?, henv, hparam, hid, Datum.equal?]
  have hcells : ∀ row ∈ t.rows, (readingOne name).cells? b now [.text key] row =
      some [cellOf (storedIn row)] := by
    intro row hrow
    have hitems : (readingOne name).items = [.column none "data"] := rfl
    rw [Fetch.cells?, hitems]
    rcases ht.data row hrow with hnull | ⟨text, htext⟩
    · simp [Term.eval?, Fetch.row?_env, hnull, storedIn, Datum.cell?, cellOf]
    · simp [Term.eval?, Fetch.row?_env, htext, storedIn, Datum.cell?, cellOf]
  rw [Fetch.gives_iff_of_once rfl ht.once hmeant hcells, stored?, TableLayout.rowAt?]
  cases t.rows.find? fun row => row.lookup "id" = some (.text key) <;> rfl

end DocumentTable

end DocStore
