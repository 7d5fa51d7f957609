import DocStore.Proofs.Database.Contents
import DocStore.Table.Layout

/-!
# The statements of a layout and its table

What the statements that save a document and read metadata mean, for every layout
(`TableLayout.meaning_upsertSql`, `TableLayout.meaning_metadataSql`).
-/

namespace DocStore.TableLayout

open Sql

/-! ## What the statements mean -/

/-- What a save sets the version to. -/
def nextVersion : Term :=
  .sum (.coalesce (.column (some "doc") "version") (.number 1)) (.number 1)

/-- Whether the document to save differs from the one that stands there. -/
def differs : Term :=
  .distinct (.cast (.column (some "doc") "data") "jsonb")
    (.cast (.column (some "excluded") "data") "jsonb")

/-- Saves a document. -/
def saving (l : TableLayout) (table : String) : Upsert where
  table := table
  standing := "doc"
  columns := ["id", "data"]
  values := [.placeholder 1, .cast (.placeholder 2) "json"]
  key := "id"
  changes :=
    ("data", .column (some "excluded") "data") ::
      (if l.version then [("version", nextVersion)] else []) ++
      (if l.lastUpdated then [("last_updated", .now)] else [])
  condition := some differs

/-- The version that is reported. -/
def versionTerm (l : TableLayout) : Term :=
  .cast (if l.version then .coalesce (.column none "version") (.number 1) else .number 1) "bigint"

/-- The time of the last change that is reported. -/
def lastUpdatedTerm (l : TableLayout) : Term :=
  if l.lastUpdated then .coalesce (.cast (.column none "last_updated") "timestamptz") .now
  else .now

/-- Reads the metadata of some keys. -/
def reporting (l : TableLayout) (table : String) : Fetch where
  items := [.cast (.column none "id") "text", l.versionTerm, l.lastUpdatedTerm]
  table := table
  condition := some (.among (.column none "id") (.placeholder 1))
  order := some (.position (.placeholder 1) (.cast (.column none "id") "text"))

/-! ### Their texts -/

/-- A save behind the table, up to what it sets. -/
def savingStart : String :=
  " AS doc (id, data) VALUES ($1, $2::json) " ++ "ON CONFLICT (id) DO UPDATE SET "

/-- What a save sets. -/
def settings (l : TableLayout) : String := ", ".intercalate (l.assignments.map Assignment.sql)

/-- Which rows a save changes. -/
def savingEnd : String := " WHERE doc.data::jsonb IS DISTINCT FROM EXCLUDED.data::jsonb"

theorem upsertSql_eq (l : TableLayout) (table : String) :
    l.upsertSql table = "INSERT INTO " ++ table ++ (savingStart ++ (l.settings ++ savingEnd)) := by
  have hassoc : ∀ a b c d e f : String,
      a ++ b ++ c ++ d ++ e ++ f = a ++ b ++ (c ++ d ++ (e ++ f)) := by
    intro a b c d e f
    simp only [String.append_assoc]
  exact hassoc _ _ _ _ _ _

def savingStartTokens : List Token :=
  [.word "as", .word "doc", .symbol '(', .word "id", .symbol ',', .word "data", .symbol ')',
    .word "values", .symbol '(', .placeholder 1, .symbol ',', .placeholder 2, .cast, .word "json",
    .symbol ')', .word "on", .word "conflict", .symbol '(', .word "id", .symbol ')', .word "do",
    .word "update", .word "set"]

def settingsTokens (l : TableLayout) : List Token :=
  [.word "data", .operator "=", .word "excluded", .symbol '.', .word "data"] ++
  (if l.version then
    [.symbol ',', .word "version", .operator "=", .word "coalesce", .symbol '(', .word "doc",
      .symbol '.', .word "version", .symbol ',', .number "1", .symbol ')', .operator "+",
      .number "1"]
  else []) ++
  (if l.lastUpdated then
    [.symbol ',', .word "last_updated", .operator "=", .word "now", .symbol '(', .symbol ')']
  else [])

def savingEndTokens : List Token :=
  [.word "where", .word "doc", .symbol '.', .word "data", .cast, .word "jsonb", .word "is",
    .word "distinct", .word "from", .word "excluded", .symbol '.', .word "data", .cast,
    .word "jsonb"]

theorem tokens?_settings (l : TableLayout) : tokens? l.settings = some l.settingsTokens := by
  have hall : ∀ version lastUpdated, tokens? (settings ⟨version, lastUpdated, true⟩) =
      some (settingsTokens ⟨version, lastUpdated, true⟩) := by
    decide +kernel
  exact hall l.version l.lastUpdated

/-- Every server reads the save of a layout as what it is meant to be. -/
theorem meaning_upsertSql (l : TableLayout) (table : TableName) :
    Meaning.ofSql? (l.upsertSql table.text) = some (.save (l.saving table.text)) := by
  have hstart : freeTokens? savingStart = some savingStartTokens := by decide +kernel
  have hend : tokens? savingEnd = some savingEndTokens := by decide +kernel
  have hfront : freeTokens? "INSERT INTO " = some [.word "insert", .word "into"] := by
    decide +kernel
  have hbehind : tokens? (savingStart ++ (l.settings ++ savingEnd)) =
      some (savingStartTokens ++ (l.settingsTokens ++ savingEndTokens)) := by
    refine tokens?_append_of_freeTokens? hstart ?_
    rw [tokens?_append_of_startsBlank l.tokens?_settings (by decide +kernel), hend]
    rfl
  rw [upsertSql_eq]
  refine read?_around table hfront (startsBlank_append (by decide +kernel)) hbehind ?_
  obtain ⟨version, lastUpdated, dateCreated⟩ := l
  cases version <;> cases lastUpdated <;> rfl

/-- The version in a report. -/
def versionText (l : TableLayout) : String :=
  if l.version then "COALESCE(version, 1)::bigint" else "1::bigint"

/-- The time in a report. -/
def lastUpdatedText (l : TableLayout) : String :=
  if l.lastUpdated then "COALESCE(last_updated::timestamptz, now())" else "now()"

/-- A report behind the table. -/
def reportingEnd : String := " WHERE id = ANY($1) ORDER BY array_position($1, id::text)"

theorem metadataSql_eq (l : TableLayout) (table : String) :
    l.metadataSql table = "SELECT id::text, " ++ ((l.versionText ++ " AS version, ") ++
      (l.lastUpdatedText ++ " AS last_updated FROM ")) ++ table ++ reportingEnd := by
  have hassoc : ∀ a b c d e f g : String,
      a ++ b ++ c ++ d ++ e ++ f ++ g = a ++ ((b ++ c) ++ (d ++ e)) ++ f ++ g := by
    intro a b c d e f g
    simp only [String.append_assoc]
  exact hassoc _ _ _ _ _ _ _

def versionTokens (l : TableLayout) : List Token :=
  (if l.version then
    [.word "coalesce", .symbol '(', .word "version", .symbol ',', .number "1", .symbol ')']
  else [.number "1"]) ++
  [.cast, .word "bigint", .word "as", .word "version", .symbol ',']

def lastUpdatedTokens (l : TableLayout) : List Token :=
  (if l.lastUpdated then
    [.word "coalesce", .symbol '(', .word "last_updated", .cast, .word "timestamptz", .symbol ',',
      .word "now", .symbol '(', .symbol ')', .symbol ')']
  else [.word "now", .symbol '(', .symbol ')']) ++
  [.word "as", .word "last_updated", .word "from"]

def reportingEndTokens : List Token :=
  [.word "where", .word "id", .operator "=", .word "any", .symbol '(', .placeholder 1,
    .symbol ')', .word "order", .word "by", .word "array_position", .symbol '(', .placeholder 1,
    .symbol ',', .word "id", .cast, .word "text", .symbol ')']

theorem freeTokens?_version (l : TableLayout) :
    freeTokens? (l.versionText ++ " AS version, ") = some l.versionTokens := by
  rw [versionText, versionTokens]
  cases l.version <;> decide +kernel

theorem freeTokens?_lastUpdated (l : TableLayout) :
    freeTokens? (l.lastUpdatedText ++ " AS last_updated FROM ") = some l.lastUpdatedTokens := by
  rw [lastUpdatedText, lastUpdatedTokens]
  cases l.lastUpdated <;> decide +kernel

theorem meaning_metadataSql (l : TableLayout) (table : TableName) :
    Meaning.ofSql? (l.metadataSql table.text) = some (.read (l.reporting table.text)) := by
  have hselect : freeTokens? "SELECT id::text, " =
      some [.word "select", .word "id", .cast, .word "text", .symbol ','] := by
    decide +kernel
  have hend : tokens? reportingEnd = some reportingEndTokens := by decide +kernel
  have hfront := freeTokens?_append hselect
    (freeTokens?_append l.freeTokens?_version l.freeTokens?_lastUpdated)
  rw [metadataSql_eq]
  refine read?_around table hfront (by decide +kernel) hend ?_
  obtain ⟨version, lastUpdated, dateCreated⟩ := l
  cases version <;> cases lastUpdated <;> rfl

end DocStore.TableLayout
