import DocStore.Proofs.Sql.Storing

/-!
# Statements that count rows

What a `SELECT count(*) FROM … WHERE …` gives (`Tally.count?`), where the condition is a
number of tests that all have to hold, and how it is read from the text of the statement
(`Tally.grammar`).  A test compares a column with a text, a number, a parameter or the
number of the session that asks.

As with the terms, two values of different types are not compared.  Null is compared with
everything, and equals nothing.
-/

namespace DocStore.Sql

/-- Whether two values of one type are equal. -/
def Datum.meets? : Datum → Datum → Option Bool
  | .null, _ | _, .null => some false
  | .text a, .text b => some (a = b)
  | .integer m, .integer n => some (m = n)
  | _, _ => none

/-- What a column is compared with. -/
inductive Probe where
  /-- The number of the session that asks. -/
  | session
  | literal (text : String)
  | number (n : Nat)
  | placeholder (index : Nat)
  deriving DecidableEq

/-- A column, perhaps as a value of another type, equals a value. -/
structure Test where
  column : String
  type : Option String
  probe : Probe
  deriving DecidableEq

/-- Counts the rows of a table for which all tests hold. -/
structure Tally where
  table : String
  tests : List Test
  deriving DecidableEq

/-! ## Reading -/

namespace Tally

open Grammar

def probe : Grammar Probe
  | .word "pg_backend_pid" :: .symbol '(' :: .symbol ')' :: rest => some (.session, rest)
  | .quoted .literal text :: rest => some (.literal text, rest)
  | .number digits :: rest => some (.number (Nat.ofDigitChars 10 digits.toList 0), rest)
  | .placeholder index :: rest => some (.placeholder index, rest)
  | _ => none

def typeBehind : Grammar (Option String)
  | .cast :: .word type :: rest => some (some type, rest)
  | rest => some (none, rest)

def test : Grammar Test := do
  let column ← name
  let type ← typeBehind
  phrase "="
  let value ← probe
  return ⟨column, type, value⟩

/-- Tests with `AND` between them, at least one and no more than `bound`. -/
def testsBelow : (bound : Nat) → Grammar (List Test)
  | 0 => failure
  | bound + 1 => do
      let first ← test
      if ← sees "AND" then
        let more ← testsBelow bound
        return first :: more
      else
        return [first]

/-- The statement.  There are no more tests than tokens. -/
def grammar : Grammar Tally := do
  phrase "SELECT count(*) FROM"
  let table ← name
  phrase "WHERE"
  let ts ← get
  let tests ← testsBelow ts.length
  return ⟨table, tests⟩

end Tally

/-! ## Counting -/

variable (b : Backend) (session : Int) (params : List Datum)

/-- The value that a column is compared with. -/
def Probe.value? : Probe → Option Datum
  | .session => some (.integer session)
  | .literal text => some (.text text)
  | .number n => some (.integer n)
  | .placeholder 0 => none
  | .placeholder (i + 1) => params[i]?

/-- Whether the test holds for a row. -/
def Test.holds? (test : Test) (row : Row) : Option Bool := do
  let stands ← row.lookup test.column
  let value ← match test.type with
    | none => some stands
    | some type => stands.cast? b type
  Datum.meets? value (← test.probe.value? session params)

/-- Whether all tests hold for a row. -/
def Tally.counts? (tally : Tally) (row : Row) : Option Bool := do
  return (← tally.tests.mapM fun test => test.holds? b session params row).all id

/-- How many rows are counted. -/
def Tally.count? (tally : Tally) (rows : List Row) : Option Nat := do
  return (← rows.mapM (tally.counts? b session params)).count true

/-- Every row that can be tested counts if it passes. -/
theorem Tally.count?_eq_countP {α : Type} {tally : Tally} {row : α → Row} {passes : α → Bool}
    (h : ∀ x, tally.counts? b session params (row x) = some (passes x)) (xs : List α) :
    tally.count? b session params (xs.map row) = some (xs.countP passes) := by
  have hpasses : (xs.map row).mapM (tally.counts? b session params) = some (xs.map passes) := by
    rw [List.mapM_map]
    exact mapM_eq_some_map fun x _ => h x
  rw [count?, hpasses]
  simp [List.count, List.countP_map, Function.comp_def]

end DocStore.Sql
