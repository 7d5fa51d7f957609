import DocStore.Database.Command
import DocStore.Proofs.Sql.Grammar
import DocStore.Proofs.Sql.Like

/-!
# Terms and their values

The terms of the statements that save rows and read them, as the server understands
them.  `Term.grammar` reads a term from tokens: names, values and calls, a type behind
any of these, one sum, and one comparison.  `Term.eval?` is its value in the rows that
it can name (`Env`).

Both are partial.  A term with more in it is not read, and a value that the server would
refuse, or that would need another rule than those here, is none: what is shown of the
values that there are does not rest on a guess.
-/

namespace DocStore.Sql

/-! ## Values -/

/-- A value of a row, or bound to a placeholder. -/
inductive Datum where
  | null
  | boolean (b : Bool)
  | text (s : String)
  | texts (list : List String)
  | integer (n : Int)
  /-- JSON, kept as it is written. -/
  | json (text : String)
  /-- What JSON says, however it is written. -/
  | content (text : String)
  /-- Microseconds since 1970. -/
  | instant (micros : Int)
  deriving DecidableEq

/-- A row, as its columns and their values. -/
abbrev Row : Type := List (String × Datum)

/-- The value of a parameter. -/
def Param.datum : Param → Datum
  | .text value => .text value
  | .textArray values => .texts values
  | .bigint value => .integer value

/-- What the server knows of JSON and of integers. -/
structure Backend where
  /-- Which texts are JSON. -/
  isJson : String → Bool
  /-- What a text of JSON says, in one way of writing it.  Some texts are JSON and are refused
  here all the same. -/
  content? : String → Option String
  /-- The greatest integer. -/
  greatest : Int

namespace Datum

/-- The value as one of another type. -/
def cast? (b : Backend) : String → Datum → Option Datum
  | _, .null => some .null
  | "text", .text s => some (.text s)
  | "json", .text s => if b.isJson s then some (.json s) else none
  | "jsonb", .json s => (b.content? s).map .content
  | "bigint", .integer n => some (.integer n)
  | "timestamptz", .instant t => some (.instant t)
  | _, _ => none

/-- A sum.  Integers beyond the greatest are refused. -/
def add? (b : Backend) : Datum → Datum → Option Datum
  | .integer m, .integer n => if m + n ≤ b.greatest then some (.integer (m + n)) else none
  | .null, .integer _ | .integer _, .null => some .null
  | _, _ => none

/-- The place of a text in a list, from one on. -/
def position? : Datum → Datum → Option Datum
  | .texts list, .text s =>
      some (if list.contains s then .integer (list.idxOf s + 1) else .null)
  | .texts _, .null => some .null
  | _, _ => none

def equal? : Datum → Datum → Option Datum
  | .text a, .text b => some (.boolean (a = b))
  | .null, .text _ | .text _, .null => some .null
  | _, _ => none

/-- Whether a text is in a list. -/
def among? : Datum → Datum → Option Datum
  | .text s, .texts list => some (.boolean (list.contains s))
  | .null, .texts list => some (if list.isEmpty then .boolean false else .null)
  | _, _ => none

/-- Whether two values differ, null being a value like others.  There is no such comparison
for JSON as it is written. -/
def distinct? : Datum → Datum → Option Datum
  | .null, .null => some (.boolean false)
  | .null, _ | _, .null => some (.boolean true)
  | .content a, .content b => some (.boolean (a ≠ b))
  | _, _ => none

/-- Whether a text matches a pattern with this escape character. -/
def matches? : Datum → Datum → Datum → Option Datum
  | .text s, .text pattern, .text escape =>
      match escape.toList with
      | [c] => (like? c pattern.toList s.toList).map .boolean
      | _ => none
  | .null, .text _, .text _ => some .null
  | _, _, _ => none

/-- The value as it is answered; lists are not. -/
def cell? : Datum → Option Cell
  | null => some .null
  | boolean b => some (.boolean b)
  | text s | json s | content s => some (.text s)
  | integer n | instant n => some (.integer n)
  | texts _ => none

end Datum

/-! ## Terms -/

/-- A term of a statement. -/
inductive Term where
  /-- A column, of the only row or of the row of that name. -/
  | column (row : Option String) (name : String)
  | placeholder (index : Nat)
  | number (n : Nat)
  | literal (text : String)
  | now
  | coalesce (first second : Term)
  | position (list item : Term)
  | cast (a : Term) (type : String)
  | sum (a b : Term)
  | equal (a b : Term)
  | among (a list : Term)
  | distinct (a b : Term)
  | like (a pattern escape : Term)
  deriving DecidableEq

namespace Term

open Grammar

/-- A call with two arguments. -/
def call? : String → Term → Term → Option Term
  | "coalesce", a, b => some (.coalesce a b)
  | "array_position", a, b => some (.position a b)
  | _, _, _ => none

/-- A value, a name, or a call; `inner` reads the arguments. -/
def atom (inner : Grammar Term) : Grammar Term
  | .placeholder index :: rest => some (.placeholder index, rest)
  | .number digits :: rest => some (.number (Nat.ofDigitChars 10 digits.toList 0), rest)
  | .quoted .literal text :: rest => some (.literal text, rest)
  | .word "now" :: .symbol '(' :: .symbol ')' :: rest => some (.now, rest)
  | .word function :: .symbol '(' :: rest => do
      let ((a, b), rest) ← (do
        let a ← inner
        phrase ", "
        let b ← inner
        phrase ")"
        return (a, b) : Grammar (Term × Term)) rest
      return (← call? function a b, rest)
  | .word row :: .symbol '.' :: .word name :: rest => some (.column (some row) name, rest)
  | .word name :: rest => some (.column none name, rest)
  | _ => none

/-- A term with the types that stand behind it. -/
def withTypes : Term → Grammar Term
  | a, .cast :: .word type :: rest => withTypes (.cast a type) rest
  | a, rest => some (a, rest)

/-- A term before any comparison. -/
def operand (inner : Grammar Term) : Grammar Term := do
  let a ← withTypes (← atom inner)
  if ← sees "+" then
    let b ← withTypes (← atom inner)
    return .sum a b
  else
    return a

/-- A term with the comparison behind it, if there is one. -/
def comparison (inner : Grammar Term) : Grammar Term := do
  let a ← operand inner
  if ← sees "IS DISTINCT FROM" then
    let b ← operand inner
    return .distinct a b
  else if ← sees "= ANY (" then
    let list ← operand inner
    phrase ")"
    return .among a list
  else if ← sees "=" then
    let b ← operand inner
    return .equal a b
  else if ← sees "LIKE" then
    let pattern ← operand inner
    phrase "ESCAPE"
    let escape ← operand inner
    return .like a pattern escape
  else
    return a

/-- Terms with fewer calls inside each other than `bound`. -/
def nested : (bound : Nat) → Grammar Term
  | 0 => failure
  | bound + 1 => comparison (nested bound)

/-- A term.  There are no more calls inside each other than tokens. -/
def grammar : Grammar Term := do
  let ts ← get
  nested (ts.length + 1)

end Term

/-! ## Their values -/

/-- What a term can name: the parameters, and the rows by what they are called. -/
structure Env where
  /-- The time of the transaction, in microseconds since 1970. -/
  now : Int
  params : List Datum
  rows : List (String × Row)

/-- The row of a name, or the only one; none if there are several. -/
def Env.row? (env : Env) (name : Option String) : Option Row :=
  match env.rows.filter fun row => name.all (· = row.1) with
  | [(_, row)] => some row
  | _ => none

/-- The value of a term; none if it has none. -/
def Term.eval? (b : Backend) (env : Env) : Term → Option Datum
  | .column row name => (env.row? row).bind (·.lookup name)
  | .placeholder 0 => none
  | .placeholder (i + 1) => env.params[i]?
  | .number n => some (.integer n)
  | .literal text => some (.text text)
  | .now => some (.instant env.now)
  | .coalesce first second => do
      let a ← first.eval? b env
      if a = .null then second.eval? b env else return a
  | .position list item => do Datum.position? (← list.eval? b env) (← item.eval? b env)
  | .cast a type => do Datum.cast? b type (← a.eval? b env)
  | .sum x y => do Datum.add? b (← x.eval? b env) (← y.eval? b env)
  | .equal x y => do Datum.equal? (← x.eval? b env) (← y.eval? b env)
  | .among x list => do Datum.among? (← x.eval? b env) (← list.eval? b env)
  | .distinct x y => do Datum.distinct? (← x.eval? b env) (← y.eval? b env)
  | .like x pattern escape => do
      Datum.matches? (← x.eval? b env) (← pattern.eval? b env) (← escape.eval? b env)

/-- Whether a row is meant; none if that has no value.  Without a condition every row is. -/
def meant? (b : Backend) (env : Env) : Option Term → Option Bool
  | none => some true
  | some condition => (condition.eval? b env).map (· = .boolean true)

end DocStore.Sql
