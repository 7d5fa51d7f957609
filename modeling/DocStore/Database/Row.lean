import DocStore.Database.Command
import DocStore.Json.Reader
import DocStore.Time.Instant

/-!
# Reading rows

The values of a row are read by their place or by the name of their column.  A
fault names the column as it was asked for: a place in decimal, a name in quotes.
-/

namespace DocStore

namespace Cell

variable {α : Type}

/-- A value that is not what was expected. -/
def refuse (column reason : String) : Except DatabaseFault α :=
  .error (.columnDecode column reason)

/-- A null where none is allowed. -/
def refuseNull (column : String) : Except DatabaseFault α :=
  refuse column "unexpected null; try decoding as an `Option`"

/-- A value of another type. -/
def refuseType (column : String) : Except DatabaseFault α := refuse column "mismatched types"

def readText (column : String) : Cell → Except DatabaseFault String
  | text s => .ok s
  | null => refuseNull column
  | _ => refuseType column

def readInteger (column : String) : Cell → Except DatabaseFault Int
  | integer n => .ok n
  | null => refuseNull column
  | _ => refuseType column

def readBoolean (column : String) : Cell → Except DatabaseFault Bool
  | boolean b => .ok b
  | null => refuseNull column
  | _ => refuseType column

/-- An instant, given in microseconds since 1970. -/
def readInstant (column : String) (cell : Cell) : Except DatabaseFault Instant :=
  (cell.readInteger column).map Instant.ofMicros

/-- A text that may be missing. -/
def readText? (column : String) : Cell → Except DatabaseFault (Option String)
  | null => .ok none
  | cell => (cell.readText column).map some

/-- A document; a missing one is null. -/
def readJson (column : String) : Cell → Except DatabaseFault Json
  | null => .ok .null
  | text s =>
      match Json.read s with
      | .ok value => .ok value
      | .error e => refuse column e.message
  | _ => refuseType column

/-- Reads the cell at a place of a row. -/
def atPlace (read : String → Cell → Except DatabaseFault α) (row : List Cell) (place : Nat) :
    Except DatabaseFault α :=
  match row[place]? with
  | some cell => read (toString place) cell
  | none => .error (.columnNotFound (toString place))

/-- The place of a column; of several with one name, the last. -/
def place? (columns : List String) (name : String) : Option Nat :=
  (columns.reverse.idxOf? name).map fun i => columns.length - 1 - i

/-- Reads the cell of a column. -/
def atName (read : String → Cell → Except DatabaseFault α) (columns : List String)
    (row : List Cell) (name : String) : Except DatabaseFault α :=
  match (place? columns name).bind (row[·]?) with
  | some cell => read ("\"" ++ name ++ "\"") cell
  | none => .error (.columnNotFound name)

end Cell

namespace Answer

variable {α : Type}

/-- Every row, the first bad one being reported. -/
def readAll (read : List Cell → Except DatabaseFault α) (a : Answer) :
    Except DatabaseFault (List α) :=
  a.rows.mapM read

/-- The first row, if there is one. -/
def readFirst? (read : List Cell → Except DatabaseFault α) (a : Answer) :
    Except DatabaseFault (Option α) :=
  match a.rows with
  | [] => .ok none
  | row :: _ => (read row).map some

/-- The first row, which has to be there. -/
def readFirst (read : List Cell → Except DatabaseFault α) (a : Answer) :
    Except DatabaseFault α :=
  match a.rows with
  | [] => .error .rowNotFound
  | row :: _ => read row

end Answer

end DocStore
