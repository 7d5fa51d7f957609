import DocStore.Sql.Quoted

/-!
# Statements

A statement is built as a list of pieces: fixed text, names taken as they are,
quoted texts, and bound values.  A value stands where its placeholder goes, so
the placeholders of the text, read from left to right, are `$1`, `$2`, … and the
parameters are the values in the same order (`params`).
-/

namespace DocStore.Sql

/-- A value bound to a placeholder. -/
inductive Param where
  | text (value : String)
  | textArray (values : List String)
  /-- A 64-bit integer. -/
  | bigint (value : Int)
  deriving DecidableEq, Inhabited

/-- The text of a statement and the values of its placeholders. -/
structure Statement where
  sql : String
  params : List Param
  deriving DecidableEq, Inhabited

/-- A statement without values. -/
def Statement.plain (sql : String) : Statement := ⟨sql, []⟩

/-- A piece of a statement. -/
inductive Piece where
  /-- Fixed text: words, operators and blanks. -/
  | text (s : String)
  /-- A table name, which is safe as it is. -/
  | name (s : String)
  /-- A text as a string literal. -/
  | literal (s : String)
  /-- A text as a quoted identifier. -/
  | identifier (s : String)
  /-- A number as it is written. -/
  | number (n : Nat)
  /-- The place of a bound value. -/
  | param (p : Param)
  deriving DecidableEq, Inhabited

/-- The text of one piece, `n` being the number of the next placeholder. -/
def Piece.render (n : Nat) : Piece → String
  | .text s | .name s => s
  | .literal s => Sql.literal s
  | .identifier s => Sql.identifier s
  | .number k => toString k
  | .param _ => "$" ++ toString n

/-- The value a piece binds. -/
def Piece.param? : Piece → Option Param
  | .param p => some p
  | _ => none

/-- The text of pieces one after the other, the first placeholder having the number `n`. -/
def renderFrom : (n : Nat) → List Piece → String
  | _, [] => ""
  | n, piece :: rest =>
      piece.render n ++ renderFrom (if piece.param?.isSome then n + 1 else n) rest

/-- The bound values from left to right. -/
def params (pieces : List Piece) : List Param := pieces.filterMap Piece.param?

/-- The statement made of pieces. -/
def Statement.ofPieces (pieces : List Piece) : Statement :=
  ⟨renderFrom 1 pieces, Sql.params pieces⟩

/-- Lists of pieces with a separator between them. -/
def separated (separator : Piece) : List (List Piece) → List Piece
  | [] => []
  | [pieces] => pieces
  | pieces :: rest => pieces ++ separator :: separated separator rest

end DocStore.Sql
