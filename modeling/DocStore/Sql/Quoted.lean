/-!
# Quoted text in SQL

A string literal stands between apostrophes and a quoted identifier between
double quotes.  Inside, the closing quote is written twice and every other
character stands for itself; there is no other escape.
-/

namespace DocStore.Sql

/-- The body of a quoted text: `q` is written twice. -/
def encode (q : Char) : List Char → List Char
  | [] => []
  | c :: rest => if c = q then q :: q :: encode q rest else c :: encode q rest

/-- A text between two quotes. -/
def quoted (q : Char) (text : String) : String :=
  String.ofList (q :: encode q text.toList ++ [q])

/-- A text as a string literal. -/
def literal (text : String) : String := quoted '\'' text

/-- A text as a quoted identifier. -/
def identifier (text : String) : String := quoted '"' text

end DocStore.Sql
