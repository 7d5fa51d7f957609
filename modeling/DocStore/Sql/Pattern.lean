/-!
# LIKE patterns

In a pattern `%` stands for any run of characters and `_` for any one
character; a backslash takes the next character literally.  `escape` makes a
text that matches nothing but itself.
-/

namespace DocStore.Sql.Pattern

/-- Characters with a meaning of their own in a pattern. -/
def isSpecial (c : Char) : Bool := c = '%' || c = '_' || c = '\\'

/-- A pattern that matches exactly this text. -/
def escape : List Char → List Char
  | [] => []
  | c :: rest => if isSpecial c then '\\' :: c :: escape rest else c :: escape rest

/-- A pattern that matches every text starting with this one. -/
def startsWith (start : List Char) : List Char :=
  escape start ++ ['%']

end DocStore.Sql.Pattern
