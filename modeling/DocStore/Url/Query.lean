import DocStore.Text.Cut
import DocStore.Url.Basic
import DocStore.Url.Escape

/-!
# Queries

The query of a URL is read as names with values: `name=value` pairs with ampersands
between them.
-/

namespace DocStore.Url

/-- A part of a query; a plus sign stands for a blank, and bytes that are no text for a
replacement character. -/
def decodeQuery (part : List Char) : String :=
  let spaced := part.map fun c => if c = '+' then ' ' else c
  Text.ofUtf8Lossy (percentDecode (Text.utf8 (String.ofList spaced)))

/-- The names and values of a query. -/
def queryPairs (u : Url) : List (String × String) :=
  ((Text.splitAll '&' u.query).filter (!·.isEmpty)).map fun part =>
    let (name, value) := (Text.cutFirst '=' part).getD (part, [])
    (decodeQuery name, decodeQuery value)

end DocStore.Url
