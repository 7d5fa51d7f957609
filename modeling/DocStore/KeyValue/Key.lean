import DocStore.Text.Blank
import DocStore.Text.Case

/-!
# Keys of settings

Settings are kept under keys in normal form: without blanks at the ends, in
small letters, and with underscores for hyphens and points.
-/

namespace DocStore.KeyValue

/-- Hyphens and points become underscores, capitals become small. -/
def normalChar (c : Char) : Char :=
  if c = '-' || c = '.' then '_' else Text.lower c

/-- The normal form of a key. -/
def normalKey (key : String) : String :=
  String.ofList ((Text.trim key.toList).map normalChar)

end DocStore.KeyValue
