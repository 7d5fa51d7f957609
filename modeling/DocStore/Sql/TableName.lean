import DocStore.Error
import DocStore.Text.Case

/-!
# Table names

A table name is a word of ASCII letters, digits and underscores that starts with
no digit and has 63 bytes at most.  It is kept in small letters, so that it means
the same table without quotes as with them.
-/

namespace DocStore.Sql

open Text (foldCase lower)

/-- The server cuts longer names. -/
def maxNameLength : Nat := 63

def isNameStart (c : Char) : Bool := c.isAlpha || c = '_'

def isNameRest (c : Char) : Bool := c.isAlphanum || c = '_'

/-- Whether a text can stand unquoted as a name. -/
def isName (text : List Char) : Bool :=
  match text with
  | [] => false
  | c :: rest =>
      isNameStart c && rest.all isNameRest && decide (rest.length < maxNameLength)

theorem isNameStart_lower (c : Char) : isNameStart (lower c) = isNameStart c :=
  Text.forall_char (P := fun c => isNameStart (lower c) = isNameStart c) (by decide +kernel)
    (fun c h => by rw [Text.lower_of_large h]) c

theorem isNameRest_lower (c : Char) : isNameRest (lower c) = isNameRest c :=
  Text.forall_char (P := fun c => isNameRest (lower c) = isNameRest c) (by decide +kernel)
    (fun c h => by rw [Text.lower_of_large h]) c

theorem isName_foldCase (text : List Char) : isName (foldCase text) = isName text := by
  cases text with
  | nil => rfl
  | cons c rest =>
      simp [isName, foldCase, isNameStart_lower, List.all_map, Function.comp_def,
        isNameRest_lower]

/-- A name that is safe in a statement as it is. -/
structure TableName where
  text : String
  isName : Sql.isName text.toList = true
  isFolded : foldCase text.toList = text.toList
  deriving DecidableEq

namespace TableName

/-- The folded name, if it is one. -/
def parse? (text : String) : Option TableName :=
  if h : Sql.isName text.toList = true then
    some {
      text := String.ofList (foldCase text.toList)
      isName := by simpa [isName_foldCase] using h
      isFolded := by simp [Text.foldCase_foldCase] }
  else none

/-- The folded name, or the error that it is none. -/
def parse (text : String) : Except StoreError TableName :=
  match parse? text with
  | some name => .ok name
  | none => .error (.invalidIdentifier text)

end TableName

end DocStore.Sql
