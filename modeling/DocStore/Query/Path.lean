import DocStore.Json.Decode
import DocStore.Sql.Piece
import DocStore.Text.Cut

/-!
# Field paths

A field inside a document is addressed by the member names on the way to it.
As text the names are joined by points; in a name a point is written `~1` and a
tilde `~0`.

Main statements: `unescape_escape` reads a name back as written, and an escaped
name holds no point (`point_notMem_escape`).
-/

namespace DocStore

/-- The member names on the way to a field. -/
structure FieldPath where
  segments : List String
  deriving DecidableEq, Inhabited

namespace FieldPath

/-- A name with its points and tildes escaped. -/
def escape : List Char → List Char
  | [] => []
  | c :: rest =>
      if c = '~' then '~' :: '0' :: escape rest
      else if c = '.' then '~' :: '1' :: escape rest
      else c :: escape rest

/-- Reads escapes; a tilde that starts none stands for itself. -/
def unescape : List Char → List Char
  | '~' :: '0' :: rest => '~' :: unescape rest
  | '~' :: '1' :: rest => '.' :: unescape rest
  | c :: rest => c :: unescape rest
  | [] => []

/-- Reads a dotted path; it has one name more than points. -/
def parse (text : String) : FieldPath :=
  ⟨(Text.splitAll '.' text.toList).map fun part => String.ofList (unescape part)⟩

/-- The dotted path. -/
def dotted (path : FieldPath) : String :=
  ".".intercalate (path.segments.map fun s => String.ofList (escape s.toList))

/-- Whether one of the names is empty. -/
def hasEmptySegment (path : FieldPath) : Bool := path.segments.any (· = "")

open Sql (Piece)

/-- The steps into a document, the last one with its own operator. -/
def steps (last : String) : List String → List Piece
  | [] => []
  | [s] => [.text last, .literal s]
  | s :: rest => .text "->" :: .literal s :: steps last rest

/-- The field as text, out of a column. -/
def asText (column : String) (path : FieldPath) : List Piece :=
  .text column :: steps "->>" path.segments

/-- The field as a JSON value, out of a column. -/
def asJson (column : String) (path : FieldPath) : List Piece :=
  .text column :: steps "->" path.segments

def toJson (path : FieldPath) : Json := .string path.dotted

def decode : Decoder FieldPath := fun value => (Decoder.string value).map parse

theorem unescape_escape (s : List Char) : unescape (escape s) = s := by
  induction s with
  | nil => rfl
  | cons c rest ih =>
      by_cases h : c = '~'
      · simp [escape, unescape, h, ih]
      · by_cases h' : c = '.'
        · simp [escape, unescape, h', ih]
        · simp [escape, unescape, h, h', ih]

theorem point_notMem_escape (s : List Char) : '.' ∉ escape s := by
  induction s with
  | nil => simp [escape]
  | cons c rest ih =>
      by_cases h : c = '~'
      · simp [escape, h, ih]
      · by_cases h' : c = '.'
        · simp [escape, h', ih]
        · simp [escape, h, h', ih, Ne.symm h']

end FieldPath

end DocStore
