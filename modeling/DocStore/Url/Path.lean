import DocStore.Text.Case
import DocStore.Text.Cut
import DocStore.Url.Basic

/-!
# Paths

A path is taken step by step: `.` stays where it is, and `..` takes back the step
before it, also when they are written with percent signs.  The letter of a drive is
never taken back.
-/

namespace DocStore.Url

/-- A segment that stands for the place where it is. -/
def isHere (segment : List Char) : Bool :=
  [".", "%2e"].contains (String.ofList (Text.foldCase segment))

/-- A segment that stands for the place above. -/
def isAbove (segment : List Char) : Bool :=
  ["..", "%2e%2e", "%2e.", ".%2e"].contains (String.ofList (Text.foldCase segment))

/-- What follows the letter of a drive. -/
def afterDrive? : List Char → Option (List Char)
  | letter :: sign :: rest =>
      if letter.isAlpha && (sign = ':' || sign = '|') then some rest else none
  | _ => none

/-- A segment that is the letter of a drive. -/
def isDrive (segment : List Char) : Bool := afterDrive? segment = some []

/-- A segment that names a drive, alone or in front of a backslash. -/
def namesDrive (segment : List Char) : Bool :=
  (afterDrive? segment).any fun rest => rest.isEmpty || rest.head? = some '\\'

/-- The segments of a path so far, in reverse, with one more of them.  A drive at the root of
files is written with a colon. -/
def descend (kind : SchemeKind) (soFar : List (List Char)) (segment : List Char) :
    List (List Char) :=
  if isAbove segment then if soFar.head?.any namesDrive then soFar else soFar.tail
  else if isHere segment then soFar
  else if kind = .file && soFar.isEmpty && isDrive segment then [segment.take 1 ++ [':']]
  else segment :: soFar

/-- The segments of a path without its detours. -/
def straight (kind : SchemeKind) (segments : List (List Char)) : List (List Char) :=
  let reached := segments.foldl (descend kind) []
  let last := segments.getLast?.getD []
  (if isHere last || isAbove last then [] :: reached else reached).reverse

/-- The segments between slashes. -/
def segments (kind : SchemeKind) (text : List Char) : List (List Char) :=
  straight kind (Text.splitAll '/' (text.map fun c => if kind.isSlash c then '/' else c))

/-- Segments as a path. -/
def joined (segments : List (List Char)) : List Char := ['/'].intercalate segments

/-- Path and query of what follows the server. -/
def cutPath (text : List Char) : List Char × List Char :=
  let text := text.takeWhile (· != '#')
  (text.takeWhile (· != '?'), (text.dropWhile (· != '?')).drop 1)

end DocStore.Url
