import DocStore.Url.Host
import DocStore.Url.Path

/-!
# Reading URLs

Blanks and controls around a URL, and tabs and line ends anywhere in it, do not
count.  The login ends at the last at-sign before the path.
-/

namespace DocStore.Url

/-- Scheme and rest. -/
def cutScheme? (text : List Char) : Option (String × List Char) := do
  let (scheme, rest) ← Text.cutFirst ':' text
  let first ← scheme.head?
  guard first.isAlpha
  guard (scheme.all fun c => c.isAlphanum || c = '+' || c = '-' || c = '.')
  some (String.ofList (Text.foldCase scheme), rest)

/-- Host and rest; a colon inside brackets is part of the host. -/
def cutHost (kind : SchemeKind) : (inside : Bool) → List Char → List Char × List Char
  | _, [] => ([], [])
  | inside, c :: rest =>
      if kind.endsServer c || (c = ':' && !inside) then ([], c :: rest)
      else
        let inside := if c = '[' then true else if c = ']' then false else inside
        let (host, after) := cutHost kind inside rest
        (c :: host, after)

/-- Port and rest, behind the colon. -/
def readPort (kind : SchemeKind) (text : List Char) : Except UrlFault (Option Nat × List Char) :=
  let digits := text.takeWhile Char.isDigit
  let rest := text.dropWhile Char.isDigit
  let n := digits.foldl (fun n c => 10 * n + (c.toNat - '0'.toNat)) 0
  if 0x10000 ≤ n then .error .badPort
  else if rest.head?.any fun c => !kind.endsServer c && c != '\\' then .error .badPort
  else .ok (if digits.isEmpty || kind = .web n then none else some n, rest)

/-- User and password. -/
def readLogin (text : List Char) : List Char × Option (List Char) :=
  match Text.cutFirst ':' text with
  | none => (text, none)
  | some (user, []) => (user, none)
  | some (user, password) => (user, some password)

/-- The URL of a scheme other than `file` whose server starts here. -/
def readServer (scheme : String) (kind : SchemeKind) (text : List Char) :
    Except UrlFault Url := do
  let front := text.takeWhile fun c => !kind.endsServer c
  let tail := text.dropWhile fun c => !kind.endsServer c
  let (login, server) ←
    match Text.cutLast '@' front with
    | none => .ok ([], front)
    | some ([], server) =>
        if server.isEmpty && !tail.isEmpty then .error .emptyHost else .ok ([], server)
    | some (login, server) => .ok (login, server)
  let (user, password) := readLogin login
  let (host, rest) := cutHost kind false (server ++ tail)
  let host ← readHost kind host
  if host.isNone && (rest.head? = some ':' || !user.isEmpty || password.isSome) then
    .error .emptyHost
  let (port, rest) ←
    match rest with
    | ':' :: rest => readPort kind rest
    | rest => .ok (none, rest)
  let (path, query) := cutPath rest
  let path := if path.head?.any kind.isSlash then path.drop 1 else path
  .ok { scheme, user, password, host, port, query, path := joined (segments kind path) }

/-- The URL of a file, behind the scheme.  After two slashes comes a host, unless it is the
letter of a drive; a host in front of a drive does not count. -/
def readFile (text : List Char) : Except UrlFault Url := do
  let kind := SchemeKind.file
  let (host, rest) ←
    match text with
    | a :: b :: rest =>
        if kind.isSlash a && kind.isSlash b then do
          let server := rest.takeWhile fun c => !kind.endsServer c
          let after := rest.dropWhile fun c => !kind.endsServer c
          if isDrive server then .ok (none, rest)
          else
            let host ← readHost kind server
            .ok (host, if host.isSome && after.head?.any kind.isSlash then after.drop 1 else after)
        else .ok (none, if kind.isSlash a then b :: rest else text)
    | rest => .ok (none, if rest.head?.any kind.isSlash then rest.drop 1 else rest)
  let (path, query) := cutPath rest
  let path := segments kind path
  .ok {
    scheme := "file", query, user := [], password := none, port := none
    host := if path.head?.any isDrive then none else host
    path := joined path }

/-- The URL of a scheme without a server, behind the scheme; a path that does not start at
the root is kept as it is. -/
def readPlain (scheme : String) (text : List Char) : Url :=
  let (path, query) := cutPath text
  let path := if path.head? = some '/' then joined (segments .other (path.drop 1)) else path
  { scheme, query, path, user := [], password := none, host := none, port := none }

/-- The parts of a URL. -/
def parse (text : String) : Except UrlFault Url := do
  let isEdge (c : Char) : Bool := c.toNat ≤ 0x20
  let trimmed := ((text.toList.dropWhile isEdge).reverse.dropWhile isEdge).reverse
  let text := trimmed.filter fun c => !(c = '\t' || c = '\n' || c = '\r')
  let some (scheme, rest) := cutScheme? text
    | .error .noScheme
  match SchemeKind.ofScheme scheme with
  | .file => readFile rest
  | .web port =>
      let kind := SchemeKind.web port
      readServer scheme kind (rest.dropWhile kind.isSlash)
  | .other =>
      match rest with
      | '/' :: '/' :: rest => readServer scheme .other rest
      | rest => .ok (readPlain scheme rest)

end DocStore.Url
