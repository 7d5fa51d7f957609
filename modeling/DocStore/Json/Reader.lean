import DocStore.Json.Value
import DocStore.Text.Hex

/-!
# Reading JSON text

A text is read to one value or to the first fault in it.  A fault says what was
wrong and where: the line, and the number of bytes of that line up to the place,
both counted from one.

While reading, a place is the number of bytes that are still to come, so that
nothing but the rest of the text is passed along.  Some faults lie at the byte
just read and some at the one that comes next (`next`); at the end of the text
the two are the same.

Numbers: an integer that fits 64 bits stays an integer.  Any other number is a
floating-point number made from as many leading digits as fit 64 bits and a
power of ten (`Decimal.Binary64.ofDecimal`).
-/

namespace DocStore.Json

open Decimal (Binary64)

/-- What can be wrong with a JSON text. -/
inductive SyntaxFault where
  | endInList
  | endInObject
  | endInString
  | endInValue
  | expectedColon
  | expectedListEnd
  | expectedObjectEnd
  | expectedWord
  | expectedValue
  | invalidEscape
  | invalidNumber
  | numberOutOfRange
  | controlInString
  | nameNotString
  | loneSurrogate
  | trailingComma
  | trailingText
  | unfinishedEscape
  | tooDeep
  deriving DecidableEq, Repr

/-- The fault in words. -/
def SyntaxFault.message : SyntaxFault → String
  | endInList => "EOF while parsing a list"
  | endInObject => "EOF while parsing an object"
  | endInString => "EOF while parsing a string"
  | endInValue => "EOF while parsing a value"
  | expectedColon => "expected `:`"
  | expectedListEnd => "expected `,` or `]`"
  | expectedObjectEnd => "expected `,` or `\x7d`"
  | expectedWord => "expected ident"
  | expectedValue => "expected value"
  | invalidEscape => "invalid escape"
  | invalidNumber => "invalid number"
  | numberOutOfRange => "number out of range"
  | controlInString => "control character (\\u0000-\\u001F) found while parsing a string"
  | nameNotString => "key must be a string"
  | loneSurrogate => "lone leading surrogate in hex escape"
  | trailingComma => "trailing comma"
  | trailingText => "trailing characters"
  | unfinishedEscape => "unexpected end of hex escape"
  | tooDeep => "recursion limit exceeded"

/-- Arrays and objects may be nested less deep than this. -/
def depthLimit : Nat := 128

/-- A fault and the number of bytes after its place. -/
structure Fault where
  cause : SyntaxFault
  left : Nat
  deriving DecidableEq, Repr

/-- The bytes of a text. -/
def byteCount (text : List Char) : Nat :=
  text.foldl (fun n c => n + c.utf8Size) 0

/-- A fault at the byte just read. -/
def failAt {α : Type} (cause : SyntaxFault) (rest : List Char) : Except Fault α :=
  .error ⟨cause, byteCount rest⟩

/-- A fault at the byte that comes next. -/
def failNext {α : Type} (cause : SyntaxFault) (rest : List Char) : Except Fault α :=
  .error ⟨cause, byteCount rest - 1⟩

/-- The blanks of the format. -/
def isSpace (c : Char) : Bool := c = ' ' || c = '\n' || c = '\t' || c = '\r'

/-- The rest from the first character that is not a blank. -/
def skipSpace (rest : List Char) : List Char := rest.dropWhile isSpace

/-! ## Numbers -/

def digitValue (c : Char) : Nat := c.toNat - '0'.toNat

/-- Appends digits to `m` as long as the number fits 64 bits; returns those left over. -/
def fitDigits (m : Nat) : List Char → Nat × List Char
  | [] => (m, [])
  | c :: rest =>
      let longer := 10 * m + digitValue c
      if longer < 0x10000000000000000 then fitDigits longer rest else (m, c :: rest)

/-- The number `±m · 10^e`, which ends where `rest` begins. -/
def realOfParts (negative : Bool) (m : Nat) (e : Int) (rest : List Char) :
    Except Fault (Number × List Char) :=
  match Binary64.ofDecimal m e with
  | some x => .ok (.real (if negative then x.negate else x), rest)
  | none => failAt .numberOutOfRange rest

/-- The largest exponent that is read as it stands. -/
def exponentLimit : Nat := 0x7FFFFFFF

/-- The digits of an exponent, cut after the one that takes it over the limit. -/
def exponentDigits (n : Nat) : List Char → Nat × Option (List Char)
  | [] => (n, none)
  | c :: rest =>
      let longer := 10 * n + digitValue c
      if longer ≤ exponentLimit then exponentDigits longer rest else (n, some rest)

/-- What follows the `e` of a number. -/
def readExponent (negative : Bool) (m : Nat) (e : Int) (rest : List Char) :
    Except Fault (Number × List Char) :=
  let (down, rest) :=
    match rest with
    | '+' :: rest => (false, rest)
    | '-' :: rest => (true, rest)
    | rest => (false, rest)
  match rest with
  | [] => failAt .endInValue []
  | c :: after =>
      if !c.isDigit then .error ⟨.invalidNumber, byteCount rest - 1⟩
      else
        let digits := rest.takeWhile Char.isDigit
        let after := after.dropWhile Char.isDigit
        match exponentDigits 0 digits with
        | (n, none) => realOfParts negative m (if down then e - n else e + n) after
        | (_, some more) =>
            if m ≠ 0 ∧ !down then failAt .numberOutOfRange (more ++ after)
            else .ok (.real (if negative then .negativeZero else .zero), after)

/-- What may follow the digits of a floating-point number: an exponent or nothing. -/
def readScale (negative : Bool) (m : Nat) (e : Int) (rest : List Char) :
    Except Fault (Number × List Char) :=
  match rest with
  | 'e' :: rest | 'E' :: rest => readExponent negative m e rest
  | rest => realOfParts negative m e rest

/-- What follows the point of a number. -/
def readFraction (negative : Bool) (m : Nat) (e : Int) (rest : List Char) :
    Except Fault (Number × List Char) :=
  let digits := rest.takeWhile Char.isDigit
  let after := rest.dropWhile Char.isDigit
  if digits.isEmpty then
    failNext (if after.isEmpty then .endInValue else .invalidNumber) after
  else
    let (m, unused) := fitDigits m digits
    readScale negative m (e - (digits.length - unused.length : Nat)) after

/-- The number whose digits before the point are given. -/
def readAfterDigits (negative : Bool) (digits rest : List Char) :
    Except Fault (Number × List Char) :=
  let (m, unused) := fitDigits 0 digits
  match rest with
  | '.' :: rest => readFraction negative m unused.length rest
  | 'e' :: _ | 'E' :: _ => readScale negative m unused.length rest
  | rest =>
      if unused ≠ [] then realOfParts negative m unused.length rest
      else if !negative then .ok (.integer m, rest)
      else if m = 0 ∨ 0x8000000000000000 < m then realOfParts true m 0 rest
      else .ok (.integer (-m), rest)

/-- A number after its sign. -/
def readNumber (negative : Bool) (rest : List Char) : Except Fault (Number × List Char) :=
  match rest with
  | [] => failAt .endInValue []
  | '0' :: after =>
      match after with
      | c :: _ =>
          if c.isDigit then failNext .invalidNumber after
          else readAfterDigits negative ['0'] after
      | [] => readAfterDigits negative ['0'] []
  | c :: _ =>
      if c.isDigit then
        readAfterDigits negative (rest.takeWhile Char.isDigit) (rest.dropWhile Char.isDigit)
      else .error ⟨.invalidNumber, byteCount rest - 1⟩

/-! ## Strings -/

/-- Four hexadecimal digits. -/
def readFourHex (rest : List Char) : Except Fault (Nat × List Char) :=
  let wrong : Except Fault (Nat × List Char) :=
    if byteCount rest < 4 then .error ⟨.endInString, 0⟩
    else .error ⟨.invalidEscape, byteCount rest - 4⟩
  match rest with
  | a :: b :: c :: d :: after =>
      match Text.hexValue? a, Text.hexValue? b, Text.hexValue? c, Text.hexValue? d with
      | some a, some b, some c, some d => .ok (((a * 16 + b) * 16 + c) * 16 + d, after)
      | _, _, _, _ => wrong
  | _ => wrong

/-- Takes `c` off the front, which must be there for an escape to go on. -/
def expectInEscape (c : Char) (rest : List Char) : Except Fault (List Char) :=
  match rest with
  | [] => .error ⟨.endInString, 0⟩
  | d :: after => if d = c then .ok after else .error ⟨.unfinishedEscape, byteCount rest - 1⟩

/-- The code point of a hexadecimal escape: one unit, or a leading and a trailing
surrogate. -/
def readCodePoint (rest : List Char) : Except Fault (Char × List Char) := do
  let (n, rest) ← readFourHex rest
  if 0xDC00 ≤ n ∧ n ≤ 0xDFFF then failAt .loneSurrogate rest
  else if n < 0xD800 ∨ 0xDBFF < n then .ok (Char.ofNat n, rest)
  else
    let rest ← expectInEscape '\\' rest
    let rest ← expectInEscape 'u' rest
    let (n', rest) ← readFourHex rest
    if n' < 0xDC00 ∨ 0xDFFF < n' then failAt .loneSurrogate rest
    else .ok (Char.ofNat ((n - 0xD800) * 0x400 + (n' - 0xDC00) + 0x10000), rest)

/-- What follows a backslash. -/
def readEscape (rest : List Char) : Except Fault (Char × List Char) :=
  match rest with
  | [] => failAt .endInString []
  | 'u' :: after => readCodePoint after
  | c :: after =>
      match c with
      | '"' => .ok ('"', after)
      | '\\' => .ok ('\\', after)
      | '/' => .ok ('/', after)
      | 'b' => .ok (Char.ofNat 8, after)
      | 'f' => .ok (Char.ofNat 12, after)
      | 'n' => .ok ('\n', after)
      | 'r' => .ok ('\r', after)
      | 't' => .ok ('\t', after)
      | _ => .error ⟨.invalidEscape, byteCount rest - 1⟩

/-- The rest of a string after its opening quote; `soFar` holds what was read, backwards.
Every turn takes a character, so a length of the rest is enough fuel. -/
def readStringBody : (fuel : Nat) → (soFar : List Char) → List Char →
    Except Fault (String × List Char)
  | 0, _, _ => .error ⟨.endInString, 0⟩
  | _ + 1, _, [] => .error ⟨.endInString, 0⟩
  | fuel + 1, soFar, c :: rest =>
      if c = '"' then .ok (String.ofList soFar.reverse, rest)
      else if c = '\\' then do
        let (d, rest) ← readEscape rest
        readStringBody fuel (d :: soFar) rest
      else if c.toNat < 0x20 then failAt .controlInString rest
      else readStringBody fuel (c :: soFar) rest

/-- A string after its opening quote. -/
def readString (rest : List Char) : Except Fault (String × List Char) :=
  readStringBody (rest.length + 1) [] rest

/-! ## Values -/

/-- The rest of a word whose first letter was read. -/
def readWord (word : List Char) (value : Json) (rest : List Char) :
    Except Fault (Json × List Char) :=
  match word, rest with
  | [], rest => .ok (value, rest)
  | _ :: _, [] => failAt .endInValue []
  | w :: word, c :: after =>
      if c = w then readWord word value after
      else .error ⟨.expectedWord, byteCount rest - 1⟩

mutual

/-- One value, nested `depth` deep at most. -/
def readValue : (fuel depth : Nat) → List Char → Except Fault (Json × List Char)
  | 0, _, _ => failNext .endInValue []
  | fuel + 1, depth, rest =>
      match skipSpace rest with
      | [] => failNext .endInValue []
      | c :: after =>
          if c = 'n' then readWord "ull".toList .null after
          else if c = 't' then readWord "rue".toList (.bool true) after
          else if c = 'f' then readWord "alse".toList (.bool false) after
          else if c = '-' then do
            let (n, rest) ← readNumber true after
            .ok (.number n, rest)
          else if c.isDigit then do
            let (n, rest) ← readNumber false (c :: after)
            .ok (.number n, rest)
          else if c = '"' then do
            let (s, rest) ← readString after
            .ok (.string s, rest)
          else if c = '[' then
            if depth ≤ 1 then failNext .tooDeep (c :: after)
            else do
              let (items, rest) ← readItems fuel (depth - 1) true after
              .ok (.array items, rest)
          else if c = '\x7b' then
            if depth ≤ 1 then failNext .tooDeep (c :: after)
            else do
              let (members, rest) ← readMembers fuel (depth - 1) true [] after
              .ok (.object members, rest)
          else failNext .expectedValue (c :: after)

/-- The items of an array up to its end; `first` before any was read. -/
def readItems : (fuel depth : Nat) → (first : Bool) → List Char →
    Except Fault (List Json × List Char)
  | 0, _, _, _ => failNext .endInList []
  | fuel + 1, depth, first, rest =>
      match skipSpace rest with
      | [] => failNext .endInList []
      | c :: after =>
          if c = ']' then .ok ([], after)
          else if first then do
            let (item, rest) ← readValue fuel depth (c :: after)
            let (items, rest) ← readItems fuel depth false rest
            .ok (item :: items, rest)
          else if c = ',' then
            match skipSpace after with
            | [] => failNext .endInValue []
            | ']' :: rest => failNext .trailingComma (']' :: rest)
            | rest => do
                let (item, rest) ← readValue fuel depth rest
                let (items, rest) ← readItems fuel depth false rest
                .ok (item :: items, rest)
          else failNext .expectedListEnd (c :: after)

/-- The members of an object up to its end, added to those read before. -/
def readMembers : (fuel depth : Nat) → (first : Bool) → List (String × Json) → List Char →
    Except Fault (List (String × Json) × List Char)
  | 0, _, _, _, _ => failNext .endInObject []
  | fuel + 1, depth, first, members, rest =>
      match skipSpace rest with
      | [] => failNext .endInObject []
      | c :: after =>
          if c = '\x7d' then .ok (members, after)
          else if first then
            if c = '"' then readMember fuel depth members after
            else failNext .nameNotString (c :: after)
          else if c = ',' then
            match skipSpace after with
            | [] => failNext .endInValue []
            | d :: rest =>
                if d = '"' then readMember fuel depth members rest
                else if d = '\x7d' then failNext .trailingComma (d :: rest)
                else failNext .nameNotString (d :: rest)
          else failNext .expectedObjectEnd (c :: after)

/-- A member after the opening quote of its name, and those after it. -/
def readMember : (fuel depth : Nat) → List (String × Json) → List Char →
    Except Fault (List (String × Json) × List Char)
  | 0, _, _, _ => failNext .endInObject []
  | fuel + 1, depth, members, rest => do
      let (name, rest) ← readString rest
      match skipSpace rest with
      | [] => failNext .endInObject []
      | ':' :: rest => do
          let (value, rest) ← readValue fuel depth rest
          readMembers fuel depth false (insertMember name value members) rest
      | rest => failNext .expectedColon rest

end

/-! ## Whole texts -/

/-- The line and the column of the place with `index` bytes before it. -/
def place (text : List Char) (index : Nat) : Nat × Nat :=
  let rec go : List Char → (offset line lineStart : Nat) → Nat × Nat
    | [], _, line, lineStart => (line, index - lineStart)
    | c :: rest, offset, line, lineStart =>
        if index ≤ offset then (line, index - lineStart)
        else
          let offset := offset + c.utf8Size
          if c = '\n' then go rest offset (line + 1) offset else go rest offset line lineStart
  go text 0 1 0

/-- A fault and where it lies. -/
structure ReadError where
  cause : SyntaxFault
  line : Nat
  column : Nat
  deriving DecidableEq, Repr

/-- The fault in words, with its place. -/
def ReadError.message (e : ReadError) : String :=
  e.cause.message ++ " at line " ++ toString e.line ++ " column " ++ toString e.column

/-- Reads a whole text as one value. -/
def read (text : String) : Except ReadError Json :=
  let chars := text.toList
  let result : Except Fault Json := do
    let (value, rest) ← readValue (4 * chars.length + 4) depthLimit chars
    match skipSpace rest with
    | [] => .ok value
    | rest => failNext .trailingText rest
  match result with
  | .ok value => .ok value
  | .error fault =>
      let (line, column) := place chars (byteCount chars - fault.left)
      .error ⟨fault.cause, line, column⟩

end DocStore.Json
