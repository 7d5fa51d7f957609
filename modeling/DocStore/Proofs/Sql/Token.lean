import DocStore.Sql.Quoted
import DocStore.Text.Case

/-!
# Tokens of a statement

How the server cuts the text of a statement into tokens when standard strings
are on.  Unquoted words fold to small letters; a quoted text ends at the first
quote that is not doubled, and nothing else inside has a meaning; an operator
takes every operator character that follows.

The reader is a machine that takes one character at a time: a character goes on
with the token under way, ends it, or is refused.  Where the reader answers, the
server cuts the text in the same places.  It refuses what would be cut otherwise: comments,
dollar quotes, literals with a letter in front, line breaks outside quotes (two
literals across a line break are one), numbers with a point or an exponent, and a
sign at the end of a longer operator.  A theorem that it answers therefore says as
well that the text has none of these.

What the server does with a token once it is read is not its concern, and so it
takes three kinds of texts of which the server makes something else: the server
refuses a quoted identifier that is empty and a zero byte inside quotes, and it
cuts a name, quoted or not, after 63 bytes.

There are two groups of facts.

* Reading is compositional: `run?_append` and, for a token that the next character
  ends, `run?_ends`.
* What a whole token reads as: `run?_quoted` for quoted texts, `run?_class` for
  tokens that take one class of characters.
-/

namespace DocStore.Sql

/-! ## Tokens -/

/-- What stands between quotes. -/
inductive QuoteKind where
  | literal
  | identifier
  deriving DecidableEq

/-- The quote itself. -/
def QuoteKind.mark : QuoteKind → Char
  | literal => '\''
  | identifier => '"'

/-- A token of a statement. -/
inductive Token where
  /-- A key word or an unquoted name, folded. -/
  | word (text : String)
  /-- A quoted text, decoded. -/
  | quoted (kind : QuoteKind) (text : String)
  | number (digits : String)
  /-- The place of a parameter; the first one is number one. -/
  | placeholder (index : Nat)
  | operator (text : String)
  | symbol (c : Char)
  /-- The mark before a type. -/
  | cast
  deriving DecidableEq

namespace Token

/-- The kind and the decoded text of a quoted token. -/
def quoted? : Token → Option (QuoteKind × String)
  | quoted kind text => some (kind, text)
  | _ => none

/-- The number of a placeholder. -/
def placeholder? : Token → Option Nat
  | placeholder index => some index
  | _ => none

/-- The token without its decoded text. -/
def blank : Token → Token
  | quoted kind _ => quoted kind ""
  | t => t

end Token

/-! ## The reader -/

/-- Starts an unquoted word.  All characters beyond ASCII do. -/
def isWordStart (c : Char) : Bool := c.isAlpha || c = '_' || 0x80 ≤ c.toNat

/-- Goes on with an unquoted word. -/
def isWordRest (c : Char) : Bool := isWordStart c || c.isDigit || c = '$'

/-- Characters of operators, but `&`: behind a `U` it would open one more kind of quotes. -/
def isOperatorChar (c : Char) : Bool :=
  ['~', '!', '@', '#', '^', '|', '\x60', '?', '+', '-', '*', '/', '%', '<', '>', '='].contains c

/-- Characters that are tokens of their own. -/
def isSymbol (c : Char) : Bool := ['(', ')', '[', ']', ',', ';'].contains c

/-- The token under way. -/
inductive Mode where
  /-- None. -/
  | blank
  | word (text : List Char)
  | number (text : List Char)
  /-- A dollar sign. -/
  | dollar
  | placeholder (digits : List Char)
  | operator (text : List Char)
  /-- A symbol, which nothing continues. -/
  | symbol (c : Char)
  | point
  | colon
  | cast
  /-- Inside quotes. -/
  | inside (kind : QuoteKind) (text : List Char)
  /-- Behind a quote that ends the text or is the first of two. -/
  | behind (kind : QuoteKind) (text : List Char)
  deriving DecidableEq

/-- What a character does to the token under way. -/
inductive Next where
  | goOn (m : Mode)
  | ends
  | refused
  deriving DecidableEq

/-- Two characters stand side by side. -/
def hasPair (a b : Char) (text : List Char) : Bool := (text.zip text.tail).contains (a, b)

/-- An operator as the server keeps it: it starts no comment and has no sign at its end,
unless it is that sign. -/
def isOperator (text : List Char) : Bool :=
  !hasPair '-' '-' text && !hasPair '/' '*' text &&
    (text.length = 1 || !(['+', '-'].contains (text.getLastD '=')))

namespace Mode

/-- What a character does to the token under way. -/
def next : Mode → Char → Next
  | blank, _ | symbol _, _ | cast, _ => .ends
  | word text, c =>
      if isWordRest c then .goOn (word (text ++ [c]))
      else if c = '\'' || c = '"' then .refused else .ends
  | number text, c =>
      if c.isDigit then .goOn (number (text ++ [c]))
      else if c = '.' || isWordRest c then .refused else .ends
  | dollar, c => if c.isDigit then .goOn (placeholder [c]) else .refused
  | placeholder digits, c =>
      if c.isDigit then .goOn (placeholder (digits ++ [c]))
      else if isWordStart c then .refused else .ends
  | operator text, c => if isOperatorChar c then .goOn (operator (text ++ [c])) else .ends
  | point, c => if c = '.' || c.isDigit then .refused else .ends
  | colon, c => if c = ':' then .goOn cast else if c = '=' then .refused else .ends
  | inside kind text, c =>
      if c = kind.mark then .goOn (behind kind text) else .goOn (inside kind (text ++ [c]))
  | behind kind text, c =>
      if c = kind.mark then .goOn (inside kind (text ++ [c])) else .ends

/-- The token under way when it ends; none when it cannot end here. -/
def close? : Mode → Option (List Token)
  | blank => some []
  | word text => some [.word (String.ofList (Text.foldCase text))]
  | number text => some [.number (String.ofList text)]
  | placeholder digits => some [.placeholder (Nat.ofDigitChars 10 digits 0)]
  | operator text =>
      if isOperator text then some [.operator (String.ofList text)] else none
  | symbol c => some [.symbol c]
  | point => some [.symbol '.']
  | colon => some [.symbol ':']
  | cast => some [.cast]
  | behind kind text => some [.quoted kind (String.ofList text)]
  | dollar | inside _ _ => none

/-- The token that a character starts. -/
def start? (c : Char) : Option Mode :=
  if c = ' ' then some blank
  else if isWordStart c then some (word [c])
  else if c.isDigit then some (number [c])
  else if c = '$' then some dollar
  else if c = '\'' then some (inside .literal [])
  else if c = '"' then some (inside .identifier [])
  else if c = '.' then some point
  else if c = ':' then some colon
  else if isSymbol c then some (symbol c)
  else if isOperatorChar c then some (operator [c])
  else none

/-- Takes a character: the tokens that it ends, and the one under way then. -/
def step? (m : Mode) (c : Char) : Option (List Token × Mode) :=
  match m.next c with
  | .goOn m' => some ([], m')
  | .ends => m.close?.bind fun ended => (start? c).map fun m' => (ended, m')
  | .refused => none

/-- Tokens in front of what was read after them. -/
def behindTokens (ended : List Token) (r : List Token × Mode) : List Token × Mode :=
  (ended ++ r.1, r.2)

/-- Takes several characters. -/
def run? : Mode → List Char → Option (List Token × Mode)
  | m, [] => some ([], m)
  | m, c :: rest => (m.step? c).bind fun r => (run? r.2 rest).map (behindTokens r.1)

end Mode

/-- The tokens of a statement. -/
def tokens? (sql : String) : Option (List Token) :=
  (Mode.blank.run? sql.toList).bind fun r => r.2.close?.map fun last => r.1 ++ last

namespace Mode

/-! ## Reading piece by piece -/

@[simp] theorem map_behindTokens_nil (r : Option (List Token × Mode)) :
    r.map (behindTokens []) = r := by
  cases r <;> rfl

theorem map_behindTokens_append (a b : List Token) (r : Option (List Token × Mode)) :
    r.map (behindTokens (a ++ b)) = (r.map (behindTokens b)).map (behindTokens a) := by
  cases r with
  | none => rfl
  | some r => simp [behindTokens]

/-- The text behind is read from where the text in front left the reader. -/
theorem run?_append {m m' : Mode} {a : List Char} {ended : List Token}
    (h : m.run? a = some (ended, m')) (b : List Char) :
    m.run? (a ++ b) = (m'.run? b).map (behindTokens ended) := by
  induction a generalizing m ended with
  | nil =>
    rw [run?, Option.some.injEq, Prod.mk.injEq] at h
    obtain ⟨rfl, rfl⟩ := h
    rw [List.nil_append, map_behindTokens_nil]
  | cons c a ih =>
    rw [run?, Option.bind_eq_some_iff] at h
    obtain ⟨r, hstep, hrest⟩ := h
    obtain ⟨more, hrun, heq⟩ := Option.map_eq_some_iff.1 hrest
    obtain ⟨rfl, rfl⟩ := Prod.mk.inj heq
    rw [List.cons_append, run?, hstep, Option.bind_some, ih hrun, map_behindTokens_append]

/-- A character that goes on with a token ends none. -/
theorem run?_goOn {m m' : Mode} {c : Char} (h : m.next c = .goOn m') (rest : List Char) :
    m.run? (c :: rest) = m'.run? rest := by
  rw [run?, step?, h, Option.bind_some, map_behindTokens_nil]

/-- A character that starts a token. -/
theorem run?_start {m : Mode} {c : Char} (h : start? c = some m) (rest : List Char) :
    blank.run? (c :: rest) = m.run? rest := by
  rw [run?, step?, next, close?, h]
  exact map_behindTokens_nil _

/-- A character that ends a token is read as if nothing had been under way. -/
theorem run?_ends {m : Mode} {c : Char} {ended : List Token} (h : m.next c = .ends)
    (hclose : m.close? = some ended) (rest : List Char) :
    m.run? (c :: rest) = (blank.run? (c :: rest)).map (behindTokens ended) := by
  rw [run?, step?, h, hclose]
  cases hstart : start? c with
  | none => simp [run?, step?, next, close?, hstart]
  | some m' =>
    rw [run?_start hstart]
    rfl

/-! ## Whole tokens -/

/-- Characters of one class are all taken into the token that they go on with. -/
theorem run?_class {f : List Char → Mode} {p : Char → Bool}
    (h : ∀ text c, p c = true → (f text).next c = .goOn (f (text ++ [c])))
    (text more : List Char) (hmore : ∀ c ∈ more, p c = true) :
    (f text).run? more = some ([], f (text ++ more)) := by
  induction more generalizing text with
  | nil => simp [run?]
  | cons c more ih =>
    have hc : p c = true := hmore c List.mem_cons_self
    have hrest : ∀ d ∈ more, p d = true := fun d hd => hmore d (List.mem_cons_of_mem c hd)
    rw [run?_goOn (h text c hc), ih _ hrest, List.append_assoc, List.singleton_append]

/-- The encoded body of a quoted text is read back into it. -/
theorem run?_encode (kind : QuoteKind) (text body : List Char) :
    (inside kind text).run? (encode kind.mark body) = some ([], inside kind (text ++ body)) := by
  induction body generalizing text with
  | nil => simp [encode, run?]
  | cons c body ih =>
    rw [encode]
    split
    case isTrue hc =>
      have hquote : (inside kind text).next kind.mark = .goOn (behind kind text) := by
        simp [next]
      have hdouble : (behind kind text).next kind.mark =
          .goOn (inside kind (text ++ [kind.mark])) := by
        simp [next]
      rw [run?_goOn hquote, run?_goOn hdouble, ih, hc, List.append_assoc,
        List.singleton_append]
    case isFalse hc =>
      have hplain : (inside kind text).next c = .goOn (inside kind (text ++ [c])) := by
        simp [next, hc]
      rw [run?_goOn hplain, ih, List.append_assoc, List.singleton_append]

theorem start?_mark (kind : QuoteKind) : start? kind.mark = some (inside kind []) := by
  cases kind <;> rfl

/-- A quoted text is one token, whatever it holds. -/
theorem run?_quoted (kind : QuoteKind) (text : String) :
    blank.run? (quoted kind.mark text).toList = some ([], behind kind text.toList) := by
  have hclose : (inside kind text.toList).next kind.mark = .goOn (behind kind text.toList) := by
    simp [next]
  rw [quoted, String.toList_ofList, List.cons_append, run?_start (start?_mark kind),
    run?_append (run?_encode kind [] text.toList), List.nil_append, run?_goOn hclose]
  rfl

theorem start?_digit {c : Char} (h : c.isDigit = true) : start? c = some (number [c]) :=
  Text.forall_char (P := fun c => c.isDigit = true → start? c = some (number [c]))
    (by decide +kernel)
    (fun c hlarge hdigit => by
      have hle : c.toNat ≤ 57 := (Char.isDigit_iff_toNat.1 hdigit).2
      omega) c h

theorem digits_toString (n : Nat) : ∀ c ∈ (toString n).toList, c.isDigit = true := by
  intro c hc
  rw [Nat.toString_eq_repr, Nat.toList_repr] at hc
  exact Nat.isDigit_of_mem_toDigits (by decide) (by decide) hc

/-- A number in decimal is one token. -/
theorem run?_number (n : Nat) :
    blank.run? (toString n).toList = some ([], number (toString n).toList) := by
  have hgo : ∀ text c, c.isDigit = true → (number text).next c = .goOn (number (text ++ [c])) :=
    fun text c hc => by simp [next, hc]
  have hdigits := digits_toString n
  cases h : (toString n).toList with
  | nil => exact absurd (String.toList_eq_nil_iff.1 h) (by simp)
  | cons c rest =>
    rw [h] at hdigits
    rw [run?_start (start?_digit (hdigits c List.mem_cons_self)),
      run?_class hgo [c] rest fun d hd => hdigits d (List.mem_cons_of_mem c hd)]
    rfl

/-- A placeholder is one token. -/
theorem run?_placeholder (n : Nat) :
    blank.run? ("$" ++ toString n).toList = some ([], placeholder (toString n).toList) := by
  have hgo : ∀ text c, c.isDigit = true →
      (placeholder text).next c = .goOn (placeholder (text ++ [c])) :=
    fun text c hc => by simp [next, hc]
  have hdigits := digits_toString n
  have hdollar : start? '$' = some dollar := rfl
  rw [String.toList_append, show "$".toList = ['$'] from rfl, List.singleton_append,
    run?_start hdollar]
  cases h : (toString n).toList with
  | nil => exact absurd (String.toList_eq_nil_iff.1 h) (by simp)
  | cons c rest =>
    rw [h] at hdigits
    have hfirst : dollar.next c = .goOn (placeholder [c]) := by
      simp [next, hdigits c List.mem_cons_self]
    rw [run?_goOn hfirst,
      run?_class hgo [c] rest fun d hd => hdigits d (List.mem_cons_of_mem c hd)]
    rfl

/-- The digits of a placeholder read as its number. -/
theorem close?_placeholder (n : Nat) :
    (placeholder (toString n).toList).close? = some [.placeholder n] := by
  rw [close?, Nat.toString_eq_repr, Nat.toList_repr, Nat.ofDigitChars_ten_toDigits]

end Mode

end DocStore.Sql
