import Mathlib.Data.List.Forall2
import Mathlib.Data.String.Basic
import DocStore.Proofs.Sql.Spacing

/-!
# Names as words

`TableName.parse` takes words of at most 63 bytes made of ASCII letters, digits and
underscores (`IsIdentifier`), and gives them back in small letters.  Two of them are
one table when their letters are the same but for case (`SameLetters`).

A name goes into the text of a statement without quotes.  `Embeds` says that it is a
token of its own wherever it stands, and that the other tokens are the same for
every name.  Whether the server takes that token for the table is another question
(`Token.tableNamed?`): some words are reserved, and some name a part of the
statement.
-/

namespace DocStore.Sql

open Text (lower foldCase)

/-! ## Which names are taken -/

/-- An ASCII letter, a digit or an underscore. -/
def IsWordChar (c : Char) : Prop :=
  ('a' ≤ c ∧ c ≤ 'z') ∨ ('A' ≤ c ∧ c ≤ 'Z') ∨ ('0' ≤ c ∧ c ≤ '9') ∨ c = '_'

/-- A text of 1 to 63 bytes of such characters that starts with no digit. -/
structure IsIdentifier (s : String) : Prop where
  nonempty : 1 ≤ s.utf8ByteSize
  short : s.utf8ByteSize ≤ 63
  word : ∀ c ∈ s.toList, IsWordChar c
  start : ∀ c ∈ s.toList.head?, ¬ ('0' ≤ c ∧ c ≤ '9')

theorem isNameRest_iff {c : Char} : isNameRest c = true ↔ IsWordChar c := by
  unfold isNameRest Char.isAlphanum Char.isAlpha Char.isUpper Char.isLower Char.isDigit IsWordChar
  simp only [Char.le_def, Bool.or_eq_true, Bool.and_eq_true, decide_eq_true_eq]
  grind

theorem isNameStart_iff {c : Char} :
    isNameStart c = true ↔ IsWordChar c ∧ ¬ ('0' ≤ c ∧ c ≤ '9') := by
  rw [← isNameRest_iff]
  exact Text.forall_char
    (P := fun c => isNameStart c = true ↔ isNameRest c = true ∧ ¬ ('0' ≤ c ∧ c ≤ '9'))
    (by decide +kernel)
    (fun c hlarge => by
      have hdigit : ¬ ('0' ≤ c ∧ c ≤ '9') := by
        intro h
        have hle : c.toNat ≤ 57 := h.2
        omega
      have hsame : isNameStart c = isNameRest c := by
        have hnot : c.isDigit = false := by
          rw [← Bool.not_eq_true, Char.isDigit_iff_toNat]
          exact hdigit
        rw [isNameStart, isNameRest, Char.isAlphanum, hnot, Bool.or_false]
      rw [hsame, and_iff_left hdigit]) c

theorem toNat_lt_of_isWordChar {c : Char} (h : IsWordChar c) : c.toNat < 128 := by
  have hle : c ≤ 'z' ∨ c ≤ 'Z' ∨ c ≤ '9' ∨ c = '_' :=
    h.imp And.right (Or.imp And.right (Or.imp_left And.right))
  rcases hle with hle | hle | hle | rfl
  · exact Nat.lt_of_le_of_lt hle (by decide)
  · exact Nat.lt_of_le_of_lt hle (by decide)
  · exact Nat.lt_of_le_of_lt hle (by decide)
  · decide

theorem utf8Size_of_isWordChar {c : Char} (h : IsWordChar c) : c.utf8Size = 1 :=
  Text.forall_char (P := fun c => c.toNat < 128 → c.utf8Size = 1) (by decide +kernel)
    (fun _ hlarge hsmall => absurd hsmall (Nat.not_lt.2 hlarge)) c (toNat_lt_of_isWordChar h)

/-- A word has one byte for each character. -/
theorem utf8ByteSize_of_isWordChar {s : String} (h : ∀ c ∈ s.toList, IsWordChar c) :
    s.utf8ByteSize = s.toList.length := by
  have hlength : ∀ cs : List Char, (∀ c ∈ cs, IsWordChar c) → String.utf8Len cs = cs.length := by
    intro cs hcs
    induction cs with
    | nil => rfl
    | cons c cs ih =>
      obtain ⟨hc, hrest⟩ := List.forall_mem_cons.1 hcs
      rw [String.utf8Len_cons, ih hrest, utf8Size_of_isWordChar hc, List.length_cons]
  rw [← hlength _ h, ← String.utf8ByteSize_ofList, String.ofList_toList]

theorem isIdentifier_iff {s : String} :
    IsIdentifier s ↔ (∀ c ∈ s.toList, IsWordChar c) ∧
      (∀ c ∈ s.toList.head?, ¬ ('0' ≤ c ∧ c ≤ '9')) ∧
      1 ≤ s.toList.length ∧ s.toList.length ≤ 63 := by
  constructor
  · rintro ⟨hnonempty, hshort, hword, hstart⟩
    rw [utf8ByteSize_of_isWordChar hword] at hnonempty hshort
    exact ⟨hword, hstart, hnonempty, hshort⟩
  · rintro ⟨hword, hstart, hnonempty, hshort⟩
    rw [← utf8ByteSize_of_isWordChar hword] at hnonempty hshort
    exact ⟨hnonempty, hshort, hword, hstart⟩

theorem isName_iff {s : String} : isName s.toList = true ↔ IsIdentifier s := by
  rw [isIdentifier_iff]
  cases s.toList with
  | nil => simp [isName]
  | cons c rest =>
    have hmax : maxNameLength = 63 := rfl
    simp only [isName, Bool.and_eq_true, List.all_eq_true, decide_eq_true_eq, isNameStart_iff,
      isNameRest_iff, hmax, List.forall_mem_cons, List.head?_cons, Option.mem_def,
      Option.some.injEq, forall_eq', List.length_cons]
    constructor
    · rintro ⟨⟨⟨hc, hstart⟩, hrest⟩, hlength⟩
      exact ⟨⟨hc, hrest⟩, hstart, by omega, by omega⟩
    · rintro ⟨⟨hc, hrest⟩, hstart, -, hlength⟩
      exact ⟨⟨⟨hc, hstart⟩, hrest⟩, by omega⟩

namespace TableName

theorem parse_of_isIdentifier {s : String} (h : IsIdentifier s) :
    ∃ t, parse s = .ok t ∧ t.text.toList = foldCase s.toList := by
  refine ⟨_, by rw [parse, parse?, dif_pos (isName_iff.2 h)], ?_⟩
  exact String.toList_ofList

theorem parse_of_not_isIdentifier {s : String} (h : ¬ IsIdentifier s) :
    parse s = .error (.invalidIdentifier s) := by
  rw [parse, parse?, dif_neg (mt isName_iff.1 h)]

theorem parse_eq_ok_iff {s : String} {t : TableName} :
    parse s = .ok t ↔ IsIdentifier s ∧ t.text.toList = foldCase s.toList := by
  by_cases h : IsIdentifier s
  · obtain ⟨t', ht', htext⟩ := parse_of_isIdentifier h
    rw [ht', Except.ok.injEq, and_iff_right h, ← htext]
    constructor
    · rintro rfl
      rfl
    · intro heq
      obtain ⟨text, _, _⟩ := t
      obtain ⟨text', _, _⟩ := t'
      simpa using (String.toList_injective heq).symm
  · rw [parse_of_not_isIdentifier h]
    exact iff_of_false nofun fun hok => h hok.1

/-- A name is given back as it is. -/
theorem parse_text (t : TableName) : parse t.text = .ok t :=
  parse_eq_ok_iff.2 ⟨isName_iff.1 t.isName, t.isFolded.symm⟩

end TableName

/-! ## Which names are one table -/

/-- The same letter but for case. -/
def SameLetter (c d : Char) : Prop :=
  c = d ∨ ('A' ≤ c ∧ c ≤ 'Z' ∧ d.toNat = c.toNat + 32) ∨
    ('A' ≤ d ∧ d ≤ 'Z' ∧ c.toNat = d.toNat + 32)

/-- The same letters but for case. -/
def SameLetters (a b : String) : Prop := List.Forall₂ SameLetter a.toList b.toList

theorem toNat_lower (c : Char) :
    (lower c).toNat = if 'A' ≤ c ∧ c ≤ 'Z' then c.toNat + 32 else c.toNat :=
  Text.forall_char
    (P := fun c => (lower c).toNat = if 'A' ≤ c ∧ c ≤ 'Z' then c.toNat + 32 else c.toNat)
    (by decide +kernel)
    (fun c hlarge => by
      have hcapital : ¬ ('A' ≤ c ∧ c ≤ 'Z') := fun h => by
        have hle : c.toNat ≤ 90 := h.2
        omega
      rw [Text.lower_of_large hlarge, if_neg hcapital]) c

theorem lower_eq_iff {c d : Char} : lower c = lower d ↔ SameLetter c d := by
  have hcapital : ∀ e : Char, ('A' ≤ e ∧ e ≤ 'Z') ↔ 65 ≤ e.toNat ∧ e.toNat ≤ 90 :=
    fun e => Iff.rfl
  rw [← Char.toNat_inj, toNat_lower, toNat_lower, SameLetter, ← Char.toNat_inj, ← and_assoc,
    ← and_assoc]
  simp only [hcapital]
  split <;> split <;> omega

theorem foldCase_eq_iff {a b : String} :
    foldCase a.toList = foldCase b.toList ↔ SameLetters a b := by
  rw [SameLetters, foldCase, foldCase, ← List.forall₂_eq_eq_eq, List.forall₂_map_left_iff,
    List.forall₂_map_right_iff]
  simp only [lower_eq_iff]

/-! ## Names in texts -/

/-- A text that holds a name reads as tokens of which the name is one, at least once, and the
tokens between are the same for every name. -/
def Embeds (f : String → String) : Prop :=
  ∃ between : List (List Token), 2 ≤ between.length ∧
    ∀ table : TableName, tokens? (f table.text) = some ([.word table.text].intercalate between)

theorem intercalate_cons_cons (t : Token) (first second : List Token) (more : List (List Token)) :
    [t].intercalate (first :: second :: more) =
      first ++ t :: [t].intercalate (second :: more) := rfl

/-- Text that can be read. -/
def isReadable (s : String) : Bool := (tokens? s).isSome

/-- Text that leaves the reader between two tokens. -/
def endsFree (s : String) : Bool := (Mode.blank.run? s.toList).any fun r => r.2 = .blank

/-- Text that starts with a blank, if it starts. -/
def startsBlank (s : String) : Bool := s.toList.head?.all (· = ' ')

theorem run?_of_endsFree {a : String} (h : endsFree a = true) :
    ∃ ts, Mode.blank.run? a.toList = some (ts, .blank) := by
  rw [endsFree, Option.any_eq_true] at h
  obtain ⟨⟨ts, m⟩, hrun, hm⟩ := h
  obtain rfl : m = .blank := of_decide_eq_true hm
  exact ⟨ts, hrun⟩

/-- Behind such text the reader starts anew. -/
theorem tokens?_append_of_endsFree {a : String} (h : endsFree a = true) :
    ∃ ts, ∀ b, tokens? (a ++ b) = (tokens? b).map (ts ++ ·) := by
  obtain ⟨ts, hrun⟩ := run?_of_endsFree h
  refine ⟨ts, fun b => ?_⟩
  rw [tokens?, String.toList_append, Mode.run?_append hrun, tokens?]
  cases Mode.blank.run? b.toList with
  | none => rfl
  | some r => simp [Mode.behindTokens, Function.comp_def]

theorem endsFree_append {a b : String} (ha : endsFree a = true) (hb : endsFree b = true) :
    endsFree (a ++ b) = true := by
  obtain ⟨ended, hfirst⟩ := run?_of_endsFree ha
  obtain ⟨more, hsecond⟩ := run?_of_endsFree hb
  rw [endsFree, String.toList_append, Mode.run?_append hfirst, hsecond]
  rfl

/-- A blank ends every token that can end. -/
theorem next_blank {m : Mode} {last : List Token} (h : m.close? = some last) :
    m.next ' ' = .ends := by
  cases m with
  | dollar => exact nomatch h
  | inside kind text => exact nomatch h
  | behind kind text => cases kind <;> rfl
  | _ => rfl

/-- A blank behind text that can be read starts the reader anew. -/
theorem tokens?_append_of_startsBlank {a b : String} {ts : List Token} (ha : tokens? a = some ts)
    (hb : startsBlank b = true) : tokens? (a ++ b) = (tokens? b).map (ts ++ ·) := by
  obtain ⟨⟨ended, m⟩, hrun, hmap⟩ := Option.bind_eq_some_iff.1 ha
  obtain ⟨last, hlast, rfl⟩ := Option.map_eq_some_iff.1 hmap
  rw [tokens?, String.toList_append, Mode.run?_append hrun, tokens?]
  cases hchars : b.toList with
  | nil =>
    have hblank : Mode.blank.close? = some [] := rfl
    simp [Mode.run?, Mode.behindTokens, hlast, hblank]
  | cons c rest =>
    obtain rfl : c = ' ' := by simpa [startsBlank, hchars] using hb
    rw [Mode.run?_ends (next_blank hlast) hlast]
    cases Mode.blank.run? (' ' :: rest) with
    | none => rfl
    | some r => simp [Mode.behindTokens, Function.comp_def]

theorem isReadable_append_of_endsFree {a b : String} (ha : endsFree a = true)
    (hb : isReadable b = true) : isReadable (a ++ b) = true := by
  obtain ⟨ts, hts⟩ := tokens?_append_of_endsFree ha
  rwa [isReadable, hts, Option.isSome_map]

theorem isReadable_append_of_startsBlank {a b : String} (ha : isReadable a = true)
    (hblank : startsBlank b = true) (hb : isReadable b = true) : isReadable (a ++ b) = true := by
  obtain ⟨ts, hts⟩ := Option.isSome_iff_exists.1 ha
  rwa [isReadable, tokens?_append_of_startsBlank hts hblank, Option.isSome_map]

theorem startsBlank_append {a b : String} (h : a.toList.head? = some ' ') :
    startsBlank (a ++ b) = true := by
  rw [startsBlank, String.toList_append, List.head?_append, h]
  rfl

theorem tokens?_name (table : TableName) : tokens? table.text = some [.word table.text] := by
  rw [tokens?, run?_name table.isName, Option.bind_some, Mode.close?, table.isFolded,
    String.ofList_toList]
  rfl

/-- A name with blanks around it is a token. -/
theorem embeds_of_free {front behind : String} (hfront : endsFree front = true)
    (hblank : startsBlank behind = true) (hbehind : isReadable behind = true) :
    Embeds fun name => front ++ name ++ behind := by
  obtain ⟨before, hbefore⟩ := tokens?_append_of_endsFree hfront
  obtain ⟨after, hafter⟩ := Option.isSome_iff_exists.1 hbehind
  refine ⟨[before, after], Nat.le_refl 2, fun table => ?_⟩
  have hname : tokens? (front ++ table.text) = some (before ++ [.word table.text]) := by
    rw [hbefore, tokens?_name]
    rfl
  rw [tokens?_append_of_startsBlank hname hblank, hafter]
  simp [List.intercalate]

/-! ## Names in pieces -/

/-- Pieces with a name at some places. -/
def fill (name : String) (template : List (Option Piece)) : List Piece :=
  template.map (·.getD (.name name))

/-- The tokens between the places of a template, `n` being the number of the next placeholder. -/
def gaps : (n : Nat) → List (Option Piece) → List (List Token)
  | _, [] => [[]]
  | n, none :: rest => [] :: gaps n rest
  | n, some p :: rest =>
      match gaps (if p.param?.isSome then n + 1 else n) rest with
      | [] => [p.tokens n]
      | first :: more => (p.tokens n ++ first) :: more

theorem length_gaps (n : Nat) (template : List (Option Piece)) :
    (gaps n template).length = template.count none + 1 := by
  induction template generalizing n with
  | nil => rfl
  | cons p rest ih =>
    cases p with
    | none => rw [gaps, List.length_cons, ih, List.count_cons_self]
    | some p =>
      have hrest := ih (if p.param?.isSome then n + 1 else n)
      rw [gaps, List.count_cons_of_ne (by simp)]
      split
      · rename_i hnil
        simp [hnil] at hrest
      · rename_i first more hgaps
        rw [hgaps] at hrest
        exact hrest

theorem tokensFrom_fill (name : String) (n : Nat) (template : List (Option Piece)) :
    tokensFrom n (fill name template) = [.word name].intercalate (gaps n template) := by
  induction template generalizing n with
  | nil => rfl
  | cons p rest ih =>
    have hne : ∀ m, gaps m rest ≠ [] := fun m hnil => by
      have hlength := length_gaps m rest
      simp [hnil] at hlength
    cases p with
    | none =>
      have hrest := ih n
      show .word name :: tokensFrom n (fill name rest) = _
      rw [hrest, gaps]
      cases hgaps : gaps n rest with
      | nil => exact absurd hgaps (hne n)
      | cons first more => rfl
    | some p =>
      have hrest := ih (if p.param?.isSome then n + 1 else n)
      show p.tokens n ++ tokensFrom (if p.param?.isSome then n + 1 else n) (fill name rest) = _
      rw [hrest, gaps]
      cases hgaps : gaps (if p.param?.isSome then n + 1 else n) rest with
      | nil => exact absurd hgaps (hne _)
      | cons first more =>
        cases more with
        | nil => simp [List.intercalate]
        | cons second more =>
          rw [intercalate_cons_cons, intercalate_cons_cons, List.append_assoc]

/-- Pieces that differ in a name alone, which stands at `k` places. -/
def HasPlaces (k : Nat) (ps : String → List Piece) : Prop :=
  ∃ template : List (Option Piece), template.count none = k ∧ ∀ name, ps name = fill name template

namespace HasPlaces

theorem const (ps : List Piece) : HasPlaces 0 fun _ => ps := by
  refine ⟨ps.map some, ?_, fun name => ?_⟩
  · simp [List.count_eq_zero]
  · simp [fill, Function.comp_def]

theorem name : HasPlaces 1 fun name => [.name name] := ⟨[none], rfl, fun _ => rfl⟩

theorem append {k l : Nat} {a b : String → List Piece} (ha : HasPlaces k a) (hb : HasPlaces l b) :
    HasPlaces (k + l) fun name => a name ++ b name := by
  obtain ⟨front, hfront, ha⟩ := ha
  obtain ⟨behind, hbehind, hb⟩ := hb
  refine ⟨front ++ behind, ?_, fun name => ?_⟩
  · rw [List.count_append, hfront, hbehind]
  · show a name ++ b name = _
    rw [ha, hb, fill, fill, fill, List.map_append]

/-- One more piece in front. -/
theorem cons {k : Nat} {ps : String → List Piece} (h : HasPlaces k ps) (p : Piece) :
    HasPlaces k fun name => p :: ps name := by
  have happend := append (const [p]) h
  rwa [Nat.zero_add] at happend

/-- The name in front. -/
theorem cons_name {k : Nat} {ps : String → List Piece} (h : HasPlaces k ps) :
    HasPlaces (k + 1) fun name => .name name :: ps name := by
  have happend := append name h
  rwa [Nat.add_comm] at happend

/-- More pieces behind. -/
theorem append_const {k : Nat} {ps : String → List Piece} (h : HasPlaces k ps) (b : List Piece) :
    HasPlaces k fun name => ps name ++ b := append h (const b)

theorem const_append {k : Nat} {ps : String → List Piece} (h : HasPlaces k ps) (a : List Piece) :
    HasPlaces k fun name => a ++ ps name := by
  have happend := append (const a) h
  rwa [Nat.zero_add] at happend

end HasPlaces

/-- The text of well-spaced pieces embeds the name that they hold. -/
theorem embeds_of_hasPlaces {k : Nat} {ps : String → List Piece} (hplaces : HasPlaces (k + 1) ps)
    (hspacing : ∀ table : TableName, ∃ e, spacing .free (ps table.text) = some e) :
    Embeds fun name => renderFrom 1 (ps name) := by
  obtain ⟨template, hcount, hfill⟩ := hplaces
  refine ⟨gaps 1 template, ?_, fun table => ?_⟩
  · rw [length_gaps, hcount]
    omega
  · obtain ⟨e, he⟩ := hspacing table
    rw [tokens?_renderFrom he, hfill, tokensFrom_fill]

/-! ## What a name is taken for -/

/-- The words that the server does not take for the name of a table when they are not quoted. -/
def reservedWords : List String :=
  ["all", "analyse", "analyze", "and", "any", "array", "as", "asc", "asymmetric",
    "authorization", "binary", "both", "case", "cast", "check", "collate", "collation", "column",
    "concurrently", "constraint", "create", "cross", "current_catalog", "current_date",
    "current_role", "current_schema", "current_time", "current_timestamp", "current_user",
    "default", "deferrable", "desc", "distinct", "do", "else", "end", "except", "false", "fetch",
    "for", "foreign", "freeze", "from", "full", "grant", "group", "having", "ilike", "in",
    "initially", "inner", "intersect", "into", "is", "isnull", "join", "lateral", "leading",
    "left", "like", "limit", "localtime", "localtimestamp", "natural", "not", "notnull", "null",
    "offset", "on", "only", "or", "order", "outer", "overlaps", "placing", "primary",
    "references", "returning", "right", "select", "session_user", "similar", "some",
    "symmetric", "system_user", "table", "tablesample", "then", "to", "trailing", "true",
    "union", "unique", "user", "using", "variadic", "verbose", "when", "where", "window", "with"]

/-- The table that a token names in a statement with names of its own for some of its parts. -/
def Token.tableNamed? (own : List String) : Token → Option String
  | .word text => if text ∈ reservedWords ∨ text ∈ own then none else some text
  | _ => none

theorem Token.tableNamed?_eq_some_iff {own : List String} {t : Token} {name : String} :
    t.tableNamed? own = some name ↔ t = .word name ∧ name ∉ reservedWords ∧ name ∉ own := by
  cases t with
  | word text =>
    rw [tableNamed?, Token.word.injEq, ← not_or]
    split
    · rename_i htaken
      refine iff_of_false (by simp) ?_
      rintro ⟨rfl, hfree⟩
      exact hfree htaken
    · rename_i hfree
      rw [Option.some.injEq, and_iff_left_of_imp]
      rintro rfl
      exact hfree
  | _ => simp [tableNamed?]

end DocStore.Sql
