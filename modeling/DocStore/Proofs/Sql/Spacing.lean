import DocStore.Proofs.Sql.Token
import DocStore.Sql.Piece
import DocStore.Sql.TableName

/-!
# Spacing of pieces

The text of a statement is the text of its pieces, one directly behind the
other, so two pieces could run together into one token.  `spacing` follows a list
of pieces and says that they do not: it keeps what the text so far ends with
(`Edge`) and lets a piece follow only if its first character ends that.

* `tokens?_renderFrom`: the text of well-spaced pieces reads as the tokens of the
  pieces, one after the other.
* `quoted?_tokensFrom`: its quoted tokens are the quoted texts of the pieces.
* `placeholder?_tokensFrom`: its placeholders are numbered from left to right.
* `map_blank_tokensFrom`: the quoted texts change nothing but themselves.
-/

namespace DocStore.Sql

/-! ## Edges -/

/-- What a text ends with. -/
inductive Edge where
  /-- Nothing that goes on. -/
  | free
  /-- An operator. -/
  | operator
  /-- A word, a number, a placeholder, a quote or a closing bracket. -/
  | token
  deriving DecidableEq

/-- The characters that may stand behind an edge. -/
def Edge.follows : Edge → Char → Bool
  | free, _ => true
  | operator, c => c = '\''
  | token, c => [' ', ')', ',', '-', ':'].contains c

/-- The edge that the token under way makes. -/
def Mode.edge? : Mode → Option Edge
  | blank => some .free
  | symbol c => some (if ['(', '[', ','].contains c then .free else .token)
  | word _ | number _ | placeholder _ | behind _ _ => some .token
  | operator text => if isOperator text then some .operator else none
  | dollar | point | colon | cast | inside _ _ => none

/-- The token under way can end, as `last`, and does so at an edge's characters. -/
structure Mode.Awaits (m : Mode) (e : Edge) (last : List Token) : Prop where
  close : m.close? = some last
  next : ∀ c, e.follows c = true → m.next c = .ends

theorem follows_token_iff {c : Char} :
    Edge.token.follows c = true ↔ c = ' ' ∨ c = ')' ∨ c = ',' ∨ c = '-' ∨ c = ':' := by
  simp [Edge.follows]

theorem Mode.awaits_of_edge? {m : Mode} {e : Edge} (h : m.edge? = some e) :
    ∃ last, m.Awaits e last := by
  cases m with
  | blank => exact ⟨_, rfl, fun _ _ => rfl⟩
  | symbol c => exact ⟨_, rfl, fun _ _ => rfl⟩
  | word text =>
    obtain rfl : Edge.token = e := Option.some.inj h
    refine ⟨_, rfl, fun c hc => ?_⟩
    rcases follows_token_iff.1 hc with rfl | rfl | rfl | rfl | rfl <;> rfl
  | number text =>
    obtain rfl : Edge.token = e := Option.some.inj h
    refine ⟨_, rfl, fun c hc => ?_⟩
    rcases follows_token_iff.1 hc with rfl | rfl | rfl | rfl | rfl <;> rfl
  | placeholder digits =>
    obtain rfl : Edge.token = e := Option.some.inj h
    refine ⟨_, rfl, fun c hc => ?_⟩
    rcases follows_token_iff.1 hc with rfl | rfl | rfl | rfl | rfl <;> rfl
  | behind kind text =>
    obtain rfl : Edge.token = e := Option.some.inj h
    refine ⟨_, rfl, fun c hc => ?_⟩
    rcases follows_token_iff.1 hc with rfl | rfl | rfl | rfl | rfl <;> cases kind <;> rfl
  | operator text =>
    rw [edge?] at h
    split at h
    · rename_i hop
      obtain rfl : Edge.operator = e := Option.some.inj h
      refine ⟨_, by rw [close?, if_pos hop], fun c hc => ?_⟩
      obtain rfl : c = '\'' := by simpa [Edge.follows] using hc
      rfl
    · simp at h
  | dollar => simp [edge?] at h
  | point => simp [edge?] at h
  | colon => simp [edge?] at h
  | cast => simp [edge?] at h
  | inside kind text => simp [edge?] at h

/-! ## Pieces -/

/-- Neither quoted nor a placeholder. -/
def Token.isPlain (t : Token) : Bool := t.quoted?.isNone && t.placeholder?.isNone

namespace Piece

/-- The tokens of a piece, `n` being the number of the next placeholder. -/
def tokens (n : Nat) : Piece → List Token
  | text s => (tokens? s).getD []
  | name s => [.word s]
  | literal s => [.quoted .literal s]
  | identifier s => [.quoted .identifier s]
  | number k => [.number (toString k)]
  | param _ => [.placeholder n]

/-- The quoted text of a piece. -/
def quoted? : Piece → Option (QuoteKind × String)
  | literal s => some (.literal, s)
  | identifier s => some (.identifier, s)
  | _ => none

/-- The piece without its quoted text. -/
def blank : Piece → Piece
  | literal _ => literal ""
  | identifier _ => identifier ""
  | p => p

/-- Whether a piece may stand behind an edge. -/
def fits (e : Edge) : Piece → Bool
  | text s => s.toList.head?.any e.follows
  | name _ | number _ => e = .free
  | literal _ => e.follows '\''
  | identifier _ => e.follows '"'
  | param _ => e.follows '$'

/-- The edge that a piece leaves.  Fixed text has to read as plain tokens, and a name as the
folded word that it is. -/
def edge? : Piece → Option Edge
  | text s =>
      (Mode.blank.run? s.toList).bind fun r =>
        if r.1.all Token.isPlain && (r.2.close?.getD []).all Token.isPlain then r.2.edge?
        else none
  | name s => if isName s.toList && Text.foldCase s.toList = s.toList then some .token else none
  | literal _ | identifier _ | number _ | param _ => some .token

end Piece

/-- The tokens of several pieces, `n` being the number of the next placeholder. -/
def tokensFrom : (n : Nat) → List Piece → List Token
  | _, [] => []
  | n, p :: rest => p.tokens n ++ tokensFrom (if p.param?.isSome then n + 1 else n) rest

/-- The pieces behind others go on with the numbers. -/
theorem tokensFrom_append (n : Nat) (a b : List Piece) :
    tokensFrom n (a ++ b) = tokensFrom n a ++ tokensFrom (n + (params a).length) b := by
  induction a generalizing n with
  | nil => rfl
  | cons p a ih =>
    rw [List.cons_append, tokensFrom, tokensFrom, ih, List.append_assoc]
    cases h : p.param? with
    | none => rw [params, params, List.filterMap_cons_none h]; rfl
    | some v =>
      rw [params, params, List.filterMap_cons_some h, List.length_cons, ← Nat.add_assoc,
        Nat.add_right_comm]
      rfl

/-- The edge behind pieces that follow an edge; none when two of them could run together. -/
def spacing : Edge → List Piece → Option Edge
  | e, [] => some e
  | e, p :: rest => if p.fits e then p.edge?.bind fun e' => spacing e' rest else none

/-- Pieces behind well-spaced ones start at the edge that these leave. -/
theorem spacing_append {e e' : Edge} {a : List Piece} (h : spacing e a = some e')
    (b : List Piece) : spacing e (a ++ b) = spacing e' b := by
  induction a generalizing e with
  | nil => rw [Option.some.inj h, List.nil_append]
  | cons p a ih =>
    rw [spacing] at h
    rw [List.cons_append, spacing]
    split at h
    · rename_i hfits
      obtain ⟨e₁, hedge, hrest⟩ := Option.bind_eq_some_iff.1 h
      rw [if_pos hfits, hedge, Option.bind_some, ih hrest]
    · simp at h

theorem spacing_cons {e e' : Edge} {p : Piece} (h : spacing e [p] = some e')
    (rest : List Piece) : spacing e (p :: rest) = spacing e' rest :=
  spacing_append h rest

/-- Well-spaced pieces come one by one. -/
theorem spacing_cons_eq_some {e e' : Edge} {p : Piece} {rest : List Piece}
    (h : spacing e (p :: rest) = some e') :
    ∃ e₁, p.fits e = true ∧ p.edge? = some e₁ ∧ spacing e₁ rest = some e' := by
  rw [spacing] at h
  split at h
  · rename_i hfits
    obtain ⟨e₁, hedge, hrest⟩ := Option.bind_eq_some_iff.1 h
    exact ⟨e₁, hfits, hedge, hrest⟩
  · simp at h

/-! ## Reading a piece -/

theorem isWordStart_of_isNameStart {c : Char} (h : isNameStart c = true) :
    isWordStart c = true := by
  rw [isNameStart] at h
  rw [isWordStart, h, Bool.true_or]

theorem isWordRest_of_isNameRest {c : Char} (h : isNameRest c = true) :
    isWordRest c = true := by
  simp only [isNameRest, Char.isAlphanum, Bool.or_eq_true] at h
  simp only [isWordRest, isWordStart, Bool.or_eq_true]
  rcases h with (h | h) | h
  · exact Or.inl (Or.inl (Or.inl (Or.inl h)))
  · exact Or.inl (Or.inr h)
  · exact Or.inl (Or.inl (Or.inl (Or.inr h)))

theorem start?_isWordStart {c : Char} (h : isWordStart c = true) :
    Mode.start? c = some (.word [c]) := by
  have hblank : c ≠ ' ' := by
    rintro rfl
    revert h
    decide
  rw [Mode.start?, if_neg hblank, if_pos h]

/-- A table name is one word. -/
theorem run?_name {text : List Char} (h : isName text = true) :
    Mode.blank.run? text = some ([], .word text) := by
  cases text with
  | nil => simp [isName] at h
  | cons c rest =>
    simp only [isName, Bool.and_eq_true, List.all_eq_true] at h
    obtain ⟨⟨hc, hrest⟩, -⟩ := h
    have hgo : ∀ text c, isWordRest c = true →
        (Mode.word text).next c = .goOn (.word (text ++ [c])) :=
      fun text c hc => by simp [Mode.next, hc]
    rw [Mode.run?_start (start?_isWordStart (isWordStart_of_isNameStart hc)),
      Mode.run?_class hgo [c] rest fun d hd => isWordRest_of_isNameRest (hrest d hd)]
    rfl

/-- A token under way that an edge's characters end. -/
theorem Mode.awaits_token {m : Mode} {last : List Token} (h : m.edge? = some .token)
    (hclose : m.close? = some last) : m.Awaits .token last := by
  obtain ⟨last', hm⟩ := awaits_of_edge? h
  rw [Option.some.inj (hclose.symm.trans hm.close)]
  exact hm

/-- A piece that leaves an edge reads as its tokens, the last of them perhaps under way. -/
theorem Piece.run?_render {p : Piece} {e : Edge} (h : p.edge? = some e) (n : Nat) :
    ∃ ended m last, Mode.blank.run? (p.render n).toList = some (ended, m) ∧
      m.Awaits e last ∧ ended ++ last = p.tokens n := by
  cases p with
  | text s =>
    rw [edge?] at h
    obtain ⟨⟨ended, m⟩, hrun, hif⟩ := Option.bind_eq_some_iff.1 h
    split at hif
    · obtain ⟨last, hm⟩ := Mode.awaits_of_edge? hif
      refine ⟨ended, m, last, hrun, hm, ?_⟩
      rw [tokens, tokens?, hrun, Option.bind_some, hm.close]
      rfl
    · simp at hif
  | name s =>
    rw [edge?] at h
    split at h
    · rename_i hname
      simp only [Bool.and_eq_true, decide_eq_true_eq] at hname
      obtain rfl : Edge.token = e := Option.some.inj h
      refine ⟨[], _, _, run?_name hname.1, Mode.awaits_token rfl rfl, ?_⟩
      rw [render, hname.2, String.ofList_toList]
      rfl
    · simp at h
  | literal s =>
    obtain rfl : Edge.token = e := Option.some.inj h
    refine ⟨[], _, _, Mode.run?_quoted .literal s, Mode.awaits_token rfl rfl, ?_⟩
    rw [String.ofList_toList]
    rfl
  | identifier s =>
    obtain rfl : Edge.token = e := Option.some.inj h
    refine ⟨[], _, _, Mode.run?_quoted .identifier s, Mode.awaits_token rfl rfl, ?_⟩
    rw [String.ofList_toList]
    rfl
  | number k =>
    obtain rfl : Edge.token = e := Option.some.inj h
    refine ⟨[], _, _, Mode.run?_number k, Mode.awaits_token rfl rfl, ?_⟩
    rw [String.ofList_toList]
    rfl
  | param v =>
    obtain rfl : Edge.token = e := Option.some.inj h
    exact ⟨[], _, _, Mode.run?_placeholder n,
      Mode.awaits_token rfl (Mode.close?_placeholder n), rfl⟩

/-- The first character of a piece that fits an edge may stand behind it. -/
theorem Piece.head_render {p : Piece} {e e' : Edge} (h : p.fits e = true)
    (hedge : p.edge? = some e') (n : Nat) :
    ∃ c rest, (p.render n).toList = c :: rest ∧ e.follows c = true := by
  cases p with
  | text s =>
    rw [fits] at h
    cases hs : s.toList with
    | nil => simp [hs] at h
    | cons c rest => exact ⟨c, rest, hs, by simpa [hs] using h⟩
  | name s =>
    obtain rfl : e = .free := by simpa [fits] using h
    cases hs : s.toList with
    | nil => simp [edge?, isName, hs] at hedge
    | cons c rest => exact ⟨c, rest, hs, rfl⟩
  | number k =>
    obtain rfl : e = .free := by simpa [fits] using h
    cases hs : (toString k).toList with
    | nil => exact absurd (String.toList_eq_nil_iff.1 hs) (by simp)
    | cons c rest => exact ⟨c, rest, hs, rfl⟩
  | literal s => exact ⟨_, _, String.toList_ofList, h⟩
  | identifier s => exact ⟨_, _, String.toList_ofList, h⟩
  | param v => exact ⟨'$', (toString n).toList, by rw [render, String.toList_append]; rfl, h⟩

/-! ## Reading a statement -/

theorem Mode.awaits_blank : Mode.blank.Awaits .free [] := ⟨rfl, fun _ _ => rfl⟩

/-- Well-spaced pieces are read one by one, behind whatever is under way before them. -/
theorem run?_renderFrom {e e' : Edge} {ps : List Piece} (h : spacing e ps = some e') (n : Nat)
    {m : Mode} {last : List Token} (hm : m.Awaits e last) :
    ∃ ended m' last', m.run? (renderFrom n ps).toList = some (ended, m') ∧
      m'.Awaits e' last' ∧ ended ++ last' = last ++ tokensFrom n ps := by
  induction ps generalizing e n m last with
  | nil =>
    obtain rfl : e = e' := Option.some.inj h
    exact ⟨[], m, last, rfl, hm, by simp [tokensFrom]⟩
  | cons p rest ih =>
    obtain ⟨e₁, hfits, hedge, hrest⟩ := spacing_cons_eq_some h
    obtain ⟨ended₁, m₁, last₁, hrun₁, hm₁, htokens₁⟩ := Piece.run?_render hedge n
    obtain ⟨ended₂, m₂, last₂, hrun₂, hm₂, htokens₂⟩ :=
      ih hrest (if p.param?.isSome then n + 1 else n) hm₁
    obtain ⟨c, chars, hchars, hc⟩ := Piece.head_render hfits hedge n
    have hfirst : m.run? (p.render n).toList = some (last ++ ended₁, m₁) := by
      rw [hchars, Mode.run?_ends (hm.next c hc) hm.close, ← hchars, hrun₁]
      rfl
    refine ⟨last ++ ended₁ ++ ended₂, m₂, last₂, ?_, hm₂, ?_⟩
    · rw [renderFrom, String.toList_append, Mode.run?_append hfirst, hrun₂]
      rfl
    · rw [tokensFrom, List.append_assoc, htokens₂, ← htokens₁]
      simp only [List.append_assoc]

/-- The text of well-spaced pieces reads as their tokens. -/
theorem tokens?_renderFrom {e : Edge} {ps : List Piece} (h : spacing .free ps = some e)
    (n : Nat) : tokens? (renderFrom n ps) = some (tokensFrom n ps) := by
  obtain ⟨ended, m, last, hrun, hm, htokens⟩ := run?_renderFrom h n Mode.awaits_blank
  rw [tokens?, hrun, Option.bind_some, hm.close, Option.map_some, htokens, List.nil_append]

/-! ## What the tokens hold -/

theorem isPlain_of_edge? {s : String} {e : Edge} (h : (Piece.text s).edge? = some e) :
    ∀ t ∈ (Piece.text s).tokens 0, t.isPlain = true := by
  rw [Piece.edge?] at h
  obtain ⟨⟨ended, m⟩, hrun, hif⟩ := Option.bind_eq_some_iff.1 h
  split at hif
  · rename_i hplain
    obtain ⟨last, hm⟩ := Mode.awaits_of_edge? hif
    rw [hm.close, Option.getD_some, Bool.and_eq_true, List.all_eq_true, List.all_eq_true] at hplain
    intro t ht
    rw [Piece.tokens, tokens?, hrun, Option.bind_some, hm.close, Option.map_some,
      Option.getD_some, List.mem_append] at ht
    exact ht.elim (hplain.1 t) (hplain.2 t)
  · simp at hif

/-- Plain tokens show nothing to a view of the quoted or the numbered ones. -/
theorem filterMap_eq_nil_of_isPlain {α : Type} {f : Token → Option α} {ts : List Token}
    (hf : ∀ t, t.isPlain = true → f t = none) (h : ∀ t ∈ ts, t.isPlain = true) :
    ts.filterMap f = [] :=
  List.filterMap_eq_nil_iff.2 fun t ht => hf t (h t ht)

theorem quoted?_of_isPlain (t : Token) (h : t.isPlain = true) : t.quoted? = none := by
  simp only [Token.isPlain, Bool.and_eq_true, Option.isNone_iff_eq_none] at h
  exact h.1

theorem placeholder?_of_isPlain (t : Token) (h : t.isPlain = true) : t.placeholder? = none := by
  simp only [Token.isPlain, Bool.and_eq_true, Option.isNone_iff_eq_none] at h
  exact h.2

/-- The quoted tokens of well-spaced pieces are their quoted texts. -/
theorem quoted?_tokensFrom {e e' : Edge} {ps : List Piece} (h : spacing e ps = some e')
    (n : Nat) : (tokensFrom n ps).filterMap Token.quoted? = ps.filterMap Piece.quoted? := by
  induction ps generalizing e n with
  | nil => rfl
  | cons p rest ih =>
    obtain ⟨e₁, -, hedge, hrest⟩ := spacing_cons_eq_some h
    have hpiece : (p.tokens n).filterMap Token.quoted? = p.quoted?.toList := by
      cases p with
      | text s => exact filterMap_eq_nil_of_isPlain quoted?_of_isPlain (isPlain_of_edge? hedge)
      | _ => rfl
    rw [tokensFrom, List.filterMap_append, hpiece, ih hrest]
    cases hq : p.quoted? <;> simp [hq]

/-- The placeholders of well-spaced pieces are numbered from left to right. -/
theorem placeholder?_tokensFrom {e e' : Edge} {ps : List Piece} (h : spacing e ps = some e')
    (n : Nat) :
    (tokensFrom n ps).filterMap Token.placeholder? = List.range' n (params ps).length := by
  induction ps generalizing e n with
  | nil => rfl
  | cons p rest ih =>
    obtain ⟨e₁, -, hedge, hrest⟩ := spacing_cons_eq_some h
    rw [tokensFrom, List.filterMap_append, ih hrest]
    cases p with
    | text s =>
      have hplain : ((Piece.text s).tokens n).filterMap Token.placeholder? = [] :=
        filterMap_eq_nil_of_isPlain placeholder?_of_isPlain (isPlain_of_edge? hedge)
      rw [hplain]
      rfl
    | param v => simp [Piece.tokens, Token.placeholder?, Piece.param?, params, List.range'_succ]
    | _ => rfl

/-- Blanking pieces blanks their tokens. -/
theorem map_blank_tokensFrom (n : Nat) (ps : List Piece) :
    (tokensFrom n (ps.map Piece.blank)).map Token.blank = (tokensFrom n ps).map Token.blank := by
  induction ps generalizing n with
  | nil => rfl
  | cons p rest ih =>
    have hpiece : ((p.blank).tokens n).map Token.blank = (p.tokens n).map Token.blank := by
      cases p <;> rfl
    have hparam : p.blank.param? = p.param? := by
      cases p <;> rfl
    rw [List.map_cons, tokensFrom, tokensFrom, List.map_append, List.map_append, hpiece, hparam,
      ih]

end DocStore.Sql
