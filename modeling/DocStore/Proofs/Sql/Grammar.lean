import DocStore.Proofs.Sql.Spacing

/-!
# Grammars over tokens

A grammar reads a value from the front of tokens and leaves the tokens behind it.
Statements are read back with the few parts defined here: fixed text, names,
numbers, clauses that may be missing, lists, and expressions, which are kept as
their tokens.

`Reads` ties a grammar to the pieces that a statement is made of: whatever stands
behind, the text of the pieces is read as a value.  It goes through a grammar part
by part (`Reads.bind`), so that the proof about a statement follows the statement.
What a part has to know about the tokens behind it is `IsEnd`: that they end what
is under way, and with which words.
-/

namespace DocStore.Sql

/-- Reads a value from the front of tokens and leaves those behind it. -/
abbrev Grammar := StateT (List Token) Option

namespace Grammar

variable {α β γ : Type}

/-! ## Parts -/

/-- Fixed text, token by token. -/
def phrase (sql : String) : Grammar Unit := fun ts =>
  let front := (tokens? sql).getD []
  if front <+: ts then some ((), ts.drop front.length) else none

/-- Whether fixed text stands here; it is taken then. -/
def sees (sql : String) : Grammar Bool := fun ts =>
  match phrase sql ts with
  | some (_, rest) => some (true, rest)
  | none => some (false, ts)

/-- An unquoted name.  Whether it is a reserved word is not looked at. -/
def name : Grammar String
  | .word text :: rest => some (text, rest)
  | _ => none

/-- A quoted name. -/
def quotedName : Grammar String
  | .quoted .identifier text :: rest => some (text, rest)
  | _ => none

def number : Grammar Nat
  | .number digits :: rest => some (Nat.ofDigitChars 10 digits.toList 0, rest)
  | _ => none

/-- A part behind the text that starts it; none without that text. -/
def clause (start : String) (g : Grammar α) : Grammar (Option α) := do
  if ← sees start then
    let a ← g
    return some a
  else
    return none

/-- Parts with a comma before each of them, fewer than `bound`. -/
def behindCommasBelow (g : Grammar α) : (bound : Nat) → Grammar (List α)
  | 0 => failure
  | bound + 1 => do
      if ← sees ", " then
        let a ← g
        let more ← behindCommasBelow g bound
        return a :: more
      else
        return []

/-- Parts with a comma before each of them.  There are no more than tokens. -/
def behindCommas (g : Grammar α) : Grammar (List α) := do
  let ts ← get
  behindCommasBelow g (ts.length + 1)

/-- Parts with commas between them, at least one. -/
def list (g : Grammar α) : Grammar (List α) := do
  let a ← g
  let more ← behindCommas g
  return a :: more

/-- The words that end an expression. -/
def clauseWords : List String := ["where", "order", "limit", "offset", "for", "returning"]

/-- Ends what is under way: a parenthesis that closes, or one of some words. -/
def ends (words : List String) : Token → Bool
  | .symbol c => c = ')'
  | .word text => words.contains text
  | _ => false

/-- How many parentheses are open behind a token. -/
def depthBehind (depth : Nat) : Token → Nat
  | .symbol c => if c = '(' then depth + 1 else if c = ')' then depth - 1 else depth
  | _ => depth

/-- Takes tokens up to one that ends an expression outside of all parentheses. -/
def span : (depth : Nat) → List Token → List Token × List Token
  | _, [] => ([], [])
  | depth, t :: rest =>
      if depth = 0 && ends clauseWords t then ([], t :: rest)
      else
        let (taken, behind) := span (depthBehind depth t) rest
        (t :: taken, behind)

/-- An expression, as its tokens. -/
def expression : Grammar (List Token) := fun ts => some (span 0 ts)

/-- The value of all tokens of a text. -/
def read? (g : Grammar α) (sql : String) : Option α := do
  let (a, rest) ← g (← tokens? sql)
  guard rest.isEmpty
  return a

/-! ## Reading pieces -/

/-- A grammar reads the text of pieces, with any `rest` of this kind behind it, as a value;
`n` is the number of the next placeholder. -/
def Reads (g : Grammar α) (n : Nat) (ps : List Piece) (a : α) (rest : List Token) : Prop :=
  g (tokensFrom n ps ++ rest) = some (a, rest)

/-- Nothing, or something that ends what is under way. -/
def IsEnd (words : List String) (ts : List Token) : Prop :=
  ∀ t ∈ ts.head?, ends words t = true

theorem isEnd_nil (words : List String) : IsEnd words [] := by
  intro t ht
  simp at ht

theorem isEnd_cons {words : List String} {t : Token} (h : ends words t = true)
    (rest : List Token) : IsEnd words (t :: rest) := by
  intro t' ht'
  rw [List.head?_cons, Option.mem_def, Option.some.injEq] at ht'
  exact ht' ▸ h

theorem IsEnd.mono {words more : List String} {ts : List Token} (h : IsEnd words ts)
    (hsub : words ⊆ more) : IsEnd more ts := by
  intro t ht
  have hend := h t ht
  cases t with
  | symbol c => exact hend
  | word text =>
    simp only [ends, List.contains_eq_mem, decide_eq_true_eq] at hend ⊢
    exact hsub hend
  | _ => simp [ends] at hend

/-- Fixed text does not stand where the tokens are others. -/
theorem sees_of_not_front {sql : String} {ts : List Token}
    (h : ¬ (tokens? sql).getD [] <+: ts) : sees sql ts = some (false, ts) := by
  rw [sees, phrase, if_neg h]

/-- Fixed text has another token at some place. -/
theorem sees_getElem {s : String} {ts : List Token} {i : Nat} {a b : Token}
    (hs : ((tokens? s).getD [])[i]? = some a) (hts : ts[i]? = some b) (hne : a ≠ b) :
    sees s ts = some (false, ts) := by
  apply sees_of_not_front
  rintro ⟨behind, rfl⟩
  have hlength : i < ((tokens? s).getD []).length := (List.getElem?_eq_some_iff.1 hs).1
  rw [List.getElem?_append_left hlength, hs] at hts
  exact hne (Option.some.inj hts)

/-- Fixed text that starts with a word does not stand where that word ends nothing. -/
theorem sees_isEnd {words : List String} {ts : List Token} (h : IsEnd words ts) {s w : String}
    (hs : ((tokens? s).getD [])[0]? = some (.word w)) (hw : w ∉ words) :
    sees s ts = some (false, ts) := by
  cases ts with
  | nil =>
    apply sees_of_not_front
    rw [List.prefix_nil]
    intro hnil
    simp [hnil] at hs
  | cons t ts =>
    refine sees_getElem hs rfl ?_
    rintro rfl
    have hend := h _ rfl
    simp only [ends, List.contains_eq_mem, decide_eq_true_eq] at hend
    exact hw hend

/-- The list ends where no comma stands. -/
theorem sees_comma_of_isEnd {words : List String} {ts : List Token} (h : IsEnd words ts) :
    sees ", " ts = some (false, ts) := by
  have hnot : ¬ [Token.symbol ','] <+: ts := by
    rintro ⟨behind, rfl⟩
    have hend := h _ rfl
    simp [ends] at hend
  exact sees_of_not_front hnot

namespace Reads

variable {n : Nat} {rest : List Token}

theorem pure (a : α) : Reads (pure a) n [] a rest := rfl

/-- A part and what is read behind it. -/
theorem bind {g : Grammar α} {f : α → Grammar β} {p q : List Piece} {a : α} {b : β}
    (hg : Reads g n p a (tokensFrom (n + (params p).length) q ++ rest))
    (hf : Reads (f a) (n + (params p).length) q b rest) :
    Reads (g >>= f) n (p ++ q) b rest := by
  show (g (tokensFrom n (p ++ q) ++ rest)).bind (fun r => f r.1 r.2) = _
  rw [tokensFrom_append, List.append_assoc, show g _ = _ from hg]
  exact hf

/-- Behind a part without parameters the number stays. -/
theorem bind_quiet {g : Grammar α} {f : α → Grammar β} {ps qs : List Piece} {a : α} {b : β}
    (hps : params ps = []) (hg : Reads g n ps a (tokensFrom n qs ++ rest))
    (hf : Reads (f a) n qs b rest) : Reads (g >>= f) n (ps ++ qs) b rest := by
  have hn : n + (params ps).length = n := by rw [hps, List.length_nil, Nat.add_zero]
  exact bind (by rwa [hn]) (by rwa [hn])

/-- A part at the end. -/
theorem map {g : Grammar α} {f : α → Grammar β} {p : List Piece} {a : α} {b : β}
    (hg : Reads g n p a rest) (hf : ∀ m, Reads (f a) m [] b rest) :
    Reads (g >>= f) n p b rest := by
  rw [← List.append_nil p]
  exact bind hg (hf _)

theorem phrase_self (sql : String) : Reads (phrase sql) n [.text sql] () rest := by
  have htokens : tokensFrom n [.text sql] = (tokens? sql).getD [] := List.append_nil _
  rw [Reads, htokens, phrase, if_pos (List.prefix_append _ _), List.drop_left]

theorem phrase {f : Unit → Grammar β} {qs : List Piece} {b : β} {sql : String}
    (h : Reads (f ()) n qs b rest) :
    Reads (Grammar.phrase sql >>= f) n (.text sql :: qs) b rest :=
  bind (p := [.text sql]) (phrase_self sql) h

theorem sees_self (sql : String) : Reads (sees sql) n [.text sql] true rest := by
  rw [Reads, sees, show Grammar.phrase sql _ = _ from phrase_self sql]

theorem sees {f : Bool → Grammar β} {qs : List Piece} {b : β} {s : String}
    (h : Reads (f true) n qs b rest) :
    Reads (Grammar.sees s >>= f) n (.text s :: qs) b rest :=
  bind (p := [.text s]) (sees_self s) h

/-- Something else stands where fixed text may stand. -/
theorem sees_not {f : Bool → Grammar β} {qs : List Piece} {b : β} {sql : String}
    (hsees : Grammar.sees sql (tokensFrom n qs ++ rest) = some (false, tokensFrom n qs ++ rest))
    (h : Reads (f false) n qs b rest) : Reads (Grammar.sees sql >>= f) n qs b rest :=
  bind (p := []) hsees h

theorem name {f : String → Grammar β} {qs : List Piece} {b : β} {s : String}
    (h : Reads (f s) n qs b rest) : Reads (Grammar.name >>= f) n (.name s :: qs) b rest :=
  bind (p := [.name s]) rfl h

theorem quotedName {f : String → Grammar β} {qs : List Piece} {b : β} {s : String}
    (h : Reads (f s) n qs b rest) :
    Reads (Grammar.quotedName >>= f) n (.identifier s :: qs) b rest :=
  bind (p := [.identifier s]) rfl h

theorem number_self (k : Nat) : Reads number n [.number k] k rest := by
  show some (Nat.ofDigitChars 10 (toString k).toList 0, rest) = _
  rw [Nat.toString_eq_repr, Nat.toList_repr, Nat.ofDigitChars_ten_toDigits]

end Reads

/-! ## Lists -/

theorem length_le_tokensFrom_flatMap (f : β → List Piece) (xs : List β) (n : Nat) :
    xs.length ≤ (tokensFrom n (xs.flatMap fun x => .text ", " :: f x)).length := by
  induction xs generalizing n with
  | nil => exact Nat.zero_le _
  | cons x xs ih =>
    have hcomma : tokensFrom n (.text ", " :: f x) = .symbol ',' :: tokensFrom n (f x) := rfl
    have hrest := ih (n + (params (.text ", " :: f x)).length)
    rw [List.flatMap_cons, tokensFrom_append, hcomma, List.length_append, List.length_cons,
      List.length_cons]
    omega

/-- Parts are read behind their commas when each is read before a comma and before what stands
behind all of them. -/
theorem reads_behindCommas {g : Grammar α} {f : β → List Piece} {view : β → α} {xs : List β}
    {n : Nat} {rest : List Token} (P : List Token → Prop)
    (hcomma : ∀ ts, P (.symbol ',' :: ts)) (hrest : P rest)
    (hend : sees ", " rest = some (false, rest))
    (h : ∀ x ∈ xs, ∀ m ts, P ts → Reads g m (f x) (view x) ts) :
    Reads (behindCommas g) n (xs.flatMap fun x => .text ", " :: f x) (xs.map view) rest := by
  have hbelow : ∀ bound, xs.length < bound →
      Reads (behindCommasBelow g bound) n (xs.flatMap fun x => .text ", " :: f x)
        (xs.map view) rest := by
    intro bound hbound
    induction xs generalizing n bound with
    | nil =>
      obtain ⟨bound, rfl⟩ : ∃ b, bound = b + 1 := ⟨bound - 1, by omega⟩
      exact .sees_not hend (.pure _)
    | cons x xs ih =>
      obtain ⟨bound, rfl⟩ : ∃ b, bound = b + 1 := ⟨bound - 1, by omega⟩
      -- What stands behind a part is the next comma or the end.
      have hbehind : ∀ m, P (tokensFrom m (xs.flatMap fun x => .text ", " :: f x) ++ rest) := by
        intro m
        cases xs with
        | nil => exact hrest
        | cons y ys => exact hcomma _
      have hmore := fun m => ih (n := m) (fun y hy => h y (List.mem_cons_of_mem x hy)) bound
        (by simpa using hbound)
      rw [List.flatMap_cons, List.cons_append, List.map_cons]
      exact .sees (.bind (h x List.mem_cons_self n _ (hbehind _)) (.map (hmore _) fun _ => .pure _))
  have hlength := length_le_tokensFrom_flatMap f xs n
  show behindCommasBelow g _ _ = _
  apply hbelow
  rw [List.length_append]
  omega

/-- A list starts with its first part. -/
theorem separated_cons (p : Piece) (first : List Piece) (rest : List (List Piece)) :
    separated p (first :: rest) = first ++ rest.flatMap (p :: ·) := by
  induction rest generalizing first with
  | nil => rw [separated, List.flatMap_nil, List.append_nil]
  | cons next rest ih =>
    rw [separated, ih, List.flatMap_cons, List.cons_append]
    simp

theorem reads_list {g : Grammar α} {f : β → List Piece} {v : β → α} {xs : List β}
    {n : Nat} {rest : List Token} (hne : xs ≠ []) (P : List Token → Prop)
    (hcomma : ∀ ts, P (.symbol ',' :: ts)) (hrest : P rest)
    (hend : sees ", " rest = some (false, rest))
    (h : ∀ x ∈ xs, ∀ m ts, P ts → Reads g m (f x) (v x) ts) :
    Reads (list g) n (separated (.text ", ") (xs.map f)) (xs.map v) rest := by
  cases xs with
  | nil => exact absurd rfl hne
  | cons x xs =>
    have hmore : ∀ m, Reads (behindCommas g) m (xs.flatMap fun x => .text ", " :: f x)
        (xs.map v) rest :=
      fun m => reads_behindCommas P hcomma hrest hend fun y hy => h y (List.mem_cons_of_mem x hy)
    have hbehind : ∀ m, P (tokensFrom m (xs.flatMap fun x => .text ", " :: f x) ++ rest) := by
      intro m
      cases xs with
      | nil => exact hrest
      | cons y ys => exact hcomma _
    rw [List.map_cons, separated_cons, List.flatMap_map, List.map_cons]
    exact .bind (h x List.mem_cons_self n _ (hbehind _)) (.map (hmore _) fun _ => .pure _)

/-! ## Expressions -/

/-- Tokens that stay inside the parentheses around them, whatever stands behind. -/
def Stays (ts : List Token) : Prop :=
  ∀ depth rest, span (depth + 1) (ts ++ rest) =
    (ts ++ (span (depth + 1) rest).1, (span (depth + 1) rest).2)

namespace Stays

theorem nil : Stays [] := fun _ _ => rfl

theorem append {a b : List Token} (ha : Stays a) (hb : Stays b) : Stays (a ++ b) := by
  intro depth rest
  rw [List.append_assoc, ha, hb, List.append_assoc]

/-- A token that is no parenthesis. -/
theorem cons {t : Token} {ts : List Token} (ht : t ≠ .symbol '(' ∧ t ≠ .symbol ')')
    (hts : Stays ts) : Stays (t :: ts) := by
  intro depth rest
  have hdepth : depthBehind (depth + 1) t = depth + 1 := by
    cases t with
    | symbol c =>
      have hopen : c ≠ '(' := fun h => ht.1 (h ▸ rfl)
      have hclose : c ≠ ')' := fun h => ht.2 (h ▸ rfl)
      rw [depthBehind, if_neg hopen, if_neg hclose]
    | _ => rfl
  have hdeep : ¬ (decide (depth + 1 = 0) && ends clauseWords t) = true := by simp
  rw [List.cons_append, span, if_neg hdeep, hdepth, hts]
  rfl

theorem of_forall {ts : List Token} (h : ∀ t ∈ ts, t ≠ .symbol '(' ∧ t ≠ .symbol ')') :
    Stays ts := by
  induction ts with
  | nil => exact nil
  | cons t ts ih =>
    exact cons (h t List.mem_cons_self) (ih fun u hu => h u (List.mem_cons_of_mem t hu))

end Stays

/-- A parenthesis is taken with what stays inside, at any depth. -/
theorem span_parens {inner : List Token} (h : Stays inner) (depth : Nat) (rest : List Token) :
    span depth (.symbol '(' :: inner ++ [.symbol ')'] ++ rest) =
      (.symbol '(' :: inner ++ [.symbol ')'] ++ (span depth rest).1, (span depth rest).2) := by
  have hopen : ∀ ts, span depth (.symbol '(' :: ts) =
      (.symbol '(' :: (span (depth + 1) ts).1, (span (depth + 1) ts).2) := by
    intro ts
    have hgo : ¬ (decide (depth = 0) && ends clauseWords (.symbol '(')) = true := by
      simp [ends]
    rw [span, if_neg hgo]
    rfl
  have hclose : ∀ ts, span (depth + 1) (.symbol ')' :: ts) =
      (.symbol ')' :: (span depth ts).1, (span depth ts).2) := by
    intro ts
    have hgo : ¬ (decide (depth + 1 = 0) && ends clauseWords (.symbol ')')) = true := by simp
    rw [span, if_neg hgo]
    rfl
  rw [List.cons_append, List.cons_append, List.append_assoc, hopen, h, List.singleton_append,
    hclose]
  simp

theorem Stays.parens {inner : List Token} (h : Stays inner) :
    Stays (.symbol '(' :: inner ++ [.symbol ')']) :=
  fun depth rest => span_parens h (depth + 1) rest

/-- An expression in parentheses is read up to what ends it. -/
theorem expression_parens {inner rest : List Token} (h : Stays inner)
    (hrest : IsEnd clauseWords rest) :
    expression (.symbol '(' :: inner ++ [.symbol ')'] ++ rest) =
      some (.symbol '(' :: inner ++ [.symbol ')'], rest) := by
  have hstop : span 0 rest = ([], rest) := by
    cases rest with
    | nil => rfl
    | cons t rest =>
      have hend := hrest t rfl
      rw [span, hend]
      rfl
  rw [expression, span_parens h, hstop, List.append_nil]

end Grammar

end DocStore.Sql
