import DocStore.Proofs.Query.Placeholder
import DocStore.Proofs.Sql.BoolExpr

/-!
# Reading a filter

The server reads the text of a filter as a boolean expression.  This module says
which one: the atoms are the conditions, whole, and the connectives are those of
the filter, nested as they are there.

* A condition is one atom: `takes_pieces`.
* A filter reads as `Filter.expr`: `readBool?_filter`, by recursion over the filter.
* The atoms are the conditions from left to right: `atoms_expr`.
-/

namespace DocStore

open Sql Sql.Reader

/-! ## Conditions are atoms -/

/-- The steps into a document are operators and the names between them. -/
theorem tokensFrom_steps {last : String} (hlast : last = "->" ∨ last = "->>")
    (segments : List String) (n : Nat) :
    ∀ t ∈ tokensFrom n (FieldPath.steps last segments),
      (∃ s, t = .operator s) ∨ ∃ s, t = .quoted .literal s := by
  fun_induction FieldPath.steps last segments with
  | case1 => simp [tokensFrom]
  | case2 s =>
    have htokens : tokensFrom n [.text last, .literal s] = [.operator last, .quoted .literal s] := by
      rcases hlast with rfl | rfl <;> rfl
    simp [htokens]
  | case3 s rest hrest ih =>
    have htokens : tokensFrom n (.text "->" :: .literal s :: FieldPath.steps last rest) =
        .operator "->" :: .quoted .literal s :: tokensFrom n (FieldPath.steps last rest) := rfl
    intro t ht
    rw [htokens, List.mem_cons, List.mem_cons] at ht
    rcases ht with rfl | rfl | ht
    · exact Or.inl ⟨_, rfl⟩
    · exact Or.inr ⟨_, rfl⟩
    · exact ih t ht

theorem role_steps {last : String} (hlast : last = "->" ∨ last = "->>") (segments : List String)
    (n : Nat) : ∀ t ∈ tokensFrom n (FieldPath.steps last segments), t.role = .operand := by
  intro t ht
  rcases tokensFrom_steps hlast segments n t ht with ⟨s, rfl⟩ | ⟨s, rfl⟩
  · rfl
  · rfl

/-- A field is an operand, whichever form it is read in. -/
theorem role_fieldPieces (c : Condition) (n : Nat) :
    tokensFrom n (c.fieldPieces dataColumn) ≠ [] ∧
      ∀ t ∈ tokensFrom n (c.fieldPieces dataColumn), t.role = .operand := by
  have hcolumn : ∀ steps, tokensFrom n (.text dataColumn :: steps) =
      .word "data" :: tokensFrom n steps := fun steps => rfl
  have hword : (Token.word "data").role = .operand := by decide
  rw [Condition.fieldPieces]
  split
  · rw [FieldPath.asJson, hcolumn]
    exact ⟨List.cons_ne_nil _ _, List.forall_mem_cons.2 ⟨hword, role_steps (Or.inl rfl) _ n⟩⟩
  · rw [FieldPath.asText, hcolumn]
    exact ⟨List.cons_ne_nil _ _, List.forall_mem_cons.2 ⟨hword, role_steps (Or.inr rfl) _ n⟩⟩

/-- Behind the field: a comparison of a type with one operand, as tokens. -/
def castTokens (type operator : String) (n : Nat) : List Token :=
  [.cast, .word type, .operator operator, .placeholder n, .cast, .word type]

/-- What an operator compares the field with, as tokens. -/
def Operator.tokens (n : Nat) : Operator → List Token
  | eq => [.operator "=", .placeholder n]
  | neq => [.operator "!=", .placeholder n]
  | lt => castTokens "numeric" "<" n
  | lte => castTokens "numeric" "<=" n
  | gt => castTokens "numeric" ">" n
  | gte => castTokens "numeric" ">=" n
  | before => castTokens "timestamptz" "<" n
  | after => castTokens "timestamptz" ">" n
  | between =>
      [.cast, .word "numeric"] ++
        (.word "between" :: [.placeholder n, .cast, .word "numeric"] ++
          .word "and" :: [.placeholder (n + 1), .cast, .word "numeric"])
  | contains => castTokens "jsonb" "@>" n
  | hasKey => [.cast, .word "jsonb", .operator "?", .placeholder n]
  | hasAnyKey =>
      [.cast, .word "jsonb", .operator "?|", .placeholder n, .cast, .word "text", .symbol '[',
        .symbol ']']
  | includes =>
      [.operator "=", .word "any"] ++
        parens [.placeholder n, .cast, .word "text", .symbol '[', .symbol ']']
  | isNull => [.word "is", .word "null"]
  | unknown _ => []

/-- A comparison closes the parenthesis of the field and goes on. -/
theorem tokensFrom_comparison {c : Condition} (h : c.isFitting = true) (n : Nat) :
    tokensFrom n (Condition.comparison c.operator c.operands) =
      .symbol ')' :: c.operator.tokens n := by
  obtain ⟨field, operator, operands⟩ := c
  rcases Condition.isFitting_cases h with
    ⟨a, rfl, hop⟩ | ⟨low, high, rfl, rfl⟩ | ⟨rfl, rfl⟩ | rfl | rfl
  · simp only [List.mem_cons, List.not_mem_nil, or_false] at hop
    rcases hop with rfl | rfl | rfl | rfl | rfl | rfl | rfl | rfl | rfl | rfl <;> rfl
  · rfl
  · rfl
  · rfl
  · rfl

/-- A comparison is taken into the atom, with the parentheses and the `AND` that it holds. -/
theorem takes_operator {op : Operator} (h : op.isKnown = true) (n : Nat) :
    Takes (op.tokens n) := by
  cases op with
  | unknown name => simp [Operator.isKnown] at h
  | between =>
    apply takes_between (List.cons_ne_nil _ _) (List.cons_ne_nil _ _) (List.cons_ne_nil _ _)
    simp [Token.role]
  | includes =>
    refine takes_append_parens (List.cons_ne_nil _ _) ?_ ?_ (List.cons_ne_nil _ _)
    · simp [Token.role]
    · exact takes_operands (List.cons_ne_nil _ _) (by decide)
  | _ =>
    refine takes_operands (List.cons_ne_nil _ _) ?_
    simp [Operator.tokens, castTokens, Token.role]

/-- A condition that fits reads as its field in parentheses and what it is compared with. -/
theorem tokensFrom_pieces_of_isFitting {c : Condition} (h : c.isFitting = true) (n : Nat) :
    tokensFrom n (c.pieces dataColumn) =
      parens (tokensFrom n (c.fieldPieces dataColumn)) ++ c.operator.tokens n := by
  have hopen : ∀ ps, tokensFrom n (.text "(" :: ps) = .symbol '(' :: tokensFrom n ps :=
    fun ps => rfl
  rw [Condition.pieces_of_isFitting h, List.cons_append, hopen, tokensFrom_append,
    params_fieldPieces, List.length_nil, Nat.add_zero, tokensFrom_comparison h, parens]
  simp

/-- One that does not fit reads as the call that stands for it. -/
theorem tokensFrom_pieces_of_not_isFitting {c : Condition} (h : c.isFitting = false) (n : Nat) :
    tokensFrom n (c.pieces dataColumn) =
      [.word "invalid_condition"] ++ parens [.quoted .literal c.reason] := by
  rw [Condition.pieces_of_not_isFitting h]
  rfl

/-- A condition is one atom. -/
theorem takes_pieces (c : Condition) (n : Nat) : Takes (tokensFrom n (c.pieces dataColumn)) := by
  cases h : c.isFitting with
  | true =>
    have hknown : c.operator.isKnown = true := by
      rw [Condition.isFitting, Bool.and_eq_true] at h
      exact h.1
    obtain ⟨hne, hrole⟩ := role_fieldPieces c n
    rw [tokensFrom_pieces_of_isFitting h]
    exact takes_parens_append hne hrole (takes_operator hknown n)
  | false =>
    rw [tokensFrom_pieces_of_not_isFitting h]
    refine takes_append_parens (List.cons_ne_nil _ _) ?_ ?_ (List.cons_ne_nil _ _)
    · simp [Token.role]
    · exact takes_operands (List.cons_ne_nil _ _) (by decide)

/-- Something stands where a condition is. -/
theorem tokensFrom_pieces_ne_nil (c : Condition) (n : Nat) :
    tokensFrom n (c.pieces dataColumn) ≠ [] := by
  cases h : c.isFitting with
  | true =>
    rw [Condition.pieces_of_isFitting h]
    exact List.cons_ne_nil _ _
  | false =>
    rw [Condition.pieces_of_not_isFitting h]
    exact List.cons_ne_nil _ _

/-! ## Filters are expressions -/

mutual

/-- The expression that a filter is, `n` being the number of the next placeholder. -/
def Filter.expr (n : Nat) : Filter → BoolExpr
  | .atom c => .atom (tokensFrom n (c.pieces dataColumn))
  | .joined operator parts => .join operator (Filter.exprs n parts)

/-- The expressions of several filters. -/
def Filter.exprs (n : Nat) : List Filter → List BoolExpr
  | [] => []
  | f :: rest =>
      f.expr n :: Filter.exprs (n + (params (f.pieces dataColumn)).length) rest

end

mutual

/-- No connective of a filter is without operands. -/
def Filter.IsFull : Filter → Prop
  | .atom _ => True
  | .joined _ parts => parts ≠ [] ∧ Filter.AllFull parts

def Filter.AllFull : List Filter → Prop
  | [] => True
  | f :: rest => f.IsFull ∧ Filter.AllFull rest

end

theorem Filter.allFull_append {a b : List Filter} (ha : Filter.AllFull a)
    (hb : Filter.AllFull b) : Filter.AllFull (a ++ b) := by
  induction a with
  | nil => exact hb
  | cons f a ih =>
    rw [Filter.AllFull] at ha
    rw [List.cons_append, Filter.AllFull]
    exact ⟨ha.1, ih ha.2⟩

theorem Filter.allFull_map_atom (cs : List Condition) :
    Filter.AllFull (cs.map Filter.atom) := by
  induction cs with
  | nil => rw [List.map_nil, Filter.AllFull]; trivial
  | cons c cs ih =>
    rw [List.map_cons, Filter.AllFull, Filter.IsFull]
    exact ⟨trivial, ih⟩

mutual

/-- Empty groups are left out of the filter of a tree. -/
theorem isFull_filter? : ∀ (g : ConditionGroup) {f : Filter}, g.filter? = some f → f.IsFull
  | ⟨operator, conditions, groups⟩, f, h => by
    rw [ConditionGroup.filter?] at h
    split at h
    · simp at h
    · rename_i hne
      rw [← Option.some.inj h, Filter.IsFull]
      exact ⟨hne, Filter.allFull_append (Filter.allFull_map_atom conditions)
        (allFull_filters groups)⟩

theorem allFull_filters :
    ∀ gs : List ConditionGroup, Filter.AllFull (ConditionGroup.filters gs)
  | [] => by
    rw [ConditionGroup.filters, Filter.AllFull]
    trivial
  | g :: rest => by
    rw [ConditionGroup.filters]
    cases h : g.filter? with
    | none => exact allFull_filters rest
    | some f =>
      show Filter.AllFull (f :: ConditionGroup.filters rest)
      rw [Filter.AllFull]
      exact ⟨isFull_filter? g h, allFull_filters rest⟩

end

/-- The text between operands is their connective. -/
theorem tokensFrom_connective (operator : Connective) :
    ∃ t : Token, (∀ n ps, tokensFrom n (.text (" " ++ operator.word ++ " ") :: ps) =
      t :: tokensFrom n ps) ∧ t.role = .connective operator := by
  cases operator with
  | and => exact ⟨.word "and", fun n ps => rfl, by decide⟩
  | or => exact ⟨.word "or", fun n ps => rfl, by decide⟩

mutual

/-- At the start of an operand the reader takes a filter as that operand. -/
theorem run?_filter : ∀ (f : Filter), f.IsFull → ∀ (n : Nat) (fr : Frame) (outer : List Frame),
    fr.part = .tokens [] → fr.between = false →
    ∃ part, part.finish? = some (f.expr n) ∧
      run? ⟨fr, outer⟩ (tokensFrom n (f.pieces dataColumn)) =
        some ⟨{ fr with part, raw := fr.raw ++ tokensFrom n (f.pieces dataColumn) }, outer⟩
  | .atom c, _, n, fr, outer, hpart, hbetween => by
    refine ⟨.tokens (tokensFrom n (c.pieces dataColumn)), ?_, ?_⟩
    · rw [Filter.expr]
      cases h : tokensFrom n (c.pieces dataColumn) with
      | nil => exact absurd h (tokensFrom_pieces_ne_nil c n)
      | cons t rest => rfl
    · rw [Filter.pieces, takes_pieces c n fr outer hbetween, Frame.push, hpart]
      rfl
  | .joined operator parts, hfull, n, fr, outer, hpart, hbetween => by
    rw [Filter.IsFull] at hfull
    obtain ⟨front, last, part, hexprs, hlast, hrun⟩ :=
      run?_filters operator parts hfull.1 hfull.2 n [] [] (fr :: outer)
    have hstart : Frame.collecting operator [] [] = .start := by
      cases operator <;> rfl
    have htokens : tokensFrom n (Filter.pieces dataColumn (.joined operator parts)) =
        parens (tokensFrom n (Filter.piecesOf dataColumn operator parts)) := by
      rw [Filter.pieces, List.cons_append, tokensFrom, tokensFrom_append, parens]
      rfl
    have hclose := Frame.close?_collected hlast operator front
      (tokensFrom n (Filter.piecesOf dataColumn operator parts))
    rw [hstart, List.nil_append, List.nil_append] at hrun
    rw [← hexprs] at hclose
    refine ⟨fr.part.enclose (tokensFrom n (Filter.piecesOf dataColumn operator parts))
      (.join operator (Filter.exprs n parts)), ?_, ?_⟩
    · rw [hpart, Filter.expr]
      rfl
    · rw [htokens, run?_parens hrun ?_ hclose, Frame.enclose]
      cases operator <;> rfl

/-- Behind a connective, or at the start of a level, the reader takes filters with the connective
between them as the operands that are left. -/
theorem run?_filters (operator : Connective) : ∀ (parts : List Filter), parts ≠ [] →
    Filter.AllFull parts → ∀ (n : Nat) (operands : List BoolExpr) (raw : List Token)
    (outer : List Frame), ∃ front last part,
      Filter.exprs n parts = front ++ [last] ∧ part.finish? = some last ∧
      run? ⟨.collecting operator operands raw, outer⟩
          (tokensFrom n (Filter.piecesOf dataColumn operator parts)) =
        some ⟨.collected operator (operands ++ front) part
          (raw ++ tokensFrom n (Filter.piecesOf dataColumn operator parts)), outer⟩
  | [], hne, _, _, _, _, _ => absurd rfl hne
  | [f], _, hfull, n, operands, raw, outer => by
    rw [Filter.AllFull] at hfull
    obtain ⟨part, hfinish, hrun⟩ := run?_filter f hfull.1 n (.collecting operator operands raw)
      outer (by cases operator <;> rfl) (by cases operator <;> rfl)
    refine ⟨[], f.expr n, part, rfl, hfinish, ?_⟩
    rw [Filter.piecesOf, hrun, List.append_nil]
    cases operator <;> rfl
  | f :: g :: rest, _, hfull, n, operands, raw, outer => by
    rw [Filter.AllFull] at hfull
    obtain ⟨part, hfinish, hrun⟩ := run?_filter f hfull.1 n (.collecting operator operands raw)
      outer (by cases operator <;> rfl) (by cases operator <;> rfl)
    obtain ⟨t, htoken, hrole⟩ := tokensFrom_connective operator
    obtain ⟨front, last, part', hexprs, hlast, hrest⟩ :=
      run?_filters operator (g :: rest) (List.cons_ne_nil g rest) hfull.2
        (n + (params (f.pieces dataColumn)).length) (operands ++ [f.expr n])
        (raw ++ tokensFrom n (f.pieces dataColumn) ++ [t]) outer
    have hconnect : step? ⟨.collected operator operands part
          (raw ++ tokensFrom n (f.pieces dataColumn)), outer⟩ t =
        some ⟨.collecting operator (operands ++ [f.expr n])
          (raw ++ tokensFrom n (f.pieces dataColumn) ++ [t]), outer⟩ := by
      rw [step?, hrole]
      show ((Frame.collected operator operands part _).connect? operator t).map _ = _
      rw [Frame.connect?_collected hfinish]
      rfl
    refine ⟨f.expr n :: front, last, part', ?_, hlast, ?_⟩
    · rw [Filter.exprs, hexprs, List.cons_append]
    · have hfirst : run? ⟨.collecting operator operands raw, outer⟩
          (tokensFrom n (f.pieces dataColumn)) =
          some ⟨.collected operator operands part
            (raw ++ tokensFrom n (f.pieces dataColumn)), outer⟩ := by
        rw [hrun]
        cases operator <;> rfl
      rw [Filter.piecesOf, tokensFrom_append, htoken, run?_append hfirst, run?_cons, hconnect,
        Option.bind_some, hrest]
      · simp
      · simp

end

/-- The tokens of a filter read as its expression. -/
theorem readBool?_filter {f : Filter} (h : f.IsFull) (n : Nat) :
    readBool? (tokensFrom n (f.pieces dataColumn)) = some (f.expr n) := by
  obtain ⟨part, hfinish, hrun⟩ := run?_filter f h n .start [] rfl rfl
  rw [readBool?, hrun]
  show (Frame.collected .and [] part _).close? = _
  rw [Frame.close?_collected hfinish]
  rfl

/-! ## The atoms of a filter -/

/-- The tokens of conditions that are bound one after the other, `n` being the number of the
next placeholder. -/
def atomTokens (n : Nat) : List Condition → List (List Token)
  | [] => []
  | c :: rest =>
      tokensFrom n (c.pieces dataColumn) ::
        atomTokens (n + (params (c.pieces dataColumn)).length) rest

theorem atomTokens_append (n : Nat) (a b : List Condition) :
    atomTokens n (a ++ b) =
      atomTokens n a ++
        atomTokens (n + (a.flatMap (conditionView Piece.param?)).length) b := by
  induction a generalizing n with
  | nil => rfl
  | cons c a ih =>
    rw [List.cons_append, atomTokens, atomTokens, ih, List.flatMap_cons, List.length_append,
      ← Nat.add_assoc, List.cons_append]
    rfl

theorem length_atomTokens (n : Nat) (cs : List Condition) :
    (atomTokens n cs).length = cs.length := by
  induction cs generalizing n with
  | nil => rfl
  | cons c cs ih => rw [atomTokens, List.length_cons, List.length_cons, ih]

mutual

/-- The atoms of a filter are its conditions. -/
theorem atoms_expr : ∀ (f : Filter) (n : Nat), (f.expr n).atoms = atomTokens n f.atoms
  | .atom c, n => by
    rw [Filter.expr, Filter.atoms, atomTokens, atomTokens, BoolExpr.atoms]
  | .joined operator parts, n => by
    rw [Filter.expr, Filter.atoms, BoolExpr.atoms_join, atoms_exprs parts]

theorem atoms_exprs :
    ∀ (parts : List Filter) (n : Nat),
      BoolExpr.atomsOf (Filter.exprs n parts) = atomTokens n (Filter.atomsOf parts)
  | [], n => by
    rw [Filter.exprs, Filter.atomsOf, BoolExpr.atomsOf, atomTokens]
  | f :: rest, n => by
    rw [Filter.exprs, Filter.atomsOf, BoolExpr.atomsOf, atomTokens_append, atoms_expr f,
      atoms_exprs rest, ← filterMap_filter isQuiet_param?, params]

end

/-- Conditions are worth what they are assigned. -/
theorem values_map_atom (v : Nat → Truth) (cs : List Condition) (n k : Nat) :
    BoolExpr.values v k (Filter.exprs n (cs.map Filter.atom)) =
      (List.range' k cs.length).map v := by
  induction cs generalizing n k with
  | nil => rfl
  | cons c cs ih =>
    rw [List.map_cons, Filter.exprs, Filter.expr, BoolExpr.values, BoolExpr.value, ih,
      List.length_cons, List.range'_succ, List.map_cons]
    rfl

theorem exprs_append (n : Nat) (a b : List Filter) :
    ∃ m, Filter.exprs n (a ++ b) = Filter.exprs n a ++ Filter.exprs m b := by
  induction a generalizing n with
  | nil => exact ⟨n, rfl⟩
  | cons f a ih =>
    obtain ⟨m, h⟩ := ih (n + (params (f.pieces dataColumn)).length)
    refine ⟨m, ?_⟩
    rw [List.cons_append, Filter.exprs, Filter.exprs, h, List.cons_append]

end DocStore
