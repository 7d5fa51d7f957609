import DocStore.Proofs.Query.Meaning

/-!
# Checking and compiling agree

Checking walks the tree of conditions and stops at the first one it rejects.
Compiling never stops: what does not fit becomes a call of `invalid_condition`,
which no server has.  Both decide alike, at every depth.

* An operand is looked up only where it is known to be: `piecesByPlace?_eq`.
* What checking says of one condition: `validate_of_not_isFitting` and
  `validate_of_isFitting`; of a tree, level by level: `validate_levels`.
* The calls in the text are those of the conditions that do not fit, in the
  order of the tree and whatever the quoted texts hold: `argumentsOf_tokensFrom`.
-/

namespace DocStore

open Sql

/-! ## One condition -/

namespace Condition

/-- The condition over a column, the operands taken by their place once their number has been
compared; none if a place is beyond the last operand. -/
def piecesByPlace? (column : String) (c : Condition) : Option (List Piece) :=
  let text := c.field.asText column
  let json := c.field.asJson column
  let operand (place : Nat) : Option Json := c.operands[place]?
  if c.operator.arity?.any (· ≠ c.operands.length) then some (invalid c.reason)
  else
    match c.operator with
    | .eq => (operand 0).map fun a => .text "(" :: text ++ [.text ") = ", bound a]
    | .neq => (operand 0).map fun a => .text "(" :: text ++ [.text ") != ", bound a]
    | .lt => (operand 0).map (cast text "numeric" "<")
    | .lte => (operand 0).map (cast text "numeric" "<=")
    | .gt => (operand 0).map (cast text "numeric" ">")
    | .gte => (operand 0).map (cast text "numeric" ">=")
    | .between =>
        (operand 0).bind fun low => (operand 1).map fun high =>
          .text "(" :: text ++ [.text ")::numeric BETWEEN ", bound low, .text "::numeric AND ",
            bound high, .text "::numeric"]
    | .before => (operand 0).map (cast text "timestamptz" "<")
    | .after => (operand 0).map (cast text "timestamptz" ">")
    | .contains =>
        (operand 0).map fun a =>
          .text "(" :: json ++ [.text ")::jsonb @> ", .param (.text (Json.array [a]).text),
            .text "::jsonb"]
    | .includes =>
        some (.text "(" :: text ++ [.text ") = ANY(", boundArray c.operands, .text "::text[])"])
    | .hasKey => (operand 0).map fun a => .text "(" :: json ++ [.text ")::jsonb ? ", bound a]
    | .hasAnyKey =>
        some (.text "(" :: json ++
          [.text ")::jsonb ?| ", boundArray c.operands, .text "::text[]"])
    | .isNull => some (.text "(" :: text ++ [.text ") IS NULL"])
    | .unknown _ => some (invalid c.reason)

/-- A condition does not fit when its operator is unknown or takes another number of operands. -/
theorem not_isFitting (c : Condition) :
    (!c.isFitting) = (!c.operator.isKnown || c.operator.arity?.any (· ≠ c.operands.length)) := by
  rw [isFitting, Bool.not_and]
  cases c.operator.arity? <;> simp

/-- Every place that is looked up has its operand. -/
theorem piecesByPlace?_eq (column : String) (c : Condition) :
    c.piecesByPlace? column = some (c.pieces column) := by
  cases h : c.isFitting with
  | true =>
    obtain ⟨field, operator, operands⟩ := c
    rcases isFitting_cases h with ⟨a, rfl, hop⟩ | ⟨low, high, rfl, rfl⟩ | ⟨rfl, rfl⟩ | rfl | rfl
    · simp only [List.mem_cons, List.not_mem_nil, or_false] at hop
      rcases hop with rfl | rfl | rfl | rfl | rfl | rfl | rfl | rfl | rfl | rfl <;> rfl
    · rfl
    · rfl
    · rfl
    · rfl
  | false =>
    rw [pieces_of_not_isFitting h, piecesByPlace?]
    split
    · rfl
    · rename_i hcount
      have hunknown : c.operator.isKnown = false := by
        have hfits := not_isFitting c
        rw [h, eq_false_of_ne_true hcount] at hfits
        simpa using hfits
      obtain ⟨field, operator, operands⟩ := c
      cases operator with
      | unknown name => rfl
      | _ => simp [Operator.isKnown] at hunknown

end Condition

/-- The error names an unknown operator or a wrong number of operands. -/
inductive StoreError.IsMismatch : StoreError → Prop where
  | unknown (name : String) : IsMismatch (.unknownOperator name)
  | count (operator : String) (expected got : Nat) :
      IsMismatch (.invalidOperands operator
        ("expected " ++ toString expected ++ " operand(s), got " ++ toString got))

/-- An operand of a wrong kind is not a wrong number of operands. -/
theorem StoreError.not_isMismatch_instant (operator : String) :
    ¬ IsMismatch (.invalidOperands operator "instant operand must be an RFC 3339 string") := by
  intro h
  generalize hreason : "instant operand must be an RFC 3339 string" = reason at h
  cases h with
  | count _ expected got =>
    have hfirst := congrArg (fun s => s.toList.head?) hreason
    simp [String.toList_append] at hfirst

namespace Condition

/-- A condition that does not fit is rejected for that. -/
theorem validate_of_not_isFitting {c : Condition} (h : c.isFitting = false) :
    ∃ e : StoreError, e.IsMismatch ∧ c.validate = .error e := by
  obtain ⟨field, operator, operands⟩ := c
  cases operator with
  | unknown name => exact ⟨_, .unknown name, rfl⟩
  | includes => simp [isFitting, Operator.isKnown, Operator.arity?] at h
  | hasAnyKey => simp [isFitting, Operator.isKnown, Operator.arity?] at h
  | isNull =>
    have hcount : ¬ operands.length = 0 := by
      simpa [isFitting, Operator.isKnown, Operator.arity?, eq_comm] using h
    exact ⟨_, .count "null" 0 operands.length, by rw [validate]; exact if_neg hcount⟩
  | between =>
    have hcount : ¬ operands.length = 2 := by
      simpa [isFitting, Operator.isKnown, Operator.arity?, eq_comm] using h
    exact ⟨_, .count "between" 2 operands.length, by rw [validate]; exact if_neg hcount⟩
  | _ =>
    have hcount : ¬ operands.length = 1 := by
      simpa [isFitting, Operator.isKnown, Operator.arity?, eq_comm] using h
    exact ⟨_, .count _ 1 operands.length, by rw [validate]; exact if_neg hcount⟩

/-- One that fits is rejected only if it compares with an instant that is not a text. -/
theorem validate_of_isFitting {c : Condition} (h : c.isFitting = true) {e : StoreError}
    (he : c.validate = .error e) :
    e = .invalidOperands c.operator.name "instant operand must be an RFC 3339 string" := by
  obtain ⟨field, operator, operands⟩ := c
  rcases isFitting_cases h with ⟨a, rfl, hop⟩ | ⟨low, high, rfl, rfl⟩ | ⟨rfl, rfl⟩ | rfl | rfl
  · simp only [List.mem_cons, List.not_mem_nil, or_false] at hop
    rcases hop with rfl | rfl | rfl | rfl | rfl | rfl | rfl | rfl | rfl | rfl <;>
      cases a <;> simp_all [validate, Operator.arity?]
  · simp [validate, Operator.arity?] at he
  · simp [validate, Operator.arity?] at he
  · simp [validate, Operator.arity?] at he
  · simp [validate, Operator.arity?] at he

/-- The error about a condition tells whether the condition fits. -/
theorem isMismatch_iff {c : Condition} {e : StoreError} (h : c.validate = .error e) :
    e.IsMismatch ↔ c.isFitting = false := by
  cases hfits : c.isFitting with
  | true =>
    rw [validate_of_isFitting hfits h]
    simp [StoreError.not_isMismatch_instant]
  | false =>
    obtain ⟨e', hmismatch, he'⟩ := validate_of_not_isFitting hfits
    rw [h, Except.error.injEq] at he'
    simp [he', hmismatch]

end Condition

/-! ## A tree -/

namespace ConditionGroup

theorem forM_append {α : Type} (check : α → Except StoreError Unit) (a b : List α) :
    (a ++ b).forM check = (do a.forM check; b.forM check) := by
  induction a with
  | nil => rfl
  | cons x a ih =>
    rw [List.cons_append, List.forM, List.forM, ih, bind_assoc]

/-- Checking goes level by level: the conditions of a level, then its groups one by one. -/
theorem validate_levels (operator : Connective) (conditions : List Condition)
    (groups : List ConditionGroup) :
    validate ⟨operator, conditions, groups⟩ = (do
      conditions.forM Condition.validate
      groups.forM validate) := by
  have hgroups : (flattenAll groups).forM Condition.validate = groups.forM validate := by
    induction groups with
    | nil => rfl
    | cons g rest ih => rw [flattenAll, forM_append, ih, List.forM, validate]
  rw [validate, flatten, forM_append, hgroups]

/-- A check of a list stops at the first one it rejects. -/
theorem exists_of_forM_error {α : Type} {check : α → Except StoreError Unit} {xs : List α}
    {e : StoreError} (h : xs.forM check = .error e) :
    ∃ before x after, xs = before ++ x :: after ∧ (∀ y ∈ before, check y = .ok ()) ∧
      check x = .error e := by
  induction xs with
  | nil => simp [pure, Except.pure] at h
  | cons x xs ih =>
    rw [List.forM] at h
    cases hx : check x with
    | error e' =>
      rw [hx] at h
      obtain rfl : e' = e := by simpa [bind, Except.bind] using h
      exact ⟨[], x, xs, rfl, by simp, hx⟩
    | ok u =>
      rw [hx] at h
      obtain ⟨before, y, after, rfl, hbefore, hy⟩ := ih h
      exact ⟨x :: before, y, after, rfl, List.forall_mem_cons.2 ⟨hx, hbefore⟩, hy⟩

theorem validate_of_forM_ok {α : Type} {check : α → Except StoreError Unit} {xs : List α}
    (h : xs.forM check = .ok ()) : ∀ x ∈ xs, check x = .ok () := by
  induction xs with
  | nil => simp
  | cons x xs ih =>
    rw [List.forM] at h
    cases hx : check x with
    | error e => simp [hx, bind, Except.bind] at h
    | ok u =>
      rw [hx] at h
      exact List.forall_mem_cons.2 ⟨hx, ih h⟩

theorem forM_eq_ok_iff {α : Type} {check : α → Except StoreError Unit} {xs : List α} :
    xs.forM check = .ok () ↔ ∀ x ∈ xs, check x = .ok () := by
  refine ⟨validate_of_forM_ok, fun h => ?_⟩
  induction xs with
  | nil => rfl
  | cons x xs ih =>
    obtain ⟨hx, hxs⟩ := List.forall_mem_cons.1 h
    rw [List.forM, hx]
    exact ih hxs

end ConditionGroup

/-! ## The calls in a text -/

/-- The first tokens of the arguments of all calls of a function.  Quoted texts are tokens of
their own, so a name that stands in one is not among them. -/
def argumentsOf (name : String) : List Token → List (Option Token)
  | [] => []
  | t :: rest =>
      if t = .word name ∧ rest.head? = some (.symbol '(') then
        rest.tail.head? :: argumentsOf name rest
      else argumentsOf name rest

/-- Without the name there is no call. -/
theorem argumentsOf_append {name : String} {ts : List Token} (h : .word name ∉ ts)
    (after : List Token) : argumentsOf name (ts ++ after) = argumentsOf name after := by
  induction ts with
  | nil => rfl
  | cons t ts ih =>
    rw [List.mem_cons, not_or] at h
    rw [List.cons_append, argumentsOf, if_neg fun hcall => h.1 hcall.1.symm, ih h.2]

/-- Fields and comparisons call nothing that a condition could stand for. -/
theorem not_mem_tokensFrom {c : Condition} (h : c.isFitting = true) (n : Nat) :
    .word "invalid_condition" ∉ tokensFrom n (c.pieces dataColumn) := by
  have hsteps : ∀ {last : String}, (last = "->" ∨ last = "->>") →
      .word "invalid_condition" ∉ tokensFrom n (FieldPath.steps last c.field.segments) := by
    intro last hlast hmem
    rcases tokensFrom_steps hlast _ n _ hmem with ⟨s, hs⟩ | ⟨s, hs⟩ <;> simp at hs
  have hfield : .word "invalid_condition" ∉ tokensFrom n (c.fieldPieces dataColumn) := by
    have hcolumn : ∀ steps, tokensFrom n (.text dataColumn :: steps) =
        .word "data" :: tokensFrom n steps := fun steps => rfl
    rw [Condition.fieldPieces]
    split
    · rw [FieldPath.asJson, hcolumn]
      simp [hsteps (Or.inl rfl)]
    · rw [FieldPath.asText, hcolumn]
      simp [hsteps (Or.inr rfl)]
  have hoperator : .word "invalid_condition" ∉ c.operator.tokens n := by
    cases c.operator <;> simp [Operator.tokens, castTokens, parens]
  rw [tokensFrom_pieces_of_isFitting h]
  simp [parens, hfield, hoperator]

/-- The first tokens of the calls that stand for some of the conditions. -/
def reasonTokens (cs : List Condition) : List (Option Token) :=
  (cs.filter fun c => !c.isFitting).map fun c => some (.quoted .literal c.reason)

theorem reasonTokens_append (a b : List Condition) :
    reasonTokens (a ++ b) = reasonTokens a ++ reasonTokens b := by
  simp [reasonTokens]

/-- A condition calls once or not at all. -/
theorem argumentsOf_condition (c : Condition) (n : Nat) (after : List Token) :
    argumentsOf "invalid_condition" (tokensFrom n (c.pieces dataColumn) ++ after) =
      reasonTokens [c] ++ argumentsOf "invalid_condition" after := by
  cases h : c.isFitting with
  | true =>
    rw [argumentsOf_append (not_mem_tokensFrom h n)]
    simp [reasonTokens, h]
  | false =>
    rw [tokensFrom_pieces_of_not_isFitting h]
    simp [parens, argumentsOf, reasonTokens, h]

mutual

/-- The calls of a filter are those of its conditions, from left to right. -/
theorem argumentsOf_tokensFrom : ∀ (f : Filter) (n : Nat) (after : List Token),
    argumentsOf "invalid_condition" (tokensFrom n (f.pieces dataColumn) ++ after) =
      reasonTokens f.atoms ++ argumentsOf "invalid_condition" after
  | .atom c, n, after => by
    rw [Filter.pieces, Filter.atoms, argumentsOf_condition]
  | .joined operator parts, n, after => by
    have htokens : tokensFrom n (Filter.pieces dataColumn (.joined operator parts)) ++ after =
        .symbol '(' :: (tokensFrom n (Filter.piecesOf dataColumn operator parts) ++
          .symbol ')' :: after) := by
      rw [Filter.pieces, List.cons_append, tokensFrom, tokensFrom_append]
      simp [tokensFrom, Piece.tokens]
      rfl
    rw [htokens, argumentsOf, if_neg (by simp), argumentsOf_tokensFromAll operator parts,
      Filter.atoms, argumentsOf, if_neg (by simp)]

/-- Neither do parentheses nor connectives call. -/
theorem argumentsOf_tokensFromAll (operator : Connective) :
    ∀ (parts : List Filter) (n : Nat) (after : List Token),
      argumentsOf "invalid_condition"
          (tokensFrom n (Filter.piecesOf dataColumn operator parts) ++ after) =
        reasonTokens (Filter.atomsOf parts) ++ argumentsOf "invalid_condition" after
  | [], n, after => rfl
  | [f], n, after => by
    rw [Filter.piecesOf, Filter.atomsOf, Filter.atomsOf, List.append_nil,
      argumentsOf_tokensFrom f]
  | f :: g :: rest, n, after => by
    obtain ⟨t, htoken, hrole⟩ := tokensFrom_connective operator
    have hname : t ≠ .word "invalid_condition" := by
      rintro rfl
      cases operator <;> simp [Token.role] at hrole
    rw [Filter.piecesOf, Filter.atomsOf, tokensFrom_append, htoken, List.append_assoc,
      List.cons_append, argumentsOf_tokensFrom f, argumentsOf, if_neg fun hcall => hname hcall.1,
      argumentsOf_tokensFromAll operator (g :: rest), reasonTokens_append, List.append_assoc]
    exact List.cons_ne_nil g rest

end

namespace ConditionGroup

/-- The tokens of the filter of a tree; the filter of an empty tree is no text at all. -/
def tokens? (g : ConditionGroup) : Option (List Token) :=
  g.statement?.elim (some []) fun s => Sql.tokens? s.sql

/-- The text of a tree can be read, and calls for the conditions that do not fit. -/
theorem exists_tokens (g : ConditionGroup) :
    ∃ tokens, g.tokens? = some tokens ∧
      argumentsOf "invalid_condition" tokens = reasonTokens g.flatten := by
  have hatoms := atoms_filter? g
  rw [tokens?, statement?]
  cases h : g.filter? with
  | none =>
    rw [h] at hatoms
    exact ⟨[], rfl, by rw [← hatoms]; rfl⟩
  | some f =>
    have hcalls := argumentsOf_tokensFrom f 1 []
    rw [List.append_nil, argumentsOf, List.append_nil] at hcalls
    rw [h] at hatoms
    exact ⟨_, tokens?_statement, by rw [hcalls, ← hatoms]; rfl⟩

/-- Compiling succeeds for every tree and looks up no operand that is not there.  The text calls
`invalid_condition` once for each condition whose operator is unknown or takes another number of
operands, in the order of the tree, so not at all if checking accepts the tree.  If checking
reports such a condition, it is the first that checking rejects, and the first that the text
calls for. -/
theorem validate_agrees (g : ConditionGroup) :
    (g.statement? = none ↔ g.isEmpty = true) ∧
      Filter.atomsOf? g.filter? = g.flatten ∧
      (∀ c ∈ g.flatten, c.piecesByPlace? dataColumn = some (c.pieces dataColumn)) ∧
      ∃ tokens, g.tokens? = some tokens ∧
        argumentsOf "invalid_condition" tokens = reasonTokens g.flatten ∧
        (argumentsOf "invalid_condition" tokens).length = g.flatten.countP (fun c =>
          !c.operator.isKnown || c.operator.arity?.any (· ≠ c.operands.length)) ∧
        (g.validate = .ok () → argumentsOf "invalid_condition" tokens = []) ∧
        ∀ e : StoreError, e.IsMismatch → g.validate = .error e →
          ∃ before c after, g.flatten = before ++ c :: after ∧
            (∀ d ∈ before, d.validate = .ok ()) ∧ c.validate = .error e ∧
            c.isFitting = false ∧
            (argumentsOf "invalid_condition" tokens).head? =
              some (some (.quoted .literal c.reason)) := by
  have hquiet : ∀ cs : List Condition, (∀ c ∈ cs, c.validate = .ok ()) →
      reasonTokens cs = [] := by
    intro cs hcs
    rw [reasonTokens, List.map_eq_nil_iff, List.filter_eq_nil_iff]
    intro c hc hunfit
    obtain ⟨e, -, he⟩ := Condition.validate_of_not_isFitting (c := c) (by simpa using hunfit)
    simp [hcs c hc] at he
  obtain ⟨tokens, htokens, hcalls⟩ := exists_tokens g
  refine ⟨?_, atoms_filter? g, fun c _ => c.piecesByPlace?_eq dataColumn, tokens, htokens, hcalls,
    ?_, ?_, ?_⟩
  · rw [← isNone_filter?, statement?, Option.map_eq_none_iff, Option.isNone_iff_eq_none]
  · rw [hcalls, reasonTokens, List.length_map, List.countP_eq_length_filter]
    simp only [Condition.not_isFitting]
  · intro hvalid
    rw [hcalls, hquiet _ (validate_of_forM_ok hvalid)]
  · intro e hmismatch herror
    obtain ⟨before, c, after, hflatten, hbefore, hc⟩ := exists_of_forM_error herror
    have hunfit : c.isFitting = false := (Condition.isMismatch_iff hc).1 hmismatch
    refine ⟨before, c, after, hflatten, hbefore, hc, hunfit, ?_⟩
    rw [hcalls, hflatten, reasonTokens_append, hquiet before hbefore]
    simp [reasonTokens, hunfit]

/-- A field and an operator that are called like the call: the operator stands two levels down,
behind a range with one end, which checking reports. -/
theorem validate_agrees_hostile :
    ∃ (tokens : List Token) (c : Condition),
      tokens? ⟨.and, [⟨⟨["invalid_condition("]⟩, .eq, [.string "invalid_condition('')"]⟩],
        [⟨.or, [⟨⟨["n"]⟩, .between, [.null]⟩],
          [⟨.and, [⟨⟨["m"]⟩, .unknown "invalid_condition(", []⟩], []⟩]⟩]⟩ = some tokens ∧
      argumentsOf "invalid_condition" tokens =
        [some (.quoted .literal "between expects 2 operand(s) for n"),
          some (.quoted .literal "unknown operator 'invalid_condition(' on m")] ∧
      c.validate = .error (.invalidOperands "between" "expected 2 operand(s), got 1") ∧
      (argumentsOf "invalid_condition" tokens).head? = some (some (.quoted .literal c.reason)) := by
  obtain ⟨-, -, -, tokens, htokens, hcalls, -, -, hfirst⟩ := validate_agrees
    ⟨.and, [⟨⟨["invalid_condition("]⟩, .eq, [.string "invalid_condition('')"]⟩],
      [⟨.or, [⟨⟨["n"]⟩, .between, [.null]⟩],
        [⟨.and, [⟨⟨["m"]⟩, .unknown "invalid_condition(", []⟩], []⟩]⟩]⟩
  obtain ⟨before, c, after, -, -, hc, -, hhead⟩ := hfirst _ (.count "between" 2 1) rfl
  exact ⟨tokens, c, htokens, hcalls, hc, hhead⟩

end ConditionGroup

end DocStore
