import DocStore.Query.Plan

/-!
# What a condition compiles to

A condition fits when its operator is known and takes as many operands as there
are.  One that fits compiles to the field in parentheses and a comparison that
depends on operator and operands alone (`pieces_of_isFitting`); one that does not
compiles to the call that stands for it, with the reason as its only argument
(`pieces_of_not_isFitting`).
-/

namespace DocStore

open Sql (Piece)

/-- The operator compares the field as a JSON value, not as text. -/
def Operator.readsJson : Operator → Bool
  | contains | hasKey | hasAnyKey => true
  | _ => false

namespace Condition

/-- The operator is known and takes these many operands. -/
def isFitting (c : Condition) : Bool :=
  c.operator.isKnown && c.operator.arity?.all (· = c.operands.length)

/-- Why a condition does not fit. -/
def reason (c : Condition) : String :=
  match c.operator with
  | .unknown name => "unknown operator '" ++ name ++ "' on " ++ c.field.dotted
  | operator =>
      operator.name ++ " expects " ++ toString (operator.arity?.getD 0) ++
        " operand(s) for " ++ c.field.dotted

/-- The field in the form that the operator reads. -/
def fieldPieces (column : String) (c : Condition) : List Piece :=
  if c.operator.readsJson then c.field.asJson column else c.field.asText column

/-- Behind the field: a comparison of a type with one operand. -/
def castComparison (type operator : String) (operand : Json) : List Piece :=
  [.text (")::" ++ type ++ " " ++ operator ++ " "), bound operand, .text ("::" ++ type)]

/-- Behind the field: closes its parenthesis and compares. -/
def comparison : Operator → List Json → List Piece
  | .eq, [a] => [.text ") = ", bound a]
  | .neq, [a] => [.text ") != ", bound a]
  | .lt, [a] => castComparison "numeric" "<" a
  | .lte, [a] => castComparison "numeric" "<=" a
  | .gt, [a] => castComparison "numeric" ">" a
  | .gte, [a] => castComparison "numeric" ">=" a
  | .between, [low, high] =>
      [.text ")::numeric BETWEEN ", bound low, .text "::numeric AND ", bound high,
        .text "::numeric"]
  | .before, [a] => castComparison "timestamptz" "<" a
  | .after, [a] => castComparison "timestamptz" ">" a
  | .contains, [a] =>
      [.text ")::jsonb @> ", .param (.text (Json.array [a]).text), .text "::jsonb"]
  | .includes, operands => [.text ") = ANY(", boundArray operands, .text "::text[])"]
  | .hasKey, [a] => [.text ")::jsonb ? ", bound a]
  | .hasAnyKey, operands => [.text ")::jsonb ?| ", boundArray operands, .text "::text[]"]
  | .isNull, [] => [.text ") IS NULL"]
  | _, _ => []

/-- Which operators fit which operands. -/
theorem isFitting_cases {c : Condition} (h : c.isFitting = true) :
    (∃ a, c.operands = [a] ∧
        c.operator ∈ [.eq, .neq, .lt, .lte, .gt, .gte, .before, .after, .contains, .hasKey]) ∨
      (∃ low high, c.operands = [low, high] ∧ c.operator = .between) ∨
      (c.operands = [] ∧ c.operator = .isNull) ∨
      c.operator = .includes ∨ c.operator = .hasAnyKey := by
  obtain ⟨field, operator, operands⟩ := c
  simp only [isFitting, Bool.and_eq_true] at h
  obtain ⟨hknown, harity⟩ := h
  cases operator with
  | unknown name => simp [Operator.isKnown] at hknown
  | includes => simp
  | hasAnyKey => simp
  | isNull =>
    have hlength : operands.length = 0 := by simpa [Operator.arity?, eq_comm] using harity
    simp [List.length_eq_zero_iff.1 hlength]
  | between =>
    have hlength : operands.length = 2 := by simpa [Operator.arity?, eq_comm] using harity
    rcases operands with _ | ⟨low, _ | ⟨high, _ | ⟨more, rest⟩⟩⟩
    · simp at hlength
    · simp at hlength
    · simp
    · simp at hlength
  | _ =>
    have hlength : operands.length = 1 := by simpa [Operator.arity?, eq_comm] using harity
    obtain ⟨a, rfl⟩ := List.length_eq_one_iff.1 hlength
    simp

/-- A condition that fits is its field in parentheses, compared. -/
theorem pieces_of_isFitting {c : Condition} (h : c.isFitting = true) (column : String) :
    c.pieces column =
      .text "(" :: c.fieldPieces column ++ comparison c.operator c.operands := by
  obtain ⟨field, operator, operands⟩ := c
  rcases isFitting_cases h with ⟨a, rfl, hop⟩ | ⟨low, high, rfl, rfl⟩ | ⟨rfl, rfl⟩ | rfl | rfl
  · simp only [List.mem_cons, List.not_mem_nil, or_false] at hop
    rcases hop with rfl | rfl | rfl | rfl | rfl | rfl | rfl | rfl | rfl | rfl <;> rfl
  · rfl
  · rfl
  · rfl
  · rfl

/-- A condition that does not fit is the call that stands for it. -/
theorem pieces_of_not_isFitting {c : Condition} (h : c.isFitting = false) (column : String) :
    c.pieces column = invalid c.reason := by
  obtain ⟨field, operator, operands⟩ := c
  cases operator with
  | unknown name => rfl
  | includes => simp [isFitting, Operator.isKnown, Operator.arity?] at h
  | hasAnyKey => simp [isFitting, Operator.isKnown, Operator.arity?] at h
  | isNull =>
    rcases operands with _ | ⟨a, rest⟩
    · simp [isFitting, Operator.isKnown, Operator.arity?] at h
    · rfl
  | between =>
    rcases operands with _ | ⟨a, _ | ⟨b, _ | ⟨d, rest⟩⟩⟩
    · rfl
    · rfl
    · simp [isFitting, Operator.isKnown, Operator.arity?] at h
    · rfl
  | _ =>
    rcases operands with _ | ⟨a, _ | ⟨b, rest⟩⟩
    · rfl
    · simp [isFitting, Operator.isKnown, Operator.arity?] at h
    · rfl

end Condition

end DocStore
