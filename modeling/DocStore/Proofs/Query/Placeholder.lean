import DocStore.Proofs.Query.Content

/-!
# Placeholders and parameters

Operands never stand in the text of a statement.  In their place stand
placeholders, numbered from left to right, and the parameters are the operands in
the order of the condition tree.

* `Condition.boundParams` says what a condition binds.
* `placeholder?_compile` is the statement for every command: the placeholders of
  the text are `$1` to `$n` in this order, and the `n` parameters are those of the
  conditions, at each level the conditions first and then the groups.
-/

namespace DocStore

open Sql

/-- What a condition binds: one text for each operand of a comparison, one JSON array for a
containment, one array of texts for a choice, and nothing if it does not fit. -/
def Condition.boundParams (c : Condition) : List Param :=
  if c.isFitting then
    match c.operator with
    | .contains => [.text (Json.array c.operands).text]
    | .includes | .hasAnyKey => [.textArray (c.operands.map operandText)]
    | _ => c.operands.map fun operand => .text (operandText operand)
  else []

theorem pathView_param? (path : FieldPath) : pathView Piece.param? path = [] :=
  List.filterMap_eq_nil_iff.2 fun _ _ => rfl

theorem params_fieldPieces (c : Condition) : params (c.fieldPieces dataColumn) = [] := by
  rw [params, Condition.fieldPieces]
  split
  · rw [filterMap_asJson isQuiet_param?, pathView_param?]
  · rw [filterMap_asText isQuiet_param?, pathView_param?]

theorem conditionView_param? (c : Condition) :
    conditionView Piece.param? c = c.boundParams := by
  rw [conditionView, Condition.boundParams]
  cases h : c.isFitting with
  | true =>
    rw [Condition.pieces_of_isFitting h, List.cons_append, filterMap_text isQuiet_param?,
      List.filterMap_append, ← params, params_fieldPieces, List.nil_append, if_pos rfl]
    obtain ⟨field, operator, operands⟩ := c
    rcases Condition.isFitting_cases h with
      ⟨a, rfl, hop⟩ | ⟨low, high, rfl, rfl⟩ | ⟨rfl, rfl⟩ | rfl | rfl
    · simp only [List.mem_cons, List.not_mem_nil, or_false] at hop
      rcases hop with rfl | rfl | rfl | rfl | rfl | rfl | rfl | rfl | rfl | rfl <;> rfl
    · rfl
    · rfl
    · rfl
    · rfl
  | false =>
    rw [Condition.pieces_of_not_isFitting h]
    rfl

namespace Query

/-- A view that shows nothing but conditions shows them in the order of the tree, whatever the
command. -/
theorem content_conditions {α : Type} (ofCondition : Condition → List α) (q : Query)
    (command : Command) :
    q.content ofCondition (fun _ => []) (fun _ => []) command =
      q.conditions.flatten.flatMap ofCondition := by
  have hnone : ∀ {β : Type} (xs : List β), (xs.flatMap fun _ => ([] : List α)) = [] :=
    fun xs => List.flatMap_eq_nil_iff.2 fun _ _ => rfl
  have hsource : q.sourceContent ofCondition (fun _ => []) =
      q.conditions.flatten.flatMap ofCondition := by
    rw [sourceContent]
    cases q.recurse with
    | none => simp only [rowsContent, hnone, List.append_nil]
    | some t => simp only [rowsContent, hnone, List.append_nil, List.nil_append]
  have hfields : q.fieldContent (fun _ => ([] : List α)) (fun _ => []) = [] := hnone q.fields
  cases command with
  | select =>
    rw [content, hsource, hfields]
    cases q.recurse with
    | none => rfl
    | some t => exact List.append_nil _
  | filter => rfl
  | _ => exact hsource

/-- Placeholders and parameters line up.  In the text of a statement the placeholders are
numbered from left to right, each number once and as many as there are parameters; and the
parameters are what the conditions bind, in the order of the tree. -/
theorem placeholder?_compile (q : Query) (table : TableName) (command : Command) (s : Statement)
    (h : q.compile table command = some s) :
    ∃ tokens, tokens? s.sql = some tokens ∧
      tokens.filterMap Token.placeholder? = List.range' 1 s.params.length ∧
      s.params = q.conditions.flatten.flatMap Condition.boundParams := by
  obtain ⟨ps, hps, hparams, hspacing, htokens⟩ := tokens?_compile h
  refine ⟨_, htokens, ?_, ?_⟩
  · rw [hparams, placeholder?_tokensFrom hspacing]
  · have hpath : pathView Piece.param? = fun _ => [] := funext pathView_param?
    have halias : aliasView Piece.param? = fun _ => [] := rfl
    rw [hparams, params, filterMap_pieces? isQuiet_param? hps, funext conditionView_param?, hpath,
      halias, content_conditions]

/-- A walk whose conditions use every way of binding, and a name that looks like a
placeholder. -/
def binding : Query :=
  { all with
    conditions := ⟨.or, [⟨⟨["$9"]⟩, .between, [.string "1", .string "2"]⟩],
      [⟨.and, [⟨⟨["tags"]⟩, .contains, [.string "red"]⟩, ⟨⟨["x"]⟩, .eq, []⟩],
        [⟨.or, [⟨⟨["color"]⟩, .includes, [.string "a", .string "b"]⟩, ⟨⟨["y"]⟩, .isNull, []⟩],
          []⟩]⟩]⟩
    recurse := some ⟨⟨["id"]⟩, ⟨["parent"]⟩, some 3⟩ }

theorem placeholder?_compile_binding :
    binding.compile ⟨"docs", by decide, by decide⟩ .delete = some (binding.delete "docs") ∧
      ∃ tokens, tokens? (binding.delete "docs").sql = some tokens ∧
        tokens.filterMap Token.placeholder? = List.range' 1 (binding.delete "docs").params.length ∧
        (binding.delete "docs").params =
          [.text "1", .text "2", .text "[\"red\"]", .textArray ["a", "b"]] :=
  ⟨rfl, placeholder?_compile binding ⟨"docs", by decide, by decide⟩ .delete _ rfl⟩

end Query

end DocStore
