import DocStore.Proofs.Query.Reading

/-!
# What a filter means

Whatever each condition is worth, the filter of a tree is worth what the tree is.

* `ConditionGroup.value` is the meaning of a tree, in which empty groups say nothing.
* A tree is empty when no group in it, at any depth, holds a condition:
  `isEmpty_iff_within`.
-/

namespace DocStore

open Sql

/-! ## What a tree means -/

namespace ConditionGroup

mutual

/-- The value of a tree when its conditions are worth `v k`, `v (k + 1)`, … in the order of the
tree: a group joins its conditions and its groups by its own connective, and empty groups say
nothing. -/
def value (v : Nat → Truth) : (k : Nat) → ConditionGroup → Truth
  | k, ⟨operator, conditions, groups⟩ =>
      operator.join ((List.range' k conditions.length).map v ++
        groupValues v (k + conditions.length) groups)

/-- The values of the groups that are not empty. -/
def groupValues (v : Nat → Truth) : (k : Nat) → List ConditionGroup → List Truth
  | _, [] => []
  | k, g :: rest =>
      if g.isEmpty then groupValues v k rest
      else value v k g :: groupValues v (k + g.flatten.length) rest

end

/-- A group at some depth of a tree; the tree is one of them. -/
inductive Within : ConditionGroup → ConditionGroup → Prop where
  | self (g : ConditionGroup) : Within g g
  | inside {inner g outer : ConditionGroup} (hg : g ∈ outer.groups) (h : Within inner g) :
      Within inner outer

theorem allEmpty_iff (gs : List ConditionGroup) :
    allEmpty gs = true ↔ ∀ g ∈ gs, g.isEmpty = true := by
  induction gs with
  | nil => simp [allEmpty]
  | cons g rest ih => rw [allEmpty, Bool.and_eq_true, ih, List.forall_mem_cons]

theorem isEmpty_iff (g : ConditionGroup) :
    g.isEmpty = true ↔ g.conditions = [] ∧ ∀ inner ∈ g.groups, inner.isEmpty = true := by
  obtain ⟨operator, conditions, groups⟩ := g
  rw [isEmpty, Bool.and_eq_true, allEmpty_iff, List.isEmpty_iff]

theorem conditions_of_within {g inner : ConditionGroup} (h : Within inner g)
    (hempty : g.isEmpty = true) : inner.conditions = [] := by
  induction h with
  | self => exact ((isEmpty_iff inner).1 hempty).1
  | inside hg _ ih => exact ih (((isEmpty_iff _).1 hempty).2 _ hg)

mutual

theorem isEmpty_of_within : ∀ g : ConditionGroup,
    (∀ inner, Within inner g → inner.conditions = []) → g.isEmpty = true
  | ⟨operator, conditions, groups⟩, h => by
    rw [isEmpty_iff]
    refine ⟨h _ (.self _), ?_⟩
    exact isEmpty_of_withinAll groups fun g hg inner hinner => h inner (.inside hg hinner)

theorem isEmpty_of_withinAll : ∀ gs : List ConditionGroup,
    (∀ g ∈ gs, ∀ inner, Within inner g → inner.conditions = []) →
    ∀ g ∈ gs, g.isEmpty = true
  | [], _, g, hg => by simp at hg
  | g :: rest, h, _, hg => by
    rcases List.mem_cons.1 hg with heq | hrest
    · rw [heq]
      exact isEmpty_of_within g (h g List.mem_cons_self)
    · exact isEmpty_of_withinAll rest (fun g' hg' => h g' (List.mem_cons_of_mem g hg')) _ hrest

end

/-- A tree is empty when no group at any depth holds a condition. -/
theorem isEmpty_iff_within (g : ConditionGroup) :
    g.isEmpty = true ↔ ∀ inner, Within inner g → inner.conditions = [] :=
  ⟨fun h _ hinner => conditions_of_within hinner h, isEmpty_of_within g⟩

mutual

/-- An empty tree has no filter. -/
theorem isNone_filter? : ∀ g : ConditionGroup, g.filter?.isNone = g.isEmpty
  | ⟨operator, conditions, groups⟩ => by
    have hparts : (conditions.map Filter.atom ++ filters groups).isEmpty =
        (conditions.isEmpty && allEmpty groups) := by
      rw [← isEmpty_filters groups]
      cases conditions <;> rfl
    rw [filter?, isEmpty, ← hparts]
    cases conditions.map Filter.atom ++ filters groups <;> rfl

theorem isEmpty_filters :
    ∀ gs : List ConditionGroup, (filters gs).isEmpty = allEmpty gs
  | [] => rfl
  | g :: rest => by
    have hg := isNone_filter? g
    rw [filters, allEmpty, ← hg]
    cases g.filter? with
    | none => exact isEmpty_filters rest
    | some f => rfl

end

mutual

/-- The filter of a tree is worth what the tree is. -/
theorem value_filter? : ∀ (g : ConditionGroup) {f : Filter}, g.filter? = some f →
    ∀ (n : Nat) (v : Nat → Truth) (k : Nat), (f.expr n).value v k = g.value v k
  | ⟨operator, conditions, groups⟩, f, h, n, v, k => by
    obtain ⟨m, hexprs⟩ := exprs_append n (conditions.map Filter.atom) (filters groups)
    have hcount : (BoolExpr.atomsOf (Filter.exprs n (conditions.map Filter.atom))).length =
        conditions.length := by
      rw [atoms_exprs, length_atomTokens, Filter.atomsOf_map_atom]
    rw [filter?] at h
    split at h
    · simp at h
    · rw [← Option.some.inj h, Filter.expr, BoolExpr.value_join, hexprs, BoolExpr.values_append,
        values_map_atom, hcount, values_filters groups, value]

theorem values_filters : ∀ (gs : List ConditionGroup) (n : Nat) (v : Nat → Truth) (k : Nat),
    BoolExpr.values v k (Filter.exprs n (filters gs)) = groupValues v k gs
  | [], n, v, k => by
    rw [filters, Filter.exprs, BoolExpr.values, groupValues]
  | g :: rest, n, v, k => by
    have hempty := isNone_filter? g
    have hatoms := atoms_filter? g
    rw [filters, groupValues, ← hempty, ← hatoms]
    cases h : g.filter? with
    | none => exact values_filters rest n v k
    | some f =>
      show BoolExpr.values v k (Filter.exprs n (f :: filters rest)) = _
      rw [Filter.exprs, BoolExpr.values, value_filter? g h, values_filters rest, atoms_expr,
        length_atomTokens]
      rfl

end

end ConditionGroup

/-! ## The filter of a select -/

/-- Pieces without a `WHERE`. -/
def HasNoWhere (ps : List Piece) : Prop := ∀ n, .word "where" ∉ tokensFrom n ps

namespace HasNoWhere

theorem append {a b : List Piece} (ha : HasNoWhere a) (hb : HasNoWhere b) :
    HasNoWhere (a ++ b) := by
  intro n hmem
  rw [tokensFrom_append, List.mem_append] at hmem
  rcases hmem with hmem | hmem
  · exact ha n hmem
  · exact hb _ hmem

theorem text {s : String} (h : .word "where" ∉ (Piece.text s).tokens 0) :
    HasNoWhere [.text s] := by
  intro n hmem
  rw [tokensFrom, tokensFrom, List.append_nil] at hmem
  exact h hmem

theorem name {s : String} (h : s ≠ "where") : HasNoWhere [.name s] := by
  intro n hmem
  simp only [tokensFrom, Piece.tokens, List.append_nil, List.mem_singleton,
    Token.word.injEq] at hmem
  exact h hmem.symm

theorem steps {last : String} (hlast : last = "->" ∨ last = "->>") (segments : List String) :
    HasNoWhere (FieldPath.steps last segments) := by
  intro n hmem
  rcases tokensFrom_steps hlast segments n _ hmem with ⟨s, h⟩ | ⟨s, h⟩ <;> simp at h

theorem asText {column : String} (h : .word "where" ∉ (Piece.text column).tokens 0)
    (path : FieldPath) : HasNoWhere (path.asText column) :=
  append (text h) (steps (Or.inr rfl) path.segments)

theorem number (start : String) (h : .word "where" ∉ (Piece.text start).tokens 0)
    (n : Option Nat) : HasNoWhere (Rows.clause start n fun k => [.number k]) := by
  cases n with
  | none => exact fun _ => List.not_mem_nil
  | some k => exact append (text h) fun n => by simp [tokensFrom, Piece.tokens]

theorem separated {parts : List (List Piece)} (h : ∀ ps ∈ parts, HasNoWhere ps) :
    HasNoWhere (separated (.text ", ") parts) := by
  fun_induction Sql.separated (.text ", ") parts with
  | case1 => exact fun _ => List.not_mem_nil
  | case2 ps => exact h ps List.mem_cons_self
  | case3 ps rest hrest ih =>
    refine append (h ps List.mem_cons_self) (append (text (by decide)) (ih ?_))
    exact fun qs hqs => h qs (List.mem_cons_of_mem ps hqs)

theorem order (start : String) (h : .word "where" ∉ (Piece.text start).tokens 0) (r : Rows) :
    HasNoWhere (Rows.clause start r.orderTerms? id) := by
  rw [Rows.orderTerms?]
  split
  · exact fun _ => List.not_mem_nil
  · refine append (text h) (separated ?_)
    intro ps hps
    obtain ⟨s, -, rfl⟩ := List.mem_map.1 hps
    refine append (asText (by decide) s.field) (text ?_)
    cases s.direction <;> decide

theorem projection (fields : List FieldPath) : HasNoWhere (projection fields) := by
  refine append (a := [.text dataColumn]) (text (by decide)) ?_
  induction fields with
  | nil => exact fun _ => List.not_mem_nil
  | cons field rest ih =>
    refine append (append (append (a := [.text ", "]) (text (by decide))
      (asText (by decide) field)) ?_) ih
    exact append (a := [.text " AS "]) (text (by decide)) fun n => by
      simp [tokensFrom, Piece.tokens]

end HasNoWhere

/-- Order and window. -/
def Rows.window (r : Rows) : List Piece :=
  clause " ORDER BY " r.orderTerms? id ++
    (clause " LIMIT " r.limit (fun n => [.number n]) ++
      clause " OFFSET " r.offset fun n => [.number n])

theorem Rows.fromTable_eq (r : Rows) :
    r.fromTable = [.name r.table] ++ (r.whereClause ++ r.window) := by
  simp only [fromTable, tail, window, List.append_assoc, List.singleton_append]

theorem Rows.hasNoWhere_window (r : Rows) : HasNoWhere r.window :=
  .append (.order _ (by decide) r) (.append (.number _ (by decide) _) (.number _ (by decide) _))

theorem Rows.params_window (r : Rows) : params r.window = [] := by
  rw [window, params, List.filterMap_append, List.filterMap_append,
    filterMap_order isQuiet_param?, filterMap_number isQuiet_param?,
    filterMap_number isQuiet_param?, funext pathView_param?]
  simp

namespace Source

/-- A select up to its filter. -/
def selectStart (fields : List FieldPath) : Source → List Piece
  | .rows r => .text "SELECT " :: projection fields ++ [.text " FROM ", .name r.table]
  | .walk seed _ => walkStart seed ++ [.name seed.table]

/-- A select behind its filter. -/
def selectEnd (fields : List FieldPath) : Source → List Piece
  | .rows r => r.window
  | .walk seed t =>
      seed.window ++ (walkHops seed.table t ++ (.text " SELECT " :: projection fields ++
        ([.text " FROM ", .name seed.table, .text " AS doc"] ++ joinReached "doc")))

/-- The rows under a filter. -/
def seeds : Source → Rows
  | .rows r => r
  | .walk seed _ => seed

theorem select_eq (fields : List FieldPath) (s : Source) :
    s.select fields = s.selectStart fields ++ (s.seeds.whereClause ++ s.selectEnd fields) := by
  cases s with
  | rows r =>
    rw [select, r.fromTable_eq]
    simp [selectStart, selectEnd, seeds]
  | walk seed t =>
    rw [select, walkClause_eq, seed.fromTable_eq]
    simp [selectStart, selectEnd, seeds]

theorem params_selectStart (fields : List FieldPath) (s : Source) :
    params (s.selectStart fields) = [] := by
  have hprojection := filterMap_projection isQuiet_param? { Query.all with fields }
  cases s with
  | rows r =>
    rw [selectStart, List.cons_append, params, filterMap_text isQuiet_param?,
      List.filterMap_append, hprojection]
    simp [Query.fieldContent, pathView_param?, aliasView, Piece.param?]
  | walk seed t =>
    rw [selectStart, params, List.filterMap_append, filterMap_walkStart isQuiet_param?]
    simp [pathView_param?, Piece.param?]

theorem params_selectEnd (fields : List FieldPath) (s : Source) :
    params (s.selectEnd fields) = [] := by
  have hprojection := filterMap_projection isQuiet_param? { Query.all with fields }
  cases s with
  | rows r => exact r.params_window
  | walk seed t =>
    have hwindow := seed.params_window
    rw [params] at hwindow
    simp only [selectEnd, params, List.filterMap_append, List.cons_append, hwindow,
      filterMap_walkHops isQuiet_param?, filterMap_text isQuiet_param?,
      filterMap_name isQuiet_param?, hprojection, filterMap_joinReached isQuiet_param?,
      funext pathView_param?]
    simp [Query.fieldContent, aliasView, Piece.param?]

theorem hasNoWhere_walkStart (seed : Rows) : HasNoWhere (walkStart seed) := by
  refine .append (.append (a := [.text _]) (.text ?_) (.order _ (by decide) seed))
    (.text (by decide))
  simp only [Piece.tokens, tokens?, String.toList_append]
  decide +kernel

theorem hasNoWhere_walkHops {table : String} (htable : table ≠ "where") {t : Traversal}
    (hdepth : t.maxDepth = none) : HasNoWhere (walkHops table t) := by
  have hunion : HasNoWhere [.text (") AS seed UNION ALL " ++
      "SELECT hop.id, hop.data, walk.depth + 1, walk.ord FROM ")] := by
    apply HasNoWhere.text
    simp only [Piece.tokens, tokens?, String.toList_append]
    decide +kernel
  have hjoin : HasNoWhere [.text " AS hop JOIN walk ON ("] := .text (by decide)
  have hlink : HasNoWhere [.text ") = ("] := .text (by decide)
  have hclose : HasNoWhere [.text ")", .text ")"] := .append (a := [.text ")"])
    (.text (by decide)) (.text (by decide))
  rw [walkHops, hdepth]
  exact .append hunion (.append (.name htable) (.append hjoin
    (.append (.asText (by decide) t.linkField) (.append hlink
    (.append (.asText (by decide) t.seedField) hclose)))))

theorem hasNoWhere_joinReached : HasNoWhere (joinReached "doc") := by
  apply HasNoWhere.text
  simp only [Piece.tokens, tokens?, String.toList_append]
  decide +kernel

/-- A `WHERE` beside that of the filter would be the name of the table or bound the depth of a
walk. -/
theorem hasNoWhere_select {s : Source} (htable : s.table ≠ "where")
    (hdepth : ∀ seed t, s = .walk seed t → t.maxDepth = none) (fields : List FieldPath) :
    HasNoWhere (s.selectStart fields) ∧ HasNoWhere (s.selectEnd fields) := by
  cases s with
  | rows r =>
    refine ⟨?_, r.hasNoWhere_window⟩
    exact .append (.append (a := [.text "SELECT "]) (.text (by decide)) (.projection fields))
      (.append (a := [.text " FROM "]) (.text (by decide)) (.name htable))
  | walk seed t =>
    have hfrom : HasNoWhere [.text " FROM ", .name seed.table, .text " AS doc"] :=
      .append (a := [.text " FROM "]) (.text (by decide)) (.append (.name htable)
        (.text (by decide)))
    have hselect : HasNoWhere (.text " SELECT " :: projection fields) :=
      .append (a := [.text " SELECT "]) (.text (by decide)) (.projection fields)
    exact ⟨.append (hasNoWhere_walkStart seed) (.name htable),
      .append seed.hasNoWhere_window (.append (hasNoWhere_walkHops htable (hdepth seed t rfl))
        (.append hselect (.append hfrom hasNoWhere_joinReached)))⟩

end Source

/-- Without placeholders the numbers do not matter. -/
theorem tokensFrom_of_params_eq_nil {ps : List Piece} (h : params ps = []) (n m : Nat) :
    tokensFrom n ps = tokensFrom m ps := by
  induction ps with
  | nil => rfl
  | cons p rest ih =>
    cases p with
    | param v => simp [params, Piece.param?] at h
    | _ => exact congrArg (_ ++ ·) (ih h)

/-- The text of a filter reads as the tokens of its pieces. -/
theorem tokens?_statement {f : Filter} :
    tokens? (Statement.ofPieces (f.pieces dataColumn)).sql =
      some (tokensFrom 1 (f.pieces dataColumn)) :=
  tokens?_renderFrom (spacing_filter isColumn_data f) 1

/-- What a tree adds to a select: its filter behind a `WHERE`, and nothing if it is empty. -/
def ConditionGroup.whereTokens (g : ConditionGroup) : List Token :=
  g.statement?.elim [] fun s => .word "where" :: (tokens? s.sql).getD []

theorem tokensFrom_whereClause (q : Query) (table : String) :
    tokensFrom 1 (q.source table).seeds.whereClause = q.conditions.whereTokens := by
  have hseeds : (q.source table).seeds.filter = q.conditions.filter? := by
    rw [Query.source]
    cases q.recurse <;> rfl
  rw [Rows.whereClause, hseeds, ConditionGroup.whereTokens, ConditionGroup.statement?]
  cases q.conditions.filter? with
  | none => rfl
  | some f =>
    show tokensFrom 1 (.text " WHERE " :: f.pieces dataColumn) =
      .word "where" :: (tokens? (Statement.ofPieces (f.pieces dataColumn)).sql).getD []
    rw [tokens?_statement]
    rfl

/-- A select has its `WHERE` between parts that the tree does not change. -/
theorem tokens?_select (q : Query) (table : TableName) :
    ∃ start rest : List Token,
      (.word "where" ∈ start ++ rest →
        table.text = "where" ∨ (q.recurse.bind Traversal.maxDepth).isSome = true) ∧
      ∀ g, tokens? ({ q with conditions := g }.select table.text).sql =
        some (start ++ (g.whereTokens ++ rest)) := by
  refine ⟨tokensFrom 1 ((q.source table.text).selectStart q.fields),
    tokensFrom 1 ((q.source table.text).selectEnd q.fields), ?_, ?_⟩
  · intro hmem
    by_cases htable : table.text = "where"
    · exact Or.inl htable
    cases hdepth : q.recurse.bind Traversal.maxDepth with
    | some d => exact Or.inr rfl
    | none =>
      have hnone : ∀ seed t, q.source table.text = .walk seed t → t.maxDepth = none := by
        intro seed t hsource
        rw [Query.source] at hsource
        cases hrecurse : q.recurse with
        | none => simp [hrecurse] at hsource
        | some t' =>
          rw [hrecurse] at hsource hdepth
          rw [← (Source.walk.inj hsource).2]
          exact hdepth
      rw [← Query.table_source q table.text] at htable
      obtain ⟨hstart, hend⟩ := Source.hasNoWhere_select htable hnone q.fields
      rw [List.mem_append] at hmem
      exact absurd hmem (not_or.2 ⟨hstart 1, hend 1⟩)
  · intro g
    have hsame : ({ q with conditions := g }.source table.text).selectStart q.fields =
          (q.source table.text).selectStart q.fields ∧
        ({ q with conditions := g }.source table.text).selectEnd q.fields =
          (q.source table.text).selectEnd q.fields := by
      rw [Query.source, Query.source]
      cases q.recurse with
      | none => exact ⟨rfl, rfl⟩
      | some t => exact ⟨rfl, rfl⟩
    have hps : { q with conditions := g }.pieces? table .select =
        some (({ q with conditions := g }.source table.text).select q.fields) := rfl
    have htokens := tokens?_renderFrom (Query.spacing_pieces? hps) 1
    show tokens? (renderFrom 1 _) = _
    rw [htokens, Source.select_eq, tokensFrom_append, tokensFrom_append,
      Source.params_selectStart, List.length_nil, Nat.add_zero, tokensFrom_whereClause,
      tokensFrom_of_params_eq_nil (Source.params_selectEnd q.fields _) _ 1, hsame.1, hsame.2]

/-! ## The meaning of a filter -/

/-- A filter keeps the meaning of its tree.  There is none, and a select has no `WHERE` for it,
exactly when no group at any depth holds a condition.  Otherwise its text is a boolean expression
whose atoms are the compiled conditions in the order of the tree, and whatever truth values these
are given, the expression is worth what the tree is. -/
theorem ConditionGroup.statement?_meaning (g : ConditionGroup) :
    (g.statement? = none ↔ g.isEmpty = true) ∧
      (g.isEmpty = true ↔ ∀ inner, Within inner g → inner.conditions = []) ∧
      (∀ (q : Query) (table : TableName), ∃ start rest : List Token,
        (.word "where" ∈ start ++ rest →
          table.text = "where" ∨ (q.recurse.bind Traversal.maxDepth).isSome = true) ∧
        tokens? ({ q with conditions := g }.select table.text).sql =
          some (start ++ (g.whereTokens ++ rest)) ∧
        tokens? ({ q with conditions := .empty .and }.select table.text).sql =
          some (start ++ rest)) ∧
      ∀ s, g.statement? = some s → ∃ tokens e, tokens? s.sql = some tokens ∧
        readBool? tokens = some e ∧ e.atoms = atomTokens 1 g.flatten ∧
        ∀ v, e.value v 0 = g.value v 0 := by
  refine ⟨?_, isEmpty_iff_within g, ?_, ?_⟩
  · rw [← isNone_filter?, statement?, Option.map_eq_none_iff, Option.isNone_iff_eq_none]
  · intro q table
    obtain ⟨start, rest, hwhere, hselect⟩ := tokens?_select q table
    exact ⟨start, rest, hwhere, hselect g, hselect (.empty .and)⟩
  · intro s hs
    obtain ⟨f, hf, rfl⟩ := Option.map_eq_some_iff.1 hs
    refine ⟨_, f.expr 1, tokens?_statement, readBool?_filter (isFull_filter? g hf) 1, ?_, ?_⟩
    · rw [atoms_expr, ← atoms_filter?, hf]
      rfl
    · intro v
      exact value_filter? g hf 1 v 0

end DocStore
