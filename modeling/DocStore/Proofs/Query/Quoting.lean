import DocStore.Proofs.Query.Content

/-!
# User text stays inside its quotes

The names on a path, the names of projected columns and the reasons of conditions
that do not fit are the only texts of a query that its statements take over.  They
may hold anything, quotes, comments and dollar signs included.

* `Query.quotedTexts` lists these texts in the order of a statement, and
  `tokens?_compile_quotedTexts` says that they are the quoted tokens of its text,
  each one token and decoded to the raw text.
* `Query.shape` forgets the texts but not how many there are.  Queries of one shape
  have statements whose tokens differ in the quoted texts alone (the same theorem).
-/

namespace DocStore

open Sql

/-! ## The texts of a query -/

/-- The names on a path, each as a string literal. -/
def FieldPath.quotedTexts (path : FieldPath) : List (QuoteKind × String) :=
  path.segments.map fun s => (.literal, s)

/-- The name of the column of a projected field. -/
def FieldPath.quotedAlias (path : FieldPath) : List (QuoteKind × String) :=
  [(.identifier, path.dotted)]

/-- A condition shows its path, or the reason why it does not fit. -/
def Condition.quotedTexts (c : Condition) : List (QuoteKind × String) :=
  if c.isFitting then c.field.quotedTexts else [(.literal, c.reason)]

/-- The texts that the statement of a command takes over. -/
def Query.quotedTexts (q : Query) : Command → List (QuoteKind × String) :=
  q.content Condition.quotedTexts FieldPath.quotedTexts FieldPath.quotedAlias

theorem pathView_quoted? (path : FieldPath) :
    pathView Piece.quoted? path = path.quotedTexts :=
  congrFun List.filterMap_eq_map path.segments

theorem conditionView_quoted? (c : Condition) :
    conditionView Piece.quoted? c = c.quotedTexts := by
  rw [conditionView, Condition.quotedTexts]
  cases h : c.isFitting with
  | true =>
    have hfield : (c.fieldPieces dataColumn).filterMap Piece.quoted? = c.field.quotedTexts := by
      rw [Condition.fieldPieces]
      split
      · rw [filterMap_asJson isQuiet_quoted?, pathView_quoted?]
      · rw [filterMap_asText isQuiet_quoted?, pathView_quoted?]
    have hcomparison :
        (Condition.comparison c.operator c.operands).filterMap Piece.quoted? = [] := by
      obtain ⟨field, operator, operands⟩ := c
      rcases Condition.isFitting_cases h with
        ⟨a, rfl, hop⟩ | ⟨low, high, rfl, rfl⟩ | ⟨rfl, rfl⟩ | rfl | rfl
      · simp only [List.mem_cons, List.not_mem_nil, or_false] at hop
        rcases hop with rfl | rfl | rfl | rfl | rfl | rfl | rfl | rfl | rfl | rfl <;> rfl
      · rfl
      · rfl
      · rfl
      · rfl
    rw [Condition.pieces_of_isFitting h, List.cons_append, filterMap_text isQuiet_quoted?,
      List.filterMap_append, hfield, hcomparison, List.append_nil]
    rfl
  | false =>
    rw [Condition.pieces_of_not_isFitting h]
    rfl

/-! ## Shapes -/

/-- As many names. -/
def FieldPath.shape (path : FieldPath) : FieldPath := ⟨path.segments.map fun _ => ""⟩

/-- The same operator; one that is not known loses its name. -/
def Operator.shape : Operator → Operator
  | unknown _ => unknown ""
  | operator => operator

def Condition.shape (c : Condition) : Condition := ⟨c.field.shape, c.operator.shape, c.operands⟩

mutual

def ConditionGroup.shape : ConditionGroup → ConditionGroup
  | ⟨operator, conditions, groups⟩ =>
      ⟨operator, conditions.map Condition.shape, ConditionGroup.shapes groups⟩

def ConditionGroup.shapes : List ConditionGroup → List ConditionGroup
  | [] => []
  | g :: rest => g.shape :: ConditionGroup.shapes rest

end

def SortTerm.shape (s : SortTerm) : SortTerm := { s with field := s.field.shape }

def Traversal.shape (t : Traversal) : Traversal :=
  { t with seedField := t.seedField.shape, linkField := t.linkField.shape }

/-- A query without its texts: the names on paths and of operators that are not known. -/
def Query.shape (q : Query) : Query :=
  { q with
    conditions := q.conditions.shape
    sort := q.sort.map SortTerm.shape
    fields := q.fields.map FieldPath.shape
    recurse := q.recurse.map Traversal.shape }

/-! ## Statements of one shape -/

/-- Pieces that differ in quoted texts alone. -/
def SameBlank (a b : List Piece) : Prop := a.map Piece.blank = b.map Piece.blank

namespace SameBlank

theorem refl (a : List Piece) : SameBlank a a := rfl

theorem cons {p p' : Piece} {a b : List Piece} (hp : p.blank = p'.blank) (h : SameBlank a b) :
    SameBlank (p :: a) (p' :: b) := by
  rw [SameBlank, List.map_cons, List.map_cons, hp, h]

theorem append {a a' b b' : List Piece} (ha : SameBlank a a') (hb : SameBlank b b') :
    SameBlank (a ++ b) (a' ++ b') := by
  rw [SameBlank, List.map_append, List.map_append, ha, hb]

end SameBlank

theorem sameBlank_steps (last : String) (segments : List String) :
    SameBlank (FieldPath.steps last segments)
      (FieldPath.steps last (segments.map fun _ => "")) := by
  induction segments with
  | nil => rfl
  | cons s rest ih =>
    cases rest with
    | nil => rfl
    | cons s' rest => exact .cons rfl (.cons rfl ih)

theorem sameBlank_asText (column : String) (path : FieldPath) :
    SameBlank (path.asText column) (path.shape.asText column) :=
  .cons rfl (sameBlank_steps _ path.segments)

theorem sameBlank_asJson (column : String) (path : FieldPath) :
    SameBlank (path.asJson column) (path.shape.asJson column) :=
  .cons rfl (sameBlank_steps _ path.segments)

namespace Condition

theorem isFitting_shape (c : Condition) : c.shape.isFitting = c.isFitting := by
  obtain ⟨field, operator, operands⟩ := c
  cases operator <;> rfl

theorem operator_shape {c : Condition} (h : c.isFitting = true) :
    c.shape.operator = c.operator := by
  obtain ⟨field, operator, operands⟩ := c
  cases operator with
  | unknown name => simp [isFitting, Operator.isKnown] at h
  | _ => rfl

theorem sameBlank_pieces (column : String) (c : Condition) :
    SameBlank (c.pieces column) (c.shape.pieces column) := by
  have hshape := isFitting_shape c
  cases h : c.isFitting with
  | true =>
    rw [h] at hshape
    have hfield : SameBlank (c.fieldPieces column) (c.shape.fieldPieces column) := by
      rw [fieldPieces, fieldPieces, operator_shape h]
      split
      · exact sameBlank_asJson column c.field
      · exact sameBlank_asText column c.field
    rw [pieces_of_isFitting h, pieces_of_isFitting hshape, operator_shape h]
    exact .append (.cons rfl hfield) (.refl _)
  | false =>
    rw [h] at hshape
    rw [pieces_of_not_isFitting h, pieces_of_not_isFitting hshape]
    rfl

end Condition

mutual

def Filter.shape : Filter → Filter
  | .atom c => .atom c.shape
  | .joined operator parts => .joined operator (Filter.shapes parts)

def Filter.shapes : List Filter → List Filter
  | [] => []
  | f :: rest => f.shape :: Filter.shapes rest

end

theorem Filter.shapes_eq_map (parts : List Filter) :
    Filter.shapes parts = parts.map Filter.shape := by
  induction parts with
  | nil => rfl
  | cons f rest ih => rw [shapes, ih, List.map_cons]

mutual

/-- The shape of a tree has the filter of its shape. -/
theorem filter?_shape :
    ∀ g : ConditionGroup, g.shape.filter? = g.filter?.map Filter.shape
  | ⟨operator, conditions, groups⟩ => by
    have hparts : (conditions.map Condition.shape).map Filter.atom ++
        ConditionGroup.filters (ConditionGroup.shapes groups) =
          (conditions.map Filter.atom ++ ConditionGroup.filters groups).map Filter.shape := by
      rw [filters_shapes groups, List.map_append, List.map_map, List.map_map]
      rfl
    rw [ConditionGroup.shape, ConditionGroup.filter?, ConditionGroup.filter?, hparts]
    cases conditions.map Filter.atom ++ ConditionGroup.filters groups with
    | nil => rfl
    | cons f rest =>
      rw [List.map_cons, Option.map_some, Filter.shape, Filter.shapes_eq_map, List.map_cons]

theorem filters_shapes :
    ∀ gs : List ConditionGroup, ConditionGroup.filters (ConditionGroup.shapes gs) =
      (ConditionGroup.filters gs).map Filter.shape
  | [] => rfl
  | g :: rest => by
    rw [ConditionGroup.shapes, ConditionGroup.filters, ConditionGroup.filters, filter?_shape g,
      filters_shapes rest]
    cases g.filter? <;> rfl

end

mutual

theorem sameBlank_filter (column : String) :
    ∀ f : Filter, SameBlank (f.pieces column) (f.shape.pieces column)
  | .atom c => Condition.sameBlank_pieces column c
  | .joined operator parts =>
    .append (.cons rfl (sameBlank_filters column operator parts)) (.refl _)

theorem sameBlank_filters (column : String) (operator : Connective) :
    ∀ parts : List Filter, SameBlank (Filter.piecesOf column operator parts)
      (Filter.piecesOf column operator (Filter.shapes parts))
  | [] => rfl
  | [f] => sameBlank_filter column f
  | f :: g :: rest =>
    .append (sameBlank_filter column f)
      (.cons rfl (sameBlank_filters column operator (g :: rest)))

end

namespace Rows

def shape (r : Rows) : Rows :=
  { r with filter := r.filter.map Filter.shape, order := r.order.map SortTerm.shape }

theorem sameBlank_whereClause (r : Rows) : SameBlank r.whereClause r.shape.whereClause := by
  rw [whereClause, whereClause, shape]
  cases r.filter with
  | none => rfl
  | some f => exact .cons rfl (sameBlank_filter dataColumn f)

theorem sameBlank_order (start : String) (r : Rows) :
    SameBlank (clause start r.orderTerms? id) (clause start r.shape.orderTerms? id) := by
  have hterm : ∀ s : SortTerm,
      SameBlank (s.field.asText dataColumn ++ [.text (" " ++ s.direction.word)])
        (s.shape.field.asText dataColumn ++ [.text (" " ++ s.shape.direction.word)]) :=
    fun s => .append (sameBlank_asText dataColumn s.field) (.refl _)
  have hterms : ∀ terms : List SortTerm, SameBlank
      (separated (.text ", ") (terms.map fun s =>
        s.field.asText dataColumn ++ [.text (" " ++ s.direction.word)]))
      (separated (.text ", ") ((terms.map SortTerm.shape).map fun s =>
        s.field.asText dataColumn ++ [.text (" " ++ s.direction.word)])) := by
    intro terms
    induction terms with
    | nil => rfl
    | cons s rest ih =>
      cases rest with
      | nil => exact hterm s
      | cons s' rest => exact .append (hterm s) (.cons rfl ih)
  rw [orderTerms?, orderTerms?, shape, List.isEmpty_map]
  cases h : r.order.isEmpty with
  | true => rfl
  | false => exact .cons rfl (hterms r.order)

theorem sameBlank_fromTable (r : Rows) : SameBlank r.fromTable r.shape.fromTable :=
  .cons rfl (.append (.append (.append r.sameBlank_whereClause (sameBlank_order _ r)) (.refl _))
    (.refl _))

theorem isWindowed_shape (r : Rows) : r.shape.isWindowed = r.isWindowed := by
  rw [isWindowed, isWindowed, shape, List.isEmpty_map]

end Rows

theorem sameBlank_walkClause (seed : Rows) (t : Traversal) :
    SameBlank (walkClause seed t) (walkClause seed.shape t.shape) := by
  have hstart : SameBlank (walkStart seed) (walkStart seed.shape) :=
    .append (.cons rfl (Rows.sameBlank_order _ seed)) (.refl _)
  have hhops : SameBlank (walkHops seed.table t) (walkHops seed.shape.table t.shape) :=
    .cons rfl (.cons rfl (.cons rfl
      (.append (sameBlank_asText _ t.linkField) (.cons rfl
      (.append (sameBlank_asText _ t.seedField) (.cons rfl (.refl _)))))))
  rw [walkClause_eq, walkClause_eq]
  exact .append hstart (.append seed.sameBlank_fromTable hhops)

theorem sameBlank_projection (fields : List FieldPath) :
    SameBlank (projection fields) (projection (fields.map FieldPath.shape)) := by
  refine .cons rfl ?_
  induction fields with
  | nil => rfl
  | cons field rest ih =>
    exact .append (.append (.cons rfl (sameBlank_asText _ field)) (.cons rfl (.cons rfl rfl))) ih

namespace Source

def shape : Source → Source
  | rows r => rows r.shape
  | walk seed t => walk seed.shape t.shape

theorem sameBlank_select (s : Source) (fields : List FieldPath) :
    SameBlank (s.select fields) (s.shape.select (fields.map FieldPath.shape)) := by
  cases s with
  | rows r =>
    exact .append (.cons rfl (sameBlank_projection fields)) (.cons rfl r.sameBlank_fromTable)
  | walk seed t =>
    exact .append (.append (.append (sameBlank_walkClause seed t)
      (.cons rfl (sameBlank_projection fields))) (.refl _)) (.refl _)

theorem sameBlank_selectKeyed (s : Source) (lock : Bool) :
    SameBlank (s.selectKeyed lock) (s.shape.selectKeyed lock) := by
  cases s with
  | rows r => exact .append (.cons rfl r.sameBlank_fromTable) (.refl _)
  | walk seed t =>
    exact .append (.append (.append (sameBlank_walkClause seed t) (.refl _)) (.refl _)) (.refl _)

theorem sameBlank_count (s : Source) : SameBlank s.count s.shape.count :=
  .append (.cons rfl (s.sameBlank_selectKeyed false)) (.refl _)

theorem sameBlank_delete (s : Source) : SameBlank s.delete s.shape.delete := by
  cases s with
  | rows r =>
    rw [shape, delete, delete, r.isWindowed_shape]
    split
    · exact .append (.append (.refl _) r.sameBlank_fromTable) (.refl _)
    · exact .append (.append (.refl _) r.sameBlank_whereClause) (.refl _)
  | walk seed t =>
    exact .append (.append (sameBlank_walkClause seed t) (.refl _)) (.refl _)

end Source

namespace Query

theorem source_shape (q : Query) (table : String) :
    q.shape.source table = (q.source table).shape := by
  rw [source, source, shape]
  cases q.recurse with
  | none => simp [Source.shape, Rows.shape, filter?_shape]
  | some t => simp [Source.shape, Rows.shape, filter?_shape]

/-- A statement and that of the query's shape differ in quoted texts alone. -/
theorem sameBlank_pieces? {q : Query} {table : TableName} {command : Command} {ps : List Piece}
    (h : q.pieces? table command = some ps) :
    ∃ ps', q.shape.pieces? table command = some ps' ∧ SameBlank ps ps' := by
  cases command with
  | filter =>
    obtain ⟨f, hf, rfl⟩ := Option.map_eq_some_iff.1 h
    refine ⟨f.shape.pieces dataColumn, ?_, sameBlank_filter dataColumn f⟩
    rw [pieces?, shape, filter?_shape, hf]
    rfl
  | select =>
    refine ⟨_, rfl, ?_⟩
    rw [← Option.some.inj h, source_shape]
    exact Source.sameBlank_select _ _
  | selectKeyed lock =>
    refine ⟨_, rfl, ?_⟩
    rw [← Option.some.inj h, source_shape]
    exact Source.sameBlank_selectKeyed _ _
  | count =>
    refine ⟨_, rfl, ?_⟩
    rw [← Option.some.inj h, source_shape]
    exact Source.sameBlank_count _
  | delete =>
    refine ⟨_, rfl, ?_⟩
    rw [← Option.some.inj h, source_shape]
    exact Source.sameBlank_delete _

/-- Queries of one shape have statements that differ in quoted texts alone. -/
theorem sameBlank_of_shape_eq {q q' : Query} (hshape : q'.shape = q.shape) {table : TableName}
    {command : Command} {ps : List Piece} (h : q.pieces? table command = some ps) :
    ∃ ps', q'.pieces? table command = some ps' ∧ SameBlank ps' ps := by
  obtain ⟨mid, hmid, hsame⟩ := sameBlank_pieces? h
  rw [← hshape] at hmid
  cases h' : q'.pieces? table command with
  | none =>
    cases command with
    | filter =>
      rw [pieces?, Option.map_eq_none_iff] at h'
      rw [pieces?, shape, filter?_shape, h'] at hmid
      simp at hmid
    | _ => simp [pieces?] at h'
  | some ps' =>
    obtain ⟨mid', hmid', hsame'⟩ := sameBlank_pieces? h'
    obtain rfl : mid = mid' := Option.some.inj (hmid.symm.trans hmid')
    exact ⟨ps', rfl, hsame'.trans hsame.symm⟩

/-- User text stays inside its quotes.  In the text of a statement every name on a path, every
name of a column and every reason is one closed quoted token that decodes to it, and there is
no other; and the statements of queries that differ in such texts alone have the same tokens
but for the texts. -/
theorem tokens?_compile_quotedTexts (q : Query) (table : TableName) (command : Command)
    (s : Statement) (h : q.compile table command = some s) :
    ∃ tokens, tokens? s.sql = some tokens ∧
      tokens.filterMap Token.quoted? = q.quotedTexts command ∧
      ∀ q' : Query, q'.shape = q.shape →
        ∃ s' tokens', q'.compile table command = some s' ∧ tokens? s'.sql = some tokens' ∧
          tokens'.map Token.blank = tokens.map Token.blank := by
  obtain ⟨ps, hps, -, hspacing, htokens⟩ := tokens?_compile h
  refine ⟨_, htokens, ?_, ?_⟩
  · rw [quoted?_tokensFrom hspacing, filterMap_pieces? isQuiet_quoted? hps, quotedTexts,
      funext conditionView_quoted?, funext pathView_quoted?]
    rfl
  · intro q' hshape
    obtain ⟨ps', hps', hsame⟩ := sameBlank_of_shape_eq hshape hps
    have hcompile : q'.compile table command = some (.ofPieces ps') := by
      rw [compile_eq, hps', Option.map_some]
    have htokens' := tokens?_renderFrom (spacing_pieces? hps') 1
    refine ⟨_, _, hcompile, htokens', ?_⟩
    rw [← map_blank_tokensFrom, hsame, map_blank_tokensFrom]

/-- The table of the examples. -/
def docs : TableName := ⟨"docs", by decide, by decide⟩

/-- A query whose texts try to leave their quotes. -/
def hostile : Query :=
  { all with
    conditions := ⟨.or, [⟨⟨["it's", "--"]⟩, .eq, [.string "x"]⟩],
      [⟨.and, [⟨⟨["a"]⟩, .unknown "') OR 1=1; --", []⟩], []⟩]⟩
    sort := [⟨⟨["$1"]⟩, .desc⟩]
    fields := [⟨["\" FROM secrets --"]⟩] }

/-- Quotes, comments and placeholders in the texts of a query are read as parts of them. -/
theorem tokens?_compile_hostile :
    hostile.compile docs .select = some (hostile.select docs.text) ∧
      ∃ tokens, tokens? (hostile.select docs.text).sql = some tokens ∧
        tokens.filterMap Token.quoted? =
          [(.literal, "\" FROM secrets --"), (.identifier, "\" FROM secrets --"),
            (.literal, "it's"), (.literal, "--"),
            (.literal, "unknown operator '') OR 1=1; --' on a"), (.literal, "$1")] ∧
        ∀ q' : Query, q'.shape = hostile.shape →
          ∃ s' tokens', q'.compile docs .select = some s' ∧ tokens? s'.sql = some tokens' ∧
            tokens'.map Token.blank = tokens.map Token.blank :=
  ⟨rfl, tokens?_compile_quotedTexts hostile docs .select _ rfl⟩

end Query

end DocStore
