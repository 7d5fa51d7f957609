import DocStore.Proofs.Query.Meaning
import DocStore.Proofs.Query.Shape

/-!
# Compiled statements, read back

`Query.origin` says what a query means as a source of rows: the table, the filter
as the tokens of its own statement, order and window, and for a walk the same rows
as its seeds, numbered in the same order, with the two fields and the bound.  This
module reads the text of each command back and finds that origin in it, for every
query and every table name.

The proof follows the grammar: a lemma `reads_…` for each part of it, from field
paths to commands.
-/

namespace DocStore

open Sql Sql.Grammar

/-! ## What a query means -/

/-- The filter of a tree, as the tokens of its own statement. -/
def ConditionGroup.expression? (g : ConditionGroup) : Option (List Token) :=
  g.statement?.bind fun s => Sql.tokens? s.sql

namespace Query

/-- The rows that a query matches, in its order and through its window. -/
def scan (q : Query) (table : String) : Scan :=
  ⟨table, q.conditions.expression?, q.sort, q.limit, q.offset⟩

/-- The walk of a query. -/
def walkOf (q : Query) (table : String) (t : Traversal) : Walk :=
  ⟨q.sort, q.scan table, table, t.linkField, t.seedField, t.maxDepth⟩

/-- Where the documents of a query come from. -/
def origin (q : Query) (table : String) : Origin :=
  match q.recurse with
  | none => .scan (q.scan table)
  | some t => .walk (q.walkOf table t) table

/-- The projected fields, each under its dotted path. -/
def namedFields (q : Query) : List (FieldPath × String) := q.fields.map fun f => (f, f.dotted)

/-- How the documents of a query are deleted.  Without a walk, order and window there is nothing
to choose beside the filter. -/
def deletion (q : Query) (table : String) : Reading :=
  match q.recurse with
  | none =>
      if q.isWindowed then .deleteChosen table (q.scan table)
      else .delete table q.conditions.expression?
  | some t => .deleteWalked (q.walkOf table t) table

/-- The rows of a query. -/
def rows (q : Query) (table : String) : Rows :=
  ⟨table, q.conditions.filter?, q.sort, q.limit, q.offset⟩

theorem source_eq (q : Query) (table : String) :
    q.source table =
      match q.recurse with
      | none => .rows (q.rows table)
      | some t => .walk (q.rows table) t := rfl

end Query

/-- A group stands in parentheses. -/
theorem tokensFrom_joined (operator : Connective) (parts : List Filter) (n : Nat) :
    tokensFrom n (Filter.pieces dataColumn (.joined operator parts)) =
      .symbol '(' :: tokensFrom n (Filter.piecesOf dataColumn operator parts) ++
        [.symbol ')'] := by
  rw [Filter.pieces, List.cons_append, tokensFrom, tokensFrom_append]
  rfl

namespace Reading

variable {n : Nat} {rest : List Token}

/-! ## Paths -/

/-- No step into a document goes on. -/
def NoStep (ts : List Token) : Prop := ∀ op, ts.head? ≠ some (.operator op)

theorem noStep_of_isEnd {words : List String} {ts : List Token} (h : IsEnd words ts) :
    NoStep ts := by
  intro op hhead
  have hend := h _ hhead
  simp [ends] at hend

theorem stepsFrom_tokensFrom {segments : List String} (hne : segments ≠ []) (n : Nat)
    (rest : List Token) :
    stepsFrom (tokensFrom n (FieldPath.steps "->>" segments) ++ rest) = some (segments, rest) := by
  fun_induction FieldPath.steps "->>" segments with
  | case1 => exact absurd rfl hne
  | case2 s => rfl
  | case3 s rest' hrest ih =>
    have htokens : tokensFrom n (.text "->" :: .literal s :: FieldPath.steps "->>" rest') ++ rest =
        .operator "->" :: .quoted .literal s ::
          (tokensFrom n (FieldPath.steps "->>" rest') ++ rest) := rfl
    have hmore := ih (by simpa using hrest)
    rw [htokens, stepsFrom, if_pos rfl, hmore]
    rfl

/-- A path is read where no operator stands behind it. -/
theorem reads_path (column : String) (p : FieldPath) (hrest : NoStep rest) :
    Reads (path column) n (p.asText column) p rest := by
  have hsteps : Reads steps n (FieldPath.steps "->>" p.segments) p.segments rest := by
    cases hsegments : p.segments with
    | nil =>
      show steps rest = _
      rw [steps]
      intro op more hrest'
      exact hrest op (hrest' ▸ rfl)
    | cons s more =>
      have hread := stepsFrom_tokensFrom (List.cons_ne_nil s more) n rest
      cases more with
      | nil => exact hread
      | cons _ _ => exact hread
  rw [path, FieldPath.asText]
  exact .phrase (.map hsteps fun _ => .pure _)

/-! ## Clauses -/

/-- A clause is read as the part that it holds. -/
theorem reads_clause {α β : Type} {g : Grammar β} {s : String} {o : Option α}
    {f : α → List Piece} {v : α → β} (hnone : sees s rest = some (false, rest))
    (hsome : ∀ a, o = some a → Reads g n (f a) (v a) rest) :
    Reads (clause s g) n (Rows.clause s o f) (o.map v) rest := by
  cases ho : o with
  | none => exact .sees_not hnone (.pure _)
  | some a => exact .sees (.map (hsome a ho) fun _ => .pure _)

/-- A clause that may be missing, in front of what ends something with other words. -/
theorem isEnd_clause {α : Type} {words : List String} {start w : String} {part : Option α}
    {f : α → List Piece} (hrest : IsEnd words rest)
    (hstart : (tokens? start).getD [] = [.word w] ∨
      ∃ v, (tokens? start).getD [] = [.word w, .word v]) :
    IsEnd (w :: words) (tokensFrom n (Rows.clause start part f) ++ rest) := by
  cases part with
  | none => exact hrest.mono (List.subset_cons_self w words)
  | some a =>
    rw [Rows.clause, tokensFrom, Piece.tokens]
    rcases hstart with h | ⟨v, h⟩
    · rw [h]
      exact isEnd_cons (by simp [ends]) _
    · rw [h]
      exact isEnd_cons (by simp [ends]) _

theorem reads_sortTerm (s : SortTerm) :
    Reads sortTerm n (s.field.asText dataColumn ++ [.text (" " ++ s.direction.word)]) s rest := by
  have hword : ∀ w, NoStep (.word w :: rest) := fun w op h => by simp at h
  obtain ⟨field, direction⟩ := s
  cases direction with
  | asc =>
    have htext : " " ++ SortDirection.asc.word = " ASC" := rfl
    rw [htext]
    exact .bind (reads_path _ field (hword "asc")) (.sees (.pure _))
  | desc =>
    have htext : " " ++ SortDirection.desc.word = " DESC" := rfl
    have hnot : sees " ASC" (.word "desc" :: rest) = some (false, .word "desc" :: rest) :=
      sees_getElem (i := 0) rfl rfl (by decide)
    rw [htext]
    exact .bind (reads_path _ field (hword "desc")) (.sees_not hnot (.phrase (.pure _)))

/-- The order of rows, behind the text that starts it. -/
theorem reads_order {words : List String} {s : String} (hrest : IsEnd words rest)
    (hnone : sees s rest = some (false, rest)) (r : Rows) :
    ∃ order, order.getD [] = r.order ∧
      Reads (clause s (list sortTerm)) n (Rows.clause s r.orderTerms? id) order rest := by
  rw [Rows.orderTerms?]
  split
  · rename_i hempty
    exact ⟨none, (List.isEmpty_iff.1 hempty).symm, .sees_not hnone (.pure _)⟩
  · rename_i hne
    refine ⟨some r.order, rfl, .sees (.map ?_ fun _ => .pure _)⟩
    have hread := reads_list (g := sortTerm) (v := id) (n := n) (mt List.isEmpty_iff.2 hne)
      (fun _ => True) (fun _ => trivial) trivial (sees_comma_of_isEnd hrest)
      fun s _ m ts _ => reads_sortTerm s
    rwa [List.map_id] at hread

theorem reads_number (start : String) (k : Option Nat)
    (hnone : sees start rest = some (false, rest)) :
    Reads (clause start number) n (Rows.clause start k fun k => [.number k]) k rest := by
  have hread := reads_clause (n := n) (v := id) (o := k) hnone fun k _ => Reads.number_self k
  rwa [Option.map_id] at hread

/-! ## Filters -/

/-- Parts of an atom are no parentheses. -/
theorem stays_of_role {ts : List Token} (h : ∀ t ∈ ts, t.role = .operand) : Stays ts := by
  refine .of_forall fun t ht => ⟨?_, ?_⟩
  · rintro rfl
    exact absurd (h _ ht) (by decide)
  · rintro rfl
    exact absurd (h _ ht) (by decide)

theorem stays_operator (op : Operator) (n : Nat) : Stays (op.tokens n) := by
  cases op with
  | includes =>
    have hinner : Stays [.placeholder n, .cast, .word "text", .symbol '[', .symbol ']'] :=
      .of_forall (by simp)
    exact .append (.of_forall (by simp)) hinner.parens
  | _ => exact .of_forall (by simp [Operator.tokens, castTokens])

theorem stays_condition (c : Condition) (n : Nat) :
    Stays (tokensFrom n (c.pieces dataColumn)) := by
  cases h : c.isFitting with
  | true =>
    rw [tokensFrom_pieces_of_isFitting h]
    exact .append (stays_of_role (role_fieldPieces c n).2).parens (stays_operator _ n)
  | false =>
    have hreason : Stays [.quoted .literal c.reason] := .of_forall (by simp)
    rw [tokensFrom_pieces_of_not_isFitting h]
    exact .append (.of_forall (by simp)) hreason.parens

mutual

/-- A filter keeps its parentheses closed. -/
theorem stays_filter : ∀ (f : Filter) (n : Nat), Stays (tokensFrom n (f.pieces dataColumn))
  | .atom c, n => by
    rw [Filter.pieces]
    exact stays_condition c n
  | .joined operator parts, n => by
    rw [tokensFrom_joined]
    exact (stays_filters operator parts n).parens

theorem stays_filters (operator : Connective) : ∀ (parts : List Filter) (n : Nat),
    Stays (tokensFrom n (Filter.piecesOf dataColumn operator parts))
  | [], _ => .nil
  | [f], n => by
    rw [Filter.piecesOf]
    exact stays_filter f n
  | f :: g :: rest, n => by
    obtain ⟨t, htoken, hrole⟩ := tokensFrom_connective operator
    have ht : t ≠ .symbol '(' ∧ t ≠ .symbol ')' := by
      constructor
      · rintro rfl
        simp [Token.role] at hrole
      · rintro rfl
        simp [Token.role] at hrole
    rw [Filter.piecesOf, tokensFrom_append, htoken]
    · exact .append (stays_filter f n) (.cons ht (stays_filters operator (g :: rest) _))
    · exact List.cons_ne_nil g rest

end

theorem filter?_eq_joined {g : ConditionGroup} {f : Filter} (h : g.filter? = some f) :
    ∃ operator parts, f = .joined operator parts := by
  obtain ⟨operator, conditions, groups⟩ := g
  rw [ConditionGroup.filter?] at h
  split at h
  · simp at h
  · exact ⟨operator, _, (Option.some.inj h).symm⟩

theorem expression?_eq (g : ConditionGroup) :
    g.expression? = g.filter?.map fun f => tokensFrom 1 (f.pieces dataColumn) := by
  rw [ConditionGroup.expression?, ConditionGroup.statement?]
  cases g.filter? with
  | none => rfl
  | some f => exact tokens?_statement

/-- The filter of a query is read up to the clauses behind it. -/
theorem reads_where (q : Query) (table : String)
    (hrest : IsEnd ["order", "limit", "offset", "for", "returning"] rest) :
    Reads (clause " WHERE " expression) 1 (q.rows table).whereClause q.conditions.expression?
      rest := by
  rw [expression?_eq]
  refine reads_clause (sees_isEnd (w := "where") hrest rfl (by decide)) fun f hf => ?_
  obtain ⟨operator, parts, rfl⟩ := filter?_eq_joined hf
  rw [Reads, tokensFrom_joined]
  exact expression_parens (stays_filters operator parts 1) (hrest.mono (by decide))

/-! ## Rows -/

theorem reads_scan (q : Query) (table : String) (hrest : IsEnd ["for", "returning"] rest) :
    Reads scan 1 (q.rows table).fromTable (q.scan table) rest := by
  -- What stands behind each clause, from the last one to the first.
  have hoffset : ∀ m, IsEnd ["offset", "for", "returning"]
      (tokensFrom m (Rows.clause " OFFSET " q.offset fun k => [.number k]) ++ rest) :=
    fun m => isEnd_clause hrest (.inl rfl)
  have hlimit : ∀ m, IsEnd ["limit", "offset", "for", "returning"]
      (tokensFrom m (Rows.clause " LIMIT " q.limit (fun k => [.number k]) ++
        Rows.clause " OFFSET " q.offset fun k => [.number k]) ++ rest) := by
    intro m
    rw [tokensFrom_append, List.append_assoc]
    exact isEnd_clause (hoffset _) (.inl rfl)
  have horder : ∀ m, IsEnd ["order", "limit", "offset", "for", "returning"]
      (tokensFrom m (Rows.clause " ORDER BY " (q.rows table).orderTerms? id ++
        (Rows.clause " LIMIT " q.limit (fun k => [.number k]) ++
          Rows.clause " OFFSET " q.offset fun k => [.number k])) ++ rest) := by
    intro m
    rw [tokensFrom_append, List.append_assoc]
    exact isEnd_clause (hlimit _) (.inr ⟨_, rfl⟩)
  obtain ⟨order, hvalue, hreads⟩ := reads_order
    (n := 1 + (params (q.rows table).whereClause).length) (s := " ORDER BY ") (hlimit _)
    (sees_isEnd (w := "order") (hlimit _) rfl (by decide)) (q.rows table)
  have hscan : (⟨table, q.conditions.expression?, order.getD [], q.limit, q.offset⟩ : Scan) =
      q.scan table := by
    rw [hvalue]
    rfl
  rw [Rows.fromTable, Rows.tail, List.append_assoc, List.append_assoc, ← hscan]
  exact .name (.bind (reads_where q table (horder _)) (.bind hreads
    (.bind (reads_number " LIMIT " q.limit (sees_isEnd (w := "limit") (hoffset _) rfl (by decide)))
      (.map (reads_number " OFFSET " q.offset (sees_isEnd (w := "offset") hrest rfl (by decide)))
        fun _ => .pure _))))

theorem params_order (start : String) (r : Rows) :
    params (Rows.clause start r.orderTerms? id) = [] := by
  rw [params, Rows.filterMap_order isQuiet_param?, funext pathView_param?]
  simp

/-! ## Walks -/

/-- A walk is read whatever stands behind it. -/
theorem reads_walk (q : Query) (table : String) (t : Traversal) :
    Reads (clause walkWords walk) 1 (walkClause (q.rows table) t) (some (q.walkOf table t))
      rest := by
  have hclose : ∀ ts, IsEnd [] (.symbol ')' :: ts) := isEnd_cons rfl
  obtain ⟨order, hvalue, hnumbering⟩ := reads_order (n := 1) (s := "ORDER BY ") (hclose _)
    (sees_isEnd (w := "order") (hclose _) rfl (by decide)) (q.rows table)
  have hwalk : (⟨order.getD [], q.scan table, table, t.linkField, t.seedField, t.maxDepth⟩ :
      Walk) = q.walkOf table t := by
    rw [hvalue]
    rfl
  rw [walkClause_eq, walkStart, walkHops, ← hwalk]
  simp only [List.append_assoc, List.cons_append, List.nil_append]
  refine .sees (s := walkWords) (.map ?_ fun _ => .pure _)
  refine .bind_quiet (params_order _ _) hnumbering (.phrase ?_)
  refine .bind (reads_scan q table (isEnd_cons rfl _)) (.phrase (.name (.phrase ?_)))
  refine .bind (reads_path _ t.linkField (noStep_of_isEnd (hclose _))) (.phrase ?_)
  refine .bind (reads_path _ t.seedField (noStep_of_isEnd (hclose _))) (.phrase ?_)
  refine .bind (reads_number _ t.maxDepth ?_) (.phrase (.pure _))
  exact sees_isEnd (w := "where") (hclose _) rfl (by decide)

/-- The first token of pieces is that of the text they start with. -/
theorem head_tokensFrom {sql : String} {t : Token} (h : ((tokens? sql).getD []).head? = some t)
    (qs : List Piece) : (tokensFrom n (.text sql :: qs) ++ rest)[0]? = some t := by
  rw [tokensFrom, Piece.tokens, List.append_assoc, ← List.head?_eq_getElem?, List.head?_append, h,
    Option.some_or]

theorem head_walkWords : ((tokens? walkWords).getD []).head? = some (.word "with") := by
  decide +kernel

theorem head_walkClause (seed : Rows) (t : Traversal) (qs : List Piece) (n : Nat)
    (rest : List Token) :
    (tokensFrom n (walkClause seed t ++ qs) ++ rest)[0]? = some (.word "with") :=
  head_tokensFrom head_walkWords _

/-- A walk does not stand where another word does. -/
theorem sees_walkWords {ts : List Token} {w : String} (hts : ts[0]? = some (.word w))
    (hw : w ≠ "with") : sees walkWords ts = some (false, ts) := by
  refine sees_getElem (i := 0) (List.head?_eq_getElem?.symm.trans head_walkWords) hts ?_
  simpa using hw.symm

/-! ## Selects -/

theorem reads_field (f : FieldPath) :
    Reads field n (f.asText dataColumn ++ [.text " AS ", .identifier f.dotted]) (f, f.dotted)
      rest := by
  have hword : NoStep (.word "as" :: .quoted .identifier f.dotted :: rest) :=
    fun op h => by simp at h
  exact .bind (reads_path _ f hword) (.phrase (.quotedName (.pure _)))

theorem params_projection (fields : List FieldPath) : params (projection fields) = [] := by
  have hview := filterMap_projection isQuiet_param? { Query.all with fields }
  rw [params, hview]
  simp [Query.fieldContent, pathView_param?, aliasView, Piece.param?]

/-- The documents and the projected fields, each under its dotted path. -/
theorem reads_documents {entries documents : String} {t : Token} (fields : List FieldPath)
    (hentries : ((tokens? entries).getD [])[1]? = some t) (ht : t ≠ .word "data")
    (hdocuments : (tokens? documents).getD [] = [.word "select"]) :
    Reads (items entries documents) n
      (.text documents :: (projection fields ++ [.text " FROM "]))
      (.documents (fields.map fun f => (f, f.dotted))) rest := by
  have hsecond : (tokensFrom n (.text documents :: (projection fields ++ [.text " FROM "])) ++
      rest)[1]? = some (.word "data") := by
    rw [tokensFrom, Piece.tokens, hdocuments]
    rfl
  have hfrom : ∀ m, sees ", " (tokensFrom m [.text " FROM "] ++ rest) =
      some (false, tokensFrom m [.text " FROM "] ++ rest) :=
    fun m => sees_getElem (i := 0) rfl rfl (by decide)
  refine .sees_not (sees_getElem hentries hsecond ht) (.phrase (.phrase ?_))
  exact .bind (reads_behindCommas (fun _ => True) (fun _ => trivial) trivial (hfrom _)
    fun f _ m ts _ => reads_field f) (.phrase (.pure _))

/-- A lock is read where there is one. -/
theorem reads_lock {s : String} (hs : ((tokens? s).getD [])[0]? = some (.word "for"))
    (hrest : IsEnd [] rest) (lock : Bool) :
    Reads (sees s) n (if lock then [.text s] else []) lock rest := by
  cases lock with
  | false => exact sees_isEnd hrest hs (by decide)
  | true => exact .sees_self s

/-- Behind the rows stands a lock at most. -/
theorem isEnd_lock (hrest : IsEnd [] rest) (lock : Bool) :
    IsEnd ["for", "returning"] (tokensFrom n (if lock then [.text " FOR UPDATE"] else []) ++
      rest) := by
  cases lock with
  | false => exact hrest.mono (List.nil_subset _)
  | true => exact isEnd_cons rfl _

/-- Pieces that read as a select of a query, with or without a walk in front. -/
inductive Selects (q : Query) (table : String) (s : Selection) (rest : List Token) :
    List Piece → Prop where
  | scanned {ps : List Piece} {w : String}
      (hfirst : (tokensFrom 1 ps ++ rest)[0]? = some (.word "select"))
      (hsecond : (tokensFrom 1 ps ++ rest)[1]? = some (.word w)) (hw : w ≠ "count")
      (h : Reads scanned 1 ps s rest) : Selects q table s rest ps
  | walked {t : Traversal} {ps : List Piece}
      (hfirst : ∀ m, (tokensFrom m ps ++ rest)[0]? = some (.word "select"))
      (h : ∀ m, Reads (walked (q.walkOf table t)) m ps s rest) :
      Selects q table s rest (walkClause (q.rows table) t ++ ps)

theorem Selects.reads_selection {q : Query} {table : String} {s : Selection} {ps : List Piece}
    (h : Selects q table s rest ps) : Reads selection 1 ps s rest := by
  cases h with
  | scanned hfirst _ _ h =>
    have hnone : Reads (clause walkWords walk) 1 [] none (tokensFrom 1 ps ++ rest) :=
      .sees_not (sees_walkWords hfirst (by decide)) (.pure _)
    exact .bind (p := []) hnone h
  | walked _ h => exact .bind (reads_walk q table _) (h _)

theorem Selects.reads_statement {q : Query} {table : String} {s : Selection} {ps : List Piece}
    (h : Selects q table s rest ps) : Reads statement 1 ps (.select s) rest := by
  -- No statement but a delete starts with its word, and behind a walk the next word decides.
  have hselect : ∀ {ts : List Token} {w : String}, ts[0]? = some (.word w) → w ≠ "delete" →
      sees "DELETE FROM " ts = some (false, ts) := fun hts hw =>
    sees_getElem (i := 0) (a := .word "delete") rfl hts (by simpa using hw.symm)
  cases h with
  | scanned hfirst hsecond hw h =>
    have hcount := sees_getElem (s := "SELECT COUNT(*) FROM (") (i := 1) (a := .word "count") rfl
      hsecond (by simpa using hw.symm)
    have hnone : Reads (clause walkWords walk) 1 [] none (tokensFrom 1 ps ++ rest) :=
      .sees_not (sees_walkWords hfirst (by decide)) (.pure _)
    refine .sees_not hcount (.sees_not (hselect hfirst (by decide)) ?_)
    exact .bind (p := []) hnone (.map h fun _ => .pure _)
  | @walked t ps hfirst h =>
    have hwith := head_walkClause (q.rows table) t ps 1 rest
    have hcount := sees_getElem (s := "SELECT COUNT(*) FROM (") (i := 0) (a := .word "select") rfl
      hwith (by decide)
    have hremoved := fun m => sees_getElem (s := ", removed AS (DELETE FROM ") (i := 0)
      (a := .symbol ',') rfl (hfirst m) (by decide)
    refine .sees_not hcount (.sees_not (hselect hwith (by decide)) ?_)
    exact .bind (reads_walk q table t) (.sees_not (hremoved _) (.map (h _) fun _ => .pure _))

/-! ## Commands -/

theorem selects_select (q : Query) (table : String) (hrest : IsEnd [] rest) :
    Selects q table ⟨.documents q.namedFields, q.origin table, false⟩ rest
      ((q.source table).select q.fields) := by
  rw [Query.source_eq, Query.origin]
  cases q.recurse with
  | none =>
    have hpieces : (Source.rows (q.rows table)).select q.fields =
        (.text "SELECT " :: (projection q.fields ++ [.text " FROM "])) ++
          (q.rows table).fromTable := by
      simp [Source.select]
    have hquiet : params (.text "SELECT " :: (projection q.fields ++ [.text " FROM "])) = [] := by
      rw [params, filterMap_text isQuiet_param?, List.filterMap_append, ← params,
        params_projection]
      rfl
    show Selects q table _ rest ((Source.rows (q.rows table)).select q.fields)
    rw [hpieces]
    refine .scanned (w := "data") rfl rfl (by decide) ?_
    refine .bind_quiet hquiet (reads_documents q.fields rfl (by decide) rfl) ?_
    exact .map (reads_scan q table (hrest.mono (List.nil_subset _))) fun _ =>
      .map (reads_lock rfl hrest false) fun _ => .pure _
  | some t =>
    have hpieces : (Source.walk (q.rows table) t).select q.fields =
        walkClause (q.rows table) t ++ ((.text " SELECT " :: (projection q.fields ++
          [.text " FROM "])) ++ (.name table :: .text " AS doc" :: joinReached "doc")) := by
      simp [Source.select, Query.rows]
    show Selects q table _ rest ((Source.walk (q.rows table) t).select q.fields)
    rw [hpieces]
    refine .walked (fun _ => rfl) fun m => ?_
    refine .bind (reads_documents q.fields rfl (by decide) rfl) (.name (.phrase ?_))
    exact .phrase (.map (reads_lock rfl hrest false) fun _ => .pure _)

theorem selects_selectKeyed (q : Query) (table : String) (lock : Bool) (hrest : IsEnd [] rest) :
    Selects q table ⟨.entries, q.origin table, lock⟩ rest
      ((q.source table).selectKeyed lock) := by
  rw [Query.source_eq, Query.origin]
  cases q.recurse with
  | none =>
    have hitems : ∀ rest, Reads (items "SELECT id, data FROM " "SELECT ") 1
        [.text "SELECT id, data FROM "] .entries rest := fun _ => .sees (.pure _)
    refine .scanned (w := "id") rfl rfl (by decide) ?_
    refine .bind (p := [.text "SELECT id, data FROM "]) (hitems _) ?_
    exact .bind (reads_scan q table (isEnd_lock hrest lock))
      (.map (reads_lock rfl hrest lock) fun _ => .pure _)
  | some t =>
    have hpieces : (Source.walk (q.rows table) t).selectKeyed lock =
        walkClause (q.rows table) t ++ (.text " SELECT doc.id, doc.data FROM " :: .name table ::
          .text " AS doc" :: (joinReached "doc" ++
            (if lock then [.text " FOR UPDATE OF doc"] else []))) := by
      simp [Source.selectKeyed, Query.rows]
    have hitems : ∀ m rest, Reads (items " SELECT doc.id, doc.data FROM " " SELECT ") m
        [.text " SELECT doc.id, doc.data FROM "] .entries rest := fun _ _ => .sees (.pure _)
    show Selects q table _ rest ((Source.walk (q.rows table) t).selectKeyed lock)
    rw [hpieces]
    refine .walked (fun _ => rfl) fun m => ?_
    refine .bind (p := [.text " SELECT doc.id, doc.data FROM "]) (hitems m _) ?_
    refine .name (.phrase (.bind (p := joinReached "doc") (.phrase_self _) ?_))
    exact .map (reads_lock rfl hrest lock) fun _ => .pure _

theorem reads_count (q : Query) (table : String) :
    Reads statement 1 (q.source table).count (.count ⟨.entries, q.origin table, false⟩) [] := by
  have hselect : ∀ ts, Reads selection 1 ((q.source table).selectKeyed false)
      ⟨.entries, q.origin table, false⟩ (.symbol ')' :: ts) :=
    fun ts => (selects_selectKeyed q table false (isEnd_cons rfl ts)).reads_selection
  exact .sees (.bind (hselect _) (.phrase (.pure _)))

/-- Ids are chosen by no filter: those start with a parenthesis. -/
theorem sees_chosen (q : Query) (table : String) :
    let ts := tokensFrom n ((q.rows table).whereClause ++ [.text " RETURNING id"]) ++ rest
    sees " WHERE id IN (SELECT id FROM " ts = some (false, ts) := by
  intro ts
  cases hf : q.conditions.filter? with
  | none =>
    have hts : ts[0]? = some (.word "returning") := by
      show (tokensFrom n (Rows.clause " WHERE " q.conditions.filter? _ ++ _) ++ rest)[0]? = _
      rw [hf]
      rfl
    exact sees_getElem (a := .word "where") rfl hts (by decide)
  | some f =>
    obtain ⟨operator, parts, rfl⟩ := filter?_eq_joined hf
    have hts : ts[1]? = some (.symbol '(') := by
      show (tokensFrom n (Rows.clause " WHERE " q.conditions.filter? _ ++ _) ++ rest)[1]? = _
      rw [hf, Rows.clause, Filter.pieces]
      rfl
    exact sees_getElem (a := .word "id") rfl hts (by decide)

theorem reads_delete (q : Query) (table : String) :
    Reads statement 1 (q.source table).delete (q.deletion table) [] := by
  rw [Query.source_eq, Query.deletion]
  cases q.recurse with
  | none =>
    have hcount : ∀ ts, sees "SELECT COUNT(*) FROM (" (.word "delete" :: ts) =
        some (false, .word "delete" :: ts) :=
      fun ts => sees_getElem (i := 0) (a := .word "select") rfl rfl (by decide)
    have hwindowed : (q.rows table).isWindowed = q.isWindowed := rfl
    show Reads statement 1 (Source.rows (q.rows table)).delete _ []
    rw [Source.delete, hwindowed]
    split
    · refine .sees_not (hcount _) (.sees (.name (.sees ?_)))
      exact .bind (reads_scan q table (isEnd_cons rfl _)) (.phrase (.pure _))
    · have hend : IsEnd ["order", "limit", "offset", "for", "returning"]
          [.word "returning", .word "id"] := isEnd_cons rfl _
      refine .sees_not (hcount _) (.sees (.name (.sees_not (sees_chosen q table) ?_)))
      exact .bind (reads_where q table hend) (.phrase (.pure _))
  | some t =>
    have hpieces : (Source.walk (q.rows table) t).delete = walkClause (q.rows table) t ++
        (.text ", removed AS (DELETE FROM " :: .name table ::
          .text " WHERE id IN (SELECT id FROM walk) RETURNING id) SELECT removed.id FROM removed" ::
            joinReached "removed") := by
      simp [Source.delete, Query.rows]
    have hwith := fun ps => head_walkClause (q.rows table) t ps 1 []
    have hcount := fun ps => sees_getElem (s := "SELECT COUNT(*) FROM (") (i := 0)
      (a := .word "select") rfl (hwith ps) (by decide)
    have hdelete := fun ps => sees_getElem (s := "DELETE FROM ") (i := 0)
      (a := .word "delete") rfl (hwith ps) (by decide)
    show Reads statement 1 (Source.walk (q.rows table) t).delete _ []
    rw [hpieces]
    refine .sees_not (hcount _) (.sees_not (hdelete _) (.bind (reads_walk q table t) (.sees ?_)))
    exact .name (.phrase (.map (.phrase_self _) fun _ => .pure _))

end Reading

/-! ## Statements -/

/-- What pieces read as is what their text says. -/
theorem readStatement?_ofPieces {ps : List Piece} {e : Edge} {r : Reading}
    (hspacing : spacing .free ps = some e) (h : Reads Reading.statement 1 ps r []) :
    readStatement? (Statement.ofPieces ps).sql = some r := by
  have hread : Reading.statement (tokensFrom 1 ps) = some (r, []) := by
    rw [Reads, List.append_nil] at h
    exact h
  show (tokens? (renderFrom 1 ps)).bind _ = _
  rw [tokens?_renderFrom hspacing]
  show (Reading.statement (tokensFrom 1 ps)).bind _ = _
  rw [hread]
  rfl

namespace Query

variable (q : Query) (table : TableName)

theorem spacing_source : spacing .free [.name (q.source table.text).table] = some .token := by
  rw [table_source]
  exact spacing_name table

theorem readStatement?_select :
    readStatement? (q.select table.text).sql =
      some (.select ⟨.documents q.namedFields, q.origin table.text, false⟩) :=
  readStatement?_ofPieces (Source.spacing_select (q.spacing_source table) q.fields)
    (Reading.selects_select q table.text (isEnd_nil [])).reads_statement

theorem readStatement?_selectKeyed (lock : Bool) :
    readStatement? (q.selectKeyed table.text lock).sql =
      some (.select ⟨.entries, q.origin table.text, lock⟩) :=
  readStatement?_ofPieces (Source.spacing_selectKeyed (q.spacing_source table) lock)
    (Reading.selects_selectKeyed q table.text lock (isEnd_nil [])).reads_statement

theorem readStatement?_count :
    readStatement? (q.count table.text).sql =
      some (.count ⟨.entries, q.origin table.text, false⟩) :=
  readStatement?_ofPieces (Source.spacing_count (q.spacing_source table))
    (Reading.reads_count q table.text)

theorem readStatement?_delete :
    readStatement? (q.delete table.text).sql = some (q.deletion table.text) :=
  readStatement?_ofPieces (Source.spacing_delete (q.spacing_source table))
    (Reading.reads_delete q table.text)

/-! ## Parameters -/

/-- The parameters of the filter; none without a filter. -/
def filterParams (q : Query) : List Param := q.conditions.statement?.elim [] Statement.params

/-- Every command binds what the filter alone binds. -/
theorem params_compile (command : Command) {s : Statement}
    (h : q.compile table command = some s) : s.params = q.filterParams := by
  have hpath : pathView Piece.param? = fun _ => [] := funext pathView_param?
  have halias : aliasView Piece.param? = fun _ => [] := rfl
  obtain ⟨ps, hps, hparams, -⟩ := tokens?_compile h
  rw [hparams, params, filterMap_pieces? isQuiet_param? hps, hpath, halias, content_conditions,
    ← atoms_filter?, filterParams, ConditionGroup.statement?]
  cases q.conditions.filter? with
  | none => rfl
  | some f => exact (filterMap_filter isQuiet_param? f).symm

end Query

end DocStore
