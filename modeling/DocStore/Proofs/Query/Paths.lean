import Mathlib.Data.List.Basic
import DocStore.Proofs.Query.Checking
import DocStore.Proofs.Query.Quoting

/-!
# The paths that checking looks at

A statement writes the fields of its conditions, the sort fields, the projected
fields and both fields of a walk (`Query.writtenPaths`).  A path that has no names,
or an empty one, finds nothing in a document, and the server does not mind.

Checking looks at all of these but the fields of conditions:

* `Query.validate_eq_ok_iff` says what checking asks for, and
  `Query.validate_congr` that the fields of conditions are not a part of it.
* `Query.literal?_compile` reads the names of the written paths off the text.
* `Query.validate_covers` puts together what an accepted query may write, and
  `Query.emptySegment_overlooked` is a query that checking should refuse.
-/

namespace DocStore

open Sql

/-! ## Paths that name a field -/

/-- A path that can name a field: it has names, and none is empty. -/
def FieldPath.IsProper (path : FieldPath) : Prop := path.segments ≠ [] ∧ "" ∉ path.segments

instance (path : FieldPath) : Decidable path.IsProper := inferInstanceAs (Decidable (_ ∧ _))

theorem FieldPath.hasEmptySegment_eq_false_iff {path : FieldPath} :
    path.hasEmptySegment = false ↔ "" ∉ path.segments := by
  rw [hasEmptySegment, List.any_eq_false]
  simp only [decide_eq_true_eq]
  exact List.forall_mem_ne'

/-- The text of a string literal. -/
def Sql.Token.literal? (t : Token) : Option String :=
  t.quoted?.bind fun q => if q.1 = .literal then some q.2 else none

namespace Query

/-! ## What is written -/

/-- The fields of the conditions, in the order of the tree. -/
def conditionPaths (q : Query) : List FieldPath := q.conditions.flatten.map Condition.field

/-- The paths that the statement of a command writes, from left to right. -/
def writtenPaths (q : Query) : Command → List FieldPath :=
  q.content (fun c => [c.field]) (fun path => [path]) (fun _ => [])

section Content

variable {α β : Type} (ofCondition : Condition → List α) (ofPath ofAlias : FieldPath → List α)

/-- What a statement holds can be looked at piece by piece. -/
theorem flatMap_content (f : α → List β) (q : Query) (command : Command) :
    (q.content ofCondition ofPath ofAlias command).flatMap f =
      q.content (fun c => (ofCondition c).flatMap f) (fun path => (ofPath path).flatMap f)
        (fun path => (ofAlias path).flatMap f) command := by
  have hsource : (q.sourceContent ofCondition ofPath).flatMap f =
      q.sourceContent (fun c => (ofCondition c).flatMap f) fun path => (ofPath path).flatMap f := by
    unfold sourceContent rowsContent
    cases q.recurse <;> simp only [List.flatMap_append, List.flatMap_assoc]
  have hfields : (q.fieldContent ofPath ofAlias).flatMap f =
      q.fieldContent (fun path => (ofPath path).flatMap f)
        fun path => (ofAlias path).flatMap f := by
    unfold fieldContent
    simp only [List.flatMap_append, List.flatMap_assoc]
  unfold content
  cases command with
  | select => cases q.recurse <;> simp only [List.flatMap_append, hsource, hfields]
  | filter => exact List.flatMap_assoc
  | _ => exact hsource

/-- A statement holds no conditions but those of the tree. -/
theorem content_congr {ofCondition ofCondition' : Condition → List α} {q : Query}
    (h : ∀ c ∈ q.conditions.flatten, ofCondition c = ofCondition' c) (command : Command) :
    q.content ofCondition ofPath ofAlias command =
      q.content ofCondition' ofPath ofAlias command := by
  have hconditions : q.conditions.flatten.flatMap ofCondition =
      q.conditions.flatten.flatMap ofCondition' := by
    rw [List.flatMap_def, List.map_congr_left h, List.flatMap_def]
  unfold content sourceContent rowsContent
  rw [hconditions]

end Content

section Written

variable {q : Query} {path : FieldPath}

/-- What is written for the source: all but the projected fields. -/
theorem mem_sourcePaths_iff :
    path ∈ q.sourceContent (fun c => [c.field]) (fun path => [path]) ↔
      path ∈ q.conditionPaths ∨ path ∈ q.sort.map SortTerm.field ∨
        path ∈ q.recurse.toList.flatMap fun t => [t.seedField, t.linkField] := by
  have hrows : q.rowsContent (fun c => [c.field]) (fun path => [path]) =
      q.conditionPaths ++ q.sort.map SortTerm.field := by
    rw [rowsContent, conditionPaths, List.map_eq_flatMap, List.map_eq_flatMap]
  have hsort : (q.sort.flatMap fun s => [s.field]) = q.sort.map SortTerm.field :=
    List.map_eq_flatMap.symm
  unfold sourceContent
  cases q.recurse with
  | none => simp [hrows]
  | some t =>
    -- The order of the seeds is written once more.
    simp only [hrows, hsort, List.mem_append, Option.toList_some, List.flatMap_cons,
      List.flatMap_nil, List.mem_cons, List.not_mem_nil, or_false]
    grind

/-- Reading documents writes every path of the query. -/
theorem mem_writtenPaths_select_iff :
    path ∈ q.writtenPaths .select ↔ path ∈ q.conditionPaths ∨ path ∈ q.outerPaths := by
  have hfields : q.fieldContent (fun path => [path]) (fun _ => []) = q.fields := by
    simp [fieldContent]
  have hsplit : path ∈ q.writtenPaths .select ↔ path ∈ q.fields ∨
      path ∈ q.sourceContent (fun c => [c.field]) (fun path => [path]) := by
    unfold writtenPaths content
    rw [hfields]
    cases q.recurse with
    | none => exact List.mem_append
    | some t => exact List.mem_append.trans or_comm
  rw [hsplit, mem_sourcePaths_iff, outerPaths, List.mem_append, List.mem_append]
  grind

/-- The other commands write nothing that reading does not write. -/
theorem mem_writtenPaths_select {command : Command} (h : path ∈ q.writtenPaths command) :
    path ∈ q.writtenPaths .select := by
  have hsource : path ∈ q.sourceContent (fun c => [c.field]) (fun path => [path]) →
      path ∈ q.conditionPaths ∨ path ∈ q.outerPaths := by
    rw [mem_sourcePaths_iff, outerPaths, List.mem_append, List.mem_append]
    grind
  cases command with
  | select => exact h
  | filter =>
    refine mem_writtenPaths_select_iff.2 (.inl ?_)
    simpa [writtenPaths, content, conditionPaths, eq_comm] using h
  | _ => exact mem_writtenPaths_select_iff.2 (hsource h)

end Written

/-! ## What is read off the text -/

/-- The names of the written paths are the string literals of the text, if each condition fits:
one that does not is written as the reason why. -/
theorem literal?_compile {q : Query} (hfits : ∀ c ∈ q.conditions.flatten, c.isFitting = true)
    {table : TableName} {command : Command} {s : Statement}
    (h : q.compile table command = some s) :
    ∃ tokens, tokens? s.sql = some tokens ∧
      tokens.filterMap Token.literal? =
        (q.writtenPaths command).flatMap FieldPath.segments := by
  obtain ⟨ps, hps, -, hspacing, htokens⟩ := tokens?_compile h
  refine ⟨_, htokens, ?_⟩
  let literal : QuoteKind × String → Option String :=
    fun quoted => if quoted.1 = .literal then some quoted.2 else none
  have hnames : ∀ path : FieldPath,
      path.quotedTexts.flatMap (fun quoted => (literal quoted).toList) = path.segments := by
    intro path
    simp [FieldPath.quotedTexts, literal, List.flatMap_map]
  have hconditions : ∀ c ∈ q.conditions.flatten,
      c.quotedTexts.flatMap (fun quoted => (literal quoted).toList) = c.field.segments := by
    intro c hc
    rw [Condition.quotedTexts, if_pos (hfits c hc), hnames]
  calc (tokensFrom 1 ps).filterMap Token.literal?
      = ((tokensFrom 1 ps).filterMap Token.quoted?).filterMap literal :=
        List.filterMap_filterMap.symm
    _ = (q.quotedTexts command).flatMap fun quoted => (literal quoted).toList := by
        rw [quoted?_tokensFrom hspacing, filterMap_pieces? isQuiet_quoted? hps, quotedTexts,
          funext conditionView_quoted?, funext pathView_quoted?]
        exact List.filterMap_eq_flatMap_toList _ _
    _ = (q.writtenPaths command).flatMap FieldPath.segments := by
        rw [quotedTexts, writtenPaths, flatMap_content, flatMap_content,
          content_congr _ _ hconditions]
        simp [hnames, FieldPath.quotedAlias, literal]

/-! ## What is checked -/

/-- The complaint about a path with an empty name. -/
def emptySegmentError (path : FieldPath) : StoreError :=
  .queryFailed ("field path '" ++ path.dotted ++ "' has an empty segment")

/-- The check of one path beside those of the conditions. -/
def checkPath (path : FieldPath) : Except StoreError Unit :=
  if path.hasEmptySegment then .error (emptySegmentError path) else .ok ()

theorem checkPath_eq_ok_iff {path : FieldPath} :
    checkPath path = .ok () ↔ "" ∉ path.segments := by
  rw [← FieldPath.hasEmptySegment_eq_false_iff, checkPath]
  cases path.hasEmptySegment <;> simp

theorem eq_of_checkPath_eq_error {path : FieldPath} {e : StoreError}
    (h : checkPath path = .error e) : "" ∈ path.segments ∧ e = emptySegmentError path := by
  have hempty : "" ∈ path.segments := by
    by_contra hproper
    rw [checkPath_eq_ok_iff.2 hproper] at h
    exact nomatch h
  refine ⟨hempty, ?_⟩
  rw [checkPath] at h
  split at h
  · exact (Except.error.inj h).symm
  · exact nomatch h

/-- The conditions are checked first, and then the other paths. -/
theorem validate_eq (q : Query) :
    q.validate = (do q.conditions.validate; q.outerPaths.forM checkPath) := rfl

variable {q : Query}

theorem conditions_validate_eq_ok_iff :
    q.conditions.validate = .ok () ↔ ∀ c ∈ q.conditions.flatten, c.validate = .ok () :=
  ConditionGroup.forM_eq_ok_iff

/-- Behind valid conditions only the other paths count. -/
theorem validate_of_conditions (h : q.conditions.validate = .ok ()) :
    q.validate = q.outerPaths.forM checkPath := by
  rw [validate_eq, h]
  rfl

/-- Checking accepts valid conditions beside paths without empty names. -/
theorem validate_eq_ok_iff :
    q.validate = .ok () ↔
      (∀ c ∈ q.conditions.flatten, c.validate = .ok ()) ∧
        ∀ path ∈ q.outerPaths, "" ∉ path.segments := by
  rw [← conditions_validate_eq_ok_iff]
  cases hconditions : q.conditions.validate with
  | error e =>
    rw [validate_eq, hconditions]
    exact iff_of_false nofun (fun h => nomatch h.1)
  | ok _ =>
    rw [validate_of_conditions hconditions, ConditionGroup.forM_eq_ok_iff]
    simp [checkPath_eq_ok_iff]

/-- The fields of conditions are not looked at: neither which they are nor whether they have
names. -/
theorem validate_congr {q' : Query}
    (hconditions : q'.conditions.flatten.map (fun c => (c.operator, c.operands)) =
      q.conditions.flatten.map fun c => (c.operator, c.operands))
    (hpaths : q'.outerPaths = q.outerPaths) : q'.validate = q.validate := by
  have hcheck : ∀ cs : List Condition, cs.forM Condition.validate =
      (cs.map fun c => (c.operator, c.operands)).forM fun part =>
        Condition.validate ⟨⟨[]⟩, part.1, part.2⟩ := by
    intro cs
    induction cs with
    | nil => rfl
    | cons c cs ih => rw [List.forM, ih]; rfl
  rw [validate_eq, validate_eq, hpaths, ConditionGroup.validate, ConditionGroup.validate, hcheck,
    hcheck, hconditions]

/-- Behind valid conditions the complaint is about the first path with an empty name. -/
theorem exists_of_validate_error (hconditions : ∀ c ∈ q.conditions.flatten, c.validate = .ok ())
    {e : StoreError} (h : q.validate = .error e) :
    ∃ before path after, q.outerPaths = before ++ path :: after ∧
      (∀ p ∈ before, "" ∉ p.segments) ∧ "" ∈ path.segments ∧ e = emptySegmentError path := by
  rw [validate_of_conditions (conditions_validate_eq_ok_iff.2 hconditions)] at h
  obtain ⟨before, path, after, hpaths, hbefore, hpath⟩ := ConditionGroup.exists_of_forM_error h
  exact ⟨before, path, after, hpaths, fun p hp => checkPath_eq_ok_iff.1 (hbefore p hp),
    eq_of_checkPath_eq_error hpath⟩

theorem isFitting_of_validate (h : q.validate = .ok ()) :
    ∀ c ∈ q.conditions.flatten, c.isFitting = true := by
  intro c hc
  cases hfits : c.isFitting with
  | true => rfl
  | false =>
    obtain ⟨e, -, he⟩ := Condition.validate_of_not_isFitting hfits
    rw [(validate_eq_ok_iff.1 h).1 c hc] at he
    exact nomatch he

/-- What an accepted query writes is proper where checking has nothing to say: the fields of
conditions, and that a path has names at all. -/
theorem isProper_writtenPaths_iff (h : q.validate = .ok ()) :
    (∀ command, ∀ path ∈ q.writtenPaths command, path.IsProper) ↔
      (∀ path ∈ q.conditionPaths, path.IsProper) ∧
        ∀ path ∈ q.outerPaths, path.segments ≠ [] := by
  have hchecked := (validate_eq_ok_iff.1 h).2
  constructor
  · intro hall
    have hselect := hall .select
    simp only [mem_writtenPaths_select_iff] at hselect
    exact ⟨fun path hpath => hselect path (.inl hpath),
      fun path hpath => (hselect path (.inr hpath)).1⟩
  · rintro ⟨hconditions, houter⟩ command path hpath
    rcases mem_writtenPaths_select_iff.1 (mem_writtenPaths_select hpath) with hcondition | hother
    · exact hconditions path hcondition
    · exact ⟨houter path hother, hchecked path hother⟩

/-- What checking says about the paths that are written. -/
structure Coverage (q : Query) : Prop where
  /-- Reading documents writes the fields of the conditions and all other paths, and no other
  command writes more. -/
  written : (∀ path, path ∈ q.writtenPaths .select ↔
      path ∈ q.conditionPaths ∨ path ∈ q.outerPaths) ∧
    ∀ command, ∀ path ∈ q.writtenPaths command, path ∈ q.writtenPaths .select
  /-- The string literals of a statement are the names of the paths that it writes. -/
  literals : q.validate = .ok () → ∀ table command s, q.compile table command = some s →
    ∃ tokens, tokens? s.sql = some tokens ∧
      tokens.filterMap Token.literal? = (q.writtenPaths command).flatMap FieldPath.segments
  /-- A query of valid conditions whose paths are all proper is accepted. -/
  accepts : (∀ c ∈ q.conditions.flatten, c.validate = .ok ()) →
    (∀ command, ∀ path ∈ q.writtenPaths command, path.IsProper) → q.validate = .ok ()
  /-- In an accepted query no sort field, projected field or field of a walk has an empty name,
  so all paths are proper exactly when those of the conditions are and the others have names. -/
  accepted : q.validate = .ok () →
    (∀ path ∈ q.outerPaths, "" ∉ path.segments) ∧
    ((∀ command, ∀ path ∈ q.writtenPaths command, path.IsProper) ↔
      (∀ path ∈ q.conditionPaths, path.IsProper) ∧ ∀ path ∈ q.outerPaths, path.segments ≠ [])
  /-- The fields of conditions make no difference. -/
  overlooks : ∀ q' : Query, q'.outerPaths = q.outerPaths →
    q'.conditions.flatten.map (fun c => (c.operator, c.operands)) =
      q.conditions.flatten.map (fun c => (c.operator, c.operands)) →
    q'.validate = q.validate
  /-- A refusal behind valid conditions names the first other path with an empty name. -/
  refuses : (∀ c ∈ q.conditions.flatten, c.validate = .ok ()) → ∀ e, q.validate = .error e →
    ∃ before path after, q.outerPaths = before ++ path :: after ∧
      (∀ p ∈ before, "" ∉ p.segments) ∧ "" ∈ path.segments ∧ e = emptySegmentError path

/-- Checking covers the sort fields, the projected fields and the fields of a walk, and of the
conditions all but their fields. -/
theorem validate_covers (q : Query) : q.Coverage where
  written := ⟨fun _ => mem_writtenPaths_select_iff, fun _ _ => mem_writtenPaths_select⟩
  literals h _ _ _ := literal?_compile (isFitting_of_validate h)
  accepts hconditions hproper := by
    refine validate_eq_ok_iff.2 ⟨hconditions, fun path hpath => ?_⟩
    exact (hproper .select path (mem_writtenPaths_select_iff.2 (.inr hpath))).2
  accepted h := ⟨(validate_eq_ok_iff.1 h).2, isProper_writtenPaths_iff h⟩
  overlooks _ hpaths hconditions := validate_congr hconditions hpaths
  refuses hconditions _ := exists_of_validate_error hconditions

/-- A query with a path in every place: two conditions, one of them nested, two sort fields, a
projected field and a walk. -/
def everywhere : Query :=
  { all with
    conditions := ⟨.or, [⟨⟨["size", "w"]⟩, .lt, [.string "5"]⟩],
      [⟨.and, [], [⟨.or, [⟨⟨["tags"]⟩, .contains, [.string "red"]⟩], []⟩]⟩]⟩
    sort := [⟨⟨["due"]⟩, .desc⟩, ⟨⟨["name"]⟩, .asc⟩]
    fields := [⟨["owner", "id"]⟩]
    recurse := some ⟨⟨["id"]⟩, ⟨["parent"]⟩, none⟩ }

theorem validate_covers_everywhere :
    everywhere.validate = .ok () ∧
      (∀ command, ∀ path ∈ everywhere.writtenPaths command, path.IsProper) ∧
      ∃ tokens, tokens? (everywhere.select docs.text).sql = some tokens ∧
        tokens.filterMap Token.literal? =
          ["due", "name", "size", "w", "tags", "due", "name", "parent", "id", "owner", "id"] := by
  have hcovers := validate_covers everywhere
  have hproper : ∀ command, ∀ path ∈ everywhere.writtenPaths command, path.IsProper := by
    have hselect : ∀ path ∈ everywhere.writtenPaths .select, path.IsProper := by decide
    exact fun command path hpath => hselect path (hcovers.written.2 command path hpath)
  have hvalid : everywhere.validate = .ok () :=
    hcovers.accepts (conditions_validate_eq_ok_iff.1 rfl) hproper
  exact ⟨hvalid, hproper, hcovers.literals hvalid docs .select _ rfl⟩

/-- An empty name in the field of a condition passes and is written, where checking refuses the
same path as a sort field. -/
theorem emptySegment_overlooked :
    let path : FieldPath := ⟨["a", "", "b"]⟩
    let q : Query := { all with conditions := ⟨.and, [⟨path, .eq, [.string "x"]⟩], []⟩ }
    q.validate = .ok () ∧ path ∈ q.writtenPaths .select ∧ ¬ path.IsProper ∧
      (q.select docs.text).sql = "SELECT data FROM docs WHERE ((data->'a'->''->>'b') = $1)" ∧
      validate { all with sort := [⟨path, .asc⟩] } = .error (emptySegmentError path) := by
  decide +kernel

end Query

end DocStore
