import DocStore.Proofs.Json.Record
import DocStore.Query.Plan

/-!
# Queries on the wire

A query is sent as JSON: its field paths as dotted texts, its operators by name.
Not every value of the types comes back as it was sent.  A path without a name,
or an operator kept as unknown under the name of a known one, would be read as
something else, and so would a number that does not fit the width it is read
with.  `Travels` says for each part of a query that it holds nothing of that
kind.

* What travels is read back as it was sent (`Query.decode_toJson`).  The groups
  are read back one level at a time, and a group is nested no deeper than the
  value it is sent as (`ConditionGroup.decodeWithin_toJson`).
* What was read travels (`Query.yields_decode`), in whichever of its forms it
  came: the texts of its paths may be others than those that are sent.
* What is built from path texts and operator names travels (`Query.travels_of_isBuilt`).

`Query.comes_back` puts them together.
-/

namespace DocStore

/-! ## Field paths -/

namespace Text

variable {sep : Char}

theorem splitAll_eq_singleton {part : List Char} (h : sep ∉ part) : splitAll sep part = [part] := by
  induction part with
  | nil => rfl
  | cons c part ih =>
    rw [List.mem_cons, not_or] at h
    rw [splitAll, if_neg (Ne.symm h.1), ih h.2]

theorem splitAll_append {part : List Char} (h : sep ∉ part) (rest : List Char) :
    splitAll sep (part ++ sep :: rest) = part :: splitAll sep rest := by
  induction part with
  | nil => simp [splitAll]
  | cons c part ih =>
    rw [List.mem_cons, not_or] at h
    rw [List.cons_append, splitAll, if_neg (Ne.symm h.1), ih h.2]

/-- Parts without the separator are found again between the separators. -/
theorem splitAll_intercalate {parts : List (List Char)} (hne : parts ≠ [])
    (h : ∀ part ∈ parts, sep ∉ part) : splitAll sep ([sep].intercalate parts) = parts := by
  induction parts with
  | nil => exact absurd rfl hne
  | cons part rest ih =>
    obtain ⟨hpart, hrest⟩ := List.forall_mem_cons.1 h
    cases rest with
    | nil => simpa using splitAll_eq_singleton hpart
    | cons next rest =>
      have hjoin : [sep].intercalate (part :: next :: rest) =
          part ++ sep :: [sep].intercalate (next :: rest) := by
        simp [List.intercalate, List.intersperse]
      rw [hjoin, splitAll_append hpart, ih (by simp) hrest]

end Text

namespace FieldPath

/-- The path is that of a text: it has a name. -/
def Travels (path : FieldPath) : Prop := path.segments ≠ []

theorem travels_parse (text : String) : (parse text).Travels := by
  simpa [Travels, parse] using Text.splitAll_ne_nil '.' text.toList

theorem parse_dotted {path : FieldPath} (h : path.Travels) : parse path.dotted = path := by
  have htext : path.dotted.toList =
      ['.'].intercalate (path.segments.map fun s => escape s.toList) := by
    simp [dotted, String.toList_intercalate, Function.comp_def]
  have hparts : ∀ part ∈ path.segments.map (fun s => escape s.toList), '.' ∉ part := by
    simp [point_notMem_escape]
  have hne : path.segments.map (fun s => escape s.toList) ≠ [] := by
    simpa [Travels] using h
  rw [parse, htext, Text.splitAll_intercalate hne hparts]
  simp [Function.comp_def, unescape_escape]

/-- Paths with a name that are written as one text are one path. -/
theorem eq_of_dotted_eq {p p' : FieldPath} (hp : p.Travels) (hp' : p'.Travels)
    (h : p.dotted = p'.dotted) : p = p' := by
  rw [← parse_dotted hp, h, parse_dotted hp']

theorem decode_toJson {path : FieldPath} (h : path.Travels) : decode path.toJson = .ok path := by
  simp [decode, toJson, Decoder.string, Except.map, parse_dotted h]

theorem yields_decode : decode.Yields Travels := by
  intro v path h
  obtain ⟨text, -, rfl⟩ := Decoder.exists_of_map_eq_ok h
  exact travels_parse text

end FieldPath

/-! ## Conditions -/

open Fields

namespace Operator

/-- The operator is the one of its name: it is not kept as unknown under a known name. -/
def Travels (op : Operator) : Prop := parse op.name = op

/-- A name is kept, known or not. -/
theorem name_parse (name : String) : (parse name).name = name := by
  have hknown : ∀ entry ∈ known, entry.2.name = entry.1 := by decide
  cases hlookup : known.lookup name with
  | none => rw [parse, hlookup]; rfl
  | some op =>
    obtain ⟨before, after, hsplit, -⟩ := List.lookup_eq_some_iff.1 hlookup
    rw [parse, hlookup]
    exact hknown (name, op) (by simp [hsplit])

theorem travels_parse (name : String) : (parse name).Travels := by rw [Travels, name_parse]

theorem decode_toJson {op : Operator} (h : op.Travels) : decode op.toJson = .ok op := by
  simp [decode, toJson, Decoder.string, Except.map, show parse op.name = op from h]

theorem yields_decode : decode.Yields Travels := by
  intro v op h
  obtain ⟨name, -, rfl⟩ := Decoder.exists_of_map_eq_ok h
  exact travels_parse name

end Operator

namespace Condition

/-- The field and the operator of the condition come back; operands are sent as they are. -/
def Travels (c : Condition) : Prop := c.field.Travels ∧ c.operator.Travels

theorem decode_toJson {c : Condition} (h : c.Travels) : decode c.toJson = .ok c := by
  have hoperands : Decoder.list .any (.array c.operands) = .ok c.operands := by
    have hitems : Decoder.list .any (.array (c.operands.map id)) = .ok (c.operands.map id) :=
      Decoder.list_map fun _ _ => rfl
    rwa [List.map_id] at hitems
  exact record_of_reads (x := Condition.mk c.field c.operator c.operands) <|
    reads_seq (reads_seq (reads_map (reads_field rfl (FieldPath.decode_toJson h.1)))
      (reads_field rfl (Operator.decode_toJson h.2)) (by simp))
      (reads_field rfl hoperands) (by simp)

theorem yields_decode : decode.Yields Travels :=
  yields_record <|
    yields_seq (P := fun _ => True) (yields_defaulted (fun _ _ _ => trivial) trivial) <|
    yields_seq (yields_required Operator.yields_decode) <|
    yields_map (yields_required FieldPath.yields_decode)
      fun _ hfield _ hoperator _ _ => ⟨hfield, hoperator⟩

end Condition

/-! ## Groups -/

namespace ConditionGroup

/-- Every condition of the tree travels. -/
inductive Travels : ConditionGroup → Prop where
  | mk {operator : Connective} {conditions : List Condition} {groups : List ConditionGroup}
      (hconditions : ∀ c ∈ conditions, c.Travels) (hgroups : ∀ g ∈ groups, Travels g) :
      Travels ⟨operator, conditions, groups⟩

theorem allToJson_eq_map (gs : List ConditionGroup) : allToJson gs = gs.map toJson := by
  induction gs with
  | nil => rfl
  | cons g gs ih => rw [allToJson, ih, List.map_cons]

theorem toJson_mk (operator : Connective) (conditions : List Condition)
    (groups : List ConditionGroup) :
    toJson ⟨operator, conditions, groups⟩ =
      .object [("conditions", .array (conditions.map Condition.toJson)),
        ("groups", .array (groups.map toJson)), ("operator", operator.toJson)] := by
  rw [toJson, allToJson_eq_map]
  rfl

theorem depth_le_depthOfItems {item : Json} {items : List Json} (h : item ∈ items) :
    item.depth ≤ Json.depthOfItems items := by
  induction items with
  | nil => exact absurd h List.not_mem_nil
  | cons first rest ih =>
    rw [Json.depthOfItems]
    rcases List.mem_cons.1 h with rfl | h
    · exact Nat.le_max_left ..
    · exact Nat.le_trans (ih h) (Nat.le_max_right ..)

/-- A group inside is sent as a value of lesser depth. -/
theorem depth_toJson_lt (operator : Connective) (conditions : List Condition)
    {groups : List ConditionGroup} {g : ConditionGroup} (h : g ∈ groups) :
    g.toJson.depth < (toJson ⟨operator, conditions, groups⟩).depth := by
  have hitem : g.toJson.depth ≤ Json.depthOfItems (groups.map toJson) :=
    depth_le_depthOfItems (List.mem_map_of_mem h)
  simp only [toJson_mk, Json.depth, Json.depthOfMembers]
  omega

theorem decodeWithin_toJson {g : ConditionGroup} (h : g.Travels) (depth : Nat)
    (hdepth : g.toJson.depth < depth) : decodeWithin depth g.toJson = .ok g := by
  induction h generalizing depth with
  | @mk operator conditions groups hconditions _ ih =>
    obtain ⟨depth, rfl⟩ : ∃ n, depth = n + 1 := ⟨depth - 1, by omega⟩
    have hoperator : Connective.decode operator.toJson = .ok operator := by
      cases operator <;> rfl
    have hconditions : Decoder.list Condition.decode (.array (conditions.map Condition.toJson)) =
        .ok conditions := by
      simpa using Decoder.list_map (g := id) fun c hc => Condition.decode_toJson (hconditions c hc)
    have hinner : ∀ g ∈ groups, decodeWithin depth g.toJson = .ok g := by
      intro g hg
      have hdepth := depth_toJson_lt operator conditions hg
      exact ih g hg depth (by omega)
    have hgroups : Decoder.list (decodeWithin depth) (.array (groups.map toJson)) =
        .ok groups := by
      simpa using Decoder.list_map (g := id) hinner
    rw [toJson_mk]
    exact record_of_reads (x := ConditionGroup.mk operator conditions groups) <|
      reads_seq (reads_seq (reads_map (reads_field rfl hoperator))
        (reads_field rfl hconditions) (by simp)) (reads_field rfl hgroups) (by simp)

theorem decode_toJson {g : ConditionGroup} (h : g.Travels) : decode g.toJson = .ok g :=
  decodeWithin_toJson h _ (Nat.lt_succ_self _)

theorem yields_decodeWithin (depth : Nat) : (decodeWithin depth).Yields Travels := by
  induction depth with
  | zero => exact nofun
  | succ depth ih =>
    refine yields_record <|
      yields_seq (yields_defaulted (Decoder.yields_list ih) nofun) <|
      yields_seq (yields_defaulted (Decoder.yields_list Condition.yields_decode) nofun) <|
      yields_map (P := fun _ => True) (yields_required fun _ _ _ => trivial)
        fun _ _ _ hconditions _ hgroups => .mk hconditions hgroups

theorem yields_decode : decode.Yields Travels := fun v => yields_decodeWithin (v.depth + 1) v

end ConditionGroup

/-! ## Queries -/

namespace SortTerm

/-- The field comes back. -/
def Travels (s : SortTerm) : Prop := s.field.Travels

theorem decode_toJson {s : SortTerm} (h : s.Travels) : decode s.toJson = .ok s := by
  have hdirection : SortDirection.decode (.string s.direction.name) = .ok s.direction := by
    cases s.direction <;> rfl
  exact record_of_reads (x := SortTerm.mk s.field s.direction) <|
    reads_seq (reads_map (reads_field rfl (FieldPath.decode_toJson h)))
      (reads_field rfl hdirection) (by simp)

theorem yields_decode : decode.Yields Travels :=
  yields_record <|
    yields_seq (P := fun _ => True) (yields_defaulted (fun _ _ _ => trivial) trivial) <|
    yields_map (yields_required FieldPath.yields_decode) fun _ hfield _ _ => hfield

end SortTerm

/-- A number that may be missing, and fits so many bits, comes back. -/
theorem nullable_unsigned {bits : Nat} {n : Option Nat} (h : ∀ k ∈ n, k < Decimal.twoTo bits) :
    Decoder.nullable (.unsigned bits) (.ofOption (n.map .ofNat)) = .ok n :=
  Decoder.nullable_ofOption (fun _ => nofun) fun k hk => Decoder.unsigned_ofNat (h k hk)

namespace Traversal

/-- Both fields come back, and so does the bound. -/
structure Travels (t : Traversal) : Prop where
  seedField : t.seedField.Travels
  linkField : t.linkField.Travels
  maxDepth : ∀ n ∈ t.maxDepth, n < Decimal.twoTo 32

theorem decode_toJson {t : Traversal} (h : t.Travels) : decode t.toJson = .ok t :=
  record_of_reads (x := Traversal.mk t.seedField t.linkField t.maxDepth) <|
    reads_seq (reads_seq (reads_map (reads_field rfl (FieldPath.decode_toJson h.seedField)))
      (reads_field rfl (FieldPath.decode_toJson h.linkField)) (by simp))
      (reads_field rfl (nullable_unsigned h.maxDepth)) (by simp)

theorem yields_decode : decode.Yields Travels :=
  yields_record <|
    yields_seq (yields_defaulted (Decoder.yields_nullable (Decoder.yields_unsigned 32)) nofun) <|
    yields_seq (yields_required FieldPath.yields_decode) <|
    yields_map (yields_required FieldPath.yields_decode)
      fun _ hseed _ hlink _ hdepth => ⟨hseed, hlink, hdepth⟩

end Traversal

namespace Query

/-- Every part of the query comes back. -/
structure Travels (q : Query) : Prop where
  conditions : q.conditions.Travels
  sort : ∀ s ∈ q.sort, s.Travels
  limit : ∀ n ∈ q.limit, n < Decimal.twoTo 64
  offset : ∀ n ∈ q.offset, n < Decimal.twoTo 64
  fields : ∀ path ∈ q.fields, path.Travels
  recurse : ∀ t ∈ q.recurse, t.Travels

/-- What travels is read back as it was sent. -/
theorem decode_toJson {q : Query} (h : q.Travels) : decode q.toJson = .ok q := by
  have hsort : Decoder.list SortTerm.decode (.array (q.sort.map SortTerm.toJson)) = .ok q.sort := by
    simpa using Decoder.list_map (g := id) fun s hs => SortTerm.decode_toJson (h.sort s hs)
  have hfields : Decoder.list FieldPath.decode (.array (q.fields.map FieldPath.toJson)) =
      .ok q.fields := by
    simpa using Decoder.list_map (g := id) fun f hf => FieldPath.decode_toJson (h.fields f hf)
  have hrecurse : Decoder.nullable Traversal.decode (.ofOption (q.recurse.map Traversal.toJson)) =
      .ok q.recurse :=
    Decoder.nullable_ofOption (fun _ => nofun) fun t ht => Traversal.decode_toJson (h.recurse t ht)
  exact record_of_reads
    (x := Query.mk q.conditions q.sort q.limit q.offset q.fields q.recurse) <|
    reads_seq (reads_seq (reads_seq (reads_seq (reads_seq
      (reads_map (reads_field rfl (ConditionGroup.decode_toJson h.conditions)))
      (reads_field rfl hsort) (by simp))
      (reads_field rfl (nullable_unsigned h.limit)) (by simp))
      (reads_field rfl (nullable_unsigned h.offset)) (by simp))
      (reads_field rfl hfields) (by simp))
      (reads_field rfl hrecurse) (by simp)

/-- What was read travels. -/
theorem yields_decode : decode.Yields Travels :=
  yields_record <|
    yields_seq (yields_defaulted (Decoder.yields_nullable Traversal.yields_decode) nofun) <|
    yields_seq (yields_defaulted (Decoder.yields_list FieldPath.yields_decode) nofun) <|
    yields_seq (yields_defaulted (Decoder.yields_nullable (Decoder.yields_unsigned 64)) nofun) <|
    yields_seq (yields_defaulted (Decoder.yields_nullable (Decoder.yields_unsigned 64)) nofun) <|
    yields_seq (yields_defaulted (Decoder.yields_list SortTerm.yields_decode) nofun) <|
    yields_map (yields_defaulted ConditionGroup.yields_decode (.mk nofun nofun))
      fun _ hconditions _ hsort _ hlimit _ hoffset _ hfields _ hrecurse =>
        ⟨hconditions, hsort, hlimit, hoffset, hfields, hrecurse⟩

end Query

/-! ## Built queries -/

namespace ConditionGroup

/-- Groups that are built from path texts and operators, given by name or known. -/
inductive IsBuilt : ConditionGroup → Prop where
  | empty (operator : Connective) : IsBuilt (.empty operator)
  | condition {g : ConditionGroup} (field operator : String) (operands : List Json)
      (h : IsBuilt g) : IsBuilt (g.condition field operator operands)
  | compare {g : ConditionGroup} (field : String) {op : Operator} (value : Json)
      (hop : op.isKnown = true) (h : IsBuilt g) : IsBuilt (g.compare field op value)
  | between {g : ConditionGroup} (field : String) (low high : Json) (h : IsBuilt g) :
      IsBuilt (g.between field low high)
  | before {g : ConditionGroup} (field : String) (at' : Instant) (h : IsBuilt g) :
      IsBuilt (g.before field at')
  | after {g : ConditionGroup} (field : String) (at' : Instant) (h : IsBuilt g) :
      IsBuilt (g.after field at')
  | includes {g : ConditionGroup} (field : String) (values : List Json) (h : IsBuilt g) :
      IsBuilt (g.includes field values)
  | hasKey {g : ConditionGroup} (field key : String) (h : IsBuilt g) : IsBuilt (g.hasKey field key)
  | hasAnyKey {g : ConditionGroup} (field : String) (keys : List String) (h : IsBuilt g) :
      IsBuilt (g.hasAnyKey field keys)
  | isNull {g : ConditionGroup} (field : String) (h : IsBuilt g) : IsBuilt (g.isNull field)
  | pushGroup {g inner : ConditionGroup} (h : IsBuilt g) (hinner : IsBuilt inner) :
      IsBuilt (g.pushGroup inner)

theorem travels_push {g : ConditionGroup} {c : Condition} (h : g.Travels) (hc : c.Travels) :
    (g.push c).Travels := by
  obtain ⟨hconditions, hgroups⟩ := h
  exact .mk (List.forall_mem_append.2 ⟨hconditions, List.forall_mem_singleton.2 hc⟩) hgroups

theorem travels_pushGroup {g inner : ConditionGroup} (h : g.Travels) (hinner : inner.Travels) :
    (g.pushGroup inner).Travels := by
  obtain ⟨hconditions, hgroups⟩ := h
  exact .mk hconditions (List.forall_mem_append.2 ⟨hgroups, List.forall_mem_singleton.2 hinner⟩)

/-- A known operator comes back, on the field of a path text. -/
theorem travels_known (field : String) {op : Operator} (hop : op.isKnown = true)
    (operands : List Json) : (⟨.parse field, op, operands⟩ : Condition).Travels :=
  ⟨FieldPath.travels_parse field, Operator.parse_name_of_known hop⟩

theorem travels_of_isBuilt {g : ConditionGroup} (h : g.IsBuilt) : g.Travels := by
  induction h with
  | empty operator => exact .mk nofun nofun
  | condition field operator operands _ ih =>
    exact travels_push ih ⟨FieldPath.travels_parse field, Operator.travels_parse operator⟩
  | compare field value hop _ ih => exact travels_push ih (travels_known field hop _)
  | pushGroup _ _ ih ihinner => exact travels_pushGroup ih ihinner
  | between field | before field | after field | includes field | hasKey field
  | hasAnyKey field | isNull field =>
    exact travels_push ‹_› (travels_known field rfl _)

end ConditionGroup

namespace Query

/-- Queries that are built step by step, with numbers of the widths they are sent with. -/
inductive IsBuilt : Query → Prop where
  | all : IsBuilt .all
  | filter {q : Query} {f : ConditionGroup → ConditionGroup} (h : IsBuilt q)
      (hf : ∀ g, g.IsBuilt → (f g).IsBuilt) : IsBuilt (q.filter f)
  | sortBy {q : Query} (field : String) (direction : SortDirection) (h : IsBuilt q) :
      IsBuilt (q.sortBy field direction)
  | limit {q : Query} {n : Nat} (hn : n < Decimal.twoTo 64) (h : IsBuilt q) :
      IsBuilt { q with limit := some n }
  | offset {q : Query} {n : Nat} (hn : n < Decimal.twoTo 64) (h : IsBuilt q) :
      IsBuilt { q with offset := some n }
  | project {q : Query} (field : String) (h : IsBuilt q) : IsBuilt (q.project field)
  | walk {q : Query} (seed link : String) {maxDepth : Option Nat}
      (hdepth : ∀ n ∈ maxDepth, n < Decimal.twoTo 32) (h : IsBuilt q) :
      IsBuilt (q.walk seed link maxDepth)

/-- The conditions of a built query are built. -/
theorem isBuilt_conditions {q : Query} (h : q.IsBuilt) : q.conditions.IsBuilt := by
  induction h with
  | all => exact .empty .and
  | filter _ hf ih => exact hf _ ih
  | sortBy | limit | offset | project | walk => assumption

/-- What is built from path texts and operator names travels. -/
theorem travels_of_isBuilt {q : Query} (h : q.IsBuilt) : q.Travels := by
  induction h with
  | all => exact ⟨.mk nofun nofun, nofun, nofun, nofun, nofun, nofun⟩
  | filter h hf ih =>
    exact { ih with conditions := ConditionGroup.travels_of_isBuilt (hf _ (isBuilt_conditions h)) }
  | sortBy field direction _ ih =>
    exact { ih with
      sort := List.forall_mem_append.2
        ⟨ih.sort, List.forall_mem_singleton.2 (FieldPath.travels_parse field)⟩ }
  | limit hn _ ih => exact { ih with limit := by rintro _ ⟨⟩; exact hn }
  | offset hn _ ih => exact { ih with offset := by rintro _ ⟨⟩; exact hn }
  | project field _ ih =>
    exact { ih with
      fields := List.forall_mem_append.2
        ⟨ih.fields, List.forall_mem_singleton.2 (FieldPath.travels_parse field)⟩ }
  | walk seed link hdepth _ ih =>
    refine { ih with recurse := ?_ }
    rintro _ ⟨⟩
    exact ⟨FieldPath.travels_parse seed, FieldPath.travels_parse link, hdepth⟩

/-- A query that was read, or built, is read back from what it is sent as; so it is sent as
the same value again, and its statements are the same. -/
theorem comes_back {q : Query} (h : (∃ v, decode v = .ok q) ∨ q.IsBuilt) :
    ∃ q', decode q.toJson = .ok q' ∧ q' = q ∧ q'.toJson = q.toJson ∧
      ∀ table, q'.select table = q.select table ∧
        (∀ lock, q'.selectKeyed table lock = q.selectKeyed table lock) ∧
        q'.count table = q.count table ∧ q'.delete table = q.delete table := by
  have htravels : q.Travels := by
    rcases h with ⟨v, hv⟩ | hbuilt
    · exact yields_decode v q hv
    · exact travels_of_isBuilt hbuilt
  exact ⟨q, decode_toJson htravels, rfl, rfl, fun _ => ⟨rfl, fun _ => rfl, rfl, rfl⟩⟩

/-- A query given as an array, with an unknown member, an unknown operator and a path that is
written back with other escapes. -/
def foreign : Json :=
  .array [.object [("operator", .string "OR"), ("note", .null),
    ("conditions", .array [.array [.string "a~.b~1c", .string "like", .array [.null]]]),
    ("groups", .array [.object [("operator", .string "AND")]])]]

theorem comes_back_foreign :
    ∃ q, decode foreign = .ok q ∧ q.conditions.conditions.map (·.field.dotted) = ["a~0.b~1c"] ∧
      ∃ q', decode q.toJson = .ok q' ∧ q' = q ∧ q'.toJson = q.toJson ∧
        ∀ table, q'.select table = q.select table ∧
          (∀ lock, q'.selectKeyed table lock = q.selectKeyed table lock) ∧
          q'.count table = q.count table ∧ q'.delete table = q.delete table := by
  obtain ⟨q, hq, hpath⟩ : ∃ q, decode foreign = .ok q ∧
      q.conditions.conditions.map (·.field.dotted) = ["a~0.b~1c"] := ⟨_, rfl, rfl⟩
  exact ⟨q, hq, hpath, comes_back (.inl ⟨foreign, hq⟩)⟩

end Query

end DocStore
