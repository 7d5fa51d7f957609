import DocStore.Document.Store
import DocStore.Proofs.Query.Outline
import DocStore.Proofs.Query.Paths
import DocStore.Proofs.Query.Wire
import Mathlib.Data.List.Nodup
import Mathlib.Data.String.Basic

/-!
# Names of columns

A query with projected fields has one column for the documents and one for each
field, named by its dotted path.  Dotted paths of different fields differ, since a
path is read back from its text.  The names of the columns need not: the server cuts
them, and the name of the first column is not reserved.

* `FieldPath.dotted_injective`: no two checked paths have one text.
* `columnName_eq_self_iff`: the server keeps a name of up to 63 bytes, and cuts every
  longer one.
* `Cell.place?_eq_some_iff`: of several columns with one name the last is read.
* `Query.readsDocument_iff` and `Query.readsFields_iff`: when what is read under a name
  is what the select shows there.
* `Query.columns_told_apart` puts them together.
-/

namespace DocStore

open Sql

/-! ## Cut names -/

theorem utf8Len_cutBytes_le (room : Nat) (cs : List Char) :
    String.utf8Len (cutBytes room cs) ≤ room := by
  induction cs generalizing room with
  | nil => exact Nat.zero_le room
  | cons c rest ih =>
    rw [cutBytes]
    split
    · rename_i hc
      have hrest := ih (room - c.utf8Size)
      rw [String.utf8Len_cons]
      omega
    · exact Nat.zero_le room

theorem cutBytes_eq_self_iff {room : Nat} {cs : List Char} :
    cutBytes room cs = cs ↔ String.utf8Len cs ≤ room := by
  constructor
  · intro h
    rw [← h]
    exact utf8Len_cutBytes_le room cs
  · intro h
    induction cs generalizing room with
    | nil => rfl
    | cons c rest ih =>
      rw [String.utf8Len_cons] at h
      have hc : c.utf8Size ≤ room := by omega
      rw [cutBytes, if_pos hc, ih (by omega)]

theorem utf8ByteSize_columnName_le (name : String) : (columnName name).utf8ByteSize ≤ 63 := by
  rw [columnName, String.utf8ByteSize_ofList]
  exact utf8Len_cutBytes_le 63 _

/-- The server keeps names of up to 63 bytes as they are, and no others. -/
theorem columnName_eq_self_iff {name : String} :
    columnName name = name ↔ name.utf8ByteSize ≤ 63 := by
  have hsize : name.utf8ByteSize = String.utf8Len name.toList := by
    rw [← String.utf8ByteSize_ofList, String.ofList_toList]
  rw [hsize, ← cutBytes_eq_self_iff, columnName]
  constructor
  · intro h
    rw [← String.toList_ofList (l := cutBytes 63 name.toList), h]
  · intro h
    rw [h, String.ofList_toList]

/-- What is cut ends at most three bytes early. -/
theorem cutBytes_eq_self_of_lt {room : Nat} {cs : List Char}
    (h : String.utf8Len (cutBytes room cs) + 3 < room) : cutBytes room cs = cs := by
  induction cs generalizing room with
  | nil => rfl
  | cons c rest ih =>
    rw [cutBytes] at h ⊢
    split
    · rename_i hc
      rw [if_pos hc, String.utf8Len_cons] at h
      rw [ih (by omega)]
    · rename_i hc
      have hsize : c.utf8Size ≤ 4 := c.utf8Size_le_four
      omega

/-- No longer name is cut to that of the documents. -/
theorem columnName_eq_data_iff {name : String} :
    columnName name = dataColumn ↔ name = dataColumn := by
  constructor
  · intro h
    have hcut : cutBytes 63 name.toList = dataColumn.toList := by
      rw [← h, columnName, String.toList_ofList]
    have hself : cutBytes 63 name.toList = name.toList :=
      cutBytes_eq_self_of_lt (by rw [hcut]; decide)
    exact String.toList_inj.1 (hself.symm.trans hcut)
  · rintro rfl
    decide

/-! ## Dotted paths -/

namespace FieldPath

/-- Checked paths with one text are one path. -/
theorem dotted_injective {p p' : FieldPath} (hp : p.hasEmptySegment = false)
    (hp' : p'.hasEmptySegment = false) (h : p.dotted = p'.dotted) : p = p' := by
  -- The text of no names is that of one empty name, which checking refuses.
  have hempty : ∀ {p : FieldPath}, p.hasEmptySegment = false → p.dotted = "" →
      p.segments = [] := by
    intro p hp htext
    by_contra hne
    have hparse : parse p.dotted = p := parse_dotted hne
    rw [htext] at hparse
    rw [← hparse] at hp
    exact absurd hp (by decide)
  have htext : ∀ {p : FieldPath}, p.segments = [] → p.dotted = "" := by
    rintro ⟨_⟩ rfl
    rfl
  by_cases hne : p.segments = []
  · have hne' : p'.segments = [] := hempty hp' (h ▸ htext hne)
    obtain ⟨segments⟩ := p
    obtain ⟨segments'⟩ := p'
    exact congrArg FieldPath.mk (hne.trans hne'.symm)
  · have hne' : p'.segments ≠ [] := fun hnil => hne (hempty hp (h.trans (htext hnil)))
    exact eq_of_dotted_eq hne hne' h

theorem dotted_eq_data_iff {p : FieldPath} (hp : p.hasEmptySegment = false) :
    p.dotted = dataColumn ↔ p = ⟨["data"]⟩ :=
  ⟨fun h => dotted_injective hp rfl (h.trans rfl), fun h => h ▸ rfl⟩

end FieldPath

/-- Checking a query looks at every projected field. -/
theorem Query.hasEmptySegment_of_validate {q : Query} (h : q.validate = .ok ()) :
    ∀ f ∈ q.fields, f.hasEmptySegment = false := by
  intro f hf
  have hmem : f ∈ q.outerPaths := by simp [outerPaths, hf]
  exact FieldPath.hasEmptySegment_eq_false_iff.2 ((validate_eq_ok_iff.1 h).2 f hmem)

/-! ## Places -/

namespace Cell

/-- Of several columns with one name the last is read. -/
theorem place?_eq_some_iff {columns : List String} {name : String} {i : Nat} :
    place? columns name = some i ↔
      columns[i]? = some name ∧ ∀ j, i < j → columns[j]? ≠ some name := by
  have hindex : ∀ k, columns.reverse.idxOf? name = some k ↔
      ∃ h : k < columns.length, columns[columns.length - 1 - k] = name ∧
        ∀ j (hj : j < k), columns[columns.length - 1 - j] ≠ name := by
    intro k
    rw [List.idxOf?, List.findIdx?_eq_some_iff_getElem]
    simp only [List.length_reverse, List.getElem_reverse, beq_iff_eq]
  rw [place?, Option.map_eq_some_iff]
  constructor
  · rintro ⟨k, hk, rfl⟩
    obtain ⟨hlt, hname, hbefore⟩ := (hindex k).1 hk
    refine ⟨List.getElem?_eq_some_iff.2 ⟨_, hname⟩, fun j hj hjname => ?_⟩
    obtain ⟨hjlt, hjname⟩ := List.getElem?_eq_some_iff.1 hjname
    refine hbefore (columns.length - 1 - j) (by omega) ?_
    have hback : columns.length - 1 - (columns.length - 1 - j) = j := by omega
    simpa only [hback] using hjname
  · rintro ⟨hname, hlater⟩
    obtain ⟨hlt, hname⟩ := List.getElem?_eq_some_iff.1 hname
    have hback : columns.length - 1 - (columns.length - 1 - i) = i := by omega
    refine ⟨columns.length - 1 - i, (hindex _).2 ⟨by omega, ?_, fun j hj hjname => ?_⟩, hback⟩
    · simpa only [hback] using hname
    · exact hlater _ (by omega) (List.getElem?_eq_some_iff.2 ⟨_, hjname⟩)

variable {α : Type} {read : String → Cell → Except DatabaseFault α} {columns : List String}
  {row : List Cell} {name : String}

theorem atName_of_place {i : Nat} {cell : Cell} (hplace : place? columns name = some i)
    (hcell : row[i]? = some cell) :
    atName read columns row name = read ("\"" ++ name ++ "\"") cell := by
  rw [atName, hplace, Option.bind_some, hcell]

theorem exists_place?_of_mem (h : name ∈ columns) : ∃ i, place? columns name = some i := by
  have hfound : (columns.reverse.idxOf? name).isSome = true := by
    rw [List.idxOf?, List.findIdx?_isSome]
    exact List.any_eq_true.2 ⟨name, List.mem_reverse.2 h, beq_self_eq_true name⟩
  obtain ⟨k, hk⟩ := Option.isSome_iff_exists.1 hfound
  exact ⟨_, by rw [place?, hk, Option.map_some]⟩

theorem atName_of_notMem (h : name ∉ columns) :
    atName read columns row name = .error (.columnNotFound name) := by
  have hplace : place? columns name = none := by
    cases hplace : place? columns name with
    | none => rfl
    | some i => exact absurd (List.mem_of_getElem? (place?_eq_some_iff.1 hplace).1) h
  rw [atName, hplace, Option.bind_none]

/-- A text that may be missing, as a cell. -/
def ofText? : Option String → Cell
  | none => null
  | some s => text s

theorem readText?_ofText? (column : String) (value : Option String) :
    readText? column (ofText? value) = .ok value := by
  cases value <;> rfl

end Cell

/-! ## Rows of fields -/

namespace FieldRow

variable {name : String} {value : Option String} {fields : List (String × Option String)}

theorem mem_put_iff (h : fields.Pairwise (·.1 < ·.1)) {field : String × Option String} :
    field ∈ ofColumns.put name value fields ↔
      field = (name, value) ∨ field ∈ fields ∧ field.1 ≠ name := by
  induction fields with
  | nil => simp [ofColumns.put]
  | cons first rest ih =>
    obtain ⟨k, v⟩ := first
    obtain ⟨hfirst, hrest⟩ := List.pairwise_cons.1 h
    have hne : ∀ other ∈ rest, other.1 ≠ k :=
      fun other hother heq => String.lt_irrefl k (heq ▸ hfirst other hother)
    rw [ofColumns.put]
    split
    · rename_i hlt
      have hkept : ∀ other ∈ (k, v) :: rest, other.1 ≠ name := by
        refine List.forall_mem_cons.2 ⟨fun heq => ?_, fun other hother heq => ?_⟩
        · exact String.lt_irrefl name (heq ▸ hlt)
        · have hbehind : name < other.1 := String.lt_trans hlt (hfirst other hother)
          exact String.lt_irrefl name (heq ▸ hbehind)
      rw [List.mem_cons]
      exact or_congr_right (iff_self_and.2 (hkept field))
    · split
      · rename_i hname
        subst hname
        rw [List.mem_cons, List.mem_cons]
        refine or_congr_right ⟨fun hmem => ⟨.inr hmem, hne field hmem⟩, ?_⟩
        rintro ⟨rfl | hmem, hneq⟩
        · exact absurd rfl hneq
        · exact hmem
      · rename_i hname
        rw [List.mem_cons, ih hrest, List.mem_cons]
        constructor
        · rintro (rfl | rfl | ⟨hmem, hneq⟩)
          · exact .inr ⟨.inl rfl, Ne.symm hname⟩
          · exact .inl rfl
          · exact .inr ⟨.inr hmem, hneq⟩
        · rintro (rfl | ⟨rfl | hmem, hneq⟩)
          · exact .inr (.inl rfl)
          · exact .inl rfl
          · exact .inr (.inr ⟨hmem, hneq⟩)

theorem pairwise_put (h : fields.Pairwise (·.1 < ·.1)) :
    (ofColumns.put name value fields).Pairwise (·.1 < ·.1) := by
  induction fields with
  | nil => exact List.pairwise_singleton _ _
  | cons first rest ih =>
    obtain ⟨k, v⟩ := first
    obtain ⟨hfirst, hrest⟩ := List.pairwise_cons.1 h
    rw [ofColumns.put]
    split
    · rename_i hlt
      refine List.pairwise_cons.2 ⟨List.forall_mem_cons.2 ⟨hlt, fun other hother => ?_⟩, h⟩
      exact String.lt_trans hlt (hfirst other hother)
    · rename_i hlt
      split
      · rename_i hname
        subst hname
        exact List.pairwise_cons.2 ⟨hfirst, hrest⟩
      · rename_i hname
        refine List.pairwise_cons.2 ⟨fun other hother => ?_, ih hrest⟩
        rcases (mem_put_iff hrest).1 hother with rfl | ⟨hmem, -⟩
        · by_contra hle
          exact hname (String.le_antisymm (String.not_lt.1 hle) (String.not_lt.1 hlt))
        · exact hfirst other hmem

/-- Columns that agree where they have one name are all kept, once and in the order of names. -/
theorem ofColumns_spec {columns : List (String × Option String)}
    (h : ∀ column ∈ columns, ∀ other ∈ columns, other.1 = column.1 → other = column) :
    (ofColumns columns).fields.Pairwise (·.1 < ·.1) ∧
      ∀ column, column ∈ (ofColumns columns).fields ↔ column ∈ columns := by
  -- By induction on the columns that are left, behind those that are kept already.
  have hfold : ∀ (left kept : List (String × Option String)), kept.Pairwise (·.1 < ·.1) →
      (∀ column ∈ left, ∀ other ∈ kept ++ left, other.1 = column.1 → other = column) →
      let fields := left.foldl (fun acc column => ofColumns.put column.1 column.2 acc) kept
      fields.Pairwise (·.1 < ·.1) ∧ ∀ column, column ∈ fields ↔ column ∈ kept ++ left := by
    intro left
    induction left with
    | nil => simp
    | cons first rest ih =>
      intro kept hkept hagree
      have hput : ∀ column, column ∈ ofColumns.put first.1 first.2 kept ↔
          column ∈ kept ∨ column = first := by
        intro column
        rw [mem_put_iff hkept, or_comm]
        refine ⟨Or.imp_left And.left, fun hmem => ?_⟩
        by_cases hname : column.1 = first.1
        · refine .inr (hagree first List.mem_cons_self column ?_ hname)
          exact List.mem_append.2 (hmem.imp_right fun heq => List.mem_cons.2 (.inl heq))
        · exact hmem.imp_left fun hin => ⟨hin, hname⟩
      have hall : ∀ column, column ∈ ofColumns.put first.1 first.2 kept ++ rest ↔
          column ∈ kept ++ first :: rest := by
        intro column
        rw [List.mem_append, hput, List.mem_append, List.mem_cons, or_assoc]
      obtain ⟨hsorted, hmem⟩ := ih _ (pairwise_put hkept) fun column hcolumn other hother =>
        hagree column (List.mem_cons_of_mem first hcolumn) other ((hall other).1 hother)
      exact ⟨hsorted, fun column => (hmem column).trans (hall column)⟩
  exact hfold columns [] .nil h

end FieldRow

/-! ## What is read -/

/-- The columns that a select has.  The server has no column without a name. -/
def Items.columns? : Items → Option (List String)
  | documents fields =>
      if "" ∈ fields.map Prod.snd then none
      else some (dataColumn :: fields.map fun f => columnName f.2)
  | entries => some [keyColumn, dataColumn]

namespace Query

/-- The document in a row. -/
def document (q : Query) (row : List Cell) : Except DatabaseFault Json :=
  Cell.atName Cell.readJson q.columns row dataColumn

/-- A projected field in a row, under its dotted path. -/
def fieldIn (q : Query) (row : List Cell) (field : FieldPath) :
    Except DatabaseFault (String × Option String) := do
  let value ← Cell.atName Cell.readText? q.columns row field.dotted
  .ok (field.dotted, value)

/-- The projected fields in a row. -/
def fieldRow (q : Query) (row : List Cell) : Except DatabaseFault FieldRow := do
  let fields ← q.fields.mapM (q.fieldIn row)
  .ok (.ofColumns fields)

end Query

namespace DocumentStore

open Script

/-- The documents in the rows of an answer. -/
def documents (s : DocumentStore) (q : Query) (answer : Answer) : Except StoreError (List Json) :=
  answer.rows.mapM fun row => (q.document row).mapError (malformed s.tableName)

theorem query_eq (s : DocumentStore) (q : Query) :
    s.query q = (s.operation "query" fun _ => do
      let answer ← send (.execute (q.select s.tableName))
      lift (s.documents q answer)) := rfl

theorem queryFields_eq (s : DocumentStore) (q : Query) :
    s.queryFields q = (s.operation "query_fields" fun _ => do
      let answer ← send (.execute (q.select s.tableName))
      orError (answer.readAll q.fieldRow)) := rfl

end DocumentStore

namespace Query

variable {q : Query}

/-- The names of all fields fit. -/
def HasShortNames (q : Query) : Prop := ∀ f ∈ q.fields, f.dotted.utf8ByteSize ≤ 63

/-- A row of a select: the document and the text of each field. -/
def resultRow (q : Query) (document : Cell) (text : FieldPath → Option String) : List Cell :=
  document :: q.fields.map fun f => .ofText? (text f)

/-- What is read as the document is the document. -/
def ReadsDocument (q : Query) : Prop :=
  ∀ (document : Cell) (text : FieldPath → Option String),
    q.document (q.resultRow document text) = document.readJson "\"data\""

/-- What is read as the fields are their texts, each once under the dotted path of its field, in
the order of paths. -/
def ReadsFields (q : Query) : Prop :=
  ∀ (document : Cell) (text : FieldPath → Option String), ∃ read,
    q.fieldRow (q.resultRow document text) = .ok read ∧ read.fields.Pairwise (·.1 < ·.1) ∧
      ∀ field, field ∈ read.fields ↔ field ∈ q.fields.map fun f => (f.dotted, text f)

theorem columnName_of_hasShortNames (h : q.HasShortNames) :
    ∀ f ∈ q.fields, columnName f.dotted = f.dotted :=
  fun f hf => columnName_eq_self_iff.2 (h f hf)

theorem columns_of_hasShortNames (h : q.HasShortNames) :
    q.columns = dataColumn :: q.fields.map FieldPath.dotted := by
  rw [columns, List.map_congr_left (columnName_of_hasShortNames h)]

theorem utf8ByteSize_le_of_mem_columns {name : String} (h : name ∈ q.columns) :
    name.utf8ByteSize ≤ 63 := by
  rw [columns, List.mem_cons, List.mem_map] at h
  rcases h with rfl | ⟨f, -, rfl⟩
  · decide
  · exact utf8ByteSize_columnName_le _

/-- A field with a longer name is in no row. -/
theorem fieldIn_of_long {f : FieldPath} (h : ¬ f.dotted.utf8ByteSize ≤ 63) (row : List Cell) :
    q.fieldIn row f = .error (.columnNotFound f.dotted) := by
  rw [fieldIn, Cell.atName_of_notMem (mt utf8ByteSize_le_of_mem_columns h)]
  rfl

section

variable (hpaths : ∀ f ∈ q.fields, f.hasEmptySegment = false)

include hpaths

theorem data_mem_names_iff :
    (dataColumn ∈ q.fields.map fun f => columnName f.dotted) ↔ ⟨["data"]⟩ ∈ q.fields := by
  rw [List.mem_map]
  constructor
  · rintro ⟨f, hf, hname⟩
    rwa [← (FieldPath.dotted_eq_data_iff (hpaths f hf)).1 (columnName_eq_data_iff.1 hname)]
  · exact fun h => ⟨_, h, by decide⟩

theorem columns?_documents :
    (Items.documents q.namedFields).columns? =
      if ⟨[]⟩ ∈ q.fields then none else some q.columns := by
  have hempty : "" ∈ q.namedFields.map Prod.snd ↔ ⟨[]⟩ ∈ q.fields := by
    rw [namedFields, List.map_map, List.mem_map]
    constructor
    · rintro ⟨f, hf, htext⟩
      rwa [← (FieldPath.dotted_injective (hpaths f hf) rfl htext : f = ⟨[]⟩)]
    · exact fun h => ⟨_, h, rfl⟩
  have hnames : q.namedFields.map (fun f => columnName f.2) =
      q.fields.map fun f => columnName f.dotted := by
    rw [namedFields, List.map_map]
    rfl
  rw [Items.columns?, hnames]
  exact if_congr hempty rfl rfl

theorem nodup_dotted_iff : (q.fields.map FieldPath.dotted).Nodup ↔ q.fields.Nodup :=
  ⟨.of_map FieldPath.dotted, fun hnodup => hnodup.map_on fun f hf f' hf' h =>
    FieldPath.dotted_injective (hpaths f hf) (hpaths f' hf') h⟩

theorem columns_nodup_iff (hshort : q.HasShortNames) :
    q.columns.Nodup ↔ q.fields.Nodup ∧ ⟨["data"]⟩ ∉ q.fields := by
  have hdata := data_mem_names_iff hpaths
  rw [List.map_congr_left (columnName_of_hasShortNames hshort)] at hdata
  rw [columns_of_hasShortNames hshort, List.nodup_cons, hdata, nodup_dotted_iff hpaths, and_comm]

theorem readsDocument_iff : q.ReadsDocument ↔ ⟨["data"]⟩ ∉ q.fields := by
  rw [← data_mem_names_iff hpaths]
  constructor
  · intro h hdata
    -- A document next to fields that are all missing.
    have hread := h (.text "true") fun _ => none
    have hcolumn : dataColumn ∈ q.columns := List.mem_cons_self
    obtain ⟨i, hi⟩ := Cell.exists_place?_of_mem hcolumn
    obtain ⟨hname, hlater⟩ := Cell.place?_eq_some_iff.1 hi
    cases i with
    | zero =>
      obtain ⟨k, hk⟩ := List.getElem?_of_mem hdata
      exact hlater (k + 1) (Nat.succ_pos k) hk
    | succ k =>
      obtain ⟨hlt, -⟩ := List.getElem?_eq_some_iff.1 hname
      have hnull : (q.resultRow (.text "true") fun _ => none)[k + 1]? = some .null := by
        have hk : k < q.fields.length := by simpa [columns] using hlt
        simp [resultRow, hk, Cell.ofText?]
      rw [document, Cell.atName_of_place hi hnull] at hread
      have htrue : Json.read "true" = .ok (.bool true) := by decide +kernel
      simp [Cell.readJson, htrue] at hread
  · intro hdata cell text
    refine Cell.atName_of_place (i := 0) (Cell.place?_eq_some_iff.2 ⟨rfl, fun j hj hname => ?_⟩) rfl
    obtain ⟨k, rfl⟩ := Nat.exists_eq_succ_of_ne_zero (Nat.ne_of_gt hj)
    exact hdata (List.mem_of_getElem? hname)

/-- A field whose name fits is read at a column of its own, also one called as the documents. -/
theorem fieldIn_of_hasShortNames (hshort : q.HasShortNames) {f : FieldPath} (hf : f ∈ q.fields)
    (document : Cell) (text : FieldPath → Option String) :
    q.fieldIn (q.resultRow document text) f = .ok (f.dotted, text f) := by
  obtain ⟨k, hk⟩ := List.getElem?_of_mem hf
  have hcolumn : ∀ m, q.columns[m + 1]? = (q.fields.map FieldPath.dotted)[m]? := by
    intro m
    rw [columns_of_hasShortNames hshort]
    rfl
  have hown : q.columns[k + 1]? = some f.dotted := by
    rw [hcolumn, List.getElem?_map, hk, Option.map_some]
  obtain ⟨i, hi⟩ := Cell.exists_place?_of_mem (List.mem_of_getElem? hown)
  obtain ⟨hname, hlater⟩ := Cell.place?_eq_some_iff.1 hi
  obtain ⟨m, rfl⟩ : ∃ m, i = m + 1 := by
    refine Nat.exists_eq_succ_of_ne_zero fun hzero => ?_
    exact hlater (k + 1) (hzero ▸ Nat.succ_pos k) hown
  rw [hcolumn, List.getElem?_map, Option.map_eq_some_iff] at hname
  obtain ⟨f', hf', hdotted⟩ := hname
  obtain rfl : f' = f :=
    FieldPath.dotted_injective (hpaths f' (List.mem_of_getElem? hf')) (hpaths f hf) hdotted
  have hcell : (q.resultRow document text)[m + 1]? = some (.ofText? (text f')) := by
    rw [resultRow, List.getElem?_cons_succ, List.getElem?_map, hf', Option.map_some]
  rw [fieldIn, Cell.atName_of_place hi hcell, Cell.readText?_ofText?]
  rfl

theorem readsFields_iff : q.ReadsFields ↔ q.HasShortNames := by
  constructor
  · intro h f hf
    obtain ⟨read, hread, -⟩ := h .null fun _ => none
    by_contra hlong
    rw [fieldRow] at hread
    cases hnamed : q.fields.mapM (q.fieldIn (q.resultRow .null fun _ => none)) with
    | error e => rw [hnamed] at hread; exact nomatch hread
    | ok named =>
      obtain ⟨hlength, hfields⟩ := List.forall₂_iff_get.1 (mapM_eq_ok_iff.1 hnamed)
      obtain ⟨i, hi, rfl⟩ := List.getElem_of_mem hf
      have hfield := hfields i hi (hlength ▸ hi)
      rw [List.get_eq_getElem, fieldIn_of_long hlong] at hfield
      exact nomatch hfield
  · intro hshort document text
    have hnamed : q.fields.mapM (q.fieldIn (q.resultRow document text)) =
        .ok (q.fields.map fun f => (f.dotted, text f)) := by
      rw [mapM_eq_ok_iff, List.forall₂_map_right_iff, List.forall₂_same]
      exact fun f hf => fieldIn_of_hasShortNames hpaths hshort hf document text
    refine ⟨_, by rw [fieldRow, hnamed]; rfl, FieldRow.ofColumns_spec ?_⟩
    simp only [List.forall_mem_map]
    intro f hf f' hf' hdotted
    rw [FieldPath.dotted_injective (hpaths f' hf') (hpaths f hf) hdotted]

end

/-- What the columns of a checked query are.  A select shows the document and the fields, each
under its dotted path; it has columns unless a path has no names.  Different fields have
different dotted paths.  The columns are called as the paths exactly when no path is longer than
63 bytes, and then they are different exactly when the fields are and none is called as the
column of the documents.

The store reads the rows of this select through `document` and `fieldRow`.  Documents are read
where they are exactly when no field is called as their column, and fields are read under their
dotted paths exactly when no path is longer. -/
theorem columns_told_apart (q : Query) (s : DocumentStore) (hvalid : q.validate = .ok ()) :
    (∃ selection, readStatement? (q.select s.tableName).sql = some (.select selection) ∧
      selection.items.columns? = if ⟨[]⟩ ∈ q.fields then none else some q.columns) ∧
    ((q.fields.map FieldPath.dotted).Nodup ↔ q.fields.Nodup) ∧
    ((∀ f ∈ q.fields, columnName f.dotted = f.dotted) ↔ q.HasShortNames) ∧
    (q.HasShortNames → (q.columns.Nodup ↔ q.fields.Nodup ∧ ⟨["data"]⟩ ∉ q.fields)) ∧
    (s.query q = (s.operation "query" fun _ => do
      let answer ← Script.send (.execute (q.select s.tableName))
      Script.lift (s.documents q answer))) ∧
    (q.ReadsDocument ↔ ⟨["data"]⟩ ∉ q.fields) ∧
    (s.queryFields q = (s.operation "query_fields" fun _ => do
      let answer ← Script.send (.execute (q.select s.tableName))
      DocumentStore.orError (answer.readAll q.fieldRow))) ∧
    (q.ReadsFields ↔ q.HasShortNames) := by
  have hpaths := hasEmptySegment_of_validate hvalid
  exact ⟨⟨_, q.readStatement?_select s.table.name, columns?_documents hpaths⟩,
    nodup_dotted_iff hpaths, forall₂_congr fun _ _ => columnName_eq_self_iff,
    columns_nodup_iff hpaths, s.query_eq q, readsDocument_iff hpaths, s.queryFields_eq q,
    readsFields_iff hpaths⟩

/-- A member whose name holds a point, next to a path of the same letters. -/
theorem columns_told_apart_point :
    let q : Query := { all with fields := [⟨["a.b"]⟩, ⟨["a", "b"]⟩] }
    q.validate = .ok () ∧ q.columns.Nodup ∧ q.ReadsDocument ∧ q.ReadsFields := by
  intro q
  let docs : DocumentStore := ⟨⟨⟨"docs", by decide, by decide⟩, none⟩, .ofSeconds 30⟩
  have hvalid : q.validate = .ok () := rfl
  have hshort : q.HasShortNames := by
    rw [HasShortNames]
    decide
  have hdata : ⟨["data"]⟩ ∉ q.fields := by decide
  obtain ⟨-, -, -, hcolumns, -, hdocument, -, hfields⟩ := columns_told_apart q docs hvalid
  exact ⟨hvalid, (hcolumns hshort).2 ⟨by decide, hdata⟩, hdocument.2 hdata, hfields.2 hshort⟩

/-- A field called as the column of the documents is read in their place. -/
theorem document_hidden :
    let q : Query := { all with fields := [⟨["data"]⟩] }
    q.validate = .ok () ∧ q.fields.Nodup ∧ ¬ q.columns.Nodup ∧
      q.document (q.resultRow (.text "true") fun _ => none) = .ok .null ∧
      Cell.readJson "\"data\"" (.text "true") = .ok (.bool true) := by
  decide +kernel

end Query

end DocStore
