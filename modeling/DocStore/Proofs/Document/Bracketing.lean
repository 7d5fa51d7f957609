import DocStore.Proofs.Database.Nesting
import DocStore.Proofs.Document.FirstUse

/-!
# The transactions of an operation

Every operation of a document store begins and ends its transactions in pairs, and sends nothing
else that has to do with transactions (`DocumentStore.Offered.brackets`).

* Looking for a table and making it does so: `DocumentTable.brackets_provision`,
  `DocumentTable.brackets_resolve`.
* So does what an operation does of its own: `DocumentStore.IsOwn.brackets`.
-/

namespace DocStore

open Sql (Statement)
open Script

/-! ## Statements that have nothing to do with transactions -/

/-- The words of transactions differ from others in their fifth character. -/
theorem Sql.Statement.isPlain_of_getElem? {s : Statement} {x : Char}
    (h : s.sql.toList[4]? = some x) (hx : x ∉ ['N', 'I', 'B', 'P', 'A']) : s.IsPlain := by
  have hne {word : String} {y : Char} (hword : word.toList[4]? = some y)
      (hy : y ∈ ['N', 'I', 'B', 'P', 'A']) : some (Statement.plain word) ≠ some s := by
    rintro ⟨rfl⟩
    exact hx (Option.some.inj (hword.symm.trans h) ▸ hy)
  intro depth c hc
  cases c with
  | execute s' => exact congrArg Command.execute (Option.some.inj hc)
  | ping => exact nomatch hc
  | begin =>
    rw [Command.statement?] at hc
    split at hc
    · exact absurd hc (hne (y := 'N') rfl (by decide))
    · exact absurd hc (hne (y := 'P') (Sql.getElem?_append rfl _) (by decide))
  | commit =>
    rw [Command.statement?] at hc
    split at hc
    · exact absurd hc (hne (y := 'I') rfl (by decide))
    · exact absurd hc (hne (y := 'A') (Sql.getElem?_append rfl _) (by decide))
  | rollback =>
    rw [Command.statement?] at hc
    split at hc
    · exact absurd hc (hne (y := 'B') rfl (by decide))
    · exact absurd hc (hne (y := 'B') (Sql.getElem?_append rfl _) (by decide))

theorem TableLayout.isPlain_metadata (layout : TableLayout) (table : String)
    (params : List Sql.Param) : Statement.IsPlain ⟨layout.metadataSql table, params⟩ :=
  Statement.isPlain_of_getElem? (Sql.getElem?_append (Sql.getElem?_append (Sql.getElem?_append
    (Sql.getElem?_append (Sql.getElem?_append (Sql.getElem?_append rfl _) _) _) _) _) _) (x := 'C')
    (by decide)

namespace DocumentTable

variable (t : DocumentTable)

theorem isPlain_columnsStatement : t.columnsStatement.IsPlain :=
  Statement.isPlain_of_getElem? (Sql.getElem?_append rfl _) (x := 'C') (by decide)

theorem isPlain_unwrittenStatement : unwrittenStatement.IsPlain :=
  Statement.isPlain_of_getElem? (x := 'C') rfl (by decide)

theorem isPlain_createStatement : t.createStatement.IsPlain :=
  Statement.isPlain_of_getElem? (Sql.getElem?_append (Sql.getElem?_append (Sql.getElem?_append
    (Sql.getElem?_append (Sql.getElem?_append (Sql.getElem?_append (Sql.getElem?_append rfl _) _)
      _) _) _) _) _) (x := 'T') (by decide)

theorem isPlain_upsertStatement (layout : TableLayout) (e : Entry) :
    (t.upsertStatement layout e).IsPlain :=
  Statement.isPlain_of_getElem? (Sql.getElem?_append (Sql.getElem?_append (Sql.getElem?_append
    (Sql.getElem?_append (Sql.getElem?_append rfl _) _) _) _) _) (x := 'R') (by decide)

end DocumentTable

namespace Query

variable (q : Query) (table : String)

theorem isPlain_select : (q.select table).IsPlain := by
  rw [select]
  cases q.source table with
  | rows r =>
    exact Statement.isPlain_of_getElem? (Sql.getElem?_append rfl _) (x := 'C') (by decide)
  | walk seed walk =>
    exact Statement.isPlain_of_getElem? (Sql.getElem?_append (Sql.getElem?_append
      (Sql.getElem?_append rfl _) _) _) (x := ' ') (by decide)

theorem isPlain_selectKeyed (lock : Bool) : (q.selectKeyed table lock).IsPlain := by
  rw [selectKeyed]
  cases q.source table with
  | rows r =>
    exact Statement.isPlain_of_getElem? (Sql.getElem?_append rfl _) (x := 'C') (by decide)
  | walk seed walk =>
    exact Statement.isPlain_of_getElem? (Sql.getElem?_append (Sql.getElem?_append
      (Sql.getElem?_append rfl _) _) _) (x := ' ') (by decide)

theorem isPlain_count : (q.count table).IsPlain :=
  Statement.isPlain_of_getElem? (Sql.getElem?_append rfl _) (x := 'C') (by decide)

theorem isPlain_delete : (q.delete table).IsPlain := by
  rw [delete]
  cases q.source table with
  | rows r =>
    rw [Source.delete]
    split
    · exact Statement.isPlain_of_getElem? (Sql.getElem?_append rfl _) (x := 'T') (by decide)
    · exact Statement.isPlain_of_getElem? (Sql.getElem?_append rfl _) (x := 'T') (by decide)
  | walk seed walk =>
    exact Statement.isPlain_of_getElem? (Sql.getElem?_append (Sql.getElem?_append
      (Sql.getElem?_append rfl _) _) _) (x := ' ') (by decide)

end Query

/-! ## Seeing to the table -/

namespace DocumentTable

variable (t : DocumentTable) {isOpen : Bool}

theorem brackets_execute {κ α : Type} {toError : DatabaseFault → StoreError} {s : Statement}
    (hs : s.IsPlain) {f : Answer → Script κ α} {after : Bool}
    (hf : ∀ a, (f a).Brackets after isOpen) :
    (sendOr toError (.execute s) >>= f).Brackets after isOpen :=
  (brackets_sendOr (c := .execute s) hs).bind hf

theorem brackets_upsertAll (layout : TableLayout) (entries : List Entry) :
    (t.upsertAll layout entries).Brackets isOpen isOpen := by
  induction entries with
  | nil => exact brackets_done ()
  | cons e rest ih =>
    have hupsert : (t.upsert layout e).Brackets isOpen isOpen :=
      brackets_execute (t.isPlain_upsertStatement layout e) fun _ => brackets_done ()
    exact hupsert.bind fun _ => ih

theorem brackets_sow : t.sow.Brackets isOpen isOpen := by
  rw [sow]
  split
  · exact brackets_done ()
  · exact (brackets_lift _).bind fun entries => (t.brackets_upsertAll .full entries).bind fun _ =>
      brackets_note _ _

theorem brackets_create : t.create.Brackets false false := by
  rw [create]
  refine (brackets_sendOr (c := .begin) rfl).bind fun _ =>
    ⟨t.isPlain_createStatement, fun _ => ?_, fun fault => ?_⟩
  · exact t.brackets_sow.bind fun _ => brackets_commit.bind fun _ =>
      (brackets_note _ _).bind fun _ => brackets_done true
  · dsimp only
    split
    · exact (brackets_sendOr (c := .rollback) rfl).bind fun _ => (brackets_note _ _).bind fun _ =>
        brackets_done false
    · trivial

theorem brackets_provision : t.provision.Brackets false false := by
  rw [provision]
  have hcolumns : t.columns.Brackets false false :=
    brackets_execute t.isPlain_columnsStatement fun _ => brackets_lift _
  refine hcolumns.bind fun names => ?_
  split
  · next layout _ =>
    split
    · exact (brackets_note _ _).bind fun _ => brackets_done (layout, false)
    · exact brackets_done (layout, false)
  · exact t.brackets_create.bind fun created => brackets_done (TableLayout.full, created)

theorem brackets_isUnwritten : isUnwritten.Brackets false false :=
  brackets_execute isPlain_unwrittenStatement fun _ => brackets_lift _

theorem brackets_resolve (pinned : Bool) : (t.resolve pinned).Brackets false false := by
  intro known
  cases known with
  | some layout => exact brackets_done layout
  | none =>
    refine t.brackets_provision.bind fun (layout, created) => ?_
    cases pinned with
    | false => rfl
    | true =>
      cases created with
      | true => exact fun known => brackets_done (known.getD layout)
      | false =>
        refine brackets_isUnwritten.bind fun unwritten => ?_
        cases unwritten with
        | true => exact fun known => brackets_done (known.getD layout)
        | false => exact fun known => brackets_done (known.getD layout)

end DocumentTable

/-! ## Operations -/

namespace DocumentStore

open DocumentTable

variable {α : Type} {op : DocumentStore → Operation TableLayout α}

theorem brackets_operation {s : DocumentStore} {name : String} {body : TableLayout → Work α}
    (hbody : ∀ layout, (body layout).Brackets false false) (pinned : Bool) :
    ((s.operation name body).script pinned).Brackets false false :=
  (s.table.brackets_resolve pinned).bind hbody

theorem brackets_updateWith (s : DocumentStore) (q : Query)
    (f : List Entry → Except StoreError (List Entry × α)) (pinned : Bool) :
    ((s.updateWith q f).script pinned).Brackets false false := by
  refine brackets_operation (fun layout => brackets_transaction ?_) pinned
  exact brackets_execute (q.isPlain_selectKeyed _ true) fun _ => (brackets_lift _).bind fun _ =>
    (brackets_lift _).bind fun w => (s.table.brackets_upsertAll layout w.1).bind fun _ =>
      brackets_done w.2

theorem brackets_saveAll (s : DocumentStore) (items : List Json) (keys : List String)
    (pinned : Bool) : ((s.saveAll items keys).script pinned).Brackets false false := by
  refine (s.table.brackets_resolve pinned).bind fun layout => ?_
  split
  · trivial
  · exact (brackets_transaction (s.table.brackets_upsertAll layout _)).bind fun _ =>
      brackets_note _ _

/-- Every operation begins and ends its transactions in pairs. -/
theorem Offered.brackets (h : Offered op) (s : DocumentStore) (pinned : Bool) :
    ((op s).script pinned).Brackets false false := by
  have hselect (columns : String) (rest : String) (params : List Sql.Param)
      (hcolumns : columns.toList[4]? = some 'C') :
      Statement.IsPlain ⟨columns ++ s.tableName ++ rest, params⟩ :=
    Statement.isPlain_of_getElem? (Sql.getElem?_append (Sql.getElem?_append hcolumns _) _)
      (by decide)
  have hdelete (rest : String) (params : List Sql.Param) :
      Statement.IsPlain ⟨"DELETE FROM " ++ s.tableName ++ rest, params⟩ :=
    Statement.isPlain_of_getElem? (Sql.getElem?_append (Sql.getElem?_append rfl _) _) (x := 'T')
      (by decide)
  cases h with
  | save key data =>
    exact brackets_operation (fun layout =>
      brackets_execute (s.table.isPlain_upsertStatement layout ⟨key, data⟩) fun _ =>
        brackets_done ()) pinned
  | get key =>
    exact brackets_operation (fun _ =>
      brackets_execute (hselect _ _ _ rfl) fun _ => brackets_lift _) pinned
  | getAll =>
    exact brackets_operation (fun _ => brackets_execute (Statement.isPlain_of_getElem?
      (Sql.getElem?_append rfl _) (x := 'C') (by decide)) fun _ => brackets_lift _) pinned
  | delete key =>
    exact brackets_operation (fun _ =>
      brackets_execute (hdelete _ _) fun _ => brackets_done _) pinned
  | deleteAll keys =>
    exact brackets_operation (fun _ =>
      brackets_execute (hdelete _ _) fun _ => brackets_done _) pinned
  | exists? key =>
    exact brackets_operation (fun _ =>
      brackets_execute (hselect _ _ _ rfl) fun _ => brackets_lift _) pinned
  | metadata keys =>
    exact brackets_operation (fun layout =>
      brackets_execute (layout.isPlain_metadata _ _) fun _ => brackets_lift _) pinned
  | check =>
    exact brackets_operation (fun _ => (brackets_sendOr (c := .ping) trivial).bind fun _ =>
      brackets_done ()) pinned
  | saveAll items keys => exact s.brackets_saveAll items keys pinned
  | query q =>
    exact brackets_operation (fun _ =>
      brackets_execute (q.isPlain_select _) fun _ => brackets_lift _) pinned
  | queryEntries q =>
    exact brackets_operation (fun _ =>
      brackets_execute (q.isPlain_selectKeyed _ false) fun _ => brackets_lift _) pinned
  | queryFields q =>
    exact brackets_operation (fun _ =>
      brackets_execute (q.isPlain_select _) fun _ => brackets_lift _) pinned
  | count q =>
    exact brackets_operation (fun _ =>
      brackets_execute (q.isPlain_count _) fun _ => brackets_lift _) pinned
  | deleteQuery q =>
    exact brackets_operation (fun _ =>
      brackets_execute (q.isPlain_delete _) fun _ => (brackets_lift _).bind fun keys =>
        (brackets_note _ _).bind fun _ => brackets_done keys) pinned
  | updateWith q f => exact s.brackets_updateWith q f pinned
  | queryAndUpdate q f => exact s.brackets_updateWith q _ pinned

/-- What an operation does of its own begins and ends its transactions in pairs too. -/
theorem IsOwn.brackets {own : DocumentStore → TableLayout → Work α} (h : IsOwn op own)
    (hop : Offered op) (s : DocumentStore) (layout : TableLayout) :
    (own s layout).Brackets false false := by
  have hscript := hop.brackets s false
  rw [h.script] at hscript
  exact hscript (some layout)

end DocumentStore

end DocStore
