import DocStore.Proofs.Database.Ledger
import DocStore.Proofs.Pool.Loan
import DocStore.Proofs.Table.Provision

/-!
# Operations that write several things

Saving several documents, updating the documents of a query and setting several values each
write one batch once the table is seen to (`BatchCall`).

* None of the statements of a batch begins or ends a transaction:
  `BatchCall.isData_of_mem_body`.
* The script of such an operation is that of its batch behind that of its table:
  `BatchCall.script_operation`.
* So on a connection of the pool, what it writes it writes as a whole or not at all:
  `BatchCall.all_or_nothing`.
-/

namespace DocStore

open Sql (Statement)
open Script (Step inOrder)

/-! ## The statements -/

namespace Sql

theorem head?_append {s : String} {c : Char} (h : s.toList.head? = some c) (t : String) :
    (s ++ t).toList.head? = some c := by
  rw [String.toList_append, List.head?_append, h]
  rfl

/-- The words that begin and end transactions start with letters of their own. -/
theorem Statement.isData_of_head? {s : Statement} {c : Char} (h : s.sql.toList.head? = some c)
    (hc : c ∉ ['B', 'C', 'R']) : s.IsData := by
  have hne (word : String) (d : Char) (hword : word.toList.head? = some d)
      (hd : d ∈ ['B', 'C', 'R']) : s.sql ≠ word := by
    intro heq
    rw [heq, hword] at h
    exact hc (Option.some.inj h ▸ hd)
  exact ⟨hne "BEGIN" 'B' rfl (by decide), hne "COMMIT" 'C' rfl (by decide),
    hne "ROLLBACK" 'R' rfl (by decide)⟩

end Sql

/-- Saves a document under a key. -/
def DocumentTable.upsertStatement (t : DocumentTable) (layout : TableLayout) (e : Entry) :
    Statement :=
  ⟨layout.upsertSql t.name.text, [.text e.key, .text e.data.text]⟩

theorem DocumentTable.isData_upsertStatement (t : DocumentTable) (layout : TableLayout)
    (e : Entry) : (t.upsertStatement layout e).IsData := by
  have hstart : "INSERT INTO ".toList.head? = some 'I' := rfl
  exact Statement.isData_of_head? (Sql.head?_append (Sql.head?_append (Sql.head?_append
    (Sql.head?_append (Sql.head?_append hstart _) _) _) _) _) (by decide)

/-- Sets a value under a key. -/
def KeyValueStore.upsertStatement (s : KeyValueStore) (item : String × String) : Statement :=
  ⟨s.upsertSql, [.text (KeyValue.normalKey item.1), .text item.2]⟩

theorem KeyValueStore.isData_upsertStatement (s : KeyValueStore) (item : String × String) :
    (s.upsertStatement item).IsData := by
  have hstart : "INSERT INTO ".toList.head? = some 'I' := rfl
  exact Statement.isData_of_head?
    (Sql.head?_append (Sql.head?_append (Sql.head?_append hstart _) _) _) (by decide)

theorem Query.isData_selectKeyed (q : Query) (table : String) (lock : Bool) :
    (q.selectKeyed table lock).IsData := by
  rw [selectKeyed]
  cases q.source table with
  | rows r =>
    have hstart : "SELECT id, data FROM ".toList.head? = some 'S' := rfl
    exact Statement.isData_of_head? (Sql.head?_append hstart _) (by decide)
  | walk seed t =>
    have hstart : "WITH RECURSIVE walk(id, data, depth, ord) AS (".toList.head? = some 'W' := rfl
    exact Statement.isData_of_head?
      (Sql.head?_append (Sql.head?_append (Sql.head?_append hstart _) _) _) (by decide)

/-! ## The operations -/

/-- A call of an operation that writes a batch: `κ` is what its store remembers, `ρ` what is
found out about the table, and `α` what it gives. -/
inductive BatchCall : (κ ρ α : Type) → Type 1 where
  /-- Saves every item under the key of its place. -/
  | saveAll (s : DocumentStore) (items : List Json) (keys : List String)
      (hlength : items.length = keys.length) : BatchCall TableLayout TableLayout Unit
  /-- Locks the documents that a query means and saves what a function makes of them. -/
  | update {α : Type} (s : DocumentStore) (q : Query)
      (f : List Entry → Except StoreError (List Entry × α)) :
      BatchCall TableLayout TableLayout α
  /-- Sets every value under its key. -/
  | setMany (s : KeyValueStore) (items : Settings) : BatchCall Unit Unit Unit

namespace BatchCall

variable {κ ρ α : Type}

def operation : BatchCall κ ρ α → Operation κ α
  | saveAll s items keys _ => s.saveAll items keys
  | update s q f => s.updateWith q f
  | setMany s items => s.setMany items

def reporter : BatchCall κ ρ α → Reporter
  | saveAll s _ _ _ | update s _ _ => s.reporter
  | setMany s _ => s.reporter

def timeout : BatchCall κ ρ α → Duration
  | saveAll s _ _ _ | update s _ _ => s.timeout
  | setMany s _ => s.timeout

/-- Sees to the table. -/
def resolve : BatchCall κ ρ α → Script κ ρ
  | saveAll s _ _ _ | update s _ _ => s.table.resolve false
  | setMany s _ => s.ensureTable

/-- What is written: the documents and the values in the order in which they are given. -/
def batch : BatchCall κ ρ α → ρ → Batch α
  | saveAll s items keys _, layout =>
      .writes ((List.zipWith Entry.mk keys items).map (s.table.upsertStatement layout)) ()
  | update s q f, layout =>
      .update (q.selectKeyed s.tableName true) fun answer => do
        let locked ← answer.rows.mapM DocumentStore.readEntry
        let (updated, result) ← f locked
        .ok (updated.map (s.table.upsertStatement layout), result)
  | setMany s items, _ => .writes (items.map s.upsertStatement) ()

/-- What is reported when everything is written. -/
def report : BatchCall κ ρ α → α → Script κ α
  | saveAll s items _ _, () =>
      Script.note .debug
        ("Saved " ++ toString items.length ++ " documents to " ++ s.table.quoted)
  | update _ _ _, a => .done a
  | setMany _ _, a => .done a

theorem upsertAll_eq (t : DocumentTable) (layout : TableLayout) (entries : List Entry) :
    t.upsertAll layout entries = inOrder ((entries.map (t.upsertStatement layout)).map .execute) := by
  induction entries with
  | nil => rfl
  | cons e rest ih =>
    rw [DocumentTable.upsertAll, ih, DocumentTable.upsert, Script.bind_assoc]
    rfl

theorem putAll_eq (s : KeyValueStore) (items : Settings) :
    s.putAll items = inOrder ((items.map s.upsertStatement).map .execute) := by
  induction items with
  | nil => rfl
  | cons item rest ih =>
    rw [KeyValueStore.putAll, ih, KeyValueStore.put, Script.bind_assoc]
    rfl

theorem script_writes (statements : List Statement) :
    (Batch.writes statements ()).script =
      (Script.transaction (inOrder (statements.map .execute)) : Script κ Unit) := by
  have hdone : (inOrder (statements.map .execute) >>= fun _ => Script.done () : Script κ Unit) =
      inOrder (statements.map .execute) := Script.bind_done _
  exact congrArg Script.transaction hdone

/-- Reading the rows and changing them, one after the other or in one go. -/
theorem write_updated (s : DocumentStore) (layout : TableLayout)
    (f : List Entry → Except StoreError (List Entry × α)) (answer : Answer) :
    (do
      let locked ← Script.lift (answer.rows.mapM DocumentStore.readEntry)
      let (updated, result) ← Script.lift (f locked)
      s.table.upsertAll layout updated
      return result : DocumentTable.Work α) =
      (Script.lift do
        let locked ← answer.rows.mapM DocumentStore.readEntry
        let (updated, result) ← f locked
        .ok (updated.map (s.table.upsertStatement layout), result)) >>= Batch.write := by
  cases answer.rows.mapM DocumentStore.readEntry with
  | error e => rfl
  | ok locked =>
    simp only [Script.lift, Script.done_bind, upsertAll_eq]
    cases hf : f locked with
    | error e => simp [bind, Except.bind, hf, Script.bind]
    | ok w => simp [bind, Except.bind, hf, Script.bind, Batch.write]

/-- The operation is its batch behind its table. -/
theorem script_operation (call : BatchCall κ ρ α) :
    call.operation.script false =
      call.resolve >>= fun found => (call.batch found).script >>= call.report := by
  cases call with
  | saveAll s items keys hlength =>
    have hnone : DocumentStore.batchRefusal? items keys = none := if_pos hlength
    refine congrArg (Script.bind (s.table.resolve false)) (funext fun layout => ?_)
    simp only [hnone, upsertAll_eq]
    rw [batch, script_writes]
    rfl
  | update s q f =>
    refine congrArg (Script.bind (s.table.resolve false)) (funext fun layout => ?_)
    simp only [write_updated]
    exact (Script.bind_done _).symm
  | setMany s items =>
    refine congrArg (Script.bind s.ensureTable) (funext fun _ => ?_)
    rw [putAll_eq, batch, script_writes]
    exact (Script.bind_done _).symm

/-- None of the statements begins or ends a transaction. -/
theorem isData_of_mem_body (call : BatchCall κ ρ α) (found : ρ) (o : Nat → Outcome)
    {statement : Statement} (h : statement ∈ (call.batch found).body o) : statement.IsData := by
  cases call with
  | saveAll s items keys hlength =>
    obtain ⟨e, -, rfl⟩ := List.mem_map.1 h
    exact s.table.isData_upsertStatement found e
  | update s q f =>
    rcases List.mem_append.1 h with h | h
    · rw [List.mem_singleton.1 h]
      exact q.isData_selectKeyed s.tableName true
    · rw [batch, Batch.verdict] at h
      cases hlocked : (o 1).rows.rows.mapM DocumentStore.readEntry with
      | error e =>
        rw [hlocked] at h
        exact absurd h List.not_mem_nil
      | ok locked =>
        rw [hlocked] at h
        cases hf : f locked with
        | error e => simp [bind, Except.bind, hf, Batch.written] at h
        | ok w =>
          simp only [bind, Except.bind, hf, Batch.written, List.mem_map] at h
          obtain ⟨e, -, rfl⟩ := h
          exact s.table.isData_upsertStatement found e
  | setMany s items =>
    obtain ⟨item, -, rfl⟩ := List.mem_map.1 h
    exact s.isData_upsertStatement item

theorem refusal_operation (call : BatchCall κ ρ α) : call.operation.refusal = none := by
  cases call with
  | saveAll s items keys hlength => exact if_pos hlength
  | update s q f => rfl
  | setMany s items => rfl

theorem moves_resolve (call : BatchCall κ ρ α) : call.resolve.Moves id := by
  cases call with
  | saveAll s items keys hlength => exact s.table.moves_resolve false
  | update s q f => exact s.table.moves_resolve false
  | setMany s items => exact s.moves_ensureTable

/-- The report changes nothing. -/
theorem playOn_report (call : BatchCall κ ρ α) (a : α) (s : Stage) (memory : Option κ)
    (events : List LogEvent) :
    ∃ events', (call.report a).playOn s memory events = ⟨.result (.ok a), s, memory, events'⟩ := by
  cases call with
  | saveAll store items keys hlength => exact ⟨_, rfl⟩
  | update store q f => exact ⟨events, rfl⟩
  | setMany store items => exact ⟨events, rfl⟩

/-- Behind its table, on a connection of the pool, the call does what its batch comes to. -/
theorem allOrNothing_perform (call : BatchCall κ ρ α) {r r' : Pool.Rehearsal}
    {memory memory' : Option κ} {grant : Pool.Grant} {loan : Pool.Loan} {found : ρ} {s : Stage}
    {events : List LogEvent} (hclean : r.IsClean)
    (hseek : r.seek .lease (some call.timeout) = (.loan grant loan, r'))
    (hresolve : call.resolve.playOn ⟨loan.link, r'.server.outcomes, []⟩ memory [] =
      ⟨.result (.ok found), s, memory', events⟩) :
    let performed := r.perform call.reporter call.timeout call.operation memory
    let late := call.reporter.overdue call.operation.name call.timeout.shown
    ∃ sent,
      performed.rehearsal.server.seen =
        r'.server.seen ++ (s.sent ++ sent).map Pool.Sighting.statement ∧
      (call.batch found).AllOrNothing late s.outcome sent performed.result := by
  intro performed late
  have hfresh : loan.link = .fresh :=
    (hclean.seek .lease (some call.timeout)).1 grant loan (congrArg Prod.fst hseek)
  rw [hfresh] at hresolve
  have hlink : s.link = ⟨0, true⟩ := call.moves_resolve _ _ _ rfl _ _ _ _ hresolve
  obtain ⟨hresult, hseen⟩ := Pool.Rehearsal.perform_of_loan call.reporter memory hclean
    call.refusal_operation hseek
  obtain ⟨sent, hsent, hbatch⟩ := (call.batch found).allOrNothing_play memory' events late hlink
    (fun _ => call.isData_of_mem_body found s.outcome) call.playOn_report
  have hplay : (call.operation.script false).playOn ⟨.fresh, r'.server.outcomes, []⟩ memory [] =
      ((call.batch found).script >>= call.report).playOn s memory' events := by
    rw [script_operation, Script.playOn_bind, hresolve]
  have hstage : ((call.operation.script false).play ⟨.fresh, r'.server.outcomes, []⟩
      memory).stage.sent = s.sent ++ sent := by
    rw [← hsent, ← hplay]
    rfl
  have hended : performed.result = _ := hresult
  rw [← hplay] at hbatch
  exact ⟨sent, hseen.trans (by rw [hstage]), hended ▸ hbatch⟩

/-- What is written is written as a whole or not at all.

Once a connection was lent and the table was seen to, the call sends the statements of its batch
and nothing else.  The connection goes back to the pool without an open transaction.  A call with
more items than keys, or fewer, is refused, and sends nothing at all. -/
theorem all_or_nothing (call : BatchCall κ ρ α) {r r' : Pool.Rehearsal} {memory memory' : Option κ}
    {grant : Pool.Grant} {loan : Pool.Loan} {found : ρ} {s : Stage} {events : List LogEvent}
    (hclean : r.IsClean)
    (hseek : r.seek .lease (some call.timeout) = (.loan grant loan, r'))
    (hresolve : call.resolve.playOn ⟨loan.link, r'.server.outcomes, []⟩ memory [] =
      ⟨.result (.ok found), s, memory', events⟩) :
    let performed := r.perform call.reporter call.timeout call.operation memory
    let late := call.reporter.overdue call.operation.name call.timeout.shown
    (∃ sent,
      performed.rehearsal.server.seen =
        r'.server.seen ++ (s.sent ++ sent).map Pool.Sighting.statement ∧
      (call.batch found).AllOrNothing late s.outcome sent performed.result) ∧
    performed.rehearsal.IsClean ∧
    ∀ (store : DocumentStore) (items : List Json) (keys : List String)
      (remembered : Option TableLayout), items.length ≠ keys.length →
      r.perform store.reporter store.timeout (store.saveAll items keys) remembered =
        let e := .mismatchedBatch items.length keys.length
        ⟨.error e, remembered, r.report [store.reporter.failed "save_all" e]⟩ := by
  intro performed late
  refine ⟨call.allOrNothing_perform hclean hseek hresolve, hclean.perform _ _ _ _,
    fun store items keys remembered hne => ?_⟩
  exact Pool.Rehearsal.perform_of_refusal (if_neg hne)

/-- A pool that was not used yet, on a server that refuses the fifth statement. -/
def refusedFifth : Pool.Rehearsal :=
  .ofProvider
    { config := default, pool := ⟨0, 1, .ofSeconds 10, .ofSeconds 10, .ofSeconds 10, false⟩
      connectTimeout := .ofSeconds 10, options := .default, slot := none, closed := false
      poolsCreated := 0, totalAcquired := 0, totalReleased := 0, pinnedReuse := 0
      unitsOpened := 0 }
    ⟨fun _ => none, [],
      [.answer .empty, .answer .empty, .answer .empty, .answer .empty,
        .refuse (some "40001") "could not serialize access"], []⟩

/-- Two settings that are set for the first time. -/
def twoSettings : BatchCall Unit Unit Unit :=
  setMany ⟨⟨"app_settings", by decide +kernel, by decide +kernel⟩, .ofSeconds 30, none⟩
    [("a-key", "1"), ("b.key", "2")]

theorem all_or_nothing_refused :
    let call := twoSettings
    let r' := (refusedFifth.seek .lease (some call.timeout)).2
    let played := call.resolve.playOn ⟨.fresh, r'.server.outcomes, []⟩ none []
    let performed := refusedFifth.perform call.reporter call.timeout call.operation none
    refusedFifth.IsClean ∧
      refusedFifth.seek .lease (some call.timeout) = (.loan (.lease 1) ⟨1, .fresh⟩, r') ∧
      played = ⟨.result (.ok ()), played.stage, some (), []⟩ ∧
      (∃ sent,
        performed.rehearsal.server.seen =
          r'.server.seen ++ (played.stage.sent ++ sent).map Pool.Sighting.statement ∧
        (call.batch ()).AllOrNothing
          (call.reporter.overdue call.operation.name call.timeout.shown) played.stage.outcome sent
          performed.result) ∧
      performed.result =
        .error (.transactionFailed "error returned from database: could not serialize access") := by
  intro call r' played performed
  have hclean : refusedFifth.IsClean := nofun
  have hseek : refusedFifth.seek .lease (some call.timeout) =
      (.loan (.lease 1) ⟨1, .fresh⟩, r') := rfl
  have hresolve : played = ⟨.result (.ok ()), played.stage, some (), []⟩ := rfl
  exact ⟨hclean, hseek, hresolve, (all_or_nothing call hclean hseek hresolve).1, rfl⟩

end BatchCall

end DocStore
