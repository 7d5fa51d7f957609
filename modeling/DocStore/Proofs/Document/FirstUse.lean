import DocStore.Proofs.Table.Creation

/-!
# The first use of a store

Every operation of a document store sees to the table first, if the store remembers nothing,
and then does what it would do for a store that remembers the layout (`Provisioned`).

* What an operation does of its own (`IsOwn`) neither looks for the table nor makes it, leaves
  the memory of the store alone, and knows nothing of the documents to start with:
  `Offered.exists_own`.
* Behind the course that seeing to the table takes there is nothing else:
  `IsOwn.provisioned_play`.
* So an operation whose table cannot be seen to sends nothing of its own, and the next one looks
  for the table again: `provisioned_first`.
-/

namespace DocStore

open Sql (Statement)
open Script

theorem Sql.getElem?_append {s : String} {n : Nat} {c : Char} (h : s.toList[n]? = some c)
    (t : String) : (s ++ t).toList[n]? = some c := by
  rw [String.toList_append,
    List.getElem?_append_left (List.getElem?_eq_some_iff.1 h).1, h]

/-! ## The statements of an operation -/

namespace DocumentTable

variable (t : DocumentTable)

/-- Looks for the table, or makes it. -/
def IsProvision (s : Statement) : Prop := s = t.columnsStatement ∨ s = t.createStatement

/-- Whatever is sent for the command, it neither looks for the table nor makes it. -/
def IsWork (c : Command) : Prop :=
  ∀ depth statement, c.statement? depth = some statement → ¬ t.IsProvision statement

variable {t}

theorem getElem?_columnsStatement : t.columnsStatement.sql.toList[7]? = some 'c' := by
  unfold columnsStatement TableLayout.columnsSql
  refine Sql.getElem?_append ?_ _
  rfl

theorem getElem?_createStatement : t.createStatement.sql.toList[7]? = some 'T' := by
  unfold createStatement Statement.plain TableLayout.createTableSql
  exact Sql.getElem?_append (Sql.getElem?_append (Sql.getElem?_append (Sql.getElem?_append
    (Sql.getElem?_append (Sql.getElem?_append (Sql.getElem?_append rfl _) _) _) _) _) _) _

/-- The eighth character tells these two from all others. -/
theorem not_isProvision {s : Statement}
    (h : s.sql.toList[7]? ≠ some 'c' ∧ s.sql.toList[7]? ≠ some 'T') : ¬ t.IsProvision s := by
  rintro (rfl | rfl)
  · exact h.1 getElem?_columnsStatement
  · exact h.2 getElem?_createStatement

theorem isWork_execute {s : Statement} {c : Char} (h : s.sql.toList[7]? = some c)
    (hc : c ≠ 'c' ∧ c ≠ 'T') : t.IsWork (.execute s) := by
  rintro depth statement ⟨⟩
  refine not_isProvision ⟨fun heq => hc.1 ?_, fun heq => hc.2 ?_⟩
  · exact Option.some.inj (h.symm.trans heq)
  · exact Option.some.inj (h.symm.trans heq)

theorem isWork_begin : t.IsWork .begin := by
  rintro depth statement ⟨⟩
  split
  · exact not_isProvision (by decide)
  · exact isWork_execute (Sql.getElem?_append rfl _) (c := 'N') (by decide) depth _ rfl

theorem isWork_commit : t.IsWork .commit := by
  rintro depth statement ⟨⟩
  split
  · exact not_isProvision (by decide)
  · exact isWork_execute (Sql.getElem?_append rfl _) (c := ' ') (by decide) depth _ rfl

theorem isWork_rollback : t.IsWork .rollback := by
  rintro depth statement ⟨⟩
  split
  · exact not_isProvision (by decide)
  · exact isWork_execute (Sql.getElem?_append rfl _) (c := 'K') (by decide) depth _ rfl

theorem isWork_ping : t.IsWork .ping := nofun

theorem isWork_upsertStatement (layout : TableLayout) (e : Entry) :
    t.IsWork (.execute (t.upsertStatement layout e)) :=
  isWork_execute (Sql.getElem?_append (Sql.getElem?_append (Sql.getElem?_append
    (Sql.getElem?_append (Sql.getElem?_append rfl _) _) _) _) _) (c := 'I') (by decide)

theorem only_upsertAll (layout : TableLayout) (entries : List Entry) :
    (t.upsertAll layout entries).Only t.IsWork := by
  rw [BatchCall.upsertAll_eq]
  refine only_inOrder fun step hstep => ?_
  rw [List.map_map, List.mem_map] at hstep
  obtain ⟨e, -, rfl⟩ := hstep
  exact isWork_upsertStatement layout e

end DocumentTable

open DocumentTable

variable {t : DocumentTable}

theorem Query.isWork_select (q : Query) (table : String) :
    t.IsWork (.execute (q.select table)) := by
  rw [select]
  cases q.source table with
  | rows r =>
    have hstart : ("SELECT " ++ dataColumn).toList[7]? = some 'd' := rfl
    refine isWork_execute (c := 'd') ?_ (by decide)
    simp only [Source.select, projection, Statement.ofPieces, Sql.renderFrom, List.cons_append,
      Sql.Piece.render, ← String.append_assoc]
    exact Sql.getElem?_append hstart _
  | walk seed walk =>
    exact isWork_execute (Sql.getElem?_append (Sql.getElem?_append (Sql.getElem?_append rfl _) _) _)
      (c := 'C') (by decide)

theorem Query.isWork_selectKeyed (q : Query) (table : String) (lock : Bool) :
    t.IsWork (.execute (q.selectKeyed table lock)) := by
  rw [selectKeyed]
  cases q.source table with
  | rows r => exact isWork_execute (Sql.getElem?_append rfl _) (c := 'i') (by decide)
  | walk seed walk =>
    exact isWork_execute (Sql.getElem?_append (Sql.getElem?_append (Sql.getElem?_append rfl _) _) _)
      (c := 'C') (by decide)

theorem Query.isWork_count (q : Query) (table : String) : t.IsWork (.execute (q.count table)) :=
  isWork_execute (Sql.getElem?_append rfl _) (c := 'C') (by decide)

theorem Query.isWork_delete (q : Query) (table : String) :
    t.IsWork (.execute (q.delete table)) := by
  rw [delete]
  cases q.source table with
  | rows r =>
    rw [Source.delete]
    split
    · exact isWork_execute (Sql.getElem?_append rfl _) (c := 'F') (by decide)
    · exact isWork_execute (Sql.getElem?_append rfl _) (c := 'F') (by decide)
  | walk seed walk =>
    exact isWork_execute (Sql.getElem?_append (Sql.getElem?_append (Sql.getElem?_append rfl _) _) _)
      (c := 'C') (by decide)

/-! ## What an operation does of its own -/

namespace DocumentStore

variable {α : Type} {op : DocumentStore → Operation TableLayout α}
  {own : DocumentStore → TableLayout → Work α} {s : DocumentStore}

/-- The operations of document stores. -/
inductive Offered : {α : Type} → (DocumentStore → Operation TableLayout α) → Prop where
  | save (key : String) (data : Json) : Offered fun s => s.save key data
  | get (key : String) : Offered fun s => s.get key
  | getAll : Offered getAll
  | delete (key : String) : Offered fun s => s.delete key
  | deleteAll (keys : List String) : Offered fun s => s.deleteAll keys
  | exists? (key : String) : Offered fun s => s.exists? key
  | metadata (keys : List String) : Offered fun s => s.metadata keys
  | check : Offered check
  | saveAll (items : List Json) (keys : List String) : Offered fun s => s.saveAll items keys
  | query (q : Query) : Offered fun s => s.query q
  | queryEntries (q : Query) : Offered fun s => s.queryEntries q
  | queryFields (q : Query) : Offered fun s => s.queryFields q
  | count (q : Query) : Offered fun s => s.count q
  | deleteQuery (q : Query) : Offered fun s => s.deleteQuery q
  | updateWith {α : Type} (q : Query) (f : List Entry → Except StoreError (List Entry × α)) :
      Offered fun s => s.updateWith q f
  | queryAndUpdate (q : Query) (f : List Entry → Except StoreError (List Entry)) :
      Offered fun s => s.queryAndUpdate q f

/-- What an operation does when the table is seen to.  It has nothing to do with the documents to
start with. -/
structure IsOwn (op : DocumentStore → Operation TableLayout α)
    (own : DocumentStore → TableLayout → Work α) : Prop where
  script : ∀ s pinned, (op s).script pinned = s.table.resolve pinned >>= own s
  only : ∀ s layout, (own s layout).Only s.table.IsWork
  withSeed : ∀ s seed, own (s.withSeed seed) = own s
  name : ∀ s seed, (op (s.withSeed seed)).name = (op s).name
  refusal : ∀ s seed, (op (s.withSeed seed)).refusal = (op s).refusal

theorem isOwn_operation {name : String} {body : DocumentStore → TableLayout → Work α}
    (honly : ∀ s layout, (body s layout).Only s.table.IsWork)
    (hseed : ∀ s seed, body (s.withSeed seed) = body s) :
    IsOwn (fun s => s.operation name (body s)) body :=
  ⟨fun _ _ => rfl, honly, hseed, fun _ _ => rfl, fun _ _ => rfl⟩

/-- One statement whose answer is read. -/
theorem only_ask {toError : DatabaseFault → StoreError} {c : Command} {f : Answer → Work α}
    (hc : s.table.IsWork c) (hf : ∀ a, (f a).Only s.table.IsWork) :
    (sendOr toError c >>= f).Only s.table.IsWork :=
  (only_sendOr _ hc).bind hf

theorem upsertAll_withSeed (s : DocumentStore) (seed : Except StoreError (List Entry))
    (layout : TableLayout) (entries : List Entry) :
    (s.withSeed seed).table.upsertAll layout entries = s.table.upsertAll layout entries := by
  rw [BatchCall.upsertAll_eq, BatchCall.upsertAll_eq]
  rfl

theorem exists_own_updateWith (q : Query)
    (f : List Entry → Except StoreError (List Entry × α)) :
    ∃ own, IsOwn (fun s => s.updateWith q f) own := by
  refine ⟨_, isOwn_operation (fun s layout => ?_) fun s seed => funext fun layout => ?_⟩
  · refine only_transaction isWork_begin ?_ isWork_commit
    exact only_ask (q.isWork_selectKeyed _ true) fun a => (only_lift _).bind fun locked =>
      (only_lift _).bind fun w => (only_upsertAll layout w.1).bind fun _ => only_done w.2
  · simp only [upsertAll_withSeed]
    rfl

theorem exists_own_saveAll (items : List Json) (keys : List String) :
    ∃ own, IsOwn (fun s => s.saveAll items keys) own := by
  refine ⟨fun s layout => (batchRefusal? items keys).elim
    (transaction (s.table.upsertAll layout (List.zipWith Entry.mk keys items)) >>= fun _ =>
      note .debug ("Saved " ++ toString items.length ++ " documents to " ++ s.table.quoted))
    Script.fail,
    fun s pinned => congrArg (s.table.resolve pinned >>= ·) (funext fun layout => ?_),
    fun s layout => ?_, fun s seed => funext fun layout => ?_, fun _ _ => rfl, fun _ _ => rfl⟩
  · cases batchRefusal? items keys <;> rfl
  · cases batchRefusal? items keys with
    | some e => exact only_fail e
    | none =>
      exact (only_transaction isWork_begin (only_upsertAll layout _) isWork_commit).bind fun _ =>
        only_note _ _
  · simp only [upsertAll_withSeed]
    rfl

/-- Every operation sees to the table and then does something of its own. -/
theorem Offered.exists_own (h : Offered op) : ∃ own, IsOwn op own := by
  cases h with
  | save key data =>
    exact ⟨_, isOwn_operation (fun s layout =>
      only_ask (isWork_upsertStatement layout ⟨key, data⟩) fun _ => only_done ()) fun _ _ => rfl⟩
  | get key =>
    exact ⟨_, isOwn_operation (fun s _ => only_ask (isWork_execute
      (Sql.getElem?_append (Sql.getElem?_append rfl _) _) (c := 'd') (by decide)) fun _ =>
        only_lift _) fun _ _ => rfl⟩
  | getAll =>
    exact ⟨_, isOwn_operation (fun s _ => only_ask (isWork_execute
      (Sql.getElem?_append rfl _) (c := 'd') (by decide)) fun _ => only_lift _) fun _ _ => rfl⟩
  | delete key =>
    exact ⟨_, isOwn_operation (fun s _ => only_ask (isWork_execute
      (Sql.getElem?_append (Sql.getElem?_append rfl _) _) (c := 'F') (by decide)) fun _ =>
        only_done _) fun _ _ => rfl⟩
  | deleteAll keys =>
    exact ⟨_, isOwn_operation (fun s _ => only_ask (isWork_execute
      (Sql.getElem?_append (Sql.getElem?_append rfl _) _) (c := 'F') (by decide)) fun _ =>
        only_done _) fun _ _ => rfl⟩
  | exists? key =>
    exact ⟨_, isOwn_operation (fun s _ => only_ask (isWork_execute
      (Sql.getElem?_append (Sql.getElem?_append rfl _) _) (c := 'E') (by decide)) fun _ =>
        only_lift _) fun _ _ => rfl⟩
  | metadata keys =>
    exact ⟨_, isOwn_operation (fun s _ => only_ask (isWork_execute
      (Sql.getElem?_append (Sql.getElem?_append (Sql.getElem?_append (Sql.getElem?_append
        (Sql.getElem?_append (Sql.getElem?_append rfl _) _) _) _) _) _) (c := 'i') (by decide))
          fun _ => only_lift _) fun _ _ => rfl⟩
  | check =>
    exact ⟨_, isOwn_operation (fun s _ => only_ask isWork_ping fun _ => only_done ())
      fun _ _ => rfl⟩
  | saveAll items keys => exact exists_own_saveAll items keys
  | query q =>
    exact ⟨_, isOwn_operation (fun s _ => only_ask (q.isWork_select _) fun _ => only_lift _)
      fun _ _ => rfl⟩
  | queryEntries q =>
    exact ⟨_, isOwn_operation (fun s _ => only_ask (q.isWork_selectKeyed _ false) fun _ =>
      only_lift _) fun _ _ => rfl⟩
  | queryFields q =>
    exact ⟨_, isOwn_operation (fun s _ => only_ask (q.isWork_select _) fun _ => only_lift _)
      fun _ _ => rfl⟩
  | count q =>
    exact ⟨_, isOwn_operation (fun s _ => only_ask (q.isWork_count _) fun _ => only_lift _)
      fun _ _ => rfl⟩
  | deleteQuery q =>
    exact ⟨_, isOwn_operation (fun s _ => only_ask (q.isWork_delete _) fun _ =>
      (only_lift _).bind fun keys => (only_note _ _).bind fun _ => only_done keys) fun _ _ => rfl⟩
  | updateWith q f => exact exists_own_updateWith q f
  | queryAndUpdate q f =>
    exact exists_own_updateWith q fun locked => (f locked).map fun updated => (updated, updated)

/-! ## What an operation comes to -/

/-- What an operation of a store gives, what the store remembers afterwards, and what is sent. -/
inductive Provisioned (s : DocumentStore) (op : Operation TableLayout α) (pinned : Bool)
    (stage : Stage) : (known : Option TableLayout) → Except StoreError α → Option TableLayout →
    List Statement → Prop where
  /-- The store remembers the layout. -/
  | known {layout : TableLayout} {result : Except StoreError α} {sent : List Statement}
      (hsent : ∀ statement ∈ sent, ¬ s.table.IsProvision statement) :
      Provisioned s op pinned stage (some layout) result (some layout) sent
  /-- The table is seen to, and the operation goes on as if the layout had been remembered. -/
  | goesOn {before : List Statement} {layout : TableLayout} {isKept : Bool}
      (hcourse : s.table.Course pinned stage.link.depth stage.outcome before
        (.goesOn layout isKept)) {rest : Played TableLayout α}
      (hrest : (op.script pinned).play (stage.past stage.link before) (some layout) = rest) :
      Provisioned s op pinned stage none
        (rest.ending.told (s.reporter.overdue op.name s.timeout.shown))
        (if isKept then some layout else none) rest.stage.sent
  /-- The table cannot be seen to.  Nothing else is sent. -/
  | ends {before : List Statement} {e : Option StoreError}
      (hcourse : s.table.Course pinned stage.link.depth stage.outcome before (.ends e)) :
      Provisioned s op pinned stage none
        (.error (e.getD (s.reporter.overdue op.name s.timeout.shown))) none before

namespace IsOwn

variable (h : IsOwn op own) (s : DocumentStore) (pinned : Bool) {layout : TableLayout}
  {stage : Stage}

include h

/-- What is remembered is not looked for. -/
theorem playOn_known (events : List LogEvent) :
    ((op s).script pinned).playOn stage (some layout) events =
      (own s layout).playOn stage (some layout) events := by
  rw [h.script]
  rfl

/-- What is remembered stays remembered, and the table is neither looked for nor made. -/
theorem provisioned_play_known (hstage : stage.sent = []) (late : StoreError) :
    let played := ((op s).script pinned).play stage (some layout)
    s.Provisioned (op s) pinned stage (some layout) (played.ending.told late) played.memory
      played.stage.sent := by
  obtain ⟨ending, s', hplay⟩ := (h.only s layout).exists_playOn stage
  obtain ⟨events, hplay⟩ := hplay (some layout) []
  intro played
  have hmemory : played.memory = some layout := by
    change (((op s).script pinned).playOn stage (some layout) []).memory = _
    rw [h.playOn_known, hplay]
  rw [hmemory]
  refine .known fun statement hstatement => ?_
  rcases Stage.mem_sent_unwind hstatement with hstatement | ⟨depth, hrollback⟩
  · rw [h.playOn_known] at hstatement
    rcases (h.only s layout).mem_sent hstatement with hstatement | ⟨c, depth, hc, hsent⟩
    · rw [hstage] at hstatement
      exact absurd hstatement List.not_mem_nil
    · exact hc depth statement hsent
  · exact isWork_rollback depth statement hrollback

/-- The table is seen to first. -/
theorem provisioned_play (hlink : stage.link.alive = true) (hstage : stage.sent = [])
    (known : Option TableLayout) :
    let played := ((op s).script pinned).play stage known
    s.Provisioned (op s) pinned stage known
      (played.ending.told (s.reporter.overdue (op s).name s.timeout.shown)) played.memory
      played.stage.sent := by
  cases known with
  | some layout => exact h.provisioned_play_known s pinned hstage _
  | none =>
    obtain ⟨before, verdict, hcourse, hof⟩ := s.table.exists_course hlink pinned []
    have hbind := playOn_bind (s.table.resolve pinned) (own s) stage none []
    rw [← h.script] at hbind
    generalize (s.table.resolve pinned).playOn stage none [] = resolved at hof hbind
    obtain ⟨ending, stage', memory, events⟩ := resolved
    cases verdict with
    | goesOn layout isKept =>
      obtain ⟨rfl, rfl, rfl⟩ := hof
      obtain ⟨ending, s', hplay⟩ := (h.only s layout).exists_playOn (stage.past stage.link before)
      obtain ⟨events', hfirst⟩ := hplay (if isKept then some layout else none) events
      obtain ⟨events'', hknown⟩ := hplay (some layout) []
      have hrest : ((op s).script pinned).play (stage.past stage.link before) (some layout) =
          ⟨ending, s'.unwind stage.link.depth, some layout, events''⟩ := by
        rw [play, h.playOn_known, hknown]
        rfl
      have hplayed : ((op s).script pinned).play stage none =
          ⟨ending, s'.unwind stage.link.depth, if isKept then some layout else none, events'⟩ := by
        rw [play, hbind]
        dsimp only
        rw [hfirst]
      rw [hplayed]
      have hgoesOn := Provisioned.goesOn hcourse hrest
      exact hgoesOn
    | ends e =>
      obtain ⟨rfl, hsent, rfl⟩ := hof
      have hplayed : ((op s).script pinned).play stage none =
          ⟨.failing e, stage'.unwind stage.link.depth, none, events⟩ := by
        rw [play, hbind]
        cases e <;> rfl
      have hsent' : (stage'.unwind stage.link.depth).sent = before := by
        rw [hsent, hstage, List.nil_append]
      rw [hplayed]
      dsimp only
      rw [hsent']
      have hends : s.Provisioned (op s) pinned stage none _ none before := .ends hcourse
      cases e <;> exact hends

/-- On a connection that has ended nothing is sent, and nothing is remembered. -/
theorem play_of_dead (hlink : stage.link.alive = false) (known : Option TableLayout) :
    let played := ((op s).script pinned).play stage known
    played.stage = stage ∧ played.memory = known := by
  constructor
  · have hstage := stage_playOn_of_dead ((op s).script pinned) hlink known []
    change Stage.unwind _ stage.link.depth = stage
    rw [hstage, Stage.unwind_of_dead hlink]
  · obtain ⟨⟨depth, alive⟩, outcomes, sent⟩ := stage
    obtain rfl : alive = false := hlink
    change (((op s).script pinned).playOn _ known []).memory = known
    cases known with
    | none =>
      rw [h.script]
      rfl
    | some layout =>
      rw [h.playOn_known]
      obtain ⟨ending, s', hplay⟩ := (h.only s layout).exists_playOn ⟨⟨depth, false⟩, outcomes, sent⟩
      obtain ⟨events, hplay⟩ := hplay (some layout) []
      rw [hplay]

/-- The documents to start with are of no interest when the layout is remembered. -/
theorem play_withSeed (seed : Except StoreError (List Entry)) (layout : TableLayout)
    (stage : Stage) :
    ((op (s.withSeed seed)).script pinned).play stage (some layout) =
      ((op s).script pinned).play stage (some layout) := by
  rw [play, play, h.playOn_known, h.playOn_known, h.withSeed]

end IsOwn

/-- The table is seen to first, and as a whole.

An operation of a store that remembers nothing looks for the table first, and takes one of the
courses of seeing to it: on a connection of the pool, and on one of its caller.  If that fails, it
fails with the error, sends nothing else, and the store still remembers nothing.  A store that
remembers the layout neither looks for the table nor makes it, and the documents to start with are
of no interest any more. -/
theorem provisioned_first (hop : Offered op) (s : DocumentStore) (r : Pool.Rehearsal) :
    (∀ grant loan r' known, r.IsClean → (op s).refusal = none →
      r.seek .lease (some s.timeout) = (.loan grant loan, r') →
      let performed := r.perform s.reporter s.timeout (op s) known
      ∃ sent,
        performed.rehearsal.server.seen = r'.server.seen ++ sent.map Pool.Sighting.statement ∧
        s.Provisioned (op s) false ⟨.fresh, r'.server.outcomes, []⟩ known performed.result
          performed.memory sent) ∧
    (∀ link known, (op s).refusal = none →
      let performed := (r.performOn link s.reporter s.timeout (op s) known).1
      ∃ sent,
        performed.rehearsal.server.seen = r.server.seen ++ sent.map Pool.Sighting.statement ∧
        if link.alive then
          s.Provisioned (op s) true ⟨link, r.server.outcomes, []⟩ known performed.result
            performed.memory sent
        else sent = [] ∧ performed.memory = known) ∧
    (∀ e link known, (op s).refusal = some e →
      let performed := ⟨.error e, known, r.report [s.reporter.failed (op s).name e]⟩
      r.perform s.reporter s.timeout (op s) known = performed ∧
        (r.performOn link s.reporter s.timeout (op s) known).1 = performed) ∧
    ∀ seed layout link,
      r.perform s.reporter s.timeout (op (s.withSeed seed)) (some layout) =
        r.perform s.reporter s.timeout (op s) (some layout) ∧
      r.performOn link s.reporter s.timeout (op (s.withSeed seed)) (some layout) =
        r.performOn link s.reporter s.timeout (op s) (some layout) := by
  obtain ⟨own, hown⟩ := hop.exists_own
  refine ⟨fun grant loan r' known hclean hrefusal hseek => ?_, fun link known hrefusal => ?_,
    fun e link known hrefusal => ?_, fun seed layout link => ?_⟩
  · obtain ⟨hresult, hseen⟩ :=
      Pool.Rehearsal.perform_of_loan s.reporter known hclean hrefusal hseek
    have hmemory := Pool.Rehearsal.memory_perform_of_loan s.reporter known hclean hrefusal hseek
    refine ⟨_, hseen, ?_⟩
    rw [hresult, hmemory]
    exact hown.provisioned_play s false rfl rfl known
  · obtain ⟨hresult, hmemory, hseen⟩ :=
      Pool.Rehearsal.performOn_of_script (r := r) s.reporter known hrefusal link
    refine ⟨_, hseen, ?_⟩
    rw [hresult, hmemory]
    split
    · next halive => exact hown.provisioned_play s true halive rfl known
    · next hdead =>
      have hlink : (⟨link, r.server.outcomes, []⟩ : Stage).link.alive = false :=
        Bool.eq_false_iff.2 hdead
      obtain ⟨hstage, hmemory⟩ := hown.play_of_dead s true hlink known
      exact ⟨congrArg Stage.sent hstage, hmemory⟩
  · exact ⟨Pool.Rehearsal.perform_of_refusal hrefusal,
      Pool.Rehearsal.performOn_of_refusal hrefusal link⟩
  · exact ⟨Pool.Rehearsal.perform_congr (hown.name s seed) (hown.refusal s seed)
        (hown.play_withSeed s false seed layout),
      Pool.Rehearsal.performOn_congr (hown.name s seed) (hown.refusal s seed)
        (hown.play_withSeed s true seed layout) link⟩

/-- A store whose table starts with one document. -/
def startingWithOne : DocumentStore :=
  ⟨⟨⟨"app_notes", by decide +kernel, by decide +kernel⟩, some (.ok [⟨"first", .bool true⟩])⟩,
    .ofSeconds 30⟩

/-- A pool that was not used yet, on a server that has no such table, and refuses its first
document in the words of a race. -/
def refusedSeed : Pool.Rehearsal :=
  .ofProvider
    { config := default, pool := ⟨0, 1, .ofSeconds 10, .ofSeconds 10, .ofSeconds 10, false⟩
      connectTimeout := .ofSeconds 10, options := .default, slot := none, closed := false
      poolsCreated := 0, totalAcquired := 0, totalReleased := 0, pinnedReuse := 0
      unitsOpened := 0 }
    ⟨fun _ => none, [],
      [.answer .empty, .answer .empty, .answer .empty,
        .refuse (some "23505") "duplicate key value"], []⟩

theorem provisioned_first_refused :
    let s := startingWithOne
    let op := fun s : DocumentStore => s.save "second" .null
    let r' := (refusedSeed.seek .lease (some s.timeout)).2
    let performed := refusedSeed.perform s.reporter s.timeout (op s) none
    Offered op ∧ refusedSeed.IsClean ∧ (op s).refusal = none ∧
      refusedSeed.seek .lease (some s.timeout) = (.loan (.lease 1) ⟨1, .fresh⟩, r') ∧
      (∃ sent,
        performed.rehearsal.server.seen = r'.server.seen ++ sent.map Pool.Sighting.statement ∧
        s.Provisioned (op s) false ⟨.fresh, r'.server.outcomes, []⟩ none performed.result
          performed.memory sent) ∧
      performed.result = .error (.database "23505" "duplicate key value") ∧
      performed.memory = none ∧
      performed.rehearsal.server.seen =
        r'.server.seen ++ (s.table.columnsStatement :: .plain "BEGIN" :: s.table.createStatement ::
          s.table.upsertStatement .full ⟨"first", .bool true⟩ ::
          [.plain "ROLLBACK"]).map Pool.Sighting.statement := by
  intro s op r' performed
  have hop : Offered op := .save "second" .null
  have hclean : refusedSeed.IsClean := Pool.Rehearsal.isClean_ofProvider _ _
  have hseek : refusedSeed.seek .lease (some s.timeout) = (.loan (.lease 1) ⟨1, .fresh⟩, r') := rfl
  exact ⟨hop, hclean, rfl, hseek,
    (provisioned_first hop s refusedSeed).1 _ _ _ none hclean rfl hseek, rfl, rfl, rfl⟩

end DocumentStore

end DocStore
