import DocStore.Proofs.Document.Contention
import DocStore.Proofs.Json.Record

/-!
# Updates that are not lost

An update locks what it reads, in the transaction in which it writes.  So what it has read is
still what is committed when it commits, whatever others do in the meantime.

* Inside of its transaction an update locks rows, gives them to its function and writes what
  the function made of them, and others see nothing of it before it commits:
  `next_of_path_update`.
* What it commits was made of what is committed at that time: `World.IsSound.commit`.
-/

namespace DocStore.Contention

open Sql (Statement)
open Script (Path Sends)

/-! ## The script of an update -/

/-- What an update does inside of its transaction. -/
def updateBody (s : DocumentStore) (q : Query) (f : List Entry → Except StoreError (List Entry))
    (layout : TableLayout) : DocumentTable.Work (List Entry) :=
  Script.send (.execute (q.selectKeyed s.tableName true)) >>= fun answer =>
    Script.lift (answer.rows.mapM DocumentStore.readEntry) >>= fun locked =>
      Script.lift (f locked) >>= fun updated =>
        s.table.upsertAll layout updated >>= fun _ => .done updated

/-- The write of a document. -/
def put (e : Entry) : Write := .put e.key e.data.text

theorem script_queryAndUpdate (s : DocumentStore) (q : Query)
    (f : List Entry → Except StoreError (List Entry)) :
    (s.queryAndUpdate q f).script false =
      s.table.resolve false >>= fun layout => Script.transaction (updateBody s q f layout) := by
  refine congrArg (Script.bind (s.table.resolve false)) (funext fun layout => ?_)
  refine congrArg Script.transaction (congrArg (Script.bind _) (funext fun answer => ?_))
  refine congrArg (Script.bind _) (funext fun locked => ?_)
  dsimp only
  cases f locked <;> rfl

/-- An update stands in front of a command that sees to the table, or of one of its
transaction. -/
theorem of_path_update {s : DocumentStore} {q : Query}
    {f : List Entry → Except StoreError (List Entry)} {past : List (Command × Reply)} {c : Command}
    {next : Reply → Script TableLayout Unit}
    (h : Path ((Task.update q f).script s) past (.ask c next)) :
    (∃ next', Path (s.table.resolve false) past (.ask c next')) ∨
      ∃ layout first second next', past = first ++ second ∧
        Path (s.table.resolve false) first (.done layout) ∧
        Path (Script.transaction (updateBody s q f layout)) second (.ask c next') := by
  rw [Task.script, script_queryAndUpdate] at h
  have hleft {α : Type} {x : Script TableLayout α} {past : List (Command × Reply)}
      {next : Reply → Script TableLayout Unit}
      (h : Path (x >>= fun _ => .done ()) past (.ask c next)) :
      ∃ next', Path x past (.ask c next') := by
    rcases Path.of_bind h with ⟨x', hx', heq⟩ | ⟨a, first, second, -, -, hsecond⟩
    · cases x' with
      | ask c' next' =>
        obtain ⟨rfl, -⟩ := Script.ask.inj heq
        exact ⟨next', hx'⟩
      | _ => exact nomatch heq
    · exact nomatch (Path.of_done hsecond).2
  obtain ⟨next', h⟩ := hleft h
  rcases Path.of_bind h with ⟨x', hx', heq⟩ | ⟨layout, first, second, rfl, hfirst, hsecond⟩
  · cases x' with
    | ask c' next' =>
      obtain ⟨rfl, -⟩ := Script.ask.inj heq
      exact .inl ⟨next', hx'⟩
    | done layout =>
      exact .inr ⟨layout, past, [], next', (List.append_nil past).symm, hx', heq ▸ .refl _⟩
    | _ => exact nomatch heq
  · exact .inr ⟨layout, first, second, next', rfl, hfirst, hsecond⟩

/-- The answer of the first select that locks, once there is one. -/
def lockedRows? (table : String) (past : List (Command × Reply)) : Option Answer :=
  past.findSome? fun
    | (.execute s, .ok a) =>
        match s.effect table with
        | .lock => some a
        | _ => none
    | _ => none

/-- The command locks no rows by reading them. -/
def LocksNothing (table : String) (c : Command) : Prop :=
  ∀ s, c = .execute s → s.effect table ≠ .lock

/-- The command writes nothing under the key. -/
def SparesKey (table key : String) (c : Command) : Prop :=
  ∀ s w, c = .execute s → s.effect table = .write w → w.key ≠ key

theorem lockedRows?_append {table : String} {past : List (Command × Reply)}
    (h : ∀ e ∈ past, LocksNothing table e.1) (later : List (Command × Reply)) :
    lockedRows? table (past ++ later) = lockedRows? table later := by
  rw [lockedRows?, List.findSome?_append, List.findSome?_eq_none_iff.2, Option.none_or]
  · rfl
  · intro e he
    split
    · next s a =>
      split
      · next heffect => exact absurd heffect (h _ he s rfl)
      · rfl
    · rfl

/-- Seeing to the table locks no rows. -/
theorem locksNothing_of_path_resolve {t : DocumentTable} {past : List (Command × Reply)}
    {y : DocumentTable.Work TableLayout} (h : Path (t.resolve false) past y) :
    ∀ e ∈ past, LocksNothing t.name.text e.1 := by
  have hnot {s : Statement} {effect : Effect} (hs : s.effect t.name.text = effect)
      (hne : effect ≠ .lock) : LocksNothing t.name.text (.execute s) := by
    intro s' heq
    obtain rfl := Command.execute.inj heq
    rwa [hs]
  have hcreate : t.create.Sends (fun _ _ => True) (LocksNothing t.name.text) :=
    DocumentTable.sends_create nofun (hnot (t.effect_create _) nofun)
      (fun entries _ e _ => hnot (t.effect_upsertStatement .full e) nofun) nofun nofun
  exact (h.sends (DocumentTable.sends_resolve (hnot t.effect_columns nofun) (.inr hcreate))
    fun _ _ => trivial).1

/-- Documents that are saved in a transaction are locked and stand to be written. -/
theorem through_of_path_upsertAll {t : DocumentTable} {layout : TableLayout} {entries : List Entry}
    {past : List (Command × Reply)} (h : Path (t.upsertAll layout entries) past (.done ()))
    {session : Session} (hopen : session.isOpen = true) :
    session.through t.name.text past =
      { session with
        locked := session.locked ++ entries.map Entry.key
        pending := session.pending ++ entries.map put } := by
  induction entries generalizing past session with
  | nil =>
    obtain ⟨rfl, -⟩ := Path.of_done h
    simp [Session.through]
  | cons e rest ih =>
    obtain ⟨_, first, second, rfl, hfirst, hsecond⟩ := Path.of_bind_done h
    obtain ⟨a, later, rfl, hlater⟩ := Path.of_sendOr hfirst
    obtain ⟨rfl, -⟩ := Path.of_done hlater
    obtain ⟨isOpen, locked, read, pending⟩ := session
    obtain rfl : isOpen = true := hopen
    have hput : Session.take t.name.text ⟨true, locked, read, pending⟩
        (.execute (t.upsertStatement layout e)) a =
          ⟨true, locked ++ [e.key], read, pending ++ [put e]⟩ := by
      rw [Session.take, t.effect_upsertStatement layout e]
      rfl
    change (Session.take t.name.text _ (.execute (t.upsertStatement layout e)) a).through
      t.name.text second = _
    rw [hput]
    refine (ih hsecond rfl).trans ?_
    simp
/-- An update that has done everything but commit. -/
theorem through_of_path_updateBody {s : DocumentStore} {q : Query}
    {f : List Entry → Except StoreError (List Entry)} {layout : TableLayout}
    {past : List (Command × Reply)} {result : List Entry}
    (h : Path (updateBody s q f layout) past (.done result)) :
    ∃ a locked updated later, a.rows.mapM DocumentStore.readEntry = .ok locked ∧
      f locked = .ok updated ∧
      past = (.execute (q.selectKeyed s.tableName true), .ok a) :: later ∧
      ({ Session.idle with isOpen := true } : Session).through s.tableName past =
        { isOpen := true
          locked := (a.rows.filterMap storedRow?).map Prod.fst ++ updated.map Entry.key
          read := a.rows.filterMap storedRow?
          pending := updated.map put } := by
  obtain ⟨a, later, rfl, hread⟩ := Path.of_sendOr h
  obtain ⟨locked, hlocked, hmake⟩ := Path.of_lift hread
  obtain ⟨updated, hupdated, hwrite⟩ := Path.of_lift hmake
  obtain ⟨_, first, second, rfl, hfirst, hsecond⟩ := Path.of_bind_done hwrite
  obtain ⟨rfl, -⟩ := Path.of_done hsecond
  refine ⟨a, locked, updated, _, hlocked, hupdated, rfl, ?_⟩
  have hselect : ({ Session.idle with isOpen := true } : Session).take s.tableName
      (.execute (q.selectKeyed s.tableName true)) a =
        { isOpen := true
          locked := (a.rows.filterMap storedRow?).map Prod.fst
          read := a.rows.filterMap storedRow?
          pending := [] } := by
    rw [Session.take, q.effect_selectKeyed]
    rfl
  rw [List.append_nil]
  change (Session.take s.tableName _ (.execute (q.selectKeyed s.tableName true)) a).through
    s.tableName first = _
  rw [hselect]
  exact through_of_path_upsertAll hfirst rfl

/-- Inside of its transaction an update sends statements only. -/
theorem sends_updateBody (s : DocumentStore) (q : Query)
    (f : List Entry → Except StoreError (List Entry)) (layout : TableLayout) :
    (updateBody s q f layout).Sends (fun _ _ => True)
      fun c => ∃ statement, c = .execute statement :=
  Script.sends_sendOr ⟨_, rfl⟩ fun _ _ => Script.sends_lift fun _ _ => Script.sends_lift fun _ _ =>
    (DocumentTable.sends_upsertAll fun _ _ => ⟨_, rfl⟩).bind fun _ => trivial

/-- What an update does next: it sees to the table, or others see nothing of it, or it commits
what its function made of the rows that it has locked. -/
theorem next_of_path_update {s : DocumentStore} {q : Query}
    {f : List Entry → Except StoreError (List Entry)} {past : List (Command × Reply)} {c : Command}
    {next : Reply → Script TableLayout Unit}
    (h : Path ((Task.update q f).script s) past (.ask c next)) :
    (∃ next', Path (s.table.resolve false) past (.ask c next')) ∨
      c ≠ .commit ∧ (Session.idle.through s.tableName past).publish s.tableName c = [] ∨
      c = .commit ∧ ∃ a locked updated, lockedRows? s.tableName past = some a ∧
        a.rows.mapM DocumentStore.readEntry = .ok locked ∧ f locked = .ok updated ∧
        (Session.idle.through s.tableName past).read = a.rows.filterMap storedRow? ∧
        (Session.idle.through s.tableName past).pending = updated.map put := by
  rcases of_path_update h with hresolve | ⟨layout, first, second, next', rfl, hfirst, hsecond⟩
  · exact .inl hresolve
  -- It stands before the begin of its transaction, inside of it, or before its commit.
  rcases Path.of_transaction hsecond with
    rfl | ⟨a, later, rfl, ⟨next'', hlater⟩ | ⟨result, hlater, rfl⟩⟩
  · exact .inr (.inl ⟨nofun, rfl⟩)
  · obtain ⟨hstatements, hask⟩ := hlater.sends (sends_updateBody s q f layout) fun _ _ => trivial
    obtain ⟨statement, rfl⟩ := hask.1
    refine .inr (.inl ⟨nofun, ?_⟩)
    have hopen : (Session.idle.through s.tableName
        (first ++ (.begin, .ok a) :: later)).isOpen = true := by
      rw [Session.through_append]
      exact Session.isOpen_through hstatements
    rw [Session.publish, hopen]
  · obtain ⟨rows, locked, updated, rest, hlocked, hupdated, rfl, hsession⟩ :=
      through_of_path_updateBody hlater
    have hthrough : Session.idle.through s.tableName (first ++
        (.begin, .ok a) :: (.execute (q.selectKeyed s.tableName true), .ok rows) :: rest) = _ :=
      (Session.through_append _ _ _ _).trans hsession
    have hnothing : ∀ e ∈ first, LocksNothing s.tableName e.1 :=
      locksNothing_of_path_resolve hfirst
    refine .inr (.inr ⟨rfl, rows, locked, updated, ?_, hlocked, hupdated, ?_, ?_⟩)
    · rw [lockedRows?_append hnothing, lockedRows?, List.findSome?_cons, List.findSome?_cons]
      dsimp only
      rw [q.effect_selectKeyed]
    · rw [hthrough]
    · rw [hthrough]

/-! ## What a client passes on is what is committed -/

namespace World

variable {server : Server} {w : World}

/-- What an update has passed to its function is what is committed still. -/
theorem IsSound.rows_of_locked {c : Nat} {client : Client} {a : Answer} {locked : List Entry}
    (h : w.IsSound server) (hc : w.clients[c]? = some client)
    (hread : (client.session server.table).read = a.rows.filterMap storedRow?)
    (hlocked : a.rows.mapM DocumentStore.readEntry = .ok locked) {e : Entry} (he : e ∈ locked) :
    ∃ stored, w.rows e.key = some stored ∧ stored.json? = some e.data := by
  obtain ⟨row, hrow, hentry⟩ := exists_mem_of_forall₂ (mapM_eq_ok_iff.1 hlocked) he
  obtain ⟨stored, hstored, hjson⟩ := storedRow?_of_readEntry hentry
  have hmem : (e.key, stored) ∈ (client.session server.table).read := by
    rw [hread]
    exact List.mem_filterMap.2 ⟨row, hrow, hstored⟩
  exact ⟨stored, h.read c client hc _ hmem, hjson⟩

/-- An update that commits what its function made of rows that it has locked. -/
theorem IsSound.commit {c : Nat} {client : Client} {q : Query}
    {f : List Entry → Except StoreError (List Entry)} {a : Answer} (h : w.IsSound server)
    (hc : w.clients[c]? = some client) (htask : client.task = .update q f)
    (hcommand : client.command? = some .commit)
    (hlocked : lockedRows? server.table client.past = some a) (reply : Answer) :
    ∃ locked updated, a.rows.mapM DocumentStore.readEntry = .ok locked ∧ f locked = .ok updated ∧
      (∀ e ∈ locked, ∃ stored, w.rows e.key = some stored ∧ stored.json? = some e.data) ∧
      (w.step server (.execute c reply)).rows = server.applyAll w.rows (updated.map put) := by
  obtain ⟨honPath, htable⟩ := h.onPath c client hc
  obtain ⟨next, hrest, hsession, -⟩ :=
    Client.hear_of_command? server.table hcommand (.ok reply)
  rw [Client.IsOnPath, htask, hrest] at honPath
  rw [← htable] at hlocked hsession
  rcases next_of_path_update honPath with ⟨next', hresolve⟩ | ⟨hne, -⟩ |
    ⟨-, a', locked, updated, hlocked', hread, hmade, hgiven, hpending⟩
  · have hnone : lockedRows? client.store.tableName (client.past ++ []) = none :=
      lockedRows?_append (locksNothing_of_path_resolve hresolve) []
    rw [List.append_nil, hlocked] at hnone
    cases hnone
  · exact absurd rfl hne
  · obtain rfl : a = a' := Option.some.inj (hlocked.symm.trans hlocked')
    rw [← hsession, htable] at hgiven hpending
    refine ⟨locked, updated, hread, hmade, fun e he => h.rows_of_locked hc hgiven hread he, ?_⟩
    rw [← hpending, World.step, hc]
    dsimp only
    rw [hcommand]
    rfl

end World

end DocStore.Contention
