import DocStore.Proofs.Document.Updates

/-!
# Counters that are updated by many

A counter is a number that is read off a document.  Updates that increment it are counted one by
one, since none of them is lost.

* A task writes under no other keys than its own: `Task.sends_spares`.
* Every step adds to the counter what it commits of increments: `World.count?_step`.
* So does a run: `no_lost_update`.
-/

namespace DocStore.Contention

open Sql (Statement)
open Script (Path Sends)

/-- What a stored document counts. -/
def storedCount? (counter : Json → Int) (stored : Stored) : Option Int := stored.json?.map counter

/-- What the document under a key counts. -/
def Rows.count? (rows : Rows) (counter : Json → Int) (key : String) : Option Int :=
  (rows key).bind (storedCount? counter)

/-- The function of an update saves each document that it is given, and adds one to what the
document of the key counts. -/
def Increments (counter : Json → Int) (key : String)
    (f : List Entry → Except StoreError (List Entry)) : Prop :=
  ∀ locked updated, f locked = .ok updated →
    List.Forall₂ (fun e e' : Entry => e'.key = e.key ∧ (e.key = key →
      storedCount? counter (some e'.data.text) = some (counter e.data + 1))) locked updated

/-- The task leaves the document of the key alone. -/
def Task.Spares (key : String) : Task → Prop
  | save key' _ | delete key' => key' ≠ key
  | saveAll _ keys => key ∉ keys
  | update _ f => ∀ locked updated, f locked = .ok updated → ∀ e ∈ updated, e.key ≠ key

/-- The task increments the counter under the key or leaves it alone.  Making the table does
not touch it: it was there from the start, or it is not sown with the key. -/
structure Server.IsOrderly (server : Server) (counter : Json → Int) (key : String)
    (s : DocumentStore) (task : Task) : Prop where
  task : (∃ q f, task = .update q f ∧ Increments counter key f) ∨ task.Spares key
  seed : server.stands = true ∨
    ∀ entries, s.table.seed = some (.ok entries) → ∀ e ∈ entries, e.key ≠ key

theorem sparesKey_execute {table key : String} {s : Statement} {effect : Effect}
    (hs : s.effect table = effect) (hne : ∀ w, effect = .write w → w.key ≠ key) :
    SparesKey table key (.execute s) := by
  intro s' w heq hw
  obtain rfl := Command.execute.inj heq
  exact hne w (hs.symm.trans hw)

theorem sparesKey_upsert {t : DocumentTable} {layout : TableLayout} {e : Entry} {key : String}
    (h : e.key ≠ key) : SparesKey t.name.text key (.execute (t.upsertStatement layout e)) := by
  refine sparesKey_execute (t.effect_upsertStatement layout e) fun w hw => ?_
  obtain rfl := Effect.write.inj hw
  exact h

/-- Seeing to the table touches no document but those that it is sown with. -/
theorem sends_resolve_sparesKey {server : Server} {s : DocumentStore} {key : String}
    (htable : s.tableName = server.table)
    (hseed : server.stands = true ∨
      ∀ entries, s.table.seed = some (.ok entries) → ∀ e ∈ entries, e.key ≠ key) :
    (s.table.resolve false).Sends server.Shows (SparesKey server.table key) := by
  rw [← htable]
  refine DocumentTable.sends_resolve (sparesKey_execute s.table.effect_columns nofun) ?_
  rcases hseed with hstands | hseed
  · refine .inl fun a ha => ha hstands _ a rfl rfl ?_
    rw [← htable]
    exact s.table.effect_columns
  · exact .inr (DocumentTable.sends_create nofun (sparesKey_execute (s.table.effect_create _) nofun)
      (fun entries hentries e he => sparesKey_upsert (hseed entries hentries e he)) nofun nofun)

theorem mem_of_mem_zipWith_mk {keys : List String} {items : List Json} {e : Entry}
    (h : e ∈ List.zipWith Entry.mk keys items) : e.key ∈ keys := by
  rw [← List.map_uncurry_zip_eq_zipWith] at h
  obtain ⟨⟨key, item⟩, hmem, rfl⟩ := List.mem_map.1 h
  exact (List.of_mem_zip hmem).1

/-- A task that spares a key writes nothing under it. -/
theorem Task.sends_spares {server : Server} {s : DocumentStore} {task : Task} {key : String}
    (htable : s.tableName = server.table)
    (hseed : server.stands = true ∨
      ∀ entries, s.table.seed = some (.ok entries) → ∀ e ∈ entries, e.key ≠ key)
    (h : task.Spares key) : (task.script s).Sends server.Shows (SparesKey server.table key) := by
  have hresolve := sends_resolve_sparesKey htable hseed
  rw [← htable] at hresolve ⊢
  cases task with
  | save key' data =>
    exact hresolve.bind fun layout =>
      Script.sends_sendOr (sparesKey_upsert (e := ⟨key', data⟩) h) fun _ _ => trivial
  | delete key' =>
    have hdelete : SparesKey s.tableName key (.execute (s.table.deleteStatement key')) := by
      refine sparesKey_execute (s.table.effect_deleteStatement key') fun w hw => ?_
      obtain rfl := Effect.write.inj hw
      exact h
    have hscript : ((s.delete key').script false).Sends server.Shows (SparesKey s.tableName key) :=
      hresolve.bind fun _ => Script.sends_sendOr hdelete fun _ _ => trivial
    exact hscript.bind fun _ => trivial
  | saveAll items keys =>
    refine hresolve.bind fun layout => ?_
    split
    · trivial
    · refine (Script.sends_transaction nofun ?_ nofun).bind fun _ => trivial
      exact DocumentTable.sends_upsertAll fun e he =>
        sparesKey_upsert fun heq => h (heq ▸ mem_of_mem_zipWith_mk he)
  | update q f =>
    have hbody (layout : TableLayout) :
        (updateBody s q f layout).Sends server.Shows (SparesKey s.tableName key) :=
      Script.sends_sendOr (sparesKey_execute (q.effect_selectKeyed _) nofun) fun _ _ =>
        Script.sends_lift fun locked _ => Script.sends_lift fun updated hupdated =>
          (DocumentTable.sends_upsertAll fun e he =>
            sparesKey_upsert (h locked updated hupdated e he)).bind fun _ => trivial
    rw [Task.script, script_queryAndUpdate]
    exact (hresolve.bind fun layout => Script.sends_transaction nofun (hbody layout) nofun).bind
      fun _ => trivial

/-- Commands that spare a key show others nothing under it. -/
theorem key_ne_of_mem_publish {table key : String} {past : List (Command × Reply)} {c : Command}
    (hpast : ∀ e ∈ past, SparesKey table key e.1) (hc : SparesKey table key c) :
    ∀ w ∈ (Session.idle.through table past).publish table c, w.key ≠ key := by
  intro w hw
  cases c with
  | commit =>
    rcases Session.mem_pending_through hw with hw | ⟨s, r, hmem, heffect⟩
    · exact absurd hw List.not_mem_nil
    · exact hpast _ hmem s w rfl heffect
  | execute s =>
    rw [Session.publish] at hw
    split at hw
    · next heffect =>
      rw [List.mem_singleton.1 hw]
      exact hc s _ rfl heffect
    · exact absurd hw List.not_mem_nil
  | _ => exact absurd hw List.not_mem_nil

/-! ## What a write does to a counter -/

/-- Documents that the server holds to be the same count the same. -/
def Server.Respects (server : Server) (counter : Json → Int) : Prop :=
  ∀ old new, server.same old new = true →
    storedCount? counter (some old) = storedCount? counter (some new)

variable {server : Server} {counter : Json → Int} {key : String} {w : World}

theorem count?_apply_put (hsame : server.Respects counter) (rows : Rows) (data : String) :
    (server.apply rows (.put key data)).count? counter key = storedCount? counter (some data) := by
  simp only [Rows.count?, Server.apply, if_true]
  split
  · next old _ =>
    split
    · next h => exact hsame old data h
    · rfl
  · rfl

/-- If everything that is written under a key counts the same, then this is what it counts. -/
theorem count?_applyAll (hsame : server.Respects counter) {m : Int} {writes : List Write}
    (h : ∀ w ∈ writes, w.key = key →
      ∃ data, w = .put key data ∧ storedCount? counter (some data) = some m) {rows : Rows}
    (hrows : rows.count? counter key = some m ∨ ∃ w ∈ writes, w.key = key) :
    (server.applyAll rows writes).count? counter key = some m := by
  induction writes generalizing rows with
  | nil => exact hrows.resolve_right nofun
  | cons w writes ih =>
    obtain ⟨hw, hwrites⟩ := List.forall_mem_cons.1 h
    refine ih hwrites ?_
    by_cases hkey : w.key = key
    · obtain ⟨data, rfl, hdata⟩ := hw hkey
      exact .inl ((count?_apply_put hsame rows data).trans hdata)
    · rw [Rows.count?, Server.apply_of_ne (Ne.symm hkey)]
      refine hrows.imp_right fun ⟨w', hw', hkey'⟩ => ?_
      rcases List.mem_cons.1 hw' with rfl | hw'
      · exact absurd hkey' hkey
      · exact ⟨w', hw', hkey'⟩

/-! ## Runs -/

namespace World

/-- Every client increments the counter or leaves it alone. -/
def IsOrderly (server : Server) (counter : Json → Int) (key : String) (w : World) : Prop :=
  ∀ client ∈ w.clients, server.IsOrderly counter key client.store client.task

/-- Whether the event commits a transaction in which something was written under the key. -/
def commitsTo (server : Server) (key : String) (w : World) : Event → Bool
  | .execute c _ =>
      match w.clients[c]? with
      | some client =>
          match client.command? with
          | some .commit => (client.session server.table).pending.any fun x => x.key = key
          | _ => false
      | none => false
  | _ => false

/-- How many such transactions are committed. -/
def commits (server : Server) (key : String) : World → List Event → Nat
  | _, [] => 0
  | w, e :: events =>
      (w.commitsTo server key e).toNat + commits server key (w.step server e) events

/-- What an update was given under the key counts what is committed. -/
theorem IsSound.count?_of_locked {c : Nat} {client : Client} {a : Answer} {locked : List Entry}
    (h : w.IsSound server) (hc : w.clients[c]? = some client)
    (hgiven : (client.session server.table).read = a.rows.filterMap storedRow?)
    (hread : a.rows.mapM DocumentStore.readEntry = .ok locked) {e : Entry} (he : e ∈ locked)
    (hkey : e.key = key) : w.rows.count? counter key = some (counter e.data) := by
  obtain ⟨stored, hstored, hjson⟩ := h.rows_of_locked hc hgiven hread he
  rw [← hkey, Rows.count?, hstored, Option.bind_some, storedCount?, hjson]
  rfl

/-- What an increment writes under the key is one more than what is committed. -/
theorem IsSound.puts_of_increments {c : Nat} {client : Client} {a : Answer}
    {locked updated : List Entry} {f : List Entry → Except StoreError (List Entry)}
    (h : w.IsSound server) (hc : w.clients[c]? = some client)
    (hgiven : (client.session server.table).read = a.rows.filterMap storedRow?)
    (hread : a.rows.mapM DocumentStore.readEntry = .ok locked) (hmade : f locked = .ok updated)
    (hincrements : Increments counter key f) :
    (∀ x ∈ updated.map put, x.key ≠ key) ∨
      ∃ n, w.rows.count? counter key = some n ∧ ∀ x ∈ updated.map put, x.key = key →
        ∃ data, x = .put key data ∧ storedCount? counter (some data) = some (n + 1) := by
  have hcounts := hincrements locked updated hmade
  -- Every document that is written was made of one that was given.
  have hsource {e' : Entry} (he' : e' ∈ updated) (hkey : e'.key = key) :
      ∃ n, w.rows.count? counter key = some n ∧
        storedCount? counter (some e'.data.text) = some (n + 1) := by
    obtain ⟨e, he, hsame, hcount⟩ := exists_mem_of_forall₂ hcounts he'
    have hkey' : e.key = key := hsame.symm.trans hkey
    exact ⟨counter e.data, h.count?_of_locked hc hgiven hread he hkey', hcount hkey'⟩
  by_cases hkey : ∃ e ∈ updated, e.key = key
  · obtain ⟨e, he, hkey⟩ := hkey
    obtain ⟨n, hn, -⟩ := hsource he hkey
    refine .inr ⟨n, hn, fun x hx hxkey => ?_⟩
    obtain ⟨e', he', rfl⟩ := List.mem_map.1 hx
    obtain ⟨n', hn', hcount⟩ := hsource he' hxkey
    obtain rfl : n = n' := Option.some.inj (hn.symm.trans hn')
    exact ⟨e'.data.text, congrArg (Write.put · e'.data.text) hxkey, hcount⟩
  · refine .inl fun x hx hxkey => hkey ?_
    obtain ⟨e, he, rfl⟩ := List.mem_map.1 hx
    exact ⟨e, he, hxkey⟩

/-- What a client shows to others is not about the key, or it is one more than what is
committed. -/
theorem IsSound.publish_of_isOrderly {c : Nat} {client : Client} {command : Command}
    (h : w.IsSound server) (hc : w.clients[c]? = some client)
    (horderly : server.IsOrderly counter key client.store client.task)
    (hcommand : client.command? = some command) :
    (∀ x ∈ (client.session server.table).publish server.table command, x.key ≠ key) ∨
      command = .commit ∧ ∃ n, w.rows.count? counter key = some n ∧
        ∀ x ∈ (client.session server.table).pending, x.key = key →
          ∃ data, x = .put key data ∧ storedCount? counter (some data) = some (n + 1) := by
  obtain ⟨honPath, htable⟩ := h.onPath c client hc
  obtain ⟨next, hrest, hsession, -⟩ :=
    Client.hear_of_command? server.table hcommand (.ok .empty)
  have hshown : ∀ e ∈ client.past, server.Shows e.1 e.2 := h.shown c client hc
  rw [Client.IsOnPath, hrest] at honPath
  rcases horderly.task with ⟨q, f, htask, hincrements⟩ | hspares
  · rw [htask] at honPath
    rcases next_of_path_update honPath with ⟨next', hresolve⟩ | ⟨-, hnil⟩ |
      ⟨rfl, a, locked, updated, -, hread, hmade, hgiven, hpending⟩
    · obtain ⟨hpast, hask⟩ := hresolve.sends (sends_resolve_sparesKey htable horderly.seed) hshown
      rw [hsession]
      exact .inl (key_ne_of_mem_publish hpast hask.1)
    · rw [htable, ← hsession] at hnil
      rw [hnil]
      exact .inl fun x hx => absurd hx List.not_mem_nil
    · rw [htable, ← hsession] at hgiven hpending
      have hpublish : (client.session server.table).publish server.table .commit =
        updated.map put := hpending
      rw [hpublish, hpending]
      exact (h.puts_of_increments hc hgiven hread hmade hincrements).imp_right fun hputs =>
        ⟨rfl, hputs⟩
  · obtain ⟨hpast, hask⟩ := honPath.sends (Task.sends_spares htable horderly.seed hspares) hshown
    rw [hsession]
    exact .inl (key_ne_of_mem_publish hpast hask.1)

theorem rows_change (w : World) (c : Nat) (f : Client → Client) : (w.change c f).rows = w.rows := by
  rw [change]
  split <;> rfl

/-- A step adds one to the counter if it commits an increment, and nothing otherwise. -/
theorem IsSound.count?_step (hsame : server.Respects counter) (h : w.IsSound server)
    (horderly : w.IsOrderly server counter key) (e : Event) :
    (w.step server e).rows.count? counter key =
      (w.rows.count? counter key).map (· + ((w.commitsTo server key e).toNat : Int)) := by
  have hsteady {rows : Rows} (hrows : rows key = w.rows key) :
      rows.count? counter key = (w.rows.count? counter key).map (· + (false.toNat : Int)) := by
    rw [Rows.count?, hrows, Rows.count?]
    cases (w.rows key).bind (storedCount? counter) with
    | none => rfl
    | some n => exact congrArg some (Int.add_zero n).symm
  cases e with
  | execute c a =>
    rw [World.step, commitsTo]
    cases hc : w.clients[c]? with
    | none => exact hsteady rfl
    | some client =>
      dsimp only
      cases hcommand : client.command? with
      | none => exact hsteady rfl
      | some command =>
        dsimp only
        rcases h.publish_of_isOrderly hc (horderly client (List.mem_of_getElem? hc)) hcommand with
          hne | ⟨rfl, n, hn, hputs⟩
        · have hnot : (match some command with
              | some .commit => (client.session server.table).pending.any fun x => x.key = key
              | _ => false) = false := by
            cases command with
            | commit => exact List.any_eq_false.2 fun x hx hkey => hne x hx (of_decide_eq_true hkey)
            | _ => rfl
          rw [hnot]
          refine hsteady ?_
          split
          · exact Server.applyAll_of_forall_ne hne
          · rfl
        · cases hany : (client.session server.table).pending.any fun x => x.key = key with
          | false =>
            refine hsteady (Server.applyAll_of_forall_ne fun x hx hkey => ?_)
            exact List.any_eq_false.1 hany x hx (decide_eq_true hkey)
          | true =>
            obtain ⟨x, hx, hkey⟩ := List.any_eq_true.1 hany
            rw [hn]
            exact count?_applyAll hsame hputs (.inr ⟨x, hx, of_decide_eq_true hkey⟩)
  | start s task =>
    refine hsteady ?_
    rw [World.step]
    split <;> rfl
  | send c known => exact hsteady (congrFun (rows_change _ _ _) key)
  | refuse c fault => exact hsteady (congrFun (rows_change _ _ _) key)
  | giveUp c => exact hsteady (congrFun (rows_change _ _ _) key)
  | rollBack c => exact hsteady (congrFun (rows_change _ _ _) key)

/-- Where a client comes from. -/
theorem mem_clients_step {e : Event} {client : Client} (h : client ∈ (w.step server e).clients) :
    (∃ client₀ ∈ w.clients, client.store = client₀.store ∧ client.task = client₀.task) ∨
      ∃ s task, e = .start s task ∧ client = .start s task := by
  have hold (h : client ∈ w.clients) :
      ∃ client₀ ∈ w.clients, client.store = client₀.store ∧ client.task = client₀.task :=
    ⟨client, h, rfl, rfl⟩
  have hset {c : Nat} {client₀ client₁ : Client} (hc : w.clients[c]? = some client₀)
      (hsame : client₁.store = client₀.store ∧ client₁.task = client₀.task)
      (h : client ∈ w.clients.set c client₁) :
      ∃ client₀ ∈ w.clients, client.store = client₀.store ∧ client.task = client₀.task := by
    rcases List.mem_or_eq_of_mem_set h with h | rfl
    · exact hold h
    · exact ⟨client₀, List.mem_of_getElem? hc, hsame⟩
  have hchange {c : Nat} {f : Client → Client}
      (hf : ∀ client : Client, client.Follows server.table (f client))
      (h : client ∈ (w.change c f).clients) :
      ∃ client₀ ∈ w.clients, client.store = client₀.store ∧ client.task = client₀.task := by
    rw [change] at h
    split at h
    · next client₀ hc => exact hset hc ⟨(hf client₀).store, (hf client₀).task⟩ h
    · exact hold h
  cases e with
  | start s task =>
    rw [World.step] at h
    split at h
    · rcases List.mem_append.1 h with h | h
      · exact .inl (hold h)
      · exact .inr ⟨s, task, rfl, List.mem_singleton.1 h⟩
    · exact .inl (hold h)
  | execute c a =>
    refine .inl ?_
    rw [World.step] at h
    split at h
    · next client₀ hc =>
      dsimp only at h
      split at h
      · next command hcommand =>
        obtain ⟨-, -, -, -, -, htask, hstore, -⟩ :=
          Client.hear_of_command? server.table hcommand (.ok a)
        split at h
        · exact hset hc ⟨hstore, htask⟩ h
        · exact hold h
      · exact hold h
    · exact hold h
  | send c known => exact .inl (hchange (fun _ => Client.follows_send known) h)
  | refuse c fault => exact .inl (hchange (fun _ => Client.follows_hear_error fault) h)
  | giveUp c => exact .inl (hchange (fun _ => Client.follows_giveUp) h)
  | rollBack c => exact .inl (hchange (fun _ => Client.follows_rollBack) h)

/-- Everyone was given their task. -/
theorem start_mem_of_mem_run {events : List Event} {client : Client}
    (h : client ∈ (w.run server events).clients) :
    (∃ client₀ ∈ w.clients, client.store = client₀.store ∧ client.task = client₀.task) ∨
      .start client.store client.task ∈ events := by
  induction events generalizing w with
  | nil => exact .inl ⟨client, h, rfl, rfl⟩
  | cons e events ih =>
    rcases ih h with ⟨client₁, hclient₁, hstore, htask⟩ | hmem
    · rcases mem_clients_step hclient₁ with ⟨client₀, hclient₀, hstore₀, htask₀⟩ |
        ⟨s, task, rfl, rfl⟩
      · exact .inl ⟨client₀, hclient₀, hstore.trans hstore₀, htask.trans htask₀⟩
      · rw [hstore, htask]
        exact .inr List.mem_cons_self
    · exact .inr (List.mem_cons_of_mem e hmem)

theorem IsOrderly.step (h : w.IsOrderly server counter key) {e : Event}
    (he : ∀ s task, e = .start s task → server.IsOrderly counter key s task) :
    (w.step server e).IsOrderly server counter key := by
  intro client hclient
  rcases mem_clients_step hclient with ⟨client₀, hclient₀, hstore, htask⟩ | ⟨s, task, hstart, rfl⟩
  · rw [hstore, htask]
    exact h client₀ hclient₀
  · exact he s task hstart

/-- A run adds to the counter what it commits of increments. -/
theorem IsSound.count?_run (hsame : server.Respects counter) (h : w.IsSound server)
    (horderly : w.IsOrderly server counter key) {events : List Event}
    (hevents : ∀ s task, .start s task ∈ events → server.IsOrderly counter key s task) :
    (w.run server events).rows.count? counter key =
      (w.rows.count? counter key).map (· + (w.commits server key events : Int)) := by
  induction events generalizing w with
  | nil =>
    rw [run, List.foldl_nil, commits]
    cases w.rows.count? counter key with
    | none => rfl
    | some n => exact congrArg some (Int.add_zero n).symm
  | cons e events ih =>
    have hstart : ∀ s task, e = .start s task → server.IsOrderly counter key s task :=
      fun s task he => hevents s task (he ▸ List.mem_cons_self)
    refine (ih (h.step e) (horderly.step hstart) fun s task hmem =>
      hevents s task (List.mem_cons_of_mem e hmem)).trans ?_
    rw [h.count?_step hsame horderly e, Option.map_map, commits]
    congr 1
    funext n
    simp only [Function.comp_apply, Int.natCast_add]
    omega

end World

/-- No update is lost.

When an update commits, all that it has passed to its function is what is committed at that
time, and what the function made of it takes its place at once.  So a counter that clients only
increment is raised by as many increments as are committed, in whatever order the commands of
the clients are carried out, and wherever they are refused or given up. -/
theorem no_lost_update (server : Server) (rows : Rows) (events : List Event) :
    let w := (World.initial rows).run server events
    (∀ c client q f a reply, w.clients[c]? = some client → client.task = .update q f →
      client.command? = some .commit → lockedRows? server.table client.past = some a →
      ∃ locked updated, a.rows.mapM DocumentStore.readEntry = .ok locked ∧
        f locked = .ok updated ∧
        (∀ e ∈ locked, ∃ stored, w.rows e.key = some stored ∧ stored.json? = some e.data) ∧
        (w.step server (.execute c reply)).rows = server.applyAll w.rows (updated.map put)) ∧
    ∀ counter key, server.Respects counter →
      (∀ s task, .start s task ∈ events → server.IsOrderly counter key s task) →
      w.rows.count? counter key =
        (rows.count? counter key).map
          (· + ((World.initial rows).commits server key events : Int)) := by
  intro w
  have hsound : (World.initial rows).IsSound server := World.isSound_initial server rows
  refine ⟨fun c client q f a reply hc htask hcommand hlocked =>
    (World.isSound_run hsound events).commit hc htask hcommand hlocked reply, ?_⟩
  have horderly (counter : Json → Int) (key : String) :
      (World.initial rows).IsOrderly server counter key := fun _ h => absurd h List.not_mem_nil
  exact fun counter key hsame hevents =>
    hsound.count?_run hsame (horderly counter key) hevents

/-! ## Two rivals -/

/-- A counter that stands at `n`. -/
def standing (n : Int) : Json := .object [("n", .number (.integer n))]

/-- Where the counter stands. -/
def standingOf : Json → Int
  | .object [("n", .number (.integer n))] => n
  | _ => 0

/-- Adds one to a counter that stands at zero or one. -/
def addOne (e : Entry) : Except StoreError Entry :=
  if e.data = standing 0 then .ok ⟨e.key, standing 1⟩
  else if e.data = standing 1 then .ok ⟨e.key, standing 2⟩
  else .error (.queryFailed "the counter stands elsewhere")

theorem increments_addOne (key : String) : Increments standingOf key (·.mapM addOne) := by
  have hone : storedCount? standingOf (some (standing 1).text) =
      some (standingOf (standing 0) + 1) := by decide +kernel
  have htwo : storedCount? standingOf (some (standing 2).text) =
      some (standingOf (standing 1) + 1) := by decide +kernel
  intro locked updated h
  refine (mapM_eq_ok_iff.1 h).imp fun e e' hadd => ?_
  rw [addOne] at hadd
  split at hadd
  · next hdata =>
    obtain rfl := Except.ok.inj hadd
    rw [hdata]
    exact ⟨rfl, fun _ => hone⟩
  · split at hadd
    · next hdata =>
      obtain rfl := Except.ok.inj hadd
      rw [hdata]
      exact ⟨rfl, fun _ => htwo⟩
    · exact nomatch hadd

/-- A store of counters. -/
def counters : DocumentStore :=
  ⟨⟨⟨"it_counter", by decide +kernel, by decide +kernel⟩, none⟩, .ofSeconds 30⟩

/-- Adds one to all counters. -/
def count : Task := .update .all (·.mapM addOne)

/-- A server that tells documents apart by their texts. -/
def plainServer : Server := ⟨"it_counter", fun old new => old = new, true⟩

/-- One counter that stands at zero. -/
def oneCounter : Rows := fun key =>
  if key = "counter" then some (some (standing 0).text) else none

/-- What is given of the counter. -/
def reading (n : Int) : Answer := ⟨[[.text "counter", .text (standing n).text]], 0⟩

/-- Two clients count.  The second one asks for the counter while the first one holds it, and
has to ask again; then it comes to its commit. -/
def rivalry : List Event :=
  [.start counters count, .start counters count,
    .send 0 (some .minimal), .execute 0 .empty, .send 1 (some .minimal), .execute 1 .empty,
    .send 0 none, .execute 0 (reading 0), .send 1 none, .execute 1 (reading 0),
    .send 0 none, .execute 0 .empty, .send 0 none, .execute 0 .empty,
    .execute 1 (reading 1), .send 1 none, .execute 1 .empty, .send 1 none]

/-- Where the rivals have got to. -/
def contested : World := (World.initial oneCounter).run plainServer rivalry

theorem contested_ready :
    (contested.clients[1]?.any fun client =>
      client.command? = some .commit &&
        lockedRows? plainServer.table client.past = some (reading 1)) = true ∧
      (World.initial oneCounter).commits plainServer "counter"
        (rivalry ++ [.execute 1 .empty]) = 2 := by
  decide +kernel

theorem no_lost_update_rivals :
    (∃ locked updated, (reading 1).rows.mapM DocumentStore.readEntry = .ok locked ∧
      locked.mapM addOne = .ok updated ∧
      (∀ e ∈ locked, ∃ stored, contested.rows e.key = some stored ∧
        stored.json? = some e.data) ∧
      (contested.step plainServer (.execute 1 .empty)).rows =
        plainServer.applyAll contested.rows (updated.map put)) ∧
    ((World.initial oneCounter).run plainServer
      (rivalry ++ [.execute 1 .empty])).rows.count? standingOf "counter" = some 2 := by
  obtain ⟨hready, hcommits⟩ := contested_ready
  rw [contested] at hready ⊢
  obtain ⟨client, hclient, hready⟩ := (Option.any_eq_true _ _).1 hready
  obtain ⟨hcommand, hlocked⟩ := Bool.and_eq_true_iff.1 hready
  have hstarts (s : DocumentStore) (task : Task)
      (h : .start s task ∈ rivalry ++ [.execute 1 .empty]) : s = counters ∧ task = count := by
    simpa [rivalry] using h
  have htask : client.task = count := by
    rcases World.start_mem_of_mem_run (List.mem_of_getElem? hclient) with ⟨_, hnone, -⟩ | hmem
    · exact absurd hnone List.not_mem_nil
    · exact (hstarts _ _ (List.mem_append_left _ hmem)).2
  have horderly (s : DocumentStore) (task : Task)
      (h : .start s task ∈ rivalry ++ [.execute 1 .empty]) :
      plainServer.IsOrderly standingOf "counter" s task := by
    obtain ⟨rfl, rfl⟩ := hstarts s task h
    exact ⟨.inl ⟨_, _, rfl, increments_addOne "counter"⟩, .inl rfl⟩
  have hrespects : plainServer.Respects standingOf := fun old new h => by
    rw [of_decide_eq_true h]
  have hstart : oneCounter.count? standingOf "counter" = some 0 := by decide +kernel
  refine ⟨(no_lost_update plainServer oneCounter rivalry).1 1 client .all _ (reading 1) .empty
    hclient htask (of_decide_eq_true hcommand) (of_decide_eq_true hlocked), ?_⟩
  refine ((no_lost_update plainServer oneCounter _).2 standingOf "counter" hrespects
    horderly).trans ?_
  rw [hstart, hcommits]
  rfl

end DocStore.Contention
