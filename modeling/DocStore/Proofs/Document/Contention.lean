import DocStore.Proofs.Document.Client

/-!
# Clients at one table

Any number of clients at one table, whose commands are carried out in any order
(`World.step`).  Each command can be refused, and each client can give up at any time.

The database does what row locks ask of it (`World.permits`).  A select that locks waits until
no other client holds one of its rows, gives what is committed of them and holds them until the
transaction ends.  A write waits in the same way, and others see it when its transaction
commits.  A command that is not permitted yet is not carried out, and can be tried again.

* What a client holds nobody else holds, and what it was given of the rows that it locked is
  what is committed: `World.IsSound`.
* It stays so with every step (`IsSound.step`), and through every run (`isSound_run`).
-/

namespace DocStore.Contention

open Sql (Statement)
open Script (Path)

/-- What is committed under each key. -/
abbrev Rows : Type := String → Option Stored

/-- The database: the name of the table, and how it compares the texts of documents. -/
structure Server where
  table : String
  /-- Whether two texts are the same document. -/
  same : String → String → Bool
  /-- Whether the table was there from the start.  Then it is found. -/
  stands : Bool

namespace Server

variable (server : Server)

/-- A write takes effect.  A document that is the same already stays as it is. -/
def apply (rows : Rows) : Write → Rows
  | .put key data => fun k =>
      if k = key then
        match rows key with
        | some (some old) => if server.same old data then some (some old) else some (some data)
        | _ => some (some data)
      else rows k
  | .remove key => fun k => if k = key then none else rows k

def applyAll (rows : Rows) (writes : List Write) : Rows := writes.foldl server.apply rows

/-- A table that was there from the start has columns. -/
def Shows (c : Command) (r : Reply) : Prop :=
  server.stands = true → ∀ s a, c = .execute s → r = .ok a → s.effect server.table = .look →
    a.rows ≠ []

variable {server}

theorem apply_of_ne {rows : Rows} {w : Write} {key : String} (h : key ≠ w.key) :
    server.apply rows w key = rows key := by
  cases w <;> exact if_neg h

theorem applyAll_of_forall_ne {rows : Rows} {writes : List Write} {key : String}
    (h : ∀ w ∈ writes, w.key ≠ key) : server.applyAll rows writes key = rows key := by
  induction writes generalizing rows with
  | nil => rfl
  | cons w writes ih =>
    obtain ⟨hw, hwrites⟩ := List.forall_mem_cons.1 h
    exact (ih hwrites).trans (apply_of_ne hw.symm)

end Server

/-- What is committed, and the clients. -/
structure World where
  rows : Rows
  clients : List Client

inductive Event where
  /-- A client is given a task. -/
  | start (s : DocumentStore) (task : Task)
  /-- The client goes on to its next command; its store remembers `known`. -/
  | send (c : Nat) (known : Option TableLayout)
  /-- What the client has sent is carried out, with this answer. -/
  | execute (c : Nat) (a : Answer)
  /-- What the client has sent is refused. -/
  | refuse (c : Nat) (fault : DatabaseFault)
  | giveUp (c : Nat)
  /-- What the client has left open is rolled back. -/
  | rollBack (c : Nat)

namespace World

variable (server : Server)

/-- No other client holds the row. -/
def IsFree (w : World) (c : Nat) (key : String) : Prop :=
  ∀ i, (h : i < w.clients.length) → i ≠ c → key ∉ (w.clients[i].session server.table).locked

instance (w : World) (c : Nat) (key : String) : Decidable (w.IsFree server c key) :=
  inferInstanceAs (Decidable (∀ i, (h : i < w.clients.length) → i ≠ c → _))

/-- Whether a row may be given to a client that locks it: it is free, and is as it is committed
and as the client has written it. -/
def gives (w : World) (c : Nat) (session : Session) (row : List Cell) : Bool :=
  match storedRow? row with
  | some (key, stored) =>
      decide (w.IsFree server c key) &&
        decide (server.applyAll w.rows session.pending key = some stored)
  | none => false

/-- Whether a statement of this effect can be carried out now, with this answer. -/
def allows (w : World) (c : Nat) (session : Session) (a : Answer) : Effect → Bool
  | .lock => a.rows.all (w.gives server c session)
  | .write write => decide (w.IsFree server c write.key)
  | .look => !server.stands || !a.rows.isEmpty
  | .none => true

/-- Whether the command can be carried out now, with this answer. -/
def permits (w : World) (c : Nat) (session : Session) (command : Command) (a : Answer) : Bool :=
  match command with
  | .execute s => w.allows server c session a (s.effect server.table)
  | .begin | .commit | .rollback | .ping => true

/-- Something changes for one client. -/
def change (w : World) (c : Nat) (f : Client → Client) : World :=
  match w.clients[c]? with
  | some client => { w with clients := w.clients.set c (f client) }
  | none => w

def step (w : World) : Event → World
  | .start s task =>
      if s.tableName = server.table then { w with clients := w.clients ++ [.start s task] } else w
  | .send c known => w.change c (·.send known)
  | .execute c a =>
      match w.clients[c]? with
      | some client =>
          let session := client.session server.table
          match client.command? with
          | some command =>
              if w.permits server c session command a then
                { rows := server.applyAll w.rows (session.publish server.table command)
                  clients := w.clients.set c (client.hear (.ok a)) }
              else w
          | none => w
      | none => w
  | .refuse c fault => w.change c (·.hear (.error fault))
  | .giveUp c => w.change c (·.giveUp)
  | .rollBack c => w.change c (·.rollBack)

/-- What comes of events. -/
def run (w : World) (events : List Event) : World := events.foldl (step server) w

/-- Before anyone has come. -/
def initial (rows : Rows) : World := ⟨rows, []⟩

/-! ## Soundness -/

/-- Each client is on its path, holds its rows alone, and has read what is committed. -/
structure IsSound (w : World) : Prop where
  onPath : ∀ (c : Nat) (client : Client), w.clients[c]? = some client →
    client.IsOnPath ∧ client.store.tableName = server.table
  shown : ∀ (c : Nat) (client : Client), w.clients[c]? = some client →
    ∀ e ∈ client.past, server.Shows e.1 e.2
  locked : ∀ (c : Nat) (client : Client), w.clients[c]? = some client →
    ∀ key ∈ (client.session server.table).locked, w.IsFree server c key
  read : ∀ (c : Nat) (client : Client), w.clients[c]? = some client →
    ∀ row ∈ (client.session server.table).read, w.rows row.1 = some row.2

theorem isSound_initial (rows : Rows) : (initial rows).IsSound server := by
  have hnone (c : Nat) (client : Client) : (initial rows).clients[c]? ≠ some client := nofun
  exact {
    onPath := fun c client hc => absurd hc (hnone c client)
    shown := fun c client hc => absurd hc (hnone c client)
    locked := fun c client hc => absurd hc (hnone c client)
    read := fun c client hc => absurd hc (hnone c client) }

variable {server} {w : World}

/-- A row that is free for one client is held by none of the others. -/
theorem IsFree.not_mem {c i : Nat} {key : String} {client : Client} (h : w.IsFree server c key)
    (hi : w.clients[i]? = some client) (hne : i ≠ c) :
    key ∉ (client.session server.table).locked := by
  obtain ⟨hlt, rfl⟩ := List.getElem?_eq_some_iff.1 hi
  exact h i hlt hne

theorem isFree_of_forall {c : Nat} {key : String}
    (h : ∀ (i : Nat) (client : Client), w.clients[i]? = some client → i ≠ c →
      key ∉ (client.session server.table).locked) : w.IsFree server c key :=
  fun i hi hne => h i _ (List.getElem?_eq_getElem hi) hne

/-- One client does something: it takes and reads only what is free, and what changes for
everyone was free for it. -/
theorem IsSound.set {c : Nat} {client client' : Client} {rows : Rows} (h : w.IsSound server)
    (hc : w.clients[c]? = some client)
    (honPath : client'.IsOnPath ∧ client'.store.tableName = server.table)
    (hshown : ∀ e ∈ client'.past, server.Shows e.1 e.2)
    (hlocked : ∀ key ∈ (client'.session server.table).locked, w.IsFree server c key)
    (hread : ∀ row ∈ (client'.session server.table).read, rows row.1 = some row.2)
    (hrows : ∀ key, rows key ≠ w.rows key → w.IsFree server c key) :
    IsSound server ⟨rows, w.clients.set c client'⟩ := by
  obtain ⟨hlt, -⟩ := List.getElem?_eq_some_iff.1 hc
  have hcase (i : Nat) (client₁ : Client) (hi : (w.clients.set c client')[i]? = some client₁) :
      i = c ∧ client₁ = client' ∨ i ≠ c ∧ w.clients[i]? = some client₁ := by
    rw [List.getElem?_set] at hi
    by_cases heq : c = i
    · rw [if_pos heq, if_pos hlt] at hi
      exact .inl ⟨heq.symm, (Option.some.inj hi).symm⟩
    · rw [if_neg heq] at hi
      exact .inr ⟨Ne.symm heq, hi⟩
  refine ⟨fun i client₁ hi => ?_, fun i client₁ hi => ?_, fun i client₁ hi key hkey => ?_,
    fun i client₁ hi row hrow => ?_⟩
  · rcases hcase i client₁ hi with ⟨rfl, rfl⟩ | ⟨-, hi⟩
    · exact honPath
    · exact h.onPath i client₁ hi
  · rcases hcase i client₁ hi with ⟨rfl, rfl⟩ | ⟨-, hi⟩
    · exact hshown
    · exact h.shown i client₁ hi
  · -- A row that two clients hold: one of the two is the client that moves, or it was so before.
    refine isFree_of_forall fun j client₂ hj hne hkey₂ => ?_
    rcases hcase i client₁ hi with ⟨rfl, rfl⟩ | ⟨hic, hi'⟩ <;>
      rcases hcase j client₂ hj with ⟨rfl, rfl⟩ | ⟨hjc, hj'⟩
    · exact hne rfl
    · exact (hlocked key hkey).not_mem hj' hjc hkey₂
    · exact (hlocked key hkey₂).not_mem hi' hic hkey
    · exact (h.locked i client₁ hi' key hkey).not_mem hj' hne hkey₂
  · rcases hcase i client₁ hi with ⟨rfl, rfl⟩ | ⟨hic, hi⟩
    · exact hread row hrow
    · -- What another client has read it holds, so that it was not free to change.
      have hheld := Client.isCovered_session.read row hrow
      have hsame : rows row.1 = w.rows row.1 := by
        refine Classical.byContradiction fun hne => ?_
        exact (hrows row.1 hne).not_mem hi hic hheld
      exact hsame.trans (h.read i client₁ hi row hrow)

theorem IsSound.change {c : Nat} {f : Client → Client} (h : w.IsSound server)
    (hf : ∀ client : Client, client.Follows server.table (f client)) :
    (w.change c f).IsSound server := by
  rw [World.change]
  cases hc : w.clients[c]? with
  | none => exact h
  | some client =>
    obtain ⟨honPath, htable⟩ := h.onPath c client hc
    have hfollows := hf client
    refine h.set hc ⟨hfollows.onPath honPath, by rw [hfollows.store, htable]⟩ (fun e he => ?_)
      (fun key hkey => h.locked c client hc key (hfollows.locked key hkey))
      (fun row hrow => h.read c client hc row (hfollows.read row hrow))
      (fun key hkey => absurd rfl hkey)
    rcases hfollows.answered e he with he | ⟨fault, hfault⟩
    · exact h.shown c client hc e he
    · intro _ s a _ hr _
      exact nomatch hfault.symm.trans hr

theorem IsSound.start {s : DocumentStore} {task : Task} (h : w.IsSound server)
    (hs : s.tableName = server.table) :
    IsSound server ⟨w.rows, w.clients ++ [.start s task]⟩ := by
  have hcase (i : Nat) (client : Client)
      (hi : (w.clients ++ [Client.start s task])[i]? = some client) :
      w.clients[i]? = some client ∨ client = .start s task := by
    rcases List.mem_append.1 (List.mem_of_getElem? hi) with _ | hmem
    · by_cases hlt : i < w.clients.length
      · exact .inl (by rwa [List.getElem?_append_left hlt] at hi)
      · rw [List.getElem?_append_right (Nat.le_of_not_lt hlt)] at hi
        exact .inr (List.mem_singleton.1 (List.mem_of_getElem? hi))
    · exact .inr (List.mem_singleton.1 hmem)
  refine ⟨fun i client hi => ?_, fun i client hi => ?_, fun i client hi key hkey => ?_,
    fun i client hi row hrow => ?_⟩
  · rcases hcase i client hi with hi | rfl
    · exact h.onPath i client hi
    · exact ⟨.refl _, hs⟩
  · rcases hcase i client hi with hi | rfl
    · exact h.shown i client hi
    · exact nofun
  · rcases hcase i client hi with hi | rfl
    · refine isFree_of_forall fun j client₂ hj hne => ?_
      rcases hcase j client₂ hj with hj | rfl
      · exact (h.locked i client hi key hkey).not_mem hj hne
      · exact List.not_mem_nil
    · exact absurd hkey List.not_mem_nil
  · rcases hcase i client hi with hi | rfl
    · exact h.read i client hi row hrow
    · exact absurd hrow List.not_mem_nil

/-- A statement that is carried out takes what is free. -/
theorem isFree_of_allows {c : Nat} {session : Session} {a : Answer} {effect : Effect}
    (h : w.allows server c session a effect = true) {key : String}
    (hkey : key ∈ (session.execute effect a).locked) :
    key ∈ session.locked ∨ w.IsFree server c key := by
  obtain ⟨isOpen, locked, read, pending⟩ := session
  cases isOpen with
  | false => exact .inl hkey
  | true =>
    cases effect with
    | lock =>
      rcases List.mem_append.1 hkey with hkey | hkey
      · exact .inl hkey
      · obtain ⟨row, hrow, rfl⟩ := List.mem_map.1 hkey
        obtain ⟨cells, hcells, hstored⟩ := List.mem_filterMap.1 hrow
        have hgiven := List.all_eq_true.1 h cells hcells
        rw [gives, hstored] at hgiven
        exact .inr (of_decide_eq_true (Bool.and_eq_true_iff.1 hgiven).1)
    | write write =>
      rcases List.mem_append.1 hkey with hkey | hkey
      · exact .inl hkey
      · rw [List.mem_singleton.1 hkey]
        exact .inr (of_decide_eq_true h)
    | look => exact .inl hkey
    | none => exact .inl hkey

theorem isFree_of_permits {c : Nat} {session : Session} {command : Command} {a : Answer}
    (h : w.permits server c session command a = true) {key : String}
    (hkey : key ∈ (session.take server.table command a).locked) :
    key ∈ session.locked ∨ w.IsFree server c key := by
  cases command with
  | execute s => exact isFree_of_allows h hkey
  | ping => exact .inl hkey
  | _ => exact absurd hkey List.not_mem_nil

/-- What is given of a row that is locked is what is committed, unless the client has written
before. -/
theorem rows_of_allows {c : Nat} {session : Session} {a : Answer} {effect : Effect}
    (h : w.allows server c session a effect = true) {row : String × Stored}
    (hrow : row ∈ (session.execute effect a).read) :
    row ∈ session.read ∨ w.rows row.1 = some row.2 := by
  obtain ⟨isOpen, locked, read, pending⟩ := session
  cases isOpen with
  | false => exact .inl hrow
  | true =>
    cases effect with
    | lock =>
      cases pending with
      | nil =>
        rcases List.mem_append.1 hrow with hrow | hrow
        · exact .inl hrow
        · obtain ⟨cells, hcells, hstored⟩ := List.mem_filterMap.1 hrow
          have hgiven := List.all_eq_true.1 h cells hcells
          rw [gives, hstored] at hgiven
          exact .inr (of_decide_eq_true (Bool.and_eq_true_iff.1 hgiven).2)
      | cons first rest => exact .inl hrow
    | _ => exact .inl hrow

theorem rows_of_permits {c : Nat} {session : Session} {command : Command} {a : Answer}
    (h : w.permits server c session command a = true) {row : String × Stored}
    (hrow : row ∈ (session.take server.table command a).read) :
    row ∈ session.read ∨ w.rows row.1 = some row.2 := by
  cases command with
  | execute s => exact rows_of_allows h hrow
  | ping => exact .inl hrow
  | _ => exact absurd hrow List.not_mem_nil

/-- What others come to see was free. -/
theorem isFree_of_mem_publish {c : Nat} {session : Session} {command : Command} {a : Answer}
    (h : w.permits server c session command a = true) {write : Write}
    (hwrite : write ∈ session.publish server.table command) :
    write ∈ session.pending ∨ w.IsFree server c write.key := by
  cases command with
  | commit => exact .inl hwrite
  | execute s =>
    rw [permits] at h
    rw [Session.publish] at hwrite
    split at hwrite
    · next heffect =>
      rw [heffect] at h
      rw [List.mem_singleton.1 hwrite]
      exact .inr (of_decide_eq_true h)
    · exact absurd hwrite List.not_mem_nil
  | _ => exact absurd hwrite List.not_mem_nil

/-- While others come to see something, nothing is read under a lock. -/
theorem read_of_publish_ne_nil {session : Session} (h : session.IsCovered) {command : Command}
    {a : Answer} (hpublish : session.publish server.table command ≠ []) :
    (session.take server.table command a).read = [] := by
  obtain ⟨isOpen, locked, read, pending⟩ := session
  cases command with
  | commit => rfl
  | execute s =>
    cases isOpen with
    | true => exact absurd rfl hpublish
    | false =>
      refine List.eq_nil_iff_forall_not_mem.2 fun row hrow => ?_
      obtain rfl : locked = [] := h.closed rfl
      exact List.not_mem_nil (h.read row hrow)
  | _ => exact absurd rfl hpublish

theorem IsSound.execute {c : Nat} {client : Client} {command : Command} {a : Answer}
    (h : w.IsSound server) (hc : w.clients[c]? = some client)
    (hcommand : client.command? = some command)
    (hpermits : w.permits server c (client.session server.table) command a = true) :
    IsSound server
      ⟨server.applyAll w.rows ((client.session server.table).publish server.table command),
        w.clients.set c (client.hear (.ok a))⟩ := by
  obtain ⟨next, hrest, -, hrest', hpast', htask, hstore, -⟩ :=
    Client.hear_of_command? server.table hcommand (.ok a)
  obtain ⟨honPath, htable⟩ := h.onPath c client hc
  have hcovered : (client.session server.table).IsCovered := Client.isCovered_session
  refine h.set hc ⟨?_, by rw [hstore, htable]⟩ (fun e he => ?_) (fun key hkey => ?_)
    (fun row hrow => ?_) (fun key hkey => ?_)
  · rw [Client.IsOnPath, hrest] at honPath
    rw [Client.IsOnPath, hrest', hpast', htask, hstore]
    exact honPath.concat (.ok a)
  · rw [hpast'] at he
    rcases List.mem_append.1 he with he | he
    · exact h.shown c client hc e he
    · rw [List.mem_singleton.1 he]
      intro hstands s a' hs ha heffect
      obtain rfl : command = .execute s := hs
      obtain rfl : a = a' := Except.ok.inj ha
      rw [permits, heffect, allows, hstands] at hpermits
      intro hnil
      rw [hnil] at hpermits
      cases hpermits
  · rw [Client.session_hear hcommand] at hkey
    rcases isFree_of_permits hpermits hkey with hkey | hfree
    · exact h.locked c client hc key hkey
    · exact hfree
  · rw [Client.session_hear hcommand] at hrow
    have hnil : (client.session server.table).publish server.table command = [] := by
      refine Classical.byContradiction fun hne => ?_
      rw [read_of_publish_ne_nil hcovered hne] at hrow
      exact List.not_mem_nil hrow
    rw [hnil]
    rcases rows_of_permits hpermits hrow with hrow | hrow
    · exact h.read c client hc row hrow
    · exact hrow
  · refine Classical.byContradiction fun hnot => ?_
    refine hkey (Server.applyAll_of_forall_ne fun write hwrite heq => hnot ?_)
    rcases isFree_of_mem_publish hpermits hwrite with hpending | hfree
    · exact heq ▸ h.locked c client hc _ (hcovered.pending write hpending)
    · exact heq ▸ hfree

theorem IsSound.step (h : w.IsSound server) (e : Event) : (w.step server e).IsSound server := by
  cases e with
  | start s task =>
    rw [World.step]
    split
    · next hs => exact h.start hs
    · exact h
  | send c known => exact h.change fun _ => Client.follows_send known
  | execute c a =>
    rw [World.step]
    split
    · next client hc =>
      dsimp only
      split
      · next command hcommand =>
        split
        · next hpermits => exact h.execute hc hcommand hpermits
        · exact h
      · exact h
    · exact h
  | refuse c fault => exact h.change fun _ => Client.follows_hear_error fault
  | giveUp c => exact h.change fun _ => Client.follows_giveUp
  | rollBack c => exact h.change fun _ => Client.follows_rollBack

theorem isSound_run (h : w.IsSound server) (events : List Event) :
    (w.run server events).IsSound server := by
  induction events generalizing w with
  | nil => exact h
  | cons e events ih => exact ih (h.step e)

end World

end DocStore.Contention
