import DocStore.Proofs.Database.Path
import DocStore.Proofs.Document.Effect

/-!
# Clients of a table

A client saves, deletes or updates documents on a connection of its own (`Client`).  It sends
one command at a time, and the reply decides on the next.  It can give up at any time; what it
has sent last may then still be carried out.

* What a client has done and heard is a path through the script of its task
  (`Client.IsOnPath`), and every step of it keeps to that path.
* What it has done in its transaction (`Session`) is read off what was answered so far:
  `Client.session_hear`.
* What was read and written in a transaction is locked by it: `Session.IsCovered`.
-/

namespace DocStore

open Sql (Statement)
open Script (Path)

namespace Script

variable {κ α : Type}

/-- The script before its next command.  Its store remembers `known` when it is looked up. -/
def advance (known : Option κ) : Script κ α → Script κ α
  | log _ next => advance known next
  | inspect next => advance known (next known)
  | remember k next => advance (known.or (some k)) next
  | x => x

theorem path_advance (x : Script κ α) (known : Option κ) : Path x [] (x.advance known) := by
  induction x generalizing known with
  | done a => exact .refl _
  | fail e => exact .refl _
  | ask c next => exact .refl _
  | log e next ih => exact .log (ih known)
  | inspect next ih => exact .inspect (ih known known)
  | remember k next ih => exact .remember (ih (known.or (some k)))

/-- Whether the script stands before a command. -/
def isAsking : Script κ α → Bool
  | ask _ _ => true
  | _ => false

end Script

namespace Contention

/-! ## Sessions -/

/-- What a client has done in its transaction. -/
structure Session where
  isOpen : Bool
  /-- The keys of the rows that it holds. -/
  locked : List String
  /-- What it was given of the rows that it locked, before it wrote anything. -/
  read : List (String × Stored)
  /-- What it has written. -/
  pending : List Write

namespace Session

/-- Outside of transactions. -/
def idle : Session := ⟨false, [], [], []⟩

/-- A statement is carried out. -/
def execute (session : Session) (effect : Effect) (a : Answer) : Session :=
  if session.isOpen then
    match effect with
    | .lock =>
        let rows := a.rows.filterMap storedRow?
        { session with
          locked := session.locked ++ rows.map Prod.fst
          read := if session.pending.isEmpty then session.read ++ rows else session.read }
    | .write w =>
        { session with locked := session.locked ++ [w.key], pending := session.pending ++ [w] }
    | .look | .none => session
  else session

/-- A command is carried out.  The transactions of these clients are not nested. -/
def take (table : String) (session : Session) (c : Command) (a : Answer) : Session :=
  match c with
  | .begin => { idle with isOpen := true }
  | .commit | .rollback => idle
  | .execute s => session.execute (s.effect table) a
  | .ping => session

/-- What the command makes others see. -/
def publish (table : String) (session : Session) : Command → List Write
  | .commit => session.pending
  | .execute s =>
      match session.isOpen, s.effect table with
      | false, .write w => [w]
      | _, _ => []
  | .begin | .rollback | .ping => []

/-- The session behind commands.  Those that were refused have changed nothing. -/
def through (table : String) (session : Session) (past : List (Command × Reply)) : Session :=
  past.foldl (fun session (c, r) =>
    match r with
    | .ok a => session.take table c a
    | .error _ => session) session

theorem through_append (table : String) (session : Session) (past later : List (Command × Reply)) :
    session.through table (past ++ later) = (session.through table past).through table later :=
  List.foldl_append

/-- What was read and written is locked, and nothing is outside of a transaction. -/
structure IsCovered (session : Session) : Prop where
  read : ∀ row ∈ session.read, row.1 ∈ session.locked
  pending : ∀ w ∈ session.pending, w.key ∈ session.locked
  closed : session.isOpen = false → session.locked = []

theorem isCovered_idle : idle.IsCovered := ⟨nofun, nofun, fun _ => rfl⟩

variable {session : Session}

theorem IsCovered.execute (h : session.IsCovered) (effect : Effect) (a : Answer) :
    (session.execute effect a).IsCovered := by
  obtain ⟨isOpen, locked, read, pending⟩ := session
  cases isOpen with
  | false => exact h
  | true =>
    cases effect with
    | lock =>
      refine ⟨fun row hrow => ?_, fun w hw => List.mem_append_left _ (h.pending w hw), nofun⟩
      replace hrow : row ∈ if pending.isEmpty then read ++ a.rows.filterMap storedRow? else read :=
        hrow
      split at hrow
      · rcases List.mem_append.1 hrow with hrow | hrow
        · exact List.mem_append_left _ (h.read row hrow)
        · exact List.mem_append_right _ (List.mem_map_of_mem hrow)
      · exact List.mem_append_left _ (h.read row hrow)
    | write w =>
      refine ⟨fun row hrow => List.mem_append_left _ (h.read row hrow), fun w' hw' => ?_, nofun⟩
      rcases List.mem_append.1 hw' with hw' | hw'
      · exact List.mem_append_left _ (h.pending w' hw')
      · rw [List.mem_singleton.1 hw']
        exact List.mem_append_right _ (List.mem_singleton_self _)
    | look => exact h
    | none => exact h

theorem IsCovered.take (h : session.IsCovered) (table : String) (c : Command) (a : Answer) :
    (session.take table c a).IsCovered := by
  cases c with
  | execute s => exact h.execute _ a
  | begin => exact ⟨nofun, nofun, nofun⟩
  | commit => exact isCovered_idle
  | rollback => exact isCovered_idle
  | ping => exact h

theorem IsCovered.through (h : session.IsCovered) (table : String)
    (past : List (Command × Reply)) : (session.through table past).IsCovered := by
  induction past generalizing session with
  | nil => exact h
  | cons e past ih =>
    obtain ⟨c, r⟩ := e
    cases r with
    | ok a => exact ih (h.take table c a)
    | error fault => exact ih h

theorem isOpen_execute (effect : Effect) (a : Answer) :
    (session.execute effect a).isOpen = session.isOpen := by
  obtain ⟨isOpen, locked, read, pending⟩ := session
  cases isOpen with
  | false => rfl
  | true => cases effect <;> rfl

/-- Statements neither begin nor end a transaction. -/
theorem isOpen_through {table : String} {past : List (Command × Reply)}
    (h : ∀ e ∈ past, ∃ s, e.1 = .execute s) :
    (session.through table past).isOpen = session.isOpen := by
  induction past generalizing session with
  | nil => rfl
  | cons e past ih =>
    obtain ⟨⟨s, hs⟩, hpast⟩ := List.forall_mem_cons.1 h
    obtain ⟨c, r⟩ := e
    obtain rfl : c = .execute s := hs
    cases r with
    | ok a => exact (ih hpast).trans (isOpen_execute _ a)
    | error fault => exact ih hpast

theorem mem_pending_execute {effect : Effect} {a : Answer} {w : Write}
    (h : w ∈ (session.execute effect a).pending) : w ∈ session.pending ∨ effect = .write w := by
  obtain ⟨isOpen, locked, read, pending⟩ := session
  cases isOpen with
  | false => exact .inl h
  | true =>
    cases effect with
    | write w' =>
      rcases List.mem_append.1 h with h | h
      · exact .inl h
      · rw [List.mem_singleton.1 h]
        exact .inr rfl
    | _ => exact .inl h

/-- What is written was written by one of the statements. -/
theorem mem_pending_through {table : String} {past : List (Command × Reply)} {w : Write}
    (h : w ∈ (session.through table past).pending) :
    w ∈ session.pending ∨ ∃ s r, (.execute s, r) ∈ past ∧ s.effect table = .write w := by
  induction past generalizing session with
  | nil => exact .inl h
  | cons e past ih =>
    obtain ⟨c, r⟩ := e
    have hlater (hw : ∃ s r, (.execute s, r) ∈ past ∧ s.effect table = .write w) :
        ∃ s r', (.execute s, r') ∈ (c, r) :: past ∧ s.effect table = .write w := by
      obtain ⟨s, r', hmem, heffect⟩ := hw
      exact ⟨s, r', List.mem_cons_of_mem _ hmem, heffect⟩
    cases r with
    | error fault => exact (ih h).imp_right hlater
    | ok a =>
      rcases ih h with h | h
      · cases c with
        | execute s =>
          refine (mem_pending_execute h).imp_right fun heffect => ?_
          exact ⟨s, .ok a, List.mem_cons_self, heffect⟩
        | ping => exact .inl h
        | _ => exact absurd h List.not_mem_nil
      · exact .inr (hlater h)

end Session

/-! ## Clients -/

/-- What a client was asked to do. -/
inductive Task where
  | save (key : String) (data : Json)
  | saveAll (items : List Json) (keys : List String)
  | delete (key : String)
  | update (q : Query) (f : List Entry → Except StoreError (List Entry))

/-- The script of a task, which runs on a connection of the pool. -/
def Task.script (s : DocumentStore) : Task → Script TableLayout Unit
  | save key data => (s.save key data).script false
  | saveAll items keys => (s.saveAll items keys).script false
  | delete key => (s.delete key).script false >>= fun _ => .done ()
  | update q f => (s.queryAndUpdate q f).script false >>= fun _ => .done ()

/-- How a client stands to its script. -/
inductive Standing where
  | going
  /-- It has sent a command. -/
  | waiting
  /-- It has given up; what it has sent is not carried out yet. -/
  | abandoned
  | ended
  /-- What it has left open is rolled back. -/
  | gone
  deriving DecidableEq

/-- A client at its task. -/
structure Client where
  store : DocumentStore
  task : Task
  /-- Where its script stands. -/
  rest : Script TableLayout Unit
  /-- What was carried out or refused, and the replies. -/
  past : List (Command × Reply)
  standing : Standing

namespace Client

/-- A client with a new task. -/
def start (s : DocumentStore) (task : Task) : Client := ⟨s, task, task.script s, [], .going⟩

/-- What is to be carried out for the client. -/
def command? (client : Client) : Option Command :=
  match client.standing, client.rest with
  | .waiting, .ask c _ | .abandoned, .ask c _ => some c
  | _, _ => none

/-- The client goes on to its next command. -/
def send (client : Client) (known : Option TableLayout) : Client :=
  match client.standing with
  | .going =>
      let rest := client.rest.advance known
      { client with rest, standing := if rest.isAsking then .waiting else .ended }
  | _ => client

/-- What the client has sent is replied to. -/
def hear (client : Client) (r : Reply) : Client :=
  match client.standing, client.rest with
  | .waiting, .ask c next =>
      { client with rest := next r, past := client.past ++ [(c, r)], standing := .going }
  | .abandoned, .ask c next =>
      { client with rest := next r, past := client.past ++ [(c, r)], standing := .ended }
  | _, _ => client

/-- The client does not go on, for lack of time or because its connection ends. -/
def giveUp (client : Client) : Client :=
  match client.standing with
  | .going => { client with standing := .ended }
  | .waiting => { client with standing := .abandoned }
  | _ => client

/-- What the client has left open is rolled back. -/
def rollBack (client : Client) : Client :=
  match client.standing with
  | .ended => { client with standing := .gone }
  | _ => client

/-- What the client has done in its transaction, unless that is rolled back. -/
def session (table : String) (client : Client) : Session :=
  match client.standing with
  | .gone => .idle
  | _ => Session.idle.through table client.past

/-- What the client has done is a path through its script. -/
def IsOnPath (client : Client) : Prop :=
  Path (client.task.script client.store) client.past client.rest

variable {client : Client} {table : String}

theorem isCovered_session : (client.session table).IsCovered := by
  rw [session]
  split
  · exact Session.isCovered_idle
  · exact Session.isCovered_idle.through table client.past

/-- A reply to what was sent is a step on the path. -/
theorem hear_of_command? (table : String) {c : Command} (h : client.command? = some c)
    (r : Reply) :
    ∃ next, client.rest = .ask c next ∧
      client.session table = Session.idle.through table client.past ∧
      (client.hear r).rest = next r ∧ (client.hear r).past = client.past ++ [(c, r)] ∧
      (client.hear r).task = client.task ∧ (client.hear r).store = client.store ∧
      (client.hear r).session table = Session.idle.through table (client.past ++ [(c, r)]) := by
  obtain ⟨store, task, rest, past, standing⟩ := client
  cases rest with
  | ask c' next =>
    cases standing with
    | waiting =>
      obtain rfl : c' = c := Option.some.inj h
      exact ⟨next, rfl, rfl, rfl, rfl, rfl, rfl, rfl⟩
    | abandoned =>
      obtain rfl : c' = c := Option.some.inj h
      exact ⟨next, rfl, rfl, rfl, rfl, rfl, rfl, rfl⟩
    | _ => exact nomatch h
  | _ => cases standing <;> exact nomatch h

/-- Nothing is replied to a client that has sent nothing. -/
theorem hear_of_command?_eq_none (h : client.command? = none) (r : Reply) :
    client.hear r = client := by
  obtain ⟨store, task, rest, past, standing⟩ := client
  cases standing <;> cases rest <;> first | rfl | exact nomatch h

/-- An answer to what was sent. -/
theorem session_hear {c : Command} (h : client.command? = some c) (a : Answer) :
    (client.hear (.ok a)).session table = (client.session table).take table c a := by
  obtain ⟨-, -, hsession, -, -, -, -, hheard⟩ := hear_of_command? table h (.ok a)
  rw [hheard, hsession, Session.through_append]
  rfl

/-! ### Steps that change nothing in the database -/

/-- A client that is on its path still, and holds and has read nothing more. -/
structure Follows (table : String) (client client' : Client) : Prop where
  store : client'.store = client.store
  onPath : client.IsOnPath → client'.IsOnPath
  locked : ∀ key ∈ (client'.session table).locked, key ∈ (client.session table).locked
  read : ∀ row ∈ (client'.session table).read, row ∈ (client.session table).read
  answered : ∀ e ∈ client'.past, e ∈ client.past ∨ ∃ fault, e.2 = .error fault
  task : client'.task = client.task

theorem follows_refl : Follows table client client :=
  ⟨rfl, id, fun _ => id, fun _ => id, fun _ => .inl, rfl⟩

theorem follows_send (known : Option TableLayout) : Follows table client (client.send known) := by
  obtain ⟨store, task, rest, past, standing⟩ := client
  cases standing with
  | going =>
    have hpath (h : Path (task.script store) past rest) :
        Path (task.script store) past (rest.advance known) := by
      have happend := h.trans (rest.path_advance known)
      rwa [List.append_nil] at happend
    have hsession : (Client.send ⟨store, task, rest, past, .going⟩ known).session table =
        Session.idle.through table past := by
      rw [send, session]
      dsimp only
      cases (rest.advance known).isAsking <;> rfl
    refine ⟨rfl, hpath, ?_, ?_, fun _ => .inl, rfl⟩
    · rw [hsession]
      exact fun _ => id
    · rw [hsession]
      exact fun _ => id
  | _ => exact follows_refl

theorem follows_hear_error (fault : DatabaseFault) :
    Follows table client (client.hear (.error fault)) := by
  cases hc : client.command? with
  | none => rw [hear_of_command?_eq_none hc]; exact follows_refl
  | some c =>
    obtain ⟨next, hrest, hsession, hrest', hpast', htask, hstore, hheard⟩ :=
      hear_of_command? table hc (.error fault)
    have hsame : (client.hear (.error fault)).session table = client.session table := by
      rw [hheard, hsession, Session.through_append]
      rfl
    refine ⟨hstore, fun h => ?_, ?_, ?_, fun e he => ?_, htask⟩
    · rw [IsOnPath, hrest] at h
      rw [IsOnPath, hrest', hpast', htask, hstore]
      exact h.concat (.error fault)
    · rw [hsame]
      exact fun _ => id
    · rw [hsame]
      exact fun _ => id
    · rw [hpast'] at he
      rcases List.mem_append.1 he with he | he
      · exact .inl he
      · exact .inr ⟨fault, by rw [List.mem_singleton.1 he]⟩

theorem follows_giveUp : Follows table client client.giveUp := by
  obtain ⟨store, task, rest, past, standing⟩ := client
  cases standing <;> exact ⟨rfl, id, fun _ => id, fun _ => id, fun _ => .inl, rfl⟩

theorem follows_rollBack : Follows table client client.rollBack := by
  obtain ⟨store, task, rest, past, standing⟩ := client
  cases standing with
  | ended => exact ⟨rfl, id, nofun, nofun, fun _ => .inl, rfl⟩
  | _ => exact follows_refl

end Client

end Contention

end DocStore
