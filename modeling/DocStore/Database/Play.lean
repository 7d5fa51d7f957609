import DocStore.Database.Script

/-!
# Playing a script

A script is played on a link against a list of outcomes: each statement takes the
next one, and when the list is used up, statements succeed with no rows.  An
outcome can also end the connection, after which nothing more is sent, or never
come, which cuts the script off.

What a script leaves open, by failing or by being cut off, is rolled back from
the inside out before the link is used again (`Link.unwind`).
-/

namespace DocStore

/-- What happens to a statement. -/
inductive Outcome where
  | answer (a : Answer)
  | refuse (code : Option String) (message : String)
  /-- The connection ends. -/
  | lost
  /-- No answer comes in time. -/
  | hang
  deriving DecidableEq, Inhabited

/-- A connection: how many transactions are open on it, and whether it is still there. -/
structure Link where
  depth : Nat
  alive : Bool
  deriving DecidableEq, Inhabited

/-- A new connection. -/
def Link.fresh : Link := ⟨0, true⟩

/-- The server's side of a play. -/
structure Stage where
  link : Link
  outcomes : List Outcome
  /-- The statements that were sent. -/
  sent : List Sql.Statement
  deriving DecidableEq

/-- The fault of a connection that ended. -/
def DatabaseFault.ended : DatabaseFault :=
  .io "expected to read 5 bytes, got 0 bytes at EOF"

/-- The answer of a statement that gives nothing. -/
def Answer.empty : Answer := ⟨[], 0⟩

namespace Stage

/-- The next outcome and the others. -/
def next (s : Stage) : Outcome × List Outcome :=
  match s.outcomes with
  | [] => (.answer .empty, [])
  | o :: rest => (o, rest)

/-- Sends a command.  No reply comes from one that hangs. -/
def send (s : Stage) (c : Command) : Option Reply × Stage :=
  if !s.link.alive then (some (.error .ended), s)
  else
    match c.statement? s.link.depth with
    | none => (some (.ok .empty), s)
    | some statement =>
        let (outcome, rest) := s.next
        let s := { s with outcomes := rest, sent := s.sent ++ [statement] }
        match outcome with
        | .answer a =>
            (some (.ok a), { s with link := { s.link with depth := c.depthAfter s.link.depth } })
        | .refuse code message => (some (.error (.server code message)), s)
        | .lost => (some (.error .ended), { s with link := ⟨0, false⟩ })
        -- A transaction whose begin is not answered in time begins all the same.
        | .hang =>
            let depth := if c = .begin then s.link.depth + 1 else s.link.depth
            (none, { s with link := { s.link with depth } })

/-- Rolls back `count` transactions, whatever the answers are. -/
def unwindBy : (count : Nat) → Stage → Stage
  | 0, s => s
  | count + 1, s =>
      let depth := s.link.depth
      let s := (s.send .rollback).2
      unwindBy count { s with link := { s.link with depth := depth - 1 } }

/-- Rolls back what is open beyond a depth. -/
def unwind (s : Stage) (depth : Nat) : Stage :=
  if s.link.alive then s.unwindBy (s.link.depth - depth) else s

end Stage

/-- How a script ends: with a result, or cut off. -/
inductive Ending (α : Type) where
  | result (r : Except StoreError α)
  | cutOff

/-- What a play gives. -/
structure Played (κ α : Type) where
  ending : Ending α
  stage : Stage
  memory : Option κ
  log : List LogEvent

namespace Script

variable {κ α : Type}

/-- Plays a script, and notes the events it reports behind earlier ones. -/
def playOn : Script κ α → Stage → (memory : Option κ) → (events : List LogEvent) → Played κ α
  | done a, s, memory, events => ⟨.result (.ok a), s, memory, events⟩
  | fail e, s, memory, events => ⟨.result (.error e), s, memory, events⟩
  | ask c next, s, memory, events =>
      match s.send c with
      | (some reply, s) => playOn (next reply) s memory events
      | (none, s) => ⟨.cutOff, s, memory, events⟩
  | log e next, s, memory, events => playOn next s memory (events ++ [e])
  | inspect next, s, memory, events => playOn (next memory) s memory events
  | remember k next, s, memory, events => playOn next s (memory.or (some k)) events

/-- Plays a script and rolls back what it leaves open. -/
def play (script : Script κ α) (s : Stage) (memory : Option κ) : Played κ α :=
  let played := script.playOn s memory []
  { played with stage := played.stage.unwind s.link.depth }

end Script

end DocStore
