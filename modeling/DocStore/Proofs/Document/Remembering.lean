import DocStore.Proofs.Document.Calls
import DocStore.Proofs.Table.Scope

/-!
# A store on many connections

One store is used on any number of connections at once (`World`).  Some of them callers hold,
who begin, commit and roll back transactions as they like; on the others nothing is open when an
operation starts.  Operations run step by step, interleaved in any order, and can fail or be cut
off anywhere; what they leave open is rolled back before the connection is used again.  While one
of them is about to let the store remember its table, others cannot, and go on without.  Other
sessions can commit the table at any time, and nobody drops it.

* What the store remembers is committed, what a running script is certain of is so, and who has
  made the table in a transaction that is open has not committed it: `World.IsSound`, kept by
  every event (`IsSound.step`).
* So a store never remembers a table that is not committed: `layout_committed`.
-/

namespace DocStore

open Sql (Statement)

namespace Remembering

/-- What goes on on a connection. -/
inductive Turn where
  | free
  /-- An operation runs, which began when `base` transactions were open. -/
  | running (x : Script TableLayout Unit) (base : Nat)
  /-- An operation has ended; what it has left open is to be rolled back. -/
  | leaving (base : Nat)

structure Connection where
  /-- A caller holds the connection. -/
  isHeld : Bool
  scope : Scope
  turn : Turn

/-- A connection of the pool. -/
def Connection.idle : Connection := ⟨false, .closed, .free⟩

structure World where
  /-- What the store remembers. -/
  memory : Option TableLayout
  /-- Who has committed the table: connections of the store's, and other sessions. -/
  makers : List (Option Nat)
  connections : Nat → Connection

inductive Event where
  /-- An operation starts. -/
  | start (c : Nat) (call : Call)
  /-- The operation goes on without the server. -/
  | go (c : Nat)
  /-- The operation cannot let the store remember what it has found, since another one is about
  to, and goes on. -/
  | forgo (c : Nat)
  /-- What the operation has asked is carried out or refused.  A statement of which nothing else
  is known may write. -/
  | reply (c : Nat) (r : Reply) (writes : Bool)
  /-- The connection ends.  What was asked last may have been carried out. -/
  | lose (c : Nat) (carried writes : Bool)
  /-- The operation is cut off.  What was asked last may have been carried out. -/
  | cutOff (c : Nat) (carried writes : Bool)
  /-- A transaction that the operation has left open is rolled back, or none is left. -/
  | unwind (c : Nat)
  /-- A caller takes a connection. -/
  | hold (c : Nat)
  /-- A caller gives a connection back; what is open on it is rolled back. -/
  | release (c : Nat)
  /-- A caller has a command of its own carried out.  A commit that the server turns into a
  rollback counts as one. -/
  | caller (c : Nat) (command : Command) (writes : Bool)
  /-- Another session commits the table. -/
  | elsewhere

namespace World

variable (s : DocumentStore)

/-- Whether somebody has committed the table. -/
def isCommitted (w : World) : Bool := !w.makers.isEmpty

/-- A table that is there already or is not, and nobody at work. -/
def initial (stands : Bool) : World := ⟨none, if stands then [none] else [], fun _ => .idle⟩

/-- Something changes on one connection. -/
def put (w : World) (c : Nat) (conn : Connection) : World :=
  { w with connections := fun i => if i = c then conn else w.connections i }

/-- A command is carried out on a connection, which then takes another turn. -/
def carryOut (w : World) (c : Nat) (command : Command) (writes : Bool) (turn : Turn) : World :=
  let conn := w.connections c
  let after := conn.scope.carryOut s.table w.isCommitted command writes
  { w.put c { conn with scope := after.1, turn } with
    makers := if after.2 then w.makers ++ [some c] else w.makers }

/-- The connection takes another turn. -/
def turnTo (w : World) (c : Nat) (turn : Turn) : World :=
  w.put c { w.connections c with turn }

/-- The connection ends, and with it what was open on it. -/
def lose (w : World) (c : Nat) (turn : Turn) : World :=
  w.put c { w.connections c with scope := .closed, turn }

def step (w : World) : Event → World
  | .start c call =>
      let conn := w.connections c
      match conn.turn with
      | .free =>
          if conn.isHeld || conn.scope.levels.isEmpty then
            w.turnTo c (.running (call.script s conn.isHeld) conn.scope.levels.length)
          else w
      | _ => w
  | .go c =>
      match (w.connections c).turn with
      | .running (.log _ next) base => w.turnTo c (.running next base)
      | .running (.inspect next) base => w.turnTo c (.running (next w.memory) base)
      | .running (.remember layout next) base =>
          { w.turnTo c (.running next base) with memory := w.memory.or (some layout) }
      | .running (.done _) base | .running (.fail _) base => w.turnTo c (.leaving base)
      | _ => w
  | .forgo c =>
      match (w.connections c).turn with
      | .running (.remember _ next) base => w.turnTo c (.running next base)
      | _ => w
  | .reply c r writes =>
      match (w.connections c).turn with
      | .running (.ask command next) base =>
          if (w.connections c).scope.permits s.table w.isCommitted command r then
            match r with
            | .ok a => w.carryOut s c command writes (.running (next (.ok a)) base)
            | .error fault => w.turnTo c (.running (next (.error fault)) base)
          else w
      | _ => w
  | .lose c carried writes =>
      match (w.connections c).turn with
      | .running (.ask command next) base =>
          let w' := if carried then w.carryOut s c command writes .free else w
          w'.lose c (.running (next (.error .ended)) base)
      | .running _ _ => w
      | turn => w.lose c turn
  | .cutOff c carried writes =>
      match (w.connections c).turn with
      | .running (.ask command _) base =>
          if carried then w.carryOut s c command writes (.leaving base)
          else w.turnTo c (.leaving base)
      | .running _ base => w.turnTo c (.leaving base)
      | _ => w
  | .unwind c =>
      match (w.connections c).turn with
      | .leaving base =>
          if base < (w.connections c).scope.levels.length then
            w.carryOut s c .rollback false (.leaving base)
          else w.turnTo c .free
      | _ => w
  | .hold c =>
      let conn := w.connections c
      match conn.turn with
      | .free => if conn.scope.levels.isEmpty then w.put c { conn with isHeld := true } else w
      | _ => w
  | .release c =>
      let conn := w.connections c
      match conn.turn with
      | .free => w.put c { conn with scope := .closed, isHeld := false }
      | _ => w
  | .caller c command writes =>
      let conn := w.connections c
      match conn.turn with
      | .free => if conn.isHeld then w.carryOut s c command writes .free else w
      | _ => w
  | .elsewhere => { w with makers := w.makers ++ [none] }

def run (w : World) (events : List Event) : World := events.foldl (step s) w

end World

/-! ## Soundness -/

/-- A script that runs has evidence for what it may remember. -/
def Turn.IsSure (t : DocumentTable) (isCommitted : Bool) (scope : Scope) (turn : Turn) : Prop :=
  ∀ x base, turn = .running x base →
    ∃ k, x.Learns t (fun _ _ => True) k ∧ k.Holds isCommitted scope

theorem Turn.IsSure.mono {t : DocumentTable} {isCommitted isCommitted' : Bool} {scope : Scope}
    {turn : Turn} (h : turn.IsSure t isCommitted scope)
    (hcommitted : isCommitted = true → isCommitted' = true) :
    turn.IsSure t isCommitted' scope := by
  intro x base hturn
  obtain ⟨k, hlearns, hholds⟩ := h x base hturn
  exact ⟨k, hlearns, hholds.mono hcommitted⟩

namespace World

/-- What is remembered is committed, scripts have evidence, and a session that has made the table
in a transaction that is open has not committed it. -/
structure IsSound (s : DocumentStore) (w : World) : Prop where
  remembered : ∀ layout, w.memory = some layout → w.isCommitted = true
  fit : ∀ c, (w.connections c).scope.IsFit
  sure : ∀ c, (w.connections c).turn.IsSure s.table w.isCommitted (w.connections c).scope
  maker : ∀ c, (w.connections c).scope.hasMade = true → some c ∉ w.makers

theorem isSound_initial (s : DocumentStore) (stands : Bool) : (initial stands).IsSound s where
  remembered := nofun
  fit _ := Scope.isFit_closed
  sure _ := nofun
  maker _ := nofun

variable {s : DocumentStore} {w : World} {c : Nat}

/-- One connection changes, and perhaps the table is committed by it. -/
theorem IsSound.update (h : w.IsSound s) {conn : Connection} {makers : List (Option Nat)}
    (hmakers : ∀ i, i ≠ c → some i ∈ makers → some i ∈ w.makers)
    (hcommitted : w.isCommitted = true → makers.isEmpty = false) (hfit : conn.scope.IsFit)
    (hsure : conn.turn.IsSure s.table (!makers.isEmpty) conn.scope)
    (hmaker : conn.scope.hasMade = true → some c ∉ makers) :
    IsSound s { w.put c conn with makers } := by
  have hkeep (hw : w.isCommitted = true) : (!makers.isEmpty) = true := by rw [hcommitted hw]; rfl
  refine ⟨fun layout hlayout => hkeep (h.remembered layout hlayout), fun i => ?_, fun i => ?_,
    fun i => ?_⟩
  · show (if i = c then conn else w.connections i).scope.IsFit
    split
    · exact hfit
    · exact h.fit i
  · show (if i = c then conn else w.connections i).turn.IsSure s.table _
      (if i = c then conn else w.connections i).scope
    split
    · exact hsure
    · exact (h.sure i).mono hkeep
  · show (if i = c then conn else w.connections i).scope.hasMade = true → some i ∉ makers
    split
    · next hi => exact hi ▸ hmaker
    · next hi => exact fun hmade hmem => h.maker i hmade (hmakers i hi hmem)

theorem IsSound.put (h : w.IsSound s) {conn : Connection} (hfit : conn.scope.IsFit)
    (hsure : conn.turn.IsSure s.table w.isCommitted conn.scope)
    (hmaker : conn.scope.hasMade = true → some c ∉ w.makers) : (w.put c conn).IsSound s :=
  h.update (fun _ _ => id) (fun hw => by simpa [isCommitted] using hw) hfit hsure hmaker

theorem IsSound.turnTo (h : w.IsSound s) {turn : Turn}
    (hsure : turn.IsSure s.table w.isCommitted (w.connections c).scope) :
    (w.turnTo c turn).IsSound s :=
  h.put (h.fit c) hsure (h.maker c)

theorem IsSound.lose (h : w.IsSound s) {turn : Turn}
    (hsure : turn.IsSure s.table w.isCommitted .closed) : (w.lose c turn).IsSound s :=
  h.put Scope.isFit_closed hsure nofun

theorem isCommitted_carryOut (command : Command) (writes : Bool) (turn : Turn) :
    (w.carryOut s c command writes turn).isCommitted = (w.isCommitted ||
      ((w.connections c).scope.carryOut s.table w.isCommitted command writes).2) := by
  show (!(if _ then _ else _ : List (Option Nat)).isEmpty) = _
  cases ((w.connections c).scope.carryOut s.table w.isCommitted command writes).2 with
  | false => simp [isCommitted]
  | true => simp [isCommitted]

/-- Nobody has committed the table while it is not committed. -/
theorem not_mem_makers (h : w.isCommitted = false) (maker : Option Nat) : maker ∉ w.makers := by
  have hnil : w.makers = [] := by simpa [isCommitted] using h
  rw [hnil]
  exact List.not_mem_nil

theorem IsSound.carryOut (h : w.IsSound s) {command : Command} {writes : Bool} {turn : Turn}
    (hsure : turn.IsSure s.table
      (w.isCommitted || ((w.connections c).scope.carryOut s.table w.isCommitted command writes).2)
      ((w.connections c).scope.carryOut s.table w.isCommitted command writes).1) :
    (w.carryOut s c command writes turn).IsSound s := by
  have hcommitted := isCommitted_carryOut (s := s) (w := w) (c := c) command writes turn
  refine h.update (fun i hi hmem => ?_) (fun hw => ?_) ((h.fit c).carryOut command writes) ?_
    fun hmade => ?_
  · split at hmem
    · exact (List.mem_append.1 hmem).resolve_right fun hmem =>
        hi (Option.some.inj (List.mem_singleton.1 hmem))
    · exact hmem
  · rw [hw, Bool.true_or] at hcommitted
    exact (Bool.not_eq_true' _).mp hcommitted
  · exact (show (!(_ : List (Option Nat)).isEmpty) = _ from hcommitted) ▸ hsure
  · obtain ⟨hbefore, hflag⟩ := (h.fit c).of_hasMade hmade
    rw [hflag, if_neg Bool.false_ne_true]
    exact hbefore.elim (h.maker c) fun hnot => not_mem_makers hnot _

/-- What a script hears is what it may build on. -/
theorem IsSound.reply (h : w.IsSound s) {command : Command}
    {next : Reply → Script TableLayout Unit} {base : Nat} {r : Reply}
    (hturn : (w.connections c).turn = .running (.ask command next) base)
    (hpermits : (w.connections c).scope.permits s.table w.isCommitted command r = true)
    (writes : Bool) :
    (match r with
    | .ok a => w.carryOut s c command writes (.running (next (.ok a)) base)
    | .error fault => w.turnTo c (.running (next (.error fault)) base)).IsSound s := by
  obtain ⟨k, hlearns, hholds⟩ := h.sure c _ _ hturn
  cases r with
  | ok a =>
    refine h.carryOut fun x base' hrunning => ?_
    obtain ⟨rfl, -⟩ := Turn.running.inj hrunning
    exact ⟨_, hlearns (.ok a), hholds.after_ok (h.fit c) hpermits writes⟩
  | error fault =>
    refine h.turnTo fun x base' hrunning => ?_
    obtain ⟨rfl, -⟩ := Turn.running.inj hrunning
    exact ⟨_, hlearns (.error fault), hholds.after_error hpermits _⟩

/-- A script that hears that its connection has ended can build on nothing but what is
committed. -/
theorem IsSound.sure_ended (h : w.IsSound s) {command : Command}
    {next : Reply → Script TableLayout Unit} {base : Nat}
    (hturn : (w.connections c).turn = .running (.ask command next) base) :
    (Turn.running (next (.error .ended)) base).IsSure s.table w.isCommitted .closed := by
  obtain ⟨k, hlearns, hholds⟩ := h.sure c _ _ hturn
  intro x base' hrunning
  obtain ⟨rfl, -⟩ := Turn.running.inj hrunning
  have hother : DatabaseFault.ended.toError.isAlreadyExists = false := rfl
  refine ⟨_, hlearns (.error .ended), hholds.after_error ?_ _⟩
  cases command with
  | execute statement => simp [Scope.permits, hother]
  | _ => rfl

/-- A turn in which no script runs needs no evidence. -/
theorem sure_of_ne_running {t : DocumentTable} {isCommitted : Bool} {scope : Scope} {turn : Turn}
    (h : ∀ x base, turn ≠ .running x base) : turn.IsSure t isCommitted scope :=
  fun x base hturn => absurd hturn (h x base)

theorem sure_running {t : DocumentTable} {isCommitted : Bool} {scope : Scope} {k : Evidence}
    {x : Script TableLayout Unit} (base : Nat) (hlearns : x.Learns t (fun _ _ => True) k)
    (hholds : k.Holds isCommitted scope) : (Turn.running x base).IsSure t isCommitted scope := by
  intro x' base' hturn
  obtain ⟨rfl, -⟩ := Turn.running.inj hturn
  exact ⟨k, hlearns, hholds⟩

/-- A script goes on without the server. -/
theorem IsSound.go (h : w.IsSound s) : (w.step s (.go c)).IsSound s := by
  rw [step]
  split
  · next e next base hturn =>
    obtain ⟨k, hlearns, hholds⟩ := h.sure c _ _ hturn
    exact h.turnTo (sure_running base hlearns hholds)
  · next next base hturn =>
    obtain ⟨k, hlearns, hholds⟩ := h.sure c _ _ hturn
    exact h.turnTo (sure_running base (hlearns w.memory) hholds)
  · next layout next base hturn =>
    obtain ⟨k, ⟨hsure, hlearns⟩, hholds⟩ := h.sure c _ _ hturn
    have hturned := h.turnTo (c := c) (sure_running base hlearns hholds)
    exact ⟨fun _ _ => hholds.isCommitted hsure, hturned.fit, hturned.sure, hturned.maker⟩
  · exact h.turnTo (sure_of_ne_running nofun)
  · exact h.turnTo (sure_of_ne_running nofun)
  · exact h

/-- A script whose store remembers nothing of it builds on the same. -/
theorem IsSound.forgo (h : w.IsSound s) : (w.step s (.forgo c)).IsSound s := by
  rw [step]
  split
  · next layout next base hturn =>
    obtain ⟨k, ⟨-, hlearns⟩, hholds⟩ := h.sure c _ _ hturn
    exact h.turnTo (sure_running base hlearns hholds)
  · exact h

/-- A script starts with nothing remembered and, on a connection that nobody holds, with nothing
open. -/
theorem IsSound.start (h : w.IsSound s) (call : Call) : (w.step s (.start c call)).IsSound s := by
  rw [step]
  split
  · split
    · next hfree =>
      refine h.turnTo (sure_running _ call.learns_script ⟨fun n hn => ?_, nofun, nofun⟩)
      cases hheld : (w.connections c).isHeld with
      | true => rw [hheld] at hn; exact nomatch hn
      | false =>
        rw [hheld] at hn hfree
        rw [← Option.some.inj hn, List.isEmpty_iff.1 hfree]
        rfl
    · exact h
  · exact h

/-- A connection breaks off, before or after the command it was given is carried out. -/
theorem IsSound.breakOff (h : w.IsSound s) (carried writes : Bool) :
    (w.step s (.lose c carried writes)).IsSound s := by
  rw [step]
  split
  · next command next base hturn =>
    have hended := h.sure_ended hturn
    dsimp only
    split
    · have hcarried : (w.carryOut s c command writes .free).IsSound s :=
        h.carryOut (sure_of_ne_running nofun)
      refine hcarried.lose (hended.mono fun hw => ?_)
      rw [isCommitted_carryOut, hw, Bool.true_or]
    · exact h.lose hended
  · exact h
  · next hne => exact h.lose (sure_of_ne_running fun x base hturn => hne x base hturn)

/-- Another session that commits the table takes no evidence away. -/
theorem IsSound.elsewhere (h : w.IsSound s) : (w.step s .elsewhere).IsSound s := by
  have hcommitted : (!(w.makers ++ [none]).isEmpty) = true := by simp
  refine ⟨fun _ _ => hcommitted, h.fit, fun i => (h.sure i).mono fun _ => hcommitted,
    fun i hmade hmem => ?_⟩
  exact (List.mem_append.1 hmem).elim (h.maker i hmade) fun hmem =>
    nomatch List.mem_singleton.1 hmem

theorem IsSound.step (h : w.IsSound s) (e : Event) : (w.step s e).IsSound s := by
  cases e with
  | start c call => exact h.start call
  | go c => exact h.go
  | forgo c => exact h.forgo
  | reply c r writes =>
    rw [World.step]
    split
    · next command next base hturn =>
      split
      · next hpermits => exact h.reply hturn hpermits writes
      · exact h
    · exact h
  | lose c carried writes => exact h.breakOff carried writes
  | cutOff c carried writes =>
    rw [World.step]
    split
    · split
      · exact h.carryOut (sure_of_ne_running nofun)
      · exact h.turnTo (sure_of_ne_running nofun)
    · exact h.turnTo (sure_of_ne_running nofun)
    · exact h
  | unwind c =>
    rw [World.step]
    split
    · split
      · exact h.carryOut (sure_of_ne_running nofun)
      · exact h.turnTo (sure_of_ne_running nofun)
    · exact h
  | hold c =>
    rw [World.step]
    split
    · next hturn =>
      split
      · exact h.put (h.fit c) (sure_of_ne_running (hturn ▸ nofun)) (h.maker c)
      · exact h
    · exact h
  | release c =>
    rw [World.step]
    split
    · next hturn => exact h.put Scope.isFit_closed (sure_of_ne_running (hturn ▸ nofun)) nofun
    · exact h
  | caller c command writes =>
    rw [World.step]
    split
    · split
      · exact h.carryOut (sure_of_ne_running nofun)
      · exact h
    · exact h
  | elsewhere => exact h.elsewhere

theorem isSound_run (h : w.IsSound s) (events : List Event) : (w.run s events).IsSound s := by
  induction events generalizing w with
  | nil => exact h
  | cons e events ih => exact ih (h.step e)

/-! ## What the store remembers -/

/-- What is remembered once is remembered for good. -/
theorem memory_step {layout : TableLayout} (h : w.memory = some layout) (e : Event) :
    (w.step s e).memory = some layout := by
  cases e with
  | go c =>
    rw [step]
    split
    · exact h
    · exact h
    · exact congrArg (Option.or · _) h
    · exact h
    · exact h
    · exact h
  | elsewhere => exact h
  | _ => rw [step]; (repeat' split) <;> exact h

theorem memory_run {layout : TableLayout} (h : w.memory = some layout) (events : List Event) :
    (w.run s events).memory = some layout := by
  induction events generalizing w with
  | nil => exact h
  | cons e events ih => exact ih (memory_step h e)

end World

/-- The event rolls back a transaction that is open on the connection, or all of them. -/
def Event.RollsBack (c : Nat) : Event → Prop
  | .unwind c' | .release c' | .caller c' .rollback _ => c' = c
  | .lose c' carried _ => c' = c ∧ carried = false
  | _ => False

namespace World

variable {s : DocumentStore} {w : World} {c : Nat}

/-- A rollback commits nothing, and the store learns nothing from it. -/
theorem step_of_rollsBack {e : Event} (h : e.RollsBack c) :
    (w.step s e).memory = w.memory ∧ (w.step s e).makers = w.makers := by
  cases e with
  | unwind c' => rw [step]; (repeat' split) <;> exact ⟨rfl, rfl⟩
  | release c' => rw [step]; split <;> exact ⟨rfl, rfl⟩
  | caller c' command writes =>
    cases command with
    | rollback => rw [step]; (repeat' split) <;> exact ⟨rfl, rfl⟩
    | _ => exact nomatch h
  | lose c' carried writes =>
    obtain ⟨-, rfl⟩ := h
    rw [step]
    split <;> exact ⟨rfl, rfl⟩
  | _ => exact nomatch h

/-- A store never remembers a table that is not committed.

Whatever is done on its connections, a layout that the store remembers is that of a committed
table, and stays what is remembered.  If a session has made the table in a transaction that is
rolled back, then the store remembers nothing, unless somebody else has committed the table. -/
theorem layout_committed (s : DocumentStore) (stands : Bool) (events : List Event) :
    let w := (initial stands).run s events
    (∀ layout, w.memory = some layout →
      w.isCommitted = true ∧ ∀ later, (w.run s later).memory = some layout) ∧
    ∀ c, (w.connections c).scope.hasMade = true → ∀ e : Event, e.RollsBack c →
      (w.step s e).memory = none ∨ ∃ maker ∈ (w.step s e).makers, maker ≠ some c := by
  intro w
  have hsound : w.IsSound s := isSound_run (isSound_initial s stands) events
  refine ⟨fun layout hlayout => ⟨hsound.remembered layout hlayout, memory_run hlayout⟩,
    fun c hmade e he => ?_⟩
  obtain ⟨hmemory, hmakers⟩ := step_of_rollsBack (s := s) (w := w) he
  rw [hmemory, hmakers]
  cases hremembered : w.memory with
  | none => exact .inl rfl
  | some layout =>
    have hcommitted := hsound.remembered layout hremembered
    obtain ⟨maker, hmaker⟩ := List.exists_mem_of_ne_nil w.makers
      (by simpa [isCommitted] using hcommitted)
    exact .inr ⟨maker, hmaker, fun heq => hsound.maker c hmade (heq ▸ hmaker)⟩

end World

/-! ## First use in a transaction of the caller -/

/-- A store of a table that is not there yet. -/
def pinnedFirst : DocumentStore :=
  ⟨⟨⟨"it_pinned_first", by decide +kernel, by decide +kernel⟩, none⟩, .ofSeconds 30⟩

/-- What becomes of an operation that saves a document and has to make the table for it. -/
def savedFirst : List Event :=
  let done := Except.ok Answer.empty
  [.go 0, .reply 0 done false, .reply 0 done false, .reply 0 done false, .reply 0 done false,
    .go 0, .go 0, .reply 0 done true, .go 0, .unwind 0]

/-- A caller begins a transaction and saves a document in it. -/
def firstUse : List Event :=
  [.hold 0, .caller 0 .begin false, .start 0 (.save "rolled" .null)] ++ savedFirst

/-- The caller rolls back, saves another document outside of transactions and looks for it. -/
def secondUse : List Event :=
  let names := ["id", "data", "version", "last_updated", "date_created"]
  [.caller 0 .rollback false, .start 0 (.save "kept" .null)] ++ savedFirst ++
    [.start 0 (.exists? "kept"), .go 0,
      .reply 0 (.ok ⟨names.map fun name => [.text name], 0⟩) false,
      .reply 0 (.ok ⟨[[.boolean true]], 0⟩) false, .go 0]

theorem made_firstUse :
    (((World.initial false).run pinnedFirst firstUse).connections 0).scope.hasMade = true := by
  decide +kernel

theorem memory_secondUse :
    ((World.initial false).run pinnedFirst (firstUse ++ secondUse)).memory = some .full := by
  decide +kernel

theorem World.layout_committed_firstUse :
    ((((World.initial false).run pinnedFirst firstUse).step pinnedFirst
        (.caller 0 .rollback false)).memory = none ∨
      ∃ maker ∈ (((World.initial false).run pinnedFirst firstUse).step pinnedFirst
        (.caller 0 .rollback false)).makers, maker ≠ some 0) ∧
    ((World.initial false).run pinnedFirst (firstUse ++ secondUse)).isCommitted = true :=
  ⟨(World.layout_committed pinnedFirst false firstUse).2 0 made_firstUse
      (.caller 0 .rollback false) rfl,
    ((World.layout_committed pinnedFirst false (firstUse ++ secondUse)).1 .full
      memory_secondUse).1⟩

end Remembering

end DocStore
