import DocStore.Database.Play

/-!
# The course of a script

What a script that is played sends, and how it ends, by what happens to each statement
(`Stage.outcome`).

* A statement that is sent takes the next outcome: `send_eq`.
* A script goes on where the one before it ended: `playOn_bind`.
* What a script does to the transactions that are open on its connection (`Script.Moves`) is
  put together from what its parts do: `Moves.bind`.
* Statements that are sent one after the other, whatever the answers (`Script.inOrder`),
  are all answered, or the first one that is not ends the script:
  `playOn_inOrder_of_answered` and `playOn_inOrder_of_failed`.
* What is left open is rolled back: `unwind_of_open`.
-/

namespace DocStore

open Sql (Statement)

/-! ## Outcomes -/

namespace Outcome

def isAnswer : Outcome → Bool
  | answer _ => true
  | _ => false

theorem exists_answer {o : Outcome} (h : o.isAnswer = true) : ∃ a, o = .answer a := by
  cases o with
  | answer a => exact ⟨a, rfl⟩
  | _ => exact nomatch h

/-- What the sender hears. -/
def reply? : Outcome → Option Reply
  | answer a => some (.ok a)
  | refuse code message => some (.error (.server code message))
  | lost => some (.error .ended)
  | hang => none

/-- The fault that the sender hears of. -/
def fault? : Outcome → Option DatabaseFault
  | refuse code message => some (.server code message)
  | lost => some .ended
  | answer _ | hang => none

/-- The connection after a command. -/
def linkAfter (o : Outcome) (c : Command) (link : Link) : Link :=
  match o with
  | answer _ => { link with depth := c.depthAfter link.depth }
  | refuse _ _ => link
  | lost => ⟨0, false⟩
  | hang => { link with depth := if c = .begin then link.depth + 1 else link.depth }

/-- How a script ends that goes no further. -/
def ending {α : Type} (toError : DatabaseFault → StoreError) (o : Outcome) : Ending α :=
  match o.fault? with
  | some fault => .result (.error (toError fault))
  | none => .cutOff

end Outcome

namespace Stage

/-- What happens to the `n`-th statement that is sent from now on. -/
def outcome (s : Stage) (n : Nat) : Outcome := s.outcomes[n]?.getD (.answer .empty)

/-- The stage behind a command that was sent as `statement`. -/
def behind (s : Stage) (c : Command) (statement : Statement) : Stage :=
  ⟨(s.outcome 0).linkAfter c s.link, s.outcomes.tail, s.sent ++ [statement]⟩

theorem outcome_behind (s : Stage) (c : Command) (statement : Statement) (n : Nat) :
    (s.behind c statement).outcome n = s.outcome (n + 1) := by
  rw [outcome, outcome, behind, List.getElem?_tail]

/-- A statement takes the next outcome. -/
theorem send_eq {s : Stage} {c : Command} {statement : Statement} (hlink : s.link.alive = true)
    (hc : c.statement? s.link.depth = some statement) :
    s.send c = ((s.outcome 0).reply?, s.behind c statement) := by
  obtain ⟨⟨depth, alive⟩, outcomes, sent⟩ := s
  obtain rfl : alive = true := hlink
  rw [send, hc]
  cases outcomes with
  | nil => rfl
  | cons o rest => cases o <;> rfl

/-- A command that is sent as no statement is answered at once. -/
theorem send_of_none {s : Stage} {c : Command} (hlink : s.link.alive = true)
    (hc : c.statement? s.link.depth = none) : s.send c = (some (.ok .empty), s) := by
  rw [send, hlink, hc]
  rfl

/-- Nothing is sent on a connection that has ended. -/
theorem send_of_dead {s : Stage} (hlink : s.link.alive = false) (c : Command) :
    s.send c = (some (.error .ended), s) := by
  rw [send, hlink]
  rfl

end Stage

/-- What the caller is told at the end; `late` is the error of an operation that takes too long. -/
def Ending.told {α : Type} (late : StoreError) : Ending α → Except StoreError α
  | .result r => r
  | .cutOff => .error late

/-! ## Scripts in sequence -/

/-- A command that is sent as a statement. -/
def Command.IsSent (c : Command) : Prop := ∀ depth, ∃ statement, c.statement? depth = some statement

theorem Command.isSent_of_ne_ping {c : Command} (h : c ≠ .ping) : c.IsSent := by
  intro depth
  cases c with
  | ping => exact absurd rfl h
  | _ => exact ⟨_, rfl⟩

theorem Command.eq_ping_of_statement?_eq_none {c : Command} {depth : Nat}
    (h : c.statement? depth = none) : c = .ping := by
  cases c with
  | ping => rfl
  | _ => exact nomatch h

namespace Script

variable {κ α β : Type}

/-- A script goes on with the reply. -/
theorem playOn_ask {c : Command} {next : Reply → Script κ α} {s s' : Stage} {reply : Reply}
    (hs : s.send c = (some reply, s')) (memory : Option κ) (events : List LogEvent) :
    (ask c next).playOn s memory events = (next reply).playOn s' memory events := by
  rw [playOn, hs]

/-- A script ends where there is no reply. -/
theorem playOn_ask_of_none {c : Command} {next : Reply → Script κ α} {s s' : Stage}
    (hs : s.send c = (none, s')) (memory : Option κ) (events : List LogEvent) :
    (ask c next).playOn s memory events = ⟨.cutOff, s', memory, events⟩ := by
  rw [playOn, hs]

/-- A script is played from where the one before it ended well. -/
theorem playOn_bind (x : Script κ α) (f : α → Script κ β) (s : Stage) (memory : Option κ)
    (events : List LogEvent) :
    (x >>= f).playOn s memory events =
      match x.playOn s memory events with
      | ⟨.result (.ok a), s', memory', events'⟩ => (f a).playOn s' memory' events'
      | ⟨.result (.error e), s', memory', events'⟩ => ⟨.result (.error e), s', memory', events'⟩
      | ⟨.cutOff, s', memory', events'⟩ => ⟨.cutOff, s', memory', events'⟩ := by
  induction x generalizing s memory events with
  | done a => rfl
  | fail e => rfl
  | ask c next ih =>
    rw [ask_bind, playOn, playOn]
    split
    · exact ih _ _ _ _
    · rfl
  | log e next ih => exact ih _ _ _
  | inspect next ih => exact ih _ _ _ _
  | remember k next ih => exact ih _ _ _

/-- The first command is answered, or it ends the script. -/
theorem playOn_sendOr {s : Stage} {c : Command} {statement : Statement}
    (toError : DatabaseFault → StoreError) (hlink : s.link.alive = true)
    (hc : c.statement? s.link.depth = some statement) (f : Answer → Script κ α)
    (memory : Option κ) (events : List LogEvent) :
    (sendOr toError c >>= f).playOn s memory events =
      match s.outcome 0 with
      | .answer a => (f a).playOn (s.behind c statement) memory events
      | o => ⟨o.ending toError, s.behind c statement, memory, events⟩ := by
  rw [sendOr, ask_bind, playOn, Stage.send_eq hlink hc]
  cases s.outcome 0 <;> rfl

end Script

/-! ## Commands in sequence -/

/-- The depth after commands that were all answered. -/
def Command.depthBehind (depth : Nat) (commands : List Command) : Nat :=
  commands.foldl Command.depthAfter depth

/-- The statements of commands that are all answered. -/
def Command.statements : (depth : Nat) → List Command → List Statement
  | _, [] => []
  | depth, c :: rest => (c.statement? depth).toList ++ statements (c.depthAfter depth) rest

namespace Command

theorem statements_take {commands : List Command} (h : ∀ c ∈ commands, c.IsSent) (depth n : Nat) :
    statements depth (commands.take n) = (statements depth commands).take n := by
  induction commands generalizing depth n with
  | nil => simp [statements]
  | cons c rest ih =>
    obtain ⟨statement, hc⟩ := h c List.mem_cons_self depth
    cases n with
    | zero => rfl
    | succ n =>
      simp only [List.take_succ_cons, statements, hc, Option.toList_some, List.cons_append,
        List.nil_append, ih fun d hd => h d (List.mem_cons_of_mem c hd)]

/-- Statements leave the transactions as they are. -/
theorem statements_execute_append (depth : Nat) (body : List Statement) (rest : List Command) :
    statements depth (body.map execute ++ rest) = body ++ statements depth rest := by
  induction body with
  | nil => rfl
  | cons statement body ih =>
    rw [List.map_cons, List.cons_append, statements, statement?, depthAfter, ih]
    rfl

theorem depthBehind_execute (depth : Nat) (body : List Statement) :
    depthBehind depth (body.map execute) = depth := by
  induction body with
  | nil => rfl
  | cons statement body ih => exact ih

end Command

namespace Stage

/-- The stage behind commands. -/
def after (s : Stage) (commands : List Command) : Stage :=
  commands.foldl (fun s c => (s.send c).2) s

variable {s : Stage} {c : Command} {rest : List Command}

theorem after_cons {statement : Statement} (hlink : s.link.alive = true)
    (hc : c.statement? s.link.depth = some statement) :
    s.after (c :: rest) = (s.behind c statement).after rest := by
  rw [after, List.foldl_cons, send_eq hlink hc]
  rfl

/-- An answer leaves the connection as it is, but for the transactions that are open. -/
theorem link_behind {statement : Statement} (hlink : s.link.alive = true)
    (h : (s.outcome 0).isAnswer = true) :
    (s.behind c statement).link = ⟨c.depthAfter s.link.depth, true⟩ := by
  obtain ⟨⟨depth, alive⟩, outcomes, sent⟩ := s
  obtain rfl : alive = true := hlink
  rw [behind]
  cases ho : outcome ⟨⟨depth, true⟩, outcomes, sent⟩ 0 with
  | answer a => rfl
  | _ => simp [ho, Outcome.isAnswer] at h

/-- What commands send of which only the last may not be answered. -/
theorem sent_after {commands : List Command} (hlink : s.link.alive = true)
    (hsent : ∀ c ∈ commands, c.IsSent)
    (h : ∀ i, i + 1 < commands.length → (s.outcome i).isAnswer = true) :
    (s.after commands).sent = s.sent ++ Command.statements s.link.depth commands := by
  induction commands generalizing s with
  | nil => simp [after, Command.statements]
  | cons c rest ih =>
    obtain ⟨statement, hc⟩ := hsent c List.mem_cons_self s.link.depth
    rw [after_cons hlink hc, Command.statements, hc]
    cases rest with
    | nil => simp [after, behind, Command.statements]
    | cons c' rest =>
      have hlink' : (s.behind c statement).link = ⟨c.depthAfter s.link.depth, true⟩ :=
        link_behind hlink (h 0 (by simp))
      rw [ih (by rw [hlink']) (fun d hd => hsent d (List.mem_cons_of_mem c hd)), hlink']
      · simp [behind]
      · intro i hi
        rw [outcome_behind]
        exact h (i + 1) (by simpa using hi)

theorem outcome_after {commands : List Command} (hlink : s.link.alive = true)
    (hsent : ∀ c ∈ commands, c.IsSent)
    (h : ∀ i, i + 1 < commands.length → (s.outcome i).isAnswer = true) (n : Nat) :
    (s.after commands).outcome n = s.outcome (n + commands.length) := by
  induction commands generalizing s with
  | nil => rfl
  | cons c rest ih =>
    obtain ⟨statement, hc⟩ := hsent c List.mem_cons_self s.link.depth
    rw [after_cons hlink hc]
    cases rest with
    | nil => exact outcome_behind s c statement n
    | cons c' rest =>
      have hlink' : (s.behind c statement).link = ⟨c.depthAfter s.link.depth, true⟩ :=
        link_behind hlink (h 0 (by simp))
      rw [ih (by rw [hlink']) (fun d hd => hsent d (List.mem_cons_of_mem c hd)), outcome_behind]
      · rfl
      · intro i hi
        rw [outcome_behind]
        exact h (i + 1) (by simpa using hi)

theorem link_after {commands : List Command} (hlink : s.link.alive = true)
    (hsent : ∀ c ∈ commands, c.IsSent)
    (h : ∀ i, i < commands.length → (s.outcome i).isAnswer = true) :
    (s.after commands).link = ⟨Command.depthBehind s.link.depth commands, true⟩ := by
  induction commands generalizing s with
  | nil =>
    obtain ⟨⟨depth, alive⟩, outcomes, sent⟩ := s
    obtain rfl : alive = true := hlink
    rfl
  | cons c rest ih =>
    obtain ⟨statement, hc⟩ := hsent c List.mem_cons_self s.link.depth
    have hlink' : (s.behind c statement).link = ⟨c.depthAfter s.link.depth, true⟩ :=
      link_behind hlink (h 0 (by simp))
    rw [after_cons hlink hc, ih (by rw [hlink'])
      (fun d hd => hsent d (List.mem_cons_of_mem c hd)), hlink']
    · rfl
    · intro i hi
      rw [outcome_behind]
      exact h (i + 1) (by simpa using hi)

/-- The stage behind commands, and one more. -/
theorem after_concat (s : Stage) (commands : List Command) (c : Command) :
    s.after (commands ++ [c]) = ((s.after commands).send c).2 := by
  rw [after, List.foldl_append]
  rfl

end Stage

namespace Script

variable {κ α : Type} {s : Stage} {memory : Option κ} {events : List LogEvent}

/-! ## What a script does to the transactions that are open -/

/-- A script that comes to a result is still connected then, and where `n` transactions were
open before it, there are `f n` behind it. -/
def Moves (x : Script κ α) (f : Nat → Nat) : Prop :=
  ∀ s memory events, s.link.alive = true → ∀ a s' memory' events',
    x.playOn s memory events = ⟨.result (.ok a), s', memory', events'⟩ →
      s'.link = ⟨f s.link.depth, true⟩

theorem moves_done (a : α) : (done a : Script κ α).Moves id := by
  intro s memory events hlink a' s' memory' events' h
  rw [playOn, Played.mk.injEq] at h
  rw [← h.2.1, ← hlink]
  rfl

theorem moves_fail (e : StoreError) (f : Nat → Nat) : (fail e : Script κ α).Moves f := by
  intro s memory events hlink a s' memory' events' h
  rw [playOn, Played.mk.injEq, Ending.result.injEq] at h
  exact nomatch h.1

theorem Moves.bind {x : Script κ α} {y : α → Script κ β} {f g : Nat → Nat} (hx : x.Moves f)
    (hy : ∀ a, (y a).Moves g) : (x >>= y).Moves (g ∘ f) := by
  intro s memory events hlink b s' memory' events' h
  rw [playOn_bind] at h
  split at h
  · next a s₁ memory₁ events₁ hfirst =>
    have hlink₁ : s₁.link = ⟨f s.link.depth, true⟩ := hx _ _ _ hlink _ _ _ _ hfirst
    rw [hy a s₁ memory₁ events₁ (by rw [hlink₁]) b s' memory' events' h, hlink₁]
    rfl
  · exact absurd (Ending.result.inj (Played.mk.inj h).1) nofun
  · exact nomatch (Played.mk.inj h).1

/-- A first part that leaves them as they are. -/
theorem Moves.bind_of_id {x : Script κ α} {y : α → Script κ β} {f : Nat → Nat} (hx : x.Moves id)
    (hy : ∀ a, (y a).Moves f) : (x >>= y).Moves f :=
  hx.bind hy

/-- A command that fails with its fault. -/
theorem moves_sendOr (toError : DatabaseFault → StoreError) {c : Command} (hc : c.IsSent) :
    (sendOr toError c : Script κ Answer).Moves c.depthAfter := by
  intro s memory events hlink a s' memory' events' h
  obtain ⟨statement, hstatement⟩ := hc s.link.depth
  rw [← bind_done (sendOr toError c), playOn_sendOr toError hlink hstatement] at h
  split at h
  · next a' houtcome =>
    obtain ⟨-, rfl, -⟩ := Played.mk.inj h
    exact Stage.link_behind hlink (by rw [houtcome]; rfl)
  · next o ho =>
    cases hs : s.outcome 0 with
    | answer a' => exact absurd hs (ho a')
    | refuse code message => rw [hs] at h; exact absurd (Ending.result.inj (Played.mk.inj h).1) nofun
    | lost => rw [hs] at h; exact absurd (Ending.result.inj (Played.mk.inj h).1) nofun
    | hang => rw [hs] at h; exact nomatch (Played.mk.inj h).1

/-- A statement whose refusal is not the end: it can be answered or refused, and the loss of the
connection is the end. -/
theorem moves_ask_execute {statement : Statement} {next : Reply → Script κ α} {f : Nat → Nat}
    (hanswered : ∀ a, (next (.ok a)).Moves f)
    (hrefused : ∀ code message, (next (.error (.server code message))).Moves f) {e : StoreError}
    (hended : next (.error .ended) = fail e) : (ask (.execute statement) next).Moves f := by
  intro s memory events hlink a s' memory' events' h
  rw [playOn, Stage.send_eq hlink rfl] at h
  have hdepth : s.link = ⟨s.link.depth, true⟩ := by rw [← hlink]
  cases hs : s.outcome 0 with
  | answer a' =>
    rw [hs] at h
    have hlink' : (s.behind (.execute statement) statement).link = ⟨s.link.depth, true⟩ :=
      Stage.link_behind hlink (by rw [hs]; rfl)
    rw [hanswered a' _ _ _ (by rw [hlink']) a s' memory' events' h, hlink']
  | refuse code message =>
    rw [hs] at h
    have hlink' : (s.behind (.execute statement) statement).link = s.link := by
      rw [Stage.behind, hs]
      rfl
    rw [hrefused code message _ _ _ (by rw [hlink', hlink]) a s' memory' events' h, hlink']
  | lost =>
    rw [hs] at h
    simp only [Outcome.reply?, hended, playOn] at h
    exact absurd (Ending.result.inj (Played.mk.inj h).1) nofun
  | hang => rw [hs] at h; exact nomatch (Played.mk.inj h).1

theorem moves_log {e : LogEvent} {next : Script κ α} {f : Nat → Nat} (h : next.Moves f) :
    (log e next).Moves f :=
  fun s memory events hlink => h s memory (events ++ [e]) hlink

theorem moves_inspect {next : Option κ → Script κ α} {f : Nat → Nat} (h : ∀ k, (next k).Moves f) :
    (inspect next).Moves f :=
  fun s memory events hlink => h memory s memory events hlink

theorem moves_remember {k : κ} {next : Script κ α} {f : Nat → Nat} (h : next.Moves f) :
    (remember k next).Moves f :=
  fun s memory events hlink => h s (memory.or (some k)) events hlink

theorem moves_lift (r : Except StoreError α) : (lift r : Script κ α).Moves id := by
  cases r with
  | ok a => exact moves_done a
  | error e => exact moves_fail e id

theorem moves_remembered : (remembered : Script κ (Option κ)).Moves id :=
  moves_inspect moves_done

theorem moves_keep (k : κ) : (keep k : Script κ Unit).Moves id := moves_remember (moves_done ())

theorem moves_note (level : LogLevel) (message : String) :
    (note level message : Script κ Unit).Moves id :=
  moves_log (moves_done ())

theorem moves_execute (sql : String) (params : List Sql.Param) :
    (execute sql params : Script κ Answer).Moves id :=
  moves_sendOr _ (Command.isSent_of_ne_ping nofun)

/-! ## Statements one after the other -/

/-- A command, and what its faults are called. -/
structure Step where
  command : Command
  toError : DatabaseFault → StoreError

/-- Runs a statement. -/
def Step.execute (statement : Statement) : Step := ⟨.execute statement, DatabaseFault.toError⟩

/-- Commands one after the other, the answers being of no interest. -/
def inOrder : List Step → Script κ Unit
  | [] => done ()
  | step :: rest => do
      let _ ← sendOr step.toError step.command
      inOrder rest

theorem inOrder_append (first second : List Step) :
    (inOrder (first ++ second) : Script κ Unit) = inOrder first >>= fun _ => inOrder second := by
  induction first with
  | nil => rfl
  | cons step rest ih => rw [List.cons_append, inOrder, ih, inOrder, bind_assoc]

/-- Commands that are all answered are all sent. -/
theorem playOn_inOrder_of_answered {steps : List Step} (hlink : s.link.alive = true)
    (hsent : ∀ step ∈ steps, step.command.IsSent)
    (h : ∀ i < steps.length, (s.outcome i).isAnswer = true) (f : Unit → Script κ α) :
    (inOrder steps >>= f).playOn s memory events =
      (f ()).playOn (s.after (steps.map Step.command)) memory events := by
  induction steps generalizing s with
  | nil => rfl
  | cons step rest ih =>
    obtain ⟨statement, hc⟩ := hsent step List.mem_cons_self s.link.depth
    have hfirst : (s.outcome 0).isAnswer = true := h 0 (by simp)
    have hlink' : (s.behind step.command statement).link =
        ⟨step.command.depthAfter s.link.depth, true⟩ := Stage.link_behind hlink hfirst
    rw [inOrder, bind_assoc, playOn_sendOr step.toError hlink hc, List.map_cons,
      Stage.after_cons hlink hc]
    cases ho : s.outcome 0 with
    | answer a =>
      apply ih (by rw [hlink']) fun step' hstep' => hsent step' (List.mem_cons_of_mem step hstep')
      intro i hi
      rw [Stage.outcome_behind]
      exact h (i + 1) (by simpa using hi)
    | _ => simp [ho, Outcome.isAnswer] at hfirst

/-- The first command that is not answered is the last one that is sent. -/
theorem playOn_inOrder_of_failed {steps : List Step} {k : Nat} (hlink : s.link.alive = true)
    (hsent : ∀ step ∈ steps, step.command.IsSent) (hk : k < steps.length)
    (h : ∀ i < k, (s.outcome i).isAnswer = true) (hfailed : (s.outcome k).isAnswer = false)
    (f : Unit → Script κ α) :
    (inOrder steps >>= f).playOn s memory events =
      ⟨(s.outcome k).ending steps[k].toError, s.after ((steps.take (k + 1)).map Step.command),
        memory, events⟩ := by
  induction steps generalizing s k with
  | nil => simp at hk
  | cons step rest ih =>
    obtain ⟨statement, hc⟩ := hsent step List.mem_cons_self s.link.depth
    rw [inOrder, bind_assoc, playOn_sendOr step.toError hlink hc, List.take_succ_cons,
      List.map_cons, Stage.after_cons hlink hc]
    cases k with
    | zero =>
      cases ho : s.outcome 0 with
      | answer a => simp [ho, Outcome.isAnswer] at hfailed
      | _ => rfl
    | succ k =>
      have hfirst : (s.outcome 0).isAnswer = true := h 0 (Nat.succ_pos k)
      have hlink' : (s.behind step.command statement).link =
          ⟨step.command.depthAfter s.link.depth, true⟩ := Stage.link_behind hlink hfirst
      cases ho : s.outcome 0 with
      | answer a =>
        have hk' : k < rest.length := by simpa using hk
        have hrest := ih (s := s.behind step.command statement) (k := k) (by rw [hlink'])
          (fun step' hstep' => hsent step' (List.mem_cons_of_mem step hstep')) hk'
          (fun i hi => by
            rw [Stage.outcome_behind]
            exact h (i + 1) (Nat.succ_lt_succ hi))
          (by rw [Stage.outcome_behind]; exact hfailed)
        rw [Stage.outcome_behind] at hrest
        exact hrest
      | _ => simp [ho, Outcome.isAnswer] at hfirst

end Script

/-! ## What is left open -/

namespace Stage

variable {s : Stage} {depth : Nat}

/-- One transaction that is left open is rolled back. -/
theorem unwind_of_open (hlink : s.link = ⟨depth + 1, true⟩) :
    (s.unwind depth).sent = s.sent ++ (Command.rollback.statement? (depth + 1)).toList ∧
      (s.unwind depth).link.depth = depth := by
  obtain ⟨link, outcomes, sent⟩ := s
  obtain rfl : link = ⟨depth + 1, true⟩ := hlink
  have hone : depth + 1 - depth = 1 := Nat.add_sub_cancel_left depth 1
  rw [unwind, if_pos rfl]
  simp only [hone, unwindBy]
  rw [send_eq rfl rfl]
  exact ⟨rfl, rfl⟩

/-- Nothing is left open. -/
theorem unwind_of_closed (hlink : s.link.alive = true → s.link.depth = depth) :
    s.unwind depth = s := by
  rw [unwind]
  split
  · next halive => rw [hlink halive, Nat.sub_self, unwindBy]
  · rfl

theorem depth_unwindBy (count : Nat) (s : Stage) :
    (s.unwindBy count).link.depth = s.link.depth - count := by
  induction count generalizing s with
  | zero => rfl
  | succ count ih =>
    rw [unwindBy, ih]
    simp only [Nat.sub_sub, Nat.add_comm]

/-- Nothing is open behind a script that was played outside of any transaction. -/
theorem depth_unwind_zero (halive : (s.unwind 0).link.alive = true) :
    (s.unwind 0).link.depth = 0 := by
  rw [unwind] at halive ⊢
  split
  · rw [depth_unwindBy, Nat.sub_zero, Nat.sub_self]
  · next hdead => rw [if_neg hdead] at halive; exact absurd halive hdead

end Stage

end DocStore
