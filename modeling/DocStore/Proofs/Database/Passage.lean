import DocStore.Proofs.Database.Course

/-!
# Where a play stands

What is reported on the way has no part in how a script goes on: without its reports
(`Script.silent`) it comes to the same (`Script.playOn_silent`).  Nor has what is remembered, if
the script does not look it up and sends only certain commands (`Script.Only`):
`Only.exists_playOn`, `Only.mem_sent`.

A play that has sent some statements stands on the connection as it is then, with the outcomes
behind theirs (`Stage.past`).  Commands that are all answered lead there
(`Stage.after_eq_past`), and so does the first one that is not (`Stage.after_take_eq_past`).
-/

namespace DocStore

open Sql (Statement)

namespace Script

variable {κ α β : Type}

/-- The script without its reports. -/
def silent : Script κ α → Script κ α
  | done a => done a
  | fail e => fail e
  | ask c next => ask c fun r => (next r).silent
  | log _ next => next.silent
  | inspect next => inspect fun known => (next known).silent
  | remember k next => remember k next.silent

theorem silent_bind (x : Script κ α) (f : α → Script κ β) :
    (x >>= f).silent = x.silent >>= fun a => (f a).silent := by
  induction x with
  | done a => rfl
  | fail e => rfl
  | ask c next ih => exact congrArg (ask c) (funext ih)
  | log e next ih => exact ih
  | inspect next ih => exact congrArg inspect (funext ih)
  | remember k next ih => exact congrArg (remember k) ih

@[simp] theorem silent_sendOr (toError : DatabaseFault → StoreError) (c : Command) :
    (sendOr toError c : Script κ Answer).silent = sendOr toError c := by
  refine congrArg (ask c) (funext fun r => ?_)
  cases r <;> rfl

@[simp] theorem silent_inOrder (steps : List Step) :
    (inOrder steps : Script κ Unit).silent = inOrder steps := by
  induction steps with
  | nil => rfl
  | cons step rest ih => rw [inOrder, silent_bind, silent_sendOr, ih]

/-- Without its reports a script comes to the same. -/
theorem playOn_silent (x : Script κ α) (s : Stage) (memory : Option κ)
    (events events' : List LogEvent) :
    x.silent.playOn s memory events = { x.playOn s memory events' with log := events } := by
  induction x generalizing s memory events' with
  | done a => rfl
  | fail e => rfl
  | ask c next ih =>
    rw [silent, playOn, playOn]
    split
    · exact ih _ _ _ _
    · rfl
  | log e next ih => exact ih _ _ _
  | inspect next ih => exact ih _ _ _ _
  | remember k next ih => exact ih _ _ _

theorem exists_playOn_of_silent {x : Script κ α} {s s' : Stage} {memory memory' : Option κ}
    {events : List LogEvent} {ending : Ending α}
    (h : x.silent.playOn s memory events = ⟨ending, s', memory', events⟩) :
    ∃ events', x.playOn s memory events = ⟨ending, s', memory', events'⟩ := by
  rw [playOn_silent x s memory events events, Played.mk.injEq] at h
  obtain ⟨rfl, rfl, rfl, -⟩ := h
  exact ⟨_, rfl⟩

/-! ## Scripts that leave the memory alone -/

/-- The script sends only such commands, and neither looks up nor sets what is remembered. -/
def Only (P : Command → Prop) : Script κ α → Prop
  | done _ | fail _ => True
  | ask c next => P c ∧ ∀ r, (next r).Only P
  | log _ next => next.Only P
  | inspect _ | remember _ _ => False

variable {P : Command → Prop}

theorem Only.bind {x : Script κ α} {f : α → Script κ β} (hx : x.Only P)
    (hf : ∀ a, (f a).Only P) : (x >>= f).Only P := by
  induction x with
  | done a => exact hf a
  | fail e => trivial
  | ask c next ih => exact ⟨hx.1, fun r => ih r (hx.2 r)⟩
  | log e next ih => exact ih hx
  | inspect next => exact hx.elim
  | remember k next => exact hx.elim

theorem only_done (a : α) : (done a : Script κ α).Only P := trivial

theorem only_fail (e : StoreError) : (fail e : Script κ α).Only P := trivial

theorem only_lift (r : Except StoreError α) : (lift r : Script κ α).Only P := by
  cases r <;> trivial

theorem only_note (level : LogLevel) (message : String) :
    (note level message : Script κ Unit).Only P := trivial

theorem only_sendOr (toError : DatabaseFault → StoreError) {c : Command} (hc : P c) :
    (sendOr toError c : Script κ Answer).Only P := by
  refine ⟨hc, fun r => ?_⟩
  cases r <;> trivial

theorem only_transaction {body : Script κ α} (hbegin : P .begin) (hbody : body.Only P)
    (hcommit : P .commit) : (transaction body).Only P :=
  (only_sendOr _ hbegin).bind fun _ => hbody.bind fun a =>
    ((only_sendOr _ hcommit).bind fun _ => only_done ()).bind fun _ => only_done a

theorem only_inOrder {steps : List Step} (h : ∀ step ∈ steps, P step.command) :
    (inOrder steps : Script κ Unit).Only P := by
  induction steps with
  | nil => exact only_done ()
  | cons step rest ih =>
    obtain ⟨hstep, hrest⟩ := List.forall_mem_cons.1 h
    exact (only_sendOr _ hstep).bind fun _ => ih hrest

/-- Such a script comes to the same whatever is remembered, and leaves it. -/
theorem Only.exists_playOn {x : Script κ α} (hx : x.Only P) (s : Stage) :
    ∃ ending s', ∀ memory events, ∃ events',
      x.playOn s memory events = ⟨ending, s', memory, events'⟩ := by
  induction x generalizing s with
  | done a => exact ⟨_, _, fun memory events => ⟨events, rfl⟩⟩
  | fail e => exact ⟨_, _, fun memory events => ⟨events, rfl⟩⟩
  | ask c next ih =>
    rcases hs : s.send c with ⟨_ | reply, s'⟩
    · exact ⟨.cutOff, s', fun memory events => ⟨events, playOn_ask_of_none hs memory events⟩⟩
    · obtain ⟨ending, s'', hplay⟩ := ih reply (hx.2 reply) s'
      refine ⟨ending, s'', fun memory events => ?_⟩
      rw [playOn_ask hs]
      exact hplay memory events
  | log e next ih =>
    obtain ⟨ending, s', hplay⟩ := ih hx s
    exact ⟨ending, s', fun memory events => hplay memory (events ++ [e])⟩
  | inspect next => exact hx.elim
  | remember k next => exact hx.elim

end Script

namespace Stage

/-- What is sent is the statement of the command. -/
theorem mem_sent_send {s : Stage} {c : Command} {statement : Statement}
    (h : statement ∈ (s.send c).2.sent) :
    statement ∈ s.sent ∨ ∃ depth, c.statement? depth = some statement := by
  cases hlink : s.link.alive with
  | false =>
    rw [send, hlink] at h
    exact .inl h
  | true =>
    cases hc : c.statement? s.link.depth with
    | none =>
      rw [send, hlink, hc] at h
      exact .inl h
    | some statement' =>
      rw [send_eq hlink hc] at h
      rcases List.mem_append.1 h with h | h
      · exact .inl h
      · exact .inr ⟨s.link.depth, by rw [hc, List.mem_singleton.1 h]⟩

/-- What is open is rolled back, and nothing else is done. -/
theorem mem_sent_unwind {s : Stage} {depth : Nat} {statement : Statement}
    (h : statement ∈ (s.unwind depth).sent) :
    statement ∈ s.sent ∨ ∃ depth, Command.rollback.statement? depth = some statement := by
  have hcount (count : Nat) : ∀ s : Stage, statement ∈ (s.unwindBy count).sent →
      statement ∈ s.sent ∨ ∃ depth, Command.rollback.statement? depth = some statement := by
    induction count with
    | zero => exact fun s h => .inl h
    | succ count ih =>
      intro s h
      exact (ih _ h).elim mem_sent_send .inr
  rw [unwind] at h
  split at h
  · exact hcount _ s h
  · exact .inl h

/-- Nothing is sent on a connection that has ended. -/
theorem unwind_of_dead {s : Stage} (hlink : s.link.alive = false) (depth : Nat) :
    s.unwind depth = s :=
  if_neg (Bool.eq_false_iff.1 hlink)

end Stage

namespace Script

variable {κ α : Type} {P : Command → Prop}

theorem Only.mem_sent {x : Script κ α} (hx : x.Only P) {s : Stage} {memory : Option κ}
    {events : List LogEvent} {statement : Statement}
    (h : statement ∈ (x.playOn s memory events).stage.sent) :
    statement ∈ s.sent ∨ ∃ c depth, P c ∧ c.statement? depth = some statement := by
  induction x generalizing s events with
  | done a => exact .inl h
  | fail e => exact .inl h
  | ask c next ih =>
    have hsend : statement ∈ (s.send c).2.sent →
        statement ∈ s.sent ∨ ∃ c depth, P c ∧ c.statement? depth = some statement := fun h =>
      (Stage.mem_sent_send h).imp id fun ⟨depth, hc⟩ => ⟨c, depth, hx.1, hc⟩
    rw [playOn] at h
    rcases hs : s.send c with ⟨_ | reply, s'⟩
    · rw [hs] at h hsend
      exact hsend h
    · rw [hs] at h hsend
      exact (ih reply (hx.2 reply) h).elim hsend .inr
  | log e next ih => exact ih hx h
  | inspect next => exact hx.elim
  | remember k next => exact hx.elim

/-- Nothing is sent on a connection that has ended. -/
theorem stage_playOn_of_dead (x : Script κ α) {s : Stage} (hlink : s.link.alive = false)
    (memory : Option κ) (events : List LogEvent) :
    (x.playOn s memory events).stage = s := by
  induction x generalizing memory events with
  | done a => rfl
  | fail e => rfl
  | ask c next ih =>
    rw [playOn_ask (Stage.send_of_dead hlink c)]
    exact ih _ _ _
  | log e next ih => exact ih _ _
  | inspect next ih => exact ih _ _ _
  | remember k next ih => exact ih _ _

end Script

namespace Command

theorem statements_append (depth : Nat) (first second : List Command) :
    statements depth (first ++ second) =
      statements depth first ++ statements (depthBehind depth first) second := by
  induction first generalizing depth with
  | nil => rfl
  | cons c rest ih =>
    rw [List.cons_append, statements, statements, ih, List.append_assoc]
    rfl

theorem length_statements {commands : List Command} (h : ∀ c ∈ commands, c.IsSent) (depth : Nat) :
    (statements depth commands).length = commands.length := by
  induction commands generalizing depth with
  | nil => rfl
  | cons c rest ih =>
    obtain ⟨statement, hc⟩ := h c List.mem_cons_self depth
    rw [statements, hc, List.length_append, ih fun d hd => h d (List.mem_cons_of_mem c hd),
      List.length_cons, Nat.add_comm]
    rfl

end Command

namespace Stage

variable {s : Stage}

/-- Where a play stands that has sent these statements, and has this connection. -/
def past (s : Stage) (link : Link) (sent : List Statement) : Stage :=
  ⟨link, s.outcomes.drop sent.length, s.sent ++ sent⟩

@[simp] theorem link_past (link : Link) (sent : List Statement) : (s.past link sent).link = link :=
  rfl

@[simp] theorem sent_past (link : Link) (sent : List Statement) :
    (s.past link sent).sent = s.sent ++ sent := rfl

@[simp] theorem outcome_past (link : Link) (sent : List Statement) (n : Nat) :
    (s.past link sent).outcome n = s.outcome (sent.length + n) := by
  rw [outcome, outcome, past, List.getElem?_drop]

@[simp] theorem past_past (link link' : Link) (first second : List Statement) :
    (s.past link first).past link' second = s.past link' (first ++ second) := by
  simp [past]

theorem past_nil (s : Stage) : s.past s.link [] = s := by simp [past]

theorem behind_eq_past (s : Stage) (c : Command) (statement : Statement) :
    s.behind c statement = s.past ((s.outcome 0).linkAfter c s.link) [statement] := by
  simp [behind, past]

/-- Behind commands that are all answered. -/
theorem after_eq_past {commands : List Command} (hlink : s.link.alive = true)
    (hsent : ∀ c ∈ commands, c.IsSent)
    (h : ∀ i < commands.length, (s.outcome i).isAnswer = true) :
    s.after commands =
      s.past ⟨Command.depthBehind s.link.depth commands, true⟩
        (Command.statements s.link.depth commands) := by
  induction commands generalizing s with
  | nil =>
    have hs : s.link = ⟨s.link.depth, true⟩ := by rw [← hlink]
    exact (s.past_nil).symm.trans (congrArg (s.past · []) hs)
  | cons c rest ih =>
    obtain ⟨statement, hc⟩ := hsent c List.mem_cons_self s.link.depth
    have hlink' : (s.behind c statement).link = ⟨c.depthAfter s.link.depth, true⟩ :=
      link_behind hlink (h 0 (by simp))
    have hanswered : ∀ i < rest.length, ((s.behind c statement).outcome i).isAnswer = true := by
      intro i hi
      rw [outcome_behind]
      exact h (i + 1) (by simpa using hi)
    rw [after_cons hlink hc, ih (by rw [hlink']) (fun d hd => hsent d (List.mem_cons_of_mem c hd))
      hanswered, hlink', behind_eq_past, past_past, Command.statements, hc]
    rfl

/-- Behind the first command that is not answered. -/
theorem after_take_eq_past {commands : List Command} {k : Nat} (hlink : s.link.alive = true)
    (hsent : ∀ c ∈ commands, c.IsSent) (hk : k < commands.length)
    (h : ∀ i < k, (s.outcome i).isAnswer = true) :
    s.after (commands.take (k + 1)) =
      s.past ((s.outcome k).linkAfter commands[k]
          ⟨Command.depthBehind s.link.depth (commands.take k), true⟩)
        (Command.statements s.link.depth (commands.take (k + 1))) := by
  have hsent' : ∀ c ∈ commands.take k, c.IsSent := fun c hc => hsent c (List.mem_of_mem_take hc)
  have hlen : (commands.take k).length = k := by
    rw [List.length_take, Nat.min_eq_left (Nat.le_of_lt hk)]
  obtain ⟨statement, hc⟩ := hsent commands[k] (List.getElem_mem hk)
    (Command.depthBehind s.link.depth (commands.take k))
  rw [List.take_succ_eq_append_getElem hk, after_concat,
    after_eq_past hlink hsent' (by rw [hlen]; exact h), send_eq rfl hc, behind_eq_past,
    past_past, outcome_past, Command.length_statements hsent', hlen, Command.statements_append,
    Command.statements, hc]
  rfl

end Stage

end DocStore
