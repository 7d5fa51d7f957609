import DocStore.Proofs.Database.Passage

/-!
# Transactions inside others

A script that begins and ends its transactions in pairs (`Script.Brackets`) comes to the same
wherever it is played, but for the words in which its transactions are begun and ended: inside
another transaction they are savepoints (`Sql.Statement.within`).

* Such scripts are put together from such scripts: `Brackets.bind`, `brackets_transaction`.
* Two connections on which the same was sent but for these words (`Stage.Mirrors`) stay so with
  every command: `Stage.Mirrors.send`.
* So a script comes to the same on both (`Brackets.playOn_mirrors`), and what it leaves open is
  rolled back on both (`Stage.Mirrors.unwind`).
-/

namespace DocStore

open Sql (Statement)

/-! ## The words of transactions -/

namespace Command

/-- Sets the savepoint of a transaction inside `depth` others. -/
def setSavepoint (depth : Nat) : Statement := .plain ("SAVEPOINT " ++ savepoint depth)

/-- Releases it. -/
def releaseSavepoint (depth : Nat) : Statement := .plain ("RELEASE SAVEPOINT " ++ savepoint depth)

/-- Goes back to it. -/
def backToSavepoint (depth : Nat) : Statement :=
  .plain ("ROLLBACK TO SAVEPOINT " ++ savepoint depth)

end Command

open Command (setSavepoint releaseSavepoint backToSavepoint)

namespace Sql.Statement

/-- A statement as it reads where `depth` transactions are open: there a transaction is begun,
committed and rolled back by its savepoint. -/
def within (depth : Nat) (s : Statement) : Statement :=
  if depth = 0 then s
  else if s = .plain "BEGIN" then setSavepoint depth
  else if s = .plain "COMMIT" then releaseSavepoint depth
  else if s = .plain "ROLLBACK" then backToSavepoint depth
  else s

/-- A statement that neither begins nor ends a transaction, in whatever words. -/
def IsPlain (s : Statement) : Prop :=
  ∀ (depth : Nat) (c : Command), c.statement? depth = some s → c = .execute s

theorem IsPlain.within {s : Statement} (h : s.IsPlain) (depth : Nat) : s.within depth = s := by
  have hbegin : s ≠ .plain "BEGIN" := fun heq => nomatch h 0 .begin (congrArg some heq.symm)
  have hcommit : s ≠ .plain "COMMIT" := fun heq => nomatch h 0 .commit (congrArg some heq.symm)
  have hrollback : s ≠ .plain "ROLLBACK" := fun heq =>
    nomatch h 0 .rollback (congrArg some heq.symm)
  rw [Statement.within, if_neg hbegin, if_neg hcommit, if_neg hrollback, ite_self]

end Sql.Statement

/-! ## Scripts whose transactions are begun and ended in pairs -/

namespace Command

/-- A command that can be sent where a transaction of the script is open, or none is. -/
def Fits (isOpen : Bool) : Command → Prop
  | execute s => s.IsPlain
  | begin => isOpen = false
  | commit | rollback => isOpen = true
  | ping => True

/-- Whether a transaction is open behind a command that was answered. -/
def opens (isOpen : Bool) : Command → Bool
  | begin => true
  | commit | rollback => false
  | execute _ | ping => isOpen

theorem Fits.depthAfter {isOpen : Bool} {c : Command} (h : c.Fits isOpen) (depth : Nat) :
    c.depthAfter (depth + isOpen.toNat) = depth + (c.opens isOpen).toNat := by
  cases c with
  | begin =>
    obtain rfl : isOpen = false := h
    rfl
  | commit =>
    obtain rfl : isOpen = true := h
    rfl
  | rollback =>
    obtain rfl : isOpen = true := h
    rfl
  | _ => rfl

/-- Inside of others the same is sent in the words of savepoints. -/
theorem Fits.statement? {isOpen : Bool} {c : Command} (h : c.Fits isOpen) (depth : Nat) :
    c.statement? (depth + isOpen.toNat) =
      (c.statement? isOpen.toNat).map (Statement.within depth) := by
  cases c with
  | execute s => exact congrArg some (Statement.IsPlain.within h depth).symm
  | ping => rfl
  | begin =>
    obtain rfl : isOpen = false := h
    cases depth <;> rfl
  | commit =>
    obtain rfl : isOpen = true := h
    cases depth <;> rfl
  | rollback =>
    obtain rfl : isOpen = true := h
    cases depth <;> rfl

/-- Commands that can be sent one after the other, if all of them take effect. -/
def AllFit : (isOpen : Bool) → List Command → Prop
  | _, [] => True
  | isOpen, c :: rest => c.Fits isOpen ∧ AllFit (c.opens isOpen) rest

theorem AllFit.statements {isOpen : Bool} {commands : List Command} (h : AllFit isOpen commands)
    (depth : Nat) :
    Command.statements (depth + isOpen.toNat) commands =
      (Command.statements isOpen.toNat commands).map (Statement.within depth) := by
  induction commands generalizing isOpen with
  | nil => rfl
  | cons c rest ih =>
    obtain ⟨hc, hrest⟩ := h
    have hfirst := hc.depthAfter 0
    rw [Nat.zero_add, Nat.zero_add] at hfirst
    rw [Command.statements, Command.statements, hc.statement?, hc.depthAfter, ih hrest, hfirst,
      List.map_append]
    cases c.statement? isOpen.toNat <;> rfl

end Command

namespace Script

variable {κ α β : Type}

/-- The script begins and ends its transactions in pairs: played where one of them is open, or
none is, it comes to a result only where it is as `after` says. -/
def Brackets (after : Bool) : (isOpen : Bool) → Script κ α → Prop
  | isOpen, done _ => isOpen = after
  | _, fail _ => True
  | isOpen, ask c next =>
      c.Fits isOpen ∧ (∀ a, (next (.ok a)).Brackets after (c.opens isOpen)) ∧
        ∀ fault, (next (.error fault)).Brackets after isOpen
  | isOpen, log _ next | isOpen, remember _ next => next.Brackets after isOpen
  | isOpen, inspect next => ∀ known, (next known).Brackets after isOpen

variable {isOpen between after : Bool}

theorem Brackets.bind {x : Script κ α} {f : α → Script κ β} (hx : x.Brackets between isOpen)
    (hf : ∀ a, (f a).Brackets after between) : (x >>= f).Brackets after isOpen := by
  induction x generalizing isOpen with
  | done a =>
    obtain rfl : isOpen = between := hx
    exact hf a
  | fail e => trivial
  | ask c next ih =>
    obtain ⟨hc, hanswered, hfailed⟩ := hx
    exact ⟨hc, fun a => ih _ (hanswered a), fun fault => ih _ (hfailed fault)⟩
  | log e next ih => exact ih hx
  | inspect next ih => exact fun known => ih known (hx known)
  | remember k next ih => exact ih hx

theorem brackets_done (a : α) : (done a : Script κ α).Brackets isOpen isOpen := rfl

theorem brackets_lift (r : Except StoreError α) :
    (lift r : Script κ α).Brackets isOpen isOpen := by
  cases r with
  | ok a => rfl
  | error e => trivial

theorem brackets_note (level : LogLevel) (message : String) :
    (note level message : Script κ Unit).Brackets isOpen isOpen := rfl

theorem brackets_sendOr {toError : DatabaseFault → StoreError} {c : Command} (hc : c.Fits isOpen) :
    (sendOr toError c : Script κ Answer).Brackets (c.opens isOpen) isOpen :=
  ⟨hc, fun _ => rfl, fun _ => trivial⟩

theorem brackets_commit : (commit : Script κ Unit).Brackets false true :=
  (brackets_sendOr (c := .commit) rfl).bind fun _ => brackets_done ()

theorem brackets_transaction {body : Script κ α} (hbody : body.Brackets true true) :
    (transaction body).Brackets false false :=
  (brackets_sendOr (c := .begin) rfl).bind fun _ => hbody.bind fun a =>
    brackets_commit.bind fun _ => brackets_done a

end Script

/-! ## Two connections -/

/-- On the first connection, with no transaction open, `before` was sent once, and on the second
one, with `depth` of them open, `before'`.  Since then the same was sent on both, but for the words
of transactions, and the same will happen to what is sent next. -/
structure Stage.Mirrors (depth : Nat) (before before' : List Statement) (isOpen : Bool)
    (s s' : Stage) : Prop where
  alive : s'.link.alive = s.link.alive
  link : s.link.alive = true →
    s.link.depth = isOpen.toNat ∧ s'.link.depth = depth + isOpen.toNat
  outcome : ∀ i, s'.outcome i = s.outcome i
  sent : ∃ since, s.sent = before ++ since ∧ s'.sent = before' ++ since.map (Statement.within depth)

/-- One transaction that is left open is rolled back, and then it is taken for closed. -/
theorem Stage.unwind_eq_of_open {s : Stage} {depth : Nat} {statement : Statement}
    (hlink : s.link = ⟨depth + 1, true⟩)
    (hs : Command.rollback.statement? (depth + 1) = some statement) :
    s.unwind depth = { s.behind .rollback statement with
      link := ⟨depth, (s.behind .rollback statement).link.alive⟩ } := by
  obtain ⟨link, outcomes, sent⟩ := s
  obtain rfl : link = ⟨depth + 1, true⟩ := hlink
  have hone : depth + 1 - depth = 1 := Nat.add_sub_cancel_left depth 1
  rw [unwind, if_pos rfl]
  simp only [hone, unwindBy]
  rw [send_eq rfl hs]
  rfl

namespace Stage.Mirrors

variable {depth : Nat} {before before' : List Statement} {isOpen : Bool} {s s' : Stage}

/-- On a connection that has ended nothing is open. -/
theorem of_dead (h : Mirrors depth before before' isOpen s s') (hdead : s.link.alive = false)
    (isOpen' : Bool) : Mirrors depth before before' isOpen' s s' where
  alive := h.alive
  link := fun halive => nomatch halive.symm.trans hdead
  outcome := h.outcome
  sent := h.sent

/-- Behind a statement that both have sent. -/
theorem behind (h : Mirrors depth before before' isOpen s s') (halive : s.link.alive = true)
    {c : Command} (hc : c.Fits isOpen) (statement : Statement) :
    Mirrors depth before before' (match s.outcome 0 with
        | .answer _ => c.opens isOpen
        | .hang => isOpen || decide (c = .begin)
        | .refuse _ _ | .lost => isOpen)
      (s.behind c statement) (s'.behind c (statement.within depth)) := by
  obtain ⟨hdepth, hdepth'⟩ := h.link halive
  obtain ⟨since, hsent, hsent'⟩ := h.sent
  have hlink : s.link = ⟨isOpen.toNat, true⟩ := by rw [← hdepth, ← halive]
  have hlink' : s'.link = ⟨depth + isOpen.toNat, true⟩ := by rw [← hdepth', ← halive, ← h.alive]
  have hnow : (s.behind c statement).link = (s.outcome 0).linkAfter c ⟨isOpen.toNat, true⟩ :=
    congrArg ((s.outcome 0).linkAfter c) hlink
  have hnow' : (s'.behind c (statement.within depth)).link =
      (s.outcome 0).linkAfter c ⟨depth + isOpen.toNat, true⟩ :=
    (congrArg (·.linkAfter c s'.link) (h.outcome 0)).trans
      (congrArg ((s.outcome 0).linkAfter c) hlink')
  refine ⟨?_, ?_, fun i => ?_, since ++ [statement], ?_, ?_⟩
  · rw [hnow, hnow']
    cases s.outcome 0 <;> rfl
  · rw [hnow, hnow']
    have hfirst := hc.depthAfter 0
    rw [Nat.zero_add, Nat.zero_add] at hfirst
    cases s.outcome 0 with
    | answer a => exact fun _ => ⟨hfirst, hc.depthAfter depth⟩
    | refuse code message => exact fun _ => ⟨rfl, rfl⟩
    | lost => exact nofun
    | hang =>
      simp only [Outcome.linkAfter]
      split
      · next hbegin =>
        subst hbegin
        obtain rfl : isOpen = false := hc
        exact fun _ => ⟨rfl, rfl⟩
      · next hbegin => exact fun _ => by simp [hbegin]
  · rw [outcome_behind, outcome_behind, h.outcome]
  · rw [Stage.behind, hsent, List.append_assoc]
  · rw [Stage.behind, hsent', List.append_assoc, List.map_append]
    rfl

/-- The same is replied on both. -/
theorem send (h : Mirrors depth before before' isOpen s s') {c : Command} (hc : c.Fits isOpen) :
    (s'.send c).1 = (s.send c).1 ∧
      match (s.send c).1 with
      | some (.ok _) => Mirrors depth before before' (c.opens isOpen) (s.send c).2 (s'.send c).2
      | some (.error _) => Mirrors depth before before' isOpen (s.send c).2 (s'.send c).2
      | none => ∃ isOpen', Mirrors depth before before' isOpen' (s.send c).2 (s'.send c).2 := by
  cases halive : s.link.alive with
  | false =>
    have halive' : s'.link.alive = false := h.alive.trans halive
    rw [Stage.send_of_dead halive, Stage.send_of_dead halive']
    exact ⟨rfl, h⟩
  | true =>
    have halive' : s'.link.alive = true := h.alive.trans halive
    obtain ⟨hdepth, hdepth'⟩ := h.link halive
    have hstatement := hc.statement? depth
    rw [← hdepth', ← hdepth] at hstatement
    cases hs : c.statement? s.link.depth with
    | none =>
      obtain rfl := Command.eq_ping_of_statement?_eq_none hs
      rw [Stage.send_of_none halive rfl, Stage.send_of_none halive' rfl]
      exact ⟨rfl, h⟩
    | some statement =>
      have hs' : c.statement? s'.link.depth = some (statement.within depth) := by
        rw [hstatement, hs]
        rfl
      have hbehind := h.behind halive hc statement
      rw [send_eq halive hs, send_eq halive' hs', h.outcome]
      refine ⟨rfl, ?_⟩
      cases ho : s.outcome 0 with
      | hang =>
        rw [ho] at hbehind
        exact ⟨_, hbehind⟩
      | _ =>
        rw [ho] at hbehind
        exact hbehind

/-- What is open is rolled back on both. -/
theorem unwind (h : Mirrors depth before before' isOpen s s') :
    Mirrors depth before before' false (s.unwind 0) (s'.unwind depth) := by
  cases halive : s.link.alive with
  | false =>
    have halive' : s'.link.alive = false := h.alive.trans halive
    rw [unwind_of_dead halive, unwind_of_dead halive']
    exact h.of_dead halive false
  | true =>
    obtain ⟨hdepth, hdepth'⟩ := h.link halive
    have hlink : s.link = ⟨isOpen.toNat, true⟩ := by rw [← hdepth, ← halive]
    have hlink' : s'.link = ⟨depth + isOpen.toNat, true⟩ := by rw [← hdepth', ← halive, ← h.alive]
    cases isOpen with
    | false =>
      have hclosed : s.unwind 0 = s := unwind_of_closed fun _ => hdepth
      have hclosed' : s'.unwind depth = s' := unwind_of_closed fun _ => hdepth'
      rwa [hclosed, hclosed']
    | true =>
      have hbehind := h.behind halive (c := .rollback) rfl (.plain "ROLLBACK")
      have hsame := @Command.Fits.statement? true .rollback rfl depth
      rw [unwind_eq_of_open hlink rfl, unwind_eq_of_open hlink' hsame]
      refine ⟨?_, fun _ => ⟨rfl, rfl⟩, hbehind.outcome, hbehind.sent⟩
      exact hbehind.alive

end Stage.Mirrors

namespace Script.Brackets

variable {κ α : Type} {after isOpen : Bool} {x : Script κ α} {depth : Nat}
  {before before' : List Statement} {s s' : Stage}

/-- A script comes to the same on both. -/
theorem playOn_mirrors (hx : x.Brackets after isOpen)
    (h : s.Mirrors depth before before' isOpen s') (memory : Option κ) (events : List LogEvent) :
    let played := x.playOn s memory events
    let played' := x.playOn s' memory events
    played' = { played with stage := played'.stage } ∧
      ∃ isOpen', played.stage.Mirrors depth before before' isOpen' played'.stage ∧
        ∀ a, played.ending = .result (.ok a) → isOpen' = after := by
  induction x generalizing isOpen s s' memory events with
  | done a =>
    obtain rfl : isOpen = after := hx
    exact ⟨rfl, isOpen, h, fun _ _ => rfl⟩
  | fail e => exact ⟨rfl, isOpen, h, nofun⟩
  | ask c next ih =>
    obtain ⟨hc, hanswered, hfailed⟩ := hx
    obtain ⟨hreply, hbehind⟩ := h.send hc
    rcases hs : s.send c with ⟨reply, s₁⟩
    rcases hs' : s'.send c with ⟨reply', s₁'⟩
    rw [hs, hs'] at hreply hbehind
    obtain rfl : reply' = reply := hreply
    rcases reply' with _ | fault | a
    · rw [playOn_ask_of_none hs, playOn_ask_of_none hs']
      obtain ⟨isOpen', hmirrors⟩ := hbehind
      exact ⟨rfl, isOpen', hmirrors, nofun⟩
    · rw [playOn_ask hs, playOn_ask hs']
      exact ih _ (hfailed fault) hbehind memory events
    · rw [playOn_ask hs, playOn_ask hs']
      exact ih _ (hanswered a) hbehind memory events
  | log e next ih => exact ih hx h _ _
  | inspect next ih => exact ih _ (hx memory) h _ _
  | remember k next ih => exact ih hx h _ _

/-- What it leaves open is rolled back on both. -/
theorem unwind_mirrors (hx : x.Brackets after isOpen)
    (h : s.Mirrors depth before before' isOpen s') (memory : Option κ) (events : List LogEvent) :
    let played := x.playOn s memory events
    let played' := x.playOn s' memory events
    played'.ending = played.ending ∧
      (played.stage.unwind 0).Mirrors depth before before' false (played'.stage.unwind depth) := by
  obtain ⟨hsame, isOpen', hmirrors, -⟩ := hx.playOn_mirrors h memory events
  have hending := congrArg Played.ending hsame
  exact ⟨hending, hmirrors.unwind⟩

end Script.Brackets

end DocStore
