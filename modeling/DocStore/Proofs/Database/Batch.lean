import DocStore.Proofs.Database.Course

/-!
# Batches

A batch is a transaction that writes several things (`Batch`).  Given what happens to its
statements it is a list of steps, each of which needs an answer before the next one is
taken (`Batch.steps`), and what it gives when all of them are answered (`Batch.result`).

* Its script takes these steps in order: `playOn_script`.
* So it ends with its result (`playOn_of_answered`), or with the first step that is not answered
  (`BreaksAt`): `playOn_of_failed`.
* What it leaves open is rolled back, and nothing else is: `unwind_upTo`.
-/

namespace DocStore

open Sql (Statement)

namespace Outcome

/-- What was answered. -/
def rows : Outcome → Answer
  | answer a => a
  | _ => .empty

/-- Of the next `n` statements the first that is not answered has the number `k`; all of them
are answered if `k` is `n`. -/
structure BreaksAt (o : Nat → Outcome) (n k : Nat) : Prop where
  le : k ≤ n
  answered : ∀ i < k, (o i).isAnswer = true
  failed : k < n → (o k).isAnswer = false

theorem exists_breaksAt (o : Nat → Outcome) (n : Nat) : ∃ k, BreaksAt o n k := by
  induction n with
  | zero => exact ⟨0, Nat.le_refl 0, nofun, nofun⟩
  | succ n ih =>
    obtain ⟨k, hle, hanswered, hfailed⟩ := ih
    cases Nat.lt_or_ge k n with
    | inl hlt => exact ⟨k, Nat.le_succ_of_le hle, hanswered, fun _ => hfailed hlt⟩
    | inr hge =>
      obtain rfl : k = n := Nat.le_antisymm hle hge
      cases hk : (o k).isAnswer with
      | false => exact ⟨k, Nat.le_succ k, hanswered, fun _ => hk⟩
      | true =>
        refine ⟨k + 1, Nat.le_refl _, fun i hi => ?_, fun h => absurd h (Nat.lt_irrefl _)⟩
        cases Nat.lt_or_ge i k with
        | inl hlt => exact hanswered i hlt
        | inr hge =>
          obtain rfl : i = k := Nat.le_antisymm (Nat.le_of_lt_succ hi) hge
          exact hk

end Outcome

/-- A transaction that writes several things. -/
inductive Batch (α : Type) where
  /-- The writes are known beforehand. -/
  | writes (statements : List Statement) (result : α)
  /-- The writes are made of the rows of a select, which can fail. -/
  | update (select : Statement) (next : Answer → Except StoreError (List Statement × α))

namespace Batch

open Script Outcome

variable {κ α β : Type}

/-- Writes everything, and gives what is to be given. -/
def write (w : List Statement × α) : Script κ α := do
  inOrder (w.1.map .execute)
  return w.2

/-- The batch as a script. -/
def script : Batch α → Script κ α
  | writes statements result => transaction (write (statements, result))
  | update select next =>
      transaction do
        let answer ← send (.execute select)
        let w ← lift (next answer)
        write w

/-- The statement whose rows the batch is made of. -/
def select? : Batch α → Option Statement
  | writes _ _ => none
  | update select _ => some select

/-- The writes, and what the batch gives, if the statements fare like this. -/
def verdict (o : Nat → Outcome) : Batch α → Except StoreError (List Statement × α)
  | writes statements result => .ok (statements, result)
  | update _ next => next (o 1).rows

/-- What the batch gives when all of its steps are answered. -/
def result (o : Nat → Outcome) (b : Batch α) : Except StoreError α := (b.verdict o).map Prod.snd

/-- The last step.  Its failure is an error of its own. -/
def commitStep : Step := ⟨.commit, fun fault => .transactionFailed fault.message⟩

/-- What is run after the select. -/
def written : Except StoreError (List Statement × α) → List Statement
  | .ok w => w.1
  | .error _ => []

/-- What is run inside the transaction, if the statements fare like this. -/
def body (o : Nat → Outcome) (b : Batch α) : List Statement :=
  b.select?.toList ++ written (b.verdict o)

/-- The steps of the batch.  There is nothing to commit if it came to nothing. -/
def steps (o : Nat → Outcome) (b : Batch α) : List Step :=
  ⟨.begin, DatabaseFault.toError⟩ ::
    ((b.body o).map .execute ++ if (b.verdict o).isOk then [commitStep] else [])

/-- The statements of these steps outside of any other transaction. -/
def statements (o : Nat → Outcome) (b : Batch α) : List Statement :=
  .plain "BEGIN" :: (b.body o ++ if (b.verdict o).isOk then [.plain "COMMIT"] else [])

/-- Whether the transaction is open where the batch ends: behind the statement with the number
`k`, or behind all of them. -/
def isOpen (o : Nat → Outcome) (k : Nat) (b : Batch α) : Bool :=
  if k < (b.steps o).length then
    match o k with
    | .refuse _ _ => 0 < k
    | .hang => true
    | .answer _ | .lost => false
  else !(b.verdict o).isOk

variable {s : Stage} {memory : Option κ} {events : List LogEvent} (b : Batch α)

theorem transaction_bind (body : Script κ α) (g : α → Script κ β) :
    (transaction body >>= g) =
      send .begin >>= fun _ => body >>= fun a => commit >>= fun _ => g a := by
  rw [transaction]
  simp only [bind_assoc]
  rfl

theorem inOrder_written_bind (w : Except StoreError (List Statement × α)) (g : α → Script κ β) :
    (inOrder ((written w).map .execute ++ if w.isOk then [commitStep] else []) >>=
        fun _ => lift (w.map Prod.snd) >>= g) =
      lift w >>= fun w => write w >>= fun a => commit >>= fun _ => g a := by
  cases w with
  | error e => rfl
  | ok w =>
    rw [inOrder_append]
    simp only [bind_assoc, lift, done_bind, write, Except.map]
    rfl

/-- The script of a batch takes its steps. -/
theorem playOn_script (hlink : s.link.alive = true) (g : α → Script κ β) :
    (b.script >>= g).playOn s memory events =
      (inOrder (b.steps s.outcome) >>= fun _ => lift (b.result s.outcome) >>= g).playOn
        s memory events := by
  rw [steps, inOrder, result, bind_assoc]
  cases b with
  | writes statements result =>
    rw [script, transaction_bind]
    simp only [body, select?, Option.toList_none, List.nil_append, inOrder_written_bind]
    rfl
  | update select next =>
    rw [script, transaction_bind, send]
    simp only [body, select?, Option.toList_some, List.map_cons, List.cons_append,
      List.nil_append, inOrder, bind_assoc, inOrder_written_bind]
    rw [playOn_sendOr _ hlink rfl, playOn_sendOr _ hlink rfl]
    cases hbegin : s.outcome 0 with
    | answer a =>
      have halive {statement : Statement} : (s.behind .begin statement).link.alive = true := by
        rw [Stage.link_behind hlink (by rw [hbegin]; rfl)]
      rw [send, playOn_sendOr _ halive rfl, playOn_sendOr _ halive rfl, Stage.outcome_behind]
      cases hselect : s.outcome 1 with
      | answer a =>
        simp only [verdict, hselect, rows]
        rfl
      | _ => rfl
    | _ => rfl

/-! ## The course of a batch -/

theorem isSent_of_mem_steps {o : Nat → Outcome} {step : Step} (h : step ∈ b.steps o) :
    step.command.IsSent := by
  apply Command.isSent_of_ne_ping
  rw [steps, List.mem_cons, List.mem_append, List.mem_map] at h
  rcases h with rfl | ⟨statement, -, rfl⟩ | h
  · exact nofun
  · exact nofun
  · split at h
    · obtain rfl : step = commitStep := List.mem_singleton.1 h
      exact nofun
    · exact absurd h List.not_mem_nil

theorem isSent_of_mem_commands {o : Nat → Outcome} {c : Command}
    (h : c ∈ (b.steps o).map Step.command) : c.IsSent := by
  obtain ⟨step, hstep, rfl⟩ := List.mem_map.1 h
  exact isSent_of_mem_steps b hstep

theorem command_steps (o : Nat → Outcome) :
    (b.steps o).map Step.command =
      .begin :: ((b.body o).map .execute ++ if (b.verdict o).isOk then [.commit] else []) := by
  rw [steps, List.map_cons, List.map_append, List.map_map]
  split <;> rfl

theorem statements_steps (o : Nat → Outcome) :
    Command.statements 0 ((b.steps o).map Step.command) = b.statements o := by
  rw [command_steps, Command.statements, Command.statements_execute_append, statements]
  split <;> rfl

/-- The stage behind the step with the number `k`. -/
def upTo (s : Stage) (k : Nat) : Stage :=
  s.after (((b.steps s.outcome).take (k + 1)).map Step.command)

/-- When every step is answered, the batch gives its result. -/
theorem playOn_of_answered (hlink : s.link.alive = true)
    (h : BreaksAt s.outcome (b.steps s.outcome).length (b.steps s.outcome).length)
    (g : α → Script κ β) :
    (b.script >>= g).playOn s memory events =
      (lift (b.result s.outcome) >>= g).playOn (b.upTo s (b.steps s.outcome).length)
        memory events := by
  rw [playOn_script b hlink,
    playOn_inOrder_of_answered hlink (fun _ => isSent_of_mem_steps b) h.answered, upTo,
    List.take_of_length_le (Nat.le_succ _)]

/-- The first step that is not answered ends the batch. -/
theorem playOn_of_failed {k : Nat} (hlink : s.link.alive = true)
    (h : BreaksAt s.outcome (b.steps s.outcome).length k) (hk : k < (b.steps s.outcome).length)
    (g : α → Script κ β) :
    (b.script >>= g).playOn s memory events =
      ⟨(s.outcome k).ending (b.steps s.outcome)[k].toError, b.upTo s k, memory, events⟩ := by
  rw [playOn_script b hlink,
    playOn_inOrder_of_failed hlink (fun _ => isSent_of_mem_steps b) hk h.answered (h.failed hk)]
  rfl

/-! ## What is left open -/

theorem length_steps (o : Nat → Outcome) :
    (b.steps o).length = (b.body o).length + if (b.verdict o).isOk then 2 else 1 := by
  rw [steps, List.length_cons, List.length_append, List.length_map]
  split <;> rfl

theorem command_getElem_steps {o : Nat → Outcome} {k : Nat} (hk : k < (b.steps o).length) :
    (b.steps o)[k].command = .begin ↔ k = 0 := by
  cases k with
  | zero => exact ⟨fun _ => rfl, fun _ => rfl⟩
  | succ k =>
    refine ⟨fun hbegin => ?_, nofun⟩
    have hmem : (b.steps o)[k + 1] ∈ (b.body o).map Step.execute ++
        if (b.verdict o).isOk then [commitStep] else [] := List.getElem_mem _
    rw [List.mem_append, List.mem_map] at hmem
    rcases hmem with ⟨statement, -, heq⟩ | hmem
    · rw [← heq] at hbegin
      exact nomatch hbegin
    · split at hmem
      · rw [List.mem_singleton.1 hmem] at hbegin
        exact nomatch hbegin
      · exact absurd hmem List.not_mem_nil

/-- One transaction is open from the first step to the last one. -/
theorem depthBehind_take {o : Nat → Outcome} {k : Nat} (depth : Nat)
    (hk : k < (b.steps o).length) :
    Command.depthBehind depth (((b.steps o).take k).map Step.command) =
      if k = 0 then depth else depth + 1 := by
  cases k with
  | zero => rfl
  | succ k =>
    have hle : k ≤ ((b.body o).map Command.execute).length := by
      rw [length_steps] at hk
      rw [List.length_map]
      split at hk <;> omega
    rw [List.map_take, command_steps, List.take_succ_cons, List.take_append_of_le_length hle,
      ← List.map_take, Command.depthBehind, List.foldl_cons]
    exact Command.depthBehind_execute (depth + 1) _

theorem depthBehind_steps (o : Nat → Outcome) (depth : Nat) :
    Command.depthBehind depth ((b.steps o).map Step.command) =
      if (b.verdict o).isOk then depth else depth + 1 := by
  rw [command_steps, Command.depthBehind, List.foldl_cons, List.foldl_append]
  have hbody := Command.depthBehind_execute (depth + 1) (b.body o)
  rw [Command.depthBehind] at hbody
  rw [show Command.depthAfter depth .begin = depth + 1 from rfl, hbody]
  split <;> rfl

variable {k : Nat} (hlink : s.link = ⟨0, true⟩)
  (h : BreaksAt s.outcome (b.steps s.outcome).length k)

include hlink h

/-- The step that is not answered is taken with the transaction open, unless it is the first. -/
theorem exists_upTo_eq_behind (hk : k < (b.steps s.outcome).length) :
    ∃ (before : Stage) (statement : Statement), before.link = ⟨if k = 0 then 0 else 1, true⟩ ∧
      before.outcome 0 = s.outcome k ∧
      b.upTo s k = before.behind (b.steps s.outcome)[k].command statement := by
  have halive : s.link.alive = true := by rw [hlink]
  have hsent : ∀ c ∈ ((b.steps s.outcome).take k).map Step.command, c.IsSent := by
    rw [List.map_take]
    exact fun c hc => isSent_of_mem_commands b (List.mem_of_mem_take hc)
  have hlen : (((b.steps s.outcome).take k).map Step.command).length = k := by
    rw [List.length_map, List.length_take, Nat.min_eq_left h.le]
  have hbefore : (s.after (((b.steps s.outcome).take k).map Step.command)).link =
      ⟨if k = 0 then 0 else 1, true⟩ := by
    rw [Stage.link_after halive hsent (by rw [hlen]; exact h.answered), hlink,
      depthBehind_take b 0 hk]
  obtain ⟨statement, hstatement⟩ :=
    isSent_of_mem_steps b (List.getElem_mem hk) (if k = 0 then 0 else 1)
  refine ⟨_, statement, hbefore, ?_, ?_⟩
  · rw [Stage.outcome_after halive hsent, hlen, Nat.zero_add]
    rw [hlen]
    exact fun i hi => h.answered i (Nat.lt_of_succ_lt hi)
  · rw [upTo, List.take_succ_eq_append_getElem hk, List.map_append, List.map_singleton,
      Stage.after_concat, Stage.send_eq (by rw [hbefore]) (by rw [hbefore]; exact hstatement)]

/-- The connection behind the last step that was taken. -/
theorem link_upTo :
    ∃ alive, (b.upTo s k).link = ⟨if b.isOpen s.outcome k then 1 else 0, alive⟩ ∧
      (b.isOpen s.outcome k = true → alive = true) := by
  rw [isOpen]
  split
  · next hk =>
    obtain ⟨before, statement, hbefore, houtcome, hupTo⟩ := exists_upTo_eq_behind b hlink h hk
    have hbegin := command_getElem_steps b hk
    rw [hupTo, Stage.behind, houtcome, hbefore]
    cases hk' : s.outcome k with
    | answer a =>
      have hanswered := h.failed hk
      rw [hk'] at hanswered
      cases hanswered
    | refuse code message => exact ⟨true, by cases k <;> rfl, fun _ => rfl⟩
    | lost =>
      refine ⟨false, rfl, fun hopen => ?_⟩
      cases hopen
    | hang =>
      refine ⟨true, ?_, fun _ => rfl⟩
      simp only [linkAfter, hbegin]
      cases k <;> rfl
  · next hk =>
    obtain rfl : k = (b.steps s.outcome).length := Nat.le_antisymm h.le (Nat.not_lt.1 hk)
    have halive : s.link.alive = true := by rw [hlink]
    refine ⟨true, ?_, fun _ => rfl⟩
    rw [upTo, List.take_of_length_le (Nat.le_succ _),
      Stage.link_after halive (fun _ => isSent_of_mem_commands b), hlink, depthBehind_steps]
    · cases (b.verdict s.outcome).isOk <;> rfl
    · simpa using h.answered

theorem sent_upTo : (b.upTo s k).sent = s.sent ++ (b.statements s.outcome).take (k + 1) := by
  have halive : s.link.alive = true := by rw [hlink]
  rw [upTo, List.map_take, Stage.sent_after halive
      fun c hc => isSent_of_mem_commands b (List.mem_of_mem_take hc),
    Command.statements_take fun _ => isSent_of_mem_commands b, hlink, statements_steps]
  intro i hi
  rw [List.length_take] at hi
  exact h.answered i (by omega)

/-- The transaction is rolled back if it is open, and nothing else is done. -/
theorem unwind_upTo :
    ((b.upTo s k).unwind 0).sent = s.sent ++ (b.statements s.outcome).take (k + 1) ++
      if b.isOpen s.outcome k then [.plain "ROLLBACK"] else [] := by
  obtain ⟨alive, hend, halive⟩ := link_upTo b hlink h
  rw [← sent_upTo b hlink h]
  cases hopen : b.isOpen s.outcome k with
  | true =>
    rw [hopen, halive hopen] at hend
    exact (Stage.unwind_of_open hend).1
  | false =>
    rw [hopen] at hend
    rw [Stage.unwind_of_closed fun _ => by rw [hend]; rfl]
    exact (List.append_nil _).symm

end Batch

end DocStore
