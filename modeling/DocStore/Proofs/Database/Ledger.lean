import DocStore.Proofs.Database.Batch

/-!
# What a batch leaves in the database

A database that keeps the writes of a transaction apart until it is committed (`Ledger`).
An answered statement took effect and a refused one did not; of one that got no answer
nobody knows (`Outcome.Allows`).

* Inside a transaction nothing is written: `written_after_of_data`.
* What a batch leaves is nothing or all of it: `written_batch`.
-/

namespace DocStore

open Sql (Statement)

/-- Whether a statement can have taken effect, by what happened to it. -/
def Outcome.Allows (o : Outcome) (took : Bool) : Prop :=
  match o with
  | answer _ => took = true
  | refuse _ _ => took = false
  | lost | hang => True

theorem Outcome.Allows.took {o : Outcome} {took : Bool} (h : o.Allows took)
    (hanswer : o.isAnswer = true) : took = true := by
  cases o with
  | answer a => exact h
  | _ => exact nomatch hanswer

/-- What a database has written, and what the open transaction would add to it. -/
structure Ledger where
  written : List Statement
  pending : Option (List Statement)

/-- A statement that neither begins nor ends a transaction. -/
def Sql.Statement.IsData (s : Statement) : Prop :=
  s.sql ≠ "BEGIN" ∧ s.sql ≠ "COMMIT" ∧ s.sql ≠ "ROLLBACK"

namespace Ledger

/-- A statement takes effect.  Outside of a transaction it is written at once. -/
def take (l : Ledger) (s : Statement) : Ledger :=
  if s.sql = "BEGIN" then ⟨l.written, some []⟩
  else if s.sql = "COMMIT" then ⟨l.written ++ l.pending.getD [], none⟩
  else if s.sql = "ROLLBACK" then ⟨l.written, none⟩
  else
    match l.pending with
    | some pending => ⟨l.written, some (pending ++ [s])⟩
    | none => ⟨l.written ++ [s], none⟩

/-- The ledger after statements; `took` says which of them take effect. -/
def after (l : Ledger) (took : Nat → Bool) : List Statement → Ledger
  | [] => l
  | s :: rest => after (if took 0 then l.take s else l) (fun i => took (i + 1)) rest

variable {l : Ledger} {took : Nat → Bool}

theorem after_append (l : Ledger) (took : Nat → Bool) (first second : List Statement) :
    l.after took (first ++ second) =
      (l.after took first).after (fun i => took (i + first.length)) second := by
  induction first generalizing l took with
  | nil => rfl
  | cons s rest ih =>
    rw [List.cons_append, after, ih, after]
    simp only [List.length_cons, Nat.add_assoc]

theorem take_of_data {s : Statement} {pending : List Statement} (hs : s.IsData)
    (hl : l.pending = some pending) : l.take s = ⟨l.written, some (pending ++ [s])⟩ := by
  rw [take, if_neg hs.1, if_neg hs.2.1, if_neg hs.2.2, hl]

/-- Inside a transaction nothing is written. -/
theorem written_after_of_data {body : List Statement} (hbody : ∀ s ∈ body, s.IsData)
    (hl : l.pending.isSome = true) :
    (l.after took body).written = l.written ∧ (l.after took body).pending.isSome = true := by
  induction body generalizing l took with
  | nil => exact ⟨rfl, hl⟩
  | cons s rest ih =>
    obtain ⟨pending, hpending⟩ := Option.isSome_iff_exists.1 hl
    have hrest : ∀ s ∈ rest, s.IsData := fun t ht => hbody t (List.mem_cons_of_mem s ht)
    rw [after]
    split
    · rw [take_of_data (hbody s List.mem_cons_self) hpending]
      exact ih hrest rfl
    · exact ih hrest hl

/-- Statements of a transaction that all take effect are pending. -/
theorem after_of_data {body pending : List Statement} (hbody : ∀ s ∈ body, s.IsData)
    (htook : ∀ i < body.length, took i = true) (hl : l.pending = some pending) :
    l.after took body = ⟨l.written, some (pending ++ body)⟩ := by
  induction body generalizing l took pending with
  | nil =>
    rw [List.append_nil, ← hl]
    rfl
  | cons s rest ih =>
    rw [after, htook 0 (by simp), if_pos rfl, take_of_data (hbody s List.mem_cons_self) hl,
      ih (fun t ht => hbody t (List.mem_cons_of_mem s ht)) (fun i hi => htook (i + 1) (by simpa)) rfl,
      List.append_assoc]
    rfl

/-- A rollback writes nothing, whether or not it takes effect. -/
theorem written_after_rollback (l : Ledger) (took : Nat → Bool) (isOpen : Bool) :
    (l.after took (if isOpen then [.plain "ROLLBACK"] else [])).written = l.written := by
  cases isOpen with
  | false => rfl
  | true =>
    rw [if_pos rfl, after, after]
    split <;> rfl

/-- A commit writes what is pending, if it takes effect. -/
theorem written_after_commit {pending : List Statement} (hl : l.pending = some pending) :
    (l.after took [.plain "COMMIT"]).written =
      if took 0 then l.written ++ pending else l.written := by
  rw [after, after]
  split
  · rw [take, hl]
    rfl
  · rfl

end Ledger

/-! ## A batch in the ledger -/

namespace Batch

variable {α : Type} (b : Batch α) {o : Nat → Outcome} {k : Nat}

/-- Whether the commit is among the first statements up to the one with the number `k`. -/
def commits (o : Nat → Outcome) (k : Nat) : Bool :=
  (b.verdict o).isOk && (b.body o).length < k

theorem take_statements (o : Nat → Outcome) (k : Nat) :
    (b.statements o).take (k + 1) =
      .plain "BEGIN" :: ((b.body o).take k ++ if b.commits o k then [.plain "COMMIT"] else []) := by
  rw [statements, List.take_succ_cons, List.take_append, commits]
  congr 2
  cases (b.verdict o).isOk with
  | false => exact List.take_nil
  | true =>
    rw [Bool.true_and, if_pos rfl]
    cases Nat.lt_or_ge (b.body o).length k with
    | inl hlt =>
      rw [decide_eq_true hlt, if_pos rfl]
      exact List.take_of_length_le (Nat.le_sub_of_add_le' hlt)
    | inr hge =>
      rw [decide_eq_false (Nat.not_lt.2 hge), Nat.sub_eq_zero_of_le hge]
      rfl

theorem took_of_lt {n i : Nat} {took : Nat → Bool} (hk : Outcome.BreaksAt o n k)
    (htook : ∀ i, (o i).Allows (took i)) (hi : i < k) : took i = true :=
  (htook i).took (hk.answered i hi)

/-- What is sent of a batch up to the statement with the number `k`, and the rollback. -/
def sentUpTo (o : Nat → Outcome) (k : Nat) : List Statement :=
  (b.statements o).take (k + 1) ++ if b.isOpen o k then [.plain "ROLLBACK"] else []

/-- What a batch writes: nothing before its commit is sent, and all of it if the commit takes
effect. -/
theorem written_batch {l : Ledger} {took : Nat → Bool} (hdata : ∀ s ∈ b.body o, s.IsData)
    (hk : Outcome.BreaksAt o (b.steps o).length k) (htook : ∀ i, (o i).Allows (took i)) :
    (l.after took (b.sentUpTo o k)).written =
      if b.commits o k && took ((b.body o).length + 1) then l.written ++ b.body o
      else l.written := by
  rw [sentUpTo, Ledger.after_append, Ledger.written_after_rollback, take_statements]
  cases k with
  | zero =>
    rw [commits, decide_eq_false (Nat.not_lt_zero _), Bool.and_false, Bool.false_and, List.take_zero]
    rw [if_neg Bool.false_ne_true, List.append_nil, Ledger.after, Ledger.after]
    split <;> rfl
  | succ k =>
    have hbegin : l.take (.plain "BEGIN") = ⟨l.written, some []⟩ := rfl
    rw [Ledger.after, took_of_lt hk htook (Nat.succ_pos k), if_pos rfl, hbegin]
    cases hcommits : b.commits o (k + 1) with
    | false =>
      rw [if_neg Bool.false_ne_true, List.append_nil, Bool.false_and, if_neg Bool.false_ne_true]
      exact (Ledger.written_after_of_data (fun s hs => hdata s (List.mem_of_mem_take hs)) rfl).1
    | true =>
      have hlt : (b.body o).length < k + 1 := by
        rw [commits, Bool.and_eq_true, decide_eq_true_eq] at hcommits
        exact hcommits.2
      rw [if_pos rfl, List.take_of_length_le (Nat.le_of_lt hlt), Ledger.after_append,
        Ledger.after_of_data hdata (fun i hi => took_of_lt hk htook (by omega)) rfl,
        Ledger.written_after_commit rfl, Bool.true_and, Nat.zero_add]
      rfl

/-! ## All or nothing -/

/-- The error of the step with the number `k`, given what happened to it. -/
def errorAt (late : StoreError) (o : Nat → Outcome) (k : Nat) : StoreError :=
  match (o k).fault? with
  | none => late
  | some fault =>
      if k = (b.body o).length + 1 then .transactionFailed fault.message else fault.toError

/-- What a batch comes to: `sent` are its statements, and `result` is what is given at the
end. -/
structure AllOrNothing (late : StoreError) (o : Nat → Outcome) (sent : List Statement)
    (result : Except StoreError α) : Prop where
  /-- The statements are sent in order up to the first that is not answered, and that is the
  failure that is reported.  A transaction that is open then is rolled back at once. -/
  course : ∃ k, Outcome.BreaksAt o (b.statements o).length k ∧
    sent = b.sentUpTo o k ∧
    result = if k < (b.statements o).length then .error (b.errorAt late o k) else b.result o
  /-- The commit is sent only when everything before it went well. -/
  of_commit : .plain "COMMIT" ∈ sent →
    (b.verdict o).isOk = true ∧ ∀ i ≤ (b.body o).length, (o i).isAnswer = true
  /-- All is well only when the commit was answered. -/
  of_ok : result.isOk = true →
    .plain "COMMIT" ∈ sent ∧ (o ((b.body o).length + 1)).isAnswer = true
  /-- In a database that applies the writes of a transaction only when it commits, all of the
  batch is written or nothing. -/
  whole : ∀ l took, (∀ i, (o i).Allows (took i)) →
    (Ledger.after l took sent).written = l.written ∨
      (Ledger.after l took sent).written = l.written ++ b.body o
  /-- All of it is written when all is well. -/
  written_of_ok : ∀ l took, (∀ i, (o i).Allows (took i)) → result.isOk = true →
    (Ledger.after l took sent).written = l.written ++ b.body o
  /-- Nothing is written unless the commit was sent and not refused. -/
  kept : ∀ l took, (∀ i, (o i).Allows (took i)) →
    (.plain "COMMIT" ∉ sent ∨
      ∃ code message, o ((b.body o).length + 1) = .refuse code message) →
    (Ledger.after l took sent).written = l.written

theorem length_statements (o : Nat → Outcome) :
    (b.statements o).length = (b.body o).length + if (b.verdict o).isOk then 2 else 1 := by
  rw [statements, List.length_cons, List.length_append]
  split <;> rfl

theorem isOk_result (o : Nat → Outcome) : (b.result o).isOk = (b.verdict o).isOk := by
  rw [result]
  cases b.verdict o <;> rfl

theorem commits_of_isOk {n : Nat} (hok : (b.verdict o).isOk = true)
    (hn : n = (b.statements o).length) : b.commits o n = true := by
  rw [hn, commits, length_statements, hok, if_pos rfl, Bool.true_and, decide_eq_true_eq]
  omega

theorem commit_mem_sentUpTo (hdata : ∀ s ∈ b.body o, s.IsData)
    (h : .plain "COMMIT" ∈ b.sentUpTo o k) : b.commits o k = true := by
  cases hcommits : b.commits o k with
  | true => rfl
  | false =>
    rw [sentUpTo, take_statements, hcommits, if_neg Bool.false_ne_true, List.append_nil,
      List.cons_append, List.mem_cons, List.mem_append] at h
    rcases h with h | h | h
    · exact absurd (congrArg Statement.sql h) (by decide)
    · exact absurd rfl (hdata _ (List.mem_of_mem_take h)).2.1
    · split at h
      · exact absurd (congrArg Statement.sql (List.mem_singleton.1 h)) (by decide)
      · exact absurd h List.not_mem_nil

theorem commit_mem_of_commits (h : b.commits o k = true) :
    .plain "COMMIT" ∈ b.sentUpTo o k := by
  rw [sentUpTo, take_statements, h, if_pos rfl]
  simp

/-- A batch whose statements are sent up to the first that is not answered, and that gives what
is due then. -/
theorem allOrNothing (late : StoreError) (hdata : ∀ s ∈ b.body o, s.IsData)
    (hk : Outcome.BreaksAt o (b.statements o).length k) :
    b.AllOrNothing late o (b.sentUpTo o k)
      (if k < (b.statements o).length then .error (b.errorAt late o k) else b.result o) := by
  have hwritten {l : Ledger} {took : Nat → Bool} (htook : ∀ i, (o i).Allows (took i)) :=
    b.written_batch (l := l) hdata (by rwa [length_steps, ← length_statements]) htook
  have hall (hok : Except.isOk (if k < (b.statements o).length then .error (b.errorAt late o k)
      else b.result o) = true) :
      b.commits o k = true ∧ (o ((b.body o).length + 1)).isAnswer = true := by
    split at hok
    · exact nomatch hok
    · next hlt =>
      have hlast : k = (b.statements o).length := Nat.le_antisymm hk.le (Nat.not_lt.1 hlt)
      rw [isOk_result] at hok
      refine ⟨b.commits_of_isOk hok hlast, hk.answered _ ?_⟩
      rw [hlast, length_statements, if_pos hok]
      exact Nat.lt_succ_self _
  refine ⟨⟨k, hk, rfl, rfl⟩, fun hcommit => ?_, fun hok => ?_, fun l took htook => ?_,
    fun l took htook hok => ?_, fun l took htook hnot => ?_⟩
  · have hcommits := b.commit_mem_sentUpTo hdata hcommit
    rw [commits, Bool.and_eq_true, decide_eq_true_eq] at hcommits
    exact ⟨hcommits.1, fun i hi => hk.answered i (Nat.lt_of_le_of_lt hi hcommits.2)⟩
  · exact ⟨b.commit_mem_of_commits (hall hok).1, (hall hok).2⟩
  · rw [hwritten htook]
    split
    · exact .inr rfl
    · exact .inl rfl
  · obtain ⟨hcommits, hanswered⟩ := hall hok
    rw [hwritten htook, hcommits, (htook _).took hanswered]
    rfl
  · rw [hwritten htook]
    rcases hnot with hnot | ⟨code, message, hrefused⟩
    · have hcommits : b.commits o k = false :=
        Bool.eq_false_iff.2 fun h => hnot (b.commit_mem_of_commits h)
      rw [hcommits]
      rfl
    · have hfalse := htook ((b.body o).length + 1)
      rw [hrefused] at hfalse
      rw [show took ((b.body o).length + 1) = false from hfalse, Bool.and_false]
      rfl

/-- Only the last step has an error of its own. -/
theorem toError_getElem_steps (hk : k < (b.steps o).length) (fault : DatabaseFault) :
    (b.steps o)[k].toError fault =
      if k = (b.body o).length + 1 then .transactionFailed fault.message else fault.toError := by
  cases k with
  | zero => rfl
  | succ k =>
    simp only [steps, List.getElem_cons_succ, Nat.add_right_cancel_iff]
    rw [length_steps] at hk
    cases Nat.lt_or_ge k (b.body o).length with
    | inl hlt =>
      rw [List.getElem_append_left (by rwa [List.length_map]), List.getElem_map,
        if_neg (Nat.ne_of_lt hlt)]
      rfl
    | inr hge =>
      have hok : (b.verdict o).isOk = true ∧ k = (b.body o).length := by
        split at hk
        · next hok => exact ⟨hok, by omega⟩
        · omega
      obtain ⟨hok, rfl⟩ := hok
      rw [if_pos rfl]
      simp [hok, commitStep]

theorem told_ending (late : StoreError) (hk : k < (b.steps o).length) :
    ((o k).ending (b.steps o)[k].toError).told late =
      (.error (b.errorAt late o k) : Except StoreError α) := by
  rw [Outcome.ending, errorAt]
  cases (o k).fault? with
  | none => rfl
  | some fault => rw [Ending.told, toError_getElem_steps]

/-- What a batch comes to that is played outside of any transaction. -/
theorem allOrNothing_play {κ : Type} {s : Stage} (memory : Option κ) (events : List LogEvent)
    (late : StoreError) (hlink : s.link = ⟨0, true⟩) (hdata : ∀ t ∈ b.body s.outcome, t.IsData)
    {g : α → Script κ α}
    (hg : ∀ a s memory events, ∃ events',
      (g a).playOn s memory events = ⟨.result (.ok a), s, memory, events'⟩) :
    let played := (b.script >>= g).playOn s memory events
    ∃ sent, (played.stage.unwind 0).sent = s.sent ++ sent ∧
      b.AllOrNothing late s.outcome sent (played.ending.told late) := by
  have halive : s.link.alive = true := by rw [hlink]
  obtain ⟨k, hk⟩ := Outcome.exists_breaksAt s.outcome (b.statements s.outcome).length
  have hlength : (b.steps s.outcome).length = (b.statements s.outcome).length := by
    rw [length_steps, length_statements]
  have hsteps : Outcome.BreaksAt s.outcome (b.steps s.outcome).length k := by rwa [hlength]
  have hsent : ((b.upTo s k).unwind 0).sent = s.sent ++ b.sentUpTo s.outcome k := by
    rw [unwind_upTo b hlink hsteps, sentUpTo, List.append_assoc]
  have hall := b.allOrNothing late hdata hk
  refine ⟨b.sentUpTo s.outcome k, ?_⟩
  split at hall
  · next hlt =>
    rw [← hlength] at hlt
    rw [playOn_of_failed b halive hsteps hlt]
    exact ⟨hsent, by rwa [told_ending]⟩
  · next hlt =>
    obtain rfl : k = (b.steps s.outcome).length :=
      hlength ▸ Nat.le_antisymm hk.le (Nat.not_lt.1 hlt)
    rw [playOn_of_answered b halive hsteps]
    cases hresult : b.result s.outcome with
    | error e =>
      rw [hresult] at hall
      exact ⟨hsent, hall⟩
    | ok a =>
      obtain ⟨events', hplay⟩ := hg a (b.upTo s (b.steps s.outcome).length) memory events
      rw [hresult] at hall
      rw [Script.lift, Script.done_bind, hplay]
      exact ⟨hsent, hall⟩

end Batch

end DocStore
