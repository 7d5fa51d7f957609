import DocStore.Proofs.Database.Ledger
import DocStore.Proofs.Database.Nesting

/-!
# Savepoints in a transaction of the caller

What a database knows of a transaction that its caller has open: what was written in it, and what
had been written when its savepoints were set (`Journal`).

* A command of a script does one of four things to it: `Journal.carry_of_fits`.
* Behind every command that was replied to, the savepoint is underway just where the script has a
  transaction open (`Journal.Follows`), whatever the replies are: `Journal.Follows.send`.
* So a script that ends with its savepoint underway has failed, and when what it left open is
  rolled back, the caller's transaction is as it was when the savepoint was set:
  `Journal.back_of_underway`.
-/

namespace DocStore

open Sql (Statement)
open Command (setSavepoint releaseSavepoint backToSavepoint)

/-- A transaction of a caller, and the savepoints of one level in it. -/
structure Journal where
  /-- It was neither committed nor rolled back. -/
  isOpen : Bool
  /-- A statement was not carried out in it, which spoils all that was not undone since. -/
  isAborted : Bool
  writes : List Statement
  /-- What was written when the savepoints of this level were set, the latest first. -/
  marks : List (List Statement)
  /-- The latest one was neither released nor gone back to. -/
  isUnderway : Bool

namespace Journal

/-- A statement is carried out.  A savepoint that is gone back to is still there. -/
def carry (depth : Nat) (j : Journal) (s : Statement) : Journal :=
  if s = setSavepoint depth then { j with marks := j.writes :: j.marks, isUnderway := true }
  else if s = releaseSavepoint depth then { j with marks := j.marks.tail, isUnderway := false }
  else if s = backToSavepoint depth then
    { j with writes := j.marks.headD j.writes, isAborted := false, isUnderway := false }
  else if s = .plain "COMMIT" ∨ s = .plain "ROLLBACK" then { j with isOpen := false }
  else { j with writes := j.writes ++ [s] }

/-- The journal behind one statement; `took` says whether it is carried out. -/
def behind (depth : Nat) (took : Bool) (j : Journal) (s : Statement) : Journal :=
  if took then j.carry depth s else { j with isAborted := true }

/-- The journal behind statements; `took` says which of them are carried out. -/
def after (depth : Nat) : Journal → (took : Nat → Bool) → List Statement → Journal
  | j, _, [] => j
  | j, took, s :: rest => after depth (j.behind depth (took 0) s) (fun i => took (i + 1)) rest

variable {depth : Nat} {j : Journal} {took : Nat → Bool}

theorem after_concat (j : Journal) (took : Nat → Bool) (sent : List Statement) (s : Statement) :
    j.after depth took (sent ++ [s]) =
      (j.after depth took sent).behind depth (took sent.length) s := by
  induction sent generalizing j took with
  | nil => rfl
  | cons s' rest ih => exact ih _ _

/-! ## One command -/

theorem setSavepoint_ne (depth : Nat) :
    setSavepoint depth ≠ releaseSavepoint depth ∧ setSavepoint depth ≠ backToSavepoint depth := by
  constructor
  · intro h
    have hfirst := congrArg (fun s : Statement => s.sql.toList.head?) h
    simp [setSavepoint, releaseSavepoint, Statement.plain, String.toList_append] at hfirst
  · intro h
    have hfirst := congrArg (fun s : Statement => s.sql.toList.head?) h
    simp [setSavepoint, backToSavepoint, Statement.plain, String.toList_append] at hfirst

theorem releaseSavepoint_ne (depth : Nat) : releaseSavepoint depth ≠ backToSavepoint depth := by
  intro h
  have hsecond := congrArg (fun s : Statement => s.sql.toList[1]?) h
  simp [releaseSavepoint, backToSavepoint, Statement.plain, String.toList_append] at hsecond

/-- What a command of a script does inside a transaction of the caller. -/
theorem carry_of_fits (hdepth : 0 < depth) {isOpen : Bool} {c : Command} (hc : c.Fits isOpen)
    {statement : Statement} (hs : c.statement? (depth + isOpen.toNat) = some statement)
    (j : Journal) :
    j.carry depth statement =
      match c with
      | .begin => { j with marks := j.writes :: j.marks, isUnderway := true }
      | .commit => { j with marks := j.marks.tail, isUnderway := false }
      | .rollback =>
          { j with writes := j.marks.headD j.writes, isAborted := false, isUnderway := false }
      | .execute _ | .ping => { j with writes := j.writes ++ [statement] } := by
  obtain ⟨depth, rfl⟩ : ∃ n, depth = n + 1 := ⟨depth - 1, by omega⟩
  cases c with
  | begin =>
    obtain rfl : isOpen = false := hc
    obtain rfl : setSavepoint (depth + 1) = statement := Option.some.inj hs
    exact if_pos rfl
  | commit =>
    obtain rfl : isOpen = true := hc
    obtain rfl : releaseSavepoint (depth + 1) = statement := Option.some.inj hs
    rw [carry, if_neg (setSavepoint_ne _).1.symm, if_pos rfl]
  | rollback =>
    obtain rfl : isOpen = true := hc
    obtain rfl : backToSavepoint (depth + 1) = statement := Option.some.inj hs
    rw [carry, if_neg (setSavepoint_ne _).2.symm, if_neg (releaseSavepoint_ne _).symm, if_pos rfl]
  | execute s =>
    obtain rfl : s = statement := Option.some.inj hs
    have hplain : s.IsPlain := hc
    have hset : s ≠ setSavepoint (depth + 1) := fun heq =>
      nomatch hplain (depth + 1) .begin (congrArg some heq.symm)
    have hrelease : s ≠ releaseSavepoint (depth + 1) := fun heq =>
      nomatch hplain (depth + 2) .commit (congrArg some heq.symm)
    have hback : s ≠ backToSavepoint (depth + 1) := fun heq =>
      nomatch hplain (depth + 2) .rollback (congrArg some heq.symm)
    have hcommit : s ≠ .plain "COMMIT" := fun heq =>
      nomatch hplain 0 .commit (congrArg some heq.symm)
    have hrollback : s ≠ .plain "ROLLBACK" := fun heq =>
      nomatch hplain 0 .rollback (congrArg some heq.symm)
    rw [carry, if_neg hset, if_neg hrelease, if_neg hback,
      if_neg fun h => h.elim hcommit hrollback]
  | ping => exact nomatch hs

/-- The caller's transaction is open, and nothing was taken from what was written in it. -/
structure Extends (j now : Journal) : Prop where
  isOpen : now.isOpen = true
  writes : j.writes <+: now.writes
  mark : now.isUnderway = true → ∃ mark rest, now.marks = mark :: rest ∧ j.writes <+: mark

variable {now : Journal} {isOpen : Bool} {c : Command} {statement : Statement} {s : Stage}

/-- Only a savepoint that is underway is gone back to, and it was set since. -/
theorem Extends.behind (h : j.Extends now) (hdepth : 0 < depth) (hc : c.Fits isOpen)
    (hs : c.statement? (depth + isOpen.toNat) = some statement) (hunderway : now.isUnderway = isOpen)
    (took : Bool) :
    j.Extends (now.behind depth took statement) ∧
      (now.behind depth took statement).isUnderway = if took then c.opens isOpen else isOpen := by
  cases took with
  | false => exact ⟨⟨h.isOpen, h.writes, h.mark⟩, hunderway⟩
  | true =>
    have hcarry : now.behind depth true statement = _ := carry_of_fits hdepth hc hs now
    rw [hcarry]
    cases c with
    | begin => exact ⟨⟨h.isOpen, h.writes, fun _ => ⟨_, _, rfl, h.writes⟩⟩, rfl⟩
    | commit => exact ⟨⟨h.isOpen, h.writes, nofun⟩, rfl⟩
    | rollback =>
      obtain ⟨mark, rest, hmarks, hprefix⟩ := h.mark (hunderway.trans hc)
      refine ⟨⟨h.isOpen, ?_, nofun⟩, rfl⟩
      dsimp only
      rw [hmarks]
      exact hprefix
    | execute s =>
      exact ⟨⟨h.isOpen, h.writes.trans (List.prefix_append _ _), h.mark⟩, hunderway⟩
    | ping => exact nomatch hs

/-! ## A script -/

/-- What was sent since the journal was `j` has left the caller's transaction as it was, but for
what was added to it. -/
structure Stands (j : Journal) (depth : Nat) (took : Nat → Bool) (s : Stage) : Prop where
  keeps : j.Extends (j.after depth took s.sent)
  allowed : ∀ i, (s.outcome i).Allows (took (s.sent.length + i))
  link : s.link.alive = true → (j.after depth took s.sent).isUnderway = true →
    s.link.depth = depth + 1

/-- The savepoint is underway where the script has a transaction open. -/
structure Follows (j : Journal) (depth : Nat) (took : Nat → Bool) (isOpen : Bool) (s : Stage) :
    Prop where
  keeps : j.Extends (j.after depth took s.sent)
  allowed : ∀ i, (s.outcome i).Allows (took (s.sent.length + i))
  link : s.link.alive = true →
    s.link.depth = depth + isOpen.toNat ∧ (j.after depth took s.sent).isUnderway = isOpen

theorem Follows.stands (h : j.Follows depth took isOpen s) : j.Stands depth took s where
  keeps := h.keeps
  allowed := h.allowed
  link := fun halive hunderway => by
    obtain ⟨hlink, hsame⟩ := h.link halive
    rw [hlink, hsame.symm.trans hunderway]
    rfl

theorem allows_behind (h : ∀ i, (s.outcome i).Allows (took (s.sent.length + i))) (c : Command)
    (statement : Statement) (i : Nat) : ((s.behind c statement).outcome i).Allows
      (took ((s.behind c statement).sent.length + i)) := by
  have hsent : (s.behind c statement).sent = s.sent ++ [statement] := rfl
  rw [Stage.outcome_behind, hsent, List.length_append, List.length_singleton, Nat.add_assoc,
    Nat.add_comm 1 i]
  exact h (i + 1)

/-- Whatever happens to a statement, it is followed. -/
theorem Follows.behind (h : j.Follows depth took isOpen s) (hdepth : 0 < depth)
    (hc : c.Fits isOpen) (halive : s.link.alive = true)
    (hs : c.statement? (depth + isOpen.toNat) = some statement) :
    match (s.outcome 0).reply? with
    | some (.ok _) => j.Follows depth took (c.opens isOpen) (s.behind c statement)
    | some (.error _) => j.Follows depth took isOpen (s.behind c statement)
    | none => j.Stands depth took (s.behind c statement) := by
  obtain ⟨hlink, hunderway⟩ := h.link halive
  obtain ⟨hkeeps, hopens⟩ := h.keeps.behind hdepth hc hs hunderway (took s.sent.length)
  have hsent : (s.behind c statement).sent = s.sent ++ [statement] := rfl
  rw [← after_concat, ← hsent] at hkeeps hopens
  have hbefore : s.link = ⟨depth + isOpen.toNat, true⟩ := by rw [← hlink, ← halive]
  have hnow : (s.behind c statement).link =
      (s.outcome 0).linkAfter c ⟨depth + isOpen.toNat, true⟩ :=
    congrArg ((s.outcome 0).linkAfter c) hbefore
  have hallowed := allows_behind h.allowed c statement
  have hfirst := h.allowed 0
  rw [Nat.add_zero] at hfirst
  cases ho : s.outcome 0 with
  | answer a =>
    rw [ho] at hfirst
    have htook : took s.sent.length = true := hfirst
    rw [htook] at hopens
    refine ⟨hkeeps, hallowed, fun _ => ⟨?_, hopens⟩⟩
    rw [hnow, ho]
    exact hc.depthAfter depth
  | refuse code message =>
    rw [ho] at hfirst
    have htook : took s.sent.length = false := hfirst
    rw [htook] at hopens
    refine ⟨hkeeps, hallowed, fun _ => ⟨?_, hopens⟩⟩
    rw [hnow, ho]
    rfl
  | lost =>
    refine ⟨hkeeps, hallowed, fun halive' => ?_⟩
    rw [hnow, ho] at halive'
    exact nomatch halive'
  | hang =>
    -- Nobody knows whether it was carried out.
    refine ⟨hkeeps, hallowed, fun _ hafterwards => ?_⟩
    rw [hopens] at hafterwards
    rw [hnow, ho]
    cases c with
    | begin =>
      obtain rfl : isOpen = false := hc
      rfl
    | commit =>
      obtain rfl : isOpen = true := hc
      rfl
    | rollback =>
      obtain rfl : isOpen = true := hc
      rfl
    | execute s =>
      obtain rfl : isOpen = true := (ite_self (c := took _) isOpen).symm.trans hafterwards
      rfl
    | ping => exact nomatch hs

/-- Whatever happens to a command, it is followed. -/
theorem Follows.send (h : j.Follows depth took isOpen s) (hdepth : 0 < depth)
    (hc : c.Fits isOpen) :
    match (s.send c).1 with
    | some (.ok _) => j.Follows depth took (c.opens isOpen) (s.send c).2
    | some (.error _) => j.Follows depth took isOpen (s.send c).2
    | none => j.Stands depth took (s.send c).2 := by
  cases halive : s.link.alive with
  | false =>
    rw [Stage.send_of_dead halive]
    exact h
  | true =>
    have hlink := (h.link halive).1
    cases hs : c.statement? (depth + isOpen.toNat) with
    | none =>
      obtain rfl := Command.eq_ping_of_statement?_eq_none hs
      rw [Stage.send_of_none halive rfl]
      exact h
    | some statement =>
      rw [Stage.send_eq halive (hlink ▸ hs)]
      exact h.behind hdepth hc halive hs

variable {κ α : Type} {x : Script κ α} {after : Bool}

/-- A script is followed to its end. -/
theorem Follows.playOn (h : j.Follows depth took isOpen s) (hdepth : 0 < depth)
    (hx : x.Brackets after isOpen) (memory : Option κ) (events : List LogEvent) :
    let played := x.playOn s memory events
    j.Stands depth took played.stage ∧
      ∀ a, played.ending = .result (.ok a) → j.Follows depth took after played.stage := by
  induction x generalizing isOpen s memory events with
  | done a =>
    obtain rfl : isOpen = after := hx
    exact ⟨h.stands, fun _ _ => h⟩
  | fail e => exact ⟨h.stands, nofun⟩
  | ask c next ih =>
    obtain ⟨hc, hanswered, hfailed⟩ := hx
    have hbehind := h.send hdepth hc
    rcases hs : s.send c with ⟨_ | fault | a, s₁⟩
    · rw [hs] at hbehind
      rw [Script.playOn_ask_of_none hs]
      exact ⟨hbehind, nofun⟩
    · rw [hs] at hbehind
      rw [Script.playOn_ask hs]
      exact ih _ hbehind (hfailed fault) memory events
    · rw [hs] at hbehind
      rw [Script.playOn_ask hs]
      exact ih _ hbehind (hanswered a) memory events
  | log e next ih => exact ih h hx _ _
  | inspect next ih => exact ih _ h (hx memory) _ _
  | remember k next ih => exact ih h hx _ _

/-- A script that ends with the savepoint underway has failed.  It goes back to the savepoint, and
the caller's transaction is as it was when that was set. -/
theorem back_of_underway (hdepth : 0 < depth) (hx : x.Brackets false false)
    (h : j.Follows depth took false s) (memory : Option κ) (events : List LogEvent) :
    let played := x.playOn s memory events
    let reached := j.after depth took played.stage.sent
    reached.isUnderway = true → played.stage.link.alive = true →
      (played.stage.outcome 0).isAnswer = true →
      let sent := played.stage.sent ++ [backToSavepoint depth]
      let now := j.after depth took sent
      (∀ a, played.ending ≠ .result (.ok a)) ∧
        (played.stage.unwind depth).sent = sent ∧
        (played.stage.unwind depth).link = ⟨depth, true⟩ ∧
        now.isOpen = true ∧ now.isAborted = false ∧ reached.marks.head? = some now.writes ∧
        j.writes <+: now.writes := by
  intro played reached hunderway halive hanswered sent now
  obtain ⟨hstands, hfollows⟩ := h.playOn hdepth hx memory events
  have hlink : played.stage.link = ⟨depth + 1, true⟩ := by
    rw [← hstands.link halive hunderway, ← halive]
  have hs : Command.rollback.statement? (depth + 1) = some (backToSavepoint depth) := by
    obtain ⟨depth, rfl⟩ : ∃ n, depth = n + 1 := ⟨depth - 1, by omega⟩
    rfl
  obtain ⟨mark, rest, hmarks, hprefix⟩ := hstands.keeps.mark hunderway
  have htook : took played.stage.sent.length = true := (hstands.allowed 0).took hanswered
  have hnow : now = { reached with
      writes := reached.marks.headD reached.writes, isAborted := false, isUnderway := false } := by
    rw [show now = _ from after_concat _ _ _ _, htook]
    exact @carry_of_fits depth hdepth true .rollback rfl _ hs _
  have hbehind := Stage.unwind_eq_of_open hlink hs
  refine ⟨fun a hending => ?_, ?_, ?_, ?_⟩
  · have hclosed := ((hfollows a hending).link halive).2
    exact nomatch hclosed.symm.trans hunderway
  · rw [hbehind]
    rfl
  · rw [hbehind, Stage.link_behind halive hanswered]
  · rw [hnow]
    dsimp only
    rw [show reached.marks = _ from hmarks]
    exact ⟨hstands.keeps.isOpen, rfl, rfl, hprefix⟩

end Journal

end DocStore
