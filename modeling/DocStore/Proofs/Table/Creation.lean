import DocStore.Proofs.Database.Passage
import DocStore.Proofs.Document.Batches
import DocStore.Proofs.Table.Evidence

/-!
# The course of seeing to a table

What is sent while a table is seen to, and what comes of it, is laid down by how the statements
fare (`DocumentTable.Course`): the columns are asked for, and if there are none the table is made
in one transaction, with its documents to start with.

* Making the table is a list of steps, of which the first that fails is the last one, unless
  another session was faster: `playOn_create_of_answered`, `playOn_create_of_failed` and
  `playOn_create_of_race`.
* A transaction that fails is rolled back: `sent_unwind_after`.
* A layout that was found is kept, but on a connection of the caller only if the caller has
  written nothing: `of_hold`.
* So seeing to a table takes one of these courses: `DocumentTable.exists_course`.
-/

namespace DocStore

open Sql (Statement)
open Script (Step inOrder)

namespace Outcome

/-- What is read of an answer, or the error that comes instead: none if there is no answer in
time. -/
def read {β : Type} (read : Answer → Except DatabaseFault β) (o : Outcome) :
    Except (Option StoreError) β :=
  match o with
  | .answer a => (read a).mapError fun fault => some fault.toError
  | o => .error (o.fault?.map DatabaseFault.toError)

/-- Whether a transaction is open behind its `k`-th command, if that is not answered. -/
def leavesOpen (k : Nat) : Outcome → Bool
  | .refuse _ _ => 0 < k
  | .hang => true
  | .answer _ | .lost => false

/-- Another session was first to make what this one wanted to make. -/
inductive IsRace : Outcome → Prop where
  | mk (code message : String) (h : code = "42P07" ∨ code = "23505") :
      IsRace (.refuse (some code) message)

theorem IsRace.isAnswer_eq_false {o : Outcome} (h : o.IsRace) : o.isAnswer = false := by
  cases h
  rfl

end Outcome

/-- The ending of a script that fails, or is cut off. -/
def Ending.failing {α : Type} : Option StoreError → Ending α
  | some e => .result (.error e)
  | none => .cutOff

theorem Outcome.ending_eq_failing {α : Type} (toError : DatabaseFault → StoreError) (o : Outcome) :
    (o.ending toError : Ending α) = .failing (o.fault?.map toError) := by
  cases o <;> rfl

namespace DocumentTable

/-- The names of columns in an answer. -/
def readColumns (a : Answer) : Except DatabaseFault (List String) :=
  a.readAll fun row => Cell.atPlace Cell.readText row 0

variable (t : DocumentTable)

/-- The documents that the table starts with. -/
def seeds : Except StoreError (List Entry) := t.seed.getD (.ok [])

/-- The steps in which the table is made.  Without the documents to start with there is nothing
to commit. -/
def creation : List Step :=
  ⟨.begin, DatabaseFault.toError⟩ :: .execute t.createStatement ::
    match t.seeds with
    | .ok entries => (entries.map (t.upsertStatement .full)).map .execute ++ [Batch.commitStep]
    | .error _ => []

/-- The statements of these steps, where `depth` transactions are open. -/
def creationStatements (depth : Nat) : List Statement :=
  Command.statements depth (t.creation.map Step.command)

/-- Goes back behind the beginning of the transaction. -/
def rollback (depth : Nat) : List Statement := Command.statements (depth + 1) [.rollback]

/-- What seeing to the table comes to. -/
inductive Verdict where
  /-- The operation goes on with this layout. -/
  | goesOn (layout : TableLayout) (isKept : Bool)
  /-- The operation fails with this error, or is cut off. -/
  | ends (e : Option StoreError)

/-- Whether the layout is kept.  On a connection of the caller it is if the table was not made now
and the caller's transaction has written nothing, which is asked for. -/
def settle (pinned created : Bool) (layout : TableLayout) (o : Outcome) :
    List Statement × Verdict :=
  if pinned && !created then
    ([unwrittenStatement],
      match o.read readUnwritten with
      | .ok unwritten => .goesOn layout unwritten
      | .error e => .ends e)
  else ([], .goesOn layout !pinned)

/-- What is sent while the table is seen to, and what comes of it, if nothing is remembered and
the statements fare like this. -/
inductive Course (pinned : Bool) (depth : Nat) (o : Nat → Outcome) :
    List Statement → Verdict → Prop where
  /-- The columns are not to be had. -/
  | unread {e : Option StoreError} (hnames : (o 0).read readColumns = .error e) :
      Course pinned depth o [t.columnsStatement] (.ends e)
  /-- There are columns. -/
  | found {names : List String} {layout : TableLayout}
      (hnames : (o 0).read readColumns = .ok names)
      (hlayout : TableLayout.ofColumns? names = some layout) :
      Course pinned depth o (t.columnsStatement :: (settle pinned false layout (o 1)).1)
        (settle pinned false layout (o 1)).2
  /-- The table is made. -/
  | made {entries : List Entry} (hnames : (o 0).read readColumns = .ok [])
      (hseeds : t.seeds = .ok entries)
      (hanswered : ∀ i < t.creation.length, (o (i + 1)).isAnswer = true) :
      Course pinned depth o (t.columnsStatement :: t.creationStatements depth)
        (.goesOn .full !pinned)
  /-- There are no documents to start with. -/
  | unseeded {e : StoreError} (hnames : (o 0).read readColumns = .ok [])
      (hseeds : t.seeds = .error e)
      (hanswered : ∀ i < t.creation.length, (o (i + 1)).isAnswer = true) :
      Course pinned depth o
        (t.columnsStatement :: (t.creationStatements depth ++ rollback depth)) (.ends (some e))
  /-- Another session was faster. -/
  | raced (hnames : (o 0).read readColumns = .ok []) (hbegin : (o 1).isAnswer = true)
      (hrace : (o 2).IsRace) (hrollback : (o 3).isAnswer = true) :
      Course pinned depth o
        (t.columnsStatement :: ((t.creationStatements depth).take 2 ++ rollback depth ++
          (settle pinned false .full (o 4)).1))
        (settle pinned false .full (o 4)).2
  /-- Another session was faster, and the transaction cannot be rolled back. -/
  | stranded (hnames : (o 0).read readColumns = .ok []) (hbegin : (o 1).isAnswer = true)
      (hrace : (o 2).IsRace) (hrollback : (o 3).isAnswer = false) :
      Course pinned depth o
        (t.columnsStatement :: ((t.creationStatements depth).take 2 ++ rollback depth ++
          if (o 3).leavesOpen 2 then rollback depth else []))
        (.ends ((o 3).fault?.map DatabaseFault.toError))
  /-- A step fails in another way. -/
  | broken {k : Nat} (hnames : (o 0).read readColumns = .ok [])
      (hk : k < t.creation.length)
      (hbreaks : Outcome.BreaksAt (fun i => o (i + 1)) t.creation.length k)
      (hrace : k = 1 → ¬ (o 2).IsRace) :
      Course pinned depth o
        (t.columnsStatement :: ((t.creationStatements depth).take (k + 1) ++
          if (o (k + 1)).leavesOpen k then rollback depth else []))
        (.ends ((o (k + 1)).fault?.map t.creation[k].toError))

/-- A play that has come to this. -/
def Verdict.Of (s : Stage) (sent : List Statement) (p : Played TableLayout TableLayout) :
    Verdict → Prop
  | .goesOn layout isKept =>
      p.ending = .result (.ok layout) ∧ p.stage = s.past s.link sent ∧
        p.memory = if isKept then some layout else none
  | .ends e =>
      p.ending = .failing e ∧ (p.stage.unwind s.link.depth).sent = s.sent ++ sent ∧
        p.memory = none

variable {t} {s : Stage} {pinned : Bool}

/-- Behind statements that were answered. -/
theorem Verdict.Of.of_past {first second : List Statement} {verdict : Verdict}
    {p : Played TableLayout TableLayout} (h : verdict.Of (s.past s.link first) second p) :
    verdict.Of s (first ++ second) p := by
  cases verdict with
  | goesOn layout isKept => simpa [Verdict.Of] using h
  | ends e => simpa [Verdict.Of] using h

/-! ## Single statements -/

theorem unwind_behind_execute (statement : Statement) :
    ((s.behind (.execute statement) statement).unwind s.link.depth).sent =
      s.sent ++ [statement] := by
  rw [Stage.unwind_of_closed]
  · rfl
  · rw [Stage.behind]
    cases s.outcome 0 <;> simp [Outcome.linkAfter, Command.depthAfter]

/-- A statement whose answer is read. -/
theorem playOn_read {α β : Type} (hlink : s.link.alive = true) (statement : Statement)
    (read : Answer → Except DatabaseFault β) (f : β → Work α) (memory : Option TableLayout)
    (events : List LogEvent) :
    (Script.send (.execute statement) >>= fun a =>
        Script.lift ((read a).mapError DatabaseFault.toError) >>= f).playOn s memory events =
      match (s.outcome 0).read read with
      | .ok b => (f b).playOn (s.past s.link [statement]) memory events
      | .error e => ⟨.failing e, s.behind (.execute statement) statement, memory, events⟩ := by
  rw [Script.send, Script.playOn_sendOr _ hlink rfl, Stage.behind_eq_past]
  cases ho : s.outcome 0 with
  | answer a =>
    simp only [Outcome.read]
    cases read a with
    | ok b => rfl
    | error fault => rfl
  | _ => rfl

/-! ## Keeping the layout -/

/-- What is done with a layout that was found or made. -/
def hold (pinned : Bool) (found : TableLayout × Bool) : Work TableLayout :=
  if !pinned then do
    Script.keep found.1
    return found.1
  else do
    if !found.2 then
      if ← isUnwritten then Script.keep found.1
    return (← Script.remembered).getD found.1

/-- On a connection of the caller, where the table was found. -/
theorem hold_pinned_found (layout : TableLayout) :
    hold true (layout, false) = Script.send (.execute unwrittenStatement) >>= fun a =>
      Script.lift ((readUnwritten a).mapError DatabaseFault.toError) >>= fun unwritten =>
        if unwritten then .remember layout (.inspect fun known => .done (known.getD layout))
        else .inspect fun known => .done (known.getD layout) := by
  refine congrArg (Script.ask _) (funext fun r => ?_)
  cases r with
  | error fault => rfl
  | ok a =>
    dsimp only
    refine congrArg (Script.bind (Script.lift ((readUnwritten a).mapError DatabaseFault.toError)))
      (funext fun unwritten => ?_)
    cases unwritten <;> rfl

theorem of_hold (pinned : Bool) (hlink : s.link.alive = true) (created : Bool)
    (layout : TableLayout)
    (events : List LogEvent) :
    let rest := settle pinned created layout (s.outcome 0)
    rest.2.Of s rest.1 ((hold pinned (layout, created)).playOn s none events) := by
  intro rest
  cases pinned with
  | false => exact ⟨rfl, (s.past_nil).symm, rfl⟩
  | true =>
    cases created with
    | true => exact ⟨rfl, (s.past_nil).symm, rfl⟩
    | false =>
      simp only [rest, settle, Bool.not_false, Bool.and_self, if_true]
      rw [hold_pinned_found, playOn_read hlink unwrittenStatement readUnwritten]
      cases (s.outcome 0).read readUnwritten with
      | error e => exact ⟨rfl, unwind_behind_execute _, rfl⟩
      | ok unwritten => cases unwritten <;> exact ⟨rfl, rfl, rfl⟩

/-! ## Making the table -/

theorem isRace_iff {code : Option String} {message : String} :
    (Outcome.refuse code message).IsRace ↔
      (DatabaseFault.server code message).toError.isAlreadyExists = true := by
  constructor
  · rintro ⟨code, message, rfl | rfl⟩ <;> rfl
  · intro h
    cases code with
    | none => exact nomatch h
    | some code =>
      refine ⟨code, message, ?_⟩
      by_cases hempty : code = ""
      · rw [hempty] at h
        exact nomatch h
      · simpa [DatabaseFault.toError, StoreError.isAlreadyExists, StoreError.sqlState?, hempty,
          StoreError.duplicateTable, StoreError.uniqueViolation] using h

/-- Making the table, but for what is reported. -/
theorem silent_create (t : DocumentTable) :
    t.create.silent = Script.send .begin >>= fun _ =>
      .ask (.execute t.createStatement) fun
        | .ok _ => Script.lift t.seeds >>= fun entries =>
            inOrder ((entries.map (t.upsertStatement .full)).map .execute ++ [Batch.commitStep]) >>=
              fun _ => .done true
        | .error fault =>
            if fault.toError.isAlreadyExists then Script.send .rollback >>= fun _ => .done false
            else .fail fault.toError := by
  have hsow : t.sow.silent = Script.lift t.seeds >>= fun entries =>
      inOrder ((entries.map (t.upsertStatement .full)).map .execute) := by
    rw [sow, seeds]
    cases t.seed with
    | none => rfl
    | some seed =>
      cases seed with
      | error e => rfl
      | ok entries =>
        simp only [Option.getD_some, Script.lift, Script.done_bind, Script.silent_bind,
          BatchCall.upsertAll_eq, Script.silent_inOrder]
        exact Script.bind_done _
  rw [create, Script.silent_bind, Script.send, Script.silent_sendOr]
  refine congrArg (Script.bind _) (funext fun _ => congrArg (Script.ask _) (funext fun r => ?_))
  cases r with
  | ok a =>
    dsimp only
    rw [Script.silent_bind, hsow, Script.bind_assoc]
    refine congrArg (Script.bind _) (funext fun entries => ?_)
    rw [Script.inOrder_append, Script.bind_assoc]
    refine congrArg (Script.bind _) (funext fun _ => ?_)
    rw [Script.silent_bind, Script.commit, Script.silent_bind, Script.silent_sendOr]
    simp only [inOrder, Script.bind_assoc]
    rfl
  | error fault =>
    dsimp only
    split
    · rw [Script.silent_bind, Script.send, Script.silent_sendOr]
      rfl
    · rfl

variable (t)

/-- Unless another session is faster, the table is made step by step. -/
theorem playOn_create (hlink : s.link.alive = true)
    (hrace : (s.outcome 0).isAnswer = true → ¬ (s.outcome 1).IsRace) (events : List LogEvent) :
    t.create.silent.playOn s none events =
      (inOrder t.creation >>= fun _ => Script.lift (t.seeds.map fun _ => true)).playOn s none
        events := by
  rw [silent_create, creation, inOrder, inOrder, Script.send, Script.bind_assoc,
    Script.playOn_sendOr _ hlink rfl, Script.playOn_sendOr _ hlink rfl]
  cases hbegin : s.outcome 0 with
  | answer a =>
    have halive {statement : Statement} : (s.behind .begin statement).link.alive = true := by
      rw [Stage.link_behind hlink (by rw [hbegin]; rfl)]
    dsimp only
    rw [Script.bind_assoc, Script.playOn_sendOr _ halive rfl, Script.playOn,
      Stage.send_eq halive rfl, Stage.outcome_behind]
    cases hcreate : s.outcome 1 with
    | answer a' =>
      simp only [Outcome.reply?]
      cases t.seeds with
      | error e => rfl
      | ok entries => rfl
    | refuse code message =>
      have hexists : (DatabaseFault.server code message).toError.isAlreadyExists = false := by
        rw [← Bool.not_eq_true, ← isRace_iff, ← hcreate]
        exact hrace (by rw [hbegin]; rfl)
      simp only [Outcome.reply?, hexists]
      rfl
    | lost => rfl
    | hang => rfl
  | _ => rfl

/-- The transaction in which the table is made. -/
def birth : Batch Unit :=
  .update t.createStatement fun _ =>
    t.seeds.map fun entries => (entries.map (t.upsertStatement .full), ())

theorem creation_eq (o : Nat → Outcome) : t.creation = t.birth.steps o := by
  have hverdict : t.birth.verdict o =
      t.seeds.map fun entries => (entries.map (t.upsertStatement .full), ()) := rfl
  rw [creation, Batch.steps, Batch.body, hverdict]
  cases t.seeds with
  | error e => rfl
  | ok entries => rfl

theorem isSent_of_mem_creation {step : Step} (h : step ∈ t.creation) : step.command.IsSent := by
  rw [t.creation_eq fun _ => .lost] at h
  exact t.birth.isSent_of_mem_steps h

theorem isSent_of_mem_commands {c : Command} (h : c ∈ t.creation.map Step.command) : c.IsSent := by
  obtain ⟨step, hstep, rfl⟩ := List.mem_map.1 h
  exact t.isSent_of_mem_creation hstep

/-- The transaction is rolled back if it is open, and nothing else is done. -/
theorem sent_unwind_past {depth : Nat} {link : Link} (isOpen : Bool) (sent : List Statement)
    (hopen : isOpen = true → link = ⟨depth + 1, true⟩)
    (hclosed : isOpen = false → link.alive = true → link.depth = depth) :
    ((s.past link sent).unwind depth).sent =
      s.sent ++ (sent ++ if isOpen then rollback depth else []) := by
  cases isOpen with
  | true =>
    rw [(Stage.unwind_of_open (hopen rfl)).1, Stage.sent_past, List.append_assoc]
    rfl
  | false => rw [Stage.unwind_of_closed (hclosed rfl), Stage.sent_past]; simp

theorem getElem_creation {k : Nat} (hk : k < t.creation.length) :
    t.creation[k].command = .begin ↔ k = 0 := by
  have hsteps := t.creation_eq fun _ => .lost
  simp only [hsteps] at hk ⊢
  exact t.birth.command_getElem_steps hk

/-- A step that fails leaves the transaction open, or does not. -/
theorem sent_unwind_after {k : Nat} (hlink : s.link.alive = true) (hk : k < t.creation.length)
    (hanswered : ∀ i < k, (s.outcome i).isAnswer = true)
    (hfailed : (s.outcome k).isAnswer = false) :
    ((s.after ((t.creation.take (k + 1)).map Step.command)).unwind s.link.depth).sent =
      s.sent ++ ((t.creationStatements s.link.depth).take (k + 1) ++
        if (s.outcome k).leavesOpen k then rollback s.link.depth else []) := by
  have hk' : k < (t.creation.map Step.command).length := by simpa using hk
  have hdepth : Command.depthBehind s.link.depth ((t.creation.map Step.command).take k) =
      if k = 0 then s.link.depth else s.link.depth + 1 := by
    have hsteps := t.creation_eq fun _ => .lost
    rw [← List.map_take]
    rw [hsteps] at hk ⊢
    exact t.birth.depthBehind_take s.link.depth hk
  have hbegin : (t.creation.map Step.command)[k] = .begin ↔ k = 0 := by
    rw [List.getElem_map]
    exact t.getElem_creation hk
  rw [List.map_take, Stage.after_take_eq_past hlink (fun _ => t.isSent_of_mem_commands) hk'
    hanswered, hdepth, Command.statements_take fun _ => t.isSent_of_mem_commands]
  refine sent_unwind_past ((s.outcome k).leavesOpen k) _ (fun hopen => ?_)
    fun hclosed => ?_
  · cases ho : s.outcome k with
    | answer a => rw [ho] at hfailed; cases hfailed
    | refuse code message =>
      rw [ho] at hopen
      have hk0 : k ≠ 0 := Nat.ne_of_gt (of_decide_eq_true hopen)
      simp [Outcome.linkAfter, hk0]
    | lost => rw [ho] at hopen; cases hopen
    | hang =>
      simp only [Outcome.linkAfter, hbegin]
      by_cases hk0 : k = 0 <;> simp [hk0]
  · cases ho : s.outcome k with
    | answer a => rw [ho] at hfailed; cases hfailed
    | refuse code message =>
      rw [ho] at hclosed
      have hk0 : k = 0 := by simpa [Outcome.leavesOpen] using hclosed
      simp [Outcome.linkAfter, hk0]
    | lost => rintro ⟨⟩
    | hang => rw [ho] at hclosed; cases hclosed

theorem two_le_length_creation : 2 ≤ t.creation.length := by
  simp [creation]

theorem take_two_creationStatements (depth : Nat) :
    (t.creationStatements depth).take 2 =
      Command.statements depth [.begin, .execute t.createStatement] := by
  rw [creationStatements, ← Command.statements_take fun _ => t.isSent_of_mem_commands]
  rfl

/-- Every step is answered. -/
theorem playOn_create_of_answered (hlink : s.link.alive = true)
    (hanswered : ∀ i < t.creation.length, (s.outcome i).isAnswer = true) (events : List LogEvent) :
    t.create.silent.playOn s none events =
      (Script.lift (t.seeds.map fun _ => true)).playOn
        (s.past ⟨if t.seeds.isOk then s.link.depth else s.link.depth + 1, true⟩
          (t.creationStatements s.link.depth)) none events := by
  have hnorace : ¬ (s.outcome 1).IsRace := fun hrace =>
    nomatch hrace.isAnswer_eq_false.symm.trans (hanswered 1 t.two_le_length_creation)
  have hdepth : Command.depthBehind s.link.depth (t.creation.map Step.command) =
      if t.seeds.isOk then s.link.depth else s.link.depth + 1 := by
    have hisOk : (t.birth.verdict fun _ => .lost).isOk = t.seeds.isOk := by
      change (t.seeds.map _).isOk = _
      cases t.seeds <;> rfl
    rw [t.creation_eq fun _ => .lost, t.birth.depthBehind_steps, hisOk]
  rw [t.playOn_create hlink fun _ => hnorace,
    Script.playOn_inOrder_of_answered hlink (fun _ => t.isSent_of_mem_creation) hanswered,
    Stage.after_eq_past hlink (fun _ => t.isSent_of_mem_commands) (by simpa using hanswered),
    hdepth]
  rfl

/-- A step fails, and not because another session was faster. -/
theorem playOn_create_of_failed {k : Nat} (hlink : s.link.alive = true)
    (hk : k < t.creation.length) (hbreaks : Outcome.BreaksAt s.outcome t.creation.length k)
    (hrace : k = 1 → ¬ (s.outcome 1).IsRace) (events : List LogEvent) :
    t.create.silent.playOn s none events =
      ⟨.failing ((s.outcome k).fault?.map t.creation[k].toError),
        s.after ((t.creation.take (k + 1)).map Step.command), none, events⟩ := by
  have hnorace (hbegin : (s.outcome 0).isAnswer = true) : ¬ (s.outcome 1).IsRace := by
    rcases Nat.lt_trichotomy k 1 with hlt | heq | hgt
    · obtain rfl : k = 0 := by omega
      exact nomatch hbegin.symm.trans (hbreaks.failed hk)
    · exact hrace heq
    · exact fun h => nomatch h.isAnswer_eq_false.symm.trans (hbreaks.answered 1 hgt)
  rw [t.playOn_create hlink hnorace, Script.playOn_inOrder_of_failed hlink
    (fun _ => t.isSent_of_mem_creation) hk hbreaks.answered (hbreaks.failed hk),
    Outcome.ending_eq_failing]

/-- Another session is faster. -/
theorem playOn_create_of_race (hlink : s.link.alive = true)
    (hbegin : (s.outcome 0).isAnswer = true) (hrace : (s.outcome 1).IsRace)
    (events : List LogEvent) :
    t.create.silent.playOn s none events =
      ⟨if (s.outcome 2).isAnswer then .result (.ok false)
        else .failing ((s.outcome 2).fault?.map DatabaseFault.toError),
        s.past ((s.outcome 2).linkAfter .rollback ⟨s.link.depth + 1, true⟩)
          ((t.creationStatements s.link.depth).take 2 ++ rollback s.link.depth), none, events⟩ := by
  generalize hcreate : s.outcome 1 = o at hrace
  obtain ⟨code, message, hcode⟩ := hrace
  have hexists : (DatabaseFault.server (some code) message).toError.isAlreadyExists = true :=
    isRace_iff.1 ⟨code, message, hcode⟩
  obtain ⟨begun, hbegun⟩ : ∃ begun, Command.begin.statement? s.link.depth = some begun := ⟨_, rfl⟩
  have hsent : (t.creationStatements s.link.depth).take 2 = [begun, t.createStatement] := by
    rw [take_two_creationStatements, Command.statements, hbegun]
    rfl
  have hfirst : s.behind .begin begun = s.past ⟨s.link.depth + 1, true⟩ [begun] := by
    rw [Stage.behind_eq_past]
    exact congrArg (s.past · [begun])
      (Stage.link_behind hlink hbegin : (s.behind .begin begun).link = _)
  have hsecond : (s.past ⟨s.link.depth + 1, true⟩ [begun]).outcome 0 =
      .refuse (some code) message := by
    rw [Stage.outcome_past, ← hcreate]
    rfl
  have hbehind : (s.past ⟨s.link.depth + 1, true⟩ [begun]).behind (.execute t.createStatement)
      t.createStatement = s.past ⟨s.link.depth + 1, true⟩ [begun, t.createStatement] := by
    rw [Stage.behind_eq_past, hsecond, Stage.past_past]
    rfl
  have hthird (link : Link) : (s.past link [begun, t.createStatement]).outcome 0 = s.outcome 2 := by
    rw [Stage.outcome_past]
    rfl
  rw [silent_create, Script.send, Script.playOn_sendOr _ hlink hbegun, hfirst]
  cases ho : s.outcome 0 with
  | answer a =>
    dsimp only
    rw [Script.playOn, Stage.send_eq rfl rfl, hsecond, hbehind]
    simp only [Outcome.reply?, hexists, if_true]
    rw [Script.send, Script.playOn_sendOr _ rfl rfl, hthird, Stage.behind_eq_past, hthird,
      Stage.past_past, hsent]
    cases s.outcome 2 <;> rfl
  | _ => rw [ho] at hbegin; cases hbegin

/-! ## Seeing to the table -/

/-- What is done when the names of the columns are known. -/
def provide (names : List String) : Work (TableLayout × Bool) := do
  match TableLayout.ofColumns? names with
  | some layout =>
      if !layout.version then
        Script.note .debug ("Table " ++ t.quoted ++ " has no version column; defaulting to 1")
      return (layout, false)
  | none =>
      let created ← t.create
      return (.full, created)

/-- The columns are asked for first. -/
theorem provision_bind {α : Type} (f : TableLayout × Bool → Work α) :
    t.provision >>= f =
      Script.send (.execute t.columnsStatement) >>= fun a =>
        Script.lift ((readColumns a).mapError DatabaseFault.toError) >>= fun names =>
          t.provide names >>= f := by
  simp only [provision, columns, Script.bind_assoc]
  rfl

theorem playOn_provision {α : Type} (hlink : s.link.alive = true)
    (f : TableLayout × Bool → Work α) (events : List LogEvent) :
    (t.provision >>= f).playOn s none events =
      match (s.outcome 0).read readColumns with
      | .ok names =>
          (t.provide names >>= f).playOn (s.past s.link [t.columnsStatement]) none events
      | .error e =>
          ⟨.failing e, s.behind (.execute t.columnsStatement) t.columnsStatement, none,
            events⟩ := by
  rw [provision_bind, playOn_read hlink t.columnsStatement readColumns]
  cases (s.outcome 0).read readColumns <;> rfl

theorem playOn_resolve (hlink : s.link.alive = true) (pinned : Bool) (events : List LogEvent) :
    (t.resolve pinned).playOn s none events =
      match (s.outcome 0).read readColumns with
      | .ok names =>
          (t.provide names >>= hold pinned).playOn (s.past s.link [t.columnsStatement]) none events
      | .error e =>
          ⟨.failing e, s.behind (.execute t.columnsStatement) t.columnsStatement, none,
            events⟩ :=
  t.playOn_provision hlink (hold pinned) events

/-- There are columns. -/
theorem of_provide_found (pinned : Bool) (hlink : s.link.alive = true) {names : List String}
    {layout : TableLayout}
    (hlayout : TableLayout.ofColumns? names = some layout) (events : List LogEvent) :
    let rest := settle pinned false layout (s.outcome 0)
    rest.2.Of s rest.1 ((t.provide names >>= hold pinned).playOn s none events) := by
  rw [provide, hlayout]
  dsimp only
  split
  · exact of_hold pinned hlink false layout _
  · exact of_hold pinned hlink false layout _

/-- There are none. -/
theorem playOn_provide_missing {α : Type} (f : TableLayout × Bool → Work α) {stage : Stage}
    {memory : Option TableLayout} {ending : Ending Bool} {events : List LogEvent}
    (h : t.create.silent.playOn s none events = ⟨ending, stage, memory, events⟩) :
    ∃ events', (t.provide [] >>= f).playOn s none events =
      match ending with
      | .result (.ok created) => (f (.full, created)).playOn stage memory events'
      | .result (.error e) => ⟨.result (.error e), stage, memory, events'⟩
      | .cutOff => ⟨.cutOff, stage, memory, events'⟩ := by
  obtain ⟨events', hplay⟩ := Script.exists_playOn_of_silent h
  refine ⟨events', ?_⟩
  have hprovide : t.provide [] >>= f = t.create >>= fun created => f (.full, created) :=
    Script.bind_assoc t.create _ _
  rw [hprovide, Script.playOn_bind, hplay]
  cases ending with
  | cutOff => rfl
  | result r => cases r <;> rfl

theorem eq_nil_of_ofColumns? {names : List String} (h : TableLayout.ofColumns? names = none) :
    names = [] := by
  rw [TableLayout.ofColumns?] at h
  split at h
  · next hempty => exact List.isEmpty_iff.1 hempty
  · cases h

/-! ## What comes of it -/

/-- Making the table fails. -/
theorem of_provide_failing {sent : List Statement} {stage : Stage} {e : Option StoreError}
    {events : List LogEvent}
    (hplay : t.create.silent.playOn s none events = ⟨.failing e, stage, none, events⟩)
    (hsent : (stage.unwind s.link.depth).sent = s.sent ++ sent) :
    (Verdict.ends e).Of s sent ((t.provide [] >>= hold pinned).playOn s none events) := by
  obtain ⟨events', hprovide⟩ := t.playOn_provide_missing (hold pinned) hplay
  rw [hprovide]
  cases e <;> exact ⟨rfl, hsent, rfl⟩

/-- The table is made, but for the documents to start with. -/
theorem of_provide_answered (pinned : Bool) (hlink : s.link.alive = true)
    (hanswered : ∀ i < t.creation.length, (s.outcome i).isAnswer = true)
    (events : List LogEvent) :
    match t.seeds with
    | .ok _ =>
        (Verdict.goesOn .full !pinned).Of s (t.creationStatements s.link.depth)
          ((t.provide [] >>= hold pinned).playOn s none events)
    | .error e =>
        (Verdict.ends (some e)).Of s (t.creationStatements s.link.depth ++ rollback s.link.depth)
          ((t.provide [] >>= hold pinned).playOn s none events) := by
  have hplay := t.playOn_create_of_answered hlink hanswered events
  cases hseeds : t.seeds with
  | ok entries =>
    rw [hseeds] at hplay
    obtain ⟨events', hprovide⟩ := t.playOn_provide_missing (hold pinned) hplay
    have hlink' : (⟨s.link.depth, true⟩ : Link) = s.link := by rw [← hlink]
    dsimp only
    rw [hprovide]
    cases pinned with
    | false => exact ⟨rfl, congrArg (s.past · _) hlink', rfl⟩
    | true => exact ⟨rfl, congrArg (s.past · _) hlink', rfl⟩
  | error e =>
    rw [hseeds] at hplay
    refine t.of_provide_failing hplay ?_
    exact sent_unwind_past true _ (fun _ => rfl) nofun

/-- Another session is faster. -/
theorem of_provide_race (pinned : Bool) (hlink : s.link.alive = true)
    (hbegin : (s.outcome 0).isAnswer = true) (hrace : (s.outcome 1).IsRace)
    (hrollback : (s.outcome 2).isAnswer = true) (events : List LogEvent) :
    (settle pinned false .full (s.outcome 3)).2.Of s
      ((t.creationStatements s.link.depth).take 2 ++ rollback s.link.depth ++
        (settle pinned false .full (s.outcome 3)).1)
      ((t.provide [] >>= hold pinned).playOn s none events) := by
  have hplay := t.playOn_create_of_race hlink hbegin hrace events
  obtain ⟨a, ha⟩ := Outcome.exists_answer hrollback
  have hlink' : (Outcome.answer a).linkAfter .rollback ⟨s.link.depth + 1, true⟩ = s.link := by
    rw [← hlink]
    rfl
  have hlength : ((t.creationStatements s.link.depth).take 2 ++ rollback s.link.depth).length =
      3 := by
    rw [take_two_creationStatements]
    rfl
  rw [ha, hlink'] at hplay
  obtain ⟨events', hprovide⟩ := t.playOn_provide_missing (hold pinned) hplay
  rw [hprovide]
  refine Verdict.Of.of_past ?_
  have hheld := of_hold pinned (s := s.past s.link
    ((t.creationStatements s.link.depth).take 2 ++ rollback s.link.depth)) hlink false .full events'
  rw [Stage.outcome_past, hlength] at hheld
  exact hheld

/-- Another session is faster, and the transaction cannot be rolled back. -/
theorem of_provide_stranded (pinned : Bool) (hlink : s.link.alive = true)
    (hbegin : (s.outcome 0).isAnswer = true) (hrace : (s.outcome 1).IsRace)
    (hrollback : (s.outcome 2).isAnswer = false) (events : List LogEvent) :
    (Verdict.ends ((s.outcome 2).fault?.map DatabaseFault.toError)).Of s
      ((t.creationStatements s.link.depth).take 2 ++ rollback s.link.depth ++
        if (s.outcome 2).leavesOpen 2 then rollback s.link.depth else [])
      ((t.provide [] >>= hold pinned).playOn s none events) := by
  have hplay := t.playOn_create_of_race hlink hbegin hrace events
  rw [hrollback] at hplay
  refine t.of_provide_failing hplay
    (sent_unwind_past ((s.outcome 2).leavesOpen 2) _ (fun hopen => ?_) fun hclosed => ?_)
  · cases ho : s.outcome 2 with
    | answer a => rw [ho] at hrollback; exact nomatch hrollback
    | refuse code message => rfl
    | lost => rw [ho] at hopen; exact nomatch hopen
    | hang => rfl
  · cases ho : s.outcome 2 with
    | answer a => rw [ho] at hrollback; exact nomatch hrollback
    | refuse code message => rw [ho] at hclosed; exact nomatch hclosed
    | lost => exact nofun
    | hang => rw [ho] at hclosed; exact nomatch hclosed

/-! ## Every course -/

/-- What follows the look is played behind one statement. -/
theorem outcome_behind_columns (n : Nat) :
    (s.past s.link [t.columnsStatement]).outcome n = s.outcome (n + 1) := by
  rw [Stage.outcome_past, List.length_singleton, Nat.add_comm]

theorem exists_course_raced (hlink : s.link.alive = true) (pinned : Bool)
    (hnames : (s.outcome 0).read readColumns = .ok []) (hbegin : (s.outcome 1).isAnswer = true)
    (hrace : (s.outcome 2).IsRace) (events : List LogEvent) :
    ∃ sent verdict, t.Course pinned s.link.depth s.outcome sent verdict ∧
      verdict.Of s sent ((t.provide [] >>= hold pinned).playOn
        (s.past s.link [t.columnsStatement]) none events) := by
  have hlink' : (s.past s.link [t.columnsStatement]).link.alive = true := hlink
  have hbegin' := (t.outcome_behind_columns 0).symm ▸ hbegin
  have hrace' := (t.outcome_behind_columns 1).symm ▸ hrace
  cases hrollback : (s.outcome 3).isAnswer with
  | true =>
    have hraced := t.of_provide_race pinned hlink' hbegin' hrace'
      (by rwa [outcome_behind_columns]) events
    rw [outcome_behind_columns] at hraced
    exact ⟨_, _, .raced hnames hbegin hrace hrollback, hraced.of_past⟩
  | false =>
    have hstranded := t.of_provide_stranded pinned hlink' hbegin' hrace'
      (by rwa [outcome_behind_columns]) events
    rw [outcome_behind_columns] at hstranded
    exact ⟨_, _, .stranded hnames hbegin hrace hrollback, hstranded.of_past⟩

theorem exists_course_unraced (hlink : s.link.alive = true) (pinned : Bool)
    (hnames : (s.outcome 0).read readColumns = .ok [])
    (hnorace : ¬ ((s.outcome 1).isAnswer = true ∧ (s.outcome 2).IsRace))
    (events : List LogEvent) :
    ∃ sent verdict, t.Course pinned s.link.depth s.outcome sent verdict ∧
      verdict.Of s sent ((t.provide [] >>= hold pinned).playOn
        (s.past s.link [t.columnsStatement]) none events) := by
  have hlink' : (s.past s.link [t.columnsStatement]).link.alive = true := hlink
  have houtcome : (s.past s.link [t.columnsStatement]).outcome = fun i => s.outcome (i + 1) :=
    funext t.outcome_behind_columns
  obtain ⟨k, hbreaks⟩ := Outcome.exists_breaksAt (fun i => s.outcome (i + 1)) t.creation.length
  rcases Nat.lt_or_ge k t.creation.length with hk | hk
  · have hfirst (hone : k = 1) : ¬ (s.outcome 2).IsRace := fun hrace =>
      hnorace ⟨hbreaks.answered 0 (by omega), hrace⟩
    have hbreaks' := houtcome ▸ hbreaks
    have hplay := t.playOn_create_of_failed hlink' hk hbreaks'
      (by rwa [outcome_behind_columns]) events
    have hsent := t.sent_unwind_after hlink' hk hbreaks'.answered (hbreaks'.failed hk)
    rw [outcome_behind_columns] at hplay hsent
    exact ⟨_, _, .broken hnames hk hbreaks hfirst, (t.of_provide_failing hplay hsent).of_past⟩
  · obtain rfl : k = t.creation.length := Nat.le_antisymm hbreaks.le hk
    have hanswered := t.of_provide_answered pinned hlink' (houtcome ▸ hbreaks.answered) events
    cases hseeds : t.seeds with
    | ok entries =>
      rw [hseeds] at hanswered
      exact ⟨_, _, .made hnames hseeds hbreaks.answered, hanswered.of_past⟩
    | error e =>
      rw [hseeds] at hanswered
      exact ⟨_, _, .unseeded hnames hseeds hbreaks.answered, hanswered.of_past⟩

/-- Seeing to a table takes one of the courses. -/
theorem exists_course (hlink : s.link.alive = true) (pinned : Bool)
    (events : List LogEvent) :
    ∃ sent verdict, t.Course pinned s.link.depth s.outcome sent verdict ∧
      verdict.Of s sent ((t.resolve pinned).playOn s none events) := by
  rw [t.playOn_resolve hlink]
  cases hnames : (s.outcome 0).read readColumns with
  | error e => exact ⟨_, _, .unread hnames, rfl, unwind_behind_execute _, rfl⟩
  | ok names =>
    cases hlayout : TableLayout.ofColumns? names with
    | some layout =>
      have hlink' : (s.past s.link [t.columnsStatement]).link.alive = true := hlink
      have hfound := t.of_provide_found pinned hlink' hlayout events
      rw [outcome_behind_columns] at hfound
      exact ⟨_, _, .found hnames hlayout, hfound.of_past⟩
    | none =>
      obtain rfl : names = [] := eq_nil_of_ofColumns? hlayout
      by_cases hrace : (s.outcome 1).isAnswer = true ∧ (s.outcome 2).IsRace
      · exact t.exists_course_raced hlink pinned hnames hrace.1 hrace.2 events
      · exact t.exists_course_unraced hlink pinned hnames hrace events

end DocumentTable

end DocStore
