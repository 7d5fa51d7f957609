import DocStore.Proofs.Database.Journal
import DocStore.Proofs.Document.Bracketing

/-!
# Operations on a connection of the caller

An operation comes to the same on a connection of its caller as on one of the pool, but for the
words of transactions, and but for one more statement when the table was found and not made
(`DocumentTable.Found`).

* Looking for the table comes to a layout without making it just when the table is found:
  `DocumentTable.Found.playOn_provision`, `DocumentTable.eq_true_of_playOn_provision`.
* If the layout is remembered, or the table is not found, the same is sent on both:
  `DocumentStore.IsOwn.play_alike`.
* If it is found, the caller's connection is asked whether anything was written on it, and an
  operation that is not told fails: `DocumentStore.IsOwn.play_probed`.
* So a batch is written as a whole or not at all on both: `DocumentBatch.all_or_nothing_within`.
-/

namespace DocStore

open Sql (Statement)
open Script

/-! ## Finding the table -/

namespace DocumentTable

/-- The table is found and was not made: its layout, and what is asked until then. -/
inductive Found (t : DocumentTable) (o : Nat → Outcome) : TableLayout → List Command → Prop where
  /-- There are columns. -/
  | columns {names : List String} {layout : TableLayout}
      (hnames : (o 0).read readColumns = .ok names)
      (hlayout : TableLayout.ofColumns? names = some layout) :
      Found t o layout [.execute t.columnsStatement]
  /-- Another session was faster. -/
  | race (hnames : (o 0).read readColumns = .ok []) (hbegin : (o 1).isAnswer = true)
      (hrace : (o 2).IsRace) (hrollback : (o 3).isAnswer = true) :
      Found t o .full
        [.execute t.columnsStatement, .begin, .execute t.createStatement, .rollback]

variable {t : DocumentTable} {o o' : Nat → Outcome} {layout : TableLayout}
  {commands : List Command} {s : Stage}

/-- What happens later is of no interest. -/
theorem Found.of_eq (h : t.Found o layout commands) (ho : ∀ i < commands.length, o' i = o i) :
    t.Found o' layout commands := by
  cases h with
  | columns hnames hlayout => exact .columns (ho 0 Nat.one_pos ▸ hnames) hlayout
  | race hnames hbegin hrace hrollback =>
    have hsame (i : Nat) (hi : i < 4) : o' i = o i := ho i hi
    exact .race (hsame 0 (by decide) ▸ hnames) (hsame 1 (by decide) ▸ hbegin)
      (hsame 2 (by decide) ▸ hrace) (hsame 3 (by decide) ▸ hrollback)

theorem Found.allFit (h : t.Found o layout commands) : Command.AllFit false commands := by
  cases h with
  | columns _ _ => exact ⟨t.isPlain_columnsStatement, trivial⟩
  | race _ _ _ _ =>
    exact ⟨t.isPlain_columnsStatement, rfl, t.isPlain_createStatement, rfl, trivial⟩

theorem Found.length_statements (h : t.Found o layout commands) (depth : Nat) :
    (Command.statements depth commands).length = commands.length := by
  cases h <;> rfl

/-- The table is found. -/
theorem Found.playOn_provision (h : t.Found s.outcome layout commands)
    (hlink : s.link.alive = true) (events : List LogEvent) :
    ∃ events', t.provision.playOn s none events =
      ⟨.result (.ok (layout, false)), s.past s.link (Command.statements s.link.depth commands),
        none, events'⟩ := by
  rw [← Script.bind_done t.provision, t.playOn_provision hlink]
  cases h with
  | columns hnames hlayout =>
    rw [hnames]
    dsimp only
    rw [Script.bind_done, provide, hlayout]
    dsimp only
    split
    · exact ⟨_, rfl⟩
    · exact ⟨_, rfl⟩
  | race hnames hbegin hrace hrollback =>
    rw [hnames]
    dsimp only
    have hlink' : (s.past s.link [t.columnsStatement]).link.alive = true := hlink
    have hplay := t.playOn_create_of_race hlink' ((t.outcome_behind_columns 0).symm ▸ hbegin)
      ((t.outcome_behind_columns 1).symm ▸ hrace) events
    obtain ⟨a, ha⟩ := Outcome.exists_answer hrollback
    have hback : (Outcome.answer a).linkAfter .rollback ⟨s.link.depth + 1, true⟩ = s.link := by
      rw [← hlink]
      rfl
    rw [outcome_behind_columns, ha] at hplay
    obtain ⟨events', hprovide⟩ := t.playOn_provide_missing .done hplay
    refine ⟨events', hprovide.trans ?_⟩
    dsimp only [Stage.link_past]
    rw [hback, take_two_creationStatements, Stage.past_past]
    rfl

/-- A table that was not found was made. -/
theorem eq_true_of_playOn_create (hlink : s.link.alive = true)
    (hnot : ¬ ((s.outcome 0).isAnswer = true ∧ (s.outcome 1).IsRace ∧
      (s.outcome 2).isAnswer = true)) {created : Bool} {events : List LogEvent}
    (h : (t.create.playOn s none events).ending = .result (.ok created)) : created = true := by
  have hsilent : (t.create.silent.playOn s none events).ending = .result (.ok created) := by
    rw [Script.playOn_silent t.create s none events events]
    exact h
  by_cases hrace : (s.outcome 0).isAnswer = true ∧ (s.outcome 1).IsRace
  · have hrollback : (s.outcome 2).isAnswer = false :=
      Bool.eq_false_iff.2 fun hrollback => hnot ⟨hrace.1, hrace.2, hrollback⟩
    rw [t.playOn_create_of_race hlink hrace.1 hrace.2, hrollback] at hsilent
    cases hfault : (s.outcome 2).fault? with
    | none => rw [hfault] at hsilent; exact nomatch hsilent
    | some fault => rw [hfault] at hsilent; exact nomatch Ending.result.inj hsilent
  · rw [t.playOn_create hlink fun hbegin hraced => hrace ⟨hbegin, hraced⟩, Script.playOn_bind]
      at hsilent
    split at hsilent
    · cases hseeds : t.seeds with
      | ok entries =>
        rw [hseeds] at hsilent
        exact (Except.ok.inj (Ending.result.inj hsilent)).symm
      | error e =>
        rw [hseeds] at hsilent
        exact nomatch Ending.result.inj hsilent
    · exact nomatch Ending.result.inj hsilent
    · exact nomatch hsilent

theorem eq_true_of_playOn_provision (hlink : s.link.alive = true)
    (hnot : ∀ layout commands, ¬ t.Found s.outcome layout commands) {layout : TableLayout}
    {created : Bool} {events : List LogEvent}
    (h : (t.provision.playOn s none events).ending = .result (.ok (layout, created))) :
    created = true := by
  rw [← Script.bind_done t.provision, t.playOn_provision hlink] at h
  cases hnames : (s.outcome 0).read readColumns with
  | error e =>
    rw [hnames] at h
    cases e with
    | none => exact nomatch h
    | some e => exact nomatch Ending.result.inj h
  | ok names =>
    rw [hnames] at h
    dsimp only at h
    cases hlayout : TableLayout.ofColumns? names with
    | some layout => exact absurd (.columns hnames hlayout) (hnot layout _)
    | none =>
      obtain rfl : names = [] := eq_nil_of_ofColumns? hlayout
      have hlink' : (s.past s.link [t.columnsStatement]).link.alive = true := hlink
      have hprovide : t.provide [] = t.create >>= fun created => .done (.full, created) := rfl
      rw [Script.bind_done, hprovide, Script.playOn_bind] at h
      split at h
      · next created' _ _ _ hplay =>
        obtain rfl : created' = created :=
          congrArg Prod.snd (Except.ok.inj (Ending.result.inj h))
        refine eq_true_of_playOn_create hlink' (fun ⟨hbegin, hrace, hrollback⟩ => ?_)
          (congrArg Played.ending hplay)
        rw [outcome_behind_columns] at hbegin hrace hrollback
        exact hnot _ _ (.race hnames hbegin hrace hrollback)
      · exact nomatch Ending.result.inj h
      · exact nomatch h

end DocumentTable

/-! ## Two connections -/

theorem Script.Only.imp {κ α : Type} {P Q : Command → Prop} {x : Script κ α} (hx : x.Only P)
    (h : ∀ c, P c → Q c) : x.Only Q := by
  induction x with
  | done a => trivial
  | fail e => trivial
  | ask c next ih => exact ⟨h c hx.1, fun r => ih r (hx.2 r)⟩
  | log e next ih => exact ih hx
  | inspect next => exact hx.elim
  | remember k next => exact hx.elim

namespace DocumentTable

/-- Looking for the table leaves alone what is remembered. -/
theorem only_provision (t : DocumentTable) : t.provision.Only fun _ => True := by
  have hsow : t.sow.Only fun _ => True := by
    rw [sow]
    split
    · exact only_done ()
    · exact (only_lift _).bind fun entries =>
        ((only_upsertAll (t := t) .full entries).imp fun _ _ => trivial).bind fun _ =>
          only_note _ _
  have hcreate : t.create.Only fun _ => True := by
    rw [create]
    refine (only_sendOr _ trivial).bind fun _ => ⟨trivial, fun r => ?_⟩
    cases r with
    | ok a =>
      exact hsow.bind fun _ => ((only_sendOr _ trivial).bind fun _ => only_done ()).bind fun _ =>
        (only_note _ _).bind fun _ => only_done true
    | error fault =>
      dsimp only
      split
      · exact (only_sendOr _ trivial).bind fun _ => (only_note _ _).bind fun _ => only_done false
      · exact only_fail _
  have hcolumns : t.columns.Only fun _ => True := (only_sendOr _ trivial).bind fun _ => only_lift _
  rw [provision]
  refine hcolumns.bind fun names => ?_
  split
  · next layout _ =>
    split
    · exact (only_note _ _).bind fun _ => only_done (layout, false)
    · exact only_done (layout, false)
  · exact hcreate.bind fun created => only_done (TableLayout.full, created)

end DocumentTable

/-- The same was sent on both, but for the words of transactions, and on one of them one statement
more. -/
theorem Stage.mirrors_past {stage stage' : Stage} {depth : Nat} {sent sent' : List Statement}
    (more : Statement) (hlength : sent'.length = sent.length)
    (h : ∀ i ≥ sent.length, stage'.outcome (i + 1) = stage.outcome i) :
    (stage.past ⟨0, true⟩ sent).Mirrors depth (stage.sent ++ sent)
      (stage'.sent ++ (sent' ++ [more])) false (stage'.past ⟨depth, true⟩ (sent' ++ [more])) := by
  refine ⟨rfl, fun _ => ⟨rfl, rfl⟩, fun i => ?_, [], (List.append_nil _).symm,
    (List.append_nil _).symm⟩
  rw [Stage.outcome_past, Stage.outcome_past, List.length_append, hlength, List.length_singleton,
    Nat.add_right_comm]
  exact h _ (Nat.le_add_right _ _)

open DocumentTable

namespace DocumentStore.IsOwn

variable {α : Type} {op : DocumentStore → Operation TableLayout α}
  {own : DocumentStore → TableLayout → Work α} (h : IsOwn op own) (hop : Offered op)
  (s : DocumentStore) {depth : Nat} {before before' : List Statement} {stage stage' : Stage}

include h

/-- If nothing is remembered, the table is seen to first. -/
theorem playOn_unknown (pinned : Bool) :
    ((op s).script pinned).playOn stage none [] =
      (s.table.provision >>= fun found => hold pinned found >>= own s).playOn stage none [] := by
  rw [h.script, ← Script.bind_assoc]
  rfl

include hop

/-- What an operation does of its own comes to the same on both, whatever is remembered. -/
theorem own_mirrors (hmirrors : stage.Mirrors depth before before' false stage')
    (layout : TableLayout) (memory memory' : Option TableLayout) (events events' : List LogEvent) :
    let played := (own s layout).playOn stage memory events
    let played' := (own s layout).playOn stage' memory' events'
    played'.ending = played.ending ∧
      (played.stage.unwind 0).Mirrors depth before before' false (played'.stage.unwind depth) := by
  obtain ⟨ending, s', hplay⟩ := (h.only s layout).exists_playOn stage'
  obtain ⟨_, hfirst⟩ := hplay memory events
  obtain ⟨_, hsecond⟩ := hplay memory' events'
  have hown := (h.brackets hop s layout).unwind_mirrors hmirrors memory events
  dsimp only at hown ⊢
  rw [hfirst] at hown
  rw [hsecond]
  exact hown

/-- If the layout is remembered, or the table is not found, the operation comes to the same on
both. -/
theorem play_alike {known : Option TableLayout}
    (hknown : known.isSome = true ∨
      ∀ layout commands, ¬ s.table.Found stage.outcome layout commands)
    (halive : stage.link.alive = true)
    (hmirrors : stage.Mirrors depth before before' false stage') :
    let played := ((op s).script false).playOn stage known []
    let played' := ((op s).script true).playOn stage' known []
    played'.ending = played.ending ∧
      (played.stage.unwind 0).Mirrors depth before before' false (played'.stage.unwind depth) := by
  intro played played'
  cases known with
  | some layout =>
    have hown := h.own_mirrors hop s hmirrors layout (some layout) (some layout) [] []
    rw [← h.playOn_known, ← h.playOn_known] at hown
    exact hown
  | none =>
    have hunfound := hknown.resolve_left nofun
    obtain ⟨ending, s₁, hplay⟩ := s.table.only_provision.exists_playOn stage
    obtain ⟨events, hfirst⟩ := hplay none []
    obtain ⟨hsame, isOpen, hmirrors', hopen⟩ :=
      s.table.brackets_provision.playOn_mirrors hmirrors none []
    generalize (s.table.provision.playOn stage' none []).stage = s₁' at hsame hmirrors'
    rw [hfirst] at hsame hmirrors' hopen
    have hplayed : played = _ := (h.playOn_unknown s false).trans (Script.playOn_bind _ _ _ _ _)
    have hplayed' : played' = _ := (h.playOn_unknown s true).trans (Script.playOn_bind _ _ _ _ _)
    rw [hplayed, hplayed', hsame, hfirst]
    match ending with
    | .cutOff => exact ⟨rfl, hmirrors'.unwind⟩
    | .result (.error e) => exact ⟨rfl, hmirrors'.unwind⟩
    | .result (.ok (layout, created)) =>
      obtain rfl : created = true :=
        eq_true_of_playOn_provision halive hunfound (congrArg Played.ending hfirst)
      obtain rfl : isOpen = false := hopen _ rfl
      exact h.own_mirrors hop s hmirrors' layout (some layout) none events events

/-- If the table is found, the caller's connection is asked whether anything was written on it. -/
theorem play_probed (stage stage' : Stage) {layout : TableLayout} {commands : List Command}
    (hfound : s.table.Found stage.outcome layout commands) (hlink : stage.link = ⟨0, true⟩)
    (hlink' : stage'.link = ⟨depth, true⟩)
    (hbefore : ∀ i < commands.length, stage'.outcome i = stage.outcome i)
    (hbehind : ∀ i ≥ commands.length, stage'.outcome (i + 1) = stage.outcome i) :
    let played := ((op s).script false).playOn stage none []
    let played' := ((op s).script true).playOn stage' none []
    let look := Command.statements 0 commands
    let look' := look.map (Statement.within depth)
    ∃ rest, (played.stage.unwind 0).sent = stage.sent ++ look ++ rest ∧
      match (stage'.outcome commands.length).read readUnwritten with
      | .ok _ => played'.ending = played.ending ∧
          (played'.stage.unwind depth).sent = stage'.sent ++ look' ++
            unwrittenStatement :: rest.map (Statement.within depth)
      | .error e => played'.ending = .failing e ∧
          (played'.stage.unwind depth).sent = stage'.sent ++ look' ++ [unwrittenStatement] := by
  intro played played' look look'
  have hfound' := hfound.of_eq hbefore
  obtain ⟨events, hplay⟩ := hfound.playOn_provision (by rw [hlink]) []
  obtain ⟨events', hplay'⟩ := hfound'.playOn_provision (by rw [hlink']) []
  have hstatements : Command.statements depth commands = look' := hfound.allFit.statements depth
  have hlength := hfound.length_statements 0
  rw [hlink] at hplay
  rw [hlink', hstatements] at hplay'
  have hplayed : played = (own s layout).playOn (stage.past ⟨0, true⟩ look) (some layout) events :=
    (h.playOn_unknown s false).trans ((Script.playOn_bind _ _ _ _ _).trans (hplay ▸ rfl))
  have hplayed' : played' = (hold true (layout, false) >>= own s).playOn
      (stage'.past ⟨depth, true⟩ look') none events' :=
    (h.playOn_unknown s true).trans ((Script.playOn_bind _ _ _ _ _).trans (hplay' ▸ rfl))
  have hlength' : look'.length = commands.length := (List.length_map _).trans hlength
  have hmirrors : (stage.past ⟨0, true⟩ look).Mirrors depth (stage.sent ++ look)
      (stage'.sent ++ (look' ++ [unwrittenStatement])) false
      (stage'.past ⟨depth, true⟩ (look' ++ [unwrittenStatement])) :=
    Stage.mirrors_past unwrittenStatement (List.length_map _) fun i hi => hbehind i (hlength ▸ hi)
  have hown (memory : Option TableLayout) (events'' : List LogEvent) :=
    h.own_mirrors hop s hmirrors layout (some layout) memory events events''
  rw [← hplayed] at hown
  have hheld := of_hold (s := stage'.past ⟨depth, true⟩ look') true rfl false layout events'
  rw [Stage.outcome_past, hlength', Nat.add_zero] at hheld
  rw [hplayed', Script.playOn_bind]
  generalize (hold true (layout, false)).playOn (stage'.past ⟨depth, true⟩ look') none events' = held
    at hheld ⊢
  obtain ⟨ending, stage₁, memory, events₁⟩ := held
  rw [settle] at hheld
  cases hread : (stage'.outcome commands.length).read readUnwritten with
  | ok unwritten =>
    rw [hread] at hheld
    obtain ⟨rfl, rfl, -⟩ := hheld
    obtain ⟨hending, hunwound⟩ := hown memory events₁
    obtain ⟨rest, hrest, hrest'⟩ := hunwound.sent
    dsimp only
    rw [Stage.link_past, Stage.past_past]
    refine ⟨rest, hrest, hending, hrest'.trans ?_⟩
    rw [List.append_assoc, List.append_assoc, List.append_assoc]
    rfl
  | error e =>
    rw [hread] at hheld
    obtain ⟨rfl, hsent, -⟩ := hheld
    obtain ⟨-, hunwound⟩ := hown none []
    obtain ⟨rest, hrest, -⟩ := hunwound.sent
    refine ⟨rest, hrest, ?_⟩
    cases e with
    | none => exact ⟨rfl, hsent⟩
    | some e => exact ⟨rfl, hsent⟩

end DocumentStore.IsOwn

/-! ## What an operation comes to -/

namespace Pool

/-- What happens to the `n`-th statement that is sent from now on. -/
def Server.outcome (s : Server) (n : Nat) : Outcome := s.outcomes[n]?.getD (.answer .empty)

/-- From one moment to the other these statements were sent. -/
def Rehearsal.Sends (r r' : Rehearsal) (sent : List Statement) : Prop :=
  r'.server.seen = r.server.seen ++ sent.map Sighting.statement

theorem Rehearsal.Sends.of_eq {r r' : Rehearsal} {sent sent' : List Statement}
    (h : r.Sends r' sent) (hsent : sent = sent') : r.Sends r' sent' := hsent ▸ h

/-- What an operation on a connection of the caller gives and sends. -/
theorem Rehearsal.sends_performOn {κ α : Type} {op : Operation κ α} (r : Rehearsal)
    (reporter : Reporter) (timeout : Duration) (memory : Option κ) (hrefusal : op.refusal = none)
    (link : Link) :
    let played := (op.script true).play ⟨link, r.server.outcomes, []⟩ memory
    let performed := (r.performOn link reporter timeout op memory).1
    performed.result = played.ending.told (reporter.overdue op.name timeout.shown) ∧
      r.Sends performed.rehearsal played.stage.sent := by
  intro played performed
  obtain ⟨hresult, -, hseen⟩ := performOn_of_script (r := r) reporter memory hrefusal link
  exact ⟨hresult, hseen⟩

/-- The caller gets its connection back. -/
theorem Rehearsal.link_performOn {κ α : Type} {r : Rehearsal} {reporter : Reporter}
    {timeout : Duration} {op : Operation κ α} (memory : Option κ) (hrefusal : op.refusal = none)
    (link : Link) :
    (r.performOn link reporter timeout op memory).2 =
      ((op.script true).play ⟨link, r.server.outcomes, []⟩ memory).stage.link := by
  simp only [Rehearsal.performOn, hrefusal, Server.play]

end Pool

namespace DocumentStore

open Pool (Rehearsal Performed)
open Command (backToSavepoint)

variable {α : Type} {op : DocumentStore → Operation TableLayout α}

/-- An operation on a connection of the caller, where `depth` transactions are open, agrees with
one on a connection of the pool. -/
structure Agrees (s : DocumentStore) (op : Operation TableLayout α) (depth : Nat)
    (r q : Rehearsal) (known : Option TableLayout) (lent held : Performed TableLayout α) :
    Prop where
  /-- The layout is remembered, or the table is not found.  Then the same is sent but for the words
  of transactions, and the same is given, if the same happens to the statements. -/
  alike : (known.isSome = true ∨
      ∀ layout commands, ¬ s.table.Found r.server.outcome layout commands) →
    (∀ i, q.server.outcome i = r.server.outcome i) →
    held.result = lent.result ∧
      ∃ sent, r.Sends lent.rehearsal sent ∧
        q.Sends held.rehearsal (sent.map (Statement.within depth))
  /-- The table is found.  Then the caller's connection is asked one thing more before the
  operation goes on, and an operation that is not told sends nothing else. -/
  probed : known = none → ∀ layout commands, s.table.Found r.server.outcome layout commands →
    (∀ i < commands.length, q.server.outcome i = r.server.outcome i) →
    (∀ i ≥ commands.length, q.server.outcome (i + 1) = r.server.outcome i) →
    let look := Command.statements 0 commands
    let look' := look.map (Statement.within depth)
    ∃ rest, r.Sends lent.rehearsal (look ++ rest) ∧
      match (q.server.outcome commands.length).read readUnwritten with
      | .ok _ =>
          held.result = lent.result ∧
            q.Sends held.rehearsal
              (look' ++ unwrittenStatement :: rest.map (Statement.within depth))
      | .error e =>
          held.result = .error (e.getD (s.reporter.overdue op.name s.timeout.shown)) ∧
            q.Sends held.rehearsal (look' ++ [unwrittenStatement])

/-- An operation that ends its script at `ran`, with its savepoint underway, goes back to it, and
to nothing else.  The caller's transaction stays open with what was written before. -/
structure GoesBack (depth : Nat) (j : Journal) (took : Nat → Bool) (ran : Stage) (q : Rehearsal)
    (held : Performed TableLayout α × Link) : Prop where
  failed : ∃ e, held.1.result = .error e
  sends : q.Sends held.1.rehearsal (ran.sent ++ [backToSavepoint depth])
  link : held.2 = ⟨depth, true⟩
  isOpen : (j.after depth took (ran.sent ++ [backToSavepoint depth])).isOpen = true
  isAborted : (j.after depth took (ran.sent ++ [backToSavepoint depth])).isAborted = false
  writes : (j.after depth took ran.sent).marks.head? =
    some (j.after depth took (ran.sent ++ [backToSavepoint depth])).writes
  earlier : j.writes <+: (j.after depth took (ran.sent ++ [backToSavepoint depth])).writes

theorem told_failing (late : StoreError) (e : Option StoreError) :
    (Ending.failing e : Ending α).told late = .error (e.getD late) := by
  cases e <;> rfl

theorem exists_told {ending : Ending α} (late : StoreError)
    (h : ∀ a, ending ≠ .result (.ok a)) : ∃ e, ending.told late = .error e := by
  match ending with
  | .result (.ok a) => exact absurd rfl (h a)
  | .result (.error e) => exact ⟨e, rfl⟩
  | .cutOff => exact ⟨late, rfl⟩

theorem IsOwn.agrees {own : DocumentStore → TableLayout → Work α} (hown : IsOwn op own)
    (hop : Offered op) (s : DocumentStore) {depth : Nat} {r r' q : Rehearsal} {grant : Pool.Grant}
    {loan : Pool.Loan} (known : Option TableLayout) (hclean : r.IsClean)
    (hrefusal : (op s).refusal = none)
    (hseek : r.seek .lease (some s.timeout) = (.loan grant loan, r')) :
    s.Agrees (op s) depth r' q known (r.perform s.reporter s.timeout (op s) known)
      (q.performOn ⟨depth, true⟩ s.reporter s.timeout (op s) known).1 := by
  obtain ⟨hresult, hseen⟩ := Rehearsal.perform_of_loan s.reporter known hclean hrefusal hseek
  obtain ⟨hresult', hsends'⟩ := q.sends_performOn s.reporter s.timeout known hrefusal ⟨depth, true⟩
  have hsends : r'.Sends (r.perform s.reporter s.timeout (op s) known).rehearsal _ := hseen
  constructor
  · intro hknown ho
    have hmirrors : Stage.Mirrors depth [] [] false ⟨.fresh, r'.server.outcomes, []⟩
        ⟨⟨depth, true⟩, q.server.outcomes, []⟩ := ⟨rfl, fun _ => ⟨rfl, rfl⟩, ho, [], rfl, rfl⟩
    obtain ⟨hending, hunwound⟩ := hown.play_alike hop s hknown rfl hmirrors
    obtain ⟨sent, hsent, hsent'⟩ := hunwound.sent
    refine ⟨?_, sent, hsends.of_eq hsent, hsends'.of_eq hsent'⟩
    rw [hresult, hresult']
    exact congrArg (Ending.told _) hending
  · rintro rfl layout commands hfound hbefore hbehind look look'
    obtain ⟨rest, hrest, hprobe⟩ := hown.play_probed hop s ⟨.fresh, r'.server.outcomes, []⟩
      ⟨⟨depth, true⟩, q.server.outcomes, []⟩ hfound rfl rfl hbefore hbehind
    refine ⟨rest, hsends.of_eq hrest, ?_⟩
    rw [hresult, hresult']
    change match (q.server.outcome commands.length).read readUnwritten with
      | .ok _ => _
      | .error e => _ at hprobe
    cases hread : (q.server.outcome commands.length).read readUnwritten with
    | ok unwritten =>
      rw [hread] at hprobe
      exact ⟨congrArg (Ending.told _) hprobe.1, hsends'.of_eq hprobe.2⟩
    | error e =>
      rw [hread] at hprobe
      exact ⟨(congrArg (Ending.told _) hprobe.1).trans (told_failing _ e),
        hsends'.of_eq hprobe.2⟩

/-- What an operation does of its own behind the table, it does as it would on a connection of its
own that has the same before it. -/
theorem IsOwn.performOn_of_resolve {own : DocumentStore → TableLayout → Work α}
    (hown : IsOwn op own) (hop : Offered op) (s : DocumentStore) {depth : Nat} {q : Rehearsal}
    {known memory : Option TableLayout} {layout : TableLayout} {seen : Stage}
    {events : List LogEvent} (hrefusal : (op s).refusal = none)
    (hresolve : (s.table.resolve true).playOn ⟨⟨depth, true⟩, q.server.outcomes, []⟩ known [] =
      ⟨.result (.ok layout), seen, memory, events⟩) :
    let alone := ((op s).script false).play ⟨.fresh, seen.outcomes, []⟩ (some layout)
    let held := (q.performOn ⟨depth, true⟩ s.reporter s.timeout (op s) known).1
    held.result = alone.ending.told (s.reporter.overdue (op s).name s.timeout.shown) ∧
      q.Sends held.rehearsal (seen.sent ++ alone.stage.sent.map (Statement.within depth)) := by
  intro alone held
  have hlink : seen.link = ⟨depth, true⟩ := s.table.moves_resolve true _ _ _ rfl _ _ _ _ hresolve
  have hmirrors : Stage.Mirrors depth [] seen.sent false ⟨.fresh, seen.outcomes, []⟩ seen := by
    refine ⟨?_, fun _ => ⟨rfl, ?_⟩, fun _ => rfl, [], rfl, (List.append_nil _).symm⟩
    · rw [hlink]
      rfl
    · rw [hlink]
      rfl
  have hplay : ((op s).script true).playOn ⟨⟨depth, true⟩, q.server.outcomes, []⟩ known [] =
      (own s layout).playOn seen memory events := by
    rw [hown.script, Script.playOn_bind, hresolve]
  have hknown : ((op s).script false).playOn ⟨.fresh, seen.outcomes, []⟩ (some layout) [] =
      (own s layout).playOn ⟨.fresh, seen.outcomes, []⟩ (some layout) [] :=
    hown.playOn_known s false []
  obtain ⟨hending, hunwound⟩ :=
    hown.own_mirrors hop s hmirrors layout (some layout) memory [] events
  rw [← hplay, ← hknown] at hending hunwound
  obtain ⟨sent, hsent, hsent'⟩ := hunwound.sent
  obtain ⟨hresult, hsends⟩ := q.sends_performOn s.reporter s.timeout known hrefusal ⟨depth, true⟩
  have halone : alone.stage.sent = sent := hsent
  rw [halone]
  exact ⟨hresult.trans (congrArg (Ending.told _) hending), hsends.of_eq hsent'⟩

/-- The first of an operation's savepoints that is underway when its script ends is gone back to. -/
theorem Offered.goesBack (hop : Offered op) (s : DocumentStore) {depth : Nat} (q : Rehearsal)
    (known : Option TableLayout) (hrefusal : (op s).refusal = none) (hdepth : 0 < depth)
    {j : Journal} (hopen : j.isOpen = true) (hnone : j.isUnderway = false) {took : Nat → Bool}
    (htook : ∀ i, (q.server.outcome i).Allows (took i)) :
    let ran := (((op s).script true).playOn ⟨⟨depth, true⟩, q.server.outcomes, []⟩ known []).stage
    (j.after depth took ran.sent).isUnderway = true → ran.link.alive = true →
      (ran.outcome 0).isAnswer = true →
      GoesBack depth j took ran q (q.performOn ⟨depth, true⟩ s.reporter s.timeout (op s) known) := by
  intro ran hunderway halive hanswered
  have hfollows : j.Follows depth took false ⟨⟨depth, true⟩, q.server.outcomes, []⟩ := by
    refine ⟨⟨hopen, List.prefix_refl _, fun h => nomatch hnone.symm.trans h⟩, fun i => ?_,
      fun _ => ⟨rfl, hnone⟩⟩
    exact (Nat.zero_add i).symm ▸ htook i
  obtain ⟨hfailed, hsent, hlink, hopen', haborted, hwrites, hearlier⟩ :=
    Journal.back_of_underway hdepth (hop.brackets s true) hfollows known [] hunderway halive hanswered
  obtain ⟨hresult, hsends⟩ := q.sends_performOn s.reporter s.timeout known hrefusal ⟨depth, true⟩
  refine ⟨?_, hsends.of_eq hsent, ?_, hopen', haborted, hwrites, hearlier⟩
  · rw [hresult]
    exact exists_told _ hfailed
  · exact (Rehearsal.link_performOn known hrefusal _).trans hlink

/-- On a connection of its caller an operation comes to the same as on one of the pool.

If the layout is remembered, or the table is made or cannot be seen to, the same statements are
sent, with the same values and in the same order, and the same is given; but where the caller has a
transaction open, beginning, committing and rolling back are in the words of the savepoint of that
level.  If the table is found, the caller's connection is asked in between whether anything was
written on it: an operation that is told goes on in the same way, and one that is not fails, and
sends nothing else.  An operation that is refused sends nothing at all.

If an operation ends with its savepoint underway, and the connection is still there and carries out
the rollback, that goes to this savepoint, and the caller's transaction stays open with what was
written before. -/
theorem agrees_with_the_pool (hop : Offered op) (s : DocumentStore) (depth : Nat)
    (r q : Rehearsal) (known : Option TableLayout) :
    let lent := r.perform s.reporter s.timeout (op s) known
    let held := q.performOn ⟨depth, true⟩ s.reporter s.timeout (op s) known
    (∀ grant loan r', r.IsClean → (op s).refusal = none →
      r.seek .lease (some s.timeout) = (.loan grant loan, r') →
      s.Agrees (op s) depth r' q known lent held.1) ∧
    (∀ e, (op s).refusal = some e →
      lent.result = .error e ∧ held.1.result = .error e ∧
        r.Sends lent.rehearsal [] ∧ q.Sends held.1.rehearsal []) ∧
    ∀ j took, (op s).refusal = none → 0 < depth → j.isOpen = true → j.isUnderway = false →
      (∀ i, (q.server.outcome i).Allows (took i)) →
      let ran := (((op s).script true).playOn ⟨⟨depth, true⟩, q.server.outcomes, []⟩ known []).stage
      (j.after depth took ran.sent).isUnderway = true → ran.link.alive = true →
        (ran.outcome 0).isAnswer = true → GoesBack depth j took ran q held := by
  obtain ⟨own, hown⟩ := hop.exists_own
  refine ⟨fun grant loan r' hclean hrefusal hseek => ?_, fun e hrefusal => ?_,
    fun j took hrefusal hdepth hopen hnone htook => ?_⟩
  · exact hown.agrees hop s known hclean hrefusal hseek
  · rw [Rehearsal.perform_of_refusal hrefusal, Rehearsal.performOn_of_refusal hrefusal]
    exact ⟨rfl, rfl, (List.append_nil _).symm, (List.append_nil _).symm⟩
  · exact hop.goesBack s q known hrefusal hdepth hopen hnone htook

end DocumentStore

/-! ## Batches -/

/-- A batch of documents, whatever the store. -/
inductive DocumentBatch : Type → Type 1 where
  | saveAll (items : List Json) (keys : List String) (hlength : items.length = keys.length) :
      DocumentBatch Unit
  | update {α : Type} (q : Query) (f : List Entry → Except StoreError (List Entry × α)) :
      DocumentBatch α

namespace DocumentBatch

open Pool (Rehearsal)

variable {α : Type}

/-- The call of a store that writes the batch. -/
def call (s : DocumentStore) : DocumentBatch α → BatchCall TableLayout TableLayout α
  | saveAll items keys hlength => .saveAll s items keys hlength
  | update q f => .update s q f

theorem offered_call (b : DocumentBatch α) :
    DocumentStore.Offered fun s => (b.call s).operation := by
  cases b with
  | saveAll items keys hlength => exact .saveAll items keys
  | update q f => exact .updateWith q f

/-- Where the layout is remembered there is nothing before the batch. -/
theorem playOn_call (b : DocumentBatch α) (s : DocumentStore) (layout : TableLayout)
    (stage : Stage) :
    ((b.call s).operation.script false).playOn stage (some layout) [] =
      (((b.call s).batch layout).script >>= (b.call s).report).playOn stage (some layout) [] := by
  rw [BatchCall.script_operation]
  cases b <;> rfl

/-- On a connection of the caller, too, a batch is written as a whole or not at all.

Once the table was seen to, the call sends the statements of its batch and nothing else.  Where
the caller has a transaction open, it begins, commits and rolls back its own in the words of the
savepoint of that level; so a batch that fails is gone back on (`GoesBack`), and the caller decides
about one that does not. -/
theorem all_or_nothing_within (b : DocumentBatch α) (s : DocumentStore) {depth : Nat}
    {q : Rehearsal} {known memory : Option TableLayout} {layout : TableLayout} {seen : Stage}
    {events : List LogEvent}
    (hresolve : (s.table.resolve true).playOn ⟨⟨depth, true⟩, q.server.outcomes, []⟩ known [] =
      ⟨.result (.ok layout), seen, memory, events⟩) :
    let call := b.call s
    let held := (q.performOn ⟨depth, true⟩ s.reporter s.timeout call.operation known).1
    ∃ sent, q.Sends held.rehearsal (seen.sent ++ sent.map (Statement.within depth)) ∧
      (call.batch layout).AllOrNothing (s.reporter.overdue call.operation.name s.timeout.shown)
        seen.outcome sent held.result := by
  intro call held
  obtain ⟨own, hown⟩ := b.offered_call.exists_own
  obtain ⟨hresult, hsends⟩ :=
    hown.performOn_of_resolve b.offered_call s call.refusal_operation hresolve
  -- The batch is played on a connection of its own, where the transaction is its only one.
  obtain ⟨sent, hsent, hbatch⟩ := (call.batch layout).allOrNothing_play
    (s := ⟨.fresh, seen.outcomes, []⟩) (some layout) []
    (s.reporter.overdue call.operation.name s.timeout.shown) rfl
    (fun _ => call.isData_of_mem_body layout seen.outcome) call.playOn_report
  rw [← b.playOn_call s layout] at hsent hbatch
  have halone : ((call.operation.script false).play ⟨.fresh, seen.outcomes, []⟩
      (some layout)).stage.sent = sent := hsent
  rw [halone] at hsends
  exact ⟨sent, hsends, hresult ▸ hbatch⟩

end DocumentBatch

namespace DocumentStore

open Pool (Rehearsal)

/-- A store on a table that is there. -/
def standingNotes : DocumentStore :=
  ⟨⟨⟨"app_drafts", by decide +kernel, by decide +kernel⟩, none⟩, .ofSeconds 30⟩

/-- The columns of the table. -/
def standingColumns : Outcome := .answer ⟨[[.text "id"], [.text "data"], [.text "version"]], 3⟩

/-- The caller has written before. -/
def notUnwritten : Outcome := .answer ⟨[[.boolean false]], 1⟩

/-- A pool that was not used yet, on a server where this happens to the statements. -/
def answering (outcomes : List Outcome) : Rehearsal :=
  { refusedSeed with server := ⟨fun _ => none, [], outcomes, []⟩ }

/-- A transaction in which one document was written. -/
def openJournal : Journal :=
  ⟨true, false, [standingNotes.table.upsertStatement .full ⟨"first", .null⟩], [], false⟩

theorem agrees_with_the_pool_refused :
    let s := standingNotes
    let op := fun s : DocumentStore => s.saveAll [.null, .bool true] ["second", "third"]
    let rest := [.answer .empty, .answer .empty, .refuse (some "53100") "disk full"]
    let r := answering (standingColumns :: rest)
    let r' := (r.seek .lease (some s.timeout)).2
    let q := answering (standingColumns :: notUnwritten :: rest)
    let layout : TableLayout := ⟨true, false, false⟩
    let saved := s.table.upsertStatement layout
    let took := fun i : Nat => i != 4
    let lent := r.perform s.reporter s.timeout (op s) none
    let held := q.performOn ⟨1, true⟩ s.reporter s.timeout (op s) none
    let ran := (((op s).script true).playOn ⟨⟨1, true⟩, q.server.outcomes, []⟩ none []).stage
    Offered op ∧ r.IsClean ∧ (op s).refusal = none ∧
      r.seek .lease (some s.timeout) = (.loan (.lease 1) ⟨1, .fresh⟩, r') ∧
      s.Agrees (op s) 1 r' q none lent held.1 ∧
      s.table.Found r'.server.outcome layout [.execute s.table.columnsStatement] ∧
      (∀ i < 1, q.server.outcome i = r'.server.outcome i) ∧
      (∀ i ≥ 1, q.server.outcome (i + 1) = r'.server.outcome i) ∧
      (∀ i, (q.server.outcome i).Allows (took i)) ∧
      (openJournal.after 1 took ran.sent).isUnderway = true ∧
      GoesBack 1 openJournal took ran q held ∧
      lent.result = .error (.database "53100" "disk full") ∧
      held.1.result = .error (.database "53100" "disk full") ∧
      r'.Sends lent.rehearsal [s.table.columnsStatement, .plain "BEGIN",
        saved ⟨"second", .null⟩, saved ⟨"third", .bool true⟩, .plain "ROLLBACK"] ∧
      q.Sends held.1.rehearsal [s.table.columnsStatement, unwrittenStatement,
        Command.setSavepoint 1, saved ⟨"second", .null⟩, saved ⟨"third", .bool true⟩,
        Command.backToSavepoint 1] := by
  intro s op rest r r' q layout saved took lent held ran
  have hop : Offered op := .saveAll _ _
  have hclean : r.IsClean := nofun
  have hseek : r.seek .lease (some s.timeout) = (.loan (.lease 1) ⟨1, .fresh⟩, r') := rfl
  have htook (i : Nat) : (q.server.outcome i).Allows (took i) := by
    match i with
    | 0 | 1 | 2 | 3 | 4 => rfl
    | i + 5 => exact bne_iff_ne.2 (by omega)
  have hunderway : (openJournal.after 1 took ran.sent).isUnderway = true := by decide +kernel
  obtain ⟨hagrees, -, hback⟩ := agrees_with_the_pool hop s 1 r q none
  refine ⟨hop, hclean, rfl, hseek, hagrees _ _ _ hclean rfl hseek, .columns rfl rfl, ?_, ?_, htook,
    hunderway, hback openJournal took rfl Nat.one_pos rfl rfl htook hunderway rfl rfl, rfl, rfl,
    rfl, rfl⟩
  · intro i hi
    obtain rfl : i = 0 := Nat.lt_one_iff.1 hi
    rfl
  · intro i hi
    obtain ⟨i, rfl⟩ : ∃ n, i = n + 1 := ⟨i - 1, by omega⟩
    rfl

/-- Where the caller's connection cannot be asked whether anything was written on it, an operation
fails on it that would not fail on a connection of the pool, and does nothing of its own.  Where it
ends while a savepoint is underway, nothing is rolled back. -/
theorem not_agrees_unasked :
    let s := standingNotes
    let r := answering [standingColumns, .answer ⟨[], 1⟩]
    let r' := (r.seek .lease (some s.timeout)).2
    let q := answering [standingColumns, .refuse (some "42501") "permission denied for function",
      .answer ⟨[], 1⟩]
    let lent := r.perform s.reporter s.timeout (s.delete "first") none
    let held := q.performOn ⟨1, true⟩ s.reporter s.timeout (s.delete "first") none
    let ending := answering [.answer .empty, .lost]
    let layout : TableLayout := ⟨true, false, false⟩
    let batch := s.saveAll [.null] ["second"]
    let ended := ending.performOn ⟨1, true⟩ s.reporter s.timeout batch (some layout)
    (r.seek .lease (some s.timeout) = (.loan (.lease 1) ⟨1, .fresh⟩, r') ∧
      s.table.Found r'.server.outcome layout [.execute s.table.columnsStatement] ∧
      (∀ i < 1, q.server.outcome i = r'.server.outcome i) ∧
      (∀ i ≥ 1, q.server.outcome (i + 1) = r'.server.outcome i) ∧
      lent.result = .ok true ∧
      held.1.result = .error (.database "42501" "permission denied for function") ∧
      r'.Sends lent.rehearsal [s.table.columnsStatement,
        ⟨"DELETE FROM " ++ s.tableName ++ " WHERE id = $1", [.text "first"]⟩] ∧
      q.Sends held.1.rehearsal [s.table.columnsStatement, unwrittenStatement]) ∧
    ended.1.result.isOk = false ∧ ended.2.alive = false ∧
      ending.Sends ended.1.rehearsal [Command.setSavepoint 1,
        s.table.upsertStatement layout ⟨"second", .null⟩] := by
  intro s r r' q lent held ending layout batch ended
  refine ⟨⟨rfl, .columns rfl rfl, ?_, ?_, rfl, rfl, rfl, rfl⟩, rfl, rfl, rfl⟩
  · intro i hi
    obtain rfl : i = 0 := Nat.lt_one_iff.1 hi
    rfl
  · intro i hi
    obtain ⟨i, rfl⟩ : ∃ n, i = n + 1 := ⟨i - 1, by omega⟩
    rfl

end DocumentStore

end DocStore
