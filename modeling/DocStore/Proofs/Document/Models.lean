import DocStore.Document.Typed
import DocStore.Proofs.Document.Scoped
import DocStore.Proofs.Json.Record

/-!
# Stores of models

A typed store is the document store seen through its codec (`TypedStore.seen_through_codec`).

* An update of models does what an update of documents does whose function decodes the locked
  documents, changes the models and encodes them: `TypedStore.script_queryAndUpdate`,
  `TypedStore.script_documents`.
* Its function is asked for at most one change, that of the models of all locked documents
  (`TypedStore.Asked`): `TypedStore.perform_of_agree`.
* What its transaction sends is told by what becomes of the locked documents
  (`TypedStore.made`): `TypedStore.course_of_loan`.
-/

namespace DocStore

open Sql (Statement)
open Pool (Rehearsal Sighting)

/-- The first failure is the one of the list. -/
theorem mapM_eq_error {ε α β : Type} {f : α → Except ε β} {front behind : List α} {x : α} {e : ε}
    (hfront : ∀ y ∈ front, (f y).isOk = true) (hx : f x = .error e) :
    (front ++ x :: behind).mapM f = .error e := by
  induction front with
  | nil => simp [hx, bind, Except.bind]
  | cons y rest ih =>
    obtain ⟨hy, hrest⟩ := List.forall_mem_cons.1 hfront
    cases hfy : f y with
    | error e => simp [hfy, Except.isOk, Except.toBool] at hy
    | ok z => simp [hfy, ih hrest, bind, Except.bind]

/-! ## Updates that give something else -/

/-- What follows an answer matters only if there is one. -/
theorem Script.playOn_sendOr_congr {κ α : Type} {s : Stage} {c : Command} (hc : c.IsSent)
    (toError : DatabaseFault → StoreError) {f g : Answer → Script κ α} {memory : Option κ}
    {events : List LogEvent}
    (h : ∀ statement a, s.link.alive = true → s.outcome 0 = .answer a →
      (f a).playOn (s.behind c statement) memory events =
        (g a).playOn (s.behind c statement) memory events) :
    (Script.sendOr toError c >>= f).playOn s memory events =
      (Script.sendOr toError c >>= g).playOn s memory events := by
  cases hlink : s.link.alive with
  | false =>
    have hsend := Stage.send_of_dead hlink c
    rw [Script.sendOr, Script.ask_bind, Script.ask_bind, Script.playOn_ask hsend,
      Script.playOn_ask hsend]
    rfl
  | true =>
    obtain ⟨statement, hstatement⟩ := hc s.link.depth
    rw [Script.playOn_sendOr _ hlink hstatement, Script.playOn_sendOr _ hlink hstatement]
    cases ho : s.outcome 0 with
    | answer a => exact h statement a hlink ho
    | _ => rfl

theorem Script.transaction_bind_done {κ α β : Type} (body : Script κ α) (h : α → β) :
    Script.transaction (body >>= fun a => .done (h a)) =
      Script.transaction body >>= fun a => .done (h a) := by
  rw [Batch.transaction_bind, Script.transaction]
  simp only [Script.bind_assoc]
  rfl

namespace DocumentStore

variable {α β : Type} (s : DocumentStore) (q : Query)

/-- A document that cannot be read is named by its key. -/
theorem malformed_of_readEntry {key : String} {cell : Cell} {e : StoreError}
    (h : readEntry [.text key, cell] = .error e) : ∃ reason, e = .malformedDocument key reason := by
  have hread : readEntry [.text key, cell] =
      ((cell.readJson "\"data\"").mapError (malformed key)).map (⟨key, ·⟩) := by
    cases cell <;> rfl
  rw [hread] at h
  cases cell with
  | null => exact nomatch h
  | text s =>
    rw [Cell.readJson] at h
    cases hs : Json.read s with
    | ok value =>
      rw [hs] at h
      exact nomatch h
    | error fault =>
      rw [hs] at h
      exact ⟨_, (Except.error.inj h).symm⟩
  | _ => exact ⟨_, (Except.error.inj h).symm⟩

/-- What an update does with the documents it has locked. -/
def change (F : List Entry → Except StoreError (List Entry × α)) (layout : TableLayout)
    (answer : Answer) : DocumentTable.Work α := do
  let locked ← Script.lift (answer.rows.mapM readEntry)
  let (updated, result) ← Script.lift (F locked)
  s.table.upsertAll layout updated
  return result

theorem script_updateWith (F : List Entry → Except StoreError (List Entry × α)) (pinned : Bool) :
    (s.updateWith q F).script pinned =
      s.table.resolve pinned >>= fun layout => Script.transaction
        (Script.send (.execute (q.selectKeyed s.tableName true)) >>= s.change F layout) := rfl

theorem change_congr {F F' : List Entry → Except StoreError (List Entry × α)} {layout : TableLayout}
    {answer : Answer}
    (h : ∀ locked, answer.rows.mapM readEntry = .ok locked → F' locked = F locked) :
    s.change F' layout answer = s.change F layout answer := by
  rw [change, change]
  cases hlocked : answer.rows.mapM readEntry with
  | error e => rfl
  | ok locked => rw [Script.lift, Script.done_bind, Script.done_bind, h locked hlocked]

theorem change_map (F : List Entry → Except StoreError (List Entry × α)) (h : α → β)
    (layout : TableLayout) (answer : Answer) :
    s.change (fun locked => (F locked).map fun w => (w.1, h w.2)) layout answer =
      s.change F layout answer >>= fun a => .done (h a) := by
  rw [change, change]
  cases answer.rows.mapM readEntry with
  | error e => rfl
  | ok locked =>
    simp only [Script.lift, Script.done_bind]
    cases F locked with
    | error e => rfl
    | ok w =>
      exact (Script.bind_assoc (s.table.upsertAll layout w.1) (fun _ => .done w.2)
        fun a => .done (h a)).symm

/-- An update that makes something else of what is given is that update, and then makes it. -/
theorem script_updateWith_map (F : List Entry → Except StoreError (List Entry × α)) (h : α → β)
    (pinned : Bool) :
    (s.updateWith q fun locked => (F locked).map fun w => (w.1, h w.2)).script pinned =
      (s.updateWith q F).script pinned >>= fun a => .done (h a) := by
  rw [script_updateWith, script_updateWith, Script.bind_assoc]
  refine congrArg (Script.bind _) (funext fun layout => ?_)
  rw [← Script.transaction_bind_done, Script.bind_assoc]
  refine congrArg Script.transaction (congrArg (Script.bind _) (funext fun answer => ?_))
  exact s.change_map F h layout answer

/-- What an update gives its function gave, for some documents. -/
theorem of_path_updateWith {F : List Entry → Except StoreError (List Entry × α)} {pinned : Bool}
    {past : List (Command × Reply)} {a : α}
    (h : ((s.updateWith q F).script pinned).Path past (.done a)) :
    ∃ locked updated, F locked = .ok (updated, a) := by
  rw [script_updateWith] at h
  obtain ⟨layout, _, _, -, -, h⟩ := Script.Path.of_bind_done h
  obtain ⟨_, _, _, -, hbody⟩ := h.of_transaction_done
  obtain ⟨answer, later, -, h⟩ := Script.Path.of_sendOr hbody
  obtain ⟨locked, -, h⟩ := Script.Path.of_lift h
  obtain ⟨⟨updated, result⟩, hmade, h⟩ := Script.Path.of_lift h
  obtain ⟨_, _, _, -, -, h⟩ := Script.Path.of_bind_done h
  obtain rfl : result = a := (Script.done.inj (Script.Path.of_done h).2).symm
  exact ⟨locked, updated, hmade⟩

/-- Updates come to the same whose functions agree on the documents that are locked. -/
theorem playOn_updateWith_congr (F F' : List Entry → Except StoreError (List Entry × α))
    {stage : Stage} {memory : Option TableLayout}
    (h : ∀ layout behind memory' events answer locked,
      (s.table.resolve false).playOn stage memory [] =
        ⟨.result (.ok layout), behind, memory', events⟩ →
      behind.link.alive = true → (behind.outcome 0).isAnswer = true →
      behind.outcome 1 = .answer answer → answer.rows.mapM readEntry = .ok locked →
      F' locked = F locked) :
    ((s.updateWith q F').script false).playOn stage memory [] =
      ((s.updateWith q F).script false).playOn stage memory [] := by
  rw [script_updateWith, script_updateWith, Script.playOn_bind, Script.playOn_bind]
  generalize hresolved : (s.table.resolve false).playOn stage memory [] = resolved at h
  obtain ⟨ending, behind, memory', events⟩ := resolved
  cases ending with
  | cutOff => rfl
  | result r =>
    cases r with
    | error e => rfl
    | ok layout =>
      refine Script.playOn_sendOr_congr (c := .begin) (Command.isSent_of_ne_ping nofun) _ ?_
      intro statement begun halive hbegin
      rw [Script.bind_assoc, Script.bind_assoc]
      refine Script.playOn_sendOr_congr (c := .execute (q.selectKeyed s.tableName true))
        (Command.isSent_of_ne_ping nofun) _ ?_
      intro statement' answer _ hselect
      rw [Stage.outcome_behind] at hselect
      rw [change_congr s fun locked hlocked => h layout behind memory' events answer locked rfl
        halive (by rw [hbegin]; rfl) hselect hlocked]

end DocumentStore

namespace TypedStore

variable {α : Type} (s : TypedStore α) (q : Query)
  (f : List (String × α) → Except StoreError (List (String × α)))

/-- The update that gives what is saved and also the models of it. -/
def bothUpdate : Operation TableLayout (List Entry × List (String × α)) :=
  s.store.updateWith q fun locked => (s.transform f locked).map fun made => (made.1, made)

/-- The models of the documents of an answer, in the order of the rows. -/
def models (answer : Answer) : Except StoreError (List (String × α)) := do
  let locked ← answer.rows.mapM DocumentStore.readEntry
  locked.mapM s.readEntry

/-- What an update makes of the documents of an answer: the documents to save, and their
models. -/
def made (answer : Answer) : Except StoreError (List Entry × List (String × α)) := do
  let locked ← answer.rows.mapM DocumentStore.readEntry
  s.transform f locked

/-- The function of an update is asked what is to become of these models: the table was seen to,
and the documents that are locked were all read and are these models. -/
def Asked (r : Rehearsal) (memory : Option TableLayout) (items : List (String × α)) : Prop :=
  ∃ grant loan r' layout stage memory' events answer,
    r.seek .lease (some s.store.timeout) = (.loan grant loan, r') ∧
    (s.store.table.resolve false).playOn ⟨loan.link, r'.server.outcomes, []⟩ memory [] =
      ⟨.result (.ok layout), stage, memory', events⟩ ∧
    stage.link.alive = true ∧ (stage.outcome 0).isAnswer = true ∧
    stage.outcome 1 = .answer answer ∧ s.models answer = .ok items

/-- What an update comes to if nothing fails. -/
theorem transform_eq_ok_iff {locked entries : List Entry} {updated : List (String × α)} :
    s.transform f locked = .ok (entries, updated) ↔
      ∃ items, locked.mapM s.readEntry = .ok items ∧ f items = .ok updated ∧
        updated.mapM s.writeEntry = .ok entries := by
  rw [transform]
  cases hitems : locked.mapM s.readEntry with
  | error e => simp [bind, Except.bind]
  | ok items =>
    cases hupdated : f items with
    | error e => simp [bind, Except.bind, hupdated]
    | ok changed =>
      cases hentries : changed.mapM s.writeEntry with
      | error e =>
        simp only [bind, Except.bind, hupdated, hentries]
        constructor
        · exact nofun
        · rintro ⟨items', hitems', hupdated', hentries'⟩
          obtain rfl := Except.ok.inj hitems'
          obtain rfl := Except.ok.inj (hupdated.symm.trans hupdated')
          exact nomatch hentries.symm.trans hentries'
      | ok written =>
        simp only [bind, Except.bind, hupdated, hentries]
        constructor
        · rintro ⟨⟩
          exact ⟨items, rfl, hupdated, hentries⟩
        · rintro ⟨items', hitems', hupdated', hentries'⟩
          obtain rfl := Except.ok.inj hitems'
          obtain rfl := Except.ok.inj (hupdated.symm.trans hupdated')
          obtain rfl := Except.ok.inj (hentries.symm.trans hentries')
          rfl

theorem transform_congr {f' : List (String × α) → Except StoreError (List (String × α))}
    {locked : List Entry} (h : ∀ items, locked.mapM s.readEntry = .ok items → f' items = f items) :
    s.transform f' locked = s.transform f locked := by
  rw [transform, transform]
  cases hitems : locked.mapM s.readEntry with
  | error e => rfl
  | ok items => simp only [bind, Except.bind, h items hitems]

theorem made_eq_ok_iff {answer : Answer} {entries : List Entry} {updated : List (String × α)} :
    s.made f answer = .ok (entries, updated) ↔
      ∃ items, s.models answer = .ok items ∧ f items = .ok updated ∧
        updated.mapM s.writeEntry = .ok entries := by
  rw [made, models]
  cases answer.rows.mapM DocumentStore.readEntry with
  | error e => simp [bind, Except.bind]
  | ok locked => exact s.transform_eq_ok_iff f

/-! ## The two updates -/

theorem script_queryAndUpdate (pinned : Bool) :
    (s.queryAndUpdate q f).script pinned =
      (s.bothUpdate q f).script pinned >>= fun both => .done both.2 := by
  rw [bothUpdate, ← DocumentStore.script_updateWith_map]
  refine congrArg (fun F => (s.store.updateWith q F).script pinned) (funext fun locked => ?_)
  cases s.transform f locked <;> rfl

theorem script_documents (pinned : Bool) :
    (s.store.queryAndUpdate q fun locked => (s.transform f locked).map Prod.fst).script pinned =
      (s.bothUpdate q f).script pinned >>= fun both => .done both.1 := by
  rw [bothUpdate, ← DocumentStore.script_updateWith_map]
  refine congrArg (fun F => (s.store.updateWith q F).script pinned) (funext fun locked => ?_)
  dsimp only
  cases s.transform f locked <;> rfl

/-- The documents that are given are those of the models. -/
theorem writeEntry_of_path {pinned : Bool} {past : List (Command × Reply)} {entries : List Entry}
    {updated : List (String × α)}
    (h : ((s.bothUpdate q f).script pinned).Path past (.done (entries, updated))) :
    updated.mapM s.writeEntry = .ok entries := by
  obtain ⟨locked, saved, hsaved⟩ := s.store.of_path_updateWith q h
  cases hmade : s.transform f locked with
  | error e => simp [hmade, Except.map] at hsaved
  | ok made =>
    simp only [hmade, Except.map, Except.ok.injEq, Prod.mk.injEq] at hsaved
    obtain ⟨-, rfl⟩ := hsaved
    obtain ⟨-, -, -, hentries⟩ := (s.transform_eq_ok_iff f).1 hmade
    exact hentries

section Performed

variable (r : Rehearsal) (memory : Option TableLayout)

theorem perform_queryAndUpdate :
    let both := r.perform s.store.reporter s.store.timeout (s.bothUpdate q f) memory
    r.perform s.store.reporter s.store.timeout (s.queryAndUpdate q f) memory =
      ⟨both.result.map Prod.snd, both.memory, both.rehearsal⟩ :=
  Rehearsal.perform_map Prod.snd rfl rfl fun _ _ _ _ => by
    rw [script_queryAndUpdate, Script.play_bind_done]

theorem perform_documents :
    let both := r.perform s.store.reporter s.store.timeout (s.bothUpdate q f) memory
    r.perform s.store.reporter s.store.timeout
        (s.store.queryAndUpdate q fun locked => (s.transform f locked).map Prod.fst) memory =
      ⟨both.result.map Prod.fst, both.memory, both.rehearsal⟩ :=
  Rehearsal.perform_map Prod.fst rfl rfl fun _ _ _ _ => by
    rw [script_documents, Script.play_bind_done]

variable {s r memory}

/-- The function is asked once at most. -/
theorem Asked.unique {items items' : List (String × α)} (h : s.Asked r memory items)
    (h' : s.Asked r memory items') : items' = items := by
  obtain ⟨_, _, _, _, _, _, _, _, hseek, hresolve, -, -, hanswer, hitems⟩ := h
  obtain ⟨_, _, _, _, _, _, _, _, hseek', hresolve', -, -, hanswer', hitems'⟩ := h'
  obtain ⟨hloan, rfl⟩ := Prod.mk.inj (hseek.symm.trans hseek')
  obtain ⟨-, rfl⟩ := Pool.Sought.loan.inj hloan
  obtain ⟨-, rfl, -, -⟩ := Played.mk.inj (hresolve.symm.trans hresolve')
  obtain rfl := Outcome.answer.inj (hanswer.symm.trans hanswer')
  exact Except.ok.inj (hitems'.symm.trans hitems)

/-- What the function would make of anything else does not matter. -/
theorem perform_of_agree {f' : List (String × α) → Except StoreError (List (String × α))}
    (h : ∀ items, s.Asked r memory items → f' items = f items) :
    r.perform s.store.reporter s.store.timeout (s.queryAndUpdate q f') memory =
      r.perform s.store.reporter s.store.timeout (s.queryAndUpdate q f) memory := by
  refine Rehearsal.perform_congr_of_seek rfl rfl fun grant loan r' hseek => ?_
  have hplay := s.store.playOn_updateWith_congr q (s.transform f) (s.transform f')
    fun layout behind memory' events answer locked hresolve halive hbegin hselect hlocked =>
      s.transform_congr f fun items hitems => h items ⟨grant, loan, r', layout, behind, memory',
        events, answer, hseek, hresolve, halive, hbegin, hselect, by rwa [models, hlocked]⟩
  simp only [Script.play]
  rw [queryAndUpdate, queryAndUpdate, hplay]

end Performed

/-! ## The transaction -/

/-- What the transaction of an update of models comes to: `sent` are its statements, and `result`
is what is given at the end. -/
structure Course (layout : TableLayout) (o : Nat → Outcome) (sent : List Statement)
    (result : Except StoreError (List (String × α))) : Prop where
  /-- The first row whose document cannot be read is named by its key. -/
  unread : ∀ answer front key cell behind e, (o 0).isAnswer = true → o 1 = .answer answer →
    answer.rows = front ++ [.text key, cell] :: behind →
    (∀ row ∈ front, (DocumentStore.readEntry row).isOk = true) →
    DocumentStore.readEntry [.text key, cell] = .error e →
      ∃ reason, result = .error (.malformedDocument key reason)
  /-- The first document that is no model is named by its key. -/
  undecoded : ∀ answer front e behind cause, (o 0).isAnswer = true → o 1 = .answer answer →
    answer.rows.mapM DocumentStore.readEntry = .ok (front ++ e :: behind) →
    (∀ e ∈ front, (s.codec.decode e.data).isOk = true) → s.codec.decode e.data = .error cause →
      result = .error (.malformedDocument e.key cause.message)
  /-- When reading, decoding, the function or encoding fails, that is reported, nothing is saved
  and nothing is committed. -/
  failed : ∀ e, s.made f (o 1).rows = .error e →
    sent.Sublist [.plain "BEGIN", q.selectKeyed s.store.tableName true, .plain "ROLLBACK"] ∧
      ((o 0).isAnswer = true → (o 1).isAnswer = true → result = .error e)
  /-- What is given was made of the models of the locked documents, and its documents were saved
  in this order and committed. -/
  saved : ∀ updated, result = .ok updated → ∃ items entries,
    s.models (o 1).rows = .ok items ∧ f items = .ok updated ∧
      updated.mapM s.writeEntry = .ok entries ∧
      sent = .plain "BEGIN" :: q.selectKeyed s.store.tableName true ::
        (entries.map (s.store.table.upsertStatement layout) ++ [.plain "COMMIT"]) ∧
      ∀ i < sent.length, (o i).isAnswer = true

theorem verdict_update (layout : TableLayout) (o : Nat → Outcome) :
    ((BatchCall.update s.store q (s.transform f)).batch layout).verdict o =
      (s.made f (o 1).rows).map fun w =>
        (w.1.map (s.store.table.upsertStatement layout), w.2) := by
  rw [BatchCall.batch, Batch.verdict, made]
  cases (o 1).rows.rows.mapM DocumentStore.readEntry with
  | error e => rfl
  | ok locked =>
    simp only [bind, Except.bind]
    cases s.transform f locked <;> rfl

variable {layout : TableLayout} {late : StoreError} {o : Nat → Outcome} {sent : List Statement}
  {result : Except StoreError (List (String × α))}

/-- An update that comes to nothing has nothing to save and nothing to commit. -/
theorem failed_of_allOrNothing {e : StoreError}
    (h : ((BatchCall.update s.store q (s.transform f)).batch layout).AllOrNothing late o sent
      result) (he : s.made f (o 1).rows = .error e) :
    sent.Sublist [.plain "BEGIN", q.selectKeyed s.store.tableName true, .plain "ROLLBACK"] ∧
      ((o 0).isAnswer = true → (o 1).isAnswer = true → result = .error e) := by
  obtain ⟨k, hk, hsent, hresult⟩ := h.course
  have hverdict := s.verdict_update q f layout o
  rw [he] at hverdict
  have hstatements : ((BatchCall.update s.store q (s.transform f)).batch layout).statements o =
      [.plain "BEGIN", q.selectKeyed s.store.tableName true] := by
    rw [Batch.statements, Batch.body, hverdict]
    rfl
  rw [hstatements] at hk hresult
  constructor
  · rw [hsent, Batch.sentUpTo, hstatements]
    refine (List.take_sublist (k + 1) [.plain "BEGIN", q.selectKeyed s.store.tableName true]).append
      (?_ : List.Sublist _ [.plain "ROLLBACK"])
    split
    · exact .refl _
    · exact List.nil_sublist _
  · intro hbegin hselect
    have hlast : ¬ k < 2 := by
      intro hlt
      have hfailed := hk.failed hlt
      obtain rfl | rfl : k = 0 ∨ k = 1 := by omega
      · cases hbegin.symm.trans hfailed
      · cases hselect.symm.trans hfailed
    refine (hresult.trans (if_neg hlast)).trans ?_
    rw [Batch.result, hverdict]
    rfl

/-- An update that gives something has saved and committed its documents. -/
theorem saved_of_allOrNothing {updated : List (String × α)}
    (h : ((BatchCall.update s.store q (s.transform f)).batch layout).AllOrNothing late o sent
      result) (hok : result = .ok updated) :
    ∃ entries, s.made f (o 1).rows = .ok (entries, updated) ∧
      sent = .plain "BEGIN" :: q.selectKeyed s.store.tableName true ::
        (entries.map (s.store.table.upsertStatement layout) ++ [.plain "COMMIT"]) ∧
      ∀ i < sent.length, (o i).isAnswer = true := by
  obtain ⟨k, hk, hsent, hresult⟩ := h.course
  have hverdict := s.verdict_update q f layout o
  rw [hok] at hresult
  split at hresult
  · cases hresult
  · next hlast =>
    rw [Batch.result, hverdict] at hresult
    cases hmade : s.made f (o 1).rows with
    | error e =>
      rw [hmade] at hresult
      cases hresult
    | ok made =>
      obtain ⟨entries, updated'⟩ := made
      rw [hmade] at hresult hverdict
      obtain rfl : updated = updated' := Except.ok.inj hresult
      have hall : k = (((BatchCall.update s.store q (s.transform f)).batch layout).statements
          o).length := Nat.le_antisymm hk.le (Nat.not_lt.1 hlast)
      have hopen : ((BatchCall.update s.store q (s.transform f)).batch layout).isOpen o k =
          false := by
        rw [Batch.isOpen, if_neg, hverdict]
        · rfl
        · rw [Batch.length_steps, ← Batch.length_statements]
          exact hlast
      have hstatements : sent =
          ((BatchCall.update s.store q (s.transform f)).batch layout).statements o := by
        rw [hsent, Batch.sentUpTo, hopen, List.take_of_length_le (by omega)]
        exact List.append_nil _
      refine ⟨entries, rfl, ?_, ?_⟩
      · rw [hstatements, Batch.statements, Batch.body, hverdict]
        rfl
      · rw [hstatements, ← hall]
        exact hk.answered

theorem course_of_allOrNothing
    (h : ((BatchCall.update s.store q (s.transform f)).batch layout).AllOrNothing late o sent
      result) : s.Course q f layout o sent result := by
  refine ⟨?_, ?_, fun e he => s.failed_of_allOrNothing q f h he, fun updated hok => ?_⟩
  · intro answer front key cell behind e hbegin hselect hrows hfront he
    obtain ⟨reason, rfl⟩ := DocumentStore.malformed_of_readEntry he
    refine ⟨reason, (s.failed_of_allOrNothing q f h ?_).2 hbegin (by rw [hselect]; rfl)⟩
    rw [hselect, Outcome.rows, made, hrows, mapM_eq_error hfront he]
    rfl
  · intro answer front e behind cause hbegin hselect hlocked hfront hcause
    refine (s.failed_of_allOrNothing q f h ?_).2 hbegin (by rw [hselect]; rfl)
    have hread : (front ++ e :: behind).mapM s.readEntry =
        .error (.malformedDocument e.key cause.message) := by
      refine mapM_eq_error (fun e' he' => ?_) (by rw [readEntry, hcause])
      have hmodel := hfront e' he'
      rw [readEntry]
      cases hdecode : s.codec.decode e'.data with
      | ok item => rfl
      | error cause' => cases (congrArg Except.isOk hdecode).symm.trans hmodel
    rw [hselect, Outcome.rows, made, hlocked]
    show s.transform f (front ++ e :: behind) = _
    rw [transform, hread]
    rfl
  · obtain ⟨entries, hmade, hsent, hanswered⟩ := s.saved_of_allOrNothing q f h hok
    obtain ⟨items, hitems, hupdated, hentries⟩ := (s.made_eq_ok_iff f).1 hmade
    exact ⟨items, entries, hitems, hupdated, hentries, hsent, hanswered⟩

/-- On a lent connection, once the table was seen to, the update sends the statements of its
transaction and nothing else. -/
theorem course_of_loan {r r' : Rehearsal} {memory memory' : Option TableLayout}
    {grant : Pool.Grant} {loan : Pool.Loan} {stage : Stage} {events : List LogEvent}
    (hclean : r.IsClean)
    (hseek : r.seek .lease (some s.store.timeout) = (.loan grant loan, r'))
    (hresolve : (s.store.table.resolve false).playOn ⟨loan.link, r'.server.outcomes, []⟩ memory [] =
      ⟨.result (.ok layout), stage, memory', events⟩) :
    let performed := r.perform s.store.reporter s.store.timeout (s.queryAndUpdate q f) memory
    ∃ sent,
      performed.rehearsal.server.seen =
        r'.server.seen ++ (stage.sent ++ sent).map Sighting.statement ∧
      s.Course q f layout stage.outcome sent performed.result := by
  intro performed
  obtain ⟨sent, hseen, hbatch⟩ :=
    (BatchCall.update s.store q (s.transform f)).allOrNothing_perform hclean hseek hresolve
  exact ⟨sent, hseen, s.course_of_allOrNothing q f hbatch⟩

/-! ## Saving several models -/

/-- Items for fewer or more keys are refused, and nothing is asked for. -/
theorem perform_saveAll_of_ne {items : List α} {keys : List String}
    {op : Operation TableLayout Unit} (hne : items.length ≠ keys.length)
    (hop : s.saveAll items keys = .ok op) (r : Rehearsal) (memory : Option TableLayout) :
    let refusal := StoreError.mismatchedBatch items.length keys.length
    r.perform s.store.reporter s.store.timeout op memory =
      ⟨.error refusal, memory, r.report [s.store.reporter.failed "save_all" refusal]⟩ := by
  rw [saveAll] at hop
  cases hdata : items.mapM s.codec.encode with
  | error e =>
    rw [hdata] at hop
    exact nomatch hop
  | ok data =>
    rw [hdata] at hop
    obtain rfl := Except.ok.inj hop
    have hlength : items.length = data.length := (mapM_eq_ok_iff.1 hdata).length_eq
    rw [hlength] at hne ⊢
    exact Rehearsal.perform_of_refusal (if_neg hne)

/-- A typed store is its document store seen through its codec.

An update of models comes to what the update of documents comes to that decodes, changes and
encodes; its function is asked once at most, of the models of all locked documents, and nothing
else that it would make matters. -/
theorem seen_through_codec (r : Rehearsal) (memory : Option TableLayout) :
    let onModels := r.perform s.store.reporter s.store.timeout (s.queryAndUpdate q f) memory
    let onDocuments := r.perform s.store.reporter s.store.timeout
      (s.store.queryAndUpdate q fun locked => (s.transform f locked).map Prod.fst) memory
    (onModels.rehearsal = onDocuments.rehearsal ∧ onModels.memory = onDocuments.memory ∧
      ∃ both : Except StoreError (List Entry × List (String × α)),
        onModels.result = both.map Prod.snd ∧ onDocuments.result = both.map Prod.fst ∧
        ∀ entries updated, both = .ok (entries, updated) →
          updated.mapM s.writeEntry = .ok entries) ∧
    (∀ items items', s.Asked r memory items → s.Asked r memory items' → items' = items) ∧
    (∀ f', (∀ items, s.Asked r memory items → f' items = f items) →
      r.perform s.store.reporter s.store.timeout (s.queryAndUpdate q f') memory = onModels) ∧
    (∀ {r' : Rehearsal} {grant : Pool.Grant} {loan : Pool.Loan} {layout : TableLayout}
      {stage : Stage} {memory' : Option TableLayout} {events : List LogEvent}, r.IsClean →
      r.seek .lease (some s.store.timeout) = (.loan grant loan, r') →
      (s.store.table.resolve false).playOn ⟨loan.link, r'.server.outcomes, []⟩ memory [] =
        ⟨.result (.ok layout), stage, memory', events⟩ →
      ∃ sent,
        onModels.rehearsal.server.seen =
          r'.server.seen ++ (stage.sent ++ sent).map Sighting.statement ∧
        s.Course q f layout stage.outcome sent onModels.result) ∧
    ∀ (items : List α) (keys : List String),
      (∀ front item behind e, items = front ++ item :: behind →
        (∀ other ∈ front, (s.codec.encode other).isOk = true) →
        s.codec.encode item = .error e → s.saveAll items keys = .error e) ∧
      (items.length ≠ keys.length → ∀ op, s.saveAll items keys = .ok op →
        let refusal := StoreError.mismatchedBatch items.length keys.length
        r.perform s.store.reporter s.store.timeout op memory =
          ⟨.error refusal, memory, r.report [s.store.reporter.failed "save_all" refusal]⟩) := by
  intro onModels onDocuments
  have hmodels : onModels = _ := s.perform_queryAndUpdate q f r memory
  have hdocuments : onDocuments = _ := s.perform_documents q f r memory
  refine ⟨⟨?_, ?_, ?_⟩, fun _ _ => Asked.unique, fun f' => s.perform_of_agree q f,
    s.course_of_loan q f, fun items keys => ⟨?_, ?_⟩⟩
  · rw [hmodels, hdocuments]
  · rw [hmodels, hdocuments]
  · refine ⟨_, congrArg _ hmodels, congrArg _ hdocuments, fun entries updated hboth => ?_⟩
    obtain ⟨past, hpath⟩ := Rehearsal.path_of_perform hboth
    exact s.writeEntry_of_path q f hpath
  · rintro front item behind e rfl hfront he
    rw [saveAll, mapM_eq_error hfront he]
    rfl
  · exact fun hne op hop => s.perform_saveAll_of_ne hne hop r memory

/-! ### Documents that are texts -/

namespace Texts

open DocumentStore (standingNotes standingColumns answering)

/-- Only texts are documents. -/
def notes : TypedStore String where
  store := standingNotes
  codec :=
    { encode := fun text => .ok (.string text)
      decode := fun
        | .string text => .ok text
        | _ => .error (.serialization "expected a string") }

/-- Puts a mark behind every text. -/
def mark (items : List (String × String)) : Except StoreError (List (String × String)) :=
  .ok (items.map fun item => (item.1, item.2 ++ "!"))

/-- A server where two documents are locked. -/
def holding (second : String) : Rehearsal :=
  answering [standingColumns, .answer .empty,
    .answer ⟨[[.text "first", .text "\"x\""], [.text "second", .text second]], 2⟩]

/-- The rehearsal when a connection was lent. -/
def lent (r : Rehearsal) : Rehearsal := (r.seek .lease (some notes.store.timeout)).2

/-- Seeing to the table. -/
def found (r : Rehearsal) : Played TableLayout TableLayout :=
  (notes.store.table.resolve false).playOn ⟨.fresh, (lent r).server.outcomes, []⟩ none []

def marked (r : Rehearsal) : Pool.Performed TableLayout (List (String × String)) :=
  r.perform notes.store.reporter notes.store.timeout (notes.queryAndUpdate .all mark) none

/-- One update saves and commits its texts; another finds a document that is none. -/
theorem seen_through_codec_mark :
    (∀ second ∈ ["\"y\"", "true"],
      let r := holding second
      let layout : TableLayout := ⟨true, false, false⟩
      r.IsClean ∧
      r.seek .lease (some notes.store.timeout) = (.loan (.lease 1) ⟨1, .fresh⟩, lent r) ∧
      found r = ⟨.result (.ok layout), (found r).stage, some layout, (found r).log⟩ ∧
      ∃ sent,
        (marked r).rehearsal.server.seen =
          (lent r).server.seen ++ ((found r).stage.sent ++ sent).map Sighting.statement ∧
        notes.Course .all mark layout (found r).stage.outcome sent (marked r).result) ∧
    (marked (holding "\"y\"")).result = .ok [("first", "x!"), ("second", "y!")] ∧
    (marked (holding "true")).result =
      .error (.malformedDocument "second" "serialization error: expected a string") := by
  refine ⟨fun second hsecond => ?_, by decide +kernel, by decide +kernel⟩
  obtain ⟨-, -, -, hcourse, -⟩ := seen_through_codec notes .all mark (holding second) none
  simp only [List.mem_cons, List.not_mem_nil, or_false] at hsecond
  rcases hsecond with rfl | rfl
  · exact ⟨nofun, rfl, rfl, hcourse nofun rfl rfl⟩
  · exact ⟨nofun, rfl, rfl, hcourse nofun rfl rfl⟩

end Texts

end TypedStore

end DocStore
