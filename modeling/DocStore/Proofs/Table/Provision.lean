import DocStore.Document.Store
import DocStore.KeyValue.Store
import DocStore.Proofs.Database.Path

/-!
# Seeing to a table

* Looking for a table, and making it if it is missing, leaves the connection as it was: the
  transaction in which the table is made has ended (`DocumentTable.moves_resolve`,
  `KeyValueStore.moves_ensureTable`).
* A table that has columns is not made, and nothing is sown into it:
  `DocumentTable.sends_resolve`.
-/

namespace DocStore

open Script

namespace DocumentTable

variable (t : DocumentTable)

theorem moves_upsert (layout : TableLayout) (e : Entry) : (t.upsert layout e).Moves id :=
  (moves_execute _ _).bind_of_id fun _ => moves_done ()

theorem moves_upsertAll (layout : TableLayout) (entries : List Entry) :
    (t.upsertAll layout entries).Moves id := by
  induction entries with
  | nil => exact moves_done ()
  | cons e rest ih => exact (t.moves_upsert layout e).bind_of_id fun _ => ih

theorem moves_columns : t.columns.Moves id :=
  (moves_execute _ _).bind_of_id fun _ => moves_lift _

theorem moves_sow : t.sow.Moves id := by
  rw [sow]
  split
  · exact moves_done ()
  · exact (moves_lift _).bind_of_id fun entries =>
      (t.moves_upsertAll .full entries).bind_of_id fun _ => moves_note _ _

theorem moves_create : t.create.Moves id := by
  have hbegin : (Script.send .begin : Work Answer).Moves (· + 1) :=
    moves_sendOr _ (Command.isSent_of_ne_ping nofun)
  have hrollback : (Script.send .rollback : Work Answer).Moves (· - 1) :=
    moves_sendOr _ (Command.isSent_of_ne_ping nofun)
  have hcommit : (commit : Work Unit).Moves (· - 1) :=
    (moves_sendOr _ (c := .commit) (Command.isSent_of_ne_ping nofun)).bind
      (g := id) fun _ => moves_done ()
  rw [create]
  refine hbegin.bind (g := (· - 1)) fun _ => moves_ask_execute (fun _ => ?_) (fun _ _ => ?_) rfl
  · exact t.moves_sow.bind_of_id fun _ => hcommit.bind (g := id) fun _ =>
      (moves_note _ _).bind_of_id fun _ => moves_done true
  · dsimp only
    split
    · exact hrollback.bind (g := id) fun _ => (moves_note _ _).bind_of_id fun _ => moves_done false
    · exact moves_fail _ _

theorem moves_provision : t.provision.Moves id := by
  rw [provision]
  refine t.moves_columns.bind_of_id fun columns => ?_
  split
  · next layout _ =>
    split
    · exact (moves_note _ _).bind_of_id fun _ => moves_done (layout, false)
    · exact moves_done (layout, false)
  · exact t.moves_create.bind_of_id fun created => moves_done (TableLayout.full, created)

theorem moves_isUnwritten : isUnwritten.Moves id :=
  (moves_execute _ _).bind_of_id fun _ => moves_lift _

theorem moves_resolve (pinned : Bool) : (t.resolve pinned).Moves id := by
  rw [resolve]
  refine moves_remembered.bind_of_id fun known => ?_
  cases known with
  | some layout => exact moves_done layout
  | none =>
    refine t.moves_provision.bind_of_id fun (layout, created) => ?_
    have hlast (layout : TableLayout) :
        (remembered >>= fun known => pure (known.getD layout) : Work TableLayout).Moves id :=
      moves_remembered.bind_of_id fun known => moves_done (known.getD layout)
    cases pinned with
    | false => exact (moves_keep layout).bind_of_id fun _ => moves_done layout
    | true =>
      cases created with
      | true => exact hlast layout
      | false =>
        refine moves_isUnwritten.bind_of_id fun unwritten => ?_
        cases unwritten with
        | true => exact (moves_keep layout).bind_of_id fun _ => hlast layout
        | false => exact hlast layout

/-! ## What is sent -/

variable {t} {given : Command → Reply → Prop} {P : Command → Prop}

theorem sends_upsertAll {layout : TableLayout} {entries : List Entry}
    (h : ∀ e ∈ entries,
      P (.execute ⟨layout.upsertSql t.name.text, [.text e.key, .text e.data.text]⟩)) :
    (t.upsertAll layout entries).Sends given P := by
  induction entries with
  | nil => trivial
  | cons e rest ih =>
    obtain ⟨he, hrest⟩ := List.forall_mem_cons.1 h
    have hupsert : (t.upsert layout e).Sends given P := sends_sendOr he fun _ _ => trivial
    exact hupsert.bind fun _ => ih hrest

theorem sends_create (hbegin : P .begin)
    (hcreate : P (.execute (.plain (TableLayout.createTableSql t.name.text))))
    (hseed : ∀ entries, t.seed = some (.ok entries) → ∀ e ∈ entries,
      P (.execute ⟨TableLayout.full.upsertSql t.name.text, [.text e.key, .text e.data.text]⟩))
    (hcommit : P .commit) (hrollback : P .rollback) : t.create.Sends given P := by
  have hsow : t.sow.Sends given P := by
    rw [sow]
    split
    · trivial
    · next seed hs =>
      refine sends_lift fun entries hentries => ?_
      exact (sends_upsertAll (hseed entries (by rw [hs, hentries]))).bind fun _ => trivial
  refine sends_sendOr hbegin fun _ _ => ⟨hcreate, fun r _ => ?_⟩
  cases r with
  | ok a => exact hsow.bind fun _ => (sends_commit hcommit).bind fun _ => trivial
  | error fault =>
    dsimp only
    split
    · exact sends_sendOr hrollback fun _ _ => trivial
    · trivial

/-- Every row gives one value. -/
theorem rows_eq_nil_of_readAll {α : Type} {read : List Cell → Except DatabaseFault α} {a : Answer}
    (h : a.readAll read = .ok []) : a.rows = [] := by
  rw [Answer.readAll] at h
  cases hrows : a.rows with
  | nil => rfl
  | cons row rest =>
    rw [hrows, List.mapM_cons] at h
    cases hrow : read row with
    | error fault => rw [hrow] at h; exact nomatch h
    | ok x =>
      cases hrest : rest.mapM read with
      | error fault => rw [hrow, hrest] at h; exact nomatch h
      | ok xs => rw [hrow, hrest] at h; exact nomatch h

/-- The table is looked for, and made if there are no columns. -/
theorem sends_resolve
    (hlook : P (.execute ⟨TableLayout.columnsSql, [.text t.name.text]⟩))
    (hcreate : (∀ a, given (.execute ⟨TableLayout.columnsSql, [.text t.name.text]⟩) (.ok a) →
        a.rows ≠ []) ∨ t.create.Sends given P) : (t.resolve false).Sends given P := by
  have hprovision : t.provision.Sends given P := by
    rw [provision, columns, Script.bind_assoc]
    refine sends_sendOr hlook fun a ha => sends_lift fun names hnames => ?_
    split
    · split <;> trivial
    · next hnone =>
      refine hcreate.elim (fun hrows => absurd ?_ (hrows a ha)) fun hcreate =>
        hcreate.bind fun _ => trivial
      have hempty : names = [] := by
        rw [TableLayout.ofColumns?] at hnone
        split at hnone
        · next hnames => exact List.isEmpty_iff.1 hnames
        · exact nomatch hnone
      cases hread : a.readAll fun row => Cell.atPlace Cell.readText row 0 with
      | error fault => rw [hread] at hnames; exact nomatch hnames
      | ok names' =>
        rw [hread] at hnames
        obtain rfl : names' = names := Except.ok.inj hnames
        exact rows_eq_nil_of_readAll (hempty ▸ hread)
  refine fun known => ?_
  cases known with
  | some layout => trivial
  | none => exact hprovision.bind fun _ => trivial

end DocumentTable

namespace KeyValueStore

theorem moves_ensureTable (s : KeyValueStore) : s.ensureTable.Moves id := by
  rw [ensureTable]
  refine moves_remembered.bind_of_id fun known => ?_
  cases known with
  | some _ => exact moves_done ()
  | none =>
    refine moves_ask_execute (fun _ => moves_keep ()) (fun _ _ => ?_) rfl
    dsimp only
    split
    · exact moves_keep ()
    · exact moves_fail _ _

end KeyValueStore

end DocStore
