import DocStore.Proofs.Table.Provision

/-!
# What a script can tell about its table

A store remembers a table only if it is committed.  What a script was answered so far is
evidence for this (`Evidence`): it has seen columns, it was told that its transaction has
written nothing, its own transaction was committed, or somebody else was faster.

* A script that remembers nothing without evidence (`Script.Learns`) is put together from
  scripts that do not: `Learns.bind`.
* What makes the table, or finds it, knows afterwards whether it is committed:
  `DocumentTable.learns_create`, `DocumentTable.learns_provision`.
* So seeing to a table remembers nothing without evidence: `DocumentTable.learns_resolve`.
-/

namespace DocStore

open Sql (Statement)

namespace DocumentTable

/-- Asks for the columns of the table. -/
def columnsStatement (t : DocumentTable) : Statement :=
  ⟨TableLayout.columnsSql, [.text t.name.text]⟩

/-- Makes the table. -/
def createStatement (t : DocumentTable) : Statement :=
  .plain (TableLayout.createTableSql t.name.text)

/-- Asks whether nothing was written yet. -/
def unwrittenStatement : Statement := ⟨unwrittenSql, []⟩

/-- Reads the answer to that. -/
def readUnwritten (a : Answer) : Except DatabaseFault Bool :=
  a.readFirst fun row => Cell.atPlace Cell.readBoolean row 0

end DocumentTable

/-- What is certain about a table on one connection. -/
structure Evidence where
  /-- How many transactions are open. -/
  depth : Option Nat
  /-- The session sees the table. -/
  isVisible : Prop
  /-- The table is committed. -/
  isCommitted : Prop

namespace Evidence

/-- What is certain at first.  The caller of a `pinned` connection may have transactions open. -/
def start (pinned : Bool) : Evidence := ⟨if pinned then none else some 0, False, False⟩

/-- A statement was answered.  What can be seen outside of transactions is committed, and so is
what can be seen in a transaction that has written nothing. -/
def shown (t : DocumentTable) (k : Evidence) (s : Statement) (a : Answer) : Evidence :=
  let isVisible := k.isVisible ∨ s = t.columnsStatement ∧ a.rows ≠ [] ∨ s = t.createStatement
  { k with
    isVisible
    isCommitted := k.isCommitted ∨ isVisible ∧ k.depth = some 0 ∨
      k.isVisible ∧ s = DocumentTable.unwrittenStatement ∧
        DocumentTable.readUnwritten a = .ok true }

/-- A command was replied to. -/
def after (t : DocumentTable) (k : Evidence) (c : Command) : Reply → Evidence
  | .ok a =>
      match c with
      | .execute s => k.shown t s a
      | .begin => { k with depth := k.depth.map (· + 1) }
      | .commit =>
          { k with
            depth := k.depth.map (· - 1)
            isCommitted := k.isCommitted ∨ k.isVisible ∧ k.depth = some 1 }
      | .rollback => ⟨k.depth.map (· - 1), False, k.isCommitted⟩
      | .ping => k
  | .error fault =>
      ⟨none, False, k.isCommitted ∨
        c = .execute t.createStatement ∧ fault.toError.isAlreadyExists = true⟩

/-- No less is certain. -/
structure Extends (k k' : Evidence) : Prop where
  depth : k'.depth = k.depth
  isVisible : k.isVisible → k'.isVisible
  isCommitted : k.isCommitted → k'.isCommitted

theorem Extends.refl (k : Evidence) : k.Extends k := ⟨rfl, id, id⟩

theorem Extends.trans {k k' k'' : Evidence} (h : k.Extends k') (h' : k'.Extends k'') :
    k.Extends k'' :=
  ⟨h'.depth.trans h.depth, fun hk => h'.isVisible (h.isVisible hk),
    fun hk => h'.isCommitted (h.isCommitted hk)⟩

theorem extends_shown (t : DocumentTable) (k : Evidence) (s : Statement) (a : Answer) :
    k.Extends (k.shown t s a) :=
  ⟨rfl, .inl, .inl⟩

end Evidence

namespace Script

variable {α β : Type} {t : DocumentTable} {k : Evidence} {Q : Evidence → α → Prop}
  {R : Evidence → β → Prop}

/-- The script remembers nothing unless the table is certain to be committed.  When it is done,
it gives something of which `Q` holds. -/
def Learns (t : DocumentTable) (Q : Evidence → α → Prop) : Evidence → Script TableLayout α → Prop
  | k, done a => Q k a
  | _, fail _ => True
  | k, ask c next => ∀ r, (next r).Learns t Q (k.after t c r)
  | k, log _ next => next.Learns t Q k
  | k, inspect next => ∀ known, (next known).Learns t Q k
  | k, remember _ next => k.isCommitted ∧ next.Learns t Q k

theorem Learns.bind {x : Script TableLayout α} {f : α → Script TableLayout β}
    (hx : x.Learns t Q k) (hf : ∀ k a, Q k a → (f a).Learns t R k) :
    (x >>= f).Learns t R k := by
  induction x generalizing k with
  | done a => exact hf k a hx
  | fail e => trivial
  | ask c next ih => exact fun r => ih r (hx r)
  | log e next ih => exact ih hx
  | inspect next ih => exact fun known => ih known (hx known)
  | remember layout next ih => exact ⟨hx.1, ih hx.2⟩

theorem Learns.imp {Q' : Evidence → α → Prop} {x : Script TableLayout α} (hx : x.Learns t Q k)
    (h : ∀ k a, Q k a → Q' k a) : x.Learns t Q' k := by
  rw [← Script.bind_done x]
  exact hx.bind h

theorem learns_sendOr {toError : DatabaseFault → StoreError} {c : Command}
    {f : Answer → Script TableLayout β}
    (hf : ∀ a, (f a).Learns t R (k.after t c (.ok a))) :
    (sendOr toError c >>= f).Learns t R k := by
  intro r
  cases r with
  | ok a => exact hf a
  | error fault => trivial

theorem learns_lift {r : Except StoreError α} (h : ∀ a, r = .ok a → Q k a) :
    (lift r).Learns t Q k := by
  cases r with
  | ok a => exact h a rfl
  | error e => trivial

end Script

namespace DocumentTable

open Script

variable {t : DocumentTable} {k : Evidence}

/-- Only a table that is seen has columns. -/
theorem learns_columns : t.columns.Learns t
    (fun k' names => k.Extends k' ∧
      (names ≠ [] → k'.isVisible ∧ (k.depth = some 0 → k'.isCommitted))) k := by
  rw [columns]
  refine learns_sendOr fun a => learns_lift fun names hnames => ?_
  refine ⟨Evidence.extends_shown t k t.columnsStatement a, fun hne => ?_⟩
  have hrows : a.rows ≠ [] := by
    intro hnil
    rw [Answer.readAll, hnil] at hnames
    exact hne (Except.ok.inj hnames).symm
  have hseen : (k.shown t t.columnsStatement a).isVisible := .inr (.inl ⟨rfl, hrows⟩)
  exact ⟨hseen, fun hdepth => .inr (.inl ⟨hseen, hdepth⟩)⟩

theorem learns_upsertAll (layout : TableLayout) (entries : List Entry) :
    (t.upsertAll layout entries).Learns t (fun k' _ => k.Extends k') k := by
  induction entries generalizing k with
  | nil => exact .refl k
  | cons e rest ih =>
    have hupsert : (t.upsert layout e).Learns t (fun k' _ => k.Extends k') k :=
      learns_sendOr fun a => Evidence.extends_shown t k _ a
    refine hupsert.bind fun k' _ hk => ?_
    exact (ih (k := k')).imp fun k'' _ hk' => hk.trans hk'

theorem learns_sow : t.sow.Learns t (fun k' _ => k.Extends k') k := by
  rw [sow]
  split
  · exact .refl k
  · next seed _ =>
    exact (learns_lift (Q := fun k' _ => k' = k) fun _ _ => rfl).bind fun k' entries hk =>
      hk ▸ (learns_upsertAll .full entries).bind fun _ _ hk' => hk'

/-- A table that is made outside of other transactions is committed, and so is a table that
somebody else has made. -/
theorem learns_create : t.create.Learns t
    (fun k' created => (k.depth = some 0 → k'.isCommitted) ∧ (created = false → k'.isCommitted))
    k := by
  rw [create]
  refine learns_sendOr fun a r => ?_
  cases r with
  | ok a' =>
    -- The table that is made now is seen until the commit, and its transaction is the only one.
    refine learns_sow.bind fun k₁ _ hk₁ => ?_
    have hcommit : (commit : Work Unit).Learns t
        (fun k' _ => k.depth = some 0 → k'.isCommitted) k₁ := by
      refine learns_sendOr fun a'' => ?_
      intro hdepth
      have hopen : k₁.depth = some 1 := by
        rw [hk₁.depth]
        exact congrArg (Option.map (· + 1)) hdepth
      exact .inr ⟨hk₁.isVisible (.inr (.inr rfl)), hopen⟩
    refine hcommit.bind fun k₂ _ hk₂ => ⟨hk₂, fun hcreated => ?_⟩
    cases hcreated
  | error fault =>
    dsimp only
    split
    · next hexists =>
      refine learns_sendOr fun a'' => ?_
      have hcommitted : (((k.after t .begin (.ok a)).after t (.execute t.createStatement)
          (.error fault)).after t .rollback (.ok a'')).isCommitted := .inr ⟨rfl, hexists⟩
      exact ⟨fun _ => hcommitted, fun _ => hcommitted⟩
    · trivial

/-- A table that is found is seen, and so it is committed outside of transactions. -/
theorem learns_provision : t.provision.Learns t
    (fun k' found => (k.depth = some 0 → k'.isCommitted) ∧
      (found.2 = false → k'.isVisible ∨ k'.isCommitted)) k := by
  rw [provision]
  refine learns_columns.bind fun k₁ names hk₁ => ?_
  obtain ⟨hextends, hcolumns⟩ := hk₁
  split
  · next layout hlayout =>
    have hne : names ≠ [] := by
      intro hnil
      rw [hnil] at hlayout
      cases hlayout
    obtain ⟨hvisible, hcommitted⟩ := hcolumns hne
    split
    · exact ⟨hcommitted, fun _ => .inl hvisible⟩
    · exact ⟨hcommitted, fun _ => .inl hvisible⟩
  · refine learns_create.bind fun k₂ created hk₂ => ?_
    obtain ⟨hcommitted, hothers⟩ := hk₂
    exact ⟨fun hdepth => hcommitted (hextends.depth.trans hdepth),
      fun hcreated => .inr (hothers hcreated)⟩

/-- A transaction that has written nothing sees only what is committed. -/
theorem learns_isUnwritten : isUnwritten.Learns t
    (fun k' unwritten => unwritten = true → k.isVisible ∨ k.isCommitted → k'.isCommitted) k := by
  rw [isUnwritten]
  refine learns_sendOr fun a => learns_lift fun unwritten hread htrue hsure => ?_
  have hanswer : readUnwritten a = .ok true := by
    cases hread' : readUnwritten a with
    | error fault =>
      rw [readUnwritten] at hread'
      rw [hread'] at hread
      exact nomatch hread
    | ok b =>
      rw [readUnwritten] at hread'
      rw [hread'] at hread
      rw [← htrue]
      exact congrArg _ (Except.ok.inj hread)
  exact hsure.elim (fun hvisible => .inr (.inr ⟨hvisible, rfl, hanswer⟩)) .inl

/-- Seeing to a table remembers it only if it is committed. -/
theorem learns_resolve (pinned : Bool) :
    (t.resolve pinned).Learns t (fun _ _ => True) (.start pinned) := by
  rw [resolve]
  intro known
  cases known with
  | some layout => trivial
  | none =>
    refine learns_provision.bind fun k found hk => ?_
    obtain ⟨layout, created⟩ := found
    obtain ⟨houtside, hfound⟩ := hk
    cases pinned with
    | false => exact ⟨houtside rfl, trivial⟩
    | true =>
      cases created with
      | true => exact fun _ => trivial
      | false =>
        refine learns_isUnwritten.bind fun k' unwritten hk' => ?_
        cases unwritten with
        | true => exact ⟨hk' rfl (hfound rfl), fun _ => trivial⟩
        | false => exact fun _ => trivial

end DocumentTable

end DocStore
