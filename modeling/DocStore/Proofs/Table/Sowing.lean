import DocStore.Proofs.Document.FirstUse

/-!
# What is done to a table

What sessions do to a table and its documents (`Deed`): it is made, it is given the documents to
start with, and anything else is done to it.  A session does it in its transactions
(`Levels.carryOut`), and what it has committed stands in a ledger with what others have.

* Seeing to a table saves documents only behind the answer that the table was made, in the
  transaction in which it was made (`Script.Sows`): `DocumentTable.sows_resolve`.
* In an orderly ledger (`IsOrderly`) the table is made first, and the documents to start with
  stand before everything else, but for those of a store that was answered that the table was
  made although it was there.
* A session that does only what is proper (`IsProper`) leaves the ledger orderly:
  `Levels.keeps_carryOut`.
-/

namespace DocStore

open Sql (Statement)

/-! ## Scripts that sow -/

namespace DocumentTable

/-- The command saves a document while the table is seen to: it is none of the statements that
look for the table, make it, or ask whether something was written. -/
def IsSowing (t : DocumentTable) (c : Command) : Prop :=
  ∃ s, c = .execute s ∧ ¬ t.IsProvision s ∧ s ≠ unwrittenStatement

end DocumentTable

/-- How far a script has got with making a table. -/
inductive Phase where
  | away
  /-- It has begun a transaction. -/
  | begun
  /-- It was answered that the table was made in this transaction. -/
  | making
  deriving DecidableEq

/-- A command was replied to. -/
def Phase.after (t : DocumentTable) (p : Phase) : Command → Reply → Phase
  | .begin, .ok _ => .begun
  | .execute s, .ok _ =>
      if s = t.createStatement then if p = .begun then .making else .away else p
  | _, _ => .away

namespace Script

open DocumentTable

variable {α β : Type} {t : DocumentTable} {p : Phase} {Q : Phase → α → Prop}
  {R : Phase → β → Prop}

/-- The script saves documents only where it is making the table.  When it is done, it gives
something of which `Q` holds. -/
def Sows (t : DocumentTable) (Q : Phase → α → Prop) : Phase → Script TableLayout α → Prop
  | p, done a => Q p a
  | _, fail _ => True
  | p, ask c next => (t.IsSowing c → p = .making) ∧ ∀ r, (next r).Sows t Q (p.after t c r)
  | p, log _ next | p, remember _ next => next.Sows t Q p
  | p, inspect next => ∀ known, (next known).Sows t Q p

theorem Sows.bind {x : Script TableLayout α} {f : α → Script TableLayout β} (hx : x.Sows t Q p)
    (hf : ∀ p a, Q p a → (f a).Sows t R p) : (x >>= f).Sows t R p := by
  induction x generalizing p with
  | done a => exact hf p a hx
  | fail e => trivial
  | ask c next ih => exact ⟨hx.1, fun r => ih r (hx.2 r)⟩
  | log e next ih => exact ih hx
  | inspect next ih => exact fun known => ih known (hx known)
  | remember layout next ih => exact ih hx

theorem sows_sendOr {toError : DatabaseFault → StoreError} {c : Command}
    {f : Answer → Script TableLayout β} (hc : t.IsSowing c → p = .making)
    (hf : ∀ a, (f a).Sows t R (p.after t c (.ok a))) : (sendOr toError c >>= f).Sows t R p := by
  refine ⟨hc, fun r => ?_⟩
  cases r with
  | ok a => exact hf a
  | error fault => trivial

theorem sows_lift {r : Except StoreError α} {f : α → Script TableLayout β}
    (hf : ∀ a, (f a).Sows t R p) : (lift r >>= f).Sows t R p := by
  cases r with
  | ok a => exact hf a
  | error e => trivial

end Script

namespace DocumentTable

open Script

variable {t : DocumentTable} {p : Phase}

theorem not_isSowing_begin : ¬ t.IsSowing .begin := by
  rintro ⟨s, ⟨⟩, -⟩

theorem not_isSowing_commit : ¬ t.IsSowing .commit := by
  rintro ⟨s, ⟨⟩, -⟩

theorem not_isSowing_rollback : ¬ t.IsSowing .rollback := by
  rintro ⟨s, ⟨⟩, -⟩

theorem not_isSowing_columns : ¬ t.IsSowing (.execute t.columnsStatement) := by
  rintro ⟨s, ⟨⟩, h, -⟩
  exact h (.inl rfl)

theorem not_isSowing_create : ¬ t.IsSowing (.execute t.createStatement) := by
  rintro ⟨s, ⟨⟩, h, -⟩
  exact h (.inr rfl)

theorem not_isSowing_unwritten : ¬ t.IsSowing (.execute unwrittenStatement) := by
  rintro ⟨s, ⟨⟩, -, h⟩
  exact h rfl

/-- Where the table is being made, it still is behind every document. -/
theorem sows_upsertAll (layout : TableLayout) (entries : List Entry) :
    (t.upsertAll layout entries).Sows t (fun p _ => p = .making) .making := by
  induction entries with
  | nil => rfl
  | cons e rest ih =>
    have hne : t.upsertStatement layout e ≠ t.createStatement := fun heq =>
      isWork_upsertStatement layout e 0 _ rfl (.inr heq)
    have hupsert : (t.upsert layout e).Sows t (fun p _ => p = .making) .making := by
      refine sows_sendOr (fun _ => rfl) fun a => ?_
      change Phase.after t .making (.execute (t.upsertStatement layout e)) (.ok a) = .making
      rw [Phase.after, if_neg hne]
    exact hupsert.bind fun p _ hp => hp ▸ ih

theorem sows_sow : t.sow.Sows t (fun p _ => p = .making) .making := by
  rw [sow]
  split
  · rfl
  · exact sows_lift fun entries => (sows_upsertAll .full entries).bind fun p _ hp => hp

theorem sows_commit : (commit : Work Unit).Sows t (fun _ _ => True) p :=
  sows_sendOr (fun h => absurd h not_isSowing_commit) fun _ => trivial

theorem sows_create : t.create.Sows t (fun _ _ => True) p := by
  rw [create]
  refine sows_sendOr (fun h => absurd h not_isSowing_begin) fun a =>
    ⟨fun h => absurd h not_isSowing_create, fun r => ?_⟩
  cases r with
  | ok a' =>
    have hmaking : (p.after t .begin (.ok a)).after t
        (.execute (.plain (TableLayout.createTableSql t.name.text))) (.ok a') = .making :=
      if_pos rfl
    rw [hmaking]
    exact sows_sow.bind fun _ _ _ => sows_commit.bind fun _ _ _ => trivial
  | error fault =>
    dsimp only
    split
    · exact sows_sendOr (fun h => absurd h not_isSowing_rollback) fun _ => trivial
    · trivial

theorem sows_provision : t.provision.Sows t (fun _ _ => True) p := by
  rw [provision, columns, Script.bind_assoc]
  refine sows_sendOr (fun h => absurd h not_isSowing_columns) fun a => sows_lift fun names => ?_
  split
  · split <;> trivial
  · exact sows_create.bind fun _ _ _ => trivial

theorem sows_isUnwritten : isUnwritten.Sows t (fun _ _ => True) p :=
  sows_sendOr (fun h => absurd h not_isSowing_unwritten) fun a => by
    rw [← Script.bind_done (lift _)]
    exact sows_lift fun _ => trivial

/-- Seeing to a table saves documents only where it is making the table. -/
theorem sows_resolve (pinned : Bool) : (t.resolve pinned).Sows t (fun _ _ => True) p := by
  rw [resolve]
  intro known
  cases known with
  | some layout => trivial
  | none =>
    refine sows_provision.bind fun _ found _ => ?_
    obtain ⟨layout, created⟩ := found
    cases pinned with
    | false => trivial
    | true =>
      cases created with
      | true => exact fun _ => trivial
      | false =>
        refine sows_isUnwritten.bind fun _ unwritten _ => ?_
        cases unwritten with
        | true => exact fun _ => trivial
        | false => exact fun _ => trivial

end DocumentTable

/-! ## Deeds -/

/-- What is done to a table and its documents. -/
inductive Deed where
  | made
  /-- A document to start with is saved.  It is late if the store was answered that the table was
  made although it was there. -/
  | seed (isLate : Bool) (s : Statement)
  /-- Anything else is done. -/
  | own (s : Statement)
  deriving DecidableEq

namespace Deed

/-- A document to start with is saved in the transaction in which the table is made. -/
def isPrompt : Deed → Bool
  | seed false _ => true
  | _ => false

def isLate : Deed → Bool
  | seed true _ => true
  | _ => false

/-- It may be done to a table that is there. -/
def IsLater (d : Deed) : Prop := d ≠ made ∧ d.isPrompt = false

def statement? : Deed → Option Statement
  | made => none
  | seed _ s | own s => some s

end Deed

/-- The table is made first, and the documents to start with stand before everything else that is
done to it, unless they are late. -/
def IsOrderly : List Deed → Prop
  | [] => True
  | d :: rest =>
      d = .made ∧ .made ∉ rest ∧ rest.Pairwise fun a b => b.isPrompt = true → a.isPrompt = true

namespace IsOrderly

variable {deeds later : List Deed} {d : Deed}

theorem head (h : IsOrderly deeds) (hne : deeds ≠ []) : .made ∈ deeds := by
  cases deeds with
  | nil => exact absurd rfl hne
  | cons d rest => exact h.1 ▸ List.mem_cons_self

theorem of_append (h : IsOrderly (deeds ++ later)) : IsOrderly deeds := by
  cases deeds with
  | nil => trivial
  | cons d rest =>
    obtain ⟨hd, hmade, hrest⟩ := h
    exact ⟨hd, fun hmem => hmade (List.mem_append_left _ hmem), (List.pairwise_append.1 hrest).1⟩

/-- More is done to a table that was made. -/
theorem append_later (h : IsOrderly deeds) (hne : deeds ≠ []) (hlater : ∀ d ∈ later, d.IsLater) :
    IsOrderly (deeds ++ later) := by
  cases deeds with
  | nil => exact absurd rfl hne
  | cons d rest =>
    obtain ⟨hd, hmade, hrest⟩ := h
    refine ⟨hd, fun hmem => ?_, List.pairwise_append.2 ⟨hrest, ?_, fun a _ b hb hprompt => ?_⟩⟩
    · exact (List.mem_append.1 hmem).elim hmade fun hmem => (hlater _ hmem).1 rfl
    · exact List.pairwise_of_forall_mem_list fun a _ b hb hprompt =>
        nomatch (hlater b hb).2.symm.trans hprompt
    · exact nomatch (hlater b hb).2.symm.trans hprompt

/-- The documents to start with are saved one after the other. -/
theorem concat_prompt (hprompt : ∀ d ∈ later, d.isPrompt = true) (hd : d.isPrompt = true) :
    IsOrderly (.made :: (later ++ [d])) := by
  have hall : ∀ d' ∈ later ++ [d], d'.isPrompt = true := by
    intro d' hd'
    rcases List.mem_append.1 hd' with hd' | hd'
    · exact hprompt d' hd'
    · exact List.mem_singleton.1 hd' ▸ hd
  refine ⟨rfl, fun hmem => (nomatch hall .made hmem), ?_⟩
  exact List.pairwise_of_forall_mem_list fun a ha b _ _ => hall a ha

end IsOrderly

/-! ## Sessions -/

/-- What is pending in a session goes with what is committed: if nothing is committed, then it can
make the table, and otherwise it can do what may be done to a table that is there. -/
def Fits (ledger pending : List Deed) : Prop :=
  if ledger = [] then IsOrderly pending else ∀ d ∈ pending, d.IsLater

/-- Whether a session sees the table. -/
def sees (ledger pending : List Deed) : Bool := decide (.made ∈ ledger ∨ .made ∈ pending)

/-- The table is made unless the session sees it, and nothing else is done unless it does. -/
inductive IsProper (ledger pending : List Deed) : Deed → Prop where
  | made (h : sees ledger pending = false) : IsProper ledger pending .made
  | later {d : Deed} (h : sees ledger pending = true) (hd : d.IsLater) : IsProper ledger pending d
  | prompt {d : Deed} {seeds : List Deed} (h : pending = .made :: seeds)
      (hseeds : ∀ d ∈ seeds, d.isPrompt = true) (hd : d.isPrompt = true) :
      IsProper ledger pending d

section Fits

variable {ledger pending later : List Deed} {d : Deed}

theorem sees_iff : sees ledger pending = true ↔ .made ∈ ledger ∨ .made ∈ pending :=
  decide_eq_true_iff

theorem fits_nil (ledger : List Deed) : Fits ledger [] := by
  rw [Fits]
  split
  · trivial
  · exact nofun

theorem Fits.of_append (h : Fits ledger (pending ++ later)) : Fits ledger pending := by
  by_cases hne : ledger = []
  · rw [Fits, if_pos hne] at h ⊢
    exact h.of_append
  · rw [Fits, if_neg hne] at h ⊢
    exact fun d hd => h d (List.mem_append_left _ hd)

/-- Nobody makes a table that is committed. -/
theorem Fits.isLater (h : Fits ledger pending) (hne : ledger ≠ []) : ∀ d ∈ pending, d.IsLater := by
  rwa [Fits, if_neg hne] at h

/-- What is pending is committed. -/
theorem Fits.commit (h : Fits ledger pending) (hledger : IsOrderly ledger) :
    IsOrderly (ledger ++ pending) := by
  by_cases hne : ledger = []
  · rw [Fits, if_pos hne] at h
    rw [hne]
    exact h
  · exact hledger.append_later hne (h.isLater hne)

/-- Who does not see the table has nothing to do with it. -/
theorem Fits.eq_nil_of_unseen (h : Fits ledger pending) (hledger : IsOrderly ledger)
    (hsees : sees ledger pending = false) : ledger = [] ∧ pending = [] := by
  have hnot : ¬ (.made ∈ ledger ∨ .made ∈ pending) := decide_eq_false_iff_not.1 hsees
  have hnil : ledger = [] :=
    Classical.byContradiction fun hne => hnot (.inl (hledger.head hne))
  rw [Fits, if_pos hnil] at h
  exact ⟨hnil, Classical.byContradiction fun hne => hnot (.inr (h.head hne))⟩

theorem IsProper.isLater (hd : IsProper ledger pending d) (h : Fits ledger pending)
    (hledger : IsOrderly ledger) (hne : ledger ≠ []) : d.IsLater := by
  cases hd with
  | made hsees => exact absurd (h.eq_nil_of_unseen hledger hsees).1 hne
  | later hsees hd => exact hd
  | prompt hpending hseeds hd =>
    exact absurd rfl (h.isLater hne .made (hpending ▸ List.mem_cons_self)).1

/-- Something proper is done in a transaction. -/
theorem Fits.concat (h : Fits ledger pending) (hledger : IsOrderly ledger)
    (hd : IsProper ledger pending d) : Fits ledger (pending ++ [d]) := by
  have hunseen := h.eq_nil_of_unseen hledger
  by_cases hne : ledger = []
  · rw [Fits, if_pos hne] at h ⊢
    cases hd with
    | made hsees =>
      rw [(hunseen hsees).2]
      exact ⟨rfl, List.not_mem_nil, .nil⟩
    | later hsees hd =>
      have hpending : pending ≠ [] := by
        rintro rfl
        exact (sees_iff.1 hsees).elim (hne ▸ List.not_mem_nil) List.not_mem_nil
      exact h.append_later hpending fun d' hd' => List.mem_singleton.1 hd' ▸ hd
    | prompt hpending hseeds hd =>
      rw [hpending]
      exact .concat_prompt hseeds hd
  · rw [Fits, if_neg hne]
    intro d' hd'
    rcases List.mem_append.1 hd' with hd' | hd'
    · exact h.isLater hne d' hd'
    · exact List.mem_singleton.1 hd' ▸ hd.isLater h hledger hne

end Fits

namespace Levels

/-- What is pending in the transactions that are open, the innermost first. -/
def pending (levels : List (List Deed)) : List Deed := levels.reverse.flatten

/-- A command is carried out.  What it commits comes second. -/
def carryOut (levels : List (List Deed)) (deed? : Statement → Option Deed) :
    Command → List (List Deed) × List Deed
  | .begin => ([] :: levels, [])
  | .commit =>
      match levels with
      | [] => ([], [])
      | [deeds] => ([], deeds)
      | inner :: outer :: rest => ((outer ++ inner) :: rest, [])
  | .rollback => (levels.tail, [])
  | .execute s =>
      match levels with
      | [] => ([], (deed? s).toList)
      | inner :: outer => ((inner ++ (deed? s).toList) :: outer, [])
  | .ping => (levels, [])

variable {levels : List (List Deed)} {ledger : List Deed} {deed? : Statement → Option Deed}

@[simp] theorem pending_cons (inner : List Deed) (outer : List (List Deed)) :
    pending (inner :: outer) = pending outer ++ inner := by
  simp [pending]

@[simp] theorem pending_nil : pending [] = [] := rfl

/-- Whatever is pending or committed behind a command was pending, or is done by it. -/
theorem mem_carryOut {c : Command} {d : Deed}
    (h : d ∈ pending (carryOut levels deed? c).1 ∨ d ∈ (carryOut levels deed? c).2) :
    d ∈ pending levels ∨ ∃ s, c = .execute s ∧ deed? s = some d := by
  cases c with
  | begin => simpa [carryOut] using h
  | commit =>
    match levels with
    | [] => simp [carryOut] at h
    | [deeds] => exact .inl (by simpa [carryOut] using h)
    | inner :: outer :: rest => simpa [carryOut] using h
  | rollback =>
    refine .inl ?_
    cases levels with
    | nil => simp [carryOut] at h
    | cons inner outer =>
      have houter : d ∈ pending outer := by simpa [carryOut] using h
      rw [pending_cons]
      exact List.mem_append_left _ houter
  | execute s =>
    cases levels with
    | nil => exact .inr ⟨s, rfl, by simpa [carryOut] using h⟩
    | cons inner outer =>
      have hmem : d ∈ pending (inner :: outer) ∨ deed? s = some d := by
        simpa [carryOut, or_assoc] using h
      exact hmem.imp id fun hd => ⟨s, rfl, hd⟩
  | ping => simpa [carryOut] using h

/-- A statement adds to what is pending in a transaction. -/
theorem pending_execute (hlevels : levels ≠ []) (s : Statement) :
    (carryOut levels deed? (.execute s)).1 ≠ [] ∧
      pending (carryOut levels deed? (.execute s)).1 = pending levels ++ (deed? s).toList := by
  cases levels with
  | nil => exact absurd rfl hlevels
  | cons inner outer =>
    refine ⟨List.cons_ne_nil _ _, ?_⟩
    simp [carryOut]

/-- A proper deed leaves the ledger orderly, be it done at once or only with a commit. -/
theorem keeps_execute {s : Statement} (h : Fits ledger (pending levels))
    (hledger : IsOrderly ledger)
    (hproper : ∀ d, deed? s = some d → IsProper ledger (pending levels) d) :
    let after := carryOut levels deed? (.execute s)
    IsOrderly (ledger ++ after.2) ∧ Fits (ledger ++ after.2) (pending after.1) := by
  have hnone : ledger ++ [] = ledger := List.append_nil ledger
  cases levels with
  | nil =>
    refine ⟨?_, fits_nil _⟩
    change IsOrderly (ledger ++ (deed? s).toList)
    cases hd : deed? s with
    | none => exact hnone.symm ▸ hledger
    | some d =>
      -- Outside of transactions it is as if it were done in one and that were committed.
      exact (h.concat hledger (hproper d hd)).commit hledger
  | cons inner outer =>
    change IsOrderly (ledger ++ []) ∧
      Fits (ledger ++ []) (pending ((inner ++ (deed? s).toList) :: outer))
    rw [hnone, pending_cons, ← List.append_assoc, ← pending_cons]
    refine ⟨hledger, ?_⟩
    cases hd : deed? s with
    | none =>
      rw [Option.toList_none, List.append_nil]
      exact h
    | some d => exact h.concat hledger (hproper d hd)

/-- A session that does only what is proper leaves the ledger orderly. -/
theorem keeps_carryOut {c : Command} (h : Fits ledger (pending levels)) (hledger : IsOrderly ledger)
    (hproper : ∀ s d, c = .execute s → deed? s = some d → IsProper ledger (pending levels) d) :
    let after := carryOut levels deed? c
    IsOrderly (ledger ++ after.2) ∧ Fits (ledger ++ after.2) (pending after.1) := by
  have hnone : ledger ++ [] = ledger := List.append_nil ledger
  cases c with
  | begin =>
    refine ⟨hnone.symm ▸ hledger, ?_⟩
    simpa [carryOut] using h
  | commit =>
    match levels with
    | [] => exact ⟨hnone.symm ▸ hledger, fits_nil _⟩
    | [deeds] =>
      have hcommit := h.commit hledger
      rw [pending_cons] at hcommit
      exact ⟨hcommit, fits_nil _⟩
    | inner :: outer :: rest =>
      refine ⟨hnone.symm ▸ hledger, ?_⟩
      simpa [carryOut] using h
  | rollback =>
    refine ⟨hnone.symm ▸ hledger, ?_⟩
    change Fits (ledger ++ []) (pending levels.tail)
    rw [hnone]
    cases levels with
    | nil => exact fits_nil ledger
    | cons inner outer =>
      rw [pending_cons] at h
      exact h.of_append
  | execute s => exact keeps_execute h hledger fun d => hproper s d rfl
  | ping => exact ⟨hnone.symm ▸ hledger, hnone.symm ▸ h⟩

end Levels

end DocStore
