import DocStore.Proofs.Query.Shape
import Mathlib.Data.List.Nodup
import Mathlib.Data.List.Perm.Basic

/-!
# What a statement answers

The meaning of a statement on the tables of a database.  What the server computes
beyond the shape of a statement stays open (`Engine`): whether a filter is true of a
row, the text of a field, and the order of texts.

* Order: rows come in any order that the sort terms allow (`Arranged`), nulls behind
  all texts when ascending and in front of them when descending; then the window is
  cut out.
* `WITH RECURSIVE … UNION ALL`: the seed rows are numbered from one and are the first
  level; each level is joined to the table to give the next (`Walk.next`), and the
  walk ends at the first empty level.  A walk without such a level has no answer.
* `GROUP BY`: one row for each id, with the least depth and the least number.
* A name that a statement gives to a part of its own hides the table of that name
  everywhere in the statement (`Tables.hiding`).  A statement that would have to read
  a hidden table has no answer, and neither has one whose table does not exist.

A statement may have several answers, since rows that are equal in an order come in
either one.  Numbers have no bounds here.
-/

namespace DocStore

open Sql

/-! ## Rows and tables -/

/-- A row of a table of documents. -/
structure DocRow (Doc : Type) where
  id : String
  data : Doc
  deriving DecidableEq

/-- The tables of a database. -/
abbrev Tables (Doc : Type) := String → Option (List (DocRow Doc))

/-- Without the tables of some names. -/
def Tables.hiding {Doc : Type} (db : Tables Doc) (names : List String) : Tables Doc :=
  fun table => if table ∈ names then none else db table

/-- What the server computes from documents and parameters. -/
structure Engine (Doc : Type) where
  /-- A filter is true of a row. -/
  holds : (filter : List Token) → List Param → DocRow Doc → Bool
  /-- A field as text; none when it is absent or null. -/
  textAt : FieldPath → Doc → Option String
  /-- A text comes before another one or is equal to it in the order of texts. -/
  textLe : String → String → Bool
  textLe_total : ∀ a b, (textLe a b || textLe b a) = true
  textLe_trans : ∀ a b c, textLe a b = true → textLe b c = true → textLe a c = true

variable {Doc : Type}

namespace Engine

variable (e : Engine Doc)

/-! ## Order -/

/-- Ascending order, nulls last. -/
def keyLe : Option String → Option String → Bool
  | _, none => true
  | none, some _ => false
  | some a, some b => e.textLe a b

/-- The order of one sort term; descending is the opposite of ascending. -/
def termLe (term : SortTerm) (a b : DocRow Doc) : Bool :=
  let key := fun r : DocRow Doc => e.textAt term.field r.data
  match term.direction with
  | .asc => e.keyLe (key a) (key b)
  | .desc => e.keyLe (key b) (key a)

/-- The order of sort terms: the first one that tells two rows apart decides. -/
def rowLe : List SortTerm → DocRow Doc → DocRow Doc → Bool
  | [], _, _ => true
  | term :: rest, a, b => e.termLe term a b && (!e.termLe term b a || rowLe rest a b)

theorem keyLe_total (a b : Option String) : (e.keyLe a b || e.keyLe b a) = true := by
  cases a with
  | none => cases b <;> rfl
  | some a =>
    cases b with
    | none => rfl
    | some b => exact e.textLe_total a b

theorem keyLe_trans (a b c : Option String) (hab : e.keyLe a b = true)
    (hbc : e.keyLe b c = true) : e.keyLe a c = true := by
  cases c with
  | none => cases a <;> rfl
  | some c =>
    cases b with
    | none => simp [keyLe] at hbc
    | some b =>
      cases a with
      | none => simp [keyLe] at hab
      | some a => exact e.textLe_trans a b c hab hbc

theorem termLe_total (term : SortTerm) (a b : DocRow Doc) :
    (e.termLe term a b || e.termLe term b a) = true := by
  obtain ⟨field, direction⟩ := term
  cases direction with
  | asc => exact e.keyLe_total _ _
  | desc => exact e.keyLe_total _ _

theorem termLe_trans (term : SortTerm) (a b c : DocRow Doc) (hab : e.termLe term a b = true)
    (hbc : e.termLe term b c = true) : e.termLe term a c = true := by
  obtain ⟨field, direction⟩ := term
  cases direction with
  | asc => exact e.keyLe_trans _ _ _ hab hbc
  | desc => exact e.keyLe_trans _ _ _ hbc hab

theorem rowLe_total (terms : List SortTerm) (a b : DocRow Doc) :
    (e.rowLe terms a b || e.rowLe terms b a) = true := by
  induction terms with
  | nil => rfl
  | cons term rest ih =>
    have hterm := e.termLe_total term a b
    rw [rowLe, rowLe]
    cases hab : e.termLe term a b <;> cases hba : e.termLe term b a <;> simp_all

theorem rowLe_trans (terms : List SortTerm) (a b c : DocRow Doc)
    (hab : e.rowLe terms a b = true) (hbc : e.rowLe terms b c = true) :
    e.rowLe terms a c = true := by
  induction terms with
  | nil => rfl
  | cons term rest ih =>
    simp only [rowLe, Bool.and_eq_true, Bool.or_eq_true, Bool.not_eq_true'] at hab hbc ⊢
    refine ⟨e.termLe_trans term a b c hab.1 hbc.1, ?_⟩
    cases hca : e.termLe term c a with
    | false => exact Or.inl rfl
    | true =>
      -- All three are equal in this term, so the others decide.
      have hba : e.termLe term b a = true := e.termLe_trans term b c a hbc.1 hca
      have hcb : e.termLe term c b = true := e.termLe_trans term c a b hca hab.1
      refine Or.inr (ih (hab.2.resolve_left ?_) (hbc.2.resolve_left ?_))
      · rw [hba]
        exact Bool.noConfusion
      · rw [hcb]
        exact Bool.noConfusion

/-- The texts of two fields are there and equal. -/
def links (link seed : FieldPath) (source target : DocRow Doc) : Bool :=
  match e.textAt link target.data, e.textAt seed source.data with
  | some a, some b => a = b
  | _, _ => false

end Engine

/-- The elements of a list in an order that a relation allows. -/
def Arranged {α : Type} (le : α → α → Bool) (xs ys : List α) : Prop :=
  ys.Perm xs ∧ ys.Pairwise fun a b => le a b = true

theorem exists_arranged {α : Type} {r : α → α → Bool}
    (htrans : ∀ a b c, r a b = true → r b c = true → r a c = true)
    (htotal : ∀ a b, (r a b || r b a) = true) (xs : List α) : ∃ ys, Arranged r xs ys :=
  ⟨xs.mergeSort r, List.mergeSort_perm xs r, List.pairwise_mergeSort htrans htotal xs⟩

/-- The window of a list. -/
def window {α : Type} (limit offset : Option Nat) (xs : List α) : List α :=
  let kept := xs.drop (offset.getD 0)
  limit.elim kept kept.take

theorem window_sublist {α : Type} (limit offset : Option Nat) (xs : List α) :
    (window limit offset xs).Sublist xs := by
  have hkept : (xs.drop (offset.getD 0)).Sublist xs := List.drop_sublist _ xs
  cases limit with
  | none => exact hkept
  | some n => exact (List.take_sublist n _).trans hkept

theorem map_window {α β : Type} (f : α → β) (limit offset : Option Nat) (xs : List α) :
    (window limit offset xs).map f = window limit offset (xs.map f) := by
  cases limit with
  | none => exact List.map_drop
  | some n =>
    show (List.take n _).map f = List.take n _
    rw [List.map_take, List.map_drop]

/-! ## Sources of rows -/

/-- A filter that may be missing is true of a row. -/
def Engine.keeps (e : Engine Doc) (ps : List Param) (filter : Option (List Token))
    (r : DocRow Doc) : Bool :=
  filter.all fun f => e.holds f ps r

namespace Scan

variable (s : Scan) (e : Engine Doc) (ps : List Param)

/-- The rows under the filter of a scan. -/
def kept (rows : List (DocRow Doc)) : List (DocRow Doc) := rows.filter (e.keeps ps s.filter)

/-- The rows that a scan picks from those of its table. -/
def Picks (rows picked : List (DocRow Doc)) : Prop :=
  ∃ ordered, Arranged (e.rowLe s.order) (s.kept e ps rows) ordered ∧
    picked = window s.limit s.offset ordered

/-- The same with the numbers that the rows under the filter have in an order. -/
def PicksNumbered (numbering : List SortTerm) (rows : List (DocRow Doc))
    (seeds : List (DocRow Doc × Nat)) : Prop :=
  ∃ numbered ordered, Arranged (e.rowLe numbering) (s.kept e ps rows) numbered ∧
    Arranged (fun a b => e.rowLe s.order a.1 b.1) (numbered.zipIdx 1) ordered ∧
    seeds = window s.limit s.offset ordered

def Gives (db : Tables Doc) (picked : List (DocRow Doc)) : Prop :=
  ∃ rows, db s.table = some rows ∧ s.Picks e ps rows picked

end Scan

/-- A row of a walk. -/
structure Visit (Doc : Type) where
  row : DocRow Doc
  depth : Nat
  /-- The number of the seed. -/
  ord : Nat

namespace Walk

variable (w : Walk) (e : Engine Doc) (ps : List Param)

/-- What the newest rows of a walk are joined to. -/
def next (rows : List (DocRow Doc)) (newest : List (Visit Doc)) : List (Visit Doc) :=
  newest.flatMap fun v =>
    if w.bound.all (v.depth < ·) then
      (rows.filter (e.links w.link w.seed v.row)).map fun r => ⟨r, v.depth + 1, v.ord⟩
    else []

/-- The rows after so many joins, the seeds at first. -/
def level (rows : List (DocRow Doc)) (seeds : List (DocRow Doc × Nat)) : Nat → List (Visit Doc)
  | 0 => seeds.map fun s => ⟨s.1, 0, s.2⟩
  | n + 1 => w.next e rows (level rows seeds n)

/-- All rows of a walk that ends. -/
def Visits (db : Tables Doc) (visits : List (Visit Doc)) : Prop :=
  ∃ start rows seeds n, db w.seeds.table = some start ∧ db w.table = some rows ∧
    w.seeds.PicksNumbered e ps w.numbering start seeds ∧ w.level e rows seeds n = [] ∧
    visits = (List.range n).flatMap (w.level e rows seeds)

end Walk

/-- The least depth and the least number of an id in a walk. -/
def reachedAt? (visits : List (Visit Doc)) (id : String) : Option (Nat × Nat) := do
  let own := visits.filter (·.row.id = id)
  let depth ← (own.map Visit.depth).min?
  let ord ← (own.map Visit.ord).min?
  return (depth, ord)

/-- The order of pairs, the first parts first. -/
def pairLe (a b : Nat × Nat) : Bool := a.1 < b.1 || (a.1 = b.1 && a.2 ≤ b.2)

/-- Rows joined to what a walk reached, in the order of depth and number. -/
def JoinsReached (visits : List (Visit Doc)) (rows joined : List (DocRow Doc)) : Prop :=
  ∃ ordered : List (DocRow Doc × (Nat × Nat)),
    Arranged (fun a b => pairLe a.2 b.2)
      (rows.filterMap fun r => (reachedAt? visits r.id).map fun p => (r, p)) ordered ∧
    joined = ordered.map Prod.fst

/-- The rows of an origin. -/
def Origin.Gives (e : Engine Doc) (ps : List Param) (db : Tables Doc) (picked : List (DocRow Doc)) :
    Origin → Prop
  | scan s => s.Gives e ps db picked
  | walk w table =>
      ∃ visits rows, w.Visits e ps (db.hiding ["walk"]) visits ∧
        db.hiding ["walk"] table = some rows ∧ JoinsReached visits rows picked

/-! ## Answers -/

/-- What a statement answers. -/
inductive Result (Doc : Type) where
  /-- Documents with the texts of some fields. -/
  | documents (rows : List (Doc × List (Option String)))
  | entries (rows : List (DocRow Doc))
  | number (n : Nat)
  /-- The ids of the rows that were deleted, and the rows that are left. -/
  | removed (ids : List String) (left : List (DocRow Doc))

/-- What is shown of rows. -/
def Items.answer (e : Engine Doc) (rows : List (DocRow Doc)) : Items → Result Doc
  | documents fields =>
      .documents (rows.map fun r => (r.data, fields.map fun f => e.textAt f.1 r.data))
  | entries => .entries rows

/-- The answers of a statement of some shape. -/
inductive Reading.Answers (e : Engine Doc) (ps : List Param) (db : Tables Doc) :
    Reading → Result Doc → Prop where
  | select {s : Selection} {picked : List (DocRow Doc)} (h : s.origin.Gives e ps db picked) :
      Answers e ps db (.select s) (s.items.answer e picked)
  | count {s : Selection} {picked : List (DocRow Doc)} (h : s.origin.Gives e ps db picked) :
      Answers e ps db (.count s) (.number picked.length)
  | delete {table : String} {filter : Option (List Token)} {rows gone : List (DocRow Doc)}
      (hrows : db table = some rows) (hgone : gone.Perm (rows.filter (e.keeps ps filter))) :
      Answers e ps db (.delete table filter)
        (.removed (gone.map DocRow.id) (rows.filter (!e.keeps ps filter ·)))
  | deleteChosen {table : String} {chosen : Scan} {rows picked gone : List (DocRow Doc)}
      (hrows : db table = some rows) (hpicked : chosen.Gives e ps db picked)
      (hgone : gone.Perm (rows.filter (·.id ∈ picked.map DocRow.id))) :
      Answers e ps db (.deleteChosen table chosen)
        (.removed (gone.map DocRow.id) (rows.filter (·.id ∉ picked.map DocRow.id)))
  | deleteWalked {w : Walk} {table : String} {visits : List (Visit Doc)}
      {rows gone : List (DocRow Doc)}
      (hvisits : w.Visits e ps (db.hiding ["walk", "removed"]) visits)
      (hrows : db.hiding ["walk", "removed"] table = some rows)
      (hgone : JoinsReached visits (rows.filter (·.id ∈ visits.map (·.row.id))) gone) :
      Answers e ps db (.deleteWalked w table)
        (.removed (gone.map DocRow.id) (rows.filter (·.id ∉ visits.map (·.row.id))))

/-- The answers of a statement, by what its text says. -/
def Sql.Statement.Answers (s : Statement) (e : Engine Doc) (db : Tables Doc)
    (a : Result Doc) : Prop :=
  ∃ r, readStatement? s.sql = some r ∧ r.Answers e s.params db a

namespace Reading

variable {e : Engine Doc} {ps : List Param} {db : Tables Doc} {a : Result Doc}

theorem answers_select_iff {s : Selection} :
    (select s).Answers e ps db a ↔
      ∃ picked, s.origin.Gives e ps db picked ∧ a = s.items.answer e picked := by
  constructor
  · intro h
    cases h with
    | select h => exact ⟨_, h, rfl⟩
  · rintro ⟨picked, h, rfl⟩
    exact .select h

theorem answers_count_iff {s : Selection} :
    (count s).Answers e ps db a ↔
      ∃ picked, s.origin.Gives e ps db picked ∧ a = .number picked.length := by
  constructor
  · intro h
    cases h with
    | count h => exact ⟨_, h, rfl⟩
  · rintro ⟨picked, h, rfl⟩
    exact .count h

theorem answers_delete_iff {table : String} {filter : Option (List Token)}
    {rows : List (DocRow Doc)} (hrows : db table = some rows) :
    (delete table filter).Answers e ps db a ↔
      ∃ gone : List (DocRow Doc), gone.Perm (rows.filter (e.keeps ps filter)) ∧
        a = .removed (gone.map DocRow.id) (rows.filter (!e.keeps ps filter ·)) := by
  constructor
  · intro h
    cases h with
    | @delete _ _ rows' gone hrows' hgone =>
      obtain rfl : rows = rows' := Option.some.inj (hrows.symm.trans hrows')
      exact ⟨gone, hgone, rfl⟩
  · rintro ⟨gone, hgone, rfl⟩
    exact .delete hrows hgone

theorem answers_deleteChosen_iff {table : String} {chosen : Scan} {rows : List (DocRow Doc)}
    (hrows : db table = some rows) :
    (deleteChosen table chosen).Answers e ps db a ↔
      ∃ picked gone : List (DocRow Doc), chosen.Gives e ps db picked ∧
        gone.Perm (rows.filter (·.id ∈ picked.map DocRow.id)) ∧
        a = .removed (gone.map DocRow.id) (rows.filter (·.id ∉ picked.map DocRow.id)) := by
  constructor
  · intro h
    cases h with
    | @deleteChosen _ _ rows' picked gone hrows' hpicked hgone =>
      obtain rfl : rows = rows' := Option.some.inj (hrows.symm.trans hrows')
      exact ⟨picked, gone, hpicked, hgone, rfl⟩
  · rintro ⟨picked, gone, hpicked, hgone, rfl⟩
    exact .deleteChosen hrows hpicked hgone

end Reading

/-- The answers of a statement whose text has been read. -/
theorem Sql.Statement.answers_iff {s : Statement} {r : Reading} (h : readStatement? s.sql = some r)
    {e : Engine Doc} {db : Tables Doc} {a : Result Doc} :
    s.Answers e db a ↔ r.Answers e s.params db a := by
  rw [Answers, h]
  simp

/-! ## JSON documents -/

/-- The text at a path of a JSON document. -/
def Json.textAt (path : FieldPath) (data : Json) : Option String :=
  (path.segments.foldlM Json.member? data).bind fun value =>
    if value = .null then none else some (Condition.operandText value)

/-- An engine over JSON documents.  It knows filters that compare one member with one text, and
orders texts by their characters. -/
def Engine.json : Engine Json where
  holds
    | [.symbol '(', .symbol '(', .word "data", .operator "->>", .quoted .literal name, .symbol ')',
        .operator "=", .placeholder 1, .symbol ')'], [.text value], r =>
        r.data.textAt ⟨[name]⟩ = some value
    | _, _, _ => false
  textAt := Json.textAt
  textLe a b := a ≤ b
  textLe_total a b := by
    rw [Bool.or_eq_true, decide_eq_true_eq, decide_eq_true_eq]
    exact String.le_total a b
  textLe_trans a b c hab hbc := by
    rw [decide_eq_true_eq] at hab hbc ⊢
    exact String.le_trans hab hbc

end DocStore
