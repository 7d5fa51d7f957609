import DocStore.Proofs.Database.Path
import DocStore.Proofs.Sql.Storing

/-!
# What an exchange does to a table

The statements that a session sends on the way (`Script.Path`) are answered by a database
that holds a table (`Serves`).  What a statement does is read from its text
(`Sql.Meaning.ofSql?`); a transaction works on the table as it found it, and what it made of
it takes the place of that table when it is committed.  Whatever fails leaves the table
alone, and nobody else writes.

* `Serves.append_iff`: exchanges one after the other.
* `Serves.of_execute`: what an answer to a statement says of the table.
* `Serves.of_transaction`: a transaction that came to its end leaves what its body made.
-/

namespace DocStore

open Sql

/-! ## Statements -/

/-- A statement that concerns the rows of a table. -/
inductive Sql.Meaning where
  /-- Makes the table of a name, unless there is one. -/
  | make (table : String)
  | save (u : Upsert)
  | read (q : Fetch)
  /-- Removes the rows that are meant. -/
  | remove (table : String) (condition : Option Term)

namespace Sql.Meaning

def grammar : Grammar Meaning
  | .word "create" :: .word "table" :: .word "if" :: .word "not" :: .word "exists" ::
      .word table :: _ => some (.make table, [])
  | .word "insert" :: rest => do
      let (u, rest) ← Upsert.grammar (.word "insert" :: rest)
      return (.save u, rest)
  | .word "select" :: rest => do
      let (q, rest) ← Fetch.grammar (.word "select" :: rest)
      return (.read q, rest)
  | .word "delete" :: .word "from" :: .word table :: rest => do
      let (condition, rest) ← Grammar.clause "WHERE" Term.grammar rest
      return (.remove table condition, rest)
  | _ => none

/-- What the text of a statement means. -/
def ofSql? (sql : String) : Option Meaning := Grammar.read? grammar sql

/-- What becomes of a table that is there, and what is answered. -/
def Holds (b : Backend) (params : List Datum) (name : String) (t : Table) (answer : Answer)
    (t' : Table) : Meaning → Prop
  | make table => table = name ∧ t' = t
  | save u => u.table = name ∧ ∃ now, u.run? b now params t = some t'
  | read q => q.table = name ∧ t' = t ∧ ∃ now, q.Gives b now params t.rows answer.rows
  | remove table condition => table = name ∧ ∃ now,
      let meant row := meant? b ⟨now, params, [(table, row)]⟩ condition
      (∀ row ∈ t.rows, (meant row).isSome) ∧
        t' = { t with rows := t.rows.filter fun row => meant row = some false } ∧
        answer.affected = (t.rows.filter fun row => meant row = some true).length

end Sql.Meaning

/-! ## Sessions -/

/-- The table as each transaction sees it, the innermost first; behind all of them, as it is
for others. -/
abbrev Views : Type := List Table

/-- What a reply does to the table of a name. -/
inductive Serves.Once (b : Backend) (name : String) :
    Views → Command → Reply → Views → Prop where
  | execute {t t' : Table} {outer : Views} {st : Statement} {answer : Answer} {m : Meaning}
      (hread : Meaning.ofSql? st.sql = some m)
      (h : m.Holds b (st.params.map Param.datum) name t answer t') :
      Once b name (t :: outer) (.execute st) (.ok answer) (t' :: outer)
  | begin {t : Table} {outer : Views} {answer : Answer} :
      Once b name (t :: outer) .begin (.ok answer) (t :: t :: outer)
  | commit {t below : Table} {outer : Views} {answer : Answer} :
      Once b name (t :: below :: outer) .commit (.ok answer) (t :: outer)
  | rollback {t below : Table} {outer : Views} {answer : Answer} :
      Once b name (t :: below :: outer) .rollback (.ok answer) (below :: outer)
  | ping {s : Views} {answer : Answer} : Once b name s .ping (.ok answer) s
  | fault {s : Views} {c : Command} {fault : DatabaseFault} (h : c ≠ .commit) :
      Once b name s c (.error fault) s
  /-- A commit that failed may have taken place. -/
  | lost {t below kept : Table} {outer : Views} {fault : DatabaseFault}
      (h : kept = t ∨ kept = below) :
      Once b name (t :: below :: outer) .commit (.error fault) (kept :: outer)

/-- What an exchange does to the table of a name. -/
inductive Serves (b : Backend) (name : String) :
    Views → List (Command × Reply) → Views → Prop where
  | refl (s : Views) : Serves b name s [] s
  | next {s s' s'' : Views} {c : Command} {r : Reply} {past : List (Command × Reply)}
      (h : Serves.Once b name s c r s') (hpast : Serves b name s' past s'') :
      Serves b name s ((c, r) :: past) s''

namespace Serves

variable {b : Backend} {name : String} {s s' : Views} {past : List (Command × Reply)}

theorem nil_iff : Serves b name s [] s' ↔ s' = s := by
  constructor
  · rintro ⟨⟩
    rfl
  · rintro rfl
    exact .refl _

theorem cons_iff {c : Command} {r : Reply} :
    Serves b name s ((c, r) :: past) s' ↔
      ∃ between, Once b name s c r between ∧ Serves b name between past s' := by
  constructor
  · rintro ⟨⟩
    exact ⟨_, ‹_›, ‹_›⟩
  · rintro ⟨between, h, hpast⟩
    exact .next h hpast

theorem append_iff {later : List (Command × Reply)} :
    Serves b name s (past ++ later) s' ↔
      ∃ between, Serves b name s past between ∧ Serves b name between later s' := by
  induction past generalizing s with
  | nil => simp [nil_iff]
  | cons e past ih =>
    obtain ⟨c, r⟩ := e
    simp only [List.cons_append, cons_iff, ih]
    constructor
    · rintro ⟨first, h, second, hpast, hlater⟩
      exact ⟨second, ⟨first, h, hpast⟩, hlater⟩
    · rintro ⟨second, ⟨first, h, hpast⟩, hlater⟩
      exact ⟨first, h, second, hpast, hlater⟩

/-! ### What happened when an answer came -/

variable {t : Table} {outer : Views} {answer : Answer}

theorem of_execute {st : Statement} {m : Meaning}
    (h : Serves b name (t :: outer) ((.execute st, .ok answer) :: past) s')
    (hread : Meaning.ofSql? st.sql = some m) :
    ∃ t', m.Holds b (st.params.map Param.datum) name t answer t' ∧
      Serves b name (t' :: outer) past s' := by
  obtain ⟨between, honce, hpast⟩ := cons_iff.1 h
  cases honce with
  | execute hread' h =>
    rw [hread, Option.some.injEq] at hread'
    exact ⟨_, hread' ▸ h, hpast⟩

/-- A transaction works on a copy of the table, which is what is left when it has come to its
end. -/
theorem of_transaction {κ α : Type} {body : Script κ α} {a : α} {P : Table → Prop}
    (hpath : (Script.transaction body).Path past (.done a))
    (h : Serves b name (t :: outer) past s')
    (hbody : ∀ first between, body.Path first (.done a) →
      Serves b name (t :: t :: outer) first between → ∃ t', between = t' :: t :: outer ∧ P t') :
    ∃ t', s' = t' :: outer ∧ P t' := by
  obtain ⟨answer, answer', inner, rfl, hinner⟩ := hpath.of_transaction_done
  obtain ⟨begun, hbegin, h⟩ := cons_iff.1 h
  cases hbegin
  obtain ⟨between, hserved, h⟩ := append_iff.1 h
  obtain ⟨t', rfl, hP⟩ := hbody inner between hinner hserved
  obtain ⟨ended, hended, h⟩ := cons_iff.1 h
  cases hended
  exact ⟨t', nil_iff.1 h, hP⟩

end Serves

end DocStore
