import DocStore.Proofs.Table.Creation
import DocStore.Proofs.Table.Keeping

/-!
# What an exchange does to a table of documents

As for settings (`Serves`), the statements of a session are answered by a database that does what
their texts say, and nobody else writes.  But a table of documents can be missing at first
(`Sights`), and the store asks for more than rows: for the columns of the table, and whether its
transaction has written anything.  What is selected under a lock is left open (`Carries`).

* A statement with a meaning has it, and a table that is there: `Carries.of_execute`.
* Saving puts documents under their keys (`Puts`): `Carries.of_upsertAll`.
* Seeing to a table leaves it alone, or makes it with the documents that it starts with:
  `Carries.of_resolve`.
* A transaction that came to its end leaves what its body made: `Carries.of_transaction`.
-/

namespace DocStore

open Sql

/-- The table as each transaction sees it, the innermost first, unless it is not made yet; behind
all of them, as it is for others. -/
abbrev Sights : Type := List (Option Table)

section Carries

variable (b : Backend) (table : DocumentTable)

/-- What a reply does to the table. -/
inductive Carries.Once : Sights → Command → Reply → Sights → Prop where
  | execute {t t' : Table} {outer : Sights} {st : Statement} {answer : Answer} {m : Meaning}
      (hread : Meaning.ofSql? st.sql = some m) (hlocks : st.locksRows = false)
      (h : m.Holds b (st.params.map Param.datum) table.name.text t answer t') :
      Once (some t :: outer) (.execute st) (.ok answer) (some t' :: outer)
  /-- Rows are locked, and stay as they are. -/
  | lock {s : Sights} {st : Statement} {answer : Answer} (hlocks : st.locksRows = true) :
      Once s (.execute st) (.ok answer) s
  | columns {v : Option Table} {outer : Sights} {answer : Answer}
      (h : answer.rows = (v.elim [] Table.names).map fun name => [.text name]) :
      Once (v :: outer) (.execute table.columnsStatement) (.ok answer) (v :: outer)
  | unwritten {s : Sights} {answer : Answer} :
      Once s (.execute DocumentTable.unwrittenStatement) (.ok answer) s
  /-- A table that is made has no rows at first. -/
  | create {made : Table} {outer : Sights} {answer : Answer}
      (hcolumns : "id" ∈ made.names ∧ "data" ∈ made.names) (hrows : made.rows = []) :
      Once (none :: outer) (.execute table.createStatement) (.ok answer) (some made :: outer)
  | begin {v : Option Table} {outer : Sights} {answer : Answer} :
      Once (v :: outer) .begin (.ok answer) (v :: v :: outer)
  | commit {v below : Option Table} {outer : Sights} {answer : Answer} :
      Once (v :: below :: outer) .commit (.ok answer) (v :: outer)
  | rollback {v below : Option Table} {outer : Sights} {answer : Answer} :
      Once (v :: below :: outer) .rollback (.ok answer) (below :: outer)
  | ping {s : Sights} {answer : Answer} : Once s .ping (.ok answer) s
  | fault {s : Sights} {c : Command} {fault : DatabaseFault} (h : c ≠ .commit) :
      Once s c (.error fault) s
  /-- A commit that failed may have taken place. -/
  | lost {v below kept : Option Table} {outer : Sights} {fault : DatabaseFault}
      (h : kept = v ∨ kept = below) :
      Once (v :: below :: outer) .commit (.error fault) (kept :: outer)

/-- What an exchange does to the table. -/
def Carries : Sights → List (Command × Reply) → Sights → Prop
  | s, [], s' => s' = s
  | s, (c, r) :: past, s' => ∃ between, Carries.Once b table s c r between ∧
      Carries between past s'

end Carries

/-! ## Statements that are not about rows -/

theorem meaning_columnsSql : Meaning.ofSql? TableLayout.columnsSql = none := by
  decide +kernel

theorem meaning_unwrittenSql : Meaning.ofSql? DocumentTable.unwrittenSql = none := by
  decide +kernel

namespace DocumentTable

theorem locksRows_columnsStatement (table : DocumentTable) :
    table.columnsStatement.locksRows = false :=
  Statement.locksRows_of_getLast? (Sql.getLast?_append _ (c := '1') rfl) (by decide)

theorem locksRows_createStatement (table : DocumentTable) :
    table.createStatement.locksRows = false :=
  Statement.locksRows_of_getLast? (Sql.getLast?_append _ (c := ')') rfl) (by decide)

theorem unwrittenStatement_ne_createStatement (table : DocumentTable) :
    unwrittenStatement ≠ table.createStatement := by
  intro heq
  have hcreate : table.createStatement.sql.toList.head? = some 'C' :=
    Sql.head?_append (Sql.head?_append (Sql.head?_append (Sql.head?_append (Sql.head?_append
      (Sql.head?_append (Sql.head?_append rfl _) _) _) _) _) _) _
  have hunwritten : unwrittenStatement.sql.toList.head? = some 'S' := rfl
  rw [heq, hcreate] at hunwritten
  exact absurd hunwritten (by decide)

theorem locksRows_upsertStatement (table : DocumentTable) (l : TableLayout) (e : Entry) :
    (table.upsertStatement l e).locksRows = false :=
  Statement.locksRows_of_getLast? (Sql.getLast?_append _ (c := 'b') rfl) (by decide)

theorem locksRows_selectStatement (table : DocumentTable) (key : String) :
    (table.selectStatement key).locksRows = false :=
  Statement.locksRows_of_getLast? (Sql.getLast?_append _ (c := '1') rfl) (by decide)

end DocumentTable

namespace Carries

variable {b : Backend} {table : DocumentTable} {s s' : Sights} {v : Option Table} {outer : Sights}
  {st : Statement} {answer : Answer} {past later : List (Command × Reply)}

theorem append_iff :
    Carries b table s (past ++ later) s' ↔
      ∃ between, Carries b table s past between ∧ Carries b table between later s' := by
  induction past generalizing s with
  | nil => exact ⟨fun h => ⟨s, rfl, h⟩, fun ⟨_, hbetween, h⟩ => hbetween ▸ h⟩
  | cons e past ih =>
    constructor
    · rintro ⟨first, honce, h⟩
      obtain ⟨between, hpast, hlater⟩ := ih.1 h
      exact ⟨between, ⟨first, honce, hpast⟩, hlater⟩
    · rintro ⟨between, ⟨first, honce, hpast⟩, hlater⟩
      exact ⟨first, honce, ih.2 ⟨between, hpast, hlater⟩⟩

/-! ## What happened when an answer came -/

/-- A statement that has parameters and a meaning was carried out on a table that is there. -/
theorem of_execute {m : Meaning}
    (h : Carries b table (v :: outer) ((.execute st, .ok answer) :: past) s')
    (hread : Meaning.ofSql? st.sql = some m) (hlocks : st.locksRows = false)
    (hparams : st.params ≠ []) :
    ∃ t t', v = some t ∧ m.Holds b (st.params.map Param.datum) table.name.text t answer t' ∧
      Carries b table (some t' :: outer) past s' := by
  obtain ⟨between, honce, hpast⟩ := h
  cases honce with
  | execute hread' _ h =>
    obtain rfl := Option.some.inj (hread.symm.trans hread')
    exact ⟨_, _, rfl, h, hpast⟩
  | lock hlocks' => exact absurd hlocks' (hlocks ▸ Bool.false_ne_true)
  | columns _ => exact nomatch meaning_columnsSql.symm.trans hread
  | unwritten => exact absurd rfl hparams
  | create => exact absurd rfl hparams

/-- What is locked stays as it is. -/
theorem of_lock (hlocks : st.locksRows = true)
    (h : Carries b table s ((.execute st, .ok answer) :: past) s') :
    Carries b table s past s' := by
  obtain ⟨between, honce, hpast⟩ := h
  cases honce with
  | execute _ hlocks' _ => exact absurd hlocks (hlocks' ▸ Bool.false_ne_true)
  | lock _ => exact hpast
  | columns _ => exact hpast
  | unwritten => exact hpast
  | create _ _ => exact absurd hlocks (table.locksRows_createStatement ▸ Bool.false_ne_true)

theorem of_columns
    (h : Carries b table (v :: outer) ((.execute table.columnsStatement, .ok answer) :: past) s') :
    answer.rows = (v.elim [] Table.names).map (fun name => [.text name]) ∧
      Carries b table (v :: outer) past s' := by
  obtain ⟨between, honce, hpast⟩ := h
  generalize hst : table.columnsStatement = st at honce
  have hparams : st.params ≠ [] := hst ▸ List.cons_ne_nil _ _
  cases honce with
  | execute hread _ _ =>
    rw [← hst] at hread
    exact nomatch meaning_columnsSql.symm.trans hread
  | lock hlocks =>
    rw [← hst, table.locksRows_columnsStatement] at hlocks
    cases hlocks
  | columns h => exact ⟨h, hpast⟩
  | unwritten => exact absurd rfl hparams
  | create => exact absurd rfl hparams

theorem of_unwritten
    (h : Carries b table s ((.execute DocumentTable.unwrittenStatement, .ok answer) :: past) s') :
    Carries b table s past s' := by
  obtain ⟨between, honce, hpast⟩ := h
  generalize hst : DocumentTable.unwrittenStatement = st at honce
  cases honce with
  | execute hread _ _ =>
    rw [← hst] at hread
    exact nomatch meaning_unwrittenSql.symm.trans hread
  | lock _ => exact hpast
  | columns _ => exact hpast
  | unwritten => exact hpast
  | create _ _ => exact absurd hst table.unwrittenStatement_ne_createStatement

theorem of_create
    (h : Carries b table (none :: outer) ((.execute table.createStatement, .ok answer) :: past)
      s') :
    ∃ made, ("id" ∈ made.names ∧ "data" ∈ made.names) ∧ made.rows = [] ∧
      Carries b table (some made :: outer) past s' := by
  obtain ⟨between, honce, hpast⟩ := h
  generalize hst : table.createStatement = st at honce
  have hparams : st.params = [] := hst ▸ rfl
  cases honce with
  | lock hlocks =>
    rw [← hst, table.locksRows_createStatement] at hlocks
    cases hlocks
  | columns _ => exact absurd hparams (List.cons_ne_nil _ _)
  | unwritten => exact absurd hst.symm table.unwrittenStatement_ne_createStatement
  | create hcolumns hrows => exact ⟨_, hcolumns, hrows, hpast⟩

/-- A fault leaves the table alone, unless it is one of a commit. -/
theorem of_fault {c : Command} {fault : DatabaseFault}
    (h : Carries b table s ((c, .error fault) :: past) s') (hc : c ≠ .commit) :
    Carries b table s past s' := by
  obtain ⟨between, honce, hpast⟩ := h
  cases honce with
  | fault _ => exact hpast
  | lost _ => exact absurd rfl hc

theorem of_begin (h : Carries b table (v :: outer) ((.begin, .ok answer) :: past) s') :
    Carries b table (v :: v :: outer) past s' := by
  obtain ⟨between, honce, hpast⟩ := h
  cases honce with
  | begin => exact hpast

theorem of_commit {below : Option Table}
    (h : Carries b table (v :: below :: outer) ((.commit, .ok answer) :: past) s') :
    Carries b table (v :: outer) past s' := by
  obtain ⟨between, honce, hpast⟩ := h
  cases honce with
  | commit => exact hpast

theorem of_rollback {below : Option Table}
    (h : Carries b table (v :: below :: outer) ((.rollback, .ok answer) :: past) s') :
    Carries b table (below :: outer) past s' := by
  obtain ⟨between, honce, hpast⟩ := h
  cases honce with
  | rollback => exact hpast

/-- A transaction works on a copy of the table, which is what is left when it has come to its
end. -/
theorem of_transaction {κ α : Type} {body : Script κ α} {a : α} {P : Option Table → Prop}
    (hpath : (Script.transaction body).Path past (.done a))
    (h : Carries b table (v :: outer) past s')
    (hbody : ∀ first between, body.Path first (.done a) →
      Carries b table (v :: v :: outer) first between →
      ∃ v', between = v' :: v :: outer ∧ P v') :
    ∃ v', s' = v' :: outer ∧ P v' := by
  obtain ⟨answer, answer', inner, rfl, hinner⟩ := hpath.of_transaction_done
  obtain ⟨between, hcarried, h⟩ := append_iff.1 h.of_begin
  obtain ⟨v', rfl, hP⟩ := hbody inner between hinner hcarried
  exact ⟨v', h.of_commit, hP⟩

end Carries

/-! ## What stands under the keys -/

/-- What stands under a key when these values were saved there one after the other; none if two
texts could not be compared. -/
def Sql.Backend.leaves? (b : Backend) (before : Option Stored) (values : List Json) :
    Option (Option Stored) :=
  values.foldlM (fun before value => (b.kept? value.text before).map fun text => some (some text))
    before

/-- The values that documents give to a key. -/
def Entry.valuesAt (key : String) (entries : List Entry) : List Json :=
  (entries.filter fun e => e.key = key).map Entry.data

theorem Entry.valuesAt_append (key : String) (entries later : List Entry) :
    valuesAt key (entries ++ later) = valuesAt key entries ++ valuesAt key later := by
  rw [valuesAt, List.filter_append, List.map_append]
  rfl

namespace DocumentTable

/-- What stands under a key, if there is a table. -/
def standing? (v : Option Table) (key : String) : Option Stored := v.bind (stored? · key)

/-- The documents were saved one after the other. -/
structure Puts (b : Backend) (v : Option Table) (entries : List Entry) (v' : Option Table) :
    Prop where
  documents : ∀ t ∈ v', IsDocuments t
  leaves : ∀ key,
    b.leaves? (standing? v key) (Entry.valuesAt key entries) = some (standing? v' key)

/-- The documents that the table starts with, if it was made on the way. -/
def sown (table : DocumentTable) (v v' : Option Table) : List Entry :=
  if v.isNone && v'.isSome then
    match table.seeds with
    | .ok entries => entries
    | .error _ => []
  else []

section Effects

variable {b : Backend} {table : DocumentTable} {s s' : Sights} {v v' v'' : Option Table}
  {outer : Sights} {past : List (Command × Reply)} {entries later : List Entry}

theorem Puts.refl (hv : ∀ t ∈ v, IsDocuments t) : Puts b v [] v := ⟨hv, fun _ => rfl⟩

theorem Puts.trans (h : Puts b v entries v') (h' : Puts b v' later v'') :
    Puts b v (entries ++ later) v'' := by
  refine ⟨h'.documents, fun key => ?_⟩
  have hfirst := h.leaves key
  have hsecond := h'.leaves key
  rw [Backend.leaves?] at hfirst hsecond ⊢
  rw [Entry.valuesAt_append, List.foldlM_append, hfirst]
  exact hsecond

/-! ### Saving -/

/-- A document that is saved is put under its key, into a table that is there. -/
theorem of_upsert {l : TableLayout} {e : Entry} (hv : ∀ t ∈ v, IsDocuments t)
    (hpath : (table.upsert l e).Path past (.done ())) (h : Carries b table (v :: outer) past s') :
    ∃ v', s' = v' :: outer ∧ Puts b v [e] v' ∧ v'.isSome = v.isSome := by
  obtain ⟨answer, rest, rfl, hrest⟩ := Script.Path.of_sendOr hpath
  obtain ⟨rfl, -⟩ := Script.Path.of_done hrest
  obtain ⟨t, t', rfl, ⟨-, now, hrun⟩, hended⟩ :=
    h.of_execute (l.meaning_upsertSql table.name) (table.locksRows_upsertStatement l e)
      (List.cons_ne_nil _ _)
  obtain ⟨ht', ⟨text, hkept, htext⟩, hothers⟩ := (hv t rfl).put hrun
  refine ⟨some t', hended, ⟨fun _ h => Option.some.inj h ▸ ht', fun key => ?_⟩, rfl⟩
  show b.leaves? (stored? t key) (Entry.valuesAt key [e]) = some (stored? t' key)
  by_cases hkey : e.key = key
  · subst hkey
    have hvalues : Entry.valuesAt e.key [e] = [e.data] := by simp [Entry.valuesAt]
    rw [hvalues, htext]
    simp [Backend.leaves?, hkept]
  · have hvalues : Entry.valuesAt key [e] = [] := by simp [Entry.valuesAt, hkey]
    rw [hvalues, hothers key (Ne.symm hkey)]
    rfl

theorem of_upsertAll {l : TableLayout} (hv : ∀ t ∈ v, IsDocuments t)
    (hpath : (table.upsertAll l entries).Path past (.done ()))
    (h : Carries b table (v :: outer) past s') :
    ∃ v', s' = v' :: outer ∧ Puts b v entries v' ∧ v'.isSome = v.isSome := by
  induction entries generalizing v past with
  | nil =>
    obtain ⟨rfl, -⟩ := Script.Path.of_done hpath
    exact ⟨v, h, .refl hv, rfl⟩
  | cons e rest ih =>
    obtain ⟨done, first, second, rfl, hfirst, hsecond⟩ := Script.Path.of_bind_done hpath
    obtain ⟨between, hcarried, h⟩ := Carries.append_iff.1 h
    obtain ⟨v₁, rfl, hput, hmade⟩ := of_upsert hv hfirst hcarried
    obtain ⟨v', hended, hputs, hmade'⟩ := ih hput.documents hsecond h
    exact ⟨v', hended, hput.trans hputs, hmade'.trans hmade⟩

/-! ### Seeing to the table -/

theorem of_path_sow (hpath : table.sow.Path past (.done ())) :
    ∃ entries, table.seeds = .ok entries ∧
      (table.upsertAll .full entries).Path past (.done ()) := by
  rw [sow] at hpath
  split at hpath
  · rename_i hseed
    exact ⟨[], by rw [seeds, hseed]; rfl, hpath⟩
  · rename_i seed hseed
    obtain ⟨entries, rfl, hrest⟩ := Script.Path.of_lift hpath
    obtain ⟨done, first, second, rfl, hfirst, hsecond⟩ := Script.Path.of_bind_done hrest
    refine ⟨entries, by rw [seeds, hseed]; rfl, ?_⟩
    cases hsecond with
    | log hsecond =>
      obtain ⟨rfl, -⟩ := Script.Path.of_done hsecond
      rwa [List.append_nil]

/-- A new table gets the documents to start with. -/
theorem of_create {created : Bool} (hpath : table.create.Path past (.done created))
    (h : Carries b table (none :: outer) past s') :
    ∃ v', s' = v' :: outer ∧ Puts b none (table.sown none v') v' := by
  obtain ⟨answer, later, rfl, hinner⟩ := Script.Path.of_sendOr hpath
  cases hinner with
  | @ask _ _ r later _ hrest =>
    cases r with
    | ok answer' =>
      obtain ⟨made, hcolumns, hrows, h⟩ := h.of_begin.of_create
      obtain ⟨done, first, second, rfl, hfirst, hsecond⟩ := Script.Path.of_bind_done hrest
      obtain ⟨between, hcarried, h⟩ := Carries.append_iff.1 h
      obtain ⟨entries, hseeds, hfirst⟩ := of_path_sow hfirst
      have hmade : IsDocuments made := by
        refine ⟨hcolumns, ?_, ?_, ?_⟩ <;> rw [hrows]
        · exact List.forall_mem_nil _
        · exact List.forall_mem_nil _
        · exact List.nodup_nil
      obtain ⟨v', rfl, hputs, hsome⟩ :=
        of_upsertAll (v := some made) (fun _ h => Option.some.inj h ▸ hmade) hfirst hcarried
      obtain ⟨answer'', ending, rfl, hending⟩ := Script.Path.of_commit hsecond
      cases hending with
      | log hending =>
        obtain ⟨rfl, -⟩ := Script.Path.of_done hending
        refine ⟨v', h.of_commit, hputs.documents, fun key => ?_⟩
        have hnothing : standing? (some made) key = none := by
          show stored? made key = none
          rw [stored?, TableLayout.rowAt?, hrows]
          rfl
        have hleft := hputs.leaves key
        rw [hnothing] at hleft
        rw [sown, hsome, hseeds]
        exact hleft
    | error fault =>
      -- Somebody else would have to be faster, and then there is nothing to see.
      dsimp only at hrest
      split at hrest
      · obtain ⟨answer', later', rfl, hended⟩ := Script.Path.of_sendOr hrest
        cases hended with
        | log hended =>
          obtain ⟨rfl, -⟩ := Script.Path.of_done hended
          exact ⟨none, (h.of_begin.of_fault (by simp)).of_rollback, .refl (by simp)⟩
      · cases (Script.Path.of_fail hrest).2

/-- Nothing but whether anything was written is asked for then. -/
theorem sends_hold (pinned : Bool) (found : TableLayout × Bool) :
    (hold pinned found).Sends (fun _ _ => True) (· = .execute unwrittenStatement) := by
  have hasks : isUnwritten.Sends (fun _ _ => True) (· = .execute unwrittenStatement) :=
    Script.sends_sendOr rfl fun a _ => by
      generalize Except.mapError DatabaseFault.toError _ = unwritten
      cases unwritten <;> trivial
  rw [hold]
  cases pinned with
  | false => trivial
  | true =>
    obtain ⟨layout, created⟩ := found
    cases created with
    | true => exact fun _ => trivial
    | false =>
      refine hasks.bind fun unwritten => ?_
      cases unwritten with
      | true => exact fun _ => trivial
      | false => exact fun _ => trivial

theorem of_path_hold {pinned : Bool} {found : TableLayout × Bool} {x : Work TableLayout}
    (hpath : (hold pinned found).Path past x) (h : Carries b table s past s') : s' = s := by
  obtain ⟨hasked, -⟩ := hpath.sends (sends_hold pinned found) fun _ _ => trivial
  clear hpath
  induction past with
  | nil => exact h
  | cons e past ih =>
    obtain ⟨⟨c, r⟩, rfl⟩ : ∃ e', e' = e := ⟨e, rfl⟩
    obtain ⟨rfl, hrest⟩ := List.forall_mem_cons.1 hasked
    cases r with
    | ok answer => exact ih h.of_unwritten hrest
    | error fault => exact ih (h.of_fault nofun) hrest

theorem readColumns_of_rows {answer : Answer} {names : List String}
    (h : answer.rows = names.map fun name => [.text name]) : readColumns answer = .ok names := by
  rw [readColumns, Answer.readAll, mapM_eq_ok_iff, h, List.forall₂_map_left_iff, List.forall₂_same]
  exact fun _ _ => rfl

/-- A table with columns is there, and nothing more is asked. -/
theorem of_path_provide_of_ne_nil {names : List String} (hnames : names ≠ [])
    {found : TableLayout × Bool} (hpath : (table.provide names).Path past (.done found)) :
    past = [] := by
  rw [provide] at hpath
  split at hpath
  · split at hpath
    · cases hpath with
      | log hdone => exact (Script.Path.of_done hdone).1
    · exact (Script.Path.of_done hpath).1
  · rename_i hnone
    exact absurd (eq_nil_of_ofColumns? hnone) hnames

/-- Seeing to the table leaves it alone, or makes it if it is missing. -/
theorem of_resolve {pinned : Bool} {l : TableLayout} (hv : ∀ t ∈ v, IsDocuments t)
    (hpath : (table.resolve pinned).Path past (.done l))
    (h : Carries b table (v :: outer) past s') :
    ∃ v', s' = v' :: outer ∧ Puts b v (table.sown v v') v' ∧ (v.isSome = true → v' = v) := by
  have hstays : Puts b v (table.sown v v) v ∧ (v.isSome = true → v = v) := by
    refine ⟨?_, fun _ => rfl⟩
    cases v <;> exact .refl hv
  cases hpath with
  | @inspect _ known _ _ hpath =>
    cases known with
    | some layout =>
      obtain ⟨rfl, -⟩ := Script.Path.of_done hpath
      exact ⟨v, h, hstays⟩
    | none =>
      replace hpath : (table.provision >>= hold pinned).Path past (.done l) := hpath
      rw [provision_bind] at hpath
      obtain ⟨answer, later, rfl, hrest⟩ := Script.Path.of_sendOr hpath
      obtain ⟨names, hnames, hrest⟩ := Script.Path.of_lift hrest
      obtain ⟨found, first, second, rfl, hfirst, hsecond⟩ := Script.Path.of_bind_done hrest
      obtain ⟨hrows, h⟩ := h.of_columns
      obtain ⟨between, hcarried, h⟩ := Carries.append_iff.1 h
      obtain rfl := of_path_hold hsecond h
      obtain rfl : v.elim [] Table.names = names := by
        rw [readColumns_of_rows hrows] at hnames
        exact Except.ok.inj hnames
      cases v with
      | some t =>
        obtain rfl := of_path_provide_of_ne_nil (List.ne_nil_of_mem (hv t rfl).columns.1) hfirst
        exact ⟨some t, hcarried, hstays⟩
      | none =>
        replace hfirst : (table.create >>= fun created => .done (.full, created)).Path first
          (.done found) := hfirst
        obtain ⟨created, making, ending, rfl, hmaking, hending⟩ := Script.Path.of_bind_done hfirst
        obtain ⟨rfl, -⟩ := Script.Path.of_done hending
        rw [List.append_nil] at hcarried
        obtain ⟨v', hended, hputs⟩ := of_create hmaking hcarried
        exact ⟨v', hended, hputs, fun h => by cases h⟩

end Effects

end DocumentTable

end DocStore
