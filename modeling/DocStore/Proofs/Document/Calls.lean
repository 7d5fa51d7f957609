import DocStore.Document.Store
import DocStore.Proofs.Table.Evidence

/-!
# The operations of a document store

What a caller can ask of a store (`Call`).  Every operation sees to the table first; what it
does then keeps nothing in the memory of the store (`Script.Forgets`).  So no operation lets
its store remember a table that is not committed: `Call.learns_script`.
-/

namespace DocStore

namespace Script

variable {α β : Type} {t : DocumentTable}

/-- The script remembers nothing that was not remembered before, whatever is certain. -/
def Forgets (t : DocumentTable) (x : Script TableLayout α) : Prop :=
  ∀ k, x.Learns t (fun _ _ => True) k

theorem Forgets.bind {x : Script TableLayout α} {f : α → Script TableLayout β}
    (hx : x.Forgets t) (hf : ∀ a, (f a).Forgets t) : (x >>= f).Forgets t :=
  fun k => (hx k).bind fun k' a _ => hf a k'

theorem forgets_done (a : α) : (done a : Script TableLayout α).Forgets t := fun _ => trivial

theorem forgets_sendOr (toError : DatabaseFault → StoreError) (c : Command) :
    (sendOr toError c : Script TableLayout Answer).Forgets t := by
  intro k r
  cases r with
  | ok a => trivial
  | error fault => trivial

theorem forgets_lift (r : Except StoreError α) : (lift r : Script TableLayout α).Forgets t :=
  fun _ => learns_lift fun _ _ => trivial

theorem forgets_note (level : LogLevel) (message : String) :
    (note level message : Script TableLayout Unit).Forgets t := fun _ => trivial

theorem forgets_transaction {body : Script TableLayout α} (h : body.Forgets t) :
    (transaction body).Forgets t :=
  (forgets_sendOr _ _).bind fun _ => h.bind fun a =>
    ((forgets_sendOr _ _).bind fun _ => forgets_done ()).bind fun _ => forgets_done a

theorem forgets_upsertAll (layout : TableLayout) (entries : List Entry) :
    (t.upsertAll layout entries).Forgets t :=
  fun _ => (DocumentTable.learns_upsertAll layout entries).imp fun _ _ _ => trivial

end Script

open Script

/-- What is asked of a document store. -/
inductive Call where
  | save (key : String) (data : Json)
  | get (key : String)
  | getAll
  | delete (key : String)
  | deleteAll (keys : List String)
  | exists? (key : String)
  | metadata (keys : List String)
  | check
  | saveAll (items : List Json) (keys : List String)
  | query (q : Query)
  | queryEntries (q : Query)
  | queryFields (q : Query)
  | count (q : Query)
  | deleteQuery (q : Query)
  | queryAndUpdate (q : Query) (f : List Entry → Except StoreError (List Entry))

namespace Call

variable (s : DocumentStore) (pinned : Bool)

/-- An operation on a connection, which may be the caller's; what it gives does not matter. -/
def on {α : Type} (operation : Operation TableLayout α) : Script TableLayout Unit :=
  operation.script pinned >>= fun _ => .done ()

/-- What is run on the connection. -/
def script : Call → Script TableLayout Unit
  | save key data => on pinned (s.save key data)
  | get key => on pinned (s.get key)
  | getAll => on pinned s.getAll
  | delete key => on pinned (s.delete key)
  | deleteAll keys => on pinned (s.deleteAll keys)
  | exists? key => on pinned (s.exists? key)
  | metadata keys => on pinned (s.metadata keys)
  | check => on pinned s.check
  | saveAll items keys => on pinned (s.saveAll items keys)
  | query q => on pinned (s.query q)
  | queryEntries q => on pinned (s.queryEntries q)
  | queryFields q => on pinned (s.queryFields q)
  | count q => on pinned (s.count q)
  | deleteQuery q => on pinned (s.deleteQuery q)
  | queryAndUpdate q f => on pinned (s.queryAndUpdate q f)

variable {s pinned}

theorem learns_on {α : Type} {operation : Operation TableLayout α}
    {body : TableLayout → DocumentTable.Work α}
    (hscript : operation.script pinned = s.table.resolve pinned >>= body)
    (hbody : ∀ layout, (body layout).Forgets s.table) :
    (on pinned operation).Learns s.table (fun _ _ => True) (.start pinned) := by
  rw [on, hscript]
  exact ((DocumentTable.learns_resolve pinned).bind fun k layout _ => hbody layout k).bind
    fun _ _ _ => trivial

/-- No operation lets its store remember a table that is not committed. -/
theorem learns_script (call : Call) :
    (call.script s pinned).Learns s.table (fun _ _ => True) (.start pinned) := by
  cases call with
  | save key data =>
    exact learns_on rfl fun _ => (forgets_sendOr _ _).bind fun _ => forgets_done ()
  | get key => exact learns_on rfl fun _ => (forgets_sendOr _ _).bind fun _ => forgets_lift _
  | getAll => exact learns_on rfl fun _ => (forgets_sendOr _ _).bind fun _ => forgets_lift _
  | delete key => exact learns_on rfl fun _ => (forgets_sendOr _ _).bind fun _ => forgets_done _
  | deleteAll keys =>
    exact learns_on rfl fun _ => (forgets_sendOr _ _).bind fun _ => forgets_done _
  | exists? key => exact learns_on rfl fun _ => (forgets_sendOr _ _).bind fun _ => forgets_lift _
  | metadata keys =>
    exact learns_on rfl fun _ => (forgets_sendOr _ _).bind fun _ => forgets_lift _
  | check => exact learns_on rfl fun _ => (forgets_sendOr _ _).bind fun _ => forgets_done ()
  | saveAll items keys =>
    refine learns_on rfl fun layout => ?_
    split
    · exact fun _ => trivial
    · exact (forgets_transaction (forgets_upsertAll layout _)).bind fun _ => forgets_note _ _
  | query q => exact learns_on rfl fun _ => (forgets_sendOr _ _).bind fun _ => forgets_lift _
  | queryEntries q =>
    exact learns_on rfl fun _ => (forgets_sendOr _ _).bind fun _ => forgets_lift _
  | queryFields q => exact learns_on rfl fun _ => (forgets_sendOr _ _).bind fun _ => forgets_lift _
  | count q => exact learns_on rfl fun _ => (forgets_sendOr _ _).bind fun _ => forgets_lift _
  | deleteQuery q =>
    exact learns_on rfl fun _ => (forgets_sendOr _ _).bind fun _ => (forgets_lift _).bind
      fun _ => (forgets_note _ _).bind fun _ => forgets_done _
  | queryAndUpdate q f =>
    exact learns_on rfl fun layout => forgets_transaction <|
      (forgets_sendOr _ _).bind fun _ => (forgets_lift _).bind fun _ => (forgets_lift _).bind
        fun _ => (forgets_upsertAll layout _).bind fun _ => forgets_done _

end Call

end DocStore
