import DocStore.Proofs.Document.Calls
import DocStore.Proofs.Document.Contention
import DocStore.Proofs.Table.Sowing

/-!
# Stores that make one table

Any number of stores of one table, each with documents of its own to start with, are used on any
number of connections at once, some of which callers hold (`World`).  Operations run step by step,
interleaved in any order, and can fail or be cut off anywhere; callers do what they like in between.
Nobody drops the table.  A session sees a table that is committed or that it has made, its columns
show whether it does, and who wants to make the table waits while another session is making it.
To make a table that is there already is answered like making it, and does nothing.

* An operation is what it does of its own behind seeing to the table: `Call.script_eq`.
* The ledger of what is committed is orderly, what is pending goes with it, and a store that is
  making the table has done nothing but save its documents to start with: `World.IsSound`, kept by
  every event (`IsSound.follows_step`).
* So documents to start with are saved with the table and before everything else, and a document
  that a user has changed changes only by users: `World.sown_with_the_table`.
* This does not hold of a store that was answered that it had made the table although it was there:
  it saves its documents to start with over what users have saved
  (`World.not_keeps_preparedLate`).
-/

namespace DocStore

open Sql (Statement)

/-! ## What an operation does of its own -/

namespace Call

variable {s : DocumentStore} {call : Call} {α : Type} {op : DocumentStore → Operation TableLayout α}

/-- What is done when the layout is known. -/
def own (call : Call) (s : DocumentStore) (layout : TableLayout) : DocumentTable.Work Unit :=
  match call.script s false with
  | .inspect next => next (some layout)
  | x => x

theorem script_eq_of_offered (hop : DocumentStore.Offered op)
    (h : ∀ pinned, call.script s pinned = on pinned (op s)) (pinned : Bool) :
    call.script s pinned = s.table.resolve pinned >>= call.own s := by
  obtain ⟨own, hown⟩ := hop.exists_own
  have hon (pinned : Bool) : call.script s pinned =
      s.table.resolve pinned >>= fun layout => own s layout >>= fun _ => .done () := by
    rw [h, on, hown.script, Script.bind_assoc]
  have hrest : call.own s = fun layout => own s layout >>= fun _ => .done () := by
    funext layout
    rw [Call.own, hon]
    rfl
  rw [hon, hrest]

/-- Every operation sees to the table, and then does something of its own. -/
theorem script_eq (call : Call) (s : DocumentStore) (pinned : Bool) :
    call.script s pinned = s.table.resolve pinned >>= call.own s := by
  cases call with
  | save key data => exact script_eq_of_offered (.save key data) (fun _ => rfl) pinned
  | get key => exact script_eq_of_offered (.get key) (fun _ => rfl) pinned
  | getAll => exact script_eq_of_offered .getAll (fun _ => rfl) pinned
  | delete key => exact script_eq_of_offered (.delete key) (fun _ => rfl) pinned
  | deleteAll keys => exact script_eq_of_offered (.deleteAll keys) (fun _ => rfl) pinned
  | exists? key => exact script_eq_of_offered (.exists? key) (fun _ => rfl) pinned
  | metadata keys => exact script_eq_of_offered (.metadata keys) (fun _ => rfl) pinned
  | check => exact script_eq_of_offered .check (fun _ => rfl) pinned
  | saveAll items keys => exact script_eq_of_offered (.saveAll items keys) (fun _ => rfl) pinned
  | query q => exact script_eq_of_offered (.query q) (fun _ => rfl) pinned
  | queryEntries q => exact script_eq_of_offered (.queryEntries q) (fun _ => rfl) pinned
  | queryFields q => exact script_eq_of_offered (.queryFields q) (fun _ => rfl) pinned
  | count q => exact script_eq_of_offered (.count q) (fun _ => rfl) pinned
  | deleteQuery q => exact script_eq_of_offered (.deleteQuery q) (fun _ => rfl) pinned
  | queryAndUpdate q f => exact script_eq_of_offered (.queryAndUpdate q f) (fun _ => rfl) pinned

end Call

namespace Seeding

/-- Stores of one table, each with documents of its own to start with. -/
structure Fleet where
  name : Sql.TableName
  seed : Nat → Option (Except StoreError (List Entry))
  timeout : Duration
  /-- How the database compares the texts of documents. -/
  same : String → String → Bool

namespace Fleet

variable (fleet : Fleet)

def store (i : Nat) : DocumentStore := ⟨⟨fleet.name, fleet.seed i⟩, fleet.timeout⟩

def table : DocumentTable := ⟨fleet.name, none⟩

def server : Contention.Server := ⟨fleet.name.text, fleet.same, false⟩

end Fleet

/-- Who does something to the table. -/
inductive Author where
  /-- A store that sees to the table. -/
  | sower (isLate : Bool)
  | user

/-- What is done by a statement that is carried out.  Nothing is done to a table that is not seen,
and it is not made again if it is. -/
def deed? (t : DocumentTable) (seen : Bool) (author : Author) (s : Statement) : Option Deed :=
  if s = t.createStatement then if seen then none else some .made
  else if !seen then none
  else
    match author with
    | .user => some (.own s)
    | .sower isLate =>
        if s = t.columnsStatement ∨ s = DocumentTable.unwrittenStatement then none
        else some (.seed isLate s)

theorem of_deed? {t : DocumentTable} {seen : Bool} {author : Author} {s : Statement} {d : Deed}
    (h : deed? t seen author s = some d) :
    s = t.createStatement ∧ seen = false ∧ d = .made ∨
      s ≠ t.createStatement ∧ seen = true ∧
        (author = .user ∧ d = .own s ∨
          ∃ isLate, author = .sower isLate ∧ t.IsSowing (.execute s) ∧ d = .seed isLate s) := by
  unfold deed? at h
  split at h
  · next hs =>
    cases seen with
    | true => exact nomatch h
    | false => exact .inl ⟨hs, rfl, (Option.some.inj h).symm⟩
  · next hs =>
    refine .inr ⟨hs, ?_⟩
    cases seen with
    | false => exact nomatch h
    | true =>
      cases author with
      | user => exact ⟨rfl, .inl ⟨rfl, (Option.some.inj h).symm⟩⟩
      | sower isLate =>
        rw [if_neg (by decide)] at h
        dsimp only at h
        split at h
        · exact nomatch h
        · next hask =>
          have hsowing : t.IsSowing (.execute s) :=
            ⟨s, rfl, fun hp => hp.elim (fun hc => hask (.inl hc)) hs, fun hu => hask (.inr hu)⟩
          exact ⟨rfl, .inr ⟨isLate, rfl, hsowing, (Option.some.inj h).symm⟩⟩

/-- What goes on on a connection. -/
inductive Turn where
  | free
  /-- A store sees to the table for an operation, which then does something of its own.  The store
  is late if it was answered that the table was made although it was there.  `base` transactions
  were open when the operation began. -/
  | seeing (store : Nat) (own : TableLayout → DocumentTable.Work Unit)
      (x : DocumentTable.Work TableLayout) (isLate : Bool) (base : Nat)
  /-- The operation does something of its own. -/
  | working (store : Nat) (x : DocumentTable.Work Unit) (base : Nat)
  /-- The operation has ended; what it has left open is to be rolled back. -/
  | leaving (base : Nat)

def Turn.isLate : Turn → Bool
  | seeing _ _ _ isLate _ => isLate
  | _ => false

structure Connection where
  /-- A caller holds the connection. -/
  isHeld : Bool
  /-- What is pending in the transactions that are open, the innermost first. -/
  levels : List (List Deed)
  turn : Turn

/-- A connection of the pool. -/
def Connection.idle : Connection := ⟨false, [], .free⟩

def Connection.pending (conn : Connection) : List Deed := Levels.pending conn.levels

structure World where
  /-- What each store remembers. -/
  memory : Nat → Option TableLayout
  /-- What was done to the table, in the order in which it was committed. -/
  ledger : List Deed
  /-- Who has made the table in a transaction that is open.  Others that want to make it wait. -/
  maker : Option Nat
  connections : Nat → Connection

inductive Event where
  /-- A store starts an operation. -/
  | start (c i : Nat) (call : Call)
  /-- The operation goes on without the server. -/
  | go (c : Nat)
  /-- The operation cannot let its store remember what it has found, since another one is about
  to, and goes on. -/
  | forgo (c : Nat)
  /-- What the operation has asked is carried out or refused. -/
  | reply (c : Nat) (r : Reply)
  /-- The connection ends.  What was asked last may have been carried out. -/
  | lose (c : Nat) (carried : Bool)
  /-- The operation is cut off.  What was asked last may have been carried out. -/
  | cutOff (c : Nat) (carried : Bool)
  /-- A transaction that the operation has left open is rolled back, or none is left. -/
  | unwind (c : Nat)
  /-- A caller takes a connection. -/
  | hold (c : Nat)
  /-- A caller gives a connection back; what is open on it is rolled back. -/
  | release (c : Nat)
  /-- A caller has a command of its own carried out.  A commit that the server turns into a
  rollback counts as one. -/
  | caller (c : Nat) (command : Command)

/-- The connection on which it happens. -/
def Event.connection : Event → Nat
  | .start c _ _ | .go c | .forgo c | .reply c _ | .lose c _ | .cutOff c _ | .unwind c | .hold c
  | .release c | .caller c _ => c

namespace World

variable (fleet : Fleet)

/-- Nobody has made the table yet. -/
def initial : World := ⟨fun _ => none, [], none, fun _ => .idle⟩

/-- Whether the session of the connection sees the table. -/
def sees (w : World) (c : Nat) : Bool := DocStore.sees w.ledger (w.connections c).pending

/-- The connection becomes another one, and something is committed by it. -/
def settle (w : World) (c : Nat) (conn : Connection) (committed : List Deed) : World where
  memory := w.memory
  ledger := w.ledger ++ committed
  maker :=
    if .made ∈ conn.pending then some c else if w.maker = some c then none else w.maker
  connections i := if i = c then conn else w.connections i

/-- The connection takes another turn. -/
def turnTo (w : World) (c : Nat) (turn : Turn) : World :=
  w.settle c { w.connections c with turn } []

/-- The store remembers the layout, unless it does already. -/
def remember (w : World) (i : Nat) (layout : TableLayout) : World :=
  { w with memory := fun j => if j = i then (w.memory i).or (some layout) else w.memory j }

/-- A command is carried out on a connection, which then takes another turn. -/
def carryOut (w : World) (c : Nat) (command : Command) (author : Author) (turn : Turn) : World :=
  let conn := w.connections c
  let after := Levels.carryOut conn.levels (deed? fleet.table (w.sees c) author) command
  w.settle c { conn with levels := after.1, turn } after.2

/-- The connection ends, and with it what was open on it. -/
def lose (w : World) (c : Nat) (turn : Turn) : World :=
  w.settle c { w.connections c with levels := [], turn } []

/-- Whether the command can be carried out now: who wants to make the table waits while another
session is making it. -/
def admits (w : World) (c : Nat) (command : Command) : Bool :=
  !(command = .execute fleet.table.createStatement) || w.maker.all (· = c)

/-- Whether the session can reply this.  A table that is seen has columns, and no other. -/
def permits (w : World) (c : Nat) (command : Command) : Reply → Bool
  | .ok a =>
      w.admits fleet c command &&
        (!(command = .execute fleet.table.columnsStatement) || a.rows.isEmpty == !w.sees c)
  | .error _ => true

/-- The store is late if its statement to make the table is answered although the table is there. -/
def isLateAfter (w : World) (c : Nat) (command : Command) (isLate : Bool) : Bool :=
  if command = .execute fleet.table.createStatement then w.sees c else isLate

def step (w : World) : Event → World
  | .start c i call =>
      let conn := w.connections c
      match conn.turn with
      | .free =>
          if conn.isHeld || conn.levels.isEmpty then
            let store := fleet.store i
            w.turnTo c (.seeing i (call.own store) (store.table.resolve conn.isHeld) false
              conn.levels.length)
          else w
      | _ => w
  | .go c =>
      match (w.connections c).turn with
      | .seeing i own (.log _ next) isLate base => w.turnTo c (.seeing i own next isLate base)
      | .seeing i own (.inspect next) isLate base =>
          w.turnTo c (.seeing i own (next (w.memory i)) isLate base)
      | .seeing i own (.remember layout next) isLate base =>
          (w.turnTo c (.seeing i own next isLate base)).remember i layout
      | .seeing i own (.done layout) _ base => w.turnTo c (.working i (own layout) base)
      | .working i (.log _ next) base => w.turnTo c (.working i next base)
      | .working i (.inspect next) base => w.turnTo c (.working i (next (w.memory i)) base)
      | .working i (.remember layout next) base =>
          (w.turnTo c (.working i next base)).remember i layout
      | .seeing _ _ (.fail _) _ base | .working _ (.done _) base | .working _ (.fail _) base =>
          w.turnTo c (.leaving base)
      | _ => w
  | .forgo c =>
      match (w.connections c).turn with
      | .seeing i own (.remember _ next) isLate base => w.turnTo c (.seeing i own next isLate base)
      | .working i (.remember _ next) base => w.turnTo c (.working i next base)
      | _ => w
  | .reply c r =>
      match (w.connections c).turn with
      | .seeing i own (.ask command next) isLate base =>
          if w.permits fleet c command r then
            match r with
            | .ok a =>
                w.carryOut fleet c command (.sower isLate)
                  (.seeing i own (next (.ok a)) (w.isLateAfter fleet c command isLate) base)
            | .error fault => w.turnTo c (.seeing i own (next (.error fault)) isLate base)
          else w
      | .working i (.ask command next) base =>
          if w.permits fleet c command r then
            match r with
            | .ok a => w.carryOut fleet c command .user (.working i (next (.ok a)) base)
            | .error fault => w.turnTo c (.working i (next (.error fault)) base)
          else w
      | _ => w
  | .lose c carried =>
      match (w.connections c).turn with
      | .seeing i own (.ask command next) isLate base =>
          let w' := if carried && w.admits fleet c command then
            w.carryOut fleet c command (.sower isLate) .free else w
          w'.lose c (.seeing i own (next (.error .ended)) isLate base)
      | .working i (.ask command next) base =>
          let w' := if carried && w.admits fleet c command then
            w.carryOut fleet c command .user .free else w
          w'.lose c (.working i (next (.error .ended)) base)
      | .seeing _ _ _ _ _ | .working _ _ _ => w
      | turn => w.lose c turn
  | .cutOff c carried =>
      match (w.connections c).turn with
      | .seeing _ _ (.ask command _) isLate base =>
          if carried && w.admits fleet c command then
            w.carryOut fleet c command (.sower isLate) (.leaving base)
          else w.turnTo c (.leaving base)
      | .working _ (.ask command _) base =>
          if carried && w.admits fleet c command then
            w.carryOut fleet c command .user (.leaving base)
          else w.turnTo c (.leaving base)
      | .seeing _ _ _ _ base | .working _ _ base => w.turnTo c (.leaving base)
      | _ => w
  | .unwind c =>
      match (w.connections c).turn with
      | .leaving base =>
          if base < (w.connections c).levels.length then
            w.carryOut fleet c .rollback .user (.leaving base)
          else w.turnTo c .free
      | _ => w
  | .hold c =>
      let conn := w.connections c
      match conn.turn with
      | .free => if conn.levels.isEmpty then w.settle c { conn with isHeld := true } [] else w
      | _ => w
  | .release c =>
      match (w.connections c).turn with
      | .free => w.settle c .idle []
      | _ => w
  | .caller c command =>
      let conn := w.connections c
      match conn.turn with
      | .free =>
          if conn.isHeld && w.admits fleet c command then w.carryOut fleet c command .user .free
          else w
      | _ => w

def run (w : World) (events : List Event) : World := events.foldl (step fleet) w

end World

/-! ## Soundness -/

variable {fleet : Fleet}

/-- A store that is making the table, and is not late, has made it in a transaction that is open,
and has done nothing since but save documents to start with. -/
def Connection.IsSown (fleet : Fleet) (conn : Connection) : Prop :=
  ∀ i own x isLate base, conn.turn = .seeing i own x isLate base →
    ∃ p : Phase, x.Sows (fleet.store i).table (fun _ _ => True) p ∧
      (p ≠ .away → conn.levels ≠ []) ∧
      (p = .making → isLate = false →
        ∃ seeds, conn.pending = .made :: seeds ∧ ∀ d ∈ seeds, d.isPrompt = true)

theorem Connection.isSown_of_ne {conn : Connection}
    (h : ∀ i own x isLate base, conn.turn ≠ .seeing i own x isLate base) : conn.IsSown fleet :=
  fun i own x isLate base hturn => absurd hturn (h i own x isLate base)

/-- A store that is away from making the table. -/
theorem Connection.isSown_of_away {conn : Connection} {i : Nat}
    {own : TableLayout → DocumentTable.Work Unit} {x : DocumentTable.Work TableLayout}
    {isLate : Bool} {base : Nat} (hturn : conn.turn = .seeing i own x isLate base)
    (hx : x.Sows (fleet.store i).table (fun _ _ => True) .away) : conn.IsSown fleet := by
  intro i' own' x' isLate' base' hturn'
  rw [hturn] at hturn'
  obtain ⟨rfl, rfl, rfl, rfl, rfl⟩ := Turn.seeing.inj hturn'
  exact ⟨.away, hx, fun h => absurd rfl h, nofun⟩

namespace World

/-- The ledger is orderly, what is pending goes with it, and only one session makes the table. -/
structure IsSound (fleet : Fleet) (w : World) : Prop where
  ledger : IsOrderly w.ledger
  fits : ∀ c, Fits w.ledger (w.connections c).pending
  maker : ∀ c, .made ∈ (w.connections c).pending → w.maker = some c
  sown : ∀ c, (w.connections c).IsSown fleet

theorem isSound_initial : initial.IsSound fleet where
  ledger := trivial
  fits _ := fits_nil []
  maker _ := nofun
  sown _ := Connection.isSown_of_ne nofun

/-- A late document is committed or pending. -/
def HasLate (w : World) : Prop :=
  ∃ d : Deed, d.isLate = true ∧ (d ∈ w.ledger ∨ ∃ c, d ∈ (w.connections c).pending)

/-- What comes of something that happens on a connection: the world stays sound, to a table that
was committed only that is done which may be done to it, and no document is late unless the store
is. -/
structure Follows (fleet : Fleet) (c : Nat) (w w' : World) : Prop where
  sound : w'.IsSound fleet
  ledger : ∃ new, w'.ledger = w.ledger ++ new ∧ (w.ledger ≠ [] → ∀ d ∈ new, d.IsLater)
  late : w'.HasLate → w.HasLate ∨ (w.connections c).turn.isLate = true

variable {w w' w'' : World} {c : Nat}

theorem IsSound.follows_self (h : w.IsSound fleet) : Follows fleet c w w :=
  ⟨h, ⟨[], (List.append_nil _).symm, fun _ => nofun⟩, .inl⟩

theorem Follows.trans (h : Follows fleet c w w') (h' : Follows fleet c w' w'')
    (hturn : (w'.connections c).turn.isLate = false) : Follows fleet c w w'' := by
  obtain ⟨new, hnew, hlater⟩ := h.ledger
  obtain ⟨new', hnew', hlater'⟩ := h'.ledger
  refine ⟨h'.sound, ⟨new ++ new', ?_, fun hne d hd => ?_⟩, fun hlate => ?_⟩
  · rw [hnew', hnew, List.append_assoc]
  · rcases List.mem_append.1 hd with hd | hd
    · exact hlater hne d hd
    · exact hlater' (by rw [hnew]; exact List.append_ne_nil_of_left_ne_nil hne new) d hd
  · rcases h'.late hlate with hlate | hlate
    · exact h.late hlate
    · exact nomatch hturn.symm.trans hlate

/-- Who remembers what has nothing to do with it. -/
theorem Follows.remember (h : Follows fleet c w w') (i : Nat) (layout : TableLayout) :
    Follows fleet c w (w'.remember i layout) :=
  ⟨⟨h.sound.ledger, h.sound.fits, h.sound.maker, h.sound.sown⟩, h.ledger, h.late⟩

/-- While one session has made the table, or may make it, nothing is pending in another. -/
theorem IsSound.pending_eq_nil (h : w.IsSound fleet) (hnil : w.ledger = [])
    (hmaker : w.maker.all (· = c) = true) {i : Nat} (hi : i ≠ c) :
    (w.connections i).pending = [] := by
  refine Classical.byContradiction fun hne => ?_
  have hfits := h.fits i
  rw [Fits, if_pos hnil] at hfits
  rw [h.maker i (hfits.head hne)] at hmaker
  exact hi (of_decide_eq_true hmaker)

theorem IsSound.settle (h : w.IsSound fleet) {conn : Connection} {committed : List Deed}
    (hledger : IsOrderly (w.ledger ++ committed))
    (hfits : Fits (w.ledger ++ committed) conn.pending)
    (hmaker : .made ∈ conn.pending ∨ .made ∈ committed → w.maker.all (· = c) = true)
    (hsown : conn.IsSown fleet) : (w.settle c conn committed).IsSound fleet := by
  have hother (i : Nat) (hi : i ≠ c) : ((w.settle c conn committed).connections i) =
      w.connections i := if_neg hi
  have hself : ((w.settle c conn committed).connections c) = conn := if_pos rfl
  refine ⟨hledger, fun i => ?_, fun i hmade => ?_, fun i => ?_⟩
  · by_cases hi : i = c
    · rw [hi, hself]
      exact hfits
    · rw [hother i hi]
      change Fits (w.ledger ++ committed) _
      by_cases hnil : w.ledger = []
      · cases hcommitted : committed with
        | nil =>
          rw [List.append_nil]
          exact h.fits i
        | cons d rest =>
          have hmade : .made ∈ committed := by
            rw [hnil, List.nil_append] at hledger
            exact hledger.head (by rw [hcommitted]; exact List.cons_ne_nil d rest)
          rw [h.pending_eq_nil hnil (hmaker (.inr hmade)) hi]
          exact fits_nil _
      · rw [Fits, if_neg (List.append_ne_nil_of_left_ne_nil hnil _)]
        exact (h.fits i).isLater hnil
  · by_cases hi : i = c
    · rw [hi, hself] at hmade
      rw [hi]
      exact if_pos hmade
    · rw [hother i hi] at hmade
      have hwas := h.maker i hmade
      have hmade' : .made ∉ conn.pending := by
        intro hmade'
        have hall := hmaker (.inl hmade')
        rw [hwas] at hall
        exact hi (of_decide_eq_true hall)
      change (if _ then _ else if _ then _ else _) = some i
      rw [if_neg hmade', if_neg (by rw [hwas]; exact fun heq => hi (Option.some.inj heq)), hwas]
  · by_cases hi : i = c
    · rw [hi, hself]
      exact hsown
    · rw [hother i hi]
      exact h.sown i

theorem IsSound.follows_settle (h : w.IsSound fleet) {conn : Connection} {committed : List Deed}
    (hkeeps : IsOrderly (w.ledger ++ committed) ∧ Fits (w.ledger ++ committed) conn.pending)
    (hmaker : .made ∈ conn.pending ∨ .made ∈ committed → w.maker.all (· = c) = true)
    (hsown : conn.IsSown fleet) (hlater : w.ledger ≠ [] → ∀ d ∈ committed, d.IsLater)
    (hlate : ∀ d : Deed, d.isLate = true → d ∈ conn.pending ∨ d ∈ committed →
      d ∈ (w.connections c).pending ∨ (w.connections c).turn.isLate = true) :
    Follows fleet c w (w.settle c conn committed) := by
  refine ⟨h.settle hkeeps.1 hkeeps.2 hmaker hsown, ⟨committed, rfl, hlater⟩, ?_⟩
  have hof (d : Deed) (hd : d.isLate = true) (hmem : d ∈ conn.pending ∨ d ∈ committed) :
      w.HasLate ∨ (w.connections c).turn.isLate = true :=
    (hlate d hd hmem).imp_left fun hmem => ⟨d, hd, .inr ⟨c, hmem⟩⟩
  rintro ⟨d, hd, hmem | ⟨i, hmem⟩⟩
  · rcases List.mem_append.1 hmem with hmem | hmem
    · exact .inl ⟨d, hd, .inl hmem⟩
    · exact hof d hd (.inr hmem)
  · change d ∈ (if i = c then conn else w.connections i).pending at hmem
    split at hmem
    · exact hof d hd (.inl hmem)
    · exact .inl ⟨d, hd, .inr ⟨i, hmem⟩⟩

/-- What is pending stays as it is. -/
theorem IsSound.follows_same (h : w.IsSound fleet) {conn : Connection}
    (hlevels : conn.levels = (w.connections c).levels) (hsown : conn.IsSown fleet) :
    Follows fleet c w (w.settle c conn []) := by
  have hpending : conn.pending = (w.connections c).pending := by
    rw [Connection.pending, hlevels, Connection.pending]
  refine h.follows_settle ?_ (fun hmade => ?_) hsown (fun _ => nofun) fun d _ hmem => ?_
  · rw [List.append_nil, hpending]
    exact ⟨h.ledger, h.fits c⟩
  · rw [hpending] at hmade
    rw [h.maker c (hmade.resolve_right List.not_mem_nil)]
    exact decide_eq_true rfl
  · exact .inl (hpending ▸ hmem.resolve_right List.not_mem_nil)

theorem IsSound.follows_turnTo (h : w.IsSound fleet) {turn : Turn}
    (hsown : Connection.IsSown fleet { w.connections c with turn }) :
    Follows fleet c w (w.turnTo c turn) :=
  h.follows_same rfl hsown

/-- What is open is lost. -/
theorem IsSound.follows_closed (h : w.IsSound fleet) {conn : Connection}
    (hlevels : conn.levels = [])
    (hsown : conn.IsSown fleet) : Follows fleet c w (w.settle c conn []) := by
  have hpending : conn.pending = [] := by rw [Connection.pending, hlevels, Levels.pending_nil]
  refine h.follows_settle ?_ (fun hmade => ?_) hsown (fun _ => nofun) fun d _ hmem => ?_
  · rw [List.append_nil, hpending]
    exact ⟨h.ledger, fits_nil _⟩
  · rw [hpending] at hmade
    exact hmade.elim (fun hmem => absurd hmem List.not_mem_nil) fun hmem =>
      absurd hmem List.not_mem_nil
  · rw [hpending] at hmem
    exact hmem.elim (fun hmem => absurd hmem List.not_mem_nil) fun hmem =>
      absurd hmem List.not_mem_nil

/-! ## What is carried out -/

/-- A user does to the table only what is proper. -/
theorem isProper_user {s : Statement} {d : Deed}
    (h : deed? fleet.table (w.sees c) .user s = some d) :
    IsProper w.ledger (w.connections c).pending d := by
  rcases of_deed? h with ⟨-, hseen, rfl⟩ | ⟨-, hseen, ⟨-, rfl⟩ | ⟨_, hauthor, -⟩⟩
  · exact .made hseen
  · exact .later hseen ⟨nofun, rfl⟩
  · exact nomatch hauthor

/-- So does a store that sees to the table. -/
theorem IsSound.isProper_sower (h : w.IsSound fleet) {i : Nat}
    {own : TableLayout → DocumentTable.Work Unit} {command : Command}
    {next : Reply → DocumentTable.Work TableLayout} {isLate : Bool} {base : Nat}
    (hturn : (w.connections c).turn = .seeing i own (.ask command next) isLate base)
    {s : Statement} {d : Deed} (hs : command = .execute s)
    (hd : deed? fleet.table (w.sees c) (.sower isLate) s = some d) :
    IsProper w.ledger (w.connections c).pending d := by
  obtain ⟨p, ⟨hsowing, -⟩, -, hmaking⟩ := h.sown c _ _ _ _ _ hturn
  rcases of_deed? hd with ⟨-, hseen, rfl⟩ | ⟨-, hseen, ⟨hauthor, -⟩ | ⟨_, ⟨⟩, hask, rfl⟩⟩
  · exact .made hseen
  · exact nomatch hauthor
  · cases isLate with
    | true => exact .later hseen ⟨nofun, rfl⟩
    | false =>
      obtain ⟨seeds, hpending, hseeds⟩ := hmaking (hsowing (hs ▸ hask)) rfl
      exact .prompt hpending hseeds rfl

/-- A command is carried out, if it is admitted. -/
theorem IsSound.follows_carryOut (h : w.IsSound fleet) {command : Command} {author : Author}
    {turn : Turn} (hadmits : w.admits fleet c command = true)
    (hproper : ∀ s d, command = .execute s → deed? fleet.table (w.sees c) author s = some d →
      IsProper w.ledger (w.connections c).pending d)
    (hauthor : author = .sower true → (w.connections c).turn.isLate = true)
    (hsown : Connection.IsSown fleet { w.connections c with
      levels := (Levels.carryOut (w.connections c).levels
        (deed? fleet.table (w.sees c) author) command).1, turn }) :
    Follows fleet c w (w.carryOut fleet c command author turn) := by
  have hkeeps := Levels.keeps_carryOut (h.fits c) h.ledger hproper
  have hmem {d : Deed} (hd : d ∈ Levels.pending (Levels.carryOut (w.connections c).levels
      (deed? fleet.table (w.sees c) author) command).1 ∨ d ∈ (Levels.carryOut
        (w.connections c).levels (deed? fleet.table (w.sees c) author) command).2) :=
    Levels.mem_carryOut hd
  refine h.follows_settle hkeeps (fun hmade => ?_) hsown (fun hne d hd => ?_) fun d hd hd' => ?_
  · rcases hmem hmade with hmade | ⟨s, rfl, hs⟩
    · rw [h.maker c hmade]
      exact decide_eq_true rfl
    · rcases of_deed? hs with ⟨rfl, -, -⟩ | ⟨-, -, ⟨-, heq⟩ | ⟨_, -, -, heq⟩⟩
      · simpa [admits] using hadmits
      · exact nomatch heq
      · exact nomatch heq
  · rcases hmem (.inr hd) with hpending | ⟨s, hs, hdeed⟩
    · exact (h.fits c).isLater hne d hpending
    · exact (hproper s d hs hdeed).isLater (h.fits c) h.ledger hne
  · refine (hmem hd').imp id fun ⟨s, hs, hdeed⟩ => hauthor ?_
    rcases of_deed? hdeed with ⟨-, -, rfl⟩ | ⟨-, -, ⟨-, rfl⟩ | ⟨isLate, rfl, -, rfl⟩⟩
    · exact nomatch hd
    · exact nomatch hd
    · cases isLate with
      | true => rfl
      | false => exact nomatch hd

/-- A store that is making the table, and is not late, has made it just now, or has saved one more
document. -/
theorem IsSound.made_after (h : w.IsSound fleet) {i : Nat} {p : Phase} {isLate : Bool}
    {s : Statement} {a : Answer} (hlevels : p ≠ .away → (w.connections c).levels ≠ [])
    (hmaking : p = .making → isLate = false →
      ∃ seeds, (w.connections c).pending = .made :: seeds ∧ ∀ d ∈ seeds, d.isPrompt = true)
    (hafter : p.after (fleet.store i).table (.execute s) (.ok a) = .making)
    (hprompt : w.isLateAfter fleet c (.execute s) isLate = false) :
    ∃ seeds, Levels.pending (Levels.carryOut (w.connections c).levels
        (deed? fleet.table (w.sees c) (.sower isLate)) (.execute s)).1 = .made :: seeds ∧
      ∀ d ∈ seeds, d.isPrompt = true := by
  have hopen : (w.connections c).levels ≠ [] := hlevels fun haway => by
    rw [haway, Phase.after] at hafter
    split at hafter <;> cases hafter
  rw [(Levels.pending_execute hopen s).2]
  change ∃ seeds, (w.connections c).pending ++ _ = .made :: seeds ∧ _
  by_cases hs : s = fleet.table.createStatement
  · have hsees : w.sees c = false := by
      rw [isLateAfter, if_pos (congrArg Command.execute hs)] at hprompt
      exact hprompt
    have hdeed : deed? fleet.table (w.sees c) (.sower isLate) s = some .made := by
      unfold deed?
      rw [if_pos hs, hsees]
      rfl
    rw [((h.fits c).eq_nil_of_unseen h.ledger hsees).2, hdeed]
    exact ⟨[], rfl, fun d hd => absurd hd List.not_mem_nil⟩
  · have hp : p = .making := by
      have hs' : s ≠ (fleet.store i).table.createStatement := hs
      rwa [Phase.after, if_neg hs'] at hafter
    have hlate : isLate = false := by
      rw [isLateAfter, if_neg fun heq => hs (Command.execute.inj heq)] at hprompt
      exact hprompt
    obtain ⟨seeds, hpending, hseeds⟩ := hmaking hp hlate
    rw [hpending, List.cons_append]
    refine ⟨_, rfl, fun d hd => ?_⟩
    rcases List.mem_append.1 hd with hd | hd
    · exact hseeds d hd
    · rcases of_deed? (Option.mem_toList.1 hd) with
        ⟨hs', -, -⟩ | ⟨-, -, ⟨heq, -⟩ | ⟨_, heq, -, rfl⟩⟩
      · exact absurd hs' hs
      · cases heq
      · rw [← Author.sower.inj heq, hlate]
        rfl

/-- A store that hears an answer. -/
theorem IsSound.isSown_after_ok (h : w.IsSound fleet) {i : Nat}
    {own : TableLayout → DocumentTable.Work Unit} {command : Command}
    {next : Reply → DocumentTable.Work TableLayout} {isLate : Bool} {base : Nat}
    (hturn : (w.connections c).turn = .seeing i own (.ask command next) isLate base) (a : Answer) :
    Connection.IsSown fleet { w.connections c with
      levels := (Levels.carryOut (w.connections c).levels
        (deed? fleet.table (w.sees c) (.sower isLate)) command).1
      turn := .seeing i own (next (.ok a)) (w.isLateAfter fleet c command isLate) base } := by
  obtain ⟨p, ⟨-, hsows⟩, hlevels, hmaking⟩ := h.sown c _ _ _ _ _ hturn
  cases command with
  | execute s =>
    rintro i' own' x' isLate' base' ⟨⟩
    refine ⟨_, hsows (.ok a), fun haway => ?_, fun hafter hprompt => ?_⟩
    · refine (Levels.pending_execute (hlevels ?_) s).1
      rintro rfl
      exact haway (by rw [Phase.after]; split <;> rfl)
    · exact h.made_after hlevels hmaking hafter hprompt
  | begin =>
    rintro i' own' x' isLate' base' ⟨⟩
    refine ⟨.begun, hsows (.ok a), fun _ => List.cons_ne_nil _ _, fun hmade => ?_⟩
    cases hmade
  | commit => exact Connection.isSown_of_away rfl (hsows (.ok a))
  | rollback => exact Connection.isSown_of_away rfl (hsows (.ok a))
  | ping => exact Connection.isSown_of_away rfl (hsows (.ok a))

/-! ## Events -/

/-- A connection on which no store sees to the table. -/
theorem isSown_turn {conn : Connection} {turn : Turn}
    (h : ∀ i own x isLate base, turn ≠ .seeing i own x isLate base) :
    Connection.IsSown fleet { conn with turn } :=
  Connection.isSown_of_ne h

/-- A store that goes on without the server stays where it is with making the table. -/
theorem IsSound.isSown_go (h : w.IsSound fleet) {i : Nat}
    {own : TableLayout → DocumentTable.Work Unit} {x next : DocumentTable.Work TableLayout}
    {isLate : Bool} {base : Nat} (hturn : (w.connections c).turn = .seeing i own x isLate base)
    (hnext : ∀ p, x.Sows (fleet.store i).table (fun _ _ => True) p →
      next.Sows (fleet.store i).table (fun _ _ => True) p) :
    Connection.IsSown fleet
      { w.connections c with turn := .seeing i own next isLate base } := by
  obtain ⟨p, hsows, hlevels, hmaking⟩ := h.sown c _ _ _ _ _ hturn
  rintro i' own' x' isLate' base' ⟨⟩
  exact ⟨p, hnext p hsows, hlevels, hmaking⟩

theorem IsSound.follows_go (h : w.IsSound fleet) :
    Follows fleet c w (w.step fleet (.go c)) := by
  rw [step]
  split
  · next hturn => exact h.follows_turnTo (h.isSown_go hturn fun _ hsows => hsows)
  · next hturn => exact h.follows_turnTo (h.isSown_go hturn fun _ hsows => hsows _)
  · next hturn =>
    refine (h.follows_turnTo ?_).remember _ _
    exact h.isSown_go hturn fun _ hsows => hsows
  · exact h.follows_turnTo (isSown_turn nofun)
  · exact h.follows_turnTo (isSown_turn nofun)
  · exact h.follows_turnTo (isSown_turn nofun)
  · refine (h.follows_turnTo ?_).remember _ _
    exact isSown_turn nofun
  · exact h.follows_turnTo (isSown_turn nofun)
  · exact h.follows_turnTo (isSown_turn nofun)
  · exact h.follows_turnTo (isSown_turn nofun)
  · exact h.follows_self

theorem IsSound.follows_forgo (h : w.IsSound fleet) :
    Follows fleet c w (w.step fleet (.forgo c)) := by
  rw [step]
  split
  · next hturn => exact h.follows_turnTo (h.isSown_go hturn fun _ hsows => hsows)
  · exact h.follows_turnTo (isSown_turn nofun)
  · exact h.follows_self

/-- A store that hears of a fault goes away from making the table. -/
theorem IsSound.sows_error (h : w.IsSound fleet) {i : Nat}
    {own : TableLayout → DocumentTable.Work Unit} {command : Command}
    {next : Reply → DocumentTable.Work TableLayout} {isLate : Bool} {base : Nat}
    (hturn : (w.connections c).turn = .seeing i own (.ask command next) isLate base)
    (fault : DatabaseFault) :
    (next (.error fault)).Sows (fleet.store i).table (fun _ _ => True) .away := by
  obtain ⟨p, ⟨-, hsows⟩, -⟩ := h.sown c _ _ _ _ _ hturn
  have haway : p.after (fleet.store i).table command (.error fault) = .away := by
    cases command <;> rfl
  exact haway ▸ hsows (.error fault)

theorem IsSound.follows_reply (h : w.IsSound fleet) (r : Reply) :
    Follows fleet c w (w.step fleet (.reply c r)) := by
  rw [step]
  split
  · next i own command next isLate base hturn =>
    split
    · next hpermits =>
      cases r with
      | ok a =>
        have hadmits : w.admits fleet c command = true := (Bool.and_eq_true_iff.1 hpermits).1
        refine h.follows_carryOut hadmits (fun s d => h.isProper_sower hturn) (fun hlate => ?_)
          (h.isSown_after_ok hturn a)
        rw [hturn]
        exact Author.sower.inj hlate
      | error fault =>
        exact h.follows_turnTo (Connection.isSown_of_away rfl (h.sows_error hturn fault))
    · exact h.follows_self
  · next i command next base hturn =>
    split
    · next hpermits =>
      cases r with
      | ok a =>
        have hadmits : w.admits fleet c command = true := (Bool.and_eq_true_iff.1 hpermits).1
        exact h.follows_carryOut hadmits (fun s d _ => isProper_user) nofun
          (Connection.isSown_of_ne nofun)
      | error fault => exact h.follows_turnTo (isSown_turn nofun)
    · exact h.follows_self
  · exact h.follows_self

/-- What was asked last may have been carried out before the connection ended. -/
theorem IsSound.follows_carried_lose (h : w.IsSound fleet) {command : Command} {author : Author}
    {carried : Bool} {turn : Turn}
    (hproper : ∀ s d, command = .execute s → deed? fleet.table (w.sees c) author s = some d →
      IsProper w.ledger (w.connections c).pending d)
    (hauthor : author = .sower true → (w.connections c).turn.isLate = true)
    (hsown : ∀ isHeld, Connection.IsSown fleet ⟨isHeld, [], turn⟩) :
    Follows fleet c w (World.lose
      (if carried && w.admits fleet c command then w.carryOut fleet c command author .free else w)
      c turn) := by
  split
  · next hcarried =>
    have hfollows : Follows fleet c w (w.carryOut fleet c command author .free) :=
      h.follows_carryOut (Bool.and_eq_true_iff.1 hcarried).2 hproper hauthor
        (Connection.isSown_of_ne nofun)
    have hfree : ((w.carryOut fleet c command author .free).connections c).turn = .free :=
      congrArg Connection.turn (if_pos rfl)
    exact hfollows.trans (hfollows.sound.follows_closed rfl (hsown _)) (by rw [hfree]; rfl)
  · exact h.follows_closed rfl (hsown _)

theorem IsSound.follows_lose (h : w.IsSound fleet) (carried : Bool) :
    Follows fleet c w (w.step fleet (.lose c carried)) := by
  rw [step]
  split
  · next i own command next isLate base hturn =>
    refine h.follows_carried_lose (fun s d => h.isProper_sower hturn) (fun hlate => ?_) fun _ =>
      Connection.isSown_of_away rfl (h.sows_error hturn _)
    rw [hturn]
    exact Author.sower.inj hlate
  · exact h.follows_carried_lose (fun s d _ => isProper_user) nofun fun _ =>
      Connection.isSown_of_ne nofun
  · exact h.follows_self
  · exact h.follows_self
  · next hne _ => exact h.follows_closed rfl (Connection.isSown_of_ne hne)

/-- What was asked last may have been carried out before the operation was cut off. -/
theorem IsSound.follows_carried (h : w.IsSound fleet) {command : Command} {author : Author}
    {carried : Bool} {base : Nat}
    (hproper : ∀ s d, command = .execute s → deed? fleet.table (w.sees c) author s = some d →
      IsProper w.ledger (w.connections c).pending d)
    (hauthor : author = .sower true → (w.connections c).turn.isLate = true) :
    Follows fleet c w
      (if carried && w.admits fleet c command then
        w.carryOut fleet c command author (.leaving base) else w.turnTo c (.leaving base)) := by
  split
  · next hcarried =>
    exact h.follows_carryOut (Bool.and_eq_true_iff.1 hcarried).2 hproper hauthor
      (Connection.isSown_of_ne nofun)
  · exact h.follows_turnTo (isSown_turn nofun)

theorem IsSound.follows_cutOff (h : w.IsSound fleet) (carried : Bool) :
    Follows fleet c w (w.step fleet (.cutOff c carried)) := by
  rw [step]
  split
  · next i own command next isLate base hturn =>
    refine h.follows_carried (fun s d => h.isProper_sower hturn) fun hlate => ?_
    rw [hturn]
    exact Author.sower.inj hlate
  · exact h.follows_carried (fun s d _ => isProper_user) nofun
  · exact h.follows_turnTo (isSown_turn nofun)
  · exact h.follows_turnTo (isSown_turn nofun)
  · exact h.follows_self

theorem IsSound.follows_step (h : w.IsSound fleet) (e : Event) :
    Follows fleet e.connection w (w.step fleet e) := by
  cases e with
  | start c i call =>
    rw [step]
    split
    · split
      · exact h.follows_turnTo
          (Connection.isSown_of_away rfl (DocumentTable.sows_resolve (w.connections c).isHeld))
      · exact h.follows_self
    · exact h.follows_self
  | go c => exact h.follows_go
  | forgo c => exact h.follows_forgo
  | reply c r => exact h.follows_reply r
  | lose c carried => exact h.follows_lose carried
  | cutOff c carried => exact h.follows_cutOff carried
  | unwind c =>
    rw [step]
    split
    · split
      · exact h.follows_carryOut rfl nofun nofun (Connection.isSown_of_ne nofun)
      · exact h.follows_turnTo (isSown_turn nofun)
    · exact h.follows_self
  | hold c =>
    rw [step]
    split
    · next hturn =>
      split
      · exact h.follows_same rfl (Connection.isSown_of_ne (hturn ▸ nofun))
      · exact h.follows_self
    · exact h.follows_self
  | release c =>
    rw [step]
    split
    · exact h.follows_closed rfl (Connection.isSown_of_ne nofun)
    · exact h.follows_self
  | caller c command =>
    rw [step]
    split
    · split
      · next hcaller =>
        exact h.follows_carryOut (Bool.and_eq_true_iff.1 hcaller).2 (fun s d _ => isProper_user)
          nofun (Connection.isSown_of_ne nofun)
      · exact h.follows_self
    · exact h.follows_self

theorem isSound_run (h : w.IsSound fleet) (events : List Event) :
    (w.run fleet events).IsSound fleet := by
  induction events generalizing w with
  | nil => exact h
  | cons e events ih => exact ih (h.follows_step e).sound

/-- No store is late when something happens on its connection. -/
def noneLate (fleet : Fleet) (w : World) : List Event → Bool
  | [] => true
  | e :: events =>
      !(w.connections e.connection).turn.isLate && noneLate fleet (w.step fleet e) events

theorem not_hasLate_run (h : w.IsSound fleet) (hnone : ¬ w.HasLate) {events : List Event}
    (hevents : w.noneLate fleet events = true) : ¬ (w.run fleet events).HasLate := by
  induction events generalizing w with
  | nil => exact hnone
  | cons e events ih =>
    obtain ⟨hturn, hrest⟩ := Bool.and_eq_true_iff.1 hevents
    have hfollows := h.follows_step e
    refine ih hfollows.sound (fun hlate => ?_) hrest
    exact (hfollows.late hlate).elim hnone fun hlate => by simp [hlate] at hturn

theorem not_hasLate_initial : ¬ initial.HasLate := by
  rintro ⟨d, -, hd | ⟨c, hd⟩⟩
  · exact List.not_mem_nil hd
  · exact List.not_mem_nil hd

/-! ## Documents -/

end World

end Seeding

/-- What is done to a document. -/
def Deed.write? (table : String) (d : Deed) : Option Write :=
  d.statement?.bind fun s =>
    match s.effect table with
    | .write w => some w
    | _ => none

namespace Seeding.World

variable {fleet : Fleet} {w : World}

/-- The documents that are committed. -/
def rows (fleet : Fleet) (w : World) : Contention.Rows :=
  fleet.server.applyAll (fun _ => none) (w.ledger.filterMap (Deed.write? fleet.name.text))

/-- With the event a document changes only if a user changes it. -/
def Keeps (fleet : Fleet) (w : World) (e : Event) (key : String) : Prop :=
  (w.step fleet e).rows fleet key ≠ w.rows fleet key →
    ∃ s write, .own s ∈ (w.step fleet e).ledger.drop w.ledger.length ∧
      s.effect fleet.name.text = .write write ∧ write.key = key

theorem Follows.keeps {e : Event} {c : Nat} (h : Follows fleet c w (w.step fleet e))
    (hcommitted : w.ledger ≠ []) (hlate : ∀ d ∈ (w.step fleet e).ledger, d.isLate = false)
    (key : String) : w.Keeps fleet e key := by
  obtain ⟨new, hnew, hlater⟩ := h.ledger
  intro hchanged
  rw [rows, hnew, List.filterMap_append, Contention.Server.applyAll, List.foldl_append] at hchanged
  have hwrite : ∃ write ∈ new.filterMap (Deed.write? fleet.name.text), write.key = key := by
    refine Classical.byContradiction fun hnone => hchanged ?_
    exact Contention.Server.applyAll_of_forall_ne fun write hmem heq => hnone ⟨write, hmem, heq⟩
  obtain ⟨write, hmem, hkey⟩ := hwrite
  obtain ⟨d, hd, hwrite⟩ := List.mem_filterMap.1 hmem
  obtain ⟨hmade, hprompt⟩ := hlater hcommitted d hd
  have hlate := hlate d (hnew ▸ List.mem_append_right _ hd)
  cases d with
  | made => exact absurd rfl hmade
  | seed isLate s => cases isLate <;> contradiction
  | own s =>
    refine ⟨s, write, ?_, ?_, hkey⟩
    · rwa [hnew, List.drop_left]
    · rw [Deed.write?] at hwrite
      cases heffect : s.effect fleet.name.text with
      | write w => simpa [Deed.statement?, heffect] using hwrite
      | _ => simp [Deed.statement?, heffect] at hwrite

/-- Documents to start with are saved with the table, unless a store is late.

Whatever is done by any number of stores and callers, the table is made once, and the documents to
start with that are committed with it stand before everything else that is done to it.  Once the
table is committed, no event commits any but those of a store that was answered that it had made
the table although it was there.  While there is no such store, a document changes only if a user
changes it. -/
theorem sown_with_the_table (fleet : Fleet) (events : List Event) :
    let w := initial.run fleet events
    IsOrderly w.ledger ∧
    (∀ e, ∃ new, (w.step fleet e).ledger = w.ledger ++ new ∧
      (w.ledger ≠ [] → ∀ d ∈ new, d.IsLater)) ∧
    ∀ e, initial.noneLate fleet (events ++ [e]) = true →
      (∀ d ∈ (w.step fleet e).ledger, d.isLate = false) ∧
      (w.ledger ≠ [] → ∀ key, w.Keeps fleet e key) := by
  intro w
  have hsound : w.IsSound fleet := isSound_run isSound_initial events
  refine ⟨hsound.ledger, fun e => (hsound.follows_step e).ledger, fun e hnone => ?_⟩
  have hlast : w.step fleet e = initial.run fleet (events ++ [e]) := by
    rw [run, List.foldl_append]
    rfl
  have hlate : ∀ d ∈ (w.step fleet e).ledger, d.isLate = false := by
    intro d hd
    refine Bool.eq_false_iff.2 fun hlate => ?_
    exact not_hasLate_run isSound_initial not_hasLate_initial hnone
      ⟨d, hlate, .inl (hlast ▸ hd)⟩
  exact ⟨hlate, fun hcommitted key => (hsound.follows_step e).keeps hcommitted hlate key⟩

end Seeding.World

namespace Seeding

/-- Two stores that start their table with the same document. -/
def welcoming : Fleet where
  name := ⟨"app_documents", by decide +kernel, by decide +kernel⟩
  seed _ := some (.ok [⟨"welcome", .bool true⟩])
  timeout := .ofSeconds 30
  same a b := a == b

/-- The server does what it is asked, and has nothing to show. -/
def Event.done (c : Nat) : Event := .reply c (.ok .empty)

/-- The first store is asked to save a document, and makes the table for it. -/
def prepared : List Event :=
  [.start 0 0 (.save "welcome" (.bool false)), .go 0, .done 0, .done 0, .done 0, .done 0, .go 0,
    .done 0, .go 0, .go 0, .go 0]

/-- The second store has looked for the table before that, and makes it behind that. -/
def preparedLate : List Event :=
  [.start 1 1 .check, .go 1, .done 1] ++ prepared ++ [.done 0, .done 1, .done 1, .done 1, .go 1]

/-- The document to start with, as it is saved, and as the user saves it. -/
def welcome (changed : Bool) : Statement :=
  welcoming.table.upsertStatement .full ⟨"welcome", .bool !changed⟩

theorem World.sown_with_the_table_prepared :
    (initial.run welcoming prepared).ledger = [.made, .seed false (welcome false)] ∧
      initial.noneLate welcoming (prepared ++ [.done 0]) = true ∧
      ((initial.run welcoming prepared).step welcoming (.done 0)).ledger =
        [.made, .seed false (welcome false), .own (welcome true)] ∧
      IsOrderly (initial.run welcoming prepared).ledger ∧
      ∀ key, (initial.run welcoming prepared).Keeps welcoming (.done 0) key := by
  have hledger : (initial.run welcoming prepared).ledger =
      [.made, .seed false (welcome false)] := by decide +kernel
  have hnone : initial.noneLate welcoming (prepared ++ [.done 0]) = true := by decide +kernel
  have hcommitted : (initial.run welcoming prepared).ledger ≠ [] := by decide +kernel
  have hstep : ((initial.run welcoming prepared).step welcoming (.done 0)).ledger =
      [.made, .seed false (welcome false), .own (welcome true)] := by decide +kernel
  have hsown := sown_with_the_table welcoming prepared
  generalize initial.run welcoming prepared = w at *
  exact ⟨hledger, hnone, hstep, hsown.1, (hsown.2.2 (.done 0) hnone).2 hcommitted⟩

theorem ledger_preparedLate :
    (World.initial.run welcoming preparedLate).ledger =
      [.made, .seed false (welcome false), .own (welcome true)] ∧
    ((World.initial.run welcoming preparedLate).step welcoming (.done 1)).ledger =
      [.made, .seed false (welcome false), .own (welcome true), .seed true (welcome false)] := by
  decide +kernel

theorem effect_welcome (changed : Bool) :
    (welcome changed).effect welcoming.name.text =
      .write (.put "welcome" (Json.bool !changed).text) :=
  welcoming.table.effect_upsertStatement .full ⟨"welcome", .bool !changed⟩

/-- What is stored behind the two ledgers. -/
theorem rows_welcome {w : World} (ledger : List Bool)
    (h : w.ledger.filterMap Deed.statement? = ledger.map welcome) :
    w.rows welcoming = welcoming.server.applyAll (fun _ => none)
      (ledger.map fun changed => .put "welcome" (Json.bool !changed).text) := by
  have hwrite : Deed.write? welcoming.name.text = fun d => d.statement?.bind fun s =>
      match s.effect welcoming.name.text with
      | .write w => some w
      | _ => none := rfl
  rw [World.rows, hwrite, ← List.filterMap_filterMap, h, List.filterMap_map]
  congr 1
  rw [← List.filterMap_eq_map]
  refine congrArg (List.filterMap · ledger) (funext fun changed => ?_)
  rw [Function.comp, effect_welcome]
  rfl

/-- A late store saves its documents to start with over what a user has saved. -/
theorem World.not_keeps_preparedLate :
    ¬ ∀ (fleet : Fleet) (events : List Event) (e : Event) (s : Statement) (write : Write),
      let w := initial.run fleet events
      .own s ∈ w.ledger → s.effect fleet.name.text = .write write → w.Keeps fleet e write.key := by
  intro h
  obtain ⟨hbefore, hafter⟩ := ledger_preparedLate
  have hown : .own (welcome true) ∈ (initial.run welcoming preparedLate).ledger := by
    rw [hbefore]
    simp
  have hkeeps := h welcoming preparedLate (.done 1) (welcome true) _ hown
    (effect_welcome true)
  generalize initial.run welcoming preparedLate = w at hbefore hafter hkeeps
  have hrows := rows_welcome [false, true] (w := w) (by rw [hbefore]; rfl)
  have hrows' := rows_welcome [false, true, false] (w := w.step welcoming (.done 1))
    (by rw [hafter]; rfl)
  have hchanged : (w.step welcoming (.done 1)).rows welcoming "welcome" ≠
      w.rows welcoming "welcome" := by
    rw [hrows, hrows']
    decide +kernel
  obtain ⟨s, write, hmem, -⟩ := hkeeps hchanged
  rw [hbefore, hafter] at hmem
  exact nomatch List.mem_singleton.1 hmem

end Seeding

end DocStore
