import DocStore.Proofs.Pool.Loan
import DocStore.Proofs.Pool.Opening
import Mathlib.Algebra.GroupWithZero.Nat

/-!
# The accounts of a provider

A provider counts the connections it lends and those it is given back.  What it
does not count is a connection that comes back without a word: of a lease that is
dropped, of a unit of work that ends, and of an operation that is cut off by its
deadline while it works.  All others are accounted for (`accounts`), and so are
the leases on connections of callers.

* What an event does to the books: `Desk.isBalanced_step` and `Desk.pinned_step`.
* A call for a connection is written down exactly if it gets one: `Rehearsal.books_seek`.
* What a deed does to them, and so every run of deeds: `Deed.Stands.run`, `Deed.Stands.runAll`.
-/

namespace DocStore.Pool

/-- What a provider counts, and what is held of it. -/
structure Books where
  acquired : Nat
  released : Nat
  pinned : Nat
  leases : Nat
  units : Nat

namespace Books

/-- A connection is lent. -/
def lend (b : Books) : Want → Books
  | .unit => { b with acquired := b.acquired + 1, units := b.units + 1 }
  | _ => { b with acquired := b.acquired + 1, leases := b.leases + 1 }

/-- A lease is given back. -/
def release (b : Books) : Books :=
  match b.leases with
  | 0 => b
  | leases + 1 => { b with released := b.released + 1, leases }

/-- All that was lent is held or was given back, but for a number of connections. -/
def IsBalanced (lost : Nat) (b : Books) : Prop :=
  b.acquired = b.released + (b.leases + b.units) + lost

variable {b : Books} {lost : Nat}

theorem IsBalanced.lend (h : b.IsBalanced lost) (w : Want) : (b.lend w).IsBalanced lost := by
  cases w <;> simp only [IsBalanced, Books.lend] at * <;> omega

theorem IsBalanced.release (h : b.IsBalanced lost) : b.release.IsBalanced lost := by
  rw [Books.release]
  split
  · exact h
  · simp only [IsBalanced] at *
    omega

/-- What comes back without a word. -/
def unannounced (b : Books) : Event → Nat
  | .dropLease => min 1 b.leases
  | .dropUnit => min 1 b.units
  | _ => 0

@[simp] theorem pinned_lend (b : Books) (w : Want) : (b.lend w).pinned = b.pinned := by
  cases w <;> rfl

end Books

/-- How many connections of callers an event takes. -/
def Event.pins : Event → Nat
  | .pin => 1
  | _ => 0

namespace Desk

variable {d : Desk} {id : CallId} {w : Want}

/-- The books of a desk. -/
def books (d : Desk) : Books where
  acquired := d.provider.totalAcquired
  released := d.provider.totalReleased
  pinned := d.provider.pinnedReuse
  leases := d.leases
  units := d.units

@[simp] theorem books_finish (d : Desk) (id : CallId) (result : Except StoreError Grant) :
    (d.finish id result).books = d.books := rfl

@[simp] theorem books_goOn (d : Desk) (call : Call) (pool : PoolId) :
    (d.goOn call pool).books = d.books := by
  rw [goOn]
  split <;> rfl

theorem books_onAsk (d : Desk) (w : Want) : (d.onAsk w).books = d.books := by
  by_cases hclosed : d.provider.closed
  · simp only [onAsk, newCall, hclosed, if_true]
    rfl
  · simp only [onAsk, newCall, hclosed, Bool.false_eq_true, if_false]
    cases d.provider.slot with
    | some pool => exact books_goOn _ _ _
    | none => rfl

theorem books_onReplace (d : Desk) (url : String) : (d.onReplace url).books = d.books := by
  simp only [onReplace]
  split <;> rfl

theorem books_onTurn (d : Desk) : d.onTurn.books = d.books := by
  simp only [onTurn]
  split
  · split
    · rfl
    · exact books_goOn _ _ _
    · rfl
  · rfl

theorem books_onOpening (d : Desk) (result : Opening) : (d.onOpening result).1.books = d.books := by
  simp only [onOpening]
  split
  · rfl
  · next call options _ =>
    cases result with
    | failed fault | overdue => rfl
    | opened =>
      cases call.errand with
      | want w => exact books_goOn _ _ _
      | replace options' => rfl

/-- What happens to a call that waits for a connection and comes to one without a fault. -/
theorem onLeased_cases (d : Desk) (id : CallId) :
    ((d.onLeased id none).1.books = d.books ∧
        ((d.onLeased id none).1.ended = d.ended ∨
          ∃ e, (d.onLeased id none).1.ended = d.ended ++ [(id, .error e)])) ∨
      ∃ call pool grant, (call, pool) ∈ d.leasing ∧ call.id = id ∧
        (d.onLeased id none).1.ended = d.ended ++ [(id, .ok grant)] ∧
        ((call.errand = .want .unit ∧ (d.onLeased id none).1.books = d.books.lend .unit ∧
            ∃ number, grant = .unit pool number) ∨
          (call.errand ≠ .want .unit ∧ (d.onLeased id none).1.books = d.books.lend .lease ∧
            grant = .lease pool)) := by
  simp only [onLeased]
  split
  · exact .inl ⟨rfl, .inl rfl⟩
  · next call pool hfind =>
    have hcall : call.id = id := by simpa using List.find?_some hfind
    have hmem : (call, pool) ∈ d.leasing := List.mem_of_find?_eq_some hfind
    split
    · exact .inl ⟨rfl, .inr ⟨_, rfl⟩⟩
    · split
      · next herrand =>
        exact .inr ⟨call, pool, _, hmem, hcall, rfl, .inl ⟨herrand, rfl, _, rfl⟩⟩
      · next herrand => exact .inr ⟨call, pool, _, hmem, hcall, rfl, .inr ⟨herrand, rfl, rfl⟩⟩

/-- A call that comes to a fault is written down nowhere. -/
theorem books_onLeased_fault (d : Desk) (id : CallId) (fault : DatabaseFault) :
    (d.onLeased id (some fault)).1.books = d.books := by
  simp only [onLeased]
  split
  · rfl
  · next call pool hfind =>
    have hfails : ∀ down : Bool, ∃ fault', (if down then some DatabaseFault.poolClosed
        else some fault) = some fault' := fun down => by cases down <;> exact ⟨_, rfl⟩
    obtain ⟨fault', hfault⟩ := hfails (d.down.contains pool)
    rw [hfault]
    rfl

/-- A step keeps the books balanced, what comes back without a word set aside. -/
theorem isBalanced_step {lost : Nat} (h : d.books.IsBalanced lost) (event : Event) :
    (d.step event).1.books.IsBalanced (lost + d.books.unannounced event) := by
  cases event with
  | ask w => exact books_onAsk d w ▸ h
  | replace url => exact books_onReplace d url ▸ h
  | turn => exact books_onTurn d ▸ h
  | opening result => exact books_onOpening d result ▸ h
  | leased id fault =>
    cases fault with
    | some fault => exact books_onLeased_fault d id fault ▸ h
    | none =>
      show (d.onLeased id none).1.books.IsBalanced lost
      rcases onLeased_cases d id with ⟨hbooks, -⟩ | ⟨call, pool, grant, -, -, -, hgrant⟩
      · exact hbooks ▸ h
      · rcases hgrant with ⟨-, hbooks, -⟩ | ⟨-, hbooks, -⟩
        · exact hbooks ▸ h.lend _
        · exact hbooks ▸ h.lend _
  | giveUp id | close | shutDown pool | pin => exact h
  | release =>
    have hreleased : (d.step .release).1.books = d.books.release := by
      cases hleases : d.leases <;>
        simp [step, Books.release, books, hleases, ConnectionProvider.takeBack]
    exact hreleased ▸ h.release
  | dropLease | dropUnit =>
    simp only [step, books, Books.IsBalanced, Books.unannounced] at h ⊢
    omega

/-- Only a connection of a caller is written down as one. -/
theorem pinned_step (d : Desk) (event : Event) :
    (d.step event).1.books.pinned = d.books.pinned + event.pins := by
  cases event with
  | ask w => exact congrArg Books.pinned (books_onAsk d w)
  | replace url => exact congrArg Books.pinned (books_onReplace d url)
  | turn => exact congrArg Books.pinned (books_onTurn d)
  | opening result => exact congrArg Books.pinned (books_onOpening d result)
  | leased id fault =>
    cases fault with
    | some fault => exact congrArg Books.pinned (books_onLeased_fault d id fault)
    | none =>
      show (d.onLeased id none).1.books.pinned = d.books.pinned
      rcases onLeased_cases d id with ⟨hbooks, -⟩ | ⟨call, pool, grant, -, -, -, hgrant⟩
      · rw [hbooks]
      · rcases hgrant with ⟨-, hbooks, -⟩ | ⟨-, hbooks, -⟩ <;> rw [hbooks, Books.pinned_lend]
  | release =>
    rw [step]
    cases d.leases <;> rfl
  | giveUp id | close | shutDown pool | pin | dropLease | dropUnit => rfl

/-! ## A call and its errand -/

/-- Wherever the call of a number stands, it is one that asks for this. -/
structure Asks (d : Desk) (id : CallId) (w : Want) : Prop where
  queue : ∀ call ∈ d.queue, call.id = id → call.errand = .want w
  opening : ∀ entry ∈ d.opening, entry.1.id = id → entry.1.errand = .want w
  leasing : ∀ entry ∈ d.leasing, entry.1.id = id → entry.1.errand = .want w

theorem Asks.goOn (h : d.Asks id w) {call : Call} (hcall : call.id = id → call.errand = .want w)
    (pool : PoolId) : (d.goOn call pool).Asks id w := by
  rw [Desk.goOn]
  split
  · exact ⟨h.queue, h.opening, h.leasing⟩
  · refine { h with leasing := fun entry hentry => ?_ }
    rcases List.mem_append.1 hentry with hentry | hentry
    · exact h.leasing entry hentry
    · rw [List.mem_singleton.1 hentry]
      exact hcall

/-- A number that was not given out yet is that of nobody. -/
theorem IsNumbered.asks (h : d.IsNumbered) (w : Want) : d.Asks d.calls w := by
  have hnobody : d.calls ∉ d.standing := by
    have hcount := h d.calls
    rw [if_neg (Nat.lt_irrefl _), Nat.le_zero, List.count_eq_zero] at hcount
    exact hcount
  simp only [standing, List.mem_append, List.mem_map, Option.mem_toList, not_or, not_exists,
    not_and] at hnobody
  obtain ⟨⟨hqueue, hopening⟩, hleasing⟩ := hnobody
  exact ⟨fun call hcall hid => absurd hid (hqueue call hcall),
    fun entry hentry hid => absurd hid (hopening entry hentry),
    fun entry hentry hid => absurd hid (hleasing entry hentry)⟩

/-- A call that was just made asks for what it was made for. -/
theorem IsNumbered.asks_onAsk (h : d.IsNumbered) (w : Want) : (d.onAsk w).Asks d.calls w := by
  have hcounted : Asks { d with calls := d.calls + 1 } d.calls w := { h.asks w with }
  by_cases hclosed : d.provider.closed
  · simp only [Desk.onAsk, newCall, hclosed, if_true]
    exact { hcounted with }
  · simp only [Desk.onAsk, newCall, hclosed, Bool.false_eq_true, if_false]
    cases d.provider.slot with
    | some pool => exact hcounted.goOn (fun _ => rfl) pool
    | none =>
      refine { hcounted with queue := fun call hcall hid => ?_ }
      rcases List.mem_append.1 hcall with hcall | hcall
      · exact hcounted.queue call hcall hid
      · rw [List.mem_singleton.1 hcall]

theorem Asks.onTurn (h : d.Asks id w) : d.onTurn.Asks id w := by
  simp only [Desk.onTurn]
  split
  · next call rest _ hqueue =>
    have hrest : Asks { d with queue := rest } id w :=
      { h with queue := fun other hother => h.queue other (by simp [hqueue, hother]) }
    have hfirst : call.id = id → call.errand = .want w := h.queue call (by simp [hqueue])
    have hopens : ∀ options, Asks { d with queue := rest, opening := some (call, options) } id w :=
      fun options => { hrest with opening := by rintro _ ⟨⟩; exact hfirst }
    split
    · exact hopens _
    · exact hrest.goOn hfirst _
    · exact hopens _
  · exact h

theorem Asks.onOpening (h : d.Asks id w) (result : Opening) :
    (d.onOpening result).1.Asks id w := by
  simp only [Desk.onOpening]
  split
  · exact h
  · next call options hopening =>
    have hcaller : call.id = id → call.errand = .want w := h.opening (call, options) hopening
    have hrest : Asks { d with opening := none } id w :=
      { h with opening := fun entry hentry => absurd hentry (Option.not_mem_none entry) }
    have hused : Asks { d with opening := none, provider := d.provider.useNext } id w :=
      { hrest with }
    cases result with
    | failed fault | overdue => exact { hrest with }
    | opened =>
      cases call.errand with
      | want w' => exact hused.goOn hcaller _
      | replace options' => exact { hrest with }

theorem Asks.onGiveUp (h : d.Asks id w) (other : CallId) : (d.onGiveUp other).Asks id w where
  queue call hcall := h.queue call (List.mem_filter.1 hcall).1
  opening entry hentry := h.opening entry (Option.mem_filter_iff.1 hentry).1
  leasing entry hentry := h.leasing entry (List.mem_filter.1 hentry).1

end Desk

/-! ## Rehearsals -/

/-- A connection was lent. -/
def Sought.isLoan : Sought → Bool
  | .loan _ _ => true
  | _ => false

namespace Rehearsal

variable {κ α : Type} {r : Rehearsal}

/-- The books of a provider. -/
def books (r : Rehearsal) : Books := r.desk.books

@[simp] theorem desk_tell (r : Rehearsal) (event : Event) :
    (r.tell event).desk = (r.desk.step event).1 := rfl

@[simp] theorem desk_report (r : Rehearsal) (events : List LogEvent) :
    (r.report events).desk = r.desk := rfl

@[simp] theorem desk_blame (r : Rehearsal) (reporter : Reporter) (operation : String)
    (result : Except StoreError α) : (r.blame reporter operation result).desk = r.desk := by
  cases result <;> rfl

@[simp] theorem desk_giveBack (r : Rehearsal) (loan : Loan) : (r.giveBack loan).desk = r.desk := by
  rw [giveBack]
  split <;> rfl

/-- What becomes of the desk while a pool is opened: nothing, or the opening ends or is given
up. -/
theorem desk_openPool_of {limitOf : Rehearsal → Option Duration → Limit}
    (hlimit : openingLimit = limitOf) (r : Rehearsal) (deadline : Option Duration) :
    (r.openPool deadline).desk = r.desk ∨
      (∃ result, (r.openPool deadline).desk = (r.desk.onOpening result).1) ∨
      ∃ id, (r.openPool deadline).desk = r.desk.onGiveUp id := by
  rw [openPool, hlimit]
  split
  · exact .inl rfl
  · next call options _ =>
    generalize r.server.connect options = connection
    obtain ⟨connected, server⟩ := connection
    cases connected with
    | link link => exact .inr (.inl ⟨.opened, rfl⟩)
    | fault fault => exact .inr (.inl ⟨.failed fault, rfl⟩)
    | never =>
      dsimp only
      split
      · exact .inr (.inl ⟨.failed .poolTimedOut, rfl⟩)
      · exact .inr (.inl ⟨.overdue, rfl⟩)
      · exact .inr (.inr ⟨call.id, rfl⟩)

theorem desk_openPool (r : Rehearsal) (deadline : Option Duration) :
    (r.openPool deadline).desk = r.desk ∨
      (∃ result, (r.openPool deadline).desk = (r.desk.onOpening result).1) ∨
      ∃ id, (r.openPool deadline).desk = r.desk.onGiveUp id :=
  desk_openPool_of rfl r deadline

/-- A call that waits in vain comes to a fault or is given up. -/
theorem desk_waitInVain (r : Rehearsal) (call : CallId) (deadline : Option Duration) :
    (∃ fault, (r.waitInVain call deadline).desk = (r.desk.onLeased call (some fault)).1) ∨
      (r.waitInVain call deadline).desk = r.desk.onGiveUp call := by
  rw [waitInVain]
  split
  · exact .inl ⟨_, rfl⟩
  · exact .inr rfl

/-- A call that is to have a connection of the pool gets one, comes to a fault or is given up. -/
theorem desk_lease (r : Rehearsal) (call : CallId) (deadline : Option Duration) :
    ((r.lease call deadline).1.isSome = true ∧
        (r.lease call deadline).2.desk = (r.desk.onLeased call none).1) ∨
      ((r.lease call deadline).1 = none ∧
        ((∃ fault, (r.lease call deadline).2.desk = (r.desk.onLeased call (some fault)).1) ∨
          (r.lease call deadline).2.desk = r.desk.onGiveUp call)) := by
  rw [lease]
  split
  · exact .inl ⟨rfl, rfl⟩
  · dsimp only
    split
    · exact .inr ⟨rfl, desk_waitInVain _ call deadline⟩
    · generalize Server.connect _ _ = connection
      obtain ⟨connected, server⟩ := connection
      cases connected with
      | link link => exact .inl ⟨rfl, rfl⟩
      | fault fault => exact .inr ⟨rfl, .inl ⟨fault, rfl⟩⟩
      | never => exact .inr ⟨rfl, desk_waitInVain { r with idle := [], server } call deadline⟩

/-- Nothing is lent without a connection. -/
theorem isLoan_sought_none (r : Rehearsal) (call : CallId) :
    (r.sought call none).isLoan = false := by
  unfold sought
  split <;> simp_all [Sought.isLoan]

theorem isLoan_sought (r : Rehearsal) (call : CallId) {link? : Option Link} (hlink : link?.isSome) :
    (r.sought call link?).isLoan = true ↔
      (∃ pool, r.desk.result? call = some (.ok (.lease pool))) ∨
        ∃ pool number, r.desk.result? call = some (.ok (.unit pool number)) := by
  obtain ⟨link, rfl⟩ := Option.isSome_iff_exists.1 hlink
  unfold sought
  cases r.desk.result? call with
  | none => simp [Sought.isLoan]
  | some result =>
    cases result with
    | error e => simp [Sought.isLoan]
    | ok grant => cases grant <;> simp [Sought.isLoan]

/-- An end that is written down behind others is that of its call, if the call had none. -/
theorem result?_concat {d d' : Desk} {id : CallId} {result : Except StoreError Grant}
    (hnone : d.result? id = none) (hended : d'.ended = d.ended ++ [(id, result)]) :
    d'.result? id = some result := by
  rw [Desk.result?] at hnone ⊢
  rw [hended, List.lookup_append, hnone, List.lookup_cons_self]
  rfl

theorem books_lease {id : CallId} {w : Want} (hasks : r.desk.Asks id w)
    (hnone : r.desk.result? id = none) (deadline : Option Duration) :
    (r.lease id deadline).2.books =
      if ((r.lease id deadline).2.sought id (r.lease id deadline).1).isLoan
      then r.books.lend w else r.books := by
  rcases desk_lease r id deadline with ⟨hlink, hdesk⟩ | ⟨hlink, hdesk⟩
  · have hloan := isLoan_sought (r.lease id deadline).2 id hlink
    rw [books, hdesk]
    rw [hdesk] at hloan
    rcases Desk.onLeased_cases r.desk id with ⟨hbooks, hended⟩ |
      ⟨call, pool, grant, hmem, rfl, hended, hgrant⟩
    · have hresult : ∀ grant, (r.desk.onLeased id none).1.result? id ≠ some (.ok grant) := by
        intro grant
        rcases hended with hended | ⟨e, hended⟩
        · rw [Desk.result?, hended, ← Desk.result?, hnone]
          simp
        · simp [result?_concat hnone hended]
      simp only [hresult, exists_false, or_false, iff_false, Bool.not_eq_true] at hloan
      rw [hloan, hbooks]
      rfl
    · have hresult := result?_concat hnone hended
      have herrand := hasks.leasing _ hmem rfl
      rcases hgrant with ⟨hunit, hbooks, number, rfl⟩ | ⟨hlease, hbooks, rfl⟩
      · obtain rfl : w = .unit := Errand.want.inj (herrand.symm.trans hunit)
        rw [hloan.2 (.inr ⟨pool, number, hresult⟩), hbooks]
        rfl
      · have hlends : r.desk.books.lend w = r.desk.books.lend .lease := by
          cases w with
          | unit => exact absurd herrand hlease
          | pool | lease => rfl
        rw [hloan.2 (.inl ⟨pool, hresult⟩), hbooks, ← hlends]
        rfl
  · rw [hlink, isLoan_sought_none, books]
    rcases hdesk with ⟨fault, hdesk⟩ | hdesk
    · rw [hdesk, Desk.books_onLeased_fault]
      rfl
    · rw [hdesk]
      rfl

theorem isNumbered_openPool (h : r.desk.IsNumbered) (deadline : Option Duration) :
    (r.openPool deadline).desk.IsNumbered := by
  rcases desk_openPool r deadline with hdesk | ⟨result, hdesk⟩ | ⟨id, hdesk⟩
  · exact hdesk ▸ h
  · exact hdesk ▸ h.onOpening result
  · exact hdesk ▸ h.onGiveUp id

theorem isNumbered_lease (h : r.desk.IsNumbered) (call : CallId) (deadline : Option Duration) :
    (r.lease call deadline).2.desk.IsNumbered := by
  rcases desk_lease r call deadline with ⟨-, hdesk⟩ | ⟨-, ⟨fault, hdesk⟩ | hdesk⟩
  · exact hdesk ▸ h.onLeased call none
  · exact hdesk ▸ h.onLeased call (some fault)
  · exact hdesk ▸ h.onGiveUp call

/-- A call for a connection is written down if it gets one, and else it is not. -/
theorem books_seek (h : r.desk.IsNumbered) (want : Want) (deadline : Option Duration) :
    (r.seek want deadline).2.desk.IsNumbered ∧
      (r.seek want deadline).2.books =
        if (r.seek want deadline).1.isLoan then r.books.lend want else r.books := by
  have hturn : ((r.tell (.ask want)).tell .turn).desk = (r.desk.onAsk want).onTurn := rfl
  have hnumbered := isNumbered_openPool (hturn ▸ (h.onAsk want).onTurn) deadline
  have hturned : (r.desk.onAsk want).onTurn.books = r.books :=
    (Desk.books_onTurn _).trans (Desk.books_onAsk _ _)
  have hasked : (r.desk.onAsk want).onTurn.Asks r.desk.calls want := (h.asks_onAsk want).onTurn
  have hopened : (((r.tell (.ask want)).tell .turn).openPool deadline).books = r.books ∧
      (((r.tell (.ask want)).tell .turn).openPool deadline).desk.Asks r.desk.calls want := by
    rw [books]
    rcases desk_openPool ((r.tell (.ask want)).tell .turn) deadline with
      hdesk | ⟨result, hdesk⟩ | ⟨id, hdesk⟩
    · rw [hdesk, hturn]
      exact ⟨hturned, hasked⟩
    · rw [hdesk, hturn]
      exact ⟨(Desk.books_onOpening _ result).trans hturned, hasked.onOpening result⟩
    · rw [hdesk, hturn]
      exact ⟨hturned, hasked.onGiveUp id⟩
  rw [seek]
  generalize ((r.tell (.ask want)).tell .turn).openPool deadline = r' at hopened hnumbered
  obtain ⟨hbooks, hasks⟩ := hopened
  dsimp only
  split
  · rw [isLoan_sought_none]
    exact ⟨hnumbered, hbooks⟩
  · next hnone =>
    refine ⟨isNumbered_lease hnumbered _ deadline, ?_⟩
    rw [← hbooks]
    exact books_lease hasks (by simpa using hnone) deadline

/-- One if an operation gets a connection of the pool and its deadline passes while it works on
it, else none. -/
def cutOffAtWork (r : Rehearsal) (timeout : Duration) (op : Operation κ α)
    (memory : Option κ) : Nat :=
  match op.refusal, r.seek .lease (some timeout) with
  | none, (.loan _ loan, r') =>
      match (r'.server.play (op.script false) loan.link memory).1.ending with
      | .result _ => 0
      | .cutOff => 1
  | _, _ => 0

end Rehearsal

/-! ## Deeds -/

/-- What is done with a provider, or happens at its desk in between. -/
inductive Deed : Type 1 where
  | event (event : Event)
  | acquire
  | openUnit
  | endUnit (u : Rehearsal.OpenUnit)
  | ping
  | replace (url : String)
  | perform {κ α : Type} (reporter : Reporter) (timeout : Duration) (op : Operation κ α)
      (memory : Option κ)
  /-- An operation runs on a connection of the caller. -/
  | performOn {κ α : Type} (link : Link) (reporter : Reporter) (timeout : Duration)
      (op : Operation κ α) (memory : Option κ)

namespace Deed

/-- The provider after a deed. -/
def run (r : Rehearsal) : Deed → Rehearsal
  | .event e => r.tell e
  | acquire => (r.seek .lease none).2
  | openUnit => r.openUnit.2
  | endUnit u => r.endUnit u
  | ping => r.ping.2
  | replace url => (r.replace url).2
  | perform reporter timeout op memory => (r.perform reporter timeout op memory).rehearsal
  | performOn link reporter timeout op memory =>
      (r.performOn link reporter timeout op memory).1.rehearsal

/-- How many connections come back without a word. -/
def unannounced (r : Rehearsal) : Deed → Nat
  | .event e => r.books.unannounced e
  | endUnit _ => r.books.unannounced .dropUnit
  | perform _ timeout op memory => r.cutOffAtWork timeout op memory
  | _ => 0

/-- How many leases are taken on a connection of a caller. -/
def pins : Deed → Nat
  | .event e => e.pins
  | performOn _ _ _ op _ => if op.refusal.isNone then 1 else 0
  | _ => 0

/-- The provider after several deeds. -/
def runAll (r : Rehearsal) : List Deed → Rehearsal
  | [] => r
  | deed :: deeds => runAll (deed.run r) deeds

/-- How many connections come back without a word in several deeds. -/
def allUnannounced (r : Rehearsal) : List Deed → Nat
  | [] => 0
  | deed :: deeds => deed.unannounced r + allUnannounced (deed.run r) deeds

/-- How the books stand: the calls are numbered, and what is lent and pinned is written down. -/
structure Stands (lost pinned : Nat) (r : Rehearsal) : Prop where
  numbered : r.desk.IsNumbered
  balanced : r.books.IsBalanced lost
  pinned : r.books.pinned = pinned

variable {r r' : Rehearsal} {lost pinned : Nat} {κ α : Type}

theorem Stands.of_desk (h : Stands lost pinned r) (hdesk : r'.desk = r.desk) :
    Stands lost pinned r' where
  numbered := hdesk ▸ h.numbered
  balanced := by rw [Rehearsal.books, hdesk]; exact h.balanced
  pinned := by rw [Rehearsal.books, hdesk]; exact h.pinned

theorem Stands.tell (h : Stands lost pinned r) (event : Event) :
    Stands (lost + r.books.unannounced event) (pinned + event.pins) (r.tell event) where
  numbered := h.numbered.step event
  balanced := Desk.isBalanced_step h.balanced event
  pinned := h.pinned ▸ Desk.pinned_step r.desk event

theorem Stands.openPool (h : Stands lost pinned r) (deadline : Option Duration) :
    Stands lost pinned (r.openPool deadline) := by
  rcases r.desk_openPool deadline with hdesk | ⟨result, hdesk⟩ | ⟨id, hdesk⟩
  · exact h.of_desk hdesk
  · exact (h.tell (.opening result)).of_desk hdesk
  · exact (h.tell (.giveUp id)).of_desk hdesk

theorem Stands.seek (h : Stands lost pinned r) (want : Want) (deadline : Option Duration) :
    Stands lost pinned (r.seek want deadline).2 ∧
      ((r.seek want deadline).1.isLoan = true →
        (r.seek want deadline).2.books = r.books.lend want) := by
  obtain ⟨hnumbered, hbooks⟩ := Rehearsal.books_seek h.numbered want deadline
  refine ⟨⟨hnumbered, ?_, ?_⟩, fun hloan => by rw [hbooks, if_pos hloan]⟩
  · rw [hbooks]
    split
    · exact h.balanced.lend want
    · exact h.balanced
  · rw [hbooks, apply_ite Books.pinned, Books.pinned_lend, ite_self]
    exact h.pinned

theorem Stands.perform (h : Stands lost pinned r) (reporter : Reporter) (timeout : Duration)
    (op : Operation κ α) (memory : Option κ) :
    Stands (lost + r.cutOffAtWork timeout op memory) pinned
      (r.perform reporter timeout op memory).rehearsal := by
  obtain ⟨hsought, hlends⟩ := h.seek .lease (some timeout)
  rw [Rehearsal.perform, Rehearsal.cutOffAtWork]
  cases op.refusal with
  | some e => exact h.of_desk (by simp)
  | none =>
    generalize r.seek .lease (some timeout) = found at hsought hlends
    obtain ⟨sought, r'⟩ := found
    cases sought with
    | failed e => exact hsought.of_desk (by simp)
    | cutOff => exact hsought.of_desk (by simp)
    | loan grant loan =>
      have hlent : r'.books.leases = r.books.leases + 1 := by rw [hlends rfl]; rfl
      generalize hplay : r'.server.play (op.script false) loan.link memory = play
      obtain ⟨⟨ending, memory', stage, log⟩, server⟩ := play
      simp only [hplay]
      cases ending with
      | result result => exact (hsought.tell .release).of_desk (by simp)
      | cutOff =>
        have hone : r'.books.unannounced .dropLease = 1 := by
          rw [Books.unannounced, hlent]
          omega
        exact hone ▸ (hsought.tell .dropLease).of_desk (by simp)

theorem Stands.performOn (h : Stands lost pinned r) (link : Link) (reporter : Reporter)
    (timeout : Duration) (op : Operation κ α) (memory : Option κ) :
    Stands lost (pinned + if op.refusal.isNone then 1 else 0)
      (r.performOn link reporter timeout op memory).1.rehearsal := by
  rw [Rehearsal.performOn]
  cases op.refusal with
  | some e => exact h.of_desk rfl
  | none => exact (h.tell .pin).of_desk (by simp [Rehearsal.pin])

theorem Stands.run (h : Stands lost pinned r) (deed : Deed) :
    Stands (lost + deed.unannounced r) (pinned + deed.pins) (deed.run r) := by
  cases deed with
  | event event => exact h.tell event
  | acquire => exact (h.seek .lease none).1
  | openUnit =>
    have hsought := (h.seek .unit none).1
    simp only [Deed.run, Rehearsal.openUnit]
    split
    · next e r' hseek => rw [hseek] at hsought; exact hsought
    · next pool number loan r' hseek => rw [hseek] at hsought; exact hsought
    · next r' _ _ hseek => rw [hseek] at hsought; exact hsought
  | endUnit u => exact (h.tell .dropUnit).of_desk (by simp [Deed.run, Rehearsal.endUnit])
  | ping =>
    have hsought := (h.seek .lease none).1
    simp only [Deed.run, Rehearsal.ping]
    generalize r.seek .lease none = found at hsought
    obtain ⟨sought, r'⟩ := found
    cases sought with
    | failed e => exact hsought
    | cutOff => exact hsought
    | loan grant loan => exact (hsought.tell .release).of_desk (by simp)
  | replace url =>
    have hopened := ((h.tell (.replace url)).tell .turn).openPool none
    simp only [Deed.run, Rehearsal.replace]
    split
    · exact hopened
    · exact hopened
  | perform reporter timeout op memory => exact h.perform reporter timeout op memory
  | performOn link reporter timeout op memory => exact h.performOn link reporter timeout op memory

theorem Stands.runAll (h : Stands lost pinned r) (deeds : List Deed) :
    Stands (lost + allUnannounced r deeds) (pinned + (deeds.map pins).sum) (runAll r deeds) := by
  induction deeds generalizing r lost pinned with
  | nil => exact h
  | cons deed deeds ih =>
    rw [allUnannounced, List.map_cons, List.sum_cons, ← Nat.add_assoc, ← Nat.add_assoc]
    exact ih (h.run deed)

theorem stands_ofProvider {c : StoreConfig} {provider : ConnectionProvider}
    (hprovider : ConnectionProvider.ofConfig c = .ok provider) (server : Server) :
    Stands 0 0 (.ofProvider provider server) := by
  obtain ⟨options, -, rfl⟩ := eq_of_ofConfig hprovider
  exact ⟨Desk.isNumbered_ofProvider _, rfl, rfl⟩

/-- A lease on a connection of a caller is counted as nothing else. -/
theorem counts_of_pins {deed : Deed} (hpins : 0 < deed.pins) (r : Rehearsal) :
    (deed.run r).stats.totalAcquired = r.stats.totalAcquired ∧
      (deed.run r).stats.totalReleased = r.stats.totalReleased := by
  cases deed with
  | event event => cases event <;> first | exact ⟨rfl, rfl⟩ | exact absurd hpins (Nat.lt_irrefl 0)
  | performOn link reporter timeout op memory =>
    rw [run, Rehearsal.performOn]
    cases hrefusal : op.refusal with
    | some e => simp [pins, hrefusal] at hpins
    | none =>
      simp only [Rehearsal.stats, ConnectionProvider.stats, Rehearsal.provider,
        Rehearsal.desk_blame, Rehearsal.desk_report]
      exact ⟨rfl, rfl⟩
  | acquire | openUnit | endUnit | ping | replace | perform => exact absurd hpins (Nat.lt_irrefl 0)

/-- Whatever is done with a provider, and whatever else goes on at it: the connections that were
lent are those given back, those held by leases and units of work, and those that came back
without a word.  The leases on connections of callers are counted apart from them. -/
theorem accounts {c : StoreConfig} {provider : ConnectionProvider}
    (hprovider : ConnectionProvider.ofConfig c = .ok provider) (server : Server)
    (deeds : List Deed) :
    let start := Rehearsal.ofProvider provider server
    let r := runAll start deeds
    r.stats.totalAcquired =
        r.stats.totalReleased + (r.desk.leases + r.desk.units) + allUnannounced start deeds ∧
      r.stats.pinnedReuse = (deeds.map pins).sum ∧
      ∀ deed : Deed, 0 < deed.pins →
        (deed.run r).stats.totalAcquired = r.stats.totalAcquired ∧
          (deed.run r).stats.totalReleased = r.stats.totalReleased := by
  intro start r
  have hstands := (stands_ofProvider hprovider server).runAll deeds
  rw [Nat.zero_add, Nat.zero_add] at hstands
  exact ⟨hstands.balanced, hstands.pinned, fun deed hpins => counts_of_pins hpins r⟩

/-- A sign of life is asked for, a unit of work is opened and a lease taken on its connection, and
the unit ends: it came back without a word. -/
theorem accounts_unit :
    ∃ provider, ConnectionProvider.ofConfig (.ofHost "db" "main" "docs") = .ok provider ∧
      let start := Rehearsal.ofProvider provider (.onNetwork fun _ => none)
      let deeds := [.ping, .openUnit, .event .pin, .endUnit ⟨1, ⟨1, .fresh⟩⟩]
      let r := runAll start deeds
      (r.stats.totalAcquired, r.stats.totalReleased, r.stats.pinnedReuse) = (2, 1, 1) ∧
        r.desk.leases + r.desk.units = 0 ∧ allUnannounced start deeds = 1 ∧
        r.stats.totalAcquired =
          r.stats.totalReleased + (r.desk.leases + r.desk.units) +
            allUnannounced start deeds := by
  refine ⟨_, rfl, ?_, ?_, ?_, (accounts (c := .ofHost "db" "main" "docs") rfl _ _).1⟩
  · rfl
  · rfl
  · rfl

/-! ## Without the rest -/

/-- What was lent is held or was given back. -/
def IsSettled (r : Rehearsal) : Prop :=
  r.stats.totalAcquired = r.stats.totalReleased + (r.desk.leases + r.desk.units)

/-- Neither the end of a unit of work nor that of a dropped lease is counted. -/
theorem not_isSettled_unit :
    ∃ provider, ConnectionProvider.ofConfig (.ofHost "db" "main" "docs") = .ok provider ∧
      let start := Rehearsal.ofProvider provider (.onNetwork fun _ => none)
      ¬ IsSettled (runAll start [.openUnit, .endUnit ⟨1, ⟨1, .fresh⟩⟩]) ∧
        ¬ IsSettled (runAll start [.acquire, .event .dropLease]) := by
  refine ⟨_, rfl, fun hsettled => ?_, fun hsettled => ?_⟩
  · have hcounts : (1 : Nat) = 0 + (0 + 0) := hsettled
    simp at hcounts
  · have hcounts : (1 : Nat) = 0 + (0 + 0) := hsettled
    simp at hcounts

end Deed

end DocStore.Pool
