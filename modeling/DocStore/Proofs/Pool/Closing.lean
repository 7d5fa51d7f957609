import DocStore.Pool.Desk
import Mathlib.Data.List.Infix

/-!
# Closing a provider

A provider that was closed is to hand nothing out until it has a new target.
What a call finds when it comes is checked: it is refused while the provider is
closed.  But nothing is checked again, and so two kinds of calls that had come
before can still get something (`not_staysShut_race`):

* A call that waits for its turn or is opening a pool when the provider is closed
  opens one all the same, and the pool it opened stays in use.
* A call that waits for a connection when the provider is closed can get one until
  the driver has closed the pool, which it does in the background.

Those calls are the only ones.  What a step can come to is said once (`Moves`,
`moves_step`).  `Shut` says what is the case behind a closing as far as no new
target was given, and whatever a step comes to keeps it (`Shut.moves`):

* the provider stays closed, and new calls are refused;
* a call that waits for a connection waits for one of a pool that the driver has
  closed, which lends none, or waited for one when the provider was closed, or
  stood at the door then;
* so whatever is granted is granted to calls of the last two kinds
  (`granted_only_at_door_or_waiting`).
-/

namespace DocStore.Pool

/-- The call asks for something, and not for a new target. -/
def Call.Wants (call : Call) : Prop := ∃ w, call.errand = .want w

namespace Desk

variable {d d' : Desk} {call : Call} {pool : PoolId}

/-- The desk after several events. -/
def run (d : Desk) (events : List Event) : Desk := events.foldl (fun d event => (d.step event).1) d

@[simp] theorem run_nil (d : Desk) : d.run [] = d := rfl

@[simp] theorem run_cons (d : Desk) (event : Event) (events : List Event) :
    d.run (event :: events) = (d.step event).1.run events := rfl

/-- The calls that wait for their turn, and the one that has it. -/
def atDoor (d : Desk) : List Call := d.queue ++ d.opening.toList.map Prod.fst

/-- The calls that ended since, with what they came to. -/
def endedSince (d earlier : Desk) : List (CallId × Except StoreError Grant) :=
  d.ended.drop earlier.ended.length

/-! ## What a step does -/

/-- The same pools and the same ends: calls may be gone, counts may have changed, and the driver
may have closed more of the pools that were handed over. -/
structure Sheds (d d' : Desk) : Prop where
  slot : d'.provider.slot = d.provider.slot
  closed : d'.provider.closed = d.provider.closed
  queue : d'.queue ⊆ d.queue
  opening : ∀ entry ∈ d'.opening, entry ∈ d.opening
  leasing : d'.leasing ⊆ d.leasing
  ended : d'.ended = d.ended
  retired : d'.retired = d.retired
  down : d.down ⊆ d'.down

theorem Sheds.refl (d : Desk) : d.Sheds d where
  slot := rfl
  closed := rfl
  queue _ hcall := hcall
  opening _ hentry := hentry
  leasing _ hentry := hentry
  ended := rfl
  retired := rfl
  down _ hpool := hpool

/-- What a step can come to. -/
inductive Moves (d : Desk) : Desk → Prop where
  | shed {d' : Desk} (h : d.Sheds d') : Moves d d'
  /-- A call ends with nothing. -/
  | refuse {d' : Desk} (h : d.Sheds d') (id : CallId) (e : StoreError) :
      Moves d (d'.finish id (.error e))
  /-- A new call queues up, for a pool only while the provider is not closed. -/
  | queue (call : Call) (hopen : call.Wants → d.provider.closed = false) :
      Moves d ({ d with calls := d.calls + 1 }.enqueue call)
  /-- A call goes on with the pool in use, a new one only while the provider is not closed. -/
  | know {d' : Desk} (h : d.Sheds d') (call : Call) {pool : PoolId}
      (hslot : d.provider.slot = some pool) (hwants : call.Wants)
      (hcall : call ∈ d.queue ∨ d.provider.closed = false) : Moves d (d'.goOn call pool)
  /-- A call opens a pool. -/
  | turn {d' : Desk} (h : d.Sheds d') (call : Call) (options : ConnectOptions)
      (hcall : call ∈ d.queue) (hslot : call.Wants → d.provider.slot = none) :
      Moves d { d' with opening := some (call, options) }
  /-- The pool that a call opened comes into use. -/
  | use {call : Call} {options : ConnectOptions} (hopening : d.opening = some (call, options))
      (hwants : call.Wants) :
      Moves d ({ d with opening := none, provider := d.provider.useNext }.goOn call
        d.provider.nextPool)
  /-- The pool that was opened for a new target comes into use. -/
  | replace (call : Call) (options : ConnectOptions) :
      Moves d ({ d with
        opening := none
        provider := d.provider.replaceBy options
        retired := d.retired ++ d.provider.slot.toList }.finish call.id
          (.ok (.replaced d.provider.nextPool)))
  /-- A connection of a pool that the driver has not closed is granted. -/
  | lend {d' : Desk} (h : d.Sheds d') {call : Call} {pool : PoolId}
      (hmem : (call, pool) ∈ d.leasing) (hdown : pool ∉ d.down) (grant : Grant) :
      Moves d (d'.finish call.id (.ok grant))
  | close : Moves d d.onClose.1

theorem sheds_newCall (d : Desk) (errand : Errand) : d.Sheds (d.newCall errand).2 :=
  { Sheds.refl d with }

theorem moves_onAsk (d : Desk) (w : Want) : d.Moves (d.onAsk w) := by
  have hcounted := sheds_newCall d (.want w)
  by_cases hclosed : d.provider.closed
  · simp only [onAsk, newCall, hclosed, if_true]
    exact .refuse hcounted _ _
  · simp only [onAsk, newCall, hclosed, Bool.false_eq_true, if_false]
    have hopen : d.provider.closed = false := Bool.eq_false_iff.2 hclosed
    cases hslot : d.provider.slot with
    | some pool => exact .know hcounted _ hslot ⟨w, rfl⟩ (.inr hopen)
    | none => exact .queue _ fun _ => hopen

theorem moves_onReplace (d : Desk) (url : String) : d.Moves (d.onReplace url) := by
  simp only [onReplace, newCall]
  split
  · next e _ => exact .refuse (sheds_newCall d (.want .pool)) _ e
  · refine .queue _ fun hwants => ?_
    obtain ⟨w, hw⟩ := hwants
    cases hw

theorem moves_onTurn (d : Desk) : d.Moves d.onTurn := by
  simp only [onTurn]
  split
  · next call rest _ hqueue =>
    have hrest : d.Sheds { d with queue := rest } :=
      { Sheds.refl d with queue := hqueue ▸ List.subset_cons_self call rest }
    have hfirst : call ∈ d.queue := hqueue ▸ List.mem_cons_self
    split
    next herrand =>
      refine .turn hrest call _ hfirst fun hwants => ?_
      obtain ⟨w, hw⟩ := hwants
      rw [herrand] at hw
      cases hw
    next herrand hslot => exact .know hrest call hslot ⟨_, herrand⟩ (.inl hfirst)
    next hslot => exact .turn hrest call _ hfirst fun _ => hslot
  · exact .shed (.refl d)

theorem moves_onOpening (d : Desk) (result : Opening) : d.Moves (d.onOpening result).1 := by
  simp only [onOpening]
  split
  · exact .shed (.refl d)
  · next call options hopening =>
    have hrest : d.Sheds { d with opening := none } :=
      { Sheds.refl d with opening := fun entry hentry => absurd hentry (Option.not_mem_none entry) }
    cases result with
    | failed fault => exact .refuse hrest _ _
    | overdue => exact .refuse hrest _ _
    | opened =>
      cases herrand : call.errand with
      | want w => exact .use hopening ⟨w, herrand⟩
      | replace options' => exact .replace call options

theorem moves_onLeased (d : Desk) (id : CallId) (fault : Option DatabaseFault) :
    d.Moves (d.onLeased id fault).1 := by
  simp only [onLeased]
  split
  · exact .shed (.refl d)
  · next call pool hfind =>
    have hrest : d.Sheds { d with leasing := d.leasing.filter (·.1.id ≠ id) } :=
      { Sheds.refl d with leasing := List.filter_sublist.subset }
    obtain rfl : call.id = id := by simpa using List.find?_some hfind
    have hmem : (call, pool) ∈ d.leasing := List.mem_of_find?_eq_some hfind
    split
    · exact .refuse hrest _ _
    · next hlent =>
      have hdown : pool ∉ d.down := by
        intro hmem
        simp [hmem] at hlent
      have hunit : d.Sheds { d with
          leasing := d.leasing.filter (·.1.id ≠ call.id)
          provider := d.provider.lendUnit
          units := d.units + 1 } := { hrest with }
      have hlease : d.Sheds { d with
          leasing := d.leasing.filter (·.1.id ≠ call.id)
          provider := d.provider.lend
          leases := d.leases + 1 } := { hrest with }
      split
      · exact .lend hunit hmem hdown _
      · exact .lend hlease hmem hdown _

theorem sheds_onShutDown (d : Desk) (pool : PoolId) : d.Sheds (d.onShutDown pool) :=
  { Sheds.refl d with
    down := by
      rw [onShutDown]
      dsimp only
      split
      · exact List.subset_append_left _ _
      · exact List.Subset.refl _ }

theorem sheds_onGiveUp (d : Desk) (id : CallId) : d.Sheds (d.onGiveUp id) :=
  { Sheds.refl d with
    queue := List.filter_sublist.subset
    opening := fun _ hentry => (Option.mem_filter_iff.1 hentry).1
    leasing := List.filter_sublist.subset }

theorem moves_step (d : Desk) (event : Event) : d.Moves (d.step event).1 := by
  cases event with
  | ask w => exact moves_onAsk d w
  | replace url => exact moves_onReplace d url
  | turn => exact moves_onTurn d
  | opening result => exact moves_onOpening d result
  | leased id fault => exact moves_onLeased d id fault
  | giveUp id => exact .shed (sheds_onGiveUp d id)
  | close => exact .close
  | shutDown pool => exact .shed (sheds_onShutDown d pool)
  | release =>
    simp only [step]
    split
    · exact .shed (.refl d)
    · exact .shed { Sheds.refl d with }
  | dropLease | dropUnit | pin => exact .shed { Sheds.refl d with }

/-! ## Behind a closing -/

/-- What is the case behind a closing, as long as no new target was given: `door` are the calls
that stood at the door when the provider was closed, `waiting` those that waited for a connection
then, with its pool, and `mark` calls had ended then. -/
structure Shut (door : List Call) (waiting : List (Call × PoolId)) (mark : Nat) (d : Desk) :
    Prop where
  closed : d.provider.closed = true
  /-- Nobody else queues up for more than a new target. -/
  queue : ∀ call ∈ d.queue, call.Wants → call ∈ door
  opening : ∀ entry ∈ d.opening, entry.1.Wants → entry.1 ∈ door
  /-- Nobody else gets a connection. -/
  leasing : ∀ entry ∈ d.leasing,
    entry.2 ∈ d.down ∨ entry ∈ waiting ∨ (entry.1 ∈ door ∧ entry.1.Wants)
  slot : d.provider.slot ≠ none → ∃ call ∈ door, call.Wants
  marked : mark ≤ d.ended.length
  granted : ∀ id grant, (id, .ok grant) ∈ d.ended.drop mark →
    (∃ call ∈ door, call.id = id ∧ call.Wants) ∨ ∃ entry ∈ waiting, entry.1.id = id

variable {door : List Call} {waiting : List (Call × PoolId)} {mark : Nat}

theorem mem_drop_concat {α : Type} {xs : List α} {x y : α} {n : Nat} (h : n ≤ xs.length) :
    y ∈ (xs ++ [x]).drop n ↔ y ∈ xs.drop n ∨ y = x := by
  rw [List.drop_append_of_le_length h, List.mem_append, List.mem_singleton]

theorem Shut.sheds (h : Shut door waiting mark d) (hd' : d.Sheds d') :
    Shut door waiting mark d' where
  closed := hd'.closed.trans h.closed
  queue call hcall := h.queue call (hd'.queue hcall)
  opening entry hentry := h.opening entry (hd'.opening entry hentry)
  leasing entry hentry := (h.leasing entry (hd'.leasing hentry)).imp_left (hd'.down ·)
  slot := hd'.slot ▸ h.slot
  marked := hd'.ended ▸ h.marked
  granted := hd'.ended ▸ h.granted

theorem Shut.refuse (h : Shut door waiting mark d) (id : CallId) (e : StoreError) :
    Shut door waiting mark (d.finish id (.error e)) where
  closed := h.closed
  queue := h.queue
  opening := h.opening
  leasing := h.leasing
  slot := h.slot
  marked := by simpa [finish] using Nat.le_succ_of_le h.marked
  granted id' grant hmem := by
    rcases (mem_drop_concat h.marked).1 hmem with hmem | hmem
    · exact h.granted id' grant hmem
    · exact nomatch hmem

theorem Shut.grant (h : Shut door waiting mark d) (grant : Grant)
    (hcall : (call ∈ door ∧ call.Wants) ∨ ∃ pool, (call, pool) ∈ waiting) :
    Shut door waiting mark (d.finish call.id (.ok grant)) where
  closed := h.closed
  queue := h.queue
  opening := h.opening
  leasing := h.leasing
  slot := h.slot
  marked := by simpa [finish] using Nat.le_succ_of_le h.marked
  granted id' grant' hmem := by
    rcases (mem_drop_concat h.marked).1 hmem with hmem | hmem
    · exact h.granted id' grant' hmem
    · obtain ⟨rfl, -⟩ := Prod.mk.inj hmem
      rcases hcall with ⟨hdoor, hwants⟩ | ⟨pool, hwaiting⟩
      · exact .inl ⟨call, hdoor, rfl, hwants⟩
      · exact .inr ⟨(call, pool), hwaiting, rfl⟩

/-- A call from the door may come to know a pool. -/
theorem Shut.goOn (h : Shut door waiting mark d) (pool : PoolId) (hdoor : call ∈ door)
    (hwants : call.Wants) : Shut door waiting mark (d.goOn call pool) := by
  rw [Desk.goOn]
  split
  · exact h.grant _ (.inl ⟨hdoor, hwants⟩)
  · refine { h with leasing := fun entry hentry => ?_ }
    rcases List.mem_append.1 hentry with hentry | hentry
    · exact h.leasing entry hentry
    · rw [List.mem_singleton.1 hentry]
      exact .inr (.inr ⟨hdoor, hwants⟩)

theorem shut_onClose (d : Desk) : Shut d.atDoor d.leasing d.ended.length d.onClose.1 where
  closed := rfl
  queue _ hcall _ := List.mem_append_left _ hcall
  opening entry hentry _ :=
    List.mem_append_right _ (List.mem_map.2 ⟨entry, Option.mem_toList.2 hentry, rfl⟩)
  leasing entry hentry := .inr (.inl hentry)
  slot hslot := absurd rfl hslot
  marked := Nat.le_refl _
  granted id grant hmem := by simp [onClose] at hmem

/-- Seen from later on, only those wait of which the driver has not closed the pool. -/
theorem Shut.later (h : Shut door waiting mark d) :
    Shut door (waiting.filter (·.2 ∉ d.down)) d.ended.length d where
  closed := h.closed
  queue := h.queue
  opening := h.opening
  leasing entry hentry := by
    by_cases hdown : entry.2 ∈ d.down
    · exact .inl hdown
    · refine .inr (((h.leasing entry hentry).resolve_left hdown).imp_left fun hwaiting => ?_)
      exact List.mem_filter.2 ⟨hwaiting, decide_eq_true hdown⟩
  slot := h.slot
  marked := Nat.le_refl _
  granted id grant hmem := by simp at hmem

/-- A step keeps what is the case behind a closing, unless a new target was given in it. -/
theorem Shut.moves (h : Shut door waiting mark d) (hd' : d.Moves d') :
    (∃ id pool, d'.ended = d.ended ++ [(id, .ok (.replaced pool))]) ∨
      Shut door waiting mark d' := by
  cases hd' with
  | shed hsheds => exact .inr (h.sheds hsheds)
  | refuse hsheds id e => exact .inr ((h.sheds hsheds).refuse id e)
  | queue call hopen =>
    refine .inr { h with queue := fun call' hcall' hwants => ?_ }
    rcases List.mem_append.1 hcall' with hcall' | hcall'
    · exact h.queue call' hcall' hwants
    · rw [List.mem_singleton.1 hcall'] at hwants
      exact absurd (h.closed.symm.trans (hopen hwants)) (by decide)
  | know hsheds call hslot hwants hcall =>
    have hqueued : call ∈ d.queue := hcall.resolve_right (by simp [h.closed])
    exact .inr ((h.sheds hsheds).goOn _ (h.queue call hqueued hwants) hwants)
  | turn hsheds call options hcall _ =>
    refine .inr { h.sheds hsheds with opening := ?_ }
    rintro _ ⟨⟩
    exact h.queue call hcall
  | @use call options hopening hwants =>
    have hcall : call ∈ door := h.opening _ hopening hwants
    have hused :
        Shut door waiting mark { d with opening := none, provider := d.provider.useNext } :=
      { h with
        opening := fun _ hentry => absurd hentry (Option.not_mem_none _)
        slot := fun _ => ⟨call, hcall, hwants⟩ }
    exact .inr (hused.goOn _ hcall hwants)
  | replace call options => exact .inl ⟨_, _, rfl⟩
  | lend hsheds hmem hdown grant =>
    have hcall := (h.leasing _ hmem).resolve_left hdown
    exact .inr ((h.sheds hsheds).grant grant (hcall.symm.imp_right fun hwaiting => ⟨_, hwaiting⟩))
  | close =>
    exact .inr { h with
      closed := rfl
      slot := fun hslot => absurd rfl hslot }

theorem prefix_ended_goOn (d : Desk) (call : Call) (pool : PoolId) :
    d.ended <+: (d.goOn call pool).ended := by
  rw [goOn]
  split
  · exact List.prefix_append _ _
  · exact List.prefix_rfl

/-- What a call came to stays. -/
theorem Moves.prefix_ended (h : d.Moves d') : d.ended <+: d'.ended := by
  cases h with
  | shed hsheds | turn hsheds => exact hsheds.ended ▸ List.prefix_rfl
  | refuse hsheds | lend hsheds => exact hsheds.ended ▸ List.prefix_append _ _
  | know hsheds call => exact hsheds.ended ▸ prefix_ended_goOn _ call _
  | use => exact prefix_ended_goOn { d with opening := none, provider := d.provider.useNext } _ _
  | replace => exact List.prefix_append _ _
  | queue | close => exact List.prefix_rfl

theorem prefix_ended_run (d : Desk) (events : List Event) : d.ended <+: (d.run events).ended := by
  induction events generalizing d with
  | nil => exact List.prefix_rfl
  | cons event events ih => exact (moves_step d event).prefix_ended.trans (ih _)

/-- As long as no new target was given, what is the case behind a closing stays. -/
theorem shut_run (h : Shut door waiting mark d) (events : List Event)
    (hquiet : ∀ id pool, (id, .ok (.replaced pool)) ∉ (d.run events).ended.drop mark) :
    Shut door waiting mark (d.run events) := by
  induction events generalizing d with
  | nil => exact h
  | cons event events ih =>
    rcases h.moves (moves_step d event) with ⟨id, pool, hended⟩ | hnext
    · refine absurd ?_ (hquiet id pool)
      obtain ⟨later, hlater⟩ := prefix_ended_run (d.step event).1 events
      rw [run_cons, ← hlater, hended, List.append_assoc, List.drop_append_of_le_length h.marked]
      simp
    · exact ih hnext hquiet

theorem run_append (d : Desk) (front behind : List Event) :
    d.run (front ++ behind) = (d.run front).run behind := List.foldl_append

/-- Whatever a provider was called for: behind a closing, and as long as no new target was
given, it is closed, and has a pool only if a call stood at the door when it was closed.
Whatever is granted from some later moment on is granted to a call that stood at the door when the
provider was closed, or to one that waited then for a connection of a pool that the driver has not
closed by that moment. -/
theorem granted_only_at_door_or_waiting (provider : ConnectionProvider)
    (past events more : List Event) :
    let d := (ofProvider provider).run past
    let shut := (d.step .close).1
    let d' := shut.run events
    let later := d'.run more
    (∀ id pool, (id, .ok (.replaced pool)) ∉ later.endedSince shut) →
      later.provider.closed = true ∧
      (later.provider.slot = none ∨ ∃ call ∈ d.atDoor, call.Wants) ∧
      ∀ id grant, (id, .ok grant) ∈ later.endedSince d' →
        (∃ call ∈ d.atDoor, call.id = id ∧ call.Wants) ∨
        ∃ entry ∈ d.leasing, entry.1.id = id ∧ entry.2 ∉ d'.down := by
  intro d shut d' later hquiet
  have hmark : shut.ended.length ≤ d'.ended.length := (prefix_ended_run shut events).length_le
  have hprefix : d'.ended <+: later.ended := prefix_ended_run d' more
  have hquiet' : ∀ id pool, (id, .ok (.replaced pool)) ∉ d'.endedSince shut := fun id pool hmem =>
    hquiet id pool ((List.IsPrefix.drop hprefix shut.ended.length).subset hmem)
  have hshut : Shut d.atDoor d.leasing shut.ended.length d' :=
    shut_run (shut_onClose d) events hquiet'
  have hlater : Shut d.atDoor (d.leasing.filter (·.2 ∉ d'.down)) d'.ended.length later := by
    refine shut_run hshut.later more fun id pool hmem => hquiet id pool ?_
    exact (List.drop_subset_drop_left _ hmark) hmem
  refine ⟨hlater.closed, ?_, fun id grant hmem => (hlater.granted id grant hmem).imp_right ?_⟩
  · by_cases hslot : later.provider.slot = none
    · exact .inl hslot
    · exact .inr (hlater.slot hslot)
  · rintro ⟨entry, hentry, hid⟩
    obtain ⟨hleasing, hdown⟩ := List.mem_filter.1 hentry
    exact ⟨entry, hleasing, hid, of_decide_eq_true hdown⟩

/-- Two connections of the pool in use are waited for when the provider is closed.  The first one
is granted, as the driver has not closed the pool yet.  The second one comes too late, and a unit
of work that is asked for afterwards is refused. -/
theorem granted_only_at_door_or_waiting_race :
    ∃ provider, ConnectionProvider.ofConfig (.ofHost "db" "main" "docs") = .ok provider ∧
      let d := (ofProvider provider).run
        [.ask .pool, .turn, .opening .opened, .ask .lease, .ask .lease]
      let shut := (d.step .close).1
      let d' := shut.run [.leased 1 none, .shutDown 1]
      let later := d'.run [.leased 2 none, .ask .unit]
      d'.endedSince shut = [(1, .ok (.lease 1))] ∧
        later.endedSince d' = [(2, .error .connectionClosed), (3, .error .connectionClosed)] ∧
        later.provider.closed = true ∧
        (later.provider.slot = none ∨ ∃ call ∈ d.atDoor, call.Wants) ∧
        ∀ id grant, (id, .ok grant) ∈ later.endedSince d' →
          (∃ call ∈ d.atDoor, call.id = id ∧ call.Wants) ∨
          ∃ entry ∈ d.leasing, entry.1.id = id ∧ entry.2 ∉ d'.down := by
  refine ⟨_, rfl, rfl, rfl, granted_only_at_door_or_waiting _
    [.ask .pool, .turn, .opening .opened, .ask .lease, .ask .lease]
    [.leased 1 none, .shutDown 1] [.leased 2 none, .ask .unit] fun id pool hmem => ?_⟩
  have hends : (id, .ok (.replaced pool)) ∈
      ([(1, .ok (.lease 1)), (2, .error .connectionClosed), (3, .error .connectionClosed)] :
        List (CallId × Except StoreError Grant)) := hmem
  simp at hends

/-! ## Calls from before -/

/-- What a closing is meant to bring until a new target is given: the provider is closed and has
no pool, and nothing is granted. -/
structure StaysShut (shut d : Desk) : Prop where
  closed : d.provider.closed = true
  slot : d.provider.slot = none
  granted : ∀ id grant, (id, .ok grant) ∉ d.endedSince shut

/-- A pool is being opened when the provider is closed.  It comes into use, and a connection of it
is granted.  And a connection of the pool in use is waited for when the provider is closed, and is
granted before the driver closes the pool. -/
theorem not_staysShut_race :
    ∃ provider, ConnectionProvider.ofConfig (.ofHost "db" "main" "docs") = .ok provider ∧
      (let shut := (((ofProvider provider).run [.ask .lease, .turn]).step .close).1
        let d := shut.run [.opening .opened, .leased 0 none]
        (∀ id pool, (id, .ok (.replaced pool)) ∉ d.endedSince shut) ∧
          d.provider.slot = some 1 ∧ d.endedSince shut = [(0, .ok (.lease 1))] ∧
          ¬ StaysShut shut d) ∧
      (let shut := (((ofProvider provider).run
          [.ask .pool, .turn, .opening .opened, .ask .lease]).step .close).1
        let d := shut.run [.leased 1 none]
        (∀ id pool, (id, .ok (.replaced pool)) ∉ d.endedSince shut) ∧
          d.endedSince shut = [(1, .ok (.lease 1))] ∧ ¬ StaysShut shut d) := by
  have hquiet : ∀ (number id : CallId) (pool : PoolId), (id, .ok (.replaced pool)) ∉
      ([(number, .ok (.lease 1))] : List (CallId × Except StoreError Grant)) := by
    intro number id pool hmem
    simp at hmem
  refine ⟨_, rfl, ⟨hquiet 0, rfl, rfl, fun h => nomatch h.slot⟩, hquiet 1, rfl, fun h => ?_⟩
  exact h.granted 1 (.lease 1) (List.mem_singleton_self _)

end Desk

end DocStore.Pool
