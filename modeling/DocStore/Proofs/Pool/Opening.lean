import DocStore.Proofs.Pool.Closing

/-!
# One pool for the first use

Nobody opens a pool ahead of need.  The calls that find none queue up, and the
first of them opens it for all.  `OnePool` says what is the case at every moment
of that, whichever calls get their turn between two steps and however their
openings end, as long as the provider is neither closed nor given a new target:

* no pool or the first one is in use, and none is opened once there is one;
* whoever waits for a connection waits for one of the pool in use, and whatever
  was granted was granted of it.

An opening that comes to nothing leaves the provider and the queue as they were
(`standsAsBefore_of_fails`).  For an opening that is given up this takes that a
call stands in one place at a time: `IsNumbered`.
-/

namespace DocStore.Pool

/-- A use of the provider: neither a closing nor a new target. -/
def Event.isUse : Event → Bool
  | replace _ | close => false
  | _ => true

/-- The pool that a grant is of. -/
def Grant.poolId : Grant → PoolId
  | .pool id | .lease id | .unit id _ | .replaced id => id

/-- A new provider has counted nothing and has no pool. -/
theorem eq_of_ofConfig {c : StoreConfig} {provider : ConnectionProvider}
    (h : ConnectionProvider.ofConfig c = .ok provider) :
    ∃ options, ConnectOptions.ofConfig c.connection = .ok options ∧
      provider =
        { config := c.connection, pool := c.pool, connectTimeout := c.timeout.connect, options
          slot := none, closed := false, poolsCreated := 0, totalAcquired := 0, totalReleased := 0
          pinnedReuse := 0, unitsOpened := 0 } := by
  rw [ConnectionProvider.ofConfig] at h
  cases hoptions : ConnectOptions.ofConfig c.connection with
  | error e => simp [hoptions, Except.map] at h
  | ok options =>
    rw [hoptions] at h
    exact ⟨options, rfl, (Except.ok.inj h).symm⟩

namespace Desk

variable {d d' : Desk} {call : Call} {pool : PoolId}

/-! ## Places of calls -/

/-- The numbers of the calls that have not ended, each as often as it stands somewhere. -/
def standing (d : Desk) : List CallId :=
  d.queue.map Call.id ++ d.opening.toList.map (·.1.id) ++ d.leasing.map (·.1.id)

/-- A call stands in one place at most, and only calls that were made do. -/
def IsNumbered (d : Desk) : Prop :=
  ∀ id : Nat, d.standing.count id ≤ if id < d.calls then 1 else 0

theorem count_standing (d : Desk) (id : CallId) :
    d.standing.count id = (d.queue.map Call.id).count id +
      (d.opening.toList.map (·.1.id)).count id + (d.leasing.map (·.1.id)).count id := by
  rw [standing, List.count_append, List.count_append]

theorem calls_goOn (d : Desk) (call : Call) (pool : PoolId) : (d.goOn call pool).calls = d.calls := by
  rw [goOn]
  split <;> rfl

theorem slot_goOn (d : Desk) (call : Call) (pool : PoolId) :
    (d.goOn call pool).provider.slot = d.provider.slot := by
  rw [goOn]
  split <;> rfl

theorem count_standing_goOn (d : Desk) (call : Call) (pool : PoolId) (id : CallId) :
    (d.goOn call pool).standing.count id ≤ d.standing.count id + [call.id].count id := by
  rw [goOn]
  split
  · exact Nat.le_add_right _ _
  · simp only [count_standing, List.map_append, List.count_append, List.map_cons, List.map_nil]
    omega

theorem count_standing_enqueue (d : Desk) (call : Call) (id : CallId) :
    (d.enqueue call).standing.count id = d.standing.count id + [call.id].count id := by
  simp only [enqueue, count_standing, List.map_append, List.count_append, List.map_cons,
    List.map_nil]
  omega

theorem count_map_filter_le {α : Type} (xs : List α) (f : α → CallId) (p : α → Bool)
    (id : CallId) : ((xs.filter p).map f).count id ≤ (xs.map f).count id :=
  (List.filter_sublist.map f).count_le id

theorem isNumbered_ofProvider (provider : ConnectionProvider) : (ofProvider provider).IsNumbered :=
  fun _ => Nat.zero_le _

/-- Calls may go. -/
theorem IsNumbered.shrink (h : d.IsNumbered) (hcalls : d.calls ≤ d'.calls)
    (hstanding : ∀ id : Nat, d'.standing.count id ≤ d.standing.count id) : d'.IsNumbered := by
  intro id
  have hold := h id
  have hnew := hstanding id
  split at hold <;> split <;> omega

/-- One new call may come. -/
theorem IsNumbered.grow (h : d.IsNumbered) (hcalls : d'.calls = d.calls + 1)
    (hstanding : ∀ id : Nat, d'.standing.count id ≤ d.standing.count id + [d.calls].count id) :
    d'.IsNumbered := by
  intro id
  have hold := h id
  have hnew := hstanding id
  have hsingle : [d.calls].count id = if d.calls = id then 1 else 0 := by
    simp [List.count_singleton]
  rw [hsingle] at hnew
  split at hold <;> split at hnew <;> split <;> omega

/-- A call may go on from one place to the next. -/
theorem IsNumbered.goOn (h : d.IsNumbered) (d' : Desk) (hcalls : d'.calls = d.calls)
    (hstanding : ∀ id, d.standing.count id = d'.standing.count id + [call.id].count id)
    (pool : PoolId) : (d'.goOn call pool).IsNumbered := by
  have hkept : (d'.goOn call pool).calls = d.calls := (calls_goOn d' call pool).trans hcalls
  refine h.shrink (Nat.le_of_eq hkept.symm) fun id => ?_
  rw [hstanding]
  exact count_standing_goOn d' call pool id

theorem IsNumbered.onAsk (h : d.IsNumbered) (w : Want) : (d.onAsk w).IsNumbered := by
  by_cases hclosed : d.provider.closed
  · simp only [Desk.onAsk, newCall, hclosed, if_true]
    exact h.shrink (Nat.le_succ _) fun id => Nat.le_refl _
  · simp only [Desk.onAsk, newCall, hclosed, Bool.false_eq_true, if_false]
    cases d.provider.slot with
    | some pool =>
      exact h.grow (calls_goOn _ _ pool) fun id => count_standing_goOn _ ⟨d.calls, .want w⟩ pool id
    | none =>
      exact h.grow rfl fun id => Nat.le_of_eq (count_standing_enqueue _ ⟨d.calls, .want w⟩ id)

theorem IsNumbered.onReplace (h : d.IsNumbered) (url : String) : (d.onReplace url).IsNumbered := by
  simp only [Desk.onReplace, newCall]
  split
  · exact h.shrink (Nat.le_succ _) fun id => Nat.le_refl _
  · next options _ =>
    exact h.grow rfl fun id =>
      Nat.le_of_eq (count_standing_enqueue _ ⟨d.calls, .replace options⟩ id)

theorem IsNumbered.onTurn (h : d.IsNumbered) : d.onTurn.IsNumbered := by
  simp only [Desk.onTurn]
  split
  · next call rest hopening hqueue =>
    have hfirst : ∀ id, d.standing.count id =
        (Desk.standing { d with queue := rest }).count id + [call.id].count id := by
      intro id
      simp only [count_standing, hqueue, List.map_cons, List.count_cons, List.count_nil]
      omega
    have hopens : ∀ options id,
        (Desk.standing { d with queue := rest, opening := some (call, options) }).count id =
          d.standing.count id := by
      intro options id
      simp only [hfirst, count_standing, hopening, Option.toList_some, Option.toList_none,
        List.map_cons, List.map_nil, List.count_nil]
      omega
    split
    · exact h.shrink (Nat.le_refl _) fun id => Nat.le_of_eq (hopens _ id)
    · exact h.goOn { d with queue := rest } rfl hfirst _
    · exact h.shrink (Nat.le_refl _) fun id => Nat.le_of_eq (hopens _ id)
  · exact h

theorem IsNumbered.onOpening (h : d.IsNumbered) (result : Opening) :
    (d.onOpening result).1.IsNumbered := by
  simp only [Desk.onOpening]
  split
  · exact h
  · next call options hopening =>
    have hcaller : ∀ id, d.standing.count id =
        (Desk.standing { d with opening := none }).count id + [call.id].count id := by
      intro id
      simp only [count_standing, hopening, Option.toList_some, Option.toList_none, List.map_cons,
        List.map_nil, List.count_nil]
      omega
    have hends : ∀ id, (Desk.standing { d with opening := none }).count id ≤
        d.standing.count id := fun id => (hcaller id).symm ▸ Nat.le_add_right _ _
    cases result with
    | failed fault => exact h.shrink (Nat.le_refl _) hends
    | overdue => exact h.shrink (Nat.le_refl _) hends
    | opened =>
      cases herrand : call.errand with
      | want w =>
        exact h.goOn { d with opening := none, provider := d.provider.useNext } rfl hcaller _
      | replace options' => exact h.shrink (Nat.le_refl _) hends

theorem IsNumbered.onLeased (h : d.IsNumbered) (id : CallId) (fault : Option DatabaseFault) :
    (d.onLeased id fault).1.IsNumbered := by
  simp only [Desk.onLeased]
  split
  · exact h
  · next call pool hfind =>
    have hends : ∀ id', (Desk.standing { d with
        leasing := d.leasing.filter (·.1.id ≠ id) }).count id' ≤ d.standing.count id' := by
      intro id'
      have hleasing := count_map_filter_le d.leasing (·.1.id) (·.1.id ≠ id) id'
      simp only [count_standing]
      omega
    split
    · exact h.shrink (Nat.le_refl _) hends
    · split
      · exact h.shrink (Nat.le_refl _) hends
      · exact h.shrink (Nat.le_refl _) hends

theorem IsNumbered.onGiveUp (h : d.IsNumbered) (id : CallId) : (d.onGiveUp id).IsNumbered := by
  refine h.shrink (Nat.le_refl _) fun id' => ?_
  have hqueue := count_map_filter_le d.queue Call.id (·.id ≠ id) id'
  have hleasing := count_map_filter_le d.leasing (·.1.id) (·.1.id ≠ id) id'
  have hopening : ((d.opening.filter (·.1.id ≠ id)).toList.map (·.1.id)).count id' ≤
      (d.opening.toList.map (·.1.id)).count id' := by
    cases d.opening with
    | none => exact Nat.le_refl _
    | some entry =>
      rw [Option.filter_some]
      split
      · exact Nat.le_refl _
      · exact Nat.zero_le _
  simp only [Desk.onGiveUp, count_standing]
  omega

theorem IsNumbered.step (h : d.IsNumbered) (event : Event) : (d.step event).1.IsNumbered := by
  cases event with
  | ask w => exact h.onAsk w
  | replace url => exact h.onReplace url
  | turn => exact h.onTurn
  | opening result => exact h.onOpening result
  | leased id fault => exact h.onLeased id fault
  | giveUp id => exact h.onGiveUp id
  | release =>
    rw [Desk.step]
    cases d.leases <;> exact h
  | close | shutDown pool | dropLease | dropUnit | pin => exact h

theorem isNumbered_run (h : d.IsNumbered) (events : List Event) : (d.run events).IsNumbered := by
  induction events generalizing d with
  | nil => exact h
  | cons event events ih => exact ih (h.step event)

/-- The call that is opening a pool does not queue up as well. -/
theorem IsNumbered.ne_opening (h : d.IsNumbered) {options : ConnectOptions}
    (hopening : d.opening = some (call, options)) : ∀ other ∈ d.queue, other.id ≠ call.id := by
  intro other hother heq
  have hcount := h call.id
  have hqueued : 0 < (d.queue.map Call.id).count call.id :=
    List.count_pos_iff.2 (List.mem_map.2 ⟨other, hother, heq⟩)
  have hopens : (d.opening.toList.map (·.1.id)).count call.id = 1 := by simp [hopening]
  rw [count_standing] at hcount
  split at hcount <;> omega

/-! ## The pool in use -/

/-- What is the case as long as a provider is only used. -/
structure OnePool (d : Desk) : Prop where
  closed : d.provider.closed = false
  pools : (d.provider.slot = none ∧ d.provider.poolsCreated = 0) ∨
    (d.provider.slot = some 1 ∧ d.provider.poolsCreated = 1)
  /-- Nobody comes with a new target. -/
  wants : ∀ call ∈ d.atDoor, call.Wants
  opening : d.opening ≠ none → d.provider.slot = none
  leasing : ∀ entry ∈ d.leasing, d.provider.slot = some entry.2
  granted : ∀ id grant, (id, .ok grant) ∈ d.ended → d.provider.slot = some grant.poolId

theorem onePool_ofConfig {c : StoreConfig} {provider : ConnectionProvider}
    (h : ConnectionProvider.ofConfig c = .ok provider) : (ofProvider provider).OnePool := by
  obtain ⟨options, -, rfl⟩ := eq_of_ofConfig h
  refine ⟨rfl, .inl ⟨rfl, rfl⟩, ?_, fun hopening => absurd rfl hopening, ?_, ?_⟩ <;>
    simp [ofProvider, atDoor]

theorem OnePool.sheds (h : d.OnePool) (hd' : d.Sheds d')
    (hcreated : d'.provider.poolsCreated = d.provider.poolsCreated) : d'.OnePool where
  closed := hd'.closed.trans h.closed
  pools := by rw [hd'.slot, hcreated]; exact h.pools
  wants call hcall := by
    refine h.wants call (List.mem_append.2 ((List.mem_append.1 hcall).imp (hd'.queue ·) ?_))
    rintro hopening
    obtain ⟨entry, hentry, rfl⟩ := List.mem_map.1 hopening
    exact List.mem_map.2
      ⟨entry, Option.mem_toList.2 (hd'.opening entry (Option.mem_toList.1 hentry)), rfl⟩
  opening hopening := by
    obtain ⟨entry, hentry⟩ := Option.ne_none_iff_exists'.1 hopening
    rw [hd'.slot]
    exact h.opening (by rw [hd'.opening entry hentry]; exact Option.some_ne_none entry)
  leasing entry hentry := by
    rw [hd'.slot]
    exact h.leasing entry (hd'.leasing hentry)
  granted id grant hgrant := by
    rw [hd'.slot]
    exact h.granted id grant (hd'.ended ▸ hgrant)

theorem OnePool.refuse (h : d.OnePool) (id : CallId) (e : StoreError) :
    (d.finish id (.error e)).OnePool :=
  { h with
    granted := fun id' grant hgrant => by
      rcases List.mem_append.1 hgrant with hgrant | hgrant
      · exact h.granted id' grant hgrant
      · simp at hgrant }

theorem OnePool.grant (h : d.OnePool) (id : CallId) {grant : Grant}
    (hslot : d.provider.slot = some grant.poolId) : (d.finish id (.ok grant)).OnePool :=
  { h with
    granted := fun id' grant' hgrant => by
      rcases List.mem_append.1 hgrant with hgrant | hgrant
      · exact h.granted id' grant' hgrant
      · obtain ⟨-, hok⟩ := Prod.mk.inj (List.mem_singleton.1 hgrant)
        rw [Except.ok.inj hok]
        exact hslot }

theorem OnePool.goOn (h : d.OnePool) (call : Call) (hslot : d.provider.slot = some pool) :
    (d.goOn call pool).OnePool := by
  rw [Desk.goOn]
  split
  · exact h.grant _ hslot
  · refine { h with leasing := fun entry hentry => ?_ }
    rcases List.mem_append.1 hentry with hentry | hentry
    · exact h.leasing entry hentry
    · rw [List.mem_singleton.1 hentry]
      exact hslot

theorem OnePool.onAsk (h : d.OnePool) (w : Want) : (d.onAsk w).OnePool := by
  have hcounted : OnePool { d with calls := d.calls + 1 } := { h with }
  simp only [Desk.onAsk, newCall, h.closed, Bool.false_eq_true, if_false]
  cases hslot : d.provider.slot with
  | some pool => exact hcounted.goOn _ hslot
  | none =>
    refine { hcounted with wants := fun call hcall => ?_ }
    simp only [atDoor, enqueue, List.mem_append, List.mem_singleton] at hcall
    rcases hcall with (hcall | rfl) | hcall
    · exact h.wants call (List.mem_append_left _ hcall)
    · exact ⟨w, rfl⟩
    · exact h.wants call (List.mem_append_right _ hcall)

theorem OnePool.onTurn (h : d.OnePool) : d.onTurn.OnePool := by
  simp only [Desk.onTurn]
  split
  · next call rest hopening hqueue =>
    have hsheds : d.Sheds { d with queue := rest } :=
      { Sheds.refl d with queue := hqueue ▸ List.subset_cons_self call rest }
    have hrest : OnePool { d with queue := rest } := h.sheds hsheds rfl
    have hwants : call.Wants := h.wants call (by simp [atDoor, hqueue])
    have hopens : d.provider.slot = none → ∀ options,
        OnePool { d with queue := rest, opening := some (call, options) } := by
      intro hslot options
      refine { hrest with wants := fun other hother => ?_, opening := fun _ => hslot }
      rcases List.mem_append.1 hother with hother | hother
      · exact hrest.wants other (List.mem_append_left _ hother)
      · simp only [Option.toList_some, List.map_cons, List.map_nil, List.mem_singleton] at hother
        exact hother ▸ hwants
    split
    next herrand =>
      obtain ⟨w, hw⟩ := hwants
      rw [herrand] at hw
      cases hw
    next hslot => exact hrest.goOn call hslot
    next hslot => exact hopens hslot _
  · exact h

theorem OnePool.onOpening (h : d.OnePool) (result : Opening) : (d.onOpening result).1.OnePool := by
  simp only [Desk.onOpening]
  split
  · exact h
  · next call options hopening =>
    have hsheds : d.Sheds { d with opening := none } :=
      { Sheds.refl d with opening := fun entry hentry => absurd hentry (Option.not_mem_none entry) }
    have hrest : OnePool { d with opening := none } := h.sheds hsheds rfl
    have hslot : d.provider.slot = none := h.opening (by simp [hopening])
    have hcreated : d.provider.poolsCreated = 0 := by
      rcases h.pools with ⟨-, hcreated⟩ | ⟨hsome, -⟩
      · exact hcreated
      · simp [hslot] at hsome
    obtain ⟨w, hw⟩ := h.wants call (by simp [atDoor, hopening])
    cases result with
    | failed fault => exact hrest.refuse _ _
    | overdue => exact hrest.refuse _ _
    | opened =>
      have hused : OnePool { d with opening := none, provider := d.provider.useNext } :=
        { hrest with
          pools := by simp [ConnectionProvider.useNext, ConnectionProvider.nextPool, hcreated]
          opening := fun hopening => absurd rfl hopening
          leasing := fun entry hentry => by simpa [hslot] using h.leasing entry hentry
          granted := fun id grant hgrant => by simpa [hslot] using h.granted id grant hgrant }
      rw [hw]
      exact hused.goOn call rfl

theorem OnePool.onLeased (h : d.OnePool) (id : CallId) (fault : Option DatabaseFault) :
    (d.onLeased id fault).1.OnePool := by
  simp only [Desk.onLeased]
  split
  · exact h
  · next call pool hfind =>
    have hsheds : d.Sheds { d with leasing := d.leasing.filter (·.1.id ≠ id) } :=
      { Sheds.refl d with leasing := List.filter_sublist.subset }
    have hrest : OnePool { d with leasing := d.leasing.filter (·.1.id ≠ id) } :=
      h.sheds hsheds rfl
    have hslot : d.provider.slot = some pool :=
      h.leasing (call, pool) (List.mem_of_find?_eq_some hfind)
    split
    · exact hrest.refuse _ _
    · split
      · refine OnePool.grant (d := { d with
          leasing := d.leasing.filter (·.1.id ≠ id)
          provider := d.provider.lendUnit
          units := d.units + 1 }) { hrest with } id hslot
      · refine OnePool.grant (d := { d with
          leasing := d.leasing.filter (·.1.id ≠ id)
          provider := d.provider.lend
          leases := d.leases + 1 }) { hrest with } id hslot

/-- A use keeps to the one pool. -/
theorem OnePool.step (h : d.OnePool) {event : Event} (huse : event.isUse = true) :
    (d.step event).1.OnePool := by
  cases event with
  | ask w => exact h.onAsk w
  | replace url => simp [Event.isUse] at huse
  | turn => exact h.onTurn
  | opening result => exact h.onOpening result
  | leased id fault => exact h.onLeased id fault
  | giveUp id => exact h.sheds (sheds_onGiveUp d id) rfl
  | close => simp [Event.isUse] at huse
  | shutDown pool => exact h.sheds (sheds_onShutDown d pool) rfl
  | release =>
    rw [Desk.step]
    cases d.leases with
    | zero => exact h
    | succ leases => exact { h with }
  | dropLease | dropUnit | pin => exact { h with }

theorem onePool_run (h : d.OnePool) {events : List Event}
    (huse : ∀ event ∈ events, event.isUse = true) : (d.run events).OnePool := by
  induction events generalizing d with
  | nil => exact h
  | cons event events ih =>
    rw [List.forall_mem_cons] at huse
    exact ih (h.step huse.1) huse.2

/-- A pool that is in use stays in use. -/
theorem OnePool.slot_step (h : d.OnePool) {event : Event} (huse : event.isUse = true)
    (hslot : d.provider.slot = some pool) : (d.step event).1.provider.slot = some pool := by
  have hnext : (d.step event).1.OnePool := h.step huse
  obtain ⟨hfirst, hcreated⟩ : d.provider.slot = some 1 ∧ d.provider.poolsCreated = 1 :=
    h.pools.resolve_left (by simp [hslot])
  have hmoves := moves_step d event
  generalize (d.step event).1 = d' at hnext hmoves ⊢
  cases hmoves with
  | shed hsheds | refuse hsheds | turn hsheds | lend hsheds => exact hsheds.slot.trans hslot
  | queue => exact hslot
  | know hsheds call => exact (slot_goOn _ call _).trans (hsheds.slot.trans hslot)
  | use hopening =>
    have hnone : d.provider.slot = none := h.opening (by simp [hopening])
    simp [hslot] at hnone
  | replace =>
    have hsecond : some d.provider.nextPool = some 1 := by
      rcases hnext.pools with ⟨hnone, -⟩ | ⟨hsome, -⟩
      · exact nomatch hnone
      · exact hsome
    simp [ConnectionProvider.nextPool, hcreated] at hsecond
  | close => exact nomatch hnext.closed

theorem OnePool.slot_run (h : d.OnePool) {events : List Event}
    (huse : ∀ event ∈ events, event.isUse = true) (hslot : d.provider.slot = some pool) :
    (d.run events).provider.slot = some pool := by
  induction events generalizing d with
  | nil => exact hslot
  | cons event events ih =>
    rw [List.forall_mem_cons] at huse
    exact ih (h.step huse.1) huse.2 (h.slot_step huse.1 hslot)

/-! ## Openings that come to nothing -/

/-- What brings the opening of a pool by a call to nothing. -/
inductive Fails (call : CallId) : Event → Prop where
  | failed (fault : DatabaseFault) : Fails call (.opening (.failed fault))
  | overdue : Fails call (.opening .overdue)
  | givenUp : Fails call (.giveUp call)

/-- The desk of an opening that came to nothing is the desk before it, less the call. -/
theorem standsAsBefore_of_fails (h : d.IsNumbered) {options : ConnectOptions}
    (hopening : d.opening = some (call, options)) {event : Event} (hfails : Fails call.id event) :
    (d.step event).1.provider = d.provider ∧ (d.step event).1.opening = none ∧
      (d.step event).1.queue = d.queue := by
  cases hfails with
  | failed fault | overdue =>
    rw [step, onOpening, hopening]
    exact ⟨rfl, rfl, rfl⟩
  | givenUp =>
    refine ⟨rfl, ?_, ?_⟩
    · simp [step, onGiveUp, hopening]
    · rw [step, onGiveUp, List.filter_eq_self]
      intro other hother
      simpa using h.ne_opening hopening other hother

/-- Where there is no pool, the first of the queue opens one. -/
theorem onTurn_first (hfree : d.opening = none) {rest : List Call} (hqueue : d.queue = call :: rest)
    (hslot : d.provider.slot = none) (hwants : call.Wants) :
    d.onTurn = { d with queue := rest, opening := some (call, d.provider.options) } := by
  obtain ⟨w, hw⟩ := hwants
  simp only [onTurn, hfree, hqueue, hw, hslot]

/-- What a provider that is only used comes to. -/
structure OpensOnce (d : Desk) : Prop where
  created : d.provider.poolsCreated ≤ 1
  /-- Whoever got something got it of the pool in use. -/
  granted : ∀ id grant, (id, .ok grant) ∈ d.ended → d.provider.slot = some grant.poolId
  /-- So does whoever knows a pool and waits for a connection of it. -/
  leasing : ∀ entry ∈ d.leasing, d.provider.slot = some entry.2
  /-- An opening that comes to nothing changes no more than that the next call can open a pool. -/
  again : ∀ call options event, d.opening = some (call, options) → Fails call.id event →
    (d.step event).1.provider = d.provider ∧ (d.step event).1.queue = d.queue ∧
      ∀ next rest, d.queue = next :: rest →
        ((d.step event).1.step .turn).1.opening = some (next, d.provider.options) ∧
          ((d.step event).1.step .turn).1.queue = rest
  /-- Once there is a pool, it stays in use and nobody opens another. -/
  once : ∀ pool, d.provider.slot = some pool → ∀ more : List Event,
    (∀ event ∈ more, event.isUse = true) →
      (d.run more).provider.slot = some pool ∧ (d.run more).opening = none

/-- However many calls ask a new provider for its pool, for connections and for units of work,
whoever gets a turn when, and whatever comes of the openings: one pool is opened at most. -/
theorem opens_once {c : StoreConfig} {provider : ConnectionProvider}
    (hprovider : ConnectionProvider.ofConfig c = .ok provider) {events : List Event}
    (huse : ∀ event ∈ events, event.isUse = true) :
    ((ofProvider provider).run events).OpensOnce := by
  have hpool : ((ofProvider provider).run events).OnePool :=
    onePool_run (onePool_ofConfig hprovider) huse
  have hnumbered : ((ofProvider provider).run events).IsNumbered :=
    isNumbered_run (isNumbered_ofProvider provider) events
  generalize (ofProvider provider).run events = d at hpool hnumbered
  refine ⟨?_, hpool.granted, hpool.leasing, ?_, ?_⟩
  · rcases hpool.pools with ⟨-, hcreated⟩ | ⟨-, hcreated⟩ <;> omega
  · intro call options event hopening hfails
    obtain ⟨hprovider, hfree, hqueue⟩ := standsAsBefore_of_fails hnumbered hopening hfails
    refine ⟨hprovider, hqueue, fun next rest hnext => ?_⟩
    have hslot : d.provider.slot = none := hpool.opening (by simp [hopening])
    have hwants : next.Wants := hpool.wants next (by simp [atDoor, hnext])
    rw [← hprovider] at hslot ⊢
    rw [step, onTurn_first hfree (hqueue.trans hnext) hslot hwants]
    exact ⟨rfl, rfl⟩
  · intro pool hslot more hmore
    have hlater : (d.run more).provider.slot = some pool := hpool.slot_run hmore hslot
    refine ⟨hlater, ?_⟩
    by_cases hopening : (d.run more).opening = none
    · exact hopening
    · have hnone := (onePool_run hpool hmore).opening hopening
      simp [hlater] at hnone

/-- A connection, the pool and a unit of work are asked for.  The first opening takes too long, the
second is given up, and the third serves a call that came late as well. -/
theorem opens_once_thirdTry :
    ∃ provider, ConnectionProvider.ofConfig (.ofHost "db" "main" "docs") = .ok provider ∧
      let d := (ofProvider provider).run [.ask .lease, .ask .pool, .ask .unit, .turn,
        .opening .overdue, .turn, .giveUp 1, .turn, .opening .opened, .ask .pool,
        .leased 2 none]
      d.ended = [(0, .error provider.overdue), (3, .ok (.pool 1)), (2, .ok (.unit 1 1))] ∧
        d.OpensOnce := by
  refine ⟨_, rfl, rfl, opens_once (c := .ofHost "db" "main" "docs") rfl ?_⟩
  decide

end Desk

end DocStore.Pool
