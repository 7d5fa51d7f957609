import DocStore.Proofs.Pool.Opening

/-!
# A desk without one of its calls

What a desk has of a call (`Desk.trace`) and what it has besides (`Desk.without`).  An event
is of the call if it is about nothing but the call where it stands (`Desk.isOf`): it has its
turn, its opening ends, it is given up.  While it opens a pool, a turn comes to nothing, and is
of the call as well.

All other events go by the call: they leave the trace as it is, and do to the rest what they
would do if the call had not been made (`step_of_other`).  What the calls are numbered by makes
no difference to that (`run_later`).
-/

namespace DocStore.Pool

/-- The event is a new call. -/
def Event.isCall : Event → Bool
  | ask _ | replace _ => true
  | _ => false

namespace Desk

variable {d : Desk} {c : CallId}

/-- The desk as it would be if a call had not been made, its number being left out. -/
def without (c : CallId) (d : Desk) : Desk :=
  { d with
    queue := d.queue.filter (·.id ≠ c)
    opening := d.opening.filter (·.1.id ≠ c)
    leasing := d.leasing.filter (·.1.id ≠ c)
    ended := d.ended.filter (·.1 ≠ c) }

/-- What a desk has of a call. -/
structure Trace where
  queue : List Call
  opening : Option (Call × ConnectOptions)
  leasing : List (Call × PoolId)
  ended : List (CallId × Except StoreError Grant)

def trace (c : CallId) (d : Desk) : Trace where
  queue := d.queue.filter (·.id = c)
  opening := d.opening.filter (·.1.id = c)
  leasing := d.leasing.filter (·.1.id = c)
  ended := d.ended.filter (·.1 = c)

/-- The event is about nothing but the call. -/
def isOf (c : CallId) (d : Desk) : Event → Bool
  | .turn =>
      match d.opening with
      | some (call, _) => call.id = c
      | none => d.queue.head?.any (·.id = c)
  | .opening _ => d.opening.any (·.1.id = c)
  | .leased id _ | .giveUp id => id = c
  | _ => false

/-- The events that are not about the call. -/
def others (c : CallId) : Desk → List Event → List Event
  | _, [] => []
  | d, event :: events =>
      let rest := others c (d.step event).1 events
      if d.isOf c event then rest else event :: rest

/-! ## Steps of other calls -/

section Other

variable {call : Call} {id : CallId}

theorem without_finish (h : id ≠ c) (d : Desk) (result : Except StoreError Grant) :
    (d.finish id result).without c = (d.without c).finish id result := by
  simp [finish, without, List.filter_append, h]

theorem without_finish_self (d : Desk) (result : Except StoreError Grant) :
    (d.finish c result).without c = d.without c := by
  simp [finish, without, List.filter_append]

theorem without_goOn (h : call.id ≠ c) (d : Desk) (pool : PoolId) :
    (d.goOn call pool).without c = (d.without c).goOn call pool := by
  rw [goOn, goOn]
  split
  · exact without_finish h d _
  · simp [without, List.filter_append, h]

theorem without_enqueue (h : call.id ≠ c) (d : Desk) :
    (d.enqueue call).without c = (d.without c).enqueue call := by
  simp [enqueue, without, List.filter_append, h]

theorem trace_finish (h : id ≠ c) (d : Desk) (result : Except StoreError Grant) :
    (d.finish id result).trace c = d.trace c := by
  simp [finish, trace, List.filter_append, h]

theorem trace_goOn (h : call.id ≠ c) (d : Desk) (pool : PoolId) :
    (d.goOn call pool).trace c = d.trace c := by
  rw [goOn]
  split
  · exact trace_finish h d _
  · simp [trace, List.filter_append, h]

theorem trace_enqueue (h : call.id ≠ c) (d : Desk) : (d.enqueue call).trace c = d.trace c := by
  simp [enqueue, trace, List.filter_append, h]

/-- A new call is another one. -/
theorem without_onAsk (hother : d.calls ≠ c) (w : Want) :
    (d.onAsk w).without c = (d.without c).onAsk w := by
  by_cases hclosed : d.provider.closed
  · simp only [onAsk, newCall, without, hclosed, if_true]
    exact without_finish hother { d with calls := d.calls + 1 } _
  · simp only [onAsk, newCall, without, hclosed, Bool.false_eq_true, if_false]
    cases d.provider.slot with
    | some pool => exact without_goOn hother { d with calls := d.calls + 1 } pool
    | none => exact without_enqueue hother { d with calls := d.calls + 1 }

theorem trace_onAsk (hother : d.calls ≠ c) (w : Want) : (d.onAsk w).trace c = d.trace c := by
  by_cases hclosed : d.provider.closed
  · simp only [onAsk, newCall, hclosed, if_true]
    exact trace_finish hother { d with calls := d.calls + 1 } _
  · simp only [onAsk, newCall, hclosed, Bool.false_eq_true, if_false]
    cases d.provider.slot with
    | some pool => exact trace_goOn hother { d with calls := d.calls + 1 } pool
    | none => exact trace_enqueue hother { d with calls := d.calls + 1 }

theorem without_onReplace (hother : d.calls ≠ c) (url : String) :
    (d.onReplace url).without c = (d.without c).onReplace url := by
  simp only [onReplace, newCall, without]
  cases d.provider.optionsOf url with
  | error e => exact without_finish hother { d with calls := d.calls + 1 } _
  | ok options => exact without_enqueue hother { d with calls := d.calls + 1 }

theorem trace_onReplace (hother : d.calls ≠ c) (url : String) :
    (d.onReplace url).trace c = d.trace c := by
  simp only [onReplace, newCall]
  cases d.provider.optionsOf url with
  | error e => exact trace_finish hother { d with calls := d.calls + 1 } _
  | ok options => exact trace_enqueue hother { d with calls := d.calls + 1 }

/-- Another call has its turn, or nobody has. -/
theorem onTurn_of_other (h : d.isOf c .turn = false) :
    d.onTurn.without c = (d.without c).onTurn ∧ d.onTurn.trace c = d.trace c := by
  simp only [onTurn, without]
  cases hopening : d.opening with
  | some entry =>
    have hother : entry.1.id ≠ c := by simpa [isOf, hopening] using h
    simp [trace, hopening, hother, Option.filter_some]
  | none =>
    cases hqueue : d.queue with
    | nil => simp [trace, hopening, hqueue]
    | cons call rest =>
      have hother : call.id ≠ c := by simpa [isOf, hopening, hqueue] using h
      have hrest : trace c { d with queue := rest, opening := none } = d.trace c := by
        simp [trace, hqueue, hopening, hother]
      simp only [Option.filter_none, List.filter_cons, hother, ne_eq, not_false_eq_true,
        decide_true, if_true]
      split
      · exact ⟨by simp [Option.filter_some, hother], by simp [trace, hqueue, hopening, hother]⟩
      · exact ⟨without_goOn hother { d with queue := rest, opening := none } _,
          (trace_goOn hother { d with queue := rest, opening := none } _).trans hrest⟩
      · exact ⟨by simp [Option.filter_some, hother], by simp [trace, hqueue, hopening, hother]⟩

/-- The opening of another call ends. -/
theorem onOpening_of_other {result : Opening} (h : d.isOf c (.opening result) = false) :
    (d.onOpening result).1.without c = ((d.without c).onOpening result).1 ∧
      (d.onOpening result).1.trace c = d.trace c := by
  simp only [onOpening, without]
  cases hopening : d.opening with
  | none => simp [trace, hopening]
  | some entry =>
    obtain ⟨call, options⟩ := entry
    have hother : call.id ≠ c := by simpa [isOf, hopening] using h
    have hfree : trace c { d with opening := none } = d.trace c := by
      simp [trace, hopening, Option.filter_some, hother]
    simp only [Option.filter_some, hother, ne_eq, not_false_eq_true, decide_true, if_true]
    cases result with
    | failed fault | overdue =>
      exact ⟨without_finish hother { d with opening := none } _,
        (trace_finish hother { d with opening := none } _).trans hfree⟩
    | opened =>
      cases call.errand with
      | want w =>
        exact ⟨without_goOn hother { d with opening := none, provider := d.provider.useNext } _,
          (trace_goOn hother { d with opening := none, provider := d.provider.useNext } _).trans
            hfree⟩
      | replace options' =>
        let replaced : Desk := { d with
          opening := none
          provider := d.provider.replaceBy options
          retired := d.retired ++ d.provider.slot.toList }
        exact ⟨without_finish hother replaced _, (trace_finish hother replaced _).trans hfree⟩

/-- Filtering by what a call is not, and by what another is. -/
theorem filter_ne_comm {α : Type} (xs : List α) (f : α → CallId) :
    (xs.filter (f · ≠ id)).filter (f · ≠ c) = (xs.filter (f · ≠ c)).filter (f · ≠ id) := by
  rw [List.filter_filter, List.filter_filter]
  simp only [Bool.and_comm]

theorem filter_ne_eq {α : Type} (h : id ≠ c) (xs : List α) (f : α → CallId) :
    (xs.filter (f · ≠ id)).filter (f · = c) = xs.filter (f · = c) := by
  rw [List.filter_filter]
  refine List.filter_congr fun x _ => ?_
  by_cases hx : f x = c
  · simp [hx, h.symm]
  · simp [hx]

/-- Another call gets a connection, or a fault. -/
theorem onLeased_of_other (h : id ≠ c) (fault : Option DatabaseFault) :
    (d.onLeased id fault).1.without c = ((d.without c).onLeased id fault).1 ∧
      (d.onLeased id fault).1.trace c = d.trace c := by
  have hfind : (d.without c).leasing.find? (·.1.id = id) = d.leasing.find? (·.1.id = id) := by
    rw [without, List.find?_filter]
    refine congrArg (d.leasing.find? ·) (funext fun entry => ?_)
    by_cases hentry : entry.1.id = id
    · simp [hentry, h]
    · simp [hentry]
  let rest : Desk := { d with leasing := d.leasing.filter (·.1.id ≠ id) }
  have hrest : rest.without c = { d.without c with
      leasing := (d.without c).leasing.filter (·.1.id ≠ id) } := by
    simp only [rest, without, filter_ne_comm]
  have hkept : rest.trace c = d.trace c := by simp only [rest, trace, filter_ne_eq h]
  simp only [onLeased, hfind]
  cases d.leasing.find? (·.1.id = id) with
  | none => exact ⟨rfl, rfl⟩
  | some entry =>
    obtain ⟨⟨_, errand⟩, pool⟩ := entry
    have hdown : (d.without c).down = d.down := rfl
    simp only [hdown]
    generalize (if d.down.contains pool then some .poolClosed else fault) = fault'
    -- Whatever else is written down about the end of the call.
    have hends : ∀ (write : Desk → Desk) (result : Except StoreError Grant),
        (∀ d', without c (write d') = write (without c d') ∧ trace c (write d') = trace c d') →
        without c ((write rest).finish id result) = (write { d.without c with
          leasing := (d.without c).leasing.filter (·.1.id ≠ id) }).finish id result ∧
        trace c ((write rest).finish id result) = trace c d := by
      intro write result hwrite
      rw [without_finish h, trace_finish h, (hwrite rest).1, (hwrite rest).2, hrest]
      exact ⟨rfl, hkept⟩
    let lent (d' : Desk) : Desk := { d' with provider := d.provider.lend, leases := d.leases + 1 }
    cases fault' with
    | some fault' => exact hends (fun d' => d') _ fun d' => ⟨rfl, rfl⟩
    | none =>
      cases errand with
      | want w =>
        cases w with
        | unit =>
          exact hends
            (fun d' => { d' with provider := d.provider.lendUnit, units := d.units + 1 }) _
            fun d' => ⟨rfl, rfl⟩
        | pool | lease => exact hends lent _ fun d' => ⟨rfl, rfl⟩
      | replace options => exact hends lent _ fun d' => ⟨rfl, rfl⟩

/-- Another call is given up. -/
theorem onGiveUp_of_other (h : id ≠ c) :
    (d.onGiveUp id).without c = (d.without c).onGiveUp id ∧
      (d.onGiveUp id).trace c = d.trace c := by
  have hopening : (d.opening.filter (·.1.id ≠ id)).filter (·.1.id ≠ c) =
      (d.opening.filter (·.1.id ≠ c)).filter (·.1.id ≠ id) := by
    rw [Option.filter_filter, Option.filter_filter]
    simp only [Bool.and_comm]
  have hkept : (d.opening.filter (·.1.id ≠ id)).filter (·.1.id = c) =
      d.opening.filter (·.1.id = c) := by
    cases d.opening with
    | none => rfl
    | some entry =>
      by_cases hentry : entry.1.id = id
      · simp [Option.filter_some, hentry, h]
      · simp [Option.filter_some, hentry]
  constructor
  · simp only [onGiveUp, without, filter_ne_comm, hopening]
  · simp only [onGiveUp, trace, filter_ne_eq h, hkept]

end Other

theorem calls_step (d : Desk) (event : Event) :
    (d.step event).1.calls = d.calls + if event.isCall then 1 else 0 := by
  cases event with
  | ask w =>
    by_cases hclosed : d.provider.closed
    · simp only [step, onAsk, newCall, hclosed, if_true]
      rfl
    · simp only [step, onAsk, newCall, hclosed, Bool.false_eq_true, if_false]
      cases d.provider.slot with
      | some pool => exact calls_goOn _ _ _
      | none => rfl
  | replace url =>
    simp only [step, onReplace, newCall]
    split <;> rfl
  | turn =>
    simp only [step, onTurn]
    split
    · split
      · rfl
      · exact calls_goOn _ _ _
      · rfl
    · rfl
  | opening result =>
    simp only [step, onOpening]
    split
    · rfl
    · next call options _ =>
      cases result with
      | failed fault | overdue => rfl
      | opened =>
        cases call.errand with
        | want w => exact calls_goOn _ _ _
        | replace options' => rfl
  | leased id fault =>
    simp only [step, onLeased]
    split
    · rfl
    · split
      · rfl
      · split <;> rfl
  | release =>
    rw [step]
    cases d.leases <;> rfl
  | giveUp id | close | shutDown pool | dropLease | dropUnit | pin => rfl

/-- An event that is not about the call goes by it. -/
theorem step_of_other {event : Event} (hnew : event.isCall = true → d.calls ≠ c)
    (h : d.isOf c event = false) :
    (d.step event).1.without c = ((d.without c).step event).1 ∧
      (d.step event).1.trace c = d.trace c := by
  cases event with
  | ask w => exact ⟨without_onAsk (hnew rfl) w, trace_onAsk (hnew rfl) w⟩
  | replace url => exact ⟨without_onReplace (hnew rfl) url, trace_onReplace (hnew rfl) url⟩
  | turn => exact onTurn_of_other h
  | opening result => exact onOpening_of_other h
  | leased id fault => exact onLeased_of_other (by simpa [isOf] using h) fault
  | giveUp id => exact onGiveUp_of_other (by simpa [isOf] using h)
  | release => cases hleases : d.leases <;> simp [step, without, trace, hleases]
  | close | shutDown pool | dropLease | dropUnit | pin => exact ⟨rfl, rfl⟩

end Desk

/-! ## Numbers of calls -/

/-- The number of a call if one more call had been made, with the number `c`. -/
def later (c id : Nat) : Nat := if id < c then id else id + 1

/-- The number of a call if the call with the number `c` had not been made. -/
def earlier (c id : Nat) : Nat := if id < c then id else id - 1

theorem later_earlier {c id : Nat} (h : id ≠ c) : later c (earlier c id) = id := by
  by_cases hlt : id < c
  · simp only [later, earlier, hlt, if_true]
  · have hnot : ¬ id - 1 < c := by omega
    simp only [later, earlier, hlt, hnot, if_false]
    omega

theorem later_inj {c id other : Nat} : later c id = later c other ↔ id = other := by
  by_cases hlt : id < c <;> by_cases hlt' : other < c <;> simp only [later, hlt, hlt', if_true,
    if_false] <;> omega

theorem later_of_lt {c id : Nat} (h : id < c) : later c id = id := if_pos h

theorem later_of_le {c id : Nat} (h : c ≤ id) : later c id = id + 1 := if_neg (Nat.not_lt.2 h)

def Call.later (c : CallId) (call : Call) : Call := { call with id := Pool.later c call.id }

/-- The event with other numbers. -/
def Event.renumbered (f : CallId → CallId) : Event → Event
  | leased id fault => leased (f id) fault
  | giveUp id => giveUp (f id)
  | event => event

namespace Desk

/-- The desk if one more call had been made and was given up, with the number `c`. -/
def later (c : CallId) (d : Desk) : Desk :=
  { d with
    calls := d.calls + 1
    queue := d.queue.map (Call.later c)
    opening := d.opening.map fun entry => (entry.1.later c, entry.2)
    leasing := d.leasing.map fun entry => (entry.1.later c, entry.2)
    ended := d.ended.map fun entry => (Pool.later c entry.1, entry.2) }

variable {d : Desk} {c : CallId}

theorem later_finish (d : Desk) (id : CallId) (result : Except StoreError Grant) :
    (d.finish id result).later c = (d.later c).finish (Pool.later c id) result := by
  simp [finish, later]

theorem later_goOn (d : Desk) (call : Call) (pool : PoolId) :
    (d.goOn call pool).later c = (d.later c).goOn (call.later c) pool := by
  have herrand : (call.later c).errand = call.errand := rfl
  rw [goOn, goOn, herrand]
  split
  · exact later_finish d call.id _
  · simp [later]

theorem later_enqueue (d : Desk) (call : Call) :
    (d.enqueue call).later c = (d.later c).enqueue (call.later c) := by
  simp [enqueue, later]

/-- A call that is made behind the one with the number `c`. -/
theorem newCall_later (h : c ≤ d.calls) (errand : Errand) :
    (d.later c).newCall errand = ((d.newCall errand).1.later c, (d.newCall errand).2.later c) := by
  have hid : Pool.later c d.calls = d.calls + 1 := later_of_le h
  simp only [newCall, later, Call.later, hid]

theorem onAsk_later (h : c ≤ d.calls) (w : Want) : (d.later c).onAsk w = (d.onAsk w).later c := by
  have hprovider : ((d.newCall (.want w)).2.later c).provider = d.provider := rfl
  have hprovider' : (d.newCall (.want w)).2.provider = d.provider := rfl
  rw [onAsk, newCall_later h, onAsk]
  dsimp only
  rw [hprovider, hprovider']
  by_cases hclosed : d.provider.closed
  · simp only [hclosed, if_true]
    exact (later_finish _ _ _).symm
  · simp only [hclosed, Bool.false_eq_true, if_false]
    cases d.provider.slot with
    | some pool => exact (later_goOn _ _ pool).symm
    | none => exact (later_enqueue _ _).symm

theorem onReplace_later (h : c ≤ d.calls) (url : String) :
    (d.later c).onReplace url = (d.onReplace url).later c := by
  have hprovider : (d.later c).provider = d.provider := rfl
  have hid : (d.later c).calls = Pool.later c d.calls := (later_of_le h).symm
  simp only [onReplace, hprovider, newCall_later h]
  cases d.provider.optionsOf url with
  | error e =>
    let counted : Desk := { d with calls := d.calls + 1 }
    exact (congrArg ((counted.later c).finish · (.error e)) hid).trans
      (later_finish counted d.calls (.error e)).symm
  | ok options => exact (later_enqueue _ _).symm

theorem onTurn_later (c : CallId) (d : Desk) : (d.later c).onTurn = d.onTurn.later c := by
  cases hopening : d.opening with
  | some entry =>
    have hlater : (d.later c).opening = some (entry.1.later c, entry.2) := by
      simp [later, hopening]
    simp only [onTurn, hopening, hlater]
  | none =>
    have hfree : (d.later c).opening = none := by simp [later, hopening]
    cases hqueue : d.queue with
    | nil =>
      have hnobody : (d.later c).queue = [] := by simp [later, hqueue]
      simp only [onTurn, hopening, hqueue, hfree, hnobody]
    | cons call rest =>
      have hfirst : (d.later c).queue = call.later c :: rest.map (Call.later c) := by
        simp [later, hqueue]
      have herrand : (call.later c).errand = call.errand := rfl
      have hprovider : (d.later c).provider = d.provider := rfl
      simp only [onTurn, hopening, hqueue, hfree, hfirst, herrand, hprovider]
      split
      · simp [later]
      · rw [later_goOn]
        simp [later, hopening]
      · simp [later]

theorem onOpening_later (c : CallId) (d : Desk) (result : Opening) :
    ((d.later c).onOpening result).1 = (d.onOpening result).1.later c := by
  cases hopening : d.opening with
  | none =>
    have hfree : (d.later c).opening = none := by simp [later, hopening]
    simp only [onOpening, hopening, hfree]
  | some entry =>
    obtain ⟨call, options⟩ := entry
    have hlater : (d.later c).opening = some (call.later c, options) := by simp [later, hopening]
    have herrand : (call.later c).errand = call.errand := rfl
    simp only [onOpening, hopening, hlater, herrand]
    cases result with
    | failed fault | overdue =>
      rw [later_finish]
      simp [later, Call.later]
    | opened =>
      cases call.errand with
      | want w =>
        dsimp only
        rw [later_goOn]
        simp [later]
      | replace options' =>
        dsimp only
        rw [later_finish]
        simp [later, Call.later]

theorem filter_map_later {α : Type} (xs : List α) (f : α → α) (id : α → CallId)
    (hf : ∀ x, id (f x) = Pool.later c (id x)) (other : CallId) :
    (xs.map f).filter (id · ≠ Pool.later c other) = (xs.filter (id · ≠ other)).map f := by
  rw [List.filter_map]
  refine congrArg (List.map f) (List.filter_congr fun x _ => ?_)
  simp [hf, later_inj]

theorem onLeased_later (c : CallId) (d : Desk) (id : CallId) (fault : Option DatabaseFault) :
    ((d.later c).onLeased (Pool.later c id) fault).1 = (d.onLeased id fault).1.later c := by
  have hfind : (d.later c).leasing.find? (·.1.id = Pool.later c id) =
      (d.leasing.find? (·.1.id = id)).map fun entry => (entry.1.later c, entry.2) := by
    rw [later, List.find?_map]
    refine congrArg (Option.map _) (congrArg (d.leasing.find? ·) (funext fun entry => ?_))
    simp [Call.later, later_inj]
  have hrest : (d.later c).leasing.filter (·.1.id ≠ Pool.later c id) =
      (d.leasing.filter (·.1.id ≠ id)).map fun entry => (entry.1.later c, entry.2) :=
    filter_map_later d.leasing _ (·.1.id) (fun _ => rfl) id
  have hdown : (d.later c).down = d.down := rfl
  simp only [onLeased, hfind, hrest, hdown]
  cases d.leasing.find? (·.1.id = id) with
  | none => rfl
  | some entry =>
    obtain ⟨call, pool⟩ := entry
    have herrand : (call.later c).errand = call.errand := rfl
    simp only [Option.map_some, herrand]
    generalize (if d.down.contains pool then some .poolClosed else fault) = fault'
    cases fault' with
    | some fault' =>
      rw [later_finish]
      simp [later]
    | none =>
      dsimp only
      split
      · rw [later_finish]
        simp [later]
      · rw [later_finish]
        simp [later]

theorem onGiveUp_later (c : CallId) (d : Desk) (id : CallId) :
    (d.later c).onGiveUp (Pool.later c id) = (d.onGiveUp id).later c := by
  have hopening : (d.later c).opening.filter (·.1.id ≠ Pool.later c id) =
      (d.opening.filter (·.1.id ≠ id)).map fun entry => (entry.1.later c, entry.2) := by
    cases hentry : d.opening with
    | none => simp [later, hentry]
    | some entry =>
      by_cases hid : entry.1.id = id
      · simp [later, hentry, Option.filter_some, Call.later, hid]
      · simp [later, hentry, Option.filter_some, Call.later, hid, later_inj]
  have hqueue := filter_map_later d.queue (Call.later c) Call.id (fun _ => rfl) id
  have hleasing := filter_map_later d.leasing (fun entry => (entry.1.later c, entry.2)) (·.1.id)
    (fun _ => rfl) id
  rw [onGiveUp, hopening]
  simp only [later, onGiveUp, hqueue, hleasing]

/-- Every step does the same with the other numbers. -/
theorem step_later (h : c ≤ d.calls) (event : Event) :
    ((d.later c).step (event.renumbered (Pool.later c))).1 = (d.step event).1.later c := by
  cases event with
  | ask w => exact onAsk_later h w
  | replace url => exact onReplace_later h url
  | turn => exact onTurn_later c d
  | opening result => exact onOpening_later c d result
  | leased id fault => exact onLeased_later c d id fault
  | giveUp id => exact onGiveUp_later c d id
  | release => cases hleases : d.leases <;> simp [step, later, hleases, Event.renumbered]
  | close | shutDown pool | dropLease | dropUnit | pin => rfl

theorem run_later (h : c ≤ d.calls) (events : List Event) :
    (d.later c).run (events.map (Event.renumbered (Pool.later c))) = (d.run events).later c := by
  induction events generalizing d with
  | nil => rfl
  | cons event events ih =>
    rw [List.map_cons, run_cons, step_later h, run_cons]
    exact ih (Nat.le_trans h (by rw [calls_step]; exact Nat.le_add_right _ _))

/-- What is not about the call, with the numbers that there would be if it had not been made. -/
def eventsWithout (c : CallId) (d : Desk) (events : List Event) : List Event :=
  (d.others c events).map (Event.renumbered (earlier c))

/-- No event that is not about the call has its number. -/
theorem map_eventsWithout (c : CallId) (d : Desk) (events : List Event) :
    (d.eventsWithout c events).map (Event.renumbered (Pool.later c)) = d.others c events := by
  induction events generalizing d with
  | nil => rfl
  | cons event events ih =>
    cases hown : d.isOf c event with
    | true =>
      rw [eventsWithout, others, if_pos hown]
      exact ih (d.step event).1
    | false =>
      have hback : (event.renumbered (earlier c)).renumbered (Pool.later c) = event := by
        cases event with
        | leased id fault =>
          have hother : id ≠ c := by simpa [isOf] using hown
          simp [Event.renumbered, later_earlier hother]
        | giveUp id =>
          have hother : id ≠ c := by simpa [isOf] using hown
          simp [Event.renumbered, later_earlier hother]
        | _ => rfl
      rw [eventsWithout, others, hown, if_neg Bool.false_ne_true, List.map_cons, List.map_cons,
        hback]
      exact congrArg (event :: ·) (ih (d.step event).1)

theorem lookup_eq_head?_filter {α : Type} (xs : List (CallId × α)) (c : CallId) :
    xs.lookup c = (xs.filter (·.1 = c)).head?.map Prod.snd := by
  induction xs with
  | nil => rfl
  | cons x xs ih =>
    rw [List.lookup_cons, ih, List.filter_cons]
    by_cases hx : x.1 = c
    · simp [hx]
    · have hother : (c == x.1) = false := beq_eq_false_iff_ne.2 (Ne.symm hx)
      simp [hx, hother]

/-- Another call ended with what it ends with where the call is left out. -/
theorem result?_without {id : CallId} (h : id ≠ c) (d : Desk) :
    (d.without c).result? id = d.result? id := by
  rw [result?, result?, lookup_eq_head?_filter, lookup_eq_head?_filter, without,
    List.filter_filter]
  refine congrArg (fun ended => Option.map Prod.snd (List.head? ended))
    (List.filter_congr fun entry _ => ?_)
  by_cases hentry : entry.1 = id
  · simp [hentry, h]
  · simp [hentry]

theorem result?_later (c : CallId) (d : Desk) (id : CallId) :
    (d.later c).result? (Pool.later c id) = d.result? id := by
  rw [result?, result?, lookup_eq_head?_filter, lookup_eq_head?_filter, later, List.filter_map,
    List.head?_map, Option.map_map]
  simp [Function.comp_def, later_inj]

end Desk

end DocStore.Pool
