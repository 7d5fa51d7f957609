import DocStore.Proofs.Pool.Absence
import Mathlib.Data.List.Nodup

/-!
# A new target, all or nothing

A call for a new target queues up, opens a pool, and ends (`Place`).  Only the step in which
its pool was opened changes more than where the call stands (`Goes`): so as long as it has not
come to that, and for good if it never does, the provider and all other calls are as they would
be without it (`run_of_stands`).  In that step everything is replaced at once
(`exists_replaces`), and no pool is handed over for closing twice (`Lined`).

A call that is about to be made is nowhere yet (`IsFresh`): without it the desk is what it is,
and the other events are those of a desk at which it was never made (`Desk.eventsWithout`).
-/

namespace DocStore.Pool

namespace Desk

variable {d d' : Desk} {c : CallId} {options : ConnectOptions}

/-! ## Where the call stands -/

/-- Where a call for a new target stands. -/
inductive Place where
  | queued
  | opens
  /-- It has not ended, and stands nowhere. -/
  | gone
  | ended (result : Except StoreError Grant)

namespace Place

/-- What a desk has of a call in this place. -/
def trace (c : CallId) (options : ConnectOptions) : Place → Trace
  | queued => ⟨[⟨c, .replace options⟩], none, [], []⟩
  | opens => ⟨[], some (⟨c, .replace options⟩, options), [], []⟩
  | gone => ⟨[], none, [], []⟩
  | ended result => ⟨[], none, [], [(c, result)]⟩

/-- Nothing more comes of the call. -/
def isOver : Place → Bool
  | queued | opens => false
  | gone | ended _ => true

def result? : Place → Option (Except StoreError Grant)
  | ended result => some result
  | _ => none

/-- The provider has its new target. -/
def granted : Place → Bool
  | ended (.ok _) => true
  | _ => false

theorem isOver_of_granted {place : Place} (h : place.granted = true) : place.isOver = true := by
  cases place <;> first | rfl | cases h

theorem granted_iff {place : Place} :
    place.granted = true ↔ ∃ grant, place.result? = some (.ok grant) := by
  cases place with
  | ended result => cases result <;> simp [granted, result?]
  | _ => simp [granted, result?]

end Place

/-- A call for a new target with these options stands in this place, and nowhere else. -/
def Stands (d : Desk) (c : CallId) (options : ConnectOptions) (place : Place) : Prop :=
  d.trace c = place.trace c options

namespace Stands

variable {place : Place}

theorem result?_eq (h : d.Stands c options place) : d.result? c = place.result? := by
  have hended : d.ended.filter (·.1 = c) = (place.trace c options).ended :=
    congrArg Trace.ended h
  rw [result?, lookup_eq_head?_filter, hended]
  cases place <;> rfl

theorem unique {place' : Place} (h : d.Stands c options place) (h' : d.Stands c options place') :
    place = place' := by
  have htrace : place.trace c options = place'.trace c options := h.symm.trans h'
  cases place <;> cases place' <;> simp_all [Place.trace]

/-- It waits for no connection. -/
theorem leasing (h : d.Stands c options place) : d.leasing.filter (·.1.id = c) = [] := by
  have hleasing : d.leasing.filter (·.1.id = c) = (place.trace c options).leasing :=
    congrArg Trace.leasing h
  cases place <;> exact hleasing

/-- When nothing more comes of it, it is not at the door. -/
theorem not_at_door (h : d.Stands c options place) (hover : place.isOver = true) :
    ∀ call ∈ d.atDoor, call.id ≠ c := by
  have hqueue : d.queue.filter (·.id = c) = (place.trace c options).queue :=
    congrArg Trace.queue h
  have hopening : d.opening.filter (·.1.id = c) = (place.trace c options).opening :=
    congrArg Trace.opening h
  have hempty : (place.trace c options).queue = [] ∧ (place.trace c options).opening = none := by
    cases place <;> first | exact ⟨rfl, rfl⟩ | cases hover
  rw [hempty.1, List.filter_eq_nil_iff] at hqueue
  rw [hempty.2, Option.filter_eq_none_iff] at hopening
  intro call hcall
  rcases List.mem_append.1 hcall with hcall | hcall
  · simpa using hqueue call hcall
  · obtain ⟨entry, hentry, rfl⟩ := List.mem_map.1 hcall
    simpa using hopening entry (Option.mem_toList.1 hentry)

end Stands

/-! ## Steps of the call -/

/-- The desk when the pool that was opened for a new target comes into use. -/
def replaced (c : CallId) (options : ConnectOptions) (d : Desk) : Desk :=
  { d with
    opening := none
    provider := d.provider.replaceBy options
    retired := d.retired ++ d.provider.slot.toList }.finish c (.ok (.replaced d.provider.nextPool))

/-- What an event of the call comes to. -/
inductive Goes (d : Desk) (c : CallId) (options : ConnectOptions) :
    Event → Place → Desk → Place → Prop where
  /-- It is where it was. -/
  | stays {event : Event} {place : Place} {d' : Desk} (h : d'.without c = d.without c)
      (hstays : event = .giveUp c → place.isOver = true) :
      Goes d c options event place d' place
  | starts {d' : Desk} (h : d'.without c = d.without c) :
      Goes d c options .turn .queued d' .opens
  | fails {event : Event} {d' : Desk} (h : d'.without c = d.without c) (e : StoreError) :
      Goes d c options event .opens d' (.ended (.error e))
  | givenUp {event : Event} {place : Place} {d' : Desk} (h : d'.without c = d.without c)
      (hplace : place.isOver = false) : Goes d c options event place d' .gone
  | replaces (hopening : d.opening = some (⟨c, .replace options⟩, options)) :
      Goes d c options (.opening .opened) .opens (d.replaced c options)
        (.ended (.ok (.replaced d.provider.nextPool)))

theorem onTurn_of_own {place : Place} (h : d.Stands c options place)
    (hown : d.isOf c .turn = true) :
    ∃ place', d.onTurn.Stands c options place' ∧ Goes d c options .turn place d.onTurn place' := by
  cases hopening : d.opening with
  | some entry =>
    -- Its own opening is under way, and nobody else has a turn.
    have hsame : d.onTurn = d := by simp [onTurn, hopening]
    rw [hsame]
    exact ⟨place, h, .stays rfl fun h => by cases h⟩
  | none =>
    cases hqueue : d.queue with
    | nil => simp [isOf, hopening, hqueue] at hown
    | cons call rest =>
      have hcall : call.id = c := by simpa [isOf, hopening, hqueue] using hown
      have hplace : call :: rest.filter (·.id = c) = (place.trace c options).queue := by
        have hfilter : d.queue.filter (·.id = c) = (place.trace c options).queue :=
          congrArg Trace.queue h
        simpa [hqueue, hcall] using hfilter
      cases place with
      | queued =>
        obtain ⟨rfl, hrest⟩ := List.cons.inj hplace
        have hturn : d.onTurn =
            { d with queue := rest, opening := some (⟨c, .replace options⟩, options) } := by
          simp [onTurn, hopening, hqueue]
        have hleasing := h.leasing
        have hended : d.ended.filter (·.1 = c) = [] := congrArg Trace.ended h
        rw [hturn]
        refine ⟨.opens, ?_, .starts ?_⟩
        · simp [Stands, trace, Place.trace, Option.filter_some, hrest, hleasing, hended]
        · simp [without, hopening, hqueue, Option.filter_some]
      | opens | gone | ended => cases hplace

theorem onOpening_of_own {place : Place} {result : Opening} (h : d.Stands c options place)
    (hown : d.isOf c (.opening result) = true) :
    ∃ place', (d.onOpening result).1.Stands c options place' ∧
      Goes d c options (.opening result) place (d.onOpening result).1 place' := by
  cases hopening : d.opening with
  | none => simp [isOf, hopening] at hown
  | some entry =>
    have hcall : entry.1.id = c := by simpa [isOf, hopening] using hown
    have hplace : some entry = (place.trace c options).opening := by
      have hfilter : d.opening.filter (·.1.id = c) = (place.trace c options).opening :=
        congrArg Trace.opening h
      simpa [hopening, Option.filter_some, hcall] using hfilter
    cases place with
    | opens =>
      obtain rfl := Option.some.inj hplace
      have hqueue : d.queue.filter (·.id = c) = [] := congrArg Trace.queue h
      have hleasing := h.leasing
      have hended : d.ended.filter (·.1 = c) = [] := congrArg Trace.ended h
      have hfails : ∀ e, Stands ({ d with opening := none }.finish c (.error e)) c options
          (.ended (.error e)) ∧
          without c ({ d with opening := none }.finish c (.error e)) = d.without c := by
        intro e
        constructor
        · simp [Stands, trace, finish, Place.trace, List.filter_append, hqueue, hleasing, hended]
        · rw [without_finish_self]
          simp [without, hopening, Option.filter_some]
      simp only [onOpening, hopening]
      cases result with
      | failed fault => exact ⟨_, (hfails _).1, .fails (hfails _).2 _⟩
      | overdue => exact ⟨_, (hfails _).1, .fails (hfails _).2 _⟩
      | opened =>
        refine ⟨_, ?_, .replaces hopening⟩
        simp [Stands, trace, finish, Place.trace, List.filter_append, hqueue, hleasing, hended]
    | queued | gone | ended => cases hplace

theorem onGiveUp_of_own {place : Place} (h : d.Stands c options place) :
    ∃ place', (d.onGiveUp c).Stands c options place' ∧
      Goes d c options (.giveUp c) place (d.onGiveUp c) place' := by
  have hwithout : (d.onGiveUp c).without c = d.without c := by
    simp [without, onGiveUp, List.filter_filter, Option.filter_filter]
  have hgone : (d.onGiveUp c).trace c = ⟨[], none, [], d.ended.filter (·.1 = c)⟩ := by
    simp [trace, onGiveUp, List.filter_filter, Option.filter_filter]
  have hended : d.ended.filter (·.1 = c) = (place.trace c options).ended := congrArg Trace.ended h
  rw [hended] at hgone
  by_cases hover : place.isOver = true
  · refine ⟨place, hgone.trans ?_, .stays hwithout fun _ => hover⟩
    cases place <;> first | rfl | cases hover
  · refine ⟨.gone, hgone.trans ?_, .givenUp hwithout (Bool.eq_false_iff.2 hover)⟩
    cases place <;> first | rfl | exact absurd rfl hover

/-- An event of the call takes it from one place to the next. -/
theorem goes_of_own {place : Place} {event : Event} (h : d.Stands c options place)
    (hown : d.isOf c event = true) :
    ∃ place', (d.step event).1.Stands c options place' ∧
      Goes d c options event place (d.step event).1 place' := by
  cases event with
  | turn => exact onTurn_of_own h hown
  | opening result => exact onOpening_of_own h hown
  | giveUp id =>
    obtain rfl : id = c := by simpa [isOf] using hown
    exact onGiveUp_of_own h
  | leased id fault =>
    obtain rfl : id = c := by simpa [isOf] using hown
    have hfind : d.leasing.find? (·.1.id = id) = none := by
      rw [List.find?_eq_none]
      exact List.filter_eq_nil_iff.1 h.leasing
    have hsame : (d.step (.leased id fault)).1 = d := by
      rw [step, onLeased, hfind]
    rw [hsame]
    exact ⟨place, h, .stays rfl fun h => by cases h⟩
  | _ => cases hown

namespace Goes

variable {event : Event} {place place' : Place}

theorem of_isOver (h : Goes d c options event place d' place') (hover : place.isOver = true) :
    place' = place := by
  cases h with
  | stays => rfl
  | givenUp _ hplace => simp [hover] at hplace
  | starts | fails | replaces => cases hover

theorem of_giveUp (h : Goes d c options (.giveUp c) place d' place') : place'.isOver = true := by
  cases h with
  | stays _ hstays => exact hstays rfl
  | fails | givenUp => rfl

/-- Everything but the call is as it was, unless the provider got its new target. -/
theorem without_eq (h : Goes d c options event place d' place') (hnot : place'.granted = false) :
    d'.without c = d.without c := by
  cases h with
  | stays h | starts h | fails h | givenUp h => exact h
  | replaces => cases hnot

end Goes

/-! ## Runs -/

theorem others_of_own {event : Event} (hown : d.isOf c event = true) (events : List Event) :
    d.others c (event :: events) = (d.step event).1.others c events := by
  rw [others, if_pos hown]

theorem others_of_other {event : Event} (hother : d.isOf c event = false) (events : List Event) :
    d.others c (event :: events) = event :: (d.step event).1.others c events := by
  rw [others, hother]
  rfl

theorem made_step (hmade : c < d.calls) (event : Event) : c < (d.step event).1.calls := by
  rw [calls_step]
  exact Nat.lt_add_right _ hmade

/-- Wherever a call for a new target comes to: unless the provider got it, the desk is what it
would be after the other events if the call had not been made. -/
theorem run_of_stands {place : Place} (hmade : c < d.calls) (h : d.Stands c options place)
    (events : List Event) :
    ∃ place', (d.run events).Stands c options place' ∧
      (place.isOver = true → place' = place) ∧
      (.giveUp c ∈ events → place'.isOver = true) ∧
      (place'.granted = false →
        (d.run events).without c = (d.without c).run (d.others c events)) := by
  induction events generalizing d place with
  | nil => exact ⟨place, h, fun _ => rfl, nofun, fun _ => rfl⟩
  | cons event events ih =>
    cases hown : d.isOf c event with
    | true =>
      obtain ⟨between, hbetween, hgoes⟩ := goes_of_own h hown
      obtain ⟨place', hplace', hover, hgiven, hwithout⟩ := ih (made_step hmade event) hbetween
      refine ⟨place', hplace', fun hplace => ?_, fun hmem => ?_, fun hnot => ?_⟩
      · obtain rfl := hgoes.of_isOver hplace
        exact hover hplace
      · rcases List.mem_cons.1 hmem with rfl | hmem
        · have hgone := hgoes.of_giveUp
          rwa [hover hgone]
        · exact hgiven hmem
      · have hbefore : between.granted = false := by
          rw [← Bool.not_eq_true]
          intro hgranted
          rw [hover (Place.isOver_of_granted hgranted), hgranted] at hnot
          cases hnot
        rw [run_cons, hwithout hnot, hgoes.without_eq hbefore, others_of_own hown]
    | false =>
      obtain ⟨hstep, htrace⟩ := step_of_other (fun _ => (Nat.ne_of_lt hmade).symm) hown
      obtain ⟨place', hplace', hover, hgiven, hwithout⟩ :=
        ih (made_step hmade event) (htrace.trans h)
      refine ⟨place', hplace', hover, fun hmem => ?_, fun hnot => ?_⟩
      · rcases List.mem_cons.1 hmem with rfl | hmem
        · simp [isOf] at hown
        · exact hgiven hmem
      · rw [run_cons, hwithout hnot, hstep, others_of_other hown, run_cons]

/-- Between these events the pool that the call opened came into use. -/
structure Replaces (d : Desk) (c : CallId) (options : ConnectOptions) (grant : Grant)
    (events front behind : List Event) : Prop where
  split : events = front ++ .opening .opened :: behind
  opens : (d.run front).Stands c options .opens
  step : ((d.run front).step (.opening .opened)).1 = (d.run front).replaced c options
  grant : grant = .replaced (d.run front).provider.nextPool

theorem Replaces.cons {grant : Grant} {event : Event} {events front behind : List Event}
    (h : Replaces (d.step event).1 c options grant events front behind) :
    Replaces d c options grant (event :: events) (event :: front) behind where
  split := by rw [h.split, List.cons_append]
  opens := h.opens
  step := h.step
  grant := h.grant

/-- A call that got its new target got it in one step, which replaced everything. -/
theorem exists_replaces {place : Place} {events : List Event} {grant : Grant}
    (hmade : c < d.calls) (h : d.Stands c options place) (hnot : place.granted = false)
    (hok : (d.run events).result? c = some (.ok grant)) :
    ∃ front behind, Replaces d c options grant events front behind := by
  induction events generalizing d place with
  | nil =>
    rw [run_nil, h.result?_eq] at hok
    rw [Place.granted_iff.2 ⟨grant, hok⟩] at hnot
    cases hnot
  | cons event events ih =>
    -- The step is the first one, or comes later.
    have hlater : ∀ {between : Place}, (d.step event).1.Stands c options between →
        between.granted = false →
        ∃ front behind, Replaces d c options grant (event :: events) front behind := by
      intro between hbetween hnot'
      obtain ⟨front, behind, hreplaces⟩ := ih (made_step hmade event) hbetween hnot' hok
      exact ⟨event :: front, behind, hreplaces.cons⟩
    cases hown : d.isOf c event with
    | false =>
      obtain ⟨-, htrace⟩ := step_of_other (fun _ => (Nat.ne_of_lt hmade).symm) hown
      exact hlater (htrace.trans h) hnot
    | true =>
      obtain ⟨between, hbetween, hgoes⟩ := goes_of_own h hown
      cases hgranted : between.granted with
      | false => exact hlater hbetween hgranted
      | true =>
        obtain ⟨place', hplace', hover, -⟩ :=
          run_of_stands (made_step hmade event) hbetween events
        obtain rfl := hover (Place.isOver_of_granted hgranted)
        rw [run_cons, hplace'.result?_eq] at hok
        generalize hd' : (d.step event).1 = d' at hgoes
        cases hgoes with
        | stays => rw [hnot] at hgranted; cases hgranted
        | starts | fails | givenUp => cases hgranted
        | replaces => exact ⟨[], events, rfl, h, hd', (Except.ok.inj (Option.some.inj hok)).symm⟩

/-! ## Pools -/

/-- A call for a pool is opening one only while there is none. -/
def OpensFirst (d : Desk) : Prop := ∀ entry ∈ d.opening, entry.1.Wants → d.provider.slot = none

theorem opensFirst_of_none (h : d.opening = none) : d.OpensFirst := by
  intro entry hentry
  rw [h] at hentry
  exact absurd hentry (Option.not_mem_none _)

theorem OpensFirst.sheds (h : d.OpensFirst) (hd' : d.Sheds d') : d'.OpensFirst :=
  fun entry hentry hwants => hd'.slot.trans (h entry (hd'.opening entry hentry) hwants)

theorem OpensFirst.goOn (h : d.OpensFirst) (call : Call) (pool : PoolId) :
    (d.goOn call pool).OpensFirst := by
  rw [Desk.goOn]
  split <;> exact h

theorem OpensFirst.moves (h : d.OpensFirst) (hd' : d.Moves d') : d'.OpensFirst := by
  cases hd' with
  | shed hsheds => exact h.sheds hsheds
  | refuse hsheds id e =>
    have hshed := h.sheds hsheds
    exact hshed
  | lend hsheds _ _ grant =>
    have hshed := h.sheds hsheds
    exact hshed
  | queue call _ => exact h
  | know hsheds call _ _ _ => exact (h.sheds hsheds).goOn call _
  | turn hsheds call options _ hslot =>
    rintro _ ⟨⟩ hwants
    exact hsheds.slot.trans (hslot hwants)
  | use hopening hwants => exact (opensFirst_of_none rfl).goOn _ _
  | replace call options => exact opensFirst_of_none rfl
  | close => exact fun _ _ _ => rfl

/-- The pools that were handed over for closing, and behind them the one in use, are all that were
opened, in this order and each once. -/
def Lined (d : Desk) : Prop :=
  d.retired ++ d.provider.slot.toList = List.range' 1 d.provider.poolsCreated

/-- The pools are those of another desk. -/
structure SamePools (d d' : Desk) : Prop where
  retired : d'.retired = d.retired
  slot : d'.provider.slot = d.provider.slot
  created : d'.provider.poolsCreated = d.provider.poolsCreated

theorem samePools_goOn (d : Desk) (call : Call) (pool : PoolId) :
    SamePools d (d.goOn call pool) := by
  rw [goOn]
  split <;> exact ⟨rfl, rfl, rfl⟩

theorem SamePools.lined (h : SamePools d d') (hd : d.Lined) : d'.Lined := by
  rw [Lined, h.retired, h.slot, h.created]
  exact hd

/-- One more pool is lined up behind the others. -/
theorem Lined.next (h : d.Lined) (hretired : d'.retired = d.retired ++ d.provider.slot.toList)
    (hslot : d'.provider.slot = some d.provider.nextPool)
    (hcreated : d'.provider.poolsCreated = d.provider.nextPool) : d'.Lined := by
  rw [Lined, hretired, hslot, hcreated, ConnectionProvider.nextPool, h, List.range'_1_concat,
    Nat.add_comm]
  rfl

theorem Lined.step (h : d.Lined) (hfirst : d.OpensFirst) (event : Event) :
    (d.step event).1.Lined := by
  cases event with
  | ask w =>
    by_cases hclosed : d.provider.closed
    · simp only [Desk.step, onAsk, newCall, hclosed, if_true]
      exact h
    · simp only [Desk.step, onAsk, newCall, hclosed, Bool.false_eq_true, if_false]
      cases d.provider.slot with
      | some pool => exact (samePools_goOn { d with calls := d.calls + 1 } _ pool).lined h
      | none => exact h
  | replace url =>
    simp only [Desk.step, onReplace, newCall]
    split <;> exact h
  | turn =>
    simp only [Desk.step, onTurn]
    split
    · next call rest _ _ =>
      split
      · exact h
      · exact (samePools_goOn { d with queue := rest } call _).lined h
      · exact h
    · exact h
  | opening result =>
    simp only [Desk.step, onOpening]
    split
    · exact h
    · next call options hopening =>
      cases result with
      | failed fault | overdue => exact h
      | opened =>
        cases herrand : call.errand with
        | want w =>
          -- A pool for the first use is opened where none is in use.
          have hnone : d.provider.slot = none := hfirst _ hopening ⟨w, herrand⟩
          have hused : Lined { d with opening := none, provider := d.provider.useNext } :=
            h.next (by simp [hnone]) rfl rfl
          exact (samePools_goOn { d with opening := none, provider := d.provider.useNext } call
            _).lined hused
        | replace options' => exact h.next rfl rfl rfl
  | leased id fault =>
    simp only [Desk.step, onLeased]
    split
    · exact h
    · split
      · exact h
      · split <;> exact h
  | release =>
    rw [Desk.step]
    cases d.leases <;> exact h
  | close => simpa [Lined, Desk.step, onClose, ConnectionProvider.close] using h
  | giveUp id | shutDown pool | dropLease | dropUnit | pin => exact h

theorem lined_run (h : d.Lined) (hfirst : d.OpensFirst) (events : List Event) :
    (d.run events).Lined := by
  induction events generalizing d with
  | nil => exact h
  | cons event events ih => exact ih (h.step hfirst event) (hfirst.moves (moves_step d event))

theorem lined_ofConfig {config : StoreConfig} {provider : ConnectionProvider}
    (h : ConnectionProvider.ofConfig config = .ok provider) : (ofProvider provider).Lined := by
  obtain ⟨options, -, rfl⟩ := eq_of_ofConfig h
  rfl

/-- No pool is handed over for closing twice, and none that is in use. -/
theorem Lined.nodup (h : d.Lined) : (d.retired ++ d.provider.slot.toList).Nodup :=
  h ▸ List.nodup_range'

theorem Moves.prefix_retired (h : d.Moves d') : d.retired <+: d'.retired := by
  cases h with
  | shed hsheds | refuse hsheds | turn hsheds | lend hsheds =>
    exact hsheds.retired ▸ List.prefix_rfl
  | know hsheds call =>
    simp only [(samePools_goOn _ call _).retired, hsheds.retired, List.prefix_rfl]
  | use => simp only [(samePools_goOn _ _ _).retired, List.prefix_rfl]
  | replace | close => exact List.prefix_append _ _
  | queue => exact List.prefix_rfl

/-- What was handed over for closing stays so. -/
theorem prefix_retired_run (d : Desk) (events : List Event) :
    d.retired <+: (d.run events).retired := by
  induction events generalizing d with
  | nil => exact List.prefix_rfl
  | cons event events ih => exact (moves_step d event).prefix_retired.trans (ih _)

/-! ## The call is made -/

/-- A number that was not given out yet is that of nobody. -/
def IsFresh (d : Desk) : Prop := ∀ c, d.calls ≤ c → ∀ options, d.Stands c options .gone

theorem isFresh_ofProvider (provider : ConnectionProvider) : (ofProvider provider).IsFresh :=
  fun _ _ _ => rfl

theorem IsFresh.step (h : d.IsFresh) (event : Event) : (d.step event).1.IsFresh := by
  intro c hc options
  rw [calls_step] at hc
  have hgone := h c (Nat.le_of_add_right_le hc) options
  cases hown : d.isOf c event with
  | true =>
    obtain ⟨place, hplace, hgoes⟩ := goes_of_own hgone hown
    exact hgoes.of_isOver rfl ▸ hplace
  | false =>
    refine (step_of_other (fun hcall => ?_) hown).2.trans hgone
    rw [if_pos hcall] at hc
    exact Nat.ne_of_lt hc

theorem isFresh_run (h : d.IsFresh) (events : List Event) : (d.run events).IsFresh := by
  induction events generalizing d with
  | nil => exact h
  | cons event events ih => exact ih (h.step event)

/-- Where a call is nowhere, all numbers are others. -/
theorem Stands.ne_of_gone (h : d.Stands c options .gone) :
    (∀ call ∈ d.queue, call.id ≠ c) ∧ (∀ entry ∈ d.opening, entry.1.id ≠ c) ∧
      (∀ entry ∈ d.leasing, entry.1.id ≠ c) ∧ ∀ entry ∈ d.ended, entry.1 ≠ c := by
  have hqueue : d.queue.filter (·.id = c) = [] := congrArg Trace.queue h
  have hopening : d.opening.filter (·.1.id = c) = none := congrArg Trace.opening h
  have hended : d.ended.filter (·.1 = c) = [] := congrArg Trace.ended h
  have hleasing := h.leasing
  rw [List.filter_eq_nil_iff] at hqueue hended hleasing
  rw [Option.filter_eq_none_iff] at hopening
  simp only [decide_eq_true_eq] at hqueue hopening hleasing hended
  exact ⟨hqueue, hopening, hleasing, hended⟩

/-- A call that is made at last leaves all numbers as they are. -/
theorem IsFresh.later_eq (h : d.IsFresh) : d.later d.calls = { d with calls := d.calls + 1 } := by
  have hlt : ∀ id, (∀ c, d.calls ≤ c → id ≠ c) → Pool.later d.calls id = id := fun id hid =>
    later_of_lt (Nat.lt_of_not_le fun hle => hid id hle rfl)
  have hgone := fun c hc => (h c hc d.provider.options).ne_of_gone
  have hcall : ∀ call : Call, (∀ c, d.calls ≤ c → call.id ≠ c) → call.later d.calls = call :=
    fun call hid => congrArg (Call.mk · call.errand) (hlt call.id hid)
  have hqueue : d.queue.map (Call.later d.calls) = d.queue :=
    (List.map_congr_left fun call hmem => hcall call fun c hc => (hgone c hc).1 call hmem).trans
      (List.map_id _)
  have hopening : d.opening.map (fun entry => (entry.1.later d.calls, entry.2)) = d.opening := by
    cases hentry : d.opening with
    | none => rfl
    | some entry =>
      have hsame := hcall entry.1 fun c hc => (hgone c hc).2.1 entry hentry
      simp [hsame]
  have hleasing : d.leasing.map (fun entry => (entry.1.later d.calls, entry.2)) = d.leasing := by
    refine (List.map_congr_left fun entry hmem => ?_).trans (List.map_id _)
    exact congrArg (·, entry.2) (hcall entry.1 fun c hc => (hgone c hc).2.2.1 entry hmem)
  have hended : d.ended.map (fun entry => (Pool.later d.calls entry.1, entry.2)) = d.ended := by
    refine (List.map_congr_left fun entry hmem => ?_).trans (List.map_id _)
    exact congrArg (·, entry.2) (hlt entry.1 fun c hc => (hgone c hc).2.2.2 entry hmem)
  rw [later, hqueue, hopening, hleasing, hended]

/-- Without a call that is nowhere the desk is what it is. -/
theorem Stands.without_eq (h : d.Stands c options .gone) : d.without c = d := by
  obtain ⟨hqueue, hopening, hleasing, hended⟩ := h.ne_of_gone
  have hfree : d.opening.filter (·.1.id ≠ c) = d.opening := by
    cases hentry : d.opening with
    | none => rfl
    | some entry => simpa [Option.filter_some] using hopening entry hentry
  have hcalls : d.queue.filter (·.id ≠ c) = d.queue ∧ d.leasing.filter (·.1.id ≠ c) = d.leasing ∧
      d.ended.filter (·.1 ≠ c) = d.ended := by
    simp only [List.filter_eq_self, decide_eq_true_eq]
    exact ⟨hqueue, hleasing, hended⟩
  rw [without, hfree, hcalls.1, hcalls.2.1, hcalls.2.2]

/-- A call for a new target queues up, or ends at once if there is none. -/
theorem exists_place (h : d.IsFresh) (url : String) :
    ∃ options place, (d.onReplace url).Stands d.calls options place ∧ place.granted = false ∧
      (place.isOver = false → d.provider.optionsOf url = .ok options) ∧
      (d.onReplace url).without d.calls = { d with calls := d.calls + 1 } := by
  have hgone := h d.calls (Nat.le_refl _)
  have hwithout : without d.calls { d with calls := d.calls + 1 } =
      { d with calls := d.calls + 1 } :=
    Stands.without_eq (d := { d with calls := d.calls + 1 }) (hgone d.provider.options)
  simp only [onReplace, newCall]
  cases d.provider.optionsOf url with
  | error e =>
    refine ⟨d.provider.options, .ended (.error e), ?_, rfl, (fun h => by cases h),
      (without_finish_self _ _).trans hwithout⟩
    have hnowhere := hgone d.provider.options
    simp only [Stands, trace, Place.trace, Trace.mk.injEq] at hnowhere
    simp [Stands, trace, finish, Place.trace, List.filter_append, hnowhere]
  | ok options =>
    have hnowhere := hgone options
    simp only [Stands, trace, Place.trace, Trace.mk.injEq] at hnowhere
    refine ⟨options, .queued, ?_, rfl, fun _ => rfl, ?_⟩
    · simp [Stands, trace, enqueue, Place.trace, List.filter_append, hnowhere]
    · rw [← hwithout]
      simp [without, enqueue, List.filter_append]

/-! ## All or nothing -/

/-- From one moment to the next a call gave the provider a new target. -/
structure Replacement (before after : Desk) (c : CallId) (options : ConnectOptions)
    (grant : Grant) : Prop where
  waiting : before.result? c = none
  ends : after.result? c = some (.ok grant)
  grant : grant = .replaced before.provider.nextPool
  provider : after.provider = { before.provider with
    slot := some before.provider.nextPool, options, closed := false
    poolsCreated := before.provider.poolsCreated + 1 }
  /-- The pool that was in use, if there was one, is handed over for closing. -/
  retired : after.retired = before.retired ++ before.provider.slot.toList

theorem Stands.replacement (h : d.Stands c options .opens) :
    Replacement d (d.replaced c options) c options (.replaced d.provider.nextPool) where
  waiting := h.result?_eq
  ends := by
    have hnone : d.ended.lookup c = none := h.result?_eq
    simp [result?, replaced, finish, List.lookup_append, hnone, List.lookup_cons_self]
  grant := rfl
  provider := rfl
  retired := rfl

/-- A pool that is handed over for closing was not before, and never is again. -/
theorem Replacement.once {after later : Desk} {grant : Grant} {pool : PoolId}
    (h : Replacement d after c options grant) (hlined : d.Lined) (hlater : later.Lined)
    (hkept : after.retired <+: later.retired) (hpool : d.provider.slot = some pool) :
    pool ∉ d.retired ∧ later.retired.count pool = 1 := by
  have hnodup := hlined.nodup
  rw [hpool, Option.toList_some, List.nodup_append] at hnodup
  have hmem : pool ∈ later.retired := hkept.subset (by simp [h.retired, hpool])
  have hnodupLater : later.retired.Nodup := (List.nodup_append.1 hlater.nodup).1
  refine ⟨fun hretired => ?_, List.count_eq_one_of_mem hnodupLater hmem⟩
  exact hnodup.2.2 pool hretired pool (List.mem_singleton_self _) rfl

/-- What comes of a call for a new target, made at a desk, with whatever happens behind it. -/
structure AllOrNothing (d : Desk) (url : String) (events : List Event) : Prop where
  /-- As long as the provider did not get its new target, it is as it would be behind the other
  events if the call had not been made, and all other calls stand and ended as they would. -/
  nothing :
    let called := (d.step (.replace url)).1
    let absent := d.run (called.eventsWithout d.calls events)
    (∀ grant, (called.run events).result? d.calls ≠ some (.ok grant)) →
      (called.run events).provider = absent.provider ∧
      (called.run events).retired = absent.retired ∧
      (∀ id, id ≠ d.calls →
        (called.run events).result? id = absent.result? (earlier d.calls id)) ∧
      (called.run events).without d.calls = absent.later d.calls
  /-- Once it ended or was given up, it neither waits for its turn nor keeps others from theirs. -/
  leaves :
    let later := (d.step (.replace url)).1.run events
    later.result? d.calls ≠ none ∨ .giveUp d.calls ∈ events →
      ∀ call ∈ later.atDoor, call.id ≠ d.calls
  /-- If the provider got its new target, then all in one step, before which nothing of it was
  there; and the pool that was in use is handed over for closing once. -/
  all : ∀ grant, ((d.step (.replace url)).1.run events).result? d.calls = some (.ok grant) →
    ∃ options front behind, d.provider.optionsOf url = .ok options ∧
      events = front ++ .opening .opened :: behind ∧
      let called := (d.step (.replace url)).1
      let before := called.run front
      before.without d.calls = (d.run (called.eventsWithout d.calls front)).later d.calls ∧
      Replacement before (before.step (.opening .opened)).1 d.calls options grant ∧
      ∀ pool, before.provider.slot = some pool →
        pool ∉ before.retired ∧ (called.run events).retired.count pool = 1

/-- Whatever a provider was called for, however many calls are under way, and whatever comes of
them: a call for a new target changes everything in one step, or nothing at all. -/
theorem replace_all_or_nothing {config : StoreConfig} {provider : ConnectionProvider}
    (hprovider : ConnectionProvider.ofConfig config = .ok provider) (past : List Event)
    (url : String) (events : List Event) :
    AllOrNothing ((ofProvider provider).run past) url events := by
  have hfresh : ((ofProvider provider).run past).IsFresh :=
    isFresh_run (isFresh_ofProvider provider) past
  have hlined : ∀ more, ((ofProvider provider).run (past ++ more)).Lined := fun more =>
    lined_run (lined_ofConfig hprovider) (opensFirst_of_none rfl) (past ++ more)
  simp only [run_append] at hlined
  generalize (ofProvider provider).run past = d at hfresh hlined
  obtain ⟨options, place, hplace, hnot, hoptions, hwithout⟩ := exists_place hfresh url
  have hmade : d.calls < (d.onReplace url).calls := by
    have hcalls := calls_step d (.replace url)
    exact hcalls ▸ Nat.lt_succ_self _
  have hrun (more : List Event) := run_of_stands hmade hplace more
  -- The call left its number, and nothing else.
  have hanew (more : List Event) : (without d.calls (d.onReplace url)).run
      ((d.onReplace url).others d.calls more) =
      (d.run ((d.onReplace url).eventsWithout d.calls more)).later d.calls := by
    rw [hwithout, ← hfresh.later_eq, ← map_eventsWithout, run_later (Nat.le_refl _)]
  simp only [hanew] at hrun
  refine ⟨fun hnothing => ?_, fun hend => ?_, fun grant hok => ?_⟩
  · obtain ⟨place', hplace', -, -, habsent⟩ := hrun events
    have hnot' : place'.granted = false := by
      rw [← Bool.not_eq_true, Place.granted_iff, ← hplace'.result?_eq]
      rintro ⟨grant, hgrant⟩
      exact hnothing grant hgrant
    have hsame := habsent hnot'
    have hkept := congrArg Desk.provider hsame
    have hretired := congrArg Desk.retired hsame
    refine ⟨hkept, hretired, fun id hid => ?_, hsame⟩
    calc ((d.onReplace url).run events).result? id
        = (((d.onReplace url).run events).without d.calls).result? id :=
          (result?_without hid _).symm
      _ = (later d.calls (d.run ((d.onReplace url).eventsWithout d.calls events))).result?
            (Pool.later d.calls (earlier d.calls id)) := by rw [hsame, later_earlier hid]
      _ = _ := result?_later _ _ _
  · obtain ⟨place', hplace', -, hgiven, -⟩ := hrun events
    refine hplace'.not_at_door ?_
    rcases hend with hended | hgiveUp
    · rw [step, hplace'.result?_eq] at hended
      cases place' with
      | ended | gone => rfl
      | queued | opens => exact absurd rfl hended
    · exact hgiven hgiveUp
  · obtain ⟨front, behind, hreplaces⟩ := exists_replaces hmade hplace hnot hok
    obtain ⟨place', hplace', hover, -, habsent⟩ := hrun front
    obtain rfl := hplace'.unique hreplaces.opens
    have hturned : place.isOver = false :=
      Bool.eq_false_iff.2 fun hplaceOver => by
        obtain rfl := hover hplaceOver
        cases hplaceOver
    have hreplacement := hplace'.replacement
    rw [← hreplaces.grant, ← hreplaces.step] at hreplacement
    have hkept : (((d.onReplace url).run front).step (.opening .opened)).1.retired <+:
        ((d.onReplace url).run events).retired := by
      rw [hreplaces.split, run_append, run_cons]
      exact prefix_retired_run _ behind
    exact ⟨options, front, behind, hoptions hturned, hreplaces.split, habsent rfl, hreplacement,
      fun pool hpool => hreplacement.once (hlined (.replace url :: front))
        (hlined (.replace url :: events)) hkept hpool⟩

/-- A target that does not answer leaves the pool in use to the others, and one that answers
takes its place. -/
theorem replace_all_or_nothing_inUse :
    ∃ provider, ConnectionProvider.ofConfig (.ofHost "db" "main" "docs") = .ok provider ∧
      let past := [.ask .lease, .turn, .opening .opened, .leased 0 none]
      let d := (ofProvider provider).run past
      let called := (d.step (.replace "postgres://app:pw@other/main")).1
      let failed := called.run [.turn, .ask .unit, .opening .overdue, .leased 2 none]
      let made := called.run [.turn, .ask .unit, .opening .opened, .shutDown 1, .leased 2 none]
      failed.ended = [(0, .ok (.lease 1)), (1, .error provider.overdue), (2, .ok (.unit 1 1))] ∧
        failed.provider.slot = some 1 ∧ failed.retired = [] ∧
        made.ended = [(0, .ok (.lease 1)), (1, .ok (.replaced 2)), (2, .error .connectionClosed)] ∧
        made.provider.slot = some 2 ∧ made.retired = [1] ∧
        AllOrNothing d "postgres://app:pw@other/main"
          [.turn, .ask .unit, .opening .overdue, .leased 2 none] ∧
        AllOrNothing d "postgres://app:pw@other/main"
          [.turn, .ask .unit, .opening .opened, .shutDown 1, .leased 2 none] := by
  refine ⟨_, rfl, ?_⟩
  intro past d called failed made
  refine ⟨by decide +kernel, by decide +kernel, by decide +kernel, by decide +kernel,
    by decide +kernel, by decide +kernel,
    @replace_all_or_nothing (.ofHost "db" "main" "docs") _ rfl past _ _,
    @replace_all_or_nothing (.ofHost "db" "main" "docs") _ rfl past _ _⟩

end Desk

end DocStore.Pool
