import DocStore.Election.Elector

/-!
# What an elector may do

One step of an elector, as others see it.  `Elector.follows_step` says once what a
step can lead to; what is proved about electors together is derived from that and
opens no step again.

* The call made is the one that the phase waits for.
* A session that ends is the elector's, and the elector has none afterwards.
* A session comes from the service, and leadership from a lock that was granted.
-/

namespace DocStore.Election

/-! ## Views of a phase -/

/-- The session that a call is made with. -/
def LockCall.session? : LockCall → Option SessionId
  | connect => none
  | tryLock s | isHeld s | release s => some s

namespace Phase

/-- The call whose answer the elector waits for. -/
def call? : Phase → Option LockCall
  | connecting _ => some .connect
  | trying s _ => some (.tryLock s)
  | checking s _ => some (.isHeld s)
  | releasing s _ => some (.release s)
  | leading _ _ | resting _ _ | finished => none

/-- The session of a leader that goes on leading. -/
def leads? : Phase → Option SessionId
  | leading s _ | checking s _ => some s
  | connecting _ | trying _ _ | resting _ _ | releasing _ _ | finished => none

/-- The elector competes no more. -/
def isEnding : Phase → Bool
  | releasing _ _ | finished => true
  | connecting _ | trying _ _ | leading _ _ | checking _ _ | resting _ _ => false

/-- A leader leads with the session it has. -/
theorem session?_of_leads? {p : Phase} {s : SessionId} (h : p.leads? = some s) :
    p.session? = some s := by
  cases p with
  | leading s' wake => exact h
  | checking s' deadline => exact h
  | _ => simp [leads?] at h

/-- A leader calls for nothing but whether it holds the lock. -/
theorem call?_of_leads? {p : Phase} {s : SessionId} (h : p.leads? = some s) {call : LockCall}
    (hcall : p.call? = some call) : call = .isHeld s := by
  cases p with
  | leading s' wake => simp [call?] at hcall
  | checking s' deadline =>
    rw [← Option.some.inj hcall, Option.some.inj h]
  | _ => simp [leads?] at h

/-- A call is made with the session of the phase. -/
theorem session?_of_call? {p : Phase} {call : LockCall} (h : p.call? = some call) :
    p.session? = call.session? := by
  cases p with
  | leading s wake => simp [call?] at h
  | resting session wake => simp [call?] at h
  | finished => simp [call?] at h
  | _ =>
    rw [← Option.some.inj h]
    rfl

end Phase

/-- An answer that fits the call.  Every call can fail. -/
def LockCall.admits : LockCall → LockAnswer → Bool
  | _, .failed _ => true
  | connect, .opened _ => true
  | tryLock _, .said _ | isHeld _, .said _ | release _, .said _ => true
  | _, _ => false

/-! ## Steps -/

namespace Elector

/-- What can happen to an elector as it stands. -/
def Expects (e : Elector) : Event → Prop
  | .answered answer => ∃ call, e.phase.call? = some call ∧ call.admits answer = true
  | .due => ∃ time, e.phase.due? = some time
  | .stop => e.phase.isEnding = false
  | .abandon => True

/-- An elector that says that it leads is in a phase of leading, or gives its lock back, or is
gone. -/
def IsFrank (e : Elector) : Prop :=
  e.isLeader = true → e.phase.isEnding = false → ∃ s, e.phase.leads? = some s

/-- What a reaction to an event may be. -/
structure Follows (e : Elector) (event : Event) (r : Reaction) : Prop where
  key : r.elector.key = e.key
  config : r.elector.config = e.config
  call : r.call = r.elector.phase.call?
  frank : r.elector.IsFrank
  /-- It goes on competing unless it was told not to. -/
  ending : r.elector.phase.isEnding = true →
    e.phase.isEnding = true ∨ event = .stop ∨ event = .abandon
  /-- Told to stop or given up, it competes no more. -/
  stopped : event = .stop ∨ event = .abandon → r.elector.phase.isEnding = true
  ends : ∀ s, .endSession s ∈ r.effects →
    e.phase.session? = some s ∧ r.elector.phase.session? = none
  session : ∀ s, r.elector.phase.session? = some s →
    e.phase.session? = some s ∨ event = .answered (.opened s)
  leads : ∀ s, r.elector.phase.leads? = some s →
    e.phase.leads? = some s ∨
      e.phase.call? = some (.tryLock s) ∧ event = .answered (.said true)

/-- Going on to another phase while no session ends. -/
theorem follows_goOn {e : Elector} {role : Role} {phase : Phase} {event : Event}
    {effects : List Effect} (hends : ∀ s, .endSession s ∉ effects)
    (hfrank : (e.become role phase).IsFrank)
    (hending : phase.isEnding = true ↔ event = .stop ∨ event = .abandon)
    (hsession : ∀ s, phase.session? = some s →
      e.phase.session? = some s ∨ event = .answered (.opened s))
    (hleads : ∀ s, phase.leads? = some s →
      e.phase.leads? = some s ∨
        e.phase.call? = some (.tryLock s) ∧ event = .answered (.said true)) :
    e.Follows event ⟨e.become role phase, effects, phase.call?⟩ where
  key := rfl
  config := rfl
  call := rfl
  frank := hfrank
  ending := fun h => Or.inr (hending.1 h)
  stopped := hending.2
  ends := fun s hs => absurd hs (hends s)
  session := hsession
  leads := hleads

/-- An elector that shows another role is frank. -/
theorem isFrank_become {e : Elector} {role : Role} (h : role ≠ .leader) (phase : Phase) :
    (e.become role phase).IsFrank := by
  intro hleader
  exact absurd (of_decide_eq_true hleader) h

/-- Following and waiting, with or without the session. -/
theorem follows_rest {e : Elector} {event : Event} {session : Option SessionId}
    {before : List Effect} (now : Nat)
    (hsession : ∀ s, session = some s → e.phase.session? = some s)
    (hbefore : ∀ s, .endSession s ∈ before → e.phase.session? = some s ∧ session = none)
    (hevent : ¬ (event = .stop ∨ event = .abandon)) :
    e.Follows event (e.rest now session before) where
  key := rfl
  config := rfl
  call := rfl
  frank := by
    intro hleader
    simp [rest, become, isLeader] at hleader
  ending := by
    intro hending
    simp [rest, become, Phase.isEnding] at hending
  stopped := fun hstopped => absurd hstopped hevent
  ends := by
    intro s hs
    simp only [rest, List.mem_append, List.mem_cons, List.not_mem_nil, or_false,
      reduceCtorEq] at hs
    exact hbefore s hs
  session := fun s hs => Or.inl (hsession s hs)
  leads := by
    intro s hs
    simp [rest, become, Phase.leads?] at hs

/-- Following and waiting with no session, behind an answer. -/
theorem follows_rest_none {e : Elector} {answer : LockAnswer} {before : List Effect} (now : Nat)
    (hbefore : ∀ s, .endSession s ∈ before → e.phase.session? = some s) :
    e.Follows (.answered answer) (e.rest now none before) :=
  follows_rest now nofun (fun s hs => ⟨hbefore s hs, rfl⟩) (by simp)

/-- Losing the lead ends the session that the elector has. -/
theorem follows_lose {e : Elector} {answer : LockAnswer} {s : SessionId} (now : Nat)
    (hsession : e.phase.session? = some s) (reason : StoreError) :
    e.Follows (.answered answer) (e.lose now s reason) := by
  refine follows_rest_none now fun s' hs => ?_
  obtain rfl : s' = s := by simpa [Elector.event] using hs
  exact hsession

/-- Ending for good, told to or behind the release of a lock. -/
theorem follows_finish {e : Elector} {event : Event} {before : List Effect}
    (hbefore : ∀ s, .endSession s ∉ before)
    (hending : e.phase.isEnding = true ∨ event = .stop ∨ event = .abandon) :
    e.Follows event (e.finish before) where
  key := rfl
  config := rfl
  call := rfl
  frank := by
    intro hleader
    simp [finish, become, isLeader] at hleader
  ending := fun _ => hending
  stopped := fun _ => rfl
  ends := by
    intro s hs
    refine ⟨?_, rfl⟩
    have hlast : Effect.endSession s ∈ e.phase.session?.toList.map Effect.endSession := by
      cases hleader : e.isLeader <;>
        simpa [finish, Elector.event, hleader, hbefore s] using hs
    obtain ⟨s', hs', heq⟩ := List.mem_map.1 hlast
    rw [← Effect.endSession.inj heq]
    exact Option.mem_toList.1 hs'
  session := by
    intro s hs
    simp [finish, become, Phase.session?] at hs
  leads := by
    intro s hs
    simp [finish, become, Phase.leads?] at hs

/-- Trying for the lock, with the session it has. -/
theorem follows_attempt {e : Elector} (now : Nat) {session : Option SessionId}
    (hsession : ∀ s, session = some s → e.phase.session? = some s) :
    e.Follows .due (e.attempt now session) := by
  have hcandidate : Role.candidate ≠ .leader := by decide
  cases session with
  | none =>
    apply follows_goOn (by simp) (isFrank_become hcandidate _)
    · simp [Phase.isEnding]
    · simp [Phase.session?]
    · simp [Phase.leads?]
  | some s =>
    apply follows_goOn (by simp) (isFrank_become hcandidate _)
    · simp [Phase.isEnding]
    · exact fun s' hs => Or.inl (hsession s' hs)
    · simp [Phase.leads?]

theorem follows_onAnswer {e : Elector} {answer : LockAnswer} (now : Nat) (hfrank : e.IsFrank)
    (hexpects : e.Expects (.answered answer)) :
    e.Follows (.answered answer) (e.onAnswer now answer) := by
  obtain ⟨config, key, phase, role⟩ := e
  obtain ⟨call, hcall, hadmits⟩ := hexpects
  cases phase with
  | connecting deadline =>
    obtain rfl : LockCall.connect = call := Option.some.inj hcall
    cases answer with
    | opened s =>
      have hrole : role ≠ .leader := by
        rintro rfl
        obtain ⟨s', hs'⟩ := hfrank rfl rfl
        simp [Phase.leads?] at hs'
      apply follows_goOn (by simp) (isFrank_become hrole _)
      · simp [Phase.isEnding]
      · intro s' hs
        rw [Option.some.inj hs]
        exact Or.inr rfl
      · simp [Phase.leads?]
    | said yes => simp [LockCall.admits] at hadmits
    | failed cause => exact follows_rest_none now (by simp [Elector.event])
  | trying s deadline =>
    obtain rfl : LockCall.tryLock s = call := Option.some.inj hcall
    cases answer with
    | opened s => simp [LockCall.admits] at hadmits
    | said yes =>
      cases yes with
      | true =>
        apply follows_goOn (by simp [Elector.event]) (fun _ _ => ⟨s, rfl⟩)
        · simp [lead, Phase.isEnding]
        · exact fun s' hs => Or.inl hs
        · exact fun s' hs => Or.inr ⟨congrArg (Option.map LockCall.tryLock) hs, rfl⟩
      | false =>
        refine follows_rest now ?_ ?_ ?_
        · simp [Phase.session?]
        · simp [Elector.event]
        · simp
    | failed cause => exact follows_rest_none now (by simp [Elector.event, Phase.session?])
  | checking s deadline =>
    obtain rfl : LockCall.isHeld s = call := Option.some.inj hcall
    cases answer with
    | opened s => simp [LockCall.admits] at hadmits
    | said yes =>
      cases yes with
      | true =>
        apply follows_goOn (by simp) (fun _ _ => ⟨s, rfl⟩)
        · simp [lead, Phase.isEnding]
        · exact fun s' hs => Or.inl hs
        · exact fun s' hs => Or.inl hs
      | false => exact follows_lose now rfl _
    | failed cause => exact follows_lose now rfl _
  | releasing s deadline =>
    obtain rfl : LockCall.release s = call := Option.some.inj hcall
    cases answer with
    | opened s => simp [LockCall.admits] at hadmits
    | said yes => exact follows_finish (by simp) (Or.inl rfl)
    | failed cause => exact follows_finish (by simp [Elector.event]) (Or.inl rfl)
  | leading s wake => simp [Phase.call?] at hcall
  | resting session wake => simp [Phase.call?] at hcall
  | finished => simp [Phase.call?] at hcall

/-- A call that takes too long is one that fails. -/
theorem Follows.due {e : Elector} {cause : StoreError} {r : Reaction}
    (h : e.Follows (.answered (.failed cause)) r) : e.Follows .due r where
  key := h.key
  config := h.config
  call := h.call
  frank := h.frank
  ending := by
    intro hending
    simpa using h.ending hending
  stopped := fun hstopped => by simp at hstopped
  ends := h.ends
  session := by
    intro s hs
    simpa using h.session s hs
  leads := by
    intro s hs
    simpa using h.leads s hs

theorem follows_onDue {e : Elector} (now : Nat) (hfrank : e.IsFrank)
    (hexpects : e.Expects .due) : e.Follows .due (e.onDue now) := by
  have hoverdue : ∀ call, e.phase.call? = some call →
      e.Follows .due (e.onAnswer now (.failed e.overdue)) := fun call hcall =>
    (follows_onAnswer now hfrank ⟨call, hcall, by cases call <;> rfl⟩).due
  obtain ⟨config, key, phase, role⟩ := e
  obtain ⟨time, htime⟩ := hexpects
  cases phase with
  | leading s wake =>
    apply follows_goOn (by simp) (fun _ _ => ⟨s, rfl⟩)
    · simp [Phase.isEnding]
    · exact fun s' hs => Or.inl hs
    · exact fun s' hs => Or.inl hs
  | resting session wake => exact follows_attempt now fun s hs => hs
  | finished => simp [Phase.due?] at htime
  | _ => exact hoverdue _ rfl

theorem follows_onStop {e : Elector} (now : Nat) (hexpects : e.Expects .stop) :
    e.Follows .stop (e.onStop now) := by
  obtain ⟨config, key, phase, role⟩ := e
  -- a leader keeps its role until it has given the lock back
  have hgiveBack : ∀ s time, phase.leads? = some s →
      Follows ⟨config, key, phase, role⟩ .stop
        ⟨⟨config, key, .releasing s time, role⟩, [], some (.release s)⟩ := by
    intro s time hs
    apply follows_goOn (by simp) (fun _ hending => by simp [become, Phase.isEnding] at hending)
    · simp [Phase.isEnding]
    · intro s' hs'
      rw [← Option.some.inj hs']
      exact Or.inl (Phase.session?_of_leads? hs)
    · simp [Phase.leads?]
  cases phase with
  | leading s wake => exact hgiveBack s _ rfl
  | checking s deadline => exact hgiveBack s _ rfl
  | releasing s deadline => simp [Expects, Phase.isEnding] at hexpects
  | finished => simp [Expects, Phase.isEnding] at hexpects
  | _ => exact follows_finish (by simp) (Or.inr (Or.inl rfl))

theorem follows_onAbandon (e : Elector) : e.Follows .abandon e.onAbandon where
  key := rfl
  config := rfl
  call := rfl
  frank := fun _ hending => by simp [onAbandon, Phase.isEnding] at hending
  ending := fun _ => Or.inr (Or.inr rfl)
  stopped := fun _ => rfl
  ends := by
    intro s hs
    refine ⟨?_, rfl⟩
    obtain ⟨s', hs', heq⟩ := List.mem_map.1 hs
    rw [← Effect.endSession.inj heq]
    exact Option.mem_toList.1 hs'
  session := fun s hs => by simp [onAbandon, Phase.session?] at hs
  leads := fun s hs => by simp [onAbandon, Phase.leads?] at hs

/-- What a step can lead to. -/
theorem follows_step {e : Elector} {event : Event} (now : Nat) (hfrank : e.IsFrank)
    (hexpects : e.Expects event) : e.Follows event (e.step now event) := by
  cases event with
  | answered answer => exact follows_onAnswer now hfrank hexpects
  | due => exact follows_onDue now hfrank hexpects
  | stop => exact follows_onStop now hexpects
  | abandon => exact follows_onAbandon e

/-- A new elector makes its first attempt as if it had come due. -/
theorem follows_start (config : ElectionConfig) (key : LockKey) (now : Nat) :
    Follows ⟨config, key, .finished, .follower⟩ .due (start config key now) := by
  apply follows_goOn (by simp [Elector.event, attempt]) (isFrank_become (by decide) _)
  · simp [Phase.isEnding]
  · simp [Phase.session?]
  · simp [Phase.leads?]

end Elector

end DocStore.Election
