import DocStore.Proofs.Election.Contest
import DocStore.Proofs.Election.Reaction

/-!
# The conduct of an elector

One step of an elector, as its owner and the lock service see it.  `Elector.Reacts`
lists the reactions that there are, and `reacts_step` says that a step is one of them.

* The step reports what the event amounts to for an elector that waits for a call
  (`LockCall.outcome?`) and nothing else, and publishes the role before (`isCandid`).
* A lock is held on to, or the session that has it ends (`holds_or_ends`,
  `leads_or_ends`).
* Deadlines lie a known time ahead (`le_due`, `of_leading`, `of_checking`,
  `of_releasing`).
* The phase fits what the owner wants (`Fits.step`).
-/

namespace DocStore.Election

/-! ## Outcomes -/

/-- Something that an elector has to report. -/
inductive Outcome where
  /-- An attempt is over. -/
  | attempt (won : Bool)
  | loss
  /-- A leader that was told to stop has done what it could to give the lock back. -/
  | handover
  deriving DecidableEq

/-- Whether the elector leads then. -/
def Outcome.leads : Outcome → Bool
  | attempt won => won
  | loss | handover => false

/-- A call has failed or taken too long. -/
def Event.isFailure : Event → Bool
  | .answered (.failed _) | .due => true
  | _ => false

/-- What an event amounts to for an elector that waits for a call. -/
def LockCall.outcome? : LockCall → Event → Option Outcome
  | connect, .answered (.failed _) | connect, .due => some (.attempt false)
  | tryLock _, .answered (.said yes) => some (.attempt yes)
  | tryLock _, .answered (.failed _) | tryLock _, .due => some (.attempt false)
  | isHeld _, .answered (.said false) => some .loss
  | isHeld _, .answered (.failed _) | isHeld _, .due => some .loss
  | release _, .answered (.said _) | release _, .answered (.failed _) | release _, .due =>
      some .handover
  | _, _ => none

/-- The outcome for an elector that may wait for no call. -/
def outcome? (call : Option LockCall) (event : Event) : Option Outcome :=
  call.bind (·.outcome? event)

/-- Only a lock that is taken makes a leader. -/
theorem LockCall.eq_tryLock_of_leads {call : LockCall} {event : Event} {o : Outcome}
    (h : call.outcome? event = some o) (hleads : o.leads = true) : ∃ s, call = .tryLock s := by
  have hwon : o = .attempt true := by
    cases o with
    | attempt won => exact congrArg Outcome.attempt hleads
    | loss => exact absurd hleads Bool.false_ne_true
    | handover => exact absurd hleads Bool.false_ne_true
  rw [hwon, outcome?.eq_def] at h
  split at h
  · simp at h
  · simp at h
  · exact ⟨_, rfl⟩
  · exact ⟨_, rfl⟩
  · exact ⟨_, rfl⟩
  all_goals simp at h

/-- A failure is an outcome for whoever waits, and none that makes a leader. -/
theorem outcome?_of_isFailure (call : LockCall) {event : Event} (h : event.isFailure = true) :
    ∃ o, outcome? (some call) event = some o ∧ o.leads = false := by
  cases event with
  | answered answer =>
    cases answer with
    | failed cause => cases call <;> exact ⟨_, rfl, rfl⟩
    | _ => simp [Event.isFailure] at h
  | due => cases call <;> exact ⟨_, rfl, rfl⟩
  | _ => simp [Event.isFailure] at h

/-- A stop is no outcome, and neither is being given up. -/
theorem outcome?_of_isEnd (call : Option LockCall) {event : Event}
    (h : event = .stop ∨ event = .abandon) :
    outcome? call event = none := by
  rcases h with rfl | rfl
  · rcases call with _ | call
    · rfl
    · cases call <;> rfl
  · rcases call with _ | call
    · rfl
    · cases call <;> rfl

/-! ## Views of effects -/

namespace Effect

def role? : Effect → Option Role
  | publish role => some role
  | _ => none

def report? : Effect → Option Bool
  | report leads => some leads
  | _ => none

end Effect

/-- What the effects report, in their order. -/
def reports (effects : List Effect) : List Bool := effects.filterMap Effect.report?

/-- The role that shows after the effects. -/
def Role.after (role : Role) (effects : List Effect) : Role :=
  effects.foldl (fun role effect => effect.role?.getD role) role

/-- The role that goes with a report. -/
def Role.ofReport (leads : Bool) : Role := if leads then leader else follower

/-- At every report the role that goes with it shows already. -/
def Agree : Role → List Effect → Prop
  | _, [] => True
  | role, effect :: rest =>
      (∀ leads, effect = .report leads → role = .ofReport leads) ∧
        Agree (effect.role?.getD role) rest

theorem reports_append (first second : List Effect) :
    reports (first ++ second) = reports first ++ reports second :=
  List.filterMap_append

theorem after_append (role : Role) (first second : List Effect) :
    role.after (first ++ second) = (role.after first).after second :=
  List.foldl_append

theorem agree_append (role : Role) (first second : List Effect) :
    Agree role (first ++ second) ↔ Agree role first ∧ Agree (role.after first) second := by
  induction first generalizing role with
  | nil => simp [Agree, Role.after]
  | cons effect rest ih =>
    rw [List.cons_append, Agree, Agree, ih, and_assoc]
    rfl

/-- What shows when a report is made. -/
theorem Agree.after_eq {role : Role} {before later : List Effect} {leads : Bool}
    (h : Agree role (before ++ .report leads :: later)) :
    role.after before = .ofReport leads :=
  ((agree_append role before _).1 h).2.1 leads rfl

/-- Effects that neither publish nor report. -/
def IsQuiet (effects : List Effect) : Prop :=
  ∀ effect ∈ effects, effect.role? = none ∧ effect.report? = none

theorem isQuiet_logs (logs : List LogEvent) : IsQuiet (logs.map .log) := by
  intro effect heffect
  obtain ⟨log, -, rfl⟩ := List.mem_map.1 heffect
  exact ⟨rfl, rfl⟩

theorem isQuiet_ends (sessions : List SessionId) : IsQuiet (sessions.map .endSession) := by
  intro effect heffect
  obtain ⟨s, -, rfl⟩ := List.mem_map.1 heffect
  exact ⟨rfl, rfl⟩

theorem IsQuiet.reports_eq {effects : List Effect} (h : IsQuiet effects) :
    reports effects = [] :=
  List.filterMap_eq_nil_iff.2 fun effect heffect => (h effect heffect).2

theorem IsQuiet.after_eq {effects : List Effect} (h : IsQuiet effects) (role : Role) :
    role.after effects = role := by
  induction effects generalizing role with
  | nil => rfl
  | cons effect rest ih =>
    rw [Role.after, List.foldl_cons, (h effect List.mem_cons_self).1]
    exact ih (fun effect' hmem => h effect' (List.mem_cons_of_mem effect hmem)) role

theorem IsQuiet.agree {effects : List Effect} (h : IsQuiet effects) (role : Role) :
    Agree role effects := by
  induction effects generalizing role with
  | nil => trivial
  | cons effect rest ih =>
    refine ⟨?_, ih (fun effect' hmem => h effect' (List.mem_cons_of_mem effect hmem)) _⟩
    rintro leads rfl
    simpa [Effect.report?] using (h _ List.mem_cons_self).2

/-! ## Views of a phase -/

namespace Phase

/-- The role that an elector shows in a phase.  Who is gone shows what it showed before. -/
def role? : Phase → Option Role
  | connecting _ | trying _ _ => some .candidate
  | leading _ _ | checking _ _ | releasing _ _ => some .leader
  | resting _ _ => some .follower
  | finished => none

/-- The session of a leader, also of one that gives its lock back. -/
def holds? : Phase → Option SessionId
  | leading s _ | checking s _ | releasing s _ => some s
  | connecting _ | trying _ _ | resting _ _ | finished => none

theorem session?_of_holds? {p : Phase} {s : SessionId} (h : p.holds? = some s) :
    p.session? = some s := by
  cases p with
  | leading s' wake => exact h
  | checking s' deadline => exact h
  | releasing s' deadline => exact h
  | _ => simp [holds?] at h

theorem holds?_of_leads? {p : Phase} {s : SessionId} (h : p.leads? = some s) :
    p.holds? = some s := by
  cases p with
  | leading s' wake => exact h
  | checking s' deadline => exact h
  | _ => simp [leads?] at h

/-- Who holds a lock leads on or gives it back. -/
theorem leads?_or_isEnding {p : Phase} {s : SessionId} (h : p.holds? = some s) :
    p.leads? = some s ∨ p.isEnding = true := by
  cases p with
  | leading s' wake => exact Or.inl h
  | checking s' deadline => exact Or.inl h
  | releasing s' deadline => exact Or.inr rfl
  | _ => simp [holds?] at h

/-- Only a candidate tries for a lock. -/
theorem eq_trying {p : Phase} {s : SessionId} (h : p.call? = some (.tryLock s)) :
    ∃ deadline, p = .trying s deadline := by
  cases p with
  | trying s' deadline =>
    obtain rfl : s' = s := LockCall.tryLock.inj (Option.some.inj h)
    exact ⟨deadline, rfl⟩
  | _ => simp [call?] at h

/-- Only a leader that was told to stop gives a lock back. -/
theorem eq_releasing {p : Phase} {s : SessionId} (h : p.call? = some (.release s)) :
    ∃ deadline, p = .releasing s deadline := by
  cases p with
  | releasing s' deadline =>
    obtain rfl : s' = s := LockCall.release.inj (Option.some.inj h)
    exact ⟨deadline, rfl⟩
  | _ => simp [call?] at h

end Phase

namespace Elector

/-- The role published last is that of the phase. -/
def IsPlain (e : Elector) : Prop := ∀ role, e.phase.role? = some role → e.role = role

/-- Who is plain says that it leads only while it does. -/
theorem IsPlain.isFrank {e : Elector} (h : e.IsPlain) : e.IsFrank := by
  obtain ⟨config, key, phase, role⟩ := e
  intro hleader hending
  obtain rfl : role = .leader := of_decide_eq_true hleader
  cases phase with
  | leading s wake => exact ⟨s, rfl⟩
  | checking s deadline => exact ⟨s, rfl⟩
  | releasing s deadline => simp [Phase.isEnding] at hending
  | finished => simp [Phase.isEnding] at hending
  | _ => simpa using h _ rfl

/-- Who holds a lock shows that it leads. -/
theorem IsPlain.isLeader_of_holds? {e : Elector} (h : e.IsPlain) {s : SessionId}
    (hs : e.phase.holds? = some s) : e.isLeader = true := by
  obtain ⟨config, key, phase, role⟩ := e
  cases phase with
  | leading s' wake => exact decide_eq_true (h _ rfl)
  | checking s' deadline => exact decide_eq_true (h _ rfl)
  | releasing s' deadline => exact decide_eq_true (h _ rfl)
  | _ => simp [Phase.holds?] at hs

/-! ## Reactions -/

/-- The reactions of an elector. -/
inductive Reacts (e : Elector) (now : Nat) : Event → Reaction → Prop where
  | opened {deadline : Nat} (h : e.phase = .connecting deadline) (s : SessionId) :
      Reacts e now (.answered (.opened s))
        ⟨{ e with phase := .trying s (e.deadline now) }, [], some (.tryLock s)⟩
  | unreachable {deadline : Nat} {event : Event} (h : e.phase = .connecting deadline)
      (hevent : event.isFailure = true) (log : LogEvent) :
      Reacts e now event (e.rest now none [.log log])
  | won {s : SessionId} {deadline : Nat} (h : e.phase = .trying s deadline) (log : LogEvent) :
      Reacts e now (.answered (.said true))
        ⟨e.become .leader (e.lead now s), [.publish .leader, .log log, .report true], none⟩
  | refused {s : SessionId} {deadline : Nat} (h : e.phase = .trying s deadline)
      (log : LogEvent) :
      Reacts e now (.answered (.said false)) (e.rest now (some s) [.log log])
  | failed {s : SessionId} {deadline : Nat} {event : Event} (h : e.phase = .trying s deadline)
      (hevent : event.isFailure = true) (log : LogEvent) :
      Reacts e now event (e.rest now none [.log log, .endSession s])
  | confirmed {s : SessionId} {deadline : Nat} (h : e.phase = .checking s deadline) :
      Reacts e now (.answered (.said true)) ⟨{ e with phase := e.lead now s }, [], none⟩
  | lost {s : SessionId} {deadline : Nat} {event : Event} (h : e.phase = .checking s deadline)
      (hevent : event = .answered (.said false) ∨ event.isFailure = true) (log : LogEvent) :
      Reacts e now event (e.rest now none [.endSession s, .log log])
  | check {s : SessionId} {wake : Nat} (h : e.phase = .leading s wake) :
      Reacts e now .due
        ⟨{ e with phase := .checking s (e.deadline now) }, [], some (.isHeld s)⟩
  | again {session : Option SessionId} {wake : Nat} (h : e.phase = .resting session wake) :
      Reacts e now .due (e.attempt now session)
  | giveBack {s : SessionId} (h : e.phase.leads? = some s) :
      Reacts e now .stop
        ⟨{ e with phase := .releasing s (e.deadline now) }, [], some (.release s)⟩
  | givenBack {s : SessionId} {deadline : Nat} {event : Event}
      (h : e.phase = .releasing s deadline)
      (hevent : (∃ yes, event = .answered (.said yes)) ∨ event.isFailure = true)
      (logs : List LogEvent) :
      Reacts e now event (e.finish (logs.map .log))
  | cutOff (h : e.phase.isEnding = false) (hleads : e.phase.leads? = none) :
      Reacts e now .stop (e.finish [])
  | gone : Reacts e now .abandon e.onAbandon

theorem reacts_onAnswer {e : Elector} {answer : LockAnswer} (now : Nat)
    (hexpects : e.Expects (.answered answer)) :
    e.Reacts now (.answered answer) (e.onAnswer now answer) := by
  obtain ⟨config, key, phase, role⟩ := e
  obtain ⟨call, hcall, hadmits⟩ := hexpects
  cases phase with
  | connecting deadline =>
    obtain rfl : LockCall.connect = call := Option.some.inj hcall
    cases answer with
    | opened s => exact .opened rfl s
    | said yes => simp [LockCall.admits] at hadmits
    | failed cause => exact .unreachable rfl rfl _
  | trying s deadline =>
    obtain rfl : LockCall.tryLock s = call := Option.some.inj hcall
    cases answer with
    | opened s' => simp [LockCall.admits] at hadmits
    | said yes =>
      cases yes with
      | true => exact .won rfl _
      | false => exact .refused rfl _
    | failed cause => exact .failed rfl rfl _
  | checking s deadline =>
    obtain rfl : LockCall.isHeld s = call := Option.some.inj hcall
    cases answer with
    | opened s' => simp [LockCall.admits] at hadmits
    | said yes =>
      cases yes with
      | true => exact .confirmed rfl
      | false => exact .lost rfl (Or.inl rfl) _
    | failed cause => exact .lost rfl (Or.inr rfl) _
  | releasing s deadline =>
    obtain rfl : LockCall.release s = call := Option.some.inj hcall
    cases answer with
    | opened s' => simp [LockCall.admits] at hadmits
    | said yes => exact .givenBack rfl (Or.inl ⟨yes, rfl⟩) []
    | failed cause => exact .givenBack rfl (Or.inr rfl) [_]
  | leading s wake => simp [Phase.call?] at hcall
  | resting session wake => simp [Phase.call?] at hcall
  | finished => simp [Phase.call?] at hcall

theorem reacts_onDue {e : Elector} (now : Nat) (hexpects : e.Expects .due) :
    e.Reacts now .due (e.onDue now) := by
  obtain ⟨config, key, phase, role⟩ := e
  obtain ⟨time, htime⟩ := hexpects
  cases phase with
  | connecting deadline => exact .unreachable rfl rfl _
  | trying s deadline => exact .failed rfl rfl _
  | leading s wake => exact .check rfl
  | checking s deadline => exact .lost rfl (Or.inr rfl) _
  | resting session wake => exact .again rfl
  | releasing s deadline => exact .givenBack rfl (Or.inr rfl) [_]
  | finished => simp [Phase.due?] at htime

theorem reacts_onStop {e : Elector} (now : Nat) (hexpects : e.Expects .stop) :
    e.Reacts now .stop (e.onStop now) := by
  obtain ⟨config, key, phase, role⟩ := e
  cases phase with
  | leading s wake => exact .giveBack rfl
  | checking s deadline => exact .giveBack rfl
  | releasing s deadline => simp [Expects, Phase.isEnding] at hexpects
  | finished => simp [Expects, Phase.isEnding] at hexpects
  | _ => exact .cutOff rfl rfl

/-- A step is one of the reactions. -/
theorem reacts_step {e : Elector} {event : Event} (now : Nat) (hexpects : e.Expects event) :
    e.Reacts now event (e.step now event) := by
  cases event with
  | answered answer => exact reacts_onAnswer now hexpects
  | due => exact reacts_onDue now hexpects
  | stop => exact reacts_onStop now hexpects
  | abandon => exact .gone

/-! ## What is shown and reported -/

section Reacts

variable {e : Elector} {now : Nat} {event : Event} {r : Reaction}

/-- Effects that make one role known, and whether the elector leads if that is news. -/
structure Announces (effects : List Effect) (role : Role) (news : List Bool) : Prop where
  reports : reports effects = news
  after : ∀ before : Role, before.after effects = role
  agree : ∀ before, Agree before effects

theorem announces_rest (e : Elector) (now : Nat) (session : Option SessionId)
    {before : List Effect} (hbefore : IsQuiet before) :
    Announces (e.rest now session before).effects .follower [false] where
  reports := by
    rw [rest, reports_append, hbefore.reports_eq]
    rfl
  after := by
    intro role
    rw [rest, after_append]
    rfl
  agree := by
    intro role
    rw [rest, agree_append]
    exact ⟨hbefore.agree role, by simp [Agree, Effect.role?, Role.ofReport]⟩

theorem announces_finish (e : Elector) (logs : List LogEvent) :
    Announces (e.finish (logs.map .log)).effects .follower
      (if e.isLeader then [false] else []) := by
  have hlogs := isQuiet_logs logs
  have hquiet : IsQuiet (e.event .info "Stopped leader election" [] ::
      e.phase.session?.toList.map Effect.endSession) := by
    intro effect heffect
    rcases List.mem_cons.1 heffect with rfl | hmem
    · exact ⟨rfl, rfl⟩
    · exact isQuiet_ends _ effect hmem
  have heffects : (e.finish (logs.map .log)).effects = logs.map .log ++
      ((.publish .follower :: if e.isLeader then [.report false] else []) ++
        e.event .info "Stopped leader election" [] ::
          e.phase.session?.toList.map Effect.endSession) := by
    simp [finish]
  rw [heffects]
  refine ⟨?_, ?_, ?_⟩
  · rw [reports_append, reports_append, hlogs.reports_eq, hquiet.reports_eq, List.append_nil]
    cases e.isLeader <;> rfl
  · intro role
    rw [after_append, after_append, hquiet.after_eq]
    cases e.isLeader <;> rfl
  · intro role
    rw [agree_append, agree_append]
    refine ⟨hlogs.agree role, ?_, hquiet.agree _⟩
    cases e.isLeader <;> simp [Agree, Effect.role?, Role.ofReport]

theorem Reacts.isPlain (h : e.Reacts now event r) (he : e.IsPlain) : r.elector.IsPlain := by
  obtain ⟨config, key, phase, role⟩ := e
  intro role' hrole'
  cases h with
  | again hphase =>
    obtain rfl := hphase
    rename_i session wake
    cases session with
    | none => exact Option.some.inj hrole'
    | some s => exact Option.some.inj hrole'
  | giveBack hleads =>
    obtain rfl : Role.leader = role' := Option.some.inj hrole'
    exact of_decide_eq_true (he.isLeader_of_holds? (Phase.holds?_of_leads? hleads))
  | opened hphase s =>
    obtain rfl := hphase
    exact he role' hrole'
  | confirmed hphase =>
    obtain rfl := hphase
    exact he role' hrole'
  | check hphase =>
    obtain rfl := hphase
    exact he role' hrole'
  | givenBack hphase hevent logs => simp [finish, become, Phase.role?] at hrole'
  | cutOff hending hleads => simp [finish, become, Phase.role?] at hrole'
  | gone => simp [onAbandon, Phase.role?] at hrole'
  | _ => exact Option.some.inj hrole'

/-- A reaction hides nothing. -/
structure IsCandid (e : Elector) (event : Event) (r : Reaction) : Prop where
  /-- It reports what the event amounts to, once. -/
  reports : reports r.effects = ((outcome? e.phase.call? event).map Outcome.leads).toList
  /-- It publishes the role that the elector has then. -/
  after : e.role.after r.effects = r.elector.role
  agree : Agree e.role r.effects
  /-- The elector leads if it was told so last. -/
  leader : r.elector.isLeader = ((outcome? e.phase.call? event).map Outcome.leads).getD e.isLeader

/-- Between attempts an elector does not lead. -/
theorem IsPlain.isLeader_of_resting (he : e.IsPlain) {session : Option SessionId} {wake : Nat}
    (h : e.phase = .resting session wake) : e.isLeader = false := by
  have hrole : e.role = .follower := he .follower (by rw [h]; rfl)
  rw [isLeader, hrole]
  rfl

/-- Nobody is told that it leads who leads. -/
theorem IsPlain.isLeader_of_leads (he : e.IsPlain) {o : Outcome}
    (ho : outcome? e.phase.call? event = some o) (hleads : o.leads = true) :
    e.isLeader = false := by
  obtain ⟨call, hcall, hevent⟩ := Option.bind_eq_some_iff.1 ho
  obtain ⟨s, rfl⟩ := LockCall.eq_tryLock_of_leads hevent hleads
  obtain ⟨deadline, hphase⟩ := Phase.eq_trying hcall
  have hrole : e.role = .candidate := he .candidate (by rw [hphase]; rfl)
  rw [isLeader, hrole]
  rfl

/-- Nothing is said of what is no outcome. -/
theorem isCandid_of_isQuiet (ho : outcome? e.phase.call? event = none)
    (hquiet : IsQuiet r.effects) (hrole : r.elector.role = e.role) : e.IsCandid event r where
  reports := by rw [ho, hquiet.reports_eq]; rfl
  after := by rw [hquiet.after_eq, hrole]
  agree := hquiet.agree e.role
  leader := by rw [ho, isLeader, hrole]; rfl

theorem isCandid_rest {o : Outcome} (ho : outcome? e.phase.call? event = some o)
    (hleads : o.leads = false) (session : Option SessionId) {before : List Effect}
    (hbefore : IsQuiet before) : e.IsCandid event (e.rest now session before) where
  reports := by
    rw [ho, Option.map_some, hleads]
    exact (announces_rest e now session hbefore).reports
  after := (announces_rest e now session hbefore).after e.role
  agree := (announces_rest e now session hbefore).agree e.role
  leader := by rw [ho, Option.map_some, hleads]; rfl

theorem isCandid_finish
    (ho : (outcome? e.phase.call? event).map Outcome.leads =
      if e.isLeader then some false else none) (logs : List LogEvent) :
    e.IsCandid event (e.finish (logs.map .log)) where
  reports := by
    rw [ho, (announces_finish e logs).reports]
    cases e.isLeader <;> rfl
  after := (announces_finish e logs).after e.role
  agree := (announces_finish e logs).agree e.role
  leader := by
    rw [ho]
    cases e.isLeader <;> rfl

theorem Reacts.isCandid (h : e.Reacts now event r) (he : e.IsPlain) : e.IsCandid event r := by
  cases h with
  | opened hphase s =>
    exact isCandid_of_isQuiet (by rw [hphase]; rfl) (isQuiet_logs []) rfl
  | unreachable hphase hevent log =>
    obtain ⟨o, ho, hleads⟩ := outcome?_of_isFailure .connect hevent
    exact isCandid_rest (by rw [hphase]; exact ho) hleads none (isQuiet_logs [log])
  | won hphase log =>
    have ho : outcome? e.phase.call? (.answered (.said true)) = some (.attempt true) := by
      rw [hphase]
      rfl
    refine ⟨?_, rfl, by simp [Agree, Effect.role?, Role.ofReport], ?_⟩
    · rw [ho]
      rfl
    · rw [ho]
      rfl
  | @refused s deadline hphase log =>
    exact isCandid_rest (o := .attempt false) (by rw [hphase]; rfl) rfl (some s)
      (isQuiet_logs [log])
  | @failed s deadline event hphase hevent log =>
    obtain ⟨o, ho, hleads⟩ := outcome?_of_isFailure (.tryLock s) hevent
    exact isCandid_rest (by rw [hphase]; exact ho) hleads none
      (by simp [IsQuiet, Effect.role?, Effect.report?])
  | confirmed hphase =>
    exact isCandid_of_isQuiet (by rw [hphase]; rfl) (isQuiet_logs []) rfl
  | @lost s deadline event hphase hevent log =>
    have houtcome : ∃ o, outcome? (some (.isHeld s)) event = some o ∧ o.leads = false := by
      rcases hevent with rfl | hfailure
      · exact ⟨.loss, rfl, rfl⟩
      · exact outcome?_of_isFailure (.isHeld s) hfailure
    obtain ⟨o, ho, hleads⟩ := houtcome
    exact isCandid_rest (by rw [hphase]; exact ho) hleads none
      (by simp [IsQuiet, Effect.role?, Effect.report?])
  | check hphase =>
    exact isCandid_of_isQuiet (by rw [hphase]; rfl) (isQuiet_logs []) rfl
  | @again session wake hphase =>
    have ho : outcome? e.phase.call? .due = none := by
      rw [hphase]
      rfl
    have hleader := he.isLeader_of_resting hphase
    cases session with
    | none => exact ⟨by rw [ho]; rfl, rfl, by simp [attempt, Agree], by rw [ho, hleader]; rfl⟩
    | some s => exact ⟨by rw [ho]; rfl, rfl, by simp [attempt, Agree], by rw [ho, hleader]; rfl⟩
  | giveBack hleads =>
    exact isCandid_of_isQuiet (outcome?_of_isEnd _ (Or.inl rfl)) (isQuiet_logs []) rfl
  | @givenBack s deadline event hphase hevent logs =>
    have houtcome : ∃ o, outcome? (some (.release s)) event = some o ∧ o.leads = false := by
      rcases hevent with ⟨yes, rfl⟩ | hfailure
      · exact ⟨.handover, rfl, rfl⟩
      · exact outcome?_of_isFailure (.release s) hfailure
    obtain ⟨o, ho, hleads⟩ := houtcome
    have hleader : e.isLeader = true := he.isLeader_of_holds? (s := s) (by rw [hphase]; rfl)
    apply isCandid_finish
    rw [hphase, Phase.call?, ho, Option.map_some, hleads, hleader, if_pos rfl]
  | cutOff hending hleads =>
    have hleader : e.isLeader = false := by
      rw [← Bool.not_eq_true]
      intro hleader
      obtain ⟨s, hs⟩ := he.isFrank hleader hending
      rw [hleads] at hs
      exact absurd hs.symm (Option.some_ne_none s)
    refine isCandid_finish ?_ []
    rw [outcome?_of_isEnd _ (Or.inl rfl), hleader, if_neg Bool.false_ne_true]
    rfl
  | gone =>
    exact isCandid_of_isQuiet (outcome?_of_isEnd _ (Or.inr rfl))
      (isQuiet_ends e.phase.session?.toList) rfl

/-! ## What becomes of a session -/

/-- Who finishes ends its session. -/
theorem endSession_mem_finish {s : SessionId} (hs : e.phase.session? = some s)
    (logs : List Effect) : .endSession s ∈ (e.finish logs).effects := by
  rw [finish, hs]
  simp

theorem endSession_mem_onAbandon {s : SessionId} (hs : e.phase.session? = some s) :
    .endSession s ∈ e.onAbandon.effects := by
  rw [onAbandon, hs]
  simp

/-- A lock is held on to, or the session that has it ends. -/
theorem Reacts.holds_or_ends (h : e.Reacts now event r) {s : SessionId}
    (hs : e.phase.holds? = some s) :
    r.elector.phase.holds? = some s ∨ .endSession s ∈ r.effects := by
  cases h with
  | confirmed hphase =>
    rw [hphase] at hs
    exact Or.inl hs
  | check hphase =>
    rw [hphase] at hs
    exact Or.inl hs
  | giveBack hleads =>
    rw [Phase.holds?_of_leads? hleads] at hs
    exact Or.inl hs
  | lost hphase hevent log =>
    rw [hphase] at hs
    obtain rfl := Option.some.inj hs
    exact Or.inr (by simp [rest])
  | givenBack hphase hevent logs =>
    rw [hphase] at hs
    exact Or.inr (endSession_mem_finish (by rw [hphase]; exact hs) _)
  | gone => exact Or.inr (endSession_mem_onAbandon (Phase.session?_of_holds? hs))
  | cutOff hending hleads =>
    rcases Phase.leads?_or_isEnding hs with hleads' | hending'
    · rw [hleads] at hleads'
      exact absurd hleads'.symm (Option.some_ne_none s)
    · rw [hending] at hending'
      exact absurd hending' Bool.false_ne_true
  | opened hphase s' => simp [hphase, Phase.holds?] at hs
  | unreachable hphase hevent log => simp [hphase, Phase.holds?] at hs
  | won hphase log => simp [hphase, Phase.holds?] at hs
  | refused hphase log => simp [hphase, Phase.holds?] at hs
  | failed hphase hevent log => simp [hphase, Phase.holds?] at hs
  | again hphase => simp [hphase, Phase.holds?] at hs

/-- Who tries for a lock leads with it, is refused, or ends the session. -/
theorem Reacts.leads_or_ends (h : e.Reacts now event r) {s : SessionId}
    (hs : e.phase.call? = some (.tryLock s)) (hevent : event ≠ .answered (.said false)) :
    r.elector.phase.leads? = some s ∨ .endSession s ∈ r.effects := by
  obtain ⟨deadline, htrying⟩ := Phase.eq_trying hs
  have hsession : e.phase.session? = some s := Phase.session?_of_call? hs
  cases h with
  | won hphase log =>
    rw [htrying] at hphase
    obtain ⟨rfl, -⟩ := Phase.trying.inj hphase
    exact Or.inl rfl
  | refused hphase log => exact absurd rfl hevent
  | failed hphase hevent log =>
    rw [htrying] at hphase
    obtain ⟨rfl, -⟩ := Phase.trying.inj hphase
    exact Or.inr (by simp [rest])
  | cutOff hending hleads => exact Or.inr (endSession_mem_finish hsession _)
  | gone => exact Or.inr (endSession_mem_onAbandon hsession)
  | giveBack hleads => simp [htrying, Phase.leads?] at hleads
  | opened hphase s' => simp [htrying] at hphase
  | unreachable hphase hevent log => simp [htrying] at hphase
  | confirmed hphase => simp [htrying] at hphase
  | lost hphase hevent log => simp [htrying] at hphase
  | check hphase => simp [htrying] at hphase
  | again hphase => simp [htrying] at hphase
  | givenBack hphase hevent logs => simp [htrying] at hphase

/-! ## When it acts next -/

/-- Who waits for a time waits for one to come. -/
theorem Reacts.le_due (h : e.Reacts now event r) {time : Nat}
    (hdue : r.elector.phase.due? = some time) : now ≤ time := by
  cases h with
  | again hphase =>
    rename_i session wake
    cases session with
    | none => exact Option.some.inj hdue ▸ Nat.le_add_right ..
    | some s => exact Option.some.inj hdue ▸ Nat.le_add_right ..
  | givenBack hphase hevent logs => simp [finish, become, Phase.due?] at hdue
  | cutOff hending hleads => simp [finish, become, Phase.due?] at hdue
  | gone => simp [onAbandon, Phase.due?] at hdue
  | _ => exact Option.some.inj hdue ▸ Nat.le_add_right ..

/-- Who leads has just been told that it has the lock. -/
theorem Reacts.of_leading (h : e.Reacts now event r) {s : SessionId} {wake : Nat}
    (hleading : r.elector.phase = .leading s wake) :
    event = .answered (.said true) ∧
      (e.phase.call? = some (.tryLock s) ∨ e.phase.call? = some (.isHeld s)) ∧
      wake = now + e.config.checkInterval.toMillisUp := by
  cases h with
  | won hphase log =>
    obtain ⟨rfl, rfl⟩ := Phase.leading.inj hleading
    exact ⟨rfl, Or.inl (by rw [hphase]; rfl), rfl⟩
  | confirmed hphase =>
    obtain ⟨rfl, rfl⟩ := Phase.leading.inj hleading
    exact ⟨rfl, Or.inr (by rw [hphase]; rfl), rfl⟩
  | again hphase =>
    rename_i session wake
    cases session <;> simp [attempt, become] at hleading
  | _ => simp [rest, finish, become, onAbandon] at hleading

/-- Who checks has waited until its time came. -/
theorem Reacts.of_checking (h : e.Reacts now event r) {s : SessionId} {deadline : Nat}
    (hchecking : r.elector.phase = .checking s deadline) :
    event = .due ∧ (∃ wake, e.phase = .leading s wake) ∧ deadline = e.deadline now := by
  cases h with
  | check hphase =>
    obtain ⟨rfl, rfl⟩ := Phase.checking.inj hchecking
    exact ⟨rfl, ⟨_, hphase⟩, rfl⟩
  | again hphase =>
    rename_i session wake
    cases session <;> simp [attempt, become] at hchecking
  | _ => simp [rest, finish, become, lead, onAbandon] at hchecking

/-- Who gives its lock back has led until it was told to stop. -/
theorem Reacts.of_releasing (h : e.Reacts now event r) {s : SessionId} {deadline : Nat}
    (hreleasing : r.elector.phase = .releasing s deadline) :
    event = .stop ∧ e.phase.leads? = some s ∧ deadline = e.deadline now ∧ r.effects = [] := by
  cases h with
  | giveBack hleads =>
    obtain ⟨rfl, rfl⟩ := Phase.releasing.inj hreleasing
    exact ⟨rfl, hleads, rfl, rfl⟩
  | again hphase =>
    rename_i session wake
    cases session <;> simp [attempt, become] at hreleasing
  | _ => simp [rest, finish, become, lead, onAbandon] at hreleasing

/-! ## What becomes of a stop -/

/-- Told to stop, an elector gives its lock back or finishes. -/
theorem Reacts.stops (h : e.Reacts now .stop r) :
    (∃ s, e.phase.leads? = some s ∧ r.elector.phase = .releasing s (e.deadline now) ∧
        r.effects = []) ∨
      r = e.finish [] := by
  cases h with
  | giveBack hleads => exact Or.inl ⟨_, hleads, rfl, rfl⟩
  | cutOff hending hleads => exact Or.inr rfl
  | unreachable hphase hevent log => simp [Event.isFailure] at hevent
  | failed hphase hevent log => simp [Event.isFailure] at hevent
  | lost hphase hevent log => simp [Event.isFailure] at hevent
  | givenBack hphase hevent logs => simp [Event.isFailure] at hevent

/-- Who gives a lock back finishes with the next event. -/
theorem Reacts.finishes (h : e.Reacts now event r) {s : SessionId} {deadline : Nat}
    (hreleasing : e.phase = .releasing s deadline)
    (hevent : ¬ (event = .stop ∨ event = .abandon)) :
    ∃ logs : List LogEvent, r = e.finish (logs.map .log) := by
  cases h with
  | givenBack hphase hevent' logs => exact ⟨logs, rfl⟩
  | giveBack hleads => exact absurd (Or.inl rfl) hevent
  | cutOff hending hleads => exact absurd (Or.inl rfl) hevent
  | gone => exact absurd (Or.inr rfl) hevent
  | opened hphase s' => simp [hreleasing] at hphase
  | unreachable hphase hevent' log => simp [hreleasing] at hphase
  | won hphase log => simp [hreleasing] at hphase
  | refused hphase log => simp [hreleasing] at hphase
  | failed hphase hevent' log => simp [hreleasing] at hphase
  | confirmed hphase => simp [hreleasing] at hphase
  | lost hphase hevent' log => simp [hreleasing] at hphase
  | check hphase => simp [hreleasing] at hphase
  | again hphase => simp [hreleasing] at hphase

/-- Nothing is left to learn for who has finished. -/
theorem Expects.phase_ne_finished (h : e.Expects event) (hevent : event ≠ .abandon) :
    e.phase ≠ .finished := by
  intro hphase
  cases event with
  | answered answer =>
    obtain ⟨call, hcall, -⟩ := h
    simp [hphase, Phase.call?] at hcall
  | due =>
    obtain ⟨time, htime⟩ := h
    simp [hphase, Phase.due?] at htime
  | stop => simp [Expects, hphase, Phase.isEnding] at h
  | abandon => exact hevent rfl

end Reacts

/-! ## What its owner wants -/

/-- How an elector stands with its owner after an event. -/
inductive Goes (standing : Standing) : Event → Standing → Prop where
  | on {event : Event} (h : ¬ (event = .stop ∨ event = .abandon)) : Goes standing event standing
  | stop (h : standing = .asked) : Goes standing .stop .stopping
  | abandon (h : standing = .dropped) : Goes standing .abandon .gone

/-- An elector does what its owner wants, as far as it knows. -/
structure Fits (e : Elector) (standing : Standing) : Prop where
  plain : e.IsPlain
  competes : standing.competes = true → e.phase.isEnding = false
  /-- Who noticed that it has to stop gives its lock back, or has finished and follows. -/
  stopping : standing = .stopping →
    (∃ s deadline, e.phase = .releasing s deadline) ∨ e.phase = .finished ∧ e.role = .follower
  gone : standing = .gone → e.phase = .finished

variable {e : Elector} {event : Event} {standing standing' : Standing}

/-- Wanting something changes nothing before it is noticed. -/
theorem Fits.want (h : e.Fits standing) (hbefore : standing.competes = true)
    (hafter : standing'.competes = true) : e.Fits standing' where
  plain := h.plain
  competes := fun _ => h.competes hbefore
  stopping := fun hstopping => by simp [hstopping, Standing.competes] at hafter
  gone := fun hgone => by simp [hgone, Standing.competes] at hafter

theorem Fits.step (h : e.Fits standing) (now : Nat) (hexpects : e.Expects event)
    (hgoes : Goes standing event standing') : (e.step now event).elector.Fits standing' := by
  have hreacts := reacts_step now hexpects
  have hplain := hreacts.isPlain h.plain
  have hending := (follows_step now h.plain.isFrank hexpects).ending
  cases hgoes with
  | on hgoes =>
    have hne : event ≠ .abandon := fun heq => hgoes (Or.inr heq)
    refine ⟨hplain, ?_, ?_, ?_⟩
    · intro hcompetes
      rw [← Bool.not_eq_true]
      intro hend
      rcases hending hend with hbefore | hevent
      · rw [h.competes hcompetes] at hbefore
        exact Bool.false_ne_true hbefore
      · exact hgoes hevent
    · intro hstopping
      rcases h.stopping hstopping with ⟨s, deadline, hphase⟩ | ⟨hphase, -⟩
      · obtain ⟨logs, heq⟩ := hreacts.finishes hphase hgoes
        rw [heq]
        exact Or.inr ⟨rfl, rfl⟩
      · exact absurd hphase (hexpects.phase_ne_finished hne)
    · intro hgone
      exact absurd (h.gone hgone) (hexpects.phase_ne_finished hne)
  | stop hasked =>
    refine ⟨hplain, fun hcompetes => absurd hcompetes Bool.false_ne_true, ?_,
      fun hgone => by simp at hgone⟩
    intro _
    rcases hreacts.stops with ⟨s, -, hphase, -⟩ | heq
    · exact Or.inl ⟨s, _, hphase⟩
    · rw [heq]
      exact Or.inr ⟨rfl, rfl⟩
  | abandon hdropped =>
    exact ⟨hplain, fun hcompetes => absurd hcompetes Bool.false_ne_true,
      fun hstopping => by simp at hstopping, fun _ => rfl⟩

/-- A new elector. -/
theorem fits_start (config : ElectionConfig) (key : LockKey) (now : Nat) :
    (start config key now).elector.Fits .running where
  plain := fun role hrole => Option.some.inj hrole
  competes := fun _ => rfl
  stopping := fun hstopping => by simp at hstopping
  gone := fun hgone => by simp at hgone

end Elector

end DocStore.Election
