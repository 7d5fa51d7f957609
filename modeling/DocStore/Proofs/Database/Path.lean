import DocStore.Proofs.Database.Course

/-!
# Paths through a script

A script that is interleaved with others is not played to its end in one go.  A path
(`Script.Path`) is what it has asked and what was replied, up to the place where it stands;
what its store remembers on the way is left open, since others may set it.

* A path through two scripts in sequence ends in the first one or goes through it:
  `Path.of_bind`.
* What is true of all commands of a script (`Script.Sends`) is true of those on its paths:
  `Path.sends`.
-/

namespace DocStore.Script

variable {κ α β : Type}

/-- From a script to where it stands when these commands were replied to. -/
inductive Path : Script κ α → List (Command × Reply) → Script κ α → Prop where
  | refl (x : Script κ α) : Path x [] x
  | ask {c : Command} {next : Reply → Script κ α} {r : Reply} {past : List (Command × Reply)}
      {y : Script κ α} (h : Path (next r) past y) : Path (.ask c next) ((c, r) :: past) y
  | log {e : LogEvent} {next : Script κ α} {past : List (Command × Reply)} {y : Script κ α}
      (h : Path next past y) : Path (.log e next) past y
  | inspect {next : Option κ → Script κ α} {known : Option κ} {past : List (Command × Reply)}
      {y : Script κ α} (h : Path (next known) past y) : Path (.inspect next) past y
  | remember {k : κ} {next : Script κ α} {past : List (Command × Reply)} {y : Script κ α}
      (h : Path next past y) : Path (.remember k next) past y

namespace Path

variable {past : List (Command × Reply)}

theorem trans {x y z : Script κ α} {later : List (Command × Reply)} (h : Path x past y)
    (h' : Path y later z) : Path x (past ++ later) z := by
  induction h with
  | refl x => exact h'
  | ask _ ih => exact .ask (ih h')
  | log _ ih => exact .log (ih h')
  | inspect _ ih => exact .inspect (ih h')
  | remember _ ih => exact .remember (ih h')

/-- One more reply. -/
theorem concat {x : Script κ α} {c : Command} {next : Reply → Script κ α}
    (h : Path x past (.ask c next)) (r : Reply) : Path x (past ++ [(c, r)]) (next r) :=
  h.trans (.ask (.refl _))

theorem of_done {a : α} {y : Script κ α} (h : Path (.done a) past y) : past = [] ∧ y = .done a := by
  cases h
  exact ⟨rfl, rfl⟩

theorem of_fail {e : StoreError} {y : Script κ α} (h : Path (.fail e) past y) :
    past = [] ∧ y = .fail e := by
  cases h
  exact ⟨rfl, rfl⟩

/-- The first of two scripts has come to its end on the way, or it has not. -/
theorem of_bind {x : Script κ α} {f : α → Script κ β} {y : Script κ β}
    (h : Path (x >>= f) past y) :
    (∃ x', Path x past x' ∧ y = x' >>= f) ∨
      ∃ a first second, past = first ++ second ∧ Path x first (.done a) ∧ Path (f a) second y := by
  induction x generalizing past with
  | done a => exact .inr ⟨a, [], past, rfl, .refl _, h⟩
  | fail e =>
    obtain ⟨rfl, rfl⟩ := of_fail h
    exact .inl ⟨.fail e, .refl _, rfl⟩
  | ask c next ih =>
    cases h with
    | refl => exact .inl ⟨.ask c next, .refl _, rfl⟩
    | ask h =>
      rcases ih _ h with ⟨x', hx', rfl⟩ | ⟨a, first, second, rfl, hfirst, hsecond⟩
      · exact .inl ⟨x', .ask hx', rfl⟩
      · exact .inr ⟨a, _ :: first, second, rfl, .ask hfirst, hsecond⟩
  | log e next ih =>
    cases h with
    | refl => exact .inl ⟨.log e next, .refl _, rfl⟩
    | log h =>
      rcases ih h with ⟨x', hx', rfl⟩ | ⟨a, first, second, rfl, hfirst, hsecond⟩
      · exact .inl ⟨x', .log hx', rfl⟩
      · exact .inr ⟨a, first, second, rfl, .log hfirst, hsecond⟩
  | inspect next ih =>
    cases h with
    | refl => exact .inl ⟨.inspect next, .refl _, rfl⟩
    | inspect h =>
      rcases ih _ h with ⟨x', hx', rfl⟩ | ⟨a, first, second, rfl, hfirst, hsecond⟩
      · exact .inl ⟨x', .inspect hx', rfl⟩
      · exact .inr ⟨a, first, second, rfl, .inspect hfirst, hsecond⟩
  | remember k next ih =>
    cases h with
    | refl => exact .inl ⟨.remember k next, .refl _, rfl⟩
    | remember h =>
      rcases ih h with ⟨x', hx', rfl⟩ | ⟨a, first, second, rfl, hfirst, hsecond⟩
      · exact .inl ⟨x', .remember hx', rfl⟩
      · exact .inr ⟨a, first, second, rfl, .remember hfirst, hsecond⟩

/-- Two scripts in sequence that came to their end both did. -/
theorem of_bind_done {x : Script κ α} {f : α → Script κ β} {b : β}
    (h : Path (x >>= f) past (.done b)) :
    ∃ a first second, past = first ++ second ∧ Path x first (.done a) ∧
      Path (f a) second (.done b) := by
  rcases of_bind h with ⟨x', hx', heq⟩ | hboth
  · cases x' with
    | done a => exact ⟨a, past, [], (List.append_nil _).symm, hx', heq ▸ .refl _⟩
    | _ => exact nomatch heq
  · exact hboth

/-- An answer came first, if the script has got beyond it. -/
theorem of_sendOr {toError : DatabaseFault → StoreError} {c : Command}
    {f : Answer → Script κ β} {b : β} (h : Path (sendOr toError c >>= f) past (.done b)) :
    ∃ a later, past = (c, .ok a) :: later ∧ Path (f a) later (.done b) := by
  rw [sendOr, ask_bind] at h
  cases h with
  | @ask _ _ r later _ h =>
    cases r with
    | ok a => exact ⟨a, later, rfl, h⟩
    | error fault =>
      obtain ⟨-, hdone⟩ := of_fail h
      cases hdone

theorem of_lift {r : Except StoreError α} {f : α → Script κ β} {b : β}
    (h : Path (lift r >>= f) past (.done b)) : ∃ a, r = .ok a ∧ Path (f a) past (.done b) := by
  cases r with
  | ok a => exact ⟨a, rfl, h⟩
  | error e => exact nomatch (of_fail h).2

theorem of_commit {f : Unit → Script κ β} {b : β} (h : Path (commit >>= f) past (.done b)) :
    ∃ a later, past = (.commit, .ok a) :: later ∧ Path (f ()) later (.done b) := by
  rw [commit, bind_assoc] at h
  exact of_sendOr h

/-- A transaction that came to its end was begun, went through and was committed. -/
theorem of_transaction_done {body : Script κ α} {b : α}
    (h : Path (transaction body) past (.done b)) :
    ∃ a a' inner, past = (.begin, .ok a) :: (inner ++ [(.commit, .ok a')]) ∧
      Path body inner (.done b) := by
  obtain ⟨a, later, rfl, hlater⟩ := of_sendOr h
  obtain ⟨given, inner, ending, rfl, hinner, hending⟩ := of_bind_done hlater
  obtain ⟨a', rest, rfl, hrest⟩ := of_commit hending
  obtain ⟨rfl, hdone⟩ := of_done hrest
  obtain rfl := Script.done.inj hdone
  exact ⟨a, a', inner, rfl, hinner⟩

/-- A script that gives something when it is played has come to its end on a path. -/
theorem of_playOn {x : Script κ α} {s : Stage} {memory : Option κ} {events : List LogEvent} {a : α}
    (h : (x.playOn s memory events).ending = .result (.ok a)) : ∃ past, Path x past (.done a) := by
  induction x generalizing s memory events with
  | done b =>
    cases h
    exact ⟨[], .refl _⟩
  | fail e => cases h
  | ask c next ih =>
    rw [playOn] at h
    split at h
    · obtain ⟨past, hpast⟩ := ih _ h
      exact ⟨_, .ask hpast⟩
    · cases h
  | log e next ih =>
    obtain ⟨past, hpast⟩ := ih h
    exact ⟨past, .log hpast⟩
  | inspect next ih =>
    obtain ⟨past, hpast⟩ := ih _ h
    exact ⟨past, .inspect hpast⟩
  | remember k next ih =>
    obtain ⟨past, hpast⟩ := ih h
    exact ⟨past, .remember hpast⟩

/-- A transaction stands before its begin, inside, or before its commit. -/
theorem of_transaction {body : Script κ α} {c : Command} {next : Reply → Script κ α}
    (h : Path (transaction body) past (.ask c next)) :
    c = .begin ∨ ∃ a later, past = (.begin, .ok a) :: later ∧
      ((∃ next', Path body later (.ask c next')) ∨
        ∃ b, Path body later (.done b) ∧ c = .commit) := by
  cases h with
  | refl => exact .inl rfl
  | @ask _ _ r later _ h =>
    cases r with
    | error fault => exact nomatch (of_fail h).2
    | ok a =>
      refine .inr ⟨a, later, rfl, ?_⟩
      replace h : Path (body >>= fun b => commit >>= fun _ => done b) later (.ask c next) := h
      rcases of_bind h with ⟨x', hx', heq⟩ | ⟨b, first, second, rfl, hfirst, hsecond⟩
      · cases x' with
        | ask c' next' =>
          obtain ⟨rfl, -⟩ := Script.ask.inj heq
          exact .inl ⟨next', hx'⟩
        | done b =>
          obtain ⟨rfl, -⟩ := Script.ask.inj heq
          exact .inr ⟨b, hx', rfl⟩
        | _ => exact nomatch heq
      · cases hsecond with
        | refl => exact .inr ⟨b, by rwa [List.append_nil], rfl⟩
        | @ask _ _ r _ _ h =>
          cases r with
          | error fault => exact nomatch (of_fail h).2
          | ok a => exact nomatch (of_done h).2

end Path

/-! ## What all commands have in common -/

/-- All commands that the script can send are such, if what is replied is as `given`. -/
def Sends (given : Command → Reply → Prop) (P : Command → Prop) : Script κ α → Prop
  | done _ | fail _ => True
  | ask c next => P c ∧ ∀ r, given c r → (next r).Sends given P
  | log _ next | remember _ next => next.Sends given P
  | inspect next => ∀ known, (next known).Sends given P

variable {given : Command → Reply → Prop} {P : Command → Prop}

theorem Sends.bind {x : Script κ α} {f : α → Script κ β} (hx : x.Sends given P)
    (hf : ∀ a, (f a).Sends given P) : (x >>= f).Sends given P := by
  induction x with
  | done a => exact hf a
  | fail e => trivial
  | ask c next ih => exact ⟨hx.1, fun r hr => ih r (hx.2 r hr)⟩
  | log e next ih => exact ih hx
  | inspect next ih => exact fun known => ih known (hx known)
  | remember k next ih => exact ih hx

theorem sends_sendOr {toError : DatabaseFault → StoreError} {c : Command}
    {f : Answer → Script κ α} (hc : P c) (hf : ∀ a, given c (.ok a) → (f a).Sends given P) :
    (sendOr toError c >>= f).Sends given P := by
  refine ⟨hc, fun r hr => ?_⟩
  cases r with
  | ok a => exact hf a hr
  | error fault => trivial

theorem sends_lift {r : Except StoreError α} {f : α → Script κ β}
    (hf : ∀ a, r = .ok a → (f a).Sends given P) : (lift r >>= f).Sends given P := by
  cases r with
  | ok a => exact hf a rfl
  | error e => trivial

theorem sends_commit (hcommit : P .commit) : (commit : Script κ Unit).Sends given P :=
  sends_sendOr hcommit fun _ _ => trivial

theorem sends_transaction {body : Script κ α} (hbegin : P .begin)
    (hbody : body.Sends given P) (hcommit : P .commit) : (transaction body).Sends given P :=
  sends_sendOr hbegin fun _ _ => hbody.bind fun _ => (sends_commit hcommit).bind fun _ => trivial

theorem Path.sends {x y : Script κ α} {past : List (Command × Reply)} (h : Path x past y)
    (hx : x.Sends given P) (hpast : ∀ e ∈ past, given e.1 e.2) :
    (∀ e ∈ past, P e.1) ∧ y.Sends given P := by
  induction h with
  | refl x => exact ⟨nofun, hx⟩
  | ask _ ih =>
    obtain ⟨hfirst, hlater⟩ := List.forall_mem_cons.1 hpast
    obtain ⟨hsent, hy⟩ := ih (hx.2 _ hfirst) hlater
    exact ⟨List.forall_mem_cons.2 ⟨hx.1, hsent⟩, hy⟩
  | log _ ih => exact ih hx hpast
  | inspect _ ih => exact ih (hx _) hpast
  | remember _ ih => exact ih hx hpast

end DocStore.Script
