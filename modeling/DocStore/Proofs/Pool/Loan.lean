import DocStore.Pool.Rehearsal
import DocStore.Proofs.Database.Path

/-!
# Lent connections

No connection of a pool that is idle has a transaction open on it (`Rehearsal.IsClean`).

* A connection that is lent is a fresh one: `IsClean.seek`.
* No operation leaves a transaction open: `IsClean.perform`.
* On a lent connection an operation comes to what its script comes to: `perform_of_loan`.
* An operation that makes something else of what another gives does what that one does:
  `perform_map`.
-/

namespace DocStore

variable {κ α β : Type}

/-- The same ending, with something else made of what is given. -/
def Ending.map (h : α → β) : Ending α → Ending β
  | .result r => .result (r.map h)
  | .cutOff => .cutOff

/-- The same play, with something else made of what is given. -/
def Played.map (h : α → β) (p : Played κ α) : Played κ β :=
  ⟨p.ending.map h, p.stage, p.memory, p.log⟩

/-- Something else is made of what a script gives. -/
theorem Script.playOn_bind_done (x : Script κ α) (h : α → β) (s : Stage) (memory : Option κ)
    (events : List LogEvent) :
    (x >>= fun a => .done (h a)).playOn s memory events = (x.playOn s memory events).map h := by
  rw [playOn_bind]
  obtain ⟨ending, s', memory', events'⟩ := x.playOn s memory events
  cases ending with
  | result r => cases r <;> rfl
  | cutOff => rfl

theorem Script.play_bind_done (x : Script κ α) (h : α → β) (s : Stage) (memory : Option κ) :
    (x >>= fun a => .done (h a)).play s memory = (x.play s memory).map h := by
  simp only [play, playOn_bind_done]
  rfl

end DocStore

namespace DocStore.Pool.Rehearsal

variable {κ α : Type} {r r' : Rehearsal}

/-- No idle connection has a transaction open. -/
def IsClean (r : Rehearsal) : Prop := ∀ link ∈ r.idle, link.depth = 0

theorem isClean_ofProvider (provider : ConnectionProvider) (server : Server) :
    (ofProvider provider server).IsClean := nofun

theorem IsClean.tell (h : r.IsClean) (event : Event) : (r.tell event).IsClean := by
  intro link hlink
  rw [Rehearsal.tell] at hlink
  dsimp only at hlink
  split at hlink
  · exact h link hlink
  · exact absurd hlink List.not_mem_nil

theorem IsClean.report (h : r.IsClean) (events : List LogEvent) : (r.report events).IsClean := h

theorem IsClean.blame (h : r.IsClean) (reporter : Reporter) (operation : String)
    (result : Except StoreError α) : (r.blame reporter operation result).IsClean := by
  cases result with
  | ok a => exact h
  | error e => exact h

theorem IsClean.giveBack (h : r.IsClean) {loan : Loan}
    (hloan : loan.link.alive = true → loan.link.depth = 0) : (r.giveBack loan).IsClean := by
  intro link hlink
  rw [Rehearsal.giveBack] at hlink
  split at hlink
  · dsimp only at hlink
    split at hlink
    · next halive =>
      rcases List.mem_cons.1 hlink with rfl | hlink
      · exact hloan halive
      · exact h link hlink
    · exact h link hlink
  · exact h link hlink

/-! ## Getting a connection -/

/-- A connection that is made is a new one. -/
theorem link_of_connect {server server' : Server} {o : ConnectOptions} {link : Link}
    (h : server.connect o = (.link link, server')) : link = .fresh := by
  rw [Server.connect] at h
  -- The kernel would spell out the texts of the faults.
  generalize Server.encryptionFault = fault at h
  generalize DatabaseFault.ended = fault' at h
  split at h
  · exact nomatch h
  · split at h
    · exact nomatch h
    · split at h <;> cases h <;> rfl

/-- Which limit ends a wait does not matter: it stands for any.  The kernel would count out
nanoseconds one by one to find it. -/
theorem IsClean.openPool_of {limitOf : Rehearsal → Option Duration → Limit}
    (hlimit : openingLimit = limitOf) (h : r.IsClean) (deadline : Option Duration) :
    (r.openPool deadline).IsClean := by
  rw [Rehearsal.openPool, hlimit]
  split
  · exact h
  · next call options _ =>
    have hclean (server : Server) : ({ r with server } : Rehearsal).IsClean := h
    generalize hconnect : r.server.connect options = connection
    obtain ⟨connected, server⟩ := connection
    cases connected with
    | link link =>
      intro link' hlink'
      rw [List.mem_singleton.1 hlink', link_of_connect hconnect]
      rfl
    | fault fault => exact (hclean server).tell _
    | never =>
      dsimp only
      split <;> exact (hclean server).tell _

theorem IsClean.openPool (h : r.IsClean) (deadline : Option Duration) :
    (r.openPool deadline).IsClean :=
  h.openPool_of rfl deadline

theorem IsClean.waitInVain (h : r.IsClean) (call : CallId) (deadline : Option Duration) :
    (r.waitInVain call deadline).IsClean := by
  rw [Rehearsal.waitInVain]
  split <;> exact h.tell _

/-- A call that gets a connection gets a fresh one. -/
theorem IsClean.lease (h : r.IsClean) (call : CallId) (deadline : Option Duration) :
    (∀ link ∈ (r.lease call deadline).1, link = .fresh) ∧ (r.lease call deadline).2.IsClean := by
  rw [Rehearsal.lease]
  split
  · next link idle hidle =>
    have hmem : ∀ link' ∈ link :: idle, link'.depth = 0 ∧ link'.alive = true := by
      intro link' hlink'
      rw [← hidle, List.mem_filter] at hlink'
      exact ⟨h link' hlink'.1, hlink'.2⟩
    constructor
    · rintro link' ⟨⟩
      obtain ⟨hdepth, halive⟩ := hmem link List.mem_cons_self
      obtain ⟨depth, alive⟩ := link
      subst hdepth halive
      rfl
    · exact IsClean.tell (fun link' hlink' => (hmem link' (List.mem_cons_of_mem link hlink')).1) _
  · have hempty : ({ r with idle := [] } : Rehearsal).IsClean := nofun
    dsimp only
    split
    · exact ⟨nofun, hempty.waitInVain _ _⟩
    · generalize hconnect : Server.connect _ _ = connection
      obtain ⟨connected, server⟩ := connection
      have hclean : ({ r with idle := [], server } : Rehearsal).IsClean := nofun
      cases connected with
      | link link =>
        have hlent : ({ r with idle := [], lent := r.lent + 1, server } : Rehearsal).IsClean :=
          nofun
        refine ⟨?_, hlent.tell _⟩
        rintro link' ⟨⟩
        exact link_of_connect hconnect
      | fault fault => exact ⟨nofun, hclean.tell _⟩
      | never => exact ⟨nofun, hclean.waitInVain _ _⟩

/-- What a call came to is a loan only of the connection it was given. -/
theorem link_of_sought {call : CallId} {link? : Option Link} {grant : Grant} {loan : Loan}
    (h : r.sought call link? = .loan grant loan) : link? = some loan.link := by
  unfold sought at h
  split at h
  · exact nomatch h
  · obtain ⟨-, rfl⟩ := Sought.loan.inj h
    rfl
  · obtain ⟨-, rfl⟩ := Sought.loan.inj h
    rfl
  · exact nomatch h

/-- The pool lends fresh connections. -/
theorem IsClean.seek (h : r.IsClean) (want : Want) (deadline : Option Duration) :
    (∀ grant loan, (r.seek want deadline).1 = .loan grant loan → loan.link = .fresh) ∧
      (r.seek want deadline).2.IsClean := by
  have hopened : (((r.tell (.ask want)).tell .turn).openPool deadline).IsClean :=
    ((h.tell _).tell _).openPool deadline
  rw [Rehearsal.seek]
  dsimp only
  split
  · exact ⟨fun grant loan hloan => (nomatch link_of_sought hloan), hopened⟩
  · obtain ⟨hfresh, hclean⟩ := hopened.lease r.desk.calls deadline
    exact ⟨fun grant loan hloan => hfresh _ (link_of_sought hloan), hclean⟩

/-! ## Operations -/

variable {reporter : Reporter} {timeout : Duration} {op : Operation κ α} {memory : Option κ}

/-- A refused operation asks for nothing. -/
theorem perform_of_refusal {e : StoreError} (h : op.refusal = some e) :
    r.perform reporter timeout op memory =
      ⟨.error e, memory, r.report [reporter.failed op.name e]⟩ := by
  rw [perform, h]
  rfl

/-- Behind a script that was played outside of any transaction nothing is open. -/
theorem depth_play (memory : Option κ) (script : Script κ α) (outcomes : List Outcome)
    (halive : (script.play ⟨.fresh, outcomes, []⟩ memory).stage.link.alive = true) :
    (script.play ⟨.fresh, outcomes, []⟩ memory).stage.link.depth = 0 :=
  Stage.depth_unwind_zero halive

@[simp] theorem server_tell (event : Event) : (r.tell event).server = r.server := rfl

@[simp] theorem server_report (events : List LogEvent) : (r.report events).server = r.server := rfl

@[simp] theorem server_giveBack (loan : Loan) : (r.giveBack loan).server = r.server := by
  rw [giveBack]
  split <;> rfl

@[simp] theorem server_blame (operation : String) (result : Except StoreError α) :
    (r.blame reporter operation result).server = r.server := by
  cases result <;> rfl

/-- The pool is clean after every operation. -/
theorem IsClean.perform (h : r.IsClean) (reporter : Reporter) (timeout : Duration)
    (op : Operation κ α) (memory : Option κ) :
    (r.perform reporter timeout op memory).rehearsal.IsClean := by
  obtain ⟨hfresh, hclean⟩ := h.seek .lease (some timeout)
  rw [Rehearsal.perform]
  dsimp only
  split
  · exact h.blame reporter op.name _
  · split
    · next e r' hseek =>
      rw [hseek] at hclean
      exact hclean.blame reporter op.name _
    · next r' hseek =>
      rw [hseek] at hclean
      exact hclean.blame reporter op.name _
    · next grant loan r' hseek =>
      rw [hseek] at hclean hfresh
      have hback (server : Server) (link : Link) (hlink : link.alive = true → link.depth = 0) :
          ({ r' with server }.giveBack { loan with link }).IsClean :=
        IsClean.giveBack (r := { r' with server }) hclean hlink
      have hlink := depth_play memory (op.script false) r'.server.outcomes
      rw [← hfresh grant loan rfl] at hlink
      split
      · exact ((hback _ _ hlink).report _ |>.tell _).blame reporter op.name _
      · exact ((hback _ _ hlink).report _ |>.tell _).blame reporter op.name _

/-- On a lent connection an operation comes to what its script comes to. -/
theorem perform_of_loan (reporter : Reporter) (memory : Option κ) (hclean : r.IsClean)
    (hrefusal : op.refusal = none) {grant : Grant} {loan : Loan}
    (hseek : r.seek .lease (some timeout) = (.loan grant loan, r')) :
    let played := (op.script false).play ⟨.fresh, r'.server.outcomes, []⟩ memory
    let performed := r.perform reporter timeout op memory
    performed.result = played.ending.told (reporter.overdue op.name timeout.shown) ∧
      performed.rehearsal.server.seen =
        r'.server.seen ++ played.stage.sent.map Sighting.statement := by
  have hfresh : loan.link = .fresh :=
    (hclean.seek .lease (some timeout)).1 grant loan (congrArg Prod.fst hseek)
  simp only [Rehearsal.perform, hrefusal, hseek, hfresh, Server.play]
  cases ((op.script false).play ⟨.fresh, r'.server.outcomes, []⟩ memory).ending with
  | result result => exact ⟨rfl, by simp [Server.after]⟩
  | cutOff => exact ⟨rfl, by simp [Server.after]⟩

/-- The store remembers what the script has let it remember. -/
theorem memory_perform_of_loan (reporter : Reporter) (memory : Option κ) (hclean : r.IsClean)
    (hrefusal : op.refusal = none) {grant : Grant} {loan : Loan}
    (hseek : r.seek .lease (some timeout) = (.loan grant loan, r')) :
    (r.perform reporter timeout op memory).memory =
      ((op.script false).play ⟨.fresh, r'.server.outcomes, []⟩ memory).memory := by
  have hfresh : loan.link = .fresh :=
    (hclean.seek .lease (some timeout)).1 grant loan (congrArg Prod.fst hseek)
  simp only [Rehearsal.perform, hrefusal, hseek, hfresh, Server.play]
  cases ((op.script false).play ⟨.fresh, r'.server.outcomes, []⟩ memory).ending <;> rfl

/-- So it is on a connection of the caller. -/
theorem performOn_of_script (reporter : Reporter) (memory : Option κ) (hrefusal : op.refusal = none)
    (link : Link) :
    let played := (op.script true).play ⟨link, r.server.outcomes, []⟩ memory
    let performed := (r.performOn link reporter timeout op memory).1
    performed.result = played.ending.told (reporter.overdue op.name timeout.shown) ∧
      performed.memory = played.memory ∧
      performed.rehearsal.server.seen =
        r.server.seen ++ played.stage.sent.map Sighting.statement := by
  simp only [Rehearsal.performOn, hrefusal, Server.play]
  cases ((op.script true).play ⟨link, r.server.outcomes, []⟩ memory).ending with
  | result result => exact ⟨rfl, trivial, by simp [Server.after, pin]⟩
  | cutOff => exact ⟨rfl, trivial, by simp [Server.after, pin]⟩

/-- A refused operation sends nothing. -/
theorem performOn_of_refusal {e : StoreError} (h : op.refusal = some e) (link : Link) :
    (r.performOn link reporter timeout op memory).1 =
      ⟨.error e, memory, r.report [reporter.failed op.name e]⟩ := by
  rw [performOn, h]

/-- Two operations whose scripts come to the same come to the same. -/
theorem perform_congr {op' : Operation κ α} (hname : op.name = op'.name)
    (hrefusal : op.refusal = op'.refusal)
    (hplay : ∀ s, (op.script false).play s memory = (op'.script false).play s memory) :
    r.perform reporter timeout op memory = r.perform reporter timeout op' memory := by
  simp only [Rehearsal.perform, Server.play, hname, hrefusal, hplay]

/-- It is enough that they do so on the connection that is lent. -/
theorem perform_congr_of_seek {op' : Operation κ α} (hname : op.name = op'.name)
    (hrefusal : op.refusal = op'.refusal)
    (hplay : ∀ grant loan r', r.seek .lease (some timeout) = (.loan grant loan, r') →
      (op.script false).play ⟨loan.link, r'.server.outcomes, []⟩ memory =
        (op'.script false).play ⟨loan.link, r'.server.outcomes, []⟩ memory) :
    r.perform reporter timeout op memory = r.perform reporter timeout op' memory := by
  simp only [Rehearsal.perform, hname, hrefusal]
  generalize r.seek .lease (some timeout) = sought at hplay
  obtain ⟨sought, r'⟩ := sought
  cases sought with
  | failed e => rfl
  | cutOff => rfl
  | loan grant loan => simp only [Server.play, hplay grant loan r' rfl]

/-- An operation whose script gives an image of what another gives does the same and gives the
image. -/
theorem perform_map {β : Type} {op' : Operation κ β} (h : α → β) (hname : op'.name = op.name)
    (hrefusal : op'.refusal = op.refusal)
    (hplay : ∀ grant loan r', r.seek .lease (some timeout) = (.loan grant loan, r') →
      (op'.script false).play ⟨loan.link, r'.server.outcomes, []⟩ memory =
        ((op.script false).play ⟨loan.link, r'.server.outcomes, []⟩ memory).map h) :
    let performed := r.perform reporter timeout op memory
    r.perform reporter timeout op' memory =
      ⟨performed.result.map h, performed.memory, performed.rehearsal⟩ := by
  simp only [Rehearsal.perform, hname, hrefusal]
  cases op.refusal with
  | some e => rfl
  | none =>
    generalize r.seek .lease (some timeout) = sought at hplay
    obtain ⟨sought, r'⟩ := sought
    cases sought with
    | failed e => rfl
    | cutOff => rfl
    | loan grant loan =>
      simp only [Server.play, hplay grant loan r' rfl]
      generalize (op.script false).play ⟨loan.link, r'.server.outcomes, []⟩ memory = played
      obtain ⟨ending, stage, memory', events⟩ := played
      cases ending with
      | result result => cases result <;> rfl
      | cutOff => rfl

/-- What an operation gives is what its script gives on some path. -/
theorem path_of_perform {a : α} (h : (r.perform reporter timeout op memory).result = .ok a) :
    ∃ past, (op.script false).Path past (.done a) := by
  rw [Rehearsal.perform] at h
  dsimp only at h
  split at h
  · exact nomatch h
  · split at h
    · exact nomatch h
    · exact nomatch h
    · split at h
      · rename_i hending
        obtain rfl := h
        exact Script.Path.of_playOn hending
      · exact nomatch h

theorem performOn_congr {op' : Operation κ α} (hname : op.name = op'.name)
    (hrefusal : op.refusal = op'.refusal)
    (hplay : ∀ s, (op.script true).play s memory = (op'.script true).play s memory) (link : Link) :
    r.performOn link reporter timeout op memory = r.performOn link reporter timeout op' memory := by
  simp only [Rehearsal.performOn, Server.play, hname, hrefusal, hplay]

end DocStore.Pool.Rehearsal
