import PiDaemon.Lib.Runs
import PiDaemon.Multiplexer.TurnInvariant

/-!
# Runs of the turns

Every step of `turnStep` keeps `TurnInv`, so every run from an idle host does.

* `TurnInv.step`: the step lemma, one case for each await of a wake;
* `turns_serialized`: what the invariant says of the hosts that a run reaches.
-/

namespace PiDaemon.Multiplexer

open Lib Durability Option

/-- A host on which no wake has been admitted yet. -/
structure Idle (h : Host) : Prop where
  wakes : h.wakes.next = 0
  pending : ∀ i, (h.slot i).pendingTurns = 0
  tails : ∀ i, (h.slot i).turnTail = none
  turns : h.turns = ⟨h.limits.maxConcurrentTurns, 0, []⟩
  prompts : h.prompts = []

theorem Idle.turnInv {h : Host} (hi : Idle h) : TurnInv h := by
  have hno : ∀ w, ¬ w < h.wakes.next := fun w => by
    rw [hi.wakes]
    exact Nat.not_lt_zero w
  have hcount : ∀ p : Wake → Bool, h.wakes.count p = 0 := fun p =>
    Heap.count_eq_zero.mpr fun w hw => absurd hw (hno w)
  refine ⟨⟨fun i => ?_, fun i => ?_⟩, ⟨?_, ?_, ?_, ?_, ?_, fun w hw => absurd hw (hno w)⟩,
    ⟨fun i => ?_, fun w hw => absurd hw (hno w), fun w hw => absurd hw (hno w), ?_, ?_⟩⟩
  · rw [hi.pending, hcount]
    rfl
  · rw [hi.pending]
    omega
  · rw [hi.turns, hcount]
    rfl
  · rw [hi.turns]
    exact Int.natCast_nonneg _
  · rw [hi.turns]
  · rw [hi.turns]
    exact List.nodup_nil
  · rw [hi.turns]
    intro w hw
    cases hw
  · rw [hi.tails]
    exact Chained.nil fun w hw => hno w hw.1
  · rw [hi.prompts]
    intro p hp
    cases hp
  · rw [hi.prompts]
    exact List.Pairwise.nil

/-! ## The steps of a wake -/

theorem turnSettled_iff (pc : WakePc) : Host.turnSettled pc = true ↔ 5 ≤ pc.stage := by
  cases pc <;> simp [Host.turnSettled, WakePc.stage]

theorem Host.ready_of_turnReady {h : Host} {w : WakeId} (hr : h.turnReady w = true) :
    Ready h.after h.Settled w := by
  unfold Host.turnReady at hr
  split at hr
  · rename_i e
    exact Or.inl e
  · rename_i p e
    exact Or.inr ⟨p, e, (turnSettled_iff _).mp hr⟩

section
variable {h : Host} {w : WakeId}

theorem TurnInv.failTurn (hi : TurnInv h) (h3 : 3 ≤ (h.wakeOf w).stage)
    (h4 : (h.wakeOf w).stage ≤ 4) (ha : (h.wakeOf w).pc ≠ .acquire) (code : ErrorCode) :
    TurnInv (h.failTurn w code) := by
  have hs := hi.of_same (sameTurns_setSlot h (h.wakeOf w).slot (f := fun s =>
    { s with state := if code = .aborted then .idle else .failed, lastUsedAt := h.clock })
    (fun _ => rfl) fun _ => rfl)
  exact hs.goto h3 h4 (Nat.le_refl 4) ha

theorem TurnInv.catchTurn (hi : TurnInv h) (h3 : 3 ≤ (h.wakeOf w).stage)
    (h4 : (h.wakeOf w).stage ≤ 4) (ha : (h.wakeOf w).pc ≠ .acquire) (code : ErrorCode) :
    TurnInv (h.catchTurn w code) := by
  unfold Host.catchTurn
  split
  · exact hi.goto h3 h4 (Nat.le_refl 4) ha
  · exact hi.failTurn h3 h4 ha code

theorem TurnInv.turnRunning (hi : TurnInv h) (h3 : (h.wakeOf w).stage = 3)
    (ha : (h.wakeOf w).pc ≠ .acquire) : TurnInv (h.turnRunning w) := by
  have hs := hi.of_same (sameTurns_setSlot h (h.wakeOf w).slot (f := fun s =>
    { s with state := .running, lastUsedAt := h.clock }) (fun _ => rfl) fun _ => rfl)
  exact hs.goto (Nat.le_of_eq h3.symm) (Nat.le_of_eq h3) (by decide) ha

theorem TurnInv.turnIdle (hi : TurnInv h) (h4 : (h.wakeOf w).stage = 4)
    (ha : (h.wakeOf w).pc ≠ .acquire) : TurnInv (h.turnIdle w) := by
  have hs := hi.of_same (sameTurns_setSlot h (h.wakeOf w).slot (f := fun s =>
    { s with state := .idle, lastUsedAt := h.clock }) (fun _ => rfl) fun _ => rfl)
  exact hs.goto (show 3 ≤ (h.wakeOf w).stage by omega) (Nat.le_of_eq h4) (by decide) ha

theorem TurnInv.runWake (hi : TurnInv h) (hw : w < h.wakes.next) (h2 : (h.wakeOf w).stage = 2)
    (hr : Ready h.after h.Settled w) : TurnInv (h.runWake w) := by
  unfold Host.runWake
  simp only
  split
  · have hper : (h.wakeOf w).permit = false := by
      cases hp : (h.wakeOf w).permit with
      | false => rfl
      | true =>
        have : 3 ≤ (h.wakeOf w).stage := hi.metered.started w hw hp
        omega
    have h25 : 2 ≤ 5 ↔ 2 ≤ (h.wakeOf w).stage := by omega
    refine hi.setWake ⟨rfl, rfl, rfl, show _ ≤ 5 by omega,
      Wake.WellStaged.of_stage rfl h25 (by omega)⟩ (show 5 < 6 ↔ _ by omega) (fun _ _ => Or.inr hr)
      hper.symm fun e => ?_
    unfold Wake.stage at h2
    rw [e] at h2
    cases h2
  · have hs := hi.of_same (sameTurns_setSlot h (h.wakeOf w).slot (f := fun s =>
      { s with activeAbort := some w }) (fun _ => rfl) fun _ => rfl)
    exact hs.acquire hw h2 hr

theorem TurnInv.prepareWake (hi : TurnInv h) (hw : w < h.wakes.next)
    (h0 : (h.wakeOf w).stage = 0) (hn : h.beginsNext w = true) (answer : Answer) :
    TurnInv (h.prepareWake w answer) := by
  have hrelease : ∀ error, TurnInv (h.releaseReservation w error) :=
    fun error => hi.releaseReservation hw (Or.inl (by omega)) error
  have hpass : TurnInv (if (h.slot (h.wakeOf w).slot).state = .failed then h.goto w .refuse
      else h.linkTurn w) := by
    split
    · have h01 : 2 ≤ 1 ↔ 2 ≤ (h.wakeOf w).stage := by omega
      refine hi.setWake ⟨rfl, rfl, rfl, show _ ≤ 1 by omega,
        Wake.WellStaged.of_stage rfl h01 (by omega)⟩ (show 1 < 6 ↔ _ by omega)
        (fun _ h3 => absurd h3 (show ¬ 3 ≤ 1 by omega)) rfl fun e => ?_
      unfold Wake.stage at h0
      rw [e] at h0
      cases h0
    · exact hi.linkTurn hw h0 hn
  unfold Host.prepareWake
  split
  · exact hrelease _
  · exact hrelease _
  · exact hrelease _
  · exact hrelease _
  · exact hrelease _
  · exact hpass
  · exact hpass

theorem SessionSlot.untrack_eq (idempotencyKey : IdempotencyKey) (w : WakeId) (s : SessionSlot) :
    ∃ inFlight, s.untrack idempotencyKey w = { s with inFlight := inFlight } := by
  unfold SessionSlot.untrack
  split
  · split
    · exact ⟨_, rfl⟩
    · exact ⟨s.inFlight, rfl⟩
  · exact ⟨s.inFlight, rfl⟩

theorem TurnInv.untrack (hi : TurnInv h) (h6 : (h.wakeOf w).stage = 6) : TurnInv (h.untrack w) := by
  have hs := hi.of_same (sameTurns_setSlot h (h.wakeOf w).slot
    (f := SessionSlot.untrack (h.wakeOf w).idempotencyKey w)
    (fun s => by obtain ⟨m, e⟩ := SessionSlot.untrack_eq (h.wakeOf w).idempotencyKey w s; rw [e])
    fun s => by obtain ⟨m, e⟩ := SessionSlot.untrack_eq (h.wakeOf w).idempotencyKey w s; rw [e])
  refine hs.setWake ⟨rfl, rfl, rfl, show (h.wakeOf w).stage ≤ 7 by omega, fun _ h5 => ?_⟩
    (show 7 < 6 ↔ (h.wakeOf w).stage < 6 by omega) (fun _ _ => Or.inl ?_) rfl fun e => ?_
  · exact absurd h5 (show ¬ 7 ≤ 5 by omega)
  · show 3 ≤ (h.wakeOf w).stage
    omega
  · have e' : (h.wakeOf w).pc = .acquire := e
    unfold Wake.stage at h6
    rw [e'] at h6
    cases h6

theorem TurnInv.resume (hi : TurnInv h) (hw : w < h.wakes.next) {answer : Answer} {h' : Host}
    (hr : h.resume w answer = some h') : TurnInv h' := by
  have hsync : TurnInv (h.syncCatalogState (h.wakeOf w).slot answer) :=
    hi.of_same (sameTurns_syncCatalogState h _ answer)
  have hwake : (h.syncCatalogState (h.wakeOf w).slot answer).wakeOf w = h.wakeOf w :=
    (sameTurns_syncCatalogState h _ answer).wakeOf w
  have hnext : w < (h.syncCatalogState (h.wakeOf w).slot answer).wakes.next := by
    rw [(sameTurns_syncCatalogState h _ answer).wakes]
    exact hw
  have hend : (h.wakeOf w).stage = 4 → ∀ error last, TurnInv
      (((h.syncCatalogState (h.wakeOf w).slot answer).setSlot (h.wakeOf w).slot fun s =>
        { s with lastErrorCode := last }).endTurn w error) := by
    intro h4 error last
    have hs := hsync.of_same (sameTurns_setSlot _ (h.wakeOf w).slot (f := fun s =>
      { s with lastErrorCode := last }) (fun _ => rfl) fun _ => rfl)
    refine hs.endTurn hnext ?_ error
    show ((h.syncCatalogState (h.wakeOf w).slot answer).wakeOf w).stage = 4
    rw [hwake]
    exact h4
  have hstage : (h.wakeOf w).stage = (h.wakeOf w).pc.stage := rfl
  unfold Host.resume at hr
  cases hpc : (h.wakeOf w).pc with rw [hpc] at hr hstage
  | beginRequest =>
    simp only [ite_none_right_eq_some, Option.some.injEq] at hr
    obtain ⟨⟨hn, -⟩, rfl⟩ := hr
    exact hi.prepareWake hw hstage hn answer
  | refuse =>
    cases hr
    exact hi.releaseReservation hw (Or.inl (Nat.le_of_eq hstage)) _
  | turnTail =>
    simp only [ite_none_right_eq_some, Option.some.injEq] at hr
    obtain ⟨hready, rfl⟩ := hr
    exact hi.runWake hw hstage (Host.ready_of_turnReady hready)
  | acquire => cases hr
  | acquired =>
    cases hr
    split
    · exact hi.goto (Nat.le_of_eq hstage.symm) (Nat.le_of_eq hstage) (by decide) (by rw [hpc]; decide)
    · exact hi.turnRunning hstage (by rw [hpc]; decide)
  | acquireAborted =>
    cases hr
    exact hi.catchTurn (Nat.le_of_eq hstage.symm) (by rw [hstage]; decide) (by rw [hpc]; decide) _
  | markAccepted =>
    simp only at hr
    split at hr <;> cases hr
    · exact hi.catchTurn (Nat.le_of_eq hstage.symm) (by rw [hstage]; decide) (by rw [hpc]; decide) _
    · exact hi.turnRunning hstage (by rw [hpc]; decide)
  | syncRunning =>
    cases hr
    exact hsync.startPrompt hnext (by rw [hwake]; exact hpc)
  | prompt =>
    simp only at hr
    split at hr <;> cases hr
    · exact hi.catchTurn (by rw [hstage]; decide) (Nat.le_of_eq hstage) (by rw [hpc]; decide) _
    split
    · exact hi.goto (by rw [hstage]; decide) (Nat.le_of_eq hstage) (by decide) (by rw [hpc]; decide)
    · exact hi.turnIdle hstage (by rw [hpc]; decide)
  | markCompleted =>
    simp only at hr
    split at hr <;> cases hr
    · exact hi.catchTurn (by rw [hstage]; decide) (Nat.le_of_eq hstage) (by rw [hpc]; decide) _
    · exact hi.turnIdle hstage (by rw [hpc]; decide)
  | syncIdle =>
    cases hr
    exact hend hstage none none
  | markFailed code =>
    cases hr
    exact hi.failTurn (by rw [hstage]; exact (by decide : 3 ≤ 4)) (Nat.le_of_eq hstage)
      (by rw [hpc]; exact WakePc.noConfusion) code
  | syncFailed code =>
    cases hr
    exact hend hstage (some code) (some code)
  | returned =>
    cases hr
    exact hi.releaseReservation hw (Or.inr hstage) _
  | settled =>
    cases hr
    exact hi.untrack hstage
  | untracked => cases hr

end

theorem TurnInv.abortTurns {h : Host} (hi : TurnInv h) : TurnInv h.abortTurns := by
  unfold Host.abortTurns
  generalize (h.sessions.values.flatMap fun i => (h.slot i).inFlight.values) = entries
  induction entries generalizing h with
  | nil => exact hi
  | cons e entries ih =>
    apply ih
    beta_reduce
    split
    · exact hi
    · exact hi.abortWake e.2

theorem Host.wake_eq_ok {h h' : Host} {command : WakeCommand} {w : WakeId}
    (hw : h.wake command = .ok (h', w)) :
    h.assertAdmitting = .ok () ∧ ∃ i, h.requireSession command.sessionId command.generation = .ok i ∧
      (h' = h ∨ (h.slot i).inFlight.get? command.idempotencyKey = none ∧
        (h.slot i).pendingTurns < h.limits.maxSessionQueueDepth + 1 ∧
        h' = h.admitWake i command ∧ w = h.wakes.next) := by
  unfold Host.wake at hw
  cases ha : h.assertAdmitting with
  | error => simp [ha, bind, Except.bind] at hw
  | ok =>
    refine ⟨rfl, ?_⟩
    cases hs : h.requireSession command.sessionId command.generation with
    | error => simp [ha, hs, bind, Except.bind] at hw
    | ok i =>
      refine ⟨i, rfl, ?_⟩
      simp only [ha, hs, bind, Except.bind] at hw
      split at hw
      · split at hw <;> cases hw
        exact Or.inl rfl
      rename_i hnone
      split at hw
      · cases hw
      · cases hw
        exact Or.inr ⟨hnone, by omega, rfl, rfl⟩

theorem Host.runEphemeralControl_eq_ok {h h' : Host} {sessionId : SessionId} {generation : Nat}
    {idempotencyKey : IdempotencyKey} {fingerprint : Fingerprint}
    (hc : h.runEphemeralControl sessionId generation idempotencyKey fingerprint = .ok h') :
    h' = h ∨ ∃ i, (h.slot i).state = .running ∧ h' = h.setSlot i fun s =>
      let controls := s.controls.set idempotencyKey fingerprint
      { s with controls := trimControls controls.size controls } := by
  unfold Host.runEphemeralControl at hc
  cases hr : h.requireSession sessionId generation with
  | error => simp [hr, bind, Except.bind] at hc
  | ok i =>
    simp only [hr, bind, Except.bind] at hc
    split at hc
    · split at hc <;> cases hc
      exact Or.inl rfl
    split at hc
    · cases hc
    rename_i hrun
    cases hc
    exact Or.inr ⟨i, Decidable.not_not.mp hrun, rfl⟩

/-- **The step lemma of the turns.** -/
theorem TurnInv.step {h : Host} {e : TurnEvent} {h' : Host} (hi : TurnInv h)
    (hs : turnStep h e = some h') : TurnInv h' := by
  cases e with
  | wake command =>
    simp only [turnStep] at hs
    split at hs <;> cases hs
    · rename_i w hw
      obtain ⟨-, i, -, rfl | ⟨-, hlt, rfl, -⟩⟩ := Host.wake_eq_ok hw
      · exact hi
      · exact hi.admitWake command hlt
    · exact hi
  | resume =>
    obtain ⟨hw, hs⟩ := ite_none_right_eq_some.mp hs
    exact hi.resume hw hs
  | abort sessionId generation =>
    simp only [turnStep, Host.abort] at hs
    cases hr : h.requireSession sessionId generation with
    | error =>
      simp only [hr, bind, Except.bind, Option.some.injEq] at hs
      exact hs ▸ hi
    | ok i =>
      cases ha : (h.slot i).activeAbort with
      | none =>
        simp only [hr, ha, bind, Except.bind, Option.some.injEq] at hs
        exact hs ▸ hi
      | some w =>
        simp only [hr, ha, bind, Except.bind, Option.some.injEq] at hs
        exact hs ▸ hi.abortWake w
  | beginDrain | tick =>
    cases hs
    exact hi.of_same ⟨rfl, rfl, rfl, rfl, fun _ => rfl, fun _ => rfl⟩
  | drainTimeout =>
    simp only [turnStep, ite_none_right_eq_some, Option.some.injEq] at hs
    obtain ⟨-, rfl⟩ := hs
    exact hi.abortTurns
  | control =>
    simp only [turnStep] at hs
    split at hs <;> cases hs
    · rename_i hc
      obtain rfl | ⟨i, -, rfl⟩ := Host.runEphemeralControl_eq_ok hc
      · exact hi
      · exact hi.of_same (sameTurns_setSlot h i (fun _ => rfl) fun _ => rfl)
    · exact hi
  | controlled i =>
    cases hs
    exact hi.of_same (sameTurns_setSlot h i (fun _ => rfl) fun _ => rfl)

/-! ## What holds in every run -/

structure Serialized (h : Host) : Prop where
  /-- A slot has at most one prompt in flight. -/
  one_prompt : ∀ i, h.wakes.count (fun x => x.slot = i && x.pc = .prompt) ≤ 1
  /-- The turns that hold the semaphore. -/
  permits : h.wakes.count Wake.permit ≤ h.limits.maxConcurrentTurns
  /-- `pendingTurns` counts the wakes that were admitted and have not settled. -/
  pending : ∀ i, (h.slot i).pendingTurns = h.wakes.count (Wake.reserves i)
  nonneg : ∀ i, 0 ≤ (h.slot i).pendingTurns
  depth : ∀ i, (h.slot i).pendingTurns ≤ h.limits.maxSessionQueueDepth + 1
  /-- The wakes of a slot, numbered in the order of their admission, start their
  prompts in this order. -/
  order : h.prompts.Pairwise fun p q => p.slot = q.slot → p.wake < q.wake

theorem TurnInv.serialized {h : Host} (hi : TurnInv h) : Serialized h where
  one_prompt i := by
    apply Heap.count_le_one
    intro v hv w hw hpv hpw
    have hin : ∀ x : Wake, (x.slot = i && x.pc = .prompt) = true → x.slot = i ∧ x.stage = 4 := by
      intro x hx
      simp only [Bool.and_eq_true, decide_eq_true_eq] at hx
      exact ⟨hx.1, by simp [Wake.stage, hx.2, WakePc.stage]⟩
    obtain ⟨sv, _⟩ : (h.wakeOf v).slot = i ∧ (h.wakeOf v).stage = 4 := hin _ hpv
    obtain ⟨sw, _⟩ : (h.wakeOf w).slot = i ∧ (h.wakeOf w).stage = 4 := hin _ hpw
    have lv := (hi.ordered.staged v hv (by omega)).mpr (by omega)
    have lw := (hi.ordered.staged w hw (by omega)).mpr (by omega)
    apply (hi.ordered.chain i).exclusive ⟨hv, sv, lv⟩ ⟨hw, sw, lw⟩
    · unfold Host.Started
      omega
    · unfold Host.Started
      omega
    · unfold Host.Settled
      omega
    · unfold Host.Settled
      omega
  permits := by
    have h1 := hi.metered.permits
    have h2 := hi.metered.active_le
    have h3 := hi.metered.limit
    omega
  pending := hi.accounted.pending
  nonneg i := by
    rw [hi.accounted.pending]
    exact Int.natCast_nonneg _
  depth := hi.accounted.depth
  order := hi.ordered.increasing

/-- **Turn serialization and queue accounting.** -/
theorem turns_serialized {h h' : Host} {es : List TurnEvent} (hi : Idle h)
    (hr : run turnStep h es = some h') : Serialized h' :=
  (run_invariant (fun _ _ _ hi hs => TurnInv.step hi hs) hi.turnInv hr).serialized

/-- Two wakes of one session, admitted before the first one starts. -/
theorem turns_serialized_two_wakes :
    let h := (Host.new DEFAULT_MULTIPLEXER_LIMITS false false 0 0).insertSlot
      (SessionSlot.opened [115] 1 [] false 0)
    let wake (key : UInt16) : TurnEvent := .wake ⟨[key], [115], 1, [key], [key]⟩
    let es := [wake 1, wake 2, .resume 0 .ok, .resume 1 .ok] ++
      List.replicate 5 (.resume 0 .ok) ++ List.replicate 4 (.resume 1 .ok)
    ∃ h', run turnStep h es = some h' ∧ h'.prompts.map (·.wake) = [0, 1] ∧ Serialized h' := by
  intro h wake es
  refine exists_some_and (by decide +kernel) fun h' hr _ => turns_serialized ?_ hr
  refine ⟨rfl, fun i => ?_, fun i => ?_, rfl, rfl⟩
  · refine (congrArg SessionSlot.pendingTurns (Heap.cell_alloc _ i _)).trans ?_
    split <;> rfl
  · refine (congrArg SessionSlot.turnTail (Heap.cell_alloc _ i _)).trans ?_
    split <;> rfl

/-! ## What the turns leave alone -/

/-- The fields of a slot that only `open` and the disposal of the slot write. -/
def SessionSlot.identity (s : SessionSlot) : SessionId × Nat × JsString × Bool × Bool :=
  (s.sessionId, s.generation, s.policyKey, s.durableConversation, s.disposing)

structure TurnFrame (h h' : Host) : Prop where
  limits : h'.limits = h.limits
  durable : h'.durable = h.durable
  hasCatalog : h'.hasCatalog = h.hasCatalog
  sessions : h'.sessions = h.sessions
  slots : h'.slots.next = h.slots.next
  identity : ∀ i, (h'.slot i).identity = (h.slot i).identity
  ops : h'.ops = h.ops
  lifecycleTails : h'.lifecycleTails = h.lifecycleTails
  residencyLeases : h'.residencyLeases = h.residencyLeases
  leases : h'.leases = h.leases
  toolAdapterPolicies : h'.toolAdapterPolicies = h.toolAdapterPolicies
  openLog : h'.openLog = h.openLog
  generation : ∀ sessionId, (h'.catalog.get? sessionId).map (·.generation) =
    (h.catalog.get? sessionId).map (·.generation)
  clock : h.clock ≤ h'.clock

theorem TurnFrame.trans {a b c : Host} (h : TurnFrame a b) (h' : TurnFrame b c) : TurnFrame a c :=
  ⟨h'.limits.trans h.limits, h'.durable.trans h.durable, h'.hasCatalog.trans h.hasCatalog,
    h'.sessions.trans h.sessions, h'.slots.trans h.slots,
    fun i => (h'.identity i).trans (h.identity i), h'.ops.trans h.ops,
    h'.lifecycleTails.trans h.lifecycleTails, h'.residencyLeases.trans h.residencyLeases,
    h'.leases.trans h.leases, h'.toolAdapterPolicies.trans h.toolAdapterPolicies,
    h'.openLog.trans h.openLog, fun s => (h'.generation s).trans (h.generation s),
    Nat.le_trans h.clock h'.clock⟩

/-- The fields that the semaphore, the prompts and the drain write. -/
theorem frame_wakes (h : Host) (wakes : Heap Wake) (turns : Semaphore) (prompts : List PromptStart)
    (draining : Bool) : TurnFrame h
    { h with wakes := wakes, turns := turns, prompts := prompts, draining := draining } :=
  ⟨rfl, rfl, rfl, rfl, rfl, fun _ => rfl, rfl, rfl, rfl, rfl, rfl, rfl, fun _ => rfl, Nat.le_refl _⟩

theorem TurnFrame.refl (h : Host) : TurnFrame h h := frame_wakes h _ _ _ _

theorem frame_setSlot (h : Host) (i : SlotId) {f : SessionSlot → SessionSlot}
    (hf : ∀ s, (f s).identity = s.identity) : TurnFrame h (h.setSlot i f) :=
  ⟨rfl, rfl, rfl, rfl, rfl, Host.slot_setSlot SessionSlot.identity h i hf, rfl, rfl, rfl, rfl, rfl,
    rfl, fun _ => rfl, Nat.le_refl _⟩

theorem frame_setWake (h : Host) (w : WakeId) (f : Wake → Wake) : TurnFrame h (h.setWake w f) :=
  frame_wakes h _ _ _ _

theorem frame_syncCatalogState (h : Host) (i : SlotId) (answer : Answer) :
    TurnFrame h (h.syncCatalogState i answer) := by
  unfold Host.syncCatalogState
  split
  · rename_i record hget
    split
    · refine ⟨rfl, rfl, rfl, rfl, rfl, fun _ => rfl, rfl, rfl, rfl, rfl, rfl, rfl, fun s => ?_,
        Nat.le_refl _⟩
      rw [OrderedMap.get?_set]
      split
      · rename_i e
        rw [← e, hget]
        rfl
      · rfl
    · exact TurnFrame.refl h
  · exact TurnFrame.refl h

section
variable (h : Host) (w : WakeId)

theorem frame_acquire : TurnFrame h (h.acquire w) := by
  unfold Host.acquire
  split
  · exact frame_setWake h w _
  · split <;> exact frame_wakes h _ _ _ _

theorem frame_abortWake : TurnFrame h (h.abortWake w) := by
  unfold Host.abortWake
  split <;> exact frame_wakes h _ _ _ _

theorem frame_endTurn (error : Option ErrorCode) : TurnFrame h (h.endTurn w error) := by
  unfold Host.endTurn Host.returnTurn
  refine (frame_setSlot h (h.wakeOf w).slot (f := fun s => { s with activeAbort := none })
    fun _ => rfl).trans ?_
  split <;> exact frame_wakes _ _ _ _ _

theorem frame_releaseReservation (error : Option ErrorCode) :
    TurnFrame h (h.releaseReservation w error) :=
  (frame_setSlot h _ (f := SessionSlot.releaseReservation w) fun _ => rfl).trans
    (frame_setWake _ w _)

theorem frame_failTurn (code : ErrorCode) : TurnFrame h (h.failTurn w code) := by
  refine (frame_setSlot h (h.wakeOf w).slot ?_).trans (frame_setWake _ w _)
  exact fun _ => rfl

theorem frame_catchTurn (code : ErrorCode) : TurnFrame h (h.catchTurn w code) := by
  unfold Host.catchTurn
  split
  · exact frame_setWake h w _
  · exact frame_failTurn h w code

theorem frame_runWake : TurnFrame h (h.runWake w) := by
  unfold Host.runWake
  simp only
  split
  · exact frame_setWake h w _
  · refine (frame_setSlot h (h.wakeOf w).slot ?_).trans (frame_acquire _ w)
    exact fun _ => rfl

theorem frame_prepareWake (answer : Answer) : TurnFrame h (h.prepareWake w answer) := by
  have hpass : TurnFrame h (if (h.slot (h.wakeOf w).slot).state = .failed then h.goto w .refuse
      else h.linkTurn w) := by
    split
    · exact frame_setWake h w _
    · refine (frame_setWake h w _).trans (frame_setSlot _ (h.wakeOf w).slot ?_)
      exact fun _ => rfl
  unfold Host.prepareWake
  split
  · exact frame_releaseReservation h w _
  · exact frame_releaseReservation h w _
  · exact frame_releaseReservation h w _
  · exact frame_releaseReservation h w _
  · exact frame_releaseReservation h w _
  · exact hpass
  · exact hpass

theorem frame_untrack : TurnFrame h (h.untrack w) := by
  refine (frame_setSlot h (h.wakeOf w).slot
    (f := SessionSlot.untrack (h.wakeOf w).idempotencyKey w) fun s => ?_).trans
    (frame_setWake _ w _)
  obtain ⟨_, e⟩ := SessionSlot.untrack_eq (h.wakeOf w).idempotencyKey w s
  rw [e]
  rfl

theorem frame_abortTurns : TurnFrame h h.abortTurns := by
  unfold Host.abortTurns
  generalize (h.sessions.values.flatMap fun i => (h.slot i).inFlight.values) = entries
  induction entries generalizing h with
  | nil => exact TurnFrame.refl h
  | cons e entries ih =>
    refine TurnFrame.trans ?_ (ih _)
    beta_reduce
    split
    · exact TurnFrame.refl h
    · exact frame_abortWake h e.2

end

theorem frame_resume {h h' : Host} {w : WakeId} {answer : Answer}
    (hr : h.resume w answer = some h') : TurnFrame h h' := by
  have hsync := frame_syncCatalogState h (h.wakeOf w).slot answer
  have hset : ∀ (g : Host) (i : SlotId) (last : Option ErrorCode) (error : Option ErrorCode),
      TurnFrame g ((g.setSlot i fun s => { s with lastErrorCode := last }).endTurn w error) := by
    intro g i last error
    refine (frame_setSlot g i ?_).trans (frame_endTurn _ w error)
    exact fun _ => rfl
  have hrun : TurnFrame h (h.turnRunning w) := by
    refine (frame_setSlot h (h.wakeOf w).slot ?_).trans (frame_setWake _ w _)
    exact fun _ => rfl
  have hidle : TurnFrame h (h.turnIdle w) := by
    refine (frame_setSlot h (h.wakeOf w).slot ?_).trans (frame_setWake _ w _)
    exact fun _ => rfl
  unfold Host.resume at hr
  cases hpc : (h.wakeOf w).pc with rw [hpc] at hr
  | beginRequest =>
    simp only [ite_none_right_eq_some, Option.some.injEq] at hr
    exact hr.2 ▸ frame_prepareWake h w answer
  | turnTail =>
    simp only [ite_none_right_eq_some, Option.some.injEq] at hr
    exact hr.2 ▸ frame_runWake h w
  | acquire => cases hr
  | untracked => cases hr
  | refuse =>
    cases hr
    exact frame_releaseReservation h w _
  | returned =>
    cases hr
    exact frame_releaseReservation h w _
  | acquired =>
    cases hr
    split
    · exact frame_setWake h w _
    · exact hrun
  | acquireAborted =>
    cases hr
    exact frame_catchTurn h w _
  | markAccepted =>
    simp only at hr
    split at hr <;> cases hr
    · exact frame_catchTurn h w _
    · exact hrun
  | syncRunning =>
    cases hr
    exact hsync.trans (frame_wakes _ _ _ _ _)
  | prompt =>
    simp only at hr
    split at hr <;> cases hr
    · exact frame_catchTurn h w _
    split
    · exact frame_setWake h w _
    · exact hidle
  | markCompleted =>
    simp only at hr
    split at hr <;> cases hr
    · exact frame_catchTurn h w _
    · exact hidle
  | syncIdle =>
    cases hr
    exact hsync.trans (hset _ _ _ _)
  | syncFailed code =>
    cases hr
    exact hsync.trans (hset _ _ _ _)
  | markFailed code =>
    cases hr
    exact frame_failTurn h w code
  | settled =>
    cases hr
    exact frame_untrack h w

theorem frame_step {h h' : Host} {e : TurnEvent} (hs : turnStep h e = some h') : TurnFrame h h' := by
  cases e with
  | wake command =>
    simp only [turnStep] at hs
    split at hs <;> cases hs
    · rename_i w hw
      obtain ⟨-, i, -, rfl | ⟨-, -, rfl, -⟩⟩ := Host.wake_eq_ok hw
      · exact TurnFrame.refl _
      · exact (frame_setSlot h i (f := SessionSlot.reserve command h.wakes.next)
          fun _ => rfl).trans (frame_wakes _ (h.wakes.alloc (Wake.admitted i command)) _ _ _)
    · exact TurnFrame.refl h
  | resume =>
    obtain ⟨_, hs⟩ := ite_none_right_eq_some.mp hs
    exact frame_resume hs
  | abort sessionId generation =>
    simp only [turnStep, Host.abort] at hs
    cases hr : h.requireSession sessionId generation with
    | error =>
      simp only [hr, bind, Except.bind, Option.some.injEq] at hs
      exact hs ▸ TurnFrame.refl h
    | ok i =>
      cases ha : (h.slot i).activeAbort with
      | none =>
        simp only [hr, ha, bind, Except.bind, Option.some.injEq] at hs
        exact hs ▸ TurnFrame.refl h
      | some w =>
        simp only [hr, ha, bind, Except.bind, Option.some.injEq] at hs
        exact hs ▸ frame_abortWake h w
  | beginDrain =>
    cases hs
    exact frame_wakes h _ _ _ _
  | drainTimeout =>
    simp only [turnStep, ite_none_right_eq_some, Option.some.injEq] at hs
    exact hs.2 ▸ frame_abortTurns h
  | control =>
    simp only [turnStep] at hs
    split at hs <;> cases hs
    · rename_i hc
      obtain rfl | ⟨i, -, rfl⟩ := Host.runEphemeralControl_eq_ok hc
      · exact TurnFrame.refl _
      · exact frame_setSlot h i fun _ => rfl
    · exact TurnFrame.refl h
  | controlled i =>
    cases hs
    exact frame_setSlot h i fun _ => rfl
  | tick =>
    cases hs
    exact ⟨rfl, rfl, rfl, rfl, rfl, fun _ => rfl, rfl, rfl, rfl, rfl, rfl, rfl, fun _ => rfl,
      Nat.le_add_right _ _⟩

end PiDaemon.Multiplexer
