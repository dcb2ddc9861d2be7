import PiDaemon.Multiplexer.Machine

/-!
# What a lifecycle step can do

A step of an operation has an effect on the rest of the host and moves the
operation to another await.  `Effect` lists the effects with the guards of the
code; every invariant of the lifecycle is derived from this list.

* `resumeOp_effect`, `start_effect`: a step of an operation is an effect;
* `lifecycleStep_cases`: a step of the machine links an operation or makes an
  effect.
-/

namespace PiDaemon.Multiplexer

open Lib

/-! ## The checks -/

theorem bind_eq_ok {ε α β : Type} {x : Except ε α} {f : α → Except ε β} {b : β} :
    (x >>= f) = .ok b ↔ ∃ a, x = .ok a ∧ f a = .ok b := by
  cases x with
  | error =>
    constructor
    · intro h
      cases h
    · rintro ⟨a, h, -⟩
      cases h
  | ok a =>
    constructor
    · intro h
      exact ⟨a, rfl, h⟩
    rintro ⟨_, h, hf⟩
    cases h
    exact hf

section
variable {command : OpenCommand} {existing : Option SlotId}

theorem openDecision_eq_ok {h : Host} {retained : Option SessionCatalogRecord} {d : OpenDecision}
    (hd : h.openDecision command existing retained = .ok d) :
    checkRetained command existing retained = .ok () ∧
      checkToolAdapter command (h.toolAdapterPolicies.get? command.sessionId) = .ok () ∧
      resolvedRuntimePolicy command existing retained = .ok () ∧
      h.checkResident command existing = .ok d := by
  obtain ⟨_, h1, hd⟩ := bind_eq_ok.mp hd
  obtain ⟨_, h2, hd⟩ := bind_eq_ok.mp hd
  obtain ⟨_, h3, hd⟩ := bind_eq_ok.mp hd
  exact ⟨h1, h2, h3, hd⟩

theorem checkResident_reuse {h : Host} {i : SlotId} (hd : h.checkResident command existing = .ok (.reuse i)) :
    existing = some i ∧ command.generation = (h.slot i).generation := by
  unfold Host.checkResident at hd
  split at hd
  · split at hd
    · cases hd
    split at hd
    · rename_i hg
      split at hd <;> cases hd
      exact ⟨rfl, hg⟩
    · split at hd <;> cases hd
  · split at hd <;> cases hd

theorem checkResident_replace {h : Host} {i : SlotId} (hd : h.checkResident command existing = .ok (.replace i)) :
    existing = some i ∧ (h.slot i).generation < command.generation ∧
      (h.slot i).pendingTurns ≤ 0 ∧ (h.slot i).state ≠ .running := by
  unfold Host.checkResident at hd
  split at hd
  · split at hd
    · cases hd
    split at hd
    · split at hd <;> cases hd
    split at hd <;> cases hd
    rename_i hidle
    rw [not_or, Int.not_lt] at hidle
    exact ⟨rfl, by omega, hidle.1, hidle.2⟩
  · split at hd <;> cases hd

theorem checkResident_create {h : Host} (hd : h.checkResident command existing = .ok .create) :
    existing = none ∧ h.sessions.size < h.limits.maxSessions := by
  unfold Host.checkResident at hd
  split at hd
  · split at hd
    · cases hd
    split at hd
    · split at hd <;> cases hd
    · split at hd <;> cases hd
  · split at hd
    · cases hd
    · rename_i hlt
      exact ⟨rfl, Nat.lt_of_not_le hlt⟩

end

theorem sweepCheck_false {h : Host} {i : SlotId} {now : Nat} (hc : (h.sweepCheck i now).2 = false) :
    (h.slot i).state = .idle ∧ (h.slot i).pendingTurns ≤ 0 ∧
      h.sweepCheck i now = ((h.residencyLeaseCount (h.slot i).sessionId (h.slot i).generation).1,
        false) ∧
      (h.residencyLeaseCount (h.slot i).sessionId (h.slot i).generation).2 = 0 := by
  unfold Host.sweepCheck at hc ⊢
  split at hc
  · cases hc
  rename_i hidle
  rw [not_or, Int.not_lt, Decidable.not_not] at hidle
  rw [if_neg (by rw [not_or, Int.not_lt, Decidable.not_not]; exact hidle)]
  simp only at hc ⊢
  refine ⟨hidle.1, hidle.2, by rw [hc], ?_⟩
  unfold Host.sweepPasses at hc
  simp only [Bool.or_eq_false_iff, decide_eq_false_iff_not] at hc
  omega

/-! ## Effects -/

/-- A `close` that does not retain the artifacts of the session. -/
def LifecycleRequest.deletes : LifecycleRequest → Bool
  | .close _ _ retainArtifacts => !retainArtifacts
  | _ => false

/-- The moves that change nothing but the await of the operation. -/
inductive Goes (h : Host) (x : LifecycleOp) : LifecyclePc → Prop
  | factory : x.pc = .openReprovision → Goes h x .openFactory
  | controller : x.pc = .openFactory → Goes h x .openController
  | reprovisionFails (code) : x.pc = .openReprovision → Goes h x (.openCleanup code)
  | factoryFails (code) : x.pc = .openFactory → Goes h x (.openCleanup code)
  | controllerFails (code) : x.pc = .openController → Goes h x (.openCleanup code)
  | catalogFails (code) : x.pc = .openCatalog → Goes h x (.openCleanup code)
  | manifestFails (code) : x.pc = .openManifest → Goes h x (.openCleanup code)
  | repairGet (code) : x.pc = .openCleanup code → Goes h x (.openRepairGet code)
  | repairMark (code generation) : x.pc = .openRepairGet code →
      Goes h x (.openRepairMark code generation)
  | closeCatalog : x.pc = .closeDispose → Goes h x .closeCatalog
  | closeArtifacts : x.pc = .closeDispose → Goes h x .closeArtifacts
  | closeRetained : x.pc = .closeChecks → Goes h x .closeRetained
  | closeRetainedArtifacts : x.pc = .closeChecks → x.request.deletes = true →
      Goes h x .closeRetainedArtifacts
  | closeRetainedDelete : x.pc = .closeRetainedArtifacts → Goes h x .closeRetainedDelete
  | sweepCatalog : x.pc = .sweepDispose → Goes h x .sweepCatalog
  | replaceCommit : x.pc = .replaceChecks → h.sessions.has x.request.sessionId = false →
      Goes h x .replaceCommit

/-- The awaits of a sweep that has begun to close its slot. -/
def LifecyclePc.sweeping : LifecyclePc → Bool
  | .sweepClosing | .sweepDispose | .sweepCatalog => true
  | _ => false

/-- `Effect h x g x'`: the operation `x` becomes `x'` and the rest of the host `g`. -/
inductive Effect (h : Host) (x : LifecycleOp) : Host → LifecycleOp → Prop
  /-- A move to another await. -/
  | go {pc} : Goes h x pc → Effect h x h { x with pc := pc }
  /-- The operation ends without an effect. -/
  | finish {y : LifecycleOp} {result} : y.request = x.request → y.after = x.after →
      y.pc = .done result → x.pc.sweeping = false → Effect h x h y
  -- `open`
  | beginOpen {command} : x.request = .open command → x.pc = .queued → Effect h x h
      { x with existing := h.sessions.get? command.sessionId, pc := .openGet }
  | openGet {command} : x.request = .open command → x.pc = .openGet → Effect h x h
      { x with retained := h.catalog.get? command.sessionId, pc := .openChecks }
  | reuse {command i} : x.request = .open command → x.pc = .openChecks →
      h.openDecision command x.existing x.retained = .ok (.reuse i) →
      Effect h x ((h.setSlot i fun s => { s with lastUsedAt := h.clock }).logOpen command)
        { x with pc := .done (.opened false) }
  | replace {command i} : x.request = .open command → x.pc = .openChecks →
      h.openDecision command x.existing x.retained = .ok (.replace i) →
      Effect h x (h.disposeSlot i)
        { x with
          retainedToolAdapter := h.toolAdapterPolicies.get? command.sessionId
          pc := .openDispose }
  | create {command} : x.request = .open command → x.pc = .openChecks →
      h.openDecision command x.existing x.retained = .ok .create →
      Effect h x (h.retainToolAdapter command)
        { x with
          retainedToolAdapter := h.toolAdapterPolicies.get? command.sessionId
          pc := command.firstAwait }
  | replaced {command} : x.request = .open command → x.pc = .openDispose →
      Effect h x ((h.removeSession command.sessionId).retainToolAdapter command)
        { x with pc := command.firstAwait }
  | controller {command sessionFile} : x.request = .open command → x.pc = .openController →
      Effect h x h
        { x with
          sessionFile := sessionFile
          pc := if h.hasCatalog then .openCatalog else .openManifest }
  | openCatalog {command record} : x.request = .open command → x.pc = .openCatalog →
      h.openRecord command x = .ok record →
      Effect h x (h.recordCatalog command.sessionId record) { x with pc := .openManifest }
  | opened {command} : x.request = .open command → x.pc = .openManifest →
      Effect h x (h.openSlot command x) { x with pc := .done (.opened true) }
  | repair {command code generation dormant} : x.request = .open command →
      x.pc = .openRepairMark code generation →
      catalogMarkDormant h.catalog command.sessionId generation = .ok dormant →
      Effect h x (h.recordCatalog command.sessionId dormant) { x with pc := .done (.failed code) }
  -- `close`
  | beginClose {sessionId generation retainArtifacts} :
      x.request = .close sessionId generation retainArtifacts → x.pc = .queued → Effect h x h
        { x with existing := h.sessions.get? sessionId, pc := .closeGet }
  | beginCloseCached {sessionId generation retainArtifacts record pc} :
      x.request = .close sessionId generation retainArtifacts → x.pc = .queued →
      pc = .closeRetained ∨ pc = .closeRetainedArtifacts ∧ x.request.deletes = true → Effect h x h
        { x with existing := h.sessions.get? sessionId, retained := some record, pc := pc }
  | closeGet {sessionId generation retainArtifacts} :
      x.request = .close sessionId generation retainArtifacts → x.pc = .closeGet → Effect h x h
        { x with retained := h.catalog.get? sessionId, pc := .closeChecks }
  | dispose {sessionId generation retainArtifacts i existing retained} :
      x.request = .close sessionId generation retainArtifacts →
      x.pc = .queued ∧ h.sessions.get? sessionId = existing ∨
        x.pc = .closeChecks ∧ x.existing = existing →
      existing = some i → generation = (h.slot i).generation → (h.slot i).pendingTurns ≤ 0 →
      (h.slot i).state ≠ .running →
      Effect h x (h.disposeSlot i)
        { x with existing := existing, retained := retained, pc := .closeDispose }
  | closeDormant {sessionId generation retainArtifacts dormant} :
      x.request = .close sessionId generation retainArtifacts → x.pc = .closeCatalog →
      catalogMarkDormant h.catalog sessionId generation = .ok dormant →
      Effect h x (h.recordCatalog sessionId dormant) { x with pc := .closeArtifacts }
  | closeDelete {sessionId generation} :
      x.request = .close sessionId generation false → x.pc = .closeCatalog →
      Effect h x (h.forgetCatalog sessionId) { x with pc := .closeArtifacts }
  | closed {sessionId generation} : x.request = .close sessionId generation true →
      x.pc = .closeArtifacts →
      Effect h x (h.removeSession sessionId) { x with pc := .done (.closed true) }
  | deleted {sessionId generation} : x.request = .close sessionId generation false →
      x.pc = .closeArtifacts →
      Effect h x ((h.removeSession sessionId).forgetToolAdapter sessionId)
        { x with pc := .done (.closed true) }
  | closeRetained {sessionId generation retainArtifacts dormant} :
      x.request = .close sessionId generation retainArtifacts → x.pc = .closeRetained →
      catalogMarkDormant h.catalog sessionId generation = .ok dormant →
      Effect h x (h.recordCatalog sessionId dormant) { x with pc := .done (.closed true) }
  | closeRetainedDelete {sessionId generation retainArtifacts} :
      x.request = .close sessionId generation retainArtifacts → x.pc = .closeRetainedDelete →
      Effect h x ((h.forgetCatalog sessionId).forgetToolAdapter sessionId)
        { x with pc := .done (.closed true) }
  -- `sweepIdleSessions`
  | sweepPass {sessionId i now} : x.request = .sweep sessionId i now → x.pc = .queued →
      h.sessions.get? sessionId = some i →
      Effect h x (h.sweepCheck i now).1 { x with pc := .done (.evicted false) }
  | sweepClose {sessionId i now} : x.request = .sweep sessionId i now → x.pc = .queued →
      h.sessions.get? sessionId = some i → (h.sweepCheck i now).2 = false →
      Effect h x ((h.sweepCheck i now).1.setSlot i fun s => { s with state := .closing })
        { x with pc := .sweepClosing }
  | sweepDispose {sessionId i now} : x.request = .sweep sessionId i now → x.pc = .sweepClosing →
      Effect h x (h.setSlot i fun s => { s with disposing := true })
        { x with pc := .sweepDispose }
  | sweepFailed {sessionId i now} {code : ErrorCode} : x.request = .sweep sessionId i now →
      x.pc = .sweepDispose ∨ x.pc = .sweepCatalog → h.sessions.get? sessionId = some i →
      Effect h x (h.setSlot i fun s => { s with state := .failed, lastErrorCode := some code })
        { x with pc := .done (.failed code) }
  | sweepLost {sessionId i now} {code : ErrorCode} : x.request = .sweep sessionId i now →
      x.pc = .sweepDispose ∨ x.pc = .sweepCatalog → h.sessions.get? sessionId ≠ some i →
      Effect h x h { x with pc := .done (.failed code) }
  | evict {sessionId i now} : x.request = .sweep sessionId i now → x.pc = .sweepDispose →
      Effect h x (h.removeSession sessionId) { x with pc := .done (.evicted true) }
  | evictDormant {sessionId i now dormant} : x.request = .sweep sessionId i now →
      x.pc = .sweepCatalog →
      catalogMarkDormant h.catalog sessionId (h.slot i).generation = .ok dormant →
      Effect h x ((h.recordCatalog sessionId dormant).removeSession sessionId)
        { x with pc := .done (.evicted true) }
  -- `replaceDormantSession`
  | replaceGet {sessionId input} : x.request = .replaceDormant sessionId input →
      x.pc = .replaceGet → Effect h x h
        { x with retained := h.catalog.get? sessionId, pc := .replaceChecks }
  | replaceCommit {sessionId input next} : x.request = .replaceDormant sessionId input →
      x.pc = .replaceCommit → catalogReplace h.catalog sessionId input = .ok next →
      Effect h x (h.recordCatalog sessionId next) { x with pc := .done .replaced }

/-- The host `g` with the operation `o` replaced by `x`. -/
def Host.putOp (g : Host) (o : OpId) (x : LifecycleOp) : Host := { g with ops := g.ops.set o x }

/-- The step of the operation `o` is an effect. -/
def Makes (h : Host) (o : OpId) (h' : Host) : Prop :=
  ∃ g x', Effect h (h.op o) g x' ∧ g.ops = h.ops ∧ h' = g.putOp o x'

section
variable {h : Host} {o : OpId}

theorem Effect.makes {g : Host} {x' : LifecycleOp} (he : Effect h (h.op o) g x')
    (hg : g.ops = h.ops) : Makes h o (g.putOp o x') := ⟨g, x', he, hg, rfl⟩

theorem makes_go {pc : LifecyclePc} (hg : Goes h (h.op o) pc) : Makes h o (h.opGoto o pc) :=
  (Effect.go hg).makes rfl

theorem makes_finish (result : LifecycleResult) (hs : (h.op o).pc.sweeping = false) :
    Makes h o (h.finish o result) := by
  have he : Effect h (h.op o) h { h.op o with pc := .done result } := .finish rfl rfl rfl hs
  exact he.makes rfl

theorem ops_retainToolAdapter (h : Host) (command : OpenCommand) :
    (h.retainToolAdapter command).ops = h.ops := by
  unfold Host.retainToolAdapter
  split <;> rfl

theorem ops_sweepCheck (h : Host) (i : SlotId) (now : Nat) :
    (h.sweepCheck i now).1.ops = h.ops := by
  unfold Host.sweepCheck Host.residencyLeaseCount
  split
  · rfl
  simp only
  split
  · rfl
  · split <;> rfl

/-! ## The steps of an operation -/

theorem openChecks_makes {command : OpenCommand} (hr : (h.op o).request = .open command)
    (hpc : (h.op o).pc = .openChecks) : Makes h o (h.openChecks o command) := by
  unfold Host.openChecks
  split
  · exact makes_finish _ (by rw [hpc]; rfl)
  · rename_i i hd
    exact (Effect.reuse hr hpc hd).makes rfl
  · rename_i i hd
    exact (Effect.replace hr hpc hd).makes rfl
  · rename_i hd
    refine ⟨_, _, Effect.create hr hpc hd, ops_retainToolAdapter h command, ?_⟩
    unfold Host.putOp Host.setOp Heap.modify Host.op
    rw [ops_retainToolAdapter]

variable {sessionId : SessionId} {answer : LifecycleAnswer} {h' : Host}

theorem resumeOpen_makes {command : OpenCommand} (hr : (h.op o).request = .open command)
    (hs : h.resumeOpen o command answer (h.op o).pc = some h') : Makes h o h' := by
  cases hpc : (h.op o).pc with rw [hpc] at hs
  | openGet =>
    simp only [Host.resumeOpen] at hs
    split at hs <;> cases hs
    · exact makes_finish _ (by rw [hpc]; rfl)
    · exact (Effect.openGet hr hpc).makes rfl
  | openChecks =>
    cases hs
    exact openChecks_makes hr hpc
  | openDispose =>
    simp only [Host.resumeOpen] at hs
    split at hs <;> cases hs
    · exact makes_finish _ (by rw [hpc]; rfl)
    refine ⟨_, _, Effect.replaced hr hpc, ops_retainToolAdapter _ command, ?_⟩
    unfold Host.putOp Host.opGoto Host.setOp Heap.modify Host.op
    rw [ops_retainToolAdapter]
    rfl
  | openReprovision =>
    simp only [Host.resumeOpen] at hs
    split at hs <;> cases hs
    · exact makes_go (.reprovisionFails _ hpc)
    · exact makes_go (.factory hpc)
  | openFactory =>
    simp only [Host.resumeOpen] at hs
    split at hs <;> cases hs
    · exact makes_go (.factoryFails _ hpc)
    · exact makes_go (.controller hpc)
  | openController =>
    simp only [Host.resumeOpen] at hs
    split at hs <;> cases hs
    · exact makes_go (.controllerFails _ hpc)
    · exact (Effect.controller hr hpc).makes rfl
  | openCatalog =>
    simp only [Host.resumeOpen] at hs
    split at hs <;> cases hs
    · exact makes_go (.catalogFails _ hpc)
    · exact makes_go (.catalogFails _ hpc)
    · rename_i record hrec
      exact (Effect.openCatalog hr hpc hrec).makes rfl
  | openManifest =>
    simp only [Host.resumeOpen] at hs
    split at hs <;> cases hs
    · exact makes_go (.manifestFails _ hpc)
    · exact (Effect.opened hr hpc).makes rfl
  | openCleanup code =>
    simp only [Host.resumeOpen] at hs
    split at hs <;> cases hs
    · exact makes_go (.repairGet code hpc)
    · exact makes_finish _ (by rw [hpc]; rfl)
  | openRepairGet code =>
    simp only [Host.resumeOpen] at hs
    split at hs <;> cases hs
    · exact makes_go (.repairMark code _ hpc)
    · exact makes_finish _ (by rw [hpc]; rfl)
  | openRepairMark code generation =>
    simp only [Host.resumeOpen] at hs
    split at hs <;> cases hs
    · rename_i dormant hd
      exact (Effect.repair hr hpc hd).makes rfl
    · exact makes_finish _ (by rw [hpc]; rfl)
  | _ => cases hs

theorem closeChecks_makes {generation : Nat} {retainArtifacts : Bool}
    (hr : (h.op o).request = .close sessionId generation retainArtifacts) (hpc : (h.op o).pc = .closeChecks) :
    Makes h o (h.closeChecks o generation retainArtifacts) := by
  have hfin : ∀ result, Makes h o (h.finish o result) :=
    fun result => makes_finish result (by rw [hpc]; rfl)
  unfold Host.closeChecks
  split
  · exact hfin _
  · split
    · exact hfin _
    split
    · split
      · exact makes_go (.closeRetained hpc)
      · exact hfin _
    · rename_i hretain
      exact makes_go (.closeRetainedArtifacts hpc (by rw [hr]; simpa [LifecycleRequest.deletes] using hretain))
  · rename_i i hex
    split
    · exact hfin _
    rename_i hgen
    split
    · exact hfin _
    rename_i hidle
    rw [not_or, Int.not_lt] at hidle
    have he : Effect h (h.op o) (h.disposeSlot i) { h.op o with pc := .closeDispose } :=
      .dispose hr (Or.inr ⟨hpc, rfl⟩) hex (Decidable.not_not.mp hgen) hidle.1 hidle.2
    exact he.makes rfl

theorem resumeClose_makes {generation : Nat} {retainArtifacts : Bool}
    (hr : (h.op o).request = .close sessionId generation retainArtifacts)
    (hs : h.resumeClose o sessionId generation retainArtifacts answer (h.op o).pc = some h') : Makes h o h' := by
  have hfin : (h.op o).pc.sweeping = false → ∀ result, Makes h o (h.finish o result) :=
    fun hsw result => makes_finish result hsw
  cases hpc : (h.op o).pc with rw [hpc] at hs hfin
  | closeGet =>
    simp only [Host.resumeClose] at hs
    split at hs <;> cases hs
    · exact hfin rfl _
    · exact (Effect.closeGet hr hpc).makes rfl
  | closeChecks =>
    cases hs
    exact closeChecks_makes hr hpc
  | closeDispose =>
    simp only [Host.resumeClose] at hs
    split at hs <;> cases hs
    · exact hfin rfl _
    split
    · exact makes_go (.closeCatalog hpc)
    · exact makes_go (.closeArtifacts hpc)
  | closeCatalog =>
    simp only [Host.resumeClose] at hs
    split at hs
    · cases hs
      exact hfin rfl _
    split at hs
    · split at hs <;> cases hs
      · exact hfin rfl _
      · rename_i hd
        exact (Effect.closeDormant hr hpc hd).makes rfl
    · rename_i hretain
      cases hs
      rw [Bool.not_eq_true] at hretain
      subst hretain
      exact (Effect.closeDelete hr hpc).makes rfl
  | closeArtifacts =>
    simp only [Host.resumeClose] at hs
    split at hs <;> cases hs
    · exact hfin rfl _
    cases retainArtifacts with
    | true => exact (Effect.closed hr hpc).makes rfl
    | false => exact (Effect.deleted hr hpc).makes rfl
  | closeRetained =>
    simp only [Host.resumeClose] at hs
    split at hs
    · cases hs
      exact hfin rfl _
    split at hs
    · split at hs <;> cases hs
      · exact hfin rfl _
      · rename_i hd
        exact (Effect.closeRetained hr hpc hd).makes rfl
    · cases hs
      exact hfin rfl _
  | closeRetainedArtifacts =>
    simp only [Host.resumeClose] at hs
    split at hs <;> cases hs
    · exact hfin rfl _
    · exact makes_go (.closeRetainedDelete hpc)
  | closeRetainedDelete =>
    simp only [Host.resumeClose] at hs
    split at hs <;> cases hs
    · exact hfin rfl _
    · exact (Effect.closeRetainedDelete hr hpc).makes rfl
  | _ => cases hs

theorem sweepFailed_makes {i : SlotId} {now : Nat} (hr : (h.op o).request = .sweep sessionId i now)
    (hpc : (h.op o).pc = .sweepDispose ∨ (h.op o).pc = .sweepCatalog) (code : ErrorCode) :
    Makes h o (h.sweepFailed o sessionId i code) := by
  unfold Host.sweepFailed
  split
  · rename_i hres
    exact (Effect.sweepFailed hr hpc hres).makes rfl
  · rename_i hres
    exact (Effect.sweepLost hr hpc hres).makes rfl

theorem resumeSweep_makes {i : SlotId} {now : Nat} (hr : (h.op o).request = .sweep sessionId i now)
    (hs : h.resumeSweep o sessionId i answer (h.op o).pc = some h') : Makes h o h' := by
  cases hpc : (h.op o).pc with rw [hpc] at hs
  | sweepClosing =>
    cases hs
    exact (Effect.sweepDispose hr hpc).makes rfl
  | sweepDispose =>
    simp only [Host.resumeSweep] at hs
    split at hs <;> cases hs
    · exact sweepFailed_makes hr (Or.inl hpc) _
    split
    · exact makes_go (.sweepCatalog hpc)
    · exact (Effect.evict hr hpc).makes rfl
  | sweepCatalog =>
    simp only [Host.resumeSweep] at hs
    split at hs <;> cases hs
    · exact sweepFailed_makes hr (Or.inr hpc) _
    · exact sweepFailed_makes hr (Or.inr hpc) _
    · rename_i hd
      exact (Effect.evictDormant hr hpc hd).makes rfl
  | _ => cases hs

theorem resumeReplace_makes {input : SessionCatalogReplaceInput}
    (hr : (h.op o).request = .replaceDormant sessionId input)
    (hs : h.resumeReplace o sessionId input answer (h.op o).pc = some h') : Makes h o h' := by
  cases hpc : (h.op o).pc with rw [hpc] at hs
  | replaceGet =>
    simp only [Host.resumeReplace] at hs
    split at hs <;> cases hs
    · exact makes_finish _ (by rw [hpc]; rfl)
    · exact (Effect.replaceGet hr hpc).makes rfl
  | replaceChecks =>
    simp only [Host.resumeReplace] at hs
    split at hs
    · cases hs
      exact makes_finish _ (by rw [hpc]; rfl)
    split at hs <;> cases hs
    · exact makes_finish _ (by rw [hpc]; rfl)
    rename_i hres
    rw [Bool.not_eq_true] at hres
    refine makes_go (.replaceCommit hpc ?_)
    rw [hr]
    exact hres
  | replaceCommit =>
    simp only [Host.resumeReplace] at hs
    split at hs <;> cases hs
    · exact makes_finish _ (by rw [hpc]; rfl)
    · exact makes_finish _ (by rw [hpc]; rfl)
    · rename_i hn
      exact (Effect.replaceCommit hr hpc hn).makes rfl
  | _ => cases hs

theorem resumeOp_makes (hs : h.resumeOp o answer = some h') : Makes h o h' := by
  unfold Host.resumeOp at hs
  split at hs
  · rename_i hr
    exact resumeOpen_makes hr hs
  · rename_i hr
    exact resumeClose_makes hr hs
  · rename_i hr
    exact resumeSweep_makes hr hs
  · rename_i hr
    exact resumeReplace_makes hr hs

/-! ## The start of an operation -/

theorem setOp_setOp (h : Host) (o : OpId) (f g : LifecycleOp → LifecycleOp) :
    (h.setOp o f).setOp o g = h.setOp o (g ∘ f) := by
  unfold Host.setOp
  rw [Heap.modify_modify]

theorem startClose_makes {generation : Nat} {retainArtifacts : Bool} {record : SessionCatalogRecord}
    (hr : (h.op o).request = .close sessionId generation retainArtifacts) (hpc : (h.op o).pc = .queued) :
    Makes h o ((h.setOp o fun x =>
      { x with existing := h.sessions.get? sessionId, retained := some record }).closeChecks o
      generation retainArtifacts) := by
  generalize hf : (fun x : LifecycleOp =>
    { x with existing := h.sessions.get? sessionId, retained := some record }) = f
  have hop : (h.setOp o f).op o = f (h.op o) := Heap.cell_modify_self h.ops o f
  have hfin : ∀ result, Makes h o ((h.setOp o f).finish o result) := by
    intro result
    unfold Host.finish Host.opGoto
    rw [setOp_setOp]
    have he : Effect h (h.op o) h { f (h.op o) with pc := .done result } := by
      refine .finish ?_ ?_ rfl (by rw [hpc]; rfl)
      · rw [← hf]
      · rw [← hf]
    exact he.makes rfl
  have hgo : ∀ pc, pc = .closeRetained ∨
      pc = .closeRetainedArtifacts ∧ (h.op o).request.deletes = true →
      Makes h o ((h.setOp o f).opGoto o pc) := by
    intro pc hpcs
    unfold Host.opGoto
    rw [setOp_setOp, ← hf]
    exact Effect.makes (Effect.beginCloseCached hr hpc hpcs) rfl
  unfold Host.closeChecks
  rw [hop]
  split
  · exact hfin _
  · split
    · exact hfin _
    split
    · split
      · exact hgo _ (Or.inl rfl)
      · exact hfin _
    · rename_i hretain
      exact hgo _ (Or.inr ⟨rfl, by rw [hr]; simpa [LifecycleRequest.deletes] using hretain⟩)
  · rename_i i hex
    split
    · exact hfin _
    rename_i hgen
    split
    · exact hfin _
    rename_i hidle
    rw [not_or, Int.not_lt] at hidle
    have hres : h.sessions.get? sessionId = some i := by
      rw [← hf] at hex
      exact hex
    show Makes h o (((h.disposeSlot i).setOp o f).setOp o fun x => { x with pc := .closeDispose })
    rw [setOp_setOp, ← hf]
    refine Effect.makes (Effect.dispose hr (Or.inl ⟨hpc, rfl⟩) hres ?_ hidle.1 hidle.2) rfl
    exact Decidable.not_not.mp hgen

theorem startSweep_makes {i : SlotId} {now : Nat} (hr : (h.op o).request = .sweep sessionId i now)
    (hpc : (h.op o).pc = .queued) : Makes h o (h.startSweep o sessionId i now) := by
  have hops := ops_sweepCheck h i now
  unfold Host.startSweep
  split
  · exact makes_finish _ (by rw [hpc]; rfl)
  rename_i hres
  have hres := Decidable.not_not.mp hres
  simp only
  split
  · refine ⟨_, _, Effect.sweepPass hr hpc hres, hops, ?_⟩
    unfold Host.putOp Host.finish Host.opGoto Host.setOp Heap.modify Host.op
    rw [hops]
  · rename_i hcheck
    rw [Bool.not_eq_true] at hcheck
    refine ⟨_, _, Effect.sweepClose hr hpc hres hcheck, hops, ?_⟩
    have hcell : ((h.sweepCheck i now).1.setSlot i fun s => { s with state := .closing }).ops.cell o
        = h.op o := congrArg (·.cell o) hops
    unfold Host.putOp Host.opGoto Host.setOp Heap.modify
    rw [hcell]

theorem start_makes (hpc : (h.op o).pc = .queued) (hs : h' = h.start o (h.op o).request) : h' = h ∨ Makes h o h' := by
  subst hs
  cases hr : (h.op o).request with
  | «open» =>
    simp only [Host.start]
    right
    split
    · exact makes_finish _ (by rw [hpc]; rfl)
    · exact makes_finish _ (by rw [hpc]; rfl)
    · exact (Effect.beginOpen hr hpc).makes rfl
  | close =>
    simp only [Host.start]
    right
    split
    · exact startClose_makes hr hpc
    · exact (Effect.beginClose hr hpc).makes rfl
  | sweep => exact Or.inr (startSweep_makes hr hpc)
  | replaceDormant => exact Or.inl rfl

/-- The operation that a call links without looking at the slots. -/
def LifecycleEvent.links : LifecycleEvent → Option LifecycleRequest
  | .open command => some (.open command)
  | .close sessionId generation retainArtifacts => some (.close sessionId generation retainArtifacts)
  | _ => none

/-- **What a lifecycle step can do.** -/
inductive LifecycleStep (h : Host) : LifecycleEvent → Host → Prop
  /-- A call that is refused, or that has nothing to do. -/
  | idle (e) : LifecycleStep h e h
  | link (e) (request : LifecycleRequest) : request.locks = true →
      (∀ sessionId i now, request ≠ .sweep sessionId i now) → e.links = some request →
      LifecycleStep h e (h.withLifecycle request)
  | visit (i : SlotId) (now : Nat) : LifecycleStep h (.sweepVisit i now) (h.sweepCheck i now).1
  | linkSweep (i : SlotId) (now : Nat) : i < h.slots.next →
      LifecycleStep h (.sweepVisit i now)
        ((h.sweepCheck i now).1.withLifecycle (.sweep (h.slot i).sessionId i now))
  | callReplace (sessionId : SessionId) (input : SessionCatalogReplaceInput) : h.hasCatalog = true →
      LifecycleStep h (.replaceDormantSession sessionId input)
        (h.newOp (.replaceDormant sessionId input) none .replaceGet)
  | start (o : OpId) {h'} : o < h.ops.next → (h.op o).pc = .queued → h.lockReady o = true →
      Makes h o h' → LifecycleStep h (.start o) h'
  | resume (o : OpId) (answer : LifecycleAnswer) {h'} : o < h.ops.next → (h.op o).pc ≠ .queued →
      h.opDone o = false → Makes h o h' → LifecycleStep h (.resume o answer) h'

theorem resumeOp_active (hs : h.resumeOp o answer = some h') : (h.op o).pc ≠ .queued ∧ h.opDone o = false := by
  unfold Host.resumeOp at hs
  unfold Host.opDone
  cases hpc : (h.op o).pc with
  | queued | done =>
    rw [hpc] at hs
    split at hs <;> cases hs
  | _ => exact ⟨LifecyclePc.noConfusion, rfl⟩

theorem lifecycleStep_cases {e : LifecycleEvent} (hs : lifecycleStep h e = some h') : LifecycleStep h e h' := by
  cases e with
  | «open» =>
    simp only [lifecycleStep] at hs
    split at hs <;> cases hs
    · exact .idle _
    · exact .link _ _ rfl (fun _ _ _ => LifecycleRequest.noConfusion) rfl
  | close =>
    cases hs
    exact .link _ _ rfl (fun _ _ _ => LifecycleRequest.noConfusion) rfl
  | sweepVisit i now =>
    obtain ⟨hg, rfl⟩ := Option.ite_some_none_eq_some.mp hs
    split
    · exact .visit i now
    · exact .linkSweep i now hg.1
  | replaceDormantSession sessionId input =>
    cases hs
    split
    · rename_i hc
      exact .callReplace sessionId input hc
    · exact .idle _
  | start o =>
    obtain ⟨hg, hs⟩ := Option.ite_none_right_eq_some.mp hs
    obtain ⟨ho, hpc, hready⟩ := hg
    cases hs
    rcases start_makes hpc rfl with he | hm
    · rw [he]
      exact .idle _
    · exact .start o ho hpc hready hm
  | resume o answer =>
    obtain ⟨ho, hs⟩ := Option.ite_none_right_eq_some.mp hs
    obtain ⟨hq, hd⟩ := resumeOp_active hs
    exact .resume o answer ho hq hd (resumeOp_makes hs)

end

end PiDaemon.Multiplexer
