import PiDaemon.Lib.PromiseChain
import PiDaemon.Multiplexer.Turns

/-!
# The invariant of the turns

A wake goes through stages that never decrease: it is admitted, linked, started,
returned, settled.  `TurnInv` says how the slots, the semaphore and the log of
prompts follow from the stages of the wakes.

* `TurnInv.move`: a wake that goes on without touching the semaphore keeps the
  invariant;
* `TurnInv.admitWake`, `TurnInv.linkTurn`, `TurnInv.acquire`, `TurnInv.startPrompt`,
  `TurnInv.endTurn`, `TurnInv.releaseReservation`, `TurnInv.abortWake`: so do the
  operations that touch the accounts.
-/

namespace PiDaemon.Multiplexer

open Lib Durability Heap List

/-- How far a wake has come. -/
def WakePc.stage : WakePc → Nat
  | .beginRequest => 0
  | .refuse => 1
  | .turnTail => 2
  | .acquire | .acquired | .acquireAborted | .markAccepted | .syncRunning => 3
  | .prompt | .markCompleted | .syncIdle | .markFailed _ | .syncFailed _ => 4
  | .returned => 5
  | .settled => 6
  | .untracked => 7

namespace Wake

def stage (x : Wake) : Nat := x.pc.stage

/-- The wake holds a reservation of the slot `i`. -/
def reserves (i : SlotId) (x : Wake) : Bool := x.slot = i && x.stage < 6

/-- Until a reservation is released its wake is linked from the link on. -/
def WellStaged (x : Wake) : Prop := x.stage ≤ 5 → (x.linked = true ↔ 2 ≤ x.stage)

theorem WellStaged.of_stage {x x' : Wake} (hl : x'.linked = x.linked)
    (h2 : 2 ≤ x'.stage ↔ 2 ≤ x.stage) (h5 : x'.stage ≤ 5 → x.stage ≤ 5) (h : x.WellStaged) :
    x'.WellStaged := by
  intro hs
  rw [hl, h2]
  exact h (h5 hs)

/-- The two wakes are the same turn, and the second has come at least as far. -/
structure Moved (x x' : Wake) : Prop where
  slot : x'.slot = x.slot
  after : x'.after = x.after
  linked : x'.linked = x.linked
  stage : x.stage ≤ x'.stage
  staged : x.WellStaged → x'.WellStaged

theorem reserves_eq {x x' : Wake} (hs : x'.slot = x.slot) (h6 : x'.stage < 6 ↔ x.stage < 6)
    (i : SlotId) : x'.reserves i = x.reserves i := by
  simp only [Wake.reserves, hs, h6]

theorem Moved.refl (x : Wake) : Moved x x := ⟨rfl, rfl, rfl, Nat.le_refl _, id⟩

end Wake

namespace Host

/-- The wakes that have been linked behind the turn tail of the slot `i`. -/
def Linked (h : Host) (i : SlotId) (w : WakeId) : Prop :=
  w < h.wakes.next ∧ (h.wakeOf w).slot = i ∧ (h.wakeOf w).linked = true

def Started (h : Host) (w : WakeId) : Prop := 3 ≤ (h.wakeOf w).stage

def Settled (h : Host) (w : WakeId) : Prop := 5 ≤ (h.wakeOf w).stage

def after (h : Host) (w : WakeId) : Option WakeId := (h.wakeOf w).after

end Host

/-- The accounts of the slots. -/
structure Accounted (h : Host) : Prop where
  pending : ∀ i, (h.slot i).pendingTurns = h.wakes.count (Wake.reserves i)
  depth : ∀ i, (h.slot i).pendingTurns ≤ h.limits.maxSessionQueueDepth + 1

/-- The account of the semaphore. -/
structure Metered (h : Host) : Prop where
  permits : h.turns.active = h.wakes.count Wake.permit
  active_le : h.turns.active ≤ h.turns.limit
  limit : h.turns.limit = h.limits.maxConcurrentTurns
  nodup : h.turns.waiters.Nodup
  waiting : ∀ w ∈ h.turns.waiters,
    w < h.wakes.next ∧ (h.wakeOf w).pc = .acquire ∧ (h.wakeOf w).permit = false
  started : ∀ w < h.wakes.next, (h.wakeOf w).permit = true → h.Started w

/-- The chains of the slots and the log of the prompts. -/
structure Ordered (h : Host) : Prop where
  chain : ∀ i, Chained (h.Linked i) h.after (h.slot i).turnTail h.Started h.Settled
  fifo : ∀ j < h.wakes.next, ∀ w < h.wakes.next, (h.wakeOf j).linked = true →
    (h.wakeOf w).stage = 0 → (h.wakeOf j).slot = (h.wakeOf w).slot → j < w
  staged : ∀ w < h.wakes.next, (h.wakeOf w).WellStaged
  prompted : ∀ p ∈ h.prompts, h.Linked p.slot p.wake ∧ 4 ≤ (h.wakeOf p.wake).stage
  increasing : h.prompts.Pairwise fun p q => p.slot = q.slot → p.wake < q.wake

structure TurnInv (h : Host) : Prop where
  accounted : Accounted h
  metered : Metered h
  ordered : Ordered h

/-! ## Frames -/

theorem Accounted.frame {h h' : Host} (ha : Accounted h) (hn : h'.wakes.next = h.wakes.next)
    (hr : ∀ i, ∀ w < h.wakes.next, (h'.wakeOf w).reserves i = (h.wakeOf w).reserves i)
    (hp : ∀ i, (h'.slot i).pendingTurns = (h.slot i).pendingTurns)
    (hl : h'.limits = h.limits) : Accounted h' where
  pending i := by rw [hp, ha.pending, count_congr hn (hr i)]
  depth i := by rw [hp, hl]; exact ha.depth i

theorem Metered.frame {h h' : Host} (hm : Metered h) (hn : h'.wakes.next = h.wakes.next)
    (ht : h'.turns = h.turns) (hl : h'.limits = h.limits)
    (hp : ∀ w < h.wakes.next, (h'.wakeOf w).permit = (h.wakeOf w).permit)
    (ha : ∀ w < h.wakes.next, (h.wakeOf w).pc = .acquire → (h'.wakeOf w).pc = .acquire)
    (hs : ∀ w < h.wakes.next, h.Started w → h'.Started w) : Metered h' where
  permits := by rw [ht, hm.permits, count_congr hn hp]
  active_le := by rw [ht]; exact hm.active_le
  limit := by rw [ht, hl]; exact hm.limit
  nodup := by rw [ht]; exact hm.nodup
  waiting w hw := by
    rw [ht] at hw
    obtain ⟨hlt, hpc, hper⟩ := hm.waiting w hw
    rw [hn]
    exact ⟨hlt, ha w hlt hpc, (hp w hlt).trans hper⟩
  started w hw h' := by
    rw [hn] at hw
    rw [hp w hw] at h'
    exact hs w hw (hm.started w hw h')

/-- Every wake has moved, and only ready turns have started. -/
structure Advances (h h' : Host) : Prop where
  next : h'.wakes.next = h.wakes.next
  tail : ∀ i, (h'.slot i).turnTail = (h.slot i).turnTail
  moved : ∀ w < h.wakes.next, Wake.Moved (h.wakeOf w) (h'.wakeOf w)
  ready : ∀ w < h.wakes.next, (h.wakeOf w).linked = true → h'.Started w →
    h.Started w ∨ Ready h.after h.Settled w

theorem Advances.linked {h h' : Host} (ha : Advances h h') (i : SlotId) (w : WakeId) :
    h'.Linked i w ↔ h.Linked i w := by
  unfold Host.Linked
  rw [ha.next]
  constructor
  · rintro ⟨hw, hs, hl⟩
    have hm := ha.moved w hw
    exact ⟨hw, hm.slot ▸ hs, hm.linked ▸ hl⟩
  · rintro ⟨hw, hs, hl⟩
    have hm := ha.moved w hw
    exact ⟨hw, hm.slot.trans hs, hm.linked.trans hl⟩

theorem Ordered.frame {h h' : Host} (ho : Ordered h) (ha : Advances h h')
    (hlog : h'.prompts = h.prompts) : Ordered h' where
  chain i := by
    apply (ho.chain i).advance (ha.linked i) _ (ha.tail i)
    · intro w hw hs
      exact ha.ready w hw.1 hw.2.2 hs
    · intro w hw hs
      exact Nat.le_trans hs (ha.moved w hw.1).stage
    · intro w hw hs
      unfold Host.Settled at hs
      unfold Host.Started
      omega
    · intro w hw
      exact (ha.moved w hw.1).after
  fifo j hj w hw hl h0 hs := by
    rw [ha.next] at hj hw
    have mj := ha.moved j hj
    have mw := ha.moved w hw
    have := mw.stage
    apply ho.fifo j hj w hw (mj.linked ▸ hl) (by omega)
    rw [← mj.slot, ← mw.slot, hs]
  staged w hw := by
    rw [ha.next] at hw
    exact (ha.moved w hw).staged (ho.staged w hw)
  prompted p hp := by
    rw [hlog] at hp
    obtain ⟨hl, hs⟩ := ho.prompted p hp
    exact ⟨(ha.linked _ _).mpr hl, Nat.le_trans hs (ha.moved _ hl.1).stage⟩
  increasing := by rw [hlog]; exact ho.increasing

/-- Two states with the same wakes, turns and accounts. -/
structure SameTurns (h h' : Host) : Prop where
  wakes : h'.wakes = h.wakes
  turns : h'.turns = h.turns
  limits : h'.limits = h.limits
  prompts : h'.prompts = h.prompts
  pending : ∀ i, (h'.slot i).pendingTurns = (h.slot i).pendingTurns
  tail : ∀ i, (h'.slot i).turnTail = (h.slot i).turnTail

theorem SameTurns.refl (h : Host) : SameTurns h h :=
  ⟨rfl, rfl, rfl, rfl, fun _ => rfl, fun _ => rfl⟩

theorem SameTurns.trans {a b c : Host} (h : SameTurns a b) (h' : SameTurns b c) : SameTurns a c where
  wakes := h'.wakes.trans h.wakes
  turns := h'.turns.trans h.turns
  limits := h'.limits.trans h.limits
  prompts := h'.prompts.trans h.prompts
  pending i := (h'.pending i).trans (h.pending i)
  tail i := (h'.tail i).trans (h.tail i)

theorem SameTurns.wakeOf {h h' : Host} (hs : SameTurns h h') (w : WakeId) :
    h'.wakeOf w = h.wakeOf w := by
  unfold Host.wakeOf
  rw [hs.wakes]

theorem TurnInv.of_same {h h' : Host} (hi : TurnInv h) (hs : SameTurns h h') : TurnInv h' := by
  have hn : h'.wakes.next = h.wakes.next := congrArg Heap.next hs.wakes
  have hst : ∀ w, h'.Started w ↔ h.Started w := fun w => by
    unfold Host.Started
    rw [hs.wakeOf]
  refine ⟨hi.accounted.frame hn ?_ hs.pending hs.limits,
    hi.metered.frame hn hs.turns hs.limits ?_ ?_ fun w _ => (hst w).mpr,
    hi.ordered.frame ⟨hn, hs.tail, ?_, fun w _ _ h => Or.inl ((hst w).mp h)⟩ hs.prompts⟩
  · intro i w _
    rw [hs.wakeOf]
  · intro w _
    rw [hs.wakeOf]
  · intro w _ hpc
    rw [hs.wakeOf, hpc]
  · intro w _
    rw [hs.wakeOf]
    exact Wake.Moved.refl _

theorem Host.slot_setSlot_apply (h : Host) (i k : SlotId) (f : SessionSlot → SessionSlot) :
    (h.setSlot i f).slot k = if k = i then f (h.slot i) else h.slot k :=
  cell_modify h.slots i k f

/-- A property of a slot that `f` keeps is kept by `setSlot`. -/
theorem Host.slot_setSlot {α : Type} (g : SessionSlot → α) (h : Host) (i : SlotId)
    {f : SessionSlot → SessionSlot} (hf : ∀ s, g (f s) = g s) (j : SlotId) :
    g ((h.setSlot i f).slot j) = g (h.slot j) :=
  cell_modify_rel (R := fun a b => g b = g a) h.slots (fun _ => rfl) (hf _) j

theorem sameTurns_setSlot (h : Host) (i : SlotId) {f : SessionSlot → SessionSlot}
    (hp : ∀ s, (f s).pendingTurns = s.pendingTurns) (ht : ∀ s, (f s).turnTail = s.turnTail) :
    SameTurns h (h.setSlot i f) :=
  ⟨rfl, rfl, rfl, rfl, Host.slot_setSlot (·.pendingTurns) h i hp,
    Host.slot_setSlot (·.turnTail) h i ht⟩

theorem sameTurns_syncCatalogState (h : Host) (i : SlotId) (answer : Answer) :
    SameTurns h (h.syncCatalogState i answer) := by
  unfold Host.syncCatalogState
  split
  · split
    · exact ⟨rfl, rfl, rfl, rfl, fun _ => rfl, fun _ => rfl⟩
    · exact SameTurns.refl h
  · exact SameTurns.refl h

/-! ## Moving one wake -/

theorem Host.wakeOf_setWake (h : Host) (w j : WakeId) (f : Wake → Wake) :
    (h.setWake w f).wakeOf j = if j = w then f (h.wakeOf w) else h.wakeOf j :=
  cell_modify h.wakes w j f

variable {h : Host} {w : WakeId} {f : Wake → Wake}

theorem Host.wakeOf_setWake_rel {R : Wake → Wake → Prop} (h : Host) (hr : ∀ x, R x x)
    (hf : R (h.wakeOf w) (f (h.wakeOf w))) (j : WakeId) : R (h.wakeOf j) ((h.setWake w f).wakeOf j) :=
  cell_modify_rel h.wakes hr hf j

theorem advances_modify {h h' : Host} (hw : h'.wakes = h.wakes.modify w f)
    (ht : ∀ i, (h'.slot i).turnTail = (h.slot i).turnTail) (hm : Wake.Moved (h.wakeOf w) (f (h.wakeOf w)))
    (hr : (h.wakeOf w).linked = true → 3 ≤ (f (h.wakeOf w)).stage → h.Started w ∨ Ready h.after h.Settled w) :
    Advances h h' := by
  have hcell : ∀ j, h'.wakeOf j = (h.setWake w f).wakeOf j := fun j => congrArg (·.cell j) hw
  refine ⟨by rw [hw, next_modify], ht, fun j _ => ?_, fun j _ hl hs => ?_⟩
  · rw [hcell]
    exact h.wakeOf_setWake_rel Wake.Moved.refl hm j
  unfold Host.Started at hs
  rw [hcell, Host.wakeOf_setWake] at hs
  split at hs
  · rename_i e
    subst e
    exact hr hl hs
  · exact Or.inl hs

theorem Accounted.modify {h h' : Host} (ha : Accounted h) (hw : h'.wakes = h.wakes.modify w f)
    (hp : ∀ i, (h'.slot i).pendingTurns = (h.slot i).pendingTurns) (hl : h'.limits = h.limits)
    (hs : (f (h.wakeOf w)).slot = (h.wakeOf w).slot) (h6 : (f (h.wakeOf w)).stage < 6 ↔ (h.wakeOf w).stage < 6) :
    Accounted h' := by
  have hcell : ∀ j, h'.wakeOf j = (h.setWake w f).wakeOf j := fun j => congrArg (·.cell j) hw
  refine ha.frame (by rw [hw, next_modify]) (fun i j _ => ?_) hp hl
  rw [hcell]
  exact h.wakeOf_setWake_rel (R := fun x y => y.reserves i = x.reserves i) (fun _ => rfl)
    (Wake.reserves_eq hs h6 i) j

theorem Metered.modify {h h' : Host} (hm : Metered h) (hw : h'.wakes = h.wakes.modify w f) (ht : h'.turns = h.turns)
    (hl : h'.limits = h.limits) (hp : (f (h.wakeOf w)).permit = (h.wakeOf w).permit)
    (hs : (h.wakeOf w).stage ≤ (f (h.wakeOf w)).stage)
    (ha : (h.wakeOf w).pc = .acquire → (f (h.wakeOf w)).pc = .acquire) : Metered h' := by
  have hcell : ∀ j, h'.wakeOf j = (h.setWake w f).wakeOf j := fun j => congrArg (·.cell j) hw
  refine hm.frame (by rw [hw, next_modify]) ht hl ?_ ?_ ?_
  · intro j _
    rw [hcell]
    exact h.wakeOf_setWake_rel (R := fun x y => y.permit = x.permit) (fun _ => rfl) hp j
  · intro j _
    rw [hcell]
    exact h.wakeOf_setWake_rel (R := fun x y => x.pc = .acquire → y.pc = .acquire)
      (fun _ => id) ha j
  · intro j _ hj
    unfold Host.Started
    rw [hcell]
    exact Nat.le_trans hj (h.wakeOf_setWake_rel (R := fun x y => x.stage ≤ y.stage)
      (fun _ => Nat.le_refl _) hs j)

theorem TurnInv.setWake (hi : TurnInv h) (hm : Wake.Moved (h.wakeOf w) (f (h.wakeOf w)))
    (h6 : (f (h.wakeOf w)).stage < 6 ↔ (h.wakeOf w).stage < 6)
    (hr : (h.wakeOf w).linked = true → 3 ≤ (f (h.wakeOf w)).stage → h.Started w ∨ Ready h.after h.Settled w)
    (hp : (f (h.wakeOf w)).permit = (h.wakeOf w).permit)
    (ha : (h.wakeOf w).pc = .acquire → (f (h.wakeOf w)).pc = .acquire) : TurnInv (h.setWake w f) := by
  exact ⟨hi.accounted.modify rfl (fun _ => rfl) rfl hm.slot h6, hi.metered.modify rfl rfl rfl hp hm.stage ha,
    hi.ordered.frame (advances_modify rfl (fun _ => rfl) hm hr) rfl⟩

theorem TurnInv.goto (hi : TurnInv h) {pc : WakePc} (h3 : 3 ≤ (h.wakeOf w).stage)
    (hle : (h.wakeOf w).stage ≤ pc.stage) (h4 : pc.stage ≤ 4) (ha : (h.wakeOf w).pc ≠ .acquire) :
    TurnInv (h.goto w pc) := by
  have h6 : pc.stage < 6 ↔ (h.wakeOf w).stage < 6 := by omega
  have h2 : 2 ≤ pc.stage ↔ 2 ≤ (h.wakeOf w).stage := by omega
  exact hi.setWake ⟨rfl, rfl, rfl, hle, Wake.WellStaged.of_stage rfl h2 (by omega)⟩ h6
    (fun _ _ => Or.inl h3) rfl fun e => absurd e ha

/-! ## The semaphore -/

/-- What `#release` does to a wake that may wait for the semaphore. -/
def Handed (x x' : Wake) : Prop :=
  x' = x ∨ x.pc = .acquire ∧
    (x' = x.rejected ∨ x' = x.granted)

theorem Handed.moved {x x' : Wake} (h : Handed x x') : Wake.Moved x x' ∧ x'.stage = x.stage := by
  rcases h with rfl | ⟨hpc, rfl | rfl⟩
  · exact ⟨Wake.Moved.refl _, rfl⟩
  all_goals
    have hst : x.stage = 3 := by simp [Wake.stage, hpc, WakePc.stage]
    have h2 : 2 ≤ 3 ↔ 2 ≤ x.stage := by omega
    exact ⟨⟨rfl, rfl, rfl, Nat.le_of_eq hst, Wake.WellStaged.of_stage rfl h2 (by omega)⟩, hst.symm⟩

/-- The waiters of a semaphore. -/
def Waiting (wakes : Heap Wake) (waiters : List WakeId) : Prop :=
  waiters.Nodup ∧ ∀ w ∈ waiters,
    w < wakes.next ∧ (wakes.cell w).pc = .acquire ∧ (wakes.cell w).permit = false

theorem Waiting.tail {wakes : Heap Wake} {waiters : List WakeId} (h : Waiting wakes (w :: waiters)) :
    Waiting (wakes.modify w f) waiters := by
  obtain ⟨hn, hw⟩ := h
  rw [nodup_cons] at hn
  refine ⟨hn.2, fun j hj => ?_⟩
  have hne : j ≠ w := fun e => hn.1 (e ▸ hj)
  rw [cell_modify_ne _ hne]
  exact hw j (mem_cons_of_mem _ hj)

theorem handOver_handed (limit : Nat) (active : Int) {waiters : List WakeId} {wakes : Heap Wake}
    (hw : Waiting wakes waiters) :
    (handOver limit active waiters wakes).1.next = wakes.next ∧
      ∀ j, Handed (wakes.cell j) ((handOver limit active waiters wakes).1.cell j) := by
  induction waiters generalizing wakes with
  | nil => exact ⟨rfl, fun _ => Or.inl rfl⟩
  | cons w waiters ih =>
    have hpc := (hw.2 w mem_cons_self).2.1
    unfold handOver
    split
    · obtain ⟨hn, hj⟩ := ih (hw.tail (f := Wake.rejected))
      refine ⟨hn, fun j => ?_⟩
      by_cases e : j = w
      · -- the rest of the queue does not contain the rejected waiter
        subst e
        rcases hj j with h | ⟨h, -⟩
        · rw [h, cell_modify_self]
          exact Or.inr ⟨hpc, Or.inl rfl⟩
        · rw [cell_modify_self] at h
          cases h
      · have h := hj j
        rwa [cell_modify_ne _ e] at h
    · refine ⟨rfl, fun j => ?_⟩
      exact cell_modify_rel (R := Handed) wakes (fun _ => Or.inl rfl)
        (Or.inr ⟨hpc, Or.inr rfl⟩) j

/-- The permit of the caller goes to a waiter or back to the semaphore. -/
theorem handOver_permits (limit : Nat) {active : Int} {waiters : List WakeId} {wakes : Heap Wake}
    (hw : Waiting wakes waiters) (hc : active = wakes.count Wake.permit + 1) :
    let r := handOver limit active waiters wakes
    r.2.active = r.1.count Wake.permit ∧ r.2.active ≤ active ∧ r.2.limit = limit ∧
      Waiting r.1 r.2.waiters := by
  induction waiters generalizing wakes with
  | nil =>
    refine ⟨?_, ?_, rfl, nodup_nil, fun w h => by cases h⟩
    · show active - 1 = (wakes.count Wake.permit : Int)
      omega
    · show active - 1 ≤ active
      omega
  | cons w waiters ih =>
    obtain ⟨hlt, -, hper⟩ := hw.2 w mem_cons_self
    unfold handOver
    split
    · apply ih hw.tail
      rw [count_modify_eq Wake.permit wakes hlt rfl]
      exact hc
    · have hcount := count_modify Wake.permit wakes hlt
        fun x => { x with permit := true, pc := .acquired }
      rw [hper] at hcount
      refine ⟨?_, Int.le_refl _, rfl, hw.tail⟩
      simp only [Bool.toNat_false, Bool.toNat_true] at hcount
      show active = ((wakes.modify w fun x => { x with permit := true, pc := .acquired }).count
        Wake.permit : Int)
      omega

/-- A state in which the caller of `#release` has given its permit up. -/
theorem TurnInv.release (ha : Accounted h) (ho : Ordered h) (hp : h.turns.active = h.wakes.count Wake.permit + 1)
    (hle : h.turns.active ≤ h.turns.limit) (hl : h.turns.limit = h.limits.maxConcurrentTurns)
    (hw : Waiting h.wakes h.turns.waiters) (hs : ∀ w < h.wakes.next, (h.wakeOf w).permit = true → h.Started w) :
    TurnInv h.release := by
  obtain ⟨hn, hh⟩ := handOver_handed h.turns.limit h.turns.active hw
  obtain ⟨hc, _, hlim, hwait⟩ := handOver_permits h.turns.limit hw hp
  have hm : ∀ j, Wake.Moved (h.wakeOf j) (h.release.wakeOf j) ∧
      (h.release.wakeOf j).stage = (h.wakeOf j).stage := fun j => (hh j).moved
  refine ⟨ha.frame hn ?_ (fun _ => rfl) rfl, ?_, ho.frame ⟨hn, fun _ => rfl, ?_, ?_⟩ rfl⟩
  · intro i j _
    simp only [Wake.reserves, (hm j).1.slot, (hm j).2]
  · refine ⟨hc, ?_, hlim.trans hl, hwait.1, hwait.2, ?_⟩
    · show (handOver _ _ _ _).2.active ≤ ((handOver _ _ _ _).2.limit : Int)
      omega
    intro j hj hper
    have hst : (h.release.wakeOf j).stage = (h.wakeOf j).stage := (hm j).2
    unfold Host.Started
    rw [hst]
    rcases hh j with e | ⟨hpc, -⟩
    · refine hs j (hn ▸ hj) ?_
      unfold Host.wakeOf
      rw [← e]
      exact hper
    · show 3 ≤ (h.wakes.cell j).pc.stage
      rw [hpc]
      exact Nat.le_refl _
  · intro j _
    exact (hm j).1
  · intro j _ _ hst
    unfold Host.Started at hst
    rw [(hm j).2] at hst
    exact Or.inl hst

theorem TurnInv.returnTurn (hi : TurnInv h) (hw : w < h.wakes.next) (hst : (h.wakeOf w).stage = 4)
    (error : Option ErrorCode) : TurnInv (h.returnTurn w error) := by
  have hmoved : Wake.Moved (h.wakeOf w) ((h.wakeOf w).returned error) := by
    have h2 : 2 ≤ 5 ↔ 2 ≤ (h.wakeOf w).stage := by omega
    exact ⟨rfl, rfl, rfl, show _ ≤ 5 by omega, Wake.WellStaged.of_stage rfl h2 (by omega)⟩
  have hord : Ordered (h.setWake w (Wake.returned error)) :=
    hi.ordered.frame (advances_modify rfl (fun _ => rfl) hmoved fun _ _ =>
      Or.inl (show 3 ≤ (h.wakeOf w).stage by omega)) rfl
  have hne : (h.wakeOf w).pc ≠ .acquire := by
    intro e
    unfold Wake.stage at hst
    rw [e] at hst
    cases hst
  have h6 : ((h.wakeOf w).returned error).stage < 6 ↔ (h.wakeOf w).stage < 6 := by
    show 5 < 6 ↔ (h.wakeOf w).stage < 6
    omega
  have hacc : Accounted (h.setWake w (Wake.returned error)) :=
    hi.accounted.modify rfl (fun _ => rfl) rfl hmoved.slot h6
  unfold Host.returnTurn
  split
  · rename_i hper
    have hcount : (h.wakes.modify w (Wake.returned error)).count Wake.permit + 1 =
        h.wakes.count Wake.permit + 0 := by
      have := count_modify Wake.permit h.wakes hw (Wake.returned error)
      rwa [show (h.wakes.cell w).permit = true from hper] at this
    have hm := hi.metered
    refine TurnInv.release hacc hord ?_ hm.active_le hm.limit ⟨hm.nodup, fun j hj => ?_⟩ ?_
    · show h.turns.active = ((h.wakes.modify w (Wake.returned error)).count Wake.permit : Int) + 1
      rw [hm.permits]
      omega
    · -- the wake that returns is not waiting
      obtain ⟨hlt, hpc, hp⟩ := hm.waiting j hj
      have hjw : j ≠ w := fun e => hne (e ▸ hpc)
      refine ⟨hlt, ?_⟩
      show ((h.wakes.modify w _).cell j).pc = _ ∧ ((h.wakes.modify w _).cell j).permit = _
      rw [cell_modify_ne _ hjw]
      exact ⟨hpc, hp⟩
    · intro j hj hp
      unfold Host.Started
      rw [Host.wakeOf_setWake] at hp ⊢
      split at hp
      · cases hp
      rename_i hjw
      rw [if_neg hjw]
      exact hm.started j hj hp
  · rename_i hper
    simp only [Bool.not_eq_true] at hper
    exact ⟨hacc, hi.metered.modify rfl rfl rfl hper.symm hmoved.stage fun e => absurd e hne,
      hord⟩

theorem TurnInv.endTurn (hi : TurnInv h) (hw : w < h.wakes.next) (hst : (h.wakeOf w).stage = 4)
    (error : Option ErrorCode) : TurnInv (h.endTurn w error) := by
  have hi' : TurnInv (h.setSlot (h.wakeOf w).slot fun s => { s with activeAbort := none }) :=
    hi.of_same (sameTurns_setSlot h _ (fun _ => rfl) fun _ => rfl)
  exact hi'.returnTurn hw hst error

theorem TurnInv.acquire (hi : TurnInv h) (hw : w < h.wakes.next) (hst : (h.wakeOf w).stage = 2)
    (hr : Ready h.after h.Settled w) : TurnInv (h.acquire w) := by
  have hmoved : ∀ x' : Wake, x'.slot = (h.wakeOf w).slot → x'.after = (h.wakeOf w).after →
      x'.linked = (h.wakeOf w).linked → x'.stage = 3 → Wake.Moved (h.wakeOf w) x' := by
    intro x' hs ha hl h3
    exact ⟨hs, ha, hl, by omega, Wake.WellStaged.of_stage hl (by omega) (by omega)⟩
  have h6 : 3 < 6 ↔ (h.wakeOf w).stage < 6 := by omega
  have hne : (h.wakeOf w).pc ≠ .acquire := by
    intro e
    unfold Wake.stage at hst
    rw [e] at hst
    cases hst
  have hper : (h.wakeOf w).permit = false := by
    cases hp : (h.wakeOf w).permit with
    | false => rfl
    | true =>
      have : 3 ≤ (h.wakeOf w).stage := hi.metered.started w hw hp
      omega
  have hm := hi.metered
  unfold Host.acquire
  split
  · exact hi.setWake (hmoved _ rfl rfl rfl rfl) h6 (fun _ _ => Or.inr hr) rfl
      fun e => absurd e hne
  split
  · have hcount : (h.wakes.modify w Wake.granted).count Wake.permit + 0 =
        h.wakes.count Wake.permit + 1 := by
      have := count_modify Wake.permit h.wakes hw Wake.granted
      rwa [show (h.wakes.cell w).permit = false from hper] at this
    refine ⟨hi.accounted.modify (f := Wake.granted) rfl (fun _ => rfl) rfl rfl h6,
      ⟨?_, ?_, hm.limit, hm.nodup, ?_, ?_⟩,
      hi.ordered.frame (advances_modify (f := Wake.granted) rfl (fun _ => rfl)
        (hmoved _ rfl rfl rfl rfl) fun _ _ => Or.inr hr) rfl⟩
    · show h.turns.active + 1 = ((h.wakes.modify w Wake.granted).count Wake.permit : Int)
      rw [hm.permits]
      omega
    · show h.turns.active + 1 ≤ (h.turns.limit : Int)
      omega
    · intro j hj
      obtain ⟨hlt, hpc, hp⟩ := hm.waiting j hj
      have hjw : j ≠ w := fun e => hne (e ▸ hpc)
      rw [Host.wakeOf_setWake, if_neg hjw]
      exact ⟨hlt, hpc, hp⟩
    · intro j hj hp
      unfold Host.Started
      rw [Host.wakeOf_setWake] at hp ⊢
      split
      · exact Nat.le_refl 3
      rename_i hjw
      rw [if_neg hjw] at hp
      exact hm.started j hj hp
  · let f : Wake → Wake := fun x => { x with pc := .acquire }
    refine ⟨hi.accounted.modify (f := f) rfl (fun _ => rfl) rfl rfl h6,
      ⟨?_, hm.active_le, hm.limit, ?_, ?_, ?_⟩,
      hi.ordered.frame (advances_modify (f := f) rfl (fun _ => rfl)
        (hmoved _ rfl rfl rfl rfl) fun _ _ => Or.inr hr) rfl⟩
    · refine hm.permits.trans (congrArg _ (Eq.symm ?_))
      exact count_modify_eq (f := f) Wake.permit h.wakes hw rfl
    · refine nodup_append.mpr ⟨hm.nodup, nodup_singleton w, ?_⟩
      intro j hj k hk e
      rw [mem_singleton] at hk
      subst hk
      subst e
      exact hne (hm.waiting j hj).2.1
    · intro j hj
      unfold Host.goto
      rw [Host.wakeOf_setWake]
      split
      · rename_i e
        exact ⟨e ▸ hw, rfl, hper⟩
      rename_i e
      rcases mem_append.mp hj with hj | hj
      · exact hm.waiting j hj
      · exact absurd (mem_singleton.mp hj) e
    · intro j hj hp
      unfold Host.Started
      unfold Host.goto at hp ⊢
      rw [Host.wakeOf_setWake] at hp ⊢
      split
      · exact Nat.le_refl 3
      rename_i hjw
      rw [if_neg hjw] at hp
      exact hm.started j hj hp

/-- `abort.abort()` -/
theorem TurnInv.abortWake (hi : TurnInv h) (w : WakeId) : TurnInv (h.abortWake w) := by
  have hm := hi.metered
  unfold Host.abortWake
  split
  · rename_i hmem
    obtain ⟨hw, hpc, _⟩ := hm.waiting w hmem
    have hst : (h.wakeOf w).stage = 3 := by
      unfold Wake.stage
      rw [hpc]
      rfl
    have h6 : 3 < 6 ↔ (h.wakeOf w).stage < 6 := by omega
    let f : Wake → Wake := fun x => { x with aborted := true }.rejected
    have h2 : 2 ≤ 3 ↔ 2 ≤ (h.wakeOf w).stage := by omega
    have hmoved : Wake.Moved (h.wakeOf w) (f (h.wakeOf w)) :=
      ⟨rfl, rfl, rfl, Nat.le_of_eq hst, Wake.WellStaged.of_stage rfl h2 (by omega)⟩
    refine ⟨hi.accounted.modify (f := f) rfl (fun _ => rfl) rfl rfl h6,
      ⟨?_, hm.active_le, hm.limit, hm.nodup.erase w, ?_, ?_⟩,
      hi.ordered.frame (advances_modify (f := f) rfl (fun _ => rfl) hmoved
        fun _ _ => Or.inl (Nat.le_of_eq hst.symm)) rfl⟩
    · refine hm.permits.trans (congrArg _ (Eq.symm ?_))
      exact count_modify_eq (f := f) Wake.permit h.wakes hw rfl
    · intro j hj
      obtain ⟨hjw, hj⟩ := hm.nodup.mem_erase_iff.mp hj
      rw [Host.wakeOf_setWake, if_neg hjw]
      exact hm.waiting j hj
    · intro j hj hp
      unfold Host.Started
      rw [Host.wakeOf_setWake] at hp ⊢
      split
      · exact Nat.le_refl 3
      rename_i hjw
      rw [if_neg hjw] at hp
      exact hm.started j hj hp
  · exact hi.setWake ⟨rfl, rfl, rfl, Nat.le_refl _, id⟩ Iff.rfl (fun _ h => Or.inl h) rfl id

/-! ## Admission, link, prompt and release -/

theorem Accounted.admitWake (ha : Accounted h) {i : SlotId} (command : WakeCommand)
    (hlt : (h.slot i).pendingTurns < h.limits.maxSessionQueueDepth + 1) : Accounted (h.admitWake i command) := by
  have hp : ∀ j, ((h.admitWake i command).slot j).pendingTurns =
      (h.slot j).pendingTurns + if i = j then 1 else 0 := by
    intro j
    show ((h.slots.modify i (SessionSlot.reserve command h.wakes.next)).cell j).pendingTurns = _
    rw [cell_modify]
    split
    · rename_i e
      subst e
      simp [Host.slot, SessionSlot.reserve]
    · rename_i e
      simp [Host.slot, Ne.symm e]
  have hc : ∀ j, (h.admitWake i command).wakes.count (Wake.reserves j) =
      h.wakes.count (Wake.reserves j) + if i = j then 1 else 0 := by
    intro j
    refine (count_alloc _ h.wakes _).trans ?_
    by_cases e : i = j <;> simp [Wake.reserves, Wake.stage, Wake.admitted, WakePc.stage, e]
  refine ⟨fun j => ?_, fun j => ?_⟩
  · rw [hp, hc, ha.pending]
    split <;> simp
  rw [hp]
  have := ha.depth j
  split
  · rename_i e
    subst e
    show _ ≤ (h.limits.maxSessionQueueDepth : Int) + 1
    omega
  · show _ ≤ (h.limits.maxSessionQueueDepth : Int) + 1
    omega

theorem TurnInv.admitWake (hi : TurnInv h) {i : SlotId} (command : WakeCommand)
    (hlt : (h.slot i).pendingTurns < h.limits.maxSessionQueueDepth + 1) : TurnInv (h.admitWake i command) := by
  have hold : ∀ j < h.wakes.next, (h.admitWake i command).wakeOf j = h.wakeOf j :=
    fun j hj => cell_alloc_lt h.wakes hj _
  have hnew : ((h.admitWake i command).wakeOf h.wakes.next).linked = false ∧
      ((h.admitWake i command).wakeOf h.wakes.next).stage = 0 ∧
      ((h.admitWake i command).wakeOf h.wakes.next).permit = false := by
    have : (h.admitWake i command).wakeOf h.wakes.next = Wake.admitted i command :=
      cell_alloc_self h.wakes _
    rw [this]
    exact ⟨rfl, rfl, rfl⟩
  have hcases : ∀ j < (h.admitWake i command).wakes.next, j < h.wakes.next ∨ j = h.wakes.next :=
    fun j hj => Nat.lt_succ_iff_lt_or_eq.mp hj
  have hlinked : ∀ k j, (h.admitWake i command).Linked k j ↔ h.Linked k j := by
    intro k j
    constructor
    · rintro ⟨hj, hs, hl⟩
      rcases hcases j hj with hj | rfl
      · rw [hold j hj] at hs hl
        exact ⟨hj, hs, hl⟩
      · rw [hnew.1] at hl
        cases hl
    · rintro ⟨hj, hs, hl⟩
      refine ⟨Nat.lt_succ_of_lt hj, ?_⟩
      rw [hold j hj]
      exact ⟨hs, hl⟩
  have hstage : ∀ j, j < h.wakes.next →
      ((h.admitWake i command).wakeOf j).stage = (h.wakeOf j).stage := fun j hj => by rw [hold j hj]
  have hm := hi.metered
  have ho := hi.ordered
  refine ⟨hi.accounted.admitWake command hlt, ⟨?_, hm.active_le, hm.limit, hm.nodup, ?_, ?_⟩,
    ⟨fun k => ?_, ?_, ?_, ?_, ho.increasing⟩⟩
  · refine hm.permits.trans (congrArg _ (Eq.symm ?_))
    exact (count_alloc Wake.permit h.wakes _).trans rfl
  · intro j hj
    obtain ⟨hj, hpc, hp⟩ := hm.waiting j hj
    rw [hold j hj]
    exact ⟨Nat.lt_succ_of_lt hj, hpc, hp⟩
  · intro j hj hp
    rcases hcases j hj with hj | rfl
    · rw [hold j hj] at hp
      unfold Host.Started
      rw [hold j hj]
      exact hm.started j hj hp
    · rw [hnew.2.2] at hp
      cases hp
  · have htail : ((h.admitWake i command).slot k).turnTail = (h.slot k).turnTail :=
      Host.slot_setSlot (f := SessionSlot.reserve command h.wakes.next) (·.turnTail) h i
        (fun _ => rfl) k
    refine (ho.chain k).advance (hlinked k) (fun j hj => ?_) htail (fun j hj hs => Or.inl ?_)
      (fun j hj hs => ?_) fun j hj hs => ?_
    · unfold Host.after
      rw [hold j hj.1]
    · unfold Host.Started at hs ⊢
      rwa [hstage j hj.1] at hs
    · unfold Host.Settled at hs ⊢
      rwa [hstage j hj.1]
    · unfold Host.Settled at hs
      unfold Host.Started
      omega
  · intro j hj w hw hl h0 hs
    rcases hcases j hj with hj | rfl
    · rcases hcases w hw with hw | rfl
      · rw [hold j hj] at hl hs
        rw [hold w hw] at h0 hs
        exact ho.fifo j hj w hw hl h0 hs
      · exact hj
    · rw [hnew.1] at hl
      cases hl
  · intro j hj
    rcases hcases j hj with hj | rfl
    · rw [hold j hj]
      exact ho.staged j hj
    intro _
    rw [hnew.1, hnew.2.1]
    decide
  · intro p hp
    obtain ⟨hl, hs⟩ := ho.prompted p hp
    refine ⟨(hlinked _ _).mpr hl, ?_⟩
    rw [hold _ hl.1]
    exact hs

theorem TurnInv.unlinked (hi : TurnInv h) (hw : w < h.wakes.next) (hst : (h.wakeOf w).stage ≤ 1) :
    (h.wakeOf w).linked = false := by
  have := hi.ordered.staged w hw (by omega)
  cases hl : (h.wakeOf w).linked with
  | false => rfl
  | true =>
    have := this.mp hl
    omega

/-- The oldest wake of a slot that awaits `beginRequest` is linked. -/
theorem TurnInv.linkTurn (hi : TurnInv h) (hw : w < h.wakes.next) (hst : (h.wakeOf w).stage = 0)
    (hnext : h.beginsNext w = true) : TurnInv (h.linkTurn w) := by
  have hunlinked := hi.unlinked hw (by omega)
  have holder : ∀ j < w, (h.wakeOf j).slot = (h.wakeOf w).slot → (h.wakeOf j).stage ≠ 0 := by
    intro j hj hs h0
    have := all_eq_true.mp hnext j (mem_range.mpr hj)
    have hpc : (h.wakeOf j).pc = .beginRequest := by
      unfold Wake.stage at h0
      cases hpc : (h.wakeOf j).pc <;> rw [hpc] at h0 <;> first | rfl | cases h0
    simp [hs, hpc] at this
  have hold : ∀ j, j ≠ w → (h.linkTurn w).wakeOf j = h.wakeOf j :=
    fun j hj => cell_modify_ne h.wakes hj _
  have hnew : (h.linkTurn w).wakeOf w =
      (h.wakeOf w).link (h.slot (h.wakeOf w).slot).turnTail := cell_modify_self h.wakes w _
  have htail : ∀ k, ((h.linkTurn w).slot k).turnTail =
      if k = (h.wakeOf w).slot then some w else (h.slot k).turnTail := by
    intro k
    refine (congrArg SessionSlot.turnTail ((h.setWake w _).slot_setSlot_apply _ k _)).trans ?_
    split <;> rfl
  have h2 : ((h.linkTurn w).wakeOf w).stage = 2 := by
    rw [hnew]
    rfl
  have hlinked : ∀ k j, (h.linkTurn w).Linked k j ↔
      h.Linked k j ∨ j = w ∧ k = (h.wakeOf w).slot := by
    intro k j
    unfold Host.Linked
    by_cases e : j = w
    · subst e
      rw [hnew, hunlinked]
      constructor
      · rintro ⟨-, hs, -⟩
        exact Or.inr ⟨rfl, hs.symm⟩
      rintro (⟨-, -, hl⟩ | ⟨-, hs⟩)
      · cases hl
      · exact ⟨hw, hs.symm, rfl⟩
    · rw [hold j e]
      constructor
      · exact Or.inl
      rintro (hl | ⟨e', -⟩)
      · exact hl
      · exact absurd e' e
  have hne : ∀ k j, h.Linked k j → j ≠ w := by
    rintro k j ⟨-, -, hl⟩ e
    rw [e, hunlinked] at hl
    cases hl
  have hm := hi.metered
  have ho := hi.ordered
  refine ⟨?_, ?_, ⟨fun k => ?_, ?_, ?_, ?_, ho.increasing⟩⟩
  · refine hi.accounted.modify (f := Wake.link (h.slot (h.wakeOf w).slot).turnTail) rfl ?_ rfl rfl
      (iff_of_true (show 2 < 6 by omega) (by omega))
    exact Host.slot_setSlot (·.pendingTurns) h (h.wakeOf w).slot fun _ => rfl
  · refine hm.modify (f := Wake.link (h.slot (h.wakeOf w).slot).turnTail) rfl rfl rfl rfl
      (show _ ≤ 2 by omega) fun e => ?_
    unfold Wake.stage at hst
    rw [e] at hst
    cases hst
  · have hstage : ∀ j, h.Linked k j → ((h.linkTurn w).wakeOf j).stage = (h.wakeOf j).stage :=
      fun j hj => by rw [hold j (hne k j hj)]
    have hafter : ∀ j, h.Linked k j → (h.linkTurn w).after j = h.after j :=
      fun j hj => congrArg Wake.after (hold j (hne k j hj))
    by_cases hk : k = (h.wakeOf w).slot
    · -- the new turn is the last one of its slot: the earlier ones were linked before
      subst hk
      refine (ho.chain _).link (n := w) (fun j => ?_) ?_ (congrArg Wake.after hnew) hafter ?_ ?_ ?_
        ?_ ?_
      · rw [hlinked]
        simp
      · rintro j ⟨hj, hs, hl⟩
        exact ho.fifo j hj w hw hl hst hs
      · rw [htail, if_pos rfl]
      · unfold Host.Started
        omega
      · unfold Host.Settled
        omega
      · intro j hj
        unfold Host.Started
        rw [hstage j hj]
      · intro j hj
        unfold Host.Settled
        rw [hstage j hj]
    · refine (ho.chain k).advance (fun j => ?_) hafter ?_ ?_ ?_ ?_
      · rw [hlinked]
        simp [hk]
      · rw [htail, if_neg hk]
      · intro j hj hs
        unfold Host.Started at hs
        rw [hstage j hj] at hs
        exact Or.inl hs
      · intro j hj hs
        unfold Host.Settled
        rwa [hstage j hj]
      · intro j hj hs
        unfold Host.Settled at hs
        unfold Host.Started
        omega
  · intro j hj i hi' hl h0 hs
    have hiw : i ≠ w := by
      rintro rfl
      omega
    rw [hold i hiw] at h0 hs
    by_cases e : j = w
    · -- the wakes that still await `beginRequest` are younger than the one linked now
      subst e
      rw [hnew] at hs
      rcases Nat.lt_or_ge i j with hlt | hge
      · exact absurd h0 (holder i hlt hs.symm)
      · exact Nat.lt_of_le_of_ne hge (Ne.symm hiw)
    · rw [hold j e] at hl hs
      exact ho.fifo j hj i hi' hl h0 hs
  · intro j hj
    by_cases e : j = w
    · subst e
      intro _
      rw [hnew]
      exact iff_of_true rfl (Nat.le_refl 2)
    · rw [hold j e]
      exact ho.staged j hj
  · intro p hp
    obtain ⟨hl, hs⟩ := ho.prompted p hp
    refine ⟨(hlinked _ _).mpr (Or.inl hl), ?_⟩
    rw [hold _ (hne _ _ hl)]
    exact hs

theorem TurnInv.startPrompt (hi : TurnInv h) (hw : w < h.wakes.next) (hpc : (h.wakeOf w).pc = .syncRunning) :
    TurnInv (h.startPrompt w) := by
  have hst : (h.wakeOf w).stage = 3 := by
    unfold Wake.stage
    rw [hpc]
    rfl
  have hl : h.Linked (h.wakeOf w).slot w :=
    ⟨hw, rfl, (hi.ordered.staged w hw (by omega)).mpr (by omega)⟩
  have hlast : ∀ p ∈ h.prompts, p.slot = (h.wakeOf w).slot → p.wake < w := by
    intro p hp hs
    obtain ⟨hlp, h4⟩ := hi.ordered.prompted p hp
    rw [hs] at hlp
    rcases Nat.lt_trichotomy p.wake w with hlt | heq | hgt
    · exact hlt
    · rw [heq] at h4
      omega
    · -- a later turn of the slot starts only after this one has settled
      have hp3 : h.Started p.wake := Nat.le_of_succ_le h4
      have h5 : 5 ≤ (h.wakeOf w).stage :=
        (hi.ordered.chain _).in_order p.wake hlp hp3 w hl hgt
      omega
  have hg : TurnInv (h.goto w .prompt) :=
    hi.goto (Nat.le_of_eq hst.symm) (show _ ≤ 4 by omega) (Nat.le_refl 4) (by rw [hpc]; decide)
  obtain ⟨ha, hm, ho⟩ := hg
  refine ⟨⟨ha.pending, ha.depth⟩, ⟨hm.permits, hm.active_le, hm.limit, hm.nodup, hm.waiting,
    hm.started⟩, ⟨ho.chain, ho.fifo, ho.staged, ?_, ?_⟩⟩
  · intro p hp
    rcases mem_append.mp hp with hp | hp
    · exact ho.prompted p hp
    rw [mem_singleton] at hp
    subst hp
    have hcell : (h.goto w .prompt).wakeOf w = { h.wakeOf w with pc := .prompt } := by
      unfold Host.goto
      rw [Host.wakeOf_setWake, if_pos rfl]
    refine ⟨?_, ?_⟩
    · show (h.goto w .prompt).Linked (h.wakeOf w).slot w
      unfold Host.Linked
      rw [hcell]
      exact hl
    · show 4 ≤ ((h.goto w .prompt).wakeOf w).stage
      rw [hcell]
      exact Nat.le_refl 4
  · refine pairwise_append.mpr ⟨hi.ordered.increasing, pairwise_singleton _ _, ?_⟩
    intro p hp q hq hs
    rw [mem_singleton] at hq
    subst hq
    exact hlast p hp hs

theorem Accounted.releaseReservation (ha : Accounted h) (hw : w < h.wakes.next) (hst : (h.wakeOf w).stage < 6)
    (error : Option ErrorCode) : Accounted (h.releaseReservation w error) := by
  have hp : ∀ j, ((h.releaseReservation w error).slot j).pendingTurns =
      (h.slot j).pendingTurns - if (h.wakeOf w).slot = j then 1 else 0 := by
    intro j
    refine (congrArg SessionSlot.pendingTurns (h.slot_setSlot_apply _ j _)).trans ?_
    split
    · rename_i e
      subst e
      simp [Host.slot, SessionSlot.releaseReservation]
    · rename_i e
      simp [Host.slot, Ne.symm e]
  have hc : ∀ j, (h.releaseReservation w error).wakes.count (Wake.reserves j) +
      (if (h.wakeOf w).slot = j then 1 else 0) = h.wakes.count (Wake.reserves j) := by
    intro j
    have := count_modify (Wake.reserves j) h.wakes hw (Wake.settle error)
    have hnew : Wake.reserves j (Wake.settle error (h.wakes.cell w)) = false := by
      simp [Wake.reserves, Wake.settle, Wake.stage, WakePc.stage]
    have hcur : Wake.reserves j (h.wakes.cell w) = decide ((h.wakeOf w).slot = j) := by
      unfold Host.wakeOf at hst ⊢
      simp [Wake.reserves, hst]
    rw [hnew, hcur] at this
    refine Eq.trans ?_ this
    by_cases e : (h.wakeOf w).slot = j <;> simp [e, Host.releaseReservation, Host.setWake, Host.setSlot]
  refine ⟨fun j => ?_, fun j => ?_⟩
  · rw [hp, ha.pending, ← hc j]
    split <;> simp
  rw [hp]
  have := ha.depth j
  show _ ≤ (h.limits.maxSessionQueueDepth : Int) + 1
  split <;> omega

/-- A wake that has not been linked, or whose turn has settled, gives its
reservation back. -/
theorem TurnInv.releaseReservation (hi : TurnInv h) (hw : w < h.wakes.next)
    (hst : (h.wakeOf w).stage ≤ 1 ∨ (h.wakeOf w).stage = 5) (error : Option ErrorCode) :
    TurnInv (h.releaseReservation w error) := by
  have hmoved : Wake.Moved (h.wakeOf w) ((h.wakeOf w).settle error) := by
    refine ⟨rfl, rfl, rfl, (show _ ≤ 6 by omega), fun _ h5 => ?_⟩
    exact absurd h5 (show ¬ 6 ≤ 5 by omega)
  have htail : ∀ i, ((h.releaseReservation w error).slot i).turnTail = (h.slot i).turnTail :=
    Host.slot_setSlot (·.turnTail) h (h.wakeOf w).slot fun _ => rfl
  refine ⟨hi.accounted.releaseReservation hw (by omega) error,
    hi.metered.modify (f := Wake.settle error) rfl rfl rfl rfl hmoved.stage fun e => ?_,
    hi.ordered.frame (advances_modify (f := Wake.settle error) rfl htail hmoved fun hl _ => ?_) rfl⟩
  · unfold Wake.stage at hst
    rw [e] at hst
    simp [WakePc.stage] at hst
  · rcases hst with hst | hst
    · rw [hi.unlinked hw hst] at hl
      cases hl
    · exact Or.inl (show 3 ≤ _ by omega)

end PiDaemon.Multiplexer
