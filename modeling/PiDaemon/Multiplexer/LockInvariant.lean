import PiDaemon.Multiplexer.LifecycleSteps

/-!
# The lifecycle lock

`#withLifecycle` chains the operations of a session, so at most one of them is
between its start and its end.

* `LockInv.step`: every step of the host keeps the chains;
* `LockInv.unique`: two active operations of one session are the same one;
* `lifecycle_frame`: what no lifecycle step changes.
-/

namespace PiDaemon.Multiplexer

open Lib

namespace Host

/-- The operations that take the lock of the session. -/
def Locks (h : Host) (sessionId : SessionId) (o : OpId) : Prop :=
  o < h.ops.next ∧ (h.op o).request.locks = true ∧ (h.op o).request.sessionId = sessionId

def Begun (h : Host) (o : OpId) : Prop := (h.op o).pc ≠ .queued

def Ended (h : Host) (o : OpId) : Prop := h.opDone o = true

/-- The operation holds the lock of its session. -/
def Active (h : Host) (o : OpId) : Prop := o < h.ops.next ∧ h.Begun o ∧ ¬ h.Ended o

end Host

def LockInv (h : Host) : Prop :=
  ∀ sessionId, Chained (h.Locks sessionId) (fun o => (h.op o).after) (h.lifecycleTails sessionId)
    h.Begun h.Ended

variable {h : Host}

/-- At most one operation holds the lock of a session. -/
theorem LockInv.unique (hi : LockInv h) {o p : OpId} (ho : h.Active o) (hp : h.Active p)
    (hol : (h.op o).request.locks = true) (hpl : (h.op p).request.locks = true)
    (hs : (h.op o).request.sessionId = (h.op p).request.sessionId) : o = p :=
  (hi _).exclusive ⟨ho.1, hol, rfl⟩ ⟨hp.1, hpl, hs.symm⟩ ho.2.1 hp.2.1 ho.2.2 hp.2.2

/-! ## Effects -/

/-- What the effects of the lifecycle leave alone. -/
structure EffectFrame (h g : Host) : Prop where
  ops : g.ops = h.ops
  lifecycleTails : g.lifecycleTails = h.lifecycleTails
  limits : g.limits = h.limits
  hasCatalog : g.hasCatalog = h.hasCatalog
  clock : g.clock = h.clock
  wakes : g.wakes = h.wakes
  turns : g.turns = h.turns
  prompts : g.prompts = h.prompts
  leases : g.leases = h.leases

section
variable (h)

theorem EffectFrame.refl : EffectFrame h h := ⟨rfl, rfl, rfl, rfl, rfl, rfl, rfl, rfl, rfl⟩

theorem EffectFrame.trans {a b c : Host} (h : EffectFrame a b) (h' : EffectFrame b c) :
    EffectFrame a c :=
  ⟨h'.ops.trans h.ops, h'.lifecycleTails.trans h.lifecycleTails, h'.limits.trans h.limits,
    h'.hasCatalog.trans h.hasCatalog, h'.clock.trans h.clock, h'.wakes.trans h.wakes,
    h'.turns.trans h.turns, h'.prompts.trans h.prompts, h'.leases.trans h.leases⟩

theorem frame_retainToolAdapter (command : OpenCommand) :
    EffectFrame h (h.retainToolAdapter command) := by
  unfold Host.retainToolAdapter
  split <;> exact ⟨rfl, rfl, rfl, rfl, rfl, rfl, rfl, rfl, rfl⟩

theorem frame_sweepCheck (i : SlotId) (now : Nat) : EffectFrame h (h.sweepCheck i now).1 := by
  unfold Host.sweepCheck Host.residencyLeaseCount
  split
  · exact EffectFrame.refl h
  simp only
  split
  · exact EffectFrame.refl h
  · split <;> exact ⟨rfl, rfl, rfl, rfl, rfl, rfl, rfl, rfl, rfl⟩

theorem slots_sweepCheck (i : SlotId) (now : Nat) :
    (h.sweepCheck i now).1.slots = h.slots ∧ (h.sweepCheck i now).1.sessions = h.sessions := by
  unfold Host.sweepCheck Host.residencyLeaseCount
  split
  · exact ⟨rfl, rfl⟩
  simp only
  split
  · exact ⟨rfl, rfl⟩
  · split <;> exact ⟨rfl, rfl⟩

theorem slots_retainToolAdapter (command : OpenCommand) :
    (h.retainToolAdapter command).slots = h.slots ∧
      (h.retainToolAdapter command).sessions = h.sessions := by
  unfold Host.retainToolAdapter
  split <;> exact ⟨rfl, rfl⟩

end

theorem Effect.frame {h g : Host} {x x' : LifecycleOp} (he : Effect h x g x') : EffectFrame h g := by
  cases he with
  | create => exact frame_retainToolAdapter h _
  | replaced =>
    refine EffectFrame.trans ?_ (frame_retainToolAdapter _ _)
    exact ⟨rfl, rfl, rfl, rfl, rfl, rfl, rfl, rfl, rfl⟩
  | sweepPass => exact frame_sweepCheck h _ _
  | @sweepClose _ i now =>
    refine (frame_sweepCheck h i now).trans ?_
    exact ⟨rfl, rfl, rfl, rfl, rfl, rfl, rfl, rfl, rfl⟩
  | _ => exact ⟨rfl, rfl, rfl, rfl, rfl, rfl, rfl, rfl, rfl⟩

theorem op_putOp (g : Host) (o p : OpId) (x : LifecycleOp) :
    (g.putOp o x).op p = if p = o then x else g.op p := Heap.cell_set g.ops o p x

theorem OpenCommand.firstAwait_cases (command : OpenCommand) :
    command.firstAwait = .openReprovision ∨ command.firstAwait = .openFactory := by
  unfold OpenCommand.firstAwait
  split
  · exact Or.inl rfl
  · exact Or.inr rfl

theorem Goes.sweeping {x : LifecycleOp} {pc : LifecyclePc} (hg : Goes h x pc)
    (hs : pc.sweeping = true) : x.pc.sweeping = true := by
  cases hg with
  | sweepCatalog hpc =>
    rw [hpc]
    rfl
  | _ => cases hs

theorem firstAwait_not_sweeping (command : OpenCommand) : command.firstAwait.sweeping = false := by
  rcases command.firstAwait_cases with e | e <;> rw [e] <;> rfl

theorem Goes.pc_ne {x : LifecycleOp} {pc : LifecyclePc} (hg : Goes h x pc) :
    pc ≠ .queued ∧ ∀ result, pc ≠ .done result := by
  cases hg <;> exact ⟨LifecyclePc.noConfusion, fun _ => LifecyclePc.noConfusion⟩

/-- An effect keeps the request of the operation and its place in the chain. -/
theorem Effect.op {h g : Host} {x x' : LifecycleOp} (he : Effect h x g x') :
    x'.request = x.request ∧ x'.after = x.after ∧ x'.pc ≠ .queued := by
  cases he with
  | go hg => exact ⟨rfl, rfl, hg.pc_ne.1⟩
  | finish hr ha hpc => exact ⟨hr, ha, by rw [hpc]; exact LifecyclePc.noConfusion⟩
  | @create command | @replaced command =>
    refine ⟨rfl, rfl, ?_⟩
    rcases command.firstAwait_cases with e | e <;> rw [e] <;> exact LifecyclePc.noConfusion
  | controller =>
    refine ⟨rfl, rfl, ?_⟩
    show (if h.hasCatalog then _ else _) ≠ _
    split <;> exact LifecyclePc.noConfusion
  | @beginCloseCached _ _ _ _ pc _ _ hpc =>
    refine ⟨rfl, rfl, ?_⟩
    rcases hpc with e | ⟨e, -⟩ <;> rw [e] <;> exact LifecyclePc.noConfusion
  | _ => exact ⟨rfl, rfl, LifecyclePc.noConfusion⟩

/-! ## The chains -/

theorem lockReady_ready {o : OpId} (hr : h.lockReady o = true) :
    Ready (fun p => (h.op p).after) h.Ended o := by
  unfold Host.lockReady at hr
  split at hr
  · rename_i e
    exact Or.inl e
  · rename_i p e
    exact Or.inr ⟨p, e, hr⟩

theorem LockInv.of_same {h h' : Host} (hi : LockInv h) (ho : h'.ops = h.ops)
    (ht : h'.lifecycleTails = h.lifecycleTails) : LockInv h' := by
  intro sessionId
  have hop : ∀ o, h'.op o = h.op o := fun o => congrArg (·.cell o) ho
  have hlocks : h'.Locks sessionId = h.Locks sessionId := by
    funext o
    unfold Host.Locks
    rw [ho, hop]
  have hbegun : h'.Begun = h.Begun := by
    funext o
    unfold Host.Begun
    rw [hop]
  have hended : h'.Ended = h.Ended := by
    funext o
    unfold Host.Ended Host.opDone
    rw [hop]
  rw [hlocks, ht, hbegun, hended]
  simp only [hop]
  exact hi sessionId

theorem LockInv.makes {h h' : Host} (hi : LockInv h) {o : OpId} (ho : o < h.ops.next)
    (hq : (h.op o).pc = .queued → h.lockReady o = true) (hd : h.opDone o = false)
    (hm : Makes h o h') : LockInv h' := by
  obtain ⟨g, x', he, hops, rfl⟩ := hm
  obtain ⟨hreq, hafter, _⟩ := he.op
  have hself : (g.putOp o x').op o = x' := Heap.cell_set_self g.ops o x'
  have hother : ∀ p, p ≠ o → (g.putOp o x').op p = h.op p := fun p hp =>
    (Heap.cell_set_ne g.ops hp x').trans (congrArg (·.cell p) hops)
  have hnext : (g.putOp o x').ops.next = h.ops.next := by
    show g.ops.next = h.ops.next
    rw [hops]
  have hkeep : ∀ p, ((g.putOp o x').op p).request = (h.op p).request ∧
      ((g.putOp o x').op p).after = (h.op p).after := by
    intro p
    by_cases e : p = o
    · rw [e, hself]
      exact ⟨hreq, hafter⟩
    · rw [hother p e]
      exact ⟨rfl, rfl⟩
  have hended : ∀ p, (g.putOp o x').Ended p → (g.putOp o x').Begun p := by
    intro p hp hb
    unfold Host.Ended Host.opDone at hp
    rw [hb] at hp
    cases hp
  intro sessionId
  refine (hi sessionId).advance (fun p => ?_) (fun p _ => (hkeep p).2) ?_ ?_ ?_
    (fun p _ hp => hended p hp)
  · unfold Host.Locks
    rw [hnext, (hkeep p).1]
  · exact congrFun he.frame.lifecycleTails sessionId
  · intro p _ hb
    by_cases e : p = o
    · subst e
      by_cases hqp : (h.op p).pc = .queued
      · exact Or.inr (lockReady_ready (hq hqp))
      · exact Or.inl hqp
    · unfold Host.Begun at hb ⊢
      rw [hother p e] at hb
      exact Or.inl hb
  · intro p _ hp
    unfold Host.Ended at hp ⊢
    by_cases e : p = o
    · rw [e, hd] at hp
      cases hp
    · unfold Host.opDone at hp ⊢
      rwa [hother p e]

theorem op_newOp (h : Host) (request : LifecycleRequest) (after : Option OpId) (pc : LifecyclePc)
    (p : OpId) : (h.newOp request after pc).op p =
      if p = h.ops.next then ⟨request, after, pc, none, none, none, none⟩ else h.op p :=
  Heap.cell_alloc h.ops p _

theorem ops_withLifecycle (h : Host) (request : LifecycleRequest) (o : OpId)
    (ho : o < (h.withLifecycle request).ops.next) :
    o < h.ops.next ∧ (h.withLifecycle request).op o = h.op o ∨
      ((h.withLifecycle request).op o).pc = .queued ∧
        ((h.withLifecycle request).op o).request = request := by
  have hop : (h.withLifecycle request).op o = _ := op_newOp h request _ .queued o
  rw [hop]
  rcases Nat.lt_succ_iff_lt_or_eq.mp ho with hlt | rfl
  · rw [if_neg (Nat.ne_of_lt hlt)]
    exact Or.inl ⟨hlt, rfl⟩
  · rw [if_pos rfl]
    exact Or.inr ⟨rfl, rfl⟩

theorem LockInv.withLifecycle (hi : LockInv h) {request : LifecycleRequest}
    (hl : request.locks = true) : LockInv (h.withLifecycle request) := by
  intro sessionId
  have hnew : (h.withLifecycle request).op h.ops.next =
      ⟨request, h.lifecycleTails request.sessionId, .queued, none, none, none, none⟩ := by
    refine (op_newOp h _ _ _ _).trans ?_
    rw [if_pos rfl]
  have hold : ∀ p, p ≠ h.ops.next → (h.withLifecycle request).op p = h.op p := by
    intro p hp
    refine (op_newOp h _ _ _ _).trans ?_
    rw [if_neg hp]
  have hne : ∀ p, h.Locks sessionId p → p ≠ h.ops.next := fun p hp => Nat.ne_of_lt hp.1
  have hlocks : ∀ p, (h.withLifecycle request).Locks sessionId p ↔
      h.Locks sessionId p ∨ p = h.ops.next ∧ request.sessionId = sessionId := by
    intro p
    have hlt : p < (h.withLifecycle request).ops.next ↔ p < h.ops.next ∨ p = h.ops.next :=
      Nat.lt_succ_iff_lt_or_eq
    unfold Host.Locks
    rw [hlt]
    by_cases e : p = h.ops.next
    · subst e
      rw [hnew]
      constructor
      · rintro ⟨-, -, hs⟩
        exact Or.inr ⟨rfl, hs⟩
      rintro (⟨hlt, -⟩ | ⟨-, hs⟩)
      · exact absurd hlt (Nat.lt_irrefl _)
      · exact ⟨Or.inr rfl, hl, hs⟩
    · rw [hold p e]
      constructor
      · rintro ⟨hlt | h', hs⟩
        · exact Or.inl ⟨hlt, hs⟩
        · exact absurd h' e
      · rintro (⟨hlt, hs⟩ | ⟨h', -⟩)
        · exact ⟨Or.inl hlt, hs⟩
        · exact absurd h' e
  have hbegun : ∀ p, h.Locks sessionId p → ((h.withLifecycle request).Begun p ↔ h.Begun p) := by
    intro p hp
    unfold Host.Begun
    rw [hold p (hne p hp)]
  have hended : ∀ p, h.Locks sessionId p → ((h.withLifecycle request).Ended p ↔ h.Ended p) := by
    intro p hp
    unfold Host.Ended Host.opDone
    rw [hold p (hne p hp)]
  have hafter : ∀ p, h.Locks sessionId p →
      ((h.withLifecycle request).op p).after = (h.op p).after :=
    fun p hp => by rw [hold p (hne p hp)]
  by_cases hs : sessionId = request.sessionId
  · subst hs
    refine (hi _).link (n := h.ops.next) (fun p => ?_) (fun p hp => hp.1) ?_ hafter ?_ ?_ ?_ hbegun
      hended
    · rw [hlocks]
      simp
    · simp only [hnew]
    · exact Function.update_self _ _ _
    · unfold Host.Begun
      rw [hnew]
      exact fun hb => hb rfl
    · unfold Host.Ended Host.opDone
      rw [hnew]
      exact Bool.false_ne_true
  · refine (hi sessionId).advance (fun p => ?_) hafter ?_ (fun p hp hb => Or.inl ?_)
      (fun p hp he => ?_) fun p hp he => ?_
    · rw [hlocks]
      simp [Ne.symm hs]
    · exact Function.update_of_ne hs _ _
    · exact (hbegun p hp).mp hb
    · exact (hended p hp).mpr he
    · exact (hbegun p hp).mpr ((hi sessionId).settled_started p hp ((hended p hp).mp he))

theorem LockInv.newOp (hi : LockInv h) {request : LifecycleRequest} {after : Option OpId}
    {pc : LifecyclePc} (hl : request.locks = false) : LockInv (h.newOp request after pc) := by
  intro sessionId
  have hold : ∀ p, p ≠ h.ops.next → (h.newOp request after pc).op p = h.op p := by
    intro p hp
    rw [op_newOp, if_neg hp]
  have hlocks : ∀ p, (h.newOp request after pc).Locks sessionId p ↔ h.Locks sessionId p := by
    intro p
    have hlt : p < (h.newOp request after pc).ops.next ↔ p < h.ops.next ∨ p = h.ops.next :=
      Nat.lt_succ_iff_lt_or_eq
    unfold Host.Locks
    rw [hlt]
    by_cases e : p = h.ops.next
    · subst e
      rw [op_newOp, if_pos rfl, hl]
      constructor
      · rintro ⟨-, hf, -⟩
        cases hf
      · rintro ⟨hlt, -⟩
        exact absurd hlt (Nat.lt_irrefl _)
    · rw [hold p e]
      simp [e]
  have hne : ∀ p, h.Locks sessionId p → p ≠ h.ops.next := fun p hp => Nat.ne_of_lt hp.1
  refine (hi sessionId).advance hlocks (fun p hp => ?_) rfl (fun p hp hb => Or.inl ?_)
    (fun p hp he => ?_) fun p hp he => ?_
  · simp only [hold p (hne p hp)]
  · unfold Host.Begun at hb ⊢
    rwa [hold p (hne p hp)] at hb
  · unfold Host.Ended Host.opDone at he ⊢
    rwa [hold p (hne p hp)]
  · unfold Host.Ended Host.opDone at he
    intro hq
    rw [hq] at he
    cases he

theorem LockInv.lifecycleStep {h h' : Host} (hi : LockInv h) {e : LifecycleEvent}
    (hs : LifecycleStep h e h') : LockInv h' := by
  cases hs with
  | idle => exact hi
  | link _ request hl => exact hi.withLifecycle hl
  | visit i now =>
    exact hi.of_same (frame_sweepCheck h i now).ops (frame_sweepCheck h i now).lifecycleTails
  | linkSweep i now =>
    exact (hi.of_same (frame_sweepCheck h i now).ops
      (frame_sweepCheck h i now).lifecycleTails).withLifecycle rfl
  | callReplace => exact hi.newOp rfl
  | start o ho hpc hready hm =>
    refine hi.makes ho (fun _ => hready) ?_ hm
    unfold Host.opDone
    rw [hpc]
  | resume o answer ho hq hd hm => exact hi.makes ho (fun e => absurd e hq) hd hm

/-! ## The whole host -/

theorem leaseStep_frame {h h' : Host} {e : LeaseEvent} (hs : leaseStep h e = some h') :
    ∃ residencyLeases leases,
      h' = { h with residencyLeases := residencyLeases, leases := leases } := by
  cases e with
  | acquire =>
    simp only [leaseStep] at hs
    split at hs
    · cases hs
      exact ⟨_, _, rfl⟩
    split at hs <;> cases hs
    · rename_i ha
      unfold Host.acquireResidencyLease at ha
      split at ha
      · cases ha
      split at ha
      · cases ha
      split at ha
      · cases ha
      · cases ha
        exact ⟨_, _, rfl⟩
    · exact ⟨_, _, rfl⟩
  | renew =>
    simp only [leaseStep] at hs
    split at hs <;> cases hs
    unfold Host.renewLease
    simp only
    split
    · exact ⟨_, _, rfl⟩
    split
    · exact ⟨_, _, rfl⟩
    split
    · exact ⟨_, _, rfl⟩
    · split <;> exact ⟨_, _, rfl⟩
  | release =>
    simp only [leaseStep] at hs
    split at hs <;> cases hs
    unfold Host.releaseLease
    simp only
    split
    · exact ⟨_, _, rfl⟩
    · split <;> exact ⟨_, _, rfl⟩

theorem LockInv.step {h h' : Host} (hi : LockInv h) {e : HostEvent} (hs : hostStep h e = some h') :
    LockInv h' := by
  cases e with
  | turn =>
    have hf := frame_step hs
    exact hi.of_same hf.ops hf.lifecycleTails
  | lifecycle => exact hi.lifecycleStep (lifecycleStep_cases hs)
  | lease =>
    obtain ⟨_, _, rfl⟩ := leaseStep_frame hs
    exact hi.of_same rfl rfl

/-- A host on which no lifecycle operation has been called yet. -/
structure Quiet (h : Host) : Prop where
  ops : h.ops.next = 0
  lifecycleTails : h.lifecycleTails = fun _ => none

theorem Quiet.lockInv (hq : Quiet h) : LockInv h := by
  intro sessionId
  rw [hq.lifecycleTails]
  refine Chained.nil fun o ho => ?_
  have := ho.1
  rw [hq.ops] at this
  exact Nat.not_lt_zero o this

end PiDaemon.Multiplexer
