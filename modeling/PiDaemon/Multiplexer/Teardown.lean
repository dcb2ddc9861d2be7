import PiDaemon.Multiplexer.LockInvariant
import PiDaemon.Multiplexer.TurnEffects

/-!
# Turn admission and teardown

`open`, `close` and `sweepIdleSessions` check that a slot has no pending turns, set
its state to `closing`, and then await the disposal of its adapter and further
writes before they remove the slot.  `wake` does not look at the state, so a wake
that arrives in between is run on the adapter that is being disposed.

* `TeardownInv`: a closing slot has no turns, as long as no wake is admitted to one;
* `no_prompt_after_dispose`: in a run without such admissions no prompt starts on
  an adapter whose disposal has begun;
* `prompt_after_dispose`: a wake during `close` starts one.
-/

namespace PiDaemon.Multiplexer

open Lib Heap OrderedMap

/-! ## The turns during lifecycle steps -/

variable {h : Host} {o : OpId} {i : SlotId} {x' : LifecycleOp}

theorem TurnInv.insertSlot (hi : TurnInv h)
    (hw : ∀ w < h.wakes.next, (h.wakeOf w).slot < h.slots.next) (slot : SessionSlot)
    (hp : slot.pendingTurns = 0) (ht : slot.turnTail = none) : TurnInv (h.insertSlot slot) := by
  have hnew : (h.insertSlot slot).slot h.slots.next = slot := cell_alloc_self h.slots slot
  have hold : ∀ i, i ≠ h.slots.next → (h.insertSlot slot).slot i = h.slot i := by
    intro i hi
    refine (cell_alloc h.slots i slot).trans ?_
    rw [if_neg hi]
    rfl
  have hnone : ∀ w < h.wakes.next, (h.wakeOf w).slot ≠ h.slots.next :=
    fun w hlt => Nat.ne_of_lt (hw w hlt)
  refine ⟨⟨fun i => ?_, fun i => ?_⟩, ⟨hi.metered.permits, hi.metered.active_le, hi.metered.limit,
    hi.metered.nodup, hi.metered.waiting, hi.metered.started⟩,
    ⟨fun i => ?_, hi.ordered.fifo, hi.ordered.staged, hi.ordered.prompted, hi.ordered.increasing⟩⟩
  · by_cases e : i = h.slots.next
    · subst e
      rw [hnew, hp]
      have : h.wakes.count (Wake.reserves h.slots.next) = 0 := by
        rw [count_eq_zero]
        intro w hlt
        have := hnone w hlt
        unfold Host.wakeOf at this
        simp [Wake.reserves, this]
      show (0 : Int) = (h.wakes.count (Wake.reserves h.slots.next) : Int)
      rw [this]
      rfl
    · rw [hold i e]
      exact hi.accounted.pending i
  · by_cases e : i = h.slots.next
    · subst e
      rw [hnew, hp]
      exact Int.le_trans (Int.natCast_nonneg _) (Int.le_add_of_nonneg_right (by decide))
    · rw [hold i e]
      exact hi.accounted.depth i
  · by_cases e : i = h.slots.next
    · subst e
      rw [hnew, ht]
      exact Chained.nil fun w hl => hnone w hl.1 hl.2.1
    · rw [hold i e]
      exact hi.ordered.chain i

/-! ## Slots -/

namespace Host

/-- The turns of the slot have all settled. -/
def Unused (h : Host) (i : SlotId) : Prop :=
  ∀ w < h.wakes.next, (h.wakeOf w).slot = i → 6 ≤ (h.wakeOf w).stage

/-- The wakes of the slot have settled or will be refused. -/
def Refusing (h : Host) (i : SlotId) : Prop :=
  ∀ w < h.wakes.next, (h.wakeOf w).slot = i → (h.wakeOf w).stage ≤ 1 ∨ 6 ≤ (h.wakeOf w).stage

/-- A sweep is about to remove the slot. -/
def Sweeps (h : Host) (o : OpId) (i : SlotId) : Prop :=
  o < h.ops.next ∧ (∃ sessionId now, (h.op o).request = .sweep sessionId i now) ∧
    (h.op o).pc.sweeping = true

end Host

theorem Accounted.unused (ha : Accounted h) (hp : (h.slot i).pendingTurns ≤ 0) : h.Unused i := by
  rw [ha.pending] at hp
  have hz : h.wakes.count (Wake.reserves i) = 0 := by omega
  rw [count_eq_zero] at hz
  intro w hw hs
  have := hz w hw
  unfold Host.wakeOf at hs ⊢
  simp only [Wake.reserves, hs, Bool.and_eq_false_iff, decide_eq_false_iff_not, not_true_eq_false,
    false_or] at this
  omega

structure TeardownInv (h : Host) : Prop where
  turns : TurnInv h
  locks : LockInv h
  resident : ∀ sessionId i, h.sessions.get? sessionId = some i → i < h.slots.next
  wakes : ∀ w < h.wakes.next, (h.wakeOf w).slot < h.slots.next
  /-- A sweep locks the session of the slot that it looks at. -/
  target : ∀ o < h.ops.next, ∀ sessionId i now, (h.op o).request = .sweep sessionId i now →
    i < h.slots.next ∧ (h.slot i).sessionId = sessionId
  sweeping : ∀ o i, h.Sweeps o i → (h.slot i).state = .closing
  closing : ∀ i, (h.slot i).state = .closing → h.Unused i
  disposing : ∀ i, (h.slot i).disposing = true →
    (h.slot i).state = .closing ∨ (h.slot i).state = .failed ∧ h.Refusing i
  prompts : ∀ p ∈ h.prompts, p.disposing = false

/-- No turn runs on an adapter whose disposal has begun. -/
theorem TeardownInv.not_turning (hi : TeardownInv h) (hd : (h.slot i).disposing = true) :
    ¬ h.Turning i := by
  rintro ⟨w, hw, hs, _⟩
  rcases hi.disposing i hd with hc | ⟨-, hr⟩
  · have := hi.closing i hc w hw hs
    omega
  · have := hr w hw hs
    omega

/-! ## Lifecycle steps -/

/-- An effect on the slots: the fields that the turns read are left alone, and the
slots that it closes are unused. -/
structure SlotStep (h g : Host) (o : OpId) (x' : LifecycleOp) : Prop where
  next : g.slots.next = h.slots.next
  sessions : ∀ sessionId i, g.sessions.get? sessionId = some i → h.sessions.get? sessionId = some i
  pending : ∀ i, (g.slot i).pendingTurns = (h.slot i).pendingTurns
  tail : ∀ i, (g.slot i).turnTail = (h.slot i).turnTail
  sessionId : ∀ i, (g.slot i).sessionId = (h.slot i).sessionId
  closing : ∀ i, (g.slot i).state = .closing → h.Unused i
  disposing : ∀ i, (g.slot i).disposing = true →
    (g.slot i).state = .closing ∨ (g.slot i).state = .failed ∧ h.Refusing i
  sweeping : ∀ p i, (g.putOp o x').Sweeps p i → (g.slot i).state = .closing

theorem SlotStep.sameTurns {h g : Host} {x x' : LifecycleOp} (hs : SlotStep h g o x')
    (he : Effect h x g x') : SameTurns h (g.putOp o x') :=
  ⟨he.frame.wakes, he.frame.turns, he.frame.limits, he.frame.prompts, hs.pending, hs.tail⟩

theorem TeardownInv.slotStep {h g : Host} (hi : TeardownInv h) (he : Effect h (h.op o) g x')
    (hs : SlotStep h g o x') (hl : LockInv (g.putOp o x')) : TeardownInv (g.putOp o x') := by
  have hwakes : (g.putOp o x').wakes = h.wakes := he.frame.wakes
  have hwake : ∀ w, (g.putOp o x').wakeOf w = h.wakeOf w := fun w => congrArg (·.cell w) hwakes
  have hunused : ∀ i, h.Unused i → (g.putOp o x').Unused i := by
    intro i hu w hw
    rw [hwakes] at hw
    rw [hwake]
    exact hu w hw
  have hrefusing : ∀ i, h.Refusing i → (g.putOp o x').Refusing i := by
    intro i hu w hw
    rw [hwakes] at hw
    rw [hwake]
    exact hu w hw
  refine ⟨hi.turns.of_same (hs.sameTurns he), hl, fun sessionId i hr => ?_, fun w hw => ?_,
    fun p hp sessionId i now hr => ?_, hs.sweeping, fun i hc => hunused i (hs.closing i hc),
    fun i hd => ?_, fun p hp => ?_⟩
  · show i < g.slots.next
    rw [hs.next]
    exact hi.resident sessionId i (hs.sessions sessionId i hr)
  · rw [hwakes] at hw
    rw [hwake]
    show _ < g.slots.next
    rw [hs.next]
    exact hi.wakes w hw
  · have hreq : (h.op p).request = .sweep sessionId i now := by
      rw [op_putOp] at hr
      split at hr
      · rename_i e
        rw [e, ← he.op.1]
        exact hr
      · unfold Host.op at hr ⊢
        rwa [he.frame.ops] at hr
    have hp' : p < h.ops.next := by
      rw [← he.frame.ops]
      exact hp
    obtain ⟨hlt, hsid⟩ := hi.target p hp' sessionId i now hreq
    exact ⟨hs.next ▸ hlt, (hs.sessionId i).trans hsid⟩
  · rcases hs.disposing i hd with hc | ⟨hf, hr⟩
    · exact Or.inl hc
    · exact Or.inr ⟨hf, hrefusing i hr⟩
  · exact hi.prompts p (he.frame.prompts ▸ hp)

/-- The sweeps after a step of `o` are sweeps before it, `o` apart. -/
theorem sweeps_putOp {h g : Host} {o p : OpId} (hops : g.ops = h.ops)
    (hsw : (g.putOp o x').Sweeps p i) :
    p ≠ o ∧ h.Sweeps p i ∨ p = o ∧ (∃ sessionId now, x'.request = .sweep sessionId i now) ∧
      x'.pc.sweeping = true := by
  obtain ⟨hlt, hr, hpc⟩ := hsw
  rw [op_putOp] at hr hpc
  by_cases e : p = o
  · rw [if_pos e] at hr hpc
    exact Or.inr ⟨e, hr, hpc⟩
  rw [if_neg e] at hr hpc
  refine Or.inl ⟨e, ?_, ?_, ?_⟩
  · rw [← hops]
    exact hlt
  · unfold Host.op at hr ⊢
    rwa [← hops]
  · unfold Host.op at hpc ⊢
    rwa [← hops]

theorem TeardownInv.keep {h g : Host} (hi : TeardownInv h) (ho : o < h.ops.next)
    (he : Effect h (h.op o) g x') (hl : LockInv (g.putOp o x')) (hslots : g.slots = h.slots)
    (hsess : ∀ sessionId i, g.sessions.get? sessionId = some i → h.sessions.get? sessionId = some i)
    (hsw : x'.pc.sweeping = true → (h.op o).pc.sweeping = true) : TeardownInv (g.putOp o x') := by
  have hslot : ∀ i, g.slot i = h.slot i := fun i => congrArg (·.cell i) hslots
  refine hi.slotStep he ⟨congrArg Heap.next hslots, hsess, ?_, ?_, ?_, ?_, ?_, ?_⟩ hl
  · intro i
    rw [hslot]
  · intro i
    rw [hslot]
  · intro i
    rw [hslot]
  · intro i hc
    rw [hslot] at hc
    exact hi.closing i hc
  · intro i hd
    rw [hslot] at hd ⊢
    exact hi.disposing i hd
  · intro p i hsp
    rw [hslot]
    rcases sweeps_putOp he.frame.ops hsp with ⟨-, h'⟩ | ⟨-, ⟨sessionId, now, hr⟩, hpc⟩
    · exact hi.sweeping p i h'
    · rw [he.op.1] at hr
      exact hi.sweeping o i ⟨ho, ⟨sessionId, now, hr⟩, hsw hpc⟩

theorem TeardownInv.setSlot {h g : Host} {f : SessionSlot → SessionSlot} (hi : TeardownInv h)
    (he : Effect h (h.op o) g x') (hl : LockInv (g.putOp o x'))
    (hslots : g.slots = h.slots.modify i f) (hsess : g.sessions = h.sessions)
    (hp : ∀ s, (f s).pendingTurns = s.pendingTurns) (ht : ∀ s, (f s).turnTail = s.turnTail)
    (hid : ∀ s, (f s).sessionId = s.sessionId) (hc : (f (h.slot i)).state = .closing → h.Unused i)
    (hd : (f (h.slot i)).disposing = true → (f (h.slot i)).state = .closing ∨
      (f (h.slot i)).state = .failed ∧ h.Refusing i)
    (hother : (f (h.slot i)).state = .closing ∨ ∀ p, p ≠ o → ¬ h.Sweeps p i)
    (hsw : x'.pc.sweeping = true → (∃ sessionId now, (h.op o).request = .sweep sessionId i now) ∧
      (f (h.slot i)).state = .closing) : TeardownInv (g.putOp o x') := by
  have hslot : ∀ j, g.slot j = (h.setSlot i f).slot j := fun j => congrArg (·.cell j) hslots
  have hread : ∀ j, g.slot j = if j = i then f (h.slot i) else h.slot j := fun j =>
    (hslot j).trans (h.slot_setSlot_apply i j f)
  refine hi.slotStep he ⟨?_, ?_, ?_, ?_, ?_, ?_, ?_, ?_⟩ hl
  · rw [hslots, next_modify]
  · intro sessionId j hj
    rwa [hsess] at hj
  · intro j
    rw [hslot]
    exact Host.slot_setSlot (·.pendingTurns) h i hp j
  · intro j
    rw [hslot]
    exact Host.slot_setSlot (·.turnTail) h i ht j
  · intro j
    rw [hslot]
    exact Host.slot_setSlot (·.sessionId) h i hid j
  · intro j hj
    rw [hread] at hj
    split at hj
    · rename_i e
      exact e ▸ hc hj
    · exact hi.closing j hj
  · intro j hj
    rw [hread] at hj ⊢
    split at hj
    · rename_i e
      rw [if_pos e, e]
      exact hd hj
    · rename_i e
      rw [if_neg e]
      exact hi.disposing j hj
  · intro p j hsp
    rw [hread]
    rcases sweeps_putOp he.frame.ops hsp with ⟨hpo, h'⟩ | ⟨-, ⟨sessionId, now, hr⟩, hpc⟩
    · split
      · rename_i e
        rcases hother with hst | hno
        · exact hst
        · exact absurd (e ▸ h') (hno p hpo)
      · exact hi.sweeping p j h'
    · obtain ⟨⟨_, _, hr'⟩, hst⟩ := hsw hpc
      rw [he.op.1, hr'] at hr
      cases hr
      rw [if_pos rfl]
      exact hst

theorem TeardownInv.openSlot {command : OpenCommand} (hi : TeardownInv h)
    (he : Effect h (h.op o) (h.openSlot command (h.op o)) x')
    (hl : LockInv ((h.openSlot command (h.op o)).putOp o x')) (hsw : x'.pc.sweeping = false) :
    TeardownInv ((h.openSlot command (h.op o)).putOp o x') := by
  generalize hg : h.openSlot command (h.op o) = g at he hl ⊢
  have hnext : g.slots.next = h.slots.next + 1 := by
    rw [← hg]
    rfl
  have hnew : (g.slot h.slots.next).state = .idle ∧ (g.slot h.slots.next).disposing = false := by
    rw [← hg]
    have : (h.openSlot command (h.op o)).slot h.slots.next = SessionSlot.opened command.sessionId
        command.generation command.policyKey (h.op o).sessionFile.isSome h.clock :=
      cell_alloc_self h.slots _
    rw [this]
    exact ⟨rfl, rfl⟩
  have hold : ∀ i, i ≠ h.slots.next → g.slot i = h.slot i := by
    intro i hne
    rw [← hg]
    refine (cell_alloc h.slots i _).trans ?_
    rw [if_neg hne]
    rfl
  have hwakes : g.wakes = h.wakes := he.frame.wakes
  have hturns : TurnInv g := by
    have hins := hi.turns.insertSlot hi.wakes (SessionSlot.opened command.sessionId
      command.generation command.policyKey (h.op o).sessionFile.isSome h.clock) rfl rfl
    rw [← hg]
    exact hins.of_same ⟨rfl, rfl, rfl, rfl, fun _ => rfl, fun _ => rfl⟩
  refine ⟨hturns.of_same ⟨rfl, rfl, rfl, rfl, fun _ => rfl, fun _ => rfl⟩, hl,
    fun sessionId i hr => ?_, fun w hw => ?_, fun p hp sessionId i now hr => ?_, fun p i hsp => ?_,
    fun i hc w hw hs => ?_, fun i hd => ?_, fun p hp => ?_⟩
  · show i < g.slots.next
    have hr' : (h.sessions.set command.sessionId h.slots.next).get? sessionId = some i := by
      rw [← hg] at hr
      exact hr
    rw [get?_set] at hr'
    rw [hnext]
    split at hr'
    · cases hr'
      exact Nat.lt_succ_self _
    · exact Nat.lt_succ_of_lt (hi.resident sessionId i hr')
  · have : (g.putOp o x').wakeOf w = h.wakeOf w := congrArg (·.cell w) hwakes
    rw [this]
    show _ < g.slots.next
    rw [hnext]
    exact Nat.lt_succ_of_lt (hi.wakes w (hwakes ▸ hw))
  · have hreq : (h.op p).request = .sweep sessionId i now := by
      rw [op_putOp] at hr
      split at hr
      · rename_i e
        rw [e, ← he.op.1]
        exact hr
      · unfold Host.op at hr ⊢
        rwa [he.frame.ops] at hr
    have hp' : p < h.ops.next := by
      rw [← he.frame.ops]
      exact hp
    obtain ⟨hlt, hsid⟩ := hi.target p hp' sessionId i now hreq
    refine ⟨hnext ▸ Nat.lt_succ_of_lt hlt, ?_⟩
    show (g.slot i).sessionId = sessionId
    rw [hold i (Nat.ne_of_lt hlt)]
    exact hsid
  · show (g.slot i).state = .closing
    rcases sweeps_putOp he.frame.ops hsp with ⟨-, h'⟩ | ⟨-, -, hpc⟩
    · obtain ⟨hlt, ⟨sessionId, now, hr⟩, -⟩ := id h'
      rw [hold i (Nat.ne_of_lt (hi.target p hlt sessionId i now hr).1)]
      exact hi.sweeping p i h'
    · rw [hsw] at hpc
      cases hpc
  · have hc' : (g.slot i).state = .closing := hc
    have hwk : (g.putOp o x').wakeOf w = h.wakeOf w := congrArg (·.cell w) hwakes
    rw [hwk] at hs ⊢
    by_cases e : i = h.slots.next
    · rw [e, hnew.1] at hc'
      cases hc'
    · rw [hold i e] at hc'
      exact hi.closing i hc' w (hwakes ▸ hw) hs
  · have hd' : (g.slot i).disposing = true := hd
    by_cases e : i = h.slots.next
    · rw [e, hnew.2] at hd'
      cases hd'
    show (g.slot i).state = .closing ∨ (g.slot i).state = .failed ∧ _
    rw [hold i e] at hd' ⊢
    rcases hi.disposing i hd' with hc | ⟨hf, hr⟩
    · exact Or.inl hc
    refine Or.inr ⟨hf, fun w hw hs => ?_⟩
    have hwk : (g.putOp o x').wakeOf w = h.wakeOf w := congrArg (·.cell w) hwakes
    rw [hwk] at hs ⊢
    exact hr w (hwakes ▸ hw) hs
  · exact hi.prompts p (he.frame.prompts ▸ hp)

theorem TeardownInv.disposeSlot (hi : TeardownInv h) (he : Effect h (h.op o) (h.disposeSlot i) x')
    (hl : LockInv ((h.disposeSlot i).putOp o x')) (hp : (h.slot i).pendingTurns ≤ 0)
    (hsw : x'.pc.sweeping = false) : TeardownInv ((h.disposeSlot i).putOp o x') := by
  refine hi.setSlot (f := fun s => { s with state := .closing, disposing := true }) he hl rfl rfl
    (fun _ => rfl) (fun _ => rfl) (fun _ => rfl) (fun _ => hi.turns.accounted.unused hp)
    (fun _ => Or.inl rfl) (Or.inl rfl) fun h => ?_
  rw [hsw] at h
  cases h

theorem Host.Sweeps.active (hs : h.Sweeps o i) : h.Active o := by
  obtain ⟨hlt, -, hpc⟩ := hs
  refine ⟨hlt, fun hq => ?_, fun he => ?_⟩
  · rw [hq] at hpc
    cases hpc
  unfold Host.Ended Host.opDone at he
  split at he
  · rename_i hd
    rw [hd] at hpc
    cases hpc
  · cases he

/-- Only one sweep is about to remove a slot. -/
theorem TeardownInv.sweeps_unique (hi : TeardownInv h) {o p : OpId} (ho : h.Sweeps o i)
    (hp : h.Sweeps p i) : o = p := by
  obtain ⟨ho1, ⟨s, t, hor⟩, -⟩ := id ho
  obtain ⟨hp1, ⟨s', t', hpr⟩, -⟩ := id hp
  apply hi.locks.unique ho.active hp.active
  · rw [hor]
    rfl
  · rw [hpr]
    rfl
  · rw [hor, hpr]
    exact (hi.target o ho1 s i t hor).2.symm.trans (hi.target p hp1 s' i t' hpr).2

theorem TeardownInv.makes {h h' : Host} (hi : TeardownInv h) (ho : o < h.ops.next) (hl : LockInv h')
    (hm : Makes h o h') : TeardownInv h' := by
  obtain ⟨_, _, he, -, rfl⟩ := hm
  have hsame : ∀ sessionId i, h.sessions.get? sessionId = some i →
      h.sessions.get? sessionId = some i := fun _ _ hr => hr
  have hremove : ∀ sid sessionId i, (h.sessions.delete sid).get? sessionId = some i →
      h.sessions.get? sessionId = some i := fun _ _ _ hr => (get?_of_delete hr).2
  have hno : ∀ {pc : LifecyclePc}, pc.sweeping = false → pc.sweeping = true →
      (h.op o).pc.sweeping = true := by
    intro pc hf ht
    rw [hf] at ht
    cases ht
  cases id he with
  | go hg => exact hi.keep ho he hl rfl hsame hg.sweeping
  | finish _ _ hpc => exact hi.keep ho he hl rfl hsame (hno (by rw [hpc]; rfl))
  | @reuse command i =>
    refine hi.setSlot (f := fun s => { s with lastUsedAt := h.clock }) he hl rfl rfl (fun _ => rfl)
      (fun _ => rfl) (fun _ => rfl) (hi.closing i) (hi.disposing i) ?_ (fun h => by cases h)
    cases hst : (h.slot i).state with
    | closing => exact Or.inl rfl
    | _ =>
      refine Or.inr fun p _ hp => ?_
      have := hi.sweeping p i hp
      rw [hst] at this
      cases this
  | @replace command i hr hpc hdec =>
    exact hi.disposeSlot he hl (checkResident_replace (openDecision_eq_ok hdec).2.2.2).2.2.1 rfl
  | @create command =>
    obtain ⟨h1, h2⟩ := slots_retainToolAdapter h command
    exact hi.keep ho he hl h1 (fun _ _ hres => h2 ▸ hres) (hno (firstAwait_not_sweeping command))
  | @replaced command =>
    obtain ⟨h1, h2⟩ := slots_retainToolAdapter (h.removeSession command.sessionId) command
    refine hi.keep ho he hl h1 (fun sessionId i hres => ?_) (hno (firstAwait_not_sweeping command))
    rw [h2] at hres
    exact hremove _ _ _ hres
  | opened => exact hi.openSlot he hl rfl
  | @dispose sessionId generation retainArtifacts i existing retained hr hpc hex hgen hp =>
    exact hi.disposeSlot he hl hp rfl
  | closed | deleted | evict | evictDormant => exact hi.keep ho he hl rfl (hremove _) (hno rfl)
  | @sweepPass sessionId i now hr hpc hres =>
    obtain ⟨h1, h2⟩ := slots_sweepCheck h i now
    exact hi.keep ho he hl h1 (fun _ _ hres => h2 ▸ hres) (hno rfl)
  | @sweepClose sessionId i now hr hpc hres hcheck =>
    obtain ⟨h1, h2⟩ := slots_sweepCheck h i now
    have hp := (sweepCheck_false hcheck).2.1
    refine hi.setSlot (i := i) (f := fun s => { s with state := .closing }) he hl ?_ h2
      (fun _ => rfl) (fun _ => rfl) (fun _ => rfl) (fun _ => hi.turns.accounted.unused hp)
      (fun _ => Or.inl rfl) (Or.inl rfl) fun _ => ⟨⟨_, _, hr⟩, rfl⟩
    unfold Host.setSlot
    simp only [h1]
  | @sweepDispose sessionId i now hr hpc =>
    have hsw : h.Sweeps o i := ⟨ho, ⟨_, _, hr⟩, by rw [hpc]; rfl⟩
    have hst := hi.sweeping o i hsw
    exact hi.setSlot (f := fun s => { s with disposing := true }) he hl rfl rfl (fun _ => rfl)
      (fun _ => rfl) (fun _ => rfl) (hi.closing i) (fun _ => Or.inl hst) (Or.inl hst)
      fun _ => ⟨⟨_, _, hr⟩, hst⟩
  | @sweepFailed sessionId i now code hr hpc =>
    have hsw : h.Sweeps o i := ⟨ho, ⟨_, _, hr⟩, by rcases hpc with e | e <;> rw [e] <;> rfl⟩
    have hu := hi.closing i (hi.sweeping o i hsw)
    exact hi.setSlot (f := fun s => { s with state := .failed, lastErrorCode := some code }) he hl
      rfl rfl (fun _ => rfl) (fun _ => rfl) (fun _ => rfl) (fun h => by cases h)
      (fun _ => Or.inr ⟨rfl, fun w hw hs => Or.inr (hu w hw hs)⟩)
      (Or.inr fun p hpo hp => hpo (hi.sweeps_unique hp hsw)) fun h => by cases h
  | @controller =>
    refine hi.keep ho he hl rfl hsame (hno ?_)
    split <;> rfl
  | @beginCloseCached _ _ _ _ pc hr hpc hpcs =>
    refine hi.keep ho he hl rfl hsame (hno ?_)
    rcases hpcs with e | ⟨e, -⟩ <;> rw [e] <;> rfl
  | _ => exact hi.keep ho he hl rfl hsame (hno rfl)

/-! ## Runs -/

theorem TeardownInv.of_turn {h h' : Host} {e : TurnEvent} (hi : TeardownInv h)
    (hs : turnStep h e = some h') (hl : LockInv h')
    (hok : ∀ command i, e = .wake command →
      h.requireSession command.sessionId command.generation = .ok i → (h.slot i).state ≠ .closing) :
    TeardownInv h' := by
  have hf := frame_step hs
  have hid : ∀ i, (h'.slot i).sessionId = (h.slot i).sessionId ∧
      (h'.slot i).disposing = (h.slot i).disposing := fun i =>
    ⟨congrArg (·.1) (hf.identity i), congrArg (·.2.2.2.2) (hf.identity i)⟩
  have hop : ∀ o, h'.op o = h.op o := fun o => congrArg (·.cell o) hf.ops
  have hsweeps : ∀ o i, h'.Sweeps o i → h.Sweeps o i := by
    intro o i hsw
    unfold Host.Sweeps at hsw
    rw [hf.ops, hop] at hsw
    exact hsw
  have htarget : ∀ o < h'.ops.next, ∀ sessionId i now,
      (h'.op o).request = .sweep sessionId i now →
      i < h'.slots.next ∧ (h'.slot i).sessionId = sessionId := by
    intro o ho sessionId i now hr
    rw [hop] at hr
    rw [hf.ops] at ho
    obtain ⟨h1, h2⟩ := hi.target o ho sessionId i now hr
    exact ⟨hf.slots ▸ h1, (hid i).1.trans h2⟩
  have hresident : ∀ sessionId i, h'.sessions.get? sessionId = some i → i < h'.slots.next := by
    intro sessionId i hr
    rw [hf.sessions] at hr
    exact hf.slots ▸ hi.resident sessionId i hr
  rcases turnStep_effect hi.turns hs with he | ⟨command, i, hev, hreq, -, rfl⟩
  · have hwake : ∀ w < h.wakes.next, Wake.Steps h.Failed (h.wakeOf w) (h'.wakeOf w) := he.wakes
    have hstate : ∀ i, ¬ h.Turning i → (h'.slot i).state = (h.slot i).state := by
      intro i hn
      rcases he.state i with h1 | ⟨h1, -⟩
      · exact h1
      · exact absurd h1 hn
    have hclosing : ∀ i, (h.slot i).state = .closing → ¬ h.Turning i := by
      rintro i hc ⟨w, hw, hsl, h2, _⟩
      have := hi.closing i hc w hw hsl
      omega
    refine ⟨hi.turns.step hs, hl, hresident, fun w hw => ?_, htarget, fun o i hsw => ?_,
      fun i hc w hw hsl => ?_, fun i hd => ?_, fun p hp => ?_⟩
    · rw [he.next] at hw
      rw [(hwake w hw).slot]
      exact hf.slots ▸ hi.wakes w hw
    · have hc := hi.sweeping o i (hsweeps o i hsw)
      rw [hstate i (hclosing i hc)]
      exact hc
    · rw [he.next] at hw
      rw [(hwake w hw).slot] at hsl
      have hc' : (h.slot i).state = .closing := by
        rcases he.state i with h1 | ⟨-, h1⟩
        · exact h1 ▸ hc
        · exact absurd hc h1
      exact Nat.le_trans (hi.closing i hc' w hw hsl) (hwake w hw).stage
    · rw [(hid i).2] at hd
      rw [hstate i (hi.not_turning hd)]
      rcases hi.disposing i hd with hc | ⟨hfl, hr⟩
      · exact Or.inl hc
      refine Or.inr ⟨hfl, fun w hw hsl => ?_⟩
      rw [he.next] at hw
      have hst := hwake w hw
      rw [hst.slot] at hsl
      rcases hr w hw hsl with h1 | h6
      · exact hst.refused h1 (hsl ▸ hfl)
      · exact Or.inr (Nat.le_trans h6 hst.stage)
    · rcases he.prompts p hp with hp | ⟨hd, ht⟩
      · exact hi.prompts p hp
      cases hdis : p.disposing with
      | false => rfl
      | true => exact absurd ht (hi.not_turning (hd ▸ hdis))
  · -- the admitted wake is at its first await
    have hres : h.sessions.get? command.sessionId = some i := by
      unfold Host.requireSession at hreq
      split at hreq
      · cases hreq
      rename_i j hj
      split at hreq <;> cases hreq
      exact hj
    have hcl := hok command i hev hreq
    have hstate : ∀ j, ((h.admitWake i command).slot j).state = (h.slot j).state :=
      Host.slot_setSlot (f := SessionSlot.reserve command h.wakes.next) (·.state) h i fun _ => rfl
    have hwake : ∀ w < (h.admitWake i command).wakes.next,
        w < h.wakes.next ∧ (h.admitWake i command).wakeOf w = h.wakeOf w ∨
          (h.admitWake i command).wakeOf w = Wake.admitted i command := by
      intro w hw
      rcases Nat.lt_succ_iff_lt_or_eq.mp hw with hw | rfl
      · exact Or.inl ⟨hw, cell_alloc_lt h.wakes hw _⟩
      · exact Or.inr (cell_alloc_self h.wakes _)
    refine ⟨hi.turns.step hs, hl, hresident, fun w hw => ?_, htarget, fun o j hsw => ?_,
      fun j hc w hw hsl => ?_, fun j hd => ?_, hi.prompts⟩
    · rcases hwake w hw with ⟨hw, e⟩ | e
      · rw [e]
        exact hi.wakes w hw
      · rw [e]
        exact hi.resident _ i hres
    · rw [hstate]
      exact hi.sweeping o j (hsweeps o j hsw)
    · rw [hstate] at hc
      rcases hwake w hw with ⟨hw, e⟩ | e
      · rw [e] at hsl ⊢
        exact hi.closing j hc w hw hsl
      rw [e] at hsl
      have hij : i = j := hsl
      exact absurd (hij ▸ hc) hcl
    · rw [(hid j).2] at hd
      rw [hstate]
      rcases hi.disposing j hd with hc | ⟨hfl, hr⟩
      · exact Or.inl hc
      refine Or.inr ⟨hfl, fun w hw hsl => ?_⟩
      rcases hwake w hw with ⟨hw, e⟩ | e
      · rw [e] at hsl ⊢
        exact hr w hw hsl
      · rw [e]
        exact Or.inl (Nat.zero_le 1)

theorem sameTurns_sweepCheck (h : Host) (i : SlotId) (now : Nat) :
    SameTurns h (h.sweepCheck i now).1 := by
  have hf := frame_sweepCheck h i now
  have hs : ∀ j, (h.sweepCheck i now).1.slot j = h.slot j :=
    fun j => congrArg (·.cell j) (slots_sweepCheck h i now).1
  exact ⟨hf.wakes, hf.turns, hf.limits, hf.prompts, fun j => by rw [hs], fun j => by rw [hs]⟩

theorem TeardownInv.of_link {h h' : Host} (hi : TeardownInv h) (hl : LockInv h')
    (ht : SameTurns h h') (hslots : h'.slots = h.slots) (hsess : h'.sessions = h.sessions)
    (hops : ∀ o < h'.ops.next, o < h.ops.next ∧ h'.op o = h.op o ∨
      (h'.op o).pc.sweeping = false ∧ ∀ sessionId i now,
        (h'.op o).request = .sweep sessionId i now →
        i < h.slots.next ∧ (h.slot i).sessionId = sessionId) : TeardownInv h' := by
  have hslot : ∀ i, h'.slot i = h.slot i := fun i => congrArg (·.cell i) hslots
  refine ⟨hi.turns.of_same ht, hl, fun sessionId i hr => ?_, fun w hw => ?_,
    fun o ho sessionId i now hr => ?_, fun o i hsw => ?_, fun i hc w hw hsl => ?_, fun i hd => ?_,
    fun p hp => ?_⟩
  · rw [hsess] at hr
    rw [hslots]
    exact hi.resident sessionId i hr
  · rw [ht.wakes] at hw
    rw [ht.wakeOf, hslots]
    exact hi.wakes w hw
  · rw [hslots, hslot]
    rcases hops o ho with ⟨hlt, e⟩ | ⟨-, hnew⟩
    · rw [e] at hr
      exact hi.target o hlt sessionId i now hr
    · exact hnew sessionId i now hr
  · rw [hslot]
    rcases hops o hsw.1 with ⟨hlt, e⟩ | ⟨hpc, -⟩
    · refine hi.sweeping o i ⟨hlt, ?_, ?_⟩
      · rw [← e]
        exact hsw.2.1
      · rw [← e]
        exact hsw.2.2
    · rw [hsw.2.2] at hpc
      cases hpc
  · rw [hslot] at hc
    rw [ht.wakes] at hw
    rw [ht.wakeOf] at hsl ⊢
    exact hi.closing i hc w hw hsl
  · rw [hslot] at hd ⊢
    rcases hi.disposing i hd with hc | ⟨hf, hr⟩
    · exact Or.inl hc
    refine Or.inr ⟨hf, fun w hw hsl => ?_⟩
    rw [ht.wakes] at hw
    rw [ht.wakeOf] at hsl ⊢
    exact hr w hw hsl
  · rw [ht.prompts] at hp
    exact hi.prompts p hp

theorem TeardownInv.of_lifecycle {h h' : Host} {e : LifecycleEvent} (hi : TeardownInv h)
    (hs : LifecycleStep h e h') (hl : LockInv h') : TeardownInv h' := by
  cases hs with
  | idle => exact hi
  | link _ request _ hnot =>
    refine hi.of_link hl ⟨rfl, rfl, rfl, rfl, fun _ => rfl, fun _ => rfl⟩ rfl rfl fun o ho => ?_
    rcases ops_withLifecycle h request o ho with hold | ⟨hpc, hr⟩
    · exact Or.inl hold
    refine Or.inr ⟨by rw [hpc]; rfl, fun sessionId i now he => ?_⟩
    rw [hr] at he
    exact absurd he (hnot sessionId i now)
  | visit i now =>
    obtain ⟨h1, h2⟩ := slots_sweepCheck h i now
    refine hi.of_link hl (sameTurns_sweepCheck h i now) h1 h2 fun o ho => Or.inl ⟨?_, ?_⟩
    · rwa [(frame_sweepCheck h i now).ops] at ho
    · exact congrArg (·.cell o) (frame_sweepCheck h i now).ops
  | linkSweep i now hlt =>
    obtain ⟨h1, h2⟩ := slots_sweepCheck h i now
    have hops := (frame_sweepCheck h i now).ops
    refine hi.of_link hl ((sameTurns_sweepCheck h i now).trans
      ⟨rfl, rfl, rfl, rfl, fun _ => rfl, fun _ => rfl⟩) h1 h2 fun o ho => ?_
    rcases ops_withLifecycle _ _ o ho with ⟨hold, e⟩ | ⟨hpc, hr⟩
    · rw [hops] at hold
      exact Or.inl ⟨hold, e.trans (congrArg (·.cell o) hops)⟩
    refine Or.inr ⟨by rw [hpc]; rfl, fun sessionId j t he => ?_⟩
    rw [hr] at he
    cases he
    exact ⟨hlt, rfl⟩
  | callReplace =>
    refine hi.of_link hl ⟨rfl, rfl, rfl, rfl, fun _ => rfl, fun _ => rfl⟩ rfl rfl fun o ho => ?_
    rw [op_newOp]
    rcases Nat.lt_succ_iff_lt_or_eq.mp ho with hlt | rfl
    · rw [if_neg (Nat.ne_of_lt hlt)]
      exact Or.inl ⟨hlt, rfl⟩
    · rw [if_pos rfl]
      exact Or.inr ⟨rfl, fun _ _ _ he => by cases he⟩
  | start o ho _ _ hm | resume o _ ho _ _ hm => exact hi.makes ho hl hm

/-- A wake call finds the slot of its session closing. -/
def WakesClosing (h : Host) (e : HostEvent) : Prop :=
  ∃ command i, e = .turn (.wake command) ∧
    h.requireSession command.sessionId command.generation = .ok i ∧ (h.slot i).state = .closing

theorem TeardownInv.step {h h' : Host} {e : HostEvent} (hi : TeardownInv h)
    (hok : ¬ WakesClosing h e) (hs : hostStep h e = some h') : TeardownInv h' := by
  have hl := hi.locks.step hs
  cases e with
  | turn =>
    refine hi.of_turn hs hl fun command i he hr hc => hok ⟨command, i, by rw [he], hr, hc⟩
  | lifecycle => exact hi.of_lifecycle (lifecycleStep_cases hs) hl
  | lease =>
    obtain ⟨_, _, rfl⟩ := leaseStep_frame hs
    exact hi.of_link hl ⟨rfl, rfl, rfl, rfl, fun _ => rfl, fun _ => rfl⟩ rfl rfl
      fun o ho => Or.inl ⟨ho, rfl⟩

/-- A host that has opened its resident sessions and taken no step since. -/
structure Fresh (h : Host) : Prop extends Idle h, Quiet h where
  resident : ∀ sessionId i, h.sessions.get? sessionId = some i → i < h.slots.next
  live : ∀ i, (h.slot i).disposing = false

theorem Fresh.teardownInv (hf : Fresh h) : TeardownInv h := by
  have hno : ∀ w, ¬ w < h.wakes.next := fun w => by
    rw [hf.wakes]
    exact Nat.not_lt_zero w
  have hnop : ∀ o, ¬ o < h.ops.next := fun o => by
    rw [hf.ops]
    exact Nat.not_lt_zero o
  refine ⟨hf.toIdle.turnInv, hf.toQuiet.lockInv, hf.resident, fun w hw => absurd hw (hno w),
    fun o ho => absurd ho (hnop o), fun o i hs => absurd hs.1 (hnop o),
    fun i _ w hw => absurd hw (hno w), fun i hd => ?_, fun p hp => ?_⟩
  · rw [hf.live] at hd
    cases hd
  · rw [hf.prompts] at hp
    cases hp

/-- **Turn admission versus teardown.**  In a run in which no wake call finds its
slot closing, no prompt starts on an adapter whose disposal has begun, and a
closing slot has no turn. -/
theorem no_prompt_after_dispose {h h' : Host} {es : List HostEvent} (hf : Fresh h)
    (hok : Meets hostStep (fun h e => ¬ WakesClosing h e) h es) (hr : run hostStep h es = some h') :
    (∀ p ∈ h'.prompts, p.disposing = false) ∧
      ∀ i, (h'.slot i).state = .closing → h'.Unused i := by
  have hi : TeardownInv h' :=
    run_invariant_of_meets (fun _ _ _ hi hok hs => TeardownInv.step hi hok hs) hf.teardownInv hok hr
  exact ⟨hi.prompts, hi.closing⟩

/-- A host with one resident session. -/
def Host.one (sessionId : SessionId) : Host :=
  (Host.new DEFAULT_MULTIPLEXER_LIMITS false false 0 0).insertSlot
    (SessionSlot.opened sessionId 1 [] false 0)

theorem Host.one_resident {sessionId id : SessionId}
    (hr : (Host.one sessionId).sessions.get? id = some i) : i = 0 := by
  have hr : (if sessionId = id then some 0 else none) = some i :=
    (get?_set .empty sessionId id 0).symm.trans hr
  split at hr <;> cases hr
  rfl

theorem Host.one_fresh (sessionId : SessionId) : Fresh (Host.one sessionId) := by
  have hslot : ∀ i, (Host.one sessionId).slot i =
      if i = 0 then SessionSlot.opened sessionId 1 [] false 0 else default :=
    fun i => cell_alloc _ i _
  refine ⟨⟨rfl, fun i => ?_, fun i => ?_, rfl, rfl⟩, ⟨rfl, rfl⟩, fun id i hr => ?_, fun i => ?_⟩
  · rw [hslot]
    split <;> rfl
  · rw [hslot]
    split <;> rfl
  · rw [Host.one_resident hr]
    exact Nat.zero_lt_one
  · rw [hslot]
    split <;> rfl

/-- A wake runs to its end, and the session is closed. -/
theorem no_prompt_after_dispose_then_close :
    let es : List HostEvent :=
      [.turn (.wake ⟨[1], [115], 1, [1], [1]⟩)] ++
        List.replicate 8 (.turn (.resume 0 .ok)) ++
        [.lifecycle (.close [115] 1 true), .lifecycle (.start 0), .lifecycle (.resume 0 .ok),
          .lifecycle (.resume 0 .ok)]
    ∃ h', run hostStep (Host.one [115]) es = some h' ∧
      h'.prompts.map (·.wake) = [0] ∧ (h'.slot 0).state = .closing ∧
      ∀ p ∈ h'.prompts, p.disposing = false := by
  intro es
  have hrun : (run hostStep (Host.one [115]) es).map
      (fun h => (h.prompts.map (·.wake), (h.slot 0).state)) = some ([0], .closing) := by
    decide +kernel
  obtain ⟨h', hr, hp⟩ := Option.map_eq_some_iff.mp hrun
  have hmeets : Meets hostStep (fun h e => ¬ WakesClosing h e) (Host.one [115]) es := by
    refine ⟨?_, fun s _ => meets_of_forall ?_⟩
    · rintro ⟨command, i, -, hreq, hc⟩
      have h0 : i = 0 := by
        unfold Host.requireSession at hreq
        split at hreq
        · cases hreq
        rename_i j hj
        split at hreq <;> cases hreq
        exact Host.one_resident hj
      rw [h0] at hc
      cases hc
    · intro e he t
      rintro ⟨command, i, rfl, -⟩
      simp at he
  exact ⟨h', hr, congrArg (·.1) hp, congrArg (·.2) hp,
    (no_prompt_after_dispose (Host.one_fresh [115]) hmeets hr).1⟩

/-- A wake that arrives while `close` disposes the adapter is run on it. -/
theorem prompt_after_dispose :
    ∃ (h : Host) (es : List HostEvent) (h' : Host), Fresh h ∧ run hostStep h es = some h' ∧
      ∃ p ∈ h'.prompts, p.disposing = true := by
  refine ⟨Host.one [115], [.lifecycle (.close [115] 1 true), .lifecycle (.start 0),
    .lifecycle (.resume 0 .ok), .lifecycle (.resume 0 .ok),
    .turn (.wake ⟨[1], [115], 1, [1], [1]⟩)] ++ List.replicate 4 (.turn (.resume 0 .ok)), ?_⟩
  simp only [exists_and_left]
  exact ⟨Host.one_fresh [115], by decide +kernel⟩

end PiDaemon.Multiplexer
