import PiDaemon.Multiplexer.TurnRuns

/-!
# What a turn step does to slots

The lifecycle needs less than `TurnInv`: a turn step sets the state of a slot only
for a turn that is running, starts a prompt only for such a turn, and links no
turn of a failed slot.

* `turnStep_effect`: a turn step admits one wake or has such an effect.
-/

namespace PiDaemon.Multiplexer

open Lib

/-- A wake before and after a step, where `failed` are the failed slots before it. -/
structure Wake.Steps (failed : SlotId → Prop) (x y : Wake) : Prop where
  slot : y.slot = x.slot
  stage : x.stage ≤ y.stage
  refused : x.stage ≤ 1 → failed x.slot → y.stage ≤ 1 ∨ 6 ≤ y.stage

namespace Host

def Failed (h : Host) (i : SlotId) : Prop := (h.slot i).state = .failed

/-- A turn of the slot `i` is between its link and its end. -/
def Turning (h : Host) (i : SlotId) : Prop :=
  ∃ w < h.wakes.next, (h.wakeOf w).slot = i ∧ 2 ≤ (h.wakeOf w).stage ∧ (h.wakeOf w).stage ≤ 4

end Host

structure TurnEffect (h h' : Host) : Prop where
  next : h'.wakes.next = h.wakes.next
  wakes : ∀ w < h.wakes.next, Wake.Steps h.Failed (h.wakeOf w) (h'.wakeOf w)
  state : ∀ i, (h'.slot i).state = (h.slot i).state ∨
    h.Turning i ∧ (h'.slot i).state ≠ .closing
  prompts : ∀ p ∈ h'.prompts, p ∈ h.prompts ∨
    p.disposing = (h.slot p.slot).disposing ∧ h.Turning p.slot

theorem Wake.Steps.refl (failed : SlotId → Prop) (x : Wake) : Wake.Steps failed x x :=
  ⟨rfl, Nat.le_refl _, fun h _ => Or.inl h⟩

section
variable {h : Host} {w : WakeId}

variable {error : Option ErrorCode} {h' : Host}

/-- A step that changes one wake, and the state of its slot only when it turns. -/
theorem TurnEffect.of_modify {f : Wake → Wake} (hw : h'.wakes = h.wakes.modify w f)
    (hf : Wake.Steps h.Failed (h.wakeOf w) (f (h.wakeOf w)))
    (hs : ∀ i, (h'.slot i).state = (h.slot i).state ∨ h.Turning i ∧ (h'.slot i).state ≠ .closing)
    (hp : h'.prompts = h.prompts) : TurnEffect h h' where
  next := by rw [hw, Heap.next_modify]
  wakes v _ := by
    have : h'.wakeOf v = (h.setWake w f).wakeOf v := congrArg (·.cell v) hw
    rw [this]
    exact h.wakeOf_setWake_rel (Wake.Steps.refl _) hf v
  state := hs
  prompts p hm := Or.inl (hp ▸ hm)

theorem Wake.Steps.trans {failed : SlotId → Prop} {x y z : Wake} (h : Wake.Steps failed x y)
    (h' : Wake.Steps failed y z) : Wake.Steps failed x z where
  slot := h'.slot.trans h.slot
  stage := Nat.le_trans h.stage h'.stage
  refused hle hf := by
    rcases h.refused hle hf with h1 | h1
    · exact h'.refused h1 (h.slot ▸ hf)
    · exact Or.inr (Nat.le_trans h1 h'.stage)

theorem TurnEffect.refl (h : Host) : TurnEffect h h :=
  ⟨rfl, fun _ _ => Wake.Steps.refl _ _, fun _ => Or.inl rfl, fun _ hm => Or.inl hm⟩

theorem TurnEffect.of_same (hw : h'.wakes = h.wakes)
    (hs : ∀ i, (h'.slot i).state = (h.slot i).state) (hp : h'.prompts = h.prompts) :
    TurnEffect h h' where
  next := by rw [hw]
  wakes v _ := by
    have : h'.wakeOf v = h.wakeOf v := congrArg (·.cell v) hw
    rw [this]
    exact Wake.Steps.refl _ _
  state i := Or.inl (hs i)
  prompts p hm := Or.inl (hp ▸ hm)

/-- What comes before a change of the wakes and leaves the states alone. -/
theorem TurnEffect.comp {g h' : Host} (hw : g.wakes = h.wakes)
    (hs : ∀ i, (g.slot i).state = (h.slot i).state)
    (hd : ∀ i, (g.slot i).disposing = (h.slot i).disposing) (hp : g.prompts = h.prompts)
    (he : TurnEffect g h') : TurnEffect h h' := by
  have hwake : ∀ v, g.wakeOf v = h.wakeOf v := fun v => congrArg (·.cell v) hw
  have hturn : ∀ i, g.Turning i → h.Turning i := by
    rintro i ⟨v, hv, hsl, h2, h4⟩
    rw [hwake] at hsl h2 h4
    rw [hw] at hv
    exact ⟨v, hv, hsl, h2, h4⟩
  refine ⟨he.next.trans (by rw [hw]), fun v hv => ?_, fun i => ?_, fun p hm => ?_⟩
  · rw [← hw] at hv
    obtain ⟨h1, h2, h3⟩ := he.wakes v hv
    rw [hwake] at h1 h2 h3
    refine ⟨h1, h2, fun hle hf => h3 hle ?_⟩
    unfold Host.Failed
    rw [hs]
    exact hf
  · rcases he.state i with h1 | ⟨h1, h2⟩
    · exact Or.inl (h1.trans (hs i))
    · exact Or.inr ⟨hturn i h1, h2⟩
  · rcases he.prompts p hm with h1 | ⟨h1, h2⟩
    · exact Or.inl (hp ▸ h1)
    · exact Or.inr ⟨h1.trans (hd _), hturn _ h2⟩

/-- Writing fields of a slot other than its state first. -/
theorem TurnEffect.setSlot_comp (i : SlotId) {f : SessionSlot → SessionSlot}
    (hs : ∀ s, (f s).state = s.state) (hd : ∀ s, (f s).disposing = s.disposing)
    (he : TurnEffect (h.setSlot i f) h') : TurnEffect h h' :=
  TurnEffect.comp (g := h.setSlot i f) rfl (Host.slot_setSlot (·.state) h i hs)
    (Host.slot_setSlot (·.disposing) h i hd) rfl he

theorem effect_syncCatalogState_comp (i : SlotId) (answer : Answer)
    (he : TurnEffect (h.syncCatalogState i answer) h') : TurnEffect h h' := by
  have hs := sameTurns_syncCatalogState h i answer
  have hslot : ∀ j, (h.syncCatalogState i answer).slot j = h.slot j := by
    intro j
    unfold Host.syncCatalogState
    split
    · split <;> rfl
    · rfl
  exact he.comp hs.wakes (fun j => by rw [hslot]) (fun j => by rw [hslot]) hs.prompts

theorem turning_of (hw : w < h.wakes.next) (h2 : 2 ≤ (h.wakeOf w).stage)
    (h4 : (h.wakeOf w).stage ≤ 4) : h.Turning (h.wakeOf w).slot := ⟨w, hw, rfl, h2, h4⟩

theorem effect_setState {f : SessionSlot → SessionSlot} {pc : WakePc} (hw : w < h.wakes.next)
    (h3 : 3 ≤ (h.wakeOf w).stage) (h4 : (h.wakeOf w).stage ≤ 4)
    (hle : (h.wakeOf w).stage ≤ pc.stage) (hf : ∀ s, (f s).state ≠ .closing) :
    TurnEffect h ((h.setSlot (h.wakeOf w).slot f).goto w pc) := by
  refine TurnEffect.of_modify (f := fun x => { x with pc := pc }) rfl
    ⟨rfl, hle, fun h1 => absurd h1 (by omega)⟩ (fun i => ?_) rfl
  by_cases e : i = (h.wakeOf w).slot
  · right
    subst e
    refine ⟨turning_of hw (by omega) h4, ?_⟩
    show ((h.setSlot (h.wakeOf w).slot f).slot (h.wakeOf w).slot).state ≠ _
    rw [Host.slot_setSlot_apply, if_pos rfl]
    exact hf _
  · left
    show ((h.setSlot (h.wakeOf w).slot f).slot i).state = _
    rw [Host.slot_setSlot_apply, if_neg e]

theorem effect_setWake {f : Wake → Wake}
    (hf : Wake.Steps h.Failed (h.wakeOf w) (f (h.wakeOf w))) : TurnEffect h (h.setWake w f) :=
  TurnEffect.of_modify rfl hf (fun _ => Or.inl rfl) rfl

theorem effect_goto {pc : WakePc} (h2 : 2 ≤ (h.wakeOf w).stage)
    (hle : (h.wakeOf w).stage ≤ pc.stage) : TurnEffect h (h.goto w pc) :=
  effect_setWake ⟨rfl, hle, fun h1 => absurd h1 (by omega)⟩

theorem effect_acquire (h2 : (h.wakeOf w).stage = 2) : TurnEffect h (h.acquire w) := by
  have hf : ∀ y : Wake, y.slot = (h.wakeOf w).slot → y.stage = 3 →
      Wake.Steps h.Failed (h.wakeOf w) y :=
    fun y hs h3 => ⟨hs, by omega, fun h1 => absurd h1 (by omega)⟩
  unfold Host.acquire
  split
  · exact effect_setWake (hf _ rfl rfl)
  split
  · exact TurnEffect.of_modify (f := Wake.granted) rfl (hf _ rfl rfl) (fun _ => Or.inl rfl) rfl
  · exact TurnEffect.of_modify (f := fun x => { x with pc := .acquire }) rfl (hf _ rfl rfl)
      (fun _ => Or.inl rfl) rfl

theorem effect_runWake (h2 : (h.wakeOf w).stage = 2) : TurnEffect h (h.runWake w) := by
  unfold Host.runWake
  simp only
  split
  · exact effect_setWake ⟨rfl, show _ ≤ 5 by omega, fun h1 => absurd h1 (by omega)⟩
  refine TurnEffect.setSlot_comp (h.wakeOf w).slot (f := fun s => { s with activeAbort := some w })
    (fun _ => rfl) (fun _ => rfl) ?_
  exact effect_acquire h2

theorem effect_failTurn (hw : w < h.wakes.next) (h3 : 3 ≤ (h.wakeOf w).stage)
    (h4 : (h.wakeOf w).stage ≤ 4) (code : ErrorCode) : TurnEffect h (h.failTurn w code) := by
  refine effect_setState hw h3 h4 h4 fun s => ?_
  show (if code = .aborted then SessionState.idle else SessionState.failed) ≠ .closing
  split <;> exact SessionState.noConfusion

theorem effect_catchTurn (hw : w < h.wakes.next) (h3 : 3 ≤ (h.wakeOf w).stage)
    (h4 : (h.wakeOf w).stage ≤ 4) (code : ErrorCode) : TurnEffect h (h.catchTurn w code) := by
  unfold Host.catchTurn
  split
  · exact effect_goto (by omega) h4
  · exact effect_failTurn hw h3 h4 code

theorem effect_release (hi : TurnInv h) (h4 : (h.wakeOf w).stage = 4) :
    TurnEffect h (h.returnTurn w error) := by
  have hf : Wake.Steps h.Failed (h.wakeOf w) ((h.wakeOf w).returned error) :=
    ⟨rfl, show _ ≤ 5 by omega, fun h1 => absurd h1 (by omega)⟩
  have hset := effect_setWake hf
  unfold Host.returnTurn
  split
  · have hne : (h.wakeOf w).pc ≠ .acquire := by
      intro e
      unfold Wake.stage at h4
      rw [e] at h4
      cases h4
    have hwait : Waiting (h.setWake w (Wake.returned error)).wakes h.turns.waiters := by
      refine ⟨hi.metered.nodup, fun j hj => ?_⟩
      obtain ⟨hlt, hpc, hp⟩ := hi.metered.waiting j hj
      have hjw : j ≠ w := fun e => hne (e ▸ hpc)
      refine ⟨hlt, ?_⟩
      show ((h.wakes.modify w _).cell j).pc = _ ∧ ((h.wakes.modify w _).cell j).permit = _
      rw [Heap.cell_modify_ne _ hjw]
      exact ⟨hpc, hp⟩
    obtain ⟨hn, hh⟩ := handOver_handed h.turns.limit h.turns.active hwait
    refine ⟨hn, fun v hv => ?_, fun _ => Or.inl rfl, fun _ hm => Or.inl hm⟩
    have h1 := hset.wakes v hv
    obtain ⟨hm, hst⟩ := (hh v).moved
    refine ⟨hm.slot.trans h1.slot, Nat.le_trans h1.stage hm.stage, fun hle hfail => ?_⟩
    show (Wake.stage _ ≤ 1 ∨ 6 ≤ Wake.stage _)
    rcases h1.refused hle hfail with h2 | h2
    · exact Or.inl (Nat.le_trans (Nat.le_of_eq hst) h2)
    · exact Or.inr (Nat.le_trans h2 hm.stage)
  · exact hset

theorem effect_endTurn (hi : TurnInv h) (h4 : (h.wakeOf w).stage = 4) :
    TurnEffect h (h.endTurn w error) := by
  refine TurnEffect.setSlot_comp (h.wakeOf w).slot (f := fun s => { s with activeAbort := none })
    (fun _ => rfl) (fun _ => rfl) ?_
  refine effect_release (hi.of_same (sameTurns_setSlot h _ ?_ ?_)) h4
  · exact fun _ => rfl
  · exact fun _ => rfl

theorem effect_releaseReservation (h6 : (h.wakeOf w).stage ≤ 6) :
    TurnEffect h (h.releaseReservation w error) := by
  refine TurnEffect.setSlot_comp (h.wakeOf w).slot (f := SessionSlot.releaseReservation w)
    (fun _ => rfl) (fun _ => rfl) ?_
  exact effect_setWake ⟨rfl, h6, fun _ _ => Or.inr (Nat.le_refl 6)⟩

theorem effect_prepareWake {answer : Answer} (h0 : (h.wakeOf w).stage = 0) :
    TurnEffect h (h.prepareWake w answer) := by
  have hrelease : ∀ error, TurnEffect h (h.releaseReservation w error) :=
    fun error => effect_releaseReservation (by omega)
  have hpass : TurnEffect h (if (h.slot (h.wakeOf w).slot).state = .failed then h.goto w .refuse
      else h.linkTurn w) := by
    split
    · exact effect_setWake ⟨rfl, show _ ≤ 1 by omega, fun _ _ => Or.inl (Nat.le_refl 1)⟩
    rename_i hstate
    refine TurnEffect.of_modify (f := Wake.link (h.slot (h.wakeOf w).slot).turnTail) rfl
      ⟨rfl, show _ ≤ 2 by omega, fun _ hf => absurd hf hstate⟩ (fun i => Or.inl ?_) rfl
    exact Host.slot_setSlot (f := fun s => { s with turnTail := some w }) (·.state) h
      (h.wakeOf w).slot (fun _ => rfl) i
  unfold Host.prepareWake
  split
  · exact hrelease _
  · exact hrelease _
  · exact hrelease _
  · exact hrelease _
  · exact hrelease _
  · exact hpass
  · exact hpass

theorem effect_untrack (h6 : (h.wakeOf w).stage = 6) : TurnEffect h (h.untrack w) := by
  have hf : ∀ s : SessionSlot, (s.untrack (h.wakeOf w).idempotencyKey w).state = s.state ∧
      (s.untrack (h.wakeOf w).idempotencyKey w).disposing = s.disposing := by
    intro s
    obtain ⟨m, e⟩ := SessionSlot.untrack_eq (h.wakeOf w).idempotencyKey w s
    rw [e]
    exact ⟨rfl, rfl⟩
  refine TurnEffect.setSlot_comp (h.wakeOf w).slot
    (f := SessionSlot.untrack (h.wakeOf w).idempotencyKey w) (fun s => (hf s).1) (fun s => (hf s).2) ?_
  exact effect_setWake ⟨rfl, show (h.wakeOf w).stage ≤ 7 by omega,
    fun h1 => absurd h1 (show ¬ (h.wakeOf w).stage ≤ 1 by omega)⟩

theorem effect_startPrompt (hw : w < h.wakes.next) (hst : (h.wakeOf w).stage = 3) :
    TurnEffect h (h.startPrompt w) := by
  obtain ⟨hn, hwk, hs, -⟩ : TurnEffect h (h.goto w .prompt) :=
    effect_goto (by omega) (show _ ≤ 4 by omega)
  refine ⟨hn, hwk, hs, fun p hm => ?_⟩
  rcases List.mem_append.mp hm with hm | hm
  · exact Or.inl hm
  rw [List.mem_singleton] at hm
  subst hm
  exact Or.inr ⟨rfl, turning_of hw (by omega) (by omega)⟩

theorem effect_abortWake (hi : TurnInv h) (w : WakeId) : TurnEffect h (h.abortWake w) := by
  unfold Host.abortWake
  split
  · rename_i hmem
    obtain ⟨-, hpc, -⟩ := hi.metered.waiting w hmem
    have hst : (h.wakeOf w).stage = 3 := by
      unfold Wake.stage
      rw [hpc]
      rfl
    exact TurnEffect.of_modify (f := fun x => { x with aborted := true }.rejected) rfl
      ⟨rfl, Nat.le_of_eq hst, fun h1 => absurd h1 (by omega)⟩ (fun _ => Or.inl rfl) rfl
  · exact effect_setWake ⟨rfl, Nat.le_refl _, fun h1 _ => Or.inl h1⟩

theorem effect_abortTurns (hi : TurnInv h) : TurnEffect h h.abortTurns := by
  unfold Host.abortTurns
  generalize (h.sessions.values.flatMap fun i => (h.slot i).inFlight.values) = entries
  -- aborting changes no slot and no prompt, and a stage only of waiters
  suffices hall : ∀ g : Host, TurnInv g → g.wakes.next = h.wakes.next →
      (∀ v < h.wakes.next, Wake.Steps h.Failed (h.wakeOf v) (g.wakeOf v)) →
      (∀ i, g.slot i = h.slot i) → g.prompts = h.prompts →
      TurnEffect h (entries.foldl
        (fun h e => if (h.wakeOf e.2).aborted then h else h.abortWake e.2) g) from
    hall h hi rfl (fun v _ => Wake.Steps.refl _ _) (fun _ => rfl) rfl
  induction entries with
  | nil =>
    intro g _ hn hw hs hp
    exact ⟨hn, hw, fun i => Or.inl (by rw [List.foldl_nil, hs]), fun p hm => Or.inl (hp ▸ hm)⟩
  | cons e entries ih =>
    intro g hg hn hw hs hp
    rw [List.foldl_cons]
    split
    · exact ih g hg hn hw hs hp
    have he := effect_abortWake hg e.2
    have hslots : (g.abortWake e.2).slots = g.slots ∧ (g.abortWake e.2).prompts = g.prompts := by
      unfold Host.abortWake
      split <;> exact ⟨rfl, rfl⟩
    refine ih _ (hg.abortWake e.2) (he.next.trans hn) (fun v hv => ?_) (fun i => ?_)
      (hslots.2.trans hp)
    · refine (hw v hv).trans ?_
      have := he.wakes v (hn ▸ hv)
      have hfail : g.Failed = h.Failed := by
        funext i
        unfold Host.Failed
        rw [hs]
      rw [hfail] at this
      exact this
    · exact (congrArg (·.cell i) hslots.1).trans (hs i)

theorem effect_resume (hi : TurnInv h) (hw : w < h.wakes.next) {answer : Answer}
    (hr : h.resume w answer = some h') : TurnEffect h h' := by
  have hend : (h.wakeOf w).stage = 4 → ∀ error last, TurnEffect h
      (((h.syncCatalogState (h.wakeOf w).slot answer).setSlot (h.wakeOf w).slot fun s =>
        { s with lastErrorCode := last }).endTurn w error) := by
    intro h4 error last
    have hs := hi.of_same (sameTurns_syncCatalogState h (h.wakeOf w).slot answer)
    have hwake : (h.syncCatalogState (h.wakeOf w).slot answer).wakeOf w = h.wakeOf w :=
      (sameTurns_syncCatalogState h _ answer).wakeOf w
    refine effect_syncCatalogState_comp (h.wakeOf w).slot answer ?_
    refine TurnEffect.setSlot_comp (h.wakeOf w).slot (f := fun s => { s with lastErrorCode := last })
      (fun _ => rfl) (fun _ => rfl) ?_
    have hs2 := hs.of_same (sameTurns_setSlot _ (h.wakeOf w).slot (f := fun s =>
      { s with lastErrorCode := last }) (fun _ => rfl) fun _ => rfl)
    refine effect_endTurn hs2 ?_
    show ((h.syncCatalogState (h.wakeOf w).slot answer).wakeOf w).stage = 4
    rw [hwake]
    exact h4
  have hstage : (h.wakeOf w).stage = (h.wakeOf w).pc.stage := rfl
  unfold Host.resume at hr
  cases hpc : (h.wakeOf w).pc with rw [hpc] at hr hstage
  | beginRequest =>
    simp only [Option.ite_none_right_eq_some, Option.some.injEq] at hr
    exact hr.2 ▸ effect_prepareWake hstage
  | turnTail =>
    simp only [Option.ite_none_right_eq_some, Option.some.injEq] at hr
    exact hr.2 ▸ effect_runWake hstage
  | acquire => cases hr
  | untracked => cases hr
  | refuse =>
    cases hr
    exact effect_releaseReservation (by rw [hstage]; decide)
  | returned =>
    cases hr
    exact effect_releaseReservation (by rw [hstage]; decide)
  | acquired =>
    cases hr
    split
    · exact effect_goto (by rw [hstage]; decide) (Nat.le_of_eq hstage)
    · exact effect_setState hw (Nat.le_of_eq hstage.symm) (by rw [hstage]; decide)
        (Nat.le_of_eq hstage) fun _ => SessionState.noConfusion
  | acquireAborted =>
    cases hr
    exact effect_catchTurn hw (Nat.le_of_eq hstage.symm) (by rw [hstage]; decide) _
  | markAccepted =>
    simp only at hr
    split at hr <;> cases hr
    · exact effect_catchTurn hw (Nat.le_of_eq hstage.symm) (by rw [hstage]; decide) _
    · exact effect_setState hw (Nat.le_of_eq hstage.symm) (by rw [hstage]; decide)
        (Nat.le_of_eq hstage) fun _ => SessionState.noConfusion
  | syncRunning =>
    cases hr
    have hs := sameTurns_syncCatalogState h (h.wakeOf w).slot answer
    refine effect_syncCatalogState_comp _ answer (effect_startPrompt ?_ ?_)
    · rw [hs.wakes]
      exact hw
    · rw [hs.wakeOf]
      exact hstage
  | prompt =>
    simp only at hr
    split at hr <;> cases hr
    · exact effect_catchTurn hw (by rw [hstage]; decide) (Nat.le_of_eq hstage) _
    split
    · exact effect_goto (by rw [hstage]; decide) (Nat.le_of_eq hstage)
    · exact effect_setState hw (by rw [hstage]; decide) (Nat.le_of_eq hstage)
        (Nat.le_of_eq hstage) fun _ => SessionState.noConfusion
  | markCompleted =>
    simp only at hr
    split at hr <;> cases hr
    · exact effect_catchTurn hw (by rw [hstage]; decide) (Nat.le_of_eq hstage) _
    · exact effect_setState hw (by rw [hstage]; decide) (Nat.le_of_eq hstage)
        (Nat.le_of_eq hstage) fun _ => SessionState.noConfusion
  | syncIdle =>
    cases hr
    exact hend hstage none none
  | markFailed code =>
    cases hr
    exact effect_failTurn hw (by rw [hstage]; exact (by decide : 3 ≤ 4)) (Nat.le_of_eq hstage) code
  | syncFailed code =>
    cases hr
    exact hend hstage (some code) (some code)
  | settled =>
    cases hr
    exact effect_untrack hstage

/-- **What a turn step can do**: it admits a wake of a resident session or has an
effect on the turns of the slots. -/
theorem turnStep_effect (hi : TurnInv h) {e : TurnEvent} (hs : turnStep h e = some h') :
    TurnEffect h h' ∨ ∃ command i, e = .wake command ∧
      h.requireSession command.sessionId command.generation = .ok i ∧
      (h.slot i).inFlight.get? command.idempotencyKey = none ∧ h' = h.admitWake i command := by
  cases e with
  | wake command =>
    simp only [turnStep] at hs
    split at hs <;> cases hs
    · rename_i v hw
      obtain ⟨-, i, hreq, rfl | ⟨hnone, -, rfl, -⟩⟩ := Host.wake_eq_ok hw
      · exact Or.inl (TurnEffect.refl _)
      · exact Or.inr ⟨command, i, rfl, hreq, hnone, rfl⟩
    · exact Or.inl (TurnEffect.refl h)
  | resume =>
    obtain ⟨hv, hs⟩ := Option.ite_none_right_eq_some.mp hs
    exact Or.inl (effect_resume hi hv hs)
  | abort sessionId generation =>
    left
    simp only [turnStep, Host.abort] at hs
    cases hr : h.requireSession sessionId generation with
    | error =>
      simp only [hr, bind, Except.bind, Option.some.injEq] at hs
      exact hs ▸ TurnEffect.refl h
    | ok i =>
      cases ha : (h.slot i).activeAbort with
      | none =>
        simp only [hr, ha, bind, Except.bind, Option.some.injEq] at hs
        exact hs ▸ TurnEffect.refl h
      | some v =>
        simp only [hr, ha, bind, Except.bind, Option.some.injEq] at hs
        exact hs ▸ effect_abortWake hi v
  | beginDrain | tick =>
    cases hs
    exact Or.inl (TurnEffect.of_same rfl (fun _ => rfl) rfl)
  | drainTimeout =>
    left
    simp only [turnStep, Option.ite_none_right_eq_some, Option.some.injEq] at hs
    exact hs.2 ▸ effect_abortTurns hi
  | control =>
    left
    simp only [turnStep] at hs
    split at hs <;> cases hs
    · rename_i hc
      obtain rfl | ⟨i, -, rfl⟩ := Host.runEphemeralControl_eq_ok hc
      · exact TurnEffect.refl _
      · refine TurnEffect.of_same rfl (Host.slot_setSlot (·.state) h i ?_) rfl
        exact fun _ => rfl
    · exact TurnEffect.refl h
  | controlled i =>
    cases hs
    refine Or.inl (TurnEffect.of_same rfl (Host.slot_setSlot (·.state) h i ?_) rfl)
    exact fun _ => rfl

end

end PiDaemon.Multiplexer
