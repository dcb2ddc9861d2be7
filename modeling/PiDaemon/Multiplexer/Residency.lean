import PiDaemon.Multiplexer.LockInvariant

/-!
# The resident sessions

While an operation holds the lock of its session, the entry of the session in
`#sessions` is the one that the operation has read or has made itself.

* `LifecycleOp.known`: what an operation knows of the entry;
* `Effect.sessions`, `Effect.known`: an effect changes only an entry that it knows;
* `ResidencyInv.step`: what the operations know is true.
-/

namespace PiDaemon.Multiplexer

open Lib OrderedMap

/-! ## What an operation knows -/

/-- The slot that a sweep looks at. -/
def LifecycleRequest.swept : LifecycleRequest → Option SlotId
  | .sweep _ i _ => some i
  | _ => none

/-- The entry of the session, for an operation that has read or made it. -/
def LifecycleOp.known (x : LifecycleOp) : Option (Option SlotId) :=
  match x.pc with
  | .openGet | .openChecks | .openDispose => some x.existing
  | .openReprovision | .openFactory | .openController | .openCatalog | .openManifest => some none
  | .closeGet | .closeChecks | .closeDispose | .closeCatalog | .closeArtifacts => some x.existing
  | .sweepClosing | .sweepDispose | .sweepCatalog => some x.request.swept
  | _ => none

/-- The awaits between the disposal of an adapter and the removal of its slot. -/
def LifecyclePc.evicting : LifecyclePc → Bool
  | .openDispose | .closeDispose | .closeCatalog | .closeArtifacts => true
  | _ => false

structure ResidencyInv (h : Host) : Prop where
  locks : LockInv h
  known : ∀ o < h.ops.next, (h.op o).request.locks = true → ∀ r, (h.op o).known = some r →
    h.sessions.get? (h.op o).request.sessionId = r
  evicting : ∀ o < h.ops.next, (h.op o).pc.evicting = true → (h.op o).existing.isSome = true

theorem LifecycleOp.known_active {x : LifecycleOp} {r : Option SlotId} (hk : x.known = some r) :
    x.pc ≠ .queued ∧ ∀ result, x.pc ≠ .done result := by
  unfold LifecycleOp.known at hk
  constructor
  · intro hpc
    rw [hpc] at hk
    cases hk
  · intro result hpc
    rw [hpc] at hk
    cases hk

theorem Host.active_of_known {h : Host} {o : OpId} {r : Option SlotId} (ho : o < h.ops.next)
    (hk : (h.op o).known = some r) : h.Active o := by
  obtain ⟨hq, hd⟩ := LifecycleOp.known_active hk
  refine ⟨ho, hq, ?_⟩
  unfold Host.Ended Host.opDone
  split
  · rename_i result hpc
    exact absurd hpc (hd result)
  · exact Bool.false_ne_true

theorem LifecycleOp.known_of_pc {x : LifecycleOp} {pc : LifecyclePc} (hpc : x.pc = pc) :
    x.known = { x with pc := pc }.known := by
  rw [← hpc]

theorem Goes.known {h : Host} {x : LifecycleOp} {pc : LifecyclePc} (hg : Goes h x pc) :
    { x with pc := pc }.known = none ∨ { x with pc := pc }.known = x.known := by
  cases hg with
  | factory hpc | controller hpc | closeCatalog hpc | closeArtifacts hpc | sweepCatalog hpc =>
    exact Or.inr (LifecycleOp.known_of_pc hpc).symm
  | _ => exact Or.inl rfl

theorem LifecycleOp.known_firstAwait {command : OpenCommand} {x : LifecycleOp}
    (hpc : x.pc = command.firstAwait) : x.known = some none := by
  unfold LifecycleOp.known
  rcases command.firstAwait_cases with e | e <;> rw [hpc, e]

section
variable {h g : Host} {x x' : LifecycleOp}

/-- An effect changes the entry of its session only, and only when it knows it. -/
theorem Effect.sessions (he : Effect h x g x') : g.sessions = h.sessions ∨
    x.request.locks = true ∧ (∃ r, x.known = some r) ∧
      ∀ sessionId ≠ x.request.sessionId, g.sessions.get? sessionId = h.sessions.get? sessionId := by
  have hdelete : ∀ sessionId, x.request.sessionId = sessionId → ∀ other ≠ x.request.sessionId,
      (h.sessions.delete sessionId).get? other = h.sessions.get? other := by
    rintro sessionId rfl other hne
    exact get?_delete_ne _ hne.symm
  cases he with
  | @replaced command hr hpc =>
    refine Or.inr ⟨by rw [hr]; rfl, ⟨_, LifecycleOp.known_of_pc hpc⟩, ?_⟩
    rw [(slots_retainToolAdapter _ command).2]
    exact hdelete command.sessionId (by rw [hr]; rfl)
  | @opened command hr hpc =>
    refine Or.inr ⟨by rw [hr]; rfl, ⟨_, LifecycleOp.known_of_pc hpc⟩, fun other hne => ?_⟩
    rw [hr] at hne
    exact get?_set_ne _ hne.symm _
  | closed hr hpc | deleted hr hpc | evict hr hpc | evictDormant hr hpc =>
    exact Or.inr ⟨by rw [hr]; rfl, ⟨_, LifecycleOp.known_of_pc hpc⟩, hdelete _ (by rw [hr]; rfl)⟩
  | create => exact Or.inl (slots_retainToolAdapter _ _).2
  | sweepPass => exact Or.inl (slots_sweepCheck _ _ _).2
  | sweepClose => exact Or.inl (slots_sweepCheck h _ _).2
  | _ => exact Or.inl rfl

/-- What the operation knows after an effect is true. -/
theorem Effect.known (he : Effect h x g x')
    (hk : ∀ r, x.known = some r → h.sessions.get? x.request.sessionId = r) :
    ∀ r, x'.known = some r → g.sessions.get? x.request.sessionId = r := by
  intro r hr'
  have hpc' : ∀ {pc r}, x.pc = pc → { x with pc := pc }.known = some r →
      h.sessions.get? x.request.sessionId = r :=
    fun e hr => hk _ ((LifecycleOp.known_of_pc e).trans hr)
  cases he with
  | go hg =>
    rcases hg.known with e | e <;> rw [e] at hr'
    · cases hr'
    · exact hk r hr'
  | finish _ _ hpc =>
    rw [LifecycleOp.known_of_pc hpc] at hr'
    cases hr'
  | beginOpen hr | beginClose hr =>
    cases hr'
    rw [hr]
    rfl
  | openGet _ hpc | replace _ hpc | openCatalog _ hpc | closeGet _ hpc | closeDormant _ hpc
  | closeDelete _ hpc | sweepDispose _ hpc => exact hpc' hpc hr'
  | create _ hpc hd =>
    rw [LifecycleOp.known_firstAwait rfl] at hr'
    cases hr'
    rw [(slots_retainToolAdapter h _).2]
    refine hpc' hpc ?_
    rw [← (checkResident_create (openDecision_eq_ok hd).2.2.2).1]
    rfl
  | @replaced command hr =>
    rw [LifecycleOp.known_firstAwait rfl] at hr'
    cases hr'
    rw [(slots_retainToolAdapter _ command).2, hr]
    exact get?_delete_self _ _
  | controller _ hpc =>
    have : r = none := by
      cases hc : h.hasCatalog <;> rw [hc] at hr' <;> cases hr' <;> rfl
    rw [this]
    exact hpc' hpc rfl
  | beginCloseCached _ _ hpc =>
    rcases hpc with rfl | ⟨rfl, -⟩ <;> cases hr'
  | dispose hr hpc =>
    cases hr'
    rcases hpc with ⟨-, e⟩ | ⟨hpc, e⟩
    · rw [hr]
      exact e
    · exact hpc' hpc (congrArg some e)
  | @sweepClose sessionId i now hr _ hres =>
    rw [hr]
    have : r = some i := by
      rw [hr] at hr'
      cases hr'
      rfl
    rw [this, ← hres]
    exact congrArg (·.get? sessionId) (slots_sweepCheck h i now).2
  | _ => cases hr'

theorem Effect.evicting (he : Effect h x g x')
    (hs : x.pc.evicting = true → x.existing.isSome = true) :
    x'.pc.evicting = true → x'.existing.isSome = true := by
  have hpc' : ∀ {pc}, x.pc = pc → pc.evicting = true → x.existing.isSome = true :=
    fun e hp => hs (by rw [e]; exact hp)
  have hfirst : ∀ command : OpenCommand, command.firstAwait.evicting = false := by
    intro command
    rcases command.firstAwait_cases with e | e <;> rw [e] <;> rfl
  intro h'
  cases he with
  | go hg =>
    cases hg with
    | closeCatalog hpc => exact hpc' hpc rfl
    | closeArtifacts hpc => exact hpc' hpc rfl
    | _ => cases h'
  | finish _ _ hpc =>
    rw [hpc] at h'
    cases h'
  | replace _ _ hd =>
    show x.existing.isSome = true
    rw [(checkResident_replace (openDecision_eq_ok hd).2.2.2).1]
    rfl
  | create | replaced => exact absurd h' (Bool.eq_false_iff.mp (hfirst _))
  | controller => cases hc : h.hasCatalog <;> simp [hc, LifecyclePc.evicting] at h'
  | beginCloseCached _ _ hpc => rcases hpc with rfl | ⟨rfl, -⟩ <;> cases h'
  | dispose _ _ e =>
    show Option.isSome _ = true
    rw [e]
    rfl
  | closeDormant _ hpc | closeDelete _ hpc => exact hpc' hpc rfl
  | _ => cases h'

end

/-! ## The invariant -/

theorem ResidencyInv.of_same {h h' : Host} (hi : ResidencyInv h) (hl : LockInv h')
    (hs : h'.sessions = h.sessions)
    (hops : ∀ o < h'.ops.next, o < h.ops.next ∧ h'.op o = h.op o ∨
      (h'.op o).known = none ∧ (h'.op o).pc.evicting = false) : ResidencyInv h' := by
  refine ⟨hl, fun o ho hlocks r hr => ?_, fun o ho he => ?_⟩
  · rw [hs]
    rcases hops o ho with ⟨hlt, e⟩ | ⟨e, -⟩
    · rw [e] at hlocks hr ⊢
      exact hi.known o hlt hlocks r hr
    · rw [e] at hr
      cases hr
  · rcases hops o ho with ⟨hlt, e⟩ | ⟨-, e⟩
    · rw [e] at he ⊢
      exact hi.evicting o hlt he
    · rw [e] at he
      cases he

/-- The entry of a session is left alone by the operations of other sessions, and by
an operation that does not know it. -/
theorem ResidencyInv.other {h g : Host} {o p : OpId} {x' : LifecycleOp} (hi : ResidencyInv h)
    (ho : o < h.ops.next) (he : Effect h (h.op o) g x') (hp : p < h.ops.next)
    (hl : (h.op p).request.locks = true) {r : Option SlotId} (hk : (h.op p).known = some r)
    (hpo : p ≠ o) : g.sessions.get? (h.op p).request.sessionId =
      h.sessions.get? (h.op p).request.sessionId := by
  rcases he.sessions with e | ⟨hol, ⟨_, hr'⟩, hother⟩
  · rw [e]
  · refine hother _ fun hsid => hpo ?_
    exact hi.locks.unique (Host.active_of_known hp hk) (Host.active_of_known ho hr') hl hol hsid

theorem ResidencyInv.makes {h h' : Host} {o : OpId} (hi : ResidencyInv h) (ho : o < h.ops.next)
    (hl : LockInv h') (hm : Makes h o h') : ResidencyInv h' := by
  obtain ⟨g, x', he, hops, rfl⟩ := hm
  have hread : ∀ p, (g.putOp o x').op p = if p = o then x' else h.op p := by
    intro p
    rw [op_putOp]
    unfold Host.op
    rw [hops]
  have hlt : ∀ p, p < (g.putOp o x').ops.next → p < h.ops.next := fun p hp => by
    rw [← hops]
    exact hp
  refine ⟨hl, fun p hp hlocks r hr => ?_, fun p hp hev => ?_⟩
  · rw [hread] at hlocks hr ⊢
    by_cases e : p = o
    · rw [if_pos e] at hlocks hr ⊢
      rw [he.op.1] at hlocks ⊢
      exact he.known (hi.known o ho hlocks) r hr
    · rw [if_neg e] at hlocks hr ⊢
      exact (hi.other ho he (hlt p hp) hlocks hr e).trans (hi.known p (hlt p hp) hlocks r hr)
  · rw [hread] at hev ⊢
    by_cases e : p = o
    · rw [if_pos e] at hev ⊢
      exact he.evicting (hi.evicting o ho) hev
    · rw [if_neg e] at hev ⊢
      exact hi.evicting p (hlt p hp) hev

theorem ResidencyInv.lifecycleStep {h h' : Host} {e : LifecycleEvent} (hi : ResidencyInv h)
    (hl : LockInv h') (hs : LifecycleStep h e h') : ResidencyInv h' := by
  cases hs with
  | idle => exact hi
  | link _ request =>
    refine hi.of_same hl rfl fun o ho => ?_
    rcases ops_withLifecycle h request o ho with hold | ⟨hpc, -⟩
    · exact Or.inl hold
    · exact Or.inr ⟨LifecycleOp.known_of_pc hpc, by rw [hpc]; rfl⟩
  | visit i now =>
    have hops := (frame_sweepCheck h i now).ops
    refine hi.of_same hl (slots_sweepCheck h i now).2 fun o ho => Or.inl ⟨?_, ?_⟩
    · rwa [hops] at ho
    · exact congrArg (·.cell o) hops
  | linkSweep i now =>
    have hops := (frame_sweepCheck h i now).ops
    refine hi.of_same hl (slots_sweepCheck h i now).2 fun o ho => ?_
    rcases ops_withLifecycle _ _ o ho with ⟨hold, e⟩ | ⟨hpc, -⟩
    · rw [hops] at hold
      exact Or.inl ⟨hold, e.trans (congrArg (·.cell o) hops)⟩
    · exact Or.inr ⟨LifecycleOp.known_of_pc hpc, by rw [hpc]; rfl⟩
  | callReplace =>
    refine hi.of_same hl rfl fun o ho => ?_
    rw [op_newOp]
    rcases Nat.lt_succ_iff_lt_or_eq.mp ho with hlt | rfl
    · rw [if_neg (Nat.ne_of_lt hlt)]
      exact Or.inl ⟨hlt, rfl⟩
    · rw [if_pos rfl]
      exact Or.inr ⟨rfl, rfl⟩
  | start o ho _ _ hm | resume o _ ho _ _ hm => exact hi.makes ho hl hm

theorem ResidencyInv.step {h h' : Host} {e : HostEvent} (hi : ResidencyInv h)
    (hs : hostStep h e = some h') : ResidencyInv h' := by
  have hl := hi.locks.step hs
  cases e with
  | turn =>
    have hf := frame_step hs
    refine hi.of_same hl hf.sessions fun o ho => Or.inl ⟨?_, ?_⟩
    · rwa [hf.ops] at ho
    · exact congrArg (·.cell o) hf.ops
  | lifecycle => exact hi.lifecycleStep hl (lifecycleStep_cases hs)
  | lease =>
    obtain ⟨_, _, rfl⟩ := leaseStep_frame hs
    exact hi.of_same hl rfl fun o ho => Or.inl ⟨ho, rfl⟩

theorem Quiet.residencyInv {h : Host} (hq : Quiet h) : ResidencyInv h := by
  have hno : ∀ o, ¬ o < h.ops.next := fun o => by
    rw [hq.ops]
    exact Nat.not_lt_zero o
  exact ⟨hq.lockInv, fun o ho => absurd ho (hno o), fun o ho => absurd ho (hno o)⟩

end PiDaemon.Multiplexer
