import PiDaemon.Multiplexer.Residency

/-!
# The number of resident sessions

`open` compares the number of resident sessions with `maxSessions`, and inserts the
slot after the factory, the catalog and the manifest have answered.  The lifecycle
lock orders the operations of one session only.

* `CapacityInv.step`: a resident session and an open in flight each take a place;
* `sessions_le_maxSessions`: the limit holds in a run whose opens pass the check only
  when the opens in flight leave a place;
* `sessions_gt_maxSessions`: two opens of different sessions exceed it.
-/

namespace PiDaemon.Multiplexer

open Lib OrderedMap

/-- The awaits of `open` between the capacity check and the insertion of the slot. -/
def LifecyclePc.opening : LifecyclePc → Bool
  | .openReprovision | .openFactory | .openController | .openCatalog | .openManifest => true
  | _ => false

/-- How many opens have passed the check and have not inserted their slot. -/
def Host.opening (h : Host) : Nat := h.ops.count fun x => x.pc.opening

theorem Goes.opening {h : Host} {x : LifecycleOp} {pc : LifecyclePc} (hg : Goes h x pc) :
    pc.opening = true → x.pc.opening = true := by
  intro hp
  cases hg with
  | factory hpc | controller hpc => exact congrArg LifecyclePc.opening hpc
  | _ => cases hp

/-- The places that the operation `x` takes. -/
def LifecycleOp.places (x : LifecycleOp) : Nat := x.pc.opening.toNat

theorem LifecycleOp.places_of_pc {x : LifecycleOp} {pc : LifecyclePc} (hpc : x.pc = pc) :
    x.places = pc.opening.toNat := by
  unfold LifecycleOp.places
  rw [hpc]

def PassesChecks (h : Host) (x : LifecycleOp) : LifecycleRequest → Prop
  | .open command => h.openDecision command x.existing x.retained = .ok .create
  | _ => False

/-- An open passes its checks and takes a new place. -/
def Creates (h : Host) (x : LifecycleOp) : Prop :=
  x.pc = .openChecks ∧ PassesChecks h x x.request

section
variable {h g : Host} {x x' : LifecycleOp}

/-- Only an open that passes the check takes a place that it has not had. -/
theorem Effect.places (he : Effect h x g x')
    (hk : x.request.locks = true → x.pc = .openDispose →
      ∃ i, h.sessions.get? x.request.sessionId = some i) :
    g.sessions.size + x'.places ≤ h.sessions.size + x.places ∨
      Creates h x ∧ g.sessions.size + x'.places ≤ h.sessions.size + 1 := by
  have hless : ∀ {k}, k = 0 → h.sessions.size + k ≤ h.sessions.size + x.places := by
    rintro k rfl
    exact Nat.le_add_right _ _
  have hdelete : ∀ {k} (sessionId : SessionId), k = 0 →
      (h.sessions.delete sessionId).size + k ≤ h.sessions.size + x.places := by
    rintro k sessionId rfl
    exact Nat.le_trans (size_delete_le h.sessions sessionId) (Nat.le_add_right _ _)
  have hsame : ∀ {pc pc' : LifecyclePc}, x.pc = pc → pc.opening = pc'.opening →
      h.sessions.size + pc'.opening.toNat ≤ h.sessions.size + x.places := by
    intro pc pc' hpc e
    exact Nat.le_of_eq (by rw [LifecycleOp.places_of_pc hpc, e])
  cases he with
  | @go pc hg =>
    refine Or.inl (Nat.add_le_add_left ?_ _)
    unfold LifecycleOp.places
    cases hp : pc.opening with
    | false => exact Nat.zero_le _
    | true => exact Nat.le_of_eq (congrArg Bool.toNat (hg.opening hp).symm)
  | finish _ _ hpc => exact Or.inl (hless (LifecycleOp.places_of_pc hpc))
  | create hr hpc hd =>
    refine Or.inr ⟨⟨hpc, by rw [hr]; exact hd⟩, ?_⟩
    rw [(slots_retainToolAdapter h _).2]
    exact Nat.add_le_add_left (Bool.toNat_le _) _
  | @replaced command hr hpc =>
    obtain ⟨i, hi⟩ := hk (by rw [hr]; rfl) hpc
    rw [hr] at hi
    rw [(slots_retainToolAdapter _ command).2]
    have hsize : (h.sessions.delete command.sessionId).size + 1 = h.sessions.size :=
      size_delete_of_has hi
    refine Or.inl ?_
    calc (h.sessions.delete command.sessionId).size + command.firstAwait.opening.toNat
        ≤ (h.sessions.delete command.sessionId).size + 1 :=
          Nat.add_le_add_left (Bool.toNat_le _) _
      _ ≤ h.sessions.size + x.places := by rw [hsize]; exact Nat.le_add_right _ _
  | controller hr hpc =>
    refine Or.inl ?_
    rw [LifecycleOp.places_of_pc hpc]
    exact Nat.add_le_add_left (Bool.toNat_le _) _
  | openCatalog hr hpc => exact Or.inl (hsame hpc rfl)
  | @opened command hr hpc =>
    refine Or.inl ?_
    rw [LifecycleOp.places_of_pc hpc]
    show (h.sessions.set command.sessionId h.slots.next).size + 0 ≤ h.sessions.size + 1
    cases hg : h.sessions.get? command.sessionId with
    | none => exact Nat.le_of_eq (size_set_of_not_has hg _)
    | some =>
      rw [size_set_of_has hg]
      exact Nat.le_succ _
  | beginCloseCached _ _ hpc => rcases hpc with rfl | ⟨rfl, -⟩ <;> exact Or.inl (hless rfl)
  | closed | deleted | evict | evictDormant => exact Or.inl (hdelete _ rfl)
  | sweepPass =>
    rw [(slots_sweepCheck h _ _).2]
    exact Or.inl (hless rfl)
  | @sweepClose sessionId i now =>
    refine Or.inl ?_
    show (h.sweepCheck i now).1.sessions.size + 0 ≤ _
    rw [(slots_sweepCheck h i now).2]
    exact hless rfl
  | _ => exact Or.inl (hless rfl)

end

/-! ## The invariant -/

/-- An open takes a new place although the opens in flight have taken all of them. -/
def Overcommits (h : Host) : HostEvent → Prop
  | .lifecycle (.resume o _) =>
    Creates h (h.op o) ∧ h.limits.maxSessions ≤ h.sessions.size + h.opening
  | _ => False

instance (h : Host) (x : LifecycleOp) : (request : LifecycleRequest) →
    Decidable (PassesChecks h x request)
  | .open command =>
    inferInstanceAs (Decidable (h.openDecision command x.existing x.retained = .ok .create))
  | .close _ _ _ => .isFalse id
  | .sweep _ _ _ => .isFalse id
  | .replaceDormant _ _ => .isFalse id

instance (h : Host) (x : LifecycleOp) : Decidable (Creates h x) :=
  inferInstanceAs (Decidable (_ ∧ _))

instance (h : Host) : (e : HostEvent) → Decidable (Overcommits h e)
  | .lifecycle (.resume o _) =>
    inferInstanceAs (Decidable (Creates h (h.op o) ∧
      h.limits.maxSessions ≤ h.sessions.size + h.opening))
  | .turn _ => .isFalse id
  | .lease _ => .isFalse id
  | .lifecycle (.open _) => .isFalse id
  | .lifecycle (.close _ _ _) => .isFalse id
  | .lifecycle (.sweepVisit _ _) => .isFalse id
  | .lifecycle (.replaceDormantSession _ _) => .isFalse id
  | .lifecycle (.start _) => .isFalse id

structure CapacityInv (h : Host) : Prop where
  residency : ResidencyInv h
  places : h.sessions.size + h.opening ≤ h.limits.maxSessions

theorem opening_putOp {h g : Host} {o : OpId} (ho : o < h.ops.next)
    (hops : g.ops = h.ops) (x' : LifecycleOp) :
    (g.putOp o x').opening + (h.op o).places = h.opening + x'.places := by
  unfold Host.opening Host.putOp
  rw [hops]
  exact Heap.count_set (fun x : LifecycleOp => x.pc.opening) h.ops ho x'

theorem CapacityInv.makes {h h' : Host} {o : OpId} (hi : CapacityInv h) (ho : o < h.ops.next)
    (hr : ResidencyInv h')
    (hok : Creates h (h.op o) → h.sessions.size + h.opening < h.limits.maxSessions)
    (hm : Makes h o h') : CapacityInv h' := by
  obtain ⟨g, x', he, hops, rfl⟩ := hm
  refine ⟨hr, ?_⟩
  have hresident : (h.op o).request.locks = true → (h.op o).pc = .openDispose →
      ∃ i, h.sessions.get? (h.op o).request.sessionId = some i := by
    intro hl hpc
    obtain ⟨i, hx⟩ := Option.isSome_iff_exists.mp (hi.residency.evicting o ho (by rw [hpc]; rfl))
    refine ⟨i, hi.residency.known o ho hl _ ?_⟩
    rw [LifecycleOp.known_of_pc hpc]
    exact congrArg some hx
  have hcount := opening_putOp ho hops x'
  have hp := hi.places
  show g.sessions.size + (g.putOp o x').opening ≤ g.limits.maxSessions
  rw [he.frame.limits]
  rcases he.places hresident with hle | ⟨hc, hle⟩
  · omega
  · have := hok hc
    omega

theorem CapacityInv.of_same {h h' : Host} (hi : CapacityInv h) (hr : ResidencyInv h')
    (hs : h'.sessions = h.sessions) (hl : h'.limits = h.limits) (ho : h'.opening = h.opening) :
    CapacityInv h' := by
  refine ⟨hr, ?_⟩
  rw [hs, hl, ho]
  exact hi.places

theorem opening_of_ops {h h' : Host} (ho : h'.ops = h.ops) : h'.opening = h.opening := by
  unfold Host.opening
  rw [ho]

theorem opening_newOp (h : Host) (request : LifecycleRequest) (after : Option OpId)
    {pc : LifecyclePc} (hpc : pc.opening = false) : (h.newOp request after pc).opening = h.opening := by
  refine (Heap.count_alloc (fun x : LifecycleOp => x.pc.opening) h.ops _).trans ?_
  rw [hpc]
  rfl

theorem CapacityInv.step {h h' : Host} {e : HostEvent} (hi : CapacityInv h)
    (hok : ¬ Overcommits h e) (hs : hostStep h e = some h') : CapacityInv h' := by
  have hr := hi.residency.step hs
  cases e with
  | turn =>
    have hf := frame_step hs
    exact hi.of_same hr hf.sessions hf.limits (opening_of_ops hf.ops)
  | lease =>
    obtain ⟨_, _, rfl⟩ := leaseStep_frame hs
    exact hi.of_same hr rfl rfl rfl
  | lifecycle =>
    cases lifecycleStep_cases hs with
    | idle => exact hi
    | link _ request =>
      exact hi.of_same hr rfl rfl (opening_newOp h request (h.lifecycleTails request.sessionId) rfl)
    | visit i now =>
      have hf := frame_sweepCheck h i now
      exact hi.of_same hr (slots_sweepCheck h i now).2 hf.limits (opening_of_ops hf.ops)
    | linkSweep i now =>
      have hf := frame_sweepCheck h i now
      exact hi.of_same hr (slots_sweepCheck h i now).2 hf.limits
        ((opening_newOp _ _ _ rfl).trans (opening_of_ops hf.ops))
    | callReplace => exact hi.of_same hr rfl rfl (opening_newOp h _ none rfl)
    | start o ho hpc _ hm =>
      refine hi.makes ho hr (fun hc => ?_) hm
      have := hc.1
      rw [hpc] at this
      cases this
    | resume o answer ho _ _ hm =>
      exact hi.makes ho hr (fun hc => Nat.lt_of_not_le fun hle => hok ⟨hc, hle⟩) hm

/-- **Capacity.**  In a run whose opens pass the capacity check only when the opens
in flight leave a place, there are never more than `maxSessions` resident sessions. -/
theorem sessions_le_maxSessions {h h' : Host} {es : List HostEvent} (hq : Quiet h)
    (hc : h.sessions.size ≤ h.limits.maxSessions)
    (hok : Meets hostStep (fun h e => ¬ Overcommits h e) h es) (hr : run hostStep h es = some h') :
    h'.sessions.size ≤ h'.limits.maxSessions := by
  have h0 : CapacityInv h := by
    refine ⟨hq.residencyInv, ?_⟩
    have : h.opening = 0 := by
      refine Heap.count_eq_zero.mpr fun o ho => ?_
      rw [hq.ops] at ho
      exact absurd ho (Nat.not_lt_zero o)
    omega
  have hi : CapacityInv h' :=
    run_invariant_of_meets (fun _ _ _ hi hok hs => CapacityInv.step hi hok hs) h0 hok hr
  exact Nat.le_trans (Nat.le_add_right _ _) hi.places

/-- A host with place for one session. -/
def Host.small : Host :=
  Host.new ⟨1, 1, 1, by decide, by decide⟩ false false 0 0

/-- An open of a new session. -/
def OpenCommand.fresh (sessionId : SessionId) : OpenCommand where
  requestId := sessionId
  sessionId := sessionId
  generation := 1
  mode := .new
  policyKey := []
  policyDigest := []
  toolAdapter := none
  payloadError := none
  toolAdapterError := none

/-- An open up to its insertion of the slot. -/
def openAlone (o : OpId) : List HostEvent :=
  [.lifecycle (.start o), .lifecycle (.resume o .ok), .lifecycle (.resume o .ok),
    .lifecycle (.resume o .ok), .lifecycle (.resume o (.conversation none)),
    .lifecycle (.resume o .ok)]

theorem Host.small_quiet : Quiet Host.small := ⟨rfl, rfl⟩

/-- Two opens one after the other: the second one is refused. -/
theorem sessions_le_maxSessions_two_opens :
    let es := [.lifecycle (.open (.fresh [115]))] ++ openAlone 0 ++
      [.lifecycle (.open (.fresh [116])), .lifecycle (.start 1), .lifecycle (.resume 1 .ok),
        .lifecycle (.resume 1 .ok)]
    ∃ h', run hostStep Host.small es = some h' ∧ h'.sessions.keys = [[115]] ∧
      (h'.op 1).pc = .done (.failed .sessionCapacity) ∧ h'.sessions.size ≤ h'.limits.maxSessions := by
  intro es
  obtain ⟨h', hr, hkeys, hpc⟩ : ∃ h', run hostStep Host.small es = some h' ∧ h'.sessions.keys = [[115]] ∧
      (h'.op 1).pc = .done (.failed .sessionCapacity) := by
    decide +kernel
  exact ⟨h', hr, hkeys, hpc,
    sessions_le_maxSessions Host.small_quiet (Nat.zero_le _) (by decide +kernel) hr⟩

/-- **The lifecycle lock.**  In every run one operation of a session is at work at a time, and what
it has read of the session is what the host holds. -/
theorem lifecycle_exclusive {h h' : Host} {es : List HostEvent} (hq : Quiet h)
    (hr : run hostStep h es = some h') {o : OpId} (ho : h'.Active o)
    (hlocks : (h'.op o).request.locks = true) :
    (∀ p, h'.Active p → (h'.op p).request.locks = true →
      (h'.op p).request.sessionId = (h'.op o).request.sessionId → p = o) ∧
      ∀ r, (h'.op o).known = some r → h'.sessions.get? (h'.op o).request.sessionId = r := by
  have hi : ResidencyInv h' := run_invariant (fun _ _ _ hi hs => hi.step hs) hq.residencyInv hr
  exact ⟨fun p hp hpl hs => hi.locks.unique hp ho hpl hlocks hs, hi.known o ho.1 hlocks⟩

theorem lifecycle_exclusive_open : ∃ h',
    run hostStep Host.small (.lifecycle (.open (.fresh [115])) :: (openAlone 0).take 3) = some h' ∧
      ((0 < h'.ops.next ∧ (h'.op 0).pc ≠ .queued ∧ ¬ h'.opDone 0 = true) ∧
        (h'.op 0).request.locks = true ∧ (h'.op 0).known = some none) ∧
          h'.sessions.get? (h'.op 0).request.sessionId = none :=
  exists_some_and (by decide +kernel) fun _ hr hw =>
    (lifecycle_exclusive Host.small_quiet hr hw.1 hw.2.1).2 none hw.2.2

/-- Two opens that both pass the check before one of them inserts its slot. -/
theorem sessions_gt_maxSessions :
    ∃ (h : Host) (es : List HostEvent) (h' : Host), Quiet h ∧
      h.sessions.size ≤ h.limits.maxSessions ∧ run hostStep h es = some h' ∧
      h'.limits.maxSessions < h'.sessions.size := by
  refine ⟨Host.small, [.lifecycle (.open (.fresh [115])), .lifecycle (.open (.fresh [116]))] ++
    (openAlone 0).take 3 ++ openAlone 1 ++ (openAlone 0).drop 3, ?_⟩
  simp only [exists_and_left]
  exact ⟨Host.small_quiet, Nat.zero_le _, by decide +kernel⟩

end PiDaemon.Multiplexer
