import PiDaemon.Multiplexer.Residency

/-!
# Residency leases and the idle sweep

A sweep counts the leases of a slot before it closes it, and removes the slot and
the leases of its session after the disposal of the adapter.  An acquisition looks
at the generation of the slot and not at its state, so a lease can be acquired in
between and is removed with the slot.

* `LeaseInv.step`: a live lease has its entry, an entry has its resident slot, and a
  session that is being swept has no entry;
* `live_leases_resident`: in a run in which no lease is acquired on a slot that is
  being swept, the session of a live lease is resident;
* `live_lease_evicted`: a lease acquired during a sweep does not keep its session.
-/

namespace PiDaemon.Multiplexer

open Lib Heap Option OrderedMap

/-! ## The entries of the leases -/

section
variable (h : Host) (i : SlotId) (now : Nat)

/-- The count forgets the expired entries of the session. -/
theorem leaseEntry_residencyLeaseCount (sessionId : SessionId) (generation : Nat)
    (other : SessionId) (token : LeaseToken) :
    (h.residencyLeaseCount sessionId generation).1.leaseEntry other token =
      if sessionId = other then
        (h.leaseEntry other token).filter fun lease => !decide (lease.expiresAt ≤ h.clock)
      else h.leaseEntry other token := by
  unfold Host.residencyLeaseCount
  split
  · rename_i hnone
    split
    · rename_i e
      subst e
      unfold Host.leaseEntry
      rw [hnone]
      rfl
    · rfl
  · rename_i leases hleases
    have hlive := get?_delete_expired
      (fun lease : Lease => decide (lease.expiresAt ≤ h.clock)) leases token
    simp only [decide_eq_true_eq] at hlive
    simp only
    split
    · rename_i hzero
      unfold Host.leaseEntry
      split
      · rename_i e
        subst e
        rw [get?_delete_self, hleases, bind_some, ← hlive,
          get?_of_size_eq_zero hzero]
        rfl
      · rename_i e
        rw [get?_delete_ne _ e]
    · unfold Host.leaseEntry
      split
      · rename_i e
        subst e
        rw [get?_set_self, hleases, bind_some, bind_some, hlive]
      · rename_i e
        rw [get?_set_ne _ e]

/-- A count of zero leaves no entry of the generation. -/
theorem residencyLeaseCount_eq_zero {sessionId : SessionId} {generation : Nat}
    (hc : (h.residencyLeaseCount sessionId generation).2 = 0) {token : LeaseToken} {lease : Lease}
    (hl : (h.residencyLeaseCount sessionId generation).1.leaseEntry sessionId token = some lease) :
    lease.generation ≠ generation := by
  unfold Host.residencyLeaseCount at hc hl
  split at hc
  · rename_i hnone
    unfold Host.leaseEntry at hl
    simp only [hnone] at hl
    cases hl
  · rename_i leases hleases
    simp only [hleases] at hl
    generalize (leases.entries.foldl _ leases) = live at hc hl
    intro hg
    split at hl
    · unfold Host.leaseEntry at hl
      rw [get?_delete_self] at hl
      cases hl
    · rename_i hne
      unfold Host.leaseEntry at hl
      rw [get?_set_self] at hl
      rw [if_neg hne] at hc
      have hmem : (token, lease) ∈ live.entries.filter fun e => e.2.generation = generation := by
        rw [List.mem_filter]
        exact ⟨mem_entries.mpr hl, decide_eq_true hg⟩
      rw [List.length_eq_zero_iff.mp hc] at hmem
      cases hmem

theorem leaseEntry_sweepCheck (sessionId : SessionId) (token : LeaseToken) :
    (h.sweepCheck i now).1.leaseEntry sessionId token = h.leaseEntry sessionId token ∨
      (h.sweepCheck i now).1.leaseEntry sessionId token =
        (h.leaseEntry sessionId token).filter fun lease => !decide (lease.expiresAt ≤ h.clock) := by
  unfold Host.sweepCheck
  split
  · exact Or.inl rfl
  rw [leaseEntry_residencyLeaseCount]
  split
  · exact Or.inr rfl
  · exact Or.inl rfl

end

variable {h : Host} {i : SlotId} {sessionId : SessionId} {token : LeaseToken}

theorem leaseEntry_of_sweepCheck {now : Nat} {lease : Lease}
    (hl : (h.sweepCheck i now).1.leaseEntry sessionId token = some lease) :
    h.leaseEntry sessionId token = some lease := by
  rcases leaseEntry_sweepCheck h i now sessionId token with e | e <;> rw [e] at hl
  · exact hl
  · exact (filter_eq_some_iff.mp hl).1

theorem leaseEntry_sweepCheck_live {now : Nat} {lease : Lease}
    (hl : h.leaseEntry sessionId token = some lease) (hlive : h.clock < lease.expiresAt) :
    (h.sweepCheck i now).1.leaseEntry sessionId token = some lease := by
  rcases leaseEntry_sweepCheck h i now sessionId token with e | e <;> rw [e]
  · exact hl
  · rw [hl]
    exact filter_eq_some_iff.mpr ⟨rfl, by simp [Nat.not_le.mpr hlive]⟩

theorem leaseEntry_sweepCheck_false {now : Nat} (hc : (h.sweepCheck i now).2 = false)
    {lease : Lease} (hl : (h.sweepCheck i now).1.leaseEntry (h.slot i).sessionId token = some lease) :
    lease.generation ≠ (h.slot i).generation := by
  obtain ⟨-, -, e, hz⟩ := sweepCheck_false hc
  rw [e] at hl
  exact residencyLeaseCount_eq_zero h hz hl

theorem leaseEntry_set {h : Host} {sessionId : SessionId} {leases : OrderedMap LeaseToken Lease}
    {token : LeaseToken} {lease : Lease} {handles : Heap SessionResidencyLease}
    (hl : (h.residencyLeases.get? sessionId).getD .empty = leases) (other : SessionId)
    (t : LeaseToken) :
    { h with
        residencyLeases := h.residencyLeases.set sessionId (leases.set token lease)
        leases := handles }.leaseEntry other t =
      if sessionId = other ∧ token = t then some lease else h.leaseEntry other t := by
  unfold Host.leaseEntry
  rw [get?_set]
  by_cases e : sessionId = other
  · subst e
    rw [if_pos rfl, bind_some, get?_set]
    by_cases et : token = t
    · rw [if_pos et, if_pos ⟨rfl, et⟩]
    · rw [if_neg et, if_neg (fun h => et h.2), ← hl]
      cases h.residencyLeases.get? sessionId <;> rfl
  · rw [if_neg e, if_neg (fun h => e h.1)]

theorem leaseEntry_removeSession (h : Host) (sessionId other : SessionId) (token : LeaseToken) :
    (h.removeSession sessionId).leaseEntry other token =
      if sessionId = other then none else h.leaseEntry other token := by
  unfold Host.leaseEntry Host.removeSession
  rw [get?_delete]
  split <;> rfl

/-! ## The invariant -/

/-- Leases, sweeps and turns: the events other than `open`, `close` and
`replaceDormantSession`. -/
def HostEvent.sweepsOrLeases : HostEvent → Bool
  | .turn _ | .lease _ => true
  | .lifecycle (.sweepVisit _ _) | .lifecycle (.start _) | .lifecycle (.resume _ _) => true
  | .lifecycle _ => false

/-- A sweep has closed the slot and has not settled. -/
def Host.sweeping (h : Host) (i : SlotId) : Bool :=
  (List.range h.ops.next).any fun o =>
    (h.op o).pc.sweeping && decide ((h.op o).request.swept = some i)

/-- An acquisition passes its checks on a slot that is being swept. -/
def AcquiresSwept (h : Host) : HostEvent → Prop
  | .lease (.acquire sessionId generation ttl) =>
    ttl ≠ 0 ∧ h.leaseCount < MAX_RESIDENCY_LEASES ∧
      ((h.sessions.get? sessionId).any fun i =>
        decide (generation = (h.slot i).generation) && h.sweeping i) = true
  | _ => False

/-- The lease is neither released nor expired. -/
def SessionResidencyLease.Live (lease : SessionResidencyLease) (clock : Nat) : Prop :=
  lease.released = false ∧ clock < lease.expiresAt

structure LeaseInv (h : Host) : Prop where
  residency : ResidencyInv h
  sweeps : ∀ o < h.ops.next, (h.op o).request.swept.isSome = true
  named : ∀ sessionId i, h.sessions.get? sessionId = some i → (h.slot i).sessionId = sessionId
  /-- A session that is being swept has no lease. -/
  swept : ∀ o < h.ops.next, (h.op o).pc.sweeping = true → ∀ token,
    h.leaseEntry (h.op o).request.sessionId token = none
  resident : ∀ sessionId token lease, h.leaseEntry sessionId token = some lease →
    ∃ i, h.sessions.get? sessionId = some i ∧ (h.slot i).generation = lease.generation
  live : ∀ token < h.leases.next, (h.leases.cell token).Live h.clock →
    h.leaseEntry (h.leases.cell token).sessionId token =
      some ⟨(h.leases.cell token).generation, (h.leases.cell token).expiresAt⟩

/-- A step that writes no lease: entries only expire, and a session leaves `#sessions`
only when it has no entry. -/
structure Expires (h g : Host) : Prop where
  sessions : ∀ sessionId, g.sessions.get? sessionId = h.sessions.get? sessionId ∨
    g.sessions.get? sessionId = none ∧ ∀ token, h.leaseEntry sessionId token = none
  sessionId : ∀ i, (g.slot i).sessionId = (h.slot i).sessionId
  generation : ∀ i, (g.slot i).generation = (h.slot i).generation
  entries : ∀ sessionId token lease, g.leaseEntry sessionId token = some lease →
    h.leaseEntry sessionId token = some lease
  live : ∀ sessionId token lease, h.leaseEntry sessionId token = some lease →
    h.clock < lease.expiresAt → g.leaseEntry sessionId token = some lease
  leases : g.leases = h.leases
  clock : h.clock ≤ g.clock

theorem Expires.of_same {h g : Host} (hs : g.sessions = h.sessions)
    (hid : ∀ i, (g.slot i).sessionId = (h.slot i).sessionId)
    (hg : ∀ i, (g.slot i).generation = (h.slot i).generation)
    (hr : g.residencyLeases = h.residencyLeases) (hl : g.leases = h.leases)
    (hc : h.clock ≤ g.clock) : Expires h g := by
  have hentry : ∀ sessionId token, g.leaseEntry sessionId token = h.leaseEntry sessionId token := by
    intro sessionId token
    unfold Host.leaseEntry
    rw [hr]
  refine ⟨fun sessionId => Or.inl (by rw [hs]), hid, hg, fun sessionId token lease he => ?_,
    fun sessionId token lease he _ => ?_, hl, hc⟩
  · rwa [hentry] at he
  · rwa [hentry]

theorem Expires.refl (h : Host) : Expires h h :=
  Expires.of_same rfl (fun _ => rfl) (fun _ => rfl) rfl rfl (Nat.le_refl _)

theorem Expires.setSlot {h g : Host} (he : Expires h g) (i : SlotId) {f : SessionSlot → SessionSlot}
    (hid : ∀ s, (f s).sessionId = s.sessionId) (hg : ∀ s, (f s).generation = s.generation) :
    Expires h (g.setSlot i f) :=
  ⟨he.sessions, fun j => (Host.slot_setSlot (·.sessionId) g i hid j).trans (he.sessionId j),
    fun j => (Host.slot_setSlot (·.generation) g i hg j).trans (he.generation j), he.entries, he.live,
    he.leases, he.clock⟩

theorem expires_sweepCheck (h : Host) (i : SlotId) (now : Nat) :
    Expires h (h.sweepCheck i now).1 := by
  obtain ⟨h1, h2⟩ := slots_sweepCheck h i now
  have hf := frame_sweepCheck h i now
  have hslot : ∀ j, (h.sweepCheck i now).1.slot j = h.slot j := fun j => congrArg (·.cell j) h1
  exact ⟨fun sessionId => Or.inl (by rw [h2]), fun j => by rw [hslot], fun j => by rw [hslot],
    fun _ _ _ => leaseEntry_of_sweepCheck, fun _ _ _ => leaseEntry_sweepCheck_live, hf.leases,
    Nat.le_of_eq hf.clock.symm⟩

theorem expires_removeSession (hn : ∀ token, h.leaseEntry sessionId token = none) :
    Expires h (h.removeSession sessionId) := by
  refine ⟨fun other => ?_, fun _ => rfl, fun _ => rfl, fun other token lease he => ?_,
    fun other token lease he _ => ?_, rfl, Nat.le_refl _⟩
  · have hread : (h.removeSession sessionId).sessions.get? other =
        if sessionId = other then none else h.sessions.get? other := get?_delete _ _ _
    by_cases e : sessionId = other
    · exact Or.inr ⟨hread.trans (if_pos e), e ▸ hn⟩
    · exact Or.inl (hread.trans (if_neg e))
  · rw [leaseEntry_removeSession] at he
    split at he
    · cases he
    · exact he
  · rw [leaseEntry_removeSession]
    split
    · rename_i e
      rw [← e, hn] at he
      cases he
    · exact he

theorem LeaseInv.of_expires {h h' : Host} (hi : LeaseInv h) (hr : ResidencyInv h')
    (he : Expires h h')
    (hops : ∀ o < h'.ops.next, (h'.op o).request.swept.isSome = true ∧
      ((h'.op o).pc.sweeping = true → ∀ token,
        h'.leaseEntry (h'.op o).request.sessionId token = none)) : LeaseInv h' := by
  refine ⟨hr, fun o ho => (hops o ho).1, fun sessionId i hg => ?_, fun o ho => (hops o ho).2,
    fun sessionId token lease hl => ?_, fun token ht hlv => ?_⟩
  · rcases he.sessions sessionId with e | ⟨e, -⟩ <;> rw [e] at hg
    · rw [he.sessionId]
      exact hi.named sessionId i hg
    · cases hg
  · have hl := he.entries sessionId token lease hl
    obtain ⟨i, hg, hgen⟩ := hi.resident sessionId token lease hl
    rcases he.sessions sessionId with e | ⟨-, hn⟩
    · exact ⟨i, e.trans hg, (he.generation i).trans hgen⟩
    · rw [hn token] at hl
      cases hl
  · rw [he.leases] at ht hlv ⊢
    have hc := Nat.lt_of_le_of_lt he.clock hlv.2
    exact he.live _ token _ (hi.live token ht ⟨hlv.1, hc⟩) hc

theorem LeaseInv.old_op {h h' : Host} (hi : LeaseInv h) (he : Expires h h') {o : OpId}
    (ho : o < h.ops.next) (hop : h'.op o = h.op o) :
    (h'.op o).request.swept.isSome = true ∧ ((h'.op o).pc.sweeping = true → ∀ token,
      h'.leaseEntry (h'.op o).request.sessionId token = none) := by
  rw [hop]
  refine ⟨hi.sweeps o ho, fun hs token => ?_⟩
  cases hl : h'.leaseEntry (h.op o).request.sessionId token with
  | none => rfl
  | some =>
    have := he.entries _ _ _ hl
    rw [hi.swept o ho hs] at this
    cases this

/-! ## Sweeps -/

/-- The session of a slot that a sweep closes has no entry. -/
theorem LeaseInv.swept_of_check (hi : LeaseInv h) {now : Nat}
    (hres : h.sessions.get? sessionId = some i) (hc : (h.sweepCheck i now).2 = false)
    (token : LeaseToken) : (h.sweepCheck i now).1.leaseEntry sessionId token = none := by
  cases hl : (h.sweepCheck i now).1.leaseEntry sessionId token with
  | none => rfl
  | some lease =>
    obtain ⟨_, hj, hg⟩ := hi.resident sessionId token lease (leaseEntry_of_sweepCheck hl)
    rw [hres] at hj
    cases hj
    rw [← hi.named sessionId i hres] at hl
    exact absurd hg.symm (leaseEntry_sweepCheck_false hc hl)

/-- What a step of a sweep does to the leases. -/
theorem LeaseInv.effect {h g : Host} {o : OpId} {x' : LifecycleOp} (hi : LeaseInv h)
    (ho : o < h.ops.next) (he : Effect h (h.op o) g x') :
    Expires h g ∧ (x'.pc.sweeping = true → ∀ token,
      g.leaseEntry (h.op o).request.sessionId token = none) := by
  have hsw := hi.sweeps o ho
  have hold : ∀ {pc}, (h.op o).pc = pc → pc.sweeping = true → ∀ token,
      h.leaseEntry (h.op o).request.sessionId token = none := by
    intro pc hpc hs
    exact hi.swept o ho (by rw [hpc]; exact hs)
  cases he with
  | go hg => exact ⟨Expires.refl h, fun hs => hold rfl (hg.sweeping hs)⟩
  | finish _ _ hpc =>
    refine ⟨Expires.refl h, fun hs => ?_⟩
    rw [hpc] at hs
    cases hs
  | sweepPass => exact ⟨expires_sweepCheck h _ _, fun hs => Bool.noConfusion hs⟩
  | sweepClose hreq _ hres hcheck =>
    refine ⟨(expires_sweepCheck h _ _).setSlot _ (fun _ => rfl) fun _ => rfl, fun _ token => ?_⟩
    rw [hreq]
    exact hi.swept_of_check hres hcheck token
  | sweepDispose _ hpc =>
    exact ⟨(Expires.refl h).setSlot _ (fun _ => rfl) fun _ => rfl, fun _ => hold hpc rfl⟩
  | sweepFailed =>
    exact ⟨(Expires.refl h).setSlot _ (fun _ => rfl) fun _ => rfl, fun hs => Bool.noConfusion hs⟩
  | sweepLost => exact ⟨Expires.refl h, fun hs => Bool.noConfusion hs⟩
  | evict hreq hpc =>
    refine ⟨expires_removeSession ?_, fun hs => Bool.noConfusion hs⟩
    have := hold hpc rfl
    rwa [hreq] at this
  | @evictDormant sessionId _ _ dormant hreq hpc =>
    refine ⟨?_, fun hs => Bool.noConfusion hs⟩
    have hn := hold hpc rfl
    rw [hreq] at hn
    obtain ⟨h1, h2, h3, h4, h5, h6, h7⟩ := expires_removeSession hn
    exact ⟨h1, h2, h3, h4, h5, h6, h7⟩
  | _ => simp_all [LifecycleRequest.swept]

theorem LeaseInv.makes {h h' : Host} {o : OpId} (hi : LeaseInv h) (ho : o < h.ops.next)
    (hr : ResidencyInv h') (hm : Makes h o h') : LeaseInv h' := by
  obtain ⟨g, x', he, hops, rfl⟩ := hm
  obtain ⟨hx, hs⟩ := hi.effect ho he
  have hx : Expires h (g.putOp o x') :=
    ⟨hx.sessions, hx.sessionId, hx.generation, hx.entries, hx.live, hx.leases, hx.clock⟩
  refine hi.of_expires hr hx fun p hp => ?_
  have hread : (g.putOp o x').op p = if p = o then x' else h.op p := by
    rw [op_putOp]
    unfold Host.op
    rw [hops]
  by_cases e : p = o
  · rw [hread, if_pos e, he.op.1]
    exact ⟨hi.sweeps o ho, hs⟩
  refine hi.old_op hx ?_ (hread.trans (if_neg e))
  rw [← hops]
  exact hp

/-! ## Leases -/

theorem Host.sweeping_of_op {o : OpId} (ho : o < h.ops.next) (hs : (h.op o).pc.sweeping = true)
    (hi : (h.op o).request.swept = some i) : h.sweeping i = true := by
  refine List.any_eq_true.mpr ⟨o, List.mem_range.mpr ho, ?_⟩
  rw [hs, hi]
  simp

/-- The slot that a sweep disposes is the resident one. -/
theorem LeaseInv.sweeping_resident (hi : LeaseInv h) {o : OpId} (ho : o < h.ops.next)
    (hs : (h.op o).pc.sweeping = true) : ∃ i, (h.op o).request.swept = some i ∧
      h.sessions.get? (h.op o).request.sessionId = some i := by
  obtain ⟨i, hsw⟩ := isSome_iff_exists.mp (hi.sweeps o ho)
  have hl : (h.op o).request.locks = true := by
    cases hr : (h.op o).request with
    | replaceDormant =>
      rw [hr] at hsw
      cases hsw
    | _ => rfl
  refine ⟨i, hsw, hi.residency.known o ho hl (some i) ?_⟩
  unfold LifecycleOp.known
  rw [← hsw]
  cases hpc : (h.op o).pc with
  | sweepClosing | sweepDispose | sweepCatalog => rfl
  | _ =>
    rw [hpc] at hs
    cases hs

theorem LeaseInv.of_write {h h' : Host} (hi : LeaseInv h) (hr : ResidencyInv h')
    {entry : Option Lease} (hops : h'.ops = h.ops) (hs : h'.sessions = h.sessions)
    (hslots : h'.slots = h.slots) (hc : h'.clock = h.clock)
    (hentry : ∀ other t, h'.leaseEntry other t =
      if sessionId = other ∧ token = t then entry else h.leaseEntry other t)
    (hnew : ∀ lease, entry = some lease → (∀ o < h.ops.next, (h.op o).pc.sweeping = true →
        (h.op o).request.sessionId ≠ sessionId) ∧
      ∃ i, h.sessions.get? sessionId = some i ∧ (h.slot i).generation = lease.generation)
    (hself : token < h'.leases.next → (h'.leases.cell token).Live h.clock →
      (h'.leases.cell token).sessionId = sessionId ∧ entry =
        some ⟨(h'.leases.cell token).generation, (h'.leases.cell token).expiresAt⟩)
    (hother : ∀ t < h'.leases.next, t ≠ token → t < h.leases.next ∧
      h'.leases.cell t = h.leases.cell t) : LeaseInv h' := by
  have hslot : ∀ i, h'.slot i = h.slot i := fun i => congrArg (·.cell i) hslots
  have hop : ∀ o, h'.op o = h.op o := fun o => congrArg (·.cell o) hops
  refine ⟨hr, fun o ho => ?_, fun other i hg => ?_, fun o ho hsw t => ?_, fun other t lease hl => ?_,
    fun t ht hlv => ?_⟩
  · rw [hop]
    exact hi.sweeps o (hops ▸ ho)
  · rw [hslot]
    exact hi.named other i (hs ▸ hg)
  · rw [hop] at hsw ⊢
    have ho : o < h.ops.next := hops ▸ ho
    rw [hentry]
    split
    · rename_i e
      cases he : entry with
      | none => rfl
      | some lease => exact absurd e.1.symm ((hnew lease he).1 o ho hsw)
    · exact hi.swept o ho hsw t
  · rw [hentry] at hl
    rw [hs]
    simp only [hslot]
    split at hl
    · rename_i e
      rw [← e.1]
      exact (hnew lease hl).2
    · exact hi.resident other t lease hl
  · rw [hc] at hlv
    by_cases e : t = token
    · subst e
      obtain ⟨hid, he⟩ := hself ht hlv
      rw [hentry, hid, if_pos ⟨rfl, rfl⟩]
      exact he
    · obtain ⟨ht, hcell⟩ := hother t ht e
      rw [hcell] at hlv ⊢
      rw [hentry, if_neg fun h => e h.2.symm]
      exact hi.live t ht hlv

theorem LeaseInv.acquire {h h' : Host} (hi : LeaseInv h) {generation ttl : Nat} (ht : ttl ≠ 0)
    (hok : ¬ AcquiresSwept h (.lease (.acquire sessionId generation ttl))) (hr : ResidencyInv h')
    (ha : h.acquireResidencyLease sessionId generation ttl = .ok h') : LeaseInv h' := by
  unfold Host.acquireResidencyLease at ha
  split at ha
  · cases ha
  rename_i i hres
  split at ha
  · cases ha
  rename_i hgen
  have hgen := Decidable.not_not.mp hgen
  split at ha
  · cases ha
  rename_i hcap
  cases ha
  refine hi.of_write hr rfl rfl rfl rfl (leaseEntry_set rfl) ?_ ?_ ?_
  · intro lease he
    cases he
    refine ⟨fun o ho hsw hid => hok ⟨ht, Nat.lt_of_not_le hcap, ?_⟩, i, hres, hgen.symm⟩
    obtain ⟨_, hj, hres'⟩ := hi.sweeping_resident ho hsw
    rw [hid, hres] at hres'
    cases hres'
    show (Option.any _ (h.sessions.get? sessionId)) = true
    rw [hres, any_some, hgen, Host.sweeping_of_op ho hsw hj]
    simp
  · intro _ _
    rw [cell_alloc_self]
    exact ⟨rfl, rfl⟩
  · intro t ht hne
    have ht : t < h.leases.next := by
      rcases Nat.lt_succ_iff_lt_or_eq.mp ht with hlt | he
      · exact hlt
      · exact absurd he hne
    exact ⟨ht, cell_alloc_lt _ ht _⟩

theorem renewLease_cases (h : Host) (token : LeaseToken) : h.renewLease token = h ∨
    ∃ leases current, h.residencyLeases.get? (h.leases.cell token).sessionId = some leases ∧
      leases.get? token = some current ∧
      current.generation = (h.leases.cell token).generation ∧
      h.renewLease token = { h with
        residencyLeases := h.residencyLeases.set (h.leases.cell token).sessionId
          (leases.set token { current with expiresAt := h.clock + (h.leases.cell token).ttl })
        leases := h.leases.set token
          { h.leases.cell token with expiresAt := h.clock + (h.leases.cell token).ttl } } := by
  unfold Host.renewLease
  simp only
  split
  · exact Or.inl rfl
  split
  · exact Or.inl rfl
  rename_i leases hleases
  split
  · exact Or.inl rfl
  rename_i current hcurrent
  split
  · exact Or.inl rfl
  · rename_i hgen
    exact Or.inr ⟨leases, current, hleases, hcurrent, Decidable.not_not.mp hgen, rfl⟩

theorem LeaseInv.renew (hi : LeaseInv h) (hr : ResidencyInv (h.renewLease token)) :
    LeaseInv (h.renewLease token) := by
  rcases renewLease_cases h token with e | ⟨_, current, hleases, hcurrent, hgen, e⟩ <;>
    rw [e] at hr ⊢
  · exact hi
  have hentry : h.leaseEntry (h.leases.cell token).sessionId token = some current := by
    unfold Host.leaseEntry
    rw [hleases]
    exact hcurrent
  refine hi.of_write hr rfl rfl rfl rfl (leaseEntry_set (by rw [hleases]; rfl)) ?_ ?_ ?_
  · intro lease he
    cases he
    refine ⟨fun o ho hsw hid => ?_, hi.resident _ token current hentry⟩
    have := hi.swept o ho hsw token
    rw [hid, hentry] at this
    cases this
  · intro _ _
    rw [cell_set_self]
    exact ⟨rfl, by rw [hgen]⟩
  · intro t ht hne
    exact ⟨ht, cell_set_ne _ hne _⟩

theorem releaseLease_cases (h : Host) (token : LeaseToken) : h.releaseLease token = h ∨
    ∃ residencyLeases, h.releaseLease token = { h with
        residencyLeases := residencyLeases
        leases := h.leases.set token { h.leases.cell token with released := true } } ∧
      ∀ other t, (h.releaseLease token).leaseEntry other t =
        if (h.leases.cell token).sessionId = other ∧ token = t then none
        else h.leaseEntry other t := by
  unfold Host.releaseLease
  simp only
  split
  · exact Or.inl rfl
  generalize (h.leases.cell token).sessionId = sessionId
  generalize h.leases.set token _ = handles
  split
  · rename_i hnone
    refine Or.inr ⟨h.residencyLeases, rfl, fun other t => ?_⟩
    split
    · rename_i e
      unfold Host.leaseEntry
      rw [← e.1, hnone]
      rfl
    · rfl
  · rename_i leases hleases
    refine Or.inr ⟨_, rfl, fun other t => ?_⟩
    unfold Host.leaseEntry
    by_cases e : sessionId = other
    · subst e
      rw [hleases]
      have hget : (if (leases.delete token).size = 0 then h.residencyLeases.delete sessionId
          else h.residencyLeases.set sessionId (leases.delete token)).get? sessionId =
            if (leases.delete token).size = 0 then none else some (leases.delete token) := by
        split
        · exact get?_delete_self _ _
        · exact get?_set_self _ _ _
      have hread : (if (leases.delete token).size = 0 then none
          else some (leases.delete token)).bind (fun leases => leases.get? t) =
            (leases.delete token).get? t := by
        split
        · rename_i hz
          exact (get?_of_size_eq_zero hz t).symm
        · rfl
      rw [hget, hread, get?_delete]
      simp
    · have hget : (if (leases.delete token).size = 0 then h.residencyLeases.delete sessionId
          else h.residencyLeases.set sessionId (leases.delete token)).get? other =
            h.residencyLeases.get? other := by
        split
        · exact get?_delete_ne _ e
        · exact get?_set_ne _ e _
      rw [hget, if_neg fun h => e h.1]

theorem LeaseInv.release (hi : LeaseInv h) (hr : ResidencyInv (h.releaseLease token)) :
    LeaseInv (h.releaseLease token) := by
  rcases releaseLease_cases h token with e | ⟨_, e, hentry⟩
  · rw [e]
    exact hi
  rw [e] at hr hentry ⊢
  refine hi.of_write hr rfl rfl rfl rfl hentry (fun _ he => by cases he) ?_ ?_
  · intro _ hlv
    rw [cell_set_self] at hlv
    cases hlv.1
  · intro t ht hne
    exact ⟨ht, cell_set_ne _ hne _⟩

/-! ## Runs -/

theorem LeaseInv.step {h h' : Host} {e : HostEvent} (hi : LeaseInv h)
    (hev : e.sweepsOrLeases = true) (hok : ¬ AcquiresSwept h e) (hs : hostStep h e = some h') :
    LeaseInv h' := by
  have hr := hi.residency.step hs
  cases e with
  | turn =>
    have hf := frame_step hs
    have hid : ∀ i, (h'.slot i).sessionId = (h.slot i).sessionId ∧
        (h'.slot i).generation = (h.slot i).generation := fun i =>
      ⟨congrArg (·.1) (hf.identity i), congrArg (·.2.1) (hf.identity i)⟩
    have hx : Expires h h' := Expires.of_same hf.sessions (fun i => (hid i).1) (fun i => (hid i).2)
      hf.residencyLeases hf.leases hf.clock
    refine hi.of_expires hr hx fun o ho => hi.old_op hx (hf.ops ▸ ho) ?_
    exact congrArg (·.cell o) hf.ops
  | lifecycle e =>
    cases lifecycleStep_cases hs with
    | idle => exact hi
    | link _ request _ _ hcalls =>
      cases e with
      | «open» => cases hev
      | close => cases hev
      | _ => cases hcalls
    | visit i now =>
      have hf := frame_sweepCheck h i now
      refine hi.of_expires hr (expires_sweepCheck h i now) fun o ho =>
        hi.old_op (expires_sweepCheck h i now) (hf.ops ▸ ho) ?_
      exact congrArg (·.cell o) hf.ops
    | linkSweep i now =>
      have hf := frame_sweepCheck h i now
      obtain ⟨h1, h2, h3, h4, h5, h6, h7⟩ := expires_sweepCheck h i now
      have hx : Expires h
          ((h.sweepCheck i now).1.withLifecycle (.sweep (h.slot i).sessionId i now)) :=
        ⟨h1, h2, h3, h4, h5, h6, h7⟩
      refine hi.of_expires hr hx fun o ho => ?_
      rcases ops_withLifecycle _ _ o ho with ⟨hold, e⟩ | ⟨hpc, hreq⟩
      · exact hi.old_op hx (hf.ops ▸ hold) (e.trans (congrArg (·.cell o) hf.ops))
      · rw [hreq, hpc]
        exact ⟨rfl, fun hs => Bool.noConfusion hs⟩
    | callReplace => cases hev
    | start o ho _ _ hm | resume o _ ho _ _ hm => exact hi.makes ho hr hm
  | lease e =>
    cases e with
    | acquire =>
      simp only [hostStep, leaseStep] at hs
      split at hs
      · cases hs
        exact hi
      rename_i ht
      split at hs <;> cases hs
      · rename_i ha
        exact hi.acquire ht hok hr ha
      · exact hi
    | renew =>
      simp only [hostStep, leaseStep] at hs
      split at hs <;> cases hs
      exact hi.renew hr
    | release =>
      simp only [hostStep, leaseStep] at hs
      split at hs <;> cases hs
      exact hi.release hr

/-- A host without leases and lifecycle operations. -/
structure Leaseless (h : Host) : Prop extends Quiet h where
  named : ∀ sessionId i, h.sessions.get? sessionId = some i → (h.slot i).sessionId = sessionId
  leases : h.leases.next = 0
  residencyLeases : h.residencyLeases = .empty

theorem Leaseless.leaseInv (hl : Leaseless h) : LeaseInv h := by
  have hno : ∀ o, ¬ o < h.ops.next := fun o => by
    rw [hl.ops]
    exact Nat.not_lt_zero o
  refine ⟨hl.toQuiet.residencyInv, fun o ho => absurd ho (hno o), hl.named,
    fun o ho => absurd ho (hno o), fun sessionId token lease he => ?_, fun token ht => ?_⟩
  · unfold Host.leaseEntry at he
    rw [hl.residencyLeases] at he
    cases he
  · rw [hl.leases] at ht
    exact absurd ht (Nat.not_lt_zero token)

/-- **Leases protect residency.**  In a run of leases, sweeps, turns and clock advances
in which no lease is acquired on a slot that is being swept, the session of every lease
that is neither released nor expired is resident with the generation of the lease. -/
theorem live_leases_resident {h h' : Host} {es : List HostEvent} (hl : Leaseless h)
    (hev : ∀ e ∈ es, e.sweepsOrLeases = true)
    (hok : Meets hostStep (fun h e => ¬ AcquiresSwept h e) h es) (hr : run hostStep h es = some h') :
    ∀ token < h'.leases.next, (h'.leases.cell token).Live h'.clock →
      ∃ i, h'.sessions.get? (h'.leases.cell token).sessionId = some i ∧
        (h'.slot i).generation = (h'.leases.cell token).generation := by
  have hi : LeaseInv h' :=
    run_invariant_of_meets (fun _ _ _ hi hok hs => LeaseInv.step hi hok.1 hok.2 hs) hl.leaseInv
      (meets_and hev hok) hr
  intro token ht hlv
  exact hi.resident _ _ _ (hi.live token ht hlv)

instance (h : Host) : (e : HostEvent) → Decidable (AcquiresSwept h e)
  | .lease (.acquire _ _ _) => inferInstanceAs (Decidable (_ ∧ _ ∧ _ = true))
  | .lease (.renew _) => .isFalse id
  | .lease (.release _) => .isFalse id
  | .turn _ => .isFalse id
  | .lifecycle _ => .isFalse id

instance (lease : SessionResidencyLease) (clock : Nat) : Decidable (lease.Live clock) :=
  inferInstanceAs (Decidable (_ ∧ _))

/-- A host that sweeps, with one resident session. -/
def Host.idle (sessionId : SessionId) : Host :=
  (Host.new DEFAULT_MULTIPLEXER_LIMITS false false 1 0).insertSlot
    (SessionSlot.opened sessionId 1 [] false 0)

theorem Host.idle_leaseless (sessionId : SessionId) : Leaseless (Host.idle sessionId) := by
  refine ⟨⟨rfl, rfl⟩, fun id i hr => ?_, rfl, rfl⟩
  have hr : (if sessionId = id then some 0 else none) = some i :=
    (get?_set .empty sessionId id 0).symm.trans hr
  split at hr <;> cases hr
  rename_i e
  exact (congrArg SessionSlot.sessionId (cell_alloc_self _ _)).trans e

/-- A sweep passes over a leased session, before and after a renewal. -/
theorem live_leases_resident_renewed :
    let es : List HostEvent :=
      [.lease (.acquire [115] 1 10), .turn (.tick 5), .lifecycle (.sweepVisit 0 5),
        .lease (.renew 0), .turn (.tick 7), .lifecycle (.sweepVisit 0 12)]
    ∃ h', run hostStep (Host.idle [115]) es = some h' ∧ (h'.leases.cell 0).Live h'.clock ∧
      ∃ i, h'.sessions.get? (h'.leases.cell 0).sessionId = some i ∧
        (h'.slot i).generation = (h'.leases.cell 0).generation := by
  intro es
  have hlive : ∃ h', run hostStep (Host.idle [115]) es = some h' ∧ 0 < h'.leases.next ∧
      (h'.leases.cell 0).Live h'.clock := by
    decide +kernel
  obtain ⟨h', hr, hlt, hlive⟩ := hlive
  exact ⟨h', hr, hlive,
    live_leases_resident (Host.idle_leaseless [115]) (by decide) (by decide +kernel) hr 0 hlt hlive⟩

/-- A lease is acquired while the sweep disposes the adapter. -/
theorem live_lease_evicted :
    ∃ (h : Host) (es : List HostEvent) (h' : Host), Leaseless h ∧
      (∀ e ∈ es, e.sweepsOrLeases = true) ∧ run hostStep h es = some h' ∧
      0 < h'.leases.next ∧ (h'.leases.cell 0).Live h'.clock ∧
      h'.sessions.get? (h'.leases.cell 0).sessionId = none := by
  refine ⟨Host.idle [115], [.lifecycle (.sweepVisit 0 1), .lifecycle (.start 0),
    .lifecycle (.resume 0 .ok), .lease (.acquire [115] 1 10), .lifecycle (.resume 0 .ok)], ?_⟩
  simp only [exists_and_left]
  exact ⟨Host.idle_leaseless [115], by decide, by decide +kernel⟩

end PiDaemon.Multiplexer
