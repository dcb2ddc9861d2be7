import PiDaemon.Multiplexer.GenerationSteps

/-!
# The generations of a session

`open` compares its generation with the resident slot, with the catalog record of a
session that is not resident, and with the retained tool adapter policy.  The resident
slot stands for the record, because `open` writes the record before it inserts the slot.
`replaceDormantSession` does not take the lifecycle lock, so it can raise the generation
of the record in between, or of a resident session.

* `GenerationInv.step`: the slot of a resident session has the generation of its record;
* `generations_nondecreasing`: the generations never go backwards in a run in which
  `replaceDormantSession` raises no record of a resident or opening session;
* `lower_open_disposes`: a raised record lets a later open of a lower generation dispose
  the resident adapter.
-/

namespace PiDaemon.Multiplexer

open Lib LifecycleOp List

/-! ## The condition -/

/-- An open of the session has read the record and not checked it, or has written the
record and not inserted the slot. -/
def Host.between (h : Host) (sessionId : SessionId) : Bool :=
  (List.range h.ops.next).any fun o =>
    decide ((h.op o).request.sessionId = sessionId) &&
      (decide ((h.op o).pc = .openChecks) || decide ((h.op o).pc = .openManifest))

/-- The commit of `replaceDormantSession` raises the generation of a session that is
resident, or that an open has looked up. -/
def Raises (h : Host) (x : LifecycleOp) : LifecycleRequest → Prop
  | .replaceDormant sessionId input =>
    x.pc = .replaceCommit ∧ (catalogReplace h.catalog sessionId input).toBool = true ∧
      h.retainedGeneration sessionId ≠ some input.generation ∧
      (h.sessions.has sessionId || h.between sessionId) = true
  | _ => False

def RaisesUnlocked (h : Host) : HostEvent → Prop
  | .lifecycle (.resume _ (.error _)) => False
  | .lifecycle (.resume o _) => Raises h (h.op o) (h.op o).request
  | _ => False

/-- The events other than a `close` that deletes the session. -/
def HostEvent.retains : HostEvent → Bool
  | .lifecycle (.close _ _ retainArtifacts) => retainArtifacts
  | _ => true

/-! ## The invariant -/

structure GenerationInv (h : Host) : Prop where
  residency : ResidencyInv h
  hasCatalog : h.hasCatalog = true
  retaining : ∀ o < h.ops.next, (h.op o).request.deletes = false ∧ (h.op o).pc.deleting = false
  resident : ∀ sessionId i, h.sessions.get? sessionId = some i →
    i < h.slots.next ∧ h.retainedGeneration sessionId = some (h.slot i).generation
  /-- The tool adapter policy of a resident session is the one of its slot. -/
  adapters : ∀ sessionId i policy, h.sessions.get? sessionId = some i →
    h.toolAdapterPolicies.get? sessionId = some policy → policy.generation = (h.slot i).generation
  adapting : ∀ o < h.ops.next, ∀ command, (h.op o).request = .open command →
    (h.op o).pc.passed = true → AdapterKept h.toolAdapterPolicies command (h.op o)
  reading : ∀ o < h.ops.next, ∀ command, (h.op o).request = .open command →
    (h.op o).pc = .openChecks →
    (h.op o).retained.map (·.generation) = h.retainedGeneration command.sessionId
  writing : ∀ o < h.ops.next, ∀ command, (h.op o).request = .open command →
    (h.op o).pc = .openManifest → h.retainedGeneration command.sessionId = some command.generation
  replacing : ∀ o < h.ops.next, ∀ command i, (h.op o).request = .open command →
    (h.op o).pc = .openDispose → (h.op o).existing = some i →
    (h.slot i).generation < command.generation
  logged : ∀ p ∈ h.openLog, ∃ n, h.retainedGeneration p.1 = some n ∧ p.2 ≤ n
  sorted : h.openLog.Pairwise fun p q => p.1 = q.1 → p.2 ≤ q.2

/-- The generations of the records of `h'` are not lower. -/
def Climbs (h h' : Host) : Prop :=
  ∀ sessionId n, h.retainedGeneration sessionId = some n →
    ∃ n', h'.retainedGeneration sessionId = some n' ∧ n ≤ n'

theorem Climbs.refl (h : Host) : Climbs h h := fun _ n hn => ⟨n, hn, Nat.le_refl n⟩

theorem Climbs.trans {a b c : Host} (h : Climbs a b) (h' : Climbs b c) : Climbs a c := by
  intro sessionId n hn
  obtain ⟨m, hm, hle⟩ := h sessionId n hn
  obtain ⟨k, hk, hle'⟩ := h' sessionId m hm
  exact ⟨k, hk, Nat.le_trans hle hle'⟩

theorem Writes.climbs {h g : Host} {sessionId : SessionId} {generation : Nat}
    (hw : Writes h g sessionId generation) : Climbs h g := by
  intro other n hn
  rw [hw.written]
  split
  · rename_i e
    exact ⟨generation, rfl, hw.le n (e ▸ hn)⟩
  · exact ⟨n, hn, Nat.le_refl n⟩

theorem Climbs.of_same {h g : Host}
    (hs : ∀ sessionId, g.retainedGeneration sessionId = h.retainedGeneration sessionId) :
    Climbs h g := fun sessionId n hn => ⟨n, (hs sessionId).trans hn, Nat.le_refl n⟩

theorem Retains.climbs {h g : Host} {x x' : LifecycleOp} (hr : Retains h x g x') : Climbs h g := by
  cases hr with
  | same hs => exact Climbs.of_same hs
  | «open» _ _ _ hw | replace _ _ _ _ _ _ hw => exact hw.climbs

/-! ## Steps of an operation -/

section
variable {h g : Host} {o : OpId} {x' : LifecycleOp}

/-- An operation that waits with what it has read of its session. -/
def Host.Awaits (h : Host) (p : OpId) (sessionId : SessionId) : Prop :=
  p < h.ops.next ∧ (h.op p).request.locks = true ∧ (h.op p).request.sessionId = sessionId ∧
    ((h.op p).pc = .openChecks ∨ (h.op p).pc = .openManifest)

variable {sessionId : SessionId}

theorem Host.between_of_awaits {p : OpId} (hp : h.Awaits p sessionId) : h.between sessionId = true := by
  obtain ⟨hlt, -, hs, hpc⟩ := hp
  refine any_eq_true.mpr ⟨p, mem_range.mpr hlt, ?_⟩
  rcases hpc with e | e <;> simp [hs, e]

theorem Host.known_of_awaits {p : OpId} (hp : h.Awaits p sessionId) : ∃ r, (h.op p).known = some r := by
  rcases hp.2.2.2 with e | e
  · exact ⟨_, known_of_pc e⟩
  · exact ⟨_, known_of_pc e⟩

/-- The generation of a record is only written while the session is not resident and
no other operation waits with what it has read of it. -/
theorem GenerationInv.written (hi : GenerationInv h) (ho : o < h.ops.next)
    (hr : Retains h (h.op o) g x')
    (hok : x'.pc = .done .replaced → ¬ Raises h (h.op o) (h.op o).request)
    (sessionId : SessionId) :
    g.retainedGeneration sessionId = h.retainedGeneration sessionId ∨
      h.sessions.get? sessionId = none ∧ ∀ p, h.Awaits p sessionId → p = o := by
  cases hr with
  | same hs => exact Or.inl (hs sessionId)
  | «open» command hreq hpc hw =>
    rw [hw.written]
    split
    · rename_i e
      right
      have hl : (h.op o).request.locks = true := by rw [hreq]; rfl
      have hsid : (h.op o).request.sessionId = sessionId := by rw [hreq]; exact e
      have hk : (h.op o).known = some none := known_of_pc hpc
      refine ⟨?_, fun p hp => ?_⟩
      · rw [← hsid]
        exact hi.residency.known o ho hl none hk
      obtain ⟨_, hkp⟩ := Host.known_of_awaits hp
      exact hi.residency.locks.unique (Host.active_of_known hp.1 hkp)
        (Host.active_of_known ho hk) hp.2.1 hl (hp.2.2.1.trans hsid.symm)
    · exact Or.inl rfl
  | replace target input next hreq hpc hn hw hdone =>
    obtain ⟨hgen, _, _, -⟩ := catalogReplace_generation hn
    rw [hw.written]
    split
    · rename_i e
      subst e
      by_cases hsame : h.retainedGeneration target = some input.generation
      · left
        rw [hsame, hgen]
      right
      have hok := hok hdone
      rw [hreq] at hok
      have hno : (h.sessions.has target || h.between target) = false := by
        rw [Bool.eq_false_iff]
        intro hb
        exact hok ⟨hpc, by rw [hn]; rfl, hsame, hb⟩
      rw [Bool.or_eq_false_iff] at hno
      refine ⟨OrderedMap.has_eq_false.mp hno.1, fun p hp => ?_⟩
      have := Host.between_of_awaits hp
      rw [hno.2] at this
      cases this
    · exact Or.inl rfl

/-- An open at an await that does not write the record keeps it. -/
theorem Retains.same_of_open {x : LifecycleOp} (hr : Retains h x g x') {command : OpenCommand}
    (hreq : x.request = .open command) (hpc : x.pc ≠ .openCatalog) (sessionId : SessionId) :
    g.retainedGeneration sessionId = h.retainedGeneration sessionId := by
  cases hr with
  | same hs => exact hs sessionId
  | «open» _ _ hpc' => exact absurd hpc' hpc
  | replace _ _ _ hreq' =>
    rw [hreq] at hreq'
    cases hreq'

section
variable (hi : GenerationInv h)
include hi

theorem GenerationInv.resident_step (ho : o < h.ops.next) (he : Effect h (h.op o) g x')
    (hr : Retains h (h.op o) g x') (hok : x'.pc = .done .replaced → ¬ Raises h (h.op o) (h.op o).request) {i : SlotId}
    (hg : g.sessions.get? sessionId = some i) :
    i < g.slots.next ∧ g.retainedGeneration sessionId = some (g.slot i).generation := by
  obtain ⟨hnext, hslots⟩ := he.generation
  rcases he.entry hg with hres | ⟨command, hreq, hpc, hsid, -, hlt, hgen⟩
  · obtain ⟨hlt, hrec⟩ := hi.resident sessionId i hres
    refine ⟨Nat.lt_of_lt_of_le hlt hnext, ?_⟩
    rcases hi.written ho hr hok sessionId with e | ⟨e, -⟩
    · rw [e, hrec, hslots i hlt]
    · rw [hres] at e
      cases e
  · refine ⟨hlt, ?_⟩
    rw [hr.same_of_open hreq (by rw [hpc]; exact LifecyclePc.noConfusion), ← hsid,
      hi.writing o ho command hreq hpc, hgen]

theorem GenerationInv.adapters_step (ho : o < h.ops.next) (he : Effect h (h.op o) g x')
    {i : SlotId} {policy : ToolAdapterPolicy} (hg : g.sessions.get? sessionId = some i)
    (hp : g.toolAdapterPolicies.get? sessionId = some policy) : policy.generation = (g.slot i).generation := by
  obtain ⟨hd, hdel⟩ := hi.retaining o ho
  rcases he.entry hg with hres | ⟨command, hreq, hpc, hsid, e, -, hgen⟩
  · rw [he.generation.2 i (hi.resident sessionId i hres).1]
    refine hi.adapters sessionId i policy hres ?_
    rcases he.policies (hi.residency.known o ho) hd hdel with e | ⟨hl, -, hn, hother⟩
    · rwa [e] at hp
    by_cases hsid : sessionId = (h.op o).request.sessionId
    · subst hsid
      rcases hn with e | e
      · rw [e] at hg
        cases hg
      · rw [hi.residency.known o ho hl none (known_of_pc e)] at hres
        cases hres
    · rwa [hother sessionId hsid] at hp
  · subst hsid
    rw [hgen]
    rw [e] at hp
    refine openSlot_adapter (hi.adapting o ho command hreq ?_) hpc hp
    rw [hpc]
    rfl

/-- A successful open has the generation of the record. -/
theorem GenerationInv.logged_step (ho : o < h.ops.next)
    (he : Effect h (h.op o) g x') : g.openLog = h.openLog ∨ ∃ command,
      (h.op o).request = .open command ∧
      g.openLog = h.openLog ++ [(command.sessionId, command.generation)] ∧
      h.retainedGeneration command.sessionId = some command.generation := by
  rcases he.log with e | ⟨command, hreq, e, hpc | ⟨hpc, i, hx, hgen⟩⟩
  · exact Or.inl e
  · exact Or.inr ⟨command, hreq, e, hi.writing o ho command hreq hpc⟩
  · refine Or.inr ⟨command, hreq, e, ?_⟩
    have hres := hi.residency.known o ho (by rw [hreq]; rfl) (some i) (by
      rw [known_of_pc hpc]
      exact congrArg some hx)
    rw [hreq] at hres
    have := (hi.resident _ i hres).2
    rwa [← hgen] at this

theorem GenerationInv.adapting_other (ho : o < h.ops.next)
    (he : Effect h (h.op o) g x') {p : OpId} (hp : p < h.ops.next) (hpo : p ≠ o)
    {command : OpenCommand} (hreq : (h.op p).request = .open command)
    (hpc : (h.op p).pc.passed = true) : AdapterKept g.toolAdapterPolicies command (h.op p) := by
  obtain ⟨hd, hdel⟩ := hi.retaining o ho
  have hk := hi.adapting p hp command hreq hpc
  rcases he.policies (hi.residency.known o ho) hd hdel with e | ⟨hl, ⟨r, hr⟩, -, hother⟩
  · rwa [e]
  have hkp : ∃ r, (h.op p).known = some r := by
    cases e : (h.op p).pc with
    | openDispose | openReprovision | openFactory | openController | openCatalog | openManifest =>
      exact ⟨_, known_of_pc e⟩
    | _ =>
      rw [e] at hpc
      cases hpc
  obtain ⟨_, hr'⟩ := hkp
  have hne : command.sessionId ≠ (h.op o).request.sessionId := by
    intro hs
    refine hpo (hi.residency.locks.unique (Host.active_of_known hp hr')
      (Host.active_of_known ho hr) (by rw [hreq]; rfl) hl ?_)
    rw [hreq]
    exact hs
  unfold AdapterKept at hk ⊢
  rwa [hother command.sessionId hne]

theorem GenerationInv.makes {h' : Host} (ho : o < h.ops.next)
    (hres : ResidencyInv h')
    (hok : (h'.op o).pc = .done .replaced → ¬ Raises h (h.op o) (h.op o).request)
    (hm : Makes h o h') : GenerationInv h' ∧ Climbs h h' := by
  obtain ⟨g, x', he, hops, rfl⟩ := hm
  rw [op_putOp, if_pos rfl] at hok
  obtain ⟨hd, hdel⟩ := hi.retaining o ho
  have hr := he.retains hd hdel
  have hread : ∀ p, (g.putOp o x').op p = if p = o then x' else h.op p := by
    intro p
    rw [op_putOp]
    unfold Host.op
    rw [hops]
  have hlt : ∀ p, p < (g.putOp o x').ops.next → p < h.ops.next := fun p hp => by
    rw [← hops]
    exact hp
  have hlog := hi.logged_step ho he
  refine ⟨⟨hres, ?_, fun p hp => ?_, fun sessionId i hg => hi.resident_step ho he hr hok hg,
    fun sessionId i policy hg hp => hi.adapters_step ho he hg hp, fun p hp command hreq hpc => ?_,
    fun p hp command hreq hpc => ?_, fun p hp command hreq hpc => ?_,
    fun p hp command i hreq hpc hx => ?_, fun p hp => ?_, ?_⟩, hr.climbs⟩
  · show g.hasCatalog = true
    rw [he.frame.hasCatalog]
    exact hi.hasCatalog
  · rw [hread]
    by_cases e : p = o
    · rw [if_pos e, he.op.1]
      exact ⟨hd, he.deleting hd hdel⟩
    · rw [if_neg e]
      exact hi.retaining p (hlt p hp)
  · rw [hread] at hreq hpc ⊢
    by_cases e : p = o
    · rw [if_pos e] at hreq hpc ⊢
      rw [he.op.1] at hreq
      exact he.adapting hreq (hi.adapting o ho command hreq) hpc
    · rw [if_neg e] at hreq hpc ⊢
      exact hi.adapting_other ho he (hlt p hp) e hreq hpc
  · rw [hread] at hreq hpc ⊢
    by_cases e : p = o
    · rw [if_pos e] at hreq hpc ⊢
      obtain ⟨command', hreq', hx, rfl⟩ := he.reading hpc
      rw [he.op.1, hreq'] at hreq
      cases hreq
      rw [hx]
      rfl
    · rw [if_neg e] at hreq hpc ⊢
      rcases hi.written ho hr hok command.sessionId with h1 | ⟨-, hall⟩
      · exact (hi.reading p (hlt p hp) command hreq hpc).trans h1.symm
      · exact absurd (hall p ⟨hlt p hp, by rw [hreq]; rfl, by rw [hreq]; rfl, Or.inl hpc⟩) e
  · rw [hread] at hreq hpc
    by_cases e : p = o
    · rw [if_pos e] at hreq hpc
      rw [he.op.1] at hreq
      cases hr with
      | same _ hm =>
        have := hm hpc
        rw [hi.hasCatalog] at this
        cases this
      | «open» command' hreq' _ hw =>
        rw [hreq] at hreq'
        cases hreq'
        exact (hw.written command.sessionId).trans (if_pos rfl)
      | replace _ _ _ hreq' =>
        rw [hreq] at hreq'
        cases hreq'
    · rw [if_neg e] at hreq hpc
      rcases hi.written ho hr hok command.sessionId with h1 | ⟨-, hall⟩
      · exact h1.trans (hi.writing p (hlt p hp) command hreq hpc)
      · exact absurd (hall p ⟨hlt p hp, by rw [hreq]; rfl, by rw [hreq]; rfl, Or.inr hpc⟩) e
  · rw [hread] at hreq hpc hx
    show (g.slot i).generation < command.generation
    by_cases e : p = o
    · rw [if_pos e] at hreq hpc hx
      obtain ⟨command', _, hreq', hx', hlt'⟩ := he.replacing hpc
      rw [he.op.1, hreq'] at hreq
      cases hreq
      rw [hx] at hx'
      cases hx'
      exact hlt'
    · rw [if_neg e] at hreq hpc hx
      have hs := hi.residency.known p (hlt p hp) (by rw [hreq]; rfl) (some i) (by
        rw [known_of_pc hpc]
        exact congrArg some hx)
      rw [he.generation.2 i (hi.resident _ i hs).1]
      exact hi.replacing p (hlt p hp) command i hreq hpc hx
  · have hp : p ∈ g.openLog := hp
    have hold : ∀ q ∈ h.openLog, ∃ n, g.retainedGeneration q.1 = some n ∧ q.2 ≤ n := by
      intro q hq
      obtain ⟨n, hn, hle⟩ := hi.logged q hq
      obtain ⟨n', hn', hle'⟩ := hr.climbs q.1 n hn
      exact ⟨n', hn', Nat.le_trans hle hle'⟩
    rcases hlog with e | ⟨command, -, e, hn⟩
    · exact hold p (e ▸ hp)
    rw [e, mem_append, mem_singleton] at hp
    rcases hp with hp | rfl
    · exact hold p hp
    · exact hr.climbs _ _ hn
  · show g.openLog.Pairwise _
    rcases hlog with e | ⟨command, -, e, hn⟩
    · rw [e]
      exact hi.sorted
    rw [e, pairwise_append]
    refine ⟨hi.sorted, pairwise_singleton _ _, fun q hq r hrm hs => ?_⟩
    rw [mem_singleton] at hrm
    subst hrm
    obtain ⟨n, hq', hle⟩ := hi.logged q hq
    rw [hs, hn] at hq'
    cases hq'
    exact hle

theorem GenerationInv.of_same {h' : Host} (hres : ResidencyInv h')
    (hc : h'.hasCatalog = h.hasCatalog) (hs : h'.sessions = h.sessions)
    (hnext : h'.slots.next = h.slots.next)
    (hslot : ∀ i, (h'.slot i).generation = (h.slot i).generation)
    (hrec : ∀ sessionId, h'.retainedGeneration sessionId = h.retainedGeneration sessionId)
    (hp : h'.toolAdapterPolicies = h.toolAdapterPolicies) (hl : h'.openLog = h.openLog)
    (hops : ∀ o < h'.ops.next, o < h.ops.next ∧ h'.op o = h.op o ∨
      (h'.op o).request.deletes = false ∧ ((h'.op o).pc = .queued ∨ (h'.op o).pc = .replaceGet)) :
    GenerationInv h' := by
  refine ⟨hres, hc.trans hi.hasCatalog, fun o ho => ?_, fun sessionId i hg => ?_,
    fun sessionId i policy hg hp' => ?_, fun o ho command hreq hpc => ?_,
    fun o ho command hreq hpc => ?_, fun o ho command hreq hpc => ?_,
    fun o ho command i hreq hpc hx => ?_, fun p hp' => ?_, ?_⟩
  · rcases hops o ho with ⟨hlt, e⟩ | ⟨hd, hpc⟩
    · rw [e]
      exact hi.retaining o hlt
    · refine ⟨hd, ?_⟩
      rcases hpc with e | e <;> rw [e] <;> rfl
  · rw [hs] at hg
    rw [hnext, hrec, hslot]
    exact hi.resident sessionId i hg
  · rw [hs] at hg
    rw [hp] at hp'
    rw [hslot]
    exact hi.adapters sessionId i policy hg hp'
  · rw [hp]
    rcases hops o ho with ⟨hlt, e⟩ | ⟨-, e | e⟩
    · rw [e] at hreq hpc ⊢
      exact hi.adapting o hlt command hreq hpc
    all_goals rw [e] at hpc; cases hpc
  · rw [hrec]
    rcases hops o ho with ⟨hlt, e⟩ | ⟨-, e | e⟩
    · rw [e] at hreq hpc ⊢
      exact hi.reading o hlt command hreq hpc
    all_goals rw [e] at hpc; cases hpc
  · rw [hrec]
    rcases hops o ho with ⟨hlt, e⟩ | ⟨-, e | e⟩
    · rw [e] at hreq hpc
      exact hi.writing o hlt command hreq hpc
    all_goals rw [e] at hpc; cases hpc
  · rw [hslot]
    rcases hops o ho with ⟨hlt, e⟩ | ⟨-, e | e⟩
    · rw [e] at hreq hpc hx
      exact hi.replacing o hlt command i hreq hpc hx
    all_goals rw [e] at hpc; cases hpc
  · rw [hl] at hp'
    simp only [hrec]
    exact hi.logged p hp'
  · rw [hl]
    exact hi.sorted

end

end

/-! ## Runs -/

theorem resume_error_replaces {h h' : Host} {o : OpId} {code : ErrorCode}
    (hs : h.resumeOp o (.error code) = some h') (hr : Raises h (h.op o) (h.op o).request) :
    (h'.op o).pc ≠ .done .replaced := by
  cases hreq : (h.op o).request with
  | replaceDormant =>
    rw [hreq] at hr
    unfold Host.resumeOp at hs
    rw [hreq] at hs
    simp only [hr.1, Host.resumeReplace] at hs
    cases hs
    unfold Host.finish Host.opGoto Host.setOp Host.op
    rw [Heap.cell_modify_self]
    exact fun e => by cases e
  | _ =>
    rw [hreq] at hr
    exact hr.elim

theorem GenerationInv.step {h h' : Host} {e : HostEvent} (hi : GenerationInv h)
    (hev : e.retains = true) (hok : ¬ RaisesUnlocked h e) (hs : hostStep h e = some h') :
    GenerationInv h' ∧ Climbs h h' := by
  have hres := hi.residency.step hs
  cases e with
  | turn =>
    have hf := frame_step hs
    refine ⟨hi.of_same hres hf.hasCatalog hf.sessions hf.slots
      (fun i => congrArg (·.2.1) (hf.identity i)) hf.generation hf.toolAdapterPolicies hf.openLog
      fun o ho => Or.inl ⟨?_, ?_⟩, Climbs.of_same hf.generation⟩
    · rwa [hf.ops] at ho
    · exact congrArg (·.cell o) hf.ops
  | lease =>
    obtain ⟨_, _, rfl⟩ := leaseStep_frame hs
    exact ⟨hi.of_same hres rfl rfl rfl (fun _ => rfl) (fun _ => rfl) rfl rfl
      fun o ho => Or.inl ⟨ho, rfl⟩, Climbs.refl _⟩
  | lifecycle e =>
    cases lifecycleStep_cases hs with
    | idle => exact ⟨hi, Climbs.refl h⟩
    | link _ request _ _ hlinks =>
      refine ⟨hi.of_same hres rfl rfl rfl (fun _ => rfl) (fun _ => rfl) rfl rfl fun o ho => ?_,
        Climbs.of_same fun _ => rfl⟩
      rcases ops_withLifecycle h request o ho with hold | ⟨hpc, hreq⟩
      · exact Or.inl hold
      refine Or.inr ⟨?_, Or.inl hpc⟩
      rw [hreq]
      cases e with
      | «open» =>
        cases hlinks
        rfl
      | close sessionId generation retainArtifacts =>
        cases hlinks
        have hev : retainArtifacts = true := hev
        rw [hev]
        rfl
      | _ => cases hlinks
    | visit i now =>
      have hf := frame_sweepCheck h i now
      obtain ⟨h1, h2⟩ := slots_sweepCheck h i now
      refine ⟨hi.of_same hres hf.hasCatalog h2 (congrArg Heap.next h1)
        (fun j => congrArg (fun slots => (slots.cell j).generation) h1)
        (retainedGeneration_sweepCheck h i now) (policies_sweepCheck h i now)
        (openLog_sweepCheck h i now) fun o ho => Or.inl ⟨?_, ?_⟩,
        Climbs.of_same (retainedGeneration_sweepCheck h i now)⟩
      · rwa [hf.ops] at ho
      · exact congrArg (·.cell o) hf.ops
    | linkSweep i now =>
      have hf := frame_sweepCheck h i now
      obtain ⟨h1, h2⟩ := slots_sweepCheck h i now
      refine ⟨hi.of_same hres hf.hasCatalog h2 (congrArg Heap.next h1)
        (fun j => congrArg (fun slots => (slots.cell j).generation) h1)
        (retainedGeneration_sweepCheck h i now) (policies_sweepCheck h i now)
        (openLog_sweepCheck h i now) fun o ho => ?_,
        Climbs.of_same (retainedGeneration_sweepCheck h i now)⟩
      rcases ops_withLifecycle _ _ o ho with ⟨hold, e⟩ | ⟨hpc, hreq⟩
      · rw [hf.ops] at hold
        exact Or.inl ⟨hold, e.trans (congrArg (·.cell o) hf.ops)⟩
      · exact Or.inr ⟨by rw [hreq]; rfl, Or.inl hpc⟩
    | callReplace =>
      refine ⟨hi.of_same hres rfl rfl rfl (fun _ => rfl) (fun _ => rfl) rfl rfl fun o ho => ?_,
        Climbs.of_same fun _ => rfl⟩
      rw [op_newOp]
      rcases Nat.lt_succ_iff_lt_or_eq.mp ho with hlt | rfl
      · rw [if_neg (Nat.ne_of_lt hlt)]
        exact Or.inl ⟨hlt, rfl⟩
      · rw [if_pos rfl]
        exact Or.inr ⟨rfl, Or.inr rfl⟩
    | start o ho hpc _ hm =>
      refine hi.makes ho hres (fun _ hr => ?_) hm
      cases hreq : (h.op o).request with
      | replaceDormant =>
        rw [hreq] at hr
        have := hr.1
        rw [hpc] at this
        cases this
      | _ =>
        rw [hreq] at hr
        exact hr
    | resume o answer ho _ _ hm =>
      refine hi.makes ho hres (fun hdone hr => ?_) hm
      cases answer with
      | error =>
        simp only [hostStep, lifecycleStep, if_pos ho] at hs
        exact resume_error_replaces hs hr hdone
      | ok | conversation => exact hok hr

/-! ## Opens of lower and equal generations -/

/-- The generation is lower than the one of the resident slot or of the record. -/
def Host.Outdates (h : Host) (command : OpenCommand) : Prop :=
  (∃ i, h.sessions.get? command.sessionId = some i ∧ command.generation < (h.slot i).generation) ∨
    ∃ n, h.retainedGeneration command.sessionId = some n ∧ command.generation < n

variable {command : OpenCommand}

theorem openDecision_retained {h : Host} {record : SessionCatalogRecord}
    (hlt : command.generation < record.generation) :
    h.openDecision command none (some record) = .error .staleGeneration := by
  have hc : checkRetained command none (some record) = .error .staleGeneration := by
    exact if_pos hlt
  unfold Host.openDecision
  rw [hc]
  rfl

theorem openDecision_resident {h : Host} {i : SlotId} {retained : Option SessionCatalogRecord}
    (hlt : command.generation < (h.slot i).generation)
    (hp : ∀ policy, h.toolAdapterPolicies.get? command.sessionId = some policy →
      command.generation < policy.generation) :
    ∃ code, h.openDecision command (some i) retained = .error code ∧
      (command.toolAdapterError = none → code = .staleGeneration) := by
  have hres : h.checkResident command (some i) = .error .staleGeneration := if_pos hlt
  have hadapter : checkToolAdapter command (h.toolAdapterPolicies.get? command.sessionId) = .ok () ∨
      ∃ code, checkToolAdapter command (h.toolAdapterPolicies.get? command.sessionId) = .error code ∧
        (command.toolAdapterError = none → code = .staleGeneration) := by
    unfold checkToolAdapter
    cases command.toolAdapterError with
    | some code => exact Or.inr ⟨code, rfl, fun e => by cases e⟩
    | none =>
      cases hg : h.toolAdapterPolicies.get? command.sessionId with
      | none => exact Or.inl rfl
      | some policy => exact Or.inr ⟨.staleGeneration, if_pos (hp policy hg), fun _ => rfl⟩
  unfold Host.openDecision
  have h1 : checkRetained command (some i) retained = .ok () := rfl
  have h2 : resolvedRuntimePolicy command (some i) retained = .ok () := rfl
  rw [hres]
  rcases hadapter with e | ⟨code, e, hc⟩ <;> rw [e]
  · exact ⟨.staleGeneration, rfl, fun _ => rfl⟩
  · exact ⟨code, rfl, hc⟩

/-- An open of a lower generation is refused, and changes nothing. -/
theorem GenerationInv.refuses {h h' : Host} {o : OpId} {answer : LifecycleAnswer} (hi : GenerationInv h)
    (ho : o < h.ops.next) (hreq : (h.op o).request = .open command) (hpc : (h.op o).pc = .openChecks)
    (hout : h.Outdates command) (hs : hostStep h (.lifecycle (.resume o answer)) = some h') :
    ∃ code, h' = h.finish o (.failed code) ∧
      (command.toolAdapterError = none → code = .staleGeneration) := by
  have hstep : h' = h.openChecks o command := by
    simp only [hostStep, lifecycleStep, if_pos ho] at hs
    unfold Host.resumeOp at hs
    rw [hreq] at hs
    simp only [hpc, Host.resumeOpen] at hs
    cases hs
    rfl
  have hread := hi.reading o ho command hreq hpc
  have hknown : h.sessions.get? command.sessionId = (h.op o).existing := by
    have := hi.residency.known o ho (by rw [hreq]; rfl) (h.op o).existing (by
      rw [known_of_pc hpc]
      rfl)
    rwa [hreq] at this
  have key : ∃ code, h.openDecision command (h.op o).existing (h.op o).retained = .error code ∧
      (command.toolAdapterError = none → code = .staleGeneration) := by
    cases hx : (h.op o).existing with
    | none =>
      rw [hx] at hknown
      obtain ⟨i, hres, -⟩ | ⟨n, hn, hlt⟩ := hout
      · rw [hknown] at hres
        cases hres
      rw [hn] at hread
      obtain ⟨_, hrec, rfl⟩ := Option.map_eq_some_iff.mp hread
      rw [hrec]
      exact ⟨.staleGeneration, openDecision_retained hlt, fun _ => rfl⟩
    | some i =>
      rw [hx] at hknown
      have hrec := (hi.resident _ i hknown).2
      have hlt : command.generation < (h.slot i).generation := by
        obtain ⟨_, hres, hlt⟩ | ⟨n, hn, hlt⟩ := hout
        · rw [hknown] at hres
          cases hres
          exact hlt
        · rw [hrec] at hn
          cases hn
          exact hlt
      refine openDecision_resident hlt fun policy hp => ?_
      rw [hi.adapters _ i policy hknown hp]
      exact hlt
  obtain ⟨code, hd, hcode⟩ := key
  refine ⟨code, ?_, hcode⟩
  rw [hstep]
  unfold Host.openChecks
  rw [hd]

/-- An open of the generation of the resident slot leaves the slot resident and its
adapter alone. -/
theorem GenerationInv.reuses {h h' : Host} {o : OpId} {answer : LifecycleAnswer} {i : SlotId} (hi : GenerationInv h)
    (ho : o < h.ops.next) (hreq : (h.op o).request = .open command)
    (hres : h.sessions.get? command.sessionId = some i) (hgen : command.generation = (h.slot i).generation)
    (hs : hostStep h (.lifecycle (.resume o answer)) = some h') :
    h'.sessions = h.sessions ∧ (h'.slot i).state = (h.slot i).state ∧
      (h'.slot i).disposing = (h.slot i).disposing := by
  have hm : Makes h o h' := by
    simp only [hostStep, lifecycleStep, if_pos ho] at hs
    exact resumeOp_makes hs
  obtain ⟨g, _, he, -, rfl⟩ := hm
  have hknown : ∀ r, (h.op o).known = some r → r = some i := by
    intro r hr
    have := hi.residency.known o ho (by rw [hreq]; rfl) r hr
    rw [hreq] at this
    exact this.symm.trans hres
  have hnot : ∀ {pc : LifecyclePc} {p : Prop}, (h.op o).pc = pc →
      { h.op o with pc := pc }.known = some none → p := by
    intro pc p e hk
    have := hknown none ((known_of_pc e).trans hk)
    cases this
  show g.sessions = h.sessions ∧ (g.slot i).state = (h.slot i).state ∧
    (g.slot i).disposing = (h.slot i).disposing
  cases he with
  | @reuse command' j =>
    refine ⟨rfl, ?_, ?_⟩
    · exact Host.slot_setSlot (f := fun s => { s with lastUsedAt := h.clock }) (·.state) h j
        (fun _ => rfl) i
    · exact Host.slot_setSlot (f := fun s => { s with lastUsedAt := h.clock }) (·.disposing) h j
        (fun _ => rfl) i
  | @replace command' j hreq' hpc hdec =>
    rw [hreq] at hreq'
    cases hreq'
    obtain ⟨hx, hlt, -, -⟩ := checkResident_replace (openDecision_eq_ok hdec).2.2.2
    have := hknown (some j) (by rw [known_of_pc hpc]; exact congrArg some hx)
    cases this
    omega
  | create => exact ⟨(slots_retainToolAdapter h _).2,
      congrArg (fun slots => (slots.cell i).state) (slots_retainToolAdapter h _).1,
      congrArg (fun slots => (slots.cell i).disposing) (slots_retainToolAdapter h _).1⟩
  | replaced hreq' hpc =>
    rw [hreq] at hreq'
    cases hreq'
    obtain ⟨j, hj⟩ := Option.isSome_iff_exists.mp
      (hi.residency.evicting o ho (by rw [hpc]; rfl))
    have hlt := hi.replacing o ho command j hreq hpc hj
    have := hknown (some j) (by rw [known_of_pc hpc]; exact congrArg some hj)
    cases this
    omega
  | opened _ hpc => exact hnot hpc rfl
  | go | finish | beginOpen | openGet | controller | openCatalog | repair => exact ⟨rfl, rfl, rfl⟩
  | _ => simp_all

/-! ## The claim over runs -/

/-- A host with a catalog whose resident slots agree with it, before its first operation. -/
structure Retaining (h : Host) : Prop extends Quiet h where
  hasCatalog : h.hasCatalog = true
  resident : ∀ sessionId i, h.sessions.get? sessionId = some i →
    i < h.slots.next ∧ h.retainedGeneration sessionId = some (h.slot i).generation
  adapters : ∀ sessionId i policy, h.sessions.get? sessionId = some i →
    h.toolAdapterPolicies.get? sessionId = some policy → policy.generation = (h.slot i).generation
  openLog : h.openLog = []

theorem Retaining.generationInv {h : Host} (hr : Retaining h) : GenerationInv h := by
  have hno : ∀ o, ¬ o < h.ops.next := fun o => by
    rw [hr.ops]
    exact Nat.not_lt_zero o
  refine ⟨hr.toQuiet.residencyInv, hr.hasCatalog, fun o ho => absurd ho (hno o), hr.resident,
    hr.adapters, fun o ho => absurd ho (hno o), fun o ho => absurd ho (hno o),
    fun o ho => absurd ho (hno o), fun o ho => absurd ho (hno o), fun p hp => ?_, ?_⟩
  · rw [hr.openLog] at hp
    cases hp
  · rw [hr.openLog]
    exact List.Pairwise.nil

/-- The generations in a state `h₂` that is reached from `h₁`. -/
structure GenerationsKept (h₁ h₂ : Host) : Prop where
  retained : Climbs h₁ h₂
  resident : ∀ sessionId i j, h₁.sessions.get? sessionId = some i →
    h₂.sessions.get? sessionId = some j → (h₁.slot i).generation ≤ (h₂.slot j).generation
  opens : h₂.openLog.Pairwise fun p q => p.1 = q.1 → p.2 ≤ q.2
  /-- An open that is checked against a higher generation is refused. -/
  lower : ∀ o < h₂.ops.next, ∀ answer command h', (h₂.op o).request = .open command →
    (h₂.op o).pc = .openChecks → h₂.Outdates command →
    hostStep h₂ (.lifecycle (.resume o answer)) = some h' →
    ∃ code, h' = h₂.finish o (.failed code) ∧
      (command.toolAdapterError = none → code = .staleGeneration)
  /-- An open of the resident generation leaves the slot alone. -/
  equal : ∀ o < h₂.ops.next, ∀ answer command i h', (h₂.op o).request = .open command →
    h₂.sessions.get? command.sessionId = some i → command.generation = (h₂.slot i).generation →
    hostStep h₂ (.lifecycle (.resume o answer)) = some h' →
    h'.sessions = h₂.sessions ∧ (h'.slot i).state = (h₂.slot i).state ∧
      (h'.slot i).disposing = (h₂.slot i).disposing

theorem GenerationInv.kept {h₁ h₂ : Host} (h1 : GenerationInv h₁) (h2 : GenerationInv h₂)
    (hc : Climbs h₁ h₂) : GenerationsKept h₁ h₂ := by
  refine ⟨hc, fun sessionId i j hi hj => ?_, h2.sorted, ?_, ?_⟩
  · obtain ⟨_, hn, hle⟩ := hc sessionId _ (h1.resident sessionId i hi).2
    rw [(h2.resident sessionId j hj).2] at hn
    cases hn
    exact hle
  · intro o ho answer command h' hreq hpc hout hs
    exact h2.refuses ho hreq hpc hout hs
  · intro o ho answer command i h' hreq hres hgen hs
    exact h2.reuses ho hreq hres hgen hs

instance (h : Host) (x : LifecycleOp) : (request : LifecycleRequest) →
    Decidable (Raises h x request)
  | .replaceDormant _ _ => inferInstanceAs (Decidable (_ ∧ _ = true ∧ _ ≠ _ ∧ _ = true))
  | .open _ => .isFalse id
  | .close _ _ _ => .isFalse id
  | .sweep _ _ _ => .isFalse id

instance (h : Host) : (e : HostEvent) → Decidable (RaisesUnlocked h e)
  | .lifecycle (.resume _ (.error _)) => .isFalse id
  | .lifecycle (.resume o .ok) => inferInstanceAs (Decidable (Raises h (h.op o) (h.op o).request))
  | .lifecycle (.resume o (.conversation _)) =>
    inferInstanceAs (Decidable (Raises h (h.op o) (h.op o).request))
  | .lifecycle (.open _) => .isFalse id
  | .lifecycle (.close _ _ _) => .isFalse id
  | .lifecycle (.sweepVisit _ _) => .isFalse id
  | .lifecycle (.replaceDormantSession _ _) => .isFalse id
  | .lifecycle (.start _) => .isFalse id
  | .turn _ => .isFalse id
  | .lease _ => .isFalse id

/-- A host with an empty catalog. -/
def Host.catalogued : Host := Host.new DEFAULT_MULTIPLEXER_LIMITS false true 0 0

theorem Host.catalogued_retaining : Retaining Host.catalogued := by
  refine ⟨⟨rfl, rfl⟩, rfl, fun sessionId i hg => ?_, fun sessionId i policy hg => ?_, rfl⟩
  · cases hg
  · cases hg

/-- An open of one session. -/
def OpenCommand.at (generation : Nat) : OpenCommand where
  requestId := []
  sessionId := [115]
  generation := generation
  mode := .new
  policyKey := []
  policyDigest := []
  toolAdapter := none
  payloadError := none
  toolAdapterError := none

/-- A replacement of the first record of an open. -/
def SessionCatalogReplaceInput.raising (expectedGeneration generation : Nat) :
    SessionCatalogReplaceInput where
  expectedGeneration := expectedGeneration
  expectedRevision := 1
  generation := generation
  residency := .dormant
  policyDigest := []
  conversation := none

end PiDaemon.Multiplexer
