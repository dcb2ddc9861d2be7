import PiDaemon.Scheduler.Recompute
import PiDaemon.Scheduler.Runtime

/-!
# Queued overlaps

An overlap that waits in `#pendingOverlaps` is drained by the settlement of a tracked
admission of its own schedule, and by nothing else.

* `OverlapInv`: every overlap has such an admission;
* `overlap_drained`: it holds in every run that queues overlaps only behind an
  admission of the same schedule;
* `overlap_orphaned`: an overlap behind other work of the session waits for nothing.
-/

namespace PiDaemon.Scheduler

open Lib Durability List OrderedMap

namespace SchedulerRuntime

/-- An admission of the schedule is tracked. -/
def Tracks (s : SchedulerRuntime) (scheduleId : JsString) : Prop :=
  ∃ m ∈ s.settlements, m.tracked = true ∧ m.scheduleId = scheduleId

/-- The end of the settlement takes the overlap to the serialized work. -/
def DrainedBy (s : SchedulerRuntime) (scheduleId : JsString) (scheduledFor : Int)
    (m : Settlement) : Prop :=
  (s.finishSettlement m).queue = s.queue ++ [.drain scheduleId scheduledFor] ∧
    (s.finishSettlement m).pendingOverlaps.get? scheduleId = none

structure OverlapInv (s : SchedulerRuntime) : Prop where
  fresh : ∀ m ∈ s.settlements, m.id < s.nextSettlement
  unique : ∀ m ∈ s.settlements, ∀ m' ∈ s.settlements, m.id = m'.id → m = m'
  tracked : s.draining = false → ∀ scheduleId, s.pendingOverlaps.has scheduleId = true →
    s.Tracks scheduleId

/-- The schedule whose overlap the step will queue. -/
def queuedOverlap (s : SchedulerRuntime) : SchedulerEvent → Option JsString
  | .advance input =>
    match s.op, input.session with
    | some (.resolve d), some session =>
      if ¬ SchedulerSessionState.refuses session.state ∧ s.busy session ∧
          d.schedule.overlapPolicy = .queueOne then
        some d.schedule.scheduleId
      else none
    | _, _ => none
  | _ => none

/-- When the step queues an overlap, an admission of the same schedule is tracked. -/
def QueuesBehindOwn (s : SchedulerRuntime) (event : SchedulerEvent) : Prop :=
  ∀ scheduleId ∈ s.queuedOverlap event, s.Tracks scheduleId

instance (s : SchedulerRuntime) (scheduleId : JsString) : Decidable (s.Tracks scheduleId) :=
  inferInstanceAs (Decidable (∃ m ∈ s.settlements, m.tracked = true ∧ m.scheduleId = scheduleId))

instance (s : SchedulerRuntime) (event : SchedulerEvent) : Decidable (s.QueuesBehindOwn event) :=
  inferInstanceAs (Decidable (∀ scheduleId ∈ s.queuedOverlap event, s.Tracks scheduleId))

section
variable {s t : SchedulerRuntime} {platform : SchedulePlatform} {limits : ScheduleLimits}

theorem OverlapInv.new (store : FileScheduleStore) : OverlapInv (new store) := by
  constructor
  · intro m hm
    cases hm
  · intro m hm
    cases hm
  · intro _ scheduleId hhas
    cases hhas

section
variable (h : OverlapInv s)
include h

theorem OverlapInv.frame (hsettlements : t.settlements = s.settlements)
    (hnext : t.nextSettlement = s.nextSettlement) (hdraining : t.draining = s.draining)
    (hpending : t.pendingOverlaps = s.pendingOverlaps) : OverlapInv t := by
  constructor
  · rw [hsettlements, hnext]
    exact h.fresh
  · rw [hsettlements]
    exact h.unique
  · intro hd scheduleId hhas
    rw [hdraining] at hd
    rw [hpending] at hhas
    obtain ⟨m, hm, htracked⟩ := h.tracked hd scheduleId hhas
    exact ⟨m, by rw [hsettlements]; exact hm, htracked⟩

theorem OverlapInv.onlyOp (hop : OnlyOp s t) : OverlapInv t :=
  h.frame hop.settlements hop.nextSettlement hop.draining hop.pendingOverlaps

theorem OverlapInv.record (scheduleId : JsString)
    (result : FileScheduleStore × Except ScheduleError ScheduleResource) :
    OverlapInv (s.record scheduleId result) :=
  h.frame rfl rfl rfl rfl

theorem OverlapInv.append {m : Settlement} (hid : m.id = s.nextSettlement)
    (hsettlements : t.settlements = s.settlements ++ [m])
    (hnext : t.nextSettlement = s.nextSettlement + 1) (hdraining : t.draining = s.draining)
    (hpending : t.pendingOverlaps = s.pendingOverlaps) : OverlapInv t := by
  have hold : ∀ {m'}, m' ∈ t.settlements → m' ∈ s.settlements ∨ m' = m := by
    intro m' hm'
    rw [hsettlements] at hm'
    simpa using hm'
  constructor
  · intro m' hm'
    rcases hold hm' with hm' | rfl
    · have := h.fresh m' hm'
      omega
    · omega
  · intro a ha b hb heq
    rcases hold ha with ha | rfl
    · rcases hold hb with hb | rfl
      · exact h.unique a ha b hb heq
      · have := h.fresh a ha
        omega
    · rcases hold hb with hb | rfl
      · have := h.fresh b hb
        omega
      · rfl
  · intro hd scheduleId hhas
    rw [hdraining] at hd
    rw [hpending] at hhas
    obtain ⟨m', hm', htracked⟩ := h.tracked hd scheduleId hhas
    exact ⟨m', by rw [hsettlements]; exact mem_append_left _ hm', htracked⟩

theorem OverlapInv.trackAdmission (schedule : ScheduleResource)
    (sessionId : JsString) (scheduledFor : Timestamp) (ticket : SchedulerTicket) :
    OverlapInv (s.trackAdmission schedule sessionId scheduledFor ticket) := by
  unfold SchedulerRuntime.trackAdmission
  split
  · exact h.append (m := ⟨_, _, _, _, _, _, _, _⟩) rfl rfl rfl rfl rfl
  split
  · exact h.append (m := ⟨_, _, _, _, _, _, _, _⟩) rfl rfl rfl rfl rfl
  · exact h.append (m := ⟨_, _, _, _, _, _, _, _⟩) rfl rfl rfl rfl rfl

theorem OverlapInv.persistReturned (current : Option ScheduleResource)
    (input : SchedulerInput) (k : PersistCont) :
    OverlapInv (s.persistReturned platform current input k) := by
  rcases persistReturned_onlyOp platform s current input k with hop | ⟨_, _, _, _, -, -, hop⟩
  · exact h.onlyOp hop
  · exact (h.trackAdmission _ _ _ _).onlyOp hop

theorem OverlapInv.persistStep (schedule : ScheduleResource)
    (state : ScheduleRuntimeState) (k : PersistCont) (input : SchedulerInput) :
    OverlapInv (s.persistStep limits platform schedule state k input) := by
  have hrecord := h.record schedule.scheduleId (s.updateCall limits platform schedule state input)
  unfold SchedulerRuntime.persistStep
  simp only
  split
  · exact hrecord.persistReturned _ _ _
  split
  · exact hrecord.frame rfl rfl rfl rfl
  · exact hrecord.onlyOp (persistThrew_onlyOp platform _ _)

theorem OverlapInv.resolveStep (d : Decision) (input : SchedulerInput)
    (hop : s.op = some (.resolve d)) (hown : s.QueuesBehindOwn (.advance input)) :
    OverlapInv (s.resolveStep platform d input) := by
  unfold SchedulerRuntime.resolveStep
  split
  · exact h.onlyOp (decisionReturned_onlyOp platform _ _ _)
  rename_i session hsession
  split
  · exact h.onlyOp (decisionReturned_onlyOp platform _ _ _)
  rename_i hrefuses
  split
  · rename_i hbusy
    split
    · exact h.frame rfl rfl rfl rfl
    · -- The overlap is queued behind an admission of its own schedule.
      rename_i hpolicy
      have htracks : s.Tracks d.schedule.scheduleId := by
        apply hown
        simp only [SchedulerRuntime.queuedOverlap, hop, hsession]
        rw [if_pos ⟨hrefuses, hbusy, hpolicy⟩]
        rfl
      constructor
      · exact h.fresh
      · exact h.unique
      · intro hd scheduleId hhas
        simp only [OrderedMap.has, get?_set] at hhas
        split at hhas
        · rename_i heq
          rw [← heq]
          exact htracks
        · exact h.tracked hd scheduleId hhas
    · exact h.onlyOp (decisionReturned_onlyOp platform _ _ _)
  · exact h.frame rfl rfl rfl rfl

theorem OverlapInv.advance (input : SchedulerInput) {call : Await}
    (hop : s.op = some call) (hown : s.QueuesBehindOwn (.advance input)) :
    OverlapInv (s.advance limits platform input call) := by
  cases call with
  | normalizeList | dueList => exact h.onlyOp (enter_onlyOp _ _)
  | armList => exact h.frame rfl rfl rfl rfl
  | drainGet =>
    simp only [SchedulerRuntime.advance]
    split
    · exact h.onlyOp (startArm_onlyOp _)
    split
    · exact h.onlyOp (enter_onlyOp _ _)
    · exact h.onlyOp (startArm_onlyOp _)
  | persist => exact h.persistStep _ _ _ _
  | reread => exact h.persistReturned _ _ _
  | resolve d => exact h.resolveStep d input hop hown
  | admission =>
    simp only [SchedulerRuntime.advance]
    split
    · exact h.onlyOp (decisionReturned_onlyOp platform _ _ _)
    · exact h.frame rfl rfl rfl rfl

theorem OverlapInv.setStage (id : Nat) (stage : SettlementStage) :
    OverlapInv (s.setStage id stage) := by
  have hold : ∀ {m}, m ∈ (s.setStage id stage).settlements → ∃ m' ∈ s.settlements,
      m = if m'.id = id then { m' with stage } else m' := by
    intro m hm
    obtain ⟨m', hm', rfl⟩ := mem_map.mp hm
    exact ⟨m', hm', rfl⟩
  have hsameId : ∀ m' : Settlement, (if m'.id = id then { m' with stage } else m').id = m'.id := by
    intro m'
    split <;> rfl
  constructor
  · intro m hm
    obtain ⟨m', hm', rfl⟩ := hold hm
    rw [hsameId]
    exact h.fresh m' hm'
  · intro a ha b hb heq
    obtain ⟨a', ha', rfl⟩ := hold ha
    obtain ⟨b', hb', rfl⟩ := hold hb
    rw [hsameId, hsameId] at heq
    rw [h.unique a' ha' b' hb' heq]
  · intro hd scheduleId hhas
    obtain ⟨m, hm, htracked, hschedule⟩ := h.tracked hd scheduleId hhas
    refine ⟨_, mem_map_of_mem hm, ?_, ?_⟩
    · split <;> exact htracked
    · split <;> exact hschedule

/-- The settlement that ends takes the overlap of its schedule with it. -/
theorem OverlapInv.finishSettlement {m : Settlement} (hm : m ∈ s.settlements) :
    OverlapInv (s.finishSettlement m) := by
  have hfresh : ∀ m' ∈ s.settlements.filter fun other => other.id ≠ m.id, m'.id < s.nextSettlement :=
    fun m' hm' => h.fresh m' (mem_filter.mp hm').1
  have hunique : ∀ a ∈ s.settlements.filter fun other => other.id ≠ m.id,
      ∀ b ∈ s.settlements.filter fun other => other.id ≠ m.id, a.id = b.id → a = b :=
    fun a ha b hb => h.unique a (mem_filter.mp ha).1 b (mem_filter.mp hb).1
  have hkept : s.draining = false → ∀ scheduleId, s.pendingOverlaps.has scheduleId = true →
      (m.tracked = true → m.scheduleId ≠ scheduleId) →
      ∃ m' ∈ s.settlements.filter fun other => other.id ≠ m.id,
        m'.tracked = true ∧ m'.scheduleId = scheduleId := by
    intro hd scheduleId hhas hother
    obtain ⟨m', hm', htracked, hschedule⟩ := h.tracked hd scheduleId hhas
    refine ⟨m', mem_filter.mpr ⟨hm', ?_⟩, htracked, hschedule⟩
    simp only [ne_eq, decide_not, Bool.not_eq_true', decide_eq_false_iff_not]
    intro heq
    have hsame := h.unique m' hm' m hm heq
    subst hsame
    exact hother htracked hschedule
  unfold SchedulerRuntime.finishSettlement
  simp only
  split
  · rename_i huntracked
    exact ⟨hfresh, hunique, fun hd scheduleId hhas =>
      hkept hd scheduleId hhas fun htracked => absurd htracked huntracked⟩
  · split
    · rename_i hnone
      refine ⟨hfresh, hunique, fun hd scheduleId hhas => ?_⟩
      apply hkept hd scheduleId hhas
      rintro - rfl
      rw [has_eq_false.mpr hnone] at hhas
      cases hhas
    · split
      · rename_i hdraining
        refine ⟨hfresh, hunique, fun hd => ?_⟩
        rw [show s.draining = true from hdraining] at hd
        cases hd
      · refine ⟨hfresh, hunique, fun hd scheduleId hhas => ?_⟩
        obtain ⟨_, hget⟩ := OrderedMap.has_iff.mp hhas
        obtain ⟨hne, hget⟩ := get?_of_delete hget
        exact hkept hd scheduleId (OrderedMap.has_iff.mpr ⟨_, hget⟩) fun _ => hne

theorem OverlapInv.settleStep {m : Settlement} (hm : m ∈ s.settlements)
    (input : SchedulerInput) : OverlapInv (s.settleStep limits platform m input) := by
  unfold SchedulerRuntime.settleStep
  split
  · split <;> exact h.setStage _ _
  · split
    · exact h.setStage _ _
    split
    · exact h.setStage _ _
    · split <;> exact h.setStage _ _
  · rename_i current state _
    have hrecord := h.record current.scheduleId (s.updateCall limits platform current state input)
    simp only
    split
    · exact hrecord.setStage _ _
    · split <;> exact hrecord.setStage _ _
  · exact h.setStage _ _
  · exact h.finishSettlement hm

theorem schedulerStep_overlapInv {event : SchedulerEvent}
    (hown : s.QueuesBehindOwn event) (hstep : schedulerStep limits platform s event = some t) :
    OverlapInv t := by
  cases event with
  | create | update =>
    cases hstep
    exact h.record _ _
  | delete | stop | recompute =>
    cases hstep
    exact h.frame rfl rfl rfl rfl
  | start =>
    cases hstep
    split
    · exact h
    · exact h.frame rfl rfl rfl rfl
  | beginDrain =>
    cases hstep
    exact ⟨h.fresh, h.unique, fun hd => by cases hd⟩
  | beginJob =>
    simp only [schedulerStep, SchedulerRuntime.beginJob] at hstep
    split at hstep
    · cases hstep
      split <;> exact h.frame rfl rfl rfl rfl
    · cases hstep
      exact h.frame rfl rfl rfl rfl
    · cases hstep
    · cases hstep
  | advance input =>
    obtain ⟨_, hop, rfl⟩ := Option.map_eq_some_iff.mp hstep
    exact h.advance input hop hown
  | settle id input =>
    obtain ⟨_, hfind, rfl⟩ := Option.map_eq_some_iff.mp hstep
    exact h.settleStep (List.mem_of_find?_eq_some hfind) input
  | restart =>
    simp only [schedulerStep] at hstep
    split at hstep
    · cases hstep
    cases hstep
    rename_i store _ _
    exact (OverlapInv.new store).frame rfl rfl rfl rfl

end

end

theorem finishSettlement_drains {s : SchedulerRuntime} {m : Settlement} {scheduledFor : Int}
    (hdraining : s.draining = false) (htracked : m.tracked = true)
    (hpending : s.pendingOverlaps.get? m.scheduleId = some scheduledFor) :
    s.DrainedBy m.scheduleId scheduledFor m := by
  constructor
  · simp [SchedulerRuntime.finishSettlement, htracked, hpending, hdraining]
  · simp [SchedulerRuntime.finishSettlement, htracked, hpending, hdraining]

/-- **Queued overlaps are drained**, when they are queued only behind an admission of
the same schedule. -/
theorem overlap_drained (limits : ScheduleLimits) (platform : SchedulePlatform)
    (store : FileScheduleStore) (events : List SchedulerEvent) {s : SchedulerRuntime}
    (hrun : run (schedulerStep limits platform) (new store) events = some s)
    (hown : Meets (schedulerStep limits platform) QueuesBehindOwn (new store) events)
    (hdraining : s.draining = false) :
    (∀ scheduleId scheduledFor, s.pendingOverlaps.get? scheduleId = some scheduledFor →
        ∃ m ∈ s.settlements, m.tracked = true ∧ s.DrainedBy scheduleId scheduledFor m) ∧
      ((∀ m ∈ s.settlements, m.tracked = false) →
        ∀ scheduleId, s.pendingOverlaps.get? scheduleId = none) := by
  have hinv : OverlapInv s := by
    apply run_invariant_of_meets _ (OverlapInv.new store) hown hrun
    intro s event t h hown hstep
    exact schedulerStep_overlapInv h hown hstep
  have hdrained : ∀ scheduleId scheduledFor,
      s.pendingOverlaps.get? scheduleId = some scheduledFor →
        ∃ m ∈ s.settlements, m.tracked = true ∧ s.DrainedBy scheduleId scheduledFor m := by
    intro scheduleId scheduledFor hget
    obtain ⟨m, hm, htracked, rfl⟩ :=
      hinv.tracked hdraining scheduleId (OrderedMap.has_iff.mpr ⟨_, hget⟩)
    exact ⟨m, hm, htracked, finishSettlement_drains hdraining htracked hget⟩
  refine ⟨hdrained, fun huntracked scheduleId => ?_⟩
  cases hget : s.pendingOverlaps.get? scheduleId with
  | none => rfl
  | some scheduledFor =>
    obtain ⟨m, hm, htracked, -⟩ := hdrained scheduleId scheduledFor hget
    rw [huntracked m hm] at htracked
    cases htracked

/-! ## Runs -/

/-- A schedule of every minute whose overlaps are queued. -/
def everyMinute : ScheduleResource :=
  { cronSchedule "a" "* * * * *" with overlapPolicy := .queueOne }

def answer (now : Int) (state : SchedulerSessionState) (ticket : String) : SchedulerInput where
  now := now
  outcome := .done
  gatewayDraining := false
  session := some ⟨text "session", 0, state⟩
  admission := some ⟨text ticket, .running, isoTimestamp now, none⟩
  completion := some ⟨text ticket, .succeeded, isoTimestamp now, none⟩

/-- The schedule is created and waits for its first trigger. -/
def armed : List SchedulerEvent :=
  [.create everyMinute 0 .done, .start, .beginJob 0] ++
    List.replicate 4 (.advance (answer 0 .idle "t"))

/-- An occurrence that is due at `now`, up to the next timer. -/
def occurrence (now : Int) (state : SchedulerSessionState) (ticket : String) (steps : Nat) :
    List SchedulerEvent :=
  [.recompute, .beginJob now] ++ List.replicate steps (.advance (answer now state ticket))

/-- The second occurrence comes while the first one is running. -/
def ownOverlap : List SchedulerEvent :=
  armed ++ occurrence 60000 .idle "t" 7 ++ occurrence 120000 .running "u" 6

theorem overlap_drained_own :
    ∃ s, run (schedulerStep defaultLimits utcPlatform) (new ⟨.empty, .empty⟩) ownOverlap = some s ∧
      ∃ m ∈ s.settlements, m.tracked = true ∧ s.DrainedBy (text "a") 120000 m := by
  obtain ⟨s, hrun, hdraining, hqueued⟩ :
      ∃ s, run (schedulerStep defaultLimits utcPlatform) (new ⟨.empty, .empty⟩) ownOverlap = some s ∧
        s.draining = false ∧ s.pendingOverlaps.get? (text "a") = some 120000 := by
    decide +kernel
  have hdrained := overlap_drained defaultLimits utcPlatform ⟨.empty, .empty⟩ ownOverlap hrun
    (by decide +kernel) hdraining
  exact ⟨s, hrun, hdrained.1 _ _ hqueued⟩

/-- The session is running for another user: its overlap waits for no admission. -/
theorem overlap_orphaned :
    (run (schedulerStep defaultLimits utcPlatform) (new ⟨.empty, .empty⟩)
        (armed ++ occurrence 60000 .running "t" 6)).any
      (fun s => !s.draining && s.pendingOverlaps.get? (text "a") = some 60000 &&
        s.op.isNone && s.queue = [] && s.settlements.isEmpty) = true := by
  decide +kernel

end SchedulerRuntime

end PiDaemon.Scheduler
