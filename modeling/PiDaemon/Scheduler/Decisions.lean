import PiDaemon.Scheduler.Overlaps

/-!
# Decisions before admissions

The first write of a decision is to be in the store before the gateway is called.

* `DecisionInv`: the work that goes on to the gateway has a committed decision, and so
  has an overlap, wherever it waits;
* `admitted_decided`: so in every run in which no decision goes on after a conflict;
* `admitted_undecided`: a schedule that is disabled in between is admitted all the same.
-/

namespace PiDaemon.Scheduler

open Lib Durability FileScheduleStore List

namespace SchedulerRuntime

/-- A revision for the occurrence has been committed, of a schedule that existed and
was enabled. -/
def Decided (commits : List Commit) (scheduleId : JsString) (scheduledFor : Int) : Prop :=
  ∃ c ∈ commits, c.after.scheduleId = scheduleId ∧
    c.after.lastTrigger.map ScheduleLastTrigger.scheduledFor = some (isoTimestamp scheduledFor) ∧
      c.before.any ScheduleResource.enabled = true

instance (commits : List Commit) (scheduleId : JsString) (scheduledFor : Int) :
    Decidable (Decided commits scheduleId scheduledFor) :=
  inferInstanceAs (Decidable (∃ c ∈ commits, c.after.scheduleId = scheduleId ∧
    c.after.lastTrigger.map ScheduleLastTrigger.scheduledFor = some (isoTimestamp scheduledFor) ∧
      c.before.any ScheduleResource.enabled = true))

def OccurrenceCont.isDrain : OccurrenceCont → Bool
  | .due _ _ _ => false
  | .drain => true

/-- The call persists a decision for the schedule that it was made for, while that is
enabled, or finds no schedule at all. -/
def CallInTime (s : SchedulerRuntime) (input : SchedulerInput) : Await → Prop
  | .persist schedule _ (.decided d) =>
    OccurrenceCont.isDrain d.cont ∨ ∀ current ∈ s.store.get schedule.scheduleId,
      current.revision = schedule.revision → current.enabled = true
  | .reread scheduleId (.decided d) =>
    OccurrenceCont.isDrain d.cont ∨ s.draining ∨ input.gatewayDraining ∨
      s.store.get scheduleId = none
  | _ => True

instance (s : SchedulerRuntime) (input : SchedulerInput) :
    (call : Await) → Decidable (CallInTime s input call)
  | .persist schedule _ (.decided d) =>
    inferInstanceAs (Decidable (OccurrenceCont.isDrain d.cont ∨
      ∀ current ∈ s.store.get schedule.scheduleId,
        current.revision = schedule.revision → current.enabled = true))
  | .reread scheduleId (.decided d) =>
    inferInstanceAs (Decidable (OccurrenceCont.isDrain d.cont ∨ s.draining ∨
      input.gatewayDraining ∨ s.store.get scheduleId = none))
  | .persist _ _ (.normalized _ _) | .persist _ _ (.returned _) | .persist _ _ (.admitted _ _ _)
  | .persist _ _ (.finished _ _) | .reread _ (.normalized _ _) | .reread _ (.returned _)
  | .reread _ (.admitted _ _ _) | .reread _ (.finished _ _) | .normalizeList _ | .dueList _
  | .armList | .drainGet _ _ | .resolve _ | .admission _ _ => .isTrue trivial

def DecidesInTime (s : SchedulerRuntime) : SchedulerEvent → Prop
  | .advance input => ∀ call ∈ s.op, CallInTime s input call
  | _ => True

instance (s : SchedulerRuntime) : (event : SchedulerEvent) → Decidable (s.DecidesInTime event)
  | .advance input => inferInstanceAs (Decidable (∀ call ∈ s.op, CallInTime s input call))
  | .create _ _ _ | .update _ _ _ _ _ | .delete _ _ _ | .start | .stop | .recompute | .beginDrain
  | .beginJob _ | .settle _ _ | .restart => .isTrue trivial

/-- What has been committed before the call. -/
def CallDecided (commits : List Commit) : Await → Prop
  | .drainGet scheduleId scheduledFor => Decided commits scheduleId scheduledFor
  | .persist schedule state (.decided d) =>
    state.lastTrigger.map ScheduleLastTrigger.scheduledFor = some (isoTimestamp d.scheduledFor) ∧
      (OccurrenceCont.isDrain d.cont → Decided commits schedule.scheduleId d.scheduledFor)
  | .reread scheduleId (.decided d) =>
    OccurrenceCont.isDrain d.cont → Decided commits scheduleId d.scheduledFor
  | .resolve d => Decided commits d.schedule.scheduleId d.scheduledFor
  | _ => True

def FlowDecided (commits : List Commit) (flow : Flow) : Prop :=
  ∀ call, flow = .await call → CallDecided commits call

structure DecisionInv (s : SchedulerRuntime) : Prop where
  keyed : s.store.Keyed
  call : ∀ call, s.op = some call → CallDecided s.commits call
  queue : ∀ scheduleId scheduledFor, .drain scheduleId scheduledFor ∈ s.queue →
    Decided s.commits scheduleId scheduledFor
  pending : ∀ scheduleId scheduledFor, s.pendingOverlaps.get? scheduleId = some scheduledFor →
    Decided s.commits scheduleId scheduledFor

section
variable {s t : SchedulerRuntime} {platform : SchedulePlatform} {limits : ScheduleLimits}
  {commits commits' : List Commit}

/-! ## The parts of the work -/

theorem Decided.mono {scheduleId : JsString} {scheduledFor : Int}
    (h : Decided commits scheduleId scheduledFor) (hsub : commits ⊆ commits') :
    Decided commits' scheduleId scheduledFor := by
  obtain ⟨c, hc, hdecided⟩ := h
  exact ⟨c, hsub hc, hdecided⟩

theorem CallDecided.mono {call : Await} (h : CallDecided commits call) (hsub : commits ⊆ commits') :
    CallDecided commits' call := by
  cases call with
  | drainGet | resolve => exact Decided.mono h hsub
  | persist schedule state k =>
    cases k with
    | decided => exact ⟨h.1, fun hdrain => (h.2 hdrain).mono hsub⟩
    | normalized | returned | admitted | finished => trivial
  | reread scheduleId k =>
    cases k with
    | decided => exact fun hdrain => (h hdrain).mono hsub
    | normalized | returned | admitted | finished => trivial
  | normalizeList | dueList | armList | admission => trivial

theorem flowDecided_arm (commits : List Commit) : FlowDecided commits .arm := by
  rintro _ ⟨⟩

theorem normalizeLoop_decided (clock now : Int) (schedules : List ScheduleResource) :
    FlowDecided commits (normalizeLoop platform clock now schedules) := by
  induction schedules with
  | nil =>
    rintro call ⟨⟩
    trivial
  | cons schedule rest ih =>
    unfold normalizeLoop
    split
    · exact ih
    · rintro call ⟨⟩
      trivial
    · rintro call ⟨⟩

theorem startDecision_decided {schedule : ScheduleResource} {scheduledFor : Int}
    {cont : OccurrenceCont} (observedAt : Int)
    (h : OccurrenceCont.isDrain cont → Decided commits schedule.scheduleId scheduledFor) :
    FlowDecided commits (startDecision platform schedule scheduledFor observedAt cont) := by
  unfold startDecision
  split
  · rintro call ⟨⟩
  · rintro call ⟨⟩
    exact ⟨rfl, h⟩

theorem finishSchedule_decided {after : Flow} (h : FlowDecided commits after) (now : Int)
    (current : ScheduleResource) (rest : List ScheduleResource) :
    FlowDecided commits (finishSchedule platform now current rest after) := by
  unfold finishSchedule
  split
  · rintro call ⟨⟩
  split
  · rintro call ⟨⟩
    trivial
  · exact h

theorem dueLoop_decided (now : Int) (schedules : List ScheduleResource) :
    FlowDecided commits (dueLoop platform now schedules) := by
  induction schedules with
  | nil => rintro call ⟨⟩
  | cons original rest ih =>
    unfold dueLoop
    split
    · exact ih
    split
    · rintro call ⟨⟩
    · exact finishSchedule_decided ih now original rest
    · exact startDecision_decided now (by rintro ⟨⟩)

theorem continueRun_decided (now : Int) (current : ScheduleResource) (times : List Int)
    (rest : List ScheduleResource) :
    FlowDecided commits (continueRun platform now current times rest) := by
  cases times with
  | nil => exact finishSchedule_decided (dueLoop_decided now rest) now current rest
  | cons => exact startDecision_decided now (by rintro ⟨⟩)

theorem enter_decided {flow : Flow} (h : FlowDecided s.commits flow) {call : Await}
    (hop : (s.enter flow).op = some call) : CallDecided s.commits call := by
  cases flow with
  | await =>
    cases hop
    exact h call rfl
  | arm =>
    simp only [enter, startArm] at hop
    split at hop
    · cases hop
      trivial
    · cases hop
  | throws => cases hop

theorem decisionReturned_decided {current : Option ScheduleResource} {cont : OccurrenceCont}
    {call : Await} (hop : (s.decisionReturned platform current cont).op = some call) :
    CallDecided s.commits call := by
  cases cont with
  | drain => exact enter_decided (flowDecided_arm _) hop
  | due now times rest =>
    cases current with
    | none => exact enter_decided (dueLoop_decided now rest) hop
    | some current => exact enter_decided (continueRun_decided now current times rest) hop

/-! ## Steps -/

theorem DecisionInv.frame (h : DecisionInv s) (hstore : t.store = s.store)
    (hqueue : t.queue = s.queue) (hpending : t.pendingOverlaps = s.pendingOverlaps)
    (hcommits : t.commits = s.commits)
    (hcall : ∀ call, t.op = some call → CallDecided s.commits call) : DecisionInv t := by
  constructor
  · rw [hstore]
    exact h.keyed
  · rw [hcommits]
    exact hcall
  · rw [hqueue, hcommits]
    exact h.queue
  · rw [hpending, hcommits]
    exact h.pending

theorem DecisionInv.onlyOp (h : DecisionInv s) (hop : OnlyOp s t)
    (hcall : ∀ call, t.op = some call → CallDecided s.commits call) : DecisionInv t :=
  h.frame hop.store hop.queue hop.pendingOverlaps hop.commits hcall

theorem DecisionInv.sameWork (h : DecisionInv s) (hsame : SameWork s t) : DecisionInv t :=
  h.frame hsame.store hsame.queue hsame.pendingOverlaps hsame.commits (by rw [hsame.op]; exact h.call)

theorem DecisionInv.enter (h : DecisionInv s) {flow : Flow} (hflow : FlowDecided s.commits flow) :
    DecisionInv (s.enter flow) :=
  h.onlyOp (enter_onlyOp s flow) fun _ hop => enter_decided hflow hop

theorem DecisionInv.decisionReturned (h : DecisionInv s) (current : Option ScheduleResource)
    (cont : OccurrenceCont) : DecisionInv (s.decisionReturned platform current cont) :=
  h.onlyOp (decisionReturned_onlyOp platform s current cont) fun _ hop => decisionReturned_decided hop

theorem subset_record (s : SchedulerRuntime) (scheduleId : JsString)
    (result : FileScheduleStore × Except ScheduleError ScheduleResource) :
    s.commits ⊆ (s.record scheduleId result).commits := by
  unfold SchedulerRuntime.record
  split
  · exact List.Subset.refl _
  · exact subset_append_left _ _

theorem DecisionInv.record (h : DecisionInv s) (scheduleId : JsString)
    {result : FileScheduleStore × Except ScheduleError ScheduleResource} (hkeyed : result.1.Keyed) :
    DecisionInv (s.record scheduleId result) := by
  have hsub := subset_record s scheduleId result
  constructor
  · exact hkeyed
  · intro call hop
    exact (h.call call hop).mono hsub
  · intro id scheduledFor hmem
    exact (h.queue id scheduledFor hmem).mono hsub
  · intro id scheduledFor hget
    exact (h.pending id scheduledFor hget).mono hsub

/-- A decision that goes on to the gateway has been committed. -/
theorem DecisionInv.persistReturned (h : DecisionInv s) (current : Option ScheduleResource)
    (input : SchedulerInput) (k : PersistCont)
    (hdecided : ∀ d found, k = .decided d → current = some found → s.draining = false →
      input.gatewayDraining = false → Decided s.commits found.scheduleId d.scheduledFor) :
    DecisionInv (s.persistReturned platform current input k) := by
  cases k with
  | normalized => exact h.enter (normalizeLoop_decided _ _ _)
  | finished => exact h.enter (dueLoop_decided _ _)
  | returned d => exact h.decisionReturned current d.cont
  | admitted d =>
    cases current with
    | none => exact h.decisionReturned none d.cont
    | some found =>
      exact (h.sameWork (trackAdmission_sameWork _ _ _ _ _)).decisionReturned (some found) d.cont
  | decided d =>
    cases current with
    | none => exact h.decisionReturned none d.cont
    | some found =>
      rw [SchedulerRuntime.persistReturned]
      split
      · exact h.decisionReturned (some found) d.cont
      rename_i hnot
      simp only [not_or, Bool.not_eq_true] at hnot
      refine h.frame rfl rfl rfl rfl ?_
      rintro _ ⟨⟩
      exact hdecided d found rfl rfl hnot.1 hnot.2

theorem updateCall_ok {schedule : ScheduleResource} {state : ScheduleRuntimeState}
    {input : SchedulerInput} {resource : ScheduleResource} (hkeyed : s.store.Keyed)
    (h : (s.updateCall limits platform schedule state input).2 = .ok resource) :
    ∃ current, s.store.get schedule.scheduleId = some current ∧
      current.revision = schedule.revision ∧ resource.scheduleId = schedule.scheduleId ∧
      resource.lastTrigger = state.lastTrigger ∧ resource.nextTriggerAt = state.nextTriggerAt := by
  obtain ⟨-, hresource, -⟩ := updateRuntimeState_ok h
  obtain ⟨current, _, hget, hrevision, -, rfl, -⟩ := runtimeResource_ok.mp hresource
  have hid : current.scheduleId = schedule.scheduleId := hkeyed _ _ hget
  exact ⟨current, hget, hrevision, hid, rfl, rfl⟩

section
variable (h : DecisionInv s)
include h

theorem DecisionInv.persistStep (schedule : ScheduleResource)
    (state : ScheduleRuntimeState) (k : PersistCont) (input : SchedulerInput)
    (hop : s.op = some (.persist schedule state k)) (htime : s.DecidesInTime (.advance input)) :
    DecisionInv (s.persistStep limits platform schedule state k input) := by
  have hcall := h.call _ hop
  have hrecord : DecisionInv
      (s.record schedule.scheduleId (s.updateCall limits platform schedule state input)) :=
    h.record _ (h.keyed.updateRuntimeState _ _ _ _ _)
  unfold SchedulerRuntime.persistStep
  simp only
  split
  · rename_i resource hok
    apply hrecord.persistReturned
    rintro d _ rfl ⟨⟩ - -
    obtain ⟨current, hget, hrevision, hid, hlast, -⟩ := updateCall_ok h.keyed hok
    rcases htime _ hop with hdrain | henabled
    · rw [hid]
      exact (hcall.2 hdrain).mono (subset_record _ _ _)
    refine ⟨⟨s.store.get schedule.scheduleId, resource⟩, ?_, rfl, ?_, ?_⟩
    · unfold SchedulerRuntime.record
      simp only [hok]
      exact mem_append_right _ (mem_singleton_self _)
    · rw [hlast]
      exact hcall.1
    · rw [hget]
      exact henabled current hget hrevision
  · split
    · refine hrecord.frame rfl rfl rfl rfl ?_
      rintro call ⟨⟩
      cases k with
      | decided => exact fun hdrain => (hcall.2 hdrain).mono (subset_record _ _ _)
      | normalized | returned | admitted | finished => trivial
    · cases k with
      | admitted d => exact hrecord.decisionReturned (some d.schedule) d.cont
      | normalized | decided | returned | finished =>
        refine hrecord.frame rfl rfl rfl rfl ?_
        rintro call ⟨⟩

theorem DecisionInv.resolveStep (d : Decision) (input : SchedulerInput)
    (hop : s.op = some (.resolve d)) : DecisionInv (s.resolveStep platform d input) := by
  have hdecided : Decided s.commits d.schedule.scheduleId d.scheduledFor := h.call _ hop
  unfold SchedulerRuntime.resolveStep
  split
  · exact h.decisionReturned _ _
  split
  · exact h.decisionReturned _ _
  split
  · split
    · refine h.frame rfl rfl rfl rfl ?_
      rintro call ⟨⟩
      trivial
    · constructor
      · exact h.keyed
      · rintro call ⟨⟩
        trivial
      · exact h.queue
      · intro scheduleId scheduledFor hget
        simp only [OrderedMap.get?_set] at hget
        split at hget
        · rename_i heq
          cases hget
          rw [← heq]
          exact hdecided
        · exact h.pending scheduleId scheduledFor hget
    · exact h.decisionReturned _ _
  · refine h.frame rfl rfl rfl rfl ?_
    rintro call ⟨⟩
    trivial

theorem DecisionInv.advance (input : SchedulerInput) {call : Await}
    (hop : s.op = some call) (htime : s.DecidesInTime (.advance input)) :
    DecisionInv (s.advance limits platform input call) := by
  cases call with
  | normalizeList => exact h.enter (normalizeLoop_decided _ _ _)
  | dueList => exact h.enter (dueLoop_decided _ _)
  | armList =>
    refine h.frame rfl rfl rfl rfl ?_
    rintro call ⟨⟩
  | drainGet scheduleId scheduledFor =>
    have hdecided : Decided s.commits scheduleId scheduledFor := h.call _ hop
    simp only [SchedulerRuntime.advance]
    split
    · exact h.enter (flowDecided_arm _)
    rename_i latest hget
    split
    · apply h.enter
      apply startDecision_decided
      rw [h.keyed scheduleId latest hget]
      exact fun _ => hdecided
    · exact h.enter (flowDecided_arm _)
  | persist schedule state k => exact h.persistStep schedule state k input hop htime
  | reread scheduleId =>
    apply h.persistReturned
    rintro d found rfl hget hrunning hgateway
    rw [h.keyed scheduleId found hget]
    apply h.call _ hop
    have hcall := htime _ hop
    simpa [CallInTime, hrunning, hgateway, hget] using hcall
  | resolve d => exact h.resolveStep d input hop
  | admission =>
    simp only [SchedulerRuntime.advance]
    split
    · exact h.decisionReturned _ _
    refine h.frame rfl rfl rfl rfl ?_
    rintro call ⟨⟩
    trivial

theorem DecisionInv.settleStep (m : Settlement) (input : SchedulerInput) :
    DecisionInv (s.settleStep limits platform m input) := by
  rcases settleStep_cases platform limits s m input with hsame | ⟨_, _, -, hsame⟩ | hfinish
  · exact h.sameWork hsame
  · exact (h.record _ (h.keyed.updateRuntimeState _ _ _ _ _)).sameWork hsame
  · rw [hfinish]
    rcases finishSettlement_cases s m with
      hsame | ⟨scheduledFor, hget, hqueue, hpending, hstore, hop, hcommits, -⟩
    · exact h.sameWork hsame
    constructor
    · rw [hstore]
      exact h.keyed
    · rw [hop, hcommits]
      exact h.call
    · intro id instant hmem
      rw [hqueue, mem_append, mem_singleton] at hmem
      rw [hcommits]
      rcases hmem with hmem | heq
      · exact h.queue id instant hmem
      · cases heq
        exact h.pending _ _ hget
    · intro id instant hget'
      rw [hpending] at hget'
      rw [hcommits]
      exact h.pending id instant (OrderedMap.get?_of_delete hget').2

theorem DecisionInv.beginJob {now : Int} (hbegin : s.beginJob now = some t) :
    DecisionInv t := by
  unfold SchedulerRuntime.beginJob at hbegin
  split at hbegin
  · rename_i queue _ hqueue
    have hrest : ∀ id instant, .drain id instant ∈ queue → Decided s.commits id instant := by
      intro id instant hmem
      apply h.queue
      rw [hqueue]
      exact mem_cons_of_mem _ hmem
    cases hbegin
    split
    · refine ⟨h.keyed, ?_, hrest, h.pending⟩
      rintro call ⟨⟩
      trivial
    · exact ⟨h.keyed, h.call, hrest, h.pending⟩
  · rename_i scheduleId scheduledFor queue _ hqueue
    cases hbegin
    refine ⟨h.keyed, ?_, ?_, h.pending⟩
    · rintro call ⟨⟩
      apply h.queue
      rw [hqueue]
      exact mem_cons_self
    · intro id instant hmem
      apply h.queue
      rw [hqueue]
      exact mem_cons_of_mem _ hmem
  · cases hbegin
  · cases hbegin

theorem schedulerStep_decisionInv {event : SchedulerEvent}
    (htime : s.DecidesInTime event) (hstep : schedulerStep limits platform s event = some t) :
    DecisionInv t := by
  cases event with
  | create =>
    cases hstep
    exact h.record _ (h.keyed.create _ _ _)
  | update =>
    cases hstep
    exact h.record _ (h.keyed.update _ _ _ _ _)
  | delete =>
    cases hstep
    exact ⟨h.keyed.delete _ _ _, h.call, h.queue, h.pending⟩
  | start =>
    cases hstep
    split
    · exact h
    refine ⟨h.keyed, h.call, ?_, h.pending⟩
    intro id instant hmem
    exact h.queue id instant (by simpa using hmem)
  | stop =>
    cases hstep
    exact h.frame rfl rfl rfl rfl h.call
  | recompute =>
    cases hstep
    refine ⟨h.keyed, h.call, ?_, h.pending⟩
    intro id instant hmem
    exact h.queue id instant (by simpa using hmem)
  | beginDrain =>
    cases hstep
    refine ⟨h.keyed, h.call, h.queue, ?_⟩
    intro id instant hget
    cases hget
  | beginJob => exact h.beginJob hstep
  | advance input =>
    obtain ⟨call, hop, rfl⟩ := Option.map_eq_some_iff.mp hstep
    exact h.advance input hop htime
  | settle id input =>
    obtain ⟨m, -, rfl⟩ := Option.map_eq_some_iff.mp hstep
    exact h.settleStep m input
  | restart =>
    simp only [schedulerStep] at hstep
    split at hstep
    · cases hstep
    rename_i hload
    cases hstep
    refine ⟨load_keyed hload, ?_, ?_, ?_⟩
    · intro call hop
      cases hop
    · intro id instant hmem
      cases hmem
    · intro id instant hget
      cases hget

end

theorem decisionInv_new (directory : OrderedMap JsString ScheduleFile) :
    DecisionInv (new ⟨.empty, directory⟩) := by
  refine ⟨keyed_empty directory, ?_, ?_, ?_⟩
  · intro call hop
    cases hop
  · intro id instant hmem
    cases hmem
  · intro id instant hget
    cases hget

end

/-- **Decisions are durable before admissions**, when none goes on after a conflict. -/
theorem admitted_decided (limits : ScheduleLimits) (platform : SchedulePlatform)
    (directory : OrderedMap JsString ScheduleFile) (events : List SchedulerEvent)
    {s t : SchedulerRuntime} {event : SchedulerEvent} {admitted : Admit}
    (hrun : run (schedulerStep limits platform) (new ⟨.empty, directory⟩) events = some s)
    (htime : Meets (schedulerStep limits platform) DecidesInTime (new ⟨.empty, directory⟩) events)
    (hstep : schedulerStep limits platform s event = some t)
    (hadmits : t.admits = s.admits ++ [admitted]) :
    Decided s.commits admitted.scheduleId admitted.scheduledFor := by
  have hinv : DecisionInv s := by
    apply run_invariant_of_meets _ (decisionInv_new directory) htime hrun
    intro s event t h htime hstep
    exact schedulerStep_decisionInv h htime hstep
  rcases schedulerStep_admits platform limits hstep with hsame | ⟨_, _, hop, -, hadmit⟩
  · rw [hsame] at hadmits
    simp at hadmits
  rw [hadmits, append_cancel_left_eq] at hadmit
  cases hadmit
  exact hinv.call _ hop

/-! ## Runs -/

/-- The due schedules have been listed. -/
def listed : List SchedulerEvent :=
  armed ++ [.recompute, .beginJob 60000] ++ List.replicate 2 (.advance (answer 60000 .idle "t"))

theorem admitted_decided_due :
    ∃ s t, run (schedulerStep defaultLimits utcPlatform) (new ⟨.empty, .empty⟩)
        (listed ++ [.advance (answer 60000 .idle "t")]) = some s ∧
      schedulerStep defaultLimits utcPlatform s (.advance (answer 60000 .idle "t")) = some t ∧
        t.admits = s.admits ++ [⟨text "a", 60000⟩] ∧ Decided s.commits (text "a") 60000 := by
  obtain ⟨s, hrun, t, hstep, hadmits⟩ :
      ∃ s, run (schedulerStep defaultLimits utcPlatform) (new ⟨.empty, .empty⟩)
          (listed ++ [.advance (answer 60000 .idle "t")]) = some s ∧
        ∃ t, schedulerStep defaultLimits utcPlatform s (.advance (answer 60000 .idle "t")) = some t ∧
          t.admits = s.admits ++ [⟨text "a", 60000⟩] := by
    decide +kernel
  exact ⟨s, t, hrun, hstep, hadmits,
    admitted_decided defaultLimits utcPlatform .empty _ hrun (by decide +kernel) hstep hadmits⟩

/-- The schedule is disabled after it has been listed: the persist conflicts, and its
occurrence is admitted without a decision. -/
theorem admitted_undecided :
    (run (schedulerStep defaultLimits utcPlatform) (new ⟨.empty, .empty⟩)
        (listed ++ [.update (text "a") 1 { everyMinute with enabled := false } 60000 .done] ++
          List.replicate 2 (.advance (answer 60000 .idle "t")))).any (fun s =>
      (schedulerStep defaultLimits utcPlatform s (.advance (answer 60000 .idle "t"))).any fun t =>
        t.admits = s.admits ++ [⟨text "a", 60000⟩] && !Decided s.commits (text "a") 60000) = true := by
  decide +kernel

end SchedulerRuntime

end PiDaemon.Scheduler
