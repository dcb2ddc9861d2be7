import PiDaemon.Scheduler.Cursor
import PiDaemon.Scheduler.Decisions
import PiDaemon.Scheduler.Recovery

/-!
# What the work holds of a schedule

The cursor of one schedule, the copies of it that the parts of the scheduler hold, and
the occurrences that wait.  `CallOk` is what each call of the serialized work is about to
do with them.

* `Evolves`: the record of the schedule may be newer, with the same cursor;
* `CallOk.evolves`: a call that waits is not disturbed by that;
* `dueLoop_ok`, `continueRun_ok`: each call that the loops end in is sound.
-/

namespace PiDaemon.Scheduler

open Lib Durability List

namespace SchedulerRuntime

section
variable (id : JsString)

/-! ## The occurrences of a schedule -/

/-- The cursors that have been committed. -/
def cursors (s : SchedulerRuntime) : List (WithBot Int) :=
  (s.commits.filter fun c => c.after.scheduleId = id).map fun c => c.after.cursor

/-- The occurrences that have been handed to the gateway. -/
def admittedTimes (s : SchedulerRuntime) : List Int :=
  (s.admits.filter fun a => a.scheduleId = id).map Admit.scheduledFor

def Job.drainTime : Job → Option Int
  | .recompute => none
  | .drain scheduleId scheduledFor => if scheduleId = id then some scheduledFor else none

/-- The overlaps that wait, for a settlement or for the serialized work. -/
def waiting (s : SchedulerRuntime) : List Int :=
  s.queue.filterMap (Job.drainTime id) ++ (s.pendingOverlaps.get? id).toList

/-- The occurrence is not after all that has been committed. -/
def Past (s : SchedulerRuntime) (t : Int) : Prop :=
  ∃ cursor ∈ s.cursors id, (t : WithBot Int) ≤ cursor

/-- The occurrence is held by the serialized work alone. -/
def Held (s : SchedulerRuntime) (t : Int) : Prop :=
  t ∉ s.waiting id ∧ t ∉ s.admittedTimes id

/-- The occurrence is no earlier than the cursor. -/
def AtLeast (s : SchedulerRuntime) (t : Int) : Prop :=
  ∀ record, s.store.get id = some record → record.cursor ≤ (t : Int)

/-- The occurrence is later than the cursor. -/
def Beyond (s : SchedulerRuntime) (t : Int) : Prop :=
  ∀ record, s.store.get id = some record → record.cursor < (t : Int)

end

/-! ## Copies -/

/-- The record that a copy has become. -/
structure Newer (copy record : ScheduleResource) : Prop where
  revision : record = copy ∨ copy.revision < record.revision
  cursor : copy.cursor ≤ record.cursor
  cron : record.cron = copy.cron
  timezone : record.timezone = copy.timezone

theorem Newer.refl (record : ScheduleResource) : Newer record record :=
  ⟨Or.inl rfl, le_refl _, rfl, rfl⟩

theorem Newer.trans {a b c : ScheduleResource} (hab : Newer a b) (hbc : Newer b c) : Newer a c := by
  refine ⟨?_, hab.cursor.trans hbc.cursor, hbc.cron.trans hab.cron, hbc.timezone.trans hab.timezone⟩
  rcases hbc.revision with rfl | hlt
  · exact hab.revision
  rcases hab.revision with rfl | hlt'
  · exact Or.inr hlt
  · exact Or.inr (hlt'.trans hlt)

/-- A copy of the revision of the record is the record. -/
theorem Newer.eq_of_revision {copy record : ScheduleResource} (h : Newer copy record)
    (hrevision : record.revision = copy.revision) : record = copy := by
  rcases h.revision with heq | _
  · exact heq
  · omega

section
variable (platform : SchedulePlatform) (id : JsString)

/-- A copy of the schedule that a part of the work holds. -/
def Copy (s : SchedulerRuntime) (copy : ScheduleResource) : Prop :=
  Timed platform copy ∧ ∃ record, s.store.get id = some record ∧ Newer copy record

/-- The copies in the rest of the loop of `#runDue`, after the schedule in work. -/
def RestCopies (s : SchedulerRuntime) (scheduleId : JsString) (rest : List ScheduleResource) :
    Prop :=
  (rest.map ScheduleResource.scheduleId).Nodup ∧
    ∀ copy ∈ rest, copy.scheduleId = id → scheduleId ≠ id ∧ Copy platform id s copy ∧
      ∀ record, s.store.get id = some record → record.cursor ≤ copy.cursor

/-! ## Calls -/

def ContRest (s : SchedulerRuntime) (scheduleId : JsString) : OccurrenceCont → Prop
  | .drain => True
  | .due _ _ rest => RestCopies platform id s scheduleId rest

/-- The occurrences that are run after this one. -/
def ContTimes (t : Int) : OccurrenceCont → Prop
  | .drain => True
  | .due now times _ => (t :: times).Pairwise (· < ·) ∧ ∀ x ∈ times, x ≤ now

def OnTime (t : Int) : OccurrenceCont → Prop
  | .drain => True
  | .due now _ _ => t ≤ now

/-- The trigger after the occurrence of a decision. -/
def NextOk (d : Decision) : Prop :=
  d.scheduledFor < d.next ∧ Occurs platform d.schedule d.next

/-- A decision that has not been persisted yet. -/
structure Undecided (s : SchedulerRuntime) (d : Decision) : Prop where
  copy : Copy platform id s d.schedule
  next : NextOk platform d
  times : ContTimes d.scheduledFor d.cont
  held : s.Held id d.scheduledFor
  drain : OccurrenceCont.isDrain d.cont = true → s.Past id d.scheduledFor
  due : OccurrenceCont.isDrain d.cont = false → s.Beyond id d.scheduledFor

/-- A decision that goes on: its occurrence is the latest one. -/
structure DecidedNow (s : SchedulerRuntime) (d : Decision) : Prop where
  copy : Copy platform id s d.schedule
  next : NextOk platform d
  times : ContTimes d.scheduledFor d.cont
  onTime : OnTime d.scheduledFor d.cont
  latest : s.AtLeast id d.scheduledFor

/-- What follows the persist of a record of `scheduleId`. -/
def PersistContOk (s : SchedulerRuntime) (scheduleId : JsString) : PersistCont → Prop
  | .normalized _ rest => ∀ copy ∈ rest, copy.scheduleId = id → Copy platform id s copy
  | .finished _ rest => RestCopies platform id s scheduleId rest
  | .decided d =>
    d.schedule.scheduleId = scheduleId ∧ ContRest platform id s scheduleId d.cont ∧
      (scheduleId = id → Undecided platform id s d)
  | .returned d | .admitted d _ _ =>
    d.schedule.scheduleId = scheduleId ∧ ContRest platform id s scheduleId d.cont ∧
      (scheduleId = id → DecidedNow platform id s d)

/-- The cursor that is persisted. -/
def PersistsCursor (schedule : ScheduleResource) (state : ScheduleRuntimeState) :
    PersistCont → Prop
  | .normalized _ _ | .finished _ _ => lastCursor state.lastTrigger = schedule.cursor
  | .decided d =>
    d.schedule = schedule ∧ lastCursor state.lastTrigger = (d.scheduledFor : Int) ∧
      (OnTime d.scheduledFor d.cont ∨ schedule.missedWakePolicy = .runOnce)
  | .returned d | .admitted d _ _ => lastCursor state.lastTrigger = (d.scheduledFor : Int)

def CallOk (s : SchedulerRuntime) : Await → Prop
  | .normalizeList _ | .dueList _ | .armList => True
  | .drainGet scheduleId t => scheduleId = id → s.Held id t ∧ s.Past id t
  | .persist schedule state k =>
    PersistContOk platform id s schedule.scheduleId k ∧
      (schedule.scheduleId = id → Copy platform id s schedule ∧
        StateTimed platform schedule state ∧ PersistsCursor schedule state k)
  | .reread scheduleId k =>
    PersistContOk platform id s scheduleId k ∧
      ∀ d, k = .decided d → scheduleId = id → OnTime d.scheduledFor d.cont
  | .resolve d =>
    ContRest platform id s d.schedule.scheduleId d.cont ∧
      (d.schedule.scheduleId = id →
        DecidedNow platform id s d ∧ s.Held id d.scheduledFor ∧ s.Past id d.scheduledFor)
  | .admission d _ =>
    ContRest platform id s d.schedule.scheduleId d.cont ∧
      (d.schedule.scheduleId = id → DecidedNow platform id s d)

def FlowOk (s : SchedulerRuntime) (flow : Flow) : Prop :=
  ∀ call, flow = .await call → CallOk platform id s call

end

/-! ## Changes around a call -/

/-- The record of the schedule may be newer. -/
def Advances (id : JsString) (s t : SchedulerRuntime) : Prop :=
  ∀ record, s.store.get id = some record →
    ∃ record', t.store.get id = some record' ∧ Newer record record'

/-- The record of the schedule may be newer, and no occurrence of it has moved. -/
structure Evolves (id : JsString) (s t : SchedulerRuntime) : Prop where
  advances : Advances id s t
  cursor : ∀ record', t.store.get id = some record' → (s.store.get id).isSome = true →
    ∃ record, s.store.get id = some record ∧ record'.cursor = record.cursor
  cursors : s.cursors id ⊆ t.cursors id
  waiting : t.waiting id ⊆ s.waiting id
  admitted : t.admittedTimes id = s.admittedTimes id

section
variable {platform : SchedulePlatform} {id : JsString} {s t : SchedulerRuntime}

variable {scheduleId : JsString} {copy : ScheduleResource}

theorem Copy.advances (h : Copy platform id s copy) (hst : Advances id s t) :
    Copy platform id t copy := by
  obtain ⟨htimed, record, hget, hnewer⟩ := h
  obtain ⟨record', hget', hnewer'⟩ := hst record hget
  exact ⟨htimed, record', hget', hnewer.trans hnewer'⟩

/-- A part of the work that holds a copy sees the same cursor. -/
theorem Evolves.cursor_le (h : Evolves id s t) (hcopy : Copy platform id s copy)
    {bound : WithBot Int} (hs : ∀ record, s.store.get id = some record → record.cursor ≤ bound) :
    ∀ record, t.store.get id = some record → record.cursor ≤ bound := by
  intro record' hget'
  obtain ⟨-, record, hget, -⟩ := hcopy
  obtain ⟨found, hfound, heq⟩ := h.cursor record' hget' (by rw [hget]; rfl)
  rw [heq]
  exact hs found hfound

theorem Past.evolves {x : Int} (h : s.Past id x) (hst : Evolves id s t) : t.Past id x := by
  obtain ⟨cursor, hcursor, hle⟩ := h
  exact ⟨cursor, hst.cursors hcursor, hle⟩

theorem Held.evolves {x : Int} (h : s.Held id x) (hst : Evolves id s t) : t.Held id x :=
  ⟨fun hmem => h.1 (hst.waiting hmem), by rw [hst.admitted]; exact h.2⟩

theorem AtLeast.evolves {x : Int} (h : s.AtLeast id x) (hcopy : Copy platform id s copy)
    (hst : Evolves id s t) : t.AtLeast id x :=
  hst.cursor_le hcopy h

theorem Beyond.evolves {x : Int} (h : s.Beyond id x) (hcopy : Copy platform id s copy)
    (hst : Evolves id s t) : t.Beyond id x := by
  intro record' hget'
  obtain ⟨-, _, hget, -⟩ := hcopy
  obtain ⟨found, hfound, heq⟩ := hst.cursor record' hget' (by rw [hget]; rfl)
  rw [heq]
  exact h found hfound

theorem RestCopies.evolves {rest : List ScheduleResource}
    (h : RestCopies platform id s scheduleId rest) (hst : Evolves id s t) :
    RestCopies platform id t scheduleId rest := by
  refine ⟨h.1, fun copy hmem hid => ?_⟩
  obtain ⟨hne, hcopy, hle⟩ := h.2 copy hmem hid
  exact ⟨hne, hcopy.advances hst.advances, hst.cursor_le hcopy hle⟩

theorem ContRest.evolves {cont : OccurrenceCont} (h : ContRest platform id s scheduleId cont)
    (hst : Evolves id s t) : ContRest platform id t scheduleId cont := by
  cases cont with
  | drain => trivial
  | due => exact RestCopies.evolves h hst

theorem Undecided.evolves {d : Decision} (h : Undecided platform id s d) (hst : Evolves id s t) :
    Undecided platform id t d where
  copy := h.copy.advances hst.advances
  next := h.next
  times := h.times
  held := h.held.evolves hst
  drain hdrain := (h.drain hdrain).evolves hst
  due hdue := (h.due hdue).evolves h.copy hst

theorem DecidedNow.evolves {d : Decision} (h : DecidedNow platform id s d)
    (hst : Evolves id s t) : DecidedNow platform id t d where
  copy := h.copy.advances hst.advances
  next := h.next
  times := h.times
  onTime := h.onTime
  latest := h.latest.evolves h.copy hst

theorem PersistContOk.evolves {k : PersistCont} (h : PersistContOk platform id s scheduleId k)
    (hst : Evolves id s t) : PersistContOk platform id t scheduleId k := by
  cases k with
  | normalized =>
    intro copy hmem hid
    exact (h copy hmem hid).advances hst.advances
  | finished => exact RestCopies.evolves h hst
  | decided | returned | admitted =>
    exact ⟨h.1, h.2.1.evolves hst, fun hid => (h.2.2 hid).evolves hst⟩

theorem CallOk.evolves {call : Await} (h : CallOk platform id s call) (hst : Evolves id s t) :
    CallOk platform id t call := by
  cases call with
  | normalizeList | dueList | armList => trivial
  | drainGet =>
    intro hid
    exact ⟨(h hid).1.evolves hst, (h hid).2.evolves hst⟩
  | persist =>
    refine ⟨h.1.evolves hst, fun hid => ?_⟩
    obtain ⟨hcopy, hstate, hcursor⟩ := h.2 hid
    exact ⟨hcopy.advances hst.advances, hstate, hcursor⟩
  | reread => exact ⟨h.1.evolves hst, h.2⟩
  | resolve =>
    refine ⟨h.1.evolves hst, fun hid => ?_⟩
    obtain ⟨hdecided, hheld, hpast⟩ := h.2 hid
    exact ⟨hdecided.evolves hst, hheld.evolves hst, hpast.evolves hst⟩
  | admission => exact ⟨h.1.evolves hst, fun hid => (h.2 hid).evolves hst⟩

/-! ## The loops -/

theorem flowOk_arm : FlowOk platform id s .arm := by
  rintro _ ⟨⟩

theorem flowOk_throws : FlowOk platform id s .throws := by
  rintro _ ⟨⟩

theorem normalizeLoop_ok {clock now : Int} {schedules : List ScheduleResource}
    (h : ∀ copy ∈ schedules, copy.scheduleId = id → Copy platform id s copy) :
    FlowOk platform id s (normalizeLoop platform clock now schedules) := by
  induction schedules with
  | nil =>
    rintro call ⟨⟩
    trivial
  | cons schedule rest ih =>
    have hrest : ∀ copy ∈ rest, copy.scheduleId = id → Copy platform id s copy :=
      fun copy hmem => h copy (mem_cons_of_mem _ hmem)
    unfold normalizeLoop
    split
    · exact ih hrest
    · rename_i next hnormalize
      rintro call ⟨⟩
      refine ⟨hrest, fun hid => ⟨h schedule mem_cons_self hid, ?_, rfl⟩⟩
      exact normalizeSchedule_timed hnormalize
    · exact flowOk_throws

theorem startDecision_ok {schedule : ScheduleResource} {t observedAt : Int} {cont : OccurrenceCont}
    (hrest : ContRest platform id s schedule.scheduleId cont)
    (hdecision : schedule.scheduleId = id → Copy platform id s schedule ∧ ContTimes t cont ∧
      s.Held id t ∧ (OccurrenceCont.isDrain cont = true → s.Past id t) ∧
      (OccurrenceCont.isDrain cont = false → s.Beyond id t) ∧
      (OnTime t cont ∨ schedule.missedWakePolicy = .runOnce)) :
    FlowOk platform id s (startDecision platform schedule t observedAt cont) := by
  unfold startDecision
  split
  · exact flowOk_throws
  rename_i next hnext
  rintro _ ⟨⟩
  have hgt := nextOf_gt hnext
  have hoccurs := nextOf_occurs hnext
  refine ⟨⟨rfl, hrest, fun hid => ?_⟩, fun hid => ?_⟩
  · obtain ⟨hcopy, htimes, hheld, hdrain, hdue, -⟩ := hdecision hid
    exact ⟨hcopy, ⟨hgt, hoccurs⟩, htimes, hheld, hdrain, hdue⟩
  obtain ⟨hcopy, -, -, -, -, hontime⟩ := hdecision hid
  refine ⟨hcopy, StateTimed.of_next ?_ hoccurs, rfl, rfl, hontime⟩
  exact WithBot.coe_lt_coe.mpr hgt

/-- The end of the loop for one schedule, whose cursor is not in the future. -/
theorem finishSchedule_ok {now : Int} {current : ScheduleResource} {rest : List ScheduleResource}
    {after : Flow} (hafter : FlowOk platform id s after)
    (hrest : RestCopies platform id s current.scheduleId rest)
    (hcurrent : current.scheduleId = id →
      Copy platform id s current ∧ current.cursor ≤ (now : Int)) :
    FlowOk platform id s (finishSchedule platform now current rest after) := by
  unfold finishSchedule
  split
  · exact flowOk_throws
  rename_i next hnext
  split
  · rintro _ ⟨⟩
    refine ⟨hrest, fun hid => ?_⟩
    obtain ⟨hcopy, hle⟩ := hcurrent hid
    refine ⟨hcopy, StateTimed.of_next ?_ (nextOf_occurs hnext), rfl⟩
    exact lt_of_le_of_lt hle (WithBot.coe_lt_coe.mpr (nextOf_gt hnext))
  · exact hafter

/-- The schedules of the loop are still to come. -/
def DueCopies (platform : SchedulePlatform) (id : JsString) (s : SchedulerRuntime)
    (schedules : List ScheduleResource) : Prop :=
  (schedules.map ScheduleResource.scheduleId).Nodup ∧
    ∀ copy ∈ schedules, copy.scheduleId = id → Copy platform id s copy ∧
      ∀ record, s.store.get id = some record → record.cursor ≤ copy.cursor

theorem RestCopies.due {rest : List ScheduleResource} (h : RestCopies platform id s scheduleId rest) :
    DueCopies platform id s rest :=
  ⟨h.1, fun copy hmem hid => (h.2 copy hmem hid).2⟩

theorem DueCopies.rest {schedule : ScheduleResource} {rest : List ScheduleResource}
    (h : DueCopies platform id s (schedule :: rest)) :
    RestCopies platform id s schedule.scheduleId rest := by
  obtain ⟨hnodup, hcopies⟩ := h
  rw [map_cons, nodup_cons] at hnodup
  refine ⟨hnodup.2, fun copy hmem hid => ⟨?_, hcopies copy (mem_cons_of_mem _ hmem) hid⟩⟩
  intro hsame
  exact hnodup.1 (hsame.trans hid.symm ▸ mem_map_of_mem hmem)

/-- What is beyond the cursor has neither been admitted, nor does it wait. -/
def BeyondHeld (id : JsString) (s : SchedulerRuntime) : Prop :=
  ∀ t, (s.store.get id).isSome = true → s.Beyond id t → s.Held id t

theorem dueLoop_ok (hbeyond : BeyondHeld id s) {now : Int} {schedules : List ScheduleResource}
    (h : DueCopies platform id s schedules) :
    FlowOk platform id s (dueLoop platform now schedules) := by
  induction schedules with
  | nil => exact flowOk_arm
  | cons original rest ih =>
    have hrest := h.rest
    unfold dueLoop
    split
    · exact ih hrest.due
    rename_i first hdue
    split
    · exact flowOk_throws
    · rename_i hselect
      apply finishSchedule_ok (ih hrest.due) hrest
      intro hid
      obtain ⟨hcopy, -⟩ := h.2 original mem_cons_self hid
      obtain ⟨hle, hlt, -⟩ := selectDue_timed hcopy.1 hdue hselect
      exact ⟨hcopy, (le_of_lt hlt).trans (WithBot.coe_le_coe.mpr hle)⟩
    · rename_i t times hselect
      have hcont : ContRest platform id s original.scheduleId (.due now times rest) := hrest
      apply startDecision_ok hcont
      intro hid
      obtain ⟨hcopy, hlevel⟩ := h.2 original mem_cons_self hid
      obtain ⟨-, -, hrun⟩ := selectDue_timed hcopy.1 hdue hselect
      have hcursor : s.Beyond id t := fun record hget =>
        lt_of_le_of_lt (hlevel record hget) (hrun.after t mem_cons_self)
      have hsome : (s.store.get id).isSome = true := by
        obtain ⟨-, record, hget, -⟩ := hcopy
        rw [hget]
        rfl
      refine ⟨hcopy, ⟨hrun.sorted, ?_⟩, hbeyond t hsome hcursor, (by rintro ⟨⟩), fun _ => hcursor, ?_⟩
      · intro x hx
        rcases hrun.past with hpast | ⟨-, hlength⟩
        · exact hpast x (mem_cons_of_mem _ hx)
        have := length_pos_of_mem hx
        rw [length_cons] at hlength
        omega
      · rcases hrun.past with hpast | ⟨hpolicy, -⟩
        · exact Or.inl (hpast t mem_cons_self)
        · exact Or.inr hpolicy

theorem continueRun_ok (hbeyond : BeyondHeld id s) {now t : Int} {current : ScheduleResource}
    {times : List Int} {rest : List ScheduleResource}
    (hrest : RestCopies platform id s current.scheduleId rest)
    (hcurrent : current.scheduleId = id → Copy platform id s current ∧ s.AtLeast id t ∧ t ≤ now ∧
      (t :: times).Pairwise (· < ·) ∧ ∀ x ∈ times, x ≤ now) :
    FlowOk platform id s (continueRun platform now current times rest) := by
  cases times with
  | nil =>
    apply finishSchedule_ok (dueLoop_ok hbeyond hrest.due) hrest
    intro hid
    obtain ⟨hcopy, hlatest, hle, -⟩ := hcurrent hid
    obtain ⟨record, hget, hnewer⟩ := hcopy.2
    exact ⟨hcopy, (hnewer.cursor.trans (hlatest record hget)).trans (WithBot.coe_le_coe.mpr hle)⟩
  | cons x times =>
    have hcont : ContRest platform id s current.scheduleId (.due now times rest) := hrest
    apply startDecision_ok hcont
    intro hid
    obtain ⟨hcopy, hlatest, -, hsorted, hpast⟩ := hcurrent hid
    have hlt : t < x := rel_of_pairwise_cons hsorted mem_cons_self
    have hcursor : s.Beyond id x := fun record hget =>
      lt_of_le_of_lt (hlatest record hget) (WithBot.coe_lt_coe.mpr hlt)
    have hsome : (s.store.get id).isSome = true := by
      obtain ⟨-, record, hget, -⟩ := hcopy
      rw [hget]
      rfl
    exact ⟨hcopy, ⟨hsorted.of_cons, fun y hy => hpast y (mem_cons_of_mem _ hy)⟩,
      hbeyond x hsome hcursor, (by rintro ⟨⟩), fun _ => hcursor, Or.inl (hpast x mem_cons_self)⟩

theorem enter_ok {flow : Flow} (h : FlowOk platform id s flow) {call : Await}
    (hop : (s.enter flow).op = some call) : CallOk platform id s call := by
  cases flow with
  | await =>
    cases hop
    exact h call rfl
  | arm =>
    simp only [enter, startArm] at hop
    split at hop
    · cases hop
      trivial
    · cases hop
  | throws => cases hop

theorem decisionReturned_ok (hbeyond : BeyondHeld id s) {t : Int} {cont : OccurrenceCont}
    {current : Option ScheduleResource} (hrest : ContRest platform id s scheduleId cont)
    (hcurrent : ∀ found, current = some found → found.scheduleId = scheduleId ∧
      (scheduleId = id → OccurrenceCont.isDrain cont = false →
        Copy platform id s found ∧ s.AtLeast id t ∧ OnTime t cont ∧ ContTimes t cont))
    {call : Await} (hop : (s.decisionReturned platform current cont).op = some call) :
    CallOk platform id s call := by
  cases cont with
  | drain => exact enter_ok flowOk_arm hop
  | due =>
    cases current with
    | none => exact enter_ok (dueLoop_ok hbeyond (RestCopies.due hrest)) hop
    | some found =>
      obtain ⟨rfl, hfound⟩ := hcurrent found rfl
      refine enter_ok (continueRun_ok (t := t) hbeyond hrest ?_) hop
      intro hid
      obtain ⟨hcopy, hlatest, hontime, hsorted, hpast⟩ := hfound hid rfl
      exact ⟨hcopy, hlatest, hontime, hsorted, hpast⟩

end

end SchedulerRuntime

end PiDaemon.Scheduler
