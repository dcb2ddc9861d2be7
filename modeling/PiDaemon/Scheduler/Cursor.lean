import Mathlib.Order.WithBot
import PiDaemon.Scheduler.Due

/-!
# The cursor of a schedule

The latest occurrence that a schedule has decided, and how the choices of the scheduler
lie to it.

* `previousCronOccurrence_ge`: a search backwards passes over no occurrence;
* `Timed`: the trigger of a schedule is after its cursor, and one of its occurrences
  once anything has been decided;
* `normalizeSchedule_timed`, `selectDue_timed`: what is chosen for such a schedule.
-/

namespace PiDaemon.Scheduler

open Lib List

/-- The order of the cursors: none is before every occurrence. -/
instance cursorPreorder : Preorder (WithBot Int) :=
  @WithBot.instPreorder Int Int.instLinearOrder.toPreorder

/-! ## Searches -/

section
variable {zones : Zones} {timezone : JsString} {fields : List CronField}

/-- The minute matches the fields. -/
def MatchesAt (zones : Zones) (timezone : JsString) (fields : List CronField) (ms : Int) : Prop :=
  ∃ parts, zones timezone ms = some parts ∧ matchesCron fields parts = true

theorem seekFrom_matches {step : Int} {scans : Nat} {cursor t : Int}
    (h : seekFrom zones timezone fields step scans cursor = some t) :
    MatchesAt zones timezone fields t := by
  induction scans generalizing cursor with
  | zero => cases h
  | succ scans ih =>
    rw [seekFrom] at h
    cases hzone : zones timezone cursor with
    | none =>
      rw [hzone] at h
      cases h
    | some parts =>
      rw [hzone] at h
      simp only at h
      split at h
      · rename_i hmatch
        cases h
        exact ⟨parts, hzone, hmatch⟩
      · exact ih h

theorem seekFrom_dvd {step : Int} (hstep : minuteMs ∣ step) {scans : Nat} {cursor t : Int}
    (hcursor : minuteMs ∣ cursor) (h : seekFrom zones timezone fields step scans cursor = some t) :
    minuteMs ∣ t := by
  induction scans generalizing cursor with
  | zero => cases h
  | succ scans ih =>
    rw [seekFrom] at h
    split at h
    · cases h
    split at h
    · cases h
      exact hcursor
    · exact ih (Int.dvd_add hcursor hstep) h

/-- A search backwards stops no later than at a minute that matches. -/
theorem seekFrom_back_ge {scans : Nat} {cursor t o : Int} (hcursor : minuteMs ∣ cursor)
    (ho : minuteMs ∣ o) (hle : o ≤ cursor) (hmatch : MatchesAt zones timezone fields o)
    (h : seekFrom zones timezone fields (-minuteMs) scans cursor = some t) : o ≤ t := by
  induction scans generalizing cursor with
  | zero => cases h
  | succ scans ih =>
    rw [seekFrom] at h
    split at h
    · cases h
    rename_i parts hzone
    split at h
    · cases h
      exact hle
    rename_i hmiss
    have hne : o ≠ cursor := by
      rintro rfl
      obtain ⟨_, hfound, hyes⟩ := hmatch
      rw [hzone] at hfound
      cases hfound
      exact hmiss hyes
    apply ih (Int.dvd_add hcursor (Int.dvd_neg.mpr (Int.dvd_refl _))) _ h
    unfold minuteMs at *
    omega

end

section
variable {platform : SchedulePlatform} {schedule : ScheduleResource}

/-- A minute that matches the cron expression of the schedule. -/
def Occurs (platform : SchedulePlatform) (schedule : ScheduleResource) (ms : Int) : Prop :=
  minuteMs ∣ ms ∧ MatchesAt platform.zones schedule.timezone (parseCron schedule.cron) ms

theorem nextOf_gt {afterMs next : Int} (h : nextOf platform schedule afterMs = some next) :
    afterMs < next :=
  nextCronOccurrence_gt h

theorem nextOf_occurs {afterMs next : Int} (h : nextOf platform schedule afterMs = some next) :
    Occurs platform schedule next := by
  constructor
  · apply seekFrom_dvd (Int.dvd_refl _) _ h
    exact Int.dvd_add (Int.dvd_mul_left _ _) (Int.dvd_refl _)
  · exact seekFrom_matches h

theorem ceilMinutes_ge (ms : Int) : ms ≤ ceilMinutes ms * minuteMs := by
  unfold ceilMinutes minuteMs
  omega

/-- The previous occurrence passes over none that is a minute before the boundary. -/
theorem previousCronOccurrence_ge {beforeMs t o : Int} (ho : Occurs platform schedule o)
    (hle : o + minuteMs ≤ beforeMs)
    (h : previousCronOccurrence platform.zones schedule.cron schedule.timezone beforeMs = some t) :
    o ≤ t := by
  apply seekFrom_back_ge _ ho.1 _ ho.2 h
  · exact Int.dvd_sub (Int.dvd_mul_left _ _) (Int.dvd_refl _)
  · have := ceilMinutes_ge beforeMs
    omega

end

/-! ## Cursors -/

/-- The occurrence of a last trigger; a schedule without one is before all. -/
def lastCursor : Option ScheduleLastTrigger → WithBot Int
  | none => ⊥
  | some last => (last.scheduledFor.ms : Int)

def ScheduleResource.cursor (schedule : ScheduleResource) : WithBot Int :=
  lastCursor schedule.lastTrigger

structure Timed (platform : SchedulePlatform) (schedule : ScheduleResource) : Prop where
  cron : validateCronExpression schedule.cron = some schedule.cron
  ahead : ∀ next, schedule.nextTriggerAt = some next → schedule.cursor < (next.ms : Int)
  occurs : ∀ next, schedule.nextTriggerAt = some next → schedule.lastTrigger ≠ none →
    Occurs platform schedule next.ms

/-- The next trigger of a state is an occurrence after the last one. -/
def StateTimed (platform : SchedulePlatform) (schedule : ScheduleResource)
    (state : ScheduleRuntimeState) : Prop :=
  ∀ next, state.nextTriggerAt = some next →
    lastCursor state.lastTrigger < (next.ms : Int) ∧ Occurs platform schedule next.ms

section
variable {platform : SchedulePlatform} {schedule : ScheduleResource}

theorem StateTimed.of_next {next : Int} {last : Option ScheduleLastTrigger}
    (hlast : lastCursor last < (next : Int)) (hoccurs : Occurs platform schedule next) :
    StateTimed platform schedule ⟨some (isoTimestamp next), last⟩ := by
  rintro _ ⟨⟩
  exact ⟨hlast, hoccurs⟩

theorem StateTimed.withRuntimeState {state : ScheduleRuntimeState} {now : Int} {cron : JsString}
    (h : StateTimed platform schedule state) (hcron : validateCronExpression schedule.cron = some cron)
    (hsame : validateCronExpression schedule.cron = some schedule.cron) :
    Timed platform (FileScheduleStore.withRuntimeState schedule state now cron) := by
  rw [hsame] at hcron
  cases hcron
  constructor
  · exact hsame
  · intro next hnext
    exact (h next hnext).1
  · intro next hnext _
    exact (h next hnext).2

theorem triggerBoundary_cursor (schedule : ScheduleResource) (now : Int) :
    schedule.cursor ≤ (triggerBoundary schedule now : Int) := by
  unfold ScheduleResource.cursor triggerBoundary lastCursor
  cases schedule.lastTrigger with
  | none => exact bot_le
  | some last => exact WithBot.coe_le_coe.mpr (le_max_right _ _)

theorem normalizeSchedule_timed {now : Int} {next : Option Timestamp}
    (h : normalizeSchedule platform now schedule = .persist next) :
    StateTimed platform schedule ⟨next, schedule.lastTrigger⟩ := by
  unfold normalizeSchedule at h
  split at h
  · split at h
    · cases h
      rintro found ⟨⟩
    · cases h
  · split at h
    · cases hnext : nextOf platform schedule (triggerBoundary schedule now) with
      | none =>
        rw [hnext] at h
        cases h
      | some found =>
        rw [hnext] at h
        simp only at h
        split at h
        · cases h
          apply StateTimed.of_next _ (nextOf_occurs hnext)
          exact lt_of_le_of_lt (triggerBoundary_cursor schedule now)
            (WithBot.coe_lt_coe.mpr (nextOf_gt hnext))
        · cases h
    · cases h

/-! ## Due occurrences -/

/-- The occurrences that are run: in order, and after the cursor.  Only the one of a
missed wake that is run once may be after the present. -/
structure RunTimed (schedule : ScheduleResource) (now : Int) (times : List Int) : Prop where
  after : ∀ t ∈ times, schedule.cursor < (t : Int)
  sorted : times.Pairwise (· < ·)
  past : (∀ t ∈ times, t ≤ now) ∨ (schedule.missedWakePolicy = .runOnce ∧ times.length ≤ 1)

theorem catchUp_ge {now : Int} {count : Nat} {occurrence : Int} {times : List Int}
    (h : catchUp platform schedule now count occurrence = some times) :
    times.Pairwise (· < ·) ∧ ∀ t ∈ times, occurrence ≤ t ∧ t ≤ now := by
  induction count generalizing occurrence times with
  | zero =>
    cases h
    exact ⟨List.Pairwise.nil, fun t ht => absurd ht not_mem_nil⟩
  | succ count ih =>
    rw [catchUp] at h
    split at h
    · split at h
      · cases h
      rename_i next hnext
      obtain ⟨_, hrest, rfl⟩ := Option.map_eq_some_iff.mp h
      obtain ⟨hsorted, hbounds⟩ := ih hrest
      have hgt := nextOf_gt hnext
      constructor
      · apply List.Pairwise.cons _ hsorted
        intro t ht
        have := (hbounds t ht).1
        omega
      · intro t ht
        rcases mem_cons.mp ht with rfl | ht
        · omega
        · have := hbounds t ht
          omega
    · cases h
      exact ⟨List.Pairwise.nil, fun t ht => absurd ht not_mem_nil⟩

theorem selectDue_timed (h : Timed platform schedule) {now first : Int} {times : List Int}
    (hdue : dueTrigger platform now schedule = some first)
    (hselect : selectDue platform schedule first now = some times) :
    first ≤ now ∧ schedule.cursor < (first : Int) ∧ RunTimed schedule now times := by
  unfold dueTrigger at hdue
  split at hdue
  · cases hdue
  rename_i next hnext
  obtain ⟨hready, rfl⟩ := Option.ite_some_none_eq_some.mp hdue
  have hle : next.ms ≤ now := hready.2.1
  have hcursor := h.ahead next hnext
  refine ⟨hle, hcursor, ?_⟩
  unfold selectDue at hselect
  split at hselect
  · cases hselect
    constructor
    · intro t ht
      rw [mem_singleton] at ht
      rw [ht]
      exact hcursor
    · exact pairwise_singleton _ _
    · left
      intro t ht
      rw [mem_singleton] at ht
      omega
  · split at hselect
    · cases hselect
      exact ⟨fun t ht => absurd ht not_mem_nil, List.Pairwise.nil,
        Or.inl fun t ht => absurd ht not_mem_nil⟩
    · rename_i hpolicy
      obtain ⟨_, hprevious, rfl⟩ := Option.map_eq_some_iff.mp hselect
      constructor
      · intro t ht
        rw [mem_singleton] at ht
        subst ht
        -- Before the first decision every occurrence is after the cursor.
        by_cases hlast : schedule.lastTrigger = none
        · unfold ScheduleResource.cursor lastCursor
          rw [hlast]
          exact WithBot.bot_lt_coe _
        · have hge := previousCronOccurrence_ge (h.occurs next hnext hlast) (by omega) hprevious
          exact lt_of_lt_of_le hcursor (WithBot.coe_le_coe.mpr hge)
      · exact pairwise_singleton _ _
      · exact Or.inr ⟨hpolicy, le_refl _⟩
    · obtain ⟨hsorted, hbounds⟩ := catchUp_ge hselect
      refine ⟨?_, hsorted, Or.inl fun t ht => (hbounds t ht).2⟩
      intro t ht
      exact lt_of_lt_of_le hcursor (WithBot.coe_le_coe.mpr (hbounds t ht).1)

end

end PiDaemon.Scheduler
