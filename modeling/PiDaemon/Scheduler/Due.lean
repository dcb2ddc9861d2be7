import PiDaemon.Scheduler.Store

/-!
# Due occurrences

The choices of the scheduler about one schedule at one instant: the trigger it
should wait for, the occurrences that are due, and the delay of its jitter.  A
search that finds no occurrence throws.
-/

namespace PiDaemon.Scheduler

open Lib

variable (platform : SchedulePlatform)

def stableJitter (scheduleId : JsString) (instant : Timestamp) (maximum : Nat) : Nat :=
  if maximum = 0 then 0 else platform.digest scheduleId instant % (maximum + 1)

def nextOf (schedule : ScheduleResource) (afterMs : Int) : Option Int :=
  nextCronOccurrence platform.zones schedule.cron schedule.timezone afterMs

/-- The instant after which the next trigger is looked for. -/
def triggerBoundary (schedule : ScheduleResource) (now : Int) : Int :=
  match schedule.lastTrigger with
  | none => now
  | some last => max now last.scheduledFor.ms

/-- What the loop of `#normalizeSchedules` does about a schedule. -/
inductive Normalization where
  | keep
  | persist (next : Option Timestamp)
  | throws
  deriving DecidableEq

def normalizeSchedule (now : Int) (schedule : ScheduleResource) : Normalization :=
  if ¬ schedule.enabled then
    if schedule.nextTriggerAt.isSome then .persist none else .keep
  else if schedule.nextTriggerAt.all fun persisted => persisted.ms > now then
    match nextOf platform schedule (triggerBoundary schedule now) with
    | none => .throws
    | some next =>
      if schedule.nextTriggerAt ≠ some (isoTimestamp next) then .persist (some (isoTimestamp next))
      else .keep
  else .keep

/-- The loop of a bounded catch-up; `count` occurrences may still be run. -/
def catchUp (schedule : ScheduleResource) (now : Int) : Nat → Int → Option (List Int)
  | 0, _ => some []
  | count + 1, occurrence =>
    if occurrence ≤ now then
      match nextOf platform schedule occurrence with
      | none => none
      | some next => (catchUp schedule now count next).map fun run => occurrence :: run
    else some []

def selectDue (schedule : ScheduleResource) (first now : Int) : Option (List Int) :=
  if now - first ≤ schedule.maxAdmissionDelayMs then some [first]
  else
    match schedule.missedWakePolicy with
    | .skip => some []
    | .runOnce =>
      (previousCronOccurrence platform.zones schedule.cron schedule.timezone (now + minuteMs)).map
        fun occurrence => [occurrence]
    | .boundedCatchUp maxRuns => catchUp platform schedule now maxRuns first

/-- The first lines of the loop of `#runDue`: the trigger of a schedule that is due. -/
def dueTrigger (now : Int) (schedule : ScheduleResource) : Option Int :=
  match schedule.nextTriggerAt with
  | none => none
  | some next =>
    if schedule.enabled ∧ next.ms ≤ now ∧
        next.ms + stableJitter platform schedule.scheduleId next schedule.jitterMs ≤ now then
      some next.ms
    else none

def trigger (scheduledFor observedAt : Int) (disposition : TriggerDisposition) :
    ScheduleLastTrigger :=
  ⟨isoTimestamp scheduledFor, isoTimestamp observedAt, disposition, none⟩

/-- The instants that `#arm` pushes to its heap. -/
def fireInstants (schedules : List ScheduleResource) : List Int :=
  schedules.filterMap fun schedule =>
    match schedule.nextTriggerAt with
    | none => none
    | some next =>
      if schedule.enabled then
        some (next.ms + stableJitter platform schedule.scheduleId next schedule.jitterMs)
      else none

end PiDaemon.Scheduler
