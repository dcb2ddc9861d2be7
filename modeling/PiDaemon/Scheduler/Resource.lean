import PiDaemon.Lib.Checks
import PiDaemon.Lib.Json
import PiDaemon.Scheduler.Cron

/-!
# Schedules

A schedule resource and its validation.  A timestamp is an instant and the way it is
written: the accepted texts are those of `toISOString` for years of four digits, with
or without the milliseconds.

* `validateScheduleResource_ok`: a validated resource is its input with another
  spelling of the cron expression.
-/

namespace PiDaemon.Scheduler

open Lib

structure ScheduleLimits where
  maxSchedules : Nat
  maxSchedulesPerSession : Nat
  maxPromptBytes : Nat
  maxRecordBytes : Nat
  maxRecoveryBytes : Nat
  maxCatchUpRuns : Nat
  maxJitterMs : Nat
  maxAdmissionDelayMs : Nat
  deriving DecidableEq

inductive ScheduleErrorCode where
  | invalidSchedule
  | scheduleTooLarge
  | alreadyExists
  | notFound
  | revisionConflict
  | scheduleCapacity
  | recoveryLimit
  /-- An error of the file system. -/
  | io
  deriving DecidableEq

structure ScheduleError where
  code : ScheduleErrorCode
  message : String
  deriving DecidableEq

/-- A timestamp; `short` ones are written without their milliseconds, which are 0. -/
structure Timestamp where
  ms : Int
  short : Bool
  deriving DecidableEq

/-- `new Date(ms).toISOString()` -/
def isoTimestamp (ms : Int) : Timestamp := ⟨ms, false⟩

inductive ScheduleThinkingLevel where
  | off
  | minimal
  | low
  | medium
  | high
  | xhigh
  | max
  deriving DecidableEq

structure ScheduleModel where
  provider : JsString
  id : JsString
  deriving DecidableEq

structure ScheduleExecutionOverride where
  model : Option ScheduleModel
  thinkingLevel : Option ScheduleThinkingLevel
  deriving DecidableEq

inductive ScheduleOverlapPolicy where
  | skip
  | queueOne
  | reject
  deriving DecidableEq

inductive ScheduleMissedWakePolicy where
  | skip
  | runOnce
  | boundedCatchUp (maxRuns : Nat)
  deriving DecidableEq

inductive TerminalState where
  | completed
  | failed
  | indeterminate
  deriving DecidableEq

structure ScheduleTerminalTicketSummary where
  ticketId : JsString
  state : TerminalState
  updatedAt : Timestamp
  errorCode : Option JsString
  deriving DecidableEq

inductive TriggerDisposition where
  | admitted
  | skipped
  | rejected
  deriving DecidableEq

structure ScheduleLastTrigger where
  scheduledFor : Timestamp
  observedAt : Timestamp
  disposition : TriggerDisposition
  terminalTicket : Option ScheduleTerminalTicketSummary
  deriving DecidableEq

structure ScheduleResource where
  scheduleId : JsString
  sessionRef : JsString
  revision : Nat
  enabled : Bool
  cron : JsString
  timezone : JsString
  prompt : JsString
  execution : Option ScheduleExecutionOverride
  overlapPolicy : ScheduleOverlapPolicy
  missedWakePolicy : ScheduleMissedWakePolicy
  jitterMs : Nat
  maxAdmissionDelayMs : Nat
  nextTriggerAt : Option Timestamp
  lastTrigger : Option ScheduleLastTrigger
  createdAt : Timestamp
  updatedAt : Timestamp
  deriving DecidableEq

/-! ## Files -/

def ScheduleThinkingLevel.text : ScheduleThinkingLevel → JsString
  | .off => Lib.text "off"
  | .minimal => Lib.text "minimal"
  | .low => Lib.text "low"
  | .medium => Lib.text "medium"
  | .high => Lib.text "high"
  | .xhigh => Lib.text "xhigh"
  | .max => Lib.text "max"

def ScheduleOverlapPolicy.text : ScheduleOverlapPolicy → JsString
  | .skip => Lib.text "skip"
  | .queueOne => Lib.text "queue-one"
  | .reject => Lib.text "reject"

def TerminalState.text : TerminalState → JsString
  | .completed => Lib.text "completed"
  | .failed => Lib.text "failed"
  | .indeterminate => Lib.text "indeterminate"

def TriggerDisposition.text : TriggerDisposition → JsString
  | .admitted => Lib.text "admitted"
  | .skipped => Lib.text "skipped"
  | .rejected => Lib.text "rejected"

def Timestamp.toJson (t : Timestamp) : JsValue Nat := .string (isoText t.ms t.short)

def ScheduleModel.toJson (model : ScheduleModel) : JsValue Nat :=
  .object (.cons (text "provider") (.string model.provider) (.cons (text "id") (.string model.id) .nil))

def ScheduleExecutionOverride.toJson (execution : ScheduleExecutionOverride) : JsValue Nat :=
  .object (optionMember "model" (execution.model.map ScheduleModel.toJson)
    (optionMember "thinkingLevel" (execution.thinkingLevel.map fun level => .string level.text) .nil))

def ScheduleMissedWakePolicy.toJson : ScheduleMissedWakePolicy → JsValue Nat
  | .skip => .object (.cons (text "mode") (.string (text "skip")) .nil)
  | .runOnce => .object (.cons (text "mode") (.string (text "run-once")) .nil)
  | .boundedCatchUp maxRuns =>
    .object (.cons (text "mode") (.string (text "bounded-catch-up"))
      (.cons (text "maxRuns") (.number maxRuns) .nil))

def ScheduleTerminalTicketSummary.toJson (ticket : ScheduleTerminalTicketSummary) : JsValue Nat :=
  .object (.cons (text "ticketId") (.string ticket.ticketId)
    (.cons (text "state") (.string ticket.state.text)
    (.cons (text "updatedAt") ticket.updatedAt.toJson
    (optionMember "errorCode" (ticket.errorCode.map .string) .nil))))

def ScheduleLastTrigger.toJson (last : ScheduleLastTrigger) : JsValue Nat :=
  .object (.cons (text "scheduledFor") last.scheduledFor.toJson
    (.cons (text "observedAt") last.observedAt.toJson
    (.cons (text "disposition") (.string last.disposition.text)
    (optionMember "terminalTicket" (last.terminalTicket.map ScheduleTerminalTicketSummary.toJson)
      .nil))))

def ScheduleResource.toJson (resource : ScheduleResource) : JsValue Nat :=
  .object (.cons (text "contractVersion") (.string (text "1.0"))
    (.cons (text "scheduleId") (.string resource.scheduleId)
    (.cons (text "sessionRef") (.string resource.sessionRef)
    (.cons (text "revision") (.number resource.revision)
    (.cons (text "enabled") (.boolean resource.enabled)
    (.cons (text "cron") (.string resource.cron)
    (.cons (text "timezone") (.string resource.timezone)
    (.cons (text "prompt") (.string resource.prompt)
    (.cons (text "overlapPolicy") (.string resource.overlapPolicy.text)
    (.cons (text "missedWakePolicy") resource.missedWakePolicy.toJson
    (.cons (text "jitterMs") (.number resource.jitterMs)
    (.cons (text "maxAdmissionDelayMs") (.number resource.maxAdmissionDelayMs)
    (.cons (text "createdAt") resource.createdAt.toJson
    (.cons (text "updatedAt") resource.updatedAt.toJson
    (optionMember "execution" (resource.execution.map ScheduleExecutionOverride.toJson)
    (optionMember "nextTriggerAt" (resource.nextTriggerAt.map Timestamp.toJson)
    (optionMember "lastTrigger" (resource.lastTrigger.map ScheduleLastTrigger.toJson)
      .nil)))))))))))))))))

/-- `Buffer.byteLength(JSON.stringify(resource), "utf8")` -/
def resourceBytes (resource : ScheduleResource) : Nat :=
  byteLength ((stringify decimal resource.toJson).getD [])

/-! ## Validation -/

def invalid (message : String) : ScheduleError := ⟨.invalidSchedule, message⟩

/-- `Number.MAX_SAFE_INTEGER` -/
def maxSafeInteger : Nat := 9007199254740991

def isAlphanumeric (u : UInt16) : Bool :=
  isDigit u || (0x41 ≤ u.toNat && u.toNat ≤ 0x5a) || (0x61 ≤ u.toNat && u.toNat ≤ 0x7a)

/-- `/^[A-Za-z0-9][A-Za-z0-9._:-]*$/u` -/
def isIdentifier (value : JsString) : Bool :=
  value.head?.any isAlphanumeric &&
    value.all fun u => isAlphanumeric u || u = 0x2e || u = 0x5f || u = 0x3a || u = 0x2d

def checkText (value : JsString) (name : String) (max : Nat) : Except ScheduleError Unit :=
  check (1 ≤ value.length && value.length ≤ max && !value.contains 0)
    (invalid (name ++ " must be a non-empty bounded string"))

def checkIdentifier (value : JsString) (name : String) (max : Nat) : Except ScheduleError Unit := do
  checkText value name max
  check (isIdentifier value) (invalid (name ++ " is not a valid identifier"))

def checkInteger (value : Nat) (name : String) (min max : Nat) : Except ScheduleError Unit :=
  check (value ≤ maxSafeInteger && min ≤ value && value ≤ max) (invalid (name ++ " is out of range"))

/-- The instants of the years 0000 to 9999. -/
def checkTimestamp (t : Timestamp) (name : String) : Except ScheduleError Unit :=
  check (-62167219200000 ≤ t.ms && t.ms ≤ 253402300799999 && (!t.short || t.ms % 1000 = 0))
    (invalid (name ++ " must be a UTC RFC 3339 instant"))

/-- The units of `/^[A-Za-z0-9_+.-]+(?:\/[A-Za-z0-9_+.-]+)*$/u` between slashes. -/
def isTimezoneUnit (u : UInt16) : Bool :=
  isAlphanumeric u || u = 0x5f || u = 0x2b || u = 0x2e || u = 0x2d

/-- `known` are the zones of the runtime. -/
def checkTimezone (known : JsString → Bool) (value : JsString) : Except ScheduleError Unit := do
  check (1 ≤ value.length && value.length ≤ 128 &&
      (value.splitOn 0x2f).all fun piece => piece ≠ [] && piece.all isTimezoneUnit)
    (invalid "timezone must be an IANA timezone name")
  check (known value) (invalid "timezone is not available in the runtime IANA database")

def checkPrompt (limits : ScheduleLimits) (value : JsString) : Except ScheduleError Unit := do
  check (1 ≤ value.length && !value.contains 0) (invalid "prompt must be a non-empty bounded string")
  check (byteLength value ≤ limits.maxPromptBytes)
    ⟨.scheduleTooLarge, "prompt exceeds maxPromptBytes"⟩

def checkExecution (execution : ScheduleExecutionOverride) : Except ScheduleError Unit := do
  check (execution.model.isSome || execution.thinkingLevel.isSome)
    (invalid "execution override must not be empty")
  execution.model.forM fun model => do
    checkText model.provider "model.provider" 128
    checkText model.id "model.id" 256

def checkMissedWake (limits : ScheduleLimits) : ScheduleMissedWakePolicy → Except ScheduleError Unit
  | .skip => .ok ()
  | .runOnce => .ok ()
  | .boundedCatchUp maxRuns => checkInteger maxRuns "maxRuns" 1 limits.maxCatchUpRuns

def checkLastTrigger (last : ScheduleLastTrigger) : Except ScheduleError Unit := do
  checkTimestamp last.scheduledFor "scheduledFor"
  checkTimestamp last.observedAt "observedAt"
  last.terminalTicket.forM fun ticket => do
    check (last.disposition = .admitted)
      (invalid "only an admitted trigger may have a terminal ticket")
    checkIdentifier ticket.ticketId "ticketId" 256
    checkTimestamp ticket.updatedAt "ticket updatedAt"
    ticket.errorCode.forM fun errorCode => checkIdentifier errorCode "errorCode" 128

/-- The checks of a resource with its cron expression in its canonical spelling. -/
def checkResource (limits : ScheduleLimits) (known : JsString → Bool) (resource : ScheduleResource) :
    Except ScheduleError Unit := do
  checkIdentifier resource.scheduleId "scheduleId" 128
  checkIdentifier resource.sessionRef "sessionRef" 256
  checkInteger resource.revision "revision" 0 maxSafeInteger
  checkTimezone known resource.timezone
  checkPrompt limits resource.prompt
  checkMissedWake limits resource.missedWakePolicy
  checkInteger resource.jitterMs "jitterMs" 0 limits.maxJitterMs
  checkInteger resource.maxAdmissionDelayMs "maxAdmissionDelayMs" 0 limits.maxAdmissionDelayMs
  checkTimestamp resource.createdAt "createdAt"
  checkTimestamp resource.updatedAt "updatedAt"
  resource.execution.forM checkExecution
  resource.nextTriggerAt.forM fun nextTriggerAt => checkTimestamp nextTriggerAt "nextTriggerAt"
  resource.lastTrigger.forM checkLastTrigger
  check (resourceBytes resource + 1 ≤ limits.maxRecordBytes)
    ⟨.scheduleTooLarge, "schedule record exceeds maxRecordBytes"⟩

/-- The fields whose type is fixed are not checked again. -/
def validateScheduleResource (limits : ScheduleLimits) (known : JsString → Bool)
    (resource : ScheduleResource) : Except ScheduleError ScheduleResource :=
  match validateCronExpression resource.cron with
  | none => .error (invalid "cron must be a bounded five-field expression")
  | some cron => do
    let resource := { resource with cron }
    checkResource limits known resource
    .ok resource

theorem validateScheduleResource_ok {limits : ScheduleLimits} {known : JsString → Bool}
    {resource validated : ScheduleResource} :
    validateScheduleResource limits known resource = .ok validated ↔
      ∃ cron, validateCronExpression resource.cron = some cron ∧
        validated = { resource with cron } ∧ checkResource limits known validated = .ok () := by
  unfold validateScheduleResource
  cases validateCronExpression resource.cron with
  | none => simp
  | some cron =>
    simp only [bind_ok, Except.ok.injEq, Option.some.injEq]
    constructor
    · rintro ⟨_, hok, rfl⟩
      exact ⟨cron, rfl, rfl, hok⟩
    · rintro ⟨_, rfl, rfl, hok⟩
      exact ⟨(), hok, rfl⟩

end PiDaemon.Scheduler
