import PiDaemon.Watchdog.State
import PiDaemon.Lib.Runs

/-!
# Cycles of the service watchdog

A cycle loads the state, probes the API and, when that is healthy, the web server, saves what it
has seen, and recovers at most one component.  A cycle throws, or its process ends, at any of its
awaits; the next one starts from the file again, maybe with other options.

What the probes, the supervisor and the file operations answer is the input of a cycle.  A save that
fails may have changed the file all the same.
-/

namespace PiDaemon.Watchdog

open Lib Durability

structure ServiceWatchdogOptions where
  failureThreshold : Nat
  failureThreshold_pos : 0 < failureThreshold
  /-- There is a web target. -/
  web : Bool

/-- The answers of the clock, in the order in which they are asked for. -/
structure CycleTimes (dateParses : JsString → Bool) where
  initial : Timestamp dateParses
  updated : Timestamp dateParses
  recovering : Timestamp dateParses
  attempted : Timestamp dateParses
  finished : Timestamp dateParses

/-- What comes of a recovery, which may probe the component itself. -/
inductive RecoveryCall where
  /-- The process ends before the call. -/
  | unmade
  /-- Without a result, the call throws or the process ends. -/
  | made (polls : List WatchdogProbePhase) (result : Option WatchdogRecoveryResult)

/-- What a cycle meets with.  A probe that is not there throws, or the process ends at it. -/
structure CycleInput (dateParses : JsString → Bool) where
  options : ServiceWatchdogOptions
  loads : Bool
  times : CycleTimes dateParses
  api : Option WatchdogProbeResult
  web : Option WatchdogProbeResult
  save : FileOutcome
  call : RecoveryCall
  last : FileOutcome

inductive WatchdogEvent (dateParses : JsString → Bool) where
  | probed (component : WatchdogComponent) (phase : WatchdogProbePhase)
  /-- The supervisor is called. -/
  | recovered (component : WatchdogComponent)
  | saved (state : ServiceWatchdogState dateParses)

section
variable {dateParses : JsString → Bool}

/-! ## Decisions -/

/-- The count after one more failure. -/
def countFailure (n : SafeCount) : SafeCount := ⟨min MAX_SAFE_INTEGER (n + 1), Nat.min_le_left _ _⟩

def updateComponent (prior : Option (WatchdogComponentState dateParses)) (probe : WatchdogProbeResult) :
    WatchdogComponentState dateParses :=
  let lastRecovery := prior.bind WatchdogComponentState.lastRecovery
  let consecutiveFailures : SafeCount :=
    (prior.map WatchdogComponentState.consecutiveFailures).getD ⟨0, Nat.zero_le _⟩
  let recoveryAttempted := (prior.map WatchdogComponentState.recoveryAttempted).getD false
  match probe.phase with
  | .healthy | .degraded => ⟨⟨0, Nat.zero_le _⟩, false, probe, lastRecovery⟩
  | .blocked => ⟨consecutiveFailures, recoveryAttempted, probe, lastRecovery⟩
  | .failed => ⟨countFailure consecutiveFailures, recoveryAttempted, probe, lastRecovery⟩

/-- The condition of `nextRecoveryComponent`. -/
def isDue (failureThreshold : Nat) (value : WatchdogComponentState dateParses) : Bool :=
  value.lastProbe.phase = .failed && failureThreshold ≤ (value.consecutiveFailures : Nat) &&
    !value.recoveryAttempted

def nextRecoveryComponent (components : WatchdogComponents dateParses) (failureThreshold : Nat) :
    Option WatchdogComponent :=
  if components.api.any (isDue failureThreshold) = true then some .api
  else if components.web.any (isDue failureThreshold) = true then some .web
  else none

def isHealthy (component : Option (WatchdogComponentState dateParses)) : Bool :=
  component.any fun component => component.lastProbe.phase = .healthy

def overallPhase (components : WatchdogComponents dateParses) (webExpected : Bool) : WatchdogPhase :=
  if isHealthy components.api = false then .degraded
  else if webExpected = true ∧ isHealthy components.web = false then .degraded
  else .healthy

def initialState (now : Timestamp dateParses) : ServiceWatchdogState dateParses :=
  ⟨.degraded, now, ⟨none, none⟩⟩

def blockedProbe (component : WatchdogComponent) (errorCode : String) : WatchdogProbeResult :=
  ⟨component, .blocked, .finite 0, none, some (text errorCode)⟩

/-! ## Files -/

variable (format : NumberFormat Rat) (instanceName : JsString)

namespace FileServiceWatchdogStore

variable (dateParses) in
def load (file : Option (JsValue Rat)) : Except String (Option (ServiceWatchdogState dateParses)) :=
  match file with
  | none => .ok none
  | some value => do
    check (privateJsonBytes format value ≤ MAX_WATCHDOG_STATE_BYTES)
      "service watchdog state exceeds its byte bound"
    (parseWatchdogState dateParses instanceName value).map some

def save (outcome : FileOutcome) (file : Option (JsValue Rat)) (state : ServiceWatchdogState dateParses) :
    Option (JsValue Rat) × List (WatchdogEvent dateParses) :=
  if outcome.lands = true then (some (state.json instanceName), [.saved state]) else (file, [])

theorem save_done (file : Option (JsValue Rat)) (state : ServiceWatchdogState dateParses) :
    save instanceName .done file state = (some (state.json instanceName), [.saved state]) := rfl

end FileServiceWatchdogStore

/-! ## Cycles -/

namespace CycleInput

/-- What is known of the web server: nothing without a target, and `none` when the probe throws. -/
def probeWeb (input : CycleInput dateParses) (api : WatchdogProbeResult) :
    Option (Option WatchdogProbeResult) :=
  if input.options.web = false then some none
  else if api.phase = .healthy then input.web.map some
  else some (some (blockedProbe .web "api_not_healthy"))

/-- The web server has been probed. -/
def webEvents (input : CycleInput dateParses) (api : WatchdogProbeResult)
    (web : Option WatchdogProbeResult) : List (WatchdogEvent dateParses) :=
  if api.phase = .healthy then (web.map fun web => .probed .web web.phase).toList else []

def observe (prior : WatchdogComponents dateParses) (api : WatchdogProbeResult)
    (web : Option WatchdogProbeResult) : WatchdogComponents dateParses where
  api := some (updateComponent prior.api api)
  web := web.elim prior.web fun web => some (updateComponent prior.web web)

/-- The recovery of a component and what is saved before and after it. -/
def recover (input : CycleInput dateParses) (file : Option (JsValue Rat))
    (components : WatchdogComponents dateParses) (k : WatchdogComponent)
    (component : WatchdogComponentState dateParses) :
    Option (JsValue Rat) × List (WatchdogEvent dateParses) :=
  let attempted := { component with recoveryAttempted := true }
  let state : ServiceWatchdogState dateParses :=
    ⟨.recovering, input.times.recovering, components.set attempted k⟩
  let saved := FileServiceWatchdogStore.save instanceName input.save file state
  match input.save, input.call with
  | .done, .made polls none => (saved.1, saved.2 ++ .recovered k :: polls.map (.probed k))
  | .done, .made polls (some recovery) =>
    let lastRecovery : RecordedRecovery dateParses :=
      { recovery with attemptedAt := input.times.attempted }
    let state : ServiceWatchdogState dateParses :=
      ⟨.degraded, input.times.finished,
        state.components.set { attempted with lastRecovery := some lastRecovery } k⟩
    let last := FileServiceWatchdogStore.save instanceName input.last saved.1 state
    (last.1, saved.2 ++ .recovered k :: (polls.map (.probed k) ++ last.2))
  | _, _ => saved

/-- The rest of a cycle, after the probes. -/
def settle (input : CycleInput dateParses) (file : Option (JsValue Rat))
    (components : WatchdogComponents dateParses) :
    Option (JsValue Rat) × List (WatchdogEvent dateParses) :=
  match nextRecoveryComponent components input.options.failureThreshold with
  | none =>
    FileServiceWatchdogStore.save instanceName input.save file
      ⟨overallPhase components input.options.web, input.times.updated, components⟩
  | some k =>
    match components.get k with
    -- a component that is recovered has an entry
    | none => (file, [])
    | some component => input.recover instanceName file components k component

/-- `cycle` after the state has been loaded. -/
def proceed (input : CycleInput dateParses) (file : Option (JsValue Rat))
    (prior : WatchdogComponents dateParses) :
    Option (JsValue Rat) × List (WatchdogEvent dateParses) :=
  match input.api with
  | none => (file, [])
  | some api =>
    match input.probeWeb api with
    | none => (file, [.probed .api api.phase])
    | some web =>
      let rest := input.settle instanceName file (observe prior api web)
      (rest.1, .probed .api api.phase :: (input.webEvents api web ++ rest.2))

end CycleInput

/-- `ServiceWatchdog.cycle`: the file after it, and what has been done. -/
def cycle (file : Option (JsValue Rat)) (input : CycleInput dateParses) :
    Option (JsValue Rat) × List (WatchdogEvent dateParses) :=
  if input.loads = false then (file, [])
  else
    match FileServiceWatchdogStore.load dateParses format instanceName file with
    | .error _ => (file, [])
    | .ok prior =>
      input.proceed instanceName file (prior.getD (initialState input.times.initial)).components

/-! ## Runs -/

/-- The file, and all that has been done. -/
structure World (dateParses : JsString → Bool) where
  file : Option (JsValue Rat)
  past : List (WatchdogEvent dateParses)

def World.empty (dateParses : JsString → Bool) : World dateParses := ⟨none, []⟩

def World.step (w : World dateParses) (input : CycleInput dateParses) : Option (World dateParses) :=
  let done := cycle format instanceName w.file input
  some ⟨done.1, w.past ++ done.2⟩

end

end PiDaemon.Watchdog
