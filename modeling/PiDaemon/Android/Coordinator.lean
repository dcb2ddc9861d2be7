import PiDaemon.Lib.OrderedMap
import PiDaemon.Lib.Checks
import PiDaemon.Lib.JsString

/-!
# The session coordinator of the Android client

`SessionLifecycleCoordinator` over `InteractiveSessionController`: the connection attempts of a
session, what a frame does to the cursor from which the next attempt resumes, and the commands whose
answers are lost.

A correlation identity that is not valid is none that a command has.  The texts that the coordinator
hands out, its requests and its tickets are left out.
-/

namespace PiDaemon.Android

open Lib

structure SessionKey where
  sessionId : JsString
  generation : Nat
  deriving DecidableEq

inductive SessionRole where
  | controller
  | observer
  deriving DecidableEq

inductive InteractiveConnectionState where
  | detached
  | ready
  | resyncing
  | disconnected
  deriving DecidableEq

inductive InteractiveControllerRole where
  | observer
  | requesting
  | controller
  | denied
  | lost
  deriving DecidableEq

inductive CommandLifecycle where
  | inFlight
  | succeeded
  | failed
  | indeterminate
  deriving DecidableEq

inductive SessionRpcFrame where
  | attachReady (connectionId : JsString) (role : SessionRole) (hostInstanceId sessionId : JsString)
    (generation : Nat) (highWaterCursor : JsString)
  | replayGap (highWaterCursor : JsString)
  /-- `success` is none where the response does not tell. -/
  | response (correlationId : JsString) (success : Option Bool)
  | event (cursor : JsString) (sequence : Nat)
  | control (action : JsString) (connectionId : Option JsString)
  /-- The kinds that neither reads. -/
  | other (kind : JsString)
  deriving DecidableEq

inductive IncomingFrameDisposition where
  | applied
  | staleAttemptIgnored
  | resyncRequired
  deriving DecidableEq

section
variable {K : Type} [DecidableEq K]

/-- `TrackedCommand` and `ResumableCommand`; `K` are the types of commands. -/
structure TrackedCommand (K : Type) where
  kind : K
  lifecycle : CommandLifecycle
  deriving DecidableEq

def TrackedCommand.lose (command : TrackedCommand K) : TrackedCommand K :=
  if command.lifecycle = .inFlight then { command with lifecycle := .indeterminate } else command

/-! ## The controller -/

structure InteractiveSessionController (K : Type) where
  session : SessionKey
  supportedCommands : List K
  expectedHostInstanceId : Option JsString
  maxInFlight : Nat
  connection : InteractiveConnectionState := .detached
  role : InteractiveControllerRole := .observer
  connectionId : Option JsString := none
  highWaterCursor : Option JsString := none
  commands : OrderedMap JsString (TrackedCommand K) := .empty

namespace InteractiveSessionController

def markInflightIndeterminate (c : InteractiveSessionController K) : InteractiveSessionController K :=
  { c with commands := c.commands.mapValues TrackedCommand.lose }

def submit (kind : K) (correlationId : JsString) (c : InteractiveSessionController K) :
    Except String (InteractiveSessionController K) := do
  check (c.connection = .ready) "session_not_ready"
  check (c.role = .controller) "controller_required"
  check (kind ∈ c.supportedCommands) "unsupported_command"
  check (!c.commands.has correlationId) "duplicate_correlation"
  check (c.commands.values.countP (fun command => command.lifecycle = .inFlight) < c.maxInFlight)
    "too_many_in_flight"
  return { c with commands := c.commands.set correlationId ⟨kind, .inFlight⟩ }

def requestControl (c : InteractiveSessionController K) : Except String (InteractiveSessionController K) := do
  check (c.connection = .ready) "session_not_ready"
  check (c.role ≠ .controller) "already_controller"
  return { c with role := .requesting }

def releaseControl (c : InteractiveSessionController K) : Except String (InteractiveSessionController K) := do
  check (c.connection = .ready ∧ c.role = .controller) "controller_required"
  return { c with role := .observer }

def enterResync (c : InteractiveSessionController K) : InteractiveSessionController K :=
  { c.markInflightIndeterminate with
    connection := .resyncing
    role := .observer
    connectionId := none
    highWaterCursor := none }

def onDisconnect (c : InteractiveSessionController K) : InteractiveSessionController K :=
  { c.markInflightIndeterminate with
    connection := .disconnected
    role := .lost
    connectionId := none
    highWaterCursor := none }

def onControl (action : JsString) (connectionId : Option JsString) (c : InteractiveSessionController K) :
    InteractiveSessionController K :=
  if c.connection ≠ .ready then c
  else if action = text "control_granted" then
    { c with role := .controller, connectionId := connectionId.or c.connectionId }
  else if action = text "control_denied" then { c with role := .denied }
  else c

def onResponse (correlationId : JsString) (success : Option Bool) (c : InteractiveSessionController K) :
    InteractiveSessionController K :=
  match c.commands.get? correlationId, success with
  | some tracked, some success =>
    if tracked.lifecycle ≠ .inFlight then c
    else
      let answered := { tracked with lifecycle := if success then .succeeded else .failed }
      { c with commands := c.commands.set correlationId answered }
  | _, _ => c

/-- The attachment is of the session, and of the host instance when one is expected. -/
def matchesAttachment (c : InteractiveSessionController K) (hostInstanceId sessionId : JsString)
    (generation : Nat) : Bool :=
  sessionId = c.session.sessionId && generation = c.session.generation &&
    c.expectedHostInstanceId.all (hostInstanceId = ·)

/-- `onFrame`, and whether it throws `session_identity_mismatch`. -/
def onFrame (c : InteractiveSessionController K) : SessionRpcFrame → InteractiveSessionController K × Bool
  | .attachReady connectionId role hostInstanceId sessionId generation highWaterCursor =>
    if c.matchesAttachment hostInstanceId sessionId generation then
      ({ c with
          connection := .ready
          role := match role with
            | .controller => .controller
            | .observer => .observer
          connectionId := some connectionId
          highWaterCursor := some highWaterCursor }, false)
    else (c.enterResync, true)
  | .control action connectionId => (c.onControl action connectionId, false)
  | .response correlationId success => (c.onResponse correlationId success, false)
  | .replayGap _ => (c.enterResync, false)
  | .event _ _ => (c, false)
  | .other _ => (c, false)

end InteractiveSessionController

/-! ## The coordinator -/

structure SessionResumeSnapshot (K : Type) where
  hostId : JsString
  hostInstanceId : Option JsString
  session : SessionKey
  replayCursor : Option JsString
  usedConnectionAttempts : List JsString
  commands : OrderedMap JsString (TrackedCommand K)

structure SessionLifecycleCoordinator (K : Type) where
  hostId : JsString
  hostInstanceId : Option JsString
  session : SessionKey
  maxRememberedIdentities : Nat
  processResumed : Bool
  controller : InteractiveSessionController K
  usedAttempts : List JsString
  commands : OrderedMap JsString (TrackedCommand K)
  activeAttempt : Option JsString
  replayCursor : Option JsString

structure SessionAttachDirective where
  attemptId : JsString
  session : SessionKey
  role : SessionRole
  cursor : Option JsString
  deriving DecidableEq

def isAlphanumeric (u : UInt16) : Bool :=
  (0x30 ≤ u.toNat && u.toNat ≤ 0x39) || (0x41 ≤ u.toNat && u.toNat ≤ 0x5a) ||
    (0x61 ≤ u.toNat && u.toNat ≤ 0x7a)

/-- `^[A-Za-z0-9][A-Za-z0-9._:-]{0,127}$` -/
def isIdentifier (value : JsString) : Bool :=
  value.length ≤ 128 &&
    match value with
    | [] => false
    | u :: rest => isAlphanumeric u && rest.all fun v => isAlphanumeric v || [0x2e, 0x5f, 0x3a, 0x2d].contains v

namespace SessionLifecycleCoordinator

/-- The constructor. -/
def new (hostId : JsString) (hostInstanceId : Option JsString) (session : SessionKey)
    (supportedCommands : List K) (maxRememberedIdentities : Nat) (processResumed : Bool)
    (resume : Option (SessionResumeSnapshot K)) (maxInFlight : Nat) :
    Except String (SessionLifecycleCoordinator K) := do
  check (1 ≤ maxInFlight ∧ maxInFlight ≤ 64) "in-flight command bound is invalid"
  check (8 ≤ maxRememberedIdentities ∧ maxRememberedIdentities ≤ 2048) "remembered identity bound is invalid"
  check (hostInstanceId.all isIdentifier) "host instance ID is invalid"
  let usedAttempts := (resume.map (·.usedConnectionAttempts)).getD []
  let commands := (resume.map fun restored => restored.commands.mapValues TrackedCommand.lose).getD .empty
  check (usedAttempts.length ≤ maxRememberedIdentities) "restored connection identities exceed the bound"
  check (commands.size ≤ maxRememberedIdentities) "restored command identities exceed the bound"
  return {
    hostId, hostInstanceId, session, maxRememberedIdentities, processResumed
    controller := { session, supportedCommands, expectedHostInstanceId := hostInstanceId, maxInFlight }
    usedAttempts, commands
    activeAttempt := none
    replayCursor := resume.bind (·.replayCursor) }

def create (hostId : JsString) (session : SessionKey) (supportedCommands : List K)
    (hostInstanceId : Option JsString) (maxInFlight maxRememberedIdentities : Nat) :
    Except String (SessionLifecycleCoordinator K) :=
  new hostId hostInstanceId session supportedCommands maxRememberedIdentities false none maxInFlight

def snapshot (c : SessionLifecycleCoordinator K) : SessionResumeSnapshot K where
  hostId := c.hostId
  hostInstanceId := c.hostInstanceId
  session := c.session
  replayCursor := c.replayCursor
  usedConnectionAttempts := c.usedAttempts
  commands := c.commands

def restore (snapshot : SessionResumeSnapshot K) (supportedCommands : List K)
    (maxInFlight maxRememberedIdentities : Nat) : Except String (SessionLifecycleCoordinator K) :=
  new snapshot.hostId snapshot.hostInstanceId snapshot.session supportedCommands maxRememberedIdentities true
    (some snapshot) maxInFlight

def synchronizeInflightAsIndeterminate (c : SessionLifecycleCoordinator K) : SessionLifecycleCoordinator K :=
  { c with commands := c.commands.mapValues TrackedCommand.lose }

def synchronizeCommand (correlationId : JsString) (c : SessionLifecycleCoordinator K) :
    SessionLifecycleCoordinator K :=
  match c.controller.commands.get? correlationId, c.commands.get? correlationId with
  | some tracked, some command =>
    { c with commands := c.commands.set correlationId { command with lifecycle := tracked.lifecycle } }
  | _, _ => c

def beginConnection (attemptId : JsString) (c : SessionLifecycleCoordinator K) :
    Except String (SessionAttachDirective × SessionLifecycleCoordinator K) := do
  check (attemptId ∉ c.usedAttempts) "duplicate_connection_attempt"
  check (c.usedAttempts.length < c.maxRememberedIdentities) "connection_attempt_capacity"
  let left := if c.activeAttempt.isSome then
      { c with controller := c.controller.onDisconnect }.synchronizeInflightAsIndeterminate
    else c
  return (⟨attemptId, c.session, .observer, c.replayCursor⟩,
    { left with usedAttempts := left.usedAttempts ++ [attemptId], activeAttempt := some attemptId })

def onFrame (attemptId : JsString) (frame : SessionRpcFrame) (c : SessionLifecycleCoordinator K) :
    IncomingFrameDisposition × SessionLifecycleCoordinator K :=
  if some attemptId ≠ c.activeAttempt then (.staleAttemptIgnored, c)
  else
    let (controller, mismatch) := c.controller.onFrame frame
    let left := { c with controller }
    if mismatch then
      (.resyncRequired, { left with replayCursor := none }.synchronizeInflightAsIndeterminate)
    else
      match frame with
      | .attachReady _ _ _ _ _ highWaterCursor => (.applied, { left with replayCursor := some highWaterCursor })
      | .event cursor _ => (.applied, { left with replayCursor := some cursor })
      | .response correlationId _ => (.applied, left.synchronizeCommand correlationId)
      | .replayGap _ =>
        (.resyncRequired, { left with replayCursor := none }.synchronizeInflightAsIndeterminate)
      | _ => (.applied, left)

/-- The result tells whether the callback was of the active attempt. -/
def onDisconnect (attemptId : JsString) (c : SessionLifecycleCoordinator K) :
    Bool × SessionLifecycleCoordinator K :=
  if some attemptId ≠ c.activeAttempt then (false, c)
  else
    (true, { { c with controller := c.controller.onDisconnect }.synchronizeInflightAsIndeterminate with
      activeAttempt := none })

def requestControl (attemptId : JsString) (c : SessionLifecycleCoordinator K) :
    Except String (SessionLifecycleCoordinator K) := do
  check (some attemptId = c.activeAttempt) "stale_connection_attempt"
  let controller ← c.controller.requestControl
  return { c with controller }

def releaseControl (attemptId : JsString) (c : SessionLifecycleCoordinator K) :
    Except String (SessionLifecycleCoordinator K) := do
  check (some attemptId = c.activeAttempt) "stale_connection_attempt"
  let controller ← c.controller.releaseControl
  return { c with controller }

def submit (attemptId : JsString) (kind : K) (correlationId : JsString) (c : SessionLifecycleCoordinator K) :
    Except String (SessionLifecycleCoordinator K) := do
  check (some attemptId = c.activeAttempt) "stale_connection_attempt"
  check (!c.commands.has correlationId) "duplicate_correlation"
  check (c.commands.size < c.maxRememberedIdentities) "command_identity_capacity"
  let controller ← c.controller.submit kind correlationId
  return { c with controller, commands := c.commands.set correlationId ⟨kind, .inFlight⟩ }

end SessionLifecycleCoordinator

end

end PiDaemon.Android
