import PiDaemon.Bridge.Writer
import PiDaemon.Lib.Runs

/-!
# The stdio bridge

`RpcStdioBridge`: lines of input become commands, which wait in `pending` until the attachment is
ready, are in flight until a response settles them, and are answered by the bridge itself when the
connection is lost.  Input is given by the values that the decoder finds in it, a frame by its
JSON.  Callbacks, timers, the socket and the streams are events.

A value that is read gets the next number.  `sent`, `uiResponses`, `total`, `stopCalled` and `log`
only record, and so does the number that a frame is about: that of the command which a response
answers, or that of an event among those published.
-/

namespace PiDaemon.Bridge

open Lib Protocol

structure RpcStdioBridgeLimits where
  maxLineBytes : Nat := 1024 * 1024
  maxMessageBytes : Nat := 1024 * 1024
  maxPendingCommands : Nat := 64
  maxPendingBytes : Nat := 4 * 1024 * 1024
  maxOutputBytes : Nat := 4 * 1024 * 1024
  maxInFlightCommands : Nat := 8
  reconnectAttempts : Nat := 8

def MAX_STATUS_BYTES : Nat := 64 * 1024

inductive AttachmentRole where
  | controller
  | observer
  deriving DecidableEq

def AttachmentRole.name : AttachmentRole → JsString
  | .controller => text "controller"
  | .observer => text "observer"

structure RpcStdioBridge where
  limits : RpcStdioBridgeLimits := {}
  role : AttachmentRole := .controller
  /-- How numbers are written. -/
  format : NumberFormat Rat

structure PendingCommand where
  number : Nat
  value : JsValue Rat
  bytes : Nat
  command : JsString
  id : Option JsString

/-- What a line of output is: an event, or the response to a command. -/
inductive OutputSource where
  | event (number : Option Nat)
  | response (answers : Option Nat)
  deriving DecidableEq

/-- What the bridge has written, in its order; of the statuses only the gaps. -/
inductive Entry where
  | output (source : OutputSource)
  | gap
  deriving DecidableEq

structure Socket where
  id : Nat
  opened : Bool := false
  closing : Bool := false
  deriving DecidableEq

/-- Where `run` is suspended. -/
inductive Phase where
  | connected
  | delaying
  | settling
  | finished (code : Nat)
  deriving DecidableEq

structure State where
  pending : List PendingCommand := []
  inFlight : List PendingCommand := []
  retainedInputBytes : Int := 0
  socket : Option Socket := none
  ready : Bool := false
  sending : Bool := false
  inputEnded : Bool := false
  stopping : Bool := false
  failed : Bool := false
  lastCursor : Option JsString := none
  reconnects : Nat := 0
  gaps : Nat := 0
  attempts : Nat := 0
  terminalDrainTimer : Bool := false
  phase : Phase := .connected
  output : BoundedWriter OutputSource
  status : Option (BoundedWriter String)
  connections : Nat := 0
  /-- The connections whose `send` has not called back. -/
  sends : List Nat := []
  total : Nat := 0
  sent : List Nat := []
  uiResponses : List Nat := []
  stopCalled : Bool := false
  log : List Entry := []

/-! ## Values -/

def isObject : JsValue Rat → Bool
  | .object _ => true
  | _ => false

def stringOf : JsValue Rat → Option JsString
  | .string s => some s
  | _ => none

def isNumber : JsValue Rat → Bool
  | .number _ => true
  | _ => false

def commandType (value : JsValue Rat) : JsString :=
  (stringOf (value.member "type")).getD (text "unknown")

def commandId (value : JsValue Rat) : Option JsString := stringOf (value.member "id")

def isExtensionUiResponse (value : JsValue Rat) : Bool :=
  stringOf (value.member "type") = some (text "extension_ui_response") && (commandId value).isSome

/-- The frame that carries a value to the daemon. -/
def commandFrame (value : JsValue Rat) : JsValue Rat :=
  .object <|
    if isExtensionUiResponse value then
      .cons (text "kind") (.string (text "extension_ui_response")) <| .cons (text "response") value .nil
    else .cons (text "kind") (.string (text "command")) <| .cons (text "command") value .nil

/-- The response that the bridge gives in place of the daemon. -/
def indeterminateResponse (pending : PendingCommand) (error : String) : JsValue Rat :=
  .object <|
    .cons (text "type") (.string (text "response")) <|
    .cons (text "command") (.string pending.command) <|
    .cons (text "success") (.boolean false) <|
    .cons (text "error") (.string (text error)) <|
    optionMember "id" (pending.id.map .string) .nil

def statusRecord (event : String) (fields : JsMembers Rat) : JsValue Rat :=
  .object <|
    .cons (text "type") (.string (text "pi_daemon_rpc_status")) <|
    .cons (text "event") (.string (text event)) fields

/-- `index` of `#settleInFlight`; `inFlight.length` where it is -1. -/
def settledIndex (response : JsValue Rat) (inFlight : List PendingCommand) : Nat :=
  let byId := inFlight.findIdx fun item => item.id.isSome && item.id = stringOf (response.member "id")
  if byId < inFlight.length then byId
  else
    inFlight.findIdx fun item => some item.command = stringOf (response.member "command")

namespace RpcStdioBridge

variable (bridge : RpcStdioBridge)

/-! ## Failing and stopping -/

/-- `stop`; a delay is woken, and `run` leaves its loop. -/
def stop (s : State) : State :=
  if s.stopping then s
  else
    { s with
      stopping := true
      terminalDrainTimer := false
      socket := s.socket.map fun socket => { socket with closing := true }
      phase := if s.phase = .delaying then .settling else s.phase }

/-- `#output.write`, and whether it has called `#fail`. -/
def tryOutput (source : OutputSource) (value : JsValue Rat) (s : State) : Option State :=
  (s.output.write bridge.format bridge.limits.maxOutputBytes source value).map fun output =>
    { s with output, log := s.log ++ [.output source] }

/-- `#writeStatus`, and whether it has called `#fail`. -/
def tryStatus (event : String) (fields : JsMembers Rat) (s : State) : Option State :=
  match s.status with
  | none => some s
  | some status =>
    (status.write bridge.format MAX_STATUS_BYTES event (statusRecord event fields)).map fun status =>
      { s with
        status := some status
        log := if event = "replay_gap" then s.log ++ [.gap] else s.log }

/-- The loop of `#failInFlight`; `write` writes the response to a command. -/
def answerInFlight (error : String) (write : OutputSource → JsValue Rat → State → State) (s : State) :
    State :=
  s.inFlight.foldl
    (fun s pending =>
      write (.response (some pending.number)) (indeterminateResponse pending error)
        { s with retainedInputBytes := s.retainedInputBytes - pending.bytes })
    { s with inFlight := [] }

/-- `#fail`; a bridge that has failed does not fail again. -/
def fail (message : String) (s : State) : State :=
  if s.failed then s
  else
    let s := { s with failed := true }
    let s := (bridge.tryStatus "fatal" (.cons (text "message") (.string (text message)) .nil) s).getD s
    stop <| answerInFlight "bridge_failed_indeterminate"
      (fun source value s => (bridge.tryOutput source value s).getD s) s

def writeOutput (source : OutputSource) (value : JsValue Rat) (s : State) : State :=
  (bridge.tryOutput source value s).getD (bridge.fail "stdout backpressure limit exceeded" s)

def writeStatus (event : String) (fields : JsMembers Rat) (s : State) : State :=
  (bridge.tryStatus event fields s).getD (bridge.fail "status output backpressure limit exceeded" s)

def failInFlight (error : String) (s : State) : State := answerInFlight error bridge.writeOutput s

/-! ## Commands -/

def flush (s : State) : State :=
  match s.socket, s.pending with
  | some socket, pending :: rest =>
    if s.stopping || s.failed || !s.ready || s.sending || !socket.opened || socket.closing ||
        decide (bridge.limits.maxInFlightCommands ≤ s.inFlight.length) then
      s
    else
      let s := { s with pending := rest }
      match encodeBoundedLine bridge.format (commandFrame pending.value) bridge.limits.maxMessageBytes with
      | .error _ => bridge.fail "RPC command frame exceeds message limit" s
      | .ok _ =>
        let s :=
          if isExtensionUiResponse pending.value then
            { s with
              retainedInputBytes := s.retainedInputBytes - pending.bytes
              uiResponses := s.uiResponses ++ [pending.number] }
          else { s with inFlight := s.inFlight ++ [pending] }
        { s with sending := true, sends := s.sends ++ [socket.id], sent := s.sent ++ [pending.number] }
  | _, _ => s

/-- `#enqueue`; `none` when it throws. -/
def enqueue (value : JsValue Rat) (s : State) : Option State :=
  match encodeBoundedLine bridge.format value bridge.limits.maxLineBytes with
  | .error _ => none
  | .ok encoded =>
    if bridge.limits.maxPendingCommands ≤ s.pending.length + s.inFlight.length ∨
        (bridge.limits.maxPendingBytes : Int) < s.retainedInputBytes + encoded.length then
      some (bridge.fail "pending RPC input limit exceeded" s)
    else
      let pending : PendingCommand :=
        { number := s.total
          value
          bytes := encoded.length
          command := commandType value
          id := commandId value }
      some <| bridge.flush
        { s with
          total := s.total + 1
          pending := s.pending ++ [pending]
          retainedInputBytes := s.retainedInputBytes + pending.bytes }

/-- The values of a chunk, and whether one of them threw. -/
def enqueueAll (s : State) : List (JsValue Rat) → State × Bool
  | [] => (s, false)
  | value :: values =>
    match bridge.enqueue value s with
    | none => (s, true)
    | some s => enqueueAll s values

def settleInFlight (response : JsValue Rat) (s : State) : State :=
  let index := settledIndex response s.inFlight
  match s.inFlight[index]? with
  | none => s
  | some settled =>
    { s with
      inFlight := s.inFlight.eraseIdx index
      retainedInputBytes := s.retainedInputBytes - settled.bytes }

/-- `run` leaves its loop. -/
def endRun (s : State) : State := { stop s with phase := .settling }

def finishIfDrained (s : State) : State :=
  if !s.inputEnded || !s.pending.isEmpty || !s.inFlight.isEmpty then s
  else
    let s :=
      { s with
        terminalDrainTimer := false
        socket := s.socket.map fun socket => { socket with closing := true } }
    if s.phase = .delaying then endRun s else s

/-! ## Frames -/

def countJson (n : Nat) : JsValue Rat := .number n

def onReady (frame : JsValue Rat) (s : State) : State :=
  match stringOf (frame.member "connectionId"), stringOf (frame.member "highWaterCursor"),
    isNumber (frame.member "generation"), stringOf (frame.member "sessionId") with
  | some _, some highWaterCursor, true, some (_ :: _) =>
    if bridge.role = .controller ∧ stringOf (frame.member "role") ≠ some (text "controller") then
      bridge.fail "RPC controller attachment is busy" s
    else
      let s := { s with lastCursor := some highWaterCursor, ready := true }
      let s := bridge.writeStatus "attached"
        (.cons (text "role") (frame.member "role") <|
          .cons (text "generation") (frame.member "generation") <|
          .cons (text "replayCursor") (.string highWaterCursor) .nil) s
      finishIfDrained (bridge.flush s)
  | _, _, _, _ => bridge.fail "daemon sent invalid attach state" s

def gapReasons : List JsString :=
  [text "cursor_expired", text "host_restarted", text "generation_changed"]

def onGap (frame : JsValue Rat) (s : State) : State :=
  if (stringOf (frame.member "reason")).any gapReasons.contains then
    let s := { s with gaps := s.gaps + 1 }
    bridge.writeStatus "replay_gap"
      (.cons (text "reason") (frame.member "reason") <|
        .cons (text "snapshotFollows") (.boolean true) .nil) s
  else bridge.fail "daemon sent invalid replay gap" s

def onControl (frame : JsValue Rat) (s : State) : State :=
  if stringOf (frame.member "action") = some (text "control_denied") ∧ bridge.role = .controller then
    bridge.fail "RPC controller attachment is busy" s
  else bridge.writeStatus "control" (.cons (text "action") (frame.member "action") .nil) s

/-- The event branch of `#onSocketMessage`. -/
def onEvent (frame : JsValue Rat) (number : Option Nat) (s : State) : State :=
  match stringOf (frame.member "cursor") with
  | none => bridge.fail "daemon sent invalid event cursor" s
  | some cursor =>
    bridge.writeOutput (.event number) (frame.member "event") { s with lastCursor := some cursor }

/-- The response branch of `#onSocketMessage`. -/
def onResponse (frame : JsValue Rat) (answers : Option Nat) (s : State) : State :=
  let response := frame.member "response"
  if isObject response then
    finishIfDrained <| bridge.flush <|
      bridge.writeOutput (.response answers) response (settleInFlight response s)
  else bridge.fail "daemon sent invalid RPC response" s

/-- `#onSocketMessage`; `none` is a message that is not JSON, or is too long. -/
def onSocketMessage (frame : Option (JsValue Rat)) (about : Option Nat) (s : State) : State :=
  match frame with
  | none => bridge.fail "daemon sent invalid RPC frame" s
  | some frame =>
    let kind := stringOf (frame.member "kind")
    if kind = some (text "attach_ready") then bridge.onReady frame s
    else if kind = some (text "replay_gap") then bridge.onGap frame s
    else if kind = some (text "event") then bridge.onEvent frame about s
    else if kind = some (text "response") then bridge.onResponse frame about s
    else if kind = some (text "control") then bridge.onControl frame s
    else bridge.fail "daemon sent unknown RPC frame" s

/-! ## Connections -/

/-- `#oneConnection`, up to its await. -/
def connect (s : State) : State :=
  { s with
    socket := some { id := s.connections }
    connections := s.connections + 1
    ready := false
    sending := false
    phase := .connected }

/-- The head of the loop of `run`. -/
def loop (s : State) : State :=
  if s.stopping then endRun s
  else if s.inputEnded && s.pending.isEmpty && s.inFlight.isEmpty then endRun s
  else connect s

/-- The part of the loop after an attempt that is to be repeated. -/
def reconnect (fields : JsMembers Rat) (s : State) : State :=
  let s := { s with reconnects := s.reconnects + 1 }
  let s := bridge.writeStatus "reconnecting" (.cons (text "attempt") (countJson s.attempts) fields) s
  if s.stopping then endRun s else { s with phase := .delaying }

/-- The connection is no longer the current one. -/
def dropSocket (s : State) : State := { s with socket := none, ready := false, sending := false }

/-- The connection was closed. -/
def onClose (code : Nat) (opened : Bool) (s : State) : State :=
  let s := dropSocket s
  if s.stopping then endRun s
  else
    let s := bridge.failInFlight "connection_lost_indeterminate" s
    if s.inputEnded && s.pending.isEmpty then endRun s
    else
      let s := { s with attempts := (if opened then 0 else s.attempts) + 1 }
      if bridge.limits.reconnectAttempts < s.attempts then
        endRun (bridge.fail "RPC reconnect attempts exhausted" s)
      else bridge.reconnect (.cons (text "closeCode") (countJson code) .nil) s

/-- The connection was rejected. -/
def onReject (retryable : Bool) (s : State) : State :=
  let s := dropSocket s
  if s.stopping then endRun s
  else
    let s := { s with attempts := s.attempts + 1 }
    if !retryable || decide (bridge.limits.reconnectAttempts < s.attempts) then
      endRun (bridge.fail
        (if retryable then "RPC reconnect attempts exhausted" else "RPC attachment rejected") s)
    else bridge.reconnect .nil s

/-- The statuses of a handshake that are worth another attempt. -/
def isRetryable (status : Nat) : Bool := 500 ≤ status || [404, 408, 409, 429].contains status

end RpcStdioBridge

/-! ## Steps -/

inductive Event where
  | data (values : List (JsValue Rat))
  | invalidData
  /-- The end of the input, with the values that were left; `none` when they are not valid. -/
  | inputEnd (values : Option (List (JsValue Rat)))
  | inputError
  | opened
  | message (frame : Option (JsValue Rat)) (about : Option Nat)
  | binary
  | rejected (status : Nat)
  | connectionError
  | closed (code : Nat)
  | sendDone (connection : Nat) (error : Bool)
  | delayElapsed
  | deadline
  | outputDrained (room : Nat)
  | outputError
  | statusDrained (room : Nat)
  | statusError
  | stop
  | finish (outputDrained statusDrained : Bool)

namespace RpcStdioBridge

variable (bridge : RpcStdioBridge)

def invalidInput : String := "stdin is not bounded valid RPC JSONL"

def onData (values : List (JsValue Rat)) (s : State) : State :=
  if s.stopping then s
  else
    match bridge.enqueueAll s values with
    | (s, false) => s
    | (s, true) => bridge.fail invalidInput s

def onInputEnd (values : Option (List (JsValue Rat))) (s : State) : State :=
  if s.stopping then s
  else
    match values with
    | none => bridge.fail invalidInput s
    | some values =>
      match bridge.enqueueAll s values with
      | (s, true) => bridge.fail invalidInput s
      | (s, false) =>
        let s := { s with inputEnded := true, terminalDrainTimer := !s.stopping }
        finishIfDrained s

/-- The bridge as `run` leaves it at its first await. -/
def start (room statusRoom : Nat) (hasStatus : Bool) : State :=
  loop { output := { room }, status := if hasStatus then some { room := statusRoom } else none }

/-- An event of the current connection. -/
def atSocket (s : State) (f : Socket → Option State) : Option State :=
  if s.phase = .connected then s.socket.bind f else none

def step (s : State) (e : Event) : Option State :=
  match e with
  | .data values => if s.inputEnded then none else some (bridge.onData values s)
  | .invalidData =>
    if s.inputEnded then none else some (if s.stopping then s else bridge.fail invalidInput s)
  | .inputEnd values => if s.inputEnded then none else some (bridge.onInputEnd values s)
  | .inputError => some (bridge.fail "stdin failed" s)
  | .opened =>
    atSocket s fun socket =>
      if socket.opened || socket.closing then none
      else some { s with socket := some { socket with opened := true } }
  | .message frame about =>
    atSocket s fun socket => if socket.opened then some (bridge.onSocketMessage frame about s) else none
  | .binary => atSocket s fun socket => if socket.opened then some (bridge.onReject false s) else none
  | .rejected status =>
    atSocket s fun socket =>
      if socket.opened then none else some (bridge.onReject (isRetryable status) s)
  | .connectionError =>
    atSocket s fun socket => if socket.opened then none else some (bridge.onReject true s)
  | .closed code => atSocket s fun socket => some (bridge.onClose code socket.opened s)
  | .sendDone connection error =>
    if connection ∈ s.sends then
      let s := { s with sends := s.sends.erase connection, sending := false }
      some (if error then bridge.fail "RPC socket write failed" s else bridge.flush s)
    else none
  | .delayElapsed => if s.phase = .delaying then some (loop s) else none
  | .deadline =>
    if s.terminalDrainTimer then
      some (bridge.fail "terminal RPC response deadline exceeded" { s with terminalDrainTimer := false })
    else none
  | .outputDrained room => some { s with output := s.output.drained room }
  | .outputError => some (bridge.fail "stdout backpressure limit exceeded" s)
  | .statusDrained room => some { s with status := s.status.map fun status => status.drained room }
  | .statusError => some (bridge.fail "status output backpressure limit exceeded" s)
  | .stop => some { stop s with stopCalled := true }
  | .finish outputDrained statusDrained =>
    if s.phase = .settling ∧ (outputDrained = true → s.output.isSettled = true) then
      some { s with
        phase := .finished (if s.failed || !outputDrained || !statusDrained then 1 else 0) }
    else none

end RpcStdioBridge

end PiDaemon.Bridge
