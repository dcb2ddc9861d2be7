import PiDaemon.Lib.JsString
import PiDaemon.Lib.OrderedMap
import PiDaemon.Lib.Runs

/-!
# The session of a tool adapter

`HostToolAdapterSession`: the requests that wait for the socket, those that the adapter works
on, and the ones it has been asked to abort.

What the socket takes, what the adapter sends and whose timers fire is chosen by the events.
A request is a number, in the order of acceptance; `settlements` records what each promise
has been settled with.  The durations that the code measures for its status are left out.
-/

namespace PiDaemon.ToolAdapter

open Lib

inductive NeutralToolOperation where
  | fsList
  | fsStat
  | fsRead
  | fsSearch
  | fsWrite
  | fsEdit
  deriving DecidableEq

structure HostToolAdapterLimits where
  maxConcurrentRequests : Nat
  maxQueuedRequests : Nat
  requestTimeoutMs : Nat
  maxIdempotencyKeys : Nat

/-- The part of `HostToolAdapterDescriptor` that a session reads. -/
structure HostToolAdapterDescriptor where
  operations : List NeutralToolOperation
  limits : HostToolAdapterLimits

structure HostToolAdapterError where
  code : JsString
  retryable : Bool
  indeterminate : Bool
  retryAfterMs : Option Nat
  deriving DecidableEq

/-- `/^[a-z][a-z0-9_]{0,127}$/` -/
def isSafeCode : JsString → Bool
  | [] => false
  | first :: rest =>
    (0x61 ≤ first && first ≤ 0x7a) && rest.length ≤ 127 &&
      rest.all fun u => (0x61 ≤ u && u ≤ 0x7a) || (0x30 ≤ u && u ≤ 0x39) || u = 0x5f

def safeCode (value : JsString) : JsString :=
  if isSafeCode value then value else text "adapter_error"

/-- The constructor of `HostToolAdapterError`. -/
def adapterError (code : JsString) (retryable indeterminate : Bool) (retryAfterMs : Option Nat) :
    HostToolAdapterError :=
  ⟨safeCode code, retryable, indeterminate, retryAfterMs⟩

structure PendingInvocation where
  requestId : Nat
  idempotencyKey : JsString
  operation : NeutralToolOperation
  /-- The signal of the caller. -/
  signal : Option Nat
  deriving DecidableEq

structure AbortedInvocation where
  abortRequestId : Nat
  idempotencyKey : JsString
  operation : NeutralToolOperation
  deriving DecidableEq

inductive TerminalRequestOutcome where
  | completed
  | failed
  | cancelled
  | timedOut
  deriving DecidableEq

structure OperationQueueStats where
  acceptedRequests : Nat
  completedRequests : Nat
  failedRequests : Nat
  rejectedRequests : Nat
  cancelledRequests : Nat
  timedOutRequests : Nat
  deriving DecidableEq

def emptyOperationQueueStats : OperationQueueStats := ⟨0, 0, 0, 0, 0, 0⟩

namespace OperationQueueStats

def terminal (stats : OperationQueueStats) : TerminalRequestOutcome → OperationQueueStats
  | .completed => { stats with completedRequests := stats.completedRequests + 1 }
  | .failed => { stats with failedRequests := stats.failedRequests + 1 }
  | .cancelled => { stats with cancelledRequests := stats.cancelledRequests + 1 }
  | .timedOut => { stats with timedOutRequests := stats.timedOutRequests + 1 }

def accepted (stats : OperationQueueStats) : OperationQueueStats :=
  { stats with acceptedRequests := stats.acceptedRequests + 1 }

def rejected (stats : OperationQueueStats) : OperationQueueStats :=
  { stats with rejectedRequests := stats.rejectedRequests + 1 }

end OperationQueueStats

/-- What the promise of a request is settled with. -/
inductive Settlement (Data : Type) where
  | resolved (value : Data)
  | rejected (error : HostToolAdapterError)
  deriving DecidableEq

structure HostToolAdapterSession (Data : Type) where
  queue : List PendingInvocation
  active : OrderedMap Nat PendingInvocation
  aborted : OrderedMap Nat AbortedInvocation
  operationStats : NeutralToolOperation → OperationQueueStats
  /-- The counters of the session. -/
  requests : OperationQueueStats
  lastRejectionReason : Option JsString
  activeHighWater : Nat
  queuedHighWater : Nat
  saturationCount : Nat
  saturated : Bool
  bound : Bool
  disposed : Bool
  writeBlocked : Bool
  /-- `#bindResolve` is there. -/
  binding : Bool
  abortedSignals : List Nat
  nextRequestId : Nat
  nextAbortRequestId : Nat
  settlements : List (Nat × Settlement Data)

/-- The frame of a request: it is not valid, or too large, or written; whether the socket asks
to wait for `drain`. -/
inductive SendAnswer where
  | invalid
  | tooLarge
  | written (full : Bool)
  deriving DecidableEq

/-- What becomes of the frames that an event sends. -/
structure Socket where
  invoke : Nat → SendAnswer
  /-- The frame `abort` can be encoded. -/
  abort : Bool

/-- A socket that takes every frame. -/
def Socket.open : Socket := ⟨fun _ => .written false, true⟩

/-- A socket that takes a frame and asks to wait. -/
def Socket.full : Socket := ⟨fun _ => .written true, true⟩

/-- A line of the adapter. -/
inductive IncomingFrame (Data : Type) where
  | secretReflected
  | invalid
  | bound
  | result (requestId : Nat) (idempotencyKey : JsString) (operation : NeutralToolOperation)
      (data : Data)
  | failure (requestId : Nat) (idempotencyKey : JsString) (operation : NeutralToolOperation)
      (code : JsString) (retryable : Bool)
  | aborted (requestId targetRequestId : Nat)
  | revoked
  /-- A kind that only the host sends. -/
  | unexpected
  deriving DecidableEq

namespace HostToolAdapterSession

variable {Data : Type} (descriptor : HostToolAdapterDescriptor)

/-- The session after the frame `bind` has been written. -/
def connecting : HostToolAdapterSession Data where
  queue := []
  active := .empty
  aborted := .empty
  operationStats := fun _ => emptyOperationQueueStats
  requests := emptyOperationQueueStats
  lastRejectionReason := none
  activeHighWater := 0
  queuedHighWater := 0
  saturationCount := 0
  saturated := false
  bound := false
  disposed := false
  writeBlocked := false
  binding := true
  abortedSignals := []
  nextRequestId := 0
  nextAbortRequestId := 0
  settlements := []

def countOperation (pending : List PendingInvocation) (operation : NeutralToolOperation) : Nat :=
  pending.countP fun invocation => invocation.operation = operation

def activeRequests (s : HostToolAdapterSession Data) : Nat := s.active.size

def queuedRequests (s : HostToolAdapterSession Data) : Nat := s.queue.length

def recordTerminal (s : HostToolAdapterSession Data) (pending : PendingInvocation)
    (outcome : TerminalRequestOutcome) : HostToolAdapterSession Data :=
  { s with
    requests := s.requests.terminal outcome
    operationStats := fun operation =>
      if operation = pending.operation then (s.operationStats operation).terminal outcome
      else s.operationStats operation }

def recordOccupancy (s : HostToolAdapterSession Data) : HostToolAdapterSession Data :=
  let saturated := s.active.size ≥ descriptor.limits.maxConcurrentRequests ∧
    s.queue.length ≥ descriptor.limits.maxQueuedRequests
  { s with
    activeHighWater := max s.activeHighWater s.active.size
    queuedHighWater := max s.queuedHighWater s.queue.length
    saturationCount :=
      if saturated ∧ s.saturated = false then s.saturationCount + 1 else s.saturationCount
    saturated := saturated }

def settle (s : HostToolAdapterSession Data) (pending : PendingInvocation)
    (settlement : Settlement Data) : HostToolAdapterSession Data :=
  { s with settlements := s.settlements ++ [(pending.requestId, settlement)] }

/-- A request ends. -/
def finish (s : HostToolAdapterSession Data) (outcome : TerminalRequestOutcome)
    (settlement : Settlement Data) (pending : PendingInvocation) : HostToolAdapterSession Data :=
  (s.recordTerminal pending outcome).settle pending settlement

/-- The loops of `dispose` and of `#failConnection`, and what they clear. -/
def finishAll (s : HostToolAdapterSession Data) (outcome : TerminalRequestOutcome)
    (error : HostToolAdapterError) : HostToolAdapterSession Data :=
  let s := s.queue.foldl (fun s pending => s.finish outcome (.rejected error) pending)
    { s with queue := [] }
  let s := s.active.values.foldl (fun s pending => s.finish outcome (.rejected error) pending) s
  { recordOccupancy descriptor { s with active := .empty } with aborted := .empty }

def failConnection (s : HostToolAdapterSession Data) (code : JsString) :
    HostToolAdapterSession Data :=
  if s.disposed then s
  else
    finishAll descriptor { s with disposed := true, bound := false, binding := false } .failed
      (adapterError code true (s.active.size > 0) none)

/-- `dispose`, up to the frame `revoke`. -/
def dispose (s : HostToolAdapterSession Data) : HostToolAdapterSession Data :=
  if s.disposed then s
  else
    finishAll descriptor { s with disposed := true, bound := false } .cancelled
      (adapterError (text "adapter_session_closed") false (s.active.size > 0) none)

/-! ## Requests -/

/-- An iteration of `#pump` for the request that has left the queue. -/
def pumpOne (socket : Socket) (s : HostToolAdapterSession Data) (pending : PendingInvocation) :
    HostToolAdapterSession Data :=
  if pending.signal.any (· ∈ s.abortedSignals) then
    s.finish .cancelled
      (.rejected (adapterError (text "adapter_request_aborted") false false none)) pending
  else
    match socket.invoke pending.requestId with
    | .invalid =>
      s.finish .failed
        (.rejected (adapterError (text "adapter_request_invalid") false false none)) pending
    | .tooLarge =>
      s.finish .failed
        (.rejected (adapterError (text "adapter_request_too_large") false false none)) pending
    | .written full =>
      { s with active := s.active.set pending.requestId pending, writeBlocked := full }

/-- The loop of `#pump`, over the queue. -/
def pumpLoop (socket : Socket) :
    List PendingInvocation → HostToolAdapterSession Data → HostToolAdapterSession Data
  | [], s => s
  | pending :: rest, s =>
    if s.active.size < descriptor.limits.maxConcurrentRequests ∧ s.writeBlocked = false then
      pumpLoop socket rest (pumpOne socket { s with queue := rest } pending)
    else s

def pump (socket : Socket) (s : HostToolAdapterSession Data) : HostToolAdapterSession Data :=
  if s.disposed ∨ s.bound = false then s
  else if s.writeBlocked then recordOccupancy descriptor s
  else recordOccupancy descriptor (pumpLoop descriptor socket s.queue s)

def isIdentifierUnit (u : UInt16) : Bool :=
  (0x41 ≤ u && u ≤ 0x5a) || (0x61 ≤ u && u ≤ 0x7a) || (0x30 ≤ u && u ≤ 0x39) || u ∈ text "._:-"

/-- `boundedIdentifier` of an idempotency key. -/
def isIdempotencyKey (key : JsString) : Bool :=
  1 ≤ key.length && key.length ≤ 512 && key.all isIdentifierUnit

/-- The hint of `adapter_queue_capacity`. -/
def retryAfterMs : Nat := max 25 (min 1000 (descriptor.limits.requestTimeoutMs / 20))

/-- `invoke`; a request that is refused has an error. -/
def invoke (socket : Socket) (s : HostToolAdapterSession Data) (operation : NeutralToolOperation)
    (idempotencyKey : JsString) (signal : Option Nat) :
    HostToolAdapterSession Data × Option HostToolAdapterError :=
  if s.disposed ∨ s.bound = false then
    (s, some (adapterError (text "adapter_session_closed") false false none))
  else if operation ∉ descriptor.operations then
    (s, some (adapterError (text "adapter_operation_denied") false false none))
  else if signal.any (· ∈ s.abortedSignals) then
    (s, some (adapterError (text "adapter_request_aborted") false false none))
  else if isIdempotencyKey idempotencyKey = false then
    (s, some (adapterError (text "adapter_identifier_invalid") false false none))
  else if s.active.size ≥ descriptor.limits.maxConcurrentRequests ∧
      s.queue.length ≥ descriptor.limits.maxQueuedRequests then
    (recordOccupancy descriptor { s with
        requests := s.requests.rejected
        operationStats := fun other =>
          if other = operation then (s.operationStats other).rejected else s.operationStats other
        lastRejectionReason := some (text "adapter_queue_capacity") },
      some (adapterError (text "adapter_queue_capacity") true false (some (retryAfterMs descriptor))))
  else
    let pending : PendingInvocation := ⟨s.nextRequestId, idempotencyKey, operation, signal⟩
    (pump descriptor socket { s with
        nextRequestId := s.nextRequestId + 1
        requests := s.requests.accepted
        operationStats := fun other =>
          if other = operation then (s.operationStats other).accepted else s.operationStats other
        queue := s.queue ++ [pending] },
      none)

def rememberAborted (s : HostToolAdapterSession Data) (pending : PendingInvocation) :
    HostToolAdapterSession Data :=
  if s.aborted.size ≥ descriptor.limits.maxIdempotencyKeys then
    s.failConnection descriptor (text "adapter_abort_capacity")
  else
    { s with
      nextAbortRequestId := s.nextAbortRequestId + 1
      aborted := s.aborted.set pending.requestId
        ⟨s.nextAbortRequestId, pending.idempotencyKey, pending.operation⟩ }

def sendAbort (socket : Socket) (s : HostToolAdapterSession Data) (pending : PendingInvocation) :
    HostToolAdapterSession Data :=
  match s.aborted.get? pending.requestId with
  | none => s
  | some _ =>
    if socket.abort then s else s.failConnection descriptor (text "adapter_protocol_invalid")

/-- The request is given up, in the queue with the first error and else with the second. -/
def giveUp (socket : Socket) (outcome : TerminalRequestOutcome)
    (queued active : HostToolAdapterError) (s : HostToolAdapterSession Data) (requestId : Nat) :
    HostToolAdapterSession Data :=
  match s.queue.find? fun pending => pending.requestId = requestId with
  | some pending =>
    recordOccupancy descriptor
      (finish { s with queue := s.queue.erase pending } outcome (.rejected queued) pending)
  | none =>
    match s.active.get? requestId with
    | none => s
    | some pending =>
      let s := recordTerminal { s with active := s.active.delete requestId } pending outcome
      let s := sendAbort descriptor socket (rememberAborted descriptor s pending) pending
      pump descriptor socket (s.settle pending (.rejected active))

def abortInvocation (socket : Socket) (s : HostToolAdapterSession Data) (requestId : Nat) :
    HostToolAdapterSession Data :=
  s.giveUp descriptor socket .cancelled
    (adapterError (text "adapter_request_aborted") false false none)
    (adapterError (text "adapter_request_aborted") false true none) requestId

def timeoutInvocation (socket : Socket) (s : HostToolAdapterSession Data) (requestId : Nat) :
    HostToolAdapterSession Data :=
  s.giveUp descriptor socket .timedOut
    (adapterError (text "adapter_request_timeout") true false none)
    (adapterError (text "adapter_request_timeout") true true none) requestId

/-! ## Frames -/

def onResult (socket : Socket) (s : HostToolAdapterSession Data) (requestId : Nat)
    (idempotencyKey : JsString) (operation : NeutralToolOperation)
    (outcome : TerminalRequestOutcome) (settlement : Settlement Data) :
    HostToolAdapterSession Data :=
  match s.active.get? requestId, s.aborted.get? requestId with
  | none, none => s.failConnection descriptor (text "adapter_response_mismatch")
  | some pending, aborted =>
    if pending.idempotencyKey ≠ idempotencyKey ∨ pending.operation ≠ operation then
      s.failConnection descriptor (text "adapter_response_mismatch")
    else if aborted.isSome then s
    else
      pump descriptor socket
        (finish { s with active := s.active.delete requestId } outcome settlement pending)
  | none, some aborted =>
    if aborted.idempotencyKey ≠ idempotencyKey ∨ aborted.operation ≠ operation then
      s.failConnection descriptor (text "adapter_response_mismatch")
    else s

def onAborted (s : HostToolAdapterSession Data) (requestId targetRequestId : Nat) :
    HostToolAdapterSession Data :=
  match s.aborted.get? targetRequestId with
  | none => s.failConnection descriptor (text "adapter_response_mismatch")
  | some aborted =>
    if aborted.abortRequestId ≠ requestId then
      s.failConnection descriptor (text "adapter_response_mismatch")
    else { s with aborted := s.aborted.delete targetRequestId }

def onFrame (socket : Socket) (s : HostToolAdapterSession Data) :
    IncomingFrame Data → HostToolAdapterSession Data
  | .secretReflected => s.failConnection descriptor (text "adapter_secret_reflected")
  | .invalid => s.failConnection descriptor (text "adapter_protocol_invalid")
  | .bound =>
    if s.bound ∨ s.binding = false then
      s.failConnection descriptor (text "adapter_protocol_invalid")
    else { s with bound := true, binding := false }
  | .result requestId idempotencyKey operation data =>
    if s.bound then
      s.onResult descriptor socket requestId idempotencyKey operation .completed (.resolved data)
    else s.failConnection descriptor (text "adapter_protocol_invalid")
  | .failure requestId idempotencyKey operation code retryable =>
    if s.bound then
      s.onResult descriptor socket requestId idempotencyKey operation .failed
        (.rejected (adapterError code retryable false none))
    else s.failConnection descriptor (text "adapter_protocol_invalid")
  | .aborted requestId targetRequestId =>
    if s.bound then s.onAborted descriptor requestId targetRequestId
    else s.failConnection descriptor (text "adapter_protocol_invalid")
  | .revoked =>
    if s.bound then s else s.failConnection descriptor (text "adapter_protocol_invalid")
  | .unexpected => s.failConnection descriptor (text "adapter_protocol_invalid")

def onData (socket : Socket) (s : HostToolAdapterSession Data) (frames : List (IncomingFrame Data)) :
    HostToolAdapterSession Data :=
  if s.disposed then s else frames.foldl (fun s frame => s.onFrame descriptor socket frame) s

end HostToolAdapterSession

/-! ## Runs -/

inductive SessionEvent (Data : Type) where
  | invoke (operation : NeutralToolOperation) (idempotencyKey : JsString) (signal : Option Nat)
      (socket : Socket)
  | data (frames : List (IncomingFrame Data)) (socket : Socket)
  /-- The signal of a caller is aborted; its listeners follow. -/
  | signalAborted (signal : Nat)
  | abortInvocation (requestId : Nat) (socket : Socket)
  | timeoutInvocation (requestId : Nat) (socket : Socket)
  /-- The adapter has not answered to an abort in time. -/
  | abortedExpired (requestId : Nat)
  | drain (socket : Socket)
  /-- The socket fails or ends, or a write to it fails. -/
  | connectionFailed (code : JsString)
  /-- The timer of the frame `bind`, or its write, has failed. -/
  | bindFailed
  | dispose

open HostToolAdapterSession in
def sessionStep {Data : Type} (descriptor : HostToolAdapterDescriptor)
    (s : HostToolAdapterSession Data) : SessionEvent Data → Option (HostToolAdapterSession Data)
  | .invoke operation idempotencyKey signal socket =>
    some (s.invoke descriptor socket operation idempotencyKey signal).1
  | .data frames socket => some (s.onData descriptor socket frames)
  | .signalAborted signal => some { s with abortedSignals := signal :: s.abortedSignals }
  | .abortInvocation requestId socket => some (s.abortInvocation descriptor socket requestId)
  | .timeoutInvocation requestId socket => some (s.timeoutInvocation descriptor socket requestId)
  | .abortedExpired requestId => some { s with aborted := s.aborted.delete requestId }
  | .drain socket => some (pump descriptor socket { s with writeBlocked := false })
  | .connectionFailed code => some (s.failConnection descriptor code)
  | .bindFailed => some { s with binding := false }
  | .dispose => some (s.dispose descriptor)

end PiDaemon.ToolAdapter
