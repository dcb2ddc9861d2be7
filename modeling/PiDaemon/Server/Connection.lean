import PiDaemon.Lib.OrderedMap
import PiDaemon.Server.Writer

/-!
# The connections of the protocol server

The envelopes that a `ProtocolServer` sends, and how it sends them: what cannot be encoded within
its limit is replaced, and the connection is destroyed when the replacement cannot be either.
`attachments` only records when a connection attached, and the sequence that it was told.

* `sendEvent_sent`: an event, or its replacement, is accepted, or the connection is lost.
-/

namespace PiDaemon.Server

open Lib Protocol ConnectionWriter

abbrev SessionId := JsString
abbrev RequestId := JsString

/-- The limits that the constructor accepts. -/
structure ProtocolServerLimits where
  maxConnections : Nat
  maxInFlightRequestsPerConnection : Nat
  maxEventBytes : Nat
  maxResponseBytes : Nat
  maxOutboundBytesPerConnection : Nat
  eventsFit : maxEventBytes ≤ maxOutboundBytesPerConnection
  responsesFit : maxResponseBytes ≤ maxOutboundBytesPerConnection

structure ProtocolServer where
  limits : ProtocolServerLimits
  hostInstanceId : JsString
  /-- How numbers are written. -/
  format : NumberFormat Rat
  /-- `socket.writableHighWaterMark` -/
  highWaterMark : Nat

/-! ## Envelopes -/

def PROTOCOL_VERSION : JsString := text "1.0"

structure ProtocolErrorBody where
  code : String
  message : String
  retryable : Bool := false
  details : Option (JsValue Rat) := none

structure ResponseEnvelope where
  protocolVersion : JsString := PROTOCOL_VERSION
  requestId : RequestId
  hostInstanceId : JsString
  sessionId : Option SessionId := none
  sequence : Option Nat := none
  outcome : Except ProtocolErrorBody (JsValue Rat)

structure EventEnvelope where
  protocolVersion : JsString := PROTOCOL_VERSION
  event : JsString
  hostInstanceId : JsString
  sessionId : SessionId
  generation : Nat
  sequence : Nat
  requestId : Option RequestId := none
  data : Option (JsValue Rat) := none

def countJson (n : Nat) : JsValue Rat := .number n

def ProtocolErrorBody.json (body : ProtocolErrorBody) : JsValue Rat :=
  .object <|
    .cons (text "code") (.string (text body.code)) <|
    .cons (text "message") (.string (text body.message)) <|
    .cons (text "retryable") (.boolean body.retryable) <|
    optionMember "details" body.details .nil

def ResponseEnvelope.outcomeJson : Except ProtocolErrorBody (JsValue Rat) → JsMembers Rat
  | .ok data => .cons (text "ok") (.boolean true) <| .cons (text "data") data .nil
  | .error error => .cons (text "ok") (.boolean false) <| .cons (text "error") error.json .nil

def ResponseEnvelope.json (response : ResponseEnvelope) : JsValue Rat :=
  .object <|
    .cons (text "protocolVersion") (.string response.protocolVersion) <|
    .cons (text "kind") (.string (text "response")) <|
    .cons (text "requestId") (.string response.requestId) <|
    .cons (text "hostInstanceId") (.string response.hostInstanceId) <|
    optionMember "sessionId" (response.sessionId.map .string) <|
    optionMember "sequence" (response.sequence.map countJson) <|
    outcomeJson response.outcome

def EventEnvelope.json (event : EventEnvelope) : JsValue Rat :=
  .object <|
    .cons (text "protocolVersion") (.string event.protocolVersion) <|
    .cons (text "kind") (.string (text "event")) <|
    .cons (text "event") (.string event.event) <|
    .cons (text "hostInstanceId") (.string event.hostInstanceId) <|
    .cons (text "sessionId") (.string event.sessionId) <|
    .cons (text "generation") (countJson event.generation) <|
    .cons (text "sequence") (countJson event.sequence) <|
    optionMember "requestId" (event.requestId.map .string) <|
    optionMember "data" event.data .nil

/-- The error that `send` returns, as a body. -/
def serializationErrorBody (error : EncodeError) (maxBytes : Nat) : ProtocolErrorBody :=
  let details := some (.object (.cons (text "maxBytes") (countJson maxBytes) .nil))
  match error with
  | .recordTooLarge _ _ =>
    { code := "outbound_record_too_large"
      message := "outbound record exceeds configured byte limit"
      details }
  | _ =>
    { code := "outbound_not_serializable", message := "outbound record is not serializable", details }

/-- The event that replaces one that cannot be encoded, at the same sequence. -/
def EventEnvelope.dropped (maxEventBytes : Nat) (event : EventEnvelope) (error : EncodeError) :
    EventEnvelope :=
  { event with
    event := text "eventDropped"
    data := some <| .object <|
      .cons (text "originalEvent") (.string event.event) <|
      .cons (text "error") (serializationErrorBody error maxEventBytes).json .nil }

/-! ## Connections -/

/-- What a line encodes; an event also where another one replaces it. -/
inductive Source where
  | response (response : ResponseEnvelope)
  | event (event : EventEnvelope)

/-- An attachment, the sequence that it was told, and what had been accepted and published by
then. -/
structure Attachment where
  sessionId : SessionId
  generation : Nat
  told : Nat
  accepted : Nat
  published : Nat
  deriving DecidableEq

inductive Operation where
  | attach (sessionId : SessionId) (generation : Nat)
  | detach (sessionId : SessionId) (generation : Nat)
  | close (sessionId : SessionId)
  | other (sessionId : Option SessionId)
  deriving DecidableEq

structure Command where
  requestId : RequestId
  protocolVersion : JsString
  operation : Operation
  deriving DecidableEq

/-- A request whose promise is pending, or has a response that is not sent yet. -/
inductive Request where
  | running (command : Command)
  | ready (response : ResponseEnvelope)

structure ClientConnection where
  writer : ConnectionWriter Source := {}
  requests : OrderedMap RequestId Request := .empty
  subscribedSessions : OrderedMap SessionId Nat := .empty
  closed : Bool := false
  attachments : List Attachment := []

namespace ProtocolServer

variable (server : ProtocolServer)

def send (source : Source) (value : JsValue Rat) (maxRecordBytes : Nat)
    (connection : ClientConnection) : Option EncodeError × ClientConnection :=
  let (error, writer) := connection.writer.send server.format
    server.limits.maxOutboundBytesPerConnection server.highWaterMark source value maxRecordBytes
  (error, { connection with writer })

def sendResponse (response : ResponseEnvelope) (connection : ClientConnection) : ClientConnection :=
  match server.send (.response response) response.json server.limits.maxResponseBytes connection with
  | (none, connection) => connection
  | (some failure, connection) =>
    let fallback : ResponseEnvelope :=
      { response with
        sequence := none
        outcome := .error (serializationErrorBody failure server.limits.maxResponseBytes) }
    match server.send (.response fallback) fallback.json server.limits.maxResponseBytes connection with
    | (none, connection) => connection
    | (some _, connection) => { connection with writer := connection.writer.destroy }

def sendEvent (event : EventEnvelope) (connection : ClientConnection) : ClientConnection :=
  match server.send (.event event) event.json server.limits.maxEventBytes connection with
  | (none, connection) => connection
  | (some failure, connection) =>
    let replacement := event.dropped server.limits.maxEventBytes failure
    match server.send (.event event) replacement.json server.limits.maxEventBytes connection with
    | (none, connection) => connection
    | (some _, connection) => { connection with writer := connection.writer.destroy }

def endConnection (connection : ClientConnection) : ClientConnection :=
  if connection.closed then connection
  else { connection with closed := true, writer := connection.writer.finish }

/-- The response of `#sendError`. -/
def errorResponse (requestId : RequestId) (body : ProtocolErrorBody) (protocolVersion : Option JsString)
    (sessionId : Option SessionId) : ResponseEnvelope :=
  { protocolVersion := protocolVersion.getD PROTOCOL_VERSION
    requestId
    hostInstanceId := server.hostInstanceId
    sessionId
    outcome := .error body }

/-! ## What is sent -/

/-- The line of an event is its encoding, or that of its replacement. -/
def Encodes (event : EventEnvelope) (line : List UInt8) : Prop :=
  encodeBoundedLine server.format event.json server.limits.maxEventBytes = .ok line ∨
    ∃ error, encodeBoundedLine server.format event.json server.limits.maxEventBytes = .error error ∧
      encodeBoundedLine server.format (event.dropped server.limits.maxEventBytes error).json
        server.limits.maxEventBytes = .ok line

/-- The event that a line delivers. -/
def delivered : Record Source → Option EventEnvelope
  | ⟨.event event, _⟩ => some event
  | ⟨.response _, _⟩ => none

/-- What sending does to a connection: the lines that it accepts deliver these events, or it is
lost. -/
structure Sent (events : List EventEnvelope) (connection left : ClientConnection) : Prop where
  same : left = { connection with writer := left.writer }
  ordered : connection.writer.Ordered server.limits.maxOutboundBytesPerConnection →
    left.writer.Ordered server.limits.maxOutboundBytesPerConnection
  alive : left.writer.Alive → connection.writer.Alive
  accepted : ∃ records : List (Record Source),
    left.writer.accepted = connection.writer.accepted ++ records ∧
      (∀ record ∈ records, ∀ event, delivered record = some event → server.Encodes event record.line) ∧
      (left.writer.Alive → records.filterMap delivered = events)

variable {server}

theorem sent_destroy (events : List EventEnvelope) (connection : ClientConnection) :
    server.Sent events connection { connection with writer := connection.writer.destroy } where
  same := rfl
  ordered h := h.destroy
  alive h := absurd h not_alive_destroy
  accepted := ⟨[], by rw [List.append_nil]; exact accepted_destroy,
    fun _ h => absurd h List.not_mem_nil, fun h => absurd h not_alive_destroy⟩

theorem send_cases (source : Source) (value : JsValue Rat) (maxRecordBytes : Nat)
    (connection : ClientConnection)
    (hencodes : ∀ line, encodeBoundedLine server.format value maxRecordBytes = .ok line →
      ∀ event, delivered ⟨source, line⟩ = some event → server.Encodes event line) :
    (∃ error, encodeBoundedLine server.format value maxRecordBytes = .error error ∧
        server.send source value maxRecordBytes connection = (some error, connection)) ∨
      ∃ left, server.send source value maxRecordBytes connection = (none, left) ∧
        server.Sent (delivered ⟨source, []⟩).toList connection left := by
  have hsends := send_sends server.limits.maxOutboundBytesPerConnection
    server.highWaterMark connection.writer server.format source value maxRecordBytes
  have hordered := fun h : connection.writer.Ordered server.limits.maxOutboundBytesPerConnection =>
    h.send server.highWaterMark server.format source value maxRecordBytes
  unfold send
  generalize connection.writer.send server.format server.limits.maxOutboundBytesPerConnection
    server.highWaterMark source value maxRecordBytes = sends at hsends hordered ⊢
  obtain ⟨error, _⟩ := sends
  cases hsends with
  | failed h => exact .inl ⟨_, h, rfl⟩
  | lost h haccepted =>
    refine .inr ⟨_, rfl, rfl, hordered, fun ha => absurd ha h, [], ?_⟩
    exact ⟨by rw [List.append_nil]; exact haccepted, fun _ hr => absurd hr List.not_mem_nil,
      fun ha => absurd ha h⟩
  | @sent line _ h halive haccepted =>
    refine .inr ⟨_, rfl, rfl, hordered, fun _ => halive, [⟨source, line⟩], haccepted, ?_, fun _ => ?_⟩
    · intro record hrecord event hevent
      cases List.mem_singleton.mp hrecord
      exact hencodes line h event hevent
    · cases source <;> rfl

/-- A response, or the error that replaces it, delivers no event. -/
theorem sendResponse_sent (response : ResponseEnvelope) (connection : ClientConnection) :
    server.Sent [] connection (server.sendResponse response connection) := by
  have hnone : ∀ (other : ResponseEnvelope) (line : List UInt8) (event : EventEnvelope),
      delivered ⟨.response other, line⟩ = some event → server.Encodes event line :=
    fun _ _ _ h => by cases h
  unfold sendResponse
  rcases send_cases (.response response) response.json server.limits.maxResponseBytes connection
    (fun line _ => hnone response line) with ⟨error, -, hsend⟩ | ⟨left, hsend, hsent⟩
  · rw [hsend]
    dsimp only
    generalize { response with
      sequence := none
      outcome := .error (serializationErrorBody error server.limits.maxResponseBytes) } = fallback
    rcases send_cases (.response fallback) fallback.json server.limits.maxResponseBytes connection
      (fun line _ => hnone fallback line) with ⟨error', -, hsend'⟩ | ⟨left, hsend', hsent⟩
    · rw [hsend']
      exact sent_destroy [] connection
    · rw [hsend']
      exact hsent
  · rw [hsend]
    exact hsent

/-- An event, or its replacement, is accepted, or the connection is lost. -/
theorem sendEvent_sent (event : EventEnvelope) (connection : ClientConnection) :
    server.Sent [event] connection (server.sendEvent event connection) := by
  unfold sendEvent
  rcases send_cases (.event event) event.json server.limits.maxEventBytes connection
    (fun line h other hother => by cases hother; exact .inl h) with
    ⟨error, herror, hsend⟩ | ⟨left, hsend, hsent⟩
  · rw [hsend]
    dsimp only
    rcases send_cases (.event event) (event.dropped server.limits.maxEventBytes error).json
      server.limits.maxEventBytes connection
      (fun line h other hother => by cases hother; exact .inr ⟨error, herror, h⟩) with
      ⟨error', -, hsend'⟩ | ⟨left, hsend', hsent⟩
    · rw [hsend']
      exact sent_destroy [event] connection
    · rw [hsend']
      exact hsent
  · rw [hsend]
    exact hsent

end ProtocolServer

end PiDaemon.Server
