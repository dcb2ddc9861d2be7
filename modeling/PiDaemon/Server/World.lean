import PiDaemon.Lib.Runs
import PiDaemon.Server.Connection

/-!
# Runs of the protocol server

The sessions that the multiplexer holds, the connections of the server, and what happens to them:
commands, the ends of the multiplexer's operations, responses, published events, and the sockets.
A command is a value that `#handleValue` has parsed.  `published` only records.

An event of a resident session takes the next number of its slot; a session that is opened begins
again, and an event about a session that is not resident has the number 1.
-/

namespace PiDaemon.Server

open Lib Protocol

/-- What the server reads of a `SessionSlot`. -/
structure Slot where
  generation : Nat
  protocolVersion : JsString
  sequence : Nat
  deriving DecidableEq

structure World where
  sessions : OrderedMap SessionId Slot := .empty
  connections : OrderedMap Nat ClientConnection := .empty
  published : List EventEnvelope := []

inductive Event where
  | accept (id : Nat)
  | command (id : Nat) (command : Command)
  /-- A value that is not a command, or a chunk that cannot be decoded. -/
  | invalid (id : Nat) (requestId : RequestId) (body : ProtocolErrorBody)
      (protocolVersion : Option JsString) (ends : Bool)
  /-- The multiplexer has closed a session, or has found none. -/
  | closed (id : Nat) (requestId : RequestId) (result : Bool)
  /-- Another command has ended, or `close` has thrown. -/
  | finished (id : Nat) (requestId : RequestId) (response : ResponseEnvelope)
  | respond (id : Nat) (requestId : RequestId)
  | emit (sessionId : SessionId) (event : JsString) (requestId : Option RequestId)
      (data : Option (JsValue Rat))
  | opened (sessionId : SessionId) (generation : Nat) (protocolVersion : JsString)
      (requestId : Option RequestId) (data : Option (JsValue Rat))
  /-- The multiplexer has evicted a session, or has closed it for another transport. -/
  | removed (sessionId : SessionId)
  | provisional (sessionId : SessionId) (generation : Nat) (protocolVersion event : JsString)
      (requestId : Option RequestId) (data : Option (JsValue Rat))
  | drain (id : Nat) (taken : List Nat)
  | take (id : Nat) (bytes : Nat)
  | lose (id : Nat)
  | disconnect (id : Nat)

namespace ProtocolServer

variable (server : ProtocolServer)

/-! ## Commands -/

/-- The data of a response to `attach` or `detach`. -/
def attachmentData (key : String) (value : Bool) (generation sequence : Nat) : JsValue Rat :=
  .object <|
    .cons (text key) (.boolean value) <|
    .cons (text "generation") (countJson generation) <|
    .cons (text "sequence") (countJson sequence) .nil

def success (command : Command) (data : JsValue Rat) (sessionId : Option SessionId)
    (sequence : Option Nat) : ResponseEnvelope :=
  { protocolVersion := command.protocolVersion
    requestId := command.requestId
    hostInstanceId := server.hostInstanceId
    sessionId
    sequence
    outcome := .ok data }

def sessionForGeneration (sessionId : SessionId) (generation : Nat) (sessions : OrderedMap SessionId Slot) :
    Except ProtocolErrorBody Slot :=
  match sessions.get? sessionId with
  | none => .error { code := "session_not_found", message := "logical session is not open" }
  | some session =>
    if session.generation = generation then .ok session
    else
      .error
        { code := "stale_generation"
          message := "session generation does not match"
          details := some <| .object <|
            .cons (text "currentGeneration") (countJson session.generation) <|
            .cons (text "receivedGeneration") (countJson generation) .nil }

/-- The part of `#dispatch` that runs before the first await. -/
def dispatch (command : Command) (w : World) (connection : ClientConnection) : ClientConnection :=
  let ready (response : ResponseEnvelope) (connection : ClientConnection) : ClientConnection :=
    { connection with requests := connection.requests.set command.requestId (.ready response) }
  match command.operation with
  | .attach sessionId generation =>
    match sessionForGeneration sessionId generation w.sessions with
    | .error error =>
      ready (server.errorResponse command.requestId error command.protocolVersion sessionId) connection
    | .ok session =>
      ready
        (server.success command (attachmentData "attached" true generation session.sequence) sessionId
          session.sequence)
        { connection with
          subscribedSessions := connection.subscribedSessions.set sessionId generation
          attachments :=
            connection.attachments.filter
                (fun a => a.sessionId ≠ sessionId || a.generation = generation) ++
              [{ sessionId, generation
                 told := session.sequence
                 accepted := connection.writer.accepted.length
                 published := w.published.length }] }
  | .detach sessionId generation =>
    match sessionForGeneration sessionId generation w.sessions with
    | .error error =>
      ready (server.errorResponse command.requestId error command.protocolVersion sessionId) connection
    | .ok session =>
      let detached := connection.subscribedSessions.get? sessionId = some generation
      ready
        (server.success command (attachmentData "detached" detached generation session.sequence)
          sessionId session.sequence)
        (if detached then
          { connection with
            subscribedSessions := connection.subscribedSessions.delete sessionId
            attachments := connection.attachments.filter fun a => a.sessionId ≠ sessionId }
        else connection)
  | _ =>
    { connection with requests := connection.requests.set command.requestId (.running command) }

/-- `#handleValue` of a command. -/
def handleCommand (command : Command) (w : World) (connection : ClientConnection) : ClientConnection :=
  if connection.requests.has command.requestId then
    server.sendResponse
      (server.errorResponse command.requestId
        { code := "duplicate_request_id", message := "requestId is already in flight" } none none)
      connection
  else if server.limits.maxInFlightRequestsPerConnection ≤ connection.requests.size then
    server.sendResponse
      (server.errorResponse command.requestId
        { code := "connection_busy"
          message := "connection request capacity reached"
          retryable := true } none none)
      connection
  else server.dispatch command w connection

/-- The errors of `#onData` and `#handleValue`. -/
def handleInvalid (requestId : RequestId) (body : ProtocolErrorBody) (protocolVersion : Option JsString)
    (ends : Bool) (connection : ClientConnection) : ClientConnection :=
  let connection :=
    server.sendResponse (server.errorResponse requestId body protocolVersion none) connection
  if ends then endConnection connection else connection

/-- `#clearSessionSubscriptions`, at one connection. -/
def clearSubscription (sessionId : SessionId) (connection : ClientConnection) : ClientConnection :=
  { connection with
    subscribedSessions := connection.subscribedSessions.delete sessionId
    attachments := connection.attachments.filter fun a => a.sessionId ≠ sessionId }

/-! ## Publishing -/

/-- `#publishEvent`, at one connection. -/
def deliver (event : EventEnvelope) (connection : ClientConnection) : ClientConnection :=
  if connection.subscribedSessions.get? event.sessionId = some event.generation then
    server.sendEvent event connection
  else connection

def publish (event : EventEnvelope) (w : World) : World :=
  { w with
    connections := w.connections.mapValues (server.deliver event)
    published := w.published ++ [event] }

/-! ## Steps -/

/-- A step of one connection. -/
def atConnection (id : Nat) (f : ClientConnection → Option ClientConnection) (w : World) : Option World :=
  (w.connections.get? id).bind fun connection =>
    (f connection).map fun connection => { w with connections := w.connections.set id connection }

def step (w : World) : Event → Option World
  | .accept id =>
    if w.connections.has id || server.limits.maxConnections ≤ w.connections.size then none
    else some { w with connections := w.connections.set id {} }
  | .command id command => atConnection id (fun c => some (server.handleCommand command w c)) w
  | .invalid id requestId body protocolVersion ends =>
    atConnection id (fun c => some (server.handleInvalid requestId body protocolVersion ends c)) w
  | .closed id requestId result =>
    (w.connections.get? id).bind fun connection =>
      match connection.requests.get? requestId with
      | some (.running command) =>
        match command.operation with
        | .close sessionId =>
          let cleared := w.connections.mapValues (clearSubscription sessionId)
          let response := server.success command
            (.object (.cons (text "closed") (.boolean result) .nil)) sessionId none
          atConnection id
            (fun c => some { c with requests := c.requests.set requestId (.ready response) })
            { w with sessions := w.sessions.delete sessionId, connections := cleared }
        | _ => none
      | _ => none
  | .finished id requestId response =>
    atConnection id (fun c =>
      match c.requests.get? requestId with
      | some (.running _) => some { c with requests := c.requests.set requestId (.ready response) }
      | _ => none) w
  | .respond id requestId =>
    atConnection id (fun c =>
      match c.requests.get? requestId with
      | some (.ready response) =>
        let c := server.sendResponse response c
        some { c with requests := c.requests.delete requestId }
      | _ => none) w
  | .emit sessionId event requestId data =>
    (w.sessions.get? sessionId).map fun session =>
      let session := { session with sequence := session.sequence + 1 }
      server.publish
        { protocolVersion := session.protocolVersion
          event, sessionId, requestId, data
          hostInstanceId := server.hostInstanceId
          generation := session.generation
          sequence := session.sequence }
        { w with sessions := w.sessions.set sessionId session }
  | .opened sessionId generation protocolVersion requestId data =>
    some <| server.publish
      { protocolVersion, sessionId, generation, requestId, data
        event := text "opened"
        hostInstanceId := server.hostInstanceId
        sequence := 1 }
      { w with sessions := w.sessions.set sessionId { generation, protocolVersion, sequence := 1 } }
  | .removed sessionId => some { w with sessions := w.sessions.delete sessionId }
  | .provisional sessionId generation protocolVersion event requestId data =>
    some <| server.publish
      { protocolVersion, event, sessionId, generation, requestId, data
        hostInstanceId := server.hostInstanceId
        sequence := 1 }
      w
  | .drain id taken =>
    atConnection id (fun c =>
      some { c with
        writer := c.writer.flush server.limits.maxOutboundBytesPerConnection server.highWaterMark
          taken }) w
  | .take id bytes => atConnection id (fun c => some { c with writer := c.writer.take bytes }) w
  | .lose id => atConnection id (fun c => some { c with writer := c.writer.lose }) w
  | .disconnect id =>
    if w.connections.has id then some { w with connections := w.connections.delete id } else none

end ProtocolServer

end PiDaemon.Server
