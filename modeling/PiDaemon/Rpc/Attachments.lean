import PiDaemon.Lib.JsString
import PiDaemon.Lib.OrderedMap
import PiDaemon.Lib.Runs

/-!
# RPC attachments

The hubs of `RpcAttachmentManager`, one for each session generation, and the connections of
a hub: who controls the session, the ring of retained events, and the replay that a framed
attachment begins with.

A call that is awaited ends one event of a run, and its answer begins another.  What the
peers, the multiplexer and the Pi controller answer is chosen by the events.  `published`,
`points` and `dispatches` only record: the events of each session generation, the places of
these at which a cursor can be issued, and what the Pi controller has been handed.
-/

namespace PiDaemon.Rpc

open Lib

structure RpcAttachmentLimits where
  maxHubs : Nat
  maxReplayEvents : Nat
  maxReplayBytes : Nat
  maxInFlightCommandsPerConnection : Nat

inductive SessionRpcSubprotocol where
  /-- `pi-rpc.v1` -/
  | raw
  /-- `pi-daemon-rpc.v1` -/
  | framed
  deriving DecidableEq

inductive AttachmentRole where
  | controller
  | observer
  deriving DecidableEq

/-- `hubKey(sessionId, generation)` -/
structure HubKey where
  sessionId : JsString
  generation : Nat
  deriving DecidableEq

structure ParsedCursor where
  hostInstanceId : JsString
  sessionId : JsString
  generation : Nat
  sequence : Nat
  deriving DecidableEq

inductive GapReason where
  | hostRestarted
  | generationChanged
  | cursorExpired
  deriving DecidableEq

/-- A place in the events of a session generation: the hub that counts them, its sequence
number there, and the number of all events that came before. -/
structure Point where
  epoch : Nat
  key : HubKey
  sequence : Nat
  position : Nat
  deriving DecidableEq

/-! ## Frames -/

/-- The text of a client, as far as it is read: the members of a record that are strings, and
the records in it. -/
inductive ClientValue where
  | other
  | record (kind type action id correlationId : Option JsString)
      (command response request : ClientValue)
  deriving DecidableEq

namespace ClientValue

def isRecord : ClientValue → Bool
  | other => false
  | record .. => true

def rpcType : ClientValue → JsString
  | record _ (some type) _ _ _ _ _ _ => type
  | _ => text "unknown"

def isExtensionUiResponse : ClientValue → Bool
  | record _ type _ id _ _ _ _ => type = some (text "extension_ui_response") && id.isSome
  | other => false

def isExtensionUiResponseFrame : ClientValue → Bool
  | record kind _ _ _ _ _ response _ =>
    kind = some (text "extension_ui_response") && response.isExtensionUiResponse
  | other => false

def isLetterOrDigit (u : UInt16) : Bool :=
  (0x41 ≤ u && u ≤ 0x5a) || (0x61 ≤ u && u ≤ 0x7a) || (0x30 ≤ u && u ≤ 0x39)

/-- `/^[A-Za-z0-9][A-Za-z0-9._:-]{0,255}$/u` -/
def isCorrelationId : JsString → Bool
  | [] => false
  | first :: rest =>
    isLetterOrDigit first && rest.length ≤ 255 &&
      rest.all fun u => isLetterOrDigit u || u ∈ text "._:-"

def isTreeNavigateFrame : ClientValue → Bool
  | record kind _ _ _ correlationId _ _ request =>
    kind = some (text "tree_navigate") && correlationId.any isCorrelationId && request.isRecord
  | other => false

def isCommandFrame : ClientValue → Bool
  | record kind _ _ _ _ command _ _ => kind = some (text "command") && command.isRecord
  | other => false

/-- `isControlFrame`; whether control is requested. -/
def controlAction : ClientValue → Option Bool
  | record kind _ action _ _ _ _ _ =>
    if kind ≠ some (text "control") then none
    else if action = some (text "request_control") then some true
    else if action = some (text "release_control") then some false
    else none
  | other => none

def command : ClientValue → ClientValue
  | record _ _ _ _ _ command _ _ => command
  | other => other

end ClientValue

def READ_ONLY_COMMANDS : List JsString :=
  ["get_state", "get_available_models", "get_session_stats", "get_fork_messages", "get_entries",
    "get_tree", "get_last_assistant_text", "get_messages", "get_commands"].map text

inductive ResponseOutcome where
  /-- What `controller.handle` has answered. -/
  | answered
  | failed (error : String)
  deriving DecidableEq

/-- The frames that are sent to a peer. -/
inductive RpcFrame (Output : Type) where
  | event (cursor : ParsedCursor) (sequence : Nat) (event : Output)
  /-- An event for a raw attachment. -/
  | rawEvent (event : Output)
  | replayGap (reason : GapReason) (requestedCursor : ParsedCursor)
      (oldestAvailableCursor : Option ParsedCursor) (highWaterCursor : ParsedCursor)
  | attachReady (role : AttachmentRole) (highWaterCursor : ParsedCursor)
      (oldestAvailableCursor : Option ParsedCursor)
  | controlGranted
  | controlDenied
  | controlReleased
  | response (outcome : ResponseOutcome)
  | treeNavigateResult (outcome : ResponseOutcome)
  | extensionUiResponse (outcome : ResponseOutcome)
  deriving DecidableEq

/-! ## Hubs -/

structure RetainedRpcEvent (Output : Type) where
  sequence : Nat
  cursor : ParsedCursor
  event : Output
  bytes : Nat
  deriving DecidableEq

structure RpcConnection (Output : Type) where
  id : Nat
  protocol : SessionRpcSubprotocol
  role : AttachmentRole
  ready : Bool
  inFlight : Nat
  requestedRole : AttachmentRole
  requestedCursor : Option ParsedCursor
  /-- The place that the requested cursor was issued for. -/
  resumes : Option Point
  /-- The boundary of the snapshot, once it has been captured. -/
  boundary : Option Nat
  sent : List (RpcFrame Output)
  deriving DecidableEq

structure RpcAttachmentHub (Output : Type) where
  hostInstanceId : JsString
  key : HubKey
  /-- The number of the hub among all hubs. -/
  epoch : Nat
  connections : OrderedMap Nat (RpcConnection Output)
  events : List (RetainedRpcEvent Output)
  controllerConnectionId : Option Nat
  sequence : Nat
  replayBytes : Nat
  disposed : Bool

/-- What becomes of the sends of one event: the connections that are closed by theirs, and
those whose response is too large. -/
structure Peers where
  fails : List Nat
  oversized : List Nat

def Peers.open : Peers := ⟨[], []⟩

namespace RpcAttachmentHub

variable {Output : Type} (limits : RpcAttachmentLimits)

def new (hostInstanceId : JsString) (key : HubKey) (epoch : Nat) : RpcAttachmentHub Output where
  hostInstanceId := hostInstanceId
  key := key
  epoch := epoch
  connections := .empty
  events := []
  controllerConnectionId := none
  sequence := 0
  replayBytes := 0
  disposed := false

def connectionCount (hub : RpcAttachmentHub Output) : Nat := hub.connections.size

def hasController (hub : RpcAttachmentHub Output) : Bool := hub.controllerConnectionId.isSome

def cursor (hub : RpcAttachmentHub Output) (sequence : Nat) : ParsedCursor :=
  ⟨hub.hostInstanceId, hub.key.sessionId, hub.key.generation, sequence⟩

def oldestCursor (hub : RpcAttachmentHub Output) : Option ParsedCursor :=
  hub.events.head?.map RetainedRpcEvent.cursor

def remove (hub : RpcAttachmentHub Output) (id : Nat) : RpcAttachmentHub Output :=
  if hub.connections.has id then
    { hub with
      connections := hub.connections.delete id
      controllerConnectionId :=
        if hub.controllerConnectionId = some id then none else hub.controllerConnectionId }
  else hub

/-- `#send`; a peer whose frame does not fit is closed. -/
def send (peers : Peers) (hub : RpcAttachmentHub Output) (id : Nat) (frame : RpcFrame Output) :
    RpcAttachmentHub Output :=
  match hub.connections.get? id with
  | none => hub
  | some connection =>
    if id ∈ peers.fails then hub.remove id
    else
      { hub with
        connections :=
          hub.connections.set id { connection with sent := connection.sent ++ [frame] } }

/-- `#sendResponse`, with its fallback. -/
def sendResponse (peers : Peers) (hub : RpcAttachmentHub Output) (id : Nat)
    (outcome : ResponseOutcome) : RpcAttachmentHub Output :=
  if id ∈ peers.oversized then
    hub.send peers id (.response (.failed "outbound_record_too_large"))
  else hub.send peers id (.response outcome)

def sendEvent (peers : Peers) (hub : RpcAttachmentHub Output)
    (connection : RpcConnection Output) (event : RetainedRpcEvent Output) :
    RpcAttachmentHub Output :=
  hub.send peers connection.id
    (if connection.protocol = .raw then .rawEvent event.event
      else .event event.cursor event.sequence event.event)

/-- `add`, up to the snapshot. -/
def add (hub : RpcAttachmentHub Output) (id : Nat) (protocol : SessionRpcSubprotocol)
    (requestedRole : AttachmentRole) (requestedCursor : Option ParsedCursor)
    (resumes : Option Point) : RpcAttachmentHub Output :=
  if hub.disposed then hub
  else
    let controllerGranted := requestedRole = .controller ∧ hub.hasController = false
    { hub with
      controllerConnectionId := if controllerGranted then some id else hub.controllerConnectionId
      connections := hub.connections.set id
        { id, protocol, role := if controllerGranted then .controller else .observer,
          ready := protocol = .raw, inFlight := 0, requestedRole, requestedCursor, resumes,
          boundary := none, sent := [] } }

def dispose (hub : RpcAttachmentHub Output) : RpcAttachmentHub Output :=
  if hub.disposed then hub
  else
    { hub with
      disposed := true
      controllerConnectionId := none
      connections := .empty
      events := []
      replayBytes := 0 }

/-- `#snapshot` of a connection that waits for it: the boundary is captured, or the peer is
closed. -/
def captured (hub : RpcAttachmentHub Output) (id : Nat) (found : Bool) : RpcAttachmentHub Output :=
  match hub.connections.get? id with
  | none => hub
  | some connection =>
    if connection.ready ∨ connection.boundary.isSome then hub
    else if found then
      { hub with
        connections := hub.connections.set id { connection with boundary := some hub.sequence } }
    else hub.remove id

def replayDecision (hub : RpcAttachmentHub Output) (requested : Option ParsedCursor)
    (boundary : Nat) : Nat × Option GapReason :=
  match requested with
  | none => (boundary, none)
  | some requested =>
    if requested.hostInstanceId ≠ hub.hostInstanceId then (boundary, some .hostRestarted)
    else if requested.sessionId ≠ hub.key.sessionId ∨
        requested.generation ≠ hub.key.generation then (boundary, some .generationChanged)
    else if requested.sequence > hub.sequence ∨
        hub.events.head?.any (fun oldest => requested.sequence + 1 < oldest.sequence) then
      (boundary, some .cursorExpired)
    else (requested.sequence, none)

/-- The frames that an attachment begins with. -/
def attachFrames (hub : RpcAttachmentHub Output) (connection : RpcConnection Output)
    (boundary : Nat) : List (RpcFrame Output) :=
  let replay := hub.replayDecision connection.requestedCursor boundary
  let gap :=
    match replay.2, connection.requestedCursor with
    | some reason, some requested =>
      [.replayGap reason requested hub.oldestCursor (hub.cursor boundary)]
    | _, _ => []
  gap ++ .attachReady connection.role (hub.cursor boundary) hub.oldestCursor ::
    (hub.events.filter fun event => event.sequence > replay.1).map fun event =>
      .event event.cursor event.sequence event.event

/-- `#initializeFramed` after the snapshot, and the rest of `add`. -/
def initializeFramed (peers : Peers) (hub : RpcAttachmentHub Output) (id : Nat) :
    RpcAttachmentHub Output :=
  match hub.connections.get? id with
  | none => hub
  | some connection =>
    match connection.boundary with
    | none => hub
    | some boundary =>
      if id ∈ peers.fails then hub.remove id
      else
        let denied : List (RpcFrame Output) :=
          if connection.requestedRole = .controller ∧ connection.role = .observer then
            [.controlDenied]
          else []
        { hub with
          connections := hub.connections.set id
            { connection with
              ready := true
              boundary := none
              sent := connection.sent ++ hub.attachFrames connection boundary ++ denied } }

/-! ### Messages -/

def handleControl (peers : Peers) (hub : RpcAttachmentHub Output)
    (connection : RpcConnection Output) (request : Bool) : RpcAttachmentHub Output :=
  let id := connection.id
  if request then
    if hub.controllerConnectionId = none ∨ hub.controllerConnectionId = some id then
      { hub with
        controllerConnectionId := some id
        connections :=
          hub.connections.set id { connection with role := .controller } }.send peers id
            .controlGranted
    else hub.send peers id .controlDenied
  else if hub.controllerConnectionId = some id then
    { hub with
      controllerConnectionId := none
      connections := hub.connections.set id { connection with role := .observer } }.send peers id
        .controlReleased
  else hub

/-- What is handed to the Pi controller. -/
structure Dispatch where
  key : HubKey
  connectionId : Nat
  /-- A tree navigation, or a command that is not read only. -/
  exclusive : Bool
  deriving DecidableEq

/-- `respondToExtensionUi` -/
inductive UiAnswer where
  | accepted
  | unknown
  /-- The Pi controller is disposed; the throw closes the peer. -/
  | throws
  deriving DecidableEq

def handleExtensionUiResponse (peers : Peers) (hub : RpcAttachmentHub Output)
    (connection : RpcConnection Output) (ui : UiAnswer) : RpcAttachmentHub Output :=
  if connection.role ≠ .controller then
    hub.send peers connection.id (.extensionUiResponse (.failed "controller_required"))
  else
    match ui with
    | .accepted => hub.send peers connection.id (.extensionUiResponse .answered)
    | .unknown => hub.send peers connection.id (.extensionUiResponse (.failed "unknown_ui_request"))
    | .throws => hub.remove connection.id

/-- The Pi controller is called, and answers later. -/
def begin (hub : RpcAttachmentHub Output) (connection : RpcConnection Output) (exclusive : Bool) :
    RpcAttachmentHub Output × Option Dispatch :=
  ({ hub with
      connections := hub.connections.set connection.id
        { connection with inFlight := connection.inFlight + 1 } },
    some ⟨hub.key, connection.id, exclusive⟩)

def handleTreeNavigate (peers : Peers) (hub : RpcAttachmentHub Output)
    (connection : RpcConnection Output) : RpcAttachmentHub Output × Option Dispatch :=
  if connection.role ≠ .controller then
    (hub.send peers connection.id (.treeNavigateResult (.failed "controller_required")), none)
  else hub.begin connection true

/-- The part of `#onMessage` for a command. -/
def handleCommand (peers : Peers) (ui : UiAnswer) (hub : RpcAttachmentHub Output)
    (connection : RpcConnection Output) (command : ClientValue) :
    RpcAttachmentHub Output × Option Dispatch :=
  if command.isExtensionUiResponse then
    (hub.handleExtensionUiResponse peers connection ui, none)
  else
    let readOnly := READ_ONLY_COMMANDS.contains command.rpcType
    if connection.role ≠ .controller ∧ ¬readOnly then
      (hub.sendResponse peers connection.id (.failed "controller_required"), none)
    else hub.begin connection (!readOnly)

/-- `#onMessage`; `none` is a text that is not JSON. -/
def onMessage (peers : Peers) (ui : UiAnswer) (hub : RpcAttachmentHub Output)
    (connection : RpcConnection Output) (value : Option ClientValue) :
    RpcAttachmentHub Output × Option Dispatch :=
  let framed := connection.protocol = .framed
  match value with
  | none => (hub.remove connection.id, none)
  | some value =>
    if connection.inFlight ≥ limits.maxInFlightCommandsPerConnection then
      if framed ∧ value.isTreeNavigateFrame then
        (hub.send peers connection.id (.treeNavigateResult (.failed "rpc_in_flight_capacity")), none)
      else (hub.sendResponse peers connection.id (.failed "rpc_in_flight_capacity"), none)
    else
      match (if framed then value.controlAction else none) with
      | some request => (hub.handleControl peers connection request, none)
      | none =>
        if framed ∧ value.isExtensionUiResponseFrame then
          (hub.handleExtensionUiResponse peers connection ui, none)
        else if framed ∧ value.isTreeNavigateFrame then hub.handleTreeNavigate peers connection
        else if framed then
          if value.isCommandFrame then hub.handleCommand peers ui connection value.command
          else (hub.remove connection.id, none)
        else hub.handleCommand peers ui connection value

/-- The Pi controller has answered. -/
def responded (peers : Peers) (hub : RpcAttachmentHub Output) (id : Nat)
    (outcome : ResponseOutcome) : RpcAttachmentHub Output :=
  let hub := hub.sendResponse peers id outcome
  match hub.connections.get? id with
  | none => hub
  | some connection =>
    { hub with
      connections :=
        hub.connections.set id { connection with inFlight := connection.inFlight - 1 } }

/-! ### Events -/

/-- The loop of `#publish` that takes events off the ring. -/
def evict : List (RetainedRpcEvent Output) → Nat → List (RetainedRpcEvent Output) × Nat
  | [], bytes => ([], bytes)
  | event :: events, bytes =>
    if (event :: events).length > limits.maxReplayEvents ∨ bytes > limits.maxReplayBytes then
      evict events (bytes - event.bytes)
    else (event :: events, bytes)

/-- The event is sent to every connection that is ready. -/
def broadcast (peers : Peers) (event : RetainedRpcEvent Output) :
    List (RpcConnection Output) → RpcAttachmentHub Output → RpcAttachmentHub Output
  | [], hub => hub
  | connection :: rest, hub =>
    broadcast peers event rest (if connection.ready then hub.sendEvent peers connection event else hub)

/-- `#publish`; the event is as `safeOutput` leaves it. -/
def publish (peers : Peers) (hub : RpcAttachmentHub Output) (event : Output) (bytes : Nat) :
    RpcAttachmentHub Output :=
  let sequence := hub.sequence + 1
  let retained : RetainedRpcEvent Output := ⟨sequence, hub.cursor sequence, event, bytes⟩
  let kept := evict limits (hub.events ++ [retained]) (hub.replayBytes + bytes)
  broadcast peers retained hub.connections.values
    { hub with sequence, events := kept.1, replayBytes := kept.2 }

end RpcAttachmentHub

/-! ## The manager -/

/-- An attachment that waits for its residency lease. -/
structure PendingAttach where
  id : Nat
  key : HubKey
  epoch : Nat
  protocol : SessionRpcSubprotocol
  requestedRole : AttachmentRole
  requestedCursor : Option ParsedCursor
  resumes : Option Point
  deriving DecidableEq

structure RpcAttachmentManager (Output : Type) where
  hostInstanceId : JsString
  hubs : OrderedMap HubKey (RpcAttachmentHub Output)
  disposed : Bool
  pending : List PendingAttach
  /-- Connections and hubs are numbered. -/
  nextId : Nat
  nextEpoch : Nat
  /-- The hubs that have been disposed. -/
  retired : List (RpcAttachmentHub Output)
  /-- The events of all hubs, with their session generations. -/
  published : List (HubKey × Output)
  points : List Point
  dispatches : List RpcAttachmentHub.Dispatch

inductive AttachmentEvent (Output : Type) where
  /-- `attach`, after the session and its Pi controller have been found. -/
  | attach (key : HubKey) (protocol : SessionRpcSubprotocol) (requestedRole : AttachmentRole)
      (resumes : Option Point)
  /-- `acquireResidencyLease` has answered. -/
  | lease (id : Nat) (granted : Bool)
  | captured (key : HubKey) (id : Nat) (found : Bool)
  | initializeFramed (key : HubKey) (id : Nat) (peers : Peers)
  | message (key : HubKey) (id : Nat) (value : Option ClientValue) (ui : RpcAttachmentHub.UiAnswer)
      (peers : Peers)
  | responded (key : HubKey) (id : Nat) (outcome : ResponseOutcome) (peers : Peers)
  | publish (key : HubKey) (event : Output) (bytes : Nat) (peers : Peers)
  /-- The socket of a peer has closed. -/
  | peerClosed (key : HubKey) (id : Nat)
  /-- An event of the multiplexer; whether it ends the residency of the session. -/
  | multiplexerEvent (sessionId : JsString) (generation : Nat) (ends : Bool)
  | dispose

namespace RpcAttachmentManager

variable {Output : Type} (limits : RpcAttachmentLimits)

def new (hostInstanceId : JsString) : RpcAttachmentManager Output where
  hostInstanceId := hostInstanceId
  hubs := .empty
  disposed := false
  pending := []
  nextId := 0
  nextEpoch := 0
  retired := []
  published := []
  points := []
  dispatches := []

/-- The events of a session generation. -/
def publishedOf (m : RpcAttachmentManager Output) (key : HubKey) : List Output :=
  (m.published.filter fun entry => entry.1 = key).map Prod.snd

/-- A hub is disposed and leaves the map. -/
def retire (m : RpcAttachmentManager Output) (key : HubKey) : RpcAttachmentManager Output :=
  match m.hubs.get? key with
  | none => m
  | some hub => { m with hubs := m.hubs.delete key, retired := hub.dispose :: m.retired }

/-- The part of `#hub` that makes a hub. -/
def createHub (m : RpcAttachmentManager Output) (key : HubKey) : RpcAttachmentManager Output :=
  { m with
    hubs := m.hubs.set key (.new m.hostInstanceId key m.nextEpoch)
    nextEpoch := m.nextEpoch + 1
    points := m.points ++ [⟨m.nextEpoch, key, 0, (m.publishedOf key).length⟩] }

/-- `#hub`; an idle hub is evicted when there are too many, and `none` is
`attachment_capacity`. -/
def hub (m : RpcAttachmentManager Output) (key : HubKey) : Option (RpcAttachmentManager Output) :=
  if m.hubs.has key then some m
  else if m.hubs.size ≥ limits.maxHubs then
    match m.hubs.entries.find? fun entry => entry.2.connectionCount = 0 with
    | none => none
    | some idle => some ((m.retire idle.1).createHub key)
  else some (m.createHub key)

/-- `#onMultiplexerEvent`: the hubs of the session that the event disposes. -/
def disposes (sessionId : JsString) (generation : Nat) (ends : Bool) (key : HubKey) : Bool :=
  key.sessionId = sessionId && (key.generation ≠ generation || ends)

/-- The hub of the key after a change. -/
def updateHub (m : RpcAttachmentManager Output) (key : HubKey)
    (change : RpcAttachmentHub Output → RpcAttachmentHub Output) : RpcAttachmentManager Output :=
  match m.hubs.get? key with
  | none => m
  | some hub => { m with hubs := m.hubs.set key (change hub) }

/-- `hub.add` after the lease; a hub that has been disposed is not in the map any more. -/
def attached (m : RpcAttachmentManager Output) (attach : PendingAttach) :
    RpcAttachmentManager Output :=
  match m.hubs.get? attach.key with
  | none => m
  | some hub =>
    if hub.epoch = attach.epoch then
      { m with
        hubs := m.hubs.set attach.key
          (hub.add attach.id attach.protocol attach.requestedRole attach.requestedCursor
            attach.resumes) }
    else m

end RpcAttachmentManager

open RpcAttachmentManager in
/-- One event, when it can happen. -/
def attachmentStep {Output : Type} (limits : RpcAttachmentLimits)
    (m : RpcAttachmentManager Output) : AttachmentEvent Output → Option (RpcAttachmentManager Output)
  | .attach key protocol requestedRole resumes =>
    if m.disposed then none
    else if protocol = .raw ∧ resumes.isSome then none
    else if resumes.any (· ∉ m.points) then none
    else
      (m.hub limits key).bind fun m =>
        (m.hubs.get? key).bind fun hub =>
          if protocol = .raw ∧ requestedRole = .controller ∧ hub.hasController then none
          else
            some { m with
              nextId := m.nextId + 1
              pending := m.pending ++
                [⟨m.nextId, key, hub.epoch, protocol, requestedRole,
                  resumes.map fun point =>
                    ⟨m.hostInstanceId, point.key.sessionId, point.key.generation, point.sequence⟩,
                  resumes⟩] }
  | .lease id granted =>
    (m.pending.find? fun attach => attach.id = id).map fun attach =>
      let m := { m with pending := m.pending.filter fun attach => attach.id ≠ id }
      if granted then m.attached attach else m
  | .captured key id found => some (m.updateHub key fun hub => hub.captured id found)
  | .initializeFramed key id peers => some (m.updateHub key fun hub => hub.initializeFramed peers id)
  | .message key id value ui peers =>
    (m.hubs.get? key).bind fun hub =>
      (hub.connections.get? id).map fun connection =>
        let result := hub.onMessage limits peers ui connection value
        { m with
          hubs := m.hubs.set key result.1
          dispatches := m.dispatches ++ result.2.toList }
  | .responded key id outcome peers =>
    some (m.updateHub key fun hub => hub.responded peers id outcome)
  | .publish key event bytes peers =>
    (m.hubs.get? key).map fun hub =>
      { m with
        hubs := m.hubs.set key (hub.publish limits peers event bytes)
        published := m.published ++ [(key, event)]
        points := m.points ++
          [⟨hub.epoch, key, hub.sequence + 1, (m.publishedOf key).length + 1⟩] }
  | .peerClosed key id => some (m.updateHub key fun hub => hub.remove id)
  | .multiplexerEvent sessionId generation ends =>
    some ((m.hubs.keys.filter (disposes sessionId generation ends)).foldl retire m)
  | .dispose =>
    if m.disposed then some m else some { m.hubs.keys.foldl retire m with disposed := true }

end PiDaemon.Rpc
