import Mathlib
import PiDaemon.Viewing.Screen

/-!
# The remote hub

`RemoteTuiHub` has one attachment to a shadow terminal at another host, and passes on what comes
over it.  A channel is given the hub's snapshot, the deltas that a cursor asks for, and from then
on every event.

Who controls the terminal is left out, and with it the actions that a hub sends and their
answers.  A step is one message of the current attachment, or a call; the text of a message is
what `JSON.stringify` writes.
-/

namespace PiDaemon.Viewing

open Lib Streams Terminal Shadow

structure RemoteDashboardBackendLimits where
  maxChannelsPerHub : Nat
  maxReplayEvents : Nat
  maxReplayBytes : Nat
  maxEventBytes : Nat

/-- A frame that waits until the hub has a snapshot. -/
inductive RemoteTuiEventFrame where
  | delta (delta : DashboardTuiDelta)
  | control (role : DashboardControllerRole) (event : DashboardControlEvent)
  /-- `ack`, `command_result` and `error`. -/
  | answer (bytes : Nat)
  /-- Its kind is not known, or its payload is not an object. -/
  | invalid (bytes : Nat)
  deriving DecidableEq

inductive RemoteTuiFrame where
  | replayGap (gap : DashboardReplayGap)
  | snapshot (role : DashboardControllerRole) (snapshot : DashboardTuiSnapshot)
  | event (frame : RemoteTuiEventFrame)
  /-- It has no kind, or is a gap or a snapshot without one. -/
  | malformed
  deriving DecidableEq

def roleName : DashboardControllerRole → JsString
  | .controller => text "controller"
  | .observer => text "observer"

def RemoteTuiEventFrame.bytes : RemoteTuiEventFrame → Nat
  | delta change =>
    jsonBytes (.object (jsMembers [("kind", .string (text "delta")), ("delta", change.json)]))
  | control role event =>
    jsonBytes (.object (jsMembers [("kind", .string (text "control")),
      ("event", (DashboardTuiChannelEvent.control event).json), ("role", .string (roleName role))]))
  | answer size => size
  | invalid size => size

def RemoteTuiFrame.bytes : RemoteTuiFrame → Nat
  | replayGap gap =>
    jsonBytes (.object (jsMembers [("kind", .string (text "replay_gap")),
      ("gap", (DashboardTuiChannelEvent.replayGap gap).json)]))
  | snapshot role shown =>
    jsonBytes (.object (jsMembers [("kind", .string (text "snapshot")),
      ("role", .string (roleName role)), ("snapshot", shown.json)]))
  | event frame => frame.bytes
  | malformed => 0

structure RetainedEvent where
  event : DashboardTuiChannelEvent
  bytes : Nat
  cursor : Option JsString
  deriving DecidableEq

/-- A channel and what its listener has got: the snapshot, and the events since. -/
structure RemoteTuiChannel where
  id : Nat
  snapshot : DashboardTuiSnapshot
  events : List DashboardTuiChannelEvent
  deriving DecidableEq

/-- What a viewer can be shown of the upstream terminal. -/
inductive Received where
  | snapshot (snapshot : DashboardTuiSnapshot)
  | delta (delta : DashboardTuiDelta)
  deriving DecidableEq

structure RemoteTuiHub where
  sessionRef : JsString
  generation : Nat
  /-- The ids that `randomUUID` has made. -/
  opened : Nat
  channels : List RemoteTuiChannel
  events : List RetainedEvent
  initialPending : List DashboardTuiChannelEvent
  snapshotValue : Option DashboardTuiSnapshot
  lastCursor : Option JsString
  replayBaseCursor : Option JsString
  replayBytes : Nat
  pendingGap : Option DashboardReplayGap
  beforeReady : List RemoteTuiEventFrame
  /-- There is a current socket. -/
  connected : Bool
  connectionReady : Bool
  disposed : Bool
  /-- Not in the source: the snapshots and deltas that upstream has sent. -/
  received : List Received

namespace RemoteTuiHub

def create (sessionRef : JsString) (generation : Nat) : RemoteTuiHub where
  sessionRef
  generation
  opened := 0
  channels := []
  events := []
  initialPending := []
  snapshotValue := none
  lastCursor := none
  replayBaseCursor := none
  replayBytes := 0
  pendingGap := none
  beforeReady := []
  connected := false
  connectionReady := false
  disposed := false
  received := []

variable (limits : RemoteDashboardBackendLimits) (hub : RemoteTuiHub)

/-! ## Frames -/

def eventCursor : DashboardTuiChannelEvent → Option JsString
  | .delta delta => some delta.cursor
  | _ => none

/-- The loop of `#publish`. -/
def trimReplay : List RetainedEvent → RemoteTuiHub → RemoteTuiHub
  | [], hub => { hub with events := [] }
  | removed :: rest, hub =>
    if (removed :: rest).length > limits.maxReplayEvents ∨ hub.replayBytes > limits.maxReplayBytes then
      trimReplay rest { hub with
        replayBytes := hub.replayBytes - removed.bytes
        replayBaseCursor := removed.cursor.or hub.replayBaseCursor
        initialPending :=
          if hub.channels.isEmpty = true then hub.initialPending.tail else hub.initialPending }
    else { hub with events := removed :: rest }

def deliver (event : DashboardTuiChannelEvent) (channel : RemoteTuiChannel) : RemoteTuiChannel :=
  { channel with events := channel.events ++ [event] }

def publish (event : DashboardTuiChannelEvent) : RemoteTuiHub :=
  if event.bytes > limits.maxEventBytes then hub
  else
    let retained := hub.events ++ [⟨event, event.bytes, eventCursor event⟩]
    let trimmed := trimReplay limits retained { hub with
      initialPending :=
        if hub.channels.isEmpty = true then hub.initialPending ++ [event] else hub.initialPending
      replayBytes := hub.replayBytes + event.bytes }
    { trimmed with channels := trimmed.channels.map (deliver event) }

/-- `#onFrame` at a delta. -/
def onDelta (delta : DashboardTuiDelta) : RemoteTuiHub :=
  publish limits
    { hub with
      lastCursor := some delta.cursor
      snapshotValue := hub.snapshotValue.map fun snapshot =>
        { snapshot with highWaterCursor := delta.cursor }
      received := hub.received ++ [.delta delta] }
    (.delta delta)

/-- `#onFrame` at a frame that waits for a snapshot, when there is one. -/
def onEventFrame : RemoteTuiEventFrame → Attempt RemoteTuiHub
  | .delta delta => .returned (hub.onDelta limits delta)
  | .control _ event => .returned (hub.publish limits (.control event))
  | .answer _ => .returned hub
  | .invalid _ => .threw hub

/-- `#onFrame` at a snapshot. -/
def onSnapshot (snapshot : DashboardTuiSnapshot) : Attempt RemoteTuiHub :=
  if snapshot.identity.sessionId ≠ hub.sessionRef ∨ snapshot.identity.generation ≠ hub.generation then
    .threw hub
  else
    let hub : RemoteTuiHub := { hub with
      replayBaseCursor :=
        if hub.snapshotValue.isNone = true then some snapshot.highWaterCursor
        else hub.replayBaseCursor
      snapshotValue := some snapshot
      lastCursor := some snapshot.highWaterCursor
      connectionReady := true
      received := hub.received ++ [.snapshot snapshot] }
    let hub : RemoteTuiHub :=
      match hub.pendingGap with
      | none => hub
      | some gap => { hub.publish limits (.replayGap gap) with pendingGap := none }
    Attempt.each (fun hub frame => hub.onEventFrame limits frame) hub.beforeReady
      { hub with beforeReady := [] }

def onFrame : RemoteTuiFrame → Attempt RemoteTuiHub
  | .malformed => .threw hub
  | .replayGap gap => .returned { hub with pendingGap := some gap }
  | .snapshot _ snapshot => hub.onSnapshot limits snapshot
  | .event frame =>
    if hub.connectionReady = true then hub.onEventFrame limits frame
    else if hub.beforeReady.length ≥ limits.maxReplayEvents then .threw hub
    else .returned { hub with beforeReady := hub.beforeReady ++ [frame] }

/-- A message: `decodeFrame`, then `#onFrame`. -/
def onMessage (frame : RemoteTuiFrame) : Attempt RemoteTuiHub :=
  if frame.bytes > limits.maxEventBytes then .threw hub else hub.onFrame limits frame

/-! ## Connections -/

def connect : RemoteTuiHub :=
  { hub with
    connected := true
    connectionReady := false
    beforeReady := []
    pendingGap := none }

def onDisconnect : RemoteTuiHub := { hub with connected := false, connectionReady := false }

def dispose : RemoteTuiHub :=
  { hub with
    disposed := true
    connectionReady := false
    connected := false
    channels := []
    events := []
    initialPending := [] }

/-! ## Channels -/

def replay (snapshot : DashboardTuiSnapshot) (cursor : Option JsString) : List DashboardTuiChannelEvent :=
  match cursor with
  | none => []
  | some cursor =>
    if cursor = snapshot.highWaterCursor then []
    else if some cursor = hub.replayBaseCursor then hub.events.map RetainedEvent.event
    else
      match hub.events.find? fun entry =>
        match entry.event with
        | .replayGap gap => gap.requestedCursor = cursor
        | _ => false with
      | some entry => [entry.event]
      | none =>
        match hub.events.findIdx? fun entry => entry.cursor = some cursor with
        | some index => (hub.events.drop (index + 1)).map RetainedEvent.event
        | none => [.replayGap ⟨snapshot.identity, .cursorExpired, cursor, snapshot.highWaterCursor, none⟩]

/-- `open`, at the moment when it has its role; the listener subscribes at once. -/
def openChannel (cursor : Option JsString) : Option RemoteTuiHub :=
  hub.snapshotValue.bind fun snapshot =>
    if hub.channels.length ≥ limits.maxChannelsPerHub then none
    else
      let pending := if hub.channels.isEmpty = true then hub.initialPending
        else hub.replay snapshot cursor
      some { hub with
        opened := hub.opened + 1
        initialPending := if hub.channels.isEmpty = true then [] else hub.initialPending
        channels := hub.channels ++ [⟨hub.opened, snapshot, pending⟩] }

def remove (id : Nat) : RemoteTuiHub :=
  let hub := { hub with channels := hub.channels.filter fun channel => channel.id ≠ id }
  if hub.channels.isEmpty = true then hub.dispose else hub

/-! ## Runs -/

inductive Step where
  | connect
  | message (frame : RemoteTuiFrame)
  | disconnect
  | openChannel (cursor : Option JsString)
  | close (id : Nat)
  | dispose

def step (hub : RemoteTuiHub) : Step → Option RemoteTuiHub
  | .connect => if hub.disposed = true then none else some hub.connect
  | .message frame =>
    if hub.connected = true then some (hub.onMessage limits frame).state else none
  | .disconnect => if hub.connected = true then some hub.onDisconnect else none
  | .openChannel cursor => if hub.disposed = true then none else hub.openChannel limits cursor
  | .close id => if id ∈ hub.channels.map RemoteTuiChannel.id then some (hub.remove id) else none
  | .dispose => some hub.dispose

end RemoteTuiHub

namespace RemoteTuiChannel

/-- What an event changes on a screen. -/
def applyEvent (screen : Screen) : DashboardTuiChannelEvent → Screen
  | .delta delta => screen.apply delta
  | _ => screen

/-- What the listener shows. -/
def screen (channel : RemoteTuiChannel) : Screen :=
  channel.events.foldl applyEvent (.ofSnapshot channel.snapshot)

end RemoteTuiChannel

end PiDaemon.Viewing
