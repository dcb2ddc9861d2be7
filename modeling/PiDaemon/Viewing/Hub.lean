import PiDaemon.Terminal.Deltas
import PiDaemon.Viewing.Screen

/-!
# The publications of a shadow terminal view

A `ShadowTuiHub` that has been initialized, its terminal, and the viewers at its channels.  At any
moment the view may call the terminal; a publication takes a frame, keeps it as the snapshot for
later channels and as a delta that can be replayed, and sends it to every channel.

A channel is subscribed to in the turn in which it is opened, before anything else can happen, and
its viewer is a frame store.  What `parseCursor` finds in a cursor is a parameter; the input that
a hub passes to its view is left out, since all that it leads to are calls of the terminal.
-/

namespace PiDaemon.Viewing

open Lib Streams Terminal Shadow

/-- What `resolveLimits` lets through. -/
structure ShadowTuiHostLimits where
  maxChannelsPerView : Nat
  maxReplayEvents : Nat
  maxReplayBytes : Nat
  maxFrameBytes : Nat
  maxFrameBytes_le : maxFrameBytes ≤ DEFAULT_VIRTUAL_TERMINAL_LIMITS.maxFrameBytes

/-- What `parseCursor` gives; a number may be any integer. -/
structure ParsedCursor where
  hostInstanceId : JsString
  sessionId : JsString
  generation : Int
  sequence : Int
  deriving DecidableEq

structure RetainedDelta where
  sequence : Nat
  cursor : JsString
  delta : DashboardTuiDelta
  bytes : Nat
  deriving DecidableEq

/-- A channel and its viewer; a viewer that refuses its snapshot is an error. -/
structure ShadowTuiChannel where
  id : JsString
  role : DashboardControllerRole
  requestedDimensions : TuiDimensions
  viewer : Except String TuiFrameStoreState

structure ShadowTuiHub where
  identity : DashboardSessionIdentity
  terminal : VirtualTerminal
  channels : List ShadowTuiChannel
  controllerChannelId : Option JsString
  snapshot : DashboardTuiSnapshot
  sequence : Nat
  replay : List RetainedDelta
  replayBytes : Nat
  disposed : Bool

/-! ## Frames -/

def hex (value : Nat) : JsString := [hexDigit (min 255 value / 16), hexDigit (min 255 value % 16)]

def ANSI16 : List String :=
  ["#000000", "#cd0000", "#00cd00", "#cdcd00", "#0000ee", "#cd00cd", "#00cdcd", "#e5e5e5",
    "#7f7f7f", "#ff0000", "#00ff00", "#ffff00", "#5c5cff", "#ff00ff", "#00ffff", "#ffffff"]

/-- The `level` of `colorHex`. -/
def colorLevel (value : Nat) : Nat := if value = 0 then 0 else 55 + value * 40

def colorHex : VirtualTerminalColor → JsString
  | .rgb red green blue => [0x23] ++ (hex red ++ (hex green ++ hex blue))
  | .indexed value =>
    let index := min 255 value
    if index < 16 then text (ANSI16.getD index "")
    else if index < 232 then
      let cube := index - 16
      [0x23] ++ (hex (colorLevel (cube / 36)) ++
        (hex (colorLevel (cube % 36 / 6)) ++ hex (colorLevel (cube % 6))))
    else
      let gray := 8 + (index - 232) * 10
      [0x23] ++ (hex gray ++ (hex gray ++ hex gray))

def styleFromVirtual (style : VirtualTerminalStyle) : Option TuiStyle :=
  let value : TuiStyle :=
    { foreground := style.foreground.map colorHex
      background := style.background.map colorHex
      bold := style.bold
      dim := style.dim
      italic := style.italic
      underline := style.underline
      inverse := style.inverse }
  if value = .empty then none else some value

def runFromVirtual (run : VirtualTerminalRun) : TuiStyledRun := ⟨run.text, styleFromVirtual run.style⟩

def rowFromVirtual (row : VirtualTerminalRowDelta) : TuiRow := ⟨row.row, row.runs.map runFromVirtual⟩

def rowsFromFrame (frame : VirtualTerminalFrame) : List TuiRow := frame.changedRows.map rowFromVirtual

def frameDimensions (frame : VirtualTerminalFrame) : TuiDimensions := ⟨frame.rows, frame.columns⟩

def frameCursorState (frame : VirtualTerminalFrame) : TuiCursorState :=
  ⟨frame.cursor.row, frame.cursor.column, frame.cursor.visible, some .block⟩

def frameTitle (frame : VirtualTerminalFrame) : Option JsString :=
  if frame.title.length = 0 then none else some frame.title

def snapshotFromFrame (identity : DashboardSessionIdentity) (frame : VirtualTerminalFrame)
    (cursor : JsString) : DashboardTuiSnapshot where
  identity
  dimensions := frameDimensions frame
  rows := rowsFromFrame frame
  cursor := frameCursorState frame
  title := frameTitle frame
  highWaterCursor := cursor

def deltaFromFrame (identity : DashboardSessionIdentity) (frame : VirtualTerminalFrame)
    (cursor : JsString) (sequence : Nat) : DashboardTuiDelta where
  identity
  cursor
  sequence
  dimensions := frameDimensions frame
  changedRows := rowsFromFrame frame
  cursorState := frameCursorState frame
  title := frameTitle frame

/-! ## Channels -/

namespace ShadowTuiChannel

/-- The events of a channel, one after the other. -/
def deliverAll (channel : ShadowTuiChannel) (events : List DashboardTuiChannelEvent) :
    ShadowTuiChannel :=
  { channel with
    viewer := channel.viewer.map fun state =>
      events.foldl (fun state event => tuiFrameStoreReducer state (.event event)) state }

def deliver (event : DashboardTuiChannelEvent) (channel : ShadowTuiChannel) : ShadowTuiChannel :=
  channel.deliverAll [event]

end ShadowTuiChannel

namespace ShadowTuiHub

/-- The end of `init`: the first frame of the view; `none` is an `init` that throws. -/
def init (identity : DashboardSessionIdentity) (terminal : VirtualTerminal) : Option ShadowTuiHub :=
  (terminal.takeFrame DEFAULT_VIRTUAL_TERMINAL_LIMITS true).map fun (frame, terminal) =>
    { identity
      terminal
      channels := []
      controllerChannelId := none
      snapshot := snapshotFromFrame identity frame (encodeCursor identity 0)
      sequence := 0
      replay := []
      replayBytes := 0
      disposed := false }

variable (parseCursor : JsString → Option ParsedCursor) (platform : TerminalPlatform)
  (limits : ShadowTuiHostLimits) (hub : ShadowTuiHub)

def broadcast (event : DashboardTuiChannelEvent) : ShadowTuiHub :=
  { hub with channels := hub.channels.map (ShadowTuiChannel.deliver event) }

def dispose : ShadowTuiHub :=
  if hub.disposed = true then hub else { hub with disposed := true, channels := [], replay := [] }

/-! ## Publications -/

/-- The loop of `#publish`. -/
def trimReplay : List RetainedDelta → Nat → List RetainedDelta × Nat
  | [], bytes => ([], bytes)
  | removed :: rest, bytes =>
    if (removed :: rest).length > limits.maxReplayEvents ∨ bytes > limits.maxReplayBytes then
      trimReplay rest (bytes - removed.bytes)
    else (removed :: rest, bytes)

/-- The delta of the next frame. -/
def nextDelta (frame : VirtualTerminalFrame) : DashboardTuiDelta :=
  deltaFromFrame hub.identity frame (encodeCursor hub.identity (hub.sequence + 1)) (hub.sequence + 1)

/-- The next entry of the replay. -/
def nextRetained (frame : VirtualTerminalFrame) : RetainedDelta :=
  let delta := hub.nextDelta frame
  ⟨delta.sequence, delta.cursor, delta, delta.bytes⟩

def publish : ShadowTuiHub :=
  match hub.terminal.takeFrame DEFAULT_VIRTUAL_TERMINAL_LIMITS false with
  | none => hub
  | some (frame, terminal) =>
    let sequence := hub.sequence + 1
    let delta := hub.nextDelta frame
    if delta.bytes > limits.maxFrameBytes then
      dispose { hub with terminal, sequence }
    else
      let trimmed := trimReplay limits (hub.replay ++ [hub.nextRetained frame])
        (hub.replayBytes + delta.bytes)
      broadcast
        { hub with
          terminal
          sequence
          snapshot := snapshotFromFrame hub.identity frame delta.cursor
          replay := trimmed.1
          replayBytes := trimmed.2 }
        (.delta delta)

def gap (requestedCursor : JsString) (reason : DashboardReplayGapReason)
    (oldestAvailableCursor : Option JsString) : DashboardTuiChannelEvent :=
  .replayGap ⟨hub.identity, reason, requestedCursor, hub.snapshot.highWaterCursor,
    oldestAvailableCursor⟩

def eventsAfter : Option JsString → List DashboardTuiChannelEvent
  | none => []
  | some cursor =>
    match parseCursor cursor with
    | none => [hub.gap cursor .cursorExpired none]
    | some parsed =>
      if parsed.hostInstanceId ≠ hub.identity.hostInstanceId then
        [hub.gap cursor .hostRestarted none]
      else if parsed.sessionId ≠ hub.identity.sessionId ∨
          parsed.generation ≠ hub.identity.generation then
        [hub.gap cursor .generationChanged none]
      else if parsed.sequence = hub.sequence then []
      else
        match hub.replay.head? with
        | none => [hub.gap cursor .cursorExpired none]
        | some oldest =>
          if parsed.sequence < (oldest.sequence : Int) - 1 ∨ parsed.sequence > hub.sequence then
            [hub.gap cursor .cursorExpired (some oldest.cursor)]
          else
            (hub.replay.filter fun entry => (entry.sequence : Int) > parsed.sequence).map fun entry =>
              .delta entry.delta

/-! ## Calls -/

/-- `#resize` -/
def resizeTo (dimensions : TuiDimensions) : Attempt ShadowTuiHub :=
  if validateDimensions dimensions = false then .threw hub
  else if dimensions.columns = hub.terminal.columns ∧ dimensions.rows = hub.terminal.rows then
    .returned hub
  else
    match hub.terminal.resize DEFAULT_VIRTUAL_TERMINAL_LIMITS dimensions.columns dimensions.rows with
    | none => .threw hub
    | some terminal => .returned { hub with terminal }

def controlEvent (action : DashboardControlAction) (connectionId : JsString)
    (reason : Option JsString) : DashboardTuiChannelEvent :=
  .control ⟨hub.identity, action, some connectionId, reason⟩

def controllerGranted (options : TuiChannelOptions) : Bool :=
  options.role = .controller && hub.controllerChannelId.isNone

/-- What `open` does for a channel that is granted control. -/
def takeControl (id : JsString) (options : TuiChannelOptions) : Attempt ShadowTuiHub :=
  if hub.controllerGranted options = true then
    resizeTo { hub with controllerChannelId := some id } options.dimensions
  else .returned hub

/-- The rest of `open`, and the viewer that subscribes to the channel. -/
def addChannel (id : JsString) (options : TuiChannelOptions) (cursor : Option JsString)
    (granted : Bool) : ShadowTuiHub :=
  let role : DashboardControllerRole := if granted = true then .controller else .observer
  let denials :=
    if options.role = .controller ∧ granted = false then
      [hub.controlEvent .controlDenied id (some (text "controller already held"))]
    else []
  let channel : ShadowTuiChannel :=
    ⟨id, role, options.dimensions, createTuiFrameStore hub.snapshot role⟩
  { hub with
    channels := hub.channels ++ [channel.deliverAll (hub.eventsAfter parseCursor cursor ++ denials)] }

/-- `open`, where `randomUUID` gives `id`. -/
def openChannel (id : JsString) (options : TuiChannelOptions) (cursor : Option JsString) :
    Attempt ShadowTuiHub :=
  if hub.disposed = true then .threw hub
  else if hub.channels.length ≥ limits.maxChannelsPerView then .threw hub
  else
    (hub.takeControl id options).andThen fun next =>
      .returned (next.addChannel parseCursor id options cursor (hub.controllerGranted options))

/-- A channel is changed in its place. -/
def updateChannel (id : JsString) (f : ShadowTuiChannel → ShadowTuiChannel) : ShadowTuiHub :=
  { hub with channels := hub.channels.map fun channel => if channel.id = id then f channel else channel }

/-- `resize` of a channel that is open. -/
def resizeChannel (id : JsString) (dimensions : TuiDimensions) : Attempt ShadowTuiHub :=
  let hub := hub.updateChannel id fun channel => { channel with requestedDimensions := dimensions }
  if hub.controllerChannelId = some id ∧
      hub.channels.any (fun channel => channel.id = id && channel.role = .controller) = true then
    hub.resizeTo dimensions
  else .threw hub

/-- `requestControl` of a channel that is open. -/
def requestControl (channel : ShadowTuiChannel) : Attempt ShadowTuiHub :=
  if hub.controllerChannelId ≠ none ∧ hub.controllerChannelId ≠ some channel.id then
    .returned (hub.updateChannel channel.id (ShadowTuiChannel.deliver
      (hub.controlEvent .controlDenied channel.id (some (text "controller already held")))))
  else
    let hub := { hub with controllerChannelId := some channel.id }
    let hub := hub.updateChannel channel.id fun channel => { channel with role := .controller }
    (hub.resizeTo channel.requestedDimensions).andThen fun hub =>
      .returned (hub.broadcast (hub.controlEvent .controlGranted channel.id none))

/-- `releaseControl` of a channel that is open. -/
def releaseControl (id : JsString) : ShadowTuiHub :=
  if hub.controllerChannelId ≠ some id then hub
  else
    let hub := { hub with controllerChannelId := none }
    let hub := hub.updateChannel id fun channel => { channel with role := .observer }
    hub.broadcast (hub.controlEvent .controlReleased id none)

/-- A controller that is removed gives up its control. -/
def giveUpControl (id : JsString) : ShadowTuiHub :=
  if hub.controllerChannelId = some id then
    broadcast { hub with controllerChannelId := none } (hub.controlEvent .controlReleased id none)
  else hub

def remove (id : JsString) : ShadowTuiHub :=
  let rest := giveUpControl
    { hub with channels := hub.channels.filter fun channel => channel.id ≠ id } id
  if rest.channels.isEmpty = true then rest.dispose else rest

/-! ## Runs -/

inductive Step where
  /-- A call of the view on the terminal; frames are taken by publications alone. -/
  | terminal (event : TerminalEvent)
  | publish
  | openChannel (id : JsString) (options : TuiChannelOptions) (cursor : Option JsString)
  | resizeChannel (id : JsString) (dimensions : TuiDimensions)
  | requestControl (id : JsString)
  | releaseControl (id : JsString)
  | close (id : JsString)
  | dispose

def find (id : JsString) : Option ShadowTuiChannel := hub.channels.find? fun channel => channel.id = id

def isTakeFrame : TerminalEvent → Bool
  | .takeFrame _ => true
  | _ => false

def step (hub : ShadowTuiHub) : Step → Option ShadowTuiHub
  | .terminal event =>
    if isTakeFrame event = true then none
    else
      some { hub with
        terminal := (hub.terminal.call platform DEFAULT_VIRTUAL_TERMINAL_LIMITS event).state }
  | .publish => if hub.disposed = true then none else some (hub.publish limits)
  | .openChannel id options cursor =>
    if (hub.find id).isSome = true then none
    else some (hub.openChannel parseCursor limits id options cursor).state
  | .resizeChannel id dimensions =>
    (hub.find id).map fun _ => (hub.resizeChannel id dimensions).state
  | .requestControl id => (hub.find id).map fun channel => (hub.requestControl channel).state
  | .releaseControl id => (hub.find id).map fun _ => hub.releaseControl id
  | .close id => (hub.find id).map fun _ => hub.remove id
  | .dispose => some hub.dispose

end ShadowTuiHub

end PiDaemon.Viewing
