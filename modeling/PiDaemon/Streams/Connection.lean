import Mathlib
import PiDaemon.Authorization.Ledger
import PiDaemon.Streams.Coordinator

/-!
# Browser stream connections

`DashboardStreamConnection` handles the frames of a browser one after another; the commands that
they launch, the draining of the event queues and the callbacks of the controller coordinator run
beside it.  Every `await` ends a step, and the environment decides when it is answered.

A check of the authority reads the committed ledger, and what waits for it goes on before anything
else is committed: between the two there are only microtasks, and a commit needs a write.  So a
check and what follows it up to the next `await` are one step, which reads the ledger.

The backend resolves the session of a `subscribe` and opens its channel, and the parsing of frames
is done before they are received.  `produced`, `sent` and `participants` are the history of the
run.
-/

namespace PiDaemon.Streams

open Lib Authorization

structure DashboardSessionIdentity where
  hostInstanceId : JsString
  sessionId : JsString
  generation : Nat
  deriving DecidableEq

/-- `session` stands for `session_event`, `extension_ui` and `extension_view`. -/
inductive ChannelEventKind where
  | replayGap
  | tuiDelta
  | control
  | session
  deriving DecidableEq

structure ChannelEvent where
  kind : ChannelEventKind
  identity : DashboardSessionIdentity
  content : JsString
  deriving DecidableEq

def ChannelEvent.isGap (event : ChannelEvent) : Bool := event.kind = .replayGap

def MAX_PENDING_AUTHORIZED_EVENTS_PER_SUBSCRIPTION : Nat := 64

structure StreamError where
  code : String
  message : String
  retryable : Bool := false
  deriving DecidableEq

/-- What the listener of a channel has closed over. -/
structure ChannelListener where
  ready : Bool
  buffered : List ChannelEvent
  deriving DecidableEq

/-- What the backend opens. -/
structure OpenedChannel where
  presentation : DashboardPresentation
  identity : DashboardSessionIdentity
  snapshotIdentity : DashboardSessionIdentity
  highWaterCursor : JsString
  deriving DecidableEq

/-- A channel that a `subscribe` has obtained; `closed` when its `close` has been called. -/
structure StreamChannel where
  opened : OpenedChannel
  subscriptionId : JsString
  correlationId : JsString
  listener : Option ChannelListener
  closed : Bool
  produced : List ChannelEvent

instance : Inhabited StreamChannel :=
  ⟨⟨⟨.rich, ⟨[], [], 0⟩, ⟨[], [], 0⟩, []⟩, [], [], none, false, []⟩⟩

/-- The controller registration of a subscription is that of its channel. -/
structure Subscription where
  channel : Nat
  authorization : DashboardResourceRef
  requiredRole : DashboardResourceRole
  eventQueue : List (JsString × ChannelEvent)
  authorizingEvents : Bool

instance : Inhabited Subscription := ⟨⟨0, ⟨.session, []⟩, .read, [], false⟩⟩

/-! ## Frames -/

structure SubscribeRequest where
  correlationId : JsString
  subscriptionId : JsString
  presentation : DashboardPresentation
  role : DashboardControllerRole
  deriving DecidableEq

inductive StreamOperation where
  | command (readOnly : Bool)
  | control
  | extensionUi
  | resize
  | input
  deriving DecidableEq

/-- A frame of the browser, or what is wrong with it. -/
inductive ClientFrame where
  | malformed (correlationId : JsString) (error : StreamError)
  | hello (correlationId : JsString) (versionMatches : Bool)
  | subscribe (request : SubscribeRequest)
  | unsubscribe (correlationId subscriptionId : JsString)
  | operate (correlationId subscriptionId : JsString) (operation : StreamOperation)
  deriving DecidableEq

inductive ServerFrame where
  | ready (correlationId : JsString)
  | subscriptionReady (correlationId subscriptionId : JsString) (opened : OpenedChannel)
      (role : DashboardControllerRole)
  | channelEvent (correlationId subscriptionId : JsString) (event : ChannelEvent)
  | commandResult (correlationId subscriptionId : JsString)
  | error (correlationId : JsString) (error : StreamError)
  deriving DecidableEq

/-- The snapshot, the gaps and the events of a subscription. -/
def ServerFrame.isSessionData : ServerFrame → Bool
  | .subscriptionReady _ _ _ _ => true
  | .channelEvent _ _ _ => true
  | _ => false

def ServerFrame.event? : ServerFrame → Option ChannelEvent
  | .channelEvent _ _ event => some event
  | _ => none

/-- A frame that the peer has taken, for which subscription, and the ledger committed then. -/
structure SentFrame where
  frame : ServerFrame
  source : Option Nat
  ledger : Ledger

/-! ## What is in progress -/

/-- Where the handling of a frame waits. -/
inductive Handling where
  | capabilities (correlationId : JsString)
  | resolving (request : SubscribeRequest)
  | opening (request : SubscribeRequest) (authorization : DashboardResourceRef)
  | checking (request : SubscribeRequest) (authorization : DashboardResourceRef) (channel : Nat)
  | rechecking (request : SubscribeRequest) (authorization : DashboardResourceRef) (channel : Nat)
  /-- For the close of a channel that is not exposed; then the error is thrown on. -/
  | abandoning (request : SubscribeRequest) (channel : Nat) (error : Option StreamError)
  | unsubscribing (correlationId : JsString)
  | ending
  deriving DecidableEq

/-- The channel that the handling has in its hands. -/
def Handling.current : Handling → Option Nat
  | .checking _ _ channel => some channel
  | .rechecking _ _ channel => some channel
  | _ => none

/-- The subscription id that the handling has found free. -/
def Handling.pending : Handling → Option JsString
  | .resolving request => some request.subscriptionId
  | .opening request _ => some request.subscriptionId
  | .checking request _ _ => some request.subscriptionId
  | .rechecking request _ _ => some request.subscriptionId
  | _ => none

inductive DrainStage where
  | checking
  | closing
  | done
  deriving DecidableEq

structure Drain where
  subscriptionId : JsString
  subscription : Nat
  stage : DrainStage

instance : Inhabited Drain := ⟨⟨[], 0, .done⟩⟩

inductive LaunchStage where
  | checking
  | closing
  | operating
  | done
  deriving DecidableEq

structure Launch where
  correlationId : JsString
  subscriptionId : JsString
  subscription : Nat
  operation : StreamOperation
  stage : LaunchStage

instance : Inhabited Launch := ⟨⟨[], [], 0, .control, .done⟩⟩

/-- A call of the `close` of a registered participant. -/
structure Revocation where
  channel : Nat
  done : Bool

instance : Inhabited Revocation := ⟨⟨0, true⟩⟩

structure StreamLimits where
  maxSubscriptionsPerConnection : Nat
  maxInFlightCommandsPerConnection : Nat

structure DashboardStreamConnection where
  closed : Bool
  helloReceived : Bool
  subscriptions : OrderedMap JsString Nat
  opened : Heap Subscription
  pendingOpens : List JsString
  channels : Heap StreamChannel
  /-- The channels whose controller registration has not been removed. -/
  registered : List Nat
  /-- The channels that have been registered. -/
  participants : List Nat
  frames : List ClientFrame
  handling : Option Handling
  drains : Heap Drain
  launches : Heap Launch
  revocations : Heap Revocation
  ledger : Ledger
  sent : List SentFrame

def DashboardStreamConnection.initial (ledger : Ledger) : DashboardStreamConnection :=
  ⟨false, false, .empty, .empty, [], .empty, [], [], [], none, .empty, .empty, .empty, ledger, []⟩

/-- What a step finds in its surroundings: whether the browser session is still valid, at first
and later, which frames the peer takes, and the roles of the channels. -/
structure StreamSurroundings where
  valid : Bool
  stillValid : Bool
  takes : Nat → Bool
  role : Nat → DashboardControllerRole

def streamError (code message : String) : StreamError := { code, message }

def notFound : StreamError := streamError "not_found" "dashboard resource was not found"

namespace DashboardStreamConnection

variable (w : DashboardStreamConnection)

/-! ## Closing -/

/-- The channel is closed, and its listener and its registration are removed. -/
def shutChannel (c : Nat) : DashboardStreamConnection :=
  { w with
    registered := w.registered.filter (· ≠ c)
    channels := w.channels.modify c fun channel =>
      { channel with listener := none, closed := true } }

/-- What closing a subscription does once it is not in the map. -/
def shut (k : Nat) : DashboardStreamConnection :=
  { w with opened := w.opened.modify k fun s => { s with eventQueue := [] } }.shutChannel
    (w.opened.cell k).channel

/-- `#closeUnauthorizedSubscription` up to its `await` -/
def closeUnauthorizedSubscription (subscriptionId : JsString) : DashboardStreamConnection :=
  match w.subscriptions.get? subscriptionId with
  | none => w
  | some k => { w with subscriptions := w.subscriptions.delete subscriptionId }.shut k

/-- `#closeAll` up to its `await` -/
def closeAll : DashboardStreamConnection :=
  if w.closed = true then w
  else
    w.subscriptions.values.foldl shut { w with closed := true, subscriptions := .empty }

/-! ## Sending -/

section
variable (around : StreamSurroundings)

def send (frame : ServerFrame) (source : Option Nat) : DashboardStreamConnection :=
  if w.closed = true then w
  else if around.takes w.sent.length = true then
    { w with sent := w.sent ++ [⟨frame, source, w.ledger⟩] }
  else w.closeAll

def sendError (correlationId : JsString) (error : StreamError) : DashboardStreamConnection :=
  w.send around (.error correlationId error) none

/-- `#sendEvent` of the subscription `k` -/
def sendEvent (k : Nat) (correlationId : JsString) (event : ChannelEvent) :
    DashboardStreamConnection :=
  let channel := w.channels.cell (w.opened.cell k).channel
  let frame := .channelEvent correlationId channel.subscriptionId event
  match event.kind with
  | .replayGap => w.send around frame (some k)
  | .tuiDelta =>
    if channel.opened.presentation ≠ .tui then w.closeAll else w.send around frame (some k)
  | .control => w.send around frame (some k)
  | .session =>
    if channel.opened.presentation ≠ .rich then w.closeAll else w.send around frame (some k)

def sendEvents (k : Nat) (correlationId : JsString) (events : List ChannelEvent) :
    DashboardStreamConnection :=
  events.foldl (fun w event => w.sendEvent around k correlationId event) w

/-! ## Draining -/

def setDrain (d : Nat) (stage : DrainStage) : DashboardStreamConnection :=
  { w with drains := w.drains.modify d fun drain => { drain with stage } }

def setAuthorizing (k : Nat) (authorizingEvents : Bool) : DashboardStreamConnection :=
  { w with opened := w.opened.modify k fun s => { s with authorizingEvents } }

/-- The condition of the loop of `#drainAuthorizedEvents`. -/
def drainable (subscriptionId : JsString) (k : Nat) : Bool :=
  !w.closed && w.subscriptions.get? subscriptionId = some k && !(w.opened.cell k).eventQueue.isEmpty

/-- The drain `d` is at the head of its loop.  When the loop ends, the `finally` block finds the
same condition false. -/
def drainLoop (d : Nat) (subscriptionId : JsString) (k : Nat) : DashboardStreamConnection :=
  if w.drainable subscriptionId k = true then
    if around.stillValid = true then w.setDrain d .checking
    else (w.closeUnauthorizedSubscription subscriptionId).setDrain d .closing
  else (w.setAuthorizing k false).setDrain d .done

def startDrain (subscriptionId : JsString) (k : Nat) : DashboardStreamConnection :=
  { w.setAuthorizing k true with
    drains := w.drains.alloc ⟨subscriptionId, k, .done⟩ }.drainLoop around w.drains.next
      subscriptionId k

def queueAuthorizedEvent (subscriptionId correlationId : JsString) (event : ChannelEvent) :
    DashboardStreamConnection :=
  match w.subscriptions.get? subscriptionId with
  | none => w
  | some k =>
    if MAX_PENDING_AUTHORIZED_EVENTS_PER_SUBSCRIPTION ≤ (w.opened.cell k).eventQueue.length then
      w.closeUnauthorizedSubscription subscriptionId
    else
      let w := { w with
        opened := w.opened.modify k fun s =>
          { s with eventQueue := s.eventQueue ++ [(correlationId, event)] } }
      if (w.opened.cell k).authorizingEvents = true then w
      else w.startDrain around subscriptionId k

/-- The listener of the channel `c` hears an event. -/
def hear (c : Nat) (event : ChannelEvent) : DashboardStreamConnection :=
  let channel := w.channels.cell c
  match channel.listener with
  | none => w
  | some listener =>
    let w := { w with
      channels := w.channels.modify c fun channel =>
        { channel with produced := channel.produced ++ [event] } }
    if event.identity ≠ channel.opened.identity then w.closeAll
    else if listener.ready = true then
      w.queueAuthorizedEvent around channel.subscriptionId channel.correlationId event
    else if MAX_PENDING_AUTHORIZED_EVENTS_PER_SUBSCRIPTION ≤ listener.buffered.length then w.closeAll
    else
      { w with
        channels := w.channels.modify c fun channel =>
          { channel with
            listener := some { listener with buffered := listener.buffered ++ [event] } } }

end

/-! ## Handling frames -/

section
variable (service : DashboardAuthorizationService) (principal : DashboardPrincipal)
  (limits : StreamLimits) (around : StreamSurroundings)

/-- What `require` finds in the committed ledger, unless the service is not available. -/
def permits (available : Bool) (resource : DashboardResourceRef) (role : DashboardResourceRole) :
    Bool :=
  available && (w.ledger.require service principal resource role).toBool

def StreamOperation.requiredRole : StreamOperation → DashboardResourceRole
  | .command readOnly => if readOnly = true then .read else .control
  | .control => .control
  | .extensionUi => .control
  | .resize => .read
  | .input => .control

def requiredRole : DashboardControllerRole → DashboardResourceRole
  | .controller => .control
  | .observer => .read

/-- Why an operation on an open subscription is not launched. -/
def operationError (k : Nat) (operation : StreamOperation) : Option StreamError :=
  let presentation := (w.channels.cell (w.opened.cell k).channel).opened.presentation
  let mismatch := streamError "presentation_mismatch"
  match operation with
  | .command _ =>
    if presentation ≠ .rich then some (mismatch "commands require a rich subscription") else none
  | .control => none
  | .extensionUi =>
    if presentation ≠ .rich then some (mismatch "extension UI requires a rich subscription")
    else none
  | .resize =>
    if presentation ≠ .tui then some (mismatch "resize requires a TUI subscription") else none
  | .input =>
    if presentation ≠ .tui then some (mismatch "input requires a TUI subscription")
    else if around.role (w.opened.cell k).channel ≠ .controller then
      some (streamError "controller_required" "TUI input requires controller role")
    else none

def needsHello : StreamOperation → Bool
  | .resize => false
  | .input => false
  | _ => true

/-- The operations that have not ended. -/
def inFlight : Nat := w.launches.count fun launch => launch.stage ≠ .done

/-- `#launch`: the operation runs up to the answer of its check. -/
def launch (correlationId subscriptionId : JsString) (k : Nat) (operation : StreamOperation) :
    DashboardStreamConnection :=
  if limits.maxInFlightCommandsPerConnection ≤ w.inFlight then
    w.sendError around correlationId
      { code := "command_capacity", message := "in-flight command capacity is exhausted"
        retryable := true }
  else if around.stillValid = true then
    { w with launches := w.launches.alloc ⟨correlationId, subscriptionId, k, operation, .checking⟩ }
  else
    { w.closeUnauthorizedSubscription subscriptionId with
      launches := w.launches.alloc ⟨correlationId, subscriptionId, k, operation, .closing⟩ }

def helloRequired : StreamError := streamError "hello_required" "hello must be sent first"

def subscriptionNotFound : StreamError :=
  streamError "subscription_not_found" "subscription is not open"

/-- `#onMessage` once the browser session has been found valid. -/
def onFrame : ClientFrame → DashboardStreamConnection
  | .malformed correlationId error => w.sendError around correlationId error
  | .hello correlationId versionMatches =>
    if w.helloReceived = true then
      w.sendError around correlationId
        (streamError "duplicate_hello" "hello was already received")
    else if versionMatches = false then
      w.sendError around correlationId
        (streamError "version_mismatch" "dashboard protocol version is unsupported")
    else { w with helloReceived := true, handling := some (.capabilities correlationId) }
  | .subscribe request =>
    if w.helloReceived = false then w.sendError around request.correlationId helloRequired
    else if w.subscriptions.has request.subscriptionId = true ∨
        request.subscriptionId ∈ w.pendingOpens then
      w.sendError around request.correlationId
        (streamError "subscription_conflict" "subscriptionId is already open")
    else if limits.maxSubscriptionsPerConnection ≤
        w.subscriptions.size + w.pendingOpens.length then
      w.sendError around request.correlationId
        { code := "subscription_capacity", message := "subscription capacity is exhausted"
          retryable := true }
    else { w with handling := some (.resolving request) }
  | .unsubscribe correlationId subscriptionId =>
    match w.subscriptions.get? subscriptionId with
    | none => w.sendError around correlationId subscriptionNotFound
    | some _ =>
      { w.closeUnauthorizedSubscription subscriptionId with
        handling := some (.unsubscribing correlationId) }
  | .operate correlationId subscriptionId operation =>
    if needsHello operation = true ∧ w.helloReceived = false then
      w.sendError around correlationId helloRequired
    else
      match w.subscriptions.get? subscriptionId with
      | none => w.sendError around correlationId subscriptionNotFound
      | some k =>
        match w.operationError around k operation with
        | some error => w.sendError around correlationId error
        | none => w.launch limits around correlationId subscriptionId k operation

def onMessage (frame : ClientFrame) : DashboardStreamConnection :=
  if w.closed = true then w
  else if around.valid = false then { w.closeAll with handling := some .ending }
  else w.onFrame limits around frame

/-! ## Subscribing -/

/-- How an `await` of the handling of a frame ends. -/
inductive Reply where
  | failed (error : StreamError)
  | settled
  | resolved (authorization : DashboardResourceRef)
  /-- `replayed` are the events that `subscribe` of the channel hears at once. -/
  | opened (channel : OpenedChannel) (replayed : List ChannelEvent)
  /-- `thrown` is what the authorization service, the revalidation of the browser session or the
  coordinator throws. -/
  | checked (thrown : Option StreamError)

/-- The `finally` block of `#subscribe`. -/
def endSubscribe (request : SubscribeRequest) : DashboardStreamConnection :=
  { w with
    pendingOpens := w.pendingOpens.filter (· ≠ request.subscriptionId)
    handling := none }

/-- The `catch` block of `#subscribe` up to its `await`. -/
def catchSubscribe (request : SubscribeRequest) (c : Nat) (error : StreamError) :
    DashboardStreamConnection :=
  let w := { w with registered := w.registered.filter (· ≠ c) }
  if w.subscriptions.has request.subscriptionId = true then
    (w.endSubscribe request).sendError around request.correlationId error
  else
    { w with
      channels := w.channels.modify c fun channel => { channel with closed := true }
      handling := some (.abandoning request c (some error)) }

def backendContract (message : String) : StreamError := streamError "backend_contract" message

/-- The backend has opened a channel. -/
def openChannel (request : SubscribeRequest) (authorization : DashboardResourceRef)
    (opened : OpenedChannel) (replayed : List ChannelEvent) : DashboardStreamConnection :=
  let c := w.channels.next
  let w := { w with
    channels := w.channels.alloc
      ⟨opened, request.subscriptionId, request.correlationId, none, false, []⟩ }
  if w.closed = true then
    { w.shutChannel c with handling := some (.abandoning request c none) }
  else if opened.presentation ≠ request.presentation then
    w.catchSubscribe around request c
      (backendContract "backend returned the wrong presentation")
  else if opened.snapshotIdentity ≠ opened.identity then
    w.catchSubscribe around request c
      (backendContract "backend channel identity is inconsistent")
  else
    let w := { w with
      channels := w.channels.modify c fun channel =>
        { channel with listener := some ⟨false, []⟩ } }
    let w : DashboardStreamConnection := replayed.foldl (fun w event => w.hear around c event) w
    if w.closed = true then
      { w.shutChannel c with handling := some (.abandoning request c none) }
    else { w with handling := some (.checking request authorization c) }

def take (subscriptionId : JsString) (subscription : Subscription) : DashboardStreamConnection :=
  { w with
    opened := w.opened.alloc subscription
    subscriptions := w.subscriptions.set subscriptionId w.opened.next }

/-- `ready = true` in the listener of a channel -/
def markReady (c : Nat) : DashboardStreamConnection :=
  { w with
    channels := w.channels.modify c fun channel =>
      { channel with listener := channel.listener.map fun listener =>
          { listener with ready := true } } }

/-- The subscription is exposed to the browser. -/
def expose (request : SubscribeRequest) (authorization : DashboardResourceRef) (c : Nat) :
    DashboardStreamConnection :=
  let k := w.opened.next
  let buffered := ((w.channels.cell c).listener.map (·.buffered)).getD []
  let w := w.take request.subscriptionId
    ⟨c, authorization, requiredRole request.role, [], false⟩
  let w := w.sendEvents around k request.correlationId (buffered.filter fun event => event.isGap)
  let w := w.send around
    (.subscriptionReady request.correlationId request.subscriptionId (w.channels.cell c).opened
      (around.role c)) (some k)
  let w := w.markReady c
  w.sendEvents around k request.correlationId (buffered.filter fun event => !event.isGap)

/-- The handling of a frame goes on. -/
def answer : Handling → Reply → Option DashboardStreamConnection
  | .capabilities correlationId, .settled =>
    some ({ w with handling := none }.send around (.ready correlationId) none)
  | .capabilities correlationId, .failed error =>
    some ({ w with handling := none }.sendError around correlationId error)
  | .resolving request, .resolved authorization =>
    some
      { w with
        pendingOpens := w.pendingOpens ++ [request.subscriptionId]
        handling := some (.opening request authorization) }
  | .resolving request, .failed error =>
    some ({ w with handling := none }.sendError around request.correlationId error)
  | .opening request authorization, .opened opened replayed =>
    some (w.openChannel around request authorization opened replayed)
  | .opening request _, .failed error =>
    some ((w.endSubscribe request).sendError around request.correlationId error)
  | .checking request authorization c, .checked thrown =>
    if w.permits service principal thrown.isNone authorization (requiredRole request.role) = true
    then
      some
        { w with
          registered := c :: w.registered
          participants := c :: w.participants
          handling := some (.rechecking request authorization c) }
    else some (w.catchSubscribe around request c (thrown.getD notFound))
  | .rechecking request authorization c, .checked thrown =>
    if w.permits service principal thrown.isNone authorization (requiredRole request.role) = true
    then
      some ((w.expose around request authorization c).endSubscribe request)
    else some (w.catchSubscribe around request c (thrown.getD notFound))
  | .abandoning request _ none, .settled => some (w.endSubscribe request)
  | .abandoning request c none, .failed error =>
    some { w with handling := some (.abandoning request c (some error)) }
  | .abandoning request _ (some error), .settled =>
    some ((w.endSubscribe request).sendError around request.correlationId error)
  | .unsubscribing _, .settled => some { w with handling := none }
  | .unsubscribing correlationId, .failed error =>
    some ({ w with handling := none }.sendError around correlationId error)
  | .ending, .settled => some { w with handling := none }
  | _, _ => none

/-! ## Steps -/

inductive StreamEvent where
  | receive (frame : ClientFrame)
  | deliver (around : StreamSurroundings)
  | answer (reply : Reply) (around : StreamSurroundings)
  | emit (channel : Nat) (event : ChannelEvent) (around : StreamSurroundings)
  | drained (d : Nat) (available : Bool) (around : StreamSurroundings)
  | drainClosed (d : Nat) (around : StreamSurroundings)
  | authorized (l : Nat) (available : Bool)
  | unauthorized (l : Nat) (around : StreamSurroundings)
  | operated (l : Nat) (error : Option StreamError) (around : StreamSurroundings)
  | revoke (channel : Nat)
  | revoked (r : Nat)
  | commit (ledger : Ledger)
  | peerClose

def setLaunch (l : Nat) (stage : LaunchStage) : DashboardStreamConnection :=
  { w with launches := w.launches.modify l fun launch => { launch with stage } }

/-- The check of a drain has been answered. -/
def drained (d : Nat) (available : Bool) : DashboardStreamConnection :=
  let drain := w.drains.cell d
  let subscription := w.opened.cell drain.subscription
  if w.permits service principal available subscription.authorization
      subscription.requiredRole = true then
    match subscription.eventQueue with
    | [] => w.drainLoop around d drain.subscriptionId drain.subscription
    | (correlationId, event) :: rest =>
      let w := { w with
        opened := w.opened.modify drain.subscription fun s => { s with eventQueue := rest } }
      (w.sendEvent around drain.subscription correlationId event).drainLoop around d
        drain.subscriptionId drain.subscription
  else (w.closeUnauthorizedSubscription drain.subscriptionId).setDrain d .closing

/-- The `finally` block of a drain whose subscription has been closed. -/
def drainClosed (d : Nat) : DashboardStreamConnection :=
  let drain := w.drains.cell d
  let w := (w.setAuthorizing drain.subscription false).setDrain d .done
  if w.drainable drain.subscriptionId drain.subscription = true then
    w.startDrain around drain.subscriptionId drain.subscription
  else w

def step : StreamEvent → Option DashboardStreamConnection
  | .receive frame => some { w with frames := w.frames ++ [frame] }
  | .deliver around =>
    match w.handling, w.frames with
    | none, frame :: frames => some ({ w with frames }.onMessage limits around frame)
    | _, _ => none
  | .answer reply around =>
    match w.handling with
    | none => none
    | some handling => w.answer service principal around handling reply
  | .emit channel event around =>
    if channel < w.channels.next then some (w.hear around channel event) else none
  | .drained d available around =>
    if d < w.drains.next ∧ (w.drains.cell d).stage = .checking then
      some (w.drained service principal around d available)
    else none
  | .drainClosed d around =>
    if d < w.drains.next ∧ (w.drains.cell d).stage = .closing then
      some (w.drainClosed around d)
    else none
  | .authorized l available =>
    let launch := w.launches.cell l
    if l < w.launches.next ∧ launch.stage = .checking then
      if w.permits service principal available (w.opened.cell launch.subscription).authorization
          (StreamOperation.requiredRole launch.operation) = true then
        some (w.setLaunch l .operating)
      else some ((w.closeUnauthorizedSubscription launch.subscriptionId).setLaunch l .closing)
    else none
  | .unauthorized l around =>
    if l < w.launches.next ∧ (w.launches.cell l).stage = .closing then
      some ((w.setLaunch l .done).sendError around (w.launches.cell l).correlationId notFound)
    else none
  | .operated l error around =>
    let launch := w.launches.cell l
    if l < w.launches.next ∧ launch.stage = .operating then
      match error with
      | none =>
        some ((w.setLaunch l .done).send around
          (.commandResult launch.correlationId launch.subscriptionId) none)
      | some error => some ((w.setLaunch l .done).sendError around launch.correlationId error)
    else none
  | .revoke c =>
    if c ∈ w.participants then
      let w := w.closeUnauthorizedSubscription (w.channels.cell c).subscriptionId
      some { w with revocations := w.revocations.alloc ⟨c, false⟩ }
    else none
  | .revoked r =>
    if r < w.revocations.next ∧ (w.revocations.cell r).done = false then
      some
        { w with
          channels := w.channels.modify (w.revocations.cell r).channel fun channel =>
            { channel with closed := true }
          revocations := w.revocations.modify r fun revocation => { revocation with done := true } }
    else none
  | .commit ledger => some { w with ledger }
  | .peerClose => some w.closeAll

/-- No frame is being handled or waits for it, and nothing else is in progress. -/
structure isIdle : Prop where
  handling : w.handling = none
  frames : w.frames = []
  drains : ∀ d < w.drains.next, (w.drains.cell d).stage = .done
  launches : ∀ l < w.launches.next, (w.launches.cell l).stage = .done
  revocations : ∀ r < w.revocations.next, (w.revocations.cell r).done = true

end

end DashboardStreamConnection

end PiDaemon.Streams
