import PiDaemon.Shadow.Contract

/-!
# Shadow terminal views

`ShadowTuiHost` keeps the views of its sessions: for each session identity the promise of a
`ShadowTuiHub`, which is an object of the heap here.  A step ends at every `await`, and the
environment decides when it is answered, and how.

What a hub shows is left out: only its channels, who controls it, its dimensions and whether a
publication is scheduled matter to when it ends.
-/

namespace PiDaemon.Shadow

open Lib Streams Terminal

structure ShadowTuiHostLimits where
  maxViews : Nat
  maxChannelsPerView : Nat
  maxFrameBytes : Nat

structure ShadowTuiChannel where
  id : Nat
  requestedDimensions : TuiDimensions
  deriving DecidableEq

/-- How far the promise of a hub has come. -/
inductive HubStage where
  /-- It waits for `resolveRuntime`. -/
  | resolving
  /-- It waits for the `init` of the view. -/
  | initializing
  /-- It waits for `immediate`. -/
  | rendering
  | resolved
  | rejected
  deriving DecidableEq

structure ShadowTuiHub where
  identity : DashboardSessionIdentity
  dimensions : TuiDimensions
  stage : HubStage
  channels : List ShadowTuiChannel
  controllerChannelId : Option Nat
  publicationScheduled : Bool
  initialized : Bool
  disposed : Bool
  /-- The `catch` of the host has been run. -/
  caught : Bool
  deriving DecidableEq

instance : Inhabited ShadowTuiHub :=
  ⟨⟨⟨[], [], 0⟩, ⟨0, 0⟩, .rejected, [], none, false, false, true, true⟩⟩

/-- A call of `open` that waits for its hub. -/
structure Opening where
  hub : Nat
  options : TuiChannelOptions
  done : Bool

instance : Inhabited Opening := ⟨⟨0, ⟨.observer, ⟨0, 0⟩⟩, true⟩⟩

/-- A `dispose` that waits for its hub. -/
structure Disposal where
  hub : Nat
  done : Bool

instance : Inhabited Disposal := ⟨⟨0, true⟩⟩

structure ShadowTuiHost where
  hubs : OrderedMap JsString Nat
  disposed : Bool
  created : Heap ShadowTuiHub
  openings : Heap Opening
  disposals : Heap Disposal

def ShadowTuiHost.initial : ShadowTuiHost := ⟨.empty, false, .empty, .empty, .empty⟩

def identityKey (identity : DashboardSessionIdentity) : JsString :=
  identity.hostInstanceId ++ [0] ++ identity.sessionId ++ [0] ++
    decimal.format identity.generation

/-! ## Hubs -/

namespace ShadowTuiHub

variable (hub : ShadowTuiHub)

def dispose : ShadowTuiHub :=
  if hub.disposed = true then hub
  else { hub with disposed := true, publicationScheduled := false, channels := [] }

def schedulePublication : ShadowTuiHub :=
  if hub.initialized = false ∨ hub.disposed = true then hub
  else { hub with publicationScheduled := true }

/-- `#resize`; dimensions that are not valid throw. -/
def resize (dimensions : TuiDimensions) : ShadowTuiHub :=
  if validateDimensions dimensions = false then hub
  else if dimensions = hub.dimensions then hub
  else { hub with dimensions }.schedulePublication

/-- `open`, with the id of the new channel -/
def open_ (limits : ShadowTuiHostLimits) (id : Nat) (options : TuiChannelOptions) : ShadowTuiHub :=
  if hub.disposed = true then hub
  else if hub.initialized = false then hub
  else if limits.maxChannelsPerView ≤ hub.channels.length then hub
  else
    let controllerGranted := options.role = .controller ∧ hub.controllerChannelId = none
    let granted := { hub with controllerChannelId := some id }.resize options.dimensions
    let channel : ShadowTuiChannel := ⟨id, options.dimensions⟩
    if controllerGranted then
      -- what has been granted stays so when the dimensions throw
      if validateDimensions options.dimensions = false then granted
      else { granted with channels := granted.channels ++ [channel] }
    else { hub with channels := hub.channels ++ [channel] }

def hasChannel (id : Nat) : Bool := hub.channels.any fun channel => channel.id = id

def requestControl (id : Nat) : ShadowTuiHub :=
  match hub.channels.find? fun channel => channel.id = id with
  | none => hub
  | some channel =>
    if hub.controllerChannelId ≠ none ∧ hub.controllerChannelId ≠ some id then hub
    else { hub with controllerChannelId := some id }.resize channel.requestedDimensions

def releaseControl (id : Nat) : ShadowTuiHub :=
  if hub.hasChannel id = true ∧ hub.controllerChannelId = some id then
    { hub with controllerChannelId := none }
  else hub

/-- `resize` of a channel -/
def resizeChannel (id : Nat) (dimensions : TuiDimensions) : ShadowTuiHub :=
  if hub.hasChannel id = true then
    let hub := { hub with
      channels := hub.channels.map fun channel =>
        if channel.id = id then { channel with requestedDimensions := dimensions } else channel }
    if hub.controllerChannelId = some id then hub.resize dimensions else hub
  else hub

/-- `remove` up to the end of the hub -/
def remove (id : Nat) : ShadowTuiHub :=
  { hub with
    channels := hub.channels.filter fun channel => channel.id ≠ id
    controllerChannelId :=
      if hub.controllerChannelId = some id then none else hub.controllerChannelId }

/-- `#publish`; `frame` is the size of the delta that the terminal's frame gives, if it gives one. -/
def publish (limits : ShadowTuiHostLimits) (frame : Option Nat) : ShadowTuiHub :=
  match frame with
  | none => hub
  | some bytes => if limits.maxFrameBytes < bytes then hub.dispose else hub

end ShadowTuiHub

/-! ## The host -/

namespace ShadowTuiHost

variable (host : ShadowTuiHost)

def modify (h : Nat) (f : ShadowTuiHub → ShadowTuiHub) : ShadowTuiHost :=
  { host with created := host.created.modify h f }

/-- `invalidate` and `dispose` let a hub be disposed of once it is there. -/
def disposeLater (h : Nat) : ShadowTuiHost :=
  { host with disposals := host.disposals.alloc ⟨h, false⟩ }

/-- `open` up to its `await` -/
def open_ (limits : ShadowTuiHostLimits) (identity : DashboardSessionIdentity)
    (options : TuiChannelOptions) : ShadowTuiHost :=
  if host.disposed = true then host
  else
    match host.hubs.get? (identityKey identity) with
    | some h => { host with openings := host.openings.alloc ⟨h, options, false⟩ }
    | none =>
      if limits.maxViews ≤ host.hubs.size then host
      else
        { host with
          hubs := host.hubs.set (identityKey identity) host.created.next
          created := host.created.alloc
            ⟨identity, options.dimensions, .resolving, [], none, false, false, false, false⟩
          openings := host.openings.alloc ⟨host.created.next, options, false⟩ }

def invalidate (identity : DashboardSessionIdentity) : ShadowTuiHost :=
  match host.hubs.get? (identityKey identity) with
  | none => host
  | some h => { host with hubs := host.hubs.delete (identityKey identity) }.disposeLater h

def dispose : ShadowTuiHost :=
  if host.disposed = true then host
  else
    { host.hubs.values.foldl disposeLater { host with disposed := true } with hubs := .empty }

/-- `remove` of a hub, with `onIdle` -/
def remove (h id : Nat) : ShadowTuiHost :=
  let hub := (host.created.cell h).remove id
  if hub.channels = [] then
    { host.modify h fun _ => hub.dispose with hubs := host.hubs.delete (identityKey hub.identity) }
  else host.modify h fun _ => hub

/-- The `catch` of a promise that is rejected. -/
def catchHub (h : Nat) : ShadowTuiHost :=
  let key := identityKey (host.created.cell h).identity
  let host := host.modify h fun hub => { hub with caught := true }
  if host.hubs.get? key = some h then { host with hubs := host.hubs.delete key } else host

def setOpening (o : Nat) : ShadowTuiHost :=
  { host with openings := host.openings.modify o fun opening => { opening with done := true } }

def setDisposal (d : Nat) : ShadowTuiHost :=
  { host with disposals := host.disposals.modify d fun disposal => { disposal with done := true } }

/-! ## Steps -/

inductive HostEvent where
  | open_ (identity : DashboardSessionIdentity) (options : TuiChannelOptions)
  /-- `resolveRuntime`, the constructor and the creation of the view have ended. -/
  | runtime (h : Nat) (created : Bool)
  /-- The `init` of the view has ended. -/
  | init (h : Nat) (succeeds : Bool)
  /-- The first frame is taken, or is refused. -/
  | rendered (h : Nat) (taken : Bool)
  | caught (h : Nat)
  /-- The hub of an `open` is there, or has failed. -/
  | opened (o channel : Nat)
  | requestExit (h : Nat)
  | requestControl (h id : Nat)
  | releaseControl (h id : Nat)
  | resize (h id : Nat) (dimensions : TuiDimensions)
  | framePending (h : Nat)
  | publish (h : Nat) (frame : Option Nat)
  | close (h id : Nat)
  | invalidate (identity : DashboardSessionIdentity)
  | disposal (d : Nat)
  | dispose
  deriving DecidableEq

def fail (hub : ShadowTuiHub) : ShadowTuiHub := { hub with stage := .rejected }

def step (limits : ShadowTuiHostLimits) : HostEvent → Option ShadowTuiHost
  | .open_ identity options => some (host.open_ limits identity options)
  | .runtime h created =>
    if h < host.created.next ∧ (host.created.cell h).stage = .resolving then
      if created = true ∧ validateDimensions (host.created.cell h).dimensions = true then
        some (host.modify h fun hub => { hub with stage := .initializing })
      else some (host.modify h fail)
    else none
  | .init h succeeds =>
    if h < host.created.next ∧ (host.created.cell h).stage = .initializing then
      if succeeds = true ∧ (host.created.cell h).disposed = false then
        some (host.modify h fun hub => { hub with stage := .rendering })
      else some (host.modify h fun hub => fail hub.dispose)
    else none
  | .rendered h taken =>
    if h < host.created.next ∧ (host.created.cell h).stage = .rendering then
      if taken = true then
        some (host.modify h fun hub => { hub with stage := .resolved, initialized := true })
      else some (host.modify h fun hub => fail hub.dispose)
    else none
  | .caught h =>
    if h < host.created.next ∧ (host.created.cell h).stage = .rejected ∧
        (host.created.cell h).caught = false then
      some (host.catchHub h)
    else none
  | .opened o channel =>
    let opening := host.openings.cell o
    if o < host.openings.next ∧ opening.done = false then
      match (host.created.cell opening.hub).stage with
      | .resolved =>
        some ((host.modify opening.hub fun hub => hub.open_ limits channel opening.options).setOpening o)
      | .rejected => some (host.setOpening o)
      | _ => none
    else none
  | .requestExit h =>
    if h < host.created.next ∧ (host.created.cell h).stage ≠ .resolving then
      some (host.modify h ShadowTuiHub.dispose)
    else none
  | .requestControl h id => some (host.modify h fun hub => hub.requestControl id)
  | .releaseControl h id => some (host.modify h fun hub => hub.releaseControl id)
  | .resize h id dimensions => some (host.modify h fun hub => hub.resizeChannel id dimensions)
  | .framePending h => some (host.modify h ShadowTuiHub.schedulePublication)
  | .publish h frame =>
    if h < host.created.next ∧ (host.created.cell h).publicationScheduled = true then
      some (host.modify h fun hub => { hub with publicationScheduled := false }.publish limits frame)
    else none
  | .close h id =>
    if h < host.created.next ∧ (host.created.cell h).hasChannel id = true then
      some (host.remove h id)
    else none
  | .invalidate identity => some (host.invalidate identity)
  | .disposal d =>
    let disposal := host.disposals.cell d
    if d < host.disposals.next ∧ disposal.done = false then
      match (host.created.cell disposal.hub).stage with
      | .resolved => some ((host.modify disposal.hub ShadowTuiHub.dispose).setDisposal d)
      | .rejected => some (host.setDisposal d)
      | _ => none
    else none
  | .dispose => some host.dispose

/-- No operation is in progress. -/
structure isIdle : Prop where
  settled : ∀ h < host.created.next, (host.created.cell h).stage = .resolved ∨
    ((host.created.cell h).stage = .rejected ∧ (host.created.cell h).caught = true)
  openings : ∀ o < host.openings.next, (host.openings.cell o).done = true
  disposals : ∀ d < host.disposals.next, (host.disposals.cell d).done = true

end ShadowTuiHost

end PiDaemon.Shadow
