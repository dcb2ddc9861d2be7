import PiDaemon.Durability.JournalState
import PiDaemon.Lib.Heap
import PiDaemon.Lib.JsString
import PiDaemon.Lib.OrderedMap

/-!
# The state of the multiplexer

`Host` is the memory of one `Multiplexer`: its maps, the session slots and the
turn semaphore, together with the suspended async functions.  A wake that has
been admitted is a `Wake`, a lifecycle operation a `LifecycleOp`; their `pc`
names the await they are suspended at.  What the awaited call does is chosen by
the event that resumes the function, so a run ranges over every interleaving.

The catalog is kept as the committed records of the store (`catalog`) next to
the cache the multiplexer keeps of them (`catalogRecords`), each with the fields
that the multiplexer reads.  `disposing`, `linked`, `prompts` and `openLog` are
history: no function of the code reads them.
-/

namespace PiDaemon.Multiplexer

open Lib

abbrev SessionId := JsString
abbrev IdempotencyKey := JsString
abbrev RequestId := JsString
abbrev Fingerprint := JsString
abbrev Digest := JsString
abbrev SlotId := Nat
abbrev WakeId := Nat
abbrev OpId := Nat
abbrev LeaseToken := Nat

/-! ## Limits and errors -/

structure MultiplexerLimits where
  maxSessions : Nat
  maxConcurrentTurns : Nat
  maxSessionQueueDepth : Nat
  maxSessions_pos : 0 < maxSessions
  maxConcurrentTurns_pos : 0 < maxConcurrentTurns

def DEFAULT_MULTIPLEXER_LIMITS : MultiplexerLimits where
  maxSessions := 128
  maxConcurrentTurns := 4
  maxSessionQueueDepth := 32
  maxSessions_pos := by decide
  maxConcurrentTurns_pos := by decide

/-- The codes the modelled functions throw; `other` is a code that comes from
an adapter, a store or a payload check. -/
inductive ErrorCode where
  | hostNotReady
  | hostDraining
  | sessionNotFound
  | staleGeneration
  | idempotencyConflict
  | sessionQueueFull
  | durabilityFailed
  | requestFailed
  | requestIndeterminate
  | sessionFailed
  | sessionNotRunning
  | durabilityCompletionFailed
  | aborted
  | turnFailed
  | sessionPolicyConflict
  | toolAdapterReprovisionRequired
  | ephemeralSessionUnavailable
  | conversationIdentityMissing
  | conversationIdentityInvalid
  | sessionBusy
  | sessionCapacity
  | openFailed
  | adapterDisposeTimeout
  | sessionNotResident
  | residencyLeaseCapacity
  | catalogUnavailable
  | sessionExists
  | sessionPreconditionFailed
  | other (code : JsString)
  deriving DecidableEq

/-! ## Slots and wakes -/

inductive SessionState where
  | opening | idle | running | failed | closing
  deriving DecidableEq, Inhabited

structure SessionSlot where
  sessionId : SessionId
  generation : Nat
  state : SessionState
  policyKey : JsString
  durableConversation : Bool
  pendingTurns : Int
  /-- The wake whose task `turnTail` waits for; `none` is the resolved promise. -/
  turnTail : Option WakeId
  activeAbort : Option WakeId
  lastErrorCode : Option ErrorCode
  lastUsedAt : Nat
  inFlight : OrderedMap IdempotencyKey (Fingerprint × WakeId)
  controls : OrderedMap IdempotencyKey Fingerprint
  /-- `adapter.dispose` has been called. -/
  disposing : Bool
  deriving Inhabited

structure WakeCommand where
  requestId : RequestId
  sessionId : SessionId
  generation : Nat
  idempotencyKey : IdempotencyKey
  /-- `requestFingerprint(command)`. -/
  fingerprint : Fingerprint
  deriving DecidableEq

/-- The await that `#prepareWake` and `#runWake` are suspended at. -/
inductive WakePc where
  /-- `durability.beginRequest` -/
  | beginRequest
  /-- `durability.markFailed` before a failed session refuses the wake -/
  | refuse
  /-- `slot.turnTail`, the turn linked before this one -/
  | turnTail
  /-- `#turns.acquire`, in the queue of the semaphore -/
  | acquire
  /-- `#turns.acquire` has resolved -/
  | acquired
  /-- `#turns.acquire` has rejected -/
  | acquireAborted
  /-- `durability.markAccepted` -/
  | markAccepted
  /-- `#syncCatalogState(slot, "running")` -/
  | syncRunning
  /-- `adapter.prompt` -/
  | prompt
  /-- `durability.markCompleted` -/
  | markCompleted
  /-- `#syncCatalogState(slot, "idle")` -/
  | syncIdle
  /-- `durability.markFailed` in the error path of `#runWake` -/
  | markFailed (code : ErrorCode)
  /-- `#syncCatalogState` in the error path of `#runWake` -/
  | syncFailed (code : ErrorCode)
  /-- `#runWake` has settled -/
  | returned
  /-- the reservation is released -/
  | settled
  /-- the entry of `slot.inFlight` is removed -/
  | untracked
  deriving DecidableEq, Inhabited

structure Wake where
  slot : SlotId
  requestId : RequestId
  generation : Nat
  idempotencyKey : IdempotencyKey
  fingerprint : Fingerprint
  /-- `abort.signal.aborted` -/
  aborted : Bool
  /-- The turn this one was linked behind. -/
  after : Option WakeId
  /-- The turn has been linked. -/
  linked : Bool
  /-- `release` is defined and has not been called. -/
  permit : Bool
  /-- What `#runWake` or `#prepareWake` has thrown. -/
  error : Option ErrorCode
  pc : WakePc
  deriving DecidableEq, Inhabited

/-! ## Retained sessions -/

inductive SessionResidency where
  | resident | dormant
  deriving DecidableEq

structure SessionCatalogRecord where
  generation : Nat
  revision : Nat
  residency : SessionResidency
  policyDigest : Digest
  /-- `conversation.sessionFile` -/
  sessionFile : Option JsString
  deriving DecidableEq

/-- The canonical JSON of a `DurableToolAdapterSummary`. -/
abbrev DurableToolAdapterSummary := JsString

structure ToolAdapterPolicy where
  generation : Nat
  summary : DurableToolAdapterSummary
  deriving DecidableEq

structure SessionCatalogReplaceInput where
  expectedGeneration : Nat
  expectedRevision : Nat
  generation : Nat
  residency : SessionResidency
  policyDigest : Digest
  /-- `conversation`: `none` keeps the one of the record, `some none` has no session file. -/
  conversation : Option (Option JsString)
  deriving DecidableEq

/-! ## Lifecycle operations -/

inductive SessionTargetMode where
  | new | «open» | continue | memory
  deriving DecidableEq, Inhabited

structure OpenCommand where
  requestId : RequestId
  sessionId : SessionId
  generation : Nat
  mode : SessionTargetMode
  policyKey : JsString
  /-- `catalogDigest` -/
  policyDigest : Digest
  /-- `durableToolAdapterSummary(command.payload)` -/
  toolAdapter : Option DurableToolAdapterSummary
  /-- What the checks of the payload before `#catalog.get` throw. -/
  payloadError : Option ErrorCode
  /-- What `durableToolAdapterSummary` and `assertHostToolAdapterBinding` throw. -/
  toolAdapterError : Option ErrorCode
  deriving DecidableEq, Inhabited

/-- A call that runs under the lifecycle lock of its session, except
`replaceDormantSession`, which does not take it. -/
inductive LifecycleRequest where
  | open (command : OpenCommand)
  | close (sessionId : SessionId) (generation : Nat) (retainArtifacts : Bool)
  | sweep (sessionId : SessionId) (slot : SlotId) (now : Nat)
  | replaceDormant (sessionId : SessionId) (input : SessionCatalogReplaceInput)
  deriving DecidableEq, Inhabited

def LifecycleRequest.sessionId : LifecycleRequest → SessionId
  | .open command => command.sessionId
  | .close sessionId _ _ => sessionId
  | .sweep sessionId _ _ => sessionId
  | .replaceDormant sessionId _ => sessionId

def LifecycleRequest.locks : LifecycleRequest → Bool
  | .replaceDormant _ _ => false
  | _ => true

inductive LifecycleResult where
  | opened (created : Bool)
  | closed (existed : Bool)
  | evicted (done : Bool)
  | replaced
  | failed (code : ErrorCode)
  deriving DecidableEq

/-- The await that a lifecycle operation is suspended at. -/
inductive LifecyclePc where
  /-- the lifecycle lock -/
  | queued
  /-- `open`: `#catalog.get`, then the resolved promise of it -/
  | openGet | openChecks
  /-- `open`: `existing.adapter.dispose` -/
  | openDispose
  /-- `open`: `#durability.saveManifest(command)` -/
  | openReprovision
  /-- `open`: `#factory.open` -/
  | openFactory
  /-- `open`: `adapter.rpcController` -/
  | openController
  /-- `open`: `#catalog.create` or `#catalog.replace` -/
  | openCatalog
  /-- `open`: `#durability.saveManifest(command, conversation)` -/
  | openManifest
  /-- `open`, error path: `adapter.dispose`, `catalog.get`, `catalog.markDormant` -/
  | openCleanup (code : ErrorCode) | openRepairGet (code : ErrorCode)
  | openRepairMark (code : ErrorCode) (generation : Nat)
  /-- `close`: `#catalog.get`, then the resolved promise of it -/
  | closeGet | closeChecks
  /-- `close`: `slot.adapter.dispose` -/
  | closeDispose
  /-- `close`: `#catalog.markDormant` or `#catalog.delete` -/
  | closeCatalog
  /-- `close`: `#durability.closeSession` -/
  | closeArtifacts
  /-- `close` of a dormant session: `#catalog.markDormant` -/
  | closeRetained
  /-- `close` of a dormant session: `#durability.closeSession`, `#catalog.delete` -/
  | closeRetainedArtifacts | closeRetainedDelete
  /-- `sweepIdleSessions`: the microtask that calls `adapter.dispose` -/
  | sweepClosing
  /-- `sweepIdleSessions`: `adapter.dispose`, `#catalog.markDormant` -/
  | sweepDispose | sweepCatalog
  /-- `replaceDormantSession`: `#catalog.get`, then the resolved promise of it -/
  | replaceGet | replaceChecks
  /-- `replaceDormantSession`: `#catalog.replace` -/
  | replaceCommit
  | done (result : LifecycleResult)
  deriving DecidableEq, Inhabited

structure LifecycleOp where
  request : LifecycleRequest
  /-- The operation this one was linked behind. -/
  after : Option OpId
  pc : LifecyclePc
  /-- `existing` of `open`, `slot` of `close`. -/
  existing : Option SlotId
  /-- `retained` of `open` and `close`, `current` of `replaceDormantSession`. -/
  retained : Option SessionCatalogRecord
  /-- `retainedToolAdapter` of `open`. -/
  retainedToolAdapter : Option ToolAdapterPolicy
  /-- `conversation.sessionFile` of `open`. -/
  sessionFile : Option JsString
  deriving DecidableEq, Inhabited

/-! ## Residency leases -/

structure Lease where
  generation : Nat
  expiresAt : Nat
  deriving DecidableEq

/-- The handle that `acquireResidencyLease` returns. -/
structure SessionResidencyLease where
  sessionId : SessionId
  generation : Nat
  ttl : Nat
  released : Bool
  /-- When the lease runs out, by its acquisition and its effective renewals. -/
  expiresAt : Nat
  deriving DecidableEq, Inhabited

/-! ## The semaphore and the host -/

structure Semaphore where
  limit : Nat
  active : Int
  waiters : List WakeId
  deriving DecidableEq

structure PromptStart where
  wake : WakeId
  slot : SlotId
  sessionId : SessionId
  idempotencyKey : IdempotencyKey
  /-- `adapter.dispose` had been called on the adapter. -/
  disposing : Bool
  deriving DecidableEq

structure Host where
  limits : MultiplexerLimits
  durable : Bool
  hasCatalog : Bool
  idleSessionTtlMs : Nat
  ready : Bool
  draining : Bool
  clock : Nat
  sessions : OrderedMap SessionId SlotId
  slots : Heap SessionSlot
  wakes : Heap Wake
  turns : Semaphore
  catalog : OrderedMap SessionId SessionCatalogRecord
  catalogRecords : OrderedMap SessionId SessionCatalogRecord
  toolAdapterPolicies : OrderedMap SessionId ToolAdapterPolicy
  ops : Heap LifecycleOp
  lifecycleTails : SessionId → Option OpId
  residencyLeases : OrderedMap SessionId (OrderedMap LeaseToken Lease)
  leases : Heap SessionResidencyLease
  prompts : List PromptStart
  openLog : List (SessionId × Nat)

/-- The slot that `open` inserts. -/
def SessionSlot.opened (sessionId : SessionId) (generation : Nat) (policyKey : JsString)
    (durableConversation : Bool) (now : Nat) : SessionSlot where
  sessionId := sessionId
  generation := generation
  state := .idle
  policyKey := policyKey
  durableConversation := durableConversation
  pendingTurns := 0
  turnTail := none
  activeAbort := none
  lastErrorCode := none
  lastUsedAt := now
  inFlight := .empty
  controls := .empty
  disposing := false

namespace Host

/-- A host after the constructor and, with a journal or a catalog, after `recover`. -/
def new (limits : MultiplexerLimits) (durable hasCatalog : Bool) (idleSessionTtlMs now : Nat) :
    Host where
  limits := limits
  durable := durable
  hasCatalog := hasCatalog
  idleSessionTtlMs := idleSessionTtlMs
  ready := true
  draining := false
  clock := now
  sessions := .empty
  slots := .empty
  wakes := .empty
  turns := ⟨limits.maxConcurrentTurns, 0, []⟩
  catalog := .empty
  catalogRecords := .empty
  toolAdapterPolicies := .empty
  ops := .empty
  lifecycleTails := fun _ => none
  residencyLeases := .empty
  leases := .empty
  prompts := []
  openLog := []

/-- `this.#sessions.set(slot.sessionId, slot)` -/
def insertSlot (h : Host) (slot : SessionSlot) : Host :=
  { h with
    slots := h.slots.alloc slot
    sessions := h.sessions.set slot.sessionId h.slots.next }

def slot (h : Host) (i : SlotId) : SessionSlot := h.slots.cell i

def wakeOf (h : Host) (w : WakeId) : Wake := h.wakes.cell w

def op (h : Host) (o : OpId) : LifecycleOp := h.ops.cell o

def setSlot (h : Host) (i : SlotId) (f : SessionSlot → SessionSlot) : Host :=
  { h with slots := h.slots.modify i f }

def setWake (h : Host) (w : WakeId) (f : Wake → Wake) : Host :=
  { h with wakes := h.wakes.modify w f }

def setOp (h : Host) (o : OpId) (f : LifecycleOp → LifecycleOp) : Host :=
  { h with ops := h.ops.modify o f }

/-- Suspend the wake `w` at another await. -/
def goto (h : Host) (w : WakeId) (pc : WakePc) : Host := h.setWake w fun x => { x with pc := pc }

/-- Suspend the lifecycle operation `o` at another await. -/
def opGoto (h : Host) (o : OpId) (pc : LifecyclePc) : Host := h.setOp o fun x => { x with pc := pc }

def assertAdmitting (h : Host) : Except ErrorCode Unit :=
  if ¬ h.ready then .error .hostNotReady
  else if h.draining then .error .hostDraining
  else .ok ()

def requireSession (h : Host) (sessionId : SessionId) (generation : Nat) :
    Except ErrorCode SlotId :=
  match h.sessions.get? sessionId with
  | none => .error .sessionNotFound
  | some i => if generation ≠ (h.slot i).generation then .error .staleGeneration else .ok i

end Host

end PiDaemon.Multiplexer
