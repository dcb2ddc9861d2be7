import PiDaemon.Multiplexer.State

/-!
# Lifecycle operations

`open`, `close`, `sweepIdleSessions` and `replaceDormantSession`.  The first three
run under the lifecycle lock of their session (`#withLifecycle`), a promise chain
for each session ID; `replaceDormantSession` does not take it.

A call links an operation, `start` begins it when it holds the lock, and `resume`
continues it with the answer of the call that it awaits.  A read of the catalog
and the use of what was read are two events; the effect of a write and the code
that follows it are one.  A sweep visits one slot at a time; the model lets any
slot be visited at any time.
-/

namespace PiDaemon.Multiplexer

open Lib

/-- How an awaited call answers; `conversation` is the identity that the adapter
reports after `rpcController`, with its session file. -/
inductive LifecycleAnswer where
  | ok
  | error (code : ErrorCode)
  | conversation (sessionFile : Option JsString)
  deriving DecidableEq

/-! ## The catalog -/

/-- `SessionCatalogStore.create` -/
def catalogCreate (catalog : OrderedMap SessionId SessionCatalogRecord) (sessionId : SessionId)
    (record : SessionCatalogRecord) : Except ErrorCode SessionCatalogRecord :=
  if catalog.has sessionId then .error .sessionExists else .ok record

/-- `SessionCatalogStore.replace` -/
def catalogReplace (catalog : OrderedMap SessionId SessionCatalogRecord) (sessionId : SessionId)
    (input : SessionCatalogReplaceInput) : Except ErrorCode SessionCatalogRecord :=
  match catalog.get? sessionId with
  | none => .error .sessionNotFound
  | some current =>
    if current.generation ≠ input.expectedGeneration ∨ current.revision ≠ input.expectedRevision then
      .error .sessionPreconditionFailed
    else if input.generation < current.generation then .error .staleGeneration
    else .ok
      { generation := input.generation, revision := current.revision + 1,
        residency := input.residency, policyDigest := input.policyDigest,
        sessionFile := input.conversation.getD current.sessionFile }

/-- `SessionCatalogStore.markDormant` -/
def catalogMarkDormant (catalog : OrderedMap SessionId SessionCatalogRecord) (sessionId : SessionId)
    (generation : Nat) : Except ErrorCode SessionCatalogRecord :=
  match catalog.get? sessionId with
  | none => .error .sessionNotFound
  | some current =>
    if current.generation ≠ generation then .error .staleGeneration
    else .ok { current with revision := current.revision + 1, residency := .dormant }

namespace Host

/-- A record that the store has committed and the multiplexer has cached. -/
def recordCatalog (h : Host) (sessionId : SessionId) (record : SessionCatalogRecord) : Host :=
  { h with
    catalog := h.catalog.set sessionId record
    catalogRecords := h.catalogRecords.set sessionId record }

def forgetCatalog (h : Host) (sessionId : SessionId) : Host :=
  { h with
    catalog := h.catalog.delete sessionId
    catalogRecords := h.catalogRecords.delete sessionId }

def finish (h : Host) (o : OpId) (result : LifecycleResult) : Host := h.opGoto o (.done result)

/-- `this.#sessions.delete(sessionId); this.#residencyLeases.delete(sessionId)` -/
def removeSession (h : Host) (sessionId : SessionId) : Host :=
  { h with
    sessions := h.sessions.delete sessionId
    residencyLeases := h.residencyLeases.delete sessionId }

/-- `residencyLeaseCount`, which forgets the expired leases it meets. -/
def residencyLeaseCount (h : Host) (sessionId : SessionId) (generation : Nat) : Host × Nat :=
  match h.residencyLeases.get? sessionId with
  | none => (h, 0)
  | some leases =>
    let live := leases.entries.foldl
      (fun live e => if e.2.expiresAt ≤ h.clock then live.delete e.1 else live) leases
    let count := (live.entries.filter fun e => e.2.generation = generation).length
    if live.size = 0 then ({ h with residencyLeases := h.residencyLeases.delete sessionId }, count)
    else ({ h with residencyLeases := h.residencyLeases.set sessionId live }, count)

/-! ## `open` -/

end Host

/-- The checks of `open` against the retained record. -/
def checkRetained (command : OpenCommand) (existing : Option SlotId)
    (retained : Option SessionCatalogRecord) : Except ErrorCode Unit :=
  match existing, retained with
  | none, some record =>
    if command.generation < record.generation then .error .staleGeneration
    else if command.generation = record.generation ∧ command.policyDigest ≠ record.policyDigest then
      .error .sessionPolicyConflict
    else .ok ()
  | _, _ => .ok ()

/-- The checks of `open` against the retained tool adapter policy. -/
def checkToolAdapter (command : OpenCommand) (policy : Option ToolAdapterPolicy) :
    Except ErrorCode Unit :=
  match command.toolAdapterError, policy with
  | some code, _ => .error code
  | none, none => .ok ()
  | none, some policy =>
    if command.generation < policy.generation then .error .staleGeneration
    else if command.generation = policy.generation then
      match command.toolAdapter with
      | none => .error .toolAdapterReprovisionRequired
      | some summary => if summary ≠ policy.summary then .error .sessionPolicyConflict else .ok ()
    else .ok ()

/-- What `resolvedRuntimePolicy` throws. -/
def resolvedRuntimePolicy (command : OpenCommand) (existing : Option SlotId)
    (retained : Option SessionCatalogRecord) : Except ErrorCode Unit :=
  match existing, retained with
  | none, some record =>
    if record.generation ≠ command.generation then .ok ()
    else if record.sessionFile.isSome then .ok ()
    else
      match command.mode with
      | .open => .ok ()
      | .memory => .error .ephemeralSessionUnavailable
      | _ => .error .conversationIdentityMissing
  | _, _ => .ok ()

/-- What `open` does after its checks. -/
inductive OpenDecision where
  /-- The session is resident with this generation. -/
  | reuse (i : SlotId)
  /-- The resident adapter is disposed first. -/
  | replace (i : SlotId)
  | create
  deriving DecidableEq

namespace Host

/-- The checks of `open` against the resident slot and the capacity. -/
def checkResident (h : Host) (command : OpenCommand) (existing : Option SlotId) :
    Except ErrorCode OpenDecision :=
  match existing with
  | some i =>
    if command.generation < (h.slot i).generation then .error .staleGeneration
    else if command.generation = (h.slot i).generation then
      if command.policyKey ≠ (h.slot i).policyKey then .error .sessionPolicyConflict
      else .ok (.reuse i)
    else if (h.slot i).pendingTurns > 0 ∨ (h.slot i).state = .running then .error .sessionBusy
    else .ok (.replace i)
  | none =>
    if h.sessions.size ≥ h.limits.maxSessions then .error .sessionCapacity else .ok .create

/-- The checks of `open` after `#catalog.get`, in the order of the code. -/
def openDecision (h : Host) (command : OpenCommand) (existing : Option SlotId)
    (retained : Option SessionCatalogRecord) : Except ErrorCode OpenDecision := do
  checkRetained command existing retained
  checkToolAdapter command (h.toolAdapterPolicies.get? command.sessionId)
  resolvedRuntimePolicy command existing retained
  h.checkResident command existing

/-- `existing.state = "closing"; existing.adapter.dispose()` -/
def disposeSlot (h : Host) (i : SlotId) : Host :=
  h.setSlot i fun s => { s with state := .closing, disposing := true }

/-- `this.#toolAdapterPolicies.set(…)` before the first durable effect of `open`. -/
def retainToolAdapter (h : Host) (command : OpenCommand) : Host :=
  match command.toolAdapter with
  | none => h
  | some summary =>
    { h with
      toolAdapterPolicies :=
        h.toolAdapterPolicies.set command.sessionId ⟨command.generation, summary⟩ }

end Host

/-- The first await of `open` after the tool adapter policy is retained. -/
def OpenCommand.firstAwait (command : OpenCommand) : LifecyclePc :=
  if command.toolAdapter.isSome ∧ command.mode ≠ .memory then .openReprovision else .openFactory

namespace Host

/-- A successful open, in the history. -/
def logOpen (h : Host) (command : OpenCommand) : Host :=
  { h with openLog := h.openLog ++ [(command.sessionId, command.generation)] }

def openChecks (h : Host) (o : OpId) (command : OpenCommand) : Host :=
  match h.openDecision command (h.op o).existing (h.op o).retained with
  | .error code => h.finish o (.failed code)
  | .ok (.reuse i) =>
    ((h.setSlot i fun s => { s with lastUsedAt := h.clock }).logOpen command).finish o (.opened false)
  | .ok (.replace i) =>
    (h.disposeSlot i).setOp o fun x =>
      { x with
        retainedToolAdapter := h.toolAdapterPolicies.get? command.sessionId
        pc := .openDispose }
  | .ok .create =>
    (h.retainToolAdapter command).setOp o fun x =>
      { x with
        retainedToolAdapter := h.toolAdapterPolicies.get? command.sessionId
        pc := command.firstAwait }

/-- The record that `open` writes. -/
def openRecord (h : Host) (command : OpenCommand) (x : LifecycleOp) :
    Except ErrorCode SessionCatalogRecord :=
  match x.retained with
  | none =>
    catalogCreate h.catalog command.sessionId
      { generation := command.generation, revision := 1, residency := .resident,
        policyDigest := command.policyDigest, sessionFile := x.sessionFile }
  | some retained =>
    catalogReplace h.catalog command.sessionId
      { expectedGeneration := retained.generation, expectedRevision := retained.revision,
        generation := command.generation, residency := .resident,
        policyDigest := command.policyDigest, conversation := some x.sessionFile }

/-- The slot is inserted, and a tool adapter policy of an earlier generation forgotten. -/
def openSlot (h : Host) (command : OpenCommand) (x : LifecycleOp) : Host :=
  { h.insertSlot (SessionSlot.opened command.sessionId command.generation command.policyKey
      x.sessionFile.isSome h.clock) with
    toolAdapterPolicies :=
      match command.toolAdapter, x.retainedToolAdapter with
      | none, some policy =>
        if command.generation > policy.generation then
          h.toolAdapterPolicies.delete command.sessionId
        else h.toolAdapterPolicies
      | _, _ => h.toolAdapterPolicies
    openLog := h.openLog ++ [(command.sessionId, command.generation)] }

def resumeOpen (h : Host) (o : OpId) (command : OpenCommand) (answer : LifecycleAnswer) :
    LifecyclePc → Option Host
  | .openGet =>
    match answer with
    | .error code => some (h.finish o (.failed code))
    | _ => some (h.setOp o fun x =>
        { x with retained := h.catalog.get? command.sessionId, pc := .openChecks })
  | .openChecks => some (h.openChecks o command)
  | .openDispose =>
    match answer with
    -- the slot stays resident and closing
    | .error code => some (h.finish o (.failed code))
    | _ =>
      some (((h.removeSession command.sessionId).retainToolAdapter command).opGoto o
        command.firstAwait)
  | .openReprovision =>
    match answer with
    | .error code => some (h.opGoto o (.openCleanup code))
    | _ => some (h.opGoto o .openFactory)
  | .openFactory =>
    match answer with
    | .error code => some (h.opGoto o (.openCleanup code))
    | _ => some (h.opGoto o .openController)
  | .openController =>
    match answer with
    | .error code => some (h.opGoto o (.openCleanup code))
    | .ok => none
    | .conversation sessionFile =>
      some (h.setOp o fun x =>
        { x with
          sessionFile := sessionFile
          pc := if h.hasCatalog then .openCatalog else .openManifest })
  | .openCatalog =>
    match answer, h.openRecord command (h.op o) with
    | .error code, _ => some (h.opGoto o (.openCleanup code))
    | _, .error code => some (h.opGoto o (.openCleanup code))
    | _, .ok record => some ((h.recordCatalog command.sessionId record).opGoto o .openManifest)
  | .openManifest =>
    match answer with
    | .error code => some (h.opGoto o (.openCleanup code))
    | _ => some ((h.openSlot command (h.op o)).finish o (.opened true))
  | .openCleanup code =>
    if h.hasCatalog ∧ h.sessions.has command.sessionId = false then
      some (h.opGoto o (.openRepairGet code))
    else some (h.finish o (.failed code))
  | .openRepairGet code =>
    match answer, h.catalog.get? command.sessionId with
    | .ok, some record => some (h.opGoto o (.openRepairMark code record.generation))
    | _, _ => some (h.finish o (.failed code))
  | .openRepairMark code generation =>
    match answer, catalogMarkDormant h.catalog command.sessionId generation with
    | .ok, .ok dormant =>
      some ((h.recordCatalog command.sessionId dormant).finish o (.failed code))
    | _, _ => some (h.finish o (.failed code))
  | _ => none

/-! ## `close` -/

def closeChecks (h : Host) (o : OpId) (generation : Nat) (retainArtifacts : Bool) : Host :=
  match (h.op o).existing, (h.op o).retained with
  | none, none => h.finish o (.closed false)
  | none, some retained =>
    if retained.generation ≠ generation then h.finish o (.failed .staleGeneration)
    else if retainArtifacts then
      if retained.residency ≠ .dormant then h.opGoto o .closeRetained else h.finish o (.closed true)
    else h.opGoto o .closeRetainedArtifacts
  | some i, _ =>
    if generation ≠ (h.slot i).generation then h.finish o (.failed .staleGeneration)
    else if (h.slot i).pendingTurns > 0 ∨ (h.slot i).state = .running then
      h.finish o (.failed .sessionBusy)
    else (h.disposeSlot i).opGoto o .closeDispose

/-- `this.#toolAdapterPolicies.delete(sessionId)` -/
def forgetToolAdapter (h : Host) (sessionId : SessionId) : Host :=
  { h with toolAdapterPolicies := h.toolAdapterPolicies.delete sessionId }

def resumeClose (h : Host) (o : OpId) (sessionId : SessionId) (generation : Nat)
    (retainArtifacts : Bool) (answer : LifecycleAnswer) : LifecyclePc → Option Host
  | .closeGet =>
    match answer with
    | .error code => some (h.finish o (.failed code))
    | _ => some (h.setOp o fun x => { x with retained := h.catalog.get? sessionId, pc := .closeChecks })
  | .closeChecks => some (h.closeChecks o generation retainArtifacts)
  | .closeDispose =>
    match answer with
    | .error code => some (h.finish o (.failed code))
    | _ => some (h.opGoto o (if h.hasCatalog then .closeCatalog else .closeArtifacts))
  | .closeCatalog =>
    match answer with
    | .error code => some (h.finish o (.failed code))
    | _ =>
      if retainArtifacts then
        match catalogMarkDormant h.catalog sessionId generation with
        | .error code => some (h.finish o (.failed code))
        | .ok dormant => some ((h.recordCatalog sessionId dormant).opGoto o .closeArtifacts)
      else some ((h.forgetCatalog sessionId).opGoto o .closeArtifacts)
  | .closeArtifacts =>
    match answer with
    | .error code => some (h.finish o (.failed code))
    | _ =>
      let h' := h.removeSession sessionId
      some ((if retainArtifacts then h' else h'.forgetToolAdapter sessionId).finish o (.closed true))
  | .closeRetained =>
    match answer with
    | .error code => some (h.finish o (.failed code))
    | _ =>
      if h.hasCatalog then
        match catalogMarkDormant h.catalog sessionId generation with
        | .error code => some (h.finish o (.failed code))
        | .ok dormant => some ((h.recordCatalog sessionId dormant).finish o (.closed true))
      else some (h.finish o (.closed true))
  | .closeRetainedArtifacts =>
    match answer with
    | .error code => some (h.finish o (.failed code))
    | _ => some (h.opGoto o .closeRetainedDelete)
  | .closeRetainedDelete =>
    match answer with
    | .error code => some (h.finish o (.failed code))
    | _ => some (((h.forgetCatalog sessionId).forgetToolAdapter sessionId).finish o (.closed true))
  | _ => none

/-! ## `sweepIdleSessions` -/

/-- The condition under which a sweep passes a slot over, after the lease count. -/
def sweepPasses (h : Host) (i : SlotId) (now leases : Nat) : Bool :=
  (h.slot i).state ≠ .idle || (h.slot i).pendingTurns > 0 || leases > 0 ||
    now - (h.slot i).lastUsedAt < h.idleSessionTtlMs

/-- `state !== "idle" || pendingTurns > 0 || residencyLeaseCount(…) > 0 || …`: the
leases are counted only for an idle slot without turns. -/
def sweepCheck (h : Host) (i : SlotId) (now : Nat) : Host × Bool :=
  if (h.slot i).state ≠ .idle ∨ (h.slot i).pendingTurns > 0 then (h, true)
  else
    let r := h.residencyLeaseCount (h.slot i).sessionId (h.slot i).generation
    (r.1, r.1.sweepPasses i now r.2)

/-- The operation of a sweep under the lock. -/
def startSweep (h : Host) (o : OpId) (sessionId : SessionId) (i : SlotId) (now : Nat) : Host :=
  if h.sessions.get? sessionId ≠ some i then h.finish o (.evicted false)
  else
    let r := h.sweepCheck i now
    if r.2 then r.1.finish o (.evicted false)
    else (r.1.setSlot i fun s => { s with state := .closing }).opGoto o .sweepClosing

/-- The `catch` of `sweepIdleSessions`. -/
def sweepFailed (h : Host) (o : OpId) (sessionId : SessionId) (i : SlotId) (code : ErrorCode) : Host :=
  if h.sessions.get? sessionId = some i then
    (h.setSlot i fun s => { s with state := .failed, lastErrorCode := some code }).finish o
      (.failed code)
  else h.finish o (.failed code)

def evict (h : Host) (o : OpId) (sessionId : SessionId) : Host :=
  (h.removeSession sessionId).finish o (.evicted true)

def resumeSweep (h : Host) (o : OpId) (sessionId : SessionId) (i : SlotId)
    (answer : LifecycleAnswer) : LifecyclePc → Option Host
  | .sweepClosing =>
    some ((h.setSlot i fun s => { s with disposing := true }).opGoto o .sweepDispose)
  | .sweepDispose =>
    match answer with
    | .error code => some (h.sweepFailed o sessionId i code)
    | _ => some (if h.hasCatalog then h.opGoto o .sweepCatalog else h.evict o sessionId)
  | .sweepCatalog =>
    match answer, catalogMarkDormant h.catalog sessionId (h.slot i).generation with
    | .error code, _ => some (h.sweepFailed o sessionId i code)
    | _, .error code => some (h.sweepFailed o sessionId i code)
    | _, .ok dormant => some ((h.recordCatalog sessionId dormant).evict o sessionId)
  | _ => none

/-! ## `replaceDormantSession` -/

def resumeReplace (h : Host) (o : OpId) (sessionId : SessionId) (input : SessionCatalogReplaceInput)
    (answer : LifecycleAnswer) : LifecyclePc → Option Host
  | .replaceGet =>
    match answer with
    | .error code => some (h.finish o (.failed code))
    | _ => some (h.setOp o fun x =>
        { x with retained := h.catalog.get? sessionId, pc := .replaceChecks })
  | .replaceChecks =>
    match (h.op o).retained with
    | none => some (h.finish o (.failed .sessionNotFound))
    | some _ =>
      if h.sessions.has sessionId then some (h.finish o (.failed .sessionBusy))
      else some (h.opGoto o .replaceCommit)
  | .replaceCommit =>
    match answer, catalogReplace h.catalog sessionId input with
    | .error code, _ => some (h.finish o (.failed code))
    | _, .error code => some (h.finish o (.failed code))
    | _, .ok next => some ((h.recordCatalog sessionId next).finish o .replaced)
  | _ => none

/-! ## The lock -/

/-- A new operation of a session. -/
def newOp (h : Host) (request : LifecycleRequest) (after : Option OpId) (pc : LifecyclePc) : Host :=
  { h with
    ops := h.ops.alloc
      { request := request, after := after, pc := pc, existing := none, retained := none,
        retainedToolAdapter := none, sessionFile := none } }

/-- `#withLifecycle`: the operation runs after the last one of the session. -/
def withLifecycle (h : Host) (request : LifecycleRequest) : Host :=
  { h.newOp request (h.lifecycleTails request.sessionId) .queued with
    lifecycleTails := Function.update h.lifecycleTails request.sessionId (some h.ops.next) }

def opDone (h : Host) (o : OpId) : Bool :=
  match (h.op o).pc with
  | .done _ => true
  | _ => false

def lockReady (h : Host) (o : OpId) : Bool :=
  match (h.op o).after with
  | none => true
  | some p => h.opDone p

/-- The first part of an operation that has the lock. -/
def start (h : Host) (o : OpId) : LifecycleRequest → Host
  | .open command =>
    match h.assertAdmitting, command.payloadError with
    | .error code, _ => h.finish o (.failed code)
    | .ok _, some code => h.finish o (.failed code)
    | .ok _, none =>
      h.setOp o fun x => { x with existing := h.sessions.get? command.sessionId, pc := .openGet }
  | .close sessionId generation retainArtifacts =>
    match h.catalogRecords.get? sessionId with
    | some record =>
      (h.setOp o fun x =>
        { x with existing := h.sessions.get? sessionId, retained := some record }).closeChecks o
        generation retainArtifacts
    | none => h.setOp o fun x => { x with existing := h.sessions.get? sessionId, pc := .closeGet }
  | .sweep sessionId i now => h.startSweep o sessionId i now
  | .replaceDormant _ _ => h

/-- Continue the operation `o`. -/
def resumeOp (h : Host) (o : OpId) (answer : LifecycleAnswer) : Option Host :=
  match (h.op o).request with
  | .open command => h.resumeOpen o command answer (h.op o).pc
  | .close sessionId generation retainArtifacts =>
    h.resumeClose o sessionId generation retainArtifacts answer (h.op o).pc
  | .sweep sessionId i _ => h.resumeSweep o sessionId i answer (h.op o).pc
  | .replaceDormant sessionId input => h.resumeReplace o sessionId input answer (h.op o).pc

end Host

/-! ## The machine -/

inductive LifecycleEvent where
  | open (command : OpenCommand)
  | close (sessionId : SessionId) (generation : Nat) (retainArtifacts : Bool)
  /-- `sweepIdleSessions(now)` looks at the slot. -/
  | sweepVisit (i : SlotId) (now : Nat)
  | replaceDormantSession (sessionId : SessionId) (input : SessionCatalogReplaceInput)
  /-- The operation gets the lifecycle lock. -/
  | start (o : OpId)
  | resume (o : OpId) (answer : LifecycleAnswer)
  deriving DecidableEq

/-- A call that throws before it links an operation leaves the host as it was. -/
def lifecycleStep (h : Host) : LifecycleEvent → Option Host
  | .open command =>
    match h.assertAdmitting with
    | .error _ => some h
    | .ok _ => some (h.withLifecycle (.open command))
  | .close sessionId generation retainArtifacts =>
    some (h.withLifecycle (.close sessionId generation retainArtifacts))
  | .sweepVisit i now =>
    if i < h.slots.next ∧ h.idleSessionTtlMs ≠ 0 then
      let r := h.sweepCheck i now
      some (if r.2 then r.1 else r.1.withLifecycle (.sweep (h.slot i).sessionId i now))
    else none
  | .replaceDormantSession sessionId input =>
    some (if h.hasCatalog then h.newOp (.replaceDormant sessionId input) none .replaceGet else h)
  | .start o =>
    if o < h.ops.next ∧ (h.op o).pc = .queued ∧ h.lockReady o then some (h.start o (h.op o).request)
    else none
  | .resume o answer => if o < h.ops.next then h.resumeOp o answer else none

end PiDaemon.Multiplexer
