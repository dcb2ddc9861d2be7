import PiDaemon.Multiplexer.State

/-!
# Turns

The part of the multiplexer that runs wakes: the semaphore, `wake` with
`#prepareWake` and `#runWake`, `abort`, `drain` and the ephemeral controls.

A call of the host is one event and runs up to its first await.  `resume`
continues a suspended wake with the `Answer` of the call it awaits; every other
function of the host runs between two events.  The journal serializes the calls
of one session, and without a journal the awaits of `#prepareWake` resolve in
the order in which they were made, so `beginRequest` answers the wakes of a slot
in the order of their admission.
-/

namespace PiDaemon.Multiplexer

open Lib Durability

/-! ## What happens to a wake -/

/-- A wake suspended at the first await of `#prepareWake`. -/
def Wake.admitted (i : SlotId) (command : WakeCommand) : Wake where
  slot := i
  requestId := command.requestId
  generation := command.generation
  idempotencyKey := command.idempotencyKey
  fingerprint := command.fingerprint
  aborted := false
  after := none
  linked := false
  permit := false
  error := none
  pc := .beginRequest

/-- `waiter.resolve(this.#releaseOnce())` -/
def Wake.granted (x : Wake) : Wake := { x with permit := true, pc := .acquired }

/-- `waiter.reject(abortError())` -/
def Wake.rejected (x : Wake) : Wake := { x with pc := .acquireAborted }

/-- The turn waits for the tail it is linked behind. -/
def Wake.link (tail : Option WakeId) (x : Wake) : Wake :=
  { x with after := tail, linked := true, pc := .turnTail }

/-- The promise of `#prepareWake` settles. -/
def Wake.settle (error : Option ErrorCode) (x : Wake) : Wake :=
  { x with error := error, pc := .settled }

/-- `#runWake` settles without a permit. -/
def Wake.returned (error : Option ErrorCode) (x : Wake) : Wake :=
  { x with permit := false, error := error, pc := .returned }

/-- The reservation of `wake`, and its entry of `inFlight`. -/
def SessionSlot.reserve (command : WakeCommand) (w : WakeId) (s : SessionSlot) : SessionSlot :=
  { s with
    pendingTurns := s.pendingTurns + 1
    activeAbort := if s.pendingTurns = 0 then some w else s.activeAbort
    inFlight := s.inFlight.set command.idempotencyKey (command.fingerprint, w) }

def SessionSlot.releaseReservation (w : WakeId) (s : SessionSlot) : SessionSlot :=
  { s with
    pendingTurns := s.pendingTurns - 1
    activeAbort := if s.activeAbort = some w then none else s.activeAbort }

/-- `current.promise === tracked` removes the entry of `inFlight`. -/
def SessionSlot.untrack (idempotencyKey : IdempotencyKey) (w : WakeId) (s : SessionSlot) :
    SessionSlot :=
  match s.inFlight.get? idempotencyKey with
  | some (_, w') => if w' = w then { s with inFlight := s.inFlight.delete idempotencyKey } else s
  | none => s

/-! ## The semaphore -/

/-- `#release`: a waiter whose signal is aborted is rejected, the first other
one gets the permit. -/
def handOver (limit : Nat) (active : Int) :
    List WakeId → Heap Wake → Heap Wake × Semaphore
  | [], wakes => (wakes, ⟨limit, active - 1, []⟩)
  | w :: waiters, wakes =>
    if (wakes.cell w).aborted then
      handOver limit active waiters (wakes.modify w Wake.rejected)
    else (wakes.modify w Wake.granted, ⟨limit, active, waiters⟩)

namespace Host

def release (h : Host) : Host :=
  let r := handOver h.turns.limit h.turns.active h.turns.waiters h.wakes
  { h with wakes := r.1, turns := r.2 }

def acquire (h : Host) (w : WakeId) : Host :=
  if (h.wakeOf w).aborted then h.setWake w Wake.rejected
  else if h.turns.active < h.turns.limit then
    { h with turns := { h.turns with active := h.turns.active + 1 } }.setWake w
      Wake.granted
  else
    { h with turns := { h.turns with waiters := h.turns.waiters ++ [w] } }.goto w .acquire

/-- `abort.abort()` with the listener that `acquire` has installed. -/
def abortWake (h : Host) (w : WakeId) : Host :=
  if w ∈ h.turns.waiters then
    { h with turns := { h.turns with waiters := h.turns.waiters.erase w } }.setWake w
      fun x => { x with aborted := true }.rejected
  else h.setWake w fun x => { x with aborted := true }

/-! ## Admission -/

/-- The synchronous part of `wake` after its checks. -/
def admitWake (h : Host) (i : SlotId) (command : WakeCommand) : Host :=
  { h with
    wakes := h.wakes.alloc (Wake.admitted i command)
    slots := h.slots.modify i (SessionSlot.reserve command h.wakes.next) }

/-- `wake`: the state after the call and the wake whose promise it returns. -/
def wake (h : Host) (command : WakeCommand) : Except ErrorCode (Host × WakeId) := do
  h.assertAdmitting
  let i ← h.requireSession command.sessionId command.generation
  match (h.slot i).inFlight.get? command.idempotencyKey with
  | some (fingerprint, w) =>
    if fingerprint ≠ command.fingerprint then .error .idempotencyConflict else .ok (h, w)
  | none =>
    if (h.slot i).pendingTurns ≥ h.limits.maxSessionQueueDepth + 1 then .error .sessionQueueFull
    else .ok (h.admitWake i command, h.wakes.next)

def releaseReservation (h : Host) (w : WakeId) (error : Option ErrorCode) : Host :=
  (h.setSlot (h.wakeOf w).slot (SessionSlot.releaseReservation w)).setWake w (Wake.settle error)

/-- `slot.turnTail = slot.turnTail.then(() => this.#runWake(…))` -/
def linkTurn (h : Host) (w : WakeId) : Host :=
  (h.setWake w (Wake.link (h.slot (h.wakeOf w).slot).turnTail)).setSlot (h.wakeOf w).slot
    fun s => { s with turnTail := some w }

end Host

/-- How an awaited call answers: `journal` is the entry that `beginRequest`
returns with the code of its error, `error` the code that the host makes of a
rejection. -/
inductive Answer where
  | ok
  | journal (state : JournalState) (error : Option ErrorCode)
  | error (code : ErrorCode)
  deriving DecidableEq

namespace Host

/-- The wake has a journal: `slot.durableConversation ? this.#durability : undefined`. -/
def journaled (h : Host) (w : WakeId) : Bool :=
  h.durable && (h.slot (h.wakeOf w).slot).durableConversation

/-- `#prepareWake` after `beginRequest`. -/
def prepareWake (h : Host) (w : WakeId) : Answer → Host
  | .error code => h.releaseReservation w (some code)
  | .journal .completed _ => h.releaseReservation w none
  | .journal .failed error => h.releaseReservation w (some (error.getD .requestFailed))
  | .journal .accepted _ | .journal .indeterminate _ =>
    h.releaseReservation w (some .requestIndeterminate)
  | .journal .queued _ | .ok =>
    if (h.slot (h.wakeOf w).slot).state = .failed then h.goto w .refuse else h.linkTurn w

/-! ## The turn -/

/-- `#syncCatalogState`: a write of the catalog that fails is only logged. -/
def syncCatalogState (h : Host) (i : SlotId) (answer : Answer) : Host :=
  match answer, h.catalog.get? (h.slot i).sessionId with
  | .ok, some record =>
    if record.generation = (h.slot i).generation then
      let next := { record with revision := record.revision + 1 }
      { h with
        catalog := h.catalog.set (h.slot i).sessionId next
        catalogRecords := h.catalogRecords.set (h.slot i).sessionId next }
    else h
  | _, _ => h

/-- `release?.()`, and `#runWake` settles. -/
def returnTurn (h : Host) (w : WakeId) (error : Option ErrorCode) : Host :=
  let h' := h.setWake w (Wake.returned error)
  if (h.wakeOf w).permit then h'.release else h'

/-- The `finally` block of `#runWake`. -/
def endTurn (h : Host) (w : WakeId) (error : Option ErrorCode) : Host :=
  (h.setSlot (h.wakeOf w).slot fun s => { s with activeAbort := none }).returnTurn w error

/-- The `catch` block of `#runWake` after `markFailed`. -/
def failTurn (h : Host) (w : WakeId) (code : ErrorCode) : Host :=
  (h.setSlot (h.wakeOf w).slot fun s =>
    { s with state := if code = .aborted then .idle else .failed, lastUsedAt := h.clock }).goto w
    (.syncFailed code)

/-- The `catch` block of `#runWake`. -/
def catchTurn (h : Host) (w : WakeId) (code : ErrorCode) : Host :=
  if h.journaled w ∧ code ≠ .durabilityCompletionFailed then h.goto w (.markFailed code)
  else h.failTurn w code

def runWake (h : Host) (w : WakeId) : Host :=
  let x := h.wakeOf w
  if h.sessions.get? (h.slot x.slot).sessionId ≠ some x.slot ∨
      (h.slot x.slot).generation ≠ x.generation then
    h.setWake w (Wake.returned (some .staleGeneration))
  else (h.setSlot x.slot fun s => { s with activeAbort := some w }).acquire w

/-- After `markAccepted`, or after `acquire` without a journal. -/
def turnRunning (h : Host) (w : WakeId) : Host :=
  (h.setSlot (h.wakeOf w).slot fun s => { s with state := .running, lastUsedAt := h.clock }).goto w
    .syncRunning

/-- The call of `adapter.prompt`. -/
def startPrompt (h : Host) (w : WakeId) : Host :=
  let slot := h.slot (h.wakeOf w).slot
  let started : PromptStart :=
    { wake := w, slot := (h.wakeOf w).slot, sessionId := slot.sessionId,
      idempotencyKey := (h.wakeOf w).idempotencyKey, disposing := slot.disposing }
  { h with prompts := h.prompts ++ [started] }.goto w .prompt

def turnIdle (h : Host) (w : WakeId) : Host :=
  (h.setSlot (h.wakeOf w).slot fun s => { s with state := .idle, lastUsedAt := h.clock }).goto w
    .syncIdle

/-- A turn whose predecessor has settled. -/
def turnSettled : WakePc → Bool
  | .returned | .settled | .untracked => true
  | _ => false

def turnReady (h : Host) (w : WakeId) : Bool :=
  match (h.wakeOf w).after with
  | none => true
  | some p => turnSettled (h.wakeOf p).pc

/-- No wake of the slot that was admitted before `w` awaits `beginRequest`. -/
def beginsNext (h : Host) (w : WakeId) : Bool :=
  (List.range w).all fun j =>
    !((h.wakeOf j).slot = (h.wakeOf w).slot && (h.wakeOf j).pc = .beginRequest)

/-- The `finally` of `wake`. -/
def untrack (h : Host) (w : WakeId) : Host :=
  (h.setSlot (h.wakeOf w).slot (SessionSlot.untrack (h.wakeOf w).idempotencyKey w)).goto w .untracked

/-- Continue the wake `w` with the answer of the call it awaits. -/
def resume (h : Host) (w : WakeId) (answer : Answer) : Option Host :=
  match (h.wakeOf w).pc with
  | .beginRequest =>
    -- `await durability?.beginRequest(command)` has an entry exactly with a journal
    if h.beginsNext w ∧ (answer = .ok ↔ h.journaled w = false) then some (h.prepareWake w answer)
    else none
  | .refuse => some (h.releaseReservation w (some .sessionFailed))
  | .turnTail => if h.turnReady w then some (h.runWake w) else none
  | .acquire => none
  | .acquired => some (if h.journaled w then h.goto w .markAccepted else h.turnRunning w)
  | .acquireAborted => some (h.catchTurn w .aborted)
  | .markAccepted =>
    match answer with
    | .error code => some (h.catchTurn w code)
    | _ => some (h.turnRunning w)
  | .syncRunning => some ((h.syncCatalogState (h.wakeOf w).slot answer).startPrompt w)
  | .prompt =>
    match answer with
    | .error code => some (h.catchTurn w code)
    | _ => some (if h.journaled w then h.goto w .markCompleted else h.turnIdle w)
  | .markCompleted =>
    match answer with
    | .error _ => some (h.catchTurn w .durabilityCompletionFailed)
    | _ => some (h.turnIdle w)
  | .syncIdle =>
    some (((h.syncCatalogState (h.wakeOf w).slot answer).setSlot (h.wakeOf w).slot fun s =>
      { s with lastErrorCode := none }).endTurn w none)
  | .markFailed code => some (h.failTurn w code)
  | .syncFailed code =>
    some (((h.syncCatalogState (h.wakeOf w).slot answer).setSlot (h.wakeOf w).slot fun s =>
      { s with lastErrorCode := some code }).endTurn w (some code))
  | .returned => some (h.releaseReservation w (h.wakeOf w).error)
  | .settled => some (h.untrack w)
  | .untracked => none

/-! ## Abort, drain and controls -/

/-- `abort`: whether there was a turn to abort. -/
def abort (h : Host) (sessionId : SessionId) (generation : Nat) : Except ErrorCode (Host × Bool) := do
  let i ← h.requireSession sessionId generation
  match (h.slot i).activeAbort with
  | none => .ok (h, false)
  | some w => .ok (h.abortWake w, true)

/-- `drain` after its timeout: every wake in flight of a resident session is aborted. -/
def abortTurns (h : Host) : Host :=
  (h.sessions.values.flatMap fun i => (h.slot i).inFlight.values).foldl
    (fun h e => if (h.wakeOf e.2).aborted then h else h.abortWake e.2) h

/-- `while (slot.controls.size > 256)`: the oldest entries are deleted. -/
def trimControls : Nat → OrderedMap IdempotencyKey Fingerprint → OrderedMap IdempotencyKey Fingerprint
  | 0, controls => controls
  | fuel + 1, controls =>
    if controls.size > 256 then
      match controls.keys with
      | [] => controls
      | oldest :: _ => trimControls fuel (controls.delete oldest)
    else controls

def runEphemeralControl (h : Host) (sessionId : SessionId) (generation : Nat)
    (idempotencyKey : IdempotencyKey) (fingerprint : Fingerprint) : Except ErrorCode Host := do
  let i ← h.requireSession sessionId generation
  match (h.slot i).controls.get? idempotencyKey with
  | some existing => if existing ≠ fingerprint then .error .idempotencyConflict else .ok h
  | none =>
    if (h.slot i).state ≠ .running then .error .sessionNotRunning
    else .ok (h.setSlot i fun s =>
      let controls := s.controls.set idempotencyKey fingerprint
      { s with controls := trimControls controls.size controls })

end Host

/-! ## The machine -/

inductive TurnEvent where
  | wake (command : WakeCommand)
  | resume (w : WakeId) (answer : Answer)
  | abort (sessionId : SessionId) (generation : Nat)
  | beginDrain
  | drainTimeout
  | control (sessionId : SessionId) (generation : Nat) (idempotencyKey : IdempotencyKey)
      (fingerprint : Fingerprint)
  /-- The promise of a control resolves. -/
  | controlled (i : SlotId)
  | tick (elapsed : Nat)
  deriving DecidableEq

/-- A call that throws leaves the host as it was. -/
def turnStep (h : Host) : TurnEvent → Option Host
  | .wake command =>
    match h.wake command with
    | .ok (h', _) => some h'
    | .error _ => some h
  | .resume w answer => if w < h.wakes.next then h.resume w answer else none
  | .abort sessionId generation =>
    match h.abort sessionId generation with
    | .ok (h', _) => some h'
    | .error _ => some h
  | .beginDrain => some { h with draining := true }
  | .drainTimeout => if h.draining then some h.abortTurns else none
  | .control sessionId generation idempotencyKey fingerprint =>
    match h.runEphemeralControl sessionId generation idempotencyKey fingerprint with
    | .ok h' => some h'
    | .error _ => some h
  | .controlled i => some (h.setSlot i fun s => { s with lastUsedAt := h.clock })
  | .tick elapsed => some { h with clock := h.clock + elapsed }

end PiDaemon.Multiplexer
