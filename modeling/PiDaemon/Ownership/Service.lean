import PiDaemon.Lib.Runs
import PiDaemon.Lib.Routines
import PiDaemon.Ownership.Store

/-!
# The ownership service

The operations of `SessionOwnershipService` as tasks that work on one store, on the runtime's
sessions and on the tickets in flight.  An operation is suspended wherever it awaits the store,
the runtime, the inventory or a file; the environment decides what the calls outside the store
are answered with.

Three things are kept for the statements only: an inspection has a number, a save says which
copy of the record it was made from, and an activation leaves at its ticket what it is about to
open.
-/

namespace PiDaemon.Ownership

open Lib FileSessionOwnershipStore

/-! ## Errors -/

structure SessionOwnershipError where
  code : String
  message : String
  retryable : Bool
  deriving DecidableEq

/-- What an operation may throw; `other` is not an error of the service, its store or the
multiplexer. -/
inductive Failure where
  | service (error : SessionOwnershipError)
  | store (error : SessionOwnershipStoreError)
  | multiplexer (error : ApiErrorBody)
  | other
  deriving DecidableEq

def safeOwnershipError : Failure → ApiErrorBody
  | .service error => ⟨error.code, error.message, error.retryable⟩
  | .store error => ⟨error.code, error.message, error.retryable⟩
  | .multiplexer error => error
  | .other => ⟨"ownership_operation_failed", "session ownership operation failed", false⟩

namespace SessionOwnershipError

def sourceChanged : SessionOwnershipError :=
  ⟨"external_write_conflict",
    "direct session source changed outside the managed write boundary", true⟩

def historyDiverged : SessionOwnershipError :=
  ⟨"managed_history_diverged",
    "managed session no longer extends the recorded ownership base", false⟩

def leaseMismatch : SessionOwnershipError :=
  ⟨"ownership_lease_mismatch", "ownership lease is stale or inactive", false⟩

def releaseController : SessionOwnershipError :=
  ⟨"controller_active", "cannot release a session while a controller is attached", true⟩

def releaseBusy : SessionOwnershipError :=
  ⟨"session_busy", "cannot release a session while a mutation is active", true⟩

def inventoryNotFound : SessionOwnershipError :=
  ⟨"inventory_not_found", "inventory item does not exist", false⟩

def nothingToReuse : SessionOwnershipError :=
  ⟨"ownership_mapping_not_found", "inventory item has no managed session to reuse", false⟩

def confirmationRequired : SessionOwnershipError :=
  ⟨"direct_confirmation_required",
    "direct co-opt requires policyRef=direct-co-opt-confirmed-v1", false⟩

def activationFingerprint : SessionOwnershipError :=
  ⟨"source_fingerprint_required",
    "direct and fork activation require the preview source fingerprint", false⟩

def sourceBusy : SessionOwnershipError :=
  ⟨"session_busy", "inventory source is already controlled or mutating in a managed session", true⟩

def sourceUnavailable : SessionOwnershipError :=
  ⟨"inventory_source_unavailable", "inventory item has no activatable source file", false⟩

def previewChanged : SessionOwnershipError :=
  ⟨"source_fingerprint_changed", "session source changed since inventory preview", true⟩

def sourceOwned : SessionOwnershipError :=
  ⟨"source_already_owned", "source session is already owned by another managed session", true⟩

def sourceWriter : SessionOwnershipError :=
  ⟨"source_writer_active",
    "another process appears to have the source session open for writing", true⟩

def notPersisted : SessionOwnershipError :=
  ⟨"managed_session_not_persisted",
    "ownership activation did not create a persistent Pi session", false⟩

def notActive : SessionOwnershipError :=
  ⟨"ownership_not_active", "only an active managed session can be exported", false⟩

def exportController : SessionOwnershipError :=
  ⟨"controller_active", "cannot export while a controller is attached", true⟩

def exportBusy : SessionOwnershipError :=
  ⟨"session_busy", "cannot export while a mutation is active", true⟩

def exportFingerprint : SessionOwnershipError :=
  ⟨"source_fingerprint_required", "export requires the managed source fingerprint", false⟩

def exportChanged : SessionOwnershipError :=
  ⟨"source_fingerprint_changed", "managed session changed since export request", true⟩

def exportMissing : SessionOwnershipError :=
  ⟨"export_inventory_missing", "exported session was not indexed after publication", true⟩

def appendUnavailable : SessionOwnershipError :=
  ⟨"append_origin_unavailable", "append-to-origin is only valid for imported sessions", false⟩

def originWriter : SessionOwnershipError :=
  ⟨"source_writer_active", "another process appears to have the origin open for writing", true⟩

def originChanged : SessionOwnershipError :=
  ⟨"external_write_conflict", "origin changed since import; export as a new sibling instead", true⟩

def prefixDiverged : SessionOwnershipError :=
  ⟨"managed_history_diverged",
    "managed history does not preserve the exact imported origin prefix", false⟩

def deltaDiverged : SessionOwnershipError :=
  ⟨"managed_history_diverged", "managed delta is not a linear continuation of the origin", false⟩

def originRaced : SessionOwnershipError :=
  ⟨"external_write_conflict", "origin changed during export admission", true⟩

def mappingNotFound : SessionOwnershipError :=
  ⟨"ownership_mapping_not_found", "session ownership mapping does not exist", false⟩

end SessionOwnershipError

/-! ## Session files -/

/-- An entry with its canonical JSON. -/
structure SessionEntry where
  id : JsString
  parentId : Option JsString
  json : JsString
  deriving DecidableEq

structure InspectedSessionFile where
  canonicalPath : JsString
  headerId : JsString
  headerCwd : JsString
  entries : List SessionEntry
  version : SessionOwnershipSourceVersion

def sameSourceVersion (left right : SessionOwnershipSourceVersion) : Bool :=
  left.canonicalPath = right.canonicalPath && left.value = right.value &&
    left.sizeBytes = right.sizeBytes && left.modifiedAt = right.modifiedAt &&
    left.device = right.device && left.inode = right.inode

def entryIdsHavePrefix (entries : List SessionEntry) (ids : List JsString) : Bool :=
  ids.isPrefixOf (entries.map (·.id))

def entriesEqualPrefix (managed origin : List SessionEntry) : Bool :=
  (origin.map (·.json)).isPrefixOf (managed.map (·.json))

def entriesFormContinuation : List SessionEntry → Option JsString → Bool
  | [], _ => true
  | entry :: entries, expected =>
    entry.parentId = expected && entriesFormContinuation entries (some entry.id)

def dirname (path : JsString) : JsString :=
  match path.reverse.dropWhile (· ≠ 0x2f) with
  | [] => text "."
  | [_] => text "/"
  | _ :: directory => directory.reverse

/-- A part of what an inspection has read. -/
def Seen.map {α β : Type} (seen : Seen α) (f : α → β) : Seen β := ⟨f seen.value, seen.inspection⟩

def entryIds (file : Seen InspectedSessionFile) : Seen (List JsString) :=
  file.map fun file => file.entries.map (·.id)

/-! ## Calls -/

structure SessionInfo where
  cwd : JsString
  sourcePath : Option JsString
  managed : Option (JsString × Nat)

inductive SessionWriterObservation where
  | none
  | self
  | other
  | unknown
  deriving DecidableEq

/-- The mode in which an activation opens a session. -/
inductive OpenMode where
  | direct
  | fork
  deriving DecidableEq

structure SessionOwnershipRuntimeOpenInput where
  sessionId : JsString
  generation : Nat
  requestId : JsString
  mode : OpenMode
  /-- The canonical source path. -/
  sourcePath : JsString
  sessionDir : JsString
  name : Option JsString

structure SessionOwnershipRuntimeOpenResult where
  generation : Nat
  sessionFile : Option JsString

/-- Calls that the environment answers and that change nothing of the model's state. -/
inductive Query where
  | now
  | hasController (sessionId : JsString)
  | isMutationActive (sessionId : JsString)
  | getInfo (inventoryId : JsString)
  | reconcile
  | markActive (inventoryId : JsString) (time : Int)
  | inventoryIdForPiSession (piSessionId : JsString)
  | assertSourceRoot (path : JsString)
  | assertCwd (path : JsString)
  | writerProbe (path : JsString)
  | sessionDirForManagedSession (cwd managedSessionId : JsString)
  | piSessionDirForCwd (cwd : JsString)
  /-- The name in the supplied spec. -/
  | runtimeSpec (inventoryId : JsString) (mode : OpenMode) (managedSessionId sessionDir : JsString)
  | chmod (path : JsString)
  | assertPathAbsent (path : JsString)
  | atomicWritePrivateBytes (path headerId headerCwd : JsString) (entries : List SessionEntry)
  /-- The ticket of another call for the same ticket. -/
  | inFlight (scope : JsString)

abbrev Query.Answer : Query → Type
  | now => Int
  | hasController _ => Bool
  | isMutationActive _ => Bool
  | getInfo _ => Option SessionInfo
  | inventoryIdForPiSession _ => Option JsString
  | writerProbe _ => SessionWriterObservation
  | sessionDirForManagedSession _ _ => JsString
  | piSessionDirForCwd _ => JsString
  | runtimeSpec _ _ _ _ => Option JsString
  | inFlight _ => OwnershipTicketRecord
  | _ => Unit

/-- What a saved record was made from: a copy that was read before, or the activation of a
ticket. -/
inductive SaveOrigin where
  | copy (read : SessionOwnershipRecord)
  | activation (scope : JsString)

inductive Call where
  | query (query : Query)
  | getByManagedSession (sessionId : JsString)
  | getByInventory (inventoryId : JsString)
  | list
  | assertNoCompetingOwner (scope inventoryId sourcePath : JsString) (mode : OpenMode)
  | save (origin : SaveOrigin) (record : SessionOwnershipRecord)
  | begin (target : JsString) (request : TicketRequest)
  | transition (scope : JsString) (state : DashboardTicketState) (result : Option TicketResult)
      (error : Option ApiErrorBody)
  /-- `#inFlight.get` and `#inFlight.set`; is the ticket not in flight yet? -/
  | enter (scope : JsString)
  /-- `#inFlight.delete` -/
  | leave (scope : JsString)
  | inspectSessionFile (path : JsString)
  | open (scope : JsString) (input : SessionOwnershipRuntimeOpenInput)
  | close (sessionId : JsString) (generation : Nat)

abbrev Call.Answer : Call → Type
  | query q => Except Failure q.Answer
  | getByManagedSession _ => Option SessionOwnershipRecord
  | getByInventory _ => Option SessionOwnershipRecord
  | list => List SessionOwnershipRecord
  | assertNoCompetingOwner _ _ _ _ => Except Failure Unit
  | save _ _ => Except Failure SessionOwnershipRecord
  | begin _ _ => Except Failure OwnershipTicketRecord
  | transition _ _ _ _ => Except Failure OwnershipTicketRecord
  | enter _ => Bool
  | leave _ => Unit
  | inspectSessionFile _ => Except Failure (Seen InspectedSessionFile)
  | .open _ _ => Except Failure SessionOwnershipRuntimeOpenResult
  | close _ _ => Except Failure Unit

/-! ## The world -/

/-- A session of the runtime, and the file that a direct one writes to. -/
structure RuntimeSession where
  mode : OpenMode
  sourcePath : JsString
  deriving DecidableEq

/-- An activation that has found no competing owner: what it opens, and the session once it has
opened it. -/
structure Opening where
  inventoryId : JsString
  sourcePath : JsString
  mode : OpenMode
  opened : Option JsString
  deriving DecidableEq

structure InFlight where
  task : Nat
  opening : Option Opening
  deriving DecidableEq

structure World where
  store : FileSessionOwnershipStore
  inFlight : OrderedMap JsString InFlight
  sessions : OrderedMap JsString RuntimeSession
  /-- The number of the next inspection. -/
  inspections : Nat

/-- What a call outside the model is answered with.  A runtime call that fails may have taken
effect before. -/
structure Environment where
  query : (q : Query) → Except Failure q.Answer
  inspect : JsString → Except Failure InspectedSessionFile
  opens : SessionOwnershipRuntimeOpenInput →
    Except (Bool × Failure) SessionOwnershipRuntimeOpenResult
  closes : JsString → Nat → Except (Bool × Failure) Unit
  /-- Writing the state file. -/
  write : Except Failure Unit
  /-- The tickets that are pruned. -/
  pruned : List JsString

namespace World

def setOpening (world : World) (scope : JsString) (opening : Option Opening) : World :=
  match world.inFlight.get? scope with
  | some flight =>
    { world with inFlight := world.inFlight.set scope { flight with opening := opening } }
  | none => world

/-- An activation that has saved its record is past its opening. -/
def saved (world : World) (origin : SaveOrigin) (store : FileSessionOwnershipStore) : World :=
  match origin with
  | .copy _ => { world with store }
  | .activation scope => { world with store }.setOpening scope none

/-- A session that is open already stays as it is. -/
def openSession (world : World) (scope : JsString) (input : SessionOwnershipRuntimeOpenInput) :
    World :=
  let opened :=
    if world.sessions.has input.sessionId then world
    else
      { world with
        sessions := world.sessions.set input.sessionId ⟨input.mode, input.sourcePath⟩ }
  match world.inFlight.get? scope with
  | some ⟨_, some opening⟩ =>
    opened.setOpening scope (some { opening with opened := some input.sessionId })
  | _ => opened

section
variable (world : World)

section
variable (scope : JsString)

@[simp] theorem setOpening_store (opening : Option Opening) :
    (world.setOpening scope opening).store = world.store := by
  rw [setOpening]
  split <;> rfl

@[simp] theorem setOpening_inspections (opening : Option Opening) :
    (world.setOpening scope opening).inspections = world.inspections := by
  rw [setOpening]
  split <;> rfl

@[simp] theorem saved_store (origin : SaveOrigin) (store : FileSessionOwnershipStore) :
    (world.saved origin store).store = store := by
  cases origin <;> simp [saved]

@[simp] theorem saved_inspections (origin : SaveOrigin) (store : FileSessionOwnershipStore) :
    (world.saved origin store).inspections = world.inspections := by
  cases origin <;> simp [saved]

@[simp] theorem openSession_store (input : SessionOwnershipRuntimeOpenInput) :
    (world.openSession scope input).store = world.store := by
  simp only [openSession]
  split <;> split <;> simp

@[simp] theorem openSession_inspections (input : SessionOwnershipRuntimeOpenInput) :
    (world.openSession scope input).inspections = world.inspections := by
  simp only [openSession]
  split <;> split <;> simp

end

end

def competes (inventoryId sourcePath : JsString) (record : SessionOwnershipRecord) : Bool :=
  record.status = .active && record.inventoryId ≠ inventoryId &&
    record.source.value.canonicalPath = sourcePath

def scan (world : World) (scope inventoryId sourcePath : JsString) (mode : OpenMode) :
    World × Except Failure Unit :=
  if world.store.list.any (competes inventoryId sourcePath) then
    (world, .error (.service .sourceOwned))
  else (world.setOpening scope (some ⟨inventoryId, sourcePath, mode, none⟩), .ok ())

/-- The record is in memory also when the file cannot be written. -/
def saveRecord (limits : OwnershipStoreLimits) (world : World) (write : Except Failure Unit)
    (origin : SaveOrigin) (record : SessionOwnershipRecord) :
    World × Except Failure SessionOwnershipRecord :=
  match world.store.save limits record with
  | .error error => (world, .error (.store error))
  | .ok store => (world.saved origin store, write.map fun _ => record)

/-- A change of the tickets. -/
def changeTicket (world : World) (write : Except Failure Unit)
    (changed : Except SessionOwnershipStoreError
      (FileSessionOwnershipStore × OwnershipTicketRecord)) :
    World × Except Failure OwnershipTicketRecord :=
  match changed with
  | .error error => (world, .error (.store error))
  | .ok (store, ticket) => ({ world with store }, write.map fun _ => ticket)

def enter (world : World) (task : Nat) (scope : JsString) : World × Bool :=
  if world.inFlight.has scope then (world, false)
  else ({ world with inFlight := world.inFlight.set scope ⟨task, none⟩ }, true)

/-- A call that takes effect, or fails before or after its effect. -/
def attempt {X : Type} (world effect : World) (result : Except (Bool × Failure) X) :
    World × Except Failure X :=
  match result with
  | .ok x => (effect, .ok x)
  | .error (taken, error) => (if taken then effect else world, .error error)

/-- How a call is answered. -/
def answer (limits : OwnershipStoreLimits) (world : World) (task : Nat)
    (environment : Environment) : (call : Call) → World × call.Answer
  | .query q => (world, environment.query q)
  | .getByManagedSession sessionId => (world, world.store.getByManagedSession sessionId)
  | .getByInventory inventoryId => (world, world.store.getByInventory inventoryId)
  | .list => (world, world.store.list)
  | .assertNoCompetingOwner scope inventoryId sourcePath mode =>
    world.scan scope inventoryId sourcePath mode
  | .save origin record => world.saveRecord limits environment.write origin record
  | .begin target request =>
    world.changeTicket environment.write
      (world.store.beginTicket limits environment.pruned target request)
  | .transition scope state result error =>
    world.changeTicket environment.write (world.store.transition scope state result error)
  | .enter scope => world.enter task scope
  | .leave scope => ({ world with inFlight := world.inFlight.delete scope }, ())
  | .inspectSessionFile path =>
    ({ world with inspections := world.inspections + 1 },
      (environment.inspect path).map fun file => ⟨file, world.inspections⟩)
  | .open scope input => world.attempt (world.openSession scope input) (environment.opens input)
  | .close sessionId generation =>
    world.attempt { world with sessions := world.sessions.delete sessionId }
      (environment.closes sessionId generation)

/-! ### What a call changes -/

variable {limits : OwnershipStoreLimits} {world world' : World} {task : Nat}
  {environment : Environment}

theorem saveRecord_cases (write : Except Failure Unit) (origin : SaveOrigin)
    (record : SessionOwnershipRecord) :
    (∃ store, world.store.save limits record = .ok store ∧
        (world.saveRecord limits write origin record).1 = world.saved origin store) ∨
      (∃ error, world.store.save limits record = .error error) ∧
        (world.saveRecord limits write origin record).1 = world := by
  rw [saveRecord]
  cases hsave : world.store.save limits record with
  | error error => exact .inr ⟨⟨error, rfl⟩, rfl⟩
  | ok store => exact .inl ⟨store, rfl, rfl⟩

theorem attempt_cases {X : Type} (effect : World) (result : Except (Bool × Failure) X) :
    (world.attempt effect result).1 = effect ∨
      (world.attempt effect result).1 = world ∧
        ∃ error, result = .error (false, error) ∧ (world.attempt effect result).2 = .error error := by
  rcases result with ⟨taken, error⟩ | _
  · cases taken with
    | false => exact .inr ⟨rfl, error, rfl, rfl⟩
    | true => exact .inl rfl
  · exact .inl rfl

theorem records_of_changeTicket (write : Except Failure Unit)
    {changed : Except SessionOwnershipStoreError
      (FileSessionOwnershipStore × OwnershipTicketRecord)}
    (h : ∀ store ticket, changed = .ok (store, ticket) →
      store.recordsByInventory = world.store.recordsByInventory ∧
        store.recordsBySession = world.store.recordsBySession) :
    (world.changeTicket write changed).1.store.recordsByInventory =
        world.store.recordsByInventory ∧
      (world.changeTicket write changed).1.store.recordsBySession =
        world.store.recordsBySession := by
  rcases changed with _ | ⟨store, ticket⟩
  · exact ⟨rfl, rfl⟩
  · exact h store ticket rfl

/-- Only a save that is not refused changes the records. -/
theorem records_of_answer (call : Call) :
    (∃ origin record store, call = .save origin record ∧
        world.store.save limits record = .ok store ∧
        (world.answer limits task environment call).1 = world.saved origin store) ∨
      (world.answer limits task environment call).1.store.recordsByInventory =
          world.store.recordsByInventory ∧
        (world.answer limits task environment call).1.store.recordsBySession =
          world.store.recordsBySession := by
  by_cases hsave : ∃ origin record, call = .save origin record
  · obtain ⟨origin, record, rfl⟩ := hsave
    rw [answer]
    rcases saveRecord_cases environment.write origin record with ⟨store, hstore, h⟩ | ⟨-, h⟩
    · exact .inl ⟨origin, record, store, rfl, hstore, h⟩
    · rw [h]
      exact .inr ⟨rfl, rfl⟩
  right
  cases call with
  | save origin record => exact absurd ⟨origin, record, rfl⟩ hsave
  | query | getByManagedSession | getByInventory | list | leave | inspectSessionFile =>
    exact ⟨rfl, rfl⟩
  | assertNoCompetingOwner =>
    rw [answer, scan]
    split <;> simp
  | begin =>
    exact records_of_changeTicket _ fun store ticket h =>
      records_of_beginTicket h
  | transition =>
    exact records_of_changeTicket _ fun store ticket h =>
      records_of_transition h
  | enter =>
    rw [answer, enter]
    split <;> exact ⟨rfl, rfl⟩
  | «open» scope input =>
    rw [answer]
    rcases attempt_cases (world.openSession scope input) (environment.opens input) with h | ⟨h, -⟩
    · rw [h]
      simp
    · rw [h]
      exact ⟨rfl, rfl⟩
  | close sessionId generation =>
    rw [answer]
    rcases attempt_cases { world with sessions := world.sessions.delete sessionId }
      (environment.closes sessionId generation) with h | ⟨h, -⟩
    · rw [h]
      exact ⟨rfl, rfl⟩
    · rw [h]
      exact ⟨rfl, rfl⟩

/-- Inspections are only added. -/
theorem inspections_of_answer (call : Call) :
    world.inspections ≤ (world.answer limits task environment call).1.inspections := by
  cases call with
  | query | getByManagedSession | getByInventory | list | leave => exact Nat.le_refl _
  | assertNoCompetingOwner =>
    rw [answer, scan]
    split <;> simp
  | save origin record =>
    rw [answer]
    rcases saveRecord_cases environment.write origin record with ⟨store, -, h⟩ | ⟨-, h⟩
    · rw [h]
      simp
    · exact Nat.le_of_eq (congrArg World.inspections h).symm
  | begin target request =>
    rw [answer]
    rcases world.store.beginTicket limits environment.pruned target request with failure | ⟨_, _⟩
    · exact Nat.le_refl _
    · exact Nat.le_refl _
  | transition scope state result error =>
    rw [answer]
    rcases world.store.transition scope state result error with failure | ⟨_, _⟩
    · exact Nat.le_refl _
    · exact Nat.le_refl _
  | enter =>
    rw [answer, enter]
    split <;> exact Nat.le_refl _
  | inspectSessionFile => exact Nat.le_succ _
  | «open» scope input =>
    rw [answer]
    rcases attempt_cases (world.openSession scope input) (environment.opens input) with h | ⟨h, -⟩
    · rw [h]
      simp
    · exact Nat.le_of_eq (congrArg World.inspections h).symm
  | close sessionId generation =>
    rcases attempt_cases { world with sessions := world.sessions.delete sessionId }
      (environment.closes sessionId generation) with h | ⟨h, -⟩
    · exact Nat.le_of_eq (congrArg World.inspections h).symm
    · exact Nat.le_of_eq (congrArg World.inspections h).symm

end World

/-! ## Operations -/

abbrev Operation (X : Type) := Routine Call Call.Answer Failure X



def ask (q : Query) : Operation q.Answer := Routine.perform (Call.query q) >>= Routine.ofExcept

def getByManagedSession (sessionId : JsString) : Operation (Option SessionOwnershipRecord) :=
  Routine.perform (Call.getByManagedSession sessionId)

def getByInventory (inventoryId : JsString) : Operation (Option SessionOwnershipRecord) :=
  Routine.perform (Call.getByInventory inventoryId)

def listRecords : Operation (List SessionOwnershipRecord) := Routine.perform Call.list

def assertNoCompetingOwner (scope inventoryId sourcePath : JsString) (mode : OpenMode) :
    Operation Unit :=
  Routine.perform (Call.assertNoCompetingOwner scope inventoryId sourcePath mode) >>=
    Routine.ofExcept

def save (origin : SaveOrigin) (record : SessionOwnershipRecord) :
    Operation SessionOwnershipRecord :=
  Routine.perform (Call.save origin record) >>= Routine.ofExcept

def beginTicket (target : JsString) (request : TicketRequest) : Operation OwnershipTicketRecord :=
  Routine.perform (Call.begin target request) >>= Routine.ofExcept

def transition (scope : JsString) (state : DashboardTicketState) (result : Option TicketResult)
    (error : Option ApiErrorBody) : Operation OwnershipTicketRecord :=
  Routine.perform (Call.transition scope state result error) >>= Routine.ofExcept

def enter (scope : JsString) : Operation Bool := Routine.perform (Call.enter scope)

def leave (scope : JsString) : Operation Unit := Routine.perform (Call.leave scope)

def inspectSessionFile (path : JsString) : Operation (Seen InspectedSessionFile) :=
  Routine.perform (Call.inspectSessionFile path) >>= Routine.ofExcept

def openSession (scope : JsString) (input : SessionOwnershipRuntimeOpenInput) :
    Operation SessionOwnershipRuntimeOpenResult :=
  Routine.perform (Call.open scope input) >>= Routine.ofExcept

def closeSession (sessionId : JsString) (generation : Nat) : Operation Unit :=
  Routine.perform (Call.close sessionId generation) >>= Routine.ofExcept

def fail {X : Type} (error : SessionOwnershipError) : Operation X := Routine.fail (.service error)

def failIf (p : Prop) [Decidable p] (error : SessionOwnershipError) : Operation Unit :=
  Routine.failIf p (.service error)

/-- The settings of a service; the identifier of a managed session is a digest, and a session
file is named after a time and an identifier. -/
structure SessionOwnershipService where
  leaseMs : Nat
  deterministicManagedSessionId : JsString → OpenMode → JsString → JsString
  sessionFilePath : JsString → Int → JsString → JsString

def requireMapping (sessionRef : JsString) : Operation SessionOwnershipRecord := do
  match ← getByManagedSession sessionRef with
  | some mapping => pure mapping
  | none =>
    match ← getByInventory sessionRef with
    | some mapping => pure mapping
    | none => fail .mappingNotFound

def markConflict (record : SessionOwnershipRecord) (code : String) : Operation Unit := do
  let detectedAt ← ask .now
  let updatedAt ← ask .now
  let _ ← save (.copy record)
    { record with status := .conflict, conflict := some ⟨code, detectedAt⟩, updatedAt := updatedAt }
  let _ ← (closeSession record.managedSessionId record.generation).attempt
  let _ ← (ask .reconcile).attempt
  pure ()

def beforeManagedWrite (sessionId : JsString) : Operation Unit := do
  match ← getByManagedSession sessionId with
  | none => pure ()
  | some mapping =>
    if mapping.status ≠ .active ∨ mapping.mode ≠ .direct then pure ()
    else do
      let current ← inspectSessionFile mapping.source.value.canonicalPath
      if sameSourceVersion current.value.version mapping.source.value then pure ()
      else do
        markConflict mapping "external_write_conflict"
        fail .sourceChanged

namespace SessionOwnershipService

variable (service : SessionOwnershipService)

def afterManagedWrite (sessionId : JsString) : Operation Unit := do
  match ← getByManagedSession sessionId with
  | none => pure ()
  | some mapping =>
    if mapping.status ≠ .active then pure ()
    else do
      let current ← inspectSessionFile mapping.managedPath
      if !entryIdsHavePrefix current.value.entries mapping.baseEntryIds.value then do
        markConflict mapping "managed_history_diverged"
        fail .historyDiverged
      else do
        let updatedAt ← ask .now
        let now ← ask .now
        let _ ← save (.copy mapping)
          { mapping with
            source := if mapping.mode = .direct then current.map (·.version) else mapping.source
            managedFingerprint := current.value.version.value
            baseEntryIds := entryIds current
            lease := { mapping.lease with expiresAt := now + service.leaseMs }
            updatedAt := updatedAt }
        pure ()

def renewLease (sessionRef leaseId : JsString) : Operation SessionOwnershipRecord := do
  let mapping ← requireMapping sessionRef
  if mapping.status ≠ .active ∨ mapping.lease.leaseId ≠ leaseId then
    fail .leaseMismatch
  else do
    let now ← ask .now
    let updatedAt ← ask .now
    save (.copy mapping)
      { mapping with
        lease := { mapping.lease with expiresAt := now + service.leaseMs }
        updatedAt := updatedAt }

end SessionOwnershipService

/-- The loop of `checkForExternalConflicts`. -/
def checkRecords : List SessionOwnershipRecord → List JsString → Operation (List JsString)
  | [], conflicted => pure conflicted
  | mapping :: rest, conflicted =>
    if mapping.status ≠ .active ∨ mapping.mode ≠ .direct then checkRecords rest conflicted
    else do
      match ← (beforeManagedWrite mapping.managedSessionId).attempt with
      | .ok _ => checkRecords rest conflicted
      | .error error =>
        if error = .service .sourceChanged then
          checkRecords rest (conflicted ++ [mapping.managedSessionId])
        else Routine.fail error

def checkForExternalConflicts : Operation (List JsString) := do
  let records ← listRecords
  checkRecords records []

def release (sessionRef : JsString) : Operation Unit := do
  let mapping ← requireMapping sessionRef
  let controller ← ask (.hasController mapping.managedSessionId)
  failIf (controller = true) .releaseController
  let busy ← ask (.isMutationActive mapping.managedSessionId)
  failIf (busy = true) .releaseBusy
  closeSession mapping.managedSessionId mapping.generation
  let updatedAt ← ask .now
  let _ ← save (.copy mapping) { mapping with status := .released, updatedAt := updatedAt }
  ask .reconcile

/-! ## Tickets -/

def runTicket (ticket : OwnershipTicketRecord) (operation : Operation OwnershipTicketRecord) :
    Operation OwnershipTicketRecord :=
  if ticket.state ≠ .queued then pure ticket
  else do
    if ← enter ticket.scope then do
      let result ← Routine.attempt do
        let _ ← transition ticket.scope .running none none
        operation.tryCatch fun error =>
          transition ticket.scope .failed none (some (safeOwnershipError error))
      leave ticket.scope
      Routine.ofExcept result
    else ask (.inFlight ticket.scope)

/-! ## Activations

The part of `#activate` that opens a session is cut into steps. -/

/-- The managed session of an inventory item is not in use. -/
def assertNotBusy : Option (JsString × Nat) → Operation Unit
  | none => pure ()
  | some managed => do
    let controller ← ask (.hasController managed.1)
    failIf (controller = true) .sourceBusy
    let busy ← ask (.isMutationActive managed.1)
    failIf (busy = true) .sourceBusy

/-- The checks of the source file, up to the writer probe. -/
def admitSource (ticket : OwnershipTicketRecord) (request : ActivationRequest) (mode : OpenMode)
    (info : SessionInfo) : Operation (Seen InspectedSessionFile) := do
  failIf (mode = .direct ∧ request.policyRef ≠ some (text "direct-co-opt-confirmed-v1"))
    .confirmationRequired
  failIf (request.expectedFingerprint = none) .activationFingerprint
  assertNotBusy info.managed
  match info.sourcePath with
  | none => fail .sourceUnavailable
  | some sourcePath =>
    ask (.assertSourceRoot sourcePath)
    ask (.assertCwd info.cwd)
    let source ← inspectSessionFile sourcePath
    failIf (request.expectedFingerprint ≠ some source.value.version.value) .previewChanged
    assertNoCompetingOwner ticket.scope ticket.target source.value.canonicalPath mode
    let writer ← ask (.writerProbe source.value.canonicalPath)
    failIf (writer = SessionWriterObservation.other) .sourceWriter
    pure source

def sessionDirectory (mode : OpenMode) (cwd managedSessionId canonicalPath : JsString) :
    Operation JsString :=
  match mode with
  | .direct => pure (dirname canonicalPath)
  | .fork => ask (.sessionDirForManagedSession cwd managedSessionId)

/-- The file of a fork is made private. -/
def protectFork (mode : OpenMode) (sessionFile : JsString) : Operation Unit :=
  match mode with
  | .direct => pure ()
  | .fork => ask (.chmod sessionFile)

/-- Opens the session and inspects its file. -/
def openSource (ticket : OwnershipTicketRecord) (request : ActivationRequest) (mode : OpenMode)
    (info : SessionInfo) (managedSessionId canonicalPath : JsString) :
    Operation (Nat × Seen InspectedSessionFile) := do
  let sessionDir ← sessionDirectory mode info.cwd managedSessionId canonicalPath
  let name ← ask (.runtimeSpec ticket.target mode managedSessionId sessionDir)
  let opened ← openSession ticket.scope
    { sessionId := managedSessionId
      generation := 1
      requestId := request.requestId
      mode := mode
      sourcePath := canonicalPath
      sessionDir := sessionDir
      name := request.desiredSessionName.or name }
  match opened.sessionFile with
  | none => fail .notPersisted
  | some sessionFile =>
    protectFork mode sessionFile
    let managed ← inspectSessionFile sessionFile
    pure (opened.generation, managed)

namespace SessionOwnershipService

variable (service : SessionOwnershipService)

/-- Saves the record of an opened session. -/
def recordActivation (ticket : OwnershipTicketRecord) (mode : OpenMode) (leaseId : JsString)
    (managedSessionId : JsString) (source : Seen InspectedSessionFile)
    (opened : Nat × Seen InspectedSessionFile) : Operation OwnershipTicketRecord := do
  let now ← ask .now
  let leaseNow ← ask .now
  let _ ← save (.activation ticket.scope)
    { inventoryId := ticket.target
      managedSessionId := managedSessionId
      generation := opened.1
      mode := if mode = .direct then .direct else .imported
      status := .active
      source := source.map (·.version)
      managedPath := opened.2.value.canonicalPath
      managedFingerprint := opened.2.value.version.value
      baseEntryIds := entryIds source
      lease := ⟨leaseId, now, leaseNow + service.leaseMs⟩
      exportedInventoryIds := []
      conflict := none
      createdAt := now
      updatedAt := now }
  ask .reconcile
  ask (.markActive ticket.target now)
  transition ticket.scope .succeeded (some (.activation (some (managedSessionId, opened.1)))) none

def openManaged (ticket : OwnershipTicketRecord) (request : ActivationRequest) (mode : OpenMode)
    (leaseId : JsString) (info : SessionInfo) : Operation OwnershipTicketRecord := do
  let source ← admitSource ticket request mode info
  let managedSessionId :=
    service.deterministicManagedSessionId ticket.target mode request.idempotencyKey
  let opened ← openSource ticket request mode info managedSessionId source.value.canonicalPath
  service.recordActivation ticket mode leaseId managedSessionId source opened

/-- The lease of an active record is renewed. -/
def renewActive : Option SessionOwnershipRecord → Operation Unit
  | none => pure ()
  | some mapping => do
    let _ ← service.renewLease mapping.managedSessionId mapping.lease.leaseId
    pure ()

def activate (ticket : OwnershipTicketRecord) (request : ActivationRequest) (leaseId : JsString) :
    Operation OwnershipTicketRecord :=
  match request.mode with
  | .previewOnly => transition ticket.scope .succeeded (some (.activation none)) none
  | .reuse => do
    match ← ask (.getInfo ticket.target) with
    | none => fail .inventoryNotFound
    | some info =>
      let existing ← getByInventory ticket.target
      let activeMapping := existing.filter (·.status = .active)
      match (activeMapping.map fun mapping => (mapping.managedSessionId, mapping.generation)).or
          info.managed with
      | none => fail .nothingToReuse
      | some managed =>
        service.renewActive activeMapping
        let now ← ask .now
        ask (.markActive ticket.target now)
        transition ticket.scope .succeeded (some (.activation (some managed))) none
  | .direct => do
    match ← ask (.getInfo ticket.target) with
    | none => fail .inventoryNotFound
    | some info =>
      let _ ← getByInventory ticket.target
      service.openManaged ticket request .direct leaseId info
  | .fork => do
    match ← ask (.getInfo ticket.target) with
    | none => fail .inventoryNotFound
    | some info =>
      let _ ← getByInventory ticket.target
      service.openManaged ticket request .fork leaseId info

def activateSession (inventoryId : JsString) (request : ActivationRequest) (leaseId : JsString) :
    Operation OwnershipTicketRecord := do
  let ticket ← beginTicket inventoryId (.activation request)
  runTicket ticket (service.activate ticket request leaseId)

/-! ## Exports -/

def exportAsNew (managed : Seen InspectedSessionFile) (sessionId : JsString) :
    Operation (Seen InspectedSessionFile) := do
  let targetDir ← ask (.piSessionDirForCwd managed.value.headerCwd)
  let timestamp ← ask .now
  let path := service.sessionFilePath targetDir timestamp sessionId
  ask (.assertPathAbsent path)
  ask (.atomicWritePrivateBytes path sessionId managed.value.headerCwd managed.value.entries)
  inspectSessionFile path

end SessionOwnershipService

def appendToOrigin (mapping : SessionOwnershipRecord) (managed : Seen InspectedSessionFile) :
    Operation (Seen InspectedSessionFile) := do
  failIf (mapping.mode ≠ .imported) .appendUnavailable
  let path := mapping.source.value.canonicalPath
  let writer ← ask (.writerProbe path)
  failIf (writer = SessionWriterObservation.other) .originWriter
  let origin ← inspectSessionFile path
  if !sameSourceVersion origin.value.version mapping.source.value then do
    markConflict mapping "external_write_conflict"
    fail .originChanged
  else do
    failIf (entriesEqualPrefix managed.value.entries origin.value.entries = false) .prefixDiverged
    let delta := managed.value.entries.drop origin.value.entries.length
    failIf (entriesFormContinuation delta (origin.value.entries.getLast?.map (·.id)) = false)
      .deltaDiverged
    let latest ← inspectSessionFile path
    if !sameSourceVersion latest.value.version mapping.source.value then do
      markConflict mapping "external_write_conflict"
      fail .originRaced
    else do
      ask (.atomicWritePrivateBytes path origin.value.headerId origin.value.headerCwd
        (origin.value.entries ++ delta))
      inspectSessionFile path

def saveExport (mapping : SessionOwnershipRecord) (mode : ExportMode)
    (managed : Seen InspectedSessionFile) (exports : List JsString) :
    Operation SessionOwnershipRecord :=
  match mode with
  | .asNew => do
    let updatedAt ← ask .now
    save (.copy mapping)
      { mapping with exportedInventoryIds := exports, updatedAt := updatedAt }
  | .appendToOrigin => do
    let origin ← inspectSessionFile mapping.source.value.canonicalPath
    let updatedAt ← ask .now
    save (.copy mapping)
      { mapping with
        exportedInventoryIds := exports
        source := origin.map (·.version)
        baseEntryIds := entryIds managed
        updatedAt := updatedAt }

def releaseAfter (request : SessionExportRequest) (sessionId : JsString) : Operation Unit :=
  if request.releaseAfterExport then release sessionId else pure ()

/-- The end of `#export`: the record, the release and the ticket. -/
def recordExport (ticket : OwnershipTicketRecord) (request : SessionExportRequest)
    (mapping : SessionOwnershipRecord) (managed : Seen InspectedSessionFile)
    (exported : JsString × Seen InspectedSessionFile) : Operation OwnershipTicketRecord := do
  let exports :=
    if mapping.exportedInventoryIds.contains exported.1 then mapping.exportedInventoryIds
    else mapping.exportedInventoryIds ++ [exported.1]
  let _ ← saveExport mapping request.mode managed exports
  releaseAfter request mapping.managedSessionId
  transition ticket.scope .succeeded
    (some (.export exported.1 exported.2.value.version.value)) none

namespace SessionOwnershipService

variable (service : SessionOwnershipService)

/-- What an export publishes: the inventory item and the file. -/
def publish (mapping : SessionOwnershipRecord) (mode : ExportMode)
    (managed : Seen InspectedSessionFile) (sessionId : JsString) :
    Operation (JsString × Seen InspectedSessionFile) :=
  match mode with
  | .asNew => do
    let exported ← service.exportAsNew managed sessionId
    ask .reconcile
    match ← ask (.inventoryIdForPiSession exported.value.headerId) with
    | none => fail .exportMissing
    | some inventoryId => pure (inventoryId, exported)
  | .appendToOrigin => do
    let exported ← appendToOrigin mapping managed
    ask .reconcile
    pure (mapping.inventoryId, exported)

/-- `#export` -/
def exportManaged (ticket : OwnershipTicketRecord) (request : SessionExportRequest)
    (sessionId : JsString) : Operation OwnershipTicketRecord := do
  let mapping ← requireMapping ticket.target
  failIf (mapping.status ≠ .active) .notActive
  let controller ← ask (.hasController mapping.managedSessionId)
  failIf (controller = true) .exportController
  let busy ← ask (.isMutationActive mapping.managedSessionId)
  failIf (busy = true) .exportBusy
  failIf (request.expectedSourceFingerprint = none) .exportFingerprint
  let managed ← inspectSessionFile mapping.managedPath
  failIf (request.expectedSourceFingerprint ≠ some managed.value.version.value) .exportChanged
  let exported ← service.publish mapping request.mode managed sessionId
  recordExport ticket request mapping managed exported

def exportSession (sessionRef : JsString) (request : SessionExportRequest)
    (sessionId : JsString) : Operation OwnershipTicketRecord := do
  let ticket ← beginTicket sessionRef (.export request)
  runTicket ticket (service.exportManaged ticket request sessionId)

end SessionOwnershipService

/-! ## Runs -/

/-- An operation that is called; `leaseId` and `fileId` are drawn at random. -/
inductive Start where
  | beforeManagedWrite (sessionId : JsString)
  | afterManagedWrite (sessionId : JsString)
  | renewLease (sessionRef leaseId : JsString)
  | release (sessionRef : JsString)
  | checkForExternalConflicts
  | activateSession (inventoryId : JsString) (request : ActivationRequest) (leaseId : JsString)
  | exportSession (sessionRef : JsString) (request : SessionExportRequest) (fileId : JsString)

/-- The operation without its result. -/
def Start.operation (service : SessionOwnershipService) : Start → Operation Unit
  | beforeManagedWrite sessionId => Ownership.beforeManagedWrite sessionId
  | afterManagedWrite sessionId => service.afterManagedWrite sessionId
  | renewLease sessionRef leaseId => do let _ ← service.renewLease sessionRef leaseId
  | release sessionRef => Ownership.release sessionRef
  | checkForExternalConflicts => do let _ ← Ownership.checkForExternalConflicts
  | activateSession inventoryId request leaseId => do
    let _ ← service.activateSession inventoryId request leaseId
  | exportSession sessionRef request fileId => do
    let _ ← service.exportSession sessionRef request fileId

inductive Event where
  | start (id : Nat) (start : Start)
  | answer (id : Nat) (environment : Environment)

abbrev State := Pool World Call Call.Answer Failure Unit

/-- No call waits. -/
def handler (limits : OwnershipStoreLimits) : Handler World Call Call.Answer Environment :=
  fun world id environment call => some (world.answer limits id environment call)

theorem handler_eq_some {limits : OwnershipStoreLimits} {world world' : World} {id : Nat}
    {environment : Environment} {call : Call} {result : call.Answer}
    (h : handler limits world id environment call = some (world', result)) :
    world' = (world.answer limits id environment call).1 ∧
      result = (world.answer limits id environment call).2 := by
  rw [handler, Option.some.injEq] at h
  exact ⟨congrArg Prod.fst h.symm, congrArg Prod.snd h.symm⟩

def step (service : SessionOwnershipService) (limits : OwnershipStoreLimits) (state : State) :
    Event → Option State
  | .start id start => state.spawn id (start.operation service)
  | .answer id environment => state.resume (handler limits) id environment

/-- The state of a service after `#load`: no operation is running and no session is open.  What
the records of the file hold has been read before. -/
structure Recovered (limits : OwnershipStoreLimits) (state : State) : Prop where
  loaded : ∃ records tickets,
    FileSessionOwnershipStore.load limits records tickets = .ok state.world.store ∧
      ∀ record ∈ records, record.source.inspection < state.world.inspections ∧
        record.baseEntryIds.inspection < state.world.inspections
  idle : state.routines = .empty
  inFlight : state.world.inFlight = .empty
  sessions : state.world.sessions = .empty

end PiDaemon.Ownership
