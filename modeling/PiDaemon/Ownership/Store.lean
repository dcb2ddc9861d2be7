import PiDaemon.Lib.Runs
import PiDaemon.Lib.JsString
import PiDaemon.Lib.OrderedMap

/-!
# The ownership store

The records and tickets that `FileSessionOwnershipStore` keeps in memory.  A record is stored
under its inventory item, and is found by its managed session through an index.

The source version and the base entries of a record have been read from files: each is `Seen`
with the number of the inspection that has read it.
-/

namespace PiDaemon.Ownership

open Lib OrderedMap

/-! ## Records -/

/-- What an inspection has read, and which inspection it was. -/
structure Seen (α : Type) where
  value : α
  inspection : Nat
  deriving DecidableEq

inductive SessionOwnershipMode where
  | direct
  | imported
  deriving DecidableEq

inductive SessionOwnershipStatus where
  | active
  | released
  | conflict
  deriving DecidableEq

structure SessionOwnershipSourceVersion where
  canonicalPath : JsString
  value : JsString
  sizeBytes : Nat
  modifiedAt : Int
  device : JsString
  inode : JsString
  entryCount : Nat
  lastEntryId : Option JsString
  deriving DecidableEq

/-- Times are in milliseconds. -/
structure SessionOwnershipLease where
  leaseId : JsString
  acquiredAt : Int
  expiresAt : Int
  deriving DecidableEq

structure OwnershipConflict where
  code : String
  detectedAt : Int
  deriving DecidableEq

structure SessionOwnershipRecord where
  inventoryId : JsString
  managedSessionId : JsString
  generation : Nat
  mode : SessionOwnershipMode
  status : SessionOwnershipStatus
  source : Seen SessionOwnershipSourceVersion
  managedPath : JsString
  managedFingerprint : JsString
  baseEntryIds : Seen (List JsString)
  lease : SessionOwnershipLease
  exportedInventoryIds : List JsString
  conflict : Option OwnershipConflict
  createdAt : Int
  updatedAt : Int
  deriving DecidableEq

/-- `resolve(value) === value` -/
def isAbsolutePath (value : JsString) : Bool :=
  value = text "/" ||
    match value.splitOn 0x2f with
    | [] :: segments =>
      segments ≠ [] && segments.all fun segment =>
        segment ≠ [] && segment ≠ text "." && segment ≠ text ".."
    | _ => false

def MAX_SAFE_INTEGER : Nat := 9007199254740991

/-- `validateOwnershipRecord` -/
@[irreducible] def SessionOwnershipRecord.isValid (record : SessionOwnershipRecord) : Bool :=
  record.inventoryId ≠ [] && record.managedSessionId ≠ [] &&
    record.generation ≤ MAX_SAFE_INTEGER && 1 ≤ record.generation &&
    isAbsolutePath record.source.value.canonicalPath &&
    record.source.value.sizeBytes ≤ MAX_SAFE_INTEGER &&
    record.source.value.entryCount ≤ MAX_SAFE_INTEGER &&
    isAbsolutePath record.managedPath &&
    record.baseEntryIds.value.Nodup && record.baseEntryIds.value.all (· ≠ []) &&
    record.exportedInventoryIds.Nodup && record.exportedInventoryIds.all (· ≠ [])

/-! ## Tickets -/

inductive ActivationMode where
  | reuse
  | direct
  | fork
  | previewOnly
  deriving DecidableEq

structure ActivationRequest where
  requestId : JsString
  idempotencyKey : JsString
  mode : ActivationMode
  expectedFingerprint : Option JsString
  policyRef : Option JsString
  desiredSessionName : Option JsString
  deriving DecidableEq

inductive ExportMode where
  | asNew
  | appendToOrigin
  deriving DecidableEq

structure SessionExportRequest where
  requestId : JsString
  idempotencyKey : JsString
  mode : ExportMode
  expectedSourceFingerprint : Option JsString
  releaseAfterExport : Bool
  deriving DecidableEq

inductive TicketRequest where
  | activation (request : ActivationRequest)
  | export (request : SessionExportRequest)
  deriving DecidableEq

namespace TicketRequest

def kind : TicketRequest → JsString
  | activation _ => text "activation"
  | .export _ => text "export"

def requestId : TicketRequest → JsString
  | activation request => request.requestId
  | .export request => request.requestId

def idempotencyKey : TicketRequest → JsString
  | activation request => request.idempotencyKey
  | .export request => request.idempotencyKey

end TicketRequest

inductive DashboardTicketState where
  | queued
  | running
  | succeeded
  | failed
  | indeterminate
  deriving DecidableEq

def DashboardTicketState.isTerminal : DashboardTicketState → Bool
  | queued => false
  | running => false
  | succeeded => true
  | failed => true
  | indeterminate => true

def allowedTicketTransition (source target : DashboardTicketState) : Bool :=
  if source = target then true
  else
    match source with
    | .queued => target = .running || target = .failed
    | .running => target = .succeeded || target = .failed || target = .indeterminate
    | _ => false

inductive TicketResult where
  | activation (managed : Option (JsString × Nat))
  | export (exportedInventoryId sourceFingerprint : JsString)
  deriving DecidableEq

structure ApiErrorBody where
  code : String
  message : String
  retryable : Bool
  deriving DecidableEq

/-- A ticket; its fingerprint is a digest of the target and the request. -/
structure OwnershipTicketRecord where
  target : JsString
  request : TicketRequest
  state : DashboardTicketState
  result : Option TicketResult
  error : Option ApiErrorBody
  deriving DecidableEq

/-- `ticketScope`; the identifier of a ticket is a digest of its scope. -/
def ticketScope (target : JsString) (request : TicketRequest) : JsString :=
  request.kind ++ text "\n" ++ target ++ text "\n" ++ request.idempotencyKey

def OwnershipTicketRecord.scope (ticket : OwnershipTicketRecord) : JsString :=
  ticketScope ticket.target ticket.request

/-! ## Errors -/

structure SessionOwnershipStoreError where
  code : String
  message : String
  retryable : Bool
  deriving DecidableEq

namespace SessionOwnershipStoreError

def corrupt : SessionOwnershipStoreError :=
  ⟨"corrupt_ownership_state", "ownership state is invalid", false⟩

def managedSessionOwned : SessionOwnershipStoreError :=
  ⟨"managed_session_already_owned",
    "managed session is already linked to another inventory item", false⟩

def recordCapacity : SessionOwnershipStoreError :=
  ⟨"ownership_capacity", "ownership record capacity reached", true⟩

def invalidTarget : SessionOwnershipStoreError :=
  ⟨"invalid_ownership_target", "ownership target is invalid", false⟩

def invalidRequestId : SessionOwnershipStoreError :=
  ⟨"invalid_request_id", "ownership request ID is invalid", false⟩

def invalidIdempotencyKey : SessionOwnershipStoreError :=
  ⟨"invalid_idempotency_key", "idempotency key is invalid", false⟩

def idempotencyConflict : SessionOwnershipStoreError :=
  ⟨"idempotency_conflict",
    "idempotency key was already used for another ownership operation", false⟩

def duplicateInventory : SessionOwnershipStoreError :=
  ⟨"corrupt_ownership_state", "duplicate inventory ownership record", false⟩

def duplicateSession : SessionOwnershipStoreError :=
  ⟨"corrupt_ownership_state", "duplicate managed session ownership record", false⟩

def ticketCapacity : SessionOwnershipStoreError :=
  ⟨"ownership_ticket_capacity", "ownership ticket capacity reached", true⟩

def ticketNotFound : SessionOwnershipStoreError :=
  ⟨"ownership_ticket_not_found", "ownership ticket does not exist", false⟩

def invalidTransition : SessionOwnershipStoreError :=
  ⟨"invalid_ownership_ticket_transition", "ownership ticket transition is invalid", false⟩

end SessionOwnershipStoreError

/-! ## The store -/

structure OwnershipStoreLimits where
  maxRecords : Nat
  maxTickets : Nat

structure FileSessionOwnershipStore where
  recordsByInventory : OrderedMap JsString SessionOwnershipRecord
  recordsBySession : OrderedMap JsString JsString
  /-- By scope. -/
  tickets : OrderedMap JsString OwnershipTicketRecord

namespace FileSessionOwnershipStore

def empty : FileSessionOwnershipStore := ⟨.empty, .empty, .empty⟩

def getByInventory (store : FileSessionOwnershipStore) (inventoryId : JsString) :
    Option SessionOwnershipRecord :=
  store.recordsByInventory.get? inventoryId

def getByManagedSession (store : FileSessionOwnershipStore) (sessionId : JsString) :
    Option SessionOwnershipRecord :=
  (store.recordsBySession.get? sessionId).bind store.recordsByInventory.get?

/-- `list`, up to the order. -/
def list (store : FileSessionOwnershipStore) : List SessionOwnershipRecord :=
  store.recordsByInventory.values

/-- The part of `save` before the file is written. -/
def save (limits : OwnershipStoreLimits) (store : FileSessionOwnershipStore)
    (record : SessionOwnershipRecord) :
    Except SessionOwnershipStoreError FileSessionOwnershipStore :=
  if !record.isValid then .error .corrupt
  else
    let current := store.recordsByInventory.get? record.inventoryId
    let sessionOwner := store.recordsBySession.get? record.managedSessionId
    if sessionOwner.any (· ≠ record.inventoryId) then .error .managedSessionOwned
    else if current.isNone && store.recordsByInventory.size ≥ limits.maxRecords then
      .error .recordCapacity
    else
      let bySession :=
        match current with
        | some current =>
          if current.managedSessionId ≠ record.managedSessionId then
            store.recordsBySession.delete current.managedSessionId
          else store.recordsBySession
        | none => store.recordsBySession
      .ok { store with
        recordsByInventory := store.recordsByInventory.set record.inventoryId record
        recordsBySession := bySession.set record.managedSessionId record.inventoryId }

/-- `validateTicketRequest` -/
def ticketRequestError (target : JsString) (request : TicketRequest) :
    Option SessionOwnershipStoreError :=
  if target.length = 0 ∨ target.length > 256 then some .invalidTarget
  else if request.requestId.length = 0 ∨ request.requestId.length > 128 then
    some .invalidRequestId
  else if request.idempotencyKey.length = 0 ∨ request.idempotencyKey.length > 512 then
    some .invalidIdempotencyKey
  else none

/-- The part of `#begin` before the file is written; `pruned` are the scopes that
`#pruneTickets` drops of the tickets that are terminal. -/
def beginTicket (limits : OwnershipStoreLimits) (store : FileSessionOwnershipStore)
    (pruned : List JsString) (target : JsString) (request : TicketRequest) :
    Except SessionOwnershipStoreError (FileSessionOwnershipStore × OwnershipTicketRecord) :=
  match ticketRequestError target request with
  | some error => .error error
  | none =>
    let scope := ticketScope target request
    match store.tickets.get? scope with
    | some existing =>
      if existing.target ≠ target ∨ existing.request ≠ request then .error .idempotencyConflict
      else .ok (store, existing)
    | none =>
      let tickets := pruned.foldl
        (fun tickets scope =>
          if (tickets.get? scope).any (·.state.isTerminal) then tickets.delete scope else tickets)
        store.tickets
      if tickets.size ≥ limits.maxTickets then .error .ticketCapacity
      else
        let ticket : OwnershipTicketRecord := ⟨target, request, .queued, none, none⟩
        .ok ({ store with tickets := tickets.set scope ticket }, ticket)

/-- The part of `#transition` before the file is written. -/
def transition (store : FileSessionOwnershipStore) (scope : JsString) (state : DashboardTicketState)
    (result : Option TicketResult) (error : Option ApiErrorBody) :
    Except SessionOwnershipStoreError (FileSessionOwnershipStore × OwnershipTicketRecord) :=
  match store.tickets.get? scope with
  | none => .error .ticketNotFound
  | some current =>
    if allowedTicketTransition current.state state then
      let next : OwnershipTicketRecord := { current with state, result, error }
      .ok ({ store with tickets := store.tickets.set scope next }, next)
    else .error .invalidTransition

/-! ## Loading -/

def registerRecord (store : FileSessionOwnershipStore) (record : SessionOwnershipRecord) :
    Except SessionOwnershipStoreError FileSessionOwnershipStore :=
  if store.recordsByInventory.has record.inventoryId then .error .duplicateInventory
  else if store.recordsBySession.has record.managedSessionId then .error .duplicateSession
  else
    .ok { store with
      recordsByInventory := store.recordsByInventory.set record.inventoryId record
      recordsBySession := store.recordsBySession.set record.managedSessionId record.inventoryId }

/-- `#load`: the records, and the tickets, of which the running ones are indeterminate now. -/
def load (limits : OwnershipStoreLimits) (records : List SessionOwnershipRecord)
    (tickets : List OwnershipTicketRecord) :
    Except SessionOwnershipStoreError FileSessionOwnershipStore :=
  if records.length > limits.maxRecords ∨ tickets.length > limits.maxTickets ∨
      records.any (!·.isValid) then .error .corrupt
  else do
    let store ← records.foldlM registerRecord empty
    let recovered := tickets.foldl
      (fun tickets ticket =>
        tickets.set ticket.scope
          { ticket with
            state := if ticket.state = .running then .indeterminate else ticket.state })
      store.tickets
    .ok { store with tickets := recovered }

/-! ## What the operations change -/

variable {limits : OwnershipStoreLimits} {store store' : FileSessionOwnershipStore}
  {record : SessionOwnershipRecord}

/-- What `save` checks. -/
structure Accepts (limits : OwnershipStoreLimits) (store : FileSessionOwnershipStore)
    (record : SessionOwnershipRecord) : Prop where
  valid : record.isValid = true
  owner : ∀ inventoryId, store.recordsBySession.get? record.managedSessionId = some inventoryId →
    inventoryId = record.inventoryId
  room : store.recordsByInventory.get? record.inventoryId = none →
    store.recordsByInventory.size < limits.maxRecords

/-- The store after a save; the index no longer finds the managed session that the record of the
same inventory item has had. -/
theorem save_eq_ok (h : store.save limits record = .ok store') :
    Accepts limits store record ∧ store'.tickets = store.tickets ∧
      store'.recordsByInventory = store.recordsByInventory.set record.inventoryId record ∧
      ∀ sessionId, store'.recordsBySession.get? sessionId =
        if record.managedSessionId = sessionId then some record.inventoryId
        else if ∃ current, store.recordsByInventory.get? record.inventoryId = some current ∧
            current.managedSessionId = sessionId then none
        else store.recordsBySession.get? sessionId := by
  rw [save] at h
  split at h
  · cases h
  rename_i hvalid
  simp only at h
  split at h
  · cases h
  rename_i howner
  split at h
  · cases h
  rename_i hroom
  cases h
  refine ⟨⟨by simpa using hvalid, ?_, ?_⟩, rfl, rfl, fun sessionId => ?_⟩
  · intro inventoryId hindex
    simpa [hindex] using howner
  · intro hnone
    simpa [hnone] using hroom
  · rw [get?_set]
    by_cases hown : record.managedSessionId = sessionId
    · rw [if_pos hown, if_pos hown]
    cases hcurrent : store.recordsByInventory.get? record.inventoryId with
    | none => simp
    | some current =>
      by_cases hsame : current.managedSessionId = record.managedSessionId
      · simp [hsame, hown]
      · simp [hsame, get?_delete]

theorem getByInventory_of_save (h : store.save limits record = .ok store')
    (inventoryId : JsString) :
    store'.getByInventory inventoryId =
      if record.inventoryId = inventoryId then some record
      else store.getByInventory inventoryId := by
  rw [getByInventory, (save_eq_ok h).2.2.1, get?_set]
  rfl

/-- Every stored record satisfies `p`. -/
def All (p : SessionOwnershipRecord → Prop) (store : FileSessionOwnershipStore) : Prop :=
  ∀ inventoryId record, store.getByInventory inventoryId = some record → p record

variable {p : SessionOwnershipRecord → Prop}

theorem All.registerRecord (hall : All p store) (hrecord : p record)
    (h : store.registerRecord record = .ok store') : All p store' := by
  intro inventoryId other hother
  rw [FileSessionOwnershipStore.registerRecord] at h
  split at h
  · cases h
  split at h
  · cases h
  cases h
  rw [getByInventory, get?_set] at hother
  split at hother
  · cases hother
    exact hrecord
  · exact hall inventoryId other hother

theorem All.foldlM_registerRecord {records : List SessionOwnershipRecord} (hall : All p store)
    (hrecords : ∀ record ∈ records, p record)
    (h : records.foldlM FileSessionOwnershipStore.registerRecord store = .ok store') :
    All p store' := by
  induction records generalizing store with
  | nil =>
    cases h
    exact hall
  | cons record records ih =>
    rw [List.forall_mem_cons] at hrecords
    rw [List.foldlM_cons] at h
    cases hfirst : store.registerRecord record with
    | error e =>
      rw [hfirst] at h
      cases h
    | ok next =>
      rw [hfirst] at h
      exact ih (hall.registerRecord hrecords.1 hfirst) hrecords.2 h

theorem all_of_load {records : List SessionOwnershipRecord} {tickets : List OwnershipTicketRecord}
    (hrecords : ∀ record ∈ records, p record) (h : load limits records tickets = .ok store) :
    All p store := by
  rw [load] at h
  split at h
  · cases h
  cases hloaded : records.foldlM FileSessionOwnershipStore.registerRecord
      FileSessionOwnershipStore.empty with
  | error e =>
    rw [hloaded] at h
    cases h
  | ok loaded =>
    rw [hloaded] at h
    cases h
    have hempty : All p FileSessionOwnershipStore.empty := by
      intro inventoryId record hrecord
      simp [getByInventory, FileSessionOwnershipStore.empty] at hrecord
    have hregistered : All p loaded := hempty.foldlM_registerRecord hrecords hloaded
    exact hregistered

theorem All.getByManagedSession (hall : All p store) {sessionId : JsString}
    (h : store.getByManagedSession sessionId = some record) : p record := by
  obtain ⟨inventoryId, -, hrecord⟩ := Option.bind_eq_some_iff.mp h
  exact hall inventoryId record hrecord

theorem records_of_beginTicket {pruned : List JsString} {target : JsString}
    {request : TicketRequest} {ticket : OwnershipTicketRecord}
    (h : store.beginTicket limits pruned target request = .ok (store', ticket)) :
    store'.recordsByInventory = store.recordsByInventory ∧
      store'.recordsBySession = store.recordsBySession := by
  rw [beginTicket] at h
  split at h
  · cases h
  simp only at h
  split at h
  · split at h
    · cases h
    · cases h
      exact ⟨rfl, rfl⟩
  · split at h
    · cases h
    · cases h
      exact ⟨rfl, rfl⟩

theorem records_of_transition {scope : JsString} {state : DashboardTicketState}
    {result : Option TicketResult} {error : Option ApiErrorBody} {ticket : OwnershipTicketRecord}
    (h : store.transition scope state result error = .ok (store', ticket)) :
    store'.recordsByInventory = store.recordsByInventory ∧
      store'.recordsBySession = store.recordsBySession := by
  rw [transition] at h
  split at h
  · cases h
  split at h
  · cases h
    exact ⟨rfl, rfl⟩
  · cases h

end FileSessionOwnershipStore

end PiDaemon.Ownership
