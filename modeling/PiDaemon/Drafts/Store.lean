import PiDaemon.Drafts.Resource
import PiDaemon.Durability.PrivateFile
import PiDaemon.Lib.Mirror
import PiDaemon.Lib.Runs

/-!
# The draft store

`FileDashboardSessionDraftStore`: drafts and first-send tickets in memory, and one file that holds
them all.  A call computes the memory that it leaves, writes it, and undoes its change when the
write fails; a restart reads the file.

A call may read the clock more than once: `clock i` is its reading number `i`.
-/

namespace PiDaemon.Drafts

open Lib Durability

/-! ## Times and digests -/

theorem length_digits (width n : Nat) : (digits width n).length = width := by
  induction width generalizing n with
  | zero => rfl
  | succ width ih => simp [digits, ih]

theorem zero_notMem_digits (width n : Nat) : (0 : UInt16) ∉ digits width n := by
  induction width generalizing n with
  | zero => exact List.not_mem_nil
  | succ width ih =>
    have hdigit : (0 : UInt16) ≠ (0x30 + n % 10).toUInt16 := by
      intro h
      have := congrArg UInt16.toNat h
      rw [UInt16.toNat_ofNat'] at this
      change 0 = _ at this
      omega
    rw [digits, List.mem_append, List.mem_singleton]
    exact fun h => h.elim (ih _) hdigit

def timestamp (ms : Int) : Timestamp where
  text := isoText ms false
  ms := ms
  bounded := by
    simp [isoText, length_digits, zero_notMem_digits, text]

/-- What a fingerprint is taken of. -/
inductive FingerprintInput where
  | create (draftId : Option JsString) (spec : DashboardSessionDraftSpec)
  | cancel (draftId : JsString) (expectedRevision : Nat)
  | send (draftId : JsString) (draftRevision : Nat) (message : JsString)

structure DraftPlatform where
  semanticFingerprint : FingerprintInput → Digest
  sha256 : JsString → Digest

def DraftPlatform.deterministicDraftSession (platform : DraftPlatform) (draftId : JsString) :
    DashboardSessionDraftIdentity :=
  ⟨text "dash-" ++ (platform.sha256 draftId).text.take 40, 1⟩

/-! ## The memory -/

structure DraftStore where
  drafts : OrderedMap JsString StoredDraft
  tickets : OrderedMap JsString StoredTicket

def DashboardSessionDraftTicketState.isTerminal : DashboardSessionDraftTicketState → Bool
  | .queued => false
  | .running => false
  | .succeeded => true
  | .failed => true
  | .indeterminate => true

def DashboardSessionDraftState.isTerminal : DashboardSessionDraftState → Bool
  | .draft => false
  | .materializing => false
  | .live => true
  | .failed => true
  | .indeterminate => true
  | .cancelled => true

/-- What a call leaves: the memory as it is, or a memory that has to be written. -/
inductive Mutation (A : Type) where
  | keep (result : A)
  | change (store : DraftStore) (result : A)

namespace DraftStore

def empty : DraftStore := ⟨.empty, .empty⟩

variable (platform : DraftPlatform) (limits : DashboardSessionDraftLimits)

def ticketExpired (threshold : Int) (stored : StoredTicket) : Bool :=
  stored.ticket.state.isTerminal && stored.ticket.updatedAt.ms < threshold

def draftExpired (threshold : Int) (stored : StoredDraft) : Bool :=
  stored.resource.state.isTerminal && stored.resource.updatedAt.ms < threshold

def prune (store : DraftStore) (now : Int) : DraftStore :=
  let threshold := now - limits.terminalRetentionMs
  let tickets := store.tickets.filterValues fun stored => !ticketExpired threshold stored
  { drafts := store.drafts.filterValues fun stored =>
      !(draftExpired threshold stored &&
        !(tickets.values.any fun ticket => ticket.ticket.draftId = stored.resource.draftId))
    tickets }

def newId (kind : JsString) (randomId : JsString) : Except DashboardSessionDraftError JsString := do
  validateId (kind ++ text "-" ++ randomId) "draftId"
  .ok (kind ++ text "-" ++ randomId)

/-- `validated.draftId ?? this.#newId("draft")` -/
def newDraftId (randomId : JsString) : Option JsString → Except DashboardSessionDraftError JsString
  | some draftId => .ok draftId
  | none => newId (text "draft") randomId

def create (store : DraftStore) (request : DashboardSessionDraftCreateRequest)
    (clock : Nat → Int) (randomId : JsString) :
    Except DashboardSessionDraftError (Mutation DashboardSessionDraftResource) := do
  validateDashboardSessionDraftCreateRequest request limits
  let fingerprint := platform.semanticFingerprint (.create request.draftId request.spec)
  match store.drafts.values.find? (·.createIdempotencyKey = request.idempotencyKey) with
  | some duplicate => do
    check (duplicate.createFingerprint = fingerprint)
      (conflict "draft_idempotency_conflict" "draft idempotency key was reused")
    .ok (.keep duplicate.resource)
  | none => do
    let store := store.prune limits (clock 0)
    check (store.drafts.size < limits.maxDrafts)
      { code := "draft_capacity", message := "dashboard session draft capacity reached",
        retryable := true }
    let draftId ← newDraftId randomId request.draftId
    check (!store.drafts.has draftId)
      (conflict "draft_exists" "dashboard session draft already exists")
    let now := timestamp (clock 1)
    let resource ← validateDashboardSessionDraftResource limits
      { draftId, revision := 1, state := .draft, createdAt := now, updatedAt := now,
        spec := request.spec, materialization := none }
    .ok (.change { store with
      drafts := store.drafts.set draftId
        { resource, createIdempotencyKey := request.idempotencyKey,
          createFingerprint := fingerprint, cancelIdempotencyKey := none,
          cancelFingerprint := none } } resource)

def draftCancelledError : ApiErrorBody where
  code := text "draft_cancelled"
  message := text "dashboard session draft was cancelled"
  retryable := false

def draftCancelIndeterminateError : ApiErrorBody where
  code := text "draft_cancel_indeterminate"
  message := text "draft cancellation raced prompt submission; outcome is indeterminate"
  retryable := false

/-- The prompt may have been accepted. -/
def crossedPromptBoundary (stored : StoredTicket) : Bool :=
  stored.ticket.state = .running && stored.phase = .promptSubmitting

/-- The ticket of a cancelled draft. -/
def cancelTicket (stored : StoredTicket) (now : Int) :
    Except DashboardSessionDraftError StoredTicket := do
  if stored.ticket.state.isTerminal then .ok stored
  else
    let crossed := crossedPromptBoundary stored
    let ticket ← validateDashboardSessionDraftSendTicket
      { stored.ticket with
        state := if crossed then .indeterminate else .failed
        updatedAt := timestamp now
        error := some (if crossed then draftCancelIndeterminateError else draftCancelledError) }
    .ok { stored with ticket }

/-- The ticket of a draft, when it is still kept. -/
def activeTicket (store : DraftStore) (stored : StoredDraft) : Option StoredTicket :=
  stored.resource.materialization.bind fun materialization =>
    store.tickets.get? materialization.ticketId

def cancel (store : DraftStore) (draftId : JsString)
    (request : DashboardSessionDraftCancelRequest) (clock : Nat → Int) :
    Except DashboardSessionDraftError (Mutation DashboardSessionDraftResource) := do
  validateId draftId "draftId"
  validateDashboardSessionDraftCancelRequest request
  let fingerprint := platform.semanticFingerprint (.cancel draftId request.expectedRevision)
  match store.drafts.get? draftId with
  | none => .error (notFound "draft_not_found" "dashboard session draft not found")
  | some stored =>
    if stored.cancelIdempotencyKey = some request.idempotencyKey then do
      check (stored.cancelFingerprint = some fingerprint)
        (conflict "draft_idempotency_conflict" "draft cancel key was reused")
      .ok (.keep stored.resource)
    else do
      check (stored.resource.revision = request.expectedRevision)
        (conflict "draft_revision_conflict" "dashboard session draft revision changed")
      check (!stored.resource.state.isTerminal)
        (conflict "draft_not_cancellable" "dashboard session draft is no longer cancellable")
      match store.activeTicket stored with
      | none => do
        let resource ← validateDashboardSessionDraftResource limits
          { stored.resource with
            revision := stored.resource.revision + 1
            state := .cancelled
            updatedAt := timestamp (clock 1) }
        .ok (.change { store with
          drafts := store.drafts.set draftId
            { stored with
              resource
              cancelIdempotencyKey := some request.idempotencyKey
              cancelFingerprint := some fingerprint } } resource)
      | some active => do
        let crossed := crossedPromptBoundary active
        let ticket ← cancelTicket active (clock 0)
        let resource ← validateDashboardSessionDraftResource limits
          { stored.resource with
            revision := stored.resource.revision + 1
            state := if crossed then .indeterminate else .cancelled
            updatedAt := timestamp (clock 1)
            materialization := some
              { ticketId := ticket.ticket.ticketId
                state := ticket.ticket.state
                session := ticket.ticket.session
                error := some
                  (if crossed then draftCancelIndeterminateError else draftCancelledError) } }
        .ok (.change
          { drafts := store.drafts.set draftId
              { stored with
                resource
                cancelIdempotencyKey := some request.idempotencyKey
                cancelFingerprint := some fingerprint }
            tickets := store.tickets.set ticket.ticket.ticketId ticket } resource)

def submitSend (store : DraftStore) (draftId : JsString)
    (request : DashboardSessionDraftSendRequest) (clock : Nat → Int) (randomId : JsString) :
    Except DashboardSessionDraftError (Mutation DashboardSessionDraftSendTicket) := do
  validateId draftId "draftId"
  validateDashboardSessionDraftSendRequest request limits
  let fingerprint :=
    platform.semanticFingerprint (.send draftId request.expectedRevision request.message)
  match store.tickets.values.find? fun stored =>
      stored.ticket.draftId = draftId && stored.ticket.idempotencyKey = request.idempotencyKey with
  | some duplicate => do
    check (duplicate.fingerprint = fingerprint)
      (conflict "draft_idempotency_conflict" "draft send key was reused")
    .ok (.keep duplicate.ticket)
  | none =>
    match store.drafts.get? draftId with
    | none => .error (notFound "draft_not_found" "dashboard session draft not found")
    | some stored => do
      check (stored.resource.revision = request.expectedRevision)
        (conflict "draft_revision_conflict" "dashboard session draft revision changed")
      check (stored.resource.state = .draft)
        (conflict "draft_not_sendable" "dashboard session draft is not awaiting its first message")
      let store := store.prune limits (clock 0)
      check (store.tickets.size < limits.maxTickets)
        { code := "draft_ticket_capacity",
          message := "dashboard session draft ticket capacity reached", retryable := true }
      let now := timestamp (clock 1)
      let ticketId ← newId (text "draft-send") randomId
      let ticket ← validateDashboardSessionDraftSendTicket
        { ticketId, draftId, draftRevision := request.expectedRevision
          requestId := request.requestId, idempotencyKey := request.idempotencyKey
          state := .queued, submittedAt := now, updatedAt := now, session := none, error := none }
      let resource ← validateDashboardSessionDraftResource limits
        { stored.resource with
          revision := stored.resource.revision + 1
          state := .materializing
          updatedAt := now
          materialization := some ⟨ticketId, .queued, none, none⟩ }
      .ok (.change
        { drafts := store.drafts.set draftId { stored with resource }
          tickets := store.tickets.set ticketId
            { ticket, fingerprint, message := request.message, phase := .materializing,
              targetSession := platform.deterministicDraftSession draftId } } ticket)

/-- The state of a draft after a transition of its ticket. -/
def draftStateOf : DashboardSessionDraftTicketState → DashboardSessionDraftState
  | .succeeded => .live
  | .failed => .failed
  | .indeterminate => .indeterminate
  | .queued => .materializing
  | .running => .materializing

def transitionSend (store : DraftStore) (ticketId : JsString)
    (transition : DashboardSessionDraftTransition) (clock : Nat → Int) :
    Except DashboardSessionDraftError (Mutation DashboardSessionDraftSendTicket) := do
  validateId ticketId "ticketId"
  match store.tickets.get? ticketId with
  | none => .error (notFound "draft_ticket_not_found" "draft send ticket not found")
  | some stored => do
    check (stored.ticket.state = transition.expectedState.toState)
      (conflict "draft_ticket_state_conflict" "draft send ticket state changed")
    validateTicketTransition transition stored.phase stored.targetSession stored.ticket.session
    match store.drafts.get? stored.ticket.draftId with
    | none => .error { code := "corrupt_draft_state", message := "draft ticket has no draft" }
    | some draft => do
      let updatedAt := timestamp (clock 0)
      let ticket ← validateDashboardSessionDraftSendTicket
        { stored.ticket with
          state := transition.state
          updatedAt
          session := transition.session.or stored.ticket.session
          error := transition.error.or stored.ticket.error }
      let resource ← validateDashboardSessionDraftResource limits
        { draft.resource with
          revision := draft.resource.revision + 1
          state := draftStateOf transition.state
          updatedAt
          materialization := some ⟨ticketId, transition.state, ticket.session, ticket.error⟩ }
      .ok (.change
        { drafts := store.drafts.set stored.ticket.draftId { draft with resource }
          tickets := store.tickets.set ticketId
            { stored with ticket, phase := transition.phase.getD stored.phase } } ticket)

/-! ## The file -/

def toJson (store : DraftStore) : JsValue Nat :=
  .object (.cons (text "formatVersion") (.number 1)
    (.cons (text "drafts") (.array (jsSlots (store.drafts.values.map (·.toJson))))
    (.cons (text "tickets") (.array (jsSlots (store.tickets.values.map (·.toJson)))) .nil)))

/-- `Buffer.byteLength(JSON.stringify(envelope), "utf8") + 1` -/
def stateBytes (store : DraftStore) : Nat :=
  byteLength ((stringify decimal store.toJson).getD []) + 1

/-- The size of the file that is written. -/
def fileBytes (store : DraftStore) : Nat := privateJsonBytes decimal store.toJson

end DraftStore

/-- What a file holds: no JSON of an envelope, or the items of its two lists, of which some are
malformed. -/
inductive DraftFileContent where
  | unreadable
  | envelope (drafts : List (Option StoredDraft)) (tickets : List (Option StoredTicket))

structure DraftFile where
  bytes : Nat
  content : DraftFileContent

def DraftStore.toFile (store : DraftStore) : DraftFile where
  bytes := store.fileBytes
  content := .envelope (store.drafts.values.map some) (store.tickets.values.map some)

/-- A store and its file; there is no store when `recover()` has failed. -/
structure FileDashboardSessionDraftStore where
  store : Option DraftStore
  file : Option DraftFile

/-! ## Restoring -/

namespace DraftStore

variable (limits : DashboardSessionDraftLimits)

def storedDraft (stored : StoredDraft) : Except DashboardSessionDraftError StoredDraft := do
  let resource ← validateDashboardSessionDraftResource limits stored.resource
  boundedId stored.createIdempotencyKey "createIdempotencyKey" 512
  stored.cancelIdempotencyKey.forM fun key => boundedId key "cancelIdempotencyKey" 512
  .ok { stored with resource }

def storedTicket (stored : StoredTicket) : Except DashboardSessionDraftError StoredTicket := do
  let ticket ← validateDashboardSessionDraftSendTicket stored.ticket
  boundedString stored.message "message" 1 limits.maxMessageChars
  draftSessionIdentity stored.targetSession
  .ok { stored with ticket }

theorem storedDraft_ok {value record : StoredDraft} :
    storedDraft limits value = .ok record ↔
      (checkResource limits value.resource = .ok () ∧
        boundedId value.createIdempotencyKey "createIdempotencyKey" 512 = .ok () ∧
        ∀ key, value.cancelIdempotencyKey = some key →
          boundedId key "cancelIdempotencyKey" 512 = .ok ()) ∧ record = value := by
  simp only [storedDraft, bind_ok, validateDashboardSessionDraftResource_ok, forM_ok,
    Except.ok.injEq]
  constructor
  · rintro ⟨_, ⟨hresource, rfl⟩, _, hcreate, _, hcancel, rfl⟩
    exact ⟨⟨hresource, hcreate, hcancel⟩, rfl⟩
  · rintro ⟨⟨hresource, hcreate, hcancel⟩, rfl⟩
    exact ⟨_, ⟨hresource, rfl⟩, (), hcreate, (), hcancel, rfl⟩

theorem storedTicket_ok {value record : StoredTicket} :
    storedTicket limits value = .ok record ↔
      (checkSendTicket value.ticket = .ok () ∧
        boundedString value.message "message" 1 limits.maxMessageChars = .ok () ∧
        draftSessionIdentity value.targetSession = .ok ()) ∧ record = value := by
  simp only [storedTicket, bind_ok, validateDashboardSessionDraftSendTicket_ok, Except.ok.injEq]
  constructor
  · rintro ⟨_, ⟨hticket, rfl⟩, _, hmessage, _, htarget, rfl⟩
    exact ⟨⟨hticket, hmessage, htarget⟩, rfl⟩
  · rintro ⟨⟨hticket, hmessage, htarget⟩, rfl⟩
    exact ⟨_, ⟨hticket, rfl⟩, (), hmessage, (), htarget, rfl⟩

/-- The drafts up to the first one that throws, and whether all are restored. -/
def restoreDrafts (store : DraftStore) : List (Option StoredDraft) → DraftStore × Bool
  | [] => (store, true)
  | none :: _ => (store, false)
  | some value :: rest =>
    match storedDraft limits value with
    | .error _ => (store, false)
    | .ok record =>
      if store.drafts.has record.resource.draftId then (store, false)
      else
        restoreDrafts { store with drafts := store.drafts.set record.resource.draftId record } rest

def restoreTickets (store : DraftStore) : List (Option StoredTicket) → DraftStore × Bool
  | [] => (store, true)
  | none :: _ => (store, false)
  | some value :: rest =>
    match storedTicket limits value with
    | .error _ => (store, false)
    | .ok record =>
      if store.tickets.has record.ticket.ticketId then (store, false)
      else if !store.drafts.has record.ticket.draftId then (store, false)
      else
        restoreTickets { store with tickets := store.tickets.set record.ticket.ticketId record }
          rest

/-- `#restore` in an empty store: what it leaves, and whether it returns. -/
def restore : DraftFileContent → DraftStore × Bool
  | .unreadable => (empty, false)
  | .envelope drafts tickets =>
    if drafts.length > limits.maxDrafts ∨ tickets.length > limits.maxTickets then (empty, false)
    else
      match restoreDrafts limits empty drafts with
      | (store, false) => (store, false)
      | (store, true) => restoreTickets limits store tickets

def restartError : ApiErrorBody where
  code := text "draft_send_indeterminate"
  message := text "draft first-send outcome is indeterminate after restart"
  retryable := false

/-- A ticket whose prompt may have been accepted. -/
def markTicket (now : Int) (stored : StoredTicket) : StoredTicket :=
  if crossedPromptBoundary stored then
    { stored with
      ticket := { stored.ticket with
        state := .indeterminate, updatedAt := timestamp now, error := some restartError } }
  else stored

/-- The draft of such a ticket. -/
def markDraft (now : Int) (ticket : StoredTicket) (draft : StoredDraft) : StoredDraft :=
  { draft with
    resource := { draft.resource with
      revision := draft.resource.revision + 1
      state := .indeterminate
      updatedAt := timestamp now
      materialization := some
        ⟨ticket.ticket.ticketId, .indeterminate, ticket.ticket.session, some restartError⟩ } }

/-- One ticket of `#markRecoveredRunningIndeterminate`; the validation throws for a revision that
is too large. -/
def markOne (now : Int) (store : DraftStore) (ticketId : JsString) :
    Except DashboardSessionDraftError DraftStore :=
  match store.tickets.get? ticketId with
  | none => .ok store
  | some stored =>
    if crossedPromptBoundary stored then do
      let marked := markTicket now stored
      checkSendTicket marked.ticket
      match store.drafts.get? stored.ticket.draftId with
      | none => .ok { store with tickets := store.tickets.set ticketId marked }
      | some draft => do
        let draft := markDraft now stored draft
        checkResource limits draft.resource
        .ok
          { drafts := store.drafts.set stored.ticket.draftId draft
            tickets := store.tickets.set ticketId marked }
    else .ok store

/-- `#markRecoveredRunningIndeterminate` -/
def markRecovered (store : DraftStore) (clock : Nat → Int) :
    Except DashboardSessionDraftError DraftStore :=
  store.tickets.keys.zipIdx.foldlM (fun store entry => markOne limits (clock entry.2) store entry.1)
    store

/-- `#recoverySnapshot`: the tickets that an executor may resume. -/
def recoverableTicketIds (store : DraftStore) : List JsString :=
  (store.tickets.values.filter fun stored =>
    stored.ticket.state = .queued ||
      (stored.ticket.state = .running && stored.phase ≠ .promptSubmitting)).map (·.ticket.ticketId)

end DraftStore

namespace FileDashboardSessionDraftStore

variable (platform : DraftPlatform) (limits : DashboardSessionDraftLimits)

/-- The end of a serialized call: `#write`, and the memory from before when it fails. -/
def commit {A : Type} (s : FileDashboardSessionDraftStore)
    (mutation : Except DashboardSessionDraftError (Mutation A)) (outcome : FileOutcome) :
    FileDashboardSessionDraftStore × Except DashboardSessionDraftError A :=
  match mutation with
  | .error error => (s, .error error)
  | .ok (.keep result) => (s, .ok result)
  | .ok (.change store result) =>
    if store.stateBytes > limits.maxStateBytes then
      (s, .error
        { code := "draft_state_too_large", message := "draft state exceeds byte limit" })
    else
      let file := if outcome.lands then some store.toFile else s.file
      if outcome = .done then ({ store := some store, file }, .ok result)
      else ({ s with file }, .error { code := "io", message := "write failed" })

/-- A call of a store that has been recovered. -/
def call {A : Type} (s : FileDashboardSessionDraftStore)
    (operation : DraftStore → Except DashboardSessionDraftError (Mutation A))
    (outcome : FileOutcome) :
    FileDashboardSessionDraftStore × Except DashboardSessionDraftError A :=
  match s.store with
  | none => (s, .error { code := "io", message := "recovery failed" })
  | some store => s.commit limits (operation store) outcome

/-- What a new store restores of the file, and whether the file is quarantined. -/
def restoreFile (file : Option DraftFile) : DraftStore × Bool :=
  match file with
  | none => (.empty, false)
  | some file =>
    if file.bytes > limits.maxStateBytes then (.empty, true)
    else
      match DraftStore.restore limits file.content with
      | (store, restored) => (store, !restored)

/-- Some ticket is marked as indeterminate. -/
def recoversRunning (store : DraftStore) : Bool :=
  store.tickets.values.any DraftStore.crossedPromptBoundary

/-- `#load` of a new store; `moved` says whether a file can be renamed. -/
def load (file : Option DraftFile) (clock : Nat → Int) (moved : Bool) (outcome : FileOutcome) :
    FileDashboardSessionDraftStore :=
  match restoreFile limits file with
  | (restored, quarantined) =>
    if quarantined && !moved then ⟨none, file⟩
    else
      let file := if quarantined then none else file
      match restored.markRecovered limits clock with
      | .error _ => ⟨none, file⟩
      | .ok marked =>
        let store := marked.prune limits (clock restored.tickets.size)
        if quarantined || recoversRunning restored then
          if store.stateBytes > limits.maxStateBytes then ⟨none, file⟩
          else
            let file := if outcome.lands then some store.toFile else file
            ⟨if outcome = .done then some store else none, file⟩
        else ⟨some store, file⟩

end FileDashboardSessionDraftStore

/-! ## Runs -/

inductive DraftEvent where
  | create (request : DashboardSessionDraftCreateRequest) (clock : Nat → Int) (randomId : JsString)
      (outcome : FileOutcome)
  | cancel (draftId : JsString) (request : DashboardSessionDraftCancelRequest) (clock : Nat → Int)
      (outcome : FileOutcome)
  | submitSend (draftId : JsString) (request : DashboardSessionDraftSendRequest)
      (clock : Nat → Int) (randomId : JsString) (outcome : FileOutcome)
  | transitionSend (ticketId : JsString) (transition : DashboardSessionDraftTransition)
      (clock : Nat → Int) (outcome : FileOutcome)
  | restart (clock : Nat → Int) (moved : Bool) (outcome : FileOutcome)

namespace FileDashboardSessionDraftStore

def initial : FileDashboardSessionDraftStore := ⟨some .empty, none⟩

def step (platform : DraftPlatform) (limits : DashboardSessionDraftLimits)
    (s : FileDashboardSessionDraftStore) : DraftEvent → FileDashboardSessionDraftStore
  | .create request clock randomId outcome =>
    (s.call limits (fun store => store.create platform limits request clock randomId) outcome).1
  | .cancel draftId request clock outcome =>
    (s.call limits (fun store => store.cancel platform limits draftId request clock) outcome).1
  | .submitSend draftId request clock randomId outcome =>
    (s.call limits (fun store => store.submitSend platform limits draftId request clock randomId)
      outcome).1
  | .transitionSend ticketId transition clock outcome =>
    (s.call limits (fun store => store.transitionSend limits ticketId transition clock) outcome).1
  | .restart clock moved outcome => load limits s.file clock moved outcome

end FileDashboardSessionDraftStore

end PiDaemon.Drafts
