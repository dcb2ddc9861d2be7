import PiDaemon.Lib.Checks
import PiDaemon.Lib.Json

/-!
# Authorization state

The policies, audit events and receipts of the dashboard's authorization ledger, their JSON, and
the validation of a stored state.  An item of a file whose shape is not the one given here makes
the whole file unreadable; an absent list of receipts is an empty one.

* `validateStoredState_ok`: a validated state is the stored one, and satisfies `Stored`.
-/

namespace PiDaemon.Authorization

open Lib List

/-! ## Errors -/

structure DashboardAuthorizationError where
  code : String
  message : String
  status : Nat := 400
  deriving DecidableEq

inductive Failure where
  | authorization (error : DashboardAuthorizationError)
  | error (message : String)
  deriving DecidableEq

def invalidRequest (message : String) : Failure :=
  .authorization { code := "invalid_request", message }

def corruptAuthorizationState : Failure :=
  .authorization
    { code := "authorization_state_corrupt", message := "dashboard authorization state is invalid"
      status := 500 }

def hiddenResourceError : Failure :=
  .authorization { code := "not_found", message := "dashboard resource was not found", status := 404 }

/-! ## Texts -/

def isAlphanumeric (u : UInt16) : Bool :=
  (0x30 ≤ u.toNat && u.toNat ≤ 0x39) || (0x41 ≤ u.toNat && u.toNat ≤ 0x5a) ||
    (0x61 ≤ u.toNat && u.toNat ≤ 0x7a)

/-- `/^[A-Za-z0-9][A-Za-z0-9._:-]*$/` with at most `max` units, each of one byte. -/
def isName (max : Nat) (value : JsString) : Bool :=
  byteLength value ≤ max && value.length ≤ max && value.head?.any isAlphanumeric &&
    value.all fun u => isAlphanumeric u || u = 0x2e || u = 0x5f || u = 0x3a || u = 0x2d

def MAX_DASHBOARD_IDENTITY_ID_BYTES : Nat := 128

def MAX_RESOURCE_ID_BYTES : Nat := 256

def validateDashboardIdentityId (value : JsString) : Except Failure Unit :=
  check (isName MAX_DASHBOARD_IDENTITY_ID_BYTES value) (.error "dashboard identity ID is invalid")

/-- What `storedOpaqueString` accepts. -/
def isOpaque (maxBytes : Nat) (value : JsString) : Bool :=
  1 ≤ value.length && byteLength value ≤ maxBytes && !value.contains 0x0d &&
    !value.contains 0x0a && !value.contains 0

structure Opaque (maxBytes : Nat) where
  text : JsString
  stored : isOpaque maxBytes text = true
  deriving DecidableEq

/-- A text that `Date.parse` reads. -/
abbrev Timestamp := Opaque 64

abbrev EventId := Opaque 128

abbrev Fingerprint := Opaque 128

/-- `Number.MAX_SAFE_INTEGER` -/
def maxSafeInteger : Nat := 9007199254740991

/-! ## State -/

inductive DashboardResourceKind where
  | session
  | workspace
  | draft
  | draftTicket
  | activationTicket
  | exportTicket
  | schedule
  deriving DecidableEq

inductive DashboardResourceRole where
  | read
  | control
  | admin
  deriving DecidableEq

structure DashboardResourceRef where
  kind : DashboardResourceKind
  id : JsString
  deriving DecidableEq

structure DashboardResourceGrant where
  identityId : JsString
  role : DashboardResourceRole
  deriving DecidableEq

structure DashboardResourcePolicy where
  resource : DashboardResourceRef
  ownerIdentityId : JsString
  grants : List DashboardResourceGrant
  revision : Nat
  createdAt : Timestamp
  updatedAt : Timestamp
  deriving DecidableEq

inductive DashboardAuthorizationAuditAction where
  | resourceCreated
  | resourceAdopted
  | grantSet
  | grantRevoked
  | ownershipTransferred
  | controllerTransferred
  deriving DecidableEq

/-- An audit event before it is numbered. -/
structure AuditFacts where
  actorIdentityId : JsString
  action : DashboardAuthorizationAuditAction
  resource : DashboardResourceRef
  subjectIdentityId : Option JsString := none
  role : Option DashboardResourceRole := none
  previousOwnerIdentityId : Option JsString := none
  previousControllerIdentityId : Option JsString := none
  deriving DecidableEq

structure DashboardAuthorizationAuditEvent where
  sequence : Nat
  eventId : EventId
  occurredAt : Timestamp
  facts : AuditFacts
  deriving DecidableEq

structure PendingIdempotencyReceipt where
  actorIdentityId : JsString
  key : JsString
  fingerprint : Fingerprint
  deriving DecidableEq

structure DashboardAuthorizationIdempotencyReceipt where
  pending : PendingIdempotencyReceipt
  result : DashboardResourcePolicy
  deriving DecidableEq

structure DashboardAuthorizationState where
  revision : Nat
  nextAuditSequence : Nat
  droppedAuditEvents : Nat
  policies : List DashboardResourcePolicy
  audit : List DashboardAuthorizationAuditEvent
  idempotency : List DashboardAuthorizationIdempotencyReceipt
  deriving DecidableEq

def emptyAuthorizationState : DashboardAuthorizationState where
  revision := 0
  nextAuditSequence := 1
  droppedAuditEvents := 0
  policies := []
  audit := []
  idempotency := []

structure DashboardAuthorizationLimits where
  maxPolicies : Nat
  maxGrantsPerPolicy : Nat
  maxAuditEvents : Nat
  maxBytes : Nat
  deriving DecidableEq

def MAX_IDEMPOTENCY_RECEIPTS : Nat := 1024

/-! ## JSON -/

def DashboardResourceKind.text : DashboardResourceKind → JsString
  | .session => Lib.text "session"
  | .workspace => Lib.text "workspace"
  | .draft => Lib.text "draft"
  | .draftTicket => Lib.text "draft-ticket"
  | .activationTicket => Lib.text "activation-ticket"
  | .exportTicket => Lib.text "export-ticket"
  | .schedule => Lib.text "schedule"

def DashboardResourceRole.text : DashboardResourceRole → JsString
  | .read => Lib.text "read"
  | .control => Lib.text "control"
  | .admin => Lib.text "admin"

def DashboardAuthorizationAuditAction.text : DashboardAuthorizationAuditAction → JsString
  | .resourceCreated => Lib.text "resource-created"
  | .resourceAdopted => Lib.text "resource-adopted"
  | .grantSet => Lib.text "grant-set"
  | .grantRevoked => Lib.text "grant-revoked"
  | .ownershipTransferred => Lib.text "ownership-transferred"
  | .controllerTransferred => Lib.text "controller-transferred"

def resourceKey (resource : DashboardResourceRef) : JsString :=
  resource.kind.text ++ 0x3a :: resource.id

def DashboardResourceRef.toJson (resource : DashboardResourceRef) : JsValue Nat :=
  .object (.cons (text "kind") (.string resource.kind.text)
    (.cons (text "id") (.string resource.id) .nil))

def DashboardResourceGrant.toJson (grant : DashboardResourceGrant) : JsValue Nat :=
  .object (.cons (text "identityId") (.string grant.identityId)
    (.cons (text "role") (.string grant.role.text) .nil))

def DashboardResourcePolicy.toJson (policy : DashboardResourcePolicy) : JsValue Nat :=
  .object (.cons (text "resource") policy.resource.toJson
    (.cons (text "ownerIdentityId") (.string policy.ownerIdentityId)
    (.cons (text "grants") (.array (jsSlots (policy.grants.map (·.toJson))))
    (.cons (text "revision") (.number policy.revision)
    (.cons (text "createdAt") (.string policy.createdAt.text)
    (.cons (text "updatedAt") (.string policy.updatedAt.text) .nil))))))

/-- A new event has the members of its facts first; the size does not depend on their order. -/
def DashboardAuthorizationAuditEvent.toJson (event : DashboardAuthorizationAuditEvent) :
    JsValue Nat :=
  .object (.cons (text "actorIdentityId") (.string event.facts.actorIdentityId)
    (.cons (text "action") (.string event.facts.action.text)
    (.cons (text "resource") event.facts.resource.toJson
    (optionMember "subjectIdentityId" (event.facts.subjectIdentityId.map .string)
    (optionMember "previousOwnerIdentityId" (event.facts.previousOwnerIdentityId.map .string)
    (optionMember "previousControllerIdentityId"
      (event.facts.previousControllerIdentityId.map .string)
    (optionMember "role" (event.facts.role.map fun role => .string role.text)
    (.cons (text "sequence") (.number event.sequence)
    (.cons (text "eventId") (.string event.eventId.text)
    (.cons (text "occurredAt") (.string event.occurredAt.text) .nil))))))))))

def DashboardAuthorizationIdempotencyReceipt.toJson
    (receipt : DashboardAuthorizationIdempotencyReceipt) : JsValue Nat :=
  .object (.cons (text "actorIdentityId") (.string receipt.pending.actorIdentityId)
    (.cons (text "key") (.string receipt.pending.key)
    (.cons (text "fingerprint") (.string receipt.pending.fingerprint.text)
    (.cons (text "result") receipt.result.toJson .nil))))

def DashboardAuthorizationState.toJson (state : DashboardAuthorizationState) : JsValue Nat :=
  .object (.cons (text "formatVersion") (.number 1)
    (.cons (text "revision") (.number state.revision)
    (.cons (text "nextAuditSequence") (.number state.nextAuditSequence)
    (.cons (text "droppedAuditEvents") (.number state.droppedAuditEvents)
    (.cons (text "policies") (.array (jsSlots (state.policies.map (·.toJson))))
    (.cons (text "audit") (.array (jsSlots (state.audit.map (·.toJson))))
    (.cons (text "idempotency") (.array (jsSlots (state.idempotency.map (·.toJson)))) .nil)))))))

def jsonBytes (state : DashboardAuthorizationState) : Nat :=
  byteLength ((stringify decimal state.toJson).getD [])

/-! ## Validation of a stored state -/

variable (limits : DashboardAuthorizationLimits)

def storedInteger (value minimum : Nat) : Except Failure Unit :=
  check (minimum ≤ value && value ≤ maxSafeInteger) corruptAuthorizationState

def validateStoredIdentityId (value : JsString) : Except Failure Unit :=
  check (isName MAX_DASHBOARD_IDENTITY_ID_BYTES value) corruptAuthorizationState

def validateStoredResourceRef (resource : DashboardResourceRef) : Except Failure Unit :=
  check (isName MAX_RESOURCE_ID_BYTES resource.id) corruptAuthorizationState

/-- The grants of a policy, with the identities of those before. -/
def validateStoredGrants (ownerIdentityId : JsString) (identities : List JsString) :
    List DashboardResourceGrant → Except Failure Unit
  | [] => .ok ()
  | grant :: rest => do
    validateStoredIdentityId grant.identityId
    check (grant.identityId ≠ ownerIdentityId && !identities.contains grant.identityId)
      corruptAuthorizationState
    validateStoredGrants ownerIdentityId (grant.identityId :: identities) rest

def validateStoredPolicy (policy : DashboardResourcePolicy) : Except Failure Unit := do
  validateStoredResourceRef policy.resource
  validateStoredIdentityId policy.ownerIdentityId
  check (policy.grants.length ≤ limits.maxGrantsPerPolicy) corruptAuthorizationState
  validateStoredGrants policy.ownerIdentityId [] policy.grants
  storedInteger policy.revision 1

/-- Which optional members an event of this action has. -/
def auditShape (facts : AuditFacts) : Bool :=
  match facts.action with
  | .resourceCreated | .resourceAdopted | .grantRevoked =>
    facts.subjectIdentityId.isSome && facts.role.isNone && facts.previousOwnerIdentityId.isNone &&
      facts.previousControllerIdentityId.isNone
  | .grantSet =>
    facts.subjectIdentityId.isSome && facts.role.isSome && facts.previousOwnerIdentityId.isNone &&
      facts.previousControllerIdentityId.isNone
  | .ownershipTransferred =>
    facts.subjectIdentityId.isSome && facts.previousOwnerIdentityId.isSome &&
      facts.previousControllerIdentityId.isNone
  | .controllerTransferred =>
    facts.subjectIdentityId.isSome && facts.role.isNone && facts.previousOwnerIdentityId.isNone

def validateStoredAuditEvent (event : DashboardAuthorizationAuditEvent) : Except Failure Unit := do
  event.facts.subjectIdentityId.forM validateStoredIdentityId
  event.facts.previousOwnerIdentityId.forM validateStoredIdentityId
  event.facts.previousControllerIdentityId.forM validateStoredIdentityId
  check (auditShape event.facts) corruptAuthorizationState
  storedInteger event.sequence 1
  validateStoredIdentityId event.facts.actorIdentityId
  validateStoredResourceRef event.facts.resource

def validateStoredIdempotencyReceipt (receipt : DashboardAuthorizationIdempotencyReceipt) :
    Except Failure Unit := do
  validateStoredIdentityId receipt.pending.actorIdentityId
  check (isOpaque 512 receipt.pending.key) corruptAuthorizationState
  validateStoredPolicy limits receipt.result

/-- What identifies a receipt. -/
def PendingIdempotencyReceipt.name (receipt : PendingIdempotencyReceipt) : JsString :=
  receipt.actorIdentityId ++ 0 :: receipt.key

def validateStoredState (state : DashboardAuthorizationState) :
    Except Failure DashboardAuthorizationState := do
  storedInteger state.revision 0
  storedInteger state.nextAuditSequence 1
  storedInteger state.droppedAuditEvents 0
  check (state.policies.length ≤ limits.maxPolicies) corruptAuthorizationState
  check (state.audit.length ≤ limits.maxAuditEvents) corruptAuthorizationState
  check (state.idempotency.length ≤ MAX_IDEMPOTENCY_RECEIPTS) corruptAuthorizationState
  state.policies.forM (validateStoredPolicy limits)
  check (decide (state.policies.map fun policy => resourceKey policy.resource).Nodup)
    corruptAuthorizationState
  state.audit.forM validateStoredAuditEvent
  state.idempotency.forM (validateStoredIdempotencyReceipt limits)
  check (decide (state.idempotency.map (·.pending.name)).Nodup) corruptAuthorizationState
  check (decide ((state.audit.map (·.sequence)).IsChain (· < ·))) corruptAuthorizationState
  check (state.audit.getLast?.all fun event => event.sequence < state.nextAuditSequence)
    corruptAuthorizationState
  .ok state

/-! ## What the validation accepts -/

variable {limits : DashboardAuthorizationLimits}

structure PolicyStored (limits : DashboardAuthorizationLimits) (policy : DashboardResourcePolicy) :
    Prop where
  resource : isName MAX_RESOURCE_ID_BYTES policy.resource.id = true
  owner : isName MAX_DASHBOARD_IDENTITY_ID_BYTES policy.ownerIdentityId = true
  grantCount : policy.grants.length ≤ limits.maxGrantsPerPolicy
  identities : ∀ grant ∈ policy.grants,
    isName MAX_DASHBOARD_IDENTITY_ID_BYTES grant.identityId = true
  ownerless : ∀ grant ∈ policy.grants, grant.identityId ≠ policy.ownerIdentityId
  distinct : (policy.grants.map (·.identityId)).Nodup
  revision : 1 ≤ policy.revision ∧ policy.revision ≤ maxSafeInteger

structure FactsStored (facts : AuditFacts) : Prop where
  actor : isName MAX_DASHBOARD_IDENTITY_ID_BYTES facts.actorIdentityId = true
  resource : isName MAX_RESOURCE_ID_BYTES facts.resource.id = true
  subject : ∀ id, facts.subjectIdentityId = some id →
    isName MAX_DASHBOARD_IDENTITY_ID_BYTES id = true
  previousOwner : ∀ id, facts.previousOwnerIdentityId = some id →
    isName MAX_DASHBOARD_IDENTITY_ID_BYTES id = true
  previousController : ∀ id, facts.previousControllerIdentityId = some id →
    isName MAX_DASHBOARD_IDENTITY_ID_BYTES id = true
  shape : auditShape facts = true

structure ReceiptStored (limits : DashboardAuthorizationLimits)
    (receipt : DashboardAuthorizationIdempotencyReceipt) : Prop where
  actor : isName MAX_DASHBOARD_IDENTITY_ID_BYTES receipt.pending.actorIdentityId = true
  key : isOpaque 512 receipt.pending.key = true
  result : PolicyStored limits receipt.result

/-- Events whose numbers rise up to the next one. -/
structure AuditStored (audit : List DashboardAuthorizationAuditEvent) (next : Nat) : Prop where
  events : ∀ event ∈ audit,
    FactsStored event.facts ∧ 1 ≤ event.sequence ∧ event.sequence ≤ maxSafeInteger
  ordered : (audit.map (·.sequence)).IsChain (· < ·)
  last : ∀ event, audit.getLast? = some event → event.sequence < next

structure ReceiptsStored (limits : DashboardAuthorizationLimits)
    (receipts : List DashboardAuthorizationIdempotencyReceipt) : Prop where
  each : ∀ receipt ∈ receipts, ReceiptStored limits receipt
  names : (receipts.map (·.pending.name)).Nodup

structure Stored (limits : DashboardAuthorizationLimits) (state : DashboardAuthorizationState) :
    Prop where
  revision : state.revision ≤ maxSafeInteger
  next : 1 ≤ state.nextAuditSequence ∧ state.nextAuditSequence ≤ maxSafeInteger
  dropped : state.droppedAuditEvents ≤ maxSafeInteger
  policyCount : state.policies.length ≤ limits.maxPolicies
  auditCount : state.audit.length ≤ limits.maxAuditEvents
  receiptCount : state.idempotency.length ≤ MAX_IDEMPOTENCY_RECEIPTS
  policies : ∀ policy ∈ state.policies, PolicyStored limits policy
  policyKeys : (state.policies.map fun policy => resourceKey policy.resource).Nodup
  audit : AuditStored state.audit state.nextAuditSequence
  receipts : ReceiptsStored limits state.idempotency

theorem storedInteger_ok {value minimum : Nat} :
    storedInteger value minimum = .ok () ↔ minimum ≤ value ∧ value ≤ maxSafeInteger := by
  simp [storedInteger]

theorem validateStoredGrants_ok {owner : JsString} {identities : List JsString}
    {grants : List DashboardResourceGrant} :
    validateStoredGrants owner identities grants = .ok () ↔
      (∀ grant ∈ grants, isName MAX_DASHBOARD_IDENTITY_ID_BYTES grant.identityId = true) ∧
        (∀ grant ∈ grants, grant.identityId ≠ owner) ∧
        (∀ grant ∈ grants, grant.identityId ∉ identities) ∧
        (grants.map (·.identityId)).Nodup := by
  induction grants generalizing identities with
  | nil => simp [validateStoredGrants]
  | cons grant rest ih =>
    simp only [validateStoredGrants, then_ok, validateStoredIdentityId, check_ok, ih,
      Bool.and_eq_true, decide_eq_true_eq, Bool.not_eq_true', contains_eq_mem,
      decide_eq_false_iff_not, forall_mem_cons, map_cons, nodup_cons, mem_map,
      not_exists, not_and]
    constructor
    · rintro ⟨hname, ⟨howner, hnew⟩, hnames, howners, hnews, hnodup⟩
      refine ⟨⟨hname, hnames⟩, ⟨howner, howners⟩, ⟨hnew, fun g hg hmem => ?_⟩, fun g hg heq => ?_,
        hnodup⟩
      · exact hnews g hg (mem_cons_of_mem _ hmem)
      · exact hnews g hg (heq ▸ mem_cons_self)
    · rintro ⟨⟨hname, hnames⟩, ⟨howner, howners⟩, ⟨hnew, hnews⟩, hdistinct, hnodup⟩
      refine ⟨hname, ⟨howner, hnew⟩, hnames, howners, fun g hg hmem => ?_, hnodup⟩
      rcases mem_cons.mp hmem with heq | hmem
      · exact hdistinct g hg heq
      · exact hnews g hg hmem

theorem validateStoredPolicy_ok {policy : DashboardResourcePolicy} :
    validateStoredPolicy limits policy = .ok () ↔ PolicyStored limits policy := by
  simp only [validateStoredPolicy, then_ok, validateStoredResourceRef, validateStoredIdentityId,
    check_ok, validateStoredGrants_ok, storedInteger_ok, decide_eq_true_eq]
  constructor
  · rintro ⟨hresource, howner, hcount, ⟨hnames, howners, -, hnodup⟩, hrevision⟩
    exact ⟨hresource, howner, hcount, hnames, howners, hnodup, hrevision⟩
  rintro ⟨hresource, howner, hcount, hnames, howners, hnodup, hrevision⟩
  exact ⟨hresource, howner, hcount, ⟨hnames, howners, fun _ _ => not_mem_nil, hnodup⟩,
    hrevision⟩

theorem validateStoredAuditEvent_ok {event : DashboardAuthorizationAuditEvent} :
    validateStoredAuditEvent event = .ok () ↔
      FactsStored event.facts ∧ 1 ≤ event.sequence ∧ event.sequence ≤ maxSafeInteger := by
  simp only [validateStoredAuditEvent, then_ok, validateStoredResourceRef,
    validateStoredIdentityId, check_ok, forM_ok, storedInteger_ok]
  constructor
  · rintro ⟨hsubject, howner, hcontroller, hshape, hsequence, hactor, hresource⟩
    exact ⟨⟨hactor, hresource, hsubject, howner, hcontroller, hshape⟩, hsequence⟩
  · rintro ⟨⟨hactor, hresource, hsubject, howner, hcontroller, hshape⟩, hsequence⟩
    exact ⟨hsubject, howner, hcontroller, hshape, hsequence, hactor, hresource⟩

theorem validateStoredIdempotencyReceipt_ok {receipt : DashboardAuthorizationIdempotencyReceipt} :
    validateStoredIdempotencyReceipt limits receipt = .ok () ↔ ReceiptStored limits receipt := by
  simp only [validateStoredIdempotencyReceipt, then_ok, validateStoredIdentityId, check_ok,
    validateStoredPolicy_ok]
  constructor
  · rintro ⟨hactor, hkey, hresult⟩
    exact ⟨hactor, hkey, hresult⟩
  · rintro ⟨hactor, hkey, hresult⟩
    exact ⟨hactor, hkey, hresult⟩

theorem validateStoredState_ok {state state' : DashboardAuthorizationState} :
    validateStoredState limits state = .ok state' ↔ Stored limits state ∧ state' = state := by
  simp only [validateStoredState, then_ok, check_ok, storedInteger_ok, list_forM_ok,
    validateStoredPolicy_ok, validateStoredAuditEvent_ok, validateStoredIdempotencyReceipt_ok,
    decide_eq_true_eq, Option.all_eq_true, Except.ok.injEq]
  constructor
  · rintro ⟨hrevision, hnext, hdropped, hpolicies, haudit, hreceipts, hpolicy, hkeys, hevent,
      hreceipt, hnames, hordered, hlast, rfl⟩
    exact ⟨⟨hrevision.2, hnext, hdropped.2, hpolicies, haudit, hreceipts, hpolicy, hkeys,
      ⟨hevent, hordered, hlast⟩, ⟨hreceipt, hnames⟩⟩, rfl⟩
  · rintro ⟨h, rfl⟩
    exact ⟨⟨Nat.zero_le _, h.revision⟩, h.next, ⟨Nat.zero_le _, h.dropped⟩, h.policyCount,
      h.auditCount, h.receiptCount, h.policies, h.policyKeys, h.audit.events, h.receipts.each,
      h.receipts.names, h.audit.ordered, h.audit.last, rfl⟩

end PiDaemon.Authorization
