import Mathlib.Data.List.Sort
import PiDaemon.Authorization.Resource
import PiDaemon.Lib.OrderedMap

/-!
# Authorization ledger

The mutations of the authorization service.  Each one checks its arguments when it is called, and
returns the operation that `#mutate` runs later on the ledger in memory.  An operation returns,
throws, or is about to write the ledger that it has edited.

How texts are ordered and hashed are parameters.
-/

namespace PiDaemon.Authorization

open Lib

inductive DashboardAuthorizationMode where
  | singleOwner
  | multiUser
  deriving DecidableEq

inductive DashboardGlobalRole where
  | administrator
  | member
  deriving DecidableEq

structure DashboardPrincipal where
  identityId : JsString
  globalRole : DashboardGlobalRole
  deriving DecidableEq

structure DashboardAuthorizationService where
  mode : DashboardAuthorizationMode
  localOwnerIdentityId : JsString
  limits : DashboardAuthorizationLimits
  /-- `left.localeCompare(right) <= 0` -/
  localeLe : JsString → JsString → Bool
  /-- `createHash("sha256").update(request, "utf8").digest("base64url")` -/
  digest : JsString → Fingerprint

/-- What the service has in memory. -/
structure Ledger where
  state : DashboardAuthorizationState
  policyIndex : OrderedMap JsString DashboardResourcePolicy

/-- How an operation ends, before anything is written. -/
inductive Attempt where
  | returns (policy : DashboardResourcePolicy)
  | throws (failure : Failure)
  | writes (policy : DashboardResourcePolicy)
  deriving DecidableEq

/-- An operation reads the clock and draws an event id. -/
abbrev Operation := Ledger → Option Timestamp → EventId → Ledger × Attempt

/-! ## Reading -/

def reindexPolicies (state : DashboardAuthorizationState) : Ledger where
  state := state
  policyIndex := state.policies.foldl
    (fun index policy => index.set (resourceKey policy.resource) policy) .empty

def Ledger.policy (ledger : Ledger) (resource : DashboardResourceRef) :
    Option DashboardResourcePolicy :=
  ledger.policyIndex.get? (resourceKey resource)

variable (service : DashboardAuthorizationService)

/-- The role that a policy gives an identity. -/
def policyRole (policy : DashboardResourcePolicy) (identityId : JsString) :
    Option DashboardResourceRole :=
  if policy.ownerIdentityId = identityId then some .admin
  else (policy.grants.find? (·.identityId = identityId)).map (·.role)

def Ledger.effectiveRole (ledger : Ledger) (principal : DashboardPrincipal)
    (resource : DashboardResourceRef) : Option DashboardResourceRole :=
  if principal.globalRole = .administrator then some .admin
  else
    match ledger.policy resource with
    | none =>
      if service.mode = .singleOwner ∧ principal.identityId = service.localOwnerIdentityId then
        some .admin
      else none
    | some policy => policyRole policy principal.identityId

def Ledger.mutableAdminPolicy (ledger : Ledger) (principal : DashboardPrincipal)
    (resource : DashboardResourceRef) : Except Failure DashboardResourcePolicy :=
  if ledger.effectiveRole service principal resource ≠ some .admin then .error hiddenResourceError
  else
    match ledger.policy resource with
    | none => .error hiddenResourceError
    | some policy => .ok policy

def roleRank : DashboardResourceRole → Nat
  | .read => 1
  | .control => 2
  | .admin => 3

/-! ## Queries -/

inductive Query where
  | effectiveRole (principal : DashboardPrincipal) (resource : DashboardResourceRef)
  | require (principal : DashboardPrincipal) (resource : DashboardResourceRef)
      (requiredRole : DashboardResourceRole)
  | listPolicies (principal : DashboardPrincipal) (kind : Option DashboardResourceKind)
      (limit : Option Nat)
  | policy (principal : DashboardPrincipal) (resource : DashboardResourceRef)
  | auditEvents (principal : DashboardPrincipal) (resource : Option DashboardResourceRef)
      (afterSequence : Option Nat) (limit : Option Nat)
  deriving DecidableEq

inductive Answer where
  | role (role : Option DashboardResourceRole)
  | policies (policies : List DashboardResourcePolicy) (truncated : Bool)
  | policy (policy : DashboardResourcePolicy)
  | events (events : List DashboardAuthorizationAuditEvent) (droppedEvents nextSequence : Nat)
  deriving DecidableEq

namespace Ledger

def require (ledger : Ledger) (principal : DashboardPrincipal) (resource : DashboardResourceRef)
    (requiredRole : DashboardResourceRole) : Except Failure DashboardResourceRole :=
  match ledger.effectiveRole service principal resource with
  | none => .error hiddenResourceError
  | some role => if roleRank role < roleRank requiredRole then .error hiddenResourceError else .ok role

def listPolicies (ledger : Ledger) (principal : DashboardPrincipal)
    (kind : Option DashboardResourceKind) (limit : Nat) : Answer :=
  let visible := ledger.state.policies.filter fun policy =>
    kind.all (policy.resource.kind = ·) &&
      (ledger.effectiveRole service principal policy.resource).isSome
  .policies (visible.take limit) (visible.length > limit)

/-- The events of one resource, numbered among themselves. -/
def resourceEvents (ledger : Ledger) (resource : DashboardResourceRef) :
    List DashboardAuthorizationAuditEvent :=
  (ledger.state.audit.filter fun event =>
    resourceKey event.facts.resource = resourceKey resource).mapIdx fun index event =>
      { event with sequence := index + 1 }

def auditEvents (ledger : Ledger) (principal : DashboardPrincipal)
    (resource : Option DashboardResourceRef) (afterSequence limit : Nat) : Except Failure Answer :=
  match resource with
  | none =>
    if principal.globalRole ≠ .administrator then .error hiddenResourceError
    else
      .ok (.events ((ledger.state.audit.filter (·.sequence > afterSequence)).take limit)
        ledger.state.droppedAuditEvents ledger.state.nextAuditSequence)
  | some resource =>
    if ledger.effectiveRole service principal resource ≠ some .admin then .error hiddenResourceError
    else
      let events := ledger.resourceEvents resource
      .ok (.events ((events.filter (·.sequence > afterSequence)).take limit) 0 (events.length + 1))

/-- What a query answers once it has waited for the mutations before it. -/
def answer (ledger : Ledger) : Query → Except Failure Answer
  | .effectiveRole principal resource =>
    .ok (.role (ledger.effectiveRole service principal resource))
  | .require principal resource requiredRole =>
    (ledger.require service principal resource requiredRole).map fun role => .role (some role)
  | .listPolicies principal kind limit =>
    .ok (ledger.listPolicies service principal kind (limit.getD 100))
  | .policy principal resource =>
    (ledger.mutableAdminPolicy service principal resource).map .policy
  | .auditEvents principal resource afterSequence limit =>
    ledger.auditEvents service principal resource (afterSequence.getD 0) (limit.getD 100)

end Ledger

/-! ## Writing -/

section
variable (limits : DashboardAuthorizationLimits)

def fits (state : DashboardAuthorizationState) : Bool := jsonBytes state + 1 ≤ limits.maxBytes

/-- The first loop of `#write`. -/
def dropReceipts (state : DashboardAuthorizationState) :
    List DashboardAuthorizationIdempotencyReceipt → DashboardAuthorizationState
  | [] => { state with idempotency := [] }
  | receipt :: rest =>
    if fits limits { state with idempotency := receipt :: rest } then
      { state with idempotency := receipt :: rest }
    else dropReceipts state rest

/-- The second loop of `#write`, after so many dropped events. -/
def dropAudit (state : DashboardAuthorizationState) :
    List DashboardAuthorizationAuditEvent → Nat → DashboardAuthorizationState
  | [], dropped => { state with audit := [], droppedAuditEvents := dropped }
  | event :: rest, dropped =>
    if fits limits { state with audit := event :: rest, droppedAuditEvents := dropped } then
      { state with audit := event :: rest, droppedAuditEvents := dropped }
    else dropAudit state rest (dropped + 1)

def trim (state : DashboardAuthorizationState) : DashboardAuthorizationState :=
  let state := dropReceipts limits state state.idempotency
  dropAudit limits state state.audit state.droppedAuditEvents

/-- `#write`, up to the writing of the file. -/
def write (ledger : Ledger) (policy : DashboardResourcePolicy) : Ledger × Attempt :=
  let state := trim limits ledger.state
  ({ ledger with state },
    if fits limits state then .writes policy
    else
      .throws (.authorization
        { code := "authorization_state_capacity"
          message := "authorization state exceeds its byte limit", status := 503 }))

def appendAudit (state : DashboardAuthorizationState) (facts : AuditFacts) (occurredAt : Timestamp)
    (eventId : EventId) : DashboardAuthorizationState :=
  let audit := state.audit ++ [⟨state.nextAuditSequence, eventId, occurredAt, facts⟩]
  let dropped := audit.length - limits.maxAuditEvents
  { state with
    audit := audit.drop dropped
    nextAuditSequence := state.nextAuditSequence + 1
    droppedAuditEvents := state.droppedAuditEvents + dropped }

end

def appendReceipt (state : DashboardAuthorizationState)
    (receipt : Option PendingIdempotencyReceipt) (result : DashboardResourcePolicy) :
    DashboardAuthorizationState :=
  match receipt with
  | none => state
  | some pending =>
    let idempotency := state.idempotency ++ [⟨pending, result⟩]
    { state with
      idempotency := idempotency.drop (idempotency.length - MAX_IDEMPOTENCY_RECEIPTS) }

def invalidDate : Failure := .error "now returned an invalid date"

def createPolicy (ledger : Ledger) (actorIdentityId ownerIdentityId : JsString)
    (resource : DashboardResourceRef) (action : DashboardAuthorizationAuditAction)
    (now : Option Timestamp) (eventId : EventId) : Ledger × Attempt :=
  let state := ledger.state
  if state.policies.length ≥ service.limits.maxPolicies then
    (ledger, .throws (.authorization
      { code := "authorization_policy_capacity"
        message := "authorization policy capacity is exhausted", status := 503 }))
  else
    match now with
    | none => (ledger, .throws invalidDate)
    | some timestamp =>
      let policy : DashboardResourcePolicy :=
        { resource, ownerIdentityId, grants := [], revision := 1
          createdAt := timestamp, updatedAt := timestamp }
      let policies := (state.policies ++ [policy]).insertionSort fun left right =>
        service.localeLe (resourceKey left.resource) (resourceKey right.resource) = true
      let state := appendAudit service.limits
        { state with policies, revision := state.revision + 1 }
        { actorIdentityId, action, resource, subjectIdentityId := some ownerIdentityId }
        timestamp eventId
      write service.limits
        { state, policyIndex := ledger.policyIndex.set (resourceKey resource) policy } policy

/-- `#replacePolicy`; `next` gives the new owner and grants. -/
def replacePolicy (ledger : Ledger) (previous next : DashboardResourcePolicy) (facts : AuditFacts)
    (receipt : Option PendingIdempotencyReceipt) (now : Option Timestamp) (eventId : EventId) :
    Ledger × Attempt :=
  let state := ledger.state
  match state.policies.findIdx? (· = previous) with
  | none => (ledger, .throws (.error "authorization policy disappeared during mutation"))
  | some index =>
    match now with
    | none => (ledger, .throws invalidDate)
    | some timestamp =>
      let updated :=
        { next with
          revision := previous.revision + 1
          createdAt := previous.createdAt
          updatedAt := timestamp }
      let state := appendAudit service.limits
        { state with policies := state.policies.set index updated, revision := state.revision + 1 }
        facts timestamp eventId
      write service.limits
        { state := appendReceipt state receipt updated
          policyIndex := ledger.policyIndex.set (resourceKey updated.resource) updated } updated

def recordReceipt (ledger : Ledger) (policy : DashboardResourcePolicy)
    (receipt : Option PendingIdempotencyReceipt) : Ledger × Attempt :=
  if receipt.isNone then (ledger, .returns policy)
  else
    let state := { ledger.state with revision := ledger.state.revision + 1 }
    write service.limits { ledger with state := appendReceipt state receipt policy } policy

def replayReceipt (ledger : Ledger) (receipt : Option PendingIdempotencyReceipt) :
    Except Failure (Option DashboardResourcePolicy) :=
  match receipt with
  | none => .ok none
  | some receipt =>
    let retained := ledger.state.idempotency.find? fun candidate =>
      candidate.pending.actorIdentityId = receipt.actorIdentityId &&
        candidate.pending.key = receipt.key
    match retained with
    | none => .ok none
    | some retained =>
      if retained.pending.fingerprint ≠ receipt.fingerprint then
        .error (.authorization
          { code := "idempotency_conflict"
            message := "idempotency key was already used for another authorization mutation"
            status := 409 })
      else .ok (some retained.result)

/-! ## Arguments -/

def validatePrincipal (principal : DashboardPrincipal) : Except Failure Unit :=
  validateDashboardIdentityId principal.identityId

def validateResourceRef (resource : DashboardResourceRef) : Except Failure Unit :=
  check (isName MAX_RESOURCE_ID_BYTES resource.id) (invalidRequest "resource reference is invalid")

def validateRevision (value : Nat) : Except Failure Unit :=
  check (1 ≤ value && value ≤ maxSafeInteger) (invalidRequest "expected revision is invalid")

def assertExpectedRevision (policy : DashboardResourcePolicy) (expected : Nat) :
    Except Failure Unit :=
  check (policy.revision = expected)
    (.authorization
      { code := "authorization_revision_conflict"
        message := "authorization policy revision no longer matches", status := 409 })

def optionText (value : Option JsString) : JsValue Nat := (value.map .string).getD .null

def pendingReceipt (principal : DashboardPrincipal) (key : Option JsString)
    (request : JsMembers Nat) : Except Failure (Option PendingIdempotencyReceipt) :=
  match key with
  | none => .ok none
  | some key => do
    check (1 ≤ key.length && byteLength key ≤ 512) (invalidRequest "idempotency key is invalid")
    .ok (some
      { actorIdentityId := principal.identityId, key
        fingerprint := service.digest ((stringify decimal (.object request)).getD []) })

def validateLimit (limit : Option Nat) (message : String) : Except Failure Unit :=
  check (1 ≤ limit.getD 100 && limit.getD 100 ≤ 1000) (invalidRequest message)

/-- What a query checks when it is called. -/
def Query.validate : Query → Except Failure Unit
  | .effectiveRole principal resource => do
    validatePrincipal principal
    validateResourceRef resource
  | .require principal resource _ => do
    validatePrincipal principal
    validateResourceRef resource
  | .listPolicies principal _ limit => do
    validatePrincipal principal
    validateLimit limit "policy limit is invalid"
  | .policy principal resource => do
    validatePrincipal principal
    validateResourceRef resource
  | .auditEvents principal resource afterSequence limit => do
    validatePrincipal principal
    resource.forM validateResourceRef
    check (afterSequence.getD 0 ≤ maxSafeInteger) (invalidRequest "audit cursor is invalid")
    validateLimit limit "audit limit is invalid"

/-! ## Mutations -/

def conflict : Failure :=
  .authorization
    { code := "authorization_resource_conflict"
      message := "authorization resource registration conflicted", status := 409 }

/-- What creating a policy does where it may exist already. -/
def registerPolicy (actor owner : JsString) (resource : DashboardResourceRef)
    (action : DashboardAuthorizationAuditAction) : Operation := fun ledger now eventId =>
  match ledger.policy resource with
  | some existing =>
    (ledger, if existing.ownerIdentityId = owner then .returns existing else .throws conflict)
  | none => createPolicy service ledger actor owner resource action now eventId

def registerCreatedResource (principal : DashboardPrincipal) (resource : DashboardResourceRef) :
    Except Failure Operation := do
  validatePrincipal principal
  validateResourceRef resource
  .ok (registerPolicy service principal.identityId principal.identityId resource .resourceCreated)

def adoptResource (principal : DashboardPrincipal) (resource : DashboardResourceRef)
    (ownerIdentityId : JsString) : Except Failure Operation := do
  validatePrincipal principal
  validateResourceRef resource
  validateDashboardIdentityId ownerIdentityId
  check (principal.globalRole = .administrator) hiddenResourceError
  .ok (registerPolicy service principal.identityId ownerIdentityId resource .resourceAdopted)

/-- The head that the mutations of a policy share: the receipt is replayed, or the policy is
found, and `edit` continues with it. -/
def withPolicy (principal : DashboardPrincipal) (resource : DashboardResourceRef)
    (expectedRevision : Nat) (receipt : Option PendingIdempotencyReceipt)
    (edit : DashboardResourcePolicy → Operation) : Operation := fun ledger now eventId =>
  match replayReceipt ledger receipt with
  | .error failure => (ledger, .throws failure)
  | .ok (some result) => (ledger, .returns result)
  | .ok none =>
    let found := do
      let policy ← ledger.mutableAdminPolicy service principal resource
      assertExpectedRevision policy expectedRevision
      .ok policy
    match found with
    | .error failure => (ledger, .throws failure)
    | .ok policy => edit policy ledger now eventId

/-- `grants.sort((left, right) => left.identityId.localeCompare(right.identityId))` -/
def sortGrants (grants : List DashboardResourceGrant) : List DashboardResourceGrant :=
  grants.insertionSort fun left right => service.localeLe left.identityId right.identityId = true

structure SetGrantOptions where
  principal : DashboardPrincipal
  resource : DashboardResourceRef
  subjectIdentityId : JsString
  role : DashboardResourceRole
  expectedRevision : Nat
  idempotencyKey : Option JsString
  deriving DecidableEq

def setGrantEdit (options : SetGrantOptions) (receipt : Option PendingIdempotencyReceipt)
    (policy : DashboardResourcePolicy) : Operation := fun ledger now eventId =>
  let subject := options.subjectIdentityId
  if subject = policy.ownerIdentityId then
    (ledger, .throws (.authorization
      { code := "authorization_owner_grant_invalid"
        message := "resource owner access is implicit", status := 409 }))
  else
    let grants := sortGrants service
      (policy.grants.filter (·.identityId ≠ subject) ++ [⟨subject, options.role⟩])
    if grants.length > service.limits.maxGrantsPerPolicy then
      (ledger, .throws (.authorization
        { code := "authorization_grant_capacity"
          message := "resource grant capacity is exhausted", status := 503 }))
    else
      replacePolicy service ledger policy { policy with grants }
        { actorIdentityId := options.principal.identityId, action := .grantSet
          resource := options.resource, subjectIdentityId := some subject
          role := some options.role }
        receipt now eventId

def setGrant (options : SetGrantOptions) : Except Failure Operation := do
  validatePrincipal options.principal
  validateResourceRef options.resource
  validateDashboardIdentityId options.subjectIdentityId
  validateRevision options.expectedRevision
  let receipt ← pendingReceipt service options.principal options.idempotencyKey
    (.cons (text "operation") (.string (text "grant-set"))
    (.cons (text "resource") options.resource.toJson
    (.cons (text "subjectIdentityId") (.string options.subjectIdentityId)
    (.cons (text "role") (.string options.role.text)
    (.cons (text "expectedRevision") (.number options.expectedRevision) .nil)))))
  .ok (withPolicy service options.principal options.resource options.expectedRevision receipt
    (setGrantEdit service options receipt))

structure RevokeGrantOptions where
  principal : DashboardPrincipal
  resource : DashboardResourceRef
  subjectIdentityId : JsString
  expectedRevision : Nat
  idempotencyKey : Option JsString
  deriving DecidableEq

def revokeGrantEdit (options : RevokeGrantOptions) (receipt : Option PendingIdempotencyReceipt)
    (policy : DashboardResourcePolicy) : Operation := fun ledger now eventId =>
  let grants := policy.grants.filter (·.identityId ≠ options.subjectIdentityId)
  if grants.length = policy.grants.length then recordReceipt service ledger policy receipt
  else
    replacePolicy service ledger policy { policy with grants }
      { actorIdentityId := options.principal.identityId, action := .grantRevoked
        resource := options.resource, subjectIdentityId := some options.subjectIdentityId }
      receipt now eventId

def revokeGrant (options : RevokeGrantOptions) : Except Failure Operation := do
  validatePrincipal options.principal
  validateResourceRef options.resource
  validateDashboardIdentityId options.subjectIdentityId
  validateRevision options.expectedRevision
  let receipt ← pendingReceipt service options.principal options.idempotencyKey
    (.cons (text "operation") (.string (text "grant-revoked"))
    (.cons (text "resource") options.resource.toJson
    (.cons (text "subjectIdentityId") (.string options.subjectIdentityId)
    (.cons (text "expectedRevision") (.number options.expectedRevision) .nil))))
  .ok (withPolicy service options.principal options.resource options.expectedRevision receipt
    (revokeGrantEdit service options receipt))

structure TransferOwnershipOptions where
  principal : DashboardPrincipal
  resource : DashboardResourceRef
  newOwnerIdentityId : JsString
  previousOwnerRole : Option DashboardResourceRole
  expectedRevision : Nat
  idempotencyKey : Option JsString
  deriving DecidableEq

/-- The grants after a transfer. -/
def transferGrants (options : TransferOwnershipOptions) (policy : DashboardResourcePolicy) :
    List DashboardResourceGrant :=
  let previousOwner := policy.ownerIdentityId
  let grants := policy.grants.filter fun grant =>
    grant.identityId ≠ options.newOwnerIdentityId && grant.identityId ≠ previousOwner
  sortGrants service (grants ++ (options.previousOwnerRole.map (⟨previousOwner, ·⟩)).toList)

def transferOwnershipEdit (options : TransferOwnershipOptions)
    (receipt : Option PendingIdempotencyReceipt) (policy : DashboardResourcePolicy) : Operation :=
  fun ledger now eventId =>
  if policy.ownerIdentityId = options.newOwnerIdentityId then
    recordReceipt service ledger policy receipt
  else
    replacePolicy service ledger policy
      { policy with
        ownerIdentityId := options.newOwnerIdentityId
        grants := transferGrants service options policy }
      { actorIdentityId := options.principal.identityId, action := .ownershipTransferred
        resource := options.resource, subjectIdentityId := some options.newOwnerIdentityId
        previousOwnerIdentityId := some policy.ownerIdentityId
        role := options.previousOwnerRole }
      receipt now eventId

def transferOwnership (options : TransferOwnershipOptions) : Except Failure Operation := do
  validatePrincipal options.principal
  validateResourceRef options.resource
  validateDashboardIdentityId options.newOwnerIdentityId
  validateRevision options.expectedRevision
  let receipt ← pendingReceipt service options.principal options.idempotencyKey
    (.cons (text "operation") (.string (text "ownership-transferred"))
    (.cons (text "resource") options.resource.toJson
    (.cons (text "newOwnerIdentityId") (.string options.newOwnerIdentityId)
    (.cons (text "previousOwnerRole") (optionText (options.previousOwnerRole.map (·.text)))
    (.cons (text "expectedRevision") (.number options.expectedRevision) .nil)))))
  .ok (withPolicy service options.principal options.resource options.expectedRevision receipt
    (transferOwnershipEdit service options receipt))

structure ControllerTransferOptions where
  principal : DashboardPrincipal
  resource : DashboardResourceRef
  previousControllerIdentityId : Option JsString
  newControllerIdentityId : JsString
  expectedRevision : Nat
  idempotencyKey : JsString
  deriving DecidableEq

def recordControllerTransferEdit (options : ControllerTransferOptions)
    (receipt : Option PendingIdempotencyReceipt) (policy : DashboardResourcePolicy) : Operation :=
  fun ledger now eventId =>
  match now with
  | none => (ledger, .throws invalidDate)
  | some timestamp =>
    let state := appendAudit service.limits
      { ledger.state with revision := ledger.state.revision + 1 }
      { actorIdentityId := options.principal.identityId, action := .controllerTransferred
        resource := options.resource
        subjectIdentityId := some options.newControllerIdentityId
        previousControllerIdentityId := options.previousControllerIdentityId }
      timestamp eventId
    write service.limits { ledger with state := appendReceipt state receipt policy } policy

def recordControllerTransfer (options : ControllerTransferOptions) : Except Failure Operation := do
  validatePrincipal options.principal
  validateResourceRef options.resource
  options.previousControllerIdentityId.forM validateDashboardIdentityId
  validateDashboardIdentityId options.newControllerIdentityId
  validateRevision options.expectedRevision
  let receipt ← pendingReceipt service options.principal (some options.idempotencyKey)
    (.cons (text "operation") (.string (text "controller-transferred"))
    (.cons (text "resource") options.resource.toJson
    (.cons (text "previousControllerIdentityId") (optionText options.previousControllerIdentityId)
    (.cons (text "newControllerIdentityId") (.string options.newControllerIdentityId)
    (.cons (text "expectedRevision") (.number options.expectedRevision) .nil)))))
  .ok (withPolicy service options.principal options.resource options.expectedRevision receipt
    (recordControllerTransferEdit service options receipt))

inductive Mutation where
  | registerCreatedResource (principal : DashboardPrincipal) (resource : DashboardResourceRef)
  | adoptResource (principal : DashboardPrincipal) (resource : DashboardResourceRef)
      (ownerIdentityId : JsString)
  | setGrant (options : SetGrantOptions)
  | revokeGrant (options : RevokeGrantOptions)
  | transferOwnership (options : TransferOwnershipOptions)
  | recordControllerTransfer (options : ControllerTransferOptions)
  deriving DecidableEq

namespace Mutation

def principal : Mutation → DashboardPrincipal
  | .registerCreatedResource principal _ => principal
  | .adoptResource principal _ _ => principal
  | .setGrant options => options.principal
  | .revokeGrant options => options.principal
  | .transferOwnership options => options.principal
  | .recordControllerTransfer options => options.principal

def resource : Mutation → DashboardResourceRef
  | .registerCreatedResource _ resource => resource
  | .adoptResource _ resource _ => resource
  | .setGrant options => options.resource
  | .revokeGrant options => options.resource
  | .transferOwnership options => options.resource
  | .recordControllerTransfer options => options.resource

def idempotencyKey : Mutation → Option JsString
  | .registerCreatedResource _ _ => none
  | .adoptResource _ _ _ => none
  | .setGrant options => options.idempotencyKey
  | .revokeGrant options => options.idempotencyKey
  | .transferOwnership options => options.idempotencyKey
  | .recordControllerTransfer options => some options.idempotencyKey

/-- The call of a mutation: it throws, or has its operation queued. -/
def call : Mutation → Except Failure Operation
  | .registerCreatedResource principal resource =>
    Authorization.registerCreatedResource service principal resource
  | .adoptResource principal resource owner =>
    Authorization.adoptResource service principal resource owner
  | .setGrant options => Authorization.setGrant service options
  | .revokeGrant options => Authorization.revokeGrant service options
  | .transferOwnership options => Authorization.transferOwnership service options
  | .recordControllerTransfer options => Authorization.recordControllerTransfer service options

end Mutation

end PiDaemon.Authorization
