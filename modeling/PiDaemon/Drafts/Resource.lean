import PiDaemon.Lib.Calendar
import PiDaemon.Lib.Checks
import PiDaemon.Lib.Json

/-!
# Session drafts

The resources and tickets of the draft store, their JSON, and their validation.  Fields whose
type is fixed here are not checked again; what a file may hold instead is a malformed item.

A timestamp is a text that `Date.parse` reads, with the instant that it reads; a digest is a
text of hexadecimal digits.

* `validateDashboardSessionDraftResource_ok`, `validateDashboardSessionDraftSendTicket_ok`: a
  validated value is the value itself, and its checks hold.
-/

namespace PiDaemon.Drafts

open Lib

/-! ## Errors -/

structure DashboardSessionDraftError where
  code : String
  message : String
  retryable : Bool := false
  deriving DecidableEq

def invalid (message : String) : DashboardSessionDraftError := { code := "invalid_draft", message }

def conflict (code message : String) : DashboardSessionDraftError := { code, message }

def notFound (code message : String) : DashboardSessionDraftError := { code, message }

/-! ## Texts -/

def isAlphanumeric (u : UInt16) : Bool :=
  (0x30 ≤ u.toNat && u.toNat ≤ 0x39) || (0x41 ≤ u.toNat && u.toNat ≤ 0x5a) ||
    (0x61 ≤ u.toNat && u.toNat ≤ 0x7a)

/-- `/^[A-Za-z0-9][A-Za-z0-9._:-]*$/u` -/
def isId (value : JsString) : Bool :=
  value.head?.any isAlphanumeric &&
    value.all fun u => isAlphanumeric u || u = 0x2e || u = 0x5f || u = 0x3a || u = 0x2d

def boundedString (value : JsString) (field : String) (min max : Nat) :
    Except DashboardSessionDraftError Unit :=
  check (min ≤ value.length && value.length ≤ max && !value.contains 0)
    (invalid (field ++ " is invalid"))

def boundedId (value : JsString) (field : String) (max : Nat) :
    Except DashboardSessionDraftError Unit := do
  boundedString value field 1 max
  check (isId value) (invalid (field ++ " is invalid"))

def validateId (value : JsString) (field : String) : Except DashboardSessionDraftError Unit :=
  boundedId value field 128

/-- `Number.MAX_SAFE_INTEGER` -/
def maxSafeInteger : Nat := 9007199254740991

def positiveInteger (value : Nat) (field : String) : Except DashboardSessionDraftError Unit :=
  check (value ≤ maxSafeInteger && 1 ≤ value) (invalid (field ++ " is invalid"))

def nonNegativeInteger (value : Nat) (field : String) : Except DashboardSessionDraftError Unit :=
  check (value ≤ maxSafeInteger) (invalid (field ++ " is invalid"))

/-- `/^[a-f0-9]{64}$/u` -/
def isHexDigest (value : JsString) : Bool :=
  value.length = 64 &&
    value.all fun u => (0x30 ≤ u.toNat && u.toNat ≤ 0x39) || (0x61 ≤ u.toNat && u.toNat ≤ 0x66)

structure Digest where
  text : JsString
  hex : isHexDigest text = true
  deriving DecidableEq

/-- What `timestamp` accepts. -/
structure Timestamp where
  text : JsString
  ms : Int
  bounded : 20 ≤ text.length ∧ text.length ≤ 64 ∧ text.contains 0 = false
  deriving DecidableEq

/-! ## Resources -/

structure DashboardSessionDraftLimits where
  maxDrafts : Nat
  maxTickets : Nat
  maxStateBytes : Nat
  maxCwdChars : Nat
  maxNameChars : Nat
  maxMessageChars : Nat
  maxToolNames : Nat
  maxToolNameChars : Nat
  terminalRetentionMs : Nat
  deriving DecidableEq

def DEFAULT_DASHBOARD_SESSION_DRAFT_LIMITS : DashboardSessionDraftLimits where
  maxDrafts := 256
  maxTickets := 512
  maxStateBytes := 16 * 1024 * 1024
  maxCwdChars := 4096
  maxNameChars := 128
  maxMessageChars := 256 * 1024
  maxToolNames := 32
  maxToolNameChars := 128
  terminalRetentionMs := 7 * 24 * 60 * 60 * 1000

inductive DraftPersistence where
  | persistent
  | memory
  deriving DecidableEq

inductive SessionThinkingLevel where
  | off
  | minimal
  | low
  | medium
  | high
  | xhigh
  | max
  deriving DecidableEq

structure DraftModel where
  provider : JsString
  id : JsString
  thinkingLevel : Option SessionThinkingLevel
  deriving DecidableEq

inductive DraftToolMode where
  | default
  | none
  | noBuiltin
  | allowlist
  deriving DecidableEq

structure DraftTools where
  mode : DraftToolMode
  included : Option (List JsString)
  excluded : Option (List JsString)
  deriving DecidableEq

inductive DraftProjectTrust where
  | default
  | deny
  | approve
  deriving DecidableEq

structure DraftResources where
  noExtensions : Bool
  noSkills : Bool
  noPromptTemplates : Bool
  noThemes : Bool
  noContextFiles : Bool
  projectTrust : DraftProjectTrust
  deriving DecidableEq

structure DashboardSessionDraftSpec where
  cwd : JsString
  name : Option JsString
  persistence : DraftPersistence
  model : Option DraftModel
  tools : DraftTools
  resources : DraftResources
  deriving DecidableEq

inductive DashboardSessionDraftState where
  | draft
  | materializing
  | live
  | failed
  | indeterminate
  | cancelled
  deriving DecidableEq

inductive DashboardSessionDraftTicketState where
  | queued
  | running
  | succeeded
  | failed
  | indeterminate
  deriving DecidableEq

inductive DashboardSessionDraftPrivatePhase where
  | materializing
  | readyToPrompt
  | promptSubmitting
  deriving DecidableEq

structure DashboardSessionDraftIdentity where
  sessionId : JsString
  generation : Nat
  deriving DecidableEq

/-- An error with details is never stored. -/
structure ApiErrorBody where
  code : JsString
  message : JsString
  retryable : Bool
  hasDetails : Bool := false
  deriving DecidableEq

structure DashboardSessionDraftMaterialization where
  ticketId : JsString
  state : DashboardSessionDraftTicketState
  session : Option DashboardSessionDraftIdentity
  error : Option ApiErrorBody
  deriving DecidableEq

structure DashboardSessionDraftResource where
  draftId : JsString
  revision : Nat
  state : DashboardSessionDraftState
  createdAt : Timestamp
  updatedAt : Timestamp
  spec : DashboardSessionDraftSpec
  materialization : Option DashboardSessionDraftMaterialization
  deriving DecidableEq

structure DashboardSessionDraftSendTicket where
  ticketId : JsString
  draftId : JsString
  draftRevision : Nat
  requestId : JsString
  idempotencyKey : JsString
  state : DashboardSessionDraftTicketState
  submittedAt : Timestamp
  updatedAt : Timestamp
  session : Option DashboardSessionDraftIdentity
  error : Option ApiErrorBody
  deriving DecidableEq

structure StoredDraft where
  resource : DashboardSessionDraftResource
  createIdempotencyKey : JsString
  createFingerprint : Digest
  cancelIdempotencyKey : Option JsString
  cancelFingerprint : Option Digest
  deriving DecidableEq

structure StoredTicket where
  ticket : DashboardSessionDraftSendTicket
  fingerprint : Digest
  message : JsString
  phase : DashboardSessionDraftPrivatePhase
  targetSession : DashboardSessionDraftIdentity
  deriving DecidableEq

/-! ## Files -/

def DraftPersistence.text : DraftPersistence → JsString
  | .persistent => Lib.text "persistent"
  | .memory => Lib.text "memory"

def SessionThinkingLevel.text : SessionThinkingLevel → JsString
  | .off => Lib.text "off"
  | .minimal => Lib.text "minimal"
  | .low => Lib.text "low"
  | .medium => Lib.text "medium"
  | .high => Lib.text "high"
  | .xhigh => Lib.text "xhigh"
  | .max => Lib.text "max"

def DraftToolMode.text : DraftToolMode → JsString
  | .default => Lib.text "default"
  | .none => Lib.text "none"
  | .noBuiltin => Lib.text "no-builtin"
  | .allowlist => Lib.text "allowlist"

def DraftProjectTrust.text : DraftProjectTrust → JsString
  | .default => Lib.text "default"
  | .deny => Lib.text "deny"
  | .approve => Lib.text "approve"

def DashboardSessionDraftState.text : DashboardSessionDraftState → JsString
  | .draft => Lib.text "draft"
  | .materializing => Lib.text "materializing"
  | .live => Lib.text "live"
  | .failed => Lib.text "failed"
  | .indeterminate => Lib.text "indeterminate"
  | .cancelled => Lib.text "cancelled"

def DashboardSessionDraftTicketState.text : DashboardSessionDraftTicketState → JsString
  | .queued => Lib.text "queued"
  | .running => Lib.text "running"
  | .succeeded => Lib.text "succeeded"
  | .failed => Lib.text "failed"
  | .indeterminate => Lib.text "indeterminate"

def DashboardSessionDraftPrivatePhase.text : DashboardSessionDraftPrivatePhase → JsString
  | .materializing => Lib.text "materializing"
  | .readyToPrompt => Lib.text "ready-to-prompt"
  | .promptSubmitting => Lib.text "prompt-submitting"

def DraftModel.toJson (model : DraftModel) : JsValue Nat :=
  .object (.cons (text "provider") (.string model.provider)
    (.cons (text "id") (.string model.id)
    (optionMember "thinkingLevel" (model.thinkingLevel.map fun level => .string level.text) .nil)))

def namesToJson (names : List JsString) : JsValue Nat := .array (jsSlots (names.map .string))

def DraftTools.toJson (tools : DraftTools) : JsValue Nat :=
  .object (.cons (text "mode") (.string tools.mode.text)
    (optionMember "include" (tools.included.map namesToJson)
    (optionMember "exclude" (tools.excluded.map namesToJson) .nil)))

def DraftResources.toJson (resources : DraftResources) : JsValue Nat :=
  .object (.cons (text "noExtensions") (.boolean resources.noExtensions)
    (.cons (text "noSkills") (.boolean resources.noSkills)
    (.cons (text "noPromptTemplates") (.boolean resources.noPromptTemplates)
    (.cons (text "noThemes") (.boolean resources.noThemes)
    (.cons (text "noContextFiles") (.boolean resources.noContextFiles)
    (.cons (text "projectTrust") (.string resources.projectTrust.text) .nil))))))

def DashboardSessionDraftSpec.toJson (spec : DashboardSessionDraftSpec) : JsValue Nat :=
  .object (.cons (text "cwd") (.string spec.cwd)
    (optionMember "name" (spec.name.map .string)
    (.cons (text "persistence") (.string spec.persistence.text)
    (optionMember "model" (spec.model.map DraftModel.toJson)
    (.cons (text "tools") spec.tools.toJson
    (.cons (text "resources") spec.resources.toJson
    (.cons (text "isolation") (.object (.cons (text "mode") (.string (text "unisolated")) .nil))
      .nil)))))))

def DashboardSessionDraftIdentity.toJson (session : DashboardSessionDraftIdentity) : JsValue Nat :=
  .object (.cons (text "sessionId") (.string session.sessionId)
    (.cons (text "generation") (.number session.generation) .nil))

def ApiErrorBody.toJson (error : ApiErrorBody) : JsValue Nat :=
  .object (.cons (text "code") (.string error.code)
    (.cons (text "message") (.string error.message)
    (.cons (text "retryable") (.boolean error.retryable) .nil)))

def DashboardSessionDraftMaterialization.toJson
    (materialization : DashboardSessionDraftMaterialization) : JsValue Nat :=
  .object (.cons (text "ticketId") (.string materialization.ticketId)
    (.cons (text "state") (.string materialization.state.text)
    (optionMember "session" (materialization.session.map (·.toJson))
    (optionMember "error" (materialization.error.map ApiErrorBody.toJson) .nil))))

def DashboardSessionDraftResource.toJson (resource : DashboardSessionDraftResource) :
    JsValue Nat :=
  .object (.cons (text "contractVersion") (.string (text "1.0"))
    (.cons (text "draftId") (.string resource.draftId)
    (.cons (text "revision") (.number resource.revision)
    (.cons (text "state") (.string resource.state.text)
    (.cons (text "createdAt") (.string resource.createdAt.text)
    (.cons (text "updatedAt") (.string resource.updatedAt.text)
    (.cons (text "spec") resource.spec.toJson
    (.cons (text "firstMessageStartsSession") (.boolean true)
    (optionMember "materialization" (resource.materialization.map (·.toJson)) .nil)))))))))

def DashboardSessionDraftSendTicket.toJson (ticket : DashboardSessionDraftSendTicket) :
    JsValue Nat :=
  .object (.cons (text "ticketId") (.string ticket.ticketId)
    (.cons (text "draftId") (.string ticket.draftId)
    (.cons (text "draftRevision") (.number ticket.draftRevision)
    (.cons (text "requestId") (.string ticket.requestId)
    (.cons (text "idempotencyKey") (.string ticket.idempotencyKey)
    (.cons (text "state") (.string ticket.state.text)
    (.cons (text "submittedAt") (.string ticket.submittedAt.text)
    (.cons (text "updatedAt") (.string ticket.updatedAt.text)
    (optionMember "session" (ticket.session.map (·.toJson))
    (optionMember "error" (ticket.error.map ApiErrorBody.toJson) .nil))))))))))

def StoredDraft.toJson (stored : StoredDraft) : JsValue Nat :=
  .object (.cons (text "resource") stored.resource.toJson
    (.cons (text "createIdempotencyKey") (.string stored.createIdempotencyKey)
    (.cons (text "createFingerprint") (.string stored.createFingerprint.text)
    (optionMember "cancelIdempotencyKey" (stored.cancelIdempotencyKey.map .string)
    (optionMember "cancelFingerprint" (stored.cancelFingerprint.map fun d => .string d.text)
      .nil)))))

def StoredTicket.toJson (stored : StoredTicket) : JsValue Nat :=
  .object (.cons (text "ticket") stored.ticket.toJson
    (.cons (text "fingerprint") (.string stored.fingerprint.text)
    (.cons (text "message") (.string stored.message)
    (.cons (text "phase") (.string stored.phase.text)
    (.cons (text "targetSession") stored.targetSession.toJson .nil)))))

/-! ## Requests -/

structure DashboardSessionDraftCreateRequest where
  requestId : JsString
  idempotencyKey : JsString
  draftId : Option JsString
  spec : DashboardSessionDraftSpec
  deriving DecidableEq

structure DashboardSessionDraftCancelRequest where
  requestId : JsString
  idempotencyKey : JsString
  expectedRevision : Nat
  deriving DecidableEq

structure DashboardSessionDraftSendRequest where
  requestId : JsString
  idempotencyKey : JsString
  expectedRevision : Nat
  message : JsString
  deriving DecidableEq

/-- The states that a transition may expect. -/
inductive ExpectedTicketState where
  | queued
  | running
  deriving DecidableEq

def ExpectedTicketState.toState : ExpectedTicketState → DashboardSessionDraftTicketState
  | .queued => .queued
  | .running => .running

structure DashboardSessionDraftTransition where
  expectedState : ExpectedTicketState
  state : DashboardSessionDraftTicketState
  phase : Option DashboardSessionDraftPrivatePhase
  session : Option DashboardSessionDraftIdentity
  error : Option ApiErrorBody
  deriving DecidableEq

/-! ## Validation -/

def optionalStringArray (value : Option (List JsString)) (field : String)
    (limits : DashboardSessionDraftLimits) : Except DashboardSessionDraftError Unit :=
  value.forM fun names => do
    check (names.length ≤ limits.maxToolNames) (invalid (field ++ " is invalid"))
    names.zipIdx.forM fun (name, index) =>
      boundedId name (field ++ "[" ++ toString index ++ "]") limits.maxToolNameChars
    check (decide names.Nodup) (invalid (field ++ " contains duplicates"))

def validateDashboardSessionDraftSpec (spec : DashboardSessionDraftSpec)
    (limits : DashboardSessionDraftLimits) : Except DashboardSessionDraftError Unit := do
  optionalStringArray spec.tools.included "tools.include" limits
  optionalStringArray spec.tools.excluded "tools.exclude" limits
  check (spec.tools.mode ≠ .none ||
      ((spec.tools.included.getD []).isEmpty && (spec.tools.excluded.getD []).isEmpty))
    (invalid "none tool mode cannot include tool names")
  spec.model.forM fun model => do
    boundedString model.provider "model.provider" 1 128
    boundedString model.id "model.id" 1 256
  boundedString spec.cwd "cwd" 1 limits.maxCwdChars
  spec.name.forM fun name => boundedString name "name" 1 limits.maxNameChars

def draftSessionIdentity (session : DashboardSessionDraftIdentity) :
    Except DashboardSessionDraftError Unit := do
  validateId session.sessionId "sessionId"
  nonNegativeInteger session.generation "generation"

def draftError (error : ApiErrorBody) : Except DashboardSessionDraftError Unit := do
  check (!error.hasDetails) (invalid "draft error details are not browser-safe")
  boundedId error.code "error.code" 128
  boundedString error.message "error.message" 1 1024

/-- `materialization` -/
def checkMaterialization (materialization : DashboardSessionDraftMaterialization) :
    Except DashboardSessionDraftError Unit := do
  validateId materialization.ticketId "ticketId"
  materialization.session.forM draftSessionIdentity
  materialization.error.forM draftError

def checkResource (limits : DashboardSessionDraftLimits)
    (resource : DashboardSessionDraftResource) : Except DashboardSessionDraftError Unit := do
  validateId resource.draftId "draftId"
  positiveInteger resource.revision "revision"
  validateDashboardSessionDraftSpec resource.spec limits
  resource.materialization.forM checkMaterialization
  check (resource.state ≠ .draft || resource.materialization.isNone)
    (invalid "draft state cannot have materialization")

def validateDashboardSessionDraftResource (limits : DashboardSessionDraftLimits)
    (resource : DashboardSessionDraftResource) :
    Except DashboardSessionDraftError DashboardSessionDraftResource := do
  checkResource limits resource
  .ok resource

def checkSendTicket (ticket : DashboardSessionDraftSendTicket) :
    Except DashboardSessionDraftError Unit := do
  validateId ticket.ticketId "ticketId"
  validateId ticket.draftId "draftId"
  positiveInteger ticket.draftRevision "draftRevision"
  boundedId ticket.requestId "requestId" 128
  boundedId ticket.idempotencyKey "idempotencyKey" 512
  ticket.session.forM draftSessionIdentity
  ticket.error.forM draftError
  check (ticket.state ≠ .succeeded || ticket.session.isSome)
    (invalid "succeeded draft ticket requires session identity")
  check (ticket.state ≠ .failed || ticket.error.isSome)
    (invalid "failed draft ticket requires error")

def validateDashboardSessionDraftSendTicket (ticket : DashboardSessionDraftSendTicket) :
    Except DashboardSessionDraftError DashboardSessionDraftSendTicket := do
  checkSendTicket ticket
  .ok ticket

def validateDashboardSessionDraftCreateRequest (request : DashboardSessionDraftCreateRequest)
    (limits : DashboardSessionDraftLimits) : Except DashboardSessionDraftError Unit := do
  boundedId request.requestId "requestId" 128
  boundedId request.idempotencyKey "idempotencyKey" 512
  request.draftId.forM fun draftId => validateId draftId "draftId"
  validateDashboardSessionDraftSpec request.spec limits

def validateDashboardSessionDraftCancelRequest (request : DashboardSessionDraftCancelRequest) :
    Except DashboardSessionDraftError Unit := do
  boundedId request.requestId "requestId" 128
  boundedId request.idempotencyKey "idempotencyKey" 512
  positiveInteger request.expectedRevision "expectedRevision"

def validateDashboardSessionDraftSendRequest (request : DashboardSessionDraftSendRequest)
    (limits : DashboardSessionDraftLimits) : Except DashboardSessionDraftError Unit := do
  boundedString request.message "message" 1 limits.maxMessageChars
  boundedId request.requestId "requestId" 128
  boundedId request.idempotencyKey "idempotencyKey" 512
  positiveInteger request.expectedRevision "expectedRevision"

def allowedTransition : ExpectedTicketState → DashboardSessionDraftTicketState → Bool
  | .queued, state => state = .running || state = .failed || state = .indeterminate
  | .running, state =>
    state = .running || state = .succeeded || state = .failed || state = .indeterminate

def DashboardSessionDraftPrivatePhase.order : DashboardSessionDraftPrivatePhase → Nat
  | .materializing => 0
  | .readyToPrompt => 1
  | .promptSubmitting => 2

def validateTicketTransition (transition : DashboardSessionDraftTransition)
    (currentPhase : DashboardSessionDraftPrivatePhase)
    (targetSession : DashboardSessionDraftIdentity)
    (currentSession : Option DashboardSessionDraftIdentity) :
    Except DashboardSessionDraftError Unit := do
  check (allowedTransition transition.expectedState transition.state)
    (conflict "draft_ticket_transition" "draft ticket transition is invalid")
  let phase := transition.phase.getD currentPhase
  check (currentPhase.order ≤ phase.order)
    (conflict "draft_ticket_phase_conflict" "draft send phase cannot move backwards")
  check (!(transition.expectedState = .running && transition.state = .running &&
      transition.phase.isNone)) (invalid "running checkpoint transition requires phase")
  let session := transition.session.or currentSession
  transition.session.forM fun session => do
    draftSessionIdentity session
    check (session = targetSession)
      (conflict "draft_session_identity_conflict"
        "materialized session differs from admitted target")
  check (phase = .materializing || session = some targetSession)
    (invalid "ready-to-prompt phases require the admitted target session")
  check (transition.state ≠ .succeeded || session = some targetSession)
    (invalid "succeeded transition requires the admitted target session")
  check (transition.state ≠ .failed || transition.error.isSome)
    (invalid "failed transition requires error")
  transition.error.forM draftError

theorem boundedId_ok {value : JsString} {field : String} {max : Nat} :
    boundedId value field max = .ok () ↔
      (1 ≤ value.length ∧ value.length ≤ max ∧ (0 : UInt16) ∉ value) ∧ isId value = true := by
  simp only [boundedId, boundedString, bind_ok, check_ok, Bool.and_eq_true, decide_eq_true_eq,
    Bool.not_eq_true', List.contains_eq_mem, decide_eq_false_iff_not]
  constructor
  · rintro ⟨_, ⟨⟨hmin, hmax⟩, hzero⟩, hid⟩
    exact ⟨⟨hmin, hmax, hzero⟩, hid⟩
  · rintro ⟨⟨hmin, hmax, hzero⟩, hid⟩
    exact ⟨(), ⟨⟨hmin, hmax⟩, hzero⟩, hid⟩

theorem boundedId_field {value : JsString} {field field' : String} {max : Nat}
    (h : boundedId value field max = .ok ()) : boundedId value field' max = .ok () :=
  boundedId_ok.mpr (boundedId_ok.mp h)

theorem positiveInteger_ok {value : Nat} {field : String} :
    positiveInteger value field = .ok () ↔ value ≤ maxSafeInteger ∧ 1 ≤ value := by
  simp only [positiveInteger, check_ok, Bool.and_eq_true, decide_eq_true_eq]

theorem checkMaterialization_ok {materialization : DashboardSessionDraftMaterialization} :
    checkMaterialization materialization = .ok () ↔
      validateId materialization.ticketId "ticketId" = .ok () ∧
        (∀ session, materialization.session = some session → draftSessionIdentity session = .ok ()) ∧
        ∀ error, materialization.error = some error → draftError error = .ok () := by
  simp only [checkMaterialization, then_ok, forM_ok]

theorem checkResource_ok {limits : DashboardSessionDraftLimits}
    {resource : DashboardSessionDraftResource} :
    checkResource limits resource = .ok () ↔
      validateId resource.draftId "draftId" = .ok () ∧
        (resource.revision ≤ maxSafeInteger ∧ 1 ≤ resource.revision) ∧
        validateDashboardSessionDraftSpec resource.spec limits = .ok () ∧
        (∀ materialization, resource.materialization = some materialization →
          checkMaterialization materialization = .ok ()) ∧
        (resource.state ≠ .draft || resource.materialization.isNone) = true := by
  simp only [checkResource, then_ok, forM_ok, check_ok, positiveInteger_ok]

theorem checkSendTicket_ok {ticket : DashboardSessionDraftSendTicket} :
    checkSendTicket ticket = .ok () ↔
      (validateId ticket.ticketId "ticketId" = .ok () ∧ validateId ticket.draftId "draftId" = .ok () ∧
        positiveInteger ticket.draftRevision "draftRevision" = .ok () ∧
        boundedId ticket.requestId "requestId" 128 = .ok () ∧
        boundedId ticket.idempotencyKey "idempotencyKey" 512 = .ok ()) ∧
        (∀ session, ticket.session = some session → draftSessionIdentity session = .ok ()) ∧
        (∀ error, ticket.error = some error → draftError error = .ok ()) ∧
        (ticket.state ≠ .succeeded || ticket.session.isSome) = true ∧
        (ticket.state ≠ .failed || ticket.error.isSome) = true := by
  simp only [checkSendTicket, then_ok, forM_ok, check_ok, and_assoc]

theorem validateDashboardSessionDraftResource_ok {limits : DashboardSessionDraftLimits}
    {resource validated : DashboardSessionDraftResource} :
    validateDashboardSessionDraftResource limits resource = .ok validated ↔
      checkResource limits resource = .ok () ∧ validated = resource := by
  simp only [validateDashboardSessionDraftResource, bind_ok, Except.ok.injEq]
  constructor
  · rintro ⟨_, hchecked, rfl⟩
    exact ⟨hchecked, rfl⟩
  · rintro ⟨hchecked, rfl⟩
    exact ⟨(), hchecked, rfl⟩

theorem validateDashboardSessionDraftSendTicket_ok
    {ticket validated : DashboardSessionDraftSendTicket} :
    validateDashboardSessionDraftSendTicket ticket = .ok validated ↔
      checkSendTicket ticket = .ok () ∧ validated = ticket := by
  simp only [validateDashboardSessionDraftSendTicket, bind_ok, Except.ok.injEq]
  constructor
  · rintro ⟨_, hchecked, rfl⟩
    exact ⟨hchecked, rfl⟩
  · rintro ⟨hchecked, rfl⟩
    exact ⟨(), hchecked, rfl⟩

theorem validateTicketTransition_ok {transition : DashboardSessionDraftTransition}
    {phase : DashboardSessionDraftPrivatePhase} {targetSession : DashboardSessionDraftIdentity}
    {session : Option DashboardSessionDraftIdentity}
    (h : validateTicketTransition transition phase targetSession session = .ok ()) :
    allowedTransition transition.expectedState transition.state = true ∧
      phase.order ≤ (transition.phase.getD phase).order := by
  simp only [validateTicketTransition, bind_ok, check_ok, decide_eq_true_eq] at h
  obtain ⟨_, hallowed, _, hphase, -⟩ := h
  exact ⟨hallowed, hphase⟩

end PiDaemon.Drafts
