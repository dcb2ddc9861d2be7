import PiDaemon.Durability.PrivateFile
import PiDaemon.Lib.Base64Url
import PiDaemon.Lib.Checks

/-!
# Catalog records

What the session catalog keeps of a session, and the checks of a record before it
is written and after it is read.  The parser of session configurations, the order
of `localeCompare`, the paths of the platform and the digest of a specification
are given.
-/

namespace PiDaemon.Catalog

open Lib Durability

/-- `Number.MAX_SAFE_INTEGER` -/
def maxSafeInteger : Nat := 9007199254740991

inductive CatalogErrorCode where
  | sessionExists
  | sessionNameConflict
  | catalogCapacity
  | staleGeneration
  | sessionNotFound
  | sessionPreconditionFailed
  | corruptCatalog
  | invalidSessionId
  | invalidSessionName
  | invalidGeneration
  | invalidSessionSpec
  | catalogRecordTooLarge
  | catalogRecoveryTooLarge
  /-- An error of the file system. -/
  | io
  deriving DecidableEq

structure SessionCatalogError where
  code : CatalogErrorCode
  message : String
  retryable : Bool := false
  deriving DecidableEq

def corrupt (message : String) : SessionCatalogError := { code := .corruptCatalog, message }

inductive SessionResidency where
  | resident
  | dormant
  deriving DecidableEq

inductive SessionApiState where
  | opening
  | idle
  | running
  | failed
  | closing
  deriving DecidableEq

inductive EnvironmentPersistence where
  | memoryOnly
  | reference
  deriving DecidableEq

structure SessionEnvironmentSummary where
  keys : List JsString
  persistence : EnvironmentPersistence
  provisioned : Bool
  digest : Option JsString
  deriving DecidableEq

structure SessionConversationIdentity where
  sessionId : JsString
  sessionFile : Option JsString
  deriving DecidableEq

/-- The code of a recovery condition; its other fields are fixed. -/
inductive SessionRecoveryCondition where
  | toolAdapterReprovisionRequired
  | credentialsRequired
  deriving DecidableEq

inductive SessionTerminalState where
  | succeeded
  | failed
  | indeterminate
  deriving DecidableEq

structure SessionTerminalRecord where
  state : SessionTerminalState
  timestamp : JsString
  requestId : Option JsString
  errorCode : Option JsString
  deriving DecidableEq

inductive ConfigurationMode where
  | legacy
  | prepared
  deriving DecidableEq

/-- A record; `N` are the numbers of its specification. -/
structure SessionCatalogRecord (N : Type) where
  sessionId : JsString
  name : Option JsString
  generation : Nat
  revision : Nat
  residency : SessionResidency
  state : SessionApiState
  createdAt : JsString
  updatedAt : JsString
  lastUsedAt : JsString
  spec : JsValue N
  environment : SessionEnvironmentSummary
  policyDigest : JsString
  configuration : Option ConfigurationMode
  conversation : Option SessionConversationIdentity
  recovery : Option SessionRecoveryCondition
  lastTerminal : Option SessionTerminalRecord

/-- What the catalog uses of the platform and of the session configuration. -/
structure CatalogHost (N : Type) where
  format : NumberFormat N
  natural : Nat → N
  /-- The specification is an object without `env` that `parseSessionConfiguration` accepts. -/
  validSpec : JsValue N → Bool
  specDigest : JsValue N → JsString
  /-- `localeCompare` does not change the order of the keys. -/
  sortedKeys : List JsString → Bool
  /-- `isAbsolute(path) && resolve(path) === path` -/
  resolvedPath : JsString → Bool

def encodedSessionId (sessionId : JsString) : JsString :=
  text "s-" ++ base64Url (utf8Encode sessionId)

/-- The name of the file of a session. -/
def recordFileName (sessionId : JsString) : JsString := encodedSessionId sessionId ++ text ".json"

/-! ## Checks -/

def validateCatalogSessionId (sessionId : JsString) : Except SessionCatalogError Unit := do
  check (1 ≤ sessionId.length && sessionId.length ≤ 256)
    { code := .invalidSessionId, message := "session ID length is invalid" }
  check (byteLength (encodedSessionId sessionId) ≤ 240)
    { code := .invalidSessionId, message := "session ID is too large for a safe path" }

def validateName (name : JsString) : Except SessionCatalogError Unit :=
  check (1 ≤ name.length && name.length ≤ 128)
    { code := .invalidSessionName, message := "session name length is invalid" }

def validateGeneration (generation : Nat) : Except SessionCatalogError Unit :=
  check (generation ≤ maxSafeInteger)
    { code := .invalidGeneration, message := "session generation must be a non-negative integer" }

section
variable {N : Type} (host : CatalogHost N)

def validatePersistedSpec (spec : JsValue N) : Except SessionCatalogError Unit :=
  check (host.validSpec spec) { code := .invalidSessionSpec, message := "session spec is invalid" }

/-- A failed check of a field is a corrupt record. -/
def asCorrupt (result : Except SessionCatalogError Unit) : Except SessionCatalogError Unit :=
  result.mapError fun error => corrupt error.message

def validateEnvironment (environment : SessionEnvironmentSummary) :
    Except SessionCatalogError Unit := do
  check (environment.keys.all fun key => 0 < key.length && key.length ≤ 256)
    (corrupt "catalog environment keys are invalid")
  check (decide environment.keys.Nodup && host.sortedKeys environment.keys)
    (corrupt "catalog environment keys must be unique and sorted")

def validateConversation (conversation : SessionConversationIdentity) :
    Except SessionCatalogError Unit := do
  check (conversation.sessionId ≠ []) (corrupt "catalog Pi session ID is invalid")
  check (conversation.sessionFile.all fun path => path ≠ [] && host.resolvedPath path)
    (corrupt "catalog Pi session file is invalid")

/-- The fields whose type is fixed are not checked again. -/
def validateCatalogRecord (record : SessionCatalogRecord N) : Except SessionCatalogError Unit := do
  asCorrupt (validateCatalogSessionId record.sessionId)
  record.name.forM fun name => asCorrupt (validateName name)
  asCorrupt (validateGeneration record.generation)
  check (record.revision ≤ maxSafeInteger && 1 ≤ record.revision)
    (corrupt "catalog revision is invalid")
  check (record.residency ≠ .dormant || record.state = .idle || record.state = .failed)
    (corrupt "dormant catalog session has an active runtime state")
  check (record.createdAt ≠ []) (corrupt "catalog createdAt is invalid")
  check (record.updatedAt ≠ []) (corrupt "catalog updatedAt is invalid")
  check (record.lastUsedAt ≠ []) (corrupt "catalog lastUsedAt is invalid")
  check (record.policyDigest ≠ []) (corrupt "catalog policyDigest is invalid")
  asCorrupt (validatePersistedSpec host record.spec)
  validateEnvironment host record.environment
  record.conversation.forM (validateConversation host)

end

/-! ## Files -/

section
variable {N : Type}

def SessionResidency.text : SessionResidency → JsString
  | .resident => Lib.text "resident"
  | .dormant => Lib.text "dormant"

def SessionApiState.text : SessionApiState → JsString
  | .opening => Lib.text "opening"
  | .idle => Lib.text "idle"
  | .running => Lib.text "running"
  | .failed => Lib.text "failed"
  | .closing => Lib.text "closing"

def EnvironmentPersistence.text : EnvironmentPersistence → JsString
  | .memoryOnly => Lib.text "memory-only"
  | .reference => Lib.text "reference"

def ConfigurationMode.text : ConfigurationMode → JsString
  | .legacy => Lib.text "legacy"
  | .prepared => Lib.text "prepared"

def SessionTerminalState.text : SessionTerminalState → JsString
  | .succeeded => Lib.text "succeeded"
  | .failed => Lib.text "failed"
  | .indeterminate => Lib.text "indeterminate"

def SessionEnvironmentSummary.toJson (environment : SessionEnvironmentSummary) : JsValue N :=
  .object (.cons (text "keys") (.array (jsSlots (environment.keys.map .string)))
    (.cons (text "persistence") (.string environment.persistence.text)
    (.cons (text "provisioned") (.boolean environment.provisioned)
    (optionMember "digest" (environment.digest.map .string) .nil))))

def SessionConversationIdentity.toJson (conversation : SessionConversationIdentity) : JsValue N :=
  .object (.cons (text "sessionId") (.string conversation.sessionId)
    (optionMember "sessionFile" (conversation.sessionFile.map .string) .nil))

def SessionRecoveryCondition.text : SessionRecoveryCondition → JsString
  | .toolAdapterReprovisionRequired => Lib.text "tool_adapter_reprovision_required"
  | .credentialsRequired => Lib.text "credentials_required"

def SessionRecoveryCondition.toJson (recovery : SessionRecoveryCondition) : JsValue N :=
  .object (.cons (Lib.text "state") (.string (Lib.text "reprovision_required"))
    (.cons (Lib.text "code") (.string recovery.text)
    (.cons (Lib.text "retryable") (.boolean true) .nil)))

def SessionTerminalRecord.toJson (terminal : SessionTerminalRecord) : JsValue N :=
  .object (optionMember "requestId" (terminal.requestId.map .string)
    (.cons (text "state") (.string terminal.state.text)
    (.cons (text "at") (.string terminal.timestamp)
    (optionMember "errorCode" (terminal.errorCode.map .string) .nil))))

/-- The members of a record; their order is of no account for its size. -/
def SessionCatalogRecord.toJson (natural : Nat → N) (record : SessionCatalogRecord N) : JsValue N :=
  .object (.cons (text "formatVersion") (.number (natural 1))
    (.cons (text "sessionId") (.string record.sessionId)
    (.cons (text "generation") (.number (natural record.generation))
    (.cons (text "revision") (.number (natural record.revision))
    (.cons (text "residency") (.string record.residency.text)
    (.cons (text "state") (.string record.state.text)
    (.cons (text "createdAt") (.string record.createdAt)
    (.cons (text "updatedAt") (.string record.updatedAt)
    (.cons (text "lastUsedAt") (.string record.lastUsedAt)
    (.cons (text "spec") record.spec
    (.cons (text "environment") record.environment.toJson
    (.cons (text "policyDigest") (.string record.policyDigest)
    (optionMember "configuration" (record.configuration.map fun mode => .string mode.text)
    (optionMember "name" (record.name.map .string)
    (optionMember "conversation" (record.conversation.map SessionConversationIdentity.toJson)
    (optionMember "recovery" (record.recovery.map SessionRecoveryCondition.toJson)
    (optionMember "lastTerminal" (record.lastTerminal.map SessionTerminalRecord.toJson)
      .nil)))))))))))))))))

/-- `Buffer.byteLength(JSON.stringify(record), "utf8")` -/
def recordBytes (host : CatalogHost N) (record : SessionCatalogRecord N) : Nat :=
  byteLength ((stringify host.format (record.toJson host.natural)).getD [])

/-- The size of the file of a record. -/
def recordFileBytes (host : CatalogHost N) (record : SessionCatalogRecord N) : Nat :=
  privateJsonBytes host.format (record.toJson host.natural)

end

/-! ## A host for examples -/

/-- The specification of a session in memory. -/
def memorySpec (cwd : JsString) : JsValue Nat :=
  .object (.cons (text "cwd") (.string cwd)
    (.cons (text "target") (.object (.cons (text "mode") (.string (text "memory")) .nil)) .nil))

/-- A host that knows the specifications of sessions in memory and decimal numbers. -/
def memoryHost : CatalogHost Nat where
  format := decimal
  natural := id
  validSpec
    | .object (.cons cwdKey (.string cwd)
        (.cons targetKey (.object (.cons modeKey (.string mode) .nil)) .nil)) =>
      cwdKey = text "cwd" && 0 < cwd.length && cwd.length ≤ 4096 && targetKey = text "target" &&
        modeKey = text "mode" && mode = text "memory"
    | _ => false
  specDigest _ := text "0"
  sortedKeys keys := keys.length ≤ 1
  resolvedPath _ := false

end PiDaemon.Catalog
