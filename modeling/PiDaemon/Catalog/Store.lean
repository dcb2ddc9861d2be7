import PiDaemon.Catalog.Record
import PiDaemon.Lib.OrderedMap
import PiDaemon.Lib.Runs

/-!
# The session catalog

`FileSessionCatalog`: the records and the index of their names in memory, and the
directory of their files.  The operations are serialized, and each changes the
memory in one go after its file has been written; a step is one operation.  An
event says when it happens and how its writes end.
-/

namespace PiDaemon.Catalog

open Lib Durability

structure CatalogOptions where
  maxSessions : Nat
  maxRecordBytes : Nat
  maxRecoveryBytes : Nat
  deriving DecidableEq

/-- A file of the catalog directory; `value` is `none` when reading a record from it throws. -/
structure RecordFile (N : Type) where
  bytes : Nat
  value : Option (SessionCatalogRecord N)

inductive Recovery where
  | pending
  | recovered
  | failed
  deriving DecidableEq

structure FileSessionCatalog (N : Type) where
  records : OrderedMap JsString (SessionCatalogRecord N)
  names : OrderedMap JsString JsString
  recovery : Recovery
  directory : OrderedMap JsString (RecordFile N)

structure SessionCatalogCreateInput (N : Type) where
  sessionId : JsString
  name : Option JsString
  generation : Nat
  spec : JsValue N
  environment : Option SessionEnvironmentSummary
  residency : Option SessionResidency
  state : Option SessionApiState
  conversation : Option SessionConversationIdentity
  policyDigest : Option JsString
  configuration : Option ConfigurationMode

/-- `some none` is a null. -/
structure SessionCatalogReplaceInput (N : Type) where
  expectedGeneration : Nat
  expectedRevision : Nat
  generation : Nat
  name : Option (Option JsString)
  spec : JsValue N
  environment : SessionEnvironmentSummary
  residency : SessionResidency
  state : SessionApiState
  conversation : Option (Option SessionConversationIdentity)
  policyDigest : Option JsString
  configuration : Option ConfigurationMode

/-- `none` is a field that the patch does not have, `some none` one that it removes. -/
structure SessionCatalogPatch (N : Type) where
  generation : Option Nat := none
  name : Option (Option JsString) := none
  residency : Option SessionResidency := none
  state : Option SessionApiState := none
  lastUsedAt : Option JsString := none
  spec : Option (JsValue N) := none
  environment : Option SessionEnvironmentSummary := none
  policyDigest : Option JsString := none
  configuration : Option ConfigurationMode := none
  conversation : Option (Option SessionConversationIdentity) := none
  recovery : Option (Option SessionRecoveryCondition) := none
  lastTerminal : Option SessionTerminalRecord := none

section
variable {N : Type}

def emptyEnvironment : SessionEnvironmentSummary := ⟨[], .memoryOnly, true, none⟩

def unprovisionedEnvironmentSummary (summary : SessionEnvironmentSummary) :
    SessionEnvironmentSummary :=
  { summary with provisioned := summary.keys.isEmpty }

namespace FileSessionCatalog

/-- A catalog over a directory, before its recovery. -/
def new (directory : OrderedMap JsString (RecordFile N)) : FileSessionCatalog N :=
  ⟨.empty, .empty, .pending, directory⟩

/-! ## The index -/

def resolve (s : FileSessionCatalog N) (sessionRef : JsString) : Option (SessionCatalogRecord N) :=
  match s.records.get? sessionRef with
  | some byId => some byId
  | none => (s.names.get? sessionRef).bind s.records.get?

def require (s : FileSessionCatalog N) (sessionRef : JsString) :
    Except SessionCatalogError (SessionCatalogRecord N) :=
  match s.resolve sessionRef with
  | some record => .ok record
  | none => .error { code := .sessionNotFound, message := "retained session does not exist" }

def assertNameAvailable (s : FileSessionCatalog N) (name sessionId : JsString) :
    Except SessionCatalogError Unit := do
  validateName name
  check (((s.records.get? name).all fun byId => byId.sessionId = sessionId) &&
      (s.names.get? name).all fun byName => byName = sessionId)
    { code := .sessionNameConflict, message := "session name is already in use" }

def assertVersion (record : SessionCatalogRecord N) (expectedGeneration expectedRevision : Nat) :
    Except SessionCatalogError Unit :=
  check (record.generation = expectedGeneration && record.revision = expectedRevision)
    { code := .sessionPreconditionFailed, message := "session version changed" }

/-- What `create` does to the memory. -/
def insert (s : FileSessionCatalog N) (record : SessionCatalogRecord N) : FileSessionCatalog N :=
  { s with
    records := s.records.set record.sessionId record
    names :=
      match record.name with
      | none => s.names
      | some name => s.names.set name record.sessionId }

def replaceIndexes (s : FileSessionCatalog N) (current next : SessionCatalogRecord N) :
    FileSessionCatalog N :=
  let names :=
    match current.name with
    | none => s.names
    | some name => if next.name = some name then s.names else s.names.delete name
  { s with
    records := s.records.set next.sessionId next
    names :=
      match next.name with
      | none => names
      | some name => names.set name next.sessionId }

/-- What `delete` does to the memory. -/
def remove (s : FileSessionCatalog N) (current : SessionCatalogRecord N) : FileSessionCatalog N :=
  { s with
    records := s.records.delete current.sessionId
    names :=
      match current.name with
      | none => s.names
      | some name => s.names.delete name }

def register (s : FileSessionCatalog N) (record : SessionCatalogRecord N) :
    Except SessionCatalogError (FileSessionCatalog N) := do
  check ((s.names.get? record.sessionId).all fun owner => owner = record.sessionId)
    (corrupt "catalog session ID conflicts with another session name")
  record.name.forM fun name => do
    check ((s.names.get? name).all fun owner => owner = record.sessionId)
      (corrupt "duplicate catalog session name")
    check (!s.records.has name || name = record.sessionId)
      (corrupt "catalog name conflicts with another session ID")
  .ok (s.insert record)

/-! ## Files -/

variable (options : CatalogOptions) (host : CatalogHost N)

/-- `#write`; the memory is not changed. -/
def write (s : FileSessionCatalog N) (record : SessionCatalogRecord N) (outcome : FileOutcome) :
    FileSessionCatalog N × Except SessionCatalogError Unit :=
  if recordBytes host record > options.maxRecordBytes then
    (s, .error
      { code := .catalogRecordTooLarge, message := "session catalog record exceeds byte limit" })
  else
    (if outcome.lands then
        { s with
          directory := s.directory.set (recordFileName record.sessionId)
            ⟨recordFileBytes host record, some record⟩ }
      else s,
    if outcome = .done then .ok () else .error { code := .io, message := "write failed" })

def next (current : SessionCatalogRecord N) (patch : SessionCatalogPatch N) (now : JsString) :
    Except SessionCatalogError (SessionCatalogRecord N) :=
  let next : SessionCatalogRecord N :=
    { sessionId := current.sessionId
      name := patch.name.getD current.name
      generation := patch.generation.getD current.generation
      revision := current.revision + 1
      residency := patch.residency.getD current.residency
      state := patch.state.getD current.state
      createdAt := current.createdAt
      updatedAt := now
      lastUsedAt := patch.lastUsedAt.getD current.lastUsedAt
      spec := patch.spec.getD current.spec
      environment := patch.environment.getD current.environment
      policyDigest := patch.policyDigest.getD current.policyDigest
      configuration := patch.configuration.orElse fun _ => current.configuration
      conversation := patch.conversation.getD current.conversation
      recovery := patch.recovery.getD current.recovery
      lastTerminal := patch.lastTerminal.orElse fun _ => current.lastTerminal }
  do
    validateCatalogRecord host next
    .ok next

/-- A written record takes the place of another. -/
def writeNext (s : FileSessionCatalog N) (current next : SessionCatalogRecord N)
    (outcome : FileOutcome) :
    FileSessionCatalog N × Except SessionCatalogError (SessionCatalogRecord N) :=
  match s.write options host next outcome with
  | (s, .error error) => (s, .error error)
  | (s, .ok _) => (s.replaceIndexes current next, .ok next)

/-! ## Operations -/

/-- The checks of `create` and the record it writes. -/
def createRecord (s : FileSessionCatalog N) (input : SessionCatalogCreateInput N) (now : JsString) :
    Except SessionCatalogError (SessionCatalogRecord N) := do
  validateCatalogSessionId input.sessionId
  validateGeneration input.generation
  validatePersistedSpec host input.spec
  check (!s.records.has input.sessionId)
    { code := .sessionExists, message := "session ID already exists" }
  check ((s.names.get? input.sessionId).all fun nameOwner => nameOwner = input.sessionId)
    { code := .sessionNameConflict
      message := "session ID conflicts with an existing session name" }
  check (s.records.size < options.maxSessions)
    { code := .catalogCapacity, message := "retained session capacity reached", retryable := true }
  input.name.forM fun name => s.assertNameAvailable name input.sessionId
  let record : SessionCatalogRecord N :=
    { sessionId := input.sessionId
      name := input.name
      generation := input.generation
      revision := 1
      residency := input.residency.getD .resident
      state := input.state.getD .idle
      createdAt := now
      updatedAt := now
      lastUsedAt := now
      spec := input.spec
      environment := input.environment.getD emptyEnvironment
      policyDigest := input.policyDigest.getD (host.specDigest input.spec)
      configuration := input.configuration
      conversation := input.conversation
      recovery := none
      lastTerminal := none }
  validateCatalogRecord host record
  .ok record

def create (s : FileSessionCatalog N) (input : SessionCatalogCreateInput N) (now : JsString)
    (outcome : FileOutcome) :
    FileSessionCatalog N × Except SessionCatalogError (SessionCatalogRecord N) :=
  match s.createRecord options host input now with
  | .error error => (s, .error error)
  | .ok record =>
    match s.write options host record outcome with
    | (s, .error error) => (s, .error error)
    | (s, .ok _) => (s.insert record, .ok record)

/-- The checks of `replace`, the current record and the one it writes. -/
def replaceRecord (s : FileSessionCatalog N) (sessionRef : JsString)
    (input : SessionCatalogReplaceInput N) (now : JsString) :
    Except SessionCatalogError (SessionCatalogRecord N × SessionCatalogRecord N) := do
  let current ← s.require sessionRef
  assertVersion current input.expectedGeneration input.expectedRevision
  validateGeneration input.generation
  check (current.generation ≤ input.generation)
    { code := .staleGeneration, message := "session generation is stale" }
  validatePersistedSpec host input.spec
  let nextName := input.name.getD current.name
  nextName.forM fun name => s.assertNameAvailable name current.sessionId
  let next ← next host current
    { generation := some input.generation
      residency := some input.residency
      state := some input.state
      spec := some input.spec
      environment := some input.environment
      policyDigest := some (input.policyDigest.getD (host.specDigest input.spec))
      configuration := input.configuration
      recovery := some none
      name := some nextName
      conversation := input.conversation } now
  .ok (current, next)

def replace (s : FileSessionCatalog N) (sessionRef : JsString)
    (input : SessionCatalogReplaceInput N) (now : JsString) (outcome : FileOutcome) :
    FileSessionCatalog N × Except SessionCatalogError (SessionCatalogRecord N) :=
  match s.replaceRecord host sessionRef input now with
  | .error error => (s, .error error)
  | .ok (current, next) => s.writeNext options host current next outcome

/-- The checks of `#transition`, the current record and the one it writes. -/
def transitionRecord (s : FileSessionCatalog N) (sessionId : JsString) (generation : Nat)
    (patch : SessionCatalogPatch N) (now : JsString) :
    Except SessionCatalogError (SessionCatalogRecord N × SessionCatalogRecord N) := do
  let current ← s.require sessionId
  check (current.generation = generation)
    { code := .staleGeneration, message := "session generation does not match" }
  let next ← next host current patch now
  .ok (current, next)

def transition (s : FileSessionCatalog N) (sessionId : JsString) (generation : Nat)
    (patch : SessionCatalogPatch N) (now : JsString) (outcome : FileOutcome) :
    FileSessionCatalog N × Except SessionCatalogError (SessionCatalogRecord N) :=
  match s.transitionRecord host sessionId generation patch now with
  | .error error => (s, .error error)
  | .ok (current, next) => s.writeNext options host current next outcome

def markResident (s : FileSessionCatalog N) (sessionId : JsString) (generation : Nat)
    (conversation : Option SessionConversationIdentity) (now : JsString) (outcome : FileOutcome) :
    FileSessionCatalog N × Except SessionCatalogError (SessionCatalogRecord N) :=
  s.transition options host sessionId generation
    { residency := some .resident
      state := some .idle
      recovery := some none
      conversation := conversation.map some } now outcome

def markDormant (s : FileSessionCatalog N) (sessionId : JsString) (generation : Nat)
    (now : JsString) (outcome : FileOutcome) :
    FileSessionCatalog N × Except SessionCatalogError (SessionCatalogRecord N) :=
  s.transition options host sessionId generation
    { residency := some .dormant, state := some .idle } now outcome

/-- The condition is of a valid form by its type. -/
def markRecovery (s : FileSessionCatalog N) (sessionId : JsString) (generation : Nat)
    (recovery : SessionRecoveryCondition) (now : JsString) (outcome : FileOutcome) :
    FileSessionCatalog N × Except SessionCatalogError (SessionCatalogRecord N) :=
  s.transition options host sessionId generation
    { residency := some .dormant, recovery := some (some recovery) } now outcome

def markState (s : FileSessionCatalog N) (sessionId : JsString) (generation : Nat)
    (state : SessionApiState) (lastUsedAt : Option JsString)
    (terminal : Option SessionTerminalRecord) (now : JsString) (outcome : FileOutcome) :
    FileSessionCatalog N × Except SessionCatalogError (SessionCatalogRecord N) :=
  s.transition options host sessionId generation
    { state := some state, lastUsedAt, lastTerminal := terminal } now outcome

def delete (s : FileSessionCatalog N) (sessionRef : JsString) (outcome : FileOutcome) :
    FileSessionCatalog N × Except SessionCatalogError (Option (SessionCatalogRecord N)) :=
  match s.resolve sessionRef with
  | none => (s, .ok none)
  | some current =>
    let s' : FileSessionCatalog N :=
      if outcome.lands then
        { s with directory := s.directory.delete (recordFileName current.sessionId) }
      else s
    if outcome = .done then (s'.remove current, .ok (some current))
    else (s', .error { code := .io, message := "removal failed" })

/-! ## Recovery -/

/-- The loop of `#load` over the files of the directory. -/
def loadFiles (recoveryBytes : Nat) : List JsString → FileSessionCatalog N →
    FileSessionCatalog N × Except SessionCatalogError Unit
  | [], s => (s, .ok ())
  | name :: rest, s =>
    match s.directory.get? name with
    | none => loadFiles recoveryBytes rest s
    | some file =>
      if file.bytes > options.maxRecordBytes then
        (s, .error
          { code := .catalogRecordTooLarge, message := "session catalog record exceeds byte limit" })
      else if recoveryBytes + file.bytes > options.maxRecoveryBytes then
        (s, .error
          { code := .catalogRecoveryTooLarge
            message := "retained session catalog exceeds aggregate recovery byte limit" })
      else
        match file.value with
        | none => (s, .error (corrupt "catalog record is not an object"))
        | some record =>
          match validateCatalogRecord host record with
          | .error error => (s, .error error)
          | .ok _ =>
            if name ≠ recordFileName record.sessionId then
              (s, .error (corrupt "catalog session does not match path"))
            else if s.records.has record.sessionId then
              (s, .error (corrupt "duplicate catalog session ID"))
            else
              match s.register record with
              | .error error => (s, .error error)
              | .ok s => loadFiles (recoveryBytes + file.bytes) rest s

/-- A restart makes residents dormant and takes their environments. -/
def restartPatch (record : SessionCatalogRecord N) : Option (SessionCatalogPatch N) :=
  let environment := unprovisionedEnvironmentSummary record.environment
  let residencyChanged := record.residency = .resident
  let environmentChanged := environment.provisioned ≠ record.environment.provisioned
  if ¬ residencyChanged ∧ ¬ environmentChanged then none
  else
    some
      { residency := if residencyChanged then some .dormant else none
        state :=
          if residencyChanged then some (if record.state = .failed then .failed else .idle) else none
        environment := if environmentChanged then some environment else none }

/-- The second loop of `#load`; the files are written one by one. -/
def restartRecords (now : JsString → JsString) (outcome : JsString → FileOutcome) :
    List (SessionCatalogRecord N) → FileSessionCatalog N →
    FileSessionCatalog N × Except SessionCatalogError Unit
  | [], s => (s, .ok ())
  | record :: rest, s =>
    match restartPatch record with
    | none => restartRecords now outcome rest s
    | some patch =>
      match next host record patch (now record.sessionId) with
      | .error error => (s, .error error)
      | .ok next =>
        match s.write options host next (outcome record.sessionId) with
        | (s, .error error) => (s, .error error)
        | (s, .ok _) =>
          restartRecords now outcome rest
            { s with records := s.records.set next.sessionId next }

/-- `readdir` with the filter and the sort of `#load`. -/
def catalogFiles (s : FileSessionCatalog N) : List JsString :=
  (s.directory.keys.filter fun name => (text ".json").isSuffixOf name).mergeSort
    fun a b => decide (a ≤ b)

def loadRecords (s : FileSessionCatalog N) (now : JsString → JsString)
    (outcome : JsString → FileOutcome) : FileSessionCatalog N × Except SessionCatalogError Unit :=
  if s.catalogFiles.length > options.maxSessions then
    (s, .error
      { code := .catalogCapacity
        message := "retained session catalog exceeds configured capacity" })
  else
    match s.loadFiles options host 0 s.catalogFiles with
    | (s, .error error) => (s, .error error)
    | (s, .ok _) =>
      if s.records.size > options.maxSessions then
        (s, .error
          { code := .catalogCapacity
            message := "retained session catalog exceeds configured capacity" })
      else s.restartRecords options host now outcome s.records.values

/-- `#load`, once. -/
def load (s : FileSessionCatalog N) (now : JsString → JsString) (outcome : JsString → FileOutcome) :
    FileSessionCatalog N × Except SessionCatalogError Unit :=
  match s.loadRecords options host now outcome with
  | (s, .error error) => ({ s with recovery := .failed }, .error error)
  | (s, .ok _) => ({ s with recovery := .recovered }, .ok ())

end FileSessionCatalog

/-- The calls of a catalog. -/
inductive CatalogEvent (N : Type) where
  | recover (now : JsString → JsString) (outcome : JsString → FileOutcome)
  | create (input : SessionCatalogCreateInput N) (now : JsString) (outcome : FileOutcome)
  | replace (sessionRef : JsString) (input : SessionCatalogReplaceInput N) (now : JsString)
      (outcome : FileOutcome)
  | markResident (sessionId : JsString) (generation : Nat)
      (conversation : Option SessionConversationIdentity) (now : JsString) (outcome : FileOutcome)
  | markDormant (sessionId : JsString) (generation : Nat) (now : JsString) (outcome : FileOutcome)
  | markRecovery (sessionId : JsString) (generation : Nat) (recovery : SessionRecoveryCondition)
      (now : JsString) (outcome : FileOutcome)
  | markState (sessionId : JsString) (generation : Nat) (state : SessionApiState)
      (lastUsedAt : Option JsString) (terminal : Option SessionTerminalRecord) (now : JsString)
      (outcome : FileOutcome)
  | delete (sessionRef : JsString) (outcome : FileOutcome)

/-- The first call awaits `#load`; a call after a failed one changes nothing. -/
def catalogStep (options : CatalogOptions) (host : CatalogHost N) (s : FileSessionCatalog N)
    (event : CatalogEvent N) : Option (FileSessionCatalog N) :=
  match s.recovery, event with
  | .pending, .recover now outcome => some (s.load options host now outcome).1
  | .pending, _ => none
  | .failed, _ => some s
  | .recovered, .recover _ _ => some s
  | .recovered, .create input now outcome => some (s.create options host input now outcome).1
  | .recovered, .replace sessionRef input now outcome =>
    some (s.replace options host sessionRef input now outcome).1
  | .recovered, .markResident sessionId generation conversation now outcome =>
    some (s.markResident options host sessionId generation conversation now outcome).1
  | .recovered, .markDormant sessionId generation now outcome =>
    some (s.markDormant options host sessionId generation now outcome).1
  | .recovered, .markRecovery sessionId generation recovery now outcome =>
    some (s.markRecovery options host sessionId generation recovery now outcome).1
  | .recovered, .markState sessionId generation state lastUsedAt terminal now outcome =>
    some (s.markState options host sessionId generation state lastUsedAt terminal now outcome).1
  | .recovered, .delete sessionRef outcome => some (s.delete sessionRef outcome).1

end

/-- The input for a session in memory. -/
def memoryInput (sessionId : JsString) (name : Option JsString) : SessionCatalogCreateInput Nat where
  sessionId := sessionId
  name := name
  generation := 0
  spec := memorySpec (text "/w")
  environment := none
  residency := none
  state := none
  conversation := none
  policyDigest := none
  configuration := none

/-- The input that gives a session in memory another name. -/
def renameInput (revision : Nat) (name : Option (Option JsString)) :
    SessionCatalogReplaceInput Nat where
  expectedGeneration := 0
  expectedRevision := revision
  generation := 0
  name := name
  spec := memorySpec (text "/w")
  environment := emptyEnvironment
  residency := .resident
  state := .idle
  conversation := none
  policyDigest := none
  configuration := none

end PiDaemon.Catalog
