import Mathlib.Data.Nat.Basic
import Mathlib.Data.List.Lex
import Mathlib.Algebra.GroupWithZero.Nat
import PiDaemon.Durability.JournalState
import PiDaemon.Durability.Names
import PiDaemon.Lib.Calendar
import PiDaemon.Lib.Json
import PiDaemon.Lib.Mirror
import PiDaemon.Lib.StableSort

/-!
# The request journal

`FileDurabilityStore` without its manifests: an append-only file of records for each session, the
entries that it is read into, and an index of tickets.  Calls on a session wait for each other, and
here each runs alone.  A call gives how it ends and the journal that it leaves.

The file system does not fail.  A line that is not a valid record is `none`; `bytes` is the size of
a file.  `now` is what each reading of the clock gives.
-/

namespace PiDaemon.Durability

open Lib

/-! ## Records -/

structure JournalError where
  code : JsString
  message : JsString
  retryable : Bool
  deriving DecidableEq

/-- A wake: its fields that are read, and all of it. -/
structure DurableWakeCommand where
  sessionId : JsString
  generation : Nat
  idempotencyKey : JsString
  requestId : JsString
  json : JsValue Rat

structure JournalEntry where
  sessionId : JsString
  generation : Nat
  idempotencyKey : JsString
  requestId : JsString
  fingerprint : JsString
  state : JournalState
  command : DurableWakeCommand
  createdAt : JsString
  updatedAt : JsString
  result : Option (JsValue Rat) := none
  error : Option JournalError := none

def JournalState.name : JournalState → JsString
  | .queued => text "queued"
  | .accepted => text "accepted"
  | .completed => text "completed"
  | .failed => text "failed"
  | .indeterminate => text "indeterminate"

def JournalError.toJson (error : JournalError) : JsValue Rat :=
  .object <|
    .cons (text "code") (.string error.code) <|
    .cons (text "message") (.string error.message) <|
    .cons (text "retryable") (.boolean error.retryable) .nil

def JournalEntry.toJson (entry : JournalEntry) : JsValue Rat :=
  .object <|
    .cons (text "formatVersion") (.number 1) <|
    .cons (text "sessionId") (.string entry.sessionId) <|
    .cons (text "generation") (.number entry.generation) <|
    .cons (text "idempotencyKey") (.string entry.idempotencyKey) <|
    .cons (text "requestId") (.string entry.requestId) <|
    .cons (text "fingerprint") (.string entry.fingerprint) <|
    .cons (text "state") (.string entry.state.name) <|
    .cons (text "command") entry.command.json <|
    .cons (text "createdAt") (.string entry.createdAt) <|
    .cons (text "updatedAt") (.string entry.updatedAt) <|
    optionMember "result" entry.result <|
    optionMember "error" (entry.error.map JournalError.toJson) .nil

/-- The size of the line of an entry. -/
def JournalEntry.recordBytes (format : NumberFormat Rat) (entry : JournalEntry) : Nat :=
  byteLength ((stringify format entry.toJson).getD [] ++ [0x0a])

/-! ## The store -/

structure JournalFile where
  lines : List (Option JournalEntry)
  bytes : Nat

/-- The entries of a session. -/
abbrev SessionEntries := OrderedMap JsString JournalEntry

structure Journal where
  directory : OrderedMap JsString JournalFile
  entries : OrderedMap JsString SessionEntries := .empty
  ticketIndex : OrderedMap JsString (JsString × JsString) := .empty
  loadedSessions : List JsString := []
  journalsScanned : Bool := false
  recoveryBytes : Nat := 0
  /-- How often the clock has been read. -/
  readings : Nat := 0

structure FileDurabilityStore where
  maxTerminalEntries : Nat := 256
  terminalRetentionMs : Nat := 604800000
  maxJournalRecordBytes : Nat := 1048576
  maxJournalFileBytes : Nat := 67108864
  maxRecoveredSessions : Nat := 4096
  maxRecoveryBytes : Nat := 268435456
  now : Nat → Int
  sha256 : List UInt8 → Bytes 32
  localeCompare : JsString → JsString → Ordering
  /-- `Date.parse`; `none` is NaN. -/
  parseDate : JsString → Option Int
  requestFingerprint : DurableWakeCommand → JsString
  format : NumberFormat Rat

inductive DurabilityCode where
  | idempotencyConflict
  | journalEntryMissing
  | invalidJournalTransition
  | journalRecordTooLarge
  | journalTooLarge
  | ticketNotFound
  | ticketNotIndeterminate
  | ticketIdCollision
  | corruptJournal
  | recoverySessionCapacity
  | recoveryBytesExceeded
  deriving DecidableEq

/-- How a call ends, and what it leaves. -/
structure Called (A : Type) where
  outcome : Except DurabilityCode A
  journal : Journal

def Called.ok {A : Type} (value : A) (journal : Journal) : Called A := ⟨.ok value, journal⟩

def Called.throw {A : Type} (code : DurabilityCode) (journal : Journal) : Called A := ⟨.error code, journal⟩

/-- A call after a call that returns. -/
def Called.bind {A B : Type} (x : Called A) (f : A → Journal → Called B) : Called B :=
  match x.outcome with
  | .ok value => f value x.journal
  | .error code => ⟨.error code, x.journal⟩

/-- `toISOString()`; years have six digits and a sign where four digits do not do. -/
def toISOString (ms : Int) : JsString :=
  let year := (utcDate ms).year
  if 0 ≤ year ∧ year ≤ 9999 then isoText ms false
  else (if year < 0 then text "-" else text "+") ++ digits 6 year.natAbs ++ (isoText ms false).drop 4

namespace FileDurabilityStore

variable (store : FileDurabilityStore)

def timestamp (j : Journal) : JsString := toISOString (store.now j.readings)

/-- The clock has been read. -/
def tick (j : Journal) : Journal := { j with readings := j.readings + 1 }

/-- The name of the journal file of a session, which has an id. -/
def journalPath (sessionId : JsString) : JsString := (journalFileName sessionId).getD []

def ticketOf (entry : JournalEntry) : JsString := wakeTicketId store.sha256 entry.sessionId entry.idempotencyKey

def compareJournalEntries (a b : JournalEntry) : Ordering :=
  (store.localeCompare a.createdAt b.createdAt).then (store.localeCompare a.idempotencyKey b.idempotencyKey)

/-- `entries.sort(compareJournalEntries)` -/
def sortEntries (entries : List JournalEntry) : List JournalEntry :=
  stableSort (fun a b => (store.compareJournalEntries a b).isLE) entries

/-! ### Loading -/

def indexTicket (entry : JournalEntry) (j : Journal) : Called Unit :=
  if (j.ticketIndex.get? (store.ticketOf entry)).any
      (· ≠ (entry.sessionId, entry.idempotencyKey)) then .throw .ticketIdCollision j
  else
    .ok () { j with
      ticketIndex := j.ticketIndex.set (store.ticketOf entry) (entry.sessionId, entry.idempotencyKey) }

def entriesOf (j : Journal) (sessionId : JsString) : SessionEntries := (j.entries.get? sessionId).getD .empty

/-- The loop of `#loadJournalFile`. -/
def loadLines (name : JsString) (expectedSessionId : Option JsString) :
    List (Option JournalEntry) → Journal → Called Unit
  | [], j => .ok () j
  | none :: _, j => .throw .corruptJournal j
  | some value :: rest, j =>
    if journalFileName value.sessionId ≠ some name ∨ expectedSessionId.any (· ≠ value.sessionId) then
      .throw .corruptJournal j
    else
      (store.indexTicket value
        { j with
          entries := j.entries.set value.sessionId
            ((entriesOf j value.sessionId).set value.idempotencyKey value) }).bind fun _ j =>
        loadLines name expectedSessionId rest
          { j with loadedSessions := value.sessionId :: j.loadedSessions }

def claimRecoveryBytes (bytes : Nat) (j : Journal) : Called Unit :=
  if store.maxRecoveryBytes < j.recoveryBytes + bytes then
    .throw .recoveryBytesExceeded { j with recoveryBytes := j.recoveryBytes + bytes }
  else .ok () { j with recoveryBytes := j.recoveryBytes + bytes }

def loadJournalFile (name : JsString) (expectedSessionId : Option JsString) (recoveryScan : Bool)
    (j : Journal) : Called Unit :=
  match j.directory.get? name with
  | none => .ok () j
  | some file =>
    if store.maxJournalFileBytes < file.bytes then .throw .journalTooLarge j
    else
      (if recoveryScan then store.claimRecoveryBytes file.bytes j else .ok () j).bind fun _ j =>
        store.loadLines name expectedSessionId file.lines j

def loadSessionJournal (sessionId : JsString) (j : Journal) : Called Unit :=
  if sessionId ∈ j.loadedSessions then .ok () j
  else
    (store.loadJournalFile (journalPath sessionId) (some sessionId) false j).bind fun _ j =>
      .ok () { j with
        entries := if j.entries.has sessionId then j.entries else j.entries.set sessionId .empty
        loadedSessions := sessionId :: j.loadedSessions }

/-- The files of a scan, one after another. -/
def loadFiles : List JsString → Journal → Called Unit
  | [], j => .ok () j
  | name :: rest, j => (store.loadJournalFile name none true j).bind fun _ j => loadFiles rest j

/-- Names by their units. -/
def sortNames (names : List JsString) : List JsString :=
  stableSort (fun a b => decide (a.map UInt16.toNat ≤ b.map UInt16.toNat)) names

def scanJournalFiles (j : Journal) : Called Unit :=
  if j.journalsScanned then .ok () j
  else if store.maxRecoveredSessions < j.directory.size then .throw .recoverySessionCapacity j
  else
    (store.loadFiles (sortNames j.directory.keys) j).bind fun _ j => .ok () { j with journalsScanned := true }

/-! ### Writing -/

def fileBytes (j : Journal) (name : JsString) : Nat := ((j.directory.get? name).map JournalFile.bytes).getD 0

def fileLines (j : Journal) (name : JsString) : List (Option JournalEntry) :=
  ((j.directory.get? name).map JournalFile.lines).getD []

def append (entry : JournalEntry) (j : Journal) : Called Unit :=
  let name := journalPath entry.sessionId
  let recordBytes := entry.recordBytes store.format
  if store.maxJournalRecordBytes < recordBytes then .throw .journalRecordTooLarge j
  else if store.maxJournalFileBytes < fileBytes j name + recordBytes then .throw .journalTooLarge j
  else
    .ok () { j with
      directory := j.directory.set name
        ⟨fileLines j name ++ [some entry], fileBytes j name + recordBytes⟩ }

/-- What a transition adds to an entry. -/
structure Patch where
  result : Option (JsValue Rat) := none
  error : Option JournalError := none

def transition (sessionId idempotencyKey : JsString) (state : JournalState) (patch : Patch)
    (reconciliation : Bool) (j : Journal) : Called JournalEntry :=
  match (entriesOf j sessionId).get? idempotencyKey with
  | none => .throw .journalEntryMissing j
  | some current =>
    if allowedTransition current.state state reconciliation then
      let next : JournalEntry :=
        { current with state, updatedAt := store.timestamp j, result := patch.result, error := patch.error }
      (store.append next (tick j)).bind fun _ j =>
        .ok next { j with
          entries := j.entries.set sessionId ((entriesOf j sessionId).set idempotencyKey next) }
    else if current.state = state then .ok current j
    else .throw .invalidJournalTransition j

/-! ### Pruning -/

/-- Terminal entries, those that were updated last first. -/
def newestFirst (entries : List JournalEntry) : List JournalEntry :=
  stableSort (fun a b => (store.localeCompare b.updatedAt a.updatedAt).isLE)
    (entries.filter fun entry => isTerminal entry.state)

/-- The retention has not elapsed. -/
def isFresh (now : Int) (entry : JournalEntry) : Bool :=
  (store.parseDate entry.updatedAt).any fun updated => now - updated ≤ store.terminalRetentionMs

def keepTerminal (now : Int) (entries : List JournalEntry) : List JsString :=
  (((store.newestFirst entries).take store.maxTerminalEntries).filter (store.isFresh now)).map
    JournalEntry.idempotencyKey

def retained (now : Int) (entries : List JournalEntry) : List JournalEntry :=
  store.sortEntries <| entries.filter fun entry =>
    !isTerminal entry.state || decide (entry.idempotencyKey ∈ store.keepTerminal now entries)

/-- The size of the file that `atomicWriteLines` writes. -/
def linesBytes (entries : List JournalEntry) : Nat :=
  if entries.isEmpty then 1 else (entries.map (JournalEntry.recordBytes store.format)).sum

def entryMap (entries : List JournalEntry) : SessionEntries :=
  entries.foldl (fun m entry => m.set entry.idempotencyKey entry) .empty

/-- `pruneSession` after its session has been loaded. -/
def prune (sessionId : JsString) (j : Journal) : Called Nat :=
  let entries := (entriesOf j sessionId).values
  let retained := store.retained (store.now j.readings) entries
  let j := tick j
  if entries.length - retained.length = 0 then .ok 0 j
  else
    .ok (entries.length - retained.length) { j with
      directory := j.directory.set (journalPath sessionId) ⟨retained.map some, store.linesBytes retained⟩
      ticketIndex := entries.foldl
        (fun index entry =>
          if retained.any fun candidate => candidate.idempotencyKey = entry.idempotencyKey then index
          else index.delete (store.ticketOf entry))
        j.ticketIndex
      entries := j.entries.set sessionId (entryMap retained) }

def pruneSession (sessionId : JsString) (j : Journal) : Called Nat :=
  (store.loadSessionJournal sessionId j).bind fun _ j => store.prune sessionId j

/-! ### Requests -/

def beginRequest (command : DurableWakeCommand) (j : Journal) : Called JournalEntry :=
  (store.loadSessionJournal command.sessionId j).bind fun _ j =>
    match (entriesOf j command.sessionId).get? command.idempotencyKey with
    | some existing =>
      if existing.fingerprint ≠ store.requestFingerprint command then .throw .idempotencyConflict j
      else .ok existing j
    | none =>
      let now := store.timestamp j
      let entry : JournalEntry :=
        { sessionId := command.sessionId
          generation := command.generation
          idempotencyKey := command.idempotencyKey
          requestId := command.requestId
          fingerprint := store.requestFingerprint command
          state := .queued
          command
          createdAt := now
          updatedAt := now }
      (store.append entry (tick j)).bind fun _ j =>
        (store.indexTicket entry
          { j with
            entries := j.entries.set command.sessionId
              ((entriesOf j command.sessionId).set command.idempotencyKey entry) }).bind fun _ j =>
          .ok entry j

def markAccepted (sessionId idempotencyKey : JsString) (j : Journal) : Called JournalEntry :=
  (store.loadSessionJournal sessionId j).bind fun _ j =>
    store.transition sessionId idempotencyKey .accepted {} false j

/-- A call that finishes an entry, and prunes its session. -/
def finish (sessionId idempotencyKey : JsString) (state : JournalState) (patch : Patch) (j : Journal) :
    Called JournalEntry :=
  ((store.loadSessionJournal sessionId j).bind fun _ j =>
    store.transition sessionId idempotencyKey state patch false j).bind fun entry j =>
      (store.pruneSession sessionId j).bind fun _ j => .ok entry j

def markCompleted (sessionId idempotencyKey : JsString) (result : Option (JsValue Rat)) (j : Journal) :
    Called JournalEntry :=
  store.finish sessionId idempotencyKey .completed { result } j

def markFailed (sessionId idempotencyKey : JsString) (error : JournalError) (j : Journal) :
    Called JournalEntry :=
  store.finish sessionId idempotencyKey .failed { error := some error } j

/-- `getRequest`, while no call on its session runs. -/
def getRequest (sessionId idempotencyKey : JsString) (j : Journal) : Called (Option JournalEntry) :=
  (store.loadSessionJournal sessionId j).bind fun _ j =>
    .ok ((entriesOf j sessionId).get? idempotencyKey) j

def getRequestByTicket (ticketId : JsString) (j : Journal) : Called (Option JournalEntry) :=
  (store.scanJournalFiles j).bind fun _ j =>
    match j.ticketIndex.get? ticketId with
    | none => .ok none j
    | some (sessionId, idempotencyKey) => store.getRequest sessionId idempotencyKey j

/-- `closeSession`, without its manifest. -/
def closeSession (sessionId : JsString) (retainArtifacts : Bool) (j : Journal) : Called Unit :=
  if retainArtifacts then .ok () j
  else
    .ok () { j with
      directory := j.directory.delete (journalPath sessionId)
      ticketIndex :=
        (entriesOf j sessionId).values.foldl (fun index entry => index.delete (store.ticketOf entry))
          j.ticketIndex
      entries := j.entries.delete sessionId
      loadedSessions := j.loadedSessions.filter (· ≠ sessionId) }

inductive Reconciliation where
  | completed (result : Option (JsValue Rat))
  | failed (error : JournalError)

def Reconciliation.state : Reconciliation → JournalState
  | .completed _ => .completed
  | .failed _ => .failed

def Reconciliation.patch : Reconciliation → Patch
  | .completed result => { result }
  | .failed error => { error := some error }

def reconcileRequest (ticketId : JsString) (outcome : Reconciliation) (j : Journal) : Called JournalEntry :=
  (store.scanJournalFiles j).bind fun _ j =>
    match j.ticketIndex.get? ticketId with
    | none => .throw .ticketNotFound j
    | some (sessionId, idempotencyKey) =>
      ((store.loadSessionJournal sessionId j).bind fun _ j =>
        if ((entriesOf j sessionId).get? idempotencyKey).map JournalEntry.state = some .indeterminate then
          store.transition sessionId idempotencyKey outcome.state outcome.patch true j
        else .throw .ticketNotIndeterminate j).bind fun entry j =>
          (store.pruneSession sessionId j).bind fun _ j => .ok entry j

/-! ### Recovery -/

structure RecoverySnapshot where
  queued : List JournalEntry := []
  indeterminate : List JournalEntry := []

/-- The entries of a session in the loop of `recover`. -/
def collectEntries (sessionId : JsString) :
    List JournalEntry → RecoverySnapshot → Journal → Called RecoverySnapshot
  | [], snapshot, j => .ok snapshot j
  | entry :: rest, snapshot, j =>
    match entry.state with
    | .accepted =>
      (store.transition sessionId entry.idempotencyKey .indeterminate {} false j).bind fun transitioned j =>
        collectEntries sessionId rest
          { snapshot with indeterminate := snapshot.indeterminate ++ [transitioned] } j
    | .queued => collectEntries sessionId rest { snapshot with queued := snapshot.queued ++ [entry] } j
    | .indeterminate =>
      collectEntries sessionId rest { snapshot with indeterminate := snapshot.indeterminate ++ [entry] } j
    | _ => collectEntries sessionId rest snapshot j

/-- The loop of `recover` over the sessions. -/
def collect : List JsString → RecoverySnapshot → Journal → Called RecoverySnapshot
  | [], snapshot, j => .ok snapshot j
  | sessionId :: rest, snapshot, j =>
    (store.collectEntries sessionId (entriesOf j sessionId).values snapshot j).bind fun snapshot j =>
      collect rest snapshot j

def pruneAll : List JsString → Journal → Called Unit
  | [], j => .ok () j
  | sessionId :: rest, j => (store.pruneSession sessionId j).bind fun _ j => pruneAll rest j

/-- `recover`, which reads manifests of `manifestBytes` bytes. -/
def recover (manifestBytes : Nat) (j : Journal) : Called RecoverySnapshot :=
  (store.claimRecoveryBytes manifestBytes j).bind fun _ j =>
    (store.scanJournalFiles j).bind fun _ j =>
      (store.collect j.entries.keys {} j).bind fun snapshot j =>
        (store.pruneAll j.entries.keys j).bind fun _ j =>
          .ok
            { queued := store.sortEntries snapshot.queued
              indeterminate := store.sortEntries snapshot.indeterminate } j

/-- A store over the files that another has left. -/
def restart (j : Journal) : Journal := { directory := j.directory, readings := j.readings }

/-! ### Runs -/

inductive StoreCall where
  | beginRequest (command : DurableWakeCommand)
  | markAccepted (sessionId idempotencyKey : JsString)
  | markCompleted (sessionId idempotencyKey : JsString) (result : Option (JsValue Rat))
  | markFailed (sessionId idempotencyKey : JsString) (error : JournalError)
  | getRequest (sessionId idempotencyKey : JsString)
  | getRequestByTicket (ticketId : JsString)
  | reconcileRequest (ticketId : JsString) (outcome : Reconciliation)
  | pruneSession (sessionId : JsString)
  | closeSession (sessionId : JsString) (retainArtifacts : Bool)
  | recover (manifestBytes : Nat)
  | restart

/-- What a call leaves, however it ends. -/
def perform (j : Journal) : StoreCall → Journal
  | .beginRequest command => (store.beginRequest command j).journal
  | .markAccepted sessionId idempotencyKey => (store.markAccepted sessionId idempotencyKey j).journal
  | .markCompleted sessionId idempotencyKey result =>
    (store.markCompleted sessionId idempotencyKey result j).journal
  | .markFailed sessionId idempotencyKey error => (store.markFailed sessionId idempotencyKey error j).journal
  | .getRequest sessionId idempotencyKey => (store.getRequest sessionId idempotencyKey j).journal
  | .getRequestByTicket ticketId => (store.getRequestByTicket ticketId j).journal
  | .reconcileRequest ticketId outcome => (store.reconcileRequest ticketId outcome j).journal
  | .pruneSession sessionId => (store.pruneSession sessionId j).journal
  | .closeSession sessionId retainArtifacts => (store.closeSession sessionId retainArtifacts j).journal
  | .recover manifestBytes => (store.recover manifestBytes j).journal
  | .restart => FileDurabilityStore.restart j

/-- Calls one after another, on the files of a directory. -/
def performAll (directory : OrderedMap JsString JournalFile) (calls : List StoreCall) : Journal :=
  calls.foldl store.perform { directory }

end FileDurabilityStore

end PiDaemon.Durability
