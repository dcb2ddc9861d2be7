import PiDaemon.Durability.PrivateFile
import PiDaemon.Lib.OrderedMap
import PiDaemon.Lib.Runs
import PiDaemon.Scheduler.Resource

/-!
# The schedule store

`FileScheduleStore`: the schedules in memory and the directory of their files.  The
calls that change a schedule are serialized, and each changes the memory in one go
after its file has been written.

* `updateRuntimeState_ok`: what the timer's own update does to the memory;
* `Keyed`: each schedule is in the memory under its own ID.
-/

namespace PiDaemon.Scheduler

open Lib Durability

/-- A file of the directory; `value` is `none` when reading an envelope from it throws. -/
structure ScheduleFile where
  bytes : Nat
  value : Option ScheduleResource
  deriving DecidableEq

structure FileScheduleStore where
  records : OrderedMap JsString ScheduleResource
  directory : OrderedMap JsString ScheduleFile

/-- What a caller defines; the revision and the times are set by the store. -/
abbrev ScheduleDefinition := ScheduleResource

structure ScheduleRuntimeState where
  nextTriggerAt : Option Timestamp
  lastTrigger : Option ScheduleLastTrigger
  deriving DecidableEq

/-- What the store and the runtime use of the platform. -/
structure SchedulePlatform where
  /-- The zones of the runtime. -/
  known : JsString → Bool
  zones : Zones
  /-- The first four bytes of the digest of a schedule ID and an instant. -/
  digest : JsString → Timestamp → Nat
  /-- `localeCompare` of schedule IDs. -/
  idOrder : JsString → JsString → Bool

def envelopeJson (resource : ScheduleResource) : JsValue Nat :=
  .object (.cons (text "formatVersion") (.number 1) (.cons (text "resource") resource.toJson .nil))

/-- The size of the file of a schedule. -/
def envelopeFileBytes (resource : ScheduleResource) : Nat :=
  privateJsonBytes decimal (envelopeJson resource)

def scheduleFileName (scheduleId : JsString) : JsString := scheduleId ++ text ".json"

namespace FileScheduleStore

variable (limits : ScheduleLimits) (platform : SchedulePlatform)

/-- `list()` -/
def list (s : FileScheduleStore) : List ScheduleResource :=
  s.records.values.mergeSort fun left right => platform.idOrder left.scheduleId right.scheduleId

def get (s : FileScheduleStore) (scheduleId : JsString) : Option ScheduleResource :=
  s.records.get? scheduleId

/-- `#write` and the change of the memory after it. -/
def commit (s : FileScheduleStore) (resource : ScheduleResource) (outcome : FileOutcome) :
    FileScheduleStore × Except ScheduleError ScheduleResource :=
  let directory :=
    if outcome.lands then
      s.directory.set (scheduleFileName resource.scheduleId)
        ⟨envelopeFileBytes resource, some resource⟩
    else s.directory
  if outcome = .done then
    ({ records := s.records.set resource.scheduleId resource, directory }, .ok resource)
  else ({ s with directory }, .error ⟨.io, "write failed"⟩)

def createResource (s : FileScheduleStore) (definition : ScheduleDefinition) (now : Int) :
    Except ScheduleError ScheduleResource := do
  check (!s.records.has definition.scheduleId) ⟨.alreadyExists, "schedule already exists"⟩
  check (s.records.size < limits.maxSchedules)
    ⟨.scheduleCapacity, "schedule capacity is exhausted"⟩
  check ((s.records.values.filter fun record => record.sessionRef = definition.sessionRef).length <
      limits.maxSchedulesPerSession)
    ⟨.scheduleCapacity, "per-session schedule capacity is exhausted"⟩
  validateScheduleResource limits platform.known
    { definition with
      revision := 0, createdAt := isoTimestamp now, updatedAt := isoTimestamp now }

def create (s : FileScheduleStore) (definition : ScheduleDefinition) (now : Int)
    (outcome : FileOutcome) : FileScheduleStore × Except ScheduleError ScheduleResource :=
  match s.createResource limits platform definition now with
  | .error error => (s, .error error)
  | .ok resource => s.commit resource outcome

/-- The record that a caller has seen in its latest revision. -/
def expected (s : FileScheduleStore) (scheduleId : JsString) (expectedRevision : Nat) :
    Except ScheduleError ScheduleResource :=
  match s.records.get? scheduleId with
  | none => .error ⟨.notFound, "schedule does not exist"⟩
  | some current =>
    if current.revision ≠ expectedRevision then
      .error ⟨.revisionConflict, "schedule revision precondition failed"⟩
    else .ok current

def updateResource (s : FileScheduleStore) (scheduleId : JsString) (expectedRevision : Nat)
    (definition : ScheduleDefinition) (now : Int) : Except ScheduleError ScheduleResource := do
  let current ← s.expected scheduleId expectedRevision
  check (definition.scheduleId = scheduleId && definition.sessionRef = current.sessionRef)
    ⟨.revisionConflict, "scheduleId and sessionRef are immutable"⟩
  validateScheduleResource limits platform.known
    { definition with
      revision := current.revision + 1
      createdAt := current.createdAt
      updatedAt := isoTimestamp now }

def update (s : FileScheduleStore) (scheduleId : JsString) (expectedRevision : Nat)
    (definition : ScheduleDefinition) (now : Int) (outcome : FileOutcome) :
    FileScheduleStore × Except ScheduleError ScheduleResource :=
  match s.updateResource limits platform scheduleId expectedRevision definition now with
  | .error error => (s, .error error)
  | .ok resource => s.commit resource outcome

def runtimeResource (s : FileScheduleStore) (scheduleId : JsString) (expectedRevision : Nat)
    (state : ScheduleRuntimeState) (now : Int) : Except ScheduleError ScheduleResource := do
  let current ← s.expected scheduleId expectedRevision
  validateScheduleResource limits platform.known
    { current with
      revision := current.revision + 1
      updatedAt := isoTimestamp now
      nextTriggerAt := state.nextTriggerAt
      lastTrigger := state.lastTrigger }

def updateRuntimeState (s : FileScheduleStore) (scheduleId : JsString) (expectedRevision : Nat)
    (state : ScheduleRuntimeState) (now : Int) (outcome : FileOutcome) :
    FileScheduleStore × Except ScheduleError ScheduleResource :=
  match s.runtimeResource limits platform scheduleId expectedRevision state now with
  | .error error => (s, .error error)
  | .ok resource => s.commit resource outcome

def delete (s : FileScheduleStore) (scheduleId : JsString) (expectedRevision : Nat)
    (outcome : FileOutcome) : FileScheduleStore × Except ScheduleError Unit :=
  match s.expected scheduleId expectedRevision with
  | .error error => (s, .error error)
  | .ok _ =>
    let directory :=
      if outcome.lands then s.directory.delete (scheduleFileName scheduleId) else s.directory
    if outcome = .done then ({ records := s.records.delete scheduleId, directory }, .ok ())
    else ({ s with directory }, .error ⟨.io, "removal failed"⟩)

/-! ## Recovery -/

structure ScheduleRecovery where
  quarantined : List JsString
  scannedBytes : Nat
  deriving DecidableEq

/-- `/^[A-Za-z0-9][A-Za-z0-9._:-]{0,127}\.json$/u` -/
def isScheduleFileName (name : JsString) : Bool :=
  (text ".json").isSuffixOf name &&
    isIdentifier (name.take (name.length - 5)) && name.length - 5 ≤ 128

/-- The file of the loop of `#load` holds a schedule of its name. -/
def acceptedFile (s : FileScheduleStore) (name : JsString) (file : ScheduleFile) :
    Option ScheduleResource :=
  match file.value with
  | none => none
  | some value =>
    match validateScheduleResource limits platform.known value with
    | .error _ => none
    | .ok resource =>
      if scheduleFileName resource.scheduleId = name ∧ ¬ s.records.has resource.scheduleId then
        some resource
      else none

/-- The loop of `#load`; a rejected file is renamed away. -/
def loadFiles (recovery : ScheduleRecovery) : List JsString → FileScheduleStore →
    FileScheduleStore × Except ScheduleError ScheduleRecovery
  | [], s => (s, .ok recovery)
  | name :: rest, s =>
    match s.directory.get? name with
    | none => loadFiles recovery rest s
    | some file =>
      let quarantine : ScheduleRecovery := { recovery with quarantined := recovery.quarantined ++ [name] }
      if file.bytes > limits.maxRecordBytes then
        loadFiles quarantine rest { s with directory := s.directory.delete name }
      else
        let scannedBytes := recovery.scannedBytes + file.bytes
        if scannedBytes > limits.maxRecoveryBytes then
          (s, .error ⟨.recoveryLimit, "schedule recovery byte limit exceeded"⟩)
        else
          match s.acceptedFile limits platform name file with
          | none =>
            loadFiles { quarantine with scannedBytes } rest
              { s with directory := s.directory.delete name }
          | some resource =>
            loadFiles { recovery with scannedBytes } rest
              { s with records := s.records.set resource.scheduleId resource }

/-- No session has more schedules than it may. -/
def withinSessions (s : FileScheduleStore) : Bool :=
  s.records.values.all fun resource =>
    (s.records.values.filter fun other => other.sessionRef = resource.sessionRef).length ≤
      limits.maxSchedulesPerSession

/-- `#load` of a new store over a directory. -/
def load (directory : OrderedMap JsString ScheduleFile) :
    FileScheduleStore × Except ScheduleError ScheduleRecovery :=
  let s : FileScheduleStore := ⟨.empty, directory⟩
  let names := (directory.keys.filter isScheduleFileName).mergeSort platform.idOrder
  if names.length > limits.maxSchedules then
    (s, .error ⟨.scheduleCapacity, "persisted schedule count exceeds capacity"⟩)
  else
    match s.loadFiles limits platform ⟨[], 0⟩ names with
    | (s, .error error) => (s, .error error)
    | (s, .ok recovery) =>
      if s.withinSessions limits then (s, .ok recovery)
      else (s, .error ⟨.scheduleCapacity, "persisted per-session schedule count exceeds capacity"⟩)

/-! ## What the calls do -/

section
variable {limits : ScheduleLimits} {platform : SchedulePlatform} {s t : FileScheduleStore}

theorem expected_ok {scheduleId : JsString} {revision : Nat} {current : ScheduleResource} :
    s.expected scheduleId revision = .ok current ↔
      s.get scheduleId = some current ∧ current.revision = revision := by
  unfold expected get
  cases s.records.get? scheduleId with
  | none => simp
  | some =>
    simp only [Option.some.injEq]
    split
    · rename_i hrevision
      constructor
      · intro h
        cases h
      · rintro ⟨rfl, heq⟩
        exact absurd heq hrevision
    · rename_i hrevision
      constructor
      · intro h
        cases h
        exact ⟨rfl, not_not.mp hrevision⟩
      · rintro ⟨rfl, -⟩
        rfl

theorem commit_ok {resource committed : ScheduleResource} {outcome : FileOutcome} :
    (s.commit resource outcome).2 = .ok committed ↔ outcome = .done ∧ committed = resource := by
  unfold commit
  simp only
  split
  · rename_i hdone
    constructor
    · intro h
      cases h
      exact ⟨hdone, rfl⟩
    · rintro ⟨-, rfl⟩
      rfl
  · rename_i hdone
    constructor
    · intro h
      cases h
    · rintro ⟨rfl, -⟩
      exact absurd rfl hdone

theorem commit_done (s : FileScheduleStore) (resource : ScheduleResource) :
    s.commit resource .done =
      ({ records := s.records.set resource.scheduleId resource
         directory := s.directory.set (scheduleFileName resource.scheduleId)
           ⟨envelopeFileBytes resource, some resource⟩ }, .ok resource) := rfl

/-- What `updateRuntimeState` validates and writes. -/
def withRuntimeState (current : ScheduleResource) (state : ScheduleRuntimeState) (now : Int)
    (cron : JsString) : ScheduleResource :=
  { current with
    cron
    revision := current.revision + 1
    updatedAt := isoTimestamp now
    nextTriggerAt := state.nextTriggerAt
    lastTrigger := state.lastTrigger }

theorem runtimeResource_ok {scheduleId : JsString} {revision : Nat} {state : ScheduleRuntimeState}
    {now : Int} {resource : ScheduleResource} :
    s.runtimeResource limits platform scheduleId revision state now = .ok resource ↔
      ∃ current cron, s.get scheduleId = some current ∧ current.revision = revision ∧
        validateCronExpression current.cron = some cron ∧
        resource = withRuntimeState current state now cron ∧
        checkResource limits platform.known resource = .ok () := by
  unfold runtimeResource
  simp only [bind_ok, expected_ok, validateScheduleResource_ok]
  constructor
  · rintro ⟨current, ⟨hget, hrevision⟩, cron, hcron, rfl, hcheck⟩
    exact ⟨current, cron, hget, hrevision, hcron, rfl, hcheck⟩
  · rintro ⟨current, cron, hget, hrevision, hcron, rfl, hcheck⟩
    exact ⟨current, ⟨hget, hrevision⟩, cron, hcron, rfl, hcheck⟩

theorem updateRuntimeState_ok {scheduleId : JsString} {revision : Nat}
    {state : ScheduleRuntimeState} {now : Int} {outcome : FileOutcome} {resource : ScheduleResource}
    (h : (s.updateRuntimeState limits platform scheduleId revision state now outcome).2 =
      .ok resource) :
    outcome = .done ∧ s.runtimeResource limits platform scheduleId revision state now = .ok resource ∧
      s.updateRuntimeState limits platform scheduleId revision state now outcome =
        s.commit resource .done := by
  unfold updateRuntimeState at h ⊢
  cases hresource : s.runtimeResource limits platform scheduleId revision state now with
  | error =>
    rw [hresource] at h
    cases h
  | ok =>
    rw [hresource] at h
    obtain ⟨rfl, rfl⟩ := commit_ok.mp h
    exact ⟨rfl, rfl, rfl⟩

/-! ## Keys -/

def Keyed (s : FileScheduleStore) : Prop :=
  ∀ scheduleId resource, s.get scheduleId = some resource → resource.scheduleId = scheduleId

theorem keyed_empty (directory : OrderedMap JsString ScheduleFile) : Keyed ⟨.empty, directory⟩ := by
  intro scheduleId resource hget
  cases hget

theorem Keyed.set (h : s.Keyed) (resource : ScheduleResource)
    (directory : OrderedMap JsString ScheduleFile) :
    Keyed ⟨s.records.set resource.scheduleId resource, directory⟩ := by
  intro scheduleId found hget
  simp only [get, OrderedMap.get?_set] at hget
  split at hget
  · cases hget
    assumption
  · exact h scheduleId found hget

theorem Keyed.directory (h : s.Keyed) (directory : OrderedMap JsString ScheduleFile) :
    Keyed { s with directory } := h

theorem Keyed.commit (h : s.Keyed) (resource : ScheduleResource) (outcome : FileOutcome) :
    (s.commit resource outcome).1.Keyed := by
  unfold FileScheduleStore.commit
  simp only
  split
  · exact h.set resource _
  · exact h.directory _

theorem Keyed.create (h : s.Keyed) (definition : ScheduleDefinition) (now : Int)
    (outcome : FileOutcome) : (s.create limits platform definition now outcome).1.Keyed := by
  unfold FileScheduleStore.create
  split
  · exact h
  · exact h.commit _ _

theorem Keyed.update (h : s.Keyed) (scheduleId : JsString) (revision : Nat)
    (definition : ScheduleDefinition) (now : Int) (outcome : FileOutcome) :
    (s.update limits platform scheduleId revision definition now outcome).1.Keyed := by
  unfold FileScheduleStore.update
  split
  · exact h
  · exact h.commit _ _

theorem Keyed.updateRuntimeState (h : s.Keyed) (scheduleId : JsString) (revision : Nat)
    (state : ScheduleRuntimeState) (now : Int) (outcome : FileOutcome) :
    (s.updateRuntimeState limits platform scheduleId revision state now outcome).1.Keyed := by
  unfold FileScheduleStore.updateRuntimeState
  split
  · exact h
  · exact h.commit _ _

theorem Keyed.delete (h : s.Keyed) (scheduleId : JsString) (revision : Nat)
    (outcome : FileOutcome) : (s.delete scheduleId revision outcome).1.Keyed := by
  unfold FileScheduleStore.delete
  split
  · exact h
  simp only
  split
  · intro id resource hget
    exact h id resource (OrderedMap.get?_of_delete hget).2
  · exact h.directory _

variable {recovery : ScheduleRecovery}

theorem Keyed.loadFiles {names : List JsString} (h : s.Keyed) :
    (s.loadFiles limits platform recovery names).1.Keyed := by
  induction names generalizing s recovery with
  | nil => exact h
  | cons name rest ih =>
    unfold FileScheduleStore.loadFiles
    split
    · exact ih h
    simp only
    split
    · exact ih (h.directory _)
    split
    · exact h
    split
    · exact ih (h.directory _)
    · exact ih (h.set _ _)

/-- The files that `#load` looks at, in their order. -/
def scheduleFileNames (platform : SchedulePlatform) (directory : OrderedMap JsString ScheduleFile) :
    List JsString :=
  (directory.keys.filter isScheduleFileName).mergeSort platform.idOrder

theorem load_ok {directory : OrderedMap JsString ScheduleFile} :
    load limits platform directory = (t, .ok recovery) ↔
      (scheduleFileNames platform directory).length ≤ limits.maxSchedules ∧
        loadFiles limits platform ⟨[], 0⟩ (scheduleFileNames platform directory) ⟨.empty, directory⟩ =
          (t, .ok recovery) ∧ t.withinSessions limits = true := by
  unfold load
  simp only
  rw [← scheduleFileNames]
  split
  · simp
    omega
  rename_i hlength
  rw [Nat.not_lt] at hlength
  cases hfiles : loadFiles limits platform ⟨[], 0⟩ (scheduleFileNames platform directory)
    ⟨.empty, directory⟩ with
  | mk loaded result =>
    cases result with
    | error => simp
    | ok =>
      simp only [Prod.mk.injEq]
      split
      · rename_i hwithin
        simp only [Prod.mk.injEq]
        constructor
        · rintro ⟨rfl, heq⟩
          exact ⟨hlength, ⟨rfl, heq⟩, hwithin⟩
        · rintro ⟨-, heq, -⟩
          exact heq
      · rename_i hwithin
        simp only [Prod.mk.injEq, reduceCtorEq, and_false, false_iff, not_and]
        rintro - ⟨rfl, -⟩
        exact hwithin

theorem load_keyed {directory : OrderedMap JsString ScheduleFile}
    (h : load limits platform directory = (t, .ok recovery)) : t.Keyed := by
  have hfiles := (load_ok.mp h).2.1
  have hkeyed : Keyed (loadFiles limits platform ⟨[], 0⟩ (scheduleFileNames platform directory)
      ⟨.empty, directory⟩).1 := (keyed_empty directory).loadFiles
  rw [hfiles] at hkeyed
  exact hkeyed

end

end FileScheduleStore

end PiDaemon.Scheduler
