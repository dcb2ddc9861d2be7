import PiDaemon.Lib.StableSort
import PiDaemon.Streams.Connection

/-!
# The transcript store

`transcriptStoreReducer`: the records of a session that a browser holds, with the place and the size
of each under its identity.  A snapshot is taken as a whole, an upsert record by record.

How numbers are written, `Date.parse` and `localeCompare` are parameters.
-/

namespace PiDaemon.Transcript

open Lib Streams

structure TranscriptStoreLimits where
  maxRecords : Nat
  maxBytes : Nat
  maxRecordBytes : Nat
  deriving DecidableEq

def DEFAULT_TRANSCRIPT_STORE_LIMITS : TranscriptStoreLimits where
  maxRecords := 5000
  maxBytes := 32 * 1024 * 1024
  maxRecordBytes := 512 * 1024

structure TranscriptStoreLimits.Positive (limits : TranscriptStoreLimits) : Prop where
  maxRecords : 0 < limits.maxRecords
  maxBytes : 0 < limits.maxBytes
  maxRecordBytes : 0 < limits.maxRecordBytes

inductive TranscriptRecordKind where
  | message
  | tool
  | summary
  | timeline
  | custom
  deriving DecidableEq

def TranscriptRecordKind.name : TranscriptRecordKind → JsString
  | .message => text "message"
  | .tool => text "tool"
  | .summary => text "summary"
  | .timeline => text "timeline"
  | .custom => text "custom"

inductive TranscriptRecordSource where
  | persisted
  | live
  | optimistic
  deriving DecidableEq

def TranscriptRecordSource.name : TranscriptRecordSource → JsString
  | .persisted => text "persisted"
  | .live => text "live"
  | .optimistic => text "optimistic"

structure TranscriptRecordKey where
  entryId : Option JsString := none
  messageId : Option JsString := none
  toolCallId : Option JsString := none
  deriving DecidableEq

section
variable {N : Type}

structure NormalizedTranscriptRecord (N : Type) where
  recordId : JsString
  key : TranscriptRecordKey
  timestamp : Option JsString := none
  source : TranscriptRecordSource
  kind : TranscriptRecordKind
  /-- The other members, which the store only measures. -/
  rest : JsMembers N := .nil

def TranscriptRecordKey.json (key : TranscriptRecordKey) : JsValue N :=
  .object <|
    optionMember "entryId" (key.entryId.map .string) <|
    optionMember "messageId" (key.messageId.map .string) <|
    optionMember "toolCallId" (key.toolCallId.map .string) .nil

def NormalizedTranscriptRecord.json (record : NormalizedTranscriptRecord N) : JsValue N :=
  .object <|
    .cons (text "recordId") (.string record.recordId) <|
    .cons (text "key") record.key.json <|
    optionMember "timestamp" (record.timestamp.map .string) <|
    .cons (text "source") (.string record.source.name) <|
    .cons (text "kind") (.string record.kind.name) record.rest

/-- What the store takes from the browser. -/
structure TranscriptPlatform (N : Type) where
  format : NumberFormat N
  /-- `Date.parse`, `none` for `NaN`. -/
  parseDate : JsString → Option Int
  localeCompare : JsString → JsString → Ordering

inductive TranscriptReplayGapReason where
  | cursorExpired
  | generationChanged
  | hostRestarted
  | overflow
  deriving DecidableEq

structure TranscriptReplayGapState where
  reason : TranscriptReplayGapReason
  highWaterCursor : JsString
  deriving DecidableEq

structure TranscriptStoreState (N : Type) where
  identity : DashboardSessionIdentity
  records : List (NormalizedTranscriptRecord N)
  highWaterCursor : Option JsString
  needsReconcile : Bool
  replayGap : Option TranscriptReplayGapState
  droppedRecords : Nat
  totalBytes : Int
  limits : TranscriptStoreLimits
  index : OrderedMap JsString Nat
  sizes : OrderedMap JsString Nat

inductive TranscriptStoreAction (N : Type) where
  | snapshot (identity : DashboardSessionIdentity) (records : List (NormalizedTranscriptRecord N))
    (cursor : JsString)
  | reconcile (identity : DashboardSessionIdentity) (records : List (NormalizedTranscriptRecord N))
    (cursor : JsString)
  | upsert (identity : DashboardSessionIdentity) (records : List (NormalizedTranscriptRecord N))
    (cursor : Option JsString)
  | entryAppended (identity : DashboardSessionIdentity) (record : NormalizedTranscriptRecord N)
    (cursor : JsString)
  | replayGap (identity : DashboardSessionIdentity) (reason : TranscriptReplayGapReason)
    (highWaterCursor : JsString)

/-! ## Records -/

/-- An empty string counts as none. -/
def given (value : Option JsString) : Option JsString := value.filter fun s => !s.isEmpty

def transcriptRecordIdentity (record : NormalizedTranscriptRecord N) : JsString :=
  if let some toolCallId := given record.key.toolCallId then text "tool:" ++ toolCallId
  else if let some messageId := given record.key.messageId then text "message:" ++ messageId
  else if let some entryId := given record.key.entryId then
    record.kind.name ++ text ":entry:" ++ entryId
  else record.kind.name ++ text ":record:" ++ record.recordId

def sourceRank : TranscriptRecordSource → Nat
  | .persisted => 3
  | .live => 2
  | .optimistic => 1

def MAX_SAFE_INTEGER : Int := 9007199254740991

section
variable (platform : TranscriptPlatform N)

/-- The bytes of `JSON.stringify(record)`. -/
def recordBytes (record : NormalizedTranscriptRecord N) : Nat :=
  byteLength ((stringify platform.format record.json).getD [])

def timestamp (record : NormalizedTranscriptRecord N) : Int :=
  ((given record.timestamp).bind platform.parseDate).getD MAX_SAFE_INTEGER

/-- `byTime || first.localeCompare(second)` -/
def compareRecords (first second : NormalizedTranscriptRecord N) : Ordering :=
  (compare (timestamp platform first) (timestamp platform second)).then
    (platform.localeCompare (transcriptRecordIdentity first) (transcriptRecordIdentity second))

def inOrder (first second : NormalizedTranscriptRecord N) : Bool :=
  (compareRecords platform first second).isLE

def buildIndex (records : List (NormalizedTranscriptRecord N)) : OrderedMap JsString Nat :=
  .ofPairs (records.zipIdx.map fun (record, index) => (transcriptRecordIdentity record, index))

def buildSizes (records : List (NormalizedTranscriptRecord N)) : OrderedMap JsString Nat :=
  .ofPairs (records.map fun record => (transcriptRecordIdentity record, recordBytes platform record))

/-! ## Snapshots -/

/-- The records without repeated identities, and how many were left out for their size. -/
def deduplicate (limits : TranscriptStoreLimits) (records : List (NormalizedTranscriptRecord N)) :
    OrderedMap JsString (NormalizedTranscriptRecord N) × Nat :=
  records.foldl (fun (deduplicated, dropped) record =>
    if limits.maxRecordBytes < recordBytes platform record then (deduplicated, dropped + 1)
    else
      let key := transcriptRecordIdentity record
      if (deduplicated.get? key).all fun existing => sourceRank existing.source ≤ sourceRank record.source then
        (deduplicated.set key record, dropped)
      else (deduplicated, dropped)) (.empty, 0)

/-- `items.slice(-count)` -/
def sliceLast {A : Type} (count : Nat) (items : List A) : List A :=
  if count = 0 then items else items.drop (items.length - count)

/-- What a loop has kept so far. -/
structure Kept (N : Type) where
  kept : List (NormalizedTranscriptRecord N)
  totalBytes : Int
  droppedRecords : Nat

/-- The inner loop of `normalizeSnapshot`: the first records make room for `size` more bytes. -/
def makeRoom (maxBytes size : Nat) : List (NormalizedTranscriptRecord N) → Int → Nat → Kept N
  | [], totalBytes, dropped => ⟨[], totalBytes, dropped⟩
  | removed :: kept, totalBytes, dropped =>
    if (maxBytes : Int) < totalBytes + size then
      makeRoom maxBytes size kept (totalBytes - recordBytes platform removed) (dropped + 1)
    else ⟨removed :: kept, totalBytes, dropped⟩

/-- The body of the second loop of `normalizeSnapshot`. -/
def keepRecord (limits : TranscriptStoreLimits) (state : Kept N) (record : NormalizedTranscriptRecord N) :
    Kept N :=
  let size := recordBytes platform record
  let room := makeRoom platform limits.maxBytes size state.kept state.totalBytes state.droppedRecords
  if size ≤ limits.maxBytes then
    { room with kept := room.kept ++ [record], totalBytes := room.totalBytes + size }
  else { room with droppedRecords := room.droppedRecords + 1 }

def normalizeSnapshot (identity : DashboardSessionIdentity) (records : List (NormalizedTranscriptRecord N))
    (limits : TranscriptStoreLimits) (cursor : Option JsString) : TranscriptStoreState N :=
  let (deduplicated, dropped) := deduplicate platform limits records
  let ordered := stableSort (inOrder platform) deduplicated.values
  let kept := (sliceLast limits.maxRecords ordered).foldl (keepRecord platform limits)
    ⟨[], 0, dropped + (ordered.length - limits.maxRecords)⟩
  { identity
    records := kept.kept
    highWaterCursor := given cursor
    needsReconcile := false
    replayGap := none
    droppedRecords := kept.droppedRecords
    totalBytes := kept.totalBytes
    limits
    index := buildIndex kept.kept
    sizes := buildSizes platform kept.kept }

def createTranscriptStore (identity : DashboardSessionIdentity)
    (records : List (NormalizedTranscriptRecord N)) (limits : TranscriptStoreLimits)
    (cursor : Option JsString) : TranscriptStoreState N :=
  normalizeSnapshot platform identity records limits cursor

/-! ## Upserts -/

/-- The variables of `upsertRecords`. -/
structure Upserting (N : Type) where
  records : List (NormalizedTranscriptRecord N)
  sizes : OrderedMap JsString Nat
  totalBytes : Int
  droppedRecords : Nat
  appended : Bool

/-- The body of the loop of `upsertRecords`. -/
def upsertRecord (limits : TranscriptStoreLimits) (index : OrderedMap JsString Nat) (state : Upserting N)
    (record : NormalizedTranscriptRecord N) : Upserting N :=
  let key := transcriptRecordIdentity record
  let size := recordBytes platform record
  if limits.maxRecordBytes < size then { state with droppedRecords := state.droppedRecords + 1 }
  else
    match index.get? key with
    | some existingIndex =>
      match state.records[existingIndex]? with
      | none => state
      | some existing =>
        if sourceRank record.source < sourceRank existing.source then state
        else
          { state with
            totalBytes := state.totalBytes - ((state.sizes.get? key).getD 0 : Nat) + size
            records := state.records.set existingIndex record
            sizes := state.sizes.set key size }
    | none =>
      { state with
        records := state.records ++ [record]
        sizes := state.sizes.set key size
        totalBytes := state.totalBytes + size
        appended := true }

/-- The last loop of `upsertRecords`: the first records go until the limits are met. -/
def evictRecords (limits : TranscriptStoreLimits) :
    List (NormalizedTranscriptRecord N) → OrderedMap JsString Nat → Int → Nat →
      List (NormalizedTranscriptRecord N) × OrderedMap JsString Nat × Int × Nat
  | [], sizes, totalBytes, dropped => ([], sizes, totalBytes, dropped)
  | removed :: records, sizes, totalBytes, dropped =>
    if limits.maxRecords < records.length + 1 ∨ (limits.maxBytes : Int) < totalBytes then
      let key := transcriptRecordIdentity removed
      evictRecords limits records (sizes.delete key) (totalBytes - ((sizes.get? key).getD 0 : Nat)) (dropped + 1)
    else (removed :: records, sizes, totalBytes, dropped)

/-- `upsertRecords` after its first loop. -/
def finishUpsert (state : TranscriptStoreState N) (cursor : Option JsString) (loop : Upserting N) :
    TranscriptStoreState N :=
  let sorted := if loop.appended then stableSort (inOrder platform) loop.records else loop.records
  let sortedIndex := if loop.appended then buildIndex sorted else state.index
  let (records, sizes, totalBytes, dropped) :=
    evictRecords state.limits sorted loop.sizes loop.totalBytes loop.droppedRecords
  { state with
    records
    highWaterCursor := (given cursor).or state.highWaterCursor
    droppedRecords := dropped
    totalBytes
    index := if loop.appended ∨ dropped ≠ state.droppedRecords then buildIndex records else sortedIndex
    sizes }

def upsertRecords (state : TranscriptStoreState N) (incoming : List (NormalizedTranscriptRecord N))
    (cursor : Option JsString) : TranscriptStoreState N :=
  finishUpsert platform state cursor <|
    incoming.foldl (upsertRecord platform state.limits state.index)
      ⟨state.records, state.sizes, state.totalBytes, state.droppedRecords, false⟩

def transcriptStoreReducer (state : TranscriptStoreState N) :
    TranscriptStoreAction N → TranscriptStoreState N
  | .snapshot identity records cursor =>
    normalizeSnapshot platform identity records state.limits (some cursor)
  | .reconcile identity records cursor =>
    if state.identity ≠ identity then state
    else normalizeSnapshot platform identity records state.limits (some cursor)
  | .upsert identity records cursor =>
    if state.identity ≠ identity then state else upsertRecords platform state records cursor
  | .entryAppended identity record cursor =>
    if state.identity ≠ identity then state
    else
      upsertRecords platform
        { state with
          highWaterCursor := given state.highWaterCursor
          needsReconcile := false
          replayGap := none }
        [{ record with source := .persisted }] (some cursor)
  | .replayGap identity reason highWaterCursor =>
    if state.identity ≠ identity then state
    else
      { state with
        needsReconcile := true
        replayGap := some ⟨reason, highWaterCursor⟩
        highWaterCursor := some highWaterCursor }

end

end

end PiDaemon.Transcript
