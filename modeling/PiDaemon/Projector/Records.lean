import PiDaemon.Lib.Chains
import PiDaemon.Projector.Pages

/-!
# The records of a transcript

`projectSession` up to the bounding of its records: the branch of a session's entries that ends at the
last one, and its records.  A result of a tool joins the record of its call.

The messages are as they were parsed; the other entries have the types that are declared for them.
SHA-256, and how numbers are written and compared, are parameters.
-/

namespace PiDaemon.Projector

open Lib

def DEFAULT_TEXT_BLOCK_BYTES : Nat := 128 * 1024

structure TranscriptProjectionLimits where
  maxRecordBytes : Nat
  maxImagePreviewBytes : Nat
  deriving DecidableEq

structure ProjectorPlatform (N : Type) where
  numbers : NumberSyntax N
  sha256 : List UInt8 → List UInt8
  /-- `value >= 0` -/
  isNonNegative : N → Bool
  sameNumber : N → N → Bool

inductive SessionEntryBody (N : Type) where
  | message (message : JsValue N)
  | compaction (summary : JsString)
  | branchSummary (summary : JsString)
  | customMessage (customType : JsString) (display : Bool) (content details : JsValue N)
  | custom (customType : JsString) (data : JsValue N)
  | modelChange (provider modelId : JsString)
  | thinkingLevelChange (thinkingLevel : JsString)
  | sessionInfo (name : Option JsString)
  | label (targetId : JsString) (label : Option JsString)
  /-- Any other `type`. -/
  | other

structure SessionEntry (N : Type) where
  id : JsString
  parentId : Option JsString
  timestamp : JsString
  body : SessionEntryBody N

inductive TranscriptContentBlock (N : Type) where
  | text (text : JsString)
  | markdown (text : JsString)
  | thinking (text : JsString)
  | error (text : JsString)
  | image (mediaType blobRef alt : JsString)
  | usage (inputTokens outputTokens cacheReadTokens cacheWriteTokens cost : Option N)

inductive MessageRole where
  | user
  | assistant
  | system
  | custom
  deriving DecidableEq

inductive MessageState where
  | complete
  | error
  deriving DecidableEq

inductive ToolState where
  | pending
  | success
  | error
  deriving DecidableEq

inductive SummaryKind where
  | compaction
  | branch
  deriving DecidableEq

inductive TimelineEvent where
  | model
  | thinking
  | label
  | sessionName
  | bash
  deriving DecidableEq

inductive TranscriptRecordBody (N : Type) where
  | message (role : MessageRole) (state : MessageState) (content : List (TranscriptContentBlock N))
  | tool (toolCallId toolName : JsString) (state : ToolState) (arguments : Option (JsValue N))
    (content : List (TranscriptContentBlock N)) (details : Option (JsValue N))
  | summary (kind : SummaryKind) (content : List (TranscriptContentBlock N))
  | timeline (event : TimelineEvent) (label : Option JsString) (data : JsMembers N)
  | custom (customType : JsString) (hidden : Bool) (data : Option (JsValue N)) (fallbackText : Option JsString)

/-- A record; its source is `persisted`. -/
structure TranscriptRecord (N : Type) where
  recordId : JsString
  entryId : JsString
  timestamp : JsString
  parentEntryId : Option JsString
  body : TranscriptRecordBody N

inductive ProjectionFailure where
  /-- A `TranscriptProjectionError`. -/
  | projection (code message : String)
  | typeError
  deriving DecidableEq

section
variable {N : Type}

/-! ## Values -/

def isRecord : JsValue N → Bool
  | .object _ => true
  | _ => false

def isNullish : JsValue N → Bool
  | .undefined => true
  | .null => true
  | _ => false

def asString : JsValue N → Option JsString
  | .string s => some s
  | _ => none

/-- The member is this string. -/
def memberIs (value : JsValue N) (key expected : String) : Bool := asString (value.member key) = some (text expected)

def isTrue : JsValue N → Bool
  | .boolean b => b
  | _ => false

def slotValues : JsSlots N → List (JsValue N)
  | .nil => []
  | .hole rest => .undefined :: slotValues rest
  | .cons value rest => value :: slotValues rest

/-- `Array.isArray(value) ? value : []` -/
def arrayValues : JsValue N → List (JsValue N)
  | .array slots => slotValues slots
  | _ => []

/-- The values of a `for` loop over a value; the characters of a string are left out, as none is a block. -/
def iterate : JsValue N → Except ProjectionFailure (List (JsValue N))
  | .array slots => .ok (slotValues slots)
  | .string _ => .ok []
  | _ => .error .typeError

def boundedText (value : JsString) (maxBytes : Nat) : JsString :=
  if byteLength value ≤ maxBytes then value
  else utf8ToString ((utf8Encode value).take (maxBytes - 32)) ++ text "\n[… truncated …]"

variable (platform : ProjectorPlatform N)

/-- Two keys of a `Map` or a `Set` are the same; they stand in two places of a file, and so no two objects are.
The signs of infinities are not told apart. -/
def sameKey : JsValue N → JsValue N → Bool
  | .string s, .string t => s = t
  | .number m, .number n => platform.sameNumber m n
  | .boolean b, .boolean c => b = c
  | .undefined, .undefined => true
  | .null, .null => true
  | .nonFinite, .nonFinite => true
  | _, _ => false

/-- `boundedJson`, with a bound of `maxBytes / share`; what has been parsed has a text. -/
def boundedJson (value : JsValue N) (maxBytes share : Nat) : JsValue N :=
  match stringify platform.numbers.toNumberFormat value with
  | none => .object (.cons (text "unavailable") (.boolean true) .nil)
  | some json =>
    if byteLength json * share > maxBytes then .object (.cons (text "truncated") (.boolean true) .nil)
    else (jsonParse platform.numbers json).getD (.object (.cons (text "unavailable") (.boolean true) .nil))

def nonNegative : JsValue N → Option N
  | .number n => if platform.isNonNegative n then some n else none
  | _ => none

def contentText (value : JsValue N) (maxBytes : Nat) : JsString :=
  match value with
  | .string s => boundedText s maxBytes
  | .array slots =>
    let texts := (slotValues slots).filterMap fun entry =>
      if isRecord entry && memberIs entry "type" "text" then asString (entry.member "text") else none
    boundedText (joinWith [0x0a] texts) maxBytes
  | _ => []

/-! ## Blocks -/

structure ProjectionSource where
  inventoryId : JsString
  fingerprint : JsString
  limits : TranscriptProjectionLimits

def blobDigest (source : ProjectionSource) (entryId : JsString) (index : Nat) : JsString :=
  base64Url (platform.sha256 (utf8Encode source.inventoryId ++ [0] ++ (utf8Encode source.fingerprint ++ [0] ++
    (utf8Encode entryId ++ [0] ++ utf8Encode (decimal.format index)))))

/-- One block of `contentBlocks`. -/
def contentBlock (source : ProjectionSource) (entryId : JsString) (index : Nat) (block : JsValue N) :
    Option (TranscriptContentBlock N) :=
  if isRecord block then
    match (if memberIs block "type" "text" then asString (block.member "text") else none) with
    | some value => some (.text (boundedText value DEFAULT_TEXT_BLOCK_BYTES))
    | none =>
      if memberIs block "type" "image" then
        let nested := block.member "source"
        let mediaType := (asString (block.member "mimeType")).getD
          ((asString (nested.member "mediaType")).getD (text "application/octet-stream"))
        let data := (asString (block.member "data")).or (asString (nested.member "data"))
        let estimatedBytes := (data.map fun data => data.length * 3 / 4).getD 0
        some (.image (boundedText mediaType 128) (text "dash-blob:" ++ blobDigest platform source entryId index)
          (if estimatedBytes > source.limits.maxImagePreviewBytes then
            text "Image (" ++ decimal.format estimatedBytes ++ text " bytes; preview deferred)"
          else text "Session image"))
      else none
  else none

def contentBlocks (source : ProjectionSource) (content : JsValue N) (entryId : JsString) :
    List (TranscriptContentBlock N) :=
  match content with
  | .string s => [.text (boundedText s DEFAULT_TEXT_BLOCK_BYTES)]
  | .array slots =>
    (slotValues slots).zipIdx.filterMap fun entry => contentBlock platform source entryId entry.2 entry.1
  | _ => []

def usageBlock (value : JsValue N) : Option (TranscriptContentBlock N) :=
  if isRecord value then
    let input := nonNegative platform (value.member "input")
    let output := nonNegative platform (value.member "output")
    let cacheRead := nonNegative platform (value.member "cacheRead")
    let cacheWrite := nonNegative platform (value.member "cacheWrite")
    let cost := nonNegative platform ((value.member "cost").member "total")
    if input.isNone && output.isNone && cacheRead.isNone && cacheWrite.isNone && cost.isNone then none
    else some (.usage input output cacheRead cacheWrite cost)
  else none

/-! ## Joining calls and results -/

/-- The variables of the first loop of `projectSession`. -/
structure ToolJoin (N : Type) where
  toolResults : List (JsValue N × SessionEntry N)
  mergedToolCallIds : List (JsValue N)

def ToolJoin.empty : ToolJoin N := ⟨[], []⟩

/-- `toolResults.get(key)` -/
def ToolJoin.result (join : ToolJoin N) (key : JsValue N) : Option (SessionEntry N) :=
  (join.toolResults.find? fun entry => sameKey platform entry.1 key).map Prod.snd

/-- `mergedToolCallIds.has(key)` -/
def ToolJoin.merges (join : ToolJoin N) (key : JsValue N) : Bool :=
  join.mergedToolCallIds.any fun id => sameKey platform id key

def duplicateToolResult : ProjectionFailure :=
  .projection "duplicate_tool_result" "session contains duplicate tool result identities"

def duplicateToolCall : ProjectionFailure :=
  .projection "duplicate_tool_call" "session contains duplicate tool call identities"

def ToolJoin.addBlock (join : ToolJoin N) (block : JsValue N) : Except ProjectionFailure (ToolJoin N) :=
  if isNullish block then .error .typeError
  else if memberIs block "type" "toolCall" then
    if join.merges platform (block.member "id") then .error duplicateToolCall
    else .ok { join with mergedToolCallIds := join.mergedToolCallIds ++ [block.member "id"] }
  else .ok join

def ToolJoin.addEntry (join : ToolJoin N) (entry : SessionEntry N) : Except ProjectionFailure (ToolJoin N) :=
  match entry.body with
  | .message message =>
    if isNullish message then .error .typeError
    else if memberIs message "role" "toolResult" then
      if (join.result platform (message.member "toolCallId")).isSome then .error duplicateToolResult
      else .ok { join with toolResults := join.toolResults ++ [(message.member "toolCallId", entry)] }
    else if memberIs message "role" "assistant" then do
      let blocks ← iterate (message.member "content")
      blocks.foldlM (fun join block => join.addBlock platform block) join
    else .ok join
  | _ => .ok join

def joinTools (branch : List (SessionEntry N)) : Except ProjectionFailure (ToolJoin N) :=
  branch.foldlM (fun join entry => join.addEntry platform entry) .empty

/-! ## Records -/

def SessionEntry.record (entry : SessionEntry N) (kind : String) (body : TranscriptRecordBody N) :
    TranscriptRecord N :=
  ⟨text kind ++ entry.id, entry.id, entry.timestamp, entry.parentId, body⟩

def messageRecord (entry : SessionEntry N) (role : MessageRole) (content : List (TranscriptContentBlock N))
    (state : MessageState) : TranscriptRecord N :=
  entry.record "entry:" (.message role state content)

def timeline (entry : SessionEntry N) (event : TimelineEvent) (label : Option JsString) (data : JsMembers N) :
    TranscriptRecord N :=
  entry.record "timeline:" (.timeline event (label.map fun label => boundedText label 4096) data)

def toolRecord (entry : SessionEntry N) (toolCallId toolName : JsString) (state : ToolState)
    (arguments : Option (JsValue N)) (content : List (TranscriptContentBlock N)) (details : Option (JsValue N)) :
    TranscriptRecord N :=
  ⟨text "tool:" ++ toolCallId, entry.id, entry.timestamp, entry.parentId,
    .tool toolCallId toolName state arguments content details⟩

/-- A value that is not `undefined`. -/
def defined : JsValue N → Option (JsValue N)
  | .undefined => none
  | value => some value

section
variable (source : ProjectionSource)

/-- The state of a tool that has returned. -/
def resultState (message : JsValue N) : ToolState := if isTrue (message.member "isError") then .error else .success

def resultDetails (message : JsValue N) : Option (JsValue N) :=
  (defined (message.member "details")).map fun details => boundedJson platform details source.limits.maxRecordBytes 3

/-- The message of the result of a call. -/
def resultMessage (result : SessionEntry N) : Option (JsValue N) :=
  match result.body with
  | .message message => if memberIs message "role" "toolResult" then some message else none
  | _ => none

def callArguments (block : JsValue N) : Option (JsValue N) :=
  if isRecord (block.member "arguments") then
    some (boundedJson platform (block.member "arguments") source.limits.maxRecordBytes 3)
  else none

/-- The record of a call, with its result when it has one. -/
def callRecord (join : ToolJoin N) (entry : SessionEntry N) (block : JsValue N) : Option (TranscriptRecord N) :=
  if isRecord block && memberIs block "type" "toolCall" then
    match asString (block.member "id"), asString (block.member "name") with
    | some id, some name =>
      match (join.result platform (.string id)).bind fun result => (resultMessage result).map fun m => (result, m) with
      | none => some (toolRecord entry id name .pending (callArguments platform source block) [] none)
      | some (result, message) =>
        some (toolRecord entry id name (resultState message) (callArguments platform source block)
          (contentBlocks platform source (message.member "content") result.id)
          (resultDetails platform source message))
    | _, _ => none
  else none

def assistantBlock (block : JsValue N) : Option (TranscriptContentBlock N) :=
  if isRecord block then
    match (if memberIs block "type" "text" then asString (block.member "text") else none) with
    | some value => some (.markdown (boundedText value DEFAULT_TEXT_BLOCK_BYTES))
    | none =>
      if memberIs block "type" "thinking" then
        (asString (block.member "thinking")).map fun value => .thinking (boundedText value DEFAULT_TEXT_BLOCK_BYTES)
      else none
  else none

def assistantBlocks (message : JsValue N) : List (TranscriptContentBlock N) :=
  (arrayValues (message.member "content")).filterMap assistantBlock ++
    ((asString (message.member "errorMessage")).map fun error =>
      TranscriptContentBlock.error (boundedText error DEFAULT_TEXT_BLOCK_BYTES)).toList ++
    (usageBlock platform (message.member "usage")).toList

def projectAssistant (join : ToolJoin N) (entry : SessionEntry N) (message : JsValue N) : List (TranscriptRecord N) :=
  let blocks := assistantBlocks platform message
  (if blocks.isEmpty then []
    else [messageRecord entry .assistant blocks (if memberIs message "stopReason" "error" then .error else .complete)]) ++
    (arrayValues (message.member "content")).filterMap (callRecord platform source join entry)

/-- The entry of a result, when no call has its identity. -/
def projectToolResult (join : ToolJoin N) (entry : SessionEntry N) (message : JsValue N) : List (TranscriptRecord N) :=
  match asString (message.member "toolCallId") with
  | none => []
  | some id =>
    if join.merges platform (.string id) && (join.result platform (.string id)).any fun result => result.id = entry.id then []
    else
      [toolRecord entry id ((asString (message.member "toolName")).getD (text "unknown")) (resultState message) none
        (contentBlocks platform source (message.member "content") entry.id) (resultDetails platform source message)]

/-- What a `bashExecution` shows of itself. -/
def bashData (message : JsValue N) : JsValue N :=
  let bounded (key : String) : JsValue N :=
    .string (((asString (message.member key)).map fun value => boundedText value DEFAULT_TEXT_BLOCK_BYTES).getD [])
  let flag (key : String) : JsValue N := .boolean (isTrue (message.member key))
  let exitCode : Option (JsValue N) :=
    match message.member "exitCode" with
    | .number n => some (.number n)
    | .nonFinite => some .nonFinite
    | _ => none
  .object <|
    .cons (text "command") (bounded "command") <|
    .cons (text "output") (bounded "output") <|
    optionMember "exitCode" exitCode <|
    .cons (text "cancelled") (flag "cancelled") <|
    .cons (text "truncated") (flag "truncated") <|
    .cons (text "excludeFromContext") (flag "excludeFromContext") .nil

def membersOf : JsValue N → JsMembers N
  | .object members => members
  | _ => .nil

def projectMessageEntry (join : ToolJoin N) (entry : SessionEntry N) (message : JsValue N) :
    List (TranscriptRecord N) :=
  if memberIs message "role" "assistant" then projectAssistant platform source join entry message
  else if memberIs message "role" "toolResult" then projectToolResult platform source join entry message
  else if memberIs message "role" "bashExecution" then
    [timeline entry .bash ((asString (message.member "command")).map fun command => boundedText command 4096)
      (membersOf (boundedJson platform (bashData message) source.limits.maxRecordBytes 2))]
  else
    let role : MessageRole :=
      if memberIs message "role" "user" then .user
      else if memberIs message "role" "system" then .system
      else .custom
    [messageRecord entry role (contentBlocks platform source (message.member "content") entry.id) .complete]

def projectEntry (join : ToolJoin N) (entry : SessionEntry N) : Except ProjectionFailure (List (TranscriptRecord N)) :=
  match entry.body with
  | .message message => .ok (projectMessageEntry platform source join entry message)
  | .compaction summary =>
    .ok [entry.record "summary:" (.summary .compaction [.markdown (boundedText summary DEFAULT_TEXT_BLOCK_BYTES)])]
  | .branchSummary summary =>
    .ok [entry.record "summary:" (.summary .branch [.markdown (boundedText summary DEFAULT_TEXT_BLOCK_BYTES)])]
  | .customMessage customType display content details =>
    .ok [entry.record "custom:" (.custom customType (!display)
      (if display then (defined details).map fun details =>
        boundedJson platform details source.limits.maxRecordBytes 2 else none)
      (if display then some (contentText content DEFAULT_TEXT_BLOCK_BYTES) else none))]
  | .custom customType data =>
    .ok [entry.record "custom:" (.custom customType false
      ((defined data).map fun data => boundedJson platform data source.limits.maxRecordBytes 2) none)]
  | .modelChange provider modelId =>
    .ok [timeline entry .model (some (provider ++ [0x2f] ++ modelId))
      (.cons (text "provider") (.string provider) <| .cons (text "modelId") (.string modelId) .nil)]
  | .thinkingLevelChange level =>
    .ok [timeline entry .thinking (some level) (.cons (text "level") (.string level) .nil)]
  | .sessionInfo name =>
    .ok [timeline entry .sessionName name (optionMember "name" (name.map .string) .nil)]
  | .label targetId label =>
    .ok [timeline entry .label label
      (.cons (text "targetId") (.string targetId) (optionMember "label" (label.map .string) .nil))]
  | .other => .error .typeError

/-! ## The branch -/

/-- `byId.get(id)`: of entries with one ID, the last. -/
def byId (entries : List (SessionEntry N)) (id : JsString) : Option (SessionEntry N) :=
  entries.reverse.find? fun entry => entry.id = id

def activeBranch (entries : List (SessionEntry N)) : List (SessionEntry N) × Bool :=
  let found := walk (byId entries) SessionEntry.parentId (entries.length + 1) [] (entries.getLast?.map SessionEntry.id)
  (found.1.reverse, found.2)

structure ProjectedBranch (N : Type) where
  branch : List (SessionEntry N)
  truncated : Bool
  records : List (TranscriptRecord N)

/-- `projectSession`, before its records are bounded. -/
def projectBranch (entries : List (SessionEntry N)) : Except ProjectionFailure (ProjectedBranch N) := do
  let found := activeBranch entries
  let join ← joinTools platform found.1
  let records ← found.1.mapM (projectEntry platform source join)
  return ⟨found.1, found.2, records.flatten⟩

end

end

end PiDaemon.Projector
