import PiDaemon.Lib.Base64Url
import PiDaemon.Streams.Connection
import PiDaemon.Terminal.Frames

/-!
# Snapshots and deltas of a terminal view

The data that a terminal view hands to its viewers, and how many bytes it takes as JSON.  A flag of
a style that is not set is left out.

* `bytes_object`: the bytes of an object, member by member;
* `snapshot_bytes_le`: a snapshot takes no more bytes than the delta with the same content.
-/

namespace PiDaemon.Shadow

open Lib Streams Terminal

/-- 0 stands for what is not a positive integer. -/
structure TuiDimensions where
  rows : Nat
  columns : Nat
  deriving DecidableEq

def validateDimensions (dimensions : TuiDimensions) : Bool :=
  VirtualTerminal.isPositiveInteger dimensions.columns DEFAULT_VIRTUAL_TERMINAL_LIMITS.maxColumns &&
    VirtualTerminal.isPositiveInteger dimensions.rows DEFAULT_VIRTUAL_TERMINAL_LIMITS.maxRows

structure TuiChannelOptions where
  role : DashboardControllerRole
  dimensions : TuiDimensions
  deriving DecidableEq

structure TuiStyle where
  foreground : Option JsString
  background : Option JsString
  bold : Bool
  dim : Bool
  italic : Bool
  underline : Bool
  inverse : Bool
  deriving DecidableEq

def TuiStyle.empty : TuiStyle := ⟨none, none, false, false, false, false, false⟩

structure TuiStyledRun where
  text : JsString
  style : Option TuiStyle
  deriving DecidableEq

structure TuiRow where
  row : Nat
  runs : List TuiStyledRun
  deriving DecidableEq

inductive TuiCursorShape where
  | block
  | bar
  | underline
  deriving DecidableEq

structure TuiCursorState where
  row : Nat
  column : Nat
  visible : Bool
  shape : Option TuiCursorShape
  deriving DecidableEq

structure DashboardTuiSnapshot where
  identity : DashboardSessionIdentity
  dimensions : TuiDimensions
  rows : List TuiRow
  cursor : TuiCursorState
  title : Option JsString
  highWaterCursor : JsString
  deriving DecidableEq

structure DashboardTuiDelta where
  identity : DashboardSessionIdentity
  cursor : JsString
  sequence : Nat
  dimensions : TuiDimensions
  changedRows : List TuiRow
  cursorState : TuiCursorState
  title : Option JsString
  deriving DecidableEq

inductive DashboardControlAction where
  | controlGranted
  | controlDenied
  | controlReleased
  deriving DecidableEq

structure DashboardControlEvent where
  identity : DashboardSessionIdentity
  action : DashboardControlAction
  connectionId : Option JsString
  reason : Option JsString
  deriving DecidableEq

inductive DashboardReplayGapReason where
  | cursorExpired
  | hostRestarted
  | generationChanged
  deriving DecidableEq

structure DashboardReplayGap where
  identity : DashboardSessionIdentity
  reason : DashboardReplayGapReason
  requestedCursor : JsString
  highWaterCursor : JsString
  oldestAvailableCursor : Option JsString
  deriving DecidableEq

inductive DashboardTuiChannelEvent where
  | delta (delta : DashboardTuiDelta)
  | control (event : DashboardControlEvent)
  | replayGap (gap : DashboardReplayGap)
  deriving DecidableEq

/-! ## JSON -/

def identityMembers (identity : DashboardSessionIdentity) : List (String × JsValue Nat) :=
  [("hostInstanceId", .string identity.hostInstanceId), ("sessionId", .string identity.sessionId),
    ("generation", .number identity.generation)]

def identityJson (identity : DashboardSessionIdentity) : JsValue Nat :=
  .object (jsMembers (identityMembers identity))

def TuiDimensions.json (dimensions : TuiDimensions) : JsValue Nat :=
  .object (jsMembers [("rows", .number dimensions.rows), ("columns", .number dimensions.columns)])

def TuiStyle.json (style : TuiStyle) : JsValue Nat :=
  .object (jsMembers
    ((style.foreground.map fun color => ("foreground", .string color)).toList ++
      (style.background.map fun color => ("background", .string color)).toList ++
      flagMember "bold" style.bold ++ flagMember "dim" style.dim ++
      flagMember "italic" style.italic ++ flagMember "underline" style.underline ++
      flagMember "inverse" style.inverse))

def TuiStyledRun.json (run : TuiStyledRun) : JsValue Nat :=
  .object (jsMembers (("text", .string run.text) ::
    (run.style.map fun style => ("style", style.json)).toList))

def TuiRow.json (row : TuiRow) : JsValue Nat :=
  .object (jsMembers [("row", .number row.row),
    ("runs", .array (jsSlots (row.runs.map TuiStyledRun.json)))])

def rowsJson (rows : List TuiRow) : JsValue Nat := .array (jsSlots (rows.map TuiRow.json))

def TuiCursorShape.name : TuiCursorShape → JsString
  | block => text "block"
  | bar => text "bar"
  | underline => text "underline"

def TuiCursorState.json (cursor : TuiCursorState) : JsValue Nat :=
  .object (jsMembers ([("row", .number cursor.row), ("column", .number cursor.column),
    ("visible", .boolean cursor.visible)] ++
      (cursor.shape.map fun shape => ("shape", .string shape.name)).toList))

/-- A member that is there when it is not `undefined`. -/
def stringMember (key : String) (value : Option JsString) : List (String × JsValue Nat) :=
  (value.map fun value => (key, .string value)).toList

def DashboardTuiSnapshot.members (snapshot : DashboardTuiSnapshot) : List (String × JsValue Nat) :=
  ("identity", identityJson snapshot.identity) :: ("dimensions", snapshot.dimensions.json) ::
    ("rows", rowsJson snapshot.rows) :: ("cursor", snapshot.cursor.json) ::
    (stringMember "title" snapshot.title ++ [("highWaterCursor", .string snapshot.highWaterCursor)])

def DashboardTuiSnapshot.json (snapshot : DashboardTuiSnapshot) : JsValue Nat :=
  .object (jsMembers snapshot.members)

def DashboardTuiDelta.members (delta : DashboardTuiDelta) : List (String × JsValue Nat) :=
  ("kind", .string (text "tui_delta")) :: ("identity", identityJson delta.identity) ::
    ("cursor", .string delta.cursor) :: ("sequence", .number delta.sequence) ::
    ("dimensions", delta.dimensions.json) :: ("changedRows", rowsJson delta.changedRows) ::
    ("cursorState", delta.cursorState.json) :: stringMember "title" delta.title

def DashboardTuiDelta.json (delta : DashboardTuiDelta) : JsValue Nat :=
  .object (jsMembers delta.members)

def DashboardControlAction.name : DashboardControlAction → JsString
  | controlGranted => text "control_granted"
  | controlDenied => text "control_denied"
  | controlReleased => text "control_released"

def DashboardReplayGapReason.name : DashboardReplayGapReason → JsString
  | cursorExpired => text "cursor-expired"
  | hostRestarted => text "host-restarted"
  | generationChanged => text "generation-changed"

def DashboardTuiChannelEvent.json : DashboardTuiChannelEvent → JsValue Nat
  | delta change => change.json
  | control event =>
    .object (jsMembers ([("kind", .string (text "control")), ("identity", identityJson event.identity),
      ("action", .string event.action.name)] ++ stringMember "connectionId" event.connectionId ++
        stringMember "reason" event.reason))
  | replayGap gap =>
    .object (jsMembers ([("kind", .string (text "replay_gap")), ("identity", identityJson gap.identity),
      ("reason", .string gap.reason.name), ("requestedCursor", .string gap.requestedCursor),
      ("highWaterCursor", .string gap.highWaterCursor)] ++
        stringMember "oldestAvailableCursor" gap.oldestAvailableCursor ++
          [("snapshotFollows", .boolean true)]))

/-- The bytes of `JSON.stringify(value)`. -/
def jsonBytes (value : JsValue Nat) : Nat := byteLength ((stringify decimal value).getD [])

def DashboardTuiSnapshot.bytes (snapshot : DashboardTuiSnapshot) : Nat := jsonBytes snapshot.json

def DashboardTuiDelta.bytes (delta : DashboardTuiDelta) : Nat := jsonBytes delta.json

def DashboardTuiChannelEvent.bytes (event : DashboardTuiChannelEvent) : Nat := jsonBytes event.json

def encodeCursor (identity : DashboardSessionIdentity) (sequence : Nat) : JsString :=
  text "tui:" ++ base64Url (utf8Encode
    ((stringify decimal (.object (jsMembers (identityMembers identity ++
      [("sequence", .number sequence)])))).getD []))

/-! ## Sizes -/

/-- A value that has a serialization. -/
def isWritten : JsValue Nat → Bool
  | .undefined => false
  | .function => false
  | .symbol => false
  | _ => true

theorem serialize_isSome {value : JsValue Nat} (h : isWritten value = true) :
    ∃ s, stringify decimal value = some s := by
  cases value with
  | undefined => cases h
  | function => cases h
  | symbol => cases h
  | _ => exact ⟨_, rfl⟩

/-- The text of a member. -/
def memberText (member : String × JsValue Nat) : JsString :=
  quote (text member.1) ++ ([0x3a] ++ (stringify decimal member.2).getD [])

theorem serializeMembers_eq (members : List (String × JsValue Nat))
    (h : ∀ member ∈ members, isWritten member.2 = true) :
    serializeMembers decimal [] [] (jsMembers members) = members.map memberText := by
  induction members with
  | nil => rfl
  | cons member members ih =>
    obtain ⟨_, value⟩ := member
    obtain ⟨s, hs⟩ := serialize_isSome (h _ List.mem_cons_self)
    have hserialize : serialize decimal [] [] value = some s := hs
    rw [jsMembers, serializeMembers, hserialize,
      ih fun other hother => h other (List.mem_cons_of_mem _ hother)]
    simp [memberText, hs]

theorem startsLow_memberText (member : String × JsValue Nat) :
    startsLow (memberText member) = false := rfl

theorem startsLow_stringify (value : JsValue Nat) :
    startsLow ((stringify decimal value).getD []) = false := by
  cases hs : stringify decimal value with
  | none => rfl
  | some s => exact startsLow_serialize decimal hs

/-- The bytes of a member: its key, its value, the quotes and the colon. -/
def memberBytes (member : String × JsValue Nat) : Nat :=
  byteLength (quote (text member.1)) + 1 + jsonBytes member.2

theorem byteLength_memberText (member : String × JsValue Nat) :
    byteLength (memberText member) = memberBytes member := by
  have hvalue := startsLow_stringify member.2
  have hcolon : byteLength [0x3a] = 1 := by decide
  unfold memberText memberBytes jsonBytes
  rw [byteLength_append _ _ (startsLow_append rfl hvalue), byteLength_append _ _ hvalue]
  omega

/-- The bytes of members with a comma before each but the first. -/
def membersBytes (members : List (String × JsValue Nat)) : Nat :=
  (members.map fun member => memberBytes member + 1).sum

theorem itemsBytes_false (items : List JsString) :
    itemsBytes false items = (items.map fun s => byteLength s + 1).sum := by
  induction items with
  | nil => rfl
  | cons s items ih =>
    simp only [itemsBytes, Bool.false_eq_true, if_false, ih, List.map_cons, List.sum_cons]
    omega

theorem bytes_object {member : String × JsValue Nat} {members : List (String × JsValue Nat)}
    (h : ∀ other ∈ member :: members, isWritten other.2 = true) :
    jsonBytes (.object (jsMembers (member :: members))) = 1 + membersBytes (member :: members) := by
  have hserialize : stringify decimal (.object (jsMembers (member :: members))) =
      some (bracket 0x7b 0x7d [] [] ((member :: members).map memberText)) := by
    rw [stringify, serialize, List.append_nil, serializeMembers_eq _ h]
  unfold jsonBytes
  rw [hserialize, Option.getD_some, byteLength_bracket (by decide) (by decide) (fun s hs => by
    obtain ⟨other, _, rfl⟩ := List.mem_map.mp hs
    exact startsLow_memberText other)]
  simp only [List.map_cons, itemsBytes, if_true, itemsBytes_false, List.map_map, membersBytes,
    List.sum_cons, byteLength_memberText, Function.comp_def]
  omega

theorem isWritten_stringMember {key : String} {value : Option JsString}
    {member : String × JsValue Nat} (h : member ∈ stringMember key value) :
    isWritten member.2 = true := by
  cases value with
  | none => cases h
  | some value =>
    cases List.mem_singleton.mp h
    rfl

theorem membersBytes_append (first second : List (String × JsValue Nat)) :
    membersBytes (first ++ second) = membersBytes first + membersBytes second := by
  simp [membersBytes]

theorem membersBytes_cons (key : String) (value : JsValue Nat)
    (members : List (String × JsValue Nat)) :
    membersBytes ((key, value) :: members) =
      byteLength (quote (text key)) + 1 + jsonBytes value + 1 + membersBytes members := by
  simp [membersBytes, memberBytes]

theorem snapshot_bytes (snapshot : DashboardTuiSnapshot) :
    snapshot.bytes = 1 + membersBytes snapshot.members := by
  refine bytes_object fun member hmember => ?_
  simp only [List.mem_cons, List.mem_append, List.not_mem_nil, or_false] at hmember
  rcases hmember with rfl | rfl | rfl | rfl | htitle | rfl
  all_goals first | rfl | exact isWritten_stringMember htitle

theorem delta_bytes (delta : DashboardTuiDelta) : delta.bytes = 1 + membersBytes delta.members := by
  refine bytes_object fun member hmember => ?_
  simp only [List.mem_cons] at hmember
  rcases hmember with rfl | rfl | rfl | rfl | rfl | rfl | rfl | htitle
  all_goals first | rfl | exact isWritten_stringMember htitle

/-- A snapshot takes no more bytes than the delta with the same content. -/
theorem snapshot_bytes_le (snapshot : DashboardTuiSnapshot) (sequence : Nat) :
    snapshot.bytes ≤ DashboardTuiDelta.bytes
      { identity := snapshot.identity
        cursor := snapshot.highWaterCursor
        sequence
        dimensions := snapshot.dimensions
        changedRows := snapshot.rows
        cursorState := snapshot.cursor
        title := snapshot.title } := by
  have hkeys : byteLength (quote (text "rows")) + byteLength (quote (text "cursor")) +
      byteLength (quote (text "highWaterCursor")) ≤ byteLength (quote (text "changedRows")) +
        byteLength (quote (text "cursorState")) + byteLength (quote (text "cursor")) +
        byteLength (quote (text "kind")) := by
    decide
  rw [snapshot_bytes, delta_bytes, DashboardTuiSnapshot.members, DashboardTuiDelta.members]
  simp only [membersBytes_cons, membersBytes_append]
  have hnil : membersBytes [] = 0 := rfl
  omega

end PiDaemon.Shadow
