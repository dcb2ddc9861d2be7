import PiDaemon.Viewing.FrameStore

/-!
# The terminal frames of the Android client

`TuiFrameDecoder` and `TuiFrameReducer`: which frames the client takes, and the rows that it holds
after each.  A live state holds one row for each line of the screen.

The frames are those of the contract, as `JSON.stringify` writes them.  An error is its code;
`illegal_argument` stands for the requirements that have none.  `Char.isWhitespace` is a parameter.
-/

namespace PiDaemon.Android

open Lib Streams Shadow

def TUI_MAX_ROWS : Nat := 200

def TUI_MAX_COLUMNS : Nat := 320

def MAX_FRAME_CHARS : Nat := 1048576

def MAX_RUNS_PER_ROW : Nat := TUI_MAX_COLUMNS

def MAX_RUN_TEXT_CHARS : Nat := 2048

/-- `Int.MAX_VALUE` -/
def maxInt : Nat := 2147483647

/-- `Long.MAX_VALUE` -/
def maxLong : Nat := 9223372036854775807

structure TuiStyledRunModel where
  text : JsString
  style : TuiStyle
  deriving DecidableEq

structure TuiRowModel where
  row : Nat
  runs : List TuiStyledRunModel
  deriving DecidableEq

def TuiRowModel.empty (row : Nat) : TuiRowModel := ⟨row, []⟩

structure TuiCursorModel where
  row : Nat
  column : Nat
  visible : Bool
  shape : TuiCursorShape
  deriving DecidableEq

inductive TuiFramePhase where
  | live
  | replayGap
  deriving DecidableEq

inductive TuiControlRole where
  | observer
  | controller
  deriving DecidableEq

structure TuiFrameState where
  identity : DashboardSessionIdentity
  dimensions : TuiDimensions
  rows : List TuiRowModel
  cursor : TuiCursorModel
  title : Option JsString
  highWaterCursor : JsString
  sequence : Nat
  phase : TuiFramePhase
  role : TuiControlRole
  gapReason : Option JsString := none
  deriving DecidableEq

structure TuiDeltaModel where
  identity : DashboardSessionIdentity
  cursor : JsString
  sequence : Nat
  dimensions : TuiDimensions
  changedRows : List TuiRowModel
  cursorState : TuiCursorModel
  title : Option JsString
  deriving DecidableEq

section
variable (isWhitespace : UInt16 → Bool)

def isNotBlank (s : JsString) : Bool := !s.all isWhitespace

/-! ## The decoder -/

def requiredBoundedString (value : JsString) (maxLength : Nat) (allowEmpty : Bool) : Except String JsString := do
  check ((allowEmpty || !value.isEmpty) && value.length ≤ maxLength && !value.contains 0) "invalid_field"
  return value

/-- A character that no line has. -/
def breaksLine (u : UInt16) : Bool := u = 0x00 || u = 0x0a || u = 0x0d

def optionalBoundedString (value : Option JsString) (maxLength : Nat) (code : String) :
    Except String (Option JsString) := do
  check (value.all fun s => s.length ≤ maxLength && !s.any breaksLine) code
  return value

def requiredNonNegativeInt (value : Nat) : Except String Nat := do
  check (value ≤ maxInt) "invalid_field"
  return value

def isHex (u : UInt16) : Bool :=
  (0x30 ≤ u.toNat && u.toNat ≤ 0x39) || (0x41 ≤ u.toNat && u.toNat ≤ 0x46) ||
    (0x61 ≤ u.toNat && u.toNat ≤ 0x66)

def isLetter (u : UInt16) : Bool :=
  (0x41 ≤ u.toNat && u.toNat ≤ 0x5a) || (0x61 ≤ u.toNat && u.toNat ≤ 0x7a)

/-- `^(#[0-9A-Fa-f]{6}|#[0-9A-Fa-f]{8}|[A-Za-z]{1,24})$` -/
def isColor (value : JsString) : Bool :=
  (value.head? = some 0x23 && value.tail.all isHex && (value.length = 7 || value.length = 9)) ||
    (value.all isLetter && 1 ≤ value.length && value.length ≤ 24)

def optionalColor (value : Option JsString) : Except String (Option JsString) := do
  let value ← optionalBoundedString value 32 "invalid_field"
  check (value.all isColor) "invalid_style"
  return value

def decodeIdentity (value : DashboardSessionIdentity) : Except String DashboardSessionIdentity := do
  let hostInstanceId ← requiredBoundedString value.hostInstanceId 256 false
  let sessionId ← requiredBoundedString value.sessionId 256 false
  let generation ← requiredNonNegativeInt value.generation
  check (isNotBlank isWhitespace hostInstanceId) "illegal_argument"
  check (isNotBlank isWhitespace sessionId) "illegal_argument"
  return ⟨hostInstanceId, sessionId, generation⟩

def decodeDimensions (value : TuiDimensions) : Except String TuiDimensions := do
  check (1 ≤ value.rows && value.rows ≤ TUI_MAX_ROWS && 1 ≤ value.columns && value.columns ≤ TUI_MAX_COLUMNS)
    "dimensions_out_of_bounds"
  return value

def decodeRun (run : TuiStyledRun) : Except String TuiStyledRunModel := do
  let text ← requiredBoundedString run.text MAX_RUN_TEXT_CHARS true
  check (!text.any breaksLine) "invalid_run"
  let foreground ← optionalColor (run.style.bind (·.foreground))
  let background ← optionalColor (run.style.bind (·.background))
  return ⟨text, { run.style.getD .empty with foreground, background }⟩

def decodeRow (dimensions : TuiDimensions) (row : TuiRow) : Except String TuiRowModel := do
  check (row.runs.length ≤ MAX_RUNS_PER_ROW) "row_too_large"
  let decoded ← row.runs.mapM decodeRun
  check ((decoded.map fun run => run.text.length).sum ≤ dimensions.columns * 4) "row_too_large"
  return ⟨row.row, decoded⟩

/-- A turn of `decodeRows`, after the rows that were decoded. -/
def addRow (dimensions : TuiDimensions) (rows : List TuiRowModel) (row : TuiRow) :
    Except String (List TuiRowModel) := do
  let index ← requiredNonNegativeInt row.row
  check (index < dimensions.rows && !decide (index ∈ rows.map TuiRowModel.row)) "row_out_of_bounds"
  let decoded ← decodeRow dimensions row
  return rows ++ [decoded]

def decodeRows (value : List TuiRow) (dimensions : TuiDimensions) : Except String (List TuiRowModel) := do
  check (value.length ≤ TUI_MAX_ROWS) "rows_out_of_bounds"
  value.foldlM (addRow dimensions) []

def decodeCursor (value : TuiCursorState) (dimensions : TuiDimensions) : Except String TuiCursorModel := do
  let row ← requiredNonNegativeInt value.row
  let column ← requiredNonNegativeInt value.column
  check (row < dimensions.rows && column < dimensions.columns) "cursor_out_of_bounds"
  return ⟨row, column, value.visible, value.shape.getD .block⟩

def normalizeRows (rows : List TuiRowModel) (dimensions : TuiDimensions) : List TuiRowModel :=
  (List.range dimensions.rows).map fun row => (rows.find? fun other => other.row = row).getD (.empty row)

/-- The requirements of a `TuiFrameState`. -/
def requireState (state : TuiFrameState) : Except String TuiFrameState := do
  check (isNotBlank isWhitespace state.highWaterCursor && state.highWaterCursor.length ≤ 1024) "illegal_argument"
  check (state.title.all fun title => title.length ≤ 256 && !title.any breaksLine) "illegal_argument"
  check (if state.phase = .live then state.rows.map TuiRowModel.row = List.range state.dimensions.rows
    else state.rows.isEmpty) "illegal_argument"
  return state

def checkFrame (json : JsValue Nat) : Except String Unit :=
  check (((stringify decimal json).getD []).length ≤ MAX_FRAME_CHARS) "frame_too_large"

def decodeSnapshot (snapshot : DashboardTuiSnapshot) (role : TuiControlRole) : Except String TuiFrameState := do
  checkFrame snapshot.json
  let identity ← decodeIdentity isWhitespace snapshot.identity
  let dimensions ← decodeDimensions snapshot.dimensions
  let rows ← decodeRows snapshot.rows dimensions
  let cursor ← decodeCursor snapshot.cursor dimensions
  let title ← optionalBoundedString snapshot.title 256 "title_too_large"
  let highWaterCursor ← requiredBoundedString snapshot.highWaterCursor 1024 false
  requireState isWhitespace
    { identity, dimensions, cursor, title, highWaterCursor, role
      rows := normalizeRows rows dimensions
      sequence := 0
      phase := .live }

def decodeDelta (delta : DashboardTuiDelta) : Except String TuiDeltaModel := do
  checkFrame delta.json
  let dimensions ← decodeDimensions delta.dimensions
  let identity ← decodeIdentity isWhitespace delta.identity
  let cursor ← requiredBoundedString delta.cursor 1024 false
  check (1 ≤ delta.sequence && delta.sequence ≤ maxLong) "invalid_field"
  let changedRows ← decodeRows delta.changedRows dimensions
  let cursorState ← decodeCursor delta.cursorState dimensions
  let title ← optionalBoundedString delta.title 256 "title_too_large"
  return ⟨identity, cursor, delta.sequence, dimensions, changedRows, cursorState, title⟩

/-! ## The reducer -/

def requireIdentity (expected actual : DashboardSessionIdentity) : Except String Unit :=
  check (expected = actual) "identity_mismatch"

def requireResync (state : TuiFrameState) (reason highWaterCursor : JsString) : Except String TuiFrameState :=
  requireState isWhitespace
    { state with
      rows := []
      cursor := ⟨0, 0, false, .block⟩
      highWaterCursor
      phase := .replayGap
      gapReason := some reason }

/-- The rows of other dimensions: those that are there, and empty ones. -/
def resized (state : TuiFrameState) (dimensions : TuiDimensions) : List TuiRowModel :=
  (List.range dimensions.rows).map fun row =>
    ((state.rows[row]?).filter fun held => held.row = row).getD (.empty row)

def applyDelta (state : TuiFrameState) (delta : TuiDeltaModel) : Except String TuiFrameState := do
  requireIdentity state.identity delta.identity
  if state.phase = .replayGap then return state
  if state.sequence > 0 ∧ delta.sequence ≤ state.sequence then return state
  if state.sequence > 0 ∧ delta.sequence ≠ state.sequence + 1 then
    return ← requireResync isWhitespace state (text "sequence-gap") delta.cursor
  let rows := delta.changedRows.foldl (fun rows changed => rows.set changed.row changed)
    (resized state delta.dimensions)
  requireState isWhitespace
    { state with
      dimensions := delta.dimensions
      rows
      cursor := delta.cursorState
      title := delta.title
      highWaterCursor := delta.cursor
      sequence := delta.sequence
      phase := .live
      gapReason := none }

end

end PiDaemon.Android
