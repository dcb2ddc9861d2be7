import PiDaemon.Lib.Json
import PiDaemon.Terminal.Sequences

/-!
# Frames

What a viewer of the terminal gets: the rows that have changed, each as its runs of one style,
and all rows after a resize.  A frame that is too large is refused, and changes nothing.

The calls on a terminal are the events of a run; one that throws leaves what it has done.
-/

namespace PiDaemon.Terminal

open Lib

structure VirtualTerminalRun where
  text : JsString
  columns : Nat
  style : VirtualTerminalStyle
  deriving DecidableEq

structure VirtualTerminalRowDelta where
  row : Nat
  text : JsString
  runs : List VirtualTerminalRun
  deriving DecidableEq

structure VirtualTerminalCursor where
  row : Nat
  column : Nat
  visible : Bool
  deriving DecidableEq

structure VirtualTerminalFrame where
  sequence : Nat
  columns : Nat
  rows : Nat
  full : Bool
  changedRows : List VirtualTerminalRowDelta
  cursor : VirtualTerminalCursor
  title : JsString
  progress : Bool
  writes : Nat
  acceptedBytes : Nat
  stripped : VirtualTerminalStrippedSequences
  deriving DecidableEq

/-! ## Rows -/

/-- A cell that a row is shown up to. -/
def Cell.isShown (cell : Cell) : Bool :=
  (!cell.continuation && cell.text ≠ [0x20]) || cell.style ≠ .empty

/-- The cells up to the last one that is shown. -/
def shownCells (row : List Cell) : List Cell :=
  (row.reverse.dropWhile fun cell => !cell.isShown).reverse

/-- The variables of `projectRow`. -/
structure Projection where
  runs : List VirtualTerminalRun
  plainText : JsString
  runText : JsString
  runColumns : Nat
  runStyle : Option VirtualTerminalStyle

namespace Projection

def start : Projection := ⟨[], [], [], 0, none⟩

def flush (p : Projection) : Projection :=
  match p.runStyle with
  | none => p
  | some style =>
    if p.runColumns = 0 then p
    else { p with runs := p.runs ++ [⟨p.runText, p.runColumns, style⟩], runText := [], runColumns := 0 }

/-- The loop of `projectRow`. -/
def addCell (p : Projection) (cell : Cell) : Projection :=
  if cell.continuation then p
  else
    let p := { p with plainText := p.plainText ++ cell.text }
    let p := if p.runStyle = some cell.style then p else { p.flush with runStyle := some cell.style }
    { p with runText := p.runText ++ cell.text, runColumns := p.runColumns + cell.width.columns }

end Projection

def projectRow (row : Nat) (cells : List Cell) : VirtualTerminalRowDelta :=
  let p := ((shownCells cells).foldl Projection.addCell .start).flush
  ⟨row, p.plainText, p.runs⟩

/-! ## Sizes -/

def jsMembers : List (String × JsValue Nat) → JsMembers Nat
  | [] => .nil
  | (key, value) :: rest => .cons (text key) value (jsMembers rest)

def VirtualTerminalColor.json : VirtualTerminalColor → JsValue Nat
  | .indexed value => .object (jsMembers [("mode", .string (text "indexed")), ("value", .number value)])
  | .rgb red green blue =>
    .object (jsMembers [("mode", .string (text "rgb")), ("red", .number red),
      ("green", .number green), ("blue", .number blue)])

/-- A member that is there when it is true. -/
def flagMember (key : String) (value : Bool) : List (String × JsValue Nat) :=
  if value then [(key, .boolean true)] else []

def VirtualTerminalStyle.json (style : VirtualTerminalStyle) : JsValue Nat :=
  .object (jsMembers
    ((style.foreground.map fun color => ("foreground", color.json)).toList ++
      (style.background.map fun color => ("background", color.json)).toList ++
      flagMember "bold" style.bold ++ flagMember "dim" style.dim ++
      flagMember "italic" style.italic ++ flagMember "underline" style.underline ++
      flagMember "inverse" style.inverse ++ flagMember "strikethrough" style.strikethrough ++
      (style.href.map fun href => ("href", .string href)).toList))

def VirtualTerminalRun.json (run : VirtualTerminalRun) : JsValue Nat :=
  .object (jsMembers [("text", .string run.text), ("columns", .number run.columns),
    ("style", run.style.json)])

def VirtualTerminalRowDelta.json (delta : VirtualTerminalRowDelta) : JsValue Nat :=
  .object (jsMembers [("row", .number delta.row), ("text", .string delta.text),
    ("runs", .array (jsSlots (delta.runs.map VirtualTerminalRun.json)))])

def VirtualTerminalStrippedSequences.json (stripped : VirtualTerminalStrippedSequences) :
    JsValue Nat :=
  .object (jsMembers [("osc52", .number stripped.osc52), ("oscOther", .number stripped.oscOther),
    ("deviceControl", .number stripped.deviceControl),
    ("kittyGraphics", .number stripped.kittyGraphics),
    ("unsupportedCsi", .number stripped.unsupportedCsi),
    ("controlCharacters", .number stripped.controlCharacters)])

def VirtualTerminalFrame.json (frame : VirtualTerminalFrame) : JsValue Nat :=
  .object (jsMembers [("sequence", .number frame.sequence), ("columns", .number frame.columns),
    ("rows", .number frame.rows), ("full", .boolean frame.full),
    ("changedRows", .array (jsSlots (frame.changedRows.map VirtualTerminalRowDelta.json))),
    ("cursor", .object (jsMembers [("row", .number frame.cursor.row),
      ("column", .number frame.cursor.column), ("visible", .boolean frame.cursor.visible)])),
    ("title", .string frame.title), ("progress", .boolean frame.progress),
    ("writes", .number frame.writes), ("acceptedBytes", .number frame.acceptedBytes),
    ("stripped", frame.stripped.json)])

/-- `byteLength(JSON.stringify(frame))` -/
def VirtualTerminalFrame.bytes (frame : VirtualTerminalFrame) : Nat :=
  byteLength ((stringify decimal frame.json).getD [])

/-! ## Frames -/

namespace VirtualTerminal

/-- The rows of a frame; `none` is a row outside the grid. -/
def projectRows (t : VirtualTerminal) (rows : List Nat) : Option (List VirtualTerminalRowDelta) :=
  rows.mapM fun row => (t.grid[row]?).map (projectRow row)

def frameCursor (t : VirtualTerminal) : VirtualTerminalCursor :=
  ⟨min (t.rows - 1) t.cursorRow, min (t.columns - 1) t.cursorColumn, t.cursorVisible⟩

/-- The frame of `takeFrame`, whatever its size. -/
def frameOf (t : VirtualTerminal) (full : Bool) : Option VirtualTerminalFrame :=
  (t.projectRows (if full then List.range t.rows else t.dirtyRows.mergeSort)).map fun changedRows =>
    { sequence := t.frameSequence + 1
      columns := t.columns
      rows := t.rows
      full
      changedRows
      cursor := t.frameCursor
      title := t.title
      progress := t.progress
      writes := t.writeCount
      acceptedBytes := t.acceptedByteCount
      stripped := t.strippedCounts }

/-- `takeFrame`; `none` is a call that throws, and changes nothing. -/
def takeFrame (limits : VirtualTerminalLimits) (t : VirtualTerminal) (force : Bool) :
    Option (VirtualTerminalFrame × VirtualTerminal) :=
  if t.pendingEscape ≠ [] then none
  else
    (t.frameOf (force || !t.published || t.dimensionsChanged)).bind fun frame =>
      if frame.bytes > limits.maxFrameBytes then none
      else
        some (frame, { t with
          frameSequence := frame.sequence
          published := true
          dimensionsChanged := false
          dirtyRows := [] })

end VirtualTerminal

/-! ## Runs -/

inductive TerminalEvent where
  | write (data : JsString)
  | resize (columns rows : Nat)
  | moveBy (lines : Int)
  | hideCursor
  | showCursor
  | clearLine
  | clearFromCursor
  | clearScreen
  | setTitle (title : JsString)
  | setProgress (active : Bool)
  | takeFrame (force : Bool)
  deriving DecidableEq

open VirtualTerminal in
/-- What a call leaves; `takeFrame` is a call of its own. -/
def VirtualTerminal.call (platform : TerminalPlatform) (limits : VirtualTerminalLimits)
    (t : VirtualTerminal) : TerminalEvent → Attempt VirtualTerminal
  | .write data => t.write platform limits data
  | .resize columns rows =>
    match t.resize limits columns rows with
    | none => .threw t
    | some t => .returned t
  | .moveBy lines => .returned (t.moveBy lines)
  | .hideCursor => .returned { t with cursorVisible := false }
  | .showCursor => .returned { t with cursorVisible := true }
  | .clearLine => t.clearLine
  | .clearFromCursor => t.clearFromCursor
  | .clearScreen => t.clearScreen
  | .setTitle title => .returned (t.setTitle limits title)
  | .setProgress active => .returned { t with progress := active }
  | .takeFrame force =>
    match t.takeFrame limits force with
    | none => .threw t
    | some (_, t) => .returned t

def terminalStep (platform : TerminalPlatform) (limits : VirtualTerminalLimits) (t : VirtualTerminal)
    (event : TerminalEvent) : Option VirtualTerminal :=
  some (t.call platform limits event).state

end PiDaemon.Terminal
