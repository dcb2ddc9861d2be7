import PiDaemon.Lib.Attempt
import PiDaemon.Lib.JsString

/-!
# The screen of a virtual terminal

The grid of `VirtualTerminal`, its cursor, and what changes them.  A call that reads a row or
a cell outside the grid throws.  How wide a grapheme is shown is a parameter.
-/

namespace PiDaemon.Terminal

open Lib

structure VirtualTerminalLimits where
  maxColumns : Nat
  maxRows : Nat
  maxWriteBytes : Nat
  maxEscapeBytes : Nat
  maxTitleBytes : Nat
  maxFrameBytes : Nat

def DEFAULT_VIRTUAL_TERMINAL_LIMITS : VirtualTerminalLimits where
  maxColumns := 320
  maxRows := 200
  maxWriteBytes := 1024 * 1024
  maxEscapeBytes := 64 * 1024
  maxTitleBytes := 512
  maxFrameBytes := 512 * 1024

inductive VirtualTerminalColor where
  | indexed (value : Nat)
  | rgb (red green blue : Nat)
  deriving DecidableEq

structure VirtualTerminalStyle where
  foreground : Option VirtualTerminalColor
  background : Option VirtualTerminalColor
  bold : Bool
  dim : Bool
  italic : Bool
  underline : Bool
  inverse : Bool
  strikethrough : Bool
  href : Option JsString
  deriving DecidableEq

/-- The style `{}`. -/
def VirtualTerminalStyle.empty : VirtualTerminalStyle :=
  ⟨none, none, false, false, false, false, false, false, none⟩

inductive CellWidth where
  | one
  | two
  deriving DecidableEq

def CellWidth.columns : CellWidth → Nat
  | one => 1
  | two => 2

structure Cell where
  text : JsString
  width : CellWidth
  continuation : Bool
  style : VirtualTerminalStyle
  deriving DecidableEq

def blankCell : Cell := ⟨[0x20], .one, false, .empty⟩

def blankRow (columns : Nat) : List Cell := List.replicate columns blankCell

def blankRows (rows columns : Nat) : List (List Cell) := List.replicate rows (blankRow columns)

structure VirtualTerminalStrippedSequences where
  osc52 : Nat
  oscOther : Nat
  deviceControl : Nat
  kittyGraphics : Nat
  unsupportedCsi : Nat
  controlCharacters : Nat
  deriving DecidableEq

structure VirtualTerminal where
  columns : Nat
  rows : Nat
  grid : List (List Cell)
  cursorRow : Nat
  cursorColumn : Nat
  cursorVisible : Bool
  savedCursor : Option (Nat × Nat)
  currentStyle : VirtualTerminalStyle
  pendingEscape : JsString
  dirtyRows : List Nat
  frameSequence : Nat
  published : Bool
  dimensionsChanged : Bool
  title : JsString
  progress : Bool
  writeCount : Nat
  acceptedByteCount : Nat
  strippedCounts : VirtualTerminalStrippedSequences
  deriving DecidableEq

namespace VirtualTerminal

/-- `this.dirtyRows.add(row)` -/
def markRow (t : VirtualTerminal) (row : Nat) : VirtualTerminal :=
  if row ∈ t.dirtyRows then t else { t with dirtyRows := t.dirtyRows ++ [row] }

def markRows (t : VirtualTerminal) (rows : List Nat) : VirtualTerminal := rows.foldl markRow t

def markAllDirty (t : VirtualTerminal) : VirtualTerminal := t.markRows (List.range t.rows)

/-- `assertPositiveInteger` -/
def isPositiveInteger (value maximum : Nat) : Bool := 1 ≤ value && value ≤ maximum

/-- The constructor; `none` is a `RangeError`. -/
def construct (limits : VirtualTerminalLimits) (columns rows : Nat) : Option VirtualTerminal :=
  if isPositiveInteger columns limits.maxColumns && isPositiveInteger rows limits.maxRows then
    some (markAllDirty
      { columns, rows
        grid := blankRows rows columns
        cursorRow := 0
        cursorColumn := 0
        cursorVisible := false
        savedCursor := none
        currentStyle := .empty
        pendingEscape := []
        dirtyRows := []
        frameSequence := 0
        published := false
        dimensionsChanged := false
        title := []
        progress := false
        writeCount := 0
        acceptedByteCount := 0
        strippedCounts := ⟨0, 0, 0, 0, 0, 0⟩ })
  else none

/-! ## Cells -/

/-- The row after `eraseCellForWrite` of a cell in it. -/
def eraseIn (columns : Nat) (row : List Cell) (column : Nat) (existing : Cell) : List Cell :=
  let row :=
    if existing.continuation ∧ 0 < column then row.set (column - 1) blankCell else row
  let row :=
    if existing.continuation = false ∧ existing.width = .two ∧ column + 1 < columns then
      row.set (column + 1) blankCell
    else row
  row.set column blankCell

def eraseCellForWrite (t : VirtualTerminal) (row column : Nat) : Attempt VirtualTerminal :=
  match t.grid[row]? with
  | none => .threw t
  | some cells =>
    match cells[column]? with
    | none => .threw t
    | some existing =>
      .returned { t with grid := t.grid.set row (eraseIn t.columns cells column existing) }

/-- A cell of the grid is assigned. -/
def setCell (t : VirtualTerminal) (row column : Nat) (cell : Cell) : VirtualTerminal :=
  { t with grid := t.grid.modify row fun cells => cells.set column cell }

/-! ## Scrolls -/

def scrollUp (t : VirtualTerminal) (count : Nat) : VirtualTerminal :=
  let bounded := min t.rows count
  if bounded = 0 then t
  else markAllDirty { t with grid := t.grid.drop bounded ++ blankRows bounded t.columns }

def scrollDown (t : VirtualTerminal) (count : Nat) : VirtualTerminal :=
  let bounded := min t.rows count
  if bounded = 0 then t
  else
    markAllDirty { t with
      grid := blankRows bounded t.columns ++
        (t.grid.take (t.rows - bounded) ++ t.grid.drop t.rows) }

def lineFeed (t : VirtualTerminal) : VirtualTerminal :=
  if t.cursorRow ≥ t.rows - 1 then t.scrollUp 1 else { t with cursorRow := t.cursorRow + 1 }

def reverseIndex (t : VirtualTerminal) : VirtualTerminal :=
  if t.cursorRow = 0 then t.scrollDown 1 else { t with cursorRow := t.cursorRow - 1 }

/-! ## Erasure -/

/-- The loop over the columns of the cursor's row. -/
def eraseCells (t : VirtualTerminal) (columns : List Nat) : Attempt VirtualTerminal :=
  Attempt.each (fun t column => t.eraseCellForWrite t.cursorRow column) columns t

/-- The column of the cursor, within the row. -/
def clampedColumn (t : VirtualTerminal) : Nat := min (t.columns - 1) t.cursorColumn

def eraseLine (t : VirtualTerminal) (mode : Int) : Attempt VirtualTerminal :=
  let column := t.clampedColumn
  let start := if mode = 1 ∨ mode = 2 then 0 else column
  let stop := if mode = 1 then column else t.columns - 1
  (t.eraseCells (List.range' start (stop + 1 - start))).andThen fun t =>
    .returned (t.markRow t.cursorRow)

def eraseDisplay (t : VirtualTerminal) (mode : Int) : Attempt VirtualTerminal :=
  let column := t.clampedColumn
  if mode = 3 then .returned t
  else if mode = 2 then
    .returned (markAllDirty { t with grid := blankRows t.rows t.columns })
  else if mode = 0 then
    (t.eraseCells (List.range' column (t.columns - column))).andThen fun t =>
      let below := t.rows - (t.cursorRow + 1)
      .returned (markRows
        { t with
          grid := t.grid.take (t.cursorRow + 1) ++
            (blankRows below t.columns ++ t.grid.drop (t.cursorRow + 1 + below)) }
        (List.range' t.cursorRow (t.rows - t.cursorRow)))
  else if mode = 1 then
    -- Rows past the end of the grid are created by their assignment.
    ({ t with grid := blankRows t.cursorRow t.columns ++ t.grid.drop t.cursorRow }.eraseCells
        (List.range' 0 (column + 1))).andThen fun t =>
      .returned (t.markRows (List.range' 0 (t.cursorRow + 1)))
  else .returned t

def reset (t : VirtualTerminal) : Attempt VirtualTerminal :=
  { t with
    currentStyle := .empty
    savedCursor := none
    cursorRow := 0
    cursorColumn := 0
    cursorVisible := false }.eraseDisplay 2

/-! ## Graphemes -/

/-- The grapheme joins the one before the cursor. -/
def appendGrapheme (t : VirtualTerminal) (grapheme : JsString) : Attempt VirtualTerminal :=
  if t.cursorColumn = 0 then .returned t
  else
    let previousColumn := min (t.columns - 1) (t.cursorColumn - 1)
    match t.grid[t.cursorRow]? with
    | none => .threw t
    | some cells =>
      match cells[previousColumn]? with
      | none => .threw t
      | some previous =>
        let lead :=
          if previous.continuation ∧ 0 < previousColumn then previousColumn - 1 else previousColumn
        .returned (markRow
          { t with
            grid := t.grid.set t.cursorRow
              (cells.modify lead fun cell => { cell with text := cell.text ++ grapheme }) }
          t.cursorRow)

/-- The cursor goes to the next line when the cell does not fit. -/
def wrapFor (t : VirtualTerminal) (width : CellWidth) : VirtualTerminal :=
  if t.cursorColumn ≥ t.columns ∨ (width = .two ∧ t.cursorColumn = t.columns - 1) then
    lineFeed { t with cursorColumn := 0 }
  else t

/-- The part of `writeGrapheme` that writes a cell. -/
def placeCell (t : VirtualTerminal) (grapheme : JsString) (width : CellWidth) :
    Attempt VirtualTerminal :=
  (t.eraseCellForWrite t.cursorRow t.cursorColumn).andThen fun t =>
    let t := t.setCell t.cursorRow t.cursorColumn ⟨grapheme, width, false, t.currentStyle⟩
    (if width = .two ∧ t.cursorColumn + 1 < t.columns then
      (t.eraseCellForWrite t.cursorRow (t.cursorColumn + 1)).andThen fun t =>
        .returned (t.setCell t.cursorRow (t.cursorColumn + 1) ⟨[], .one, true, t.currentStyle⟩)
    else .returned t).andThen fun t =>
      .returned { t.markRow t.cursorRow with cursorColumn := t.cursorColumn + width.columns }

/-- `writeGrapheme`; `width` is `visibleWidth(grapheme)`. -/
def writeGrapheme (t : VirtualTerminal) (width : Nat) (grapheme : JsString) : Attempt VirtualTerminal :=
  if width = 0 then t.appendGrapheme grapheme
  else
    let cellWidth : CellWidth := if width > 1 then .two else .one
    (t.wrapFor cellWidth).placeCell grapheme cellWidth

/-! ## The cursor -/

/-- A value of a text, cut to the indexes below `size`. -/
def clampIndex (size : Nat) (value : Int) : Nat := (max 0 (min ((size : Int) - 1) value)).toNat

def saveCursor (t : VirtualTerminal) : VirtualTerminal :=
  { t with savedCursor := some (t.cursorRow, t.cursorColumn) }

def restoreCursor (t : VirtualTerminal) : VirtualTerminal :=
  match t.savedCursor with
  | none => t
  | some (row, column) => { t with cursorRow := row, cursorColumn := column }

def moveBy (t : VirtualTerminal) (lines : Int) : VirtualTerminal :=
  { t with cursorRow := clampIndex t.rows (t.cursorRow + lines) }

/-! ## Resizes -/

/-- One cell of the loop that mends a row whose cells have been copied. -/
def mendCell (row : List Cell) (column : Nat) : List Cell :=
  match row[column]? with
  | none => row
  | some cell =>
    let row :=
      if cell.continuation ∧ (column = 0 ∨ (row[column - 1]?).any (·.width ≠ .two)) then
        row.set column blankCell
      else row
    if cell.width = .two ∧ column + 1 ≥ row.length then row.set column blankCell else row

def mendRow (row : List Cell) : List Cell := (List.range row.length).foldl mendCell row

/-- A row in its new width. -/
def copyRow (columns : Nat) (row : List Cell) : List Cell :=
  row.take columns ++ blankRow (columns - (row.take columns).length)

/-- `resize`; `none` is a `RangeError`. -/
def resize (limits : VirtualTerminalLimits) (t : VirtualTerminal) (columns rows : Nat) :
    Option VirtualTerminal :=
  if isPositiveInteger columns limits.maxColumns && isPositiveInteger rows limits.maxRows then
    if columns = t.columns ∧ rows = t.rows then some t
    else
      let copied := (t.grid.take (min rows t.rows)).map fun row => copyRow columns (row.take t.columns)
      some (markAllDirty
        { t with
          columns, rows
          grid := (copied ++ blankRows (rows - t.rows) columns).map mendRow
          cursorRow := min t.cursorRow (rows - 1)
          cursorColumn := min t.cursorColumn (columns - 1)
          dimensionsChanged := true })
  else none

end VirtualTerminal

end PiDaemon.Terminal
