import PiDaemon.Lib.Layers
import PiDaemon.Lib.Mirror
import PiDaemon.Shadow.Contract

/-!
# The frame store

`tuiFrameStoreReducer`: what a viewer holds of a terminal view, and what it makes of each event.
Every frame is checked before it is taken, and a frame that is refused leaves the viewer in
conflict.

Outside ASCII no letter is the upper case of one in a color, so that `toLowerCase` is the one of
ASCII here.  A sequence of 0 stands for what is not a positive safe integer.
-/

namespace PiDaemon.Viewing

open Lib Streams Terminal Shadow List OrderedMap

inductive TuiFrameStatus where
  | ready
  | replayGap
  | conflict
  deriving DecidableEq

inductive TuiFrameConflictKind where
  | identity
  | sequence
  | invalidFrame
  deriving DecidableEq

structure TuiFrameConflict where
  kind : TuiFrameConflictKind
  message : String
  expected : Option Nat
  received : Option Nat
  deriving DecidableEq

structure TuiFrameStoreState where
  identity : DashboardSessionIdentity
  role : DashboardControllerRole
  dimensions : TuiDimensions
  rows : List TuiRow
  cursor : TuiCursorState
  title : Option JsString
  highWaterCursor : JsString
  sequence : Nat
  revision : Nat
  status : TuiFrameStatus
  droppedDeltas : Nat
  replayGap : Option DashboardReplayGap
  conflict : Option TuiFrameConflict
  deriving DecidableEq

def MAX_ROWS : Nat := 200

def MAX_COLUMNS : Nat := 320

def MAX_DELTA_ROWS : Nat := 200

def MAX_FRAME_BYTES : Nat := 524288

def MAX_RUNS_PER_ROW : Nat := 320

def MAX_RUN_TEXT : Nat := 4096

def MAX_TITLE : Nat := 256

def unsafeText (u : UInt16) : Bool :=
  u.toNat ≤ 0x08 || u.toNat = 0x0b || u.toNat = 0x0c || (0x0e ≤ u.toNat && u.toNat ≤ 0x1f) ||
    (0x7f ≤ u.toNat && u.toNat ≤ 0x9f) || (0x202a ≤ u.toNat && u.toNat ≤ 0x202e) ||
    (0x2066 ≤ u.toNat && u.toNat ≤ 0x2069)

def isHexDigit (u : UInt16) : Bool :=
  (0x30 ≤ u.toNat && u.toNat ≤ 0x39) || (0x41 ≤ u.toNat && u.toNat ≤ 0x46) ||
    (0x61 ≤ u.toNat && u.toNat ≤ 0x66)

/-- `safeColor.test(color)` -/
def safeColor (color : JsString) : Bool :=
  color.length = 7 && color.head? = some 0x23 && color.tail.all isHexDigit

def toLowerCase (s : JsString) : JsString :=
  s.map fun u => if 0x41 ≤ u.toNat ∧ u.toNat ≤ 0x5a then u + 0x20 else u

/-! ## Checks -/

def checkedInteger (value minimum maximum : Nat) (label : String) : Except String Nat := do
  check (minimum ≤ value && value ≤ maximum)
    s!"{label} must be an integer between {minimum} and {maximum}"
  return value

def normalizeDimensions (dimensions : TuiDimensions) : Except String TuiDimensions := do
  let rows ← checkedInteger dimensions.rows 1 MAX_ROWS "TUI rows"
  let columns ← checkedInteger dimensions.columns 1 MAX_COLUMNS "TUI columns"
  return ⟨rows, columns⟩

def normalizeCursor (cursor : TuiCursorState) (dimensions : TuiDimensions) :
    Except String TuiCursorState := do
  let row ← checkedInteger cursor.row 0 (dimensions.rows - 1) "TUI cursor row"
  let column ← checkedInteger cursor.column 0 (dimensions.columns - 1) "TUI cursor column"
  return ⟨row, column, cursor.visible, cursor.shape⟩

def normalizeColor (color : Option JsString) : Option JsString :=
  (color.map toLowerCase).filter safeColor

def normalizeStyle (style : Option TuiStyle) : Option TuiStyle :=
  style.bind fun style =>
    let normalized := { style with
      foreground := normalizeColor style.foreground
      background := normalizeColor style.background }
    if normalized = .empty then none else some normalized

def styleKey : Option TuiStyle → JsString
  | none => []
  | some style => (stringify decimal style.json).getD []

/-- What is left of the text of a run. -/
def sanitizeText (text : JsString) : JsString :=
  (((text.filter fun u => u ≠ 0x0d).map fun u => if u = 0x0a then 0x20 else u).filter fun u =>
    !unsafeText u)

def normalizeRun (run : TuiStyledRun) : Except String TuiStyledRun := do
  check (run.text.length ≤ MAX_RUN_TEXT)
    s!"TUI run text must contain at most {MAX_RUN_TEXT} UTF-16 code units"
  return ⟨sanitizeText run.text, normalizeStyle run.style⟩

/-- The rest of the loop of `normalizeRow`, at a run that is normalized. -/
def pushRun (runs : List TuiStyledRun) (run : TuiStyledRun) : Except String (List TuiStyledRun) :=
  if run.text.length = 0 then .ok runs
  else
    match runs.getLast? with
    | none => .ok (runs ++ [run])
    | some previous =>
      if styleKey previous.style = styleKey run.style then do
        check ((previous.text ++ run.text).length ≤ MAX_RUN_TEXT)
          "coalesced TUI run exceeds the text bound"
        return runs.dropLast ++ [⟨previous.text ++ run.text, run.style⟩]
      else .ok (runs ++ [run])

/-- A turn of the loop of `normalizeRow`. -/
def addRun (runs : List TuiStyledRun) (raw : TuiStyledRun) : Except String (List TuiStyledRun) := do
  let run ← normalizeRun raw
  pushRun runs run

def normalizeRow (dimensions : TuiDimensions) (row : TuiRow) : Except String TuiRow := do
  let index ← checkedInteger row.row 0 (dimensions.rows - 1) "TUI row index"
  check (row.runs.length ≤ min MAX_RUNS_PER_ROW dimensions.columns)
    "TUI row contains too many styled runs"
  let runs ← row.runs.foldlM addRun []
  return ⟨index, runs⟩

/-- A turn of the loop of `normalizeRows`. -/
def addRow (dimensions : TuiDimensions) (rows : List TuiRow) (row : TuiRow) :
    Except String (List TuiRow) := do
  let next ← normalizeRow dimensions row
  check (next.row ∉ rows.map TuiRow.row) s!"TUI frame repeats row {next.row}"
  return rows ++ [next]

def sortRows (rows : List TuiRow) : List TuiRow :=
  rows.mergeSort fun first second => first.row ≤ second.row

def normalizeRows (rows : List TuiRow) (dimensions : TuiDimensions) (maximum : Nat) :
    Except String (List TuiRow) := do
  check (rows.length ≤ maximum) "TUI frame contains too many changed rows"
  let normalized ← rows.foldlM (addRow dimensions) []
  return sortRows normalized

/-- What is left of a title. -/
def sanitizeTitle (title : JsString) : JsString :=
  (title.filter fun u => !unsafeText u).map fun u => if u = 0x0d ∨ u = 0x0a then 0x20 else u

def normalizeTitle (title : Option JsString) : Except String (Option JsString) := do
  check ((title.map List.length).getD 0 ≤ MAX_TITLE) "TUI title exceeds its bound"
  return title.map sanitizeTitle

def assertFrameBytes (bytes : Nat) : Except String Unit :=
  check (bytes ≤ MAX_FRAME_BYTES) s!"TUI frame exceeds {MAX_FRAME_BYTES} bytes"

def normalizeSnapshot (snapshot : DashboardTuiSnapshot) : Except String DashboardTuiSnapshot := do
  assertFrameBytes snapshot.bytes
  let dimensions ← normalizeDimensions snapshot.dimensions
  let rows ← normalizeRows snapshot.rows dimensions MAX_ROWS
  let cursor ← normalizeCursor snapshot.cursor dimensions
  let title ← normalizeTitle snapshot.title
  return { snapshot with dimensions, rows, cursor, title }

/-- The checks of `applyDelta`. -/
def normalizeDelta (delta : DashboardTuiDelta) : Except String DashboardTuiDelta := do
  assertFrameBytes delta.bytes
  let dimensions ← normalizeDimensions delta.dimensions
  let changedRows ← normalizeRows delta.changedRows dimensions MAX_DELTA_ROWS
  let cursorState ← normalizeCursor delta.cursorState dimensions
  let title ← normalizeTitle delta.title
  return { delta with dimensions, changedRows, cursorState, title }

/-! ## The reducer -/

def createTuiFrameStore (snapshot : DashboardTuiSnapshot) (role : DashboardControllerRole) :
    Except String TuiFrameStoreState := do
  let normalized ← normalizeSnapshot snapshot
  return {
    identity := normalized.identity
    role
    dimensions := normalized.dimensions
    rows := normalized.rows
    cursor := normalized.cursor
    title := normalized.title
    highWaterCursor := normalized.highWaterCursor
    sequence := 0
    revision := 1
    status := .ready
    droppedDeltas := 0
    replayGap := none
    conflict := none }

def withConflict (state : TuiFrameStoreState) (conflict : TuiFrameConflict) : TuiFrameStoreState :=
  { state with
    status := .conflict
    conflict := some conflict
    droppedDeltas := state.droppedDeltas + 1 }

/-- The rows after a delta. -/
def mergeRows (state : TuiFrameStoreState) (dimensions : TuiDimensions) (changedRows : List TuiRow) :
    List TuiRow :=
  let kept := if dimensions = state.dimensions then state.rows else []
  let rowMap := (kept ++ changedRows).foldl (fun rowMap row => rowMap.set row.row row)
    (OrderedMap.empty : OrderedMap Nat TuiRow)
  sortRows (rowMap.values.filter fun row => row.row < dimensions.rows)

def applyDelta (state : TuiFrameStoreState) (delta : DashboardTuiDelta) : TuiFrameStoreState :=
  if state.identity ≠ delta.identity then
    withConflict state
      ⟨.identity, "TUI frame belongs to another host, session, or generation", none, none⟩
  else if delta.sequence < 1 then
    withConflict state ⟨.sequence, "TUI frame sequence is invalid", none, some delta.sequence⟩
  else if delta.sequence ≤ state.sequence then
    { state with droppedDeltas := state.droppedDeltas + 1 }
  else if state.sequence > 0 ∧ delta.sequence ≠ state.sequence + 1 then
    withConflict state ⟨.sequence, "TUI frame sequence has a gap; a fresh snapshot is required",
      some (state.sequence + 1), some delta.sequence⟩
  else
    match normalizeDelta delta with
    | .error message => withConflict state ⟨.invalidFrame, message, none, none⟩
    | .ok normalized =>
      { state with
        dimensions := normalized.dimensions
        rows := mergeRows state normalized.dimensions normalized.changedRows
        cursor := normalized.cursorState
        title := normalized.title.or state.title
        highWaterCursor := delta.cursor
        sequence := delta.sequence
        revision := state.revision + 1
        status := .ready
        replayGap := none
        conflict := none }

inductive TuiFrameStoreAction where
  | snapshot (snapshot : DashboardTuiSnapshot) (role : Option DashboardControllerRole)
  | event (event : DashboardTuiChannelEvent)

def tuiFrameStoreReducer (state : TuiFrameStoreState) : TuiFrameStoreAction → TuiFrameStoreState
  | .snapshot snapshot role =>
    match createTuiFrameStore snapshot (role.getD state.role) with
    | .error message => withConflict state ⟨.invalidFrame, message, none, none⟩
    | .ok next => { next with revision := state.revision + 1, droppedDeltas := state.droppedDeltas }
  | .event (.delta delta) => applyDelta state delta
  | .event (.replayGap gap) =>
    if state.identity ≠ gap.identity then
      withConflict state
        ⟨.identity, "Replay gap belongs to another session generation", none, none⟩
    else
      { state with
        status := .replayGap
        replayGap := some gap
        highWaterCursor := gap.highWaterCursor }
  | .event (.control event) =>
    if state.identity ≠ event.identity then
      withConflict state
        ⟨.identity, "Control event belongs to another session generation", none, none⟩
    else
      { state with role := if event.action = .controlGranted then .controller else .observer }

/-! ## Rows -/

/-- No row is listed twice. -/
def Distinct (rows : List TuiRow) : Prop := (rows.map TuiRow.row).Nodup

/-- What is listed for a row. -/
def lineOf (rows : List TuiRow) (r : Nat) : Option (List TuiStyledRun) :=
  (rows.find? fun row => row.row = r).map TuiRow.runs

variable {rows : List TuiRow}

theorem lineOf_eq_some (h : Distinct rows) {r : Nat} {runs : List TuiStyledRun} :
    lineOf rows r = some runs ↔ ⟨r, runs⟩ ∈ rows := by
  unfold Distinct at h
  unfold lineOf
  induction rows with
  | nil => simp
  | cons row rows ih =>
    rw [map_cons, nodup_cons] at h
    rw [List.find?_cons, mem_cons]
    obtain ⟨index, _⟩ := row
    by_cases hrow : index = r
    · subst hrow
      have hnone : (⟨index, runs⟩ : TuiRow) ∉ rows := fun hmem =>
        h.1 (mem_map.mpr ⟨_, hmem, rfl⟩)
      simp [hnone, eq_comm]
    · simp only [hrow, decide_false, ih h.2, TuiRow.mk.injEq, Ne.symm hrow, false_and, false_or]

theorem lineOf_eq_none {r : Nat} : lineOf rows r = none ↔ ∀ row ∈ rows, row.row ≠ r := by
  simp [lineOf, List.find?_eq_none]

theorem mem_sortRows {row : TuiRow} : row ∈ sortRows rows ↔ row ∈ rows :=
  mem_mergeSort

theorem distinct_sortRows (h : Distinct rows) : Distinct (sortRows rows) :=
  ((mergeSort_perm rows _).map TuiRow.row).nodup_iff.mpr h

theorem lineOf_sortRows (h : Distinct rows) (r : Nat) :
    lineOf (sortRows rows) r = lineOf rows r := by
  apply Option.ext
  intro runs
  rw [lineOf_eq_some (distinct_sortRows h), lineOf_eq_some h, mem_sortRows]

section
variable {state : TuiFrameStoreState} {dimensions : TuiDimensions} {changedRows : List TuiRow}

/-- The rows that a delta does not remove at once. -/
def keptRows (state : TuiFrameStoreState) (dimensions : TuiDimensions) : List TuiRow :=
  if dimensions = state.dimensions then state.rows else []

theorem distinct_keptRows (h : Distinct state.rows) : Distinct (keptRows state dimensions) := by
  unfold keptRows
  split
  · exact h
  · exact nodup_nil

theorem mem_mergeRows (hrows : Distinct state.rows) (hchanged : Distinct changedRows) {row : TuiRow} :
    row ∈ mergeRows state dimensions changedRows ↔
      row.row < dimensions.rows ∧ (row ∈ changedRows ∨
        row ∈ keptRows state dimensions ∧ row.row ∉ changedRows.map TuiRow.row) := by
  unfold mergeRows
  rw [mem_sortRows, mem_filter, mem_values, decide_eq_true_eq, and_comm]
  refine and_congr_right fun _ => ?_
  constructor
  · rintro ⟨k, hget⟩
    obtain ⟨rfl, hmem⟩ := (get?_foldl_set_append TuiRow.row (distinct_keptRows hrows)
      hchanged k row).mp hget
    exact hmem
  · intro hmem
    exact ⟨row.row, (get?_foldl_set_append TuiRow.row (distinct_keptRows hrows)
      hchanged row.row row).mpr ⟨rfl, hmem⟩⟩

theorem distinct_mergeRows (hrows : Distinct state.rows) (hchanged : Distinct changedRows) :
    Distinct (mergeRows state dimensions changedRows) := by
  refine distinct_sortRows ?_
  refine (filter_sublist.map TuiRow.row).nodup ?_
  exact nodup_map_values TuiRow.row fun k row hget =>
    ((get?_foldl_set_append TuiRow.row (distinct_keptRows hrows) hchanged k row).mp hget).1

/-- The rows as a layer. -/
def rowLayer (dimensions : TuiDimensions) (rows : List TuiRow) :
    Layer TuiDimensions Nat (List TuiStyledRun) :=
  ⟨dimensions, lineOf rows⟩

/-- A row of a screen of these dimensions. -/
def within (dimensions : TuiDimensions) (r : Nat) : Bool := r < dimensions.rows

theorem rowLayer_mergeRows (hrows : Distinct state.rows) (hchanged : Distinct changedRows) :
    rowLayer dimensions (mergeRows state dimensions changedRows) =
      Layer.cover within (rowLayer state.dimensions state.rows) (rowLayer dimensions changedRows) := by
  have hmerged : Distinct (mergeRows state dimensions changedRows) :=
    distinct_mergeRows hrows hchanged
  simp only [rowLayer, Layer.cover, Layer.mk.injEq, true_and]
  funext r
  apply Option.ext
  intro runs
  rw [lineOf_eq_some hmerged, mem_mergeRows hrows hchanged]
  by_cases hr : r < dimensions.rows
  · simp only [hr, within, decide_true, if_true, true_and]
    cases hline : lineOf changedRows r with
    | some other =>
      rw [lineOf_eq_some hchanged] at hline
      have hlisted : r ∈ changedRows.map TuiRow.row := mem_map.mpr ⟨_, hline, rfl⟩
      rw [← lineOf_eq_some hchanged, (lineOf_eq_some hchanged).mpr hline]
      simp [hlisted]
    | none =>
      have hnot := lineOf_eq_none.mp hline
      have hlisted : r ∉ changedRows.map TuiRow.row := fun hmem => by
        obtain ⟨row, hrow, heq⟩ := mem_map.mp hmem
        exact hnot row hrow heq
      have hmem : (⟨r, runs⟩ : TuiRow) ∉ changedRows := fun hmem => hnot _ hmem rfl
      simp only [hmem, hlisted, not_false_eq_true, and_true, false_or, Option.none_or]
      by_cases hsame : dimensions = state.dimensions
      · simp [keptRows, hsame, lineOf_eq_some hrows]
      · simp [keptRows, hsame]
  · simp [hr, within]

end

end PiDaemon.Viewing
