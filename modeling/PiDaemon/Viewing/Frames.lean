import PiDaemon.Viewing.Hub
import PiDaemon.Viewing.Rows

/-!
# The frames of a terminal

A frame of a terminal is within the bounds of a viewer but for two things: the length of its title,
and the texts of its runs, since a grapheme without columns makes the text of a cell longer.

* `length_runs_projectRow`: a row has no more runs than cells;
* `frame_fits`: so a viewer takes every frame whose title and texts are within its bounds.
-/

namespace PiDaemon.Viewing

open Lib Streams Terminal Shadow List

/-! ## Runs -/

/-- The runs that there are, and the one that is open. -/
def runCount (p : Projection) : Nat := p.runs.length + if p.runColumns = 0 then 0 else 1

theorem runCount_flush (p : Projection) : runCount p.flush ≤ runCount p := by
  unfold Projection.flush
  split
  · exact le_rfl
  split
  · exact le_rfl
  · rename_i hopen
    simp [runCount, hopen]

theorem length_runs_flush (p : Projection) : p.flush.runs.length ≤ runCount p := by
  have hcount := runCount_flush p
  unfold runCount at hcount ⊢
  omega

theorem runCount_addCell (p : Projection) (cell : Cell) : runCount (p.addCell cell) ≤ runCount p + 1 := by
  unfold Projection.addCell
  split
  · exact Nat.le_succ _
  have hlength := length_runs_flush { p with plainText := p.plainText ++ cell.text }
  have hsame : runCount { p with plainText := p.plainText ++ cell.text } = runCount p := rfl
  simp only
  split
  · simp only [runCount]
    split <;> omega
  · simp only [runCount] at hlength ⊢
    split <;> omega

theorem runCount_foldl (cells : List Cell) (p : Projection) :
    runCount (cells.foldl Projection.addCell p) ≤ runCount p + cells.length := by
  induction cells generalizing p with
  | nil => exact le_rfl
  | cons cell cells ih =>
    have hcell := runCount_addCell p cell
    have hrest := ih (p.addCell cell)
    rw [foldl_cons, length_cons]
    omega

theorem length_shownCells_le (cells : List Cell) : (shownCells cells).length ≤ cells.length := by
  rw [shownCells, length_reverse]
  have hsuffix := (dropWhile_suffix fun cell : Cell => !cell.isShown : _ <:+ cells.reverse)
  exact hsuffix.length_le.trans_eq length_reverse

/-- A row has no more runs than cells. -/
theorem length_runs_projectRow (row : Nat) (cells : List Cell) :
    (projectRow row cells).runs.length ≤ cells.length := by
  have hcount := runCount_foldl (shownCells cells) .start
  have hstart : runCount .start = 0 := rfl
  have hshown := length_shownCells_le cells
  exact (length_runs_flush _).trans (by omega)

/-! ## Rows -/

/-- The rows of the next frame. -/
def publishedRows (t : VirtualTerminal) (force : Bool) : List Nat :=
  if force || !t.published || t.dimensionsChanged then List.range t.rows else t.dirtyRows.mergeSort

section
variable {limits : VirtualTerminalLimits} {t u : VirtualTerminal} {force : Bool}
  {frame : VirtualTerminalFrame}

theorem projectRows_lt {rows : List Nat} {deltas : List VirtualTerminalRowDelta}
    (h : t.projectRows rows = some deltas) : ∀ r ∈ rows, r < t.grid.length := by
  unfold VirtualTerminal.projectRows at h
  induction rows generalizing deltas with
  | nil => exact fun r hr => absurd hr not_mem_nil
  | cons row rows ih =>
    rw [mapM_cons] at h
    obtain ⟨_, hfirst, h⟩ := Option.bind_eq_some_iff.mp h
    obtain ⟨_, hrest, _⟩ := Option.bind_eq_some_iff.mp h
    obtain ⟨_, hcells, _⟩ := Option.map_eq_some_iff.mp hfirst
    intro r hr
    rcases mem_cons.mp hr with rfl | hr
    · exact (List.getElem?_eq_some_iff.mp hcells).1
    · exact ih hrest r hr

/-- What a frame has of its terminal. -/
structure Frames (t : VirtualTerminal) (force : Bool) (frame : VirtualTerminalFrame) : Prop where
  columns : frame.columns = t.columns
  rows : frame.rows = t.rows
  cursor : frame.cursor = t.frameCursor
  title : frame.title = t.title
  changedRows : frame.changedRows = (publishedRows t force).map t.projectedRow
  within : ∀ r ∈ publishedRows t force, r < t.grid.length

theorem takeFrame_frames (htake : t.takeFrame limits force = some (frame, u)) : Frames t force frame := by
  obtain ⟨hframe, _⟩ := takeFrame_eq htake
  obtain ⟨changed, hchanged, rfl⟩ := Option.map_eq_some_iff.mp hframe
  have hwithin : ∀ r ∈ publishedRows t force, r < t.grid.length := projectRows_lt hchanged
  have heq : t.projectRows (publishedRows t force) = some changed := hchanged
  rw [VirtualTerminal.projectRows_eq hwithin] at heq
  exact ⟨rfl, rfl, rfl, rfl, (Option.some.inj heq).symm, hwithin⟩

/-- The title and the texts of the next frame are within the bounds of a viewer. -/
structure Presentable (t : VirtualTerminal) (force : Bool) : Prop where
  title : t.title.length ≤ MAX_TITLE
  rows : ∀ r ∈ publishedRows t force, RunsFit ((t.projectedRow r).runs.map runFromVirtual)

/-- What holds of the terminal of a hub. -/
structure Sized (t : VirtualTerminal) : Prop where
  shaped : t.Shaped
  columns : t.columns ≤ DEFAULT_VIRTUAL_TERMINAL_LIMITS.maxColumns
  rows : t.rows ≤ DEFAULT_VIRTUAL_TERMINAL_LIMITS.maxRows
  nodup : t.dirtyRows.Nodup

theorem nodup_publishedRows (h : t.dirtyRows.Nodup) : (publishedRows t force).Nodup := by
  unfold publishedRows
  split
  · exact nodup_range
  · exact (mergeSort_perm _ _).nodup_iff.mpr h

theorem rowsFromFrame_eq (h : Frames t force frame) :
    rowsFromFrame frame = (publishedRows t force).map fun r => rowFromVirtual (t.projectedRow r) := by
  rw [rowsFromFrame, h.changedRows, map_map]
  rfl

/-- A viewer takes every frame whose title and texts are within its bounds. -/
theorem frame_fits (hsized : Sized t) (hframes : Frames t force frame)
    (hpresentable : Presentable t force) {bytes : Nat} (hbytes : bytes ≤ MAX_FRAME_BYTES) :
    FrameFits bytes (frameDimensions frame) (rowsFromFrame frame) (frameCursorState frame)
      (frameTitle frame) := by
  have hrows := hsized.shaped.rows_pos
  have hcolumns := hsized.shaped.columns_pos
  have hmaxColumns := hsized.columns
  have hdimensions : frameDimensions frame = ⟨t.rows, t.columns⟩ := by
    rw [frameDimensions, hframes.rows, hframes.columns]
  rw [hdimensions]
  refine ⟨hbytes, hrows, hsized.rows, hcolumns, hmaxColumns, ?_, ?_, ?_, ?_, ?_⟩
  · rw [rowsFromFrame_eq hframes]
    intro row hrow
    obtain ⟨r, hr, rfl⟩ := mem_map.mp hrow
    have hlt := hframes.within r hr
    refine ⟨?_, ?_, hpresentable.rows r hr⟩
    · exact hsized.shaped.length ▸ hlt
    have hwidth := hsized.shaped.width _ (getElem_mem hlt)
    have hruns := length_runs_projectRow r (t.grid.getD r [])
    have hcells : (t.grid.getD r []).length = t.columns := by
      rw [getD_eq_getElem?_getD, List.getElem?_eq_getElem hlt, Option.getD_some, hwidth]
    rw [hcells] at hruns
    rw [rowFromVirtual, length_map]
    exact le_min (hruns.trans hmaxColumns) hruns
  · rw [rowsFromFrame_eq hframes, Distinct, map_map]
    have hid : (publishedRows t force).map
        (TuiRow.row ∘ fun r => rowFromVirtual (t.projectedRow r)) = publishedRows t force :=
      map_id' _
    rw [hid]
    exact nodup_publishedRows hsized.nodup
  · rw [frameCursorState, hframes.cursor]
    simp only [VirtualTerminal.frameCursor]
    omega
  · rw [frameCursorState, hframes.cursor]
    simp only [VirtualTerminal.frameCursor]
    omega
  · intro value hvalue
    rw [frameTitle, hframes.title] at hvalue
    split at hvalue
    · cases hvalue
    · cases hvalue
      exact hpresentable.title

end

end PiDaemon.Viewing
