import PiDaemon.Terminal.Deltas

/-!
# The grid of a terminal

* `Gridded`: the grid has its size, the cursor is in it, every wide cell has its continuation,
  no call reads a cell outside the grid, and no row of a frame is wider than the grid;
* `grid_kept`: so in every run that restores no cursor from outside the grid, and writes no wide
  grapheme into a single column;
* `grid_broken`: runs that do otherwise.
-/

namespace PiDaemon.Terminal

open Lib List

/-! ## The columns of a frame -/

/-- The columns that the cells of a row are shown in. -/
def shownColumns (cells : List Cell) : Nat :=
  (cells.map fun cell => if cell.continuation then 0 else cell.width.columns).sum

namespace Projection

def total (p : Projection) : Nat := (p.runs.map VirtualTerminalRun.columns).sum + p.runColumns

theorem total_flush (p : Projection) : p.flush.total = p.total := by
  rw [flush]
  split
  · rfl
  split
  · rfl
  · simp [total]

theorem total_addCell (p : Projection) (cell : Cell) :
    (p.addCell cell).total = p.total + if cell.continuation then 0 else cell.width.columns := by
  rw [addCell]
  split
  · rfl
  have hflush := total_flush { p with plainText := p.plainText ++ cell.text }
  simp only [total] at hflush ⊢
  split
  · simp only
    omega
  · simp only
    omega

theorem total_foldl (cells : List Cell) (p : Projection) :
    (cells.foldl addCell p).total = p.total + shownColumns cells := by
  induction cells generalizing p with
  | nil => rfl
  | cons cell rest ih =>
    rw [foldl_cons, ih, total_addCell, shownColumns, shownColumns, map_cons, sum_cons]
    omega

end Projection

theorem shownColumns_append (a b : List Cell) : shownColumns (a ++ b) = shownColumns a + shownColumns b := by
  simp [shownColumns]

theorem shownColumns_shownCells (cells : List Cell) : shownColumns (shownCells cells) ≤ shownColumns cells := by
  obtain ⟨hidden, hcells⟩ : ∃ hidden, shownCells cells ++ hidden = cells := by
    refine ⟨(cells.reverse.takeWhile fun cell => !cell.isShown).reverse, ?_⟩
    rw [shownCells, ← reverse_append, takeWhile_append_dropWhile, reverse_reverse]
  calc shownColumns (shownCells cells)
      ≤ shownColumns (shownCells cells) + shownColumns hidden := Nat.le_add_right _ _
    _ = shownColumns cells := by rw [← shownColumns_append, hcells]

/-- A continuation makes room for the wide cell before it. -/
theorem shownColumns_led (cells : List Cell)
    (h : ∀ i cell, cells[i]? = some cell → cell.width = .two →
      ∃ next, cells[i + 1]? = some next ∧ next.continuation = true) :
    shownColumns cells + (if cells.head?.any Cell.continuation then 1 else 0) ≤ cells.length := by
  induction cells with
  | nil => simp [shownColumns]
  | cons cell rest ih =>
    have hrest := ih fun i found hi => h (i + 1) found (by simpa using hi)
    have hcons : shownColumns (cell :: rest) =
        (if cell.continuation then 0 else cell.width.columns) + shownColumns rest := rfl
    rw [hcons, List.head?_cons, Option.any_some, length_cons]
    cases hcontinuation : cell.continuation with
    | true =>
      simp only [if_true]
      split at hrest <;> omega
    | false =>
      cases hwidth : cell.width with
      | one =>
        simp only [CellWidth.columns, Bool.false_eq_true, if_false]
        split at hrest <;> omega
      | two =>
        obtain ⟨next, hnext, hc⟩ := h 0 cell rfl hwidth
        rw [if_pos] at hrest
        · simp only [CellWidth.columns, Bool.false_eq_true, if_false]
          omega
        rw [List.getElem?_cons_succ, ← List.head?_eq_getElem?] at hnext
        rw [hnext]
        exact hc

theorem projectRow_columns {cells : List Cell} (h : Paired cells) (r : Nat) :
    ((projectRow r cells).runs.map VirtualTerminalRun.columns).sum ≤ cells.length := by
  have htotal := Projection.total_foldl (shownCells cells) .start
  rw [← Projection.total_flush, Projection.total] at htotal
  have hled := shownColumns_led cells fun i cell hi => (h i cell hi).1
  have hshown := shownColumns_shownCells cells
  have hstart : Projection.start.total = 0 := rfl
  rw [projectRow]
  simp only
  omega

namespace VirtualTerminal

/-! ## The cursor -/

/-- The grid has its size, and the cursor is in it. -/
structure InGrid (t : VirtualTerminal) : Prop where
  shaped : Shaped t
  cursorRow : t.cursorRow < t.rows
  cursorColumn : t.cursorColumn ≤ t.columns

section
variable {keeps : Prop} {s t u : VirtualTerminal}

theorem InGrid.marks (h : InGrid s) (hmarks : Marks keeps s t) (hrow : t.cursorRow < s.rows)
    (hcolumn : t.cursorColumn ≤ s.columns) : InGrid t :=
  ⟨hmarks.shaped h.shaped, hmarks.rows ▸ hrow, hmarks.columns ▸ hcolumn⟩

/-- The cursor is where it was. -/
def SameCursor (s t : VirtualTerminal) : Prop :=
  t.cursorRow = s.cursorRow ∧ t.cursorColumn = s.cursorColumn

theorem SameCursor.trans (hst : SameCursor s t) (htu : SameCursor t u) : SameCursor s u :=
  ⟨htu.1.trans hst.1, htu.2.trans hst.2⟩

theorem InGrid.still (h : InGrid s) (hmarks : Marks keeps s t) (hcursor : SameCursor s t) : InGrid t :=
  h.marks hmarks (hcursor.1 ▸ h.cursorRow) (hcursor.2 ▸ h.cursorColumn)

theorem InGrid.moved (h : InGrid s) (hmoved : Moved s t) : InGrid t :=
  have hmarks : Marks True s t := Marks.of_screen hmoved.screen
  h.marks hmarks (hmoved.row h.cursorRow) (hmoved.column h.cursorColumn)

section
variable (t)

theorem markRow_cursor (row : Nat) : SameCursor t (t.markRow row) := by
  obtain ⟨_, heq, -⟩ := markRow_eq t row
  rw [heq]
  exact ⟨rfl, rfl⟩

theorem markRows_cursor (rows : List Nat) : SameCursor t (t.markRows rows) := by
  obtain ⟨_, heq, -⟩ := markRows_eq t rows
  rw [heq]
  exact ⟨rfl, rfl⟩

theorem scrollUp_cursor (count : Nat) : SameCursor t (t.scrollUp count) := by
  rw [scrollUp]
  split
  · exact ⟨rfl, rfl⟩
  · exact markRows_cursor _ _

theorem scrollDown_cursor (count : Nat) : SameCursor t (t.scrollDown count) := by
  rw [scrollDown]
  split
  · exact ⟨rfl, rfl⟩
  · exact markRows_cursor _ _

end

theorem InGrid.scrollUp (h : InGrid t) (count : Nat) : InGrid (t.scrollUp count) :=
  have hmarks : Marks True t (t.scrollUp count) := scrollUp_marks h.shaped count
  h.still hmarks (scrollUp_cursor t count)

theorem InGrid.scrollDown (h : InGrid t) (count : Nat) : InGrid (t.scrollDown count) :=
  have hmarks : Marks True t (t.scrollDown count) := scrollDown_marks h.shaped count
  h.still hmarks (scrollDown_cursor t count)

theorem InGrid.lineFeed (h : InGrid t) : InGrid t.lineFeed := by
  rw [VirtualTerminal.lineFeed]
  split
  · exact h.scrollUp 1
  · exact ⟨⟨h.shaped.columns_pos, h.shaped.rows_pos, h.shaped.length, h.shaped.width⟩,
      by simp only; omega, h.cursorColumn⟩

theorem InGrid.reverseIndex (h : InGrid t) : InGrid t.reverseIndex := by
  rw [VirtualTerminal.reverseIndex]
  split
  · exact h.scrollDown 1
  have hlt := h.cursorRow
  exact ⟨⟨h.shaped.columns_pos, h.shaped.rows_pos, h.shaped.length, h.shaped.width⟩,
    by simp only; omega, h.cursorColumn⟩

theorem InGrid.place (h : InGrid t) {row column : Nat} (hrow : row < t.rows)
    (hcolumn : column ≤ t.columns) : InGrid { t with cursorRow := row, cursorColumn := column } :=
  ⟨⟨h.shaped.columns_pos, h.shaped.rows_pos, h.shaped.length, h.shaped.width⟩, hrow, hcolumn⟩

/-! ## Calls -/

theorem RowEdit.cursor {r : Nat} (h : RowEdit keeps r s t) : SameCursor s t := by
  rw [h.eq_grid]
  exact ⟨rfl, rfl⟩

section
variable (h : InGrid t)
include h

theorem eraseLine_cursor (mode : Int) :
    Attempt.Returns (SameCursor t) (t.eraseLine mode) := by
  have hcolumn := clampedColumn_lt h.shaped
  have hcolumns : ∀ column ∈ List.range' (if mode = 1 ∨ mode = 2 then 0 else t.clampedColumn)
      ((if mode = 1 then t.clampedColumn else t.columns - 1) + 1 -
        if mode = 1 ∨ mode = 2 then 0 else t.clampedColumn), column < t.columns := by
    intro column hmem
    rw [mem_range'_1] at hmem
    split at hmem <;> split at hmem <;> omega
  apply (eraseCells_edit h.shaped h.cursorRow hcolumns).andThen
  intro u hedit
  exact Attempt.Returns.of (hedit.cursor.trans (markRow_cursor u _))

theorem eraseDisplay_cursor (mode : Int) :
    Attempt.Returns (SameCursor t) (t.eraseDisplay mode) := by
  have hcolumn := clampedColumn_lt h.shaped
  rw [eraseDisplay]
  split
  · exact Attempt.Returns.of ⟨rfl, rfl⟩
  split
  · exact Attempt.Returns.of (markRows_cursor _ _)
  split
  · have hcolumns : ∀ column ∈ List.range' t.clampedColumn (t.columns - t.clampedColumn),
        column < t.columns := by
      intro column hmem
      rw [mem_range'_1] at hmem
      omega
    apply (eraseCells_edit h.shaped h.cursorRow hcolumns).andThen
    intro u hedit
    exact Attempt.Returns.of (hedit.cursor.trans (markRows_cursor _ _))
  split
  · have hcolumns : ∀ column ∈ List.range' 0 (t.clampedColumn + 1), column < t.columns := by
      intro column hmem
      rw [mem_range'_1] at hmem
      omega
    apply (eraseCells_edit (blankAbove_shaped h.shaped h.cursorRow) h.cursorRow hcolumns).andThen
    intro u hedit
    exact Attempt.Returns.of (hedit.cursor.trans (markRows_cursor u _))
  · exact Attempt.Returns.of ⟨rfl, rfl⟩

/-- A call that keeps the cursor, and marks what it changes. -/
theorem InGrid.returns {x : Attempt VirtualTerminal}
    (hmarks : Attempt.Always (Marks True t) x) (hcursor : Attempt.Returns (SameCursor t) x) :
    Attempt.Returns InGrid x := by
  obtain ⟨_, rfl, hsame⟩ := hcursor
  exact Attempt.Returns.of (h.still hmarks hsame)

theorem eraseLine_inGrid (mode : Int) : Attempt.Returns InGrid (t.eraseLine mode) :=
  h.returns (eraseLine_marks h.shaped mode) (eraseLine_cursor h mode)

theorem eraseDisplay_inGrid (mode : Int) : Attempt.Returns InGrid (t.eraseDisplay mode) :=
  h.returns (eraseDisplay_marks h.shaped fun _ => h.cursorRow) (eraseDisplay_cursor h mode)

theorem clearScreen_inGrid : Attempt.Returns InGrid t.clearScreen := by
  apply (eraseDisplay_inGrid h 2).andThen
  intro u hu
  exact Attempt.Returns.of (hu.place hu.shaped.rows_pos (Nat.zero_le _))

theorem reset_inGrid : Attempt.Returns InGrid t.reset := by
  apply eraseDisplay_inGrid
  exact ⟨⟨h.shaped.columns_pos, h.shaped.rows_pos, h.shaped.length, h.shaped.width⟩,
    h.shaped.rows_pos, Nat.zero_le _⟩

theorem appendGrapheme_inGrid (grapheme : JsString) :
    Attempt.Returns InGrid (t.appendGrapheme grapheme) := by
  apply h.returns (appendGrapheme_marks h.shaped grapheme)
  obtain ⟨row, hrow, _⟩ := h.shaped.row h.cursorRow
  have hcolumns := h.shaped.columns_pos
  have hcell : row[min (t.columns - 1) (t.cursorColumn - 1)]? =
      some (row.getD (min (t.columns - 1) (t.cursorColumn - 1)) blankCell) :=
    getElem?_getD (by omega)
  rw [appendGrapheme]
  split
  · exact Attempt.Returns.of ⟨rfl, rfl⟩
  · simp only [hrow, hcell]
    exact Attempt.Returns.of (markRow_cursor _ _)

theorem InGrid.wrapFor (width : CellWidth) : InGrid (t.wrapFor width) := by
  rw [VirtualTerminal.wrapFor]
  split
  · exact (h.place h.cursorRow (Nat.zero_le _)).lineFeed
  · exact h

theorem placeCell_inGrid (hc : t.cursorColumn < t.columns) (grapheme : JsString)
    {width : CellWidth} (hfits : width = .two → t.cursorColumn + 1 < t.columns) :
    Attempt.Returns InGrid (t.placeCell grapheme width) := by
  have hmarks := placeCell_marks h.shaped hc grapheme width
  obtain ⟨u, hedit, heq⟩ := placeCell_edit h.shaped h.cursorRow hc grapheme width
  have hcursor := hedit.cursor.trans (markRow_cursor u t.cursorRow)
  rw [heq] at hmarks ⊢
  apply Attempt.Returns.of
  apply h.marks hmarks
  · have hrow := h.cursorRow
    rw [← hcursor.1] at hrow
    exact hrow
  · cases width with
    | one => exact hc
    | two => exact hfits rfl

/-- A wide grapheme needs two columns. -/
theorem writeGrapheme_inGrid {width : Nat} (hfits : width > 1 → 1 < t.columns)
    (grapheme : JsString) : Attempt.Returns InGrid (t.writeGrapheme width grapheme) := by
  rw [writeGrapheme]
  split
  · exact appendGrapheme_inGrid h grapheme
  obtain ⟨hwrap, hcolumn, hwide⟩ := wrapFor_marks True h.shaped (if width > 1 then .two else .one)
  rw [← hwrap.columns] at hcolumn hwide
  apply placeCell_inGrid (h.wrapFor _) hcolumn grapheme
  intro htwo
  apply hwide htwo
  rw [hwrap.columns]
  apply hfits
  by_contra hnarrow
  rw [if_neg hnarrow] at htwo
  cases htwo

theorem InGrid.consumeControl (character : UInt16) :
    InGrid (t.consumeControl character) := by
  have hcursor := h.cursorColumn
  rw [VirtualTerminal.consumeControl]
  split
  · exact h.place h.cursorRow (Nat.zero_le _)
  split
  · exact h.lineFeed
  split
  · exact h.place h.cursorRow (by omega)
  split
  · exact h.place h.cursorRow (by omega)
  · exact h.moved ⟨rfl, id, id⟩

theorem InGrid.consumeOsc (platform : TerminalPlatform) (payload : JsString) :
    InGrid (t.consumeOsc platform payload) := by
  have hmarks : Marks True t (t.consumeOsc platform payload) := consumeOsc_marks platform t payload
  apply h.still hmarks
  rw [VirtualTerminal.consumeOsc]
  generalize splitSemicolon payload = parts
  simp only
  split
  · exact ⟨rfl, rfl⟩
  split
  · split
    · exact ⟨rfl, rfl⟩
    · split <;> exact ⟨rfl, rfl⟩
  · exact ⟨rfl, rfl⟩

end

/-- The cursor that has been saved is in the grid. -/
def SavedWithin (t : VirtualTerminal) : Prop :=
  t.savedCursor.all (fun cursor => cursor.1 < t.rows && cursor.2 ≤ t.columns)

theorem InGrid.restoreCursor (h : InGrid t) (hsaved : SavedWithin t) : InGrid t.restoreCursor := by
  rw [VirtualTerminal.restoreCursor]
  split
  · exact h
  rename_i row column heq
  rw [SavedWithin, heq, Option.all_some, Bool.and_eq_true, decide_eq_true_eq, decide_eq_true_eq] at hsaved
  exact h.place hsaved.1 hsaved.2

theorem consumeCsi_inGrid (h : InGrid t) {parametersText : JsString} {final : UInt16}
    (hsaved : (csiMode parametersText final 0x75).isSome → SavedWithin t) :
    Attempt.Returns InGrid (t.consumeCsi parametersText final) := by
  have heffect := consumeCsi_effect h.shaped parametersText final
  generalize t.consumeCsi parametersText final = x at heffect
  cases heffect with
  | moved hmoved => exact Attempt.Returns.of (h.moved hmoved)
  | display => exact eraseDisplay_inGrid h _
  | line mode => exact eraseLine_inGrid h mode
  | restored hrestored => exact Attempt.Returns.of (h.restoreCursor (hsaved hrestored))
  | scrolledUp count => exact Attempt.Returns.of (h.scrollUp count)
  | scrolledDown count => exact Attempt.Returns.of (h.scrollDown count)

theorem consumeIntroducer_inGrid (h : InGrid t) {introducer : UInt16}
    (hsaved : introducer = 0x38 → SavedWithin t) :
    Attempt.Returns InGrid (t.consumeIntroducer introducer) := by
  rw [consumeIntroducer]
  split
  · exact Attempt.Returns.of (h.moved ⟨rfl, id, id⟩)
  split
  · rename_i hrestored
    exact Attempt.Returns.of (h.restoreCursor (hsaved hrestored))
  split
  · exact Attempt.Returns.of h.lineFeed
  split
  · exact Attempt.Returns.of (h.place h.cursorRow (Nat.zero_le _)).lineFeed
  split
  · exact Attempt.Returns.of h.reverseIndex
  split
  · exact reset_inGrid h
  · exact Attempt.Returns.of (h.moved ⟨rfl, id, id⟩)

/-- No cursor is restored from outside the grid. -/
def RestoresWithin (t : VirtualTerminal) : TerminalAction → Prop
  | .csi parameters final => (csiMode parameters final 0x75).isSome → SavedWithin t
  | .introducer character => character = 0x38 → SavedWithin t
  | _ => True

/-- No action reads a cell outside the grid. -/
theorem perform_inGrid {platform : TerminalPlatform} (h : InGrid t) {action : TerminalAction}
    (hrestores : RestoresWithin t action) (hfits : Fits platform t action) :
    Attempt.Returns InGrid (t.perform platform action) := by
  cases action with
  | grapheme segment => exact writeGrapheme_inGrid h hfits segment
  | control character => exact Attempt.Returns.of (h.consumeControl character)
  | csi => exact consumeCsi_inGrid h hrestores
  | osc payload => exact Attempt.Returns.of (h.consumeOsc platform payload)
  | kittyGraphics | deviceControl => exact Attempt.Returns.of (h.moved ⟨rfl, id, id⟩)
  | introducer => exact consumeIntroducer_inGrid h hrestores

end

end VirtualTerminal

/-! ## Runs -/

/-- The invariant of the grid. -/
structure GridInv (t : VirtualTerminal) : Prop where
  inGrid : t.InGrid
  paired : ∀ row ∈ t.grid, Paired row
  dirty : t.dimensionsChanged = false → ∀ r ∈ t.dirtyRows, r < t.rows

/-- Actions that keep the grid. -/
def ActsWithin (platform : TerminalPlatform) (t : VirtualTerminal) (action : TerminalAction) : Prop :=
  VirtualTerminal.RestoresWithin t action ∧ VirtualTerminal.Fits platform t action

/-- A write restores no cursor from outside the grid, and writes no wide grapheme into a single
column. -/
def KeepsGrid (platform : TerminalPlatform) (limits : VirtualTerminalLimits) (t : VirtualTerminal) :
    TerminalEvent → Prop
  | .write data => VirtualTerminal.WriteMeets platform limits (ActsWithin platform) t data
  | _ => True

/-- The call reads no row and no cell outside the grid. -/
def ReadsWithin (platform : TerminalPlatform) (limits : VirtualTerminalLimits) (t : VirtualTerminal) :
    TerminalEvent → Prop
  | .write data => byteLength data ≤ limits.maxWriteBytes →
    ∃ u, Attempt.each (VirtualTerminal.perform platform) (t.writeScan platform limits data).actions
      (t.beginWrite data) = .returned u
  | .clearLine => ∃ u, t.clearLine = .returned u
  | .clearFromCursor => ∃ u, t.clearFromCursor = .returned u
  | .clearScreen => ∃ u, t.clearScreen = .returned u
  | .takeFrame force => (t.frameOf (force || !t.published || t.dimensionsChanged)).isSome
  | _ => True

/-- No row of a frame is wider than the grid. -/
def FramesFit (limits : VirtualTerminalLimits) (t : VirtualTerminal) : Prop :=
  ∀ force frame u, t.takeFrame limits force = some (frame, u) →
    ∀ delta ∈ frame.changedRows, (delta.runs.map VirtualTerminalRun.columns).sum ≤ frame.columns

/-- The grid is in order, and so is what the next call does with it. -/
structure Gridded (platform : TerminalPlatform) (limits : VirtualTerminalLimits)
    (t : VirtualTerminal) : Prop where
  grid : GridInv t
  reads : ∀ event, KeepsGrid platform limits t event → ReadsWithin platform limits t event
  frames : FramesFit limits t

section
variable {platform : TerminalPlatform} {limits : VirtualTerminalLimits} {s t : VirtualTerminal}

theorem GridInv.marks (h : GridInv s) (hmarks : s.Marks True t) (hin : t.InGrid) : GridInv t := by
  refine ⟨hin, hmarks.paired trivial h.paired, fun hchanged r hr => ?_⟩
  rw [hmarks.dimensionsChanged] at hchanged
  rw [hmarks.rows]
  rcases hmarks.marked r hr with hold | hlt
  · exact h.dirty hchanged r hold
  · exact hlt

theorem GridInv.returns (h : GridInv t) {x : Attempt VirtualTerminal}
    (hmarks : Attempt.Always (t.Marks True) x) (hin : Attempt.Returns VirtualTerminal.InGrid x) :
    Attempt.Returns GridInv x := by
  obtain ⟨_, rfl, hu⟩ := hin
  exact Attempt.Returns.of (h.marks hmarks hu)

theorem GridInv.moved (h : GridInv s) (hmoved : s.Moved t) : GridInv t :=
  h.marks (VirtualTerminal.Marks.of_screen hmoved.screen) (h.inGrid.moved hmoved)

theorem perform_grid (h : GridInv t) {action : TerminalAction} (hok : ActsWithin platform t action) :
    Attempt.Returns GridInv (t.perform platform action) := by
  have hwithin : VirtualTerminal.ErasesWithin t action := by
    cases action with
    | csi => exact fun _ => h.inGrid.cursorRow
    | _ => trivial
  have hmarks : Attempt.Always _ (t.perform platform action) :=
    VirtualTerminal.perform_marks h.inGrid.shaped hwithin
  exact h.returns (hmarks.mono fun u hu => hu.mono fun _ => hok.2)
    (VirtualTerminal.perform_inGrid h.inGrid hok.1 hok.2)

/-- The actions of a write read no cell outside the grid. -/
theorem acts_grid {data : JsString} (h : GridInv t)
    (hok : VirtualTerminal.WriteMeets platform limits (ActsWithin platform) t data)
    (hsize : byteLength data ≤ limits.maxWriteBytes) :
    Attempt.Returns GridInv (Attempt.each (VirtualTerminal.perform platform)
      (t.writeScan platform limits data).actions (t.beginWrite data)) :=
  Attempt.Returns.each_of_meets (fun _ hu _ haction => perform_grid hu haction)
    (h.moved ⟨rfl, id, id⟩) (hok hsize)

theorem write_grid {data : JsString} (h : GridInv t)
    (hok : VirtualTerminal.WriteMeets platform limits (ActsWithin platform) t data) :
    Attempt.Always GridInv (t.write platform limits data) := by
  rw [VirtualTerminal.write]
  split
  · exact h
  rename_i hsize
  apply (acts_grid h hok (Nat.not_lt.mp hsize)).always.andThen
  intro u hu
  split
  · exact hu
  · exact hu.moved ⟨rfl, id, id⟩

theorem call_grid (h : GridInv t) {event : TerminalEvent} (hok : KeepsGrid platform limits t event) :
    Attempt.Always GridInv (t.call platform limits event) := by
  have hin := h.inGrid
  have hshaped := hin.shaped
  cases event with
  | write => exact write_grid h hok
  | resize columns rows =>
    rw [VirtualTerminal.call]
    cases hresize : t.resize limits columns rows with
    | none => exact h
    | some =>
      rcases VirtualTerminal.resize_cases hshaped hresize with rfl | hresized
      · exact h
      refine ⟨⟨hresized.shaped, hresized.cursorRow, Nat.le_of_lt hresized.cursorColumn⟩,
        hresized.paired h.paired, fun hchanged => ?_⟩
      rw [Attempt.state, hresized.dimensionsChanged] at hchanged
      cases hchanged
  | moveBy =>
    exact h.moved ⟨rfl, fun _ => VirtualTerminal.clampIndex_lt hshaped.rows_pos _, id⟩
  | hideCursor | showCursor | setTitle | setProgress => exact h.moved ⟨rfl, id, id⟩
  | clearLine =>
    exact (h.returns (VirtualTerminal.eraseLine_marks hshaped 0)
      (VirtualTerminal.eraseLine_inGrid hin 0)).always
  | clearFromCursor =>
    exact (h.returns (VirtualTerminal.eraseBelow_marks hshaped)
      (VirtualTerminal.eraseDisplay_inGrid hin 0)).always
  | clearScreen =>
    exact (h.returns (VirtualTerminal.clearScreen_marks hshaped)
      (VirtualTerminal.clearScreen_inGrid hin)).always
  | takeFrame force =>
    rw [VirtualTerminal.call]
    cases htake : t.takeFrame limits force with
    | none => exact h
    | some taken =>
      obtain ⟨_, _⟩ := taken
      obtain ⟨-, rfl⟩ := takeFrame_eq htake
      exact ⟨⟨⟨hshaped.columns_pos, hshaped.rows_pos, hshaped.length, hshaped.width⟩, hin.cursorRow,
        hin.cursorColumn⟩, h.paired, fun _ r hr => absurd hr not_mem_nil⟩

/-! ### Frames -/

theorem GridInv.frameRows (h : GridInv t) (force : Bool) :
    ∀ r ∈ (if force || !t.published || t.dimensionsChanged then List.range t.rows
      else t.dirtyRows.mergeSort), r < t.grid.length := by
  intro r hr
  rw [h.inGrid.shaped.length]
  split at hr
  · exact mem_range.mp hr
  rename_i hdelta
  rw [Bool.not_eq_true, Bool.or_eq_false_iff] at hdelta
  exact h.dirty hdelta.2 r (mem_mergeSort.mp hr)

theorem GridInv.framesFit (h : GridInv t) : FramesFit limits t := by
  intro force frame u htake delta hdelta
  obtain ⟨hframe, -⟩ := takeFrame_eq htake
  rw [VirtualTerminal.frameOf, VirtualTerminal.projectRows_eq (h.frameRows force), Option.map_some,
    Option.some.injEq] at hframe
  subst hframe
  obtain ⟨r, hr, rfl⟩ := mem_map.mp hdelta
  have hlt := h.frameRows force r hr
  have hmem : t.grid.getD r [] ∈ t.grid := by
    rw [getD_eq_getElem?_getD, List.getElem?_eq_getElem hlt]
    exact getElem_mem hlt
  rw [← h.inGrid.shaped.width _ hmem]
  exact projectRow_columns (h.paired _ hmem) r

theorem GridInv.readsWithin (h : GridInv t) {event : TerminalEvent}
    (hok : KeepsGrid platform limits t event) : ReadsWithin platform limits t event := by
  have hreturned : ∀ {x : Attempt VirtualTerminal} {P : VirtualTerminal → Prop},
      Attempt.Returns P x → ∃ u, x = .returned u := by
    rintro x P ⟨u, hu, -⟩
    exact ⟨u, hu⟩
  cases event with
  | write => exact fun hsize => hreturned (acts_grid h hok hsize)
  | clearLine => exact hreturned (VirtualTerminal.eraseLine_inGrid h.inGrid 0)
  | clearFromCursor => exact hreturned (VirtualTerminal.eraseDisplay_inGrid h.inGrid 0)
  | clearScreen => exact hreturned (VirtualTerminal.clearScreen_inGrid h.inGrid)
  | takeFrame force =>
    rw [ReadsWithin, VirtualTerminal.frameOf, VirtualTerminal.projectRows_eq (h.frameRows force)]
    rfl
  | _ => trivial

theorem grid_start {columns rows : Nat}
    (hconstruct : VirtualTerminal.construct limits columns rows = some t) : GridInv t := by
  obtain ⟨hshaped, hpaired, hrow, hcolumn, -, -, -, hdirty⟩ := VirtualTerminal.construct_eq hconstruct
  exact ⟨⟨hshaped, hrow ▸ hshaped.rows_pos, hcolumn ▸ Nat.zero_le _⟩, hpaired, fun _ => hdirty⟩

/-- **The grid is kept.**  In every run that restores no cursor from outside the grid, and writes no
wide grapheme into a single column, every state that is reached is in order. -/
theorem grid_kept {columns rows : Nat} {events : List TerminalEvent}
    (hconstruct : VirtualTerminal.construct limits columns rows = some s)
    (hok : Meets (terminalStep platform limits) (KeepsGrid platform limits) s events)
    (hrun : run (terminalStep platform limits) s events = some t) : Gridded platform limits t := by
  have hgrid : GridInv t := by
    refine run_invariant_of_meets (fun u event v hu hevent hstep => ?_) (grid_start hconstruct) hok hrun
    cases hstep
    exact call_grid hu hevent
  exact ⟨hgrid, fun _ hevent => hgrid.readsWithin hevent, hgrid.framesFit⟩

end

instance (t : VirtualTerminal) : Decidable t.SavedWithin :=
  inferInstanceAs (Decidable (_ = true))

instance (t : VirtualTerminal) :
    (action : TerminalAction) → Decidable (VirtualTerminal.RestoresWithin t action)
  | .csi parameters final =>
    inferInstanceAs (Decidable ((VirtualTerminal.csiMode parameters final 0x75).isSome → t.SavedWithin))
  | .introducer character => inferInstanceAs (Decidable (character = 0x38 → t.SavedWithin))
  | .grapheme _ => .isTrue trivial
  | .control _ => .isTrue trivial
  | .osc _ => .isTrue trivial
  | .kittyGraphics => .isTrue trivial
  | .deviceControl => .isTrue trivial

instance (platform : TerminalPlatform) (t : VirtualTerminal) :
    (action : TerminalAction) → Decidable (VirtualTerminal.Fits platform t action)
  | .grapheme segment =>
    inferInstanceAs (Decidable (platform.visibleWidth segment > 1 → 1 < t.columns))
  | .control _ => .isTrue trivial
  | .csi _ _ => .isTrue trivial
  | .osc _ => .isTrue trivial
  | .kittyGraphics => .isTrue trivial
  | .deviceControl => .isTrue trivial
  | .introducer _ => .isTrue trivial

instance (platform : TerminalPlatform) (t : VirtualTerminal) (action : TerminalAction) :
    Decidable (ActsWithin platform t action) :=
  inferInstanceAs (Decidable (_ ∧ _))

instance (platform : TerminalPlatform) (limits : VirtualTerminalLimits) (t : VirtualTerminal) :
    (event : TerminalEvent) → Decidable (KeepsGrid platform limits t event)
  | .write data =>
    inferInstanceAs (Decidable (VirtualTerminal.WriteMeets platform limits (ActsWithin platform) t data))
  | .resize _ _ => .isTrue trivial
  | .moveBy _ => .isTrue trivial
  | .hideCursor => .isTrue trivial
  | .showCursor => .isTrue trivial
  | .clearLine => .isTrue trivial
  | .clearFromCursor => .isTrue trivial
  | .clearScreen => .isTrue trivial
  | .setTitle _ => .isTrue trivial
  | .setProgress _ => .isTrue trivial
  | .takeFrame _ => .isTrue trivial

/-- Every unit from `0x1100` on is a grapheme of two columns. -/
def widePlatform : TerminalPlatform where
  segment value := value.map fun u => [u]
  visibleWidth value := if value.any (fun u => 0x1100 ≤ u.toNat) then 2 else 1
  safeProtocol _ := false

/-- Two wide graphemes around a resize that cuts the second one, and a cursor that is restored. -/
def wideEvents : List TerminalEvent :=
  [.write ([ESC] ++ text "7a" ++ [0x1100, 0x1100]), .resize 4 2, .write ([ESC] ++ text "8" ++ [0x1100]),
    .takeFrame false]

theorem grid_kept_wide :
    ∃ s t, VirtualTerminal.construct DEFAULT_VIRTUAL_TERMINAL_LIMITS 5 3 = some s ∧
      run (terminalStep widePlatform DEFAULT_VIRTUAL_TERMINAL_LIMITS) s wideEvents = some t ∧
      Gridded widePlatform DEFAULT_VIRTUAL_TERMINAL_LIMITS t := by
  obtain ⟨s, hconstruct, hkeeps, hsome⟩ :
      ∃ s, VirtualTerminal.construct DEFAULT_VIRTUAL_TERMINAL_LIMITS 5 3 = some s ∧
        Meets (terminalStep widePlatform DEFAULT_VIRTUAL_TERMINAL_LIMITS)
          (KeepsGrid widePlatform DEFAULT_VIRTUAL_TERMINAL_LIMITS) s wideEvents ∧
        (run (terminalStep widePlatform DEFAULT_VIRTUAL_TERMINAL_LIMITS) s wideEvents).isSome = true := by
    decide +kernel
  obtain ⟨t, ht⟩ := Option.isSome_iff_exists.mp hsome
  exact ⟨s, t, hconstruct, ht, grid_kept hconstruct hkeeps ht⟩

/-! ### Outside the grid -/

/-- A cursor that has been saved on the third of three lines is restored when there are two; and a
wide grapheme is written into a single column. -/
theorem grid_broken :
    (∃ s t, VirtualTerminal.construct DEFAULT_VIRTUAL_TERMINAL_LIMITS 4 3 = some s ∧
      run (terminalStep widePlatform DEFAULT_VIRTUAL_TERMINAL_LIMITS) s
        [.write (text "\n\n" ++ [ESC] ++ text "7"), .resize 4 2, .write ([ESC] ++ text "8")] = some t ∧
      ¬Gridded widePlatform DEFAULT_VIRTUAL_TERMINAL_LIMITS t) ∧
    ∃ s t, VirtualTerminal.construct DEFAULT_VIRTUAL_TERMINAL_LIMITS 1 1 = some s ∧
      run (terminalStep widePlatform DEFAULT_VIRTUAL_TERMINAL_LIMITS) s [.write [0x1100]] = some t ∧
      ¬Gridded widePlatform DEFAULT_VIRTUAL_TERMINAL_LIMITS t := by
  constructor
  · obtain ⟨s, hconstruct, t, ht, houtside⟩ :
        ∃ s, VirtualTerminal.construct DEFAULT_VIRTUAL_TERMINAL_LIMITS 4 3 = some s ∧
          ∃ t, run (terminalStep widePlatform DEFAULT_VIRTUAL_TERMINAL_LIMITS) s
            [.write (text "\n\n" ++ [ESC] ++ text "7"), .resize 4 2, .write ([ESC] ++ text "8")] =
              some t ∧ ¬t.cursorRow < t.rows := by
      decide +kernel
    exact ⟨s, t, hconstruct, ht, fun h => houtside h.grid.inGrid.cursorRow⟩
  · obtain ⟨s, hconstruct, t, ht, halone⟩ :
        ∃ s, VirtualTerminal.construct DEFAULT_VIRTUAL_TERMINAL_LIMITS 1 1 = some s ∧
          ∃ t, run (terminalStep widePlatform DEFAULT_VIRTUAL_TERMINAL_LIMITS) s [.write [0x1100]] =
            some t ∧ t.grid = [[⟨[0x1100], .two, false, .empty⟩]] := by
      decide +kernel
    refine ⟨s, t, hconstruct, ht, fun h => ?_⟩
    have hpaired := h.grid.paired [⟨[0x1100], .two, false, .empty⟩] (by simp [halone])
    obtain ⟨_, hnext, -⟩ := (hpaired 0 _ rfl).1 rfl
    cases hnext

end PiDaemon.Terminal
