import PiDaemon.Terminal.Rows

/-!
# Marks

What a call does to the grid: the rows that it changes are marked, and every row keeps its
length.  Whether the pairs in the rows are kept may depend on the call.
-/

namespace PiDaemon.Terminal

open Lib List

namespace VirtualTerminal

/-- Everything but the rows that are marked is as it was. -/
structure Marks (keeps : Prop) (s t : VirtualTerminal) : Prop where
  columns : t.columns = s.columns
  rows : t.rows = s.rows
  frameSequence : t.frameSequence = s.frameSequence
  published : t.published = s.published
  dimensionsChanged : t.dimensionsChanged = s.dimensionsChanged
  length : t.grid.length = s.grid.length
  width : (∀ row ∈ s.grid, row.length = s.columns) → ∀ row ∈ t.grid, row.length = s.columns
  paired : keeps → (∀ row ∈ s.grid, Paired row) → ∀ row ∈ t.grid, Paired row
  unmarked : ∀ r, r ∉ t.dirtyRows → r ∉ s.dirtyRows ∧ t.grid[r]? = s.grid[r]?
  marked : ∀ r ∈ t.dirtyRows, r ∈ s.dirtyRows ∨ r < s.rows
  nodup : s.dirtyRows.Nodup → t.dirtyRows.Nodup

section
variable {keeps : Prop} {s t u : VirtualTerminal}

theorem Marks.shaped (h : Marks keeps s t) (hs : Shaped s) : Shaped t := by
  refine ⟨h.columns ▸ hs.columns_pos, h.rows ▸ hs.rows_pos, ?_, ?_⟩
  · rw [h.length, hs.length, h.rows]
  · rw [h.columns]
    exact h.width hs.width

theorem Marks.refl (keeps : Prop) (t : VirtualTerminal) : Marks keeps t t :=
  ⟨rfl, rfl, rfl, rfl, rfl, rfl, id, fun _ => id, fun _ hr => ⟨hr, rfl⟩, fun _ hr => Or.inl hr, id⟩

theorem Marks.trans (hst : Marks keeps s t) (htu : Marks keeps t u) : Marks keeps s u where
  columns := htu.columns.trans hst.columns
  rows := htu.rows.trans hst.rows
  frameSequence := htu.frameSequence.trans hst.frameSequence
  published := htu.published.trans hst.published
  dimensionsChanged := htu.dimensionsChanged.trans hst.dimensionsChanged
  length := htu.length.trans hst.length
  width := by
    intro hwidth
    have hmid := hst.width hwidth
    rw [← hst.columns] at hmid ⊢
    exact htu.width hmid
  paired := fun hk hpaired => htu.paired hk (hst.paired hk hpaired)
  unmarked := by
    intro r hr
    obtain ⟨hmid, heq⟩ := htu.unmarked r hr
    obtain ⟨hfirst, heq'⟩ := hst.unmarked r hmid
    exact ⟨hfirst, heq.trans heq'⟩
  marked := by
    intro r hr
    rcases htu.marked r hr with hmid | hlt
    · exact hst.marked r hmid
    · exact Or.inr (hst.rows ▸ hlt)
  nodup := fun hnodup => htu.nodup (hst.nodup hnodup)

theorem Marks.mono {keeps' : Prop} (himp : keeps' → keeps) (h : Marks keeps s t) :
    Marks keeps' s t :=
  { h with paired := fun hk => h.paired (himp hk) }

/-- What a viewer sees of a terminal, its cursor and texts apart. -/
def screen (t : VirtualTerminal) : (Nat × Nat × List (List Cell)) × List Nat × Nat × Bool × Bool :=
  ((t.columns, t.rows, t.grid), t.dirtyRows, t.frameSequence, t.published, t.dimensionsChanged)

theorem Marks.of_screen (h : t.screen = s.screen) : Marks keeps s t := by
  simp only [screen, Prod.mk.injEq] at h
  obtain ⟨⟨hcolumns, hrows, hgrid⟩, hdirty, hsequence, hpublished, hchanged⟩ := h
  refine ⟨hcolumns, hrows, hsequence, hpublished, hchanged, by rw [hgrid], ?_, ?_, ?_, ?_, ?_⟩
  · rw [hgrid]
    exact id
  · rw [hgrid]
    exact fun _ => id
  · intro r hr
    rw [hdirty] at hr
    exact ⟨hr, by rw [hgrid]⟩
  · intro r hr
    rw [hdirty] at hr
    exact Or.inl hr
  · rw [hdirty]
    exact id

/-! ## Marked rows -/

theorem markRow_eq (t : VirtualTerminal) (row : Nat) :
    ∃ dirty, t.markRow row = { t with dirtyRows := dirty } ∧
      ∀ r, r ∈ dirty ↔ r ∈ t.dirtyRows ∨ r = row := by
  rw [markRow]
  split
  · rename_i hmem
    refine ⟨t.dirtyRows, rfl, fun r => ⟨Or.inl, ?_⟩⟩
    rintro (hr | rfl)
    · exact hr
    · exact hmem
  · exact ⟨_, rfl, by simp⟩

theorem markRows_eq (t : VirtualTerminal) (rows : List Nat) :
    ∃ dirty, t.markRows rows = { t with dirtyRows := dirty } ∧
      ∀ r, r ∈ dirty ↔ r ∈ t.dirtyRows ∨ r ∈ rows := by
  induction rows generalizing t with
  | nil => exact ⟨t.dirtyRows, rfl, by simp⟩
  | cons row rest ih =>
    obtain ⟨_, hfirst, hmem⟩ := markRow_eq t row
    obtain ⟨dirty, hrest, hmem'⟩ := ih (t.markRow row)
    refine ⟨dirty, ?_, fun r => ?_⟩
    · rw [markRows, foldl_cons, ← markRows, hrest, hfirst]
    · rw [hmem', hfirst]
      simp only [hmem, mem_cons, or_assoc]

theorem nodup_markRow (h : t.dirtyRows.Nodup) (row : Nat) : (t.markRow row).dirtyRows.Nodup := by
  rw [markRow]
  split
  · exact h
  rename_i hnot
  rw [nodup_append]
  refine ⟨h, pairwise_singleton _ row, fun marked hmarked other hother heq => hnot ?_⟩
  rw [mem_singleton] at hother
  exact hother ▸ heq ▸ hmarked

theorem nodup_markRows (h : t.dirtyRows.Nodup) (rows : List Nat) :
    (t.markRows rows).dirtyRows.Nodup := by
  induction rows generalizing t with
  | nil => exact h
  | cons row rest ih => exact ih (nodup_markRow h row)

theorem Marks.redraw {grid : List (List Cell)} {rows : List Nat} (hlength : grid.length = s.grid.length)
    (hwidth : (∀ row ∈ s.grid, row.length = s.columns) → ∀ row ∈ grid, row.length = s.columns)
    (hpaired : keeps → (∀ row ∈ s.grid, Paired row) → ∀ row ∈ grid, Paired row)
    (hsame : ∀ r, r ∉ rows → grid[r]? = s.grid[r]?) (hrows : ∀ r ∈ rows, r < s.rows) :
    Marks keeps s (markRows { s with grid } rows) := by
  obtain ⟨_, heq, hmem⟩ := markRows_eq { s with grid } rows
  have hnodup : s.dirtyRows.Nodup → (markRows { s with grid } rows).dirtyRows.Nodup :=
    fun h => nodup_markRows (t := { s with grid }) h rows
  rw [heq] at hnodup ⊢
  refine ⟨rfl, rfl, rfl, rfl, rfl, hlength, hwidth, hpaired, fun r hr => ?_, fun r hr => ?_, hnodup⟩
  · rw [hmem] at hr
    exact ⟨fun hd => hr (Or.inl hd), hsame r fun hmem => hr (Or.inr hmem)⟩
  · exact ((hmem r).mp hr).imp_right (hrows r)

theorem Marks.redrawAll {grid : List (List Cell)} (hs : Shaped s) (hlength : grid.length = s.rows)
    (hrow : ∀ row ∈ grid, row ∈ s.grid ∨ row = blankRow s.columns) :
    Marks keeps s (markAllDirty { s with grid }) := by
  apply Marks.redraw (hlength.trans hs.length.symm)
  · intro hwidth row hmem
    rcases hrow row hmem with hmem | rfl
    · exact hwidth row hmem
    · exact length_replicate
  · intro _ hpaired row hmem
    rcases hrow row hmem with hmem | rfl
    · exact hpaired row hmem
    · exact paired_blankRow _
  · intro r hr
    rw [mem_range, Nat.not_lt] at hr
    rw [List.getElem?_eq_none (hlength ▸ hr), List.getElem?_eq_none (hs.length ▸ hr)]
  · intro r hr
    exact mem_range.mp hr

theorem RowEdit.grid {r : Nat} (h : RowEdit keeps r s t) :
    t.grid.length = s.grid.length ∧
      ((∀ row ∈ s.grid, row.length = s.columns) → ∀ row ∈ t.grid, row.length = s.columns) ∧
      (keeps → (∀ row ∈ s.grid, Paired row) → ∀ row ∈ t.grid, Paired row) ∧
      ∀ i, i ≠ r → t.grid[i]? = s.grid[i]? := by
  obtain ⟨row, _, hget, hlength, hkeeps, rfl⟩ := h
  have hmem := mem_of_getElem? hget
  refine ⟨length_set, fun hwidth other hother => ?_, fun hk hpaired other hother => ?_,
    fun i hne => List.getElem?_set_ne (Ne.symm hne)⟩
  · rcases mem_or_eq_of_mem_set hother with hother | rfl
    · exact hwidth other hother
    · exact hlength.trans (hwidth row hmem)
  · rcases mem_or_eq_of_mem_set hother with hother | rfl
    · exact hpaired other hother
    · exact hkeeps hk (hpaired row hmem)

theorem RowEdit.eq_grid {r : Nat} (h : RowEdit keeps r s t) : t = { s with grid := t.grid } := by
  obtain ⟨_, _, -, -, -, rfl⟩ := h
  rfl

/-- One row is changed, and marked. -/
theorem RowEdit.marks {r : Nat} (h : RowEdit keeps r s t) (hr : r < s.rows) :
    Marks keeps s (t.markRow r) := by
  obtain ⟨hlength, hwidth, hpaired, hsame⟩ := h.grid
  have hmarks : Marks keeps s (markRows { s with grid := t.grid } [r]) := by
    apply Marks.redraw hlength hwidth hpaired
    · intro i hi
      exact hsame i (by simpa using hi)
    · simpa using hr
  rw [h.eq_grid]
  exact hmarks

/-! ## Scrolls -/

theorem scrollUp_marks (h : Shaped t) (count : Nat) : Marks keeps t (t.scrollUp count) := by
  rw [scrollUp]
  split
  · exact Marks.refl _ t
  apply Marks.redrawAll h
  · have := h.length
    simp [blankRows]
    omega
  · intro row hrow
    rcases mem_append.mp hrow with hold | hblank
    · exact Or.inl (mem_of_mem_drop hold)
    · exact Or.inr (eq_of_mem_replicate hblank)

theorem scrollDown_marks (h : Shaped t) (count : Nat) : Marks keeps t (t.scrollDown count) := by
  rw [scrollDown]
  split
  · exact Marks.refl _ t
  apply Marks.redrawAll h
  · have := h.length
    simp [blankRows]
    omega
  · intro row hrow
    rcases mem_append.mp hrow with hblank | hold
    · exact Or.inr (eq_of_mem_replicate hblank)
    rcases mem_append.mp hold with hfirst | hlast
    · exact Or.inl (mem_of_mem_take hfirst)
    · exact Or.inl (mem_of_mem_drop hlast)

theorem lineFeed_marks (h : Shaped t) : Marks keeps t t.lineFeed := by
  rw [lineFeed]
  split
  · exact scrollUp_marks h 1
  · exact Marks.of_screen rfl

theorem reverseIndex_marks (h : Shaped t) : Marks keeps t t.reverseIndex := by
  rw [reverseIndex]
  split
  · exact scrollDown_marks h 1
  · exact Marks.of_screen rfl

/-! ## Erasure -/

theorem clampedColumn_lt (h : Shaped t) : t.clampedColumn < t.columns := by
  have := h.columns_pos
  rw [clampedColumn]
  omega

/-- A call that only changes the row of the cursor, and then marks it. -/
theorem eraseCells_marks (h : Shaped t) {columns : List Nat} (hne : columns ≠ [])
    (hcolumns : ∀ column ∈ columns, column < t.columns) :
    Attempt.Always (Marks keeps t)
      ((t.eraseCells columns).andThen fun t => .returned (t.markRow t.cursorRow)) := by
  by_cases hr : t.cursorRow < t.rows
  · obtain ⟨u, heq, hedit⟩ := eraseCells_edit h hr hcolumns
    have hrow : u.cursorRow = t.cursorRow := by rw [hedit.eq_grid]
    have hmarks := hedit.marks hr
    rw [heq]
    simp only [Attempt.andThen, hrow]
    exact hmarks.mono fun _ => trivial
  · rw [(eraseCells_outside (h.length ▸ Nat.not_lt.mp hr) columns).2 hne]
    exact Marks.refl _ t

theorem eraseLine_marks (h : Shaped t) (mode : Int) : Attempt.Always (Marks keeps t) (t.eraseLine mode) := by
  have hcolumn := clampedColumn_lt h
  apply eraseCells_marks h
  · intro hnil
    rw [range'_eq_nil_iff] at hnil
    split at hnil <;> split at hnil <;> omega
  · intro column hmem
    rw [mem_range'_1] at hmem
    split at hmem <;> split at hmem <;> omega

/-- The rows of the grid, or blank rows. -/
theorem redrawn_rows {grid kept : List (List Cell)} {columns : Nat} {P : List Cell → Prop}
    (hblank : P (blankRow columns)) (hgrid : ∀ row ∈ grid, row ∈ kept ∨ row = blankRow columns)
    (hkept : ∀ row ∈ kept, P row) : ∀ row ∈ grid, P row := by
  intro row hmem
  rcases hgrid row hmem with hold | rfl
  · exact hkept row hold
  · exact hblank

theorem eraseBelow_marks (h : Shaped t) :
    Attempt.Always (Marks keeps t) (t.eraseDisplay 0) := by
  have hcolumn := clampedColumn_lt h
  have hcolumns : ∀ column ∈ List.range' t.clampedColumn (t.columns - t.clampedColumn),
      column < t.columns := by
    intro column hmem
    rw [mem_range'_1] at hmem
    omega
  rw [eraseDisplay, if_neg (by decide)]
  by_cases hr : t.cursorRow < t.rows
  · obtain ⟨u, heq, hedit⟩ := eraseCells_edit h hr hcolumns
    obtain ⟨_, hwidth, hpaired, hsame⟩ := hedit.grid
    have hrows := h.length
    rw [heq, hedit.eq_grid]
    simp only [Attempt.andThen]
    have hkept : ∀ row ∈ u.grid.take (t.cursorRow + 1) ++
        (blankRows (t.rows - (t.cursorRow + 1)) t.columns ++
          u.grid.drop (t.cursorRow + 1 + (t.rows - (t.cursorRow + 1)))),
        row ∈ u.grid ∨ row = blankRow t.columns := by
      intro row hrow
      rcases mem_append.mp hrow with hfirst | hrest
      · exact Or.inl (mem_of_mem_take hfirst)
      rcases mem_append.mp hrest with hblank | hlast
      · exact Or.inr (eq_of_mem_replicate hblank)
      · exact Or.inl (mem_of_mem_drop hlast)
    apply Marks.redraw
    · simp [blankRows]
      omega
    · exact fun hw => redrawn_rows length_replicate hkept (hwidth hw)
    · exact fun _ hp => redrawn_rows (paired_blankRow _) hkept (hpaired trivial hp)
    · intro r hnot
      rw [mem_range'_1] at hnot
      by_cases hlt : r < t.cursorRow
      · rw [List.getElem?_append_left (by simp; omega), List.getElem?_take_of_lt (by omega)]
        exact hsame r (by omega)
      · rw [List.getElem?_eq_none (by simp [blankRows]; omega), List.getElem?_eq_none (by omega)]
    · intro r hmem
      rw [mem_range'_1] at hmem
      omega
  · have hne : List.range' t.clampedColumn (t.columns - t.clampedColumn) ≠ [] := by
      rw [ne_eq, range'_eq_nil_iff]
      omega
    rw [(eraseCells_outside (h.length ▸ Nat.not_lt.mp hr) _).2 hne]
    exact Marks.refl _ t

theorem blankAbove_rows (t : VirtualTerminal) :
    ∀ row ∈ blankRows t.cursorRow t.columns ++ t.grid.drop t.cursorRow,
      row ∈ t.grid ∨ row = blankRow t.columns := by
  intro row hrow
  rcases mem_append.mp hrow with hblank | hrest
  · exact Or.inr (eq_of_mem_replicate hblank)
  · exact Or.inl (mem_of_mem_drop hrest)

theorem blankAbove_shaped (h : Shaped t) (hr : t.cursorRow < t.rows) :
    Shaped { t with grid := blankRows t.cursorRow t.columns ++ t.grid.drop t.cursorRow } := by
  have hrows := h.length
  refine ⟨h.columns_pos, h.rows_pos, ?_, redrawn_rows length_replicate (blankAbove_rows t) h.width⟩
  simp [blankRows]
  omega

theorem eraseAbove_marks (h : Shaped t) (hr : t.cursorRow < t.rows) :
    Attempt.Always (Marks keeps t) (t.eraseDisplay 1) := by
  have hcolumn := clampedColumn_lt h
  have hrows := h.length
  rw [eraseDisplay]
  have hkept := blankAbove_rows t
  have hcolumns : ∀ column ∈ List.range' 0 (t.clampedColumn + 1), column < t.columns := by
    intro column hmem
    rw [mem_range'_1] at hmem
    omega
  obtain ⟨_, heq, hedit⟩ := eraseCells_edit (blankAbove_shaped h hr) hr hcolumns
  obtain ⟨hlength, hwidth, hpaired, hsame⟩ := hedit.grid
  rw [heq, hedit.eq_grid]
  simp only [Attempt.andThen]
  apply Marks.redraw
  · rw [hlength]
    simp [blankRows]
    omega
  · exact fun hw => hwidth (redrawn_rows length_replicate hkept hw)
  · exact fun _ hp => hpaired trivial (redrawn_rows (paired_blankRow _) hkept hp)
  · intro r hnot
    rw [mem_range'_1] at hnot
    rw [hsame r (by simp; omega)]
    rw [List.getElem?_append_right (by simp [blankRows]; omega), List.getElem?_drop]
    congr 1
    simp [blankRows]
    omega
  · intro r hmem
    rw [mem_range'_1] at hmem
    omega

theorem eraseAll_marks (h : Shaped t) : Marks keeps t (markAllDirty { t with grid := blankRows t.rows t.columns }) :=
  Marks.redrawAll h length_replicate fun _ hrow => Or.inr (eq_of_mem_replicate hrow)

/-- The rows up to the cursor are only erased while the cursor is within the grid. -/
theorem eraseDisplay_marks (h : Shaped t) {mode : Int} (hmode : mode = 1 → t.cursorRow < t.rows) :
    Attempt.Always (Marks keeps t) (t.eraseDisplay mode) := by
  by_cases hzero : mode = 0
  · rw [hzero]
    exact eraseBelow_marks h
  by_cases hone : mode = 1
  · rw [hone]
    exact eraseAbove_marks h (hmode hone)
  rw [eraseDisplay]
  split
  · exact Marks.refl _ t
  split
  · exact eraseAll_marks h
  · exact Marks.refl _ t

theorem reset_marks (h : Shaped t) : Attempt.Always (Marks keeps t) t.reset := by
  have hcleared : Marks keeps t
      { t with
        currentStyle := .empty
        savedCursor := none
        cursorRow := 0
        cursorColumn := 0
        cursorVisible := false } := Marks.of_screen rfl
  apply hcleared.trans
  apply eraseDisplay_marks (hcleared.shaped h)
  intro hmode
  cases hmode

theorem clearScreen_marks (h : Shaped t) : Attempt.Always (Marks keeps t) t.clearScreen := by
  have herased : Attempt.Always (Marks keeps t) (t.eraseDisplay 2) := by
    apply eraseDisplay_marks h
    intro hmode
    cases hmode
  exact herased.andThen fun u hu => hu.trans (Marks.of_screen rfl)

/-! ## Graphemes -/

theorem appendGrapheme_marks (h : Shaped t) (grapheme : JsString) :
    Attempt.Always (Marks keeps t) (t.appendGrapheme grapheme) := by
  rw [appendGrapheme]
  split
  · exact Marks.refl _ t
  simp only
  split
  · exact Marks.refl _ t
  rename_i cells hcells
  split
  · exact Marks.refl _ t
  have hr : t.cursorRow < t.rows := h.length ▸ (List.getElem?_eq_some_iff.mp hcells).1
  have hedit : ∀ lead, RowEdit keeps t.cursorRow t { t with
      grid := t.grid.set t.cursorRow
        (cells.modify lead fun cell => { cell with text := cell.text ++ grapheme }) } :=
    fun lead => ⟨cells, _, hcells, length_modify _ _ _,
      fun _ hpaired => hpaired.modify_text lead (· ++ grapheme), rfl⟩
  exact (hedit _).marks hr

theorem lineFeed_cursorColumn (t : VirtualTerminal) : t.lineFeed.cursorColumn = t.cursorColumn := by
  rw [lineFeed]
  split
  · rw [scrollUp]
    split
    · rfl
    obtain ⟨_, heq, -⟩ := markRows_eq { t with
      grid := t.grid.drop (min t.rows 1) ++ blankRows (min t.rows 1) t.columns } (List.range t.rows)
    rw [markAllDirty, heq]
  · rfl

/-- After a wrap the cell fits, if there is a column for it. -/
theorem wrapFor_marks (keeps : Prop) (h : Shaped t) (width : CellWidth) :
    Marks keeps t (t.wrapFor width) ∧ (t.wrapFor width).cursorColumn < t.columns ∧
      (width = .two → 1 < t.columns → (t.wrapFor width).cursorColumn + 1 < t.columns) := by
  have hpos := h.columns_pos
  rw [wrapFor]
  split
  · have hstart : Marks keeps t { t with cursorColumn := 0 } := Marks.of_screen rfl
    rw [lineFeed_cursorColumn]
    exact ⟨hstart.trans (lineFeed_marks (hstart.shaped h)), hpos, fun _ hwide => hwide⟩
  · rename_i hnot
    rw [not_or, not_and] at hnot
    refine ⟨Marks.refl _ t, by omega, fun hw _ => ?_⟩
    have := hnot.2 hw
    omega

theorem placeCell_marks (h : Shaped t) (hc : t.cursorColumn < t.columns) (grapheme : JsString)
    (width : CellWidth) :
    Attempt.Always (Marks (width = .two → t.cursorColumn + 1 < t.columns) t)
      (t.placeCell grapheme width) := by
  by_cases hr : t.cursorRow < t.rows
  · obtain ⟨_, hedit, heq⟩ := placeCell_edit h hr hc grapheme width
    have hmarks := hedit.marks hr
    rw [heq]
    exact hmarks.trans (Marks.of_screen rfl)
  · rw [placeCell, eraseCellForWrite_outside (h.length ▸ Nat.not_lt.mp hr)]
    exact Marks.refl _ t

/-- A wide grapheme is only kept in a pair where there are two columns. -/
theorem writeGrapheme_marks (h : Shaped t) (width : Nat) (grapheme : JsString) :
    Attempt.Always (Marks (width > 1 → 1 < t.columns) t) (t.writeGrapheme width grapheme) := by
  rw [writeGrapheme]
  split
  · exact appendGrapheme_marks h grapheme
  obtain ⟨hwrap, hcolumn, hfits⟩ := wrapFor_marks (width > 1 → 1 < t.columns) h
    (if width > 1 then .two else .one)
  have hcolumns := hwrap.columns
  have hplace := placeCell_marks (hwrap.shaped h) (hcolumns.symm ▸ hcolumn) grapheme
    (if width > 1 then .two else .one)
  apply hwrap.trans
  apply Marks.mono _ hplace
  intro hkeeps htwo
  rw [hcolumns]
  apply hfits htwo
  apply hkeeps
  by_contra hnarrow
  rw [if_neg hnarrow] at htwo
  cases htwo

/-! ## Control sequences -/

theorem consumeControl_marks (h : Shaped t) (character : UInt16) :
    Marks keeps t (t.consumeControl character) := by
  rw [consumeControl]
  split
  · exact Marks.of_screen rfl
  split
  · exact lineFeed_marks h
  split
  · exact Marks.of_screen rfl
  · split <;> exact Marks.of_screen rfl

theorem consumeOsc_marks (platform : TerminalPlatform) (t : VirtualTerminal) (payload : JsString) :
    Marks keeps t (t.consumeOsc platform payload) := by
  rw [consumeOsc]
  generalize splitSemicolon payload = parts
  simp only
  split
  · exact Marks.of_screen rfl
  split
  · split
    · exact Marks.of_screen rfl
    · split <;> exact Marks.of_screen rfl
  · exact Marks.of_screen rfl

theorem restoreCursor_marks (t : VirtualTerminal) : Marks keeps t t.restoreCursor := by
  rw [restoreCursor]
  split
  · exact Marks.refl _ t
  · exact Marks.of_screen rfl

/-- The parameters of a CSI sequence that has no prefix. -/
def csiParameters (parametersText : JsString) : List Int :=
  if parametersText = [] then [] else (parametersText.splitOn 0x3b).map parseFinite

/-- The first parameter of a CSI sequence of this final character, if it has no prefix. -/
def csiMode (parametersText : JsString) (final expected : UInt16) : Option Int :=
  if parametersText.head? ≠ some 0x3f ∧ final = expected then
    some ((csiParameters parametersText).getD 0 0)
  else none

/-- The cursor, the style or a counter has changed, and the cursor has not left the grid. -/
structure Moved (s t : VirtualTerminal) : Prop where
  screen : t.screen = s.screen
  row : s.cursorRow < s.rows → t.cursorRow < s.rows
  column : s.cursorColumn ≤ s.columns → t.cursorColumn ≤ s.columns

theorem clampIndex_lt {size : Nat} (hsize : 0 < size) (value : Int) : clampIndex size value < size := by
  rw [clampIndex]
  omega

/-- What a CSI sequence does. -/
inductive CsiEffect (t : VirtualTerminal) (parametersText : JsString) (final : UInt16) :
    Attempt VirtualTerminal → Prop
  | moved {u : VirtualTerminal} (h : Moved t u) : CsiEffect t parametersText final (.returned u)
  | display {mode : Int} (h : csiMode parametersText final 0x4a = some mode) :
    CsiEffect t parametersText final (t.eraseDisplay mode)
  | line (mode : Int) : CsiEffect t parametersText final (t.eraseLine mode)
  | restored (h : (csiMode parametersText final 0x75).isSome) :
    CsiEffect t parametersText final (.returned t.restoreCursor)
  | scrolledUp (count : Nat) : CsiEffect t parametersText final (.returned (t.scrollUp count))
  | scrolledDown (count : Nat) : CsiEffect t parametersText final (.returned (t.scrollDown count))

theorem CsiEffect.ite {parametersText : JsString} {final : UInt16} {p : Prop} [Decidable p]
    {x y : Attempt VirtualTerminal} (hx : p → CsiEffect t parametersText final x)
    (hy : ¬p → CsiEffect t parametersText final y) :
    CsiEffect t parametersText final (if p then x else y) := by
  split
  · exact hx ‹_›
  · exact hy ‹_›

theorem consumeCsi_effect (h : Shaped t) (parametersText : JsString) (final : UInt16) :
    CsiEffect t parametersText final (t.consumeCsi parametersText final) := by
  have hrows := h.rows_pos
  have hcolumns := h.columns_pos
  have hquiet : ∀ {u : VirtualTerminal}, u.screen = t.screen → u.cursorRow = t.cursorRow →
      u.cursorColumn = t.cursorColumn → CsiEffect t parametersText final (.returned u) :=
    fun hscreen hrow hcolumn => .moved ⟨hscreen, hrow ▸ id, hcolumn ▸ id⟩
  unfold consumeCsi
  extract_lets privatePrefix body parameters first distance
  have hfirst : privatePrefix ≠ true → first = (csiParameters parametersText).getD 0 0 := by
    intro hprivate
    have hbody : body = parametersText := if_neg hprivate
    simp only [first, parameters, hbody, csiParameters]
  have hprefix : privatePrefix ≠ true → parametersText.head? ≠ some 0x3f := by
    intro hprivate
    simpa only [privatePrefix, ne_eq, decide_eq_true_eq] using hprivate
  clear_value distance first parameters body privatePrefix
  by_cases hprivate : privatePrefix = true
  · rw [if_pos hprivate]
    split
    · split
      · exact hquiet rfl rfl rfl
      · split <;> exact hquiet rfl rfl rfl
    · exact hquiet rfl rfl rfl
  · have hhead := hprefix hprivate
    rw [if_neg hprivate, hfirst hprivate]
    -- The moves of the cursor.
    refine .ite (fun _ => .moved ⟨rfl, fun hr => ?_, id⟩) fun _ => ?_
    · exact Nat.lt_of_le_of_lt (Nat.sub_le _ _) hr
    refine .ite (fun _ => .moved ⟨rfl, fun hr => ?_, id⟩) fun _ => ?_
    · simp only
      omega
    refine .ite (fun _ => .moved ⟨rfl, id, fun hc => ?_⟩) fun _ => ?_
    · simp only
      omega
    refine .ite (fun _ => .moved ⟨rfl, id, fun hc => ?_⟩) fun _ => ?_
    · exact Nat.le_trans (Nat.sub_le _ _) hc
    refine .ite (fun _ => .moved ⟨rfl, fun hr => ?_, fun _ => Nat.zero_le _⟩) fun _ => ?_
    · simp only
      omega
    refine .ite (fun _ => .moved ⟨rfl, fun hr => ?_, fun _ => Nat.zero_le _⟩) fun _ => ?_
    · exact Nat.lt_of_le_of_lt (Nat.sub_le _ _) hr
    refine .ite (fun _ => .moved ⟨rfl, id, fun _ => Nat.le_of_lt (clampIndex_lt hcolumns _)⟩) fun _ => ?_
    refine .ite (fun _ => .moved ⟨rfl, fun _ => clampIndex_lt hrows _, id⟩) fun _ => ?_
    refine .ite (fun _ => .moved ⟨rfl, fun _ => clampIndex_lt hrows _,
      fun _ => Nat.le_of_lt (clampIndex_lt hcolumns _)⟩) fun _ => ?_
    refine .ite (fun hfinal => .display (if_pos ⟨hhead, hfinal⟩)) fun _ => ?_
    refine .ite (fun _ => .line _) fun _ => ?_
    refine .ite (fun _ => hquiet rfl rfl rfl) fun _ => ?_
    refine .ite (fun _ => hquiet rfl rfl rfl) fun _ => ?_
    refine .ite (fun hfinal => .restored (by rw [csiMode, if_pos ⟨hhead, hfinal⟩]; rfl)) fun _ => ?_
    refine .ite (fun _ => .scrolledUp _) fun _ => ?_
    exact .ite (fun _ => .scrolledDown _) fun _ => hquiet rfl rfl rfl

theorem consumeCsi_marks (h : Shaped t) {parametersText : JsString} {final : UInt16}
    (habove : csiMode parametersText final 0x4a = some 1 → t.cursorRow < t.rows) :
    Attempt.Always (Marks keeps t) (t.consumeCsi parametersText final) := by
  have heffect := consumeCsi_effect h parametersText final
  generalize t.consumeCsi parametersText final = x at heffect
  cases heffect with
  | moved hmoved => exact Marks.of_screen hmoved.screen
  | display hmode =>
    apply eraseDisplay_marks h
    rintro rfl
    exact habove hmode
  | line mode => exact eraseLine_marks h mode
  | restored => exact restoreCursor_marks t
  | scrolledUp count => exact scrollUp_marks h count
  | scrolledDown count => exact scrollDown_marks h count

theorem consumeIntroducer_marks (h : Shaped t) (introducer : UInt16) :
    Attempt.Always (Marks keeps t) (t.consumeIntroducer introducer) := by
  rw [consumeIntroducer]
  split
  · exact Marks.of_screen rfl
  split
  · exact restoreCursor_marks t
  split
  · exact lineFeed_marks h
  split
  · have hstart : Marks keeps t { t with cursorColumn := 0 } := Marks.of_screen rfl
    exact hstart.trans (lineFeed_marks (hstart.shaped h))
  split
  · exact reverseIndex_marks h
  split
  · exact reset_marks h
  · exact Marks.of_screen rfl

/-! ## Writes -/

/-- The rows up to the cursor are only erased while the cursor is within the grid. -/
def ErasesWithin (t : VirtualTerminal) : TerminalAction → Prop
  | .csi parameters final => csiMode parameters final 0x4a = some 1 → t.cursorRow < t.rows
  | _ => True

instance (t : VirtualTerminal) : (action : TerminalAction) → Decidable (ErasesWithin t action)
  | .csi parameters final =>
    inferInstanceAs (Decidable (csiMode parameters final 0x4a = some 1 → t.cursorRow < t.rows))
  | .grapheme _ => .isTrue trivial
  | .control _ => .isTrue trivial
  | .osc _ => .isTrue trivial
  | .kittyGraphics => .isTrue trivial
  | .deviceControl => .isTrue trivial
  | .introducer _ => .isTrue trivial

/-- There are two columns for a wide grapheme. -/
def Fits (platform : TerminalPlatform) (t : VirtualTerminal) : TerminalAction → Prop
  | .grapheme segment => platform.visibleWidth segment > 1 → 1 < t.columns
  | _ => True

theorem perform_marks {platform : TerminalPlatform} (h : Shaped t) {action : TerminalAction}
    (hwithin : ErasesWithin t action) :
    Attempt.Always (Marks (Fits platform t action) t) (t.perform platform action) := by
  cases action with
  | grapheme segment => exact writeGrapheme_marks h _ segment
  | control character => exact consumeControl_marks h character
  | csi parameters final => exact consumeCsi_marks h hwithin
  | osc payload => exact consumeOsc_marks platform t payload
  | kittyGraphics => exact Marks.of_screen rfl
  | deviceControl => exact Marks.of_screen rfl
  | introducer character => exact consumeIntroducer_marks h character

/-- The steps of a write. -/
def performStep (platform : TerminalPlatform) (t : VirtualTerminal) (action : TerminalAction) :
    Option VirtualTerminal :=
  (t.perform platform action).toOption

/-- A condition on the actions of a write that is not too large. -/
def WriteMeets (platform : TerminalPlatform) (limits : VirtualTerminalLimits)
    (ok : VirtualTerminal → TerminalAction → Prop) (t : VirtualTerminal) (data : JsString) : Prop :=
  byteLength data ≤ limits.maxWriteBytes →
    Meets (performStep platform) ok (t.beginWrite data) (t.writeScan platform limits data).actions

instance (platform : TerminalPlatform) (limits : VirtualTerminalLimits)
    (ok : VirtualTerminal → TerminalAction → Prop) [∀ t action, Decidable (ok t action)]
    (t : VirtualTerminal) (data : JsString) : Decidable (WriteMeets platform limits ok t data) :=
  inferInstanceAs (Decidable (byteLength data ≤ limits.maxWriteBytes →
    Meets (performStep platform) ok (t.beginWrite data) (t.writeScan platform limits data).actions))

variable {limits : VirtualTerminalLimits}

theorem write_marks {platform : TerminalPlatform} {ok : VirtualTerminal → TerminalAction → Prop} {data : JsString}
    (h : Shaped t) (hok : ∀ u action, ok u action → ErasesWithin u action ∧ (keeps → Fits platform u action))
    (hmeets : WriteMeets platform limits ok t data) :
    Attempt.Always (Marks keeps t) (t.write platform limits data) := by
  rw [write]
  split
  · exact Marks.refl _ t
  rename_i hsize
  have hstart : Marks keeps t (t.beginWrite data) := Marks.of_screen rfl
  have hactions := Attempt.Always.each_of_meets (P := Marks keeps t) (f := perform platform)
    (fun u hu action haction =>
      (perform_marks (hu.shaped h) (hok u action haction).1).mono fun v hv =>
        hu.trans (hv.mono (hok u action haction).2))
    hstart (hmeets (Nat.not_lt.mp hsize))
  apply hactions.andThen
  intro u hu
  split
  · exact hu
  · exact hu.trans (Marks.of_screen rfl)

/-! ## Sizes -/

/-- The grid has been copied to a grid of another size. -/
structure Resized (s t : VirtualTerminal) : Prop where
  shaped : Shaped t
  paired : (∀ row ∈ s.grid, Paired row) → ∀ row ∈ t.grid, Paired row
  frameSequence : t.frameSequence = s.frameSequence
  published : t.published = s.published
  dimensionsChanged : t.dimensionsChanged = true
  cursorRow : t.cursorRow < t.rows
  cursorColumn : t.cursorColumn < t.columns

theorem isPositiveInteger_pos {value maximum : Nat} (h : isPositiveInteger value maximum = true) :
    0 < value := by
  rw [isPositiveInteger, Bool.and_eq_true, decide_eq_true_eq] at h
  exact h.1

theorem resize_cases {columns rows : Nat} (h : Shaped t) (hresize : t.resize limits columns rows = some u) :
    u = t ∨ Resized t u := by
  obtain ⟨hsize, hresize⟩ := Option.ite_none_right_eq_some.mp hresize
  rw [Bool.and_eq_true] at hsize
  have hcolumns := isPositiveInteger_pos hsize.1
  have hrows := isPositiveInteger_pos hsize.2
  split at hresize
  · exact Or.inl (Option.some.inj hresize).symm
  right
  have heq := (Option.some.inj hresize).symm
  obtain ⟨_, hmark, -⟩ := markRows_eq
    { t with
      columns, rows
      grid := ((t.grid.take (min rows t.rows)).map
        (fun row => copyRow columns (row.take t.columns)) ++
          blankRows (rows - t.rows) columns).map mendRow
      cursorRow := min t.cursorRow (rows - 1)
      cursorColumn := min t.cursorColumn (columns - 1)
      dimensionsChanged := true } (List.range rows)
  rw [markAllDirty, hmark] at heq
  subst heq
  have hlength := h.length
  have hkept : ∀ row ∈ (t.grid.take (min rows t.rows)).map
      (fun row => copyRow columns (row.take t.columns)) ++ blankRows (rows - t.rows) columns,
      (∃ old ∈ t.grid, row = copyRow columns old) ∨ row = blankRow columns := by
    intro row hrow
    rcases mem_append.mp hrow with hcopied | hblank
    · obtain ⟨old, hold, rfl⟩ := mem_map.mp hcopied
      have hmem := mem_of_mem_take hold
      refine Or.inl ⟨old, hmem, ?_⟩
      rw [take_of_length_le (Nat.le_of_eq (h.width old hmem))]
    · exact Or.inr (eq_of_mem_replicate hblank)
  refine ⟨⟨hcolumns, hrows, ?_, ?_⟩, ?_, rfl, rfl, rfl, by simp only; omega, by simp only; omega⟩
  · simp [blankRows]
    omega
  · intro row hrow
    obtain ⟨old, hold, rfl⟩ := mem_map.mp hrow
    rw [length_mendRow]
    rcases hkept old hold with ⟨kept, -, rfl⟩ | rfl
    · exact length_copyRow columns kept
    · exact length_replicate
  · intro hpaired row hrow
    obtain ⟨old, hold, rfl⟩ := mem_map.mp hrow
    apply paired_mendRow
    rcases hkept old hold with ⟨kept, hkept, rfl⟩ | rfl
    · exact cut_copyRow (hpaired kept hkept) columns
    intro i cell hi
    have hblank := paired_blankRow columns i cell hi
    exact ⟨fun hw => Or.inr (hblank.1 hw), hblank.2⟩

/-- A new terminal is blank. -/
theorem construct_eq {columns rows : Nat} (hconstruct : construct limits columns rows = some t) :
    Shaped t ∧ (∀ row ∈ t.grid, Paired row) ∧ t.cursorRow = 0 ∧ t.cursorColumn = 0 ∧
      t.frameSequence = 0 ∧ t.published = false ∧ t.dimensionsChanged = false ∧
      ∀ r ∈ t.dirtyRows, r < t.rows := by
  obtain ⟨hsize, hconstruct⟩ := Option.ite_none_right_eq_some.mp hconstruct
  rw [Bool.and_eq_true] at hsize
  rw [markAllDirty, Option.some.injEq] at hconstruct
  obtain ⟨_, hmark, hmem⟩ := markRows_eq
    { columns, rows
      grid := blankRows rows columns
      cursorRow := 0
      cursorColumn := 0
      cursorVisible := false
      savedCursor := none
      currentStyle := .empty
      pendingEscape := []
      dirtyRows := []
      frameSequence := 0
      published := false
      dimensionsChanged := false
      title := []
      progress := false
      writeCount := 0
      acceptedByteCount := 0
      strippedCounts := ⟨0, 0, 0, 0, 0, 0⟩ } (List.range rows)
  rw [hmark] at hconstruct
  subst hconstruct
  have hblank : ∀ row ∈ blankRows rows columns, row = blankRow columns :=
    fun row hrow => eq_of_mem_replicate hrow
  refine ⟨⟨isPositiveInteger_pos hsize.1, isPositiveInteger_pos hsize.2, length_replicate, ?_⟩,
    ?_, rfl, rfl, rfl, rfl, rfl, ?_⟩
  · intro row hrow
    rw [hblank row hrow]
    exact length_replicate
  · intro row hrow
    rw [hblank row hrow]
    exact paired_blankRow columns
  · intro r hr
    rcases (hmem r).mp hr with hnil | hrange
    · cases hnil
    · exact mem_range.mp hrange

end

end VirtualTerminal

end PiDaemon.Terminal
