import PiDaemon.Terminal.Frames

/-!
# Rows of cells

What the loops of the terminal do to one row.

* `Paired`: each cell of width 2 stands before a continuation cell, and nothing else does;
* `RowEdit`: a call has changed one row, and has left the pairs of the row in order.
-/

namespace PiDaemon.Terminal

open Lib List

/-! ## Pairs -/

/-- Every wide cell has its continuation, and every continuation its wide cell. -/
def Paired (row : List Cell) : Prop :=
  ∀ i cell, row[i]? = some cell →
    (cell.width = .two → ∃ next, row[i + 1]? = some next ∧ next.continuation = true) ∧
    (cell.continuation = true →
      cell.width = .one ∧ ∃ j before, i = j + 1 ∧ row[j]? = some before ∧ before.width = .two)

/-- A cell that is no part of a pair. -/
def Cell.Single (cell : Cell) : Prop := cell.width = .one ∧ cell.continuation = false

theorem single_blankCell : blankCell.Single := ⟨rfl, rfl⟩

theorem paired_blankRow (columns : Nat) : Paired (blankRow columns) := by
  intro i cell hi
  obtain rfl := eq_of_mem_replicate (mem_of_getElem? hi)
  exact ⟨by rintro ⟨⟩, by rintro ⟨⟩⟩

theorem Paired.set_single {row : List Cell} (h : Paired row) {column : Nat} {old new : Cell}
    (hget : row[column]? = some old) (hold : old.Single) (hnew : new.Single) :
    Paired (row.set column new) := by
  intro i cell hi
  rw [List.getElem?_set] at hi
  split at hi
  · split at hi
    · cases hi
      exact ⟨fun hwide => (by rw [hnew.1] at hwide; cases hwide),
        fun hcont => (by rw [hnew.2] at hcont; cases hcont)⟩
    · cases hi
  · obtain ⟨hwide, hcont⟩ := h i cell hi
    constructor
    · intro hw
      obtain ⟨next, hnext, hc⟩ := hwide hw
      refine ⟨next, ?_, hc⟩
      rw [List.getElem?_set_ne, hnext]
      rintro rfl
      rw [hget] at hnext
      cases hnext
      rw [hold.2] at hc
      cases hc
    · intro hc
      obtain ⟨hone, j, before, rfl, hbefore, hb⟩ := hcont hc
      refine ⟨hone, j, before, rfl, ?_, hb⟩
      rw [List.getElem?_set_ne, hbefore]
      rintro rfl
      rw [hget] at hbefore
      cases hbefore
      rw [hold.1] at hb
      cases hb

theorem Paired.set_pair {row : List Cell} (h : Paired row) {column : Nat} {a b lead next : Cell}
    (ha : row[column]? = some a) (hb : row[column + 1]? = some b) (hsa : a.Single) (hsb : b.Single)
    (hlead : lead.width = .two ∧ lead.continuation = false)
    (hnext : next.width = .one ∧ next.continuation = true) :
    Paired ((row.set column lead).set (column + 1) next) := by
  have hlt : column + 1 < row.length := (List.getElem?_eq_some_iff.mp hb).1
  have hfirst : ((row.set column lead).set (column + 1) next)[column]? = some lead := by
    rw [List.getElem?_set_ne (by omega), List.getElem?_set_self (by omega)]
  have hsecond : ((row.set column lead).set (column + 1) next)[column + 1]? = some next := by
    rw [List.getElem?_set_self (by simpa using hlt)]
  have hother : ∀ i, i ≠ column → i ≠ column + 1 →
      ((row.set column lead).set (column + 1) next)[i]? = row[i]? := by
    intro i hne hne'
    rw [List.getElem?_set_ne (Ne.symm hne'), List.getElem?_set_ne (Ne.symm hne)]
  intro i cell hi
  by_cases heq : i = column
  · subst heq
    rw [hfirst] at hi
    cases hi
    exact ⟨fun _ => ⟨next, hsecond, hnext.2⟩, fun hc => (by rw [hlead.2] at hc; cases hc)⟩
  · by_cases heq' : i = column + 1
    · subst heq'
      rw [hsecond] at hi
      cases hi
      exact ⟨fun hw => (by rw [hnext.1] at hw; cases hw),
        fun _ => ⟨hnext.1, column, lead, rfl, hfirst, hlead.1⟩⟩
    · rw [hother i heq heq'] at hi
      obtain ⟨hwide, hcont⟩ := h i cell hi
      constructor
      · intro hw
        obtain ⟨after, hafter, hc⟩ := hwide hw
        refine ⟨after, ?_, hc⟩
        rw [hother (i + 1) _ (by omega), hafter]
        rintro rfl
        rw [ha] at hafter
        cases hafter
        rw [hsa.2] at hc
        cases hc
      · intro hc
        obtain ⟨hone, j, before, rfl, hbefore, hbw⟩ := hcont hc
        refine ⟨hone, j, before, rfl, ?_, hbw⟩
        rw [hother j (by omega), hbefore]
        rintro rfl
        rw [hb] at hbefore
        cases hbefore
        rw [hsb.1] at hbw
        cases hbw

theorem Paired.modify_text {row : List Cell} (h : Paired row) (column : Nat) (change : JsString → JsString) :
    Paired (row.modify column fun cell => { cell with text := change cell.text }) := by
  have hcell : ∀ (j : Nat) (found : Cell), row[j]? = some found →
      ∃ cell, (row.modify column fun cell => { cell with text := change cell.text })[j]? = some cell ∧
        cell.width = found.width ∧ cell.continuation = found.continuation := by
    intro j found hj
    rw [List.getElem?_modify, hj]
    by_cases heq : column = j
    · exact ⟨{ found with text := change found.text }, by simp [heq], rfl, rfl⟩
    · exact ⟨found, by simp [heq], rfl, rfl⟩
  intro i cell hi
  obtain ⟨found, hfound⟩ : ∃ found, row[i]? = some found := by
    rw [List.getElem?_modify] at hi
    obtain ⟨found, hfound, -⟩ := Option.map_eq_some_iff.mp hi
    exact ⟨found, hfound⟩
  obtain ⟨_, hcell', hwidth, hcontinuation⟩ := hcell i found hfound
  rw [hi] at hcell'
  cases hcell'
  rw [hwidth, hcontinuation]
  obtain ⟨hwide, hcont⟩ := h i found hfound
  constructor
  · intro hw
    obtain ⟨next, hnext, hc⟩ := hwide hw
    obtain ⟨next', hnext', -, hc'⟩ := hcell _ next hnext
    exact ⟨next', hnext', hc'.trans hc⟩
  · intro hc
    obtain ⟨hone, j, before, rfl, hbefore, hb⟩ := hcont hc
    obtain ⟨before', hbefore', hb', -⟩ := hcell _ before hbefore
    exact ⟨hone, j, before', rfl, hbefore', hb'.trans hb⟩

namespace VirtualTerminal

theorem getElem?_eraseIn {row : List Cell} {columns column : Nat} {existing : Cell}
    (hlength : row.length = columns) (hget : row[column]? = some existing) (i : Nat) :
    (eraseIn columns row column existing)[i]? =
      if i = column ∨ (existing.continuation = true ∧ i + 1 = column) ∨
          (existing.continuation = false ∧ existing.width = .two ∧ i = column + 1 ∧ i < columns) then
        some blankCell
      else row[i]? := by
  unfold eraseIn
  grind

theorem paired_eraseIn {row : List Cell} {columns column : Nat} {existing : Cell}
    (hpaired : Paired row) (hlength : row.length = columns) (hget : row[column]? = some existing) :
    Paired (eraseIn columns row column existing) := by
  intro i cell hi
  rw [getElem?_eraseIn hlength hget] at hi
  simp only [getElem?_eraseIn hlength hget]
  split at hi
  · cases hi
    exact ⟨by rintro ⟨⟩, by rintro ⟨⟩⟩
  rename_i hnot
  obtain ⟨hwide, hcont⟩ := hpaired i cell hi
  -- The cells of a pair are erased together.
  constructor
  · intro hw
    obtain ⟨next, hnext, hc⟩ := hwide hw
    refine ⟨next, ?_, hc⟩
    rw [if_neg, hnext]
    rintro (rfl | ⟨hc', heq⟩ | ⟨-, -, heq, -⟩)
    · rw [hget] at hnext
      cases hnext
      exact hnot (Or.inr (Or.inl ⟨hc, rfl⟩))
    · obtain ⟨-, j, before, _, hbefore, hb⟩ := (hpaired column existing hget).2 hc'
      obtain rfl : j = i + 1 := by omega
      rw [hnext] at hbefore
      cases hbefore
      rw [((hpaired _ _ hnext).2 hc).1] at hb
      cases hb
    · exact hnot (Or.inl (by omega))
  · intro hc
    obtain ⟨hone, j, before, rfl, hbefore, hb⟩ := hcont hc
    refine ⟨hone, j, before, rfl, ?_, hb⟩
    have hlt : j + 1 < columns := hlength ▸ (List.getElem?_eq_some_iff.mp hi).1
    rw [if_neg, hbefore]
    rintro (rfl | ⟨-, heq⟩ | ⟨-, hw, rfl, -⟩)
    · rw [hget] at hbefore
      cases hbefore
      refine hnot (Or.inr (Or.inr ⟨?_, hb, rfl, hlt⟩))
      apply Bool.eq_false_iff.mpr
      intro hc'
      rw [((hpaired _ _ hget).2 hc').1] at hb
      cases hb
    · exact hnot (Or.inl heq)
    · obtain ⟨next, hnext, hc'⟩ := (hpaired column existing hget).1 hw
      rw [hbefore] at hnext
      cases hnext
      rw [((hpaired _ _ hbefore).2 hc').1] at hb
      cases hb

theorem length_eraseIn (columns : Nat) (row : List Cell) (column : Nat) (existing : Cell) :
    (eraseIn columns row column existing).length = row.length := by
  unfold eraseIn
  split
  · split <;> simp only [length_set]
  · split <;> simp only [length_set]

/-! ## Edits of a row -/

/-- Every row of the grid has as many cells as there are columns. -/
structure Shaped (t : VirtualTerminal) : Prop where
  columns_pos : 0 < t.columns
  rows_pos : 0 < t.rows
  length : t.grid.length = t.rows
  width : ∀ row ∈ t.grid, row.length = t.columns

/-- One row has been changed; the pairs in it are kept if `keeps` holds. -/
def RowEdit (keeps : Prop) (r : Nat) (s t : VirtualTerminal) : Prop :=
  ∃ row row', s.grid[r]? = some row ∧ row'.length = row.length ∧
    (keeps → Paired row → Paired row') ∧ t = { s with grid := s.grid.set r row' }

section
variable {s t u : VirtualTerminal}

theorem Shaped.row (h : Shaped t) {r : Nat} (hr : r < t.rows) :
    ∃ row, t.grid[r]? = some row ∧ row.length = t.columns := by
  have hlt : r < t.grid.length := h.length ▸ hr
  exact ⟨t.grid[r], List.getElem?_eq_getElem hlt, h.width _ (getElem_mem hlt)⟩

theorem Shaped.edit (h : Shaped s) {keeps : Prop} {r : Nat} (hedit : RowEdit keeps r s t) :
    Shaped t := by
  obtain ⟨row, _, hget, hlength, -, rfl⟩ := hedit
  refine ⟨h.columns_pos, h.rows_pos, by simpa using h.length, fun other hother => ?_⟩
  rcases mem_or_eq_of_mem_set hother with hother | rfl
  · exact h.width other hother
  · exact hlength.trans (h.width row (mem_of_getElem? hget))

theorem Shaped.edit_refl (h : Shaped t) {keeps : Prop} {r : Nat} (hr : r < t.rows) :
    RowEdit keeps r t t := by
  obtain ⟨row, hget, -⟩ := h.row hr
  refine ⟨row, row, hget, rfl, fun _ hpaired => hpaired, ?_⟩
  obtain ⟨hlt, rfl⟩ := List.getElem?_eq_some_iff.mp hget
  rw [set_getElem_self hlt]

theorem RowEdit.trans {keeps : Prop} {r : Nat} (hst : RowEdit keeps r s t)
    (htu : RowEdit keeps r t u) : RowEdit keeps r s u := by
  obtain ⟨row, _, hget, hlength, hkeeps, rfl⟩ := hst
  obtain ⟨_, last, hget', hlength', hkeeps', rfl⟩ := htu
  have hlt : r < s.grid.length := (List.getElem?_eq_some_iff.mp hget).1
  rw [List.getElem?_set_self hlt] at hget'
  cases hget'
  exact ⟨row, last, hget, hlength'.trans hlength, fun hk hpaired => hkeeps' hk (hkeeps hk hpaired),
    by rw [set_set]⟩

theorem eraseCellForWrite_eq {r column : Nat} {row : List Cell} {existing : Cell}
    (hget : t.grid[r]? = some row) (hcell : row[column]? = some existing) :
    t.eraseCellForWrite r column =
      .returned { t with grid := t.grid.set r (eraseIn t.columns row column existing) } := by
  rw [eraseCellForWrite, hget]
  simp only [hcell]

theorem eraseCellForWrite_edit (h : Shaped t) {r column : Nat} (hr : r < t.rows)
    (hcolumn : column < t.columns) :
    Attempt.Returns (RowEdit True r t) (t.eraseCellForWrite r column) := by
  obtain ⟨row, hget, hwidth⟩ := h.row hr
  have hlt : column < row.length := hwidth ▸ hcolumn
  have hcell : row[column]? = some row[column] := List.getElem?_eq_getElem hlt
  exact ⟨_, eraseCellForWrite_eq hget hcell, row, _, hget, length_eraseIn _ _ _ _,
    fun _ hpaired => paired_eraseIn hpaired hwidth hcell, rfl⟩

theorem eraseCellForWrite_outside {r : Nat} (h : t.grid.length ≤ r) (column : Nat) :
    t.eraseCellForWrite r column = .threw t := by
  rw [eraseCellForWrite, List.getElem?_eq_none h]

theorem eraseCells_edit (h : Shaped t) (hr : t.cursorRow < t.rows) {columns : List Nat}
    (hcolumns : ∀ column ∈ columns, column < t.columns) :
    Attempt.Returns (RowEdit True t.cursorRow t) (t.eraseCells columns) := by
  apply Attempt.Returns.each _ (h.edit_refl hr)
  intro u hu column hcolumn
  have hshaped := h.edit hu
  obtain ⟨_, _, _, _, _, heq⟩ := id hu
  have hrow : u.cursorRow = t.cursorRow := by rw [heq]
  have hrows : u.rows = t.rows := by rw [heq]
  have hcolumns' : u.columns = t.columns := by rw [heq]
  rw [hrow]
  have hedit := eraseCellForWrite_edit hshaped (hrows ▸ hr) (hcolumns' ▸ hcolumns column hcolumn)
  exact hedit.mono fun v hv => hu.trans hv

theorem eraseCells_outside (h : t.grid.length ≤ t.cursorRow) (columns : List Nat) :
    (t.eraseCells columns).state = t ∧ (columns ≠ [] → t.eraseCells columns = .threw t) := by
  cases columns with
  | nil => exact ⟨rfl, fun hne => absurd rfl hne⟩
  | cons column rest =>
    have hthrew : t.eraseCells (column :: rest) = .threw t := by
      rw [eraseCells, Attempt.each, eraseCellForWrite_outside h]
      rfl
    exact ⟨by rw [hthrew]; rfl, fun _ => hthrew⟩

/-! ### Graphemes -/

/-- The row after a grapheme has been placed in it. -/
def placeIn (columns : Nat) (row : List Cell) (column : Nat) (cell : Cell) : List Cell :=
  let row := (eraseIn columns row column (row.getD column blankCell)).set column cell
  if cell.width = .two ∧ column + 1 < columns then
    (eraseIn columns row (column + 1) (row.getD (column + 1) blankCell)).set (column + 1)
      ⟨[], .one, true, cell.style⟩
  else row

theorem length_placeIn (columns : Nat) (row : List Cell) (column : Nat) (cell : Cell) :
    (placeIn columns row column cell).length = row.length := by
  unfold placeIn
  split
  · simp only [length_set, length_eraseIn]
  · simp only [length_set, length_eraseIn]

theorem erased_single {columns : Nat} {row : List Cell} {column : Nat} {existing : Cell}
    (hlength : row.length = columns) (hget : row[column]? = some existing) :
    (eraseIn columns row column existing)[column]? = some blankCell := by
  rw [getElem?_eraseIn hlength hget, if_pos (Or.inl rfl)]

theorem getElem?_getD {row : List Cell} {column : Nat} (h : column < row.length) :
    row[column]? = some (row.getD column blankCell) := by
  rw [getD_eq_getElem?_getD, List.getElem?_eq_getElem h]
  rfl

/-- A cell that does not continue the one before it is erased without it. -/
theorem eraseIn_set {columns : Nat} {row : List Cell} {column : Nat} {existing : Cell} (cell : Cell)
    (hlength : row.length = columns) (hget : row[column + 1]? = some existing)
    (hcontinuation : existing.continuation = false) :
    eraseIn columns (row.set column cell) (column + 1) existing =
      (eraseIn columns row (column + 1) existing).set column cell := by
  apply ext_getElem?
  intro i
  have hget' : (row.set column cell)[column + 1]? = some existing := by
    rw [List.getElem?_set_ne (by omega), hget]
  rw [getElem?_eraseIn (by simpa using hlength) hget', List.getElem?_set, List.getElem?_set,
    length_eraseIn, getElem?_eraseIn hlength hget]
  by_cases heq : column = i
  · subst heq
    simp [hcontinuation]
    omega
  · simp [heq]

theorem paired_placeIn {columns : Nat} {row : List Cell} {column : Nat} {cell : Cell}
    (hpaired : Paired row) (hlength : row.length = columns) (hlt : column < columns)
    (hcontinuation : cell.continuation = false) (hfits : cell.width = .two → column + 1 < columns) :
    Paired (placeIn columns row column cell) := by
  have hcell := getElem?_getD (hlength ▸ hlt : column < row.length)
  have herased := paired_eraseIn hpaired hlength hcell
  have hblank := erased_single hlength hcell
  have hlength' : (eraseIn columns row column (row.getD column blankCell)).length = columns :=
    (length_eraseIn _ _ _ _).trans hlength
  unfold placeIn
  simp only
  split
  · rename_i hwide
    have hnext := getElem?_getD (show
      column + 1 < (eraseIn columns row column (row.getD column blankCell)).length by
        rw [hlength']
        exact hwide.2)
    have hsame : ((eraseIn columns row column (row.getD column blankCell)).set column cell).getD
        (column + 1) blankCell =
          (eraseIn columns row column (row.getD column blankCell)).getD (column + 1) blankCell := by
      rw [getD_eq_getElem?_getD, List.getElem?_set_ne (by omega), ← getD_eq_getElem?_getD]
    rw [hsame]
    generalize (eraseIn columns row column (row.getD column blankCell)).getD (column + 1) blankCell =
      existing at hnext
    -- The cell before is blank, so this one is no continuation.
    have hcont : existing.continuation = false := by
      apply Bool.eq_false_iff.mpr
      intro hc
      obtain ⟨-, j, _, _, hbefore, hb⟩ := (herased _ _ hnext).2 hc
      obtain rfl : j = column := by omega
      rw [hblank] at hbefore
      cases hbefore
      cases hb
    rw [eraseIn_set cell hlength' hnext hcont]
    apply (paired_eraseIn herased hlength' hnext).set_pair _ (erased_single hlength' hnext)
      single_blankCell single_blankCell ⟨hwide.1, hcontinuation⟩ ⟨rfl, rfl⟩
    rw [getElem?_eraseIn hlength' hnext, if_neg, hblank]
    rintro (heq | ⟨hc, -⟩ | ⟨-, -, heq, -⟩)
    · omega
    · rw [hcont] at hc
      cases hc
    · omega
  · rename_i hnarrow
    apply herased.set_single hblank single_blankCell
    refine ⟨?_, hcontinuation⟩
    cases hw : cell.width with
    | one => rfl
    | two => exact absurd ⟨hw, hfits hw⟩ hnarrow

theorem modify_set_self {grid : List (List Cell)} {r : Nat} (hr : r < grid.length) (row : List Cell)
    (change : List Cell → List Cell) : (grid.set r row).modify r change = grid.set r (change row) := by
  apply ext_getElem?
  intro i
  by_cases heq : r = i
  · subst heq
    simp [hr]
  · simp [heq]

/-- The row of the cursor, after a cell has been written at the cursor. -/
theorem placeCell_eq (h : Shaped t) (hr : t.cursorRow < t.rows) (hc : t.cursorColumn < t.columns)
    (grapheme : JsString) (width : CellWidth) :
    ∃ row, t.grid[t.cursorRow]? = some row ∧ t.placeCell grapheme width = .returned
      { markRow { t with grid := t.grid.set t.cursorRow (placeIn t.columns row t.cursorColumn
          ⟨grapheme, width, false, t.currentStyle⟩) } t.cursorRow with
        cursorColumn := t.cursorColumn + width.columns } := by
  obtain ⟨row, hget, hwidth⟩ := h.row hr
  have hlt : t.cursorRow < t.grid.length := h.length ▸ hr
  have hcell := getElem?_getD (hwidth ▸ hc : t.cursorColumn < row.length)
  refine ⟨row, hget, ?_⟩
  rw [placeCell, eraseCellForWrite_eq hget hcell]
  simp only [Attempt.andThen, setCell, modify_set_self hlt]
  by_cases hwide : width = .two ∧ t.cursorColumn + 1 < t.columns
  · have hnext := getElem?_getD (show t.cursorColumn + 1 <
      ((eraseIn t.columns row t.cursorColumn (row.getD t.cursorColumn blankCell)).set t.cursorColumn
        ⟨grapheme, width, false, t.currentStyle⟩).length by
          rw [length_set, length_eraseIn, hwidth]
          exact hwide.2)
    rw [eraseCellForWrite_eq (List.getElem?_set_self hlt) hnext]
    simp only [placeIn, if_pos hwide, set_set, modify_set_self hlt]
  · simp only [placeIn, if_neg hwide]

/-- A cell is placed at the cursor, and the row is marked. -/
theorem placeCell_edit (h : Shaped t) (hr : t.cursorRow < t.rows) (hc : t.cursorColumn < t.columns)
    (grapheme : JsString) (width : CellWidth) :
    ∃ u, RowEdit (width = .two → t.cursorColumn + 1 < t.columns) t.cursorRow t u ∧
      t.placeCell grapheme width = .returned
        { u.markRow t.cursorRow with cursorColumn := t.cursorColumn + width.columns } := by
  obtain ⟨row, hget, heq⟩ := placeCell_eq h hr hc grapheme width
  have hwidth := h.width row (mem_of_getElem? hget)
  exact ⟨_, ⟨row, _, hget, length_placeIn _ _ _ _,
    fun hfits hpaired => paired_placeIn hpaired hwidth hc rfl hfits, rfl⟩, heq⟩

end

/-! ## Rows of another width -/

theorem length_copyRow (columns : Nat) (row : List Cell) : (copyRow columns row).length = columns := by
  rw [copyRow, length_append, blankRow, length_replicate, length_take]
  omega

theorem length_mendCell (row : List Cell) (column : Nat) : (mendCell row column).length = row.length := by
  rw [mendCell]
  split
  · rfl
  split
  · simp only
    split
    · rw [length_set, length_set]
    · rw [length_set]
  · simp only
    split
    · rw [length_set]
    · rfl

theorem length_mendRow (row : List Cell) : (mendRow row).length = row.length := by
  rw [mendRow]
  generalize List.range row.length = columns
  induction columns generalizing row with
  | nil => rfl
  | cons column rest ih => rw [foldl_cons, ih, length_mendCell]

/-- The pairs are in order, but the last one may have lost its continuation. -/
def Cut (row : List Cell) : Prop :=
  ∀ i cell, row[i]? = some cell →
    (cell.width = .two → i + 1 = row.length ∨
      ∃ next, row[i + 1]? = some next ∧ next.continuation = true) ∧
    (cell.continuation = true →
      cell.width = .one ∧ ∃ j before, i = j + 1 ∧ row[j]? = some before ∧ before.width = .two)

/-- A row that is wide enough is filled up, and a row that is not is cut. -/
theorem cut_copyRow {row : List Cell} (h : Paired row) (columns : Nat) : Cut (copyRow columns row) := by
  have hget : ∀ i, (copyRow columns row)[i]? =
      if i < columns then some (row.getD i blankCell) else none := by
    intro i
    rw [copyRow, List.getElem?_append, length_take]
    by_cases hcut : i < min columns row.length
    · rw [if_pos hcut, List.getElem?_take_of_lt (by omega), if_pos (by omega)]
      exact getElem?_getD (by omega)
    rw [if_neg hcut, blankRow, List.getElem?_replicate]
    by_cases hi : i < columns
    · rw [if_pos (by omega), if_pos hi, getD_eq_getElem?_getD,
        List.getElem?_eq_none (by omega)]
      rfl
    · rw [if_neg (by omega), if_neg hi]
  have hin : ∀ {i cell}, (copyRow columns row)[i]? = some cell → i < columns ∧
      (row[i]? = some cell ∨ cell = blankCell) := by
    intro i cell hi
    rw [hget] at hi
    split at hi
    · refine ⟨‹_›, ?_⟩
      rw [getD_eq_getElem?_getD] at hi
      cases hrow : row[i]? with
      | none =>
        rw [hrow] at hi
        exact Or.inr (Option.some.inj hi).symm
      | some found =>
        rw [hrow] at hi
        exact Or.inl hi
    · cases hi
  intro i cell hi
  obtain ⟨_, hold | rfl⟩ := hin hi
  · obtain ⟨hwide, hcont⟩ := h i cell hold
    constructor
    · intro hw
      by_cases hend : i + 1 = columns
      · exact Or.inl (by rw [length_copyRow, hend])
      obtain ⟨next, hnext, hc⟩ := hwide hw
      refine Or.inr ⟨next, ?_, hc⟩
      rw [hget, if_pos (by omega), getD_eq_getElem?_getD, hnext]
      rfl
    · intro hc
      obtain ⟨hone, j, before, rfl, hbefore, hb⟩ := hcont hc
      refine ⟨hone, j, before, rfl, ?_, hb⟩
      rw [hget, if_pos (by omega), getD_eq_getElem?_getD, hbefore]
      rfl
  · exact ⟨by rintro ⟨⟩, by rintro ⟨⟩⟩

theorem mendCell_cut {row : List Cell} (h : Cut row) (column : Nat) :
    mendCell row column =
      if (row[column]?).any (fun cell => cell.width = .two) ∧ column + 1 ≥ row.length then
        row.set column blankCell
      else row := by
  rw [mendCell]
  split
  · rename_i hnone
    simp [hnone]
  rename_i cell hcell
  have hkept : ¬(cell.continuation = true ∧
      (column = 0 ∨ ((row[column - 1]?).any fun cell => cell.width ≠ .two) = true)) := by
    rintro ⟨hc, hlead⟩
    obtain ⟨-, _, _, rfl, hbefore, hb⟩ := (h column cell hcell).2 hc
    rcases hlead with hzero | hany
    · cases hzero
    · simp [hbefore, hb] at hany
  simp only [if_neg hkept]
  simp [hcell]

theorem paired_mendRow {row : List Cell} (h : Cut row) : Paired (mendRow row) := by
  cases hlength : row.length with
  | zero =>
    rw [length_eq_zero_iff.mp hlength]
    intro i cell hi
    cases hi
  | succ last =>
    have hsame : ∀ columns : List Nat, (∀ column ∈ columns, column < last) →
        columns.foldl mendCell row = row := by
      intro columns hcolumns
      induction columns with
      | nil => rfl
      | cons column rest ih =>
        have hlt := hcolumns column mem_cons_self
        have hkept : mendCell row column = row := by
          rw [mendCell_cut h, if_neg]
          omega
        rw [foldl_cons, hkept]
        exact ih fun other hother => hcolumns other (mem_cons_of_mem _ hother)
    rw [mendRow, hlength, range_succ, foldl_append,
      hsame _ fun column hcolumn => mem_range.mp hcolumn, foldl_cons, foldl_nil,
      mendCell_cut h]
    obtain ⟨final, hget⟩ : ∃ final, row[last]? = some final := ⟨_, getElem?_getD (by omega)⟩
    -- Only the last cell can stand alone.
    by_cases hwide : final.width = .two
    · rw [if_pos ⟨by simp [hget, hwide], by omega⟩]
      intro i cell hi
      rw [List.getElem?_set] at hi
      split at hi
      · split at hi
        · cases hi
          exact ⟨by rintro ⟨⟩, by rintro ⟨⟩⟩
        · cases hi
      · have hlt := (List.getElem?_eq_some_iff.mp hi).1
        obtain ⟨hnext, hcont⟩ := h i cell hi
        constructor
        · intro hw
          rcases hnext hw with hend | ⟨next, hnext, hc⟩
          · omega
          refine ⟨next, ?_, hc⟩
          rw [List.getElem?_set_ne, hnext]
          rintro rfl
          rw [hnext] at hget
          cases hget
          rw [((h _ _ hnext).2 hc).1] at hwide
          cases hwide
        · intro hc
          obtain ⟨hone, j, before, rfl, hbefore, hb⟩ := hcont hc
          refine ⟨hone, j, before, rfl, ?_, hb⟩
          rw [List.getElem?_set_ne (by omega), hbefore]
    · rw [if_neg (by simp [hget, hwide])]
      intro i cell hi
      obtain ⟨hnext, hcont⟩ := h i cell hi
      refine ⟨fun hw => ?_, hcont⟩
      rcases hnext hw with hend | hnext
      · obtain rfl : i = last := by omega
        rw [hi] at hget
        cases hget
        exact absurd hw hwide
      · exact hnext

end VirtualTerminal

end PiDaemon.Terminal
