import PiDaemon.Viewing.Screen

/-!
# The rows that a viewer takes

What the checks of a frame let through, and what a viewer keeps of it: the texts of its runs are
sanitized, runs without text are dropped, and neighbouring runs of one style are joined.

* `normalizeRow_ok`: a row is taken when the text of each run, and of neighbouring runs of one
  style together, is within the bound;
* `normalizeRows_ok`: rows are taken when each one is, and none is repeated.
-/

namespace PiDaemon.Viewing

open Lib Shadow List

/-! ## Runs -/

/-- What is kept of a run, before it is joined. -/
def sanitizeRun (run : TuiStyledRun) : TuiStyledRun :=
  ⟨sanitizeText run.text, normalizeStyle run.style⟩

/-- `pushRun` without its check. -/
def joinRun (runs : List TuiStyledRun) (run : TuiStyledRun) : List TuiStyledRun :=
  if run.text.length = 0 then runs
  else
    match runs.getLast? with
    | none => runs ++ [run]
    | some previous =>
      if styleKey previous.style = styleKey run.style then
        runs.dropLast ++ [⟨previous.text ++ run.text, run.style⟩]
      else runs ++ [run]

def joinRuns (runs : List TuiStyledRun) : List TuiStyledRun := runs.foldl joinRun []

/-- The runs that have a text when they are sanitized. -/
def visibleRuns (runs : List TuiStyledRun) : List TuiStyledRun :=
  (runs.map sanitizeRun).filter fun run => run.text.length ≠ 0

def textLength (runs : List TuiStyledRun) : Nat := (runs.map fun run => run.text.length).sum

/-- Neighbouring runs of one style have a text within the bound together. -/
def JoinsFit (runs : List TuiStyledRun) : Prop :=
  ∀ segment, segment <:+: runs →
    (∀ first ∈ segment, ∀ second ∈ segment, styleKey first.style = styleKey second.style) →
      textLength segment ≤ MAX_RUN_TEXT

/-- The text of each run, and of visible neighbours of one style together, is within the bound. -/
structure RunsFit (runs : List TuiStyledRun) : Prop where
  each : ∀ run ∈ runs, run.text.length ≤ MAX_RUN_TEXT
  joined : JoinsFit (visibleRuns runs)

theorem textLength_append (first second : List TuiStyledRun) :
    textLength (first ++ second) = textLength first + textLength second := by
  simp [textLength]

/-- The last run is what a last segment of visible runs has been joined to. -/
def EndsWith (visible runs : List TuiStyledRun) : Prop :=
  visible = [] ∧ runs = [] ∨
    ∃ segment front last, segment <:+ visible ∧ runs = front ++ [last] ∧
      (∀ run ∈ segment, styleKey run.style = styleKey last.style) ∧
      last.text.length = textLength segment

section
variable {visible runs : List TuiStyledRun} {run : TuiStyledRun}

theorem EndsWith.single (front : List TuiStyledRun) : EndsWith (visible ++ [run]) (front ++ [run]) :=
  .inr ⟨[run], front, run, suffix_append _ _, rfl, fun _ hmem => by rw [mem_singleton.mp hmem],
    by simp [textLength]⟩

theorem EndsWith.push (h : EndsWith visible runs) (hfits : JoinsFit (visible ++ [run]))
    (hrun : run.text.length ≠ 0) :
    pushRun runs run = .ok (joinRun runs run) ∧ EndsWith (visible ++ [run]) (joinRun runs run) := by
  rcases h with ⟨rfl, rfl⟩ | ⟨segment, front, last, hsuffix, rfl, hstyle, hlength⟩
  · simp only [pushRun, joinRun, if_neg hrun, List.getLast?_nil]
    exact ⟨trivial, EndsWith.single []⟩
  simp only [pushRun, joinRun, if_neg hrun, List.getLast?_concat, dropLast_concat]
  split
  · rename_i hsame
    have hall : ∀ other ∈ segment ++ [run], styleKey other.style = styleKey run.style := by
      intro other hother
      rcases mem_append.mp hother with hold | hnew
      · exact (hstyle other hold).trans hsame
      · rw [mem_singleton.mp hnew]
    have hend : segment ++ [run] <:+ visible ++ [run] := by
      obtain ⟨before, rfl⟩ := hsuffix
      exact ⟨before, by simp⟩
    have hjoined := hfits _ hend.isInfix fun first hfirst second hsecond =>
      (hall first hfirst).trans (hall second hsecond).symm
    have hrunLength : textLength [run] = run.text.length := by simp [textLength]
    rw [textLength_append, hrunLength, ← hlength] at hjoined
    constructor
    · simp [check, hjoined, bind, Except.bind, pure, Except.pure]
    · refine .inr ⟨segment ++ [run], front, _, hend, rfl, hall, ?_⟩
      rw [textLength_append, hrunLength, length_append, hlength]
  · exact ⟨rfl, EndsWith.single (front ++ [last])⟩

end

theorem visibleRuns_concat (runs : List TuiStyledRun) (run : TuiStyledRun) :
    visibleRuns (runs ++ [run]) =
      visibleRuns runs ++ if (sanitizeRun run).text.length ≠ 0 then [sanitizeRun run] else [] := by
  unfold visibleRuns
  congr 1
  by_cases h : (sanitizeRun run).text = [] <;> simp [h]

theorem joinRuns_concat (runs : List TuiStyledRun) (run : TuiStyledRun) :
    joinRuns (runs ++ [run]) = joinRun (joinRuns runs) run := by
  simp [joinRuns]

theorem foldlM_addRun {runs : List TuiStyledRun} (h : RunsFit runs) :
    runs.foldlM addRun [] = .ok (joinRuns (runs.map sanitizeRun)) ∧
      EndsWith (visibleRuns runs) (joinRuns (runs.map sanitizeRun)) := by
  induction runs using List.reverseRecOn with
  | nil => exact ⟨rfl, .inl ⟨rfl, rfl⟩⟩
  | append_singleton runs run ih =>
    have hvisible := visibleRuns_concat runs run
    have hfront : RunsFit runs := by
      refine ⟨fun other hother => h.each other (mem_append_left _ hother),
        fun segment hsegment => h.joined segment ?_⟩
      rw [hvisible]
      exact hsegment.trans (prefix_append _ _).isInfix
    obtain ⟨hrun, hends⟩ := ih hfront
    have hbound : run.text.length ≤ MAX_RUN_TEXT :=
      h.each run (mem_append_right _ (mem_singleton.mpr rfl))
    have hadd : ∀ before, addRun before run = pushRun before (sanitizeRun run) := by
      intro before
      simp [addRun, normalizeRun, check, hbound, sanitizeRun, bind, Except.bind, pure, Except.pure]
    rw [foldlM_append, hrun, map_append, map_singleton, joinRuns_concat]
    have hbind : ∀ before : List TuiStyledRun,
        ((Except.ok before : Except String _) >>= fun acc => List.foldlM addRun acc [run]) =
          addRun before run := by
      intro before
      simp [foldlM_cons, bind, Except.bind]
      cases addRun before run <;> rfl
    rw [hbind, hadd, hvisible]
    by_cases hempty : (sanitizeRun run).text.length = 0
    · rw [if_neg (by simp [hempty]), append_nil]
      simp only [pushRun, joinRun, if_pos hempty]
      exact ⟨trivial, hends⟩
    · rw [if_pos hempty]
      refine hends.push ?_ hempty
      have hjoined := h.joined
      rwa [hvisible, if_pos hempty] at hjoined

/-! ## Rows -/

/-- What is kept of a row. -/
def keepRow (row : TuiRow) : TuiRow := ⟨row.row, joinRuns (row.runs.map sanitizeRun)⟩

structure RowFits (dimensions : TuiDimensions) (row : TuiRow) : Prop where
  index : row.row < dimensions.rows
  count : row.runs.length ≤ min MAX_RUNS_PER_ROW dimensions.columns
  runs : RunsFit row.runs

theorem checkedInteger_ok {value minimum maximum : Nat} (hmin : minimum ≤ value)
    (hmax : value ≤ maximum) (label : String) :
    checkedInteger value minimum maximum label = .ok value := by
  simp [checkedInteger, check, hmin, hmax, bind, Except.bind, pure, Except.pure]

theorem normalizeRow_ok {dimensions : TuiDimensions} {row : TuiRow} (h : RowFits dimensions row) :
    normalizeRow dimensions row = .ok (keepRow row) := by
  have hindex := h.index
  rw [normalizeRow, checkedInteger_ok (Nat.zero_le _) (by omega)]
  simp [check, h.count, (foldlM_addRun h.runs).1, bind, Except.bind, pure, Except.pure, keepRow]

section
variable {dimensions : TuiDimensions} {rows : List TuiRow}

theorem distinct_keepRow (h : Distinct rows) : Distinct (rows.map keepRow) := by
  unfold Distinct at h ⊢
  rw [map_map]
  exact h

theorem foldlM_addRow (hfits : ∀ row ∈ rows, RowFits dimensions row) (hdistinct : Distinct rows) :
    rows.foldlM (addRow dimensions) [] = .ok (rows.map keepRow) := by
  induction rows using List.reverseRecOn with
  | nil => rfl
  | append_singleton rows row ih =>
    unfold Distinct at hdistinct
    rw [map_append, nodup_append] at hdistinct
    have hnew : (keepRow row).row ∉ (rows.map keepRow).map TuiRow.row := by
      rw [map_map]
      intro hmem
      exact hdistinct.2.2 _ hmem _ (mem_singleton.mpr rfl) rfl
    have hadd : addRow dimensions (rows.map keepRow) row = .ok (rows.map keepRow ++ [keepRow row]) := by
      simp only [addRow, normalizeRow_ok (hfits row (by simp)), bind, Except.bind]
      rw [(check_ok (u := ())).mpr (decide_eq_true hnew)]
      rfl
    rw [foldlM_append, ih (fun other hother => hfits other (mem_append_left _ hother))
      hdistinct.1, map_append]
    simp only [foldlM_cons, foldlM_nil, bind, Except.bind, map_cons, map_nil, hadd]
    rfl

theorem normalizeRows_ok (hfits : ∀ row ∈ rows, RowFits dimensions row) (hdistinct : Distinct rows)
    {maximum : Nat} (hcount : rows.length ≤ maximum) :
    normalizeRows rows dimensions maximum = .ok (sortRows (rows.map keepRow)) := by
  simp [normalizeRows, check, hcount, foldlM_addRow hfits hdistinct, bind, Except.bind, pure,
    Except.pure]

end

/-! ## Frames -/

/-- A frame that a viewer takes. -/
structure FrameFits (bytes : Nat) (dimensions : TuiDimensions) (rows : List TuiRow)
    (cursor : TuiCursorState) (title : Option JsString) : Prop where
  bytes_le : bytes ≤ MAX_FRAME_BYTES
  rows_pos : 0 < dimensions.rows
  rows_le : dimensions.rows ≤ MAX_ROWS
  columns_pos : 0 < dimensions.columns
  columns_le : dimensions.columns ≤ MAX_COLUMNS
  each : ∀ row ∈ rows, RowFits dimensions row
  distinct : Distinct rows
  cursorRow : cursor.row < dimensions.rows
  cursorColumn : cursor.column < dimensions.columns
  title_le : ∀ value ∈ title, value.length ≤ MAX_TITLE

section
variable {bytes : Nat} {dimensions : TuiDimensions} {rows : List TuiRow} {cursor : TuiCursorState}
  {title : Option JsString}

theorem FrameFits.count (h : FrameFits bytes dimensions rows cursor title) : rows.length ≤ 200 := by
  have hbound : ∀ r ∈ rows.map TuiRow.row, r < dimensions.rows := by
    intro r hr
    obtain ⟨row, hrow, rfl⟩ := mem_map.mp hr
    exact (h.each row hrow).index
  have hsub : rows.map TuiRow.row ⊆ List.range dimensions.rows := fun r hr =>
    mem_range.mpr (hbound r hr)
  have hlength := (subperm_of_subset h.distinct hsub).length_le
  rw [length_map, length_range] at hlength
  exact hlength.trans h.rows_le

theorem FrameFits.parts (h : FrameFits bytes dimensions rows cursor title) :
    assertFrameBytes bytes = .ok () ∧ normalizeDimensions dimensions = .ok dimensions ∧
      normalizeRows rows dimensions 200 = .ok (sortRows (rows.map keepRow)) ∧
      normalizeCursor cursor dimensions = .ok cursor ∧
      normalizeTitle title = .ok (title.map sanitizeTitle) := by
  have hrow := h.cursorRow
  have hcolumn := h.cursorColumn
  refine ⟨by simp [assertFrameBytes, check, h.bytes_le], ?_,
    normalizeRows_ok h.each h.distinct h.count, ?_, ?_⟩
  · rw [normalizeDimensions, checkedInteger_ok h.rows_pos h.rows_le,
      checkedInteger_ok h.columns_pos h.columns_le]
    rfl
  · rw [normalizeCursor, checkedInteger_ok (Nat.zero_le _) (by omega),
      checkedInteger_ok (Nat.zero_le _) (by omega)]
    rfl
  · have htitle : (title.map List.length).getD 0 ≤ MAX_TITLE := by
      cases title with
      | none => exact Nat.zero_le _
      | some value => exact h.title_le value rfl
    simp [normalizeTitle, check, htitle, bind, Except.bind, pure, Except.pure]

end

/-- What is kept of a delta. -/
def keepDelta (delta : DashboardTuiDelta) : DashboardTuiDelta :=
  { delta with
    changedRows := sortRows (delta.changedRows.map keepRow)
    title := delta.title.map sanitizeTitle }

/-- What is kept of a snapshot. -/
def keepSnapshot (snapshot : DashboardTuiSnapshot) : DashboardTuiSnapshot :=
  { snapshot with
    rows := sortRows (snapshot.rows.map keepRow)
    title := snapshot.title.map sanitizeTitle }

theorem normalizeDelta_ok {delta : DashboardTuiDelta}
    (h : FrameFits delta.bytes delta.dimensions delta.changedRows delta.cursorState delta.title) :
    normalizeDelta delta = .ok (keepDelta delta) := by
  obtain ⟨hbytes, hdimensions, hrows, hcursor, htitle⟩ := h.parts
  rw [normalizeDelta, hbytes, hdimensions]
  simp only [bind, Except.bind, MAX_DELTA_ROWS, hrows, hcursor, htitle]
  rfl

theorem normalizeSnapshot_ok {snapshot : DashboardTuiSnapshot}
    (h : FrameFits snapshot.bytes snapshot.dimensions snapshot.rows snapshot.cursor snapshot.title) :
    normalizeSnapshot snapshot = .ok (keepSnapshot snapshot) := by
  obtain ⟨hbytes, hdimensions, hrows, hcursor, htitle⟩ := h.parts
  rw [normalizeSnapshot, hbytes, hdimensions]
  simp only [bind, Except.bind, MAX_ROWS, hrows, hcursor, htitle]
  rfl

end PiDaemon.Viewing
