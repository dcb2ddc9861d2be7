import PiDaemon.Terminal.Marks

/-!
# Frames as deltas

A viewer that has the last frame and applies each next one.

* `Synced`: every row that is not marked is in the viewer as it is in the grid;
* `frames_lossless`: so the viewer has after each frame what a full frame would show, in every
  run that only erases the rows up to the cursor while the cursor is within the grid;
* `frame_loses_rows`: a run that does otherwise.
-/

namespace PiDaemon.Terminal

open Lib List

/-- What a viewer holds. -/
structure Viewer where
  columns : Nat
  rows : Nat
  lines : List VirtualTerminalRowDelta
  cursor : VirtualTerminalCursor
  title : JsString
  deriving DecidableEq

namespace Viewer

/-- What a full frame shows. -/
def ofFrame (frame : VirtualTerminalFrame) : Viewer :=
  ⟨frame.columns, frame.rows, frame.changedRows, frame.cursor, frame.title⟩

def replaceRows (lines changed : List VirtualTerminalRowDelta) : List VirtualTerminalRowDelta :=
  changed.foldl (fun lines delta => lines.set delta.row delta) lines

/-- A viewer that has no frame yet starts from a full one. -/
def applyFrame (viewer : Option Viewer) (frame : VirtualTerminalFrame) : Option Viewer :=
  if frame.full then some (ofFrame frame)
  else viewer.map fun viewer =>
    ⟨frame.columns, frame.rows, replaceRows viewer.lines frame.changedRows, frame.cursor, frame.title⟩

end Viewer

/-- A terminal, and the viewer of its frames. -/
structure Watched where
  terminal : VirtualTerminal
  viewer : Option Viewer
  sequences : List Nat
  deriving DecidableEq

namespace Watched

def start (t : VirtualTerminal) : Watched := ⟨t, none, []⟩

def step (platform : TerminalPlatform) (limits : VirtualTerminalLimits) (w : Watched) :
    TerminalEvent → Option Watched
  | .takeFrame force =>
    match w.terminal.takeFrame limits force with
    | none => some w
    | some (frame, t) => some ⟨t, Viewer.applyFrame w.viewer frame, w.sequences ++ [frame.sequence]⟩
  | event => some { w with terminal := (w.terminal.call platform limits event).state }

/-- The viewer has what a full frame would show. -/
def Exact (w : Watched) : Prop :=
  (w.terminal.frameOf true).map Viewer.ofFrame = w.viewer

instance exact_decidable (w : Watched) : Decidable w.Exact :=
  inferInstanceAs (Decidable ((w.terminal.frameOf true).map Viewer.ofFrame = w.viewer))

/-- Frames are numbered one after the other, and one more frame leaves the viewer exact. -/
def Lossless (platform : TerminalPlatform) (limits : VirtualTerminalLimits) (w : Watched) : Prop :=
  w.sequences = List.range' 1 w.sequences.length ∧
    ∀ force w', w.step platform limits (.takeFrame force) = some w' →
      w'.sequences ≠ w.sequences → w'.Exact

end Watched

/-- A write only erases the rows up to the cursor while the cursor is within the grid. -/
def KeepsRows (platform : TerminalPlatform) (limits : VirtualTerminalLimits) (t : VirtualTerminal) :
    TerminalEvent → Prop
  | .write data => VirtualTerminal.WriteMeets platform limits VirtualTerminal.ErasesWithin t data
  | _ => True

instance (platform : TerminalPlatform) (limits : VirtualTerminalLimits) (t : VirtualTerminal) :
    (event : TerminalEvent) → Decidable (KeepsRows platform limits t event)
  | .write data =>
    inferInstanceAs (Decidable
      (VirtualTerminal.WriteMeets platform limits VirtualTerminal.ErasesWithin t data))
  | .resize _ _ => .isTrue trivial
  | .moveBy _ => .isTrue trivial
  | .hideCursor => .isTrue trivial
  | .showCursor => .isTrue trivial
  | .clearLine => .isTrue trivial
  | .clearFromCursor => .isTrue trivial
  | .clearScreen => .isTrue trivial
  | .setTitle _ => .isTrue trivial
  | .setProgress _ => .isTrue trivial
  | .takeFrame _ => .isTrue trivial

/-! ## Rows -/

namespace VirtualTerminal

section
variable {s t : VirtualTerminal}

/-- A row of a full frame. -/
def projectedRow (t : VirtualTerminal) (r : Nat) : VirtualTerminalRowDelta :=
  projectRow r (t.grid.getD r [])

theorem projectRows_eq {rows : List Nat} (hrows : ∀ r ∈ rows, r < t.grid.length) :
    t.projectRows rows = some (rows.map t.projectedRow) := by
  unfold projectRows
  induction rows with
  | nil => rfl
  | cons r rest ih =>
    have hrow : t.grid[r]? = some (t.grid.getD r []) := by
      have hlt := hrows r mem_cons_self
      rw [getD_eq_getElem?_getD, List.getElem?_eq_getElem hlt]
      rfl
    rw [mapM_cons, hrow, ih fun other hother => hrows other (mem_cons_of_mem _ hother)]
    rfl

theorem projectedRow_row (t : VirtualTerminal) (r : Nat) : (t.projectedRow r).row = r := rfl

end

end VirtualTerminal

namespace Viewer

theorem getElem?_replaceRows {project : Nat → VirtualTerminalRowDelta}
    (hproject : ∀ r, (project r).row = r) (lines : List VirtualTerminalRowDelta) (rows : List Nat)
    (i : Nat) :
    (replaceRows lines (rows.map project))[i]? =
      if i ∈ rows ∧ i < lines.length then some (project i) else lines[i]? := by
  unfold replaceRows
  induction rows generalizing lines with
  | nil => simp
  | cons r rest ih =>
    rw [map_cons, foldl_cons, ih, hproject]
    by_cases hlt : i < lines.length
    · by_cases hrest : i ∈ rest
      · simp [hlt, hrest]
      by_cases heq : r = i
      · subst heq
        simp [hlt, hrest]
      · simp [hlt, hrest, heq, Ne.symm heq]
    · by_cases heq : r = i
      · subst heq
        simp [hlt]
      · simp [hlt, heq]

end Viewer

/-! ## Synced viewers -/

/-- The viewer has every row that is not marked. -/
structure Agrees (t : VirtualTerminal) (viewer : Viewer) : Prop where
  dirty : ∀ r ∈ t.dirtyRows, r < t.rows
  length : viewer.lines.length = t.rows
  clean : ∀ r < t.rows, r ∉ t.dirtyRows → viewer.lines[r]? = some (t.projectedRow r)

section
variable {platform : TerminalPlatform} {limits : VirtualTerminalLimits} {s t : VirtualTerminal}
  {viewer : Viewer}

theorem Agrees.marks {keeps : Prop} (h : Agrees s viewer) (hmarks : s.Marks keeps t) :
    Agrees t viewer := by
  refine ⟨fun r hr => ?_, h.length.trans hmarks.rows.symm, fun r hr hclean => ?_⟩
  · rw [hmarks.rows]
    rcases hmarks.marked r hr with hold | hlt
    · exact h.dirty r hold
    · exact hlt
  · obtain ⟨hclean', hrow⟩ := hmarks.unmarked r hclean
    have hsame : t.projectedRow r = s.projectedRow r := by
      rw [VirtualTerminal.projectedRow, VirtualTerminal.projectedRow, getD_eq_getElem?_getD,
        getD_eq_getElem?_getD, hrow]
    rw [hsame]
    exact h.clean r (hmarks.rows ▸ hr) hclean'

/-- A viewer that no resize has made out of date. -/
structure Synced (w : Watched) : Prop where
  shaped : w.terminal.Shaped
  sequences : w.sequences = List.range' 1 w.terminal.frameSequence
  viewer : w.terminal.published = true → w.terminal.dimensionsChanged = false →
    ∃ viewer, w.viewer = some viewer ∧ Agrees w.terminal viewer

/-! ## Frames -/

theorem frameOf_full (h : t.Shaped) :
    ∃ frame, t.frameOf true = some frame ∧
      Viewer.ofFrame frame =
        ⟨t.columns, t.rows, (List.range t.rows).map t.projectedRow, t.frameCursor, t.title⟩ := by
  have hrows : ∀ r ∈ List.range t.rows, r < t.grid.length := by
    intro r hr
    rw [h.length]
    exact mem_range.mp hr
  rw [VirtualTerminal.frameOf, if_pos rfl, VirtualTerminal.projectRows_eq hrows]
  exact ⟨_, rfl, rfl⟩

/-- The rows that are marked are all that a viewer lacks. -/
theorem Agrees.replaceRows (h : Agrees t viewer) :
    Viewer.replaceRows viewer.lines (t.dirtyRows.mergeSort.map t.projectedRow) =
      (List.range t.rows).map t.projectedRow := by
  apply ext_getElem?
  intro i
  rw [Viewer.getElem?_replaceRows t.projectedRow_row, List.getElem?_map, h.length]
  simp only [mem_mergeSort]
  by_cases hlt : i < t.rows
  · rw [List.getElem?_range hlt]
    split
    · rfl
    · rename_i hnot
      exact h.clean i hlt fun hdirty => hnot ⟨hdirty, hlt⟩
  · rw [if_neg (fun hmem => hlt hmem.2), List.getElem?_eq_none (by rw [h.length]; omega),
      List.getElem?_eq_none (by rw [length_range]; omega)]
    rfl

theorem takeFrame_eq {force : Bool} {frame : VirtualTerminalFrame}
    (htake : s.takeFrame limits force = some (frame, t)) :
    s.frameOf (force || !s.published || s.dimensionsChanged) = some frame ∧
      t = { s with
        frameSequence := frame.sequence
        published := true
        dimensionsChanged := false
        dirtyRows := [] } := by
  rw [VirtualTerminal.takeFrame] at htake
  split at htake
  · cases htake
  obtain ⟨_, hframe, hsize⟩ := Option.bind_eq_some_iff.mp htake
  split at hsize
  · cases hsize
  · cases hsize
    exact ⟨hframe, rfl⟩

/-- After a frame the viewer has what a full frame would show. -/
theorem Synced.takeFrame {w : Watched} (h : Synced w) {force : Bool} {frame : VirtualTerminalFrame}
    (htake : w.terminal.takeFrame limits force = some (frame, t)) :
    frame.sequence = w.terminal.frameSequence + 1 ∧
      Viewer.applyFrame w.viewer frame =
        some ⟨t.columns, t.rows, (List.range t.rows).map t.projectedRow, t.frameCursor, t.title⟩ := by
  obtain ⟨hframe, rfl⟩ := takeFrame_eq htake
  obtain ⟨_, hchanged, rfl⟩ := Option.map_eq_some_iff.mp hframe
  refine ⟨rfl, ?_⟩
  rw [Viewer.applyFrame]
  cases hfull : force || !w.terminal.published || w.terminal.dimensionsChanged with
  | true =>
    rw [hfull, VirtualTerminal.projectRows_eq fun r hr => by
      rw [h.shaped.length]
      exact mem_range.mp hr] at hchanged
    cases hchanged
    rfl
  | false =>
    rw [Bool.or_eq_false_iff, Bool.or_eq_false_iff, Bool.not_eq_false'] at hfull
    obtain ⟨_, hviewer, hagrees⟩ := h.viewer hfull.1.2 hfull.2
    rw [hfull.1.1, hfull.1.2, hfull.2] at hchanged
    rw [if_neg (by decide), VirtualTerminal.projectRows_eq fun r hr => by
      rw [h.shaped.length]
      exact hagrees.dirty r (mem_mergeSort.mp hr)] at hchanged
    cases hchanged
    rw [hviewer]
    simp only [Bool.false_eq_true, if_false, Option.map_some, hagrees.replaceRows]
    rfl

/-! ## Runs -/

theorem Synced.marks {keeps : Prop} {w : Watched} (h : Synced w) (hmarks : w.terminal.Marks keeps t) :
    Synced { w with terminal := t } := by
  refine ⟨hmarks.shaped h.shaped, ?_, fun hpublished hchanged => ?_⟩
  · rw [hmarks.frameSequence]
    exact h.sequences
  rw [hmarks.published] at hpublished
  rw [hmarks.dimensionsChanged] at hchanged
  obtain ⟨viewer, hviewer, hagrees⟩ := h.viewer hpublished hchanged
  exact ⟨viewer, hviewer, hagrees.marks hmarks⟩

theorem Synced.resize {w : Watched} (h : Synced w) (columns rows : Nat) :
    Synced { w with terminal := (w.terminal.call platform limits (.resize columns rows)).state } := by
  rw [VirtualTerminal.call]
  cases hresize : w.terminal.resize limits columns rows with
  | none => exact h
  | some =>
    rcases VirtualTerminal.resize_cases h.shaped hresize with rfl | hresized
    · exact h
    refine ⟨hresized.shaped, ?_, fun _ hchanged => ?_⟩
    · rw [Attempt.state, hresized.frameSequence]
      exact h.sequences
    · rw [Attempt.state, hresized.dimensionsChanged] at hchanged
      cases hchanged

/-- Every call but a resize and a frame. -/
theorem call_marks (h : t.Shaped) {event : TerminalEvent} (hkeeps : KeepsRows platform limits t event)
    (hresize : ∀ columns rows, event ≠ .resize columns rows) (hframe : ∀ force, event ≠ .takeFrame force) :
    Attempt.Always (t.Marks False) (t.call platform limits event) := by
  cases event with
  | write => exact VirtualTerminal.write_marks h (fun _ _ hok => ⟨hok, False.elim⟩) hkeeps
  | resize columns rows => exact absurd rfl (hresize columns rows)
  | moveBy | hideCursor | showCursor | setTitle | setProgress =>
    exact VirtualTerminal.Marks.of_screen rfl
  | clearLine => exact VirtualTerminal.eraseLine_marks h 0
  | clearFromCursor => exact VirtualTerminal.eraseBelow_marks h
  | clearScreen => exact VirtualTerminal.clearScreen_marks h
  | takeFrame force => exact absurd rfl (hframe force)

/-- The rows up to a cursor outside the grid cannot be erased. -/
theorem eraseDisplay_threw (h : t.Shaped) (hr : t.rows ≤ t.cursorRow) (u : VirtualTerminal) :
    t.eraseDisplay 1 ≠ .returned u := by
  have hlength := h.length
  have houtside : ({ t with
      grid := blankRows t.cursorRow t.columns ++ t.grid.drop t.cursorRow } :
        VirtualTerminal).grid.length ≤ t.cursorRow := by
    simp [blankRows]
    omega
  have hthrew := (VirtualTerminal.eraseCells_outside houtside
    (List.range' 0 (t.clampedColumn + 1))).2 (by simp)
  rw [VirtualTerminal.eraseDisplay, hthrew]
  exact fun heq => by cases heq

theorem consumeCsi_eraseAbove {parametersText : JsString} {final : UInt16}
    (h : VirtualTerminal.csiMode parametersText final 0x4a = some 1) :
    t.consumeCsi parametersText final = t.eraseDisplay 1 := by
  rw [VirtualTerminal.csiMode] at h
  split at h
  · rename_i hfinal
    obtain ⟨hhead, rfl⟩ := hfinal
    have hfirst := Option.some.inj h
    simp only [VirtualTerminal.csiParameters] at hfirst
    simp only [VirtualTerminal.consumeCsi, hhead, decide_false, Bool.false_eq_true, if_false, hfirst]
    simp
  · cases h

/-- A write that returns has only erased the rows up to the cursor within the grid. -/
theorem call_returned_keeps (h : t.Shaped) {event : TerminalEvent} {u : VirtualTerminal}
    (hcall : t.call platform limits event = .returned u) : KeepsRows platform limits t event := by
  cases event with
  | write data =>
    intro hsize
    rw [VirtualTerminal.call, VirtualTerminal.write, if_neg (Nat.not_lt.mpr hsize)] at hcall
    simp only at hcall
    cases hactions : Attempt.each (VirtualTerminal.perform platform)
        (t.writeScan platform limits data).actions (t.beginWrite data) with
    | threw v =>
      rw [hactions] at hcall
      cases hcall
    | returned v =>
      refine Attempt.meets_of_each_returned (P := VirtualTerminal.Shaped) ?_ ?_ ?_ hactions
      · intro s action hs hnot w heq
        cases action with
        | csi =>
          rw [VirtualTerminal.ErasesWithin, Classical.not_imp, Nat.not_lt] at hnot
          rw [VirtualTerminal.perform, consumeCsi_eraseAbove hnot.1] at heq
          exact eraseDisplay_threw hs hnot.2 w heq
        | _ => exact hnot trivial
      · intro s action w hs hok heq
        have hmarks : Attempt.Always (s.Marks (VirtualTerminal.Fits platform s action))
            (s.perform platform action) := VirtualTerminal.perform_marks hs hok
        rw [heq] at hmarks
        exact VirtualTerminal.Marks.shaped hmarks hs
      · have hstart : t.Marks False (t.beginWrite data) := VirtualTerminal.Marks.of_screen rfl
        exact hstart.shaped h
  | _ => trivial

theorem synced_step {w w' : Watched} {event : TerminalEvent} (h : Synced w)
    (hkeeps : KeepsRows platform limits w.terminal event)
    (hstep : w.step platform limits event = some w') : Synced w' := by
  cases event with
  | takeFrame =>
    rw [Watched.step] at hstep
    split at hstep
    · cases hstep
      exact h
    rename_i frame u htake
    cases hstep
    obtain ⟨hsequence, happly⟩ := h.takeFrame htake
    obtain ⟨-, rfl⟩ := takeFrame_eq htake
    refine ⟨⟨h.shaped.columns_pos, h.shaped.rows_pos, h.shaped.length, h.shaped.width⟩, ?_,
      fun _ _ => ⟨_, happly, ?_⟩⟩
    · simp only [hsequence, h.sequences, range'_concat, Nat.one_mul, Nat.add_comm]
    refine ⟨fun r hr => absurd hr not_mem_nil, by simp, fun r hr _ => ?_⟩
    rw [List.getElem?_map, List.getElem?_range hr]
    rfl
  | resize columns rows =>
    cases hstep
    exact h.resize columns rows
  | _ =>
    cases hstep
    apply h.marks (call_marks h.shaped hkeeps _ _)
    · intro columns rows heq
      cases heq
    · intro force heq
      cases heq

theorem synced_start {columns rows : Nat}
    (hconstruct : VirtualTerminal.construct limits columns rows = some t) :
    Synced (.start t) := by
  obtain ⟨hshaped, -, -, -, hsequence, hpublished, -, -⟩ := VirtualTerminal.construct_eq hconstruct
  refine ⟨hshaped, ?_, fun hshown => ?_⟩
  · rw [Watched.start, hsequence]
    rfl
  · rw [Watched.start, hpublished] at hshown
    cases hshown

/-- **Frames lose nothing.**  In every run that only erases the rows up to the cursor while the
cursor is within the grid, frames are numbered one after the other, and after each frame the viewer
has what a full frame would show. -/
theorem frames_lossless {columns rows : Nat} {events : List TerminalEvent} {w : Watched}
    (hconstruct : VirtualTerminal.construct limits columns rows = some t)
    (hkeeps : Meets (Watched.step platform limits)
      (fun w event => KeepsRows platform limits w.terminal event) (.start t) events)
    (hrun : run (Watched.step platform limits) (.start t) events = some w) :
    w.Lossless platform limits := by
  have hsynced := run_invariant_of_meets (fun s event s' hs hok hstep => synced_step hs hok hstep)
    (synced_start hconstruct) hkeeps hrun
  refine ⟨?_, fun force w' hstep hnew => ?_⟩
  · rw [hsynced.sequences, length_range']
  rw [Watched.step] at hstep
  split at hstep
  · cases hstep
    exact absurd rfl hnew
  rename_i frame u htake
  cases hstep
  obtain ⟨-, happly⟩ := hsynced.takeFrame htake
  obtain ⟨-, rfl⟩ := takeFrame_eq htake
  obtain ⟨full, hfull, hshows⟩ := frameOf_full (t := { w.terminal with
      frameSequence := frame.sequence
      published := true
      dimensionsChanged := false
      dirtyRows := [] })
    ⟨hsynced.shaped.columns_pos, hsynced.shaped.rows_pos, hsynced.shaped.length, hsynced.shaped.width⟩
  rw [Watched.Exact, hfull, happly, ← hshows]
  rfl

end

/-- Every unit is a grapheme of one column. -/
def plainPlatform : TerminalPlatform where
  segment value := value.map fun u => [u]
  visibleWidth _ := 1
  safeProtocol _ := false

/-- `a`, a line feed and the erasure of the rows up to the cursor, then `b` and a resize, with
frames between. -/
def framedEvents : List TerminalEvent :=
  [.write (text "a\r\n" ++ [ESC] ++ text "[1J"), .takeFrame false, .write (text "b"), .takeFrame false,
    .resize 3 3, .takeFrame false]

theorem frames_lossless_framed :
    ∃ t w, VirtualTerminal.construct DEFAULT_VIRTUAL_TERMINAL_LIMITS 4 2 = some t ∧
      run (Watched.step plainPlatform DEFAULT_VIRTUAL_TERMINAL_LIMITS) (.start t) framedEvents =
        some w ∧
      w.Lossless plainPlatform DEFAULT_VIRTUAL_TERMINAL_LIMITS := by
  obtain ⟨t, hconstruct, hmeets, hsome⟩ :
      ∃ t, VirtualTerminal.construct DEFAULT_VIRTUAL_TERMINAL_LIMITS 4 2 = some t ∧
        Meets (Watched.step plainPlatform DEFAULT_VIRTUAL_TERMINAL_LIMITS)
          (fun w event => KeepsRows plainPlatform DEFAULT_VIRTUAL_TERMINAL_LIMITS w.terminal event)
          (.start t) framedEvents ∧
        (run (Watched.step plainPlatform DEFAULT_VIRTUAL_TERMINAL_LIMITS) (.start t)
          framedEvents).isSome = true := by
    decide +kernel
  obtain ⟨w, hw⟩ := Option.isSome_iff_exists.mp hsome
  exact ⟨t, w, hconstruct, hw, frames_lossless hconstruct hmeets hw⟩

/-! ## A row that is not marked -/

/-- `ESC 7` on the third line, and `ESC 8` and `ESC [ 1 J` when there are two. -/
def shrunkEvents : List TerminalEvent :=
  [.write (text "a\r\n\n" ++ [ESC] ++ text "7"), .takeFrame false, .resize 4 2, .takeFrame false,
    .write ([ESC] ++ text "8" ++ [ESC] ++ text "[1J")]

theorem frame_loses_rows :
    ∃ t w, VirtualTerminal.construct DEFAULT_VIRTUAL_TERMINAL_LIMITS 4 3 = some t ∧
      run (Watched.step plainPlatform DEFAULT_VIRTUAL_TERMINAL_LIMITS) (.start t) shrunkEvents =
        some w ∧
      ¬w.Lossless plainPlatform DEFAULT_VIRTUAL_TERMINAL_LIMITS := by
  obtain ⟨t, hconstruct, w, hevents, w', hstep, hnew, hstale⟩ :
      ∃ t, VirtualTerminal.construct DEFAULT_VIRTUAL_TERMINAL_LIMITS 4 3 = some t ∧
        ∃ w, run (Watched.step plainPlatform DEFAULT_VIRTUAL_TERMINAL_LIMITS) (.start t) shrunkEvents =
            some w ∧
          ∃ w', w.step plainPlatform DEFAULT_VIRTUAL_TERMINAL_LIMITS (.takeFrame false) = some w' ∧
            w'.sequences ≠ w.sequences ∧ ¬w'.Exact := by
    decide +kernel
  exact ⟨t, w, hconstruct, hevents, fun hlossless => hstale (hlossless.2 false w' hstep hnew)⟩

end PiDaemon.Terminal
