import PiDaemon.Terminal.Escapes
import PiDaemon.Terminal.Frames

/-!
# Writes in parts

Only `write` itself reads how much has been written and the sequence that is pending: what is done
to the screen does not depend on them.  Hence a text may be written in two parts.
-/

namespace PiDaemon.Terminal

open Lib Attempt

namespace VirtualTerminal

/-- The counts of `write`, and the sequence that is pending. -/
def setInput (t : VirtualTerminal) (writes bytes : Nat) (pending : JsString) : VirtualTerminal :=
  { t with writeCount := writes, acceptedByteCount := bytes, pendingEscape := pending }

section
variable (t : VirtualTerminal) (writes bytes : Nat) (pending : JsString)

theorem markRow_setInput (row : Nat) :
    (t.setInput writes bytes pending).markRow row = (t.markRow row).setInput writes bytes pending := by
  simp only [markRow, apply_ite (setInput · writes bytes pending)]
  rfl

theorem markRows_setInput (rows : List Nat) :
    (t.setInput writes bytes pending).markRows rows = (t.markRows rows).setInput writes bytes pending := by
  induction rows generalizing t with
  | nil => rfl
  | cons row rows ih =>
    rw [markRows, List.foldl_cons, markRow_setInput]
    exact ih (t.markRow row)

theorem markAllDirty_setInput :
    (t.setInput writes bytes pending).markAllDirty = t.markAllDirty.setInput writes bytes pending :=
  markRows_setInput t writes bytes pending _

theorem scrollUp_setInput (count : Nat) :
    (t.setInput writes bytes pending).scrollUp count = (t.scrollUp count).setInput writes bytes pending := by
  simp only [scrollUp, apply_ite (setInput · writes bytes pending), ← markAllDirty_setInput]
  rfl

theorem scrollDown_setInput (count : Nat) :
    (t.setInput writes bytes pending).scrollDown count = (t.scrollDown count).setInput writes bytes pending := by
  simp only [scrollDown, apply_ite (setInput · writes bytes pending), ← markAllDirty_setInput]
  rfl

theorem lineFeed_setInput :
    (t.setInput writes bytes pending).lineFeed = t.lineFeed.setInput writes bytes pending := by
  simp only [lineFeed, apply_ite (setInput · writes bytes pending), ← scrollUp_setInput]
  rfl

theorem reverseIndex_setInput :
    (t.setInput writes bytes pending).reverseIndex = t.reverseIndex.setInput writes bytes pending := by
  simp only [reverseIndex, apply_ite (setInput · writes bytes pending), ← scrollDown_setInput]
  rfl

theorem eraseCellForWrite_setInput (row column : Nat) :
    (t.setInput writes bytes pending).eraseCellForWrite row column =
      (t.eraseCellForWrite row column).map (setInput · writes bytes pending) := by
  rw [eraseCellForWrite, eraseCellForWrite, show (t.setInput writes bytes pending).grid = t.grid from rfl]
  cases t.grid[row]? with
  | none => rfl
  | some cells =>
    dsimp only
    cases cells[column]? <;> rfl

theorem eraseCells_setInput (columns : List Nat) :
    (t.setInput writes bytes pending).eraseCells columns =
      (t.eraseCells columns).map (setInput · writes bytes pending) :=
  each_map (f := (setInput · writes bytes pending))
    (fun t column => eraseCellForWrite_setInput t writes bytes pending t.cursorRow column) columns t

theorem eraseLine_setInput (mode : Int) :
    (t.setInput writes bytes pending).eraseLine mode =
      (t.eraseLine mode).map (setInput · writes bytes pending) := by
  rw [eraseLine, eraseCells_setInput]
  refine andThen_map (fun s => ?_) _
  rw [markRow_setInput]
  rfl

theorem eraseDisplay_setInput (mode : Int) :
    (t.setInput writes bytes pending).eraseDisplay mode =
      (t.eraseDisplay mode).map (setInput · writes bytes pending) := by
  have hredrawn (s : VirtualTerminal) (columns : List Nat) (redraw : VirtualTerminal → VirtualTerminal)
      (hredraw : ∀ s, redraw (s.setInput writes bytes pending) = (redraw s).setInput writes bytes pending) :
      ((s.setInput writes bytes pending).eraseCells columns).andThen (fun t => .returned (redraw t)) =
        ((s.eraseCells columns).andThen fun t => .returned (redraw t)).map (setInput · writes bytes pending) := by
    rw [eraseCells_setInput]
    exact andThen_map (fun s => by rw [hredraw]; rfl) _
  refine ite_map rfl (ite_map ?_ (ite_map ?_ (ite_map ?_ rfl)))
  · rw [Attempt.map, ← markAllDirty_setInput]
    rfl
  · refine hredrawn t _ _ fun s => ?_
    rw [← markRows_setInput]
    rfl
  · refine hredrawn { t with grid := blankRows t.cursorRow t.columns ++ t.grid.drop t.cursorRow } _ _ fun s => ?_
    rw [← markRows_setInput]
    rfl

theorem reset_setInput :
    (t.setInput writes bytes pending).reset = t.reset.map (setInput · writes bytes pending) := by
  rw [reset, reset, ← eraseDisplay_setInput]
  rfl

theorem appendGrapheme_setInput (grapheme : JsString) :
    (t.setInput writes bytes pending).appendGrapheme grapheme =
      (t.appendGrapheme grapheme).map (setInput · writes bytes pending) := by
  simp only [appendGrapheme, apply_ite (Attempt.map (setInput · writes bytes pending))]
  congr 1
  rw [show (t.setInput writes bytes pending).grid = t.grid from rfl,
    show (t.setInput writes bytes pending).cursorRow = t.cursorRow from rfl]
  cases t.grid[t.cursorRow]? with
  | none => rfl
  | some cells =>
    dsimp only
    rw [show (t.setInput writes bytes pending).cursorColumn = t.cursorColumn from rfl,
      show (t.setInput writes bytes pending).columns = t.columns from rfl]
    cases cells[min (t.columns - 1) (t.cursorColumn - 1)]? with
    | none => rfl
    | some =>
      rw [Attempt.map, ← markRow_setInput]
      rfl

theorem wrapFor_setInput (width : CellWidth) :
    (t.setInput writes bytes pending).wrapFor width = (t.wrapFor width).setInput writes bytes pending := by
  simp only [wrapFor, apply_ite (setInput · writes bytes pending), ← lineFeed_setInput]
  rfl

theorem placeCell_setInput (grapheme : JsString) (width : CellWidth) :
    (t.setInput writes bytes pending).placeCell grapheme width =
      (t.placeCell grapheme width).map (setInput · writes bytes pending) := by
  have herase := eraseCellForWrite_setInput t writes bytes pending t.cursorRow t.cursorColumn
  refine (congrArg (Attempt.andThen · _) herase).trans (andThen_map (fun s => ?_) _)
  let placed := s.setCell s.cursorRow s.cursorColumn ⟨grapheme, width, false, s.currentStyle⟩
  refine Eq.trans (congrArg (Attempt.andThen · _) ?_) (andThen_map (fun s => ?_) _)
  · refine ite_map ?_ rfl
    have hnext := eraseCellForWrite_setInput placed writes bytes pending placed.cursorRow (placed.cursorColumn + 1)
    exact (congrArg (Attempt.andThen · _) hnext).trans (andThen_map (fun s => rfl) _)
  · have hmark := markRow_setInput s writes bytes pending s.cursorRow
    exact congrArg (fun u : VirtualTerminal =>
      Attempt.returned { u with cursorColumn := s.cursorColumn + width.columns }) hmark

theorem writeGrapheme_setInput (width : Nat) (grapheme : JsString) :
    (t.setInput writes bytes pending).writeGrapheme width grapheme =
      (t.writeGrapheme width grapheme).map (setInput · writes bytes pending) := by
  simp only [writeGrapheme, apply_ite (Attempt.map (setInput · writes bytes pending)), ← appendGrapheme_setInput,
    ← placeCell_setInput, ← wrapFor_setInput]

theorem consumeControl_setInput (character : UInt16) :
    (t.setInput writes bytes pending).consumeControl character =
      (t.consumeControl character).setInput writes bytes pending := by
  simp only [consumeControl, apply_ite (setInput · writes bytes pending), ← lineFeed_setInput]
  rfl

theorem consumeOsc_setInput (platform : TerminalPlatform) (payload : JsString) :
    (t.setInput writes bytes pending).consumeOsc platform payload =
      (t.consumeOsc platform payload).setInput writes bytes pending := by
  simp only [consumeOsc, apply_ite (setInput · writes bytes pending)]
  rfl

theorem restoreCursor_setInput :
    (t.setInput writes bytes pending).restoreCursor = t.restoreCursor.setInput writes bytes pending := by
  rw [restoreCursor, restoreCursor, show (t.setInput writes bytes pending).savedCursor = t.savedCursor from rfl]
  cases t.savedCursor <;> rfl

theorem consumeCsi_setInput (parametersText : JsString) (final : UInt16) :
    (t.setInput writes bytes pending).consumeCsi parametersText final =
      (t.consumeCsi parametersText final).map (setInput · writes bytes pending) := by
  unfold consumeCsi
  extract_lets privatePrefix body parameters first distance
  refine ite_map (ite_map (ite_map rfl (ite_map rfl rfl)) rfl) ?_
  -- The moves of the cursor.
  refine ite_map rfl ?_
  refine ite_map rfl ?_
  refine ite_map rfl ?_
  refine ite_map rfl ?_
  refine ite_map rfl ?_
  refine ite_map rfl ?_
  refine ite_map rfl ?_
  refine ite_map rfl ?_
  refine ite_map rfl ?_
  refine ite_map (eraseDisplay_setInput t writes bytes pending first) ?_
  refine ite_map (eraseLine_setInput t writes bytes pending first) ?_
  refine ite_map rfl ?_
  refine ite_map rfl ?_
  refine ite_map (congrArg Attempt.returned (restoreCursor_setInput t writes bytes pending)) ?_
  refine ite_map (congrArg Attempt.returned (scrollUp_setInput t writes bytes pending distance)) ?_
  exact ite_map (congrArg Attempt.returned (scrollDown_setInput t writes bytes pending distance)) rfl

theorem consumeIntroducer_setInput (introducer : UInt16) :
    (t.setInput writes bytes pending).consumeIntroducer introducer =
      (t.consumeIntroducer introducer).map (setInput · writes bytes pending) := by
  refine ite_map rfl ?_
  refine ite_map (congrArg Attempt.returned (restoreCursor_setInput t writes bytes pending)) ?_
  refine ite_map (congrArg Attempt.returned (lineFeed_setInput t writes bytes pending)) ?_
  refine ite_map ?_ ?_
  · rw [Attempt.map, ← lineFeed_setInput]
    rfl
  refine ite_map (congrArg Attempt.returned (reverseIndex_setInput t writes bytes pending)) ?_
  exact ite_map (reset_setInput t writes bytes pending) rfl

theorem perform_setInput (platform : TerminalPlatform) (action : TerminalAction) :
    (t.setInput writes bytes pending).perform platform action =
      (t.perform platform action).map (setInput · writes bytes pending) := by
  cases action with
  | grapheme segment => exact writeGrapheme_setInput t writes bytes pending _ segment
  | control character => exact congrArg Attempt.returned (consumeControl_setInput t writes bytes pending character)
  | csi parameters final => exact consumeCsi_setInput t writes bytes pending parameters final
  | osc payload => exact congrArg Attempt.returned (consumeOsc_setInput t writes bytes pending platform payload)
  | kittyGraphics => rfl
  | deviceControl => rfl
  | introducer character => exact consumeIntroducer_setInput t writes bytes pending character

theorem clearScreen_setInput :
    (t.setInput writes bytes pending).clearScreen = t.clearScreen.map (setInput · writes bytes pending) := by
  rw [clearScreen, eraseDisplay_setInput]
  exact andThen_map (fun s => rfl) _

end

/-! ## What is pending -/

variable (platform : TerminalPlatform) {limits : VirtualTerminalLimits} {t : VirtualTerminal}

/-- A call that does not depend on the input keeps what is pending. -/
theorem pending_of_setInput {f : VirtualTerminal → Attempt VirtualTerminal}
    (h : ∀ writes bytes pending, f (t.setInput writes bytes pending) = (f t).map (setInput · writes bytes pending)) :
    (f t).state.pendingEscape = t.pendingEscape := by
  have hself := h t.writeCount t.acceptedByteCount t.pendingEscape
  rw [show t.setInput t.writeCount t.acceptedByteCount t.pendingEscape = t from rfl] at hself
  rw [hself]
  cases f t <;> rfl

theorem perform_pending (t : VirtualTerminal) (action : TerminalAction) :
    (t.perform platform action).state.pendingEscape = t.pendingEscape :=
  pending_of_setInput (f := fun t => t.perform platform action)
    fun writes bytes pending => perform_setInput t writes bytes pending platform action

theorem markAllDirty_pending (t : VirtualTerminal) : t.markAllDirty.pendingEscape = t.pendingEscape :=
  pending_of_setInput (f := fun t => .returned t.markAllDirty)
    fun writes bytes pending => congrArg Attempt.returned (markAllDirty_setInput t writes bytes pending)

/-- What is pending is a sequence that is not complete. -/
def Waits (t : VirtualTerminal) : Prop := readItem t.pendingEscape = none

theorem construct_waits {columns rows : Nat} (h : construct limits columns rows = some t) : Waits t := by
  rw [construct] at h
  split at h
  · cases h
    exact (congrArg readItem (markAllDirty_pending _)).trans rfl
  · cases h

theorem write_waits (limits : VirtualTerminalLimits) (h : Waits t) (data : JsString) :
    Waits (t.write platform limits data).state := by
  rw [write]
  split
  · exact h
  extract_lets scan
  have hacts : Attempt.Always (fun u => u.pendingEscape = [])
      (Attempt.each (perform platform) scan.actions (t.beginWrite data)) := by
    refine Attempt.Always.each (fun u hu action => ?_) _ rfl
    exact (perform_pending platform u action).trans hu
  generalize Attempt.each (perform platform) scan.actions (t.beginWrite data) = x at hacts
  cases x with
  | threw => exact (congrArg readItem hacts).trans rfl
  | returned =>
    split
    · exact (congrArg readItem hacts).trans rfl
    · exact scanText_pending platform limits _ _

theorem resize_pending {t u : VirtualTerminal} {columns rows : Nat} (h : t.resize limits columns rows = some u) :
    u.pendingEscape = t.pendingEscape := by
  rw [resize] at h
  split at h
  · split at h <;> cases h
    · rfl
    · exact markAllDirty_pending _
  · cases h

theorem call_waits (limits : VirtualTerminalLimits) (h : Waits t) (event : TerminalEvent) :
    Waits (t.call platform limits event).state := by
  cases event with
  | write data => exact write_waits platform limits h data
  | resize =>
    rw [call]
    split
    · exact h
    · rename_i u hresize
      exact (congrArg readItem (resize_pending hresize)).trans h
  | clearLine =>
    have hkept := pending_of_setInput (t := t) (f := clearLine) fun writes bytes pending =>
      eraseLine_setInput t writes bytes pending 0
    exact (congrArg readItem hkept).trans h
  | clearFromCursor =>
    have hkept := pending_of_setInput (t := t) (f := clearFromCursor) fun writes bytes pending =>
      eraseDisplay_setInput t writes bytes pending 0
    exact (congrArg readItem hkept).trans h
  | clearScreen =>
    have hkept := pending_of_setInput (t := t) (f := clearScreen) fun writes bytes pending =>
      clearScreen_setInput t writes bytes pending
    exact (congrArg readItem hkept).trans h
  | takeFrame =>
    simp only [call]
    split
    · exact h
    rename_i frame taken htake
    rw [takeFrame] at htake
    split at htake
    · cases htake
    obtain ⟨frame, -, hframe⟩ := Option.bind_eq_some_iff.mp htake
    split at hframe <;> cases hframe
    exact h
  | moveBy | hideCursor | showCursor | setTitle | setProgress => exact h

/-! ## Parts -/

/-- Everything but how many writes and bytes there were. -/
def uncounted (t : VirtualTerminal) : VirtualTerminal := t.setInput 0 0 t.pendingEscape

theorem write_eq {platform : TerminalPlatform} {data left : JsString} {actions : List TerminalAction}
    (hfits : byteLength data ≤ limits.maxWriteBytes)
    (hscan : scanText platform limits (t.pendingEscape ++ data).length (t.pendingEscape ++ data) =
      ⟨actions, left, false⟩) :
    t.write platform limits data =
      (Attempt.each (perform platform) actions (t.beginWrite data)).andThen fun t =>
        .returned { t with pendingEscape := left } := by
  rw [write, if_neg (Nat.not_lt.mpr hfits)]
  simp only [writeScan, hscan]
  rfl

theorem each_setInput (actions : List TerminalAction) (t : VirtualTerminal) (writes bytes : Nat) (pending : JsString) :
    Attempt.each (perform platform) actions (t.setInput writes bytes pending) =
      (Attempt.each (perform platform) actions t).map (setInput · writes bytes pending) :=
  each_map (f := (setInput · writes bytes pending))
    (fun t action => perform_setInput t writes bytes pending platform action) actions t

theorem writes_eq {platform : TerminalPlatform} {a b q left : JsString} {first second : List TerminalAction}
    (hfits : byteLength a ≤ limits.maxWriteBytes ∧ byteLength b ≤ limits.maxWriteBytes ∧
      byteLength (a ++ b) ≤ limits.maxWriteBytes)
    (ha : scanText platform limits (t.pendingEscape ++ a).length (t.pendingEscape ++ a) = ⟨first, q, false⟩)
    (hb : scanText platform limits (q ++ b).length (q ++ b) = ⟨second, left, false⟩)
    (hab : scanText platform limits (t.pendingEscape ++ (a ++ b)).length (t.pendingEscape ++ (a ++ b)) =
      ⟨first ++ second, left, false⟩) :
    ((t.write platform limits a).andThen fun t => t.write platform limits b).map uncounted =
      (t.write platform limits (a ++ b)).map uncounted := by
  have hbegin (data : JsString) :
      t.beginWrite data = t.setInput (t.writeCount + 1) (t.acceptedByteCount + byteLength data) [] := rfl
  rw [write_eq hfits.1 ha, write_eq hfits.2.2 hab, each_append, hbegin, hbegin, each_setInput, each_setInput]
  cases Attempt.each (perform platform) first t with
  | threw => rfl
  | returned u =>
    have hsecond : ({ u.setInput (t.writeCount + 1) (t.acceptedByteCount + byteLength a) [] with
        pendingEscape := q } : VirtualTerminal).write platform limits b =
          (Attempt.each (perform platform) second (u.setInput (t.writeCount + 1 + 1)
            (t.acceptedByteCount + byteLength a + byteLength b) [])).andThen fun t =>
              .returned { t with pendingEscape := left } :=
      write_eq hfits.2.1 hb
    simp only [Attempt.map, Attempt.andThen] at hsecond ⊢
    rw [hsecond, each_setInput, each_setInput]
    cases Attempt.each (perform platform) second u <;> rfl

end VirtualTerminal

section
variable {platform : TerminalPlatform} {limits : VirtualTerminalLimits}

/-- **Writes in parts.**  A text that a write takes, with no escape sequence that is too long, may be
written in two parts, in every state that is reached. -/
theorem write_parts (hsegments : platform.SegmentsAscii) {columns rows : Nat} {s t : VirtualTerminal}
    {events : List TerminalEvent} (hconstruct : VirtualTerminal.construct limits columns rows = some s)
    (hrun : run (terminalStep platform limits) s events = some t) {a b : JsString} (hascii : Ascii (a ++ b))
    (hescapes : ∀ sequence ∈ escapesOf (t.pendingEscape ++ (a ++ b)), byteLength sequence ≤ limits.maxEscapeBytes)
    (hfits : byteLength (a ++ b) ≤ limits.maxWriteBytes) :
    ((t.write platform limits a).andThen fun t => t.write platform limits b).map VirtualTerminal.uncounted =
      (t.write platform limits (a ++ b)).map VirtualTerminal.uncounted := by
  have hwaits : t.Waits := by
    refine run_invariant (fun u event v hu hstep => ?_) (VirtualTerminal.construct_waits hconstruct) hrun
    cases hstep
    exact VirtualTerminal.call_waits platform limits hu event
  obtain ⟨_, _, _, _, ha, hb, hab⟩ := scanText_parts hsegments hwaits hascii hescapes
  have hlength := byteLength_append a b (Ascii.startsLow fun u hu => hascii u (List.mem_append_right _ hu))
  exact VirtualTerminal.writes_eq ⟨by omega, by omega, hfits⟩ (ha _ (le_refl _)) (hb _ (le_refl _))
    (hab _ (le_refl _))

end

/-- Every unit is a grapheme of one column. -/
def narrowPlatform : TerminalPlatform where
  segment value := value.map fun u => [u]
  visibleWidth _ := 1
  safeProtocol _ := false

/-- A color and a title, cut in their terminators. -/
theorem write_parts_cut :
    ∃ s t, VirtualTerminal.construct DEFAULT_VIRTUAL_TERMINAL_LIMITS 5 3 = some s ∧
      run (terminalStep narrowPlatform DEFAULT_VIRTUAL_TERMINAL_LIMITS) s [.write ([ESC] ++ text "[3")] = some t ∧
      ((t.write narrowPlatform DEFAULT_VIRTUAL_TERMINAL_LIMITS (text "1ma" ++ [ESC] ++ text "]0;b" ++ [ESC])).andThen
          fun t => t.write narrowPlatform DEFAULT_VIRTUAL_TERMINAL_LIMITS (text "\\c")).map
            VirtualTerminal.uncounted =
        (t.write narrowPlatform DEFAULT_VIRTUAL_TERMINAL_LIMITS
          (text "1ma" ++ [ESC] ++ text "]0;b" ++ [ESC] ++ text "\\c")).map VirtualTerminal.uncounted := by
  obtain ⟨s, hconstruct, t, ht, hescapes⟩ :
      ∃ s, VirtualTerminal.construct DEFAULT_VIRTUAL_TERMINAL_LIMITS 5 3 = some s ∧
        ∃ t, run (terminalStep narrowPlatform DEFAULT_VIRTUAL_TERMINAL_LIMITS) s
            [.write ([ESC] ++ text "[3")] = some t ∧
          ∀ sequence ∈ escapesOf (t.pendingEscape ++ ((text "1ma" ++ [ESC] ++ text "]0;b" ++ [ESC]) ++
            text "\\c")), byteLength sequence ≤ 64 * 1024 := by
    decide +kernel
  exact ⟨s, t, hconstruct, ht,
    write_parts (fun _ _ => rfl) hconstruct ht (by decide +kernel) hescapes (by decide +kernel)⟩

/-- One byte a write. -/
def tightLimits : VirtualTerminalLimits := { DEFAULT_VIRTUAL_TERMINAL_LIMITS with maxWriteBytes := 1 }

/-- A text that is longer than a write may be is written in two parts. -/
theorem write_refused :
    ∃ t, VirtualTerminal.construct tightLimits 2 1 = some t ∧
      (∀ sequence ∈ escapesOf (t.pendingEscape ++ (text "a" ++ text "b")), byteLength sequence ≤ 64 * 1024) ∧
      ((t.write narrowPlatform tightLimits (text "a")).andThen
          fun t => t.write narrowPlatform tightLimits
            (text "b")).state.grid ≠
        (t.write narrowPlatform tightLimits
          (text "a" ++ text "b")).state.grid := by
  decide +kernel

end PiDaemon.Terminal
