import PiDaemon.Viewing.FrameStore

/-!
# Screens

What a viewer shows: its dimensions, rows and title.  A snapshot is a screen, and a delta changes
one: its rows replace those they are listed for, rows of other dimensions go, and a title that is
absent leaves the title as it is.

A row that is not listed is a blank row.
-/

namespace PiDaemon.Viewing

open Lib Shadow

structure Screen where
  rows : Layer TuiDimensions Nat (List TuiStyledRun)
  title : Option JsString

namespace Screen

def ofSnapshot (snapshot : DashboardTuiSnapshot) : Screen :=
  ⟨rowLayer snapshot.dimensions snapshot.rows, snapshot.title⟩

def apply (screen : Screen) (delta : DashboardTuiDelta) : Screen :=
  ⟨Layer.cover within screen.rows (rowLayer delta.dimensions delta.changedRows),
    delta.title.or screen.title⟩

/-- What is shown on a row. -/
def line (screen : Screen) (r : Nat) : List TuiStyledRun := (screen.rows.get r).getD []

/-- Two screens show the same. -/
structure Same (first second : Screen) : Prop where
  dimensions : first.rows.shape = second.rows.shape
  line : ∀ r, first.line r = second.line r
  title : first.title = second.title

theorem Same.refl (screen : Screen) : Same screen screen := ⟨rfl, fun _ => rfl, rfl⟩

theorem line_apply (screen : Screen) (delta : DashboardTuiDelta) (r : Nat) :
    (screen.apply delta).line r =
      if r < delta.dimensions.rows then
        (lineOf delta.changedRows r).getD
          (if delta.dimensions = screen.rows.shape then screen.line r else [])
      else [] := by
  by_cases hr : r < delta.dimensions.rows
  · have hwithin : within (rowLayer delta.dimensions delta.changedRows).shape r = true := by
      simp [within, rowLayer, hr]
    rw [if_pos hr, line, apply, Layer.get_cover hwithin]
    cases hline : lineOf delta.changedRows r with
    | some runs => simp [rowLayer, hline]
    | none =>
      by_cases hsame : delta.dimensions = screen.rows.shape
      · simp [rowLayer, hline, hsame, line]
      · simp [rowLayer, hline, hsame]
  · simp [line, apply, Layer.cover, within, rowLayer, hr]

theorem Same.apply {first second : Screen} (h : Same first second) (delta : DashboardTuiDelta) :
    Same (first.apply delta) (second.apply delta) := by
  refine ⟨rfl, fun r => ?_, ?_⟩
  · rw [line_apply, line_apply, h.dimensions, h.line]
  · exact congrArg delta.title.or h.title

end Screen

end PiDaemon.Viewing
