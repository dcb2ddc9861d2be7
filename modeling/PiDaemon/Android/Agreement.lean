import PiDaemon.Android.FrameReducer
import PiDaemon.Viewing.Rows

/-!
# The two terminal viewers

The viewer of the browser and the one of the Android client, on the same frames.  A row of the
client is compared as the browser would show it: texts sanitized, runs without text dropped,
neighbouring runs of one style joined, and the letters of colors in lower case.

* `ViewersAgree`: both hold the same dimensions, cursor, title and rows;
* `viewers_agree`: they do after every delta that both take, in every run whose colors are plain, in
  which a delta leaves out neither a title that is shown nor, for new dimensions, a row that is;
* `viewers_differ`: a run for each of the three.
-/

namespace PiDaemon.Android

open Lib Streams Shadow Viewing List Option

/-! ## What is compared -/

/-- The style of a run of the client, as one of the browser. -/
def shownStyle (style : TuiStyle) : Option TuiStyle :=
  let lowered := { style with
    foreground := style.foreground.map toLowerCase
    background := style.background.map toLowerCase }
  if lowered = .empty then none else some lowered

def shownRun (run : TuiStyledRunModel) : TuiStyledRun := ⟨sanitizeText run.text, shownStyle run.style⟩

/-- The runs of the client for a row. -/
def heldRuns (state : TuiFrameState) (r : Nat) : List TuiStyledRunModel :=
  ((state.rows[r]?).map TuiRowModel.runs).getD []

/-- A row of the client, as the browser would show it. -/
def shownRow (state : TuiFrameState) (r : Nat) : List TuiStyledRun :=
  joinRuns ((heldRuns state r).map shownRun)

structure Viewers where
  web : TuiFrameStoreState
  android : TuiFrameState

/-- The viewers of a snapshot that both take. -/
def Viewers.create (isWhitespace : UInt16 → Bool) (snapshot : DashboardTuiSnapshot)
    (role : DashboardControllerRole) (control : TuiControlRole) : Option Viewers :=
  (createTuiFrameStore snapshot role).toOption.bind fun web =>
    (decodeSnapshot isWhitespace snapshot control).toOption.map fun android => ⟨web, android⟩

structure ViewersAgree (v : Viewers) : Prop where
  dimensions : v.android.dimensions = v.web.dimensions
  cursorRow : v.android.cursor.row = v.web.cursor.row
  cursorColumn : v.android.cursor.column = v.web.cursor.column
  cursorVisible : v.android.cursor.visible = v.web.cursor.visible
  title : v.android.title.map sanitizeTitle = v.web.title
  rows : ∀ r < v.web.dimensions.rows, shownRow v.android r = (lineOf v.web.rows r).getD []

section
variable (isWhitespace : UInt16 → Bool)

/-- A delta that both take, or that both have taken. -/
def Viewers.step (v : Viewers) (delta : DashboardTuiDelta) : Option Viewers :=
  (decodeDelta isWhitespace delta).toOption.bind fun model =>
    (applyDelta isWhitespace v.android model).toOption.bind fun android =>
      let web := Viewing.applyDelta v.web delta
      if android.phase = .live ∧ web.status = .ready then some ⟨web, android⟩ else none

/-- A color that the browser shows. -/
def isPlain (color : Option JsString) : Bool := color.all fun c => safeColor (toLowerCase c)

/-- The colors of the runs that have a text. -/
def PlainColors (rows : List TuiRow) : Prop :=
  ∀ row ∈ rows, ∀ run ∈ row.runs, (sanitizeText run.text).length ≠ 0 →
    ∀ style ∈ run.style, isPlain style.foreground = true ∧ isPlain style.background = true

instance (rows : List TuiRow) : Decidable (PlainColors rows) :=
  inferInstanceAs (Decidable (∀ row ∈ rows, ∀ run ∈ row.runs, _))

/-- A delta that has been taken, or one with plain colors that leaves out no title that the browser
shows and, for new dimensions, no row within them in which the client shows a text. -/
def Complete (v : Viewers) (delta : DashboardTuiDelta) : Prop :=
  delta.sequence ≤ v.web.sequence ∨
    PlainColors delta.changedRows ∧ (delta.title.isSome = true ∨ v.web.title = none) ∧
      (delta.dimensions = v.web.dimensions ∨
        ∀ r < delta.dimensions.rows, r ∈ delta.changedRows.map TuiRow.row ∨ shownRow v.android r = [])

instance (v : Viewers) (delta : DashboardTuiDelta) : Decidable (Complete v delta) :=
  inferInstanceAs (Decidable (_ ∨ _))

end

/-! ## Runs -/

section
variable {A : Type} {first second : A → TuiStyledRun}

theorem joinRuns_map_congr {raw : List A}
    (h : ∀ a ∈ raw, (first a).text = (second a).text ∧ ((first a).text.length ≠ 0 → first a = second a)) :
    joinRuns (raw.map first) = joinRuns (raw.map second) := by
  induction raw using List.reverseRecOn with
  | nil => rfl
  | append_singleton raw a ih =>
    have hrest := ih fun b hb => h b (mem_append_left _ hb)
    obtain ⟨htext, hsame⟩ := h a (mem_append_right _ (mem_singleton_self a))
    rw [map_append, map_append, map_singleton, map_singleton, joinRuns_concat,
      joinRuns_concat, hrest]
    by_cases hempty : (first a).text.length = 0
    · rw [joinRun, joinRun, if_pos hempty, if_pos (by rw [← htext]; exact hempty)]
    · rw [hsame hempty]

end

theorem normalizeColor_plain {color : Option JsString} (h : isPlain color = true) :
    normalizeColor color = color.map toLowerCase := by
  cases color with
  | none => rfl
  | some c =>
    have hsafe : safeColor (toLowerCase c) = true := h
    simp [normalizeColor, hsafe]

theorem normalizeStyle_plain {style : Option TuiStyle}
    (h : ∀ s ∈ style, isPlain s.foreground = true ∧ isPlain s.background = true) :
    normalizeStyle style = shownStyle (style.getD .empty) := by
  cases style with
  | none => rfl
  | some style =>
    obtain ⟨hforeground, hbackground⟩ := h style rfl
    simp only [normalizeStyle, shownStyle, bind_some, getD_some,
      normalizeColor_plain hforeground, normalizeColor_plain hbackground]

/-- The run that the client makes of one. -/
def toModel (run : TuiStyledRun) : TuiStyledRunModel := ⟨run.text, run.style.getD .empty⟩

theorem decodeRun_eq_ok {run : TuiStyledRun} {model : TuiStyledRunModel} (h : decodeRun run = .ok model) :
    model = toModel run := by
  simp only [decodeRun, requiredBoundedString, optionalColor, optionalBoundedString, bind_ok, check_ok] at h
  obtain ⟨_, ⟨_, -, ht⟩, _, -, _, ⟨_, ⟨_, -, hf⟩, _, -, hforeground⟩, _,
    ⟨_, ⟨_, -, hb⟩, _, -, hbackground⟩, hmodel⟩ := h
  cases ht
  cases hf
  cases hforeground
  cases hb
  cases hbackground
  cases hmodel
  cases hstyle : run.style <;> simp [toModel, hstyle, TuiStyle.empty]

/-- The row that the client makes of one. -/
def toRow (row : TuiRow) : TuiRowModel := ⟨row.row, row.runs.map toModel⟩

variable {isWhitespace : UInt16 → Bool} {state : TuiFrameState} {rows : List TuiRow}
  {snapshot : DashboardTuiSnapshot} {dimensions : TuiDimensions} {runs : List TuiStyledRun}
  {delta : DashboardTuiDelta} {r : Nat}

theorem mapM_decodeRun {models : List TuiStyledRunModel} (h : runs.mapM decodeRun = .ok models) :
    models = runs.map toModel := by
  induction runs generalizing models with
  | nil =>
    cases h
    rfl
  | cons run runs ih =>
    rw [mapM_cons, bind_ok] at h
    obtain ⟨_, hmodel, h⟩ := h
    rw [bind_ok] at h
    obtain ⟨_, hrest, h⟩ := h
    cases h
    rw [decodeRun_eq_ok hmodel, ih hrest, map_cons]

/-! ## Rows -/

/-- A loop that appends what it makes of each item, and refuses one whose key it has had. -/
theorem foldlM_append_eq_ok {E A B K : Type} {step : List B → A → Except E (List B)} {f : A → B} {key : B → K}
    (hstep : ∀ acc a out, step acc a = .ok out → out = acc ++ [f a] ∧ key (f a) ∉ acc.map key)
    {items : List A} {acc out : List B} (hnodup : (acc.map key).Nodup)
    (h : items.foldlM step acc = .ok out) : out = acc ++ items.map f ∧ (out.map key).Nodup := by
  induction items generalizing acc with
  | nil =>
    cases h
    exact ⟨(append_nil _).symm, hnodup⟩
  | cons a items ih =>
    rw [foldlM_cons, bind_ok] at h
    obtain ⟨next, hnext, h⟩ := h
    obtain ⟨rfl, hnew⟩ := hstep acc a next hnext
    have hadded : ((acc ++ [f a]).map key).Nodup := by
      rw [map_append, nodup_append]
      refine ⟨hnodup, nodup_singleton _, fun k hk other hother heq => hnew ?_⟩
      rw [map_singleton, mem_singleton] at hother
      rw [← hother, ← heq]
      exact hk
    obtain ⟨hout, hdistinct⟩ := ih hadded h
    refine ⟨?_, hdistinct⟩
    rw [hout, append_assoc]
    rfl

theorem addRow_eq_ok {rows out : List TuiRowModel} {row : TuiRow} (h : addRow dimensions rows row = .ok out) :
    out = rows ++ [toRow row] ∧ (toRow row).row ∉ rows.map TuiRowModel.row := by
  simp only [addRow, requiredNonNegativeInt, decodeRow, bind_ok, check_ok, Bool.and_eq_true,
    Bool.not_eq_true', decide_eq_false_iff_not] at h
  obtain ⟨_, ⟨_, -, hindex⟩, _, ⟨-, hnew⟩, _, ⟨_, -, _, hruns, _, -, hdecoded⟩, hout⟩ := h
  cases hindex
  cases hdecoded
  cases hout
  rw [mapM_decodeRun hruns]
  exact ⟨rfl, hnew⟩

theorem decodeRows_eq_ok {out : List TuiRowModel} (h : decodeRows rows dimensions = .ok out) :
    out = rows.map toRow ∧ Distinct rows := by
  simp only [decodeRows, bind_ok, check_ok] at h
  obtain ⟨_, -, h⟩ := h
  have hnil : (([] : List TuiRowModel).map TuiRowModel.row).Nodup := nodup_nil
  have hstep (acc : List TuiRowModel) (row : TuiRow) (out : List TuiRowModel)
      (h : addRow dimensions acc row = .ok out) :
      out = acc ++ [toRow row] ∧ (toRow row).row ∉ acc.map TuiRowModel.row := addRow_eq_ok h
  obtain ⟨hout, hdistinct⟩ := foldlM_append_eq_ok hstep hnil h
  rw [nil_append] at hout
  rw [hout, List.map_map] at hdistinct
  exact ⟨hout, hdistinct⟩

theorem pushRun_eq_ok {runs out : List TuiStyledRun} {run : TuiStyledRun} (h : pushRun runs run = .ok out) :
    out = joinRun runs run := by
  unfold pushRun at h
  unfold joinRun
  split at h
  · rename_i hempty
    cases h
    rw [if_pos hempty]
  · rename_i hempty
    rw [if_neg hempty]
    cases hlast : runs.getLast? with
    | none =>
      rw [hlast] at h
      cases h
      rfl
    | some =>
      rw [hlast] at h
      dsimp only at h ⊢
      split at h
      · rename_i hsame
        simp only [bind_ok, check_ok] at h
        obtain ⟨_, -, h⟩ := h
        cases h
        rw [if_pos hsame]
      · rename_i hsame
        cases h
        rw [if_neg hsame]

theorem foldlM_addRun_eq_ok {raw out : List TuiStyledRun} (h : raw.foldlM addRun [] = .ok out) :
    out = joinRuns (raw.map sanitizeRun) := by
  have hgeneral (raw acc out : List TuiStyledRun) (h : raw.foldlM addRun acc = .ok out) :
      out = (raw.map sanitizeRun).foldl joinRun acc := by
    induction raw generalizing acc with
    | nil =>
      cases h
      rfl
    | cons run raw ih =>
      rw [foldlM_cons, bind_ok] at h
      obtain ⟨next, hnext, h⟩ := h
      simp only [addRun, normalizeRun, bind_ok, check_ok] at hnext
      obtain ⟨_, ⟨_, -, hkept⟩, hpush⟩ := hnext
      cases hkept
      rw [ih next h, pushRun_eq_ok hpush, map_cons]
      rfl
  exact hgeneral raw [] out h

theorem viewingAddRow_eq_ok {rows out : List TuiRow} {row : TuiRow} (h : Viewing.addRow dimensions rows row = .ok out) :
    out = rows ++ [keepRow row] ∧ (keepRow row).row ∉ rows.map TuiRow.row := by
  simp only [Viewing.addRow, normalizeRow, checkedInteger, bind_ok, check_ok, decide_eq_true_eq] at h
  obtain ⟨_, ⟨_, ⟨_, -, hindex⟩, _, -, _, hruns, hnext⟩, _, hnew, hout⟩ := h
  cases hindex
  cases hnext
  cases hout
  have hjoined := foldlM_addRun_eq_ok hruns
  subst hjoined
  exact ⟨rfl, hnew⟩

theorem normalizeRows_eq_ok {rows out : List TuiRow} {maximum : Nat}
    (h : Viewing.normalizeRows rows dimensions maximum = .ok out) :
    Distinct rows ∧ Distinct out ∧
      ∀ r, lineOf out r = (lineOf rows r).map fun runs => joinRuns (runs.map sanitizeRun) := by
  simp only [Viewing.normalizeRows, bind_ok, check_ok] at h
  obtain ⟨_, -, _, hnormalized, hout⟩ := h
  cases hout
  have hnil : (([] : List TuiRow).map TuiRow.row).Nodup := nodup_nil
  have hstep (acc : List TuiRow) (row : TuiRow) (out : List TuiRow)
      (h : Viewing.addRow dimensions acc row = .ok out) :
      out = acc ++ [keepRow row] ∧ (keepRow row).row ∉ acc.map TuiRow.row := viewingAddRow_eq_ok h
  obtain ⟨rfl, hdistinct⟩ := foldlM_append_eq_ok hstep hnil hnormalized
  rw [nil_append] at hdistinct ⊢
  refine ⟨?_, distinct_sortRows hdistinct, fun r => ?_⟩
  · rw [List.map_map] at hdistinct
    exact hdistinct
  · rw [lineOf_sortRows hdistinct, lineOf, lineOf, List.find?_map, Option.map_map, Option.map_map]
    rfl

/-- A row of plain colors is the same for both. -/
theorem joinRuns_plain (h : ∀ run ∈ runs, (sanitizeText run.text).length ≠ 0 →
    ∀ style ∈ run.style, isPlain style.foreground = true ∧ isPlain style.background = true) :
    joinRuns ((runs.map toModel).map shownRun) = joinRuns (runs.map sanitizeRun) := by
  rw [List.map_map]
  refine joinRuns_map_congr fun run hrun => ⟨rfl, fun hvisible => ?_⟩
  have hstyle := normalizeStyle_plain (h run hrun hvisible)
  simp only [Function.comp_apply, toModel, shownRun, sanitizeRun, hstyle]

theorem joinRuns_plain_line (h : PlainColors rows) (hline : lineOf rows r = some runs) :
    joinRuns ((runs.map toModel).map shownRun) = joinRuns (runs.map sanitizeRun) := by
  obtain ⟨row, hrow, rfl⟩ := map_eq_some_iff.mp hline
  exact joinRuns_plain (h row (List.mem_of_find?_eq_some hrow))

/-! ## What a delta does to the client -/

theorem find?_toRow (rows : List TuiRow) (r : Nat) :
    ((rows.map toRow).find? fun row => row.row = r) = (rows.find? fun row => row.row = r).map toRow :=
  List.find?_map ..

theorem getElem?_foldl_set {changed rows : List TuiRowModel} (hdistinct : (changed.map TuiRowModel.row).Nodup)
    (hr : r < rows.length) :
    (changed.foldl (fun rows row => rows.set row.row row) rows)[r]? =
      some (((changed.find? fun row => row.row = r)).getD rows[r]) := by
  induction changed generalizing rows with
  | nil => simp [hr]
  | cons row changed ih =>
    rw [map_cons, nodup_cons] at hdistinct
    rw [foldl_cons, ih hdistinct.2 (by simpa using hr)]
    by_cases hrow : row.row = r
    · have hnone : (changed.find? fun other => other.row = r) = none := by
        rw [List.find?_eq_none]
        intro other hother heq
        refine hdistinct.1 (List.mem_map.mpr ⟨other, hother, ?_⟩)
        rw [hrow]
        exact of_decide_eq_true heq
      simp [hrow, hnone]
    · simp [hrow, getElem_set_ne hrow]

/-- The rows of the client have their lines. -/
def Lined (state : TuiFrameState) : Prop :=
  state.rows.map TuiRowModel.row = List.range state.dimensions.rows

theorem Lined.row (h : Lined state) {held : TuiRowModel} (hheld : state.rows[r]? = some held) : held.row = r := by
  have hget : (state.rows.map TuiRowModel.row)[r]? = some held.row := by
    rw [List.getElem?_map, hheld]
    rfl
  rw [h] at hget
  obtain ⟨_, heq⟩ := List.getElem?_eq_some_iff.mp hget
  rw [getElem_range] at heq
  exact heq.symm

theorem resized_runs (h : Lined state) (dimensions : TuiDimensions) (hr : r < (resized state dimensions).length) :
    (resized state dimensions)[r].runs = heldRuns state r := by
  simp only [resized, getElem_map, getElem_range, heldRuns]
  cases hheld : state.rows[r]? with
  | none => rfl
  | some => simp [h.row hheld, Option.filter]

theorem requireState_eq_ok {state out : TuiFrameState} (h : requireState isWhitespace state = .ok out) :
    out = state ∧ (state.phase = .live → Lined state) := by
  simp only [requireState, bind_ok, check_ok] at h
  obtain ⟨_, -, _, -, _, hlines, hout⟩ := h
  cases hout
  refine ⟨rfl, fun hlive => ?_⟩
  rw [if_pos hlive, decide_eq_true_eq] at hlines
  exact hlines

theorem decodeCursor_eq_ok {cursor : TuiCursorState} {out : TuiCursorModel}
    (h : decodeCursor cursor dimensions = .ok out) :
    out.row = cursor.row ∧ out.column = cursor.column ∧ out.visible = cursor.visible := by
  simp only [decodeCursor, requiredNonNegativeInt, bind_ok, check_ok] at h
  obtain ⟨_, ⟨_, -, hrow⟩, _, ⟨_, -, hcolumn⟩, _, -, hout⟩ := h
  cases hrow
  cases hcolumn
  cases hout
  exact ⟨rfl, rfl, rfl⟩

/-- What the client makes of a delta. -/
structure Decodes (delta : DashboardTuiDelta) (model : TuiDeltaModel) : Prop where
  sequence : model.sequence = delta.sequence
  positive : 1 ≤ delta.sequence
  dimensions : model.dimensions = delta.dimensions
  changedRows : model.changedRows = delta.changedRows.map toRow
  distinct : Distinct delta.changedRows
  cursor : model.cursorState.row = delta.cursorState.row ∧ model.cursorState.column = delta.cursorState.column ∧
    model.cursorState.visible = delta.cursorState.visible
  title : model.title = delta.title

theorem decodeDimensions_eq_ok {dimensions out : TuiDimensions} (h : decodeDimensions dimensions = .ok out) :
    out = dimensions := by
  simp only [decodeDimensions, bind_ok, check_ok] at h
  obtain ⟨_, -, hout⟩ := h
  cases hout
  rfl

theorem optionalBoundedString_eq_ok {value out : Option JsString} {maxLength : Nat} {code : String}
    (h : optionalBoundedString value maxLength code = .ok out) : out = value := by
  simp only [optionalBoundedString, bind_ok, check_ok] at h
  obtain ⟨_, -, hout⟩ := h
  cases hout
  rfl

theorem decodes {model : TuiDeltaModel} (h : decodeDelta isWhitespace delta = .ok model) : Decodes delta model := by
  simp only [decodeDelta, bind_ok, check_ok, Bool.and_eq_true, decide_eq_true_eq] at h
  obtain ⟨_, -, _, hdimensions, _, -, _, -, _, ⟨hpositive, -⟩, _, hrows,
    _, hcursor, _, htitle, hmodel⟩ := h
  obtain rfl := decodeDimensions_eq_ok hdimensions
  obtain ⟨hchanged, hdistinct⟩ := decodeRows_eq_ok hrows
  obtain rfl := optionalBoundedString_eq_ok htitle
  cases hmodel
  exact ⟨rfl, hpositive, rfl, hchanged, hdistinct, decodeCursor_eq_ok hcursor, rfl⟩

/-- The client after a delta that it takes. -/
structure Takes (state : TuiFrameState) (delta : DashboardTuiDelta) (out : TuiFrameState) : Prop where
  sequence : out.sequence = delta.sequence
  dimensions : out.dimensions = delta.dimensions
  cursor : out.cursor.row = delta.cursorState.row ∧ out.cursor.column = delta.cursorState.column ∧
    out.cursor.visible = delta.cursorState.visible
  title : out.title = delta.title
  lined : Lined out
  rows : ∀ r < delta.dimensions.rows, heldRuns out r =
    ((lineOf delta.changedRows r).map fun runs => runs.map toModel).getD (heldRuns state r)

theorem heldRuns_changed (hlined : Lined state) (hdistinct : Distinct delta.changedRows) {out : TuiFrameState}
    (hrows : out.rows = (delta.changedRows.map toRow).foldl (fun rows changed => rows.set changed.row changed)
      (resized state delta.dimensions)) (hr : r < delta.dimensions.rows) :
    heldRuns out r =
      ((lineOf delta.changedRows r).map fun runs => runs.map toModel).getD (heldRuns state r) := by
  have hkeys : ((delta.changedRows.map toRow).map TuiRowModel.row).Nodup := by
    rw [List.map_map]
    exact hdistinct
  have hlength : r < (resized state delta.dimensions).length := by simpa [resized] using hr
  unfold heldRuns lineOf
  rw [hrows, getElem?_foldl_set hkeys hlength, find?_toRow]
  cases hfind : delta.changedRows.find? fun row => row.row = r with
  | none => exact resized_runs hlined _ hlength
  | some => rfl

/-- A delta that leaves the client live: one that it has taken, or one that it takes. -/
theorem applyDelta_live {state out : TuiFrameState} {model : TuiDeltaModel} (hlined : Lined state)
    (hdecodes : Decodes delta model) (h : applyDelta isWhitespace state model = .ok out) (hlive : out.phase = .live) :
    (out = state ∧ delta.sequence ≤ state.sequence) ∨ (state.sequence < delta.sequence ∧ Takes state delta out) := by
  simp only [applyDelta, bind_ok] at h
  obtain ⟨_, -, h⟩ := h
  split at h
  · rename_i hgap
    cases h
    rw [hgap] at hlive
    cases hlive
  · split at h
    · rename_i hseen
      cases h
      rw [hdecodes.sequence] at hseen
      exact .inl ⟨rfl, hseen.2⟩
    · rename_i hseen
      split at h
      · rw [(requireState_eq_ok h).1] at hlive
        cases hlive
      obtain ⟨rfl, hrequired⟩ := requireState_eq_ok h
      rw [hdecodes.sequence] at hseen
      have hpositive := hdecodes.positive
      refine .inr ⟨by omega, ?_⟩
      exact
        { sequence := hdecodes.sequence
          dimensions := hdecodes.dimensions
          cursor := hdecodes.cursor
          title := hdecodes.title
          lined := hrequired rfl
          rows := fun r hr => heldRuns_changed hlined hdecodes.distinct
            (by rw [← hdecodes.changedRows, ← hdecodes.dimensions]) hr }

/-! ## What a delta does to the browser -/

/-- The browser after a delta that it takes. -/
structure Shows (state : TuiFrameStoreState) (delta : DashboardTuiDelta) (out : TuiFrameStoreState) : Prop where
  sequence : out.sequence = delta.sequence
  dimensions : out.dimensions = delta.dimensions
  cursor : out.cursor.row = delta.cursorState.row ∧ out.cursor.column = delta.cursorState.column ∧
    out.cursor.visible = delta.cursorState.visible
  title : out.title = (delta.title.map sanitizeTitle).or state.title
  distinct : Distinct out.rows
  rows : ∀ r < delta.dimensions.rows, lineOf out.rows r =
    ((lineOf delta.changedRows r).map fun runs => joinRuns (runs.map sanitizeRun)).or
      (if delta.dimensions = state.dimensions then lineOf state.rows r else none)

theorem normalizeDimensions_eq_ok {dimensions out : TuiDimensions} (h : normalizeDimensions dimensions = .ok out) :
    out = dimensions := by
  simp only [normalizeDimensions, checkedInteger, bind_ok, check_ok] at h
  obtain ⟨_, ⟨_, -, hrows⟩, _, ⟨_, -, hcolumns⟩, hout⟩ := h
  cases hrows
  cases hcolumns
  cases hout
  rfl

theorem normalizeCursor_eq_ok {cursor : TuiCursorState} {out : TuiCursorState}
    (h : normalizeCursor cursor dimensions = .ok out) : out = cursor := by
  simp only [normalizeCursor, checkedInteger, bind_ok, check_ok] at h
  obtain ⟨_, ⟨_, -, hrow⟩, _, ⟨_, -, hcolumn⟩, hout⟩ := h
  cases hrow
  cases hcolumn
  cases hout
  rfl

theorem normalizeTitle_eq_ok {title out : Option JsString} (h : normalizeTitle title = .ok out) :
    out = title.map sanitizeTitle := by
  simp only [normalizeTitle, bind_ok, check_ok] at h
  obtain ⟨_, -, hout⟩ := h
  cases hout
  rfl

theorem shows_of_normalizeDelta {state : TuiFrameStoreState} (hrows : Distinct state.rows)
    {delta normalized : DashboardTuiDelta} (h : normalizeDelta delta = .ok normalized) :
    Shows state delta
      { state with
        dimensions := normalized.dimensions
        rows := mergeRows state normalized.dimensions normalized.changedRows
        cursor := normalized.cursorState
        title := normalized.title.or state.title
        highWaterCursor := delta.cursor
        sequence := delta.sequence
        revision := state.revision + 1
        status := .ready
        replayGap := none
        conflict := none } := by
  simp only [normalizeDelta, bind_ok] at h
  obtain ⟨_, -, dimensions, hdimensions, changedRows, hchanged, _, hcursor, title, htitle, hout⟩ := h
  cases hout
  obtain rfl := normalizeDimensions_eq_ok hdimensions
  obtain rfl := normalizeCursor_eq_ok hcursor
  obtain rfl := normalizeTitle_eq_ok htitle
  obtain ⟨-, hdistinct, hlines⟩ := normalizeRows_eq_ok hchanged
  have hlayer : rowLayer delta.dimensions (mergeRows state delta.dimensions changedRows) = _ :=
    rowLayer_mergeRows hrows hdistinct
  refine ⟨rfl, rfl, ⟨rfl, rfl, rfl⟩, rfl, distinct_mergeRows hrows hdistinct, fun r hr => ?_⟩
  change (rowLayer delta.dimensions (mergeRows state delta.dimensions changedRows)).get r = _
  rw [hlayer]
  simp only [Layer.cover, rowLayer, within, hr, decide_true, if_true, hlines]
  rfl

/-- A delta that leaves the browser ready: one that it has taken, or one that it takes. -/
theorem applyDelta_ready {state : TuiFrameStoreState} (hrows : Distinct state.rows)
    (hready : (Viewing.applyDelta state delta).status = .ready) :
    (delta.sequence ≤ state.sequence ∧
        Viewing.applyDelta state delta = { state with droppedDeltas := state.droppedDeltas + 1 }) ∨
      (state.sequence < delta.sequence ∧ Shows state delta (Viewing.applyDelta state delta)) := by
  unfold Viewing.applyDelta at hready ⊢
  by_cases hidentity : state.identity ≠ delta.identity
  · rw [if_pos hidentity] at hready
    cases hready
  rw [if_neg hidentity] at hready ⊢
  by_cases hpositive : delta.sequence < 1
  · rw [if_pos hpositive] at hready
    cases hready
  rw [if_neg hpositive] at hready ⊢
  by_cases htaken : delta.sequence ≤ state.sequence
  · rw [if_pos htaken]
    exact .inl ⟨htaken, rfl⟩
  rw [if_neg htaken] at hready ⊢
  by_cases hgap : state.sequence > 0 ∧ delta.sequence ≠ state.sequence + 1
  · rw [if_pos hgap] at hready
    cases hready
  rw [if_neg hgap] at hready ⊢
  cases hnormalized : normalizeDelta delta with
  | error =>
    rw [hnormalized] at hready
    cases hready
  | ok => exact .inr ⟨by omega, shows_of_normalizeDelta hrows hnormalized⟩

/-! ## Both -/

/-- What the viewers keep. -/
structure Paired (v : Viewers) : Prop where
  agree : ViewersAgree v
  sequence : v.android.sequence = v.web.sequence
  lined : Lined v.android
  distinct : Distinct v.web.rows

theorem shownRow_changed {changed : List TuiRow} (hplain : PlainColors changed) {held : List TuiStyledRunModel}
    {line : Option (List TuiStyledRun)}
    (hrest : lineOf changed r = none → joinRuns (held.map shownRun) = line.getD [])
    (hheld : heldRuns state r = ((lineOf changed r).map fun runs => runs.map toModel).getD held) :
    shownRow state r =
      (((lineOf changed r).map fun runs => joinRuns (runs.map sanitizeRun)).or line).getD [] := by
  unfold shownRow
  rw [hheld]
  cases hline : lineOf changed r with
  | none => exact hrest hline
  | some => exact joinRuns_plain_line hplain hline

theorem lineOf_isSome (h : r ∈ rows.map TuiRow.row) : lineOf rows r ≠ none := by
  intro hnone
  obtain ⟨row, hrow, heq⟩ := List.mem_map.mp h
  exact lineOf_eq_none.mp hnone row hrow heq

theorem Paired.takes {v : Viewers} (h : Paired v) {web : TuiFrameStoreState} {android : TuiFrameState}
    (hseq : v.web.sequence < delta.sequence) (hcomplete : Complete v delta) (htakes : Takes v.android delta android)
    (hshows : Shows v.web delta web) : Paired ⟨web, android⟩ := by
  obtain hseen | ⟨hplain, htitle, hlisted⟩ := hcomplete
  · omega
  refine ⟨⟨?_, ?_, ?_, ?_, ?_, fun r hr => ?_⟩, ?_, htakes.lined, hshows.distinct⟩
  · rw [htakes.dimensions, hshows.dimensions]
  · rw [htakes.cursor.1, hshows.cursor.1]
  · rw [htakes.cursor.2.1, hshows.cursor.2.1]
  · rw [htakes.cursor.2.2, hshows.cursor.2.2]
  · rw [htakes.title, hshows.title]
    obtain hsome | hnone := htitle
    · obtain ⟨_, ht⟩ := isSome_iff_exists.mp hsome
      rw [ht]
      rfl
    · rw [hnone, or_none]
  · rw [hshows.dimensions] at hr
    rw [hshows.rows r hr]
    refine shownRow_changed hplain (fun hunlisted => ?_) (htakes.rows r hr)
    by_cases hsame : delta.dimensions = v.web.dimensions
    · rw [if_pos hsame]
      exact h.agree.rows r (hsame ▸ hr)
    rw [if_neg hsame]
    obtain hequal | hall := hlisted
    · exact absurd hequal hsame
    obtain hmem | hempty := hall r hr
    · exact absurd hunlisted (lineOf_isSome hmem)
    · exact hempty
  · rw [htakes.sequence, hshows.sequence]

theorem Paired.step {v v' : Viewers} (h : Paired v) (hcomplete : Complete v delta)
    (hs : v.step isWhitespace delta = some v') : Paired v' := by
  simp only [Viewers.step, bind_eq_some_iff, ite_none_right_eq_some, Option.some.injEq,
    toOption_eq_some] at hs
  obtain ⟨_, hmodel, _, happly, ⟨hlive, hready⟩, rfl⟩ := hs
  obtain ⟨rfl, hold⟩ | ⟨hnew, htakes⟩ := applyDelta_live h.lined (decodes hmodel) happly hlive
  · obtain ⟨-, hweb⟩ | ⟨_, -⟩ := applyDelta_ready h.distinct hready
    · rw [hweb]
      exact ⟨⟨h.agree.dimensions, h.agree.cursorRow, h.agree.cursorColumn, h.agree.cursorVisible, h.agree.title,
        h.agree.rows⟩, h.sequence, h.lined, h.distinct⟩
    · rw [h.sequence] at hold
      omega
  · rw [h.sequence] at hnew
    obtain ⟨_, -⟩ | ⟨-, hshows⟩ := applyDelta_ready h.distinct hready
    · omega
    · exact h.takes hnew hcomplete htakes hshows

/-- The viewers of a snapshot. -/
structure Created (snapshot : DashboardTuiSnapshot) (v : Viewers) : Prop where
  sequences : v.android.sequence = 0 ∧ v.web.sequence = 0
  dimensions : v.android.dimensions = snapshot.dimensions ∧ v.web.dimensions = snapshot.dimensions
  cursor : (v.android.cursor.row = snapshot.cursor.row ∧ v.android.cursor.column = snapshot.cursor.column ∧
    v.android.cursor.visible = snapshot.cursor.visible) ∧ v.web.cursor = snapshot.cursor
  titles : v.android.title = snapshot.title ∧ v.web.title = snapshot.title.map sanitizeTitle
  lined : Lined v.android
  distinct : Distinct v.web.rows
  held : ∀ r < snapshot.dimensions.rows,
    heldRuns v.android r = ((lineOf snapshot.rows r).map fun runs => runs.map toModel).getD []
  rows : ∀ r, lineOf v.web.rows r = (lineOf snapshot.rows r).map fun runs => joinRuns (runs.map sanitizeRun)

theorem heldRuns_normalizeRows (hr : r < dimensions.rows) :
    ((((normalizeRows (rows.map toRow) dimensions)[r]?).map TuiRowModel.runs).getD []) =
      ((lineOf rows r).map fun runs => runs.map toModel).getD [] := by
  simp only [normalizeRows, List.getElem?_map, List.getElem?_range hr, map_some, getD_some,
    find?_toRow, lineOf, Option.map_map]
  cases rows.find? fun row => row.row = r <;> rfl

theorem Viewers.created {role : DashboardControllerRole} {control : TuiControlRole} {v : Viewers}
    (h : Viewers.create isWhitespace snapshot role control = some v) : Created snapshot v := by
  simp only [Viewers.create, bind_eq_some_iff, map_eq_some_iff, toOption_eq_some] at h
  obtain ⟨_, hweb, _, handroid, rfl⟩ := h
  simp only [createTuiFrameStore, normalizeSnapshot, bind_ok] at hweb
  obtain ⟨_, ⟨_, -, dimensions, hdimensions, rows, hrows, cursor, hcursor, title, htitle, hnormalized⟩,
    hweb⟩ := hweb
  cases hnormalized
  cases hweb
  obtain rfl := normalizeDimensions_eq_ok hdimensions
  obtain rfl := normalizeCursor_eq_ok hcursor
  obtain rfl := normalizeTitle_eq_ok htitle
  obtain ⟨-, hdistinct, hlines⟩ := normalizeRows_eq_ok hrows
  simp only [decodeSnapshot, bind_ok] at handroid
  obtain ⟨_, -, _, -, dimensions, hdimensions, _, hdecoded, cursor, hcursor, title, htitle, _, -,
    hstate⟩ := handroid
  obtain rfl := decodeDimensions_eq_ok hdimensions
  obtain ⟨rfl, -⟩ := decodeRows_eq_ok hdecoded
  obtain rfl := optionalBoundedString_eq_ok htitle
  obtain ⟨rfl, hlined⟩ := requireState_eq_ok hstate
  exact
    { sequences := ⟨rfl, rfl⟩
      dimensions := ⟨rfl, rfl⟩
      cursor := ⟨decodeCursor_eq_ok hcursor, rfl⟩
      titles := ⟨rfl, rfl⟩
      lined := hlined rfl
      distinct := hdistinct
      held := fun r hr => heldRuns_normalizeRows hr
      rows := hlines }

theorem Created.paired {v : Viewers} (h : Created snapshot v) (hplain : PlainColors snapshot.rows) : Paired v := by
  refine ⟨⟨?_, ?_, ?_, ?_, ?_, fun r hr => ?_⟩, ?_, h.lined, h.distinct⟩
  · rw [h.dimensions.1, h.dimensions.2]
  · rw [h.cursor.1.1, h.cursor.2]
  · rw [h.cursor.1.2.1, h.cursor.2]
  · rw [h.cursor.1.2.2, h.cursor.2]
  · rw [h.titles.1, h.titles.2]
  · rw [h.dimensions.2] at hr
    rw [h.rows, ← or_none (o := (lineOf snapshot.rows r).map _)]
    exact shownRow_changed hplain (fun _ => rfl) (h.held r hr)
  · rw [h.sequences.1, h.sequences.2]

/-- **Both viewers show the same**, after every delta. -/
theorem viewers_agree (isWhitespace : UInt16 → Bool) {snapshot : DashboardTuiSnapshot}
    {role : DashboardControllerRole} {control : TuiControlRole} {deltas : List DashboardTuiDelta} {v v' : Viewers}
    (hcreate : Viewers.create isWhitespace snapshot role control = some v) (hplain : PlainColors snapshot.rows)
    (hcomplete : Meets (Viewers.step isWhitespace) Complete v deltas)
    (hrun : run (Viewers.step isWhitespace) v deltas = some v') : ViewersAgree v' :=
  (run_invariant_of_meets (fun _ _ _ hpaired hok hs => hpaired.step hok hs)
    ((Viewers.created hcreate).paired hplain) hcomplete hrun).agree

/-! ## Runs -/

def someIdentity : DashboardSessionIdentity := ⟨text "host", text "session", 1⟩

def isSpace (u : UInt16) : Bool := u = 0x20

def aRow (row : Nat) (letters : String) (color : Option String) : TuiRow :=
  ⟨row, [⟨text letters, some { TuiStyle.empty with foreground := color.map text }⟩]⟩

/-- A screen of one row, with its title. -/
def shortScreen : DashboardTuiSnapshot :=
  ⟨someIdentity, ⟨1, 4⟩, [aRow 0 "a" (some "#FF0000")], ⟨0, 0, true, none⟩, some (text "shell"), text "c:0"⟩

/-- The first delta of a screen of `rows` rows. -/
def firstDelta (rows : Nat) (changedRows : List TuiRow) (title : Option String) : DashboardTuiDelta :=
  ⟨someIdentity, text "c:1", 1, ⟨rows, 4⟩, changedRows, ⟨0, 1, true, some .bar⟩, title.map text⟩

/-- The screen grows, then a row changes, and that delta comes twice. -/
def growing : List DashboardTuiDelta :=
  let changed := { firstDelta 2 [aRow 1 "b" none] (some "vi") with sequence := 2, cursor := text "c:2" }
  [firstDelta 2 [aRow 0 "a" (some "#FF0000")] (some "sh"), changed, changed]

def shortViewers : Viewers :=
  (Viewers.create isSpace shortScreen .observer .observer).get (by decide +kernel)

theorem create_shortViewers : Viewers.create isSpace shortScreen .observer .observer = some shortViewers := by
  simp [shortViewers]

theorem created_shortViewers : Created shortScreen shortViewers := Viewers.created create_shortViewers

theorem viewers_agree_growing : ∃ v', run (Viewers.step isSpace) shortViewers growing = some v' ∧
    v'.web.sequence = 2 ∧ ViewersAgree v' := by
  exact exists_some_and (by decide +kernel) fun v' hv' _ =>
    viewers_agree isSpace create_shortViewers (by decide +kernel) (by decide +kernel) hv'

/-- Some viewers of `shortScreen` differ after a delta. -/
def DifferAfter (delta : DashboardTuiDelta) : Prop :=
  ∃ v', Viewers.step isSpace shortViewers delta = some v' ∧ ¬ViewersAgree v'

theorem Created.step {v v' : Viewers} (h : Created snapshot v) (hs : v.step isWhitespace delta = some v') :
    Takes v.android delta v'.android ∧ Shows v.web delta v'.web := by
  simp only [Viewers.step, bind_eq_some_iff, ite_none_right_eq_some, Option.some.injEq,
    toOption_eq_some] at hs
  obtain ⟨_, hmodel, _, happly, ⟨hlive, hready⟩, rfl⟩ := hs
  have hpositive := (decodes hmodel).positive
  constructor
  · obtain ⟨-, hold⟩ | ⟨-, htakes⟩ := applyDelta_live h.lined (decodes hmodel) happly hlive
    · rw [h.sequences.1] at hold
      omega
    · exact htakes
  · obtain ⟨hold, -⟩ | ⟨-, hshows⟩ := applyDelta_ready h.distinct hready
    · rw [h.sequences.2] at hold
      omega
    · exact hshows

theorem differAfter_of_row (hs : (Viewers.step isSpace shortViewers delta).isSome = true)
    (hr : r < delta.dimensions.rows ∧ r < shortScreen.dimensions.rows)
    (hdiffer : joinRuns ((((lineOf delta.changedRows r).map fun runs => runs.map toModel).getD
        (((lineOf shortScreen.rows r).map fun runs => runs.map toModel).getD [])).map shownRun) ≠
      (((lineOf delta.changedRows r).map fun runs => joinRuns (runs.map sanitizeRun)).or
        (if delta.dimensions = shortScreen.dimensions then lineOf shortViewers.web.rows r else none)).getD []) :
    DifferAfter delta := by
  obtain ⟨v', hs⟩ := isSome_iff_exists.mp hs
  obtain ⟨htakes, hshows⟩ := created_shortViewers.step hs
  refine ⟨v', hs, fun h => hdiffer ?_⟩
  have hrow := h.rows r (hshows.dimensions ▸ hr.1)
  rw [shownRow, htakes.rows r hr.1, hshows.rows r hr.1, created_shortViewers.held r hr.2,
    created_shortViewers.dimensions.2] at hrow
  exact hrow

/-- A delta without a title, one for new dimensions without its rows, and one with a named color. -/
theorem viewers_differ : DifferAfter (firstDelta 1 [] none) ∧ DifferAfter (firstDelta 2 [] (some "sh")) ∧
    DifferAfter (firstDelta 1 [aRow 0 "a" (some "red")] (some "sh")) := by
  refine ⟨?_, differAfter_of_row (by decide +kernel) (by decide : 0 < 2 ∧ 0 < 1) (by decide +kernel),
    differAfter_of_row (by decide +kernel) (by decide : 0 < 1 ∧ 0 < 1) (by decide +kernel)⟩
  have hstep : (Viewers.step isSpace shortViewers (firstDelta 1 [] none)).isSome = true := by decide +kernel
  obtain ⟨v', hs⟩ := isSome_iff_exists.mp hstep
  obtain ⟨htakes, hshows⟩ := created_shortViewers.step hs
  refine ⟨v', hs, fun h => ?_⟩
  have htitle := h.title
  rw [htakes.title, hshows.title] at htitle
  revert htitle
  decide +kernel

end PiDaemon.Android
