import PiDaemon.Viewing.Acceptance

/-!
# Viewers converge

What a viewer shows after a publication, next to the terminal.  A snapshot that was kept from a
frame of some rows lacks the others, and a title that is empty is not sent.

* `Agrees`: a viewer has every row of the terminal that is not marked;
* `viewers_converge`: so it shows the terminal after each publication, when it has been opened with
  every row that is not blank, and no title is cleared;
* `viewer_lacks_rows`: a viewer that has been opened with a frame of one row.
-/

namespace PiDaemon.Viewing

open Lib Streams Terminal Shadow Layer List Option

/-! ## Styles -/

/-- `#` and six digits that are not capital. -/
def IsHexColor (color : JsString) : Prop :=
  ∃ digits : List Nat, digits.length = 6 ∧ (∀ n ∈ digits, n < 16) ∧
    color = 0x23 :: digits.map hexDigit

theorem normalizeColor_hex {color : JsString} (h : IsHexColor color) :
    normalizeColor (some color) = some color := by
  obtain ⟨digits, hlength, hdigits, rfl⟩ := h
  have hdigit : ∀ n < 16, isHexDigit (hexDigit n) = true ∧
      (if 0x41 ≤ (hexDigit n).toNat ∧ (hexDigit n).toNat ≤ 0x5a then hexDigit n + 0x20 else hexDigit n) =
        hexDigit n := by
    decide
  have hlower : toLowerCase (0x23 :: digits.map hexDigit) = 0x23 :: digits.map hexDigit := by
    rw [toLowerCase, map_cons, List.map_map]
    refine congrArg₂ List.cons (by decide) (map_congr_left fun n hn => ?_)
    exact (hdigit n (hdigits n hn)).2
  have hsafe : safeColor (0x23 :: digits.map hexDigit) = true := by
    simp only [safeColor, length_cons, length_map, hlength, List.head?_cons, tail_cons,
      List.all_map, Bool.and_eq_true, decide_eq_true_eq, List.all_eq_true, Function.comp_apply, and_self,
      true_and]
    exact fun n hn => (hdigit n (hdigits n hn)).1
  rw [normalizeColor, map_some, hlower, filter_some, if_pos hsafe]

theorem isHexColor_bytes (red green blue : Nat) :
    IsHexColor ([0x23] ++ (hex red ++ (hex green ++ hex blue))) := by
  refine ⟨[min 255 red / 16, min 255 red % 16, min 255 green / 16, min 255 green % 16,
    min 255 blue / 16, min 255 blue % 16], rfl, ?_, rfl⟩
  simp only [mem_cons, not_mem_nil, or_false, forall_eq_or_imp, forall_eq]
  omega

theorem isHexColor_ansi : ∀ index < 16, IsHexColor (text (ANSI16.getD index "")) := by
  have hdigits : ∀ index < 16, ∃ digits : List Nat, digits.length = 6 ∧ (∀ n ∈ digits, n < 16) ∧
      text (ANSI16.getD index "") = 0x23 :: digits.map hexDigit := by
    intro index hindex
    refine ⟨(text (ANSI16.getD index "")).tail.map fun u =>
      if u.toNat < 0x3a then u.toNat - 0x30 else u.toNat - 0x57, ?_⟩
    revert index
    decide
  exact hdigits

theorem isHexColor_colorHex (color : VirtualTerminalColor) : IsHexColor (colorHex color) := by
  cases color with
  | rgb red green blue => exact isHexColor_bytes red green blue
  | indexed =>
    rw [colorHex]
    split
    · exact isHexColor_ansi _ ‹_›
    split
    · exact isHexColor_bytes _ _ _
    · exact isHexColor_bytes _ _ _

/-- A style that is published is kept as it is. -/
theorem normalizeStyle_styleFromVirtual (style : VirtualTerminalStyle) :
    normalizeStyle (styleFromVirtual style) = styleFromVirtual style := by
  have hcolor : ∀ color : Option VirtualTerminalColor,
      normalizeColor (color.map colorHex) = color.map colorHex := by
    intro color
    cases color with
    | none => rfl
    | some color => exact normalizeColor_hex (isHexColor_colorHex color)
  rw [styleFromVirtual]
  split
  · rfl
  rename_i hstyle
  rw [normalizeStyle, bind_some]
  simp only [hcolor]
  rw [if_neg hstyle]

/-! ## What a terminal shows -/

/-- The runs of a row as a viewer shows them: their texts sanitized, and neighbours of one style
joined. -/
def shownRow (t : VirtualTerminal) (r : Nat) : List TuiStyledRun :=
  joinRuns ((t.projectedRow r).runs.map fun run =>
    ⟨sanitizeText run.text, styleFromVirtual run.style⟩)

theorem keepRow_projectedRow (t : VirtualTerminal) (r : Nat) :
    keepRow (rowFromVirtual (t.projectedRow r)) = ⟨r, shownRow t r⟩ := by
  rw [keepRow, rowFromVirtual, List.map_map]
  have hrun : ∀ run : VirtualTerminalRun, (sanitizeRun ∘ runFromVirtual) run =
      ⟨sanitizeText run.text, styleFromVirtual run.style⟩ := by
    intro run
    rw [Function.comp_apply, sanitizeRun, runFromVirtual, normalizeStyle_styleFromVirtual]
  rw [map_congr_left fun run _ => hrun run]
  rfl

/-- The viewer shows the terminal. -/
structure Shows (t : VirtualTerminal) (state : TuiFrameStoreState) : Prop where
  dimensions : state.dimensions = ⟨t.rows, t.columns⟩
  within : ∀ row ∈ state.rows, row.row < t.rows
  rows : ∀ r < t.rows, (lineOf state.rows r).getD [] = shownRow t r
  cursor : state.cursor =
    ⟨t.frameCursor.row, t.frameCursor.column, t.frameCursor.visible, some .block⟩
  title : state.title.getD [] = sanitizeTitle t.title

section
variable {t u : VirtualTerminal} {force : Bool} {frame : VirtualTerminalFrame}

/-- The rows of a frame, as a viewer keeps them. -/
theorem lineOf_frame (hnodup : t.dirtyRows.Nodup) (hframes : Frames t force frame) (r : Nat) :
    lineOf (sortRows ((rowsFromFrame frame).map keepRow)) r =
      if r ∈ publishedRows t force then some (shownRow t r) else none := by
  have hrows : (rowsFromFrame frame).map keepRow =
      (publishedRows t force).map fun r => ⟨r, shownRow t r⟩ := by
    rw [rowsFromFrame_eq hframes, List.map_map]
    exact map_congr_left fun r _ => keepRow_projectedRow t r
  have hdistinct : Distinct ((publishedRows t force).map fun r => (⟨r, shownRow t r⟩ : TuiRow)) := by
    rw [Distinct, List.map_map]
    have hid : (publishedRows t force).map (TuiRow.row ∘ fun r => (⟨r, shownRow t r⟩ : TuiRow)) =
        publishedRows t force := List.map_id' _
    rw [hid]
    exact nodup_publishedRows hnodup
  rw [hrows, lineOf_sortRows hdistinct]
  apply Option.ext
  intro runs
  rw [lineOf_eq_some hdistinct, List.mem_map]
  by_cases hr : r ∈ publishedRows t force
  · rw [if_pos hr]
    constructor
    · rintro ⟨other, _, heq⟩
      cases heq
      rfl
    · rintro heq
      cases heq
      exact ⟨r, hr, rfl⟩
  · rw [if_neg hr]
    constructor
    · rintro ⟨other, hother, heq⟩
      cases heq
      exact absurd hother hr
    · intro heq
      cases heq

theorem publishedRows_complete (hpublished : t.published = true) {r : Nat} (hr : r < t.rows)
    (hnot : r ∉ publishedRows t false) : t.dimensionsChanged = false ∧ r ∉ t.dirtyRows := by
  rw [publishedRows, hpublished] at hnot
  cases hchanged : t.dimensionsChanged with
  | true => simp [hchanged, hr] at hnot
  | false => simpa [hchanged] using hnot

theorem Evolves.shownRow (h : Evolves t u) (hsame : u.dimensionsChanged = false) {r : Nat}
    (hr : r ∉ u.dirtyRows) : Viewing.shownRow u r = Viewing.shownRow t r := by
  obtain ⟨_, hgrid⟩ := (h.same hsame).2.2.2 r hr
  rw [Viewing.shownRow, Viewing.shownRow, VirtualTerminal.projectedRow, VirtualTerminal.projectedRow,
    getD_eq_getElem?_getD, getD_eq_getElem?_getD, hgrid]

end

/-! ## Between two frames -/

/-- What is listed for a row that is not marked is what the row shows. -/
def Lists (t : VirtualTerminal) (lines : Nat → Option (List TuiStyledRun)) : Prop :=
  t.dimensionsChanged = false → ∀ r < t.rows, r ∉ t.dirtyRows → ∀ runs ∈ lines r, runs = shownRow t r

def HasSize (t : VirtualTerminal) (dimensions : TuiDimensions) : Prop :=
  t.dimensionsChanged = false → dimensions = ⟨t.rows, t.columns⟩

/-- A viewer shows each row that is not marked. -/
structure Agrees (t : VirtualTerminal) (title : JsString) (state : TuiFrameStoreState) : Prop where
  distinct : Distinct state.rows
  dimensions : HasSize t state.dimensions
  rows : t.dimensionsChanged = false → ∀ r < t.rows, r ∉ t.dirtyRows →
    (lineOf state.rows r).getD [] = shownRow t r
  title : state.title.getD [] = title

/-- What a viewer shows of a title that is sent. -/
def shownTitle (title : Option JsString) : JsString := (title.map sanitizeTitle).getD []

section
variable {t u : VirtualTerminal} {frame : VirtualTerminalFrame} {title : JsString}
  {state state' : TuiFrameStoreState} {lines : Nat → Option (List TuiStyledRun)}

theorem Lists.evolves (h : Lists t lines) (hevolves : Evolves t u) : Lists u lines := by
  intro hsame r hr hclean runs hruns
  obtain ⟨hfirst, _, hrows, hgrid⟩ := hevolves.same hsame
  rw [hevolves.shownRow hsame hclean]
  exact h hfirst r (hrows ▸ hr) (hgrid r hclean).1 runs hruns

theorem HasSize.evolves {dimensions : TuiDimensions} (h : HasSize t dimensions)
    (hevolves : Evolves t u) : HasSize u dimensions := by
  intro hsame
  obtain ⟨hfirst, hcolumns, hrows, _⟩ := hevolves.same hsame
  rw [h hfirst, hcolumns, hrows]

theorem Agrees.evolves (h : Agrees t title state) (hevolves : Evolves t u) : Agrees u title state := by
  refine ⟨h.distinct, h.dimensions.evolves hevolves, fun hsame r hr hclean => ?_, h.title⟩
  obtain ⟨hfirst, _, hrows, hgrid⟩ := hevolves.same hsame
  rw [hevolves.shownRow hsame hclean]
  exact h.rows hfirst r (hrows ▸ hr) (hgrid r hclean).1

theorem Agrees.sameView (h : Agrees t title state) (hsame : SameView state state') :
    Agrees t title state' := by
  refine ⟨?_, ?_, ?_, ?_⟩
  · rw [hsame.rows]
    exact h.distinct
  · rw [hsame.dimensions]
    exact h.dimensions
  · rw [hsame.rows]
    exact h.rows
  · rw [hsame.title]
    exact h.title

theorem shownTitle_frameTitle {force : Bool} (hframes : Frames t force frame) :
    shownTitle (frameTitle frame) = sanitizeTitle t.title := by
  rw [frameTitle, hframes.title]
  split
  · rename_i hempty
    rw [length_eq_zero_iff.mp hempty]
    rfl
  · rfl

theorem title_of_frameTitle {force : Bool} (hframes : Frames t force frame)
    (h : frameTitle frame = none) : t.title = [] := by
  rw [frameTitle, hframes.title] at h
  split at h
  · exact length_eq_zero_iff.mp ‹_›
  · cases h

theorem distinct_keepDelta {delta : DashboardTuiDelta} (h : DeltaFits delta) :
    Distinct (keepDelta delta).changedRows :=
  distinct_sortRows (distinct_keepRow h.distinct)

/-- A viewer shows the terminal after a frame, when no title is cleared. -/
theorem Agrees.takes (h : Agrees t title state) (hsized : Sized t) (hpublished : t.published = true)
    (hframes : Frames t false frame) (htitle : t.title = [] → title = [])
    {identity : DashboardSessionIdentity} {cursor : JsString} {sequence : Nat}
    (hfits : DeltaFits (deltaFromFrame identity frame cursor sequence)) :
    Shows t (takeDelta state (deltaFromFrame identity frame cursor sequence)) ∧
      Distinct (takeDelta state (deltaFromFrame identity frame cursor sequence)).rows := by
  have hdistinct := distinct_keepDelta hfits
  have hdimensions : frameDimensions frame = ⟨t.rows, t.columns⟩ := by
    rw [frameDimensions, hframes.rows, hframes.columns]
  have hlayer : rowLayer (frameDimensions frame) (mergeRows state (frameDimensions frame)
      (keepDelta (deltaFromFrame identity frame cursor sequence)).changedRows) =
      Layer.cover within (rowLayer state.dimensions state.rows) (rowLayer (frameDimensions frame)
        (keepDelta (deltaFromFrame identity frame cursor sequence)).changedRows) :=
    rowLayer_mergeRows h.distinct hdistinct
  refine ⟨⟨hdimensions, fun row hrow => ?_, fun r hr => ?_, ?_, ?_⟩,
    distinct_mergeRows h.distinct hdistinct⟩
  · have hmem := (mem_mergeRows h.distinct hdistinct).mp hrow
    have hrows : (frameDimensions frame).rows = t.rows := hframes.rows
    exact hrows ▸ hmem.1
  · have hline := congrArg (fun layer => layer.get r) hlayer
    have hwithin : within (rowLayer (frameDimensions frame)
        (keepDelta (deltaFromFrame identity frame cursor sequence)).changedRows).shape r = true := by
      rw [hdimensions]
      exact decide_eq_true hr
    rw [get_cover hwithin] at hline
    have hchanged := lineOf_frame hsized.nodup hframes r
    have hmerged : lineOf (takeDelta state (deltaFromFrame identity frame cursor sequence)).rows r =
        (if r ∈ publishedRows t false then some (shownRow t r) else none).or
          (if frameDimensions frame = state.dimensions then lineOf state.rows r else none) := by
      rw [← hchanged]
      exact hline
    rw [hmerged]
    by_cases hr' : r ∈ publishedRows t false
    · rw [if_pos hr']
      rfl
    obtain ⟨hsame, hclean⟩ := publishedRows_complete hpublished hr hr'
    rw [if_neg hr', if_pos (hdimensions.trans (h.dimensions hsame).symm)]
    exact h.rows hsame r hr hclean
  · have hcursor : frameCursorState frame =
        ⟨t.frameCursor.row, t.frameCursor.column, t.frameCursor.visible, some .block⟩ := by
      rw [frameCursorState, hframes.cursor]
    exact hcursor
  · have hshown := shownTitle_frameTitle hframes
    have hnew : (takeDelta state (deltaFromFrame identity frame cursor sequence)).title =
        ((frameTitle frame).map sanitizeTitle).or state.title := rfl
    rw [hnew]
    cases hempty : frameTitle frame with
    | some =>
      rw [hempty] at hshown
      exact hshown
    | none =>
      have hnil := title_of_frameTitle hframes hempty
      rw [map_none, none_or, h.title, htitle hnil, hnil]
      rfl

theorem Shows.agrees (h : Shows t state) (hdistinct : Distinct state.rows) :
    Agrees t (sanitizeTitle t.title) state :=
  ⟨hdistinct, fun _ => h.dimensions, fun _ r hr _ => h.rows r hr, h.title⟩

theorem Shows.taken {limits : VirtualTerminalLimits} {force : Bool} (h : Shows t state)
    (htake : t.takeFrame limits force = some (frame, u)) : Shows u state := by
  obtain ⟨-, rfl⟩ := takeFrame_eq htake
  exact ⟨h.dimensions, h.within, h.rows, h.cursor, h.title⟩

end

/-! ## Replays -/

/-- The rows of a delta, as a viewer keeps them. -/
def deltaLayer (entry : RetainedDelta) : Layer TuiDimensions Nat (List TuiStyledRun) :=
  rowLayer entry.delta.dimensions (keepDelta entry.delta).changedRows

/-- The last title of some deltas. -/
def latestTitle (entries : List RetainedDelta) : Option JsString :=
  entries.foldl (fun title entry => entry.delta.title.or title) none

theorem latestTitle_concat (entries : List RetainedDelta) (entry : RetainedDelta) :
    latestTitle (entries ++ [entry]) = entry.delta.title.or (latestTitle entries) := by
  simp [latestTitle]

section
variable {state : TuiFrameStoreState} {entries : List RetainedDelta}

section
variable (state)

section
variable (entries)

theorem takeAll_concat (entry : RetainedDelta) :
    takeAll state (entries ++ [entry]) = takeDelta (takeAll state entries) entry.delta := by
  simp [takeAll]

theorem takeAll_title : (takeAll state entries).title = ((latestTitle entries).map sanitizeTitle).or state.title := by
  induction entries using List.reverseRecOn with
  | nil => rfl
  | append_singleton entries entry ih =>
    have hnew : ∀ state : TuiFrameStoreState, (takeDelta state entry.delta).title =
        (entry.delta.title.map sanitizeTitle).or state.title := fun _ => rfl
    rw [takeAll_concat, hnew, ih, latestTitle_concat]
    cases entry.delta.title <;> simp

end

end

theorem takeAll_layer (hdistinct : Distinct state.rows) (hfits : ∀ entry ∈ entries, DeltaFits entry.delta) :
    Distinct (takeAll state entries).rows ∧
      rowLayer (takeAll state entries).dimensions (takeAll state entries).rows =
        Layer.stack within (rowLayer state.dimensions state.rows) (entries.map deltaLayer) := by
  induction entries using List.reverseRecOn with
  | nil => exact ⟨hdistinct, rfl⟩
  | append_singleton entries entry ih =>
    obtain ⟨hrows, hlayer⟩ := ih fun other hother => hfits other (mem_append_left _ hother)
    have hchanged := distinct_keepDelta
      (hfits entry (mem_append_right _ (mem_singleton.mpr rfl)))
    rw [takeAll_concat, map_append, map_singleton, stack_concat, ← hlayer]
    exact ⟨distinct_mergeRows hrows hchanged, rowLayer_mergeRows hrows hchanged⟩

end

/-! ## Hubs -/

/-- What a hub has for viewers that are opened later, and what the viewers show. -/
structure Carries (hub : ShadowTuiHub) : Prop where
  published : hub.terminal.published = true
  dimensions : HasSize hub.terminal hub.snapshot.dimensions
  snapshot : Lists hub.terminal (lineOf (keepSnapshot hub.snapshot).rows)
  regular : Layer.Regular within (hub.replay.map deltaLayer)
  last : ∀ entry ∈ hub.replay.getLast?, HasSize hub.terminal entry.delta.dimensions
  replay : Lists hub.terminal (Layer.latest (hub.replay.map deltaLayer))
  titles : ∀ rest, rest <:+ hub.replay →
    shownTitle ((latestTitle rest).or hub.snapshot.title) = shownTitle hub.snapshot.title
  viewers : ∀ channel ∈ hub.channels, ∀ state, channel.viewer = .ok state →
    Agrees hub.terminal (shownTitle hub.snapshot.title) state

/-- Each row that is not blank is sent to a viewer that is opened with this cursor: in the snapshot,
in a delta after the cursor, or with the next frame. -/
def Covered (parseCursor : JsString → Option ParsedCursor) (hub : ShadowTuiHub)
    (cursor : Option JsString) : Prop :=
  hub.terminal.dimensionsChanged = true ∨ ∀ r < hub.terminal.rows,
    r ∈ hub.terminal.dirtyRows ∨ r ∈ hub.snapshot.rows.map TuiRow.row ∨
      (∃ entry ∈ hub.replay, .delta entry.delta ∈ hub.eventsAfter parseCursor cursor ∧
        r ∈ entry.delta.changedRows.map TuiRow.row) ∨
      shownRow hub.terminal r = []

instance (parseCursor : JsString → Option ParsedCursor) (hub : ShadowTuiHub) (cursor : Option JsString) :
    Decidable (Covered parseCursor hub cursor) :=
  inferInstanceAs (Decidable (_ ∨ ∀ r < hub.terminal.rows, _))

section
variable {parseCursor : JsString → Option ParsedCursor} {platform : TerminalPlatform}
  {limits : ShadowTuiHostLimits} {hub hub' : ShadowTuiHub} {identity : DashboardSessionIdentity}

theorem Carries.quiet (h : Carries hub) (hsound : Sound hub) (hquiet : hub.Quiet hub') :
    Carries hub' := by
  have hevolves := hquiet.terminal
  refine ⟨hevolves.published.trans h.published, ?_, ?_, ?_, ?_, ?_, ?_, fun channel' hmem state' hok => ?_⟩
  · rw [hquiet.snapshot]
    exact h.dimensions.evolves hevolves
  · rw [hquiet.snapshot]
    exact h.snapshot.evolves hevolves
  · rcases hquiet.replay with hsame | hnil
    · rw [hsame]
      exact h.regular
    · rw [hnil]
      exact isChain_nil
  · rcases hquiet.replay with hsame | hnil
    · rw [hsame]
      exact fun entry hentry => (h.last entry hentry).evolves hevolves
    · rw [hnil]
      exact fun entry hentry => by cases hentry
  · rcases hquiet.replay with hsame | hnil
    · rw [hsame]
      exact h.replay.evolves hevolves
    · rw [hnil]
      exact fun _ r _ _ runs hruns => by cases hruns
  · rw [hquiet.snapshot]
    rcases hquiet.replay with hsame | hnil
    · rw [hsame]
      exact h.titles
    intro rest hrest
    rw [hnil, suffix_nil] at hrest
    rw [hrest]
    rfl
  · obtain ⟨channel, hchannel, hears⟩ := hquiet.channels channel' hmem
    obtain ⟨state, hviewer, hstate⟩ := hsound.viewers channel hchannel
    obtain ⟨_, hviewer', _, hview⟩ := hears.current hviewer hstate
    rw [hviewer'] at hok
    cases hok
    rw [hquiet.snapshot]
    exact ((h.viewers channel hchannel state hviewer).sameView hview).evolves hevolves

theorem lineOf_isSome {rows : List TuiRow} (hdistinct : Distinct rows) {r : Nat}
    (h : r ∈ rows.map TuiRow.row) : (lineOf (sortRows (rows.map keepRow)) r).isSome = true := by
  obtain ⟨row, hrow, rfl⟩ := List.mem_map.mp h
  rw [lineOf_sortRows (distinct_keepRow hdistinct), isSome_iff_exists]
  exact ⟨_, (lineOf_eq_some (distinct_keepRow hdistinct)).mpr (List.mem_map.mpr ⟨row, hrow, rfl⟩)⟩

variable {cursor : Option JsString}

/-- What a viewer shows that is opened with the snapshot and the end of the replay. -/
theorem Carries.opened (h : Carries hub) (hsound : Sound hub) (hcovered : Covered parseCursor hub cursor)
    (role : DashboardControllerRole) {rest : List RetainedDelta} (hrest : rest <:+ hub.replay)
    (hall : ∀ delta, .delta delta ∈ hub.eventsAfter parseCursor cursor → ∃ entry ∈ rest, entry.delta = delta) :
    Agrees hub.terminal (shownTitle hub.snapshot.title)
      (takeAll (takeSnapshot hub.snapshot role) rest) := by
  have hsnapshot : Distinct (takeSnapshot hub.snapshot role).rows :=
    distinct_sortRows (distinct_keepRow hsound.snapshot.distinct)
  have hfits : ∀ entry ∈ rest, DeltaFits entry.delta := fun entry hentry =>
    ((hsound.replay.suffix hrest).entries entry hentry).2.2
  obtain ⟨hdistinct, hlayer⟩ := takeAll_layer hsnapshot hfits
  have hsuffix : rest.map deltaLayer <:+ hub.replay.map deltaLayer := hrest.map deltaLayer
  have hregular := h.regular.suffix hsuffix
  have hsize : HasSize hub.terminal (takeAll (takeSnapshot hub.snapshot role) rest).dimensions := by
    cases rest using List.reverseRecOn with
    | nil => exact h.dimensions
    | append_singleton front entry =>
      rw [takeAll_concat]
      obtain ⟨_, heq⟩ := hrest
      refine h.last entry ?_
      rw [← heq, ← append_assoc, List.getLast?_concat]
      rfl
  refine ⟨hdistinct, hsize, fun hsame r hr hclean => ?_, ?_⟩
  · have hshape := congrArg Layer.shape hlayer
    have hline := congrArg (fun layer => layer.get r) hlayer
    have hwithin : within (Layer.stack within (rowLayer (takeSnapshot hub.snapshot role).dimensions
        (takeSnapshot hub.snapshot role).rows) (rest.map deltaLayer)).shape r = true := by
      rw [← hshape, hsize hsame]
      exact decide_eq_true hr
    have hlineOf : lineOf (takeAll (takeSnapshot hub.snapshot role) rest).rows r =
        (Layer.stack within (rowLayer (takeSnapshot hub.snapshot role).dimensions
          (takeSnapshot hub.snapshot role).rows) (rest.map deltaLayer)).get r := hline
    rw [hlineOf]
    cases hget : (Layer.stack within (rowLayer (takeSnapshot hub.snapshot role).dimensions
        (takeSnapshot hub.snapshot role).rows) (rest.map deltaLayer)).get r with
    | some runs =>
      rcases latest_or_base hget with hlatest | ⟨_, hbase⟩
      · exact h.replay hsame r hr hclean runs (latest_suffix hsuffix hlatest)
      · exact h.snapshot hsame r hr hclean runs hbase
    | none =>
      have hlatest : Layer.latest (rest.map deltaLayer) r = none := by
        cases hfound : Layer.latest (rest.map deltaLayer) r with
        | none => rfl
        | some =>
          rw [get_of_latest hregular _ hwithin hfound] at hget
          cases hget
      rcases hcovered with hchanged | hrows
      · rw [hsame] at hchanged
        cases hchanged
      rcases hrows r hr with hdirty | hlisted | ⟨entry, _, hevent, hlisted⟩ | hblank
      · exact absurd hdirty hclean
      · have hbase : (rowLayer (takeSnapshot hub.snapshot role).dimensions
            (takeSnapshot hub.snapshot role).rows).shape = (Layer.stack within
              (rowLayer (takeSnapshot hub.snapshot role).dimensions
                (takeSnapshot hub.snapshot role).rows) (rest.map deltaLayer)).shape := by
          rw [← hshape, hsize hsame]
          exact h.dimensions hsame
        rw [get_of_latest_none hregular hwithin hbase hlatest] at hget
        have hkept := lineOf_isSome hsound.snapshot.distinct hlisted
        have hnone : lineOf (sortRows (hub.snapshot.rows.map keepRow)) r = none := hget
        rw [hnone] at hkept
        cases hkept
      · obtain ⟨other, hother, hdelta⟩ := hall _ hevent
        have hgiven : ((deltaLayer other).get r).isSome = true := by
          rw [deltaLayer, hdelta]
          refine lineOf_isSome ?_ hlisted
          rw [← hdelta]
          exact (hfits other hother).distinct
        have hsome := latest_isSome (List.mem_map_of_mem hother) hgiven
        rw [hlatest] at hsome
        cases hsome
      · exact hblank.symm
  · have hstart : (takeSnapshot hub.snapshot role).title = hub.snapshot.title.map sanitizeTitle := rfl
    rw [takeAll_title, hstart, ← h.titles rest hrest, shownTitle, map_or]

theorem Carries.opens (h : Carries hub) (hsound : Sound hub) (hcovered : Covered parseCursor hub cursor)
    (hopens : ShadowTuiHub.Opens parseCursor cursor hub hub') : Carries hub' := by
  obtain ⟨_, role, _, rfl, hnotices, hviewer⟩ := hopens.opened
  refine ⟨h.published, h.dimensions, h.snapshot, h.regular, h.last, h.replay, h.titles,
    fun other hother state hok => ?_⟩
  rcases mem_append.mp hother with hold | hnew
  · exact h.viewers other hold state hok
  rw [mem_singleton.mp hnew, hviewer, createTuiFrameStore_ok hsound.snapshot] at hok
  obtain ⟨_, shown, hrest, hall, hstate, _, hview⟩ := hsound.opened parseCursor cursor role hnotices
  have hsame : state = shown := (Except.ok.inj hok).symm.trans hstate
  rw [hsame]
  exact (h.opened hsound hcovered role hrest hall).sameView hview

/-- The end of a replay to which an entry has been added. -/
theorem suffix_concat_cases {replay rest : List RetainedDelta} {entry : RetainedDelta}
    (h : rest <:+ replay ++ [entry]) : rest = [] ∨ ∃ front, rest = front ++ [entry] ∧ front <:+ replay :=
  suffix_concat_iff.mp h

theorem Carries.publishes (h : Carries hub) (hsound : Sound hub) {frame : VirtualTerminalFrame}
    (hpublishes : ShadowTuiHub.Publishes limits hub frame hub')
    (hpresentable : Presentable hub.terminal false)
    (htitle : hub.terminal.title = [] → shownTitle hub.snapshot.title = []) :
    Carries hub' ∧ ∀ channel ∈ hub'.channels, ∃ state, channel.viewer = .ok state ∧
      Shows hub'.terminal state := by
  have hframes := takeFrame_frames hpublishes.taken
  obtain ⟨hdelta, -⟩ := hsound.published_fits hpublishes hpresentable
  obtain ⟨-, hterminal⟩ := takeFrame_eq hpublishes.taken
  have hlines := lineOf_frame hsound.sized.nodup hframes
  have hshown : shownTitle (frameTitle frame) = sanitizeTitle hub.terminal.title :=
    shownTitle_frameTitle hframes
  have hsize : HasSize hub'.terminal (frameDimensions frame) := by
    intro _
    rw [frameDimensions, hframes.rows, hframes.columns, hterminal]
  have hentry : Lists hub'.terminal (deltaLayer (hub.nextRetained frame)).get := by
    intro _ r _ _ runs hruns
    have hruns : lineOf (sortRows ((rowsFromFrame frame).map keepRow)) r = some runs := hruns
    rw [hlines] at hruns
    obtain ⟨_, rfl⟩ := ite_some_none_eq_some.mp hruns
    rw [hterminal]
    rfl
  have hreplay : Lists hub'.terminal
      (Layer.latest ((hub.replay ++ [hub.nextRetained frame]).map deltaLayer)) := by
    intro hsame r hr hdirty runs hruns
    rw [map_append, map_singleton, latest_concat] at hruns
    cases hnew : (deltaLayer (hub.nextRetained frame)).get r with
    | some =>
      rw [hnew] at hruns
      cases hruns
      exact hentry hsame r hr hdirty runs hnew
    | none =>
      rw [hnew] at hruns
      have hline : lineOf (sortRows ((rowsFromFrame frame).map keepRow)) r = none := hnew
      have hrows : r < hub.terminal.rows := by
        rw [hterminal] at hr
        exact hr
      have hnot : r ∉ publishedRows hub.terminal false := by
        intro hmem
        rw [hlines, if_pos hmem] at hline
        cases hline
      obtain ⟨hfixed, hold⟩ := publishedRows_complete h.published hrows hnot
      rw [h.replay hfixed r hrows hold runs hruns, hterminal]
      rfl
  have hregular : Layer.Regular within ((hub.replay ++ [hub.nextRetained frame]).map deltaLayer) := by
    rw [map_append, Layer.Regular, isChain_append]
    refine ⟨h.regular, isChain_singleton _, fun below hbelow above habove hne r hr => ?_⟩
    rw [map_singleton, List.head?_cons, mem_some_iff] at habove
    subst habove
    rw [List.getLast?_map, mem_def, map_eq_some_iff] at hbelow
    obtain ⟨last, hlast, rfl⟩ := hbelow
    have hrows : r < hub.terminal.rows := by
      have hwithin : within (frameDimensions frame) r = true := hr
      rw [frameDimensions, hframes.rows] at hwithin
      exact of_decide_eq_true hwithin
    have hline : (deltaLayer (hub.nextRetained frame)).get r =
        lineOf (sortRows ((rowsFromFrame frame).map keepRow)) r := rfl
    rw [hline, hlines]
    by_cases hmem : r ∈ publishedRows hub.terminal false
    · rw [if_pos hmem]
      rfl
    obtain ⟨hfixed, _⟩ := publishedRows_complete h.published hrows hmem
    refine absurd ?_ hne
    have hold : last.delta.dimensions = _ := h.last last hlast hfixed
    have hnew : (deltaLayer (hub.nextRetained frame)).shape = frameDimensions frame := rfl
    rw [hnew, frameDimensions, hframes.rows, hframes.columns]
    exact hold
  have hviewers : ∀ channel ∈ hub'.channels, ∃ state, channel.viewer = .ok state ∧
      Shows hub'.terminal state ∧ Distinct state.rows := by
    intro channel' hmem
    rw [hpublishes.channels] at hmem
    obtain ⟨channel, hchannel, rfl⟩ := List.mem_map.mp hmem
    obtain ⟨state, hviewer, hstate⟩ := hsound.viewers channel hchannel
    obtain ⟨hshows, hdistinct⟩ := (h.viewers channel hchannel state hviewer).takes hsound.sized h.published
      hframes htitle hdelta
    refine ⟨takeDelta state (hub.nextDelta frame), ?_, hshows.taken hpublishes.taken, hdistinct⟩
    have happly : applyDelta state (hub.nextDelta frame) = takeDelta state (hub.nextDelta frame) :=
      applyDelta_eq hstate rfl hdelta rfl
    rw [ShadowTuiChannel.deliver, ShadowTuiChannel.deliverAll, hviewer]
    exact congrArg Except.ok happly
  have hsnapshot : hub'.snapshot.title = frameTitle frame := by
    rw [hpublishes.snapshot]
    rfl
  refine ⟨⟨by rw [hterminal], ?_, ?_, ?_, ?_, ?_, ?_, fun channel hmem state hok => ?_⟩,
    fun channel hmem => ?_⟩
  · rw [hpublishes.snapshot]
    exact hsize
  · rw [hpublishes.snapshot]
    exact hentry
  · exact hregular.suffix (hpublishes.replay.map deltaLayer)
  · intro entry hlast
    rcases suffix_concat_cases hpublishes.replay with hnil | ⟨front, heq, _⟩
    · rw [hnil] at hlast
      cases hlast
    rw [heq, List.getLast?_concat, mem_some_iff] at hlast
    rw [← hlast]
    exact hsize
  · exact fun hsame r hr hdirty runs hruns => hreplay hsame r hr hdirty runs
      (latest_suffix (hpublishes.replay.map deltaLayer) hruns)
  · intro rest hrest
    rw [hsnapshot]
    rcases suffix_concat_cases (hrest.trans hpublishes.replay) with hnil | ⟨front, rfl, hfront⟩
    · rw [hnil]
      rfl
    have hnew : (hub.nextRetained frame).delta.title = frameTitle frame := rfl
    rw [latestTitle_concat, hnew]
    cases hsent : frameTitle frame with
    | some => rfl
    | none =>
      have hempty := htitle (title_of_frameTitle hframes hsent)
      have hold := h.titles front hfront
      rw [hempty] at hold
      cases hlatest : latestTitle front with
      | none => rfl
      | some =>
        rw [hlatest] at hold
        exact hold
  · obtain ⟨_, hviewer, hshows, hdistinct⟩ := hviewers channel hmem
    rw [hviewer] at hok
    cases hok
    rw [hsnapshot, hshown]
    have hsame : hub.terminal.title = hub'.terminal.title := by rw [hterminal]
    rw [hsame]
    exact hshows.agrees hdistinct
  · obtain ⟨state, hviewer, hshows, _⟩ := hviewers channel hmem
    exact ⟨state, hviewer, hshows⟩

theorem Carries.init {t : VirtualTerminal} (hsized : Sized t)
    (hinit : ShadowTuiHub.init identity t = some hub) : Carries hub := by
  obtain ⟨⟨frame, _⟩, htake, rfl⟩ := map_eq_some_iff.mp hinit
  have hframes := takeFrame_frames htake
  obtain ⟨-, hterminal⟩ := takeFrame_eq htake
  refine ⟨by rw [hterminal], ?_, ?_, isChain_nil, (fun entry hentry => by cases hentry),
    (fun _ r _ _ runs hruns => by cases hruns), fun rest hrest => ?_,
    fun _ hmem => absurd hmem not_mem_nil⟩
  · intro _
    have hdimensions : frameDimensions frame = ⟨t.rows, t.columns⟩ := by
      rw [frameDimensions, hframes.rows, hframes.columns]
    rw [hterminal]
    exact hdimensions
  · intro _ r _ _ runs hruns
    have hruns : lineOf (sortRows ((rowsFromFrame frame).map keepRow)) r = some runs := hruns
    rw [lineOf_frame hsized.nodup hframes] at hruns
    obtain ⟨_, rfl⟩ := ite_some_none_eq_some.mp hruns
    rw [hterminal]
    rfl
  · rw [suffix_nil.mp hrest]
    rfl

/-! ## Runs -/

/-- The opening of a channel resizes the terminal. -/
def Resizes (hub : ShadowTuiHub) (options : TuiChannelOptions) : Prop :=
  hub.controllerGranted options = true ∧
    ¬(options.dimensions.columns = hub.terminal.columns ∧ options.dimensions.rows = hub.terminal.rows)

/-- A write only erases rows within the grid, a channel is opened with every row that is not blank
or resizes the terminal, and a publication clears no title. -/
def Completes (parseCursor : JsString → Option ParsedCursor) (platform : TerminalPlatform)
    (hub : ShadowTuiHub) : ShadowTuiHub.Step → Prop
  | .terminal event => KeepsRows platform DEFAULT_VIRTUAL_TERMINAL_LIMITS hub.terminal event
  | .openChannel _ options cursor => Resizes hub options ∨ Covered parseCursor hub cursor
  | .publish => hub.terminal.title = [] → shownTitle hub.snapshot.title = []
  | _ => True

instance (hub : ShadowTuiHub) (options : TuiChannelOptions) : Decidable (Resizes hub options) :=
  inferInstanceAs (Decidable (_ ∧ _))

instance (parseCursor : JsString → Option ParsedCursor) (platform : TerminalPlatform) (hub : ShadowTuiHub) :
    (event : ShadowTuiHub.Step) → Decidable (Completes parseCursor platform hub event)
  | .terminal event => inferInstanceAs (Decidable (KeepsRows _ _ hub.terminal event))
  | .publish => inferInstanceAs (Decidable (_ → _))
  | .openChannel _ _ _ => inferInstanceAs (Decidable (_ ∨ _))
  | .resizeChannel _ _ => .isTrue trivial
  | .requestControl _ => .isTrue trivial
  | .releaseControl _ => .isTrue trivial
  | .close _ => .isTrue trivial
  | .dispose => .isTrue trivial

theorem markAllDirty_dimensionsChanged (t : VirtualTerminal) :
    t.markAllDirty.dimensionsChanged = t.dimensionsChanged := by
  obtain ⟨_, hmark, -⟩ := VirtualTerminal.markRows_eq t (List.range t.rows)
  rw [VirtualTerminal.markAllDirty, hmark]

theorem resize_changes {t u : VirtualTerminal} {columns rows : Nat}
    (hresize : t.resize DEFAULT_VIRTUAL_TERMINAL_LIMITS columns rows = some u)
    (hne : ¬(columns = t.columns ∧ rows = t.rows)) : u.dimensionsChanged = true := by
  rw [VirtualTerminal.resize] at hresize
  split at hresize
  · obtain rfl := Option.some.inj hresize
    exact markAllDirty_dimensionsChanged _
  · cases hresize

theorem takeControl_covers {id : JsString} {options : TuiChannelOptions} {next : ShadowTuiHub}
    (hcontrol : hub.takeControl id options = .returned next)
    (h : Resizes hub options ∨ Covered parseCursor hub cursor) : Covered parseCursor next cursor := by
  rw [ShadowTuiHub.takeControl] at hcontrol
  split at hcontrol
  · rw [ShadowTuiHub.resizeTo] at hcontrol
    split at hcontrol
    · cases hcontrol
    split at hcontrol
    · rename_i hsame
      cases hcontrol
      rcases h with hresizes | hcovered
      · exact absurd hsame hresizes.2
      · exact hcovered
    · rename_i hne
      split at hcontrol
      · cases hcontrol
      rename_i terminal hresize
      cases hcontrol
      exact .inl (resize_changes hresize hne)
  · rename_i hdenied
    cases hcontrol
    rcases h with hresizes | hcovered
    · exact absurd hresizes.1 hdenied
    · exact hcovered

theorem carries_step {event : ShadowTuiHub.Step} (hsound : Sound hub)
    (h : hub.disposed = false → Carries hub) (hcompletes : Completes parseCursor platform hub event)
    (hpresents : Presents hub event)
    (hstep : ShadowTuiHub.step parseCursor platform limits hub event = some hub') :
    (hub'.disposed = false → Carries hub') ∧
      (event = .publish → hub'.sequence ≠ hub.sequence → ∀ channel ∈ hub'.channels,
        ∃ state, channel.viewer = .ok state ∧ Shows hub'.terminal state) := by
  have hkeeps : ∀ call, event = .terminal call →
      KeepsRows platform DEFAULT_VIRTUAL_TERMINAL_LIMITS hub.terminal call := by
    rintro call rfl
    exact hcompletes
  rcases ShadowTuiHub.step_cases hsound.sized hkeeps hstep with
    hquiet | ⟨id, options, cursor, next, rfl, hcontrol, hquiet, hopens⟩ |
      ⟨rfl, ⟨frame, hpublishes⟩ | hends⟩
  · exact ⟨fun hopen => (h (hquiet.disposed hopen)).quiet hsound hquiet,
      fun _ hsequence => absurd hquiet.sequence hsequence⟩
  · refine ⟨fun hopen => ?_, fun hpublish => by cases hpublish⟩
    have hbefore : next.disposed = false := by
      obtain ⟨channel, _, _, rfl, _⟩ := hopens.opened
      exact hopen
    exact ((h (hquiet.disposed hbefore)).quiet hsound hquiet).opens (hsound.quiet hquiet)
      (takeControl_covers hcontrol hcompletes) hopens
  · have hopen : hub.disposed = false := by
      obtain ⟨hopen, hstep⟩ := ite_none_left_eq_some.mp hstep
      simpa using hopen
    obtain ⟨hcarries, hshows⟩ := (h hopen).publishes hsound hpublishes hpresents hcompletes
    exact ⟨fun _ => hcarries, fun _ _ => hshows⟩
  · refine ⟨fun hopen => ?_, fun _ _ channel hmem => ?_⟩
    · rw [hends.disposed] at hopen
      cases hopen
    · rw [hends.channels] at hmem
      cases hmem

/-- What holds of a hub in such a run. -/
structure Converges (hub : ShadowTuiHub) : Prop where
  sound : Sound hub
  carries : hub.disposed = false → Carries hub

theorem converges_step {event : ShadowTuiHub.Step} (h : Converges hub)
    (hcompletes : Completes parseCursor platform hub event) (hpresents : Presents hub event)
    (hstep : ShadowTuiHub.step parseCursor platform limits hub event = some hub') : Converges hub' := by
  refine ⟨sound_step h.sound (fun call hcall => ?_) hpresents hstep,
    (carries_step h.sound h.carries hcompletes hpresents hstep).1⟩
  subst hcall
  exact hcompletes

/-- **Viewers converge.**  In every run in which writes erase rows within the grid alone, channels
are opened with every row that is not blank, and titles and texts are within the bounds of a viewer
and not cleared, every viewer shows the terminal after each publication. -/
theorem viewers_converge {columns rows : Nat} {t u : VirtualTerminal} {calls : List TerminalEvent}
    {steps : List ShadowTuiHub.Step} {mid : ShadowTuiHub}
    (hconstruct : VirtualTerminal.construct DEFAULT_VIRTUAL_TERMINAL_LIMITS columns rows = some t)
    (hkeeps : Meets (terminalStep platform DEFAULT_VIRTUAL_TERMINAL_LIMITS)
      (KeepsRows platform DEFAULT_VIRTUAL_TERMINAL_LIMITS) t calls)
    (hcalls : run (terminalStep platform DEFAULT_VIRTUAL_TERMINAL_LIMITS) t calls = some u)
    (hinit : ShadowTuiHub.init identity u = some hub) (hpresentable : Presentable u true)
    (hbytes : hub.snapshot.bytes ≤ MAX_FRAME_BYTES)
    (hmeets : Meets (ShadowTuiHub.step parseCursor platform limits)
      (fun hub event => Completes parseCursor platform hub event ∧ Presents hub event) hub
      (steps ++ [.publish]))
    (hrun : run (ShadowTuiHub.step parseCursor platform limits) hub steps = some mid)
    (hpublish : ShadowTuiHub.step parseCursor platform limits mid .publish = some hub')
    (hsequence : hub'.sequence ≠ mid.sequence) :
    ∀ channel ∈ hub'.channels, ∃ state, channel.viewer = .ok state ∧ Shows hub'.terminal state := by
  have hsized := sized_of_calls (Sized.construct hconstruct) (fun _ _ _ hok => hok) hkeeps hcalls
  obtain ⟨hmeets, ⟨hcompletes, hpresents⟩, _⟩ := meets_append hrun hmeets
  have hstart : Converges hub := ⟨.init hsized hpresentable hinit hbytes, fun _ => .init hsized hinit⟩
  obtain ⟨hsound, hcarries⟩ :=
    run_invariant_of_meets (fun _ _ _ hs hok => converges_step hs hok.1 hok.2) hstart hmeets hrun
  exact (carries_step hsound hcarries hcompletes hpresents hpublish).2 rfl hsequence

end

theorem completes_of_by {parseCursor : JsString → Option ParsedCursor} {platform : TerminalPlatform}
    (hub : ShadowTuiHub) (event : ShadowTuiHub.Step)
    (h : Completes parseCursor platform hub event ∧ presentedBy platform hub event = true) :
    Completes parseCursor platform hub event ∧ Presents hub event :=
  ⟨h.1, (presented_of_by hub event h.2).2⟩

/-- Both lines are written after the first frame, in a frame each, and a channel is opened with the
cursor of the first snapshot. -/
def coveredSteps : List ShadowTuiHub.Step :=
  [.openChannel (text "c") exampleOptions none, .terminal (.write (text "\rb")), .publish,
    .terminal (.write (text "\r\nc")), .publish,
    .openChannel (text "d") exampleOptions (some (text "x")), .terminal (.write (text "d"))]

theorem viewers_converge_covered :
    ∃ t u hub mid hub',
      VirtualTerminal.construct DEFAULT_VIRTUAL_TERMINAL_LIMITS 4 2 = some t ∧
        run (terminalStep plainPlatform DEFAULT_VIRTUAL_TERMINAL_LIMITS) t [.write (text "a")] = some u ∧
        ShadowTuiHub.init exampleIdentity u = some hub ∧
        run (ShadowTuiHub.step firstCursor plainPlatform exampleLimits) hub coveredSteps = some mid ∧
        ShadowTuiHub.step firstCursor plainPlatform exampleLimits mid .publish = some hub' ∧
        hub'.channels.length = 2 ∧
        ∀ channel ∈ hub'.channels, ∃ state, channel.viewer = .ok state ∧ Shows hub'.terminal state := by
  obtain ⟨t, hconstruct, hkeeps, u, hcalls, hu, hub, hinit, hbytes, hmeets, mid, hsteps, hub', hpublish,
      hlength, hsequence⟩ :
      ∃ t, VirtualTerminal.construct DEFAULT_VIRTUAL_TERMINAL_LIMITS 4 2 = some t ∧
        Meets (terminalStep plainPlatform DEFAULT_VIRTUAL_TERMINAL_LIMITS)
          (KeepsRows plainPlatform DEFAULT_VIRTUAL_TERMINAL_LIMITS) t [.write (text "a")] ∧
        ∃ u, run (terminalStep plainPlatform DEFAULT_VIRTUAL_TERMINAL_LIMITS) t [.write (text "a")] =
            some u ∧ presentableBy u true = true ∧
          ∃ hub, ShadowTuiHub.init exampleIdentity u = some hub ∧ hub.snapshot.bytes ≤ MAX_FRAME_BYTES ∧
            Meets (ShadowTuiHub.step firstCursor plainPlatform exampleLimits)
              (fun hub event => Completes firstCursor plainPlatform hub event ∧
                presentedBy plainPlatform hub event = true) hub (coveredSteps ++ [.publish]) ∧
            ∃ mid, run (ShadowTuiHub.step firstCursor plainPlatform exampleLimits) hub coveredSteps =
                some mid ∧
              ∃ hub', ShadowTuiHub.step firstCursor plainPlatform exampleLimits mid .publish =
                some hub' ∧ hub'.channels.length = 2 ∧ hub'.sequence ≠ mid.sequence := by
    decide +kernel
  exact ⟨t, u, hub, mid, hub', hconstruct, hcalls, hinit, hsteps, hpublish, hlength,
    viewers_converge hconstruct hkeeps hcalls hinit (presentable_of_by hu) hbytes
      (meets_weaken completes_of_by hmeets) hsteps hpublish hsequence⟩

/-! ## A row that is not sent -/

/-- The second line is written after the first frame, and a channel is opened after the second
one. -/
def uncoveredSteps : List ShadowTuiHub.Step :=
  [.terminal (.write (text "\r\nb")), .publish, .openChannel (text "c") exampleOptions none,
    .terminal (.write (text "c"))]

set_option synthInstance.maxSize 256 in
theorem viewer_lacks_rows :
    ∃ t u hub mid hub',
      VirtualTerminal.construct DEFAULT_VIRTUAL_TERMINAL_LIMITS 4 2 = some t ∧
        run (terminalStep plainPlatform DEFAULT_VIRTUAL_TERMINAL_LIMITS) t [.write (text "a")] = some u ∧
        ShadowTuiHub.init exampleIdentity u = some hub ∧
        hub.snapshot.bytes ≤ exampleLimits.maxFrameBytes ∧
        Meets (ShadowTuiHub.step firstCursor plainPlatform exampleLimits)
          (fun hub event => AcceptsStep plainPlatform hub event ∧ Presents hub event) hub uncoveredSteps ∧
        run (ShadowTuiHub.step firstCursor plainPlatform exampleLimits) hub uncoveredSteps = some mid ∧
        ShadowTuiHub.step firstCursor plainPlatform exampleLimits mid .publish = some hub' ∧
        hub'.sequence ≠ mid.sequence ∧
        ¬∀ channel ∈ hub'.channels, ∃ state, channel.viewer = .ok state ∧ Shows hub'.terminal state := by
  obtain ⟨t, hconstruct, u, hcalls, hub, hinit, hbytes, hpresented, mid, hsteps, hub', hpublish,
      hsequence, hrows, channel, hchannel, state, hstate, hmissing⟩ :
      ∃ t, VirtualTerminal.construct DEFAULT_VIRTUAL_TERMINAL_LIMITS 4 2 = some t ∧
        ∃ u, run (terminalStep plainPlatform DEFAULT_VIRTUAL_TERMINAL_LIMITS) t [.write (text "a")] =
            some u ∧
          ∃ hub, ShadowTuiHub.init exampleIdentity u = some hub ∧
            hub.snapshot.bytes ≤ exampleLimits.maxFrameBytes ∧
            Meets (ShadowTuiHub.step firstCursor plainPlatform exampleLimits)
              (fun hub event => presentedBy plainPlatform hub event = true) hub uncoveredSteps ∧
            ∃ mid, run (ShadowTuiHub.step firstCursor plainPlatform exampleLimits) hub uncoveredSteps =
                some mid ∧
              ∃ hub', ShadowTuiHub.step firstCursor plainPlatform exampleLimits mid .publish =
                  some hub' ∧ hub'.sequence ≠ mid.sequence ∧ 0 < hub'.terminal.rows ∧
                ∃ channel ∈ hub'.channels, ∃ state, channel.viewer = .ok state ∧
                  (lineOf state.rows 0).getD [] ≠ shownRow hub'.terminal 0 := by
    decide +kernel
  refine ⟨t, u, hub, mid, hub', hconstruct, hcalls, hinit, hbytes, meets_weaken presented_of_by hpresented,
    hsteps, hpublish, hsequence, fun hall => ?_⟩
  obtain ⟨_, hfound, hshows⟩ := hall channel hchannel
  rw [hfound] at hstate
  cases hstate
  exact hmissing (hshows.rows 0 hrows)

end PiDaemon.Viewing
