import PiDaemon.Viewing.Turns

/-!
# Viewers take every frame

A viewer that has been opened at any moment, with any cursor, takes every frame that a hub
publishes as long as the titles and texts are within its bounds.

* `Sound`: the terminal is within the bounds of a frame, the replay holds the last deltas one
  after the other, and no viewer has refused a frame;
* `frames_accepted`: so it is in every run that presents only such titles and texts;
* `title_refused`: a title that the terminal takes and the viewer does not.
-/

namespace PiDaemon.Viewing

open Lib Streams Terminal Shadow List

/-! ## Viewers -/

/-- A viewer that has taken every frame. -/
structure Current (identity : DashboardSessionIdentity) (sequence : Nat) (state : TuiFrameStoreState) :
    Prop where
  identity : state.identity = identity
  sequence : state.sequence = 0 ∨ state.sequence = sequence
  status : state.status ≠ .conflict
  conflict : state.conflict = none
  dropped : state.droppedDeltas = 0

/-- What a viewer is after a delta that it takes. -/
def takeDelta (state : TuiFrameStoreState) (delta : DashboardTuiDelta) : TuiFrameStoreState :=
  { state with
    dimensions := delta.dimensions
    rows := mergeRows state delta.dimensions (keepDelta delta).changedRows
    cursor := delta.cursorState
    title := (keepDelta delta).title.or state.title
    highWaterCursor := delta.cursor
    sequence := delta.sequence
    revision := state.revision + 1
    status := .ready
    replayGap := none
    conflict := none }

/-- A viewer that has been opened with a snapshot that it takes. -/
def takeSnapshot (snapshot : DashboardTuiSnapshot) (role : DashboardControllerRole) :
    TuiFrameStoreState where
  identity := snapshot.identity
  role
  dimensions := snapshot.dimensions
  rows := (keepSnapshot snapshot).rows
  cursor := snapshot.cursor
  title := (keepSnapshot snapshot).title
  highWaterCursor := snapshot.highWaterCursor
  sequence := 0
  revision := 1
  status := .ready
  droppedDeltas := 0
  replayGap := none
  conflict := none

/-- A delta that a viewer takes. -/
def DeltaFits (delta : DashboardTuiDelta) : Prop :=
  FrameFits delta.bytes delta.dimensions delta.changedRows delta.cursorState delta.title

/-- A snapshot that a viewer takes. -/
def SnapshotFits (snapshot : DashboardTuiSnapshot) : Prop :=
  FrameFits snapshot.bytes snapshot.dimensions snapshot.rows snapshot.cursor snapshot.title

/-- The events of a channel. -/
def reduceAll (state : TuiFrameStoreState) (events : List DashboardTuiChannelEvent) :
    TuiFrameStoreState :=
  events.foldl (fun state event => tuiFrameStoreReducer state (.event event)) state

/-- The two show the same. -/
structure SameView (state state' : TuiFrameStoreState) : Prop where
  dimensions : state'.dimensions = state.dimensions
  rows : state'.rows = state.rows
  cursor : state'.cursor = state.cursor
  title : state'.title = state.title

section
variable {identity : DashboardSessionIdentity} {sequence : Nat} {state : TuiFrameStoreState}
  {delta : DashboardTuiDelta} {snapshot : DashboardTuiSnapshot}

theorem createTuiFrameStore_ok (h : SnapshotFits snapshot) (role : DashboardControllerRole) :
    createTuiFrameStore snapshot role = .ok (takeSnapshot snapshot role) := by
  rw [createTuiFrameStore, normalizeSnapshot_ok h]
  rfl

theorem current_takeSnapshot (snapshot : DashboardTuiSnapshot) (role : DashboardControllerRole)
    (sequence : Nat) : Current snapshot.identity sequence (takeSnapshot snapshot role) :=
  ⟨rfl, .inl rfl, (fun h => by cases h), rfl, rfl⟩

section
variable (h : Current identity sequence state)
include h

theorem applyDelta_eq (hidentity : delta.identity = identity)
    (hfits : DeltaFits delta) (hnext : delta.sequence = sequence + 1) :
    applyDelta state delta = takeDelta state delta := by
  have hsequence := h.sequence
  rw [applyDelta, if_neg (by rw [h.identity, hidentity]; exact not_not_intro rfl),
    if_neg (by omega), if_neg (by omega), if_neg (by omega), normalizeDelta_ok hfits]
  rfl

theorem current_takeDelta (delta : DashboardTuiDelta) :
    Current identity delta.sequence (takeDelta state delta) :=
  ⟨h.identity, .inr rfl, (fun h => by cases h), rfl, h.dropped⟩

/-- A notice changes nothing that is shown. -/
theorem Current.notice {event : DashboardTuiChannelEvent}
    (hnotice : Notice identity event) :
    Current identity sequence (tuiFrameStoreReducer state (.event event)) ∧
      SameView state (tuiFrameStoreReducer state (.event event)) := by
  cases event with
  | delta delta => exact hnotice.elim
  | control control =>
    have hsame : control.identity = identity := hnotice
    rw [tuiFrameStoreReducer, if_neg (by rw [h.identity, hsame]; exact not_not_intro rfl)]
    exact ⟨⟨h.identity, h.sequence, h.status, h.conflict, h.dropped⟩, rfl, rfl, rfl, rfl⟩
  | replayGap gap =>
    have hsame : gap.identity = identity := hnotice
    rw [tuiFrameStoreReducer, if_neg (by rw [h.identity, hsame]; exact not_not_intro rfl)]
    exact ⟨⟨h.identity, h.sequence, (fun h => by cases h), h.conflict, h.dropped⟩, rfl, rfl, rfl, rfl⟩

theorem Current.notices {events : List DashboardTuiChannelEvent}
    (hnotices : ∀ event ∈ events, Notice identity event) :
    Current identity sequence (reduceAll state events) ∧ SameView state (reduceAll state events) := by
  induction events generalizing state with
  | nil => exact ⟨h, rfl, rfl, rfl, rfl⟩
  | cons event events ih =>
    obtain ⟨hnext, hview⟩ := h.notice (hnotices event mem_cons_self)
    obtain ⟨hlast, hview'⟩ := ih hnext fun other hother => hnotices other (mem_cons_of_mem _ hother)
    exact ⟨hlast, hview'.dimensions.trans hview.dimensions, hview'.rows.trans hview.rows,
      hview'.cursor.trans hview.cursor, hview'.title.trans hview.title⟩

end

end

/-! ## Replays -/

/-- The last deltas, one after the other, each of which a viewer takes. -/
structure Retained (identity : DashboardSessionIdentity) (sequence : Nat)
    (replay : List RetainedDelta) : Prop where
  length_le : replay.length ≤ sequence
  sequences : replay.map RetainedDelta.sequence =
    List.range' (sequence - replay.length + 1) replay.length
  entries : ∀ entry ∈ replay, entry.delta.identity = identity ∧
    entry.delta.sequence = entry.sequence ∧ DeltaFits entry.delta

section
variable {identity : DashboardSessionIdentity} {sequence : Nat} {replay rest : List RetainedDelta}
  {entry : RetainedDelta} {state : TuiFrameStoreState}

theorem Retained.nil (identity : DashboardSessionIdentity) (sequence : Nat) :
    Retained identity sequence [] :=
  ⟨Nat.zero_le _, rfl, fun _ h => absurd h not_mem_nil⟩

theorem Retained.suffix (h : Retained identity sequence replay) (hrest : rest <:+ replay) :
    Retained identity sequence rest := by
  obtain ⟨_, rfl⟩ := hrest
  have hlength := h.length_le
  rw [length_append] at hlength
  refine ⟨by omega, ?_, fun entry hentry => h.entries entry (mem_append_right _ hentry)⟩
  have hsequences := h.sequences
  rw [map_append, length_append, ← range'_append_1] at hsequences
  have hrest := (append_inj hsequences (by simp)).2
  rw [hrest]
  congr 1
  omega

theorem Retained.concat (h : Retained identity sequence replay) (hidentity : entry.delta.identity = identity)
    (hsequence : entry.sequence = sequence + 1) (hdelta : entry.delta.sequence = entry.sequence)
    (hfits : DeltaFits entry.delta) : Retained identity (sequence + 1) (replay ++ [entry]) := by
  have hlength := h.length_le
  refine ⟨by simp [hlength], ?_, fun other hother => ?_⟩
  · have hstart : sequence + 1 - (replay.length + 1) + 1 = sequence - replay.length + 1 := by omega
    rw [map_append, h.sequences, length_append, length_singleton, hstart,
      range'_concat, map_singleton]
    congr 2
    omega
  · rcases mem_append.mp hother with hold | hnew
    · exact h.entries other hold
    · rw [mem_singleton.mp hnew]
      exact ⟨hidentity, hdelta, hfits⟩

/-- A viewer after some deltas that it takes. -/
def takeAll (state : TuiFrameStoreState) (entries : List RetainedDelta) : TuiFrameStoreState :=
  entries.foldl (fun state entry => takeDelta state entry.delta) state

theorem Current.after {start : Nat} (h : Current identity start state)
    (hsequences : rest.map RetainedDelta.sequence = List.range' (start + 1) rest.length)
    (hentries : ∀ entry ∈ rest, entry.delta.identity = identity ∧
      entry.delta.sequence = entry.sequence ∧ DeltaFits entry.delta) :
    reduceAll state (rest.map fun entry => .delta entry.delta) = takeAll state rest ∧
      Current identity (start + rest.length) (takeAll state rest) := by
  unfold reduceAll takeAll
  rw [foldl_map]
  induction rest generalizing state start with
  | nil => exact ⟨rfl, h⟩
  | cons entry rest ih =>
    rw [map_cons, length_cons, range'_succ, List.cons.injEq] at hsequences
    obtain ⟨hidentity, hdelta, hfits⟩ := hentries entry mem_cons_self
    rw [hsequences.1] at hdelta
    have happly := applyDelta_eq h hidentity hfits hdelta
    have hnext := current_takeDelta h entry.delta
    rw [hdelta] at hnext
    obtain ⟨heq, hlast⟩ := ih hnext hsequences.2 fun other hother =>
      hentries other (mem_cons_of_mem _ hother)
    rw [foldl_cons, tuiFrameStoreReducer, happly, length_cons]
    refine ⟨heq, ?_⟩
    have hcount : start + (rest.length + 1) = start + 1 + rest.length := by omega
    rw [hcount]
    exact hlast

theorem filter_later (p : Int) {start : Nat}
    (h : replay.map RetainedDelta.sequence = List.range' start replay.length) :
    (replay.filter fun entry => (entry.sequence : Int) > p) <:+ replay := by
  induction replay generalizing start with
  | nil => exact suffix_refl _
  | cons entry rest ih =>
    rw [map_cons, length_cons, range'_succ, List.cons.injEq] at h
    by_cases hlater : (entry.sequence : Int) > p
    · have hall : ∀ other ∈ entry :: rest, decide ((other.sequence : Int) > p) = true := by
        intro other hother
        rcases mem_cons.mp hother with rfl | hother
        · exact decide_eq_true hlater
        have hmem : other.sequence ∈ rest.map RetainedDelta.sequence := mem_map_of_mem hother
        rw [h.2, mem_range'_1] at hmem
        exact decide_eq_true (by omega)
      exact (filter_eq_self.mpr hall).symm ▸ suffix_refl _
    · rw [filter_cons_of_neg (by simpa using hlater)]
      exact (ih h.2).trans (suffix_cons _ _)

theorem eventsAfter_cases {hub : ShadowTuiHub} (h : Retained identity hub.sequence hub.replay)
    (parseCursor : JsString → Option ParsedCursor) (cursor : Option JsString) :
    (∀ event ∈ hub.eventsAfter parseCursor cursor, Notice hub.identity event) ∨
      ∃ rest, rest <:+ hub.replay ∧
        hub.eventsAfter parseCursor cursor = rest.map fun entry => .delta entry.delta := by
  have hgap : ∀ cursor reason oldest, ∀ event ∈ [hub.gap cursor reason oldest],
      Notice hub.identity event := by
    intro cursor reason oldest event hevent
    rw [mem_singleton.mp hevent]
    rfl
  cases cursor with
  | none => exact .inl fun event hevent => absurd hevent not_mem_nil
  | some cursor =>
    rw [ShadowTuiHub.eventsAfter]
    split
    · exact .inl (hgap _ _ _)
    split
    · exact .inl (hgap _ _ _)
    split
    · exact .inl (hgap _ _ _)
    split
    · exact .inl fun event hevent => absurd hevent not_mem_nil
    split
    · exact .inl (hgap _ _ _)
    split
    · exact .inl (hgap _ _ _)
    · exact .inr ⟨_, filter_later _ h.sequences, rfl⟩

end

/-! ## Hubs -/

/-- No viewer has refused a frame. -/
structure Sound (hub : ShadowTuiHub) : Prop where
  sized : Sized hub.terminal
  identity : hub.snapshot.identity = hub.identity
  snapshot : SnapshotFits hub.snapshot
  replay : Retained hub.identity hub.sequence hub.replay
  viewers : ∀ channel ∈ hub.channels, ∃ state, channel.viewer = .ok state ∧
    Current hub.identity hub.sequence state

section
variable {parseCursor : JsString → Option ParsedCursor} {platform : TerminalPlatform}
  {limits : ShadowTuiHostLimits} {hub hub' : ShadowTuiHub} {identity : DashboardSessionIdentity}

theorem Hears.current {viewer viewer' : Except String TuiFrameStoreState} {state : TuiFrameStoreState}
    {sequence : Nat} (h : Hears identity viewer viewer') (hviewer : viewer = .ok state)
    (hstate : Current identity sequence state) :
    ∃ state', viewer' = .ok state' ∧ Current identity sequence state' ∧ SameView state state' := by
  obtain ⟨events, hevents, rfl⟩ := h
  obtain ⟨hcurrent, hsame⟩ := hstate.notices hevents
  exact ⟨reduceAll state events, by rw [hviewer]; rfl, hcurrent, hsame⟩

theorem Sound.quiet (h : Sound hub) (hquiet : hub.Quiet hub') : Sound hub' := by
  refine ⟨hquiet.terminal.sized, ?_, ?_, ?_, fun channel' hmem => ?_⟩
  · rw [hquiet.snapshot, hquiet.identity]
    exact h.identity
  · rw [hquiet.snapshot]
    exact h.snapshot
  · rw [hquiet.identity, hquiet.sequence]
    rcases hquiet.replay with hsame | hnil
    · exact hsame ▸ h.replay
    · exact hnil ▸ .nil _ _
  · obtain ⟨channel, hchannel, hears⟩ := hquiet.channels channel' hmem
    obtain ⟨_, hviewer, hstate⟩ := h.viewers channel hchannel
    obtain ⟨state', hviewer', hstate', _⟩ := hears.current hviewer hstate
    rw [hquiet.identity, hquiet.sequence]
    exact ⟨state', hviewer', hstate'⟩

theorem Sound.opened (h : Sound hub) (parseCursor : JsString → Option ParsedCursor)
    (cursor : Option JsString) (role : DashboardControllerRole)
    {notices : List DashboardTuiChannelEvent} (hnotices : ∀ event ∈ notices, Notice hub.identity event) :
    ∃ rest state, rest <:+ hub.replay ∧
      (∀ delta, .delta delta ∈ hub.eventsAfter parseCursor cursor → ∃ entry ∈ rest, entry.delta = delta) ∧
      reduceAll (takeSnapshot hub.snapshot role) (hub.eventsAfter parseCursor cursor ++ notices) =
        state ∧
      Current hub.identity hub.sequence state ∧
      SameView (takeAll (takeSnapshot hub.snapshot role) rest) state := by
  have hsplit : ∀ events : List DashboardTuiChannelEvent,
      reduceAll (takeSnapshot hub.snapshot role) (events ++ notices) =
        reduceAll (reduceAll (takeSnapshot hub.snapshot role) events) notices := fun _ =>
    foldl_append
  have hstart : ∀ sequence, Current hub.identity sequence (takeSnapshot hub.snapshot role) := fun sequence =>
    h.identity ▸ current_takeSnapshot hub.snapshot role sequence
  rw [hsplit]
  rcases eventsAfter_cases h.replay parseCursor cursor with hquiet | ⟨rest, hrest, heq⟩
  · obtain ⟨hcurrent, hsame⟩ := (hstart hub.sequence).notices hquiet
    obtain ⟨hlast, hsame'⟩ := hcurrent.notices hnotices
    exact ⟨[], _, nil_suffix, fun delta hdelta => (hquiet _ hdelta).elim, rfl, hlast, hsame'.dimensions.trans hsame.dimensions,
      hsame'.rows.trans hsame.rows, hsame'.cursor.trans hsame.cursor, hsame'.title.trans hsame.title⟩
  · have hretained := h.replay.suffix hrest
    obtain ⟨hreduce, hcurrent⟩ := (hstart (hub.sequence - rest.length)).after hretained.sequences
      hretained.entries
    rw [Nat.sub_add_cancel hretained.length_le] at hcurrent
    obtain ⟨hlast, hsame⟩ := hcurrent.notices hnotices
    refine ⟨rest, _, hrest, fun delta hdelta => ?_, rfl, ?_, ?_⟩
    · rw [heq] at hdelta
      obtain ⟨entry, hentry, hsame⟩ := mem_map.mp hdelta
      cases hsame
      exact ⟨entry, hentry, rfl⟩
    · rw [heq, hreduce]
      exact hlast
    · rw [heq, hreduce]
      exact hsame

theorem Sound.opens (h : Sound hub) {cursor : Option JsString}
    (hopens : ShadowTuiHub.Opens parseCursor cursor hub hub') : Sound hub' := by
  obtain ⟨_, role, _, rfl, hnotices, hviewer⟩ := hopens.opened
  refine ⟨h.sized, h.identity, h.snapshot, h.replay, fun other hother => ?_⟩
  rcases mem_append.mp hother with hold | hnew
  · exact h.viewers other hold
  rw [mem_singleton.mp hnew, hviewer, createTuiFrameStore_ok h.snapshot]
  obtain ⟨_, state, _, _, hstate, hcurrent, _⟩ :=
    h.opened parseCursor cursor role hnotices
  exact ⟨state, congrArg Except.ok hstate, hcurrent⟩

/-- The frame of a publication is one that a viewer takes. -/
theorem Sound.published_fits (h : Sound hub) {frame : VirtualTerminalFrame}
    (hpublishes : ShadowTuiHub.Publishes limits hub frame hub')
    (hpresentable : Presentable hub.terminal false) :
    DeltaFits (hub.nextDelta frame) ∧ SnapshotFits hub'.snapshot := by
  have hframes := takeFrame_frames hpublishes.taken
  have hbytes : (hub.nextDelta frame).bytes ≤ MAX_FRAME_BYTES :=
    hpublishes.bytes.trans limits.maxFrameBytes_le
  refine ⟨frame_fits h.sized hframes hpresentable hbytes, ?_⟩
  rw [hpublishes.snapshot]
  refine frame_fits h.sized hframes hpresentable ?_
  exact (snapshot_bytes_le _ (hub.nextDelta frame).sequence).trans hbytes

theorem Sound.publishes (h : Sound hub) {frame : VirtualTerminalFrame}
    (hpublishes : ShadowTuiHub.Publishes limits hub frame hub')
    (hpresentable : Presentable hub.terminal false) : Sound hub' := by
  obtain ⟨hdelta, hsnapshot⟩ := h.published_fits hpublishes hpresentable
  refine ⟨h.sized.takeFrame hpublishes.taken, ?_, hsnapshot, ?_, fun channel' hmem => ?_⟩
  · rw [hpublishes.snapshot, hpublishes.identity]
    rfl
  · rw [hpublishes.identity, hpublishes.sequence]
    have hnext : Retained hub.identity (hub.sequence + 1) (hub.replay ++ [hub.nextRetained frame]) :=
      h.replay.concat rfl rfl rfl hdelta
    exact hnext.suffix hpublishes.replay
  · rw [hpublishes.channels] at hmem
    obtain ⟨channel, hchannel, rfl⟩ := mem_map.mp hmem
    obtain ⟨state, hviewer, hstate⟩ := h.viewers channel hchannel
    refine ⟨takeDelta state (hub.nextDelta frame), ?_, ?_⟩
    · have happly : applyDelta state (hub.nextDelta frame) = takeDelta state (hub.nextDelta frame) :=
        applyDelta_eq hstate rfl hdelta rfl
      rw [ShadowTuiChannel.deliver, ShadowTuiChannel.deliverAll, hviewer]
      exact congrArg Except.ok happly
    · rw [hpublishes.identity, hpublishes.sequence]
      exact current_takeDelta hstate (hub.nextDelta frame)

theorem Sound.ends (h : Sound hub) (hends : ShadowTuiHub.Ends hub hub') : Sound hub' := by
  refine ⟨hends.terminal, ?_, ?_, ?_, fun channel hmem => ?_⟩
  · rw [hends.snapshot, hends.identity]
    exact h.identity
  · rw [hends.snapshot]
    exact h.snapshot
  · rw [hends.replay]
    exact .nil _ _
  · rw [hends.channels] at hmem
    cases hmem

theorem Sound.init {t : VirtualTerminal} (h : Sized t) (hpresentable : Presentable t true)
    (hinit : ShadowTuiHub.init identity t = some hub)
    (hbytes : hub.snapshot.bytes ≤ MAX_FRAME_BYTES) : Sound hub := by
  obtain ⟨⟨_, _⟩, htake, rfl⟩ := Option.map_eq_some_iff.mp hinit
  exact ⟨h.takeFrame htake, rfl, frame_fits h (takeFrame_frames htake) hpresentable hbytes, .nil _ _, fun _ hmem => absurd hmem not_mem_nil⟩

/-! ## Runs -/

/-- The terminal takes the call. -/
def Accepts (platform : TerminalPlatform) (t : VirtualTerminal) (event : TerminalEvent) : Prop :=
  (t.call platform DEFAULT_VIRTUAL_TERMINAL_LIMITS event).toOption.isSome = true

instance (platform : TerminalPlatform) (t : VirtualTerminal) (event : TerminalEvent) :
    Decidable (Accepts platform t event) :=
  inferInstanceAs (Decidable (_ = true))

/-- The terminal takes the calls of the view. -/
def AcceptsStep (platform : TerminalPlatform) (hub : ShadowTuiHub) : ShadowTuiHub.Step → Prop
  | .terminal event => Accepts platform hub.terminal event
  | _ => True

instance (platform : TerminalPlatform) (hub : ShadowTuiHub) :
    (event : ShadowTuiHub.Step) → Decidable (AcceptsStep platform hub event)
  | .terminal event => inferInstanceAs (Decidable (Accepts platform hub.terminal event))
  | .publish => .isTrue trivial
  | .openChannel _ _ _ => .isTrue trivial
  | .resizeChannel _ _ => .isTrue trivial
  | .requestControl _ => .isTrue trivial
  | .releaseControl _ => .isTrue trivial
  | .close _ => .isTrue trivial
  | .dispose => .isTrue trivial

/-- The title and the texts of a publication are within the bounds of a viewer. -/
def Presents (hub : ShadowTuiHub) : ShadowTuiHub.Step → Prop
  | .publish => Presentable hub.terminal false
  | _ => True

theorem Accepts.keeps {t : VirtualTerminal} {event : TerminalEvent} (h : Sized t)
    (haccepts : Accepts platform t event) :
    KeepsRows platform DEFAULT_VIRTUAL_TERMINAL_LIMITS t event := by
  unfold Accepts at haccepts
  cases hcall : t.call platform DEFAULT_VIRTUAL_TERMINAL_LIMITS event with
  | returned u => exact call_returned_keeps h.shaped hcall
  | threw u =>
    rw [hcall] at haccepts
    cases haccepts

theorem sized_of_calls {t u : VirtualTerminal} {calls : List TerminalEvent}
    {ok : VirtualTerminal → TerminalEvent → Prop} (h : Sized t)
    (hok : ∀ s event, Sized s → ok s event →
      KeepsRows platform DEFAULT_VIRTUAL_TERMINAL_LIMITS s event)
    (hcalls : Meets (terminalStep platform DEFAULT_VIRTUAL_TERMINAL_LIMITS) ok t calls)
    (hrun : run (terminalStep platform DEFAULT_VIRTUAL_TERMINAL_LIMITS) t calls = some u) :
    Sized u := by
  refine run_invariant_of_meets (fun s event s' hs hevent hstep => ?_) h hcalls hrun
  cases hstep
  exact hs.call (hok s event hs hevent)

theorem sound_step {event : ShadowTuiHub.Step} (h : Sound hub)
    (hkeeps : ∀ call, event = .terminal call →
      KeepsRows platform DEFAULT_VIRTUAL_TERMINAL_LIMITS hub.terminal call)
    (hpresents : Presents hub event)
    (hstep : ShadowTuiHub.step parseCursor platform limits hub event = some hub') : Sound hub' := by
  rcases ShadowTuiHub.step_cases h.sized hkeeps hstep with
    hquiet | ⟨id, options, cursor, next, _, _, hquiet, hopens⟩ | ⟨rfl, ⟨frame, hpublishes⟩ | hends⟩
  · exact h.quiet hquiet
  · exact (h.quiet hquiet).opens hopens
  · exact h.publishes hpublishes hpresents
  · exact h.ends hends

/-- The viewer of a channel has taken its snapshot, and every delta since. -/
def TakesAll (channel : ShadowTuiChannel) : Prop :=
  ∃ state, channel.viewer = .ok state ∧ state.status ≠ .conflict ∧ state.conflict = none ∧
    state.droppedDeltas = 0

/-- **Viewers take every frame.**  In every run of a hub in which the title and the texts of each
publication are within the bounds of a viewer, no viewer ever refuses a snapshot or a delta. -/
theorem frames_accepted {columns rows : Nat} {t u : VirtualTerminal} {calls : List TerminalEvent}
    {steps : List ShadowTuiHub.Step}
    (hconstruct : VirtualTerminal.construct DEFAULT_VIRTUAL_TERMINAL_LIMITS columns rows = some t)
    (haccepts : Meets (terminalStep platform DEFAULT_VIRTUAL_TERMINAL_LIMITS) (Accepts platform) t calls)
    (hcalls : run (terminalStep platform DEFAULT_VIRTUAL_TERMINAL_LIMITS) t calls = some u)
    (hinit : ShadowTuiHub.init identity u = some hub) (hpresentable : Presentable u true)
    (hbytes : hub.snapshot.bytes ≤ limits.maxFrameBytes)
    (hmeets : Meets (ShadowTuiHub.step parseCursor platform limits)
      (fun hub event => AcceptsStep platform hub event ∧ Presents hub event) hub steps)
    (hrun : run (ShadowTuiHub.step parseCursor platform limits) hub steps = some hub') :
    ∀ channel ∈ hub'.channels, TakesAll channel := by
  have hsized := sized_of_calls (Sized.construct hconstruct) (fun s event hs => Accepts.keeps hs)
    haccepts hcalls
  have hsound := run_invariant_of_meets (fun s event s' hs hok hstep => by
    refine sound_step hs (fun call hcall => ?_) hok.2 hstep
    subst hcall
    exact Accepts.keeps hs.sized hok.1)
    (Sound.init hsized hpresentable hinit (hbytes.trans limits.maxFrameBytes_le)) hmeets hrun
  intro channel hchannel
  obtain ⟨state, hviewer, hstate⟩ := hsound.viewers channel hchannel
  exact ⟨state, hviewer, hstate.status, hstate.conflict, hstate.dropped⟩

end

/-! ## A frame that is refused -/

/-- The title and all texts of each row together are within the bounds of a viewer. -/
def presentableBy (t : VirtualTerminal) (force : Bool) : Bool :=
  decide (t.title.length ≤ MAX_TITLE) && (publishedRows t force).all fun r =>
    let runs := (t.projectedRow r).runs.map runFromVirtual
    (runs.all fun run => run.text.length ≤ MAX_RUN_TEXT) &&
      decide (textLength (visibleRuns runs) ≤ MAX_RUN_TEXT)

theorem presentable_of_by {t : VirtualTerminal} {force : Bool} (h : presentableBy t force = true) :
    Presentable t force := by
  rw [presentableBy, Bool.and_eq_true, decide_eq_true_eq, all_eq_true] at h
  refine ⟨h.1, fun r hr => ?_⟩
  have hrow := h.2 r hr
  rw [Bool.and_eq_true, all_eq_true, decide_eq_true_eq] at hrow
  refine ⟨fun run hrun => of_decide_eq_true (hrow.1 run hrun), fun segment hsegment _ => ?_⟩
  obtain ⟨_, _, heq⟩ := hsegment
  have htotal := hrow.2
  rw [← heq, textLength_append, textLength_append] at htotal
  omega

/-- The calls are taken, and the titles and texts of publications are within the bounds. -/
def presentedBy (platform : TerminalPlatform) (hub : ShadowTuiHub) : ShadowTuiHub.Step → Bool
  | .terminal event => decide (Accepts platform hub.terminal event)
  | .publish => presentableBy hub.terminal false
  | _ => true

theorem presented_of_by {platform : TerminalPlatform} (hub : ShadowTuiHub) (event : ShadowTuiHub.Step)
    (h : presentedBy platform hub event = true) :
    AcceptsStep platform hub event ∧ Presents hub event := by
  cases event with
  | terminal call => exact ⟨of_decide_eq_true h, trivial⟩
  | publish => exact ⟨trivial, presentable_of_by h⟩
  | _ => exact ⟨trivial, trivial⟩

def exampleIdentity : DashboardSessionIdentity := ⟨text "h", text "s", 1⟩

def exampleLimits : ShadowTuiHostLimits := ⟨8, 16, 65536, 4096, by decide⟩

def exampleOptions : TuiChannelOptions := ⟨.controller, ⟨2, 4⟩⟩

/-- A channel is opened before a frame, and another one, with the cursor of the first snapshot,
after it. -/
def presentedSteps : List ShadowTuiHub.Step :=
  [.openChannel (text "c") exampleOptions none, .terminal (.write (text "ab")),
    .terminal (.setTitle (text "t")), .publish,
    .openChannel (text "d") exampleOptions (some (text "x")), .terminal (.resize 3 2), .publish]

/-- Every cursor is one of the first snapshot. -/
def firstCursor (_ : JsString) : Option ParsedCursor := some ⟨text "h", text "s", 1, 0⟩

theorem frames_accepted_presented :
    ∃ t u hub hub',
      VirtualTerminal.construct DEFAULT_VIRTUAL_TERMINAL_LIMITS 4 2 = some t ∧
        run (terminalStep plainPlatform DEFAULT_VIRTUAL_TERMINAL_LIMITS) t [.write (text "a")] = some u ∧
        ShadowTuiHub.init exampleIdentity u = some hub ∧
        run (ShadowTuiHub.step firstCursor plainPlatform exampleLimits) hub presentedSteps = some hub' ∧
        hub'.channels.length = 2 ∧ ∀ channel ∈ hub'.channels, TakesAll channel := by
  obtain ⟨t, hconstruct, haccepts, u, hcalls, hu, hub, hinit, hbytes, hpresented, hub', hsteps, hlength⟩ :
      ∃ t, VirtualTerminal.construct DEFAULT_VIRTUAL_TERMINAL_LIMITS 4 2 = some t ∧
        Meets (terminalStep plainPlatform DEFAULT_VIRTUAL_TERMINAL_LIMITS) (Accepts plainPlatform) t
          [.write (text "a")] ∧
        ∃ u, run (terminalStep plainPlatform DEFAULT_VIRTUAL_TERMINAL_LIMITS) t [.write (text "a")] =
            some u ∧ presentableBy u true = true ∧
          ∃ hub, ShadowTuiHub.init exampleIdentity u = some hub ∧
            hub.snapshot.bytes ≤ exampleLimits.maxFrameBytes ∧
            Meets (ShadowTuiHub.step firstCursor plainPlatform exampleLimits)
              (fun hub event => presentedBy plainPlatform hub event = true) hub presentedSteps ∧
            ∃ hub', run (ShadowTuiHub.step firstCursor plainPlatform exampleLimits) hub
              presentedSteps = some hub' ∧ hub'.channels.length = 2 := by
    decide +kernel
  exact ⟨t, u, hub, hub', hconstruct, hcalls, hinit, hsteps, hlength,
    frames_accepted hconstruct haccepts hcalls hinit (presentable_of_by hu) hbytes
      (meets_weaken presented_of_by hpresented) hsteps⟩

/-- A title of one unit more than a viewer takes. -/
def longTitleSteps : List ShadowTuiHub.Step :=
  [.openChannel (text "c") exampleOptions none,
    .terminal (.setTitle (List.replicate (MAX_TITLE + 1) 0x61)), .publish]

theorem title_refused :
    ∃ t hub hub', VirtualTerminal.construct DEFAULT_VIRTUAL_TERMINAL_LIMITS 4 2 = some t ∧
      ShadowTuiHub.init exampleIdentity t = some hub ∧
      hub.snapshot.bytes ≤ exampleLimits.maxFrameBytes ∧
      Meets (ShadowTuiHub.step firstCursor plainPlatform exampleLimits) (AcceptsStep plainPlatform) hub
        longTitleSteps ∧
      run (ShadowTuiHub.step firstCursor plainPlatform exampleLimits) hub longTitleSteps = some hub' ∧
      ¬∀ channel ∈ hub'.channels, TakesAll channel := by
  simp only [exists_and_left, TakesAll]
  decide +kernel

end PiDaemon.Viewing
