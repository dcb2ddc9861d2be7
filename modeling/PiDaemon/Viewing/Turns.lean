import PiDaemon.Viewing.Frames

/-!
# What a turn changes

A turn of a hub leaves its frames as they are, opens a channel, or publishes a frame.

* `Sized`: the terminal is always within the bounds of a frame;
* `Evolves`: what calls do to the terminal between two frames;
* `Quiet`: what every turn does but the opening of a channel and a publication;
* `step_cases`: there is no other turn.
-/

namespace PiDaemon.Viewing

open Lib Streams Terminal Shadow VirtualTerminal List

/-! ## Terminals -/

section
variable {platform : TerminalPlatform} {t u : VirtualTerminal}

theorem Sized.marks {keeps : Prop} (h : Sized t) (hmarks : t.Marks keeps u) : Sized u :=
  ⟨hmarks.shaped h.shaped, hmarks.columns ▸ h.columns, hmarks.rows ▸ h.rows, hmarks.nodup h.nodup⟩

theorem isPositiveInteger_le {value maximum : Nat}
    (h : VirtualTerminal.isPositiveInteger value maximum = true) : value ≤ maximum := by
  rw [VirtualTerminal.isPositiveInteger, Bool.and_eq_true, decide_eq_true_eq, decide_eq_true_eq] at h
  exact h.2

theorem Sized.markAllDirty (hshaped : t.markAllDirty.Shaped)
    (hcolumns : t.columns ≤ DEFAULT_VIRTUAL_TERMINAL_LIMITS.maxColumns)
    (hrows : t.rows ≤ DEFAULT_VIRTUAL_TERMINAL_LIMITS.maxRows) (hnodup : t.dirtyRows.Nodup) :
    Sized t.markAllDirty := by
  have hmarked := nodup_markRows hnodup (List.range t.rows)
  obtain ⟨_, hmark, -⟩ := markRows_eq t (List.range t.rows)
  rw [VirtualTerminal.markAllDirty] at hshaped ⊢
  rw [hmark] at hshaped hmarked ⊢
  exact ⟨hshaped, hcolumns, hrows, hmarked⟩

theorem Sized.construct {columns rows : Nat}
    (h : VirtualTerminal.construct DEFAULT_VIRTUAL_TERMINAL_LIMITS columns rows = some t) :
    Sized t := by
  have hshaped := (construct_eq h).1
  rw [VirtualTerminal.construct] at h
  split at h
  · rename_i hsize
    rw [Bool.and_eq_true] at hsize
    cases h
    exact Sized.markAllDirty hshaped (isPositiveInteger_le hsize.1) (isPositiveInteger_le hsize.2)
      nodup_nil
  · cases h

theorem Sized.resize (h : Sized t) {columns rows : Nat}
    (hresize : t.resize DEFAULT_VIRTUAL_TERMINAL_LIMITS columns rows = some u) : Sized u := by
  rcases resize_cases h.shaped hresize with rfl | hresized
  · exact h
  have hshaped := hresized.shaped
  rw [VirtualTerminal.resize] at hresize
  split at hresize
  · rename_i hsize
    rw [Bool.and_eq_true] at hsize
    split at hresize
    · cases hresize
      exact h
    cases hresize
    exact Sized.markAllDirty hshaped (isPositiveInteger_le hsize.1)
      (isPositiveInteger_le hsize.2) h.nodup
  · cases hresize

theorem Sized.takeFrame (h : Sized t) {force : Bool} {frame : VirtualTerminalFrame}
    (htake : t.takeFrame DEFAULT_VIRTUAL_TERMINAL_LIMITS force = some (frame, u)) : Sized u := by
  obtain ⟨-, rfl⟩ := takeFrame_eq htake
  exact ⟨⟨h.shaped.columns_pos, h.shaped.rows_pos, h.shaped.length, h.shaped.width⟩, h.columns, h.rows,
    nodup_nil⟩

theorem Sized.call (h : Sized t) {event : TerminalEvent}
    (hkeeps : KeepsRows platform DEFAULT_VIRTUAL_TERMINAL_LIMITS t event) :
    Sized (t.call platform DEFAULT_VIRTUAL_TERMINAL_LIMITS event).state := by
  cases event with
  | takeFrame =>
    rw [VirtualTerminal.call]
    split
    · exact h
    · rename_i frame u htake
      exact h.takeFrame htake
  | resize =>
    rw [VirtualTerminal.call]
    split
    · exact h
    · rename_i u hresize
      exact h.resize hresize
  | _ =>
    apply h.marks (call_marks h.shaped hkeeps _ _)
    · intro columns rows heq
      cases heq
    · intro force heq
      cases heq

/-- What is done to the terminal between two frames. -/
structure Evolves (s t : VirtualTerminal) : Prop where
  sized : Sized t
  published : t.published = s.published
  same : t.dimensionsChanged = false → s.dimensionsChanged = false ∧ t.columns = s.columns ∧
    t.rows = s.rows ∧ ∀ r, r ∉ t.dirtyRows → r ∉ s.dirtyRows ∧ t.grid[r]? = s.grid[r]?

theorem Evolves.refl (h : Sized t) : Evolves t t :=
  ⟨h, rfl, fun hsame => ⟨hsame, rfl, rfl, fun _ hr => ⟨hr, rfl⟩⟩⟩

theorem Evolves.trans {s : VirtualTerminal} (h : Evolves s t) (h' : Evolves t u) : Evolves s u := by
  refine ⟨h'.sized, h'.published.trans h.published, fun hsame => ?_⟩
  obtain ⟨hmid, hcolumns, hrows, hgrid⟩ := h'.same hsame
  obtain ⟨hfirst, hcolumns', hrows', hgrid'⟩ := h.same hmid
  refine ⟨hfirst, hcolumns.trans hcolumns', hrows.trans hrows', fun r hr => ?_⟩
  obtain ⟨hr, heq⟩ := hgrid r hr
  obtain ⟨hr, heq'⟩ := hgrid' r hr
  exact ⟨hr, heq.trans heq'⟩

theorem Evolves.marks {keeps : Prop} (h : Sized t) (hmarks : t.Marks keeps u) : Evolves t u :=
  ⟨h.marks hmarks, hmarks.published, fun hsame => ⟨hmarks.dimensionsChanged ▸ hsame, hmarks.columns,
    hmarks.rows, hmarks.unmarked⟩⟩

theorem Evolves.resize (h : Sized t) {columns rows : Nat}
    (hresize : t.resize DEFAULT_VIRTUAL_TERMINAL_LIMITS columns rows = some u) : Evolves t u := by
  rcases resize_cases h.shaped hresize with rfl | hresized
  · exact .refl h
  refine ⟨h.resize hresize, hresized.published, fun hsame => ?_⟩
  rw [hresized.dimensionsChanged] at hsame
  cases hsame

theorem Evolves.call (h : Sized t) {event : TerminalEvent}
    (hkeeps : KeepsRows platform DEFAULT_VIRTUAL_TERMINAL_LIMITS t event)
    (hframe : ShadowTuiHub.isTakeFrame event = false) :
    Evolves t (t.call platform DEFAULT_VIRTUAL_TERMINAL_LIMITS event).state := by
  cases event with
  | takeFrame => cases hframe
  | resize =>
    rw [VirtualTerminal.call]
    split
    · exact .refl h
    · rename_i u hresize
      exact .resize h hresize
  | _ =>
    apply Evolves.marks h (call_marks h.shaped hkeeps _ _)
    · intro columns rows heq
      cases heq
    · intro force heq
      cases heq

end

/-! ## Notices -/

/-- An event of this session that is no delta. -/
def Notice (identity : DashboardSessionIdentity) : DashboardTuiChannelEvent → Prop
  | .delta _ => False
  | .control control => control.identity = identity
  | .replayGap gap => gap.identity = identity

/-- A viewer is told some notices. -/
def Hears (identity : DashboardSessionIdentity) (viewer viewer' : Except String TuiFrameStoreState) :
    Prop :=
  ∃ events : List DashboardTuiChannelEvent, (∀ event ∈ events, Notice identity event) ∧
    viewer' = viewer.map fun state =>
      events.foldl (fun state event => tuiFrameStoreReducer state (.event event)) state

section
variable {identity : DashboardSessionIdentity} {viewer viewer' viewer'' : Except String TuiFrameStoreState}

theorem Hears.refl (identity : DashboardSessionIdentity) (viewer : Except String TuiFrameStoreState) :
    Hears identity viewer viewer := by
  refine ⟨[], fun _ h => absurd h not_mem_nil, ?_⟩
  cases viewer <;> rfl

theorem Hears.trans (h : Hears identity viewer viewer') (h' : Hears identity viewer' viewer'') :
    Hears identity viewer viewer'' := by
  obtain ⟨events, hevents, rfl⟩ := h
  obtain ⟨events', hevents', rfl⟩ := h'
  refine ⟨events ++ events', fun event hevent => ?_, ?_⟩
  · rcases mem_append.mp hevent with hevent | hevent
    · exact hevents event hevent
    · exact hevents' event hevent
  · cases viewer with
    | error => rfl
    | ok => simp [Except.map, foldl_append]

end

/-! ## Quiet turns -/

namespace ShadowTuiHub

/-- No channel is opened, and no frame published. -/
structure Quiet (hub hub' : ShadowTuiHub) : Prop where
  identity : hub'.identity = hub.identity
  snapshot : hub'.snapshot = hub.snapshot
  sequence : hub'.sequence = hub.sequence
  terminal : Evolves hub.terminal hub'.terminal
  replay : hub'.replay = hub.replay ∨ hub'.replay = []
  disposed : hub'.disposed = false → hub.disposed = false
  channels : ∀ channel' ∈ hub'.channels, ∃ channel ∈ hub.channels,
    Hears hub.identity channel.viewer channel'.viewer

section
variable {hub hub' hub'' : ShadowTuiHub}

theorem Quiet.refl (h : Sized hub.terminal) : Quiet hub hub :=
  ⟨rfl, rfl, rfl, .refl h, .inl rfl, id, fun channel hmem => ⟨channel, hmem, .refl _ _⟩⟩

theorem Quiet.trans (h : Quiet hub hub') (h' : Quiet hub' hub'') : Quiet hub hub'' := by
  refine ⟨h'.identity.trans h.identity, h'.snapshot.trans h.snapshot, h'.sequence.trans h.sequence,
    h.terminal.trans h'.terminal, ?_, h.disposed ∘ h'.disposed, fun channel hmem => ?_⟩
  · rcases h'.replay with hsame | hnil
    · exact hsame ▸ h.replay
    · exact .inr hnil
  · obtain ⟨mid, hmid, hears⟩ := h'.channels channel hmem
    obtain ⟨first, hfirst, hears'⟩ := h.channels mid hmid
    exact ⟨first, hfirst, hears'.trans (h.identity ▸ hears)⟩

section
variable (h : Sized hub.terminal)
include h

theorem Quiet.dispose : Quiet hub hub.dispose := by
  rw [ShadowTuiHub.dispose]
  split
  · exact .refl h
  · exact ⟨rfl, rfl, rfl, .refl h, .inr rfl, (fun hopen => by cases hopen),
      fun _ hmem => absurd hmem not_mem_nil⟩

theorem Quiet.broadcast {event : DashboardTuiChannelEvent}
    (hnotice : Notice hub.identity event) : Quiet hub (hub.broadcast event) := by
  refine ⟨rfl, rfl, rfl, .refl h, .inl rfl, (fun hopen => hopen), fun channel' hmem => ?_⟩
  obtain ⟨channel, hchannel, rfl⟩ := mem_map.mp hmem
  refine ⟨channel, hchannel, [event], fun other hother => ?_, rfl⟩
  rw [mem_singleton.mp hother]
  exact hnotice

theorem Quiet.updateChannel {id : JsString}
    {f : ShadowTuiChannel → ShadowTuiChannel}
    (hf : ∀ channel, Hears hub.identity channel.viewer (f channel).viewer) :
    Quiet hub (hub.updateChannel id f) := by
  refine ⟨rfl, rfl, rfl, .refl h, .inl rfl, (fun hopen => hopen), fun channel' hmem => ?_⟩
  obtain ⟨channel, hchannel, rfl⟩ := mem_map.mp hmem
  refine ⟨channel, hchannel, ?_⟩
  split
  · exact hf channel
  · exact .refl _ _

theorem Quiet.setRole (id : JsString) (role : DashboardControllerRole) :
    Quiet hub (hub.updateChannel id fun channel => { channel with role }) :=
  .updateChannel h fun _ => .refl _ _

theorem Quiet.resizeTo (dimensions : TuiDimensions) :
    Attempt.Always (Quiet hub) (hub.resizeTo dimensions) := by
  rw [ShadowTuiHub.resizeTo]
  split
  · exact .refl h
  split
  · exact .refl h
  split
  · exact .refl h
  rename_i terminal hresize
  exact ⟨rfl, rfl, rfl, .resize h hresize, .inl rfl, id,
    fun channel hmem => ⟨channel, hmem, .refl _ _⟩⟩

/-- Who controls the terminal is not seen by a viewer. -/
theorem Quiet.controller (controllerChannelId : Option JsString) :
    Quiet hub { hub with controllerChannelId } :=
  ⟨rfl, rfl, rfl, .refl h, .inl rfl, id, fun channel hmem => ⟨channel, hmem, .refl _ _⟩⟩

section
variable (id : JsString)

theorem Quiet.resizeChannel (dimensions : TuiDimensions) :
    Attempt.Always (Quiet hub) (hub.resizeChannel id dimensions) := by
  have hupdate : Quiet hub (hub.updateChannel id fun channel =>
      { channel with requestedDimensions := dimensions }) := .updateChannel h fun _ => .refl _ _
  rw [ShadowTuiHub.resizeChannel]
  split
  · exact (Quiet.resizeTo hupdate.terminal.sized dimensions).mono fun _ => hupdate.trans
  · exact hupdate

theorem Quiet.requestControl (channel : ShadowTuiChannel) :
    Attempt.Always (Quiet hub) (hub.requestControl channel) := by
  rw [ShadowTuiHub.requestControl]
  split
  · refine Quiet.updateChannel h fun other => ⟨[_], fun event hevent => ?_, rfl⟩
    rw [mem_singleton.mp hevent]
    rfl
  · have hcontroller : Quiet hub { hub with controllerChannelId := some channel.id } :=
      .controller h _
    have hupdate := hcontroller.trans (.setRole hcontroller.terminal.sized channel.id .controller)
    refine ((Quiet.resizeTo hupdate.terminal.sized channel.requestedDimensions).mono
      fun _ => hupdate.trans).andThen fun next hnext => ?_
    exact hnext.trans (.broadcast hnext.terminal.sized rfl)

theorem Quiet.releaseControl : Quiet hub (hub.releaseControl id) := by
  rw [ShadowTuiHub.releaseControl]
  split
  · exact .refl h
  have hcontroller : Quiet hub { hub with controllerChannelId := none } := .controller h _
  have hupdate := hcontroller.trans (.setRole hcontroller.terminal.sized id .observer)
  exact hupdate.trans (.broadcast hupdate.terminal.sized rfl)

theorem Quiet.giveUpControl : Quiet hub (hub.giveUpControl id) := by
  rw [ShadowTuiHub.giveUpControl]
  split
  · have hcontroller : Quiet hub { hub with controllerChannelId := none } := .controller h none
    exact hcontroller.trans (.broadcast hcontroller.terminal.sized rfl)
  · exact .refl h

theorem Quiet.remove : Quiet hub (hub.remove id) := by
  have hfilter : Quiet hub
      { hub with channels := hub.channels.filter fun channel => channel.id ≠ id } :=
    ⟨rfl, rfl, rfl, .refl h, .inl rfl, (fun hopen => hopen),
      fun channel hmem => ⟨channel, mem_of_mem_filter hmem, .refl _ _⟩⟩
  have hrest := hfilter.trans (.giveUpControl hfilter.terminal.sized id)
  rw [ShadowTuiHub.remove]
  split
  · exact hrest.trans (.dispose hrest.terminal.sized)
  · exact hrest

end

end

/-! ## The other turns -/

/-- A viewer is opened with the snapshot of a hub, the events after its cursor and some notices. -/
structure Opens (parseCursor : JsString → Option ParsedCursor) (cursor : Option JsString)
    (hub hub' : ShadowTuiHub) : Prop where
  opened : ∃ channel role notices, hub' = { hub with channels := hub.channels ++ [channel] } ∧
    (∀ event ∈ notices, Notice hub.identity event) ∧
    channel.viewer = (createTuiFrameStore hub.snapshot role).map fun state =>
      (hub.eventsAfter parseCursor cursor ++ notices).foldl
        (fun state event => tuiFrameStoreReducer state (.event event)) state

/-- A frame is published. -/
structure Publishes (limits : ShadowTuiHostLimits) (hub : ShadowTuiHub) (frame : VirtualTerminalFrame)
    (hub' : ShadowTuiHub) : Prop where
  taken : hub.terminal.takeFrame DEFAULT_VIRTUAL_TERMINAL_LIMITS false = some (frame, hub'.terminal)
  bytes : (hub.nextDelta frame).bytes ≤ limits.maxFrameBytes
  identity : hub'.identity = hub.identity
  sequence : hub'.sequence = hub.sequence + 1
  snapshot : hub'.snapshot = snapshotFromFrame hub.identity frame (hub.nextDelta frame).cursor
  replay : hub'.replay <:+ hub.replay ++ [hub.nextRetained frame]
  disposed : hub'.disposed = hub.disposed
  channels : hub'.channels = hub.channels.map (ShadowTuiChannel.deliver (.delta (hub.nextDelta frame)))

/-- A hub is disposed of at a frame that is too large. -/
structure Ends (hub hub' : ShadowTuiHub) : Prop where
  identity : hub'.identity = hub.identity
  snapshot : hub'.snapshot = hub.snapshot
  terminal : Sized hub'.terminal
  replay : hub'.replay = []
  disposed : hub'.disposed = true
  channels : hub'.channels = []

theorem trimReplay_suffix (limits : ShadowTuiHostLimits) (replay : List RetainedDelta) (bytes : Nat) :
    (trimReplay limits replay bytes).1 <:+ replay := by
  induction replay generalizing bytes with
  | nil => exact suffix_refl _
  | cons removed rest ih =>
    rw [trimReplay]
    split
    · exact (ih _).trans (suffix_cons _ _)
    · exact suffix_refl _

theorem publish_cases (limits : ShadowTuiHostLimits) (h : Sized hub.terminal)
    (hopen : hub.disposed = false) :
    hub.publish limits = hub ∨ (∃ frame, Publishes limits hub frame (hub.publish limits)) ∨
      Ends hub (hub.publish limits) := by
  rw [publish]
  split
  · exact .inl rfl
  rename_i frame terminal htake
  simp only
  split
  · refine .inr (.inr ?_)
    have hsized := h.takeFrame htake
    rw [ShadowTuiHub.dispose, if_neg (by simp [hopen])]
    exact ⟨rfl, rfl, hsized, rfl, rfl, rfl⟩
  · rename_i hbytes
    exact .inr (.inl ⟨frame, htake, Nat.not_lt.mp hbytes, rfl, rfl, rfl, trimReplay_suffix _ _ _,
      rfl, rfl⟩)

theorem takeControl_quiet (h : Sized hub.terminal) (id : JsString) (options : TuiChannelOptions) :
    Attempt.Always (Quiet hub) (hub.takeControl id options) := by
  rw [takeControl]
  split
  · have hcontroller : Quiet hub { hub with controllerChannelId := some id } := .controller h _
    exact (Quiet.resizeTo hcontroller.terminal.sized options.dimensions).mono fun _ => hcontroller.trans
  · exact .refl h

theorem addChannel_opens (parseCursor : JsString → Option ParsedCursor) (hub : ShadowTuiHub)
    (id : JsString) (options : TuiChannelOptions) (cursor : Option JsString) (granted : Bool) :
    Opens parseCursor cursor hub (hub.addChannel parseCursor id options cursor granted) := by
  refine ⟨_, _, _, rfl, fun event hevent => ?_, rfl⟩
  split at hevent
  · rw [mem_singleton.mp hevent]
    rfl
  · cases hevent

/-- There is no other turn. -/
theorem step_cases {parseCursor : JsString → Option ParsedCursor} {platform : TerminalPlatform}
    {limits : ShadowTuiHostLimits} {event : Step} (h : Sized hub.terminal)
    (hkeeps : ∀ call, event = .terminal call →
      KeepsRows platform DEFAULT_VIRTUAL_TERMINAL_LIMITS hub.terminal call)
    (hstep : step parseCursor platform limits hub event = some hub') :
    Quiet hub hub' ∨
      (∃ id options cursor next, event = .openChannel id options cursor ∧
        hub.takeControl id options = .returned next ∧ Quiet hub next ∧
        Opens parseCursor cursor next hub') ∨
      event = .publish ∧ ((∃ frame, Publishes limits hub frame hub') ∨ Ends hub hub') := by
  cases event with
  | terminal call =>
    rw [step] at hstep
    split at hstep
    · cases hstep
    rename_i hframe
    cases hstep
    exact .inl ⟨rfl, rfl, rfl, .call h (hkeeps call rfl) (by simpa using hframe), .inl rfl, id,
      fun channel hmem => ⟨channel, hmem, .refl _ _⟩⟩
  | publish =>
    rw [step] at hstep
    split at hstep
    · cases hstep
    rename_i hopen
    cases hstep
    rcases publish_cases limits h (by simpa using hopen) with hsame | hrest
    · rw [hsame]
      exact .inl (.refl h)
    · exact .inr (.inr ⟨rfl, hrest⟩)
  | openChannel id options cursor =>
    rw [step] at hstep
    split at hstep
    · cases hstep
    cases hstep
    rw [openChannel]
    split
    · exact .inl (.refl h)
    split
    · exact .inl (.refl h)
    have hquiet := takeControl_quiet h id options
    cases hcontrol : hub.takeControl id options with
    | threw =>
      rw [hcontrol] at hquiet
      exact .inl hquiet
    | returned next =>
      rw [hcontrol] at hquiet
      exact .inr (.inl ⟨id, options, cursor, next, rfl, hcontrol, hquiet,
        addChannel_opens _ _ _ _ _ _⟩)
  | resizeChannel id dimensions =>
    obtain ⟨channel, _, rfl⟩ := Option.map_eq_some_iff.mp hstep
    exact .inl (.resizeChannel h id dimensions)
  | requestControl =>
    obtain ⟨channel, _, rfl⟩ := Option.map_eq_some_iff.mp hstep
    exact .inl (.requestControl h channel)
  | releaseControl id =>
    obtain ⟨channel, _, rfl⟩ := Option.map_eq_some_iff.mp hstep
    exact .inl (.releaseControl h id)
  | close id =>
    obtain ⟨channel, _, rfl⟩ := Option.map_eq_some_iff.mp hstep
    exact .inl (.remove h id)
  | dispose =>
    cases hstep
    exact .inl (.dispose h)

end

end ShadowTuiHub

end PiDaemon.Viewing
