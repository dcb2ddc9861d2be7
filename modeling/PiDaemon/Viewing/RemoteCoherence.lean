import PiDaemon.Viewing.RemoteHub

/-!
# The snapshots of the remote hub

A delta advances the cursor of the cached snapshot, and leaves its rows, dimensions and title.

* `remote_snapshot_coherent`: so a second channel shows, and goes on to show, what the first
  snapshot shows with all deltas applied if and only if the last snapshot did so when the channel
  was opened;
* `remote_snapshot_stale`: a channel that does not.
-/

namespace PiDaemon.Viewing

open Lib Streams Terminal Shadow List Option

/-! ## What upstream has sent -/

namespace Received

/-- The last snapshot of upstream. -/
def lastSnapshot (received : List Received) : Option DashboardTuiSnapshot :=
  received.foldl (fun last item =>
    match item with
    | .snapshot shown => some shown
    | .delta _ => last) none

/-- The first snapshot of upstream, with all deltas applied. -/
def reference (received : List Received) : Option Screen :=
  received.foldl (fun screen item =>
    match item with
    | .snapshot shown => screen.or (some (.ofSnapshot shown))
    | .delta change => screen.map fun screen => screen.apply change) none

/-- The last snapshot shows what the first one shows with all deltas applied. -/
def SnapshotCurrent (received : List Received) : Prop :=
  ∃ shown screen, lastSnapshot received = some shown ∧ reference received = some screen ∧
    (Screen.ofSnapshot shown).Same screen

variable (received : List Received)

theorem lastSnapshot_snapshot (shown : DashboardTuiSnapshot) :
    lastSnapshot (received ++ [.snapshot shown]) = some shown := by
  simp [lastSnapshot]

theorem lastSnapshot_delta (change : DashboardTuiDelta) :
    lastSnapshot (received ++ [.delta change]) = lastSnapshot received := by
  simp [lastSnapshot]

theorem reference_snapshot (shown : DashboardTuiSnapshot) :
    reference (received ++ [.snapshot shown]) =
      (reference received).or (some (.ofSnapshot shown)) := by
  simp [reference]

theorem reference_delta (change : DashboardTuiDelta) :
    reference (received ++ [.delta change]) =
      (reference received).map fun screen => screen.apply change := by
  simp [reference]

end Received

open Received

/-! ## The frames of a delta -/

theorem delta_bytes_le (delta : DashboardTuiDelta) :
    (DashboardTuiChannelEvent.delta delta).bytes ≤ (RemoteTuiEventFrame.delta delta).bytes := by
  rw [RemoteTuiEventFrame.bytes, bytes_object]
  · rw [membersBytes_cons, membersBytes_cons]
    have hevent : (DashboardTuiChannelEvent.delta delta).bytes = jsonBytes delta.json := rfl
    omega
  · intro member hmember
    simp only [mem_cons, not_mem_nil, or_false] at hmember
    rcases hmember with rfl | rfl <;> rfl

namespace RemoteTuiChannel

theorem screen_deliver_delta (channel : RemoteTuiChannel) (delta : DashboardTuiDelta) :
    (RemoteTuiHub.deliver (.delta delta) channel).screen = channel.screen.apply delta := by
  simp [screen, RemoteTuiHub.deliver, applyEvent]

theorem screen_deliver_other (channel : RemoteTuiChannel) {event : DashboardTuiChannelEvent}
    (h : ∀ delta, event ≠ .delta delta) :
    (RemoteTuiHub.deliver event channel).screen = channel.screen := by
  cases event with
  | delta delta => exact absurd rfl (h delta)
  | control | replayGap => simp [screen, RemoteTuiHub.deliver, applyEvent]

end RemoteTuiChannel

/-! ## Publications -/

namespace RemoteTuiHub

section
variable {limits : RemoteDashboardBackendLimits} {hub hub' : RemoteTuiHub}

section
variable (limits)

theorem trimReplay_eq (retained : List RetainedEvent) (hub : RemoteTuiHub) :
    ∃ events initialPending replayBytes replayBaseCursor, trimReplay limits retained hub =
      { hub with events, initialPending, replayBytes, replayBaseCursor } := by
  induction retained generalizing hub with
  | nil => exact ⟨_, _, _, _, rfl⟩
  | cons removed rest ih =>
    rw [trimReplay]
    split
    · obtain ⟨events, initialPending, replayBytes, replayBaseCursor, heq⟩ := ih _
      exact ⟨events, initialPending, replayBytes, replayBaseCursor, heq⟩
    · exact ⟨_, _, _, _, rfl⟩

theorem publish_eq (hub : RemoteTuiHub) (event : DashboardTuiChannelEvent) :
    ∃ events initialPending replayBytes replayBaseCursor, hub.publish limits event =
      { hub with
        events
        initialPending
        replayBytes
        replayBaseCursor
        channels :=
          if event.bytes > limits.maxEventBytes then hub.channels
          else hub.channels.map (deliver event) } := by
  rw [publish]
  split
  · exact ⟨_, _, _, _, rfl⟩
  obtain ⟨events, initialPending, replayBytes, replayBaseCursor, heq⟩ :=
    trimReplay_eq limits (hub.events ++ [⟨event, event.bytes, eventCursor event⟩])
      { hub with
        initialPending :=
          if hub.channels.isEmpty = true then hub.initialPending ++ [event] else hub.initialPending
        replayBytes := hub.replayBytes + event.bytes }
  simp only [heq]
  exact ⟨events, initialPending, replayBytes, replayBaseCursor, rfl⟩

end

/-! ## A channel that is followed -/

/-- What holds of every hub. -/
structure Sound (limits : RemoteDashboardBackendLimits) (hub : RemoteTuiHub) : Prop where
  bounded : ∀ frame ∈ hub.beforeReady, frame.bytes ≤ limits.maxEventBytes
  ids : ∀ channel ∈ hub.channels, channel.id < hub.opened
  cached : hub.snapshotValue.map Screen.ofSnapshot = (lastSnapshot hub.received).map Screen.ofSnapshot
  referenced : (lastSnapshot hub.received).isSome = true → (reference hub.received).isSome = true

/-- The channel shows what the first snapshot shows with all deltas applied. -/
def Tracks (id : Option Nat) (hub : RemoteTuiHub) : Prop :=
  ∀ channel ∈ hub.channels, some channel.id = id →
    ∃ screen, reference hub.received = some screen ∧ channel.screen.Same screen

/-- A channel that was opened before, when there is one, shows what it should. -/
structure Follows (limits : RemoteDashboardBackendLimits) (id : Option Nat) (hub : RemoteTuiHub) :
    Prop where
  sound : Sound limits hub
  opened : ∀ n ∈ id, n < hub.opened
  tracks : Tracks id hub

theorem Sound.create (sessionRef : JsString) (generation : Nat) :
    Sound limits (create sessionRef generation) where
  bounded := fun _ h => absurd h not_mem_nil
  ids := fun _ h => absurd h not_mem_nil
  cached := rfl
  referenced := id

theorem mem_publish {event : DashboardTuiChannelEvent} {channel : RemoteTuiChannel}
    (h : channel ∈ (hub.publish limits event).channels) :
    ∃ before ∈ hub.channels, channel.id = before.id ∧
      (channel = deliver event before ∨ event.bytes > limits.maxEventBytes ∧ channel = before) := by
  obtain ⟨_, _, _, _, heq⟩ :=
    publish_eq limits hub event
  rw [heq] at h
  split at h
  · rename_i hlarge
    exact ⟨channel, h, rfl, .inr ⟨hlarge, rfl⟩⟩
  · obtain ⟨before, hbefore, rfl⟩ := List.mem_map.mp h
    exact ⟨before, hbefore, rfl, .inl rfl⟩

theorem publish_received (hub : RemoteTuiHub) (event : DashboardTuiChannelEvent) :
    (hub.publish limits event).received = hub.received := by
  obtain ⟨_, _, _, _, heq⟩ :=
    publish_eq limits hub event
  rw [heq]

theorem Sound.publish (h : Sound limits hub) (event : DashboardTuiChannelEvent) :
    Sound limits (hub.publish limits event) := by
  have hids : ∀ channel ∈ (hub.publish limits event).channels, channel.id < hub.opened := by
    intro channel hchannel
    obtain ⟨before, hbefore, hid, _⟩ := mem_publish hchannel
    exact hid ▸ h.ids before hbefore
  obtain ⟨_, _, _, _, heq⟩ :=
    publish_eq limits hub event
  rw [heq] at hids ⊢
  exact ⟨h.bounded, hids, h.cached, h.referenced⟩

theorem publish_opened (hub : RemoteTuiHub) (event : DashboardTuiChannelEvent) :
    (hub.publish limits event).opened = hub.opened := by
  obtain ⟨_, _, _, _, heq⟩ :=
    publish_eq limits hub event
  rw [heq]

variable {id : Option Nat}

/-- An event that is no delta changes no screen. -/
theorem Follows.publish (h : Follows limits id hub) {event : DashboardTuiChannelEvent}
    (hevent : ∀ delta, event ≠ .delta delta) : Follows limits id (hub.publish limits event) := by
  refine ⟨h.sound.publish event, by rw [publish_opened]; exact h.opened, ?_⟩
  intro channel hchannel hid
  obtain ⟨before, hbefore, hsame, heq⟩ := mem_publish hchannel
  rw [publish_received]
  have hscreen : channel.screen = before.screen := by
    rcases heq with rfl | ⟨_, rfl⟩
    · exact RemoteTuiChannel.screen_deliver_other before hevent
    · rfl
  rw [hscreen]
  exact h.tracks before hbefore (hsame ▸ hid)

/-- A delta changes the screen of every channel. -/
theorem Follows.onDelta (h : Follows limits id hub) {delta : DashboardTuiDelta}
    (hbytes : (RemoteTuiEventFrame.delta delta).bytes ≤ limits.maxEventBytes) :
    Follows limits id (hub.onDelta limits delta) := by
  have hsize := delta_bytes_le delta
  have hsound : Sound limits { hub with
      lastCursor := some delta.cursor
      snapshotValue := hub.snapshotValue.map fun snapshot =>
        { snapshot with highWaterCursor := delta.cursor }
      received := hub.received ++ [.delta delta] } := by
    refine ⟨h.sound.bounded, h.sound.ids, ?_, ?_⟩
    · rw [lastSnapshot_delta, ← h.sound.cached, Option.map_map]
      rfl
    · rw [lastSnapshot_delta, reference_delta, isSome_map]
      exact h.sound.referenced
  refine ⟨hsound.publish _, ?_, ?_⟩
  · rw [RemoteTuiHub.onDelta, publish_opened]
    exact h.opened
  intro channel hchannel hid
  rw [RemoteTuiHub.onDelta] at hchannel ⊢
  obtain ⟨before, hbefore, hsame, heq⟩ := mem_publish hchannel
  obtain ⟨_, hscreen, hshows⟩ := h.tracks before hbefore (hsame ▸ hid)
  rw [publish_received]
  simp only [reference_delta, hscreen, map_some]
  refine ⟨_, rfl, ?_⟩
  rcases heq with rfl | ⟨_, _⟩
  · rw [RemoteTuiChannel.screen_deliver_delta]
    exact hshows.apply delta
  · omega

theorem Follows.onEventFrame (h : Follows limits id hub) {frame : RemoteTuiEventFrame}
    (hbytes : frame.bytes ≤ limits.maxEventBytes) :
    Attempt.Always (Follows limits id) (hub.onEventFrame limits frame) := by
  cases frame with
  | delta => exact h.onDelta hbytes
  | control => exact h.publish fun _ heq => by cases heq
  | answer | invalid => exact h

theorem Follows.each {frames : List RemoteTuiEventFrame} (h : Follows limits id hub)
    (hbytes : ∀ frame ∈ frames, frame.bytes ≤ limits.maxEventBytes) :
    Attempt.Always (Follows limits id)
      (Attempt.each (fun hub frame => hub.onEventFrame limits frame) frames hub) := by
  induction frames generalizing hub with
  | nil => exact h
  | cons frame rest ih =>
    refine (h.onEventFrame (hbytes frame mem_cons_self)).andThen fun next hnext => ?_
    exact ih hnext fun other hother => hbytes other (mem_cons_of_mem _ hother)

theorem Follows.snapshot (h : Follows limits id hub) (snapshot : DashboardTuiSnapshot)
    (replayBaseCursor lastCursor : Option JsString) (connectionReady : Bool) :
    Follows limits id { hub with
      replayBaseCursor
      lastCursor
      connectionReady
      snapshotValue := some snapshot
      received := hub.received ++ [.snapshot snapshot] } := by
  refine ⟨⟨h.sound.bounded, h.sound.ids, ?_, ?_⟩, h.opened, ?_⟩
  · rw [lastSnapshot_snapshot]
  · rw [reference_snapshot]
    cases reference hub.received <;> simp
  · intro channel hchannel hid
    obtain ⟨screen, hscreen, hshows⟩ := h.tracks channel hchannel hid
    exact ⟨screen, by rw [reference_snapshot, hscreen]; rfl, hshows⟩

theorem Follows.gap (h : Follows limits id hub) :
    Follows limits id
      (match hub.pendingGap with
        | none => hub
        | some gap => { hub.publish limits (.replayGap gap) with pendingGap := none }) := by
  cases hub.pendingGap with
  | none => exact h
  | some gap =>
    have hnext : Follows limits id (hub.publish limits (.replayGap gap)) :=
      h.publish fun _ heq => by cases heq
    exact ⟨⟨hnext.sound.bounded, hnext.sound.ids, hnext.sound.cached, hnext.sound.referenced⟩,
      hnext.opened, hnext.tracks⟩

theorem Follows.onSnapshot (h : Follows limits id hub) (snapshot : DashboardTuiSnapshot) :
    Attempt.Always (Follows limits id) (hub.onSnapshot limits snapshot) := by
  rw [RemoteTuiHub.onSnapshot]
  split
  · exact h
  have hgap := (h.snapshot snapshot (if hub.snapshotValue.isNone = true then
    some snapshot.highWaterCursor else hub.replayBaseCursor) (some snapshot.highWaterCursor) true).gap
  exact Follows.each
    ⟨⟨fun _ hmem => absurd hmem not_mem_nil, hgap.sound.ids, hgap.sound.cached,
      hgap.sound.referenced⟩, hgap.opened, hgap.tracks⟩ hgap.sound.bounded

theorem Follows.onMessage (h : Follows limits id hub) (frame : RemoteTuiFrame) :
    Attempt.Always (Follows limits id) (hub.onMessage limits frame) := by
  rw [RemoteTuiHub.onMessage]
  split
  · exact h
  rename_i hbytes
  cases frame with
  | malformed => exact h
  | replayGap =>
    exact ⟨⟨h.sound.bounded, h.sound.ids, h.sound.cached, h.sound.referenced⟩, h.opened, h.tracks⟩
  | snapshot role snapshot => exact h.onSnapshot snapshot
  | event =>
    rw [not_lt] at hbytes
    rw [onFrame]
    split
    · exact h.onEventFrame hbytes
    split
    · exact h
    refine ⟨⟨fun other hother => ?_, h.sound.ids, h.sound.cached, h.sound.referenced⟩, h.opened,
      h.tracks⟩
    rcases mem_append.mp hother with hold | hnew
    · exact h.sound.bounded other hold
    · exact mem_singleton.mp hnew ▸ hbytes

/-! ## Runs -/

theorem Sound.openChannel (h : Sound limits hub) {cursor : Option JsString}
    (hopen : hub.openChannel limits cursor = some hub') :
    Sound limits hub' ∧ hub'.opened = hub.opened + 1 ∧ hub'.received = hub.received ∧
      ∃ channel, channel.id = hub.opened ∧ hub'.channels = hub.channels ++ [channel] := by
  obtain ⟨_, _, hopen⟩ := bind_eq_some_iff.mp hopen
  obtain ⟨_, hopen⟩ := ite_none_left_eq_some.mp hopen
  cases hopen
  refine ⟨⟨h.bounded, fun channel hchannel => ?_, h.cached, h.referenced⟩, rfl, rfl, _, rfl, rfl⟩
  rcases mem_append.mp hchannel with hold | hnew
  · exact Nat.lt_succ_of_lt (h.ids channel hold)
  · rw [mem_singleton.mp hnew]
    exact Nat.lt_succ_self _

theorem Follows.openChannel (h : Follows limits id hub) {cursor : Option JsString}
    (hopen : hub.openChannel limits cursor = some hub') : Follows limits id hub' := by
  obtain ⟨hsound, hopened, hreceived, _, hid, hchannels⟩ := h.sound.openChannel hopen
  refine ⟨hsound, fun n hn => ?_, fun other hother hother' => ?_⟩
  · rw [hopened]
    exact Nat.lt_succ_of_lt (h.opened n hn)
  rw [hchannels] at hother
  rw [hreceived]
  rcases mem_append.mp hother with hold | hnew
  · exact h.tracks other hold hother'
  · rw [mem_singleton.mp hnew, hid] at hother'
    exact absurd (h.opened hub.opened hother'.symm) (lt_irrefl _)

theorem Follows.dispose (h : Follows limits id hub) : Follows limits id hub.dispose :=
  ⟨⟨h.sound.bounded, fun _ hmem => absurd hmem not_mem_nil, h.sound.cached, h.sound.referenced⟩,
    h.opened, fun _ hmem => absurd hmem not_mem_nil⟩

theorem Follows.remove (h : Follows limits id hub) (closed : Nat) : Follows limits id (hub.remove closed) := by
  have hrest : Follows limits id
      { hub with channels := hub.channels.filter fun channel => channel.id ≠ closed } :=
    ⟨⟨h.sound.bounded, fun channel hmem => h.sound.ids channel (mem_of_mem_filter hmem),
      h.sound.cached, h.sound.referenced⟩, h.opened,
      fun channel hmem => h.tracks channel (mem_of_mem_filter hmem)⟩
  rw [RemoteTuiHub.remove]
  split
  · exact hrest.dispose
  · exact hrest

theorem follows_step {event : Step} (h : Follows limits id hub) (hstep : step limits hub event = some hub') :
    Follows limits id hub' := by
  cases event with
  | connect =>
    obtain ⟨_, hstep⟩ := ite_none_left_eq_some.mp hstep
    cases hstep
    exact ⟨⟨fun _ hmem => absurd hmem not_mem_nil, h.sound.ids, h.sound.cached,
      h.sound.referenced⟩, h.opened, h.tracks⟩
  | message frame =>
    obtain ⟨_, rfl⟩ := ite_some_none_eq_some.mp hstep
    exact h.onMessage frame
  | disconnect =>
    obtain ⟨_, rfl⟩ := ite_some_none_eq_some.mp hstep
    exact ⟨⟨h.sound.bounded, h.sound.ids, h.sound.cached, h.sound.referenced⟩, h.opened, h.tracks⟩
  | openChannel =>
    obtain ⟨_, hstep⟩ := ite_none_left_eq_some.mp hstep
    exact h.openChannel hstep
  | close closed =>
    obtain ⟨_, rfl⟩ := ite_some_none_eq_some.mp hstep
    exact h.remove closed
  | dispose =>
    cases hstep
    exact h.dispose

theorem sound_of_run {sessionRef : JsString} {generation : Nat} {events : List Step}
    (hrun : run (step limits) (create sessionRef generation) events = some hub) : Sound limits hub := by
  have hstart : Follows limits none (create sessionRef generation) :=
    ⟨Sound.create sessionRef generation, (fun n hn => by cases hn),
      fun _ hmem => absurd hmem not_mem_nil⟩
  exact (run_invariant (fun _ _ _ h hstep => follows_step h hstep) hstart hrun).sound

/-- **The snapshot of a second channel.**  Whatever upstream sends, a second channel shows, from
when it is opened and on, what the first snapshot shows with all deltas applied if and only if the
last snapshot did so when the channel was opened. -/
theorem remote_snapshot_coherent {sessionRef : JsString} {generation : Nat} {events : List Step}
    (hrun : run (step limits) (create sessionRef generation) events = some hub)
    (hsecond : hub.channels ≠ []) (hopen : step limits hub (.openChannel none) = some hub') :
    (∀ later hub'', run (step limits) hub' later = some hub'' → Tracks (some hub.opened) hub'') ↔
      SnapshotCurrent hub.received := by
  have hsound := sound_of_run hrun
  obtain ⟨_, hopen⟩ := ite_none_left_eq_some.mp hopen
  obtain ⟨snapshot, hsnapshot, hcommit⟩ := bind_eq_some_iff.mp hopen
  obtain ⟨hsound', _⟩ := hsound.openChannel hopen
  have hempty : hub.channels.isEmpty = false := by
    rw [isEmpty_eq_false_iff]
    exact hsecond
  obtain ⟨_, hcommit⟩ := ite_none_left_eq_some.mp hcommit
  rw [hempty] at hcommit
  have hcached := hsound.cached
  rw [hsnapshot, map_some, eq_comm, map_eq_some_iff] at hcached
  obtain ⟨last, hlast, hshown⟩ := hcached
  have hscreen : ∀ channel : RemoteTuiChannel, channel = ⟨hub.opened, snapshot, []⟩ →
      channel.screen = Screen.ofSnapshot snapshot := by
    rintro channel rfl
    rfl
  constructor
  · intro hall
    have hnow := hall [] hub' rfl
    cases hcommit
    obtain ⟨screen, href, hsame⟩ := hnow ⟨hub.opened, snapshot, []⟩
      (mem_append_right _ (mem_singleton.mpr rfl)) rfl
    exact ⟨last, screen, hlast, href, hshown ▸ hsame⟩
  · rintro ⟨_, screen, hshown', href, hsame⟩ later hub'' hlater
    rw [hlast] at hshown'
    cases hshown'
    have hfollows : Follows limits (some hub.opened) hub' := by
      refine ⟨hsound', fun n hn => ?_, fun channel hchannel hid => ?_⟩
      · cases hn
        omega
      cases hcommit
      rcases mem_append.mp hchannel with hold | hnew
      · have hlt := hsound.ids channel hold
        rw [Option.some.inj hid] at hlt
        exact absurd hlt (lt_irrefl _)
      · rw [hscreen channel (mem_singleton.mp hnew), ← hshown]
        exact ⟨screen, href, hsame⟩
    exact (run_invariant (fun _ _ _ h hstep => follows_step h hstep) hfollows hlater).tracks

end

/-! ## A snapshot that is out of date -/

def exampleLimits : RemoteDashboardBackendLimits := ⟨8, 16, 4096, 1024⟩

def exampleIdentity : DashboardSessionIdentity := ⟨text "h", text "s", 1⟩

/-- Two blank rows of four columns. -/
def exampleSnapshot : DashboardTuiSnapshot :=
  ⟨exampleIdentity, ⟨2, 4⟩, [], ⟨0, 0, true, some .block⟩, none, text "c0"⟩

/-- `a` on the first row. -/
def exampleDelta : DashboardTuiDelta :=
  ⟨exampleIdentity, text "c1", 1, ⟨2, 4⟩, [⟨0, [⟨text "a", none⟩]⟩], ⟨0, 1, true, some .block⟩, none⟩

/-- A channel is opened at the first snapshot. -/
def exampleEvents : List Step :=
  [.connect, .message (.snapshot .observer exampleSnapshot), .openChannel none]

theorem remote_snapshot_coherent_opened :
    ∃ hub hub', run (step exampleLimits) (create (text "s") 1) exampleEvents = some hub ∧
      hub.channels ≠ [] ∧ step exampleLimits hub (.openChannel none) = some hub' ∧
      ∀ later hub'', run (step exampleLimits) hub' later = some hub'' →
        Tracks (some hub.opened) hub'' := by
  obtain ⟨hub, hhub, hsecond, hopens, hreceived⟩ :
      ∃ hub, run (step exampleLimits) (create (text "s") 1) exampleEvents = some hub ∧
        hub.channels ≠ [] ∧ (step exampleLimits hub (.openChannel none)).isSome = true ∧
        hub.received = [.snapshot exampleSnapshot] := by
    decide +kernel
  obtain ⟨hub', hopen⟩ := isSome_iff_exists.mp hopens
  refine ⟨hub, hub', hhub, hsecond, hopen, (remote_snapshot_coherent hhub hsecond hopen).mpr ?_⟩
  rw [hreceived]
  exact ⟨exampleSnapshot, .ofSnapshot exampleSnapshot, rfl, rfl, Screen.Same.refl _⟩

theorem remote_snapshot_stale :
    ∃ hub hub', run (step exampleLimits) (create (text "s") 1)
        (exampleEvents ++ [.message (.event (.delta exampleDelta))]) = some hub ∧
      hub.channels ≠ [] ∧ step exampleLimits hub (.openChannel none) = some hub' ∧
      ¬∀ later hub'', run (step exampleLimits) hub' later = some hub'' →
        Tracks (some hub.opened) hub'' := by
  obtain ⟨hub, hhub, hsecond, hub', hopen, channel, hchannel, hid, screen, hscreen, hline⟩ :
      ∃ hub, run (step exampleLimits) (create (text "s") 1)
          (exampleEvents ++ [.message (.event (.delta exampleDelta))]) = some hub ∧ hub.channels ≠ [] ∧
        ∃ hub', step exampleLimits hub (.openChannel none) = some hub' ∧
          ∃ channel ∈ hub'.channels, channel.id = hub.opened ∧
            ∃ screen, reference hub'.received = some screen ∧
              channel.screen.line 0 ≠ screen.line 0 := by
    decide +kernel
  refine ⟨hub, hub', hhub, hsecond, hopen, fun hall => ?_⟩
  obtain ⟨_, hother, hsame⟩ := hall [] hub' rfl channel hchannel (congrArg some hid)
  rw [hscreen] at hother
  cases hother
  exact hline (hsame.line 0)

end RemoteTuiHub

end PiDaemon.Viewing
