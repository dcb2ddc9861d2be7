import PiDaemon.Streams.Delivery

/-!
# Backlogs

The listener of a channel hears the events that the browser has missed while its subscription is not
shown yet.  It buffers 64 of them; one more closes the connection.  The gaps that are among them are
sent first.

* `openChannel_backlog`: what a backlog does to a connection;
* `backlogs_resumed`: which backlogs the browser receives.
-/

namespace PiDaemon.Streams

open Lib Authorization List

namespace DashboardStreamConnection

section
variable {w : DashboardStreamConnection} (around : StreamSurroundings) {c : Nat}
  {opened : OpenedChannel} {request : SubscribeRequest} {events replayed : List ChannelEvent}

/-- The channel of a subscription that is not shown yet. -/
def buffering (opened : OpenedChannel) (request : SubscribeRequest) (events : List ChannelEvent) :
    StreamChannel :=
  ⟨opened, request.subscriptionId, request.correlationId, some ⟨false, events⟩, false, events⟩

theorem hear_buffering {event : ChannelEvent}
    (hcell : w.channels.cell c = buffering opened request events)
    (hidentity : event.identity = opened.identity) :
    (events.length < 64 → ∃ channels, w.hear around c event = { w with channels } ∧
        channels.cell c = buffering opened request (events ++ [event])) ∧
      (64 ≤ events.length → (w.hear around c event).closed = true) := by
  have hlistener : (w.channels.cell c).listener = some ⟨false, events⟩ := by rw [hcell]; rfl
  have hsame : ¬event.identity ≠ (w.channels.cell c).opened.identity := by
    rw [hcell]
    exact not_not_intro hidentity
  constructor
  · intro hroom
    rw [hear]
    have hroom : ¬MAX_PENDING_AUTHORIZED_EVENTS_PER_SUBSCRIPTION ≤
        (⟨false, events⟩ : ChannelListener).buffered.length := Nat.not_le.mpr hroom
    simp only [hlistener, if_neg hsame, Bool.false_eq_true, if_false, if_neg hroom]
    refine ⟨_, rfl, ?_⟩
    rw [Heap.cell_modify_self, Heap.cell_modify_self, hcell]
    rfl
  · intro hfull
    rw [hear]
    have hfull : MAX_PENDING_AUTHORIZED_EVENTS_PER_SUBSCRIPTION ≤
        (⟨false, events⟩ : ChannelListener).buffered.length := hfull
    simp only [hlistener, if_neg hsame, Bool.false_eq_true, if_false, if_pos hfull]
    exact closed_closeAll _

theorem hear_closed (event : ChannelEvent) (h : w.closed = true) :
    (w.hear around c event).closed = true := by
  unfold hear
  dsimp only
  split
  · exact h
  split
  · exact closed_closeAll _
  split
  · unfold queueAuthorizedEvent startDrain drainLoop closeUnauthorizedSubscription
    dsimp only
    repeat' split
    all_goals exact h
  · split
    · exact closed_closeAll _
    · exact h

/-- A backlog that fits is buffered, and another one closes the connection. -/
theorem hearAll_buffering (hcell : w.channels.cell c = buffering opened request events)
    (heach : ∀ event ∈ replayed, event.identity = opened.identity) :
    (events.length + replayed.length ≤ 64 → ∃ channels,
        replayed.foldl (fun w event => w.hear around c event) w = { w with channels } ∧
          channels.cell c = buffering opened request (events ++ replayed)) ∧
      (64 < events.length + replayed.length → events.length ≤ 64 →
        (replayed.foldl (fun w event => w.hear around c event) w).closed = true) := by
  have hclosed (rest : List ChannelEvent) {w : DashboardStreamConnection} (h : w.closed = true) :
      (rest.foldl (fun w event => w.hear around c event) w).closed = true := by
    induction rest generalizing w with
    | nil => exact h
    | cons event rest ih => exact ih (hear_closed around event h)
  induction replayed generalizing w events with
  | nil =>
    rw [append_nil]
    exact ⟨fun _ => ⟨w.channels, rfl, hcell⟩, fun h hle => absurd h (Nat.not_lt.mpr hle)⟩
  | cons event rest ih =>
    obtain ⟨hroom, hfull⟩ := hear_buffering around hcell
      (heach event mem_cons_self)
    rw [length_cons, foldl_cons]
    by_cases hlength : events.length < 64
    · obtain ⟨channels, hhear, hcell'⟩ := hroom hlength
      obtain ⟨hfits, hover⟩ := ih (w := { w with channels }) hcell'
        fun event hmem => heach event (mem_cons_of_mem _ hmem)
      rw [length_append, length_singleton] at hfits hover
      rw [hhear]
      refine ⟨fun h => ?_, fun h _ => hover (by omega) hlength⟩
      obtain ⟨channels', heq, hcell''⟩ := hfits (by omega)
      rw [append_assoc] at hcell''
      exact ⟨channels', heq, hcell''⟩
    · exact ⟨fun h => absurd h (by omega), fun _ _ => hclosed rest (hfull (Nat.not_lt.mp hlength))⟩

variable (authorization : DashboardResourceRef)

/-- What a backlog does to the connection. -/
theorem openChannel_backlog (hopen : w.closed = false)
    (hpresentation : opened.presentation = request.presentation)
    (hidentity : opened.snapshotIdentity = opened.identity)
    (heach : ∀ event ∈ replayed, event.identity = opened.identity) :
    (replayed.length ≤ 64 → ∃ channels,
        w.openChannel around request authorization opened replayed =
            { w with channels, handling := some (.checking request authorization w.channels.next) } ∧
          channels.cell w.channels.next = buffering opened request replayed) ∧
      (64 < replayed.length →
        (w.openChannel around request authorization opened replayed).closed = true ∧
          (w.openChannel around request authorization opened replayed).handling =
            some (.abandoning request w.channels.next none)) := by
  have hall := hearAll_buffering around (c := w.channels.next) (w := { w with
      channels := (w.channels.alloc
        ⟨opened, request.subscriptionId, request.correlationId, none, false, []⟩).modify
          w.channels.next fun channel => { channel with listener := some ⟨false, []⟩ } })
    (show _ = buffering opened request [] by
      rw [Heap.cell_modify_self, Heap.cell_alloc_self]; rfl) heach
  rw [length_nil, Nat.zero_add] at hall
  have hnot : ¬w.closed = true := by simp [hopen]
  unfold openChannel
  dsimp only
  rw [if_neg hnot, if_neg (not_not_intro hpresentation), if_neg (not_not_intro hidentity)]
  constructor
  · intro hlength
    obtain ⟨channels, heq, hcell⟩ := hall.1 hlength
    rw [heq, if_neg hnot]
    exact ⟨channels, rfl, hcell⟩
  · intro hlength
    have hclosed := hall.2 hlength (Nat.zero_le _)
    rw [if_pos hclosed]
    exact ⟨hclosed, rfl⟩

/-- An event of a kind that its channel may have. -/
def Fits (presentation : DashboardPresentation) (event : ChannelEvent) : Prop :=
  (event.kind = .tuiDelta → presentation = .tui) ∧ (event.kind = .session → presentation = .rich)

theorem send_taken (hopen : w.closed = false) (htakes : ∀ n, around.takes n = true)
    (frame : ServerFrame) (source : Option Nat) :
    w.send around frame source = { w with sent := w.sent ++ [⟨frame, source, w.ledger⟩] } := by
  rw [send, if_neg (by simp [hopen]), if_pos (htakes _)]

theorem sendEvents_taken {k : Nat} {correlationId subscriptionId : JsString}
    {presentation : DashboardPresentation} (hopen : w.closed = false)
    (htakes : ∀ n, around.takes n = true)
    (hchannel : (w.channels.cell (w.opened.cell k).channel).opened.presentation = presentation ∧
      (w.channels.cell (w.opened.cell k).channel).subscriptionId = subscriptionId)
    (hfits : ∀ event ∈ events, Fits presentation event) :
    w.sendEvents around k correlationId events =
      { w with sent := w.sent ++ events.map fun event =>
          ⟨.channelEvent correlationId subscriptionId event, some k, w.ledger⟩ } := by
  induction events generalizing w with
  | nil =>
    rw [map_nil, append_nil]
    rfl
  | cons event rest ih =>
    obtain ⟨htui, hrich⟩ := hfits event mem_cons_self
    have hsend : w.sendEvent around k correlationId event =
        { w with sent := w.sent ++
            [⟨.channelEvent correlationId subscriptionId event, some k, w.ledger⟩] } := by
      rw [← send_taken around hopen htakes, sendEvent]
      simp only [hchannel]
      split
      · rfl
      · rename_i hkind
        exact if_neg (not_not_intro (htui hkind))
      · rfl
      · rename_i hkind
        exact if_neg (not_not_intro (hrich hkind))
    have hrest := ih (w := { w with sent := w.sent ++
        [⟨.channelEvent correlationId subscriptionId event, some k, w.ledger⟩] }) hopen hchannel
      fun event hmem => hfits event (mem_cons_of_mem _ hmem)
    rw [sendEvents, foldl_cons, hsend]
    rw [sendEvents] at hrest
    rw [hrest, map_cons, append_assoc, singleton_append]

/-- The gaps among the events come first. -/
def GapsFirst (events : List ChannelEvent) : Prop :=
  (events.filter fun event => event.isGap) ++ (events.filter fun event => !event.isGap) = events

def newFrames (w w' : DashboardStreamConnection) : List ServerFrame :=
  (w'.sent.drop w.sent.length).map (·.frame)

/-- The browser has the subscription and the events, and its other subscriptions. -/
structure Resumes (w w' : DashboardStreamConnection) (request : SubscribeRequest)
    (opened : OpenedChannel) (replayed : List ChannelEvent) : Prop where
  isOpen : w'.closed = false
  ready : ∃ role, .subscriptionReady request.correlationId request.subscriptionId opened role ∈
    newFrames w w'
  events : (newFrames w w').filterMap ServerFrame.event? = replayed
  subscriptions : w'.subscriptions = w.subscriptions.set request.subscriptionId w.opened.next

def eventFrame (w : DashboardStreamConnection) (request : SubscribeRequest) (event : ChannelEvent) :
    SentFrame :=
  ⟨.channelEvent request.correlationId request.subscriptionId event, some w.opened.next, w.ledger⟩

/-- What a subscription is exposed with. -/
def exposedFrames (w : DashboardStreamConnection) (request : SubscribeRequest) (opened : OpenedChannel)
    (role : DashboardControllerRole) (replayed : List ChannelEvent) : List SentFrame :=
  (replayed.filter fun event => event.isGap).map (eventFrame w request) ++
    ⟨.subscriptionReady request.correlationId request.subscriptionId opened role, some w.opened.next,
        w.ledger⟩ :: (replayed.filter fun event => !event.isGap).map (eventFrame w request)

theorem expose_buffering (hopen : w.closed = false) (htakes : ∀ n, around.takes n = true)
    (hcell : w.channels.cell c = buffering opened request replayed)
    (hfits : ∀ event ∈ replayed, Fits opened.presentation event) :
    (w.expose around request authorization c).closed = false ∧
      (w.expose around request authorization c).subscriptions =
        w.subscriptions.set request.subscriptionId w.opened.next ∧
      (w.expose around request authorization c).sent =
        w.sent ++ exposedFrames w request opened (around.role c) replayed := by
  have hfilter (p : ChannelEvent → Bool) : ∀ event ∈ replayed.filter p,
      Fits opened.presentation event := fun event hmem => hfits event (mem_filter.mp hmem).1
  have hbuffered : ((w.channels.cell c).listener.map (·.buffered)).getD [] = replayed := by
    rw [hcell]
    rfl
  have htaken (subscription : Subscription) :
      (w.opened.alloc subscription).cell w.opened.next = subscription := Heap.cell_alloc_self _ _
  have hready : (((w.channels.modify c fun channel =>
      { channel with listener := channel.listener.map fun listener =>
          { listener with ready := true } }).cell c).opened.presentation = opened.presentation ∧
      ((w.channels.modify c fun channel =>
        { channel with listener := channel.listener.map fun listener =>
          { listener with ready := true } }).cell c).subscriptionId = request.subscriptionId) := by
    rw [Heap.cell_modify_self, hcell]
    exact ⟨rfl, rfl⟩
  unfold expose
  dsimp only
  rw [hbuffered, sendEvents_taken around (w := w.take _ _) hopen htakes
      (by rw [take, htaken, hcell]; exact ⟨rfl, rfl⟩) (hfilter _),
    send_taken around ?_ htakes, sendEvents_taken around (w := markReady _ _) ?_ htakes
      (by rw [markReady, take, htaken]; exact hready) (hfilter _)]
  · have hopened : (w.channels.cell c).opened = opened := by
      rw [hcell]
      rfl
    refine ⟨hopen, rfl, ?_⟩
    change w.sent ++ _ ++ [⟨.subscriptionReady _ _ (w.channels.cell c).opened _, _, _⟩] ++ _ = _
    rw [hopened, append_assoc, append_assoc]
    rfl
  · exact hopen
  · exact hopen

end

/-- The channel has been opened, and both checks have been answered. -/
def resumeEvents (opened : OpenedChannel) (replayed : List ChannelEvent)
    (around : StreamSurroundings) : List StreamEvent :=
  [.answer (.opened opened replayed) around, .answer (.checked none) around,
    .answer (.checked none) around]

/-- **Which backlogs the browser receives**: those of at most 64 events with their gaps in front,
and a larger one closes its connection. -/
theorem backlogs_resumed (service : DashboardAuthorizationService) (principal : DashboardPrincipal)
    (limits : StreamLimits) {w : DashboardStreamConnection} {around : StreamSurroundings}
    {request : SubscribeRequest} {authorization : DashboardResourceRef} {opened : OpenedChannel}
    {replayed : List ChannelEvent} (hopen : w.closed = false)
    (hhandling : w.handling = some (.opening request authorization))
    (hpresentation : opened.presentation = request.presentation)
    (hidentity : opened.snapshotIdentity = opened.identity)
    (heach : ∀ event ∈ replayed, event.identity = opened.identity ∧ Fits opened.presentation event)
    (hpermits : w.permits service principal true authorization (requiredRole request.role) = true)
    (htakes : ∀ n, around.takes n = true) :
    ((∃ w', run (fun (w : DashboardStreamConnection) event => w.step service principal limits event) w
        (resumeEvents opened replayed around) = some w' ∧ Resumes w w' request opened replayed) ↔
      replayed.length ≤ 64 ∧ GapsFirst replayed) ∧
    ((w.openChannel around request authorization opened replayed).closed = true ↔
      64 < replayed.length) := by
  obtain ⟨hroom, hover⟩ := openChannel_backlog around authorization hopen
    hpresentation hidentity fun event hmem => (heach event hmem).1
  have hfirst : w.step service principal limits (.answer (.opened opened replayed) around) =
      some (w.openChannel around request authorization opened replayed) := by
    rw [step, hhandling]
    rfl
  by_cases hlength : replayed.length ≤ 64
  · obtain ⟨channels, heq, hcell⟩ := hroom hlength
    rw [heq] at hfirst ⊢
    refine ⟨?_, fun h => absurd (hopen.symm.trans h) Bool.false_ne_true,
      fun h => absurd hlength (Nat.not_le.mpr h)⟩
    let w' : DashboardStreamConnection := { w with
      channels
      registered := w.channels.next :: w.registered
      participants := w.channels.next :: w.participants
      handling := some (.rechecking request authorization w.channels.next) }
    let w'' := (w'.expose around request authorization w.channels.next).endSubscribe request
    have hrun : run (fun (w : DashboardStreamConnection) event =>
        w.step service principal limits event) w (resumeEvents opened replayed around) =
        some w'' := by
      have hchecked : { w with
          channels, handling := some (.checking request authorization w.channels.next) }.step service
          principal limits (.answer (.checked none) around) = some w' := if_pos hpermits
      have hrechecked : w'.step service principal limits (.answer (.checked none) around) =
          some w'' := if_pos hpermits
      rw [resumeEvents, run, hfirst, Option.bind_some, run, hchecked, Option.bind_some, run,
        hrechecked, Option.bind_some, run]
    obtain ⟨hclosed, hsubscriptions, hsent⟩ := expose_buffering around (w := w')
      authorization hopen htakes hcell fun event hmem => (heach event hmem).2
    have hframes : newFrames w w'' =
        (exposedFrames w request opened (around.role w.channels.next) replayed).map (·.frame) := by
      change ((w'.expose around request authorization w.channels.next).sent.drop _).map _ = _
      rw [hsent]
      exact congrArg (List.map _) drop_left
    have hevents : (newFrames w w'').filterMap ServerFrame.event? =
        (replayed.filter fun event => event.isGap) ++ replayed.filter fun event => !event.isGap := by
      have hback (events : List ChannelEvent) :
          ((events.map (eventFrame w request)).map (·.frame)).filterMap ServerFrame.event? =
            events := by
        rw [map_map, filterMap_map]
        exact filterMap_some
      rw [hframes, exposedFrames, map_append, filterMap_append, hback, map_cons,
        filterMap_cons_none rfl, hback]
    constructor
    · rintro ⟨_, hrun', hresumes⟩
      cases hrun.symm.trans hrun'
      exact ⟨hlength, hevents.symm.trans hresumes.events⟩
    · rintro ⟨-, hgaps⟩
      refine ⟨_, hrun, hclosed, ⟨around.role w.channels.next, ?_⟩, hevents.trans hgaps,
        hsubscriptions⟩
      rw [hframes]
      simp [exposedFrames]
  · obtain ⟨hclosed, habandoning⟩ := hover (Nat.not_le.mp hlength)
    refine ⟨iff_of_false ?_ fun h => hlength h.1, iff_of_true hclosed (Nat.not_le.mp hlength)⟩
    rintro ⟨w', hrun, -⟩
    rw [resumeEvents, run, hfirst, Option.bind_some, run, step, habandoning] at hrun
    cases hrun

/-! ### A backlog of 65 events -/

/-- Another subscription of the browser asks for a channel. -/
def subscribesAgain : List StreamEvent :=
  [.receive (.subscribe ⟨text "d", text "b", .rich, .observer⟩), .deliver calm,
    .answer (.resolved ⟨.session, text "managed:s1"⟩) calm]

def plainChannel : OpenedChannel := ⟨.rich, plainIdentity, plainIdentity, text "0"⟩

/-- The connection that has one subscription and opens another one. -/
def opensAgain : Option DashboardStreamConnection :=
  run (fun (w : DashboardStreamConnection) event =>
      w.step plainService administrator plainLimits event)
    (.initial plainLedger) (subscribeEvents ++ .answer (.checked none) calm :: subscribesAgain)

theorem backlogs_resumed_event : ∃ w, opensAgain = some w ∧ ∃ w',
    run (fun (w : DashboardStreamConnection) event =>
        w.step plainService administrator plainLimits event) w
      (resumeEvents plainChannel [plainEvent] calm) = some w' ∧
    Resumes w w' ⟨text "d", text "b", .rich, .observer⟩ plainChannel [plainEvent] := by
  obtain ⟨w, hw, hopen, hhandling, hpermits⟩ : ∃ w, opensAgain = some w ∧ w.closed = false ∧
      w.handling = some (.opening ⟨text "d", text "b", .rich, .observer⟩
        ⟨.session, text "managed:s1"⟩) ∧
      w.permits plainService administrator true ⟨.session, text "managed:s1"⟩
        (requiredRole .observer) = true := by
    decide +kernel
  refine ⟨w, hw, (backlogs_resumed plainService administrator plainLimits hopen hhandling rfl rfl
    (fun event hmem => ?_) hpermits fun _ => rfl).1.mpr ⟨by decide, rfl⟩⟩
  cases mem_singleton.mp hmem
  exact ⟨rfl, ⟨fun h => absurd h (by decide), fun _ => rfl⟩⟩

/-- The other subscription is closed too. -/
theorem long_backlog_closes : ∃ w, opensAgain = some w ∧ w.subscriptions.size = 1 ∧
    w.closed = false ∧
    (run (fun (w : DashboardStreamConnection) event =>
        w.step plainService administrator plainLimits event) w
      [.answer (.opened plainChannel (List.replicate 65 plainEvent)) calm]).map
        (fun w => (w.closed, w.subscriptions.size)) = some (true, 0) := by
  decide +kernel

end DashboardStreamConnection

end PiDaemon.Streams
