import PiDaemon.Streams.Streaming

/-!
# The events of a subscription that is exposed

A `subscribe` takes a free id, obtains a channel, listens to it, and keeps what it hears until the
subscription is exposed: then gaps are sent, the snapshot, and what was kept besides.
-/

namespace PiDaemon.Streams

open Lib Authorization Heap List OrderedMap

namespace DashboardStreamConnection

variable {w : DashboardStreamConnection} {hand : InHand} {pending : Option JsString}

/-! ## Exposing -/

theorem eventsOf_eq_nil {k : Nat} {sent : List SentFrame}
    (h : ∀ s ∈ sent, s.source ≠ some k) : eventsOf k sent = [] := by
  have hnil : (sent.filterMap fun s => if s.source = some k then s.frame.event? else none) = [] :=
    filterMap_eq_nil_iff.mpr fun s hs => if_neg (h s hs)
  rw [eventsOf, hnil, gapless_nil]

theorem Streaming.take {c : Nat} {id : JsString} {l : ChannelListener}
    (h : Streaming w { channel := some c, pending := some id })
    (hl : (w.channels.cell c).listener = some l) {events : List ChannelEvent}
    (hevents : gapless events = gapless l.buffered) (authorization : DashboardResourceRef)
    (role : DashboardResourceRole) :
    Streaming (w.take id ⟨c, authorization, role, [], false⟩)
      { exposing := some c, front := onlyAt w.opened.next events } := by
  obtain ⟨hlt, hpending, l', hl', _, hbuffered⟩ := h.inHand c rfl
  rw [hl] at hl'
  cases hl'
  have hid : (w.channels.cell c).subscriptionId = id := (Option.some.inj hpending).symm
  have hfree := h.free id rfl
  have hself : (w.opened.alloc ⟨c, authorization, role, [], false⟩).cell w.opened.next =
    ⟨c, authorization, role, [], false⟩ := cell_alloc_self _ _
  have hold : ∀ {k}, k < w.opened.next →
      (w.opened.alloc ⟨c, authorization, role, [], false⟩).cell k = w.opened.cell k :=
    fun hk => cell_alloc_lt _ hk _
  have hget : ∀ {id' k}, (w.subscriptions.set id w.opened.next).get? id' = some k →
      (id' = id ∧ k = w.opened.next) ∨ w.subscriptions.get? id' = some k := by
    intro id' k hk
    rw [get?_set] at hk
    split at hk
    · rename_i heq
      exact .inl ⟨heq.symm, (Option.some.inj hk).symm⟩
    · exact .inr hk
  have hkeep : ∀ {id' k}, w.subscriptions.get? id' = some k →
      (w.subscriptions.set id w.opened.next).get? id' = some k := by
    intro id' k hk
    rw [get?_set, if_neg (fun heq => by rw [← heq, hfree] at hk; cases hk)]
    exact hk
  have hlast : ∀ {k}, k < w.opened.next + 1 → k < w.opened.next ∨ k = w.opened.next := by omega
  refine ⟨fun id' k hk => ?_, fun k hk => ?_, fun s hs k hk => ?_, fun id' k hk => ?_,
    fun c' hc' l' hl' hr => ?_, fun k hk hnot => ?_, fun k hk => ?_, fun hopen k hk => ?_,
    (fun _ hid => by cases hid), fun _ hc => by cases hc⟩
  · rcases hget hk with ⟨_, rfl⟩ | hk
    · exact Nat.lt_succ_self _
    · exact Nat.lt_succ_of_lt (h.bound id' k hk)
  · show ((w.opened.alloc ⟨c, authorization, role, [], false⟩).cell k).channel < w.channels.next
    rcases hlast hk with hk | rfl
    · rw [hold hk]
      exact h.channels k hk
    · rw [hself]
      exact hlt
  · exact Nat.lt_succ_of_lt (h.sources s hs k hk)
  · show (w.channels.cell
      ((w.opened.alloc ⟨c, authorization, role, [], false⟩).cell k).channel).subscriptionId = id' ∧
        ∃ l, (w.channels.cell
          ((w.opened.alloc ⟨c, authorization, role, [], false⟩).cell k).channel).listener = some l ∧
            (l.ready = true ∨
              some c = some ((w.opened.alloc ⟨c, authorization, role, [], false⟩).cell k).channel)
    rcases hget hk with ⟨rfl, rfl⟩ | hk
    · rw [hself]
      exact ⟨hid, l, hl, .inr rfl⟩
    rw [hold (h.bound id' k hk)]
    obtain ⟨hid', l', hl', hr⟩ := h.mapped id' k hk
    exact ⟨hid', l', hl', .inl (hr.resolve_right fun hr => by cases hr)⟩
  · by_cases heq : c' = c
    · subst heq
      refine ⟨w.opened.next, ?_, ?_⟩
      · rw [← hid]
        exact get?_set_self _ _ _
      · show ((w.opened.alloc ⟨c', authorization, role, [], false⟩).cell _).channel = _
        rw [hself]
    · have hr' : l'.ready = true := hr.resolve_right fun hsame => heq (Option.some.inj hsame).symm
      obtain ⟨k, hk, hchannel⟩ := h.readied c' hc' l' hl' (.inl hr')
      refine ⟨k, hkeep hk, ?_⟩
      show ((w.opened.alloc ⟨c, authorization, role, [], false⟩).cell _).channel = _
      rw [hold (h.bound _ k hk)]
      exact hchannel
  · rcases hlast hk with hk | rfl
    · show ((w.opened.alloc ⟨c, authorization, role, [], false⟩).cell k).eventQueue = []
      rw [hold hk]
      exact h.cleared k hk fun hmapped => hnot (hmapped.imp fun _ => hkeep)
    · exact absurd ⟨id, get?_set_self _ _ _⟩ hnot
  · show eventsOf k w.sent <+: gapless (w.channels.cell
      ((w.opened.alloc ⟨c, authorization, role, [], false⟩).cell k).channel).produced
    rcases hlast hk with hk | rfl
    · rw [hold hk]
      exact h.ordered k hk
    · rw [eventsOf_eq_nil fun s hs heq => Nat.lt_irrefl _ (h.sources s hs _ heq)]
      exact nil_prefix
  · show eventsOf k w.sent ++ gapless (onlyAt w.opened.next events k) ++
      gapless (((w.opened.alloc ⟨c, authorization, role, [], false⟩).cell k).eventQueue.map (·.2)) ++
        gapless [] = gapless (w.channels.cell
          ((w.opened.alloc ⟨c, authorization, role, [], false⟩).cell k).channel).produced
    obtain ⟨id', hid'⟩ := hk
    rcases hget hid' with ⟨_, rfl⟩ | hk
    · rw [eventsOf_eq_nil fun s hs heq => Nat.lt_irrefl _ (h.sources s hs _ heq), onlyAt_self,
        hevents]
      simpa using hbuffered hopen
    · have hk' := h.bound id' k hk
      rw [hold hk', onlyAt_ne (Nat.ne_of_lt hk')]
      exact h.complete hopen k ⟨id', hk⟩

theorem Streaming.markReady {c : Nat} {front : Nat → List ChannelEvent}
    (h : Streaming w { exposing := some c, front }) : Streaming (w.markReady c) { front } := by
  have hcell : ∀ j, (w.markReady c).channels.cell j =
      { w.channels.cell j with
        listener := if j = c then
            (w.channels.cell j).listener.map fun listener => { listener with ready := true }
          else (w.channels.cell j).listener } := by
    intro j
    unfold DashboardStreamConnection.markReady
    rw [cell_modify]
    split
    · rename_i heq
      rw [heq]
    · rfl
  refine ⟨h.bound, h.channels, h.sources, fun id k hk => ?_, fun j hj l hl hr => ?_, h.cleared,
    fun k hk => ?_, fun hopen k hk => ?_, h.free, fun j hj => by cases hj⟩
  · obtain ⟨hid, l, hl, hr⟩ := h.mapped id k hk
    show ((w.markReady c).channels.cell (w.opened.cell k).channel).subscriptionId = id ∧
      ∃ l, ((w.markReady c).channels.cell (w.opened.cell k).channel).listener = some l ∧ _
    rw [hcell]
    refine ⟨hid, ?_⟩
    split
    · exact ⟨{ l with ready := true }, by rw [hl]; rfl, .inl rfl⟩
    · rename_i hne
      exact ⟨l, hl, .inl (hr.resolve_right fun heq => hne (Option.some.inj heq).symm)⟩
  · rw [hcell] at hl ⊢
    split at hl
    · rename_i heq
      obtain ⟨l', hl', _⟩ := Option.map_eq_some_iff.mp hl
      exact h.readied j hj l' hl' (.inr (by rw [heq]))
    · exact h.readied j hj l hl (.inl (hr.resolve_right fun hr => by cases hr))
  · show w.sentEvents k <+:
      gapless ((w.markReady c).channels.cell (w.opened.cell k).channel).produced
    rw [hcell]
    exact h.ordered k hk
  · show w.sentEvents k ++ gapless (front k) ++ w.queuedEvents k ++ gapless [] =
      gapless ((w.markReady c).channels.cell (w.opened.cell k).channel).produced
    rw [hcell]
    exact h.complete hopen k hk

theorem gapless_partition (events : List ChannelEvent) :
    gapless (events.filter (fun event => event.isGap) ++ events.filter fun event => !event.isGap) =
      gapless events := by
  have hgaps : gapless (events.filter fun event => event.isGap) = [] := by
    simp [gapless, filter_filter]
  rw [gapless_append, hgaps, gapless, gapless]
  simp

section
variable (around : StreamSurroundings)

/-- The snapshot is sent, and then what was kept for it. -/
theorem Streaming.sendSnapshot {c k : Nat} {events : List ChannelEvent}
    (h : Streaming w { exposing := some c, front := onlyAt k events }) (hlt : k < w.opened.next)
    (hmapped : w.closed = false → w.isMapped k) {frame : ServerFrame} (hevent : frame.event? = none)
    (correlationId : JsString) :
    Streaming (((w.send around frame (some k)).markReady c).sendEvents around k correlationId events)
      {} := by
  have hready := (h.send around frame (some k) hevent fun j hj => by cases hj; exact hlt).markReady
  rw [← append_nil events] at hready
  have hrest := Streaming.sendEvents around {} _ _ hready
    (lt_of_lt_of_eq hlt (send_shrinks around _ _ _).bound.symm)
    (isMapped_send around hmapped _ _) correlationId
  have hnothing : onlyAt k [] = fun _ => [] := funext fun j => onlyAt_nil k j
  rw [hnothing] at hrest
  exact hrest.1

theorem Streaming.expose {request : SubscribeRequest} {c : Nat}
    (h : Streaming w { channel := some c, pending := some request.subscriptionId })
    (authorization : DashboardResourceRef) :
    Streaming (w.expose around request authorization c) {} := by
  obtain ⟨_, _, l, hl, _, _⟩ := h.inHand c rfl
  have htaken := h.take hl (gapless_partition l.buffered) authorization (requiredRole request.role)
  have hmapped : (w.take request.subscriptionId
      ⟨c, authorization, requiredRole request.role, [], false⟩).isMapped w.opened.next :=
    ⟨_, get?_set_self _ _ _⟩
  obtain ⟨hgaps, hlt, hmapped⟩ := Streaming.sendEvents around { exposing := some c } _ _
    htaken (Nat.lt_succ_self _) (fun _ => hmapped) request.correlationId
  unfold DashboardStreamConnection.expose
  rw [hl]
  exact hgaps.sendSnapshot around hlt hmapped rfl request.correlationId

end

/-! ## Listening -/

theorem Streaming.reserve (h : Streaming w {}) {id : JsString}
    (hfree : w.subscriptions.get? id = none) : Streaming w { pending := some id } where
  bound := h.bound
  channels := h.channels
  sources := h.sources
  mapped := h.mapped
  readied := h.readied
  cleared := h.cleared
  ordered := h.ordered
  complete := h.complete
  free id' hid' := by
    cases hid'
    exact hfree
  inHand _ hc := by cases hc

/-- A channel without a listener is that of no subscription. -/
theorem Streaming.unmapped (h : Streaming w hand) {c : Nat}
    (hl : (w.channels.cell c).listener = none) (k : Nat) (hk : w.isMapped k) :
    (w.opened.cell k).channel ≠ c := by
  rintro rfl
  obtain ⟨id, hid⟩ := hk
  obtain ⟨_, _, hl', _⟩ := h.mapped id k hid
  cases hl.symm.trans hl'

theorem Streaming.obtain (h : Streaming w { pending }) (channel : StreamChannel)
    (hl : channel.listener = none) :
    Streaming { w with channels := w.channels.alloc channel } { pending } := by
  have hcell : ∀ {j}, j < w.channels.next → (w.channels.alloc channel).cell j = w.channels.cell j :=
    fun hj => cell_alloc_lt _ hj _
  refine ⟨h.bound, fun k hk => Nat.lt_succ_of_lt (h.channels k hk), h.sources, fun id k hk => ?_,
    fun c hc l hl' hr => ?_, h.cleared, fun k hk => ?_, fun hopen k hk => ?_, h.free,
    fun _ hc => by cases hc⟩
  · rw [hcell (h.channels k (h.bound id k hk))]
    exact h.mapped id k hk
  · rcases Nat.lt_or_eq_of_le (Nat.lt_succ_iff.mp hc) with hlt | rfl
    · rw [hcell hlt] at hl' ⊢
      exact h.readied c hlt l hl' hr
    · rw [cell_alloc_self, hl] at hl'
      cases hl'
  · unfold producedEvents
    rw [hcell (h.channels k hk)]
    exact h.ordered k hk
  · obtain ⟨id, hid⟩ := hk
    unfold producedEvents
    rw [hcell (h.channels k (h.bound id k hid))]
    exact h.complete hopen k ⟨id, hid⟩

theorem Streaming.listen {c : Nat} {id : JsString} (h : Streaming w { pending := some id })
    (hlt : c < w.channels.next) (hid : (w.channels.cell c).subscriptionId = id)
    (hl : (w.channels.cell c).listener = none) (hproduced : (w.channels.cell c).produced = []) :
    Streaming
      { w with
        channels := w.channels.modify c fun channel =>
          { channel with listener := some ⟨false, []⟩ } }
      { channel := some c, pending := some id } := by
  have hcell : ∀ j, (w.channels.modify c fun channel =>
      { channel with listener := some ⟨false, []⟩ }).cell j =
        { w.channels.cell j with
          listener := if j = c then some ⟨false, []⟩ else (w.channels.cell j).listener } := by
    intro j
    rw [cell_modify]
    split
    · rename_i heq
      rw [heq]
    · rfl
  have hother := h.unmapped hl
  refine ⟨h.bound, h.channels, h.sources, fun id' k hk => ?_, fun j hj l hl' hr => ?_, h.cleared,
    fun k hk => ?_, fun hopen k hk => ?_, h.free, fun j hj => ?_⟩
  · rw [hcell]
    rw [if_neg (hother k ⟨id', hk⟩)]
    exact h.mapped id' k hk
  · rw [hcell] at hl' ⊢
    split at hl'
    · cases hl'
      exact hr.elim (fun hr => by cases hr) fun hr => by cases hr
    · exact h.readied j hj l hl' hr
  · unfold producedEvents
    rw [hcell]
    exact h.ordered k hk
  · unfold producedEvents
    rw [hcell]
    exact h.complete hopen k hk
  · cases hj
    rw [hcell]
    rw [if_pos rfl, hid, hproduced]
    exact ⟨hlt, rfl, _, rfl, rfl, fun _ => rfl⟩

end DashboardStreamConnection

end PiDaemon.Streams
