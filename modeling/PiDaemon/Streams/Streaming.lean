import PiDaemon.Streams.Closing

/-!
# The events of a subscription

The events that a channel has produced for an open subscription have been sent, or are in hand, or
are queued: in this order, gaps apart, and each once.

* `Streaming`: the invariant, with what a step has in its hands (`InHand`);
* `Closes`: what closing subscriptions leaves;
* one lemma for each function that sends, hears or takes from a queue.
-/

namespace PiDaemon.Streams

open Lib Authorization Heap List OrderedMap

/-- Gaps may be sent before earlier events. -/
def gapless (events : List ChannelEvent) : List ChannelEvent :=
  events.filter fun event => !event.isGap

@[simp] theorem gapless_nil : gapless [] = [] := rfl

@[simp] theorem gapless_append (left right : List ChannelEvent) :
    gapless (left ++ right) = gapless left ++ gapless right :=
  filter_append ..

theorem gapless_cons (event : ChannelEvent) (events : List ChannelEvent) :
    gapless (event :: events) = gapless [event] ++ gapless events :=
  gapless_append [event] events

/-- What a step has in its hands: the channel and the free id of a `subscribe`, a channel that is
being exposed, the events of a subscription that are about to be sent, and those of a channel that
are about to be kept. -/
structure InHand where
  channel : Option Nat := none
  pending : Option JsString := none
  exposing : Option Nat := none
  front : Nat → List ChannelEvent := fun _ => []
  back : Nat → List ChannelEvent := fun _ => []

/-- Between steps. -/
def InHand.of (handling : Option Handling) : InHand :=
  { channel := handling.bind Handling.current, pending := handling.bind Handling.pending }

def onlyAt (i : Nat) (events : List ChannelEvent) : Nat → List ChannelEvent :=
  fun j => if j = i then events else []

@[simp] theorem onlyAt_self (i : Nat) (events : List ChannelEvent) : onlyAt i events i = events :=
  if_pos rfl

theorem onlyAt_ne {i j : Nat} (h : j ≠ i) (events : List ChannelEvent) : onlyAt i events j = [] :=
  if_neg h

@[simp] theorem onlyAt_nil (i j : Nat) : onlyAt i [] j = [] := ite_self []

namespace DashboardStreamConnection

variable {w w' w'' : DashboardStreamConnection} {hand : InHand}

/-- The events of a subscription among the frames. -/
def eventsOf (k : Nat) (sent : List SentFrame) : List ChannelEvent :=
  gapless (sent.filterMap fun s => if s.source = some k then s.frame.event? else none)

def sentEvents (w : DashboardStreamConnection) (k : Nat) : List ChannelEvent := eventsOf k w.sent

def queuedEvents (w : DashboardStreamConnection) (k : Nat) : List ChannelEvent :=
  gapless ((w.opened.cell k).eventQueue.map (·.2))

def producedEvents (w : DashboardStreamConnection) (k : Nat) : List ChannelEvent :=
  gapless (w.channels.cell (w.opened.cell k).channel).produced

/-! ## The invariant of the streams -/

/-- The subscription is in the map. -/
def isMapped (w : DashboardStreamConnection) (k : Nat) : Prop :=
  ∃ id, w.subscriptions.get? id = some k

structure Streaming (w : DashboardStreamConnection) (hand : InHand) : Prop where
  bound : ∀ id k, w.subscriptions.get? id = some k → k < w.opened.next
  channels : ∀ k < w.opened.next, (w.opened.cell k).channel < w.channels.next
  sources : ∀ s ∈ w.sent, ∀ k, s.source = some k → k < w.opened.next
  mapped : ∀ id k, w.subscriptions.get? id = some k →
    (w.channels.cell (w.opened.cell k).channel).subscriptionId = id ∧
      ∃ l, (w.channels.cell (w.opened.cell k).channel).listener = some l ∧
        (l.ready = true ∨ hand.exposing = some (w.opened.cell k).channel)
  readied : ∀ c < w.channels.next, ∀ l, (w.channels.cell c).listener = some l →
    l.ready = true ∨ hand.exposing = some c →
      ∃ k, w.subscriptions.get? (w.channels.cell c).subscriptionId = some k ∧
        (w.opened.cell k).channel = c
  cleared : ∀ k < w.opened.next, ¬ w.isMapped k → (w.opened.cell k).eventQueue = []
  ordered : ∀ k < w.opened.next, w.sentEvents k <+: w.producedEvents k
  complete : w.closed = false → ∀ k, w.isMapped k →
    w.sentEvents k ++ gapless (hand.front k) ++ w.queuedEvents k ++
      gapless (hand.back (w.opened.cell k).channel) = w.producedEvents k
  free : ∀ id, hand.pending = some id → w.subscriptions.get? id = none
  inHand : ∀ c, hand.channel = some c → c < w.channels.next ∧
    hand.pending = some (w.channels.cell c).subscriptionId ∧
    ∃ l, (w.channels.cell c).listener = some l ∧ l.ready = false ∧
      (w.closed = false →
        gapless l.buffered ++ gapless (hand.back c) = gapless (w.channels.cell c).produced)

theorem Streaming.of_same (h : Streaming w hand) (hsubscriptions : w'.subscriptions = w.subscriptions)
    (hbound : w'.opened.next = w.opened.next)
    (hopened : ∀ k, (w'.opened.cell k).channel = (w.opened.cell k).channel ∧
      (w'.opened.cell k).eventQueue = (w.opened.cell k).eventQueue)
    (hnext : w'.channels.next = w.channels.next)
    (hchannels : ∀ c, (w'.channels.cell c).subscriptionId = (w.channels.cell c).subscriptionId ∧
      (w'.channels.cell c).listener = (w.channels.cell c).listener ∧
      (w'.channels.cell c).produced = (w.channels.cell c).produced)
    (hsent : w'.sent = w.sent) (hclosed : w'.closed = w.closed) : Streaming w' hand where
  bound := by
    rw [hsubscriptions, hbound]
    exact h.bound
  channels := by
    simp only [hbound, hopened, hnext]
    exact h.channels
  sources := by
    rw [hsent, hbound]
    exact h.sources
  mapped := by
    simp only [hsubscriptions, hopened, hchannels]
    exact h.mapped
  readied := by
    simp only [hsubscriptions, hopened, hchannels, hnext]
    exact h.readied
  cleared := by
    unfold isMapped
    simp only [hsubscriptions, hopened, hbound]
    exact h.cleared
  ordered := by
    unfold sentEvents producedEvents
    simp only [hbound, hopened, hchannels, hsent]
    exact h.ordered
  complete := by
    unfold isMapped sentEvents queuedEvents producedEvents
    simp only [hclosed, hsubscriptions, hopened, hchannels, hsent]
    exact h.complete
  free := by
    rw [hsubscriptions]
    exact h.free
  inHand := by
    simp only [hchannels, hnext, hclosed]
    exact h.inHand

/-- What is about to be done with events does not matter to a closed connection. -/
theorem Streaming.ended (h : Streaming w hand) (hclosed : w.closed = true)
    (front back : Nat → List ChannelEvent) : Streaming w { hand with front, back } where
  bound := h.bound
  channels := h.channels
  sources := h.sources
  mapped := h.mapped
  readied := h.readied
  cleared := h.cleared
  ordered := h.ordered
  complete hopen := by cases hclosed.symm.trans hopen
  free := h.free
  inHand c hc := by
    obtain ⟨hlt, hpending, l, hl, hready, _⟩ := h.inHand c hc
    exact ⟨hlt, hpending, l, hl, hready, fun hopen => by cases hclosed.symm.trans hopen⟩

theorem Streaming.forget (h : Streaming w hand) :
    Streaming w { hand with channel := none, pending := none } where
  bound := h.bound
  channels := h.channels
  sources := h.sources
  mapped := h.mapped
  readied := h.readied
  cleared := h.cleared
  ordered := h.ordered
  complete := h.complete
  free _ hid := by cases hid
  inHand _ hc := by cases hc

/-- A subscription is mapped by the id of its channel only. -/
theorem Streaming.mapped_unique (h : Streaming w hand) {id id' : JsString} {k j : Nat}
    (hk : w.subscriptions.get? id = some k) (hj : w.subscriptions.get? id' = some j)
    (heq : (w.opened.cell k).channel = (w.opened.cell j).channel) : id = id' ∧ k = j := by
  have hids : id = id' := by
    rw [← (h.mapped id k hk).1, ← (h.mapped id' j hj).1, heq]
  refine ⟨hids, Option.some.inj ?_⟩
  rw [← hk, ← hj, hids]

/-- The id of a channel in hand is free, so it is that of no subscription either. -/
theorem Streaming.unmapped_inHand (h : Streaming w hand) {c : Nat} (hc : hand.channel = some c)
    (k : Nat) (hk : w.isMapped k) : (w.opened.cell k).channel ≠ c := by
  rintro rfl
  obtain ⟨id, hid⟩ := hk
  have hfree := h.free _ (h.inHand _ hc).2.1
  rw [(h.mapped id k hid).1, hid] at hfree
  cases hfree

/-! ## Closing -/

/-- What closing some subscriptions leaves. -/
structure Closes (w w' : DashboardStreamConnection) : Prop where
  sent : w'.sent = w.sent
  ledger : w'.ledger = w.ledger
  drains : w'.drains = w.drains
  handling : w'.handling = w.handling
  bound : w'.opened.next = w.opened.next
  next : w'.channels.next = w.channels.next
  closed : w'.closed = false → w.closed = false
  kept : ∀ id k, w'.subscriptions.get? id = some k → w.subscriptions.get? id = some k
  subscription : ∀ k, w'.opened.cell k = w.opened.cell k ∨
    (w'.opened.cell k = { w.opened.cell k with eventQueue := [] } ∧
      ∃ id, w.subscriptions.get? id = some k ∧ w'.subscriptions.get? id = none)
  channel : ∀ c, (w'.channels.cell c).subscriptionId = (w.channels.cell c).subscriptionId ∧
    (w'.channels.cell c).opened = (w.channels.cell c).opened ∧
    (w'.channels.cell c).produced = (w.channels.cell c).produced
  listener : ∀ c, (w'.channels.cell c).listener = (w.channels.cell c).listener ∨
    ((w'.channels.cell c).listener = none ∧ ∃ id k, w.subscriptions.get? id = some k ∧
      (w.opened.cell k).channel = c ∧ w'.subscriptions.get? id = none)
  left : ∀ id k, w.subscriptions.get? id = some k → w'.subscriptions.get? id = some k ∨
    ((w'.opened.cell k).eventQueue = [] ∧
      (w'.channels.cell (w.opened.cell k).channel).listener = none)

theorem Closes.refl (w : DashboardStreamConnection) : Closes w w :=
  ⟨rfl, rfl, rfl, rfl, rfl, rfl, id, fun _ _ h => h, fun _ => .inl rfl, fun _ => ⟨rfl, rfl, rfl⟩,
    fun _ => .inl rfl, fun _ _ h => .inl h⟩

theorem Closes.same (hc : Closes w w') (k : Nat) :
    (w'.opened.cell k).channel = (w.opened.cell k).channel ∧
      (w'.opened.cell k).authorization = (w.opened.cell k).authorization ∧
      (w'.opened.cell k).requiredRole = (w.opened.cell k).requiredRole ∧
      (w'.opened.cell k).authorizingEvents = (w.opened.cell k).authorizingEvents := by
  rcases hc.subscription k with hsame | ⟨hcut, _⟩
  · rw [hsame]
    exact ⟨rfl, rfl, rfl, rfl⟩
  · rw [hcut]
    exact ⟨rfl, rfl, rfl, rfl⟩

/-- What `shut` does to subscriptions. -/
structure Cuts (ks : List Nat) (w w' : DashboardStreamConnection) : Prop where
  sent : w'.sent = w.sent
  ledger : w'.ledger = w.ledger
  drains : w'.drains = w.drains
  handling : w'.handling = w.handling
  bound : w'.opened.next = w.opened.next
  next : w'.channels.next = w.channels.next
  closed : w'.closed = w.closed
  subscriptions : w'.subscriptions = w.subscriptions
  subscription : ∀ k, w'.opened.cell k =
    if k ∈ ks then { w.opened.cell k with eventQueue := [] } else w.opened.cell k
  channel : ∀ c, (w'.channels.cell c).subscriptionId = (w.channels.cell c).subscriptionId ∧
    (w'.channels.cell c).opened = (w.channels.cell c).opened ∧
    (w'.channels.cell c).produced = (w.channels.cell c).produced
  listener : ∀ c, (w'.channels.cell c).listener =
    if ∃ k ∈ ks, (w.opened.cell k).channel = c then none else (w.channels.cell c).listener

section
variable (w)

theorem shutChannel_cell (c j : Nat) :
    (w.shutChannel c).channels.cell j =
      if j = c then { w.channels.cell j with listener := none, closed := true }
      else w.channels.cell j := by
  rw [shutChannel]
  rw [cell_modify]
  split
  · rename_i heq
    rw [heq]
  · rfl

theorem shut_cuts (k : Nat) : Cuts [k] w (w.shut k) where
  sent := rfl
  ledger := rfl
  drains := rfl
  handling := rfl
  bound := rfl
  next := rfl
  closed := rfl
  subscriptions := rfl
  subscription j := by
    show (w.opened.modify k fun s => { s with eventQueue := [] }).cell j = _
    rw [cell_modify]
    simp only [mem_singleton]
    split
    · rename_i heq
      rw [heq]
    · rfl
  channel c := by
    rw [shut, shutChannel_cell]
    split <;> exact ⟨rfl, rfl, rfl⟩
  listener c := by
    rw [shut, shutChannel_cell]
    split
    · rename_i heq
      simp [heq]
    · rename_i hne
      simp [Ne.symm hne]

end

theorem foldl_shut_cuts (ks : List Nat) (w : DashboardStreamConnection) :
    Cuts ks w (ks.foldl shut w) := by
  induction ks generalizing w with
  | nil =>
    exact ⟨rfl, rfl, rfl, rfl, rfl, rfl, rfl, rfl, fun _ => by simp, fun _ => ⟨rfl, rfl, rfl⟩,
      fun _ => by simp⟩
  | cons k ks ih =>
    have hfirst := shut_cuts w k
    have hrest := ih (w.shut k)
    have hchannel : ∀ j, ((w.shut k).opened.cell j).channel = (w.opened.cell j).channel := by
      intro j
      rw [hfirst.subscription]
      split <;> rfl
    refine ⟨hrest.sent.trans hfirst.sent, hrest.ledger.trans hfirst.ledger,
      hrest.drains.trans hfirst.drains, hrest.handling.trans hfirst.handling,
      hrest.bound.trans hfirst.bound, hrest.next.trans hfirst.next,
      hrest.closed.trans hfirst.closed, hrest.subscriptions.trans hfirst.subscriptions,
      fun j => ?_, fun c => ?_, fun c => ?_⟩
    · rw [foldl_cons, hrest.subscription, hfirst.subscription]
      by_cases hj : j = k
      · simp [hj]
      · simp [hj]
    · have hr := hrest.channel c
      have hf := hfirst.channel c
      exact ⟨hr.1.trans hf.1, hr.2.1.trans hf.2.1, hr.2.2.trans hf.2.2⟩
    · rw [foldl_cons, hrest.listener, hfirst.listener]
      simp only [hchannel, mem_cons, exists_eq_or_imp]
      by_cases hk : (w.opened.cell k).channel = c
      · simp [hk]
      · simp [hk]

/-- Subscriptions that have left the map are cut. -/
theorem Cuts.closes {ks : List Nat} {subscriptions : OrderedMap JsString Nat} {closed : Bool}
    (h : Cuts ks { w with subscriptions, closed } w')
    (hclosed : closed = false → w.closed = false)
    (hleft : ∀ id k, w.subscriptions.get? id = some k → subscriptions.get? id = some k ∨ k ∈ ks)
    (hsub : ∀ id k, subscriptions.get? id = some k → w.subscriptions.get? id = some k)
    (hks : ∀ k ∈ ks, ∃ id, w.subscriptions.get? id = some k ∧ subscriptions.get? id = none) :
    Closes w w' where
  sent := h.sent
  ledger := h.ledger
  drains := h.drains
  handling := h.handling
  bound := h.bound
  next := h.next
  closed hopen := hclosed (h.closed.symm.trans hopen)
  kept id k hk := by
    rw [h.subscriptions] at hk
    exact hsub id k hk
  subscription k := by
    rw [h.subscription, h.subscriptions]
    split
    · rename_i hmem
      exact .inr ⟨rfl, hks k hmem⟩
    · exact .inl rfl
  channel := h.channel
  listener c := by
    rw [h.listener, h.subscriptions]
    split
    · rename_i hex
      obtain ⟨k, hmem, hchannel⟩ := hex
      obtain ⟨id, hid, hnone⟩ := hks k hmem
      exact .inr ⟨rfl, id, k, hid, hchannel, hnone⟩
    · exact .inl rfl
  left id k hget := by
    rw [h.subscriptions, h.subscription, h.listener]
    refine (hleft id k hget).imp_right fun hmem => ⟨?_, ?_⟩
    · rw [if_pos hmem]
    · exact if_pos ⟨k, hmem, rfl⟩

section
variable (w)

theorem closeUnauthorizedSubscription_closes (subscriptionId : JsString) :
    Closes w (w.closeUnauthorizedSubscription subscriptionId) := by
  unfold closeUnauthorizedSubscription
  cases hget : w.subscriptions.get? subscriptionId with
  | none => exact Closes.refl w
  | some k =>
    refine (shut_cuts _ k).closes id (fun id j hj => ?_)
      (fun id j hj => (get?_of_delete hj).2) (fun j hj => ?_)
    · rw [get?_delete]
      split
      · rename_i heq
        subst heq
        rw [hget] at hj
        cases hj
        exact .inr mem_cons_self
      · exact .inl hj
    · rw [mem_singleton] at hj
      exact ⟨subscriptionId, hj ▸ hget, by rw [get?_delete, if_pos rfl]⟩

theorem get?_closeUnauthorizedSubscription (subscriptionId : JsString) :
    (w.closeUnauthorizedSubscription subscriptionId).subscriptions.get? subscriptionId = none := by
  unfold closeUnauthorizedSubscription
  cases hget : w.subscriptions.get? subscriptionId with
  | none => exact hget
  | some k =>
    show (w.subscriptions.delete subscriptionId).get? subscriptionId = none
    rw [get?_delete, if_pos rfl]

theorem closeAll_closes : Closes w w.closeAll := by
  unfold closeAll
  split
  · exact Closes.refl w
  refine (foldl_shut_cuts _ _).closes (fun h => by cases h) (fun id k hget => .inr ?_)
    (fun _ _ h => by cases h) (fun k hk => ?_)
  · exact mem_map.mpr ⟨(id, k), mem_entries.mpr hget, rfl⟩
  · obtain ⟨⟨id, _⟩, hmem, rfl⟩ := mem_map.mp hk
    exact ⟨id, mem_entries.mp hmem, rfl⟩

theorem closed_closeAll : w.closeAll.closed = true := by
  unfold closeAll
  split
  · rename_i hclosed
    exact hclosed
  · exact (foldl_shut_cuts _ _).closed

end

theorem isMapped_of_closes (hc : Closes w w') {k : Nat} (hk : w'.isMapped k) : w.isMapped k :=
  hk.imp fun id hid => hc.kept id k hid

/-- A subscription that stays in the map is as it was. -/
theorem Streaming.subscription_of_closes (h : Streaming w hand) (hc : Closes w w') {k : Nat}
    (hk : w'.isMapped k) : w'.opened.cell k = w.opened.cell k := by
  refine (hc.subscription k).resolve_right ?_
  rintro ⟨_, _, hid, hnone⟩
  obtain ⟨id', hid'⟩ := hk
  rw [(h.mapped_unique hid (hc.kept id' k hid') rfl).1, hid'] at hnone
  cases hnone

theorem Streaming.closes (h : Streaming w hand) (hc : Closes w w') : Streaming w' hand where
  bound id k hk := by
    rw [hc.bound]
    exact h.bound id k (hc.kept id k hk)
  channels k hk := by
    rw [(hc.same k).1, hc.next]
    exact h.channels k (hc.bound ▸ hk)
  sources := by
    rw [hc.sent, hc.bound]
    exact h.sources
  mapped id k hk := by
    have hget := hc.kept id k hk
    obtain ⟨hid, l, hl, hready⟩ := h.mapped id k hget
    rw [(hc.same k).1, (hc.channel _).1]
    refine ⟨hid, l, ?_, hready⟩
    rcases hc.listener (w.opened.cell k).channel with hsame | ⟨_, _, _, hj, hchannel, hnone⟩
    · exact hsame.trans hl
    · rw [(h.mapped_unique hj hget hchannel).1, hk] at hnone
      cases hnone
  readied c hlt l hl hready := by
    have hold : (w.channels.cell c).listener = some l := by
      rcases hc.listener c with hsame | ⟨hnone, _⟩
      · exact hsame ▸ hl
      · cases hnone.symm.trans hl
    obtain ⟨k, hget, hchannel⟩ := h.readied c (hc.next ▸ hlt) l hold hready
    refine ⟨k, ?_, (hc.same k).1.trans hchannel⟩
    rw [(hc.channel c).1]
    refine (hc.left _ k hget).resolve_right fun hcut => ?_
    rw [hchannel] at hcut
    cases hcut.2.symm.trans hl
  cleared k hlt hnot := by
    by_cases hk : w.isMapped k
    · obtain ⟨id, hid⟩ := hk
      exact ((hc.left id k hid).resolve_left fun hstays => hnot ⟨id, hstays⟩).1
    have hempty := h.cleared k (hc.bound ▸ hlt) hk
    rcases hc.subscription k with hsame | ⟨hcut, _⟩
    · rw [hsame]
      exact hempty
    · rw [hcut]
  ordered k hk := by
    unfold sentEvents producedEvents
    rw [hc.sent, (hc.same k).1, (hc.channel _).2.2]
    exact h.ordered k (hc.bound ▸ hk)
  complete hopen k hk := by
    unfold sentEvents queuedEvents producedEvents
    rw [hc.sent, h.subscription_of_closes hc hk, (hc.channel _).2.2]
    exact h.complete (hc.closed hopen) k (isMapped_of_closes hc hk)
  free id hid := by
    rw [Option.eq_none_iff_forall_ne_some]
    intro k hk
    have hnone := h.free id hid
    rw [hc.kept id k hk] at hnone
    cases hnone
  inHand c hhand := by
    obtain ⟨hlt, hpending, l, hl, hready, hbuffered⟩ := h.inHand c hhand
    rw [hc.next, (hc.channel c).1, (hc.channel c).2.2]
    refine ⟨hlt, hpending, l, ?_, hready, fun hopen => hbuffered (hc.closed hopen)⟩
    rcases hc.listener c with hsame | ⟨_, id, k, hid, hchannel, _⟩
    · exact hsame.trans hl
    · exact absurd hchannel (h.unmapped_inHand hhand k ⟨id, hid⟩)

/-! ## Sending -/

theorem eventsOf_append (k : Nat) (sent : List SentFrame) (s : SentFrame) :
    eventsOf k (sent ++ [s]) =
      eventsOf k sent ++ if s.source = some k then gapless s.frame.event?.toList else [] := by
  unfold eventsOf
  congr 1
  split
  · rename_i hsource
    cases hevent : s.frame.event? <;> simp [filterMap_cons, hsource, hevent]
  · rename_i hsource
    simp [filterMap_cons, hsource]

theorem Streaming.record {front front' : Nat → List ChannelEvent}
    (h : Streaming w { hand with front }) (hopen : w.closed = false) (s : SentFrame)
    (hsource : ∀ k, s.source = some k → k < w.opened.next ∧
      (s.frame.event? = none ∨ w.isMapped k))
    (hfront : ∀ k, gapless (front k) =
      (if s.source = some k then gapless s.frame.event?.toList else []) ++ gapless (front' k)) :
    Streaming { w with sent := w.sent ++ [s] } { hand with front := front' } where
  bound := h.bound
  channels := h.channels
  sources t ht k hk := by
    rcases mem_append.mp ht with hold | hnew
    · exact h.sources t hold k hk
    rw [mem_singleton] at hnew
    subst hnew
    exact (hsource k hk).1
  mapped := h.mapped
  readied := h.readied
  cleared := h.cleared
  ordered k hk := by
    have hold : eventsOf k w.sent <+: w.producedEvents k := h.ordered k hk
    show eventsOf k (w.sent ++ [s]) <+: w.producedEvents k
    rw [eventsOf_append]
    split
    · rename_i hthis
      rcases (hsource k hthis).2 with hnone | hmapped
      · simpa [hnone] using hold
      have hall := h.complete hopen k hmapped
      have hk' := hfront k
      rw [if_pos hthis] at hk'
      refine ⟨gapless (front' k) ++ w.queuedEvents k ++
        gapless (hand.back (w.opened.cell k).channel), ?_⟩
      rw [← hall]
      show _ = w.sentEvents k ++ gapless (front k) ++ _ ++ _
      rw [hk']
      simp [sentEvents]
    · simpa using hold
  complete _ k hk := by
    have hall := h.complete hopen k hk
    show eventsOf k (w.sent ++ [s]) ++ gapless (front' k) ++ _ ++ _ = w.producedEvents k
    rw [eventsOf_append, ← hall]
    show _ = w.sentEvents k ++ gapless (front k) ++ _ ++ _
    rw [hfront k]
    simp [sentEvents, queuedEvents]
  free := h.free
  inHand := h.inHand

section
variable (around : StreamSurroundings)

theorem send_cases (w : DashboardStreamConnection) (frame : ServerFrame) (source : Option Nat) :
    (w.closed = true ∧ w.send around frame source = w) ∨
      (w.closed = false ∧
        w.send around frame source = { w with sent := w.sent ++ [⟨frame, source, w.ledger⟩] }) ∨
      w.send around frame source = w.closeAll := by
  unfold send
  by_cases hclosed : w.closed = true
  · exact .inl ⟨hclosed, if_pos hclosed⟩
  rw [if_neg hclosed]
  split
  · exact .inr (.inl ⟨Bool.eq_false_of_not_eq_true hclosed, rfl⟩)
  · exact .inr (.inr rfl)

theorem send_outcome (w : DashboardStreamConnection) (frame : ServerFrame) (source : Option Nat) :
    (∃ sent, (∀ s ∈ sent, s ∈ w.sent ∨ s = ⟨frame, source, w.ledger⟩) ∧
      w.send around frame source = { w with sent }) ∨ w.send around frame source = w.closeAll := by
  rcases send_cases around w frame source with ⟨_, heq⟩ | ⟨_, heq⟩ | heq
  · exact .inl ⟨w.sent, fun s hs => .inl hs, heq⟩
  · refine .inl ⟨_, fun s hs => ?_, heq⟩
    exact (mem_append.mp hs).imp_right mem_singleton.mp
  · exact .inr heq

theorem sendEvent_eq (w : DashboardStreamConnection) (k : Nat) (correlationId : JsString)
    (event : ChannelEvent) : w.sendEvent around k correlationId event = w.closeAll ∨
      w.sendEvent around k correlationId event =
        w.send around (.channelEvent correlationId
          (w.channels.cell (w.opened.cell k).channel).subscriptionId event) (some k) := by
  unfold sendEvent
  dsimp only
  split
  · exact .inr rfl
  · split
    · exact .inl rfl
    · exact .inr rfl
  · exact .inr rfl
  · split
    · exact .inl rfl
    · exact .inr rfl

theorem sendEvent_outcome (w : DashboardStreamConnection) (k : Nat) (correlationId : JsString)
    (event : ChannelEvent) :
    (∃ sent, w.sendEvent around k correlationId event = { w with sent }) ∨
      w.sendEvent around k correlationId event = w.closeAll := by
  rcases sendEvent_eq around w k correlationId event with heq | heq
  · exact .inr heq
  · rw [heq]
    exact (send_outcome around w _ _).imp_left fun ⟨sent, _, hsent⟩ => ⟨sent, hsent⟩

theorem Streaming.send (h : Streaming w hand) (frame : ServerFrame) (source : Option Nat)
    (hevent : frame.event? = none) (hsource : ∀ k, source = some k → k < w.opened.next) :
    Streaming (w.send around frame source) hand := by
  rcases send_cases around w frame source with ⟨_, heq⟩ | ⟨hopen, heq⟩ | heq
  · rw [heq]
    exact h
  · rw [heq]
    refine Streaming.record h hopen _ (fun k hk => ⟨hsource k hk, .inl hevent⟩) fun k => ?_
    simp [hevent]
  · rw [heq]
    exact h.closes (closeAll_closes w)

theorem isMapped_send {k : Nat} (hmapped : w.closed = false → w.isMapped k) (frame : ServerFrame)
    (source : Option Nat) (hopen : (w.send around frame source).closed = false) :
    (w.send around frame source).isMapped k := by
  rcases send_cases around w frame source with ⟨_, heq⟩ | ⟨_, heq⟩ | heq
  · rw [heq] at hopen ⊢
    exact hmapped hopen
  · rw [heq] at hopen ⊢
    exact hmapped hopen
  · rw [heq, closed_closeAll] at hopen
    cases hopen

/-- The first event in front is sent, unless this closes the connection. -/
theorem Streaming.sendEvent (hand : InHand) {k : Nat} {event : ChannelEvent} {rest : List ChannelEvent}
    (h : Streaming w { hand with front := onlyAt k (event :: rest) }) (hlt : k < w.opened.next)
    (hmapped : w.closed = false → w.isMapped k) (correlationId : JsString) :
    Streaming (w.sendEvent around k correlationId event) { hand with front := onlyAt k rest } ∧
      k < (w.sendEvent around k correlationId event).opened.next ∧
      ((w.sendEvent around k correlationId event).closed = false →
        (w.sendEvent around k correlationId event).isMapped k) := by
  have hclose : Streaming w.closeAll { hand with front := onlyAt k rest } ∧
      k < w.closeAll.opened.next ∧ (w.closeAll.closed = false → w.closeAll.isMapped k) := by
    refine ⟨(h.closes (closeAll_closes w)).ended (closed_closeAll w) _ _, ?_, fun hopen => ?_⟩
    · rw [(closeAll_closes w).bound]
      exact hlt
    · cases (closed_closeAll w).symm.trans hopen
  rcases sendEvent_eq around w k correlationId event with heq | heq
  · rw [heq]
    exact hclose
  rw [heq]
  rcases send_cases around w (.channelEvent correlationId
    (w.channels.cell (w.opened.cell k).channel).subscriptionId event) (some k) with
    ⟨hclosed, heq⟩ | ⟨hopen, heq⟩ | heq
  · rw [heq]
    exact ⟨h.ended hclosed _ _, hlt, hmapped⟩
  · rw [heq]
    refine ⟨Streaming.record h hopen _ (fun j hj => ?_) (fun j => ?_), hlt, hmapped⟩
    · cases hj
      exact ⟨hlt, .inr (hmapped hopen)⟩
    by_cases hj : j = k
    · subst hj
      simp [ServerFrame.event?, ← gapless_cons]
    · simp [onlyAt_ne hj, Ne.symm hj]
  · rw [heq]
    exact hclose

theorem Streaming.sendEvents (hand : InHand) {k : Nat} (events rest : List ChannelEvent)
    (h : Streaming w { hand with front := onlyAt k (events ++ rest) }) (hlt : k < w.opened.next)
    (hmapped : w.closed = false → w.isMapped k) (correlationId : JsString) :
    Streaming (w.sendEvents around k correlationId events) { hand with front := onlyAt k rest } ∧
      k < (w.sendEvents around k correlationId events).opened.next ∧
      ((w.sendEvents around k correlationId events).closed = false →
        (w.sendEvents around k correlationId events).isMapped k) := by
  induction events generalizing w with
  | nil => exact ⟨h, hlt, hmapped⟩
  | cons event events ih =>
    obtain ⟨hsent, hlt, hmapped⟩ := Streaming.sendEvent around hand h hlt hmapped correlationId
    exact ih hsent hlt hmapped

end

/-! ## Hearing -/

variable {current : Option Nat} {pending : Option JsString}

theorem Streaming.produce (h : Streaming w { channel := current, pending }) (c : Nat)
    (event : ChannelEvent) :
    Streaming
      { w with
        channels := w.channels.modify c fun channel =>
          { channel with produced := channel.produced ++ [event] } }
      { channel := current, pending, back := onlyAt c [event] } := by
  have hcell : ∀ j, (w.channels.modify c fun channel =>
      { channel with produced := channel.produced ++ [event] }).cell j =
        { w.channels.cell j with
          produced := (w.channels.cell j).produced ++ onlyAt c [event] j } := by
    intro j
    rw [cell_modify]
    split
    · rename_i heq
      rw [heq, onlyAt_self]
    · rename_i hne
      rw [onlyAt_ne hne, append_nil]
  refine ⟨h.bound, h.channels, h.sources, fun id k hk => ?_, fun j hj => ?_, h.cleared,
    fun k hk => ?_, fun hopen k hk => ?_, h.free, fun j hj => ?_⟩
  · rw [hcell]
    exact h.mapped id k hk
  · rw [hcell]
    exact h.readied j hj
  · unfold producedEvents
    rw [hcell, gapless_append]
    exact (h.ordered k hk).trans (prefix_append _ _)
  · have hall := h.complete hopen k hk
    rw [gapless_nil, append_nil] at hall
    unfold producedEvents
    rw [hcell, gapless_append]
    exact congrArg (· ++ _) hall
  · obtain ⟨hlt, hpending, l, hl, hready, hbuffered⟩ := h.inHand j hj
    rw [hcell, gapless_append]
    refine ⟨hlt, hpending, l, hl, hready, fun hopen => ?_⟩
    have hall := hbuffered hopen
    rw [gapless_nil, append_nil] at hall
    exact congrArg (· ++ _) hall

variable {event : ChannelEvent}

theorem Streaming.keep {c : Nat} {l : ChannelListener}
    (h : Streaming w { channel := current, pending, back := onlyAt c [event] })
    (hl : (w.channels.cell c).listener = some l) (hready : l.ready = false) :
    Streaming
      { w with
        channels := w.channels.modify c fun channel =>
          { channel with
            listener := some { l with buffered := l.buffered ++ [event] } } }
      { channel := current, pending } := by
  have hcell : ∀ j, (w.channels.modify c fun channel =>
      { channel with listener := some { l with buffered := l.buffered ++ [event] } }).cell j =
        if j = c then
          { w.channels.cell j with listener := some { l with buffered := l.buffered ++ [event] } }
        else w.channels.cell j := by
    intro j
    rw [cell_modify]
    split
    · rename_i heq
      rw [heq]
    · rfl
  -- no subscription has the channel
  have hother : ∀ k, w.isMapped k → (w.opened.cell k).channel ≠ c := by
    rintro k ⟨id, hid⟩ rfl
    obtain ⟨_, l', hl', hr⟩ := h.mapped id k hid
    rw [hl] at hl'
    cases hl'
    rw [hready] at hr
    exact hr.elim (fun hr => by cases hr) fun hr => by cases hr
  have hproduced : ∀ j, ((w.channels.modify c fun channel =>
      { channel with listener := some { l with buffered := l.buffered ++ [event] } }).cell j).produced =
        (w.channels.cell j).produced := by
    intro j
    rw [hcell]
    split <;> rfl
  refine ⟨h.bound, h.channels, h.sources, fun id k hk => ?_, fun j hj l' hl' hr => ?_, h.cleared,
    fun k hk => ?_, fun hopen k hk => ?_, h.free, fun j hj => ?_⟩
  · rw [hcell, if_neg (hother k ⟨id, hk⟩)]
    exact h.mapped id k hk
  · rw [hcell] at hl' ⊢
    by_cases hjc : j = c
    · rw [if_pos hjc] at hl'
      cases hl'
      rw [hready] at hr
      exact hr.elim (fun hr => by cases hr) fun hr => by cases hr
    · rw [if_neg hjc] at hl' ⊢
      exact h.readied j hj l' hl' hr
  · unfold producedEvents
    rw [hproduced]
    exact h.ordered k hk
  · have hall := h.complete hopen k hk
    unfold producedEvents
    rw [hproduced]
    dsimp only at hall
    rw [onlyAt_ne (hother k hk)] at hall
    exact hall
  · obtain ⟨hlt, hpending, l', hl', hready', hbuffered⟩ := h.inHand j hj
    rw [hcell]
    by_cases hjc : j = c
    · subst hjc
      rw [hl] at hl'
      cases hl'
      rw [if_pos rfl]
      refine ⟨hlt, hpending, _, rfl, hready, fun hopen => ?_⟩
      have hall := hbuffered hopen
      dsimp only at hall
      simpa using hall
    · rw [if_neg hjc]
      refine ⟨hlt, hpending, l', hl', hready', fun hopen => ?_⟩
      have hall := hbuffered hopen
      dsimp only at hall
      rw [onlyAt_ne hjc] at hall
      exact hall

theorem Streaming.queue {c k : Nat} {id : JsString} {l : ChannelListener}
    (h : Streaming w { channel := current, pending, back := onlyAt c [event] })
    (hl : (w.channels.cell c).listener = some l) (hready : l.ready = true) (hk : w.subscriptions.get? id = some k)
    (hchannel : (w.opened.cell k).channel = c) (correlationId : JsString) :
    Streaming
      { w with
        opened := w.opened.modify k fun s =>
          { s with eventQueue := s.eventQueue ++ [(correlationId, event)] } }
      { channel := current, pending } := by
  have hcell : ∀ j, (w.opened.modify k fun s =>
      { s with eventQueue := s.eventQueue ++ [(correlationId, event)] }).cell j =
        { w.opened.cell j with
          eventQueue := (w.opened.cell j).eventQueue ++
            if j = k then [(correlationId, event)] else [] } := by
    intro j
    rw [cell_modify]
    split
    · rename_i heq
      rw [heq]
    · rw [append_nil]
  refine ⟨h.bound, fun j hj => ?_, h.sources, fun id' j hj => ?_, fun c' hc' l' hl' hr => ?_,
    fun j hj hnot => ?_, fun j hj => ?_, fun hopen j hj => ?_, h.free, fun c' hc' => ?_⟩
  · rw [hcell]
    exact h.channels j hj
  · rw [hcell]
    exact h.mapped id' j hj
  · obtain ⟨j, hj, heq⟩ := h.readied c' hc' l' hl' hr
    refine ⟨j, hj, ?_⟩
    rw [hcell]
    exact heq
  · rw [hcell, if_neg (fun heq : j = k => hnot ⟨id, heq ▸ hk⟩), append_nil]
    exact h.cleared j hj hnot
  · unfold producedEvents
    rw [hcell]
    exact h.ordered j hj
  · have hall := h.complete hopen j hj
    unfold queuedEvents producedEvents
    rw [hcell]
    refine Eq.trans ?_ hall
    by_cases hjk : j = k
    · subst hjk
      simp [queuedEvents, hchannel, sentEvents]
    have hne : (w.opened.cell j).channel ≠ c := by
      intro heq
      obtain ⟨id', hj⟩ := hj
      exact hjk (h.mapped_unique hj hk (heq.trans hchannel.symm)).2
    simp [queuedEvents, onlyAt_ne hne, hjk, sentEvents]
  · obtain ⟨hlt, hpending, l', hl', hready', hbuffered⟩ := h.inHand c' hc'
    refine ⟨hlt, hpending, l', hl', hready', fun hopen => ?_⟩
    have hne : c' ≠ c := by
      rintro rfl
      rw [hl] at hl'
      cases hl'
      cases hready.symm.trans hready'
    have hall := hbuffered hopen
    dsimp only at hall
    rw [onlyAt_ne hne] at hall
    exact hall

theorem Streaming.lose {c : Nat} (h : Streaming w { channel := current, pending, back := onlyAt c [event] })
    (hl : (w.channels.cell c).listener = none) : Streaming w { channel := current, pending } := by
  refine ⟨h.bound, h.channels, h.sources, h.mapped, h.readied, h.cleared, h.ordered,
    fun hopen k hk => ?_, h.free, fun j hj => ?_⟩
  · have hne : (w.opened.cell k).channel ≠ c := by
      rintro rfl
      obtain ⟨id, hid⟩ := hk
      obtain ⟨_, l, hl', _⟩ := h.mapped id k hid
      cases hl.symm.trans hl'
    have hall := h.complete hopen k hk
    dsimp only at hall
    rw [onlyAt_ne hne] at hall
    exact hall
  · obtain ⟨hlt, hpending, l, hl', hready, hbuffered⟩ := h.inHand j hj
    refine ⟨hlt, hpending, l, hl', hready, fun hopen => ?_⟩
    have hne : j ≠ c := by
      rintro rfl
      cases hl.symm.trans hl'
    have hall := hbuffered hopen
    dsimp only at hall
    rw [onlyAt_ne hne] at hall
    exact hall

section
variable (w)

@[simp] theorem setDrain_self (d : Nat) (stage : DrainStage) :
    (w.setDrain d stage).drains.cell d = { w.drains.cell d with stage } :=
  cell_modify_self w.drains d fun drain => { drain with stage }

@[simp] theorem setAuthorizing_self (k : Nat) (authorizing : Bool) :
    (w.setAuthorizing k authorizing).opened.cell k =
      { w.opened.cell k with authorizingEvents := authorizing } :=
  cell_modify_self w.opened k fun s => { s with authorizingEvents := authorizing }

end

theorem cell_authorizing (opened : Heap Subscription) (k j : Nat) (authorizingEvents : Bool) :
    (opened.modify k fun s => { s with authorizingEvents }).cell j =
      { opened.cell j with
        authorizingEvents := if j = k then authorizingEvents else (opened.cell j).authorizingEvents } := by
  rw [cell_modify]
  split
  · rename_i heq
    rw [heq]
  · rfl

/-- Which drains there are, and whether they are authorizing, is not the matter of the streams. -/
theorem Streaming.authorizing (h : Streaming w hand) (k : Nat) (authorizingEvents : Bool)
    (drains : Heap Drain) :
    Streaming { w with opened := w.opened.modify k fun s => { s with authorizingEvents }, drains }
      hand := by
  refine Streaming.of_same h rfl rfl (fun j => ?_) rfl (fun _ => ⟨rfl, rfl, rfl⟩) rfl rfl
  rw [cell_authorizing]
  exact ⟨rfl, rfl⟩

section
variable (around : StreamSurroundings)

theorem Streaming.setDrain (h : Streaming w hand) (d : Nat) (stage : DrainStage) :
    Streaming (w.setDrain d stage) hand :=
  Streaming.of_same h rfl rfl (fun _ => ⟨rfl, rfl⟩) rfl (fun _ => ⟨rfl, rfl, rfl⟩) rfl rfl

theorem Streaming.drainLoop (h : Streaming w hand) (d : Nat) (subscriptionId : JsString) (k : Nat) :
    Streaming (w.drainLoop around d subscriptionId k) hand := by
  unfold DashboardStreamConnection.drainLoop
  split
  · split
    · exact h.setDrain d _
    · exact (h.closes (closeUnauthorizedSubscription_closes w subscriptionId)).setDrain d _
  · exact (h.authorizing k false w.drains).setDrain d _

theorem Streaming.startDrain (h : Streaming w hand) (subscriptionId : JsString) (k : Nat) :
    Streaming (w.startDrain around subscriptionId k) hand :=
  (h.authorizing k true _).drainLoop around _ _ _

theorem Streaming.hear (h : Streaming w { channel := current, pending }) {c : Nat}
    (hlt : c < w.channels.next) (event : ChannelEvent) :
    Streaming (w.hear around c event) { channel := current, pending } := by
  unfold DashboardStreamConnection.hear
  dsimp only
  split
  · exact h
  rename_i l hl
  have hproduced := h.produce c event
  have hclose := (hproduced.closes (closeAll_closes _)).ended (closed_closeAll _)
    (fun _ => []) (fun _ => [])
  have hl' : ((w.channels.modify c fun channel =>
      { channel with produced := channel.produced ++ [event] }).cell c).listener = some l := by
    rw [cell_modify_self]
    exact hl
  split
  · exact hclose
  split
  · rename_i hready
    obtain ⟨k, hk, hchannel⟩ := h.readied c hlt l hl (.inl hready)
    unfold queueAuthorizedEvent
    rw [hk]
    dsimp only
    split
    · have hcloses := closeUnauthorizedSubscription_closes
        { w with
          channels := w.channels.modify c fun channel =>
            { channel with produced := channel.produced ++ [event] } }
        (w.channels.cell c).subscriptionId
      refine (hproduced.closes hcloses).lose ?_
      rcases hcloses.left _ k hk with hstays | ⟨_, hnone⟩
      · rw [get?_closeUnauthorizedSubscription] at hstays
        cases hstays
      · subst hchannel
        exact hnone
    · have hqueued := hproduced.queue hl' hready hk hchannel
        (w.channels.cell c).correlationId
      split
      · exact hqueued
      · exact hqueued.startDrain around _ _
  · rename_i hready
    split
    · exact hclose
    · exact hproduced.keep hl' (Bool.eq_false_of_not_eq_true hready)

end

theorem Streaming.pop {k : Nat} {correlationId : JsString} {rest : List (JsString × ChannelEvent)}
    (h : Streaming w { channel := current, pending })
    (hqueue : (w.opened.cell k).eventQueue = (correlationId, event) :: rest) :
    Streaming
      { w with opened := w.opened.modify k fun s => { s with eventQueue := rest } }
      { channel := current, pending, front := onlyAt k [event] } := by
  have hcell : ∀ j, (w.opened.modify k fun s => { s with eventQueue := rest }).cell j =
      { w.opened.cell j with
        eventQueue := if j = k then rest else (w.opened.cell j).eventQueue } := by
    intro j
    rw [cell_modify]
    split
    · rename_i heq
      rw [heq]
    · rfl
  refine ⟨h.bound, fun j hj => ?_, h.sources, fun id j hj => ?_, fun c hc l hl hr => ?_,
    fun j hj hnot => ?_, fun j hj => ?_, fun hopen j hj => ?_, h.free, h.inHand⟩
  · rw [hcell]
    exact h.channels j hj
  · rw [hcell]
    exact h.mapped id j hj
  · obtain ⟨j, hj, heq⟩ := h.readied c hc l hl hr
    exact ⟨j, hj, by rw [hcell]; exact heq⟩
  · have hempty := h.cleared j hj hnot
    rw [hcell]
    split
    · rename_i heq
      rw [heq, hqueue] at hempty
      cases hempty
    · exact hempty
  · unfold producedEvents
    rw [hcell]
    exact h.ordered j hj
  · have hall := h.complete hopen j hj
    unfold queuedEvents producedEvents
    rw [hcell]
    refine Eq.trans ?_ hall
    by_cases hjk : j = k
    · subst hjk
      simp [queuedEvents, hqueue, sentEvents, ← gapless_cons]
    · simp [queuedEvents, onlyAt_ne hjk, hjk, sentEvents]

end DashboardStreamConnection

end PiDaemon.Streams
