import PiDaemon.Streams.Exposing

/-!
# Drains at work

A subscription whose queue is not empty has a drain that waits for its check.

* `Draining`: the invariant, from which a subscription that is busy is excepted;
* one lemma for each function that starts, moves or ends a drain.
-/

namespace PiDaemon.Streams

open Lib Authorization Heap

namespace DashboardStreamConnection

variable {w w' : DashboardStreamConnection}

/-- A subscription with events has a drain that waits for its check, except for one that is
`busy`. -/
structure Draining (w : DashboardStreamConnection) (busy : Option Nat) : Prop where
  known : ∀ d < w.drains.next, (w.drains.cell d).subscription < w.opened.next ∧
    ∀ id, w.subscriptions.get? id = some (w.drains.cell d).subscription →
      id = (w.drains.cell d).subscriptionId
  closing : ∀ d < w.drains.next, (w.drains.cell d).stage = .closing →
    ¬ w.isMapped (w.drains.cell d).subscription
  waits : w.closed = false → ∀ k, w.isMapped k → busy ≠ some k →
    (w.opened.cell k).authorizingEvents = true →
      ∃ d < w.drains.next, (w.drains.cell d).subscription = k ∧ (w.drains.cell d).stage = .checking
  authorizes : w.closed = false → ∀ k, w.isMapped k → busy ≠ some k →
    (w.opened.cell k).eventQueue ≠ [] → (w.opened.cell k).authorizingEvents = true

variable {busy : Option Nat} {k d : Nat}

theorem Draining.relax (h : Draining w none) (k : Nat) : Draining w (some k) where
  known := h.known
  closing := h.closing
  waits hopen j hj _ := h.waits hopen j hj fun hbusy => by cases hbusy
  authorizes hopen j hj _ := h.authorizes hopen j hj fun hbusy => by cases hbusy

theorem Draining.settle (h : Draining w (some k))
    (hwaits : w.closed = false → w.isMapped k → (w.opened.cell k).authorizingEvents = true →
      ∃ d < w.drains.next, (w.drains.cell d).subscription = k ∧ (w.drains.cell d).stage = .checking)
    (hauthorizes : w.closed = false → w.isMapped k → (w.opened.cell k).eventQueue ≠ [] →
      (w.opened.cell k).authorizingEvents = true) : Draining w none where
  known := h.known
  closing := h.closing
  waits hopen j hj _ := by
    by_cases hjk : j = k
    · subst hjk
      exact hwaits hopen hj
    · exact h.waits hopen j hj fun heq => hjk (Option.some.inj heq).symm
  authorizes hopen j hj _ := by
    by_cases hjk : j = k
    · subst hjk
      exact hauthorizes hopen hj
    · exact h.authorizes hopen j hj fun heq => hjk (Option.some.inj heq).symm

theorem Draining.of_same (h : Draining w busy) (hsubscriptions : w'.subscriptions = w.subscriptions)
    (hopened : w'.opened = w.opened) (hdrains : w'.drains = w.drains)
    (hclosed : w'.closed = w.closed) : Draining w' busy where
  known := by
    rw [hsubscriptions, hopened, hdrains]
    exact h.known
  closing := by
    unfold isMapped
    rw [hsubscriptions, hdrains]
    exact h.closing
  waits := by
    unfold isMapped
    rw [hsubscriptions, hopened, hdrains, hclosed]
    exact h.waits
  authorizes := by
    unfold isMapped
    rw [hsubscriptions, hopened, hclosed]
    exact h.authorizes

theorem Draining.closes (h : Draining w busy) (hc : Closes w w') : Draining w' busy where
  known d hd := by
    rw [hc.drains] at hd ⊢
    rw [hc.bound]
    exact ⟨(h.known d hd).1, fun id hid => (h.known d hd).2 id (hc.kept id _ hid)⟩
  closing d hd hstage := by
    rw [hc.drains] at hd hstage ⊢
    exact fun hk => h.closing d hd hstage (isMapped_of_closes hc hk)
  waits hopen k hk hbusy hauthorizing := by
    rw [hc.drains]
    exact h.waits (hc.closed hopen) k (isMapped_of_closes hc hk) hbusy
      ((hc.same k).2.2.2 ▸ hauthorizing)
  authorizes hopen k hk hbusy hqueue := by
    rw [(hc.same k).2.2.2]
    refine h.authorizes (hc.closed hopen) k (isMapped_of_closes hc hk) hbusy fun hempty => hqueue ?_
    rcases hc.subscription k with hsame | ⟨hcut, _⟩
    · rw [hsame]
      exact hempty
    · rw [hcut]

theorem Draining.modify (h : Draining w (some k)) (f : Subscription → Subscription) :
    Draining { w with opened := w.opened.modify k f } (some k) where
  known := h.known
  closing := h.closing
  waits hopen j hj hbusy hauthorizing := by
    have hne : j ≠ k := fun heq => hbusy (heq ▸ rfl)
    rw [cell_modify_ne _ hne] at hauthorizing
    exact h.waits hopen j hj hbusy hauthorizing
  authorizes hopen j hj hbusy hqueue := by
    have hne : j ≠ k := fun heq => hbusy (heq ▸ rfl)
    rw [cell_modify_ne _ hne] at hqueue ⊢
    exact h.authorizes hopen j hj hbusy hqueue

theorem Draining.setDrain (h : Draining w (some k)) (hk : (w.drains.cell d).subscription = k)
    (stage : DrainStage) (hclosing : stage = .closing → ¬ w.isMapped k) :
    Draining (w.setDrain d stage) (some k) := by
  have hcell : ∀ j, (w.setDrain d stage).drains.cell j =
      { w.drains.cell j with stage := if j = d then stage else (w.drains.cell j).stage } := by
    intro j
    unfold DashboardStreamConnection.setDrain
    rw [cell_modify]
    split
    · rename_i heq
      rw [heq]
    · rfl
  refine ⟨fun j hj => ?_, fun j hj hstage => ?_, fun hopen i hi hbusy hauthorizing => ?_,
    h.authorizes⟩
  · rw [hcell]
    exact h.known j hj
  · rw [hcell] at hstage ⊢
    split at hstage
    · rename_i heq
      rw [heq, hk]
      exact hclosing hstage
    · exact h.closing j hj hstage
  · obtain ⟨j, hj, hthis, hstage⟩ := h.waits hopen i hi hbusy hauthorizing
    have hne : j ≠ d := by
      rintro rfl
      exact hbusy (hk.symm.trans hthis ▸ rfl)
    refine ⟨j, hj, ?_⟩
    rw [hcell]
    rw [if_neg hne]
    exact ⟨hthis, hstage⟩

theorem Draining.alloc (h : Draining w (some k)) {subscriptionId : JsString} (hlt : k < w.opened.next)
    (hid : ∀ id, w.subscriptions.get? id = some k → id = subscriptionId) :
    Draining { w with drains := w.drains.alloc ⟨subscriptionId, k, .done⟩ } (some k) := by
  have hcell : ∀ {j}, j < w.drains.next →
      (w.drains.alloc ⟨subscriptionId, k, .done⟩).cell j = w.drains.cell j :=
    fun hj => cell_alloc_lt _ hj _
  have hlast : ∀ {j}, j < w.drains.next + 1 → j < w.drains.next ∨ j = w.drains.next := by omega
  refine ⟨fun j hj => ?_, fun j hj hstage => ?_, fun hopen i hi hbusy hauthorizing => ?_,
    h.authorizes⟩
  · rcases hlast hj with hj | rfl
    · rw [hcell hj]
      exact h.known j hj
    · rw [cell_alloc_self]
      exact ⟨hlt, hid⟩
  · rcases hlast hj with hj | rfl
    · rw [hcell hj] at hstage ⊢
      exact h.closing j hj hstage
    · rw [cell_alloc_self] at hstage
      cases hstage
  · obtain ⟨j, hj, hthis⟩ := h.waits hopen i hi hbusy hauthorizing
    refine ⟨j, Nat.lt_succ_of_lt hj, ?_⟩
    rw [hcell hj]
    exact hthis

theorem Draining.take (h : Draining w none) (id : JsString) (c : Nat)
    (authorization : DashboardResourceRef) (role : DashboardResourceRole) :
    Draining (w.take id ⟨c, authorization, role, [], false⟩) none := by
  have hget : ∀ {id' k}, (w.subscriptions.set id w.opened.next).get? id' = some k →
      k ≠ w.opened.next → w.subscriptions.get? id' = some k := by
    intro id' k hk hne
    rw [OrderedMap.get?_set] at hk
    split at hk
    · exact absurd (Option.some.inj hk).symm hne
    · exact hk
  have hold : ∀ {k}, k ≠ w.opened.next →
      (w.opened.alloc ⟨c, authorization, role, [], false⟩).cell k = w.opened.cell k := by
    intro k hne
    rw [cell_alloc, if_neg hne]
  have hself : (w.opened.alloc ⟨c, authorization, role, [], false⟩).cell w.opened.next =
    ⟨c, authorization, role, [], false⟩ := cell_alloc_self _ _
  refine ⟨fun d hd => ⟨Nat.lt_succ_of_lt (h.known d hd).1, fun id' hid' => ?_⟩,
    fun d hd hstage hk => ?_, fun hopen k hk _ hauthorizing => ?_, fun hopen k hk _ hqueue => ?_⟩
  · exact (h.known d hd).2 id' (hget hid' (Nat.ne_of_lt (h.known d hd).1))
  · obtain ⟨id', hid'⟩ := hk
    exact h.closing d hd hstage ⟨id', hget hid' (Nat.ne_of_lt (h.known d hd).1)⟩
  · by_cases hne : k = w.opened.next
    · subst hne
      simp only [DashboardStreamConnection.take, hself] at hauthorizing
      cases hauthorizing
    · obtain ⟨id', hid'⟩ := hk
      simp only [DashboardStreamConnection.take, hold hne] at hauthorizing
      exact h.waits hopen k ⟨id', hget hid' hne⟩ (fun hbusy => by cases hbusy) hauthorizing
  · by_cases hne : k = w.opened.next
    · subst hne
      simp only [DashboardStreamConnection.take, hself, ne_eq, not_true] at hqueue
    obtain ⟨id', hid'⟩ := hk
    simp only [DashboardStreamConnection.take, hold hne] at hqueue ⊢
    exact h.authorizes hopen k ⟨id', hget hid' hne⟩ (fun hbusy => by cases hbusy) hqueue

theorem Draining.markReady (h : Draining w busy) {c : Nat} : Draining (w.markReady c) busy :=
  h.of_same rfl rfl rfl rfl

section
variable (around : StreamSurroundings)

theorem Draining.send (h : Draining w busy) (frame : ServerFrame) (source : Option Nat) :
    Draining (w.send around frame source) busy := by
  rcases send_outcome around w frame source with ⟨_, _, heq⟩ | heq
  · rw [heq]
    exact h.of_same rfl rfl rfl rfl
  · rw [heq]
    exact h.closes (closeAll_closes w)

theorem Draining.sendEvent (h : Draining w busy) (k : Nat) (correlationId : JsString)
    (event : ChannelEvent) : Draining (w.sendEvent around k correlationId event) busy := by
  rcases sendEvent_eq around w k correlationId event with heq | heq
  · rw [heq]
    exact h.closes (closeAll_closes w)
  · rw [heq]
    exact h.send around _ _

theorem Draining.sendEvents (h : Draining w busy) (k : Nat) (correlationId : JsString)
    (events : List ChannelEvent) : Draining (w.sendEvents around k correlationId events) busy := by
  induction events generalizing w with
  | nil => exact h
  | cons event events ih => exact ih (h.sendEvent around k correlationId event)

/-- At the head of its loop a drain of the subscription that is busy goes on or ends. -/
theorem Draining.drainLoop {subscriptionId : JsString} (h : Draining w (some k))
    (hd : d < w.drains.next) (hk : (w.drains.cell d).subscription = k)
    (hid : (w.drains.cell d).subscriptionId = subscriptionId)
    (hauthorizes : w.closed = false → w.isMapped k → (w.opened.cell k).eventQueue ≠ [] →
      (w.opened.cell k).authorizingEvents = true) :
    Draining (w.drainLoop around d subscriptionId k) none := by
  have hmapped : ∀ id, w.subscriptions.get? id = some k → id = subscriptionId := by
    intro id hget
    rw [← hid]
    exact (h.known d hd).2 id (hk.symm ▸ hget)
  unfold DashboardStreamConnection.drainLoop
  split
  · split
    · refine (h.setDrain hk .checking fun hstage => by cases hstage).settle
        (fun _ _ _ => ⟨d, hd, ?_⟩) hauthorizes
      rw [setDrain_self]
      exact ⟨hk, rfl⟩
    · have hc := closeUnauthorizedSubscription_closes w subscriptionId
      have hnot : ¬ (w.closeUnauthorizedSubscription subscriptionId).isMapped k := by
        rintro ⟨id, hget⟩
        rw [hmapped id (hc.kept id k hget), get?_closeUnauthorizedSubscription] at hget
        cases hget
      exact ((h.closes hc).setDrain (by rw [hc.drains]; exact hk) .closing fun _ => hnot).settle
        (fun _ hk => absurd hk hnot) (fun _ hk => absurd hk hnot)
  · rename_i hend
    have hself := setAuthorizing_self w k false
    have hmodify : Draining (w.setAuthorizing k false) (some k) := h.modify _
    refine (hmodify.setDrain hk .done fun hstage => by cases hstage).settle
      (fun _ _ (htrue : ((w.setAuthorizing k false).opened.cell k).authorizingEvents = true) => ?_)
      (fun hopen hmem (hqueue : ((w.setAuthorizing k false).opened.cell k).eventQueue ≠ []) =>
        absurd ?_ hend)
    · rw [hself] at htrue
      cases htrue
    obtain ⟨id, hget⟩ := hmem
    have hsub : w.subscriptions.get? subscriptionId = some k := hmapped id hget ▸ hget
    rw [hself] at hqueue
    have hopen : w.closed = false := hopen
    simp [drainable, hsub, hopen, hqueue]

theorem Draining.startDrain {subscriptionId : JsString} (h : Draining w (some k))
    (hlt : k < w.opened.next) (hid : ∀ id, w.subscriptions.get? id = some k → id = subscriptionId) :
    Draining (w.startDrain around subscriptionId k) none := by
  have halloc := (h.modify fun s => { s with authorizingEvents := true }).alloc hlt hid
  refine halloc.drainLoop around (Nat.lt_succ_self _) ?_ ?_ fun _ _ _ => ?_
  · show ((w.drains.alloc ⟨subscriptionId, k, .done⟩).cell w.drains.next).subscription = k
    rw [cell_alloc_self]
  · show ((w.drains.alloc ⟨subscriptionId, k, .done⟩).cell w.drains.next).subscriptionId = _
    rw [cell_alloc_self]
  · show ((w.setAuthorizing k true).opened.cell k).authorizingEvents = true
    rw [setAuthorizing_self]

theorem Draining.queueAuthorizedEvent {subscriptionId : JsString} (h : Draining w none)
    (hbound : ∀ k, w.subscriptions.get? subscriptionId = some k → k < w.opened.next ∧
      ∀ id, w.subscriptions.get? id = some k → id = subscriptionId)
    (correlationId : JsString) (event : ChannelEvent) :
    Draining (w.queueAuthorizedEvent around subscriptionId correlationId event) none := by
  unfold DashboardStreamConnection.queueAuthorizedEvent
  split
  · exact h
  rename_i k hget
  obtain ⟨hlt, hid⟩ := hbound k hget
  split
  · exact h.closes (closeUnauthorizedSubscription_closes w subscriptionId)
  have hpush := (h.relax k).modify fun s =>
    { s with eventQueue := s.eventQueue ++ [(correlationId, event)] }
  dsimp only
  split
  · rename_i hauthorizing
    refine hpush.settle (fun hopen hk _ => ?_) fun _ _ _ => hauthorizing
    rw [cell_modify_self] at hauthorizing
    exact h.waits hopen k hk (fun hbusy => by cases hbusy) hauthorizing
  · exact hpush.startDrain around hlt hid

/-- The first event is taken out and sent, and the drain goes on. -/
theorem Draining.drainEvent (h : Draining w none) (hd : d < w.drains.next)
    (hmapped : w.isMapped (w.drains.cell d).subscription)
    (hqueue : (w.opened.cell (w.drains.cell d).subscription).eventQueue ≠ [])
    (rest : List (JsString × ChannelEvent)) (correlationId : JsString) (event : ChannelEvent) :
    Draining
      (({ w with
          opened := w.opened.modify (w.drains.cell d).subscription fun s =>
            { s with eventQueue := rest } }.sendEvent around (w.drains.cell d).subscription
        correlationId event).drainLoop around d (w.drains.cell d).subscriptionId
          (w.drains.cell d).subscription) none := by
  have hpopped := ((h.relax (w.drains.cell d).subscription).modify fun s =>
    { s with eventQueue := rest }).sendEvent around (w.drains.cell d).subscription correlationId event
  rcases sendEvent_outcome around { w with
      opened := w.opened.modify (w.drains.cell d).subscription fun s => { s with eventQueue := rest } }
    (w.drains.cell d).subscription correlationId event with ⟨sent, heq⟩ | heq
  · rw [heq] at hpopped ⊢
    refine hpopped.drainLoop around hd rfl rfl fun hopen _ _ => ?_
    rw [cell_modify_self]
    exact h.authorizes hopen _ hmapped (fun hbusy => by cases hbusy) hqueue
  · rw [heq] at hpopped ⊢
    have hc := closeAll_closes { w with
      opened := w.opened.modify (w.drains.cell d).subscription fun s => { s with eventQueue := rest } }
    refine hpopped.drainLoop around ?_ ?_ ?_ fun hopen => ?_
    · rw [hc.drains]
      exact hd
    · rw [hc.drains]
    · rw [hc.drains]
    · cases (closed_closeAll _).symm.trans hopen

end

end DashboardStreamConnection

end PiDaemon.Streams
