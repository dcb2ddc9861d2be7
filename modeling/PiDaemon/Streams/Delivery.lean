import PiDaemon.Streams.Draining

/-!
# What a connection delivers

A frame with session data follows a check in the same step.  With the streams and the drains this
gives what the browser has been sent.

* `Authorized`: the invariant of the frames;
* `Live`, `Delivering`: all three, during a step and between steps;
* `connection_delivers`: in every reachable state.
-/

namespace PiDaemon.Streams

open Lib Authorization Heap

namespace DashboardStreamConnection

variable {w w' w'' : DashboardStreamConnection} {hand : InHand} {current : Option Nat}
  {pending : Option JsString} {k d : Nat}

/-! ## The invariant of the frames -/

section
variable (service : DashboardAuthorizationService) (principal : DashboardPrincipal)

/-- The principal has the role that the subscription requires. -/
def holds (w : DashboardStreamConnection) (ledger : Ledger) (k : Nat) : Prop :=
  (ledger.require service principal (w.opened.cell k).authorization
    (w.opened.cell k).requiredRole).toBool = true

/-- A frame that carries session data was allowed when it was sent. -/
def allows (w : DashboardStreamConnection) (s : SentFrame) : Prop :=
  s.frame.isSessionData = true →
    ∃ k, s.source = some k ∧ k < w.opened.next ∧ w.holds service principal s.ledger k

def Authorized (w : DashboardStreamConnection) : Prop :=
  ∀ s ∈ w.sent, w.allows service principal s

end

/-- Subscriptions keep their resources and roles. -/
structure Grows (w w' : DashboardStreamConnection) : Prop where
  bound : w.opened.next ≤ w'.opened.next
  authorization : ∀ k < w.opened.next,
    (w'.opened.cell k).authorization = (w.opened.cell k).authorization
  requiredRole : ∀ k < w.opened.next,
    (w'.opened.cell k).requiredRole = (w.opened.cell k).requiredRole

theorem Closes.grows (hc : Closes w w') : Grows w w' :=
  ⟨hc.bound.ge, fun k _ => (hc.same k).2.1, fun k _ => (hc.same k).2.2.1⟩

theorem Grows.of_same (h : w'.opened = w.opened) : Grows w w' :=
  ⟨h ▸ Nat.le_refl _, fun _ _ => by rw [h], fun _ _ => by rw [h]⟩

theorem Grows.modify (w : DashboardStreamConnection) (k : Nat) (f : Subscription → Subscription)
    (hf : ∀ s, (f s).authorization = s.authorization ∧ (f s).requiredRole = s.requiredRole) :
    Grows w { w with opened := w.opened.modify k f } := by
  refine ⟨Nat.le_refl _, fun j _ => ?_, fun j _ => ?_⟩
  · rw [cell_modify]
    split
    · rename_i heq
      rw [(hf _).1, heq]
    · rfl
  · rw [cell_modify]
    split
    · rename_i heq
      rw [(hf _).2, heq]
    · rfl

section
variable {service : DashboardAuthorizationService} {principal : DashboardPrincipal}

theorem Grows.holds (hg : Grows w w') {ledger : Ledger} (hlt : k < w.opened.next)
    (h : w.holds service principal ledger k) : w'.holds service principal ledger k := by
  unfold DashboardStreamConnection.holds
  rw [hg.authorization k hlt, hg.requiredRole k hlt]
  exact h

theorem Authorized.grows (h : w.Authorized service principal) (hg : Grows w w')
    (hsent : ∀ s ∈ w'.sent, s ∈ w.sent ∨ w'.allows service principal s) :
    w'.Authorized service principal := by
  intro s hs
  rcases hsent s hs with hold | hnew
  · intro hdata
    obtain ⟨k, hk, hlt, hholds⟩ := h s hold hdata
    exact ⟨k, hk, Nat.lt_of_lt_of_le hlt hg.bound, hg.holds hlt hholds⟩
  · exact hnew

theorem Authorized.closes (h : w.Authorized service principal) (hc : Closes w w') :
    w'.Authorized service principal :=
  h.grows hc.grows fun s hs => .inl (hc.sent ▸ hs)

variable (around : StreamSurroundings)

theorem Authorized.send (h : w.Authorized service principal) (frame : ServerFrame)
    (source : Option Nat) (hallows : w.allows service principal ⟨frame, source, w.ledger⟩) :
    (w.send around frame source).Authorized service principal := by
  rcases send_outcome around w frame source with ⟨_, hsent, heq⟩ | heq
  · rw [heq]
    exact h.grows (.of_same rfl) fun s hs => (hsent s hs).imp_right fun hnew => by
      subst hnew
      exact hallows
  · rw [heq]
    exact h.closes (closeAll_closes w)

/-- A subscription that exists and whose resource is allowed. -/
def isAllowed (service : DashboardAuthorizationService) (principal : DashboardPrincipal)
    (w : DashboardStreamConnection) (k : Nat) : Prop :=
  k < w.opened.next ∧ w.holds service principal w.ledger k

theorem isAllowed.grows (h : w.isAllowed service principal k) (hg : Grows w w')
    (hledger : w'.ledger = w.ledger) : w'.isAllowed service principal k := by
  refine ⟨Nat.lt_of_lt_of_le h.1 hg.bound, ?_⟩
  rw [hledger]
  exact hg.holds h.1 h.2

theorem isAllowed.send (h : w.isAllowed service principal k) (frame : ServerFrame)
    (source : Option Nat) : (w.send around frame source).isAllowed service principal k := by
  rcases send_outcome around w frame source with ⟨_, _, heq⟩ | heq
  · rw [heq]
    exact h
  · rw [heq]
    exact h.grows (closeAll_closes w).grows (closeAll_closes w).ledger

theorem Authorized.sendEvent (h : w.Authorized service principal)
    (hk : w.isAllowed service principal k) (correlationId : JsString) (event : ChannelEvent) :
    (w.sendEvent around k correlationId event).Authorized service principal ∧
      (w.sendEvent around k correlationId event).isAllowed service principal k := by
  rcases sendEvent_eq around w k correlationId event with heq | heq
  · rw [heq]
    exact ⟨h.closes (closeAll_closes w),
      hk.grows (closeAll_closes w).grows (closeAll_closes w).ledger⟩
  · rw [heq]
    exact ⟨h.send around _ _ fun _ => ⟨k, rfl, hk⟩, hk.send around _ _⟩

theorem Authorized.sendEvents (h : w.Authorized service principal)
    (hk : w.isAllowed service principal k) (correlationId : JsString) (events : List ChannelEvent) :
    (w.sendEvents around k correlationId events).Authorized service principal ∧
      (w.sendEvents around k correlationId events).isAllowed service principal k := by
  induction events generalizing w with
  | nil => exact ⟨h, hk⟩
  | cons event events ih =>
    obtain ⟨hsent, hk⟩ := h.sendEvent around hk correlationId event
    exact ih hsent hk

end

/-- Nothing is sent. -/
structure Quiet (w w' : DashboardStreamConnection) : Prop where
  grows : Grows w w'
  sent : w'.sent = w.sent

theorem Grows.trans (h : Grows w w') (h' : Grows w' w'') : Grows w w'' where
  bound := h.bound.trans h'.bound
  authorization k hk :=
    (h'.authorization k (Nat.lt_of_lt_of_le hk h.bound)).trans (h.authorization k hk)
  requiredRole k hk :=
    (h'.requiredRole k (Nat.lt_of_lt_of_le hk h.bound)).trans (h.requiredRole k hk)

theorem Quiet.trans (h : Quiet w w') (h' : Quiet w' w'') : Quiet w w'' :=
  ⟨h.grows.trans h'.grows, h'.sent.trans h.sent⟩

theorem Closes.quiet (hc : Closes w w') : Quiet w w' := ⟨hc.grows, hc.sent⟩

theorem Quiet.of_same (hopened : w'.opened = w.opened) (hsent : w'.sent = w.sent) : Quiet w w' :=
  ⟨.of_same hopened, hsent⟩

section
variable (w)

theorem Quiet.modify (k : Nat) (f : Subscription → Subscription)
    (hf : ∀ s, (f s).authorization = s.authorization ∧ (f s).requiredRole = s.requiredRole) :
    Quiet w { w with opened := w.opened.modify k f } :=
  ⟨.modify w k f hf, rfl⟩

theorem Quiet.drains (drains : Heap Drain) : Quiet w { w with drains } :=
  .of_same rfl rfl

theorem Quiet.channels (channels : Heap StreamChannel) : Quiet w { w with channels } :=
  .of_same rfl rfl

end

section
variable (around : StreamSurroundings)

theorem setAuthorizing_quiet (w : DashboardStreamConnection) (k : Nat) (authorizing : Bool) :
    Quiet w (w.setAuthorizing k authorizing) :=
  .modify w k (fun s => { s with authorizingEvents := authorizing }) fun _ => ⟨rfl, rfl⟩

theorem drainLoop_quiet (w : DashboardStreamConnection) (d : Nat) (subscriptionId : JsString)
    (k : Nat) : Quiet w (w.drainLoop around d subscriptionId k) := by
  unfold drainLoop
  split
  · split
    · exact .of_same rfl rfl
    · exact (closeUnauthorizedSubscription_closes w subscriptionId).quiet.trans (.of_same rfl rfl)
  · exact (setAuthorizing_quiet w k false).trans (.of_same rfl rfl)

theorem startDrain_quiet (w : DashboardStreamConnection) (subscriptionId : JsString) (k : Nat) :
    Quiet w (w.startDrain around subscriptionId k) :=
  ((setAuthorizing_quiet w k true).trans (.drains _ _)).trans (drainLoop_quiet around _ _ _ _)

theorem queueAuthorizedEvent_quiet (w : DashboardStreamConnection)
    (subscriptionId correlationId : JsString) (event : ChannelEvent) :
    Quiet w (w.queueAuthorizedEvent around subscriptionId correlationId event) := by
  unfold queueAuthorizedEvent
  split
  · exact .of_same rfl rfl
  rename_i k _
  split
  · exact (closeUnauthorizedSubscription_closes w subscriptionId).quiet
  have hpush := Quiet.modify w k
    (fun s => { s with eventQueue := s.eventQueue ++ [(correlationId, event)] })
    fun _ => ⟨rfl, rfl⟩
  dsimp only
  split
  · exact hpush
  · exact hpush.trans (startDrain_quiet around _ _ _)

theorem hear_quiet (w : DashboardStreamConnection) (c : Nat) (event : ChannelEvent) :
    Quiet w (w.hear around c event) := by
  unfold hear
  dsimp only
  split
  · exact .of_same rfl rfl
  split
  · exact (Quiet.channels w _).trans (closeAll_closes _).quiet
  split
  · exact (Quiet.channels w _).trans (queueAuthorizedEvent_quiet around _ _ _ _)
  split
  · exact (Quiet.channels w _).trans (closeAll_closes _).quiet
  · exact .of_same rfl rfl

end

/-! ## Both -/

section
variable {service : DashboardAuthorizationService} {principal : DashboardPrincipal}

/-- The invariant while a step is under way. -/
structure Live (service : DashboardAuthorizationService) (principal : DashboardPrincipal)
    (w : DashboardStreamConnection) (hand : InHand) : Prop where
  streaming : Streaming w hand
  draining : Draining w none
  authorized : w.Authorized service principal

theorem Live.of_same (h : Live service principal w hand)
    (hsubscriptions : w'.subscriptions = w.subscriptions) (hopened : w'.opened = w.opened)
    (hnext : w'.channels.next = w.channels.next)
    (hchannels : ∀ c, (w'.channels.cell c).subscriptionId = (w.channels.cell c).subscriptionId ∧
      (w'.channels.cell c).listener = (w.channels.cell c).listener ∧
      (w'.channels.cell c).produced = (w.channels.cell c).produced)
    (hdrains : w'.drains = w.drains) (hsent : w'.sent = w.sent) (hclosed : w'.closed = w.closed) :
    Live service principal w' hand where
  streaming := Streaming.of_same h.streaming hsubscriptions (by rw [hopened])
    (fun _ => by rw [hopened]; exact ⟨rfl, rfl⟩) hnext hchannels hsent hclosed
  draining := Draining.of_same h.draining hsubscriptions hopened hdrains hclosed
  authorized := h.authorized.grows (.of_same hopened) fun s hs => .inl (hsent ▸ hs)

theorem Live.closes (h : Live service principal w hand) (hc : Closes w w') :
    Live service principal w' hand :=
  ⟨h.streaming.closes hc, h.draining.closes hc, h.authorized.closes hc⟩

theorem Live.forget (h : Live service principal w { channel := current, pending }) :
    Live service principal w {} :=
  ⟨h.streaming.forget, h.draining, h.authorized⟩

theorem same (w : DashboardStreamConnection) (c : Nat) :
    (w.channels.cell c).subscriptionId = (w.channels.cell c).subscriptionId ∧
      (w.channels.cell c).listener = (w.channels.cell c).listener ∧
      (w.channels.cell c).produced = (w.channels.cell c).produced :=
  ⟨rfl, rfl, rfl⟩

variable (around : StreamSurroundings)

theorem Live.send (h : Live service principal w hand) {frame : ServerFrame}
    (hframe : frame.isSessionData = false) :
    Live service principal (w.send around frame none) hand := by
  have hevent : frame.event? = none := by
    cases frame <;> first | rfl | cases hframe
  exact ⟨h.streaming.send around frame none hevent fun _ hk => (by cases hk),
    h.draining.send around frame none,
    h.authorized.send around frame none fun hdata => by cases hframe.symm.trans hdata⟩

theorem Live.hear {c : Nat} (h : Live service principal w { channel := current, pending })
    (hlt : c < w.channels.next) (event : ChannelEvent) :
    Live service principal (w.hear around c event) { channel := current, pending } where
  streaming := h.streaming.hear around hlt event
  draining := by
    have hproduced : Draining { w with channels := w.channels.modify c fun channel =>
        { channel with produced := channel.produced ++ [event] } } none :=
      h.draining.of_same rfl rfl rfl rfl
    unfold DashboardStreamConnection.hear
    dsimp only
    split
    · exact h.draining
    split
    · exact hproduced.closes (closeAll_closes _)
    split
    · refine hproduced.queueAuthorizedEvent around (fun k hk => ⟨?_, fun id hid => ?_⟩) _ event
      · exact h.streaming.bound _ k hk
      · exact (h.streaming.mapped_unique hid hk rfl).1
    · split
      · exact hproduced.closes (closeAll_closes _)
      · exact h.draining.of_same rfl rfl rfl rfl
  authorized :=
    have hquiet := hear_quiet around w c event
    h.authorized.grows hquiet.grows fun s hs => .inl (hquiet.sent ▸ hs)

theorem Live.hearAll {c : Nat} (h : Live service principal w { channel := current, pending })
    (hlt : c < w.channels.next) (events : List ChannelEvent) :
    Live service principal (events.foldl (fun w event => w.hear around c event) w)
      { channel := current, pending } := by
  induction events generalizing w with
  | nil => exact h
  | cons event events ih =>
    exact ih (h.hear around hlt event) ((hear_shrinks around w c event).next.symm ▸ hlt)

theorem Live.expose {request : SubscribeRequest} {c : Nat}
    (h : Live service principal w { channel := some c, pending := some request.subscriptionId })
    {authorization : DashboardResourceRef}
    (hpermits : (w.ledger.require service principal authorization
      (requiredRole request.role)).toBool = true) :
    Live service principal (w.expose around request authorization c) {} where
  streaming := h.streaming.expose around authorization
  draining :=
    (((h.draining.take request.subscriptionId c authorization _).sendEvents around _ _ _).send
      around _ _).markReady.sendEvents around _ _ _
  authorized := by
    have htake : Grows w (w.take request.subscriptionId
        ⟨c, authorization, requiredRole request.role, [], false⟩) :=
      ⟨Nat.le_succ _, fun k hk => congrArg Subscription.authorization (cell_alloc_lt _ hk _),
        fun k hk => congrArg Subscription.requiredRole (cell_alloc_lt _ hk _)⟩
    have hself : (w.take request.subscriptionId
        ⟨c, authorization, requiredRole request.role, [], false⟩).isAllowed service principal
          w.opened.next := by
      refine ⟨Nat.lt_succ_self _, ?_⟩
      unfold holds DashboardStreamConnection.take
      rw [cell_alloc_self]
      exact hpermits
    have htaken := h.authorized.grows htake fun s hs => .inl hs
    obtain ⟨hgaps, hallowed⟩ := htaken.sendEvents around hself request.correlationId
      ((((w.channels.cell c).listener.map (·.buffered)).getD []).filter fun event => event.isGap)
    have hsnapshot := fun opened => hgaps.send around (.subscriptionReady request.correlationId
      request.subscriptionId opened (around.role c)) (some w.opened.next) fun _ =>
        ⟨_, rfl, hallowed⟩
    have hready : ∀ {v : DashboardStreamConnection}, v.Authorized service principal →
        (v.markReady c).Authorized service principal := fun h => h
    exact ((hready (hsnapshot _)).sendEvents around
      (isAllowed.send around hallowed _ _) request.correlationId _).1

end

/-! ## Steps -/

section
variable {service : DashboardAuthorizationService} {principal : DashboardPrincipal}
  (around : StreamSurroundings)

section
variable (h : Live service principal w { channel := current, pending })
include h

theorem Live.deny
    (hd : d < w.drains.next) :
    Live service principal
      ((w.closeUnauthorizedSubscription (w.drains.cell d).subscriptionId).setDrain d .closing)
      { channel := current, pending } := by
  have hc := closeUnauthorizedSubscription_closes w (w.drains.cell d).subscriptionId
  have hnot : ¬ (w.closeUnauthorizedSubscription (w.drains.cell d).subscriptionId).isMapped
      (w.drains.cell d).subscription := by
    rintro ⟨id, hget⟩
    rw [(h.draining.known d hd).2 id (hc.kept id _ hget),
      get?_closeUnauthorizedSubscription] at hget
    cases hget
  have hclosed := h.closes hc
  refine ⟨hclosed.streaming.setDrain d _, ?_, hclosed.authorized⟩
  exact ((hclosed.draining.relax _).setDrain (by rw [hc.drains]) .closing fun _ => hnot).settle
    (fun _ hk => absurd hk hnot) (fun _ hk => absurd hk hnot)

theorem Live.drained
    (hd : d < w.drains.next) (available : Bool) :
    Live service principal (w.drained service principal around d available)
      { channel := current, pending } := by
  unfold DashboardStreamConnection.drained
  dsimp only
  split
  · rename_i hpermits
    have hallowed : w.isAllowed service principal (w.drains.cell d).subscription :=
      ⟨(h.draining.known d hd).1, (Bool.and_eq_true_iff.mp hpermits).2⟩
    split
    · rename_i hempty
      have hquiet := drainLoop_quiet around w d (w.drains.cell d).subscriptionId
        (w.drains.cell d).subscription
      exact ⟨h.streaming.drainLoop around _ _ _,
        (h.draining.relax _).drainLoop around hd rfl rfl fun _ _ hqueue => absurd hempty hqueue,
        h.authorized.grows hquiet.grows fun s hs => .inl (hquiet.sent ▸ hs)⟩
    · rename_i correlationId event rest hqueue
      have hmapped : w.isMapped (w.drains.cell d).subscription := by
        by_contra hnot
        rw [h.streaming.cleared _ hallowed.1 hnot] at hqueue
        cases hqueue
      have hquiet := Quiet.modify w (w.drains.cell d).subscription
        (fun s => { s with eventQueue := rest }) fun _ => ⟨rfl, rfl⟩
      have hpop := h.streaming.pop hqueue
      obtain ⟨hsent, _, _⟩ := Streaming.sendEvent around { channel := current, pending } hpop
        hallowed.1 (fun _ => hmapped) correlationId
      have hnothing : onlyAt (w.drains.cell d).subscription [] = fun _ => [] :=
        funext fun j => onlyAt_nil _ j
      rw [hnothing] at hsent
      obtain ⟨hauthorized, _⟩ := (h.authorized.grows hquiet.grows fun s hs => .inl hs).sendEvent
        around (hallowed.grows hquiet.grows rfl) correlationId event
      have hend := drainLoop_quiet around
        ({ w with opened := w.opened.modify (w.drains.cell d).subscription fun s =>
          { s with eventQueue := rest } }.sendEvent around (w.drains.cell d).subscription
            correlationId event) d (w.drains.cell d).subscriptionId (w.drains.cell d).subscription
      exact ⟨hsent.drainLoop around _ _ _,
        h.draining.drainEvent around hd hmapped (hqueue ▸ List.cons_ne_nil _ _) rest _ _,
        hauthorized.grows hend.grows fun s hs => .inl (hend.sent ▸ hs)⟩
  · exact h.deny hd

/-- A drain that waits for a close has no subscription in the map: it ends. -/
theorem Live.drainClosed
    (hd : d < w.drains.next) (hstage : (w.drains.cell d).stage = .closing) :
    Live service principal (w.drainClosed around d) { channel := current, pending } := by
  have hnot := h.draining.closing d hd hstage
  have hend : ¬ ((w.setAuthorizing (w.drains.cell d).subscription false).setDrain d .done).drainable
      (w.drains.cell d).subscriptionId (w.drains.cell d).subscription = true := by
    intro hdrainable
    simp only [drainable, Bool.and_eq_true, decide_eq_true_eq] at hdrainable
    exact hnot ⟨_, hdrainable.1.2⟩
  have hdone : Draining (w.setAuthorizing (w.drains.cell d).subscription false)
      (some (w.drains.cell d).subscription) := (h.draining.relax _).modify _
  unfold DashboardStreamConnection.drainClosed
  rw [if_neg hend]
  have hquiet : Quiet w ((w.setAuthorizing (w.drains.cell d).subscription false).setDrain d .done) :=
    (setAuthorizing_quiet w (w.drains.cell d).subscription false).trans (.of_same rfl rfl)
  refine ⟨(h.streaming.authorizing _ false w.drains).setDrain d _, ?_,
    h.authorized.grows hquiet.grows fun s hs => .inl hs⟩
  exact (hdone.setDrain rfl .done fun hstage => by cases hstage).settle
    (fun _ hk => absurd hk hnot) fun _ hk => absurd hk hnot

end

/-- Between steps. -/
def Delivering (service : DashboardAuthorizationService) (principal : DashboardPrincipal)
    (w : DashboardStreamConnection) : Prop :=
  Live service principal w (InHand.of w.handling)

theorem Live.delivering (h : Live service principal w hand) (hhand : InHand.of w.handling = hand) :
    w.Delivering service principal := by
  unfold Delivering
  rw [hhand]
  exact h

theorem Live.sent {frame : ServerFrame} (h : Live service principal w hand)
    (hframe : frame.isSessionData = false) (hhand : InHand.of w.handling = hand) :
    (w.send around frame none).Delivering service principal :=
  (h.send around hframe).delivering (by rw [(send_shrinks around w _ _).handling]; exact hhand)

variable {limits : StreamLimits}

theorem Live.launch (h : Live service principal w {}) (hhandling : w.handling = none)
    (correlationId subscriptionId : JsString) (k : Nat) (operation : StreamOperation) :
    (w.launch limits around correlationId subscriptionId k operation).Delivering service
      principal := by
  unfold DashboardStreamConnection.launch
  split
  · exact h.sent around rfl (by rw [hhandling]; rfl)
  split
  · exact Live.delivering (h.of_same rfl rfl rfl (same w) rfl rfl rfl) (by rw [hhandling]; rfl)
  have hc := closeUnauthorizedSubscription_closes w subscriptionId
  refine Live.delivering ((h.closes hc).of_same rfl rfl rfl (same _) rfl rfl rfl) ?_
  show InHand.of (w.closeUnauthorizedSubscription subscriptionId).handling = _
  rw [hc.handling, hhandling]
  rfl

theorem Live.onFrame (h : Live service principal w {}) (hhandling : w.handling = none)
    (frame : ClientFrame) : (w.onFrame limits around frame).Delivering service principal := by
  have hsend : ∀ correlationId error,
      (w.sendError around correlationId error).Delivering service principal :=
    fun correlationId error => h.sent around rfl (by rw [hhandling]; rfl)
  cases frame with
  | malformed => exact hsend _ _
  | hello =>
    rw [DashboardStreamConnection.onFrame]
    split
    · exact hsend _ _
    split
    · exact hsend _ _
    · exact Live.delivering (h.of_same rfl rfl rfl (same w) rfl rfl rfl) rfl
  | subscribe request =>
    rw [DashboardStreamConnection.onFrame]
    split
    · exact hsend _ _
    split
    · exact hsend _ _
    rename_i hfree
    split
    · exact hsend _ _
    have hnone : w.subscriptions.get? request.subscriptionId = none :=
      OrderedMap.has_eq_false.mp (Bool.eq_false_iff.mpr fun hhas => hfree (.inl hhas))
    have hreserved : Live service principal w { pending := some request.subscriptionId } :=
      ⟨h.streaming.reserve hnone, h.draining, h.authorized⟩
    exact Live.delivering (hreserved.of_same rfl rfl rfl (same w) rfl rfl rfl) rfl
  | unsubscribe correlationId subscriptionId =>
    rw [DashboardStreamConnection.onFrame]
    split
    · exact hsend _ _
    · exact Live.delivering ((h.closes (closeUnauthorizedSubscription_closes w
        subscriptionId)).of_same rfl rfl rfl (same _) rfl rfl rfl) rfl
  | operate =>
    rw [DashboardStreamConnection.onFrame]
    split
    · exact hsend _ _
    split
    · exact hsend _ _
    split
    · exact hsend _ _
    · exact h.launch around hhandling _ _ _ _

theorem Live.onMessage (h : Live service principal w {}) (hhandling : w.handling = none)
    (frame : ClientFrame) : (w.onMessage limits around frame).Delivering service principal := by
  unfold DashboardStreamConnection.onMessage
  split
  · exact h.delivering (by rw [hhandling]; rfl)
  split
  · exact Live.delivering ((h.closes (closeAll_closes w)).of_same rfl rfl rfl (same _) rfl rfl rfl)
      rfl
  · exact h.onFrame around hhandling frame

/-- The channel of a `subscribe` that fails is abandoned. -/
theorem Live.catchSubscribe (h : Live service principal w { channel := current, pending })
    (request : SubscribeRequest) (c : Nat) (error : StreamError) :
    (w.catchSubscribe around request c error).Delivering service principal := by
  unfold DashboardStreamConnection.catchSubscribe
  dsimp only
  split
  · have hended : Live service principal
        ({ w with registered := w.registered.filter (· ≠ c) }.endSubscribe request) {} :=
      h.forget.of_same rfl rfl rfl (same w) rfl rfl rfl
    exact hended.sent around rfl rfl
  · refine Live.delivering (h.forget.of_same rfl rfl rfl (fun j => ?_) rfl rfl rfl) rfl
    rw [cell_modify]
    split
    · rename_i heq
      rw [heq]
      exact ⟨rfl, rfl, rfl⟩
    · exact ⟨rfl, rfl, rfl⟩

theorem Live.abandon (h : Live service principal w { channel := current, pending }) {c : Nat}
    (hother : ∀ k, w.isMapped k → (w.opened.cell k).channel ≠ c) :
    Live service principal (w.shutChannel c) {} := by
  have hproduced : ∀ j, ((w.shutChannel c).channels.cell j).produced =
      (w.channels.cell j).produced := by
    intro j
    rw [shutChannel_cell]
    split <;> rfl
  have hstreaming := h.streaming
  refine ⟨⟨hstreaming.bound, hstreaming.channels, hstreaming.sources, fun id k hk => ?_,
    fun j hj l hl hr => ?_, hstreaming.cleared, fun k hk => ?_, fun hopen k hk => ?_,
    (fun _ hid => by cases hid), fun _ hc => by cases hc⟩, h.draining.of_same rfl rfl rfl rfl,
    h.authorized.grows (.of_same rfl) fun s hs => .inl hs⟩
  · have hne : ((w.shutChannel c).opened.cell k).channel ≠ c := hother k ⟨id, hk⟩
    rw [shutChannel_cell, if_neg hne]
    exact hstreaming.mapped id k hk
  · rw [shutChannel_cell] at hl ⊢
    split at hl
    · cases hl
    rename_i hne
    rw [if_neg hne]
    exact hstreaming.readied j hj l hl hr
  · unfold producedEvents
    rw [hproduced]
    exact hstreaming.ordered k hk
  · unfold producedEvents
    rw [hproduced]
    exact hstreaming.complete hopen k hk

theorem Live.openChannel {request : SubscribeRequest}
    (h : Live service principal w { pending := some request.subscriptionId })
    (authorization : DashboardResourceRef) (opened : OpenedChannel) (replayed : List ChannelEvent) :
    (w.openChannel around request authorization opened replayed).Delivering service principal := by
  have hself : (w.channels.alloc
      ⟨opened, request.subscriptionId, request.correlationId, none, false, []⟩).cell
        w.channels.next =
      ⟨opened, request.subscriptionId, request.correlationId, none, false, []⟩ :=
    cell_alloc_self _ _
  have hobtained : Live service principal
      { w with
        channels := w.channels.alloc
          ⟨opened, request.subscriptionId, request.correlationId, none, false, []⟩ }
      { pending := some request.subscriptionId } :=
    ⟨h.streaming.obtain _ rfl, h.draining.of_same rfl rfl rfl rfl, h.authorized⟩
  unfold DashboardStreamConnection.openChannel
  dsimp only
  split
  · have hl : ((w.channels.alloc ⟨opened, request.subscriptionId, request.correlationId, none,
        false, []⟩).cell w.channels.next).listener = none := by rw [hself]
    have habandoned := hobtained.abandon (hobtained.streaming.unmapped hl)
    exact Live.delivering (habandoned.of_same rfl rfl rfl (same _) rfl rfl rfl) rfl
  · split
    · exact hobtained.catchSubscribe around request _ _
    split
    · exact hobtained.catchSubscribe around request _ _
    have hlistening := hobtained.streaming.listen (Nat.lt_succ_self _) (by rw [hself])
      (by rw [hself]) (by rw [hself])
    have hheard := Live.hearAll around ⟨hlistening, hobtained.draining.of_same rfl rfl rfl rfl,
      hobtained.authorized⟩ (Nat.lt_succ_self _) replayed
    split
    · have habandoned := hheard.abandon (hheard.streaming.unmapped_inHand rfl)
      exact Live.delivering (habandoned.of_same rfl rfl rfl (same _) rfl rfl rfl) rfl
    · exact Live.delivering (hheard.of_same rfl rfl rfl (same _) rfl rfl rfl) rfl

theorem Live.answer {handling : Handling} {reply : Reply} (h : w.Delivering service principal)
    (hhandling : w.handling = some handling)
    (hanswer : w.answer service principal around handling reply = some w') :
    w'.Delivering service principal := by
  have hlive : Live service principal w
      { channel := handling.current, pending := handling.pending } := by
    unfold Delivering at h
    rw [hhandling] at h
    exact h
  have hnone : Live service principal { w with handling := none } {} :=
    hlive.forget.of_same rfl rfl rfl (same w) rfl rfl rfl
  have hend : ∀ request, Live service principal (w.endSubscribe request) {} :=
    fun request => hlive.forget.of_same rfl rfl rfl (same w) rfl rfl rfl
  unfold DashboardStreamConnection.answer at hanswer
  split at hanswer
  · cases hanswer
    exact hnone.sent around rfl rfl
  · cases hanswer
    exact hnone.sent around rfl rfl
  · cases hanswer
    exact Live.delivering (hlive.of_same rfl rfl rfl (same w) rfl rfl rfl) rfl
  · cases hanswer
    exact hnone.sent around rfl rfl
  · rename_i request authorization opened replayed
    cases hanswer
    exact hlive.openChannel around authorization opened replayed
  · rename_i request authorization error
    cases hanswer
    exact (hend request).sent around rfl rfl
  · rename_i request authorization c thrown
    split at hanswer
    · cases hanswer
      exact Live.delivering (hlive.of_same rfl rfl rfl (same w) rfl rfl rfl) rfl
    · cases hanswer
      exact hlive.catchSubscribe around request c _
  · rename_i request authorization c thrown
    split at hanswer
    · rename_i hpermits
      cases hanswer
      have hexposed := hlive.expose around (Bool.and_eq_true_iff.mp hpermits).2
      exact Live.delivering (hexposed.of_same rfl rfl rfl (same _) rfl rfl rfl) rfl
    · cases hanswer
      exact hlive.catchSubscribe around request c _
  · rename_i request c
    cases hanswer
    exact (hend request).delivering rfl
  · cases hanswer
    exact Live.delivering (hlive.of_same rfl rfl rfl (same w) rfl rfl rfl) rfl
  · rename_i request c error
    cases hanswer
    exact (hend request).sent around rfl rfl
  · cases hanswer
    exact hnone.delivering rfl
  · cases hanswer
    exact hnone.sent around rfl rfl
  · cases hanswer
    exact hnone.delivering rfl
  · cases hanswer

theorem Delivering.initial (ledger : Ledger) :
    (DashboardStreamConnection.initial ledger).Delivering service principal where
  streaming :=
    { bound _ _ h := by cases h
      channels _ h := absurd h (Nat.not_lt_zero _)
      sources _ h := by cases h
      mapped _ _ h := by cases h
      readied _ h := absurd h (Nat.not_lt_zero _)
      cleared _ h := absurd h (Nat.not_lt_zero _)
      ordered _ h := absurd h (Nat.not_lt_zero _)
      complete _ _ h := by
        obtain ⟨_, h⟩ := h
        cases h
      free _ h := by cases h
      inHand _ h := by cases h }
  draining :=
    { known _ h := absurd h (Nat.not_lt_zero _)
      closing _ h := absurd h (Nat.not_lt_zero _)
      waits _ _ h := by
        obtain ⟨_, h⟩ := h
        cases h
      authorizes _ _ h := by
        obtain ⟨_, h⟩ := h
        cases h }
  authorized _ h := by cases h

/-- **Delivery**, step by step. -/
theorem Delivering.step {event : StreamEvent} (h : w.Delivering service principal)
    (hstep : w.step service principal limits event = some w') : w'.Delivering service principal := by
  have hlaunch : ∀ {v : DashboardStreamConnection} {hand : InHand} (l : Nat) (stage : LaunchStage),
      Live service principal v hand → Live service principal (v.setLaunch l stage) hand :=
    fun l stage hv => hv.of_same rfl rfl rfl (same _) rfl rfl rfl
  cases event with
  | receive | commit =>
    cases hstep
    exact Live.delivering (Live.of_same h rfl rfl rfl (same w) rfl rfl rfl) rfl
  | deliver around =>
    simp only [DashboardStreamConnection.step] at hstep
    split at hstep
    · rename_i frame frames hhandling _
      cases hstep
      unfold Delivering at h
      rw [hhandling] at h
      have hlive : Live service principal { w with frames } {} :=
        h.of_same rfl rfl rfl (same w) rfl rfl rfl
      exact hlive.onMessage around hhandling frame
    · cases hstep
  | answer reply around =>
    simp only [DashboardStreamConnection.step] at hstep
    split at hstep
    · cases hstep
    · rename_i handling hhandling
      exact Live.answer around h hhandling hstep
  | emit channel event around =>
    obtain ⟨hlt, rfl⟩ := Option.ite_some_none_eq_some.mp hstep
    exact (Live.hear around h hlt event).delivering
      (by rw [(hear_shrinks around w channel event).handling]; rfl)
  | drained d available around =>
    obtain ⟨hd, rfl⟩ := Option.ite_some_none_eq_some.mp hstep
    exact (Live.drained around h hd.1 available).delivering
      (by rw [(drained_shrinks around w d available).handling]; rfl)
  | drainClosed d around =>
    obtain ⟨hd, rfl⟩ := Option.ite_some_none_eq_some.mp hstep
    exact (Live.drainClosed around h hd.1 hd.2).delivering
      (by rw [(drainClosed_shrinks around w d).handling]; rfl)
  | authorized l =>
    obtain ⟨_, hstep⟩ := Option.ite_none_right_eq_some.mp hstep
    split at hstep
    · cases hstep
      exact (hlaunch l _ h).delivering rfl
    cases hstep
    have hc := closeUnauthorizedSubscription_closes w (w.launches.cell l).subscriptionId
    refine (hlaunch l _ (Live.closes h hc)).delivering ?_
    show InHand.of (w.closeUnauthorizedSubscription _).handling = _
    rw [hc.handling]
  | unauthorized l around =>
    obtain ⟨_, rfl⟩ := Option.ite_some_none_eq_some.mp hstep
    exact (hlaunch l _ h).sent around rfl rfl
  | operated l error around =>
    obtain ⟨_, hstep⟩ := Option.ite_none_right_eq_some.mp hstep
    cases error with
    | none =>
      cases hstep
      exact (hlaunch l _ h).sent around rfl rfl
    | some =>
      cases hstep
      exact (hlaunch l _ h).sent around rfl rfl
  | revoke channel =>
    obtain ⟨_, rfl⟩ := Option.ite_some_none_eq_some.mp hstep
    have hc := closeUnauthorizedSubscription_closes w (w.channels.cell channel).subscriptionId
    refine Live.delivering ((Live.closes h hc).of_same rfl rfl rfl (same _) rfl rfl rfl) ?_
    show InHand.of (w.closeUnauthorizedSubscription _).handling = _
    rw [hc.handling]
  | revoked =>
    obtain ⟨_, rfl⟩ := Option.ite_some_none_eq_some.mp hstep
    refine Live.delivering (Live.of_same h rfl rfl rfl (fun j => ?_) rfl rfl rfl) rfl
    rw [cell_modify]
    split
    · rename_i heq
      rw [heq]
      exact ⟨rfl, rfl, rfl⟩
    · exact ⟨rfl, rfl, rfl⟩
  | peerClose =>
    cases hstep
    have hc := closeAll_closes w
    exact (Live.closes h hc).delivering (by rw [hc.handling])

end

/-- What the browser has been sent. -/
structure Delivered (service : DashboardAuthorizationService) (principal : DashboardPrincipal)
    (w : DashboardStreamConnection) : Prop where
  /-- Session data is sent for a subscription whose role the principal has in the ledger. -/
  authorized : ∀ s ∈ w.sent, s.frame.isSessionData = true → ∃ k, s.source = some k ∧
    (s.ledger.require service principal (w.opened.cell k).authorization
      (w.opened.cell k).requiredRole).toBool = true
  /-- Events are sent in the order in which they are produced, and once. -/
  ordered : ∀ k < w.opened.next, w.sentEvents k <+: w.producedEvents k
  /-- An open subscription hears its channel, -/
  heard : ∀ k, w.isMapped k → (w.channels.cell (w.opened.cell k).channel).listener ≠ none
  /-- and the events that have not been sent are queued, -/
  queued : w.closed = false → ∀ k, w.isMapped k →
    w.sentEvents k ++ w.queuedEvents k = w.producedEvents k
  /-- as long as a drain is at work. -/
  complete : w.closed = false → (∀ d < w.drains.next, (w.drains.cell d).stage = .done) →
    ∀ k, w.isMapped k → w.sentEvents k = w.producedEvents k

theorem Delivering.delivered {service : DashboardAuthorizationService}
    {principal : DashboardPrincipal} (h : w.Delivering service principal) :
    w.Delivered service principal where
  authorized s hs hdata := by
    obtain ⟨k, hk, _, hholds⟩ := h.authorized s hs hdata
    exact ⟨k, hk, hholds⟩
  ordered := h.streaming.ordered
  heard := by
    rintro k ⟨id, hid⟩
    obtain ⟨_, l, hl, _⟩ := h.streaming.mapped id k hid
    rw [hl]
    exact Option.some_ne_none l
  queued hopen k hk := by
    have hall := h.streaming.complete hopen k hk
    simpa [InHand.of] using hall
  complete hopen hdone k hk := by
    have hall := h.streaming.complete hopen k hk
    have hempty : (w.opened.cell k).eventQueue = [] := by
      by_contra hqueue
      have hauthorizing := h.draining.authorizes hopen k hk (fun hbusy => by cases hbusy) hqueue
      obtain ⟨d, hd, _, hchecking⟩ :=
        h.draining.waits hopen k hk (fun hbusy => by cases hbusy) hauthorizing
      rw [hdone d hd] at hchecking
      cases hchecking
    simpa [InHand.of, queuedEvents, hempty] using hall

/-- **Delivery**: session data is sent only when the role is held, in order, once, and completely
unless the subscription or the connection is closed. -/
theorem connection_delivers (service : DashboardAuthorizationService)
    (principal : DashboardPrincipal) (limits : StreamLimits) (ledger : Ledger)
    (events : List StreamEvent) (w : DashboardStreamConnection)
    (hrun : run (fun (w : DashboardStreamConnection) event => w.step service principal limits event)
      (.initial ledger) events = some w) : w.Delivered service principal :=
  have h : w.Delivering service principal :=
    run_invariant (fun _ _ _ hinv hstep => Delivering.step hinv hstep) (Delivering.initial ledger)
      hrun
  h.delivered

def plainEvent : ChannelEvent := ⟨.session, plainIdentity, text "e"⟩

/-- An event is heard, checked and sent. -/
def deliverEvents : List StreamEvent :=
  subscribeEvents ++ [.answer (.checked none) calm, .emit 0 plainEvent calm, .drained 0 true calm]

theorem connection_delivers_event : ∃ w,
    run (fun (w : DashboardStreamConnection) event => w.step plainService administrator plainLimits
      event) (.initial plainLedger) deliverEvents = some w ∧ w.sentEvents 0 = [plainEvent] ∧
        w.Delivered plainService administrator := by
  exact exists_some_and (by decide +kernel) fun w hrun _ =>
    connection_delivers plainService administrator plainLimits plainLedger deliverEvents w hrun

end DashboardStreamConnection

end PiDaemon.Streams
