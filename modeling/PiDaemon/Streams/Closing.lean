import PiDaemon.Authorization.Restart
import PiDaemon.Streams.Connection

/-!
# What a closed connection holds

A channel that the connection has obtained is closed, or in the hands of the `subscribe` that is
being handled, or that of an open subscription; and a registration is not removed only in the last
two cases.  Everything but `subscribe` only `Shrinks` what is held, and a closed connection has no
open subscription, unless a `subscribe` is exposed after it was closed.

* `Holding`: the invariant;
* `connection_released`: a closed connection that is idle holds nothing.
-/

namespace PiDaemon.Streams

open Lib Authorization Heap OrderedMap

namespace DashboardStreamConnection

/-- The channel is that of a subscription in the map. -/
def isOpen (w : DashboardStreamConnection) (c : Nat) : Prop :=
  ∃ subscriptionId k, w.subscriptions.get? subscriptionId = some k ∧ (w.opened.cell k).channel = c

/-! ## Shrinking -/

structure Shrinks (w w' : DashboardStreamConnection) : Prop where
  next : w'.channels.next = w.channels.next
  closed : ∀ c, (w.channels.cell c).closed = true → (w'.channels.cell c).closed = true
  registered : ∀ c ∈ w'.registered, c ∈ w.registered
  open_ : ∀ c, w.isOpen c →
    w'.isOpen c ∨ ((w'.channels.cell c).closed = true ∧ c ∉ w'.registered)
  emptied : (w.closed = true → ∀ id, w.subscriptions.get? id = none) →
    w'.closed = true → ∀ id, w'.subscriptions.get? id = none
  kept : ∀ id k, w'.subscriptions.get? id = some k → w.subscriptions.get? id = some k
  bound : w'.opened.next = w.opened.next
  handling : w'.handling = w.handling

variable {w w' w'' : DashboardStreamConnection}

theorem Shrinks.refl (w : DashboardStreamConnection) : Shrinks w w :=
  ⟨rfl, fun _ h => h, fun _ h => h, fun _ h => .inl h, fun h => h, fun _ _ h => h, rfl, rfl⟩

theorem Shrinks.trans (h : Shrinks w w') (h' : Shrinks w' w'') : Shrinks w w'' where
  next := h'.next.trans h.next
  closed c hc := h'.closed c (h.closed c hc)
  registered c hc := h.registered c (h'.registered c hc)
  open_ c hc := by
    rcases h.open_ c hc with hopen | ⟨hclosed, hnot⟩
    · exact h'.open_ c hopen
    · exact .inr ⟨h'.closed c hclosed, fun hmem => hnot (h'.registered c hmem)⟩
  emptied hempty := h'.emptied (h.emptied hempty)
  kept id k hk := h.kept id k (h'.kept id k hk)
  bound := h'.bound.trans h.bound
  handling := h'.handling.trans h.handling

theorem Shrinks.foldl {A : Type} {f : DashboardStreamConnection → A → DashboardStreamConnection}
    (hf : ∀ w a, Shrinks w (f w a)) (as : List A) (w : DashboardStreamConnection) :
    Shrinks w (as.foldl f w) := by
  induction as generalizing w with
  | nil => exact Shrinks.refl w
  | cons a as ih => exact (hf w a).trans (ih (f w a))

theorem Shrinks.of_same (hsubscriptions : w'.subscriptions = w.subscriptions)
    (hbound : w'.opened.next = w.opened.next)
    (hopened : ∀ k, (w'.opened.cell k).channel = (w.opened.cell k).channel)
    (hnext : w'.channels.next = w.channels.next)
    (hclosed : ∀ c, (w'.channels.cell c).closed = (w.channels.cell c).closed)
    (hregistered : w'.registered = w.registered) (hsame : w'.closed = w.closed)
    (hhandling : w'.handling = w.handling) : Shrinks w w' where
  next := hnext
  closed c hc := (hclosed c).trans hc
  registered c hc := hregistered ▸ hc
  open_ c hc := by
    obtain ⟨id, k, hget, hchannel⟩ := hc
    exact .inl ⟨id, k, by rw [hsubscriptions]; exact hget, (hopened k).trans hchannel⟩
  emptied hempty hc id := by
    rw [hsubscriptions]
    exact hempty (hsame ▸ hc) id
  kept id k hk := by
    rw [hsubscriptions] at hk
    exact hk
  bound := hbound
  handling := hhandling

theorem channel_modify (opened : Heap Subscription) (k j : Nat) (f : Subscription → Subscription)
    (hf : ∀ s, (f s).channel = s.channel) :
    ((opened.modify k f).cell j).channel = (opened.cell j).channel := by
  rw [cell_modify]
  split
  · rename_i heq
    rw [hf, heq]
  · rfl

theorem closed_modify (channels : Heap StreamChannel) (c j : Nat) (f : StreamChannel → StreamChannel)
    (hf : ∀ channel, (f channel).closed = channel.closed) :
    ((channels.modify c f).cell j).closed = (channels.cell j).closed := by
  rw [cell_modify]
  split
  · rename_i heq
    rw [hf, heq]
  · rfl

/-! ## Closing -/

section
variable (w)

theorem closed_shutChannel (c j : Nat) :
    ((w.shutChannel c).channels.cell j).closed =
      if j = c then true else (w.channels.cell j).closed := by
  rw [shutChannel]
  rw [cell_modify]
  split <;> rfl

theorem registered_shutChannel (c j : Nat) : j ∈ (w.shutChannel c).registered ↔ j ∈ w.registered ∧ j ≠ c := by
  rw [shutChannel]
  simp

end

/-- What `shut` does to the channels and the registrations. -/
structure Shuts (ks : List Nat) (w w' : DashboardStreamConnection) : Prop where
  subscriptions : w'.subscriptions = w.subscriptions
  bound : w'.opened.next = w.opened.next
  channel : ∀ k, (w'.opened.cell k).channel = (w.opened.cell k).channel
  next : w'.channels.next = w.channels.next
  closed : w'.closed = w.closed
  handling : w'.handling = w.handling
  channels : ∀ c, (w'.channels.cell c).closed = true ↔
    (w.channels.cell c).closed = true ∨ ∃ k ∈ ks, (w.opened.cell k).channel = c
  registered : ∀ c, c ∈ w'.registered ↔
    c ∈ w.registered ∧ ¬ ∃ k ∈ ks, (w.opened.cell k).channel = c

theorem shut_shuts (w : DashboardStreamConnection) (k : Nat) : Shuts [k] w (w.shut k) where
  subscriptions := rfl
  bound := rfl
  channel j := channel_modify w.opened k j (fun s => { s with eventQueue := [] }) fun _ => rfl
  next := rfl
  closed := rfl
  handling := rfl
  channels c := by
    rw [shut, closed_shutChannel]
    split
    · rename_i heq
      simp [heq]
    · rename_i hne
      simp [Ne.symm hne]
  registered c := by
    rw [shut, registered_shutChannel]
    simp [eq_comm]

theorem foldl_shut_shuts (ks : List Nat) (w : DashboardStreamConnection) :
    Shuts ks w (ks.foldl shut w) := by
  induction ks generalizing w with
  | nil => exact ⟨rfl, rfl, fun _ => rfl, rfl, rfl, rfl, fun _ => by simp, fun _ => by simp⟩
  | cons k ks ih =>
    have hfirst := shut_shuts w k
    have hrest := ih (w.shut k)
    refine ⟨hrest.subscriptions.trans hfirst.subscriptions, hrest.bound.trans hfirst.bound,
      fun j => (hrest.channel j).trans (hfirst.channel j), hrest.next.trans hfirst.next,
      hrest.closed.trans hfirst.closed, hrest.handling.trans hfirst.handling, fun c => ?_,
      fun c => ?_⟩
    · simp [hrest.channels, hfirst.channels, hfirst.channel, or_assoc]
    · simp [hrest.registered, hfirst.registered, hfirst.channel, and_assoc]

/-- Subscriptions that have left the map are shut. -/
theorem Shuts.shrinks {ks : List Nat} {subscriptions : OrderedMap JsString Nat} {closed : Bool}
    (h : Shuts ks { w with subscriptions, closed } w')
    (hleft : ∀ id k, w.subscriptions.get? id = some k → subscriptions.get? id = some k ∨ k ∈ ks)
    (hsub : ∀ id k, subscriptions.get? id = some k → w.subscriptions.get? id = some k)
    (hempty : closed = w.closed ∨ ∀ id, subscriptions.get? id = none) : Shrinks w w' where
  next := h.next
  closed c hc := (h.channels c).mpr (.inl hc)
  registered c hc := ((h.registered c).mp hc).1
  open_ c hc := by
    obtain ⟨id, k, hget, hchannel⟩ := hc
    rcases hleft id k hget with hstays | hmem
    · refine .inl ⟨id, k, ?_, (h.channel k).trans hchannel⟩
      rw [h.subscriptions]
      exact hstays
    · refine .inr ⟨(h.channels c).mpr (.inr ⟨k, hmem, hchannel⟩), fun hregistered => ?_⟩
      exact ((h.registered c).mp hregistered).2 ⟨k, hmem, hchannel⟩
  emptied hw hc id := by
    rw [h.subscriptions]
    rcases hempty with hsame | hnone
    · rw [Option.eq_none_iff_forall_ne_some]
      intro k hk
      have hnone := hw (hsame.symm.trans (h.closed.symm.trans hc)) id
      rw [hsub id k hk] at hnone
      cases hnone
    · exact hnone id
  kept id k hk := by
    rw [h.subscriptions] at hk
    exact hsub id k hk
  bound := h.bound
  handling := h.handling

section
variable (w)

theorem closeUnauthorizedSubscription_shrinks (subscriptionId : JsString) :
    Shrinks w (w.closeUnauthorizedSubscription subscriptionId) := by
  unfold closeUnauthorizedSubscription
  cases hget : w.subscriptions.get? subscriptionId with
  | none => exact Shrinks.refl w
  | some k =>
    refine (shut_shuts _ k).shrinks (fun id j hj => ?_)
      (fun id j hj => (get?_of_delete hj).2) (.inl rfl)
    · rw [get?_delete]
      split
      · rename_i heq
        subst heq
        rw [hget] at hj
        cases hj
        exact .inr List.mem_cons_self
      · exact .inl hj

theorem closeAll_shrinks : Shrinks w w.closeAll := by
  unfold closeAll
  split
  · exact Shrinks.refl w
  refine (foldl_shut_shuts _ _).shrinks (fun id k hget => .inr ?_)
    (fun _ _ h => by cases h) (.inr fun _ => rfl)
  exact List.mem_map.mpr ⟨(id, k), mem_entries.mpr hget, rfl⟩

end

/-! ## Sending and hearing -/

section
variable (around : StreamSurroundings)

theorem send_shrinks (w : DashboardStreamConnection) (frame : ServerFrame) (source : Option Nat) :
    Shrinks w (w.send around frame source) := by
  unfold send
  split
  · exact Shrinks.refl w
  split
  · exact .of_same rfl rfl (fun _ => rfl) rfl (fun _ => rfl) rfl rfl rfl
  · exact closeAll_shrinks w

theorem sendEvent_shrinks (w : DashboardStreamConnection) (k : Nat) (correlationId : JsString)
    (event : ChannelEvent) : Shrinks w (w.sendEvent around k correlationId event) := by
  unfold sendEvent
  dsimp only
  split
  · exact send_shrinks around w _ _
  · split
    · exact closeAll_shrinks w
    · exact send_shrinks around w _ _
  · exact send_shrinks around w _ _
  · split
    · exact closeAll_shrinks w
    · exact send_shrinks around w _ _

theorem sendEvents_shrinks (w : DashboardStreamConnection) (k : Nat) (correlationId : JsString)
    (events : List ChannelEvent) :
    Shrinks w (w.sendEvents around k correlationId events) :=
  Shrinks.foldl (fun w event => sendEvent_shrinks around w k correlationId event) events w

theorem setDrain_shrinks (w : DashboardStreamConnection) (d : Nat) (stage : DrainStage) :
    Shrinks w (w.setDrain d stage) :=
  .of_same rfl rfl (fun _ => rfl) rfl (fun _ => rfl) rfl rfl rfl

theorem opened_modify_shrinks (w : DashboardStreamConnection) (k : Nat)
    (f : Subscription → Subscription) (hf : ∀ s, (f s).channel = s.channel) (drains : Heap Drain) :
    Shrinks w { w with opened := w.opened.modify k f, drains } :=
  .of_same rfl rfl (fun j => channel_modify w.opened k j f hf) rfl (fun _ => rfl) rfl rfl rfl

theorem setAuthorizing_shrinks (w : DashboardStreamConnection) (k : Nat) (authorizing : Bool) :
    Shrinks w (w.setAuthorizing k authorizing) :=
  opened_modify_shrinks w k (fun s => { s with authorizingEvents := authorizing }) (fun _ => rfl)
    w.drains

theorem drainLoop_shrinks (w : DashboardStreamConnection) (d : Nat) (subscriptionId : JsString)
    (k : Nat) : Shrinks w (w.drainLoop around d subscriptionId k) := by
  unfold drainLoop
  split
  · split
    · exact setDrain_shrinks w d _
    · exact (closeUnauthorizedSubscription_shrinks w subscriptionId).trans (setDrain_shrinks _ d _)
  · exact (setAuthorizing_shrinks w k false).trans (setDrain_shrinks _ d _)

theorem startDrain_shrinks (w : DashboardStreamConnection) (subscriptionId : JsString) (k : Nat) :
    Shrinks w (w.startDrain around subscriptionId k) :=
  (opened_modify_shrinks w k (fun s => { s with authorizingEvents := true }) (fun _ => rfl) _).trans
    (drainLoop_shrinks around _ _ _ _)

theorem queueAuthorizedEvent_shrinks (w : DashboardStreamConnection)
    (subscriptionId correlationId : JsString) (event : ChannelEvent) :
    Shrinks w (w.queueAuthorizedEvent around subscriptionId correlationId event) := by
  unfold queueAuthorizedEvent
  split
  · exact Shrinks.refl w
  rename_i k _
  split
  · exact closeUnauthorizedSubscription_shrinks w subscriptionId
  have hpush := opened_modify_shrinks w k
    (fun s => { s with eventQueue := s.eventQueue ++ [(correlationId, event)] }) (fun _ => rfl)
    w.drains
  dsimp only
  split
  · exact hpush
  · exact hpush.trans (startDrain_shrinks around _ _ _)

theorem channels_modify_shrinks (w : DashboardStreamConnection) (c : Nat)
    (f : StreamChannel → StreamChannel) (hf : ∀ channel, (f channel).closed = channel.closed) :
    Shrinks w { w with channels := w.channels.modify c f } :=
  .of_same rfl rfl (fun _ => rfl) rfl (fun j => closed_modify w.channels c j f hf) rfl rfl rfl

theorem markReady_shrinks (w : DashboardStreamConnection) (c : Nat) : Shrinks w (w.markReady c) :=
  channels_modify_shrinks w c (fun channel =>
    { channel with listener := channel.listener.map fun listener =>
        { listener with ready := true } }) fun _ => rfl

theorem hear_shrinks (w : DashboardStreamConnection) (c : Nat) (event : ChannelEvent) :
    Shrinks w (w.hear around c event) := by
  unfold hear
  dsimp only
  split
  · exact Shrinks.refl w
  have hproduced := channels_modify_shrinks w c
    (fun channel => { channel with produced := channel.produced ++ [event] }) (fun _ => rfl)
  split
  · exact hproduced.trans (closeAll_shrinks _)
  split
  · exact hproduced.trans (queueAuthorizedEvent_shrinks around _ _ _ _)
  split
  · exact hproduced.trans (closeAll_shrinks _)
  · exact hproduced.trans (channels_modify_shrinks _ c _ fun _ => rfl)

end

/-! ## The invariant -/

/-- What is held while a `subscribe` has a channel in its hands, or a free id. -/
structure Held (w : DashboardStreamConnection) (current : Option Nat)
    (pending : Option JsString) : Prop where
  channels : ∀ c < w.channels.next,
    (w.channels.cell c).closed = true ∨ current = some c ∨ w.isOpen c
  registered : ∀ c ∈ w.registered, current = some c ∨ w.isOpen c
  emptied : w.closed = true → ∀ id, w.subscriptions.get? id = none
  free : ∀ id, pending = some id → w.subscriptions.get? id = none
  bound : ∀ id k, w.subscriptions.get? id = some k → k < w.opened.next

variable {current : Option Nat} {pending : Option JsString}

theorem Held.shrinks (h : Held w current pending) (hs : Shrinks w w') : Held w' current pending where
  channels c hc := by
    rw [hs.next] at hc
    rcases h.channels c hc with hclosed | hcurrent | hopen
    · exact .inl (hs.closed c hclosed)
    · exact .inr (.inl hcurrent)
    · exact (hs.open_ c hopen).elim (fun hopen => .inr (.inr hopen)) fun hclosed => .inl hclosed.1
  registered c hc := by
    rcases h.registered c (hs.registered c hc) with hcurrent | hopen
    · exact .inl hcurrent
    · exact .inr ((hs.open_ c hopen).resolve_right fun hclosed => hclosed.2 hc)
  emptied := hs.emptied h.emptied
  free id hid := by
    rw [Option.eq_none_iff_forall_ne_some]
    intro k hk
    have hnone := h.free id hid
    rw [hs.kept id k hk] at hnone
    cases hnone
  bound id k hk := by
    rw [hs.bound]
    exact h.bound id k (hs.kept id k hk)

theorem Held.of_same (h : Held w current pending) (hsubscriptions : w'.subscriptions = w.subscriptions)
    (hopened : w'.opened = w.opened) (hchannels : w'.channels = w.channels)
    (hregistered : w'.registered = w.registered) (hclosed : w'.closed = w.closed) :
    Held w' current pending where
  channels := by
    unfold isOpen
    rw [hsubscriptions, hopened, hchannels]
    exact h.channels
  registered := by
    unfold isOpen
    rw [hsubscriptions, hopened, hregistered]
    exact h.registered
  emptied := by
    rw [hsubscriptions, hclosed]
    exact h.emptied
  free := by
    rw [hsubscriptions]
    exact h.free
  bound := by
    rw [hsubscriptions, hopened]
    exact h.bound

theorem Held.forget (h : Held w none pending) : Held w current none where
  channels c hc := (h.channels c hc).imp_right fun hrest =>
    .inr (hrest.resolve_left fun hcurrent => by cases hcurrent)
  registered c hc := .inr ((h.registered c hc).resolve_left fun hcurrent => by cases hcurrent)
  emptied := h.emptied
  free _ hid := by cases hid
  bound := h.bound

theorem Held.drop {c : Nat} (h : Held w (some c) pending) (channels : Heap StreamChannel)
    (hnext : channels.next = w.channels.next)
    (hclosed : ∀ j, (channels.cell j).closed = if j = c then true else (w.channels.cell j).closed) :
    Held { w with registered := w.registered.filter (· ≠ c), channels } none pending where
  channels j hj := by
    rw [hclosed]
    split
    · exact .inl rfl
    rename_i hne
    rcases h.channels j (hnext ▸ hj) with hold | hcurrent | hopen
    · exact .inl hold
    · exact absurd (Option.some.inj hcurrent).symm hne
    · exact .inr (.inr hopen)
  registered j hj := by
    obtain ⟨hmem, hne⟩ := List.mem_filter.mp hj
    refine .inr ((h.registered j hmem).resolve_left fun hcurrent => ?_)
    exact of_decide_eq_true hne (Option.some.inj hcurrent).symm
  emptied := h.emptied
  free := h.free
  bound := h.bound

theorem cell_closed (channels : Heap StreamChannel) (c : Nat) (f : StreamChannel → StreamChannel)
    (hf : ∀ channel, (f channel).closed = true) (j : Nat) :
    ((channels.modify c f).cell j).closed = if j = c then true else (channels.cell j).closed := by
  rw [cell_modify]
  split
  · exact hf _
  · rfl

theorem Held.shutChannel {c : Nat} (h : Held w (some c) pending) :
    Held (w.shutChannel c) none pending :=
  h.drop _ rfl (cell_closed w.channels c
    (fun channel => { channel with listener := none, closed := true }) fun _ => rfl)

section
variable (around : StreamSurroundings)

/-- The `catch` block closes the channel: the id of its subscription is still free. -/
theorem Held.catchSubscribe {request : SubscribeRequest} {c : Nat}
    (h : Held w (some c) (some request.subscriptionId)) (error : StreamError) :
    Held (w.catchSubscribe around request c error) none none ∧
      (w.catchSubscribe around request c error).handling =
        some (.abandoning request c (some error)) := by
  have hfree : w.subscriptions.has request.subscriptionId = false :=
    has_eq_false.mpr (h.free _ rfl)
  have hdrop := h.drop (w.channels.modify c fun channel => { channel with closed := true }) rfl
    (cell_closed w.channels c (fun channel => { channel with closed := true }) fun _ => rfl)
  unfold DashboardStreamConnection.catchSubscribe
  simp only [hfree, Bool.false_eq_true, if_false]
  exact ⟨Held.of_same hdrop.forget rfl rfl rfl rfl rfl, trivial⟩

theorem Held.obtain (h : Held w none pending) (channel : StreamChannel) :
    Held { w with channels := w.channels.alloc channel } (some w.channels.next) pending where
  channels c hc := by
    rcases Nat.lt_or_eq_of_le (Nat.lt_succ_iff.mp hc) with hlt | rfl
    · rw [cell_alloc_lt _ hlt]
      exact (h.channels c hlt).imp_right fun hrest =>
        .inr (hrest.resolve_left fun hcurrent => by cases hcurrent)
    · exact .inr (.inl rfl)
  registered c hc := .inr ((h.registered c hc).resolve_left fun hcurrent => by cases hcurrent)
  emptied := h.emptied
  free := h.free
  bound := h.bound

theorem Held.take {c : Nat} {subscriptionId : JsString}
    (h : Held w (some c) (some subscriptionId)) (hopen : w.closed = false)
    (subscription : Subscription) (hchannel : subscription.channel = c) :
    Held (w.take subscriptionId subscription) none none := by
  have hfree := h.free subscriptionId rfl
  have hkept : ∀ {j}, w.isOpen j → (w.take subscriptionId subscription).isOpen j := by
    rintro j ⟨id, k, hget, hj⟩
    refine ⟨id, k, ?_, ?_⟩
    · refine (get?_set_ne _ (fun heq => ?_) _).trans hget
      rw [heq, hget] at hfree
      cases hfree
    · rw [DashboardStreamConnection.take]
      rw [cell_alloc_lt _ (h.bound id k hget)]
      exact hj
  have htaken : (w.take subscriptionId subscription).isOpen c := by
    refine ⟨subscriptionId, w.opened.next, get?_set_self _ _ _, ?_⟩
    rw [DashboardStreamConnection.take]
    rw [cell_alloc_self]
    exact hchannel
  refine ⟨fun j hj => ?_, fun j hj => ?_, fun hclosed => ?_,
    (fun _ hid => by cases hid), fun id k hk => ?_⟩
  · rcases h.channels j hj with hold | hcurrent | hj
    · exact .inl hold
    · cases hcurrent
      exact .inr (.inr htaken)
    · exact .inr (.inr (hkept hj))
  · rcases h.registered j hj with hcurrent | hj
    · cases hcurrent
      exact .inr htaken
    · exact .inr (hkept hj)
  · cases hopen.symm.trans hclosed
  · rw [DashboardStreamConnection.take] at hk
    rw [get?_set] at hk
    split at hk
    · cases hk
      exact Nat.lt_succ_self _
    · exact Nat.lt_succ_of_lt (h.bound id k hk)

/-- A step that exposes a subscription of a closed connection. -/
def exposesClosed (service : DashboardAuthorizationService) (principal : DashboardPrincipal)
    (w : DashboardStreamConnection) (handling : Handling) (reply : Reply) : Bool :=
  match handling, reply with
  | .rechecking request authorization _, .checked thrown =>
    w.closed &&
      w.permits service principal thrown.isNone authorization (requiredRole request.role)
  | _, _ => false

theorem Held.expose {request : SubscribeRequest} {authorization : DashboardResourceRef} {c : Nat}
    (h : Held w (some c) (some request.subscriptionId)) (hopen : w.closed = false) :
    Held (w.expose around request authorization c) none none := by
  have htake := h.take hopen ⟨c, authorization, requiredRole request.role, [], false⟩ rfl
  exact htake.shrinks ((sendEvents_shrinks around _ _ _ _).trans
    ((send_shrinks around _ _ _).trans ((markReady_shrinks _ c).trans
      (sendEvents_shrinks around _ _ _ _))))

end

/-! ## Steps -/

def Holding (w : DashboardStreamConnection) : Prop :=
  Held w (w.handling.bind Handling.current) (w.handling.bind Handling.pending)

theorem Holding.initial (ledger : Ledger) : Holding (.initial ledger) where
  channels _ h := absurd h (Nat.not_lt_zero _)
  registered _ h := by cases h
  emptied h := by cases h
  free _ h := by cases h
  bound _ _ h := by cases h

theorem Holding.shrinks (h : w.Holding) (hs : Shrinks w w') : w'.Holding := by
  unfold Holding
  rw [hs.handling]
  exact Held.shrinks h hs

theorem Held.holding (handling : Handling) (h : Held w handling.current handling.pending)
    (hhandling : w.handling = some handling) : w.Holding := by
  unfold Holding
  rw [hhandling]
  exact h

theorem Held.holding_none (h : Held w none none) (hhandling : w.handling = none) : w.Holding := by
  unfold Holding
  rw [hhandling]
  exact h

section
variable {service : DashboardAuthorizationService} {principal : DashboardPrincipal}
  {limits : StreamLimits} {around : StreamSurroundings}

theorem onFrame_holding (h : Held w none none) (hhandling : w.handling = none)
    (frame : ClientFrame) : (w.onFrame limits around frame).Holding := by
  have hsend : ∀ correlationId error, (w.sendError around correlationId error).Holding :=
    fun correlationId error => Holding.shrinks (h.holding_none hhandling) (send_shrinks around w _ _)
  cases frame with
  | malformed => exact hsend _ _
  | hello correlationId =>
    rw [onFrame]
    split
    · exact hsend _ _
    split
    · exact hsend _ _
    · exact Held.holding (.capabilities correlationId) (h.of_same rfl rfl rfl rfl rfl) rfl
  | subscribe request =>
    rw [onFrame]
    split
    · exact hsend _ _
    split
    · exact hsend _ _
    rename_i hfree
    split
    · exact hsend _ _
    have hnone : w.subscriptions.get? request.subscriptionId = none :=
      has_eq_false.mp (Bool.eq_false_iff.mpr fun hhas => hfree (.inl hhas))
    refine Held.holding (.resolving request)
      ⟨h.channels, h.registered, h.emptied, fun id hid => ?_, h.bound⟩ rfl
    cases hid
    exact hnone
  | unsubscribe correlationId subscriptionId =>
    rw [onFrame]
    split
    · exact hsend _ _
    · exact Held.holding (.unsubscribing correlationId) ((h.shrinks
        (closeUnauthorizedSubscription_shrinks w subscriptionId)).of_same rfl rfl rfl rfl rfl) rfl
  | operate correlationId subscriptionId =>
    rw [onFrame]
    split
    · exact hsend _ _
    split
    · exact hsend _ _
    split
    · exact hsend _ _
    rw [launch]
    split
    · exact hsend _ _
    split
    · exact Held.holding_none (h.of_same rfl rfl rfl rfl rfl) hhandling
    have hs := closeUnauthorizedSubscription_shrinks w subscriptionId
    exact Held.holding_none ((h.shrinks hs).of_same rfl rfl rfl rfl rfl)
      (hs.handling.trans hhandling)

theorem onMessage_holding (h : Held w none none) (hhandling : w.handling = none)
    (frame : ClientFrame) : (w.onMessage limits around frame).Holding := by
  unfold onMessage
  split
  · exact h.holding_none hhandling
  split
  · exact Held.holding .ending ((h.shrinks (closeAll_shrinks w)).of_same rfl rfl rfl rfl rfl) rfl
  · exact onFrame_holding h hhandling frame

theorem catchSubscribe_holding {request : SubscribeRequest} {c : Nat}
    (h : Held w (some c) (some request.subscriptionId)) (error : StreamError) :
    (w.catchSubscribe around request c error).Holding :=
  have hcaught := h.catchSubscribe around error
  Held.holding (.abandoning request c (some error)) hcaught.1 hcaught.2

theorem openChannel_holding {request : SubscribeRequest}
    (h : Held w none (some request.subscriptionId)) (authorization : DashboardResourceRef)
    (opened : OpenedChannel) (replayed : List ChannelEvent) :
    (w.openChannel around request authorization opened replayed).Holding := by
  have hobtain := h.obtain
    ⟨opened, request.subscriptionId, request.correlationId, none, false, []⟩
  unfold openChannel
  dsimp only
  split
  · exact Held.holding (.abandoning request w.channels.next none)
      (Held.of_same hobtain.shutChannel.forget rfl rfl rfl rfl rfl) rfl
  split
  · exact catchSubscribe_holding hobtain _
  split
  · exact catchSubscribe_holding hobtain _
  have hheard := hobtain.shrinks ((channels_modify_shrinks _ w.channels.next
    (fun channel => { channel with listener := some ⟨false, []⟩ }) fun _ => rfl).trans
      (Shrinks.foldl (fun v event => hear_shrinks around v w.channels.next event) replayed _))
  split
  · exact Held.holding (.abandoning request w.channels.next none)
      (Held.of_same hheard.shutChannel.forget rfl rfl rfl rfl rfl) rfl
  · exact Held.holding (.checking request authorization w.channels.next)
      (Held.of_same hheard rfl rfl rfl rfl rfl) rfl

theorem Held.register {c : Nat} (h : Held w (some c) pending) (participants : List Nat)
    (handling : Option Handling) :
    Held { w with registered := c :: w.registered, participants, handling } (some c) pending where
  channels := h.channels
  registered j hj := by
    rcases List.mem_cons.mp hj with rfl | hmem
    · exact .inl rfl
    · exact h.registered j hmem
  emptied := h.emptied
  free := h.free
  bound := h.bound

theorem answer_holding {handling : Handling} {reply : Reply} (h : w.Holding)
    (hhandling : w.handling = some handling)
    (hallowed : w.exposesClosed service principal handling reply = false)
    (hanswer : w.answer service principal around handling reply = some w') : w'.Holding := by
  have hheld : Held w handling.current handling.pending := by
    unfold Holding at h
    rw [hhandling] at h
    exact h
  have hsend : ∀ {v : DashboardStreamConnection} (frame : ServerFrame) (source : Option Nat),
      Held v none none → v.handling = none → (v.send around frame source).Holding :=
    fun frame source hv hnone => Holding.shrinks (hv.holding_none hnone) (send_shrinks around _ _ _)
  have hend : ∀ {v : DashboardStreamConnection} (request : SubscribeRequest),
      Held v none none → Held (v.endSubscribe request) none none :=
    fun request hv => hv.of_same rfl rfl rfl rfl rfl
  unfold answer at hanswer
  split at hanswer
  · cases hanswer
    exact hsend _ _ (Held.of_same hheld rfl rfl rfl rfl rfl) rfl
  · cases hanswer
    exact hsend _ _ (Held.of_same hheld rfl rfl rfl rfl rfl) rfl
  · rename_i request authorization
    cases hanswer
    exact Held.holding (.opening request authorization)
      (Held.of_same hheld rfl rfl rfl rfl rfl) rfl
  · cases hanswer
    exact hsend _ _ (Held.of_same hheld.forget rfl rfl rfl rfl rfl) rfl
  · rename_i request authorization opened replayed
    cases hanswer
    exact openChannel_holding hheld authorization opened replayed
  · rename_i request authorization error
    cases hanswer
    exact hsend _ _ (hend request hheld.forget) rfl
  · rename_i request authorization c thrown
    split at hanswer
    · cases hanswer
      exact Held.holding (.rechecking request authorization c) (hheld.register _ _) rfl
    · cases hanswer
      exact catchSubscribe_holding hheld _
  · rename_i request authorization c thrown
    split at hanswer
    · rename_i hpermits
      cases hanswer
      have hopen : w.closed = false := by
        simp only [exposesClosed, hpermits, Bool.and_true] at hallowed
        exact hallowed
      exact Held.holding_none (hend request (hheld.expose around hopen)) rfl
    · cases hanswer
      exact catchSubscribe_holding hheld _
  · rename_i request c
    cases hanswer
    exact Held.holding_none (hend request hheld) rfl
  · rename_i request c error
    cases hanswer
    exact Held.holding (.abandoning request c (some error))
      (Held.of_same hheld rfl rfl rfl rfl rfl) rfl
  · rename_i request c error
    cases hanswer
    exact hsend _ _ (hend request hheld) rfl
  · cases hanswer
    exact Held.holding_none (Held.of_same hheld rfl rfl rfl rfl rfl) rfl
  · cases hanswer
    exact hsend _ _ (Held.of_same hheld rfl rfl rfl rfl rfl) rfl
  · cases hanswer
    exact Held.holding_none (Held.of_same hheld rfl rfl rfl rfl rfl) rfl
  · cases hanswer

end

/-- No `subscribe` is exposed by a check that is granted after the connection was closed. -/
def Timely (service : DashboardAuthorizationService) (principal : DashboardPrincipal)
    (w : DashboardStreamConnection) : StreamEvent → Prop
  | .answer reply _ => ∀ handling, w.handling = some handling →
    w.exposesClosed service principal handling reply = false
  | _ => True

instance (service : DashboardAuthorizationService) (principal : DashboardPrincipal)
    (w : DashboardStreamConnection) (event : StreamEvent) :
    Decidable (w.Timely service principal event) := by
  cases event <;> unfold Timely <;> infer_instance

section
variable {service : DashboardAuthorizationService} {principal : DashboardPrincipal}
  {limits : StreamLimits}

theorem drained_shrinks (around : StreamSurroundings) (w : DashboardStreamConnection) (d : Nat)
    (available : Bool) : Shrinks w (w.drained service principal around d available) := by
  unfold drained
  dsimp only
  split
  · split
    · exact drainLoop_shrinks around w _ _ _
    rename_i correlationId event rest _
    exact (opened_modify_shrinks w _ (fun s => { s with eventQueue := rest }) (fun _ => rfl)
      w.drains).trans
        ((sendEvent_shrinks around _ _ _ _).trans (drainLoop_shrinks around _ _ _ _))
  · exact (closeUnauthorizedSubscription_shrinks w _).trans (setDrain_shrinks _ _ _)

theorem drainClosed_shrinks (around : StreamSurroundings) (w : DashboardStreamConnection) (d : Nat) :
    Shrinks w (w.drainClosed around d) := by
  have hdone := (setAuthorizing_shrinks w (w.drains.cell d).subscription false).trans
    (setDrain_shrinks _ d .done)
  unfold drainClosed
  dsimp only
  split
  · exact hdone.trans (startDrain_shrinks around _ _ _)
  · exact hdone

section
variable (w)

theorem setLaunch_shrinks (l : Nat) (stage : LaunchStage) : Shrinks w (w.setLaunch l stage) :=
  .of_same rfl rfl (fun _ => rfl) rfl (fun _ => rfl) rfl rfl rfl

/-- A participant's `close` ends with the close of its channel. -/
theorem revoked_shrinks (c : Nat) (revocations : Heap Revocation) :
    Shrinks w
      { w with
        channels := w.channels.modify c fun channel => { channel with closed := true }
        revocations } := by
  have hcell := cell_closed w.channels c (fun channel => { channel with closed := true }) fun _ => rfl
  refine ⟨rfl, fun j hj => ?_, fun _ hj => hj, fun _ hj => .inl hj, fun hempty => hempty,
    fun _ _ hk => hk, rfl, rfl⟩
  rw [hcell]
  split
  · rfl
  · exact hj

end

/-- **Holding**, step by step. -/
theorem Holding.step (h : w.Holding) {event : StreamEvent}
    (htimely : w.Timely service principal event)
    (hstep : w.step service principal limits event = some w') : w'.Holding := by
  have hsame : ∀ {v : DashboardStreamConnection}, Shrinks w v → v.Holding := fun hs => h.shrinks hs
  cases event with
  | receive | commit =>
    cases hstep
    exact hsame (.of_same rfl rfl (fun _ => rfl) rfl (fun _ => rfl) rfl rfl rfl)
  | deliver =>
    simp only [DashboardStreamConnection.step] at hstep
    split at hstep
    · rename_i frame frames hhandling _
      cases hstep
      unfold Holding at h
      rw [hhandling] at h
      have hheld : Held { w with frames } none none := Held.of_same h rfl rfl rfl rfl rfl
      exact onMessage_holding hheld hhandling frame
    · cases hstep
  | answer =>
    simp only [DashboardStreamConnection.step] at hstep
    split at hstep
    · cases hstep
    · rename_i handling hhandling
      exact answer_holding h hhandling (htimely handling hhandling) hstep
  | emit channel event around =>
    obtain ⟨_, rfl⟩ := Option.ite_some_none_eq_some.mp hstep
    exact hsame (hear_shrinks around w channel event)
  | drained d available around =>
    obtain ⟨_, rfl⟩ := Option.ite_some_none_eq_some.mp hstep
    exact hsame (drained_shrinks around w d available)
  | drainClosed d around =>
    obtain ⟨_, rfl⟩ := Option.ite_some_none_eq_some.mp hstep
    exact hsame (drainClosed_shrinks around w d)
  | authorized l =>
    obtain ⟨_, hstep⟩ := Option.ite_none_right_eq_some.mp hstep
    split at hstep
    · cases hstep
      exact hsame (setLaunch_shrinks w l _)
    · cases hstep
      exact hsame ((closeUnauthorizedSubscription_shrinks w _).trans (setLaunch_shrinks _ l _))
  | unauthorized l around =>
    obtain ⟨_, rfl⟩ := Option.ite_some_none_eq_some.mp hstep
    exact hsame ((setLaunch_shrinks w l _).trans (send_shrinks around _ _ _))
  | operated l error around =>
    obtain ⟨_, hstep⟩ := Option.ite_none_right_eq_some.mp hstep
    cases error with
    | none =>
      cases hstep
      exact hsame ((setLaunch_shrinks w l _).trans (send_shrinks around _ _ _))
    | some =>
      cases hstep
      exact hsame ((setLaunch_shrinks w l _).trans (send_shrinks around _ _ _))
  | revoke =>
    obtain ⟨_, rfl⟩ := Option.ite_some_none_eq_some.mp hstep
    exact hsame ((closeUnauthorizedSubscription_shrinks w _).trans
      (.of_same rfl rfl (fun _ => rfl) rfl (fun _ => rfl) rfl rfl rfl))
  | revoked =>
    obtain ⟨_, rfl⟩ := Option.ite_some_none_eq_some.mp hstep
    exact hsame (revoked_shrinks w _ _)
  | peerClose =>
    cases hstep
    exact hsame (closeAll_shrinks w)

end

/-- Every channel that the connection has obtained is closed, and no registration is left. -/
structure Released (w : DashboardStreamConnection) : Prop where
  channels : ∀ c < w.channels.next, (w.channels.cell c).closed = true
  registered : w.registered = []

theorem Holding.released (h : w.Holding) (hclosed : w.closed = true) (hidle : w.isIdle) :
    w.Released := by
  have hheld : Held w none none := by
    unfold Holding at h
    rw [hidle.handling] at h
    exact h
  have hnone : ∀ c, ¬ w.isOpen c := by
    rintro c ⟨id, k, hget, _⟩
    rw [hheld.emptied hclosed id] at hget
    cases hget
  refine ⟨fun c hc => ?_, List.eq_nil_iff_forall_not_mem.mpr fun c hc => ?_⟩
  · rcases hheld.channels c hc with hold | hcurrent | hopen
    · exact hold
    · cases hcurrent
    · exact absurd hopen (hnone c)
  · rcases hheld.registered c hc with hcurrent | hopen
    · cases hcurrent
    · exact hnone c hopen

/-- **Release**: a closed connection that is idle holds nothing. -/
theorem connection_released (service : DashboardAuthorizationService)
    (principal : DashboardPrincipal) (limits : StreamLimits) (ledger : Ledger)
    (events : List StreamEvent) (w : DashboardStreamConnection)
    (hmeets : Meets (fun (w : DashboardStreamConnection) event => w.step service principal limits event)
      (Timely service principal) (.initial ledger) events)
    (hrun : run (fun (w : DashboardStreamConnection) event => w.step service principal limits event) (.initial ledger) events =
      some w)
    (hclosed : w.closed = true) (hidle : w.isIdle) : w.Released :=
  have h : w.Holding :=
    run_invariant_of_meets (fun _ _ _ hinv hok hstep => hinv.step hok hstep)
      (Holding.initial ledger) hmeets hrun
  h.released hclosed hidle

/-! ## Examples -/

def administrator : DashboardPrincipal := ⟨text "administrator", .administrator⟩

def plainLimits : StreamLimits := ⟨4, 4⟩

def plainLedger : Ledger := reindexPolicies emptyAuthorizationState

def calm : StreamSurroundings := ⟨true, true, fun _ => true, fun _ => .observer⟩

def plainIdentity : DashboardSessionIdentity := ⟨text "host", text "s1", 1⟩

def plainRequest : SubscribeRequest := ⟨text "c", text "a", .rich, .controller⟩

/-- A `subscribe` is registered and waits for its second check. -/
def subscribeEvents : List StreamEvent :=
  [.receive (.hello (text "h") true), .deliver calm, .answer .settled calm,
    .receive (.subscribe plainRequest), .deliver calm,
    .answer (.resolved ⟨.session, text "managed:s1"⟩) calm,
    .answer (.opened ⟨.rich, plainIdentity, plainIdentity, text "0"⟩ []) calm,
    .answer (.checked none) calm]

theorem isIdle_of_empty {w : DashboardStreamConnection} (h : w.handling = none ∧ w.frames = [] ∧
    w.drains.next = 0 ∧ w.launches.next = 0 ∧ w.revocations.next = 0) : w.isIdle := by
  obtain ⟨hhandling, hframes, hdrains, hlaunches, hrevocations⟩ := h
  exact ⟨hhandling, hframes, fun d hd => absurd (hdrains ▸ hd) (Nat.not_lt_zero d),
    fun l hl => absurd (hlaunches ▸ hl) (Nat.not_lt_zero l),
    fun r hr => absurd (hrevocations ▸ hr) (Nat.not_lt_zero r)⟩

theorem connection_released_calm : ∃ w,
    run (fun (w : DashboardStreamConnection) event => w.step plainService administrator plainLimits
      event) (.initial plainLedger) (subscribeEvents ++ [.answer (.checked none) calm, .peerClose]) =
        some w ∧ w.Released := by
  obtain ⟨w, hrun, hclosed, hidle⟩ : ∃ w, run (fun (w : DashboardStreamConnection) event =>
      w.step plainService administrator plainLimits event) (.initial plainLedger)
        (subscribeEvents ++ [.answer (.checked none) calm, .peerClose]) = some w ∧ w.closed = true ∧
          w.handling = none ∧ w.frames = [] ∧ w.drains.next = 0 ∧ w.launches.next = 0 ∧
            w.revocations.next = 0 := by
    decide +kernel
  exact ⟨w, hrun, connection_released plainService administrator plainLimits plainLedger
    (subscribeEvents ++ [.answer (.checked none) calm, .peerClose]) w (by decide +kernel) hrun hclosed
    (isIdle_of_empty hidle)⟩

/-- The peer closes before the second check is answered. -/
theorem connection_leaks : ∃ w,
    run (fun (w : DashboardStreamConnection) event => w.step plainService administrator plainLimits
      event) (.initial plainLedger) (subscribeEvents ++ [.peerClose, .answer (.checked none) calm]) =
        some w ∧ w.closed = true ∧ w.isIdle ∧ w.channels.next = 1 ∧
          (w.channels.cell 0).closed = false ∧ w.registered = [0] := by
  have hleaks : ∃ w, run (fun (w : DashboardStreamConnection) event =>
      w.step plainService administrator plainLimits event) (.initial plainLedger)
        (subscribeEvents ++ [.peerClose, .answer (.checked none) calm]) = some w ∧ w.closed = true ∧
          (w.handling = none ∧ w.frames = [] ∧ w.drains.next = 0 ∧ w.launches.next = 0 ∧
            w.revocations.next = 0) ∧ w.channels.next = 1 ∧ (w.channels.cell 0).closed = false ∧
              w.registered = [0] := by
    decide +kernel
  exact hleaks.imp fun _ ⟨hrun, hclosed, hidle, hheld⟩ => ⟨hrun, hclosed, isIdle_of_empty hidle, hheld⟩

end DashboardStreamConnection

end PiDaemon.Streams
