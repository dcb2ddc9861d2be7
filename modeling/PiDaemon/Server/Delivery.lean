import PiDaemon.Server.World

/-!
# Delivery to the connections

What a connection that has attached is given: every event that is published for its session
generation after it attached, once and in order, as long as it is not lost; and what it is not
given: a sequence that increases, once the session begins again.

* `delivers_run`: the events after an attachment are numbered from the sequence that it was told on,
  in every run in which no session begins again under an attached connection;
* `sequence_restarts`: an evicted session that is opened again.
-/

namespace PiDaemon.Server

open Lib Protocol ProtocolServer ConnectionWriter List Option OrderedMap

/-- The event is of the session generation that the connection attached to. -/
def Attachment.covers (a : Attachment) (event : EventEnvelope) : Bool :=
  event.sessionId = a.sessionId && event.generation = a.generation

theorem covers_iff {a : Attachment} {event : EventEnvelope} :
    a.covers event = true ↔ event.sessionId = a.sessionId ∧ event.generation = a.generation := by
  rw [Attachment.covers, Bool.and_eq_true, decide_eq_true_eq, decide_eq_true_eq]

/-- The events for an attachment that have been published since. -/
def Attachment.due (a : Attachment) (published : List EventEnvelope) : List EventEnvelope :=
  (published.drop a.published).filter a.covers

/-- The events for an attachment that the connection has accepted since. -/
def Attachment.given (a : Attachment) (accepted : List (Record Source)) : List EventEnvelope :=
  ((accepted.drop a.accepted).filterMap ProtocolServer.delivered).filter a.covers

/-- The next numbers after the one that the attachment was told. -/
def Attachment.Numbered (a : Attachment) (events : List EventEnvelope) : Prop :=
  events.map EventEnvelope.sequence = List.range' (a.told + 1) events.length

section
variable (server : ProtocolServer)

/-- What a connection has been given. -/
structure Delivers (published : List EventEnvelope) (c : ClientConnection) : Prop where
  inOrder : c.writer.socket.written <+: c.writer.accepted
  bounded : c.writer.socket.writableLength + bytesOf c.writer.queue ≤
    server.limits.maxOutboundBytesPerConnection
  encoded : ∀ record ∈ c.writer.accepted, ∀ event, ProtocolServer.delivered record = some event →
    server.Encodes event record.line
  exact : c.writer.Alive → ∀ a ∈ c.attachments, a.given c.writer.accepted = a.due published
  numbered : ∀ a ∈ c.attachments, a.Numbered (a.due published)

/-- No connection is subscribed to the session generation. -/
def Unheard (w : World) (sessionId : SessionId) (generation : Nat) : Prop :=
  ∀ c ∈ w.connections.values, c.subscribedSessions.get? sessionId ≠ some generation

instance (w : World) (sessionId : SessionId) (generation : Nat) :
    Decidable (Unheard w sessionId generation) :=
  inferInstanceAs (Decidable (∀ c ∈ w.connections.values, _))

/-- The session generation whose numbers an event begins again. -/
def Event.restarts : Event → Option (SessionId × Nat)
  | .opened sessionId generation _ _ _ => some (sessionId, generation)
  | .provisional sessionId generation _ _ _ _ => some (sessionId, generation)
  | _ => none

/-- No connection is subscribed to a session generation whose numbers begin again. -/
def Fresh (w : World) (e : Event) : Prop :=
  ∀ restarted ∈ e.restarts, Unheard w restarted.1 restarted.2

instance (w : World) (e : Event) : Decidable (Fresh w e) :=
  inferInstanceAs (Decidable (∀ restarted ∈ e.restarts, _))

/-! ## The invariant -/

/-- An attachment of a connection; `next` is the number of the slot that it numbers. -/
structure Attached (sessions : OrderedMap SessionId Slot) (published : List EventEnvelope)
    (c : ClientConnection) (a : Attachment) : Prop where
  subscribed : c.subscribedSessions.get? a.sessionId = some a.generation
  acceptedThen : a.accepted ≤ c.writer.accepted.length
  publishedThen : a.published ≤ published.length
  exact : c.writer.Alive → a.given c.writer.accepted = a.due published
  numbered : a.Numbered (a.due published)
  current : ∀ slot, sessions.get? a.sessionId = some slot → slot.generation = a.generation →
    slot.sequence = a.told + (a.due published).length

structure Sound (sessions : OrderedMap SessionId Slot) (published : List EventEnvelope)
    (c : ClientConnection) : Prop where
  ordered : c.writer.Ordered server.limits.maxOutboundBytesPerConnection
  encoded : ∀ record ∈ c.writer.accepted, ∀ event, ProtocolServer.delivered record = some event →
    server.Encodes event record.line
  attached : ∀ a ∈ c.attachments, Attached sessions published c a

def World.Sound (w : World) : Prop :=
  ∀ id c, w.connections.get? id = some c → Server.Sound server w.sessions w.published c

variable {server}

variable {sessions : OrderedMap SessionId Slot} {c : ClientConnection}

theorem Sound.delivers {published : List EventEnvelope} (h : Sound server sessions published c) :
    Delivers server published c where
  inOrder := h.ordered.inOrder
  bounded := h.ordered.bounded
  encoded := h.encoded
  exact halive a ha := (h.attached a ha).exact halive
  numbered a ha := (h.attached a ha).numbered

/-! ## Steps of one connection -/

section
variable {sessions : OrderedMap SessionId Slot} {published : List EventEnvelope}
  {c left : ClientConnection}

theorem given_append (a : Attachment) {accepted : List (Record Source)} (records : List (Record Source))
    (h : a.accepted ≤ accepted.length) :
    a.given (accepted ++ records) =
      a.given accepted ++ (records.filterMap ProtocolServer.delivered).filter a.covers := by
  rw [Attachment.given, Attachment.given, drop_append_of_le_length h, filterMap_append,
    filter_append]

theorem due_append (a : Attachment) {published : List EventEnvelope} (event : EventEnvelope)
    (h : a.published ≤ published.length) :
    a.due (published ++ [event]) = a.due published ++ if a.covers event then [event] else [] := by
  rw [Attachment.due, drop_append_of_le_length h, filter_append]
  congr 1
  cases hcovers : a.covers event <;> simp [hcovers]

section
variable (h : Sound server sessions published c)
include h

/-- Lines that deliver no event, while the attachments stay or some are given up. -/
theorem Sound.quiet {records : List (Record Source)}
    (hordered : left.writer.Ordered server.limits.maxOutboundBytesPerConnection)
    (halive : left.writer.Alive → c.writer.Alive)
    (haccepted : left.writer.accepted = c.writer.accepted ++ records)
    (hencoded : ∀ record ∈ records, ∀ event, ProtocolServer.delivered record = some event →
      server.Encodes event record.line)
    (hquiet : left.writer.Alive → records.filterMap ProtocolServer.delivered = [])
    (hattached : ∀ a ∈ left.attachments, a ∈ c.attachments ∧
      left.subscribedSessions.get? a.sessionId = c.subscribedSessions.get? a.sessionId) :
    Sound server sessions published left where
  ordered := hordered
  encoded record hrecord := by
    rw [haccepted, mem_append] at hrecord
    rcases hrecord with hrecord | hrecord
    · exact h.encoded record hrecord
    · exact hencoded record hrecord
  attached a ha := by
    obtain ⟨hmem, hsame⟩ := hattached a ha
    have hbefore := h.attached a hmem
    refine
      { subscribed := hsame.trans hbefore.subscribed
        acceptedThen := ?_
        publishedThen := hbefore.publishedThen
        exact := fun hl => ?_
        numbered := hbefore.numbered
        current := hbefore.current }
    · rw [haccepted, length_append]
      exact Nat.le_add_right_of_le hbefore.acceptedThen
    rw [haccepted, given_append a records hbefore.acceptedThen, hquiet hl, filter_nil,
      append_nil]
    exact hbefore.exact (halive hl)

theorem Sound.sent (hsent : server.Sent [] c left) :
    Sound server sessions published left := by
  obtain ⟨_, haccepted, hencoded, hquiet⟩ := hsent.accepted
  refine h.quiet (hsent.ordered h.ordered) hsent.alive haccepted hencoded hquiet fun a ha => ?_
  rw [hsent.same] at ha ⊢
  exact ⟨ha, rfl⟩

theorem Sound.keeps
    (hordered : left.writer.Ordered server.limits.maxOutboundBytesPerConnection)
    (hkeeps : c.writer.Keeps left.writer)
    (hattached : ∀ a ∈ left.attachments, a ∈ c.attachments ∧
      left.subscribedSessions.get? a.sessionId = c.subscribedSessions.get? a.sessionId) :
    Sound server sessions published left :=
  h.quiet hordered hkeeps.alive (hkeeps.accepted.trans (append_nil _).symm)
    (fun _ hr => absurd hr not_mem_nil) (fun _ => rfl) hattached

theorem Sound.requests (requests : OrderedMap RequestId Request) :
    Sound server sessions published { c with requests } :=
  h.keeps h.ordered (.refl _) fun _ ha => ⟨ha, rfl⟩

theorem Sound.clear (sessionId : SessionId) :
    Sound server sessions published (ProtocolServer.clearSubscription sessionId c) := by
  refine h.keeps h.ordered (.refl _) fun a ha => ?_
  obtain ⟨ha, hne⟩ := mem_filter.mp ha
  exact ⟨ha, get?_delete_ne _ (Ne.symm (of_decide_eq_true hne))⟩

theorem Sound.endConnection :
    Sound server sessions published (ProtocolServer.endConnection c) := by
  unfold ProtocolServer.endConnection
  split
  · exact h
  · exact h.keeps h.ordered.finish finish_keeps fun _ ha => ⟨ha, rfl⟩

theorem Sound.attach {sessionId : SessionId} {slot : Slot}
    (hslot : sessions.get? sessionId = some slot) :
    Sound server sessions published
      { c with
        subscribedSessions := c.subscribedSessions.set sessionId slot.generation
        attachments :=
          c.attachments.filter
              (fun a => a.sessionId ≠ sessionId || a.generation = slot.generation) ++
            [{ sessionId
               generation := slot.generation
               told := slot.sequence
               accepted := c.writer.accepted.length
               published := published.length }] } where
  ordered := h.ordered
  encoded := h.encoded
  attached a ha := by
    rcases mem_append.mp ha with ha | ha
    · obtain ⟨ha, hkept⟩ := mem_filter.mp ha
      have hbefore := h.attached a ha
      refine { hbefore with subscribed := ?_ }
      rw [get?_set]
      split
      · rename_i hsame
        rw [Bool.or_eq_true, decide_eq_true_eq, decide_eq_true_eq] at hkept
        rw [hkept.resolve_left (fun hne => hne hsame.symm)]
      · exact hbefore.subscribed
    · cases mem_singleton.mp ha
      refine
        { subscribed := get?_set_self _ _ _
          acceptedThen := Nat.le_refl _
          publishedThen := Nat.le_refl _
          exact := fun _ => ?_
          numbered := ?_
          current := fun other hother _ => ?_ }
      · simp [Attachment.given, Attachment.due]
      · simp [Attachment.Numbered, Attachment.due]
      · rw [hslot] at hother
        cases hother
        simp [Attachment.due]

end

theorem Attachment.Numbered.append {a : Attachment} {events : List EventEnvelope} (h : a.Numbered events)
    {event : EventEnvelope} (hnext : event.sequence = a.told + events.length + 1) :
    a.Numbered (events ++ [event]) := by
  rw [Attachment.Numbered, map_append, length_append, length_singleton,
    range'_concat, map_singleton]
  congr 2
  omega

theorem Attached.extend {a : Attachment} {sessions' : OrderedMap SessionId Slot} {event : EventEnvelope}
    (h : Attached sessions published c a)
    (hsubscribed : left.subscribedSessions = c.subscribedSessions)
    (halive : left.writer.Alive → c.writer.Alive) {records : List (Record Source)}
    (haccepted : left.writer.accepted = c.writer.accepted ++ records)
    (hgiven : left.writer.Alive → (records.filterMap ProtocolServer.delivered).filter a.covers =
      if a.covers event then [event] else [])
    (hnext : a.covers event = true → event.sequence = a.told + (a.due published).length + 1)
    (hcurrent : ∀ slot, sessions'.get? a.sessionId = some slot → slot.generation = a.generation →
      slot.sequence = a.told + (a.due published).length + if a.covers event then 1 else 0) :
    Attached sessions' (published ++ [event]) left a where
  subscribed := by
    rw [hsubscribed]
    exact h.subscribed
  acceptedThen := by
    rw [haccepted, length_append]
    exact Nat.le_add_right_of_le h.acceptedThen
  publishedThen := by
    rw [length_append]
    exact Nat.le_add_right_of_le h.publishedThen
  exact hl := by
    rw [haccepted, given_append a records h.acceptedThen, due_append a event h.publishedThen,
      h.exact (halive hl), hgiven hl]
  numbered := by
    rw [due_append a event h.publishedThen]
    split
    · rename_i hcovers
      exact h.numbered.append (hnext hcovers)
    · rw [append_nil]
      exact h.numbered
  current slot hslot hsame := by
    rw [hcurrent slot hslot hsame, due_append a event h.publishedThen, length_append]
    cases a.covers event <;> rfl

/-- An event is published, which has the next number for every attachment that it covers. -/
theorem Sound.publish (h : Sound server sessions published c) {sessions' : OrderedMap SessionId Slot}
    {event : EventEnvelope}
    (hnext : ∀ a ∈ c.attachments, a.covers event = true →
      event.sequence = a.told + (a.due published).length + 1)
    (hcurrent : ∀ a ∈ c.attachments, ∀ slot, sessions'.get? a.sessionId = some slot →
      slot.generation = a.generation →
      slot.sequence = a.told + (a.due published).length + if a.covers event then 1 else 0) :
    Sound server sessions' (published ++ [event]) (server.deliver event c) := by
  unfold ProtocolServer.deliver
  split
  · have hsent : server.Sent [event] c (server.sendEvent event c) :=
      sendEvent_sent event c
    obtain ⟨_, haccepted, hencoded, hevents⟩ := hsent.accepted
    refine ⟨hsent.ordered h.ordered, fun record hrecord => ?_, fun a ha => ?_⟩
    · rw [haccepted, mem_append] at hrecord
      rcases hrecord with hrecord | hrecord
      · exact h.encoded record hrecord
      · exact hencoded record hrecord
    · have hsame := hsent.same
      rw [hsame] at ha
      refine (h.attached a ha).extend (by rw [hsame]) hsent.alive haccepted (fun hl => ?_) (hnext a ha)
        (hcurrent a ha)
      rw [hevents hl]
      cases hcovers : a.covers event <;> simp [hcovers]
  · rename_i hother
    refine ⟨h.ordered, h.encoded, fun a ha => ?_⟩
    have hattached := h.attached a ha
    have hcovers : a.covers event = false := by
      refine Bool.eq_false_iff.mpr fun hcovers => hother ?_
      obtain ⟨hsession, hgeneration⟩ := covers_iff.mp hcovers
      rw [hsession, hgeneration]
      exact hattached.subscribed
    refine hattached.extend rfl (fun hl => hl) (append_nil _).symm (fun _ => ?_) (hnext a ha)
      (hcurrent a ha)
    rw [hcovers]
    rfl

/-- A session is gone, or the sessions are as before. -/
theorem Sound.forget (h : Sound server sessions published c) (sessionId : SessionId) :
    Sound server (sessions.delete sessionId) published c where
  ordered := h.ordered
  encoded := h.encoded
  attached a ha :=
    { h.attached a ha with
      current := fun slot hslot =>
        (h.attached a ha).current slot (get?_of_delete hslot).2 }

theorem sound_new : Sound server sessions published {} where
  ordered := ordered_new
  encoded _ h := absurd h not_mem_nil
  attached _ h := absurd h not_mem_nil

end

/-! ## Steps of the server -/

theorem sessionForGeneration_ok {sessionId : SessionId} {generation : Nat} {slot : Slot}
    (h : ProtocolServer.sessionForGeneration sessionId generation sessions = .ok slot) :
    sessions.get? sessionId = some slot ∧ slot.generation = generation := by
  unfold ProtocolServer.sessionForGeneration at h
  split at h
  · cases h
  rename_i session hget
  split at h
  · cases h
    exact ⟨hget, by assumption⟩
  · cases h

theorem sound_dispatch {w : World} (command : Command) (h : Sound server w.sessions w.published c) :
    Sound server w.sessions w.published (server.dispatch command w c) := by
  unfold ProtocolServer.dispatch
  cases command.operation with
  | attach sessionId generation =>
    dsimp only
    cases hsession : ProtocolServer.sessionForGeneration sessionId generation w.sessions with
    | error => exact h.requests _
    | ok =>
      obtain ⟨hslot, rfl⟩ := sessionForGeneration_ok hsession
      exact (h.attach hslot).requests _
  | detach sessionId =>
    dsimp only
    split
    · exact h.requests _
    split
    · exact (h.clear sessionId).requests _
    · exact h.requests _
  | close | other => exact h.requests _

theorem sound_handleCommand {w : World} (command : Command)
    (h : Sound server w.sessions w.published c) :
    Sound server w.sessions w.published (server.handleCommand command w c) := by
  unfold ProtocolServer.handleCommand
  split
  · exact h.sent (sendResponse_sent _ c)
  split
  · exact h.sent (sendResponse_sent _ c)
  · exact sound_dispatch command h

theorem sound_atConnection {w w' : World} {id : Nat} {f : ClientConnection → Option ClientConnection}
    (h : w.Sound server)
    (hf : ∀ c left, Sound server w.sessions w.published c → f c = some left →
      Sound server w.sessions w.published left)
    (hs : ProtocolServer.atConnection id f w = some w') : w'.Sound server := by
  obtain ⟨c, hc, hmap⟩ := bind_eq_some_iff.mp hs
  obtain ⟨left, hleft, rfl⟩ := map_eq_some_iff.mp hmap
  intro other found hfound
  rw [get?_set] at hfound
  split at hfound
  · cases hfound
    exact hf c left (h id c hc) hleft
  · exact h other found hfound

theorem sound_publish {w : World} {event : EventEnvelope} (h : w.Sound server)
    (hnext : ∀ c, c ∈ w.connections.values → ∀ a, Attached w.sessions w.published c a →
      (a.covers event = true → event.sequence = a.told + (a.due w.published).length + 1) ∧
      ∀ slot, sessions.get? a.sessionId = some slot → slot.generation = a.generation →
        slot.sequence = a.told + (a.due w.published).length + if a.covers event then 1 else 0) :
    (server.publish event { w with sessions }).Sound server := by
  intro id c hc
  simp only [ProtocolServer.publish, get?_mapValues, map_eq_some_iff] at hc
  obtain ⟨before, hbefore, rfl⟩ := hc
  have hsound := h id before hbefore
  have hmem : before ∈ w.connections.values :=
    List.mem_map.mpr ⟨(id, before), mem_entries.mpr hbefore, rfl⟩
  exact hsound.publish (fun a ha => (hnext before hmem a (hsound.attached a ha)).1)
    fun a ha => (hnext before hmem a (hsound.attached a ha)).2

/-- A connection that is not subscribed to a session generation has not attached to it. -/
theorem not_covers {published : List EventEnvelope} {a : Attachment}
    (h : Attached sessions published c a) {sessionId : SessionId} {generation : Nat}
    (hunheard : c.subscribedSessions.get? sessionId ≠ some generation) :
    ¬ (sessionId = a.sessionId ∧ generation = a.generation) := by
  rintro ⟨rfl, rfl⟩
  exact hunheard h.subscribed

theorem sound_step {w w' : World} {e : Event} (h : w.Sound server) (hfresh : Fresh w e)
    (hs : server.step w e = some w') : w'.Sound server := by
  cases e with
  | accept =>
    obtain ⟨_, hs⟩ := ite_none_left_eq_some.mp hs
    cases hs
    intro other found hfound
    rw [get?_set] at hfound
    split at hfound
    · cases hfound
      exact sound_new
    · exact h other found hfound
  | command id command =>
    refine sound_atConnection h (fun c left hc hleft => ?_) hs
    cases hleft
    exact sound_handleCommand command hc
  | invalid =>
    refine sound_atConnection h (fun c left hc hleft => ?_) hs
    cases hleft
    unfold ProtocolServer.handleInvalid
    split
    · exact (hc.sent (sendResponse_sent _ c)).endConnection
    · exact hc.sent (sendResponse_sent _ c)
  | closed =>
    obtain ⟨_, -, hs⟩ := bind_eq_some_iff.mp hs
    split at hs
    · split at hs
      · rename_i sessionId _
        refine sound_atConnection (fun other found hfound => ?_) (fun c left hc hleft => ?_) hs
        · rw [get?_mapValues, map_eq_some_iff] at hfound
          obtain ⟨before, hbefore, rfl⟩ := hfound
          exact ((h other before hbefore).clear sessionId).forget sessionId
        · cases hleft
          exact hc.requests _
      · cases hs
    · cases hs
  | finished =>
    refine sound_atConnection h (fun c left hc hleft => ?_) hs
    split at hleft
    · cases hleft
      exact hc.requests _
    · cases hleft
  | respond =>
    refine sound_atConnection h (fun c left hc hleft => ?_) hs
    split at hleft
    · cases hleft
      exact (hc.sent (sendResponse_sent _ c)).requests _
    · cases hleft
  | emit =>
    obtain ⟨slot, hslot, rfl⟩ := map_eq_some_iff.mp hs
    refine sound_publish h fun c _ a hattached => ⟨fun hcovers => ?_, fun other hother hsame => ?_⟩
    · obtain ⟨hsession, hgeneration⟩ := covers_iff.mp hcovers
      exact congrArg (· + 1) (hattached.current slot (hsession ▸ hslot) hgeneration)
    rw [get?_set] at hother
    split at hother
    · rename_i hsession
      cases hother
      have hgeneration : slot.generation = a.generation := hsame
      rw [if_pos (covers_iff.mpr ⟨hsession, hgeneration⟩)]
      exact congrArg (· + 1) (hattached.current slot (hsession ▸ hslot) hgeneration)
    · rename_i hsession
      rw [if_neg fun hcovers => hsession (covers_iff.mp hcovers).1]
      exact hattached.current other hother hsame
  | opened =>
    cases hs
    refine sound_publish h fun c hc a hattached => ?_
    have hother := not_covers hattached (hfresh _ rfl c hc)
    refine ⟨fun hcovers => absurd (covers_iff.mp hcovers) hother, fun slot hslot hsame => ?_⟩
    rw [if_neg fun hcovers => hother (covers_iff.mp hcovers)]
    rw [get?_set] at hslot
    split at hslot
    · rename_i hsession
      cases hslot
      exact absurd ⟨hsession, hsame⟩ hother
    · exact hattached.current slot hslot hsame
  | removed sessionId =>
    cases hs
    exact fun id c hc => (h id c hc).forget sessionId
  | provisional =>
    cases hs
    refine sound_publish h fun c hc a hattached => ?_
    have hother := not_covers hattached (hfresh _ rfl c hc)
    refine ⟨fun hcovers => absurd (covers_iff.mp hcovers) hother, fun slot hslot hsame => ?_⟩
    rw [if_neg fun hcovers => hother (covers_iff.mp hcovers)]
    exact hattached.current slot hslot hsame
  | drain id taken =>
    refine sound_atConnection h (fun c left hc hleft => ?_) hs
    cases hleft
    obtain ⟨hordered, hkeeps⟩ :=
      flush_spec server.highWaterMark hc.ordered taken
    exact hc.keeps hordered hkeeps fun _ ha => ⟨ha, rfl⟩
  | take id bytes =>
    refine sound_atConnection h (fun c left hc hleft => ?_) hs
    cases hleft
    exact hc.keeps (hc.ordered.take bytes) (take_keeps bytes) fun _ ha => ⟨ha, rfl⟩
  | lose =>
    refine sound_atConnection h (fun c left hc hleft => ?_) hs
    cases hleft
    exact hc.keeps hc.ordered.lose lose_keeps fun _ ha => ⟨ha, rfl⟩
  | disconnect =>
    obtain ⟨_, rfl⟩ := ite_some_none_eq_some.mp hs
    exact fun other found hfound => h other found (get?_of_delete hfound).2

theorem sound_run {es : List Event} {w : World} (hrun : run server.step {} es = some w)
    (hfresh : Meets server.step Fresh {} es) : w.Sound server :=
  run_invariant_of_meets (fun _ _ _ => sound_step) (fun _ _ h => by cases h) hfresh hrun

/-- In every run in which no session generation begins again while a connection is subscribed to
it, the lines of every connection are written in the order in which they were accepted, at most
`maxOutboundBytesPerConnection` bytes of them have not been taken, and every attachment of a
connection that is not lost has been given the events published since, once and in order, with the
numbers that follow the sequence that it was told. -/
theorem delivers_run {es : List Event} {w : World} (hrun : run server.step {} es = some w)
    (hfresh : Meets server.step Fresh {} es) :
    ∀ id c, w.connections.get? id = some c → Delivers server w.published c :=
  fun id c hc => (sound_run hrun hfresh id c hc).delivers

/-! ## A session that begins again -/

def localServer : ProtocolServer where
  limits :=
    { maxConnections := 4
      maxInFlightRequestsPerConnection := 4
      maxEventBytes := 1024
      maxResponseBytes := 1024
      maxOutboundBytesPerConnection := 4096
      eventsFit := by decide
      responsesFit := by decide }
  hostInstanceId := text "host"
  format := wholeNumbers
  highWaterMark := 16384

/-- A connection attaches to a session that has just been opened. -/
def attachment : List Event :=
  [.accept 0, .opened (text "s") 1 PROTOCOL_VERSION none none,
    .command 0 ⟨text "r", PROTOCOL_VERSION, .attach (text "s") 1⟩, .respond 0 (text "r")]

/-- The session is evicted, and opened again at its generation. -/
def eviction : List Event :=
  [.emit (text "s") (text "sessionEvicted") none none, .removed (text "s"),
    .opened (text "s") 1 PROTOCOL_VERSION none none]

theorem delivers_run_attached :
    ∃ w, run localServer.step {} (attachment ++ eviction.take 2) = some w ∧
      ∃ c, w.connections.get? 0 = some c ∧ c.writer.Alive ∧ Delivers localServer w.published c := by
  obtain ⟨w, hw, c, hget, halive⟩ :
      ∃ w, run localServer.step {} (attachment ++ eviction.take 2) = some w ∧
        ∃ c, w.connections.get? 0 = some c ∧ c.writer.Alive := by
    decide +kernel
  exact ⟨w, hw, c, hget, halive, delivers_run hw (by decide +kernel) 0 c hget⟩

/-- The connection is still subscribed, and is given the number 1 after the number 2. -/
theorem sequence_restarts :
    ∃ w, run localServer.step {} (attachment ++ eviction) = some w ∧
      ∃ c, w.connections.get? 0 = some c ∧ c.writer.Alive ∧ ∃ a ∈ c.attachments, a.told = 1 ∧
        ¬ ((a.given c.writer.accepted).map EventEnvelope.sequence).Pairwise (· < ·) := by
  decide +kernel

end

end PiDaemon.Server
