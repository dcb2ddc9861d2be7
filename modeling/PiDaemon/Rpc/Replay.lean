import PiDaemon.Rpc.Control

/-!
# Replay after a cursor

What an attachment that resumes at a cursor receives.  The ring of a hub holds the last
events that the hub has published, under their numbers there.

* `Ring`: the ring is an end of the numbered events of the hub;
* `Follows`: an attachment has reported a gap, or has received the events after its place;
* `replay_complete`: so in every run whose attachments resume in a hub that agrees with their
  cursor, and whose ring has not lost all that came after it;
* `resume_skips`: runs that do otherwise.
-/

namespace PiDaemon.Rpc

open Lib OrderedMap List Option

section
variable {Output : Type}

/-! ## Numbered events -/

theorem filter_zipIdx (events : List Output) (start dropped after : Nat)
    (h : start + dropped ≤ after + 1) :
    ((((events.zipIdx start).drop dropped).filter fun e => e.2 > after).map Prod.fst) =
      events.drop (after + 1 - start) := by
  induction events generalizing start dropped with
  | nil => simp
  | cons event events ih =>
    cases dropped with
    | zero =>
      have hrest := ih (start + 1) 0
      rw [zipIdx_cons, drop_zero, filter_cons]
      by_cases hafter : start > after
      · have hzero : after + 1 - start = 0 := by omega
        have hall : ((events.zipIdx (start + 1)).filter fun e => e.2 > after) =
            events.zipIdx (start + 1) := by
          apply filter_eq_self.mpr
          rintro ⟨_, _⟩ hmem
          have := le_snd_of_mem_zipIdx hmem
          simp
          omega
        simp [hafter, hzero, hall, zipIdx_map_fst]
      · have hsucc : after + 1 - start = (after + 1 - (start + 1)) + 1 := by omega
        simp only [hafter, decide_false, Bool.false_eq_true, if_false, hsucc, drop_succ_cons]
        simpa using hrest (by omega)
    | succ =>
      have hsucc : after + 1 - start = (after + 1 - (start + 1)) + 1 := by omega
      rw [zipIdx_cons, hsucc]
      exact ih _ _ (by omega)

theorem zipIdx_concat (events : List Output) (event : Output) (start : Nat) :
    (events ++ [event]).zipIdx start = events.zipIdx start ++ [(event, start + events.length)] := by
  simp [zipIdx_append]

end

namespace RpcAttachmentHub

section
variable {Output : Type} {limits : RpcAttachmentLimits}

/-- The ring is an end of the events of the hub. -/
structure Ring (history : List Output) (hub : RpcAttachmentHub Output) : Prop where
  count : hub.sequence = history.length
  ring : ∃ dropped ≤ history.length,
    hub.events.map (fun e => (e.event, e.sequence)) = (history.zipIdx 1).drop dropped

theorem evict_drop (limits : RpcAttachmentLimits) (events : List (RetainedRpcEvent Output)) (bytes : Nat) :
    ∃ count ≤ events.length, (evict limits events bytes).1 = events.drop count := by
  induction events generalizing bytes with
  | nil => exact ⟨0, Nat.le_refl _, rfl⟩
  | cons event events ih =>
    rw [evict]
    split
    · obtain ⟨count, hcount, hevict⟩ := ih (bytes - event.bytes)
      exact ⟨count + 1, Nat.succ_le_succ hcount, hevict⟩
    · exact ⟨0, Nat.zero_le _, rfl⟩

/-- One more event is numbered, and some may leave the ring. -/
theorem Ring.publish {history : List Output} {s t : RpcAttachmentHub Output} (h : Ring history s)
    {event : Output} {retained : RetainedRpcEvent Output} {bytes : Nat}
    (hevent : retained.event = event) (hnumber : retained.sequence = s.sequence + 1)
    (hsequence : t.sequence = s.sequence + 1)
    (hevents : t.events = (evict limits (s.events ++ [retained]) bytes).1) :
    Ring (history ++ [event]) t := by
  obtain ⟨dropped, hdropped, hring⟩ := h.ring
  obtain ⟨count, hcount, hevict⟩ := evict_drop limits (s.events ++ [retained]) bytes
  refine ⟨by simp [hsequence, h.count], dropped + count, ?_, ?_⟩
  · have hlength := congrArg List.length hring
    simp at hlength hcount
    simp
    omega
  · have hpair : (s.events ++ [retained]).map (fun e => (e.event, e.sequence)) =
        ((history ++ [event]).zipIdx 1).drop dropped := by
      rw [zipIdx_concat, drop_append_of_le_length (by simpa using hdropped), ← hring]
      simp [hevent, hnumber, h.count, Nat.add_comm]
    rw [hevents, hevict, map_drop, hpair, drop_drop]

/-- The events of the ring after a number that is not before it. -/
theorem Ring.after {history : List Output} {hub : RpcAttachmentHub Output} (h : Ring history hub)
    {after : Nat}
    (holdest : hub.events.head?.any (fun oldest => after + 1 < oldest.sequence) = false)
    (hring : hub.events ≠ [] ∨ after = hub.sequence) :
    ((hub.events.filter fun e => e.sequence > after).map RetainedRpcEvent.event) =
      history.drop after := by
  obtain ⟨dropped, hdropped, heq⟩ := h.ring
  have hle : dropped ≤ after := by
    cases hevents : hub.events with
    | nil =>
      have hlast : after = hub.sequence := by simpa [hevents] using hring
      rw [hlast, h.count]
      exact hdropped
    | cons oldest =>
      have hnumber : oldest.sequence = dropped + 1 := by
        have hhead := congrArg List.head? heq
        rw [hevents, List.head?_drop, List.getElem?_zipIdx] at hhead
        obtain ⟨_, -, hpair⟩ := map_eq_some_iff.mp hhead.symm
        have hsequence := congrArg Prod.snd hpair
        simp at hsequence
        omega
      simp [hevents] at holdest
      omega
  have hfilter := filter_zipIdx history 1 dropped after (by omega)
  rw [← heq, List.filter_map] at hfilter
  simpa [Function.comp_def] using hfilter

/-! ## Connections -/

/-- The cursor of a place. -/
def pointCursor (host : JsString) (point : Point) : ParsedCursor :=
  ⟨host, point.key.sessionId, point.key.generation, point.sequence⟩

/-- An attachment that resumes at a place has reported a gap, or has received the events after
the place. -/
def Follows (published : List Output) (connection : RpcConnection Output) : Prop :=
  connection.ready = true → ∀ point, connection.resumes = some point →
    gapReported connection = true ∨
      (point.position ≤ published.length ∧
        received connection = published.drop point.position)

instance (published : List Nat) (connection : RpcConnection Nat) :
    Decidable (Follows published connection) :=
  inferInstanceAs (Decidable (connection.ready = true → ∀ point, connection.resumes = some point →
    gapReported connection = true ∨ (point.position ≤ published.length ∧
      received connection = published.drop point.position)))

/-- What a connection holds on to. -/
structure Attached (host : JsString) (points : List Point) (published : List Output)
    (connection : RpcConnection Output) : Prop where
  raw : connection.protocol = .raw → connection.resumes = none
  cursor : connection.requestedCursor = connection.resumes.map (pointCursor host)
  issued : ∀ point, connection.resumes = some point → point ∈ points
  waiting : connection.ready = false → received connection = []
  boundary : connection.boundary.isSome = true → connection.ready = false
  follows : Follows published connection

theorem Attached.plain {host : JsString} {points : List Point} {published : List Output}
    {a b : RpcConnection Output} (h : Attached host points published a) (hplain : Plain a b) :
    Attached host points published b := by
  refine ⟨?_, ?_, ?_, ?_, hplain.boundary h.boundary, ?_⟩
  · rw [hplain.protocol, hplain.resumes]
    exact h.raw
  · rw [hplain.requestedCursor, hplain.resumes]
    exact h.cursor
  · rw [hplain.resumes]
    exact h.issued
  · rw [hplain.ready, hplain.received]
    exact h.waiting
  · unfold Follows
    rw [hplain.ready, hplain.resumes, hplain.received]
    intro hready point hpoint
    rcases h.follows hready point hpoint with hgap | hfollows
    · exact Or.inl (hplain.gapReported hgap)
    · exact Or.inr hfollows

/-- The hub has published the events after the first `base` ones of its session generation. -/
structure Replays (host : JsString) (points : List Point) (published : List Output) (base : Nat)
    (hub : RpcAttachmentHub Output) : Prop where
  hostInstanceId : hub.hostInstanceId = host
  base_le : base ≤ published.length
  ring : Ring (published.drop base) hub
  counted : ∀ point ∈ points, point.epoch = hub.epoch →
    point.key = hub.key ∧ point.position = base + point.sequence
  attached : ∀ id connection, hub.connections.get? id = some connection →
    Attached host points published connection

section
variable {host : JsString} {points : List Point} {published : List Output} {base : Nat}
  {s t : RpcAttachmentHub Output}

theorem Replays.quiet (h : Replays host points published base s) (hquiet : Quiet s t) :
    Replays host points published base t := by
  refine ⟨hquiet.hostInstanceId.trans h.hostInstanceId, h.base_le, ⟨?_, ?_⟩, ?_, fun id connection hget => ?_⟩
  · rw [hquiet.sequence]
    exact h.ring.count
  · rw [hquiet.events]
    exact h.ring.ring
  · rw [hquiet.epoch, hquiet.key]
    exact h.counted
  · obtain ⟨before, hbefore, hplain⟩ := hquiet.plain id connection hget
    exact (h.attached id before hbefore).plain hplain

theorem Replays.add (h : Replays host points published base s) (id : Nat)
    {protocol : SessionRpcSubprotocol} (role : AttachmentRole) {cursor : Option ParsedCursor}
    {resumes : Option Point} (hraw : protocol = .raw → resumes = none)
    (hcursor : cursor = resumes.map (pointCursor host))
    (hissued : ∀ point, resumes = some point → point ∈ points) :
    Replays host points published base (s.add id protocol role cursor resumes) := by
  unfold RpcAttachmentHub.add
  split
  · exact h
  refine ⟨h.hostInstanceId, h.base_le, ⟨h.ring.count, h.ring.ring⟩, h.counted, fun j connection hj => ?_⟩
  simp only [get?_set] at hj
  split at hj
  · cases hj
    refine ⟨hraw, hcursor, hissued, fun _ => rfl, by rintro ⟨⟩, fun hready point hpoint => ?_⟩
    have hprotocol : protocol = .raw := by simpa using hready
    rw [hraw hprotocol] at hpoint
    cases hpoint
  · exact h.attached j connection hj

/-! ### The frames that an attachment begins with -/

/-- The cursor is refused, or the events before it are as many as the hub has counted, and the
ring still holds what came after it. -/
def ResumesHere (count : Nat) (hub : RpcAttachmentHub Output) (connection : RpcConnection Output) :
    Prop :=
  ∀ boundary ∈ connection.boundary, ∀ point ∈ connection.resumes,
    point.key ≠ hub.key ∨ hub.sequence < point.sequence ∨
      hub.events.head?.any (fun oldest => point.sequence + 1 < oldest.sequence) = true ∨
        (point.position + hub.sequence = count + point.sequence ∧
          (hub.events ≠ [] ∨ point.sequence = hub.sequence))

theorem filterMap_events (events : List (RetainedRpcEvent Output)) :
    (events.map fun e => RpcFrame.event e.cursor e.sequence e.event).filterMap payloadOf =
      events.map RetainedRpcEvent.event := by
  induction events with
  | nil => rfl
  | cons event events ih => simpa [payloadOf] using ih

/-- The decision of an attachment that resumes without a gap. -/
theorem replayDecision_resumes {requested : ParsedCursor} {boundary : Nat}
    (h : (s.replayDecision (some requested) boundary).2.isSome = false) :
    (s.replayDecision (some requested) boundary).1 = requested.sequence ∧
      requested.sequence ≤ s.sequence ∧
        s.events.head?.any (fun oldest => requested.sequence + 1 < oldest.sequence) = false := by
  unfold replayDecision at h ⊢
  simp only at h ⊢
  split at h
  · cases h
  split at h
  · cases h
  split at h
  · cases h
  rename_i hhost hkey hfits
  rw [not_or] at hfits
  rw [if_neg hhost, if_neg hkey, if_neg (not_or.mpr hfits)]
  exact ⟨rfl, Nat.le_of_not_lt hfits.1, by simpa using hfits.2⟩

theorem replayDecision_refuses {point : Point} {boundary : Nat}
    (h : point.key ≠ s.key ∨ s.sequence < point.sequence ∨
      s.events.head?.any (fun oldest => point.sequence + 1 < oldest.sequence) = true) :
    (s.replayDecision (some (pointCursor host point)) boundary).2.isSome = true := by
  unfold replayDecision pointCursor
  simp only
  split
  · rfl
  split
  · rfl
  rename_i hkey
  split
  · rfl
  rename_i hfits
  rw [not_or, not_not, not_not] at hkey
  rw [not_or] at hfits
  rcases h with hne | hbeyond | hbefore
  · exact absurd (congrArg₂ HubKey.mk hkey.1 hkey.2) hne
  · exact absurd hbeyond hfits.1
  · exact absurd hbefore hfits.2

variable {connection : RpcConnection Output}

/-- The frames of an attachment tell of a gap, or hold the events after its place. -/
theorem Replays.follows_attach (h : Replays host points published base s)
    (hattached : Attached host points published connection) {boundary : Nat}
    (hboundary : connection.boundary = some boundary) (hresumes : s.ResumesHere published.length connection)
    {point : Point} (hpoint : connection.resumes = some point) {denied : List (RpcFrame Output)}
    (hdenied : denied.filterMap payloadOf = []) :
    gapReported { connection with
        ready := true
        boundary := none
        sent := connection.sent ++ s.attachFrames connection boundary ++ denied } = true ∨
      (point.position ≤ published.length ∧
        received { connection with
          ready := true
          boundary := none
          sent := connection.sent ++ s.attachFrames connection boundary ++ denied } =
            published.drop point.position) := by
  have hcursor : connection.requestedCursor = some (pointCursor host point) := by
    rw [hattached.cursor, hpoint]
    rfl
  have hwaiting := hattached.waiting (hattached.boundary (by simp [hboundary]))
  have hcases : (s.replayDecision connection.requestedCursor boundary).2.isSome = true ∨
      (point.position + s.sequence = published.length + point.sequence ∧
        (s.events ≠ [] ∨ point.sequence = s.sequence)) := by
    rw [hcursor]
    rcases hresumes boundary hboundary point hpoint with hkey | hbeyond | hbefore | hresumes
    · exact Or.inl (replayDecision_refuses (Or.inl hkey))
    · exact Or.inl (replayDecision_refuses (Or.inr (Or.inl hbeyond)))
    · exact Or.inl (replayDecision_refuses (Or.inr (Or.inr hbefore)))
    · exact Or.inr hresumes
  rcases hcases with hgap | ⟨_, hring⟩
  · left
    obtain ⟨_, hreason⟩ := isSome_iff_exists.mp hgap
    rw [hcursor] at hreason
    simp [gapReported, attachFrames, hcursor, hreason]
  · cases hgap : (s.replayDecision connection.requestedCursor boundary).2 with
    | some =>
      left
      rw [hcursor] at hgap
      simp [gapReported, attachFrames, hcursor, hgap]
    | none =>
      right
      rw [hcursor] at hgap
      obtain ⟨hafter, hle, holdest⟩ := replayDecision_resumes (by rw [hgap]; rfl)
      have hlast : s.events ≠ [] ∨ point.sequence = s.sequence := hring
      have hevents := h.ring.after holdest hlast
      have hcount : s.sequence = published.length - base := by
        rw [h.ring.count, length_drop]
      have hbase := h.base_le
      have hle : point.sequence ≤ s.sequence := hle
      have hposition : point.position = base + point.sequence := by omega
      constructor
      · omega
      have hplace : base + (pointCursor host point).sequence = point.position := hposition.symm
      rw [drop_drop, hplace] at hevents
      unfold received at hwaiting ⊢
      simp only [filterMap_append, hwaiting, hdenied, nil_append, append_nil,
        attachFrames, hcursor, hgap, hafter]
      rw [filterMap_cons]
      rw [filterMap_events]
      exact hevents

theorem Replays.initializeFramed (h : Replays host points published base s) (peers : Peers) (id : Nat)
    (hresumes : ∀ connection, s.connections.get? id = some connection →
      s.ResumesHere published.length connection) :
    Replays host points published base (s.initializeFramed peers id) := by
  unfold RpcAttachmentHub.initializeFramed
  split
  · exact h
  rename_i connection hget
  split
  · exact h
  rename_i boundary hboundary
  split
  · exact h.quiet (quiet_remove s id)
  refine ⟨h.hostInstanceId, h.base_le, ⟨h.ring.count, h.ring.ring⟩, h.counted, fun j found hj => ?_⟩
  simp only [get?_set] at hj
  split at hj
  · cases hj
    have hattached := h.attached id connection hget
    refine ⟨hattached.raw, hattached.cursor, hattached.issued, by rintro ⟨⟩, by rintro ⟨⟩,
      fun _ point hpoint => ?_⟩
    apply h.follows_attach hattached hboundary (hresumes connection hget) hpoint
    split <;> rfl
  · exact h.attached j found hj

/-! ### Events -/

/-- The connection after the event has been sent to it, when it is ready. -/
def told (event : RetainedRpcEvent Output) (connection : RpcConnection Output) :
    RpcConnection Output :=
  { connection with
    sent := connection.sent ++ [if connection.protocol = .raw then .rawEvent event.event
      else .event event.cursor event.sequence event.event] }

theorem send_get? {peers : Peers} {id j : Nat} {frame : RpcFrame Output}
    {found : RpcConnection Output} (h : (s.send peers id frame).connections.get? j = some found) :
    (id ≠ j ∧ s.connections.get? j = some found) ∨
      (id = j ∧ ∃ before, s.connections.get? id = some before ∧
        found = { before with sent := before.sent ++ [frame] }) := by
  unfold send at h
  split at h
  · rename_i hnone
    refine Or.inl ⟨?_, h⟩
    rintro rfl
    rw [hnone] at h
    cases h
  · rename_i before hbefore
    split at h
    · unfold remove at h
      rw [if_pos (has_iff.mpr ⟨before, hbefore⟩)] at h
      exact Or.inl (get?_of_delete h)
    · simp only [get?_set] at h
      split at h
      · rename_i heq
        cases h
        exact Or.inr ⟨heq, before, hbefore, rfl⟩
      · rename_i hne
        exact Or.inl ⟨hne, h⟩

/-- Every connection that is ready is told of the event once, or is closed. -/
theorem broadcast_get? (peers : Peers) (event : RetainedRpcEvent Output)
    {connections : List (RpcConnection Output)} (hids : (connections.map RpcConnection.id).Nodup)
    (hcurrent : ∀ connection ∈ connections, ∀ found,
      s.connections.get? connection.id = some found → found = connection)
    {id : Nat} {after : RpcConnection Output}
    (hafter : (broadcast peers event connections s).connections.get? id = some after) :
    ∃ before, s.connections.get? id = some before ∧
      ((before ∈ connections ∧ before.id = id ∧ before.ready = true ∧ after = told event before) ∨
        ((∀ connection ∈ connections, connection.id = id → connection.ready = false) ∧
          after = before)) := by
  induction connections generalizing s with
  | nil => exact ⟨after, hafter, Or.inr ⟨by simp, rfl⟩⟩
  | cons connection rest ih =>
    rw [map_cons, nodup_cons] at hids
    have hother : ∀ other ∈ rest, other.id ≠ connection.id := by
      intro other hmem heq
      exact hids.1 (heq ▸ List.mem_map_of_mem hmem)
    have hrest := fun other hmem => hcurrent other (mem_cons_of_mem connection hmem)
    rw [broadcast] at hafter
    cases hready : connection.ready with
    | true =>
      rw [if_pos hready] at hafter
      have hsent : ∀ other ∈ rest, ∀ found,
          (s.sendEvent peers connection event).connections.get? other.id = some found →
            found = other := by
        intro other hmem found hfound
        rcases send_get? hfound with ⟨-, hfound⟩ | ⟨heq, -⟩
        · exact hrest other hmem found hfound
        · exact absurd heq.symm (hother other hmem)
      obtain ⟨between, hbetween, htold⟩ := ih hids.2 hsent hafter
      rcases send_get? hbetween with ⟨hne, hsame⟩ | ⟨heq, before, hbefore, hframe⟩
      · -- The connection is another one.
        refine ⟨between, hsame, ?_⟩
        rcases htold with ⟨hmem, hafter⟩ | ⟨hnone, hafter⟩
        · exact Or.inl ⟨mem_cons_of_mem _ hmem, hafter⟩
        refine Or.inr ⟨fun other hmem heq => ?_, hafter⟩
        rcases mem_cons.mp hmem with rfl | hmem
        · exact absurd heq hne
        · exact hnone other hmem heq
      · -- The connection has been told, and does not come again.
        have hsame := hcurrent connection mem_cons_self before hbefore
        subst hsame
        rw [heq] at hbefore
        refine ⟨before, hbefore, Or.inl ⟨mem_cons_self, heq, hready, ?_⟩⟩
        rcases htold with ⟨hmem, hid, -, -⟩ | ⟨-, hafter⟩
        · exact absurd (hid.trans heq.symm) (hother between hmem)
        · exact hafter.trans hframe
    | false =>
      rw [if_neg (by simp [hready])] at hafter
      obtain ⟨before, hbefore, hafter⟩ := ih hids.2 hrest hafter
      refine ⟨before, hbefore, ?_⟩
      rcases hafter with ⟨hmem, hafter⟩ | ⟨hnone, hafter⟩
      · exact Or.inl ⟨mem_cons_of_mem _ hmem, hafter⟩
      refine Or.inr ⟨fun other hmem heq => ?_, hafter⟩
      rcases mem_cons.mp hmem with rfl | hmem
      · exact hready
      · exact hnone other hmem heq

theorem Controlled.broadcast_get? (h : s.Controlled) (peers : Peers) (event : RetainedRpcEvent Output)
    {t : RpcAttachmentHub Output} (hsame : t.connections = s.connections) {id : Nat}
    {after : RpcConnection Output}
    (hafter : (broadcast peers event s.connections.values t).connections.get? id = some after) :
    ∃ before, s.connections.get? id = some before ∧
      ((before.ready = true ∧ after = told event before) ∨
        (before.ready = false ∧ after = before)) := by
  have hkeys : s.connections.values.map RpcConnection.id = s.connections.keys := by
    unfold OrderedMap.values OrderedMap.keys
    rw [List.map_map]
    apply map_congr_left
    rintro ⟨j, connection⟩ hmem
    exact h.keyed j connection (mem_entries.mp hmem)
  have hcurrent : ∀ connection ∈ s.connections.values, ∀ found,
      t.connections.get? connection.id = some found → found = connection := by
    intro connection hmem found hfound
    obtain ⟨⟨j, entry⟩, hentry, rfl⟩ := List.mem_map.mp hmem
    have hget := mem_entries.mp hentry
    rw [hsame, h.keyed j entry hget, hget] at hfound
    exact (Option.some.inj hfound).symm
  obtain ⟨before, hbefore, hafter⟩ := RpcAttachmentHub.broadcast_get? peers event
    (hkeys ▸ s.connections.nodup) hcurrent hafter
  rw [hsame] at hbefore
  refine ⟨before, hbefore, ?_⟩
  rcases hafter with ⟨-, -, hready, hafter⟩ | ⟨hnone, hafter⟩
  · exact Or.inl ⟨hready, hafter⟩
  · refine Or.inr ⟨hnone before ?_ (h.keyed id before hbefore), hafter⟩
    exact List.mem_map.mpr ⟨(id, before), mem_entries.mpr hbefore, rfl⟩

theorem Attached.told {published : List Output} (h : Attached host points published connection)
    (hready : connection.ready = true) (event : RetainedRpcEvent Output) :
    Attached host points (published ++ [event.event]) (told event connection) := by
  refine ⟨h.raw, h.cursor, h.issued, fun hnot => ?_, h.boundary, fun _ point hpoint => ?_⟩
  · exact absurd (hready.symm.trans hnot) (by simp)
  have hframed : connection.protocol ≠ .raw := by
    intro hraw
    have hnone := h.raw hraw
    rw [show connection.resumes = some point from hpoint] at hnone
    cases hnone
  rcases h.follows hready point hpoint with hgap | ⟨hle, hreceived⟩
  · left
    unfold gapReported RpcAttachmentHub.told at *
    simp only [any_append, hgap, Bool.true_or]
  · right
    refine ⟨by simp; omega, ?_⟩
    rw [drop_append_of_le_length hle, ← hreceived]
    unfold received RpcAttachmentHub.told
    simp [hframed, payloadOf]

theorem Attached.unready {published : List Output} (h : Attached host points published connection)
    (hready : connection.ready = false) (event : Output) :
    Attached host points (published ++ [event]) connection := by
  refine ⟨h.raw, h.cursor, h.issued, h.waiting, h.boundary, fun hnot => ?_⟩
  rw [hready] at hnot
  cases hnot

theorem Attached.grow {published : List Output} (h : Attached host points published connection) {more : List Point}
    (hmore : ∀ point ∈ points, point ∈ more) : Attached host more published connection :=
  ⟨h.raw, h.cursor, fun point hpoint => hmore point (h.issued point hpoint), h.waiting, h.boundary,
    h.follows⟩

theorem send_ring (peers : Peers) (s : RpcAttachmentHub Output) (id : Nat) (frame : RpcFrame Output) :
    (s.send peers id frame).hostInstanceId = s.hostInstanceId ∧
      (s.send peers id frame).sequence = s.sequence ∧ (s.send peers id frame).events = s.events := by
  unfold send
  split
  · exact ⟨rfl, rfl, rfl⟩
  split
  · unfold remove
    split <;> exact ⟨rfl, rfl, rfl⟩
  · exact ⟨rfl, rfl, rfl⟩

theorem broadcast_ring (peers : Peers) (event : RetainedRpcEvent Output)
    (connections : List (RpcConnection Output)) (s : RpcAttachmentHub Output) :
    (broadcast peers event connections s).hostInstanceId = s.hostInstanceId ∧
      (broadcast peers event connections s).sequence = s.sequence ∧
      (broadcast peers event connections s).events = s.events := by
  induction connections generalizing s with
  | nil => exact ⟨rfl, rfl, rfl⟩
  | cons connection rest ih =>
    rw [broadcast]
    split
    · obtain ⟨hhost, hsequence, hevents⟩ := ih (s.sendEvent peers connection event)
      obtain ⟨hhost', hsequence', hevents'⟩ := send_ring peers s connection.id
        (if connection.protocol = .raw then .rawEvent event.event
          else .event event.cursor event.sequence event.event)
      exact ⟨hhost.trans hhost', hsequence.trans hsequence', hevents.trans hevents'⟩
    · exact ih s

/-- The event is retained before it is sent. -/
theorem publish_eq (limits : RpcAttachmentLimits) (peers : Peers) (s : RpcAttachmentHub Output)
    (event : Output) (bytes : Nat) : ∃ retained t,
      s.publish limits peers event bytes = broadcast peers retained s.connections.values t ∧
        retained.event = event ∧ retained.sequence = s.sequence + 1 ∧
        t.connections = s.connections ∧ t.hostInstanceId = s.hostInstanceId ∧
        t.sequence = s.sequence + 1 ∧
        t.events = (evict limits (s.events ++ [retained]) (s.replayBytes + bytes)).1 :=
  ⟨_, _, rfl, rfl, rfl, rfl, rfl, rfl, rfl⟩

theorem Replays.publish (h : Replays host points published base s) (hcontrolled : s.Controlled)
    (limits : RpcAttachmentLimits) (peers : Peers) (event : Output) (bytes : Nat) :
    Replays host (points ++ [⟨s.epoch, s.key, s.sequence + 1, published.length + 1⟩])
      (published ++ [event]) base (s.publish limits peers event bytes) := by
  have hkeeps := keeps_publish peers limits s event bytes
  have hbase := h.base_le
  obtain ⟨retained, t, hpublish, rfl, hnumber, hconnections, hhost, hsequence, hevents⟩ :=
    publish_eq limits peers s event bytes
  obtain ⟨hhost', hsequence', hevents'⟩ := broadcast_ring peers retained s.connections.values t
  rw [← hpublish] at hhost' hsequence' hevents'
  refine ⟨(hhost'.trans hhost).trans h.hostInstanceId, by simp; omega, ?_,
    fun point hpoint hepoch => ?_, fun id after hafter => ?_⟩
  · rw [drop_append_of_le_length hbase]
    exact h.ring.publish rfl hnumber (hsequence'.trans hsequence) (hevents'.trans hevents)
  · rw [hkeeps.epoch] at hepoch
    rw [hkeeps.key]
    rcases mem_append.mp hpoint with hpoint | hpoint
    · exact h.counted point hpoint hepoch
    rw [mem_singleton] at hpoint
    subst hpoint
    have hcount := h.ring.count
    rw [length_drop] at hcount
    refine ⟨rfl, ?_⟩
    simp only
    omega
  · rw [hpublish] at hafter
    obtain ⟨before, hbefore, hafter⟩ := hcontrolled.broadcast_get? peers retained hconnections hafter
    have hattached := h.attached id before hbefore
    have hmore : ∀ point ∈ points, point ∈
        points ++ [⟨s.epoch, s.key, s.sequence + 1, published.length + 1⟩] :=
      fun point hpoint => mem_append_left _ hpoint
    rcases hafter with ⟨hready, rfl⟩ | ⟨hready, rfl⟩
    · exact (hattached.told hready _).grow hmore
    · exact (hattached.unready hready _).grow hmore

theorem Replays.grow (h : Replays host points published base s) {more : List Point}
    (hmore : ∀ point ∈ points, point ∈ more)
    (hepoch : ∀ point ∈ more, point.epoch = s.epoch → point ∈ points) :
    Replays host more published base s :=
  ⟨h.hostInstanceId, h.base_le, h.ring,
    fun point hpoint heq => h.counted point (hepoch point hpoint heq) heq,
    fun id connection hget => (h.attached id connection hget).grow hmore⟩

end

end

end RpcAttachmentHub

namespace RpcAttachmentManager

open RpcAttachmentHub

section
variable {Output : Type} {limits : RpcAttachmentLimits} {m t : RpcAttachmentManager Output}

/-! ## The manager -/

/-- Every hub replays its session generation, and the hubs are numbered. -/
structure ReplayInv (m : RpcAttachmentManager Output) : Prop where
  replays : ∀ key hub, m.hubs.get? key = some hub →
    ∃ base, hub.Replays m.hostInstanceId m.points (m.publishedOf key) base
  epoch : ∀ key hub, m.hubs.get? key = some hub → hub.epoch < m.nextEpoch
  distinct : ∀ key key' hub hub', m.hubs.get? key = some hub → m.hubs.get? key' = some hub' →
    hub.epoch = hub'.epoch → key = key'
  points : ∀ point ∈ m.points, point.epoch < m.nextEpoch
  pending : ∀ attach ∈ m.pending, (attach.protocol = .raw → attach.resumes = none) ∧
    attach.requestedCursor = attach.resumes.map (pointCursor m.hostInstanceId) ∧
      ∀ point, attach.resumes = some point → point ∈ m.points

variable {key : HubKey}

theorem ReplayInv.set (h : ReplayInv m) {before after : RpcAttachmentHub Output}
    (hget : m.hubs.get? key = some before) (hepoch : after.epoch = before.epoch)
    (hreplays : ∀ base, before.Replays m.hostInstanceId m.points (m.publishedOf key) base →
      after.Replays m.hostInstanceId m.points (m.publishedOf key) base) :
    ReplayInv { m with hubs := m.hubs.set key after } := by
  have hold : ∀ key' hub, (m.hubs.set key after).get? key' = some hub →
      ∃ old, m.hubs.get? key' = some old ∧ hub.epoch = old.epoch ∧
        ∀ base, old.Replays m.hostInstanceId m.points (m.publishedOf key') base →
          hub.Replays m.hostInstanceId m.points (m.publishedOf key') base := by
    intro key' hub hub'
    rw [get?_set] at hub'
    split at hub'
    · rename_i heq
      cases hub'
      subst heq
      exact ⟨before, hget, hepoch, hreplays⟩
    · exact ⟨hub, hub', rfl, fun _ hub => hub⟩
  refine ⟨fun key' hub hub' => ?_, fun key' hub hub' => ?_, fun key' key'' hub other hub' hother heq => ?_,
    h.points, h.pending⟩
  · obtain ⟨old, hget', -, hreplays'⟩ := hold key' hub hub'
    obtain ⟨base, hbase⟩ := h.replays key' old hget'
    exact ⟨base, hreplays' base hbase⟩
  · obtain ⟨old, hget', hepoch', -⟩ := hold key' hub hub'
    rw [hepoch']
    exact h.epoch key' old hget'
  · obtain ⟨old, hget', hepoch', -⟩ := hold key' hub hub'
    obtain ⟨old', hget'', hepoch'', -⟩ := hold key'' other hother
    exact h.distinct key' key'' old old' hget' hget'' (by rw [← hepoch', ← hepoch'', heq])

variable {change : RpcAttachmentHub Output → RpcAttachmentHub Output}

theorem ReplayInv.updateHub (h : ReplayInv m) (key : HubKey) (hepoch : ∀ hub, (change hub).epoch = hub.epoch)
    (hreplays : ∀ hub, m.hubs.get? key = some hub → ∀ base,
      hub.Replays m.hostInstanceId m.points (m.publishedOf key) base →
        (change hub).Replays m.hostInstanceId m.points (m.publishedOf key) base) :
    ReplayInv (m.updateHub key change) := by
  unfold RpcAttachmentManager.updateHub
  split
  · exact h
  · rename_i hub hget
    exact h.set hget (hepoch hub) (hreplays hub hget)

theorem ReplayInv.quiet (h : ReplayInv m) (key : HubKey) (hquiet : ∀ hub, Quiet hub (change hub)) :
    ReplayInv (m.updateHub key change) :=
  h.updateHub key (fun hub => (hquiet hub).epoch) fun hub _ _ hbase => hbase.quiet (hquiet hub)

theorem ReplayInv.retire (h : ReplayInv m) (key : HubKey) : ReplayInv (m.retire key) := by
  unfold RpcAttachmentManager.retire
  split
  · exact h
  refine ⟨fun key' hub hget => ?_, fun key' hub hget => ?_, fun key' key'' hub hub' hget hget' => ?_,
    h.points, h.pending⟩
  · exact h.replays key' hub (get?_of_delete hget).2
  · exact h.epoch key' hub (get?_of_delete hget).2
  · exact h.distinct key' key'' hub hub' (get?_of_delete hget).2
      (get?_of_delete hget').2

theorem ReplayInv.retireAll (h : ReplayInv m) (keys : List HubKey) :
    ReplayInv (keys.foldl RpcAttachmentManager.retire m) := by
  induction keys generalizing m with
  | nil => exact h
  | cons key keys ih => exact ih (h.retire key)

/-- A new hub counts from the events that have been published. -/
theorem replays_new (host : JsString) (key : HubKey) (epoch : Nat) {points : List Point}
    (hpoints : ∀ point ∈ points, point.epoch < epoch) (published : List Output) :
    (RpcAttachmentHub.new host key epoch : RpcAttachmentHub Output).Replays host
      (points ++ [⟨epoch, key, 0, published.length⟩]) published published.length := by
  refine ⟨rfl, Nat.le_refl _, ⟨by simp [RpcAttachmentHub.new], 0, Nat.zero_le _, ?_⟩,
    fun point hpoint heq => ?_, fun id connection hget => ?_⟩
  · simp [RpcAttachmentHub.new]
  · rcases mem_append.mp hpoint with hpoint | hpoint
    · exact absurd heq (Nat.ne_of_lt (hpoints point hpoint))
    rw [mem_singleton] at hpoint
    subst hpoint
    exact ⟨rfl, rfl⟩
  · cases hget

theorem ReplayInv.createHub (h : ReplayInv m) (key : HubKey) : ReplayInv (m.createHub key) := by
  have hmore : ∀ point ∈ m.points, point ∈ (m.createHub key).points :=
    fun point hpoint => mem_append_left _ hpoint
  have hold : ∀ key' hub, (m.createHub key).hubs.get? key' = some hub →
      (key' = key ∧ hub = .new m.hostInstanceId key m.nextEpoch) ∨ m.hubs.get? key' = some hub := by
    intro key' hub hget
    simp only [RpcAttachmentManager.createHub, get?_set] at hget
    split at hget
    · rename_i heq
      cases hget
      exact Or.inl ⟨heq.symm, rfl⟩
    · exact Or.inr hget
  refine ⟨fun key' hub hget => ?_, fun key' hub hget => ?_, fun key' key'' hub hub' hget hget' heq => ?_,
    fun point hpoint => ?_, fun attach hattach => ?_⟩
  · rcases hold key' hub hget with ⟨rfl, rfl⟩ | hget
    · exact ⟨_, replays_new _ _ _ h.points _⟩
    obtain ⟨base, hbase⟩ := h.replays key' hub hget
    refine ⟨base, hbase.grow hmore fun point hpoint heq => ?_⟩
    rcases mem_append.mp hpoint with hpoint | hpoint
    · exact hpoint
    rw [mem_singleton] at hpoint
    subst hpoint
    exact absurd heq.symm (Nat.ne_of_lt (h.epoch key' hub hget))
  · rcases hold key' hub hget with ⟨rfl, rfl⟩ | hget
    · exact Nat.lt_succ_self _
    · exact Nat.lt_succ_of_lt (h.epoch key' hub hget)
  · rcases hold key' hub hget with ⟨hkey, hnew⟩ | hlive
    · rcases hold key'' hub' hget' with ⟨hkey', -⟩ | hlive'
      · exact hkey.trans hkey'.symm
      · rw [hnew] at heq
        exact absurd heq.symm (Nat.ne_of_lt (h.epoch key'' hub' hlive'))
    · rcases hold key'' hub' hget' with ⟨-, hnew'⟩ | hlive'
      · rw [hnew'] at heq
        exact absurd heq (Nat.ne_of_lt (h.epoch key' hub hlive))
      · exact h.distinct key' key'' hub hub' hlive hlive' heq
  · rcases mem_append.mp hpoint with hpoint | hpoint
    · exact Nat.lt_succ_of_lt (h.points point hpoint)
    rw [mem_singleton] at hpoint
    subst hpoint
    exact Nat.lt_succ_self _
  · obtain ⟨hraw, hcursor, hissued⟩ := h.pending attach hattach
    exact ⟨hraw, hcursor, fun point hpoint => hmore point (hissued point hpoint)⟩

theorem ReplayInv.hub (h : ReplayInv m) (hhub : m.hub limits key = some t) : ReplayInv t := by
  unfold RpcAttachmentManager.hub at hhub
  split at hhub
  · cases hhub
    exact h
  split at hhub
  · split at hhub
    · cases hhub
    · cases hhub
      exact (h.retire _).createHub key
  · cases hhub
    exact h.createHub key

theorem publishedOf_append (m : RpcAttachmentManager Output) (key key' : HubKey) (event : Output) :
    ({ m with published := m.published ++ [(key, event)] } : RpcAttachmentManager Output).publishedOf
      key' = m.publishedOf key' ++ if key = key' then [event] else [] := by
  unfold publishedOf
  by_cases heq : key = key'
  · simp [heq]
  · simp [heq]

theorem ReplayInv.publish (h : ReplayInv m) {hub : RpcAttachmentHub Output} (hget : m.hubs.get? key = some hub)
    (hcontrolled : hub.Controlled) (hkey : hub.key = key) (peers : Peers) (event : Output) (bytes : Nat) :
    ReplayInv { m with
      hubs := m.hubs.set key (hub.publish limits peers event bytes)
      published := m.published ++ [(key, event)]
      points := m.points ++
        [⟨hub.epoch, key, hub.sequence + 1, (m.publishedOf key).length + 1⟩] } := by
  have hepoch := (keeps_publish peers limits hub event bytes).epoch
  have hmore : ∀ point ∈ m.points, point ∈ m.points ++
      [⟨hub.epoch, key, hub.sequence + 1, (m.publishedOf key).length + 1⟩] :=
    fun point hpoint => mem_append_left _ hpoint
  have hold : ∀ key' other, (m.hubs.set key (hub.publish limits peers event bytes)).get? key' =
      some other → (key = key' ∧ other = hub.publish limits peers event bytes) ∨
        (key ≠ key' ∧ m.hubs.get? key' = some other) := by
    intro key' other hother
    rw [get?_set] at hother
    split at hother
    · rename_i heq
      exact Or.inl ⟨heq, (Option.some.inj hother).symm⟩
    · rename_i hne
      exact Or.inr ⟨hne, hother⟩
  have hepochs : ∀ key' other, (m.hubs.set key (hub.publish limits peers event bytes)).get? key' =
      some other → ∃ old, m.hubs.get? key' = some old ∧ other.epoch = old.epoch := by
    intro key' other hother
    rcases hold key' other hother with ⟨rfl, rfl⟩ | ⟨-, hother⟩
    · exact ⟨hub, hget, hepoch⟩
    · exact ⟨other, hother, rfl⟩
  refine ⟨fun key' other hother => ?_, fun key' other hother => ?_,
    fun key' key'' a b ha hb heq => ?_, fun point hpoint => ?_, fun attach hattach => ?_⟩
  · have happend := publishedOf_append m key key' event
    rcases hold key' other hother with ⟨rfl, rfl⟩ | ⟨hne, hother⟩
    · obtain ⟨base, hbase⟩ := h.replays key hub hget
      have hpublish := hbase.publish hcontrolled limits peers event bytes
      rw [hkey] at hpublish
      rw [if_pos rfl] at happend
      exact ⟨base, by rw [← happend] at hpublish; exact hpublish⟩
    · obtain ⟨base, hbase⟩ := h.replays key' other hother
      rw [if_neg hne, append_nil] at happend
      refine ⟨base, ?_⟩
      rw [← happend] at hbase
      refine hbase.grow hmore fun point hpoint heq => ?_
      rcases mem_append.mp hpoint with hpoint | hpoint
      · exact hpoint
      rw [mem_singleton] at hpoint
      subst hpoint
      exact absurd (h.distinct key key' hub other hget hother heq) hne
  · obtain ⟨old, hold, heq⟩ := hepochs key' other hother
    rw [heq]
    exact h.epoch key' old hold
  · obtain ⟨old, hold, ha⟩ := hepochs key' a ha
    obtain ⟨old', hold', hb⟩ := hepochs key'' b hb
    exact h.distinct key' key'' old old' hold hold' (by rw [← ha, ← hb, heq])
  · rcases mem_append.mp hpoint with hpoint | hpoint
    · exact h.points point hpoint
    rw [mem_singleton] at hpoint
    subst hpoint
    exact h.epoch key hub hget
  · obtain ⟨hraw, hcursor, hissued⟩ := h.pending attach hattach
    exact ⟨hraw, hcursor, fun point hpoint => hmore point (hissued point hpoint)⟩

theorem hub_points (hhub : m.hub limits key = some t) : ∀ point ∈ m.points, point ∈ t.points := by
  unfold RpcAttachmentManager.hub at hhub
  split at hhub
  · cases hhub
    exact fun point hpoint => hpoint
  split at hhub
  · split at hhub
    · cases hhub
    cases hhub
    intro point hpoint
    apply mem_append_left
    unfold RpcAttachmentManager.retire
    split
    · exact hpoint
    · exact hpoint
  · cases hhub
    exact fun point hpoint => mem_append_left _ hpoint

/-- The step initializes no attachment, or one that resumes in the hub of its cursor. -/
def KeepsReplay (m : RpcAttachmentManager Output) : AttachmentEvent Output → Prop
  | .initializeFramed key id _ => ∀ hub ∈ m.hubs.get? key, ∀ connection ∈ hub.connections.get? id,
      hub.ResumesHere (m.publishedOf key).length connection
  | _ => True

theorem ReplayInv.attached (h : ReplayInv m) {attach : PendingAttach}
    (hattach : (attach.protocol = .raw → attach.resumes = none) ∧
      attach.requestedCursor = attach.resumes.map (pointCursor m.hostInstanceId) ∧
        ∀ point, attach.resumes = some point → point ∈ m.points) :
    ReplayInv (m.attached attach) := by
  unfold RpcAttachmentManager.attached
  split
  · exact h
  rename_i hub hget
  split
  · obtain ⟨hraw, hcursor, hissued⟩ := hattach
    refine h.set hget ?_ fun base hbase => hbase.add attach.id _ hraw hcursor hissued
    unfold RpcAttachmentHub.add
    split <;> rfl
  · exact h

theorem attachmentStep_replayInv (h : ReplayInv m) (hcontrol : ControlInv m)
    {event : AttachmentEvent Output} (hok : KeepsReplay m event)
    (hstep : attachmentStep limits m event = some t) : ReplayInv t := by
  cases event with
  | attach key protocol requestedRole resumes =>
    obtain ⟨_, hstep⟩ := ite_none_left_eq_some.mp hstep
    obtain ⟨hraw, hstep⟩ := ite_none_left_eq_some.mp hstep
    obtain ⟨hissued, hstep⟩ := ite_none_left_eq_some.mp hstep
    obtain ⟨found, hfound, hstep⟩ := bind_eq_some_iff.mp hstep
    obtain ⟨hub, hget, hstep⟩ := bind_eq_some_iff.mp hstep
    obtain ⟨_, hstep⟩ := ite_none_left_eq_some.mp hstep
    cases hstep
    have hinv := h.hub hfound
    refine ⟨hinv.replays, hinv.epoch, hinv.distinct, hinv.points, fun attach hattach => ?_⟩
    rcases mem_append.mp hattach with hattach | hattach
    · exact hinv.pending attach hattach
    rw [mem_singleton] at hattach
    subst hattach
    refine ⟨fun hprotocol => ?_, rfl, fun point hpoint => ?_⟩
    · simpa [show protocol = .raw from hprotocol] using hraw
    have hpoints : point ∈ m.points := by
      simpa [show resumes = some point from hpoint] using hissued
    exact hub_points hfound point hpoints
  | lease id =>
    obtain ⟨attach, hfind, rfl⟩ := map_eq_some_iff.mp hstep
    have hmem := List.mem_of_find?_eq_some hfind
    have hrest : ReplayInv { m with pending := m.pending.filter fun attach => attach.id ≠ id } :=
      ⟨h.replays, h.epoch, h.distinct, h.points,
        fun other hother => h.pending other (mem_filter.mp hother).1⟩
    split
    · exact hrest.attached (h.pending attach hmem)
    · exact hrest
  | captured key id found =>
    cases hstep
    exact h.quiet key fun hub => quiet_captured hub id found
  | initializeFramed key id peers =>
    cases hstep
    refine h.updateHub key (fun hub => (keeps_initializeFramed peers hub id).epoch)
      fun hub hget base hbase => ?_
    exact hbase.initializeFramed peers id fun connection hconnection =>
      hok hub hget connection hconnection
  | message key id value ui peers =>
    obtain ⟨hub, hget, hstep⟩ := bind_eq_some_iff.mp hstep
    obtain ⟨connection, hconnection, rfl⟩ := map_eq_some_iff.mp hstep
    have hid := (hcontrol.controlled key hub hget).1.keyed id connection hconnection
    rw [← hid] at hconnection
    have hquiet := (answers_onMessage peers limits hconnection ui value).quiet
    have hset := h.set hget hquiet.epoch fun base hbase => hbase.quiet hquiet
    exact ⟨hset.replays, hset.epoch, hset.distinct, hset.points, hset.pending⟩
  | responded key id outcome peers =>
    cases hstep
    exact h.quiet key fun hub => quiet_responded peers hub id outcome
  | publish key event bytes peers =>
    obtain ⟨hub, hget, rfl⟩ := map_eq_some_iff.mp hstep
    obtain ⟨hcontrolled, hkey⟩ := hcontrol.controlled key hub hget
    exact h.publish hget hcontrolled hkey peers event bytes
  | peerClosed key id =>
    cases hstep
    exact h.quiet key fun hub => quiet_remove hub id
  | multiplexerEvent =>
    cases hstep
    exact h.retireAll _
  | dispose =>
    simp only [attachmentStep] at hstep
    split at hstep
    · cases hstep
      exact h
    cases hstep
    have hinv := h.retireAll m.hubs.keys
    exact ⟨hinv.replays, hinv.epoch, hinv.distinct, hinv.points, hinv.pending⟩

theorem replayInv_new (host : JsString) : ReplayInv (new host : RpcAttachmentManager Output) := by
  constructor
  · rintro key hub ⟨⟩
  · rintro key hub ⟨⟩
  · rintro key _ hub _ ⟨⟩
  · rintro _ ⟨⟩
  · rintro _ ⟨⟩

/-- A cursor of the hub agrees with it on the events that came before. -/
theorem ReplayInv.agrees (h : ReplayInv m) {hub : RpcAttachmentHub Output} (hget : m.hubs.get? key = some hub)
    {point : Point} (hpoint : point ∈ m.points) (hepoch : point.epoch = hub.epoch) :
    point.position + hub.sequence = (m.publishedOf key).length + point.sequence := by
  obtain ⟨_, hbase⟩ := h.replays key hub hget
  have hcount := hbase.ring.count
  have hle := hbase.base_le
  obtain ⟨-, _⟩ := hbase.counted point hpoint hepoch
  rw [length_drop] at hcount
  omega

end

/-- **Replay.** In every run whose attachments resume in hubs that agree with their cursors,
an attachment has reported a gap, or it has received exactly the events after its cursor, each
once and in order; and a hub agrees with each of the cursors that it has issued. -/
theorem replay_complete {Output : Type} (limits : RpcAttachmentLimits) (host : JsString)
    (events : List (AttachmentEvent Output)) {m : RpcAttachmentManager Output}
    (hrun : run (attachmentStep limits) (new host) events = some m)
    (hok : Meets (attachmentStep limits) KeepsReplay (new host) events) :
    ∀ key hub, m.hubs.get? key = some hub →
      (∀ id connection, hub.connections.get? id = some connection →
        Follows (m.publishedOf key) connection) ∧
      ∀ point ∈ m.points, point.epoch = hub.epoch →
        point.position + hub.sequence = (m.publishedOf key).length + point.sequence := by
  have hinv : ReplayInv m ∧ ControlInv m := by
    apply run_invariant_of_meets _ ⟨replayInv_new host, controlInv_new host⟩ hok hrun
    rintro m _ _ ⟨hreplay, hcontrol⟩ hmeets hstep
    exact ⟨attachmentStep_replayInv hreplay hcontrol hmeets hstep,
      attachmentStep_controlInv hcontrol hstep⟩
  intro key hub hget
  refine ⟨fun id connection hconnection => ?_, fun point hpoint hepoch => ?_⟩
  · obtain ⟨_, hbase⟩ := hinv.1.replays key hub hget
    exact (hbase.attached id connection hconnection).follows
  · exact hinv.1.agrees hget hpoint hepoch

instance (count : Nat) (hub : RpcAttachmentHub Nat) (connection : RpcConnection Nat) :
    Decidable (hub.ResumesHere count connection) := by
  unfold ResumesHere
  infer_instance

instance (m : RpcAttachmentManager Nat) :
    (event : AttachmentEvent Nat) → Decidable (KeepsReplay m event)
  | .initializeFramed key id _ =>
    inferInstanceAs (Decidable (∀ hub ∈ m.hubs.get? key, ∀ connection ∈ hub.connections.get? id,
      hub.ResumesHere (m.publishedOf key).length connection))
  | .attach _ _ _ _ | .lease _ _ | .captured _ _ _ | .message _ _ _ _ _ | .responded _ _ _ _
  | .publish _ _ _ _ | .peerClosed _ _ | .multiplexerEvent _ _ _ | .dispose => .isTrue trivial

/-- A framed attachment that resumes at a place. -/
def resumed (id : Nat) (point : Point) : List (AttachmentEvent Nat) :=
  [.attach ⟨text "s", 0⟩ .framed .observer (some point), .lease id true,
    .captured ⟨text "s", 0⟩ id true, .initializeFramed ⟨text "s", 0⟩ id .open]

/-- The events of the session `s`, of these sizes. -/
def publishes (sizes : List (Nat × Nat)) : List (AttachmentEvent Nat) :=
  sizes.map fun size => .publish ⟨text "s", 0⟩ size.1 size.2 .open

/-- A hub for a session that nobody is attached to. -/
def idleHub (id : Nat) (sessionId : JsString) : List (AttachmentEvent Nat) :=
  [.attach ⟨sessionId, 0⟩ .framed .observer none, .lease id false]

/-- The cursor of the first event, after three of them and before the fourth. -/
def resumedAfterFirst : List (AttachmentEvent Nat) :=
  idleHub 0 (text "s") ++ publishes [(1, 10), (2, 10), (3, 10)] ++
    resumed 1 ⟨0, ⟨text "s", 0⟩, 1, 1⟩ ++ publishes [(4, 10)]

theorem replay_complete_resumed :
    ∃ m hub connection, run (attachmentStep controlLimits) (new (text "h")) resumedAfterFirst =
        some m ∧ m.hubs.get? ⟨text "s", 0⟩ = some hub ∧
      hub.connections.get? 1 = some connection ∧ received connection = [2, 3, 4] ∧
      Follows (m.publishedOf ⟨text "s", 0⟩) connection := by
  obtain ⟨m, hrun, hub, hget, connection, hconnection, hreceived⟩ :
      ∃ m, run (attachmentStep controlLimits) (new (text "h")) resumedAfterFirst = some m ∧
        ∃ hub, m.hubs.get? ⟨text "s", 0⟩ = some hub ∧
          ∃ connection, hub.connections.get? 1 = some connection ∧ received connection = [2, 3, 4] := by
    decide +kernel
  have hfollows := (replay_complete controlLimits (text "h") _ hrun (by decide +kernel)
    ⟨text "s", 0⟩ hub hget).1 1 connection hconnection
  exact ⟨m, hub, connection, hrun, hget, hconnection, hreceived, hfollows⟩

/-- The hub of the cursor has been evicted, and the one after it counts anew. -/
def recreated : List (AttachmentEvent Nat) :=
  idleHub 0 (text "s") ++ publishes [(1, 10)] ++ idleHub 1 (text "t") ++ idleHub 2 (text "s") ++
    publishes [(2, 10), (3, 10)] ++ resumed 3 ⟨0, ⟨text "s", 0⟩, 1, 1⟩

/-- The ring cannot hold the last event, and loses all. -/
def emptied : List (AttachmentEvent Nat) :=
  idleHub 0 (text "s") ++ publishes [(1, 10), (2, 2000)] ++ resumed 1 ⟨0, ⟨text "s", 0⟩, 1, 1⟩

/-- No gap is reported, and the second event is not received. -/
theorem resume_skips :
    (∃ m hub connection, run (attachmentStep ⟨1, 4, 1000, 8⟩) (new (text "h")) recreated = some m ∧
      m.hubs.get? ⟨text "s", 0⟩ = some hub ∧ hub.connections.get? 3 = some connection ∧
      received connection = [3] ∧ ¬Follows (m.publishedOf ⟨text "s", 0⟩) connection) ∧
    ∃ m hub connection, run (attachmentStep controlLimits) (new (text "h")) emptied = some m ∧
      m.hubs.get? ⟨text "s", 0⟩ = some hub ∧ hub.connections.get? 1 = some connection ∧
      received connection = [] ∧ ¬Follows (m.publishedOf ⟨text "s", 0⟩) connection := by
  simp only [exists_and_left]
  decide +kernel

end RpcAttachmentManager

end PiDaemon.Rpc
