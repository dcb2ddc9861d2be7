import PiDaemon.Rpc.Attachments

/-!
# One controller

The controller of a hub is written down twice, as the role of its connection and as the id
that the hub names.

* `Controlled`: the two agree, and the id is the one of a registered connection;
* `Keeps`, `Quiet`: what an event of a hub leaves of that, with no connection that is new;
* `controller_exclusive`: so in every run, and what only a controller may do is handed on
  for the controller alone.
-/

namespace PiDaemon.Rpc

open Lib OrderedMap List Option

namespace RpcAttachmentHub

section
variable {Output : Type}

/-- The roles of the connections and the id of the controller agree. -/
structure Controlled (hub : RpcAttachmentHub Output) : Prop where
  keyed : ∀ id connection, hub.connections.get? id = some connection → connection.id = id
  named : ∀ id connection, hub.connections.get? id = some connection →
    (connection.role = .controller ↔ hub.controllerConnectionId = some id)
  registered : ∀ id, hub.controllerConnectionId = some id → hub.connections.has id = true

variable {hub : RpcAttachmentHub Output} {s : RpcAttachmentHub Output}
  {connection : RpcConnection Output}

theorem Controlled.unique (h : hub.Controlled) {i j : Nat} {a b : RpcConnection Output}
    (ha : hub.connections.get? i = some a) (hb : hub.connections.get? j = some b)
    (hra : a.role = .controller) (hrb : b.role = .controller) : i = j := by
  have hi := (h.named i a ha).mp hra
  have hj := (h.named j b hb).mp hrb
  rw [hi] at hj
  exact Option.some.inj hj

/-- At most one connection has the role of the controller, and the hub names it. -/
structure SingleController (hub : RpcAttachmentHub Output) : Prop where
  unique : ∀ i j a b, hub.connections.get? i = some a → hub.connections.get? j = some b →
    a.role = .controller → b.role = .controller → i = j
  named : ∀ id, hub.controllerConnectionId = some id ↔
    ∃ connection, hub.connections.get? id = some connection ∧ connection.role = .controller

theorem Controlled.singleController (h : hub.Controlled) : hub.SingleController := by
  refine ⟨fun i j a b ha hb hra hrb => h.unique ha hb hra hrb, fun id => ⟨fun hid => ?_, ?_⟩⟩
  · obtain ⟨connection, hget⟩ := has_iff.mp (h.registered id hid)
    exact ⟨connection, hget, (h.named id connection hget).mpr hid⟩
  · rintro ⟨connection, hget, hrole⟩
    exact (h.named id connection hget).mp hrole

/-- The hub keeps its name and its agreement on the controller, and no connection is new. -/
structure Keeps (s t : RpcAttachmentHub Output) : Prop where
  controlled : s.Controlled → t.Controlled
  known : ∀ id connection, t.connections.get? id = some connection →
    ∃ before, s.connections.get? id = some before
  key : t.key = s.key
  epoch : t.epoch = s.epoch

theorem Keeps.refl (s : RpcAttachmentHub Output) : Keeps s s :=
  ⟨id, fun _ connection h => ⟨connection, h⟩, rfl, rfl⟩

theorem Keeps.trans {s t u : RpcAttachmentHub Output} (hst : Keeps s t) (htu : Keeps t u) :
    Keeps s u := by
  refine ⟨fun h => htu.controlled (hst.controlled h), fun id connection hget => ?_,
    htu.key.trans hst.key, htu.epoch.trans hst.epoch⟩
  obtain ⟨before, hbefore⟩ := htu.known id connection hget
  exact hst.known id before hbefore

/-- The event in a frame of a framed attachment. -/
def payloadOf : RpcFrame Output → Option Output
  | .event _ _ event => some event
  | _ => none

def received (connection : RpcConnection Output) : List Output :=
  connection.sent.filterMap payloadOf

/-- A replay gap has been reported. -/
def gapReported (connection : RpcConnection Output) : Bool :=
  connection.sent.any fun
    | .replayGap .. => true
    | _ => false

/-- A connection is changed, and no event has been sent to it. -/
structure Plain (a b : RpcConnection Output) : Prop where
  protocol : b.protocol = a.protocol
  ready : b.ready = a.ready
  requestedCursor : b.requestedCursor = a.requestedCursor
  resumes : b.resumes = a.resumes
  received : received b = received a
  gapReported : gapReported a = true → gapReported b = true
  boundary : (a.boundary.isSome = true → a.ready = false) → b.boundary.isSome = true →
    b.ready = false

theorem Plain.refl (a : RpcConnection Output) : Plain a a := ⟨rfl, rfl, rfl, rfl, rfl, id, id⟩

theorem Plain.trans {a b c : RpcConnection Output} (hab : Plain a b) (hbc : Plain b c) : Plain a c :=
  ⟨hbc.protocol.trans hab.protocol, hbc.ready.trans hab.ready,
    hbc.requestedCursor.trans hab.requestedCursor, hbc.resumes.trans hab.resumes,
    hbc.received.trans hab.received, fun h => hbc.gapReported (hab.gapReported h),
    fun h => hbc.boundary (hab.boundary h)⟩

theorem plain_sent (a : RpcConnection Output) {frame : RpcFrame Output}
    (hframe : payloadOf frame = none) : Plain a { a with sent := a.sent ++ [frame] } := by
  refine ⟨rfl, rfl, rfl, rfl, ?_, fun h => ?_, id⟩
  · simp [RpcAttachmentHub.received, hframe]
  · simp only [RpcAttachmentHub.gapReported, any_append, Bool.or_eq_true]
    exact Or.inl h

/-- The hub keeps its events too, and nothing of them has been sent. -/
structure Quiet (s t : RpcAttachmentHub Output) : Prop extends Keeps s t where
  hostInstanceId : t.hostInstanceId = s.hostInstanceId
  sequence : t.sequence = s.sequence
  events : t.events = s.events
  plain : ∀ id connection, t.connections.get? id = some connection →
    ∃ before, s.connections.get? id = some before ∧ Plain before connection

section
variable (s)

theorem Quiet.refl : Quiet s s :=
  ⟨Keeps.refl s, rfl, rfl, rfl, fun _ connection h => ⟨connection, h, Plain.refl connection⟩⟩

theorem Quiet.trans {s t u : RpcAttachmentHub Output} (hst : Quiet s t) (htu : Quiet t u) :
    Quiet s u := by
  refine ⟨hst.toKeeps.trans htu.toKeeps, htu.hostInstanceId.trans hst.hostInstanceId,
    htu.sequence.trans hst.sequence, htu.events.trans hst.events, fun id connection hget => ?_⟩
  obtain ⟨between, hbetween, hplain⟩ := htu.plain id connection hget
  obtain ⟨before, hbefore, hplain'⟩ := hst.plain id between hbetween
  exact ⟨before, hbefore, hplain'.trans hplain⟩

/-- The connections and the controller are the same. -/
theorem Keeps.of_same {s t : RpcAttachmentHub Output} (hconnections : t.connections = s.connections)
    (hcontroller : t.controllerConnectionId = s.controllerConnectionId) (hkey : t.key = s.key)
    (hepoch : t.epoch = s.epoch) : Keeps s t := by
  refine ⟨fun h => ⟨?_, ?_, ?_⟩, ?_, hkey, hepoch⟩
  · rw [hconnections]
    exact h.keyed
  · rw [hconnections, hcontroller]
    exact h.named
  · rw [hconnections, hcontroller]
    exact h.registered
  · intro id connection hget
    rw [hconnections] at hget
    exact ⟨connection, hget⟩

/-- A connection is changed, but for its id and its role. -/
theorem keeps_set {id : Nat} {before after : RpcConnection Output}
    (hget : s.connections.get? id = some before) (hid : after.id = before.id)
    (hrole : after.role = before.role) :
    Keeps s { s with connections := s.connections.set id after } := by
  refine ⟨fun h => ⟨fun j connection hj => ?_, fun j connection hj => ?_, fun j hj => ?_⟩,
    fun j connection hj => ?_, rfl, rfl⟩
  · simp only [get?_set] at hj
    split at hj
    · rename_i heq
      cases hj
      rw [hid, h.keyed id before hget, heq]
    · exact h.keyed j connection hj
  · simp only [get?_set] at hj
    split at hj
    · rename_i heq
      cases hj
      rw [hrole, ← heq]
      exact h.named id before hget
    · exact h.named j connection hj
  · obtain ⟨connection, hconnection⟩ := has_iff.mp (h.registered j hj)
    rw [has_iff]
    by_cases heq : id = j
    · subst heq
      exact ⟨after, get?_set_self _ _ _⟩
    · exact ⟨connection, (get?_set_ne _ heq _).trans hconnection⟩
  · simp only [get?_set] at hj
    split at hj
    · rename_i heq
      exact ⟨before, heq ▸ hget⟩
    · exact ⟨connection, hj⟩

theorem keeps_remove (id : Nat) : Keeps s (s.remove id) := by
  unfold remove
  split
  · refine ⟨fun h => ⟨fun j connection hj => ?_, fun j connection hj => ?_, fun j hj => ?_⟩,
      fun j connection hj => ?_, rfl, rfl⟩
    · exact h.keyed j connection (get?_of_delete hj).2
    · obtain ⟨hne, hj⟩ := get?_of_delete hj
      rw [h.named j connection hj]
      split
      · rename_i hnamed
        simp [hnamed, hne]
      · rfl
    · obtain ⟨hnot, hj⟩ := ite_none_left_eq_some.mp hj
      have hne : id ≠ j := by
        rintro rfl
        exact hnot hj
      obtain ⟨connection, hconnection⟩ := has_iff.mp (h.registered j hj)
      exact has_iff.mpr ⟨connection, (get?_delete_ne _ hne).trans hconnection⟩
    · exact ⟨connection, (get?_of_delete hj).2⟩
  · exact Keeps.refl s

theorem quiet_set {id : Nat} {before after : RpcConnection Output}
    (hget : s.connections.get? id = some before) (hid : after.id = before.id)
    (hrole : after.role = before.role) (hplain : Plain before after) :
    Quiet s { s with connections := s.connections.set id after } := by
  refine ⟨keeps_set s hget hid hrole, rfl, rfl, rfl, fun j connection hj => ?_⟩
  simp only [get?_set] at hj
  split at hj
  · rename_i heq
    cases hj
    exact ⟨before, heq ▸ hget, hplain⟩
  · exact ⟨connection, hj, Plain.refl connection⟩

theorem quiet_remove (id : Nat) : Quiet s (s.remove id) := by
  refine ⟨keeps_remove s id, ?_, ?_, ?_, fun j connection hj => ?_⟩
  · unfold remove
    split <;> rfl
  · unfold remove
    split <;> rfl
  · unfold remove
    split <;> rfl
  · unfold remove at hj
    split at hj
    · exact ⟨connection, (get?_of_delete hj).2, Plain.refl connection⟩
    · exact ⟨connection, hj, Plain.refl connection⟩

end

variable (peers : Peers)

theorem keeps_send (s : RpcAttachmentHub Output) (id : Nat) (frame : RpcFrame Output) :
    Keeps s (s.send peers id frame) := by
  unfold send
  split
  · exact Keeps.refl s
  rename_i connection hget
  split
  · exact keeps_remove s id
  · exact keeps_set s hget rfl rfl

theorem quiet_send (s : RpcAttachmentHub Output) (id : Nat) {frame : RpcFrame Output}
    (hframe : payloadOf frame = none) : Quiet s (s.send peers id frame) := by
  unfold send
  split
  · exact Quiet.refl s
  rename_i connection hget
  split
  · exact quiet_remove s id
  · exact quiet_set s hget rfl rfl (plain_sent connection hframe)

theorem quiet_sendResponse (s : RpcAttachmentHub Output) (id : Nat) (outcome : ResponseOutcome) :
    Quiet s (s.sendResponse peers id outcome) := by
  unfold sendResponse
  split
  · exact quiet_send peers s _ rfl
  · exact quiet_send peers s _ rfl

theorem quiet_captured (s : RpcAttachmentHub Output) (id : Nat) (found : Bool) :
    Quiet s (s.captured id found) := by
  unfold captured
  split
  · exact Quiet.refl s
  rename_i connection hget
  split
  · exact Quiet.refl s
  rename_i hwaits
  split
  · refine quiet_set s hget rfl rfl ⟨rfl, rfl, rfl, rfl, rfl, fun h => h, fun _ _ => ?_⟩
    simpa using fun hready => hwaits (Or.inl hready)
  · exact quiet_remove s id

theorem keeps_initializeFramed (s : RpcAttachmentHub Output) (id : Nat) :
    Keeps s (s.initializeFramed peers id) := by
  unfold initializeFramed
  split
  · exact Keeps.refl s
  rename_i connection hget
  split
  · exact Keeps.refl s
  split
  · exact keeps_remove s id
  · exact keeps_set s hget rfl rfl

theorem keeps_broadcast (event : RetainedRpcEvent Output) (connections : List (RpcConnection Output))
    (s : RpcAttachmentHub Output) : Keeps s (broadcast peers event connections s) := by
  induction connections generalizing s with
  | nil => exact Keeps.refl s
  | cons connection rest ih =>
    rw [broadcast]
    split
    · exact (keeps_send peers s _ _).trans (ih _)
    · exact ih s

theorem keeps_publish (limits : RpcAttachmentLimits) (s : RpcAttachmentHub Output) (event : Output)
    (bytes : Nat) : Keeps s (s.publish limits peers event bytes) := by
  have hring : Keeps s { s with
      sequence := s.sequence + 1
      events := (evict limits (s.events ++
        [⟨s.sequence + 1, s.cursor (s.sequence + 1), event, bytes⟩]) (s.replayBytes + bytes)).1
      replayBytes := (evict limits (s.events ++
        [⟨s.sequence + 1, s.cursor (s.sequence + 1), event, bytes⟩]) (s.replayBytes + bytes)).2 } :=
    Keeps.of_same rfl rfl rfl rfl
  exact hring.trans (keeps_broadcast peers _ _ _)

theorem quiet_responded (s : RpcAttachmentHub Output) (id : Nat) (outcome : ResponseOutcome) :
    Quiet s (s.responded peers id outcome) := by
  unfold responded
  simp only
  split
  · exact quiet_sendResponse peers s id outcome
  rename_i connection hget
  exact (quiet_sendResponse peers s id outcome).trans
    (quiet_set _ hget rfl rfl ⟨rfl, rfl, rfl, rfl, rfl, fun h => h, fun h => h⟩)

/-! ## Roles -/

/-- The connection takes the role that the hub names it for. -/
theorem keeps_control {id : Nat} (hget : s.connections.get? id = some connection)
    (hid : connection.id = id) (takes : Bool)
    (hfree : s.controllerConnectionId = none ∨ s.controllerConnectionId = some id) :
    Keeps s { s with
      controllerConnectionId := if takes then some id else none
      connections := s.connections.set id
        { connection with role := if takes then .controller else .observer } } := by
  refine ⟨fun h => ⟨fun j found hj => ?_, fun j found hj => ?_, fun j hj => ?_⟩,
    fun j found hj => ?_, rfl, rfl⟩
  · simp only [get?_set] at hj
    split at hj
    · rename_i heq
      cases hj
      exact hid.trans heq
    · exact h.keyed j found hj
  · simp only [get?_set] at hj
    split at hj
    · rename_i heq
      cases hj
      cases takes
      · simp
      · simp [heq]
    · -- Nobody else has been the controller.
      rename_i hne
      have hnot : s.controllerConnectionId ≠ some j := by
        rcases hfree with hnone | hsome
        · simp [hnone]
        · simp [hsome, hne]
      have hrole : found.role ≠ .controller := fun hrole => hnot ((h.named j found hj).mp hrole)
      cases takes
      · simp [hrole]
      · simp [hrole, hne]
  · cases takes
    · cases hj
    · cases hj
      exact has_iff.mpr ⟨_, get?_set_self _ _ _⟩
  · simp only [get?_set] at hj
    split at hj
    · rename_i heq
      exact ⟨connection, heq ▸ hget⟩
    · exact ⟨found, hj⟩

theorem quiet_control {id : Nat} (hget : s.connections.get? id = some connection)
    (hid : connection.id = id) (takes : Bool)
    (hfree : s.controllerConnectionId = none ∨ s.controllerConnectionId = some id) :
    Quiet s { s with
      controllerConnectionId := if takes then some id else none
      connections := s.connections.set id
        { connection with role := if takes then .controller else .observer } } := by
  refine ⟨keeps_control hget hid takes hfree, rfl, rfl, rfl, fun j found hj => ?_⟩
  simp only [get?_set] at hj
  split at hj
  · rename_i heq
    cases hj
    exact ⟨connection, heq ▸ hget, rfl, rfl, rfl, rfl, rfl, fun h => h, fun h => h⟩
  · exact ⟨found, hj, Plain.refl found⟩

theorem quiet_handleControl (hget : s.connections.get? connection.id = some connection)
    (request : Bool) : Quiet s (s.handleControl peers connection request) := by
  unfold handleControl
  simp only
  split
  · split
    · rename_i hfree
      exact (quiet_control hget rfl true hfree).trans (quiet_send peers _ _ rfl)
    · exact quiet_send peers s _ rfl
  · split
    · rename_i hnamed
      exact (quiet_control hget rfl false (Or.inr hnamed)).trans (quiet_send peers _ _ rfl)
    · exact Quiet.refl s

theorem quiet_handleExtensionUiResponse (s : RpcAttachmentHub Output)
    (connection : RpcConnection Output) (ui : UiAnswer) :
    Quiet s (s.handleExtensionUiResponse peers connection ui) := by
  unfold handleExtensionUiResponse
  split
  · exact quiet_send peers s _ rfl
  cases ui with
  | accepted => exact quiet_send peers s _ rfl
  | unknown => exact quiet_send peers s _ rfl
  | throws => exact quiet_remove s _

/-! ## Messages -/

/-- A message keeps the hub; what only a controller may do is dispatched for one. -/
structure Answers (s : RpcAttachmentHub Output) (connection : RpcConnection Output)
    (result : RpcAttachmentHub Output × Option Dispatch) : Prop where
  quiet : Quiet s result.1
  dispatch : ∀ dispatch, result.2 = some dispatch → dispatch.key = s.key ∧
    dispatch.connectionId = connection.id ∧
      (dispatch.exclusive = true → connection.role = .controller)

theorem Answers.of_quiet {s t : RpcAttachmentHub Output} (h : Quiet s t) :
    Answers s connection (t, none) :=
  ⟨h, by rintro _ ⟨⟩⟩

section
variable (hget : s.connections.get? connection.id = some connection)
include hget

theorem answers_begin {exclusive : Bool}
    (hrole : exclusive = true → connection.role = .controller) :
    Answers s connection (s.begin connection exclusive) := by
  refine ⟨quiet_set s hget rfl rfl ⟨rfl, rfl, rfl, rfl, rfl, fun h => h, fun h => h⟩, ?_⟩
  rintro _ ⟨⟩
  exact ⟨rfl, rfl, hrole⟩

theorem answers_handleTreeNavigate :
    Answers s connection (s.handleTreeNavigate peers connection) := by
  unfold handleTreeNavigate
  split
  · exact Answers.of_quiet (quiet_send peers s _ rfl)
  · rename_i hrole
    exact answers_begin hget fun _ => not_not.mp hrole

theorem answers_handleCommand
    (ui : UiAnswer) (command : ClientValue) :
    Answers s connection (s.handleCommand peers ui connection command) := by
  unfold handleCommand
  split
  · exact Answers.of_quiet (quiet_handleExtensionUiResponse peers s _ _)
  simp only
  split
  · exact Answers.of_quiet (quiet_sendResponse peers s _ _)
  rename_i hallowed
  apply answers_begin hget
  intro hexclusive
  by_contra hrole
  exact hallowed ⟨hrole, by simpa using hexclusive⟩

end

theorem answers_onMessage (limits : RpcAttachmentLimits)
    (hget : s.connections.get? connection.id = some connection) (ui : UiAnswer)
    (value : Option ClientValue) :
    Answers s connection (s.onMessage limits peers ui connection value) := by
  unfold onMessage
  simp only
  split
  · exact Answers.of_quiet (quiet_remove s _)
  split
  · split
    · exact Answers.of_quiet (quiet_send peers s _ rfl)
    · exact Answers.of_quiet (quiet_sendResponse peers s _ _)
  · split
    · exact Answers.of_quiet (quiet_handleControl peers hget _)
    split
    · exact Answers.of_quiet (quiet_handleExtensionUiResponse peers s _ _)
    split
    · exact answers_handleTreeNavigate peers hget
    split
    · split
      · exact answers_handleCommand peers hget ui _
      · exact Answers.of_quiet (quiet_remove s _)
    · exact answers_handleCommand peers hget ui _

/-! ## Connections that are new -/

theorem controlled_new (host : JsString) (key : HubKey) (epoch : Nat) :
    (new host key epoch : RpcAttachmentHub Output).Controlled := by
  constructor
  · intro id connection hget
    cases hget
  · intro id connection hget
    cases hget
  · intro id hid
    cases hid

theorem Controlled.dispose (h : hub.Controlled) : hub.dispose.Controlled := by
  unfold RpcAttachmentHub.dispose
  split
  · exact h
  · exact ⟨by rintro id connection ⟨⟩, by rintro id connection ⟨⟩, by rintro id ⟨⟩⟩

theorem Controlled.add (h : hub.Controlled) {id : Nat} (hfresh : hub.connections.get? id = none)
    (protocol : SessionRpcSubprotocol) (role : AttachmentRole) (cursor : Option ParsedCursor)
    (resumes : Option Point) : (hub.add id protocol role cursor resumes).Controlled := by
  unfold RpcAttachmentHub.add
  split
  · exact h
  have hnot : hub.controllerConnectionId ≠ some id := by
    intro hid
    obtain ⟨connection, hget⟩ := has_iff.mp (h.registered id hid)
    rw [hfresh] at hget
    cases hget
  by_cases hgranted : role = .controller ∧ hub.hasController = false
  · have hnone : hub.controllerConnectionId = none := by
      simpa [hasController] using hgranted.2
    simp only [if_pos hgranted]
    refine ⟨fun j connection hj => ?_, fun j connection hj => ?_, ?_⟩
    · simp only [get?_set] at hj
      split at hj
      · rename_i heq
        cases hj
        exact heq
      · exact h.keyed j connection hj
    · simp only [get?_set] at hj
      split at hj
      · rename_i heq
        cases hj
        simp [heq]
      · rename_i hne
        have := h.named j connection hj
        simp [hnone] at this
        simp [this, hne]
    · rintro j ⟨⟩
      exact has_iff.mpr ⟨_, get?_set_self _ _ _⟩
  · simp only [if_neg hgranted]
    refine ⟨fun j connection hj => ?_, fun j connection hj => ?_, fun j hj => ?_⟩
    · simp only [get?_set] at hj
      split at hj
      · rename_i heq
        cases hj
        exact heq
      · exact h.keyed j connection hj
    · simp only [get?_set] at hj
      split at hj
      · rename_i heq
        cases hj
        simp [← heq, hnot]
      · exact h.named j connection hj
    · obtain ⟨connection, hconnection⟩ := has_iff.mp (h.registered j hj)
      have hne : id ≠ j := by
        rintro rfl
        exact hnot hj
      exact has_iff.mpr ⟨connection, (get?_set_ne _ hne _).trans hconnection⟩

theorem add_known {id j : Nat} {protocol : SessionRpcSubprotocol} {role : AttachmentRole}
    {cursor : Option ParsedCursor} {resumes : Option Point}
    (hget : (hub.add id protocol role cursor resumes).connections.get? j = some connection) :
    j = id ∨ ∃ before, hub.connections.get? j = some before := by
  unfold RpcAttachmentHub.add at hget
  split at hget
  · exact Or.inr ⟨connection, hget⟩
  simp only [get?_set] at hget
  split at hget
  · rename_i heq
    exact Or.inl heq.symm
  · exact Or.inr ⟨connection, hget⟩

end

end RpcAttachmentHub

namespace RpcAttachmentManager

open RpcAttachmentHub

section
variable {Output : Type} {limits : RpcAttachmentLimits} {m t : RpcAttachmentManager Output}

/-! ## Runs -/

/-- Each hub is controlled by one connection at most, and ids are not used twice. -/
structure ControlInv (m : RpcAttachmentManager Output) : Prop where
  controlled : ∀ key hub, m.hubs.get? key = some hub → hub.Controlled ∧ hub.key = key
  retired : ∀ hub ∈ m.retired, hub.Controlled
  known : ∀ key hub, m.hubs.get? key = some hub → ∀ id connection,
    hub.connections.get? id = some connection → id < m.nextId
  pending : ∀ attach ∈ m.pending, attach.id < m.nextId ∧ ∀ key hub,
    m.hubs.get? key = some hub → hub.connections.get? attach.id = none

section
variable (h : ControlInv m)
include h

theorem ControlInv.set {key : HubKey} {before after : RpcAttachmentHub Output}
    (hget : m.hubs.get? key = some before) (hkeeps : Keeps before after)
    (hhubs : t.hubs = m.hubs.set key after) (hretired : t.retired = m.retired)
    (hnextId : t.nextId = m.nextId) (hpending : t.pending = m.pending) : ControlInv t := by
  have hold : ∀ key' hub, t.hubs.get? key' = some hub → ∃ old, m.hubs.get? key' = some old ∧
      (hub.Controlled ∧ hub.key = key') ∧ ∀ id connection,
        hub.connections.get? id = some connection →
          ∃ before, old.connections.get? id = some before := by
    intro key' hub hub'
    rw [hhubs, get?_set] at hub'
    split at hub'
    · rename_i heq
      cases hub'
      subst heq
      obtain ⟨hcontrolled, hkey⟩ := h.controlled key before hget
      exact ⟨before, hget, ⟨hkeeps.controlled hcontrolled, hkeeps.key.trans hkey⟩, hkeeps.known⟩
    · exact ⟨hub, hub', h.controlled key' hub hub', fun id connection hid => ⟨connection, hid⟩⟩
  refine ⟨fun key' hub hub' => ?_, ?_, fun key' hub hub' id connection hid => ?_, ?_⟩
  · obtain ⟨-, -, hcontrolled, -⟩ := hold key' hub hub'
    exact hcontrolled
  · rw [hretired]
    exact h.retired
  · obtain ⟨old, hold, -, hknown⟩ := hold key' hub hub'
    obtain ⟨found, hfound⟩ := hknown id connection hid
    rw [hnextId]
    exact h.known key' old hold id found hfound
  · rw [hpending, hnextId]
    intro attach hattach
    refine ⟨(h.pending attach hattach).1, fun key' hub hub' => ?_⟩
    obtain ⟨old, hold, -, hknown⟩ := hold key' hub hub'
    cases hnone : hub.connections.get? attach.id with
    | none => rfl
    | some connection =>
      obtain ⟨found, hfound⟩ := hknown attach.id connection hnone
      rw [(h.pending attach hattach).2 key' old hold] at hfound
      cases hfound

theorem ControlInv.updateHub (key : HubKey)
    {change : RpcAttachmentHub Output → RpcAttachmentHub Output}
    (hkeeps : ∀ hub, Keeps hub (change hub)) : ControlInv (m.updateHub key change) := by
  unfold RpcAttachmentManager.updateHub
  split
  · exact h
  · rename_i hub hget
    exact h.set hget (hkeeps hub) rfl rfl rfl rfl

theorem ControlInv.retire (key : HubKey) : ControlInv (m.retire key) := by
  unfold RpcAttachmentManager.retire
  split
  · exact h
  rename_i hub hget
  refine ⟨fun key' other hother => ?_, ?_, fun key' other hother => ?_, fun attach hattach => ?_⟩
  · exact h.controlled key' other (get?_of_delete hother).2
  · intro other hother
    rcases mem_cons.mp hother with rfl | hother
    · exact (h.controlled key hub hget).1.dispose
    · exact h.retired other hother
  · exact h.known key' other (get?_of_delete hother).2
  · refine ⟨(h.pending attach hattach).1, fun key' other hother => ?_⟩
    exact (h.pending attach hattach).2 key' other (get?_of_delete hother).2

theorem ControlInv.retireAll (keys : List HubKey) :
    ControlInv (keys.foldl RpcAttachmentManager.retire m) := by
  induction keys generalizing m with
  | nil => exact h
  | cons key keys ih => exact ih (h.retire key)

theorem ControlInv.createHub (key : HubKey) : ControlInv (m.createHub key) := by
  have hold : ∀ key' hub, (m.createHub key).hubs.get? key' = some hub →
      (key' = key ∧ hub = .new m.hostInstanceId key m.nextEpoch) ∨
        m.hubs.get? key' = some hub := by
    intro key' hub hget
    simp only [RpcAttachmentManager.createHub, get?_set] at hget
    split at hget
    · rename_i heq
      cases hget
      exact Or.inl ⟨heq.symm, rfl⟩
    · exact Or.inr hget
  refine ⟨fun key' hub hget => ?_, h.retired, fun key' hub hget id connection hid => ?_,
    fun attach hattach => ⟨(h.pending attach hattach).1, fun key' hub hget => ?_⟩⟩
  · rcases hold key' hub hget with ⟨rfl, rfl⟩ | hget
    · exact ⟨controlled_new _ _ _, rfl⟩
    · exact h.controlled key' hub hget
  · rcases hold key' hub hget with ⟨-, rfl⟩ | hget
    · cases hid
    · exact h.known key' hub hget id connection hid
  · rcases hold key' hub hget with ⟨-, rfl⟩ | hget
    · rfl
    · exact (h.pending attach hattach).2 key' hub hget

theorem ControlInv.hub {key : HubKey} (hhub : m.hub limits key = some t) :
    ControlInv t := by
  unfold RpcAttachmentManager.hub at hhub
  split at hhub
  · cases hhub
    exact h
  split at hhub
  · split at hhub
    · cases hhub
    · cases hhub
      exact (h.retire _).createHub key
  · cases hhub
    exact h.createHub key

theorem ControlInv.attached {attach : PendingAttach} (hbound : attach.id < m.nextId)
    (hfresh : ∀ key hub, m.hubs.get? key = some hub → hub.connections.get? attach.id = none)
    (hpending : ∀ other ∈ m.pending, other.id ≠ attach.id) : ControlInv (m.attached attach) := by
  unfold RpcAttachmentManager.attached
  split
  · exact h
  rename_i hub hget
  split
  · have hold : ∀ key' other, (m.hubs.set attach.key (hub.add attach.id attach.protocol
        attach.requestedRole attach.requestedCursor attach.resumes)).get? key' = some other →
        (other.Controlled ∧ other.key = key') ∧ ∀ id connection,
          other.connections.get? id = some connection → id = attach.id ∨
            ∃ old before, m.hubs.get? key' = some old ∧ old.connections.get? id = some before := by
      intro key' other hother
      rw [get?_set] at hother
      split at hother
      · rename_i heq
        cases hother
        subst heq
        obtain ⟨hcontrolled, hkey⟩ := h.controlled _ hub hget
        refine ⟨⟨hcontrolled.add (hfresh _ hub hget) _ _ _ _, ?_⟩, fun id connection hid => ?_⟩
        · unfold RpcAttachmentHub.add
          split
          · exact hkey
          · exact hkey
        · rcases add_known hid with heq | ⟨before, hbefore⟩
          · exact Or.inl heq
          · exact Or.inr ⟨hub, before, hget, hbefore⟩
      · exact ⟨h.controlled key' other hother,
          fun id connection hid => Or.inr ⟨other, connection, hother, hid⟩⟩
    refine ⟨fun key' other hother => (hold key' other hother).1, h.retired,
      fun key' other hother id connection hid => ?_, fun pending hmem => ?_⟩
    · rcases (hold key' other hother).2 id connection hid with rfl | ⟨old, before, hold, hbefore⟩
      · exact hbound
      · exact h.known key' old hold id before hbefore
    · refine ⟨(h.pending pending hmem).1, fun key' other hother => ?_⟩
      cases hnone : other.connections.get? pending.id with
      | none => rfl
      | some connection =>
        rcases (hold key' other hother).2 pending.id connection hnone with
          heq | ⟨old, before, hold, hbefore⟩
        · exact absurd heq (hpending pending hmem)
        · rw [(h.pending pending hmem).2 key' old hold] at hbefore
          cases hbefore
  · exact h

theorem attachmentStep_controlInv {event : AttachmentEvent Output}
    (hstep : attachmentStep limits m event = some t) : ControlInv t := by
  cases event with
  | attach key =>
    obtain ⟨_, hstep⟩ := ite_none_left_eq_some.mp hstep
    obtain ⟨_, hstep⟩ := ite_none_left_eq_some.mp hstep
    obtain ⟨_, hstep⟩ := ite_none_left_eq_some.mp hstep
    obtain ⟨found, hfound, hstep⟩ := bind_eq_some_iff.mp hstep
    obtain ⟨hub, hget, hstep⟩ := bind_eq_some_iff.mp hstep
    obtain ⟨_, hstep⟩ := ite_none_left_eq_some.mp hstep
    cases hstep
    have hinv := h.hub hfound
    refine ⟨hinv.controlled, hinv.retired, fun key hub hget id connection hid => ?_,
      fun attach hattach => ?_⟩
    · exact Nat.lt_succ_of_lt (hinv.known key hub hget id connection hid)
    rcases mem_append.mp hattach with hattach | hattach
    · obtain ⟨hbound, hfresh⟩ := hinv.pending attach hattach
      exact ⟨Nat.lt_succ_of_lt hbound, hfresh⟩
    rw [mem_singleton] at hattach
    subst hattach
    refine ⟨Nat.lt_succ_self _, fun key hub hget => ?_⟩
    cases hnone : hub.connections.get? found.nextId with
    | none => rfl
    | some connection =>
      exact absurd (hinv.known key hub hget _ connection hnone) (Nat.lt_irrefl _)
  | lease id =>
    obtain ⟨attach, hfind, rfl⟩ := map_eq_some_iff.mp hstep
    have hmem := List.mem_of_find?_eq_some hfind
    have hid : attach.id = id := by simpa using List.find?_some hfind
    have hrest : ControlInv { m with pending := m.pending.filter fun attach => attach.id ≠ id } :=
      ⟨h.controlled, h.retired, h.known,
        fun other hother => h.pending other (mem_filter.mp hother).1⟩
    split
    · apply hrest.attached (h.pending attach hmem).1 (h.pending attach hmem).2
      intro other hother
      rw [hid]
      simpa using (mem_filter.mp hother).2
    · exact hrest
  | captured key id found =>
    cases hstep
    exact h.updateHub key fun hub => (quiet_captured hub id found).toKeeps
  | initializeFramed key id peers =>
    cases hstep
    exact h.updateHub key fun hub => keeps_initializeFramed peers hub id
  | message key id value ui peers =>
    obtain ⟨hub, hget, hstep⟩ := bind_eq_some_iff.mp hstep
    obtain ⟨connection, hconnection, rfl⟩ := map_eq_some_iff.mp hstep
    have hid := (h.controlled key hub hget).1.keyed id connection hconnection
    rw [← hid] at hconnection
    exact h.set hget (answers_onMessage peers limits hconnection ui value).quiet.toKeeps rfl rfl rfl rfl
  | responded key id outcome peers =>
    cases hstep
    exact h.updateHub key fun hub => (quiet_responded peers hub id outcome).toKeeps
  | publish key event bytes peers =>
    obtain ⟨hub, hget, rfl⟩ := map_eq_some_iff.mp hstep
    exact h.set hget (keeps_publish peers limits hub event bytes) rfl rfl rfl rfl
  | peerClosed key id =>
    cases hstep
    exact h.updateHub key fun hub => keeps_remove hub id
  | multiplexerEvent =>
    cases hstep
    exact h.retireAll _
  | dispose =>
    simp only [attachmentStep] at hstep
    split at hstep
    · cases hstep
      exact h
    cases hstep
    have hinv := h.retireAll m.hubs.keys
    exact ⟨hinv.controlled, hinv.retired, hinv.known, hinv.pending⟩

end

theorem controlInv_new (host : JsString) : ControlInv (new host : RpcAttachmentManager Output) := by
  constructor
  · rintro key hub ⟨⟩
  · rintro hub ⟨⟩
  · rintro key hub ⟨⟩
  · rintro _ ⟨⟩

/-! ## Dispatches -/

section
variable (m)

@[simp] theorem retire_dispatches (key : HubKey) : (m.retire key).dispatches = m.dispatches := by
  unfold RpcAttachmentManager.retire
  split <;> rfl

@[simp] theorem retireAll_dispatches (keys : List HubKey) :
    (keys.foldl RpcAttachmentManager.retire m).dispatches = m.dispatches := by
  induction keys generalizing m with
  | nil => rfl
  | cons key keys ih => simp [ih]

@[simp] theorem updateHub_dispatches (key : HubKey)
    (change : RpcAttachmentHub Output → RpcAttachmentHub Output) :
    (m.updateHub key change).dispatches = m.dispatches := by
  unfold RpcAttachmentManager.updateHub
  split <;> rfl

end

theorem hub_dispatches {key : HubKey} (hhub : m.hub limits key = some t) :
    t.dispatches = m.dispatches := by
  unfold RpcAttachmentManager.hub at hhub
  split at hhub
  · cases hhub
    rfl
  split at hhub
  · split at hhub
    · cases hhub
    · cases hhub
      simp [RpcAttachmentManager.createHub]
  · cases hhub
    rfl

/-- Only a message is handed on, and what only a controller may do is the controller's. -/
theorem attachmentStep_dispatches (h : ControlInv m) {event : AttachmentEvent Output}
    (hstep : attachmentStep limits m event = some t) :
    t.dispatches = m.dispatches ∨ ∃ dispatch, t.dispatches = m.dispatches ++ [dispatch] ∧
      (dispatch.exclusive = true → ∃ hub, m.hubs.get? dispatch.key = some hub ∧
        hub.controllerConnectionId = some dispatch.connectionId) := by
  cases event with
  | attach =>
    left
    obtain ⟨_, hstep⟩ := ite_none_left_eq_some.mp hstep
    obtain ⟨_, hstep⟩ := ite_none_left_eq_some.mp hstep
    obtain ⟨_, hstep⟩ := ite_none_left_eq_some.mp hstep
    obtain ⟨_, hfound, hstep⟩ := bind_eq_some_iff.mp hstep
    obtain ⟨hub, hget, hstep⟩ := bind_eq_some_iff.mp hstep
    obtain ⟨_, hstep⟩ := ite_none_left_eq_some.mp hstep
    cases hstep
    have hsame := hub_dispatches hfound
    exact hsame
  | lease =>
    obtain ⟨attach, _, rfl⟩ := map_eq_some_iff.mp hstep
    left
    simp only [RpcAttachmentManager.attached]
    split
    · split
      · rfl
      · split <;> rfl
    · rfl
  | message key id value ui peers =>
    obtain ⟨hub, hget, hstep⟩ := bind_eq_some_iff.mp hstep
    obtain ⟨connection, hconnection, rfl⟩ := map_eq_some_iff.mp hstep
    obtain ⟨hcontrolled, hkey⟩ := h.controlled key hub hget
    have hid := hcontrolled.keyed id connection hconnection
    rw [← hid] at hconnection
    have hanswers := answers_onMessage peers limits hconnection ui value
    cases hresult : (hub.onMessage limits peers ui connection value).2 with
    | none =>
      left
      simp [hresult]
    | some dispatch =>
      right
      obtain ⟨hdispatchKey, hdispatchId, hrole⟩ := hanswers.dispatch dispatch hresult
      refine ⟨dispatch, by simp [hresult], fun hexclusive => ⟨hub, ?_, ?_⟩⟩
      · rw [hdispatchKey, hkey]
        exact hget
      · rw [hdispatchId]
        exact (hcontrolled.named connection.id connection hconnection).mp (hrole hexclusive)
  | publish =>
    obtain ⟨hub, hget, rfl⟩ := map_eq_some_iff.mp hstep
    exact Or.inl rfl
  | captured | initializeFramed | responded | peerClosed | multiplexerEvent =>
    cases hstep
    left
    simp
  | dispose =>
    simp only [attachmentStep] at hstep
    left
    split at hstep
    · cases hstep
      rfl
    · cases hstep
      simp

end

/-- **One controller.** In every run each hub has at most one controller, the registered
connection that it names, and a command that is not read only or a tree navigation is handed
on for the controller alone. -/
theorem controller_exclusive {Output : Type} (limits : RpcAttachmentLimits) (host : JsString)
    (events : List (AttachmentEvent Output)) {m : RpcAttachmentManager Output}
    (hrun : run (attachmentStep limits) (new host) events = some m) :
    (∀ key hub, m.hubs.get? key = some hub → hub.SingleController) ∧
      (∀ hub ∈ m.retired, hub.SingleController) ∧
        ∀ event t, attachmentStep limits m event = some t →
          t.dispatches = m.dispatches ∨ ∃ dispatch, t.dispatches = m.dispatches ++ [dispatch] ∧
            (dispatch.exclusive = true → ∃ hub, m.hubs.get? dispatch.key = some hub ∧
              hub.controllerConnectionId = some dispatch.connectionId) := by
  have hinv : ControlInv m := by
    apply run_invariant _ (controlInv_new host) hrun
    intro m event t h hstep
    exact attachmentStep_controlInv h hstep
  refine ⟨fun key hub hget => (hinv.controlled key hub hget).1.singleController,
    fun hub hmem => (hinv.retired hub hmem).singleController, fun event t hstep => ?_⟩
  exact attachmentStep_dispatches hinv hstep

/-- A controller and an observer of the session `s`. -/
def controlled : List (AttachmentEvent Nat) :=
  [.attach ⟨text "s", 0⟩ .framed .controller none, .lease 0 true,
    .attach ⟨text "s", 0⟩ .framed .controller none, .lease 1 true]

/-- The command `prompt` in its frame. -/
def promptFrame : ClientValue :=
  .record (some (text "command")) none none none none
    (.record none (some (text "prompt")) none none none .other .other .other) .other .other

def controlLimits : RpcAttachmentLimits := ⟨2, 4, 1000, 8⟩

theorem controller_exclusive_prompt :
    ∃ m t : RpcAttachmentManager Nat,
      run (attachmentStep controlLimits) (new (text "h")) controlled = some m ∧
      attachmentStep controlLimits m (.message ⟨text "s", 0⟩ 0 (some promptFrame) .unknown .open) =
        some t ∧
      t.dispatches = [⟨⟨text "s", 0⟩, 0, true⟩] ∧
      ∀ key hub, m.hubs.get? key = some hub → hub.SingleController := by
  obtain ⟨m, hrun, t, hstep, ht⟩ :
      ∃ m, run (attachmentStep controlLimits) (new (text "h")) controlled = some m ∧
        ∃ t, attachmentStep controlLimits m
            (.message ⟨text "s", 0⟩ 0 (some promptFrame) .unknown .open) = some t ∧
          t.dispatches = [⟨⟨text "s", 0⟩, 0, true⟩] := by
    decide +kernel
  exact ⟨m, t, hrun, hstep, ht, (controller_exclusive controlLimits (text "h") controlled hrun).1⟩

end RpcAttachmentManager

end PiDaemon.Rpc
