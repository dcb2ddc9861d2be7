import Mathlib.Algebra.GroupWithZero.Nat
import PiDaemon.Protocol.BoundedLine
import PiDaemon.Protocol.WebSocket

/-!
# The outbound queue of a WebSocket peer

Messages, pings and answers to pings go through one bounded queue.  What the socket makes of a write
is up to the environment: whether it wants more, and how many bytes it has passed on since.  The
calls of a handler, and what else happens between two frames of a chunk, are events of their own.

* `Sender.Sound`: what the queue, its size and the flags have to do with each other;
* `sender_sound`: it holds in every run, and nothing is accepted beyond the bound.
-/

namespace PiDaemon.Protocol

open Lib

/-- The socket of a peer, and what it was given. -/
structure Duplex where
  writableLength : Nat
  /-- The arguments of the calls of `write`. -/
  written : List (List UInt8)
  /-- The argument of `end`. -/
  ended : Option (List UInt8)
  destroyed : Bool
  deriving DecidableEq

/-- A `WebSocketPeer`, as far as it sends. -/
structure Sender where
  socket : Duplex
  queue : List (List UInt8)
  queuedBytes : Nat
  blocked : Bool
  closed : Bool
  awaitingPong : Bool
  /-- The interval of the pings runs. -/
  keepAlive : Bool
  /-- There is a handler `onClose`. -/
  onClose : Bool
  /-- The calls of `onClose`. -/
  closeCalls : Nat
  /-- The frames that `#enqueue` has accepted. -/
  accepted : List (List UInt8)
  deriving DecidableEq

/-- `socket.write(value)` -/
def Duplex.write (socket : Duplex) (value : List UInt8) : Duplex :=
  { socket with
    writableLength := socket.writableLength + value.length
    written := socket.written ++ [value] }

namespace Sender

/-- A new peer, whose socket has been given the answer to the handshake. -/
def new (writableLength : Nat) : Sender :=
  { socket := ⟨writableLength, [], none, false⟩
    queue := []
    queuedBytes := 0
    blocked := false
    closed := false
    awaitingPong := false
    keepAlive := true
    onClose := false
    closeCalls := 0
    accepted := [] }

def setHandlers (s : Sender) : Sender := { s with onClose := true }

/-- `this.#onClose?.(); this.#onClose = undefined` -/
def callOnClose (s : Sender) : Sender :=
  { s with
    closeCalls := if s.onClose then s.closeCalls + 1 else s.closeCalls
    onClose := false }

/-- The peer is closed and its queue forgotten. -/
def shut (s : Sender) : Sender :=
  { s with
    closed := true
    keepAlive := false
    queue := []
    queuedBytes := 0 }

/-- The payload of a close frame. -/
def closePayload (code : Nat) (reason : JsString) : List UInt8 :=
  (code / 0x100).toUInt8 :: code.toUInt8 :: (utf8Encode reason).take 123

/-- `close`; `writeUInt16BE` throws for a code of more than 16 bits. -/
def close (s : Sender) (code : Nat) (reason : JsString) : Sender :=
  if s.closed then s
  else if code > 0xffff then s
  else
    let s := s.shut
    { s with socket := { s.socket with ended := some (frame 0x8 (closePayload code reason)) } }.callOnClose

def terminate (s : Sender) : Sender :=
  if s.closed then s
  else
    let s := s.shut
    { s with socket := { s.socket with destroyed := true } }.callOnClose

def finish (s : Sender) : Sender := if s.closed then s else s.shut.callOnClose

section
variable (limits : WebSocketLimits)

/-- `#enqueue`; `more` is the answer of the socket to a write. -/
def enqueue (s : Sender) (value : List UInt8) (more : Bool) : Sender × Bool :=
  if s.closed then (s, false)
  else if s.socket.writableLength + s.queuedBytes + value.length > limits.maxOutboundBytes then (s, false)
  else
    let s := { s with accepted := s.accepted ++ [value] }
    if ¬ s.blocked ∧ s.queue = [] then ({ s with socket := s.socket.write value, blocked := !more }, true)
    else ({ s with queue := s.queue ++ [value], queuedBytes := s.queuedBytes + value.length }, true)

/-- `if (!this.#enqueue(value)) this.#terminate()` -/
def enqueueOrTerminate (s : Sender) (value : List UInt8) (more : Bool) : Sender :=
  let (s, accepted) := s.enqueue limits value more
  if accepted then s else s.terminate

def sendJson {N : Type} (format : NumberFormat N) (s : Sender) (value : JsValue N) (more : Bool) :
    Sender × Option EncodeError :=
  if s.closed then (s, none)
  else
    match encodeBoundedLine format value limits.maxMessageBytes with
    | .error error => (s, some error)
    | .ok line => (s.enqueueOrTerminate limits (frame 0x1 line.dropLast) more, none)

def ping (s : Sender) (nonce : List UInt8) (more : Bool) : Sender :=
  if s.closed then s
  else if s.awaitingPong then s.close 1001 (text "keepalive timeout")
  else { s with awaitingPong := true }.enqueueOrTerminate limits (frame 0x9 nonce) more

end

/-- The loop of `#flush` over the queue; `more i` is the answer of the socket to the write number `i`. -/
def flushFrom (more : Nat → Bool) : Nat → List (List UInt8) → Sender → Sender
  | _, [], s => { s with queue := [] }
  | i, next :: rest, s =>
    if s.blocked then { s with queue := next :: rest }
    else
      flushFrom more (i + 1) rest
        { s with
          queuedBytes := s.queuedBytes - next.length
          socket := s.socket.write next
          blocked := !more i }

def flush (s : Sender) (more : Nat → Bool) : Sender :=
  if s.closed ∧ s.queue = [] then s
  else flushFrom more 0 s.queue { s with blocked := false }

end Sender

/-- The control frames of the other side that the queue has to do with. -/
inductive ControlFrame where
  | closing
  | ping (payload : List UInt8)
  | pong
  /-- Anything that `#read` throws for. -/
  | invalid
  deriving DecidableEq

inductive SenderEvent (N : Type) where
  | setHandlers
  | sendJson (value : JsValue N) (more : Bool)
  | close (code : Nat) (reason : JsString)
  | terminate
  /-- The interval of the pings. -/
  | tick (nonce : List UInt8) (more : Bool)
  | receive (frame : ControlFrame) (more : Bool)
  | drain (more : Nat → Bool)
  /-- `close`, `end` or `error` of the socket. -/
  | gone
  /-- The socket has other bytes left to pass on. -/
  | settle (writableLength : Nat)

section
variable {N : Type} (limits : WebSocketLimits) (format : NumberFormat N)

/-- A frame of the other side, which a closed peer does not read. -/
def Sender.receive (s : Sender) (received : ControlFrame) (more : Bool) : Sender :=
  if s.closed then s
  else
    match received with
    | .closing => s.close 1000 []
    | .ping payload => s.enqueueOrTerminate limits (frame 0xa payload) more
    | .pong => { s with awaitingPong := false }
    | .invalid => s.close 1002 (text "invalid WebSocket frame")

def senderStep (s : Sender) : SenderEvent N → Option Sender
  | .setHandlers => some s.setHandlers
  | .sendJson value more => some (s.sendJson limits format value more).1
  | .close code reason => some (s.close code reason)
  | .terminate => some s.terminate
  | .tick nonce more => if s.keepAlive then some (s.ping limits nonce more) else none
  | .receive received more => some (s.receive limits received more)
  | .drain more => some (s.flush more)
  | .gone => some s.finish
  | .settle writableLength => some { s with socket := { s.socket with writableLength } }

end

/-! ## The invariant -/

/-- The total size of frames. -/
def totalBytes (frames : List (List UInt8)) : Nat := (frames.map List.length).sum

namespace Sender

structure Sound (s : Sender) : Prop where
  /-- Before a close, what was accepted has been written or waits, in its order. -/
  waiting : s.closed = false → s.accepted = s.socket.written ++ s.queue
  written : s.socket.written <+: s.accepted
  queuedBytes : s.queuedBytes = totalBytes s.queue
  blocked : s.queue ≠ [] → s.blocked = true
  forgotten : s.closed = true → s.queue = []
  onClose : s.closeCalls ≤ 1
  notCalled : s.closed = false → s.closeCalls = 0

theorem sound_new (writableLength : Nat) : (new writableLength).Sound :=
  ⟨fun _ => rfl, List.prefix_refl _, rfl, fun h => absurd rfl h, (fun h => by cases h), Nat.zero_le _, fun _ => rfl⟩

/-- A step that accepts a frame stays within the bound. -/
def Within (limits : WebSocketLimits) (s s' : Sender) : Prop :=
  s'.accepted ≠ s.accepted → s'.socket.writableLength + s'.queuedBytes ≤ limits.maxOutboundBytes

variable {limits : WebSocketLimits} {s : Sender}

theorem Within.same {s s' : Sender} (h : s'.accepted = s.accepted) : Within limits s s' :=
  fun hne => absurd h hne

/-! ### Closing -/

/-- What closing does to a peer. -/
structure Closes (s s' : Sender) : Prop where
  closed : s'.closed = true
  queue : s'.queue = []
  queuedBytes : s'.queuedBytes = 0
  accepted : s'.accepted = s.accepted
  written : s'.socket.written = s.socket.written
  closeCalls : s'.closeCalls ≤ s.closeCalls + 1

theorem closes_callOnClose {s s' : Sender} (hclosed : s'.closed = true) (hqueue : s'.queue = [])
    (hbytes : s'.queuedBytes = 0) (haccepted : s'.accepted = s.accepted)
    (hwritten : s'.socket.written = s.socket.written) (hcalls : s'.closeCalls = s.closeCalls) :
    Closes s s'.callOnClose := by
  refine ⟨hclosed, hqueue, hbytes, haccepted, hwritten, ?_⟩
  simp only [callOnClose]
  split <;> omega

theorem close_cases (s : Sender) (code : Nat) (reason : JsString) :
    s.close code reason = s ∨ s.closed = false ∧ Closes s (s.close code reason) := by
  unfold close
  cases hclosed : s.closed with
  | true => exact .inl rfl
  | false =>
    rw [if_neg Bool.false_ne_true]
    split
    · exact .inl rfl
    · exact .inr ⟨rfl, closes_callOnClose rfl rfl rfl rfl rfl rfl⟩

theorem terminate_cases (s : Sender) : s.terminate = s ∨ s.closed = false ∧ Closes s s.terminate := by
  unfold terminate
  cases hclosed : s.closed with
  | true => exact .inl rfl
  | false =>
    exact .inr ⟨rfl, closes_callOnClose rfl rfl rfl rfl rfl rfl⟩

theorem finish_cases (s : Sender) : s.finish = s ∨ s.closed = false ∧ Closes s s.finish := by
  unfold finish
  cases hclosed : s.closed with
  | true => exact .inl rfl
  | false =>
    exact .inr ⟨rfl, closes_callOnClose rfl rfl rfl rfl rfl rfl⟩

theorem Sound.closes {s s' : Sender} (h : s.Sound) (hs : s' = s ∨ s.closed = false ∧ Closes s s') : s'.Sound := by
  rcases hs with rfl | ⟨hopen, hs⟩
  · exact h
  have hcalls := hs.closeCalls
  rw [h.notCalled hopen] at hcalls
  refine ⟨fun hne => ?_, ?_, ?_, fun hne => absurd hs.queue hne, fun _ => hs.queue, hcalls, fun hne => ?_⟩
  · rw [hs.closed] at hne
    cases hne
  · rw [hs.written, hs.accepted]
    exact h.written
  · rw [hs.queue, hs.queuedBytes]
    rfl
  · rw [hs.closed] at hne
    cases hne

theorem accepted_closes {s s' : Sender} (hs : s' = s ∨ s.closed = false ∧ Closes s s') :
    s'.accepted = s.accepted := by
  rcases hs with rfl | ⟨-, hs⟩
  · rfl
  · exact hs.accepted

/-! ### Accepting -/

theorem Sound.enqueue (limits : WebSocketLimits) (h : s.Sound) (value : List UInt8) (more : Bool) :
    (s.enqueue limits value more).1.Sound ∧ Within limits s (s.enqueue limits value more).1 := by
  unfold Sender.enqueue
  split
  · exact ⟨h, .same rfl⟩
  rename_i hnot
  have hclosed : s.closed = false := Bool.eq_false_iff.mpr hnot
  have hwaiting := h.waiting hclosed
  split
  · exact ⟨h, .same rfl⟩
  dsimp only
  split
  · rename_i hdirect
    have hqueue : s.queue = [] := hdirect.2
    refine ⟨⟨fun _ => ?_, ?_, h.queuedBytes, fun hne => absurd hqueue hne, fun _ => hqueue, h.onClose, h.notCalled⟩,
      fun _ => ?_⟩
    · simp [Duplex.write, hwaiting, hqueue]
    · simp [Duplex.write, hwaiting, hqueue]
    · simp only [Duplex.write]
      omega
  · rename_i hqueued
    refine ⟨⟨fun _ => ?_, h.written.trans (List.prefix_append _ _), ?_, fun _ => ?_, fun hyes => ?_, h.onClose,
      h.notCalled⟩, fun _ => ?_⟩
    · rw [hwaiting, List.append_assoc]
    · simp [totalBytes, h.queuedBytes]
    · by_contra hfree
      have hempty : s.queue ≠ [] := fun hempty => hqueued ⟨hfree, hempty⟩
      exact hfree (h.blocked hempty)
    · rw [hclosed] at hyes
      cases hyes
    · dsimp only
      omega

theorem enqueue_refused {value : List UInt8} {more : Bool} (h : (s.enqueue limits value more).2 = false) :
    (s.enqueue limits value more).1 = s := by
  unfold enqueue at h ⊢
  split
  · rfl
  rename_i hopen
  rw [if_neg hopen] at h
  split
  · rfl
  rename_i hfits
  rw [if_neg hfits] at h
  dsimp only at h
  split at h <;> cases h

theorem Sound.enqueueOrTerminate (h : s.Sound) (value : List UInt8) (more : Bool) :
    (s.enqueueOrTerminate limits value more).Sound ∧ Within limits s (s.enqueueOrTerminate limits value more) := by
  obtain ⟨hsound, hwithin⟩ := h.enqueue limits value more
  unfold Sender.enqueueOrTerminate
  cases hflag : (s.enqueue limits value more).2 with
  | true => simpa [hflag] using ⟨hsound, hwithin⟩
  | false =>
    have hsame := enqueue_refused hflag
    simp only [hflag, Bool.false_eq_true, if_false, hsame]
    exact ⟨h.closes (terminate_cases s), .same (accepted_closes (terminate_cases s))⟩

/-! ### Flushing -/

theorem flushFrom_sound {more : Nat → Bool} {queue : List (List UInt8)} {i : Nat} (hopen : s.closed = false)
    (hwaiting : s.accepted = s.socket.written ++ queue) (hbytes : s.queuedBytes = totalBytes queue)
    (hcalls : s.closeCalls = 0) :
    (flushFrom more i queue s).Sound ∧ (flushFrom more i queue s).accepted = s.accepted := by
  induction queue generalizing i s with
  | nil =>
    refine ⟨⟨fun _ => hwaiting, ?_, hbytes, fun hne => absurd rfl hne, fun _ => rfl, by simp [flushFrom, hcalls],
      fun _ => hcalls⟩, rfl⟩
    rw [flushFrom, hwaiting]
    exact List.prefix_append _ _
  | cons next queue ih =>
    rw [flushFrom]
    split
    · rename_i hblocked
      refine ⟨⟨fun _ => hwaiting, ?_, hbytes, fun _ => hblocked, fun hyes => ?_, by simp [hcalls], fun _ => hcalls⟩,
        rfl⟩
      · rw [hwaiting]
        exact List.prefix_append _ _
      · rw [hopen] at hyes
        cases hyes
    · refine ih hopen ?_ ?_ hcalls
      · rw [hwaiting, Duplex.write, List.append_assoc]
        rfl
      · simp only [totalBytes, List.map_cons, List.sum_cons] at hbytes ⊢
        omega

theorem Sound.flush (h : s.Sound) (more : Nat → Bool) :
    (s.flush more).Sound ∧ (s.flush more).accepted = s.accepted := by
  unfold Sender.flush
  split
  · exact ⟨h, rfl⟩
  rename_i hactive
  have hopen : s.closed = false := by
    rw [← Bool.not_eq_true]
    exact fun hclosed => hactive ⟨hclosed, h.forgotten hclosed⟩
  exact flushFrom_sound hopen (h.waiting hopen) h.queuedBytes (h.notCalled hopen)

/-! ### Runs -/

theorem Sound.ping (h : s.Sound) (nonce : List UInt8) (more : Bool) :
    (s.ping limits nonce more).Sound ∧ Within limits s (s.ping limits nonce more) := by
  unfold Sender.ping
  split
  · exact ⟨h, .same rfl⟩
  split
  · exact ⟨h.closes (close_cases s _ _), .same (accepted_closes (close_cases s _ _))⟩
  have hawaiting : Sound { s with awaitingPong := true } :=
    ⟨h.waiting, h.written, h.queuedBytes, h.blocked, h.forgotten, h.onClose, h.notCalled⟩
  exact hawaiting.enqueueOrTerminate _ more

theorem Sound.sendJson {N : Type} (format : NumberFormat N) (h : s.Sound) (value : JsValue N) (more : Bool) :
    (s.sendJson limits format value more).1.Sound ∧ Within limits s (s.sendJson limits format value more).1 := by
  unfold Sender.sendJson
  split
  · exact ⟨h, .same rfl⟩
  cases encodeBoundedLine format value limits.maxMessageBytes with
  | error => exact ⟨h, .same rfl⟩
  | ok => exact h.enqueueOrTerminate _ more

theorem Sound.receive (h : s.Sound) (received : ControlFrame) (more : Bool) :
    (s.receive limits received more).Sound ∧ Within limits s (s.receive limits received more) := by
  unfold Sender.receive
  split
  · exact ⟨h, .same rfl⟩
  cases received with
  | closing | invalid =>
    exact ⟨h.closes (close_cases s _ _), .same (accepted_closes (close_cases s _ _))⟩
  | ping => exact h.enqueueOrTerminate _ more
  | pong =>
    exact ⟨⟨h.waiting, h.written, h.queuedBytes, h.blocked, h.forgotten, h.onClose, h.notCalled⟩, .same rfl⟩

theorem Sound.step {N : Type} {format : NumberFormat N} {s s' : Sender} {event : SenderEvent N} (h : s.Sound)
    (hs : senderStep limits format s event = some s') : s'.Sound ∧ Within limits s s' := by
  cases event with
  | setHandlers | settle =>
    cases hs
    exact ⟨⟨h.waiting, h.written, h.queuedBytes, h.blocked, h.forgotten, h.onClose, h.notCalled⟩, .same rfl⟩
  | sendJson value more =>
    cases hs
    exact h.sendJson format value more
  | close =>
    cases hs
    exact ⟨h.closes (close_cases s _ _), .same (accepted_closes (close_cases s _ _))⟩
  | terminate =>
    cases hs
    exact ⟨h.closes (terminate_cases s), .same (accepted_closes (terminate_cases s))⟩
  | tick nonce more =>
    rw [senderStep, Option.ite_none_right_eq_some] at hs
    cases hs.2
    exact h.ping nonce more
  | receive received more =>
    cases hs
    exact h.receive received more
  | drain more =>
    cases hs
    obtain ⟨hsound, hsame⟩ := h.flush more
    exact ⟨hsound, .same hsame⟩
  | gone =>
    cases hs
    exact ⟨h.closes (finish_cases s), .same (accepted_closes (finish_cases s))⟩

end Sender

/-- **The outbound queue**, in every run of a peer. -/
theorem sender_sound {N : Type} (limits : WebSocketLimits) (format : NumberFormat N) {writableLength : Nat}
    {events : List (SenderEvent N)} {s : Sender}
    (hrun : run (senderStep limits format) (Sender.new writableLength) events = some s) :
    s.Sound ∧ ∀ event s', senderStep limits format s event = some s' → Sender.Within limits s s' := by
  have keep (s : Sender) (event : SenderEvent N) (s' : Sender) (h : s.Sound)
      (hs : senderStep limits format s event = some s') : s'.Sound := (h.step hs).1
  have hsound : s.Sound := run_invariant keep (Sender.sound_new writableLength) hrun
  exact ⟨hsound, fun _ _ hs => (hsound.step hs).2⟩

/-- A message is written, an answer waits for the drain, a ping for the next one, and no pong comes. -/
def blockedEvents : List (SenderEvent Unit) :=
  [.setHandlers, .sendJson (.string (text "hi")) false, .receive (.ping [1]) true, .settle 0, .drain fun _ => false,
    .tick [1, 2, 3, 4] true, .tick [5, 6, 7, 8] true]

theorem sender_sound_blocked : ∃ s, run (senderStep smallLimits zeroFormat) (Sender.new 0) blockedEvents = some s ∧
    s.accepted.length = 3 ∧ s.socket.written.length = 2 ∧ s.queue = [] ∧ s.closeCalls = 1 ∧ s.Sound := by
  obtain ⟨s, hs, haccepted, hwritten, hqueue, hcalls⟩ :
      ∃ s, run (senderStep smallLimits zeroFormat) (Sender.new 0) blockedEvents = some s ∧
        s.accepted.length = 3 ∧ s.socket.written.length = 2 ∧ s.queue = [] ∧ s.closeCalls = 1 := by
    decide +kernel
  exact ⟨s, hs, haccepted, hwritten, hqueue, hcalls, (sender_sound smallLimits zeroFormat hs).1⟩

end PiDaemon.Protocol
