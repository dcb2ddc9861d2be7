import Mathlib.Data.List.Basic
import PiDaemon.Lib.Runs

/-!
# WebSocket frames

The inbound side of a WebSocket peer: chunks are collected in a buffer, complete
frames are taken off it, and the fragments of a message are put together.  The
decoder of UTF-8 text is a parameter.  A ping is answered through the bounded
outbound queue, and a peer whose answer does not fit there is terminated; what
the socket does with the bytes written to it is chosen by the events of a run.

* `parseFrame_append`: what is read off a buffer does not depend on what follows;
* `read_append`: two chunks are read like one;
* `run_inbound`: a run that is not terminated has read its chunks as one.
-/

namespace PiDaemon.Protocol

open Lib List Option Nat

structure WebSocketLimits where
  /-- A safe integer. -/
  maxMessageBytes : Nat
  maxOutboundBytes : Nat
  /-- The high-water mark of the socket. -/
  highWaterMark : Nat
  maxMessageBytes_safe : maxMessageBytes ≤ 9007199254740991

/-! ## Frames -/

inductive Parsed where
  /-- The buffer holds no complete frame. -/
  | partialFrame
  | invalid
  | frame (opcode : Nat) (fin : Bool) (payload rest : List UInt8)
  deriving DecidableEq

/-- `payload[index] ^ mask[index % 4]` -/
def unmaskFrom (mask : List UInt8) (index : Nat) : List UInt8 → List UInt8
  | [] => []
  | byte :: rest => (byte ^^^ mask.getD (index % 4) 0) :: unmaskFrom mask (index + 1) rest

def unmask (mask payload : List UInt8) : List UInt8 := unmaskFrom mask 0 payload

/-- The part of `#parseFrame` after the length of the payload is known. -/
def parsePayload (maxMessageBytes opcode : Nat) (fin : Bool) (length : Nat) (body : List UInt8) :
    Parsed :=
  if opcode ≥ 8 ∧ (fin = false ∨ length > 125) then .invalid
  else if length > maxMessageBytes then .invalid
  else if body.length < 4 + length then .partialFrame
  else
    .frame opcode fin (unmask (body.take 4) ((body.drop 4).take length)) (body.drop (4 + length))

def bigEndian (bytes : List UInt8) : Nat := bytes.foldl (fun n byte => n * 256 + byte.toNat) 0

/-- `#parseFrame`, as far as it reads the buffer. -/
def parseFrame (maxMessageBytes : Nat) : List UInt8 → Parsed
  | first :: second :: tail =>
    let fin := first.toNat ≥ 0x80
    let opcode := first.toNat % 0x10
    let length := second.toNat % 0x80
    if first.toNat / 0x10 % 8 ≠ 0 then .invalid
    else if second.toNat < 0x80 then .invalid
    else if length = 126 then
      if tail.length < 2 then .partialFrame
      else parsePayload maxMessageBytes opcode fin (bigEndian (tail.take 2)) (tail.drop 2)
    else if length = 127 then
      if tail.length < 8 then .partialFrame
      else if bigEndian (tail.take 4) > 0x1fffff then .invalid
      else parsePayload maxMessageBytes opcode fin (bigEndian (tail.take 8)) (tail.drop 8)
    else parsePayload maxMessageBytes opcode fin length tail
  | _ => .partialFrame

/-- `frame(opcode, payload)` -/
def frame (opcode : Nat) (payload : List UInt8) : List UInt8 :=
  let length := payload.length
  let first := (0x80 + opcode).toUInt8
  if length < 126 then first :: length.toUInt8 :: payload
  else if length ≤ 0xffff then
    first :: 126 :: (length / 0x100).toUInt8 :: length.toUInt8 :: payload
  else
    first :: 127 :: 0 :: 0 :: 0 :: 0 :: (length / 0x1000000).toUInt8 :: (length / 0x10000).toUInt8 ::
      (length / 0x100).toUInt8 :: length.toUInt8 :: payload

/-! ## The peer -/

inductive CloseOutcome where
  /-- `close(code, …)` -/
  | closed (code : Nat)
  /-- `#terminate` -/
  | terminated
  /-- `#finish` -/
  | finished
  deriving DecidableEq

/-- What a peer has received; `messages` are the calls of `onMessage`. -/
structure Inbound (T : Type) where
  buffer : List UInt8
  fragmentOpcode : Option Nat
  fragmentBytes : Nat
  fragments : List (List UInt8)
  outcome : Option CloseOutcome
  messages : List T
  deriving DecidableEq

structure Outbound where
  writableLength : Nat
  blocked : Bool
  queue : List (List UInt8)
  queuedBytes : Nat
  deriving DecidableEq

structure WebSocketPeer (T : Type) where
  inbound : Inbound T
  outbound : Outbound
  awaitingPong : Bool
  deriving DecidableEq

section
variable {T : Type}

def Inbound.new : Inbound T := ⟨[], none, 0, [], none, []⟩

def WebSocketPeer.new : WebSocketPeer T := ⟨Inbound.new, ⟨0, false, [], 0⟩, false⟩

namespace Inbound

def closed (s : Inbound T) : Bool := s.outcome.isSome

def close (s : Inbound T) (outcome : CloseOutcome) : Inbound T :=
  if s.closed then s else { s with outcome := some outcome }

/-- The part of `#handleFrame` for text and continuation frames; `none` is a throw. -/
def handleData (maxMessageBytes : Nat) (decode : List UInt8 → Option T) (s : Inbound T)
    (opcode : Nat) (fin : Bool) (payload : List UInt8) : Option (Inbound T) :=
  if opcode = 0 ∧ s.fragmentOpcode = none then none
  else if opcode = 1 ∧ s.fragmentOpcode ≠ none then none
  else
    let fragmentBytes := s.fragmentBytes + payload.length
    if fragmentBytes > maxMessageBytes then none
    else
      let s := { s with
        fragmentOpcode := if opcode = 1 then some 1 else s.fragmentOpcode
        fragmentBytes := fragmentBytes
        fragments := s.fragments ++ [payload] }
      if ¬ fin then some s
      else
        match decode s.fragments.flatten with
        | none => none
        | some text =>
          some { s with
            fragmentOpcode := none, fragmentBytes := 0, fragments := []
            messages := s.messages ++ [text] }

end Inbound

namespace Outbound

/-- `socket.write(value)` -/
def write (limits : WebSocketLimits) (out : Outbound) (value : List UInt8) : Outbound :=
  { out with
    writableLength := out.writableLength + value.length
    blocked := out.writableLength + value.length ≥ limits.highWaterMark }

/-- `#enqueue`; `none` when the value does not fit. -/
def enqueue (limits : WebSocketLimits) (out : Outbound) (value : List UInt8) : Option Outbound :=
  if out.writableLength + out.queuedBytes + value.length > limits.maxOutboundBytes then none
  else if ¬ out.blocked ∧ out.queue = [] then some (out.write limits value)
  else
    some { out with queue := out.queue ++ [value], queuedBytes := out.queuedBytes + value.length }

/-- The loop of `#flush`. -/
def flushFrom (limits : WebSocketLimits) : List (List UInt8) → Outbound → Outbound
  | [], out => { out with queue := [] }
  | value :: rest, out =>
    if out.blocked then { out with queue := value :: rest }
    else
      flushFrom limits rest
        (({ out with queuedBytes := out.queuedBytes - value.length } : Outbound).write limits value)

def flush (limits : WebSocketLimits) (out : Outbound) : Outbound :=
  flushFrom limits out.queue { out with blocked := false }

end Outbound

namespace WebSocketPeer

variable (limits : WebSocketLimits) (decode : List UInt8 → Option T)

/-- `close`, `#terminate` and `#finish` forget the queue. -/
def close (s : WebSocketPeer T) (outcome : CloseOutcome) : WebSocketPeer T :=
  if s.inbound.closed then s
  else
    { s with
      inbound := s.inbound.close outcome
      outbound := { s.outbound with queue := [], queuedBytes := 0 } }

/-- `#handleFrame`; `none` is a throw. -/
def handleFrame (s : WebSocketPeer T) (opcode : Nat) (fin : Bool) (payload : List UInt8) :
    Option (WebSocketPeer T) :=
  if opcode = 8 then some (s.close (.closed 1000))
  else if opcode = 9 then
    match s.outbound.enqueue limits (frame 0x0a payload) with
    | none => some (s.close .terminated)
    | some outbound => some { s with outbound := outbound }
  else if opcode = 10 then some { s with awaitingPong := false }
  else if opcode ≠ 0 ∧ opcode ≠ 1 then none
  else
    (s.inbound.handleData limits.maxMessageBytes decode opcode fin payload).map fun inbound =>
      { s with inbound := inbound }

/-- `sendJson`, with the encoded value. -/
def send (s : WebSocketPeer T) (encoded : List UInt8) : WebSocketPeer T :=
  if s.inbound.closed then s
  else
    match s.outbound.enqueue limits (frame 0x1 encoded) with
    | none => s.close .terminated
    | some outbound => { s with outbound := outbound }

/-- The loop of `#read`; a throw closes the peer. -/
def readFrames : Nat → WebSocketPeer T → WebSocketPeer T
  | 0, s => s
  | n + 1, s =>
    match parseFrame limits.maxMessageBytes s.inbound.buffer with
    | .partialFrame => s
    | .invalid => s.close (.closed 1002)
    | .frame opcode fin payload rest =>
      let s := { s with inbound := { s.inbound with buffer := rest } }
      match s.handleFrame limits decode opcode fin payload with
      | none => s.close (.closed 1002)
      | some s => if s.inbound.closed then s else readFrames n s

def read (s : WebSocketPeer T) (chunk : List UInt8) : WebSocketPeer T :=
  if s.inbound.closed then s
  else
    let buffer := s.inbound.buffer ++ chunk
    let s := readFrames limits decode (buffer.length + 1)
      { s with inbound := { s.inbound with buffer := buffer } }
    if s.inbound.buffer.length > limits.maxMessageBytes + 14 then s.close (.closed 1002) else s

end WebSocketPeer

/-- The chunks that a peer reads, and what else its socket does. -/
inductive WebSocketEvent where
  | data (chunk : List UInt8)
  /-- The daemon sends a message of its own. -/
  | send (encoded : List UInt8)
  /-- The socket has passed on bytes. -/
  | sent (bytes : Nat)
  /-- `drain` -/
  | drain
  deriving DecidableEq

def webSocketStep (limits : WebSocketLimits) (decode : List UInt8 → Option T) (s : WebSocketPeer T) :
    WebSocketEvent → Option (WebSocketPeer T)
  | .data chunk => some (s.read limits decode chunk)
  | .send encoded => some (s.send limits encoded)
  | .sent bytes =>
    some { s with
      outbound := { s.outbound with writableLength := s.outbound.writableLength - bytes } }
  | .drain =>
    some (if s.inbound.closed ∧ s.outbound.queue = [] then s
      else { s with outbound := s.outbound.flush limits })

/-- The bytes that arrive in a run. -/
def stream (events : List WebSocketEvent) : List UInt8 :=
  events.flatMap fun
    | .data chunk => chunk
    | _ => []

end

/-! ## Reading off a buffer -/

section Parse
variable {maxMessageBytes opcode length : Nat} {fin : Bool} {payload rest : List UInt8}

variable {body : List UInt8}

theorem parsePayload_frame (h : parsePayload maxMessageBytes opcode fin length body = .frame opcode fin payload rest) :
    rest.length + 4 ≤ body.length := by
  unfold parsePayload at h
  split at h
  · cases h
  split at h
  · cases h
  split at h
  · cases h
  simp only [Parsed.frame.injEq, true_and] at h
  rw [← h.2, length_drop]
  omega

theorem parsePayload_partial (h : parsePayload maxMessageBytes opcode fin length body = .partialFrame) :
    body.length < 4 + maxMessageBytes := by
  unfold parsePayload at h
  split at h
  · cases h
  split at h
  · cases h
  split at h
  · omega
  · cases h

/-- What comes after a complete frame stays behind it. -/
def Parsed.append (parsed : Parsed) (more : List UInt8) : Parsed :=
  match parsed with
  | .partialFrame => .partialFrame
  | .invalid => .invalid
  | .frame opcode fin payload rest => .frame opcode fin payload (rest ++ more)

theorem parsePayload_append (more : List UInt8)
    (h : parsePayload maxMessageBytes opcode fin length body ≠ .partialFrame) :
    parsePayload maxMessageBytes opcode fin length (body ++ more) =
      (parsePayload maxMessageBytes opcode fin length body).append more := by
  unfold parsePayload at h ⊢
  split
  · rfl
  split
  · rfl
  rename_i hctl hmax
  rw [if_neg hctl, if_neg hmax] at h
  have hlen : ¬ body.length < 4 + length := fun hlt => h (if_pos hlt)
  have hlen' : ¬ (body ++ more).length < 4 + length := by
    rw [length_append]
    omega
  rw [if_neg hlen, if_neg hlen', Parsed.append]
  rw [take_append_of_le_length (by omega), drop_append_of_le_length (by omega),
    drop_append_of_le_length (by omega),
    take_append_of_le_length (by rw [length_drop]; omega)]

theorem parseFrame_append {buffer : List UInt8} (more : List UInt8)
    (h : parseFrame maxMessageBytes buffer ≠ .partialFrame) :
    parseFrame maxMessageBytes (buffer ++ more) =
      (parseFrame maxMessageBytes buffer).append more := by
  match buffer with
  | [] => exact absurd rfl h
  | [_] => exact absurd rfl h
  | first :: second :: tail =>
    simp only [cons_append, parseFrame] at h ⊢
    split
    · rfl
    split
    · rfl
    rename_i hbits hmask
    rw [if_neg hbits, if_neg hmask] at h
    split
    · rename_i h126
      rw [if_pos h126] at h
      have hlen : ¬ tail.length < 2 := fun hlt => h (if_pos hlt)
      rw [if_neg hlen] at h ⊢
      rw [if_neg (by rw [length_append]; omega),
        take_append_of_le_length (by omega), drop_append_of_le_length (by omega)]
      exact parsePayload_append more h
    · rename_i h126
      rw [if_neg h126] at h
      split
      · rename_i h127
        rw [if_pos h127] at h
        have hlen : ¬ tail.length < 8 := fun hlt => h (if_pos hlt)
        rw [if_neg hlen] at h ⊢
        rw [if_neg (by rw [length_append]; omega),
          take_append_of_le_length (by omega), take_append_of_le_length (by omega),
          drop_append_of_le_length (by omega)]
        split
        · rfl
        rename_i hhigh
        rw [if_neg hhigh] at h
        exact parsePayload_append more h
      · rename_i h127
        rw [if_neg h127] at h
        exact parsePayload_append more h

theorem parseFrame_cases (maxMessageBytes : Nat) (first second : UInt8) (tail : List UInt8) :
    parseFrame maxMessageBytes (first :: second :: tail) = .invalid ∨
      (parseFrame maxMessageBytes (first :: second :: tail) = .partialFrame ∧ tail.length < 8) ∨
      ∃ opcode fin length skipped, skipped ≤ 8 ∧ skipped ≤ tail.length ∧
        parseFrame maxMessageBytes (first :: second :: tail) =
          parsePayload maxMessageBytes opcode fin length (tail.drop skipped) := by
  simp only [parseFrame]
  split
  · exact Or.inl rfl
  split
  · exact Or.inl rfl
  split
  · split
    · exact Or.inr (Or.inl ⟨rfl, by omega⟩)
    · exact Or.inr (Or.inr ⟨_, _, _, 2, by decide, by omega, rfl⟩)
  · split
    · split
      · exact Or.inr (Or.inl ⟨rfl, by omega⟩)
      split
      · exact Or.inl rfl
      · exact Or.inr (Or.inr ⟨_, _, _, 8, by decide, by omega, rfl⟩)
    · exact Or.inr (Or.inr ⟨_, _, _, 0, by decide, by omega, rfl⟩)

theorem parsePayload_eq_frame {opcode' : Nat} {fin' : Bool}
    (h : parsePayload maxMessageBytes opcode fin length body = .frame opcode' fin' payload rest) :
    opcode' = opcode ∧ fin' = fin := by
  unfold parsePayload at h
  repeat' split at h
  all_goals cases h
  exact ⟨rfl, rfl⟩

theorem parseFrame_rest {buffer : List UInt8}
    (h : parseFrame maxMessageBytes buffer = .frame opcode fin payload rest) :
    rest.length < buffer.length := by
  match buffer with
  | [] => cases h
  | [_] => cases h
  | first :: second :: tail =>
    rcases parseFrame_cases maxMessageBytes first second tail with hi | ⟨hp, -⟩ | ⟨_, _, _, _, -, _, hb⟩
    · rw [hi] at h
      cases h
    · rw [hp] at h
      cases h
    · rw [hb] at h
      obtain ⟨rfl, rfl⟩ := parsePayload_eq_frame h
      have := parsePayload_frame h
      rw [length_drop] at this
      simp only [length_cons]
      omega

/-- A partial frame is short: the limit on what is kept in the buffer is never reached. -/
theorem parseFrame_partial {buffer : List UInt8}
    (h : parseFrame maxMessageBytes buffer = .partialFrame) :
    buffer.length ≤ maxMessageBytes + 13 := by
  match buffer with
  | [] => exact Nat.zero_le _
  | [_] => simp
  | first :: second :: tail =>
    simp only [length_cons]
    rcases parseFrame_cases maxMessageBytes first second tail with hi | ⟨_, _⟩ | ⟨_, _, _, _, _, _, hb⟩
    · rw [hi] at h
      cases h
    · omega
    · rw [hb] at h
      have := parsePayload_partial h
      rw [length_drop] at this
      omega

end Parse

/-! ## A peer whose answers always fit -/

section Inbound
variable {T : Type} {maxMessageBytes : Nat} {decode : List UInt8 → Option T}

namespace Inbound

/-- What a frame does to the inbound side; a ping that is answered and a pong do nothing. -/
def handleFrame (maxMessageBytes : Nat) (decode : List UInt8 → Option T) (s : Inbound T)
    (opcode : Nat) (fin : Bool) (payload : List UInt8) : Option (Inbound T) :=
  if opcode = 8 then some (s.close (.closed 1000))
  else if opcode = 9 ∨ opcode = 10 then some s
  else if opcode ≠ 0 ∧ opcode ≠ 1 then none
  else s.handleData maxMessageBytes decode opcode fin payload

def readFrames (maxMessageBytes : Nat) (decode : List UInt8 → Option T) : Nat → Inbound T → Inbound T
  | 0, s => s
  | n + 1, s =>
    match parseFrame maxMessageBytes s.buffer with
    | .partialFrame => s
    | .invalid => s.close (.closed 1002)
    | .frame opcode fin payload rest =>
      match ({ s with buffer := rest } : Inbound T).handleFrame maxMessageBytes decode opcode fin
        payload with
      | none => ({ s with buffer := rest } : Inbound T).close (.closed 1002)
      | some s => if s.closed then s else readFrames maxMessageBytes decode n s

def read (maxMessageBytes : Nat) (decode : List UInt8 → Option T) (s : Inbound T)
    (chunk : List UInt8) : Inbound T :=
  if s.closed then s
  else
    readFrames maxMessageBytes decode ((s.buffer ++ chunk).length + 1)
      { s with buffer := s.buffer ++ chunk }

/-- The same for an observer; what a closed peer keeps in its buffer is not read again. -/
def Same (s t : Inbound T) : Prop :=
  s.outcome = t.outcome ∧ s.messages = t.messages ∧ (s.outcome = none → s = t)

variable (s : Inbound T)

theorem Same.refl : Same s s := ⟨rfl, rfl, fun _ => rfl⟩

theorem Same.symm {s t : Inbound T} (h : Same s t) : Same t s :=
  ⟨h.1.symm, h.2.1.symm, fun ht => (h.2.2 (h.1.trans ht)).symm⟩

theorem Same.trans {s t u : Inbound T} (h : Same s t) (h' : Same t u) : Same s u :=
  ⟨h.1.trans h'.1, h.2.1.trans h'.2.1, fun hs => (h.2.2 hs).trans (h'.2.2 (h.1 ▸ hs))⟩

theorem closed_iff {s : Inbound T} : s.closed = true ↔ s.outcome ≠ none := by
  rw [closed, isSome_iff_ne_none]

theorem not_closed_iff {s : Inbound T} : s.closed = false ↔ s.outcome = none := by
  rw [closed, isSome_eq_false_iff, isNone_iff_eq_none]

theorem handleData_buffer {s : Inbound T} {opcode : Nat} {fin : Bool} {payload : List UInt8}
    (buffer : List UInt8) :
    ({ s with buffer := buffer } : Inbound T).handleData maxMessageBytes decode opcode fin payload =
      (s.handleData maxMessageBytes decode opcode fin payload).map fun t =>
        { t with buffer := buffer } := by
  simp only [handleData]
  repeat' split
  all_goals rfl

theorem close_buffer (buffer : List UInt8) (outcome : CloseOutcome) :
    ({ s with buffer := buffer } : Inbound T).close outcome =
      { s.close outcome with buffer := buffer } := by
  cases h : s.outcome <;> simp [close, closed, h]

theorem handleFrame_buffer (maxMessageBytes : Nat) (decode : List UInt8 → Option T) (s : Inbound T)
    (opcode : Nat) (fin : Bool) (payload buffer : List UInt8) :
    ({ s with buffer := buffer } : Inbound T).handleFrame maxMessageBytes decode opcode fin payload =
      (s.handleFrame maxMessageBytes decode opcode fin payload).map fun t =>
        { t with buffer := buffer } := by
  unfold handleFrame
  split
  · rw [close_buffer, map_some]
  split
  · rfl
  split
  · rfl
  · exact handleData_buffer buffer

theorem handleData_open {s t : Inbound T} {opcode : Nat} {fin : Bool} {payload : List UInt8}
    (h : s.handleData maxMessageBytes decode opcode fin payload = some t) :
    t.outcome = s.outcome ∧ t.buffer = s.buffer := by
  simp only [handleData] at h
  repeat' split at h
  all_goals cases h
  all_goals exact ⟨rfl, rfl⟩

theorem handleFrame_kept {s t : Inbound T} {opcode : Nat} {fin : Bool} {payload : List UInt8}
    (h : s.handleFrame maxMessageBytes decode opcode fin payload = some t) :
    t.buffer = s.buffer := by
  unfold handleFrame at h
  split at h
  · cases h
    unfold close
    split <;> rfl
  · split at h
    · cases h
      rfl
    split at h
    · cases h
    · exact (handleData_open h).2

/-- The loop has come to its end: the peer is closed or keeps a partial frame. -/
def Settled (maxMessageBytes : Nat) (s : Inbound T) : Prop :=
  s.outcome = none → parseFrame maxMessageBytes s.buffer = .partialFrame

theorem close_outcome (outcome : CloseOutcome) : (s.close outcome).outcome ≠ none := by
  unfold close
  split
  · rename_i h
    exact closed_iff.mp h
  · simp

theorem readFrames_settled (n : Nat) (s : Inbound T) (hn : s.buffer.length < n) :
    Settled maxMessageBytes (readFrames maxMessageBytes decode n s) := by
  induction n generalizing s with
  | zero => omega
  | succ n ih =>
    rw [readFrames]
    cases hp : parseFrame maxMessageBytes s.buffer with
    | partialFrame => exact fun _ => hp
    | invalid => exact fun h => absurd h (close_outcome _ _)
    | frame opcode fin payload rest =>
      have hrest := parseFrame_rest hp
      simp only
      cases hh : ({ s with buffer := rest } : Inbound T).handleFrame maxMessageBytes decode opcode
        fin payload with
      | none => exact fun h => absurd h (close_outcome _ _)
      | some t =>
        have hbuffer : t.buffer = rest := handleFrame_kept hh
        simp only
        split
        · rename_i hc
          exact fun h => absurd h (closed_iff.mp hc)
        · exact ih t (by rw [hbuffer]; omega)

theorem readFrames_fuel (n m : Nat) (s : Inbound T) (hn : s.buffer.length < n)
    (hm : s.buffer.length < m) :
    readFrames maxMessageBytes decode n s = readFrames maxMessageBytes decode m s := by
  induction n generalizing m s with
  | zero => omega
  | succ n ih =>
    cases m with
    | zero => omega
    | succ m =>
      rw [readFrames, readFrames]
      cases hp : parseFrame maxMessageBytes s.buffer with
      | partialFrame => rfl
      | invalid => rfl
      | frame opcode fin payload rest =>
        have hrest := parseFrame_rest hp
        simp only
        cases hh : ({ s with buffer := rest } : Inbound T).handleFrame maxMessageBytes decode opcode
          fin payload with
        | none => rfl
        | some t =>
          have hbuffer : t.buffer = rest := handleFrame_kept hh
          simp only
          rw [ih m t (by rw [hbuffer]; omega) (by rw [hbuffer]; omega)]

theorem same_close (buffer : List UInt8) (outcome : CloseOutcome) :
    Same (({ s with buffer := buffer } : Inbound T).close outcome) (s.close outcome) := by
  rw [close_buffer]
  exact ⟨rfl, rfl, fun h => absurd h (close_outcome s outcome)⟩

theorem read_closed {s : Inbound T} (chunk : List UInt8) (h : s.outcome ≠ none) :
    s.read maxMessageBytes decode chunk = s := by
  rw [read, if_pos (closed_iff.mpr h)]

theorem read_open {s : Inbound T} (chunk : List UInt8) (h : s.outcome = none) (n : Nat)
    (hn : (s.buffer ++ chunk).length < n) :
    s.read maxMessageBytes decode chunk =
      readFrames maxMessageBytes decode n { s with buffer := s.buffer ++ chunk } := by
  rw [read, if_neg (by rw [not_closed_iff.mpr h]; decide)]
  exact readFrames_fuel _ _ _ (lt_succ_self _) hn

/-- What follows a buffer is read after what is in it. -/
theorem readFrames_append (n m : Nat) (s : Inbound T) (more : List UInt8) (hs : s.outcome = none)
    (hn : s.buffer.length < n) (hm : (s.buffer ++ more).length < m) :
    Same (readFrames maxMessageBytes decode m { s with buffer := s.buffer ++ more })
      ((readFrames maxMessageBytes decode n s).read maxMessageBytes decode more) := by
  induction n generalizing m s with
  | zero => omega
  | succ n ih =>
    cases m with
    | zero => omega
    | succ m =>
      cases hp : parseFrame maxMessageBytes s.buffer with
      | partialFrame =>
        have hstay : readFrames maxMessageBytes decode (n + 1) s = s := by
          simp only [readFrames, hp]
        rw [hstay, read_open more hs (m + 1) hm]
        exact Same.refl _
      | invalid =>
        have happ := parseFrame_append more (by rw [hp]; simp)
        simp only [readFrames, hp, happ]
        rw [read_closed more (close_outcome _ _)]
        exact same_close s _ _
      | frame opcode fin payload rest =>
        have hrest := parseFrame_rest hp
        have happ := parseFrame_append more (by rw [hp]; simp)
        rw [hp, Parsed.append] at happ
        rw [length_append] at hm
        simp only [readFrames, hp, happ]
        have hcommute := handleFrame_buffer maxMessageBytes decode
          ({ s with buffer := rest } : Inbound T) opcode fin payload (rest ++ more)
        rw [hcommute]
        cases hh : ({ s with buffer := rest } : Inbound T).handleFrame maxMessageBytes decode opcode
          fin payload with
        | none =>
          rw [read_closed more (close_outcome _ _)]
          exact same_close ({ s with buffer := rest } : Inbound T) _ _
        | some t =>
          have hbuffer : t.buffer = rest := handleFrame_kept hh
          simp only [map_some]
          cases hc : t.closed with
          | true =>
            have hclosed : t.outcome ≠ none := closed_iff.mp hc
            rw [if_pos (show ({ t with buffer := rest ++ more } : Inbound T).closed = true from hc),
              if_pos rfl, read_closed more hclosed]
            exact ⟨rfl, rfl, fun h => absurd h hclosed⟩
          | false =>
            have hopen : t.outcome = none := not_closed_iff.mp hc
            rw [if_neg (show ¬ ({ t with buffer := rest ++ more } : Inbound T).closed = true by
              rw [show ({ t with buffer := rest ++ more } : Inbound T).closed = false from hc]
              decide)]
            have hih := ih m t hopen (by rw [hbuffer]; omega)
              (by rw [hbuffer, length_append]; omega)
            rw [hbuffer] at hih
            exact hih

theorem read_append (a b : List UInt8) :
    Same ((s.read maxMessageBytes decode a).read maxMessageBytes decode b)
      (s.read maxMessageBytes decode (a ++ b)) := by
  by_cases hs : s.outcome = none
  · rw [read_open a hs _ (lt_succ_self _), read_open (a ++ b) hs _ (lt_succ_self _)]
    have h : Same (readFrames maxMessageBytes decode ((s.buffer ++ (a ++ b)).length + 1) _) _ :=
      readFrames_append ((s.buffer ++ a).length + 1) ((s.buffer ++ (a ++ b)).length + 1)
        ({ s with buffer := s.buffer ++ a } : Inbound T) b hs (lt_succ_self _) (by simp)
    rw [show ({ s with buffer := s.buffer ++ a } : Inbound T).buffer ++ b = s.buffer ++ (a ++ b)
      from append_assoc _ _ _] at h
    exact h.symm
  · rw [read_closed a hs, read_closed b hs, read_closed (a ++ b) hs]
    exact Same.refl s

theorem read_settled (chunk : List UInt8) : Settled maxMessageBytes (s.read maxMessageBytes decode chunk) := by
  by_cases hs : s.outcome = none
  · rw [read_open chunk hs _ (lt_succ_self _)]
    exact readFrames_settled _ _ (lt_succ_self _)
  · rw [read_closed chunk hs]
    exact fun h => absurd h hs

theorem read_nil {s : Inbound T} (hs : Settled maxMessageBytes s) :
    s.read maxMessageBytes decode [] = s := by
  by_cases ho : s.outcome = none
  · have hp := hs ho
    rw [read_open [] ho _ (lt_succ_self _), append_nil, readFrames, hp]
  · exact read_closed [] ho

theorem read_chunks (chunks : List (List UInt8)) (s : Inbound T) (hs : Settled maxMessageBytes s) :
    Same (chunks.foldl (fun s chunk => s.read maxMessageBytes decode chunk) s)
      (s.read maxMessageBytes decode chunks.flatten) := by
  induction chunks generalizing s with
  | nil =>
    rw [flatten_nil, read_nil hs]
    exact Same.refl s
  | cons chunk chunks ih =>
    exact (ih _ (read_settled s chunk)).trans (read_append s chunk chunks.flatten)

end Inbound

end Inbound

/-! ## Runs of a peer -/

section Peer
variable {T : Type} {limits : WebSocketLimits} {decode : List UInt8 → Option T}

namespace Inbound

theorem close_messages (s : Inbound T) (outcome : CloseOutcome) :
    s.messages <+: (s.close outcome).messages := by
  unfold close
  split <;> exact prefix_rfl

variable {maxMessageBytes : Nat}

theorem handleFrame_messages {s t : Inbound T} {opcode : Nat} {fin : Bool} {payload : List UInt8}
    (h : s.handleFrame maxMessageBytes decode opcode fin payload = some t) : s.messages <+: t.messages := by
  unfold handleFrame at h
  split at h
  · cases h
    exact close_messages s _
  split at h
  · cases h
    exact prefix_rfl
  split at h
  · cases h
  simp only [handleData] at h
  repeat' split at h
  all_goals cases h
  all_goals simp

theorem readFrames_messages (n : Nat) (s : Inbound T) :
    s.messages <+: (s.readFrames maxMessageBytes decode n).messages := by
  induction n generalizing s with
  | zero => exact prefix_rfl
  | succ n ih =>
    rw [readFrames]
    split
    · exact prefix_rfl
    · exact close_messages s _
    · rename_i opcode fin payload rest _
      cases hh : ({ s with buffer := rest } : Inbound T).handleFrame maxMessageBytes decode opcode
        fin payload with
      | none => exact close_messages { s with buffer := rest } _
      | some t =>
        have hprefix : s.messages <+: t.messages :=
          handleFrame_messages (s := { s with buffer := rest }) hh
        simp only
        split
        · exact hprefix
        · exact hprefix.trans (ih t)

theorem read_messages (s : Inbound T) (chunk : List UInt8) :
    s.messages <+: (s.read maxMessageBytes decode chunk).messages := by
  unfold read
  split
  · exact prefix_rfl
  · exact readFrames_messages _ { s with buffer := s.buffer ++ chunk }

theorem foldl_messages (chunks : List (List UInt8)) (s : Inbound T) :
    s.messages <+:
      (chunks.foldl (fun s chunk => s.read maxMessageBytes decode chunk) s).messages := by
  induction chunks generalizing s with
  | nil => exact prefix_rfl
  | cons chunk chunks ih => exact (read_messages s chunk).trans (ih _)

end Inbound

namespace WebSocketPeer

variable (s : WebSocketPeer T)

theorem close_inbound (outcome : CloseOutcome) : (s.close outcome).inbound = s.inbound.close outcome := by
  unfold close Inbound.close
  split <;> rfl

/-- A frame that does not terminate the peer does to its inbound side what the frame does. -/
theorem handleFrame_inbound {s : WebSocketPeer T} {opcode : Nat} {fin : Bool} {payload : List UInt8}
    (hs : s.inbound.outcome = none)
    (h : ∀ t, s.handleFrame limits decode opcode fin payload = some t →
      t.inbound.outcome ≠ some .terminated) :
    (s.handleFrame limits decode opcode fin payload).map WebSocketPeer.inbound =
      s.inbound.handleFrame limits.maxMessageBytes decode opcode fin payload := by
  unfold handleFrame at h ⊢
  unfold Inbound.handleFrame
  by_cases h8 : opcode = 8
  · rw [if_pos h8, if_pos h8, map_some, close_inbound]
  rw [if_neg h8] at h ⊢
  rw [if_neg h8]
  by_cases h9 : opcode = 9
  · rw [if_pos h9] at h ⊢
    rw [if_pos (Or.inl h9)]
    cases hq : s.outbound.enqueue limits (frame 0x0a payload) with
    | none =>
      rw [hq] at h
      refine absurd ?_ (h _ rfl)
      rw [close_inbound, Inbound.close, if_neg (by rw [Inbound.not_closed_iff.mpr hs]; decide)]
    | some => rfl
  rw [if_neg h9]
  by_cases h10 : opcode = 10
  · rw [if_pos h10, if_pos (Or.inr h10)]
    rfl
  rw [if_neg h10, if_neg (not_or.mpr ⟨h9, h10⟩)]
  split
  · rfl
  · cases s.inbound.handleData limits.maxMessageBytes decode opcode fin payload <;> rfl

theorem readFrames_inbound (n : Nat) (s : WebSocketPeer T) (hs : s.inbound.outcome = none)
    (h : (s.readFrames limits decode n).inbound.outcome ≠ some .terminated) :
    (s.readFrames limits decode n).inbound =
      s.inbound.readFrames limits.maxMessageBytes decode n := by
  induction n generalizing s with
  | zero => rfl
  | succ n ih =>
    rw [readFrames] at h ⊢
    rw [Inbound.readFrames]
    cases hp : parseFrame limits.maxMessageBytes s.inbound.buffer with
    | partialFrame => rfl
    | invalid => exact close_inbound s _
    | frame opcode fin payload rest =>
      rw [hp] at h
      simp only at h ⊢
      let s' : WebSocketPeer T := { s with inbound := { s.inbound with buffer := rest } }
      have hsim : (s'.handleFrame limits decode opcode fin payload).map WebSocketPeer.inbound =
          s'.inbound.handleFrame limits.maxMessageBytes decode opcode fin payload := by
        refine handleFrame_inbound hs fun t ht hterm => ?_
        rw [show s'.handleFrame limits decode opcode fin payload = some t from ht] at h
        simp only at h
        rw [if_pos (Inbound.closed_iff.mpr (by rw [hterm]; simp))] at h
        exact h hterm
      cases hh : s'.handleFrame limits decode opcode fin payload with
      | none =>
        rw [hh] at hsim
        rw [← hsim]
        exact close_inbound s' _
      | some t =>
        rw [hh, map_some] at hsim
        rw [show s'.handleFrame limits decode opcode fin payload = some t from hh] at h
        rw [← hsim]
        simp only at h ⊢
        split
        · rfl
        rename_i hc
        rw [if_neg hc] at h
        exact ih t (Inbound.not_closed_iff.mp (Bool.not_eq_true _ ▸ hc)) h

/-- The buffer never exceeds its limit after the frames are taken off it. -/
theorem read_inbound {s : WebSocketPeer T} {chunk : List UInt8}
    (h : (s.read limits decode chunk).inbound.outcome ≠ some .terminated) :
    (s.read limits decode chunk).inbound =
      s.inbound.read limits.maxMessageBytes decode chunk := by
  by_cases hs : s.inbound.outcome = none
  · have hclosed : s.inbound.closed = false := Inbound.not_closed_iff.mpr hs
    let s' : WebSocketPeer T :=
      { s with inbound := { s.inbound with buffer := s.inbound.buffer ++ chunk } }
    let t := s'.readFrames limits decode ((s.inbound.buffer ++ chunk).length + 1)
    have hread : s.read limits decode chunk =
        if t.inbound.buffer.length > limits.maxMessageBytes + 14 then t.close (.closed 1002) else t := by
      rw [read, if_neg (by rw [hclosed]; decide)]
    have hsame : (s.read limits decode chunk).inbound = t.inbound := by
      by_cases ht : t.inbound.outcome = none
      · have hsim : t.inbound = _ := readFrames_inbound _ s' hs (by rw [ht]; simp)
        have hpartial : parseFrame limits.maxMessageBytes t.inbound.buffer = .partialFrame := by
          have hset : Inbound.Settled limits.maxMessageBytes
              (s'.inbound.readFrames limits.maxMessageBytes decode _) :=
            Inbound.readFrames_settled _ s'.inbound (lt_succ_self _)
          rw [hsim] at ht ⊢
          exact hset ht
        have hshort := parseFrame_partial hpartial
        rw [hread, if_neg (by omega)]
      · rw [hread]
        split
        · rw [close, if_pos (Inbound.closed_iff.mpr ht)]
        · rfl
    rw [hsame] at h ⊢
    rw [Inbound.read_open chunk hs _ (lt_succ_self _)]
    exact readFrames_inbound _ s' hs h
  · rw [Inbound.read_closed chunk hs, read, if_pos (Inbound.closed_iff.mpr hs)]

theorem close_messages (outcome : CloseOutcome) : (s.close outcome).inbound.messages = s.inbound.messages := by
  unfold close Inbound.close
  repeat' split
  all_goals rfl

/-- A ping that is not answered only closes the peer. -/
theorem handleFrame_terminated {s t : WebSocketPeer T} {opcode : Nat} {fin : Bool}
    {payload : List UInt8} (h : s.handleFrame limits decode opcode fin payload = some t)
    (hs : s.inbound.outcome = none) (ht : t.inbound.outcome = some .terminated) :
    t.inbound.messages = s.inbound.messages := by
  unfold handleFrame at h
  split at h
  · cases h
    exact close_messages s _
  split at h
  · split at h
    · cases h
      exact close_messages s _
    · cases h
      rfl
  · split at h
    · cases h
      rfl
    split at h
    · cases h
    obtain ⟨_, hdata, rfl⟩ := map_eq_some_iff.mp h
    rw [(Inbound.handleData_open hdata).1, hs] at ht
    cases ht

theorem readFrames_terminated (n : Nat) (s : WebSocketPeer T) (hs : s.inbound.outcome = none) :
    (s.readFrames limits decode n).inbound.messages <+:
      (s.inbound.readFrames limits.maxMessageBytes decode n).messages := by
  induction n generalizing s with
  | zero => exact prefix_rfl
  | succ n ih =>
    rw [readFrames, Inbound.readFrames]
    cases hp : parseFrame limits.maxMessageBytes s.inbound.buffer with
    | partialFrame => exact prefix_rfl
    | invalid => exact ⟨[], by rw [append_nil, close_inbound]⟩
    | frame opcode fin payload rest =>
      have hmono : s.inbound.messages <+:
          (s.inbound.readFrames limits.maxMessageBytes decode (n + 1)).messages :=
        Inbound.readFrames_messages (n + 1) s.inbound
      rw [Inbound.readFrames, hp] at hmono
      simp only at hmono ⊢
      let s' : WebSocketPeer T := { s with inbound := { s.inbound with buffer := rest } }
      by_cases hterm : ∃ t, s'.handleFrame limits decode opcode fin payload = some t ∧
          t.inbound.outcome = some .terminated
      · obtain ⟨t, ht, hout⟩ := hterm
        have hclosed : t.inbound.closed = true := Inbound.closed_iff.mpr (by rw [hout]; simp)
        rw [show s'.handleFrame limits decode opcode fin payload = some t from ht]
        simp only
        rw [if_pos hclosed, handleFrame_terminated ht hs hout]
        exact hmono
      · have hsim : (s'.handleFrame limits decode opcode fin payload).map WebSocketPeer.inbound =
            s'.inbound.handleFrame limits.maxMessageBytes decode opcode fin payload :=
          handleFrame_inbound hs fun t ht hout => hterm ⟨t, ht, hout⟩
        rw [← hsim]
        cases hh : s'.handleFrame limits decode opcode fin payload with
        | none =>
          rw [map_none]
          exact ⟨[], by rw [append_nil, close_inbound]⟩
        | some t =>
          rw [map_some]
          simp only
          split
          · exact prefix_rfl
          · rename_i hc
            exact ih t (Inbound.not_closed_iff.mp (Bool.not_eq_true _ ▸ hc))

theorem send_inbound (limits : WebSocketLimits) (s : WebSocketPeer T) (encoded : List UInt8) :
    (s.send limits encoded).inbound = s.inbound ∨
      ((s.send limits encoded).inbound.outcome = some .terminated ∧
        (s.send limits encoded).inbound.messages = s.inbound.messages) := by
  unfold send
  split
  · exact Or.inl rfl
  rename_i hopen
  split
  · refine Or.inr ⟨?_, close_messages s _⟩
    rw [close_inbound, Inbound.close, if_neg hopen]
  · exact Or.inl rfl

theorem read_terminated (chunk : List UInt8) :
    (s.read limits decode chunk).inbound.messages <+:
      (s.inbound.read limits.maxMessageBytes decode chunk).messages := by
  by_cases hs : s.inbound.outcome = none
  · let s' : WebSocketPeer T :=
      { s with inbound := { s.inbound with buffer := s.inbound.buffer ++ chunk } }
    have hframes : (s'.readFrames limits decode ((s.inbound.buffer ++ chunk).length + 1)).inbound.messages <+: _ :=
      readFrames_terminated _ s' hs
    rw [Inbound.read_open chunk hs _ (lt_succ_self _), read,
      if_neg (by rw [Inbound.not_closed_iff.mpr hs]; decide)]
    simp only
    split
    · rw [close_messages]
      exact hframes
    · exact hframes
  · rw [read, if_pos (Inbound.closed_iff.mpr hs)]
    exact Inbound.read_messages s.inbound chunk

end WebSocketPeer

/-- The chunks of a run. -/
def chunks : List WebSocketEvent → List (List UInt8)
  | [] => []
  | .data chunk :: events => chunk :: chunks events
  | .send _ :: events => chunks events
  | .sent _ :: events => chunks events
  | .drain :: events => chunks events

theorem stream_eq (events : List WebSocketEvent) : stream events = (chunks events).flatten := by
  induction events with
  | nil => rfl
  | cons event events ih =>
    rw [stream, flatMap_cons, ← stream, ih]
    cases event <;> rfl

variable {events : List WebSocketEvent}

theorem run_closed {s t : WebSocketPeer T} (ht : run (webSocketStep limits decode) s events = some t)
    (hs : s.inbound.outcome ≠ none) : t.inbound = s.inbound := by
  induction events generalizing s with
  | nil =>
    cases ht
    rfl
  | cons event events ih =>
    obtain ⟨s', hstep, ht⟩ := run_cons_eq_some.mp ht
    have hsame : s'.inbound = s.inbound := by
      cases event with
      | data =>
        cases hstep
        rw [WebSocketPeer.read, if_pos (Inbound.closed_iff.mpr hs)]
      | send =>
        cases hstep
        rw [WebSocketPeer.send, if_pos (Inbound.closed_iff.mpr hs)]
      | sent =>
        cases hstep
        rfl
      | drain =>
        cases hstep
        split <;> rfl
    rw [ih ht (by rw [hsame]; exact hs), hsame]

/-- A run delivers no more than its chunks hold, also when it is terminated. -/
theorem run_messages {s t : WebSocketPeer T} (ht : run (webSocketStep limits decode) s events = some t) :
    t.inbound.messages <+: ((chunks events).foldl
      (fun s chunk => s.read limits.maxMessageBytes decode chunk) s.inbound).messages := by
  induction events generalizing s with
  | nil =>
    cases ht
    exact prefix_rfl
  | cons event events ih =>
    obtain ⟨_, hs, ht⟩ := run_cons_eq_some.mp ht
    have hrest := ih ht
    cases event with
    | data chunk =>
      cases hs
      rw [chunks, foldl_cons]
      by_cases hterm : (s.read limits decode chunk).inbound.outcome = some .terminated
      · rw [run_closed ht (by rw [hterm]; simp)]
        exact (WebSocketPeer.read_terminated s chunk).trans (Inbound.foldl_messages _ _)
      · rw [← WebSocketPeer.read_inbound hterm]
        exact hrest
    | send encoded =>
      cases hs
      rcases s.send_inbound limits encoded with hsame | ⟨hterm, hkept⟩
      · rw [hsame] at hrest
        exact hrest
      · rw [run_closed ht (by rw [hterm]; simp), hkept]
        exact Inbound.foldl_messages _ _
    | sent =>
      cases hs
      exact hrest
    | drain =>
      cases hs
      split at hrest <;> exact hrest

theorem run_chunks {s t : WebSocketPeer T} (ht : run (webSocketStep limits decode) s events = some t)
    (h : t.inbound.outcome ≠ some .terminated) :
    t.inbound = (chunks events).foldl
      (fun s chunk => s.read limits.maxMessageBytes decode chunk) s.inbound := by
  induction events generalizing s with
  | nil =>
    cases ht
    rfl
  | cons event events ih =>
    obtain ⟨_, hs, ht⟩ := run_cons_eq_some.mp ht
    have hrest := ih ht
    cases event with
    | data chunk =>
      cases hs
      rw [hrest, chunks, foldl_cons]
      by_cases hterm : (s.read limits decode chunk).inbound.outcome = some .terminated
      · rw [run_closed ht (by rw [hterm]; simp)] at h
        exact absurd hterm h
      · rw [WebSocketPeer.read_inbound hterm]
    | send encoded =>
      cases hs
      rcases s.send_inbound limits encoded with hsame | ⟨hterm, -⟩
      · rw [hsame] at hrest
        exact hrest
      · rw [run_closed ht (by rw [hterm]; simp)] at h
        exact absurd hterm h
    | sent =>
      cases hs
      exact hrest
    | drain =>
      cases hs
      rw [hrest]
      split <;> rfl

theorem new_settled (maxMessageBytes : Nat) : (Inbound.new : Inbound T).Settled maxMessageBytes :=
  fun _ => rfl

/-- A run that is not terminated has read its stream in one piece. -/
theorem run_inbound {t : WebSocketPeer T} (ht : run (webSocketStep limits decode) WebSocketPeer.new events = some t)
    (h : t.inbound.outcome ≠ some .terminated) :
    t.inbound.Same (Inbound.new.read limits.maxMessageBytes decode (stream events)) := by
  rw [run_chunks ht h, stream_eq]
  exact Inbound.read_chunks _ _ (new_settled _)

end Peer

/-! ## The frames of a client -/

structure ClientFrame where
  opcode : Nat
  fin : Bool
  mask : List UInt8
  payload : List UInt8
  opcode_lt : opcode < 16
  mask_length : mask.length = 4

/-- The length of a payload in the shortest of its three forms. -/
def lengthBytes (length : Nat) : List UInt8 :=
  if length < 126 then [(0x80 + length).toUInt8]
  else if length ≤ 0xffff then [254, (length / 0x100).toUInt8, length.toUInt8]
  else
    [255, (length / 0x100000000000000).toUInt8, (length / 0x1000000000000).toUInt8,
      (length / 0x10000000000).toUInt8, (length / 0x100000000).toUInt8,
      (length / 0x1000000).toUInt8, (length / 0x10000).toUInt8, (length / 0x100).toUInt8,
      length.toUInt8]

def ClientFrame.bytes (frame : ClientFrame) : List UInt8 :=
  ((if frame.fin then 0x80 else 0) + frame.opcode).toUInt8 :: (lengthBytes frame.payload.length ++
    (frame.mask ++ unmask frame.mask frame.payload))

theorem unmaskFrom_unmaskFrom (mask : List UInt8) (index : Nat) (payload : List UInt8) :
    unmaskFrom mask index (unmaskFrom mask index payload) = payload := by
  induction payload generalizing index with
  | nil => rfl
  | cons byte payload ih =>
    rw [unmaskFrom, unmaskFrom, ih, UInt8.xor_assoc, UInt8.xor_self, UInt8.xor_zero]

theorem length_unmaskFrom (mask : List UInt8) (index : Nat) (payload : List UInt8) :
    (unmaskFrom mask index payload).length = payload.length := by
  induction payload generalizing index with
  | nil => rfl
  | cons byte payload ih => rw [unmaskFrom, length_cons, length_cons, ih]

theorem toNat_toUInt8 (n : Nat) : n.toUInt8.toNat = n % 256 := UInt8.toNat_ofNat'

theorem parsePayload_client {maxMessageBytes : Nat} (frame : ClientFrame) (more : List UInt8)
    (hmax : frame.payload.length ≤ maxMessageBytes)
    (hctl : frame.opcode ≥ 8 → frame.fin = true ∧ frame.payload.length ≤ 125) :
    parsePayload maxMessageBytes frame.opcode frame.fin frame.payload.length
        (frame.mask ++ unmask frame.mask frame.payload ++ more) =
      .frame frame.opcode frame.fin frame.payload more := by
  have hmask := frame.mask_length
  have hlen : (unmask frame.mask frame.payload).length = frame.payload.length :=
    length_unmaskFrom _ _ _
  unfold parsePayload
  rw [if_neg (by
      rintro ⟨h8, h⟩
      obtain ⟨hfin, _⟩ := hctl h8
      rcases h with h | h
      · rw [hfin] at h
        cases h
      · omega),
    if_neg (by omega), if_neg (by simp only [length_append]; omega), append_assoc,
    take_left' hmask, drop_left' hmask, take_left' hlen, ← append_assoc,
    drop_left' (by rw [length_append]; omega)]
  rw [unmask, unmask, unmaskFrom_unmaskFrom]

theorem parseFrame_client {maxMessageBytes : Nat} (frame : ClientFrame) (more : List UInt8)
    (hsafe : maxMessageBytes ≤ 9007199254740991)
    (hmax : frame.payload.length ≤ maxMessageBytes)
    (hctl : frame.opcode ≥ 8 → frame.fin = true ∧ frame.payload.length ≤ 125) :
    parseFrame maxMessageBytes (frame.bytes ++ more) =
      .frame frame.opcode frame.fin frame.payload more := by
  have hpayload := parsePayload_client frame more hmax hctl
  have hop := frame.opcode_lt
  let first := ((if frame.fin then 0x80 else 0) + frame.opcode).toUInt8
  have hbits : ¬ first.toNat / 0x10 % 8 ≠ 0 := by
    simp only [first, toNat_toUInt8]
    split <;> omega
  have hopcode : first.toNat % 0x10 = frame.opcode := by
    simp only [first, toNat_toUInt8]
    split <;> omega
  have hfin : decide (first.toNat ≥ 0x80) = frame.fin := by
    simp only [first, toNat_toUInt8]
    cases frame.fin <;> simp <;> omega
  by_cases h126 : frame.payload.length < 126
  · have hbytes : frame.bytes ++ more = first :: (0x80 + frame.payload.length).toUInt8 ::
        (frame.mask ++ unmask frame.mask frame.payload ++ more) := by
      rw [ClientFrame.bytes, lengthBytes, if_pos h126]
      rfl
    have hsecond : (0x80 + frame.payload.length).toUInt8.toNat = 0x80 + frame.payload.length := by
      rw [toNat_toUInt8]
      omega
    have hlength : (0x80 + frame.payload.length) % 0x80 = frame.payload.length := by omega
    simp only [hbytes, parseFrame, hsecond, hlength, hopcode, hfin]
    rw [if_neg hbits, if_neg (by omega), if_neg (by omega), if_neg (by omega), hpayload]
  by_cases h16 : frame.payload.length ≤ 0xffff
  · have hbytes : frame.bytes ++ more = first :: 254 ::
        ([(frame.payload.length / 0x100).toUInt8, frame.payload.length.toUInt8] ++
          (frame.mask ++ unmask frame.mask frame.payload ++ more)) := by
      rw [ClientFrame.bytes, lengthBytes, if_neg h126, if_pos h16]
      rfl
    have hlength : bigEndian [(frame.payload.length / 0x100).toUInt8, frame.payload.length.toUInt8] =
        frame.payload.length := by
      simp only [bigEndian, foldl_cons, foldl_nil, toNat_toUInt8]
      omega
    have hsecond : (254 : UInt8).toNat = 254 := rfl
    simp only [hbytes, parseFrame, hsecond, hopcode, hfin]
    rw [if_neg hbits, if_neg (by decide), if_pos (by decide),
      if_neg (by simp only [length_append, length_cons]; omega)]
    simp only [cons_append, nil_append, take_succ_cons, take_zero,
      drop_succ_cons, drop_zero]
    rw [hlength, hpayload]
  · have hbytes : frame.bytes ++ more = first :: 255 ::
        ([(frame.payload.length / 0x100000000000000).toUInt8,
          (frame.payload.length / 0x1000000000000).toUInt8,
          (frame.payload.length / 0x10000000000).toUInt8,
          (frame.payload.length / 0x100000000).toUInt8] ++
        ([(frame.payload.length / 0x1000000).toUInt8, (frame.payload.length / 0x10000).toUInt8,
          (frame.payload.length / 0x100).toUInt8, frame.payload.length.toUInt8] ++
          (frame.mask ++ unmask frame.mask frame.payload ++ more))) := by
      rw [ClientFrame.bytes, lengthBytes, if_neg h126, if_neg h16]
      rfl
    have hhigh : ¬ bigEndian [(frame.payload.length / 0x100000000000000).toUInt8,
          (frame.payload.length / 0x1000000000000).toUInt8,
          (frame.payload.length / 0x10000000000).toUInt8,
          (frame.payload.length / 0x100000000).toUInt8] > 0x1fffff := by
      simp only [bigEndian, foldl_cons, foldl_nil, toNat_toUInt8]
      omega
    have hlength : bigEndian [(frame.payload.length / 0x100000000000000).toUInt8,
          (frame.payload.length / 0x1000000000000).toUInt8,
          (frame.payload.length / 0x10000000000).toUInt8,
          (frame.payload.length / 0x100000000).toUInt8,
          (frame.payload.length / 0x1000000).toUInt8, (frame.payload.length / 0x10000).toUInt8,
          (frame.payload.length / 0x100).toUInt8, frame.payload.length.toUInt8] =
        frame.payload.length := by
      simp only [bigEndian, foldl_cons, foldl_nil, toNat_toUInt8]
      omega
    have hsecond : (255 : UInt8).toNat = 255 := rfl
    simp only [hbytes, parseFrame, hsecond, hopcode, hfin]
    rw [if_neg hbits, if_neg (by decide), if_neg (by decide), if_pos (by decide),
      if_neg (by simp only [length_append, length_cons]; omega)]
    simp only [cons_append, nil_append, take_succ_cons, take_zero,
      drop_succ_cons, drop_zero]
    rw [if_neg hhigh, hlength, hpayload]

/-! ## Messages in fragments -/

section Carries
variable {T : Type}

/-- The opcode of the next frame of a message of which `sent` has been sent. -/
def dataOpcode : Option (List UInt8) → Nat
  | none => 1
  | some _ => 0

/-- Frames that carry texts: messages in any fragments, with pings and pongs between
them.  `sent` is what has been sent of the first of them. -/
inductive Carries (maxMessageBytes : Nat) (decode : List UInt8 → Option T) :
    Option (List UInt8) → List ClientFrame → List T → Prop where
  | nil : Carries maxMessageBytes decode none [] []
  | control {sent : Option (List UInt8)} {frames : List ClientFrame} {texts : List T}
      (frame : ClientFrame) : frame.opcode = 9 ∨ frame.opcode = 10 → frame.fin = true →
      frame.payload.length ≤ 125 → frame.payload.length ≤ maxMessageBytes →
      Carries maxMessageBytes decode sent frames texts →
      Carries maxMessageBytes decode sent (frame :: frames) texts
  | fragment {sent : Option (List UInt8)} {frames : List ClientFrame} {texts : List T}
      (frame : ClientFrame) : frame.opcode = dataOpcode sent → frame.fin = false →
      Carries maxMessageBytes decode (some (sent.getD [] ++ frame.payload)) frames texts →
      Carries maxMessageBytes decode sent (frame :: frames) texts
  | message {sent : Option (List UInt8)} {frames : List ClientFrame} {texts : List T} {text : T}
      (frame : ClientFrame) : frame.opcode = dataOpcode sent → frame.fin = true →
      (sent.getD [] ++ frame.payload).length ≤ maxMessageBytes →
      decode (sent.getD [] ++ frame.payload) = some text →
      Carries maxMessageBytes decode none frames texts →
      Carries maxMessageBytes decode sent (frame :: frames) (text :: texts)

variable {maxMessageBytes : Nat} {decode : List UInt8 → Option T}

/-- What has been sent is a part of a message that fits. -/
theorem Carries.length_le {sent : Option (List UInt8)} {frames : List ClientFrame} {texts : List T}
    (h : Carries maxMessageBytes decode sent frames texts) :
    (sent.getD []).length ≤ maxMessageBytes := by
  induction h with
  | nil => exact Nat.zero_le _
  | control _ _ _ _ _ _ ih => exact ih
  | fragment frame _ _ _ ih =>
    simp only [getD_some, length_append] at ih
    omega
  | message frame _ _ hmax =>
    rw [length_append] at hmax
    omega

namespace Inbound

/-- The peer is open and has kept what has been sent of a message. -/
structure Pending (sent : Option (List UInt8)) (s : Inbound T) : Prop where
  outcome : s.outcome = none
  opcode : s.fragmentOpcode = sent.map fun _ => 1
  bytes : s.fragmentBytes = (sent.getD []).length
  fragments : s.fragments.flatten = sent.getD []

variable {sent : Option (List UInt8)} {s : Inbound T}

theorem Pending.keepBuffer (hs : s.Pending sent) (buffer : List UInt8) :
    ({ s with buffer := buffer } : Inbound T).Pending sent :=
  ⟨hs.outcome, hs.opcode, hs.bytes, hs.fragments⟩

section
variable (decode)

theorem Pending.handleData (hs : s.Pending sent) {payload : List UInt8}
    (hmax : (sent.getD [] ++ payload).length ≤ maxMessageBytes) (fin : Bool) :
    s.handleFrame maxMessageBytes decode (dataOpcode sent) fin payload =
      s.handleData maxMessageBytes decode (dataOpcode sent) fin payload ∧
    ¬ (dataOpcode sent = 0 ∧ s.fragmentOpcode = none) ∧
    ¬ (dataOpcode sent = 1 ∧ s.fragmentOpcode ≠ none) ∧
    ¬ s.fragmentBytes + payload.length > maxMessageBytes := by
  rw [length_append] at hmax
  rw [hs.opcode, hs.bytes]
  cases sent with
  | none => exact ⟨rfl, by simp [dataOpcode], by simp, by omega⟩
  | some => exact ⟨rfl, by simp, by simp [dataOpcode], by omega⟩

theorem Pending.handleFragment (hs : s.Pending sent) {payload : List UInt8}
    (hmax : (sent.getD [] ++ payload).length ≤ maxMessageBytes) :
    ∃ t, s.handleFrame maxMessageBytes decode (dataOpcode sent) false payload = some t ∧
      t.Pending (some (sent.getD [] ++ payload)) ∧ t.messages = s.messages := by
  obtain ⟨heq, hnext, hfirst, hfits⟩ := hs.handleData decode hmax false
  rw [heq, Inbound.handleData, if_neg hnext, if_neg hfirst]
  rw [if_neg hfits]
  refine ⟨_, rfl, ⟨hs.outcome, ?_, ?_, ?_⟩, rfl⟩
  · rw [map_some, hs.opcode]
    cases sent <;> rfl
  · simp [hs.bytes]
  · simp [hs.fragments]

end

theorem Pending.handleMessage (hs : s.Pending sent) {payload : List UInt8}
    (hmax : (sent.getD [] ++ payload).length ≤ maxMessageBytes) {text : T}
    (htext : decode (sent.getD [] ++ payload) = some text) :
    ∃ t, s.handleFrame maxMessageBytes decode (dataOpcode sent) true payload = some t ∧
      t.Pending none ∧ t.messages = s.messages ++ [text] := by
  obtain ⟨heq, hnext, hfirst, hfits⟩ := hs.handleData decode hmax true
  have hflatten : (s.fragments ++ [payload]).flatten = sent.getD [] ++ payload := by
    simp [hs.fragments]
  rw [heq, Inbound.handleData, if_neg hnext, if_neg hfirst]
  rw [if_neg hfits, if_neg (by decide), hflatten, htext]
  exact ⟨_, rfl, ⟨hs.outcome, rfl, rfl, rfl⟩, rfl⟩

/-- The loop takes one frame of a client off the buffer. -/
theorem readFrames_client (hsafe : maxMessageBytes ≤ 9007199254740991) {s t : Inbound T} {n : Nat}
    (frame : ClientFrame) (rest : List UInt8) (hbuffer : s.buffer = frame.bytes ++ rest)
    (hmax : frame.payload.length ≤ maxMessageBytes)
    (hctl : frame.opcode ≥ 8 → frame.fin = true ∧ frame.payload.length ≤ 125)
    (ht : s.handleFrame maxMessageBytes decode frame.opcode frame.fin frame.payload = some t)
    (hopen : t.outcome = none) :
    s.readFrames maxMessageBytes decode (n + 1) =
      ({ t with buffer := rest } : Inbound T).readFrames maxMessageBytes decode n := by
  have hparse := parseFrame_client frame rest hsafe hmax hctl
  have hhandle := handleFrame_buffer maxMessageBytes decode s frame.opcode frame.fin frame.payload rest
  rw [ht, map_some] at hhandle
  rw [readFrames, hbuffer, hparse]
  simp only
  rw [hhandle]
  simp only
  have hnot : ({ t with buffer := rest } : Inbound T).closed = false := not_closed_iff.mpr hopen
  rw [if_neg (by rw [hnot]; decide)]

/-- The frames that carry texts deliver them. -/
theorem readFrames_carries (hsafe : maxMessageBytes ≤ 9007199254740991) {frames : List ClientFrame} {texts : List T}
    (h : Carries maxMessageBytes decode sent frames texts) (hs : s.Pending sent)
    (hbuffer : s.buffer = frames.flatMap ClientFrame.bytes) {n : Nat} (hn : s.buffer.length < n) :
    (s.readFrames maxMessageBytes decode n).outcome = none ∧
      (s.readFrames maxMessageBytes decode n).messages = s.messages ++ texts := by
  induction h generalizing s n with
  | nil =>
    have hpartial : parseFrame maxMessageBytes s.buffer = .partialFrame := by
      rw [hbuffer]
      rfl
    cases n with
    | zero => omega
    | succ =>
      rw [readFrames, hpartial, append_nil]
      exact ⟨hs.outcome, rfl⟩
  | @control sent frames texts frame hop hfin h125 hmax _ ih =>
    rw [flatMap_cons] at hbuffer
    cases n with
    | zero => omega
    | succ n =>
      have hhandle : s.handleFrame maxMessageBytes decode frame.opcode frame.fin frame.payload =
          some s := by
        rw [handleFrame, if_neg (by omega), if_pos hop]
      rw [readFrames_client hsafe frame _ hbuffer hmax (fun _ => ⟨hfin, h125⟩) hhandle hs.outcome]
      refine ih (hs.keepBuffer _) rfl ?_
      have hpos : 0 < frame.bytes.length := succ_pos _
      rw [hbuffer, length_append] at hn
      show (frames.flatMap ClientFrame.bytes).length < n
      omega
  | @fragment sent frames texts frame hop hfin hrest ih =>
    have hmax := hrest.length_le
    rw [getD_some] at hmax
    obtain ⟨t, ht, hpending, hmessages⟩ := hs.handleFragment decode hmax
    rw [flatMap_cons] at hbuffer
    rw [length_append] at hmax
    cases n with
    | zero => omega
    | succ n =>
      have hlow : ¬ frame.opcode ≥ 8 := by
        rw [hop]
        cases sent <;> simp [dataOpcode]
      rw [readFrames_client hsafe frame _ hbuffer (by omega) (fun h8 => absurd h8 hlow)
        (by rw [hop, hfin]; exact ht) hpending.outcome, ← hmessages]
      refine ih (hpending.keepBuffer _) rfl ?_
      have hpos : 0 < frame.bytes.length := succ_pos _
      rw [hbuffer, length_append] at hn
      show (frames.flatMap ClientFrame.bytes).length < n
      omega
  | @message sent frames texts text frame hop hfin hmax htext _ ih =>
    obtain ⟨t, ht, hpending, hmessages⟩ := hs.handleMessage hmax htext
    rw [flatMap_cons] at hbuffer
    rw [length_append] at hmax
    cases n with
    | zero => omega
    | succ n =>
      have hlow : ¬ frame.opcode ≥ 8 := by
        rw [hop]
        cases sent <;> simp [dataOpcode]
      rw [readFrames_client hsafe frame _ hbuffer (by omega) (fun h8 => absurd h8 hlow)
        (by rw [hop, hfin]; exact ht) hpending.outcome,
        show s.messages ++ text :: texts = t.messages ++ texts by rw [hmessages]; simp]
      refine ih (hpending.keepBuffer _) rfl ?_
      have hpos : 0 < frame.bytes.length := succ_pos _
      rw [hbuffer, length_append] at hn
      show (frames.flatMap ClientFrame.bytes).length < n
      omega

theorem read_carries (hsafe : maxMessageBytes ≤ 9007199254740991) {frames : List ClientFrame}
    {texts : List T} (h : Carries maxMessageBytes decode none frames texts) :
    ((new : Inbound T).read maxMessageBytes decode (frames.flatMap ClientFrame.bytes)).outcome = none ∧
      ((new : Inbound T).read maxMessageBytes decode (frames.flatMap ClientFrame.bytes)).messages =
        texts := by
  exact readFrames_carries hsafe h (Pending.keepBuffer (s := new) ⟨rfl, rfl, rfl, rfl⟩ _) rfl
    (lt_succ_self _)

end Inbound

end Carries

/-! ## Chunks -/

section Chunks
variable {T : Type}

/-- The texts of a stream of frames are delivered whatever chunks the stream arrives in,
and any two runs over one stream agree; only a peer that is terminated, because an answer
to a ping did not fit its outbound queue, may have delivered fewer of them. -/
theorem webSocketPeer_chunk_independent (limits : WebSocketLimits)
    (decode : List UInt8 → Option T) :
    (∀ frames texts events t,
      Carries limits.maxMessageBytes decode none frames texts →
      stream events = frames.flatMap ClientFrame.bytes →
      run (webSocketStep limits decode) WebSocketPeer.new events = some t →
      t.inbound.messages <+: texts ∧
        (t.inbound.outcome ≠ some .terminated →
          t.inbound.outcome = none ∧ t.inbound.messages = texts)) ∧
    (∀ events events' t t', stream events = stream events' →
      run (webSocketStep limits decode) WebSocketPeer.new events = some t →
      run (webSocketStep limits decode) WebSocketPeer.new events' = some t' →
      t.inbound.outcome ≠ some .terminated → t'.inbound.outcome ≠ some .terminated →
      t.inbound.outcome = t'.inbound.outcome ∧ t.inbound.messages = t'.inbound.messages) := by
  constructor
  · intro frames texts events t hcarries hstream ht
    have hread : (Inbound.new.read limits.maxMessageBytes decode (stream events)).outcome = none ∧
        (Inbound.new.read limits.maxMessageBytes decode (stream events)).messages = texts := by
      rw [hstream]
      exact Inbound.read_carries limits.maxMessageBytes_safe hcarries
    constructor
    · have hchunks : Inbound.Same ((chunks events).foldl
          (fun s chunk => s.read limits.maxMessageBytes decode chunk) Inbound.new) _ :=
        Inbound.read_chunks (chunks events) Inbound.new (new_settled limits.maxMessageBytes)
      have hprefix : t.inbound.messages <+: ((chunks events).foldl
          (fun s chunk => s.read limits.maxMessageBytes decode chunk) Inbound.new).messages :=
        run_messages ht
      rw [hchunks.2.1, ← stream_eq] at hprefix
      rw [← hread.2]
      exact hprefix
    · intro h
      have hsame := run_inbound ht h
      exact ⟨hsame.1.trans hread.1, hsame.2.1.trans hread.2⟩
  · intro events events' t t' hstream ht ht' h h'
    have hsame := run_inbound ht h
    rw [hstream] at hsame
    have hboth := hsame.trans (run_inbound ht' h').symm
    exact ⟨hboth.1, hboth.2.1⟩

/-- A client that sends a ping, and a text in two fragments with a ping between them. -/
def smallLimits : WebSocketLimits := ⟨10, 10, 16, by decide⟩

def pingFrame : ClientFrame := ⟨9, true, [1, 2, 3, 4], [7, 7, 7, 7, 7], by decide, rfl⟩

def smallFrames : List ClientFrame :=
  [pingFrame, ⟨1, false, [9, 8, 7, 6], [104], by decide, rfl⟩, pingFrame,
    ⟨0, true, [5, 5, 5, 5], [105], by decide, rfl⟩]

theorem smallFrames_carries : Carries 10 some none smallFrames [[104, 105]] :=
  .control _ (Or.inl rfl) rfl (by decide) (by decide) <| .fragment _ rfl rfl <|
    .control _ (Or.inl rfl) rfl (by decide) (by decide) <| .message _ rfl rfl (by decide) rfl .nil

def smallEvents : List WebSocketEvent :=
  [.data (pingFrame.bytes.take 3), .data (pingFrame.bytes.drop 3), .sent 7,
    .data ((smallFrames.drop 1).flatMap ClientFrame.bytes)]

theorem webSocketPeer_chunk_independent_two_pings :
    (run (webSocketStep smallLimits some) WebSocketPeer.new smallEvents).map
      (fun t => (t.inbound.outcome, t.inbound.messages)) = some (none, [[104, 105]]) := by
  have hopen : (run (webSocketStep smallLimits some) WebSocketPeer.new smallEvents).map
      (fun t => t.inbound.outcome) ≠ some (some .terminated) := by decide +kernel
  cases ht : run (webSocketStep smallLimits some) WebSocketPeer.new smallEvents with
  | none => exact absurd ht (by decide +kernel)
  | some t =>
    rw [ht] at hopen
    have hterm : t.inbound.outcome ≠ some .terminated := fun h => hopen (congrArg some h)
    have hdelivered := ((webSocketPeer_chunk_independent smallLimits some).1 smallFrames
      [[104, 105]] smallEvents t smallFrames_carries (by decide +kernel) ht).2 hterm
    rw [map_some, hdelivered.1, hdelivered.2]

/-- In one chunk the second answer does not fit beside the first, which the socket has not
passed on yet. -/
theorem webSocketPeer_pong_terminates :
    (run (webSocketStep smallLimits some) WebSocketPeer.new
        [.data (smallFrames.flatMap ClientFrame.bytes)]).map
      (fun t => (t.inbound.outcome, t.inbound.messages)) = some (some .terminated, []) ∧
    (run (webSocketStep smallLimits some) WebSocketPeer.new
        [.data pingFrame.bytes, .sent 7, .data ((smallFrames.drop 1).flatMap ClientFrame.bytes)]).map
      (fun t => (t.inbound.outcome, t.inbound.messages)) = some (none, [[104, 105]]) ∧
    stream [.data (smallFrames.flatMap ClientFrame.bytes)] =
      stream [.data pingFrame.bytes, .sent 7, .data ((smallFrames.drop 1).flatMap ClientFrame.bytes)] := by
  decide +kernel

end Chunks

end PiDaemon.Protocol
