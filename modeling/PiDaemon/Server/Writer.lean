import Mathlib.Algebra.GroupWithZero.Nat
import PiDaemon.Protocol.BoundedLine

/-!
# The writer of a connection

`ConnectionWriter`: lines go to the socket while it takes them, and to a bounded queue while it
does not.  The kernel takes any number of bytes at any time.  `written` and `accepted` only
record: the lines that the socket was given, and those that the writer has accepted.

* `Ordered`: the lines are written in the order in which they were accepted, within the bound;
* `send_sends`: what a call of `send` may do;
* `Keeps`: what the other calls may do.
-/

namespace PiDaemon.Server

open Lib Protocol List

section
variable {A : Type}

/-- A line, and what it is the encoding of. -/
structure Record (A : Type) where
  source : A
  line : List UInt8
  deriving DecidableEq

def bytesOf (records : List (Record A)) : Nat := (records.map fun r => r.line.length).sum

structure Socket (A : Type) where
  writableLength : Nat := 0
  ended : Bool := false
  destroyed : Bool := false
  written : List (Record A) := []

/-- `socket.write(line)`, of which the kernel takes some bytes at once. -/
def Socket.write (highWaterMark took : Nat) (record : Record A) (socket : Socket A) :
    Bool × Socket A :=
  if socket.ended || socket.destroyed then (false, { socket with destroyed := true })
  else
    let length := socket.writableLength + record.line.length
    (length < highWaterMark,
      { socket with writableLength := length - took, written := socket.written ++ [record] })

structure ConnectionWriter (A : Type) where
  socket : Socket A := {}
  queue : List (Record A) := []
  queuedBytes : Nat := 0
  blocked : Bool := false
  closed : Bool := false
  endRequested : Bool := false
  accepted : List (Record A) := []

namespace ConnectionWriter

/-- `#overflow` and `destroy`. -/
def destroy (writer : ConnectionWriter A) : ConnectionWriter A :=
  if writer.closed then writer
  else
    { writer with
      closed := true
      queue := []
      queuedBytes := 0
      socket := { writer.socket with destroyed := true } }

/-- The part of `send` after the line has been encoded. -/
def put (maxOutboundBytes highWaterMark : Nat) (record : Record A) (writer : ConnectionWriter A) :
    ConnectionWriter A :=
  if !writer.blocked && writer.queue.isEmpty then
    if maxOutboundBytes < writer.socket.writableLength + record.line.length then writer.destroy
    else
      let (more, socket) := writer.socket.write highWaterMark 0 record
      { writer with blocked := !more, socket, accepted := writer.accepted ++ [record] }
  else if maxOutboundBytes <
      writer.socket.writableLength + writer.queuedBytes + record.line.length then
    writer.destroy
  else
    { writer with
      queue := writer.queue ++ [record]
      queuedBytes := writer.queuedBytes + record.line.length
      accepted := writer.accepted ++ [record] }

/-- `send`, and the error that it returns. -/
def send (format : NumberFormat Rat) (maxOutboundBytes highWaterMark : Nat) (source : A)
    (value : JsValue Rat) (maxRecordBytes : Nat) (writer : ConnectionWriter A) :
    Option EncodeError × ConnectionWriter A :=
  if writer.closed || writer.socket.destroyed then (none, writer)
  else
    match encodeBoundedLine format value maxRecordBytes with
    | .error error => (some error, writer)
    | .ok line => (none, writer.put maxOutboundBytes highWaterMark ⟨source, line⟩)

/-- `end` -/
def finish (writer : ConnectionWriter A) : ConnectionWriter A :=
  if writer.closed || writer.socket.destroyed then writer
  else if !writer.blocked && writer.queue.isEmpty then
    { writer with endRequested := true, socket := { writer.socket with ended := true } }
  else { writer with endRequested := true }

/-- The loop of `#flush`; of each line the kernel takes some bytes at once. -/
def drain (maxOutboundBytes highWaterMark : Nat) (writer : ConnectionWriter A) :
    List (Record A) → List Nat → ConnectionWriter A
  | [], _ =>
    if writer.endRequested then
      { writer with queue := [], socket := { writer.socket with ended := true } }
    else { writer with queue := [] }
  | record :: rest, taken =>
    let queuedBytes := writer.queuedBytes - record.line.length
    if maxOutboundBytes < writer.socket.writableLength + record.line.length then
      { writer with queue := rest, queuedBytes }.destroy
    else
      let (more, socket) := writer.socket.write highWaterMark (taken.headD 0) record
      let writer := { writer with queue := rest, queuedBytes, socket }
      if more then writer.drain maxOutboundBytes highWaterMark rest taken.tail
      else { writer with blocked := true }

def flush (maxOutboundBytes highWaterMark : Nat) (taken : List Nat) (writer : ConnectionWriter A) :
    ConnectionWriter A :=
  if writer.closed then writer
  else { writer with blocked := false }.drain maxOutboundBytes highWaterMark writer.queue taken

/-- The kernel takes bytes. -/
def take (n : Nat) (writer : ConnectionWriter A) : ConnectionWriter A :=
  { writer with
    socket := { writer.socket with writableLength := writer.socket.writableLength - n } }

/-- The socket is destroyed by the peer or by the server. -/
def lose (writer : ConnectionWriter A) : ConnectionWriter A :=
  { writer with socket := { writer.socket with destroyed := true } }

/-! ## Order and bound -/

def Alive (writer : ConnectionWriter A) : Prop :=
  writer.closed = false ∧ writer.socket.destroyed = false

instance (writer : ConnectionWriter A) : Decidable writer.Alive := inferInstanceAs (Decidable (_ ∧ _))

structure Ordered (maxOutboundBytes : Nat) (writer : ConnectionWriter A) : Prop where
  inOrder : writer.socket.written <+: writer.accepted
  bounded : writer.socket.writableLength + bytesOf writer.queue ≤ maxOutboundBytes
  counted : writer.queuedBytes = bytesOf writer.queue
  whole : writer.Alive → writer.accepted = writer.socket.written ++ writer.queue

/-- Nothing more is accepted, and a writer that was lost stays lost. -/
structure Keeps (writer writer' : ConnectionWriter A) : Prop where
  accepted : writer'.accepted = writer.accepted
  alive : writer'.Alive → writer.Alive

theorem Keeps.refl (writer : ConnectionWriter A) : Keeps writer writer :=
  ⟨rfl, fun h => h⟩

theorem Keeps.trans {a b c : ConnectionWriter A} (h : Keeps a b) (h' : Keeps b c) : Keeps a c :=
  ⟨h'.accepted.trans h.accepted, fun hc => h.alive (h'.alive hc)⟩

@[simp] theorem bytesOf_nil : bytesOf ([] : List (Record A)) = 0 := rfl

@[simp] theorem bytesOf_cons (record : Record A) (records : List (Record A)) :
    bytesOf (record :: records) = record.line.length + bytesOf records := rfl

@[simp] theorem bytesOf_append (records more : List (Record A)) :
    bytesOf (records ++ more) = bytesOf records + bytesOf more := by
  simp [bytesOf]

variable {maxOutboundBytes highWaterMark : Nat} {writer : ConnectionWriter A}

theorem not_alive_destroy : ¬ writer.destroy.Alive := by
  unfold destroy
  split
  · rename_i hclosed
    exact fun h => absurd hclosed (by simp [h.1])
  · exact fun h => by cases h.1

theorem accepted_destroy : writer.destroy.accepted = writer.accepted := by
  unfold destroy
  split <;> rfl

theorem Ordered.destroy (h : Ordered maxOutboundBytes writer) :
    Ordered maxOutboundBytes writer.destroy := by
  have hlost : ¬ writer.destroy.Alive := not_alive_destroy
  unfold ConnectionWriter.destroy at hlost ⊢
  split
  · exact h
  rename_i hopen
  rw [if_neg hopen] at hlost
  exact
    { inOrder := h.inOrder
      bounded := Nat.le_trans (Nat.le_add_right _ _) h.bounded
      counted := rfl
      whole := fun halive => absurd halive hlost }

/-- A socket that takes no more lines is destroyed by the next one. -/
theorem Socket.write_cases (highWaterMark took : Nat) (record : Record A) (socket : Socket A) :
    ((socket.write highWaterMark took record).2.destroyed = true ∧
        (socket.write highWaterMark took record).2.written = socket.written ∧
        (socket.write highWaterMark took record).2.writableLength = socket.writableLength) ∨
      (socket.destroyed = false ∧ (socket.write highWaterMark took record).2.destroyed = false ∧
        (socket.write highWaterMark took record).2.written = socket.written ++ [record] ∧
        (socket.write highWaterMark took record).2.writableLength =
          socket.writableLength + record.line.length - took) := by
  unfold Socket.write
  split
  · exact .inl ⟨rfl, rfl, rfl⟩
  rename_i hopen
  rw [Bool.or_eq_true, not_or, Bool.not_eq_true, Bool.not_eq_true] at hopen
  exact .inr ⟨hopen.2, hopen.2, rfl, rfl⟩

theorem put_cases (maxOutboundBytes highWaterMark : Nat) (writer : ConnectionWriter A)
    (record : Record A) :
    (¬ (writer.put maxOutboundBytes highWaterMark record).Alive ∧
        (writer.put maxOutboundBytes highWaterMark record).accepted = writer.accepted) ∨
      (writer.put maxOutboundBytes highWaterMark record).accepted = writer.accepted ++ [record] := by
  unfold put
  split
  · split
    · exact .inl ⟨not_alive_destroy, accepted_destroy⟩
    · exact .inr rfl
  · split
    · exact .inl ⟨not_alive_destroy, accepted_destroy⟩
    · exact .inr rfl

theorem Ordered.put (h : Ordered maxOutboundBytes writer) (halive : writer.Alive) (record : Record A) :
    Ordered maxOutboundBytes (writer.put maxOutboundBytes highWaterMark record) := by
  unfold ConnectionWriter.put
  split
  · rename_i hdirect
    rw [Bool.and_eq_true, List.isEmpty_iff] at hdirect
    have hwhole : writer.accepted = writer.socket.written := by
      rw [h.whole halive, hdirect.2, append_nil]
    split
    · exact h.destroy
    rcases Socket.write_cases highWaterMark 0 record writer.socket with ⟨hlost, hwritten, hlength⟩ | ⟨-, -, hwritten, hlength⟩
    · refine ⟨?_, ?_, h.counted, fun hc => ?_⟩
      · rw [hwritten, hwhole]
        exact prefix_append _ _
      · rw [hlength]
        exact h.bounded
      · exact absurd hc.2 (by simp [hlost])
    · refine ⟨?_, ?_, h.counted, fun _ => ?_⟩
      · simp only [hwritten, hwhole, prefix_rfl]
      · rw [hlength, hdirect.2, bytesOf_nil]
        omega
      · rw [hwritten, hwhole, hdirect.2, append_nil]
  · split
    · exact h.destroy
    rename_i hroom
    rw [h.counted] at hroom
    refine ⟨h.inOrder.trans (prefix_append _ _), ?_, ?_, fun hc => ?_⟩
    · dsimp only
      rw [bytesOf_append, bytesOf_cons, bytesOf_nil]
      omega
    · dsimp only
      rw [h.counted, bytesOf_append, bytesOf_cons, bytesOf_nil]
      omega
    · rw [h.whole hc, append_assoc]

/-- What a call of `send` may do. -/
inductive Sends (format : NumberFormat Rat) (source : A) (value : JsValue Rat) (maxRecordBytes : Nat)
    (writer : ConnectionWriter A) : Option EncodeError → ConnectionWriter A → Prop where
  | failed {error : EncodeError} (h : encodeBoundedLine format value maxRecordBytes = .error error) :
      Sends format source value maxRecordBytes writer (some error) writer
  | lost {left : ConnectionWriter A} (h : ¬ left.Alive) (haccepted : left.accepted = writer.accepted) :
      Sends format source value maxRecordBytes writer none left
  | sent {line : List UInt8} {left : ConnectionWriter A}
      (h : encodeBoundedLine format value maxRecordBytes = .ok line) (halive : writer.Alive)
      (haccepted : left.accepted = writer.accepted ++ [⟨source, line⟩]) :
      Sends format source value maxRecordBytes writer none left

theorem send_sends (maxOutboundBytes highWaterMark : Nat) (writer : ConnectionWriter A)
    (format : NumberFormat Rat) (source : A) (value : JsValue Rat) (maxRecordBytes : Nat) :
    Sends format source value maxRecordBytes writer
      (writer.send format maxOutboundBytes highWaterMark source value maxRecordBytes).1
      (writer.send format maxOutboundBytes highWaterMark source value maxRecordBytes).2 := by
  unfold send
  split
  · rename_i hlost
    rw [Bool.or_eq_true] at hlost
    refine .lost (fun h => ?_) rfl
    rcases hlost with hlost | hlost
    · exact absurd (h.1.symm.trans hlost) (by decide)
    · exact absurd (h.2.symm.trans hlost) (by decide)
  · rename_i halive
    rw [Bool.or_eq_true, not_or, Bool.not_eq_true, Bool.not_eq_true] at halive
    split
    · rename_i hencode
      exact .failed hencode
    rename_i line hencode
    rcases put_cases maxOutboundBytes highWaterMark writer ⟨source, line⟩ with
      ⟨hlost, haccepted⟩ | haccepted
    · exact .lost hlost haccepted
    · exact .sent hencode halive haccepted

theorem Ordered.send (h : Ordered maxOutboundBytes writer) (highWaterMark : Nat)
    (format : NumberFormat Rat) (source : A) (value : JsValue Rat) (maxRecordBytes : Nat) :
    Ordered maxOutboundBytes
      (writer.send format maxOutboundBytes highWaterMark source value maxRecordBytes).2 := by
  unfold ConnectionWriter.send
  split
  · exact h
  rename_i halive
  rw [Bool.or_eq_true, not_or, Bool.not_eq_true, Bool.not_eq_true] at halive
  split
  · exact h
  · exact h.put halive _

/-! ### The other calls -/

theorem finish_keeps : Keeps writer writer.finish := by
  unfold finish
  split
  · exact .refl writer
  split
  · exact ⟨rfl, fun h => h⟩
  · exact ⟨rfl, fun h => h⟩

theorem Ordered.finish (h : Ordered maxOutboundBytes writer) : Ordered maxOutboundBytes writer.finish := by
  unfold ConnectionWriter.finish
  split
  · exact h
  split
  · exact ⟨h.inOrder, h.bounded, h.counted, h.whole⟩
  · exact ⟨h.inOrder, h.bounded, h.counted, h.whole⟩

theorem drain_spec (highWaterMark : Nat) (records : List (Record A)) (taken : List Nat) (writer : ConnectionWriter A)
    (hclosed : writer.closed = false)
    (h : Ordered maxOutboundBytes { writer with queue := records }) :
    Ordered maxOutboundBytes (writer.drain maxOutboundBytes highWaterMark records taken) ∧
      Keeps writer (writer.drain maxOutboundBytes highWaterMark records taken) := by
  induction records generalizing writer taken with
  | nil =>
    unfold drain
    split
    · exact ⟨⟨h.inOrder, h.bounded, h.counted, h.whole⟩, rfl, fun ha => ha⟩
    · exact ⟨⟨h.inOrder, h.bounded, h.counted, h.whole⟩, rfl, fun ha => ha⟩
  | cons record rest ih =>
    have hcounted : writer.queuedBytes - record.line.length = bytesOf rest := by
      have : writer.queuedBytes = record.line.length + bytesOf rest := h.counted
      omega
    have hbounded : writer.socket.writableLength + (record.line.length + bytesOf rest) ≤
        maxOutboundBytes := h.bounded
    have hwhole : writer.Alive → writer.accepted = writer.socket.written ++ record :: rest := h.whole
    unfold drain
    rw [if_neg (by omega)]
    have hwrite := Socket.write_cases highWaterMark (taken.headD 0) record writer.socket
    generalize writer.socket.write highWaterMark (taken.headD 0) record = wrote at hwrite
    obtain ⟨_, socket⟩ := wrote
    dsimp only at hwrite ⊢
    rw [hcounted]
    have hkept : Keeps writer { writer with queue := rest, queuedBytes := bytesOf rest, socket } := by
      refine ⟨rfl, fun ha => ⟨ha.1, ?_⟩⟩
      rcases hwrite with ⟨hlost, -, -⟩ | ⟨hopen, -, -, -⟩
      · exact absurd (ha.2.symm.trans hlost) (by decide)
      · exact hopen
    have hordered : Ordered maxOutboundBytes
        { writer with queue := rest, queuedBytes := bytesOf rest, socket } := by
      rcases hwrite with ⟨hlost, hwritten, hlength⟩ | ⟨hopen, -, hwritten, hlength⟩
      · refine ⟨?_, ?_, rfl, fun ha => absurd (ha.2.symm.trans hlost) (by decide)⟩
        · rw [hwritten]
          exact h.inOrder
        · dsimp only
          omega
      · refine ⟨?_, ?_, rfl, fun ha => ?_⟩
        · rw [hwritten, hwhole ⟨hclosed, hopen⟩]
          exact ⟨rest, by rw [append_assoc]; rfl⟩
        · dsimp only
          omega
        · rw [hwritten, hwhole ⟨hclosed, hopen⟩, append_assoc]
          rfl
    split
    · obtain ⟨hdone, hsteps⟩ := ih taken.tail
        { writer with queue := rest, queuedBytes := bytesOf rest, socket } hclosed hordered
      exact ⟨hdone, hkept.trans hsteps⟩
    · exact ⟨⟨hordered.inOrder, hordered.bounded, hordered.counted, hordered.whole⟩,
        hkept.accepted, hkept.alive⟩

theorem flush_spec (highWaterMark : Nat) (h : Ordered maxOutboundBytes writer) (taken : List Nat) :
    Ordered maxOutboundBytes (writer.flush maxOutboundBytes highWaterMark taken) ∧
      Keeps writer (writer.flush maxOutboundBytes highWaterMark taken) := by
  unfold flush
  split
  · exact ⟨h, .refl writer⟩
  rename_i hopen
  rw [Bool.not_eq_true] at hopen
  obtain ⟨hordered, hkeeps⟩ := drain_spec highWaterMark writer.queue taken
    { writer with blocked := false } hopen ⟨h.inOrder, h.bounded, h.counted, h.whole⟩
  exact ⟨hordered, hkeeps.accepted, hkeeps.alive⟩

theorem Ordered.take (h : Ordered maxOutboundBytes writer) (n : Nat) :
    Ordered maxOutboundBytes (writer.take n) :=
  ⟨h.inOrder, Nat.le_trans (Nat.add_le_add_right (Nat.sub_le _ _) _) h.bounded, h.counted, h.whole⟩

theorem take_keeps (n : Nat) : Keeps writer (writer.take n) := ⟨rfl, fun h => h⟩

theorem Ordered.lose (h : Ordered maxOutboundBytes writer) : Ordered maxOutboundBytes writer.lose :=
  ⟨h.inOrder, h.bounded, h.counted, fun ha => by cases ha.2⟩

theorem lose_keeps : Keeps writer writer.lose := ⟨rfl, fun h => by cases h.2⟩

theorem ordered_new : Ordered maxOutboundBytes ({} : ConnectionWriter A) :=
  ⟨prefix_rfl, Nat.zero_le _, rfl, fun _ => rfl⟩

end ConnectionWriter

end

end PiDaemon.Server
