import PiDaemon.Protocol.BoundedLine

/-!
# The bounded writer of the bridge

`BoundedWriter`: lines go to a stream until it pushes back, and wait in a bounded queue until it
has drained.  `room` is how many lines the stream takes before it pushes back again; the stream
chooses it whenever it drains.  `accepted` and `written` only record.

* `Lined.write`, `Lined.flush`: the lines are written in the order in which they were accepted.
-/

namespace PiDaemon.Bridge

open Lib Protocol

section
variable {A : Type}

/-- A line, and what it is for. -/
structure OutputLine (A : Type) where
  source : A
  line : List UInt8

structure BoundedWriter (A : Type) where
  queue : List (OutputLine A) := []
  queuedBytes : Nat := 0
  blocked : Bool := false
  room : Nat
  written : List (OutputLine A) := []
  accepted : List (OutputLine A) := []

namespace BoundedWriter

/-- The loop of `#flush`. -/
def flushFrom (writer : BoundedWriter A) : List (OutputLine A) → BoundedWriter A
  | [] => { writer with queue := [] }
  | line :: rest =>
    if writer.blocked then { writer with queue := line :: rest }
    else
      flushFrom
        { writer with
          queuedBytes := writer.queuedBytes - line.line.length
          written := writer.written ++ [line]
          blocked := writer.room = 0
          room := writer.room - 1 }
        rest

def flush (writer : BoundedWriter A) : BoundedWriter A := writer.flushFrom writer.queue

/-- `write`; `none` when it calls `#onOverflow`. -/
def write (format : NumberFormat Rat) (maxBytes : Nat) (source : A) (value : JsValue Rat)
    (writer : BoundedWriter A) : Option (BoundedWriter A) :=
  match encodeBoundedLine format value maxBytes with
  | .error _ => none
  | .ok line =>
    if maxBytes < writer.queuedBytes + line.length then none
    else
      some <| flush
        { writer with
          queue := writer.queue ++ [⟨source, line⟩]
          queuedBytes := writer.queuedBytes + line.length
          accepted := writer.accepted ++ [⟨source, line⟩] }

/-- The stream has drained. -/
def drained (room : Nat) (writer : BoundedWriter A) : BoundedWriter A :=
  flush { writer with blocked := false, room }

/-- What `settled` waits for. -/
def isSettled (writer : BoundedWriter A) : Bool := writer.queue.isEmpty && !writer.blocked

/-- What has been accepted is written, or waits. -/
def Lined (writer : BoundedWriter A) : Prop := writer.accepted = writer.written ++ writer.queue

theorem flushFrom_spec (lines : List (OutputLine A)) (writer : BoundedWriter A)
    (h : writer.accepted = writer.written ++ lines) :
    (writer.flushFrom lines).Lined ∧ (writer.flushFrom lines).accepted = writer.accepted := by
  induction lines generalizing writer with
  | nil => exact ⟨h, rfl⟩
  | cons line rest ih =>
    unfold flushFrom
    split
    · exact ⟨h, rfl⟩
    · exact ih _ (by rw [h, List.append_assoc]; rfl)

variable {format : NumberFormat Rat} {maxBytes : Nat} {source : A} {value : JsValue Rat}
  {writer left : BoundedWriter A}

theorem write_spec (h : writer.Lined) (hwrite : writer.write format maxBytes source value = some left) :
    left.Lined ∧ ∃ line, encodeBoundedLine format value maxBytes = .ok line ∧
      left.accepted = writer.accepted ++ [⟨source, line⟩] := by
  unfold write at hwrite
  split at hwrite
  · cases hwrite
  rename_i line hencode
  split at hwrite
  · cases hwrite
  cases hwrite
  obtain ⟨hlined, haccepted⟩ := flushFrom_spec (writer.queue ++ [⟨source, line⟩])
    { writer with
      queue := writer.queue ++ [⟨source, line⟩]
      queuedBytes := writer.queuedBytes + line.length
      accepted := writer.accepted ++ [⟨source, line⟩] }
    (by rw [h, List.append_assoc])
  exact ⟨hlined, line, hencode, haccepted⟩

theorem drained_spec (h : writer.Lined) (room : Nat) :
    (writer.drained room).Lined ∧ (writer.drained room).accepted = writer.accepted :=
  flushFrom_spec writer.queue { writer with blocked := false, room } h

end BoundedWriter

end

end PiDaemon.Bridge
