import PiDaemon.Bridge.Machine
import PiDaemon.Lib.Resuming

/-!
# What the bridge says of the events

The events and the gaps that the bridge writes, as marks of the sequence that the daemon numbers,
and what each of its functions does to them, to its cursor and to its connection.

* `Says`: so many marks are written, and the connection stays;
* `Lost`: the connection is lost, and no mark is written;
* `says_local`, `lost_of_loses`, `delayElapsed_cases`: the steps besides those of frames.
-/

namespace PiDaemon.Bridge

open Lib Protocol List

/-- What an entry says of the sequence of events. -/
def Entry.mark? : Entry → Option Mark
  | .output (.event (some n)) => some (.item n)
  | .output _ => none
  | .gap => some .gap

def marksOf (log : List Entry) : List Mark := log.filterMap Entry.mark?

@[simp] theorem marksOf_append (log more : List Entry) : marksOf (log ++ more) = marksOf log ++ marksOf more :=
  filterMap_append

/-! ## What the bridge writes -/

/-- What the bridge does to the marks that it has written, and to its connection. -/
structure Says (added : List Mark) (s left : State) : Prop where
  marks : marksOf left.log = marksOf s.log ++ added
  cursor : left.lastCursor = s.lastCursor
  socket : left.socket.isNone = s.socket.isNone
  connections : left.connections = s.connections
  stopping : s.stopping = true → left.stopping = true
  delaying : left.phase = .delaying → s.phase = .delaying

variable {bridge : RpcStdioBridge} {s t left : State} {added more : List Mark}

theorem Says.refl (s : State) : Says [] s s := ⟨(append_nil _).symm, rfl, rfl, rfl, id, id⟩

theorem Says.trans (h : Says added s t) (ht : Says more t left) : Says (added ++ more) s left where
  marks := by rw [ht.marks, h.marks, append_assoc]
  cursor := ht.cursor.trans h.cursor
  socket := ht.socket.trans h.socket
  connections := ht.connections.trans h.connections
  stopping := ht.stopping ∘ h.stopping
  delaying := h.delaying ∘ ht.delaying

theorem Says.quiet (h : Says added s t) (ht : Says [] t left) : Says added s left := by
  have := h.trans ht
  rwa [append_nil] at this

open RpcStdioBridge

theorem says_stop (s : State) : Says [] s (stop s) := by
  unfold stop
  split
  · exact .refl s
  refine ⟨(append_nil _).symm, rfl, by cases s.socket <;> rfl, rfl, fun _ => rfl, fun h => ?_⟩
  split at h
  · cases h
  · exact h

theorem says_endRun (s : State) : Says [] s (endRun s) := by
  have hstop := says_stop s
  exact ⟨hstop.marks, hstop.cursor, hstop.socket, hstop.connections, hstop.stopping, fun h => by cases h⟩

theorem says_tryOutput {source : OutputSource} {value : JsValue Rat}
    (h : bridge.tryOutput source value s = some left) :
    Says (marksOf [.output source]) s left := by
  obtain ⟨_, -, rfl⟩ := Option.map_eq_some_iff.mp h
  exact ⟨marksOf_append _ _, rfl, rfl, rfl, id, id⟩

/-- A status says nothing of the events, but where it is a gap. -/
theorem says_tryStatus {event : String} {fields : JsMembers Rat}
    (h : bridge.tryStatus event fields s = some left) :
    Says [] s left ∨ (event = "replay_gap" ∧ Says [.gap] s left) := by
  unfold tryStatus at h
  split at h
  · cases h
    exact .inl (.refl s)
  · obtain ⟨_, -, rfl⟩ := Option.map_eq_some_iff.mp h
    by_cases hgap : event = "replay_gap"
    · exact .inr ⟨hgap, by rw [if_pos hgap, marksOf_append]; rfl, rfl, rfl, rfl, id, id⟩
    · exact .inl ⟨by rw [if_neg hgap, append_nil], rfl, rfl, rfl, id, id⟩

theorem says_answerInFlight (error : String) {write : OutputSource → JsValue Rat → State → State}
    (hwrite : ∀ answers value s, Says [] s (write (.response answers) value s)) (s : State) :
    Says [] s (answerInFlight error write s) := by
  unfold answerInFlight
  have hstart : Says [] s { s with inFlight := [] } := { Says.refl s with }
  generalize { s with inFlight := [] } = t at hstart ⊢
  generalize s.inFlight = items
  induction items generalizing t with
  | nil => exact hstart
  | cons p items ih =>
    refine ih _ (hstart.quiet (Says.quiet ?_ (hwrite _ _ _)))
    exact { Says.refl t with }

theorem says_fail (message : String) (s : State) : Says [] s (bridge.fail message s) := by
  unfold fail
  split
  · exact .refl s
  · have hfailed : Says [] s { s with failed := true } := { Says.refl s with }
    refine (hfailed.quiet (Says.quiet ?_ (says_answerInFlight _ (fun answers value t => ?_) _))).quiet
      (says_stop _)
    · cases h : bridge.tryStatus "fatal" (.cons (text "message") (.string (text message)) .nil)
          { s with failed := true } with
      | none => exact .refl _
      | some left =>
        rcases says_tryStatus h with hquiet | ⟨hgap, -⟩
        · exact hquiet
        · exact absurd hgap (by decide)
    · cases h : bridge.tryOutput (.response answers) value t with
      | none => exact .refl t
      | some => exact says_tryOutput h

theorem says_writeOutput (source : OutputSource) (value : JsValue Rat) (s : State) :
    Says [] s (bridge.writeOutput source value s) ∨
      Says (marksOf [.output source]) s (bridge.writeOutput source value s) := by
  unfold writeOutput
  cases h : bridge.tryOutput source value s with
  | none => exact .inl (says_fail _ s)
  | some => exact .inr (says_tryOutput h)

theorem says_response (answers : Option Nat) (value : JsValue Rat) (s : State) :
    Says [] s (bridge.writeOutput (.response answers) value s) :=
  (says_writeOutput _ value s).elim id id

theorem says_writeStatus (event : String) (fields : JsMembers Rat) (s : State) :
    Says [] s (bridge.writeStatus event fields s) ∨
      (event = "replay_gap" ∧ Says [.gap] s (bridge.writeStatus event fields s)) := by
  unfold writeStatus
  cases h : bridge.tryStatus event fields s with
  | none => exact .inl (says_fail _ s)
  | some => exact says_tryStatus h

theorem says_status (event : String) (hevent : event ≠ "replay_gap") (fields : JsMembers Rat) (s : State) :
    Says [] s (bridge.writeStatus event fields s) :=
  (says_writeStatus event fields s).resolve_right fun h => hevent h.1

theorem says_flush (s : State) : Says [] s (bridge.flush s) := by
  unfold flush
  split
  · rename_i socket pending rest hsocket hpending
    split
    · exact .refl s
    have htaken : Says [] s { s with pending := rest } := { Says.refl s with }
    split
    · exact htaken.quiet (says_fail _ _)
    · split <;> exact { Says.refl s with }
  · exact .refl s

theorem says_enqueue {value : JsValue Rat} (h : bridge.enqueue value s = some left) : Says [] s left := by
  unfold enqueue at h
  split at h
  · cases h
  split at h
  · cases h
    exact says_fail _ s
  cases h
  refine Says.quiet ?_ (says_flush _)
  exact { Says.refl s with }

theorem says_enqueueAll (values : List (JsValue Rat)) (s : State) : Says [] s (bridge.enqueueAll s values).1 := by
  induction values generalizing s with
  | nil => exact .refl s
  | cons value values ih =>
    unfold enqueueAll
    split
    · exact .refl s
    · rename_i t ht
      exact (says_enqueue ht).quiet (ih t)

theorem says_finishIfDrained (s : State) : Says [] s (finishIfDrained s) := by
  unfold finishIfDrained
  split
  · exact .refl s
  have hclosed : Says [] s
      { s with
        terminalDrainTimer := false
        socket := s.socket.map fun socket => { socket with closing := true } } :=
    ⟨(append_nil _).symm, rfl, by cases s.socket <;> rfl, rfl, id, id⟩
  dsimp only
  split
  · exact hclosed.quiet (says_endRun _)
  · exact hclosed

theorem says_settleInFlight (response : JsValue Rat) (s : State) : Says [] s (settleInFlight response s) := by
  unfold settleInFlight
  dsimp only
  split
  · exact .refl s
  · exact { Says.refl s with }

/-! ## Frames -/

theorem says_onResponse (frame : JsValue Rat) (answers : Option Nat) (s : State) :
    Says [] s (bridge.onResponse frame answers s) := by
  unfold onResponse
  dsimp only
  split
  · exact (((says_settleInFlight _ s).quiet (says_response _ _ _)).quiet (says_flush _)).quiet
      (says_finishIfDrained _)
  · exact says_fail _ s

theorem says_onControl (frame : JsValue Rat) (s : State) : Says [] s (bridge.onControl frame s) := by
  unfold onControl
  split
  · exact says_fail _ s
  · exact says_status _ (by decide) _ s

/-- The boundary says nothing, whatever becomes of the cursor. -/
theorem says_onReady (frame : JsValue Rat) (s : State) :
    ∃ cursor, Says [] { s with lastCursor := cursor } (bridge.onReady frame s) := by
  unfold onReady
  split
  · split
    · exact ⟨s.lastCursor, says_fail _ s⟩
    have hready (cursor : JsString) : Says [] { s with lastCursor := some cursor }
        { s with lastCursor := some cursor, ready := true } := { Says.refl s with cursor := rfl }
    exact ⟨some _, (((hready _).quiet (says_status _ (by decide) _ _)).quiet (says_flush _)).quiet
      (says_finishIfDrained _)⟩
  · exact ⟨s.lastCursor, says_fail _ s⟩

theorem says_onGap (frame : JsValue Rat) (s : State) :
    Says [] s (bridge.onGap frame s) ∨ Says [.gap] s (bridge.onGap frame s) := by
  unfold onGap
  split
  · have hcounted : Says [] s { s with gaps := s.gaps + 1 } := { Says.refl s with }
    rcases says_writeStatus "replay_gap" _ _ with hquiet | ⟨-, hgap⟩
    · exact .inl (hcounted.quiet hquiet)
    · exact .inr (hcounted.trans hgap)
  · exact .inl (says_fail _ s)

theorem says_onEvent (frame : JsValue Rat) (n : Nat) (s : State) :
    ∃ cursor, Says [] { s with lastCursor := cursor } (bridge.onEvent frame (some n) s) ∨
      Says [.item n] { s with lastCursor := cursor } (bridge.onEvent frame (some n) s) := by
  unfold onEvent
  split
  · exact ⟨s.lastCursor, .inl (says_fail _ s)⟩
  · exact ⟨_, says_writeOutput _ _ _⟩

/-! ## Connections -/

/-- What the bridge leaves when it has lost a connection. -/
structure Lost (s left : State) : Prop where
  marks : marksOf left.log = marksOf s.log
  cursor : left.lastCursor = s.lastCursor
  socket : left.socket = none
  connections : left.connections = s.connections
  stopping : s.stopping = true → left.stopping = true

theorem lost_dropSocket (s : State) : Lost s (dropSocket s) := ⟨rfl, rfl, rfl, rfl, id⟩

theorem Lost.quiet (h : Lost s t) (ht : Says [] t left) : Lost s left where
  marks := by rw [ht.marks, h.marks, append_nil]
  cursor := ht.cursor.trans h.cursor
  socket := Option.isNone_iff_eq_none.mp (by rw [ht.socket, h.socket]; rfl)
  connections := ht.connections.trans h.connections
  stopping := ht.stopping ∘ h.stopping

theorem Lost.reconnect (h : Lost s t) (fields : JsMembers Rat) : Lost s (bridge.reconnect fields t) := by
  unfold RpcStdioBridge.reconnect
  have hcounted : Lost s { t with reconnects := t.reconnects + 1 } := { h with }
  dsimp only
  have hwritten : Lost s (bridge.writeStatus "reconnecting"
      (.cons (text "attempt") (countJson t.attempts) fields) { t with reconnects := t.reconnects + 1 }) :=
    hcounted.quiet (says_status _ (by decide) _ _)
  split
  · exact hwritten.quiet (says_endRun _)
  · exact { hwritten with }

theorem lost_onClose (code : Nat) (opened : Bool) (s : State) : Lost s (bridge.onClose code opened s) := by
  unfold onClose
  have hdropped := lost_dropSocket s
  generalize dropSocket s = t at hdropped ⊢
  dsimp only
  split
  · exact hdropped.quiet (says_endRun _)
  · have hanswered : Lost s (bridge.failInFlight "connection_lost_indeterminate" t) :=
      hdropped.quiet (says_answerInFlight _ says_response t)
    generalize bridge.failInFlight "connection_lost_indeterminate" t = t at hanswered ⊢
    split
    · exact hanswered.quiet (says_endRun _)
    generalize (if opened then 0 else t.attempts) + 1 = attempts
    have hcounted : Lost s { t with attempts } := { hanswered with }
    split
    · exact (hcounted.quiet (says_fail _ _)).quiet (says_endRun _)
    · exact hcounted.reconnect _

theorem lost_onReject (retryable : Bool) (s : State) : Lost s (bridge.onReject retryable s) := by
  unfold onReject
  have hdropped := lost_dropSocket s
  generalize dropSocket s = t at hdropped ⊢
  dsimp only
  split
  · exact hdropped.quiet (says_endRun _)
  have hcounted : Lost s { t with attempts := t.attempts + 1 } := { hdropped with }
  split
  · exact (hcounted.quiet (says_fail _ _)).quiet (says_endRun _)
  · exact hcounted.reconnect _

/-! ## Steps -/

/-- The events at which a connection is lost. -/
def Event.loses : Event → Bool
  | .closed _ => true
  | .rejected _ => true
  | .connectionError => true
  | .binary => true
  | _ => false

/-- The events that neither arrive from the daemon nor begin or end a connection. -/
def Event.isLocal : Event → Bool
  | .message _ _ => false
  | .delayElapsed => false
  | e => !e.loses

theorem says_onData (values : List (JsValue Rat)) (s : State) : Says [] s (bridge.onData values s) := by
  unfold onData
  split
  · exact .refl s
  have hread : Says [] s (bridge.enqueueAll s values).1 := says_enqueueAll values s
  split
  · rename_i t ht
    rw [ht] at hread
    exact hread
  · rename_i t ht
    rw [ht] at hread
    exact hread.quiet (says_fail _ _)

theorem says_onInputEnd (values : Option (List (JsValue Rat))) (s : State) :
    Says [] s (bridge.onInputEnd values s) := by
  unfold onInputEnd
  split
  · exact .refl s
  split
  · exact says_fail _ s
  rename_i values
  have hread : Says [] s (bridge.enqueueAll s values).1 := says_enqueueAll values s
  split
  · rename_i t ht
    rw [ht] at hread
    exact hread.quiet (says_fail _ _)
  · rename_i t ht
    rw [ht] at hread
    have hended : Says [] s { t with inputEnded := true, terminalDrainTimer := !t.stopping } := { hread with }
    exact hended.quiet (says_finishIfDrained _)

theorem atSocket_some {f : Socket → Option State} (h : atSocket s f = some left) :
    ∃ socket, s.socket = some socket ∧ f socket = some left := by
  obtain ⟨_, h⟩ := Option.ite_none_right_eq_some.mp h
  exact Option.bind_eq_some_iff.mp h

theorem says_local {e : Event} (he : e.isLocal = true) (hstep : bridge.step s e = some left) :
    Says [] s left := by
  cases e with
  | data =>
    obtain ⟨_, hstep⟩ := Option.ite_none_left_eq_some.mp hstep
    cases hstep
    exact says_onData _ s
  | invalidData =>
    obtain ⟨_, hstep⟩ := Option.ite_none_left_eq_some.mp hstep
    cases hstep
    split
    · exact .refl s
    · exact says_fail _ s
  | inputEnd =>
    obtain ⟨_, hstep⟩ := Option.ite_none_left_eq_some.mp hstep
    cases hstep
    exact says_onInputEnd _ s
  | inputError | outputError | statusError =>
    cases hstep
    exact says_fail _ s
  | opened =>
    obtain ⟨socket, hsocket, hopened⟩ := atSocket_some hstep
    obtain ⟨_, hopened⟩ := Option.ite_none_left_eq_some.mp hopened
    cases hopened
    exact { Says.refl s with socket := by rw [hsocket]; rfl }
  | message | binary | rejected | connectionError | closed | delayElapsed => cases he
  | sendDone connection =>
    obtain ⟨_, rfl⟩ := Option.ite_some_none_eq_some.mp hstep
    have hdone : Says [] s { s with sends := s.sends.erase connection, sending := false } :=
      { Says.refl s with }
    split
    · exact hdone.quiet (says_fail _ _)
    · exact hdone.quiet (says_flush _)
  | deadline =>
    obtain ⟨_, rfl⟩ := Option.ite_some_none_eq_some.mp hstep
    have hdue : Says [] s { s with terminalDrainTimer := false } := { Says.refl s with }
    exact hdue.quiet (says_fail _ _)
  | outputDrained | statusDrained =>
    cases hstep
    exact { Says.refl s with }
  | stop =>
    cases hstep
    exact { says_stop s with }
  | finish =>
    obtain ⟨_, rfl⟩ := Option.ite_some_none_eq_some.mp hstep
    exact { Says.refl s with delaying := fun h => by cases h }

theorem lost_of_loses {e : Event} (he : e.loses = true) (hstep : bridge.step s e = some left) :
    Lost s left := by
  cases e with
  | binary =>
    obtain ⟨socket, -, hlost⟩ := atSocket_some hstep
    obtain ⟨_, rfl⟩ := Option.ite_some_none_eq_some.mp hlost
    exact lost_onReject _ s
  | rejected | connectionError =>
    obtain ⟨socket, -, hlost⟩ := atSocket_some hstep
    obtain ⟨_, hlost⟩ := Option.ite_none_left_eq_some.mp hlost
    cases hlost
    exact lost_onReject _ s
  | closed =>
    obtain ⟨socket, -, hlost⟩ := atSocket_some hstep
    cases hlost
    exact lost_onClose _ _ s
  | _ => cases he

theorem delayElapsed_cases (hstep : bridge.step s .delayElapsed = some left) :
    s.phase = .delaying ∧ (Says [] s left ∨ (s.stopping = false ∧ left = connect s)) := by
  obtain ⟨hphase, rfl⟩ := Option.ite_some_none_eq_some.mp hstep
  refine ⟨hphase, ?_⟩
  unfold loop
  split
  · exact .inl (says_endRun s)
  rename_i hruns
  split
  · exact .inl (says_endRun s)
  · exact .inr ⟨Bool.eq_false_iff.mpr hruns, rfl⟩

end PiDaemon.Bridge
