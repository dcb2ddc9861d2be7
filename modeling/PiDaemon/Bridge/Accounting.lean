import Mathlib.Algebra.Ring.Int.Defs
import PiDaemon.Bridge.Machine
import Mathlib.Data.List.Count

/-!
# The commands of the stdio bridge

Every value that is read is in one place: waiting, in flight, answered, or sent without an answer
to come.  What is counted here are the places of each number.

* `Ledger`: the bytes, the limit, and that a command is sent once;
* `Balanced`: the places of the commands, for a bridge that has not failed;
* `accounted_run`: both along every run in which frames fit and responses can be told apart.
-/

namespace PiDaemon.Bridge

open Lib Protocol List Option

def bytesOf (commands : List PendingCommand) : Int := (commands.map fun c => (c.bytes : Int)).sum

@[simp] theorem bytesOf_nil : bytesOf [] = 0 := rfl

@[simp] theorem bytesOf_cons (c : PendingCommand) (commands : List PendingCommand) :
    bytesOf (c :: commands) = c.bytes + bytesOf commands := rfl

@[simp] theorem bytesOf_append (commands more : List PendingCommand) :
    bytesOf (commands ++ more) = bytesOf commands + bytesOf more := by
  simp [bytesOf]

/-- How often a number is among the commands. -/
def among (n : Nat) (commands : List PendingCommand) : Nat := (commands.map PendingCommand.number).count n

@[simp] theorem among_nil (n : Nat) : among n [] = 0 := rfl

@[simp] theorem among_cons (n : Nat) (c : PendingCommand) (commands : List PendingCommand) :
    among n (c :: commands) = among n commands + if c.number = n then 1 else 0 := by
  simp [among, count_cons]

@[simp] theorem among_append (n : Nat) (commands more : List PendingCommand) :
    among n (commands ++ more) = among n commands + among n more := by
  simp [among]

/-- The command that a line answers. -/
def OutputSource.answers? : OutputSource → Option Nat
  | .response answers => answers
  | .event _ => none

/-- The commands that lines of output answer. -/
def answersOf (lines : List (OutputLine OutputSource)) : List Nat :=
  lines.filterMap fun line => line.source.answers?

section
variable (bridge : RpcStdioBridge)

/-- The frame of a value can be sent. -/
def IsSendable (value : JsValue Rat) : Prop :=
  (encodeBoundedLine bridge.format (commandFrame value) bridge.limits.maxMessageBytes).isOk = true

/-- A value that is not too long for a line is not too long for a frame. -/
def Fits (value : JsValue Rat) : Prop :=
  (encodeBoundedLine bridge.format value bridge.limits.maxLineBytes).isOk = true → IsSendable bridge value

instance (value : JsValue Rat) : Decidable (IsSendable bridge value) := inferInstanceAs (Decidable (_ = _))

instance (value : JsValue Rat) : Decidable (Fits bridge value) := inferInstanceAs (Decidable (_ → _))

/-- The bytes that are retained, besides those of `rest`. -/
structure Ledger (s : State) (rest : List PendingCommand) : Prop where
  retained : s.retainedInputBytes = bytesOf s.pending + bytesOf s.inFlight + bytesOf rest
  sendable : ∀ p ∈ s.pending, IsSendable bridge p.value
  limit : s.inFlight.length ≤ bridge.limits.maxInFlightCommands
  once : ∀ n, s.sent.count n + among n s.pending ≤ if n < s.total then 1 else 0
  lined : s.output.Lined

/-- Every number has one place; `rest` are the commands that are about to be answered. -/
def Balanced (s : State) (rest : List PendingCommand) : Prop :=
  s.failed = false → ∀ n,
    among n s.pending + among n s.inFlight + among n rest + (answersOf s.output.accepted).count n +
      s.uiResponses.count n = if n < s.total then 1 else 0

/-- Nothing is left to be answered. -/
def IsIdle (s : State) : Prop := s.pending = [] ∧ s.inFlight = []

/-- A bridge may stop when it has failed, was told to, or has nothing left to do. -/
def MayStop (s : State) : Prop := s.failed = true ∨ s.stopCalled = true ∨ IsIdle s

structure Accounted (s : State) (rest : List PendingCommand) : Prop extends Ledger bridge s rest where
  balanced : Balanced s rest
  stops : s.stopping = true → MayStop s
  halted : s.phase = .connected ∨ s.phase = .delaying ∨ s.stopping = true

variable {bridge} {s : State} {rest : List PendingCommand}

open RpcStdioBridge

/-! ## Failing and stopping -/

theorem stop_same : stop s =
    { s with
      stopping := true
      terminalDrainTimer := (stop s).terminalDrainTimer
      socket := (stop s).socket
      phase := (stop s).phase } := by
  unfold stop
  split
  · rename_i hstopping
    rw [← hstopping]
  · rfl

variable {source : OutputSource} {value : JsValue Rat} {left : State}

/-- What the bridge keeps beside its accounts may change. -/
theorem Accounted.same (h : Accounted bridge s rest) (hsame : left =
      { s with
        socket := left.socket
        ready := left.ready
        sending := left.sending
        inputEnded := left.inputEnded
        lastCursor := left.lastCursor
        reconnects := left.reconnects
        gaps := left.gaps
        attempts := left.attempts
        terminalDrainTimer := left.terminalDrainTimer
        status := left.status
        connections := left.connections
        sends := left.sends
        log := left.log }) : Accounted bridge left rest := by
  rw [hsame]
  exact
    { retained := h.retained
      sendable := h.sendable
      limit := h.limit
      once := h.once
      lined := h.lined
      balanced := h.balanced
      stops := h.stops
      halted := h.halted }

theorem Accounted.withPhase {phase : Phase} (h : Accounted bridge s rest)
    (hhalted : phase = .connected ∨ phase = .delaying ∨ s.stopping = true) :
    Accounted bridge { s with phase } rest :=
  { retained := h.retained
    sendable := h.sendable
    limit := h.limit
    once := h.once
    lined := h.lined
    balanced := h.balanced
    stops := h.stops
    halted := hhalted }

theorem Accounted.stop (h : Accounted bridge s rest) (hmay : MayStop s) :
    Accounted bridge (stop s) rest := by
  rw [stop_same]
  exact
    { retained := h.retained
      sendable := h.sendable
      limit := h.limit
      once := h.once
      lined := h.lined
      balanced := h.balanced
      stops := fun _ => hmay
      halted := Or.inr (Or.inr rfl) }

theorem Accounted.endRun (h : Accounted bridge s rest) (hmay : MayStop s) :
    Accounted bridge (endRun s) rest :=
  (h.stop hmay).withPhase (.inr (.inr (by rw [stop_same])))

/-- What writing a line leaves of the state. -/
structure Wrote (source : OutputSource) (s left : State) : Prop where
  same : left = { s with output := left.output, log := left.log }
  lined : s.output.Lined → left.output.Lined
  answers : s.output.Lined →
    answersOf left.output.accepted = answersOf s.output.accepted ++ source.answers?.toList

theorem tryOutput_wrote (h : bridge.tryOutput source value s = some left) : Wrote source s left := by
  obtain ⟨_, houtput, rfl⟩ := map_eq_some_iff.mp h
  refine ⟨rfl, fun hlined => (BoundedWriter.write_spec hlined houtput).1, fun hlined => ?_⟩
  obtain ⟨-, _, -, haccepted⟩ := BoundedWriter.write_spec hlined houtput
  rw [haccepted, answersOf, filterMap_append]
  cases source with
  | event => rfl
  | response answers => cases answers <;> rfl

theorem tryStatus_same {event : String} {fields : JsMembers Rat} (h : bridge.tryStatus event fields s = some left) :
    left = { s with status := left.status, log := left.log } := by
  unfold tryStatus at h
  split at h
  · cases h
    rfl
  · obtain ⟨status, -, rfl⟩ := map_eq_some_iff.mp h
    rfl

theorem tryStatus_getD_same (event : String) (fields : JsMembers Rat) :
    (bridge.tryStatus event fields s).getD s =
      { s with
        status := ((bridge.tryStatus event fields s).getD s).status
        log := ((bridge.tryStatus event fields s).getD s).log } := by
  cases h : bridge.tryStatus event fields s with
  | none => rfl
  | some => exact tryStatus_same h

theorem Ledger.wrote (h : Ledger bridge s rest) (hwrote : Wrote source s left) : Ledger bridge left rest := by
  rw [hwrote.same]
  exact ⟨h.retained, h.sendable, h.limit, h.once, hwrote.lined h.lined⟩

theorem Balanced.wrote {p : PendingCommand} (h : Balanced s (p :: rest)) (hlined : s.output.Lined)
    (hwrote : Wrote (.response (some p.number)) s left) : Balanced left rest := by
  have hanswers := hwrote.answers hlined
  rw [hwrote.same]
  intro hfailed n
  have := h hfailed n
  rw [hanswers, count_append]
  simp only [among_cons, OutputSource.answers?, toList_some, count_singleton,
    beq_iff_eq] at this ⊢
  omega

theorem Ledger.giveBack {p : PendingCommand} (h : Ledger bridge s (p :: rest)) :
    Ledger bridge { s with retainedInputBytes := s.retainedInputBytes - p.bytes } rest where
  retained := by
    have := h.retained
    rw [bytesOf_cons] at this
    dsimp only
    omega
  sendable := h.sendable
  limit := h.limit
  once := h.once
  lined := h.lined

theorem Ledger.takeInFlight (h : Ledger bridge s rest) :
    Ledger bridge { s with inFlight := [] } (s.inFlight ++ rest) where
  retained := by
    rw [bytesOf_nil, bytesOf_append]
    have := h.retained
    dsimp only
    omega
  sendable := h.sendable
  limit := Nat.zero_le _
  once := h.once
  lined := h.lined

/-- What holds of the commands in flight, and of each rest of them, holds when none is left. -/
theorem answerInFlight_induct {motive : State → List PendingCommand → Prop} {error : String}
    {write : OutputSource → JsValue Rat → State → State}
    (hstep : ∀ s p rest, motive s (p :: rest) →
      motive (write (.response (some p.number)) (indeterminateResponse p error)
        { s with retainedInputBytes := s.retainedInputBytes - p.bytes }) rest)
    (h : motive { s with inFlight := [] } (s.inFlight ++ rest)) :
    motive (answerInFlight error write s) rest := by
  unfold answerInFlight
  generalize { s with inFlight := [] } = t at h ⊢
  generalize s.inFlight = items at h ⊢
  induction items generalizing t with
  | nil => exact h
  | cons p items ih => exact ih _ (hstep t p (items ++ rest) h)

theorem Ledger.withStatus {status : Option (BoundedWriter String)} {log : List Entry}
    (h : Ledger bridge s rest) : Ledger bridge { s with status, log } rest :=
  ⟨h.retained, h.sendable, h.limit, h.once, h.lined⟩

/-- The answers of a bridge that has failed, as far as they can be written. -/
theorem tryAnswers (h : Ledger bridge s rest) (hfailed : s.failed = true) (error : String) :
    let left := answerInFlight error (fun source value s => (bridge.tryOutput source value s).getD s) s
    Ledger bridge left rest ∧ left.failed = true ∧ left.inFlight = [] := by
  apply answerInFlight_induct
    (motive := fun s rest => Ledger bridge s rest ∧ s.failed = true ∧ s.inFlight = [])
  · rintro t p rest ⟨hledger, hfailed, hnone⟩
    have hgiven := hledger.giveBack
    cases houtput : bridge.tryOutput (.response (some p.number)) (indeterminateResponse p error)
        { t with retainedInputBytes := t.retainedInputBytes - p.bytes } with
    | none => exact ⟨hgiven, hfailed, hnone⟩
    | some left =>
      have hwrote := tryOutput_wrote houtput
      refine ⟨hgiven.wrote hwrote, ?_, ?_⟩
      · rw [hwrote.same]
        exact hfailed
      · rw [hwrote.same]
        exact hnone
  · exact ⟨h.takeInFlight, hfailed, rfl⟩

/-- Failing accounts for every command, also when not every one can be answered. -/
theorem fail_spec (message : String) (h : Ledger bridge s rest)
    (hhalted : s.phase = .connected ∨ s.phase = .delaying ∨ s.stopping = true) :
    Accounted bridge (bridge.fail message s) rest ∧
      (bridge.fail message s).failed = true ∧
      (s.inFlight = [] → (bridge.fail message s).inFlight = []) := by
  unfold fail
  split
  · rename_i hfailed
    exact ⟨
      { toLedger := h
        balanced := fun hnot => by rw [hfailed] at hnot; cases hnot
        stops := fun _ => .inl hfailed
        halted := hhalted }, hfailed, id⟩
  · have hstart : Ledger bridge { s with failed := true } rest :=
      ⟨h.retained, h.sendable, h.limit, h.once, h.lined⟩
    dsimp only
    rw [tryStatus_getD_same]
    generalize ((bridge.tryStatus "fatal" _ _).getD _).status = status
    generalize ((bridge.tryStatus "fatal" _ _).getD _).log = log
    obtain ⟨hledger, hfailed, hnone⟩ :=
      tryAnswers hstart.withStatus rfl "bridge_failed_indeterminate"
    rw [stop_same]
    exact ⟨
      { retained := hledger.retained
        sendable := hledger.sendable
        limit := hledger.limit
        once := hledger.once
        lined := hledger.lined
        balanced := fun hnot => by
          rw [show _ = true from hfailed] at hnot
          cases hnot
        stops := fun _ => .inl hfailed
        halted := .inr (.inr rfl) }, hfailed, fun _ => hnone⟩

theorem Accounted.fail (h : Accounted bridge s rest) (message : String) :
    Accounted bridge (bridge.fail message s) rest :=
  (fail_spec message h.toLedger h.halted).1

/-! ## Writing -/

theorem Accounted.answer {p : PendingCommand} (h : Accounted bridge s (p :: rest))
    (hleft : left = { s with retainedInputBytes := s.retainedInputBytes - p.bytes }) :
    Accounted bridge (bridge.writeOutput (.response (some p.number)) value left) rest := by
  have hgiven : Ledger bridge left rest := hleft ▸ h.toLedger.giveBack
  have hbalanced : Balanced left (p :: rest) := hleft ▸ h.balanced
  have hhalted : left.phase = .connected ∨ left.phase = .delaying ∨ left.stopping = true :=
    hleft ▸ h.halted
  have hstops : left.stopping = true → MayStop left := hleft ▸ h.stops
  unfold writeOutput
  cases houtput : bridge.tryOutput (.response (some p.number)) value left with
  | none => exact (fail_spec _ hgiven hhalted).1
  | some wrote =>
    have hwrote := tryOutput_wrote houtput
    have hledger := hgiven.wrote hwrote
    have hbalance := hbalanced.wrote hgiven.lined hwrote
    rw [hwrote.same] at hledger hbalance
    rw [hwrote.same]
    exact { toLedger := hledger, balanced := hbalance, stops := hstops, halted := hhalted }

theorem writeOutput_inFlight (h : Ledger bridge s rest)
    (hhalted : s.phase = .connected ∨ s.phase = .delaying ∨ s.stopping = true) (hnone : s.inFlight = []) :
    (bridge.writeOutput source value s).inFlight = [] := by
  unfold writeOutput
  cases houtput : bridge.tryOutput source value s with
  | none => exact (fail_spec _ h hhalted).2.2 hnone
  | some =>
    rw [(tryOutput_wrote houtput).same]
    exact hnone

theorem Accounted.writeOutput (value : JsValue Rat) (h : Accounted bridge s rest)
    (hsource : s.failed = false → source.answers? = none) :
    Accounted bridge (bridge.writeOutput source value s) rest := by
  unfold RpcStdioBridge.writeOutput
  cases houtput : bridge.tryOutput source value s with
  | none => exact h.fail _
  | some =>
    have hwrote := tryOutput_wrote houtput
    have hledger := h.toLedger.wrote hwrote
    have hanswers := hwrote.answers h.lined
    rw [hwrote.same] at hledger
    rw [getD_some, hwrote.same]
    exact
      { toLedger := hledger
        balanced := fun hfailed n => by
          rw [hanswers, hsource hfailed, toList_none, append_nil]
          exact h.balanced hfailed n
        stops := h.stops
        halted := h.halted }

theorem Accounted.writeStatus (event : String) (fields : JsMembers Rat) (h : Accounted bridge s rest) :
    Accounted bridge (bridge.writeStatus event fields s) rest := by
  unfold RpcStdioBridge.writeStatus
  cases hstatus : bridge.tryStatus event fields s with
  | none => exact h.fail _
  | some =>
    rw [tryStatus_same hstatus]
    exact h.same rfl

theorem Accounted.failInFlight (error : String) (h : Accounted bridge s []) :
    Accounted bridge (bridge.failInFlight error s) [] ∧ (bridge.failInFlight error s).inFlight = [] := by
  have hstart : Accounted bridge { s with inFlight := [] } (s.inFlight ++ []) :=
    { toLedger := h.toLedger.takeInFlight
      balanced := fun hfailed n => by
        have := h.balanced hfailed n
        simp only [among_nil, among_append] at this ⊢
        omega
      stops := fun hstopping => (h.stops hstopping).imp_right (.imp_right fun hidle => ⟨hidle.1, rfl⟩)
      halted := h.halted }
  exact answerInFlight_induct
    (motive := fun s rest => Accounted bridge s rest ∧ s.inFlight = [])
    (fun t p rest ⟨ht, hnone⟩ =>
      ⟨ht.answer rfl, writeOutput_inFlight ht.toLedger.giveBack ht.halted hnone⟩)
    ⟨hstart, rfl⟩

/-! ## Commands -/

/-- Sending a command neither fails nor stops the bridge, when its frame fits. -/
theorem flush_spec (h : Accounted bridge s []) :
    Accounted bridge (bridge.flush s) [] ∧
      (bridge.flush s).stopping = s.stopping ∧ (bridge.flush s).failed = s.failed := by
  unfold RpcStdioBridge.flush
  split
  · rename_i socket pending waiting hsocket hpending
    split
    · exact ⟨h, rfl, rfl⟩
    rename_i hopen
    simp only [Bool.or_eq_true, decide_eq_true_eq, not_or, Bool.not_eq_true] at hopen
    obtain ⟨⟨⟨⟨⟨⟨hstopping, -⟩, -⟩, -⟩, -⟩, -⟩, _⟩ := hopen
    have hsendable : IsSendable bridge pending.value :=
      h.sendable pending (by rw [hpending]; exact mem_cons_self)
    have hwaiting : ∀ p ∈ waiting, IsSendable bridge p.value := fun p hp =>
      h.sendable p (by rw [hpending]; exact mem_cons_of_mem _ hp)
    have hretained := h.retained
    have honce := h.once
    have hbalanced := h.balanced
    unfold Balanced at hbalanced
    rw [hpending] at hretained
    simp only [hpending, among_cons] at honce hbalanced
    rw [bytesOf_cons, bytesOf_nil] at hretained
    have hsent : ∀ n, (s.sent ++ [pending.number]).count n + among n waiting ≤
        if n < s.total then 1 else 0 := by
      intro n
      have := honce n
      simp only [count_append, count_singleton, beq_iff_eq]
      omega
    dsimp only
    split
    · rename_i hframe
      unfold IsSendable at hsendable
      rw [hframe] at hsendable
      cases hsendable
    · split
      · exact ⟨
          { retained := by
              rw [bytesOf_nil]
              dsimp only
              omega
            sendable := hwaiting
            limit := h.limit
            once := hsent
            lined := h.lined
            balanced := fun hfailed n => by
              have := hbalanced hfailed n
              simp only [count_append, count_singleton, beq_iff_eq]
              omega
            stops := fun hstops => by rw [show _ = true from hstops] at hstopping; cases hstopping
            halted := h.halted }, rfl, rfl⟩
      · exact ⟨
          { retained := by
              simp only [bytesOf_append, bytesOf_cons, bytesOf_nil]
              omega
            sendable := hwaiting
            limit := by
              rw [length_append, length_singleton]
              omega
            once := hsent
            lined := h.lined
            balanced := fun hfailed n => by
              have := hbalanced hfailed n
              simp only [among_append, among_cons, among_nil] at this ⊢
              omega
            stops := fun hstops => by rw [show _ = true from hstops] at hstopping; cases hstopping
            halted := h.halted }, rfl, rfl⟩
  · exact ⟨h, rfl, rfl⟩

theorem Accounted.flush (h : Accounted bridge s []) : Accounted bridge (bridge.flush s) [] := (flush_spec h).1

theorem below_succ (n total : Nat) : (if n < total + 1 then 1 else 0) =
    (if n < total then 1 else 0) + if total = n then 1 else 0 := by
  split <;> split <;> split <;> omega

theorem enqueue_spec (h : Accounted bridge s []) (hruns : s.stopping = true → s.failed = true)
    (hfits : Fits bridge value) (hleft : bridge.enqueue value s = some left) :
    Accounted bridge left [] ∧ (left.stopping = true → left.failed = true) := by
  unfold RpcStdioBridge.enqueue at hleft
  split at hleft
  · cases hleft
  rename_i encoded hencoded
  split at hleft
  · cases hleft
    exact ⟨h.fail _, fun _ => (fail_spec _ h.toLedger h.halted).2.1⟩
  cases hleft
  have hpushed : Accounted bridge
      { s with
        total := s.total + 1
        pending := s.pending ++
          [⟨s.total, value, encoded.length, commandType value, commandId value⟩]
        retainedInputBytes := s.retainedInputBytes + encoded.length } [] :=
    { retained := by
        have := h.retained
        simp only [bytesOf_append, bytesOf_cons, bytesOf_nil] at this ⊢
        omega
      sendable := fun p hp => by
        rcases mem_append.mp hp with hp | hp
        · exact h.sendable p hp
        · rw [mem_singleton.mp hp]
          exact hfits (by rw [hencoded]; rfl)
      limit := h.limit
      once := fun n => by
        have := h.once n
        rw [below_succ]
        simp only [among_append, among_cons, among_nil]
        omega
      lined := h.lined
      balanced := fun hfailed n => by
        have := h.balanced hfailed n
        rw [below_succ]
        simp only [among_append, among_cons, among_nil] at this ⊢
        omega
      stops := fun hstops => .inl (hruns hstops)
      halted := h.halted }
  obtain ⟨hflushed, hstopping, hfailed⟩ := flush_spec hpushed
  exact ⟨hflushed, fun hstops => hfailed.trans (hruns (hstopping.symm.trans hstops))⟩

theorem Accounted.enqueueAll {values : List (JsValue Rat)} (h : Accounted bridge s [])
    (hruns : s.stopping = true → s.failed = true) (hfits : ∀ value ∈ values, Fits bridge value) :
    Accounted bridge (bridge.enqueueAll s values).1 [] := by
  induction values generalizing s with
  | nil => exact h
  | cons value values ih =>
    unfold RpcStdioBridge.enqueueAll
    split
    · exact h
    rename_i left hleft
    obtain ⟨hleft, hruns⟩ := enqueue_spec h hruns (hfits value mem_cons_self) hleft
    exact ih hleft hruns fun v hv => hfits v (mem_cons_of_mem _ hv)

theorem Accounted.finishIfDrained (h : Accounted bridge s []) : Accounted bridge (finishIfDrained s) [] := by
  unfold RpcStdioBridge.finishIfDrained
  split
  · exact h
  rename_i hdrained
  simp only [Bool.or_eq_true, Bool.not_eq_true', not_or, Bool.not_eq_false, List.isEmpty_iff] at hdrained
  obtain ⟨⟨-, hpending⟩, hinFlight⟩ := hdrained
  have hclosed : Accounted bridge
      { s with
        terminalDrainTimer := false
        socket := s.socket.map fun socket => { socket with closing := true } } [] :=
    h.same rfl
  dsimp only
  split
  · exact hclosed.endRun (.inr (.inr ⟨hpending, hinFlight⟩))
  · exact hclosed

/-! ## Connections -/

theorem Accounted.connect (h : Accounted bridge s []) : Accounted bridge (connect s) [] :=
  (h.withPhase (.inl rfl)).same rfl

theorem Accounted.loop (h : Accounted bridge s []) : Accounted bridge (loop s) [] := by
  unfold RpcStdioBridge.loop
  split
  · rename_i hstopping
    exact h.endRun (h.stops hstopping)
  split
  · rename_i hdrained
    simp only [Bool.and_eq_true, List.isEmpty_iff] at hdrained
    exact h.endRun (.inr (.inr ⟨hdrained.1.2, hdrained.2⟩))
  · exact h.connect

theorem Accounted.dropSocket (h : Accounted bridge s []) : Accounted bridge (dropSocket s) [] := h.same rfl

theorem Accounted.reconnect (fields : JsMembers Rat) (h : Accounted bridge s []) :
    Accounted bridge (bridge.reconnect fields s) [] := by
  unfold RpcStdioBridge.reconnect
  have hcounted : Accounted bridge { s with reconnects := s.reconnects + 1 } [] := h.same rfl
  have hwritten := hcounted.writeStatus "reconnecting" (.cons (text "attempt") (countJson s.attempts) fields)
  dsimp only
  split
  · rename_i hstopping
    exact hwritten.endRun (hwritten.stops hstopping)
  · exact hwritten.withPhase (.inr (.inl rfl))

theorem Accounted.giveUp (h : Accounted bridge s []) (message : String) :
    Accounted bridge (RpcStdioBridge.endRun (bridge.fail message s)) [] := by
  obtain ⟨hleft, hfailed, -⟩ := fail_spec message h.toLedger h.halted
  exact hleft.endRun (.inl hfailed)

theorem Accounted.onClose (code : Nat) (opened : Bool) (h : Accounted bridge s []) :
    Accounted bridge (bridge.onClose code opened s) [] := by
  unfold RpcStdioBridge.onClose
  have hdropped := h.dropSocket
  generalize RpcStdioBridge.dropSocket s = s at hdropped ⊢
  dsimp only
  split
  · rename_i hstopping
    exact hdropped.endRun (hdropped.stops hstopping)
  · obtain ⟨hlost, hnone⟩ := hdropped.failInFlight "connection_lost_indeterminate"
    generalize bridge.failInFlight "connection_lost_indeterminate" s = s at hlost hnone ⊢
    split
    · rename_i hended
      rw [Bool.and_eq_true, List.isEmpty_iff] at hended
      exact hlost.endRun (.inr (.inr ⟨hended.2, hnone⟩))
    · generalize (if opened then 0 else s.attempts) + 1 = attempts
      have hcounted : Accounted bridge { s with attempts } [] := hlost.same rfl
      split
      · exact hcounted.giveUp _
      · exact hcounted.reconnect _

theorem Accounted.onReject (retryable : Bool) (h : Accounted bridge s []) :
    Accounted bridge (bridge.onReject retryable s) [] := by
  unfold RpcStdioBridge.onReject
  have hdropped := h.dropSocket
  generalize RpcStdioBridge.dropSocket s = s at hdropped ⊢
  dsimp only
  split
  · rename_i hstopping
    exact hdropped.endRun (hdropped.stops hstopping)
  have hcounted : Accounted bridge { s with attempts := s.attempts + 1 } [] := hdropped.same rfl
  split
  · exact hcounted.giveUp _
  · exact hcounted.reconnect _

end

end PiDaemon.Bridge
