import PiDaemon.Bridge.Accounting

/-!
# The answers to commands

A response is taken for the answer to the command in flight whose id it carries, and otherwise to
the first of its type.  The daemon answers commands in any order, so that a response without an id
may be taken for the answer to another command.

* `accounts_run`: every command is sent at most once, retained by its bytes, and answered once when
  the bridge is done, in every run in which frames fit and responses name what they answer;
* `answers_swapped`: a response without an id, which settles a command that has one.
-/

namespace PiDaemon.Bridge

open Lib Protocol List

/-- A response carries the id of a command, or no id and its type. -/
def Names (response : JsValue Rat) (item : PendingCommand) : Prop :=
  if (stringOf (response.member "id")).isSome then item.id = stringOf (response.member "id")
  else some item.command = stringOf (response.member "command")

instance (response : JsValue Rat) (item : PendingCommand) : Decidable (Names response item) :=
  inferInstanceAs (Decidable (ite _ _ _))

/-- The first command that a response names is the one that it answers; the reply to an extension
UI response could be taken for the answer to none. -/
def IsAnswer (inFlight : List PendingCommand) (response : JsValue Rat) : Option Nat → Prop
  | some n => ∃ item ∈ inFlight.find? fun item => decide (Names response item), item.number = n
  | none => ∀ item ∈ inFlight, ¬Names response item ∧ some item.command ≠ stringOf (response.member "command")

instance (inFlight : List PendingCommand) (response : JsValue Rat) (answers : Option Nat) :
    Decidable (IsAnswer inFlight response answers) :=
  match answers with
  | some _ => inferInstanceAs (Decidable (∃ item ∈ _, _))
  | none => inferInstanceAs (Decidable (∀ item ∈ inFlight, _))

section
variable (bridge : RpcStdioBridge)

/-- Frames fit, and responses name what they answer. -/
def Attributed (s : State) : Event → Prop
  | .data values => ∀ value ∈ values, Fits bridge value
  | .inputEnd left => ∀ values ∈ left, ∀ value ∈ values, Fits bridge value
  | .message frame about =>
    ∀ value ∈ frame, s.failed = false → stringOf (value.member "kind") = some (text "response") →
      IsAnswer s.inFlight (value.member "response") about
  | _ => True

instance (s : State) (e : Event) : Decidable (Attributed bridge s e) := by
  cases e <;> unfold Attributed <;> infer_instance

/-- What is accounted for of the commands. -/
structure Accounts (s : State) : Prop where
  sentOnce : s.sent.Nodup
  retained : s.retainedInputBytes = bytesOf s.pending + bytesOf s.inFlight
  limit : s.inFlight.length ≤ bridge.limits.maxInFlightCommands
  answered : ∀ outputDrained statusDrained left,
    bridge.step s (.finish outputDrained statusDrained) = some left →
    left.phase = .finished 0 → left.stopCalled = false →
    ∀ n < left.total, n ∉ left.uiResponses → (answersOf left.output.written).count n = 1

variable {bridge} {s left : State}

open RpcStdioBridge

/-! ## Frames -/

variable {response : JsValue Rat} (frame : JsValue Rat)

/-- A response that answers a command settles it. -/
theorem settled_of_answer {n : Nat} (h : IsAnswer s.inFlight response (some n)) :
    ∃ settled, s.inFlight[settledIndex response s.inFlight]? = some settled ∧ settled.number = n := by
  obtain ⟨item, hitem, hn⟩ := h
  refine ⟨item, ?_, hn⟩
  rw [List.find?_eq_getElem?_findIdx] at hitem
  unfold settledIndex
  cases hid : stringOf (response.member "id") with
  | some id =>
    have hnames : (fun item => decide (Names response item)) =
        fun item : PendingCommand => item.id.isSome && decide (item.id = some id) := by
      funext item
      rw [Bool.eq_iff_iff]
      simp only [Names, hid, Option.isSome_some, if_true, decide_eq_true_eq, Bool.and_eq_true]
      exact ⟨fun h => ⟨by rw [h]; rfl, h⟩, And.right⟩
    rw [hnames] at hitem
    rw [if_pos (List.getElem?_eq_some_iff.mp hitem).1]
    exact hitem
  | none =>
    have hnames : (fun item => decide (Names response item)) =
        fun item : PendingCommand => decide (some item.command = stringOf (response.member "command")) := by
      funext item
      simp [Names, hid]
    have hnone : ∀ item ∈ s.inFlight, (item.id.isSome && decide (item.id = none)) = false := by
      intro item _
      cases item.id <;> rfl
    rw [hnames] at hitem
    rw [findIdx_eq_length_of_false hnone, if_neg (Nat.lt_irrefl _)]
    exact hitem

theorem unsettled_of_answer (h : IsAnswer s.inFlight response none) :
    s.inFlight[settledIndex response s.inFlight]? = none := by
  have hcommand : ∀ item ∈ s.inFlight,
      decide (some item.command = stringOf (response.member "command")) = false :=
    fun item hitem => decide_eq_false (h item hitem).2
  have hid : ∀ item ∈ s.inFlight,
      (item.id.isSome && decide (item.id = stringOf (response.member "id"))) = false := by
    intro item hitem
    have := (h item hitem).1
    unfold Names at this
    cases hid : item.id with
    | none => rfl
    | some id =>
      rw [hid] at this
      by_cases heq : some id = stringOf (response.member "id")
      · rw [← heq] at this
        exact absurd rfl this
      · exact decide_eq_false heq
  unfold settledIndex
  rw [findIdx_eq_length_of_false hid, if_neg (Nat.lt_irrefl _),
    findIdx_eq_length_of_false hcommand]
  exact List.getElem?_eq_none (Nat.le_refl _)

theorem bytesOf_eraseIdx {commands : List PendingCommand} {i : Nat} {p : PendingCommand}
    (h : commands[i]? = some p) : bytesOf commands = bytesOf (commands.eraseIdx i) + p.bytes := by
  induction commands generalizing i with
  | nil => cases h
  | cons c commands ih =>
    cases i with
    | zero =>
      cases h
      rw [eraseIdx_zero, tail_cons, bytesOf_cons]
      omega
    | succ =>
      have := ih h
      rw [eraseIdx_cons_succ, bytesOf_cons, bytesOf_cons]
      omega

theorem among_eraseIdx {commands : List PendingCommand} {i : Nat} {p : PendingCommand}
    (h : commands[i]? = some p) (n : Nat) :
    among n commands = among n (commands.eraseIdx i) + among n [p] := by
  induction commands generalizing i with
  | nil => cases h
  | cons c commands ih =>
    cases i with
    | zero =>
      cases h
      simp
    | succ =>
      have := ih h
      rw [eraseIdx_cons_succ, among_cons, among_cons]
      omega

theorem settleInFlight_same : settleInFlight response s =
    { s with
      inFlight := (settleInFlight response s).inFlight
      retainedInputBytes := (settleInFlight response s).retainedInputBytes } := by
  unfold settleInFlight
  dsimp only
  split <;> rfl

theorem Ledger.settle (h : Ledger bridge s []) (response : JsValue Rat) :
    Ledger bridge (settleInFlight response s) [] := by
  unfold settleInFlight
  dsimp only
  split
  · exact h
  rename_i settled hsettled
  exact
    { retained := by
        have := h.retained
        rw [bytesOf_eraseIdx hsettled] at this
        dsimp only
        omega
      sendable := h.sendable
      limit := Nat.le_trans (length_eraseIdx_le _ _) h.limit
      once := h.once
      lined := h.lined }

theorem Accounted.respond {answers : Option Nat} (h : Accounted bridge s [])
    (hanswer : s.failed = false → IsAnswer s.inFlight response answers) :
    Accounted bridge (bridge.writeOutput (.response answers) response (settleInFlight response s)) [] := by
  have hledger := h.toLedger.settle response
  cases hfailed : s.failed with
  | true =>
    rw [settleInFlight_same] at hledger ⊢
    have hsettled : Accounted bridge
        { s with
          inFlight := (settleInFlight response s).inFlight
          retainedInputBytes := (settleInFlight response s).retainedInputBytes } [] :=
      { toLedger := hledger
        balanced := fun hnot => by
          rw [show _ = true from hfailed] at hnot
          cases hnot
        stops := fun _ => .inl hfailed
        halted := h.halted }
    exact hsettled.writeOutput _ fun hnot => by
      rw [show _ = true from hfailed] at hnot
      cases hnot
  | false =>
    cases answers with
    | none =>
      have hsame : settleInFlight response s = s := by
        unfold settleInFlight
        dsimp only
        rw [unsettled_of_answer (hanswer hfailed)]
      rw [hsame]
      exact h.writeOutput _ fun _ => rfl
    | some n =>
      obtain ⟨settled, hsettled, rfl⟩ := settled_of_answer (hanswer hfailed)
      have htaken : Accounted bridge
          { s with inFlight := s.inFlight.eraseIdx (settledIndex response s.inFlight) } [settled] :=
        { retained := by
            have := h.retained
            rw [bytesOf_eraseIdx hsettled] at this
            simp only [bytesOf_cons, bytesOf_nil] at this ⊢
            omega
          sendable := h.sendable
          limit := Nat.le_trans (length_eraseIdx_le _ _) h.limit
          once := h.once
          lined := h.lined
          balanced := fun hfailed n => by
            have := h.balanced hfailed n
            rw [among_eraseIdx hsettled] at this
            rw [among_nil] at this
            dsimp only
            omega
          stops := fun hstopping => (h.stops hstopping).imp_right (.imp_right fun hidle => by
            rw [hidle.2] at hsettled
            cases hsettled)
          halted := h.halted }
      refine htaken.answer ?_
      unfold settleInFlight
      dsimp only
      rw [hsettled]

theorem Accounted.onReady (h : Accounted bridge s []) : Accounted bridge (bridge.onReady frame s) [] := by
  unfold RpcStdioBridge.onReady
  split
  · have hready (cursor : JsString) :
        Accounted bridge { s with lastCursor := some cursor, ready := true } [] := h.same rfl
    split
    · exact h.fail _
    · exact ((hready _).writeStatus _ _).flush.finishIfDrained
  · exact h.fail _

theorem Accounted.onGap (h : Accounted bridge s []) : Accounted bridge (bridge.onGap frame s) [] := by
  unfold RpcStdioBridge.onGap
  split
  · have hgap : Accounted bridge { s with gaps := s.gaps + 1 } [] := h.same rfl
    exact hgap.writeStatus _ _
  · exact h.fail _

theorem Accounted.onControl (h : Accounted bridge s []) : Accounted bridge (bridge.onControl frame s) [] := by
  unfold RpcStdioBridge.onControl
  split
  · exact h.fail _
  · exact h.writeStatus _ _

theorem Accounted.onEvent (number : Option Nat) (h : Accounted bridge s []) :
    Accounted bridge (bridge.onEvent frame number s) [] := by
  unfold RpcStdioBridge.onEvent
  split
  · exact h.fail _
  rename_i cursor hcursor
  have hmoved : Accounted bridge { s with lastCursor := some cursor } [] := h.same rfl
  exact hmoved.writeOutput _ fun _ => rfl

theorem Accounted.onResponse {frame : JsValue Rat} {answers : Option Nat} (h : Accounted bridge s [])
    (hanswer : s.failed = false → IsAnswer s.inFlight (frame.member "response") answers) :
    Accounted bridge (bridge.onResponse frame answers s) [] := by
  unfold RpcStdioBridge.onResponse
  dsimp only
  split
  · exact (h.respond hanswer).flush.finishIfDrained
  · exact h.fail _

theorem Accounted.onSocketMessage {frame : Option (JsValue Rat)} {about : Option Nat}
    (h : Accounted bridge s []) (hmeets : Attributed bridge s (.message frame about)) :
    Accounted bridge (bridge.onSocketMessage frame about s) [] := by
  unfold RpcStdioBridge.onSocketMessage
  split
  · exact h.fail _
  rename_i frame
  dsimp only
  split
  · exact h.onReady _
  split
  · exact h.onGap _
  split
  · exact h.onEvent _ _
  split
  · rename_i hresponse
    exact h.onResponse fun hfailed => hmeets frame rfl hfailed hresponse
  split
  · exact h.onControl _
  · exact h.fail _

/-! ## Runs -/

/-- A bridge that reads its input has failed if it has stopped. -/
theorem Accounted.onData {values : List (JsValue Rat)} (h : Accounted bridge s [])
    (hfits : ∀ value ∈ values, Fits bridge value) : Accounted bridge (bridge.onData values s) [] := by
  unfold RpcStdioBridge.onData
  split
  · exact h
  rename_i hruns
  have hread := h.enqueueAll (fun hstopping => absurd hstopping hruns) hfits
  split
  · rename_i left hleft
    rw [hleft] at hread
    exact hread
  · rename_i left hleft
    rw [hleft] at hread
    exact hread.fail _

theorem Accounted.onInputEnd {values : Option (List (JsValue Rat))} (h : Accounted bridge s [])
    (hfits : ∀ rest ∈ values, ∀ value ∈ rest, Fits bridge value) :
    Accounted bridge (bridge.onInputEnd values s) [] := by
  unfold RpcStdioBridge.onInputEnd
  split
  · exact h
  rename_i hruns
  split
  · exact h.fail _
  rename_i values
  have hread := h.enqueueAll (fun hstopping => absurd hstopping hruns) (hfits values rfl)
  split
  · rename_i left hleft
    rw [hleft] at hread
    exact hread.fail _
  · rename_i left hleft
    rw [hleft] at hread
    have hended : Accounted bridge
        { left with inputEnded := true, terminalDrainTimer := !left.stopping } [] := hread.same rfl
    exact hended.finishIfDrained

theorem start_accounted (room statusRoom : Nat) (hasStatus : Bool) :
    Accounted bridge (start room statusRoom hasStatus) [] := by
  apply Accounted.loop
  exact
    { retained := rfl
      sendable := fun p hp => by cases hp
      limit := Nat.zero_le _
      once := fun n => by simp
      lined := rfl
      balanced := fun _ n => by simp [answersOf]
      stops := fun hstopping => by cases hstopping
      halted := .inl rfl }

theorem atSocket_cases {f : Socket → Option State} (h : atSocket s f = some left) :
    ∃ socket, s.phase = .connected ∧ s.socket = some socket ∧ f socket = some left := by
  obtain ⟨hphase, h⟩ := Option.ite_none_right_eq_some.mp h
  obtain ⟨socket, hsocket, hf⟩ := Option.bind_eq_some_iff.mp h
  exact ⟨socket, hphase, hsocket, hf⟩

theorem Accounted.step {e : Event} (h : Accounted bridge s []) (hmeets : Attributed bridge s e)
    (hstep : bridge.step s e = some left) : Accounted bridge left [] := by
  cases e with
  | data =>
    obtain ⟨_, hstep⟩ := Option.ite_none_left_eq_some.mp hstep
    cases hstep
    exact h.onData hmeets
  | invalidData =>
    obtain ⟨_, hstep⟩ := Option.ite_none_left_eq_some.mp hstep
    cases hstep
    split
    · exact h
    · exact h.fail _
  | inputEnd =>
    obtain ⟨_, hstep⟩ := Option.ite_none_left_eq_some.mp hstep
    cases hstep
    exact h.onInputEnd hmeets
  | inputError | outputError | statusError =>
    cases hstep
    exact h.fail _
  | opened =>
    obtain ⟨socket, -, -, hopened⟩ := atSocket_cases hstep
    obtain ⟨_, hopened⟩ := Option.ite_none_left_eq_some.mp hopened
    cases hopened
    exact h.same rfl
  | message =>
    obtain ⟨socket, -, -, hmessage⟩ := atSocket_cases hstep
    obtain ⟨_, rfl⟩ := Option.ite_some_none_eq_some.mp hmessage
    exact h.onSocketMessage hmeets
  | binary =>
    obtain ⟨socket, -, -, hbinary⟩ := atSocket_cases hstep
    obtain ⟨_, rfl⟩ := Option.ite_some_none_eq_some.mp hbinary
    exact h.onReject _
  | rejected =>
    obtain ⟨socket, -, -, hrejected⟩ := atSocket_cases hstep
    obtain ⟨_, hrejected⟩ := Option.ite_none_left_eq_some.mp hrejected
    cases hrejected
    exact h.onReject _
  | connectionError =>
    obtain ⟨socket, -, -, herror⟩ := atSocket_cases hstep
    obtain ⟨_, herror⟩ := Option.ite_none_left_eq_some.mp herror
    cases herror
    exact h.onReject _
  | closed =>
    obtain ⟨socket, -, -, hclosed⟩ := atSocket_cases hstep
    cases hclosed
    exact h.onClose _ _
  | sendDone connection =>
    obtain ⟨_, rfl⟩ := Option.ite_some_none_eq_some.mp hstep
    have hdone : Accounted bridge
        { s with sends := s.sends.erase connection, sending := false } [] := h.same rfl
    split
    · exact hdone.fail _
    · exact hdone.flush
  | delayElapsed =>
    obtain ⟨_, rfl⟩ := Option.ite_some_none_eq_some.mp hstep
    exact h.loop
  | deadline =>
    obtain ⟨_, rfl⟩ := Option.ite_some_none_eq_some.mp hstep
    have hdue : Accounted bridge { s with terminalDrainTimer := false } [] := h.same rfl
    exact hdue.fail _
  | outputDrained room =>
    cases hstep
    obtain ⟨hlined, haccepted⟩ := BoundedWriter.drained_spec h.lined room
    exact
      { retained := h.retained
        sendable := h.sendable
        limit := h.limit
        once := h.once
        lined := hlined
        balanced := fun hfailed n => by
          rw [haccepted]
          exact h.balanced hfailed n
        stops := h.stops
        halted := h.halted }
  | statusDrained =>
    cases hstep
    exact h.same rfl
  | stop =>
    cases hstep
    have hcalled : Accounted bridge { s with stopCalled := true } [] :=
      { retained := h.retained
        sendable := h.sendable
        limit := h.limit
        once := h.once
        lined := h.lined
        balanced := h.balanced
        stops := fun _ => .inr (.inl rfl)
        halted := h.halted }
    have hstopped := hcalled.stop (.inr (.inl rfl))
    unfold RpcStdioBridge.stop at hstopped ⊢
    split at hstopped <;> rename_i hstopping
    · rw [if_pos hstopping]
      exact hstopped
    · rw [if_neg hstopping]
      exact hstopped
  | finish =>
    obtain ⟨hsettling, rfl⟩ := Option.ite_some_none_eq_some.mp hstep
    refine h.withPhase (.inr (.inr ?_))
    rcases h.halted with hphase | hphase | hstopping
    · cases hphase.symm.trans hsettling.1
    · cases hphase.symm.trans hsettling.1
    · exact hstopping

theorem Accounted.accounts (h : Accounted bridge s []) : Accounts bridge s where
  sentOnce := nodup_iff_count.mpr fun n => by
    have := h.once n
    split at this <;> omega
  retained := by
    have := h.retained
    rw [bytesOf_nil] at this
    omega
  limit := h.limit
  answered outputDrained statusDrained left hstep hcode hstop n hn hui := by
    obtain ⟨hsettling, rfl⟩ := Option.ite_some_none_eq_some.mp hstep
    have hzero : (s.failed || !outputDrained || !statusDrained) = false := by
      split at hcode
      · cases hcode
      · rename_i hzero
        exact Bool.eq_false_iff.mpr hzero
    simp only [Bool.or_eq_false_iff, Bool.not_eq_false'] at hzero
    obtain ⟨⟨hfailed, houtput⟩, -⟩ := hzero
    have hstopping : s.stopping = true := by
      rcases h.halted with hphase | hphase | hstopping
      · cases hphase.symm.trans hsettling.1
      · cases hphase.symm.trans hsettling.1
      · exact hstopping
    have hidle : IsIdle s := by
      rcases h.stops hstopping with hnot | hnot | hidle
      · cases hfailed.symm.trans hnot
      · cases hstop.symm.trans hnot
      · exact hidle
    have hqueue : s.output.queue = [] := by
      have := hsettling.2 houtput
      rw [BoundedWriter.isSettled, Bool.and_eq_true, List.isEmpty_iff] at this
      exact this.1
    have haccepted := h.lined
    rw [BoundedWriter.Lined, hqueue] at haccepted
    have hplace := h.balanced hfailed n
    rw [hidle.1, hidle.2, haccepted, if_pos hn, count_eq_zero_of_not_mem hui] at hplace
    simpa using hplace

/-- **Every command is accounted for.** -/
theorem accounts_run {room statusRoom : Nat} {hasStatus : Bool} {events : List Event}
    (hrun : run bridge.step (start room statusRoom hasStatus) events = some left)
    (hmeets : Meets bridge.step (Attributed bridge) (start room statusRoom hasStatus) events) :
    Accounts bridge left := by
  have hkept : Accounted bridge left [] := by
    have hkeep (s : State) (e : Event) (left : State) (h : Accounted bridge s [])
        (hmeets : Attributed bridge s e) (hstep : bridge.step s e = some left) :
        Accounted bridge left [] := h.step hmeets hstep
    exact run_invariant_of_meets hkeep (start_accounted room statusRoom hasStatus) hmeets hrun
  exact hkept.accounts

/-! ## A response without an id -/

def localBridge : RpcStdioBridge := { format := wholeNumbers }

def promptCommand (id : Option JsString) : JsValue Rat :=
  .object <| .cons (text "type") (.string (text "prompt")) <| optionMember "id" (id.map .string) .nil

def attachReady : JsValue Rat :=
  .object <|
    .cons (text "kind") (.string (text "attach_ready")) <|
    .cons (text "connectionId") (.string (text "c")) <|
    .cons (text "sessionId") (.string (text "s")) <|
    .cons (text "generation") (.number 1) <|
    .cons (text "role") (.string (text "controller")) <|
    .cons (text "highWaterCursor") (.string (text "cursor")) .nil

def promptResponse (id : Option JsString) : JsValue Rat :=
  .object <|
    .cons (text "kind") (.string (text "response")) <|
    .cons (text "response")
      (.object <|
        .cons (text "type") (.string (text "response")) <|
        .cons (text "command") (.string (text "prompt")) <|
        .cons (text "success") (.boolean true) <| optionMember "id" (id.map .string) .nil) .nil

/-- Two commands are sent, of which only the first has an id. -/
def twoCommands : List Event :=
  [.opened, .message (some attachReady) none, .data [promptCommand (some (text "x")), promptCommand none],
    .sendDone 0 false, .sendDone 0 false]

theorem accounts_run_both :
    ∃ left, run localBridge.step (start 8 8 false)
        (twoCommands ++ [.message (some (promptResponse (some (text "x")))) (some 0),
          .message (some (promptResponse none)) (some 1), .inputEnd (some []), .closed 1000]) =
          some left ∧ left.total = 2 ∧ left.phase = .settling ∧ Accounts localBridge left := by
  obtain ⟨left, hleft, htotal, hphase⟩ :
      ∃ left, run localBridge.step (start 8 8 false)
          (twoCommands ++ [.message (some (promptResponse (some (text "x")))) (some 0),
            .message (some (promptResponse none)) (some 1), .inputEnd (some []), .closed 1000]) =
            some left ∧ left.total = 2 ∧ left.phase = .settling := by
    decide +kernel
  exact ⟨left, hleft, htotal, hphase, accounts_run hleft (by decide +kernel)⟩

/-- The second command is answered before the first, by the daemon and again by the bridge; the
first is answered by neither. -/
theorem answers_swapped :
    ∃ left, run localBridge.step (start 8 8 false)
        (twoCommands ++ [.message (some (promptResponse none)) (some 1), .inputEnd (some []),
          .closed 1006, .finish true true]) = some left ∧
      left.phase = .finished 0 ∧ left.stopCalled = false ∧ left.total = 2 ∧ left.uiResponses = [] ∧
      answersOf left.output.written = [1, 1] := by
  decide +kernel

end

end PiDaemon.Bridge
