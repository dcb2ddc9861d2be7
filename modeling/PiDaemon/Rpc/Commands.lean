import PiDaemon.Lib.JsString
import PiDaemon.Lib.OrderedMap
import PiDaemon.Lib.Runs

/-!
# Commands of a rich hub

`InProcessRichHub` hands the commands of its channels to the controller one after another: each waits
for the one before it to complete.  A prompt completes when its turn has come.

* `Immediate`: no abort, steer or abort of a retry has waited;
* `urgent_commands_immediate`: the runs in which that is so.
-/

namespace PiDaemon.Rpc

open Lib

inductive DashboardCommandOperation where
  | getState
  | getEntries
  | getSessionStats
  | getCommands
  | getAvailableModels
  | prompt
  | steer
  | followUp
  | abort
  | setModel
  | setThinkingLevel
  | setSteeringMode
  | setFollowUpMode
  | compact
  | setAutoCompaction
  | setAutoRetry
  | abortRetry
  | setSessionName
  | getTree
  | navigateTree
  | fork
  | clone
  deriving DecidableEq

def InProcessRichHub.READ_ONLY_COMMANDS : List DashboardCommandOperation :=
  [.getState, .getEntries, .getSessionStats, .getCommands, .getAvailableModels, .getTree]

structure DashboardCommand (Identity : Type) where
  identity : Identity
  operation : DashboardCommandOperation
  /-- `JSON.stringify` of the payload. -/
  payload : JsString
  idempotencyKey : Option JsString

inductive ChannelRole where
  | controller
  | observer
  deriving DecidableEq

/-- A command that has been given to `#serialize`. -/
structure SerializedCommand where
  number : Nat
  operation : DashboardCommandOperation
  deriving DecidableEq

inductive CommandStep where
  | accepted (command : SerializedCommand)
  /-- `handle`, or `navigateTree`, has been called. -/
  | handed (number : Nat)
  | completed (number : Nat)
  /-- A prompt whose signal has been aborted. -/
  | cancelled (number : Nat)
  deriving DecidableEq

structure InProcessRichHub (Identity : Type) where
  identity : Identity
  channels : OrderedMap JsString ChannelRole
  commandResults : OrderedMap JsString ((DashboardCommandOperation × JsString) × Nat)
  nextCommand : Nat
  running : Option SerializedCommand
  waiting : List SerializedCommand
  /-- `#promptAborts` of the controller. -/
  promptAborts : List Nat
  history : List CommandStep

/-- What `command` returns; a command that shares the result of an earlier one names its number. -/
inductive CommandReply where
  | rejected (code : String) (retryable : Bool)
  | shared (number : Nat)
  | serialized (number : Nat)

inductive RichHubEvent (Identity : Type) where
  | command (channelId : JsString) (command : DashboardCommand Identity)
  /-- A channel is opened, gets another role, or is closed. -/
  | channel (channelId : JsString) (role : Option ChannelRole)
  | completed
  /-- The scheduler is done with a prompt. -/
  | promptEnded (number : Nat)

namespace InProcessRichHub

variable {Identity : Type}

def new (identity : Identity) : InProcessRichHub Identity :=
  ⟨identity, .empty, .empty, 0, none, [], [], []⟩

/-- The controller gets the command. -/
def hand (hub : InProcessRichHub Identity) (command : SerializedCommand) : InProcessRichHub Identity :=
  let hub := { hub with
    running := some command
    history := hub.history ++ [CommandStep.handed command.number] }
  match command.operation with
  | .prompt => { hub with promptAborts := hub.promptAborts ++ [command.number] }
  | .abort => { hub with history := hub.history ++ hub.promptAborts.map .cancelled }
  | _ => hub

/-- `#serialize` -/
def serialize (hub : InProcessRichHub Identity) (command : SerializedCommand) :
    InProcessRichHub Identity :=
  let hub := { hub with
    nextCommand := hub.nextCommand + 1
    history := hub.history ++ [CommandStep.accepted command] }
  if hub.running.isNone then hub.hand command else { hub with waiting := hub.waiting ++ [command] }

/-- The command that runs completes, and the next one is handed on. -/
def complete (hub : InProcessRichHub Identity) (command : SerializedCommand) : InProcessRichHub Identity :=
  let hub := { hub with
    running := none
    history := hub.history ++ [CommandStep.completed command.number] }
  match hub.waiting with
  | [] => hub
  | next :: waiting => { hub with waiting }.hand next

/-- The result of a command is kept under its key. -/
def remember (maxCommandResults : Nat) (hub : InProcessRichHub Identity)
    (command : DashboardCommand Identity) (number : Nat) : OrderedMap JsString ((DashboardCommandOperation × JsString) × Nat) :=
  match command.idempotencyKey with
  | none => hub.commandResults
  | some key =>
    (if maxCommandResults ≤ hub.commandResults.size then
      match hub.commandResults.keys.head? with
      | some first => hub.commandResults.delete first
      | none => hub.commandResults
    else hub.commandResults).set key ((command.operation, command.payload), number)

variable [DecidableEq Identity]

/-- `command`; `none` when it throws. -/
def command (maxCommandResults : Nat) (hub : InProcessRichHub Identity) (channelId : JsString)
    (command : DashboardCommand Identity) : Option (InProcessRichHub Identity × CommandReply) :=
  (hub.channels.get? channelId).bind fun role =>
    if command.identity ≠ hub.identity then none
    else if role ≠ .controller ∧ command.operation ∉ READ_ONLY_COMMANDS then
      some (hub, .rejected "controller_required" true)
    else
      match command.idempotencyKey.bind hub.commandResults.get? with
      | some (fingerprint, number) =>
        if fingerprint ≠ (command.operation, command.payload) then
          some (hub, .rejected "idempotency_conflict" false)
        else some (hub, .shared number)
      | none =>
        some ({ hub.serialize ⟨hub.nextCommand, command.operation⟩ with
          commandResults := hub.remember maxCommandResults command hub.nextCommand },
          .serialized hub.nextCommand)

def step (maxCommandResults : Nat) (hub : InProcessRichHub Identity) :
    RichHubEvent Identity → Option (InProcessRichHub Identity)
  | .command channelId command =>
    some (((hub.command maxCommandResults channelId command).map Prod.fst).getD hub)
  | .channel channelId (some role) => some { hub with channels := hub.channels.set channelId role }
  | .channel channelId none => some { hub with channels := hub.channels.delete channelId }
  | .completed => hub.running.map hub.complete
  | .promptEnded number => some { hub with promptAborts := hub.promptAborts.filter (· ≠ number) }

end InProcessRichHub

/-- What is meant to overtake the commands that run. -/
def DashboardCommandOperation.urgent : DashboardCommandOperation → Bool
  | .abort | .steer | .abortRetry => true
  | _ => false

/-- Every urgent command has been handed on when it was accepted. -/
def Immediate : List CommandStep → Prop
  | [] => True
  | .accepted command :: rest =>
    (command.operation.urgent = true → rest.head? = some (.handed command.number)) ∧ Immediate rest
  | .handed _ :: rest | .completed _ :: rest | .cancelled _ :: rest => Immediate rest

/-- Nothing runs when the controller gives an urgent command that has no result yet. -/
def IdleForUrgent {Identity : Type} (hub : InProcessRichHub Identity) : RichHubEvent Identity → Prop
  | .command channelId command => command.operation.urgent = true →
    hub.channels.get? channelId = some .controller → command.identity = hub.identity →
    command.idempotencyKey.bind hub.commandResults.get? = none → hub.running = none
  | _ => True

theorem immediate_append {history after : List CommandStep}
    (hafter : ∀ number, after.head? ≠ some (.handed number)) :
    Immediate (history ++ after) ↔ Immediate history ∧ Immediate after := by
  induction history with
  | nil => exact (and_iff_right trivial).symm
  | cons entry history ih =>
    cases entry with
    | accepted command =>
      rw [List.cons_append, Immediate, Immediate, ih, and_assoc]
      refine and_congr_left fun _ => forall_congr' fun _ => ?_
      cases history with
      | nil => exact iff_of_false (hafter _) (by simp)
      | cons => rfl
    | handed | completed | cancelled => exact ih

theorem immediate_cancelled (numbers : List Nat) : Immediate (numbers.map .cancelled) := by
  induction numbers with
  | nil => trivial
  | cons number numbers ih => exact ih

namespace InProcessRichHub

variable {Identity : Type}

theorem hand_history (hub : InProcessRichHub Identity) (command : SerializedCommand) :
    ∃ numbers, (hub.hand command).history =
      hub.history ++ .handed command.number :: List.map .cancelled numbers := by
  obtain ⟨number, operation⟩ := command
  cases operation with
  | abort => exact ⟨hub.promptAborts, List.append_assoc _ _ _⟩
  | _ => exact ⟨[], rfl⟩

theorem complete_history (hub : InProcessRichHub Identity) (command : SerializedCommand) :
    Immediate (hub.complete command).history ↔ Immediate hub.history := by
  rw [complete]
  cases hwaiting : hub.waiting with
  | nil =>
    simp only
    rw [immediate_append (by simp)]
    exact and_iff_left trivial
  | cons next waiting =>
    simp only
    obtain ⟨numbers, hhistory⟩ := hand_history
      { hub with running := none, waiting, history := hub.history ++ [.completed command.number] } next
    rw [hhistory, List.append_assoc, immediate_append (by simp)]
    exact and_iff_left (immediate_cancelled numbers)

theorem serialize_history (hub : InProcessRichHub Identity) (command : SerializedCommand) :
    Immediate (hub.serialize command).history ↔
      Immediate hub.history ∧ (command.operation.urgent = true → hub.running = none) := by
  rw [serialize]
  cases hrunning : hub.running with
  | none =>
    simp only [Option.isNone_none, if_true]
    obtain ⟨numbers, hhistory⟩ := hand_history
      { hub with nextCommand := hub.nextCommand + 1, history := hub.history ++ [.accepted command] }
      command
    rw [hrunning] at hhistory
    rw [hhistory, List.append_assoc, immediate_append (by simp)]
    exact and_congr_right fun _ =>
      iff_of_true ⟨fun _ => rfl, immediate_cancelled numbers⟩ fun _ => trivial
  | some running =>
    simp only [Option.isNone_some, Bool.false_eq_true, if_false]
    rw [immediate_append (by simp)]
    simp [Immediate]

theorem not_mem_readOnly {operation : DashboardCommandOperation} (h : operation.urgent = true) :
    operation ∉ READ_ONLY_COMMANDS := by
  cases operation with
  | abort | steer | abortRetry => decide
  | _ => cases h

variable [DecidableEq Identity] {hub hub' : InProcessRichHub Identity} {maxCommandResults : Nat}

/-- **A step of the hub**: an urgent command has waited after a step out of the condition, and only
then. -/
theorem immediate_step {event : RichHubEvent Identity}
    (hstep : hub.step maxCommandResults event = some hub') :
    Immediate hub'.history ↔ Immediate hub.history ∧ IdleForUrgent hub event := by
  cases event with
  | command channelId command =>
    obtain rfl := Option.some.inj hstep
    simp only [InProcessRichHub.command, IdleForUrgent]
    cases hrole : hub.channels.get? channelId with
    | none => simp
    | some role =>
      by_cases hidentity : command.identity = hub.identity
      · rw [Option.bind_some, if_neg (not_not.mpr hidentity)]
        by_cases hdenied : role ≠ .controller ∧ command.operation ∉ READ_ONLY_COMMANDS
        · rw [if_pos hdenied]
          simp [hdenied.1]
        rw [if_neg hdenied]
        cases hkey : command.idempotencyKey.bind hub.commandResults.get? with
        | some kept =>
          obtain ⟨fingerprint, number⟩ := kept
          simp only
          split
          · simp
          · simp
        | none =>
          refine (serialize_history hub ⟨hub.nextCommand, command.operation⟩).trans ?_
          refine and_congr_right fun _ => forall_congr' fun hurgent => ?_
          have hcontroller : role = .controller := by
            by_contra h
            exact hdenied ⟨h, not_mem_readOnly hurgent⟩
          simp [hcontroller, hidentity]
      · simp [hidentity]
  | channel channelId role =>
    cases role with
    | none | some =>
      cases hstep
      exact (and_iff_left trivial).symm
  | completed =>
    obtain ⟨command, -, rfl⟩ := Option.map_eq_some_iff.mp hstep
    exact (complete_history hub command).trans (and_iff_left trivial).symm
  | promptEnded =>
    cases hstep
    exact (and_iff_left trivial).symm

/-- **Urgent commands.**  Each abort, steer and abort of a retry that is accepted in a run is handed on at
once, exactly when each finds nothing running. -/
theorem urgent_commands_immediate (maxCommandResults : Nat) (identity : Identity)
    {events : List (RichHubEvent Identity)}
    (hrun : run (step maxCommandResults) (new identity) events = some hub) :
    Immediate hub.history ↔ Meets (step maxCommandResults) IdleForUrgent (new identity) events :=
  (run_meets_iff (fun _ _ _ _ _ => trivial) (fun _ _ _ _ => immediate_step) trivial hrun).trans
    (and_iff_right trivial)

/-! ### An abort behind a prompt -/

def issues (operation : DashboardCommandOperation) : RichHubEvent Unit :=
  .command (text "c") ⟨(), operation, text "null", none⟩

theorem urgent_commands_immediate_steer : ∃ hub,
    run (step 8) (new ()) [.channel (text "c") (some .controller), issues .compact, .completed,
      issues .steer] = some hub ∧ hub.nextCommand = 2 ∧
    (Immediate hub.history ↔ Meets (step 8) IdleForUrgent (new ())
      [.channel (text "c") (some .controller), issues .compact, .completed, issues .steer]) :=
  exists_some_and (by decide +kernel) fun _ hrun _ => urgent_commands_immediate 8 () hrun

/-- The prompt waits for its turn, and the abort for the prompt. -/
theorem abort_behind_prompt : ∃ hub,
    run (step 8) (new ()) [.channel (text "c") (some .controller), issues .prompt, issues .abort] =
      some hub ∧
    ¬Immediate hub.history ∧ hub.promptAborts = [0] ∧
      hub.history = [.accepted ⟨0, .prompt⟩, .handed 0, .accepted ⟨1, .abort⟩] := by
  have hhistory : ∃ hub, run (step 8) (new ()) [.channel (text "c") (some .controller), issues .prompt,
      issues .abort] = some hub ∧ hub.promptAborts = [0] ∧
        hub.history = [.accepted ⟨0, .prompt⟩, .handed 0, .accepted ⟨1, .abort⟩] := by
    decide +kernel
  obtain ⟨hub, hrun, hprompt, hhistory⟩ := hhistory
  refine ⟨hub, hrun, fun himmediate => ?_, hprompt, hhistory⟩
  rw [hhistory] at himmediate
  exact absurd (himmediate.2.1 rfl) (by simp)

end InProcessRichHub
end PiDaemon.Rpc
