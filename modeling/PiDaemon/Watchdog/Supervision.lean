import PiDaemon.Watchdog.State
import PiDaemon.Lib.ParseInt
import PiDaemon.Lib.Runs

/-!
# The escalation of a recovery under launchd

A recovery looks up the PID of the job, sends a SIGTERM, and polls until the job answers, or its PID
is another one.  When the deadline has passed it restarts the job by force.

* `forced_restart_confirmed`: no lookup speaks against a forced restart, and when one speaks for it.
-/

namespace PiDaemon.Watchdog

open Lib

structure CommandResult where
  exitCode : Option Int
  signal : Option JsString
  timedOut : Bool
  stdout : Option JsString
  errorCode : Option JsString

def commandSucceeded (result : CommandResult) : Bool :=
  !result.timedOut && result.exitCode = some 0 && result.signal = none

def isLineTerminator (u : UInt16) : Bool := u = 0x0a || u = 0x0d || u = 0x2028 || u = 0x2029

/-- `\s*pid = ([0-9]+)\s*$` at the beginning of a line. -/
def pidLine (line : JsString) : Option JsString :=
  let rest := line.dropWhile isStrWhiteSpace
  let digits := (rest.drop 6).takeWhile isDecimalDigit
  let after := (rest.drop 6).dropWhile isDecimalDigit
  if text "pid = " <+: rest ∧ digits ≠ [] ∧
      ((after.dropWhile fun u => isStrWhiteSpace u && !isLineTerminator u).head?.all isLineTerminator) then
    some digits
  else none

/-- The first line that matches; `begins` says whether a line begins here. -/
def matchPid (begins : Bool) : JsString → Option JsString
  | [] => none
  | u :: rest =>
    (if begins then pidLine (u :: rest) else none).or (matchPid (isLineTerminator u) rest)

/-- `#launchdPid`, of the result of its command. -/
def launchdPid (result : CommandResult) : Option Nat :=
  if commandSucceeded result then
    (result.stdout.bind fun stdout => (matchPid true stdout).bind parseDigits).filter fun pid =>
      0 < pid ∧ pid ≤ MAX_SAFE_INTEGER
  else none

inductive LaunchctlCommand where
  | print
  | kickstart
  /-- `kill SIGTERM` -/
  | kill
  /-- `kickstart -k` -/
  | kickstartForced
  deriving DecidableEq

/-- What a recovery returns, apart from its duration. -/
structure LaunchdOutcome where
  ok : Bool
  escalated : Bool
  errorCode : Option JsString

def commandRecoveryResult (result : CommandResult) (escalated : Bool) : LaunchdOutcome :=
  ⟨commandSucceeded result, escalated,
    if commandSucceeded result then none
    else some (result.errorCode.getD (text "supervisor_command_failed"))⟩

/-- What the recovery waits for. -/
inductive LaunchdPc where
  | lookup
  | start
  | terminate (pid : Nat)
  | deadline (pid : Nat)
  | test (pid : Nat) (deadline : Rat)
  | probe (pid : Nat) (deadline : Rat)
  | poll (pid : Nat) (deadline : Rat)
  | force
  | ended (outcome : LaunchdOutcome)

structure LaunchdRecovery where
  pc : LaunchdPc
  originalPid : Option Nat
  /-- The commands that have been issued. -/
  commands : List LaunchctlCommand
  /-- The lookups since the SIGTERM. -/
  lookups : List (Option Nat)

inductive LaunchdAnswer where
  | command (result : CommandResult)
  | now (reading : Rat)
  | probed (phase : WatchdogProbePhase)

namespace LaunchdRecovery

def begin_ (uid : Option Nat) : LaunchdRecovery :=
  match uid with
  | none => ⟨.ended ⟨false, false, some (text "uid_unavailable")⟩, none, [], []⟩
  | some _ => ⟨.lookup, none, [.print], []⟩

def issue (s : LaunchdRecovery) (command : LaunchctlCommand) (pc : LaunchdPc) : LaunchdRecovery :=
  { s with pc, commands := s.commands ++ [command] }

/-- `#recoverLaunchd`, from one of its awaits or readings of the clock to the next. -/
def step (gracefulTimeoutMs : Nat) (s : LaunchdRecovery) : LaunchdAnswer → Option LaunchdRecovery
  | .command result =>
    match s.pc with
    | .lookup =>
      match launchdPid result with
      | none => some (s.issue .kickstart .start)
      | some pid => some ({ s with originalPid := some pid }.issue .kill (.terminate pid))
    | .start => some { s with pc := .ended (commandRecoveryResult result false) }
    | .terminate pid =>
      if commandSucceeded result then some { s with pc := .deadline pid }
      else some (s.issue .kickstartForced .force)
    | .poll pid deadline =>
      if launchdPid result = some pid then
        some { s with pc := .test pid deadline, lookups := s.lookups ++ [launchdPid result] }
      else
        some { s with pc := .ended ⟨true, false, none⟩, lookups := s.lookups ++ [launchdPid result] }
    | .force => some { s with pc := .ended (commandRecoveryResult result true) }
    | _ => none
  | .now reading =>
    match s.pc with
    | .deadline pid => some { s with pc := .test pid (reading + gracefulTimeoutMs) }
    | .test pid deadline =>
      if reading < deadline then some { s with pc := .probe pid deadline }
      else some (s.issue .kickstartForced .force)
    | _ => none
  | .probed phase =>
    match s.pc with
    | .probe pid deadline =>
      if phase = .healthy ∨ phase = .degraded then some { s with pc := .ended ⟨true, false, none⟩ }
      else some (s.issue .print (.poll pid deadline))
    | _ => none

/-- The last lookups before a forced restart, one or more, have found the original process. -/
def Confirmed (s : LaunchdRecovery) : Prop :=
  .kickstartForced ∈ s.commands → ∃ before pid after, s.originalPid = some pid ∧
    s.lookups = before ++ some pid :: after ∧ ∀ lookup ∈ after, lookup = some pid

/-- The SIGTERM is sent, and the deadline has not passed before the first poll. -/
def PollsFirst (s : LaunchdRecovery) : LaunchdAnswer → Prop
  | .command result => ∀ pid, s.pc = .terminate pid → commandSucceeded result = true
  | .now reading => ∀ pid deadline, s.pc = .test pid deadline → s.lookups = [] → reading < deadline
  | .probed _ => True

/-- What the lookups and the commands are while the recovery waits. -/
def Sparing (s : LaunchdRecovery) : Prop :=
  match s.pc with
  | .lookup | .start => .kickstartForced ∉ s.commands ∧ s.lookups = []
  | .terminate pid | .deadline pid =>
    .kickstartForced ∉ s.commands ∧ s.originalPid = some pid ∧ s.lookups = []
  | .test pid _ | .probe pid _ | .poll pid _ =>
    .kickstartForced ∉ s.commands ∧ s.originalPid = some pid ∧
      ∀ lookup ∈ s.lookups, lookup = some pid
  | .force => ∃ pid, s.originalPid = some pid ∧ ∀ lookup ∈ s.lookups, lookup = some pid
  | .ended _ => .kickstartForced ∈ s.commands →
    ∃ pid, s.originalPid = some pid ∧ ∀ lookup ∈ s.lookups, lookup = some pid

/-- A restart by force follows a lookup. -/
def Looked (s : LaunchdRecovery) : Prop := .kickstartForced ∈ s.commands → s.lookups ≠ []

variable {gracefulTimeoutMs : Nat} {s t : LaunchdRecovery} {answer : LaunchdAnswer}

theorem sparing_begin (uid : Option Nat) : (begin_ uid).Sparing := by
  cases uid with
  | none => exact fun h => absurd h List.not_mem_nil
  | some => exact ⟨by simp [begin_], rfl⟩

theorem sparing_step (h : s.Sparing) (hstep : s.step gracefulTimeoutMs answer = some t) : t.Sparing := by
  obtain ⟨pc, originalPid, commands, lookups⟩ := s
  cases answer with
  | command result =>
    cases pc with
    | lookup =>
      obtain ⟨hforced, hlookups⟩ := h
      simp only [step] at hstep
      split at hstep
      · cases hstep
        exact ⟨by simpa [issue] using hforced, hlookups⟩
      · cases hstep
        exact ⟨by simpa [issue] using hforced, rfl, hlookups⟩
    | start =>
      cases hstep
      exact fun hmem => absurd hmem h.1
    | terminate pid =>
      obtain ⟨hforced, horiginal, hlookups⟩ := h
      simp only [step] at hstep
      split at hstep
      · cases hstep
        exact ⟨hforced, horiginal, hlookups⟩
      · cases hstep
        exact ⟨pid, horiginal, fun lookup hmem => absurd (hlookups ▸ hmem) List.not_mem_nil⟩
    | poll pid deadline =>
      obtain ⟨hforced, horiginal, hlookups⟩ := h
      simp only [step] at hstep
      split at hstep
      · rename_i hpid
        cases hstep
        refine ⟨hforced, horiginal, fun lookup hmem => ?_⟩
        rcases List.mem_append.mp hmem with hold | hnew
        · exact hlookups lookup hold
        · rw [List.mem_singleton.mp hnew, hpid]
      · cases hstep
        exact fun hmem => absurd hmem hforced
    | force =>
      cases hstep
      exact fun _ => h
    | deadline | test | probe | ended => cases hstep
  | now reading =>
    cases pc with
    | deadline pid =>
      obtain ⟨hforced, horiginal, hlookups⟩ := h
      cases hstep
      exact ⟨hforced, horiginal, fun lookup hmem => absurd (hlookups ▸ hmem) List.not_mem_nil⟩
    | test pid deadline =>
      obtain ⟨hforced, horiginal, hlookups⟩ := h
      simp only [step] at hstep
      split at hstep
      · cases hstep
        exact ⟨hforced, horiginal, hlookups⟩
      · cases hstep
        exact ⟨pid, horiginal, hlookups⟩
    | lookup | start | terminate | probe | poll | force | ended => cases hstep
  | probed phase =>
    cases pc with
    | probe pid deadline =>
      obtain ⟨hforced, horiginal, hlookups⟩ := h
      simp only [step] at hstep
      split at hstep
      · cases hstep
        exact fun hmem => absurd hmem hforced
      · cases hstep
        exact ⟨by simpa [issue] using hforced, horiginal, hlookups⟩
    | lookup | start | terminate | deadline | test | poll | force | ended => cases hstep

/-- A restart by force follows no lookup after a step out of the condition, and only then. -/
theorem looked_step (h : s.Sparing) (hstep : s.step gracefulTimeoutMs answer = some t) :
    t.Looked ↔ s.Looked ∧ s.PollsFirst answer := by
  obtain ⟨pc, originalPid, commands, lookups⟩ := s
  cases answer with
  | command result =>
    cases pc with
    | lookup =>
      simp only [step] at hstep
      split at hstep
      · cases hstep
        simp [Looked, PollsFirst, issue, h.1]
      · cases hstep
        simp [Looked, PollsFirst, issue, h.1]
    | start | force =>
      cases hstep
      simp [Looked, PollsFirst]
    | terminate pid =>
      simp only [step] at hstep
      split at hstep
      · rename_i hsent
        cases hstep
        simp [Looked, PollsFirst, hsent]
      · rename_i hfailed
        cases hstep
        simp [Looked, PollsFirst, issue, hfailed, h.2.2]
    | poll pid deadline =>
      simp only [step] at hstep
      split at hstep
      · cases hstep
        simp [Looked, PollsFirst, h.1]
      · cases hstep
        simp [Looked, PollsFirst, h.1]
    | deadline | test | probe | ended => cases hstep
  | now reading =>
    cases pc with
    | deadline pid =>
      cases hstep
      simp [Looked, PollsFirst]
    | test pid deadline =>
      simp only [step] at hstep
      split at hstep
      · rename_i hearly
        cases hstep
        simp [Looked, PollsFirst, hearly]
      · rename_i hlate
        cases hstep
        simp [Looked, PollsFirst, issue, hlate, h.1]
    | lookup | start | terminate | probe | poll | force | ended => cases hstep
  | probed phase =>
    cases pc with
    | probe pid deadline =>
      simp only [step] at hstep
      split at hstep
      · cases hstep
        simp [Looked, PollsFirst]
      · cases hstep
        simp [Looked, PollsFirst, issue]
    | lookup | start | terminate | deadline | test | poll | force | ended => cases hstep

theorem Sparing.forced (h : s.Sparing) (hforced : .kickstartForced ∈ s.commands) :
    ∃ pid, s.originalPid = some pid ∧ ∀ lookup ∈ s.lookups, lookup = some pid := by
  obtain ⟨pc, originalPid, commands, lookups⟩ := s
  cases pc with
  | lookup | start | terminate | deadline | test | probe | poll => exact absurd hforced h.1
  | force => exact h
  | ended => exact h hforced

theorem confirmed_iff (h : s.Sparing) : s.Confirmed ↔ s.Looked := by
  refine forall_congr' fun hforced => ?_
  obtain ⟨pid, horiginal, hlookups⟩ := h.forced hforced
  constructor
  · rintro ⟨before, pid, after, -, heq, -⟩ hnil
    simp [heq] at hnil
  intro hne
  obtain ⟨lookup, after, heq⟩ := List.exists_cons_of_ne_nil hne
  rw [heq, List.forall_mem_cons] at hlookups
  exact ⟨[], pid, after, horiginal, by rw [heq, hlookups.1]; rfl, hlookups.2⟩

/-- **Forced restarts.**  No lookup speaks against one, and in the runs that reach a poll one has
spoken for it; in the others none has. -/
theorem forced_restart_confirmed (gracefulTimeoutMs : Nat) (uid : Option Nat)
    {answers : List LaunchdAnswer} {s : LaunchdRecovery}
    (hrun : run (step gracefulTimeoutMs) (begin_ uid) answers = some s) :
    (.kickstartForced ∈ s.commands → ∀ lookup ∈ s.lookups, lookup = s.originalPid) ∧
      (s.Confirmed ↔ Meets (step gracefulTimeoutMs) PollsFirst (begin_ uid) answers) := by
  have hsparing : s.Sparing := run_invariant (fun _ _ _ => sparing_step) (sparing_begin uid) hrun
  have hlooked : (begin_ uid).Looked := by
    cases uid with
    | none => exact fun h => absurd h List.not_mem_nil
    | some => simp [Looked, begin_]
  refine ⟨fun hforced => ?_, (confirmed_iff hsparing).trans ?_⟩
  · obtain ⟨pid, horiginal, hlookups⟩ := hsparing.forced hforced
    exact horiginal ▸ hlookups
  · rw [run_meets_iff (fun _ _ _ => sparing_step) (fun _ _ _ => looked_step) (sparing_begin uid) hrun]
    exact and_iff_right hlooked

/-! ### A SIGTERM that times out -/

def printed (stdout : String) : LaunchdAnswer := .command ⟨some 0, none, false, some (text stdout), none⟩

def timedOut : LaunchdAnswer := .command ⟨none, some (text "SIGKILL"), true, none, some (text "timeout")⟩

theorem forced_restart_confirmed_polled : ∃ s,
    run (step 1000) (begin_ (some 501)) [printed "pid = 10", printed "", .now 0, .now 1, .probed .failed,
      printed "a\n\tpid = 10\n", .now 2000] = some s ∧
    .kickstartForced ∈ s.commands ∧ ∀ lookup ∈ s.lookups, lookup = s.originalPid :=
  exists_some_and (by decide +kernel) fun _ hrun hforced =>
    (forced_restart_confirmed 1000 (some 501) hrun).1 hforced

/-- The process is restarted by force, whatever has become of it. -/
theorem timed_out_signal_forces : ∃ s,
    run (step 1000) (begin_ (some 501)) [printed "pid = 10", timedOut] = some s ∧ ¬s.Confirmed := by
  have hforced : ∃ s, run (step 1000) (begin_ (some 501)) [printed "pid = 10", timedOut] = some s ∧
      .kickstartForced ∈ s.commands ∧ s.lookups = [] := by
    decide +kernel
  obtain ⟨s, hrun, hmem, hlookups⟩ := hforced
  refine ⟨s, hrun, fun hconfirmed => ?_⟩
  obtain ⟨before, pid, after, -, heq, -⟩ := hconfirmed hmem
  simp [hlookups] at heq

end LaunchdRecovery
end PiDaemon.Watchdog
