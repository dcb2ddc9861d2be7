import Mathlib.Data.Int.Order.Basic
import PiDaemon.Lib.MinHeap
import PiDaemon.Scheduler.Due

/-!
# The scheduler

`SchedulerRuntime` as a machine.  Its serialized work is one coroutine at a time: it
waits for a call of the store or of the gateway, and goes on to the next call when
that returns.  The settlements of admissions and the calls of other users of the
store take their steps in between, in any order.  A call of the store and what
follows it up to the next call are one step; what the others do between the two they
could as well do before.

What the clock, the gateway and the files answer is chosen by the events of a run.
`commits` and `admits` record what the store has committed and which occurrences the
gateway has been handed.
-/

namespace PiDaemon.Scheduler

open Lib Durability

/-! ## The gateway -/

inductive SchedulerSessionState where
  | opening
  | idle
  | running
  | failed
  | closing
  | dormant
  deriving DecidableEq

structure SchedulerSession where
  sessionId : JsString
  generation : Nat
  state : SchedulerSessionState
  deriving DecidableEq

inductive SchedulerTicketState where
  | queued
  | running
  | succeeded
  | failed
  | indeterminate
  deriving DecidableEq

structure SchedulerTicket where
  ticketId : JsString
  state : SchedulerTicketState
  updatedAt : Timestamp
  errorCode : Option JsString
  deriving DecidableEq

/-- The terminal state of a ticket as a schedule records it. -/
def SchedulerTicket.terminal (ticket : SchedulerTicket) : Option ScheduleTerminalTicketSummary :=
  match ticket.state with
  | .queued => none
  | .running => none
  | .succeeded => some ⟨ticket.ticketId, .completed, ticket.updatedAt, ticket.errorCode⟩
  | .failed => some ⟨ticket.ticketId, .failed, ticket.updatedAt, ticket.errorCode⟩
  | .indeterminate => some ⟨ticket.ticketId, .indeterminate, ticket.updatedAt, ticket.errorCode⟩

/-! ## Serialized work -/

/-- What follows the decision of an occurrence. -/
inductive OccurrenceCont where
  /-- The other occurrences of the schedule and the other schedules of `#runDue`. -/
  | due (now : Int) (run : List Int) (rest : List ScheduleResource)
  /-- The end of the work that drains an overlap. -/
  | drain

/-- The variables of `#decideAndAdmit`. -/
structure Decision where
  schedule : ScheduleResource
  next : Int
  scheduledFor : Int
  observedAt : Int
  cont : OccurrenceCont

/-- What follows a call of `#persist`. -/
inductive PersistCont where
  | normalized (now : Int) (rest : List ScheduleResource)
  /-- The decision of an occurrence has been persisted. -/
  | decided (d : Decision)
  /-- `return this.#persist(…)` -/
  | returned (d : Decision)
  | admitted (d : Decision) (session : SchedulerSession) (ticket : SchedulerTicket)
  | finished (now : Int) (rest : List ScheduleResource)

/-- The call that the serialized work waits for. -/
inductive Await where
  | normalizeList (now : Int)
  | dueList (now : Int)
  | armList
  | drainGet (scheduleId : JsString) (scheduledFor : Int)
  /-- `updateRuntimeState` in `#persist`. -/
  | persist (schedule : ScheduleResource) (state : ScheduleRuntimeState) (k : PersistCont)
  /-- The `get` of `#persist` after a conflict. -/
  | reread (scheduleId : JsString) (k : PersistCont)
  | resolve (d : Decision)
  | admission (d : Decision) (session : SchedulerSession)

/-- How a part of the work without a call ends. -/
inductive Flow where
  | await (call : Await)
  | arm
  | throws

section
variable (platform : SchedulePlatform)

/-- The loop of `#normalizeSchedules`; `clock` is read by `#runDue` after it. -/
def normalizeLoop (clock now : Int) : List ScheduleResource → Flow
  | [] => .await (.dueList clock)
  | schedule :: rest =>
    match normalizeSchedule platform now schedule with
    | .keep => normalizeLoop clock now rest
    | .persist next => .await (.persist schedule ⟨next, schedule.lastTrigger⟩ (.normalized now rest))
    | .throws => .throws

/-- `#decideAndAdmit` up to its first call. -/
def startDecision (schedule : ScheduleResource) (scheduledFor observedAt : Int)
    (cont : OccurrenceCont) : Flow :=
  match nextOf platform schedule scheduledFor with
  | none => .throws
  | some next =>
    .await (.persist schedule
      ⟨some (isoTimestamp next), some (trigger scheduledFor observedAt .rejected)⟩
      (.decided ⟨schedule, next, scheduledFor, observedAt, cont⟩))

/-- The end of the body of the loop of `#runDue`; `after` is the rest of the loop. -/
def finishSchedule (now : Int) (current : ScheduleResource) (rest : List ScheduleResource)
    (after : Flow) : Flow :=
  match nextOf platform current now with
  | none => .throws
  | some next =>
    if current.nextTriggerAt ≠ some (isoTimestamp next) then
      .await (.persist current ⟨some (isoTimestamp next), current.lastTrigger⟩ (.finished now rest))
    else after

/-- The loop of `#runDue`. -/
def dueLoop (now : Int) : List ScheduleResource → Flow
  | [] => .arm
  | original :: rest =>
    match dueTrigger platform now original with
    | none => dueLoop now rest
    | some first =>
      match selectDue platform original first now with
      | none => .throws
      | some [] => finishSchedule platform now original rest (dueLoop now rest)
      | some (scheduledFor :: run) =>
        startDecision platform original scheduledFor now (.due now run rest)

/-- The loop over the selected occurrences, after one of them. -/
def continueRun (now : Int) (current : ScheduleResource) (run : List Int)
    (rest : List ScheduleResource) : Flow :=
  match run with
  | [] => finishSchedule platform now current rest (dueLoop platform now rest)
  | scheduledFor :: run => startDecision platform current scheduledFor now (.due now run rest)

end

/-! ## The state -/

inductive Job where
  | recompute
  | drain (scheduleId : JsString) (scheduledFor : Int)
  deriving DecidableEq

inductive SettlementStage where
  /-- The completion of the admission is awaited. -/
  | waiting
  /-- The `get` of `#recordTerminal`. -/
  | recording (terminal : ScheduleTerminalTicketSummary)
  | persisting (current : ScheduleResource) (state : ScheduleRuntimeState)
  | rereading
  | finishing

/-- A promise of `#settlements`; one whose ticket was terminal at once is not tracked. -/
structure Settlement where
  id : Nat
  scheduleId : JsString
  sessionId : JsString
  scheduledFor : Timestamp
  ticketId : JsString
  /-- The set of active tickets that the ticket is in. -/
  active : Nat
  tracked : Bool
  stage : SettlementStage

/-- A revision that the store has committed, and the record before it. -/
structure Commit where
  before : Option ScheduleResource
  after : ScheduleResource
  deriving DecidableEq

/-- An occurrence that `gateway.admit` has been called for. -/
structure Admit where
  scheduleId : JsString
  scheduledFor : Int
  deriving DecidableEq

structure SchedulerRuntime where
  store : FileScheduleStore
  running : Bool
  draining : Bool
  op : Option Await
  queue : List Job
  settlements : List Settlement
  nextSettlement : Nat
  /-- The sets of `#activeBySession`, by their position in `activeSets`. -/
  activeBySession : OrderedMap JsString Nat
  activeSets : List (List JsString)
  pendingOverlaps : OrderedMap JsString Int
  nextWakeAt : Option Int
  commits : List Commit
  admits : List Admit

/-- What the clock, the files and the gateway answer to a step. -/
structure SchedulerInput where
  now : Int
  outcome : FileOutcome
  /-- `gateway.isDraining()` -/
  gatewayDraining : Bool
  session : Option SchedulerSession
  /-- The ticket of an admission; `none` is a throw. -/
  admission : Option SchedulerTicket
  /-- The ticket of a completion; `none` is a rejection. -/
  completion : Option SchedulerTicket
  deriving DecidableEq

namespace SchedulerRuntime

/-- A runtime over a store, before `start`. -/
def new (store : FileScheduleStore) : SchedulerRuntime where
  store := store
  running := false
  draining := false
  op := none
  queue := []
  settlements := []
  nextSettlement := 0
  activeBySession := .empty
  activeSets := []
  pendingOverlaps := .empty
  nextWakeAt := none
  commits := []
  admits := []

variable (limits : ScheduleLimits) (platform : SchedulePlatform)

/-! ## Calls of the store -/

/-- The record of a call that may have committed a revision. -/
def record (s : SchedulerRuntime) (scheduleId : JsString)
    (result : FileScheduleStore × Except ScheduleError ScheduleResource) : SchedulerRuntime :=
  { s with
    store := result.1
    commits :=
      match result.2 with
      | .error _ => s.commits
      | .ok resource => s.commits ++ [⟨s.store.get scheduleId, resource⟩] }

/-- The answer of `updateRuntimeState` in `#persist`. -/
def updateCall (s : SchedulerRuntime) (schedule : ScheduleResource) (state : ScheduleRuntimeState)
    (input : SchedulerInput) : FileScheduleStore × Except ScheduleError ScheduleResource :=
  s.store.updateRuntimeState limits platform schedule.scheduleId schedule.revision state input.now
    input.outcome

/-! ## Admissions -/

def activeSet (s : SchedulerRuntime) (sessionId : JsString) : List JsString :=
  match s.activeBySession.get? sessionId with
  | none => []
  | some set => s.activeSets.getD set []

def trackAdmission (s : SchedulerRuntime) (schedule : ScheduleResource) (sessionId : JsString)
    (scheduledFor : Timestamp) (ticket : SchedulerTicket) : SchedulerRuntime :=
  match ticket.terminal with
  | some terminal =>
    { s with
      settlements := s.settlements ++
        [⟨s.nextSettlement, schedule.scheduleId, sessionId, scheduledFor, ticket.ticketId, 0, false,
          .recording terminal⟩]
      nextSettlement := s.nextSettlement + 1 }
  | none =>
    match s.activeBySession.get? sessionId with
    | some set =>
      let tickets := s.activeSets.getD set []
      { s with
        activeSets := s.activeSets.set set
          (if tickets.contains ticket.ticketId then tickets else tickets ++ [ticket.ticketId])
        settlements := s.settlements ++
          [⟨s.nextSettlement, schedule.scheduleId, sessionId, scheduledFor, ticket.ticketId, set, true,
            .waiting⟩]
        nextSettlement := s.nextSettlement + 1 }
    | none =>
      { s with
        activeSets := s.activeSets ++ [[ticket.ticketId]]
        activeBySession := s.activeBySession.set sessionId s.activeSets.length
        settlements := s.settlements ++
          [⟨s.nextSettlement, schedule.scheduleId, sessionId, scheduledFor, ticket.ticketId,
            s.activeSets.length, true, .waiting⟩]
        nextSettlement := s.nextSettlement + 1 }

/-! ## Steps of the serialized work -/

/-- `#arm` up to its call. -/
def startArm (s : SchedulerRuntime) : SchedulerRuntime :=
  { s with
    nextWakeAt := none
    op := if s.running ∧ ¬ s.draining then some .armList else none }

def enter (s : SchedulerRuntime) : Flow → SchedulerRuntime
  | .await call => { s with op := some call }
  | .arm => s.startArm
  | .throws => { s with op := none }

/-- `#decideAndAdmit` has returned. -/
def decisionReturned (s : SchedulerRuntime) (current : Option ScheduleResource) :
    OccurrenceCont → SchedulerRuntime
  | .drain => s.startArm
  | .due now run rest =>
    match current with
    | none => s.enter (dueLoop platform now rest)
    | some current => s.enter (continueRun platform now current run rest)

/-- `#persist` has returned. -/
def persistReturned (s : SchedulerRuntime) (current : Option ScheduleResource)
    (input : SchedulerInput) : PersistCont → SchedulerRuntime
  | .normalized now rest => s.enter (normalizeLoop platform input.now now rest)
  | .finished now rest => s.enter (dueLoop platform now rest)
  | .returned d => s.decisionReturned platform current d.cont
  | .decided d =>
    match current with
    | none => s.decisionReturned platform none d.cont
    | some current =>
      if s.draining ∨ input.gatewayDraining then s.decisionReturned platform (some current) d.cont
      else { s with op := some (.resolve { d with schedule := current }) }
  | .admitted d session ticket =>
    match current with
    | none => s.decisionReturned platform none d.cont
    | some current =>
      (s.trackAdmission current session.sessionId (isoTimestamp d.scheduledFor) ticket).decisionReturned
        platform (some current) d.cont

/-- `#persist` has thrown; only the one after an admission is caught. -/
def persistThrew (s : SchedulerRuntime) : PersistCont → SchedulerRuntime
  | .admitted d _ _ => s.decisionReturned platform (some d.schedule) d.cont
  | .normalized _ _ => { s with op := none }
  | .decided _ => { s with op := none }
  | .returned _ => { s with op := none }
  | .finished _ _ => { s with op := none }

/-- `updateRuntimeState` has been called for `#persist`. -/
def persistStep (s : SchedulerRuntime) (schedule : ScheduleResource) (state : ScheduleRuntimeState)
    (k : PersistCont) (input : SchedulerInput) : SchedulerRuntime :=
  let result := s.updateCall limits platform schedule state input
  let t := s.record schedule.scheduleId result
  match result.2 with
  | .ok resource => t.persistReturned platform (some resource) input k
  | .error error =>
    if error.code = .revisionConflict ∨ error.code = .notFound then
      { t with op := some (.reread schedule.scheduleId k) }
    else t.persistThrew platform k

/-- The session takes no occurrence now. -/
def SchedulerSessionState.refuses : SchedulerSessionState → Bool
  | .failed => true
  | .closing => true
  | .dormant => true
  | .opening => false
  | .idle => false
  | .running => false

/-- Work of the session is going on. -/
def busy (s : SchedulerRuntime) (session : SchedulerSession) : Bool :=
  session.state = .running || s.activeSet session.sessionId ≠ []

/-- `gateway.resolveSession` has returned. -/
def resolveStep (s : SchedulerRuntime) (d : Decision) (input : SchedulerInput) : SchedulerRuntime :=
  match input.session with
  | none => s.decisionReturned platform (some d.schedule) d.cont
  | some session =>
    if SchedulerSessionState.refuses session.state then
      s.decisionReturned platform (some d.schedule) d.cont
    else if s.busy session then
      let skipped : Await := .persist d.schedule
        ⟨some (isoTimestamp d.next), some (trigger d.scheduledFor d.observedAt .skipped)⟩ (.returned d)
      match d.schedule.overlapPolicy with
      | .skip => { s with op := some skipped }
      | .queueOne =>
        { s with
          op := some skipped
          pendingOverlaps := s.pendingOverlaps.set d.schedule.scheduleId d.scheduledFor }
      | .reject => s.decisionReturned platform (some d.schedule) d.cont
    else
      { s with
        op := some (.admission d session)
        admits := s.admits ++ [⟨d.schedule.scheduleId, d.scheduledFor⟩] }

/-- The serialized work takes a step. -/
def advance (s : SchedulerRuntime) (input : SchedulerInput) : Await → SchedulerRuntime
  | .normalizeList now => s.enter (normalizeLoop platform input.now now (s.store.list platform))
  | .dueList now => s.enter (dueLoop platform now (s.store.list platform))
  | .armList =>
    { s with
      op := none
      nextWakeAt := ((fireInstants platform (s.store.list platform)).foldl heapPush []).head? }
  | .drainGet scheduleId scheduledFor =>
    match s.store.get scheduleId with
    | none => s.startArm
    | some latest =>
      if latest.enabled then s.enter (startDecision platform latest scheduledFor input.now .drain)
      else s.startArm
  | .persist schedule state k => s.persistStep limits platform schedule state k input
  | .reread scheduleId k => s.persistReturned platform (s.store.get scheduleId) input k
  | .resolve d => s.resolveStep platform d input
  | .admission d session =>
    match input.admission with
    | none => s.decisionReturned platform (some d.schedule) d.cont
    | some ticket =>
      { s with
        op := some (.persist d.schedule
          ⟨some (isoTimestamp d.next), some (trigger d.scheduledFor d.observedAt .admitted)⟩
          (.admitted d session ticket)) }

/-- The next job begins. -/
def beginJob (s : SchedulerRuntime) (now : Int) : Option SchedulerRuntime :=
  match s.op, s.queue with
  | none, .recompute :: queue =>
    some (if s.running ∧ ¬ s.draining then { s with queue, op := some (.normalizeList now) }
      else { s with queue })
  | none, .drain scheduleId scheduledFor :: queue =>
    some { s with queue, op := some (.drainGet scheduleId scheduledFor) }
  | none, [] => none
  | some _, _ => none

/-! ## Settlements -/

def setStage (s : SchedulerRuntime) (id : Nat) (stage : SettlementStage) : SchedulerRuntime :=
  { s with
    settlements := s.settlements.map fun settlement =>
      if settlement.id = id then { settlement with stage } else settlement }

/-- The end of a settlement: an overlap that waits for it is drained. -/
def finishSettlement (s : SchedulerRuntime) (settlement : Settlement) : SchedulerRuntime :=
  let s := { s with settlements := s.settlements.filter fun other => other.id ≠ settlement.id }
  if ¬ settlement.tracked then s
  else
    let tickets := (s.activeSets.getD settlement.active []).filter (· ≠ settlement.ticketId)
    let s :=
      { s with
        activeSets := s.activeSets.set settlement.active tickets
        activeBySession :=
          if tickets = [] then s.activeBySession.delete settlement.sessionId else s.activeBySession }
    match s.pendingOverlaps.get? settlement.scheduleId with
    | none => s
    | some scheduledFor =>
      if s.draining then s
      else
        { s with
          pendingOverlaps := s.pendingOverlaps.delete settlement.scheduleId
          queue := s.queue ++ [.drain settlement.scheduleId scheduledFor] }

/-- A settlement takes a step. -/
def settleStep (s : SchedulerRuntime) (settlement : Settlement) (input : SchedulerInput) :
    SchedulerRuntime :=
  match settlement.stage with
  | .waiting =>
    match input.completion.bind SchedulerTicket.terminal with
    | none => s.setStage settlement.id .finishing
    | some terminal => s.setStage settlement.id (.recording terminal)
  | .recording terminal =>
    match s.store.get settlement.scheduleId with
    | none => s.setStage settlement.id .finishing
    | some current =>
      match current.lastTrigger with
      | none => s.setStage settlement.id .finishing
      | some last =>
        if last.scheduledFor = settlement.scheduledFor ∧ last.disposition = .admitted then
          s.setStage settlement.id (.persisting current
            ⟨current.nextTriggerAt.map fun next => isoTimestamp next.ms,
              some { last with terminalTicket := some terminal }⟩)
        else s.setStage settlement.id .finishing
  | .persisting current state =>
    let result := s.updateCall limits platform current state input
    let t := s.record current.scheduleId result
    match result.2 with
    | .ok _ => t.setStage settlement.id .finishing
    | .error error =>
      if error.code = .revisionConflict ∨ error.code = .notFound then
        t.setStage settlement.id .rereading
      else t.setStage settlement.id .finishing
  | .rereading => s.setStage settlement.id .finishing
  | .finishing => s.finishSettlement settlement

end SchedulerRuntime

/-! ## Runs -/

inductive SchedulerEvent where
  | create (definition : ScheduleDefinition) (now : Int) (outcome : FileOutcome)
  | update (scheduleId : JsString) (expectedRevision : Nat) (definition : ScheduleDefinition)
      (now : Int) (outcome : FileOutcome)
  | delete (scheduleId : JsString) (expectedRevision : Nat) (outcome : FileOutcome)
  | start
  | stop
  /-- A call of `recompute`, also by the timer. -/
  | recompute
  | beginDrain
  | beginJob (now : Int)
  | advance (input : SchedulerInput)
  | settle (id : Nat) (input : SchedulerInput)
  /-- The process ends and a new one loads the store. -/
  | restart
  deriving DecidableEq

open SchedulerRuntime in
def schedulerStep (limits : ScheduleLimits) (platform : SchedulePlatform) (s : SchedulerRuntime) :
    SchedulerEvent → Option SchedulerRuntime
  | .create definition now outcome =>
    some (s.record definition.scheduleId (s.store.create limits platform definition now outcome))
  | .update scheduleId expectedRevision definition now outcome =>
    some (s.record scheduleId
      (s.store.update limits platform scheduleId expectedRevision definition now outcome))
  | .delete scheduleId expectedRevision outcome =>
    some { s with store := (s.store.delete scheduleId expectedRevision outcome).1 }
  | .start =>
    some (if s.running ∨ s.draining then s
      else { s with running := true, queue := s.queue ++ [.recompute] })
  | .stop => some { s with running := false, nextWakeAt := none }
  | .recompute => some { s with queue := s.queue ++ [.recompute] }
  | .beginDrain =>
    some { s with
      draining := true
      running := false
      pendingOverlaps := .empty
      nextWakeAt := none }
  | .beginJob now => s.beginJob now
  | .advance input => s.op.map (s.advance limits platform input)
  | .settle id input =>
    (s.settlements.find? fun settlement => settlement.id = id).map fun settlement =>
      s.settleStep limits platform settlement input
  | .restart =>
    match FileScheduleStore.load limits platform s.store.directory with
    | (_, .error _) => none
    | (store, .ok _) =>
      some { SchedulerRuntime.new store with commits := s.commits, admits := s.admits }

/-! ## Frames -/

namespace SchedulerRuntime

/-- Only the serialized work and its timer have moved on. -/
structure OnlyOp (s t : SchedulerRuntime) : Prop where
  store : t.store = s.store
  draining : t.draining = s.draining
  queue : t.queue = s.queue
  settlements : t.settlements = s.settlements
  nextSettlement : t.nextSettlement = s.nextSettlement
  pendingOverlaps : t.pendingOverlaps = s.pendingOverlaps
  commits : t.commits = s.commits
  admits : t.admits = s.admits

theorem startArm_onlyOp (s : SchedulerRuntime) : OnlyOp s s.startArm := by
  constructor <;> rfl

theorem enter_onlyOp (s : SchedulerRuntime) (flow : Flow) : OnlyOp s (s.enter flow) := by
  cases flow with
  | await | throws => constructor <;> rfl
  | arm => exact startArm_onlyOp s

variable (platform : SchedulePlatform)

theorem decisionReturned_onlyOp (s : SchedulerRuntime) (current : Option ScheduleResource)
    (cont : OccurrenceCont) : OnlyOp s (s.decisionReturned platform current cont) := by
  cases cont with
  | drain => exact startArm_onlyOp s
  | due =>
    cases current with
    | none | some => exact enter_onlyOp s _

theorem persistThrew_onlyOp (s : SchedulerRuntime) (k : PersistCont) :
    OnlyOp s (s.persistThrew platform k) := by
  cases k with
  | admitted d => exact decisionReturned_onlyOp platform s (some d.schedule) d.cont
  | normalized | decided | returned | finished => constructor <;> rfl

/-- A persisted admission is tracked; nothing else happens but for the serialized work. -/
theorem persistReturned_onlyOp (s : SchedulerRuntime) (current : Option ScheduleResource)
    (input : SchedulerInput) (k : PersistCont) :
    OnlyOp s (s.persistReturned platform current input k) ∨
      ∃ d session ticket schedule, k = .admitted d session ticket ∧ current = some schedule ∧
        OnlyOp (s.trackAdmission schedule session.sessionId (isoTimestamp d.scheduledFor) ticket)
          (s.persistReturned platform current input k) := by
  cases k with
  | normalized | finished => exact Or.inl (enter_onlyOp s _)
  | returned d => exact Or.inl (decisionReturned_onlyOp platform s current d.cont)
  | decided d =>
    cases current with
    | none => exact Or.inl (decisionReturned_onlyOp platform s none d.cont)
    | some =>
      left
      rw [persistReturned]
      split
      · exact decisionReturned_onlyOp platform s _ _
      · constructor <;> rfl
  | admitted d session ticket =>
    cases current with
    | none => exact Or.inl (decisionReturned_onlyOp platform s none d.cont)
    | some schedule =>
      exact Or.inr ⟨d, session, ticket, schedule, rfl, rfl,
        decisionReturned_onlyOp platform _ (some schedule) d.cont⟩

/-- Only the settlements have moved on. -/
structure SameWork (s t : SchedulerRuntime) : Prop where
  store : t.store = s.store
  draining : t.draining = s.draining
  op : t.op = s.op
  queue : t.queue = s.queue
  pendingOverlaps : t.pendingOverlaps = s.pendingOverlaps
  commits : t.commits = s.commits
  admits : t.admits = s.admits

theorem trackAdmission_sameWork (s : SchedulerRuntime) (schedule : ScheduleResource)
    (sessionId : JsString) (scheduledFor : Timestamp) (ticket : SchedulerTicket) :
    SameWork s (s.trackAdmission schedule sessionId scheduledFor ticket) := by
  unfold trackAdmission
  split
  · constructor <;> rfl
  · split <;> constructor <;> rfl

theorem setStage_sameWork (s : SchedulerRuntime) (id : Nat) (stage : SettlementStage) :
    SameWork s (s.setStage id stage) := by
  constructor <;> rfl

/-- The end of a settlement leaves the overlap of its schedule alone or drains it. -/
theorem finishSettlement_cases (s : SchedulerRuntime) (m : Settlement) :
    SameWork s (s.finishSettlement m) ∨
      ∃ scheduledFor, s.pendingOverlaps.get? m.scheduleId = some scheduledFor ∧
        (s.finishSettlement m).queue = s.queue ++ [.drain m.scheduleId scheduledFor] ∧
        (s.finishSettlement m).pendingOverlaps = s.pendingOverlaps.delete m.scheduleId ∧
        (s.finishSettlement m).store = s.store ∧ (s.finishSettlement m).op = s.op ∧
        (s.finishSettlement m).commits = s.commits ∧ (s.finishSettlement m).admits = s.admits := by
  unfold finishSettlement
  simp only
  split
  · left
    constructor <;> rfl
  split
  · left
    constructor <;> rfl
  rename_i scheduledFor hpending
  split
  · left
    constructor <;> rfl
  · exact Or.inr ⟨scheduledFor, hpending, rfl, rfl, rfl, rfl, rfl, rfl⟩

theorem settleStep_cases (limits : ScheduleLimits) (s : SchedulerRuntime) (m : Settlement)
    (input : SchedulerInput) :
    SameWork s (s.settleStep limits platform m input) ∨
      (∃ current state, m.stage = .persisting current state ∧
        SameWork (s.record current.scheduleId (s.updateCall limits platform current state input))
          (s.settleStep limits platform m input)) ∨
      s.settleStep limits platform m input = s.finishSettlement m := by
  unfold settleStep
  split
  · left
    split <;> exact setStage_sameWork s _ _
  · left
    split
    · exact setStage_sameWork s _ _
    split
    · exact setStage_sameWork s _ _
    · split <;> exact setStage_sameWork s _ _
  · rename_i current state hstage
    right
    left
    refine ⟨current, state, hstage, ?_⟩
    simp only
    split
    · exact setStage_sameWork _ _ _
    · split <;> exact setStage_sameWork _ _ _
  · exact Or.inl (setStage_sameWork s _ _)
  · exact Or.inr (Or.inr rfl)

/-! ## Admissions of a step -/

section
variable (limits : ScheduleLimits) {s t : SchedulerRuntime}

theorem persistReturned_admits (current : Option ScheduleResource) (input : SchedulerInput)
    (k : PersistCont) : (s.persistReturned platform current input k).admits = s.admits := by
  rcases persistReturned_onlyOp platform s current input k with
    hop | ⟨d, session, ticket, schedule, -, -, hop⟩
  · exact hop.admits
  · rw [hop.admits]
    exact (trackAdmission_sameWork s _ _ _ _).admits

theorem persistStep_admits (schedule : ScheduleResource) (state : ScheduleRuntimeState)
    (k : PersistCont) (input : SchedulerInput) :
    (s.persistStep limits platform schedule state k input).admits = s.admits := by
  unfold persistStep
  simp only
  split
  · exact persistReturned_admits platform _ _ _
  split
  · rfl
  · exact (persistThrew_onlyOp platform _ k).admits

theorem resolveStep_admits (d : Decision) (input : SchedulerInput) :
    (s.resolveStep platform d input).admits = s.admits ∨
      (s.resolveStep platform d input).admits =
        s.admits ++ [⟨d.schedule.scheduleId, d.scheduledFor⟩] := by
  unfold resolveStep
  split
  · exact Or.inl (decisionReturned_onlyOp platform s _ _).admits
  split
  · exact Or.inl (decisionReturned_onlyOp platform s _ _).admits
  split
  · left
    split
    · rfl
    · rfl
    · exact (decisionReturned_onlyOp platform s _ _).admits
  · exact Or.inr rfl

theorem advance_admits (input : SchedulerInput) (call : Await) :
    (s.advance limits platform input call).admits = s.admits ∨
      ∃ d, call = .resolve d ∧ (s.advance limits platform input call).admits =
        s.admits ++ [⟨d.schedule.scheduleId, d.scheduledFor⟩] := by
  cases call with
  | normalizeList | dueList => exact Or.inl (enter_onlyOp s _).admits
  | armList => exact Or.inl rfl
  | drainGet =>
    left
    simp only [SchedulerRuntime.advance]
    split
    · rfl
    split
    · exact (enter_onlyOp s _).admits
    · rfl
  | persist schedule state k => exact Or.inl (persistStep_admits platform limits schedule state k input)
  | reread scheduleId k => exact Or.inl (persistReturned_admits platform _ input k)
  | resolve d =>
    rcases resolveStep_admits (s := s) platform d input with hsame | hadmit
    · exact Or.inl hsame
    · exact Or.inr ⟨d, rfl, hadmit⟩
  | admission =>
    left
    simp only [SchedulerRuntime.advance]
    split
    · exact (decisionReturned_onlyOp platform s _ _).admits
    · rfl

theorem settleStep_admits (m : Settlement) (input : SchedulerInput) :
    (s.settleStep limits platform m input).admits = s.admits := by
  rcases settleStep_cases platform limits s m input with hsame | ⟨_, _, -, hsame⟩ | hfinish
  · exact hsame.admits
  · exact hsame.admits
  · rw [hfinish]
    rcases finishSettlement_cases s m with hsame | ⟨_, -, -, -, -, -, -, hadmits⟩
    · exact hsame.admits
    · exact hadmits

/-- The gateway is handed an occurrence by the step after `resolveSession` only. -/
theorem schedulerStep_admits {event : SchedulerEvent}
    (hstep : schedulerStep limits platform s event = some t) :
    t.admits = s.admits ∨ ∃ d input, s.op = some (.resolve d) ∧ event = .advance input ∧
      t.admits = s.admits ++ [⟨d.schedule.scheduleId, d.scheduledFor⟩] := by
  cases event with
  | advance input =>
    obtain ⟨call, hop, rfl⟩ := Option.map_eq_some_iff.mp hstep
    rcases advance_admits (s := s) platform limits input call with
      hsame | ⟨d, rfl, hadmit⟩
    · exact Or.inl hsame
    · exact Or.inr ⟨d, input, hop, rfl, hadmit⟩
  | settle id input =>
    obtain ⟨m, -, rfl⟩ := Option.map_eq_some_iff.mp hstep
    exact Or.inl (settleStep_admits platform limits m input)
  | create | update | delete | stop | recompute | beginDrain =>
    cases hstep
    exact Or.inl rfl
  | start =>
    cases hstep
    left
    split <;> rfl
  | beginJob =>
    left
    simp only [schedulerStep, SchedulerRuntime.beginJob] at hstep
    split at hstep
    · cases hstep
      split <;> rfl
    · cases hstep
      rfl
    · cases hstep
    · cases hstep
  | restart =>
    left
    simp only [schedulerStep] at hstep
    split at hstep
    · cases hstep
    · cases hstep
      rfl

end

end SchedulerRuntime

end PiDaemon.Scheduler
