import PiDaemon.Authorization.Restart
import PiDaemon.Lib.Reactions

/-!
# Authority

The authorization service with its promise chain: mutations run one after the other, and a query
waits for the mutations that were called before it entered the chain.  What a mutation does between
two of its awaits is one event; jobs are taken from the queue in their order, and everything else
may happen in any order.

A world also remembers the states that were committed, what every query answered, and the ledgers
around every mutation that threw.

* `Governed`: what holds in every reachable state;
* `authority`: it does, as long as no write ends in the terminal failure.
-/

namespace PiDaemon.Authorization

open Lib ReactionChain List Option

/-! ## The service -/

inductive Initialization where
  | idle
  | running
  | ready
  | failed (failure : Failure)
  deriving DecidableEq

/-- `this.#initialization ??= this.#runInitialize()` -/
def Initialization.start : Initialization → Initialization
  | .idle => .running
  | initialization => initialization

inductive MutationStage where
  | queued
  | initializing
  /-- `previous` is cloned, and the operation waits inside. -/
  | running (previous : Ledger)
  | performed (previous : Ledger) (attempt : Attempt)
  | settled

structure MutationTask where
  mutation : Mutation
  operation : Operation
  stage : MutationStage
  /-- The ledger when the mutation began. -/
  before : Option Ledger

inductive QueryStage where
  | initializing
  | waiting
  | settled
  deriving DecidableEq

structure QueryTask where
  query : Query
  stage : QueryStage
  /-- The last commit when the query was called. -/
  since : Nat

/-- How `atomicWritePrivateJson` ends. -/
inductive WriteOutcome where
  | written
  | failed
  | indeterminate
  deriving DecidableEq

structure Commit where
  author : Option Mutation
  state : DashboardAuthorizationState

structure Reading where
  query : Query
  since : Nat
  answer : Except Failure Answer

structure Failed where
  mutation : Mutation
  before : Option Ledger
  after : Option Ledger

structure World where
  file : Option AuthorizationFile
  initialization : Initialization
  ledger : Option Ledger
  terminalFailure : Option Failure
  chain : ReactionChain
  tasks : List MutationTask
  queries : List QueryTask
  commits : List Commit
  readings : List Reading
  failures : List Failed

inductive ServiceEvent where
  | mutate (mutation : Mutation)
  | ask (query : Query)
  | initialized
  | enter (query : Nat)
  | next
  | begins (task : Nat)
  | perform (task : Nat) (now : Option Timestamp) (eventId : EventId)
  | finish (task : Nat) (outcome : WriteOutcome)
  | release (task : Nat)
  deriving DecidableEq

namespace World

def initial (file : Option AuthorizationFile) : World where
  file := file
  initialization := .idle
  ledger := none
  terminalFailure := none
  chain := .empty
  tasks := []
  queries := []
  commits := []
  readings := []
  failures := []

variable (service : DashboardAuthorizationService) (w : World)

def setTask (k : Nat) (task : MutationTask) : World := { w with tasks := w.tasks.set k task }

/-- The call of a mutation: `#serialize` links its operation. -/
def mutate (mutation : Mutation) : World :=
  match mutation.call service with
  | .error _ => w
  | .ok operation =>
    { w with
      chain := w.chain.link
      tasks := w.tasks ++ [⟨mutation, operation, .queued, none⟩] }

/-- The call of a query, up to `await this.initialize()`. -/
def ask (query : Query) : World :=
  match query.validate with
  | .error _ => w
  | .ok () =>
    { w with
      initialization := w.initialization.start
      queries := w.queries ++ [⟨query, .initializing, w.commits.length - 1⟩] }

/-- The end of `#runInitialize`. -/
def initialized : Option World :=
  if w.initialization ≠ .running then none
  else
    match runInitialize service.limits w.file with
    | .error failure => some { w with initialization := .failed failure }
    | .ok ledger =>
      some
        { w with
          initialization := .ready
          ledger := some ledger
          commits := [⟨none, ledger.state⟩] }

def read (r : Nat) (task : QueryTask) (answer : Except Failure Answer) : World :=
  { w with
    queries := w.queries.set r { task with stage := .settled }
    readings := w.readings ++ [⟨task.query, task.since, answer⟩] }

/-- After the initialization a query awaits the tail. -/
def enter (r : Nat) : Option World := do
  let task ← w.queries[r]?
  if task.stage ≠ .initializing then none
  else
    match w.initialization with
    | .ready =>
      some
        { w with
          chain := w.chain.wait r
          queries := w.queries.set r { task with stage := .waiting } }
    | .failed failure => some (w.read r task (.error failure))
    | _ => none

/-- A query answers when the tail that it awaited has settled. -/
def resume (r : Nat) : Option World := do
  let task ← w.queries[r]?
  if task.stage ≠ .waiting then none
  else
    match w.terminalFailure with
    | some failure => some (w.read r task (.error failure))
    | none => do
      let ledger ← w.ledger
      some (w.read r task (ledger.answer service task.query))

/-- A linked operation starts, up to `await this.initialize()`. -/
def start (k : Nat) : Option World := do
  let task ← w.tasks[k]?
  some
    { w.setTask k { task with stage := .initializing } with
      initialization := w.initialization.start }

def next : Option World :=
  match w.chain.next with
  | none => none
  | some (.start k, chain) => { w with chain }.start k
  | some (.resume r, chain) => { w with chain }.resume service r

/-- A mutation throws, with this ledger in memory. -/
def fail (k : Nat) (task : MutationTask) (ledger : Option Ledger) : World :=
  { w.setTask k { task with stage := .settled } with
    ledger
    failures := w.failures ++ [⟨task.mutation, task.before, ledger⟩] }

/-- `#mutate` after the initialization, up to the operation. -/
def begins (k : Nat) : Option World := do
  let found ← w.tasks[k]?
  let task := { found with before := w.ledger }
  match found.stage with
  | .initializing =>
    match w.initialization with
    | .ready => do
      let ledger ← w.ledger
      match w.terminalFailure with
      | some _ => some (w.fail k task w.ledger)
      | none => some (w.setTask k { task with stage := .running ledger })
    | .failed _ => some (w.fail k task w.ledger)
    | _ => none
  | _ => none

/-- The operation, up to the writing of the file. -/
def perform (k : Nat) (now : Option Timestamp) (eventId : EventId) : Option World := do
  let task ← w.tasks[k]?
  match task.stage with
  | .running previous => do
    let ledger ← w.ledger
    let ended := task.operation ledger now eventId
    some
      { w.setTask k { task with stage := .performed previous ended.2 } with ledger := some ended.1 }
  | _ => none

/-- The end of `#mutate`: a throw takes the ledger back. -/
def finish (k : Nat) (outcome : WriteOutcome) : Option World := do
  let task ← w.tasks[k]?
  match task.stage with
  | .performed previous attempt =>
    let settled := w.setTask k { task with stage := .settled }
    let rolledBack := w.fail k task (some (reindexPolicies previous.state))
    match attempt with
    | .returns _ => some settled
    | .throws _ => some rolledBack
    | .writes _ => do
      let ledger ← w.ledger
      match outcome with
      | .written =>
        some
          { settled with
            file := some ledger.state.toFile
            commits := w.commits ++ [⟨some task.mutation, ledger.state⟩] }
      | .failed => some rolledBack
      | .indeterminate =>
        some
          { settled with
            file := some ledger.state.toFile
            terminalFailure := some (.authorization
              { code := "authorization_state_indeterminate"
                message := "dashboard authorization publication became indeterminate"
                status := 500 }) }
  | _ => none

/-- The tail promise of a mutation settles. -/
def release (k : Nat) : Option World := do
  let task ← w.tasks[k]?
  match task.stage with
  | .settled => (w.chain.finish k).map fun chain => { w with chain }
  | _ => none

def step : ServiceEvent → Option World
  | .mutate mutation => some (w.mutate service mutation)
  | .ask query => some (w.ask query)
  | .initialized => w.initialized service
  | .enter r => w.enter r
  | .next => w.next service
  | .begins k => w.begins k
  | .perform k now eventId => w.perform k now eventId
  | .finish k outcome => w.finish k outcome
  | .release k => w.release k

end World

/-! ## What is kept -/

/-- The role that a member of the dashboard has in a committed state. -/
def memberRole (service : DashboardAuthorizationService) (commit : Commit)
    (identityId : JsString) (resource : DashboardResourceRef) : Option DashboardResourceRole :=
  (reindexPolicies commit.state).effectiveRole service ⟨identityId, .member⟩ resource

/-- A role on an existing policy changes only by a mutation of that resource whose principal is an
administrator of it. -/
def Authorized (service : DashboardAuthorizationService) (before after : Commit) : Prop :=
  ∀ resource identityId, ((reindexPolicies before.state).policy resource).isSome →
    memberRole service after identityId resource ≠ memberRole service before identityId resource →
    ∃ m, after.author = some m ∧ m.resource = resource ∧
      (reindexPolicies before.state).effectiveRole service m.principal resource = some .admin

/-- The ledgers before and after a mutation that threw. -/
def Unchanged (service : DashboardAuthorizationService) (failed : Failed) : Prop :=
  failed.after = failed.before ∨
    ∃ before after, failed.before = some before ∧ failed.after = some after ∧
      after.state = before.state ∧ SameAnswers service after before

structure Governed (service : DashboardAuthorizationService) (w : World) : Prop where
  /-- A policy has one owner, who has no grant, and nobody has two. -/
  owned : ∀ ledger, w.ledger = some ledger →
    (ledger.state.policies.map fun policy => resourceKey policy.resource).Nodup ∧
      ∀ policy ∈ ledger.state.policies, WellOwned policy
  authorized : w.commits.IsChain (Authorized service)
  /-- While no mutation runs, the ledger is the last committed one. -/
  current : w.chain.running = [] → ∀ ledger, w.ledger = some ledger →
    w.commits.getLast?.map (·.state) = some ledger.state
  unchanged : ∀ failed ∈ w.failures, Unchanged service failed
  readings : ∀ reading ∈ w.readings, ∀ answer, reading.answer = .ok answer →
    ∃ i commit, reading.since ≤ i ∧ w.commits[i]? = some commit ∧
      (reindexPolicies commit.state).answer service reading.query = .ok answer

/-! ## The invariant -/

variable {service : DashboardAuthorizationService} {w w' : World} {k : Nat} {task : MutationTask}

structure LastCommitted (w : World) (ledger : Ledger) : Prop where
  indexed : Indexed ledger
  state : w.commits.getLast?.map (·.state) = some ledger.state

inductive StageOk (service : DashboardAuthorizationService) (w : World) (k : Nat)
    (task : MutationTask) : MutationStage → Prop
  | queued : StageOk service w k task .queued
  | settled : StageOk service w k task .settled
  | initializing (hrunning : k ∈ w.chain.running) : StageOk service w k task .initializing
  | running (previous : Ledger) (hrunning : k ∈ w.chain.running)
      (hledger : w.ledger = some previous) (hbefore : task.before = some previous)
      (hlast : LastCommitted w previous) : StageOk service w k task (.running previous)
  | performed (previous ledger : Ledger) (attempt : Attempt) (hrunning : k ∈ w.chain.running)
      (hledger : w.ledger = some ledger) (hbefore : task.before = some previous)
      (hlast : LastCommitted w previous)
      (hperforms : Performs service task.mutation previous (ledger, attempt)) :
      StageOk service w k task (.performed previous attempt)

structure TaskOk (service : DashboardAuthorizationService) (w : World) (k : Nat)
    (task : MutationTask) : Prop where
  called : task.mutation.call service = .ok task.operation
  stage : StageOk service w k task task.stage

/-- The stages in which a mutation does not run. -/
def MutationStage.isQuiet : MutationStage → Bool
  | .queued => true
  | .settled => true
  | _ => false

def MutationStage.isPerformed : MutationStage → Bool
  | .performed _ _ => true
  | _ => false

structure Disciplined (service : DashboardAuthorizationService) (w : World) : Prop where
  ordered : w.chain.Ordered
  tasks : ∀ (k : Nat) (task : MutationTask), w.tasks[k]? = some task → TaskOk service w k task
  calm : (∀ (k : Nat) (task : MutationTask), w.tasks[k]? = some task → task.stage.isPerformed = false) →
    ∀ ledger, w.ledger = some ledger → LastCommitted w ledger
  available : w.terminalFailure = none
  uncommitted : w.initialization ≠ .ready → w.ledger = none ∧ w.commits = []
  owned : ∀ commit ∈ w.commits, ∀ policy ∈ commit.state.policies, WellOwned policy
  authorized : w.commits.IsChain (Authorized service)
  unchanged : ∀ failed ∈ w.failures, Unchanged service failed
  since : ∀ task ∈ w.queries, task.since ≤ w.commits.length - 1
  readings : ∀ reading ∈ w.readings, ∀ answer, reading.answer = .ok answer →
    ∃ i commit, reading.since ≤ i ∧ w.commits[i]? = some commit ∧
      (reindexPolicies commit.state).answer service reading.query = .ok answer

theorem StageOk.quiet {stage : MutationStage} (h : StageOk service w k task stage)
    (hk : k ∉ w.chain.running) : stage.isQuiet = true := by
  cases h with
  | queued | settled => rfl
  | initializing hrunning | running previous hrunning
  | performed previous ledger attempt hrunning => exact absurd hrunning hk

theorem not_performed_of_quiet {stage : MutationStage} (h : stage.isQuiet = true) :
    stage.isPerformed = false := by
  cases stage <;> first | rfl | cases h

/-- A quiet task does not depend on the world. -/
theorem TaskOk.of_quiet (h : TaskOk service w k task) (hquiet : task.stage.isQuiet = true)
    (w' : World) : TaskOk service w' k task := by
  refine ⟨h.called, ?_⟩
  cases hstage : task.stage with
  | queued => exact .queued
  | settled => exact .settled
  | initializing | running | performed => rw [hstage] at hquiet; cases hquiet

variable {m : Mutation} {ledger : Ledger} {attempt : Attempt}

theorem LastCommitted.frame (h : LastCommitted w ledger) (hcommits : w'.commits = w.commits) :
    LastCommitted w' ledger :=
  ⟨h.indexed, by rw [hcommits]; exact h.state⟩

theorem TaskOk.frame (h : TaskOk service w k task)
    (hrunning : w'.chain.running = w.chain.running) (hledger : w'.ledger = w.ledger)
    (hcommits : w'.commits = w.commits) : TaskOk service w' k task := by
  refine ⟨h.called, ?_⟩
  have hstage := h.stage
  generalize task.stage = stage at hstage ⊢
  cases hstage with
  | queued => exact .queued
  | settled => exact .settled
  | initializing hk => exact .initializing (hrunning ▸ hk)
  | running previous hk hget hbefore hlast =>
    exact .running previous (hrunning ▸ hk) (hledger.trans hget) hbefore (hlast.frame hcommits)
  | performed previous ledger attempt hk hget hbefore hlast hperforms =>
    exact .performed previous ledger attempt (hrunning ▸ hk) (hledger.trans hget) hbefore
      (hlast.frame hcommits) hperforms

/-- While one task runs, the others are quiet. -/
theorem Disciplined.others (h : Disciplined service w) (hk : k ∈ w.chain.running) {j : Nat}
    {other : MutationTask} (hother : w.tasks[j]? = some other) (hne : j ≠ k) :
    other.stage.isQuiet = true := by
  refine (h.tasks j other hother).stage.quiet fun hj => hne ?_
  rw [h.ordered.running_eq hk, mem_singleton] at hj
  exact hj

theorem Disciplined.all_quiet (h : Disciplined service w) (hidle : w.chain.running = []) {j : Nat}
    {other : MutationTask} (hother : w.tasks[j]? = some other) : other.stage.isQuiet = true := by
  refine (h.tasks j other hother).stage.quiet fun hj => ?_
  rw [hidle] at hj
  cases hj

theorem Disciplined.idle_last (h : Disciplined service w) (hidle : w.chain.running = [])
    (hledger : w.ledger = some ledger) : LastCommitted w ledger :=
  h.calm (fun _ _ hother => not_performed_of_quiet (h.all_quiet hidle hother)) ledger hledger

theorem disciplined_initial (file : Option AuthorizationFile) :
    Disciplined service (World.initial file) where
  ordered := ordered_empty
  tasks k task h := by simp [World.initial] at h
  calm _ ledger h := by cases h
  available := rfl
  uncommitted _ := ⟨rfl, rfl⟩
  owned commit h := by cases h
  authorized := .nil
  unchanged failed h := by cases h
  since task h := by cases h
  readings reading h := by cases h

/-! ### Queries -/

theorem Disciplined.queries (h : Disciplined service w) {chain : ReactionChain}
    {queries : List QueryTask} {readings : List Reading} {initialization : Initialization}
    (hordered : chain.Ordered) (hrunning : chain.running = w.chain.running)
    (hinitialization : initialization ≠ .ready → w.initialization ≠ .ready)
    (hsince : ∀ task ∈ queries, task.since ≤ w.commits.length - 1)
    (hreadings : ∀ reading ∈ readings, ∀ answer, reading.answer = .ok answer →
      ∃ i commit, reading.since ≤ i ∧ w.commits[i]? = some commit ∧
        (reindexPolicies commit.state).answer service reading.query = .ok answer) :
    Disciplined service { w with chain, queries, readings, initialization } where
  ordered := hordered
  tasks k task hget := (h.tasks k task hget).frame hrunning rfl rfl
  calm hcalm ledger hledger := (h.calm hcalm ledger hledger).frame rfl
  available := h.available
  uncommitted hready := h.uncommitted (hinitialization hready)
  owned := h.owned
  authorized := h.authorized
  unchanged := h.unchanged
  since := hsince
  readings := hreadings

theorem since_set {queries : List QueryTask} {bound r : Nat} {found task : QueryTask}
    (h : ∀ task ∈ queries, task.since ≤ bound) (hfound : queries[r]? = some found)
    (hsince : task.since = found.since) :
    ∀ task' ∈ queries.set r task, task'.since ≤ bound := by
  intro task' hmem
  rcases mem_or_eq_of_mem_set hmem with hmem | rfl
  · exact h task' hmem
  · rw [hsince]
    exact h found (mem_of_getElem? hfound)

theorem Initialization.start_ready {initialization : Initialization}
    (h : initialization.start ≠ .ready) : initialization ≠ .ready := by
  rintro rfl
  exact h rfl

theorem Disciplined.ask (h : Disciplined service w) (query : Query) :
    Disciplined service (w.ask query) := by
  rw [World.ask]
  split
  · exact h
  refine h.queries h.ordered rfl Initialization.start_ready ?_ h.readings
  intro task hmem
  rcases mem_append.mp hmem with hmem | hmem
  · exact h.since task hmem
  · obtain rfl := mem_singleton.mp hmem
    exact Nat.le_refl _

theorem Disciplined.enter (h : Disciplined service w) {r : Nat} (hstep : w.enter r = some w') :
    Disciplined service w' := by
  obtain ⟨_, hget, hstep⟩ := bind_eq_some_iff.mp hstep
  obtain ⟨_, hstep⟩ := ite_none_left_eq_some.mp hstep
  split at hstep
  · cases hstep
    exact h.queries (h.ordered.wait r) (running_wait r) id
      (since_set h.since hget rfl) h.readings
  · cases hstep
    refine h.queries h.ordered rfl id (since_set h.since hget rfl) ?_
    intro reading hmem answer hanswer
    rcases mem_append.mp hmem with hmem | hmem
    · exact h.readings reading hmem answer hanswer
    · obtain rfl := mem_singleton.mp hmem
      cases hanswer
  · cases hstep

theorem LastCommitted.answer (h : LastCommitted w ledger) :
    ∃ commit, w.commits[w.commits.length - 1]? = some commit ∧ commit.state = ledger.state ∧
      SameAnswers service (reindexPolicies commit.state) ledger := by
  obtain ⟨commit, hlast, hstate⟩ := map_eq_some_iff.mp h.state
  rw [List.getLast?_eq_getElem?] at hlast
  refine ⟨commit, hlast, hstate, ?_⟩
  rw [hstate]
  exact (reindexPolicies_indexed h.indexed.keys).sameAnswers h.indexed rfl

/-- **A query answers from a committed state.** -/
theorem Disciplined.resume (h : Disciplined service w) {chain : ReactionChain} {r : Nat}
    (hnext : w.chain.next = some (.resume r, chain))
    (hstep : World.resume service { w with chain } r = some w') : Disciplined service w' := by
  obtain ⟨task, hget, hstep⟩ := bind_eq_some_iff.mp hstep
  obtain ⟨_, hstep⟩ := ite_none_left_eq_some.mp hstep
  split at hstep
  · rename_i failure hfailure
    exact absurd (h.available.symm.trans hfailure) (by simp)
  obtain ⟨_, hledger, hstep⟩ := bind_eq_some_iff.mp hstep
  cases hstep
  refine h.queries (h.ordered.next hnext) (next_resume hnext) id
    (since_set h.since hget rfl) ?_
  intro reading hmem answer hanswer
  rcases mem_append.mp hmem with hmem | hmem
  · exact h.readings reading hmem answer hanswer
  obtain rfl := mem_singleton.mp hmem
  have hlast := h.idle_last (h.ordered.next_idle hnext) hledger
  obtain ⟨commit, hcommit, -, hsame⟩ := hlast.answer
  exact ⟨_, commit, h.since task (mem_of_getElem? hget), hcommit,
    (hsame.queries _).trans hanswer⟩

/-! ### Mutations -/

section
variable (h : Disciplined service w)
include h

theorem Disciplined.mutate (m : Mutation) :
    Disciplined service (w.mutate service m) := by
  rw [World.mutate]
  split
  · exact h
  rename_i operation hcall
  refine ⟨h.ordered.link, fun k task hget => ?_, fun hcalm ledger hledger => ?_, h.available,
    h.uncommitted, h.owned, h.authorized, h.unchanged, h.since, h.readings⟩
  · rcases mem_append.mp (mem_of_getElem? hget) with hmem | hmem
    · rw [List.getElem?_append] at hget
      split at hget
      · exact (h.tasks k task hget).frame running_link rfl rfl
      · obtain rfl := mem_singleton.mp (mem_of_getElem? hget)
        exact ⟨hcall, .queued⟩
    · obtain rfl := mem_singleton.mp hmem
      exact ⟨hcall, .queued⟩
  · refine (h.calm (fun k task hget => hcalm k task ?_) ledger hledger).frame rfl
    rw [List.getElem?_append_left (List.getElem?_eq_some_iff.mp hget).1]
    exact hget

theorem Disciplined.initialized
    (hstep : w.initialized service = some w') : Disciplined service w' := by
  obtain ⟨hinitialization, hstep⟩ := ite_none_left_eq_some.mp hstep
  have hready : w.initialization ≠ .ready := by
    rw [Decidable.not_not.mp hinitialization]
    simp
  obtain ⟨hnone, hcommits⟩ := h.uncommitted hready
  split at hstep
  · cases hstep
    exact h.queries h.ordered rfl (fun _ => hready) h.since h.readings
  rename_i ledger hrun
  cases hstep
  have hpersisted := Persisted.initial hrun
  have hlast : LastCommitted { w with commits := [⟨none, ledger.state⟩] } ledger :=
    ⟨hpersisted.indexed, rfl⟩
  refine ⟨h.ordered, fun k task hget => ?_, fun _ other hother => ?_, h.available,
    fun hnot => absurd rfl hnot, ?_, .singleton _, h.unchanged, ?_, ?_⟩
  · have hok := h.tasks k task hget
    refine ⟨hok.called, ?_⟩
    have hstage := hok.stage
    generalize task.stage = stage at hstage ⊢
    cases hstage with
    | queued => exact .queued
    | settled => exact .settled
    | initializing hk => exact .initializing hk
    | running previous hk hledger | performed previous other attempt hk hledger =>
      rw [hnone] at hledger; cases hledger
  · cases hother
    exact hlast.frame rfl
  · intro commit hmem policy hpolicy
    obtain rfl := mem_singleton.mp hmem
    have hstored := hpersisted.stored.policies policy hpolicy
    exact ⟨hstored.ownerless, hstored.distinct⟩
  · intro task hmem
    have hsince := h.since task hmem
    rw [hcommits] at hsince
    exact hsince
  · intro reading hmem answer hanswer
    obtain ⟨_, commit, -, hget, -⟩ := h.readings reading hmem answer hanswer
    rw [hcommits] at hget
    cases hget

theorem tasks_set
    (hothers : ∀ (j : Nat) (other : MutationTask), w.tasks[j]? = some other → j ≠ k →
      other.stage.isQuiet = true)
    (htasks : w'.tasks = w.tasks.set k task) (htask : TaskOk service w' k task) :
    ∀ (j : Nat) (other : MutationTask), w'.tasks[j]? = some other →
      TaskOk service w' j other := by
  intro j other hget
  rw [htasks, List.getElem?_set] at hget
  split at hget
  · rename_i hjk
    subst hjk
    obtain ⟨_, rfl⟩ := ite_some_none_eq_some.mp hget
    exact htask
  · rename_i hne
    exact (h.tasks j other hget).of_quiet (hothers j other hget (Ne.symm hne)) w'

theorem Disciplined.start {chain : ReactionChain}
    (hnext : w.chain.next = some (.start k, chain))
    (hstep : World.start { w with chain } k = some w') : Disciplined service w' := by
  obtain ⟨task, hget, hstep⟩ := bind_eq_some_iff.mp hstep
  cases hstep
  have hidle := h.ordered.next_idle hnext
  have hquiet : ∀ (j : Nat) (other : MutationTask), w.tasks[j]? = some other →
      other.stage.isQuiet = true := fun j other hother => h.all_quiet hidle hother
  have hrunning : k ∈ chain.running := by
    rw [next_start hnext]
    exact mem_cons_self
  exact ⟨h.ordered.next hnext,
    tasks_set h (fun j other hother _ => hquiet j other hother) rfl
      ⟨(h.tasks k task hget).called, .initializing hrunning⟩,
    fun _ ledger hledger => (h.idle_last hidle hledger).frame rfl, h.available,
    fun hready => h.uncommitted (Initialization.start_ready hready), h.owned, h.authorized,
    h.unchanged, h.since, h.readings⟩

theorem Disciplined.next (hstep : w.next service = some w') :
    Disciplined service w' := by
  rw [World.next] at hstep
  split at hstep
  · cases hstep
  · rename_i j chain hnext
    exact h.start hnext hstep
  · rename_i r chain hnext
    exact h.resume hnext hstep

theorem Disciplined.ends (hk : k ∈ w.chain.running)
    (hcalled : task.mutation.call service = .ok task.operation) {ledger : Option Ledger}
    {failures : List Failed}
    (hlast : ∀ found, ledger = some found → LastCommitted w found)
    (hledger : w.initialization ≠ .ready → ledger = none)
    (hfailures : ∀ failed ∈ failures, Unchanged service failed) :
    Disciplined service { w.setTask k { task with stage := .settled } with ledger, failures } where
  ordered := h.ordered
  tasks := tasks_set h (fun _ _ hother hne => h.others hk hother hne) rfl ⟨hcalled, .settled⟩
  calm _ found hfound := (hlast found hfound).frame rfl
  available := h.available
  uncommitted hready := ⟨hledger hready, (h.uncommitted hready).2⟩
  owned := h.owned
  authorized := h.authorized
  unchanged := hfailures
  since := h.since
  readings := h.readings

end

theorem unchanged_append {failures : List Failed} {failed : Failed}
    (h : ∀ failed ∈ failures, Unchanged service failed) (hnew : Unchanged service failed) :
    ∀ other ∈ failures ++ [failed], Unchanged service other := by
  intro other hmem
  rcases mem_append.mp hmem with hmem | hmem
  · exact h other hmem
  · obtain rfl := mem_singleton.mp hmem
    exact hnew

theorem Disciplined.begins (h : Disciplined service w) (hstep : w.begins k = some w') :
    Disciplined service w' := by
  obtain ⟨found, hget, hstep⟩ := bind_eq_some_iff.mp hstep
  have hok := h.tasks k found hget
  have hstage := hok.stage
  split at hstep
  · rename_i hinitializing
    rw [hinitializing] at hstage
    cases hstage with
    | initializing hk =>
      have hcalm : ∀ ledger, w.ledger = some ledger → LastCommitted w ledger := by
        refine h.calm fun j other hother => ?_
        by_cases hjk : j = k
        · subst hjk
          rw [hget] at hother
          cases hother
          rw [hinitializing]
          rfl
        · exact not_performed_of_quiet (h.others hk hother hjk)
      let begun := MutationTask.mk found.mutation found.operation found.stage w.ledger
      have hcalled : begun.mutation.call service = .ok begun.operation := hok.called
      have hsame : Unchanged service ⟨found.mutation, w.ledger, w.ledger⟩ := .inl rfl
      have hfail : Disciplined service (w.fail k { found with before := w.ledger } w.ledger) :=
        h.ends hk hcalled hcalm (fun hready => (h.uncommitted hready).1)
          (unchanged_append h.unchanged hsame)
      split at hstep
      · obtain ⟨ledger, hledger, hstep⟩ := bind_eq_some_iff.mp hstep
        split at hstep
        · cases hstep
          exact hfail
        cases hstep
        refine ⟨h.ordered, tasks_set h (fun _ _ hother hne => h.others hk hother hne) rfl
          ⟨hok.called, .running ledger hk hledger hledger ((hcalm ledger hledger).frame rfl)⟩,
          fun _ other hother => (hcalm other hother).frame rfl, h.available, h.uncommitted, h.owned,
          h.authorized, h.unchanged, h.since, h.readings⟩
      · cases hstep
        exact hfail
      · cases hstep
  · simp at hstep

theorem Disciplined.perform (h : Disciplined service w) {now : Option Timestamp}
    {eventId : EventId} (hstep : w.perform k now eventId = some w') :
    Disciplined service w' := by
  obtain ⟨task, hget, hstep⟩ := bind_eq_some_iff.mp hstep
  have hok := h.tasks k task hget
  have hstage := hok.stage
  split at hstep
  · rename_i previous hrunning
    rw [hrunning] at hstage
    cases hstage with
    | running _ hk hledger hbefore hlast =>
      obtain ⟨_, hfound, hstep⟩ := bind_eq_some_iff.mp hstep
      rw [hledger] at hfound
      cases hfound
      cases hstep
      have hperforms := call_performs hok.called previous now eventId
      have hready : w.initialization = .ready := by
        apply Decidable.byContradiction
        intro hnot
        rw [(h.uncommitted hnot).1] at hledger
        cases hledger
      refine ⟨h.ordered, tasks_set h (fun _ _ hother hne => h.others hk hother hne) rfl
        ⟨hok.called, .performed previous _ _ hk rfl hbefore (hlast.frame rfl) hperforms⟩,
        fun hcalm => ?_, h.available, fun hnot => absurd hready hnot, h.owned, h.authorized,
        h.unchanged, h.since, h.readings⟩
      have hself := hcalm k _ (List.getElem?_set_self (List.getElem?_eq_some_iff.mp hget).1)
      cases hself
  · cases hstep

theorem Performs.returned {ledger ledger' : Ledger} {policy : DashboardResourcePolicy}
    (h : Performs service m ledger (ledger', .returns policy)) : ledger' = ledger := by
  cases h with
  | kept => rfl
  | edits edited result _ hedited hattempt =>
    rcases hattempt with ⟨hwrites, -⟩ | ⟨_, hthrows⟩
    · cases hwrites
    · cases hthrows

/-- A performed operation has left the ledger, or has edited and trimmed it. -/
theorem Performs.cases {ledger ledger' : Ledger} (h : Performs service m ledger (ledger', attempt)) :
    ledger' = ledger ∨
      ∃ edited result, Edited service m ledger edited result ∧
        ledger' = { edited with state := trim service.limits edited.state } := by
  cases h with
  | kept => exact .inl rfl
  | edits edited result _ hedited => exact .inr ⟨edited, result, hedited, rfl⟩

theorem Indexed.trim (h : Indexed ledger) (limits : DashboardAuthorizationLimits) :
    Indexed { ledger with state := Authorization.trim limits ledger.state } := by
  refine ⟨?_, fun key policy => ?_⟩
  · rw [trim_policies]
    exact h.keys
  · rw [trim_policies]
    exact h.finds key policy

theorem Performs.indexed {ledger ledger' : Ledger}
    (h : Performs service m ledger (ledger', attempt)) (hi : Indexed ledger) : Indexed ledger' := by
  rcases h.cases with rfl | ⟨_, _, hedited, rfl⟩
  · exact hi
  · exact (hedited.indexed hi).trim _

theorem Performs.wellOwned {ledger ledger' : Ledger}
    (h : Performs service m ledger (ledger', attempt)) (hi : Indexed ledger)
    (hw : ∀ policy ∈ ledger.state.policies, WellOwned policy) :
    ∀ policy ∈ ledger'.state.policies, WellOwned policy := by
  rcases h.cases with rfl | ⟨_, _, hedited, rfl⟩
  · exact hw
  · rw [trim_policies]
    exact hedited.wellOwned hi hw

/-- A performed mutation changes a role only where its principal is an administrator. -/
theorem Performs.authorized {ledger ledger' : Ledger}
    (h : Performs service m ledger (ledger', attempt)) (hi : Indexed ledger)
    (author : Option Mutation) :
    Authorized service ⟨author, ledger.state⟩ ⟨some m, ledger'.state⟩ := by
  have hbefore := (reindexPolicies_indexed hi.keys).same_policy hi rfl
  have hafter := (reindexPolicies_indexed (h.indexed hi).keys).same_policy (h.indexed hi) rfl
  intro resource identityId hsome hchanged
  obtain ⟨policy, hpolicy⟩ := isSome_iff_exists.mp hsome
  rw [hbefore] at hpolicy
  have hcases : ledger'.policy resource = some policy ∨ (m.resource = resource ∧
      ledger.effectiveRole service m.principal resource = some .admin) := by
    rcases h.cases with rfl | ⟨_, _, hedited, rfl⟩
    · exact .inl hpolicy
    · exact hedited.policy_cases hi hpolicy
  rcases hcases with hsame | ⟨hresource, hadmin⟩
  · refine absurd ?_ hchanged
    rw [memberRole, memberRole, Ledger.effectiveRole, Ledger.effectiveRole, hafter, hbefore, hsame,
      hpolicy]
  · refine ⟨m, rfl, hresource, ?_⟩
    rw [Ledger.effectiveRole, hbefore]
    exact hadmin

theorem LastCommitted.owned (h : LastCommitted w ledger)
    (howned : ∀ commit ∈ w.commits, ∀ policy ∈ commit.state.policies, WellOwned policy) :
    ∀ policy ∈ ledger.state.policies, WellOwned policy := by
  obtain ⟨commit, hlast, hstate⟩ := map_eq_some_iff.mp h.state
  rw [← hstate]
  exact howned commit (List.mem_of_getLast? hlast)

/-- **A commit.** -/
theorem Disciplined.commit (h : Disciplined service w) (hk : k ∈ w.chain.running)
    (hcalled : task.mutation.call service = .ok task.operation) {previous ledger : Ledger}
    {file : Option AuthorizationFile} (hledger : w.ledger = some ledger)
    (hlast : LastCommitted w previous)
    (hperforms : Performs service task.mutation previous (ledger, attempt)) :
    Disciplined service
      { w.setTask k { task with stage := .settled } with
        file, commits := w.commits ++ [⟨some task.mutation, ledger.state⟩] } where
  ordered := h.ordered
  tasks := tasks_set h (fun _ _ hother hne => h.others hk hother hne) rfl ⟨hcalled, .settled⟩
  calm _ found hfound := by
    have heq : ledger = found := Option.some.inj (hledger.symm.trans hfound)
    subst heq
    exact ⟨hperforms.indexed hlast.indexed, by rw [List.getLast?_concat]; rfl⟩
  available := h.available
  uncommitted hready := by
    rw [(h.uncommitted hready).1] at hledger
    cases hledger
  owned commit hmem := by
    rcases mem_append.mp hmem with hmem | hmem
    · exact h.owned commit hmem
    · obtain rfl := mem_singleton.mp hmem
      exact hperforms.wellOwned hlast.indexed (hlast.owned h.owned)
  authorized := by
    refine isChain_append.mpr ⟨h.authorized, .singleton _, fun before hbefore after hafter => ?_⟩
    cases hafter
    obtain ⟨commit, hcommit, hstate⟩ := map_eq_some_iff.mp hlast.state
    obtain rfl := Option.some.inj (hcommit.symm.trans hbefore)
    obtain ⟨author, _⟩ := commit
    subst hstate
    exact hperforms.authorized hlast.indexed author
  unchanged := h.unchanged
  since query hmem := by
    rw [length_append]
    exact Nat.le_trans (h.since query hmem) (Nat.sub_le_sub_right (Nat.le_add_right _ _) 1)
  readings reading hmem answer hanswer := by
    obtain ⟨i, commit, hi, hget, hsame⟩ := h.readings reading hmem answer hanswer
    refine ⟨i, commit, hi, ?_, hsame⟩
    rw [List.getElem?_append_left (List.getElem?_eq_some_iff.mp hget).1]
    exact hget

theorem Disciplined.finish (h : Disciplined service w) {outcome : WriteOutcome}
    (houtcome : outcome ≠ .indeterminate) (hstep : w.finish k outcome = some w') :
    Disciplined service w' := by
  obtain ⟨task, hget, hstep⟩ := bind_eq_some_iff.mp hstep
  have hok := h.tasks k task hget
  have hstage := hok.stage
  split at hstep
  · rename_i previous attempt hperformed
    rw [hperformed] at hstage
    cases hstage with
    | performed _ ledger _ hk hledger hbefore hlast hperforms =>
      have hready : w.initialization ≠ .ready → False := by
        intro hnot
        rw [(h.uncommitted hnot).1] at hledger
        cases hledger
      have hindexed := reindexPolicies_indexed hlast.indexed.keys
      have hrolledBack : Disciplined service
          (w.fail k task (some (reindexPolicies previous.state))) := by
        refine h.ends hk hok.called (fun found hfound => ?_) (fun hnot => (hready hnot).elim)
          (unchanged_append h.unchanged (.inr ⟨previous, _, hbefore, rfl, rfl, ?_⟩))
        · cases hfound
          exact ⟨hindexed, hlast.state⟩
        · exact hindexed.sameAnswers hlast.indexed rfl
      split at hstep
      · cases hstep
        obtain rfl := hperforms.returned
        refine h.ends hk hok.called (fun found hfound => ?_)
          (fun hnot => (hready hnot).elim) h.unchanged
        rw [hledger] at hfound
        cases hfound
        exact hlast
      · cases hstep
        exact hrolledBack
      · obtain ⟨found, hfound, hstep⟩ := bind_eq_some_iff.mp hstep
        rw [hledger] at hfound
        cases hfound
        split at hstep
        · cases hstep
          exact h.commit hk hok.called hledger hlast hperforms
        · cases hstep
          exact hrolledBack
        · exact absurd rfl houtcome
  · cases hstep

theorem Disciplined.release (h : Disciplined service w) (hstep : w.release k = some w') :
    Disciplined service w' := by
  obtain ⟨_, hget, hstep⟩ := bind_eq_some_iff.mp hstep
  split at hstep
  · rename_i hsettled
    obtain ⟨_, hfinish, rfl⟩ := map_eq_some_iff.mp hstep
    have hk := finish_mem hfinish
    have hquiet : ∀ (j : Nat) (other : MutationTask), w.tasks[j]? = some other →
        other.stage.isQuiet = true := by
      intro j other hother
      by_cases hjk : j = k
      · subst hjk
        rw [hget] at hother
        cases hother
        rw [hsettled]
        rfl
      · exact h.others hk hother hjk
    exact ⟨h.ordered.finish hfinish,
      fun j other hother => (h.tasks j other hother).of_quiet (hquiet j other hother) _,
      fun hcalm ledger hledger => (h.calm hcalm ledger hledger).frame rfl, h.available,
      h.uncommitted, h.owned, h.authorized, h.unchanged, h.since, h.readings⟩
  · cases hstep

/-! ## Authority -/

/-- The terminal failure is the outcome of this event. -/
def ServiceEvent.isTerminal : ServiceEvent → Bool
  | .finish _ .indeterminate => true
  | _ => false

theorem Disciplined.step (h : Disciplined service w) {event : ServiceEvent}
    (hevent : event.isTerminal = false) (hstep : w.step service event = some w') :
    Disciplined service w' := by
  cases event with
  | mutate m =>
    cases hstep
    exact h.mutate m
  | ask query =>
    cases hstep
    exact h.ask query
  | initialized => exact h.initialized hstep
  | enter => exact h.enter hstep
  | next => exact h.next hstep
  | begins => exact h.begins hstep
  | perform => exact h.perform hstep
  | finish =>
    refine h.finish ?_ hstep
    rintro rfl
    cases hevent
  | release => exact h.release hstep

theorem Disciplined.governed (h : Disciplined service w) : Governed service w where
  owned ledger hledger := by
    by_cases hcalm : ∀ (k : Nat) (task : MutationTask), w.tasks[k]? = some task →
        task.stage.isPerformed = false
    · have hlast := h.calm hcalm ledger hledger
      exact ⟨hlast.indexed.keys, hlast.owned h.owned⟩
    simp only [not_forall] at hcalm
    obtain ⟨k, task, hget, hperformed⟩ := hcalm
    have hstage := (h.tasks k task hget).stage
    generalize task.stage = stage at hstage hperformed
    cases hstage with
    | queued | settled | initializing | running => exact absurd rfl hperformed
    | performed previous found attempt hk hfound hbefore hlast hperforms =>
      rw [hledger] at hfound
      cases hfound
      exact ⟨(hperforms.indexed hlast.indexed).keys,
        hperforms.wellOwned hlast.indexed (hlast.owned h.owned)⟩
  authorized := h.authorized
  current hidle ledger hledger := (h.idle_last hidle hledger).state
  unchanged := h.unchanged
  readings := h.readings

/-- **Authority**, in every reachable state. -/
theorem authority (service : DashboardAuthorizationService) (file : Option AuthorizationFile)
    (events : List ServiceEvent) (w : World)
    (hterminal : ∀ event ∈ events, event.isTerminal = false)
    (hrun : run (fun w event => w.step service event) (World.initial file) events = some w) :
    Governed service w := by
  have hmeets : Meets (fun w event => World.step service w event)
      (fun _ event => event.isTerminal = false) (World.initial file) events :=
    meets_of_forall fun event hmem _ => hterminal event hmem
  exact (run_invariant_of_meets (fun _ _ _ hinv hevent hstep => hinv.step hevent hstep)
    (disciplined_initial file) hmeets hrun).governed

/-- Alice registers a session; Bob's role is asked for while the registration is being written. -/
def registerEvents : List ServiceEvent :=
  [.mutate (.registerCreatedResource alice plainResource), .next, .initialized, .begins 0,
    .perform 0 (some plainTimestamp) plainEventId,
    .ask (.effectiveRole ⟨text "bob", .member⟩ plainResource), .enter 0, .finish 0 .written,
    .release 0, .next]

theorem authority_registered : ∃ w,
    run (fun w event => w.step plainService event) (World.initial none) registerEvents = some w ∧
      Governed plainService w := by
  exact exists_some (by decide +kernel) fun w hrun =>
    authority plainService none registerEvents w (by decide) hrun

/-- **Mutations take turns.**  In every reachable state one mutation is at work at a time, and the
ledger that it has read is the one that was committed last. -/
theorem mutations_exclusive {file : Option AuthorizationFile} {events : List ServiceEvent}
    (hterminal : ∀ event ∈ events, event.isTerminal = false)
    (hrun : run (fun w event => w.step service event) (World.initial file) events = some w)
    (htask : w.tasks[k]? = some task) (hbusy : task.stage.isQuiet = false) :
    (∀ (j : Nat) other, w.tasks[j]? = some other → other.stage.isQuiet = false → j = k) ∧
      ∀ previous, task.stage = .running previous → w.ledger = some previous ∧
        w.commits.getLast?.map (·.state) = some previous.state := by
  have h : Disciplined service w :=
    run_invariant_of_meets (fun _ _ _ hinv hevent hstep => hinv.step hevent hstep) (disciplined_initial file)
      (meets_of_forall fun event hmem _ => hterminal event hmem) hrun
  have hstage := (h.tasks k task htask).stage
  have hrunning : k ∈ w.chain.running := by
    by_contra hidle
    rw [hstage.quiet hidle] at hbusy
    cases hbusy
  refine ⟨fun j other hother hworks => ?_, fun previous heq => ?_⟩
  · by_contra hne
    rw [h.others hrunning hother hne] at hworks
    cases hworks
  · rw [heq] at hstage
    cases hstage with
    | running _ _ hledger _ hlast => exact ⟨hledger, hlast.state⟩

theorem mutations_exclusive_registering : ∃ w,
    run (fun w event => w.step plainService event) (World.initial none) (registerEvents.take 4) = some w ∧
      (w.tasks[0]?.any fun task => !task.stage.isQuiet) = true ∧
        ∀ (j : Nat) other, w.tasks[j]? = some other → other.stage.isQuiet = false → j = 0 := by
  refine exists_some_and (by decide +kernel) fun w hrun hbusy => ?_
  obtain ⟨task, htask, hworks⟩ := (Option.any_eq_true _ _).mp hbusy
  exact (mutations_exclusive (by decide) hrun htask ((Bool.not_eq_true' _).mp hworks)).1

end PiDaemon.Authorization
