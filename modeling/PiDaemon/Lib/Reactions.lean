import Mathlib.Data.List.Basic

/-!
# Reactions of a promise chain

The idiom `tail = tail.then(task)` together with waiters that `await tail`.  Promise `0` is
resolved from the start, and promise `k + 1` settles when task `k` has finished.  The reactions of
a promise are queued in the order of their registration once it has settled, and the queue of jobs
is worked off from its head.

* `Ordered`: the invariant of such a chain, kept by `link`, `wait`, `next` and `finish`;
* `Ordered.next_idle`: a job is taken while no task runs, so a waiter never resumes in the middle
  of a task.
-/

namespace PiDaemon.Lib

open List Nat

inductive Reaction where
  | start (task : Nat)
  | resume (waiter : Nat)
  deriving DecidableEq

structure ReactionChain where
  /-- How many tasks are linked; the tail is the promise of the last one. -/
  linked : Nat
  running : List Nat
  finished : List Nat
  /-- The reactions of promises that have not settled, with the promise. -/
  waiting : List (Nat × Reaction)
  jobs : List Reaction
  deriving DecidableEq

namespace ReactionChain

def empty : ReactionChain := ⟨0, [], [], [], []⟩

def settled (c : ReactionChain) : Nat → Bool
  | 0 => true
  | k + 1 => c.finished.contains k

/-- `promise.then(reaction)` -/
def subscribe (c : ReactionChain) (promise : Nat) (reaction : Reaction) : ReactionChain :=
  if c.settled promise then { c with jobs := c.jobs ++ [reaction] }
  else { c with waiting := c.waiting ++ [(promise, reaction)] }

/-- `tail = tail.then(task)`; the task has the number `c.linked`. -/
def link (c : ReactionChain) : ReactionChain :=
  { c.subscribe c.linked (.start c.linked) with linked := c.linked + 1 }

/-- `await tail` -/
def wait (c : ReactionChain) (waiter : Nat) : ReactionChain := c.subscribe c.linked (.resume waiter)

/-- The next job is taken from the queue. -/
def next (c : ReactionChain) : Option (Reaction × ReactionChain) :=
  match c.jobs with
  | [] => none
  | .start task :: jobs => some (.start task, { c with jobs, running := task :: c.running })
  | .resume waiter :: jobs => some (.resume waiter, { c with jobs })

/-- The promise of a running task settles. -/
def finish (c : ReactionChain) (task : Nat) : Option ReactionChain :=
  if task ∈ c.running then
    some
      { c with
        running := c.running.erase task
        finished := task :: c.finished
        waiting := c.waiting.filter (·.1 ≠ task + 1)
        jobs := c.jobs ++ (c.waiting.filter (·.1 = task + 1)).map (·.2) }
  else none

/-- Task `p` is the first one that has not finished. -/
structure OrderedAt (c : ReactionChain) (p : Nat) : Prop where
  finished : ∀ k, k ∈ c.finished ↔ k < p
  linked : p ≤ c.linked
  running : c.running = [] ∨ c.running = [p] ∧ p < c.linked ∧ c.jobs = []
  start : ∀ k, .start k ∈ c.jobs → k = p ∧ p < c.linked
  last : c.jobs.Pairwise fun reaction _ => ∀ k, reaction ≠ .start k
  pending : ∀ entry ∈ c.waiting, p < entry.1 ∧ entry.1 ≤ c.linked
  own : ∀ j k, (j, .start k) ∈ c.waiting → k = j ∧ j < c.linked
  order : c.waiting.Pairwise fun entry later => ∀ k, entry.2 = .start k → later.1 ≠ k

def Ordered (c : ReactionChain) : Prop := ∃ p, c.OrderedAt p

variable {c c' : ReactionChain} {p : Nat} {reaction : Reaction}

theorem ordered_empty : Ordered empty := by
  refine ⟨0, ?_, Nat.le_refl 0, .inl rfl, ?_, .nil, ?_, ?_, .nil⟩
  all_goals simp [empty]

@[simp] theorem running_subscribe (promise : Nat) (reaction : Reaction) :
    (c.subscribe promise reaction).running = c.running := by
  rw [subscribe]
  split <;> rfl

@[simp] theorem running_link : c.link.running = c.running := running_subscribe _ _

@[simp] theorem running_wait (waiter : Nat) : (c.wait waiter).running = c.running :=
  running_subscribe _ _

theorem next_resume {waiter : Nat} (h : c.next = some (.resume waiter, c')) :
    c'.running = c.running := by
  rw [next] at h
  split at h <;> cases h
  rfl

theorem next_start {task : Nat} (h : c.next = some (.start task, c')) :
    c'.running = task :: c.running := by
  rw [next] at h
  split at h <;> cases h
  rfl

theorem OrderedAt.settled_iff (h : c.OrderedAt p) (j : Nat) : c.settled j = true ↔ j ≤ p := by
  cases j with
  | zero => simp [settled]
  | succ k =>
    rw [settled, contains_eq_mem, decide_eq_true_eq, h.finished]
    omega

/-- A chain whose tail has settled runs nothing. -/
theorem OrderedAt.idle (h : c.OrderedAt p) (hp : c.linked ≤ p) :
    c.running = [] ∧ ∀ k, .start k ∉ c.jobs := by
  constructor
  · rcases h.running with hrunning | ⟨-, _, -⟩
    · exact hrunning
    · omega
  · intro k hmem
    have := (h.start k hmem).2
    omega

theorem Ordered.wait (h : Ordered c) (waiter : Nat) : Ordered (c.wait waiter) := by
  obtain ⟨p, h⟩ := h
  refine ⟨p, ?_⟩
  rw [ReactionChain.wait, subscribe]
  split
  · rename_i hsettled
    have hp := (h.settled_iff c.linked).mp hsettled
    obtain ⟨hrunning, hnone⟩ := h.idle hp
    refine ⟨h.finished, h.linked, .inl hrunning, ?_, ?_, h.pending, h.own, h.order⟩
    · intro k hmem
      rcases mem_append.mp hmem with hmem | hmem
      · exact absurd hmem (hnone k)
      · simp at hmem
    · refine pairwise_append.mpr ⟨h.last, pairwise_singleton _ _, ?_⟩
      rintro _ hmem _ - k rfl
      exact hnone k hmem
  · rename_i hsettled
    have hp : p < c.linked := Nat.lt_of_not_le fun hle => hsettled ((h.settled_iff _).mpr hle)
    refine ⟨h.finished, h.linked, h.running, h.start, h.last, ?_, ?_, ?_⟩
    · intro entry hmem
      rcases mem_append.mp hmem with hmem | hmem
      · exact h.pending entry hmem
      · obtain rfl := mem_singleton.mp hmem
        exact ⟨hp, Nat.le_refl _⟩
    · intro j k hmem
      rcases mem_append.mp hmem with hmem | hmem
      · exact h.own j k hmem
      · simp at hmem
    · refine pairwise_append.mpr ⟨h.order, pairwise_singleton _ _, ?_⟩
      rintro ⟨j, _⟩ hmem _ hlater k rfl
      obtain rfl := mem_singleton.mp hlater
      obtain ⟨rfl, hlt⟩ := h.own j k hmem
      exact Nat.ne_of_gt hlt

theorem Ordered.link (h : Ordered c) : Ordered c.link := by
  obtain ⟨p, h⟩ := h
  refine ⟨p, ?_⟩
  rw [ReactionChain.link, subscribe]
  split
  · rename_i hsettled
    have hp := (h.settled_iff c.linked).mp hsettled
    have heq : p = c.linked := Nat.le_antisymm h.linked hp
    obtain ⟨hrunning, hnone⟩ := h.idle hp
    refine ⟨h.finished, le_succ_of_le h.linked, .inl hrunning, ?_, ?_, ?_, ?_, h.order⟩
    · intro k hmem
      rcases mem_append.mp hmem with hmem | hmem
      · exact absurd hmem (hnone k)
      · cases mem_singleton.mp hmem
        exact ⟨heq.symm, heq ▸ lt_succ_self p⟩
    · refine pairwise_append.mpr ⟨h.last, pairwise_singleton _ _, ?_⟩
      rintro _ hmem _ - k rfl
      exact hnone k hmem
    · intro entry hmem
      have := h.pending entry hmem
      exact ⟨this.1, le_succ_of_le this.2⟩
    · intro j k hmem
      have := h.own j k hmem
      exact ⟨this.1, lt_succ_of_lt this.2⟩
  · rename_i hsettled
    have hp : p < c.linked := Nat.lt_of_not_le fun hle => hsettled ((h.settled_iff _).mpr hle)
    refine ⟨h.finished, le_succ_of_le h.linked, ?_, ?_, h.last, ?_, ?_, ?_⟩
    · rcases h.running with hrunning | ⟨hrunning, hlt, hjobs⟩
      · exact .inl hrunning
      · exact .inr ⟨hrunning, lt_succ_of_lt hlt, hjobs⟩
    · intro k hmem
      have := h.start k hmem
      exact ⟨this.1, lt_succ_of_lt this.2⟩
    · intro entry hmem
      rcases mem_append.mp hmem with hmem | hmem
      · have := h.pending entry hmem
        exact ⟨this.1, le_succ_of_le this.2⟩
      · obtain rfl := mem_singleton.mp hmem
        exact ⟨hp, le_succ _⟩
    · intro j k hmem
      rcases mem_append.mp hmem with hmem | hmem
      · have := h.own j k hmem
        exact ⟨this.1, lt_succ_of_lt this.2⟩
      · cases mem_singleton.mp hmem
        exact ⟨rfl, lt_succ_self _⟩
    · refine pairwise_append.mpr ⟨h.order, pairwise_singleton _ _, ?_⟩
      rintro ⟨j, _⟩ hmem _ hlater k rfl
      obtain rfl := mem_singleton.mp hlater
      obtain ⟨rfl, hlt⟩ := h.own j k hmem
      exact Nat.ne_of_gt hlt

/-- **A job is taken while no task runs.** -/
theorem Ordered.next_idle (h : Ordered c) (hnext : c.next = some (reaction, c')) :
    c.running = [] := by
  obtain ⟨_, h⟩ := h
  rcases h.running with hrunning | ⟨-, -, hjobs⟩
  · exact hrunning
  · rw [next, hjobs] at hnext
    cases hnext

theorem Ordered.next (h : Ordered c) (hnext : c.next = some (reaction, c')) : Ordered c' := by
  have hidle := h.next_idle hnext
  obtain ⟨p, h⟩ := h
  refine ⟨p, ?_⟩
  rw [ReactionChain.next] at hnext
  split at hnext
  · cases hnext
  · rename_i task jobs hjobs
    cases hnext
    have hlast := h.last
    rw [hjobs, pairwise_cons] at hlast
    have hnil : jobs = [] := by
      cases jobs with
      | nil => rfl
      | cons later rest => exact absurd rfl (hlast.1 later mem_cons_self task)
    obtain ⟨rfl, hlt⟩ := h.start task (hjobs ▸ mem_cons_self)
    refine ⟨h.finished, h.linked, .inr ⟨?_, hlt, hnil⟩, ?_, hlast.2, h.pending, h.own, h.order⟩
    · rw [hidle]
    intro k hmem
    rw [hnil] at hmem
    cases hmem
  · rename_i waiter jobs hjobs
    cases hnext
    have hlast := h.last
    rw [hjobs, pairwise_cons] at hlast
    exact ⟨h.finished, h.linked, .inl hidle,
      fun k hmem => h.start k (hjobs ▸ mem_cons_of_mem _ hmem), hlast.2, h.pending, h.own,
      h.order⟩

theorem finish_mem {task : Nat} (hfinish : c.finish task = some c') : task ∈ c.running := by
  rw [finish] at hfinish
  split at hfinish
  · assumption
  · cases hfinish

/-- The only task that runs. -/
theorem Ordered.running_eq (h : Ordered c) {task : Nat} (hmem : task ∈ c.running) :
    c.running = [task] := by
  obtain ⟨_, h⟩ := h
  rcases h.running with hrunning | ⟨hrunning, -⟩
  · rw [hrunning] at hmem
    cases hmem
  · rw [hrunning, mem_singleton] at hmem
    rw [hrunning, hmem]

theorem Ordered.finish {task : Nat} (h : Ordered c) (hfinish : c.finish task = some c') :
    Ordered c' := by
  have hmem := finish_mem hfinish
  have hown := h.running_eq hmem
  obtain ⟨p, h⟩ := h
  have hbusy : task = p ∧ p < c.linked ∧ c.jobs = [] := by
    rcases h.running with hrunning | ⟨hrunning, hlt, hjobs⟩
    · rw [hown] at hrunning
      cases hrunning
    · rw [hown] at hrunning
      exact ⟨(List.cons.inj hrunning).1, hlt, hjobs⟩
  obtain ⟨rfl, hlt, hjobs⟩ := hbusy
  rw [ReactionChain.finish, if_pos hmem, Option.some.injEq] at hfinish
  subst hfinish
  refine ⟨task + 1, ?_, hlt, .inl ?_, ?_, ?_, ?_, ?_, ?_⟩
  · intro k
    rw [mem_cons, h.finished]
    omega
  · rw [hown, erase_cons_head]
  · intro k hk
    rw [hjobs, nil_append, mem_map] at hk
    obtain ⟨⟨j, _⟩, hentry, rfl⟩ := hk
    obtain ⟨hwaiting, hj⟩ := mem_filter.mp hentry
    obtain ⟨rfl, hklt⟩ := h.own j k hwaiting
    obtain rfl := of_decide_eq_true hj
    exact ⟨rfl, hklt⟩
  · rw [hjobs, nil_append, pairwise_map]
    have hfiltered := h.order.filter fun entry => decide (entry.1 = task + 1)
    refine hfiltered.imp_of_mem fun {entry later} hentry hlater horder k heq => ?_
    obtain ⟨hwaiting, hj⟩ := mem_filter.mp hentry
    obtain ⟨-, hlater⟩ := mem_filter.mp hlater
    have hkj := (h.own entry.1 k (heq ▸ hwaiting)).1
    exact horder k heq ((of_decide_eq_true hlater).trans (hkj.trans (of_decide_eq_true hj)).symm)
  · intro entry hentry
    obtain ⟨hwaiting, hne⟩ := mem_filter.mp hentry
    obtain ⟨hlt, hle⟩ := h.pending entry hwaiting
    have hother := of_decide_eq_true hne
    exact ⟨by omega, hle⟩
  · intro j k hentry
    exact h.own j k (mem_filter.mp hentry).1
  · exact h.order.filter _

end ReactionChain

end PiDaemon.Lib
