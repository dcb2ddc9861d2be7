import PiDaemon.Watchdog.Cycle

/-!
# Recoveries are rare

A component is recovered after enough failed probes in a row, and once in each row.

* `Epoch`: what a component has been through since it answered last;
* `Covers`: what is kept of a component is no more than that;
* `recoveries_rare`: so it is in every run in which no answer of a component is lost, and the web
  server is not left behind with failures when its target is removed;
* `web_recovered_unconfigured`: a web server that is left behind.
-/

namespace PiDaemon.Watchdog

open Lib Durability FileServiceWatchdogStore List Option Bool

/-! ## Epochs -/

def WatchdogProbePhase.answers : WatchdogProbePhase → Bool
  | .healthy => true
  | .degraded => true
  | _ => false

/-- What a component has been through since its last answer: the failed probes, and whether there
has been no recovery. -/
structure Epoch where
  failures : Nat
  rested : Bool
  deriving DecidableEq

section
variable {dateParses : JsString → Bool}

def note (k : WatchdogComponent) (epoch : Epoch) : WatchdogEvent dateParses → Epoch
  | .probed component phase =>
    if component = k then
      if phase.answers = true then ⟨0, true⟩
      else if phase = .failed then { epoch with failures := epoch.failures + 1 }
      else epoch
    else epoch
  | .recovered component => if component = k then { epoch with rested := false } else epoch
  | .saved _ => epoch

def epoch (k : WatchdogComponent) (events : List (WatchdogEvent dateParses)) : Epoch :=
  events.foldl (note k) ⟨0, true⟩

theorem epoch_append (k : WatchdogComponent) (first second : List (WatchdogEvent dateParses)) :
    epoch k (first ++ second) = second.foldl (note k) (epoch k first) :=
  foldl_append

/-- There has been an answer since a recovery. -/
theorem answered_of_rested {k : WatchdogComponent} {before after : List (WatchdogEvent dateParses)}
    (h : (epoch k (before ++ .recovered k :: after)).rested = true) :
    ∃ phase : WatchdogProbePhase, phase.answers = true ∧ .probed k phase ∈ after := by
  induction after using List.reverseRecOn with
  | nil =>
    rw [epoch_append] at h
    simp [note] at h
  | append_singleton after event ih =>
    rw [← cons_append, ← append_assoc, epoch_append] at h
    have hrest : (epoch k (before ++ .recovered k :: after)).rested = true →
        ∃ phase : WatchdogProbePhase, phase.answers = true ∧ .probed k phase ∈ after ++ [event] := by
      intro hrested
      obtain ⟨phase, hphase, hmem⟩ := ih hrested
      exact ⟨phase, hphase, mem_append_left _ hmem⟩
    cases event with
    | probed component phase =>
      by_cases hsame : component = k
      · by_cases hanswers : phase.answers = true
        · exact ⟨phase, hanswers, by rw [hsame]; exact mem_append_right _ (mem_singleton.mpr rfl)⟩
        refine hrest ?_
        simp only [foldl_cons, foldl_nil, note, if_pos hsame, if_neg hanswers] at h
        split at h <;> exact h
      · simp only [foldl_cons, foldl_nil, note, if_neg hsame] at h
        exact hrest h
    | recovered component =>
      by_cases hsame : component = k
      · simp [note, hsame] at h
      · simp only [foldl_cons, foldl_nil, note, if_neg hsame] at h
        exact hrest h
    | saved => exact hrest h

theorem note_probed (k : WatchdogComponent) (e : Epoch) (phase : WatchdogProbePhase) :
    note k e (.probed k phase : WatchdogEvent dateParses) =
      if phase.answers = true then ⟨0, true⟩
      else if phase = .failed then { e with failures := e.failures + 1 } else e :=
  if_pos rfl

/-- Events that are not about a component. -/
def Elsewhere (k : WatchdogComponent) : WatchdogEvent dateParses → Prop
  | .probed component _ => component ≠ k
  | .recovered component => component ≠ k
  | .saved _ => True

theorem note_elsewhere {k : WatchdogComponent} {event : WatchdogEvent dateParses}
    (h : Elsewhere k event) (e : Epoch) : note k e event = e := by
  cases event with
  | probed | recovered => exact if_neg h
  | saved => rfl

theorem foldl_elsewhere {k : WatchdogComponent} {events : List (WatchdogEvent dateParses)}
    (h : ∀ event ∈ events, Elsewhere k event) (e : Epoch) : events.foldl (note k) e = e := by
  induction events generalizing e with
  | nil => rfl
  | cons event events ih =>
    rw [foldl_cons, note_elsewhere (h event mem_cons_self)]
    exact ih (fun other hother => h other (mem_cons_of_mem _ hother)) e

/-! ## Entries -/

def failuresOf (component : Option (WatchdogComponentState dateParses)) : Nat :=
  (component.map fun state => (state.consecutiveFailures : Nat)).getD 0

def attemptedOf (component : Option (WatchdogComponentState dateParses)) : Bool :=
  (component.map WatchdogComponentState.recoveryAttempted).getD false

/-- What is kept of a component is no more than what it has been through. -/
def Covers (component : Option (WatchdogComponentState dateParses)) (e : Epoch) : Prop :=
  attemptedOf component = true ∨ failuresOf component ≤ e.failures ∧ e.rested = true

section
variable {prior component : Option (WatchdogComponentState dateParses)} {e : Epoch}

section
variable (prior)

theorem failuresOf_update (probe : WatchdogProbeResult) :
    failuresOf (some (updateComponent prior probe)) =
      if probe.phase.answers = true then 0
      else if probe.phase = .failed then min MAX_SAFE_INTEGER (failuresOf prior + 1)
      else failuresOf prior := by
  obtain ⟨_, phase, _⟩ := probe
  cases prior <;> cases phase <;> rfl

theorem attemptedOf_update (probe : WatchdogProbeResult) :
    attemptedOf (some (updateComponent prior probe)) =
      if probe.phase.answers = true then false else attemptedOf prior := by
  obtain ⟨_, phase, _⟩ := probe
  cases prior <;> cases phase <;> rfl

end

theorem covers_update (h : Covers prior e) (k : WatchdogComponent) (probe : WatchdogProbeResult) :
    Covers (some (updateComponent prior probe))
      (note k e (.probed k probe.phase : WatchdogEvent dateParses)) := by
  rw [note_probed, Covers, failuresOf_update, attemptedOf_update]
  by_cases hanswers : probe.phase.answers = true
  · rw [if_pos hanswers, if_pos hanswers, if_pos hanswers]
    exact .inr ⟨Nat.le_refl _, rfl⟩
  rw [if_neg hanswers, if_neg hanswers]
  refine h.imp id fun hle => ?_
  split
  · exact ⟨Nat.le_trans (Nat.min_le_right _ _) (Nat.succ_le_succ hle.1), hle.2⟩
  · exact hle

/-- A probe that is not written down. -/
theorem covers_lost (h : Covers prior e) (k : WatchdogComponent) {phase : WatchdogProbePhase}
    (hlost : phase.answers = true → attemptedOf prior = true ∨ failuresOf prior = 0) :
    Covers prior (note k e (.probed k phase : WatchdogEvent dateParses)) := by
  rw [note_probed]
  split
  · rename_i hanswers
    exact (hlost hanswers).imp id fun hzero => ⟨Nat.le_of_eq hzero, rfl⟩
  split
  · exact h.imp id fun hle => ⟨Nat.le_trans hle.1 (Nat.le_succ _), hle.2⟩
  · exact h

end

/-! ## Settling -/

/-- The components that are saved: as they are, or with one that is being recovered. -/
def Follows (input : CycleInput dateParses) (components saved : WatchdogComponents dateParses) : Prop :=
  ∀ k, saved.get k = components.get k ∨ ∃ component lastRecovery, components.get k = some component ∧
    saved.get k = some { component with recoveryAttempted := true, lastRecovery } ∧
    ∀ recovery ∈ lastRecovery, component.lastRecovery = some recovery ∨
      ∃ polls result, input.call = .made polls (some result) ∧
        recovery.toWatchdogRecoveryResult = result

/-- A component is recovered. -/
structure Recovered (input : CycleInput dateParses)
    (components : WatchdogComponents dateParses) (k : WatchdogComponent)
    (state : ServiceWatchdogState dateParses)
    (rest : List (WatchdogEvent dateParses)) (written : ServiceWatchdogState dateParses) : Prop where
  due : nextRecoveryComponent components input.options.failureThreshold = some k
  before : Follows input components state.components
  after : Follows input components written.components
  attempted : attemptedOf (written.components.get k) = true
  others : ∀ j, j ≠ k → written.components.get j = components.get j
  rest : ∀ event ∈ rest, (∃ phase, event = .probed k phase) ∨ event = .saved written

/-- What comes of the rest of a cycle. -/
inductive Settles (instanceName : JsString) (input : CycleInput dateParses) (file : Option (JsValue Rat))
    (components : WatchdogComponents dateParses) :
    Option (JsValue Rat) × List (WatchdogEvent dateParses) → Prop where
  | lost (h : input.save.lands = false) : Settles instanceName input file components (file, [])
  | saved (h : input.save.lands = true) (state : ServiceWatchdogState dateParses)
      (hfollows : Follows input components state.components) :
      Settles instanceName input file components (some (state.json instanceName), [.saved state])
  | recovered (h : input.save.lands = true) (k : WatchdogComponent)
      (state written : ServiceWatchdogState dateParses) (rest : List (WatchdogEvent dateParses))
      (hrecovered : Recovered input components k state rest written) :
      Settles instanceName input file components
        (some (written.json instanceName), .saved state :: .recovered k :: rest)

section
variable {instanceName : JsString} {input : CycleInput dateParses} {file : Option (JsValue Rat)}
  {components : WatchdogComponents dateParses} {k : WatchdogComponent}

theorem Follows.refl (input : CycleInput dateParses) (components : WatchdogComponents dateParses) :
    Follows input components components := fun _ => .inl rfl

theorem follows_set {component : WatchdogComponentState dateParses}
    (hget : components.get k = some component) {lastRecovery : Option (RecordedRecovery dateParses)}
    (hrecovery : ∀ recovery ∈ lastRecovery, component.lastRecovery = some recovery ∨
      ∃ polls result, input.call = .made polls (some result) ∧
        recovery.toWatchdogRecoveryResult = result) :
    Follows input components
      (components.set { component with recoveryAttempted := true, lastRecovery } k) := by
  intro j
  rw [WatchdogComponents.get_set]
  split
  · rename_i hsame
    subst hsame
    exact .inr ⟨component, lastRecovery, hget, rfl, hrecovery⟩
  · exact .inl rfl

theorem settles_save {state : ServiceWatchdogState dateParses}
    (h : Follows input components state.components) :
    Settles instanceName input file components
      (FileServiceWatchdogStore.save instanceName input.save file state) := by
  rw [FileServiceWatchdogStore.save]
  split
  · exact .saved ‹_› state h
  · rename_i hlost
    exact .lost (by simpa using hlost)

theorem recover_settles {component : WatchdogComponentState dateParses}
    (hdue : nextRecoveryComponent components input.options.failureThreshold = some k)
    (hget : components.get k = some component) :
    Settles instanceName input file components
      (input.recover instanceName file components k component) := by
  have hbefore : Follows input components (components.set { component with recoveryAttempted := true } k) :=
    follows_set hget fun recovery hrecovery => .inl hrecovery
  rw [CycleInput.recover]
  simp only
  split
  · rename_i polls hsave hcall
    rw [hsave]
    refine .recovered (by rw [hsave]; rfl) k _ _ _ ⟨hdue, hbefore, hbefore, ?_, ?_, ?_⟩
    · simp [attemptedOf]
    · intro j hj
      simp [Ne.symm hj]
    · intro event hevent
      obtain ⟨phase, _, rfl⟩ := List.mem_map.mp hevent
      exact .inl ⟨phase, rfl⟩
  · rename_i polls recovery hsave hcall
    rw [hsave, WatchdogComponents.set_set]
    have hlands : input.save.lands = true := by
      rw [hsave]
      rfl
    have hpolls : ∀ event ∈ polls.map (WatchdogEvent.probed k : _ → WatchdogEvent dateParses),
        ∃ phase, event = .probed k phase := by
      intro event hevent
      obtain ⟨phase, _, rfl⟩ := List.mem_map.mp hevent
      exact ⟨phase, rfl⟩
    have hattempted : ∀ lastRecovery, attemptedOf ((components.set
        { component with recoveryAttempted := true, lastRecovery } k).get k) = true := by
      intro lastRecovery
      simp [attemptedOf]
    have hothers : ∀ lastRecovery, ∀ j, j ≠ k → (components.set
        { component with recoveryAttempted := true, lastRecovery } k).get j = components.get j := by
      intro lastRecovery j hj
      simp [Ne.symm hj]
    have hafter : Follows input components (components.set { component with
        recoveryAttempted := true
        lastRecovery := some { recovery with attemptedAt := input.times.attempted } } k) := by
      refine follows_set hget fun other hother => .inr ⟨polls, recovery, hcall, ?_⟩
      cases hother
      rfl
    rw [FileServiceWatchdogStore.save]
    split
    · refine .recovered hlands k _ _ _ ⟨hdue, hbefore, hafter, hattempted _, hothers _, ?_⟩
      intro event hevent
      rcases mem_append.mp hevent with hpoll | hlast
      · exact .inl (hpolls event hpoll)
      · exact .inr (mem_singleton.mp hlast)
    · rw [append_nil]
      exact .recovered hlands k _ _ _ ⟨hdue, hbefore, hbefore, hattempted _, hothers _,
        fun event hevent => .inl (hpolls event hevent)⟩
  · exact settles_save hbefore

theorem next_due {failureThreshold : Nat}
    (h : nextRecoveryComponent components failureThreshold = some k) :
    ∃ component, components.get k = some component ∧ isDue failureThreshold component = true := by
  rw [nextRecoveryComponent] at h
  split at h
  · rename_i hdue
    cases h
    exact (Option.any_eq_true _ _).mp hdue
  · split at h
    · rename_i hdue
      cases h
      exact (Option.any_eq_true _ _).mp hdue
    · cases h

theorem settle_settles (instanceName : JsString) (input : CycleInput dateParses)
    (file : Option (JsValue Rat)) (components : WatchdogComponents dateParses) :
    Settles instanceName input file components (input.settle instanceName file components) := by
  rw [CycleInput.settle]
  split
  · exact settles_save (.refl input components)
  rename_i k hnext
  obtain ⟨_, hget, _⟩ := next_due hnext
  rw [hget]
  exact recover_settles hnext hget

end

/-! ## Cycles -/

/-- What has been loaded of the components. -/
def priorComponents (loaded : Option (ServiceWatchdogState dateParses)) : WatchdogComponents dateParses :=
  (loaded.map ServiceWatchdogState.components).getD ⟨none, none⟩

theorem priorComponents_eq (loaded : Option (ServiceWatchdogState dateParses)) (now : Timestamp dateParses) :
    (loaded.getD (initialState now)).components = priorComponents loaded := by
  cases loaded <;> rfl

/-- What is done before the first save. -/
def probeEvents (input : CycleInput dateParses) (api : WatchdogProbeResult)
    (web : Option WatchdogProbeResult) : List (WatchdogEvent dateParses) :=
  .probed .api api.phase :: input.webEvents api web

/-- What comes of a cycle. -/
inductive Cycles (format : NumberFormat Rat) (instanceName : JsString) (file : Option (JsValue Rat))
    (input : CycleInput dateParses) :
    Option (JsValue Rat) × List (WatchdogEvent dateParses) → Prop where
  | idle : Cycles format instanceName file input (file, [])
  | stopped (loaded : Option (ServiceWatchdogState dateParses)) (api : WatchdogProbeResult)
      (hloads : input.loads = true)
      (hload : FileServiceWatchdogStore.load dateParses format instanceName file = .ok loaded)
      (hapi : input.api = some api) (hweb : input.probeWeb api = none) :
      Cycles format instanceName file input (file, [.probed .api api.phase])
  | probed (loaded : Option (ServiceWatchdogState dateParses)) (api : WatchdogProbeResult)
      (web : Option WatchdogProbeResult)
      (rest : Option (JsValue Rat) × List (WatchdogEvent dateParses))
      (hloads : input.loads = true)
      (hload : FileServiceWatchdogStore.load dateParses format instanceName file = .ok loaded)
      (hapi : input.api = some api) (hweb : input.probeWeb api = some web)
      (hsettles : Settles instanceName input file (CycleInput.observe (priorComponents loaded) api web)
        rest) :
      Cycles format instanceName file input (rest.1, probeEvents input api web ++ rest.2)

theorem cycle_cycles (format : NumberFormat Rat) (instanceName : JsString) (file : Option (JsValue Rat))
    (input : CycleInput dateParses) :
    Cycles format instanceName file input (cycle format instanceName file input) := by
  rw [cycle]
  split
  · exact .idle
  rename_i hloads
  split
  · exact .idle
  rename_i loaded hload
  rw [CycleInput.proceed, priorComponents_eq]
  split
  · exact .idle
  rename_i api hapi
  split
  · rename_i hweb
    exact .stopped loaded api (by simpa using hloads) hload hapi hweb
  · rename_i web hweb
    exact .probed loaded api web _ (by simpa using hloads) hload hapi hweb (settle_settles _ _ _ _)

section
variable {input : CycleInput dateParses} {api : WatchdogProbeResult} {web : Option WatchdogProbeResult}
  {prior : WatchdogComponents dateParses} {past : List (WatchdogEvent dateParses)}

section
variable (input)

section
variable (api)

section
variable (web)

section
variable (past)

theorem epoch_probeEvents_api :
    epoch .api (past ++ probeEvents input api web) =
      note .api (epoch .api past) (.probed .api api.phase : WatchdogEvent dateParses) := by
  rw [epoch_append, probeEvents, foldl_cons]
  refine foldl_elsewhere (fun event hevent => ?_) _
  rw [CycleInput.webEvents] at hevent
  split at hevent
  · rw [mem_toList, map_eq_some_iff] at hevent
    obtain ⟨_, _, rfl⟩ := hevent
    exact (fun h => by cases h)
  · cases hevent

theorem epoch_probeEvents_web :
    epoch .web (past ++ probeEvents input api web) =
      (input.webEvents api web).foldl (note .web) (epoch .web past) := by
  have helsewhere : Elsewhere .web (.probed .api api.phase : WatchdogEvent dateParses) :=
    fun h => by cases h
  rw [epoch_append, probeEvents, foldl_cons, note_elsewhere helsewhere]

end

end

end

end

/-- What a cycle has seen is covered. -/
theorem observe_covers (hweb : input.probeWeb api = some web)
    (hprior : ∀ k, Covers (prior.get k) (epoch k past)) (k : WatchdogComponent) :
    Covers ((CycleInput.observe prior api web).get k) (epoch k (past ++ probeEvents input api web)) := by
  cases k with
  | api =>
    rw [epoch_probeEvents_api]
    exact covers_update (hprior .api) .api api
  | web =>
    rw [epoch_probeEvents_web, CycleInput.webEvents]
    rw [CycleInput.probeWeb] at hweb
    split at hweb
    · cases hweb
      rw [map_none, toList_none, ite_self]
      exact hprior .web
    · split at hweb
      · rename_i hhealthy
        obtain ⟨probe, _, rfl⟩ := map_eq_some_iff.mp hweb
        rw [if_pos hhealthy]
        exact covers_update (hprior .web) .web probe
      · rename_i hhealthy
        cases hweb
        rw [if_neg hhealthy]
        exact covers_update (hprior .web) .web (blockedProbe .web "api_not_healthy")

/-- What has been kept before a cycle that writes nothing is covered. -/
theorem lost_covers (hweb : input.probeWeb api = some web)
    (hprior : ∀ k, Covers (prior.get k) (epoch k past))
    (hlostApi : api.phase.answers = true →
      attemptedOf prior.api = true ∨ failuresOf prior.api = 0)
    (hlostWeb : ∀ probe ∈ input.web, input.options.web = true → api.phase = .healthy →
      probe.phase.answers = true → attemptedOf prior.web = true ∨ failuresOf prior.web = 0)
    (k : WatchdogComponent) : Covers (prior.get k) (epoch k (past ++ probeEvents input api web)) := by
  cases k with
  | api =>
    rw [epoch_probeEvents_api]
    exact covers_lost (hprior .api) .api hlostApi
  | web =>
    rw [epoch_probeEvents_web, CycleInput.webEvents]
    rw [CycleInput.probeWeb] at hweb
    split at hweb
    · cases hweb
      rw [map_none, toList_none, ite_self]
      exact hprior .web
    · rename_i htarget
      split at hweb
      · rename_i hhealthy
        obtain ⟨probe, hprobe, rfl⟩ := map_eq_some_iff.mp hweb
        rw [if_pos hhealthy]
        exact covers_lost (hprior .web) .web (hlostWeb probe hprobe (by simpa using htarget) hhealthy)
      · rename_i hhealthy
        rw [if_neg hhealthy]
        exact hprior .web

end

/-! ## Runs -/

namespace CycleInput

/-- The component is probed, and is healthy or degraded. -/
def Answered (input : CycleInput dateParses) : WatchdogComponent → Prop
  | .api => ∃ probe ∈ input.api, probe.phase.answers = true
  | .web => input.options.web = true ∧ (∃ probe ∈ input.api, probe.phase = .healthy) ∧
    ∃ probe ∈ input.web, probe.phase.answers = true

/-- The cycle comes to its first save, which changes the file. -/
def Writes (input : CycleInput dateParses) : Prop :=
  (∃ api ∈ input.api, (input.probeWeb api).isSome = true) ∧ input.save.lands = true

end CycleInput

/-- No answer of a component is lost while failures of it are counted, and a web server without a
target is not left behind with failures; all results are well formed, and the file small enough. -/
structure Keeps (format : NumberFormat Rat) (instanceName : JsString) (w : World dateParses)
    (input : CycleInput dateParses) : Prop where
  answers : input.loads = true → ∀ loaded,
    FileServiceWatchdogStore.load dateParses format instanceName w.file = .ok loaded →
      ∀ k, input.Answered k → input.Writes ∨ attemptedOf ((priorComponents loaded).get k) = true ∨
        failuresOf ((priorComponents loaded).get k) = 0
  target : input.options.web = false → ∀ loaded,
    FileServiceWatchdogStore.load dateParses format instanceName w.file = .ok loaded →
      ∀ left ∈ (priorComponents loaded).web, isDue input.options.failureThreshold left = true →
        ∃ api ∈ input.api, isDue input.options.failureThreshold
          (updateComponent (priorComponents loaded).api api) = true
  api : ∀ probe ∈ input.api, probe.component = .api ∧ probe.latencyMs.isDuration = true
  web : ∀ probe ∈ input.web, probe.component = .web ∧ probe.latencyMs.isDuration = true
  recovery : ∀ polls recovery, input.call = .made polls (some recovery) →
    recovery.durationMs.isDuration = true
  fits : ∀ state, .saved state ∈ (cycle format instanceName w.file input).2 →
    privateJsonBytes format (state.json instanceName) ≤ MAX_WATCHDOG_STATE_BYTES

/-- The file is one that has been saved, and what is kept in it is covered. -/
structure Kept (format : NumberFormat Rat) (instanceName : JsString) (w : World dateParses) : Prop where
  written : ∀ value ∈ w.file, ∃ state : ServiceWatchdogState dateParses, value = state.json instanceName
  covers : ∀ loaded, FileServiceWatchdogStore.load dateParses format instanceName w.file = .ok loaded →
    ∀ k, Covers ((priorComponents loaded).get k) (epoch k w.past)

section
variable {format : NumberFormat Rat} {instanceName : JsString} {w : World dateParses}
  {input : CycleInput dateParses} {components : WatchdogComponents dateParses}

variable {loaded : Option (ServiceWatchdogState dateParses)}

theorem load_json {state : ServiceWatchdogState dateParses} :
    FileServiceWatchdogStore.load dateParses format instanceName (some (state.json instanceName)) =
        .ok loaded ↔
      privateJsonBytes format (state.json instanceName) ≤ MAX_WATCHDOG_STATE_BYTES ∧ state.Stored ∧
        loaded = some state.kept := by
  have hmap : ∀ x : Except String (ServiceWatchdogState dateParses),
      x.map some = .ok loaded ↔ ∃ read, x = .ok read ∧ loaded = some read := by
    intro x
    cases x <;> simp [Except.map, eq_comm]
  rw [FileServiceWatchdogStore.load, then_ok, check_ok, decide_eq_true_eq, hmap]
  refine and_congr_right fun _ => ?_
  simp only [parseWatchdogState_json]
  constructor
  · rintro ⟨read, ⟨hstored, rfl⟩, rfl⟩
    exact ⟨hstored, rfl⟩
  · rintro ⟨hstored, rfl⟩
    exact ⟨_, ⟨hstored, rfl⟩, rfl⟩

/-- **The state file**: what is saved is loaded again exactly when it is within the byte bound and its
probes and recoveries are well formed, without the status codes that are not finite. -/
theorem watchdog_state_restored {file : Option (JsValue Rat)} {state : ServiceWatchdogState dateParses} :
    FileServiceWatchdogStore.load dateParses format instanceName
        (FileServiceWatchdogStore.save instanceName .done file state).1 = .ok loaded ↔
      privateJsonBytes format (state.json instanceName) ≤ MAX_WATCHDOG_STATE_BYTES ∧ state.Stored ∧
        loaded = some state.kept := by
  rw [FileServiceWatchdogStore.save_done]
  exact load_json

theorem covers_kept {component : Option (WatchdogComponentState dateParses)} {e : Epoch}
    (h : Covers component e) : Covers (component.map WatchdogComponentState.kept) e := by
  cases component <;> exact h

theorem get_priorComponents_kept (state : ServiceWatchdogState dateParses) (k : WatchdogComponent) :
    (priorComponents (some state.kept)).get k =
      (state.components.get k).map WatchdogComponentState.kept :=
  state.get_kept k

theorem Follows.covers {saved : WatchdogComponents dateParses} (h : Follows input components saved)
    {k : WatchdogComponent} {e : Epoch} (hcovers : Covers (components.get k) e) :
    Covers (saved.get k) e := by
  rcases h k with hsame | ⟨_, _, _, hset, _⟩
  · rw [hsame]
    exact hcovers
  · rw [hset]
    exact .inl rfl

theorem Keeps.lost (h : Keeps format instanceName w input) (hloads : input.loads = true)
    (hload : FileServiceWatchdogStore.load dateParses format instanceName w.file = .ok loaded) (hlost : ¬input.Writes)
    {k : WatchdogComponent} (hanswered : input.Answered k) :
    attemptedOf ((priorComponents loaded).get k) = true ∨
      failuresOf ((priorComponents loaded).get k) = 0 :=
  (h.answers hloads loaded hload k hanswered).resolve_left hlost

theorem kept_step (h : Kept format instanceName w) (hkeeps : Keeps format instanceName w input)
    {w' : World dateParses} (hstep : w.step format instanceName input = some w') :
    Kept format instanceName w' := by
  have hcycle := cycle_cycles format instanceName w.file input
  obtain rfl := Option.some.inj hstep
  generalize cycle format instanceName w.file input = done at hcycle
  cases hcycle with
  | idle =>
    rw [append_nil]
    exact h
  | stopped loaded api hloads hload hapi hweb =>
    refine ⟨h.written, fun other hother k => ?_⟩
    cases hload.symm.trans hother
    cases k with
    | api =>
      rw [epoch_append]
      refine covers_lost (h.covers loaded hload .api) .api fun hanswers => ?_
      refine hkeeps.lost hloads hload ?_ (k := .api) ⟨api, hapi, hanswers⟩
      rintro ⟨⟨other, hother, hprobed⟩, _⟩
      cases hapi.symm.trans hother
      rw [hweb] at hprobed
      cases hprobed
    | web =>
      have helsewhere : Elsewhere .web (.probed .api api.phase : WatchdogEvent dateParses) :=
        fun h => by cases h
      rw [epoch_append, foldl_cons]
      exact h.covers loaded hload .web
  | probed loaded api web rest hloads hload hapi hweb hsettles =>
    have hobserved := observe_covers hweb (h.covers loaded hload)
    have hsaved : ∀ k (events : List (WatchdogEvent dateParses)), (∀ event ∈ events, Elsewhere k event) →
        epoch k (w.past ++ (probeEvents input api web ++ events)) =
          epoch k (w.past ++ probeEvents input api web) := by
      intro k events hevents
      rw [← append_assoc, epoch_append, foldl_elsewhere hevents]
    cases hsettles with
    | lost hlost =>
      refine ⟨h.written, fun other hother k => ?_⟩
      cases hload.symm.trans hother
      have hnot : ¬input.Writes := by
        rintro ⟨_, hlands⟩
        rw [hlost] at hlands
        cases hlands
      rw [hsaved k [] fun event hevent => by cases hevent]
      refine lost_covers hweb (h.covers loaded hload) (fun hanswers => ?_)
        (fun probe hprobe htarget hhealthy hanswers => ?_) k
      · exact hkeeps.lost hloads hload hnot (k := .api) ⟨api, hapi, hanswers⟩
      · exact hkeeps.lost hloads hload hnot (k := .web)
          ⟨htarget, ⟨api, hapi, hhealthy⟩, probe, hprobe, hanswers⟩
    | saved hlands state hfollows =>
      refine ⟨fun value hvalue => ⟨state, (Option.some.inj hvalue).symm⟩, fun other hother k => ?_⟩
      obtain ⟨_, _, rfl⟩ := load_json.mp hother
      rw [get_priorComponents_kept, hsaved k [.saved state] fun event hevent => by
        rw [mem_singleton.mp hevent]
        trivial]
      exact covers_kept (hfollows.covers (hobserved k))
    | recovered hlands k state written rest hrecovered =>
      refine ⟨fun value hvalue => ⟨written, (Option.some.inj hvalue).symm⟩, fun other hother j => ?_⟩
      obtain ⟨_, _, rfl⟩ := load_json.mp hother
      rw [get_priorComponents_kept]
      by_cases hsame : j = k
      · subst hsame
        exact covers_kept (.inl hrecovered.attempted)
      rw [hsaved j (.saved state :: .recovered k :: rest) fun event hevent => ?_,
        hrecovered.others j hsame]
      · exact covers_kept (hobserved j)
      rcases mem_cons.mp hevent with rfl | hevent
      · trivial
      rcases mem_cons.mp hevent with rfl | hevent
      · exact Ne.symm hsame
      rcases hrecovered.rest event hevent with ⟨_, rfl⟩ | rfl
      · exact Ne.symm hsame
      · trivial

end

/-! ## Recoveries -/

def WatchdogEvent.isRecovery : WatchdogEvent dateParses → Bool
  | .recovered _ => true
  | _ => false

/-- A recovery that is called after these events of its cycle. -/
structure Recovers (past : List (WatchdogEvent dateParses)) (options : ServiceWatchdogOptions)
    (before : List (WatchdogEvent dateParses)) (k : WatchdogComponent) : Prop where
  target : k = .web → options.web = true
  failed : .probed k .failed ∈ before
  enough : options.failureThreshold ≤ (epoch k (past ++ before)).failures
  apart : ∀ first rest, past ++ before = first ++ .recovered k :: rest →
    ∃ phase : WatchdogProbePhase, phase.answers = true ∧ .probed k phase ∈ rest
  api : k = .web → .probed .api .healthy ∈ before

/-- What a cycle does after all that has been done. -/
structure Rare (format : NumberFormat Rat) (instanceName : JsString)
    (past : List (WatchdogEvent dateParses)) (options : ServiceWatchdogOptions)
    (events : List (WatchdogEvent dateParses)) : Prop where
  once : events.countP WatchdogEvent.isRecovery ≤ 1
  recovers : ∀ before k after, events = before ++ .recovered k :: after → Recovers past options before k
  accepted : ∀ state, .saved state ∈ events → ∃ loaded,
    FileServiceWatchdogStore.load dateParses format instanceName (some (state.json instanceName)) =
      .ok loaded

theorem isRecovery_probeEvents {input : CycleInput dateParses} {api : WatchdogProbeResult}
    {web : Option WatchdogProbeResult} :
    ∀ event ∈ probeEvents input api web, event.isRecovery = false := by
  intro event hevent
  rcases mem_cons.mp hevent with rfl | hevent
  · rfl
  rw [CycleInput.webEvents] at hevent
  split at hevent
  · rw [mem_toList, map_eq_some_iff] at hevent
    obtain ⟨_, _, rfl⟩ := hevent
    rfl
  · cases hevent

theorem recovered_unique {pre post before after : List (WatchdogEvent dateParses)}
    {k k' : WatchdogComponent} (hpre : ∀ event ∈ pre, event.isRecovery = false)
    (hpost : ∀ event ∈ post, event.isRecovery = false)
    (h : pre ++ .recovered k :: post = before ++ .recovered k' :: after) : before = pre ∧ k' = k := by
  rcases append_eq_append_iff.mp h with ⟨rest, hbefore, hrest⟩ | ⟨rest, hbefore, hrest⟩
  · cases rest with
    | nil =>
      cases hrest
      exact ⟨by rw [hbefore, append_nil], rfl⟩
    | cons =>
      cases hrest
      have hrecovery := hpost (.recovered k') (by simp)
      cases hrecovery
  · cases rest with
    | nil =>
      cases hrest
      exact ⟨by rw [hbefore, append_nil], rfl⟩
    | cons =>
      cases hrest
      have hrecovery := hpre (.recovered k') (by simp [hbefore])
      cases hrecovery

section
variable {format : NumberFormat Rat} {instanceName : JsString} {w : World dateParses}
  {input : CycleInput dateParses} {api : WatchdogProbeResult} {web : Option WatchdogProbeResult}
  {loaded : Option (ServiceWatchdogState dateParses)}

variable (prior : Option (WatchdogComponentState dateParses))

theorem lastProbe_update (probe : WatchdogProbeResult) : (updateComponent prior probe).lastProbe = probe := by
  obtain ⟨_, phase, _⟩ := probe
  cases phase <;> rfl

theorem lastRecovery_update (probe : WatchdogProbeResult) :
    (updateComponent prior probe).lastRecovery = prior.bind WatchdogComponentState.lastRecovery := by
  obtain ⟨_, phase, _⟩ := probe
  cases phase <;> rfl

theorem Kept.prior_stored (h : Kept format instanceName w)
    (hload : FileServiceWatchdogStore.load dateParses format instanceName w.file = .ok loaded)
    (k : WatchdogComponent) : ∀ component ∈ (priorComponents loaded).get k, component.Stored k := by
  intro component hcomponent
  cases hfile : w.file with
  | none =>
    rw [hfile] at hload
    cases hload
    cases k <;> cases hcomponent
  | some value =>
    obtain ⟨_, rfl⟩ := h.written value hfile
    rw [hfile] at hload
    obtain ⟨_, hstored, rfl⟩ := load_json.mp hload
    rw [get_priorComponents_kept] at hcomponent
    obtain ⟨original, horiginal, rfl⟩ := map_eq_some_iff.mp hcomponent
    have hcheck := hstored k original horiginal
    exact ⟨hcheck.component, hcheck.latency, hcheck.duration⟩

theorem stored_update {k : WatchdogComponent} {prior : Option (WatchdogComponentState dateParses)}
    (hprior : ∀ component ∈ prior, component.Stored k) {probe : WatchdogProbeResult}
    (hprobe : probe.component = k ∧ probe.latencyMs.isDuration = true) :
    (updateComponent prior probe).Stored k := by
  refine ⟨?_, ?_, fun recovery hrecovery => ?_⟩
  · rw [lastProbe_update]
    exact hprobe.1
  · rw [lastProbe_update]
    exact hprobe.2
  · rw [lastRecovery_update, mem_def, bind_eq_some_iff] at hrecovery
    obtain ⟨component, hcomponent, hlast⟩ := hrecovery
    exact (hprior component hcomponent).duration recovery hlast

theorem observe_stored (h : Kept format instanceName w) (hkeeps : Keeps format instanceName w input)
    (hload : FileServiceWatchdogStore.load dateParses format instanceName w.file = .ok loaded)
    (hapi : input.api = some api) (hweb : input.probeWeb api = some web) (k : WatchdogComponent) :
    ∀ component ∈ (CycleInput.observe (priorComponents loaded) api web).get k, component.Stored k := by
  intro component hcomponent
  cases k with
  | api =>
    cases hcomponent
    exact stored_update (h.prior_stored hload .api) (hkeeps.api api hapi)
  | web =>
    cases web with
    | none => exact h.prior_stored hload .web component hcomponent
    | some probe =>
      cases hcomponent
      refine stored_update (h.prior_stored hload .web) ?_
      rw [CycleInput.probeWeb] at hweb
      split at hweb
      · cases hweb
      split at hweb
      · obtain ⟨_, hfound, heq⟩ := map_eq_some_iff.mp hweb
        cases heq
        exact hkeeps.web probe hfound
      · cases hweb
        exact ⟨rfl, rfl⟩

theorem Follows.stored {components saved : WatchdogComponents dateParses} (h : Follows input components saved)
    (hkeeps : Keeps format instanceName w input)
    (hstored : ∀ k, ∀ component ∈ components.get k, component.Stored k) (k : WatchdogComponent) :
    ∀ component ∈ saved.get k, component.Stored k := by
  intro component hcomponent
  rcases h k with hsame | ⟨original, _, horiginal, hset, hrecovery⟩
  · rw [hsame] at hcomponent
    exact hstored k component hcomponent
  rw [hset] at hcomponent
  cases hcomponent
  have hcheck := hstored k original horiginal
  refine ⟨hcheck.component, hcheck.latency, fun recovery hlast => ?_⟩
  rcases hrecovery recovery hlast with hold | ⟨polls, result, hcall, hresult⟩
  · exact hcheck.duration recovery hold
  · rw [hresult]
    exact hkeeps.recovery polls result hcall

theorem target_of_due (hkeeps : Keeps format instanceName w input) (hloads : input.loads = true)
    (hload : FileServiceWatchdogStore.load dateParses format instanceName w.file = .ok loaded)
    (hapi : input.api = some api) (hweb : input.probeWeb api = some web)
    (hdue : nextRecoveryComponent (CycleInput.observe (priorComponents loaded) api web)
      input.options.failureThreshold = some .web) : input.options.web = true := by
  cases htarget : input.options.web with
  | true => rfl
  | false =>
    rw [CycleInput.probeWeb, if_pos htarget] at hweb
    cases hweb
    obtain ⟨left, hleft, hisDue⟩ := next_due hdue
    obtain ⟨_, hprobe, hapiDue⟩ := hkeeps.target htarget loaded hload left hleft hisDue
    cases hapi.symm.trans hprobe
    have hfirst : (CycleInput.observe (priorComponents loaded) api none).api.any
        (isDue input.options.failureThreshold) = true := hapiDue
    rw [nextRecoveryComponent, if_pos hfirst] at hdue
    cases hdue

theorem failed_of_due {k : WatchdogComponent} (htarget : k = .web → input.options.web = true)
    (hweb : input.probeWeb api = some web) {component : WatchdogComponentState dateParses}
    {prior : WatchdogComponents dateParses}
    (hget : (CycleInput.observe prior api web).get k = some component)
    (hfailed : component.lastProbe.phase = .failed) :
    (.probed k .failed : WatchdogEvent dateParses) ∈ probeEvents input api web ∧
      (k = .web → (.probed .api .healthy : WatchdogEvent dateParses) ∈ probeEvents input api web) := by
  cases k with
  | api =>
    cases hget
    rw [lastProbe_update] at hfailed
    refine ⟨?_, fun h => by cases h⟩
    rw [probeEvents, hfailed]
    exact mem_cons_self
  | web =>
    rw [CycleInput.probeWeb, if_neg (by rw [htarget rfl]; decide)] at hweb
    split at hweb
    · rename_i hhealthy
      obtain ⟨_, _, rfl⟩ := map_eq_some_iff.mp hweb
      cases hget
      rw [lastProbe_update] at hfailed
      rw [probeEvents, CycleInput.webEvents, hhealthy, map_some, hfailed]
      exact ⟨by simp, fun _ => mem_cons_self⟩
    · cases hweb
      cases hget
      cases hfailed

theorem rare_cycle (h : Kept format instanceName w) (hkeeps : Keeps format instanceName w input) :
    Rare format instanceName w.past input.options (cycle format instanceName w.file input).2 := by
  have hcycle := cycle_cycles format instanceName w.file input
  have hfits := hkeeps.fits
  generalize cycle format instanceName w.file input = done at hcycle hfits
  have hquiet : (∀ event ∈ done.2, event.isRecovery = false) →
      (∀ state, .saved state ∈ done.2 → state.Stored) →
      Rare format instanceName w.past input.options done.2 := by
    intro hnone hstored
    refine ⟨?_, fun before k after heq => ?_, fun state hstate => ?_⟩
    · rw [countP_eq_zero.mpr fun event hevent => by simp [hnone event hevent]]
      exact Nat.zero_le _
    · have hrecovery := hnone (.recovered k) (by simp [heq])
      cases hrecovery
    · exact ⟨_, load_json.mpr ⟨hfits state hstate, hstored state hstate, rfl⟩⟩
  cases hcycle with
  | idle => exact hquiet (fun _ hevent => by cases hevent) fun _ hstate => by cases hstate
  | stopped =>
    refine hquiet (fun event hevent => ?_) fun state hstate => ?_
    · rw [mem_singleton.mp hevent]
      rfl
    · cases mem_singleton.mp hstate
  | probed loaded api web rest hloads hload hapi hweb hsettles =>
    have hstored := observe_stored h hkeeps hload hapi hweb
    have hprobes : ∀ state : ServiceWatchdogState dateParses,
        .saved state ∉ probeEvents input api web := by
      intro state hmem
      rcases mem_cons.mp hmem with heq | hmem
      · cases heq
      rw [CycleInput.webEvents] at hmem
      split at hmem
      · rw [mem_toList, map_eq_some_iff] at hmem
        obtain ⟨_, _, heq⟩ := hmem
        cases heq
      · cases hmem
    cases hsettles with
    | lost =>
      rw [append_nil] at hquiet ⊢
      exact hquiet isRecovery_probeEvents fun state hstate => absurd hstate (hprobes state)
    | saved hlands state hfollows =>
      refine hquiet (fun event hevent => ?_) fun other hother => ?_
      · rcases mem_append.mp hevent with hprobe | hsaved
        · exact isRecovery_probeEvents event hprobe
        · rw [mem_singleton.mp hsaved]
          rfl
      · rcases mem_append.mp hother with hprobe | hsaved
        · exact absurd hprobe (hprobes other)
        · cases mem_singleton.mp hsaved
          exact hfollows.stored hkeeps hstored
    | recovered hlands k state written rest hrecovered =>
      have hsplit : probeEvents input api web ++ .saved state :: .recovered k :: rest =
          (probeEvents input api web ++ [.saved state]) ++ .recovered k :: rest := by simp
      have hpre : ∀ event ∈ probeEvents input api web ++ [.saved state],
          event.isRecovery = false := by
        intro event hevent
        rcases mem_append.mp hevent with hprobe | hsaved
        · exact isRecovery_probeEvents event hprobe
        · rw [mem_singleton.mp hsaved]
          rfl
      have hpost : ∀ event ∈ rest, event.isRecovery = false := by
        intro event hevent
        rcases hrecovered.rest event hevent with ⟨phase, rfl⟩ | rfl
        · rfl
        · rfl
      refine ⟨?_, fun before k' after heq => ?_, fun other hother => ?_⟩
      · simp only [hsplit]
        rw [countP_append, countP_cons,
          countP_eq_zero.mpr fun event hevent => by simp [hpre event hevent],
          countP_eq_zero.mpr fun event hevent => by simp [hpost event hevent]]
        simp [WatchdogEvent.isRecovery]
      · obtain ⟨rfl, rfl⟩ := recovered_unique hpre hpost (hsplit.symm.trans heq)
        obtain ⟨component, hget, hdue⟩ := next_due hrecovered.due
        rw [isDue, and_eq_true, and_eq_true, decide_eq_true_eq, decide_eq_true_eq,
          not_eq_true'] at hdue
        obtain ⟨⟨hfailed, hcount⟩, hattempted⟩ := hdue
        have hepoch : epoch k' (w.past ++ (probeEvents input api web ++ [.saved state])) =
            epoch k' (w.past ++ probeEvents input api web) := by
          rw [← append_assoc, epoch_append]
          rfl
        have hcovers := observe_covers hweb (h.covers loaded hload) k'
        rw [hget] at hcovers
        obtain ⟨hle, hrested⟩ := hcovers.resolve_left fun hset => by
          have hset : component.recoveryAttempted = true := hset
          rw [hattempted] at hset
          cases hset
        have htarget : k' = .web → input.options.web = true := by
          rintro rfl
          exact target_of_due hkeeps hloads hload hapi hweb hrecovered.due
        obtain ⟨hprobed, hhealthy⟩ := failed_of_due htarget hweb hget hfailed
        refine ⟨htarget, mem_append_left _ hprobed, ?_, fun first last hpast => ?_,
          fun heq => mem_append_left _ (hhealthy heq)⟩
        · rw [hepoch]
          exact Nat.le_trans hcount hle
        have hlast : (epoch k' (first ++ .recovered k' :: last)).rested = true := by
          rw [← hpast, hepoch]
          exact hrested
        exact answered_of_rested hlast
      · refine ⟨_, load_json.mpr ⟨hfits other hother, ?_, rfl⟩⟩
        rcases mem_append.mp hother with hprobe | hother
        · exact absurd hprobe (hprobes other)
        rcases mem_cons.mp hother with heq | hother
        · cases heq
          exact hrecovered.before.stored hkeeps hstored
        rcases mem_cons.mp hother with heq | hother
        · cases heq
        rcases hrecovered.rest _ hother with ⟨phase, heq⟩ | heq
        · cases heq
        · cases heq
          exact hrecovered.after.stored hkeeps hstored

/-- **Recoveries are rare.**  In every run in which no answer of a component is lost while failures
of it are counted, a web server without a target is not left behind with failures, and all results
are well formed, a cycle recovers at most one component, which has just failed for the last of enough
times in a row and has answered since it was recovered before; and what is saved can be loaded. -/
theorem recoveries_rare {cycles : List (CycleInput dateParses)}
    (hmeets : Meets (World.step format instanceName) (Keeps format instanceName) (World.empty dateParses)
      (cycles ++ [input]))
    (hrun : run (World.step format instanceName) (World.empty dateParses) cycles = some w) :
    Rare format instanceName w.past input.options (cycle format instanceName w.file input).2 := by
  have hstart : Kept format instanceName (World.empty dateParses) := by
    refine ⟨(fun value hvalue => by cases hvalue), fun loaded hload k => ?_⟩
    cases hload
    cases k <;> exact .inr ⟨Nat.le_refl _, rfl⟩
  obtain ⟨hfirst, hlast, _⟩ := meets_append hrun hmeets
  have hkept := run_invariant_of_meets (fun _ _ _ h hkeeps hstep => kept_step h hkeeps hstep) hstart
    hfirst hrun
  exact rare_cycle hkept hlast

end

/-! ## Runs that are checked -/

section
variable (format : NumberFormat Rat) (instanceName : JsString) (w : World dateParses)
  (input : CycleInput dateParses)

instance : (k : WatchdogComponent) → Decidable (input.Answered k)
  | .api => inferInstanceAs (Decidable (∃ probe ∈ input.api, _))
  | .web => inferInstanceAs (Decidable (_ ∧ (∃ probe ∈ input.api, _) ∧ ∃ probe ∈ input.web, _))

instance : Decidable input.Writes := inferInstanceAs (Decidable ((∃ api ∈ input.api, _) ∧ _))

def RecoveryCall.isWellFormed : RecoveryCall → Bool
  | .made _ (some recovery) => recovery.durationMs.isDuration
  | _ => true

/-- `Keeps`, by computation. -/
def keepsBy : Bool :=
  ((FileServiceWatchdogStore.load dateParses format instanceName w.file).toOption.all fun loaded =>
    ([.api, .web].all fun k => decide (input.Answered k → input.Writes ∨
      attemptedOf ((priorComponents loaded).get k) = true ∨
        failuresOf ((priorComponents loaded).get k) = 0)) &&
    (input.options.web || !(priorComponents loaded).web.any (isDue input.options.failureThreshold))) &&
  (input.api.all fun probe => probe.component = .api && probe.latencyMs.isDuration) &&
  (input.web.all fun probe => probe.component = .web && probe.latencyMs.isDuration) &&
  input.call.isWellFormed &&
  (cycle format instanceName w.file input).2.all fun
    | .saved state => decide (privateJsonBytes format (state.json instanceName) ≤ MAX_WATCHDOG_STATE_BYTES)
    | _ => true

variable {format instanceName w input}

theorem keeps_of_by (h : keepsBy format instanceName w input = true) :
    Keeps format instanceName w input := by
  rw [keepsBy, and_eq_true, and_eq_true, and_eq_true, and_eq_true,
    Option.all_eq_true, Option.all_eq_true, Option.all_eq_true, List.all_eq_true] at h
  obtain ⟨⟨⟨⟨hloaded, hapi⟩, hweb⟩, hcall⟩, hsaved⟩ := h
  have htoOption : ∀ loaded, FileServiceWatchdogStore.load dateParses format instanceName w.file =
      .ok loaded → (FileServiceWatchdogStore.load dateParses format instanceName w.file).toOption =
        some loaded := by
    intro loaded hload
    rw [hload]
    rfl
  refine ⟨fun _ loaded hload k hanswered => ?_, fun htarget loaded hload left hleft hdue => ?_,
    fun probe hprobe => ?_, fun probe hprobe => ?_, fun polls recovery heq => ?_, fun state hstate => ?_⟩
  · have hcheck := hloaded loaded (htoOption loaded hload)
    rw [and_eq_true, List.all_eq_true] at hcheck
    have hk := hcheck.1 k (by cases k <;> simp)
    exact of_decide_eq_true hk hanswered
  · have hcheck := hloaded loaded (htoOption loaded hload)
    rw [and_eq_true, htarget, Bool.false_or, not_eq_true'] at hcheck
    have hany : (priorComponents loaded).web.any (isDue input.options.failureThreshold) = true :=
      (Option.any_eq_true _ _).mpr ⟨left, hleft, hdue⟩
    rw [hcheck.2] at hany
    cases hany
  · have hcheck := hapi probe hprobe
    rw [and_eq_true, decide_eq_true_eq] at hcheck
    exact hcheck
  · have hcheck := hweb probe hprobe
    rw [and_eq_true, decide_eq_true_eq] at hcheck
    exact hcheck
  · rw [heq] at hcall
    exact hcall
  · exact of_decide_eq_true (hsaved _ hstate)

end

end

/-- Numbers that are natural. -/
def naturalFormat : NumberFormat Rat := wholeNumbers

/-- The clock stands still. -/
def epochParses (s : JsString) : Bool := s = text "1970-01-01T00:00:00.000Z"

def epochTime : Timestamp epochParses := ⟨text "1970-01-01T00:00:00.000Z", by decide⟩

def exampleProbe (component : WatchdogComponent) (phase : WatchdogProbePhase) : WatchdogProbeResult :=
  ⟨component, phase, .finite 1, none, none⟩

/-- A cycle whose saves are done and whose supervisor answers. -/
def exampleCycle (options : ServiceWatchdogOptions) (api web : WatchdogProbePhase) :
    CycleInput epochParses where
  options
  loads := true
  times := ⟨epochTime, epochTime, epochTime, epochTime, epochTime⟩
  api := some (exampleProbe .api api)
  web := some (exampleProbe .web web)
  save := .done
  call := .made [] (some ⟨true, .systemd, false, .finite 1, none⟩)
  last := .done

/-- The API fails twice. -/
def failingCycle : CycleInput epochParses := exampleCycle ⟨2, Nat.two_pos, true⟩ .failed .healthy

theorem recoveries_rare_failing :
    ∃ w, run (World.step naturalFormat (text "work")) (World.empty epochParses) [failingCycle] = some w ∧
      (cycle naturalFormat (text "work") w.file failingCycle).2.countP WatchdogEvent.isRecovery = 1 ∧
      Rare naturalFormat (text "work") w.past failingCycle.options
        (cycle naturalFormat (text "work") w.file failingCycle).2 := by
  refine exists_some_and (by decide +kernel) fun w hw _ => ?_
  have hmeets : Meets (World.step naturalFormat (text "work"))
      (fun w input => keepsBy naturalFormat (text "work") w input = true) (World.empty epochParses)
      [failingCycle, failingCycle] := by
    decide +kernel
  exact recoveries_rare (meets_weaken (fun _ _ => keeps_of_by) hmeets) hw

/-! ## A web server that is left behind -/

/-- The web server fails once, and its target is removed. -/
def leftCycles : CycleInput epochParses × CycleInput epochParses :=
  (exampleCycle ⟨2, Nat.two_pos, true⟩ .healthy .failed, exampleCycle ⟨1, Nat.one_pos, false⟩ .healthy .healthy)

theorem web_recovered_unconfigured :
    ∃ w, run (World.step naturalFormat (text "work")) (World.empty epochParses) [leftCycles.1] = some w ∧
      ¬Rare naturalFormat (text "work") w.past leftCycles.2.options
        (cycle naturalFormat (text "work") w.file leftCycles.2).2 := by
  have hrun : (run (World.step naturalFormat (text "work")) (World.empty epochParses)
      [leftCycles.1]).any (fun w =>
        (cycle naturalFormat (text "work") w.file leftCycles.2).2.any fun
          | .recovered .web => true
          | _ => false) = true := by
    decide +kernel
  obtain ⟨w, hw, hevents⟩ := (Option.any_eq_true _ _).mp hrun
  obtain ⟨_, hmem, hevent⟩ := List.any_eq_true.mp hevents
  refine ⟨w, hw, fun hrare => ?_⟩
  split at hevent
  · obtain ⟨before, after, heq⟩ := append_of_mem hmem
    have htarget := (hrare.recovers before .web after heq).target rfl
    cases htarget
  · cases hevent

end PiDaemon.Watchdog
