import PiDaemon.Durability.PrivateFile
import PiDaemon.Lib.Checks
import Mathlib.Data.Option.Basic

/-!
# The state of the service watchdog

What `ServiceWatchdog` keeps between its cycles, the file that it is kept in, and what
`parseWatchdogState` reads from a file.  A file is given by its JSON; a number in it is a rational,
and `NaN` and the infinities are written as null.

A phase or a supervisor is a string here: `String(value)` also lets through an array of one.

* `parseWatchdogState_json`: a state is read again as it is when its probes and recoveries are well
  formed, and is refused otherwise.
-/

namespace PiDaemon.Watchdog

open Lib Durability Option

/-- `Number.MAX_SAFE_INTEGER` -/
def MAX_SAFE_INTEGER : Nat := 9007199254740991

def WATCHDOG_SCHEMA_VERSION : Rat := 1

def MAX_WATCHDOG_STATE_BYTES : Nat := 64 * 1024

inductive WatchdogComponent where
  | api
  | web
  deriving DecidableEq

inductive WatchdogProbePhase where
  | healthy
  | degraded
  | failed
  | blocked
  deriving DecidableEq

inductive WatchdogPhase where
  | healthy
  | degraded
  | recovering
  deriving DecidableEq

inductive WatchdogSupervisor where
  | launchd
  | systemd
  | supervisord
  deriving DecidableEq

inductive JsNumber where
  | finite (q : Rat)
  | nonFinite
  deriving DecidableEq

structure WatchdogProbeResult where
  component : WatchdogComponent
  phase : WatchdogProbePhase
  latencyMs : JsNumber
  statusCode : Option JsNumber
  errorCode : Option JsString
  deriving DecidableEq

structure WatchdogRecoveryResult where
  ok : Bool
  supervisor : WatchdogSupervisor
  escalated : Bool
  durationMs : JsNumber
  errorCode : Option JsString
  deriving DecidableEq

/-- A text that `toISOString` gives: `Date.parse` reads it. -/
abbrev Timestamp (dateParses : JsString → Bool) := { s : JsString // dateParses s = true }

/-- The `lastRecovery` of a component. -/
structure RecordedRecovery (dateParses : JsString → Bool) extends WatchdogRecoveryResult where
  attemptedAt : Timestamp dateParses
  deriving DecidableEq

/-- A count of failures that is a safe integer. -/
abbrev SafeCount := { n : Nat // n ≤ MAX_SAFE_INTEGER }

structure WatchdogComponentState (dateParses : JsString → Bool) where
  consecutiveFailures : SafeCount
  recoveryAttempted : Bool
  lastProbe : WatchdogProbeResult
  lastRecovery : Option (RecordedRecovery dateParses)
  deriving DecidableEq

structure WatchdogComponents (dateParses : JsString → Bool) where
  api : Option (WatchdogComponentState dateParses)
  web : Option (WatchdogComponentState dateParses)
  deriving DecidableEq

structure ServiceWatchdogState (dateParses : JsString → Bool) where
  phase : WatchdogPhase
  updatedAt : Timestamp dateParses
  components : WatchdogComponents dateParses
  deriving DecidableEq

section
variable {dateParses : JsString → Bool}

namespace WatchdogComponents

def get (components : WatchdogComponents dateParses) :
    WatchdogComponent → Option (WatchdogComponentState dateParses)
  | .api => components.api
  | .web => components.web

def set (components : WatchdogComponents dateParses) (value : WatchdogComponentState dateParses) :
    WatchdogComponent → WatchdogComponents dateParses
  | .api => { components with api := some value }
  | .web => { components with web := some value }

@[simp] theorem get_set (components : WatchdogComponents dateParses)
    (value : WatchdogComponentState dateParses) (c k : WatchdogComponent) :
    (components.set value c).get k = if c = k then some value else components.get k := by
  cases c <;> cases k <;> rfl

theorem set_set (components : WatchdogComponents dateParses)
    (first second : WatchdogComponentState dateParses) (c : WatchdogComponent) :
    (components.set first c).set second c = components.set second c := by
  cases c <;> rfl

end WatchdogComponents

/-! ## JSON -/

def WatchdogComponent.name : WatchdogComponent → String
  | .api => "api"
  | .web => "web"

def WatchdogProbePhase.name : WatchdogProbePhase → String
  | .healthy => "healthy"
  | .degraded => "degraded"
  | .failed => "failed"
  | .blocked => "blocked"

def WatchdogPhase.name : WatchdogPhase → String
  | .healthy => "healthy"
  | .degraded => "degraded"
  | .recovering => "recovering"

def WatchdogSupervisor.name : WatchdogSupervisor → String
  | .launchd => "launchd"
  | .systemd => "systemd"
  | .supervisord => "supervisord"

def nameJson (name : String) : JsValue Rat := .string (text name)

def JsNumber.json : JsNumber → JsValue Rat
  | .finite q => .number q
  | .nonFinite => .null

def WatchdogProbeResult.json (probe : WatchdogProbeResult) : JsValue Rat :=
  .object <|
    .cons (text "component") (nameJson probe.component.name) <|
    .cons (text "phase") (nameJson probe.phase.name) <|
    .cons (text "latencyMs") probe.latencyMs.json <|
    optionMember "statusCode" (probe.statusCode.map JsNumber.json) <|
    optionMember "errorCode" (probe.errorCode.map .string) .nil

def RecordedRecovery.json (recovery : RecordedRecovery dateParses) : JsValue Rat :=
  .object <|
    .cons (text "ok") (.boolean recovery.ok) <|
    .cons (text "supervisor") (nameJson recovery.supervisor.name) <|
    .cons (text "escalated") (.boolean recovery.escalated) <|
    .cons (text "durationMs") recovery.durationMs.json <|
    optionMember "errorCode" (recovery.errorCode.map .string) <|
    .cons (text "attemptedAt") (.string recovery.attemptedAt) .nil

def WatchdogComponentState.json (component : WatchdogComponentState dateParses) : JsValue Rat :=
  .object <|
    .cons (text "consecutiveFailures") (.number (component.consecutiveFailures : Nat)) <|
    .cons (text "recoveryAttempted") (.boolean component.recoveryAttempted) <|
    .cons (text "lastProbe") component.lastProbe.json <|
    optionMember "lastRecovery" (component.lastRecovery.map RecordedRecovery.json) .nil

def WatchdogComponents.json (components : WatchdogComponents dateParses) : JsValue Rat :=
  .object <|
    optionMember "api" (components.api.map WatchdogComponentState.json) <|
    optionMember "web" (components.web.map WatchdogComponentState.json) .nil

def ServiceWatchdogState.json (instanceName : JsString) (state : ServiceWatchdogState dateParses) :
    JsValue Rat :=
  .object <|
    .cons (text "schemaVersion") (.number WATCHDOG_SCHEMA_VERSION) <|
    .cons (text "instance") (.string instanceName) <|
    .cons (text "phase") (nameJson state.phase.name) <|
    .cons (text "updatedAt") (.string state.updatedAt) <|
    .cons (text "components") state.components.json .nil

/-! ## Reading -/

def isRecord : JsValue Rat → Bool
  | .object _ => true
  | _ => false

def booleanOf : JsValue Rat → Option Bool
  | .boolean b => some b
  | _ => none

def numberOf : JsValue Rat → Option Rat
  | .number q => some q
  | _ => none

def stringOf : JsValue Rat → Option JsString
  | .string s => some s
  | _ => none

/-- The one of these whose name is the string. -/
def oneOf {A : Type} (all : List A) (name : A → String) (value : JsValue Rat) : Option A :=
  (stringOf value).bind fun s => all.find? fun a => text (name a) = s

/-- A finite number that is not negative. -/
def durationOf (value : JsValue Rat) : Option Rat := (numberOf value).filter fun q => 0 ≤ q

/-- A safe integer that is not negative. -/
def countOf (value : JsValue Rat) : Option SafeCount :=
  (numberOf value).bind fun q =>
    if h : q.den = 1 ∧ 0 ≤ q.num ∧ q.num.toNat ≤ MAX_SAFE_INTEGER then some ⟨q.num.toNat, h.2.2⟩
    else none

/-- A string that `Date.parse` reads. -/
def timestampOf (dateParses : JsString → Bool) (value : JsValue Rat) : Option (Timestamp dateParses) :=
  (stringOf value).bind fun s => if h : dateParses s = true then some ⟨s, h⟩ else none

/-- Throws unless all checks of a record have passed. -/
def orThrow {A : Type} (checked : Option A) (message : String) : Except String A :=
  match checked with
  | some a => .ok a
  | none => .error message

def parseProbe (value : JsValue Rat) (component : WatchdogComponent) :
    Except String WatchdogProbeResult :=
  orThrow (do
    guard (stringOf (value.member "component") = some (text component.name))
    let phase ← oneOf [.healthy, .degraded, .failed, .blocked] WatchdogProbePhase.name
      (value.member "phase")
    let latencyMs ← durationOf (value.member "latencyMs")
    return {
      component
      phase
      latencyMs := .finite latencyMs
      statusCode := (numberOf (value.member "statusCode")).map .finite
      errorCode := stringOf (value.member "errorCode") })
    "service watchdog probe state is invalid"

variable (dateParses) in
def parseRecovery (value : JsValue Rat) : Except String (RecordedRecovery dateParses) :=
  orThrow (do
    let ok ← booleanOf (value.member "ok")
    let supervisor ← oneOf [.launchd, .systemd, .supervisord] WatchdogSupervisor.name
      (value.member "supervisor")
    let escalated ← booleanOf (value.member "escalated")
    let durationMs ← durationOf (value.member "durationMs")
    let attemptedAt ← timestampOf dateParses (value.member "attemptedAt")
    return {
      ok
      supervisor
      escalated
      durationMs := .finite durationMs
      attemptedAt
      errorCode := stringOf (value.member "errorCode") })
    "service watchdog recovery state is invalid"

/-- A member that may be absent. -/
def ifPresent {A : Type} (read : JsValue Rat → Except String A) : JsValue Rat → Except String (Option A)
  | .undefined => .ok none
  | value => (read value).map some

variable (dateParses) in
def parseComponentState (component : WatchdogComponent) (value : JsValue Rat) :
    Except String (WatchdogComponentState dateParses) := do
  let counters ← orThrow (do
    let consecutiveFailures ← countOf (value.member "consecutiveFailures")
    let recoveryAttempted ← booleanOf (value.member "recoveryAttempted")
    return (consecutiveFailures, recoveryAttempted))
    "service watchdog component counters are invalid"
  let lastProbe ← parseProbe (value.member "lastProbe") component
  let lastRecovery ← ifPresent (parseRecovery dateParses) (value.member "lastRecovery")
  return {
    consecutiveFailures := counters.1
    recoveryAttempted := counters.2
    lastProbe
    lastRecovery }

variable (dateParses) in
def parseWatchdogState (instanceName : JsString) (value : JsValue Rat) :
    Except String (ServiceWatchdogState dateParses) := do
  check (numberOf (value.member "schemaVersion") = some WATCHDOG_SCHEMA_VERSION &&
    stringOf (value.member "instance") = some instanceName)
    "service watchdog state identity is invalid"
  let phase ← orThrow
    (oneOf [.healthy, .degraded, .recovering] WatchdogPhase.name (value.member "phase"))
    "service watchdog state phase is invalid"
  let updatedAt ← orThrow (timestampOf dateParses (value.member "updatedAt"))
    "service watchdog state timestamp is invalid"
  let components := value.member "components"
  check (isRecord components) "service watchdog component state is invalid"
  let api ← ifPresent (parseComponentState dateParses .api) (components.member "api")
  let web ← ifPresent (parseComponentState dateParses .web) (components.member "web")
  return { phase, updatedAt, components := { api, web } }

/-! ## Reading a state again -/

def JsNumber.isDuration : JsNumber → Bool
  | .finite q => 0 ≤ q
  | .nonFinite => false

/-- A status code that is not finite is not read again. -/
def WatchdogProbeResult.kept (probe : WatchdogProbeResult) : WatchdogProbeResult :=
  { probe with statusCode := probe.statusCode.filter fun n => n ≠ .nonFinite }

def WatchdogComponentState.kept (component : WatchdogComponentState dateParses) :
    WatchdogComponentState dateParses :=
  { component with lastProbe := component.lastProbe.kept }

/-- The last probe is one of the component, and all durations are finite and not negative. -/
structure WatchdogComponentState.Stored (k : WatchdogComponent)
    (state : WatchdogComponentState dateParses) : Prop where
  component : state.lastProbe.component = k
  latency : state.lastProbe.latencyMs.isDuration = true
  duration : ∀ recovery ∈ state.lastRecovery, recovery.durationMs.isDuration = true

theorem durationOf_json {n : JsNumber} {q : Rat} :
    durationOf n.json = some q ↔ n.isDuration = true ∧ n = .finite q := by
  cases n with
  | nonFinite => simp [durationOf, JsNumber.json, numberOf, JsNumber.isDuration]
  | finite r =>
    simp only [durationOf, JsNumber.json, numberOf, JsNumber.isDuration, filter_eq_some_iff,
      Option.some.injEq, decide_eq_true_eq, JsNumber.finite.injEq]
    constructor
    · rintro ⟨rfl, h⟩
      exact ⟨h, rfl⟩
    · rintro ⟨h, rfl⟩
      exact ⟨rfl, h⟩

theorem countOf_json (n : SafeCount) : countOf (.number (n.1 : Rat)) = some n := by
  have hden : ((n.1 : Nat) : Rat).den = 1 := Rat.den_natCast _
  have hnum : ((n.1 : Nat) : Rat).num = n.1 := Rat.num_natCast _
  have hsafe : ((n.1 : Nat) : Rat).den = 1 ∧ 0 ≤ ((n.1 : Nat) : Rat).num ∧
      ((n.1 : Nat) : Rat).num.toNat ≤ MAX_SAFE_INTEGER := by
    refine ⟨hden, ?_, ?_⟩
    · exact Int.natCast_nonneg _
    · exact n.2
  rw [countOf, numberOf, bind_some, dif_pos hsafe]
  congr 1

theorem timestampOf_json (s : Timestamp dateParses) :
    timestampOf dateParses (.string s.1) = some s := by
  simp [timestampOf, stringOf, s.2]

theorem orThrow_ok {A : Type} {checked : Option A} {message : String} {a : A} :
    orThrow checked message = .ok a ↔ checked = some a := by
  cases checked <;> simp [orThrow]

/-! The members of each record. -/

section
variable (probe : WatchdogProbeResult)

theorem probe_component : probe.json.member "component" = nameJson probe.component.name := rfl

theorem probe_phase : probe.json.member "phase" = nameJson probe.phase.name := rfl

theorem probe_latencyMs : probe.json.member "latencyMs" = probe.latencyMs.json := rfl

theorem probe_statusCode : (numberOf (probe.json.member "statusCode")).map .finite =
    probe.statusCode.filter fun n => n ≠ .nonFinite := by
  obtain ⟨_, _, _, statusCode, errorCode⟩ := probe
  cases statusCode with
  | none => cases errorCode <;> rfl
  | some n => cases n <;> cases errorCode <;> rfl

theorem probe_errorCode : stringOf (probe.json.member "errorCode") = probe.errorCode := by
  obtain ⟨_, _, _, statusCode, errorCode⟩ := probe
  cases statusCode <;> cases errorCode <;> rfl

end

theorem oneOf_probePhase (phase : WatchdogProbePhase) :
    oneOf [.healthy, .degraded, .failed, .blocked] WatchdogProbePhase.name (nameJson phase.name) =
      some phase := by
  cases phase <;> decide

theorem oneOf_phase (phase : WatchdogPhase) :
    oneOf [.healthy, .degraded, .recovering] WatchdogPhase.name (nameJson phase.name) = some phase := by
  cases phase <;> decide

theorem oneOf_supervisor (supervisor : WatchdogSupervisor) :
    oneOf [.launchd, .systemd, .supervisord] WatchdogSupervisor.name (nameJson supervisor.name) =
      some supervisor := by
  cases supervisor <;> decide

theorem componentName_inj {c k : WatchdogComponent} (h : text c.name = text k.name) : c = k := by
  revert h
  cases c <;> cases k <;> decide

theorem parseProbe_json {probe read : WatchdogProbeResult} {component : WatchdogComponent} :
    parseProbe probe.json component = .ok read ↔
      (probe.component = component ∧ probe.latencyMs.isDuration = true) ∧ read = probe.kept := by
  rw [parseProbe, orThrow_ok, probe_component, probe_phase, probe_latencyMs, probe_statusCode,
    probe_errorCode, oneOf_probePhase]
  simp only [nameJson, stringOf, bind_eq_bind, bind_eq_some_iff, guard_eq_some',
    Option.some.injEq, exists_eq_left', durationOf_json, pure_def, exists_const]
  constructor
  · rintro ⟨hname, q, ⟨hduration, hq⟩, rfl⟩
    obtain rfl := componentName_inj hname
    refine ⟨⟨rfl, hduration⟩, ?_⟩
    rw [WatchdogProbeResult.kept, ← hq]
  · rintro ⟨⟨rfl, hduration⟩, rfl⟩
    obtain ⟨_, _, latencyMs, _, _⟩ := probe
    cases latencyMs with
    | finite q => exact ⟨rfl, q, ⟨hduration, rfl⟩, rfl⟩
    | nonFinite => cases hduration

theorem recovery_errorCode (recovery : RecordedRecovery dateParses) :
    stringOf (recovery.json.member "errorCode") = recovery.errorCode := by
  obtain ⟨⟨_, _, _, _, errorCode⟩, _⟩ := recovery
  cases errorCode <;> rfl

theorem recovery_attemptedAt (recovery : RecordedRecovery dateParses) :
    recovery.json.member "attemptedAt" = .string recovery.attemptedAt := by
  obtain ⟨⟨_, _, _, _, errorCode⟩, _⟩ := recovery
  cases errorCode <;> rfl

theorem parseRecovery_json {recovery read : RecordedRecovery dateParses} :
    parseRecovery dateParses recovery.json = .ok read ↔
      recovery.durationMs.isDuration = true ∧ read = recovery := by
  have hok : recovery.json.member "ok" = .boolean recovery.ok := rfl
  have hsupervisor : recovery.json.member "supervisor" = nameJson recovery.supervisor.name := rfl
  have hescalated : recovery.json.member "escalated" = .boolean recovery.escalated := rfl
  have hdurationMs : recovery.json.member "durationMs" = recovery.durationMs.json := rfl
  rw [parseRecovery, orThrow_ok, hok, hsupervisor, hescalated, hdurationMs, recovery_errorCode,
    recovery_attemptedAt, oneOf_supervisor, timestampOf_json]
  simp only [booleanOf, bind_eq_bind, bind_some, bind_eq_some_iff,
    pure_def, durationOf_json, Option.some.injEq]
  obtain ⟨⟨ok, supervisor, escalated, durationMs, _⟩, _⟩ := recovery
  constructor
  · rintro ⟨q, ⟨hduration, hq⟩, rfl⟩
    cases hq
    exact ⟨hduration, rfl⟩
  · rintro ⟨hduration, rfl⟩
    cases durationMs with
    | finite q => exact ⟨q, ⟨hduration, rfl⟩, rfl⟩
    | nonFinite => cases hduration

theorem ifPresent_map {A B : Type} {read : JsValue Rat → Except String A} {write : B → JsValue Rat}
    {value : Option B} {found : Option A} (hrecord : ∀ b, isRecord (write b) = true) :
    ifPresent read ((value.map write).getD .undefined) = .ok found ↔
      (value = none ∧ found = none) ∨
        ∃ b a, value = some b ∧ found = some a ∧ read (write b) = .ok a := by
  cases value with
  | none => simp [ifPresent, eq_comm]
  | some b =>
    have hsome : ifPresent read (write b) = (read (write b)).map some := by
      have hb := hrecord b
      cases hwritten : write b <;> rw [hwritten] at hb <;> first | rfl | cases hb
    rw [map_some, getD_some, hsome]
    cases hread : read (write b) with
    | error message => simp [Except.map, hread]
    | ok a => simp [Except.map, hread, eq_comm]

theorem parseComponentState_json {k : WatchdogComponent} {state read : WatchdogComponentState dateParses} :
    parseComponentState dateParses k state.json = .ok read ↔ state.Stored k ∧ read = state.kept := by
  have hcount : state.json.member "consecutiveFailures" =
      .number (state.consecutiveFailures : Nat) := rfl
  have hattempted : state.json.member "recoveryAttempted" = .boolean state.recoveryAttempted := rfl
  have hprobe : state.json.member "lastProbe" = state.lastProbe.json := rfl
  have hrecovery : state.json.member "lastRecovery" =
      (state.lastRecovery.map RecordedRecovery.json).getD .undefined := by
    obtain ⟨_, _, _, lastRecovery⟩ := state
    cases lastRecovery <;> rfl
  rw [parseComponentState, hcount, hattempted, hprobe, hrecovery, countOf_json]
  simp only [booleanOf, bind_eq_bind, bind_some, bind_ok, orThrow_ok,
    Option.some.injEq, exists_eq_left', parseProbe_json, pure, Except.pure, Except.ok.injEq,
    ifPresent_map fun recovery : RecordedRecovery dateParses => (rfl : isRecord recovery.json = true),
    parseRecovery_json]
  obtain ⟨_, _, _, recovery⟩ := state
  constructor
  · rintro ⟨_, ⟨⟨hcomponent, hlatency⟩, rfl⟩, _, hfound, rfl⟩
    rcases hfound with ⟨hnone, rfl⟩ | ⟨_, _, hsome, rfl, hduration, rfl⟩
    · refine ⟨⟨hcomponent, hlatency, fun recovery hmem => ?_⟩, ?_⟩
      · rw [hnone] at hmem
        cases hmem
      · rw [WatchdogComponentState.kept, hnone]
    · refine ⟨⟨hcomponent, hlatency, fun recovery hmem => ?_⟩, ?_⟩
      · rw [hsome] at hmem
        cases hmem
        exact hduration
      · rw [WatchdogComponentState.kept, hsome]
  · rintro ⟨⟨hcomponent, hlatency, hduration⟩, rfl⟩
    refine ⟨_, ⟨⟨hcomponent, hlatency⟩, rfl⟩, recovery, ?_, rfl⟩
    cases recovery with
    | none => exact .inl ⟨rfl, rfl⟩
    | some recovery => exact .inr ⟨recovery, recovery, rfl, rfl, hduration recovery rfl, rfl⟩

/-- A state that is read again. -/
def ServiceWatchdogState.Stored (state : ServiceWatchdogState dateParses) : Prop :=
  ∀ k, ∀ component ∈ state.components.get k, component.Stored k

def ServiceWatchdogState.kept (state : ServiceWatchdogState dateParses) :
    ServiceWatchdogState dateParses :=
  { state with
    components :=
      ⟨state.components.api.map WatchdogComponentState.kept,
        state.components.web.map WatchdogComponentState.kept⟩ }

theorem ServiceWatchdogState.get_kept (state : ServiceWatchdogState dateParses) (k : WatchdogComponent) :
    state.kept.components.get k = (state.components.get k).map WatchdogComponentState.kept := by
  cases k <;> rfl

/-- A state is read again exactly when its probes and recoveries are well formed. -/
theorem parseWatchdogState_json {instanceName : JsString} {state read : ServiceWatchdogState dateParses} :
    parseWatchdogState dateParses instanceName (state.json instanceName) = .ok read ↔
      state.Stored ∧ read = state.kept := by
  have hversion : (state.json instanceName).member "schemaVersion" = .number WATCHDOG_SCHEMA_VERSION :=
    rfl
  have hinstance : (state.json instanceName).member "instance" = .string instanceName := rfl
  have hphase : (state.json instanceName).member "phase" = nameJson state.phase.name := rfl
  have hupdated : (state.json instanceName).member "updatedAt" = .string state.updatedAt := rfl
  have hcomponents : (state.json instanceName).member "components" = state.components.json := rfl
  have hrecord : isRecord state.components.json = true := rfl
  have hapi : state.components.json.member "api" =
      (state.components.api.map WatchdogComponentState.json).getD .undefined := by
    obtain ⟨_, _, ⟨api, web⟩⟩ := state
    cases api <;> cases web <;> rfl
  have hweb : state.components.json.member "web" =
      (state.components.web.map WatchdogComponentState.json).getD .undefined := by
    obtain ⟨_, _, ⟨api, web⟩⟩ := state
    cases api <;> cases web <;> rfl
  have hpresent : ∀ {k : WatchdogComponent} {value found : Option (WatchdogComponentState dateParses)},
      ifPresent (parseComponentState dateParses k)
        ((value.map WatchdogComponentState.json).getD .undefined) = .ok found ↔
      (∀ component ∈ value, component.Stored k) ∧ found = value.map WatchdogComponentState.kept := by
    intro k value found
    rw [ifPresent_map fun component : WatchdogComponentState dateParses =>
      (rfl : isRecord component.json = true)]
    cases value with
    | none => simp
    | some component => simp [parseComponentState_json, and_comm]
  rw [parseWatchdogState, hphase, hupdated]
  simp only [hcomponents, hrecord, hapi, hweb, oneOf_phase, timestampOf_json, orThrow, bind_ok, check_ok,
    hpresent, pure, Except.pure, Except.ok.injEq]
  constructor
  · rintro ⟨_, _, phase, rfl, updatedAt, rfl, _, _, api, ⟨hstoredApi, rfl⟩, web, ⟨hstoredWeb, rfl⟩, rfl⟩
    refine ⟨fun k => ?_, rfl⟩
    cases k with
    | api => exact hstoredApi
    | web => exact hstoredWeb
  · rintro ⟨hstored, rfl⟩
    have hidentity : (numberOf (.number WATCHDOG_SCHEMA_VERSION) = some WATCHDOG_SCHEMA_VERSION &&
        stringOf (.string instanceName) = some instanceName) = true := by
      simp [numberOf, stringOf]
    exact ⟨(), hidentity, _, rfl, _, rfl, (), trivial, _, ⟨hstored .api, rfl⟩, _, ⟨hstored .web, rfl⟩, rfl⟩

end

end PiDaemon.Watchdog
