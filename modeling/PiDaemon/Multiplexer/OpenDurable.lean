import Mathlib.Data.List.Basic
import PiDaemon.Multiplexer.LockInvariant

/-!
# What a failed open leaves on disk

`open` writes the generation of a session into two files, the catalog record and
the runtime manifest, and `recover` refuses a session whose files disagree.  Here
one open runs on the machine of the lifecycle, alone, over its state directory,
and one of its awaits may throw or be cut by a crash.

* `openRun_run`: the host of such a run is one that the machine reaches;
* `openRun_settled`: it comes to its end;
* `openRun_generations`: what the two files hold then;
* `open_keeps_generations`: the files agree exactly when the open does not stop
  between its two writes of a new generation.
-/

namespace PiDaemon.Multiplexer

open Lib OrderedMap

/-! ## The conversation -/

structure SessionConversationIdentity where
  sessionId : JsString
  sessionFile : Option JsString
  deriving DecidableEq

/-- `isAbsolute(path) && resolve(path) === path` -/
def isCanonicalPath (path : JsString) : Bool :=
  path == [47] ||
    match path.splitOn 47 with
    | [] :: segments =>
      segments ≠ [] && segments.all fun segment => segment ∉ [[], [46], [46, 46]]
    | _ => false

def validateOpenedConversation (identity : Option SessionConversationIdentity)
    (targetMode : SessionTargetMode) (required : Bool) :
    Except ErrorCode (Option SessionConversationIdentity) :=
  match identity with
  | none => if required then .error .conversationIdentityMissing else .ok none
  | some identity =>
    if identity.sessionId.length = 0 then .error .conversationIdentityInvalid
    else if identity.sessionFile.any fun file => !isCanonicalPath file then
      .error .conversationIdentityInvalid
    else if targetMode = .memory ∧ identity.sessionFile.isSome then
      .error .conversationIdentityInvalid
    else if targetMode ≠ .memory ∧ required ∧ identity.sessionFile.isNone then
      .error .conversationIdentityMissing
    else .ok (some identity)

/-- What an open meets besides its command. -/
structure OpenInput where
  /-- `runtimeOptions.persistedSpec.target.mode` -/
  runtimeMode : Option SessionTargetMode
  /-- `adapter.identity()` -/
  identity : Option SessionConversationIdentity
  deriving DecidableEq

namespace OpenInput

/-- `runtimeOptionsForOpen?.persistedSpec.target.mode ?? command.payload.session.mode` -/
def targetMode (input : OpenInput) (command : OpenCommand)
    (retained : Option SessionCatalogRecord) : SessionTargetMode :=
  match input.runtimeMode with
  | none => command.mode
  | some mode =>
    -- `runtimeOptionsForRetainedConversation`
    if retained.any fun record =>
      record.generation = command.generation && record.sessionFile.isSome then .open
    else mode

def conversation (input : OpenInput) (command : OpenCommand)
    (retained : Option SessionCatalogRecord) : Except ErrorCode (Option SessionConversationIdentity) :=
  validateOpenedConversation input.identity (input.targetMode command retained) true

/-- How the call that the open awaits settles when nothing fails. -/
def answer (input : OpenInput) (command : OpenCommand) (x : LifecycleOp) : LifecycleAnswer :=
  match x.pc with
  | .openController =>
    match input.conversation command x.retained with
    | .error code => .error code
    | .ok identity => .conversation (identity.bind fun identity => identity.sessionFile)
  | _ => .ok

end OpenInput

/-! ## The state directory -/

structure SessionManifest where
  generation : Nat
  toolAdapter : Option DurableToolAdapterSummary
  /-- `conversation.sessionFile` -/
  sessionFile : Option JsString
  deriving DecidableEq

structure StateDir where
  records : OrderedMap SessionId SessionCatalogRecord
  manifests : OrderedMap SessionId SessionManifest

namespace StateDir

/-- `FileDurabilityStore.saveManifest`; a conversation without a session file has no manifest. -/
def saveManifest (dir : StateDir) (command : OpenCommand) (conversation : Option (Option JsString)) :
    StateDir :=
  match conversation with
  | some none => { dir with manifests := dir.manifests.delete command.sessionId }
  | _ =>
    { dir with
      manifests := dir.manifests.set command.sessionId
        { generation := command.generation, toolAdapter := command.toolAdapter,
          sessionFile := conversation.join } }

def writeRecord (dir : StateDir) (sessionId : SessionId) (record : SessionCatalogRecord) : StateDir :=
  { dir with records := dir.records.set sessionId record }

def recordGeneration (dir : StateDir) (sessionId : SessionId) : Option Nat :=
  (dir.records.get? sessionId).map fun record => record.generation

def manifestGeneration (dir : StateDir) (sessionId : SessionId) : Option Nat :=
  (dir.manifests.get? sessionId).map fun manifest => manifest.generation

end StateDir

/-- The check of `recover`; a session without a manifest is passed over. -/
def mismatch : Option Nat → Option Nat → Bool
  | some record, some manifest => manifest ≠ record
  | _, _ => false

/-- `recover` reports `manifest_generation_mismatch` for the session. -/
def StateDir.generationMismatch (dir : StateDir) (sessionId : SessionId) : Bool :=
  mismatch (dir.recordGeneration sessionId) (dir.manifestGeneration sessionId)

/-! ## One fault -/

/-- The awaits of an open that can fail. -/
inductive OpenStep where
  | dispose | reprovision | factory | rpcController | catalog | manifest
  deriving DecidableEq

def LifecyclePc.openStep : LifecyclePc → Option OpenStep
  | .openDispose => some .dispose
  | .openReprovision => some .reprovision
  | .openFactory => some .factory
  | .openController => some .rpcController
  | .openCatalog => some .catalog
  | .openManifest => some .manifest
  | _ => none

/-- How an await ends; `landed` says that the file has been replaced all the same. -/
inductive Outcome where
  | settles
  | throws (landed : Bool) (code : ErrorCode)
  | crashes (landed : Bool)
  deriving DecidableEq

def Outcome.lands : Outcome → Bool
  | .settles => true
  | .throws landed _ => landed
  | .crashes landed => landed

def Outcome.isThrow : Outcome → Bool
  | .throws _ _ => true
  | _ => false

structure Fault where
  step : OpenStep
  outcome : Outcome
  deriving DecidableEq

def Fault.outcomeAt (fault : Fault) (pc : LifecyclePc) : Outcome :=
  if pc.openStep = some fault.step then fault.outcome else .settles

/-! ## The run of one open -/

/-- A multiplexer with a journal and a catalog, and their files. -/
structure DurableHost where
  host : Host
  dir : StateDir

namespace DurableHost

/-- The files after the call that the open `o` awaits, if its write lands. -/
def landed (s : DurableHost) (o : OpId) (command : OpenCommand) (lands : Bool) : StateDir :=
  if ¬ lands then s.dir
  else
    match (s.host.op o).pc with
    | .openReprovision => s.dir.saveManifest command none
    | .openCatalog =>
      match s.host.openRecord command (s.host.op o) with
      | .ok record => s.dir.writeRecord command.sessionId record
      | .error _ => s.dir
    | .openManifest => s.dir.saveManifest command (some (s.host.op o).sessionFile)
    | .openRepairMark _ generation =>
      match catalogMarkDormant s.host.catalog command.sessionId generation with
      | .ok dormant => s.dir.writeRecord command.sessionId dormant
      | .error _ => s.dir
    | _ => s.dir

/-- `openRun input fault command o n s`: the open `o` goes on for at most `n` awaits.
A crash leaves the files as they are. -/
def openRun (input : OpenInput) (fault : Fault) (command : OpenCommand) (o : OpId) :
    Nat → DurableHost → DurableHost
  | 0, s => s
  | n + 1, s =>
    let resume (answer : LifecycleAnswer) (lands : Bool) : DurableHost :=
      match s.host.resumeOpen o command answer (s.host.op o).pc with
      | none => s
      | some host => openRun input fault command o n ⟨host, s.landed o command lands⟩
    match fault.outcomeAt (s.host.op o).pc with
    | .settles => resume (input.answer command (s.host.op o)) true
    | .throws lands code => resume (.error code) lands
    | .crashes lands => { s with dir := s.landed o command lands }

end DurableHost

/-! ## The two generations -/

namespace Fault

def stopsAt (fault : Fault) (step : OpenStep) : Bool :=
  fault.step = step && fault.outcome ≠ .settles

/-- What an open of generation `g` leaves in the record and the manifest from the catalog
on: `accepted` says that the catalog takes the record, `saved` is what the final manifest
holds.  After a throw at the catalog the record of memory is written back. -/
def fromCatalog (fault : Fault) (g : Nat) (accepted : Bool) (saved record manifest : Option Nat) :
    Option Nat × Option Nat :=
  if fault.stopsAt .catalog then
    if accepted && fault.outcome.lands && !(fault.outcome.isThrow && record.isSome) then
      (some g, manifest)
    else (record, manifest)
  else if ¬ accepted then (record, manifest)
  else if fault.stopsAt .manifest then (some g, if fault.outcome.lands then saved else manifest)
  else (some g, saved)

/-- From `factory.open` on: `valid` says that the conversation passes its checks. -/
def fromFactory (fault : Fault) (g : Nat) (valid accepted : Bool) (saved record manifest : Option Nat) :
    Option Nat × Option Nat :=
  if fault.stopsAt .factory ∨ fault.stopsAt .rpcController ∨ ¬ valid then (record, manifest)
  else fault.fromCatalog g accepted saved record manifest

/-- From the first await after the disposal on. -/
def fromFirst (fault : Fault) (g : Nat) (reprovisions valid accepted : Bool)
    (saved record manifest : Option Nat) : Option Nat × Option Nat :=
  if ¬ reprovisions then fault.fromFactory g valid accepted saved record manifest
  else if fault.stopsAt .reprovision then
    (record, if fault.outcome.lands then some g else manifest)
  else fault.fromFactory g valid accepted saved record (some g)

/-- The checks of `open` and the disposal of a resident adapter are behind it. -/
def fromOpen (fault : Fault) (decision : Except ErrorCode OpenDecision) (g : Nat)
    (reprovisions valid accepted : Bool) (saved record manifest : Option Nat) :
    Option Nat × Option Nat :=
  match decision with
  | .ok .create => fault.fromFirst g reprovisions valid accepted saved record manifest
  | .ok (.replace _) =>
    if fault.stopsAt .dispose then (record, manifest)
    else fault.fromFirst g reprovisions valid accepted saved record manifest
  | _ => (record, manifest)

/-! ### The condition -/

def begins (fault : Fault) : Except ErrorCode OpenDecision → Bool
  | .ok .create => true
  | .ok (.replace _) => !fault.stopsAt .dispose
  | _ => false

/-- The new record stays on disk: the open comes to the catalog, which takes the record, and
does not stop there before the file is replaced; after a throw the error path restores an
earlier record. -/
def keepsRecord (fault : Fault) (reprovisions valid accepted : Bool) (record : Option Nat) : Bool :=
  !(reprovisions && fault.stopsAt .reprovision) && !fault.stopsAt .factory &&
    !fault.stopsAt .rpcController && valid && accepted &&
    (!fault.stopsAt .catalog ||
      (fault.outcome.lands && !(fault.outcome.isThrow && record.isSome)))

/-- The write of a step stays on disk. -/
def keeps (fault : Fault) (step : OpenStep) : Bool := !fault.stopsAt step || fault.outcome.lands

/-- The open stops between its two writes, and the file not written has another generation. -/
def splits (fault : Fault) (decision : Except ErrorCode OpenDecision) (g : Nat)
    (reprovisions valid accepted : Bool) (record manifest : Option Nat) : Bool :=
  fault.begins decision &&
    if reprovisions then
      record.any (· ≠ g) && fault.keeps .reprovision &&
        !fault.keepsRecord reprovisions valid accepted record
    else
      manifest.any (· ≠ g) && fault.keepsRecord reprovisions valid accepted record &&
        (fault.stopsAt .catalog || !fault.keeps .manifest)

section Condition

variable {fault : Fault} {decision : Except ErrorCode OpenDecision} {g : Nat}
  {reprovisions valid accepted : Bool} {saved record manifest : Option Nat}

theorem record_fromFirst :
    (fault.fromFirst g reprovisions valid accepted saved record manifest).1 =
      if fault.keepsRecord reprovisions valid accepted record then some g else record := by
  unfold fromFirst fromFactory fromCatalog keepsRecord
  split_ifs <;> simp_all

theorem manifest_fromFirst :
    (fault.fromFirst g reprovisions valid accepted saved record manifest).2 =
      if fault.keepsRecord reprovisions valid accepted record && !fault.stopsAt .catalog &&
          fault.keeps .manifest then saved
      else if reprovisions && fault.keeps .reprovision then some g else manifest := by
  unfold fromFirst fromFactory fromCatalog keepsRecord keeps
  split_ifs <;> simp_all

theorem keeps_reprovision
    (hk : fault.keepsRecord reprovisions valid accepted record = true) (hr : reprovisions = true) :
    fault.keeps .reprovision = true := by
  subst hr
  simp only [keepsRecord, Bool.and_eq_true, Bool.not_eq_true', Bool.true_and] at hk
  simp [keeps, hk.1.1.1.1.1]

theorem mismatch_self (a : Option Nat) : mismatch a (some g) = a.any (· ≠ g) := by
  cases a <;> simp [mismatch, eq_comm]

theorem self_mismatch (a : Option Nat) : mismatch (some g) a = a.any (· ≠ g) := by
  cases a <;> rfl

theorem mismatch_fromFirst (hs : saved = none ∨ saved = some g)
    (ha : mismatch record manifest = false) :
    mismatch (fault.fromFirst g reprovisions valid accepted saved record manifest).1
        (fault.fromFirst g reprovisions valid accepted saved record manifest).2 =
      fault.splits (.ok .create) g reprovisions valid accepted record manifest := by
  have hsaved : mismatch (some g) saved = false := by
    rcases hs with rfl | rfl <;> simp [mismatch]
  rw [record_fromFirst, manifest_fromFirst, splits, begins]
  cases hk : fault.keepsRecord reprovisions valid accepted record with
  | false =>
    cases reprovisions with
    | false => simp [ha]
    | true =>
      cases hkeep : fault.keeps .reprovision
      · simp [ha]
      · simp [mismatch_self]
  | true =>
    cases reprovisions with
    | false =>
      cases hc : fault.stopsAt .catalog <;> cases hm : fault.keeps .manifest <;>
        simp [self_mismatch, hsaved]
    | true =>
      have hkeep := keeps_reprovision hk rfl
      cases hc : fault.stopsAt .catalog <;> cases hm : fault.keeps .manifest <;>
        simp [hkeep, self_mismatch]
      simpa [self_mismatch] using hsaved

theorem mismatch_fromOpen (hs : saved = none ∨ saved = some g)
    (ha : mismatch record manifest = false) :
    mismatch (fault.fromOpen decision g reprovisions valid accepted saved record manifest).1
        (fault.fromOpen decision g reprovisions valid accepted saved record manifest).2 =
      fault.splits decision g reprovisions valid accepted record manifest := by
  cases decision with
  | error code => exact ha
  | ok decision =>
    cases decision with
    | reuse i => exact ha
    | create => exact mismatch_fromFirst hs ha
    | replace i =>
      have hcreate : _ = fault.splits (.ok .create) g reprovisions valid accepted record manifest :=
        mismatch_fromFirst hs ha
      cases hd : fault.stopsAt .dispose
      · simpa [fromOpen, splits, begins, hd] using hcreate
      · simpa [fromOpen, splits, begins, hd] using ha

end Condition

end Fault

/-! ## The awaits, from the last one back -/

namespace StateDir

def generations (dir : StateDir) (sessionId : SessionId) : Option Nat × Option Nat :=
  (dir.recordGeneration sessionId, dir.manifestGeneration sessionId)

variable (dir : StateDir)

@[simp] theorem recordGeneration_writeRecord (sessionId : SessionId) (record : SessionCatalogRecord) :
    (dir.writeRecord sessionId record).recordGeneration sessionId = some record.generation := by
  simp [writeRecord, recordGeneration]

@[simp] theorem manifestGeneration_writeRecord (sessionId : SessionId) (record : SessionCatalogRecord) :
    (dir.writeRecord sessionId record).manifestGeneration sessionId =
      dir.manifestGeneration sessionId := rfl

section
variable (command : OpenCommand)

@[simp] theorem recordGeneration_saveManifest (conversation : Option (Option JsString)) (sessionId : SessionId) :
    (dir.saveManifest command conversation).recordGeneration sessionId =
      dir.recordGeneration sessionId := by
  unfold saveManifest
  split <;> rfl

@[simp] theorem manifestGeneration_reprovision :
    (dir.saveManifest command none).manifestGeneration command.sessionId =
      some command.generation := by
  simp [saveManifest, manifestGeneration]

@[simp] theorem manifestGeneration_saveManifest (sessionFile : Option JsString) :
    (dir.saveManifest command (some sessionFile)).manifestGeneration command.sessionId =
      sessionFile.map fun _ => command.generation := by
  cases sessionFile <;> simp [saveManifest, manifestGeneration]

end

end StateDir

namespace DurableHost

variable {input : OpenInput} {fault : Fault} {command : OpenCommand} {o : OpId} {s : DurableHost}

/-- The generations on disk when the open `o` has gone on for `n` awaits. -/
def openGenerations (input : OpenInput) (fault : Fault) (command : OpenCommand) (o : OpId) (n : Nat)
    (s : DurableHost) : Option Nat × Option Nat :=
  (s.openRun input fault command o n).dir.generations command.sessionId

variable {n : Nat} {lands : Bool} {pc : LifecyclePc} {record : Option SessionCatalogRecord}
  {code : ErrorCode}

theorem openRun_settles {host : Host} (hf : fault.outcomeAt (s.host.op o).pc = .settles)
    (hr : s.host.resumeOpen o command (input.answer command (s.host.op o)) (s.host.op o).pc = some host) :
    s.openRun input fault command o (n + 1) =
      openRun input fault command o n ⟨host, s.landed o command true⟩ := by
  simp only [openRun, hf, hr]

theorem openRun_throws {host : Host} (hf : fault.outcomeAt (s.host.op o).pc = .throws lands code)
    (hr : s.host.resumeOpen o command (.error code) (s.host.op o).pc = some host) :
    s.openRun input fault command o (n + 1) =
      openRun input fault command o n ⟨host, s.landed o command lands⟩ := by
  simp only [openRun, hf, hr]

theorem openRun_crashes (hf : fault.outcomeAt (s.host.op o).pc = .crashes lands) :
    s.openRun input fault command o (n + 1) = { s with dir := s.landed o command lands } := by
  simp only [openRun, hf]

theorem openRun_done {result : LifecycleResult} (hpc : (s.host.op o).pc = .done result) :
    s.openRun input fault command o n = s := by
  cases n with
  | zero => rfl
  | succ n => simp [openRun, hpc, Fault.outcomeAt, LifecyclePc.openStep, Host.resumeOpen]

theorem op_setOp (h : Host) (o : OpId) (f : LifecycleOp → LifecycleOp) :
    (h.setOp o f).op o = f (h.op o) :=
  Heap.cell_modify_self _ _ _

theorem op_opGoto (h : Host) (o : OpId) (pc : LifecyclePc) :
    (h.opGoto o pc).op o = { h.op o with pc := pc } :=
  op_setOp h o _

/-- The open awaits at `pc`, without a resident slot; `record` is the one of memory. -/
structure AwaitsAt (s : DurableHost) (o : OpId) (command : OpenCommand) (pc : LifecyclePc)
    (record : Option SessionCatalogRecord) : Prop where
  pc : (s.host.op o).pc = pc
  hasCatalog : s.host.hasCatalog = true
  absent : s.host.sessions.has command.sessionId = false
  memory : s.host.catalog.get? command.sessionId = record

theorem AwaitsAt.opGoto {pc pc' : LifecyclePc} (ha : AwaitsAt s o command pc record) (dir : StateDir) :
    AwaitsAt ⟨s.host.opGoto o pc', dir⟩ o command pc' record where
  pc := by rw [op_opGoto]
  hasCatalog := ha.hasCatalog
  absent := ha.absent
  memory := ha.memory

theorem landed_eq (hpc : (s.host.op o).pc = pc) (h1 : pc ≠ .openReprovision) (h2 : pc ≠ .openCatalog)
    (h3 : pc ≠ .openManifest) (h4 : ∀ code generation, pc ≠ .openRepairMark code generation) :
    s.landed o command lands = s.dir := by
  unfold landed
  subst hpc
  split
  · rfl
  · split <;> simp_all

theorem goto_generations (ha : AwaitsAt s o command pc record) (hf : fault.outcomeAt pc = .settles)
    (pc' : LifecyclePc)
    (hr : s.host.resumeOpen o command (input.answer command (s.host.op o)) pc = some (s.host.opGoto o pc')) :
    openGenerations input fault command o (n + 1) s =
      openGenerations input fault command o n
        ⟨s.host.opGoto o pc', s.landed o command true⟩ := by
  unfold openGenerations
  rw [openRun_settles (by rw [ha.pc]; exact hf) (by rw [ha.pc]; exact hr)]

theorem pc_finish (h : Host) (o : OpId) (result : LifecycleResult) :
    ((h.finish o result).op o).pc = .done result := by
  rw [Host.finish, op_opGoto]

theorem repairMark_generations {record : SessionCatalogRecord}
    (ha : AwaitsAt s o command (.openRepairMark code record.generation) (some record)) :
    openGenerations input fault command o (n + 1) s =
      (some record.generation, s.dir.manifestGeneration command.sessionId) := by
  let dormant := { record with revision := record.revision + 1, residency := .dormant }
  have hmark : catalogMarkDormant s.host.catalog command.sessionId record.generation =
      .ok dormant := by
    simp [catalogMarkDormant, ha.memory, dormant]
  have hr : s.host.resumeOpen o command (input.answer command (s.host.op o)) (s.host.op o).pc =
      some ((s.host.recordCatalog command.sessionId dormant).finish o (.failed code)) := by
    simp only [Host.resumeOpen, OpenInput.answer, ha.pc, hmark]
  unfold openGenerations
  rw [openRun_settles (by rw [ha.pc]; rfl) hr, openRun_done (pc_finish _ _ _)]
  simp [landed, ha.pc, hmark, StateDir.generations, dormant]

theorem repairGet_generations (ha : AwaitsAt s o command (.openRepairGet code) record) :
    openGenerations input fault command o (n + 2) s =
      ((record.map fun record => record.generation).or (s.dir.recordGeneration command.sessionId),
        s.dir.manifestGeneration command.sessionId) := by
  cases record with
  | none =>
    rw [goto_generations ha rfl (.done (.failed code))
        (by simp [Host.resumeOpen, OpenInput.answer, ha.pc, ha.memory, Host.finish])]
    unfold openGenerations
    rw [openRun_done (by rw [op_opGoto]), landed_eq ha.pc (by simp) (by simp) (by simp) (by simp)]
    rfl
  | some record =>
    rw [goto_generations ha rfl (.openRepairMark code record.generation)
        (by simp [Host.resumeOpen, OpenInput.answer, ha.pc, ha.memory]),
      repairMark_generations (ha.opGoto _), landed_eq ha.pc (by simp) (by simp) (by simp) (by simp)]
    rfl

/-- The error path: the record of memory is marked dormant and written again. -/
theorem cleanup_generations (ha : AwaitsAt s o command (.openCleanup code) record) :
    openGenerations input fault command o (n + 3) s =
      ((record.map fun record => record.generation).or (s.dir.recordGeneration command.sessionId),
        s.dir.manifestGeneration command.sessionId) := by
  rw [goto_generations ha rfl (.openRepairGet code)
      (by simp [Host.resumeOpen, ha.hasCatalog, ha.absent]),
    repairGet_generations (ha.opGoto _), landed_eq ha.pc (by simp) (by simp) (by simp) (by simp)]

/-! ### The awaits that can fail -/

theorem resumeOpen_error {h : Host} {step : OpenStep} (hpc : pc.openStep = some step) (hd : step ≠ .dispose) :
    h.resumeOpen o command (.error code) pc = some (h.opGoto o (.openCleanup code)) := by
  cases pc <;> simp_all [LifecyclePc.openStep, Host.resumeOpen]

theorem error_generations {dir : StateDir} (ha : AwaitsAt s o command pc record) :
    openGenerations input fault command o (n + 3) ⟨s.host.opGoto o (.openCleanup code), dir⟩ =
      ((record.map fun record => record.generation).or (dir.recordGeneration command.sessionId),
        dir.manifestGeneration command.sessionId) :=
  cleanup_generations (ha.opGoto dir)

theorem throws_generations {step : OpenStep} (ha : AwaitsAt s o command pc record) (hpc : pc.openStep = some step)
    (hd : step ≠ .dispose) (hf : fault.outcomeAt pc = .throws lands code) :
    openGenerations input fault command o (n + 4) s =
      ((record.map fun record => record.generation).or
          ((s.landed o command lands).recordGeneration command.sessionId),
        (s.landed o command lands).manifestGeneration command.sessionId) := by
  rw [← error_generations ha, openGenerations,
    openRun_throws (by rw [ha.pc]; exact hf) (by rw [ha.pc]; exact resumeOpen_error hpc hd)]
  rfl

theorem crashes_generations (ha : AwaitsAt s o command pc record) (hf : fault.outcomeAt pc = .crashes lands) :
    openGenerations input fault command o (n + 1) s =
      (s.landed o command lands).generations command.sessionId := by
  rw [openGenerations, openRun_crashes (by rw [ha.pc]; exact hf)]

/-- The fault at a step: it does not happen there, or it throws, or it crashes. -/
theorem outcomeAt_cases (fault : Fault) {step : OpenStep} (hpc : pc.openStep = some step) :
    (fault.stopsAt step = false ∧ fault.outcomeAt pc = .settles) ∨
      (∃ lands code, fault = ⟨step, .throws lands code⟩ ∧ fault.outcomeAt pc = .throws lands code) ∨
      ∃ lands, fault = ⟨step, .crashes lands⟩ ∧ fault.outcomeAt pc = .crashes lands := by
  obtain ⟨at', outcome⟩ := fault
  by_cases h : at' = step
  · subst h
    cases outcome <;> simp [Fault.stopsAt, Fault.outcomeAt, hpc]
  · left
    simp [Fault.stopsAt, Fault.outcomeAt, hpc, h, Ne.symm h]

theorem manifest_generations {record : SessionCatalogRecord} (ha : AwaitsAt s o command .openManifest (some record))
    (hg : record.generation = command.generation)
    (hfile : s.dir.recordGeneration command.sessionId = some command.generation) :
    openGenerations input fault command o (n + 4) s =
      (some command.generation,
        if fault.stopsAt .manifest ∧ fault.outcome.lands = false then
          s.dir.manifestGeneration command.sessionId
        else (s.host.op o).sessionFile.map fun _ => command.generation) := by
  have hlanded : ∀ lands, s.landed o command lands =
      if lands then s.dir.saveManifest command (some (s.host.op o).sessionFile) else s.dir := by
    intro lands
    cases lands <;> simp [landed, ha.pc]
  rcases outcomeAt_cases fault (show LifecyclePc.openManifest.openStep = some .manifest from rfl) with
    ⟨hstop, hf⟩ | ⟨lands, code, rfl, hf⟩ | ⟨lands, rfl, hf⟩
  · have hr : s.host.resumeOpen o command (input.answer command (s.host.op o)) (s.host.op o).pc =
        some ((s.host.openSlot command (s.host.op o)).finish o (.opened true)) := by
      simp only [Host.resumeOpen, OpenInput.answer, ha.pc]
    rw [openGenerations, openRun_settles (by rw [ha.pc]; exact hf) hr,
      openRun_done (pc_finish _ _ _), hlanded]
    simp [hstop, StateDir.generations, hfile]
  · rw [throws_generations ha rfl (by simp) hf, hlanded]
    cases lands <;> simp [Fault.stopsAt, Outcome.lands, hg, hfile]
  · rw [crashes_generations ha hf, hlanded]
    cases lands <;> simp [Fault.stopsAt, Outcome.lands, StateDir.generations, hfile]

/-- The catalog takes the record of the open. -/
def accepts (command : OpenCommand) (record : Option SessionCatalogRecord) : Bool :=
  record.all fun record => record.generation ≤ command.generation

theorem openRecord_ok (ha : AwaitsAt s o command .openCatalog record) (hr : (s.host.op o).retained = record)
    (hacc : accepts command record = true) :
    ∃ next, s.host.openRecord command (s.host.op o) = .ok next ∧
      next.generation = command.generation := by
  unfold Host.openRecord
  rw [hr]
  cases record with
  | none =>
    have hno : s.host.catalog.has command.sessionId = false :=
      has_eq_false.mpr ha.memory
    simp [catalogCreate, hno]
  | some record =>
    have hle : ¬ command.generation < record.generation := by
      simpa [accepts] using hacc
    simp [catalogReplace, ha.memory, hle]

theorem openRecord_refused (ha : AwaitsAt s o command .openCatalog record) (hr : (s.host.op o).retained = record)
    (hacc : accepts command record = false) : s.host.openRecord command (s.host.op o) = .error .staleGeneration := by
  unfold Host.openRecord
  rw [hr]
  cases record with
  | none => cases hacc
  | some record =>
    have hlt : command.generation < record.generation := by
      simpa [accepts] using hacc
    simp [catalogReplace, ha.memory, hlt]

theorem landed_catalog (hpc : (s.host.op o).pc = .openCatalog) {next : SessionCatalogRecord}
    (hn : s.host.openRecord command (s.host.op o) = .ok next) :
    s.landed o command lands = if lands then s.dir.writeRecord command.sessionId next else s.dir := by
  cases lands <;> simp [landed, hpc, hn]

theorem landed_catalog_refused (hpc : (s.host.op o).pc = .openCatalog)
    (hn : s.host.openRecord command (s.host.op o) = .error code) : s.landed o command lands = s.dir := by
  cases lands <;> simp [landed, hpc, hn]

theorem catalog_refused_generations (ha : AwaitsAt s o command .openCatalog record)
    (hr : (s.host.op o).retained = record)
    (hfile : s.dir.recordGeneration command.sessionId = record.map fun record => record.generation)
    (hacc : accepts command record = false) :
    openGenerations input fault command o (n + 4) s =
      (s.dir.recordGeneration command.sessionId, s.dir.manifestGeneration command.sessionId) := by
  have hn := openRecord_refused ha hr hacc
  rcases outcomeAt_cases fault (show LifecyclePc.openCatalog.openStep = some .catalog from rfl) with
    ⟨_, hf⟩ | ⟨lands, code, rfl, hf⟩ | ⟨lands, rfl, hf⟩
  · rw [goto_generations ha hf (.openCleanup .staleGeneration)
        (by simp only [Host.resumeOpen, OpenInput.answer, ha.pc, hn]),
      error_generations ha, landed_catalog_refused ha.pc hn, hfile, Option.or_self]
  · rw [throws_generations ha rfl (by simp) hf, landed_catalog_refused ha.pc hn, hfile,
      Option.or_self]
  · rw [crashes_generations ha hf, landed_catalog_refused ha.pc hn]
    rfl

theorem catalog_generations (ha : AwaitsAt s o command .openCatalog record) (hr : (s.host.op o).retained = record)
    (hfile : s.dir.recordGeneration command.sessionId = record.map fun record => record.generation) :
    openGenerations input fault command o (n + 5) s =
      fault.fromCatalog command.generation (accepts command record)
        ((s.host.op o).sessionFile.map fun _ => command.generation)
        (s.dir.recordGeneration command.sessionId) (s.dir.manifestGeneration command.sessionId) := by
  cases hacc : accepts command record with
  | false =>
    rw [catalog_refused_generations ha hr hfile hacc]
    simp [Fault.fromCatalog]
  | true =>
    obtain ⟨next, hn, hg⟩ := openRecord_ok ha hr hacc
    rcases outcomeAt_cases fault (show LifecyclePc.openCatalog.openStep = some .catalog from rfl) with
      ⟨hstop, hf⟩ | ⟨lands, code, rfl, hf⟩ | ⟨lands, rfl, hf⟩
    · have hresume : s.host.resumeOpen o command (input.answer command (s.host.op o))
          (s.host.op o).pc =
          some ((s.host.recordCatalog command.sessionId next).opGoto o .openManifest) := by
        simp only [Host.resumeOpen, OpenInput.answer, ha.pc, hn]
      have ha' : AwaitsAt ⟨(s.host.recordCatalog command.sessionId next).opGoto o .openManifest,
          s.landed o command true⟩ o command .openManifest (some next) :=
        { pc := by rw [op_opGoto]
          hasCatalog := ha.hasCatalog
          absent := ha.absent
          memory := get?_set_self _ _ _ }
      rw [openGenerations, openRun_settles (by rw [ha.pc]; exact hf) hresume]
      have hend : openGenerations input fault command o (n + 4) _ = _ := manifest_generations ha' hg
        (by rw [landed_catalog ha.pc hn]; simp [hg])
      rw [openGenerations] at hend
      rw [hend, landed_catalog ha.pc hn, op_opGoto]
      cases hs : fault.stopsAt .manifest <;> cases hl : fault.outcome.lands <;>
        simp [Fault.fromCatalog, hstop, hs, hl] <;> rfl
    · rw [throws_generations ha rfl (by simp) hf, landed_catalog ha.pc hn]
      cases lands <;> cases record <;>
        simp [Fault.fromCatalog, Fault.stopsAt, Outcome.lands, Outcome.isThrow, hg, hfile]
    · rw [crashes_generations ha hf, landed_catalog ha.pc hn]
      cases lands <;>
        simp [Fault.fromCatalog, Fault.stopsAt, Outcome.lands, Outcome.isThrow, hg,
          StateDir.generations]

/-- What the final manifest holds. -/
def savedGeneration (input : OpenInput) (command : OpenCommand) : Option Nat :=
  (input.identity.bind fun identity => identity.sessionFile).map fun _ => command.generation

theorem conversation_eq_ok {identity : Option SessionConversationIdentity}
    (h : input.conversation command record = .ok identity) : identity = input.identity := by
  unfold OpenInput.conversation validateOpenedConversation at h
  cases hi : input.identity with
  | none => simp [hi] at h
  | some given =>
    simp only [hi] at h
    repeat' split at h
    all_goals cases h
    rfl

theorem controller_generations (ha : AwaitsAt s o command .openController record)
    (hr : (s.host.op o).retained = record)
    (hfile : s.dir.recordGeneration command.sessionId = record.map fun record => record.generation) :
    openGenerations input fault command o (n + 6) s =
      if fault.stopsAt .rpcController ∨ (input.conversation command record).isOk = false then
        (s.dir.recordGeneration command.sessionId, s.dir.manifestGeneration command.sessionId)
      else
        fault.fromCatalog command.generation (accepts command record) (savedGeneration input command)
          (s.dir.recordGeneration command.sessionId)
          (s.dir.manifestGeneration command.sessionId) := by
  have hdir : ∀ lands, s.landed o command lands = s.dir := fun lands =>
    landed_eq ha.pc (by simp) (by simp) (by simp) (by simp)
  rcases outcomeAt_cases fault
      (show LifecyclePc.openController.openStep = some .rpcController from rfl) with
    ⟨hstop, hf⟩ | ⟨lands, code, rfl, hf⟩ | ⟨lands, rfl, hf⟩
  · cases hv : input.conversation command record with
    | error code =>
      rw [goto_generations ha hf (.openCleanup code)
          (by simp only [Host.resumeOpen, OpenInput.answer, ha.pc, hr, hv]),
        error_generations ha, hdir, hfile]
      simp [Except.isOk, Except.toBool]
    | ok identity =>
      have hid : identity = input.identity := conversation_eq_ok hv
      have hresume : s.host.resumeOpen o command (input.answer command (s.host.op o))
          (s.host.op o).pc =
          some (s.host.setOp o fun x =>
            { x with
              sessionFile := identity.bind fun identity => identity.sessionFile
              pc := .openCatalog }) := by
        simp only [Host.resumeOpen, OpenInput.answer, ha.pc, hr, hv, ha.hasCatalog, if_pos]
      have ha' : AwaitsAt ⟨s.host.setOp o fun x =>
            { x with
              sessionFile := identity.bind fun identity => identity.sessionFile
              pc := .openCatalog }, s.landed o command true⟩ o command .openCatalog record :=
        { pc := by rw [op_setOp]
          hasCatalog := ha.hasCatalog
          absent := ha.absent
          memory := ha.memory }
      have hend : openGenerations input fault command o (n + 5) _ = _ := catalog_generations ha'
        (by rw [op_setOp]; exact hr) (by rw [hdir]; exact hfile)
      rw [openGenerations] at hend
      rw [openGenerations, openRun_settles (by rw [ha.pc]; exact hf) hresume, hend, op_setOp, hdir]
      simp [hstop, Except.isOk, Except.toBool, savedGeneration, hid]
  · rw [throws_generations ha rfl (by simp) hf, hdir, hfile]
    simp [Fault.stopsAt]
  · rw [crashes_generations ha hf, hdir]
    simp [Fault.stopsAt, StateDir.generations]

theorem factory_generations (ha : AwaitsAt s o command .openFactory record) (hr : (s.host.op o).retained = record)
    (hfile : s.dir.recordGeneration command.sessionId = record.map fun record => record.generation) :
    openGenerations input fault command o (n + 7) s =
      fault.fromFactory command.generation (input.conversation command record).isOk
        (accepts command record) (savedGeneration input command)
        (s.dir.recordGeneration command.sessionId)
        (s.dir.manifestGeneration command.sessionId) := by
  have hdir : ∀ lands, s.landed o command lands = s.dir := fun lands =>
    landed_eq ha.pc (by simp) (by simp) (by simp) (by simp)
  rcases outcomeAt_cases fault (show LifecyclePc.openFactory.openStep = some .factory from rfl) with
    ⟨hstop, hf⟩ | ⟨lands, code, rfl, hf⟩ | ⟨lands, rfl, hf⟩
  · rw [goto_generations ha hf (.openController)
        (by simp only [Host.resumeOpen, OpenInput.answer, ha.pc]),
      controller_generations (ha.opGoto _) (by rw [op_opGoto]; exact hr)
        (by rw [hdir]; exact hfile), hdir]
    simp [Fault.fromFactory, hstop]
  · rw [throws_generations ha rfl (by simp) hf, hdir, hfile]
    simp [Fault.fromFactory, Fault.stopsAt]
  · rw [crashes_generations ha hf, hdir]
    simp [Fault.fromFactory, Fault.stopsAt, StateDir.generations]

/-- The open persists its tool adapter before the factory runs. -/
def reprovisions (command : OpenCommand) : Bool :=
  command.toolAdapter.isSome && command.mode ≠ .memory

theorem first_generations (ha : AwaitsAt s o command command.firstAwait record) (hr : (s.host.op o).retained = record)
    (hfile : s.dir.recordGeneration command.sessionId = record.map fun record => record.generation) :
    openGenerations input fault command o (n + 8) s =
      fault.fromFirst command.generation (reprovisions command)
        (input.conversation command record).isOk (accepts command record)
        (savedGeneration input command) (s.dir.recordGeneration command.sessionId)
        (s.dir.manifestGeneration command.sessionId) := by
  by_cases hrep : command.toolAdapter.isSome = true ∧ command.mode ≠ .memory
  · have hfirst : command.firstAwait = .openReprovision := if_pos hrep
    have hre : reprovisions command = true := by simpa [reprovisions] using hrep
    rw [hfirst] at ha
    have hdir : ∀ lands, s.landed o command lands =
        if lands then s.dir.saveManifest command none else s.dir := by
      intro lands
      cases lands <;> simp [landed, ha.pc]
    rcases outcomeAt_cases fault
        (show LifecyclePc.openReprovision.openStep = some .reprovision from rfl) with
      ⟨hstop, hf⟩ | ⟨lands, code, rfl, hf⟩ | ⟨lands, rfl, hf⟩
    · rw [goto_generations ha hf (.openFactory)
          (by simp only [Host.resumeOpen, OpenInput.answer, ha.pc]),
        factory_generations (ha.opGoto _) (by rw [op_opGoto]; exact hr)
          (by rw [hdir]; simpa using hfile), hdir]
      simp [Fault.fromFirst, hre, hstop]
    · rw [throws_generations ha rfl (by simp) hf, hdir]
      cases lands <;> simp [Fault.fromFirst, Fault.stopsAt, Outcome.lands, hre, hfile]
    · rw [crashes_generations ha hf, hdir]
      cases lands <;>
        simp [Fault.fromFirst, Fault.stopsAt, Outcome.lands, hre, StateDir.generations]
  · have hfirst : command.firstAwait = .openFactory := if_neg hrep
    have hre : reprovisions command = false := by
      simpa [reprovisions] using hrep
    rw [hfirst] at ha
    rw [factory_generations ha hr hfile]
    simp [Fault.fromFirst, hre]

/-! ### The whole open -/

/-- The open has the lock; the catalog holds what is on disk. -/
structure OpenStarts (s : DurableHost) (o : OpId) (command : OpenCommand) : Prop where
  pc : (s.host.op o).pc = .openGet
  existing : (s.host.op o).existing = s.host.sessions.get? command.sessionId
  durable : s.host.durable = true
  hasCatalog : s.host.hasCatalog = true
  memory : s.host.catalog.get? command.sessionId = s.dir.records.get? command.sessionId

/-- What `open` does after its checks. -/
def decision (s : DurableHost) (command : OpenCommand) : Except ErrorCode OpenDecision :=
  s.host.openDecision command (s.host.sessions.get? command.sessionId)
    (s.dir.records.get? command.sessionId)

theorem dispose_generations (hpc : (s.host.op o).pc = .openDispose) (hc : s.host.hasCatalog = true)
    (hm : s.host.catalog.get? command.sessionId = s.dir.records.get? command.sessionId)
    (hr : (s.host.op o).retained = s.dir.records.get? command.sessionId) :
    openGenerations input fault command o (n + 9) s =
      if fault.stopsAt .dispose then s.dir.generations command.sessionId
      else
        fault.fromFirst command.generation (reprovisions command)
          (input.conversation command (s.dir.records.get? command.sessionId)).isOk
          (accepts command (s.dir.records.get? command.sessionId)) (savedGeneration input command)
          (s.dir.recordGeneration command.sessionId)
          (s.dir.manifestGeneration command.sessionId) := by
  have hdir : ∀ lands, s.landed o command lands = s.dir := fun lands =>
    landed_eq hpc (by simp) (by simp) (by simp) (by simp)
  rcases outcomeAt_cases fault (show LifecyclePc.openDispose.openStep = some .dispose from rfl) with
    ⟨hstop, hf⟩ | ⟨lands, code, rfl, hf⟩ | ⟨lands, rfl, hf⟩
  · let h' := (s.host.removeSession command.sessionId).retainToolAdapter command
    have hresume : s.host.resumeOpen o command (input.answer command (s.host.op o))
        (s.host.op o).pc = some (h'.opGoto o command.firstAwait) := by
      simp only [Host.resumeOpen, OpenInput.answer, hpc, h']
    have hframe : h'.hasCatalog = s.host.hasCatalog ∧ h'.catalog = s.host.catalog ∧
        h'.sessions = s.host.sessions.delete command.sessionId ∧ h'.op o = s.host.op o := by
      unfold h' Host.retainToolAdapter
      split <;> exact ⟨rfl, rfl, rfl, rfl⟩
    have ha' : AwaitsAt ⟨h'.opGoto o command.firstAwait, s.landed o command true⟩ o command
        command.firstAwait (s.dir.records.get? command.sessionId) :=
      { pc := by rw [op_opGoto]
        hasCatalog := hframe.1.trans hc
        absent := by
          show h'.sessions.has command.sessionId = false
          rw [hframe.2.2.1, has_eq_false]
          simp
        memory := by
          show h'.catalog.get? command.sessionId = _
          rw [hframe.2.1, hm] }
    have hend : openGenerations input fault command o (n + 8) _ = _ :=
      first_generations ha' (by rw [op_opGoto, hframe.2.2.2]; exact hr) (by rw [hdir]; rfl)
    rw [openGenerations] at hend
    rw [openGenerations, openRun_settles (by rw [hpc]; exact hf) hresume, hend, hdir]
    simp [hstop]
  · have hresume : s.host.resumeOpen o command (.error code) (s.host.op o).pc =
        some (s.host.finish o (.failed code)) := by
      rw [hpc]
      rfl
    rw [openGenerations, openRun_throws (by rw [hpc]; exact hf) hresume,
      openRun_done (pc_finish _ _ _), hdir]
    simp [Fault.stopsAt]
  · rw [openGenerations, openRun_crashes (by rw [hpc]; exact hf), hdir]
    simp [Fault.stopsAt]

theorem checks_generations (hpc : (s.host.op o).pc = .openChecks) (hc : s.host.hasCatalog = true)
    (hm : s.host.catalog.get? command.sessionId = s.dir.records.get? command.sessionId)
    (hr : (s.host.op o).retained = s.dir.records.get? command.sessionId)
    (he : (s.host.op o).existing = s.host.sessions.get? command.sessionId) :
    openGenerations input fault command o (n + 10) s =
      fault.fromOpen (s.decision command) command.generation (reprovisions command)
        (input.conversation command (s.dir.records.get? command.sessionId)).isOk
        (accepts command (s.dir.records.get? command.sessionId)) (savedGeneration input command)
        (s.dir.recordGeneration command.sessionId)
        (s.dir.manifestGeneration command.sessionId) := by
  have hdir : s.landed o command true = s.dir :=
    landed_eq hpc (by simp) (by simp) (by simp) (by simp)
  have hresume : s.host.resumeOpen o command (input.answer command (s.host.op o)) (s.host.op o).pc =
      some (s.host.openChecks o command) := by
    rw [hpc]
    rfl
  have hd : s.host.openDecision command (s.host.op o).existing (s.host.op o).retained =
      s.decision command := by
    rw [he, hr, decision]
  rw [openGenerations, openRun_settles (by rw [hpc]; rfl) hresume, hdir]
  unfold Host.openChecks
  rw [hd]
  cases hdec : s.decision command with
  | error code =>
    rw [openRun_done (pc_finish _ _ _)]
    rfl
  | ok decision =>
    cases decision with
    | reuse i =>
      rw [openRun_done (pc_finish _ _ _)]
      rfl
    | replace i =>
      have hend : openGenerations input fault command o (n + 9) _ = _ :=
        dispose_generations (s := ⟨(s.host.disposeSlot i).setOp o fun x =>
          { x with
            retainedToolAdapter := s.host.toolAdapterPolicies.get? command.sessionId
            pc := .openDispose }, s.dir⟩) (by rw [op_setOp]) hc hm (by rw [op_setOp]; exact hr)
      exact hend
    | create =>
      have hnone : s.host.sessions.get? command.sessionId = none := by
        obtain ⟨-, -, -, hres⟩ := openDecision_eq_ok (hd.trans hdec)
        exact he.symm.trans (checkResident_create hres).1
      let h' := s.host.retainToolAdapter command
      have hframe : h'.hasCatalog = s.host.hasCatalog ∧ h'.catalog = s.host.catalog ∧
          h'.sessions = s.host.sessions ∧ h'.op o = s.host.op o := by
        unfold h' Host.retainToolAdapter
        split <;> exact ⟨rfl, rfl, rfl, rfl⟩
      let f : LifecycleOp → LifecycleOp := fun x =>
        { x with
          retainedToolAdapter := s.host.toolAdapterPolicies.get? command.sessionId
          pc := command.firstAwait }
      have ha' : AwaitsAt ⟨h'.setOp o f, s.dir⟩ o command command.firstAwait
          (s.dir.records.get? command.sessionId) :=
        { pc := by rw [op_setOp]
          hasCatalog := hframe.1.trans hc
          absent := by
            show h'.sessions.has command.sessionId = false
            rw [hframe.2.2.1]
            exact has_eq_false.mpr hnone
          memory := by
            show h'.catalog.get? command.sessionId = _
            rw [hframe.2.1, hm] }
      have hend : openGenerations input fault command o (n + 9) _ = _ :=
        first_generations ha' (by rw [op_setOp]; exact hframe.2.2.2 ▸ hr) rfl
      exact hend

/-- The awaits of an open, with those of its error path. -/
def OPEN_AWAITS : Nat := 11

/-- What the two files hold after an open with at most one fault. -/
theorem openRun_generations (hs : OpenStarts s o command) :
    (s.openRun input fault command o OPEN_AWAITS).dir.generations command.sessionId =
      fault.fromOpen (s.decision command) command.generation (reprovisions command)
        (input.conversation command (s.dir.records.get? command.sessionId)).isOk
        (accepts command (s.dir.records.get? command.sessionId)) (savedGeneration input command)
        (s.dir.recordGeneration command.sessionId)
        (s.dir.manifestGeneration command.sessionId) := by
  have hresume : s.host.resumeOpen o command (input.answer command (s.host.op o)) (s.host.op o).pc =
      some (s.host.setOp o fun x =>
        { x with retained := s.host.catalog.get? command.sessionId, pc := .openChecks }) := by
    simp only [Host.resumeOpen, OpenInput.answer, hs.pc]
  have hdir : s.landed o command true = s.dir :=
    landed_eq hs.pc (by simp) (by simp) (by simp) (by simp)
  rw [OPEN_AWAITS, openRun_settles (by rw [hs.pc]; rfl) hresume, hdir]
  exact checks_generations (s := ⟨s.host.setOp o fun x =>
      { x with retained := s.host.catalog.get? command.sessionId, pc := .openChecks }, s.dir⟩)
    (by rw [op_setOp]) hs.hasCatalog hs.memory (by rw [op_setOp]; exact hs.memory)
    (by rw [op_setOp]; exact hs.existing)

/-- The fault splits the generations of the session. -/
def Splits (s : DurableHost) (input : OpenInput) (fault : Fault) (command : OpenCommand) : Prop :=
  fault.splits (s.decision command) command.generation (reprovisions command)
    (input.conversation command (s.dir.records.get? command.sessionId)).isOk
    (accepts command (s.dir.records.get? command.sessionId))
    (s.dir.recordGeneration command.sessionId) (s.dir.manifestGeneration command.sessionId) = true

/-- The record and the manifest agree after an open with at most one fault exactly when the
fault does not stop the open between its writes of a new generation. -/
theorem open_keeps_generations (s : DurableHost) (input : OpenInput) (fault : Fault)
    (command : OpenCommand) (o : OpId) (hs : OpenStarts s o command)
    (ha : s.dir.generationMismatch command.sessionId = false) :
    (s.openRun input fault command o OPEN_AWAITS).dir.generationMismatch command.sessionId = false ↔
      ¬ Splits s input fault command := by
  have hsaved : savedGeneration input command = none ∨
      savedGeneration input command = some command.generation := by
    unfold savedGeneration
    cases input.identity.bind fun identity => identity.sessionFile <;> simp
  have hend : (s.openRun input fault command o OPEN_AWAITS).dir.generations command.sessionId = _ :=
    openRun_generations hs
  have hafter : ∀ dir : StateDir, dir.generationMismatch command.sessionId =
      mismatch (dir.generations command.sessionId).1 (dir.generations command.sessionId).2 :=
    fun _ => rfl
  rw [hafter, hend, Fault.mismatch_fromOpen hsaved ha, Splits, Bool.not_eq_true]

/-- A restarted host with a retained session of generation 1, whose open of generation 2 has
the lock. -/
def reopening : DurableHost where
  host :=
    let catalog := OrderedMap.empty.set [115] ⟨1, 2, .dormant, [], some [47]⟩
    let h : Host :=
      { Host.new DEFAULT_MULTIPLEXER_LIMITS true true 0 0 with
        catalog := catalog, catalogRecords := catalog }
    let command : OpenCommand := ⟨[], [115], 2, .open, [], [], none, none, none⟩
    (h.withLifecycle (.open command)).start 0 (.open command)
  dir :=
    { records := OrderedMap.empty.set [115] ⟨1, 2, .dormant, [], some [47]⟩
      manifests := OrderedMap.empty.set [115] ⟨1, none, some [47]⟩ }

theorem reopening_starts : OpenStarts reopening 0 ⟨[], [115], 2, .open, [], [], none, none, none⟩ where
  pc := by decide +kernel
  existing := by decide +kernel
  durable := rfl
  hasCatalog := rfl
  memory := by decide +kernel

/-- The catalog has the record of generation 2 and the final `saveManifest` throws: the
manifest of generation 1 stays. -/
theorem open_splits_generations :
    ∃ (s : DurableHost) (input : OpenInput) (fault : Fault) (command : OpenCommand) (o : OpId),
      OpenStarts s o command ∧ s.dir.generationMismatch command.sessionId = false ∧
      (s.openRun input fault command o OPEN_AWAITS).dir.generationMismatch command.sessionId =
        true :=
  ⟨reopening, ⟨none, some ⟨[115], some [47]⟩⟩, ⟨.manifest, .throws false (.other [])⟩,
    ⟨[], [115], 2, .open, [], [], none, none, none⟩, 0, reopening_starts, by decide +kernel,
    by decide +kernel⟩

/-- The same open whose catalog write throws: the error path restores the record. -/
theorem open_keeps_generations_catalog :
    (reopening.openRun ⟨none, some ⟨[115], some [47]⟩⟩ ⟨.catalog, .throws true (.other [])⟩
        ⟨[], [115], 2, .open, [], [], none, none, none⟩ 0 OPEN_AWAITS).dir.generationMismatch [115] =
      false :=
  (open_keeps_generations _ _ _ _ _ reopening_starts (by decide +kernel)).mpr
    (by unfold Splits; decide +kernel)

end DurableHost

end PiDaemon.Multiplexer
