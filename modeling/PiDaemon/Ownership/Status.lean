import Mathlib.Order.Nat
import PiDaemon.Ownership.Service

/-!
# Statuses and versions

An operation saves a record that it made from a copy read before.  In the runs in which the
stored record is still like the copy, a record that is released or in conflict stays so until a
new activation, and the source version and the base entries are never replaced by older ones.

* `Obeys` for `clock`: what an operation saves is at least as new as its copy;
* `answer_kept`: what one step keeps;
* `ownership_kept`: what a run keeps.
-/

namespace PiDaemon.Ownership

open Lib FileSessionOwnershipStore

/-! ## What is known of the inspections -/

/-- What the record holds was read by the inspections before `l`. -/
def SeenBefore (l : Nat) (record : SessionOwnershipRecord) : Prop :=
  record.source.inspection < l ∧ record.baseEntryIds.inspection < l

theorem SeenBefore.mono {l l' : Nat} {record : SessionOwnershipRecord} (h : SeenBefore l record)
    (hl : l ≤ l') : SeenBefore l' record :=
  ⟨h.1.trans_le hl, h.2.trans_le hl⟩

/-- The record may be saved over the copy `read`. -/
structure Updates (read record : SessionOwnershipRecord) : Prop where
  inventoryId : record.inventoryId = read.inventoryId
  status : record.status = .active → read.status = .active
  source : read.source.inspection ≤ record.source.inspection
  baseEntryIds : read.baseEntryIds.inspection ≤ record.baseEntryIds.inspection

def mayCall (l : Nat) : Call → Prop
  | .save (.copy read) record => SeenBefore l record ∧ Updates read record
  | .save (.activation _) record => SeenBefore l record
  | _ => True

def Learned (l l' : Nat) : (call : Call) → call.Answer → Prop
  | .getByManagedSession _, read => ∀ record, read = some record → SeenBefore l' record
  | .getByInventory _, read => ∀ record, read = some record → SeenBefore l' record
  | .inspectSessionFile _, file =>
    ∀ seen, file = .ok seen → l ≤ seen.inspection ∧ seen.inspection < l'
  | _, _ => True

/-- The local state is a number of inspections that have been made. -/
def clock : Rules Call Call.Answer Nat where
  before := mayCall
  after l call answer l' := l ≤ l' ∧ Learned l l' call answer

/-- The operation keeps to the rules from `l` inspections on. -/
def Keeps {X : Type} (l : Nat) (operation : Operation X) : Prop :=
  operation.Obeys clock (fun l' _ => l ≤ l') l

namespace Keeps

variable {X Y : Type} {l : Nat}

theorem pure {x : X} : Keeps l (Pure.pure x : Operation X) := le_rfl

variable {ticket : OwnershipTicketRecord} {mapping : SessionOwnershipRecord}
  {request : ActivationRequest} {sessionId : JsString} {error : SessionOwnershipError}
  {managed : Seen InspectedSessionFile} {mode : OpenMode}

theorem fail : Keeps l (Ownership.fail error : Operation X) := le_rfl

theorem ofExcept {result : Except Failure X} : Keeps l (Routine.ofExcept result) := le_rfl

theorem bind {operation : Operation X} {next : X → Operation Y} (h : Keeps l operation)
    (hnext : ∀ l' x, l ≤ l' → Keeps l' (next x)) : Keeps l (operation >>= next) :=
  Routine.Obeys.bind h
    (fun l' x hl => (hnext l' x hl).mono fun _ _ hpost => hl.trans hpost) fun _ _ hl => hl

theorem call {c : Call} {next : c.Answer → Operation Y} (hbefore : mayCall l c)
    (hafter : ∀ l' a, l ≤ l' → Learned l l' c a → Keeps l' (next a)) :
    Keeps l (Routine.perform c >>= next) :=
  .perform hbefore fun a l' ha =>
    (hafter l' a ha.1 ha.2).mono fun _ _ hpost => ha.1.trans hpost

theorem attempt {operation : Operation X} (h : Keeps l operation) : Keeps l operation.attempt :=
  Routine.Obeys.attempt h fun _ _ hpost => hpost

theorem tryCatch {operation : Operation X} {handler : Failure → Operation X}
    (h : Keeps l operation) (hhandler : ∀ l' error, l ≤ l' → Keeps l' (handler error)) :
    Keeps l (operation.tryCatch handler) :=
  Routine.Obeys.tryCatch h (fun _ _ hpost => hpost) fun l' error hl =>
    (hhandler l' error hl).mono fun _ _ hpost => hl.trans hpost

theorem throwing {c : Call} {f : c.Answer → Except Failure X} {next : X → Operation Y}
    (hbefore : mayCall l c)
    (hok : ∀ l' a x, l ≤ l' → Learned l l' c a → f a = .ok x → Keeps l' (next x)) :
    Keeps l ((Routine.perform c >>= fun a => Routine.ofExcept (f a)) >>= next) := by
  refine ⟨hbefore, fun a l' ha => ?_⟩
  change Routine.Obeys clock _ l' (Routine.ofExcept (f a) >>= next)
  cases hf : f a with
  | error => exact ha.1
  | ok x => exact (hok l' a x ha.1 ha.2 hf).mono fun _ _ hpost => ha.1.trans hpost

theorem asked {q : Query} {next : q.Answer → Operation Y}
    (h : ∀ l' a, l ≤ l' → Keeps l' (next a)) : Keeps l (ask q >>= next) :=
  throwing (c := .query q) (f := id) trivial fun l' _ x hl _ _ => h l' x hl

theorem inspected {path : JsString} {next : Seen InspectedSessionFile → Operation Y}
    (h : ∀ l' file, l ≤ l' → l ≤ file.inspection → file.inspection < l' → Keeps l' (next file)) :
    Keeps l (inspectSessionFile path >>= next) :=
  throwing (c := .inspectSessionFile path) (f := id) trivial fun l' _ file hl hlearned hfile =>
    h l' file hl (hlearned file hfile).1 (hlearned file hfile).2

theorem asks {q : Query} : Keeps l (ask q) := call trivial fun _ _ _ _ => ofExcept

theorem closes {generation : Nat} : Keeps l (closeSession sessionId generation) :=
  call trivial fun _ _ _ _ => ofExcept

theorem savesCopy {read record : SessionOwnershipRecord} (hseen : SeenBefore l record)
    (hupdates : Updates read record) : Keeps l (save (.copy read) record) :=
  call (c := .save (.copy read) record) ⟨hseen, hupdates⟩ fun _ _ _ _ => ofExcept

theorem savesActivation {scope : JsString} {record : SessionOwnershipRecord}
    (hseen : SeenBefore l record) : Keeps l (save (.activation scope) record) :=
  call (c := .save (.activation scope) record) hseen fun _ _ _ _ => ofExcept

theorem fails {p : Prop} [Decidable p] : Keeps l (Ownership.failIf p error) := by
  rw [Ownership.failIf, Routine.failIf]
  split
  · exact le_rfl
  · exact le_rfl

theorem failIf {p : Prop} [Decidable p] {next : Unit → Operation Y} (h : Keeps l (next ())) :
    Keeps l (Ownership.failIf p error >>= next) :=
  Routine.Obeys.failIf (fun _ => h) fun _ => le_rfl

theorem unit {operation : Operation X} (h : Keeps l operation) :
    Keeps l (operation >>= fun _ => Pure.pure PUnit.unit) :=
  h.bind fun _ _ _ => pure

/-! ### Operations -/

theorem transitions {scope : JsString} {state : DashboardTicketState}
    {result : Option TicketResult} {error : Option ApiErrorBody} :
    Keeps l (transition scope state result error) :=
  call trivial fun _ _ _ _ => ofExcept

theorem requireMapping {sessionRef : JsString} {next : SessionOwnershipRecord → Operation Y}
    (h : ∀ l' mapping, l ≤ l' → SeenBefore l' mapping → Keeps l' (next mapping)) :
    Keeps l (Ownership.requireMapping sessionRef >>= next) := by
  refine call trivial fun l₁ bySession h₁ hbySession => ?_
  cases bySession with
  | some mapping => exact h l₁ mapping h₁ (hbySession mapping rfl)
  | none =>
    refine call trivial fun l₂ byInventory h₂ hbyInventory => ?_
    cases byInventory with
    | some mapping => exact h l₂ mapping (h₁.trans h₂) (hbyInventory mapping rfl)
    | none => exact fail

theorem markConflict {code : String} (hmapping : SeenBefore l mapping) :
    Keeps l (Ownership.markConflict mapping code) := by
  refine asked fun l₁ detectedAt h₁ => asked fun l₂ updatedAt h₂ => ?_
  refine bind (savesCopy ?_ ?_) fun _ _ _ => ?_
  · exact hmapping.mono (h₁.trans h₂)
  · exact ⟨rfl, fun hactive => SessionOwnershipStatus.noConfusion hactive, le_rfl, le_rfl⟩
  · exact (attempt closes).bind fun _ _ _ => (attempt asks).unit

theorem beforeManagedWrite : Keeps l (Ownership.beforeManagedWrite sessionId) := by
  refine call trivial fun l₁ read h₁ hread => ?_
  cases read with
  | none => exact pure
  | some mapping =>
    have hmapping := hread mapping rfl
    dsimp only
    split
    · exact pure
    refine inspected fun l₂ current h₂ _ _ => ?_
    split
    · exact pure
    · exact (markConflict (hmapping.mono h₂)).bind fun _ _ _ => fail

variable {service : SessionOwnershipService}

theorem afterManagedWrite : Keeps l (service.afterManagedWrite sessionId) := by
  refine call trivial fun l₁ read h₁ hread => ?_
  cases read with
  | none => exact pure
  | some mapping =>
    have hmapping := hread mapping rfl
    dsimp only
    split
    · exact pure
    refine inspected fun l₂ current h₂ hsince hbefore => ?_
    split
    · exact (markConflict (hmapping.mono h₂)).bind fun _ _ _ => fail
    refine asked fun l₃ updatedAt h₃ => asked fun l₄ now h₄ => ?_
    have hlater : l₂ ≤ l₄ := h₃.trans h₄
    refine unit (savesCopy ⟨?_, ?_⟩ ⟨rfl, fun hactive => hactive, ?_, ?_⟩)
    · split
      · exact hbefore.trans_le hlater
      · exact hmapping.1.trans_le (h₂.trans hlater)
    · exact hbefore.trans_le hlater
    · split
      · exact hmapping.1.le.trans hsince
      · exact le_rfl
    · exact hmapping.2.le.trans hsince

theorem renewLease {sessionRef leaseId : JsString} :
    Keeps l (service.renewLease sessionRef leaseId) := by
  refine requireMapping fun l₁ mapping h₁ hmapping => ?_
  split
  · exact fail
  · refine asked fun l₂ now h₂ => asked fun l₃ updatedAt h₃ => ?_
    exact savesCopy (hmapping.mono (h₂.trans h₃)) ⟨rfl, fun hactive => hactive, le_rfl, le_rfl⟩

theorem release {sessionRef : JsString} : Keeps l (Ownership.release sessionRef) := by
  refine requireMapping fun l₁ mapping h₁ hmapping => ?_
  refine asked fun l₂ controller h₂ => failIf (asked fun l₃ busy h₃ => failIf ?_)
  refine closes.bind fun l₄ _ h₄ => asked fun l₅ updatedAt h₅ => ?_
  have hlater : l₁ ≤ l₅ := h₂.trans (h₃.trans (h₄.trans h₅))
  refine bind (savesCopy ?_ ?_) fun _ _ _ => asks
  · exact hmapping.mono hlater
  · exact ⟨rfl, fun hactive => SessionOwnershipStatus.noConfusion hactive, le_rfl, le_rfl⟩

theorem checkRecords {records : List SessionOwnershipRecord} {conflicted : List JsString} :
    Keeps l (Ownership.checkRecords records conflicted) := by
  induction records generalizing l conflicted with
  | nil => exact pure
  | cons mapping rest ih =>
    rw [Ownership.checkRecords]
    split
    · exact ih
    refine (attempt beforeManagedWrite).bind fun l₁ result h₁ => ?_
    cases result with
    | ok => exact ih
    | error =>
      dsimp only
      split
      · exact ih
      · exact le_rfl

theorem checkForExternalConflicts : Keeps l Ownership.checkForExternalConflicts :=
  call trivial fun _ _ _ _ => checkRecords

theorem runTicket {operation : Operation OwnershipTicketRecord}
    (h : ∀ l', l ≤ l' → Keeps l' operation) : Keeps l (Ownership.runTicket ticket operation) := by
  rw [Ownership.runTicket]
  split
  · exact pure
  refine call trivial fun l₁ entered h₁ _ => ?_
  split
  · refine (attempt ?_).bind fun _ _ _ => call trivial fun _ _ _ _ => ofExcept
    refine transitions.bind fun l₂ _ h₂ => ?_
    exact tryCatch (h l₂ (h₁.trans h₂)) fun _ _ _ => transitions
  · exact asks

theorem assertNotBusy {managed : Option (JsString × Nat)} :
    Keeps l (Ownership.assertNotBusy managed) := by
  cases managed with
  | none => exact pure
  | some => exact asked fun _ _ _ => failIf (asked fun _ _ _ => fails)

theorem admitSource {info : SessionInfo} {next : Seen InspectedSessionFile → Operation Y}
    (h : ∀ l' source, l ≤ l' → source.inspection < l' → Keeps l' (next source)) :
    Keeps l (Ownership.admitSource ticket request mode info >>= next) := by
  simp only [Ownership.admitSource, Routine.bind_assoc]
  refine failIf (failIf (assertNotBusy.bind fun l₁ _ h₁ => ?_))
  cases info.sourcePath with
  | none => exact fail
  | some =>
    simp only [Routine.bind_assoc]
    refine asked fun l₂ _ h₂ => asked fun l₃ _ h₃ => inspected fun l₄ source h₄ _ hsource => ?_
    refine failIf (bind (call trivial fun _ _ _ _ => ofExcept) fun l₅ _ h₅ => ?_)
    refine asked fun l₆ writer h₆ => failIf (h l₆ source ?_ (hsource.trans_le (h₅.trans h₆)))
    exact h₁.trans (h₂.trans (h₃.trans (h₄.trans (h₅.trans h₆))))

theorem openSource {info : SessionInfo} {managedSessionId canonicalPath : JsString} :
    Keeps l (Ownership.openSource ticket request mode info managedSessionId canonicalPath) := by
  have hdirectory : Keeps l (sessionDirectory mode info.cwd managedSessionId canonicalPath) := by
    cases mode with
    | direct => exact pure
    | fork => exact asks
  refine hdirectory.bind fun l₁ directory h₁ => asked fun l₂ name h₂ => ?_
  refine bind (call trivial fun _ _ _ _ => ofExcept) fun l₃ opened h₃ => ?_
  cases opened.sessionFile with
  | none => exact fail
  | some sessionFile =>
    have hprotect : Keeps l₃ (protectFork mode sessionFile) := by
      cases mode with
      | direct => exact pure
      | fork => exact asks
    exact hprotect.bind fun _ _ _ => inspected fun _ _ _ _ _ => pure

theorem recordActivation {leaseId managedSessionId : JsString} {source : Seen InspectedSessionFile}
    {opened : Nat × Seen InspectedSessionFile} (hsource : source.inspection < l) :
    Keeps l (service.recordActivation ticket mode leaseId managedSessionId source opened) := by
  refine asked fun l₁ now h₁ => asked fun l₂ leaseNow h₂ => ?_
  refine bind (savesActivation ?_) fun _ _ _ => asked fun _ _ _ => asked fun _ _ _ => transitions
  exact ⟨hsource.trans_le (h₁.trans h₂), hsource.trans_le (h₁.trans h₂)⟩

theorem openManaged {leaseId : JsString} {info : SessionInfo} :
    Keeps l (service.openManaged ticket request mode leaseId info) :=
  admitSource fun _ _ _ hsource => openSource.bind fun _ _ hl =>
    recordActivation (hsource.trans_le hl)

theorem activate {leaseId : JsString} : Keeps l (service.activate ticket request leaseId) := by
  rw [SessionOwnershipService.activate]
  split
  · exact transitions
  · refine asked fun l₁ info h₁ => ?_
    cases info with
    | none => exact fail
    | some =>
      refine call trivial fun l₂ existing h₂ _ => ?_
      dsimp only
      split
      · exact fail
      refine bind ?_ fun _ _ _ => asked fun _ _ _ => asked fun _ _ _ => transitions
      cases Option.filter _ existing with
      | none => exact pure
      | some => exact renewLease.unit
  -- The two modes that open a source.
  all_goals
    refine asked fun l₁ info h₁ => ?_
    cases info with
    | none => exact fail
    | some => exact call trivial fun _ _ _ _ => openManaged

theorem activateSession {inventoryId : JsString} {leaseId : JsString} :
    Keeps l (service.activateSession inventoryId request leaseId) :=
  bind (call trivial fun _ _ _ _ => ofExcept) fun _ _ _ => runTicket fun _ _ => activate

theorem exportAsNew : Keeps l (service.exportAsNew managed sessionId) := by
  refine asked fun _ _ _ => asked fun _ _ _ => asked fun _ _ _ => asked fun _ _ _ => ?_
  exact call trivial fun _ _ _ _ => ofExcept

theorem appendToOrigin (hmapping : SeenBefore l mapping) :
    Keeps l (Ownership.appendToOrigin mapping managed) := by
  refine failIf (asked fun l₁ writer h₁ => failIf (inspected fun l₂ origin h₂ _ _ => ?_))
  split
  · exact (markConflict (hmapping.mono (h₁.trans h₂))).bind fun _ _ _ => fail
  refine failIf (failIf (inspected fun l₃ latest h₃ _ _ => ?_))
  split
  · exact (markConflict (hmapping.mono (h₁.trans (h₂.trans h₃)))).bind fun _ _ _ => fail
  · exact asked fun _ _ _ => call trivial fun _ _ _ _ => ofExcept

theorem publish {mode : ExportMode} (hmapping : SeenBefore l mapping) :
    Keeps l (service.publish mapping mode managed sessionId) := by
  cases mode with
  | asNew =>
    refine exportAsNew.bind fun _ exported _ => asked fun _ _ _ => asked fun _ found _ => ?_
    cases found with
    | none => exact fail
    | some => exact pure
  | appendToOrigin =>
    exact (appendToOrigin hmapping).bind fun _ _ _ => asked fun _ _ _ => pure

theorem recordExport {request : SessionExportRequest}
    {exported : JsString × Seen InspectedSessionFile} (hmapping : SeenBefore l mapping)
    (hmanaged : managed.inspection < l)
    (hbase : mapping.baseEntryIds.inspection ≤ managed.inspection) :
    Keeps l (Ownership.recordExport ticket request mapping managed exported) := by
  refine bind ?_ fun _ _ _ => bind ?_ fun _ _ _ => transitions
  · cases request.mode with
    | asNew =>
      refine asked fun l₁ updatedAt h₁ => savesCopy ?_ ?_
      · exact hmapping.mono h₁
      · exact ⟨rfl, fun hactive => hactive, le_rfl, le_rfl⟩
    | appendToOrigin =>
      refine inspected fun l₁ origin h₁ hsince hbefore => asked fun l₂ updatedAt h₂ => ?_
      refine savesCopy ⟨?_, ?_⟩ ⟨rfl, fun hactive => hactive, ?_, hbase⟩
      · exact hbefore.trans_le h₂
      · exact hmanaged.trans_le (h₁.trans h₂)
      · exact hmapping.1.le.trans hsince
  · rw [releaseAfter]
    split
    · exact release
    · exact pure

theorem exportManaged {request : SessionExportRequest} :
    Keeps l (service.exportManaged ticket request sessionId) := by
  refine requireMapping fun l₁ mapping h₁ hmapping => failIf (asked fun l₂ controller h₂ => ?_)
  refine failIf (asked fun l₃ busy h₃ => failIf (failIf ?_))
  refine inspected fun l₄ managed h₄ hsince hbefore => failIf ?_
  have hread : SeenBefore l₄ mapping := hmapping.mono (h₂.trans (h₃.trans h₄))
  refine (publish hread).bind fun l₅ exported h₅ => ?_
  exact recordExport (hread.mono h₅) (hbefore.trans_le h₅)
    (hmapping.2.le.trans ((h₂.trans h₃).trans hsince))

theorem exportSession {sessionRef : JsString} {request : SessionExportRequest}
    {fileId : JsString} : Keeps l (service.exportSession sessionRef request fileId) :=
  bind (call trivial fun _ _ _ _ => ofExcept) fun _ _ _ => runTicket fun _ _ => exportManaged

/-- **Every operation keeps to the rules.** -/
theorem operation (start : Start) : Keeps l (start.operation service) := by
  cases start with
  | beforeManagedWrite => exact beforeManagedWrite
  | afterManagedWrite => exact afterManagedWrite
  | renewLease => exact renewLease.unit
  | release => exact release
  | checkForExternalConflicts => exact checkForExternalConflicts.unit
  | activateSession => exact activateSession.unit
  | exportSession => exact exportSession.unit

end Keeps

/-! ## What a step keeps -/

/-- The stored records hold what was read before. -/
def World.Dated (world : World) : Prop := world.store.All (SeenBefore world.inspections)

/-- What the record holds is not older than what `old` holds. -/
def NotOlder (old record : SessionOwnershipRecord) : Prop :=
  old.source.inspection ≤ record.source.inspection ∧
    old.baseEntryIds.inspection ≤ record.baseEntryIds.inspection

/-- Every stored record is followed by one that is not older. -/
def World.Newer (world world' : World) : Prop :=
  ∀ inventoryId record, world.store.getByInventory inventoryId = some record →
    ∃ record', world'.store.getByInventory inventoryId = some record' ∧ NotOlder record record'

/-- The record of the item is released or in conflict. -/
def World.Ended (inventoryId : JsString) (world : World) : Prop :=
  ∃ record, world.store.getByInventory inventoryId = some record ∧ record.status ≠ .active

/-- What is saved does not undo what was saved since its copy was read; the record of an
activation does not hold older versions than the stored one. -/
def SaveCurrent (world : World) : Call → Prop
  | .save (.copy read) record =>
    ∀ stored, world.store.getByInventory record.inventoryId = some stored →
      (record.status = .active → stored.status = read.status) ∧ stored.source = read.source ∧
        stored.baseEntryIds = read.baseEntryIds
  | .save (.activation _) record =>
    ∀ stored, world.store.getByInventory record.inventoryId = some stored → NotOlder stored record
  | _ => True

/-- The call saves the record of a new activation of the item. -/
def Activates (inventoryId : JsString) : Call → Prop
  | .save (.activation _) record => record.inventoryId = inventoryId
  | _ => False

instance NotOlder.decidable (old record : SessionOwnershipRecord) :
    Decidable (NotOlder old record) :=
  inferInstanceAs (Decidable (_ ∧ _))

instance SaveCurrent.decidable (world : World) : (call : Call) → Decidable (SaveCurrent world call)
  | .save (.copy read) record =>
    inferInstanceAs (Decidable (∀ stored ∈ world.store.getByInventory record.inventoryId,
      (record.status = .active → stored.status = read.status) ∧ stored.source = read.source ∧
        stored.baseEntryIds = read.baseEntryIds))
  | .save (.activation _) record =>
    inferInstanceAs (Decidable (∀ stored ∈ world.store.getByInventory record.inventoryId,
      NotOlder stored record))
  | .query _ | .getByManagedSession _ | .getByInventory _ | .list | .assertNoCompetingOwner _ _ _ _
  | .begin _ _ | .transition _ _ _ _ | .enter _ | .leave _ | .inspectSessionFile _ | .open _ _
  | .close _ _ => .isTrue trivial

instance Activates.decidable (inventoryId : JsString) :
    (call : Call) → Decidable (Activates inventoryId call)
  | .save (.activation _) record =>
    inferInstanceAs (Decidable (record.inventoryId = inventoryId))
  | .save (.copy _) _ | .query _ | .getByManagedSession _ | .getByInventory _ | .list
  | .assertNoCompetingOwner _ _ _ _ | .begin _ _ | .transition _ _ _ _ | .enter _ | .leave _
  | .inspectSessionFile _ | .open _ _ | .close _ _ => .isFalse fun h => h

theorem NotOlder.refl (record : SessionOwnershipRecord) : NotOlder record record :=
  ⟨le_rfl, le_rfl⟩

theorem NotOlder.trans {first second third : SessionOwnershipRecord} (h : NotOlder first second)
    (h' : NotOlder second third) : NotOlder first third :=
  ⟨h.1.trans h'.1, h.2.trans h'.2⟩

theorem World.Newer.refl (world : World) : world.Newer world :=
  fun _ record h => ⟨record, h, .refl record⟩

theorem World.Newer.trans {first second third : World} (h : first.Newer second)
    (h' : second.Newer third) : first.Newer third := by
  intro inventoryId record hrecord
  obtain ⟨next, hnext, hfirst⟩ := h inventoryId record hrecord
  obtain ⟨last, hlast, hsecond⟩ := h' inventoryId next hnext
  exact ⟨last, hlast, hfirst.trans hsecond⟩

variable {service : SessionOwnershipService} {limits : OwnershipStoreLimits} {world : World}
  {task : Nat} {environment : Environment} {call : Call} {l : Nat}

/-- A saved record is not older than the one that it replaces. -/
theorem notOlder_of_save {origin : SaveOrigin} {record stored : SessionOwnershipRecord}
    (hbefore : mayCall l (.save origin record)) (hcurrent : SaveCurrent world (.save origin record))
    (hstored : world.store.getByInventory record.inventoryId = some stored) :
    NotOlder stored record := by
  cases origin with
  | activation => exact hcurrent stored hstored
  | copy =>
    obtain ⟨-, hsource, hbase⟩ := hcurrent stored hstored
    obtain ⟨-, hupdates⟩ := hbefore
    rw [NotOlder, hsource, hbase]
    exact ⟨hupdates.source, hupdates.baseEntryIds⟩

/-- A copy that is saved as active was active, and so is the stored record. -/
theorem active_of_save {read record stored : SessionOwnershipRecord}
    (hbefore : mayCall l (.save (.copy read) record))
    (hcurrent : SaveCurrent world (.save (.copy read) record))
    (hstored : world.store.getByInventory record.inventoryId = some stored)
    (hactive : record.status = .active) : stored.status = .active := by
  rw [(hcurrent stored hstored).1 hactive]
  exact hbefore.2.status hactive

/-- A call saves a record, or no record changes. -/
theorem answer_cases (limits : OwnershipStoreLimits) (world : World) (task : Nat)
    (environment : Environment) (call : Call) :
    (∃ origin record, call = .save origin record ∧ ∀ inventoryId,
        (world.answer limits task environment call).1.store.getByInventory inventoryId =
          if record.inventoryId = inventoryId then some record
          else world.store.getByInventory inventoryId) ∨
      ∀ inventoryId,
        (world.answer limits task environment call).1.store.getByInventory inventoryId =
          world.store.getByInventory inventoryId := by
  rcases @World.records_of_answer limits world task environment call with
    ⟨origin, record, store, rfl, hsave, h⟩ | ⟨h, -⟩
  · refine .inl ⟨origin, record, rfl, fun inventoryId => ?_⟩
    rw [h, World.saved_store]
    exact getByInventory_of_save hsave inventoryId
  · refine .inr fun inventoryId => ?_
    rw [FileSessionOwnershipStore.getByInventory, h, FileSessionOwnershipStore.getByInventory]

theorem dated_of_answer (hdated : world.Dated) (hl : l ≤ world.inspections)
    (hbefore : mayCall l call) : (world.answer limits task environment call).1.Dated := by
  have hlater : world.inspections ≤ (world.answer limits task environment call).1.inspections :=
    World.inspections_of_answer call
  intro inventoryId record hrecord
  rcases answer_cases limits world task environment call with ⟨origin, _, rfl, h⟩ | h
  · rw [h] at hrecord
    split at hrecord
    · cases hrecord
      cases origin with
      | copy => exact hbefore.1.mono (hl.trans hlater)
      | activation => exact SeenBefore.mono hbefore (hl.trans hlater)
    · exact (hdated inventoryId record hrecord).mono hlater
  · rw [h] at hrecord
    exact (hdated inventoryId record hrecord).mono hlater

/-- **No version is replaced by an older one.** -/
theorem newer_of_answer (hbefore : mayCall l call) (hcurrent : SaveCurrent world call) :
    world.Newer (world.answer limits task environment call).1 := by
  intro inventoryId record hrecord
  rcases answer_cases limits world task environment call with ⟨_, saved, rfl, h⟩ | h
  · rw [h]
    split
    · rename_i heq
      subst heq
      exact ⟨saved, rfl, notOlder_of_save hbefore hcurrent hrecord⟩
    · exact ⟨record, hrecord, .refl record⟩
  · rw [h]
    exact ⟨record, hrecord, .refl record⟩

/-- **No record becomes active again.** -/
theorem ended_of_answer {inventoryId : JsString} (hbefore : mayCall l call)
    (hcurrent : SaveCurrent world call) (hactivates : ¬Activates inventoryId call)
    (hended : world.Ended inventoryId) :
    (world.answer limits task environment call).1.Ended inventoryId := by
  obtain ⟨record, hrecord, hstatus⟩ := hended
  rcases answer_cases limits world task environment call with ⟨origin, saved, rfl, h⟩ | h
  · rw [World.Ended, h]
    split
    · rename_i heq
      subst heq
      refine ⟨saved, rfl, fun hactive => ?_⟩
      cases origin with
      | activation => exact hactivates rfl
      | copy => exact hstatus (active_of_save hbefore hcurrent hrecord hactive)
    · exact ⟨record, hrecord, hstatus⟩
  · rw [World.Ended, h]
    exact ⟨record, hrecord, hstatus⟩

/-- What an answer tells. -/
theorem learned_of_answer (hdated : world.Dated) (hl : l ≤ world.inspections) :
    Learned l (world.answer limits task environment call).1.inspections call
      (world.answer limits task environment call).2 := by
  cases call with
  | getByManagedSession =>
    intro record hrecord
    exact hdated.getByManagedSession hrecord
  | getByInventory inventoryId =>
    intro record hrecord
    exact hdated inventoryId record hrecord
  | inspectSessionFile path =>
    intro seen hseen
    rw [World.answer] at hseen ⊢
    cases hfile : environment.inspect path with
    | error => simp [hfile, Except.map] at hseen
    | ok =>
      simp only [hfile, Except.map, Except.ok.injEq] at hseen
      subst hseen
      exact ⟨hl, Nat.lt_succ_self _⟩
  | _ => trivial

/-! ## Runs -/

/-- The operations keep to the rules. -/
abbrev Orderly (state : State) : Prop :=
  state.Sound clock (fun _ _ => True) World.Dated fun world _ l => l ≤ world.inspections

def NewerWorld (state state' : State) : Prop := state.world.Newer state'.world

/-- The step does not undo what was saved since its copy was read. -/
def Current (state : State) : Event → Prop
  | .start _ _ => True
  | .answer id environment =>
    Pool.Suspended (fun world _ _ call => SaveCurrent world call) state id environment

/-- The step does not save the record of a new activation of the item. -/
def NoActivation (inventoryId : JsString) (state : State) : Event → Prop
  | .start _ _ => True
  | .answer id environment =>
    Pool.Suspended (fun _ _ _ call => ¬Activates inventoryId call) state id environment

instance Current.decidable (state : State) : (event : Event) → Decidable (Current state event)
  | .start _ _ => .isTrue trivial
  | .answer id environment =>
    inferInstanceAs (Decidable
      (Pool.Suspended (fun world _ _ call => SaveCurrent world call) state id environment))

instance NoActivation.decidable (inventoryId : JsString) (state : State) :
    (event : Event) → Decidable (NoActivation inventoryId state event)
  | .start _ _ => .isTrue trivial
  | .answer id environment =>
    inferInstanceAs (Decidable
      (Pool.Suspended (fun _ _ _ call => ¬Activates inventoryId call) state id environment))

theorem Recovered.orderly {state : State} (h : Recovered limits state) : Orderly state := by
  obtain ⟨_, _, hload, hseen⟩ := h.loaded
  refine ⟨all_of_load hseen hload, fun id routine hroutine => ?_⟩
  rw [h.idle] at hroutine
  cases hroutine

theorem orderly_step {state state' : State} {event : Event} (h : Orderly state)
    (hstep : step service limits state event = some state') : Orderly state' := by
  cases event with
  | start id start =>
    have hobeys : (start.operation service).Obeys clock (fun _ _ => True) 0 :=
      (Keeps.operation start).mono fun _ _ _ => trivial
    exact h.spawn (fun _ => Nat.zero_le _) hobeys hstep
  | answer id environment =>
    have hresume : state.resume (handler limits) id environment = some state' := hstep
    have hok : Pool.Suspended (fun _ _ _ _ => True) state id environment := fun _ _ _ => trivial
    refine h.resume ?_ hok hresume
    intro call l world' result hdated hl hbefore _ hanswer
    obtain ⟨rfl, rfl⟩ := handler_eq_some hanswer
    have hlater : state.world.inspections ≤
        (state.world.answer limits id environment call).1.inspections :=
      World.inspections_of_answer call
    refine ⟨dated_of_answer hdated hl hbefore, ⟨_, ⟨hl.trans hlater, ?_⟩, le_rfl⟩, ?_⟩
    · exact learned_of_answer hdated hl
    · exact fun other l' _ hother => hother.trans hlater

/-- A step that is not the answer to a call changes nothing in the world. -/
theorem step_cases {state state' : State} {event : Event} (h : Orderly state)
    (hstep : step service limits state event = some state') :
    state'.world = state.world ∨ ∃ id environment call next l,
      event = .answer id environment ∧ state.routines.get? id = some (.call call next) ∧
        mayCall l call ∧ state'.world = (state.world.answer limits id environment call).1 := by
  cases event with
  | start => exact .inl (Pool.world_of_spawn hstep)
  | answer id environment =>
    have hresume : state.resume (handler limits) id environment = some state' := hstep
    obtain ⟨call, next, _, _, hcall, hanswer, rfl⟩ := Pool.resume_eq_some.mp hresume
    obtain ⟨rfl, rfl⟩ := handler_eq_some hanswer
    obtain ⟨l, -, hbefore, -⟩ := h.routines id _ hcall
    exact .inr ⟨id, environment, call, next, l, rfl, hcall, hbefore, by simp⟩

theorem newer_step {state state' : State} {event : Event} (h : Orderly state)
    (hcurrent : Current state event) (hstep : step service limits state event = some state') :
    NewerWorld state state' := by
  rw [NewerWorld]
  rcases step_cases h hstep with hsame | ⟨_, _, call, next, _, rfl, hcall, hbefore, hworld⟩
  · rw [hsame]
    exact .refl _
  · rw [hworld]
    exact newer_of_answer hbefore (hcurrent call next hcall)

theorem ended_step {state state' : State} {event : Event} {inventoryId : JsString}
    (h : Orderly state) (hcurrent : Current state event)
    (hactivation : NoActivation inventoryId state event) (hended : state.world.Ended inventoryId)
    (hstep : step service limits state event = some state') : state'.world.Ended inventoryId := by
  rcases step_cases h hstep with hsame | ⟨_, _, call, next, _, rfl, hcall, hbefore, hworld⟩
  · rw [hsame]
    exact hended
  · rw [hworld]
    exact ended_of_answer hbefore (hcurrent call next hcall) (hactivation call next hcall) hended

/-- What the run keeps of the ownership of every item: the record stays, what it holds is never
older than before, and a record that is released or in conflict does not become active without a
new activation. -/
def OwnershipKept (service : SessionOwnershipService) (limits : OwnershipStoreLimits)
    (state : State) (events : List Event) : Prop :=
  ∀ state' inventoryId record, run (step service limits) state events = some state' →
    state.world.store.getByInventory inventoryId = some record →
    ∃ record', state'.world.store.getByInventory inventoryId = some record' ∧
      NotOlder record record' ∧
      (Meets (step service limits) (NoActivation inventoryId) state events →
        record.status ≠ .active → record'.status ≠ .active)

/-- **Ownership is not silently reverted.**  From every state that is reached, in the runs whose
steps are all current. -/
theorem ownership_kept {start state : State} {before later : List Event}
    (hstart : Recovered limits start)
    (hcurrent : Meets (step service limits) Current start (before ++ later))
    (hstate : run (step service limits) start before = some state) :
    OwnershipKept service limits state later := by
  intro state' inventoryId record hlater hrecord
  have horderly : Orderly state :=
    run_invariant (fun _ _ _ h hstep => orderly_step h hstep) hstart.orderly hstate
  obtain ⟨-, hcurrent⟩ := meets_append hstate hcurrent
  have hrefl : ∀ s, NewerWorld s s := fun s => World.Newer.refl s.world
  have htrans : ∀ a b c, NewerWorld a b → NewerWorld b c → NewerWorld a c :=
    fun _ _ _ => World.Newer.trans
  have hnewer : NewerWorld state state' :=
    run_relation hrefl htrans
      (fun _ _ _ h hok hstep => ⟨orderly_step h hstep, newer_step h hok hstep⟩)
      horderly hcurrent hlater
  obtain ⟨record', hrecord', hnotOlder⟩ := hnewer inventoryId record hrecord
  refine ⟨record', hrecord', hnotOlder, fun hactivation hstatus => ?_⟩
  have keep : ∀ s event s', Orderly s ∧ s.world.Ended inventoryId →
      Current s event ∧ NoActivation inventoryId s event →
      step service limits s event = some s' → Orderly s' ∧ s'.world.Ended inventoryId :=
    fun _ _ _ h hok hstep => ⟨orderly_step h.1 hstep, ended_step h.1 hok.1 hok.2 h.2 hstep⟩
  have hended : Orderly state' ∧ state'.world.Ended inventoryId :=
    run_invariant_of_meets keep ⟨horderly, record, hrecord, hstatus⟩ (hcurrent.both hactivation)
      hlater
  obtain ⟨-, _, hfound, hended⟩ := hended
  rw [hrecord'] at hfound
  cases hfound
  exact hended

/-! ### Fixed runs -/

/-- An active direct record. -/
def ownedRecord : SessionOwnershipRecord where
  inventoryId := text "i"
  managedSessionId := text "s"
  generation := 1
  mode := .direct
  status := .active
  source := ⟨⟨text "/f", text "v", 1, 0, [], [], 0, none⟩, 0⟩
  managedPath := text "/f"
  managedFingerprint := text "v"
  baseEntryIds := ⟨[], 0⟩
  lease := ⟨text "l", 0, 0⟩
  exportedInventoryIds := []
  conflict := none
  createdAt := 0
  updatedAt := 0

/-- Nothing fails, and the session file never changes. -/
def calm : Environment where
  query
    | .now => .ok 0
    | .hasController _ => .ok false
    | .isMutationActive _ => .ok false
    | .getInfo _ => .ok none
    | .inventoryIdForPiSession _ => .ok none
    | .writerProbe _ => .ok .none
    | .sessionDirForManagedSession _ _ => .ok []
    | .piSessionDirForCwd _ => .ok []
    | .runtimeSpec _ _ _ _ => .ok none
    | .inFlight _ => .error .other
    | .reconcile | .markActive _ _ | .assertSourceRoot _ | .assertCwd _ | .chmod _
    | .assertPathAbsent _ | .atomicWritePrivateBytes _ _ _ _ => .ok ()
  inspect path := .ok ⟨path, [], [], [], ⟨path, text "v", 1, 0, [], [], 0, none⟩⟩
  opens _ := .ok ⟨1, some (text "/f")⟩
  closes _ _ := .ok ()
  write := .ok ()
  pruned := []

def plainService : SessionOwnershipService where
  leaseMs := 60000
  deterministicManagedSessionId inventoryId _ key := inventoryId ++ key
  sessionFilePath directory _ id := directory ++ id

def ownedStore : FileSessionOwnershipStore :=
  match FileSessionOwnershipStore.load ⟨10, 10⟩ [ownedRecord] [] with
  | .ok store => store
  | .error _ => .empty

def owned : State := ⟨⟨ownedStore, .empty, .empty, 1⟩, .empty⟩

theorem recovered_owned : Recovered ⟨10, 10⟩ owned := by
  refine ⟨⟨[ownedRecord], [], ?_, by decide⟩, rfl, rfl, rfl⟩
  have hloads : (FileSessionOwnershipStore.load ⟨10, 10⟩ [ownedRecord] []).isOk = true := by
    decide +kernel
  rw [owned, ownedStore]
  split
  · assumption
  rename_i failure hfailure
  rw [hfailure] at hloads
  cases hloads

/-- A release reads the record, closes the session and saves. -/
def releasing : List Event :=
  .start 1 (.release (text "s")) :: List.replicate 6 (.answer 1 calm)

def renewing : List Event :=
  .start 0 (.renewLease (text "s") (text "l")) :: List.replicate 4 (.answer 0 calm)

theorem ownership_kept_renewed : ∃ state,
    run (step plainService ⟨10, 10⟩) owned renewing = some state ∧
      OwnershipKept plainService ⟨10, 10⟩ state releasing := by
  exact exists_some (by decide +kernel) fun state hstate =>
    ownership_kept recovered_owned (by decide +kernel) hstate

/-- A renewal of the lease reads the record, and the session is released before it saves. -/
def releasedMeanwhile : List Event :=
  .start 0 (.renewLease (text "s") (text "l")) :: List.replicate 3 (.answer 0 calm) ++ releasing

/-- Two checks after a write: the second reads and saves before the first saves. -/
def writtenMeanwhile : List Event :=
  .start 0 (.afterManagedWrite (text "s")) :: List.replicate 4 (.answer 0 calm) ++
    .start 1 (.afterManagedWrite (text "s")) :: List.replicate 5 (.answer 1 calm)

def recordOf (state : State) : Option SessionOwnershipRecord :=
  state.world.store.getByInventory (text "i")

/-- A released record becomes active again, and versions are replaced by older ones, in runs
without an activation. -/
theorem ownership_reverts : Recovered ⟨10, 10⟩ owned ∧
    (∃ state state', run (step plainService ⟨10, 10⟩) owned releasedMeanwhile = some state ∧
      run (step plainService ⟨10, 10⟩) state [.answer 0 calm] = some state' ∧
      Meets (step plainService ⟨10, 10⟩) (NoActivation (text "i")) state [.answer 0 calm] ∧
      (recordOf state).map (·.status) = some .released ∧
      (recordOf state').map (·.status) = some .active) ∧
    ∃ state state', run (step plainService ⟨10, 10⟩) owned writtenMeanwhile = some state ∧
      run (step plainService ⟨10, 10⟩) state [.answer 0 calm] = some state' ∧
      (recordOf state).map (fun record =>
        (record.source.inspection, record.baseEntryIds.inspection)) = some (2, 2) ∧
      (recordOf state').map (fun record =>
        (record.source.inspection, record.baseEntryIds.inspection)) = some (1, 1) := by
  simp only [exists_and_left]
  exact ⟨recovered_owned, by decide +kernel⟩

end PiDaemon.Ownership
