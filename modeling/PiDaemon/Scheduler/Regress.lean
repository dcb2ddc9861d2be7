import PiDaemon.Scheduler.Copies

/-!
# Occurrences are decided once

The cursor of one schedule along a run that does not edit it.

* `CursorInv`: the committed cursors are in order, an occurrence that is to be decided is
  after them, and one that waits for its replay has not been admitted;
* `cursor_nondecreasing`: so in every run that decides without a conflict, that replays
  an overlap only while it is the latest occurrence, and that runs no missed occurrence
  before its time;
* `decided_again`: runs that do otherwise.
-/

namespace PiDaemon.Scheduler

open Lib Durability List Option OrderedMap

namespace FileScheduleStore

/-! ## What a commit leaves of a schedule -/

/-- The schedule is the same in the memory and in the directory. -/
structure SameSchedule (id : JsString) (s t : FileScheduleStore) : Prop where
  record : t.get id = s.get id
  file : t.directory.get? (scheduleFileName id) = s.directory.get? (scheduleFileName id)

section
variable {limits : ScheduleLimits} {platform : SchedulePlatform} {id : JsString}
  {s t : FileScheduleStore}

theorem SameSchedule.refl (s : FileScheduleStore) : SameSchedule id s s := ⟨rfl, rfl⟩

variable {resource : ScheduleResource} {scheduleId : JsString}

theorem commit_other (hid : resource.scheduleId ≠ id) (outcome : FileOutcome) :
    SameSchedule id s (s.commit resource outcome).1 := by
  have hname : scheduleFileName resource.scheduleId ≠ scheduleFileName id :=
    fun heq => hid (scheduleFileName_injective heq)
  unfold commit
  simp only
  constructor
  · split
    · exact get?_set_ne _ hid _
    · rfl
  · split <;> split <;> first | rfl | exact get?_set_ne _ hname _

theorem commit_named (hid : resource.scheduleId ≠ id) (outcome : FileOutcome) :
    SameSchedule id s (s.commit resource outcome).1 ∧
      ∀ found, (s.commit resource outcome).2 = .ok found → found.scheduleId ≠ id := by
  refine ⟨commit_other hid outcome, fun found hok => ?_⟩
  rw [(commit_ok.mp hok).2]
  exact hid

theorem commit_file {outcome : FileOutcome} {file : ScheduleFile}
    (h : (s.commit resource outcome).1.directory.get? (scheduleFileName resource.scheduleId) = some file) :
    file.value = some resource ∨
      s.directory.get? (scheduleFileName resource.scheduleId) = some file := by
  unfold commit at h
  simp only at h
  have hfile : (if outcome.lands then s.directory.set (scheduleFileName resource.scheduleId)
      ⟨envelopeFileBytes resource, some resource⟩ else s.directory).get?
        (scheduleFileName resource.scheduleId) = some file := by
    split at h
    · exact h
    · exact h
  split at hfile
  · rw [get?_set_self] at hfile
    cases hfile
    exact Or.inl rfl
  · exact Or.inr hfile

theorem update_other (limits : ScheduleLimits) (platform : SchedulePlatform) (hid : scheduleId ≠ id) (revision : Nat)
    (definition : ScheduleDefinition) (now : Int) (outcome : FileOutcome) :
    SameSchedule id s (s.update limits platform scheduleId revision definition now outcome).1 ∧
      ∀ resource, (s.update limits platform scheduleId revision definition now outcome).2 =
        .ok resource → resource.scheduleId ≠ id := by
  unfold update
  cases hresource : s.updateResource limits platform scheduleId revision definition now with
  | error => simp [SameSchedule.refl s]
  | ok resource =>
    have hresource' := hresource
    unfold updateResource at hresource'
    simp only [bind_ok, check_ok, Bool.and_eq_true, decide_eq_true_eq] at hresource'
    obtain ⟨_, -, -, ⟨hdefinition, -⟩, hvalid⟩ := hresource'
    obtain ⟨_, -, hsame, -⟩ := validateScheduleResource_ok.mp hvalid
    have hne : resource.scheduleId ≠ id := by
      rw [hsame]
      exact fun heq => hid (hdefinition.symm.trans heq)
    exact commit_named hne outcome

theorem updateRuntimeState_other (limits : ScheduleLimits) (platform : SchedulePlatform) (hkeyed : s.Keyed)
    (hid : scheduleId ≠ id) (revision : Nat) (state : ScheduleRuntimeState) (now : Int) (outcome : FileOutcome) :
    SameSchedule id s
        (s.updateRuntimeState limits platform scheduleId revision state now outcome).1 ∧
      ∀ resource, (s.updateRuntimeState limits platform scheduleId revision state now outcome).2 =
        .ok resource → resource.scheduleId ≠ id := by
  unfold updateRuntimeState
  cases hresource : s.runtimeResource limits platform scheduleId revision state now with
  | error => simp [SameSchedule.refl s]
  | ok resource =>
    obtain ⟨current, _, hget, -, -, hsame, -⟩ := runtimeResource_ok.mp hresource
    have hcurrent : current.scheduleId = scheduleId := hkeyed _ _ hget
    have hne : resource.scheduleId ≠ id := by
      rw [hsame]
      exact fun heq => hid (hcurrent.symm.trans heq)
    exact commit_named hne outcome

theorem createResource_ok {definition : ScheduleDefinition} {now : Int}
    (h : s.createResource limits platform definition now = .ok resource) :
    s.get definition.scheduleId = none ∧
      validateScheduleResource limits platform.known
        { definition with
          revision := 0, createdAt := isoTimestamp now, updatedAt := isoTimestamp now } =
        .ok resource := by
  unfold createResource at h
  simp only [bind_ok, check_ok, exists_const_iff] at h
  obtain ⟨-, hfree, -, -, -, -, hvalid⟩ := h
  exact ⟨has_eq_false.mp (by simpa using hfree), hvalid⟩

theorem create_other (limits : ScheduleLimits) (platform : SchedulePlatform) {definition : ScheduleDefinition} (hid : definition.scheduleId ≠ id)
    (now : Int) (outcome : FileOutcome) :
    SameSchedule id s (s.create limits platform definition now outcome).1 ∧
      ∀ resource, (s.create limits platform definition now outcome).2 = .ok resource →
        resource.scheduleId ≠ id := by
  unfold create
  cases hresource : s.createResource limits platform definition now with
  | error => simp [SameSchedule.refl s]
  | ok resource =>
    obtain ⟨_, -, hsame, -⟩ := validateScheduleResource_ok.mp (createResource_ok hresource).2
    have hne : resource.scheduleId ≠ id := by
      rw [hsame]
      exact hid
    exact commit_named hne outcome

theorem delete_other (hid : scheduleId ≠ id) (revision : Nat) (outcome : FileOutcome) :
    SameSchedule id s (s.delete scheduleId revision outcome).1 := by
  have hname : scheduleFileName scheduleId ≠ scheduleFileName id :=
    fun heq => hid (scheduleFileName_injective heq)
  unfold delete
  split
  · exact SameSchedule.refl s
  simp only
  constructor
  · split
    · exact get?_delete_ne _ hid
    · rfl
  · split <;> split <;> first | rfl | exact get?_delete_ne _ hname

/-- What a load finds: each schedule in a file of its name. -/
theorem loadFiles_found {names : List JsString} {recovery : ScheduleRecovery} {record : ScheduleResource}
    (h : (loadFiles limits platform recovery names s).1.get scheduleId = some record) :
    s.get scheduleId = some record ∨ ∃ file value,
      s.directory.get? (scheduleFileName scheduleId) = some file ∧ file.value = some value ∧
        validateScheduleResource limits platform.known value = .ok record := by
  induction names generalizing s recovery with
  | nil => exact Or.inl h
  | cons name rest ih =>
    have hdropped : ∀ {recovery : ScheduleRecovery},
        (loadFiles limits platform recovery rest
          { s with directory := s.directory.delete name }).1.get scheduleId = some record →
        s.get scheduleId = some record ∨ ∃ file value,
          s.directory.get? (scheduleFileName scheduleId) = some file ∧ file.value = some value ∧
            validateScheduleResource limits platform.known value = .ok record := by
      intro recovery hrest
      rcases ih hrest with hget | ⟨file, value, hfile, hvalue⟩
      · exact Or.inl hget
      · exact Or.inr ⟨file, value, (get?_of_delete hfile).2, hvalue⟩
    rw [loadFiles] at h
    split at h
    · exact ih h
    rename_i file hfile
    simp only at h
    split at h
    · exact hdropped h
    split at h
    · exact Or.inl h
    split at h
    · exact hdropped h
    rename_i resource haccepted
    rcases ih h with hget | hfound
    · simp only [get, get?_set] at hget
      split at hget
      · rename_i hid
        cases hget
        unfold acceptedFile at haccepted
        split at haccepted
        · cases haccepted
        rename_i value hvalue
        split at haccepted
        · cases haccepted
        rename_i hvalid
        obtain ⟨hname, rfl⟩ := ite_some_none_eq_some.mp haccepted
        rw [← hid, hname.1]
        exact Or.inr ⟨file, value, hfile, hvalue, hvalid⟩
      · exact Or.inl hget
    · exact Or.inr hfound

/-- A load only removes files. -/
theorem loadFiles_directory {names : List JsString} {recovery : ScheduleRecovery} {name : JsString}
    {file : ScheduleFile}
    (h : (loadFiles limits platform recovery names s).1.directory.get? name = some file) :
    s.directory.get? name = some file := by
  induction names generalizing s recovery with
  | nil => exact h
  | cons other rest ih =>
    rw [loadFiles] at h
    split at h
    · exact ih h
    simp only at h
    split at h
    · exact (get?_of_delete (ih h)).2
    split at h
    · exact h
    split at h
    · exact (get?_of_delete (ih h)).2
    · have := ih h
      exact this

end

end FileScheduleStore

namespace SchedulerRuntime

/-! ## The invariant -/

/-- All but the call that the serialized work waits for. -/
structure CursorBase (platform : SchedulePlatform) (id : JsString) (s : SchedulerRuntime) :
    Prop where
  keyed : s.store.Keyed
  record : ∀ record, s.store.get id = some record →
    Timed platform record ∧ ∀ cursor ∈ s.cursors id, cursor ≤ record.cursor
  file : ∀ file value, s.store.directory.get? (scheduleFileName id) = some file →
    file.value = some value → Timed platform value ∧ ∀ cursor ∈ s.cursors id, cursor ≤ value.cursor
  sorted : (s.cursors id).Pairwise (· ≤ ·)
  settlements : ∀ m ∈ s.settlements, ∀ current state, m.stage = .persisting current state →
    current.scheduleId = id → Copy platform id s current ∧ StateTimed platform current state ∧
      lastCursor state.lastTrigger = current.cursor
  distinct : (s.waiting id).Nodup
  waited : ∀ t ∈ s.waiting id, s.Past id t ∧ t ∉ s.admittedTimes id
  once : (s.admittedTimes id).Nodup
  admitted : ∀ t ∈ s.admittedTimes id, s.Past id t

structure CursorInv (platform : SchedulePlatform) (id : JsString) (s : SchedulerRuntime) :
    Prop extends CursorBase platform id s where
  call : ∀ call, s.op = some call → CallOk platform id s call

section
variable {limits : ScheduleLimits} {platform : SchedulePlatform} {id : JsString}
  {s t : SchedulerRuntime}

theorem CursorBase.beyondHeld (h : CursorBase platform id s) : BeyondHeld id s := by
  intro x hsome hbeyond
  have hnot : ¬ s.Past id x := by
    rintro ⟨cursor, hcursor, hle⟩
    obtain ⟨record, hget⟩ := isSome_iff_exists.mp hsome
    exact absurd (hle.trans ((h.record record hget).2 cursor hcursor)) (not_le_of_gt (hbeyond record hget))
  exact ⟨fun hmem => hnot (h.waited x hmem).1, fun hmem => hnot (h.admitted x hmem)⟩

/-! ## Frames -/

/-- The records, the commits and the admissions are the same. -/
structure SameRecords (s t : SchedulerRuntime) : Prop where
  store : t.store = s.store
  commits : t.commits = s.commits
  admits : t.admits = s.admits

theorem SameRecords.cursors (h : SameRecords s t) : t.cursors id = s.cursors id := by
  unfold SchedulerRuntime.cursors
  rw [h.commits]

theorem SameRecords.admitted (h : SameRecords s t) : t.admittedTimes id = s.admittedTimes id := by
  unfold admittedTimes
  rw [h.admits]

theorem SameRecords.evolves (h : SameRecords s t) (hwaiting : t.waiting id ⊆ s.waiting id) :
    Evolves id s t := by
  constructor
  · intro record hget
    rw [← h.store] at hget
    exact ⟨record, hget, Newer.refl record⟩
  · intro record hget _
    rw [h.store] at hget
    exact ⟨record, hget, rfl⟩
  · rw [h.cursors]
    exact List.Subset.refl _
  · exact hwaiting
  · exact h.admitted

theorem Copy.of_store {copy : ScheduleResource} (h : Copy platform id s copy)
    (hstore : t.store = s.store) : Copy platform id t copy := by
  obtain ⟨htimed, record, hget, hnewer⟩ := h
  rw [← hstore] at hget
  exact ⟨htimed, record, hget, hnewer⟩

variable {d : Decision} {scheduleId : JsString}
  {result : FileScheduleStore × Except ScheduleError ScheduleResource} {schedule : ScheduleResource}
  {current : Option ScheduleResource} {input : SchedulerInput} {k : PersistCont}
  {state : ScheduleRuntimeState}

theorem ContRest.of_store {cont : OccurrenceCont} (h : ContRest platform id s scheduleId cont)
    (hstore : t.store = s.store) : ContRest platform id t scheduleId cont := by
  cases cont with
  | drain => trivial
  | due =>
    refine ⟨h.1, fun copy hmem hid => ?_⟩
    obtain ⟨hne, hcopy, hle⟩ := h.2 copy hmem hid
    rw [← hstore] at hle
    exact ⟨hne, hcopy.of_store hstore, hle⟩

theorem DecidedNow.of_store (h : DecidedNow platform id s d) (hstore : t.store = s.store) :
    DecidedNow platform id t d := by
  refine ⟨h.copy.of_store hstore, h.next, h.times, h.onTime, ?_⟩
  unfold AtLeast
  rw [hstore]
  exact h.latest

theorem CursorBase.frame (h : CursorBase platform id s) (hsame : SameRecords s t)
    (hsettlements : ∀ m ∈ t.settlements, ∀ current state, m.stage = .persisting current state →
      current.scheduleId = id → Copy platform id s current ∧ StateTimed platform current state ∧
        lastCursor state.lastTrigger = current.cursor)
    (hdistinct : (t.waiting id).Nodup)
    (hwaited : ∀ x ∈ t.waiting id, s.Past id x ∧ x ∉ s.admittedTimes id) :
    CursorBase platform id t := by
  have hpast : ∀ x, s.Past id x → t.Past id x := by
    rintro x ⟨cursor, hcursor, hle⟩
    exact ⟨cursor, by rw [hsame.cursors]; exact hcursor, hle⟩
  constructor
  · rw [hsame.store]
    exact h.keyed
  · rw [hsame.store, hsame.cursors]
    exact h.record
  · rw [hsame.store, hsame.cursors]
    exact h.file
  · rw [hsame.cursors]
    exact h.sorted
  · intro m hm current state hstage hid
    obtain ⟨hcopy, hrest⟩ := hsettlements m hm current state hstage hid
    exact ⟨hcopy.of_store hsame.store, hrest⟩
  · exact hdistinct
  · intro x hx
    rw [hsame.admitted]
    exact ⟨hpast x (hwaited x hx).1, (hwaited x hx).2⟩
  · rw [hsame.admitted]
    exact h.once
  · intro x hx
    rw [hsame.admitted] at hx
    exact hpast x (h.admitted x hx)

theorem waiting_of_same (hqueue : t.queue = s.queue) (hpending : t.pendingOverlaps = s.pendingOverlaps) :
    t.waiting id = s.waiting id := by
  unfold waiting
  rw [hqueue, hpending]

theorem CursorBase.onlyOp (h : CursorBase platform id s) (hop : OnlyOp s t) :
    CursorBase platform id t := by
  have hwaiting : t.waiting id = s.waiting id := waiting_of_same hop.queue hop.pendingOverlaps
  apply h.frame ⟨hop.store, hop.commits, hop.admits⟩
  · rw [hop.settlements]
    exact h.settlements
  · rw [hwaiting]
    exact h.distinct
  · rw [hwaiting]
    exact h.waited

theorem OnlyOp.evolves (hop : OnlyOp s t) : Evolves id s t := by
  apply SameRecords.evolves ⟨hop.store, hop.commits, hop.admits⟩
  rw [waiting_of_same hop.queue hop.pendingOverlaps]
  exact List.Subset.refl _

theorem CursorBase.sameWork (h : CursorBase platform id s) (hsame : SameWork s t)
    (hsettlements : ∀ m ∈ t.settlements, ∀ current state, m.stage = .persisting current state →
      current.scheduleId = id → Copy platform id s current ∧ StateTimed platform current state ∧
        lastCursor state.lastTrigger = current.cursor) :
    CursorBase platform id t := by
  have hwaiting : t.waiting id = s.waiting id := waiting_of_same hsame.queue hsame.pendingOverlaps
  apply h.frame ⟨hsame.store, hsame.commits, hsame.admits⟩ hsettlements
  · rw [hwaiting]
    exact h.distinct
  · rw [hwaiting]
    exact h.waited

theorem SameWork.evolves (hsame : SameWork s t) : Evolves id s t := by
  apply SameRecords.evolves ⟨hsame.store, hsame.commits, hsame.admits⟩
  rw [waiting_of_same hsame.queue hsame.pendingOverlaps]
  exact List.Subset.refl _

/-! ## Calls of the store -/

theorem cursors_record (s : SchedulerRuntime) (scheduleId : JsString)
    (result : FileScheduleStore × Except ScheduleError ScheduleResource) :
    (s.record scheduleId result).cursors id = s.cursors id ++
      (result.2.toOption.toList.filter fun resource => resource.scheduleId = id).map
        ScheduleResource.cursor := by
  unfold cursors SchedulerRuntime.record
  cases result.2 with
  | error => simp [Except.toOption]
  | ok resource =>
    by_cases hid : resource.scheduleId = id
    · simp [hid, Except.toOption]
    · simp [hid, Except.toOption]

theorem Evolves.record_other (scheduleId : JsString) (hsame : FileScheduleStore.SameSchedule id s.store result.1)
    (hother : ∀ resource, result.2 = .ok resource → resource.scheduleId ≠ id) :
    (s.record scheduleId result).cursors id = s.cursors id ∧
      Evolves id s (s.record scheduleId result) := by
  have hcursors : (s.record scheduleId result).cursors id = s.cursors id := by
    rw [cursors_record]
    cases hresult : result.2 with
    | error => simp [Except.toOption]
    | ok resource => simp [Except.toOption, hother resource hresult]
  refine ⟨hcursors, ?_, ?_, ?_, ?_, rfl⟩
  · intro record hget
    exact ⟨record, hsame.record.trans hget, Newer.refl record⟩
  · intro record hget _
    exact ⟨record, hsame.record.symm.trans hget, rfl⟩
  · rw [hcursors]
    exact List.Subset.refl _
  · exact List.Subset.refl _

theorem CursorBase.record_other (h : CursorBase platform id s) (hkeyed : result.1.Keyed)
    (hsame : FileScheduleStore.SameSchedule id s.store result.1)
    (hother : ∀ resource, result.2 = .ok resource → resource.scheduleId ≠ id) :
    CursorBase platform id (s.record scheduleId result) := by
  obtain ⟨hcursors, hevolves⟩ := Evolves.record_other scheduleId hsame hother
  constructor
  · exact hkeyed
  · rw [hcursors]
    intro record hget
    exact h.record record (hsame.record.symm.trans hget)
  · rw [hcursors]
    intro file value hfile
    exact h.file file value (hsame.file.symm.trans hfile)
  · rw [hcursors]
    exact h.sorted
  · intro m hm current state hstage hid
    obtain ⟨hcopy, hrest⟩ := h.settlements m hm current state hstage hid
    exact ⟨hcopy.advances hevolves.advances, hrest⟩
  · exact h.distinct
  · intro x hx
    exact ⟨(h.waited x hx).1.evolves hevolves, (h.waited x hx).2⟩
  · exact h.once
  · intro x hx
    exact (h.admitted x hx).evolves hevolves

/-! ## The schedule's own commits -/

/-- The record of the schedule gives way to a newer one, and all else is the same. -/
structure Replaces (id : JsString) (s t : SchedulerRuntime) (record resource : ScheduleResource) :
    Prop where
  old : s.store.get id = some record
  new : t.store.get id = some resource
  newer : Newer record resource
  cursors : t.cursors id = s.cursors id ++ [resource.cursor]
  queue : t.queue = s.queue
  pendingOverlaps : t.pendingOverlaps = s.pendingOverlaps
  admits : t.admits = s.admits

theorem Replaces.advances {record resource : ScheduleResource} (h : Replaces id s t record resource) :
    Advances id s t := by
  intro found hget
  rw [h.old] at hget
  cases hget
  exact ⟨resource, h.new, h.newer⟩

theorem Replaces.past {record resource : ScheduleResource} (h : Replaces id s t record resource)
    {x : Int} (hpast : s.Past id x) : t.Past id x := by
  obtain ⟨cursor, hcursor, hle⟩ := hpast
  exact ⟨cursor, by rw [h.cursors]; exact mem_append_left _ hcursor, hle⟩

/-- With the same cursor no occurrence has moved. -/
theorem Replaces.evolves {record resource : ScheduleResource} (h : Replaces id s t record resource)
    (hcursor : resource.cursor = record.cursor) : Evolves id s t := by
  constructor
  · exact h.advances
  · intro found hget _
    rw [h.new] at hget
    cases hget
    exact ⟨record, h.old, hcursor⟩
  · rw [h.cursors]
    exact subset_append_left _ _
  · rw [waiting_of_same h.queue h.pendingOverlaps]
    exact List.Subset.refl _
  · unfold admittedTimes
    rw [h.admits]

theorem CursorBase.replaces (h : CursorBase platform id s) {record resource : ScheduleResource}
    (hreplaces : Replaces id s t record resource) (hkeyed : t.store.Keyed)
    (htimed : Timed platform resource)
    (hfile : ∀ file value, t.store.directory.get? (scheduleFileName id) = some file →
      file.value = some value → value = resource)
    (hsettlements : t.settlements = s.settlements) : CursorBase platform id t := by
  have hbound : ∀ cursor ∈ t.cursors id, cursor ≤ resource.cursor := by
    intro cursor hcursor
    rw [hreplaces.cursors, mem_append, mem_singleton] at hcursor
    rcases hcursor with hcursor | rfl
    · exact ((h.record record hreplaces.old).2 cursor hcursor).trans hreplaces.newer.cursor
    · exact le_refl _
  have hwaiting : t.waiting id = s.waiting id :=
    waiting_of_same hreplaces.queue hreplaces.pendingOverlaps
  have hadmitted : t.admittedTimes id = s.admittedTimes id := by
    unfold admittedTimes
    rw [hreplaces.admits]
  constructor
  · exact hkeyed
  · intro found hget
    rw [hreplaces.new] at hget
    cases hget
    exact ⟨htimed, hbound⟩
  · intro file value hget hvalue
    rw [hfile file value hget hvalue]
    exact ⟨htimed, hbound⟩
  · rw [hreplaces.cursors, pairwise_append]
    refine ⟨h.sorted, pairwise_singleton _ _, ?_⟩
    intro cursor hcursor other hother
    rw [mem_singleton] at hother
    subst hother
    exact hbound cursor (by rw [hreplaces.cursors]; exact mem_append_left _ hcursor)
  · intro m hm current state hstage hid
    rw [hsettlements] at hm
    obtain ⟨hcopy, hrest⟩ := h.settlements m hm current state hstage hid
    exact ⟨hcopy.advances hreplaces.advances, hrest⟩
  · rw [hwaiting]
    exact h.distinct
  · rw [hwaiting, hadmitted]
    intro x hx
    exact ⟨hreplaces.past (h.waited x hx).1, (h.waited x hx).2⟩
  · rw [hadmitted]
    exact h.once
  · rw [hadmitted]
    intro x hx
    exact hreplaces.past (h.admitted x hx)

/-- The file of the schedule may be a newer one than its record. -/
theorem CursorBase.fileAhead (h : CursorBase platform id s) (hkeyed : t.store.Keyed)
    (hget : t.store.get id = s.store.get id)
    (hfile : ∀ file value, t.store.directory.get? (scheduleFileName id) = some file →
      file.value = some value → Timed platform value ∧ ∀ cursor ∈ s.cursors id, cursor ≤ value.cursor)
    (hcommits : t.commits = s.commits) (hadmits : t.admits = s.admits)
    (hqueue : t.queue = s.queue) (hpending : t.pendingOverlaps = s.pendingOverlaps)
    (hsettlements : t.settlements = s.settlements) :
    CursorBase platform id t ∧ Evolves id s t := by
  have hcursors : t.cursors id = s.cursors id := by
    unfold SchedulerRuntime.cursors
    rw [hcommits]
  have hadmitted : t.admittedTimes id = s.admittedTimes id := by
    unfold admittedTimes
    rw [hadmits]
  have hwaiting : t.waiting id = s.waiting id := waiting_of_same hqueue hpending
  have hevolves : Evolves id s t := by
    constructor
    · intro record hrecord
      exact ⟨record, hget.trans hrecord, Newer.refl record⟩
    · intro record hrecord _
      exact ⟨record, hget.symm.trans hrecord, rfl⟩
    · rw [hcursors]
      exact List.Subset.refl _
    · rw [hwaiting]
      exact List.Subset.refl _
    · exact hadmitted
  refine ⟨?_, hevolves⟩
  constructor
  · exact hkeyed
  · rw [hget, hcursors]
    exact h.record
  · rw [hcursors]
    exact hfile
  · rw [hcursors]
    exact h.sorted
  · intro m hm current state hstage hid
    rw [hsettlements] at hm
    obtain ⟨hcopy, hrest⟩ := h.settlements m hm current state hstage hid
    exact ⟨hcopy.advances hevolves.advances, hrest⟩
  · rw [hwaiting]
    exact h.distinct
  · rw [hwaiting, hadmitted]
    intro x hx
    exact ⟨(h.waited x hx).1.evolves hevolves, (h.waited x hx).2⟩
  · rw [hadmitted]
    exact h.once
  · rw [hadmitted]
    intro x hx
    exact (h.admitted x hx).evolves hevolves

theorem CursorBase.updateCall (h : CursorBase platform id s) (limits : ScheduleLimits) (input : SchedulerInput)
    (hid : schedule.scheduleId = id) (hcopy : Copy platform id s schedule)
    (hstate : StateTimed platform schedule state)
    (hadvance : s.store.get id = some schedule → schedule.cursor ≤ lastCursor state.lastTrigger) :
    CursorBase platform id
        (s.record schedule.scheduleId (s.updateCall limits platform schedule state input)) ∧
      ((∃ resource, (s.updateCall limits platform schedule state input).2 = .ok resource ∧
          resource.scheduleId = id ∧ resource.cursor = lastCursor state.lastTrigger ∧
          Timed platform resource ∧
          Replaces id s
            (s.record schedule.scheduleId (s.updateCall limits platform schedule state input))
            schedule resource) ∨
        (∃ error, (s.updateCall limits platform schedule state input).2 = .error error) ∧
          Evolves id s
            (s.record schedule.scheduleId (s.updateCall limits platform schedule state input))) := by
  subst hid
  have hkeyed : (s.updateCall limits platform schedule state input).1.Keyed :=
    h.keyed.updateRuntimeState _ _ _ _ _
  cases hresource : s.store.runtimeResource limits platform schedule.scheduleId schedule.revision
    state input.now with
  | error error =>
    have hcall : s.updateCall limits platform schedule state input = (s.store, .error error) := by
      unfold SchedulerRuntime.updateCall FileScheduleStore.updateRuntimeState
      rw [hresource]
    rw [hcall]
    obtain ⟨hbase, hevolves⟩ := h.fileAhead (t := s.record schedule.scheduleId (s.store, .error error))
      h.keyed rfl h.file rfl rfl rfl rfl rfl
    exact ⟨hbase, Or.inr ⟨⟨error, rfl⟩, hevolves⟩⟩
  | ok resource =>
    have hcall : s.updateCall limits platform schedule state input =
        s.store.commit resource input.outcome := by
      unfold SchedulerRuntime.updateCall FileScheduleStore.updateRuntimeState
      rw [hresource]
    obtain ⟨current, cron, hget, hrevision, hcron, hsame, -⟩ :=
      FileScheduleStore.runtimeResource_ok.mp hresource
    obtain ⟨htimed, _, hrecord, hnewer⟩ := hcopy
    have heq : current = schedule := by
      rw [hget] at hrecord
      cases hrecord
      exact hnewer.eq_of_revision hrevision
    subst heq
    have hsameCron : cron = current.cron := by
      rw [htimed.cron] at hcron
      exact (Option.some.inj hcron).symm
    have hresourceId : resource.scheduleId = current.scheduleId := by rw [hsame]; rfl
    have hresourceCursor : resource.cursor = lastCursor state.lastTrigger := by rw [hsame]; rfl
    have hresourceTimed : Timed platform resource := by
      rw [hsame]
      exact hstate.withRuntimeState hcron htimed.cron
    have hresourceNewer : Newer current resource := by
      refine ⟨Or.inr ?_, ?_, ?_, ?_⟩
      · rw [hsame]
        exact Nat.lt_succ_self _
      · rw [hresourceCursor]
        exact hadvance hget
      · rw [hsame]
        exact hsameCron
      · rw [hsame]
        rfl
    rw [hcall] at hkeyed ⊢
    have hfile : ∀ file value,
        (s.store.commit resource input.outcome).1.directory.get?
          (scheduleFileName current.scheduleId) = some file → file.value = some value →
          value = resource ∨
            s.store.directory.get? (scheduleFileName current.scheduleId) = some file := by
      intro file value hfile hvalue
      rw [← hresourceId] at hfile ⊢
      rcases FileScheduleStore.commit_file hfile with hnew | hold
      · rw [hvalue] at hnew
        exact Or.inl (Option.some.inj hnew)
      · exact Or.inr hold
    cases houtcome : input.outcome with
    | done =>
      rw [houtcome] at hkeyed
      rw [FileScheduleStore.commit_done] at hkeyed ⊢
      have hreplaces : Replaces current.scheduleId s
          (s.record current.scheduleId
            ({ records := s.store.records.set resource.scheduleId resource
               directory := s.store.directory.set (scheduleFileName resource.scheduleId)
                 ⟨envelopeFileBytes resource, some resource⟩ }, .ok resource))
          current resource := by
        constructor
        · exact hget
        · rw [← hresourceId]
          exact get?_set_self _ _ _
        · exact hresourceNewer
        · rw [cursors_record]
          simp [Except.toOption, hresourceId]
        · rfl
        · rfl
        · rfl
      refine ⟨h.replaces hreplaces hkeyed hresourceTimed ?_ rfl,
        Or.inl ⟨resource, rfl, hresourceId, hresourceCursor, hresourceTimed, hreplaces⟩⟩
      intro file value hget' hvalue
      simp only [SchedulerRuntime.record] at hget'
      rw [← hresourceId, get?_set_self] at hget'
      cases hget'
      exact (Option.some.inj hvalue).symm
    | failed landed =>
      rw [houtcome] at hkeyed hfile
      have hthrows : (s.store.commit resource (.failed landed)).2 = .error ⟨.io, "write failed"⟩ := rfl
      have hrecords : (s.store.commit resource (.failed landed)).1.records = s.store.records := rfl
      obtain ⟨hbase, hevolves⟩ := h.fileAhead
        (t := s.record current.scheduleId (s.store.commit resource (.failed landed))) hkeyed
        (by
          unfold FileScheduleStore.get SchedulerRuntime.record
          rw [hrecords])
        (by
          intro file value hget' hvalue
          rcases hfile file value hget' hvalue with rfl | hold
          · refine ⟨hresourceTimed, fun cursor hcursor => ?_⟩
            exact ((h.record current hget).2 cursor hcursor).trans hresourceNewer.cursor
          · exact h.file file value hold hvalue)
        (by
          unfold SchedulerRuntime.record
          rw [hthrows])
        rfl rfl rfl rfl
      exact ⟨hbase, Or.inr ⟨⟨_, hthrows⟩, hevolves⟩⟩

/-! ## Steps of the serialized work -/

section
variable (h : CursorBase platform id s)
include h

theorem CursorBase.decisionReturned {x : Int} {cont : OccurrenceCont}
    (hrest : ContRest platform id s scheduleId cont)
    (hcurrent : ∀ found, current = some found → found.scheduleId = scheduleId ∧
      (scheduleId = id → OccurrenceCont.isDrain cont = false →
        Copy platform id s found ∧ s.AtLeast id x ∧ OnTime x cont ∧ ContTimes x cont)) :
    CursorInv platform id (s.decisionReturned platform current cont) := by
  have hop := decisionReturned_onlyOp platform s current cont
  refine ⟨h.onlyOp hop, fun call hcall => ?_⟩
  exact (decisionReturned_ok h.beyondHeld hrest hcurrent hcall).evolves hop.evolves

theorem CursorBase.enter {flow : Flow}
    (hflow : FlowOk platform id s flow) : CursorInv platform id (s.enter flow) := by
  have hop := enter_onlyOp s flow
  exact ⟨h.onlyOp hop, fun call hcall => (enter_ok hflow hcall).evolves hop.evolves⟩

theorem CursorBase.await {call : Await}
    (hcall : CallOk platform id s call) : CursorInv platform id { s with op := some call } := by
  have hop : OnlyOp s { s with op := some call } := by constructor <;> rfl
  refine ⟨h.onlyOp hop, ?_⟩
  rintro _ ⟨⟩
  exact hcall.evolves hop.evolves

theorem CursorBase.stopped :
    CursorInv platform id { s with op := none } := by
  have hop : OnlyOp s { s with op := none } := by constructor <;> rfl
  refine ⟨h.onlyOp hop, ?_⟩
  intro call hcall
  cases hcall

end

/-- The occurrence of the decision is the latest one of the record. -/
structure GoesOn (platform : SchedulePlatform) (id : JsString) (s : SchedulerRuntime) (d : Decision)
    (found : ScheduleResource) : Prop where
  copy : Copy platform id s found
  latest : s.AtLeast id d.scheduledFor
  onTime : OnTime d.scheduledFor d.cont
  times : ContTimes d.scheduledFor d.cont

/-- What `#persist` returns to. -/
def Returns (platform : SchedulePlatform) (id : JsString) (s : SchedulerRuntime)
    (scheduleId : JsString) (current : Option ScheduleResource) (input : SchedulerInput) :
    PersistCont → Prop
  | .normalized _ rest => ∀ copy ∈ rest, copy.scheduleId = id → Copy platform id s copy
  | .finished _ rest => RestCopies platform id s scheduleId rest
  | .decided d =>
    ContRest platform id s scheduleId d.cont ∧
      ∀ found, current = some found → found.scheduleId = scheduleId ∧
        (scheduleId = id →
          (OccurrenceCont.isDrain d.cont = false → GoesOn platform id s d found) ∧
          (s.draining = false → input.gatewayDraining = false →
            GoesOn platform id s d found ∧ NextOk platform { d with schedule := found } ∧
              s.Held id d.scheduledFor ∧ s.Past id d.scheduledFor))
  | .returned d | .admitted d _ _ =>
    ContRest platform id s scheduleId d.cont ∧
      ∀ found, current = some found → found.scheduleId = scheduleId ∧
        (scheduleId = id → GoesOn platform id s d found)

theorem CursorBase.goesOn (h : CursorBase platform id s) (hrest : ContRest platform id s scheduleId d.cont)
    (hcurrent : ∀ found, current = some found → found.scheduleId = scheduleId ∧
      (scheduleId = id → OccurrenceCont.isDrain d.cont = false → GoesOn platform id s d found)) :
    CursorInv platform id (s.decisionReturned platform current d.cont) := by
  apply h.decisionReturned (x := d.scheduledFor) hrest
  intro found hfound
  obtain ⟨hid, hgoes⟩ := hcurrent found hfound
  refine ⟨hid, fun hown hdue => ?_⟩
  obtain ⟨hcopy, hlatest, hontime, htimes⟩ := hgoes hown hdue
  exact ⟨hcopy, hlatest, hontime, htimes⟩

theorem trackAdmission_settlements {sessionId : JsString} {scheduledFor : Timestamp} {ticket : SchedulerTicket}
    {m : Settlement} (hm : m ∈ (s.trackAdmission schedule sessionId scheduledFor ticket).settlements) :
    m ∈ s.settlements ∨ ∀ current state, m.stage ≠ .persisting current state := by
  unfold SchedulerRuntime.trackAdmission at hm
  split at hm
  · rcases mem_append.mp hm with hm | hm
    · exact Or.inl hm
    rw [mem_singleton] at hm
    right
    intro current state hstage
    rw [hm] at hstage
    cases hstage
  · split at hm
    · rcases mem_append.mp hm with hm | hm
      · exact Or.inl hm
      rw [mem_singleton] at hm
      right
      intro current state hstage
      rw [hm] at hstage
      cases hstage
    · rcases mem_append.mp hm with hm | hm
      · exact Or.inl hm
      rw [mem_singleton] at hm
      right
      intro current state hstage
      rw [hm] at hstage
      cases hstage

theorem GoesOn.evolves {found : ScheduleResource} (h : GoesOn platform id s d found) (hst : Evolves id s t) :
    GoesOn platform id t d found :=
  ⟨h.copy.advances hst.advances, h.latest.evolves h.copy hst, h.onTime, h.times⟩

theorem CursorBase.persistReturned (h : CursorBase platform id s) (scheduleId : JsString)
    (hk : Returns platform id s scheduleId current input k) :
    CursorInv platform id (s.persistReturned platform current input k) := by
  cases k with
  | normalized => exact h.enter (normalizeLoop_ok hk)
  | finished => exact h.enter (dueLoop_ok h.beyondHeld (RestCopies.due hk))
  | returned =>
    apply h.goesOn hk.1
    intro found hfound
    exact ⟨(hk.2 found hfound).1, fun hown _ => (hk.2 found hfound).2 hown⟩
  | admitted d session ticket =>
    cases current with
    | none =>
      rw [SchedulerRuntime.persistReturned]
      apply h.goesOn hk.1
      rintro found ⟨⟩
    | some found =>
      have hsame := trackAdmission_sameWork s found session.sessionId (isoTimestamp d.scheduledFor) ticket
      have hbase : CursorBase platform id
          (s.trackAdmission found session.sessionId (isoTimestamp d.scheduledFor) ticket) := by
        apply h.sameWork hsame
        intro m hm current state hstage
        rcases trackAdmission_settlements hm with hm | hnot
        · exact h.settlements m hm current state hstage
        · exact absurd hstage (hnot current state)
      rw [SchedulerRuntime.persistReturned]
      apply hbase.goesOn (hk.1.evolves hsame.evolves)
      intro other hother
      obtain ⟨hid, hgoes⟩ := hk.2 other hother
      exact ⟨hid, fun hown _ => (hgoes hown).evolves hsame.evolves⟩
  | decided d =>
    obtain ⟨hrest, hcurrent⟩ := hk
    have hgoes : ∀ found, current = some found → found.scheduleId = scheduleId ∧
        (scheduleId = id → OccurrenceCont.isDrain d.cont = false → GoesOn platform id s d found) :=
      fun found hfound => ⟨(hcurrent found hfound).1, fun hown => ((hcurrent found hfound).2 hown).1⟩
    cases current with
    | none => exact h.goesOn hrest hgoes
    | some found =>
      rw [SchedulerRuntime.persistReturned]
      split
      · exact h.goesOn hrest hgoes
      rename_i hnot
      simp only [not_or, Bool.not_eq_true] at hnot
      obtain ⟨rfl, hfound⟩ := hcurrent found rfl
      apply h.await
      refine ⟨hrest, fun hown => ?_⟩
      obtain ⟨hgo, hnext, hheld, hpast⟩ := (hfound hown).2 hnot.1 hnot.2
      exact ⟨⟨hgo.copy, hnext, hgo.times, hgo.onTime, hgo.latest⟩, hheld, hpast⟩

theorem RestCopies.of_own {rest : List ScheduleResource} (h : RestCopies platform id s id rest)
    (scheduleId : JsString) : RestCopies platform id t scheduleId rest :=
  ⟨h.1, fun copy hmem hid => absurd rfl (h.2 copy hmem hid).1⟩

theorem ContRest.of_own {cont : OccurrenceCont} (h : ContRest platform id s id cont)
    (scheduleId : JsString) : ContRest platform id t scheduleId cont := by
  cases cont with
  | drain => trivial
  | due => exact RestCopies.of_own h scheduleId

theorem NextOk.newer {found : ScheduleResource} (h : NextOk platform d) (hnewer : Newer d.schedule found) :
    NextOk platform { d with schedule := found } := by
  refine ⟨h.1, h.2.1, ?_⟩
  rw [hnewer.cron, hnewer.timezone]
  exact h.2.2

/-- The step does not take the cursor of the schedule back. -/
def CallKeepsCursor (id : JsString) (s : SchedulerRuntime) (input : SchedulerInput) : Await → Prop
  | .persist schedule _ (.decided d) =>
    schedule.scheduleId = id →
      (schedule.missedWakePolicy = .runOnce → OnTime d.scheduledFor d.cont) ∧
        (OccurrenceCont.isDrain d.cont = true → s.AtLeast id d.scheduledFor)
  | .reread scheduleId (.decided d) =>
    scheduleId = id →
      s.draining = true ∨ input.gatewayDraining = true ∨ s.store.get id = none ∨
        (OccurrenceCont.isDrain d.cont = true ∧ s.AtLeast id d.scheduledFor)
  | _ => True

theorem returns_own {schedule resource : ScheduleResource} (hreplaces : Replaces id s t schedule resource)
    (hid : resource.scheduleId = id) (hcursor : resource.cursor = lastCursor state.lastTrigger)
    (htimed : Timed platform resource) (hk : PersistContOk platform id s id k)
    (hpersists : PersistsCursor schedule state k) (honTime : ∀ d, k = .decided d → OnTime d.scheduledFor d.cont) :
    Returns platform id t id (some resource) input k := by
  have hcopy : Copy platform id t resource := ⟨htimed, resource, hreplaces.new, Newer.refl _⟩
  have hlatest : ∀ x : Int, lastCursor state.lastTrigger = (x : Int) → t.AtLeast id x := by
    intro x hx record hget
    rw [hreplaces.new] at hget
    cases hget
    rw [hcursor, hx]
  have hheld : ∀ x, s.Held id x → t.Held id x := by
    intro x hx
    unfold Held admittedTimes
    rw [waiting_of_same hreplaces.queue hreplaces.pendingOverlaps, hreplaces.admits]
    exact hx
  cases k with
  | normalized =>
    intro copy hmem hown
    exact (hk copy hmem hown).advances hreplaces.advances
  | finished => exact RestCopies.of_own hk id
  | returned | admitted =>
    refine ⟨ContRest.of_own hk.2.1 id, ?_⟩
    rintro found ⟨⟩
    refine ⟨hid, fun _ => ?_⟩
    have hdecided := hk.2.2 rfl
    exact ⟨hcopy, hlatest _ hpersists, hdecided.onTime, hdecided.times⟩
  | decided d =>
    refine ⟨ContRest.of_own hk.2.1 id, ?_⟩
    rintro found ⟨⟩
    obtain ⟨rfl, hstate, -⟩ := hpersists
    have hundecided := hk.2.2 rfl
    have hgoes : GoesOn platform id t d resource :=
      ⟨hcopy, hlatest _ hstate, honTime d rfl, hundecided.times⟩
    refine ⟨hid, fun _ => ⟨fun _ => hgoes, fun _ _ => ⟨hgoes, ?_, hheld _ hundecided.held, ?_⟩⟩⟩
    · exact hundecided.next.newer hreplaces.newer
    refine ⟨resource.cursor, ?_, ?_⟩
    · rw [hreplaces.cursors]
      exact mem_append_right _ (mem_singleton_self _)
    · rw [hcursor, hstate]

theorem returns_other (hne : scheduleId ≠ id)
    (hcurrent : ∀ found, current = some found → found.scheduleId = scheduleId)
    (hk : PersistContOk platform id s scheduleId k) : Returns platform id s scheduleId current input k := by
  cases k with
  | normalized | finished => exact hk
  | returned d | admitted d session ticket | decided d =>
    exact ⟨hk.2.1, fun found hfound => ⟨hcurrent found hfound, fun heq => absurd heq hne⟩⟩

theorem CursorBase.persistThrew (h : CursorBase platform id s) (hk : PersistContOk platform id s scheduleId k) :
    CursorInv platform id (s.persistThrew platform k) := by
  cases k with
  | normalized | decided | returned | finished => exact h.stopped
  | admitted =>
    rw [SchedulerRuntime.persistThrew]
    apply h.goesOn hk.2.1
    rintro _ ⟨⟩
    refine ⟨hk.1, fun hown _ => ?_⟩
    have hdecided := hk.2.2 hown
    exact ⟨hdecided.copy, hdecided.latest, hdecided.onTime, hdecided.times⟩

theorem CursorInv.persistStep (h : CursorInv platform id s) (hop : s.op = some (.persist schedule state k))
    (hkeeps : CallKeepsCursor id s input (.persist schedule state k)) :
    CursorInv platform id (s.persistStep limits platform schedule state k input) := by
  obtain ⟨hk, hown⟩ := h.call _ hop
  -- What follows a call that has thrown.
  have hthrown : ∀ u : SchedulerRuntime, CursorBase platform id u →
      PersistContOk platform id u schedule.scheduleId k →
      (∀ d, k = .decided d → schedule.scheduleId = id → OnTime d.scheduledFor d.cont) →
      ∀ error : ScheduleError, CursorInv platform id
        (if error.code = .revisionConflict ∨ error.code = .notFound then
          { u with op := some (.reread schedule.scheduleId k) }
        else u.persistThrew platform k) := by
    intro u hbase hcont hontime error
    split
    · exact hbase.await ⟨hcont, hontime⟩
    · exact hbase.persistThrew hcont
  have hontime : ∀ d, k = .decided d → schedule.scheduleId = id → OnTime d.scheduledFor d.cont := by
    rintro d rfl hid
    obtain ⟨-, -, hpersists⟩ := hown hid
    rcases hpersists.2.2 with hontime | hpolicy
    · exact hontime
    · exact (hkeeps hid).1 hpolicy
  unfold SchedulerRuntime.persistStep
  simp only
  by_cases hid : schedule.scheduleId = id
  · obtain ⟨hcopy, hstate, hpersists⟩ := hown hid
    have hadvance : s.store.get id = some schedule →
        schedule.cursor ≤ lastCursor state.lastTrigger := by
      intro hget
      cases k with
      | normalized | finished => exact le_of_eq hpersists.symm
      | returned d | admitted d session ticket =>
        rw [hpersists]
        exact (hk.2.2 hid).latest schedule hget
      | decided d =>
        obtain ⟨-, hcursor, -⟩ := hpersists
        rw [hcursor]
        cases hdrain : OccurrenceCont.isDrain d.cont with
        | false => exact le_of_lt ((hk.2.2 hid).due hdrain schedule hget)
        | true => exact (hkeeps hid).2 hdrain schedule hget
    obtain ⟨hbase, hresult⟩ :=
      h.toCursorBase.updateCall limits input hid hcopy hstate hadvance
    rcases hresult with
      ⟨resource, hok, hresourceId, hcursor, htimed, hreplaces⟩ | ⟨⟨error, herror⟩, hevolves⟩
    · rw [hok]
      rw [hid] at hk hbase hreplaces ⊢
      exact hbase.persistReturned id (returns_own hreplaces hresourceId hcursor htimed hk hpersists
        fun d hd => hontime d hd hid)
    · rw [herror]
      exact hthrown _ hbase (hk.evolves hevolves) hontime error
  · obtain ⟨hsame, hother⟩ := FileScheduleStore.updateRuntimeState_other limits platform
      h.keyed hid schedule.revision state input.now input.outcome
    have hkeyed : (s.updateCall limits platform schedule state input).1.Keyed :=
      h.keyed.updateRuntimeState _ _ _ _ _
    have hbase : CursorBase platform id
        (s.record schedule.scheduleId (s.updateCall limits platform schedule state input)) :=
      h.toCursorBase.record_other hkeyed hsame hother
    have hcont := hk.evolves (Evolves.record_other schedule.scheduleId hsame hother).2
    split
    · rename_i resource hok
      apply hbase.persistReturned schedule.scheduleId (returns_other hid _ hcont)
      rintro _ ⟨⟩
      exact (updateCall_ok h.keyed hok).choose_spec.2.2.1
    · exact hthrown _ hbase hcont hontime _

theorem CursorInv.rereadStep (h : CursorInv platform id s) (hop : s.op = some (.reread scheduleId k))
    (hkeeps : CallKeepsCursor id s input (.reread scheduleId k)) :
    CursorInv platform id (s.persistReturned platform (s.store.get scheduleId) input k) := by
  obtain ⟨hk, hontime⟩ := h.call _ hop
  have hkeyed : ∀ found, s.store.get scheduleId = some found → found.scheduleId = scheduleId :=
    fun found hget => h.keyed _ _ hget
  by_cases hid : scheduleId = id
  · subst hid
    apply h.toCursorBase.persistReturned scheduleId
    have hcopy : ∀ found, s.store.get scheduleId = some found → Copy platform scheduleId s found :=
      fun found hget => ⟨(h.record found hget).1, found, hget, Newer.refl found⟩
    cases k with
    | normalized | finished => exact hk
    | returned d | admitted d session ticket =>
      refine ⟨hk.2.1, fun found hget => ⟨hkeyed found hget, fun _ => ?_⟩⟩
      have hdecided := hk.2.2 rfl
      exact ⟨hcopy found hget, hdecided.latest, hdecided.onTime, hdecided.times⟩
    | decided d =>
      have hundecided := hk.2.2 rfl
      have htime := hontime d rfl rfl
      refine ⟨hk.2.1, fun found hget => ⟨hkeyed found hget, fun _ => ⟨fun hdue => ?_, ?_⟩⟩⟩
      · refine ⟨hcopy found hget, ?_, htime, hundecided.times⟩
        exact fun record hrecord => le_of_lt (hundecided.due hdue record hrecord)
      intro hrunning hgateway
      rcases hkeeps rfl with hdraining | hdraining | hnone | ⟨hdrain, hlatest⟩
      · rw [hrunning] at hdraining
        cases hdraining
      · rw [hgateway] at hdraining
        cases hdraining
      · rw [hnone] at hget
        cases hget
      · obtain ⟨-, record, hrecord, hnewer⟩ := hundecided.copy
        rw [hget] at hrecord
        cases hrecord
        exact ⟨⟨hcopy found hget, hlatest, htime, hundecided.times⟩,
          hundecided.next.newer hnewer, hundecided.held, hundecided.drain hdrain⟩
  · exact h.toCursorBase.persistReturned scheduleId (returns_other hid hkeyed hk)

/-- An overlap is queued in the place of the one before it. -/
theorem CursorBase.setPending (h : CursorBase platform id s) {x : Int}
    (hown : scheduleId = id → s.Held id x ∧ s.Past id x) (op : Option Await) :
    CursorBase platform id
      { s with op, pendingOverlaps := s.pendingOverlaps.set scheduleId x } := by
  by_cases hid : scheduleId = id
  · subst hid
    obtain ⟨hheld, hpast⟩ := hown rfl
    have hwaiting : waiting scheduleId
        { s with op, pendingOverlaps := s.pendingOverlaps.set scheduleId x } =
          s.queue.filterMap (Job.drainTime scheduleId) ++ [x] := by
      unfold waiting
      rw [get?_set_self]
      rfl
    have hqueue : ∀ y ∈ s.queue.filterMap (Job.drainTime scheduleId), y ∈ s.waiting scheduleId :=
      fun y hy => mem_append_left _ hy
    refine h.frame ⟨rfl, rfl, rfl⟩ h.settlements ?_ ?_
    · rw [hwaiting, nodup_append]
      refine ⟨(nodup_append.mp h.distinct).1, nodup_singleton _, ?_⟩
      rintro y hy z hz rfl
      rw [mem_singleton] at hz
      exact hheld.1 (hz ▸ hqueue y hy)
    · rw [hwaiting]
      intro y hy
      rcases mem_append.mp hy with hy | hy
      · exact h.waited y (hqueue y hy)
      rw [mem_singleton] at hy
      rw [hy]
      exact ⟨hpast, hheld.2⟩
  · have hwaiting : waiting id
        { s with op, pendingOverlaps := s.pendingOverlaps.set scheduleId x } = s.waiting id := by
      unfold waiting
      rw [get?_set_ne _ hid]
    refine h.frame ⟨rfl, rfl, rfl⟩ h.settlements ?_ ?_
    · rw [hwaiting]
      exact h.distinct
    · rw [hwaiting]
      exact h.waited

theorem CursorBase.admits (h : CursorBase platform id s) {x : Int}
    (hown : scheduleId = id → s.Held id x ∧ s.Past id x) (op : Option Await) :
    CursorBase platform id { s with op, admits := s.admits ++ [⟨scheduleId, x⟩] } := by
  have htimes : admittedTimes id { s with op, admits := s.admits ++ [⟨scheduleId, x⟩] } =
      s.admittedTimes id ++ if scheduleId = id then [x] else [] := by
    unfold admittedTimes
    by_cases hid : scheduleId = id
    · simp [hid]
    · simp [hid]
  refine ⟨h.keyed, h.record, h.file, h.sorted, h.settlements, h.distinct, ?_, ?_, ?_⟩
  · intro y hy
    refine ⟨(h.waited y hy).1, ?_⟩
    rw [htimes, mem_append, not_or]
    refine ⟨(h.waited y hy).2, ?_⟩
    split
    · rename_i hid
      rw [mem_singleton]
      rintro rfl
      exact (hown hid).1.1 hy
    · exact not_mem_nil
  · rw [htimes]
    split
    · rename_i hid
      rw [nodup_append]
      refine ⟨h.once, nodup_singleton _, ?_⟩
      rintro y hy z hz rfl
      rw [mem_singleton] at hz
      exact (hown hid).1.2 (hz ▸ hy)
    · rw [append_nil]
      exact h.once
  · rw [htimes]
    intro y hy
    rcases mem_append.mp hy with hy | hy
    · exact h.admitted y hy
    split at hy
    · rename_i hid
      rw [mem_singleton] at hy
      rw [hy]
      exact (hown hid).2
    · cases hy

/-- A decision that goes on to its skipped or its admitted disposition. -/
theorem persistOk_of_decided (disposition : TriggerDisposition)
    (hrest : ContRest platform id s d.schedule.scheduleId d.cont)
    (hdecided : d.schedule.scheduleId = id → DecidedNow platform id s d)
    (hk : k = .returned d ∨ ∃ session ticket, k = .admitted d session ticket) :
    CallOk platform id s (.persist d.schedule
      ⟨some (isoTimestamp d.next), some (trigger d.scheduledFor d.observedAt disposition)⟩ k) := by
  have hstate : d.schedule.scheduleId = id → Copy platform id s d.schedule ∧
      StateTimed platform d.schedule
        ⟨some (isoTimestamp d.next), some (trigger d.scheduledFor d.observedAt disposition)⟩ := by
    intro hid
    have hnow := hdecided hid
    exact ⟨hnow.copy, StateTimed.of_next (WithBot.coe_lt_coe.mpr hnow.next.1) hnow.next.2⟩
  rcases hk with rfl | ⟨session, ticket, rfl⟩
  · exact ⟨⟨rfl, hrest, hdecided⟩, fun hid => ⟨(hstate hid).1, (hstate hid).2, rfl⟩⟩
  · exact ⟨⟨rfl, hrest, hdecided⟩, fun hid => ⟨(hstate hid).1, (hstate hid).2, rfl⟩⟩

theorem CursorInv.resolveStep (h : CursorInv platform id s) (hop : s.op = some (.resolve d)) :
    CursorInv platform id (s.resolveStep platform d input) := by
  obtain ⟨hrest, hown⟩ := h.call _ hop
  have hgoes : CursorInv platform id (s.decisionReturned platform (some d.schedule) d.cont) := by
    apply h.toCursorBase.goesOn hrest
    rintro _ ⟨⟩
    refine ⟨rfl, fun hid _ => ?_⟩
    obtain ⟨hdecided, -, -⟩ := hown hid
    exact ⟨hdecided.copy, hdecided.latest, hdecided.onTime, hdecided.times⟩
  have hskipped := persistOk_of_decided .skipped hrest (fun hid => (hown hid).1)
    (Or.inl rfl)
  unfold SchedulerRuntime.resolveStep
  split
  · exact hgoes
  split
  · exact hgoes
  split
  · split
    · exact h.toCursorBase.await hskipped
    · refine ⟨h.toCursorBase.setPending (fun hid => (hown hid).2) _, ?_⟩
      rintro call ⟨⟩
      exact persistOk_of_decided .skipped (ContRest.of_store hrest rfl)
        (fun hid => (hown hid).1.of_store rfl) (Or.inl rfl)
    · exact hgoes
  · refine ⟨h.toCursorBase.admits (fun hid => (hown hid).2) _, ?_⟩
    rintro call ⟨⟩
    exact ⟨ContRest.of_store hrest rfl, fun hid => (hown hid).1.of_store rfl⟩

theorem CursorInv.advance (h : CursorInv platform id s) (input : SchedulerInput) {call : Await}
    (hop : s.op = some call) (hkeeps : CallKeepsCursor id s input call) :
    CursorInv platform id (s.advance limits platform input call) := by
  have hcopies : ∀ copy ∈ s.store.list platform, copy.scheduleId = id →
      s.store.get id = some copy := by
    intro copy hmem hid
    obtain ⟨key, hget⟩ := mem_values.mp ((mergeSort_perm _ _).mem_iff.mp hmem)
    have hkey : copy.scheduleId = key := h.keyed _ _ hget
    rw [← hid, hkey]
    exact hget
  have hcopy : ∀ copy ∈ s.store.list platform, copy.scheduleId = id → Copy platform id s copy :=
    fun copy hmem hid =>
      ⟨(h.record copy (hcopies copy hmem hid)).1, copy, hcopies copy hmem hid, Newer.refl copy⟩
  cases call with
  | normalizeList => exact h.toCursorBase.enter (normalizeLoop_ok hcopy)
  | dueList =>
    apply h.toCursorBase.enter
    apply dueLoop_ok h.beyondHeld
    refine ⟨?_, fun copy hmem hid => ⟨hcopy copy hmem hid, fun record hget => ?_⟩⟩
    · exact ((mergeSort_perm _ _).map _).nodup_iff.mpr h.keyed.nodup_ids
    rw [hcopies copy hmem hid] at hget
    cases hget
    exact le_refl _
  | armList =>
    have hop : OnlyOp s (s.advance limits platform input .armList) := by constructor <;> rfl
    refine ⟨h.toCursorBase.onlyOp hop, ?_⟩
    intro call hcall
    cases hcall
  | drainGet scheduleId =>
    have hheld := h.call _ hop
    simp only [SchedulerRuntime.advance]
    split
    · exact h.toCursorBase.enter flowOk_arm
    rename_i latest hget
    split
    · have hcont : ContRest platform id s latest.scheduleId .drain := trivial
      apply h.toCursorBase.enter
      apply startDecision_ok hcont
      intro hid
      have hlatest : latest.scheduleId = scheduleId := h.keyed _ _ hget
      rw [hlatest] at hid
      subst hid
      obtain ⟨hheld, hpast⟩ := hheld rfl
      exact ⟨⟨(h.record latest hget).1, latest, hget, Newer.refl latest⟩, trivial, hheld,
        fun _ => hpast, (by rintro ⟨⟩), Or.inl trivial⟩
    · exact h.toCursorBase.enter flowOk_arm
  | persist => exact h.persistStep hop hkeeps
  | reread => exact h.rereadStep hop hkeeps
  | resolve => exact h.resolveStep hop
  | admission d session =>
    obtain ⟨hrest, hown⟩ := h.call _ hop
    simp only [SchedulerRuntime.advance]
    split
    · apply h.toCursorBase.goesOn hrest
      rintro _ ⟨⟩
      refine ⟨rfl, fun hid _ => ?_⟩
      have hdecided := hown hid
      exact ⟨hdecided.copy, hdecided.latest, hdecided.onTime, hdecided.times⟩
    · rename_i ticket _
      exact h.toCursorBase.await (persistOk_of_decided .admitted hrest hown (Or.inr ⟨session, ticket, rfl⟩))

/-! ## Steps of the settlements -/

theorem setStage_settlements {number : Nat} {stage : SettlementStage} {m : Settlement}
    (hm : m ∈ (s.setStage number stage).settlements) : m ∈ s.settlements ∨ m.stage = stage := by
  obtain ⟨_, hm', rfl⟩ := List.mem_map.mp hm
  split
  · exact Or.inr rfl
  · exact Or.inl hm'

theorem CursorInv.setStage (h : CursorInv platform id s) (number : Nat) {stage : SettlementStage}
    (hstage : ∀ current state, stage = .persisting current state → current.scheduleId = id →
      Copy platform id s current ∧ StateTimed platform current state ∧
        lastCursor state.lastTrigger = current.cursor) :
    CursorInv platform id (s.setStage number stage) := by
  have hsame := setStage_sameWork s number stage
  refine ⟨h.toCursorBase.sameWork hsame ?_, fun call hcall => ?_⟩
  · intro m hm current state hm'
    rcases setStage_settlements hm with hm | heq
    · exact h.settlements m hm current state hm'
    · rw [heq] at hm'
      exact hstage current state hm'
  · exact (h.call call hcall).evolves hsame.evolves

theorem CursorInv.setFinishing (h : CursorInv platform id s) (number : Nat) :
    CursorInv platform id (s.setStage number .finishing) := by
  apply h.setStage
  rintro _ _ ⟨⟩

/-- The terminal state of a ticket leaves the trigger of the schedule as it is. -/
theorem stateTimed_terminal {current : ScheduleResource} (h : Timed platform current)
    {last : ScheduleLastTrigger} (hlast : current.lastTrigger = some last)
    (terminal : ScheduleTerminalTicketSummary) :
    StateTimed platform current
        ⟨current.nextTriggerAt.map fun next => isoTimestamp next.ms,
          some { last with terminalTicket := some terminal }⟩ ∧
      lastCursor (some { last with terminalTicket := some terminal }) = current.cursor := by
  have hcursor : lastCursor (some { last with terminalTicket := some terminal }) = current.cursor := by
    unfold ScheduleResource.cursor
    rw [hlast]
    rfl
  refine ⟨fun next hnext => ?_, hcursor⟩
  obtain ⟨found, hfound, rfl⟩ := map_eq_some_iff.mp hnext
  constructor
  · rw [hcursor]
    exact h.ahead found hfound
  · exact h.occurs found hfound (by rw [hlast]; exact some_ne_none last)

theorem CursorInv.record_evolves (h : CursorInv platform id s)
    (hbase : CursorBase platform id (s.record scheduleId result))
    (hevolves : Evolves id s (s.record scheduleId result)) : CursorInv platform id (s.record scheduleId result) :=
  ⟨hbase, fun call hcall => (h.call call hcall).evolves hevolves⟩

theorem CursorInv.record_other (h : CursorInv platform id s) (scheduleId : JsString)
    (result : FileScheduleStore × Except ScheduleError ScheduleResource)
    (hkeyed : result.1.Keyed) (hsame : FileScheduleStore.SameSchedule id s.store result.1)
    (hother : ∀ resource, result.2 = .ok resource → resource.scheduleId ≠ id) :
    CursorInv platform id (s.record scheduleId result) :=
  h.record_evolves (h.toCursorBase.record_other hkeyed hsame hother)
    (Evolves.record_other scheduleId hsame hother).2

theorem CursorInv.settlePersist (h : CursorInv platform id s) (limits : ScheduleLimits) (input : SchedulerInput)
    {m : Settlement} (hm : m ∈ s.settlements) {current : ScheduleResource}
    (hstage : m.stage = .persisting current state) :
    CursorInv platform id
      (s.record current.scheduleId (s.updateCall limits platform current state input)) := by
  by_cases hid : current.scheduleId = id
  · obtain ⟨hcopy, hstate, hcursor⟩ := h.settlements m hm current state hstage hid
    obtain ⟨hbase, hresult⟩ := h.toCursorBase.updateCall limits input hid hcopy hstate
      fun _ => le_of_eq hcursor.symm
    apply h.record_evolves hbase
    rcases hresult with ⟨_, -, -, hsame, -, hreplaces⟩ | ⟨-, hevolves⟩
    · exact hreplaces.evolves (hsame.trans hcursor)
    · exact hevolves
  · obtain ⟨hsame, hother⟩ := FileScheduleStore.updateRuntimeState_other limits platform h.keyed hid
      current.revision state input.now input.outcome
    exact h.record_other _ _ (h.keyed.updateRuntimeState _ _ _ _ _) hsame hother

theorem finishSettlement_settlements {m other : Settlement}
    (hm : other ∈ (s.finishSettlement m).settlements) : other ∈ s.settlements := by
  have hfilter : (s.finishSettlement m).settlements =
      s.settlements.filter fun other => other.id ≠ m.id := by
    unfold SchedulerRuntime.finishSettlement
    simp only
    split
    · rfl
    split
    · rfl
    · split <;> rfl
  rw [hfilter] at hm
  exact (mem_filter.mp hm).1

theorem CursorInv.finishSettlement (h : CursorInv platform id s) (m : Settlement) :
    CursorInv platform id (s.finishSettlement m) := by
  have hsettlements : ∀ other ∈ (s.finishSettlement m).settlements, ∀ current state,
      other.stage = .persisting current state → current.scheduleId = id →
        Copy platform id s current ∧ StateTimed platform current state ∧
          lastCursor state.lastTrigger = current.cursor :=
    fun other hother => h.settlements other (finishSettlement_settlements hother)
  rcases finishSettlement_cases s m with
    hsame | ⟨x, hget, hqueue, hpending, hstore, hop, hcommits, hadmits⟩
  · refine ⟨h.toCursorBase.sameWork hsame hsettlements, fun call hcall => ?_⟩
    rw [hsame.op] at hcall
    exact (h.call call hcall).evolves hsame.evolves
  · -- The overlap waits in another place.
    have hwaiting : (s.finishSettlement m).waiting id = s.waiting id := by
      unfold waiting
      rw [hqueue, hpending]
      by_cases hid : m.scheduleId = id
      · subst hid
        rw [hget]
        simp [Job.drainTime]
      · rw [get?_delete_ne _ hid]
        simp [Job.drainTime, hid]
    have hsame : SameRecords s (s.finishSettlement m) := ⟨hstore, hcommits, hadmits⟩
    refine ⟨h.toCursorBase.frame hsame hsettlements ?_ ?_, fun call hcall => ?_⟩
    · rw [hwaiting]
      exact h.distinct
    · rw [hwaiting]
      exact h.waited
    · rw [hop] at hcall
      apply (h.call call hcall).evolves
      apply hsame.evolves
      rw [hwaiting]
      exact List.Subset.refl _

theorem CursorInv.settleStep (h : CursorInv platform id s) {m : Settlement}
    (hm : m ∈ s.settlements) (input : SchedulerInput) :
    CursorInv platform id (s.settleStep limits platform m input) := by
  unfold SchedulerRuntime.settleStep
  split
  · split
    · exact h.setFinishing _
    · apply h.setStage
      rintro current state ⟨⟩
  · rename_i terminal _
    split
    · exact h.setFinishing _
    rename_i current hget
    split
    · exact h.setFinishing _
    rename_i last hlast
    split
    · apply h.setStage
      rintro found state ⟨⟩ hid
      have hkey : current.scheduleId = m.scheduleId := h.keyed _ _ hget
      rw [← hkey, hid] at hget
      have htimed := (h.record current hget).1
      exact ⟨⟨htimed, current, hget, Newer.refl current⟩, stateTimed_terminal htimed hlast terminal⟩
    · exact h.setFinishing _
  · rename_i current state hstage
    have hrecord := h.settlePersist limits input hm hstage
    simp only
    split
    · exact hrecord.setFinishing _
    split
    · apply hrecord.setStage
      rintro found _ ⟨⟩
    · exact hrecord.setFinishing _
  · exact h.setFinishing _
  · exact h.finishSettlement m

/-! ## Events -/

section
variable (h : CursorInv platform id s)
include h

/-- The records, the settlements and the call are the same, and no overlap is new. -/
theorem CursorInv.unchanged (hsame : SameRecords s t)
    (hsettlements : t.settlements = s.settlements) (hop : t.op = s.op)
    (hwaiting : (t.waiting id).Sublist (s.waiting id)) : CursorInv platform id t := by
  refine ⟨h.toCursorBase.frame hsame ?_ (h.distinct.sublist hwaiting)
    (fun x hx => h.waited x (hwaiting.subset hx)), fun call hcall => ?_⟩
  · rw [hsettlements]
    exact h.settlements
  · rw [hop] at hcall
    exact (h.call call hcall).evolves (hsame.evolves hwaiting.subset)

theorem CursorInv.beginJob {now : Int}
    (hbegin : s.beginJob now = some t) : CursorInv platform id t := by
  unfold SchedulerRuntime.beginJob at hbegin
  split at hbegin
  · rename_i queue hop hqueue
    have hwaiting : s.waiting id =
        queue.filterMap (Job.drainTime id) ++ (s.pendingOverlaps.get? id).toList := by
      unfold waiting
      rw [hqueue]
      rfl
    have hrest : CursorInv platform id { s with queue } := by
      refine h.unchanged ⟨rfl, rfl, rfl⟩ rfl rfl ?_
      rw [hwaiting]
      exact List.Sublist.refl _
    cases hbegin
    split
    · exact hrest.toCursorBase.await trivial
    · exact hrest
  · rename_i scheduleId x queue hop hqueue
    cases hbegin
    have hwaiting : s.waiting id = (if scheduleId = id then [x] else []) ++
        (queue.filterMap (Job.drainTime id) ++ (s.pendingOverlaps.get? id).toList) := by
      unfold waiting
      rw [hqueue]
      by_cases hid : scheduleId = id
      · simp [Job.drainTime, hid]
      · simp [Job.drainTime, hid]
    have hrest : CursorInv platform id { s with queue } := by
      refine h.unchanged ⟨rfl, rfl, rfl⟩ rfl rfl ?_
      rw [hwaiting]
      exact sublist_append_right _ _
    apply hrest.toCursorBase.await
    intro hid
    rw [if_pos hid] at hwaiting
    have hmem : x ∈ s.waiting id := by
      rw [hwaiting]
      exact mem_append_left _ (mem_singleton_self x)
    have hdistinct := h.distinct
    rw [hwaiting, singleton_append, nodup_cons] at hdistinct
    exact ⟨⟨hdistinct.1, (h.waited x hmem).2⟩, (h.waited x hmem).1⟩
  · cases hbegin
  · cases hbegin

theorem CursorInv.record_unchanged (scheduleId : JsString)
    (error : ScheduleError) : CursorInv platform id (s.record scheduleId (s.store, .error error)) :=
  h.unchanged ⟨rfl, rfl, rfl⟩ rfl rfl (List.Sublist.refl _)

/-- The schedule is created, and nothing has been heard of it before. -/
theorem CursorInv.createNew {resource : ScheduleResource}
    (outcome : FileOutcome) (hid : resource.scheduleId = id) (hfree : s.store.get id = none)
    (hnew : s.cursors id = []) (htimed : Timed platform resource) (hbot : resource.cursor = ⊥) :
    CursorInv platform id (s.record id (s.store.commit resource outcome)) := by
  subst hid
  have hkeyed : (s.store.commit resource outcome).1.Keyed := h.keyed.commit resource outcome
  have hnone : ∀ x, ¬ s.Past resource.scheduleId x := by
    rintro x ⟨cursor, hcursor, -⟩
    rw [hnew] at hcursor
    cases hcursor
  have hcopies : ∀ copy, ¬ Copy platform resource.scheduleId s copy := by
    rintro copy ⟨-, record, hget, -⟩
    rw [hfree] at hget
    cases hget
  have hcursors : ∀ cursor ∈ cursors resource.scheduleId
      (s.record resource.scheduleId (s.store.commit resource outcome)), cursor = ⊥ := by
    intro cursor hcursor
    rw [cursors_record, hnew] at hcursor
    obtain ⟨_, hfound, rfl⟩ := List.mem_map.mp hcursor
    have hmem := (mem_filter.mp hfound).1
    rw [mem_toList] at hmem
    cases hresult : (s.store.commit resource outcome).2 with
    | error =>
      rw [hresult] at hmem
      cases hmem
    | ok =>
      rw [hresult] at hmem
      cases hmem
      rw [(FileScheduleStore.commit_ok.mp hresult).2, hbot]
  have hevolves : Evolves resource.scheduleId s
      (s.record resource.scheduleId (s.store.commit resource outcome)) := by
    constructor
    · intro record hget
      rw [hfree] at hget
      cases hget
    · intro record _ hsome
      rw [hfree] at hsome
      cases hsome
    · rw [hnew]
      exact nil_subset _
    · exact List.Subset.refl _
    · rfl
  apply h.record_evolves _ hevolves
  constructor
  · exact hkeyed
  · intro record hget
    have hrecord : record = resource := by
      simp only [SchedulerRuntime.record, FileScheduleStore.commit] at hget
      split at hget
      · rw [FileScheduleStore.get, get?_set_self] at hget
        exact (Option.some.inj hget).symm
      rw [FileScheduleStore.get] at hfree
      rw [FileScheduleStore.get, hfree] at hget
      cases hget
    rw [hrecord]
    refine ⟨htimed, fun cursor hcursor => ?_⟩
    rw [hcursors cursor hcursor]
    exact bot_le
  · intro file value hfile hvalue
    have hvalueTimed : Timed platform value := by
      rcases FileScheduleStore.commit_file hfile with hnewer | hold
      · rw [hvalue] at hnewer
        cases hnewer
        exact htimed
      · exact (h.file file value hold hvalue).1
    refine ⟨hvalueTimed, fun cursor hcursor => ?_⟩
    rw [hcursors cursor hcursor]
    exact bot_le
  · apply pairwise_of_forall_mem_list
    intro cursor hcursor other _
    rw [hcursors cursor hcursor]
    exact bot_le
  · intro m hm current state hstage hid
    exact absurd (h.settlements m hm current state hstage hid).1 (hcopies current)
  · exact h.distinct
  · intro x hx
    exact absurd (h.waited x hx).1 (hnone x)
  · exact h.once
  · intro x hx
    exact absurd (h.admitted x hx) (hnone x)

end

/-- The step neither edits the schedule, nor takes its cursor back.  A call that is
rejected edits nothing. -/
def KeepsCursor (limits : ScheduleLimits) (platform : SchedulePlatform) (id : JsString)
    (s : SchedulerRuntime) : SchedulerEvent → Prop
  | .create definition now _ =>
    definition.scheduleId = id →
      (s.store.createResource limits platform definition now).toOption = none ∨
        (definition.lastTrigger = none ∧ s.cursors id = [])
  | .update scheduleId expectedRevision definition now _ =>
    scheduleId = id → (s.store.updateResource limits platform scheduleId expectedRevision definition
      now).toOption = none
  | .delete scheduleId expectedRevision _ =>
    scheduleId = id → (s.store.expected scheduleId expectedRevision).toOption = none
  | .advance input => ∀ call ∈ s.op, CallKeepsCursor id s input call
  | _ => True

theorem exists_error_of_toOption {A : Type} {x : Except ScheduleError A} (h : x.toOption = none) :
    ∃ error, x = .error error := by
  cases x with
  | error error => exact ⟨error, rfl⟩
  | ok => cases h

section
variable (h : CursorInv platform id s)
include h

theorem CursorInv.create {definition : ScheduleDefinition} {now : Int}
    {outcome : FileOutcome}
    (hkeeps : KeepsCursor limits platform id s (.create definition now outcome)) :
    CursorInv platform id
      (s.record definition.scheduleId (s.store.create limits platform definition now outcome)) := by
  by_cases hid : definition.scheduleId = id
  · cases hresource : s.store.createResource limits platform definition now with
    | error error =>
      have hcall : s.store.create limits platform definition now outcome = (s.store, .error error) := by
        unfold FileScheduleStore.create
        rw [hresource]
      rw [hcall]
      exact h.record_unchanged _ error
    | ok resource =>
      have hcall : s.store.create limits platform definition now outcome =
          s.store.commit resource outcome := by
        unfold FileScheduleStore.create
        rw [hresource]
      rcases hkeeps hid with hnone | ⟨hlast, hnew⟩
      · rw [hresource] at hnone
        cases hnone
      obtain ⟨hfree, hvalid⟩ := FileScheduleStore.createResource_ok hresource
      obtain ⟨_, hcron, hsame, -⟩ := validateScheduleResource_ok.mp hvalid
      have hresourceLast : resource.lastTrigger = none := by
        rw [hsame]
        exact hlast
      have hbot : resource.cursor = ⊥ := by
        unfold ScheduleResource.cursor
        rw [hresourceLast]
        rfl
      rw [hcall, hid]
      apply h.createNew outcome _ _ hnew _ hbot
      · rw [hsame]
        exact hid
      · rw [← hid]
        exact hfree
      · constructor
        · rw [hsame]
          exact validateCronExpression_idem hcron
        · intro next _
          rw [hbot]
          exact WithBot.bot_lt_coe _
        · intro next _ hnot
          exact absurd hresourceLast hnot
  · obtain ⟨hsame, hother⟩ := FileScheduleStore.create_other (s := s.store) limits platform hid now outcome
    exact h.record_other _ _ (h.keyed.create _ _ _) hsame hother

theorem CursorInv.update {expectedRevision : Nat} {definition : ScheduleDefinition}
    {now : Int} {outcome : FileOutcome}
    (hkeeps : KeepsCursor limits platform id s (.update scheduleId expectedRevision definition now outcome)) :
    CursorInv platform id (s.record scheduleId
      (s.store.update limits platform scheduleId expectedRevision definition now outcome)) := by
  by_cases hid : scheduleId = id
  · obtain ⟨error, herror⟩ := exists_error_of_toOption (hkeeps hid)
    have hcall : s.store.update limits platform scheduleId expectedRevision definition now outcome =
        (s.store, .error error) := by
      unfold FileScheduleStore.update
      rw [herror]
    rw [hcall]
    exact h.record_unchanged _ error
  · obtain ⟨hsame, hother⟩ := FileScheduleStore.update_other (s := s.store) limits platform hid
      expectedRevision definition now outcome
    exact h.record_other _ _ (h.keyed.update _ _ _ _ _) hsame hother

theorem CursorInv.delete {expectedRevision : Nat} {outcome : FileOutcome}
    (hkeeps : KeepsCursor limits platform id s (.delete scheduleId expectedRevision outcome)) :
    CursorInv platform id
      { s with store := (s.store.delete scheduleId expectedRevision outcome).1 } := by
  by_cases hid : scheduleId = id
  · obtain ⟨error, herror⟩ := exists_error_of_toOption (hkeeps hid)
    have hcall : s.store.delete scheduleId expectedRevision outcome = (s.store, .error error) := by
      unfold FileScheduleStore.delete
      rw [herror]
    rw [hcall]
    exact h
  · -- The deletion is a call of the store that commits nothing.
    have hsame := FileScheduleStore.delete_other (s := s.store) hid expectedRevision outcome
    have hkeyed : (s.store.delete scheduleId expectedRevision outcome).1.Keyed :=
      h.keyed.delete _ _ _
    exact h.record_other scheduleId (_, .error ⟨.io, ""⟩) hkeyed hsame (by rintro _ ⟨⟩)

theorem CursorInv.restart {store : FileScheduleStore}
    {recovery : FileScheduleStore.ScheduleRecovery}
    (hload : FileScheduleStore.load limits platform s.store.directory = (store, .ok recovery)) :
    CursorInv platform id { SchedulerRuntime.new store with commits := s.commits, admits := s.admits } := by
  have hfiles := congrArg Prod.fst (FileScheduleStore.load_ok.mp hload).2.1
  change _ = store at hfiles
  refine ⟨⟨FileScheduleStore.load_keyed hload, ?_, ?_, h.sorted, ?_, nodup_nil, ?_, h.once,
    h.admitted⟩, ?_⟩
  · intro record hget
    rw [← hfiles] at hget
    rcases FileScheduleStore.loadFiles_found hget with hget | ⟨file, value, hfile, hvalue, hvalid⟩
    · cases hget
    obtain ⟨htimed, hbound⟩ := h.file file value hfile hvalue
    obtain ⟨_, hcron, hsame, -⟩ := validateScheduleResource_ok.mp hvalid
    rw [htimed.cron] at hcron
    cases hcron
    rw [hsame]
    exact ⟨htimed, hbound⟩
  · intro file value hfile hvalue
    rw [← hfiles] at hfile
    have hold := FileScheduleStore.loadFiles_directory hfile
    exact h.file file value hold hvalue
  · intro m hm
    cases hm
  · intro x hx
    cases hx
  · intro call hcall
    cases hcall

theorem schedulerStep_cursorInv {event : SchedulerEvent}
    (hkeeps : KeepsCursor limits platform id s event)
    (hstep : schedulerStep limits platform s event = some t) : CursorInv platform id t := by
  cases event with
  | create =>
    cases hstep
    exact h.create hkeeps
  | update =>
    cases hstep
    exact h.update hkeeps
  | delete =>
    cases hstep
    exact h.delete hkeeps
  | start =>
    cases hstep
    split
    · exact h
    · refine h.unchanged ⟨rfl, rfl, rfl⟩ rfl rfl ?_
      simp [waiting, Job.drainTime]
  | stop =>
    cases hstep
    exact h.unchanged ⟨rfl, rfl, rfl⟩ rfl rfl (List.Sublist.refl _)
  | recompute =>
    cases hstep
    refine h.unchanged ⟨rfl, rfl, rfl⟩ rfl rfl ?_
    simp [waiting, Job.drainTime]
  | beginDrain =>
    cases hstep
    refine h.unchanged ⟨rfl, rfl, rfl⟩ rfl rfl ?_
    simp [waiting, get?_empty]
  | beginJob => exact h.beginJob hstep
  | advance input =>
    obtain ⟨call, hop, rfl⟩ := map_eq_some_iff.mp hstep
    exact h.advance input hop (hkeeps call hop)
  | settle number input =>
    obtain ⟨_, hfind, rfl⟩ := map_eq_some_iff.mp hstep
    exact h.settleStep (List.mem_of_find?_eq_some hfind) input
  | restart =>
    simp only [schedulerStep] at hstep
    split at hstep
    · cases hstep
    rename_i hload
    cases hstep
    exact h.restart hload

end

end

theorem cursorInv_new (platform : SchedulePlatform) (id : JsString) :
    CursorInv platform id (new ⟨.empty, .empty⟩) := by
  refine ⟨⟨FileScheduleStore.keyed_empty _, ?_, ?_, List.Pairwise.nil, ?_, nodup_nil, ?_,
    nodup_nil, ?_⟩, ?_⟩
  · intro record hget
    cases hget
  · intro file value hfile
    cases hfile
  · intro m hm
    cases hm
  · intro x hx
    cases hx
  · intro x hx
    cases hx
  · intro call hcall
    cases hcall

/-- **The cursor never regresses and no occurrence is admitted twice**, in a run that
neither edits the schedule nor takes its cursor back. -/
theorem cursor_nondecreasing (limits : ScheduleLimits) (platform : SchedulePlatform)
    (id : JsString) (events : List SchedulerEvent) {s : SchedulerRuntime}
    (hrun : run (schedulerStep limits platform) (new ⟨.empty, .empty⟩) events = some s)
    (hkeeps : Meets (schedulerStep limits platform) (KeepsCursor limits platform id)
      (new ⟨.empty, .empty⟩) events) :
    (s.cursors id).Pairwise (· ≤ ·) ∧ (s.admittedTimes id).Nodup := by
  have hinv : CursorInv platform id s := by
    apply run_invariant_of_meets _ (cursorInv_new platform id) hkeeps hrun
    intro s event t h hkeeps hstep
    exact schedulerStep_cursorInv h hkeeps hstep
  exact ⟨hinv.sorted, hinv.once⟩

/-! ## Runs -/

instance (s : SchedulerRuntime) (id : JsString) (t : Int) : Decidable (s.AtLeast id t) :=
  match hget : s.store.get id with
  | none => .isTrue fun record h => by rw [hget] at h; cases h
  | some found =>
    decidable_of_iff (found.cursor ≤ (t : WithBot Int))
      ⟨fun hle record h => by rw [hget] at h; cases h; exact hle, fun h => h found hget⟩

instance (t : Int) : (cont : OccurrenceCont) → Decidable (OnTime t cont)
  | .drain => .isTrue trivial
  | .due now _ _ => inferInstanceAs (Decidable (t ≤ now))

instance (id : JsString) (s : SchedulerRuntime) (input : SchedulerInput) :
    (call : Await) → Decidable (CallKeepsCursor id s input call)
  | .persist schedule _ (.decided d) =>
    inferInstanceAs (Decidable (schedule.scheduleId = id →
      (schedule.missedWakePolicy = .runOnce → OnTime d.scheduledFor d.cont) ∧
        (OccurrenceCont.isDrain d.cont = true → s.AtLeast id d.scheduledFor)))
  | .reread scheduleId (.decided d) =>
    inferInstanceAs (Decidable (scheduleId = id →
      s.draining = true ∨ input.gatewayDraining = true ∨ s.store.get id = none ∨
        (OccurrenceCont.isDrain d.cont = true ∧ s.AtLeast id d.scheduledFor)))
  | .persist _ _ (.normalized _ _) | .persist _ _ (.finished _ _) | .persist _ _ (.returned _)
  | .persist _ _ (.admitted _ _ _) | .reread _ (.normalized _ _) | .reread _ (.finished _ _)
  | .reread _ (.returned _) | .reread _ (.admitted _ _ _) | .normalizeList _ | .dueList _ | .armList
  | .drainGet _ _ | .resolve _ | .admission _ _ => .isTrue trivial

instance (limits : ScheduleLimits) (platform : SchedulePlatform) (id : JsString)
    (s : SchedulerRuntime) :
    (event : SchedulerEvent) → Decidable (KeepsCursor limits platform id s event)
  | .create definition now _ =>
    inferInstanceAs (Decidable (definition.scheduleId = id →
      (s.store.createResource limits platform definition now).toOption = none ∨
        (definition.lastTrigger = none ∧ s.cursors id = [])))
  | .update scheduleId expectedRevision definition now _ =>
    inferInstanceAs (Decidable (scheduleId = id →
      (s.store.updateResource limits platform scheduleId expectedRevision definition
        now).toOption = none))
  | .delete scheduleId expectedRevision _ =>
    inferInstanceAs (Decidable (scheduleId = id →
      (s.store.expected scheduleId expectedRevision).toOption = none))
  | .advance input => inferInstanceAs (Decidable (∀ call ∈ s.op, CallKeepsCursor id s input call))
  | .start | .stop | .recompute | .beginDrain | .beginJob _ | .settle _ _ | .restart =>
    .isTrue trivial

/-- Two occurrences in turn. -/
def twoOccurrences : List SchedulerEvent :=
  armed ++ occurrence 60000 .idle "t" 7 ++
    List.replicate 4 (.settle 0 (answer 60000 .idle "t")) ++ occurrence 120000 .idle "u" 7

theorem cursor_nondecreasing_due :
    ∃ s, run (schedulerStep defaultLimits utcPlatform) (new ⟨.empty, .empty⟩) twoOccurrences =
        some s ∧ s.admittedTimes (text "a") = [60000, 120000] ∧
      (s.cursors (text "a")).Pairwise (· ≤ ·) := by
  exact exists_some_and (by decide +kernel) fun s hrun _ =>
    (cursor_nondecreasing defaultLimits utcPlatform (text "a") _ hrun (by decide +kernel)).1

/-- The first occurrence is queued behind the work of a user, and the settlement of the
second one drains it. -/
def staleOverlap : List SchedulerEvent :=
  armed ++ occurrence 60000 .running "t" 6 ++ occurrence 120000 .idle "u" 7 ++
    List.replicate 4 (.settle 0 (answer 120000 .idle "u")) ++
    .beginJob 121000 :: List.replicate 2 (.advance (answer 121000 .idle "v"))

/-- The timer is late: the occurrence of the next minute is run for the missed one. -/
def earlyCatchUp : List SchedulerEvent :=
  [.create { everyMinute with missedWakePolicy := .runOnce } 0 .done, .start, .beginJob 0] ++
    List.replicate 4 (.advance (answer 0 .idle "t")) ++ occurrence 200000 .idle "t" 8 ++
    List.replicate 4 (.settle 0 (answer 230000 .idle "t")) ++ occurrence 240000 .idle "u" 5

/-- The cursor goes back to the drained overlap, and the occurrence that has been run
early is run again at its time. -/
theorem decided_again :
    (run (schedulerStep defaultLimits utcPlatform) (new ⟨.empty, .empty⟩) staleOverlap).any
        (fun s => !decide ((s.cursors (text "a")).Pairwise (· ≤ ·))) = true ∧
      (run (schedulerStep defaultLimits utcPlatform) (new ⟨.empty, .empty⟩) earlyCatchUp).any
        (fun s => s.admittedTimes (text "a") = [240000, 240000]) = true := by
  constructor
  · decide +kernel
  · decide +kernel

end SchedulerRuntime

end PiDaemon.Scheduler
