import PiDaemon.Lib.Mirror
import PiDaemon.Scheduler.Recompute

/-!
# Recovery of the schedules

What a new store reads from the directory of an old one.  A write is judged by the size
of the compact resource and a load by the size of the file.

* `StoreInv`: after any calls the files are those of the schedules, each valid again;
* `loadFiles_fits`, `loadFiles_clean`: a load without a quarantine is one whose files
  fit the limits;
* `restart_recovers`: so the schedules are recovered if and only if their files fit;
* `restart_quarantines`: a valid schedule whose file does not fit.
-/

namespace PiDaemon.Scheduler

open Lib Durability OrderedMap List

namespace FileScheduleStore

/-! ## Calls -/

inductive ScheduleStoreEvent where
  | create (definition : ScheduleDefinition) (now : Int)
  | update (scheduleId : JsString) (expectedRevision : Nat) (definition : ScheduleDefinition)
      (now : Int)
  | updateRuntimeState (scheduleId : JsString) (expectedRevision : Nat)
      (state : ScheduleRuntimeState) (now : Int)
  | delete (scheduleId : JsString) (expectedRevision : Nat)

/-- The store after a call that succeeds. -/
def succeeded {A : Type} (result : FileScheduleStore × Except ScheduleError A) :
    Option FileScheduleStore :=
  match result.2 with
  | .ok _ => some result.1
  | .error _ => none

/-- A successful call; its file is written. -/
def scheduleStoreStep (limits : ScheduleLimits) (platform : SchedulePlatform)
    (s : FileScheduleStore) : ScheduleStoreEvent → Option FileScheduleStore
  | .create definition now => succeeded (s.create limits platform definition now .done)
  | .update scheduleId expectedRevision definition now =>
    succeeded (s.update limits platform scheduleId expectedRevision definition now .done)
  | .updateRuntimeState scheduleId expectedRevision state now =>
    succeeded (s.updateRuntimeState limits platform scheduleId expectedRevision state now .done)
  | .delete scheduleId expectedRevision => succeeded (s.delete scheduleId expectedRevision .done)

/-! ## The invariant -/

def scheduleFile (resource : ScheduleResource) : ScheduleFile :=
  ⟨envelopeFileBytes resource, some resource⟩

/-- The schedules of a session. -/
def sessionCount (s : FileScheduleStore) (sessionRef : JsString) : Nat :=
  (s.records.values.filter fun record => record.sessionRef = sessionRef).length

structure StoreInv (limits : ScheduleLimits) (platform : SchedulePlatform)
    (s : FileScheduleStore) : Prop where
  keyed : s.Keyed
  valid : ∀ scheduleId resource, s.get scheduleId = some resource →
    validateScheduleResource limits platform.known resource = .ok resource
  mirrors : Mirrors scheduleFileName scheduleFile s.records s.directory
  count : s.records.size ≤ limits.maxSchedules
  sessions : ∀ sessionRef, s.sessionCount sessionRef ≤ limits.maxSchedulesPerSession

/-- A new store over the directory has the same schedules, and nothing is quarantined. -/
def Recovers (limits : ScheduleLimits) (platform : SchedulePlatform) (s : FileScheduleStore) :
    Prop :=
  ∃ t recovery, load limits platform s.directory = (t, .ok recovery) ∧
    recovery.quarantined = [] ∧ ∀ scheduleId, t.get scheduleId = s.get scheduleId

/-- Each file is within the limit of a record, and all of them within that of a recovery. -/
def FilesFit (limits : ScheduleLimits) (s : FileScheduleStore) : Prop :=
  (∀ resource ∈ s.records.values, envelopeFileBytes resource ≤ limits.maxRecordBytes) ∧
    (s.records.values.map envelopeFileBytes).sum ≤ limits.maxRecoveryBytes

section
variable {limits : ScheduleLimits} {platform : SchedulePlatform} {s t : FileScheduleStore}

theorem scheduleFileName_injective {left right : JsString}
    (h : scheduleFileName left = scheduleFileName right) : left = right :=
  append_cancel_right h

/-- A validated resource is valid as it is. -/
theorem validateScheduleResource_idem {known : JsString → Bool}
    {resource validated : ScheduleResource}
    (h : validateScheduleResource limits known resource = .ok validated) :
    validateScheduleResource limits known validated = .ok validated := by
  obtain ⟨cron, hcron, rfl, hcheck⟩ := validateScheduleResource_ok.mp h
  exact validateScheduleResource_ok.mpr ⟨cron, validateCronExpression_idem hcron, rfl, hcheck⟩

theorem storeInv_empty : StoreInv limits platform ⟨.empty, .empty⟩ := by
  refine ⟨keyed_empty _, ?_, Mirrors.empty _ _, Nat.zero_le _, fun _ => Nat.zero_le _⟩
  intro scheduleId resource h
  cases h

variable {resources : List ScheduleResource} {resource : ScheduleResource}

theorem StoreInv.set (h : StoreInv limits platform s)
    (hvalid : validateScheduleResource limits platform.known resource = .ok resource)
    (hcount : (s.records.set resource.scheduleId resource).size ≤ limits.maxSchedules)
    (hsessions : ∀ sessionRef, ((s.records.set resource.scheduleId resource).values.filter
      fun record => record.sessionRef = sessionRef).length ≤ limits.maxSchedulesPerSession) :
    StoreInv limits platform (s.commit resource .done).1 := by
  rw [commit_done]
  refine ⟨h.keyed.set resource _, ?_, ?_, hcount, hsessions⟩
  · intro scheduleId found hget
    simp only [get, get?_set] at hget
    split at hget
    · cases hget
      exact hvalid
    · exact h.valid scheduleId found hget
  · exact h.mirrors.set resource fun k' v' _ heq => scheduleFileName_injective heq

theorem StoreInv.replace (h : StoreInv limits platform s) (current resource : ScheduleResource)
    (hget : s.get resource.scheduleId = some current)
    (hsession : current.sessionRef = resource.sessionRef)
    (hvalid : validateScheduleResource limits platform.known resource = .ok resource) :
    StoreInv limits platform (s.commit resource .done).1 := by
  apply h.set hvalid
  · rw [size_set_of_has hget]
    exact h.count
  intro sessionRef
  rw [length_filter_values_set hget (by simp [hsession])]
  exact h.sessions sessionRef

theorem succeeded_commit (h : succeeded (s.commit resource .done) = some t) :
    t = (s.commit resource .done).1 := by
  cases h
  rfl

section
variable (h : StoreInv limits platform s)
include h

theorem StoreInv.create {definition : ScheduleDefinition}
    {now : Int} (hstep : scheduleStoreStep limits platform s (.create definition now) = some t) :
    StoreInv limits platform t := by
  unfold scheduleStoreStep FileScheduleStore.create at hstep
  cases hresource : s.createResource limits platform definition now with
  | error =>
    simp only [hresource] at hstep
    cases hstep
  | ok =>
    simp only [hresource] at hstep
    rw [succeeded_commit hstep]
    unfold createResource at hresource
    simp only [bind_ok, check_ok, exists_const_iff] at hresource
    obtain ⟨-, hfree, -, hcount, -, hsession, hvalid⟩ := hresource
    have hsame := validateScheduleResource_idem hvalid
    obtain ⟨_, -, rfl, -⟩ := validateScheduleResource_ok.mp hvalid
    have hnone : s.records.get? definition.scheduleId = none :=
      has_eq_false.mp (by simpa using hfree)
    apply h.set hsame
    · rw [size_set_of_not_has hnone]
      exact of_decide_eq_true hcount
    intro sessionRef
    rw [values_set_of_not_has hnone, filter_append, length_append]
    by_cases heq : definition.sessionRef = sessionRef
    · rw [← heq]
      have hbelow := of_decide_eq_true hsession
      simp only [decide_true, filter_cons_of_pos, filter_nil, length_singleton]
      exact hbelow
    · have hbound := h.sessions sessionRef
      unfold sessionCount at hbound
      simpa [heq] using hbound

theorem StoreInv.update {scheduleId : JsString}
    {expectedRevision : Nat} {definition : ScheduleDefinition} {now : Int}
    (hstep : scheduleStoreStep limits platform s
      (.update scheduleId expectedRevision definition now) = some t) :
    StoreInv limits platform t := by
  unfold scheduleStoreStep FileScheduleStore.update at hstep
  cases hresource : s.updateResource limits platform scheduleId expectedRevision definition now with
  | error =>
    simp only [hresource] at hstep
    cases hstep
  | ok =>
    simp only [hresource] at hstep
    rw [succeeded_commit hstep]
    unfold updateResource at hresource
    simp only [bind_ok, check_ok, expected_ok, Bool.and_eq_true, decide_eq_true_eq] at hresource
    obtain ⟨current, ⟨hget, -⟩, -, ⟨rfl, hsession⟩, hvalid⟩ := hresource
    have hsame := validateScheduleResource_idem hvalid
    obtain ⟨_, -, rfl, -⟩ := validateScheduleResource_ok.mp hvalid
    exact h.replace current _ hget hsession.symm hsame

theorem StoreInv.updateRuntimeState {scheduleId : JsString}
    {expectedRevision : Nat} {state : ScheduleRuntimeState} {now : Int}
    (hstep : scheduleStoreStep limits platform s
      (.updateRuntimeState scheduleId expectedRevision state now) = some t) :
    StoreInv limits platform t := by
  unfold scheduleStoreStep FileScheduleStore.updateRuntimeState at hstep
  cases hresource : s.runtimeResource limits platform scheduleId expectedRevision state now with
  | error =>
    simp only [hresource] at hstep
    cases hstep
  | ok =>
    simp only [hresource] at hstep
    rw [succeeded_commit hstep]
    obtain ⟨current, cron, hget, -, hcron, rfl, hcheck⟩ := runtimeResource_ok.mp hresource
    have hid : current.scheduleId = scheduleId := h.keyed _ _ hget
    subst hid
    refine h.replace current _ hget rfl ?_
    exact validateScheduleResource_ok.mpr ⟨cron, validateCronExpression_idem hcron, rfl, hcheck⟩

theorem StoreInv.delete {scheduleId : JsString}
    {expectedRevision : Nat}
    (hstep : scheduleStoreStep limits platform s (.delete scheduleId expectedRevision) = some t) :
    StoreInv limits platform t := by
  unfold scheduleStoreStep FileScheduleStore.delete at hstep
  cases hexpected : s.expected scheduleId expectedRevision with
  | error =>
    simp only [hexpected] at hstep
    cases hstep
  | ok =>
    simp only [hexpected] at hstep
    cases hstep
    refine ⟨?_, ?_, ?_, ?_, ?_⟩
    · intro id resource hget
      exact h.keyed id resource (get?_of_delete hget).2
    · intro id resource hget
      exact h.valid id resource (get?_of_delete hget).2
    · exact h.mirrors.delete fun k' v' _ heq => scheduleFileName_injective heq
    · exact Nat.le_trans (size_delete_le _ _) h.count
    · intro sessionRef
      exact Nat.le_trans (length_filter_values_delete_le _ _ _) (h.sessions sessionRef)

theorem scheduleStoreStep_storeInv {event : ScheduleStoreEvent}
    (hstep : scheduleStoreStep limits platform s event = some t) : StoreInv limits platform t := by
  cases event with
  | create => exact h.create hstep
  | update => exact h.update hstep
  | updateRuntimeState => exact h.updateRuntimeState hstep
  | delete => exact h.delete hstep

end

/-! ## Loads -/

/-- The file of a resource in the directory, and no schedule in its place. -/
structure Loadable (limits : ScheduleLimits) (platform : SchedulePlatform)
    (s : FileScheduleStore) (resource : ScheduleResource) : Prop where
  file : s.directory.get? (scheduleFileName resource.scheduleId) = some (scheduleFile resource)
  valid : validateScheduleResource limits platform.known resource = .ok resource
  free : s.records.get? resource.scheduleId = none

theorem Loadable.accepted (h : Loadable limits platform s resource) :
    s.acceptedFile limits platform (scheduleFileName resource.scheduleId) (scheduleFile resource) =
      some resource := by
  have hfree : s.records.has resource.scheduleId = false := has_eq_false.mpr h.free
  unfold acceptedFile
  simp [scheduleFile, h.valid, hfree]

theorem Loadable.next {resource other : ScheduleResource} (h : Loadable limits platform s other)
    (hne : resource.scheduleId ≠ other.scheduleId) :
    Loadable limits platform { s with records := s.records.set resource.scheduleId resource }
      other := by
  refine ⟨h.file, h.valid, ?_⟩
  rw [get?_set_ne _ hne]
  exact h.free

def fileNames (resources : List ScheduleResource) : List JsString :=
  resources.map fun resource => scheduleFileName resource.scheduleId

theorem loadFiles_fits {quarantined : List JsString} {scannedBytes : Nat}
    (hloadable : ∀ resource ∈ resources, Loadable limits platform s resource)
    (hnodup : (resources.map ScheduleResource.scheduleId).Nodup)
    (hfile : ∀ resource ∈ resources, envelopeFileBytes resource ≤ limits.maxRecordBytes)
    (hsum : scannedBytes + (resources.map envelopeFileBytes).sum ≤ limits.maxRecoveryBytes) :
    loadFiles limits platform ⟨quarantined, scannedBytes⟩ (fileNames resources) s =
      ({ s with
          records := resources.foldl (fun records resource =>
            records.set resource.scheduleId resource) s.records },
        .ok ⟨quarantined, scannedBytes + (resources.map envelopeFileBytes).sum⟩) := by
  induction resources generalizing s scannedBytes with
  | nil => rfl
  | cons resource rest ih =>
    rw [map_cons, nodup_cons] at hnodup
    rw [map_cons, sum_cons] at hsum
    have hhead := hloadable resource mem_cons_self
    have hsize : (scheduleFile resource).bytes = envelopeFileBytes resource := rfl
    have hbytes := hfile resource mem_cons_self
    have hrest : ∀ other ∈ rest, Loadable limits platform
        { s with records := s.records.set resource.scheduleId resource } other := by
      intro other hother
      apply (hloadable other (mem_cons_of_mem _ hother)).next
      intro heq
      exact hnodup.1 (heq ▸ mem_map_of_mem hother)
    unfold fileNames
    rw [map_cons, loadFiles]
    simp only [hhead.file, hhead.accepted, hsize]
    rw [if_neg (by omega), if_neg (by omega), ← fileNames,
      ih hrest hnodup.2 (fun other hother => hfile other (mem_cons_of_mem _ hother)) (by omega)]
    simp [Nat.add_assoc]

theorem loadFiles_keeps {names : List JsString} {recovery result : ScheduleRecovery}
    (h : loadFiles limits platform recovery names s = (t, .ok result)) :
    recovery.quarantined <+: result.quarantined := by
  induction names generalizing s recovery with
  | nil =>
    cases h
    exact prefix_rfl
  | cons name rest ih =>
    rw [loadFiles] at h
    split at h
    · exact ih h
    simp only at h
    split at h
    · exact (prefix_append _ _).trans (ih h)
    split at h
    · cases h
    split at h
    · exact (prefix_append _ _).trans (ih h)
    · have := ih h
      exact this

/-- The files of a load without a quarantine fit. -/
theorem loadFiles_clean {quarantined : List JsString} {scannedBytes : Nat}
    {result : ScheduleRecovery}
    (hloadable : ∀ resource ∈ resources, Loadable limits platform s resource)
    (hnodup : (resources.map ScheduleResource.scheduleId).Nodup)
    (hbound : scannedBytes ≤ limits.maxRecoveryBytes)
    (h : loadFiles limits platform ⟨quarantined, scannedBytes⟩ (fileNames resources) s =
      (t, .ok result)) (hclean : result.quarantined = quarantined) :
    (∀ resource ∈ resources, envelopeFileBytes resource ≤ limits.maxRecordBytes) ∧
      scannedBytes + (resources.map envelopeFileBytes).sum ≤ limits.maxRecoveryBytes := by
  induction resources generalizing s scannedBytes with
  | nil => exact ⟨fun _ hmem => absurd hmem not_mem_nil, by simpa using hbound⟩
  | cons resource rest ih =>
    rw [map_cons, nodup_cons] at hnodup
    have hhead := hloadable resource mem_cons_self
    have hsize : (scheduleFile resource).bytes = envelopeFileBytes resource := rfl
    have hrest : ∀ other ∈ rest, Loadable limits platform
        { s with records := s.records.set resource.scheduleId resource } other := by
      intro other hother
      apply (hloadable other (mem_cons_of_mem _ hother)).next
      intro heq
      exact hnodup.1 (heq ▸ mem_map_of_mem hother)
    unfold fileNames at h
    rw [map_cons, loadFiles] at h
    simp only [hhead.file, hhead.accepted, hsize] at h
    split at h
    · -- The file would have been quarantined.
      have hprefix := (loadFiles_keeps h).length_le
      rw [hclean] at hprefix
      simp only [length_append, length_singleton] at hprefix
      omega
    · split at h
      · cases h
      obtain ⟨hfiles, _⟩ := ih hrest hnodup.2 (by omega) h
      constructor
      · intro other hother
        rcases mem_cons.mp hother with rfl | hother
        · omega
        · exact hfiles other hother
      · rw [map_cons, sum_cons]
        omega

/-! ## Restarts -/

theorem isScheduleFileName_of_valid
    (h : validateScheduleResource limits platform.known resource = .ok resource) :
    isScheduleFileName (scheduleFileName resource.scheduleId) = true := by
  obtain ⟨_, -, -, hcheck⟩ := validateScheduleResource_ok.mp h
  unfold checkResource checkIdentifier checkText at hcheck
  simp only [bind_ok, check_ok, exists_const_iff, Bool.and_eq_true, decide_eq_true_eq] at hcheck
  obtain ⟨-, ⟨-, ⟨⟨-, hlength⟩, -⟩, hidentifier⟩, -⟩ := hcheck
  have hsize : (scheduleFileName resource.scheduleId).length - 5 = resource.scheduleId.length := by
    show (resource.scheduleId ++ text ".json").length - 5 = _
    rw [length_append]
    exact Nat.add_sub_cancel _ _
  have hsuffix : (text ".json").isSuffixOf (scheduleFileName resource.scheduleId) = true :=
    isSuffixOf_iff_suffix.mpr (suffix_append _ _)
  unfold isScheduleFileName
  rw [hsuffix, hsize, scheduleFileName, take_left, hidentifier]
  exact decide_eq_true hlength

/-- The names of the directory are those of the schedules, in some order. -/
theorem StoreInv.names_perm (h : StoreInv limits platform s) :
    (scheduleFileNames platform s.directory).Perm (fileNames s.records.values) := by
  have hentries := h.mirrors.perm fun k _ k' _ _ _ heq => scheduleFileName_injective heq
  have hkeys : s.directory.keys.Perm (fileNames s.records.values) := by
    have hnames : fileNames s.records.values =
        (s.records.entries.map fun entry =>
          (scheduleFileName entry.1, scheduleFile entry.2)).map Prod.fst := by
      unfold fileNames OrderedMap.values
      rw [map_map, map_map]
      apply map_congr_left
      rintro ⟨scheduleId, resource⟩ hmem
      exact congrArg scheduleFileName (h.keyed _ _ (mem_entries.mp hmem))
    rw [hnames]
    exact hentries.map Prod.fst
  have hall : s.directory.keys.filter isScheduleFileName = s.directory.keys := by
    apply filter_eq_self.mpr
    intro name hname
    obtain ⟨resource, hmem, rfl⟩ := mem_map.mp (hkeys.mem_iff.mp hname)
    obtain ⟨scheduleId, hget⟩ := mem_values.mp hmem
    exact isScheduleFileName_of_valid (h.valid _ _ hget)
  unfold scheduleFileNames
  rw [hall]
  exact (mergeSort_perm _ _).trans hkeys

theorem StoreInv.exists_resources (h : StoreInv limits platform s) :
    ∃ resources : List ScheduleResource, resources.Perm s.records.values ∧
      scheduleFileNames platform s.directory = fileNames resources := by
  have hcomp := eq_map_comp_perm fun resource : ScheduleResource =>
    scheduleFileName resource.scheduleId
  obtain ⟨resources, hnames, hperm⟩ := (congrFun (congrFun hcomp _) _).mpr h.names_perm
  exact ⟨resources, hperm, hnames⟩

theorem StoreInv.loadable (h : StoreInv limits platform s) (hmem : resource ∈ s.records.values) :
    Loadable limits platform ⟨.empty, s.directory⟩ resource := by
  obtain ⟨scheduleId, hget⟩ := mem_values.mp hmem
  have hid : resource.scheduleId = scheduleId := h.keyed _ _ hget
  subst hid
  exact ⟨h.mirrors.read _ _ hget, h.valid _ _ hget, rfl⟩

theorem Keyed.nodup_ids (h : s.Keyed) :
    (s.records.values.map ScheduleResource.scheduleId).Nodup := by
  have hkeys : s.records.values.map ScheduleResource.scheduleId = s.records.entries.map Prod.fst := by
    unfold OrderedMap.values
    rw [map_map]
    apply map_congr_left
    rintro ⟨_, _⟩ hmem
    exact h _ _ (mem_entries.mp hmem)
  rw [hkeys]
  exact s.records.nodup

/-- The memory that is loaded is the one that was written. -/
theorem StoreInv.get_loaded (h : StoreInv limits platform s)
    (hperm : resources.Perm s.records.values) (scheduleId : JsString) :
    (resources.foldl (fun records resource => records.set resource.scheduleId resource)
      OrderedMap.empty).get? scheduleId = s.records.get? scheduleId := by
  have hnodup : (resources.map ScheduleResource.scheduleId).Nodup :=
    (hperm.map _).nodup_iff.mpr h.keyed.nodup_ids
  obtain ⟨hset, hother⟩ := get?_foldl_set ScheduleResource.scheduleId resources .empty hnodup
  cases hget : s.records.get? scheduleId with
  | some resource =>
    have hid : resource.scheduleId = scheduleId := h.keyed _ _ hget
    have hmem : resource ∈ resources :=
      hperm.mem_iff.mpr (mem_values.mpr ⟨scheduleId, hget⟩)
    rw [← hid]
    exact hset resource hmem
  | none =>
    apply hother
    intro hmem
    obtain ⟨resource, hresource, rfl⟩ := mem_map.mp hmem
    obtain ⟨key, hkey⟩ := mem_values.mp (hperm.mem_iff.mp hresource)
    have hid : resource.scheduleId = key := h.keyed _ _ hkey
    rw [hid, hkey] at hget
    cases hget

theorem StoreInv.within_loaded (h : StoreInv limits platform s)
    (hget : ∀ scheduleId, t.records.get? scheduleId = s.records.get? scheduleId) :
    t.withinSessions limits = true := by
  have hperm : t.records.values.Perm s.records.values :=
    (OrderedMap.perm_entries_of_get? hget).map Prod.snd
  unfold withinSessions
  rw [all_eq_true]
  intro resource _
  rw [decide_eq_true_eq, (hperm.filter _).length_eq]
  exact h.sessions resource.sessionRef

theorem StoreInv.recovers_iff (h : StoreInv limits platform s) :
    Recovers limits platform s ↔ FilesFit limits s := by
  obtain ⟨resources, hperm, hnames⟩ := h.exists_resources
  have hnodup : (resources.map ScheduleResource.scheduleId).Nodup :=
    (hperm.map _).nodup_iff.mpr h.keyed.nodup_ids
  have hloadable : ∀ resource ∈ resources, Loadable limits platform ⟨.empty, s.directory⟩ resource :=
    fun resource hmem => h.loadable (hperm.mem_iff.mp hmem)
  have hsum : (resources.map envelopeFileBytes).sum = (s.records.values.map envelopeFileBytes).sum :=
    (hperm.map _).sum_nat
  have hlength : (scheduleFileNames platform s.directory).length ≤ limits.maxSchedules := by
    rw [hnames]
    unfold fileNames
    rw [length_map, hperm.length_eq]
    unfold OrderedMap.values
    rw [length_map]
    exact h.count
  constructor
  · rintro ⟨_, _, hload, hclean, -⟩
    obtain ⟨-, hfiles, -⟩ := load_ok.mp hload
    rw [hnames] at hfiles
    obtain ⟨hrecord, hrecovery⟩ := loadFiles_clean hloadable hnodup (Nat.zero_le _) hfiles hclean
    constructor
    · intro resource hmem
      exact hrecord resource (hperm.mem_iff.mpr hmem)
    · omega
  · rintro ⟨hrecord, hrecovery⟩
    have hget := h.get_loaded hperm
    have hfiles : loadFiles limits platform ⟨[], 0⟩ (fileNames resources) ⟨.empty, s.directory⟩ =
        (⟨resources.foldl (fun records resource =>
            records.set resource.scheduleId resource) .empty, s.directory⟩,
          .ok ⟨[], 0 + (resources.map envelopeFileBytes).sum⟩) :=
      loadFiles_fits hloadable hnodup
        (fun resource hmem => hrecord resource (hperm.mem_iff.mp hmem)) (by omega)
    rw [← hnames] at hfiles
    exact ⟨_, _, load_ok.mpr ⟨hlength, hfiles, h.within_loaded hget⟩, rfl, hget⟩

end

/-- **Restart fidelity of the schedule store**: the schedules are recovered if and only
if their files fit the limits. -/
theorem restart_recovers (limits : ScheduleLimits) (platform : SchedulePlatform)
    (events : List ScheduleStoreEvent) {s : FileScheduleStore}
    (hrun : run (scheduleStoreStep limits platform) ⟨.empty, .empty⟩ events = some s) :
    Recovers limits platform s ↔ FilesFit limits s := by
  have hinv : StoreInv limits platform s := by
    apply run_invariant _ storeInv_empty hrun
    intro s event t h hstep
    exact scheduleStoreStep_storeInv h hstep
  exact hinv.recovers_iff

theorem restart_recovers_one :
    ∃ s, run (scheduleStoreStep defaultLimits utcPlatform) ⟨.empty, .empty⟩
        [.create (cronSchedule "a" "* * * * *") 0] = some s ∧
      (Recovers defaultLimits utcPlatform s ↔ FilesFit defaultLimits s) := by
  exact exists_some (by decide +kernel) fun s hrun =>
    restart_recovers defaultLimits utcPlatform _ hrun

/-- The limit of a record is met by the resource and not by its file. -/
def tightLimits : ScheduleLimits :=
  { defaultLimits with maxRecordBytes := resourceBytes (cronSchedule "a" "* * * * *") + 1 }

/-- The schedule is created, and gone after the restart. -/
theorem restart_quarantines :
    (run (scheduleStoreStep tightLimits utcPlatform) ⟨.empty, .empty⟩
        [.create (cronSchedule "a" "* * * * *") 0]).any (fun s =>
      (s.get (text "a")).isSome &&
        ((load tightLimits utcPlatform s.directory).1.get (text "a")).isNone &&
        (load tightLimits utcPlatform s.directory).2.toOption.any fun recovery =>
          recovery.quarantined = [text "a.json"]) = true := by
  decide +kernel

end FileScheduleStore

end PiDaemon.Scheduler
