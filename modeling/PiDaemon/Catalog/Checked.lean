import PiDaemon.Catalog.NameIndex

/-!
# Checked records

* `run_checked`: every record of a catalog passes the checks of `validateCatalogRecord`, in every
  state that it reaches over any directory.
-/

namespace PiDaemon.Catalog

open Lib Durability

variable {N : Type} {options : CatalogOptions} {host : CatalogHost N}

def Checked (host : CatalogHost N) (records : OrderedMap JsString (SessionCatalogRecord N)) : Prop :=
  ∀ id record, records.get? id = some record → validateCatalogRecord host record = .ok ()

namespace Checked

variable {records : OrderedMap JsString (SessionCatalogRecord N)}

theorem empty : Checked host (.empty : OrderedMap JsString (SessionCatalogRecord N)) := by
  intro id record h
  cases h

theorem set (h : Checked host records) {record : SessionCatalogRecord N}
    (hrecord : validateCatalogRecord host record = .ok ()) (key : JsString) : Checked host (records.set key record) := by
  intro id other hget
  rw [OrderedMap.get?_set] at hget
  split at hget
  · cases hget
    exact hrecord
  · exact h id other hget

theorem delete (h : Checked host records) (key : JsString) : Checked host (records.delete key) :=
  fun id record hget => h id record (OrderedMap.get?_of_delete hget).2

end Checked

namespace FileSessionCatalog

variable {s : FileSessionCatalog N}

theorem next_checked {current record : SessionCatalogRecord N} {patch : SessionCatalogPatch N} {now : JsString}
    (h : next host current patch now = .ok record) : validateCatalogRecord host record = .ok () := by
  simp only [next, then_ok] at h
  obtain ⟨hchecked, hrecord⟩ := h
  cases hrecord
  exact hchecked

theorem createRecord_checked {input : SessionCatalogCreateInput N} {now : JsString} {record : SessionCatalogRecord N}
    (h : s.createRecord options host input now = .ok record) : validateCatalogRecord host record = .ok () := by
  simp only [createRecord, then_ok] at h
  obtain ⟨-, -, -, -, -, -, -, hchecked, hrecord⟩ := h
  cases hrecord
  exact hchecked

section
variable (h : Checked host s.records)
include h

theorem writeNext_checked {current record : SessionCatalogRecord N}
    (hrecord : validateCatalogRecord host record = .ok ()) (outcome : FileOutcome) :
    Checked host (s.writeNext options host current record outcome).1.records := by
  obtain ⟨hr, -⟩ := write_memory options host s record outcome
  unfold writeNext
  split
  · rename_i t error heq
    rw [heq] at hr
    exact hr.symm ▸ h
  · rename_i t u heq
    rw [heq] at hr
    have ht : Checked host t.records := hr.symm ▸ h
    exact ht.set hrecord _

theorem create_checked (input : SessionCatalogCreateInput N) (now : JsString)
    (outcome : FileOutcome) : Checked host (s.create options host input now outcome).1.records := by
  unfold create
  split
  · exact h
  rename_i record hok
  obtain ⟨hr, -⟩ := write_memory options host s record outcome
  split
  · rename_i t error heq
    rw [heq] at hr
    exact hr.symm ▸ h
  · rename_i t u heq
    rw [heq] at hr
    have ht : Checked host t.records := hr.symm ▸ h
    exact ht.set (createRecord_checked hok) _

theorem replace_checked (sessionRef : JsString) (input : SessionCatalogReplaceInput N)
    (now : JsString) (outcome : FileOutcome) :
    Checked host (s.replace options host sessionRef input now outcome).1.records := by
  unfold replace
  split
  · exact h
  rename_i current record hok
  simp only [replaceRecord, bind_ok, Except.ok.injEq, Prod.mk.injEq] at hok
  obtain ⟨_, -, -, -, -, -, -, -, -, -, -, -, _, hnext, rfl, rfl⟩ := hok
  exact writeNext_checked h (next_checked hnext) outcome

theorem transition_checked (sessionId : JsString) (generation : Nat)
    (patch : SessionCatalogPatch N) (now : JsString) (outcome : FileOutcome) :
    Checked host (s.transition options host sessionId generation patch now outcome).1.records := by
  unfold transition
  split
  · exact h
  rename_i current record hok
  simp only [transitionRecord, bind_ok, Except.ok.injEq, Prod.mk.injEq] at hok
  obtain ⟨_, -, -, -, _, hnext, rfl, rfl⟩ := hok
  exact writeNext_checked h (next_checked hnext) outcome

theorem delete_checked (sessionRef : JsString) (outcome : FileOutcome) :
    Checked host (s.delete sessionRef outcome).1.records := by
  unfold delete
  split
  · exact h
  have hsame (current : SessionCatalogRecord N) : (if outcome.lands then
      { s with directory := s.directory.delete (recordFileName current.sessionId) } else s).records = s.records := by
    split <;> rfl
  dsimp only
  split
  · exact Checked.delete ((hsame _).symm ▸ h) _
  · exact (hsame _).symm ▸ h

variable (options) in
theorem loadFiles_checked (files : List JsString) (recoveryBytes : Nat) :
    Checked host (s.loadFiles options host recoveryBytes files).1.records := by
  induction files generalizing s recoveryBytes with
  | nil => exact h
  | cons name rest ih =>
    unfold loadFiles
    split
    · exact ih h _
    split
    · exact h
    split
    · exact h
    split
    · exact h
    split
    · exact h
    rename_i hchecked
    split
    · exact h
    split
    · exact h
    split
    · exact h
    rename_i t hok
    simp only [register, bind_ok, Except.ok.injEq] at hok
    obtain ⟨-, -, -, -, rfl⟩ := hok
    exact ih (h.set hchecked _) _

end

theorem restartRecords_checked (now : JsString → JsString) (outcome : JsString → FileOutcome)
    (records : List (SessionCatalogRecord N)) (h : Checked host s.records) :
    Checked host (s.restartRecords options host now outcome records).1.records := by
  induction records generalizing s with
  | nil => exact h
  | cons record rest ih =>
    unfold restartRecords
    split
    · exact ih h
    split
    · exact h
    rename_i next hnext
    obtain ⟨hr, -⟩ := write_memory options host s next (outcome record.sessionId)
    split
    · rename_i t error heq
      rw [heq] at hr
      exact hr.symm ▸ h
    · rename_i t u heq
      rw [heq] at hr
      have ht : Checked host t.records := hr.symm ▸ h
      exact ih (ht.set (next_checked hnext) _)

theorem load_checked (h : Checked host s.records) (now : JsString → JsString) (outcome : JsString → FileOutcome) :
    Checked host (s.load options host now outcome).1.records := by
  have hloaded : Checked host (s.loadRecords options host now outcome).1.records := by
    unfold loadRecords
    split
    · exact h
    have hfiles := loadFiles_checked options h s.catalogFiles 0
    split
    · rename_i t error heq
      rw [heq] at hfiles
      exact hfiles
    · rename_i t u heq
      rw [heq] at hfiles
      split
      · exact hfiles
      · exact restartRecords_checked now outcome _ hfiles
  unfold load
  split
  · rename_i t error heq
    rw [heq] at hloaded
    exact hloaded
  · rename_i t u heq
    rw [heq] at hloaded
    exact hloaded

end FileSessionCatalog

theorem catalogStep_checked {s t : FileSessionCatalog N} {event : CatalogEvent N} (h : Checked host s.records)
    (hstep : catalogStep options host s event = some t) : Checked host t.records :=
  catalogStep_keeps (motive := fun s => Checked host s.records) h (FileSessionCatalog.load_checked h)
    (FileSessionCatalog.create_checked h) (FileSessionCatalog.replace_checked h)
    (FileSessionCatalog.delete_checked h)
    (fun sessionId generation patch _ => FileSessionCatalog.transition_checked h sessionId generation patch)
    hstep

theorem run_checked {directory : OrderedMap JsString (RecordFile N)} {events : List (CatalogEvent N)}
    {s : FileSessionCatalog N}
    (hrun : run (catalogStep options host) (FileSessionCatalog.new directory) events = some s) :
    Checked host s.records := by
  have keep (s : FileSessionCatalog N) (event : CatalogEvent N) (t : FileSessionCatalog N)
      (h : Checked host s.records) (hstep : catalogStep options host s event = some t) : Checked host t.records :=
    catalogStep_checked h hstep
  exact run_invariant keep Checked.empty hrun

end PiDaemon.Catalog
