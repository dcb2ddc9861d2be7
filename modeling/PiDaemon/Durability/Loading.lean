import PiDaemon.Durability.Calls

/-!
# What a scan of the journals holds

A store that reads its files holds, for each session, the records of that session in the order of
their file, the last one for each key.

* `replay_values`: records with different keys are held as they stand;
* `entriesOf_scan`: the entries of a session after a scan;
* `Sound.scan`: every entry stands under its session and its key, and the index has it under its
  ticket.
-/

namespace PiDaemon.Durability

open Lib OrderedMap List Option

/-! ## Records and entries -/

/-- The records of a session. -/
def recordsOf (sessionId : JsString) (lines : List (Option JournalEntry)) : List JournalEntry :=
  lines.filterMap fun line => line.filter fun entry => entry.sessionId = sessionId

/-- Entries after records have been set one after another. -/
def replay (entries : SessionEntries) (records : List JournalEntry) : SessionEntries :=
  records.foldl (fun m entry => m.set entry.idempotencyKey entry) entries

theorem replay_append (entries : SessionEntries) (records rest : List JournalEntry) :
    replay entries (records ++ rest) = replay (replay entries records) rest :=
  foldl_append

variable {sessionId : JsString} {entries : SessionEntries}

theorem mem_recordsOf {lines : List (Option JournalEntry)} {entry : JournalEntry} :
    entry ∈ recordsOf sessionId lines ↔ some entry ∈ lines ∧ entry.sessionId = sessionId := by
  rw [recordsOf, mem_filterMap]
  constructor
  · rintro ⟨_, hline, hfilter⟩
    obtain ⟨rfl, hid⟩ := filter_eq_some_iff.mp hfilter
    exact ⟨hline, of_decide_eq_true hid⟩
  · rintro ⟨hline, hid⟩
    exact ⟨some entry, hline, filter_eq_some_iff.mpr ⟨rfl, decide_eq_true hid⟩⟩

theorem recordsOf_map_some {entries : List JournalEntry} (h : ∀ entry ∈ entries, entry.sessionId = sessionId) :
    recordsOf sessionId (entries.map some) = entries := by
  induction entries with
  | nil => rfl
  | cons entry rest ih =>
    have hentry : (some entry).filter (fun e : JournalEntry => e.sessionId = sessionId) = some entry :=
      filter_eq_some_iff.mpr ⟨rfl, decide_eq_true (h entry (mem_cons_self ..))⟩
    rw [recordsOf, map_cons, filterMap_cons_some hentry]
    exact congrArg _ (ih fun e he => h e (mem_cons_of_mem _ he))

/-- Records with keys that are new and different are held as they stand. -/
theorem replay_values {records : List JournalEntry} (hnodup : (records.map JournalEntry.idempotencyKey).Nodup)
    (hnew : ∀ entry ∈ records, entries.get? entry.idempotencyKey = none) :
    (replay entries records).values = entries.values ++ records := by
  induction records generalizing entries with
  | nil => exact (append_nil _).symm
  | cons entry rest ih =>
    obtain ⟨hnot, hrest⟩ := nodup_cons.mp hnodup
    have hset := values_set_of_not_has (hnew entry (mem_cons_self ..)) entry
    have hnew' : ∀ e ∈ rest, (entries.set entry.idempotencyKey entry).get? e.idempotencyKey = none := by
      intro e he
      rw [get?_set_ne]
      · exact hnew e (mem_cons_of_mem _ he)
      · intro heq
        exact hnot (heq ▸ List.mem_map_of_mem he)
    exact (ih hrest hnew').trans (by rw [hset, append_assoc, singleton_append])

theorem entryMap_values {entries : List JournalEntry} (h : (entries.map JournalEntry.idempotencyKey).Nodup) :
    (FileDurabilityStore.entryMap entries).values = entries :=
  replay_values h fun _ _ => rfl

/-- Every entry stands under its key and is of the session. -/
def Placed (sessionId : JsString) (entries : SessionEntries) : Prop :=
  ∀ k entry, entries.get? k = some entry → entry.sessionId = sessionId ∧ entry.idempotencyKey = k

theorem Placed.empty (sessionId : JsString) : Placed sessionId .empty := fun _ _ h => by cases h

section
variable (h : Placed sessionId entries)
include h

theorem Placed.set {entry : JournalEntry} (hid : entry.sessionId = sessionId) :
    Placed sessionId (entries.set entry.idempotencyKey entry) := by
  intro k other hget
  rw [get?_set] at hget
  split at hget
  · rename_i hkey
    cases hget
    exact ⟨hid, hkey⟩
  · exact h k other hget

theorem Placed.replay {records : List JournalEntry}
    (hid : ∀ entry ∈ records, entry.sessionId = sessionId) : Placed sessionId (replay entries records) := by
  induction records generalizing entries with
  | nil => exact h
  | cons entry rest ih =>
    exact ih (h.set (hid entry (mem_cons_self ..))) fun e he => hid e (mem_cons_of_mem _ he)

theorem Placed.keys :
    entries.values.map JournalEntry.idempotencyKey = entries.keys := by
  rw [OrderedMap.values, List.map_map]
  refine map_congr_left fun e he => ?_
  exact (h e.1 e.2 (mem_entries.mp he)).2

theorem Placed.nodup : (entries.values.map JournalEntry.idempotencyKey).Nodup := by
  rw [h.keys]
  exact entries.nodup

theorem Placed.get?_of_mem {entry : JournalEntry} (hmem : entry ∈ entries.values) :
    entries.get? entry.idempotencyKey = some entry ∧ entry.sessionId = sessionId := by
  obtain ⟨k, hget⟩ := FileDurabilityStore.get?_of_mem_values hmem
  obtain ⟨hid, rfl⟩ := h k entry hget
  exact ⟨hget, hid⟩

end

namespace FileDurabilityStore

variable (store : FileDurabilityStore)

/-! ## Reading a file -/

/-- Every entry stands in its place, in a session that is loaded, and the index has it under its
ticket. -/
structure Sound (j : Journal) : Prop where
  placed : ∀ sessionId, Placed sessionId (entriesOf j sessionId)
  indexed : ∀ sessionId k entry, (entriesOf j sessionId).get? k = some entry →
    j.ticketIndex.get? (wakeTicketId store.sha256 sessionId k) = some (sessionId, k)
  loaded : ∀ sessionId, j.entries.has sessionId = true → sessionId ∈ j.loadedSessions

variable {store}

theorem Sound.fresh (directory : OrderedMap JsString JournalFile) (readings : Nat) :
    store.Sound { directory, readings } where
  placed sessionId := .empty sessionId
  indexed := fun _ _ _ h => by cases h
  loaded := fun _ h => by cases h

variable {name : JsString} {names : List JsString} {entry : JournalEntry}

theorem indexTicket_eq_ok {j j' : Journal} (h : store.indexTicket entry j = .ok () j') :
    (∀ p, j.ticketIndex.get? (store.ticketOf entry) = some p → p = (entry.sessionId, entry.idempotencyKey)) ∧
      j' = { j with
        ticketIndex := j.ticketIndex.set (store.ticketOf entry) (entry.sessionId, entry.idempotencyKey) } := by
  rw [indexTicket] at h
  split at h
  · cases congrArg Called.outcome h
  rename_i hany
  refine ⟨fun p hget => ?_, (congrArg Called.journal h).symm⟩
  by_contra hne
  exact hany ((Option.any_eq_true _ _).mpr ⟨p, hget, decide_eq_true hne⟩)

theorem entriesOf_held (sessionId other : JsString) (entry : JournalEntry) (j : Journal) :
    entriesOf (held sessionId entry j) other =
      if sessionId = other then (entriesOf j sessionId).set entry.idempotencyKey entry else entriesOf j other :=
  entriesOf_set j sessionId other _

theorem has_held {sessionId other : JsString} {j : Journal} (h : (held sessionId entry j).entries.has other = true) :
    other = sessionId ∨ j.entries.has other = true := by
  obtain ⟨v, hget⟩ := has_iff.mp h
  change (j.entries.set sessionId _).get? other = some v at hget
  rw [get?_set] at hget
  split at hget
  · rename_i heq
    exact .inl heq.symm
  · exact .inr (has_iff.mpr ⟨v, hget⟩)

theorem has_of_mem {sessionId : JsString} {j : Journal} (h : entry ∈ (entriesOf j sessionId).values) :
    ∃ entries, j.entries.get? sessionId = some entries := by
  rw [entriesOf] at h
  cases hget : j.entries.get? sessionId with
  | none =>
    rw [hget] at h
    cases h
  | some entries => exact ⟨entries, rfl⟩

theorem Sound.hold {j j' : Journal} (h : store.Sound j)
    (hindex : store.indexTicket entry (held entry.sessionId entry j) = .ok () j') :
    store.Sound { j' with loadedSessions := entry.sessionId :: j'.loadedSessions } := by
  obtain ⟨hsame, rfl⟩ := indexTicket_eq_ok hindex
  refine ⟨fun sessionId => ?_, fun sessionId k other hget => ?_, fun sessionId hhas => ?_⟩
  · show Placed sessionId (entriesOf (held entry.sessionId entry j) sessionId)
    rw [entriesOf_held]
    split
    · rename_i hid
      exact hid ▸ (h.placed entry.sessionId).set rfl
    · exact h.placed sessionId
  · change (entriesOf (held entry.sessionId entry j) sessionId).get? k = some other at hget
    show (j.ticketIndex.set (store.ticketOf entry) _).get? _ = _
    have hold (hother : (entriesOf j sessionId).get? k = some other) :
        (j.ticketIndex.set (store.ticketOf entry) (entry.sessionId, entry.idempotencyKey)).get?
          (wakeTicketId store.sha256 sessionId k) = some (sessionId, k) := by
      have hget := h.indexed sessionId k other hother
      rw [get?_set]
      split
      · rename_i hticket
        exact congrArg some (hsame _ (hticket ▸ hget)).symm
      · exact hget
    rw [entriesOf_held] at hget
    split at hget
    · rename_i hid
      subst hid
      rw [get?_set] at hget
      split at hget
      · rename_i hkey
        subst hkey
        exact get?_set_self ..
      · exact hold hget
    · exact hold hget
  · change (held entry.sessionId entry j).entries.has sessionId = true at hhas
    rcases has_held hhas with rfl | hold
    · exact mem_cons_self ..
    · exact mem_cons_of_mem _ (h.loaded sessionId hold)

/-- What is read from lines. -/
structure Reads (name : JsString) (lines : List (Option JournalEntry)) (j j' : Journal) : Prop where
  entries : ∀ sessionId, entriesOf j' sessionId = replay (entriesOf j sessionId) (recordsOf sessionId lines)
  named : ∀ entry, some entry ∈ lines → journalFileName entry.sessionId = some name
  readings : j'.readings = j.readings
  scanned : j'.journalsScanned = j.journalsScanned

theorem replay_cons (sessionId : JsString) (entries : SessionEntries) (value : JournalEntry)
    (rest : List (Option JournalEntry)) :
    replay entries (recordsOf sessionId (some value :: rest)) =
      replay (if value.sessionId = sessionId then entries.set value.idempotencyKey value else entries)
        (recordsOf sessionId rest) := by
  by_cases h : value.sessionId = sessionId
  · have hentry : (some value).filter (fun e : JournalEntry => e.sessionId = sessionId) = some value :=
      filter_eq_some_iff.mpr ⟨rfl, decide_eq_true h⟩
    rw [recordsOf, filterMap_cons_some hentry, if_pos h]
    rfl
  · have hentry : (some value).filter (fun e : JournalEntry => e.sessionId = sessionId) = none := by
      rw [filter_some, if_neg (by simpa using h)]
    rw [recordsOf, filterMap_cons_none hentry, if_neg h]
    rfl

theorem loadLines_eq_ok {expected : Option JsString} {lines : List (Option JournalEntry)} {j j' : Journal}
    (h : store.loadLines name expected lines j = .ok () j') :
    Reads name lines j j' ∧ (store.Sound j → store.Sound j') := by
  induction lines generalizing j with
  | nil =>
    cases congrArg Called.journal h
    exact ⟨⟨fun _ => rfl, (fun _ hmem => by cases hmem), rfl, rfl⟩, id⟩
  | cons line rest ih =>
    cases line with
    | none => cases congrArg Called.outcome h
    | some value =>
      rw [loadLines] at h
      split at h
      · cases congrArg Called.outcome h
      rename_i hname
      obtain ⟨_, _, hindex, hrest⟩ := Called.bind_eq_ok.mp h
      obtain ⟨hreads, hsound⟩ := ih hrest
      have hk := (indexTicket_eq_ok hindex).2
      refine ⟨⟨fun sessionId => ?_, fun entry hentry => ?_, ?_, ?_⟩, fun hj => hsound (hj.hold hindex)⟩
      · rw [hreads.entries sessionId, replay_cons, hk]
        congr 1
        have hheld := entriesOf_held value.sessionId sessionId value j
        by_cases hid : value.sessionId = sessionId
        · subst hid
          exact hheld
        · rw [if_neg hid] at hheld ⊢
          exact hheld
      · rcases mem_cons.mp hentry with heq | hmem
        · cases heq
          by_contra hne
          exact hname (.inl hne)
        · exact hreads.named entry hmem
      · rw [hreads.readings, hk]
      · rw [hreads.scanned, hk]

theorem Reads.same {lines : List (Option JournalEntry)} {j k j' : Journal} (h : Reads name lines k j')
    (hentries : k.entries = j.entries) (hreadings : k.readings = j.readings)
    (hscanned : k.journalsScanned = j.journalsScanned) : Reads name lines j j' where
  entries := by
    have hsame (sessionId : JsString) : entriesOf k sessionId = entriesOf j sessionId := by
      rw [entriesOf, hentries]
      rfl
    intro sessionId
    rw [← hsame]
    exact h.entries sessionId
  named := h.named
  readings := h.readings.trans hreadings
  scanned := h.scanned.trans hscanned

theorem Sound.same {j j' : Journal} (h : store.Sound j) (hentries : j'.entries = j.entries)
    (hindex : j'.ticketIndex = j.ticketIndex) (hloaded : j'.loadedSessions = j.loadedSessions) : store.Sound j' := by
  have hsame (sessionId : JsString) : entriesOf j' sessionId = entriesOf j sessionId := by
    rw [entriesOf, hentries]
    rfl
  constructor
  · intro sessionId
    rw [hsame]
    exact h.placed sessionId
  · intro sessionId k entry
    rw [hsame, hindex]
    exact h.indexed sessionId k entry
  · rw [hentries, hloaded]
    exact h.loaded

theorem loadJournalFile_eq_ok {expected : Option JsString} {scan : Bool} {j j' : Journal}
    (h : store.loadJournalFile name expected scan j = .ok () j') :
    Reads name (fileLines j name) j j' ∧ (store.Sound j → store.Sound j') := by
  rw [loadJournalFile] at h
  split at h
  · rename_i hnone
    cases congrArg Called.journal h
    rw [fileLines, hnone]
    exact ⟨⟨fun _ => rfl, (fun _ hmem => by cases hmem), rfl, rfl⟩, id⟩
  · rename_i file hfile
    split at h
    · cases congrArg Called.outcome h
    rw [fileLines, hfile]
    obtain ⟨_, _, hclaim, hlines⟩ := Called.bind_eq_ok.mp h
    obtain ⟨hreads, hsound⟩ := loadLines_eq_ok hlines
    split at hclaim
    · rw [claimRecoveryBytes] at hclaim
      split at hclaim
      · cases congrArg Called.outcome hclaim
      · cases congrArg Called.journal hclaim
        exact ⟨hreads.same rfl rfl rfl, fun hj => hsound (hj.same rfl rfl rfl)⟩
    · cases congrArg Called.journal hclaim
      exact ⟨hreads, hsound⟩

/-! ## Scanning the directory -/

/-- The records of a session in files, one after another. -/
def recordsIn (j : Journal) (sessionId : JsString) (names : List JsString) : List JournalEntry :=
  names.flatMap fun name => recordsOf sessionId (fileLines j name)

theorem loadFiles_eq_ok {j j' : Journal} (h : store.loadFiles names j = .ok () j') :
    (∀ sessionId, entriesOf j' sessionId = replay (entriesOf j sessionId) (recordsIn j sessionId names)) ∧
      (∀ name ∈ names, ∀ entry, some entry ∈ fileLines j name → journalFileName entry.sessionId = some name) ∧
      j'.directory = j.directory ∧ j'.readings = j.readings ∧ j'.journalsScanned = j.journalsScanned ∧
      (store.Sound j → store.Sound j') := by
  induction names generalizing j with
  | nil =>
    cases congrArg Called.journal h
    exact ⟨fun _ => rfl, (fun _ hmem => by cases hmem), rfl, rfl, rfl, id⟩
  | cons name rest ih =>
    obtain ⟨_, k, hfile, hrest⟩ := Called.bind_eq_ok.mp h
    have hdirectory := store.directory_loadJournalFile name none true j
    rw [hfile] at hdirectory
    have hlines (other : JsString) : fileLines k other = fileLines j other := by
      exact congrArg (fun d : OrderedMap JsString JournalFile => ((d.get? other).map JournalFile.lines).getD []) hdirectory
    obtain ⟨hreads, hsound⟩ := loadJournalFile_eq_ok hfile
    obtain ⟨hentries, hnamed, hdir, hreadings, hscanned, hsound'⟩ := ih hrest
    refine ⟨fun sessionId => ?_, fun other hother entry hentry => ?_, hdir.trans hdirectory,
      hreadings.trans hreads.readings, hscanned.trans hreads.scanned, fun hj => hsound' (hsound hj)⟩
    · have hrecords : recordsIn k sessionId rest = recordsIn j sessionId rest := by
        rw [recordsIn, recordsIn]
        simp only [hlines]
      rw [hentries, hreads.entries, hrecords, ← replay_append]
      rfl
    · rcases mem_cons.mp hother with rfl | hmem
      · exact hreads.named entry hentry
      · exact hnamed other hmem entry (by rwa [hlines])

theorem mem_sortNames : name ∈ sortNames names ↔ name ∈ names :=
  mem_stableSort

theorem nodup_sortNames (h : names.Nodup) : (sortNames names).Nodup :=
  perm_stableSort.nodup_iff.mpr h

theorem recordsIn_of_nodup {j : Journal} {sessionId : JsString} (hnodup : names.Nodup)
    (hnamed : ∀ name ∈ names, ∀ entry, some entry ∈ fileLines j name → journalFileName entry.sessionId = some name) :
    recordsIn j sessionId names =
      if journalPath sessionId ∈ names then recordsOf sessionId (fileLines j (journalPath sessionId)) else [] := by
  induction names with
  | nil => rfl
  | cons name rest ih =>
    obtain ⟨hnot, hrest⟩ := nodup_cons.mp hnodup
    have ih := ih hrest fun other hother => hnamed other (mem_cons_of_mem _ hother)
    rw [recordsIn, flatMap_cons]
    rw [recordsIn] at ih
    rw [ih]
    by_cases hname : journalPath sessionId = name
    · subst hname
      rw [if_neg hnot, if_pos (mem_cons_self ..), append_nil]
    have hempty : recordsOf sessionId (fileLines j name) = [] := by
      refine eq_nil_iff_forall_not_mem.mpr fun entry hentry => hname ?_
      obtain ⟨hmem, rfl⟩ := mem_recordsOf.mp hentry
      rw [journalPath, hnamed name (mem_cons_self ..) entry hmem]
      rfl
    rw [hempty, nil_append]
    simp only [mem_cons, hname, false_or]

/-- **What a scan holds**: for each session the records of its file, and the index for them. -/
theorem scanJournalFiles_eq_ok {j j' : Journal} (h : store.scanJournalFiles j = .ok () j')
    (hfirst : j.journalsScanned = false) :
    (∀ sessionId, entriesOf j' sessionId =
      replay (entriesOf j sessionId) (recordsOf sessionId (fileLines j (journalPath sessionId)))) ∧
      j'.directory = j.directory ∧ j'.readings = j.readings ∧ j'.journalsScanned = true ∧
      (store.Sound j → store.Sound j') := by
  rw [scanJournalFiles, if_neg (by rw [hfirst]; decide)] at h
  split at h
  · cases congrArg Called.outcome h
  obtain ⟨_, _, hfiles, hk⟩ := Called.bind_eq_ok.mp h
  cases congrArg Called.journal hk
  obtain ⟨hentries, hnamed, hdirectory, hreadings, -, hsound⟩ := loadFiles_eq_ok hfiles
  refine ⟨fun sessionId => ?_, hdirectory, hreadings, rfl, fun hj => (hsound hj).same rfl rfl rfl⟩
  refine (hentries sessionId).trans ?_
  have hnodup : j.directory.keys.Nodup := j.directory.nodup
  rw [recordsIn_of_nodup (nodup_sortNames hnodup) hnamed]
  split
  · rfl
  rename_i hnot
  have hnone : j.directory.get? (journalPath sessionId) = none :=
    lookupIn_eq_none.mpr fun hmem => hnot (mem_sortNames.mpr hmem)
  rw [fileLines, hnone]
  rfl

theorem loadSessionJournal_of_loaded {sessionId : JsString} {j : Journal} (h : sessionId ∈ j.loadedSessions) :
    store.loadSessionJournal sessionId j = .ok () j := by
  rw [loadSessionJournal, if_pos h]

end FileDurabilityStore

end PiDaemon.Durability
