import PiDaemon.Durability.Calls

/-!
# Tickets of a journal

The index of a store maps a ticket to the pair of an id and a key.  It is told apart by
`wakeTicketId`, which joins the pair by a line feed that either of its strings may hold.

* `Known.perform`: every pair that a store holds was asked for, or recorded before it started;
* `beginRequest_unique_tickets`: a request is never refused for its ticket as long as no two of
  these pairs have one scope;
* `beginRequest_collides`: when the index holds another pair of its scope, the request is appended
  to its file and refused.
-/

namespace PiDaemon.Durability

open Lib List OrderedMap

def DurableWakeCommand.pair (command : DurableWakeCommand) : Pair :=
  (command.sessionId, command.idempotencyKey)

/-- The pairs of the records of a directory. -/
def recordedPairs (directory : OrderedMap JsString JournalFile) : List Pair :=
  directory.values.flatMap fun file => file.lines.filterMap fun line => line.map JournalEntry.pair

/-- The pairs that are begun. -/
def begunPairs (calls : List FileDurabilityStore.StoreCall) : List Pair :=
  calls.filterMap fun call =>
    match call with
    | .beginRequest command => some command.pair
    | _ => none

theorem begunPairs_append (calls rest : List FileDurabilityStore.StoreCall) :
    begunPairs (calls ++ rest) = begunPairs calls ++ begunPairs rest :=
  filterMap_append

namespace FileDurabilityStore

variable (store : FileDurabilityStore)

def ticketOfPair (p : Pair) : JsString := wakeTicketId store.sha256 p.1 p.2

/-- Every pair in the files, in the entries and in the index is one of `pairs`, and the index has it
under its own ticket. -/
structure Known (pairs : List Pair) (j : Journal) : Prop where
  recorded : ∀ name file, j.directory.get? name = some file → ∀ entry, some entry ∈ file.lines →
    entry.pair ∈ pairs
  held : ∀ sessionId, ∀ entry ∈ (entriesOf j sessionId).values, entry.pair ∈ pairs
  indexed : ∀ ticketId p, j.ticketIndex.get? ticketId = some p →
    p ∈ pairs ∧ store.ticketOfPair p = ticketId

instance (sha256 : List UInt8 → Bytes 32) (s k s' k' : JsString) : Decidable (NoCollision sha256 s k s' k') :=
  inferInstanceAs (Decidable (_ → _))

/-- No two of the pairs have one scope. -/
def DistinctScopes (pairs : List Pair) : Prop :=
  ∀ p ∈ pairs, ∀ q ∈ pairs, SameScope p.1 p.2 q.1 q.2 → p = q

/-- SHA-256 does not collide on the scopes of the pairs. -/
def NoCollisions (pairs : List Pair) : Prop :=
  ∀ p ∈ pairs, ∀ q ∈ pairs, NoCollision store.sha256 p.1 p.2 q.1 q.2

instance (pairs : List Pair) : Decidable (DistinctScopes pairs) :=
  inferInstanceAs (Decidable (∀ p ∈ pairs, ∀ q ∈ pairs, SameScope p.1 p.2 q.1 q.2 → p = q))

instance (pairs : List Pair) : Decidable (store.NoCollisions pairs) :=
  inferInstanceAs (Decidable (∀ p ∈ pairs, ∀ q ∈ pairs, NoCollision store.sha256 p.1 p.2 q.1 q.2))

theorem ticketOfPair_eq_iff {pairs : List Pair} (h : store.NoCollisions pairs) {p q : Pair} (hp : p ∈ pairs)
    (hq : q ∈ pairs) : store.ticketOfPair p = store.ticketOfPair q ↔ SameScope p.1 p.2 q.1 q.2 :=
  wakeTicketId_eq_iff (h p hp q hq)

section
variable {store : FileDurabilityStore} {pairs : List Pair}

/-- The errors of a store whose pairs have different scopes. -/
def Collides (store : FileDurabilityStore) (pairs : List Pair) (code : DurabilityCode) : Prop :=
  code = .ticketIdCollision → ¬ (store.NoCollisions pairs ∧ DistinctScopes pairs)

theorem Collides.of_ne {code : DurabilityCode} (h : code ≠ .ticketIdCollision) : Collides store pairs code :=
  fun hcode => absurd hcode h

abbrev Keeps {A : Type} (store : FileDurabilityStore) (pairs : List Pair) (x : Called A) : Prop :=
  x.Within (store.Known pairs) (Collides store pairs)

namespace Known

variable {j : Journal}

theorem same {j' : Journal} (h : store.Known pairs j) (hdirectory : j'.directory = j.directory)
    (hentries : j'.entries = j.entries) (hindex : j'.ticketIndex = j.ticketIndex) : store.Known pairs j' where
  recorded := by
    rw [hdirectory]
    exact h.recorded
  held := by
    simp only [entriesOf, hentries]
    exact h.held
  indexed := by
    rw [hindex]
    exact h.indexed

theorem setEntries (h : store.Known pairs j) (sessionId : JsString) {entries : SessionEntries}
    (hknown : ∀ entry ∈ entries.values, entry.pair ∈ pairs) :
    store.Known pairs { j with entries := j.entries.set sessionId entries } where
  recorded := h.recorded
  held := by
    intro other
    rw [entriesOf, entriesOf_set]
    split
    · exact hknown
    · exact h.held other
  indexed := h.indexed

variable {entry : JournalEntry}

theorem set (h : store.Known pairs j) (sessionId : JsString) (hentry : entry.pair ∈ pairs) (idempotencyKey : JsString) :
    store.Known pairs
      { j with entries := j.entries.set sessionId ((entriesOf j sessionId).set idempotencyKey entry) } := by
  refine h.setEntries sessionId fun other hother => ?_
  obtain rfl | hmem := mem_values_set hother
  · exact hentry
  · exact h.held sessionId other hmem

theorem setFile (h : store.Known pairs j) (name : JsString) {file : JournalFile}
    (hfile : ∀ entry, some entry ∈ file.lines → entry.pair ∈ pairs) :
    store.Known pairs { j with directory := j.directory.set name file } where
  recorded := by
    intro other file' hget
    rw [get?_set] at hget
    split at hget
    · cases hget
      exact hfile
    · exact h.recorded other file' hget
  held := h.held
  indexed := h.indexed

theorem indexTicket (h : store.Known pairs j) (hentry : entry.pair ∈ pairs) :
    Keeps store pairs (store.indexTicket entry j) := by
  rw [FileDurabilityStore.indexTicket]
  split
  · rename_i hany
    obtain ⟨other, hget, hne⟩ := (Option.any_eq_true _ _).mp hany
    refine .throw h ?_
    rintro - ⟨hsha, hdistinct⟩
    have hother := h.indexed _ other hget
    have hsame := (store.ticketOfPair_eq_iff hsha hother.1 hentry).mp hother.2
    exact of_decide_eq_true hne (hdistinct other hother.1 _ hentry hsame)
  · refine .ok { h with indexed := ?_ }
    intro ticketId p hget
    rw [get?_set] at hget
    split at hget
    · rename_i hticket
      cases hget
      exact ⟨hentry, hticket⟩
    · exact h.indexed ticketId p hget

theorem loadLines (name : JsString) (expected : Option JsString) {lines : List (Option JournalEntry)}
    (hlines : ∀ entry, some entry ∈ lines → entry.pair ∈ pairs) {j : Journal} (h : store.Known pairs j) :
    Keeps store pairs (store.loadLines name expected lines j) := by
  induction lines generalizing j with
  | nil => exact .ok h
  | cons line rest ih =>
    cases line with
    | none => exact .throw h (.of_ne (by decide))
    | some value =>
      rw [FileDurabilityStore.loadLines]
      split
      · exact .throw h (.of_ne (by decide))
      have hvalue : value.pair ∈ pairs := hlines value (mem_cons_self ..)
      refine Called.Within.bind ((h.set value.sessionId hvalue value.idempotencyKey).indexTicket hvalue) ?_
      intro _ j' _ hj'
      exact ih (fun entry hentry => hlines entry (mem_cons_of_mem _ hentry)) (hj'.same rfl rfl rfl)

theorem claimRecoveryBytes (h : store.Known pairs j) (bytes : Nat) :
    Keeps store pairs (store.claimRecoveryBytes bytes j) := by
  rw [FileDurabilityStore.claimRecoveryBytes]
  split
  · exact .throw (h.same rfl rfl rfl) (.of_ne (by decide))
  · exact .ok (h.same rfl rfl rfl)

theorem loadJournalFile (h : store.Known pairs j) (name : JsString) (expected : Option JsString) (scan : Bool) :
    Keeps store pairs (store.loadJournalFile name expected scan j) := by
  rw [FileDurabilityStore.loadJournalFile]
  split
  · exact .ok h
  rename_i file hfile
  split
  · exact .throw h (.of_ne (by decide))
  refine Called.Within.bind ?_ fun _ j' _ hj' => hj'.loadLines name expected (h.recorded name file hfile)
  split
  · exact h.claimRecoveryBytes file.bytes
  · exact .ok h

variable (sessionId : JsString)

theorem loadSessionJournal (h : store.Known pairs j) : Keeps store pairs (store.loadSessionJournal sessionId j) := by
  rw [FileDurabilityStore.loadSessionJournal]
  split
  · exact .ok h
  refine Called.Within.bind (h.loadJournalFile _ _ _) fun _ j' _ hj' => .ok ?_
  split
  · exact hj'.same rfl rfl rfl
  have hempty : ∀ entry ∈ (OrderedMap.empty : SessionEntries).values, entry.pair ∈ pairs :=
    fun entry hentry => by cases hentry
  exact (hj'.setEntries sessionId hempty).same rfl rfl rfl

theorem loadFiles (names : List JsString) {j : Journal} (h : store.Known pairs j) :
    Keeps store pairs (store.loadFiles names j) := by
  induction names generalizing j with
  | nil => exact .ok h
  | cons name rest ih => exact Called.Within.bind (h.loadJournalFile _ _ _) fun _ _ _ hj' => ih hj'

theorem scanJournalFiles (h : store.Known pairs j) : Keeps store pairs (store.scanJournalFiles j) := by
  rw [FileDurabilityStore.scanJournalFiles]
  split
  · exact .ok h
  split
  · exact .throw h (.of_ne (by decide))
  · exact Called.Within.bind (h.loadFiles _) fun _ _ _ hj' => .ok (hj'.same rfl rfl rfl)

theorem append (h : store.Known pairs j) (hentry : entry.pair ∈ pairs) :
    Keeps store pairs (store.append entry j) := by
  rw [FileDurabilityStore.append]
  split
  · exact .throw h (.of_ne (by decide))
  split
  · exact .throw h (.of_ne (by decide))
  refine .ok (h.setFile _ fun other hother => ?_)
  obtain hold | hnew := mem_append.mp hother
  · rw [fileLines] at hold
    cases hget : j.directory.get? (journalPath entry.sessionId) with
    | none =>
      rw [hget] at hold
      cases hold
    | some file =>
      rw [hget] at hold
      exact h.recorded _ file hget other hold
  · cases mem_singleton.mp hnew
    exact hentry

theorem transition (h : store.Known pairs j) (sessionId idempotencyKey : JsString) (state : JournalState)
    (patch : Patch) (reconciliation : Bool) :
    Keeps store pairs (store.transition sessionId idempotencyKey state patch reconciliation j) := by
  rw [FileDurabilityStore.transition]
  split
  · exact .throw h (.of_ne (by decide))
  rename_i current hget
  have hcurrent : current.pair ∈ pairs := h.held sessionId current (mem_values_of_get? hget)
  split
  · have htick : store.Known pairs (tick j) := h.same rfl rfl rfl
    refine Called.Within.bind (htick.append hcurrent) fun _ j' _ hj' => .ok ?_
    refine hj'.set sessionId ?_ idempotencyKey
    exact hcurrent
  · split
    · exact .ok h
    · exact .throw h (.of_ne (by decide))

theorem deleteTickets (h : store.Known pairs j) (entries : List JournalEntry) (gone : JournalEntry → Bool) :
    store.Known pairs { j with
      ticketIndex := entries.foldl
        (fun index entry => if gone entry then index else index.delete (store.ticketOf entry)) j.ticketIndex } where
  recorded := h.recorded
  held := h.held
  indexed := by
    have hfold (entries : List JournalEntry) (index : OrderedMap JsString Pair)
        (hindex : ∀ ticketId p, index.get? ticketId = some p → p ∈ pairs ∧ store.ticketOfPair p = ticketId) :
        ∀ ticketId p, (entries.foldl (fun index entry =>
          if gone entry then index else index.delete (store.ticketOf entry)) index).get? ticketId = some p →
            p ∈ pairs ∧ store.ticketOfPair p = ticketId := by
      induction entries generalizing index with
      | nil => exact hindex
      | cons entry rest ih =>
        refine ih _ fun ticketId p hget => ?_
        dsimp only at hget
        split at hget
        · exact hindex ticketId p hget
        · exact hindex ticketId p (get?_of_delete hget).2
    exact hfold entries j.ticketIndex h.indexed

theorem mem_entryMap {entries : List JournalEntry} (h : entry ∈ (entryMap entries).values) : entry ∈ entries := by
  have hfold (entries : List JournalEntry) (m : SessionEntries) :
      entry ∈ (entries.foldl (fun m entry => m.set entry.idempotencyKey entry) m).values →
        entry ∈ entries ∨ entry ∈ m.values := by
    induction entries generalizing m with
    | nil => exact .inr
    | cons first rest ih =>
      intro hmem
      obtain hrest | hset := ih _ hmem
      · exact .inl (mem_cons_of_mem _ hrest)
      obtain rfl | hold := mem_values_set hset
      · exact .inl (mem_cons_self ..)
      · exact .inr hold
  obtain hin | hempty := hfold entries .empty h
  · exact hin
  · cases hempty

theorem mem_retained {now : Int} {entries : List JournalEntry} (h : entry ∈ store.retained now entries) :
    entry ∈ entries :=
  mem_of_mem_filter (mem_stableSort.mp h)

section
variable (h : store.Known pairs j)
include h

theorem prune : Keeps store pairs (store.prune sessionId j) := by
  rw [FileDurabilityStore.prune]
  split
  · exact .ok (h.same rfl rfl rfl)
  have hretained : ∀ entry ∈ store.retained (store.now j.readings) (entriesOf j sessionId).values,
      entry.pair ∈ pairs :=
    fun entry hentry => h.held sessionId entry (mem_retained hentry)
  have hlines : ∀ entry,
      some entry ∈ (store.retained (store.now j.readings) (entriesOf j sessionId).values).map some →
        entry.pair ∈ pairs := by
    intro entry hentry
    obtain ⟨other, hother, heq⟩ := mem_map.mp hentry
    exact Option.some.inj heq ▸ hretained other hother
  refine .ok ⟨fun name file hget => ?_, fun other entry hentry => ?_, ?_⟩
  · exact (h.setFile (journalPath sessionId) hlines).recorded name file hget
  · exact (h.setEntries sessionId fun entry hentry => hretained entry (mem_entryMap hentry)).held other entry
      hentry
  · exact (h.deleteTickets (entriesOf j sessionId).values _).indexed

theorem pruneSession : Keeps store pairs (store.pruneSession sessionId j) :=
  Called.Within.bind (h.loadSessionJournal sessionId) fun _ _ _ hj' => hj'.prune sessionId

theorem beginRequest {command : DurableWakeCommand} (hcommand : command.pair ∈ pairs) :
    Keeps store pairs (store.beginRequest command j) := by
  refine Called.Within.bind (h.loadSessionJournal _) fun _ j' _ hj' => ?_
  split
  · split
    · exact .throw hj' (.of_ne (by decide))
    · exact .ok hj'
  · have htick : store.Known pairs (tick j') := hj'.same rfl rfl rfl
    refine Called.Within.bind (htick.append hcommand) fun _ k _ hk => ?_
    refine Called.Within.bind (Known.indexTicket ?_ ?_) fun _ _ _ hl => .ok hl
    · refine hk.set command.sessionId ?_ command.idempotencyKey
      exact hcommand
    · exact hcommand

theorem finish (sessionId idempotencyKey : JsString) (state : JournalState)
    (patch : Patch) : Keeps store pairs (store.finish sessionId idempotencyKey state patch j) := by
  refine Called.Within.bind (Called.Within.bind (h.loadSessionJournal sessionId) fun _ _ _ hj' =>
    hj'.transition _ _ _ _ _) fun _ _ _ hk => ?_
  exact Called.Within.bind (hk.pruneSession sessionId) fun _ _ _ hl => .ok hl

theorem reconcileRequest (ticketId : JsString) (outcome : Reconciliation) :
    Keeps store pairs (store.reconcileRequest ticketId outcome j) := by
  refine Called.Within.bind h.scanJournalFiles fun _ j' _ hj' => ?_
  split
  · exact .throw hj' (.of_ne (by decide))
  refine Called.Within.bind (Called.Within.bind (hj'.loadSessionJournal _) fun _ _ _ hk => ?_)
    fun _ _ _ hk => Called.Within.bind (hk.pruneSession _) fun _ _ _ hl => .ok hl
  split
  · exact hk.transition _ _ _ _ _
  · exact .throw hk (.of_ne (by decide))

theorem getRequest (sessionId idempotencyKey : JsString) :
    Keeps store pairs (store.getRequest sessionId idempotencyKey j) :=
  Called.Within.bind (h.loadSessionJournal sessionId) fun _ _ _ hj' => .ok hj'

theorem getRequestByTicket (ticketId : JsString) :
    Keeps store pairs (store.getRequestByTicket ticketId j) := by
  refine Called.Within.bind h.scanJournalFiles fun _ j' _ hj' => ?_
  split
  · exact .ok hj'
  · exact hj'.getRequest _ _

theorem closeSession (retainArtifacts : Bool) :
    Keeps store pairs (store.closeSession sessionId retainArtifacts j) := by
  rw [FileDurabilityStore.closeSession]
  split
  · exact .ok h
  have htickets := h.deleteTickets (entriesOf j sessionId).values fun _ => false
  refine .ok ⟨?_, ?_, htickets.indexed⟩
  · intro name file hget
    exact h.recorded name file (get?_of_delete hget).2
  intro other entry hentry
  rw [entriesOf, get?_delete] at hentry
  split at hentry
  · cases hentry
  · exact h.held other entry hentry

end

theorem collectEntries (entries : List JournalEntry) (snapshot : RecoverySnapshot) {j : Journal}
    (h : store.Known pairs j) : Keeps store pairs (store.collectEntries sessionId entries snapshot j) := by
  induction entries generalizing snapshot j with
  | nil => exact .ok h
  | cons entry rest ih =>
    rw [FileDurabilityStore.collectEntries]
    split
    · exact Called.Within.bind (h.transition _ _ _ _ _) fun _ _ _ hj' => ih _ hj'
    · exact ih _ h
    · exact ih _ h
    · exact ih _ h

theorem collect (sessions : List JsString) (snapshot : RecoverySnapshot) {j : Journal} (h : store.Known pairs j) :
    Keeps store pairs (store.collect sessions snapshot j) := by
  induction sessions generalizing snapshot j with
  | nil => exact .ok h
  | cons sessionId rest ih =>
    exact Called.Within.bind (h.collectEntries _ _ _) fun _ _ _ hj' => ih _ hj'

theorem pruneAll (sessions : List JsString) {j : Journal} (h : store.Known pairs j) :
    Keeps store pairs (store.pruneAll sessions j) := by
  induction sessions generalizing j with
  | nil => exact .ok h
  | cons sessionId rest ih => exact Called.Within.bind (h.pruneSession _) fun _ _ _ hj' => ih hj'

theorem recover (h : store.Known pairs j) (manifestBytes : Nat) :
    Keeps store pairs (store.recover manifestBytes j) := by
  refine Called.Within.bind (h.claimRecoveryBytes _) fun _ _ _ h => ?_
  refine Called.Within.bind h.scanJournalFiles fun _ _ _ h => ?_
  refine Called.Within.bind (h.collect _ _) fun _ _ _ h => ?_
  exact Called.Within.bind (h.pruneAll _) fun _ _ _ h => .ok h

theorem restart (h : store.Known pairs j) : store.Known pairs (FileDurabilityStore.restart j) where
  recorded := h.recorded
  held := fun _ _ hentry => by cases hentry
  indexed := fun _ _ hget => by cases hget

theorem perform (h : store.Known pairs j) {call : StoreCall} (hcall : ∀ p ∈ begunPairs [call], p ∈ pairs) :
    store.Known pairs (store.perform j call) := by
  cases call with
  | beginRequest command => exact (h.beginRequest (hcall command.pair (mem_singleton_self _))).1
  | markAccepted sessionId key =>
    have haccepted : Keeps store pairs (store.markAccepted sessionId key j) :=
      Called.Within.bind (h.loadSessionJournal sessionId) fun _ _ _ hj' => hj'.transition _ _ _ _ _
    exact haccepted.1
  | markCompleted | markFailed => exact (h.finish _ _ _ _).1
  | getRequest => exact (h.getRequest _ _).1
  | getRequestByTicket => exact (h.getRequestByTicket _).1
  | reconcileRequest => exact (h.reconcileRequest _ _).1
  | pruneSession => exact (h.pruneSession _).1
  | closeSession => exact (h.closeSession _ _).1
  | recover => exact (h.recover _).1
  | restart => exact h.restart

theorem performAll {directory : OrderedMap JsString JournalFile} {calls : List StoreCall}
    (hrecorded : ∀ p ∈ recordedPairs directory, p ∈ pairs) (hcalls : ∀ p ∈ begunPairs calls, p ∈ pairs) :
    store.Known pairs (store.performAll directory calls) := by
  have hstart : store.Known pairs { directory } := by
    refine ⟨fun name file hget entry hentry => hrecorded _ ?_, (fun _ _ hentry => by cases hentry),
      (fun _ _ hget => by cases hget)⟩
    refine mem_flatMap.mpr ⟨file, mem_map.mpr ⟨(name, file), mem_entries.mpr hget, rfl⟩, ?_⟩
    exact mem_filterMap.mpr ⟨some entry, hentry, rfl⟩
  rw [FileDurabilityStore.performAll]
  generalize ({ directory } : Journal) = j at hstart ⊢
  induction calls generalizing j with
  | nil => exact hstart
  | cons call rest ih =>
    rw [← singleton_append, begunPairs_append] at hcalls
    have hfirst := hstart.perform fun p hp => hcalls p (mem_append_left _ hp)
    exact ih (fun p hp => hcalls p (mem_append_right _ hp)) _ hfirst

end Known

end

/-- The request is not refused for its ticket, and when it fails nothing has been appended. -/
def BeginsCleanly (command : DurableWakeCommand) (j : Journal) : Prop :=
  (store.beginRequest command j).outcome ≠ .error .ticketIdCollision ∧
    ∀ code, (store.beginRequest command j).outcome = .error code →
      (store.beginRequest command j).journal.directory = j.directory

theorem indexTicket_eq_throw {entry : JournalEntry} {j j' : Journal} {code : DurabilityCode}
    (h : store.indexTicket entry j = .throw code j') : code = .ticketIdCollision := by
  rw [indexTicket] at h
  split at h
  · cases congrArg Called.outcome h
    rfl
  · cases congrArg Called.outcome h

theorem addRequest_directory {command : DurableWakeCommand} {j : Journal} {code : DurabilityCode}
    (h : (store.addRequest command j).outcome = .error code) (hcode : code ≠ .ticketIdCollision) :
    (store.addRequest command j).journal.directory = j.directory := by
  rw [addRequest] at h ⊢
  obtain ⟨_, happend⟩ | ⟨_, _, _, happend⟩ := store.append_cases (store.queuedEntry command j) (tick j)
  · rw [happend, Called.bind_ok] at h
    obtain ⟨_, hindex⟩ | ⟨_, hindex⟩ := (store.indexTicket (store.queuedEntry command j)
      (held command.sessionId (store.queuedEntry command j)
        (store.appended (store.queuedEntry command j) (tick j)))).eq_ok_or_throw
    · rw [hindex] at h
      cases h
    rw [hindex] at h
    cases h
    exact absurd (store.indexTicket_eq_throw hindex) hcode
  · rw [happend]
    rfl

/-- Only the index refuses a request that has been appended. -/
theorem beginsCleanly_of_ne {command : DurableWakeCommand} {j : Journal}
    (h : (store.beginRequest command j).outcome ≠ .error .ticketIdCollision) : store.BeginsCleanly command j := by
  refine ⟨h, fun code hcode => ?_⟩
  have hdirectory := store.directory_loadSessionJournal command.sessionId j
  obtain ⟨⟨⟩, hload⟩ | ⟨_, hload⟩ := (store.loadSessionJournal command.sessionId j).eq_ok_or_throw
  · rw [← hdirectory]
    generalize (store.loadSessionJournal command.sessionId j).journal = loaded at hload
    cases hget : (entriesOf loaded command.sessionId).get? command.idempotencyKey with
    | some =>
      rw [store.beginRequest_of_held hload hget]
      split
      · rfl
      · rfl
    | none =>
      rw [store.beginRequest_of_new hload hget] at h hcode ⊢
      exact store.addRequest_directory hcode fun heq => h (heq ▸ hcode)
  · rw [beginRequest, hload]
    exact hdirectory

/-- **Tickets tell requests apart** exactly when their scopes differ, and in every run whose pairs
have different scopes no request is refused for its ticket, and none that failed was appended. -/
theorem beginRequest_unique_tickets (directory : OrderedMap JsString JournalFile) (calls : List StoreCall)
    (hsha : store.NoCollisions (recordedPairs directory ++ begunPairs calls)) :
    (∀ p ∈ recordedPairs directory ++ begunPairs calls, ∀ q ∈ recordedPairs directory ++ begunPairs calls,
      store.ticketOfPair p ≠ store.ticketOfPair q ↔ ¬ SameScope p.1 p.2 q.1 q.2) ∧
      (DistinctScopes (recordedPairs directory ++ begunPairs calls) →
        ∀ before command after, calls = before ++ .beginRequest command :: after →
          store.BeginsCleanly command (store.performAll directory before)) := by
  constructor
  · intro p hp q hq
    exact not_congr (store.ticketOfPair_eq_iff hsha hp hq)
  rintro hdistinct before command after rfl
  have hknown : store.Known (recordedPairs directory ++ begunPairs (before ++ .beginRequest command :: after))
      (store.performAll directory before) :=
    .performAll (fun p hp => mem_append_left _ hp) fun p hp => by
      rw [begunPairs_append]
      exact mem_append_right _ (mem_append_left _ hp)
  have hcommand : command.pair ∈ recordedPairs directory ++
      begunPairs (before ++ .beginRequest command :: after) := by
    rw [begunPairs_append]
    exact mem_append_right _ (mem_append_right _ (mem_cons_self ..))
  exact store.beginsCleanly_of_ne fun hcode =>
    (hknown.beginRequest hcommand).2 _ hcode rfl ⟨hsha, hdistinct⟩

theorem beginRequest_unique_tickets_letters :
    (letterStore fun _ => 0).BeginsCleanly (letterCommand "b" "k")
      ((letterStore fun _ => 0).performAll .empty [.beginRequest (letterCommand "a" "k")]) :=
  ((letterStore fun _ => 0).beginRequest_unique_tickets .empty
    [.beginRequest (letterCommand "a" "k"), .beginRequest (letterCommand "b" "k")] (by decide)).2 (by decide)
    [.beginRequest (letterCommand "a" "k")] (letterCommand "b" "k") [] rfl

end FileDurabilityStore

/-- A line feed ends the id of one pair and the key of the other. -/
theorem wakeTicketId_collides :
    sessionIdField (text "a\nb") = .ok (text "a\nb") ∧ idempotencyKeyField (text "c") = .ok (text "c") ∧
      sessionIdField (text "a") = .ok (text "a") ∧ idempotencyKeyField (text "b\nc") = .ok (text "b\nc") ∧
      (text "a\nb", text "c") ≠ (text "a", text "b\nc") ∧
      ∀ sha256, wakeTicketId sha256 (text "a\nb") (text "c") = wakeTicketId sha256 (text "a") (text "b\nc") :=
  ⟨by decide, by decide, by decide, by decide, by decide, fun _ => rfl⟩

end PiDaemon.Durability
