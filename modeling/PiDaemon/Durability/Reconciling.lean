import Mathlib.Data.List.Perm.Subperm
import PiDaemon.Durability.Recovering

/-!
# Reconciling what a recovery reports

A recovery reports the indeterminate entries that it finds, and prunes their sessions after that.  An
entry that is pruned cannot be reconciled: its ticket is gone.

* `reconcileRequest_of_held`: how the reconciliation of an entry that the store holds ends;
* `recoveredEntries_eq`: what a session holds between the report and the prune;
* `reconcile_reported`: which of the reported entries can be reconciled, and when the count of the
  host comes back to zero.
-/

namespace PiDaemon.Durability

open Lib OrderedMap List

namespace FileDurabilityStore

variable {store : FileDurabilityStore}

/-! ## One reconciliation -/

/-- A reported entry after its reconciliation. -/
def resolved (store : FileDurabilityStore) (entry : JournalEntry) (outcome : Reconciliation) (j : Journal) :
    JournalEntry :=
  moved entry outcome.state outcome.patch (store.timestamp j)

theorem Reconciliation.allowed (outcome : Reconciliation) :
    allowedTransition .indeterminate outcome.state true = true := by
  cases outcome <;> rfl

theorem Reconciliation.terminal (outcome : Reconciliation) : isTerminal outcome.state = true := by
  cases outcome <;> rfl

/-- The entry has been reconciled; its session has not been pruned yet. -/
def afterReconcile (store : FileDurabilityStore) (entry : JournalEntry) (outcome : Reconciliation) (j : Journal) :
    Journal :=
  held entry.sessionId (store.resolved entry outcome j) (store.appended (store.resolved entry outcome j) (tick j))

theorem reconcileRequest_of_missing {entry : JournalEntry} {outcome : Reconciliation} {j : Journal}
    (hscanned : j.journalsScanned = true) (hnone : j.ticketIndex.get? (store.ticketOf entry) = none) :
    store.reconcileRequest (store.ticketOf entry) outcome j = .throw .ticketNotFound j := by
  rw [reconcileRequest, scanJournalFiles, if_pos hscanned, Called.bind_ok]
  simp only [hnone]

theorem Sound.afterReconcile {j : Journal} (h : store.Sound j) {entry : JournalEntry}
    (hget : (entriesOf j entry.sessionId).get? entry.idempotencyKey = some entry) (outcome : Reconciliation) :
    store.Sound (store.afterReconcile entry outcome j) :=
  h.replace (store.resolved entry outcome j) hget rfl rfl rfl rfl rfl

section
variable [Std.TransCmp store.localeCompare]

/-- **An indeterminate entry that the store holds** is reconciled exactly when its record is within the
limits of its file. -/
theorem reconcileRequest_of_held {entry : JournalEntry} (outcome : Reconciliation) {j : Journal}
    (h : store.Sound j) (hscanned : j.journalsScanned = true)
    (hget : (entriesOf j entry.sessionId).get? entry.idempotencyKey = some entry)
    (hstate : entry.state = .indeterminate) :
    (store.Fits (store.resolved entry outcome j) j ∧ ∃ j',
        store.reconcileRequest (store.ticketOf entry) outcome j = .ok (store.resolved entry outcome j) j' ∧
        store.Pruned entry.sessionId (store.afterReconcile entry outcome j) j') ∨
      ¬ store.Fits (store.resolved entry outcome j) j ∧ ∃ code j',
        store.reconcileRequest (store.ticketOf entry) outcome j = .throw code j' := by
  have hindex : j.ticketIndex.get? (store.ticketOf entry) = some (entry.sessionId, entry.idempotencyKey) :=
    h.indexed entry.sessionId entry.idempotencyKey entry hget
  have hloaded : entry.sessionId ∈ j.loadedSessions :=
    h.loaded _ (has_iff.mpr (has_of_mem (mem_values_of_get? hget)))
  have hallowed : allowedTransition entry.state outcome.state true = true := by
    rw [hstate]
    exact Reconciliation.allowed outcome
  have htransition := store.transition_of_allowed outcome.patch (h.placed entry.sessionId) hget hallowed
  have hmap : ((entriesOf j entry.sessionId).get? entry.idempotencyKey).map JournalEntry.state =
      some .indeterminate := by
    rw [hget, Option.map_some, hstate]
  rw [reconcileRequest, scanJournalFiles, if_pos hscanned, Called.bind_ok]
  simp only [hindex]
  rw [loadSessionJournal_of_loaded hloaded, Called.bind_ok, if_pos hmap, htransition]
  rcases store.append_cases (moved entry outcome.state outcome.patch (store.timestamp j)) (tick j) with
    ⟨hfits, happend⟩ | ⟨hfits, code, -, happend⟩
  · obtain ⟨removed, j', hprune, hpruned⟩ := pruneSession_spec entry.sessionId (h.afterReconcile hget outcome) hloaded
    refine .inl ⟨hfits, j', ?_, hpruned⟩
    have hprune : store.pruneSession entry.sessionId (held entry.sessionId
        (moved entry outcome.state outcome.patch (store.timestamp j))
        (store.appended (moved entry outcome.state outcome.patch (store.timestamp j)) (tick j))) = .ok removed j' :=
      hprune
    rw [happend, Called.bind_ok, Called.bind_ok, hprune]
    rfl
  · exact .inr ⟨hfits, code, tick j, by rw [happend]; rfl⟩

end

/-! ## The entries that are reported -/

/-- The entries of a session after a recovery has turned the accepted ones, and before it prunes. -/
def recoveredEntries (directory : OrderedMap JsString JournalFile) (reported : List JournalEntry)
    (sessionId : JsString) : List JournalEntry :=
  (entriesIn directory sessionId).values.map fun entry =>
    (reported.find? fun other =>
      other.sessionId = sessionId ∧ other.idempotencyKey = entry.idempotencyKey).getD entry

theorem map_reported {sessionId : JsString} {reported before after : List JournalEntry}
    (hrestamped : List.Forall₂ (Restamped store) before after)
    (hid : ∀ entry ∈ after, entry.sessionId = sessionId)
    (hnodup : (after.map JournalEntry.idempotencyKey).Nodup)
    (hreported : ∀ entry, entry ∈ reported ∧ entry.sessionId = sessionId ↔ entry ∈ ofState .indeterminate after) :
    before.map (fun entry => (reported.find? fun other =>
      other.sessionId = sessionId ∧ other.idempotencyKey = entry.idempotencyKey).getD entry) = after := by
  have hpoint {x y : JournalEntry} (hmem : y ∈ after) (hxy : Restamped store x y) :
      (reported.find? fun other =>
        other.sessionId = sessionId ∧ other.idempotencyKey = x.idempotencyKey).getD x = y := by
    cases hfind : reported.find? fun other =>
      decide (other.sessionId = sessionId ∧ other.idempotencyKey = x.idempotencyKey) with
    | some other =>
      have hfound := List.find?_some hfind
      simp only [decide_eq_true_eq] at hfound
      obtain ⟨hother, hkey⟩ := hfound
      have hin := (mem_ofState.mp ((hreported other).mp ⟨List.mem_of_find?_eq_some hfind, hother⟩)).1
      exact eq_of_key_eq hnodup hin hmem (hkey.trans hxy.same.2.symm)
    | none =>
      rcases hxy with ⟨-, rfl⟩ | ⟨_, hmoved⟩
      · rfl
      have hindeterminate : y.state = .indeterminate := by
        obtain ⟨reading, rfl⟩ := hmoved
        rfl
      have hin := ((hreported y).mpr (mem_ofState.mpr ⟨hmem, hindeterminate⟩)).1
      have hnot := List.find?_eq_none.mp hfind y hin
      have hkey : y.idempotencyKey = x.idempotencyKey := by
        obtain ⟨reading, rfl⟩ := hmoved
        rfl
      exact absurd (decide_eq_true ⟨hid y hmem, hkey⟩) hnot
  clear hnodup hid hreported
  induction hrestamped with
  | nil => rfl
  | cons hfirst hrest ih =>
    rw [map_cons, hpoint (mem_cons_self ..) hfirst]
    rw [ih fun hmem hxy => hpoint (mem_cons_of_mem _ hmem) hxy]

/-- What a recovery leaves of the entries that it reports. -/
structure Reported (store : FileDurabilityStore) (directory : OrderedMap JsString JournalFile)
    (reported : List JournalEntry) (reading : JsString → Nat) (j : Journal) : Prop where
  indeterminate : ∀ entry ∈ reported, entry.state = .indeterminate
  kept : ∀ entry ∈ reported,
    store.Kept (store.now (reading entry.sessionId)) (recoveredEntries directory reported entry.sessionId) entry →
      (entriesOf j entry.sessionId).get? entry.idempotencyKey = some entry
  dropped : ∀ entry ∈ reported,
    ¬ store.Kept (store.now (reading entry.sessionId)) (recoveredEntries directory reported entry.sessionId) entry →
      j.ticketIndex.get? (store.ticketOf entry) = none
  within : ∀ sessionId, ((entriesOf j sessionId).values.filter fun entry => isTerminal entry.state).length ≤
    store.maxTerminalEntries
  nodup : (reported.map JournalEntry.pair).Nodup
  scanned : j.journalsScanned = true
  sound : store.Sound j

theorem length_terminal_le {store : FileDurabilityStore} [Std.TransCmp store.localeCompare] (now : Int)
    {entries kept : List JournalEntry} (hnodup : (entries.map JournalEntry.idempotencyKey).Nodup)
    (hkept : (kept.map JournalEntry.idempotencyKey).Nodup)
    (hsub : ∀ entry ∈ kept, entry ∈ entries ∧ store.Stays now entries entry) :
    (kept.filter fun entry => isTerminal entry.state).length ≤ store.maxTerminalEntries := by
  have hsubset : (kept.filter fun entry => isTerminal entry.state).map JournalEntry.idempotencyKey ⊆
      store.keepTerminal now entries := by
    intro k hk
    obtain ⟨entry, hentry, rfl⟩ := mem_map.mp hk
    obtain ⟨hmem, hterminal⟩ := mem_filter.mp hentry
    obtain ⟨hin, hstays⟩ := hsub entry hmem
    exact (mem_keepTerminal hnodup hin hterminal).mpr (hstays hterminal)
  have hfilter : ((kept.filter fun entry => isTerminal entry.state).map JournalEntry.idempotencyKey).Nodup :=
    hkept.sublist (filter_sublist.map _)
  have hle := (subperm_of_subset hfilter hsubset).length_le
  rw [length_map] at hle
  refine Nat.le_trans hle ?_
  rw [keepTerminal, length_map]
  exact Nat.le_trans (length_filter_le _ _) (length_take_le _ _)

theorem nodup_pairs {entries : List JournalEntry}
    (h : ∀ sessionId, ((ofSession sessionId entries).map JournalEntry.idempotencyKey).Nodup) :
    (entries.map JournalEntry.pair).Nodup := by
  induction entries with
  | nil => exact nodup_nil
  | cons entry rest ih =>
    refine nodup_cons.mpr ⟨fun hmem => ?_, ih fun sessionId => ?_⟩
    · obtain ⟨other, hother, hpair⟩ := mem_map.mp hmem
      have hnodup := h entry.sessionId
      rw [ofSession, filter_cons_of_pos (by simp), map_cons, nodup_cons] at hnodup
      refine hnodup.1 (mem_map.mpr ⟨other, mem_filter.mpr ⟨hother, ?_⟩, congrArg Prod.snd hpair⟩)
      exact decide_eq_true (congrArg Prod.fst hpair)
    · exact (h sessionId).sublist (((sublist_cons_self entry rest).filter _).map _)

section
variable [Std.TransCmp store.localeCompare]

/-- **What a recovery reports** is indeterminate, and held exactly when it has been kept by the prune. -/
theorem reported_of_recover {manifestBytes : Nat} {j j' : Journal} {snapshot : RecoverySnapshot}
    (hok : store.recover manifestBytes (restart j) = .ok snapshot j') :
    ∃ reading : JsString → Nat, (∀ sessionId ∈ snapshot.indeterminate.map JournalEntry.sessionId,
        j.readings ≤ reading sessionId ∧ reading sessionId < j'.readings) ∧
      Reported store j.directory snapshot.indeterminate reading j' := by
  obtain ⟨scanned, collected, sessions, reading, report, hscanned, hempty, hcollected, hpruned, rfl, _, hscan,
    _⟩ := recover_eq_ok hok
  have hmem (entry : JournalEntry) : entry ∈ store.sortEntries report.indeterminate ↔ entry ∈ report.indeterminate :=
    mem_stableSort
  -- the reported entries of a session
  have hof (sessionId : JsString) : ofSession sessionId report.indeterminate =
      ofState .indeterminate (entriesOf collected sessionId).values := by
    rw [hcollected.indeterminate]
    split
    · rfl
    rename_i hnot
    have hnone : scanned.entries.get? sessionId = none := lookupIn_eq_none.mpr hnot
    rw [hcollected.others sessionId hnot, entriesOf, hnone]
    rfl
  have hreported (sessionId : JsString) (entry : JournalEntry) :
      entry ∈ store.sortEntries report.indeterminate ∧ entry.sessionId = sessionId ↔
        entry ∈ ofState .indeterminate (entriesOf collected sessionId).values := by
    rw [← hof, ofSession, mem_filter, decide_eq_true_eq, hmem]
  have hheld {entry : JournalEntry} (hentry : entry ∈ store.sortEntries report.indeterminate) :
      entry ∈ (entriesOf collected entry.sessionId).values ∧ entry.state = .indeterminate :=
    mem_ofState.mp ((hreported entry.sessionId entry).mp ⟨hentry, rfl⟩)
  have hplaced (sessionId : JsString) := hcollected.sound.placed sessionId
  have hrestamped (sessionId : JsString) :
      List.Forall₂ (Restamped store) (entriesOf scanned sessionId).values (entriesOf collected sessionId).values := by
    by_cases hin : sessionId ∈ scanned.entries.keys
    · exact hcollected.restamped sessionId hin
    have hnone : scanned.entries.get? sessionId = none := lookupIn_eq_none.mpr hin
    rw [hcollected.others sessionId hin, entriesOf, hnone]
    exact .nil
  have hvalues (sessionId : JsString) :
      recoveredEntries j.directory (store.sortEntries report.indeterminate) sessionId =
        (entriesOf collected sessionId).values := by
    rw [recoveredEntries, ← hscanned sessionId]
    refine map_reported (hrestamped sessionId) (fun entry hentry => ((hplaced sessionId).get?_of_mem hentry).2)
      (hplaced sessionId).nodup (hreported sessionId)
  have hsession {sessionId : JsString} {entry : JournalEntry} (hentry : entry ∈ (entriesOf collected sessionId).values) :
      sessionId ∈ sessions := by
    by_contra hnot
    rw [hempty sessionId hnot] at hentry
    cases hentry
  have hstays {entry : JournalEntry} (hentry : entry ∈ store.sortEntries report.indeterminate) :
      store.Stays (store.now (reading entry.sessionId)) (entriesOf collected entry.sessionId).values entry ↔
        store.Kept (store.now (reading entry.sessionId))
          (recoveredEntries j.directory (store.sortEntries report.indeterminate) entry.sessionId) entry := by
    rw [hvalues, Stays, (hheld hentry).2]
    exact ⟨fun h => h rfl, fun h _ => h⟩
  refine ⟨reading, fun sessionId hid => ?_, fun entry hentry => (hheld hentry).2, fun entry hentry hkept => ?_,
    fun entry hentry hkept => ?_, fun sessionId => ?_, ?_, ?_, hpruned.sound⟩
  · obtain ⟨entry, hentry, rfl⟩ := mem_map.mp hid
    obtain ⟨_, _⟩ := hpruned.readings entry.sessionId (hsession (hheld hentry).1)
    have hlater := hcollected.later
    omega
  · have hin := (hheld hentry).1
    exact (hpruned.entries entry.sessionId (hsession hin) _ entry).mpr
      ⟨((hplaced entry.sessionId).get?_of_mem hin).1, (hstays hentry).mpr hkept⟩
  · have hin := (hheld hentry).1
    exact hpruned.dropped entry.sessionId (hsession hin) _ entry ((hplaced entry.sessionId).get?_of_mem hin).1
      fun h => hkept ((hstays hentry).mp h)
  · by_cases hin : sessionId ∈ sessions
    · refine length_terminal_le (store.now (reading sessionId)) (hplaced sessionId).nodup
        (hpruned.sound.placed sessionId).nodup fun entry hentry => ?_
      obtain ⟨hget, hstay⟩ := (hpruned.entries sessionId hin _ entry).mp
        ((hpruned.sound.placed sessionId).get?_of_mem hentry).1
      exact ⟨mem_values_of_get? hget, hstay⟩
    · rw [hpruned.others sessionId hin, hempty sessionId hin]
      exact Nat.zero_le _
  · refine (perm_stableSort.map JournalEntry.pair).nodup_iff.mpr (nodup_pairs fun sessionId => ?_)
    rw [hof]
    exact (hplaced sessionId).nodup.sublist (filter_sublist.map _)
  · rw [hpruned.scanned, hcollected.scanned]
    exact hscan

end

/-! ## The count of the host -/

/-- A host that has recovered, with the count of its recovery health. -/
structure Host where
  journal : Journal
  /-- `recovered.indeterminate.length` -/
  reported : Nat
  indeterminateRequests : Nat

inductive HostEvent where
  /-- `reconcileWakeTicket` with the ticket of an entry. -/
  | reconcileWakeTicket (entry : JournalEntry) (outcome : Reconciliation)
  /-- `refreshHealth`, while queued wakes are replayed and after it. -/
  | refreshHealth

variable (store) in
def Host.step (host : Host) : HostEvent → Host
  | .reconcileWakeTicket entry outcome =>
    let called := store.reconcileRequest (store.ticketOf entry) outcome host.journal
    match called.outcome with
    | .ok _ => { host with journal := called.journal, indeterminateRequests := host.indeterminateRequests - 1 }
    | .error _ => { host with journal := called.journal }
  | .refreshHealth => { host with indeterminateRequests := host.reported }

/-- The entries that are reconciled. -/
def reconciledIn (events : List HostEvent) : List JournalEntry :=
  events.filterMap fun event =>
    match event with
    | .reconcileWakeTicket entry _ => some entry
    | .refreshHealth => none

/-- How many entries are reconciled after the health has been refreshed the last time; `counted` were
before these events. -/
def sinceRefresh (counted : Nat) : List HostEvent → Nat
  | [] => counted
  | .reconcileWakeTicket _ _ :: rest => sinceRefresh (counted + 1) rest
  | .refreshHealth :: rest => sinceRefresh 0 rest

variable (store) in
/-- Each record is within the limits of its file, and the entries that are still to be reconciled have
not expired when their sessions are pruned. -/
def Timely : List HostEvent → Host → Prop
  | [], _ => True
  | .reconcileWakeTicket entry outcome :: rest, host =>
    store.Fits (store.resolved entry outcome host.journal) host.journal ∧
      (∀ other ∈ reconciledIn rest, store.isFresh (store.now (host.journal.readings + 1)) other = true) ∧
      Timely rest (host.step store (.reconcileWakeTicket entry outcome))
  | .refreshHealth :: rest, host => Timely rest (host.step store .refreshHealth)

/-- Entries that are still to be reconciled. -/
structure Pending (store : FileDurabilityStore) (entries : List JournalEntry) (j : Journal) : Prop where
  held : ∀ entry ∈ entries, (entriesOf j entry.sessionId).get? entry.idempotencyKey = some entry
  indeterminate : ∀ entry ∈ entries, entry.state = .indeterminate
  within : ∀ sessionId, ((entriesOf j sessionId).values.filter fun entry => isTerminal entry.state).length ≤
    store.maxTerminalEntries
  nodup : (entries.map JournalEntry.pair).Nodup
  scanned : j.journalsScanned = true
  sound : store.Sound j

section
variable [Std.TransCmp store.localeCompare]

theorem place_lt {entries : List JournalEntry} {entry : JournalEntry} (hmem : entry ∈ entries)
    (hterminal : isTerminal entry.state = true) :
    store.place entries entry < (entries.filter fun entry => isTerminal entry.state).length := by
  have hle := countP_le_length (l := entries.filter fun e => isTerminal e.state) (p := fun e =>
    ahead store.updatedLater JournalEntry.idempotencyKey (entries.filter fun e => isTerminal e.state) e entry)
  refine Nat.lt_of_le_of_ne hle fun heq => ?_
  have hall := countP_eq_length.mp heq entry (mem_filter.mpr ⟨hmem, hterminal⟩)
  have hrefl : store.updatedLater entry entry = true := by
    have htotal := store.updatedLater_total entry entry
    rwa [Bool.or_self] at htotal
  rw [not_ahead_self entry hrefl] at hall
  cases hall

theorem Pending.reconcile {entry : JournalEntry} {rest : List JournalEntry} {outcome : Reconciliation} {j j' : Journal}
    (h : Pending store (entry :: rest) j)
    (hfresh : ∀ other ∈ rest, store.isFresh (store.now (j.readings + 1)) other = true)
    (hpruned : store.Pruned entry.sessionId (store.afterReconcile entry outcome j) j') : Pending store rest j' := by
  have hget := h.held entry (mem_cons_self ..)
  have hsound := h.sound.afterReconcile hget outcome
  obtain ⟨hnot, hrest⟩ := nodup_cons.mp h.nodup
  have hafter (sessionId : JsString) : entriesOf (store.afterReconcile entry outcome j) sessionId =
      if entry.sessionId = sessionId then
        (entriesOf j entry.sessionId).set entry.idempotencyKey (store.resolved entry outcome j)
      else entriesOf j sessionId :=
    entriesOf_held entry.sessionId sessionId (store.resolved entry outcome j) _
  have hkeep {other : JournalEntry} (hother : other ∈ rest) :
      (entriesOf (store.afterReconcile entry outcome j) other.sessionId).get? other.idempotencyKey = some other := by
    have hold := h.held other (mem_cons_of_mem _ hother)
    rw [hafter]
    split
    · rename_i hid
      rw [hid, OrderedMap.get?_set_ne, hold]
      intro hkey
      exact hnot (mem_map.mpr ⟨other, hother, Prod.ext hid.symm hkey.symm⟩)
    · exact hold
  -- a terminal entry takes the place of another
  have hterminal (sessionId : JsString) :
      ((entriesOf (store.afterReconcile entry outcome j) sessionId).values.filter fun e =>
        isTerminal e.state).length ≤ store.maxTerminalEntries := by
    rw [hafter]
    split
    · rename_i hid
      have hsame : isTerminal entry.state = isTerminal (store.resolved entry outcome j).state := by
        rw [h.indeterminate entry (mem_cons_self ..)]
        exact (Reconciliation.terminal outcome).symm
      have hlength := filter_values_setIn (p := fun e : JournalEntry => isTerminal e.state) hsame hget
      exact hlength ▸ h.within entry.sessionId
    · exact h.within sessionId
  refine ⟨fun other hother => ?_, fun other hother => h.indeterminate other (mem_cons_of_mem _ hother),
    fun sessionId => ?_, hrest, hpruned.scanned.trans h.scanned, hpruned.sound⟩
  · by_cases hid : other.sessionId = entry.sessionId
    · have hkept := hkeep hother
      rw [hid] at hkept ⊢
      refine (hpruned.entries _ other).mpr ⟨hkept, fun hstate => ⟨?_, hfresh other hother⟩⟩
      exact Nat.lt_of_lt_of_le (place_lt (mem_values_of_get? hkept) hstate) (hterminal entry.sessionId)
    · rw [hpruned.others _ hid]
      exact hkeep hother
  · by_cases hid : sessionId = entry.sessionId
    · subst hid
      refine length_terminal_le (store.now (store.afterReconcile entry outcome j).readings)
        (hsound.placed entry.sessionId).nodup
        (hpruned.sound.placed entry.sessionId).nodup fun other hother => ?_
      obtain ⟨hold, hstays⟩ := (hpruned.entries _ other).mp
        ((hpruned.sound.placed entry.sessionId).get?_of_mem hother).1
      exact ⟨mem_values_of_get? hold, hstays⟩
    · rw [hpruned.others _ hid]
      exact hterminal sessionId

theorem Pending.count {events : List HostEvent} (host : Host) (counted : Nat)
    (h : Pending store (reconciledIn events) host.journal) (htimely : Timely store events host)
    (hcount : host.indeterminateRequests = host.reported - counted) :
    (events.foldl (Host.step store) host).indeterminateRequests = host.reported - sinceRefresh counted events := by
  induction events generalizing host counted with
  | nil => exact hcount
  | cons event rest ih =>
    cases event with
    | refreshHealth =>
      rw [foldl_cons, ih (host.step store .refreshHealth) 0 h htimely rfl]
      rfl
    | reconcileWakeTicket entry outcome =>
      obtain ⟨hfits, hfresh, hrest⟩ := htimely
      have hreconciled : reconciledIn (.reconcileWakeTicket entry outcome :: rest) = entry :: reconciledIn rest := rfl
      rcases reconcileRequest_of_held outcome h.sound h.scanned (h.held entry (mem_cons_self ..))
        (h.indeterminate entry (mem_cons_self ..)) with ⟨-, j', hok, hpruned⟩ | ⟨hnot, -⟩
      · have hstep : host.step store (.reconcileWakeTicket entry outcome) =
            { host with journal := j', indeterminateRequests := host.indeterminateRequests - 1 } := by
          rw [Host.step]
          simp only [hok, Called.ok_outcome, Called.ok_journal]
        rw [hstep] at hrest
        have hih := ih { host with journal := j', indeterminateRequests := host.indeterminateRequests - 1 } (counted + 1)
          (h.reconcile hfresh hpruned) hrest (by rw [hcount, Nat.sub_sub])
        rw [foldl_cons, hstep]
        exact hih
      · exact absurd hfits hnot

/-- **Reported work can be reconciled** exactly when the prune of the recovery has kept it and the record
is within the limits of its file.  When all of it has been kept and is reconciled in time, the count of
the host comes back to zero exactly when the health has not been refreshed since the first one. -/
theorem reconcile_reported {manifestBytes : Nat} {j j' : Journal} {snapshot : RecoverySnapshot}
    (hok : store.recover manifestBytes (restart j) = .ok snapshot j') :
    ∃ reading : JsString → Nat, (∀ sessionId ∈ snapshot.indeterminate.map JournalEntry.sessionId,
        j.readings ≤ reading sessionId ∧ reading sessionId < j'.readings) ∧
      (∀ entry ∈ snapshot.indeterminate, ∀ outcome,
        (∃ value j'', store.reconcileRequest (store.ticketOf entry) outcome j' = .ok value j'') ↔
          store.Kept (store.now (reading entry.sessionId))
            (recoveredEntries j.directory snapshot.indeterminate entry.sessionId) entry ∧
          store.Fits (store.resolved entry outcome j') j') ∧
      ∀ events, (reconciledIn events).Perm snapshot.indeterminate →
        (∀ entry ∈ snapshot.indeterminate, store.Kept (store.now (reading entry.sessionId))
          (recoveredEntries j.directory snapshot.indeterminate entry.sessionId) entry) →
        Timely store events ⟨j', snapshot.indeterminate.length, snapshot.indeterminate.length⟩ →
        ((events.foldl (Host.step store)
          ⟨j', snapshot.indeterminate.length, snapshot.indeterminate.length⟩).indeterminateRequests = 0 ↔
            snapshot.indeterminate.length ≤ sinceRefresh 0 events) := by
  obtain ⟨reading, hreadings, hreported⟩ := reported_of_recover hok
  refine ⟨reading, hreadings, fun entry hentry outcome => ?_, fun events hperm hkept htimely => ?_⟩
  · by_cases hkept : store.Kept (store.now (reading entry.sessionId))
      (recoveredEntries j.directory snapshot.indeterminate entry.sessionId) entry
    · rcases reconcileRequest_of_held outcome hreported.sound hreported.scanned
        (hreported.kept entry hentry hkept) (hreported.indeterminate entry hentry) with
        ⟨hfits, j'', hreconcile, -⟩ | ⟨hfits, code, j'', hreconcile⟩
      · exact iff_of_true ⟨_, j'', hreconcile⟩ ⟨hkept, hfits⟩
      refine iff_of_false ?_ fun hboth => hfits hboth.2
      rintro ⟨value, k, hvalue⟩
      rw [hreconcile] at hvalue
      cases congrArg Called.outcome hvalue
    · refine iff_of_false ?_ fun hboth => hkept hboth.1
      rintro ⟨value, k, hvalue⟩
      rw [reconcileRequest_of_missing hreported.scanned (hreported.dropped entry hentry hkept)] at hvalue
      cases congrArg Called.outcome hvalue
  · have hpending : Pending store (reconciledIn events) j' := by
      refine ⟨fun entry hentry => ?_, fun entry hentry => ?_, hreported.within, ?_, hreported.scanned,
        hreported.sound⟩
      · have hin := hperm.mem_iff.mp hentry
        exact hreported.kept entry hin (hkept entry hin)
      · exact hreported.indeterminate entry (hperm.mem_iff.mp hentry)
      · exact (hperm.map JournalEntry.pair).nodup_iff.mpr hreported.nodup
    have hcount := Pending.count ⟨j', snapshot.indeterminate.length, snapshot.indeterminate.length⟩ 0 hpending htimely
      rfl
    rw [hcount, Nat.sub_eq_zero_iff_le]

end

/-- A store that has accepted requests of the session `a`. -/
def accepting (store : FileDurabilityStore) (keys : List String) : Journal :=
  keys.foldl (fun j k =>
    (store.markAccepted (text "a") (text k) (store.beginRequest (letterCommand "a" k) j).journal).journal)
    { directory := .empty }

theorem reconcile_reported_letters :
    let store := letterStore fun _ => 0
    ∃ snapshot j', store.recover 0 (restart (accepting store ["k"])) = .ok snapshot j' ∧
      ∃ reading : JsString → Nat, ∀ entry ∈ snapshot.indeterminate, ∀ outcome,
        (∃ value j'', store.reconcileRequest (store.ticketOf entry) outcome j' = .ok value j'') ↔
          store.Kept (store.now (reading entry.sessionId))
            (recoveredEntries (accepting store ["k"]).directory snapshot.indeterminate entry.sessionId) entry ∧
          store.Fits (store.resolved entry outcome j') j' := by
  intro store
  have hreturns : (store.recover 0 (restart (accepting store ["k"]))).outcome.toOption.isSome = true := by
    decide +kernel
  obtain ⟨snapshot, hok⟩ := Called.exists_eq_ok hreturns
  obtain ⟨reading, -, hreconcile, -⟩ := reconcile_reported hok
  exact ⟨snapshot, _, hok, reading, hreconcile⟩

/-- A store that keeps one terminal entry of a session reports two that were accepted. -/
theorem reported_and_pruned :
    let store := { letterStore fun _ => 0 with maxTerminalEntries := 1 }
    let recovered := store.recover 0 (restart (accepting store ["k", "l"]))
    recovered.outcome.toOption.map (fun snapshot => snapshot.indeterminate.map JournalEntry.idempotencyKey) =
        some [text "k", text "l"] ∧
      (store.reconcileRequest (wakeTicketId store.sha256 (text "a") (text "l")) (.completed none)
        recovered.journal).outcome.toOption.isNone = true := by
  decide +kernel

end FileDurabilityStore

end PiDaemon.Durability
