import PiDaemon.Multiplexer.Replay

/-!
# The order of admission

Requests are begun one after another.  After a restart the queued ones are sorted by the millisecond
they were begun in and, within it, by their keys.

* `Admitted.beginAll`: what beginning requests of a new session leaves;
* `ofSession_sortEntries`: when sorting keeps the order of a session;
* `recover_admission_order`: a recovery reports the requests in the order in which they were begun
  exactly when those of one millisecond were begun in the order of their keys.
-/

namespace PiDaemon.Durability

open Lib OrderedMap List

namespace FileDurabilityStore

variable (store : FileDurabilityStore)

/-- Requests begun one after another. -/
def beginAll (commands : List DurableWakeCommand) (j : Journal) : Journal :=
  commands.foldl (fun j command => (store.beginRequest command j).journal) j

/-- The requests that calls begin: of each key the first one whose record is within the limits. -/
def begun : List DurableWakeCommand → Journal → List JournalEntry
  | [], _ => []
  | command :: rest, j =>
    (if (entriesOf j command.sessionId).has command.idempotencyKey = false ∧
        store.Fits (store.queuedEntry command j) j then [store.queuedEntry command j] else []) ++
      begun rest (store.beginRequest command j).journal

/-- The entries were created one after another, the last of them before the next reading. -/
def Stamped (entries : List JournalEntry) (readings : Nat) : Prop :=
  (∀ entry ∈ entries, ∃ reading < readings, entry.createdAt = toISOString (store.now reading)) ∧
    entries.Pairwise fun a b => ∃ reading reading', reading ≤ reading' ∧
      a.createdAt = toISOString (store.now reading) ∧ b.createdAt = toISOString (store.now reading')

/-- The requests of a session that began with no file. -/
structure Admitted (sessionId : JsString) (entries : List JournalEntry) (j : Journal) : Prop where
  values : (entriesOf j sessionId).values = entries
  placed : Placed sessionId (entriesOf j sessionId)
  lines : fileLines j (journalPath sessionId) = entries.map some
  ready : sessionId ∈ j.loadedSessions ∨ j.directory.get? (journalPath sessionId) = none
  queued : ∀ entry ∈ entries, entry.state = .queued
  stamped : store.Stamped entries j.readings

variable {store}

theorem Stamped.concat {entries : List JournalEntry} {readings : Nat} (h : store.Stamped entries readings)
    {entry : JournalEntry} (hentry : entry.createdAt = toISOString (store.now readings)) :
    store.Stamped (entries ++ [entry]) (readings + 1) := by
  refine ⟨fun e he => ?_, pairwise_append.mpr ⟨h.2, pairwise_singleton _ _, fun a ha b hb => ?_⟩⟩
  · rcases mem_append.mp he with hold | hnew
    · obtain ⟨reading, hlt, hstamp⟩ := h.1 e hold
      exact ⟨reading, Nat.lt_succ_of_lt hlt, hstamp⟩
    · cases mem_singleton.mp hnew
      exact ⟨readings, Nat.lt_succ_self _, hentry⟩
  · cases mem_singleton.mp hb
    obtain ⟨reading, hlt, hstamp⟩ := h.1 a ha
    exact ⟨reading, readings, Nat.le_of_lt hlt, hstamp, hentry⟩

namespace Admitted

variable {sessionId : JsString} {entries : List JournalEntry} {j : Journal}

theorem start {directory : OrderedMap JsString JournalFile} {readings : Nat}
    (h : directory.get? (journalPath sessionId) = none) :
    store.Admitted sessionId [] { directory, readings } where
  values := rfl
  placed := .empty sessionId
  lines := by
    rw [fileLines, h]
    rfl
  ready := .inr h
  queued := fun _ hentry => by cases hentry
  stamped := ⟨(fun _ hentry => by cases hentry), .nil⟩

theorem load (h : store.Admitted sessionId entries j) :
    ∃ loaded, store.loadSessionJournal sessionId j = .ok () loaded ∧
      entriesOf loaded sessionId = entriesOf j sessionId ∧ loaded.directory = j.directory ∧
      loaded.readings = j.readings ∧ sessionId ∈ loaded.loadedSessions := by
  rcases h.ready with hloaded | hnone
  · exact ⟨j, loadSessionJournal_of_loaded hloaded, rfl, rfl, rfl, hloaded⟩
  by_cases hloaded : sessionId ∈ j.loadedSessions
  · exact ⟨j, loadSessionJournal_of_loaded hloaded, rfl, rfl, rfl, hloaded⟩
  have hfile : store.loadJournalFile (journalPath sessionId) (some sessionId) false j = .ok () j := by
    rw [loadJournalFile]
    simp only [hnone]
  rw [loadSessionJournal, if_neg hloaded, hfile, Called.bind_ok]
  refine ⟨_, rfl, ?_, rfl, rfl, mem_cons_self ..⟩
  simp only [entriesOf]
  split
  · rfl
  rename_i hhas
  rw [OrderedMap.get?_set_self, has_eq_false.mp (Bool.eq_false_iff.mpr hhas)]
  rfl

variable (store) in
theorem fits_iff {loaded : Journal} (hdirectory : loaded.directory = j.directory)
    (hreadings : loaded.readings = j.readings) (command : DurableWakeCommand) :
    store.queuedEntry command loaded = store.queuedEntry command j ∧
      (store.Fits (store.queuedEntry command loaded) loaded ↔ store.Fits (store.queuedEntry command j) j) := by
  have hentry : store.queuedEntry command loaded = store.queuedEntry command j := by
    rw [queuedEntry, queuedEntry, timestamp, timestamp, hreadings]
  refine ⟨hentry, ?_⟩
  rw [hentry, Fits, Fits, fileBytes, fileBytes, hdirectory]

theorem add (h : store.Admitted sessionId entries j) {command : DurableWakeCommand}
    (hid : command.sessionId = sessionId) (hloaded : sessionId ∈ j.loadedSessions)
    (hnew : (entriesOf j sessionId).get? command.idempotencyKey = none)
    (hfits : store.Fits (store.queuedEntry command j) j) :
    store.Admitted sessionId (entries ++ [store.queuedEntry command j]) (store.addRequest command j).journal := by
  subst hid
  have hadmitted {j' : Journal} (hentries : j'.entries = (held command.sessionId (store.queuedEntry command j) j).entries)
      (hdirectory : j'.directory = (store.appended (store.queuedEntry command j) j).directory)
      (hloaded' : j'.loadedSessions = j.loadedSessions) (hreadings : j'.readings = j.readings + 1) :
      store.Admitted command.sessionId (entries ++ [store.queuedEntry command j]) j' := by
    have hsame : entriesOf j' command.sessionId =
        (entriesOf j command.sessionId).set command.idempotencyKey (store.queuedEntry command j) := by
      have hheld := entriesOf_held command.sessionId command.sessionId (store.queuedEntry command j) j
      rw [if_pos rfl] at hheld
      rw [entriesOf, hentries]
      exact hheld
    refine ⟨?_, ?_, ?_, .inl (hloaded' ▸ hloaded), ?_, ?_⟩
    · rw [hsame, values_set_of_not_has hnew, h.values]
    · rw [hsame]
      have hset := h.placed.set (show (store.queuedEntry command j).sessionId = command.sessionId from rfl)
      exact hset
    · have hlines : fileLines j' (journalPath command.sessionId) =
          fileLines j (journalPath command.sessionId) ++ [some (store.queuedEntry command j)] := by
        rw [fileLines, hdirectory]
        show ((((j.directory.set (journalPath command.sessionId) _).get? _).map JournalFile.lines).getD []) = _
        rw [OrderedMap.get?_set_self]
        rfl
      rw [hlines, h.lines, map_append]
      rfl
    · intro entry hentry
      rcases mem_append.mp hentry with hold | hlast
      · exact h.queued entry hold
      · cases mem_singleton.mp hlast
        rfl
    · rw [hreadings]
      exact h.stamped.concat rfl
  rw [store.addRequest_of_fits hfits]
  obtain ⟨_, hok⟩ | ⟨_, hthrow⟩ := (store.indexTicket (store.queuedEntry command j)
    (held command.sessionId (store.queuedEntry command j)
      (store.appended (store.queuedEntry command j) (tick j)))).eq_ok_or_throw
  · have hjournal := (indexTicket_eq_ok hok).2
    rw [hok, Called.bind_ok, hjournal]
    exact hadmitted rfl rfl rfl rfl
  · have hjournal : (store.indexTicket (store.queuedEntry command j)
        (held command.sessionId (store.queuedEntry command j)
          (store.appended (store.queuedEntry command j) (tick j)))).journal =
        held command.sessionId (store.queuedEntry command j)
          (store.appended (store.queuedEntry command j) (tick j)) := by
      rw [indexTicket] at hthrow ⊢
      split
      · rfl
      rename_i hany
      rw [if_neg hany] at hthrow
      cases congrArg Called.outcome hthrow
    rw [hthrow, Called.bind_throw, hjournal]
    exact hadmitted rfl rfl rfl rfl

theorem beginRequest (h : store.Admitted sessionId entries j) {command : DurableWakeCommand}
    (hid : command.sessionId = sessionId) :
    store.Admitted sessionId
      (entries ++ if (entriesOf j command.sessionId).has command.idempotencyKey = false ∧
        store.Fits (store.queuedEntry command j) j then [store.queuedEntry command j] else [])
      (store.beginRequest command j).journal := by
  subst hid
  obtain ⟨loaded, hload, hentries, hdirectory, hreadings, hin⟩ := h.load
  obtain ⟨hsame, hfits⟩ := fits_iff store hdirectory hreadings command
  have hloaded : store.Admitted command.sessionId entries loaded := by
    refine ⟨hentries ▸ h.values, hentries ▸ h.placed, ?_, .inl hin, h.queued, hreadings ▸ h.stamped⟩
    rw [fileLines, hdirectory]
    exact h.lines
  cases hget : (entriesOf loaded command.sessionId).get? command.idempotencyKey with
  | some existing =>
    have hhas : (entriesOf j command.sessionId).has command.idempotencyKey = true := by
      rw [← hentries]
      exact has_iff.mpr ⟨existing, hget⟩
    rw [if_neg (by rw [hhas]; rintro ⟨⟨⟩, -⟩), append_nil, store.beginRequest_of_held hload hget]
    split
    · exact hloaded
    · exact hloaded
  | none =>
    have hhas : (entriesOf j command.sessionId).has command.idempotencyKey = false := by
      rw [← hentries]
      exact has_eq_false.mpr hget
    rw [store.beginRequest_of_new hload hget]
    by_cases hfit : store.Fits (store.queuedEntry command loaded) loaded
    · rw [if_pos ⟨hhas, hfits.mp hfit⟩, ← hsame]
      exact hloaded.add rfl hin hget hfit
    rw [if_neg fun hboth => hfit (hfits.mpr hboth.2), append_nil, addRequest]
    obtain ⟨hfit', -⟩ | ⟨-, _, -, happend⟩ :=
      store.append_cases (store.queuedEntry command loaded) (tick loaded)
    · exact absurd hfit' hfit
    rw [happend]
    refine ⟨hloaded.values, hloaded.placed, hloaded.lines, hloaded.ready, hloaded.queued, ?_, hloaded.stamped.2⟩
    intro entry hentry
    obtain ⟨reading, hlt, hstamp⟩ := hloaded.stamped.1 entry hentry
    exact ⟨reading, Nat.lt_succ_of_lt hlt, hstamp⟩

theorem beginAll (h : store.Admitted sessionId entries j) {commands : List DurableWakeCommand}
    (hid : ∀ command ∈ commands, command.sessionId = sessionId) :
    store.Admitted sessionId (entries ++ store.begun commands j) (store.beginAll commands j) := by
  induction commands generalizing entries j with
  | nil =>
    rw [begun, append_nil]
    exact h
  | cons command rest ih =>
    have hfirst := h.beginRequest (hid command (mem_cons_self ..))
    rw [begun, ← append_assoc]
    exact ih hfirst fun other hother => hid other (mem_cons_of_mem _ hother)

end Admitted

/-! ## Sorting -/

section
variable [Std.TransCmp store.localeCompare]

variable (store) in
theorem transCmp_by (field : JournalEntry → JsString) :
    Std.TransCmp fun a b : JournalEntry => store.localeCompare (field a) (field b) where
  eq_swap := Std.OrientedCmp.eq_swap
  isLE_trans := Std.TransCmp.isLE_trans

instance : Std.TransCmp store.compareJournalEntries :=
  have := transCmp_by store JournalEntry.createdAt
  have := transCmp_by store JournalEntry.idempotencyKey
  inferInstanceAs (Std.TransCmp (compareLex (fun a b : JournalEntry => store.localeCompare a.createdAt b.createdAt)
    fun a b : JournalEntry => store.localeCompare a.idempotencyKey b.idempotencyKey))

variable (store) in
/-- Sorting keeps the order of a session exactly when it is sorted already. -/
theorem ofSession_sortEntries (sessionId : JsString) (entries : List JournalEntry) :
    ofSession sessionId (store.sortEntries entries) = ofSession sessionId entries ↔
      (ofSession sessionId entries).Pairwise fun a b => (store.compareJournalEntries a b).isLE = true := by
  have htrans (a b c : JournalEntry) (hab : (store.compareJournalEntries a b).isLE = true)
      (hbc : (store.compareJournalEntries b c).isLE = true) : (store.compareJournalEntries a c).isLE = true :=
    Std.TransCmp.isLE_trans hab hbc
  have htotal (a b : JournalEntry) :
      ((store.compareJournalEntries a b).isLE || (store.compareJournalEntries b a).isLE) = true := by
    have hswap : store.compareJournalEntries b a = (store.compareJournalEntries a b).swap := Std.OrientedCmp.eq_swap
    rw [hswap]
    cases store.compareJournalEntries a b <;> rfl
  constructor
  · intro h
    rw [← h]
    exact (pairwise_stableSort htrans htotal).sublist filter_sublist
  · intro h
    have hsub : (ofSession sessionId entries).Sublist (store.sortEntries entries) :=
      sublist_stableSort h filter_sublist
    have hsub' := hsub.filter fun entry => decide (entry.sessionId = sessionId)
    have hself : (ofSession sessionId entries).filter (fun entry => decide (entry.sessionId = sessionId)) =
        ofSession sessionId entries := by
      rw [ofSession, filter_filter]
      simp
    rw [hself] at hsub'
    refine (hsub'.eq_of_length ?_).symm
    exact (perm_stableSort.filter _).length_eq.symm

/-- Entries of one millisecond are in the order of their keys. -/
def KeysInOrder (store : FileDurabilityStore) (entries : List JournalEntry) : Prop :=
  entries.Pairwise fun a b => a.createdAt = b.createdAt →
    (store.localeCompare a.idempotencyKey b.idempotencyKey).isLE = true

theorem pairwise_iff_keysInOrder (hclock : ∀ reading reading', reading ≤ reading' → store.now reading ≤ store.now reading')
    (hlocale : ∀ reading reading', store.localeCompare (toISOString (store.now reading))
      (toISOString (store.now reading')) = compare (store.now reading) (store.now reading'))
    {entries : List JournalEntry} {readings : Nat} (h : store.Stamped entries readings) :
    (entries.Pairwise fun a b => (store.compareJournalEntries a b).isLE = true) ↔ KeysInOrder store entries := by
  have hstep {a b : JournalEntry} (hab : ∃ reading reading', reading ≤ reading' ∧
      a.createdAt = toISOString (store.now reading) ∧ b.createdAt = toISOString (store.now reading')) :
      (store.compareJournalEntries a b).isLE = true ↔
        (a.createdAt = b.createdAt → (store.localeCompare a.idempotencyKey b.idempotencyKey).isLE = true) := by
    obtain ⟨reading, reading', hle, ha, hb⟩ := hab
    have hcompare : store.localeCompare a.createdAt b.createdAt = compare (store.now reading) (store.now reading') := by
      rw [ha, hb, hlocale]
    have hrefl (x : JsString) : store.localeCompare x x = .eq := Std.ReflCmp.compare_self
    have hself (n : Int) : compare n n = .eq := Std.ReflCmp.compare_self
    rw [compareJournalEntries]
    rcases Int.lt_or_eq_of_le (hclock reading reading' hle) with hlt | heq
    · rw [hcompare, Int.compare_eq_lt.mpr hlt]
      refine iff_of_true rfl fun hsame => ?_
      rw [hsame, hrefl, Int.compare_eq_lt.mpr hlt] at hcompare
      cases hcompare
    · rw [hcompare, heq, hself]
      refine ⟨fun hkeys _ => hkeys, fun hkeys => hkeys ?_⟩
      rw [ha, hb, heq]
  constructor
  · intro hpairwise
    exact (hpairwise.and h.2).imp fun ⟨hle, hab⟩ => (hstep hab).mp hle
  · intro hpairwise
    exact (hpairwise.and h.2).imp fun ⟨hkeys, hab⟩ => (hstep hab).mpr hkeys

/-! ## Recovering -/

/-- What a recovery finds of the session, before it is sorted. -/
theorem Admitted.reported {sessionId : JsString} {entries : List JournalEntry} {j j' : Journal}
    (h : store.Admitted sessionId entries j) {manifestBytes : Nat} {snapshot : RecoverySnapshot}
    (hok : store.recover manifestBytes (restart j) = .ok snapshot j') :
    ∃ queued, snapshot.queued = store.sortEntries queued ∧ ofSession sessionId queued = entries := by
  obtain ⟨scanned, collected, _, _, report, hscanned, -, hcollected, -, rfl, -⟩ := recover_eq_ok hok
  refine ⟨report.queued, rfl, ?_⟩
  have hnodup : (entries.map JournalEntry.idempotencyKey).Nodup := h.values ▸ h.placed.nodup
  have hid : ∀ entry ∈ entries, entry.sessionId = sessionId := by
    intro entry hentry
    rw [← h.values] at hentry
    exact (h.placed.get?_of_mem hentry).2
  have hlines : fileLines { directory := j.directory } (journalPath sessionId) = entries.map some := h.lines
  have hvalues : (entriesOf scanned sessionId).values = entries := by
    rw [hscanned, entriesIn, hlines, recordsOf_map_some hid]
    exact entryMap_values hnodup
  rw [hcollected.queued]
  split
  · rename_i hmem
    have hrestamped := hcollected.restamped sessionId hmem
    rw [hvalues] at hrestamped
    have hsame : (entriesOf collected sessionId).values = entries := by
      have hqueued := h.queued
      generalize (entriesOf collected sessionId).values = after at hrestamped
      clear hvalues hlines hid hnodup h
      induction hrestamped with
      | nil => rfl
      | cons hfirst _ ih =>
        rcases hfirst with ⟨-, rfl⟩ | ⟨haccepted, -⟩
        · rw [ih fun entry hentry => hqueued entry (mem_cons_of_mem _ hentry)]
        · rw [hqueued _ (mem_cons_self ..)] at haccepted
          cases haccepted
    rw [hsame]
    exact filter_eq_self.mpr fun entry hentry => decide_eq_true (h.queued entry hentry)
  · rename_i hnot
    have hnone : scanned.entries.get? sessionId = none := lookupIn_eq_none.mpr hnot
    rw [entriesOf, hnone] at hvalues
    exact hvalues

/-- Every run of the replay takes the entries of the session in the order of `entries`, and submits all
that it takes unless an adapter has to be provisioned again or a command is refused. -/
def SubmittedInOrder (queued : List JournalEntry) (sessionId : JsString) (entries : List JournalEntry) : Prop :=
  ∀ parse events t, run (Multiplexer.Replay.step parse) (.start queued) events = some t →
    ∃ done, entries = done ++ t.waiting sessionId ∧ (ofSession sessionId t.submitted).Sublist done ∧
      ((∀ event ∈ events, event.reprovisions = false) → (∀ entry, parse entry = none) →
        ofSession sessionId t.submitted = done)

/-- **Replay keeps the order of admission** exactly when the requests of one millisecond were begun in
the order of their keys. -/
theorem recover_admission_order {sessionId : JsString} {directory : OrderedMap JsString JournalFile} {readings : Nat}
    {commands : List DurableWakeCommand} {manifestBytes : Nat} {snapshot : RecoverySnapshot} {j' : Journal}
    (hnew : directory.get? (journalPath sessionId) = none)
    (hid : ∀ command ∈ commands, command.sessionId = sessionId)
    (hclock : ∀ reading reading', reading ≤ reading' → store.now reading ≤ store.now reading')
    (hlocale : ∀ reading reading', store.localeCompare (toISOString (store.now reading))
      (toISOString (store.now reading')) = compare (store.now reading) (store.now reading'))
    (hok : store.recover manifestBytes (restart (store.beginAll commands { directory, readings })) =
      .ok snapshot j') :
    (ofSession sessionId snapshot.queued = store.begun commands { directory, readings } ∧
      SubmittedInOrder snapshot.queued sessionId (store.begun commands { directory, readings })) ↔
      KeysInOrder store (store.begun commands { directory, readings }) := by
  have hadmitted := (Admitted.start hnew : store.Admitted sessionId [] { directory, readings }).beginAll hid
  rw [nil_append] at hadmitted
  obtain ⟨queued, hqueued, hsession⟩ := hadmitted.reported hok
  have hsorted := store.ofSession_sortEntries sessionId queued
  rw [hsession, ← hqueued, pairwise_iff_keysInOrder hclock hlocale hadmitted.stamped] at hsorted
  constructor
  · rintro ⟨horder, -⟩
    exact hsorted.mp horder
  intro hkeys
  have horder := hsorted.mpr hkeys
  refine ⟨horder, fun parse events t hrun => ?_⟩
  rw [← horder]
  exact Multiplexer.replay_order hrun sessionId

end

theorem recover_admission_order_letters :
    let store := letterStore fun _ => 0
    let commands := [letterCommand "a" "k", letterCommand "a" "l"]
    ∃ snapshot j', store.recover 0 (restart (store.beginAll commands { directory := .empty, readings := 0 })) =
        .ok snapshot j' ∧
      ((ofSession (text "a") snapshot.queued = store.begun commands { directory := .empty, readings := 0 } ∧
        SubmittedInOrder snapshot.queued (text "a") (store.begun commands { directory := .empty, readings := 0 })) ↔
        KeysInOrder store (store.begun commands { directory := .empty, readings := 0 })) := by
  intro store commands
  obtain ⟨snapshot, hok⟩ := Called.exists_eq_ok (x := store.recover 0
    (restart (store.beginAll commands { directory := .empty, readings := 0 }))) (by decide +kernel)
  have hlocale (reading reading' : Nat) : store.localeCompare (toISOString (store.now reading))
      (toISOString (store.now reading')) = compare (store.now reading) (store.now reading') := by
    show (letterStore fun _ => 0).localeCompare (toISOString 0) (toISOString 0) = .eq
    exact Std.ReflCmp.compare_self
  refine ⟨snapshot, _, hok, recover_admission_order rfl ?_ (fun _ _ _ => Int.le_refl _) hlocale hok⟩
  intro command hcommand
  rcases mem_cons.mp hcommand with rfl | hcommand
  · rfl
  · cases mem_singleton.mp hcommand
    rfl

/-- Two requests of one millisecond change places. -/
theorem recover_reorders :
    let store := letterStore fun _ => 0
    let commands := [letterCommand "a" "l", letterCommand "a" "k"]
    (store.begun commands { directory := .empty }).map JournalEntry.idempotencyKey = [text "l", text "k"] ∧
      (store.recover 0 (restart (store.beginAll commands { directory := .empty }))).outcome.toOption.map
        (fun snapshot => snapshot.queued.map JournalEntry.idempotencyKey) = some [text "k", text "l"] := by
  decide +kernel

end FileDurabilityStore

end PiDaemon.Durability
