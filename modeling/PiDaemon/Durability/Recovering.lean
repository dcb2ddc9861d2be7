import PiDaemon.Durability.Pruning

/-!
# What a recovery reports

A recovery scans the files, turns the accepted entries of every session into indeterminate ones and
reports these and the queued ones, and prunes the sessions after that.

* `transition_eq_ok`: what a transition leaves;
* `collect_eq_ok`: what is reported of each session;
* `recover_eq_ok`: the stages of a recovery that returns.
-/

namespace PiDaemon.Durability

open Lib OrderedMap Called List

/-! ## Records that replace each other -/

variable {entries : SessionEntries} {records : List JournalEntry}

theorem get?_replay_of_not_mem {k : JsString} (h : k ∉ records.map JournalEntry.idempotencyKey) :
    (replay entries records).get? k = entries.get? k := by
  induction records generalizing entries with
  | nil => rfl
  | cons entry rest ih =>
    rw [map_cons, mem_cons, not_or] at h
    exact (ih h.2).trans (get?_set_ne _ (Ne.symm h.1) _)

theorem get?_replay_of_mem (hnodup : (records.map JournalEntry.idempotencyKey).Nodup) {entry : JournalEntry}
    (h : entry ∈ records) : (replay entries records).get? entry.idempotencyKey = some entry := by
  induction records generalizing entries with
  | nil => cases h
  | cons first rest ih =>
    obtain ⟨hnot, hrest⟩ := nodup_cons.mp hnodup
    rcases mem_cons.mp h with rfl | hmem
    · exact (get?_replay_of_not_mem hnot).trans (get?_set_self ..)
    · exact ih hrest hmem

theorem keys_replay (h : ∀ entry ∈ records, entries.has entry.idempotencyKey = true) :
    (replay entries records).keys = entries.keys := by
  induction records generalizing entries with
  | nil => rfl
  | cons entry rest ih =>
    obtain ⟨_, hold⟩ := has_iff.mp (h entry (mem_cons_self ..))
    have hhas : ∀ e ∈ rest, (entries.set entry.idempotencyKey entry).has e.idempotencyKey = true := by
      intro e he
      obtain ⟨v, hv⟩ := has_iff.mp (h e (mem_cons_of_mem _ he))
      rw [has_iff, get?_set]
      split
      · exact ⟨_, rfl⟩
      · exact ⟨v, hv⟩
    exact (ih hhas).trans (keys_set_of_has hold entry)

/-- Records with the keys of the entries, in their order, take their places. -/
theorem replay_values_of_keys (h : records.map JournalEntry.idempotencyKey = entries.keys) :
    (replay entries records).values = records := by
  have hnodup : (records.map JournalEntry.idempotencyKey).Nodup := by
    rw [h]
    exact entries.nodup
  have hhas : ∀ entry ∈ records, entries.has entry.idempotencyKey = true := by
    intro entry hentry
    have hkey : entry.idempotencyKey ∈ entries.keys := h ▸ mem_map_of_mem hentry
    obtain ⟨⟨_, v⟩, hmem, rfl⟩ := mem_map.mp hkey
    exact has_iff.mpr ⟨v, mem_entries.mp hmem⟩
  refine map_injective_iff.mpr (fun _ _ => Option.some.inj) ?_
  rw [values_map_some, keys_replay hhas, ← h, map_map]
  exact map_congr_left fun entry hentry => get?_replay_of_mem hnodup hentry

namespace FileDurabilityStore

/-! ## Transitions -/

/-- An entry in its next state. -/
def moved (current : JournalEntry) (state : JournalState) (patch : Patch) (updatedAt : JsString) : JournalEntry :=
  { current with state, updatedAt, result := patch.result, error := patch.error }

variable {store : FileDurabilityStore}

variable (store) in
theorem transition_of_allowed {sessionId k : JsString} {state : JournalState} (patch : Patch)
    {reconciliation : Bool} {j : Journal} {current : JournalEntry} (h : Placed sessionId (entriesOf j sessionId))
    (hget : (entriesOf j sessionId).get? k = some current)
    (hallowed : allowedTransition current.state state reconciliation = true) :
    store.transition sessionId k state patch reconciliation j =
      (store.append (moved current state patch (store.timestamp j)) (tick j)).bind fun _ j' =>
        .ok (moved current state patch (store.timestamp j))
          (held sessionId (moved current state patch (store.timestamp j)) j') := by
  obtain ⟨-, rfl⟩ := h k current hget
  rw [transition]
  simp only [hget, hallowed, if_true]
  rfl

theorem transition_eq_ok {sessionId k : JsString} {state : JournalState} {patch : Patch} {reconciliation : Bool}
    {j j' : Journal} {next : JournalEntry} (h : Placed sessionId (entriesOf j sessionId))
    (hok : store.transition sessionId k state patch reconciliation j = .ok next j') :
    ∃ current, (entriesOf j sessionId).get? k = some current ∧
      (allowedTransition current.state state reconciliation = true ∧
          next = moved current state patch (store.timestamp j) ∧ store.Fits next (tick j) ∧
          j' = held sessionId next (store.appended next (tick j)) ∨
        allowedTransition current.state state reconciliation = false ∧ current.state = state ∧ next = current ∧
          j' = j) := by
  cases hget : (entriesOf j sessionId).get? k with
  | none =>
    rw [transition] at hok
    simp only [hget] at hok
    cases congrArg Called.outcome hok
  | some current =>
    refine ⟨current, rfl, ?_⟩
    cases hallowed : allowedTransition current.state state reconciliation with
    | true =>
      rw [store.transition_of_allowed patch h hget hallowed] at hok
      obtain ⟨hfits, happend⟩ | ⟨-, _, -, happend⟩ :=
        store.append_cases (moved current state patch (store.timestamp j)) (tick j)
      · rw [happend] at hok
        cases congrArg Called.outcome hok
        exact .inl ⟨rfl, rfl, hfits, (congrArg Called.journal hok).symm⟩
      · rw [happend] at hok
        cases congrArg Called.outcome hok
    | false =>
      rw [transition] at hok
      simp only [hget, hallowed] at hok
      split at hok
      · contradiction
      split at hok
      · rename_i hstate
        cases congrArg Called.outcome hok
        exact .inr ⟨rfl, hstate, rfl, (congrArg Called.journal hok).symm⟩
      · cases congrArg Called.outcome hok

theorem Sound.replace {j : Journal} (h : store.Sound j) {sessionId k : JsString} {current : JournalEntry}
    (next : JournalEntry)
    (hget : (entriesOf j sessionId).get? k = some current) (hkey : next.idempotencyKey = current.idempotencyKey)
    (hid : next.sessionId = current.sessionId) {j' : Journal} (hentries : j'.entries = (held sessionId next j).entries)
    (hindex : j'.ticketIndex = j.ticketIndex) (hloaded : j'.loadedSessions = j.loadedSessions) : store.Sound j' := by
  obtain ⟨hsession, rfl⟩ := h.placed sessionId k current hget
  have hsame (other : JsString) : entriesOf j' other = entriesOf (held sessionId next j) other := by
    rw [entriesOf, hentries]
    rfl
  refine ⟨fun other => ?_, fun other k entry hother => ?_, fun other hhas => ?_⟩
  · rw [hsame, entriesOf_held]
    split
    · rename_i heq
      exact heq ▸ (h.placed sessionId).set (hid.trans hsession)
    · exact h.placed other
  · rw [hsame, entriesOf_held] at hother
    rw [hindex]
    split at hother
    · rename_i heq
      subst heq
      rw [get?_set] at hother
      split at hother
      · rename_i hk
        subst hk
        rw [hkey]
        exact h.indexed sessionId _ current hget
      · exact h.indexed sessionId k entry hother
    · exact h.indexed other k entry hother
  · rw [hentries] at hhas
    rw [hloaded]
    rcases has_held hhas with rfl | hold
    · exact h.loaded _ (has_iff.mpr (has_of_mem (mem_values_of_get? hget)))
    · exact h.loaded other hold

/-! ## Collecting -/

/-- What becomes of an entry when a store recovers. -/
def Restamped (store : FileDurabilityStore) (x y : JournalEntry) : Prop :=
  (x.state ≠ .accepted ∧ y = x) ∨
    (x.state = .accepted ∧ ∃ reading, y = moved x .indeterminate {} (toISOString (store.now reading)))

theorem Restamped.same {x y : JournalEntry} (h : Restamped store x y) :
    y.sessionId = x.sessionId ∧ y.idempotencyKey = x.idempotencyKey := by
  rcases h with ⟨-, rfl⟩ | ⟨-, _, rfl⟩
  · exact ⟨rfl, rfl⟩
  · exact ⟨rfl, rfl⟩

def ofState (state : JournalState) (entries : List JournalEntry) : List JournalEntry :=
  entries.filter fun entry => entry.state = state

theorem ofState_cons (state : JournalState) (entry : JournalEntry) (rest : List JournalEntry) :
    ofState state (entry :: rest) = ofState state [entry] ++ ofState state rest := by
  rw [ofState, ofState, ofState, ← filter_append, singleton_append]

theorem ofState_singleton {state : JournalState} {entry : JournalEntry} (h : entry.state = state) :
    ofState state [entry] = [entry] := by
  rw [ofState, filter_cons_of_pos (by simpa using h)]
  rfl

theorem ofState_singleton_of_ne {state : JournalState} {entry : JournalEntry} (h : entry.state ≠ state) :
    ofState state [entry] = [] := by
  rw [ofState, filter_cons_of_neg (by simpa using h)]
  rfl

/-- What the loop over the entries of a session does. -/
structure Turned (store : FileDurabilityStore) (sessionId : JsString) (entries after : List JournalEntry)
    (snapshot snapshot' : RecoverySnapshot) (j j' : Journal) : Prop where
  restamped : List.Forall₂ (Restamped store) entries after
  queued : snapshot'.queued = snapshot.queued ++ ofState .queued after
  indeterminate : snapshot'.indeterminate = snapshot.indeterminate ++ ofState .indeterminate after
  entries : entriesOf j' sessionId = replay (entriesOf j sessionId) after
  others : ∀ other, other ≠ sessionId → entriesOf j' other = entriesOf j other
  index : j'.ticketIndex = j.ticketIndex
  later : j.readings ≤ j'.readings
  loaded : j'.loadedSessions = j.loadedSessions
  scanned : j'.journalsScanned = j.journalsScanned
  sound : store.Sound j'

variable {entries : List JournalEntry}

theorem collectEntries_eq_ok {sessionId : JsString} {snapshot snapshot' : RecoverySnapshot} {j j' : Journal}
    (hsound : store.Sound j) (hnodup : (entries.map JournalEntry.idempotencyKey).Nodup)
    (hheld : ∀ entry ∈ entries, (entriesOf j sessionId).get? entry.idempotencyKey = some entry)
    (hok : store.collectEntries sessionId entries snapshot j = .ok snapshot' j') :
    ∃ after, Turned store sessionId entries after snapshot snapshot' j j' := by
  induction entries generalizing snapshot j with
  | nil =>
    cases congrArg Called.outcome hok
    cases congrArg Called.journal hok
    exact ⟨[], .nil, (append_nil _).symm, (append_nil _).symm, rfl, fun _ _ => rfl, rfl,
      Nat.le_refl _, rfl, rfl, hsound⟩
  | cons entry rest ih =>
    obtain ⟨hnot, hrest⟩ := nodup_cons.mp hnodup
    have hget := hheld entry (mem_cons_self ..)
    have hlater : ∀ e ∈ rest, (entriesOf j sessionId).get? e.idempotencyKey = some e :=
      fun e he => hheld e (mem_cons_of_mem _ he)
    -- an entry that stays as it is
    have hstay {middle : RecoverySnapshot} (hstate : entry.state ≠ .accepted)
        (hqueued : middle.queued = snapshot.queued ++ ofState .queued [entry])
        (hindeterminate : middle.indeterminate = snapshot.indeterminate ++ ofState .indeterminate [entry])
        (hrestok : store.collectEntries sessionId rest middle j = .ok snapshot' j') :
        ∃ after, Turned store sessionId (entry :: rest) after snapshot snapshot' j j' := by
      obtain ⟨after, h⟩ := ih hsound hrest hlater hrestok
      refine ⟨entry :: after, .cons (.inl ⟨hstate, rfl⟩) h.restamped, ?_, ?_, ?_, h.others, h.index, h.later,
        h.loaded, h.scanned, h.sound⟩
      · rw [h.queued, hqueued, append_assoc, ← ofState_cons]
      · rw [h.indeterminate, hindeterminate, append_assoc, ← ofState_cons]
      · rw [h.entries, replay, replay, foldl_cons, set_of_get? hget]
    cases hstate : entry.state with
    | queued =>
      simp only [collectEntries, hstate] at hok
      refine hstay (by rw [hstate]; decide) ?_ ?_ hok
      · rw [ofState_singleton hstate]
      · rw [ofState_singleton_of_ne (by rw [hstate]; decide), append_nil]
    | indeterminate =>
      simp only [collectEntries, hstate] at hok
      refine hstay (by rw [hstate]; decide) ?_ ?_ hok
      · rw [ofState_singleton_of_ne (by rw [hstate]; decide), append_nil]
      · rw [ofState_singleton hstate]
    | completed | failed =>
      simp only [collectEntries, hstate] at hok
      refine hstay (by rw [hstate]; decide) ?_ ?_ hok
      · rw [ofState_singleton_of_ne (by rw [hstate]; decide), append_nil]
      · rw [ofState_singleton_of_ne (by rw [hstate]; decide), append_nil]
    | accepted =>
      simp only [collectEntries, hstate] at hok
      obtain ⟨next, k, htransition, hrestok⟩ := bind_eq_ok.mp hok
      obtain ⟨_, hcurrent, hcase⟩ := transition_eq_ok (hsound.placed sessionId) htransition
      cases hget.symm.trans hcurrent
      rcases hcase with ⟨-, hnext, -, hk⟩ | ⟨hfalse, -⟩
      · have hkey : next.idempotencyKey = entry.idempotencyKey := by
          rw [hnext]
          rfl
        have hid : next.sessionId = entry.sessionId := by
          rw [hnext]
          rfl
        have hentries : k.entries = (held sessionId next j).entries := by
          rw [hk]
          rfl
        have hsame (other : JsString) : entriesOf k other = entriesOf (held sessionId next j) other := by
          rw [entriesOf, hentries]
          rfl
        have hsound' := hsound.replace next hget hkey hid hentries (by rw [hk]; rfl) (by rw [hk]; rfl)
        have hlater' : ∀ e ∈ rest, (entriesOf k sessionId).get? e.idempotencyKey = some e := by
          intro e he
          rw [hsame, entriesOf_held, if_pos rfl, get?_set_ne, hlater e he]
          rw [hkey]
          rintro heq
          exact hnot (heq ▸ mem_map_of_mem he)
        obtain ⟨after, h⟩ := ih hsound' hrest hlater' hrestok
        have hstate' : next.state = .indeterminate := by
          rw [hnext]
          rfl
        refine ⟨next :: after, .cons (.inr ⟨hstate, j.readings, hnext⟩) h.restamped, ?_, ?_, ?_, fun other hne => ?_,
          ?_, ?_, ?_, ?_, h.sound⟩
        · rw [h.queued, ofState_cons, ofState_singleton_of_ne (by rw [hstate']; decide)]
          rfl
        · rw [h.indeterminate, ofState_cons, ofState_singleton hstate', append_assoc]
        · rw [h.entries, hsame, entriesOf_held, if_pos rfl]
          rfl
        · rw [h.others other hne, hsame, entriesOf_held, if_neg (Ne.symm hne)]
        · rw [h.index, hk]
          rfl
        · have hlater := h.later
          rw [hk] at hlater
          exact Nat.le_of_succ_le hlater
        · rw [h.loaded, hk]
          rfl
        · rw [h.scanned, hk]
          rfl
      · rw [hstate] at hfalse
        cases hfalse

theorem Turned.values {sessionId : JsString} {after : List JournalEntry} {snapshot snapshot' : RecoverySnapshot}
    {j j' : Journal} (hsound : store.Sound j)
    (h : Turned store sessionId (entriesOf j sessionId).values after snapshot snapshot' j j') :
    (entriesOf j' sessionId).values = after := by
  have hkeys : after.map JournalEntry.idempotencyKey =
      (entriesOf j sessionId).values.map JournalEntry.idempotencyKey := by
    refine forall₂_eq_eq_eq ▸ ?_
    exact forall₂_map_left_iff.mpr (forall₂_map_right_iff.mpr (h.restamped.flip.imp fun _ _ hxy => (Restamped.same hxy).2))
  rw [h.entries]
  exact replay_values_of_keys (hkeys.trans (hsound.placed sessionId).keys)

def ofSession (sessionId : JsString) (entries : List JournalEntry) : List JournalEntry :=
  entries.filter fun entry => entry.sessionId = sessionId

theorem ofSession_append (sessionId : JsString) (entries rest : List JournalEntry) :
    ofSession sessionId (entries ++ rest) = ofSession sessionId entries ++ ofSession sessionId rest :=
  filter_append ..

theorem ofSession_of_all {sessionId : JsString} (h : ∀ entry ∈ entries, entry.sessionId = sessionId) :
    ofSession sessionId entries = entries :=
  filter_eq_self.mpr fun entry hentry => decide_eq_true (h entry hentry)

theorem ofSession_of_none {sessionId other : JsString} (hne : other ≠ sessionId)
    (h : ∀ entry ∈ entries, entry.sessionId = sessionId) : ofSession other entries = [] :=
  filter_eq_nil_iff.mpr fun entry hentry hid => hne ((of_decide_eq_true hid).symm.trans (h entry hentry))

/-- What the loop over the sessions does. -/
structure Collected (store : FileDurabilityStore) (sessions : List JsString) (snapshot snapshot' : RecoverySnapshot)
    (j j' : Journal) : Prop where
  restamped : ∀ sessionId ∈ sessions,
    List.Forall₂ (Restamped store) (entriesOf j sessionId).values (entriesOf j' sessionId).values
  others : ∀ sessionId, sessionId ∉ sessions → entriesOf j' sessionId = entriesOf j sessionId
  queued : ∀ sessionId, ofSession sessionId snapshot'.queued = ofSession sessionId snapshot.queued ++
    if sessionId ∈ sessions then ofState .queued (entriesOf j' sessionId).values else []
  indeterminate : ∀ sessionId, ofSession sessionId snapshot'.indeterminate =
    ofSession sessionId snapshot.indeterminate ++
      if sessionId ∈ sessions then ofState .indeterminate (entriesOf j' sessionId).values else []
  index : j'.ticketIndex = j.ticketIndex
  later : j.readings ≤ j'.readings
  loaded : j'.loadedSessions = j.loadedSessions
  scanned : j'.journalsScanned = j.journalsScanned
  sound : store.Sound j'

theorem mem_ofState {state : JournalState} {entry : JournalEntry} :
    entry ∈ ofState state entries ↔ entry ∈ entries ∧ entry.state = state := by
  rw [ofState, mem_filter, decide_eq_true_eq]

theorem collect_eq_ok {sessions : List JsString} {snapshot snapshot' : RecoverySnapshot} {j j' : Journal}
    (hsound : store.Sound j) (hnodup : sessions.Nodup) (hok : store.collect sessions snapshot j = .ok snapshot' j') :
    Collected store sessions snapshot snapshot' j j' := by
  induction sessions generalizing snapshot j with
  | nil =>
    cases congrArg Called.outcome hok
    cases congrArg Called.journal hok
    refine ⟨(fun _ h => by cases h), fun _ _ => rfl, fun _ => ?_, fun _ => ?_, rfl, Nat.le_refl _, rfl, rfl, hsound⟩
    · exact (append_nil _).symm
    · exact (append_nil _).symm
  | cons sessionId rest ih =>
    obtain ⟨hnot, hrest⟩ := nodup_cons.mp hnodup
    obtain ⟨_, k, hentries, hrestok⟩ := bind_eq_ok.mp hok
    have hplaced := hsound.placed sessionId
    obtain ⟨after, hturned⟩ := collectEntries_eq_ok hsound hplaced.nodup
      (fun entry hentry => (hplaced.get?_of_mem hentry).1) hentries
    have h := ih hturned.sound hrest hrestok
    have hvalues := hturned.values hsound
    have hsame : entriesOf j' sessionId = entriesOf k sessionId := h.others sessionId hnot
    have hof {state : JournalState} : ∀ entry ∈ ofState state after, entry.sessionId = sessionId := by
      intro entry hentry
      have hmem : entry ∈ (entriesOf k sessionId).values := hvalues ▸ (mem_ofState.mp hentry).1
      exact ((hturned.sound.placed sessionId).get?_of_mem hmem).2
    -- what is added to a part of the snapshot
    have hadd {state : JournalState} {part part' part'' : List JournalEntry}
        (hfirst : part' = part ++ ofState state after)
        (hlater : ∀ other, ofSession other part'' = ofSession other part' ++
          if other ∈ rest then ofState state (entriesOf j' other).values else []) (other : JsString) :
        ofSession other part'' = ofSession other part ++
          if other ∈ sessionId :: rest then ofState state (entriesOf j' other).values else [] := by
      rw [hlater, hfirst, ofSession_append, append_assoc]
      by_cases heq : other = sessionId
      · subst heq
        rw [if_neg hnot, if_pos (mem_cons_self ..), ofSession_of_all hof, hsame, hvalues, append_nil]
      · rw [ofSession_of_none heq hof, nil_append]
        simp only [mem_cons, heq, false_or]
    refine ⟨?_, ?_, hadd hturned.queued h.queued, hadd hturned.indeterminate h.indeterminate,
      h.index.trans hturned.index, Nat.le_trans hturned.later h.later, h.loaded.trans hturned.loaded, h.scanned.trans hturned.scanned, h.sound⟩
    · intro other hother
      by_cases heq : other = sessionId
      · subst heq
        rw [hsame, hvalues]
        exact hturned.restamped
      · rw [← hturned.others other heq]
        exact h.restamped other ((mem_cons.mp hother).resolve_left heq)
    · intro other hother
      rw [mem_cons, not_or] at hother
      rw [h.others other hother.2, hturned.others other hother.1]

/-! ## Pruning every session -/

/-- What pruning sessions one after another does: each at its own reading of the clock. -/
structure PrunedAll (store : FileDurabilityStore) (sessions : List JsString) (reading : JsString → Nat)
    (j j' : Journal) : Prop where
  entries : ∀ sessionId ∈ sessions, ∀ k entry, (entriesOf j' sessionId).get? k = some entry ↔
    (entriesOf j sessionId).get? k = some entry ∧
      store.Stays (store.now (reading sessionId)) (entriesOf j sessionId).values entry
  others : ∀ sessionId, sessionId ∉ sessions → entriesOf j' sessionId = entriesOf j sessionId
  dropped : ∀ sessionId ∈ sessions, ∀ k entry, (entriesOf j sessionId).get? k = some entry →
    ¬ store.Stays (store.now (reading sessionId)) (entriesOf j sessionId).values entry →
      j'.ticketIndex.get? (store.ticketOf entry) = none
  index : ∀ ticketId p, j'.ticketIndex.get? ticketId = some p → j.ticketIndex.get? ticketId = some p
  readings : ∀ sessionId ∈ sessions, j.readings ≤ reading sessionId ∧ reading sessionId < j'.readings
  later : j.readings ≤ j'.readings
  loaded : j'.loadedSessions = j.loadedSessions
  scanned : j'.journalsScanned = j.journalsScanned
  sound : store.Sound j'

theorem pruneSession_spec [Std.TransCmp store.localeCompare] (sessionId : JsString) {j : Journal}
    (h : store.Sound j) (hloaded : sessionId ∈ j.loadedSessions) :
    ∃ removed j', store.pruneSession sessionId j = .ok removed j' ∧ store.Pruned sessionId j j' := by
  rw [pruneSession, loadSessionJournal_of_loaded hloaded, Called.bind_ok]
  exact prune_spec h

theorem pruneAll_spec [Std.TransCmp store.localeCompare] {sessions : List JsString} {j : Journal}
    (hsound : store.Sound j) (hnodup : sessions.Nodup) (hloaded : ∀ sessionId ∈ sessions, sessionId ∈ j.loadedSessions) :
    ∃ reading j', store.pruneAll sessions j = .ok () j' ∧ PrunedAll store sessions reading j j' := by
  induction sessions generalizing j with
  | nil =>
    refine ⟨fun _ => 0, j, rfl, ?_⟩
    exact ⟨(fun _ h => by cases h), fun _ _ => rfl, (fun _ h => by cases h), fun _ _ h => h, (fun _ h => by cases h),
      Nat.le_refl _, rfl, rfl, hsound⟩
  | cons sessionId rest ih =>
    obtain ⟨hnot, hrest⟩ := nodup_cons.mp hnodup
    obtain ⟨_, _, hok, hk⟩ := pruneSession_spec sessionId hsound (hloaded sessionId (mem_cons_self ..))
    obtain ⟨reading, j', hokrest, h⟩ := ih hk.sound hrest fun other hother => by
      rw [hk.loaded]
      exact hloaded other (mem_cons_of_mem _ hother)
    have hlater := h.later
    have hreadings := hk.readings
    have hne {other : JsString} (hother : other ∈ rest) : other ≠ sessionId := by
      rintro rfl
      exact hnot hother
    refine ⟨fun other => if other = sessionId then j.readings else reading other, j', ?_, ?_, ?_, ?_, ?_, ?_, ?_,
      h.loaded.trans hk.loaded, h.scanned.trans hk.scanned, h.sound⟩
    · rw [pruneAll, hok, Called.bind_ok, hokrest]
    · intro other hother k' entry
      rcases mem_cons.mp hother with rfl | hmem
      · rw [h.others other hnot, if_pos rfl]
        exact hk.entries k' entry
      · rw [if_neg (hne hmem), ← hk.others other (hne hmem)]
        exact h.entries other hmem k' entry
    · intro other hother
      rw [mem_cons, not_or] at hother
      rw [h.others other hother.2, hk.others other hother.1]
    · intro other hother k' entry hget hstays
      rcases mem_cons.mp hother with rfl | hmem
      · rw [if_pos rfl] at hstays
        have hnone := hk.dropped k' entry hget hstays
        cases hindex : j'.ticketIndex.get? (store.ticketOf entry) with
        | none => rfl
        | some p =>
          rw [h.index _ p hindex] at hnone
          cases hnone
      · rw [if_neg (hne hmem), ← hk.others other (hne hmem)] at hstays
        rw [← hk.others other (hne hmem)] at hget
        exact h.dropped other hmem k' entry hget hstays
    · intro ticketId p hget
      exact hk.index ticketId p (h.index ticketId p hget)
    · intro other hother
      rcases mem_cons.mp hother with rfl | hmem
      · rw [if_pos rfl]
        omega
      rw [if_neg (hne hmem)]
      have := h.readings other hmem
      omega
    · omega

/-! ## A recovery -/

theorem claimRecoveryBytes_eq_ok {bytes : Nat} {j j' : Journal} (h : store.claimRecoveryBytes bytes j = .ok () j') :
    j' = { j with recoveryBytes := j.recoveryBytes + bytes } := by
  rw [claimRecoveryBytes] at h
  split at h
  · cases congrArg Called.outcome h
  · exact (congrArg Called.journal h).symm

/-- The entries of a session in the files of a directory. -/
def entriesIn (directory : OrderedMap JsString JournalFile) (sessionId : JsString) : SessionEntries :=
  entryMap (recordsOf sessionId (fileLines { directory } (journalPath sessionId)))

/-- **The stages of a recovery** of a store that is new. -/
theorem recover_eq_ok [Std.TransCmp store.localeCompare] {manifestBytes : Nat} {j j' : Journal}
    {snapshot : RecoverySnapshot} (hok : store.recover manifestBytes (restart j) = .ok snapshot j') :
    ∃ scanned collected sessions reading report,
      (∀ sessionId, entriesOf scanned sessionId = entriesIn j.directory sessionId) ∧
      (∀ sessionId, sessionId ∉ sessions → (entriesOf collected sessionId).values = []) ∧
      Collected store scanned.entries.keys {} report scanned collected ∧
      PrunedAll store sessions reading collected j' ∧
      snapshot = ⟨store.sortEntries report.queued, store.sortEntries report.indeterminate⟩ ∧
      store.Sound scanned ∧ scanned.journalsScanned = true ∧ scanned.readings = j.readings := by
  obtain ⟨_, _, hclaim, hrest⟩ := bind_eq_ok.mp hok
  obtain ⟨_, scanned, hscan, hrest⟩ := bind_eq_ok.mp hrest
  obtain ⟨report, collected, hcollect, hlast⟩ := bind_eq_ok.mp hrest
  cases claimRecoveryBytes_eq_ok hclaim
  obtain ⟨hentries, -, hreadings, hscanned, hsound⟩ := scanJournalFiles_eq_ok hscan rfl
  have hsound := hsound ((Sound.fresh j.directory j.readings).same rfl rfl rfl)
  have hcollected := collect_eq_ok hsound scanned.entries.nodup hcollect
  have hloaded : ∀ sessionId ∈ collected.entries.keys, sessionId ∈ collected.loadedSessions := by
    intro sessionId hmem
    obtain ⟨⟨id, v⟩, hin, rfl⟩ := mem_map.mp hmem
    exact hcollected.sound.loaded id (has_iff.mpr ⟨v, mem_entries.mp hin⟩)
  obtain ⟨reading, pruned, hprune, hpruned⟩ := pruneAll_spec hcollected.sound collected.entries.nodup hloaded
  have hprune : store.pruneAll collected.entries.keys collected = .ok () pruned := hprune
  rw [hprune] at hlast
  cases congrArg Called.journal hlast
  cases congrArg Called.outcome hlast
  refine ⟨scanned, collected, collected.entries.keys, reading, report, fun sessionId => ?_, fun sessionId hnot => ?_,
    hcollected, hpruned, rfl, hsound, hscanned, hreadings⟩
  · exact hentries sessionId
  have hnone : collected.entries.get? sessionId = none := lookupIn_eq_none.mpr hnot
  rw [entriesOf, hnone]
  rfl

end FileDurabilityStore

end PiDaemon.Durability
