import PiDaemon.Durability.Frames
import PiDaemon.Lib.Runs

/-!
# Keeping the newest results

The terminal entries of a session are followed in the order in which they were finished, which the
journal does not record: it prunes them by the milliseconds of their updates and, within one, by the
order of the session.

* `Listed.step`: the order followed is that of the terminal entries that are held;
* `keepsNewest_iff`: when one prune keeps the unexpired entries that were finished last;
* `prune_keeps_newest`: the same for every run, and how long a result answers a retry.
-/

namespace PiDaemon.Durability

open Lib List

namespace FileDurabilityStore

/-! ## What is followed -/

/-- A journal and the keys of the terminal entries of a session, the one that was finished last first. -/
structure Tracked where
  journal : Journal
  finished : List JsString

/-- What a session holds when it is pruned: its entries, the order in which they were finished, the key
that the call has just finished, if it has, and the reading of the clock. -/
structure Prune where
  entries : SessionEntries
  finished : List JsString
  newly : Option JsString
  reading : Nat

variable (store : FileDurabilityStore) (sessionId : JsString)

/-- The prune of a call that moves an entry to a terminal state. -/
def markPrune (t : Tracked) (k : JsString) (state : JournalState) (patch : Patch) : Option Prune :=
  match (entriesOf t.journal sessionId).get? k with
  | none => none
  | some current =>
    if allowedTransition current.state state false then
      if store.Fits (moved current state patch (store.timestamp t.journal)) t.journal then
        some {
          entries := (entriesOf t.journal sessionId).set k (moved current state patch (store.timestamp t.journal))
          finished := k :: t.finished
          newly := some k
          reading := t.journal.readings + 1 }
      else none
    else if current.state = state then some ⟨entriesOf t.journal sessionId, t.finished, none, t.journal.readings⟩
    else none

/-- The prune of a call, when it prunes the session. -/
def pruneOf (t : Tracked) : StoreCall → Option Prune
  | .markCompleted id k result => if id = sessionId then store.markPrune sessionId t k .completed { result } else none
  | .markFailed id k error =>
    if id = sessionId then store.markPrune sessionId t k .failed { error := some error } else none
  | .pruneSession id =>
    if id = sessionId then some ⟨entriesOf t.journal sessionId, t.finished, none, t.journal.readings⟩ else none
  | _ => none

/-- The calls of turns, and prunes. -/
def StoreCall.isTurn : StoreCall → Bool
  | .beginRequest _ | .markAccepted _ _ | .markCompleted _ _ _ | .markFailed _ _ _ | .getRequest _ _
  | .pruneSession _ => true
  | _ => false

/-- A call; what it prunes is no longer followed. -/
def Tracked.step (t : Tracked) (call : StoreCall) : Tracked :=
  let journal := store.perform t.journal call
  { journal
    finished :=
      match store.pruneOf sessionId t call with
      | none => t.finished
      | some p => p.finished.filter fun k => (entriesOf journal sessionId).has k }

namespace Prune

variable (p : Prune)

/-- The retention of the entry has not elapsed. -/
def unexpired (k : JsString) : Bool := (p.entries.get? k).any (store.isFresh (store.now p.reading))

/-- Fewer than the limit are ahead of the entry: updated later, or in the same millisecond and earlier
in the session. -/
def within (k : JsString) : Bool :=
  (p.entries.get? k).any fun entry => store.place p.entries.values entry < store.maxTerminalEntries

/-- No unexpired entry is within the limit while one that was finished later is not, and no expired entry
is within the limit while an unexpired one is not. -/
def InOrder : Prop :=
  (p.finished.Pairwise fun x y =>
      p.unexpired store x = true → p.unexpired store y = true → p.within store y = true → p.within store x = true) ∧
    ((∃ x ∈ p.finished, p.within store x = true ∧ p.unexpired store x = false) →
      ∀ y ∈ p.finished, p.within store y = true ∨ p.unexpired store y = false)

instance : Decidable (p.InOrder store) := inferInstanceAs (Decidable (_ ∧ _))

end Prune

/-- When the call prunes the session, the terminal entries that remain are the unexpired ones that were
finished last, as many as the limit allows, and the one that the call has finished is among them. -/
def KeepsNewest (t : Tracked) (call : StoreCall) : Prop :=
  ∀ p ∈ store.pruneOf sessionId t call,
    (t.step store sessionId call).finished =
        (p.finished.filter (p.unexpired store)).take store.maxTerminalEntries ∧
      ∀ k ∈ p.newly, k ∈ (t.step store sessionId call).finished

/-- The condition on the state before a call. -/
def PrunesInOrder (t : Tracked) (call : StoreCall) : Prop :=
  ∀ p ∈ store.pruneOf sessionId t call, p.InOrder store ∧ ∀ k ∈ p.newly, p.unexpired store k = true

/-- The keys that are followed are those of the terminal entries. -/
def Lists (entries : SessionEntries) (finished : List JsString) : Prop :=
  finished.Nodup ∧
    ∀ k, k ∈ finished ↔ ∃ entry, entries.get? k = some entry ∧ isTerminal entry.state = true

structure Listed (t : Tracked) : Prop where
  loaded : sessionId ∈ t.journal.loadedSessions
  placed : Placed sessionId (entriesOf t.journal sessionId)
  lists : Lists (entriesOf t.journal sessionId) t.finished

variable {store sessionId}

/-! ## What a call leaves of the session -/

theorem Listed.of_beside {t : Tracked} (h : Listed sessionId t) {j' : Journal} (hbeside : Beside sessionId t.journal j') :
    Listed sessionId ⟨j', t.finished⟩ where
  loaded := hbeside.loaded h.loaded
  placed := by
    rw [hbeside.entries]
    exact h.placed
  lists := by
    rw [hbeside.entries]
    exact h.lists

variable {entries : SessionEntries} {finished : List JsString}

theorem Lists.set (h : Lists entries finished) {entry : JournalEntry} {k : JsString}
    (hentry : isTerminal entry.state = false) (hold : ∀ old, entries.get? k = some old → isTerminal old.state = false) :
    Lists (entries.set k entry) finished := by
  refine ⟨h.1, fun other => (h.2 other).trans ?_⟩
  by_cases hk : k = other
  · subst hk
    rw [OrderedMap.get?_set_self]
    refine iff_of_false ?_ ?_
    · rintro ⟨old, hget, hterminal⟩
      rw [hold old hget] at hterminal
      cases hterminal
    · rintro ⟨_, hsome, hterminal⟩
      cases hsome
      rw [hentry] at hterminal
      cases hterminal
  · rw [OrderedMap.get?_set_ne _ hk]

theorem Lists.finish (h : Lists entries finished) {current entry : JournalEntry} {k : JsString}
    (hget : entries.get? k = some current) (hcurrent : isTerminal current.state = false)
    (hentry : isTerminal entry.state = true) : Lists (entries.set k entry) (k :: finished) := by
  constructor
  · refine nodup_cons.mpr ⟨fun hmem => ?_, h.1⟩
    obtain ⟨_, hold, hterminal⟩ := (h.2 k).mp hmem
    rw [hget] at hold
    cases hold
    rw [hcurrent] at hterminal
    cases hterminal
  · intro other
    rw [mem_cons]
    by_cases hk : k = other
    · subst hk
      rw [OrderedMap.get?_set_self]
      exact iff_of_true (.inl rfl) ⟨entry, rfl, hentry⟩
    · rw [OrderedMap.get?_set_ne _ hk, h.2 other]
      constructor
      · rintro (heq | hother)
        · exact absurd heq.symm hk
        · exact hother
      · exact .inr

theorem Lists.filter {entries kept : SessionEntries} (h : Lists entries finished)
    (hsub : ∀ k entry, kept.get? k = some entry → entries.get? k = some entry) :
    Lists kept (finished.filter fun k => kept.has k) := by
  refine ⟨h.1.filter _, fun k => ?_⟩
  rw [mem_filter, h.2 k]
  constructor
  · rintro ⟨⟨entry, hget, hterminal⟩, hhas⟩
    obtain ⟨other, hother⟩ := OrderedMap.has_iff.mp hhas
    rw [hsub k other hother] at hget
    cases hget
    exact ⟨entry, hother, hterminal⟩
  · rintro ⟨entry, hget, hterminal⟩
    exact ⟨⟨entry, hsub k entry hget, hterminal⟩, OrderedMap.has_iff.mpr ⟨entry, hget⟩⟩

theorem not_terminal_of_allowed {state next : JournalState} (h : allowedTransition state next false = true) :
    isTerminal state = false := by
  cases state <;> cases next <;> simp_all [allowedTransition, isTerminal]

/-- The terminal entries are the same. -/
def Undisturbed (entries entries' : SessionEntries) : Prop :=
  ∀ k entry, entries.get? k = some entry → isTerminal entry.state = true → entries'.get? k = some entry

theorem Undisturbed.refl (entries : SessionEntries) : Undisturbed entries entries := fun _ _ h _ => h

theorem Undisturbed.set {k : JsString} {entry : JournalEntry}
    (hold : ∀ old, entries.get? k = some old → isTerminal old.state = false) :
    Undisturbed entries (entries.set k entry) := by
  intro other old hget hterminal
  rw [OrderedMap.get?_set_ne, hget]
  rintro rfl
  rw [hold old hget] at hterminal
  cases hterminal

/-- What a prune leaves, as it is followed. -/
structure PrunedBy (store : FileDurabilityStore) (sessionId : JsString) (p : Prune) (j' : Journal) : Prop where
  placed : Placed sessionId p.entries
  lists : Lists p.entries p.finished
  newly : ∀ k ∈ p.newly, p.finished.head? = some k
  loaded : sessionId ∈ j'.loadedSessions
  placed' : Placed sessionId (entriesOf j' sessionId)
  entries : ∀ k entry, (entriesOf j' sessionId).get? k = some entry ↔
    p.entries.get? k = some entry ∧ store.Stays (store.now p.reading) p.entries.values entry

section
variable [Std.TransCmp store.localeCompare]

variable (store) in
theorem prunedBy_of_prune (j : Journal) (p : Prune) (hloaded : sessionId ∈ j.loadedSessions)
    (hplaced : Placed sessionId (entriesOf j sessionId)) (hentries : p.entries = entriesOf j sessionId)
    (hlists : Lists p.entries p.finished) (hnewly : ∀ k ∈ p.newly, p.finished.head? = some k) (hreading : p.reading = j.readings) :
    ∃ removed j', store.pruneSession sessionId j = .ok removed j' ∧ PrunedBy store sessionId p j' := by
  obtain ⟨removed, j', hprune, hplaced', hkept, hloaded'⟩ := store.prune_entries hplaced
  refine ⟨removed, j', ?_, ⟨hentries ▸ hplaced, hlists, hnewly, hloaded' ▸ hloaded, hplaced', ?_⟩⟩
  · rw [pruneSession, loadSessionJournal_of_loaded hloaded, Called.bind_ok, hprune]
  intro k entry
  rw [hentries, hreading]
  exact hkept k entry

variable (store) in
theorem finish_effect {t : Tracked} (h : Listed sessionId t) (k : JsString) {state : JournalState} (patch : Patch)
    (hterminal : isTerminal state = true) :
    (∀ p, store.markPrune sessionId t k state patch = some p →
      PrunedBy store sessionId p (store.finish sessionId k state patch t.journal).journal ∧
        Undisturbed (entriesOf t.journal sessionId) p.entries) ∧
      (store.markPrune sessionId t k state patch = none →
        Beside sessionId t.journal (store.finish sessionId k state patch t.journal).journal) := by
  rw [finish, loadSessionJournal_of_loaded h.loaded, Called.bind_ok]
  cases hget : (entriesOf t.journal sessionId).get? k with
  | none =>
    have htransition : store.transition sessionId k state patch false t.journal =
        .throw .journalEntryMissing t.journal := by
      rw [transition]
      simp only [hget]
    rw [htransition, markPrune]
    simp only [hget]
    exact ⟨(fun p hp => by cases hp), fun _ => .refl _ _⟩
  | some current =>
    cases hallowed : allowedTransition current.state state false with
    | true =>
      rw [store.transition_of_allowed patch h.placed hget hallowed, markPrune]
      simp only [hget, hallowed, if_true]
      rcases store.append_cases (moved current state patch (store.timestamp t.journal)) (tick t.journal) with
        ⟨hfits, happend⟩ | ⟨hfits, code, -, happend⟩
      · have hfits : store.Fits (moved current state patch (store.timestamp t.journal)) t.journal := hfits
        rw [happend, Called.bind_ok, Called.bind_ok, if_pos hfits]
        refine ⟨fun p hp => ?_, (fun hp => by cases hp)⟩
        cases hp
        obtain ⟨hid, rfl⟩ := h.placed k current hget
        have hheld := entriesOf_held sessionId sessionId (moved current state patch (store.timestamp t.journal))
          (store.appended (moved current state patch (store.timestamp t.journal)) (tick t.journal))
        rw [if_pos rfl] at hheld
        have hplaced : Placed sessionId (entriesOf (held sessionId
            (moved current state patch (store.timestamp t.journal))
            (store.appended (moved current state patch (store.timestamp t.journal)) (tick t.journal))) sessionId) := by
          rw [hheld]
          exact h.placed.set hid
        obtain ⟨removed, j', hprune, hpruned⟩ := store.prunedBy_of_prune (held sessionId
            (moved current state patch (store.timestamp t.journal))
            (store.appended (moved current state patch (store.timestamp t.journal)) (tick t.journal)))
          ⟨(entriesOf t.journal sessionId).set current.idempotencyKey
              (moved current state patch (store.timestamp t.journal)), current.idempotencyKey :: t.finished,
              some current.idempotencyKey, t.journal.readings + 1⟩ h.loaded hplaced hheld.symm
          (h.lists.finish hget (not_terminal_of_allowed hallowed) hterminal)
          (fun _ hk => hk) rfl
        rw [hprune]
        refine ⟨hpruned, .set fun old hold => ?_⟩
        rw [hget] at hold
        cases hold
        exact not_terminal_of_allowed hallowed
      · have hfits : ¬ store.Fits (moved current state patch (store.timestamp t.journal)) t.journal := hfits
        rw [happend, if_neg hfits]
        exact ⟨(fun p hp => by cases hp), fun _ => .same rfl rfl⟩
    | false =>
      rw [transition, markPrune]
      simp only [hget, hallowed, Bool.false_eq_true, if_false]
      split
      · rw [Called.bind_ok]
        refine ⟨fun p hp => ?_, (fun hp => by cases hp)⟩
        cases hp
        obtain ⟨removed, j', hprune, hpruned⟩ := store.prunedBy_of_prune t.journal
          ⟨entriesOf t.journal sessionId, t.finished, none, t.journal.readings⟩ h.loaded h.placed rfl h.lists
          (fun k hk => by cases hk) rfl
        rw [hprune]
        exact ⟨hpruned, .refl _⟩
      · exact ⟨(fun p hp => by cases hp), fun _ => .refl _ _⟩

theorem Listed.set {t : Tracked} (h : Listed sessionId t) (entry : JournalEntry) {j' : Journal}
    (hid : entry.sessionId = sessionId) (hentry : isTerminal entry.state = false)
    (hold : ∀ old, (entriesOf t.journal sessionId).get? entry.idempotencyKey = some old → isTerminal old.state = false)
    (hentries : j'.entries = (held sessionId entry t.journal).entries)
    (hloaded : j'.loadedSessions = t.journal.loadedSessions) :
    Listed sessionId ⟨j', t.finished⟩ ∧ Undisturbed (entriesOf t.journal sessionId) (entriesOf j' sessionId) := by
  have hsame : entriesOf j' sessionId = (entriesOf t.journal sessionId).set entry.idempotencyKey entry := by
    have hheld := entriesOf_held sessionId sessionId entry t.journal
    rw [if_pos rfl] at hheld
    rw [entriesOf, hentries]
    exact hheld
  refine ⟨⟨hloaded ▸ h.loaded, ?_, ?_⟩, ?_⟩
  · rw [hsame]
    exact h.placed.set hid
  · rw [hsame]
    exact h.lists.set hentry hold
  · rw [hsame]
    exact .set hold

theorem begin_effect {t : Tracked} (h : Listed sessionId t) {command : DurableWakeCommand}
    (hid : command.sessionId = sessionId) :
    Listed sessionId ⟨(store.beginRequest command t.journal).journal, t.finished⟩ ∧
      Undisturbed (entriesOf t.journal sessionId)
        (entriesOf (store.beginRequest command t.journal).journal sessionId) := by
  subst hid
  have hload : store.loadSessionJournal command.sessionId t.journal = .ok () t.journal :=
    loadSessionJournal_of_loaded h.loaded
  cases hget : (entriesOf t.journal command.sessionId).get? command.idempotencyKey with
  | some existing =>
    rw [store.beginRequest_of_held hload hget]
    split
    · exact ⟨h, .refl _⟩
    · exact ⟨h, .refl _⟩
  | none =>
    have hold : ∀ old, (entriesOf t.journal command.sessionId).get?
        (store.queuedEntry command t.journal).idempotencyKey = some old → isTerminal old.state = false := by
      intro old hold
      rw [show (store.queuedEntry command t.journal).idempotencyKey = command.idempotencyKey from rfl, hget] at hold
      cases hold
    rw [store.beginRequest_of_new hload hget, addRequest]
    rcases store.append_cases (store.queuedEntry command t.journal) (tick t.journal) with
      ⟨-, happend⟩ | ⟨-, code, -, happend⟩
    · rw [happend, Called.bind_ok]
      have hadded {j' : Journal} (hentries : j'.entries = (held command.sessionId (store.queuedEntry command t.journal)
          t.journal).entries) (hloaded : j'.loadedSessions = t.journal.loadedSessions) :=
        h.set (store.queuedEntry command t.journal) rfl rfl hold hentries hloaded
      rw [indexTicket]
      split
      · exact hadded rfl rfl
      · exact hadded rfl rfl
    · rw [happend]
      exact ⟨h.of_beside (.same rfl rfl), .refl _⟩

theorem accept_effect {t : Tracked} (h : Listed sessionId t) (k : JsString) :
    Listed sessionId ⟨(store.markAccepted sessionId k t.journal).journal, t.finished⟩ ∧
      Undisturbed (entriesOf t.journal sessionId)
        (entriesOf (store.markAccepted sessionId k t.journal).journal sessionId) := by
  rw [markAccepted, loadSessionJournal_of_loaded h.loaded, Called.bind_ok]
  cases hget : (entriesOf t.journal sessionId).get? k with
  | none =>
    rw [transition]
    simp only [hget]
    exact ⟨h, .refl _⟩
  | some current =>
    cases hallowed : allowedTransition current.state .accepted false with
    | true =>
      rw [store.transition_of_allowed {} h.placed hget hallowed]
      rcases store.append_cases (moved current .accepted {} (store.timestamp t.journal)) (tick t.journal) with
        ⟨-, happend⟩ | ⟨-, code, -, happend⟩
      · rw [happend]
        obtain ⟨hid, rfl⟩ := h.placed k current hget
        refine h.set (moved current .accepted {} (store.timestamp t.journal)) hid rfl (fun old hold => ?_) rfl rfl
        rw [show (moved current .accepted {} (store.timestamp t.journal)).idempotencyKey = current.idempotencyKey from rfl,
          hget] at hold
        cases hold
        exact not_terminal_of_allowed hallowed
      · rw [happend]
        exact ⟨h.of_beside (.same rfl rfl), .refl _⟩
    | false =>
      rw [transition]
      simp only [hget, hallowed, Bool.false_eq_true, if_false]
      split
      · exact ⟨h, .refl _⟩
      · exact ⟨h, .refl _⟩

variable (store) in
/-- **What a call of a turn leaves**: the session is pruned as `pruneOf` says, or its terminal entries are
the same. -/
theorem call_effect {t : Tracked} (h : Listed sessionId t) {call : StoreCall} (hturn : call.isTurn = true) :
    (∀ p, store.pruneOf sessionId t call = some p →
      PrunedBy store sessionId p (store.perform t.journal call) ∧
        Undisturbed (entriesOf t.journal sessionId) p.entries) ∧
      (store.pruneOf sessionId t call = none →
        Listed sessionId ⟨store.perform t.journal call, t.finished⟩ ∧
          Undisturbed (entriesOf t.journal sessionId) (entriesOf (store.perform t.journal call) sessionId)) := by
  have hbeside {j' : Journal} (hb : Beside sessionId t.journal j') : Listed sessionId ⟨j', t.finished⟩ ∧
      Undisturbed (entriesOf t.journal sessionId) (entriesOf j' sessionId) := by
    refine ⟨h.of_beside hb, ?_⟩
    rw [hb.entries]
    exact .refl _
  have hfinish (id k : JsString) (state : JournalState) (patch : Patch) (hterminal : isTerminal state = true) :
      (∀ p, (if id = sessionId then store.markPrune sessionId t k state patch else none) = some p →
        PrunedBy store sessionId p (store.finish id k state patch t.journal).journal ∧
          Undisturbed (entriesOf t.journal sessionId) p.entries) ∧
        ((if id = sessionId then store.markPrune sessionId t k state patch else none) = none →
          Listed sessionId ⟨(store.finish id k state patch t.journal).journal, t.finished⟩ ∧
            Undisturbed (entriesOf t.journal sessionId)
              (entriesOf (store.finish id k state patch t.journal).journal sessionId)) := by
    by_cases hid : id = sessionId
    · subst hid
      rw [if_pos rfl]
      obtain ⟨hsome, hnone⟩ := store.finish_effect h k patch hterminal
      exact ⟨hsome, fun hp => hbeside (hnone hp)⟩
    · rw [if_neg hid]
      exact ⟨(fun p hp => by cases hp), fun _ => hbeside (.finish hid _ _ _ _)⟩
  cases call with
  | beginRequest command =>
    refine ⟨(fun p hp => by cases hp), fun _ => ?_⟩
    by_cases hid : command.sessionId = sessionId
    · exact begin_effect h hid
    · exact hbeside (.beginRequest hid _)
  | markAccepted id k =>
    refine ⟨(fun p hp => by cases hp), fun _ => ?_⟩
    by_cases hid : id = sessionId
    · subst hid
      exact accept_effect h k
    · exact hbeside (.markAccepted hid _ _)
  | getRequest id k =>
    refine ⟨(fun p hp => by cases hp), fun _ => ?_⟩
    by_cases hid : id = sessionId
    · subst hid
      have hget : (store.getRequest id k t.journal).journal = t.journal := by
        rw [getRequest, loadSessionJournal_of_loaded h.loaded]
        rfl
      rw [perform, hget]
      exact ⟨h, .refl _⟩
    · exact hbeside (.getRequest hid _ _)
  | markCompleted id k result => exact hfinish id k .completed { result } rfl
  | markFailed id k error => exact hfinish id k .failed { error := some error } rfl
  | pruneSession id =>
    by_cases hid : id = sessionId
    · subst hid
      rw [pruneOf, if_pos rfl]
      refine ⟨fun p hp => ?_, (fun hp => by cases hp)⟩
      cases hp
      obtain ⟨_, j', hprune, hpruned⟩ := store.prunedBy_of_prune t.journal
        ⟨entriesOf t.journal id, t.finished, none, t.journal.readings⟩ h.loaded h.placed rfl h.lists
        (fun k hk => by cases hk) rfl
      rw [perform, hprune]
      exact ⟨hpruned, .refl _⟩
    · rw [pruneOf, if_neg hid]
      exact ⟨(fun p hp => by cases hp), fun _ => hbeside (.pruneSession hid _)⟩
  | getRequestByTicket | reconcileRequest | closeSession | recover | restart => cases hturn

/-! ## One step -/

theorem Tracked.step_of_prune {t : Tracked} {call : StoreCall} {p : Prune}
    (hp : store.pruneOf sessionId t call = some p) :
    t.step store sessionId call =
      ⟨store.perform t.journal call,
        p.finished.filter fun k => (entriesOf (store.perform t.journal call) sessionId).has k⟩ := by
  rw [Tracked.step]
  simp only [hp]

theorem Tracked.step_of_none {t : Tracked} {call : StoreCall} (hp : store.pruneOf sessionId t call = none) :
    t.step store sessionId call = ⟨store.perform t.journal call, t.finished⟩ := by
  rw [Tracked.step]
  simp only [hp]

theorem markPrune_finished {t : Tracked} {k : JsString} {state : JournalState} {patch : Patch} {p : Prune}
    (hp : store.markPrune sessionId t k state patch = some p) : p.finished = p.newly.toList ++ t.finished := by
  rw [markPrune] at hp
  split at hp
  · cases hp
  split at hp
  · split at hp
    · cases hp
      rfl
    · cases hp
  · split at hp
    · cases hp
      rfl
    · cases hp

theorem pruneOf_finished {t : Tracked} {call : StoreCall} {p : Prune} (hp : store.pruneOf sessionId t call = some p) :
    p.finished = p.newly.toList ++ t.finished := by
  cases call with
  | markCompleted | markFailed =>
    rw [pruneOf] at hp
    split at hp
    · exact markPrune_finished hp
    · cases hp
  | pruneSession id =>
    rw [pruneOf] at hp
    split at hp
    · cases hp
      rfl
    · cases hp
  | _ => cases hp

variable (store) in
/-- **What is followed are the terminal entries**, after every call. -/
theorem Listed.step {t : Tracked} (h : Listed sessionId t) {call : StoreCall} (hturn : call.isTurn = true) :
    Listed sessionId (t.step store sessionId call) := by
  obtain ⟨hprune, hother⟩ := store.call_effect h hturn
  cases hp : store.pruneOf sessionId t call with
  | none =>
    rw [Tracked.step_of_none hp]
    exact (hother hp).1
  | some p =>
    rw [Tracked.step_of_prune hp]
    obtain ⟨hpruned, -⟩ := hprune p hp
    exact ⟨hpruned.loaded, hpruned.placed', hpruned.lists.filter fun k entry hget =>
      ((hpruned.entries k entry).mp hget).1⟩

theorem PrunedBy.has_iff {p : Prune} {j' : Journal} (h : PrunedBy store sessionId p j') {k : JsString}
    (hmem : k ∈ p.finished) :
    (entriesOf j' sessionId).has k = (p.within store k && p.unexpired store k) := by
  obtain ⟨entry, hget, hterminal⟩ := (h.lists.2 k).mp hmem
  rw [Prune.within, Prune.unexpired, hget, Option.any_some, Bool.eq_iff_iff, OrderedMap.has_iff,
    Bool.and_eq_true, decide_eq_true_eq]
  constructor
  · rintro ⟨other, hother⟩
    obtain ⟨hsame, hstays⟩ := (h.entries k other).mp hother
    rw [hget] at hsame
    cases hsame
    exact hstays hterminal
  · intro hkept
    exact ⟨entry, (h.entries k entry).mpr ⟨hget, fun _ => hkept⟩⟩

/-- As many of the entries as there are, up to the limit, are within it. -/
theorem PrunedBy.countP_within {p : Prune} {j' : Journal} (h : PrunedBy store sessionId p j') :
    p.finished.countP (p.within store) = min store.maxTerminalEntries p.finished.length := by
  have hnodup := h.placed.nodup
  have hsub : (p.entries.values.filter fun e => isTerminal e.state).Sublist p.entries.values := filter_sublist
  have hkeys := hnodup.sublist (hsub.map JournalEntry.idempotencyKey)
  have hperm : ((p.entries.values.filter fun e => isTerminal e.state).map JournalEntry.idempotencyKey).Perm
      p.finished := by
    refine (perm_ext_iff_of_nodup hkeys h.lists.1).mpr fun k => ?_
    rw [h.lists.2 k, mem_map]
    constructor
    · rintro ⟨entry, hentry, rfl⟩
      obtain ⟨hmem, hterminal⟩ := mem_filter.mp hentry
      exact ⟨entry, (h.placed.get?_of_mem hmem).1, hterminal⟩
    · rintro ⟨entry, hget, hterminal⟩
      exact ⟨entry, mem_filter.mpr ⟨mem_values_of_get? hget, hterminal⟩, (h.placed k entry hget).2⟩
  rw [← hperm.countP_eq, ← hperm.length_eq, countP_map, length_map]
  rw [← countP_place_lt store.updatedLater_trans store.updatedLater_total hkeys]
  refine countP_congr fun entry hentry => ?_
  have hget := (h.placed.get?_of_mem (hsub.subset hentry)).1
  rw [Function.comp_apply, Prune.within, hget]
  exact Iff.rfl

/-- **One prune keeps the entries finished last** exactly when its state is in order. -/
theorem keepsNewest_iff {t : Tracked} (h : Listed sessionId t) {call : StoreCall} (hturn : call.isTurn = true)
    (hmax : 0 < store.maxTerminalEntries) :
    store.KeepsNewest sessionId t call ↔ store.PrunesInOrder sessionId t call := by
  refine forall_congr' fun p => forall_congr' fun hp => ?_
  obtain ⟨hpruned, -⟩ := (store.call_effect h hturn).1 p hp
  have hfinished : (t.step store sessionId call).finished =
      p.finished.filter fun k => p.within store k && p.unexpired store k := by
    rw [Tracked.step_of_prune hp]
    exact filter_congr fun k hk => hpruned.has_iff hk
  rw [hfinished, filter_and_eq_take_iff hpruned.countP_within]
  refine and_congr_right fun horder => forall_congr' fun k => forall_congr' fun hk => ?_
  have hfirst := (filter_and_eq_take_iff hpruned.countP_within).mpr horder
  rw [hfirst]
  obtain ⟨_, hrest⟩ := List.head?_eq_some_iff.mp (hpruned.newly k hk)
  rw [hrest]
  constructor
  · intro hmem
    exact (mem_filter.mp (mem_of_mem_take hmem)).2
  intro hfresh
  rw [filter_cons_of_pos hfresh]
  obtain ⟨_, hn⟩ := Nat.exists_eq_succ_of_ne_zero (Nat.ne_of_gt hmax)
  rw [hn]
  exact mem_cons_self ..

/-! ## Runs -/

variable (store sessionId) in
/-- A step of a run. -/
def turn (t : Tracked) (call : StoreCall) : Option Tracked := some (t.step store sessionId call)

variable (store sessionId) in
def turns (t : Tracked) (calls : List StoreCall) : Tracked := calls.foldl (Tracked.step store sessionId) t

variable (store sessionId) in
/-- How many entries are finished. -/
def finishings : Tracked → List StoreCall → Nat
  | _, [] => 0
  | t, call :: rest =>
    (if (store.pruneOf sessionId t call).any fun p => p.newly.isSome then 1 else 0) +
      finishings (t.step store sessionId call) rest

variable (store sessionId) in
/-- The entry has not expired when the call prunes the session. -/
def StaysFresh (k : JsString) (t : Tracked) (call : StoreCall) : Prop :=
  ∀ p ∈ store.pruneOf sessionId t call, p.unexpired store k = true

variable (store) in
theorem Listed.turns {t : Tracked} (h : Listed sessionId t) {calls : List StoreCall}
    (hturn : ∀ call ∈ calls, call.isTurn = true) : Listed sessionId (store.turns sessionId t calls) := by
  induction calls generalizing t with
  | nil => exact h
  | cons call rest ih =>
    exact ih (h.step store (hturn call (mem_cons_self ..))) fun other hother =>
      hturn other (mem_cons_of_mem _ hother)

theorem meets_keepsNewest_iff {t : Tracked} (h : Listed sessionId t) {calls : List StoreCall}
    (hturn : ∀ call ∈ calls, call.isTurn = true) (hmax : 0 < store.maxTerminalEntries) :
    Meets (store.turn sessionId) (store.KeepsNewest sessionId) t calls ↔
      Meets (store.turn sessionId) (store.PrunesInOrder sessionId) t calls := by
  induction calls generalizing t with
  | nil => exact Iff.rfl
  | cons call rest ih =>
    have hfirst := hturn call (mem_cons_self ..)
    have hrest := ih (h.step store hfirst) fun other hother => hturn other (mem_cons_of_mem _ hother)
    refine and_congr (keepsNewest_iff h hfirst hmax) ?_
    constructor
    · rintro hmeets _ ⟨⟩
      exact hrest.mp (hmeets _ rfl)
    · rintro hmeets _ ⟨⟩
      exact hrest.mpr (hmeets _ rfl)

/-- One call keeps an entry that few others have been finished after. -/
theorem Listed.kept_step {t : Tracked} (h : Listed sessionId t) {call : StoreCall} (hturn : call.isTurn = true)
    (hkeeps : store.KeepsNewest sessionId t call) {k : JsString} (hfresh : store.StaysFresh sessionId k t call)
    {later older : List JsString} (hfinished : t.finished = later ++ k :: older) {entry : JournalEntry}
    (hget : (entriesOf t.journal sessionId).get? k = some entry) (hterminal : isTerminal entry.state = true)
    (hlater : later.length + (if (store.pruneOf sessionId t call).any fun p => p.newly.isSome then 1 else 0) <
      store.maxTerminalEntries) :
    (∃ later' older', (t.step store sessionId call).finished = later' ++ k :: older' ∧
      later'.length ≤
        later.length + if (store.pruneOf sessionId t call).any fun p => p.newly.isSome then 1 else 0) ∧
      (entriesOf (t.step store sessionId call).journal sessionId).get? k = some entry := by
  obtain ⟨hprune, hother⟩ := store.call_effect h hturn
  cases hp : store.pruneOf sessionId t call with
  | none =>
    rw [Tracked.step_of_none hp]
    exact ⟨⟨later, older, hfinished, Nat.le_add_right _ _⟩, (hother hp).2 k entry hget hterminal⟩
  | some p =>
    obtain ⟨hpruned, hsame⟩ := hprune p hp
    obtain ⟨hnewest, -⟩ := hkeeps p hp
    have hk := hfresh p hp
    rw [hp, Option.any_some] at hlater
    -- where the key stands when the session is pruned
    have hplace : ∃ first, p.finished = first ++ k :: older ∧
        first.length ≤ later.length + if p.newly.isSome then 1 else 0 := by
      refine ⟨p.newly.toList ++ later, ?_, ?_⟩
      · rw [pruneOf_finished hp, hfinished, append_assoc]
      cases p.newly with
      | none => simp
      | some _ => simp [Nat.add_comm]
    obtain ⟨first, hfirst, hlength⟩ := hplace
    have hcut : (p.finished.filter (p.unexpired store)).take store.maxTerminalEntries =
        first.filter (p.unexpired store) ++ k ::
          (older.filter (p.unexpired store)).take
            (store.maxTerminalEntries - (first.filter (p.unexpired store)).length - 1) := by
      have hle : (first.filter (p.unexpired store)).length ≤ first.length := length_filter_le _ _
      rw [hfirst, filter_append, filter_cons_of_pos hk, take_append,
        take_of_length_le (by omega), take_cons (by omega)]
    have hstep : (t.step store sessionId call).finished = _ := hnewest.trans hcut
    refine ⟨⟨_, _, hstep, Nat.le_trans (length_filter_le _ _) ?_⟩, ?_⟩
    · exact hlength
    have hmem : k ∈ (t.step store sessionId call).finished := by
      rw [hstep]
      exact mem_append_right _ (mem_cons_self ..)
    obtain ⟨other, hother', -⟩ := ((h.step store hturn).lists.2 k).mp hmem
    have hsame' := hsame k entry hget hterminal
    rw [((hpruned.entries k other).mp hother').1] at hsame'
    cases hsame'
    exact hother'

theorem Listed.kept {t : Tracked} (h : Listed sessionId t) {calls : List StoreCall}
    (hturn : ∀ call ∈ calls, call.isTurn = true)
    (hkeeps : Meets (store.turn sessionId) (store.KeepsNewest sessionId) t calls) {k : JsString}
    (hfresh : Meets (store.turn sessionId) (store.StaysFresh sessionId k) t calls) (later : List JsString)
    {older : List JsString} (hfinished : t.finished = later ++ k :: older) {entry : JournalEntry}
    (hget : (entriesOf t.journal sessionId).get? k = some entry) (hterminal : isTerminal entry.state = true)
    (hlater : later.length + store.finishings sessionId t calls < store.maxTerminalEntries) :
    (entriesOf (store.turns sessionId t calls).journal sessionId).get? k = some entry := by
  induction calls generalizing t later older with
  | nil => exact hget
  | cons call rest ih =>
    rw [finishings] at hlater
    have hfirst := hturn call (mem_cons_self ..)
    obtain ⟨⟨later', _, hfinished', _⟩, hget'⟩ := h.kept_step hfirst hkeeps.1 hfresh.1 hfinished hget hterminal
      (by omega)
    exact ih (h.step store hfirst) (fun other hother => hturn other (mem_cons_of_mem _ hother)) (hkeeps.2 _ rfl)
      (hfresh.2 _ rfl) later' hfinished' hget' (by omega)

variable (store) in
/-- **Pruning keeps the newest results**: a run does in every step exactly when all its prunes are in
order.  Then an entry that has just been finished answers every retry, until it expires or the limit has
been reached by entries that were finished later. -/
theorem prune_keeps_newest {t : Tracked} (h : Listed sessionId t) {calls : List StoreCall}
    (hturn : ∀ call ∈ calls, call.isTurn = true) (hmax : 0 < store.maxTerminalEntries) :
    Listed sessionId (store.turns sessionId t calls) ∧
      (Meets (store.turn sessionId) (store.KeepsNewest sessionId) t calls ↔
        Meets (store.turn sessionId) (store.PrunesInOrder sessionId) t calls) ∧
      (Meets (store.turn sessionId) (store.PrunesInOrder sessionId) t calls →
        ∀ k ∈ t.finished.head?, Meets (store.turn sessionId) (store.StaysFresh sessionId k) t calls →
          store.finishings sessionId t calls < store.maxTerminalEntries →
            ∃ entry, (entriesOf t.journal sessionId).get? k = some entry ∧
              ∀ command, command.sessionId = sessionId → command.idempotencyKey = k →
                store.requestFingerprint command = entry.fingerprint →
                store.beginRequest command (store.turns sessionId t calls).journal =
                  .ok entry (store.turns sessionId t calls).journal) := by
  have hlisted := h.turns store hturn
  refine ⟨hlisted, meets_keepsNewest_iff h hturn hmax, fun hinorder k hk hfresh hfew => ?_⟩
  obtain ⟨_, holder⟩ := List.head?_eq_some_iff.mp hk
  obtain ⟨entry, hget, hterminal⟩ := (h.lists.2 k).mp (holder ▸ mem_cons_self ..)
  have hkept := h.kept hturn ((meets_keepsNewest_iff h hturn hmax).mpr hinorder) hfresh [] holder hget
    hterminal (by simpa using hfew)
  refine ⟨entry, hget, fun command hid hkey hfingerprint => ?_⟩
  subst hid hkey
  rw [store.beginRequest_of_held (loadSessionJournal_of_loaded hlisted.loaded) hkept, if_neg]
  rw [hfingerprint]
  exact fun hne => hne rfl

end

instance (store : FileDurabilityStore) (sessionId : JsString) (t : Tracked) (call : StoreCall) :
    Decidable (store.PrunesInOrder sessionId t call) :=
  inferInstanceAs (Decidable (∀ p ∈ store.pruneOf sessionId t call,
    p.InOrder store ∧ ∀ k ∈ p.newly, p.unexpired store k = true))

theorem prune_keeps_newest_letters :
    let store := letterStore fun _ => 0
    Meets (store.turn (text "a")) (store.KeepsNewest (text "a")) ⟨{ directory := .empty, loadedSessions := [text "a"] }, []⟩
      [.beginRequest (letterCommand "a" "k"), .markAccepted (text "a") (text "k"),
        .markCompleted (text "a") (text "k") none] := by
  intro store
  have hlisted : Listed (text "a") ⟨{ directory := .empty, loadedSessions := [text "a"] }, []⟩ := by
    refine ⟨mem_cons_self .., .empty _, nodup_nil, fun k => iff_of_false (by simp) ?_⟩
    rintro ⟨_, hget, -⟩
    cases hget
  exact (store.prune_keeps_newest hlisted (by decide) (by decide)).2.1.mpr (by decide +kernel)

/-- With a limit of one, the second of two requests that are finished in one millisecond is dropped by
its own completion, and begun again by a retry. -/
theorem finished_and_pruned :
    let store := { letterStore fun _ => 0 with maxTerminalEntries := 1 }
    let j := store.performAll .empty
      [.beginRequest (letterCommand "a" "k"), .beginRequest (letterCommand "a" "l"),
        .markAccepted (text "a") (text "k"), .markAccepted (text "a") (text "l"),
        .markCompleted (text "a") (text "k") none, .markCompleted (text "a") (text "l") none]
    (entriesOf j (text "a")).keys = [text "k"] ∧
      (store.beginRequest (letterCommand "a" "l") j).outcome.toOption.map JournalEntry.state = some .queued := by
  decide +kernel

end FileDurabilityStore

end PiDaemon.Durability
