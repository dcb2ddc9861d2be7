import PiDaemon.Durability.Recovering

/-!
# What calls leave of other sessions

A call on a session leaves the entries of the other sessions as they are, however it ends.

* `Beside`: the entries of a session are the same, and it stays loaded;
* `Beside.beginRequest`, `Beside.finish`, `Beside.pruneSession`: the calls on other sessions.
-/

namespace PiDaemon.Durability

open Lib

namespace FileDurabilityStore

/-- The session has the same entries, and is loaded if it was. -/
structure Beside (sessionId : JsString) (j j' : Journal) : Prop where
  entries : entriesOf j' sessionId = entriesOf j sessionId
  loaded : sessionId ∈ j.loadedSessions → sessionId ∈ j'.loadedSessions

namespace Beside

variable {store : FileDurabilityStore} {sessionId other : JsString} {j j' : Journal}

theorem refl (sessionId : JsString) (j : Journal) : Beside sessionId j j := ⟨rfl, id⟩

theorem trans {j'' : Journal} (h : Beside sessionId j j') (h' : Beside sessionId j' j'') : Beside sessionId j j'' :=
  ⟨h'.entries.trans h.entries, fun hloaded => h'.loaded (h.loaded hloaded)⟩

theorem same (hentries : j'.entries = j.entries) (hloaded : j'.loadedSessions = j.loadedSessions) :
    Beside sessionId j j' := by
  refine ⟨?_, fun h => hloaded ▸ h⟩
  rw [entriesOf, hentries]
  rfl

theorem bind {A B : Type} {x : Called A} {f : A → Journal → Called B} (hx : Beside sessionId j x.journal)
    (hf : ∀ a k, x = .ok a k → Beside sessionId k (f a k).journal) : Beside sessionId j (x.bind f).journal := by
  obtain ⟨a, hok⟩ | ⟨_, hthrow⟩ := x.eq_ok_or_throw
  · have hrest := hf a x.journal hok
    rw [hok]
    exact hx.trans hrest
  · rw [hthrow]
    exact hx

theorem setEntries (hne : other ≠ sessionId) (entries : SessionEntries) (hentries : j'.entries = j.entries.set other entries)
    (hloaded : j'.loadedSessions = j.loadedSessions) : Beside sessionId j j' := by
  refine ⟨?_, fun h => hloaded ▸ h⟩
  rw [entriesOf, hentries, entriesOf_set, if_neg hne]

theorem of_tick (h : Beside sessionId (tick j) j') : Beside sessionId j j' := ⟨h.entries, h.loaded⟩

theorem of_held (hne : other ≠ sessionId) {entry : JournalEntry} (h : Beside sessionId (held other entry j) j') :
    Beside sessionId j j' := by
  refine ⟨h.entries.trans ?_, h.loaded⟩
  rw [entriesOf_held, if_neg hne]

theorem indexTicket (entry : JournalEntry) (j : Journal) :
    Beside sessionId j (store.indexTicket entry j).journal := by
  rw [FileDurabilityStore.indexTicket]
  split
  · exact .refl _ _
  · exact .same rfl rfl

theorem loadLines (hne : other ≠ sessionId) (name : JsString) (lines : List (Option JournalEntry)) (j : Journal) :
    Beside sessionId j (store.loadLines name (some other) lines j).journal := by
  induction lines generalizing j with
  | nil => exact .refl _ _
  | cons line rest ih =>
    cases line with
    | none => exact .refl _ _
    | some value =>
      rw [FileDurabilityStore.loadLines]
      split
      · exact .refl _ _
      rename_i hname
      have hvalue : value.sessionId ≠ sessionId := by
        rintro rfl
        refine hname (.inr ?_)
        simpa using hne
      refine bind (of_held hvalue (.indexTicket value (held value.sessionId value j))) fun _ k _ => ?_
      refine trans ?_ (ih _)
      exact ⟨rfl, fun hloaded => List.mem_cons_of_mem _ hloaded⟩

theorem loadSessionJournal (hne : other ≠ sessionId) (j : Journal) :
    Beside sessionId j (store.loadSessionJournal other j).journal := by
  rw [FileDurabilityStore.loadSessionJournal]
  split
  · exact .refl _ _
  refine bind ?_ fun _ k _ => ⟨?_, fun hloaded => List.mem_cons_of_mem _ hloaded⟩
  · rw [loadJournalFile]
    split
    · exact .refl _ _
    split
    · exact .refl _ _
    · exact .loadLines hne _ _ _
  · simp only [Called.ok_journal, entriesOf]
    split
    · rfl
    · rw [OrderedMap.get?_set_ne _ hne]

theorem append (entry : JournalEntry) (j : Journal) : Beside sessionId j (store.append entry j).journal := by
  rcases store.append_cases entry j with ⟨-, happend⟩ | ⟨-, _, -, happend⟩
  · rw [happend]
    exact .same rfl rfl
  · rw [happend]
    exact .refl _ _

theorem transition (hne : other ≠ sessionId) (k : JsString) (state : JournalState) (patch : Patch)
    (reconciliation : Bool) (j : Journal) :
    Beside sessionId j (store.transition other k state patch reconciliation j).journal := by
  rw [FileDurabilityStore.transition]
  split
  · exact .refl _ _
  split
  · refine bind (of_tick (.append _ (tick j))) fun _ _ _ => ?_
    exact setEntries hne _ rfl rfl
  split
  · exact .refl _ _
  · exact .refl _ _

theorem pruneSession (hne : other ≠ sessionId) (j : Journal) :
    Beside sessionId j (store.pruneSession other j).journal := by
  refine bind (.loadSessionJournal hne j) fun _ k _ => ?_
  rw [prune_eq]
  dsimp only
  split
  · exact .same rfl rfl
  · exact setEntries hne _ rfl rfl

theorem beginRequest {command : DurableWakeCommand} (hne : command.sessionId ≠ sessionId) (j : Journal) :
    Beside sessionId j (store.beginRequest command j).journal := by
  obtain ⟨⟨⟩, hload⟩ | ⟨_, hload⟩ := (store.loadSessionJournal command.sessionId j).eq_ok_or_throw
  · have hbeside : Beside sessionId j (store.loadSessionJournal command.sessionId j).journal :=
      .loadSessionJournal hne j
    generalize (store.loadSessionJournal command.sessionId j).journal = loaded at hload hbeside
    refine hbeside.trans ?_
    cases hget : (entriesOf loaded command.sessionId).get? command.idempotencyKey with
    | some existing =>
      rw [store.beginRequest_of_held hload hget]
      split
      · exact .refl _ _
      · exact .refl _ _
    | none =>
      rw [store.beginRequest_of_new hload hget]
      refine bind (of_tick (.append _ (tick loaded))) fun _ k _ => ?_
      exact bind (of_held hne (.indexTicket _ (held command.sessionId (store.queuedEntry command loaded) k)))
        fun _ _ _ => .refl _ _
  · have hbeside : Beside sessionId j (store.loadSessionJournal command.sessionId j).journal :=
      .loadSessionJournal hne j
    rw [FileDurabilityStore.beginRequest, hload]
    exact hbeside

theorem markAccepted (hne : other ≠ sessionId) (k : JsString) (j : Journal) :
    Beside sessionId j (store.markAccepted other k j).journal :=
  bind (.loadSessionJournal hne j) fun _ _ _ => .transition hne _ _ _ _ _

theorem finish (hne : other ≠ sessionId) (k : JsString) (state : JournalState) (patch : Patch) (j : Journal) :
    Beside sessionId j (store.finish other k state patch j).journal := by
  refine bind (bind (.loadSessionJournal hne j) fun _ _ _ => .transition hne _ _ _ _ _) fun _ _ _ => ?_
  exact bind (.pruneSession hne _) fun _ _ _ => .refl _ _

theorem getRequest (hne : other ≠ sessionId) (k : JsString) (j : Journal) :
    Beside sessionId j (store.getRequest other k j).journal :=
  bind (.loadSessionJournal hne j) fun _ _ _ => .refl _ _

end Beside

end FileDurabilityStore

end PiDaemon.Durability
