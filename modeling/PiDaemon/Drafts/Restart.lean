import PiDaemon.Drafts.Evolution
import PiDaemon.Drafts.Reading

/-!
# Restarting the draft store

What a new store makes of the file: of one that the store has written, and of any file.

A write measures the compact text, while a restart measures the file, which is indented; and a
restart that finds an item to reject keeps the items before it, although it quarantines the file.

* `Loadable.markRecovered`: when the tickets of a restored store can be rewritten;
* `restart_faithful`: exactly when a restart returns what was written, and exactly when it takes
  all of a file or nothing.
-/

namespace PiDaemon.Drafts

open Lib Durability OrderedMap List

namespace DraftStore

variable {limits : DashboardSessionDraftLimits} {store : DraftStore} {id : JsString}
  {draft : StoredDraft} {ticket : StoredTicket}

/-! ## Recovering -/

/-- What recovery makes of the records that it has restored. -/
def Recovers (limits : DashboardSessionDraftLimits) (clock : Nat → Int)
    (restored store : DraftStore) : Prop :=
  ∃ marked, restored.markRecovered limits clock = .ok marked ∧
    store = marked.prune limits (clock restored.tickets.size)

/-- The ticket at `id` can be rewritten: its draft has room for one more revision. -/
def MarkableAt (store : DraftStore) (id : JsString) : Prop :=
  ∀ ticket draft, store.tickets.get? id = some ticket → crossedPromptBoundary ticket = true →
    store.drafts.get? ticket.ticket.draftId = some draft → draft.resource.revision < maxSafeInteger

theorem restartError_ok : draftError restartError = .ok () := by decide

theorem checkSendTicket_mark {now : Int} (h : storedTicket limits ticket = .ok ticket)
    (hcrossed : crossedPromptBoundary ticket = true) :
    checkSendTicket (markTicket now ticket).ticket = .ok () := by
  obtain ⟨⟨hticket, -⟩, -⟩ := (storedTicket_ok limits).mp h
  obtain ⟨hnames, hsession, -⟩ := checkSendTicket_ok.mp hticket
  rw [markTicket, if_pos hcrossed]
  refine checkSendTicket_ok.mpr ⟨hnames, hsession, fun error herror => ?_, rfl, rfl⟩
  cases herror
  exact restartError_ok

theorem checkResource_mark {now : Int} (hdraft : storedDraft limits draft = .ok draft)
    (hticket : storedTicket limits ticket = .ok ticket) :
    checkResource limits (markDraft now ticket draft).resource = .ok () ↔
      draft.resource.revision < maxSafeInteger := by
  obtain ⟨⟨hresource, -⟩, -⟩ := (storedDraft_ok limits).mp hdraft
  obtain ⟨hid, -, hspec, -⟩ := checkResource_ok.mp hresource
  obtain ⟨⟨hchecked, -⟩, -⟩ := (storedTicket_ok limits).mp hticket
  obtain ⟨⟨hticketId, -⟩, hsession, -⟩ := checkSendTicket_ok.mp hchecked
  rw [checkResource_ok]
  constructor
  · rintro ⟨-, ⟨hrevision, -⟩, -⟩
    exact hrevision
  intro hrevision
  refine ⟨hid, ⟨hrevision, Nat.succ_pos _⟩, hspec, fun m hm => ?_, rfl⟩
  cases hm
  refine checkMaterialization_ok.mpr ⟨hticketId, hsession, fun error herror => ?_⟩
  cases herror
  exact restartError_ok

theorem Loadable.mark (h : Loadable limits store) (hticket : store.tickets.get? id = some ticket)
    (hcrossed : crossedPromptBoundary ticket = true)
    (hdraft : store.drafts.get? ticket.ticket.draftId = some draft)
    (hrevision : draft.resource.revision < maxSafeInteger) (now : Int) :
    Loadable limits (store.rewrite ticket.ticket.draftId (markDraft now ticket draft) id
      (markTicket now ticket)) := by
  have hloaded := h.drafts _ _ hdraft
  have hloaded' := h.tickets _ _ hticket
  obtain ⟨⟨-, hkeys⟩, -⟩ := (storedDraft_ok limits).mp hloaded
  obtain ⟨⟨-, hrest⟩, -⟩ := (storedTicket_ok limits).mp hloaded'
  have hmarked : markTicket now ticket = { ticket with ticket := (markTicket now ticket).ticket } := by
    rw [markTicket, if_pos hcrossed]
  have hown : (markTicket now ticket).ticket.draftId = ticket.ticket.draftId ∧
      (markTicket now ticket).ticket.ticketId = ticket.ticket.ticketId := by
    rw [markTicket, if_pos hcrossed]
    exact ⟨rfl, rfl⟩
  have hwritten : Loadable limits
      (store.setDraft ticket.ticket.draftId (markDraft now ticket draft)) := by
    refine h.setDraft (h.draftId _ draft hdraft) ?_ (.inl fun hstate => by cases hstate) ?_
    · exact (storedDraft_ok limits).mpr
        ⟨⟨(checkResource_mark hloaded hloaded').mpr hrevision, hkeys⟩, rfl⟩
    · exact (size_set_of_has hdraft _).symm ▸ h.draftCount
  refine hwritten.setTicket (hown.2.trans (h.ticketId _ _ hticket)) ?_
    ⟨markDraft now ticket draft, ?_, ?_⟩ ?_ ?_
  · refine (storedTicket_ok limits).mpr ⟨⟨checkSendTicket_mark hloaded' hcrossed, ?_⟩, rfl⟩
    rw [hmarked]
    exact hrest
  · rw [hown.1]
    exact get?_set_self _ _ _
  · exact fun hstate => by cases hstate
  · exact fun other ticket' hget heq => h.single other ticket' _ ticket hget hticket
      (heq.trans hown.1)
  · exact (size_set_of_has hticket _).symm ▸ h.ticketCount

theorem markOne_quiet {now : Int} (h : ∀ ticket, store.tickets.get? id = some ticket →
    crossedPromptBoundary ticket = false) : markOne limits now store id = .ok store := by
  rw [markOne]
  split
  · rfl
  · rename_i ticket hticket
    rw [h ticket hticket, if_neg Bool.false_ne_true]

theorem Loadable.markOne_crossed (h : Loadable limits store)
    (hticket : store.tickets.get? id = some ticket)
    (hcrossed : crossedPromptBoundary ticket = true)
    (hdraft : store.drafts.get? ticket.ticket.draftId = some draft) (now : Int)
    (marked : DraftStore) :
    markOne limits now store id = .ok marked ↔ draft.resource.revision < maxSafeInteger ∧
      marked = store.rewrite ticket.ticket.draftId (markDraft now ticket draft) id
        (markTicket now ticket) := by
  have hloaded := h.tickets _ _ hticket
  rw [markOne, hticket]
  simp only [hcrossed, if_true, hdraft, then_ok, checkSendTicket_mark hloaded hcrossed, true_and,
    Except.ok.injEq, checkResource_mark (h.drafts _ _ hdraft) hloaded]
  exact and_congr_right fun _ => eq_comm

theorem Loadable.markableAt_mark (h : Loadable limits store)
    (hticket : store.tickets.get? id = some ticket) {other : JsString} (hother : other ≠ id)
    {draft' : StoredDraft} {ticket' : StoredTicket} :
    (store.rewrite ticket.ticket.draftId draft' id ticket').MarkableAt other ↔
      store.MarkableAt other := by
  have hsame : ∀ ticket'', store.tickets.get? other = some ticket'' →
      (store.rewrite ticket.ticket.draftId draft' id ticket').drafts.get? ticket''.ticket.draftId =
        store.drafts.get? ticket''.ticket.draftId := by
    intro ticket'' hget
    refine get?_set_ne _ (fun heq => hother ?_) _
    exact h.single other ticket'' id ticket hget hticket heq.symm
  have htickets : (store.rewrite ticket.ticket.draftId draft' id ticket').tickets.get? other =
      store.tickets.get? other :=
    get?_set_ne _ (Ne.symm hother) _
  constructor
  · intro hmarkable ticket'' draft'' hget hcrossed hget'
    exact hmarkable ticket'' draft'' (htickets.trans hget) hcrossed ((hsame ticket'' hget).trans hget')
  intro hmarkable ticket'' draft'' hget hcrossed hget'
  rw [htickets] at hget
  exact hmarkable ticket'' draft'' hget hcrossed ((hsame ticket'' hget).symm.trans hget')

theorem Loadable.markOne (h : Loadable limits store) (now : Int) (id : JsString) :
    ((∃ marked, DraftStore.markOne limits now store id = .ok marked) ↔ store.MarkableAt id) ∧
      ∀ marked, DraftStore.markOne limits now store id = .ok marked → Loadable limits marked ∧
        ∀ other, other ≠ id → (marked.MarkableAt other ↔ store.MarkableAt other) := by
  by_cases hquiet : ∀ ticket, store.tickets.get? id = some ticket →
      crossedPromptBoundary ticket = false
  · rw [markOne_quiet hquiet]
    refine ⟨⟨fun _ ticket draft hget hcrossed => ?_, fun _ => ⟨_, rfl⟩⟩, fun marked hmarked => ?_⟩
    · rw [hquiet ticket hget] at hcrossed
      cases hcrossed
    · cases hmarked
      exact ⟨h, fun _ _ => Iff.rfl⟩
  · simp only [not_forall, Bool.not_eq_false, exists_prop] at hquiet
    obtain ⟨ticket, hticket, hcrossed⟩ := hquiet
    obtain ⟨draft, hdraft, -⟩ := h.linked _ _ hticket
    have hmarks := h.markOne_crossed hticket hcrossed hdraft now
    refine ⟨⟨fun hexists ticket' draft' hget _ hget' => ?_, fun hmarkable => ?_⟩, fun marked hmarked => ?_⟩
    · obtain ⟨marked, hmarked⟩ := hexists
      rw [hticket] at hget
      cases hget
      rw [hdraft] at hget'
      cases hget'
      exact ((hmarks marked).mp hmarked).1
    · exact ⟨_, (hmarks _).mpr ⟨hmarkable ticket draft hticket hcrossed hdraft, rfl⟩⟩
    · obtain ⟨hrevision, rfl⟩ := (hmarks marked).mp hmarked
      exact ⟨h.mark hticket hcrossed hdraft hrevision now,
        fun other hother => h.markableAt_mark hticket hother⟩

/-- A recovery rewrites all tickets, or stops at one. -/
theorem Loadable.markRecovered (h : Loadable limits store) (clock : Nat → Int) :
    (∃ marked, store.markRecovered limits clock = .ok marked) ↔ ∀ id, store.MarkableAt id := by
  have hfold : ∀ (ids : List (JsString × Nat)) (store : DraftStore), Loadable limits store →
      (ids.map Prod.fst).Nodup →
      ((∃ marked, ids.foldlM (fun store entry =>
        DraftStore.markOne limits (clock entry.2) store entry.1) store = .ok marked) ↔
        ∀ id ∈ ids.map Prod.fst, store.MarkableAt id) := by
    intro ids
    induction ids with
    | nil => exact fun store _ _ => ⟨fun _ _ h => absurd h not_mem_nil, fun _ => ⟨store, rfl⟩⟩
    | cons entry ids ih =>
      intro store hstore hnodup
      rw [map_cons, nodup_cons] at hnodup
      obtain ⟨hone, hothers⟩ := hstore.markOne (clock entry.2) entry.1
      simp only [foldlM_cons, bind_ok, map_cons, forall_mem_cons, ← hone]
      constructor
      · rintro ⟨marked, middle, hmiddle, hmarked⟩
        obtain ⟨hloaded, hsame⟩ := hothers middle hmiddle
        have hrest := (ih middle hloaded hnodup.2).mp ⟨marked, hmarked⟩
        refine ⟨⟨middle, hmiddle⟩, fun id hid => (hsame id fun heq => ?_).mp (hrest id hid)⟩
        exact hnodup.1 (heq ▸ hid)
      · rintro ⟨⟨middle, hmiddle⟩, hrest⟩
        obtain ⟨hloaded, hsame⟩ := hothers middle hmiddle
        obtain ⟨marked, hmarked⟩ := (ih middle hloaded hnodup.2).mpr fun id hid =>
          (hsame id fun heq => hnodup.1 (heq ▸ hid)).mpr (hrest id hid)
        exact ⟨marked, middle, hmiddle, hmarked⟩
  have hkeys : store.tickets.keys.zipIdx.map Prod.fst = store.tickets.keys :=
    zipIdx_map_fst _ _
  have hnodup : (store.tickets.keys.zipIdx.map Prod.fst).Nodup := by
    rw [hkeys]
    exact store.tickets.nodup
  rw [DraftStore.markRecovered, hfold _ store h hnodup, hkeys]
  constructor
  · intro hall id ticket draft hget
    refine hall id ?_ ticket draft hget
    exact mem_map_of_mem (mem_entries.mpr hget)
  · exact fun hall id _ => hall id

/-- Everything is terminal and past its retention. -/
def AllExpired (limits : DashboardSessionDraftLimits) (store : DraftStore) (now : Int) : Prop :=
  (∀ id ticket, store.tickets.get? id = some ticket →
    ticketExpired (now - limits.terminalRetentionMs) ticket = true) ∧
    ∀ id draft, store.drafts.get? id = some draft →
      draftExpired (now - limits.terminalRetentionMs) draft = true

theorem prune_nothing {now : Int} :
    ((store.prune limits now).drafts.size = 0 ∧ (store.prune limits now).tickets.size = 0) ↔
      store.AllExpired limits now := by
  simp only [prune, size_filterValues_eq_zero, Bool.not_eq_false', AllExpired]
  constructor
  · rintro ⟨hdrafts, htickets⟩
    exact ⟨htickets, fun id draft hget => (Bool.and_eq_true _ _ ▸ hdrafts id draft hget).1⟩
  rintro ⟨htickets, hdrafts⟩
  refine ⟨fun id draft hget => ?_, htickets⟩
  rw [hdrafts id draft hget, Bool.true_and, Bool.not_eq_true', any_eq_false]
  intro ticket hmem
  obtain ⟨ticketId, hticket⟩ := mem_values.mp hmem
  rw [get?_filterValues] at hticket
  obtain ⟨hticket, hkept⟩ := Option.filter_eq_some_iff.mp hticket
  rw [htickets ticketId ticket hticket] at hkept
  cases hkept

end DraftStore

open FileDashboardSessionDraftStore in
theorem load_done {limits : DashboardSessionDraftLimits} {file : Option DraftFile}
    {clock : Nat → Int} {restored store : DraftStore} {quarantined : Bool}
    (h : restoreFile limits file = (restored, quarantined)) :
    (load limits file clock true .done).store = some store ↔
      restored.Recovers limits clock store ∧
        ((quarantined || recoversRunning restored) = true → store.stateBytes ≤ limits.maxStateBytes) := by
  rw [load, h]
  simp only [Bool.not_true, Bool.and_false, Bool.false_eq_true, if_false, DraftStore.Recovers]
  cases hmarked : restored.markRecovered limits clock with
  | error => simp
  | ok marked =>
    simp only [Except.ok.injEq]
    split
    · split
      · rename_i hlarge
        constructor
        · intro hnone
          cases hnone
        · rintro ⟨⟨_, rfl, rfl⟩, hfits⟩
          exact absurd (hfits ‹_›) (Nat.not_le.mpr hlarge)
      · rename_i hfits
        constructor
        · intro hstore
          cases hstore
          exact ⟨⟨marked, rfl, rfl⟩, fun _ => Nat.not_lt.mp hfits⟩
        · rintro ⟨⟨_, rfl, rfl⟩, -⟩
          rfl
    · rename_i hquiet
      constructor
      · intro hstore
        cases hstore
        exact ⟨⟨marked, rfl, rfl⟩, fun h => absurd h hquiet⟩
      · rintro ⟨⟨_, rfl, rfl⟩, -⟩
        rfl

/-! ## Runs of calls -/

/-- The calls whose writes succeed. -/
def DraftEvent.Written : DraftEvent → Prop
  | .create _ _ _ outcome => outcome = .done
  | .cancel _ _ _ outcome => outcome = .done
  | .submitSend _ _ _ _ outcome => outcome = .done
  | .transitionSend _ _ _ outcome => outcome = .done
  | .restart _ _ _ => False

/-- The file holds the memory, once there is something to hold. -/
structure Persisted (limits : DashboardSessionDraftLimits) (s : FileDashboardSessionDraftStore) :
    Prop where
  memory : ∃ memory, s.store = some memory ∧ DraftStore.Loadable limits memory ∧
    ((s.file = none ∧ memory = .empty) ∨ s.file = some memory.toFile)

section
variable {platform : DraftPlatform} {limits : DashboardSessionDraftLimits}
  {s : FileDashboardSessionDraftStore} {A : Type}

theorem Persisted.call
    {operation : DraftStore → Except DashboardSessionDraftError (Mutation A)}
    (h : Persisted limits s)
    (hkeeps : ∀ memory store result, DraftStore.Loadable limits memory →
      operation memory = .ok (.change store result) → DraftStore.Loadable limits store) :
    Persisted limits (s.call limits operation .done).1 := by
  obtain ⟨memory, hmemory, hloadable, _⟩ := h.memory
  rw [FileDashboardSessionDraftStore.call, hmemory]
  dsimp only
  rw [FileDashboardSessionDraftStore.commit.eq_def]
  split
  · exact h
  · exact h
  · rename_i store result hoperation
    split
    · exact h
    · exact ⟨store, rfl, hkeeps memory store result hloadable hoperation, .inr rfl⟩

theorem Persisted.step {event : DraftEvent} (h : Persisted limits s) (hwritten : event.Written) :
    Persisted limits (s.step platform limits event) := by
  cases event with
  | create =>
    cases hwritten
    exact h.call fun _ _ _ hloadable hcreate => hloadable.create hcreate
  | cancel =>
    cases hwritten
    exact h.call fun _ _ _ hloadable hcancel => hloadable.cancel hcancel
  | submitSend =>
    cases hwritten
    exact h.call fun _ _ _ hloadable hsubmit => hloadable.submitSend hsubmit
  | transitionSend =>
    cases hwritten
    exact h.call fun _ _ _ hloadable htransition => hloadable.transitionSend htransition
  | restart => exact hwritten.elim

theorem Persisted.run {events : List DraftEvent} (h : Persisted limits s)
    (hwritten : ∀ event ∈ events, event.Written) :
    Persisted limits (events.foldl (FileDashboardSessionDraftStore.step platform limits) s) := by
  induction events generalizing s with
  | nil => exact h
  | cons event events ih =>
    rw [forall_mem_cons] at hwritten
    exact ih (h.step hwritten.1) hwritten.2

theorem Persisted.initial : Persisted limits .initial :=
  ⟨.empty, rfl, .empty, .inl ⟨rfl, rfl⟩⟩

end

/-! ## Restarts -/

open FileDashboardSessionDraftStore

section
variable (limits : DashboardSessionDraftLimits) (clock : Nat → Int)

/-- A restart that keeps the file and returns the memory, rewritten and pruned. -/
def RestartsFaithfully (s : FileDashboardSessionDraftStore) (memory : DraftStore) : Prop :=
  (restoreFile limits s.file).2 = false ∧ ∃ store,
    (load limits s.file clock true .done).store = some store ∧ memory.Recovers limits clock store

/-- The file is not too large, no revision runs out, and what is rewritten fits again. -/
structure Readable (s : FileDashboardSessionDraftStore) (memory : DraftStore) : Prop where
  file : ∀ file, s.file = some file → file.bytes ≤ limits.maxStateBytes
  revisions : ∀ id, memory.MarkableAt id
  rewritten : recoversRunning memory = true → ∀ store, memory.Recovers limits clock store →
    store.stateBytes ≤ limits.maxStateBytes

/-- A restart that takes all items of the file, or quarantines it and takes none. -/
def AllOrNothing (file : DraftFile) : Prop :=
  ∀ store, (load limits (some file) clock true .done).store = some store →
    ((restoreFile limits (some file)).2 = false ∧ ∃ restored,
      DraftStore.Whole limits file.content restored ∧ restored.Recovers limits clock store) ∨
    ((restoreFile limits (some file)).2 = true ∧ store.drafts.size = 0 ∧ store.tickets.size = 0)

/-- Whatever precedes the first rejected item is expired, or recovery throws. -/
def CutExpired (file : DraftFile) : Prop :=
  file.bytes ≤ limits.maxStateBytes → ∀ cut marked : DraftStore,
    DraftStore.Cut limits file.content cut → cut.markRecovered limits clock = .ok marked →
    (marked.prune limits (clock cut.tickets.size)).stateBytes ≤ limits.maxStateBytes →
    marked.AllExpired limits (clock cut.tickets.size)

end

section
variable {limits : DashboardSessionDraftLimits} {clock : Nat → Int}

theorem restoreFile_whole {file : DraftFile} {store : DraftStore}
    (hsize : file.bytes ≤ limits.maxStateBytes) (h : DraftStore.Whole limits file.content store) :
    restoreFile limits (some file) = (store, false) := by
  rw [restoreFile, if_neg (Nat.not_lt.mpr hsize), h.restore]
  rfl

theorem Persisted.faithful_iff {s : FileDashboardSessionDraftStore} {memory : DraftStore}
    (h : Persisted limits s) (hmemory : s.store = some memory) :
    RestartsFaithfully limits clock s memory ↔ Readable limits clock s memory := by
  obtain ⟨_, hmemory', hloadable, hfile⟩ := h.memory
  rw [hmemory, Option.some.injEq] at hmemory'
  subst hmemory'
  by_cases hsize : ∀ file, s.file = some file → file.bytes ≤ limits.maxStateBytes
  · have hrestore : restoreFile limits s.file = (memory, false) := by
      rcases hfile with ⟨hnone, rfl⟩ | hsome
      · rw [hnone]
        rfl
      · rw [hsome]
        exact restoreFile_whole (hsize _ hsome) hloadable.whole
    rw [RestartsFaithfully, hrestore]
    simp only [load_done hrestore, true_and, Bool.false_or]
    constructor
    · rintro ⟨_, ⟨hrecovers, hfits⟩, -⟩
      have hmarks : ∀ id, memory.MarkableAt id := by
        obtain ⟨marked, hmarked, -⟩ := hrecovers
        exact (hloadable.markRecovered clock).mp ⟨marked, hmarked⟩
      refine ⟨hsize, hmarks, fun hrunning store' hrecovers' => ?_⟩
      obtain ⟨marked, hmarked, rfl⟩ := hrecovers
      obtain ⟨_, hmarked', rfl⟩ := hrecovers'
      rw [hmarked] at hmarked'
      cases hmarked'
      exact hfits hrunning
    · intro hreadable
      obtain ⟨marked, hmarked⟩ := (hloadable.markRecovered clock).mpr hreadable.revisions
      have hrecovers : memory.Recovers limits clock
          (marked.prune limits (clock memory.tickets.size)) := ⟨marked, hmarked, rfl⟩
      exact ⟨_, ⟨hrecovers, fun hrunning => hreadable.rewritten hrunning _ hrecovers⟩, hrecovers⟩
  · refine ⟨fun hfaithful => ?_, fun hreadable => absurd hreadable.file hsize⟩
    simp only [not_forall] at hsize
    obtain ⟨file, hsome, hlarge⟩ := hsize
    have hquarantined := hfaithful.1
    rw [hsome, restoreFile, if_pos (Nat.not_le.mp hlarge)] at hquarantined
    cases hquarantined

theorem allExpired_empty (now : Int) : DraftStore.AllExpired limits .empty now := by
  constructor <;> intro id value hget <;> cases hget

theorem allOrNothing_of_empty {file : DraftFile}
    (h : restoreFile limits (some file) = (.empty, true)) : AllOrNothing limits clock file := by
  intro store hstore
  obtain ⟨⟨_, hmarked, rfl⟩, -⟩ := (load_done h).mp hstore
  have hsame : DraftStore.markRecovered limits .empty clock = .ok .empty := rfl
  cases hmarked
  rw [h]
  exact .inr ⟨rfl, DraftStore.prune_nothing.mpr (allExpired_empty _)⟩

theorem allOrNothing_iff (file : DraftFile) :
    AllOrNothing limits clock file ↔ CutExpired limits clock file := by
  by_cases hsize : file.bytes ≤ limits.maxStateBytes
  · rcases DraftStore.restore_cases limits file.content with
      ⟨restored, hwhole⟩ | ⟨cut, hcut⟩ | hnone
    · have hrestore := restoreFile_whole hsize hwhole
      refine ⟨fun _ _ cut marked hcut => ?_, fun _ store hstore => .inl ?_⟩
      · have := hcut.restore
        rw [hwhole.restore] at this
        cases this
      · rw [hrestore]
        exact ⟨rfl, restored, hwhole, ((load_done hrestore).mp hstore).1⟩
    · have hrestore : restoreFile limits (some file) = (cut, true) := by
        rw [restoreFile, if_neg (Nat.not_lt.mpr hsize), hcut.restore]
        rfl
      have hsame : ∀ cut', DraftStore.Cut limits file.content cut' → cut' = cut := by
        intro cut' hcut'
        have hread := hcut'.restore
        rw [hcut.restore, Prod.mk.injEq] at hread
        exact hread.1.symm
      constructor
      · intro hall _ cut' marked hcut' hmarked hfits
        cases hsame cut' hcut'
        have hstore := (load_done hrestore).mpr ⟨⟨marked, hmarked, rfl⟩, fun _ => hfits⟩
        rcases hall _ hstore with ⟨hflag, -⟩ | ⟨-, hnothing⟩
        · rw [hrestore] at hflag
          cases hflag
        · exact DraftStore.prune_nothing.mp hnothing
      · intro hexpired store hstore
        obtain ⟨⟨marked, hmarked, rfl⟩, hfits⟩ := (load_done hrestore).mp hstore
        rw [hrestore]
        exact .inr ⟨rfl, DraftStore.prune_nothing.mpr
          (hexpired hsize cut marked hcut hmarked (hfits rfl))⟩
    · have hrestore : restoreFile limits (some file) = (.empty, true) := by
        rw [restoreFile, if_neg (Nat.not_lt.mpr hsize), hnone]
        rfl
      refine iff_of_true (allOrNothing_of_empty hrestore) fun _ cut marked hcut hmarked _ => ?_
      have hread := hcut.restore
      rw [hnone] at hread
      obtain ⟨rfl, -⟩ := hread
      cases hmarked
      exact allExpired_empty _
  · have hrestore : restoreFile limits (some file) = (.empty, true) :=
      if_pos (Nat.not_le.mp hsize)
    exact iff_of_true (allOrNothing_of_empty hrestore) fun hfits => absurd hfits hsize

end

/-- The store after a run of calls. -/
def afterCalls (platform : DraftPlatform) (limits : DashboardSessionDraftLimits)
    (events : List DraftEvent) : FileDashboardSessionDraftStore :=
  events.foldl (step platform limits) .initial

/-- **Restarting the draft store.**  After a run of calls whose writes succeed a restart returns
the memory, rewritten and pruned, exactly when the file is readable; and a restart from any file
takes all of it or nothing exactly when what precedes the first rejected item is expired. -/
theorem restart_faithful (platform : DraftPlatform) (limits : DashboardSessionDraftLimits) :
    (∀ events memory clock, (∀ event ∈ events, DraftEvent.Written event) →
      (afterCalls platform limits events).store = some memory →
      (RestartsFaithfully limits clock (afterCalls platform limits events) memory ↔
        Readable limits clock (afterCalls platform limits events) memory)) ∧
    ∀ file clock, AllOrNothing limits clock file ↔ CutExpired limits clock file :=
  ⟨fun _ _ _ hwritten hmemory => (Persisted.initial.run hwritten).faithful_iff hmemory,
    fun file _ => allOrNothing_iff file⟩

/-! ## Restarts of small stores -/

def created : List DraftEvent := sentAndCancelled.take 1

def createdStore (limits : DashboardSessionDraftLimits) : FileDashboardSessionDraftStore :=
  afterCalls plainPlatform limits created

theorem created_written : ∀ event ∈ created, DraftEvent.Written event := by
  intro event hmem
  rw [created, sentAndCancelled, take_succ_cons, take_zero, mem_singleton] at hmem
  rw [hmem]
  rfl

theorem restart_faithful_created : ∃ memory,
    (createdStore DEFAULT_DASHBOARD_SESSION_DRAFT_LIMITS).store = some memory ∧
      memory.drafts.size = 1 ∧
      RestartsFaithfully DEFAULT_DASHBOARD_SESSION_DRAFT_LIMITS (fun _ => 0)
        (createdStore DEFAULT_DASHBOARD_SESSION_DRAFT_LIMITS) memory := by
  have hstore : (createdStore DEFAULT_DASHBOARD_SESSION_DRAFT_LIMITS).store.map (fun memory =>
      (memory.drafts.size, memory.tickets.size, recoversRunning memory)) = some (1, 0, false) := by
    decide +kernel
  have hfile : (createdStore DEFAULT_DASHBOARD_SESSION_DRAFT_LIMITS).file.map (·.bytes) =
      some 942 := by
    decide +kernel
  obtain ⟨memory, hmemory, hsizes⟩ := Option.map_eq_some_iff.mp hstore
  simp only [Prod.mk.injEq] at hsizes
  obtain ⟨hdrafts, htickets, hrunning⟩ := hsizes
  refine ⟨memory, hmemory, hdrafts, ((restart_faithful plainPlatform _).1 created memory _
    created_written hmemory).mpr ⟨fun file hsome => ?_, fun id ticket draft hget => ?_, ?_⟩⟩
  · rw [createdStore] at hfile
    rw [hsome, Option.map_some, Option.some.injEq] at hfile
    rw [hfile]
    decide
  · rw [get?_of_size_eq_zero htickets] at hget
    cases hget
  · rw [hrunning]
    intro h
    cases h

/-- A limit between the size of the compact text and the size of the file. -/
def tightLimits : DashboardSessionDraftLimits :=
  { DEFAULT_DASHBOARD_SESSION_DRAFT_LIMITS with maxStateBytes := 800 }

def createdMemory (limits : DashboardSessionDraftLimits) : DraftStore :=
  (createdStore limits).store.getD .empty

/-- A file with a draft and an item that is not one. -/
def damagedFile : DraftFile where
  bytes := 1000
  content := .envelope
    ((createdMemory DEFAULT_DASHBOARD_SESSION_DRAFT_LIMITS).drafts.values.map some ++ [none]) []

/-- A store that wrote its draft finds none after a restart, and a file that is quarantined leaves
one of its drafts in the store. -/
theorem drafts_restart_quarantined :
    (∀ event ∈ created, event.Written) ∧ (createdMemory tightLimits).drafts.size = 1 ∧
      (restoreFile tightLimits (createdStore tightLimits).file).2 = true ∧
      ((load tightLimits (createdStore tightLimits).file (fun _ => 0) true .done).store.map
        (·.drafts.size)) = some 0 ∧
      ¬RestartsFaithfully tightLimits (fun _ => 0) (createdStore tightLimits)
        (createdMemory tightLimits) ∧
      (restoreFile DEFAULT_DASHBOARD_SESSION_DRAFT_LIMITS (some damagedFile)).2 = true ∧
      ((load DEFAULT_DASHBOARD_SESSION_DRAFT_LIMITS (some damagedFile) (fun _ => 0) true
        .done).store.map (·.drafts.size)) = some 1 ∧
      ¬AllOrNothing DEFAULT_DASHBOARD_SESSION_DRAFT_LIMITS (fun _ => 0) damagedFile := by
  have hlarge : (restoreFile tightLimits (createdStore tightLimits).file).2 = true := by
    decide +kernel
  have hdamaged : (restoreFile DEFAULT_DASHBOARD_SESSION_DRAFT_LIMITS (some damagedFile)).2 =
      true := by
    decide +kernel
  have hkept : ((load DEFAULT_DASHBOARD_SESSION_DRAFT_LIMITS (some damagedFile) (fun _ => 0) true
      .done).store.map (·.drafts.size)) = some 1 := by
    decide +kernel
  refine ⟨created_written, by decide +kernel, hlarge, by decide +kernel, fun hfaithful => ?_,
    hdamaged, hkept, fun hall => ?_⟩
  · have hflag := hfaithful.1
    rw [hlarge] at hflag
    cases hflag
  · obtain ⟨store, hstore, hsize⟩ := Option.map_eq_some_iff.mp hkept
    rcases hall store hstore with ⟨hflag, -⟩ | ⟨-, hnone, -⟩
    · rw [hdamaged] at hflag
      cases hflag
    · rw [hsize] at hnone
      cases hnone

end PiDaemon.Drafts
