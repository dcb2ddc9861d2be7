import PiDaemon.Drafts.Agreement

/-!
# Drafts and tickets along a run

In every memory of a run, restarts and failed writes included, drafts and tickets agree, and from
one memory to the next they only advance.

The file may be ahead of the memory: a write that fails may have replaced it.  It then holds what
one operation makes of the memory, so a restart from it is an advance too (`Holds`).

* `Restarts.load`: a restart restores records of the file and settles them;
* `drafts_agree`: the two hold along every run in which no random ticket id comes twice.
-/

namespace PiDaemon.Drafts

open Lib Durability List OrderedMap

namespace DraftStore

variable {platform : DraftPlatform} {limits : DashboardSessionDraftLimits}
  {store store' sub : DraftStore} {used : List JsString}

/-! ## Restarts -/

theorem DraftSettles.trans {a b c : StoredDraft} (h : DraftSettles a b) (h' : DraftSettles b c) :
    DraftSettles a c := by
  rcases h with rfl | ⟨hstate, hrevision⟩
  · exact h'
  rcases h' with rfl | ⟨-, hrevision'⟩
  · exact .inr ⟨hstate, hrevision⟩
  · exact .inr ⟨hstate, Nat.lt_trans hrevision hrevision'⟩

theorem Settles.trans {a b c : DraftStore} (h : Settles a b) (h' : Settles b c) : Settles a c := by
  refine ⟨fun id draft hget => ?_, fun id ticket hget => ?_⟩
  · obtain ⟨middle, hmiddle, hsettles⟩ := h'.drafts id draft hget
    obtain ⟨first, hfirst, hsettles'⟩ := h.drafts id middle hmiddle
    exact ⟨first, hfirst, DraftSettles.trans hsettles' hsettles⟩
  · obtain ⟨middle, hmiddle, hadvances⟩ := h'.tickets id ticket hget
    obtain ⟨first, hfirst, hadvances'⟩ := h.tickets id middle hmiddle
    exact ⟨first, hfirst, hadvances'.trans hadvances⟩

/-- What a restart makes of the records of a file. -/
structure Restarts (used : List JsString) (before after : DraftStore) : Prop where
  agrees : after.Agrees
  named : Named used after
  settles : Settles before after

theorem Restarts.within (hagrees : store.Agrees) (hnamed : Named used store)
    (h : Within sub store) : Restarts used store sub :=
  ⟨hagrees.within h, hnamed.within h, h.settles⟩

theorem Restarts.trans {a b c : DraftStore} (h : Restarts used a b) (h' : Restarts used b c) :
    Restarts used a c :=
  ⟨h'.agrees, h'.named, h.settles.trans h'.settles⟩

theorem crossed_terminal {ticket : StoredTicket} (h : crossedPromptBoundary ticket = true) :
    ticket.ticket.state.isTerminal = false := by
  simp only [crossedPromptBoundary, Bool.and_eq_true, decide_eq_true_eq] at h
  rw [h.1]
  rfl

theorem Restarts.markOne {now : Int} {ticketId : JsString} (hagrees : store.Agrees)
    (hnamed : Named used store) (h : markOne limits now store ticketId = .ok store') :
    Restarts used store store' := by
  have hsame := Restarts.within hagrees hnamed (Within.refl hagrees)
  rw [DraftStore.markOne] at h
  split at h
  · cases h
    exact hsame
  rename_i stored hstored
  split at h
  · rename_i hcrossed
    obtain ⟨draft, hdraft, hjoined⟩ := hagrees.joined _ _ hstored
    simp only [hdraft, bind_ok, Except.ok.injEq] at h
    obtain ⟨-, -, -, -, rfl⟩ := h
    have hrunning := crossed_terminal hcrossed
    have hticketId := hagrees.ticketId _ _ hstored
    have hmarked : (markTicket now stored).ticket.ticketId = ticketId ∧
        (markTicket now stored).ticket.draftId = stored.ticket.draftId ∧
        (markTicket now stored).ticket.state = .indeterminate ∧
        (markTicket now stored).phase = stored.phase := by
      rw [markTicket, if_pos hcrossed]
      exact ⟨hticketId, rfl, rfl, rfl⟩
    have hjoined' : Joined (markDraft now stored draft) (markTicket now stored) := by
      refine ⟨⟨_, rfl, ?_, hmarked.2.2.1.symm⟩, ?_⟩
      · rw [hmarked.1]
        exact hticketId
      · rw [hmarked.2.2.1]
        exact .inl rfl
    have hdraftId : (markDraft now stored draft).resource.draftId = stored.ticket.draftId :=
      hagrees.draftId _ draft hdraft
    refine ⟨hagrees.rewrite (hagrees.alone hstored rfl) hdraftId hmarked.1 hmarked.2.1 hjoined', hnamed.rewrite hmarked.1 hjoined' (hnamed.tickets _ _ hstored),
      fun id draft' hget => ?_, fun id ticket' hget => ?_⟩
    all_goals simp only [get?_set] at hget
    · split at hget
      · rename_i heq
        cases hget
        exact ⟨draft, heq ▸ hdraft,
          .inr ⟨hjoined.image.materializing hrunning, Nat.lt_succ_self _⟩⟩
      · exact ⟨draft', hget, .inl rfl⟩
    · split at hget
      · rename_i heq
        cases hget
        refine ⟨stored, heq ▸ hstored, hmarked.2.2.2 ▸ Nat.le_refl _, fun hterminal => ?_⟩
        rw [hrunning] at hterminal
        cases hterminal
      · exact ⟨ticket', hget, .refl ticket'⟩
  · cases h
    exact hsame

theorem Restarts.markRecovered {clock : Nat → Int} (hagrees : store.Agrees)
    (hnamed : Named used store) (h : store.markRecovered limits clock = .ok store') :
    Restarts used store store' := by
  rw [DraftStore.markRecovered] at h
  generalize store.tickets.keys.zipIdx = entries at h
  induction entries generalizing store with
  | nil =>
    cases h
    exact .within hagrees hnamed (.refl hagrees)
  | cons entry entries ih =>
    rw [foldlM_cons, bind_ok] at h
    obtain ⟨_, hmiddle, h⟩ := h
    have hmarks := Restarts.markOne hagrees hnamed hmiddle
    exact hmarks.trans (ih hmarks.agrees hmarks.named h)

/-! ## Restoring a file -/

theorem restoreDrafts_tickets (values : List (Option StoredDraft)) (store : DraftStore) :
    (restoreDrafts limits store values).1.tickets = store.tickets := by
  induction values generalizing store with
  | nil => rfl
  | cons value values ih =>
    cases value with
    | none => rfl
    | some =>
      rw [restoreDrafts]
      split
      · rfl
      split
      · rfl
      · exact ih _

theorem restoreDrafts_drafts (values : List (Option StoredDraft)) (store : DraftStore)
    {id : JsString} {draft : StoredDraft}
    (hget : (restoreDrafts limits store values).1.drafts.get? id = some draft) :
    store.drafts.get? id = some draft ∨ (some draft ∈ values ∧ draft.resource.draftId = id) := by
  induction values generalizing store with
  | nil => exact .inl hget
  | cons value values ih =>
    cases value with
    | none => exact .inl hget
    | some =>
      rw [restoreDrafts] at hget
      split at hget
      · exact .inl hget
      rename_i record hrecord
      cases (storedDraft_ok limits |>.mp hrecord).2
      split at hget
      · exact .inl hget
      rcases ih _ hget with h | ⟨hmem, hid⟩
      · rw [get?_set] at h
        split at h
        · rename_i heq
          cases h
          exact .inr ⟨mem_cons_self, heq⟩
        · exact .inl h
      · exact .inr ⟨mem_cons_of_mem _ hmem, hid⟩

theorem restoreTickets_drafts (values : List (Option StoredTicket)) (store : DraftStore) :
    (restoreTickets limits store values).1.drafts = store.drafts := by
  induction values generalizing store with
  | nil => rfl
  | cons value values ih =>
    cases value with
    | none => rfl
    | some =>
      rw [restoreTickets]
      split
      · rfl
      split
      · rfl
      split
      · rfl
      · exact ih _

theorem restoreTickets_tickets (values : List (Option StoredTicket)) (store : DraftStore)
    {id : JsString} {ticket : StoredTicket}
    (hget : (restoreTickets limits store values).1.tickets.get? id = some ticket) :
    store.tickets.get? id = some ticket ∨ (some ticket ∈ values ∧ ticket.ticket.ticketId = id ∧
      store.drafts.has ticket.ticket.draftId = true) := by
  induction values generalizing store with
  | nil => exact .inl hget
  | cons value values ih =>
    cases value with
    | none => exact .inl hget
    | some =>
      rw [restoreTickets] at hget
      split at hget
      · exact .inl hget
      rename_i record hrecord
      cases (storedTicket_ok limits |>.mp hrecord).2
      split at hget
      · exact .inl hget
      split at hget
      · exact .inl hget
      rename_i hhas
      rw [Bool.not_eq_true, Bool.not_eq_false'] at hhas
      rcases ih _ hget with h | ⟨hmem, hid, hdraft⟩
      · rw [get?_set] at h
        split at h
        · rename_i heq
          cases h
          exact .inr ⟨mem_cons_self, heq, hhas⟩
        · exact .inl h
      · exact .inr ⟨mem_cons_of_mem _ hmem, hid, hdraft⟩

theorem mem_values_draft (hagrees : store.Agrees) {draft : StoredDraft}
    (hmem : some draft ∈ store.drafts.values.map some) :
    store.drafts.get? draft.resource.draftId = some draft := by
  rw [mem_map] at hmem
  obtain ⟨_, hmem, heq⟩ := hmem
  cases heq
  obtain ⟨id, hget⟩ := mem_values.mp hmem
  rw [hagrees.draftId id draft hget]
  exact hget

theorem mem_values_ticket (hagrees : store.Agrees) {ticket : StoredTicket}
    (hmem : some ticket ∈ store.tickets.values.map some) :
    store.tickets.get? ticket.ticket.ticketId = some ticket := by
  rw [mem_map] at hmem
  obtain ⟨_, hmem, heq⟩ := hmem
  cases heq
  obtain ⟨id, hget⟩ := mem_values.mp hmem
  rw [hagrees.ticketId id ticket hget]
  exact hget

theorem Within.empty (store : DraftStore) : Within empty store := by
  constructor <;> intro id value hget <;> cases hget

theorem Within.trans {a b c : DraftStore} (h : Within a b) (h' : Within b c) : Within a c :=
  ⟨fun id draft hget => h'.drafts id draft (h.drafts id draft hget),
    fun id ticket hget => h'.tickets id ticket (h.tickets id ticket hget), h.kept⟩

theorem restore_within (hagrees : store.Agrees) :
    Within (restore limits store.toFile.content).1 store := by
  have hdrafts : Within (restoreDrafts limits .empty (store.drafts.values.map some)).1 store := by
    have hnone : (restoreDrafts limits .empty (store.drafts.values.map some)).1.tickets = .empty :=
      restoreDrafts_tickets _ _
    refine ⟨fun id draft hget => ?_, fun id ticket hget => ?_, fun id ticket hget => ?_⟩
    · rcases restoreDrafts_drafts _ _ hget with h | ⟨hmem, rfl⟩
      · cases h
      · exact mem_values_draft hagrees hmem
    all_goals
      rw [hnone] at hget
      cases hget
  have htickets : Within (restoreTickets limits
      (restoreDrafts limits .empty (store.drafts.values.map some)).1
      (store.tickets.values.map some)).1 store := by
    refine ⟨fun id draft hget => ?_, fun id ticket hget => ?_, fun id ticket hget => ?_⟩
    · rw [restoreTickets_drafts] at hget
      exact hdrafts.drafts id draft hget
    all_goals rcases restoreTickets_tickets _ _ hget with h | ⟨hmem, rfl, hdraft⟩
    · exact hdrafts.tickets id ticket h
    · exact mem_values_ticket hagrees hmem
    all_goals rw [restoreTickets_drafts]
    · exact hdrafts.kept id ticket h
    · exact hdraft
  simp only [toFile, restore]
  split
  · exact .empty store
  split
  · rename_i h
    rwa [h] at hdrafts
  · rename_i h
    rwa [h] at htickets

theorem markRecovered_eq {clock : Nat → Int}
    (h : FileDashboardSessionDraftStore.recoversRunning store = false) :
    store.markRecovered limits clock = .ok store := by
  have hone : ∀ now id, markOne limits now store id = .ok store := by
    intro now id
    rw [markOne]
    split
    · rfl
    rename_i stored hstored
    rw [FileDashboardSessionDraftStore.recoversRunning, any_eq_false] at h
    rw [if_neg (h stored (mem_values.mpr ⟨id, hstored⟩))]
  rw [markRecovered]
  generalize store.tickets.keys.zipIdx = entries
  induction entries with
  | nil => rfl
  | cons entry entries ih =>
    rw [foldlM_cons, hone]
    exact ih

end DraftStore

/-! ## Runs -/

open DraftStore

/-- The random part of the id of a new ticket. -/
def DraftEvent.randomTicketId : DraftEvent → Option JsString
  | .submitSend _ _ _ randomId _ => some randomId
  | _ => none

/-- The memories of a run, one for each step that leaves one. -/
def memories (platform : DraftPlatform) (limits : DashboardSessionDraftLimits)
    (s : FileDashboardSessionDraftStore) : List DraftEvent → List DraftStore
  | [] => []
  | event :: events =>
    (s.step platform limits event).store.toList ++
      memories platform limits (s.step platform limits event) events

/-- The file holds nothing, or an advance of the memory. -/
def Holds (used : List JsString) (memory : DraftStore) (file : Option DraftFile) : Prop :=
  ∀ content, file = some content → ∃ store : DraftStore, content = store.toFile ∧ store.Agrees ∧
    Named used store ∧ Advances memory store

structure RunInv (used : List JsString) (memory : DraftStore)
    (s : FileDashboardSessionDraftStore) : Prop where
  store : ∀ store, s.store = some store → store = memory
  agrees : memory.Agrees
  named : Named used memory
  file : Holds used memory s.file

/-- What a step leaves: a memory that follows `memory`, or none. -/
structure Follows (used : List JsString) (memory : DraftStore)
    (s : FileDashboardSessionDraftStore) : Prop where
  kept : ∀ store, s.store = some store → RunInv used store s ∧ Advances memory store
  gone : s.store = none → RunInv used memory s

section
variable {platform : DraftPlatform} {limits : DashboardSessionDraftLimits} {used : List JsString}
  {memory : DraftStore} {s : FileDashboardSessionDraftStore} {A : Type}

theorem Holds.none : Holds used memory none := by
  intro content h
  cases h

theorem Holds.toFile {store : DraftStore} (hagrees : store.Agrees) (hnamed : Named used store)
    (hadvances : Advances memory store) : Holds used memory (some store.toFile) := by
  intro content h
  cases h
  exact ⟨store, rfl, hagrees, hnamed, hadvances⟩

theorem RunInv.follows (h : RunInv used memory s) : Follows used memory s := by
  refine ⟨fun store hstore => ?_, fun _ => h⟩
  obtain rfl := h.store store hstore
  exact ⟨h, .refl store⟩

variable {file : Option DraftFile}

theorem Follows.ofNone (hagrees : memory.Agrees) (hnamed : Named used memory) (hholds : Holds used memory file) :
    Follows used memory ⟨none, file⟩ := by
  refine ⟨fun _ h => ?_, fun _ => ⟨fun _ h => ?_, hagrees, hnamed, hholds⟩⟩ <;> cases h

theorem RunInv.mono {used' : List JsString} (h : RunInv used memory s) (hsub : used ⊆ used') :
    RunInv used' memory s := by
  refine ⟨h.store, h.agrees, h.named.mono hsub, fun content hfile => ?_⟩
  obtain ⟨store, heq, hagrees, hnamed, hadvances⟩ := h.file content hfile
  exact ⟨store, heq, hagrees, hnamed.mono hsub, hadvances⟩

theorem Follows.ofSome {store : DraftStore} (hagrees : store.Agrees) (hnamed : Named used store)
    (hadvances : Advances memory store) (hholds : Holds used store file) :
    Follows used memory ⟨some store, file⟩ := by
  refine ⟨fun store' h => ?_, fun h => by cases h⟩
  cases h
  exact ⟨⟨fun _ h => (Option.some.inj h).symm, hagrees, hnamed, hholds⟩, hadvances⟩

theorem RunInv.call {operation : DraftStore → Except DashboardSessionDraftError (Mutation A)}
    {outcome : FileOutcome} (h : RunInv used memory s)
    (hsucceeds : ∀ store result, operation memory = .ok (.change store result) →
      Succeeds used memory store) : Follows used memory (s.call limits operation outcome).1 := by
  rw [FileDashboardSessionDraftStore.call]
  split
  · exact h.follows
  rename_i store hstore
  obtain rfl := h.store store hstore
  rw [FileDashboardSessionDraftStore.commit.eq_def]
  split
  · exact h.follows
  · exact h.follows
  · rename_i after result hoperation
    have hafter := hsucceeds after result hoperation
    split
    · exact h.follows
    cases outcome with
    | done =>
      exact .ofSome hafter.agrees hafter.named hafter.advances
        (.toFile hafter.agrees hafter.named (.refl after))
    | failed landed =>
      refine RunInv.follows ⟨h.store, h.agrees, h.named, ?_⟩
      cases landed with
      | true => exact .toFile hafter.agrees hafter.named hafter.advances
      | false => exact h.file

theorem RunInv.load {clock : Nat → Int} {moved : Bool} {outcome : FileOutcome} (hagrees : memory.Agrees)
    (hnamed : Named used memory) (hholds : Holds used memory file) :
    Follows used memory (.load limits file clock moved outcome) := by
  have hrestored : ∃ base : DraftStore, base.Agrees ∧ Named used base ∧ Advances memory base ∧
      Within (FileDashboardSessionDraftStore.restoreFile limits file).1 base ∧
      ∀ content, file = some content → content = base.toFile := by
    cases file with
    | none =>
      refine ⟨.empty, .empty, ⟨?_, ?_⟩, ⟨?_, ?_⟩, .empty _, ?_⟩
      all_goals intros; contradiction
    | some content =>
      obtain ⟨base, heq, hbase, hnames, hadvances⟩ := hholds content rfl
      refine ⟨base, hbase, hnames, hadvances, ?_, fun content' h => by cases h; exact heq⟩
      rw [FileDashboardSessionDraftStore.restoreFile]
      split
      · exact .empty base
      split
      rename_i h
      have hsome : Within (restore limits base.toFile.content).1 base := restore_within hbase
      rwa [← heq, h] at hsome
  obtain ⟨base, hbase, hnames, hadvances, hwithin, hfile⟩ := hrestored
  rw [FileDashboardSessionDraftStore.load]
  split
  rename_i restored quarantined hrestore
  rw [hrestore] at hwithin
  have hbaseRestored := Restarts.within hbase hnames hwithin
  split
  · exact .ofNone hagrees hnamed hholds
  have hleft : Holds used memory (if quarantined then none else file) := by
    split
    · exact .none
    · exact hholds
  dsimp only
  split
  · exact .ofNone hagrees hnamed hleft
  rename_i marked hmarked
  have hmarks := Restarts.markRecovered hbaseRestored.agrees hbaseRestored.named hmarked
  have hprunes := Restarts.within hmarks.agrees hmarks.named
    (hmarks.agrees.prune_within limits (clock restored.tickets.size))
  have hafter := (hbaseRestored.trans hmarks).trans hprunes
  have hfollows := hadvances.settles hafter.settles
  split
  · split
    · exact .ofNone hagrees hnamed hleft
    cases outcome with
    | done =>
      exact .ofSome hafter.agrees hafter.named hfollows
        (.toFile hafter.agrees hafter.named (.refl _))
    | failed landed =>
      refine .ofNone hagrees hnamed ?_
      cases landed with
      | true => exact .toFile hafter.agrees hafter.named hfollows
      | false => exact hleft
  · rename_i hquiet
    rw [Bool.not_eq_true, Bool.or_eq_false_iff] at hquiet
    obtain ⟨rfl, hrunning⟩ := hquiet
    rw [markRecovered_eq hrunning] at hmarked
    cases hmarked
    refine .ofSome hafter.agrees hafter.named hfollows fun content hcontent => ?_
    have hpruned := hbaseRestored.agrees.prune_within limits (clock restored.tickets.size)
    exact ⟨base, hfile content hcontent, hbase, hnames, (hpruned.trans hwithin).advanced⟩

theorem RunInv.step {event : DraftEvent} (h : RunInv used memory s)
    (hfresh : ∀ randomId ∈ event.randomTicketId, randomId ∉ used) :
    Follows (event.randomTicketId.toList ++ used) memory
      (FileDashboardSessionDraftStore.step platform limits s event) := by
  cases event with
  | create =>
    exact h.call fun _ _ hcreate => .create h.agrees h.named hcreate
  | cancel =>
    exact h.call fun _ _ hcancel => .cancel h.agrees h.named hcancel
  | submitSend draftId request clock randomId =>
    exact (h.mono (subset_cons_self randomId used)).call fun _ _ hsubmit =>
      .submitSend h.agrees h.named (hfresh randomId rfl) hsubmit
  | transitionSend =>
    exact h.call fun _ _ htransition => .transitionSend h.agrees h.named htransition
  | restart => exact RunInv.load h.agrees h.named h.file

/-- In a run from `memory`, every memory agrees, and follows the one before it. -/
theorem RunInv.run {events : List DraftEvent} (h : RunInv used memory s)
    (hnodup : (events.filterMap (·.randomTicketId)).Nodup)
    (hfresh : ∀ randomId ∈ events.filterMap (·.randomTicketId), randomId ∉ used) :
    (∀ store ∈ memories platform limits s events, store.Agreement) ∧
      (memory :: memories platform limits s events).IsChain Advances := by
  induction events generalizing s memory used with
  | nil => exact ⟨fun _ h => (not_mem_nil h).elim, .singleton _⟩
  | cons event events ih =>
    have hsplit : (event :: events).filterMap (·.randomTicketId) =
        event.randomTicketId.toList ++ events.filterMap (·.randomTicketId) := by
      rw [filterMap_cons]
      cases event.randomTicketId <;> rfl
    rw [hsplit] at hnodup hfresh
    have hstep : Follows (event.randomTicketId.toList ++ used) memory
        (s.step platform limits event) :=
      h.step fun randomId hid => hfresh randomId (mem_append_left _ (Option.mem_toList.mpr hid))
    have hlater : ∀ randomId ∈ events.filterMap (·.randomTicketId),
        randomId ∉ event.randomTicketId.toList ++ used := by
      intro randomId hmem hused
      rcases mem_append.mp hused with hown | hold
      · exact (nodup_append.mp hnodup).2.2 randomId hown randomId hmem rfl
      · exact hfresh randomId (mem_append_right _ hmem) hold
    have hrest := (nodup_append.mp hnodup).2.1
    rw [memories]
    cases hstore : (s.step platform limits event).store with
    | none => exact ih (hstep.gone hstore) hrest hlater
    | some store =>
      obtain ⟨hinv, hadvances⟩ := hstep.kept store hstore
      obtain ⟨hagree, hchain⟩ := ih hinv hrest hlater
      refine ⟨fun other hother => ?_, .cons_cons hadvances hchain⟩
      rcases mem_cons.mp hother with rfl | hmem
      · exact hinv.agrees.agreement
      · exact hagree other hmem

theorem RunInv.initial : RunInv [] .empty .initial := by
  refine ⟨fun _ h => (Option.some.inj h).symm, .empty, ⟨?_, ?_⟩, .none⟩
  all_goals intros; contradiction

/-- **Drafts and tickets agree.**  In every memory of a run in which no random ticket id comes
twice the drafts and their tickets agree, and from one memory to the next drafts and tickets only
advance. -/
theorem drafts_agree (platform : DraftPlatform) (limits : DashboardSessionDraftLimits)
    (events : List DraftEvent) (hfresh : (events.filterMap (·.randomTicketId)).Nodup) :
    (∀ store ∈ memories platform limits .initial events, store.Agreement) ∧
      (DraftStore.empty :: memories platform limits .initial events).IsChain Advances := by
  exact RunInv.initial.run hfresh fun _ _ => not_mem_nil

variable (platform limits) in
theorem RunInv.last {events : List DraftEvent} (hfresh : (events.filterMap (·.randomTicketId)).Nodup) :
    ∃ memory, RunInv (events.filterMap (·.randomTicketId)) memory
      (events.foldl (FileDashboardSessionDraftStore.step platform limits) .initial) := by
  induction events using List.reverseRecOn with
  | nil => exact ⟨_, RunInv.initial⟩
  | append_singleton events event ih =>
    rw [filterMap_append] at hfresh ⊢
    obtain ⟨hbefore, -, hnew⟩ := nodup_append.mp hfresh
    obtain ⟨memory, h⟩ := ih hbefore
    have hown : [event].filterMap (·.randomTicketId) = event.randomTicketId.toList := by
      rw [filterMap_cons]
      cases event.randomTicketId <;> rfl
    rw [hown] at hnew ⊢
    rw [foldl_append, foldl_cons, foldl_nil]
    have hstep : Follows _ memory (FileDashboardSessionDraftStore.step platform limits _ event) :=
      h.step fun id hid hused => hnew id hused id (Option.mem_toList.mpr hid) rfl
    cases hstore : (FileDashboardSessionDraftStore.step platform limits _ event).store with
    | none => exact ⟨memory, (hstep.gone hstore).mono perm_append_comm.subset⟩
    | some store => exact ⟨store, (hstep.kept store hstore).1.mono perm_append_comm.subset⟩

end

/-! ## A draft that is sent and cancelled -/

def plainDigest : Digest := ⟨List.replicate 64 0x30, by decide⟩

def plainPlatform : DraftPlatform := ⟨fun _ => plainDigest, fun _ => plainDigest⟩

def plainSpec : DashboardSessionDraftSpec where
  cwd := text "/"
  name := none
  persistence := .memory
  model := none
  tools := ⟨.none, none, none⟩
  resources := ⟨false, false, false, false, false, .deny⟩

def sentAndCancelled : List DraftEvent :=
  [.create ⟨text "r", text "k", some (text "d"), plainSpec⟩ (fun _ => 0) (text "a") .done,
    .submitSend (text "d") ⟨text "r", text "k", 1, text "m"⟩ (fun _ => 0) (text "a") .done,
    .cancel (text "d") ⟨text "r", text "k", 2⟩ (fun _ => 0) (.failed true),
    .restart (fun _ => 0) true .done]

theorem drafts_agree_cancelled :
    (memories plainPlatform DEFAULT_DASHBOARD_SESSION_DRAFT_LIMITS .initial
        sentAndCancelled).map (fun store =>
          (store.drafts.values.map (·.resource.state), store.tickets.values.map (·.ticket.state))) =
      [([.draft], []), ([.materializing], [.queued]), ([.materializing], [.queued]),
        ([.cancelled], [.failed])] ∧
    (∀ store ∈ memories plainPlatform DEFAULT_DASHBOARD_SESSION_DRAFT_LIMITS .initial
      sentAndCancelled, store.Agreement) ∧
      (DraftStore.empty :: memories plainPlatform DEFAULT_DASHBOARD_SESSION_DRAFT_LIMITS .initial
        sentAndCancelled).IsChain Advances :=
  ⟨by decide +kernel, drafts_agree plainPlatform _ sentAndCancelled (by decide)⟩

end PiDaemon.Drafts
