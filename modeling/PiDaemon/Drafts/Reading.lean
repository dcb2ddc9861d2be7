import PiDaemon.Drafts.Agreement

/-!
# Reading the draft file

A restore takes the items of a file one after the other, up to the first one that it rejects.

* `Loadable`: what every operation keeps, so that a restart accepts each item;
* `Whole`, `Cut`, `restore_cases`: a file is accepted as a whole, or cut at an item;
* `Loadable.whole`: what a store writes is accepted as a whole.
-/

namespace PiDaemon.Drafts

open Lib Durability OrderedMap List

namespace DraftStore

variable {platform : DraftPlatform} {limits : DashboardSessionDraftLimits}
  {store store' : DraftStore} {id ticketId : JsString} {draft : StoredDraft}
  {ticket : StoredTicket}

/-! ## What is written can be read -/

structure Loadable (limits : DashboardSessionDraftLimits) (store : DraftStore) : Prop where
  draftId : ∀ id draft, store.drafts.get? id = some draft → draft.resource.draftId = id
  ticketId : ∀ id ticket, store.tickets.get? id = some ticket → ticket.ticket.ticketId = id
  drafts : ∀ id draft, store.drafts.get? id = some draft → storedDraft limits draft = .ok draft
  tickets : ∀ id ticket, store.tickets.get? id = some ticket →
    storedTicket limits ticket = .ok ticket
  linked : ∀ id ticket, store.tickets.get? id = some ticket → ∃ draft,
    store.drafts.get? ticket.ticket.draftId = some draft ∧ draft.resource.state ≠ .draft
  single : ∀ id ticket id' ticket', store.tickets.get? id = some ticket →
    store.tickets.get? id' = some ticket' → ticket.ticket.draftId = ticket'.ticket.draftId → id = id'
  draftCount : store.drafts.size ≤ limits.maxDrafts
  ticketCount : store.tickets.size ≤ limits.maxTickets

def setTicket (store : DraftStore) (id : JsString) (ticket : StoredTicket) : DraftStore :=
  { store with tickets := store.tickets.set id ticket }

theorem Loadable.empty : Loadable limits empty := by
  refine ⟨?_, ?_, ?_, ?_, ?_, ?_, Nat.zero_le _, Nat.zero_le _⟩
  all_goals intros; contradiction

theorem Loadable.prune (h : Loadable limits store) (now : Int) :
    Loadable limits (store.prune limits now) where
  draftId id draft hget := h.draftId id draft (prune_drafts hget)
  ticketId id ticket hget := h.ticketId id ticket (prune_tickets hget)
  drafts id draft hget := h.drafts id draft (prune_drafts hget)
  tickets id ticket hget := h.tickets id ticket (prune_tickets hget)
  linked id ticket hget := by
    obtain ⟨draft, hdraft, hstate⟩ := h.linked id ticket (prune_tickets hget)
    exact ⟨draft, prune_draft_sent hget hdraft (h.draftId _ _ hdraft), hstate⟩
  single id ticket id' ticket' hget hget' :=
    h.single id ticket id' ticket' (prune_tickets hget) (prune_tickets hget')
  draftCount := Nat.le_trans (size_filterValues_le _ _) h.draftCount
  ticketCount := Nat.le_trans (size_filterValues_le _ _) h.ticketCount

theorem Loadable.setDraft (h : Loadable limits store) (hid : draft.resource.draftId = id)
    (hdraft : storedDraft limits draft = .ok draft)
    (hstate : draft.resource.state ≠ .draft ∨ store.drafts.get? id = none)
    (hsize : (store.drafts.set id draft).size ≤ limits.maxDrafts) :
    Loadable limits (store.setDraft id draft) := by
  refine ⟨fun other draft' hget => ?_, h.ticketId, fun other draft' hget => ?_, h.tickets,
    fun other ticket' hget => ?_, h.single, hsize, h.ticketCount⟩
  all_goals simp only [DraftStore.setDraft, get?_set] at *
  · split at hget
    · rename_i heq
      cases hget
      exact hid.trans heq
    · exact h.draftId other draft' hget
  · split at hget
    · cases hget
      exact hdraft
    · exact h.drafts other draft' hget
  · obtain ⟨draft', hget', hstate'⟩ := h.linked other ticket' hget
    split
    · rename_i heq
      rcases hstate with hstate | hnone
      · exact ⟨draft, rfl, hstate⟩
      · rw [← heq, hnone] at hget'
        cases hget'
    · exact ⟨draft', hget', hstate'⟩

theorem Loadable.setTicket (h : Loadable limits store) (hid : ticket.ticket.ticketId = ticketId)
    (hticket : storedTicket limits ticket = .ok ticket)
    (hlinked : ∃ draft, store.drafts.get? ticket.ticket.draftId = some draft ∧
      draft.resource.state ≠ .draft)
    (hsingle : ∀ other ticket', store.tickets.get? other = some ticket' →
      ticket'.ticket.draftId = ticket.ticket.draftId → other = ticketId)
    (hsize : (store.tickets.set ticketId ticket).size ≤ limits.maxTickets) :
    Loadable limits (store.setTicket ticketId ticket) := by
  refine ⟨h.draftId, fun other ticket' hget => ?_, h.drafts, fun other ticket' hget => ?_,
    fun other ticket' hget => ?_, fun other ticket' other' ticket'' hget hget' heq => ?_,
    h.draftCount, hsize⟩
  all_goals simp only [DraftStore.setTicket, get?_set] at *
  · split at hget
    · rename_i heq
      cases hget
      exact hid.trans heq
    · exact h.ticketId other ticket' hget
  · split at hget
    · cases hget
      exact hticket
    · exact h.tickets other ticket' hget
  · split at hget
    · cases hget
      exact hlinked
    · exact h.linked other ticket' hget
  · split at hget <;> split at hget'
    · rename_i hother hother'
      exact hother.symm.trans hother'
    · rename_i hother _
      cases hget
      exact hother.symm.trans (hsingle other' ticket'' hget' heq.symm).symm
    · rename_i _ hother
      cases hget'
      exact (hsingle other ticket' hget heq).trans hother
    · exact h.single other ticket' other' ticket'' hget hget' heq

variable {clock : Nat → Int}

theorem Loadable.create {request : DashboardSessionDraftCreateRequest} {randomId : JsString}
    {result : DashboardSessionDraftResource} (h : Loadable limits store)
    (hcreate : store.create platform limits request clock randomId = .ok (.change store' result)) :
    Loadable limits store' := by
  obtain ⟨_, _, rfl, hid, -, -, -, hdraft, hnew, hsize⟩ := create_change hcreate
  refine (h.prune (clock 0)).setDraft hid hdraft (.inr hnew) ?_
  rw [size_set_of_not_has hnew]
  exact hsize

theorem Loadable.cancel {draftId : JsString} {request : DashboardSessionDraftCancelRequest}
    {result : DashboardSessionDraftResource} (h : Loadable limits store)
    (hcancel : store.cancel platform limits draftId request clock = .ok (.change store' result)) :
    Loadable limits store' := by
  obtain ⟨_, draft, hstored, -, hdraft, hcases⟩ := cancel_change hcancel
  have hstoredId := h.draftId _ _ hstored
  have hloaded := hdraft (h.drafts _ _ hstored)
  have hsize : (store.drafts.set draftId draft).size ≤ limits.maxDrafts := by
    rw [size_set_of_has hstored]
    exact h.draftCount
  rcases hcases with ⟨rfl, hid, -, hstate, -, -⟩ |
    ⟨active, ticket, hactive, rfl, hid, -, hstate, hticketId, hown, -, hticket, -⟩
  · refine h.setDraft (hid.trans hstoredId) hloaded (.inl fun hdraft => ?_) hsize
    rw [hstate] at hdraft
    cases hdraft
  · obtain ⟨_, -, hget⟩ := Option.bind_eq_some_iff.mp hactive
    rw [← h.ticketId _ _ hget, ← hticketId] at hget
    have hwritten := h.setDraft (hid.trans hstoredId) hloaded (.inl hstate) hsize
    refine hwritten.setTicket rfl (hticket (h.tickets _ _ hget)) ?_ ?_ ?_
    · rw [hown]
      exact hwritten.linked _ active hget
    · exact fun other ticket' hother heq =>
        h.single other ticket' _ active hother hget (heq.trans hown)
    · exact (size_set_of_has hget _).symm ▸ h.ticketCount

theorem Loadable.submitSend {draftId : JsString} {request : DashboardSessionDraftSendRequest}
    {randomId : JsString} {result : DashboardSessionDraftSendTicket} (h : Loadable limits store)
    (hsubmit : store.submitSend platform limits draftId request clock randomId =
      .ok (.change store' result)) : Loadable limits store' := by
  obtain ⟨stored, draft, _, rfl, hid, -, hdraft, hticketId, hown, hticket, hstored, hstate,
    hsize, hjoined⟩ := submitSend_change hsubmit
  have hlive : stored.resource.state.isTerminal = false := by
    rw [hstate]
    rfl
  have hkept : (store.prune limits (clock 0)).drafts.get? draftId = some stored :=
    prune_draft_live hstored hlive
  have hpruned := h.prune (clock 0)
  have hwritten := hpruned.setDraft (hid.trans (h.draftId _ _ hstored))
    (hdraft (h.drafts _ _ hstored)) (.inl hjoined.image.not_draft)
    ((size_set_of_has hkept draft).symm ▸ hpruned.draftCount)
  refine hwritten.setTicket hticketId hticket ⟨draft, ?_, hjoined.image.not_draft⟩ ?_ ?_
  · rw [hown]
    exact get?_set_self _ _ _
  · intro other ticket' hget heq
    obtain ⟨_, hget', hsent⟩ := hpruned.linked other ticket' hget
    rw [heq, hown, hkept] at hget'
    cases hget'
    exact absurd hstate hsent
  · exact Nat.le_trans (size_set_le _ _ _) hsize

theorem Loadable.transitionSend {ticketId : JsString} {transition : DashboardSessionDraftTransition}
    {result : DashboardSessionDraftSendTicket} (h : Loadable limits store)
    (htransition : store.transitionSend limits ticketId transition clock =
      .ok (.change store' result)) : Loadable limits store' := by
  obtain ⟨_, _, draft, active, _, rfl, hid, -, hdraft, hticketId, hown, hticket, hactive,
    howner, -, -, hstored, hjoins⟩ := transitionSend_change htransition
  have hactiveId := h.ticketId _ _ hactive
  have hjoined := hjoins hactiveId
  have hwritten := h.setDraft (hid.trans (h.draftId _ _ hstored)) (hdraft (h.drafts _ _ hstored))
    (.inl hjoined.image.not_draft) ((size_set_of_has hstored draft).symm ▸ h.draftCount)
  refine hwritten.setTicket (hticketId.trans hactiveId) (hticket (h.tickets _ _ hactive))
    ⟨draft, ?_, hjoined.image.not_draft⟩ ?_ ?_
  · rw [hown]
    exact get?_set_self _ _ _
  · exact fun other ticket' hget heq =>
      h.single other ticket' _ active hget hactive (heq.trans (hown.trans howner.symm))
  · exact (size_set_of_has hactive _).symm ▸ h.ticketCount

/-! ## Reading a file -/

/-- The next draft of a file is accepted after those in `store`. -/
def AcceptsDraft (limits : DashboardSessionDraftLimits) (store : DraftStore)
    (item : Option StoredDraft) : Prop :=
  ∃ draft, item = some draft ∧ storedDraft limits draft = .ok draft ∧
    store.drafts.has draft.resource.draftId = false

def AcceptsTicket (limits : DashboardSessionDraftLimits) (store : DraftStore)
    (item : Option StoredTicket) : Prop :=
  ∃ ticket, item = some ticket ∧ storedTicket limits ticket = .ok ticket ∧
    store.tickets.has ticket.ticket.ticketId = false ∧
    store.drafts.has ticket.ticket.draftId = true

def addDraft (store : DraftStore) (draft : StoredDraft) : DraftStore :=
  store.setDraft draft.resource.draftId draft

def addTicket (store : DraftStore) (ticket : StoredTicket) : DraftStore :=
  store.setTicket ticket.ticket.ticketId ticket

/-- The drafts of a list are accepted one after the other. -/
def DraftsAccepted (limits : DashboardSessionDraftLimits) : DraftStore → List StoredDraft → Prop
  | _, [] => True
  | store, draft :: drafts =>
    AcceptsDraft limits store (some draft) ∧ DraftsAccepted limits (store.addDraft draft) drafts

def TicketsAccepted (limits : DashboardSessionDraftLimits) : DraftStore → List StoredTicket → Prop
  | _, [] => True
  | store, ticket :: tickets =>
    AcceptsTicket limits store (some ticket) ∧
      TicketsAccepted limits (store.addTicket ticket) tickets

theorem restoreDrafts_accepted {drafts : List StoredDraft} (rest : List (Option StoredDraft))
    (h : DraftsAccepted limits store drafts) :
    restoreDrafts limits store (drafts.map some ++ rest) =
      restoreDrafts limits (drafts.foldl addDraft store) rest := by
  induction drafts generalizing store with
  | nil => rfl
  | cons draft drafts ih =>
    obtain ⟨⟨_, heq, hstored, hnew⟩, hrest⟩ := h
    cases heq
    rw [map_cons, cons_append, restoreDrafts, hstored]
    simp only [hnew, Bool.false_eq_true, if_false, foldl_cons]
    exact ih hrest

theorem restoreTickets_accepted {tickets : List StoredTicket} (rest : List (Option StoredTicket))
    (h : TicketsAccepted limits store tickets) :
    restoreTickets limits store (tickets.map some ++ rest) =
      restoreTickets limits (tickets.foldl addTicket store) rest := by
  induction tickets generalizing store with
  | nil => rfl
  | cons ticket tickets ih =>
    obtain ⟨⟨_, heq, hstored, hnew, hdraft⟩, hrest⟩ := h
    cases heq
    rw [map_cons, cons_append, restoreTickets, hstored]
    simp only [hnew, hdraft, Bool.not_true, Bool.false_eq_true, if_false, foldl_cons]
    exact ih hrest

theorem restoreDrafts_rejected {item : Option StoredDraft} (rest : List (Option StoredDraft))
    (h : ¬AcceptsDraft limits store item) :
    restoreDrafts limits store (item :: rest) = (store, false) := by
  cases item with
  | none => rfl
  | some draft =>
    rw [restoreDrafts]
    split
    · rfl
    rename_i record hrecord
    obtain rfl := ((storedDraft_ok limits).mp hrecord).2
    split
    · rfl
    · rename_i hhas
      exact absurd ⟨_, rfl, hrecord, Bool.not_eq_true _ ▸ hhas⟩ h

theorem restoreTickets_rejected {item : Option StoredTicket} (rest : List (Option StoredTicket))
    (h : ¬AcceptsTicket limits store item) :
    restoreTickets limits store (item :: rest) = (store, false) := by
  cases item with
  | none => rfl
  | some ticket =>
    rw [restoreTickets]
    split
    · rfl
    rename_i record hrecord
    obtain rfl := ((storedTicket_ok limits).mp hrecord).2
    split
    · rfl
    rename_i hhas
    split
    · rfl
    rename_i hdraft
    rw [Bool.not_eq_true, Bool.not_eq_false'] at hdraft
    exact absurd ⟨_, rfl, hrecord, Bool.not_eq_true _ ▸ hhas, hdraft⟩ h

section
variable (limits)

theorem drafts_split (store : DraftStore) (items : List (Option StoredDraft)) :
    (∃ drafts, items = drafts.map some ∧ DraftsAccepted limits store drafts) ∨
      ∃ drafts item rest, items = drafts.map some ++ item :: rest ∧
        DraftsAccepted limits store drafts ∧
        ¬AcceptsDraft limits (drafts.foldl addDraft store) item := by
  induction items generalizing store with
  | nil => exact .inl ⟨[], rfl, trivial⟩
  | cons item items ih =>
    by_cases haccepts : AcceptsDraft limits store item
    · have hthis := haccepts
      obtain ⟨draft, rfl, -⟩ := hthis
      rcases ih (store.addDraft draft) with ⟨drafts, rfl, hdrafts⟩ |
        ⟨drafts, bad, rest, rfl, hdrafts, hbad⟩
      · exact .inl ⟨draft :: drafts, rfl, haccepts, hdrafts⟩
      · exact .inr ⟨draft :: drafts, bad, rest, rfl, ⟨haccepts, hdrafts⟩, hbad⟩
    · exact .inr ⟨[], item, items, rfl, trivial, haccepts⟩

theorem tickets_split (store : DraftStore) (items : List (Option StoredTicket)) :
    (∃ tickets, items = tickets.map some ∧ TicketsAccepted limits store tickets) ∨
      ∃ tickets item rest, items = tickets.map some ++ item :: rest ∧
        TicketsAccepted limits store tickets ∧
        ¬AcceptsTicket limits (tickets.foldl addTicket store) item := by
  induction items generalizing store with
  | nil => exact .inl ⟨[], rfl, trivial⟩
  | cons item items ih =>
    by_cases haccepts : AcceptsTicket limits store item
    · have hthis := haccepts
      obtain ⟨ticket, rfl, -⟩ := hthis
      rcases ih (store.addTicket ticket) with ⟨tickets, rfl, htickets⟩ |
        ⟨tickets, bad, rest, rfl, htickets, hbad⟩
      · exact .inl ⟨ticket :: tickets, rfl, haccepts, htickets⟩
      · exact .inr ⟨ticket :: tickets, bad, rest, rfl, ⟨haccepts, htickets⟩, hbad⟩
    · exact .inr ⟨[], item, items, rfl, trivial, haccepts⟩

end

/-- The memory that a file with these lists stands for. -/
def ofLists (drafts : List StoredDraft) (tickets : List StoredTicket) : DraftStore :=
  tickets.foldl addTicket (drafts.foldl addDraft empty)

/-- All of the file is accepted. -/
inductive Whole (limits : DashboardSessionDraftLimits) : DraftFileContent → DraftStore → Prop
  | intro (drafts : List StoredDraft) (tickets : List StoredTicket)
      (hdrafts : drafts.length ≤ limits.maxDrafts) (htickets : tickets.length ≤ limits.maxTickets)
      (haccepts : DraftsAccepted limits empty drafts)
      (haccepts' : TicketsAccepted limits (drafts.foldl addDraft empty) tickets) :
      Whole limits (.envelope (drafts.map some) (tickets.map some)) (ofLists drafts tickets)

/-- The records before the first item of the file that is not accepted. -/
inductive Cut (limits : DashboardSessionDraftLimits) : DraftFileContent → DraftStore → Prop
  | draft (drafts : List StoredDraft) (item : Option StoredDraft) (rest : List (Option StoredDraft))
      (tickets : List (Option StoredTicket))
      (hdrafts : (drafts.map some ++ item :: rest).length ≤ limits.maxDrafts)
      (htickets : tickets.length ≤ limits.maxTickets)
      (haccepts : DraftsAccepted limits empty drafts)
      (hrejects : ¬AcceptsDraft limits (drafts.foldl addDraft empty) item) :
      Cut limits (.envelope (drafts.map some ++ item :: rest) tickets) (ofLists drafts [])
  | ticket (drafts : List StoredDraft) (tickets : List StoredTicket) (item : Option StoredTicket)
      (rest : List (Option StoredTicket)) (hdrafts : drafts.length ≤ limits.maxDrafts)
      (htickets : (tickets.map some ++ item :: rest).length ≤ limits.maxTickets)
      (haccepts : DraftsAccepted limits empty drafts)
      (haccepts' : TicketsAccepted limits (drafts.foldl addDraft empty) tickets)
      (hrejects : ¬AcceptsTicket limits (ofLists drafts tickets) item) :
      Cut limits (.envelope (drafts.map some) (tickets.map some ++ item :: rest))
        (ofLists drafts tickets)

theorem Whole.restore {content : DraftFileContent} (h : Whole limits content store) :
    restore limits content = (store, true) := by
  obtain ⟨_, _, _, _, haccepts, haccepts'⟩ := h
  have hread := restoreDrafts_accepted [] haccepts
  have hread' := restoreTickets_accepted [] haccepts'
  rw [append_nil] at hread hread'
  rw [DraftStore.restore, if_neg (by simp only [length_map]; omega), hread]
  exact hread'

theorem Cut.restore {content : DraftFileContent} (h : Cut limits content store) :
    restore limits content = (store, false) := by
  cases h with
  | draft drafts item rest tickets hdrafts htickets haccepts hrejects =>
    rw [DraftStore.restore, if_neg (by omega), restoreDrafts_accepted _ haccepts,
      restoreDrafts_rejected rest hrejects]
    rfl
  | ticket drafts tickets item rest hdrafts htickets haccepts haccepts' hrejects =>
    have hread := restoreDrafts_accepted [] haccepts
    rw [append_nil] at hread
    rw [DraftStore.restore, if_neg (by simp only [length_map]; omega), hread]
    exact (restoreTickets_accepted _ haccepts').trans (restoreTickets_rejected rest hrejects)

/-- A restore accepts the file, or cuts it, or finds nothing to restore. -/
theorem restore_cases (limits : DashboardSessionDraftLimits) (content : DraftFileContent) :
    (∃ store, Whole limits content store) ∨ (∃ store, Cut limits content store) ∨
      restore limits content = (empty, false) := by
  cases content with
  | unreadable => exact .inr (.inr rfl)
  | envelope drafts tickets =>
    by_cases hcapacity : drafts.length > limits.maxDrafts ∨ tickets.length > limits.maxTickets
    · exact .inr (.inr (if_pos hcapacity))
    rw [not_or, Nat.not_lt, Nat.not_lt] at hcapacity
    obtain ⟨hdrafts, htickets⟩ := hcapacity
    rcases drafts_split limits empty drafts with ⟨ds, rfl, haccepts⟩ |
      ⟨ds, item, rest, rfl, haccepts, hrejects⟩
    · rcases tickets_split limits (ds.foldl addDraft empty) tickets with
        ⟨ts, rfl, haccepts'⟩ | ⟨ts, item, rest, rfl, haccepts', hrejects⟩
      · rw [length_map] at hdrafts htickets
        exact .inl ⟨_, .intro ds ts hdrafts htickets haccepts haccepts'⟩
      · rw [length_map] at hdrafts
        exact .inr (.inl ⟨_, .ticket ds ts item rest hdrafts htickets haccepts haccepts' hrejects⟩)
    · exact .inr (.inl ⟨_, .draft ds item rest tickets hdrafts htickets haccepts hrejects⟩)

theorem foldl_addDraft (drafts : List StoredDraft) (store : DraftStore) :
    drafts.foldl addDraft store = { store with
      drafts := drafts.foldl (fun acc draft => acc.set draft.resource.draftId draft)
        store.drafts } := by
  induction drafts generalizing store with
  | nil => rfl
  | cons draft drafts ih => exact ih _

theorem foldl_addTicket (tickets : List StoredTicket) (store : DraftStore) :
    tickets.foldl addTicket store = { store with
      tickets := tickets.foldl (fun acc ticket => acc.set ticket.ticket.ticketId ticket)
        store.tickets } := by
  induction tickets generalizing store with
  | nil => rfl
  | cons ticket tickets ih => exact ih _

theorem drafts_accepted (entries : List (JsString × StoredDraft)) (store : DraftStore)
    (hentries : ∀ entry ∈ entries, entry.2.resource.draftId = entry.1 ∧
      storedDraft limits entry.2 = .ok entry.2)
    (hnodup : ((store.drafts.entries ++ entries).map Prod.fst).Nodup) :
    DraftsAccepted limits store (entries.map Prod.snd) := by
  induction entries generalizing store with
  | nil => trivial
  | cons entry entries ih =>
    obtain ⟨id, draft⟩ := entry
    obtain ⟨hid, hdraft⟩ := hentries _ mem_cons_self
    have hnew := get?_of_nodup_append hnodup
    refine ⟨⟨draft, rfl, hdraft, ?_⟩, ih _ (fun e he => hentries e (mem_cons_of_mem _ he)) ?_⟩
    · rw [hid]
      exact has_eq_false.mpr hnew
    have hset : (store.addDraft draft).drafts.entries = store.drafts.entries ++ [(id, draft)] := by
      rw [addDraft, hid]
      exact setIn_of_lookupIn_none hnew
    rw [hset, append_assoc]
    exact hnodup

theorem tickets_accepted (entries : List (JsString × StoredTicket)) (store : DraftStore)
    (hentries : ∀ entry ∈ entries, entry.2.ticket.ticketId = entry.1 ∧
      storedTicket limits entry.2 = .ok entry.2 ∧
      store.drafts.has entry.2.ticket.draftId = true)
    (hnodup : ((store.tickets.entries ++ entries).map Prod.fst).Nodup) :
    TicketsAccepted limits store (entries.map Prod.snd) := by
  induction entries generalizing store with
  | nil => trivial
  | cons entry entries ih =>
    obtain ⟨id, ticket⟩ := entry
    obtain ⟨hid, hticket, hdraft⟩ := hentries _ mem_cons_self
    have hnew := get?_of_nodup_append hnodup
    refine ⟨⟨ticket, rfl, hticket, ?_, hdraft⟩,
      ih _ (fun e he => hentries e (mem_cons_of_mem _ he)) ?_⟩
    · rw [hid]
      exact has_eq_false.mpr hnew
    have hset : (store.addTicket ticket).tickets.entries =
        store.tickets.entries ++ [(id, ticket)] := by
      rw [addTicket, hid]
      exact setIn_of_lookupIn_none hnew
    rw [hset, append_assoc]
    exact hnodup

theorem Loadable.whole (h : Loadable limits store) : Whole limits store.toFile.content store := by
  have hdrafts : store.drafts.values.foldl addDraft .empty = ⟨store.drafts, .empty⟩ := by
    rw [foldl_addDraft]
    exact congrArg (fun m => DraftStore.mk m .empty)
      (foldl_set_values _ _ h.draftId)
  have hall : ofLists store.drafts.values store.tickets.values = store := by
    rw [ofLists, hdrafts, foldl_addTicket]
    exact congrArg (DraftStore.mk store.drafts) (foldl_set_values _ _ h.ticketId)
  have haccepts : DraftsAccepted limits .empty store.drafts.values := by
    refine drafts_accepted store.drafts.entries .empty (fun entry he => ?_) store.drafts.nodup
    have hget := mem_entries.mp he
    exact ⟨h.draftId _ _ hget, h.drafts _ _ hget⟩
  have haccepts' : TicketsAccepted limits (store.drafts.values.foldl addDraft .empty)
      store.tickets.values := by
    rw [hdrafts]
    refine tickets_accepted store.tickets.entries _ (fun entry he => ?_) store.tickets.nodup
    have hget := mem_entries.mp he
    obtain ⟨draft, hdraft, -⟩ := h.linked _ _ hget
    exact ⟨h.ticketId _ _ hget, h.tickets _ _ hget, has_iff.mpr ⟨draft, hdraft⟩⟩
  have hcount := h.draftCount
  have hcount' := h.ticketCount
  have hwhole : Whole limits store.toFile.content
      (ofLists store.drafts.values store.tickets.values) :=
    .intro _ _ (Nat.le_trans (Nat.le_of_eq (length_map _)) hcount)
      (Nat.le_trans (Nat.le_of_eq (length_map _)) hcount') haccepts haccepts'
  rwa [hall] at hwhole

end DraftStore

end PiDaemon.Drafts
