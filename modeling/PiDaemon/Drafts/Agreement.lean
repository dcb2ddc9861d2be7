import PiDaemon.Drafts.Store

/-!
# Drafts and their tickets agree

A draft and its first-send ticket are two records that every operation rewrites by hand.

* `Agreement`, `Advances`: what the two lists say about each other, and how a memory follows
  another one; `Agrees` is the invariant behind the first;
* `create_change`, `cancel_change`, `submitSend_change`, `transitionSend_change`: what each
  operation writes;
* `Succeeds.create`, …: the operations keep the agreement and only advance.
-/

namespace PiDaemon.Drafts

open Lib Durability OrderedMap List Option Bool

/-! ## Agreement -/

/-- A draft has the state of its ticket, or is cancelled over a failed one. -/
def Images (ticket : DashboardSessionDraftTicketState) (draft : DashboardSessionDraftState) :
    Prop :=
  draft = DraftStore.draftStateOf ticket ∨ (draft = .cancelled ∧ ticket = .failed)

variable {ticket : DashboardSessionDraftTicketState} {draft : DashboardSessionDraftState}

theorem Images.not_draft (h : Images ticket draft) : draft ≠ .draft := by
  rcases h with rfl | ⟨rfl, -⟩
  · cases ticket <;> exact fun h => by cases h
  · exact fun h => by cases h

theorem Images.isTerminal (h : Images ticket draft) : draft.isTerminal = ticket.isTerminal := by
  rcases h with rfl | ⟨rfl, rfl⟩
  · cases ticket <;> rfl
  · rfl

theorem Images.materializing (h : Images ticket draft) (hticket : ticket.isTerminal = false) :
    draft = .materializing := by
  rcases h with rfl | ⟨-, rfl⟩
  · cases ticket <;> first | rfl | cases hticket
  · cases hticket

/-- The draft tells of the ticket. -/
structure Joined (draft : StoredDraft) (ticket : StoredTicket) : Prop where
  materialization : ∃ materialization, draft.resource.materialization = some materialization ∧
    materialization.ticketId = ticket.ticket.ticketId ∧
    materialization.state = ticket.ticket.state
  image : Images ticket.ticket.state draft.resource.state

/-- How a ticket may change. -/
structure TicketAdvances (before after : StoredTicket) : Prop where
  phase : before.phase.order ≤ after.phase.order
  terminal : before.ticket.state.isTerminal = true → after = before

theorem TicketAdvances.refl (ticket : StoredTicket) : TicketAdvances ticket ticket :=
  ⟨Nat.le_refl _, fun _ => rfl⟩

theorem TicketAdvances.trans {a b c : StoredTicket} (h : TicketAdvances a b)
    (h' : TicketAdvances b c) : TicketAdvances a c := by
  refine ⟨Nat.le_trans h.phase h'.phase, fun hterminal => ?_⟩
  have hb := h.terminal hterminal
  rw [h'.terminal (hb ▸ hterminal), hb]

/-- The id of a draft that was pruned names a new one. -/
structure Recreated (before after : StoredDraft) : Prop where
  terminal : before.resource.state.isTerminal = true
  state : after.resource.state = .draft
  revision : after.resource.revision = 1

/-- How a draft may change. -/
def DraftAdvances (before after : StoredDraft) : Prop :=
  after = before ∨
    (before.resource.state.isTerminal = false ∧
      before.resource.revision < after.resource.revision) ∨
    Recreated before after

/-- How a restart may change a draft. -/
def DraftSettles (before after : StoredDraft) : Prop :=
  after = before ∨
    (before.resource.state = .materializing ∧ before.resource.revision < after.resource.revision)

theorem DraftAdvances.settles {a b c : StoredDraft} (h : DraftAdvances a b)
    (h' : DraftSettles b c) : DraftAdvances a c := by
  rcases h' with rfl | ⟨hstate, hrevision⟩
  · exact h
  rcases h with rfl | ⟨hterminal, hlt⟩ | hrecreated
  · refine .inr (.inl ⟨?_, hrevision⟩)
    rw [hstate]
    rfl
  · exact .inr (.inl ⟨hterminal, Nat.lt_trans hlt hrevision⟩)
  · rw [hrecreated.state] at hstate
    cases hstate

namespace DraftStore

variable {platform : DraftPlatform} {limits : DashboardSessionDraftLimits}
  {store store' sub : DraftStore} {used : List JsString}

/-- The two lists of a store agree. -/
structure Agreement (store : DraftStore) : Prop where
  single : ∀ ticket ∈ store.tickets.values, ∀ ticket' ∈ store.tickets.values,
    ticket.ticket.draftId = ticket'.ticket.draftId → ticket = ticket'
  unsent : ∀ draft ∈ store.drafts.values, draft.resource.state = .draft →
    ∀ ticket ∈ store.tickets.values, ticket.ticket.draftId ≠ draft.resource.draftId
  joined : ∀ draft ∈ store.drafts.values, ∀ ticket ∈ store.tickets.values,
    ticket.ticket.draftId = draft.resource.draftId → Joined draft ticket

structure Agrees (store : DraftStore) : Prop where
  draftId : ∀ id draft, store.drafts.get? id = some draft → draft.resource.draftId = id
  ticketId : ∀ id ticket, store.tickets.get? id = some ticket → ticket.ticket.ticketId = id
  unsent : ∀ id draft, store.drafts.get? id = some draft → draft.resource.state = .draft →
    draft.resource.materialization = none
  joined : ∀ id ticket, store.tickets.get? id = some ticket → ∃ draft,
    store.drafts.get? ticket.ticket.draftId = some draft ∧ Joined draft ticket
  owned : ∀ id draft materialization ticket, store.drafts.get? id = some draft →
    draft.resource.materialization = some materialization →
    store.tickets.get? materialization.ticketId = some ticket → ticket.ticket.draftId = id

/-- What happens to the records of a store. -/
structure Advances (before after : DraftStore) : Prop where
  drafts : ∀ id draft draft', before.drafts.get? id = some draft →
    after.drafts.get? id = some draft' → DraftAdvances draft draft'
  tickets : ∀ id ticket ticket', before.tickets.get? id = some ticket →
    after.tickets.get? id = some ticket' → TicketAdvances ticket ticket'

/-- What a restart does to the records of a file. -/
structure Settles (before after : DraftStore) : Prop where
  drafts : ∀ id draft', after.drafts.get? id = some draft' → ∃ draft,
    before.drafts.get? id = some draft ∧ DraftSettles draft draft'
  tickets : ∀ id ticket', after.tickets.get? id = some ticket' → ∃ ticket,
    before.tickets.get? id = some ticket ∧ TicketAdvances ticket ticket'

/-- Some records of `store`, no ticket without its draft. -/
structure Within (sub store : DraftStore) : Prop where
  drafts : ∀ id draft, sub.drafts.get? id = some draft → store.drafts.get? id = some draft
  tickets : ∀ id ticket, sub.tickets.get? id = some ticket → store.tickets.get? id = some ticket
  kept : ∀ id ticket, sub.tickets.get? id = some ticket →
    (sub.drafts.get? ticket.ticket.draftId).isSome = true

theorem Agrees.empty : empty.Agrees := by
  constructor <;> intro id <;> intros <;> simp_all [DraftStore.empty]

theorem Agrees.single (h : store.Agrees) {id id' : JsString} {ticket ticket' : StoredTicket}
    (hticket : store.tickets.get? id = some ticket)
    (hticket' : store.tickets.get? id' = some ticket')
    (hdraft : ticket.ticket.draftId = ticket'.ticket.draftId) : id = id' := by
  obtain ⟨_, hget, ⟨_, hm, hid, -⟩, -⟩ := h.joined id ticket hticket
  obtain ⟨_, hget', ⟨_, hm', hid', -⟩, -⟩ := h.joined id' ticket' hticket'
  rw [hdraft, hget'] at hget
  cases hget
  rw [hm'] at hm
  cases hm
  rw [← h.ticketId id ticket hticket, ← h.ticketId id' ticket' hticket', ← hid, ← hid']

theorem Agrees.agreement (h : store.Agrees) : store.Agreement := by
  have hjoined : ∀ draft ∈ store.drafts.values, ∀ ticket ∈ store.tickets.values,
      ticket.ticket.draftId = draft.resource.draftId → Joined draft ticket := by
    intro draft hdraft ticket hticket hid
    obtain ⟨id, hget⟩ := mem_values.mp hdraft
    obtain ⟨ticketId, hget'⟩ := mem_values.mp hticket
    obtain ⟨_, hown, hjoined⟩ := h.joined ticketId ticket hget'
    rw [hid, h.draftId id draft hget, hget] at hown
    cases hown
    exact hjoined
  refine ⟨?_, ?_, hjoined⟩
  · intro ticket hticket ticket' hticket' hid
    obtain ⟨id, hget⟩ := mem_values.mp hticket
    obtain ⟨_, hget'⟩ := mem_values.mp hticket'
    have := h.single hget hget' hid
    subst this
    rw [hget] at hget'
    exact Option.some.inj hget'
  · intro draft hdraft hstate ticket hticket hid
    exact (hjoined draft hdraft ticket hticket hid).image.not_draft hstate

theorem Agrees.within (h : store.Agrees) (hsub : Within sub store) : sub.Agrees where
  draftId id draft hget := h.draftId id draft (hsub.drafts id draft hget)
  ticketId id ticket hget := h.ticketId id ticket (hsub.tickets id ticket hget)
  unsent id draft hget := h.unsent id draft (hsub.drafts id draft hget)
  joined id ticket hget := by
    obtain ⟨draft, hdraft, hjoined⟩ := h.joined id ticket (hsub.tickets id ticket hget)
    obtain ⟨_, hdraft'⟩ := isSome_iff_exists.mp (hsub.kept id ticket hget)
    have := hsub.drafts _ _ hdraft'
    rw [hdraft] at this
    cases this
    exact ⟨draft, hdraft', hjoined⟩
  owned id draft m ticket hdraft hm hticket :=
    h.owned id draft m ticket (hsub.drafts id draft hdraft) hm (hsub.tickets _ _ hticket)

theorem Within.refl (h : store.Agrees) : Within store store := by
  refine ⟨fun _ _ h => h, fun _ _ h => h, fun id ticket hget => ?_⟩
  obtain ⟨_, hdraft, -⟩ := h.joined id ticket hget
  rw [hdraft]
  rfl

theorem Within.settles (h : Within sub store) : Settles store sub :=
  ⟨fun id draft hget => ⟨draft, h.drafts id draft hget, .inl rfl⟩,
    fun id ticket hget => ⟨ticket, h.tickets id ticket hget, .refl ticket⟩⟩

/-- The records of a store are an advance of some of them, too. -/
theorem Within.advanced (h : Within sub store) : Advances sub store := by
  refine ⟨fun id draft draft' hget hget' => ?_, fun id ticket ticket' hget hget' => ?_⟩
  · rw [h.drafts id draft hget, Option.some.injEq] at hget'
    exact .inl hget'.symm
  · rw [h.tickets id ticket hget, Option.some.injEq] at hget'
    exact hget' ▸ .refl _

theorem Advances.refl (store : DraftStore) : Advances store store := by
  refine ⟨fun id draft draft' hget hget' => ?_, fun id ticket ticket' hget hget' => ?_⟩
  · rw [hget, Option.some.injEq] at hget'
    exact .inl hget'.symm
  · rw [hget, Option.some.injEq] at hget'
    exact hget' ▸ .refl _

theorem Advances.settles {a b c : DraftStore} (h : Advances a b) (h' : Settles b c) :
    Advances a c := by
  refine ⟨fun id draft draft' hget hget' => ?_, fun id ticket ticket' hget hget' => ?_⟩
  · obtain ⟨middle, hmiddle, hsettles⟩ := h'.drafts id draft' hget'
    exact (h.drafts id draft middle hget hmiddle).settles hsettles
  · obtain ⟨middle, hmiddle, hadvances⟩ := h'.tickets id ticket' hget'
    exact (h.tickets id ticket middle hget hmiddle).trans hadvances

/-! ## Ticket ids -/

def sendTicketId (randomId : JsString) : JsString := text "draft-send" ++ text "-" ++ randomId

theorem sendTicketId_injective {a b : JsString} (h : sendTicketId a = sendTicketId b) : a = b :=
  append_cancel_left h

/-- The ticket ids of a store come from `used`. -/
structure Named (used : List JsString) (store : DraftStore) : Prop where
  tickets : ∀ id ticket, store.tickets.get? id = some ticket → ∃ a ∈ used, id = sendTicketId a
  drafts : ∀ id draft materialization, store.drafts.get? id = some draft →
    draft.resource.materialization = some materialization →
    ∃ a ∈ used, materialization.ticketId = sendTicketId a

theorem Named.within (h : Named used store) (hsub : Within sub store) : Named used sub :=
  ⟨fun id ticket hget => h.tickets id ticket (hsub.tickets id ticket hget),
    fun id draft m hget => h.drafts id draft m (hsub.drafts id draft hget)⟩

theorem Named.mono {used' : List JsString} (h : Named used store) (hsub : used ⊆ used') :
    Named used' store := by
  refine ⟨fun id ticket hget => ?_, fun id draft m hget hm => ?_⟩
  · obtain ⟨a, ha, heq⟩ := h.tickets id ticket hget
    exact ⟨a, hsub ha, heq⟩
  · obtain ⟨a, ha, heq⟩ := h.drafts id draft m hget hm
    exact ⟨a, hsub ha, heq⟩

/-! ## Writing a draft and its ticket -/

def setDraft (store : DraftStore) (id : JsString) (draft : StoredDraft) : DraftStore :=
  { store with drafts := store.drafts.set id draft }

/-- A draft and its ticket are written together. -/
def rewrite (store : DraftStore) (id : JsString) (draft : StoredDraft) (ticketId : JsString)
    (ticket : StoredTicket) : DraftStore where
  drafts := store.drafts.set id draft
  tickets := store.tickets.set ticketId ticket

section
variable {id ticketId : JsString} {draft : StoredDraft} {ticket : StoredTicket}

/-- No other draft and no other ticket has anything to do with the two. -/
structure Alone (store : DraftStore) (id ticketId : JsString) : Prop where
  tickets : ∀ other ticket, store.tickets.get? other = some ticket →
    ticket.ticket.draftId = id → other = ticketId
  drafts : ∀ other draft materialization, store.drafts.get? other = some draft →
    draft.resource.materialization = some materialization →
    materialization.ticketId = ticketId → other = id

theorem Agrees.rewrite (h : store.Agrees) (halone : Alone store id ticketId)
    (hdraftId : draft.resource.draftId = id) (hticketId : ticket.ticket.ticketId = ticketId)
    (hid : ticket.ticket.draftId = id) (hjoined : Joined draft ticket) :
    (store.rewrite id draft ticketId ticket).Agrees := by
  obtain ⟨_, hown, hownId, -⟩ := hjoined.materialization
  rw [hticketId] at hownId
  refine ⟨fun other draft' hget => ?_, fun other ticket' hget => ?_, fun other draft' hget => ?_,
    fun other ticket' hget => ?_, fun other draft' m ticket' hget hm hget' => ?_⟩
  all_goals simp only [DraftStore.rewrite, get?_set] at *
  · split at hget
    · rename_i heq
      cases hget
      exact hdraftId.trans heq
    · exact h.draftId other draft' hget
  · split at hget
    · rename_i heq
      cases hget
      exact hticketId.trans heq
    · exact h.ticketId other ticket' hget
  · split at hget
    · cases hget
      exact fun hstate => absurd hstate hjoined.image.not_draft
    · exact h.unsent other draft' hget
  · split at hget
    · cases hget
      rw [if_pos hid.symm]
      exact ⟨draft, rfl, hjoined⟩
    · rename_i hne
      rw [if_neg fun heq => hne (halone.tickets other ticket' hget heq.symm).symm]
      exact h.joined other ticket' hget
  · split at hget
    · rename_i heq
      cases hget
      rw [hown] at hm
      cases hm
      rw [if_pos hownId.symm] at hget'
      cases hget'
      exact hid.trans heq
    · rename_i hne
      rw [if_neg fun heq => hne (halone.drafts other draft' m hget hm heq.symm).symm] at hget'
      exact h.owned other draft' m ticket' hget hm hget'

theorem Advances.rewrite
    (hdraft : ∀ before, store.drafts.get? id = some before →
      before.resource.state.isTerminal = false ∧
        before.resource.revision < draft.resource.revision)
    (hticket : ∀ before, store.tickets.get? ticketId = some before →
      TicketAdvances before ticket) : Advances store (store.rewrite id draft ticketId ticket) := by
  refine ⟨fun other before after hget hget' => ?_, fun other before after hget hget' => ?_⟩
  all_goals simp only [DraftStore.rewrite, get?_set] at hget'
  · split at hget'
    · rename_i heq
      cases hget'
      exact .inr (.inl (hdraft before (heq ▸ hget)))
    · rw [hget, Option.some.injEq] at hget'
      exact .inl hget'.symm
  · split at hget'
    · rename_i heq
      cases hget'
      exact hticket before (heq ▸ hget)
    · rw [hget, Option.some.injEq] at hget'
      exact hget' ▸ .refl _

theorem Named.rewrite (h : Named used store) (hticketId : ticket.ticket.ticketId = ticketId)
    (hjoined : Joined draft ticket) (hid : ∃ a ∈ used, ticketId = sendTicketId a) :
    Named used (store.rewrite id draft ticketId ticket) := by
  refine ⟨fun other ticket' hget => ?_, fun other draft' m hget hm => ?_⟩
  all_goals simp only [DraftStore.rewrite, get?_set] at hget
  · split at hget
    · rename_i heq
      exact heq ▸ hid
    · exact h.tickets other ticket' hget
  · split at hget
    · cases hget
      obtain ⟨_, hown, hownId, -⟩ := hjoined.materialization
      rw [hown] at hm
      cases hm
      exact (hownId.trans hticketId) ▸ hid
    · exact h.drafts other draft' m hget hm

/-- The draft and the ticket of a store have nothing to do with its other records. -/
theorem Agrees.alone (h : store.Agrees) (hticket : store.tickets.get? ticketId = some ticket)
    (hid : ticket.ticket.draftId = id) : Alone store id ticketId := by
  refine ⟨fun other ticket' hget hother => ?_, fun other draft' m hget hm heq => ?_⟩
  · exact h.single hget hticket (hother.trans hid.symm)
  · rw [← heq] at hticket
    exact (h.owned other draft' m ticket hget hm hticket).symm.trans hid

theorem Agrees.alone_new (h : store.Agrees) (hnamed : Named used store) {a : JsString}
    (ha : a ∉ used) (hdraft : store.drafts.get? id = some draft)
    (hstate : draft.resource.state = .draft) : Alone store id (sendTicketId a) := by
  refine ⟨fun other ticket hget hother => ?_, fun other draft' m hget hm heq => ?_⟩
  · obtain ⟨_, hown, hjoined⟩ := h.joined other ticket hget
    rw [hother, hdraft] at hown
    cases hown
    exact absurd hstate hjoined.image.not_draft
  · obtain ⟨_, hb, hname⟩ := hnamed.drafts other draft' m hget hm
    rw [heq] at hname
    exact absurd (sendTicketId_injective hname ▸ hb) ha

theorem Agrees.setDraft (h : store.Agrees) (hdraftId : draft.resource.draftId = id)
    (hticket : ∀ ticketId ticket, store.tickets.get? ticketId = some ticket →
      ticket.ticket.draftId ≠ id)
    (hunsent : draft.resource.state = .draft → draft.resource.materialization = none)
    (hmaterialization : ∀ materialization, draft.resource.materialization = some materialization →
      store.tickets.get? materialization.ticketId = none) : (store.setDraft id draft).Agrees := by
  refine ⟨fun other draft' hget => ?_, h.ticketId, fun other draft' hget => ?_,
    fun other ticket' hget => ?_, fun other draft' m ticket' hget hm hget' => ?_⟩
  all_goals simp only [DraftStore.setDraft, get?_set] at *
  · split at hget
    · rename_i heq
      cases hget
      exact hdraftId.trans heq
    · exact h.draftId other draft' hget
  · split at hget
    · cases hget
      exact hunsent
    · exact h.unsent other draft' hget
  · rw [if_neg (Ne.symm (hticket other ticket' hget))]
    exact h.joined other ticket' hget
  · split at hget
    · cases hget
      rw [hmaterialization m hm] at hget'
      cases hget'
    · exact h.owned other draft' m ticket' hget hm hget'

theorem Advances.setDraft
    (hdraft : ∀ before, store.drafts.get? id = some before → DraftAdvances before draft) :
    Advances store (store.setDraft id draft) := by
  refine ⟨fun other before after hget hget' => ?_, (Advances.refl store).tickets⟩
  simp only [DraftStore.setDraft, get?_set] at hget'
  split at hget'
  · rename_i heq
    cases hget'
    exact hdraft before (heq ▸ hget)
  · rw [hget, Option.some.injEq] at hget'
    exact .inl hget'.symm

theorem Named.setDraft (h : Named used store)
    (hdraft : ∀ materialization, draft.resource.materialization = some materialization →
      ∃ a ∈ used, materialization.ticketId = sendTicketId a) :
    Named used (store.setDraft id draft) := by
  refine ⟨h.tickets, fun other draft' m hget hm => ?_⟩
  simp only [DraftStore.setDraft, get?_set] at hget
  split at hget
  · cases hget
    exact hdraft m hm
  · exact h.drafts other draft' m hget hm

end

/-! ## Pruning -/

theorem prune_drafts {now : Int} {id : JsString} {draft : StoredDraft}
    (hget : (store.prune limits now).drafts.get? id = some draft) :
    store.drafts.get? id = some draft := by
  rw [prune, get?_filterValues] at hget
  exact (filter_eq_some_iff.mp hget).1

theorem prune_tickets {now : Int} {id : JsString} {ticket : StoredTicket}
    (hget : (store.prune limits now).tickets.get? id = some ticket) :
    store.tickets.get? id = some ticket := by
  rw [prune, get?_filterValues] at hget
  exact (filter_eq_some_iff.mp hget).1

theorem prune_draft_live {now : Int} {id : JsString} {draft : StoredDraft}
    (hget : store.drafts.get? id = some draft)
    (hstate : draft.resource.state.isTerminal = false) :
    (store.prune limits now).drafts.get? id = some draft := by
  rw [prune, get?_filterValues, hget]
  simp [draftExpired, hstate]

theorem prune_draft_sent {now : Int} {id : JsString} {ticket : StoredTicket} {draft : StoredDraft}
    (hget : (store.prune limits now).tickets.get? id = some ticket)
    (hdraft : store.drafts.get? ticket.ticket.draftId = some draft)
    (hid : draft.resource.draftId = ticket.ticket.draftId) :
    (store.prune limits now).drafts.get? ticket.ticket.draftId = some draft := by
  have hlisted : ((store.prune limits now).tickets.values.any fun other =>
      other.ticket.draftId = draft.resource.draftId) = true := by
    refine List.any_eq_true.mpr ⟨ticket, mem_values.mpr ⟨id, hget⟩, ?_⟩
    simp [hid]
  change (store.tickets.filterValues fun stored => !ticketExpired _ stored).values.any _ = true
    at hlisted
  rw [prune, get?_filterValues, hdraft]
  simp only [filter_some, hlisted]
  simp

theorem Agrees.prune_within (h : store.Agrees) (limits : DashboardSessionDraftLimits) (now : Int) :
    Within (store.prune limits now) store := by
  refine ⟨fun _ _ => prune_drafts, fun _ _ => prune_tickets, fun id ticket hget => ?_⟩
  obtain ⟨_, hdraft, -⟩ := h.joined id ticket (prune_tickets hget)
  rw [prune_draft_sent hget hdraft (h.draftId _ _ hdraft)]
  rfl

/-! ## Operations -/

theorem deterministicDraftSession_ok (draftId : JsString) :
    draftSessionIdentity (platform.deterministicDraftSession draftId) = .ok () := by
  have hhex := (platform.sha256 draftId).hex
  simp only [isHexDigest, and_eq_true, decide_eq_true_eq, List.all_eq_true] at hhex
  obtain ⟨hlength, hdigits⟩ := hhex
  have hunit : ∀ u ∈ (platform.sha256 draftId).text.take 40, isAlphanumeric u = true := by
    intro u hu
    have := hdigits u (mem_of_mem_take hu)
    simp only [isAlphanumeric, or_eq_true, and_eq_true, decide_eq_true_eq] at this ⊢
    omega
  have hdash : ∀ u ∈ text "dash-",
      (isAlphanumeric u || u = 0x2e || u = 0x5f || u = 0x3a || u = 0x2d) = true := by
    decide
  have hid : ∀ u ∈ text "dash-" ++ (platform.sha256 draftId).text.take 40,
      (isAlphanumeric u || u = 0x2e || u = 0x5f || u = 0x3a || u = 0x2d) = true := by
    intro u hu
    rcases mem_append.mp hu with hu | hu
    · exact hdash u hu
    · simp [hunit u hu]
  have hname : boundedId (text "dash-" ++ (platform.sha256 draftId).text.take 40) "sessionId" 128 =
      .ok () := by
    refine boundedId_ok.mpr ⟨⟨?_, ?_, fun hzero => ?_⟩, ?_⟩
    · rw [length_append]
      exact Nat.le_add_right_of_le (by decide)
    · rw [length_append, length_take, hlength]
      decide
    · exact absurd (hid 0 hzero) (by decide)
    · rw [isId, and_eq_true, List.all_eq_true]
      exact ⟨rfl, hid⟩
  simp only [draftSessionIdentity, DraftPlatform.deterministicDraftSession, bind_ok]
  exact ⟨(), hname, rfl⟩

variable {draftId : JsString} {clock : Nat → Int} {randomId : JsString}
  {result : DashboardSessionDraftSendTicket}

theorem create_change {request : DashboardSessionDraftCreateRequest}
    {result : DashboardSessionDraftResource}
    (h : store.create platform limits request clock randomId = .ok (.change store' result)) :
    ∃ (id : JsString) (draft : StoredDraft),
      store' = (store.prune limits (clock 0)).setDraft id draft ∧ draft.resource.draftId = id ∧
      draft.resource.state = .draft ∧ draft.resource.revision = 1 ∧
      draft.resource.materialization = none ∧ storedDraft limits draft = .ok draft ∧
      (store.prune limits (clock 0)).drafts.get? id = none ∧
      (store.prune limits (clock 0)).drafts.size < limits.maxDrafts := by
  simp only [create, bind_ok] at h
  obtain ⟨_, hrequest, h⟩ := h
  split at h
  · simp at h
  simp only [bind_ok, check_ok, validateDashboardSessionDraftResource_ok, decide_eq_true_eq] at h
  obtain ⟨-, hsize, _, -, -, hnew, _, ⟨hresource, rfl⟩, h⟩ := h
  obtain ⟨rfl, rfl⟩ := h
  simp only [not_eq_true', has_eq_false] at hnew
  simp only [validateDashboardSessionDraftCreateRequest, bind_ok] at hrequest
  obtain ⟨_, -, _, hkey, -⟩ := hrequest
  refine ⟨_, _, rfl, rfl, rfl, rfl, rfl, (storedDraft_ok limits).mpr ⟨⟨hresource, ?_, ?_⟩, rfl⟩,
    hnew, hsize⟩
  · exact boundedId_field hkey
  · intro key hcancel
    cases hcancel

theorem cancelTicket_ok (limits : DashboardSessionDraftLimits) {active ticket : StoredTicket}
    {now : Int} (h : cancelTicket active now = .ok ticket) :
    ticket.ticket.ticketId = active.ticket.ticketId ∧
      ticket.ticket.draftId = active.ticket.draftId ∧ ticket.phase = active.phase ∧
      (storedTicket limits active = .ok active → storedTicket limits ticket = .ok ticket) ∧
      (active.ticket.state.isTerminal = false → ticket.ticket.state =
        if crossedPromptBoundary active then .indeterminate else .failed) := by
  rw [cancelTicket] at h
  split at h
  · rename_i hterminal
    cases h
    exact ⟨rfl, rfl, rfl, id, fun hrunning => by rw [hterminal] at hrunning; cases hrunning⟩
  · simp only [bind_ok, validateDashboardSessionDraftSendTicket_ok, Except.ok.injEq] at h
    obtain ⟨_, ⟨hticket, rfl⟩, rfl⟩ := h
    refine ⟨rfl, rfl, rfl, fun hloaded => ?_, fun _ => rfl⟩
    obtain ⟨⟨-, hrest⟩, -⟩ := (storedTicket_ok limits).mp hloaded
    exact (storedTicket_ok limits).mpr ⟨⟨hticket, hrest⟩, rfl⟩

theorem cancel_change {request : DashboardSessionDraftCancelRequest}
    {result : DashboardSessionDraftResource}
    (h : store.cancel platform limits draftId request clock = .ok (.change store' result)) :
    ∃ stored draft : StoredDraft, store.drafts.get? draftId = some stored ∧
      stored.resource.state.isTerminal = false ∧
      (storedDraft limits stored = .ok stored → storedDraft limits draft = .ok draft) ∧
      ((store' = store.setDraft draftId draft ∧
          draft.resource.draftId = stored.resource.draftId ∧
          draft.resource.revision = stored.resource.revision + 1 ∧
          draft.resource.state = .cancelled ∧
          draft.resource.materialization = stored.resource.materialization ∧
          store.activeTicket stored = none) ∨
        ∃ active ticket : StoredTicket, store.activeTicket stored = some active ∧
          store' = store.rewrite draftId draft ticket.ticket.ticketId ticket ∧
          draft.resource.draftId = stored.resource.draftId ∧
          draft.resource.revision = stored.resource.revision + 1 ∧
          draft.resource.state ≠ .draft ∧
          ticket.ticket.ticketId = active.ticket.ticketId ∧
          ticket.ticket.draftId = active.ticket.draftId ∧ ticket.phase = active.phase ∧
          (storedTicket limits active = .ok active → storedTicket limits ticket = .ok ticket) ∧
          (active.ticket.state.isTerminal = false → Joined draft ticket)) := by
  simp only [cancel, bind_ok] at h
  obtain ⟨-, -, _, hrequest, h⟩ := h
  simp only [validateDashboardSessionDraftCancelRequest, bind_ok] at hrequest
  obtain ⟨_, -, _, hkey, -⟩ := hrequest
  split at h
  · cases h
  rename_i stored hstored
  split at h
  · simp at h
  simp only [bind_ok, check_ok, decide_eq_true_eq, not_eq_true'] at h
  obtain ⟨-, -, -, hterminal, h⟩ := h
  have hloads : ∀ resource, checkResource limits resource = .ok () →
      storedDraft limits stored = .ok stored →
      storedDraft limits { stored with
        resource
        cancelIdempotencyKey := some request.idempotencyKey
        cancelFingerprint := some (platform.semanticFingerprint
          (.cancel draftId request.expectedRevision)) } = .ok { stored with
        resource
        cancelIdempotencyKey := some request.idempotencyKey
        cancelFingerprint := some (platform.semanticFingerprint
          (.cancel draftId request.expectedRevision)) } := by
    intro resource hresource hloaded
    obtain ⟨⟨-, hcreate, -⟩, -⟩ := (storedDraft_ok limits).mp hloaded
    refine (storedDraft_ok limits).mpr ⟨⟨hresource, hcreate, fun key hcancel => ?_⟩, rfl⟩
    cases hcancel
    exact boundedId_field hkey
  refine ⟨stored, ?_⟩
  split at h
  · rename_i hactive
    simp only [bind_ok, validateDashboardSessionDraftResource_ok] at h
    obtain ⟨resource, ⟨hresource, rfl⟩, h⟩ := h
    obtain ⟨rfl, -⟩ := h
    exact ⟨_, hstored, hterminal, hloads _ hresource,
      .inl ⟨rfl, rfl, rfl, rfl, rfl, hactive⟩⟩
  · rename_i active hactive
    simp only [bind_ok, validateDashboardSessionDraftResource_ok] at h
    obtain ⟨ticket, hticket, resource, ⟨hresource, rfl⟩, h⟩ := h
    obtain ⟨rfl, -⟩ := h
    obtain ⟨hid, hown, hphase, hkept, hstate⟩ := cancelTicket_ok limits hticket
    refine ⟨_, hstored, hterminal, hloads _ hresource, .inr ⟨active, ticket, hactive, rfl, rfl,
      rfl, ?_, hid, hown, hphase, hkept, fun hrunning => ⟨⟨_, rfl, rfl, rfl⟩, ?_⟩⟩⟩
    · cases crossedPromptBoundary active <;> exact fun hdraft => by cases hdraft
    rw [hstate hrunning]
    cases crossedPromptBoundary active
    · exact .inr ⟨rfl, rfl⟩
    · exact .inl rfl

theorem submitSend_change {request : DashboardSessionDraftSendRequest}
    (h : store.submitSend platform limits draftId request clock randomId =
      .ok (.change store' result)) :
    ∃ (stored draft : StoredDraft) (ticket : StoredTicket),
      store' = (store.prune limits (clock 0)).rewrite draftId draft (sendTicketId randomId) ticket ∧
      draft.resource.draftId = stored.resource.draftId ∧
      draft.resource.revision = stored.resource.revision + 1 ∧
      (storedDraft limits stored = .ok stored → storedDraft limits draft = .ok draft) ∧
      ticket.ticket.ticketId = sendTicketId randomId ∧ ticket.ticket.draftId = draftId ∧
      storedTicket limits ticket = .ok ticket ∧
      store.drafts.get? draftId = some stored ∧ stored.resource.state = .draft ∧
      (store.prune limits (clock 0)).tickets.size < limits.maxTickets ∧ Joined draft ticket := by
  simp only [submitSend, bind_ok] at h
  obtain ⟨-, -, _, hrequest, h⟩ := h
  simp only [validateDashboardSessionDraftSendRequest, bind_ok] at hrequest
  obtain ⟨_, hmessage, -⟩ := hrequest
  split at h
  · simp at h
  split at h
  · cases h
  rename_i stored hstored
  simp only [bind_ok, check_ok, decide_eq_true_eq, newId, Except.ok.injEq,
    validateDashboardSessionDraftResource_ok, validateDashboardSessionDraftSendTicket_ok] at h
  obtain ⟨-, -, -, hstate, -, hsize, _, ⟨-, -, rfl⟩, ticket, ⟨hticket, rfl⟩, _,
    ⟨hresource, rfl⟩, h⟩ := h
  obtain ⟨rfl, -⟩ := h
  refine ⟨stored, _, _, rfl, rfl, rfl, fun hloaded => ?_, rfl, rfl,
    (storedTicket_ok limits).mpr
      ⟨⟨hticket, hmessage, deterministicDraftSession_ok draftId⟩, rfl⟩,
    hstored, hstate, hsize, ⟨_, rfl, rfl, rfl⟩, .inl rfl⟩
  obtain ⟨⟨-, hkeys⟩, -⟩ := (storedDraft_ok limits).mp hloaded
  exact (storedDraft_ok limits).mpr ⟨⟨hresource, hkeys⟩, rfl⟩

theorem transitionSend_change {ticketId : JsString} {transition : DashboardSessionDraftTransition}
    (h : store.transitionSend limits ticketId transition clock = .ok (.change store' result)) :
    ∃ (id : JsString) (stored draft : StoredDraft) (active ticket : StoredTicket),
      store' = store.rewrite id draft ticketId ticket ∧
      draft.resource.draftId = stored.resource.draftId ∧
      draft.resource.revision = stored.resource.revision + 1 ∧
      (storedDraft limits stored = .ok stored → storedDraft limits draft = .ok draft) ∧
      ticket.ticket.ticketId = active.ticket.ticketId ∧ ticket.ticket.draftId = id ∧
      (storedTicket limits active = .ok active → storedTicket limits ticket = .ok ticket) ∧
      store.tickets.get? ticketId = some active ∧ active.ticket.draftId = id ∧
      active.ticket.state.isTerminal = false ∧ active.phase.order ≤ ticket.phase.order ∧
      store.drafts.get? id = some stored ∧
      (active.ticket.ticketId = ticketId → Joined draft ticket) := by
  simp only [transitionSend, bind_ok] at h
  obtain ⟨-, -, h⟩ := h
  split at h
  · cases h
  rename_i active hactive
  simp only [bind_ok, check_ok, decide_eq_true_eq] at h
  obtain ⟨_, hexpected, _, hvalid, h⟩ := h
  split at h
  · cases h
  rename_i stored hstored
  simp only [bind_ok, validateDashboardSessionDraftResource_ok,
    validateDashboardSessionDraftSendTicket_ok] at h
  obtain ⟨ticket, ⟨hticket, rfl⟩, _, ⟨hresource, rfl⟩, h⟩ := h
  obtain ⟨rfl, -⟩ := h
  have hphase := (validateTicketTransition_ok hvalid).2
  have hrunning : active.ticket.state.isTerminal = false := by
    rw [hexpected]
    cases transition.expectedState <;> rfl
  refine ⟨_, stored, _, active, _, rfl, rfl, rfl, fun hloaded => ?_, rfl, rfl,
    fun hloaded => ?_, hactive, rfl, hrunning, hphase, hstored,
    fun hid => ⟨⟨_, rfl, hid.symm, rfl⟩, .inl rfl⟩⟩
  · obtain ⟨⟨-, hkeys⟩, -⟩ := (storedDraft_ok limits).mp hloaded
    exact (storedDraft_ok limits).mpr ⟨⟨hresource, hkeys⟩, rfl⟩
  · obtain ⟨⟨-, hrest⟩, -⟩ := (storedTicket_ok limits).mp hloaded
    exact (storedTicket_ok limits).mpr ⟨⟨hticket, hrest⟩, rfl⟩

/-- What a change of the memory makes of it. -/
structure Succeeds (used : List JsString) (before after : DraftStore) : Prop where
  agrees : after.Agrees
  named : Named used after
  advances : Advances before after

theorem Succeeds.create {request : DashboardSessionDraftCreateRequest}
    {result : DashboardSessionDraftResource} (hagrees : store.Agrees) (hnamed : Named used store)
    (h : store.create platform limits request clock randomId = .ok (.change store' result)) :
    Succeeds used store store' := by
  obtain ⟨_, _, rfl, hid, hstate, hrevision, hnone, -, hnew, -⟩ := create_change h
  have hwithin := hagrees.prune_within limits (clock 0)
  have hpruned := hagrees.within hwithin
  refine ⟨hpruned.setDraft hid ?_ (fun _ => hnone) ?_, (hnamed.within hwithin).setDraft ?_, ?_, ?_⟩
  · intro ticketId ticket hget hdraft
    obtain ⟨_, hown, -⟩ := hpruned.joined ticketId ticket hget
    rw [hdraft, hnew] at hown
    cases hown
  · intro m hm
    rw [hnone] at hm
    cases hm
  · intro m hm
    rw [hnone] at hm
    cases hm
  · intro other before after hget hget'
    simp only [setDraft, get?_set] at hget'
    split at hget'
    · rename_i heq
      cases hget'
      subst heq
      refine .inr (.inr ⟨?_, hstate, hrevision⟩)
      by_contra hlive
      rw [not_eq_true] at hlive
      rw [prune_draft_live hget hlive] at hnew
      cases hnew
    · rw [prune_drafts hget', Option.some.injEq] at hget
      exact .inl hget
  · intro other before after hget hget'
    rw [prune_tickets hget', Option.some.injEq] at hget
    exact hget ▸ .refl _

theorem Succeeds.cancel {request : DashboardSessionDraftCancelRequest}
    {result : DashboardSessionDraftResource} (hagrees : store.Agrees) (hnamed : Named used store)
    (h : store.cancel platform limits draftId request clock = .ok (.change store' result)) :
    Succeeds used store store' := by
  obtain ⟨stored, draft, hstored, hlive, -, hcases⟩ := cancel_change h
  obtain rfl := hagrees.draftId _ _ hstored
  rcases hcases with ⟨rfl, hid, hrevision, hstate, hsame, hnone⟩ |
    ⟨active, ticket, hticket, rfl, hid, hrevision, -, hticketId, hown, hphase, -, hjoined⟩
  · have hkept : ∀ m, draft.resource.materialization = some m →
        store.tickets.get? m.ticketId = none := by
      intro m hm
      rw [hsame] at hm
      rwa [activeTicket, hm] at hnone
    refine ⟨hagrees.setDraft hid ?_ ?_ hkept, hnamed.setDraft ?_, .setDraft ?_⟩
    · intro ticketId ticket hget hdraft
      obtain ⟨_, hown, ⟨m, hm, hmid, -⟩, -⟩ := hagrees.joined ticketId ticket hget
      rw [hdraft, hstored] at hown
      cases hown
      have := hkept m (hsame.trans hm)
      rw [hmid, hagrees.ticketId _ _ hget, hget] at this
      cases this
    · intro hdraft
      rw [hstate] at hdraft
      cases hdraft
    · intro m hm
      exact hnamed.drafts _ stored m hstored (hsame ▸ hm)
    · intro before hbefore
      rw [hstored] at hbefore
      cases hbefore
      exact .inr (.inl ⟨hlive, by omega⟩)
  · obtain ⟨m, hm, hget⟩ := bind_eq_some_iff.mp hticket
    have howner := hagrees.owned _ stored m active hstored hm hget
    obtain ⟨_, hstored', hjoined'⟩ := hagrees.joined _ _ hget
    rw [howner, hstored] at hstored'
    cases hstored'
    have hrunning : active.ticket.state.isTerminal = false :=
      hjoined'.image.isTerminal ▸ hlive
    rw [← hagrees.ticketId _ _ hget, ← hticketId] at hget
    have hjoins := hjoined hrunning
    refine ⟨hagrees.rewrite (hagrees.alone hget howner) hid rfl (hown.trans howner) hjoins,
      hnamed.rewrite rfl hjoins (hnamed.tickets _ _ hget), .rewrite ?_ ?_⟩
    · intro before hbefore
      rw [hstored] at hbefore
      cases hbefore
      exact ⟨hlive, by omega⟩
    · intro before hbefore
      rw [hget] at hbefore
      cases hbefore
      exact ⟨hphase ▸ Nat.le_refl _, fun hterminal => by rw [hrunning] at hterminal; cases hterminal⟩

theorem Succeeds.submitSend {request : DashboardSessionDraftSendRequest} (hagrees : store.Agrees)
    (hnamed : Named used store) (hfresh : randomId ∉ used)
    (h : store.submitSend platform limits draftId request clock randomId =
      .ok (.change store' result)) : Succeeds (randomId :: used) store store' := by
  obtain ⟨stored, _, _, rfl, hid, _, -, hticketId, hown, -, hstored, hstate, -,
    hjoined⟩ := submitSend_change h
  obtain rfl := hagrees.draftId _ _ hstored
  have hwithin := hagrees.prune_within limits (clock 0)
  have hpruned := hagrees.within hwithin
  have hprunedNamed := hnamed.within hwithin
  have hlive : stored.resource.state.isTerminal = false := by
    rw [hstate]
    rfl
  have hkept : (store.prune limits (clock 0)).drafts.get? stored.resource.draftId = some stored :=
    prune_draft_live hstored hlive
  refine ⟨hpruned.rewrite (hpruned.alone_new hprunedNamed hfresh hkept hstate) hid hticketId hown
      hjoined, (hprunedNamed.mono (subset_cons_self _ _)).rewrite hticketId hjoined
      ⟨randomId, mem_cons_self, rfl⟩, ?_⟩
  refine ⟨fun other before after hget hget' => ?_, fun other before after hget hget' => ?_⟩
  all_goals simp only [rewrite, get?_set] at hget'
  · split at hget'
    · rename_i heq
      cases hget'
      rw [← heq, hstored] at hget
      cases hget
      exact .inr (.inl ⟨hlive, by omega⟩)
    · rw [prune_drafts hget', Option.some.injEq] at hget
      exact .inl hget
  · split at hget'
    · rename_i heq
      rw [← heq] at hget
      obtain ⟨a, ha, hname⟩ := hnamed.tickets _ before hget
      exact absurd (sendTicketId_injective hname ▸ ha) hfresh
    · rw [prune_tickets hget', Option.some.injEq] at hget
      exact hget ▸ .refl _

theorem Succeeds.transitionSend {ticketId : JsString} {transition : DashboardSessionDraftTransition}
    (hagrees : store.Agrees) (hnamed : Named used store)
    (h : store.transitionSend limits ticketId transition clock = .ok (.change store' result)) :
    Succeeds used store store' := by
  obtain ⟨_, _, _, _, _, rfl, hid, _, -, hticketId, hown, -, hactive,
    howner, hrunning, hphase, hstored, hjoins⟩ := transitionSend_change h
  have hactiveId := hagrees.ticketId _ _ hactive
  have hjoined := hjoins hactiveId
  rw [hactiveId] at hticketId
  rw [hagrees.draftId _ _ hstored] at hid
  refine ⟨hagrees.rewrite (hagrees.alone hactive howner) hid hticketId hown hjoined,
    hnamed.rewrite hticketId hjoined (hnamed.tickets _ _ hactive), .rewrite ?_ ?_⟩
  · intro before hbefore
    rw [hstored] at hbefore
    cases hbefore
    obtain ⟨_, hget, hjoined'⟩ := hagrees.joined _ _ hactive
    rw [howner, hstored] at hget
    cases hget
    exact ⟨hjoined'.image.isTerminal.trans hrunning, by omega⟩
  · intro before hbefore
    rw [hactive] at hbefore
    cases hbefore
    exact ⟨hphase, fun hterminal => by rw [hrunning] at hterminal; cases hterminal⟩

end DraftStore

end PiDaemon.Drafts
