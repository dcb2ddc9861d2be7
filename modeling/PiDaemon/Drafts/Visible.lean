import PiDaemon.Drafts.Evolution

/-!
# What a read of the drafts sees

The reads of the draft store do not wait for the calls that change it.  A call changes the memory
first; it takes the change back when it throws, or when its write has failed.

* `reads_established`: the values that reads return.
-/

namespace PiDaemon.Drafts

open Lib Durability

/-- A call that changes the store, with its readings of the clock. -/
inductive DraftCall where
  | create (request : DashboardSessionDraftCreateRequest) (clock : Nat → Int) (randomId : JsString)
  | cancel (draftId : JsString) (request : DashboardSessionDraftCancelRequest) (clock : Nat → Int)
  | submitSend (draftId : JsString) (request : DashboardSessionDraftSendRequest)
      (clock : Nat → Int) (randomId : JsString)
  | transitionSend (ticketId : JsString) (transition : DashboardSessionDraftTransition)
      (clock : Nat → Int)

inductive DraftRead where
  | get (draftId : JsString)
  | getSend (ticketId : JsString)
  | getSendWork (ticketId : JsString)

inductive DraftView where
  | draft (resource : Option DashboardSessionDraftResource)
  | ticket (ticket : Option DashboardSessionDraftSendTicket)
  | work (work : Option (DashboardSessionDraftSendTicket × JsString × DashboardSessionDraftPrivatePhase ×
      DashboardSessionDraftIdentity))
  deriving DecidableEq

def DraftStore.view (store : DraftStore) : DraftRead → DraftView
  | .get draftId => .draft ((store.drafts.get? draftId).map (·.resource))
  | .getSend ticketId => .ticket ((store.tickets.get? ticketId).map (·.ticket))
  | .getSendWork ticketId =>
    .work ((store.tickets.get? ticketId).map fun stored =>
      (stored.ticket, stored.message, stored.phase, stored.targetSession))

section
variable (platform : DraftPlatform) (limits : DashboardSessionDraftLimits)

/-- What is checked before the call waits for its turn. -/
def DraftCall.validate : DraftCall → Except DashboardSessionDraftError Unit
  | .create request _ _ => validateDashboardSessionDraftCreateRequest request limits
  | .cancel draftId request _ => do
    validateId draftId "draftId"
    validateDashboardSessionDraftCancelRequest request
  | .submitSend draftId request _ _ => do
    validateId draftId "draftId"
    validateDashboardSessionDraftSendRequest request limits
  | .transitionSend ticketId _ _ => validateId ticketId "ticketId"

/-- The memory that has to be written, if there is one. -/
def Mutation.written {A : Type} : Mutation A → Option DraftStore
  | .keep _ => none
  | .change store _ => some store

def DraftCall.perform (store : DraftStore) :
    DraftCall → Except DashboardSessionDraftError (Option DraftStore)
  | .create request clock randomId =>
    (store.create platform limits request clock randomId).map Mutation.written
  | .cancel draftId request clock =>
    (store.cancel platform limits draftId request clock).map Mutation.written
  | .submitSend draftId request clock randomId =>
    (store.submitSend platform limits draftId request clock randomId).map Mutation.written
  | .transitionSend ticketId transition clock =>
    (store.transitionSend limits ticketId transition clock).map Mutation.written

/-- A call that has changed the memory and has not ended. -/
structure PendingDraftCall where
  before : DraftStore
  writes : Bool

/-- What a read has returned, and what had been established by then. -/
structure DraftAnswer where
  read : DraftRead
  view : DraftView
  established : List DraftStore

structure DraftReadWorld where
  memory : DraftStore
  pending : Option PendingDraftCall
  /-- The initial load and the successful writes, the last one first. -/
  established : List DraftStore
  answers : List DraftAnswer

def DraftReadWorld.start (loaded : DraftStore) : DraftReadWorld := ⟨loaded, none, [loaded], []⟩

inductive DraftReadEvent where
  /-- When the call throws, it has changed the memory to `left` by then. -/
  | begin_ (call : DraftCall) (left : DraftStore)
  /-- The call writes, or throws, and ends. -/
  | end_ (outcome : FileOutcome)
  | read (read : DraftRead)

def DraftReadWorld.step (w : DraftReadWorld) : DraftReadEvent → Option DraftReadWorld
  | .begin_ call left =>
    match w.pending, call.validate limits with
    | some _, _ => none
    | none, .error _ => some w
    | none, .ok () =>
      match call.perform platform limits w.memory with
      | .ok none => some w
      | .ok (some store) => some { w with memory := store, pending := some ⟨w.memory, true⟩ }
      | .error _ => some { w with memory := left, pending := some ⟨w.memory, false⟩ }
  | .end_ outcome =>
    w.pending.map fun pending =>
      if pending.writes ∧ w.memory.stateBytes ≤ limits.maxStateBytes ∧ outcome = .done then
        { w with pending := none, established := w.memory :: w.established }
      else { w with pending := none, memory := pending.before }
  | .read read =>
    some { w with answers := w.answers ++ [⟨read, w.memory.view read, w.established⟩] }

/-- A read does not fall between the change of its record and the end of the call. -/
def ReadOutside (w : DraftReadWorld) : DraftReadEvent → Prop
  | .read read => ∀ pending, w.pending = some pending → w.memory.view read = pending.before.view read
  | _ => True

/-- The value was established when it was read. -/
def DraftAnswer.Established (answer : DraftAnswer) : Prop :=
  ∃ store ∈ answer.established, store.view answer.read = answer.view

/-- What was last established is in the memory, or in what a pending call takes it back to. -/
structure ReadInv (w : DraftReadWorld) : Prop where
  settled : ∃ store ∈ w.established,
    store = (w.pending.elim w.memory PendingDraftCall.before)
  answers : ∀ answer ∈ w.answers, answer.Established

variable {platform limits} {w w' : DraftReadWorld}

theorem ReadInv.step {event : DraftReadEvent} (hinv : ReadInv w) (hread : ReadOutside w event)
    (hstep : w.step platform limits event = some w') : ReadInv w' := by
  obtain ⟨⟨store, hstore, hsettled⟩, hanswers⟩ := hinv
  cases event with
  | begin_ call left =>
    simp only [DraftReadWorld.step] at hstep
    cases hpending : w.pending with
    | some pending =>
      rw [hpending] at hstep
      cases hstep
    | none =>
      rw [hpending] at hstep hsettled
      split at hstep
      · rename_i h
        cases h
      · cases hstep
        exact ⟨⟨store, hstore, by rw [hpending]; exact hsettled⟩, hanswers⟩
      · split at hstep
        · cases hstep
          exact ⟨⟨store, hstore, by rw [hpending]; exact hsettled⟩, hanswers⟩
        · cases hstep
          exact ⟨⟨store, hstore, hsettled⟩, hanswers⟩
        · cases hstep
          exact ⟨⟨store, hstore, hsettled⟩, hanswers⟩
  | end_ outcome =>
    obtain ⟨pending, hpending, rfl⟩ := Option.map_eq_some_iff.mp hstep
    rw [hpending] at hsettled
    split
    · exact ⟨⟨_, List.mem_cons_self, rfl⟩, hanswers⟩
    · exact ⟨⟨store, hstore, hsettled⟩, hanswers⟩
  | read read =>
    cases hstep
    refine ⟨⟨store, hstore, hsettled⟩, fun answer hanswer => ?_⟩
    rcases List.mem_append.mp hanswer with hold | hnew
    · exact hanswers answer hold
    cases List.mem_singleton.mp hnew
    refine ⟨store, hstore, ?_⟩
    cases hpending : w.pending with
    | none =>
      rw [hpending] at hsettled
      exact congrArg (DraftStore.view · read) hsettled
    | some pending =>
      rw [hpending] at hsettled
      rw [hread pending hpending]
      exact congrArg (DraftStore.view · read) hsettled

end

/-- **Reads return what was established**, in the runs in which no read falls between the change of
its record and the end of the call that has changed it. -/
theorem reads_established (platform : DraftPlatform) (limits : DashboardSessionDraftLimits)
    {loaded : DraftStore} {events : List DraftReadEvent} {w : DraftReadWorld}
    (hmeets : Meets (fun w event => DraftReadWorld.step platform limits w event) ReadOutside
      (.start loaded) events)
    (hrun : run (fun w event => DraftReadWorld.step platform limits w event) (.start loaded) events =
      some w) :
    ∀ answer ∈ w.answers, answer.Established :=
  (run_invariant_of_meets (fun _ _ _ hinv hread hstep => ReadInv.step hinv hread hstep)
    ⟨⟨loaded, List.mem_cons_self, rfl⟩, fun _ h => absurd h List.not_mem_nil⟩ hmeets hrun).answers

/-! ### A draft whose write fails -/

instance DraftAnswer.Established.decidable (answer : DraftAnswer) : Decidable answer.Established :=
  inferInstanceAs (Decidable (∃ store ∈ answer.established, _))

instance ReadOutside.decidable (w : DraftReadWorld) :
    (event : DraftReadEvent) → Decidable (ReadOutside w event)
  | .read read =>
    inferInstanceAs (Decidable (∀ pending ∈ w.pending, w.memory.view read = pending.before.view read))
  | .begin_ _ _ | .end_ _ => .isTrue trivial

def createsDraft : DraftReadEvent :=
  .begin_ (.create ⟨text "r", text "k", some (text "d"), plainSpec⟩ (fun _ => 0) (text "a"))
    .empty

theorem reads_established_created : ∃ w,
    run (fun w event =>
        DraftReadWorld.step plainPlatform DEFAULT_DASHBOARD_SESSION_DRAFT_LIMITS w event)
      (.start .empty) [createsDraft, .end_ .done, .read (.get (text "d"))] = some w ∧
    w.answers.map (·.view) ≠ [.draft none] ∧ ∀ answer ∈ w.answers, answer.Established :=
  exists_some_and (by decide +kernel) fun _ hrun _ =>
    reads_established _ _ (by decide +kernel) hrun

/-- The draft is shown while it is written, and is gone when the write has failed. -/
theorem failed_draft_read : ∃ w,
    run (fun w event =>
        DraftReadWorld.step plainPlatform DEFAULT_DASHBOARD_SESSION_DRAFT_LIMITS w event)
      (.start .empty)
      [createsDraft, .read (.get (text "d")), .end_ (.failed false), .read (.get (text "d"))] = some w ∧
    (∃ answer ∈ w.answers, ¬answer.Established) ∧ w.established.map (·.drafts.size) = [0] := by
  decide +kernel

end PiDaemon.Drafts
