import PiDaemon.Lib.Mirror
import PiDaemon.ToolAdapter.Session

/-!
# The accounts of a session

A request that has been accepted is in the queue, with the adapter, or has ended; its promise
is settled when it ends.

* `Accounts`: the counters against the requests that are live, and the ids of all requests
  against those that are settled;
* `Bounded`: the bounds, and that a free slot leaves nobody in the queue but when the socket
  is blocked;
* `request_accounting`: the accounts in every run, and the bounds in the runs that do not
  accept a request into a full queue beside a free slot;
* `queue_outgrows`: a run that does.
-/

namespace PiDaemon.ToolAdapter

open Lib OrderedMap List

/-- The requests that have ended. -/
def OperationQueueStats.terminated (stats : OperationQueueStats) : Nat :=
  stats.completedRequests + stats.failedRequests + stats.cancelledRequests + stats.timedOutRequests

/-- The requests that have been accepted have ended or are live. -/
def OperationQueueStats.Balanced (stats : OperationQueueStats) (live : Nat) : Prop :=
  stats.acceptedRequests = stats.terminated + live

theorem OperationQueueStats.Balanced.terminal {stats : OperationQueueStats} {live : Nat}
    (h : stats.Balanced (live + 1)) (outcome : TerminalRequestOutcome) :
    (stats.terminal outcome).Balanced live := by
  unfold Balanced terminated at *
  cases outcome with
  | completed | failed | cancelled | timedOut =>
    simp only [OperationQueueStats.terminal]
    omega

theorem OperationQueueStats.Balanced.accepted {stats : OperationQueueStats} {live : Nat}
    (h : stats.Balanced live) : stats.accepted.Balanced (live + 1) := by
  unfold Balanced terminated at *
  simp only [OperationQueueStats.accepted]
  omega

namespace HostToolAdapterSession

section
variable {Data : Type} {descriptor : HostToolAdapterDescriptor}
  {s t : HostToolAdapterSession Data}

/-- The requests `live` have not ended, and the promises of `unsettled` are to be settled. -/
structure Accounts (live : List PendingInvocation) (unsettled : List Nat)
    (s : HostToolAdapterSession Data) : Prop where
  requests : s.requests.Balanced live.length
  operations : ∀ operation, (s.operationStats operation).Balanced (countOperation live operation)
  ids : (live.map PendingInvocation.requestId ++ unsettled ++ s.settlements.map Prod.fst).Perm
    (List.range s.nextRequestId)

section
variable {live : List PendingInvocation} {unsettled : List Nat}

theorem Accounts.perm (h : Accounts live unsettled s) {live' : List PendingInvocation}
    (hperm : live.Perm live') : Accounts live' unsettled s := by
  refine ⟨hperm.length_eq ▸ h.requests, fun operation => ?_, ?_⟩
  · have hcount := hperm.countP_eq fun invocation => decide (invocation.operation = operation)
    have hoperation := h.operations operation
    unfold countOperation at *
    rwa [hcount] at hoperation
  · exact (((hperm.map _).append_right _).append_right _).symm.trans h.ids

/-- The accounts depend on the counters and the settlements alone. -/
theorem Accounts.frame (h : Accounts live unsettled s) (hrequests : t.requests = s.requests)
    (hoperations : t.operationStats = s.operationStats) (hsettlements : t.settlements = s.settlements)
    (hnext : t.nextRequestId = s.nextRequestId) : Accounts live unsettled t := by
  constructor
  · rw [hrequests]
    exact h.requests
  · rw [hoperations]
    exact h.operations
  · rw [hsettlements, hnext]
    exact h.ids

variable {pending : PendingInvocation}

theorem Accounts.recordTerminal (h : Accounts (pending :: live) unsettled s) (outcome : TerminalRequestOutcome) :
    Accounts live (pending.requestId :: unsettled) (s.recordTerminal pending outcome) := by
  refine ⟨h.requests.terminal outcome, fun operation => ?_, ?_⟩
  · have hoperation := h.operations operation
    unfold countOperation at hoperation
    rw [countP_cons] at hoperation
    simp only [HostToolAdapterSession.recordTerminal]
    split
    · rename_i heq
      rw [if_pos (by simp [heq])] at hoperation
      exact hoperation.terminal outcome
    · rename_i hne
      rw [if_neg (by simpa using fun heq => hne heq.symm)] at hoperation
      exact hoperation
  · refine List.Perm.trans ?_ h.ids
    simp only [map_cons, cons_append, append_assoc]
    exact perm_middle

theorem Accounts.settle (h : Accounts live (pending.requestId :: unsettled) s) (settlement : Settlement Data) :
    Accounts live unsettled (s.settle pending settlement) := by
  refine ⟨h.requests, h.operations, List.Perm.trans ?_ h.ids⟩
  simp only [HostToolAdapterSession.settle, map_append, map_cons, map_nil,
    append_assoc, cons_append]
  apply List.Perm.append_left
  rw [← append_assoc]
  exact (perm_append_singleton _ _).trans (List.Perm.refl _)

theorem Accounts.finish (h : Accounts (pending :: live) unsettled s) (outcome : TerminalRequestOutcome)
    (settlement : Settlement Data) : Accounts live unsettled (s.finish outcome settlement pending) :=
  (h.recordTerminal outcome).settle settlement

theorem Accounts.foldl_finish (outcome : TerminalRequestOutcome) (settlement : Settlement Data)
    (ended : List PendingInvocation) (h : Accounts (ended ++ live) unsettled s) :
    Accounts live unsettled
      (ended.foldl (fun s pending => s.finish outcome settlement pending) s) := by
  induction ended generalizing s with
  | nil => exact h
  | cons pending rest ih => exact ih (h.finish outcome settlement)

end

/-! ## What a loop leaves as it is -/

/-- Only the accounts are changed. -/
structure SameRequests (s t : HostToolAdapterSession Data) : Prop where
  queue : t.queue = s.queue
  active : t.active = s.active
  bound : t.bound = s.bound
  disposed : t.disposed = s.disposed
  writeBlocked : t.writeBlocked = s.writeBlocked
  binding : t.binding = s.binding

section
variable (s)

theorem SameRequests.refl : SameRequests s s :=
  ⟨rfl, rfl, rfl, rfl, rfl, rfl⟩

theorem SameRequests.trans {s t u : HostToolAdapterSession Data} (hst : SameRequests s t)
    (htu : SameRequests t u) : SameRequests s u :=
  ⟨htu.queue.trans hst.queue, htu.active.trans hst.active, htu.bound.trans hst.bound,
    htu.disposed.trans hst.disposed, htu.writeBlocked.trans hst.writeBlocked,
    htu.binding.trans hst.binding⟩

theorem same_finish (outcome : TerminalRequestOutcome) (settlement : Settlement Data) (pending : PendingInvocation) :
    SameRequests s (s.finish outcome settlement pending) :=
  ⟨rfl, rfl, rfl, rfl, rfl, rfl⟩

end

theorem same_foldl_finish (outcome : TerminalRequestOutcome) (settlement : Settlement Data)
    (ended : List PendingInvocation) (s : HostToolAdapterSession Data) :
    SameRequests s (ended.foldl (fun s pending => s.finish outcome settlement pending) s) := by
  induction ended generalizing s with
  | nil => exact SameRequests.refl s
  | cons pending rest ih => exact (same_finish s outcome settlement pending).trans (ih _)

theorem finishAll_flags (descriptor : HostToolAdapterDescriptor) (s : HostToolAdapterSession Data)
    (outcome : TerminalRequestOutcome) (error : HostToolAdapterError) :
    (s.finishAll descriptor outcome error).queue = [] ∧
      (s.finishAll descriptor outcome error).active = .empty ∧
      (s.finishAll descriptor outcome error).bound = s.bound ∧
      (s.finishAll descriptor outcome error).binding = s.binding := by
  have hqueue := same_foldl_finish outcome (.rejected error) s.queue { s with queue := [] }
  have hsame := fun ended => hqueue.trans (same_foldl_finish outcome (.rejected error) ended _)
  exact ⟨(hsame _).queue, rfl, (hsame _).bound, (hsame _).binding⟩

/-! ## The invariant -/

/-- The accounts of a session, and what its flags say of its requests. -/
structure SessionInv (unsettled : List Nat) (s : HostToolAdapterSession Data) : Prop where
  accounts : Accounts (s.queue ++ s.active.values) unsettled s
  keyed : ∀ id pending, s.active.get? id = some pending → pending.requestId = id
  unbound : s.bound = false → s.queue = [] ∧ s.active = .empty
  disposed : s.disposed = true → s.bound = false

section
variable {unsettled : List Nat}

theorem SessionInv.frame (h : SessionInv unsettled s) (hqueue : t.queue = s.queue)
    (hactive : t.active = s.active) (hbound : s.bound = true → t.bound = true)
    (hdisposed : t.disposed = true → t.bound = false) (hrequests : t.requests = s.requests)
    (hoperations : t.operationStats = s.operationStats) (hsettlements : t.settlements = s.settlements)
    (hnext : t.nextRequestId = s.nextRequestId) : SessionInv unsettled t := by
  refine ⟨?_, ?_, fun hfalse => ?_, hdisposed⟩
  · rw [hqueue, hactive]
    exact h.accounts.frame hrequests hoperations hsettlements hnext
  · rw [hactive]
    exact h.keyed
  · rw [hqueue, hactive]
    apply h.unbound
    cases hs : s.bound with
    | false => rfl
    | true =>
      rw [hbound hs] at hfalse
      cases hfalse

theorem SessionInv.recordOccupancy (h : SessionInv unsettled s)
    (descriptor : HostToolAdapterDescriptor) :
    SessionInv unsettled (s.recordOccupancy descriptor) :=
  h.frame rfl rfl (fun hbound => hbound) h.disposed rfl rfl rfl rfl

theorem SessionInv.settle {pending : PendingInvocation}
    (h : SessionInv (pending.requestId :: unsettled) s) (settlement : Settlement Data) :
    SessionInv unsettled (s.settle pending settlement) :=
  ⟨h.accounts.settle settlement, h.keyed, h.unbound, h.disposed⟩

theorem SessionInv.finishAll {s : HostToolAdapterSession Data}
    (h : Accounts (s.queue ++ s.active.values) unsettled s) (hbound : s.bound = false)
    (outcome : TerminalRequestOutcome) (error : HostToolAdapterError) :
    SessionInv unsettled (s.finishAll descriptor outcome error) := by
  have hqueue : Accounts s.active.values unsettled
      (s.queue.foldl (fun s pending => s.finish outcome (.rejected error) pending)
        { s with queue := [] }) :=
    Accounts.foldl_finish outcome _ s.queue (h.frame rfl rfl rfl rfl)
  have hactive :=
    (same_foldl_finish outcome (.rejected error) s.queue { s with queue := [] }).active
  rw [← append_nil s.active.values] at hqueue
  have hended := Accounts.foldl_finish outcome (.rejected error) s.active.values hqueue
  obtain ⟨hnil, hempty, hbound', -⟩ := finishAll_flags descriptor s outcome error
  refine ⟨?_, ?_, fun _ => ⟨hnil, hempty⟩, fun _ => hbound'.trans hbound⟩
  · rw [hnil]
    unfold HostToolAdapterSession.finishAll
    simp only
    rw [hactive]
    exact hended.frame rfl rfl rfl rfl
  · rintro _ pending ⟨⟩

theorem SessionInv.failConnection (h : SessionInv unsettled s) (descriptor : HostToolAdapterDescriptor)
    (code : JsString) : SessionInv unsettled (s.failConnection descriptor code) := by
  unfold HostToolAdapterSession.failConnection
  split
  · exact h
  · exact SessionInv.finishAll (s := { s with disposed := true, bound := false, binding := false })
      (h.accounts.frame rfl rfl rfl rfl) rfl _ _

theorem SessionInv.dispose (h : SessionInv unsettled s) (descriptor : HostToolAdapterDescriptor) :
    SessionInv unsettled (s.dispose descriptor) := by
  unfold HostToolAdapterSession.dispose
  split
  · exact h
  · exact SessionInv.finishAll (s := { s with disposed := true, bound := false })
      (h.accounts.frame rfl rfl rfl rfl) rfl _ _

/-! ## Requests -/

theorem SessionInv.nodup (h : SessionInv unsettled s) :
    ((s.queue ++ s.active.values).map PendingInvocation.requestId).Nodup := by
  have hnodup := h.accounts.ids.nodup_iff.mpr nodup_range
  rw [append_assoc] at hnodup
  exact (nodup_append.mp hnodup).1

theorem SessionInv.waiting {pending : PendingInvocation} (h : SessionInv unsettled s)
    (hmem : pending ∈ s.queue) : s.active.get? pending.requestId = none := by
  cases hget : s.active.get? pending.requestId with
  | none => rfl
  | some other =>
    have hnodup := h.nodup
    rw [map_append, nodup_append] at hnodup
    have hother : other ∈ s.active.values := mem_values.mpr ⟨_, hget⟩
    exact absurd (h.keyed _ other hget).symm
      (hnodup.2.2 _ (mem_map_of_mem hmem) _ (mem_map_of_mem hother))

theorem SessionInv.pumpOne (h : SessionInv unsettled s) {pending : PendingInvocation}
    {rest : List PendingInvocation} (hqueue : s.queue = pending :: rest) (hbound : s.bound = true)
    (socket : Socket) : SessionInv unsettled (pumpOne socket { s with queue := rest } pending) := by
  have hlive : Accounts (pending :: (rest ++ s.active.values)) unsettled s := by
    have haccounts := h.accounts
    rw [hqueue] at haccounts
    exact haccounts
  have hrest : Accounts (pending :: (rest ++ s.active.values)) unsettled { s with queue := rest } :=
    hlive.frame rfl rfl rfl rfl
  have hended : ∀ outcome settlement,
      SessionInv unsettled (finish { s with queue := rest } outcome settlement pending) := by
    intro outcome settlement
    refine ⟨hrest.finish outcome settlement, h.keyed, fun hfalse => ?_, h.disposed⟩
    rw [show s.bound = false from hfalse] at hbound
    cases hbound
  have hnone := h.waiting (hqueue ▸ mem_cons_self : pending ∈ s.queue)
  unfold HostToolAdapterSession.pumpOne
  split
  · exact hended _ _
  split
  · exact hended _ _
  · exact hended _ _
  · refine ⟨?_, fun id found hget => ?_, fun hfalse => ?_, h.disposed⟩
    · simp only [values_set_of_not_has hnone]
      rw [← append_assoc]
      exact Accounts.frame (hlive.perm (perm_append_singleton _ _).symm) rfl rfl rfl rfl
    · simp only [OrderedMap.get?_set] at hget
      split at hget
      · rename_i heq
        cases hget
        exact heq
      · exact h.keyed id found hget
    · rw [show s.bound = false from hfalse] at hbound
      cases hbound

/-- The connection is as it was. -/
structure SameFlags (s t : HostToolAdapterSession Data) : Prop where
  bound : t.bound = s.bound
  disposed : t.disposed = s.disposed
  binding : t.binding = s.binding

theorem SameFlags.trans {s t u : HostToolAdapterSession Data} (hst : SameFlags s t)
    (htu : SameFlags t u) : SameFlags s u :=
  ⟨htu.bound.trans hst.bound, htu.disposed.trans hst.disposed, htu.binding.trans hst.binding⟩

variable (socket : Socket)

theorem flags_pumpOne (s : HostToolAdapterSession Data) (pending : PendingInvocation) :
    SameFlags s (pumpOne socket s pending) ∧ (pumpOne socket s pending).queue = s.queue := by
  unfold HostToolAdapterSession.pumpOne
  split
  · exact ⟨⟨rfl, rfl, rfl⟩, rfl⟩
  · split <;> exact ⟨⟨rfl, rfl, rfl⟩, rfl⟩

section
variable (descriptor)

theorem flags_pumpLoop (socket : Socket) (queue : List PendingInvocation) (s : HostToolAdapterSession Data) :
    SameFlags s (pumpLoop descriptor socket queue s) := by
  induction queue generalizing s with
  | nil => exact ⟨rfl, rfl, rfl⟩
  | cons pending rest ih =>
    rw [HostToolAdapterSession.pumpLoop]
    split
    · obtain ⟨hflags, -⟩ := flags_pumpOne socket { s with queue := rest } pending
      have hone : SameFlags s (pumpOne socket { s with queue := rest } pending) :=
        ⟨hflags.bound, hflags.disposed, hflags.binding⟩
      exact hone.trans (ih _)
    · exact ⟨rfl, rfl, rfl⟩

theorem flags_pump (socket : Socket) (s : HostToolAdapterSession Data) : SameFlags s (s.pump descriptor socket) := by
  unfold HostToolAdapterSession.pump
  split
  · exact ⟨rfl, rfl, rfl⟩
  split
  · exact ⟨rfl, rfl, rfl⟩
  · have hloop := flags_pumpLoop descriptor socket s.queue s
    exact ⟨hloop.bound, hloop.disposed, hloop.binding⟩

end

theorem SessionInv.pumpLoop (queue : List PendingInvocation) (h : SessionInv unsettled s) (hqueue : s.queue = queue)
    (hbound : s.bound = true) : SessionInv unsettled (pumpLoop descriptor socket queue s) := by
  induction queue generalizing s with
  | nil => exact h
  | cons pending rest ih =>
    rw [HostToolAdapterSession.pumpLoop]
    split
    · obtain ⟨hflags, hqueue'⟩ := flags_pumpOne socket { s with queue := rest } pending
      exact ih (h.pumpOne hqueue hbound socket) hqueue' (hflags.bound.trans hbound)
    · exact h

section
variable (h : SessionInv unsettled s)
include h

section
variable (descriptor)

theorem SessionInv.pump (socket : Socket) : SessionInv unsettled (s.pump descriptor socket) := by
  unfold HostToolAdapterSession.pump
  split
  · exact h
  rename_i hopen
  split
  · exact h.recordOccupancy descriptor
  · apply SessionInv.recordOccupancy
    exact h.pumpLoop socket s.queue rfl (by simpa using fun hfalse => hopen (Or.inr hfalse))

/-- A request with the adapter ends; its promise is still to be settled. -/
theorem SessionInv.leaves {id : Nat} {pending : PendingInvocation}
    (hget : s.active.get? id = some pending) (outcome : TerminalRequestOutcome) :
    SessionInv (pending.requestId :: unsettled)
      (HostToolAdapterSession.recordTerminal { s with active := s.active.delete id } pending
        outcome) := by
  have hperm : (s.queue ++ s.active.values).Perm
      (pending :: (s.queue ++ (s.active.delete id).values)) :=
    ((values_delete_perm hget).append_left _).trans perm_middle
  have hlive : Accounts (pending :: (s.queue ++ (s.active.delete id).values)) unsettled
      { s with active := s.active.delete id } :=
    (h.accounts.perm hperm).frame rfl rfl rfl rfl
  refine ⟨hlive.recordTerminal outcome, fun id' found hfound => ?_, fun hfalse => ?_, h.disposed⟩
  · exact h.keyed id' found (OrderedMap.get?_of_delete hfound).2
  obtain ⟨-, hempty⟩ := h.unbound hfalse
  rw [hempty] at hget
  cases hget

theorem SessionInv.rememberAborted (pending : PendingInvocation) :
    SessionInv unsettled (s.rememberAborted descriptor pending) := by
  unfold HostToolAdapterSession.rememberAborted
  split
  · exact h.failConnection descriptor _
  · exact h.frame rfl rfl (fun hbound => hbound) h.disposed rfl rfl rfl rfl

theorem SessionInv.sendAbort (socket : Socket) (pending : PendingInvocation) :
    SessionInv unsettled (s.sendAbort descriptor socket pending) := by
  unfold HostToolAdapterSession.sendAbort
  split
  · exact h
  split
  · exact h
  · exact h.failConnection descriptor _

theorem SessionInv.giveUp (socket : Socket) (outcome : TerminalRequestOutcome) (queued active : HostToolAdapterError)
    (requestId : Nat) : SessionInv unsettled (s.giveUp descriptor socket outcome queued active requestId) := by
  unfold HostToolAdapterSession.giveUp
  split
  · rename_i pending hfind
    have hmem := List.mem_of_find?_eq_some hfind
    apply SessionInv.recordOccupancy
    have hperm : (s.queue ++ s.active.values).Perm
        (pending :: (s.queue.erase pending ++ s.active.values)) :=
      (perm_cons_erase hmem).append_right _
    have hlive : Accounts (pending :: (s.queue.erase pending ++ s.active.values)) unsettled
        { s with queue := s.queue.erase pending } :=
      (h.accounts.perm hperm).frame rfl rfl rfl rfl
    refine ⟨hlive.finish outcome _, h.keyed, fun hfalse => ?_, h.disposed⟩
    rw [(h.unbound hfalse).1] at hmem
    cases hmem
  · split
    · exact h
    rename_i pending hget
    have hleaves := h.leaves hget outcome
    exact (((hleaves.rememberAborted descriptor pending).sendAbort descriptor socket
      pending).settle _).pump descriptor socket

theorem SessionInv.onResult (socket : Socket) (requestId : Nat) (idempotencyKey : JsString)
    (operation : NeutralToolOperation) (outcome : TerminalRequestOutcome) (settlement : Settlement Data) :
    SessionInv unsettled
      (s.onResult descriptor socket requestId idempotencyKey operation outcome settlement) := by
  unfold HostToolAdapterSession.onResult
  split
  · exact h.failConnection descriptor _
  · rename_i hget
    split
    · exact h.failConnection descriptor _
    split
    · exact h
    · exact ((h.leaves hget outcome).settle settlement).pump descriptor socket
  · split
    · exact h.failConnection descriptor _
    · exact h

theorem SessionInv.onAborted (requestId targetRequestId : Nat) :
    SessionInv unsettled (s.onAborted descriptor requestId targetRequestId) := by
  unfold HostToolAdapterSession.onAborted
  split
  · exact h.failConnection descriptor _
  split
  · exact h.failConnection descriptor _
  · exact h.frame rfl rfl (fun hbound => hbound) h.disposed rfl rfl rfl rfl

theorem SessionInv.onFrame (socket : Socket) (frame : IncomingFrame Data)
    (hopen : s.binding = true → s.disposed = false) : SessionInv unsettled (s.onFrame descriptor socket frame) := by
  cases frame with
  | secretReflected | invalid | unexpected => exact h.failConnection descriptor _
  | bound =>
    simp only [HostToolAdapterSession.onFrame]
    split
    · exact h.failConnection descriptor _
    rename_i hbinding
    rw [not_or] at hbinding
    have hdisposed := hopen (by simpa using hbinding.2)
    exact h.frame rfl rfl (fun _ => rfl)
      (fun hdisposed' => absurd (hdisposed.symm.trans hdisposed') (by simp)) rfl rfl rfl rfl
  | result | failure =>
    simp only [HostToolAdapterSession.onFrame]
    split
    · exact h.onResult descriptor socket _ _ _ _ _
    · exact h.failConnection descriptor _
  | aborted =>
    simp only [HostToolAdapterSession.onFrame]
    split
    · exact h.onAborted descriptor _ _
    · exact h.failConnection descriptor _
  | revoked =>
    simp only [HostToolAdapterSession.onFrame]
    split
    · exact h
    · exact h.failConnection descriptor _

end

end

/-- A session whose `bind` is awaited has not been disposed. -/
def Bindable (s : HostToolAdapterSession Data) : Prop := s.binding = true → s.disposed = false

theorem SameFlags.bindable (hflags : SameFlags s t) (h : Bindable s) : Bindable t := by
  unfold Bindable at *
  rw [hflags.binding, hflags.disposed]
  exact h

theorem bindable_failConnection (h : Bindable s) (descriptor : HostToolAdapterDescriptor)
    (code : JsString) : Bindable (s.failConnection descriptor code) := by
  unfold HostToolAdapterSession.failConnection
  split
  · exact h
  intro hbinding
  have hflags := (finishAll_flags descriptor
    { s with disposed := true, bound := false, binding := false } .failed
      (adapterError code true (s.active.size > 0) none)).2.2.2
  rw [hflags] at hbinding
  cases hbinding

theorem bindable_onFrame (h : Bindable s) (descriptor : HostToolAdapterDescriptor)
    (socket : Socket) (frame : IncomingFrame Data) :
    Bindable (s.onFrame descriptor socket frame) := by
  have hfails := bindable_failConnection h descriptor
  have hresult : ∀ requestId idempotencyKey operation outcome settlement, Bindable
      (s.onResult descriptor socket requestId idempotencyKey operation outcome settlement) := by
    intro requestId idempotencyKey operation outcome settlement
    unfold HostToolAdapterSession.onResult
    split
    · exact hfails _
    · split
      · exact hfails _
      split
      · exact h
      · exact (flags_pump descriptor socket _).bindable h
    · split
      · exact hfails _
      · exact h
  unfold HostToolAdapterSession.onFrame
  split
  · exact hfails _
  · exact hfails _
  · split
    · exact hfails _
    · rintro ⟨⟩
  · split
    · exact hresult _ _ _ _ _
    · exact hfails _
  · split
    · exact hresult _ _ _ _ _
    · exact hfails _
  · split
    · unfold HostToolAdapterSession.onAborted
      split
      · exact hfails _
      split
      · exact hfails _
      · exact h
    · exact hfails _
  · split
    · exact h
    · exact hfails _
  · exact hfails _

section
variable (h : SessionInv unsettled s)
include h

section
variable (descriptor)

theorem SessionInv.onData (socket : Socket) (frames : List (IncomingFrame Data)) :
    SessionInv unsettled (s.onData descriptor socket frames) := by
  have hfold : ∀ s : HostToolAdapterSession Data, SessionInv unsettled s → Bindable s →
      SessionInv unsettled (frames.foldl (fun s frame => s.onFrame descriptor socket frame) s) := by
    induction frames with
    | nil => exact fun s h _ => h
    | cons frame rest ih =>
      intro s h hbindable
      exact ih _ (h.onFrame descriptor socket frame hbindable)
        (bindable_onFrame hbindable descriptor socket frame)
  unfold HostToolAdapterSession.onData
  split
  · exact h
  · rename_i hopen
    exact hfold s h fun _ => by simpa using hopen

theorem SessionInv.rejects (operation : NeutralToolOperation) :
    SessionInv unsettled { s with
      requests := s.requests.rejected
      operationStats := fun other =>
        if other = operation then (s.operationStats other).rejected else s.operationStats other
      lastRejectionReason := some (text "adapter_queue_capacity") } := by
  refine ⟨⟨h.accounts.requests, fun other => ?_, h.accounts.ids⟩, h.keyed, h.unbound, h.disposed⟩
  have hother := h.accounts.operations other
  simp only
  split
  · exact hother
  · exact hother

theorem SessionInv.accepts (operation : NeutralToolOperation)
    (idempotencyKey : JsString) (signal : Option Nat) (hbound : s.bound = true) :
    SessionInv unsettled { s with
      nextRequestId := s.nextRequestId + 1
      requests := s.requests.accepted
      operationStats := fun other =>
        if other = operation then (s.operationStats other).accepted else s.operationStats other
      queue := s.queue ++ [⟨s.nextRequestId, idempotencyKey, operation, signal⟩] } := by
  have hperm : (⟨s.nextRequestId, idempotencyKey, operation, signal⟩ ::
      (s.queue ++ s.active.values)).Perm
        (s.queue ++ [⟨s.nextRequestId, idempotencyKey, operation, signal⟩] ++ s.active.values) := by
    rw [append_assoc]
    exact perm_middle.symm
  refine ⟨Accounts.perm ⟨?_, fun other => ?_, ?_⟩ hperm, h.keyed, fun hfalse => ?_, h.disposed⟩
  · exact h.accounts.requests.accepted
  · have hother := h.accounts.operations other
    unfold countOperation at hother ⊢
    rw [countP_cons]
    simp only
    split
    · rename_i heq
      rw [if_pos (by simp [heq])]
      exact hother.accepted
    · rename_i hne
      rw [if_neg (by simpa using fun heq => hne heq.symm)]
      exact hother
  · rw [range_succ]
    exact (h.accounts.ids.cons _).trans (perm_append_singleton _ _).symm
  · rw [show s.bound = false from hfalse] at hbound
    cases hbound

theorem SessionInv.invoke (socket : Socket) (operation : NeutralToolOperation) (idempotencyKey : JsString)
    (signal : Option Nat) : SessionInv unsettled (s.invoke descriptor socket operation idempotencyKey signal).1 := by
  unfold HostToolAdapterSession.invoke
  split
  · exact h
  rename_i hopen
  split
  · exact h
  split
  · exact h
  split
  · exact h
  split
  · exact (h.rejects operation).recordOccupancy descriptor
  · apply SessionInv.pump
    exact h.accepts _ _ _ (by simpa using fun hfalse => hopen (Or.inr hfalse))

end

theorem SessionInv.step {event : SessionEvent Data}
    (hstep : sessionStep descriptor s event = some t) : SessionInv unsettled t := by
  cases event with
  | invoke operation idempotencyKey signal socket =>
    cases hstep
    exact h.invoke descriptor socket operation idempotencyKey signal
  | data frames socket =>
    cases hstep
    exact h.onData descriptor socket frames
  | signalAborted | abortedExpired | bindFailed =>
    cases hstep
    exact h.frame rfl rfl (fun hbound => hbound) h.disposed rfl rfl rfl rfl
  | abortInvocation requestId socket | timeoutInvocation requestId socket =>
    cases hstep
    exact h.giveUp descriptor socket _ _ _ requestId
  | drain =>
    cases hstep
    apply SessionInv.pump
    exact h.frame rfl rfl (fun hbound => hbound) h.disposed rfl rfl rfl rfl
  | connectionFailed code =>
    cases hstep
    exact h.failConnection descriptor code
  | dispose =>
    cases hstep
    exact h.dispose descriptor

end

theorem sessionInv_connecting : SessionInv [] (connecting : HostToolAdapterSession Data) := by
  refine ⟨⟨rfl, fun _ => rfl, List.Perm.refl _⟩, ?_, fun _ => ⟨rfl, rfl⟩, fun _ => rfl⟩
  rintro _ _ ⟨⟩

/-! ## Bounds -/

/-- The requests are within the limits. -/
structure Within (descriptor : HostToolAdapterDescriptor) (s : HostToolAdapterSession Data) : Prop where
  active : s.active.size ≤ descriptor.limits.maxConcurrentRequests
  queued : s.queue.length ≤ descriptor.limits.maxQueuedRequests

/-- A free slot leaves nobody in the queue, but when the socket is blocked. -/
structure Bounded (descriptor : HostToolAdapterDescriptor) (s : HostToolAdapterSession Data) : Prop
    extends Within descriptor s where
  idle : s.writeBlocked = false →
    s.queue = [] ∨ descriptor.limits.maxConcurrentRequests ≤ s.active.size

theorem size_pumpOne (s : HostToolAdapterSession Data) (pending : PendingInvocation) :
    (pumpOne socket s pending).active.size ≤ s.active.size + 1 := by
  unfold HostToolAdapterSession.pumpOne
  split
  · exact Nat.le_succ _
  split
  · exact Nat.le_succ _
  · exact Nat.le_succ _
  · exact size_set_le _ _ _

/-- The queue is pumped until it is empty, the slots are taken or the socket is blocked. -/
theorem pumpLoop_bounded {queue : List PendingInvocation} (hqueue : s.queue = queue)
    (hactive : s.active.size ≤ descriptor.limits.maxConcurrentRequests) :
    (pumpLoop descriptor socket queue s).active.size ≤ descriptor.limits.maxConcurrentRequests ∧
      ((pumpLoop descriptor socket queue s).writeBlocked = false →
        (pumpLoop descriptor socket queue s).queue = [] ∨
          descriptor.limits.maxConcurrentRequests ≤
            (pumpLoop descriptor socket queue s).active.size) ∧
      (pumpLoop descriptor socket queue s).queue.length ≤ queue.length ∧
      (s.active.size < descriptor.limits.maxConcurrentRequests → s.writeBlocked = false →
        (pumpLoop descriptor socket queue s).queue.length ≤ queue.length - 1) := by
  induction queue generalizing s with
  | nil =>
    rw [HostToolAdapterSession.pumpLoop, hqueue]
    exact ⟨hactive, fun _ => Or.inl rfl, Nat.le_refl _, fun _ _ => Nat.le_refl _⟩
  | cons pending rest ih =>
    rw [HostToolAdapterSession.pumpLoop]
    split
    · rename_i hfree
      have hsize := size_pumpOne socket { s with queue := rest } pending
      obtain ⟨-, hqueue'⟩ := flags_pumpOne socket { s with queue := rest } pending
      obtain ⟨hactive', hidle, hlength, -⟩ := ih hqueue' (Nat.le_trans hsize hfree.1)
      exact ⟨hactive', hidle, Nat.le_succ_of_le hlength, fun _ _ => hlength⟩
    · rename_i hfull
      refine ⟨hactive, fun hblocked => Or.inr (Nat.le_of_not_lt fun hlt => hfull ⟨hlt, hblocked⟩),
        hqueue ▸ Nat.le_refl _, fun hlt hblocked => absurd ⟨hlt, hblocked⟩ hfull⟩

theorem Within.recordOccupancy (h : Within descriptor s) : Within descriptor (s.recordOccupancy descriptor) :=
  ⟨h.active, h.queued⟩

theorem Bounded.recordOccupancy (h : Bounded descriptor s) :
    Bounded descriptor (s.recordOccupancy descriptor) :=
  ⟨h.toWithin.recordOccupancy, h.idle⟩

/-- One request more than the queue may hold is taken by a free slot. -/
theorem pump_bounded {unsettled : List Nat} (hinv : SessionInv unsettled s) (socket : Socket)
    (hactive : s.active.size ≤ descriptor.limits.maxConcurrentRequests)
    (hqueue : s.queue.length ≤ descriptor.limits.maxQueuedRequests ∨
      (s.bound = true ∧ s.writeBlocked = false ∧
        s.active.size < descriptor.limits.maxConcurrentRequests ∧
          s.queue.length ≤ descriptor.limits.maxQueuedRequests + 1)) :
    Bounded descriptor (s.pump descriptor socket) := by
  unfold HostToolAdapterSession.pump
  split
  · rename_i hclosed
    have hbound : s.bound = false := by
      rcases hclosed with hdisposed | hbound
      · exact hinv.disposed hdisposed
      · exact hbound
    obtain ⟨hnil, -⟩ := hinv.unbound hbound
    exact ⟨⟨hactive, by rw [hnil]; exact Nat.zero_le _⟩, fun _ => Or.inl hnil⟩
  · split
    · rename_i hblocked
      refine Bounded.recordOccupancy ⟨⟨hactive, ?_⟩, fun hfalse => ?_⟩
      · rcases hqueue with hqueue | ⟨-, hfalse, -⟩
        · exact hqueue
        · rw [hblocked] at hfalse
          cases hfalse
      · rw [hblocked] at hfalse
        cases hfalse
    · apply Bounded.recordOccupancy
      obtain ⟨hactive', hidle, hlength, hone⟩ := pumpLoop_bounded socket rfl hactive
      refine ⟨⟨hactive', ?_⟩, hidle⟩
      rcases hqueue with hqueue | ⟨-, hfree, hslot, hqueue⟩
      · exact Nat.le_trans hlength hqueue
      · have := hone hslot hfree
        omega

theorem Within.failConnection (h : Within descriptor s) (code : JsString) :
    Within descriptor (s.failConnection descriptor code) := by
  unfold HostToolAdapterSession.failConnection
  split
  · exact h
  obtain ⟨hnil, hempty, -⟩ := finishAll_flags descriptor
    { s with disposed := true, bound := false, binding := false } .failed
      (adapterError code true (s.active.size > 0) none)
  constructor
  · exact Nat.zero_le _
  · rw [hnil]
    exact Nat.zero_le _

theorem Bounded.failConnection (h : Bounded descriptor s) (code : JsString) :
    Bounded descriptor (s.failConnection descriptor code) := by
  refine ⟨h.toWithin.failConnection code, ?_⟩
  unfold HostToolAdapterSession.failConnection
  split
  · exact h.idle
  · exact fun _ => Or.inl (finishAll_flags descriptor _ _ _).1

theorem Bounded.dispose (h : Bounded descriptor s) : Bounded descriptor (s.dispose descriptor) := by
  unfold HostToolAdapterSession.dispose
  split
  · exact h
  · obtain ⟨hnil, hempty, -⟩ := finishAll_flags descriptor
      { s with disposed := true, bound := false } .cancelled
        (adapterError (text "adapter_session_closed") false (s.active.size > 0) none)
    refine ⟨⟨?_, ?_⟩, fun _ => Or.inl hnil⟩
    · exact Nat.zero_le _
    · rw [hnil]
      exact Nat.zero_le _

theorem Within.leaves (h : Within descriptor s) (id : Nat) :
    Within descriptor { s with active := s.active.delete id } :=
  ⟨Nat.le_trans (size_delete_le _ _) h.active, h.queued⟩

theorem Within.rememberAborted (h : Within descriptor s) (pending : PendingInvocation) :
    Within descriptor (s.rememberAborted descriptor pending) := by
  unfold HostToolAdapterSession.rememberAborted
  split
  · exact h.failConnection _
  · exact ⟨h.active, h.queued⟩

theorem Within.sendAbort (h : Within descriptor s) (socket : Socket) (pending : PendingInvocation) :
    Within descriptor (s.sendAbort descriptor socket pending) := by
  unfold HostToolAdapterSession.sendAbort
  split
  · exact h
  split
  · exact h
  · exact h.failConnection _

section
variable {unsettled : List Nat}

section
variable (h : Bounded descriptor s)
include h

theorem Bounded.giveUp (hinv : SessionInv unsettled s) (socket : Socket)
    (outcome : TerminalRequestOutcome) (queued active : HostToolAdapterError) (requestId : Nat) :
    Bounded descriptor (s.giveUp descriptor socket outcome queued active requestId) := by
  unfold HostToolAdapterSession.giveUp
  split
  · apply Bounded.recordOccupancy
    refine ⟨⟨h.active, Nat.le_trans length_erase_le h.queued⟩, fun hblocked => ?_⟩
    refine (h.idle hblocked).imp_left fun hnil => ?_
    simp [finish, HostToolAdapterSession.recordTerminal, HostToolAdapterSession.settle, hnil]
  · split
    · exact h
    rename_i pending hget
    have hleaves : Within descriptor
        (HostToolAdapterSession.recordTerminal { s with active := s.active.delete requestId }
          pending outcome) := ⟨(h.toWithin.leaves requestId).active, h.queued⟩
    have hwithin := (hleaves.rememberAborted pending).sendAbort socket pending
    have hsettled := (((hinv.leaves hget outcome).rememberAborted descriptor pending).sendAbort
      descriptor socket pending).settle (.rejected active)
    exact pump_bounded hsettled socket hwithin.active (Or.inl hwithin.queued)

theorem Bounded.onResult (hinv : SessionInv unsettled s) (socket : Socket)
    (requestId : Nat) (idempotencyKey : JsString) (operation : NeutralToolOperation)
    (outcome : TerminalRequestOutcome) (settlement : Settlement Data) :
    Bounded descriptor
      (s.onResult descriptor socket requestId idempotencyKey operation outcome settlement) := by
  unfold HostToolAdapterSession.onResult
  split
  · exact h.failConnection _
  · rename_i hget
    split
    · exact h.failConnection _
    split
    · exact h
    · exact pump_bounded ((hinv.leaves hget outcome).settle settlement) socket
        (h.toWithin.leaves requestId).active (Or.inl h.queued)
  · split
    · exact h.failConnection _
    · exact h

theorem Bounded.onFrame (hinv : SessionInv unsettled s) (socket : Socket)
    (frame : IncomingFrame Data) : Bounded descriptor (s.onFrame descriptor socket frame) := by
  unfold HostToolAdapterSession.onFrame
  split
  · exact h.failConnection _
  · exact h.failConnection _
  · split
    · exact h.failConnection _
    · exact ⟨⟨h.active, h.queued⟩, h.idle⟩
  · split
    · exact h.onResult hinv socket _ _ _ _ _
    · exact h.failConnection _
  · split
    · exact h.onResult hinv socket _ _ _ _ _
    · exact h.failConnection _
  · split
    · unfold HostToolAdapterSession.onAborted
      split
      · exact h.failConnection _
      split
      · exact h.failConnection _
      · exact ⟨⟨h.active, h.queued⟩, h.idle⟩
    · exact h.failConnection _
  · split
    · exact h
    · exact h.failConnection _
  · exact h.failConnection _

theorem Bounded.onData (hinv : SessionInv unsettled s) (socket : Socket)
    (frames : List (IncomingFrame Data)) : Bounded descriptor (s.onData descriptor socket frames) := by
  have hfold : ∀ s : HostToolAdapterSession Data, Bounded descriptor s → SessionInv unsettled s →
      Bindable s →
        Bounded descriptor (frames.foldl (fun s frame => s.onFrame descriptor socket frame) s) := by
    induction frames with
    | nil => exact fun s h _ _ => h
    | cons frame rest ih =>
      intro s h hinv hbindable
      exact ih _ (h.onFrame hinv socket frame) (hinv.onFrame descriptor socket frame hbindable)
        (bindable_onFrame hbindable descriptor socket frame)
  unfold HostToolAdapterSession.onData
  split
  · exact h
  · rename_i hopen
    exact hfold s h hinv fun _ => by simpa using hopen

end

end

/-- A request that `invoke` takes unless there is no room. -/
def Admissible (descriptor : HostToolAdapterDescriptor) (s : HostToolAdapterSession Data)
    (operation : NeutralToolOperation) (idempotencyKey : JsString) (signal : Option Nat) : Prop :=
  s.disposed = false ∧ s.bound = true ∧ operation ∈ descriptor.operations ∧
    signal.any (· ∈ s.abortedSignals) = false ∧ isIdempotencyKey idempotencyKey = true

/-- No request is taken into a full queue while a slot is free and the socket is blocked. -/
def KeepsBounds (descriptor : HostToolAdapterDescriptor) (s : HostToolAdapterSession Data) :
    SessionEvent Data → Prop
  | .invoke operation idempotencyKey signal _ =>
    Admissible descriptor s operation idempotencyKey signal → s.writeBlocked = true →
      s.active.size < descriptor.limits.maxConcurrentRequests →
        s.queue.length < descriptor.limits.maxQueuedRequests
  | _ => True

theorem Bounded.invoke {unsettled : List Nat} (h : Bounded descriptor s)
    (hinv : SessionInv unsettled s) {socket : Socket} {operation : NeutralToolOperation}
    {idempotencyKey : JsString} {signal : Option Nat}
    (hok : KeepsBounds descriptor s (.invoke operation idempotencyKey signal socket)) :
    Bounded descriptor (s.invoke descriptor socket operation idempotencyKey signal).1 := by
  unfold HostToolAdapterSession.invoke
  split
  · exact h
  rename_i hopen
  rw [not_or] at hopen
  have hbound : s.bound = true := by simpa using hopen.2
  split
  · exact h
  rename_i hoperation
  split
  · exact h
  rename_i hsignal
  split
  · exact h
  rename_i hkey
  have hadmissible : Admissible descriptor s operation idempotencyKey signal :=
    ⟨by simpa using hopen.1, hbound, not_not.mp hoperation, by simpa using hsignal,
      by simpa using hkey⟩
  split
  · exact Bounded.recordOccupancy ⟨⟨h.active, h.queued⟩, h.idle⟩
  rename_i hroom
  apply pump_bounded (hinv.accepts operation idempotencyKey signal hbound) socket h.active
  simp only [length_append, length_singleton]
  by_cases hslot : s.active.size < descriptor.limits.maxConcurrentRequests
  · cases hblocked : s.writeBlocked with
    | true => exact Or.inl (hok hadmissible hblocked hslot)
    | false => exact Or.inr ⟨hbound, rfl, hslot, Nat.succ_le_succ h.queued⟩
  · left
    omega

theorem Bounded.step {unsettled : List Nat} (h : Bounded descriptor s) (hinv : SessionInv unsettled s)
    {event : SessionEvent Data} (hok : KeepsBounds descriptor s event)
    (hstep : sessionStep descriptor s event = some t) : Bounded descriptor t := by
  cases event with
  | invoke =>
    cases hstep
    exact h.invoke hinv hok
  | data frames socket =>
    cases hstep
    exact h.onData hinv socket frames
  | signalAborted | abortedExpired | bindFailed =>
    cases hstep
    exact ⟨⟨h.active, h.queued⟩, h.idle⟩
  | abortInvocation requestId socket | timeoutInvocation requestId socket =>
    cases hstep
    exact h.giveUp hinv socket _ _ _ requestId
  | drain socket =>
    cases hstep
    have hdrained : SessionInv unsettled { s with writeBlocked := false } :=
      hinv.frame rfl rfl (fun hbound => hbound) hinv.disposed rfl rfl rfl rfl
    exact pump_bounded hdrained socket h.active (Or.inl h.queued)
  | connectionFailed code =>
    cases hstep
    exact h.failConnection code
  | dispose =>
    cases hstep
    exact h.dispose

theorem bounded_connecting (descriptor : HostToolAdapterDescriptor) :
    Bounded descriptor (connecting : HostToolAdapterSession Data) :=
  ⟨⟨Nat.zero_le _, Nat.zero_le _⟩, fun _ => Or.inl rfl⟩

end

end

/-- The counters account for every request, in all and for each operation. -/
structure Accounted {Data : Type} (s : HostToolAdapterSession Data) : Prop where
  requests : s.requests.acceptedRequests =
    s.requests.completedRequests + s.requests.failedRequests + s.requests.cancelledRequests +
      s.requests.timedOutRequests + s.activeRequests + s.queuedRequests
  operations : ∀ operation, (s.operationStats operation).acceptedRequests =
    (s.operationStats operation).completedRequests + (s.operationStats operation).failedRequests +
      (s.operationStats operation).cancelledRequests +
      (s.operationStats operation).timedOutRequests +
      countOperation s.active.values operation + countOperation s.queue operation

/-- The promise of a request is settled at most once, and once when the session is disposed. -/
structure SettledOnce {Data : Type} (s : HostToolAdapterSession Data) : Prop where
  nodup : (s.settlements.map Prod.fst).Nodup
  accepted : ∀ id ∈ s.settlements.map Prod.fst, id < s.nextRequestId
  disposed : s.disposed = true → ∀ id < s.nextRequestId, id ∈ s.settlements.map Prod.fst

section
variable {Data : Type} {descriptor : HostToolAdapterDescriptor} {s : HostToolAdapterSession Data}

theorem SessionInv.accounted (h : SessionInv [] s) : Accounted s := by
  constructor
  · have hrequests := h.accounts.requests
    unfold OperationQueueStats.Balanced OperationQueueStats.terminated at hrequests
    rw [length_append] at hrequests
    have hsize : s.active.values.length = s.activeRequests := length_map _
    unfold queuedRequests
    omega
  · intro operation
    have hoperation := h.accounts.operations operation
    unfold OperationQueueStats.Balanced OperationQueueStats.terminated countOperation at hoperation
    rw [countP_append] at hoperation
    unfold countOperation
    omega

theorem SessionInv.settledOnce (h : SessionInv [] s) : SettledOnce s := by
  have hids := h.accounts.ids
  refine ⟨?_, fun id hid => ?_, fun hdisposed id hid => ?_⟩
  · have hnodup := hids.nodup_iff.mpr nodup_range
    exact (nodup_append.mp hnodup).2.1
  · exact mem_range.mp (hids.mem_iff.mp (mem_append_right _ hid))
  · obtain ⟨hnil, hempty⟩ := h.unbound (h.disposed hdisposed)
    rw [hnil, hempty] at hids
    exact hids.mem_iff.mpr (mem_range.mpr hid)

end

/-- **Request accounting.** In every run the counters account for every request, and the
promise of a request is settled at most once, and once when the session is disposed.  The
requests stay within the limits if none is taken into a full queue while a slot is free and
the socket is blocked. -/
theorem request_accounting {Data : Type} (descriptor : HostToolAdapterDescriptor)
    (events : List (SessionEvent Data)) {s : HostToolAdapterSession Data}
    (hrun : run (sessionStep descriptor) connecting events = some s) :
    s.Accounted ∧ s.SettledOnce ∧
      (Meets (sessionStep descriptor) (KeepsBounds descriptor) connecting events →
        s.activeRequests ≤ descriptor.limits.maxConcurrentRequests ∧
          s.queuedRequests ≤ descriptor.limits.maxQueuedRequests) := by
  have hinv : SessionInv [] s := by
    apply run_invariant _ sessionInv_connecting hrun
    intro s event t h hstep
    exact h.step hstep
  refine ⟨hinv.accounted, hinv.settledOnce, fun hok => ?_⟩
  have hbounded : Bounded descriptor s ∧ SessionInv [] s := by
    apply run_invariant_of_meets _ ⟨bounded_connecting descriptor, sessionInv_connecting⟩ hok hrun
    rintro s event t ⟨hbounded, hinv⟩ hmeets hstep
    exact ⟨hbounded.step hinv hmeets hstep, hinv.step hstep⟩
  exact ⟨hbounded.1.active, hbounded.1.queued⟩

instance (descriptor : HostToolAdapterDescriptor) (s : HostToolAdapterSession Nat) :
    (event : SessionEvent Nat) → Decidable (KeepsBounds descriptor s event)
  | .invoke operation idempotencyKey signal _ =>
    inferInstanceAs (Decidable
      ((s.disposed = false ∧ s.bound = true ∧ operation ∈ descriptor.operations ∧
        signal.any (· ∈ s.abortedSignals) = false ∧ isIdempotencyKey idempotencyKey = true) →
        s.writeBlocked = true → s.active.size < descriptor.limits.maxConcurrentRequests →
          s.queue.length < descriptor.limits.maxQueuedRequests))
  | .data _ _ | .signalAborted _ | .abortInvocation _ _ | .timeoutInvocation _ _ | .abortedExpired _
  | .drain _ | .connectionFailed _ | .bindFailed | .dispose => .isTrue trivial

/-- Two requests at a time, and one that waits. -/
def smallDescriptor : HostToolAdapterDescriptor := ⟨[.fsRead], ⟨2, 1, 1000, 4⟩⟩

def reads (socket : Socket) : SessionEvent Nat := .invoke .fsRead (text "key") none socket

/-- A result, an abort of a request with the adapter, a refusal, and the end of the session. -/
def readAndAbort : List (SessionEvent Nat) :=
  [.data [.bound] .open, reads .open, reads .full, .data [.result 0 (text "key") .fsRead 7] .open,
    .drain .open, reads .open, reads .open, reads .open, .abortInvocation 1 .open, .dispose]

theorem request_accounting_disposed :
    ∃ s, run (sessionStep smallDescriptor) connecting readAndAbort = some s ∧
      s.settlements.map Prod.fst = [0, 1, 2, 3] ∧ s.Accounted ∧ s.SettledOnce ∧
      s.queuedRequests ≤ 1 := by
  refine exists_some_and (by decide +kernel) fun s hrun _ => ?_
  obtain ⟨haccounted, hsettled, hbounds⟩ := request_accounting smallDescriptor readAndAbort hrun
  exact ⟨haccounted, hsettled, (hbounds (by decide +kernel)).2⟩

/-- The socket is blocked by the first request; the second slot stays free. -/
theorem queue_outgrows :
    (run (sessionStep smallDescriptor) (connecting : HostToolAdapterSession Nat)
      [.data [.bound] .open, reads .full, reads .open, reads .open]).any (fun s =>
        s.activeRequests = 1 ∧ ¬s.queuedRequests ≤ smallDescriptor.limits.maxQueuedRequests) =
          true := by
  decide +kernel

end HostToolAdapterSession

end PiDaemon.ToolAdapter
