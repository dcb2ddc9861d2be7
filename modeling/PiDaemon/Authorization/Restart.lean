import Mathlib.Data.List.Chain
import PiDaemon.Authorization.Edits
import PiDaemon.Lib.Runs

/-!
# Restarting the authorization service

A service over the file that the ledger was last written to.

* `Stored.appendAudit`, `Stored.appendReceipt`, `Stored.older`: what keeps a state acceptable;
* `Edited.stored`: so does every edit, unless a transfer of ownership grants one role too many, or
  an idempotency key holds a character that a stored one may not hold;
* `authorization_restart`: a restarted service answers as the one before it.
-/

namespace PiDaemon.Authorization

open Lib List

/-! ## The file -/

/-- The state file: its size, and the state that its text is the JSON of. -/
structure AuthorizationFile where
  bytes : Nat
  content : Option DashboardAuthorizationState
  deriving DecidableEq

/-- The file that `atomicWritePrivateJson` writes, with a newline at the end. -/
def DashboardAuthorizationState.toFile (state : DashboardAuthorizationState) :
    AuthorizationFile := ⟨jsonBytes state + 1, some state⟩

def readAuthorizationState (limits : DashboardAuthorizationLimits)
    (file : Option AuthorizationFile) : Except Failure DashboardAuthorizationState :=
  match file with
  | none => .ok emptyAuthorizationState
  | some file =>
    if file.bytes < 1 ∨ file.bytes > limits.maxBytes then .error corruptAuthorizationState
    else
      match file.content with
      | none => .error corruptAuthorizationState
      | some state => validateStoredState limits state

def runInitialize (limits : DashboardAuthorizationLimits) (file : Option AuthorizationFile) :
    Except Failure Ledger :=
  (readAuthorizationState limits file).map reindexPolicies

/-! ## Runs of successful mutations -/

structure Host where
  ledger : Ledger
  file : Option AuthorizationFile

structure MutationCall where
  mutation : Mutation
  now : Option Timestamp
  eventId : EventId
  deriving DecidableEq

/-- A call that succeeds. -/
def step (service : DashboardAuthorizationService) (host : Host) (call : MutationCall) :
    Option Host :=
  match call.mutation.call service with
  | .error _ => none
  | .ok operation =>
    match operation host.ledger call.now call.eventId with
    | (ledger, .returns _) => some { host with ledger }
    | (ledger, .writes _) => some ⟨ledger, some ledger.state.toFile⟩
    | (_, .throws _) => none

variable {service : DashboardAuthorizationService} {limits : DashboardAuthorizationLimits}
  {state : DashboardAuthorizationState} {ledger edited : Ledger} {m : Mutation}
  {policy result : DashboardResourcePolicy}

/-! ## Acceptable states -/

theorem AuditStored.drop {audit : List DashboardAuthorizationAuditEvent} {next : Nat}
    (h : AuditStored audit next) (n : Nat) : AuditStored (audit.drop n) next where
  events event hmem := h.events event (mem_of_mem_drop hmem)
  ordered := by
    rw [map_drop]
    exact h.ordered.drop n
  last event hlast := by
    rw [List.getLast?_drop] at hlast
    split at hlast
    · cases hlast
    · exact h.last event hlast

theorem AuditStored.append {audit : List DashboardAuthorizationAuditEvent} {next : Nat}
    {facts : AuditFacts} {occurredAt : Timestamp} {eventId : EventId} (h : AuditStored audit next)
    (hfacts : FactsStored facts) (hpos : 1 ≤ next) (hmax : next ≤ maxSafeInteger) :
    AuditStored (audit ++ [⟨next, eventId, occurredAt, facts⟩]) (next + 1) where
  events event hmem := by
    rcases mem_append.mp hmem with hmem | hmem
    · exact h.events event hmem
    · obtain rfl := mem_singleton.mp hmem
      exact ⟨hfacts, hpos, hmax⟩
  ordered := by
    rw [map_append, isChain_append]
    refine ⟨h.ordered, isChain_singleton _, fun last hlast first hfirst => ?_⟩
    rw [List.getLast?_map] at hlast
    obtain ⟨event, hevent, rfl⟩ := Option.map_eq_some_iff.mp hlast
    cases hfirst
    exact h.last event hevent
  last event hlast := by
    rw [List.getLast?_concat] at hlast
    cases hlast
    exact Nat.lt_succ_self next

variable {receipts : List DashboardAuthorizationIdempotencyReceipt}

theorem ReceiptsStored.drop (h : ReceiptsStored limits receipts) (n : Nat) :
    ReceiptsStored limits (receipts.drop n) where
  each receipt hmem := h.each receipt (mem_of_mem_drop hmem)
  names := by
    rw [map_drop]
    exact h.names.sublist (drop_sublist n _)

theorem zero_not_mem_of_isName {max : Nat} {value : JsString} (h : isName max value = true) :
    (0 : UInt16) ∉ value := by
  simp only [isName, Bool.and_eq_true] at h
  intro hmem
  exact absurd (all_eq_true.mp h.2 0 hmem) (by decide)

theorem ReceiptsStored.append {receipt : DashboardAuthorizationIdempotencyReceipt}
    (h : ReceiptsStored limits receipts) (hreceipt : ReceiptStored limits receipt)
    (hnew : ∀ retained ∈ receipts,
      ¬(retained.pending.actorIdentityId = receipt.pending.actorIdentityId ∧
        retained.pending.key = receipt.pending.key)) :
    ReceiptsStored limits (receipts ++ [receipt]) where
  each other hmem := by
    rcases mem_append.mp hmem with hmem | hmem
    · exact h.each other hmem
    · obtain rfl := mem_singleton.mp hmem
      exact hreceipt
  names := by
    rw [map_append, nodup_append]
    refine ⟨h.names, nodup_singleton _, fun name hname other hother heq => ?_⟩
    obtain ⟨retained, hmem, rfl⟩ := mem_map.mp hname
    rw [map_singleton, mem_singleton] at hother
    exact hnew retained hmem (append_separator_inj
      (zero_not_mem_of_isName (h.each retained hmem).actor)
      (zero_not_mem_of_isName hreceipt.actor) (heq.trans hother))

/-- The events that are kept or counted as dropped. -/
def DashboardAuthorizationState.events (state : DashboardAuthorizationState) : Nat :=
  state.droppedAuditEvents + state.audit.length

/-- A stored state in which no count of dropped events is out of reach. -/
structure Settled (limits : DashboardAuthorizationLimits) (state : DashboardAuthorizationState) :
    Prop extends Stored limits state where
  countable : state.events ≤ maxSafeInteger

theorem Settled.older (h : Settled limits state) (receipts : Nat) {events : Nat}
    (hle : events ≤ state.audit.length) : Settled limits (older receipts events state) := by
  have hcount := h.countable
  rw [DashboardAuthorizationState.events] at hcount
  refine ⟨⟨h.revision, h.next, ?_, h.policyCount, ?_, ?_, h.policies, h.policyKeys,
    h.audit.drop events, h.receipts.drop receipts⟩, ?_⟩
  · simp only [Authorization.older]
    omega
  · exact Nat.le_trans (drop_sublist _ _).length_le h.auditCount
  · exact Nat.le_trans (drop_sublist _ _).length_le h.receiptCount
  · simp only [DashboardAuthorizationState.events, Authorization.older, length_drop]
    omega

theorem Settled.appendAudit {facts : AuditFacts} {occurredAt : Timestamp} {eventId : EventId}
    (h : Settled limits state) (hfacts : FactsStored facts)
    (hnext : state.nextAuditSequence < maxSafeInteger) (hevents : state.events < maxSafeInteger) :
    Settled limits (appendAudit limits state facts occurredAt eventId) := by
  rw [DashboardAuthorizationState.events] at hevents
  refine ⟨⟨h.revision, ⟨Nat.le_add_left 1 _, hnext⟩, ?_, h.policyCount, ?_, h.receiptCount,
    h.policies, h.policyKeys, (h.audit.append hfacts h.next.1 (Nat.le_of_lt hnext)).drop _,
    h.receipts⟩, ?_⟩
  · simp only [Authorization.appendAudit, length_append, length_singleton]
    omega
  · simp only [Authorization.appendAudit, length_drop]
    omega
  · simp only [DashboardAuthorizationState.events, Authorization.appendAudit, length_drop,
      length_append, length_singleton]
    omega

theorem Settled.withReceipts (h : Settled limits state)
    (hcount : receipts.length ≤ MAX_IDEMPOTENCY_RECEIPTS)
    (hreceipts : ReceiptsStored limits receipts) :
    Settled limits { state with idempotency := receipts } :=
  ⟨⟨h.revision, h.next, h.dropped, h.policyCount, h.auditCount, hcount, h.policies, h.policyKeys,
    h.audit, hreceipts⟩, h.countable⟩

theorem Settled.appendReceipt {receipt : Option PendingIdempotencyReceipt}
    (h : Settled limits state) (hresult : PolicyStored limits result)
    (hreceipt : ∀ pending, receipt = some pending →
      isName MAX_DASHBOARD_IDENTITY_ID_BYTES pending.actorIdentityId = true ∧
        isOpaque 512 pending.key = true ∧
        ∀ retained ∈ state.idempotency,
          ¬(retained.pending.actorIdentityId = pending.actorIdentityId ∧
            retained.pending.key = pending.key)) :
    Settled limits (appendReceipt state receipt result) := by
  cases receipt with
  | none => exact h
  | some pending =>
    obtain ⟨hactor, hkey, hnew⟩ := hreceipt pending rfl
    have hreceipt : ReceiptStored limits ⟨pending, result⟩ := ⟨hactor, hkey, hresult⟩
    refine h.withReceipts ?_ ((h.receipts.append hreceipt hnew).drop _)
    rw [length_drop]
    exact Nat.sub_le_of_le_add (by omega)

/-! ## Calls after which a restart is faithful -/

/-- The characters that a stored key may not hold. -/
def storableKey (key : JsString) : Bool :=
  !key.contains 0x0d && !key.contains 0x0a && !key.contains 0

structure Storable (service : DashboardAuthorizationService) (host : Host) (call : MutationCall) :
    Prop where
  key : ∀ key, call.mutation.idempotencyKey = some key → storableKey key = true
  room : ∀ policy, host.ledger.policy call.mutation.resource = some policy →
    call.mutation.hasRoom service.limits policy = true
  policyRevision : ∀ policy, host.ledger.policy call.mutation.resource = some policy →
    call.mutation.replaces policy = true → policy.revision < maxSafeInteger
  revision : call.mutation.audits host.ledger = true ∨ call.mutation.idempotencyKey.isSome →
    host.ledger.state.revision < maxSafeInteger ∧ host.ledger.state.events ≤ maxSafeInteger
  audit : call.mutation.audits host.ledger = true →
    host.ledger.state.nextAuditSequence < maxSafeInteger ∧
      host.ledger.state.events < maxSafeInteger

instance (host : Host) (call : MutationCall) : Decidable (Storable service host call) :=
  decidable_of_iff
    (call.mutation.idempotencyKey.all storableKey = true ∧
      ((host.ledger.policy call.mutation.resource).all fun policy =>
        call.mutation.hasRoom service.limits policy &&
          (!call.mutation.replaces policy || policy.revision < maxSafeInteger)) = true ∧
      (call.mutation.audits host.ledger = true ∨ call.mutation.idempotencyKey.isSome →
        host.ledger.state.revision < maxSafeInteger ∧
          host.ledger.state.events ≤ maxSafeInteger) ∧
      (call.mutation.audits host.ledger = true →
        host.ledger.state.nextAuditSequence < maxSafeInteger ∧
          host.ledger.state.events < maxSafeInteger)) <| by
    simp only [Option.all_eq_true, Bool.and_eq_true, Bool.or_eq_true, Bool.not_eq_true',
      decide_eq_true_eq]
    constructor
    · rintro ⟨hkey, hpolicy, hrevision, haudit⟩
      refine ⟨hkey, fun policy hget => (hpolicy policy hget).1, fun policy hget hreplaces => ?_,
        hrevision, haudit⟩
      rcases (hpolicy policy hget).2 with hnot | hlt
      · rw [hreplaces] at hnot
        cases hnot
      · exact hlt
    · intro h
      refine ⟨h.key, fun policy hget => ⟨h.room policy hget, ?_⟩, h.revision, h.audit⟩
      cases hreplaces : call.mutation.replaces policy with
      | false => exact .inl rfl
      | true => exact .inr (h.policyRevision policy hget hreplaces)

theorem isOpaque_of_storable {key : JsString} (hbounded : 1 ≤ key.length ∧ byteLength key ≤ 512)
    (h : storableKey key = true) : isOpaque 512 key = true := by
  simp only [storableKey, Bool.and_eq_true] at h
  simp only [isOpaque, Bool.and_eq_true, decide_eq_true_eq]
  exact ⟨⟨⟨hbounded, h.1.1⟩, h.1.2⟩, h.2⟩

theorem PolicyStored.replaced {previous updated : DashboardResourcePolicy}
    (h : PolicyStored limits previous) (hreplaces : Replaces limits m previous updated)
    (hroom : m.hasRoom limits previous = true) (hrevision : previous.revision < maxSafeInteger) :
    PolicyStored limits updated where
  resource := hreplaces.resource ▸ h.resource
  owner := hreplaces.owner h.owner
  grantCount := hreplaces.grantCount hroom h.grantCount
  identities := hreplaces.identities h.owner h.identities
  ownerless := (hreplaces.wellOwned ⟨h.ownerless, h.distinct⟩).ownerless
  distinct := (hreplaces.wellOwned ⟨h.ownerless, h.distinct⟩).distinct
  revision := by
    rw [hreplaces.revision]
    exact ⟨Nat.le_add_left 1 _, hrevision⟩

theorem Settled.withRevision (h : Settled limits state) {revision : Nat}
    (hrevision : revision ≤ maxSafeInteger) :
    Settled limits { state with revision } :=
  ⟨⟨hrevision, h.next, h.dropped, h.policyCount, h.auditCount, h.receiptCount, h.policies,
    h.policyKeys, h.audit, h.receipts⟩, h.countable⟩

theorem Settled.withPolicies (h : Settled limits state)
    {policies : List DashboardResourcePolicy} (hcount : policies.length ≤ limits.maxPolicies)
    (hpolicies : ∀ policy ∈ policies, PolicyStored limits policy)
    (hkeys : (policies.map fun policy => resourceKey policy.resource).Nodup) :
    Settled limits { state with policies } :=
  ⟨⟨h.revision, h.next, h.dropped, hcount, h.auditCount, h.receiptCount, hpolicies, hkeys, h.audit,
    h.receipts⟩, h.countable⟩

theorem Edited.settled {call : MutationCall} {host : Host}
    (h : Edited service call.mutation host.ledger edited result) (hi : Indexed host.ledger)
    (hstored : Stored service.limits host.ledger.state) (hok : Storable service host call) :
    Settled service.limits edited.state := by
  have hpending : ∀ pending, Fresh call.mutation host.ledger pending →
      isName MAX_DASHBOARD_IDENTITY_ID_BYTES pending.actorIdentityId = true ∧
        isOpaque 512 pending.key = true ∧ _ := fun pending hfresh =>
    ⟨hfresh.name, isOpaque_of_storable hfresh.bounded (hok.key _ hfresh.key), hfresh.absent⟩
  have hpolicy : ∀ policy, host.ledger.policy call.mutation.resource = some policy →
      PolicyStored service.limits policy := fun policy hget =>
    hstored.policies policy ((hi.finds _ _).mp hget).1
  have hkeys := (h.indexed hi).keys
  cases h with
  | created _ policies facts occurredAt eventId hnone hroom hperm hresource hgrants hrevision
      howner hname hfacts =>
    have haudits := audits_of_none hnone
    obtain ⟨hmax, hevents⟩ := hok.revision (.inl haudits)
    obtain ⟨hnext, hevents'⟩ := hok.audit haudits
    have hnew : PolicyStored service.limits result := by
      refine ⟨hresource ▸ hname, howner, ?_, ?_, ?_, ?_, ?_⟩
      · simp [hgrants]
      · simp [hgrants]
      · simp [hgrants]
      · simp [hgrants]
      · rw [hrevision]
        decide
    have hsettled : Settled service.limits host.ledger.state := ⟨hstored, hevents⟩
    have hcount : policies.length ≤ service.limits.maxPolicies := by
      rw [hperm.length_eq, length_append]
      exact hroom
    have hpolicies : ∀ policy ∈ policies, PolicyStored service.limits policy := by
      intro policy hmem
      rcases mem_append.mp (hperm.mem_iff.mp hmem) with hmem | hmem
      · exact hstored.policies policy hmem
      · obtain rfl := mem_singleton.mp hmem
        exact hnew
    exact ((hsettled.withRevision hmax).withPolicies hcount hpolicies hkeys).appendAudit hfacts
      hnext hevents'
  | replaced previous _ index facts occurredAt eventId receipt hprevious hadmin hindex hreplaces
      hfacts hfresh =>
    have haudits := audits_of_replaces hprevious hreplaces.replaces
    obtain ⟨hmax, hevents⟩ := hok.revision (.inl haudits)
    obtain ⟨hnext, hevents'⟩ := hok.audit haudits
    have hold := hpolicy _ hprevious
    have hnew := hold.replaced hreplaces (hok.room _ hprevious)
      (hok.policyRevision _ hprevious hreplaces.replaces)
    rw [appendReceipt_policies] at hkeys
    have hsettled : Settled service.limits host.ledger.state := ⟨hstored, hevents⟩
    have hcount : (host.ledger.state.policies.set index result).length ≤
        service.limits.maxPolicies := by
      rw [length_set]
      exact hstored.policyCount
    have hpolicies : ∀ policy ∈ host.ledger.state.policies.set index result,
        PolicyStored service.limits policy := by
      intro policy hmem
      rcases mem_or_eq_of_mem_set hmem with hmem | rfl
      · exact hstored.policies policy hmem
      · exact hnew
    exact (((hsettled.withRevision hmax).withPolicies hcount hpolicies hkeys).appendAudit
      (hfacts hold.owner) hnext hevents').appendReceipt hnew
        fun pending hsome => hpending pending (hfresh pending hsome)
  | recorded _ receipt hget hfresh =>
    have hsome : call.mutation.idempotencyKey.isSome = true := by
      rw [hfresh.key]
      rfl
    obtain ⟨hmax, hevents⟩ := hok.revision (.inr hsome)
    have hsettled : Settled service.limits host.ledger.state := ⟨hstored, hevents⟩
    have hreceipt : ∀ pending, some receipt = some pending → _ := fun pending heq =>
      hpending pending (Option.some.inj heq ▸ hfresh)
    exact (hsettled.withRevision hmax).appendReceipt (hpolicy _ hget) hreceipt
  | transferred _ facts occurredAt eventId receipt hget haudits hfacts hfresh =>
    obtain ⟨hmax, hevents⟩ := hok.revision (.inl haudits)
    obtain ⟨hnext, hevents'⟩ := hok.audit haudits
    have hsettled : Settled service.limits host.ledger.state := ⟨hstored, hevents⟩
    exact ((hsettled.withRevision hmax).appendAudit hfacts hnext hevents').appendReceipt
      (hpolicy _ hget) fun pending hsome => hpending pending (hfresh pending hsome)

/-! ## Restarting -/

/-- The ledger in memory is the one in the file. -/
structure Persisted (limits : DashboardAuthorizationLimits) (host : Host) : Prop where
  indexed : Indexed host.ledger
  stored : Stored limits host.ledger.state
  read : readAuthorizationState limits host.file = .ok host.ledger.state

theorem stored_empty (limits : DashboardAuthorizationLimits) :
    Stored limits emptyAuthorizationState := by
  refine ⟨Nat.zero_le _, by decide, Nat.zero_le _, Nat.zero_le _, Nat.zero_le _, Nat.zero_le _,
    ?_, nodup_nil, ⟨?_, .nil, ?_⟩, ⟨?_, nodup_nil⟩⟩
  all_goals intro _ h; cases h

theorem readAuthorizationState_stored {file : Option AuthorizationFile}
    (h : readAuthorizationState limits file = .ok state) : Stored limits state := by
  cases file with
  | none =>
    cases h
    exact stored_empty limits
  | some file =>
    rw [readAuthorizationState] at h
    split at h
    · cases h
    split at h
    · cases h
    · obtain ⟨hstored, rfl⟩ := validateStoredState_ok.mp h
      exact hstored

theorem readAuthorizationState_toFile (hstored : Stored limits state)
    (hfits : fits limits state = true) :
    readAuthorizationState limits (some state.toFile) = .ok state := by
  have hbytes : jsonBytes state + 1 ≤ limits.maxBytes := of_decide_eq_true hfits
  have hsize : state.toFile.bytes = jsonBytes state + 1 := rfl
  have haccepted : ¬(state.toFile.bytes < 1 ∨ state.toFile.bytes > limits.maxBytes) := by
    omega
  rw [readAuthorizationState, if_neg haccepted]
  exact validateStoredState_ok.mpr ⟨hstored, rfl⟩

theorem Persisted.initial {file : Option AuthorizationFile}
    (h : runInitialize limits file = .ok ledger) : Persisted limits ⟨ledger, file⟩ := by
  rw [runInitialize] at h
  cases hread : readAuthorizationState limits file with
  | error failure =>
    rw [hread] at h
    cases h
  | ok state =>
    rw [hread] at h
    cases h
    have hstored := readAuthorizationState_stored hread
    exact ⟨reindexPolicies_indexed hstored.policyKeys, hstored, hread⟩

theorem Persisted.step {host host' : Host} {call : MutationCall}
    (h : Persisted service.limits host) (hok : Storable service host call)
    (hstep : step service host call = some host') : Persisted service.limits host' := by
  rw [Authorization.step] at hstep
  split at hstep
  · cases hstep
  rename_i operation hcall
  split at hstep
  · rename_i ledger' policy heq
    cases hstep
    obtain rfl := call_returns hcall heq
    exact h
  · rename_i ledger' policy heq
    cases hstep
    obtain ⟨edited, _, hedited, hfits, rfl⟩ := call_writes hcall heq
    have hsettled := hedited.settled h.indexed h.stored hok
    have hindexed := hedited.indexed h.indexed
    obtain ⟨receipts, _, hle, htrim⟩ := trim_eq service.limits edited.state
    have hstored := (hsettled.older receipts hle).toStored
    rw [← htrim] at hstored
    refine ⟨⟨?_, fun key policy => ?_⟩, hstored, readAuthorizationState_toFile hstored hfits⟩
    · rw [trim_policies]
      exact hindexed.keys
    · rw [trim_policies]
      exact hindexed.finds key policy
  · cases hstep

/-- Two ledgers give the same answers. -/
structure SameAnswers (service : DashboardAuthorizationService) (ledger ledger' : Ledger) :
    Prop where
  roles : ∀ principal resource, ledger.effectiveRole service principal resource =
    ledger'.effectiveRole service principal resource
  queries : ∀ query, ledger.answer service query = ledger'.answer service query
  policies : ledger.state.policies = ledger'.state.policies
  audit : ledger.state.audit = ledger'.state.audit
  replays : ∀ receipt, replayReceipt ledger receipt = replayReceipt ledger' receipt

theorem Indexed.sameAnswers {ledger' : Ledger} (h : Indexed ledger) (h' : Indexed ledger')
    (hstate : ledger.state = ledger'.state) : SameAnswers service ledger ledger' := by
  have hpolicy := h.same_policy h' (congrArg _ hstate)
  have hrole : ledger.effectiveRole service = ledger'.effectiveRole service := by
    funext principal resource
    rw [Ledger.effectiveRole, Ledger.effectiveRole, hpolicy]
  refine ⟨fun principal resource => congrFun (congrFun hrole principal) resource, fun query => ?_,
    congrArg _ hstate, congrArg _ hstate, fun receipt => ?_⟩
  · cases query <;> simp only [Ledger.answer, Ledger.require, Ledger.listPolicies,
      Ledger.mutableAdminPolicy, Ledger.auditEvents, Ledger.resourceEvents, hrole, hpolicy, hstate]
  · cases receipt <;> simp only [replayReceipt, hstate]

/-- **A restart is faithful** after any run of successful calls that are storable. -/
theorem authorization_restart (service : DashboardAuthorizationService)
    (file : Option AuthorizationFile) (ledger : Ledger) (calls : List MutationCall) (host : Host)
    (hinitial : runInitialize service.limits file = .ok ledger)
    (hmeets : Meets (step service) (Storable service) ⟨ledger, file⟩ calls)
    (hrun : run (step service) ⟨ledger, file⟩ calls = some host) :
    ∃ restarted, runInitialize service.limits host.file = .ok restarted ∧
      SameAnswers service restarted host.ledger := by
  have h : Persisted service.limits host :=
    run_invariant_of_meets (fun _ _ _ hinv hok hstep => hinv.step hok hstep)
      (Persisted.initial hinitial) hmeets hrun
  refine ⟨reindexPolicies host.ledger.state, ?_,
    (reindexPolicies_indexed h.indexed.keys).sameAnswers h.indexed rfl⟩
  rw [runInitialize, h.read]
  rfl

def plainTimestamp : Timestamp := ⟨text "2026-01-01T00:00:00.000Z", by decide⟩

def plainEventId : EventId :=
  ⟨text "authorization-event-00000000-0000-4000-8000-000000000000", by decide⟩

/-- A service that allows one grant for each policy. -/
def plainService : DashboardAuthorizationService where
  mode := .multiUser
  localOwnerIdentityId := text "local-owner"
  limits := { maxPolicies := 4, maxGrantsPerPolicy := 1, maxAuditEvents := 16, maxBytes := 65536 }
  localeLe left right := !List.lex right left
  digest _ := ⟨text "2gis-iY2mblE_cAtRK9HG9FB-G9-iUELa-FB9hSb4E0", by decide⟩

def plainHost : Host := ⟨reindexPolicies emptyAuthorizationState, none⟩

def plainCall (mutation : Mutation) : MutationCall := ⟨mutation, some plainTimestamp, plainEventId⟩

def alice : DashboardPrincipal := ⟨text "alice", .member⟩

def plainResource : DashboardResourceRef := ⟨.session, text "s1"⟩

/-- Alice registers a session and lets Bob read it. -/
def grantCalls : List MutationCall :=
  [plainCall (.registerCreatedResource alice plainResource),
    plainCall (.setGrant
      { principal := alice, resource := plainResource, subjectIdentityId := text "bob", role := .read
        expectedRevision := 1, idempotencyKey := some (text "k1") })]

theorem authorization_restart_granted : ∃ host restarted,
    run (step plainService) plainHost grantCalls = some host ∧
      runInitialize plainService.limits host.file = .ok restarted ∧
      SameAnswers plainService restarted host.ledger := by
  have hsome : (run (step plainService) plainHost grantCalls).isSome = true := by decide +kernel
  obtain ⟨host, hrun⟩ := Option.isSome_iff_exists.mp hsome
  obtain ⟨restarted, hrestart, hsame⟩ :=
    authorization_restart plainService none (reindexPolicies emptyAuthorizationState) grantCalls host
      rfl (by decide +kernel) hrun
  exact ⟨host, restarted, hrun, hrestart, hsame⟩

/-- Then Alice gives the session to Carol, and stays an administrator of it. -/
def transferCalls : List MutationCall :=
  grantCalls ++ [plainCall (.transferOwnership
    { principal := alice, resource := plainResource, newOwnerIdentityId := text "carol"
      previousOwnerRole := some .admin, expectedRevision := 2, idempotencyKey := none })]

/-- The policy has two grants now, and no restart accepts the file. -/
theorem authorization_restart_refused : ∃ host,
    run (step plainService) plainHost transferCalls = some host ∧
      runInitialize plainService.limits host.file = .error corruptAuthorizationState := by
  obtain ⟨host, hrun, herror⟩ : ∃ host, run (step plainService) plainHost transferCalls = some host ∧
      readAuthorizationState plainService.limits host.file = .error corruptAuthorizationState := by
    decide +kernel
  refine ⟨host, hrun, ?_⟩
  rw [runInitialize, herror]
  rfl

end PiDaemon.Authorization
