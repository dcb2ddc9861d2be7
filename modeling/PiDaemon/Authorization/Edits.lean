import PiDaemon.Authorization.Ledger
import PiDaemon.Lib.Mirror

/-!
# What a mutation writes

* `Edited`: the four ways in which a mutation edits the ledger before it is written;
* `call_performs`: what the operation of a mutation does to the ledger in memory; one that is about
  to write has edited it (`call_writes`), one that returns at once has not (`call_returns`);
* `Edited.indexed`, `Edited.wellOwned`, `Edited.policy_cases`: what every edit keeps.
-/

namespace PiDaemon.Authorization

open Lib List Option OrderedMap

variable {service : DashboardAuthorizationService} {limits : DashboardAuthorizationLimits}
  {state : DashboardAuthorizationState} {ledger ledger' : Ledger}
  {policy : DashboardResourcePolicy} {now : Option Timestamp} {eventId : EventId}

/-! ## Trimming -/

/-- A state without its oldest receipts and events. -/
def older (receipts events : Nat) (state : DashboardAuthorizationState) :
    DashboardAuthorizationState :=
  { state with
    idempotency := state.idempotency.drop receipts
    audit := state.audit.drop events
    droppedAuditEvents := state.droppedAuditEvents + events }

section
variable (limits)

section
variable (state)

theorem dropReceipts_eq (receipts : List DashboardAuthorizationIdempotencyReceipt) :
    ∃ n, dropReceipts limits state receipts = { state with idempotency := receipts.drop n } := by
  induction receipts with
  | nil => exact ⟨0, rfl⟩
  | cons receipt rest ih =>
    rw [dropReceipts]
    split
    · exact ⟨0, rfl⟩
    · obtain ⟨n, hn⟩ := ih
      exact ⟨n + 1, hn⟩

theorem dropAudit_eq (events : List DashboardAuthorizationAuditEvent) (dropped : Nat) :
    ∃ n, n ≤ events.length ∧ dropAudit limits state events dropped =
      { state with audit := events.drop n, droppedAuditEvents := dropped + n } := by
  induction events generalizing dropped with
  | nil => exact ⟨0, Nat.le_refl 0, rfl⟩
  | cons event rest ih =>
    rw [dropAudit]
    split
    · exact ⟨0, Nat.zero_le _, rfl⟩
    obtain ⟨n, hle, hn⟩ := ih (dropped + 1)
    refine ⟨n + 1, Nat.succ_le_succ hle, ?_⟩
    rw [hn, drop_succ_cons, Nat.add_assoc, Nat.add_comm 1 n]

theorem trim_eq :
    ∃ receipts events, events ≤ state.audit.length ∧
      trim limits state = older receipts events state := by
  obtain ⟨receipts, hreceipts⟩ := dropReceipts_eq limits state state.idempotency
  obtain ⟨events, hle, hevents⟩ := dropAudit_eq limits
    { state with idempotency := state.idempotency.drop receipts } state.audit
    state.droppedAuditEvents
  refine ⟨receipts, events, hle, ?_⟩
  rw [trim, hreceipts]
  exact hevents

theorem trim_policies : (trim limits state).policies = state.policies := by
  obtain ⟨_, _, -, h⟩ := trim_eq limits state
  rw [h]
  rfl

end

end

/-! ## Appending -/

@[simp] theorem appendAudit_policies {facts : AuditFacts} {occurredAt : Timestamp} :
    (appendAudit limits state facts occurredAt eventId).policies = state.policies := rfl

@[simp] theorem appendReceipt_policies {receipt : Option PendingIdempotencyReceipt} :
    (appendReceipt state receipt policy).policies = state.policies := by
  cases receipt <;> simp only [appendReceipt]

/-! ## Ownership -/

/-- A policy whose owner has no grant, and which grants nothing twice. -/
structure WellOwned (policy : DashboardResourcePolicy) : Prop where
  ownerless : ∀ grant ∈ policy.grants, grant.identityId ≠ policy.ownerIdentityId
  distinct : (policy.grants.map (·.identityId)).Nodup

theorem sortGrants_perm (service : DashboardAuthorizationService)
    (grants : List DashboardResourceGrant) : (sortGrants service grants).Perm grants :=
  perm_insertionSort _ _

theorem distinct_filter {grants : List DashboardResourceGrant}
    (p : DashboardResourceGrant → Bool) (h : (grants.map (·.identityId)).Nodup) :
    ((grants.filter p).map (·.identityId)).Nodup :=
  h.sublist (filter_sublist.map _)

theorem distinct_append {grants : List DashboardResourceGrant} {grant : DashboardResourceGrant}
    (h : (grants.map (·.identityId)).Nodup) (hnew : ∀ g ∈ grants, g.identityId ≠ grant.identityId) :
    ((grants ++ [grant]).map (·.identityId)).Nodup := by
  rw [map_append, nodup_append]
  refine ⟨h, nodup_singleton _, fun id hid other hother heq => ?_⟩
  obtain ⟨g, hg, rfl⟩ := List.mem_map.mp hid
  rw [map_singleton, mem_singleton] at hother
  exact hnew g hg (heq.trans hother)

/-! ## The index -/

/-- The index finds the policies. -/
structure Indexed (ledger : Ledger) : Prop where
  keys : (ledger.state.policies.map fun policy => resourceKey policy.resource).Nodup
  finds : ∀ key policy, ledger.policyIndex.get? key = some policy ↔
    policy ∈ ledger.state.policies ∧ resourceKey policy.resource = key

theorem reindexPolicies_indexed
    (h : (state.policies.map fun policy => resourceKey policy.resource).Nodup) :
    Indexed (reindexPolicies state) := by
  obtain ⟨hset, hother⟩ := get?_foldl_set
    (fun policy : DashboardResourcePolicy => resourceKey policy.resource) state.policies .empty h
  refine ⟨h, fun key policy => ⟨fun hget => ?_, ?_⟩⟩
  · by_cases hmem : key ∈ state.policies.map fun policy => resourceKey policy.resource
    · obtain ⟨found, hfound, rfl⟩ := List.mem_map.mp hmem
      have hsame := (hset found hfound).symm.trans hget
      cases hsame
      exact ⟨hfound, rfl⟩
    · have hnone := (hother key hmem).symm.trans hget
      cases hnone
  · rintro ⟨hmem, rfl⟩
    exact hset policy hmem

theorem Indexed.same_policy {other : Ledger} (h : Indexed ledger) (h' : Indexed other)
    (hpolicies : ledger.state.policies = other.state.policies) (resource : DashboardResourceRef) :
    ledger.policy resource = other.policy resource := by
  apply Option.ext
  intro policy
  rw [Ledger.policy, Ledger.policy, h.finds, h'.finds, hpolicies]

/-! ## Edits -/

/-- The mutation replaces the policy that it finds. -/
def Mutation.replaces (policy : DashboardResourcePolicy) : Mutation → Bool
  | .setGrant _ => true
  | .revokeGrant options => policy.grants.any (·.identityId = options.subjectIdentityId)
  | .transferOwnership options => policy.ownerIdentityId ≠ options.newOwnerIdentityId
  | _ => false

def Mutation.isControllerTransfer : Mutation → Bool
  | .recordControllerTransfer _ => true
  | _ => false

/-- The mutation is audited. -/
def Mutation.audits (ledger : Ledger) (m : Mutation) : Bool :=
  (ledger.policy m.resource).all fun policy => m.replaces policy || m.isControllerTransfer

/-- A transfer that gives the previous owner a role has room for one more grant, unless the new
owner gives up one. -/
def Mutation.hasRoom (limits : DashboardAuthorizationLimits) (policy : DashboardResourcePolicy) :
    Mutation → Bool
  | .transferOwnership options =>
    policy.ownerIdentityId = options.newOwnerIdentityId || options.previousOwnerRole.isNone ||
      policy.grants.length < limits.maxGrantsPerPolicy ||
      policy.grants.any (·.identityId = options.newOwnerIdentityId)
  | _ => true

/-- What replacing a policy keeps. -/
structure Replaces (limits : DashboardAuthorizationLimits) (m : Mutation)
    (previous updated : DashboardResourcePolicy) : Prop where
  replaces : m.replaces previous = true
  resource : updated.resource = previous.resource
  revision : updated.revision = previous.revision + 1
  wellOwned : WellOwned previous → WellOwned updated
  owner : isName MAX_DASHBOARD_IDENTITY_ID_BYTES previous.ownerIdentityId = true →
    isName MAX_DASHBOARD_IDENTITY_ID_BYTES updated.ownerIdentityId = true
  identities : isName MAX_DASHBOARD_IDENTITY_ID_BYTES previous.ownerIdentityId = true →
    (∀ grant ∈ previous.grants, isName MAX_DASHBOARD_IDENTITY_ID_BYTES grant.identityId = true) →
    ∀ grant ∈ updated.grants, isName MAX_DASHBOARD_IDENTITY_ID_BYTES grant.identityId = true
  grantCount : m.hasRoom limits previous = true →
    previous.grants.length ≤ limits.maxGrantsPerPolicy →
    updated.grants.length ≤ limits.maxGrantsPerPolicy

/-- A receipt that is not retained yet. -/
structure Fresh (m : Mutation) (ledger : Ledger) (receipt : PendingIdempotencyReceipt) : Prop where
  actor : receipt.actorIdentityId = m.principal.identityId
  name : isName MAX_DASHBOARD_IDENTITY_ID_BYTES receipt.actorIdentityId = true
  key : m.idempotencyKey = some receipt.key
  bounded : 1 ≤ receipt.key.length ∧ byteLength receipt.key ≤ 512
  absent : ∀ retained ∈ ledger.state.idempotency,
    ¬(retained.pending.actorIdentityId = receipt.actorIdentityId ∧
      retained.pending.key = receipt.key)

inductive Edited (service : DashboardAuthorizationService) (m : Mutation) (ledger : Ledger) :
    Ledger → DashboardResourcePolicy → Prop
  | created (policy : DashboardResourcePolicy) (policies : List DashboardResourcePolicy)
      (facts : AuditFacts) (occurredAt : Timestamp) (eventId : EventId)
      (hnone : ledger.policy m.resource = none)
      (hroom : ledger.state.policies.length < service.limits.maxPolicies)
      (hpolicies : policies.Perm (ledger.state.policies ++ [policy]))
      (hresource : policy.resource = m.resource) (hgrants : policy.grants = [])
      (hrevision : policy.revision = 1)
      (howner : isName MAX_DASHBOARD_IDENTITY_ID_BYTES policy.ownerIdentityId = true)
      (hname : isName MAX_RESOURCE_ID_BYTES m.resource.id = true) (hfacts : FactsStored facts) :
      Edited service m ledger
        { state := appendAudit service.limits
            { ledger.state with policies, revision := ledger.state.revision + 1 } facts occurredAt
            eventId
          policyIndex := ledger.policyIndex.set (resourceKey m.resource) policy } policy
  | replaced (previous updated : DashboardResourcePolicy) (index : Nat) (facts : AuditFacts)
      (occurredAt : Timestamp) (eventId : EventId) (receipt : Option PendingIdempotencyReceipt)
      (hprevious : ledger.policy m.resource = some previous)
      (hadmin : ledger.effectiveRole service m.principal m.resource = some .admin)
      (hindex : ledger.state.policies[index]? = some previous)
      (hreplaces : Replaces service.limits m previous updated)
      (hfacts : isName MAX_DASHBOARD_IDENTITY_ID_BYTES previous.ownerIdentityId = true →
        FactsStored facts)
      (hfresh : ∀ pending, receipt = some pending → Fresh m ledger pending) :
      Edited service m ledger
        { state := appendReceipt (appendAudit service.limits
            { ledger.state with
              policies := ledger.state.policies.set index updated
              revision := ledger.state.revision + 1 } facts occurredAt eventId) receipt updated
          policyIndex := ledger.policyIndex.set (resourceKey updated.resource) updated } updated
  | recorded (policy : DashboardResourcePolicy) (receipt : PendingIdempotencyReceipt)
      (hpolicy : ledger.policy m.resource = some policy) (hfresh : Fresh m ledger receipt) :
      Edited service m ledger
        { ledger with
          state := appendReceipt { ledger.state with revision := ledger.state.revision + 1 }
            (some receipt) policy } policy
  | transferred (policy : DashboardResourcePolicy) (facts : AuditFacts) (occurredAt : Timestamp)
      (eventId : EventId) (receipt : Option PendingIdempotencyReceipt)
      (hpolicy : ledger.policy m.resource = some policy) (haudits : m.audits ledger = true)
      (hfacts : FactsStored facts)
      (hfresh : ∀ pending, receipt = some pending → Fresh m ledger pending) :
      Edited service m ledger
        { ledger with
          state := appendReceipt (appendAudit service.limits
            { ledger.state with revision := ledger.state.revision + 1 } facts occurredAt eventId)
            receipt policy } policy

/-! ## The mutations -/

variable {m : Mutation} {op : Operation} {result : DashboardResourcePolicy}
  {receipt : Option PendingIdempotencyReceipt}

variable {options : TransferOwnershipOptions} {principal : DashboardPrincipal} {edited : Ledger}
  {pending : PendingIdempotencyReceipt}

theorem replayReceipt_none (h : replayReceipt ledger receipt = .ok none)
    (hsome : receipt = some pending) :
    ∀ retained ∈ ledger.state.idempotency,
      ¬(retained.pending.actorIdentityId = pending.actorIdentityId ∧
        retained.pending.key = pending.key) := by
  subst hsome
  simp only [replayReceipt] at h
  split at h
  · rename_i hnone
    intro retained hmem heq
    have := List.find?_eq_none.mp hnone retained hmem
    simp [heq.1, heq.2] at this
  · split at h <;> cases h

theorem pendingReceipt_some {key : Option JsString} {request : JsMembers Nat}
    (h : pendingReceipt service principal key request = .ok receipt)
    (hsome : receipt = some pending) :
    pending.actorIdentityId = principal.identityId ∧ key = some pending.key ∧
      1 ≤ pending.key.length ∧ byteLength pending.key ≤ 512 := by
  subst hsome
  cases key with
  | none => cases h
  | some =>
    simp only [pendingReceipt, then_ok, check_ok, Bool.and_eq_true, decide_eq_true_eq,
      Except.ok.injEq, Option.some.injEq] at h
    obtain ⟨hbounded, rfl⟩ := h
    exact ⟨rfl, rfl, hbounded⟩

theorem fresh_of_pending {key : Option JsString} {request : JsMembers Nat}
    (hprincipal : m.principal = principal) (hkey : m.idempotencyKey = key)
    (hname : isName MAX_DASHBOARD_IDENTITY_ID_BYTES principal.identityId = true)
    (hreceipt : pendingReceipt service principal key request = .ok receipt)
    (hreplay : replayReceipt ledger receipt = .ok none) (hsome : receipt = some pending) :
    Fresh m ledger pending := by
  obtain ⟨hactor, hown, hbounded⟩ := pendingReceipt_some hreceipt hsome
  exact ⟨hactor.trans (hprincipal ▸ rfl), hactor ▸ hname, hkey.trans hown, hbounded,
    replayReceipt_none hreplay hsome⟩

theorem mutableAdminPolicy_ok {resource : DashboardResourceRef}
    (h : ledger.mutableAdminPolicy service principal resource = .ok policy) :
    ledger.effectiveRole service principal resource = some .admin ∧
      ledger.policy resource = some policy := by
  rw [Ledger.mutableAdminPolicy] at h
  split at h
  · cases h
  rename_i hadmin
  split at h
  · cases h
  rename_i hpolicy
  cases h
  exact ⟨Decidable.not_not.mp hadmin, hpolicy⟩

/-- What an operation does: it keeps the ledger and writes nothing, or it edits the ledger and
trims it to the byte limit, where it throws if there is no room. -/
inductive Performs (service : DashboardAuthorizationService) (m : Mutation) (ledger : Ledger) :
    Ledger × Attempt → Prop
  | kept (attempt : Attempt) (hattempt : ∀ policy, attempt ≠ .writes policy) :
      Performs service m ledger (ledger, attempt)
  | edits (edited : Ledger) (result : DashboardResourcePolicy) (attempt : Attempt)
      (hedited : Edited service m ledger edited result)
      (hattempt : (attempt = .writes result ∧
        fits service.limits (trim service.limits edited.state) = true) ∨
        ∃ failure, attempt = .throws failure) :
      Performs service m ledger
        ({ edited with state := trim service.limits edited.state }, attempt)

theorem Performs.throws (failure : Failure) :
    Performs service m ledger (ledger, .throws failure) := by
  refine .kept _ fun policy h => ?_
  cases h

theorem Performs.returns (policy : DashboardResourcePolicy) :
    Performs service m ledger (ledger, .returns policy) := by
  refine .kept _ fun policy h => ?_
  cases h

theorem Edited.performs (h : Edited service m ledger edited result) :
    Performs service m ledger (write service.limits edited result) := by
  refine .edits edited result _ h ?_
  split
  · rename_i hfits
    exact .inl ⟨rfl, hfits⟩
  · exact .inr ⟨_, rfl⟩

/-- A mutation of a policy replays a receipt, or does what its edit does. -/
theorem withPolicy_performs {expected : Nat} {edit : DashboardResourcePolicy → Operation}
    (hedit : ∀ policy, replayReceipt ledger receipt = .ok none →
      ledger.effectiveRole service m.principal m.resource = some .admin →
      ledger.policy m.resource = some policy →
      Performs service m ledger (edit policy ledger now eventId)) :
    Performs service m ledger
      (withPolicy service m.principal m.resource expected receipt edit ledger now eventId) := by
  rw [withPolicy]
  split
  · exact .throws _
  · exact .returns _
  · rename_i hreplay
    dsimp only
    split
    · exact .throws _
    rename_i policy hfound
    obtain ⟨_, hadmin, hrest⟩ := bind_ok.mp hfound
    obtain ⟨-, heq⟩ := then_ok.mp hrest
    cases heq
    obtain ⟨hrole, hpolicy⟩ := mutableAdminPolicy_ok hadmin
    exact hedit _ hreplay hrole hpolicy

theorem replacePolicy_performs {previous next : DashboardResourcePolicy} {facts : AuditFacts}
    (hprevious : ledger.policy m.resource = some previous)
    (hadmin : ledger.effectiveRole service m.principal m.resource = some .admin)
    (hreplaces : ∀ occurredAt, Replaces service.limits m previous
      { next with
        revision := previous.revision + 1
        createdAt := previous.createdAt
        updatedAt := occurredAt })
    (hfacts : isName MAX_DASHBOARD_IDENTITY_ID_BYTES previous.ownerIdentityId = true →
      FactsStored facts)
    (hfresh : ∀ pending, receipt = some pending → Fresh m ledger pending) :
    Performs service m ledger
      (replacePolicy service ledger previous next facts receipt now eventId) := by
  simp only [replacePolicy]
  split
  · exact .throws _
  rename_i index hindex
  split
  · exact .throws _
  rename_i occurredAt
  obtain ⟨hlt, heq, -⟩ := List.findIdx?_eq_some_iff_getElem.mp hindex
  have hfound : ledger.state.policies[index]? = some previous := by
    rw [List.getElem?_eq_getElem hlt, of_decide_eq_true heq]
  exact Edited.performs (.replaced previous _ index facts occurredAt eventId receipt hprevious
    hadmin hfound (hreplaces occurredAt) hfacts hfresh)

theorem recordReceipt_performs (hpolicy : ledger.policy m.resource = some policy)
    (hfresh : ∀ pending, receipt = some pending → Fresh m ledger pending) :
    Performs service m ledger (recordReceipt service ledger policy receipt) := by
  cases receipt with
  | none => exact .returns policy
  | some pending => exact Edited.performs (.recorded policy pending hpolicy (hfresh pending rfl))

theorem registerPolicy_performs {actor owner : JsString}
    {action : DashboardAuthorizationAuditAction}
    (hactor : isName MAX_DASHBOARD_IDENTITY_ID_BYTES actor = true)
    (howner : isName MAX_DASHBOARD_IDENTITY_ID_BYTES owner = true)
    (hresource : isName MAX_RESOURCE_ID_BYTES m.resource.id = true)
    (haction : action = .resourceCreated ∨ action = .resourceAdopted) :
    Performs service m ledger
      (registerPolicy service actor owner m.resource action ledger now eventId) := by
  rw [registerPolicy]
  split
  · split
    · exact .returns _
    · exact .throws _
  · rename_i hnone
    simp only [createPolicy]
    split
    · exact .throws _
    rename_i hroom
    split
    · exact .throws _
    refine Edited.performs (.created _ _ _ _ _ hnone (Nat.lt_of_not_le hroom)
      (perm_insertionSort _ _) rfl rfl rfl howner hresource
      ⟨hactor, hresource, ?_, ?_, ?_, ?_⟩)
    · rintro _ ⟨⟩
      exact howner
    · rintro _ ⟨⟩
    · rintro _ ⟨⟩
    · rcases haction with rfl | rfl <;> rfl

theorem setGrantEdit_performs {options : SetGrantOptions}
    (hactor : isName MAX_DASHBOARD_IDENTITY_ID_BYTES options.principal.identityId = true)
    (hresource : isName MAX_RESOURCE_ID_BYTES options.resource.id = true)
    (hsubject : isName MAX_DASHBOARD_IDENTITY_ID_BYTES options.subjectIdentityId = true)
    (hadmin : ledger.effectiveRole service options.principal options.resource = some .admin)
    (hpolicy : ledger.policy options.resource = some policy)
    (hfresh : ∀ pending, receipt = some pending → Fresh (.setGrant options) ledger pending) :
    Performs service (.setGrant options) ledger
      (setGrantEdit service options receipt policy ledger now eventId) := by
  simp only [setGrantEdit]
  split
  · exact .throws _
  rename_i howner
  split
  · exact .throws _
  rename_i hcount
  have hperm := sortGrants_perm service
    (policy.grants.filter (·.identityId ≠ options.subjectIdentityId) ++
      [⟨options.subjectIdentityId, options.role⟩])
  refine replacePolicy_performs hpolicy hadmin (fun occurredAt => ⟨rfl, rfl, rfl,
    fun hwell => ⟨?_, ?_⟩, fun hname => hname, fun hname hnames => ?_,
    fun _ _ => Nat.le_of_not_lt hcount⟩) (fun _ => ⟨hactor, hresource, ?_, ?_, ?_, rfl⟩) hfresh
  · intro grant hgrant
    rcases mem_append.mp (hperm.mem_iff.mp hgrant) with hgrant | hgrant
    · exact hwell.ownerless grant (mem_of_mem_filter hgrant)
    · obtain rfl := mem_singleton.mp hgrant
      exact howner
  · refine (hperm.map _).nodup_iff.mpr (distinct_append (distinct_filter _ hwell.distinct) ?_)
    intro grant hgrant
    exact of_decide_eq_true (mem_filter.mp hgrant).2
  · intro grant hgrant
    rcases mem_append.mp (hperm.mem_iff.mp hgrant) with hgrant | hgrant
    · exact hnames grant (mem_of_mem_filter hgrant)
    · obtain rfl := mem_singleton.mp hgrant
      exact hsubject
  · rintro _ ⟨⟩
    exact hsubject
  · rintro _ ⟨⟩
  · rintro _ ⟨⟩

theorem revokeGrantEdit_performs {options : RevokeGrantOptions}
    (hactor : isName MAX_DASHBOARD_IDENTITY_ID_BYTES options.principal.identityId = true)
    (hresource : isName MAX_RESOURCE_ID_BYTES options.resource.id = true)
    (hsubject : isName MAX_DASHBOARD_IDENTITY_ID_BYTES options.subjectIdentityId = true)
    (hadmin : ledger.effectiveRole service options.principal options.resource = some .admin)
    (hpolicy : ledger.policy options.resource = some policy)
    (hfresh : ∀ pending, receipt = some pending → Fresh (.revokeGrant options) ledger pending) :
    Performs service (.revokeGrant options) ledger
      (revokeGrantEdit service options receipt policy ledger now eventId) := by
  simp only [revokeGrantEdit]
  split
  · exact recordReceipt_performs hpolicy hfresh
  rename_i hlength
  refine replacePolicy_performs hpolicy hadmin (fun occurredAt => ⟨?_, rfl, rfl,
    fun hwell => ⟨?_, distinct_filter _ hwell.distinct⟩, fun hname => hname,
    fun _ hnames grant hgrant => hnames grant (mem_of_mem_filter hgrant), fun _ hcount =>
    Nat.le_trans (length_filter_le _ _) hcount⟩)
    (fun _ => ⟨hactor, hresource, ?_, ?_, ?_, rfl⟩) hfresh
  · rw [Mutation.replaces]
    simpa using hlength
  · exact fun grant hgrant => hwell.ownerless grant (mem_of_mem_filter hgrant)
  · rintro _ ⟨⟩
    exact hsubject
  · rintro _ ⟨⟩
  · rintro _ ⟨⟩

/-- The grants after a transfer: those of others, and the one of the previous owner. -/
theorem mem_transferGrants {grant : DashboardResourceGrant} :
    grant ∈ transferGrants service options policy ↔
      (grant ∈ policy.grants ∧ grant.identityId ≠ options.newOwnerIdentityId ∧
        grant.identityId ≠ policy.ownerIdentityId) ∨
      ∃ role, options.previousOwnerRole = some role ∧ grant = ⟨policy.ownerIdentityId, role⟩ := by
  rw [transferGrants, (sortGrants_perm service _).mem_iff, mem_append, mem_filter,
    mem_toList, map_eq_some_iff, Bool.and_eq_true, decide_eq_true_eq,
    decide_eq_true_eq]
  constructor
  · rintro (h | ⟨role, hrole, rfl⟩)
    · exact .inl h
    · exact .inr ⟨role, hrole, rfl⟩
  · rintro (h | ⟨role, hrole, rfl⟩)
    · exact .inl h
    · exact .inr ⟨role, hrole, rfl⟩

theorem transferGrants_distinct (h : (policy.grants.map (·.identityId)).Nodup) :
    ((transferGrants service options policy).map (·.identityId)).Nodup := by
  refine ((sortGrants_perm service _).map _).nodup_iff.mpr ?_
  cases options.previousOwnerRole with
  | none => simpa using distinct_filter _ h
  | some =>
    refine distinct_append (distinct_filter _ h) fun grant hgrant => ?_
    have := (mem_filter.mp hgrant).2
    simp only [Bool.and_eq_true, decide_eq_true_eq] at this
    exact this.2

theorem transferGrants_length (howner : policy.ownerIdentityId ≠ options.newOwnerIdentityId)
    (hroom : (Mutation.transferOwnership options).hasRoom limits policy = true)
    (hcount : policy.grants.length ≤ limits.maxGrantsPerPolicy) :
    (transferGrants service options policy).length ≤ limits.maxGrantsPerPolicy := by
  rw [transferGrants, (sortGrants_perm service _).length_eq, length_append]
  simp only [Mutation.hasRoom, howner, decide_false, Bool.false_or, Bool.or_eq_true,
    isNone_iff_eq_none, decide_eq_true_eq, List.any_eq_true] at hroom
  rcases hroom with (hnone | hlt) | ⟨grant, hgrant, hnew⟩
  · rw [hnone]
    exact Nat.le_trans (length_filter_le _ _) hcount
  · exact Nat.le_trans (Nat.add_le_add (length_filter_le _ _) length_toList_le) hlt
  · have hlt : (policy.grants.filter fun grant => grant.identityId ≠ options.newOwnerIdentityId &&
        grant.identityId ≠ policy.ownerIdentityId).length < policy.grants.length :=
      length_filter_lt_length_iff_exists.mpr ⟨grant, hgrant, by simp [hnew]⟩
    exact Nat.le_trans (Nat.add_le_add_left length_toList_le _) (Nat.le_trans hlt hcount)

theorem transferOwnershipEdit_performs
    (hactor : isName MAX_DASHBOARD_IDENTITY_ID_BYTES options.principal.identityId = true)
    (hresource : isName MAX_RESOURCE_ID_BYTES options.resource.id = true)
    (hnew : isName MAX_DASHBOARD_IDENTITY_ID_BYTES options.newOwnerIdentityId = true)
    (hadmin : ledger.effectiveRole service options.principal options.resource = some .admin)
    (hpolicy : ledger.policy options.resource = some policy)
    (hfresh : ∀ pending, receipt = some pending → Fresh (.transferOwnership options) ledger pending) :
    Performs service (.transferOwnership options) ledger
      (transferOwnershipEdit service options receipt policy ledger now eventId) := by
  simp only [transferOwnershipEdit]
  split
  · exact recordReceipt_performs hpolicy hfresh
  rename_i howner
  refine replacePolicy_performs hpolicy hadmin (fun occurredAt =>
    ⟨by simpa [Mutation.replaces] using howner, rfl, rfl,
      fun hwell => ⟨?_, transferGrants_distinct hwell.distinct⟩, fun _ => hnew,
      fun hname hnames grant hgrant => ?_, transferGrants_length howner⟩)
    (fun hname => ⟨hactor, hresource, ?_, ?_, ?_, rfl⟩) hfresh
  · intro grant hgrant
    rcases mem_transferGrants.mp hgrant with ⟨-, hne, -⟩ | ⟨role, -, rfl⟩
    · exact hne
    · exact howner
  · rcases mem_transferGrants.mp hgrant with ⟨hgrant, -, -⟩ | ⟨role, -, rfl⟩
    · exact hnames grant hgrant
    · exact hname
  · rintro _ ⟨⟩
    exact hnew
  · rintro _ ⟨⟩
    exact hname
  · rintro _ ⟨⟩

theorem recordControllerTransferEdit_performs {options : ControllerTransferOptions}
    (hactor : isName MAX_DASHBOARD_IDENTITY_ID_BYTES options.principal.identityId = true)
    (hresource : isName MAX_RESOURCE_ID_BYTES options.resource.id = true)
    (hprevious : ∀ id, options.previousControllerIdentityId = some id →
      isName MAX_DASHBOARD_IDENTITY_ID_BYTES id = true)
    (hnew : isName MAX_DASHBOARD_IDENTITY_ID_BYTES options.newControllerIdentityId = true)
    (hpolicy : ledger.policy options.resource = some policy)
    (hfresh : ∀ pending, receipt = some pending →
      Fresh (.recordControllerTransfer options) ledger pending) :
    Performs service (.recordControllerTransfer options) ledger
      (recordControllerTransferEdit service options receipt policy ledger now eventId) := by
  simp only [recordControllerTransferEdit]
  split
  · exact .throws _
  have haudits : (Mutation.recordControllerTransfer options).audits ledger = true := by
    simp [Mutation.audits, Mutation.resource, hpolicy, Mutation.isControllerTransfer]
  refine Edited.performs (.transferred _ _ _ eventId receipt hpolicy haudits
    ⟨hactor, hresource, ?_, ?_, hprevious, rfl⟩ hfresh)
  · rintro _ ⟨⟩
    exact hnew
  · rintro _ ⟨⟩

/-- **What a mutation does.** -/
theorem call_performs (hcall : m.call service = .ok op) (ledger : Ledger) (now : Option Timestamp)
    (eventId : EventId) : Performs service m ledger (op ledger now eventId) := by
  cases m with
  | registerCreatedResource principal resource =>
    simp only [Mutation.call, Authorization.registerCreatedResource, then_ok, validatePrincipal,
      validateResourceRef, validateDashboardIdentityId, check_ok, Except.ok.injEq] at hcall
    obtain ⟨hactor, hresource, rfl⟩ := hcall
    exact registerPolicy_performs (m := .registerCreatedResource principal resource) hactor hactor
      hresource (.inl rfl)
  | adoptResource principal resource owner =>
    simp only [Mutation.call, Authorization.adoptResource, then_ok, validatePrincipal,
      validateResourceRef, validateDashboardIdentityId, check_ok, Except.ok.injEq] at hcall
    obtain ⟨hactor, hresource, howner, -, rfl⟩ := hcall
    exact registerPolicy_performs (m := .adoptResource principal resource owner) hactor howner
      hresource (.inr rfl)
  | setGrant options =>
    simp only [Mutation.call, Authorization.setGrant, then_ok, validatePrincipal,
      validateResourceRef, validateDashboardIdentityId, check_ok] at hcall
    obtain ⟨hactor, hresource, hsubject, -, hrest⟩ := hcall
    obtain ⟨receipt, hreceipt, heq⟩ := bind_ok.mp hrest
    cases heq
    exact withPolicy_performs (m := .setGrant options) fun policy hreplay hadmin hpolicy =>
      setGrantEdit_performs hactor hresource hsubject hadmin hpolicy fun _ hsome =>
        fresh_of_pending (m := .setGrant options) rfl rfl hactor hreceipt hreplay hsome
  | revokeGrant options =>
    simp only [Mutation.call, Authorization.revokeGrant, then_ok, validatePrincipal,
      validateResourceRef, validateDashboardIdentityId, check_ok] at hcall
    obtain ⟨hactor, hresource, hsubject, -, hrest⟩ := hcall
    obtain ⟨receipt, hreceipt, heq⟩ := bind_ok.mp hrest
    cases heq
    exact withPolicy_performs (m := .revokeGrant options) fun policy hreplay hadmin hpolicy =>
      revokeGrantEdit_performs hactor hresource hsubject hadmin hpolicy fun _ hsome =>
        fresh_of_pending (m := .revokeGrant options) rfl rfl hactor hreceipt hreplay hsome
  | transferOwnership options =>
    simp only [Mutation.call, Authorization.transferOwnership, then_ok, validatePrincipal,
      validateResourceRef, validateDashboardIdentityId, check_ok] at hcall
    obtain ⟨hactor, hresource, hnew, -, hrest⟩ := hcall
    obtain ⟨receipt, hreceipt, heq⟩ := bind_ok.mp hrest
    cases heq
    exact withPolicy_performs (m := .transferOwnership options) fun policy hreplay hadmin hpolicy =>
      transferOwnershipEdit_performs hactor hresource hnew hadmin hpolicy fun _ hsome =>
        fresh_of_pending (m := .transferOwnership options) rfl rfl hactor hreceipt hreplay hsome
  | recordControllerTransfer options =>
    simp only [Mutation.call, Authorization.recordControllerTransfer, then_ok,
      validatePrincipal, validateResourceRef, forM_ok, check_ok] at hcall
    obtain ⟨hactor, hresource, hprevious, hnew, -, hrest⟩ := hcall
    obtain ⟨receipt, hreceipt, heq⟩ := bind_ok.mp hrest
    cases heq
    simp only [validateDashboardIdentityId, check_ok] at hactor hprevious hnew
    exact withPolicy_performs (m := .recordControllerTransfer options)
      fun policy hreplay hadmin hpolicy =>
        recordControllerTransferEdit_performs hactor hresource hprevious hnew hpolicy
          fun _ hsome => fresh_of_pending (m := .recordControllerTransfer options) rfl rfl hactor
            hreceipt hreplay hsome

/-- What is written: an edit of the ledger, trimmed to the byte limit. -/
def Writes (service : DashboardAuthorizationService) (m : Mutation) (ledger ledger' : Ledger) :
    Prop :=
  ∃ edited result, Edited service m ledger edited result ∧
    fits service.limits ledger'.state = true ∧
    ledger' = { edited with state := trim service.limits edited.state }

theorem call_writes (hcall : m.call service = .ok op)
    (h : op ledger now eventId = (ledger', .writes result)) : Writes service m ledger ledger' := by
  have hperforms := call_performs hcall ledger now eventId
  rw [h] at hperforms
  cases hperforms with
  | kept _ hattempt => exact absurd rfl (hattempt result)
  | edits edited result _ hedited hattempt =>
    rcases hattempt with ⟨-, hfits⟩ | ⟨_, hthrows⟩
    · exact ⟨edited, result, hedited, hfits, rfl⟩
    · cases hthrows

theorem call_returns (hcall : m.call service = .ok op)
    (h : op ledger now eventId = (ledger', .returns result)) : ledger' = ledger := by
  have hperforms := call_performs hcall ledger now eventId
  rw [h] at hperforms
  cases hperforms with
  | kept => rfl
  | edits edited result _ hedited hattempt =>
    rcases hattempt with ⟨hwrites, -⟩ | ⟨_, hthrows⟩
    · cases hwrites
    · cases hthrows

/-! ## What every edit keeps -/

theorem audits_of_none (h : ledger.policy m.resource = none) : m.audits ledger = true := by
  rw [Mutation.audits, h, all_none]

theorem audits_of_replaces (h : ledger.policy m.resource = some policy)
    (hreplaces : m.replaces policy = true) : m.audits ledger = true := by
  rw [Mutation.audits, h, all_some, hreplaces, Bool.true_or]

theorem Edited.indexed (h : Edited service m ledger edited result) (hi : Indexed ledger) :
    Indexed edited := by
  cases h with
  | created _ policies facts occurredAt eventId hnone hroom hpolicies hresource =>
    have hkey : resourceKey m.resource ∉
        ledger.state.policies.map fun policy => resourceKey policy.resource := by
      intro hmem
      obtain ⟨_, hfound, heq⟩ := List.mem_map.mp hmem
      have hget := (hi.finds _ _).mpr ⟨hfound, heq⟩
      rw [Ledger.policy] at hnone
      rw [hnone] at hget
      cases hget
    refine ⟨?_, fun key policy => ?_⟩
    · refine (hpolicies.map _).nodup_iff.mpr ?_
      rw [map_append, nodup_append]
      refine ⟨hi.keys, nodup_singleton _, fun key hmem other hother heq => ?_⟩
      rw [map_singleton, mem_singleton, hresource] at hother
      exact hkey (hother ▸ heq ▸ hmem)
    · rw [get?_set, appendAudit_policies, hpolicies.mem_iff, mem_append,
        mem_singleton]
      split
      · rename_i heq
        constructor
        · rintro ⟨⟩
          exact ⟨.inr rfl, by rw [hresource, heq]⟩
        rintro ⟨hmem | rfl, hpolicy⟩
        · exact absurd (List.mem_map.mpr ⟨policy, hmem, hpolicy.trans heq.symm⟩) hkey
        · rfl
      · rename_i hne
        rw [hi.finds]
        constructor
        · rintro ⟨hmem, hpolicy⟩
          exact ⟨.inl hmem, hpolicy⟩
        rintro ⟨hmem | rfl, hpolicy⟩
        · exact ⟨hmem, hpolicy⟩
        · exact absurd (hresource ▸ hpolicy) hne
  | replaced previous _ index facts occurredAt eventId receipt hprevious hadmin hindex hreplaces =>
    have hmem : ∀ policy, policy ∈ ledger.state.policies.set index result ↔ policy = result ∨
        policy ∈ ledger.state.policies ∧ resourceKey policy.resource ≠
          resourceKey previous.resource := fun policy =>
      mem_set_of_nodup_map (fun policy => resourceKey policy.resource) hi.keys hindex
    refine ⟨?_, fun key policy => ?_⟩
    · rw [appendReceipt_policies, appendAudit_policies, map_set, hreplaces.resource,
        set_of_getElem? (by rw [List.getElem?_map, hindex]; rfl)]
      exact hi.keys
    · rw [get?_set, appendReceipt_policies, appendAudit_policies, hmem,
        hreplaces.resource]
      split
      · rename_i heq
        constructor
        · rintro ⟨⟩
          exact ⟨.inl rfl, by rw [hreplaces.resource, heq]⟩
        rintro ⟨rfl | ⟨-, hne⟩, hkey⟩
        · rfl
        · exact absurd (hkey.trans heq.symm) hne
      · rename_i hne
        rw [hi.finds]
        constructor
        · rintro ⟨hpolicy, rfl⟩
          exact ⟨.inr ⟨hpolicy, Ne.symm hne⟩, rfl⟩
        rintro ⟨rfl | ⟨hpolicy, -⟩, hkey⟩
        · exact absurd ((congrArg resourceKey hreplaces.resource).symm.trans hkey) hne
        · exact ⟨hpolicy, hkey⟩
  | recorded | transferred =>
    exact ⟨by simpa using hi.keys, fun key policy => by simpa using hi.finds key policy⟩

theorem Edited.wellOwned (h : Edited service m ledger edited result) (hi : Indexed ledger)
    (hw : ∀ policy ∈ ledger.state.policies, WellOwned policy) :
    ∀ policy ∈ edited.state.policies, WellOwned policy := by
  cases h with
  | created _ policies facts occurredAt eventId hnone hroom hpolicies hresource hgrants =>
    intro policy hmem
    rcases mem_append.mp (hpolicies.mem_iff.mp hmem) with hmem | hmem
    · exact hw policy hmem
    obtain rfl := mem_singleton.mp hmem
    refine ⟨?_, ?_⟩
    · simp [hgrants]
    · simp [hgrants]
  | replaced previous _ index facts occurredAt eventId receipt hprevious hadmin hindex hreplaces =>
    intro policy hmem
    rw [appendReceipt_policies] at hmem
    rcases mem_or_eq_of_mem_set hmem with hmem | rfl
    · exact hw policy hmem
    · exact hreplaces.wellOwned (hw previous ((hi.finds _ _).mp hprevious).1)
  | recorded =>
    intro policy hmem
    exact hw policy hmem
  | transferred =>
    intro policy hmem
    rw [appendReceipt_policies] at hmem
    exact hw policy hmem

theorem colon_not_mem_text (kind : DashboardResourceKind) : (0x3a : UInt16) ∉ kind.text := by
  cases kind <;> decide

theorem resourceKey_injective {a b : DashboardResourceRef} (h : resourceKey a = resourceKey b) :
    a = b := by
  obtain ⟨kind, _⟩ := a
  obtain ⟨kind', _⟩ := b
  obtain ⟨htext, rfl⟩ := append_separator_inj (colon_not_mem_text kind) (colon_not_mem_text kind') h
  have hkind : kind = kind' := by
    cases kind <;> cases kind' <;> first | rfl | exact absurd htext (by decide)
  rw [hkind]

/-- **Authority.** An edit leaves a policy as it is, or is made by an administrator of it. -/
theorem Edited.policy_cases (h : Edited service m ledger edited result) (hi : Indexed ledger)
    {resource : DashboardResourceRef} (hpolicy : ledger.policy resource = some policy) :
    edited.policy resource = some policy ∨
      (m.resource = resource ∧
        ledger.effectiveRole service m.principal resource = some .admin) := by
  cases h with
  | created _ policies facts occurredAt eventId hnone =>
    left
    rw [Ledger.policy, get?_set_ne]
    · exact hpolicy
    intro heq
    rw [resourceKey_injective heq, hpolicy] at hnone
    cases hnone
  | replaced previous _ index facts occurredAt eventId receipt hprevious hadmin hindex hreplaces =>
    have hkey : resourceKey result.resource = resourceKey m.resource := by
      rw [hreplaces.resource]
      exact ((hi.finds _ _).mp hprevious).2
    by_cases heq : m.resource = resource
    · exact .inr ⟨heq, heq ▸ hadmin⟩
    left
    rw [Ledger.policy, get?_set_ne]
    · exact hpolicy
    · intro hsame
      exact heq (resourceKey_injective (hkey.symm.trans hsame))
  | recorded | transferred => exact .inl hpolicy

end PiDaemon.Authorization
