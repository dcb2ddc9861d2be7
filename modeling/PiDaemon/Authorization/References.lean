import PiDaemon.Authorization.Listing
import PiDaemon.Durability.Names

/-!
# References of sessions

A session is authorized under a reference made of its managed id, else of its Pi session id, else of
an inventory id.  The protocol and the scanner of session files take every text of at most 256 units
for the first two; a reference has at most 256 units of a smaller alphabet, its prefix included.

* `isName_prefixed`: which ids make a reference;
* `sessions_authorizable`: which records do not fail the page that they are on.
-/

namespace PiDaemon.Authorization

open Lib List

/-- What the header of a session file may have for an id. -/
def headerId (id : JsString) : Bool := 1 ≤ id.length && id.length ≤ 256

def inventoryIdFor (sha256 : JsString → Durability.Bytes 32) (kind source : JsString) : JsString :=
  text "inventory-" ++
    (base64Url (sha256 (text "1" ++ 0 :: (kind ++ 0 :: source))).1).take 32

/-- The record of a session that the daemon can hold. -/
structure Held (sha256 : JsString → Durability.Bytes 32) (session : SessionInventoryRecord) : Prop where
  managed : ∀ id, session.managedSessionId = some id → Durability.sessionIdField id = .ok id
  pi : ∀ id, session.piSessionId = some id → headerId id = true
  inventory : ∀ id ∈ inventoryIds session, ∃ kind source, id = inventoryIdFor sha256 kind source

section
variable (service : DashboardAuthorizationService)

/-- The references that `#effectiveAny` asks the authorization for. -/
def checkRefs (session : SessionInventoryRecord) : Except Failure Unit :=
  (deduplicateRefs (sessionRefs service session)).forM validateResourceRef

/-- `registerCreated` of `primarySessionRef`. -/
def checkPrimary (session : SessionInventoryRecord) : Except Failure Unit :=
  ((sessionRefs service session).take 1).forM validateResourceRef

/-- The references of a page: the first one that is refused fails the call. -/
def checkPage (sessions : List SessionInventoryRecord) : Except Failure Unit :=
  sessions.forM (checkRefs service)

end

def isReferenceUnit (u : UInt16) : Bool :=
  isAlphanumeric u || u = 0x2e || u = 0x5f || u = 0x3a || u = 0x2d

/-- The id is a reference behind a prefix of so many units. -/
def Refers (before : Nat) (id : JsString) : Prop :=
  before + id.length ≤ MAX_RESOURCE_ID_BYTES ∧ ∀ u ∈ id, isReferenceUnit u = true

/-- The ids that the reference of a record is made of fit it. -/
def Referable (session : SessionInventoryRecord) : Prop :=
  (∀ id, session.managedSessionId = some id → Refers 8 id) ∧
    (session.managedSessionId = none → ∀ id, session.piSessionId = some id → Refers 3 id)

theorem isReferenceUnit_ascii {u : UInt16} (h : isReferenceUnit u = true) : u.toNat < 0x80 := by
  simp only [isReferenceUnit, isAlphanumeric, Bool.or_eq_true, Bool.and_eq_true,
    decide_eq_true_eq] at h
  rcases h with (((((h | h) | h) | rfl) | rfl) | rfl) | rfl
  · omega
  · omega
  · omega
  · decide
  · decide
  · decide
  · decide

theorem isName_prefixed {kind id : JsString} (hkind : kind ≠ [])
    (hunits : ∀ u ∈ kind, isAlphanumeric u = true) :
    isName MAX_RESOURCE_ID_BYTES (prefixedResourceId kind id) = true ↔ Refers (kind.length + 1) id := by
  have hall : (∀ u ∈ prefixedResourceId kind id, isReferenceUnit u = true) ↔
      ∀ u ∈ id, isReferenceUnit u = true := by
    simp only [prefixedResourceId, forall_mem_append]
    have hcolon : ∀ u ∈ text ":", isReferenceUnit u = true := by decide
    have hstart : ∀ u ∈ kind, isReferenceUnit u = true := fun u hu => by
      simp [isReferenceUnit, hunits u hu]
    exact ⟨fun h => h.2, fun h => ⟨⟨hstart, hcolon⟩, h⟩⟩
  have hhead : (prefixedResourceId kind id).head?.any isAlphanumeric = true := by
    cases kind with
    | nil => exact absurd rfl hkind
    | cons u kind => exact hunits u mem_cons_self
  have hlength : (prefixedResourceId kind id).length = kind.length + 1 + id.length := by
    rw [prefixedResourceId, length_append, length_append]
    rfl
  have hname : isName MAX_RESOURCE_ID_BYTES (prefixedResourceId kind id) = true ↔
      (byteLength (prefixedResourceId kind id) ≤ MAX_RESOURCE_ID_BYTES ∧
        (prefixedResourceId kind id).length ≤ MAX_RESOURCE_ID_BYTES) ∧
        ∀ u ∈ prefixedResourceId kind id, isReferenceUnit u = true := by
    simp only [isName, Bool.and_eq_true, decide_eq_true_eq, hhead, and_true, all_eq_true]
    rfl
  rw [hname, hall, hlength]
  refine and_congr_left fun hid => ⟨fun h => h.2, fun h => ⟨?_, h⟩⟩
  have hascii : Ascii (prefixedResourceId kind id) := fun u hu =>
    isReferenceUnit_ascii (hall.mpr hid u hu)
  rw [hascii.byteLength, hlength]
  exact h

variable {service : DashboardAuthorizationService} {session : SessionInventoryRecord}
  {sha256 : JsString → Durability.Bytes 32}

theorem refers_inventoryIdFor (kind source : JsString) :
    Refers 10 (inventoryIdFor sha256 kind source) := by
  constructor
  · rw [inventoryIdFor, length_append, length_take]
    have hstart : (text "inventory-").length = 10 := by decide
    exact Nat.le_trans (Nat.add_le_add_left (Nat.add_le_add_left (Nat.min_le_left _ _) _) _) (by decide)
  · rw [inventoryIdFor, forall_mem_append]
    refine ⟨by decide, fun u hu => ?_⟩
    have hdigit := isBase64Url_base64Url _ u (mem_of_mem_take hu)
    simp only [isBase64UrlUnit, Bool.or_eq_true] at hdigit
    simp only [isReferenceUnit, isAlphanumeric, Bool.or_eq_true]
    rcases hdigit with (h | h) | h
    · exact .inl (.inl (.inl (.inl h)))
    · exact .inl (.inl (.inr h))
    · exact .inr h

theorem validateResourceRef_prefixed {kind id : JsString} (hkind : kind ≠ [])
    (hunits : ∀ u ∈ kind, isAlphanumeric u = true) :
    validateResourceRef { kind := .session, id := prefixedResourceId kind id } = .ok () ↔
      Refers (kind.length + 1) id := by
  rw [validateResourceRef, check_ok, isName_prefixed hkind hunits]

variable (service) in
/-- A record has one reference, which is accepted when the ids that it is made of fit it. -/
theorem sessionRefs_single (hheld : Held sha256 session) :
    ∃ ref, sessionRefs service session = [ref] ∧
      (validateResourceRef ref = .ok () ↔ Referable session) := by
  rw [sessionRefs]
  cases hmanaged : session.managedSessionId with
  | some id =>
    refine ⟨_, rfl, (validateResourceRef_prefixed (by decide) (by decide)).trans ?_⟩
    simp only [Referable, hmanaged, Option.some.injEq, forall_eq', reduceCtorEq, false_imp_iff,
      and_true]
    rfl
  | none =>
    cases hpi : session.piSessionId with
    | some id =>
      refine ⟨_, rfl, (validateResourceRef_prefixed (by decide) (by decide)).trans ?_⟩
      simp only [Referable, hmanaged, hpi, Option.some.injEq, forall_eq', reduceCtorEq,
        false_imp_iff, implies_true, true_and, forall_const]
      rfl
    | none =>
      refine ⟨_, rfl, ?_⟩
      have hreferable : Referable session := by
        simp only [Referable, hmanaged, hpi, reduceCtorEq, false_imp_iff, implies_true, and_self]
      refine iff_of_true ((validateResourceRef_prefixed (by decide) (by decide)).mpr ?_) hreferable
      have hmem : ((inventoryIds session).insertionSort fun left right =>
          service.localeLe left right = true).headD [] ∈ inventoryIds session := by
        refine (perm_insertionSort (fun left right => service.localeLe left right = true)
          (inventoryIds session)).mem_iff.mp ?_
        have hne : (inventoryIds session).insertionSort (fun left right =>
            service.localeLe left right = true) ≠ [] := by
          intro h
          have hlength := congrArg List.length h
          rw [length_insertionSort] at hlength
          exact absurd hlength (Nat.succ_ne_zero _)
        obtain ⟨id, _, hids⟩ := exists_cons_of_ne_nil hne
        rw [hids]
        exact mem_cons_self
      obtain ⟨kind, source, hid⟩ := hheld.inventory _ hmem
      rw [hid]
      exact refers_inventoryIdFor kind source

theorem checkRefs_ok (hheld : Held sha256 session) :
    (checkRefs service session = .ok () ↔ Referable session) ∧
      (checkPrimary service session = .ok () ↔ Referable session) := by
  obtain ⟨_, hrefs, hvalid⟩ := sessionRefs_single service hheld
  rw [checkRefs, checkPrimary, hrefs, list_forM_ok, list_forM_ok]
  exact ⟨(forall_mem_singleton).trans hvalid, (forall_mem_singleton).trans hvalid⟩

/-- **Which sessions are authorized.**  A call that checks a page, or one record, or registers it
does not fail when the ids of the records fit their references, and only then. -/
theorem sessions_authorizable (service : DashboardAuthorizationService)
    {sessions : List SessionInventoryRecord} (hheld : ∀ session ∈ sessions, Held sha256 session) :
    (checkPage service sessions = .ok () ↔ ∀ session ∈ sessions, Referable session) ∧
      (∀ session ∈ sessions, (checkRefs service session = .ok () ↔ Referable session) ∧
        (checkPrimary service session = .ok () ↔ Referable session)) ∧
      ∀ a b, managedSessionRef a = managedSessionRef b → a = b := by
  refine ⟨?_, fun session hsession => checkRefs_ok (hheld session hsession), fun a b h => ?_⟩
  · rw [checkPage, list_forM_ok]
    exact forall₂_congr fun session hsession => (checkRefs_ok (hheld session hsession)).1
  · exact append_cancel_left (congrArg DashboardResourceRef.id h)

/-! ### A session with a blank in its id -/

/-- A digest of zeros. -/
def plainSha256 (_ : JsString) : Durability.Bytes 32 := ⟨List.replicate 32 0, by decide⟩

def sessionFile (id : String) : SessionInventoryRecord :=
  ⟨inventoryIdFor plainSha256 (text "file") (text id), some (text id), none, none⟩

theorem referable_sessionFile {id : String} (h : Refers 3 (text id)) : Referable (sessionFile id) :=
  And.intro (fun _ hid => nomatch hid) fun _ _ hid => Option.some.inj hid ▸ h

theorem held_sessionFile {id : String} (h : headerId (text id) = true) :
    Held plainSha256 (sessionFile id) where
  managed := fun _ h => nomatch h
  pi := fun _ hid => Option.some.inj hid ▸ h
  inventory := fun _ hid => ⟨_, _, mem_singleton.mp hid⟩

theorem sessions_authorizable_plain : checkPage plainService [sessionFile "a-1"] = .ok () :=
  ((sessions_authorizable plainService fun session h =>
    mem_singleton.mp h ▸ held_sessionFile (by decide)).1).mpr (by
      intro session h
      rw [mem_singleton.mp h]
      exact referable_sessionFile ⟨by decide, by decide⟩)

/-- The blank of one header fails the page. -/
theorem blank_fails_page :
    headerId (text "my session") = true ∧ (∀ session ∈ [sessionFile "a-1", sessionFile "my session"],
      Held plainSha256 session) ∧
      checkPage plainService [sessionFile "a-1", sessionFile "my session"] =
        .error (invalidRequest "resource reference is invalid") := by
  refine ⟨by decide, fun session h => ?_, by decide +kernel⟩
  rcases mem_pair.mp h with rfl | rfl
  · exact held_sessionFile (by decide)
  · exact held_sessionFile (by decide)

end PiDaemon.Authorization
