import PiDaemon.Authorization.Resource
import PiDaemon.Browser.Cookies
import PiDaemon.Lib.Calendar
import PiDaemon.Lib.OrderedMap

/-!
# Browser sessions

`DashboardBrowserAuth`: the table of the sessions that logins have opened, and the operations on
it.  A request to log in is given by its JSON.  The identity provider is asked within one call, so
that its answers are a function there; the time of a call is in milliseconds.

* `activeRecord_eq`, `get?_prune`, `get?_revokeWhere`: what checks and revocations delete.
-/

namespace PiDaemon.Browser

open Lib Authorization OrderedMap List Option

structure DashboardAuthError where
  code : String
  message : String
  status : Nat := 401
  deriving DecidableEq

inductive DashboardGlobalRole where
  | administrator
  | member
  deriving DecidableEq

structure DashboardPrincipal where
  identityId : JsString
  globalRole : DashboardGlobalRole
  displayName : Option JsString
  deriving DecidableEq

structure DashboardIdentityProvider where
  authenticate : JsString → Option DashboardPrincipal
  principal : JsString → Option DashboardPrincipal

structure BrowserSessionRecord where
  sessionKey : JsString
  principal : DashboardPrincipal
  clientId : JsString
  workspaceId : JsString
  csrfDigest : Bytes 32
  expiresAtMs : Int
  deriving DecidableEq

structure DashboardAuthenticatedSession where
  sessionKey : JsString
  principal : DashboardPrincipal
  clientId : JsString
  workspaceId : JsString
  expiresAt : JsString
  deriving DecidableEq

structure DashboardBrowserSessionResource where
  clientId : JsString
  workspaceId : JsString
  expiresAt : JsString
  csrfToken : JsString
  deriving DecidableEq

structure DashboardLoginResult where
  session : DashboardBrowserSessionResource
  setCookie : JsString
  deriving DecidableEq

abbrev Sessions := OrderedMap JsString BrowserSessionRecord

/-! ## Requests -/

structure DashboardLoginRequest where
  clientId : JsString
  workspaceId : Option JsString
  credential : JsString
  deriving DecidableEq

def loginFailed : DashboardAuthError :=
  { code := "login_failed", message := "dashboard login failed" }

/-- `validateOpaqueId` of a string. -/
def validateOpaqueId (value : JsString) (name : String) : Except DashboardAuthError Unit :=
  check (isName 128 value)
    { code := "invalid_request", message := name ++ " is invalid", status := 400 }

theorem validateOpaqueId_ok {value : JsString} {name : String} :
    validateOpaqueId value name = .ok () ↔ isName 128 value = true := check_ok

/-- `validateOpaqueId` of a member of the request. -/
def opaqueMember (request : JsValue Rat) (name : String) : Except DashboardAuthError JsString :=
  match request.member name with
  | .string value => (validateOpaqueId value name).map fun _ => value
  | _ => .error { code := "invalid_request", message := name ++ " is invalid", status := 400 }

/-- `Object.keys(value)` -/
def keysOf : JsMembers Rat → List JsString
  | .nil => []
  | .cons key _ rest => key :: keysOf rest

def loginKeys : List JsString :=
  [text "requestId", text "clientId", text "workspaceId", text "credential"]

/-- The shape that `validateLoginRequest` asks for first. -/
def isLoginShape : JsValue Rat → Bool
  | .object members =>
    (keysOf members).all (loginKeys.contains ·) && (keysOf members).contains (text "requestId") &&
      (keysOf members).contains (text "clientId")
  | _ => false

def validateLoginRequest (request : JsValue Rat) :
    Except DashboardAuthError DashboardLoginRequest :=
  match request.member "credential" with
  | .string credential => do
    check (isLoginShape request) loginFailed
    let _ ← opaqueMember request "requestId"
    let clientId ← opaqueMember request "clientId"
    let workspaceId ← match request.member "workspaceId" with
      | .undefined => .ok none
      | _ => (opaqueMember request "workspaceId").map some
    return { clientId, workspaceId, credential }
  | _ => .error loginFailed

/-! ## Sessions -/

def MAX_BROWSER_SESSIONS : Nat := 256

def MAX_DASH_BROWSER_SESSION_TTL_MS : Nat := 7 * 24 * 60 * 60 * 1000

/-- An instance as its constructor leaves it. -/
structure DashboardBrowserAuth extends CookieSigning where
  sessionTtlMs : Nat
  ttlPositive : 0 < sessionTtlMs
  ttlBounded : sessionTtlMs ≤ MAX_DASH_BROWSER_SESSION_TTL_MS
  maxSessions : Nat := MAX_BROWSER_SESSIONS
  maxPositive : 0 < maxSessions
  workspaceIdForPrincipal : Option (DashboardPrincipal → JsString)

def samePrincipal (left right : DashboardPrincipal) : Bool :=
  left.identityId = right.identityId && left.globalRole = right.globalRole &&
    left.displayName = right.displayName

def invalidSession : DashboardAuthError :=
  { code := "unauthorized", message := "dashboard browser session is invalid" }

def BrowserSessionRecord.authenticated (record : BrowserSessionRecord) :
    DashboardAuthenticatedSession where
  sessionKey := record.sessionKey
  principal := record.principal
  clientId := record.clientId
  workspaceId := record.workspaceId
  expiresAt := isoText record.expiresAtMs false

namespace DashboardBrowserAuth

variable (auth : DashboardBrowserAuth) (provider : DashboardIdentityProvider) (now : Int)

/-- `#activeRecord`, and the sessions after it. -/
def activeRecord (sessionKey : JsString) (sessions : Sessions) :
    Option BrowserSessionRecord × Sessions :=
  match sessions.get? sessionKey with
  | none => (none, sessions)
  | some record =>
    if record.expiresAtMs ≤ now then (none, sessions.delete sessionKey)
    else
      match provider.principal record.principal.identityId with
      | none => (none, sessions.delete sessionKey)
      | some current =>
        if samePrincipal current record.principal then (some record, sessions)
        else (none, sessions.delete sessionKey)

def prune (sessions : Sessions) : Sessions :=
  sessions.keys.foldl (fun sessions key => (activeRecord provider now key sessions).2) sessions

/-- The workspace of a new session. -/
def loginWorkspace (principal : DashboardPrincipal) (request : DashboardLoginRequest)
    (workspaceRandom : Bytes 18) : JsString :=
  match auth.workspaceIdForPrincipal with
  | some workspaceIdForPrincipal => workspaceIdForPrincipal principal
  | none => request.workspaceId.getD (text "workspace-" ++ token workspaceRandom)

/-- `login`; the random bytes are those of the session key and of a new workspace. -/
def login (request : JsValue Rat) (random : Bytes 32) (workspaceRandom : Bytes 18)
    (sessions : Sessions) :
    Except DashboardAuthError DashboardLoginResult × Sessions :=
  match validateLoginRequest request with
  | .error error => (.error error, sessions)
  | .ok request =>
    match provider.authenticate request.credential with
    | none => (.error loginFailed, sessions)
    | some principal =>
      let pruned := prune provider now sessions
      if auth.maxSessions ≤ pruned.size then
        (.error
          { code := "browser_session_capacity"
            message := "dashboard browser session capacity is exhausted"
            status := 503 }, pruned)
      else
        let sessionKey := token random
        let csrfToken := auth.csrfToken sessionKey
        let workspaceId := auth.loginWorkspace principal request workspaceRandom
        match validateOpaqueId workspaceId "workspaceId" with
        | .error error => (.error error, pruned)
        | .ok () =>
          let expiresAtMs := now + auth.sessionTtlMs
          (.ok
            { session :=
                { clientId := request.clientId
                  workspaceId
                  expiresAt := isoText expiresAtMs false
                  csrfToken }
              setCookie := auth.serializeCookie (auth.signedCookie sessionKey) auth.sessionTtlMs },
            pruned.set sessionKey
              { sessionKey, principal
                clientId := request.clientId
                workspaceId
                csrfDigest := auth.digest csrfToken
                expiresAtMs })

def revalidate (sessionKey : JsString) (sessions : Sessions) :
    Except DashboardAuthError DashboardAuthenticatedSession × Sessions :=
  match activeRecord provider now sessionKey sessions with
  | (none, sessions) => (.error invalidSession, sessions)
  | (some record, sessions) => (.ok record.authenticated, sessions)

def authenticate (cookieHeader : HeaderValue) (sessions : Sessions) :
    Except DashboardAuthError DashboardAuthenticatedSession × Sessions :=
  match parseCookie cookieHeader auth.cookieName with
  | none =>
    (.error { code := "unauthorized", message := "dashboard browser session is required" }, sessions)
  | some cookieValue =>
    match auth.verifyCookie cookieValue with
    | none => (.error invalidSession, sessions)
    | some sessionKey =>
      match activeRecord provider now sessionKey sessions with
      | (none, sessions) => (.error invalidSession, sessions)
      | (some record, sessions) => (.ok record.authenticated, sessions)

def switchWorkspace (sessionKey workspaceId : JsString) (sessions : Sessions) :
    Except DashboardAuthError DashboardAuthenticatedSession × Sessions :=
  match validateOpaqueId workspaceId "workspaceId" with
  | .error error => (.error error, sessions)
  | .ok () =>
    match activeRecord provider now sessionKey sessions with
    | (none, sessions) => (.error invalidSession, sessions)
    | (some record, sessions) =>
      let record := { record with workspaceId }
      (.ok record.authenticated, sessions.set sessionKey record)

def browserSession (sessionKey : JsString) (sessions : Sessions) :
    Except DashboardAuthError DashboardBrowserSessionResource × Sessions :=
  match revalidate provider now sessionKey sessions with
  | (.error error, sessions) => (.error error, sessions)
  | (.ok session, sessions) =>
    (.ok
      { clientId := session.clientId
        workspaceId := session.workspaceId
        expiresAt := session.expiresAt
        csrfToken := auth.csrfToken session.sessionKey }, sessions)

def csrfFailed : DashboardAuthError :=
  { code := "csrf_failed", message := "dashboard CSRF validation failed", status := 403 }

def authorizeCsrf (sessionKey : JsString) (value : HeaderValue) (sessions : Sessions) :
    Except DashboardAuthError Unit :=
  match value with
  | .one value =>
    if 256 < byteLength value then .error csrfFailed
    else
      match sessions.get? sessionKey with
      | none => .error csrfFailed
      | some record => check (record.csrfDigest = auth.digest value) csrfFailed
  | _ => .error csrfFailed

def revoke (sessionKey : JsString) (sessions : Sessions) : JsString × Sessions :=
  (auth.serializeCookie [] 0, sessions.delete sessionKey)

/-- The loop of `revokeIdentity` and `revokeIdentityWorkspace`: the keys revoked, and the sessions
left. -/
def revokeWhere (matching : BrowserSessionRecord → Bool) (sessions : Sessions) :
    List JsString × Sessions :=
  sessions.entries.foldl
    (fun revoked entry =>
      if matching entry.2 then (revoked.1 ++ [entry.1], revoked.2.delete entry.1) else revoked)
    ([], sessions)

def revokeIdentity (identityId : JsString) (sessions : Sessions) : Nat × Sessions :=
  let revoked := revokeWhere (fun session => session.principal.identityId = identityId) sessions
  (revoked.1.length, revoked.2)

def revokeIdentityWorkspace (identityId workspaceId : JsString) (sessions : Sessions) :
    List JsString × Sessions :=
  revokeWhere
    (fun session => session.principal.identityId = identityId && session.workspaceId = workspaceId)
    sessions

def activeSessions (sessions : Sessions) : Nat × Sessions :=
  let pruned := prune provider now sessions
  (pruned.size, pruned)

/-! ## Reading the table -/

section
variable {provider now}

/-- What `#activeRecord` deletes. -/
def stale (provider : DashboardIdentityProvider) (now : Int) (record : BrowserSessionRecord) : Bool :=
  record.expiresAtMs ≤ now || provider.principal record.principal.identityId ≠ some record.principal

theorem samePrincipal_iff {left right : DashboardPrincipal} :
    samePrincipal left right = true ↔ left = right := by
  cases left
  cases right
  simp [samePrincipal, and_assoc]

/-- `#activeRecord` reads the record that is not stale, and deletes one that is. -/
theorem activeRecord_eq (sessionKey : JsString) (sessions : Sessions) :
    activeRecord provider now sessionKey sessions =
      ((sessions.get? sessionKey).filter (!stale provider now ·),
        if (sessions.get? sessionKey).any (stale provider now) then sessions.delete sessionKey
        else sessions) := by
  unfold activeRecord
  cases hget : sessions.get? sessionKey with
  | none => rfl
  | some record =>
    by_cases hexpired : record.expiresAtMs ≤ now
    · simp [filter_some, stale, hexpired]
    cases hcurrent : provider.principal record.principal.identityId with
    | none => simp [filter_some, stale, hexpired, hcurrent]
    | some current =>
      by_cases hsame : current = record.principal
      · simp [filter_some, stale, hexpired, hcurrent, hsame, samePrincipal_iff.mpr rfl]
      have hno : samePrincipal current record.principal = false :=
        Bool.eq_false_iff.mpr fun h => hsame (samePrincipal_iff.mp h)
      simp [filter_some, stale, hexpired, hcurrent, hsame, hno]

theorem activeRecord_some {sessionKey : JsString} {sessions left : Sessions}
    {record : BrowserSessionRecord}
    (h : activeRecord provider now sessionKey sessions = (some record, left)) :
    left = sessions ∧ sessions.get? sessionKey = some record ∧ stale provider now record = false := by
  rw [activeRecord_eq, Prod.mk.injEq, filter_eq_some_iff, Bool.not_eq_true'] at h
  obtain ⟨⟨hget, hfresh⟩, hleft⟩ := h
  rw [hget, any_some, hfresh] at hleft
  exact ⟨hleft.symm, hget, hfresh⟩

theorem get?_activeRecord (sessionKey k : JsString) (sessions : Sessions) :
    (activeRecord provider now sessionKey sessions).2.get? k =
      (sessions.get? k).filter fun record => !(sessionKey = k && stale provider now record) := by
  rw [activeRecord_eq]
  by_cases hk : sessionKey = k
  · subst hk
    cases hget : sessions.get? sessionKey with
    | none => simp [hget]
    | some record =>
      cases hstale : stale provider now record with
      | true => simp [filter_some, hstale]
      | false => simp [filter_some, hget, hstale]
  · have hread : (if (sessions.get? sessionKey).any (stale provider now) then
        sessions.delete sessionKey else sessions).get? k = sessions.get? k := by
      split
      · exact OrderedMap.get?_delete_ne sessions hk
      · rfl
    rw [hread]
    cases sessions.get? k with
    | none => rfl
    | some record => simp [filter_some, hk]

theorem size_activeRecord_le (sessionKey : JsString) (sessions : Sessions) :
    (activeRecord provider now sessionKey sessions).2.size ≤ sessions.size := by
  rw [activeRecord_eq]
  split
  · exact size_delete_le sessions sessionKey
  · exact Nat.le_refl _

theorem get?_foldl_activeRecord (ks : List JsString) (k : JsString) (sessions : Sessions) :
    (ks.foldl (fun sessions key => (activeRecord provider now key sessions).2) sessions).get? k =
      (sessions.get? k).filter fun record => !(ks.contains k && stale provider now record) := by
  induction ks generalizing sessions with
  | nil =>
    rw [foldl_nil]
    cases sessions.get? k <;> rfl
  | cons key ks ih =>
    rw [foldl_cons, ih, get?_activeRecord, Option.filter_filter]
    refine congrArg (fun p => (sessions.get? k).filter p) (funext fun record => ?_)
    have hkey : decide (key = k) = (k == key) := by
      rw [Bool.eq_iff_iff, decide_eq_true_eq, beq_iff_eq]
      exact eq_comm
    rw [contains_cons, hkey]
    cases k == key <;> cases ks.contains k <;> cases stale provider now record <;> rfl

theorem get?_prune (k : JsString) (sessions : Sessions) :
    (prune provider now sessions).get? k = (sessions.get? k).filter (!stale provider now ·) := by
  rw [prune, get?_foldl_activeRecord]
  cases hget : sessions.get? k with
  | none => rfl
  | some record =>
    have hmem : k ∈ sessions.keys :=
      List.mem_map.mpr ⟨(k, record), mem_entries.mpr hget, rfl⟩
    simp [hmem]

theorem size_prune_le (sessions : Sessions) : (prune provider now sessions).size ≤ sessions.size :=
  size_foldl_le (fun sessions key => size_activeRecord_le key sessions) sessions.keys sessions

variable (matching : BrowserSessionRecord → Bool)

theorem foldl_revoke_snd (es : List (JsString × BrowserSessionRecord)) (keys : List JsString)
    (sessions : Sessions) :
    (es.foldl
        (fun revoked entry =>
          if matching entry.2 then (revoked.1 ++ [entry.1], revoked.2.delete entry.1) else revoked)
        (keys, sessions)).2 =
      es.foldl (fun sessions entry => if matching entry.2 then sessions.delete entry.1 else sessions)
        sessions := by
  induction es generalizing keys sessions with
  | nil => rfl
  | cons entry es ih =>
    rw [foldl_cons, foldl_cons]
    split
    · exact ih _ _
    · exact ih _ _

theorem get?_revokeWhere (k : JsString) (sessions : Sessions) :
    (revokeWhere matching sessions).2.get? k = (sessions.get? k).filter (!matching ·) := by
  rw [revokeWhere, foldl_revoke_snd]
  exact OrderedMap.get?_delete_expired matching sessions k

theorem size_revokeWhere_le (sessions : Sessions) :
    (revokeWhere matching sessions).2.size ≤ sessions.size := by
  rw [revokeWhere, foldl_revoke_snd]
  refine size_foldl_le (fun sessions entry => ?_) sessions.entries sessions
  split
  · exact size_delete_le sessions entry.1
  · exact Nat.le_refl _

end

end DashboardBrowserAuth

end PiDaemon.Browser
