import PiDaemon.Browser.Auth
import PiDaemon.Lib.Runs

/-!
# What logins have issued

The requests that an instance answers, and a list of all that its logins have issued, kept from the
requests and the responses alone: no expired, revoked or changed session is ever removed from it.

* `perform_performs`: a response, and what it leaves in the table.
-/

namespace PiDaemon.Browser

open Lib Authorization CookieSigning

/-! ## Requests and responses -/

/-- A session is given by its key, the only part of it that is read. -/
inductive Request where
  | login (request : JsValue Rat) (random : Bytes 32) (workspaceRandom : Bytes 18)
  | authenticate (cookieHeader : HeaderValue)
  | revalidate (sessionKey : JsString)
  | switchWorkspace (sessionKey workspaceId : JsString)
  | browserSession (sessionKey : JsString)
  | authorizeCsrf (sessionKey : JsString) (value : HeaderValue)
  | revoke (sessionKey : JsString)
  | revokeAll
  | revokeIdentity (identityId : JsString)
  | revokeIdentityWorkspace (identityId workspaceId : JsString)
  | activeSessions

inductive Response where
  | login (result : Except DashboardAuthError DashboardLoginResult)
  | session (result : Except DashboardAuthError DashboardAuthenticatedSession)
  | resource (result : Except DashboardAuthError DashboardBrowserSessionResource)
  | csrf (result : Except DashboardAuthError Unit)
  | cookie (setCookie : JsString)
  | done
  | count (revoked : Nat)
  | keys (revoked : List JsString)

/-- A request, with the time and the identities at it. -/
structure Event where
  now : Int
  provider : DashboardIdentityProvider
  request : Request

namespace DashboardBrowserAuth

variable (auth : DashboardBrowserAuth)

def perform (e : Event) (sessions : Sessions) : Response × Sessions :=
  match e.request with
  | .login request random workspaceRandom =>
    let (result, sessions) := auth.login e.provider e.now request random workspaceRandom sessions
    (.login result, sessions)
  | .authenticate cookieHeader =>
    let (result, sessions) := auth.authenticate e.provider e.now cookieHeader sessions
    (.session result, sessions)
  | .revalidate sessionKey =>
    let (result, sessions) := revalidate e.provider e.now sessionKey sessions
    (.session result, sessions)
  | .switchWorkspace sessionKey workspaceId =>
    let (result, sessions) := switchWorkspace e.provider e.now sessionKey workspaceId sessions
    (.session result, sessions)
  | .browserSession sessionKey =>
    let (result, sessions) := auth.browserSession e.provider e.now sessionKey sessions
    (.resource result, sessions)
  | .authorizeCsrf sessionKey value =>
    (.csrf (auth.authorizeCsrf sessionKey value sessions), sessions)
  | .revoke sessionKey =>
    let (setCookie, sessions) := auth.revoke sessionKey sessions
    (.cookie setCookie, sessions)
  | .revokeAll => (.done, .empty)
  | .revokeIdentity identityId =>
    let (revoked, sessions) := revokeIdentity identityId sessions
    (.count revoked, sessions)
  | .revokeIdentityWorkspace identityId workspaceId =>
    let (revoked, sessions) := revokeIdentityWorkspace identityId workspaceId sessions
    (.keys revoked, sessions)
  | .activeSessions =>
    let (active, sessions) := activeSessions e.provider e.now sessions
    (.count active, sessions)

end DashboardBrowserAuth

/-! ## Issues -/

/-- What a login has issued, the workspace that it was last switched to, whether it has been
revoked, and whether a check has found its principal changed. -/
structure Issue where
  sessionKey : JsString
  setCookie : JsString
  principal : DashboardPrincipal
  clientId : JsString
  workspaceId : JsString
  csrfToken : JsString
  expiresAtMs : Int
  revoked : Bool := false
  changed : Bool := false
  deriving DecidableEq

def Issue.Standing (i : Issue) : Prop := i.revoked = false ∧ i.changed = false

def Issue.authenticated (i : Issue) : DashboardAuthenticatedSession where
  sessionKey := i.sessionKey
  principal := i.principal
  clientId := i.clientId
  workspaceId := i.workspaceId
  expiresAt := isoText i.expiresAtMs false

section
variable (auth : DashboardBrowserAuth)

/-- The header is within the limit, and its only cookie of the name is the one issued. -/
def Presents (header : HeaderValue) (setCookie : JsString) : Prop :=
  ∃ text value, header = .one text ∧ byteLength text ≤ MAX_COOKIE_HEADER_BYTES ∧
    cookiesNamed auth.cookieName text = [value] ∧
    setCookie = auth.serializeCookie value auth.sessionTtlMs

instance (header : HeaderValue) (setCookie : JsString) : Decidable (Presents auth header setCookie) :=
  match header with
  | .absent => .isFalse fun ⟨_, _, h, _⟩ => by cases h
  | .many _ => .isFalse fun ⟨_, _, h, _⟩ => by cases h
  | .one text =>
    match hcookies : cookiesNamed auth.cookieName text with
    | [value] =>
      decidable_of_iff
        (byteLength text ≤ MAX_COOKIE_HEADER_BYTES ∧
          setCookie = auth.serializeCookie value auth.sessionTtlMs)
        ⟨fun h => ⟨text, value, rfl, h.1, hcookies, h.2⟩, fun ⟨text', value', htext, hsize, hone, h⟩ => by
          cases htext
          rw [hcookies] at hone
          cases hone
          exact ⟨hsize, h⟩⟩
    | [] => .isFalse fun ⟨_, _, htext, _, hone, _⟩ => by
        cases htext
        rw [hcookies] at hone
        cases hone
    | _ :: _ :: _ => .isFalse fun ⟨_, _, htext, _, hone, _⟩ => by
        cases htext
        rw [hcookies] at hone
        cases hone

/-- The principal of a request to log in that is well formed and whose credential is right. -/
def loginPrincipal (provider : DashboardIdentityProvider) (request : JsValue Rat) :
    Option DashboardPrincipal :=
  match validateLoginRequest request with
  | .error _ => none
  | .ok request => provider.authenticate request.credential

/-- The sessions that a request checks. -/
def Event.checks (e : Event) (i : Issue) : Bool :=
  match e.request with
  | .login request _ _ => (loginPrincipal e.provider request).isSome
  | .authenticate cookieHeader => Presents auth cookieHeader i.setCookie
  | .revalidate sessionKey => sessionKey = i.sessionKey
  | .switchWorkspace sessionKey workspaceId => isName 128 workspaceId && sessionKey = i.sessionKey
  | .browserSession sessionKey => sessionKey = i.sessionKey
  | .activeSessions => true
  | _ => false

def Event.revokes (e : Event) (i : Issue) : Bool :=
  match e.request with
  | .revoke sessionKey => sessionKey = i.sessionKey
  | .revokeAll => true
  | .revokeIdentity identityId => i.principal.identityId = identityId
  | .revokeIdentityWorkspace identityId workspaceId =>
    i.principal.identityId = identityId && i.workspaceId = workspaceId
  | _ => false

/-- The identity of a login is still that of its principal. -/
def Issue.Unchanged (provider : DashboardIdentityProvider) (i : Issue) : Prop :=
  provider.principal i.principal.identityId = some i.principal

instance (provider : DashboardIdentityProvider) (i : Issue) : Decidable (i.Unchanged provider) :=
  inferInstanceAs (Decidable (_ = _))

def Issue.after (e : Event) (i : Issue) : Issue :=
  { i with
    revoked := i.revoked || e.revokes i
    changed := i.changed || (e.checks auth i && !decide (i.Unchanged e.provider)) }

/-- What a login has issued. -/
def opens (e : Event) (response : Response) : Option Issue :=
  match e.request, response with
  | .login request random _, .login (.ok result) =>
    (loginPrincipal e.provider request).map fun principal =>
      { sessionKey := token random
        setCookie := result.setCookie
        principal
        clientId := result.session.clientId
        workspaceId := result.session.workspaceId
        csrfToken := result.session.csrfToken
        expiresAtMs := e.now + auth.sessionTtlMs }
  | _, _ => none

/-- The session that was switched, and the workspace. -/
def switches (e : Event) (response : Response) : Option (JsString × JsString) :=
  match e.request, response with
  | .switchWorkspace sessionKey workspaceId, .session (.ok _) => some (sessionKey, workspaceId)
  | _, _ => none

def Issue.switchedBy (switched : Option (JsString × JsString)) (i : Issue) : Issue :=
  match switched with
  | none => i
  | some (sessionKey, workspaceId) => if i.sessionKey = sessionKey then { i with workspaceId } else i

def observe (e : Event) (response : Response) (issues : List Issue) : List Issue :=
  (issues.map fun i => (i.after auth e).switchedBy (switches e response)) ++
    (opens auth e response).toList

/-! ## Worlds -/

structure World where
  sessions : Sessions
  issues : List Issue
  now : Int

def World.initial (now : Int) : World := ⟨.empty, [], now⟩

/-- The clock does not go back. -/
def World.step (w : World) (e : Event) : Option World :=
  if w.now ≤ e.now then
    let performed := auth.perform e w.sessions
    some { sessions := performed.2, issues := observe auth e performed.1 w.issues, now := e.now }
  else none

/-- The session key that a login draws. -/
def Event.drawnKey (e : Event) : Option JsString :=
  match e.request with
  | .login _ random _ => some (token random)
  | _ => none

/-- A login draws a key that no other has, whose token collides with no other. -/
def Apart (w : World) (e : Event) : Prop :=
  ∀ key ∈ e.drawnKey, ∀ i ∈ w.issues, i.sessionKey ≠ key ∧
    auth.digest i.csrfToken ≠ auth.digest (auth.csrfToken key)

instance (w : World) (e : Event) : Decidable (Apart auth w e) :=
  inferInstanceAs (Decidable (∀ key ∈ e.drawnKey, _))

/-! ## What a response leaves -/

def Issue.record (i : Issue) : BrowserSessionRecord where
  sessionKey := i.sessionKey
  principal := i.principal
  clientId := i.clientId
  workspaceId := i.workspaceId
  csrfDigest := auth.digest i.csrfToken
  expiresAtMs := i.expiresAtMs

/-- The records that a request deletes. -/
def Event.drops (e : Event) (i : Issue) : Bool :=
  (e.checks auth i && DashboardBrowserAuth.stale e.provider e.now (i.record auth)) || e.revokes i

/-- An issue as a login makes it. -/
structure IsIssued (i : Issue) : Prop where
  key : CookieSigning.IsSessionKey i.sessionKey
  cookie : i.setCookie = auth.serializeCookie (auth.signedCookie i.sessionKey) auth.sessionTtlMs
  token : i.csrfToken = auth.csrfToken i.sessionKey

/-- The key of the cookie that a header presents. -/
def presentedKey (header : HeaderValue) : Option JsString :=
  (parseCookie header auth.cookieName).bind auth.verifyCookie

theorem presents_iff {header : HeaderValue} {i : Issue} (hi : IsIssued auth i) :
    Presents auth header i.setCookie ↔ presentedKey auth header = some i.sessionKey := by
  simp only [presentedKey, Option.bind_eq_some_iff, parseCookie_some, verifyCookie_some]
  constructor
  · rintro ⟨text, value, rfl, hsize, hone, hcookie⟩
    rw [hi.cookie] at hcookie
    have hvalue := serializeCookie_inj _ hcookie
    exact ⟨value, ⟨text, rfl, hsize, hone⟩, hi.key, hvalue.symm⟩
  · rintro ⟨value, ⟨text, rfl, hsize, hone⟩, -, rfl⟩
    exact ⟨text, _, rfl, hsize, hone, hi.cookie⟩

/-- The table without the records that a request deletes. -/
structure Sweeps (e : Event) (sessions swept : Sessions) : Prop where
  read : ∀ i : Issue, IsIssued auth i → sessions.get? i.sessionKey = some (i.record auth) →
    swept.get? i.sessionKey = if e.drops auth i then none else some (i.record auth)
  absent : ∀ k, sessions.get? k = none → swept.get? k = none
  size : swept.size ≤ sessions.size

theorem Sweeps.of_filter {e : Event} {sessions swept : Sessions}
    (dropped : JsString → BrowserSessionRecord → Bool)
    (hread : ∀ k, swept.get? k = (sessions.get? k).filter fun record => !dropped k record)
    (hdropped : ∀ i, IsIssued auth i → dropped i.sessionKey (i.record auth) = e.drops auth i)
    (hsize : swept.size ≤ sessions.size) : Sweeps auth e sessions swept where
  read i hi hget := by
    rw [hread, hget, Option.filter_some, hdropped i hi]
    cases e.drops auth i <;> rfl
  absent k hget := by
    rw [hread, hget]
    rfl
  size := hsize

/-- A request that neither checks nor revokes a session. -/
theorem Sweeps.of_same {e : Event} (sessions : Sessions)
    (h : ∀ i, IsIssued auth i → e.drops auth i = false) : Sweeps auth e sessions sessions where
  read i hi hget := by
    rw [hget, h i hi]
    rfl
  absent _ hget := hget
  size := Nat.le_refl _

theorem Sweeps.of_check {e : Event} (key : JsString) (sessions : Sessions)
    (hchecks : ∀ i, IsIssued auth i → e.checks auth i = decide (key = i.sessionKey))
    (hrevokes : ∀ i, e.revokes i = false) :
    Sweeps auth e sessions (DashboardBrowserAuth.activeRecord e.provider e.now key sessions).2 :=
  .of_filter auth (fun k record => key = k && DashboardBrowserAuth.stale e.provider e.now record)
    (fun k => DashboardBrowserAuth.get?_activeRecord key k sessions)
    (fun i hi => by rw [Event.drops, hchecks i hi, hrevokes, Bool.or_false])
    (DashboardBrowserAuth.size_activeRecord_le key sessions)

theorem Sweeps.of_prune {e : Event} (sessions : Sessions) (hchecks : ∀ i, e.checks auth i = true)
    (hrevokes : ∀ i, e.revokes i = false) :
    Sweeps auth e sessions (DashboardBrowserAuth.prune e.provider e.now sessions) :=
  .of_filter auth (fun _ record => DashboardBrowserAuth.stale e.provider e.now record)
    (fun k => DashboardBrowserAuth.get?_prune k sessions)
    (fun i _ => by rw [Event.drops, hchecks, hrevokes, Bool.true_and, Bool.or_false])
    (DashboardBrowserAuth.size_prune_le sessions)

theorem Sweeps.of_revoke {e : Event} (matching : BrowserSessionRecord → Bool) (sessions : Sessions)
    (hchecks : ∀ i, e.checks auth i = false)
    (hmatching : ∀ i : Issue, matching (i.record auth) = e.revokes i) :
    Sweeps auth e sessions (DashboardBrowserAuth.revokeWhere matching sessions).2 :=
  .of_filter auth (fun _ record => matching record)
    (fun k => DashboardBrowserAuth.get?_revokeWhere matching k sessions)
    (fun i _ => by rw [Event.drops, hchecks, Bool.false_and, Bool.false_or, hmatching])
    (DashboardBrowserAuth.size_revokeWhere_le matching sessions)

/-- A response, and what it leaves in the table. -/
inductive Performs (e : Event) (sessions : Sessions) : Response → Sessions → Prop where
  | swept {response : Response} {swept : Sessions} (hswept : Sweeps auth e sessions swept)
      (hopens : opens auth e response = none) (hswitches : switches e response = none) :
      Performs e sessions response swept
  | opened {response : Response} {swept : Sessions} {i : Issue} {request : JsValue Rat}
      {random : Bytes 32} {workspaceRandom : Bytes 18} (hswept : Sweeps auth e sessions swept)
      (hopens : opens auth e response = some i) (hswitches : switches e response = none)
      (hrequest : e.request = .login request random workspaceRandom)
      (hkey : i.sessionKey = token random) (hissued : IsIssued auth i) (hstanding : i.Standing)
      (hroom : swept.size < auth.maxSessions) :
      Performs e sessions response (swept.set i.sessionKey (i.record auth))
  | switched {response : Response} {swept : Sessions} {sessionKey workspaceId : JsString}
      {record : BrowserSessionRecord} (hswept : Sweeps auth e sessions swept)
      (hopens : opens auth e response = none)
      (hswitches : switches e response = some (sessionKey, workspaceId))
      (hget : swept.get? sessionKey = some record) :
      Performs e sessions response (swept.set sessionKey { record with workspaceId })

section
variable (now : Int) (provider : DashboardIdentityProvider) (sessions : Sessions)

theorem login_performs (request : JsValue Rat) (random : Bytes 32) (workspaceRandom : Bytes 18) :
    Performs auth ⟨now, provider, .login request random workspaceRandom⟩ sessions
      (.login (auth.login provider now request random workspaceRandom sessions).1)
      (auth.login provider now request random workspaceRandom sessions).2 := by
  unfold DashboardBrowserAuth.login
  cases hrequest : validateLoginRequest request with
  | error =>
    refine .swept (.of_same auth sessions fun i _ => ?_) rfl rfl
    simp [Event.drops, Event.checks, Event.revokes, loginPrincipal, hrequest]
  | ok valid =>
    dsimp only
    cases hprincipal : provider.authenticate valid.credential with
    | none =>
      refine .swept (.of_same auth sessions fun i _ => ?_) rfl rfl
      simp [Event.drops, Event.checks, Event.revokes, loginPrincipal, hrequest, hprincipal]
    | some principal =>
      have hlogin : loginPrincipal provider request = some principal := by
        simp [loginPrincipal, hrequest, hprincipal]
      have hswept : Sweeps auth ⟨now, provider, .login request random workspaceRandom⟩ sessions
          (DashboardBrowserAuth.prune provider now sessions) :=
        .of_prune auth sessions (fun i => by simp [Event.checks, hlogin]) fun i => rfl
      dsimp only
      split
      · exact .swept hswept rfl rfl
      split
      · exact .swept hswept rfl rfl
      let i : Issue :=
        { sessionKey := token random
          setCookie := auth.serializeCookie (auth.signedCookie (token random)) auth.sessionTtlMs
          principal
          clientId := valid.clientId
          workspaceId := auth.loginWorkspace principal valid workspaceRandom
          csrfToken := auth.csrfToken (token random)
          expiresAtMs := now + auth.sessionTtlMs }
      exact .opened (i := i) hswept (by simp [opens, hlogin, i]) rfl rfl rfl
        ⟨isSessionKey_token random, rfl, rfl⟩ ⟨rfl, rfl⟩ (by omega)

theorem authenticate_performs (cookieHeader : HeaderValue) :
    Performs auth ⟨now, provider, .authenticate cookieHeader⟩ sessions
      (.session (auth.authenticate provider now cookieHeader sessions).1)
      (auth.authenticate provider now cookieHeader sessions).2 := by
  have hchecks : ∀ i, IsIssued auth i → (⟨now, provider, .authenticate cookieHeader⟩ : Event).checks auth i =
      decide (presentedKey auth cookieHeader = some i.sessionKey) :=
    fun i hi => decide_eq_decide.mpr (presents_iff auth hi)
  have hnone : presentedKey auth cookieHeader = none →
      Sweeps auth ⟨now, provider, .authenticate cookieHeader⟩ sessions sessions := by
    intro h
    refine .of_same auth sessions fun i hi => ?_
    rw [Event.drops, hchecks i hi, h]
    rfl
  unfold DashboardBrowserAuth.authenticate
  cases hparse : parseCookie cookieHeader auth.cookieName with
  | none => exact .swept (hnone (by simp [presentedKey, hparse])) rfl rfl
  | some cookieValue =>
    dsimp only
    cases hverify : auth.verifyCookie cookieValue with
    | none => exact .swept (hnone (by simp [presentedKey, hparse, hverify])) rfl rfl
    | some sessionKey =>
      have hpresented : presentedKey auth cookieHeader = some sessionKey := by
        simp [presentedKey, hparse, hverify]
      have hswept := Sweeps.of_check auth (e := ⟨now, provider, .authenticate cookieHeader⟩)
        sessionKey sessions (fun i hi => by simp [hchecks i hi, hpresented]) fun i => rfl
      dsimp only
      split
      · rename_i hactive
        rw [hactive] at hswept
        exact .swept hswept rfl rfl
      · rename_i hactive
        rw [hactive] at hswept
        exact .swept hswept rfl rfl

theorem revalidate_sweeps (request : Request) (sessionKey : JsString)
    (hchecks : ∀ i, (⟨now, provider, request⟩ : Event).checks auth i = decide (sessionKey = i.sessionKey))
    (hrevokes : ∀ i, (⟨now, provider, request⟩ : Event).revokes i = false) :
    Sweeps auth ⟨now, provider, request⟩ sessions
      (DashboardBrowserAuth.revalidate provider now sessionKey sessions).2 := by
  have hswept := Sweeps.of_check auth (e := ⟨now, provider, request⟩) sessionKey sessions
    (fun i _ => hchecks i) hrevokes
  unfold DashboardBrowserAuth.revalidate
  split
  · rename_i hactive
    rwa [hactive] at hswept
  · rename_i hactive
    rwa [hactive] at hswept

theorem browserSession_performs (sessionKey : JsString) :
    Performs auth ⟨now, provider, .browserSession sessionKey⟩ sessions
      (.resource (auth.browserSession provider now sessionKey sessions).1)
      (auth.browserSession provider now sessionKey sessions).2 := by
  have hswept := revalidate_sweeps auth now provider sessions (.browserSession sessionKey)
    sessionKey (fun _ => rfl) fun _ => rfl
  unfold DashboardBrowserAuth.browserSession
  split
  · rename_i hactive
    rw [hactive] at hswept
    exact .swept hswept rfl rfl
  · rename_i hactive
    rw [hactive] at hswept
    exact .swept hswept rfl rfl

theorem switchWorkspace_performs (sessionKey workspaceId : JsString) :
    Performs auth ⟨now, provider, .switchWorkspace sessionKey workspaceId⟩ sessions
      (.session (DashboardBrowserAuth.switchWorkspace provider now sessionKey workspaceId sessions).1)
      (DashboardBrowserAuth.switchWorkspace provider now sessionKey workspaceId sessions).2 := by
  unfold DashboardBrowserAuth.switchWorkspace
  cases hvalid : validateOpaqueId workspaceId "workspaceId" with
  | error =>
    have hname : isName 128 workspaceId = false :=
      Bool.eq_false_iff.mpr fun h => by
        rw [validateOpaqueId_ok.mpr h] at hvalid
        cases hvalid
    refine .swept (.of_same auth sessions fun i _ => ?_) rfl rfl
    simp [Event.drops, Event.checks, Event.revokes, hname]
  | ok =>
    have hname := validateOpaqueId_ok.mp hvalid
    have hswept := Sweeps.of_check auth
      (e := ⟨now, provider, .switchWorkspace sessionKey workspaceId⟩) sessionKey sessions
      (fun i _ => by simp [Event.checks, hname]) fun _ => rfl
    cases hactive : DashboardBrowserAuth.activeRecord provider now sessionKey sessions with
    | mk found swept =>
      rw [hactive] at hswept
      cases found with
      | none => exact .swept hswept rfl rfl
      | some =>
        obtain ⟨rfl, hget, -⟩ := DashboardBrowserAuth.activeRecord_some hactive
        exact .switched hswept rfl rfl hget

theorem perform_performs (e : Event) :
    Performs auth e sessions (auth.perform e sessions).1 (auth.perform e sessions).2 := by
  obtain ⟨now, provider, request⟩ := e
  cases request with
  | login request random workspaceRandom =>
    exact login_performs auth now provider sessions request random workspaceRandom
  | authenticate cookieHeader => exact authenticate_performs auth now provider sessions cookieHeader
  | revalidate sessionKey =>
    exact .swept
      (revalidate_sweeps auth now provider sessions _ sessionKey (fun _ => rfl) fun _ => rfl) rfl rfl
  | switchWorkspace sessionKey workspaceId =>
    exact switchWorkspace_performs auth now provider sessions sessionKey workspaceId
  | browserSession sessionKey => exact browserSession_performs auth now provider sessions sessionKey
  | authorizeCsrf => exact .swept (.of_same auth sessions fun _ _ => rfl) rfl rfl
  | revoke sessionKey =>
    refine .swept (.of_filter auth (fun k _ => sessionKey = k) (fun k => ?_) (fun i _ => rfl)
      (OrderedMap.size_delete_le sessions sessionKey)) rfl rfl
    show (sessions.delete sessionKey).get? k = _
    rw [OrderedMap.get?_delete]
    by_cases hk : sessionKey = k
    · cases sessions.get? k <;> simp [hk, Option.filter_some]
    · cases sessions.get? k <;> simp [hk, Option.filter_some]
  | revokeAll =>
    exact .swept
      { read := fun _ _ _ => rfl, absent := fun _ _ => rfl, size := Nat.zero_le _ } rfl rfl
  | revokeIdentity =>
    exact .swept (.of_revoke auth _ sessions (fun _ => rfl) fun _ => rfl) rfl rfl
  | revokeIdentityWorkspace identityId workspaceId =>
    have hswept := Sweeps.of_revoke auth
      (e := ⟨now, provider, .revokeIdentityWorkspace identityId workspaceId⟩)
      (fun session =>
        session.principal.identityId = identityId && session.workspaceId = workspaceId)
      sessions (fun _ => rfl) fun _ => rfl
    exact .swept hswept rfl rfl
  | activeSessions => exact .swept (.of_prune auth sessions (fun _ => rfl) fun _ => rfl) rfl rfl

end

end

end PiDaemon.Browser
