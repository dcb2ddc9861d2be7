import PiDaemon.Browser.Issues

/-!
# The validity of browser sessions

In every run, the table holds the sessions that have been issued and are standing, up to their
expiry; hence the cookies that are accepted are those of such sessions.

* `agrees_run`: the table and the issues agree;
* `browser_sessions_valid`: which cookies and which tokens are accepted.
-/

namespace PiDaemon.Browser

open Lib List OrderedMap

section
variable (auth : DashboardBrowserAuth)

/-- The table holds the standing sessions, and those that have not expired for certain. -/
structure Agrees (w : World) : Prop where
  issued : ∀ i ∈ w.issues, IsIssued auth i
  distinct : ∀ i ∈ w.issues, ∀ j ∈ w.issues, i.sessionKey = j.sessionKey → i = j
  apart : ∀ i ∈ w.issues, ∀ j ∈ w.issues,
    auth.digest i.csrfToken = auth.digest j.csrfToken → i = j
  backed : ∀ k record, w.sessions.get? k = some record →
    ∃ i ∈ w.issues, i.Standing ∧ i.sessionKey = k ∧ record = i.record auth
  kept : ∀ i ∈ w.issues, i.Standing → w.now < i.expiresAtMs →
    w.sessions.get? i.sessionKey = some (i.record auth)
  bounded : w.sessions.size ≤ auth.maxSessions

theorem agrees_initial (now : Int) : Agrees auth (World.initial now) where
  issued _ h := absurd h not_mem_nil
  distinct _ h := absurd h not_mem_nil
  apart _ h := absurd h not_mem_nil
  backed k record h := by cases h
  kept _ h := absurd h not_mem_nil
  bounded := Nat.zero_le _

variable {auth}

/-! ## One step -/

theorem standing_after {e : Event} {i : Issue} :
    (i.after auth e).Standing ↔ i.Standing ∧ e.revokes i = false ∧
      (e.checks auth i = true → i.Unchanged e.provider) := by
  simp only [Issue.Standing, Issue.after, Bool.or_eq_false_iff, Bool.and_eq_false_iff,
    Bool.not_eq_false', decide_eq_true_eq]
  cases e.checks auth i with
  | false =>
    simp only [Bool.false_eq_true, true_or, and_true, false_implies]
    exact and_right_comm
  | true =>
    simp only [Bool.true_eq_false, false_or, forall_const]
    exact ⟨fun ⟨⟨hr, he⟩, hc, hu⟩ => ⟨⟨hr, hc⟩, he, hu⟩, fun ⟨⟨hr, hc⟩, he, hu⟩ => ⟨⟨hr, he⟩, hc, hu⟩⟩

variable {w : World} {provider : DashboardIdentityProvider}

/-- A record is stale when it has expired, or its principal has changed. -/
theorem stale_record {now : Int} {i : Issue} :
    DashboardBrowserAuth.stale provider now (i.record auth) = false ↔
      now < i.expiresAtMs ∧ i.Unchanged provider := by
  rw [DashboardBrowserAuth.stale, Bool.or_eq_false_iff]
  exact and_congr (decide_eq_false_iff_not.trans Int.not_le) (decide_eq_false_iff_not.trans not_not)

theorem drops_eq_false {e : Event} {i : Issue} :
    e.drops auth i = false ↔ e.revokes i = false ∧
      (e.checks auth i = true → e.now < i.expiresAtMs ∧ i.Unchanged e.provider) := by
  rw [Event.drops, Bool.or_eq_false_iff, Bool.and_eq_false_iff, stale_record]
  cases e.checks auth i <;> simp [and_comm]

theorem Agrees.sweep {e : Event} {swept : Sessions} (h : Agrees auth w) (hclock : w.now ≤ e.now)
    (hswept : Sweeps auth e w.sessions swept) :
    Agrees auth { sessions := swept, issues := w.issues.map (Issue.after auth e), now := e.now } where
  issued := by
    simp only [forall_mem_map]
    exact fun i hi => ⟨(h.issued i hi).key, (h.issued i hi).cookie, (h.issued i hi).token⟩
  distinct := by
    simp only [forall_mem_map]
    exact fun i hi j hj hkey => congrArg _ (h.distinct i hi j hj hkey)
  apart := by
    simp only [forall_mem_map]
    exact fun i hi j hj hdigest => congrArg _ (h.apart i hi j hj hdigest)
  backed k record hget := by
    cases hbefore : w.sessions.get? k with
    | none =>
      rw [hswept.absent k hbefore] at hget
      cases hget
    | some before =>
      obtain ⟨i, hi, hstanding, rfl, rfl⟩ := h.backed k before hbefore
      rw [hswept.read i (h.issued i hi) hbefore] at hget
      obtain ⟨hdrops, hget⟩ := Option.ite_none_left_eq_some.mp hget
      cases hget
      obtain ⟨hrevokes, hchecks⟩ := drops_eq_false.mp (Bool.eq_false_iff.mpr hdrops)
      exact ⟨i.after auth e, mem_map_of_mem hi,
        standing_after.mpr ⟨hstanding, hrevokes, fun hc => (hchecks hc).2⟩, rfl, rfl⟩
  kept := by
    simp only [forall_mem_map]
    intro i hi hstanding hexpiry
    obtain ⟨hbefore, hrevokes, hchecks⟩ := standing_after.mp hstanding
    have hget := h.kept i hi hbefore (by exact Int.lt_of_le_of_lt hclock hexpiry)
    have hdrops : e.drops auth i = false :=
      drops_eq_false.mpr ⟨hrevokes, fun hc => ⟨hexpiry, hchecks hc⟩⟩
    exact (hswept.read i (h.issued i hi) hget).trans (by simp [hdrops, Issue.record, Issue.after])
  bounded := Nat.le_trans hswept.size h.bounded

theorem injective_append {A B : Type} {f : A → B} {l : List A} {a : A}
    (h : ∀ b ∈ l, ∀ c ∈ l, f b = f c → b = c) (hfresh : ∀ b ∈ l, f b ≠ f a) :
    ∀ b ∈ l ++ [a], ∀ c ∈ l ++ [a], f b = f c → b = c := by
  simp only [mem_append, mem_singleton]
  rintro b (hb | rfl) c (hc | rfl) heq
  · exact h b hb c hc heq
  · exact absurd heq (hfresh b hb)
  · exact absurd heq.symm (hfresh c hc)
  · rfl

theorem Agrees.open {i : Issue} (h : Agrees auth w) (hissued : IsIssued auth i)
    (hstanding : i.Standing) (hroom : w.sessions.size < auth.maxSessions)
    (hfresh : ∀ j ∈ w.issues, j.sessionKey ≠ i.sessionKey ∧
      auth.digest j.csrfToken ≠ auth.digest i.csrfToken) :
    Agrees auth { w with
      sessions := w.sessions.set i.sessionKey (i.record auth)
      issues := w.issues ++ [i] } where
  issued j hj := by
    rcases mem_append.mp hj with hj | hj
    · exact h.issued j hj
    · exact mem_singleton.mp hj ▸ hissued
  distinct := injective_append h.distinct fun j hj => (hfresh j hj).1
  apart := injective_append h.apart fun j hj => (hfresh j hj).2
  backed k record hget := by
    rw [get?_set] at hget
    split at hget
    · rename_i hk
      cases hget
      exact ⟨i, by simp, hstanding, hk, rfl⟩
    · obtain ⟨j, hj, hrest⟩ := h.backed k record hget
      exact ⟨j, mem_append_left _ hj, hrest⟩
  kept j hj hj' hexpiry := by
    rcases mem_append.mp hj with hj | hj
    · exact (get?_set_ne _ (hfresh j hj).1.symm _).trans (h.kept j hj hj' hexpiry)
    · cases mem_singleton.mp hj
      exact get?_set_self _ _ _
  bounded := Nat.le_trans (size_set_le _ _ _) hroom

theorem Agrees.switch {sessionKey : JsString} {record : BrowserSessionRecord} (h : Agrees auth w)
    (workspaceId : JsString) (hget : w.sessions.get? sessionKey = some record) :
    Agrees auth { w with
      sessions := w.sessions.set sessionKey { record with workspaceId }
      issues := w.issues.map (Issue.switchedBy (some (sessionKey, workspaceId))) } := by
  have hsame : ∀ i : Issue, i.sessionKey ≠ sessionKey →
      i.switchedBy (some (sessionKey, workspaceId)) = i := fun i hne => if_neg hne
  have hmoved : ∀ i : Issue, i.sessionKey = sessionKey →
      i.switchedBy (some (sessionKey, workspaceId)) = { i with workspaceId } := fun i heq => if_pos heq
  have hfields : ∀ i : Issue, (i.switchedBy (some (sessionKey, workspaceId))).sessionKey = i.sessionKey ∧
      (i.switchedBy (some (sessionKey, workspaceId))).csrfToken = i.csrfToken := by
    intro i
    by_cases heq : i.sessionKey = sessionKey
    · rw [hmoved i heq]
      exact ⟨rfl, rfl⟩
    · rw [hsame i heq]
      exact ⟨rfl, rfl⟩
  constructor
  · simp only [forall_mem_map]
    intro i hi
    by_cases heq : i.sessionKey = sessionKey
    · rw [hmoved i heq]
      exact ⟨(h.issued i hi).key, (h.issued i hi).cookie, (h.issued i hi).token⟩
    · rw [hsame i heq]
      exact h.issued i hi
  · simp only [forall_mem_map, (hfields _).1]
    exact fun i hi j hj hkey => congrArg _ (h.distinct i hi j hj hkey)
  · simp only [forall_mem_map, (hfields _).2]
    exact fun i hi j hj hdigest => congrArg _ (h.apart i hi j hj hdigest)
  · intro k found hfound
    rw [get?_set] at hfound
    split at hfound
    · rename_i hk
      subst hk
      cases hfound
      obtain ⟨i, hi, hstanding, hkey, rfl⟩ := h.backed sessionKey record hget
      refine ⟨_, mem_map_of_mem hi, ?_⟩
      rw [hmoved i hkey]
      exact ⟨hstanding, hkey, rfl⟩
    · rename_i hk
      obtain ⟨i, hi, hstanding, rfl, rfl⟩ := h.backed k found hfound
      refine ⟨_, mem_map_of_mem hi, ?_⟩
      rw [hsame i (Ne.symm hk)]
      exact ⟨hstanding, rfl, rfl⟩
  · simp only [forall_mem_map]
    intro i hi
    by_cases heq : i.sessionKey = sessionKey
    · rw [hmoved i heq]
      intro hstanding hexpiry
      have hrecord := h.kept i hi hstanding hexpiry
      rw [heq, hget] at hrecord
      cases hrecord
      rw [get?_set, if_pos heq.symm]
      rfl
    · rw [hsame i heq]
      intro hstanding hexpiry
      rw [get?_set, if_neg (Ne.symm heq)]
      exact h.kept i hi hstanding hexpiry
  · rw [size_set_of_has hget]
    exact h.bounded

theorem agrees_step {w w' : World} {e : Event} (h : Agrees auth w) (hapart : Apart auth w e)
    (hs : w.step auth e = some w') : Agrees auth w' := by
  obtain ⟨hclock, hs⟩ := Option.ite_none_right_eq_some.mp hs
  obtain rfl := Option.some.inj hs
  have hperforms := perform_performs auth w.sessions e
  generalize auth.perform e w.sessions = performed at hperforms ⊢
  obtain ⟨_, _⟩ := performed
  dsimp only at hperforms ⊢
  cases hperforms with
  | swept hswept hopens hswitches =>
    rw [observe, hopens, hswitches]
    simpa [Issue.switchedBy] using h.sweep hclock hswept
  | opened hswept hopens hswitches hrequest hkey hissued hstanding hroom =>
    rw [observe, hopens, hswitches]
    simp only [Apart, Event.drawnKey, hrequest, Option.mem_some_iff, forall_eq'] at hapart
    have hopened := (h.sweep hclock hswept).open hissued hstanding hroom (by
      simp only [forall_mem_map]
      intro j hj
      rw [hissued.token, hkey]
      exact hapart j hj)
    simpa [Issue.switchedBy] using hopened
  | @switched _ _ workspaceId _ hswept hopens hswitches hget =>
    rw [observe, hopens, hswitches]
    have hswitched := (h.sweep hclock hswept).switch workspaceId hget
    rw [map_map] at hswitched
    rwa [Option.toList_none, append_nil]

/-! ## Runs -/

theorem agrees_run {start : Int} {es : List Event}
    (hrun : run (World.step auth) (.initial start) es = some w)
    (hapart : Meets (World.step auth) (Apart auth) (.initial start) es) : Agrees auth w :=
  run_invariant_of_meets (fun _ _ _ => agrees_step) (agrees_initial auth start) hapart hrun

/-- The cookies accepted are those of the table's records that are not stale. -/
theorem authenticate_ok {now : Int} {header : HeaderValue} {sessions : Sessions}
    {session : DashboardAuthenticatedSession} :
    (auth.authenticate provider now header sessions).1 = .ok session ↔
      ∃ key record, presentedKey auth header = some key ∧ sessions.get? key = some record ∧
        DashboardBrowserAuth.stale provider now record = false ∧ session = record.authenticated := by
  unfold DashboardBrowserAuth.authenticate presentedKey
  cases parseCookie header auth.cookieName with
  | none => simp
  | some cookieValue =>
    cases hverify : auth.verifyCookie cookieValue with
    | none => simp [hverify]
    | some key =>
      simp only [Option.bind_some, hverify, Option.some.injEq, exists_and_left, exists_eq_left']
      constructor
      · intro h
        split at h
        · cases h
        rename_i record left hactive
        cases h
        obtain ⟨-, hget, hfresh⟩ := DashboardBrowserAuth.activeRecord_some hactive
        exact ⟨record, hget, hfresh, rfl⟩
      · rintro ⟨record, hget, hfresh, rfl⟩
        have hactive : DashboardBrowserAuth.activeRecord provider now key sessions = _ :=
          DashboardBrowserAuth.activeRecord_eq key sessions
        rw [hget, Option.filter_some, hfresh] at hactive
        rw [hactive]
        rfl

theorem Agrees.authenticate_iff (h : Agrees auth w) {now : Int} (hclock : w.now ≤ now)
    {header : HeaderValue} {session : DashboardAuthenticatedSession} :
    (auth.authenticate provider now header w.sessions).1 = .ok session ↔
      ∃ i ∈ w.issues, Presents auth header i.setCookie ∧ i.Standing ∧ now < i.expiresAtMs ∧
        i.Unchanged provider ∧ session = i.authenticated := by
  rw [authenticate_ok]
  constructor
  · rintro ⟨key, record, hpresented, hget, hfresh, rfl⟩
    obtain ⟨i, hi, hstanding, rfl, rfl⟩ := h.backed key record hget
    obtain ⟨hexpiry, hsame⟩ := stale_record.mp hfresh
    exact ⟨i, hi, (presents_iff auth (h.issued i hi)).mpr hpresented, hstanding, hexpiry, hsame, rfl⟩
  · rintro ⟨i, hi, hpresents, hstanding, hexpiry, hsame, rfl⟩
    exact ⟨i.sessionKey, i.record auth, (presents_iff auth (h.issued i hi)).mp hpresents,
      h.kept i hi hstanding (Int.lt_of_le_of_lt hclock hexpiry), stale_record.mpr ⟨hexpiry, hsame⟩, rfl⟩

theorem Agrees.csrf (h : Agrees auth w) {sessionKey : JsString} {value : HeaderValue}
    (hok : auth.authorizeCsrf sessionKey value w.sessions = .ok ()) :
    ∃ i ∈ w.issues, i.sessionKey = sessionKey ∧ i.Standing ∧ ∃ text, value = .one text ∧
      auth.digest text = auth.digest i.csrfToken ∧ ∀ j ∈ w.issues, j.csrfToken = text → j = i := by
  cases value with
  | absent => cases hok
  | many values => cases hok
  | one text =>
    unfold DashboardBrowserAuth.authorizeCsrf at hok
    dsimp only at hok
    split at hok
    · cases hok
    split at hok
    · cases hok
    rename_i record hget
    rw [check_ok, decide_eq_true_eq] at hok
    obtain ⟨i, hi, hstanding, hkey, rfl⟩ := h.backed sessionKey record hget
    refine ⟨i, hi, hkey, hstanding, text, rfl, hok.symm, ?_⟩
    rintro j hj rfl
    exact h.apart j hj i hi hok.symm

/-- In every run in which session keys are distinct, and so are the digests of their tokens: a
header is accepted if and only if its cookie is one issued by a login, whose session stands, has
not expired, and has a principal that is still the same; there are at most `maxSessions` sessions;
a token is accepted for the session that it was issued with. -/
theorem browser_sessions_valid {start : Int} {es : List Event} {w : World}
    (hrun : run (World.step auth) (.initial start) es = some w)
    (hapart : Meets (World.step auth) (Apart auth) (.initial start) es) :
    (∀ provider now header session, w.now ≤ now →
      ((auth.authenticate provider now header w.sessions).1 = .ok session ↔
        ∃ i ∈ w.issues, Presents auth header i.setCookie ∧ i.Standing ∧ now < i.expiresAtMs ∧
          i.Unchanged provider ∧ session = i.authenticated)) ∧
      w.sessions.size ≤ auth.maxSessions ∧
      ∀ sessionKey value, auth.authorizeCsrf sessionKey value w.sessions = .ok () →
        ∃ i ∈ w.issues, i.sessionKey = sessionKey ∧ i.Standing ∧ ∃ text, value = .one text ∧
          auth.digest text = auth.digest i.csrfToken ∧ ∀ j ∈ w.issues, j.csrfToken = text → j = i := by
  have h := agrees_run hrun hapart
  exact ⟨fun _ _ _ _ hclock => h.authenticate_iff hclock, h.bounded, fun _ _ hok => h.csrf hok⟩

def localOwner : DashboardPrincipal := ⟨text "local-owner", .administrator, none⟩

def localProvider : DashboardIdentityProvider where
  authenticate credential := if credential = text "secret" then some localOwner else none
  principal identityId := if identityId = text "local-owner" then some localOwner else none

def mixed (bytes : List UInt8) : Bytes 32 :=
  ⟨(List.range 32).map fun n =>
    (bytes.foldl (fun a b => (a * 31 + b.toNat) % 65521) n % 256).toUInt8, by simp⟩

def twoSessions : DashboardBrowserAuth where
  secureCookies := false
  hmac := mixed
  sha256 := mixed
  sessionTtlMs := 60000
  ttlPositive := by decide
  ttlBounded := by decide
  maxSessions := 2
  maxPositive := by decide
  workspaceIdForPrincipal := none

def loginAt (now : Int) (seed : UInt8) : Event where
  now
  provider := localProvider
  request := .login
    (.object <| .cons (text "requestId") (.string (text "r")) <|
      .cons (text "clientId") (.string (text "c")) <|
      .cons (text "credential") (.string (text "secret")) .nil)
    ⟨List.replicate 32 seed, List.length_replicate⟩ ⟨List.replicate 18 seed, List.length_replicate⟩

/-- Two logins of the local owner. -/
theorem browser_sessions_valid_twice :
    ∃ w, run (World.step twoSessions) (.initial 0) [loginAt 5 1, loginAt 6 2] = some w ∧
      w.issues.length = 2 ∧ w.sessions.size ≤ 2 ∧
      ∀ provider now header session, w.now ≤ now →
        ((twoSessions.authenticate provider now header w.sessions).1 = .ok session ↔
          ∃ i ∈ w.issues, Presents twoSessions header i.setCookie ∧ i.Standing ∧
            now < i.expiresAtMs ∧ i.Unchanged provider ∧ session = i.authenticated) := by
  refine exists_some_and (by decide +kernel) fun w hw _ => ?_
  have hvalid := browser_sessions_valid hw (by decide +kernel)
  exact ⟨hvalid.2.1, hvalid.1⟩

end

end PiDaemon.Browser
