import PiDaemon.Authorization.Listing

/-!
# Disclosure

The authorization changes while `listSessions` waits for its backend and for the role checks of a
page.  Every row of a page is checked in a state of the authorization since the start of the call;
the row that an earlier call has left behind the cursor is not checked again.

* `scanPages_sessions`: what the scan loop adds;
* `listings_readable`: what the calls of a run return.
-/

namespace PiDaemon.Authorization

open Lib List Option

/-- A call of `listSessions` that waits. -/
structure PendingListing where
  principal : DashboardPrincipal
  query : SessionInventoryQuery
  now : Nat
  cursor : Option InventoryCursorRecord
  /-- How many states of the authorization there had been before. -/
  startedAt : Nat

/-- What a call has returned, and the states of the authorization from its start on. -/
structure ListingAnswer where
  principal : DashboardPrincipal
  page : SessionInventoryPage
  states : List Ledger

structure ListingWorld where
  past : List Ledger
  current : Ledger
  cursors : InventoryCursors
  pending : OrderedMap Nat PendingListing
  answers : List ListingAnswer

def ListingWorld.start (ledger : Ledger) : ListingWorld := ⟨[], ledger, .empty, .empty, []⟩

inductive ListingEvent where
  /-- A grant, a revocation, a transfer or a registration. -/
  | authorize (ledger : Ledger)
  | call (id : Nat) (principal : DashboardPrincipal) (query : SessionInventoryQuery) (now : Nat)
  /-- `backend scan` answers a scan, and `checks scan row` is the state that a row is checked in. -/
  | return_ (id : Nat) (token : DashboardCursor) (backend : Nat → DashboardBackend)
      (checks : Nat → Nat → Nat)

/-- The states since the start of a call. -/
def ListingWorld.since (w : ListingWorld) (call : PendingListing) : List Ledger :=
  w.current :: w.past.drop call.startedAt

def ListingWorld.stateAt (w : ListingWorld) (call : PendingListing) (check : Nat) : Ledger :=
  (w.since call).getD check w.current

def ReadableIn (service : DashboardAuthorizationService) (states : List Ledger)
    (principal : DashboardPrincipal) (session : SessionInventoryRecord) : Prop :=
  ∃ ledger ∈ states, readable service ledger principal session = true

/-- Everything that the call has returned was readable in it. -/
def ListingAnswer.Readable (service : DashboardAuthorizationService) (answer : ListingAnswer) : Prop :=
  ∀ session ∈ answer.page.sessions, ReadableIn service answer.states answer.principal session

variable (enforcer : DashboardAuthorizationEnforcer)

/-- The rows of a page that are readable when they are checked. -/
def authorizedRows (states : Nat → Ledger) (principal : DashboardPrincipal) :
    List SessionInventoryRecord → List SessionInventoryRecord
  | [] => []
  | session :: rest =>
    if readable enforcer.authorization (states 0) principal session then
      session :: authorizedRows (fun row => states (row + 1)) principal rest
    else authorizedRows (fun row => states (row + 1)) principal rest

/-- The loop of `gather`, with a state for every check. -/
def scanPages (states : Nat → Nat → Ledger) (backend : Nat → DashboardBackend)
    (principal : DashboardPrincipal) (filter : SessionInventoryFilter) (target : Nat) :
    Nat → Scan → Except Failure Scan
  | 0, scan => .ok scan
  | fuel + 1, scan =>
    if scan.sessions.length < target ∧ scan.backendExhausted = false then do
      let page ← backend scan.scans
        { filter, cursor := scan.backendCursor
          limit := some
            (min enforcer.maxInventoryPageItems (max 1 (target - scan.sessions.length))) }
      scanPages states backend principal filter target fuel
        { sessions := scan.sessions ++ authorizedRows enforcer (states scan.scans) principal page.sessions
          backendCursor := page.nextCursor
          backendExhausted := page.nextCursor.isNone || page.sessions.isEmpty
          lastPage := some page
          scans := scan.scans + 1 }
    else .ok scan

def ListingWorld.step (w : ListingWorld) : ListingEvent → Option ListingWorld
  | .authorize ledger => some { w with past := w.past ++ [w.current], current := ledger }
  | .call id principal query now =>
    let cursors := pruneCursors now w.cursors
    match resumeCursor principal query now cursors with
    | .error _ => some { w with cursors }
    | .ok cursor =>
      some { w with
        cursors
        pending := w.pending.set id ⟨principal, query, now, cursor, w.past.length⟩ }
  | .return_ id token backend checks => do
    let call ← w.pending.get? id
    let returned := do
      let scan ← scanPages enforcer (fun scan row => w.stateAt call (checks scan row)) backend
        call.principal call.query.filter (pageLimit enforcer call.query.limit + 1)
        enforcer.maxScanPages (startScan call.cursor)
      conclude enforcer call.principal call.query call.now token w.cursors call.cursor scan
    match returned with
    | .error _ => some { w with pending := w.pending.delete id }
    | .ok (reply, cursors) =>
      some { w with
        cursors
        pending := w.pending.delete id
        answers := w.answers ++ [⟨call.principal, reply.page, w.since call⟩] }

/-- The row behind the cursor of a call that returns it is readable in a state since its start. -/
def BufferReadable (w : ListingWorld) : ListingEvent → Prop
  | .return_ id _ _ _ =>
    ∀ call, w.pending.get? id = some call →
      ∀ session ∈ (startScan call.cursor).sessions.take (pageLimit enforcer call.query.limit),
        ReadableIn enforcer.authorization (w.since call) call.principal session
  | _ => True

section
variable {enforcer} {w w' : ListingWorld} {principal : DashboardPrincipal}

theorem readable_of_authorizedRows {states : Nat → Ledger} {sessions : List SessionInventoryRecord}
    {session : SessionInventoryRecord} (h : session ∈ authorizedRows enforcer states principal sessions) :
    ∃ row, readable enforcer.authorization (states row) principal session = true := by
  induction sessions generalizing states with
  | nil => cases h
  | cons other rest ih =>
    have hrest (h : session ∈ authorizedRows enforcer (fun row => states (row + 1)) principal rest) :
        ∃ row, readable enforcer.authorization (states row) principal session = true := by
      obtain ⟨row, hrow⟩ := ih h
      exact ⟨row + 1, hrow⟩
    rw [authorizedRows] at h
    split at h
    · rename_i hread
      rcases mem_cons.mp h with rfl | h
      · exact ⟨0, hread⟩
      · exact hrest h
    · exact hrest h

/-- The scan keeps what was buffered in front, and what it adds is readable in a state. -/
theorem scanPages_sessions {states : Nat → Nat → Ledger} {backend : Nat → DashboardBackend}
    {filter : SessionInventoryFilter} {target fuel : Nat} {scan scan' : Scan}
    (h : scanPages enforcer states backend principal filter target fuel scan = .ok scan') :
    ∃ added, scan'.sessions = scan.sessions ++ added ∧ ∀ session ∈ added, ∃ number row,
      readable enforcer.authorization (states number row) principal session = true := by
  induction fuel generalizing scan with
  | zero =>
    cases h
    exact ⟨[], (append_nil _).symm, fun _ hmem => absurd hmem List.not_mem_nil⟩
  | succ fuel ih =>
    rw [scanPages] at h
    split at h
    · obtain ⟨page, -, hrest⟩ := bind_ok.mp h
      obtain ⟨added, hadded, hreadable⟩ := ih hrest
      refine ⟨_, hadded.trans (append_assoc _ _ _), fun session hmem => ?_⟩
      rcases mem_append.mp hmem with hrow | hlater
      · exact ⟨scan.scans, readable_of_authorizedRows hrow⟩
      · exact hreadable session hlater
    · cases h
      exact ⟨[], (append_nil _).symm, fun _ hmem => absurd hmem List.not_mem_nil⟩

theorem conclude_sessions {query : SessionInventoryQuery} {now : Nat} {token : DashboardCursor}
    {cursors cursors' : InventoryCursors} {cursor : Option InventoryCursorRecord} {scan : Scan}
    {reply : Reply}
    (h : conclude enforcer principal query now token cursors cursor scan = .ok (reply, cursors')) :
    reply.page.sessions = scan.sessions.take (pageLimit enforcer query.limit) := by
  unfold conclude at h
  split at h
  · cases h
  · simp only at h
    split at h <;> cases h <;> rfl

theorem answer_readable {event : ListingEvent} (hbuffer : BufferReadable enforcer w event)
    (hstep : w.step enforcer event = some w') :
    ∀ answer ∈ w'.answers, answer ∈ w.answers ∨ answer.Readable enforcer.authorization := by
  cases event with
  | authorize ledger =>
    cases hstep
    exact fun _ h => .inl h
  | call id principal query now =>
    simp only [ListingWorld.step] at hstep
    split at hstep
    · cases hstep
      exact fun _ h => .inl h
    · cases hstep
      exact fun _ h => .inl h
  | return_ id token backend checks =>
    obtain ⟨call, hcall, hstep⟩ := bind_eq_some_iff.mp hstep
    dsimp only at hstep
    split at hstep
    · cases hstep
      exact fun _ h => .inl h
    rename_i reply cursors hreturned
    cases hstep
    obtain ⟨scan, hscan, hconclude⟩ := bind_ok.mp hreturned
    obtain ⟨added, hadded, hreadable⟩ := scanPages_sessions hscan
    intro answer hanswer
    rcases mem_append.mp hanswer with hold | hnew
    · exact .inl hold
    cases mem_singleton.mp hnew
    refine .inr fun session hsession => ?_
    rw [conclude_sessions hconclude, hadded, take_append, mem_append] at hsession
    rcases hsession with hbuffered | hscanned
    · exact hbuffer call hcall session hbuffered
    obtain ⟨number, row, hread⟩ := hreadable session (mem_of_mem_take hscanned)
    refine ⟨_, ?_, hread⟩
    rw [ListingWorld.stateAt, getD_eq_getElem?_getD]
    cases hstate : (w.since call)[checks number row]? with
    | none => exact mem_cons_self
    | some ledger => exact mem_of_getElem? hstate

end

/-- **Listings disclose what is readable**, in the runs in which what is behind the cursor of a call
is still readable in it. -/
theorem listings_readable {ledger : Ledger} {events : List ListingEvent} {w : ListingWorld}
    (hmeets : Meets (fun w event => ListingWorld.step enforcer w event) (BufferReadable enforcer)
      (.start ledger) events)
    (hrun : run (fun w event => ListingWorld.step enforcer w event) (.start ledger) events = some w) :
    ∀ answer ∈ w.answers, answer.Readable enforcer.authorization :=
  run_invariant_of_meets (fun _ _ _ hw hbuffer hstep answer hanswer =>
    (answer_readable hbuffer hstep answer hanswer).elim (hw answer) id)
    (fun _ hanswer => absurd hanswer List.not_mem_nil) hmeets hrun

/-! ### Fixed runs -/

instance (service : DashboardAuthorizationService) (states : List Ledger)
    (principal : DashboardPrincipal) (session : SessionInventoryRecord) :
    Decidable (ReadableIn service states principal session) :=
  inferInstanceAs (Decidable (∃ ledger ∈ states, _))

instance (service : DashboardAuthorizationService) (answer : ListingAnswer) :
    Decidable (answer.Readable service) :=
  inferInstanceAs (Decidable (∀ session ∈ answer.page.sessions, _))

instance BufferReadable.decidable (w : ListingWorld) :
    (event : ListingEvent) → Decidable (BufferReadable enforcer w event)
  | .return_ id _ _ _ =>
    inferInstanceAs (Decidable (∀ call ∈ w.pending.get? id,
      ∀ session ∈ (startScan call.cursor).sessions.take (pageLimit enforcer call.query.limit), _))
  | .authorize _ | .call _ _ _ _ => .isTrue trivial

/-- Alice owns the first session. -/
def twoSessions (owner : String) : Ledger :=
  reindexPolicies
    { emptyAuthorizationState with
      policies := [⟨managedSessionRef (text "s1"), text "alice", [], 1, plainTimestamp, plainTimestamp⟩,
        ⟨managedSessionRef (text "s2"), text owner, [], 1, plainTimestamp, plainTimestamp⟩] }

def twoRows : List SessionInventoryRecord := [plainRow "s1", plainRow "s2"]

def asksFor (id : Nat) (token : String) (cursor : Option DashboardCursor) : List ListingEvent :=
  [.call id alice ⟨noFilter, some 1, cursor⟩ id,
    .return_ id (text token) (fun _ => plainBackend twoRows) fun _ _ => 0]

theorem listings_readable_paged : ∃ w,
    run (fun w event => ListingWorld.step (plainEnforcer twoRows) w event)
        (.start (twoSessions "alice")) (asksFor 0 "t" none ++ asksFor 1 "u" (some (text "t"))) = some w ∧
      w.answers.map (·.page.sessions) = [[plainRow "s1"], [plainRow "s2"]] ∧
      ∀ answer ∈ w.answers, answer.Readable plainService :=
  exists_some_and (by decide +kernel) fun _ hrun _ =>
    listings_readable (plainEnforcer twoRows) (by decide +kernel) hrun

/-- The second session is transferred to Bob, and then shown to Alice. -/
theorem transferred_session_shown : ∃ w,
    run (fun w event => ListingWorld.step (plainEnforcer twoRows) w event) (.start (twoSessions "alice"))
        (asksFor 0 "t" none ++ .authorize (twoSessions "bob") :: asksFor 1 "u" (some (text "t"))) =
          some w ∧
      w.answers.map (·.page.sessions) = [[plainRow "s1"], [plainRow "s2"]] ∧
      ¬∀ answer ∈ w.answers, answer.Readable plainService := by
  decide +kernel

end PiDaemon.Authorization
