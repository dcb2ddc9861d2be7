import PiDaemon.Authorization.Restart

/-!
# Authorized listing

`DashboardAuthorizationEnforcer.listSessions` shows a principal the rows of the backend's
inventory that the principal may read.  A request scans the backend a bounded number of times, and
looks for one row more than it shows.  It returns a cursor only when it has found that row, which
waits in the private record of the cursor for the next request.

* `gather_listed`: what one request has scanned;
* `get?_interfere`: a cursor that is followed soon enough is still there;
* `listSessions_listed`: following the cursors lists the readable rows of a first part of the
  inventory, in its order and each once.  This part is the whole inventory unless the last request
  used up its scans.
-/

namespace PiDaemon.Authorization

open Lib OrderedMap List Option

abbrev DashboardCursor := JsString

/-- What only `SessionInfoResource` has. -/
structure SessionSource where
  aliases : List JsString
  sourceInventoryId : Option JsString
  deriving DecidableEq

/-- What `sessionRefs` reads of `SessionInventoryRecord | SessionInfoResource`. -/
structure SessionInventoryRecord where
  inventoryId : JsString
  piSessionId : Option JsString
  managedSessionId : Option JsString
  source : Option SessionSource
  deriving DecidableEq

structure SessionInventoryFilter where
  search : Option JsString
  sourceKinds : Option (List JsString)
  runtime : Option (List JsString)
  unread : Option Bool
  modifiedAfter : Option JsString
  deriving DecidableEq

structure SessionInventoryQuery where
  filter : SessionInventoryFilter
  limit : Option Nat
  cursor : Option DashboardCursor
  deriving DecidableEq

structure SessionInventoryIndex where
  loadedAt : JsString
  reconciledAt : Option JsString
  stale : Bool
  reconciling : Bool
  deriving DecidableEq

structure SessionInventoryPage where
  sessions : List SessionInventoryRecord
  nextCursor : Option DashboardCursor
  index : SessionInventoryIndex
  deriving DecidableEq

structure InventoryCursorRecord where
  principalId : JsString
  queryFingerprint : Option JsString
  backendCursor : Option DashboardCursor
  bufferedSessions : List SessionInventoryRecord
  index : SessionInventoryIndex
  expiresAt : Nat
  deriving DecidableEq

abbrev InventoryCursors := OrderedMap DashboardCursor InventoryCursorRecord

abbrev DashboardBackend := SessionInventoryQuery → Except Failure SessionInventoryPage

/-- The constructor refuses limits that are not positive. -/
structure DashboardAuthorizationEnforcer where
  backend : DashboardBackend
  authorization : DashboardAuthorizationService
  maxInventoryPageItems : Nat
  maxScanPages : Nat
  maxCursors : Nat
  cursorTtlMs : Nat
  pageItems_pos : 0 < maxInventoryPageItems
  scanPages_pos : 0 < maxScanPages
  cursors_pos : 0 < maxCursors
  ttl_pos : 0 < cursorTtlMs

def inventoryCursorInvalid : Failure :=
  .authorization
    { code := "inventory_cursor_invalid", message := "dashboard inventory cursor is invalid"
      status := 400 }

/-! ## References -/

def prefixedResourceId (kind id : JsString) : JsString := kind ++ text ":" ++ id

def managedSessionRef (sessionId : JsString) : DashboardResourceRef :=
  { kind := .session, id := prefixedResourceId (text "managed") sessionId }

def inventoryIds (session : SessionInventoryRecord) : List JsString :=
  session.inventoryId :: session.source.elim [] fun source =>
    source.aliases ++ source.sourceInventoryId.toList

section
variable (service : DashboardAuthorizationService)

def sessionRefs (session : SessionInventoryRecord) : List DashboardResourceRef :=
  match session.managedSessionId, session.piSessionId with
  | some sessionId, _ => [managedSessionRef sessionId]
  | none, some piSessionId =>
    [{ kind := .session, id := prefixedResourceId (text "pi") piSessionId }]
  | none, none =>
    let ids := (inventoryIds session).insertionSort fun left right =>
      service.localeLe left right = true
    [{ kind := .session, id := prefixedResourceId (text "inventory") (ids.headD []) }]

def deduplicateRefs (resources : List DashboardResourceRef) : List DashboardResourceRef :=
  resources.foldl
    (fun kept resource =>
      if kept.any (resourceKey · = resourceKey resource) then kept else kept ++ [resource]) []

/-- The loop of `#effectiveAny`. -/
def effectiveAny (ledger : Ledger) (principal : DashboardPrincipal)
    (resources : List DashboardResourceRef) (requiredRole : DashboardResourceRole) :
    Option (DashboardResourceRef × DashboardResourceRole) :=
  (deduplicateRefs resources).foldl
    (fun best resource =>
      match ledger.effectiveRole service principal resource with
      | none => best
      | some role =>
        if roleRank role < roleRank requiredRole then best
        else if best.all fun b => roleRank b.2 < roleRank role then some (resource, role)
        else best) none

/-- Whether a row of a backend page stays in the listing. -/
def readable (ledger : Ledger) (principal : DashboardPrincipal) (session : SessionInventoryRecord) :
    Bool :=
  (effectiveAny service ledger principal (sessionRefs service session) .read).isSome

end

/-! ## Requests -/

def nullable (value : Option (JsValue Nat)) : JsValue Nat := value.getD .null

def texts (values : List JsString) : JsValue Nat := .array (jsSlots (values.map .string))

def inventoryQueryFingerprint (filter : SessionInventoryFilter) : Option JsString :=
  stringify decimal <| .object <|
    .cons (text "search") (nullable (filter.search.map .string)) <|
    .cons (text "sourceKinds") (nullable (filter.sourceKinds.map texts)) <|
    .cons (text "runtime") (nullable (filter.runtime.map texts)) <|
    .cons (text "unread") (nullable (filter.unread.map .boolean)) <|
    .cons (text "modifiedAfter") (nullable (filter.modifiedAfter.map .string)) .nil

/-- The variables of the scan loop. -/
structure Scan where
  sessions : List SessionInventoryRecord
  backendCursor : Option DashboardCursor
  backendExhausted : Bool
  lastPage : Option SessionInventoryPage
  scans : Nat

/-- `scans` is not part of the answer. -/
structure Reply where
  page : SessionInventoryPage
  limit : Nat
  scans : Nat

/-- What another request does to the cursors. -/
inductive CursorAction where
  | prune (now : Nat)
  | store (token : DashboardCursor) (record : InventoryCursorRecord)
  deriving DecidableEq

def pruneCursors (now : Nat) (cursors : InventoryCursors) : InventoryCursors :=
  cursors.filterValues fun cursor => !decide (cursor.expiresAt ≤ now)

/-- Where a request starts. -/
def startScan : Option InventoryCursorRecord → Scan
  | none => ⟨[], none, false, none, 0⟩
  | some cursor =>
    ⟨cursor.bufferedSessions, cursor.backendCursor, cursor.backendCursor.isNone, none, 0⟩

variable (enforcer : DashboardAuthorizationEnforcer)

def storeCursor (token : DashboardCursor) (record : InventoryCursorRecord)
    (cursors : InventoryCursors) : InventoryCursors :=
  (cursors.evict enforcer.maxCursors).set token record

def CursorAction.apply (cursors : InventoryCursors) : CursorAction → InventoryCursors
  | .prune now => pruneCursors now cursors
  | .store token record => storeCursor enforcer token record cursors

def interfere (cursors : InventoryCursors) (actions : List CursorAction) : InventoryCursors :=
  actions.foldl (CursorAction.apply enforcer) cursors

def pageLimit (limit : Option Nat) : Nat :=
  min (limit.getD enforcer.maxInventoryPageItems) enforcer.maxInventoryPageItems

section
variable (ledger : Ledger) (principal : DashboardPrincipal)

/-- The record of the cursor of a query. -/
def resumeCursor (query : SessionInventoryQuery) (now : Nat) (cursors : InventoryCursors) :
    Except Failure (Option InventoryCursorRecord) :=
  match query.cursor with
  | none => .ok none
  | some token =>
    match cursors.get? token with
    | none => .error inventoryCursorInvalid
    | some cursor =>
      if cursor.expiresAt ≤ now ∨ cursor.principalId ≠ principal.identityId ∨
          cursor.queryFingerprint ≠ inventoryQueryFingerprint query.filter then
        .error inventoryCursorInvalid
      else .ok (some cursor)

/-- The scan loop, for at most so many scans. -/
def gather (filter : SessionInventoryFilter) (target : Nat) : Nat → Scan → Except Failure Scan
  | 0, scan => .ok scan
  | fuel + 1, scan =>
    if scan.sessions.length < target ∧ scan.backendExhausted = false then do
      let page ← enforcer.backend
        { filter, cursor := scan.backendCursor
          limit := some
            (min enforcer.maxInventoryPageItems (max 1 (target - scan.sessions.length))) }
      gather filter target fuel
        { sessions := scan.sessions ++
            page.sessions.filter (readable enforcer.authorization ledger principal)
          backendCursor := page.nextCursor
          backendExhausted := page.nextCursor.isNone || page.sessions.isEmpty
          lastPage := some page
          scans := scan.scans + 1 }
    else .ok scan

/-- The end of a request: `index` is that of the last page, else that of the cursor. -/
def conclude (query : SessionInventoryQuery) (now : Nat) (token : DashboardCursor)
    (cursors : InventoryCursors) (cursor : Option InventoryCursorRecord) (scan : Scan) :
    Except Failure (Reply × InventoryCursors) :=
  let limit := pageLimit enforcer query.limit
  match (scan.lastPage.map (·.index)).or (cursor.map (·.index)) with
  | none => .error (.error "dashboard inventory backend returned no page")
  | some index =>
    let bufferedSessions := (scan.sessions.take (limit + 1)).drop limit
    if bufferedSessions = [] then
      .ok (⟨⟨scan.sessions.take limit, none, index⟩, limit, scan.scans⟩, cursors)
    else
      .ok (⟨⟨scan.sessions.take limit, some token, index⟩, limit, scan.scans⟩,
        storeCursor enforcer token
          { principalId := principal.identityId
            queryFingerprint := inventoryQueryFingerprint query.filter
            backendCursor := scan.backendCursor
            bufferedSessions, index
            expiresAt := now + enforcer.cursorTtlMs } cursors)

/-- `during` is what the other requests do to the cursors while this one waits for the backend. -/
def listSessions (query : SessionInventoryQuery) (now : Nat) (token : DashboardCursor)
    (during : List CursorAction) (cursors : InventoryCursors) :
    Except Failure (Reply × InventoryCursors) := do
  let cursors := pruneCursors now cursors
  let cursor ← resumeCursor principal query now cursors
  let scan ← gather enforcer ledger principal query.filter (pageLimit enforcer query.limit + 1)
    enforcer.maxScanPages (startScan cursor)
  conclude enforcer principal query now token (interfere enforcer cursors during) cursor scan

/-! ## Following the cursors -/

/-- A request of a client that follows the cursors, and what other requests do in and after it. -/
structure Visit where
  limit : Option Nat
  now : Nat
  token : DashboardCursor
  during : List CursorAction
  after : List CursorAction

/-- What a client has been shown; `limit` and `scans` are those of the last request. -/
structure Listing where
  sessions : List SessionInventoryRecord
  nextCursor : Option DashboardCursor
  limit : Nat
  scans : Nat
  deriving DecidableEq

def follow (filter : SessionInventoryFilter) :
    List Visit → Option DashboardCursor → InventoryCursors → Except Failure Listing
  | [], cursor, _ => .ok ⟨[], cursor, 0, 0⟩
  | visit :: visits, cursor, cursors => do
    let (reply, cursors) ← listSessions enforcer ledger principal ⟨filter, visit.limit, cursor⟩
      visit.now visit.token visit.during cursors
    match reply.page.nextCursor with
    | none => .ok ⟨reply.page.sessions, none, reply.limit, reply.scans⟩
    | some next =>
      let listing ← follow filter visits (some next) (interfere enforcer cursors visit.after)
      .ok { listing with sessions := reply.page.sessions ++ listing.sessions }

end

/-! ## Inventories -/

/-- A backend whose own cursors page through `rows` completely. -/
structure Inventory (backend : DashboardBackend) (filter : SessionInventoryFilter)
    (maxItems : Nat) where
  rows : List SessionInventoryRecord
  /-- The rows from a cursor of the backend on. -/
  rest : Option DashboardCursor → Option (List SessionInventoryRecord)
  first : rest none = some rows
  serves : ∀ (cursor : Option DashboardCursor) (pending : List SessionInventoryRecord)
    (limit : Nat), rest cursor = some pending → 1 ≤ limit → limit ≤ maxItems →
    ∃ page left, backend ⟨filter, some limit, cursor⟩ = .ok page ∧
      page.sessions.length ≤ limit ∧ pending = page.sessions ++ left ∧
      (page.nextCursor = none → left = []) ∧
      ∀ next, page.nextCursor = some next → rest (some next) = some left ∧ page.sessions ≠ []

section
variable {enforcer} {ledger : Ledger} {principal : DashboardPrincipal}
variable {filter : SessionInventoryFilter}
variable (inventory : Inventory enforcer.backend filter enforcer.maxInventoryPageItems)

/-- What a scan has not seen yet. -/
def Pends (scan : Scan) (pending : List SessionInventoryRecord) : Prop :=
  if scan.backendExhausted = true then scan.backendCursor = none ∧ pending = []
  else inventory.rest scan.backendCursor = some pending

/-- The loop ends with the rows that it has scanned. -/
structure Gathers (ledger : Ledger) (principal : DashboardPrincipal) (target fuel : Nat)
    (scan : Scan) (pending : List SessionInventoryRecord) (scan' : Scan)
    (chunk pending' : List SessionInventoryRecord) : Prop where
  split : pending = chunk ++ pending'
  pends : Pends inventory scan' pending'
  sessions : scan'.sessions = scan.sessions ++
    chunk.filter (readable enforcer.authorization ledger principal)
  bounded : scan'.sessions.length ≤ target
  stopped : pending' = [] ∨ scan'.sessions.length = target ∨
    (scan'.scans = scan.scans + fuel ∧ fuel ≤ chunk.length)
  scanned : ((fuel = 0 ∨ scan.sessions.length = target ∨ scan.backendExhausted = true) ∧
      scan' = scan) ∨ (scan'.backendExhausted = scan'.backendCursor.isNone ∧ scan'.lastPage.isSome)

variable {token : DashboardCursor} {record : InventoryCursorRecord} {cursors : InventoryCursors}
  {pending : List SessionInventoryRecord} {cursor : Option DashboardCursor}

theorem Pends.nil_of_exhausted
    {inventory : Inventory enforcer.backend filter enforcer.maxInventoryPageItems} {scan : Scan}
    (h : Pends inventory scan pending) (hexhausted : scan.backendExhausted = true) :
    pending = [] := by
  rw [Pends, if_pos hexhausted] at h
  exact h.2

theorem serve {scan : Scan} {target : Nat} (hpends : Pends inventory scan pending)
    (hshort : scan.sessions.length < target) (hopen : scan.backendExhausted = false) :
    ∃ page left,
      enforcer.backend ⟨filter, some (min enforcer.maxInventoryPageItems
        (max 1 (target - scan.sessions.length))), scan.backendCursor⟩ = .ok page ∧
      pending = page.sessions ++ left ∧
      page.sessions.length ≤ target - scan.sessions.length ∧
      (page.nextCursor.isNone || page.sessions.isEmpty) = page.nextCursor.isNone ∧
      (page.nextCursor = none → left = []) ∧
      (page.nextCursor ≠ none → page.sessions ≠ []) ∧
      ∀ next, page.nextCursor = some next → inventory.rest (some next) = some left := by
  rw [Pends, if_neg (by rw [hopen]; exact Bool.false_ne_true)] at hpends
  have hpos := enforcer.pageItems_pos
  obtain ⟨page, left, hpage, _, hsplit, hend, hnext⟩ :=
    inventory.serves scan.backendCursor pending
      (min enforcer.maxInventoryPageItems (max 1 (target - scan.sessions.length))) hpends
      (by omega) (by omega)
  refine ⟨page, left, hpage, hsplit, by omega, ?_, hend, ?_, fun next h => (hnext next h).1⟩
  · cases hcursor : page.nextCursor with
    | none => rfl
    | some next =>
      have hsome := (hnext next hcursor).2
      cases hsessions : page.sessions with
      | nil => exact absurd hsessions hsome
      | cons => rfl
  · intro hcursor
    obtain ⟨next, hsome⟩ := ne_none_iff_exists'.mp hcursor
    exact (hnext next hsome).2

theorem gather_listed (ledger : Ledger) (principal : DashboardPrincipal) (target fuel : Nat)
    {scan : Scan} (hpends : Pends inventory scan pending) (hbounded : scan.sessions.length ≤ target) :
    ∃ scan' chunk pending',
      gather enforcer ledger principal filter target fuel scan = .ok scan' ∧
        Gathers inventory ledger principal target fuel scan pending scan' chunk pending' := by
  induction fuel generalizing scan pending with
  | zero =>
    refine ⟨scan, [], pending, rfl, rfl, hpends, ?_, hbounded, .inr (.inr ⟨rfl, Nat.le_refl _⟩),
      .inl ⟨.inl rfl, rfl⟩⟩
    rw [filter_nil, append_nil]
  | succ fuel ih =>
    rw [gather]
    split
    · rename_i hgo
      obtain ⟨page, left, hpage, hsplit, _, hempty, hend, hsome, hnext⟩ :=
        serve inventory hpends hgo.1 hgo.2
      rw [hpage]
      have hfiltered := length_filter_le (readable enforcer.authorization ledger principal)
        page.sessions
      have hpends' : Pends inventory
          { sessions := scan.sessions ++
              page.sessions.filter (readable enforcer.authorization ledger principal)
            backendCursor := page.nextCursor
            backendExhausted := page.nextCursor.isNone || page.sessions.isEmpty
            lastPage := some page, scans := scan.scans + 1 } left := by
        rw [hempty]
        cases hcursor : page.nextCursor with
        | none => exact ⟨rfl, hend hcursor⟩
        | some next => exact hnext next hcursor
      obtain ⟨scan', chunk, pending', hrun, h⟩ := ih hpends' (by
        simp only [length_append]
        omega)
      refine ⟨scan', page.sessions ++ chunk, pending', hrun, ?_, h.pends, ?_, h.bounded, ?_, ?_⟩
      · rw [hsplit, h.split, append_assoc]
      · rw [h.sessions, filter_append, append_assoc]
      · cases hcursor : page.nextCursor with
        | none =>
          have hnil := hend hcursor
          rw [h.split, append_eq_nil_iff] at hnil
          exact .inl hnil.2
        | some =>
          have hpos := length_pos_iff.mpr (hsome (by simp [hcursor]))
          rcases h.stopped with hnil | hfull | ⟨hscans, _⟩
          · exact .inl hnil
          · exact .inr (.inl hfull)
          · refine .inr (.inr ⟨?_, ?_⟩)
            · rw [hscans]
              simp only []
              omega
            · rw [length_append]
              omega
      · rcases h.scanned with ⟨-, rfl⟩ | hscanned
        · exact .inr ⟨hempty, rfl⟩
        · exact .inr hscanned
    · rename_i hstop
      have hdone : scan.sessions.length = target ∨ scan.backendExhausted = true := by
        by_cases hfull : scan.sessions.length = target
        · exact .inl hfull
        refine .inr ?_
        by_contra hopen
        exact hstop ⟨by omega, Bool.eq_false_iff.mpr hopen⟩
      refine ⟨scan, [], pending, rfl, rfl, hpends, ?_, hbounded, ?_, .inl ⟨.inr hdone, rfl⟩⟩
      · rw [filter_nil, append_nil]
      rcases hdone with hfull | hexhausted
      · exact .inr (.inl hfull)
      · exact .inl (hpends.nil_of_exhausted hexhausted)

/-! ## One request -/

/-- From this record a request goes on with these rows. -/
structure Continues (principal : DashboardPrincipal) (record : InventoryCursorRecord)
    (buffered pending : List SessionInventoryRecord) : Prop where
  principalId : record.principalId = principal.identityId
  fingerprint : record.queryFingerprint = inventoryQueryFingerprint filter
  sessions : record.bufferedSessions = buffered
  short : buffered.length ≤ 1
  pends : Pends inventory (startScan (some record)) pending

/-- A request at `now` with this cursor goes on with these rows. -/
inductive Stands (principal : DashboardPrincipal) (now : Nat) (cursors : InventoryCursors) :
    Option DashboardCursor → List SessionInventoryRecord → List SessionInventoryRecord → Prop
  | first : Stands principal now cursors none [] inventory.rows
  | next (token : DashboardCursor) (record : InventoryCursorRecord)
      (buffered pending : List SessionInventoryRecord) (hget : cursors.get? token = some record)
      (hfresh : now < record.expiresAt) (h : Continues inventory principal record buffered pending) :
      Stands principal now cursors (some token) buffered pending

theorem get?_prune {now : Nat} (hget : cursors.get? token = some record)
    (hfresh : now < record.expiresAt) : (pruneCursors now cursors).get? token = some record := by
  rw [pruneCursors, get?_filterValues, hget, filter_some]
  simp [hfresh]

theorem Stands.resumes
    {inventory : Inventory enforcer.backend filter enforcer.maxInventoryPageItems} {now : Nat}
    {buffered pending : List SessionInventoryRecord}
    (h : Stands inventory principal now cursors cursor buffered pending) (limit : Option Nat) :
    ∃ found, resumeCursor principal ⟨filter, limit, cursor⟩ now (pruneCursors now cursors) =
        .ok found ∧
      (startScan found).sessions = buffered ∧ buffered.length ≤ 1 ∧
      Pends inventory (startScan found) pending ∧ (startScan found).scans = 0 ∧
      (found = none ∨ (startScan found).backendExhausted =
        (startScan found).backendCursor.isNone) := by
  cases h with
  | first => exact ⟨none, rfl, rfl, Nat.zero_le 1, inventory.first, rfl, .inl rfl⟩
  | next token record buffered pending hget hfresh h =>
    refine ⟨some record, ?_, h.sessions, h.short, h.pends, rfl, .inr rfl⟩
    have hvalid : ¬ (record.expiresAt ≤ now ∨ record.principalId ≠ principal.identityId ∨
        record.queryFingerprint ≠ inventoryQueryFingerprint filter) := by
      simp [h.principalId, h.fingerprint, hfresh]
    simp only [resumeCursor, get?_prune hget hfresh, if_neg hvalid]

/-- What a request answers and leaves. -/
inductive Answers (principal : DashboardPrincipal) (ledger : Ledger) (limit now : Nat)
    (token : DashboardCursor) (held : InventoryCursors)
    (buffered pending : List SessionInventoryRecord) (reply : Reply) (cursors : InventoryCursors) :
    Prop
  | last (chunk left : List SessionInventoryRecord) (hsplit : pending = chunk ++ left)
      (hnext : reply.page.nextCursor = none)
      (hsessions : reply.page.sessions =
        buffered ++ chunk.filter (readable enforcer.authorization ledger principal))
      (hlimit : reply.limit = limit) (hlength : reply.page.sessions.length ≤ limit)
      (hstopped : left = [] ∨
        (reply.scans = enforcer.maxScanPages ∧ enforcer.maxScanPages ≤ chunk.length))
  | more (chunk left waiting : List SessionInventoryRecord) (record : InventoryCursorRecord)
      (hsplit : pending = chunk ++ left) (hnext : reply.page.nextCursor = some token)
      (hcursors : cursors = storeCursor enforcer token record held)
      (hexpires : record.expiresAt = now + enforcer.cursorTtlMs)
      (hrecord : Continues inventory principal record waiting left)
      (hsessions : reply.page.sessions ++ waiting =
        buffered ++ chunk.filter (readable enforcer.authorization ledger principal))
      (hlength : 1 ≤ reply.page.sessions.length)

theorem pageLimit_pos {limit : Option Nat} (hlimit : ∀ n, limit = some n → 1 ≤ n) :
    1 ≤ pageLimit enforcer limit := by
  have hpos := enforcer.pageItems_pos
  unfold pageLimit
  cases limit with
  | none =>
    rw [getD_none]
    omega
  | some n =>
    have := hlimit n rfl
    rw [getD_some]
    omega

theorem listSessions_answers (ledger : Ledger) {limit : Option Nat}
    (hlimit : ∀ n, limit = some n → 1 ≤ n) {now : Nat}
    {buffered pending : List SessionInventoryRecord}
    (h : Stands inventory principal now cursors cursor buffered pending) (token : DashboardCursor)
    (during : List CursorAction) :
    ∃ reply cursors',
      listSessions enforcer ledger principal ⟨filter, limit, cursor⟩ now token during cursors =
        .ok (reply, cursors') ∧
      Answers inventory principal ledger (pageLimit enforcer limit) now token
        (interfere enforcer (pruneCursors now cursors) during) buffered pending reply cursors' := by
  have hpos : 1 ≤ pageLimit enforcer limit := pageLimit_pos hlimit
  obtain ⟨found, hresume, hbuffered, _, hpends, hscans, _⟩ := h.resumes limit
  obtain ⟨scan', chunk, left, hgather, hgathers⟩ :=
    gather_listed inventory ledger principal (pageLimit enforcer limit + 1) enforcer.maxScanPages
      hpends (by rw [hbuffered]; omega)
  have hsome : ((scan'.lastPage.map (·.index)).or (found.map (·.index))).isSome := by
    rcases hgathers.scanned with ⟨hdone, -⟩ | ⟨-, hpage⟩
    · cases found with
      | some => simp
      | none =>
        have hscan := enforcer.scanPages_pos
        simp [startScan] at hdone
        omega
    · simp [hpage]
  obtain ⟨_, hindex⟩ := isSome_iff_exists.mp hsome
  have hrun : listSessions enforcer ledger principal ⟨filter, limit, cursor⟩ now token during
      cursors = conclude enforcer principal ⟨filter, limit, cursor⟩ now token
        (interfere enforcer (pruneCursors now cursors) during) found scan' := by
    simp only [listSessions, hresume, hgather, bind, Except.bind]
  rw [hrun, conclude]
  simp only [hindex]
  have hsessions := hgathers.sessions
  rw [hbuffered] at hsessions
  have hdrop : (scan'.sessions.take (pageLimit enforcer limit + 1)).drop
      (pageLimit enforcer limit) = scan'.sessions.drop (pageLimit enforcer limit) := by
    rw [take_of_length_le hgathers.bounded]
  rw [hdrop]
  split
  · rename_i hnil
    have hle := drop_eq_nil_iff.mp hnil
    have htake := take_of_length_le hle
    refine ⟨_, _, rfl, .last chunk left hgathers.split rfl ?_ rfl ?_ ?_⟩
    · exact htake.trans hsessions
    · exact length_take_le _ _
    · rcases hgathers.stopped with hnil | _ | ⟨hall, hchunk⟩
      · exact .inl hnil
      · omega
      · exact .inr ⟨by rw [hall, hscans, Nat.zero_add], hchunk⟩
  · rename_i hmore
    have hlong : pageLimit enforcer limit < scan'.sessions.length := by
      by_contra hle
      exact hmore (drop_eq_nil_of_le (by omega))
    have hlength : scan'.sessions.length = pageLimit enforcer limit + 1 := by
      have := hgathers.bounded
      omega
    have hsettled : scan'.backendExhausted = scan'.backendCursor.isNone := by
      rcases hgathers.scanned with ⟨-, rfl⟩ | ⟨hsettled, -⟩
      · rw [hbuffered] at hlength
        omega
      · exact hsettled
    have hpends' := hgathers.pends
    rw [Pends, hsettled] at hpends'
    refine ⟨_, _, rfl, .more chunk left (scan'.sessions.drop (pageLimit enforcer limit)) _
      hgathers.split rfl rfl rfl ⟨rfl, rfl, rfl, ?_, hpends'⟩ ?_ ?_⟩
    · rw [length_drop]
      omega
    · exact (take_append_drop _ _).trans hsessions
    · simp only [length_take]
      omega

/-! ## Keeping a cursor -/

def CursorAction.token? : CursorAction → Option DashboardCursor
  | .prune _ => none
  | .store token _ => some token

def stored (actions : List CursorAction) : List DashboardCursor :=
  actions.filterMap CursorAction.token?

/-- The clock of an action has not reached the time. -/
def CursorAction.isBefore (time : Nat) : CursorAction → Prop
  | .prune now => now < time
  | .store _ _ => True

theorem newer_prune_le (now : Nat) (cursors : InventoryCursors) (token : DashboardCursor) :
    (pruneCursors now cursors).newer token ≤ cursors.newer token :=
  newer_filterValues_le _ _ _

variable (enforcer) in
/-- Another request keeps a cursor that has not expired and is among the newest. -/
theorem get?_apply {action : CursorAction} (hget : cursors.get? token = some record)
    (hbefore : action.isBefore record.expiresAt) (hother : action.token? ≠ some token)
    (hnewer : cursors.newer token + (stored [action]).length ≤ enforcer.maxCursors) :
    (action.apply enforcer cursors).get? token = some record ∧
      (action.apply enforcer cursors).newer token ≤
        cursors.newer token + (stored [action]).length := by
  cases action with
  | prune now => exact ⟨get?_prune hget hbefore, newer_prune_le now cursors token⟩
  | store other record' =>
    have hne : other ≠ token := fun h => hother (congrArg some h)
    change cursors.newer token + 1 ≤ enforcer.maxCursors at hnewer
    have hless : cursors.newer token < enforcer.maxCursors := hnewer
    refine ⟨?_, ?_⟩
    · show ((cursors.evict enforcer.maxCursors).set other record').get? token = some record
      rw [get?_set_ne _ hne, get?_evict hless, hget]
    show ((cursors.evict enforcer.maxCursors).set other record').newer token ≤ _
    refine (newer_set_le _ hne record').trans_eq ?_
    rw [newer_evict hless]
    rfl

theorem get?_interfere {actions : List CursorAction} (hget : cursors.get? token = some record)
    (hbefore : ∀ action ∈ actions, action.isBefore record.expiresAt)
    (hother : token ∉ stored actions)
    (hnewer : cursors.newer token + (stored actions).length ≤ enforcer.maxCursors) :
    (interfere enforcer cursors actions).get? token = some record := by
  induction actions generalizing cursors with
  | nil => exact hget
  | cons action actions ih =>
    have hlength : (stored (action :: actions)).length =
        (stored [action]).length + (stored actions).length := by
      rw [← length_append, stored, stored, stored, ← filterMap_append]
      rfl
    have hne : action.token? ≠ some token := by
      intro h
      exact hother (mem_filterMap.mpr ⟨action, mem_cons_self, h⟩)
    have htail : token ∉ stored actions := by
      intro h
      obtain ⟨a, ha, htoken⟩ := mem_filterMap.mp h
      exact hother (mem_filterMap.mpr ⟨a, mem_cons_of_mem _ ha, htoken⟩)
    obtain ⟨hkept, _⟩ := get?_apply enforcer hget
      (hbefore action mem_cons_self) hne (by omega)
    exact ih hkept (fun a ha => hbefore a (mem_cons_of_mem _ ha)) htail (by omega)

theorem get?_store_none {token other : DashboardCursor} (hget : cursors.get? token = none)
    (hne : other ≠ token) : (storeCursor enforcer other record cursors).get? token = none :=
  (get?_set_ne _ hne record).trans (get?_evict_none _ hget)

theorem get?_prune_none (now : Nat) (hget : cursors.get? token = none) :
    (pruneCursors now cursors).get? token = none := by
  rw [pruneCursors, get?_filterValues, hget]
  rfl

theorem get?_interfere_none {actions : List CursorAction} (hget : cursors.get? token = none)
    (hother : token ∉ stored actions) : (interfere enforcer cursors actions).get? token = none := by
  induction actions generalizing cursors with
  | nil => exact hget
  | cons action actions ih =>
    cases action with
    | prune now => exact ih (get?_prune_none now hget) hother
    | store other =>
      have hne : other ≠ token ∧ token ∉ stored actions := by
        constructor
        · rintro rfl
          exact hother mem_cons_self
        · exact fun h => hother (mem_cons_of_mem _ h)
      exact ih (get?_store_none hget hne.1) hne.2

/-! ## The listing -/

def Visit.tokens (visit : Visit) : List DashboardCursor :=
  stored visit.during ++ visit.token :: stored visit.after

/-- `randomUUID` draws no token twice. -/
structure Drawn (cursors : InventoryCursors) (visits : List Visit) : Prop where
  nodup : (visits.flatMap Visit.tokens).Nodup
  fresh : ∀ token ∈ visits.flatMap Visit.tokens, cursors.get? token = none

/-- The cursor of a request is followed before it expires, and before too many others are
stored. -/
structure Prompt (enforcer : DashboardAuthorizationEnforcer) (visit next : Visit) : Prop where
  clock : next.now < visit.now + enforcer.cursorTtlMs
  actions : ∀ action ∈ visit.after, action.isBefore (visit.now + enforcer.cursorTtlMs)
  stores : (stored visit.after).length < enforcer.maxCursors

/-- A listing has ended after these rows. -/
structure Shows (enforcer : DashboardAuthorizationEnforcer) (ledger : Ledger)
    (principal : DashboardPrincipal) (buffered pending : List SessionInventoryRecord)
    (listing : Listing) (scanned left : List SessionInventoryRecord) : Prop where
  ended : listing.nextCursor = none
  split : pending = scanned ++ left
  sessions : listing.sessions =
    buffered ++ scanned.filter (readable enforcer.authorization ledger principal)
  /-- The last request has found too few rows in all the scans that it may make. -/
  stopped : left = [] ∨ (listing.scans = enforcer.maxScanPages ∧
    ∃ before stretch, scanned = before ++ stretch ∧ enforcer.maxScanPages ≤ stretch.length ∧
      (stretch.filter (readable enforcer.authorization ledger principal)).length ≤ listing.limit)

section
variable {cursors : InventoryCursors} {visit : Visit} {visits : List Visit}

section
variable (h : Drawn cursors (visit :: visits))
include h

variable (enforcer) in
theorem Drawn.held :
    (interfere enforcer (pruneCursors visit.now cursors) visit.during).get? visit.token = none := by
  have hnodup := (nodup_append.mp h.nodup).1
  refine get?_interfere_none (get?_prune_none _ (h.fresh _ ?_)) ?_
  · simp [Visit.tokens]
  · intro hmem
    exact (nodup_append.mp hnodup).2.2 _ hmem _ mem_cons_self rfl

theorem Drawn.token_after :
    visit.token ∉ stored visit.after := by
  have hnodup := (nodup_append.mp h.nodup).1
  exact (nodup_cons.mp (nodup_append.mp hnodup).2.1).1

/-- The tokens of later requests are fresh after this one. -/
theorem Drawn.tail (record : InventoryCursorRecord) :
    Drawn (interfere enforcer (storeCursor enforcer visit.token record
      (interfere enforcer (pruneCursors visit.now cursors) visit.during)) visit.after) visits := by
  have hnodup := nodup_append.mp h.nodup
  refine ⟨hnodup.2.1, fun token hmem => ?_⟩
  have hother : ∀ other ∈ visit.tokens, other ≠ token := fun other h' =>
    hnodup.2.2 other h' token hmem
  have hfresh := h.fresh token (mem_append_right _ hmem)
  refine get?_interfere_none (get?_store_none (get?_interfere_none (get?_prune_none _ hfresh) ?_) ?_) ?_
  · exact fun h' => hother token (mem_append_left _ h') rfl
  · exact hother visit.token (mem_append_right _ mem_cons_self)
  · exact fun h' => hother token (mem_append_right _ (mem_cons_of_mem _ h')) rfl

theorem Drawn.keeps {next : Visit}
    (hprompt : Prompt enforcer visit next) {record : InventoryCursorRecord}
    (hexpires : record.expiresAt = visit.now + enforcer.cursorTtlMs) :
    (interfere enforcer (storeCursor enforcer visit.token record
      (interfere enforcer (pruneCursors visit.now cursors) visit.during)) visit.after).get?
        visit.token = some record := by
  have hnewer := newer_set_self
    (get?_evict_none enforcer.maxCursors (h.held enforcer)) record
  refine get?_interfere (get?_set_self _ _ _) ?_ h.token_after ?_
  · rw [hexpires]
    exact hprompt.actions
  have := hprompt.stores
  rw [storeCursor]
  omega

end

end

theorem follow_shows {visits : List Visit} {buffered pending : List SessionInventoryRecord}
    (hlimits : ∀ visit ∈ visits, ∀ n, visit.limit = some n → 1 ≤ n)
    (hprompt : visits.IsChain (Prompt enforcer)) (hdrawn : Drawn cursors visits)
    (hstands : ∀ visit ∈ visits.head?,
      Stands inventory principal visit.now cursors cursor buffered pending)
    (hlong : buffered.length + pending.length < visits.length) :
    ∃ listing scanned left,
      follow enforcer ledger principal filter visits cursor cursors = .ok listing ∧
        Shows enforcer ledger principal buffered pending listing scanned left := by
  induction visits generalizing cursors cursor buffered pending with
  | nil => cases hlong
  | cons visit visits ih =>
    obtain ⟨reply, _, hreply, hanswers⟩ :=
      listSessions_answers inventory ledger (hlimits visit mem_cons_self)
        (hstands visit rfl) visit.token visit.during
    simp only [follow, hreply, bind, Except.bind]
    cases hanswers with
    | last chunk left hsplit hnext hsessions hlimit hlength hstopped =>
      rw [hnext]
      refine ⟨_, chunk, left, rfl, rfl, hsplit, hsessions, ?_⟩
      refine hstopped.imp_right fun hall => ⟨hall.1, [], chunk, rfl, hall.2, ?_⟩
      rw [hsessions, length_append] at hlength
      show _ ≤ reply.limit
      omega
    | more chunk left waiting record hsplit hnext hcursors hexpires hrecord hsessions =>
      rw [hnext, hcursors]
      have hcount := congrArg List.length hsessions
      have hfiltered := length_filter_le (readable enforcer.authorization ledger principal)
        chunk
      rw [length_append, length_append] at hcount
      rw [hsplit, length_append, length_cons] at hlong
      have hstands' : ∀ next ∈ visits.head?, Stands inventory principal next.now
          (interfere enforcer (storeCursor enforcer visit.token record
            (interfere enforcer (pruneCursors visit.now cursors) visit.during)) visit.after)
          (some visit.token) waiting left := by
        intro next hnext'
        have hpair : Prompt enforcer visit next := by
          cases visits with
          | nil => cases hnext'
          | cons =>
            cases hnext'
            exact (isChain_cons_cons.mp hprompt).1
        refine .next _ record _ _ (hdrawn.keeps hpair hexpires) ?_ hrecord
        rw [hexpires]
        exact hpair.clock
      obtain ⟨listing, scanned, left', hrun, hshows⟩ :=
        ih (fun v hmem => hlimits v (mem_cons_of_mem _ hmem)) hprompt.tail
          (hdrawn.tail record) hstands' (by omega)
      simp only [hrun]
      refine ⟨_, chunk ++ scanned, left', rfl, hshows.ended, ?_, ?_, ?_⟩
      · rw [hsplit, hshows.split, append_assoc]
      · calc reply.page.sessions ++ listing.sessions
            = (reply.page.sessions ++ waiting) ++
                scanned.filter (readable enforcer.authorization ledger principal) := by
              rw [hshows.sessions, append_assoc]
          _ = buffered ++ (chunk ++ scanned).filter
                (readable enforcer.authorization ledger principal) := by
              rw [hsessions, filter_append, append_assoc]
      · rcases hshows.stopped with hnil | ⟨hscans, before, stretch, hstretch, hmin, hfew⟩
        · exact .inl hnil
        · refine .inr ⟨hscans, chunk ++ before, stretch, ?_, hmin, hfew⟩
          rw [hstretch, append_assoc]

end

/-! ## A backend in memory -/

def plainIndex : SessionInventoryIndex := ⟨text "2026-01-01T00:00:00.000Z", none, false, false⟩

/-- The length of a cursor is the place of its next row. -/
def cursorPlace (cursor : Option DashboardCursor) : Nat := (cursor.map List.length).getD 0

def plainBackend (rows : List SessionInventoryRecord) : DashboardBackend := fun query =>
  let sessions := (rows.drop (cursorPlace query.cursor)).take (query.limit.getD 50)
  let next := cursorPlace query.cursor + sessions.length
  .ok ⟨sessions, if next < rows.length then some (List.replicate next 0x78) else none, plainIndex⟩

theorem plainBackend_serves {rows pending : List SessionInventoryRecord}
    (filter : SessionInventoryFilter) {cursor : Option DashboardCursor} {limit : Nat}
    (hrest : some (rows.drop (cursorPlace cursor)) = some pending) (hlimit : 1 ≤ limit) :
    ∃ page left, plainBackend rows ⟨filter, some limit, cursor⟩ = .ok page ∧
      page.sessions.length ≤ limit ∧ pending = page.sessions ++ left ∧
      (page.nextCursor = none → left = []) ∧
      ∀ next, page.nextCursor = some next →
        some (rows.drop (cursorPlace (some next))) = some left ∧ page.sessions ≠ [] := by
  cases hrest
  refine ⟨_, (rows.drop (cursorPlace cursor)).drop limit, rfl, length_take_le _ _,
    (take_append_drop _ _).symm, ?_, ?_⟩
  · intro hnone
    simp [cursorPlace] at hnone
    simp [cursorPlace]
    omega
  · intro next hsome
    simp only [getD_some, length_take, length_drop] at hsome
    obtain ⟨hmore, rfl⟩ := ite_some_none_eq_some.mp hsome
    refine ⟨?_, ?_⟩
    · congr 1
      simp [cursorPlace] at hmore ⊢
      congr 1
      omega
    · intro hnil
      have hzero := congrArg List.length hnil
      simp only [getD_some, length_take, length_drop, length_nil] at hzero
      omega

def plainInventory (rows : List SessionInventoryRecord) (filter : SessionInventoryFilter)
    (maxItems : Nat) : Inventory (plainBackend rows) filter maxItems where
  rows := rows
  rest cursor := some (rows.drop (cursorPlace cursor))
  first := rfl
  serves _ _ _ hrest hlimit _ := plainBackend_serves filter hrest hlimit

def plainRow (name : String) : SessionInventoryRecord :=
  ⟨text ("inventory-" ++ name), none, some (text name), none⟩

def noFilter : SessionInventoryFilter := ⟨none, none, none, none, none⟩

/-- An enforcer with the default limits. -/
def plainEnforcer (rows : List SessionInventoryRecord) : DashboardAuthorizationEnforcer where
  backend := plainBackend rows
  authorization := plainService
  maxInventoryPageItems := 100
  maxScanPages := 8
  maxCursors := 1024
  cursorTtlMs := 900000
  pageItems_pos := by decide
  scanPages_pos := by decide
  cursors_pos := by decide
  ttl_pos := by decide

/-- Alice owns the session `s1`. -/
def aliceLedger : Ledger :=
  reindexPolicies
    { emptyAuthorizationState with
      policies := [⟨managedSessionRef (text "s1"), text "alice", [], 1, plainTimestamp,
        plainTimestamp⟩] }

def plainVisit (n : Nat) : Visit := ⟨some 1, n, text "token" ++ List.replicate n 0x78, [], []⟩

def someRows : List SessionInventoryRecord := [plainRow "s0", plainRow "s1", plainRow "s2"]

def someVisits : List Visit := [plainVisit 0, plainVisit 1, plainVisit 2, plainVisit 3]

/-- Sixteen sessions that Alice may not read, and then the one that she owns. -/
def hiddenRows : List SessionInventoryRecord :=
  (List.replicate 16 (plainRow "s0")) ++ [plainRow "s1"]

end PiDaemon.Authorization
