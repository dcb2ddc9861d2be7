import PiDaemon.Durability.Loading

/-!
# What pruning keeps

Pruning drops the terminal entries of a session that are expired, and those with too many others
ahead of them: updated later, or in the same millisecond and standing earlier in the session.

* `mem_keepTerminal`: which terminal entries are kept;
* `prune_spec`: what a prune leaves of its session, of the others and of the index.
-/

namespace PiDaemon.Durability

open Lib List OrderedMap

namespace FileDurabilityStore

variable (store : FileDurabilityStore)

/-- The order of `newestFirst`. -/
def updatedLater (a b : JournalEntry) : Bool := (store.localeCompare b.updatedAt a.updatedAt).isLE

/-- How many terminal entries are ahead of an entry. -/
def place (entries : List JournalEntry) (entry : JournalEntry) : Nat :=
  (entries.filter fun e => isTerminal e.state).countP fun e =>
    ahead store.updatedLater JournalEntry.idempotencyKey (entries.filter fun e => isTerminal e.state) e entry

/-- The entry is terminal and within the limits of its session. -/
def Kept (now : Int) (entries : List JournalEntry) (entry : JournalEntry) : Prop :=
  store.place entries entry < store.maxTerminalEntries ∧ store.isFresh now entry = true

/-- The entry stays when its session is pruned. -/
def Stays (now : Int) (entries : List JournalEntry) (entry : JournalEntry) : Prop :=
  isTerminal entry.state = true → store.Kept now entries entry

instance (now : Int) (entries : List JournalEntry) (entry : JournalEntry) :
    Decidable (store.Kept now entries entry) :=
  inferInstanceAs (Decidable (_ ∧ _))

instance (now : Int) (entries : List JournalEntry) (entry : JournalEntry) :
    Decidable (store.Stays now entries entry) :=
  inferInstanceAs (Decidable (_ → _))

variable {store}

theorem eq_of_key_eq {entries : List JournalEntry} (hnodup : (entries.map JournalEntry.idempotencyKey).Nodup)
    {a b : JournalEntry} (ha : a ∈ entries) (hb : b ∈ entries) (hkey : a.idempotencyKey = b.idempotencyKey) :
    a = b :=
  inj_on_of_nodup_map hnodup ha hb hkey

section
variable [Std.TransCmp store.localeCompare]

variable (store) in
theorem updatedLater_trans (a b c : JournalEntry) (hab : store.updatedLater a b = true)
    (hbc : store.updatedLater b c = true) : store.updatedLater a c = true :=
  Std.TransCmp.isLE_trans hbc hab

variable (store) in
theorem updatedLater_total (a b : JournalEntry) : (store.updatedLater a b || store.updatedLater b a) = true := by
  have hswap : store.localeCompare b.updatedAt a.updatedAt = (store.localeCompare a.updatedAt b.updatedAt).swap :=
    Std.OrientedCmp.eq_swap
  rw [updatedLater, updatedLater, hswap]
  cases store.localeCompare a.updatedAt b.updatedAt <;> rfl

theorem mem_keepTerminal {now : Int} {entries : List JournalEntry}
    (hnodup : (entries.map JournalEntry.idempotencyKey).Nodup) {entry : JournalEntry} (hmem : entry ∈ entries)
    (hterminal : isTerminal entry.state = true) :
    entry.idempotencyKey ∈ store.keepTerminal now entries ↔ store.Kept now entries entry := by
  have hsub := (filter_sublist (l := entries) (p := fun e => isTerminal e.state))
  have hfilter : entry ∈ entries.filter fun e => isTerminal e.state := mem_filter.mpr ⟨hmem, hterminal⟩
  have htake := mem_take_stableSort store.updatedLater_trans store.updatedLater_total
    (hnodup.sublist (hsub.map JournalEntry.idempotencyKey)) hfilter store.maxTerminalEntries
  rw [Kept, place, ← htake]
  constructor
  · intro hkey
    obtain ⟨other, hother, heq⟩ := mem_map.mp hkey
    obtain ⟨hin, hfresh⟩ := mem_filter.mp hother
    have hmem' : other ∈ entries := hsub.subset (mem_stableSort.mp (mem_of_mem_take hin))
    obtain rfl := eq_of_key_eq hnodup hmem' hmem heq
    exact ⟨hin, hfresh⟩
  · rintro ⟨hin, hfresh⟩
    exact mem_map_of_mem (mem_filter.mpr ⟨hin, hfresh⟩)

theorem mem_retained_iff {now : Int} {entries : List JournalEntry}
    (hnodup : (entries.map JournalEntry.idempotencyKey).Nodup) {entry : JournalEntry} :
    entry ∈ store.retained now entries ↔ entry ∈ entries ∧ store.Stays now entries entry := by
  rw [retained, sortEntries, mem_stableSort, mem_filter]
  refine and_congr_right fun hmem => ?_
  rw [Stays, Bool.or_eq_true]
  cases hterminal : isTerminal entry.state with
  | false => simp
  | true => simp [mem_keepTerminal hnodup hmem hterminal]

end

variable (store) in
theorem retained_nodup (now : Int) {entries : List JournalEntry}
    (hnodup : (entries.map JournalEntry.idempotencyKey).Nodup) :
    ((store.retained now entries).map JournalEntry.idempotencyKey).Nodup := by
  refine (perm_stableSort.map JournalEntry.idempotencyKey).nodup_iff.mpr ?_
  exact hnodup.sublist (filter_sublist.map JournalEntry.idempotencyKey)

theorem mem_retained_of_length {now : Int} {entries : List JournalEntry}
    (h : entries.length - (store.retained now entries).length = 0) {entry : JournalEntry} (hmem : entry ∈ entries) :
    entry ∈ store.retained now entries := by
  rw [retained, sortEntries, length_stableSort] at h
  rw [retained, sortEntries, mem_stableSort]
  have hsub := filter_sublist (l := entries)
    (p := fun e => !isTerminal e.state || decide (e.idempotencyKey ∈ store.keepTerminal now entries))
  rw [hsub.eq_of_length_le (by omega)]
  exact hmem

variable (store) in
theorem placed_entryMap_retained (now : Int) {sessionId : JsString} {entries : SessionEntries}
    (h : Placed sessionId entries) : Placed sessionId (entryMap (store.retained now entries.values)) := by
  refine (Placed.empty sessionId).replay fun entry hentry => ?_
  exact (h.get?_of_mem (mem_of_mem_filter (mem_stableSort.mp hentry))).2

theorem get?_entryMap_retained [Std.TransCmp store.localeCompare] {now : Int} {sessionId : JsString}
    {entries : SessionEntries} (h : Placed sessionId entries) {k : JsString} {entry : JournalEntry} :
    (entryMap (store.retained now entries.values)).get? k = some entry ↔
      entries.get? k = some entry ∧ store.Stays now entries.values entry := by
  have hvalues := entryMap_values (store.retained_nodup now h.nodup)
  have hplaced := store.placed_entryMap_retained now h
  constructor
  · intro hget
    obtain ⟨hmem, hstays⟩ := (mem_retained_iff h.nodup).mp (hvalues ▸ mem_values_of_get? hget)
    refine ⟨?_, hstays⟩
    rw [← (hplaced k entry hget).2]
    exact (h.get?_of_mem hmem).1
  · rintro ⟨hget, hstays⟩
    have hmem := (mem_retained_iff h.nodup).mpr ⟨mem_values_of_get? hget, hstays⟩
    rw [← hvalues] at hmem
    rw [← (h k entry hget).2]
    exact (hplaced.get?_of_mem hmem).1

variable (store) in
theorem get?_foldl_deleteTickets (entries : List JournalEntry) (gone : JournalEntry → Bool)
    (index : OrderedMap JsString (JsString × JsString)) (ticketId : JsString) :
    (entries.foldl (fun index entry => if gone entry then index else index.delete (store.ticketOf entry)) index).get?
      ticketId =
      if entries.any fun entry => !gone entry && decide (store.ticketOf entry = ticketId) then none
      else index.get? ticketId := by
  induction entries generalizing index with
  | nil => rfl
  | cons entry rest ih =>
    rw [foldl_cons, ih, any_cons]
    cases hgone : gone entry with
    | true => simp
    | false =>
      by_cases hticket : store.ticketOf entry = ticketId
      · simp [hticket]
      · simp [hticket, get?_delete_ne]

/-! ## One prune -/

/-- A journal after its session `sessionId` has been pruned. -/
structure Pruned (store : FileDurabilityStore) (sessionId : JsString) (j j' : Journal) : Prop where
  entries : ∀ k entry, (entriesOf j' sessionId).get? k = some entry ↔
    (entriesOf j sessionId).get? k = some entry ∧
      store.Stays (store.now j.readings) (entriesOf j sessionId).values entry
  others : ∀ other, other ≠ sessionId → entriesOf j' other = entriesOf j other
  dropped : ∀ k entry, (entriesOf j sessionId).get? k = some entry →
    ¬ store.Stays (store.now j.readings) (entriesOf j sessionId).values entry →
      j'.ticketIndex.get? (store.ticketOf entry) = none
  index : ∀ ticketId p, j'.ticketIndex.get? ticketId = some p → j.ticketIndex.get? ticketId = some p
  readings : j'.readings = j.readings + 1
  loaded : j'.loadedSessions = j.loadedSessions
  scanned : j'.journalsScanned = j.journalsScanned
  sound : store.Sound j'

theorem prune_of_none [Std.TransCmp store.localeCompare] {sessionId : JsString} {j : Journal} (h : store.Sound j)
    (hnone : (entriesOf j sessionId).values.length -
      (store.retained (store.now j.readings) (entriesOf j sessionId).values).length = 0) :
    store.Pruned sessionId j (tick j) where
  entries k entry := by
    refine ⟨fun hget => ⟨hget, ?_⟩, And.left⟩
    exact ((mem_retained_iff (h.placed sessionId).nodup).mp
      (mem_retained_of_length hnone (mem_values_of_get? hget))).2
  others _ _ := rfl
  dropped k entry hget hstays := by
    refine absurd ?_ hstays
    exact ((mem_retained_iff (h.placed sessionId).nodup).mp
      (mem_retained_of_length hnone (mem_values_of_get? hget))).2
  index _ _ hget := hget
  readings := rfl
  loaded := rfl
  scanned := rfl
  sound := h.same rfl rfl rfl

/-- The journal that a prune leaves when it removes something. -/
def rewritten (store : FileDurabilityStore) (sessionId : JsString) (j : Journal) : Journal :=
  let retained := store.retained (store.now j.readings) (entriesOf j sessionId).values
  { tick j with
    directory := j.directory.set (journalPath sessionId) ⟨retained.map some, store.linesBytes retained⟩
    ticketIndex := (entriesOf j sessionId).values.foldl
      (fun index entry =>
        if retained.any fun candidate => candidate.idempotencyKey = entry.idempotencyKey then index
        else index.delete (store.ticketOf entry))
      j.ticketIndex
    entries := j.entries.set sessionId (entryMap retained) }

theorem prune_eq (sessionId : JsString) (j : Journal) :
    store.prune sessionId j =
      let removed := (entriesOf j sessionId).values.length -
        (store.retained (store.now j.readings) (entriesOf j sessionId).values).length
      if removed = 0 then .ok 0 (tick j) else .ok removed (store.rewritten sessionId j) :=
  rfl

theorem entriesOf_rewritten (sessionId other : JsString) (j : Journal) :
    entriesOf (store.rewritten sessionId j) other =
      if sessionId = other then entryMap (store.retained (store.now j.readings) (entriesOf j sessionId).values)
      else entriesOf j other :=
  entriesOf_set j sessionId other _

theorem any_key_iff {entries : List JournalEntry} (hnodup : (entries.map JournalEntry.idempotencyKey).Nodup)
    {kept : List JournalEntry} (hsub : ∀ e ∈ kept, e ∈ entries) {entry : JournalEntry} (hmem : entry ∈ entries) :
    (kept.any fun candidate => candidate.idempotencyKey = entry.idempotencyKey) = true ↔ entry ∈ kept := by
  rw [any_eq_true]
  constructor
  · rintro ⟨candidate, hcandidate, hkey⟩
    exact eq_of_key_eq hnodup (hsub candidate hcandidate) hmem (of_decide_eq_true hkey) ▸ hcandidate
  · exact fun hkept => ⟨entry, hkept, decide_eq_true rfl⟩

theorem prune_of_some [Std.TransCmp store.localeCompare] {sessionId : JsString} {j : Journal} (h : store.Sound j)
    (hchanged : ∃ entry, entry ∈ (entriesOf j sessionId).values) :
    store.Pruned sessionId j (store.rewritten sessionId j) := by
  have hplaced := h.placed sessionId
  have hnodup := hplaced.nodup
  have hretained (entry : JournalEntry) : entry ∈ store.retained (store.now j.readings) (entriesOf j sessionId).values ↔
      entry ∈ (entriesOf j sessionId).values ∧
        store.Stays (store.now j.readings) (entriesOf j sessionId).values entry :=
    mem_retained_iff hnodup
  have hsub : ∀ e ∈ store.retained (store.now j.readings) (entriesOf j sessionId).values,
      e ∈ (entriesOf j sessionId).values := fun e he => ((hretained e).mp he).1
  have hmap := store.placed_entryMap_retained (store.now j.readings) hplaced
  have hentries (k : JsString) (entry : JournalEntry) :
      (entryMap (store.retained (store.now j.readings) (entriesOf j sessionId).values)).get? k = some entry ↔
        (entriesOf j sessionId).get? k = some entry ∧
          store.Stays (store.now j.readings) (entriesOf j sessionId).values entry :=
    get?_entryMap_retained hplaced
  -- a ticket is deleted exactly when its entry is dropped
  have hindex (ticketId : JsString) := store.get?_foldl_deleteTickets (entriesOf j sessionId).values
    (fun entry => (store.retained (store.now j.readings) (entriesOf j sessionId).values).any
      fun candidate => candidate.idempotencyKey = entry.idempotencyKey) j.ticketIndex ticketId
  have hkeep (other k : JsString) (entry : JournalEntry)
      (hget : (entriesOf j other).get? k = some entry)
      (hstays : other = sessionId → store.Stays (store.now j.readings) (entriesOf j sessionId).values entry) :
      (store.rewritten sessionId j).ticketIndex.get? (wakeTicketId store.sha256 other k) = some (other, k) := by
    have hpair := h.indexed other k entry hget
    refine (hindex _).trans ?_
    rw [if_neg]
    · exact hpair
    intro hany
    obtain ⟨gone, hgone, hboth⟩ := any_eq_true.mp hany
    rw [Bool.and_eq_true, decide_eq_true_eq] at hboth
    obtain ⟨hnot, hticket⟩ := hboth
    obtain ⟨hgetgone, hid⟩ := hplaced.get?_of_mem hgone
    have hpair' := h.indexed sessionId gone.idempotencyKey gone hgetgone
    rw [ticketOf, hid] at hticket
    rw [hticket, hpair] at hpair'
    cases hpair'
    have hsame : gone = entry := Option.some.inj (hgetgone.symm.trans hget)
    subst hsame
    have hin := (hretained gone).mpr ⟨hgone, hstays rfl⟩
    rw [(any_key_iff hnodup hsub hgone).mpr hin] at hnot
    cases hnot
  refine ⟨?_, ?_, ?_, ?_, rfl, rfl, rfl, ?_, ?_, ?_⟩
  · intro k entry
    rw [entriesOf_rewritten, if_pos rfl]
    exact hentries k entry
  · intro other hne
    rw [entriesOf_rewritten, if_neg (Ne.symm hne)]
  · intro k entry hget hstays
    refine (hindex _).trans (if_pos ?_)
    have hmem := mem_values_of_get? hget
    refine any_eq_true.mpr ⟨entry, hmem, ?_⟩
    rw [Bool.and_eq_true, Bool.not_eq_true', decide_eq_true_eq]
    refine ⟨?_, rfl⟩
    rw [Bool.eq_false_iff]
    intro hany
    exact hstays ((hretained entry).mp ((any_key_iff hnodup hsub hmem).mp hany)).2
  · intro ticketId p hget
    have heq := (hindex ticketId).symm.trans hget
    split at heq
    · cases heq
    · exact heq
  · intro other
    rw [entriesOf_rewritten]
    split
    · rename_i heq
      exact heq ▸ hmap
    · exact h.placed other
  · intro other k entry hget
    rw [entriesOf_rewritten] at hget
    split at hget
    · rename_i heq
      subst heq
      obtain ⟨hold, hstays⟩ := (hentries k entry).mp hget
      exact hkeep sessionId k entry hold fun _ => hstays
    · rename_i hne
      exact hkeep other k entry hget fun heq => absurd heq.symm hne
  · intro other hhas
    obtain ⟨v, hget⟩ := has_iff.mp hhas
    refine h.loaded other (has_iff.mpr ?_)
    have hget : (j.entries.set sessionId _).get? other = some v := hget
    rw [get?_set] at hget
    split at hget
    · rename_i heq
      obtain ⟨entry, hentry⟩ := hchanged
      exact heq ▸ has_of_mem hentry
    · exact ⟨v, hget⟩

/-- **What a prune leaves.** -/
theorem prune_spec [Std.TransCmp store.localeCompare] {sessionId : JsString} {j : Journal} (h : store.Sound j) :
    ∃ removed j', store.prune sessionId j = .ok removed j' ∧ store.Pruned sessionId j j' := by
  rw [prune_eq]
  dsimp only
  split
  · rename_i hnone
    exact ⟨_, _, rfl, prune_of_none h hnone⟩
  rename_i hsome
  refine ⟨_, _, rfl, prune_of_some h (exists_mem_of_ne_nil _ fun hnil => hsome ?_)⟩
  rw [hnil]
  exact Nat.zero_sub _

variable (store) in
/-- What a prune leaves of its session, whatever the index holds. -/
theorem prune_entries [Std.TransCmp store.localeCompare] {sessionId : JsString} {j : Journal}
    (h : Placed sessionId (entriesOf j sessionId)) :
    ∃ removed j', store.prune sessionId j = .ok removed j' ∧ Placed sessionId (entriesOf j' sessionId) ∧
      (∀ k entry, (entriesOf j' sessionId).get? k = some entry ↔
        (entriesOf j sessionId).get? k = some entry ∧
          store.Stays (store.now j.readings) (entriesOf j sessionId).values entry) ∧
      j'.loadedSessions = j.loadedSessions := by
  rw [prune_eq]
  dsimp only
  split
  · rename_i hnone
    refine ⟨_, _, rfl, h, fun k entry => ⟨fun hget => ⟨hget, ?_⟩, And.left⟩, rfl⟩
    exact ((mem_retained_iff h.nodup).mp (mem_retained_of_length hnone (mem_values_of_get? hget))).2
  · refine ⟨_, _, rfl, ?_, fun k entry => ?_, rfl⟩
    · rw [entriesOf_rewritten, if_pos rfl]
      exact store.placed_entryMap_retained _ h
    · rw [entriesOf_rewritten, if_pos rfl]
      exact get?_entryMap_retained h

end FileDurabilityStore

end PiDaemon.Durability
