import PiDaemon.Lib.JsString
import PiDaemon.Lib.OrderedMap
import PiDaemon.Lib.Runs

/-!
# The registry of tool adapters

`HostToolAdapterRegistry`: one session for each session generation.  A call of `open` checks
the key, awaits `connect`, and goes on with the session; what closes a session before it goes
on finds the variable of the call unset.

* `Registered`: the registry and the sessions that have been returned agree;
* `registry_agrees`: so in every run whose calls go on with a session that is open, for a
  key that is free;
* `registry_disagrees`: runs that do otherwise.

The session of a call has the number of the call.
-/

namespace PiDaemon.ToolAdapter

open Lib OrderedMap List

/-- `descriptorKey` -/
structure BindingKey where
  hostInstanceId : JsString
  sessionId : JsString
  generation : Nat
  deriving DecidableEq

structure HostToolAdapterRegistry where
  sessions : OrderedMap BindingKey Nat
  disposed : Bool
  /-- The calls that await `connect`. -/
  connecting : OrderedMap Nat BindingKey
  /-- The calls whose session is bound, and that have not gone on. -/
  bound : OrderedMap Nat BindingKey
  /-- The sessions that `open` has returned. -/
  returned : OrderedMap Nat BindingKey
  /-- The sessions whose `closed` is true. -/
  closed : List Nat
  /-- The sessions whose `dispose` awaits its last write. -/
  disposing : List Nat
  nextCall : Nat

inductive RegistryEvent where
  | open (key : BindingKey)
  | connectFailed (call : Nat)
  /-- The adapter has answered to `bind`. -/
  | connected (call : Nat)
  /-- A call of `open` goes on after `connect`. -/
  | resume (call : Nat)
  /-- The connection of a session fails. -/
  | connectionClosed (id : Nat)
  /-- The holder of a session disposes it. -/
  | disposeSession (id : Nat)
  | sessionDisposed (id : Nat)
  | dispose
  deriving DecidableEq

namespace HostToolAdapterRegistry

def new : HostToolAdapterRegistry := ⟨.empty, false, .empty, .empty, .empty, [], [], 0⟩

def size (r : HostToolAdapterRegistry) : Nat := r.sessions.size

/-- The part of `open` before `connect`; `none` is a call that throws. -/
def beginOpen (r : HostToolAdapterRegistry) (key : BindingKey) : Option HostToolAdapterRegistry :=
  if r.disposed then none
  else if r.sessions.has key then none
  else some { r with connecting := r.connecting.set r.nextCall key, nextCall := r.nextCall + 1 }

/-- The part of `open` after `connect`. -/
def finishOpen (r : HostToolAdapterRegistry) (call : Nat) (key : BindingKey) :
    HostToolAdapterRegistry :=
  let r := { r with bound := r.bound.delete call }
  if r.disposed then { r with closed := call :: r.closed }
  else { r with sessions := r.sessions.set key call, returned := r.returned.set call key }

/-- The callback of a session: it knows the session once `open` has gone on. -/
def onClose (r : HostToolAdapterRegistry) (id : Nat) : HostToolAdapterRegistry :=
  match r.returned.get? id with
  | none => r
  | some key =>
    if r.sessions.get? key = some id then { r with sessions := r.sessions.delete key } else r

/-- The registry is disposed, and with it each session of the map. -/
def dispose (r : HostToolAdapterRegistry) : HostToolAdapterRegistry :=
  if r.disposed then r
  else { r with disposed := true, sessions := .empty, closed := r.sessions.values ++ r.closed }

end HostToolAdapterRegistry

open HostToolAdapterRegistry in
def registryStep (r : HostToolAdapterRegistry) : RegistryEvent → Option HostToolAdapterRegistry
  | .open key => some ((r.beginOpen key).getD r)
  | .connectFailed call => some { r with connecting := r.connecting.delete call }
  | .connected call =>
    (r.connecting.get? call).map fun key =>
      { r with connecting := r.connecting.delete call, bound := r.bound.set call key }
  | .resume call => (r.bound.get? call).map fun key => r.finishOpen call key
  | .connectionClosed id =>
    if r.bound.has id ∨ r.returned.has id then
      if id ∈ r.closed then some r else some (onClose { r with closed := id :: r.closed } id)
    else none
  | .disposeSession id =>
    if r.returned.has id then
      if id ∈ r.closed then some r
      else some { r with closed := id :: r.closed, disposing := id :: r.disposing }
    else none
  | .sessionDisposed id =>
    if id ∈ r.disposing then some (onClose { r with disposing := r.disposing.erase id } id) else none
  | .dispose => some r.dispose

namespace HostToolAdapterRegistry

/-! ## Runs -/

/-- The registry holds the sessions that have been returned and are not closed, and no others
but those whose `dispose` is not over. -/
structure Registered (r : HostToolAdapterRegistry) : Prop where
  opened : ∀ key id, r.sessions.get? key = some id → id ∈ r.closed → id ∈ r.disposing
  found : ∀ id key, r.returned.get? id = some key → id ∉ r.closed → r.sessions.get? key = some id
  returned : ∀ key id, r.sessions.get? key = some id → r.returned.get? id = some key

/-- The calls that are pending have numbers of their own. -/
structure RegistryInv (r : HostToolAdapterRegistry) : Prop extends Registered r where
  connecting : ∀ call, r.connecting.has call = true →
    call < r.nextCall ∧ r.bound.get? call = none ∧ r.returned.get? call = none
  bound : ∀ call, r.bound.has call = true → call < r.nextCall ∧ r.returned.get? call = none
  before : ∀ call, r.returned.has call = true → call < r.nextCall
  disposing : ∀ id ∈ r.disposing, id ∈ r.closed

section
variable {r t : HostToolAdapterRegistry}

theorem onClose_frame (r : HostToolAdapterRegistry) (id : Nat) :
    (r.onClose id).returned = r.returned ∧ (r.onClose id).closed = r.closed ∧
      (r.onClose id).disposing = r.disposing ∧ (r.onClose id).connecting = r.connecting ∧
      (r.onClose id).bound = r.bound ∧ (r.onClose id).nextCall = r.nextCall := by
  unfold onClose
  split
  · exact ⟨rfl, rfl, rfl, rfl, rfl, rfl⟩
  · split <;> exact ⟨rfl, rfl, rfl, rfl, rfl, rfl⟩

/-- The callback takes the session out of the registry, and nothing else. -/
theorem onClose_sessions (hreturned : ∀ key id, r.sessions.get? key = some id →
    r.returned.get? id = some key) (id : Nat) (key : BindingKey) (other : Nat) :
    (r.onClose id).sessions.get? key = some other ↔
      other ≠ id ∧ r.sessions.get? key = some other := by
  unfold onClose
  split
  · rename_i hnone
    refine ⟨fun hget => ⟨?_, hget⟩, And.right⟩
    rintro rfl
    rw [hreturned key other hget] at hnone
    cases hnone
  · rename_i own hown
    split
    · rename_i hmapped
      constructor
      · intro hget
        obtain ⟨hne, hget⟩ := get?_of_delete hget
        refine ⟨?_, hget⟩
        rintro rfl
        rw [hreturned key other hget] at hown
        exact hne (Option.some.inj hown).symm
      · rintro ⟨hne, hget⟩
        rw [get?_delete_ne, hget]
        rintro rfl
        rw [hmapped] at hget
        exact hne (Option.some.inj hget).symm
    · rename_i hunmapped
      refine ⟨fun hget => ⟨?_, hget⟩, And.right⟩
      rintro rfl
      have hkey := hreturned key other hget
      rw [hown] at hkey
      rw [← Option.some.inj hkey] at hget
      exact hunmapped hget

section
variable (h : RegistryInv r)
include h

theorem RegistryInv.of_calls (hregistered : Registered t)
    (hconnecting : t.connecting = r.connecting) (hbound : t.bound = r.bound)
    (hreturned : t.returned = r.returned) (hnextCall : t.nextCall = r.nextCall)
    (hdisposing : ∀ id ∈ t.disposing, id ∈ t.closed) : RegistryInv t := by
  refine ⟨hregistered, ?_, ?_, ?_, hdisposing⟩
  · rw [hconnecting, hbound, hreturned, hnextCall]
    exact h.connecting
  · rw [hbound, hreturned, hnextCall]
    exact h.bound
  · rw [hreturned, hnextCall]
    exact h.before

theorem RegistryInv.closing {id : Nat} {closed disposing : List Nat}
    (hopened : ∀ key other, r.sessions.get? key = some other → other ≠ id → other ∈ closed → other ∈ disposing)
    (hfound : ∀ other ∉ closed, other ≠ id ∧ other ∉ r.closed) (hclosed : ∀ other ∈ disposing, other ∈ closed) :
    RegistryInv (onClose { r with closed := closed, disposing := disposing } id) := by
  let u := { r with closed := closed, disposing := disposing }
  obtain ⟨hreturned, hclosed', hdisposing, hconnecting, hbound, hnextCall⟩ := onClose_frame u id
  have hsessions := onClose_sessions (r := u) h.returned id
  refine h.of_calls ⟨fun key other hget hmem => ?_, fun other key hget hnot => ?_,
    fun key other hget => ?_⟩ hconnecting hbound hreturned hnextCall fun other hother => ?_
  · obtain ⟨hne, hget⟩ := (hsessions key other).mp hget
    rw [hclosed'] at hmem
    rw [hdisposing]
    exact hopened key other hget hne hmem
  · rw [hreturned] at hget
    rw [hclosed'] at hnot
    obtain ⟨hne, hnot⟩ := hfound other hnot
    exact (hsessions key other).mpr ⟨hne, h.found other key hget hnot⟩
  · rw [hreturned]
    exact h.returned key other ((hsessions key other).mp hget).2
  · rw [hdisposing] at hother
    rw [hclosed']
    exact hclosed other hother

theorem RegistryInv.connectionClosed (id : Nat) :
    RegistryInv (onClose { r with closed := id :: r.closed } id) := by
  refine h.closing (fun key other hget hne hmem => ?_) (fun other hnot => ?_) fun other hother => ?_
  · exact h.opened key other hget ((mem_cons.mp hmem).resolve_left hne)
  · rwa [mem_cons, not_or] at hnot
  · exact mem_cons_of_mem _ (h.disposing other hother)

theorem RegistryInv.sessionDisposed {id : Nat} (hid : id ∈ r.disposing) :
    RegistryInv (onClose { r with disposing := r.disposing.erase id } id) := by
  refine h.closing (fun key other hget hne hmem => ?_) (fun other hnot => ⟨?_, hnot⟩) fun other hother => ?_
  · exact (mem_erase_of_ne hne).mpr (h.opened key other hget hmem)
  · rintro rfl
    exact hnot (h.disposing other hid)
  · exact h.disposing other (mem_of_mem_erase hother)

theorem RegistryInv.beginOpen {key : BindingKey}
    (hopen : r.beginOpen key = some t) : RegistryInv t := by
  obtain ⟨_, hopen⟩ := Option.ite_none_left_eq_some.mp hopen
  obtain ⟨_, hopen⟩ := Option.ite_none_left_eq_some.mp hopen
  cases hopen
  refine ⟨⟨h.opened, h.found, h.returned⟩, fun call hcall => ?_, fun call hcall => ?_,
    fun call hcall => Nat.lt_succ_of_lt (h.before call hcall), h.disposing⟩
  · by_cases heq : r.nextCall = call
    · subst heq
      refine ⟨Nat.lt_succ_self _, ?_, ?_⟩
      · apply has_eq_false.mp
        apply Bool.eq_false_iff.mpr
        exact fun hbound => absurd (h.bound _ hbound).1 (Nat.lt_irrefl _)
      · apply has_eq_false.mp
        apply Bool.eq_false_iff.mpr
        exact fun hreturned => absurd (h.before _ hreturned) (Nat.lt_irrefl _)
    · have hold : r.connecting.has call = true := by
        unfold OrderedMap.has at hcall ⊢
        rwa [get?_set_ne _ heq] at hcall
      obtain ⟨hlt, hrest⟩ := h.connecting call hold
      exact ⟨Nat.lt_succ_of_lt hlt, hrest⟩
  · obtain ⟨hlt, hrest⟩ := h.bound call hcall
    exact ⟨Nat.lt_succ_of_lt hlt, hrest⟩

theorem RegistryInv.connected {call : Nat} {key : BindingKey}
    (hget : r.connecting.get? call = some key) :
    RegistryInv { r with
      connecting := r.connecting.delete call
      bound := r.bound.set call key } := by
  obtain ⟨hlt, -, hreturned⟩ := h.connecting call (has_iff.mpr ⟨key, hget⟩)
  refine ⟨⟨h.opened, h.found, h.returned⟩, fun other hother => ?_, fun other hother => ?_, h.before,
    h.disposing⟩
  · obtain ⟨_, hother⟩ := has_iff.mp hother
    obtain ⟨hne, hother⟩ := get?_of_delete hother
    obtain ⟨hlt', hbound, hreturned'⟩ := h.connecting other (has_iff.mpr ⟨_, hother⟩)
    exact ⟨hlt', (get?_set_ne _ hne _).trans hbound, hreturned'⟩
  · by_cases heq : call = other
    · subst heq
      exact ⟨hlt, hreturned⟩
    unfold OrderedMap.has at hother
    rw [get?_set_ne _ heq] at hother
    exact h.bound other hother

theorem RegistryInv.finishOpen {call : Nat} {key : BindingKey}
    (hget : r.bound.get? call = some key)
    (hok : r.disposed = false → call ∉ r.closed ∧ r.sessions.get? key = none) :
    RegistryInv (r.finishOpen call key) := by
  obtain ⟨hlt, hnone⟩ := h.bound call (has_iff.mpr ⟨key, hget⟩)
  have hbound : ∀ other, (r.bound.delete call).has other = true →
      call ≠ other ∧ other < r.nextCall ∧ r.returned.get? other = none := by
    intro other hother
    obtain ⟨other', hother⟩ := has_iff.mp hother
    obtain ⟨hne, hother⟩ := get?_of_delete hother
    exact ⟨hne, h.bound other (has_iff.mpr ⟨other', hother⟩)⟩
  have hconnecting : ∀ other, r.connecting.has other = true →
      call ≠ other ∧ (r.bound.delete call).get? other = none := by
    intro other hother
    obtain ⟨-, hfree, -⟩ := h.connecting other hother
    have hne : call ≠ other := by
      rintro rfl
      rw [hget] at hfree
      cases hfree
    exact ⟨hne, (get?_delete_ne _ hne).trans hfree⟩
  unfold HostToolAdapterRegistry.finishOpen
  simp only
  split
  · -- The session is disposed, and is none of the map.
    refine ⟨⟨fun key' id hid hmem => ?_, fun id key' hid hnot => ?_, h.returned⟩, fun other hother => ?_,
      fun other hother => (hbound other hother).2, h.before, fun id hid => ?_⟩
    · apply h.opened key' id hid
      refine (mem_cons.mp hmem).resolve_left ?_
      rintro rfl
      rw [h.returned key' id hid] at hnone
      cases hnone
    · exact h.found id key' hid fun hmem => hnot (mem_cons_of_mem _ hmem)
    · obtain ⟨hlt', -, hreturned⟩ := h.connecting other hother
      exact ⟨hlt', (hconnecting other hother).2, hreturned⟩
    · exact mem_cons_of_mem _ (h.disposing id hid)
  · rename_i hlive
    obtain ⟨hopen, hfree⟩ := hok (by simpa using hlive)
    refine ⟨⟨fun key' id hid hmem => ?_, fun id key' hid hnot => ?_, fun key' id hid => ?_⟩,
      fun other hother => ?_, fun other hother => ?_, fun other hother => ?_, h.disposing⟩
    · rw [get?_set] at hid
      split at hid
      · cases hid
        exact absurd hmem hopen
      · exact h.opened key' id hid hmem
    · rw [get?_set] at hid
      split at hid
      · rename_i heq
        cases hid
        exact heq ▸ get?_set_self _ _ _
      · have hfound := h.found id key' hid hnot
        rw [get?_set_ne, hfound]
        rintro rfl
        rw [hfree] at hfound
        cases hfound
    · rw [get?_set] at hid
      split at hid
      · rename_i heq
        cases hid
        exact heq ▸ get?_set_self _ _ _
      · have hreturned := h.returned key' id hid
        rw [get?_set_ne, hreturned]
        rintro rfl
        rw [hreturned] at hnone
        cases hnone
    · obtain ⟨hlt', -, hreturned⟩ := h.connecting other hother
      obtain ⟨hne, hnone'⟩ := hconnecting other hother
      exact ⟨hlt', hnone', (get?_set_ne _ hne _).trans hreturned⟩
    · obtain ⟨hne, hlt', hreturned⟩ := hbound other hother
      exact ⟨hlt', (get?_set_ne _ hne _).trans hreturned⟩
    · by_cases heq : call = other
      · exact heq ▸ hlt
      unfold OrderedMap.has at hother
      rw [get?_set_ne _ heq] at hother
      exact h.before other hother

theorem RegistryInv.dispose : RegistryInv r.dispose := by
  unfold HostToolAdapterRegistry.dispose
  split
  · exact h
  refine h.of_calls ⟨by rintro key id ⟨⟩, fun id key hid hnot => ?_, by rintro key id ⟨⟩⟩ rfl rfl
    rfl rfl fun id hid => mem_append_right _ (h.disposing id hid)
  rw [mem_append, not_or] at hnot
  have hfound := h.found id key hid hnot.2
  exact absurd (mem_map.mpr ⟨(key, id), mem_entries.mpr hfound, rfl⟩) hnot.1

end

/-- A call goes on with a session that is open, for a key that is free. -/
def KeepsRegistered (r : HostToolAdapterRegistry) : RegistryEvent → Prop
  | .resume call => r.disposed = false → call ∉ r.closed ∧
      ∀ key ∈ r.bound.get? call, r.sessions.get? key = none
  | _ => True

theorem RegistryInv.step (h : RegistryInv r) {event : RegistryEvent} (hok : KeepsRegistered r event)
    (hstep : registryStep r event = some t) : RegistryInv t := by
  cases event with
  | «open» key =>
    cases hstep
    cases hopen : r.beginOpen key with
    | none => exact h
    | some => exact h.beginOpen hopen
  | connectFailed =>
    cases hstep
    refine ⟨⟨h.opened, h.found, h.returned⟩, fun other hother => ?_, h.bound, h.before, h.disposing⟩
    obtain ⟨key, hother⟩ := has_iff.mp hother
    exact h.connecting other (has_iff.mpr ⟨key, (get?_of_delete hother).2⟩)
  | connected =>
    obtain ⟨key, hget, rfl⟩ := Option.map_eq_some_iff.mp hstep
    exact h.connected hget
  | resume =>
    obtain ⟨key, hget, rfl⟩ := Option.map_eq_some_iff.mp hstep
    refine h.finishOpen hget fun hlive => ?_
    obtain ⟨hopen, hfree⟩ := hok hlive
    exact ⟨hopen, hfree key hget⟩
  | connectionClosed id =>
    obtain ⟨_, hstep⟩ := Option.ite_none_right_eq_some.mp hstep
    split at hstep
    · cases hstep
      exact h
    · cases hstep
      exact h.connectionClosed id
  | disposeSession =>
    obtain ⟨_, hstep⟩ := Option.ite_none_right_eq_some.mp hstep
    split at hstep
    · cases hstep
      exact h
    cases hstep
    refine h.of_calls ⟨fun key other hget hmem => ?_, fun other key hget hnot => ?_, h.returned⟩
      rfl rfl rfl rfl fun other hother => ?_
    · rcases mem_cons.mp hmem with rfl | hmem
      · exact mem_cons_self
      · exact mem_cons_of_mem _ (h.opened key other hget hmem)
    · exact h.found other key hget fun hmem => hnot (mem_cons_of_mem _ hmem)
    · rcases mem_cons.mp hother with rfl | hother
      · exact mem_cons_self
      · exact mem_cons_of_mem _ (h.disposing other hother)
  | sessionDisposed =>
    obtain ⟨hid, rfl⟩ := Option.ite_some_none_eq_some.mp hstep
    exact h.sessionDisposed hid
  | dispose =>
    cases hstep
    exact h.dispose

theorem registryInv_new : RegistryInv new := by
  refine ⟨⟨?_, ?_, ?_⟩, ?_, ?_, ?_, ?_⟩
  · rintro key id ⟨⟩
  · rintro id key ⟨⟩
  · rintro key id ⟨⟩
  · rintro call ⟨⟩
  · rintro call ⟨⟩
  · rintro call ⟨⟩
  · rintro id ⟨⟩

/-- Only the holder of a session begins to dispose it. -/
theorem step_disposing {event : RegistryEvent} (hevent : ∀ id, event ≠ .disposeSession id)
    (h : r.disposing = []) (hstep : registryStep r event = some t) : t.disposing = [] := by
  cases event with
  | «open» =>
    cases hstep
    unfold beginOpen
    split
    · exact h
    · split <;> exact h
  | connectFailed =>
    cases hstep
    exact h
  | connected =>
    obtain ⟨key, -, rfl⟩ := Option.map_eq_some_iff.mp hstep
    exact h
  | resume =>
    obtain ⟨key, -, rfl⟩ := Option.map_eq_some_iff.mp hstep
    unfold finishOpen
    simp only
    split <;> exact h
  | connectionClosed id =>
    obtain ⟨_, hstep⟩ := Option.ite_none_right_eq_some.mp hstep
    split at hstep
    · cases hstep
      exact h
    cases hstep
    obtain ⟨-, -, hdisposing, -⟩ := onClose_frame { r with closed := id :: r.closed } id
    exact hdisposing.trans h
  | disposeSession id => exact absurd rfl (hevent id)
  | sessionDisposed =>
    simp only [registryStep, h] at hstep
    cases hstep
  | dispose =>
    cases hstep
    unfold HostToolAdapterRegistry.dispose
    split <;> exact h

/-- The key of a session that is closed can be opened again. -/
theorem RegistryInv.reopens (h : RegistryInv r) (hlive : r.disposed = false) {key : BindingKey}
    (hclosed : ∀ id, r.returned.get? id = some key → id ∈ r.closed ∧ id ∉ r.disposing) :
    (r.beginOpen key).isSome = true := by
  have hfree : r.sessions.has key = false := by
    apply has_eq_false.mpr
    cases hget : r.sessions.get? key with
    | none => rfl
    | some id =>
      obtain ⟨hmem, hnot⟩ := hclosed id (h.returned key id hget)
      exact absurd (h.opened key id hget hmem) hnot
  simp [HostToolAdapterRegistry.beginOpen, hlive, hfree]

end

/-- **The registry.** In every run whose calls go on with open sessions for free keys, the
registry maps to no session that is closed, but those whose `dispose` is not over, and to each
session that has been returned and is not closed; so a key whose sessions are closed can be
opened again. -/
theorem registry_agrees (events : List RegistryEvent) {r : HostToolAdapterRegistry}
    (hrun : run registryStep new events = some r)
    (hok : Meets registryStep KeepsRegistered new events) :
    r.Registered ∧ ((∀ id, .disposeSession id ∉ events) → r.disposing = []) ∧
      ∀ key, r.disposed = false →
        (∀ id, r.returned.get? id = some key → id ∈ r.closed ∧ id ∉ r.disposing) →
          (r.beginOpen key).isSome = true := by
  have hinv : RegistryInv r := by
    apply run_invariant_of_meets _ registryInv_new hok hrun
    intro r event t h hmeets hstep
    exact h.step hmeets hstep
  refine ⟨hinv.toRegistered, fun hnone => ?_, fun key hlive hclosed => hinv.reopens hlive hclosed⟩
  have hevents : Meets registryStep (fun _ event => ∀ id, event ≠ .disposeSession id) new events := by
    apply meets_of_forall
    rintro event hmem r id rfl
    exact hnone id hmem
  have hkeep : ∀ (r : HostToolAdapterRegistry) event t, r.disposing = [] →
      (∀ id, event ≠ .disposeSession id) → registryStep r event = some t → t.disposing = [] :=
    fun r event t h hevent hstep => step_disposing hevent h hstep
  exact run_invariant_of_meets hkeep rfl hevents hrun

instance (r : HostToolAdapterRegistry) : (event : RegistryEvent) → Decidable (KeepsRegistered r event)
  | .resume call =>
    inferInstanceAs (Decidable (r.disposed = false → call ∉ r.closed ∧
      ∀ key ∈ r.bound.get? call, r.sessions.get? key = none))
  | .open _ | .connectFailed _ | .connected _ | .connectionClosed _ | .disposeSession _
  | .sessionDisposed _ | .dispose => .isTrue trivial

def firstKey : BindingKey := ⟨text "h", text "s", 1⟩

def secondKey : BindingKey := ⟨text "h", text "t", 1⟩

/-- A key is opened again after its session has been closed. -/
def openedAgain : List RegistryEvent :=
  [.open firstKey, .open secondKey, .connected 1, .connected 0, .resume 0, .resume 1,
    .connectionClosed 0, .open firstKey, .connected 2, .resume 2]

theorem registry_agrees_reopened :
    ∃ r, run registryStep new openedAgain = some r ∧
      r.sessions.get? firstKey = some 2 ∧ r.Registered := by
  exact exists_some_and (by decide +kernel) fun r hrun _ =>
    (registry_agrees openedAgain hrun (by decide +kernel)).1

/-- Two calls for one key leave the first session out of the registry, and a connection that
closes before its call goes on leaves the registry with a session that is closed. -/
theorem registry_disagrees :
    (run registryStep new [.open firstKey, .open firstKey, .connected 0, .connected 1, .resume 0,
      .resume 1]).any (fun r => r.returned.get? 0 = some firstKey ∧ 0 ∉ r.closed ∧
        r.sessions.get? firstKey ≠ some 0) = true ∧
    (run registryStep new [.open firstKey, .connected 0, .connectionClosed 0, .resume 0]).any
      (fun r => r.sessions.get? firstKey = some 0 ∧ 0 ∈ r.closed ∧ r.disposing = [] ∧
        (r.beginOpen firstKey).isNone) = true := by
  constructor
  · decide +kernel
  · decide +kernel

end HostToolAdapterRegistry

end PiDaemon.ToolAdapter
