import PiDaemon.Streams.Coordinator

/-!
# The bookkeeping of the coordinator

Every run whose steps are `Allowed` keeps `Booked`: a retained record has participants, and those
are the registered ones; the operations of a record form a chain; operations in progress on a
resource hold the same record; and the revision of a resource counts its completed changes.
-/

namespace PiDaemon.Streams

open Lib Authorization Heap OrderedMap List Option

variable {locale : Locale}

namespace Coordinator

/-! ## The invariant -/

def member (w : Coordinator) (k i : Nat) : Prop := i < w.tasks.next ∧ (w.tasks.cell i).record = k

def after (w : Coordinator) (i : Nat) : Option Nat := (w.tasks.cell i).after

def started (w : Coordinator) (i : Nat) : Prop := (w.tasks.cell i).stage ≠ .queued

def settled (w : Coordinator) (i : Nat) : Prop := (w.tasks.cell i).stage.isSettled = true

/-- The records and the operations. -/
structure Linked (w : Coordinator) : Prop where
  keyed : ∀ key k, w.resources.get? key = some k →
    k < w.records.next ∧ resourceKey (w.records.cell k).resource = key
  owned : ∀ i < w.tasks.next, (w.tasks.cell i).record < w.records.next
  chained : ∀ k < w.records.next,
    Chained (w.member k) w.after (w.records.cell k).tail w.started w.settled
  together : ∀ i < w.tasks.next, ∀ j < w.tasks.next, ¬ w.settled i → ¬ w.settled j →
    w.taskKey i = w.taskKey j → (w.tasks.cell i).record = (w.tasks.cell j).record
  counted : ∀ key, w.revision key = w.changes key

structure Booked (w : Coordinator) : Prop where
  linked : w.Linked
  populated : ∀ key k, w.resources.get? key = some k → (w.records.cell k).participants.size ≠ 0
  registered : ∀ participantId key, (participantId, key) ∈ w.registered ↔
    ∃ k, w.resources.get? key = some k ∧
      ((w.records.cell k).participants.get? participantId).isSome = true

theorem Linked.initial : Linked .initial where
  keyed _ _ h := by cases h
  owned _ h := absurd h (Nat.not_lt_zero _)
  chained _ h := absurd h (Nat.not_lt_zero _)
  together _ h := absurd h (Nat.not_lt_zero _)
  counted _ := rfl

theorem Booked.initial : Booked .initial where
  linked := Linked.initial
  populated _ _ h := by cases h
  registered _ _ := by
    constructor
    · intro h
      cases h
    · rintro ⟨_, h, _⟩
      cases h

/-! ## Frames -/

variable {w w' : Coordinator}

/-- What the operations and the records read of each other has not changed. -/
structure Frame (w w' : Coordinator) : Prop where
  resources : w'.resources = w.resources
  next : w'.records.next = w.records.next
  resource : ∀ k, (w'.records.cell k).resource = (w.records.cell k).resource
  tail : ∀ k, (w'.records.cell k).tail = (w.records.cell k).tail
  revision : ∀ k, (w'.records.cell k).revision = (w.records.cell k).revision
  tasks : w'.tasks = w.tasks
  completed : w'.completed = w.completed

theorem Frame.taskKey (hf : Frame w w') (i : Nat) : w'.taskKey i = w.taskKey i := by
  rw [Coordinator.taskKey, Coordinator.taskKey, hf.tasks, hf.resource]

theorem Linked.frame (h : Linked w) (hf : Frame w w') : Linked w' where
  keyed key k hget := by
    rw [hf.next, hf.resource]
    exact h.keyed key k (hf.resources ▸ hget)
  owned i hi := by
    rw [hf.next, hf.tasks]
    rw [hf.tasks] at hi
    exact h.owned i hi
  chained k hk := by
    rw [hf.next] at hk
    have hchain := h.chained k hk
    unfold member Coordinator.after started settled at hchain ⊢
    rw [hf.tasks, hf.tail]
    exact hchain
  together i hi j hj := by
    unfold settled
    rw [hf.taskKey, hf.taskKey, hf.tasks]
    rw [hf.tasks] at hi hj
    exact h.together i hi j hj
  counted key := by
    have hcounted := h.counted key
    unfold Coordinator.revision changes at hcounted ⊢
    rw [hf.resources, hf.completed, ← hcounted]
    cases w.resources.get? key with
    | none => rfl
    | some k => exact hf.revision k

theorem frame_participants (w : Coordinator) (k : Nat)
    (f : OrderedMap JsString ParticipantRecord → OrderedMap JsString ParticipantRecord)
    (registered : List (JsString × JsString)) :
    Frame w
      { w with
        records := w.records.modify k fun record =>
          { record with participants := f record.participants }
        registered } where
  resources := rfl
  next := rfl
  resource j := by
    simp only [cell_modify]
    split
    · rename_i heq
      rw [heq]
    · rfl
  tail j := by
    simp only [cell_modify]
    split
    · rename_i heq
      rw [heq]
    · rfl
  revision j := by
    simp only [cell_modify]
    split
    · rename_i heq
      rw [heq]
    · rfl
  tasks := rfl
  completed := rfl

/-! ## Registering and unregistering -/

variable {resource : DashboardResourceRef}

theorem create_of_find {k : Nat} (h : w.find resource = some k) :
    w.create resource = .ok (k, w) := by
  rw [create, h]

theorem Linked.create (h : Linked w) (hfind : w.find resource = none) :
    Linked
      { w with
        resources := w.resources.set (resourceKey resource) w.records.next
        records := w.records.alloc ⟨resource, 0, .empty, none⟩ } where
  keyed key k hget := by
    simp only [get?_set] at hget
    split at hget
    · rename_i heq
      cases hget
      refine ⟨Nat.lt_succ_self _, ?_⟩
      rw [cell_alloc_self]
      exact heq
    · obtain ⟨hlt, hkey⟩ := h.keyed key k hget
      refine ⟨Nat.lt_succ_of_lt hlt, ?_⟩
      rw [cell_alloc_lt _ hlt]
      exact hkey
  owned i hi := Nat.lt_succ_of_lt (h.owned i hi)
  chained k hk := by
    rcases Nat.lt_or_eq_of_le (Nat.lt_succ_iff.mp hk) with hlt | rfl
    · have hchain := h.chained k hlt
      rw [cell_alloc_lt _ hlt]
      exact hchain
    · rw [cell_alloc_self]
      refine Chained.nil fun i hi => ?_
      have := h.owned i hi.1
      rw [hi.2] at this
      exact Nat.lt_irrefl _ this
  together i hi j hj hsi hsj hkey := by
    unfold taskKey at hkey
    rw [cell_alloc_lt _ (h.owned i hi), cell_alloc_lt _ (h.owned j hj)] at hkey
    exact h.together i hi j hj hsi hsj hkey
  counted key := by
    have hcounted := h.counted key
    unfold Coordinator.revision changes at hcounted ⊢
    simp only [get?_set]
    split
    · rename_i heq
      subst heq
      rw [show w.resources.get? (resourceKey resource) = none from hfind] at hcounted
      rw [elim_some, cell_alloc_self]
      exact hcounted
    · rw [← hcounted]
      cases hget : w.resources.get? key with
      | none => rfl
      | some k =>
        rw [elim_some, elim_some, cell_alloc_lt _ (h.keyed key k hget).1]

theorem Linked.join (h : Linked w) (k : Nat) (participant : ParticipantRecord)
    (registered : List (JsString × JsString)) :
    Linked
      { w with
        records := w.records.modify k fun record =>
          { record with
            participants := record.participants.set participant.participantId participant }
        registered } :=
  h.frame (frame_participants w k (·.set participant.participantId participant) registered)

variable {participants : OrderedMap JsString ParticipantRecord}

theorem isSome_get?_set {participant : ParticipantRecord} {participantId : JsString} :
    ((participants.set participant.participantId participant).get? participantId).isSome = true ↔
      participantId = participant.participantId ∨
        (participants.get? participantId).isSome = true := by
  rw [get?_set]
  split
  · rename_i heq
    simp [heq]
  rename_i hne
  constructor
  · exact .inr
  rintro (rfl | hsome)
  · exact absurd rfl hne
  · exact hsome

/-- The step of `register`, once its record is there. -/
theorem join_populated {k : Nat} {resource : DashboardResourceRef}
    (participant : ParticipantRecord) (hlinked : w.Linked) (hfind : w.find resource = some k)
    (hpopulated : ∀ key j, w.resources.get? key = some j → j ≠ k →
      (w.records.cell j).participants.size ≠ 0)
    (hregistered : ∀ participantId key, (participantId, key) ∈ w.registered ↔
      ∃ j, w.resources.get? key = some j ∧
        ((w.records.cell j).participants.get? participantId).isSome = true) :
    Booked
      { w with
        records := w.records.modify k fun record =>
          { record with
            participants := record.participants.set participant.participantId participant }
        registered := (participant.participantId, resourceKey resource) :: w.registered } where
  linked := hlinked.join k participant _
  populated key j hget := by
    simp only [cell_modify]
    split
    · intro hzero
      have hnone := get?_of_size_eq_zero hzero participant.participantId
      rw [get?_set_self] at hnone
      cases hnone
    · rename_i hne
      exact hpopulated key j hget hne
  registered participantId key := by
    simp only [mem_cons, Prod.mk.injEq, hregistered, cell_modify]
    constructor
    · rintro (⟨rfl, rfl⟩ | ⟨j, hget, hsome⟩)
      · refine ⟨k, hfind, ?_⟩
        rw [if_pos rfl, isSome_get?_set]
        exact .inl rfl
      · refine ⟨j, hget, ?_⟩
        split
        · rename_i heq
          rw [isSome_get?_set]
          exact .inr (heq ▸ hsome)
        · exact hsome
    · rintro ⟨j, hget, hsome⟩
      split at hsome
      · rename_i heq
        rcases isSome_get?_set.mp hsome with rfl | hold
        · refine .inl ⟨rfl, ?_⟩
          rw [← (hlinked.keyed key j hget).2, heq]
          exact (hlinked.keyed _ k hfind).2
        · exact .inr ⟨j, hget, heq ▸ hold⟩
      · exact .inr ⟨j, hget, hsome⟩

theorem Booked.register (h : w.Booked) (resource : DashboardResourceRef)
    (participant : ParticipantRecord) :
    ((w.register resource participant).toOption.getD w).Booked := by
  unfold Coordinator.register
  cases hfind : w.find resource with
  | some =>
    rw [create_of_find hfind]
    simp only [bind, Except.bind]
    split
    · exact h
    · exact join_populated participant h.linked hfind (fun key j hget _ => h.populated key j hget)
        h.registered
  | none =>
    rw [create, hfind]
    simp only
    split
    · exact h
    simp only [bind, Except.bind]
    split
    · exact h
    have hlinked := h.linked.create hfind
    refine join_populated participant hlinked (get?_set_self _ _ _) ?_ ?_
    · intro key j hget hne
      simp only [get?_set] at hget
      split at hget
      · cases hget
        exact absurd rfl hne
      · rw [cell_alloc_lt _ (h.linked.keyed key j hget).1]
        exact h.populated key j hget
    · intro participantId key
      rw [h.registered]
      constructor
      · rintro ⟨j, hget, hsome⟩
        refine ⟨j, ?_, ?_⟩
        · rw [get?_set]
          split
          · rename_i heq
            rw [← heq] at hget
            cases hfind.symm.trans hget
          · exact hget
        · rw [cell_alloc_lt _ (h.linked.keyed key j hget).1]
          exact hsome
      · rintro ⟨j, hget, hsome⟩
        simp only [get?_set] at hget
        split at hget
        · cases hget
          rw [cell_alloc_self] at hsome
          cases hsome
        · rw [cell_alloc_lt _ (h.linked.keyed key j hget).1] at hsome
          exact ⟨j, hget, hsome⟩

theorem Linked.drop (h : Linked w) (resource : DashboardResourceRef) {k : Nat}
    (hfind : w.find resource = some k) (hrevision : (w.records.cell k).revision = 0) :
    Linked { w with resources := w.resources.delete (resourceKey resource) } where
  keyed key j hget := h.keyed key j (get?_of_delete hget).2
  owned := h.owned
  chained := h.chained
  together := h.together
  counted key := by
    have hcounted := h.counted key
    unfold Coordinator.revision changes at hcounted ⊢
    simp only [get?_delete]
    split
    · rename_i heq
      subst heq
      rw [show w.resources.get? (resourceKey resource) = some k from hfind, elim_some,
        hrevision] at hcounted
      exact hcounted
    · exact hcounted

theorem isSome_get?_delete {participantId other : JsString} :
    ((participants.delete participantId).get? other).isSome = true ↔
      other ≠ participantId ∧ (participants.get? other).isSome = true := by
  rw [get?_delete]
  split
  · rename_i heq
    simp [heq]
  · rename_i hne
    exact ⟨fun hsome => ⟨fun heq => hne heq.symm, hsome⟩, And.right⟩

theorem Booked.unregister (h : w.Booked) {participantId : JsString}
    (hallowed : w.Allowed (.unregister participantId resource)) :
    (w.unregister participantId resource).Booked := by
  unfold Coordinator.unregister
  cases hfind : w.find resource with
  | none => exact h
  | some k =>
    have hkey := (h.linked.keyed _ k hfind).2
    have hframe := frame_participants w k (·.delete participantId)
      (w.registered.filter (· ≠ (participantId, resourceKey resource)))
    have hmem : ∀ other key, (other, key) ∈ w.registered.filter
        (· ≠ (participantId, resourceKey resource)) ↔
          ∃ j, w.resources.get? key = some j ∧
            ((w.records.cell j).participants.get? other).isSome = true ∧
            (j = k → other ≠ participantId) := by
      intro other key
      rw [mem_filter, h.registered]
      constructor
      · rintro ⟨⟨j, hget, hsome⟩, hne⟩
        refine ⟨j, hget, hsome, ?_⟩
        rintro rfl rfl
        rw [← (h.linked.keyed key j hget).2, hkey] at hne
        simp at hne
      · rintro ⟨j, hget, hsome, hother⟩
        refine ⟨⟨j, hget, hsome⟩, decide_eq_true ?_⟩
        intro heq
        cases heq
        rw [show w.resources.get? (resourceKey resource) = some k from hfind] at hget
        cases hget
        exact hother rfl rfl
    have hcell : ∀ other j, (((w.records.modify k fun record =>
        { record with participants := record.participants.delete participantId }).cell
          j).participants.get? other).isSome = true ↔
          ((w.records.cell j).participants.get? other).isSome = true ∧
            (j = k → other ≠ participantId) := by
      intro other j
      rw [cell_modify]
      split
      · rename_i heq
        rw [isSome_get?_delete, heq]
        exact ⟨fun hother => ⟨hother.2, fun _ => hother.1⟩, fun hother => ⟨hother.2 rfl, hother.1⟩⟩
      · rename_i hne
        exact ⟨fun hsome => ⟨hsome, fun heq => absurd heq hne⟩, And.left⟩
    simp only [cell_modify_self]
    split
    · rename_i hempty
      have hrevision := hallowed k hfind hempty
      have hlinked := (h.linked.frame hframe).drop resource hfind
        ((hframe.revision k).trans hrevision)
      have hother : ∀ key j, (w.resources.delete (resourceKey resource)).get? key = some j ↔
          w.resources.get? key = some j ∧ j ≠ k := by
        intro key j
        rw [get?_delete]
        split
        · rename_i heq
          subst heq
          rw [show w.resources.get? (resourceKey resource) = some k from hfind]
          constructor
          · intro hget
            cases hget
          · rintro ⟨hget, hne⟩
            exact absurd (Option.some.inj hget).symm hne
        · rename_i hne
          refine ⟨fun hget => ⟨hget, ?_⟩, And.left⟩
          rintro rfl
          exact hne (hkey.symm.trans (h.linked.keyed key j hget).2)
      refine ⟨hlinked, fun key j hget => ?_, fun other key => (hmem other key).trans ?_⟩
      · obtain ⟨hget, hne⟩ := (hother key j).mp hget
        rw [cell_modify_ne _ hne]
        exact h.populated key j hget
      · simp only [hother, hcell]
        constructor
        · rintro ⟨j, hget, hsome, hleft⟩
          refine ⟨j, ⟨hget, ?_⟩, hsome, hleft⟩
          rintro rfl
          have hnone := get?_of_size_eq_zero hempty other
          have hstays := isSome_get?_delete.mpr ⟨hleft rfl, hsome⟩
          rw [hnone] at hstays
          cases hstays
        · rintro ⟨j, ⟨hget, _⟩, hsome, hleft⟩
          exact ⟨j, hget, hsome, hleft⟩
    · rename_i hsome
      refine ⟨h.linked.frame hframe, fun key j hget => ?_, fun other key => (hmem other key).trans ?_⟩
      · rw [cell_modify]
        split
        · exact hsome
        · exact h.populated key j hget
      · simp only [hcell]

/-! ## Operations -/

section
variable (w)

theorem enqueue_records (k : Nat) (operation : Operation) :
    (w.enqueue k operation).records =
      w.records.modify k fun record => { record with tail := some w.tasks.next } :=
  rfl

theorem enqueue_same (k : Nat) (operation : Operation) (j : Nat) :
    ((w.enqueue k operation).records.cell j).resource = (w.records.cell j).resource ∧
      ((w.enqueue k operation).records.cell j).revision = (w.records.cell j).revision ∧
      ((w.enqueue k operation).records.cell j).participants = (w.records.cell j).participants := by
  rw [enqueue_records]
  rw [cell_modify]
  split
  · rename_i heq
    rw [heq]
    exact ⟨rfl, rfl, rfl⟩
  · exact ⟨rfl, rfl, rfl⟩

@[simp] theorem enqueue_self (k : Nat) (operation : Operation) :
    (w.enqueue k operation).tasks.cell w.tasks.next =
      ⟨k, (w.records.cell k).tail, operation, .queued⟩ :=
  cell_alloc_self _ _

theorem enqueue_lt (k : Nat) (operation : Operation) {i : Nat} (hi : i < w.tasks.next) :
    (w.enqueue k operation).tasks.cell i = w.tasks.cell i :=
  cell_alloc_lt _ hi _

end

theorem enqueue_cases {operation : Operation} {k i : Nat}
    (hi : i < (w.enqueue k operation).tasks.next) : i < w.tasks.next ∨ i = w.tasks.next :=
  Nat.lt_or_eq_of_le (Nat.lt_succ_iff.mp hi)

theorem taskKey_enqueue {operation : Operation} {k i : Nat} (hi : i < w.tasks.next) :
    (w.enqueue k operation).taskKey i = w.taskKey i := by
  rw [taskKey, enqueue_lt w k operation hi, (enqueue_same w k operation _).1]
  rfl

theorem taskKey_enqueue_self (w : Coordinator) (operation : Operation) (k : Nat) :
    (w.enqueue k operation).taskKey w.tasks.next = resourceKey (w.records.cell k).resource := by
  rw [taskKey, enqueue_self, (enqueue_same w k operation _).1]

theorem member_enqueue {operation : Operation} {k j i : Nat} :
    (w.enqueue k operation).member j i ↔ w.member j i ∨ (i = w.tasks.next ∧ j = k) := by
  constructor
  · rintro ⟨hi, hrecord⟩
    rcases enqueue_cases hi with hlt | rfl
    · rw [enqueue_lt w k operation hlt] at hrecord
      exact .inl ⟨hlt, hrecord⟩
    · rw [enqueue_self] at hrecord
      exact .inr ⟨rfl, hrecord.symm⟩
  · rintro (⟨hlt, hrecord⟩ | ⟨rfl, rfl⟩)
    · exact ⟨Nat.lt_succ_of_lt hlt, by rw [enqueue_lt w k operation hlt, hrecord]⟩
    · exact ⟨Nat.lt_succ_self _, by rw [enqueue_self]⟩

/-- The chains once an operation has been linked behind a tail. -/
theorem Linked.chained_enqueue (h : Linked w) {k j : Nat} (hj : j < w.records.next)
    (operation : Operation) :
    Chained ((w.enqueue k operation).member j) (w.enqueue k operation).after
      ((w.enqueue k operation).records.cell j).tail (w.enqueue k operation).started
      (w.enqueue k operation).settled := by
  have hchain := h.chained j hj
  have hafter : ∀ i, w.member j i → (w.enqueue k operation).after i = w.after i := fun i hi => by
    rw [Coordinator.after, enqueue_lt w k operation hi.1]
    rfl
  have hstarted : ∀ i, w.member j i → ((w.enqueue k operation).started i ↔ w.started i) :=
    fun i hi => by
      rw [started, enqueue_lt w k operation hi.1]
      rfl
  have hsettled : ∀ i, w.member j i → ((w.enqueue k operation).settled i ↔ w.settled i) :=
    fun i hi => by
      rw [settled, enqueue_lt w k operation hi.1]
      rfl
  by_cases hjk : j = k
  · subst hjk
    refine hchain.link (n := w.tasks.next) (fun i => member_enqueue.trans (by simp))
      (fun i hi => hi.1) ?_ hafter ?_ ?_ ?_ hstarted hsettled
    · rw [Coordinator.after, enqueue_self]
    · rw [enqueue_records, cell_modify_self]
    · rw [started, enqueue_self]
      exact fun hne => hne rfl
    · rw [settled, enqueue_self]
      exact Bool.false_ne_true
  · refine hchain.advance (fun i => member_enqueue.trans (by simp [hjk])) hafter ?_
      (fun i hi hs => .inl ((hstarted i hi).mp hs)) (fun i hi hs => (hsettled i hi).mpr hs)
      (fun i hi hs => (hstarted i hi).mpr (hchain.settled_started i hi ((hsettled i hi).mp hs)))
    rw [enqueue_records, cell_modify_ne _ hjk]

theorem Linked.enqueue (h : Linked w) {k : Nat} (hfind : w.find resource = some k)
    (operation : Operation)
    (htogether : ∀ i < w.tasks.next, (w.tasks.cell i).stage.isSettled = false →
      w.taskKey i = resourceKey resource → (w.tasks.cell i).record = k) :
    (w.enqueue k operation).Linked := by
  obtain ⟨hlt, hkey⟩ := h.keyed _ k hfind
  have hbefore : ∀ i < w.tasks.next, ¬ (w.enqueue k operation).settled i →
      (w.enqueue k operation).taskKey i = (w.enqueue k operation).taskKey w.tasks.next →
        ((w.enqueue k operation).tasks.cell i).record =
          ((w.enqueue k operation).tasks.cell w.tasks.next).record := by
    intro i hi hopen htask
    rw [taskKey_enqueue hi, taskKey_enqueue_self, hkey] at htask
    rw [settled, enqueue_lt w k operation hi] at hopen
    rw [enqueue_lt w k operation hi, enqueue_self]
    exact htogether i hi (Bool.eq_false_iff.mpr hopen) htask
  refine ⟨fun key j hget => ?_, fun i hi => ?_, fun j hj => h.chained_enqueue hj operation,
    fun i hi j hj hsi hsj hsame => ?_, fun key => ?_⟩
  · rw [(enqueue_same w k operation j).1]
    exact h.keyed key j hget
  · rcases enqueue_cases hi with hold | rfl
    · rw [enqueue_lt w k operation hold]
      exact h.owned i hold
    · rw [enqueue_self]
      exact hlt
  · rcases enqueue_cases hi with hi | rfl
    · rcases enqueue_cases hj with hj | rfl
      · rw [taskKey_enqueue hi, taskKey_enqueue hj] at hsame
        rw [settled, enqueue_lt w k operation hi] at hsi
        rw [settled, enqueue_lt w k operation hj] at hsj
        rw [enqueue_lt w k operation hi, enqueue_lt w k operation hj]
        exact h.together i hi j hj hsi hsj hsame
      · exact hbefore i hi hsi hsame
    · rcases enqueue_cases hj with hj | rfl
      · exact (hbefore j hj hsj hsame.symm).symm
      · rfl
  · refine Eq.trans ?_ (h.counted key)
    unfold Coordinator.revision
    show (w.resources.get? key).elim 0 _ = _
    cases w.resources.get? key with
    | none => rfl
    | some j => exact (enqueue_same w k operation j).2.1

theorem Booked.call (h : w.Booked) {operation : Operation}
    (hallowed : w.Allowed (.call resource operation)) :
    ((w.call resource operation).toOption.getD w).Booked := by
  cases hfind : w.find resource with
  | none =>
    rcases hallowed.1 with happlies | hsome
    · cases operation with
      | applyIdentityRole =>
        simp only [Coordinator.call, hfind]
        exact h
      | requestControl | releaseControl => cases happlies
      | transfer =>
        cases happlies
    · rw [hfind] at hsome
      cases hsome
  | some k =>
    have hcall : w.call resource operation = .ok (w.enqueue k operation) := by
      unfold Coordinator.call
      rw [hfind]
      simp only [serialize, create_of_find hfind, bind, Except.bind]
    rw [hcall]
    refine ⟨h.linked.enqueue hfind operation (hallowed.2 k hfind), fun key j hget => ?_,
      fun participantId key => ?_⟩
    · show ((w.enqueue k operation).records.cell j).participants.size ≠ 0
      rw [(enqueue_same w k operation j).2.2]
      exact h.populated key j hget
    · show _ ↔ ∃ j, w.resources.get? key = some j ∧
        (((w.enqueue k operation).records.cell j).participants.get? participantId).isSome = true
      simp only [enqueue_same w k operation]
      exact h.registered participantId key

/-! ## The course of an operation -/

theorem revokeFrom_ne_queued (around : Surroundings) (participants : List ParticipantRecord) :
    revokeFrom around participants ≠ .queued := by
  induction participants with
  | nil =>
    exact Stage.noConfusion
  | cons participant rest ih =>
    rw [revokeFrom]
    split
    · exact Stage.noConfusion
    · exact ih

section
variable (w)

theorem begin_ne_queued (k : Nat) (around : Surroundings) (operation : Operation) :
    begin locale w k around operation ≠ .queued := by
  cases operation with
  | requestControl | releaseControl =>
    rw [begin]
    split <;> exact Stage.noConfusion
  | transfer =>
    rw [begin]
    split
    · exact Stage.noConfusion
    dsimp only
    split
    · exact Stage.noConfusion
    · exact Stage.noConfusion
    · split <;> exact Stage.noConfusion
  | applyIdentityRole identityId role =>
    cases role with
    | none => exact Stage.noConfusion
    | some role =>
      cases role with
      | read => exact revokeFrom_ne_queued around _
      | control => exact Stage.noConfusion
      | admin => exact Stage.noConfusion

theorem resume_ne_queued (k : Nat) (around : Surroundings) (next : Next) (settlement : Settlement) :
    resume locale w k around next settlement ≠ .queued := by
  cases next with
  | answer => cases settlement <;> exact Stage.noConfusion
  | handover | grant =>
    cases settlement with
    | fulfilled =>
      rw [resume]
      split <;> exact Stage.noConfusion
    | rejected => exact Stage.noConfusion
  | revoke participant rest =>
    rw [resume]
    split
    · exact revokeFrom_ne_queued around rest
    · exact Stage.noConfusion
  | closed rest =>
    cases settlement with
    | fulfilled => exact revokeFrom_ne_queued around rest
    | rejected => exact Stage.noConfusion
  | closedAll => exact Stage.noConfusion

theorem cell_setStage (i j : Nat) (stage : Stage) :
    ((w.setStage i stage).tasks.cell j).record = (w.tasks.cell j).record ∧
      ((w.setStage i stage).tasks.cell j).after = (w.tasks.cell j).after ∧
      ((w.setStage i stage).tasks.cell j).stage = if j = i then stage else (w.tasks.cell j).stage := by
  rw [setStage]
  rw [cell_modify]
  split
  · rename_i heq
    rw [heq]
    exact ⟨rfl, rfl, rfl⟩
  · exact ⟨rfl, rfl, rfl⟩

theorem taskKey_setStage (i j : Nat) (stage : Stage) :
    (w.setStage i stage).taskKey j = w.taskKey j := by
  rw [taskKey, (cell_setStage w i j stage).1]
  rfl

end

theorem Linked.setStage (h : Linked w) {i : Nat} {stage : Stage}
    (hopen : (w.tasks.cell i).stage.isSettled = false)
    (hstart : (w.tasks.cell i).stage ≠ .queued ∨ w.isReady i = true) (hstage : stage ≠ .queued) :
    (w.setStage i stage).Linked where
  keyed := h.keyed
  owned j hj := by
    rw [(cell_setStage w i j stage).1]
    exact h.owned j hj
  chained k hk := by
    refine (h.chained k hk).advance (fun j => ?_) (fun j _ => (cell_setStage w i j stage).2.1) rfl
      (fun j _ hs => ?_) (fun j _ hs => ?_) (fun j hj hs => ?_)
    · rw [member, (cell_setStage w i j stage).1]
      rfl
    · rw [started, (cell_setStage w i j stage).2.2] at hs
      split at hs
      · rename_i heq
        subst heq
        refine hstart.imp id fun hready => ?_
        cases hafter : (w.tasks.cell j).after with
        | none => exact .inl hafter
        | some p =>
          rw [isReady, hafter] at hready
          exact .inr ⟨p, hafter, hready⟩
      · exact .inl hs
    · rw [settled, (cell_setStage w i j stage).2.2]
      split
      · rename_i heq
        subst heq
        rw [settled, hopen] at hs
        cases hs
      · exact hs
    · rw [settled, (cell_setStage w i j stage).2.2] at hs
      rw [started, (cell_setStage w i j stage).2.2]
      split
      · exact hstage
      rename_i hne
      rw [if_neg hne] at hs
      exact (h.chained k hk).settled_started j
        hj hs
  together j hj j' hj' hsj hsj' hsame := by
    have hkeep : ∀ n, ¬ (w.setStage i stage).settled n → ¬ w.settled n := by
      intro n hn hs
      rw [settled, (cell_setStage w i n stage).2.2] at hn
      split at hn
      · rename_i heq
        subst heq
        rw [settled, hopen] at hs
        cases hs
      · exact hn hs
    rw [taskKey_setStage, taskKey_setStage] at hsame
    rw [(cell_setStage w i j stage).1, (cell_setStage w i j' stage).1]
    exact h.together j hj j' hj' (hkeep j hsj) (hkeep j' hsj') hsame
  counted := h.counted

theorem Booked.setStage (h : w.Booked) {i : Nat} {stage : Stage}
    (hopen : (w.tasks.cell i).stage.isSettled = false)
    (hstart : (w.tasks.cell i).stage ≠ .queued ∨ w.isReady i = true) (hstage : stage ≠ .queued) :
    (w.setStage i stage).Booked :=
  ⟨h.linked.setStage hopen hstart hstage, h.populated, h.registered⟩

theorem cell_count (w : Coordinator) (i j : Nat) :
    ((w.count i).records.cell j).resource = (w.records.cell j).resource ∧
      ((w.count i).records.cell j).tail = (w.records.cell j).tail ∧
      ((w.count i).records.cell j).participants = (w.records.cell j).participants ∧
      ((w.count i).records.cell j).revision =
        (w.records.cell j).revision + if j = (w.tasks.cell i).record then 1 else 0 := by
  rw [count]
  rw [cell_modify]
  split
  · rename_i heq
    rw [heq]
    exact ⟨rfl, rfl, rfl, rfl⟩
  · exact ⟨rfl, rfl, rfl, rfl⟩

theorem taskKey_count (w : Coordinator) (i j : Nat) : (w.count i).taskKey j = w.taskKey j := by
  rw [taskKey, (cell_count w i _).1]
  rfl

theorem Linked.count (h : Linked w) {i : Nat}
    (hget : w.resources.get? (w.taskKey i) = some (w.tasks.cell i).record) :
    (w.count i).Linked where
  keyed key k hk := by
    rw [(cell_count w i k).1]
    exact h.keyed key k hk
  owned := h.owned
  chained k hk := by
    rw [(cell_count w i k).2.1]
    exact h.chained k hk
  together j hj j' hj' hsj hsj' hsame := by
    rw [taskKey_count, taskKey_count] at hsame
    exact h.together j hj j' hj' hsj hsj' hsame
  counted key := by
    have hcounted := h.counted key
    have hchanges : (w.count i).changes key =
        w.changes key + if w.taskKey i = key then 1 else 0 := by
      show (w.taskKey i :: w.completed).count key = _
      rw [count_cons]
      simp [changes]
    rw [hchanges, ← hcounted]
    unfold Coordinator.revision
    show (w.resources.get? key).elim 0 _ = _
    by_cases hkey : w.taskKey i = key
    · subst hkey
      rw [hget, if_pos rfl, elim_some, elim_some, (cell_count w i _).2.2.2, if_pos rfl]
    rw [if_neg hkey]
    cases hfind : w.resources.get? key with
    | none => rfl
    | some k =>
      have hne : k ≠ (w.tasks.cell i).record := by
        rintro rfl
        exact hkey (h.keyed key _ hfind).2
      rw [elim_some, elim_some, (cell_count w i k).2.2.2, if_neg hne]

theorem Booked.count (h : w.Booked) {i : Nat}
    (hget : w.resources.get? (w.taskKey i) = some (w.tasks.cell i).record) :
    (w.count i).Booked := by
  refine ⟨h.linked.count hget, fun key k hk => ?_, fun participantId key => ?_⟩
  · rw [(cell_count w i k).2.2.1]
    exact h.populated key k hk
  show _ ↔ ∃ k, w.resources.get? key = some k ∧
    (((w.count i).records.cell k).participants.get? participantId).isSome = true
  simp only [cell_count w i]
  exact h.registered participantId key

/-! ## Runs -/

/-- **Bookkeeping**, step by step. -/
theorem Booked.step (h : w.Booked) {event : Event} (hallowed : w.Allowed event)
    (hstep : w.step locale event = some w') : w'.Booked := by
  cases event with
  | register resource participant =>
    obtain ⟨_, rfl⟩ := ite_some_none_eq_some.mp hstep
    exact h.register resource participant
  | unregister =>
    cases hstep
    exact h.unregister hallowed
  | call =>
    cases hstep
    exact h.call hallowed
  | start =>
    obtain ⟨hready, rfl⟩ := ite_some_none_eq_some.mp hstep
    refine h.setStage ?_ (.inr hready.2.2) (begin_ne_queued _ _ _ _)
    rw [hready.2.1]
    rfl
  | answer i settlement =>
    obtain ⟨_, hstep⟩ := ite_none_right_eq_some.mp hstep
    cases hstage : (w.tasks.cell i).stage with
    | queued | settled =>
      rw [hstage] at hstep
      cases hstep
    | waiting callbacks next =>
      rw [hstage] at hstep
      cases hstep
      have hcompletes : w.completes i settlement = next.counts settlement := by
        rw [completes, hstage]
      have hwaiting : (w.tasks.cell i).stage ≠ .queued := by
        rw [hstage]
        exact Stage.noConfusion
      have hopen : (w.tasks.cell i).stage.isSettled = false := by
        rw [hstage]
        rfl
      split
      · rename_i hcounts
        have hget := hallowed (hcompletes.trans hcounts)
        exact (h.count hget).setStage hopen (.inl hwaiting) (resume_ne_queued _ _ _ _ _)
      · exact h.setStage hopen (.inl hwaiting) (resume_ne_queued _ _ _ _ _)

theorem completed_create {k : Nat} (h : w.create resource = .ok (k, w')) :
    w'.completed = w.completed := by
  unfold create at h
  split at h
  · cases h
    rfl
  split at h
  · cases h
  · cases h
    rfl

section
variable (w)

section
variable (resource)

theorem completed_register (participant : ParticipantRecord) :
    ((w.register resource participant).toOption.getD w).completed = w.completed := by
  unfold Coordinator.register
  cases hcreate : w.create resource with
  | error => rfl
  | ok created =>
    obtain ⟨k, w'⟩ := created
    simp only [bind, Except.bind]
    split
    · rfl
    · show w'.completed = w.completed
      exact completed_create hcreate

theorem completed_call (operation : Operation) :
    ((w.call resource operation).toOption.getD w).completed = w.completed := by
  unfold Coordinator.call
  split
  · rfl
  rw [serialize]
  cases hcreate : w.create resource with
  | error => rfl
  | ok created =>
    obtain ⟨k, w'⟩ := created
    show w'.completed = w.completed
    exact completed_create hcreate

end

theorem completed_unregister (participantId : JsString) (resource : DashboardResourceRef) :
    (w.unregister participantId resource).completed = w.completed := by
  unfold Coordinator.unregister
  split <;> rfl

end

/-- The completed changes are a history. -/
theorem completed_step {event : Event} (hstep : w.step locale event = some w') :
    w.completed <:+ w'.completed := by
  cases event with
  | register =>
    obtain ⟨_, rfl⟩ := ite_some_none_eq_some.mp hstep
    exact (completed_register ..).symm ▸ suffix_refl _
  | unregister =>
    cases hstep
    exact (completed_unregister ..).symm ▸ suffix_refl _
  | call =>
    cases hstep
    exact (completed_call ..).symm ▸ suffix_refl _
  | start =>
    obtain ⟨_, rfl⟩ := ite_some_none_eq_some.mp hstep
    exact suffix_refl _
  | answer =>
    obtain ⟨_, hstep⟩ := ite_none_right_eq_some.mp hstep
    split at hstep
    · cases hstep
      split
      · exact suffix_cons _ _
      · exact suffix_refl _
    · cases hstep

theorem Booked.kept (h : w.Booked) : w.Kept := by
  have hlive : ∀ key, w.resources.has key = true ↔ key ∈ w.live := by
    intro key
    rw [has_iff, live, mem_dedup, List.mem_map]
    constructor
    · rintro ⟨k, hget⟩
      obtain ⟨participantId, participant, hsome⟩ :=
        exists_of_size_ne_zero (h.populated key k hget)
      exact ⟨(participantId, key), (h.registered participantId key).mpr
        ⟨k, hget, isSome_iff_exists.mpr ⟨participant, hsome⟩⟩, rfl⟩
    · rintro ⟨⟨participantId, key'⟩, hmem, rfl⟩
      obtain ⟨k, hget, _⟩ := (h.registered participantId key').mp hmem
      exact ⟨k, hget⟩
  refine ⟨fun _ => hlive, fun _ => ?_, fun i j hi hj hkey => ?_⟩
  · have hsub : w.resources.keys ⊆ w.live := by
      intro key hmem
      obtain ⟨⟨key', k⟩, hentry, rfl⟩ := List.mem_map.mp hmem
      exact (hlive key').mp (has_iff.mpr ⟨k, mem_entries.mp hentry⟩)
    have hlength := (subperm_of_subset w.resources.nodup hsub).length_le
    exact (length_map _).symm.trans_le hlength
  · have hnot : ∀ {n}, w.isRunning n → ¬ w.settled n := by
      intro n hn hs
      rw [settled, hn.2.2] at hs
      cases hs
    have hrecord := h.linked.together i hi.1 j hj.1 (hnot hi) (hnot hj) hkey
    exact (h.linked.chained _ (h.linked.owned i hi.1)).exclusive ⟨hi.1, rfl⟩ ⟨hj.1, hrecord.symm⟩
      hi.2.1 hj.2.1 (hnot hi) (hnot hj)

end Coordinator

/-- **Bookkeeping**, in every run whose steps are allowed: a revision that is seen again has seen
every completed change. -/
theorem coordinator_kept (locale : Locale) (earlier later : List Event) (w w' : Coordinator)
    (hmeets : Meets (Coordinator.step locale) Coordinator.Allowed .initial (earlier ++ later))
    (hearlier : run (Coordinator.step locale) .initial earlier = some w)
    (hlater : run (Coordinator.step locale) w later = some w') :
    w'.Kept ∧ ∀ key, w.revision key ≤ w'.revision key ∧
      (w.revision key = w'.revision key → w.changes key = w'.changes key) := by
  obtain ⟨hmeets, hmeets'⟩ := meets_append hearlier hmeets
  have h : w.Booked := run_invariant_of_meets (fun _ _ _ hinv hok hstep => hinv.step hok hstep)
    Coordinator.Booked.initial hmeets hearlier
  have h' : w'.Booked := run_invariant_of_meets (fun _ _ _ hinv hok hstep => hinv.step hok hstep)
    h hmeets' hlater
  have hgrows : w.completed <:+ w'.completed :=
    run_invariant (fun _ _ _ hinv hstep => List.IsSuffix.trans hinv (Coordinator.completed_step hstep))
      (suffix_refl _) hlater
  refine ⟨h'.kept, fun key => ?_⟩
  rw [h.linked.counted, h'.linked.counted]
  exact ⟨hgrows.sublist.count_le key, id⟩

/-! ## Examples -/

def plainLocale : Locale := fun left right => !List.lex right left

def plainSession : DashboardResourceRef := ⟨.session, text "managed:s1"⟩

def plainParticipant (name : String) : ParticipantRecord := ⟨text name, text name, .rich⟩

/-- This participant has control, or none has. -/
def controlledBy (name : String) : Surroundings where
  role participantId := if participantId = text name then .controller else .observer
  uuid := text "0"

def succeeded : Settlement := .fulfilled ⟨text "c", .completed⟩

/-- Alice and Bob have a subscription, and Alice requests control. -/
def requestEvents : List Event :=
  [.register plainSession (plainParticipant "alice"), .register plainSession (plainParticipant "bob"),
    .call plainSession (.requestControl (text "alice") (text "c")), .start 0 (controlledBy ""),
    .answer 0 succeeded (controlledBy "alice")]

/-- Control is transferred to Bob. -/
def transferEvents : List Event :=
  [.call plainSession (.transfer (text "bob") none 1 (text "t")), .start 1 (controlledBy "alice"),
    .answer 1 succeeded (controlledBy ""), .answer 1 succeeded (controlledBy "bob")]

theorem coordinator_kept_transfer : ∃ w w',
    run (Coordinator.step plainLocale) .initial requestEvents = some w ∧
      run (Coordinator.step plainLocale) w transferEvents = some w' ∧
      w'.Kept ∧ ∀ key, w.revision key ≤ w'.revision key ∧
        (w.revision key = w'.revision key → w.changes key = w'.changes key) := by
  obtain ⟨w, hearlier, hsome⟩ : ∃ w, run (Coordinator.step plainLocale) .initial requestEvents = some w ∧
      (run (Coordinator.step plainLocale) w transferEvents).isSome = true := by
    decide +kernel
  obtain ⟨w', hlater⟩ := isSome_iff_exists.mp hsome
  exact ⟨w, w', hearlier, hlater,
    coordinator_kept plainLocale requestEvents transferEvents w w' (by decide +kernel) hearlier hlater⟩

/-- A transfer on a session that nobody has subscribed to. -/
def strayEvents : List Event :=
  [.call plainSession (.transfer (text "bob") none 0 (text "t")), .start 0 (controlledBy "")]

/-- Alice leaves with control, and the next request runs while hers is waiting. -/
def rejoinEvents : List Event :=
  [.register plainSession (plainParticipant "alice"),
    .call plainSession (.requestControl (text "alice") (text "c")), .start 0 (controlledBy ""),
    .unregister (text "alice") plainSession, .register plainSession (plainParticipant "bob"),
    .call plainSession (.requestControl (text "bob") (text "d")), .start 1 (controlledBy "")]

theorem coordinator_strays :
    (∃ w, run (Coordinator.step plainLocale) .initial strayEvents = some w ∧ w.isIdle ∧
      w.resources.has (resourceKey plainSession) = true ∧ w.live = []) ∧
    (∃ w, run (Coordinator.step plainLocale) .initial rejoinEvents = some w ∧ w.isRunning 0 ∧
      w.isRunning 1 ∧ w.taskKey 0 = w.taskKey 1) ∧
    ∃ w w', run (Coordinator.step plainLocale) .initial requestEvents = some w ∧
      run (Coordinator.step plainLocale) w [.unregister (text "alice") plainSession,
        .unregister (text "bob") plainSession] = some w' ∧
      w'.revision (resourceKey plainSession) < w.revision (resourceKey plainSession) := by
  simp only [exists_and_left]
  decide +kernel

end PiDaemon.Streams
