import Mathlib.Order.Lattice

/-!
# Pushing to a heap

A heap in a list, the children of position `i` at `2 * i + 1` and `2 * i + 2`.  A
value is pushed to the end and moves up while its parent is greater.

* `UpOrder`: what holds while a value is on its way up;
* `root_le`: the root of an ordered heap is its minimum;
* `pushAll_head?`: values pushed one after the other leave their minimum at the root.
-/

namespace PiDaemon.Lib

open List

section
variable {A : Type} [LinearOrder A]

def heapParent (index : Nat) : Nat := (index - 1) / 2

/-- The loop of a push; the entry at `index` is to be overwritten. -/
def siftUp (value : A) (index : Nat) (heap : List A) : List A :=
  if index = 0 then heap.set 0 value
  else
    let parent := heapParent index
    if heap.getD parent value ≤ value then heap.set index value
    else siftUp value parent (heap.set index (heap.getD parent value))
termination_by index
decreasing_by
  unfold heapParent
  omega

def heapPush (heap : List A) (value : A) : List A := siftUp value heap.length (heap ++ [value])

/-- No entry is less than its parent. -/
def HeapOrdered (heap : List A) : Prop :=
  ∀ index x p, index ≠ 0 → heap[index]? = some x → heap[heapParent index]? = some p → p ≤ x

/-- The heap is in order but for the entry at `hole`, and what is below the hole is no less
than what is above it. -/
structure UpOrder (heap : List A) (hole : Nat) (value : A) : Prop where
  lt : hole < heap.length
  except : ∀ index x p, index ≠ 0 → index ≠ hole → heapParent index ≠ hole →
    heap[index]? = some x → heap[heapParent index]? = some p → p ≤ x
  grand : hole ≠ 0 → ∀ index x p, index ≠ 0 → heapParent index = hole → heap[index]? = some x →
    heap[heapParent hole]? = some p → p ≤ x
  below : ∀ index x, index ≠ 0 → heapParent index = hole → heap[index]? = some x → value ≤ x

theorem heapParent_lt {index : Nat} (h : index ≠ 0) : heapParent index < index := by
  unfold heapParent
  omega

omit [LinearOrder A] in
theorem getElem?_set_cases {heap : List A} {i j : Nat} {x v : A} (h : (heap.set i v)[j]? = some x) :
    (i = j ∧ x = v) ∨ (i ≠ j ∧ heap[j]? = some x) := by
  rw [List.getElem?_set] at h
  split at h
  · rename_i heq
    split at h
    · exact Or.inl ⟨heq, (Option.some.inj h).symm⟩
    · cases h
  · rename_i hne
    exact Or.inr ⟨hne, h⟩

theorem UpOrder.finish {heap : List A} {hole : Nat} {value : A} (h : UpOrder heap hole value)
    (hstop : hole ≠ 0 → ∀ p, heap[heapParent hole]? = some p → p ≤ value) :
    HeapOrdered (heap.set hole value) := by
  intro index x p hindex hx hp
  have hlt := heapParent_lt hindex
  rcases getElem?_set_cases hx with ⟨rfl, rfl⟩ | ⟨hne, hx'⟩
  · rcases getElem?_set_cases hp with ⟨heq, -⟩ | ⟨-, hp'⟩
    · omega
    · exact hstop hindex p hp'
  · rcases getElem?_set_cases hp with ⟨heq, rfl⟩ | ⟨hparent, hp'⟩
    · exact h.below index x hindex heq.symm hx'
    · exact h.except index x p hindex (Ne.symm hne) (Ne.symm hparent) hx' hp'

theorem UpOrder.move {heap : List A} {hole : Nat} {value above : A} (h : UpOrder heap hole value)
    (hhole : hole ≠ 0) (habove : heap[heapParent hole]? = some above) (hgt : value < above) :
    UpOrder (heap.set hole above) (heapParent hole) value := by
  have hlt := heapParent_lt hhole
  constructor
  · rw [length_set]
    have := h.lt
    omega
  · intro index x p hindex hne hparent hx hp
    rcases getElem?_set_cases hx with ⟨heq, -⟩ | ⟨hoff, hx'⟩
    · subst heq
      exact absurd rfl hparent
    rcases getElem?_set_cases hp with ⟨heq, rfl⟩ | ⟨hoffp, hp'⟩
    · exact h.grand hhole index x _ hindex heq.symm hx' habove
    · exact h.except index x p hindex (Ne.symm hoff) (Ne.symm hoffp) hx' hp'
  · intro hroot index x p hindex hparent hx hp
    have hlt' := heapParent_lt hroot
    rcases getElem?_set_cases hp with ⟨heq, -⟩ | ⟨-, hp⟩
    · omega
    have hup : p ≤ above :=
      h.except (heapParent hole) above p hroot (by omega) (by omega) habove hp
    rcases getElem?_set_cases hx with ⟨-, rfl⟩ | ⟨hoff, hx⟩
    · exact hup
    have hdown : above ≤ x :=
      h.except index x above hindex (Ne.symm hoff) (by omega) hx (by rw [hparent]; exact habove)
    exact le_trans hup hdown
  · intro index x hindex hparent hx
    rcases getElem?_set_cases hx with ⟨-, rfl⟩ | ⟨hoff, hx⟩
    · exact le_of_lt hgt
    have hdown : above ≤ x :=
      h.except index x above hindex (Ne.symm hoff) (by omega) hx (by rw [hparent]; exact habove)
    exact le_trans (le_of_lt hgt) hdown

theorem siftUp_ordered (value : A) (hole : Nat) (heap : List A) (h : UpOrder heap hole value) :
    HeapOrdered (siftUp value hole heap) := by
  induction hole using Nat.strongRecOn generalizing heap with
  | ind hole ih =>
    rw [siftUp]
    split
    · rename_i hzero
      subst hzero
      exact h.finish fun hne => absurd rfl hne
    · rename_i hne
      have hlt := heapParent_lt hne
      have hin : heapParent hole < heap.length := by
        have := h.lt
        omega
      have habove : heap[heapParent hole]? = some (heap.getD (heapParent hole) value) := by
        simp [hin]
      simp only
      split
      · rename_i hle
        apply h.finish
        intro _ p hp
        rw [habove] at hp
        cases hp
        exact hle
      · rename_i hgt
        exact ih _ hlt _ (h.move hne habove (not_le.mp hgt))

theorem mem_siftUp (value : A) (hole : Nat) (heap : List A) (h : hole < heap.length) (x : A) :
    x ∈ siftUp value hole heap ↔ x ∈ heap.set hole value := by
  induction hole using Nat.strongRecOn generalizing heap with
  | ind hole ih =>
    rw [siftUp]
    split
    · rename_i hzero
      rw [hzero]
    rename_i hne
    have hlt := heapParent_lt hne
    simp only
    split
    · rfl
    rw [ih _ hlt _ (by rw [length_set]; omega)]
    have hin : heapParent hole < heap.length := by omega
    -- The entries at the hole and at its parent change places.
    simp only [mem_iff_getElem?, List.getElem?_set, length_set]
    constructor
    · rintro ⟨i, hi⟩
      by_cases hip : heapParent hole = i
      · refine ⟨hole, ?_⟩
        rw [if_pos hip, if_pos hin] at hi
        rw [if_pos rfl, if_pos h]
        exact hi
      · rw [if_neg hip] at hi
        by_cases hih : hole = i
        · refine ⟨heapParent hole, ?_⟩
          rw [if_pos hih, if_pos h] at hi
          rw [if_neg (by omega), ← hi]
          simp [hin]
        · rw [if_neg hih] at hi
          exact ⟨i, by rw [if_neg hih]; exact hi⟩
    · rintro ⟨i, hi⟩
      by_cases hih : hole = i
      · refine ⟨heapParent hole, ?_⟩
        rw [if_pos hih, if_pos h] at hi
        rw [if_pos rfl, if_pos hin]
        exact hi
      · rw [if_neg hih] at hi
        by_cases hip : heapParent hole = i
        · refine ⟨hole, ?_⟩
          rw [if_neg (by omega), if_pos h, ← hi]
          subst hip
          simp [hin]
        · exact ⟨i, by rw [if_neg hip, if_neg hih]; exact hi⟩

theorem heapPush_ordered {heap : List A} (h : HeapOrdered heap) (value : A) :
    HeapOrdered (heapPush heap value) := by
  apply siftUp_ordered
  have hold : ∀ {i x}, i ≠ heap.length → (heap ++ [value])[i]? = some x → heap[i]? = some x := by
    intro i x hi hx
    rw [List.getElem?_append] at hx
    split at hx
    · exact hx
    rw [List.getElem?_singleton] at hx
    split at hx
    · omega
    · cases hx
  have hbound : ∀ {i x}, (heap ++ [value])[i]? = some x → i < heap.length + 1 := by
    intro i x hx
    obtain ⟨hi, -⟩ := List.getElem?_eq_some_iff.mp hx
    simpa using hi
  constructor
  · simp
  · intro index x p hindex hne hparent hx hp
    exact h index x p hindex (hold hne hx) (hold hparent hp)
  · intro hroot index x p hindex hparent hx
    have := hbound hx
    have := heapParent_lt hindex
    omega
  · intro index x hindex hparent hx
    have := hbound hx
    have := heapParent_lt hindex
    omega

theorem mem_heapPush (heap : List A) (value x : A) :
    x ∈ heapPush heap value ↔ x ∈ heap ∨ x = value := by
  rw [heapPush, mem_siftUp _ _ _ (by simp)]
  simp

theorem root_le {heap : List A} (h : HeapOrdered heap) {root : A} (hroot : heap[0]? = some root)
    (index : Nat) {x : A} (hx : heap[index]? = some x) : root ≤ x := by
  induction index using Nat.strongRecOn generalizing x with
  | ind index ih =>
    by_cases hindex : index = 0
    · subst hindex
      rw [hroot] at hx
      cases hx
      exact le_refl _
    · have hlt := heapParent_lt hindex
      obtain ⟨_, -⟩ := List.getElem?_eq_some_iff.mp hx
      have hp : heap[heapParent index]? = some (heap.get ⟨heapParent index, by omega⟩) := by
        simp
      exact le_trans (ih _ hlt hp) (h index x _ hindex hx hp)

theorem foldl_heapPush (values heap : List A) (h : HeapOrdered heap) :
    HeapOrdered (values.foldl heapPush heap) ∧
      ∀ x, x ∈ values.foldl heapPush heap ↔ x ∈ heap ∨ x ∈ values := by
  induction values generalizing heap with
  | nil => exact ⟨h, fun x => by simp⟩
  | cons value values ih =>
    obtain ⟨hordered, hmem⟩ := ih _ (heapPush_ordered h value)
    refine ⟨hordered, fun x => ?_⟩
    rw [foldl_cons, hmem, mem_heapPush, mem_cons, or_assoc]

theorem pushAll_eq_none {values : List A} :
    (values.foldl heapPush []).head? = none ↔ values = [] := by
  obtain ⟨-, hmem⟩ := foldl_heapPush values [] (fun _ _ _ _ h => by simp at h)
  rw [List.head?_eq_none_iff]
  simp only [eq_nil_iff_forall_not_mem, hmem, not_mem_nil, false_or]

/-- The root after a list of pushes is the minimum of the values. -/
theorem pushAll_head? (values : List A) (root : A) :
    (values.foldl heapPush []).head? = some root ↔
      root ∈ values ∧ ∀ x ∈ values, root ≤ x := by
  obtain ⟨hordered, hmem⟩ := foldl_heapPush values [] (fun _ _ _ _ h => by simp at h)
  have hleast : ∀ r, (values.foldl heapPush []).head? = some r → r ∈ values ∧ ∀ x ∈ values, r ≤ x := by
    intro r hr
    have hmem' : ∀ x, x ∈ values.foldl heapPush [] ↔ x ∈ values := fun x => by simp [hmem]
    constructor
    · exact (hmem' r).mp (List.mem_of_head? hr)
    intro x hx
    obtain ⟨i, hi⟩ := mem_iff_getElem?.mp ((hmem' x).mpr hx)
    rw [List.head?_eq_getElem?] at hr
    exact root_le hordered hr i hi
  constructor
  · exact hleast root
  rintro ⟨hroot, hle⟩
  cases hhead : (values.foldl heapPush []).head? with
  | none =>
    have hnil := List.head?_eq_none_iff.mp hhead
    have := (hmem root).mpr (Or.inr hroot)
    rw [hnil] at this
    cases this
  | some r =>
    obtain ⟨hr, hrle⟩ := hleast r hhead
    rw [le_antisymm (hrle root hroot) (hle r hr)]

end

end PiDaemon.Lib
