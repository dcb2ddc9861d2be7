import Mathlib.Logic.Function.Basic

/-!
# Objects with identity

A heap of objects named by the numbers below `next`, allocated in order.  An
object is never freed, so a name stays valid, and a smaller name was allocated
earlier.

* `cell_set`, `cell_alloc`: the reading lemmas;
* `count_set`, `count_alloc`: how the number of objects with a property changes.
-/

namespace PiDaemon.Lib

open List Function

variable {α : Type}

structure Heap (α : Type) where
  next : Nat
  cell : Nat → α

namespace Heap

def empty [Inhabited α] : Heap α := ⟨0, fun _ => default⟩

def set (h : Heap α) (i : Nat) (a : α) : Heap α := ⟨h.next, Function.update h.cell i a⟩

def modify (h : Heap α) (i : Nat) (f : α → α) : Heap α := h.set i (f (h.cell i))

def alloc (h : Heap α) (a : α) : Heap α := ⟨h.next + 1, Function.update h.cell h.next a⟩

/-- How many allocated objects have the property `p`. -/
def count (p : α → Bool) (h : Heap α) : Nat := (List.range h.next).countP fun i => p (h.cell i)

section
variable (h : Heap α)
include h

@[simp] theorem next_modify (i : Nat) (f : α → α) : (h.modify i f).next = h.next := rfl

@[simp] theorem next_alloc (a : α) : (h.alloc a).next = h.next + 1 := rfl

theorem cell_set (i j : Nat) (a : α) :
    (h.set i a).cell j = if j = i then a else h.cell j := by
  simp [set, update_apply]

theorem cell_modify (i j : Nat) (f : α → α) :
    (h.modify i f).cell j = if j = i then f (h.cell i) else h.cell j := cell_set h i j _

@[simp] theorem cell_set_self (i : Nat) (a : α) : (h.set i a).cell i = a := by
  simp [cell_set]

theorem cell_set_ne {i j : Nat} (hij : j ≠ i) (a : α) :
    (h.set i a).cell j = h.cell j := by simp [cell_set, hij]

@[simp] theorem cell_modify_self (i : Nat) (f : α → α) :
    (h.modify i f).cell i = f (h.cell i) := by simp [cell_modify]

theorem cell_modify_ne {i j : Nat} (hij : j ≠ i) (f : α → α) :
    (h.modify i f).cell j = h.cell j := by simp [cell_modify, hij]

theorem cell_alloc (j : Nat) (a : α) :
    (h.alloc a).cell j = if j = h.next then a else h.cell j := by
  simp [alloc, update_apply]

@[simp] theorem cell_alloc_self (a : α) : (h.alloc a).cell h.next = a := by
  simp [cell_alloc]

theorem cell_alloc_lt {j : Nat} (hj : j < h.next) (a : α) :
    (h.alloc a).cell j = h.cell j := by
  simp [cell_alloc, Nat.ne_of_lt hj]

theorem modify_modify (i : Nat) (f g : α → α) :
    (h.modify i f).modify i g = h.modify i (g ∘ f) := by
  simp [modify, set]

/-- What relates the cell `i` to its new value, and every cell to itself,
relates all cells to their new values. -/
theorem cell_modify_rel {R : α → α → Prop} {i : Nat} {f : α → α}
    (hr : ∀ a, R a a) (hf : R (h.cell i) (f (h.cell i))) (j : Nat) :
    R (h.cell j) ((h.modify i f).cell j) := by
  rw [cell_modify]
  split
  · rename_i e; subst e; exact hf
  · exact hr _

end

variable (p : α → Bool)

private theorem countP_update (c : Nat → α) (i n : Nat) (a : α) (hi : i < n) :
    ((List.range n).countP fun j => p (Function.update c i a j)) + (p (c i)).toNat =
      ((List.range n).countP fun j => p (c j)) + (p a).toNat := by
  induction n with
  | zero => omega
  | succ n ih =>
    simp only [range_succ, countP_append, countP_singleton]
    by_cases hin : i = n
    · subst hin
      have heq : ((List.range i).countP fun j => p (Function.update c i a j)) =
          (List.range i).countP fun j => p (c j) := by
        apply countP_congr
        intro j hj
        have : j ≠ i := Nat.ne_of_lt (mem_range.mp hj)
        simp [update_of_ne this]
      simp only [heq, update_self]
      cases p a <;> cases p (c i) <;> simp
    · have hlt : i < n := by omega
      have hn : n ≠ i := Ne.symm hin
      simp only [update_of_ne hn]
      omega

/-- Replacing the object `i` moves the count by the two answers at `i`. -/
theorem count_set (h : Heap α) {i : Nat} (hi : i < h.next) (a : α) :
    (h.set i a).count p + (p (h.cell i)).toNat = h.count p + (p a).toNat :=
  countP_update p h.cell i h.next a hi

theorem count_modify (h : Heap α) {i : Nat} (hi : i < h.next) (f : α → α) :
    (h.modify i f).count p + (p (h.cell i)).toNat = h.count p + (p (f (h.cell i))).toNat :=
  count_set p h hi _

theorem count_congr {p : α → Bool} {h h' : Heap α} (hn : h'.next = h.next)
    (hp : ∀ i < h.next, p (h'.cell i) = p (h.cell i)) : h'.count p = h.count p := by
  unfold count
  rw [hn]
  apply countP_congr
  intro i hi
  rw [hp i (mem_range.mp hi)]

theorem count_modify_eq (h : Heap α) {i : Nat} (hi : i < h.next) {f : α → α}
    (hp : p (f (h.cell i)) = p (h.cell i)) : (h.modify i f).count p = h.count p := by
  have := count_modify p h hi f
  rw [hp] at this
  omega

theorem count_alloc (h : Heap α) (a : α) : (h.alloc a).count p = h.count p + (p a).toNat := by
  have heq : ((List.range h.next).countP fun j => p (Function.update h.cell h.next a j)) =
      (List.range h.next).countP fun j => p (h.cell j) := by
    apply countP_congr
    intro j hj
    have : j ≠ h.next := Nat.ne_of_lt (mem_range.mp hj)
    simp [update_of_ne this]
  simp only [count, alloc, range_succ, countP_append, countP_singleton, heq,
    update_self]
  cases p a <;> rfl

/-- At most one object has a property that no two objects share. -/
theorem count_le_one {p : α → Bool} {h : Heap α}
    (hp : ∀ i < h.next, ∀ j < h.next, p (h.cell i) = true → p (h.cell j) = true → i = j) :
    h.count p ≤ 1 := by
  unfold count
  rw [countP_eq_length_filter]
  have hn : ((List.range h.next).filter fun i => p (h.cell i)).Nodup := nodup_range.filter _
  have hm : ∀ i ∈ (List.range h.next).filter fun i => p (h.cell i),
      i < h.next ∧ p (h.cell i) = true := by
    intro i hi
    rw [mem_filter, mem_range] at hi
    exact hi
  revert hn hm
  generalize ((List.range h.next).filter fun i => p (h.cell i)) = l
  intro hn hm
  match l with
  | [] => exact Nat.zero_le 1
  | [i] => exact Nat.le_refl 1
  | i :: j :: rest =>
    have hi := hm i (by simp)
    have hj := hm j (by simp)
    have : i = j := hp i hi.1 j hj.1 hi.2 hj.2
    simp [this] at hn

theorem count_eq_zero {p : α → Bool} {h : Heap α} :
    h.count p = 0 ↔ ∀ i < h.next, p (h.cell i) = false := by
  simp [count, countP_eq_zero]

end Heap

end PiDaemon.Lib
