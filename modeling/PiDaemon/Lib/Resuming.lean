/-!
# Resuming a numbered sequence

What the reader of a numbered sequence has been given of it: items by their numbers, and gaps, at
which it was told that items may be missing.

* `Unbroken`: the items between two gaps are consecutive, and all of them ascend;
* `Awaits`: the reader can be given a number next;
* `Awaits.item`, `Awaits.gap`: what it can be given after that.
-/

namespace PiDaemon.Lib

open List

inductive Mark where
  | item (n : Nat)
  | gap
  deriving DecidableEq

def Mark.item? : Mark → Option Nat
  | .item n => some n
  | .gap => none

/-- The items among the marks. -/
def items (marks : List Mark) : List Nat := marks.filterMap Mark.item?

@[simp] theorem items_append (marks more : List Mark) : items (marks ++ more) = items marks ++ items more :=
  filterMap_append

@[simp] theorem items_gap : items [.gap] = [] := rfl

/-- The number that is due after a mark: any number after a gap.  An item that is not due is an error. -/
def Mark.follow (due : Option Nat) : Mark → Option (Option Nat)
  | .item n => if due.all (· = n) then some (some (n + 1)) else none
  | .gap => some none

/-- The number that is due after all the marks. -/
def dueAfter (start : Option Nat) (marks : List Mark) : Option (Option Nat) := marks.foldlM Mark.follow start

/-- Nothing is missing between the items but at gaps, and none is given twice. -/
structure Unbroken (start : Option Nat) (marks : List Mark) : Prop where
  follows : (dueAfter start marks).isSome = true
  ascends : (items marks).Pairwise (· < ·)

/-- The item `n` can be given next. -/
structure Awaits (start : Option Nat) (marks : List Mark) (n : Nat) : Prop where
  due : dueAfter start marks = some none ∨ dueAfter start marks = some (some n)
  below : ∀ m ∈ items marks, m < n
  ascends : (items marks).Pairwise (· < ·)

variable {start : Option Nat} {marks : List Mark} {n m : Nat}

instance : Decidable (Unbroken start marks) :=
  decidable_of_iff ((dueAfter start marks).isSome = true ∧ (items marks).Pairwise (· < ·))
    ⟨fun h => ⟨h.1, h.2⟩, fun h => ⟨h.follows, h.ascends⟩⟩

theorem dueAfter_concat (mark : Mark) :
    dueAfter start (marks ++ [mark]) = (dueAfter start marks).bind fun due => mark.follow due := by
  rw [dueAfter, foldlM_append]
  cases h : marks.foldlM Mark.follow start with
  | none => rw [dueAfter, h]; rfl
  | some due =>
    rw [dueAfter, h]
    simp

theorem awaits_start (n : Nat) : Awaits (some n) [] n where
  due := .inr rfl
  below _ hm := by cases hm
  ascends := .nil

theorem Awaits.unbroken (h : Awaits start marks n) : Unbroken start marks where
  follows := by rcases h.due with hdue | hdue <;> rw [hdue] <;> rfl
  ascends := h.ascends

theorem Awaits.item (h : Awaits start marks n) : Awaits start (marks ++ [.item n]) (n + 1) where
  due := by
    right
    rw [dueAfter_concat]
    rcases h.due with hdue | hdue <;> rw [hdue] <;> simp [Mark.follow]
  below m hm := by
    rw [items_append, mem_append] at hm
    rcases hm with hm | hm
    · exact Nat.lt_succ_of_lt (h.below m hm)
    · rw [mem_singleton.mp hm]
      exact Nat.lt_succ_self n
  ascends := by
    rw [items_append]
    refine pairwise_append.mpr ⟨h.ascends, pairwise_singleton _ _, fun a ha b hb => ?_⟩
    rw [mem_singleton.mp hb]
    exact h.below a ha

theorem dueAfter_gap (h : Unbroken start marks) : dueAfter start (marks ++ [.gap]) = some none := by
  obtain ⟨_, hdue⟩ := Option.isSome_iff_exists.mp h.follows
  rw [dueAfter_concat, hdue]
  rfl

theorem Unbroken.gap (h : Unbroken start marks) : Unbroken start (marks ++ [.gap]) where
  follows := by rw [dueAfter_gap h]; rfl
  ascends := by
    rw [items_append, items_gap, append_nil]
    exact h.ascends

/-- After a gap, any number that has not been passed can be given. -/
theorem Awaits.gap (h : Awaits start marks n) (hm : n ≤ m) : Awaits start (marks ++ [.gap]) m where
  due := .inl (dueAfter_gap h.unbroken)
  below k hk := by
    rw [items_append, mem_append] at hk
    rcases hk with hk | hk
    · exact Nat.lt_of_lt_of_le (h.below k hk) hm
    · cases hk
  ascends := h.unbroken.gap.ascends

end PiDaemon.Lib
