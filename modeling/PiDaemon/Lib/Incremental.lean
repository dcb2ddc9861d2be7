import Mathlib.Data.List.Infix

/-!
# Readers of a text that comes in parts

A reader takes one item off the front of a text, and `none` is a text that is too short for it.
It is incremental when a longer text does not change what has been read, and when what was missing
is taken from the part that was missing.

* `readAll_append`: reading a text is reading its first part, and then what is left of it with the
  second part.
-/

namespace PiDaemon.Lib

variable {A B : Type}

structure Incremental (read : List A → Option (B × List A)) : Prop where
  shorter : ∀ {x item rest}, read x = some (item, rest) → rest.length < x.length
  append : ∀ {x item rest}, read x = some (item, rest) → ∀ y, read (x ++ y) = some (item, rest ++ y)
  suffix : ∀ {x y item rest}, read x = none → read (x ++ y) = some (item, rest) → rest <:+ y

/-- The items of a text, and what is left of it. -/
def readUpTo (read : List A → Option (B × List A)) : Nat → List A → List B × List A
  | 0, x => ([], x)
  | fuel + 1, x =>
    match read x with
    | none => ([], x)
    | some (item, rest) => (item :: (readUpTo read fuel rest).1, (readUpTo read fuel rest).2)

def readAll (read : List A → Option (B × List A)) (x : List A) : List B × List A :=
  readUpTo read x.length x

section
variable {read : List A → Option (B × List A)}

theorem readUpTo_enough (h : Incremental read) {fuel more : Nat} {x : List A} (hfuel : x.length ≤ fuel)
    (hmore : x.length ≤ more) : readUpTo read fuel x = readUpTo read more x := by
  induction fuel generalizing more x with
  | zero =>
    obtain rfl : x = [] := List.length_eq_zero_iff.mp (Nat.le_zero.mp hfuel)
    cases more with
    | zero => rfl
    | succ more =>
      cases hread : read [] with
      | none => simp only [readUpTo, hread]
      | some found => exact absurd (h.shorter hread) (Nat.not_lt_zero _)
  | succ fuel ih =>
    cases hread : read x with
    | none => cases more <;> simp only [readUpTo, hread]
    | some found =>
      have hshorter := h.shorter hread
      cases more with
      | zero => omega
      | succ more =>
        have hrest : readUpTo read fuel found.2 = readUpTo read more found.2 := ih (by omega) (by omega)
        simp only [readUpTo, hread, hrest]

theorem readAll_none {x : List A} (hread : read x = none) : readAll read x = ([], x) := by
  rw [readAll]
  cases x.length <;> simp only [readUpTo, hread]

theorem readAll_some (h : Incremental read) {x rest : List A} {item : B} (hread : read x = some (item, rest)) :
    readAll read x = (item :: (readAll read rest).1, (readAll read rest).2) := by
  have hshorter := h.shorter hread
  rw [readAll, readAll, readUpTo_enough h (le_refl _) (Nat.le_succ x.length), readUpTo]
  simp only [hread]
  rw [readUpTo_enough h (Nat.le_of_lt hshorter) (le_refl _)]

theorem read_left (h : Incremental read) (x : List A) : read (readAll read x).2 = none := by
  induction hn : x.length using Nat.strongRecOn generalizing x with
  | ind n ih =>
    cases hread : read x with
    | none => rwa [readAll_none hread]
    | some found =>
      rw [readAll_some h hread]
      exact ih found.2.length (by have := h.shorter hread; omega) found.2 rfl

/-- **Parts.** -/
theorem readAll_append (h : Incremental read) (x y : List A) :
    readAll read (x ++ y) =
      ((readAll read x).1 ++ (readAll read ((readAll read x).2 ++ y)).1,
        (readAll read ((readAll read x).2 ++ y)).2) := by
  induction hn : x.length using Nat.strongRecOn generalizing x with
  | ind n ih =>
    cases hread : read x with
    | none =>
      rw [readAll_none hread]
      rfl
    | some found =>
      have hrest := ih found.2.length (by have := h.shorter hread; omega) found.2 rfl
      rw [readAll_some h (h.append hread y), readAll_some h hread, hrest]
      rfl

end

end PiDaemon.Lib
