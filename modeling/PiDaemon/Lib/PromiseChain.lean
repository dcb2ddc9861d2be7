/-!
# Promise chains

The idiom `tail = tail.then(task)` runs tasks one at a time in the order they
were linked: a task remembers the tail it was linked behind and may start once
that one has settled.  Tasks are numbered in the order of linking.

* `Chained`: the invariant of such a chain, over the predicates of the machine
  that uses it;
* `Chained.link`, `Chained.advance`: linking a new task, and starting or
  settling tasks, keep it;
* `Chained.exclusive`: at most one task is started and not settled;
* `Chained.in_order`: when a task has started every earlier one has settled.
-/

namespace PiDaemon.Lib

/-- A task may start: it was linked first, or the task before it has settled. -/
def Ready (after : Nat → Option Nat) (settled : Nat → Prop) (i : Nat) : Prop :=
  after i = none ∨ ∃ p, after i = some p ∧ settled p

structure Chained (member : Nat → Prop) (after : Nat → Option Nat) (tail : Option Nat)
    (started settled : Nat → Prop) : Prop where
  tail_none : tail = none → ∀ i, ¬ member i
  tail_last : ∀ t, tail = some t → member t ∧ ∀ i, member i → i ≤ t
  after_none : ∀ i, member i → after i = none → ∀ j, member j → i ≤ j
  after_some : ∀ i p, member i → after i = some p →
    member p ∧ p < i ∧ ∀ j, member j → j < i → j ≤ p
  settled_started : ∀ i, member i → settled i → started i
  in_order : ∀ i, member i → started i → ∀ j, member j → j < i → settled j

namespace Chained

variable {member member' : Nat → Prop} {after after' : Nat → Option Nat} {tail tail' : Option Nat}
  {started started' settled settled' : Nat → Prop}

/-- A chain without tasks. -/
theorem nil (h : ∀ i, ¬ member i) : Chained member after none started settled where
  tail_none _ := h
  tail_last _ ht := by cases ht
  after_none i hi := absurd hi (h i)
  after_some i _ hi := absurd hi (h i)
  settled_started i hi := absurd hi (h i)
  in_order i hi := absurd hi (h i)

section
variable (h : Chained member after tail started settled)
include h

/-- **Exclusion.** -/
theorem exclusive {i j : Nat} (hi : member i)
    (hj : member j) (si : started i) (sj : started j) (ni : ¬ settled i) (nj : ¬ settled j) :
    i = j := by
  rcases Nat.lt_trichotomy i j with hlt | heq | hgt
  · exact absurd (h.in_order j hj sj i hi hlt) ni
  · exact heq
  · exact absurd (h.in_order i hi si j hj hgt) nj

/-- A ready task has only settled tasks before it. -/
theorem settled_of_ready {i j : Nat}
    (hi : member i) (hr : Ready after settled i) (hj : member j) (hlt : j < i) : settled j := by
  rcases hr with hn | ⟨p, hp, hs⟩
  · have := h.after_none i hi hn j hj
    omega
  obtain ⟨mp, _, hlast⟩ := h.after_some i p hi hp
  rcases Nat.lt_or_eq_of_le (hlast j hj hlt) with hjp | rfl
  · exact h.in_order p mp (h.settled_started p mp hs) j hj hjp
  · exact hs

/-- Tasks start when they are ready and settle after they have started. -/
theorem advance
    (hm : ∀ i, member' i ↔ member i) (ha : ∀ i, member i → after' i = after i)
    (ht : tail' = tail)
    (hstart : ∀ i, member i → started' i → started i ∨ Ready after settled i)
    (hkeep : ∀ i, member i → settled i → settled' i)
    (hss : ∀ i, member i → settled' i → started' i) :
    Chained member' after' tail' started' settled' where
  tail_none hn i hi := h.tail_none (ht ▸ hn) i ((hm i).mp hi)
  tail_last t htl := by
    obtain ⟨hmt, hlast⟩ := h.tail_last t (ht ▸ htl)
    exact ⟨(hm t).mpr hmt, fun i hi => hlast i ((hm i).mp hi)⟩
  after_none i hi hn j hj := by
    rw [ha i ((hm i).mp hi)] at hn
    exact h.after_none i ((hm i).mp hi) hn j ((hm j).mp hj)
  after_some i p hi hp := by
    rw [ha i ((hm i).mp hi)] at hp
    obtain ⟨mp, hlt, hlast⟩ := h.after_some i p ((hm i).mp hi) hp
    exact ⟨(hm p).mpr mp, hlt, fun j hj => hlast j ((hm j).mp hj)⟩
  settled_started i hi hs := hss i ((hm i).mp hi) hs
  in_order i hi hs j hj hlt := by
    have mi := (hm i).mp hi
    have mj := (hm j).mp hj
    apply hkeep j mj
    rcases hstart i mi hs with hs' | hr
    · exact h.in_order i mi hs' j mj hlt
    · exact h.settled_of_ready mi hr mj hlt

/-- Linking the task `n`, numbered after all others, behind the tail. -/
theorem link {n : Nat}
    (hm : ∀ i, member' i ↔ member i ∨ i = n) (hnew : ∀ i, member i → i < n)
    (han : after' n = tail) (ha : ∀ i, member i → after' i = after i)
    (ht : tail' = some n) (hn : ¬ started' n) (hns : ¬ settled' n)
    (hs : ∀ i, member i → (started' i ↔ started i))
    (hse : ∀ i, member i → (settled' i ↔ settled i)) :
    Chained member' after' tail' started' settled' where
  tail_none h' := by rw [ht] at h'; cases h'
  tail_last t htl := by
    rw [ht] at htl
    cases htl
    refine ⟨(hm n).mpr (Or.inr rfl), fun i hi => ?_⟩
    rcases (hm i).mp hi with hi | rfl
    · exact Nat.le_of_lt (hnew i hi)
    · exact Nat.le_refl _
  after_none i hi hno j hj := by
    rcases (hm i).mp hi with mi | rfl
    · rw [ha i mi] at hno
      rcases (hm j).mp hj with mj | rfl
      · exact h.after_none i mi hno j mj
      · exact Nat.le_of_lt (hnew i mi)
    · rw [han] at hno
      rcases (hm j).mp hj with mj | rfl
      · exact absurd mj (h.tail_none hno j)
      · exact Nat.le_refl _
  after_some i p hi hp := by
    rcases (hm i).mp hi with mi | rfl
    · rw [ha i mi] at hp
      obtain ⟨mp, hlt, hlast⟩ := h.after_some i p mi hp
      refine ⟨(hm p).mpr (Or.inl mp), hlt, fun j hj hji => ?_⟩
      rcases (hm j).mp hj with mj | rfl
      · exact hlast j mj hji
      · have := hnew i mi
        omega
    · rw [han] at hp
      obtain ⟨mp, hlast⟩ := h.tail_last p hp
      refine ⟨(hm p).mpr (Or.inl mp), hnew p mp, fun j hj hji => ?_⟩
      rcases (hm j).mp hj with mj | rfl
      · exact hlast j mj
      · omega
  settled_started i hi hsi := by
    rcases (hm i).mp hi with mi | rfl
    · exact (hs i mi).mpr (h.settled_started i mi ((hse i mi).mp hsi))
    · exact absurd hsi hns
  in_order i hi hsi j hj hji := by
    rcases (hm i).mp hi with mi | rfl
    · rcases (hm j).mp hj with mj | rfl
      · exact (hse j mj).mpr (h.in_order i mi ((hs i mi).mp hsi) j mj hji)
      · have := hnew i mi
        omega
    · exact absurd hsi hn

end

end Chained

end PiDaemon.Lib
