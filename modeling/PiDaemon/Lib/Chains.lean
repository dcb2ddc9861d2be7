import Mathlib.Data.List.Nodup
import Mathlib.Data.List.Perm.Subperm

/-!
# Chains of links

Every item has an identity, and a link to another one or to none; a link may lead to no item, and
links may lead in a circle.  A walk follows the links from one of them on, until it comes to the end,
to a link without an item, or to an item that it has passed.

* `walk_isChain`: the items of a walk are a chain without repetition;
* `walk_longest`: every such chain is a part of it;
* `walk_cut`: how it ends.
-/

namespace PiDaemon.Lib

open List

section
variable {A I : Type} [DecidableEq I] (find : I → Option A) (link : A → Option I)

/-- The items from a link on, and whether the last link leads no further. -/
def walk : Nat → List I → Option I → List A × Bool
  | _, _, none => ([], false)
  | 0, _, some _ => ([], false)
  | fuel + 1, passed, some i =>
    if i ∈ passed then ([], true)
    else
      match find i with
      | none => ([], true)
      | some a =>
        (a :: (walk fuel (i :: passed) (link a)).1, (walk fuel (i :: passed) (link a)).2)

/-- Every item is the one that the link before it leads to. -/
def LinkedFrom : Option I → List A → Prop
  | _, [] => True
  | start, a :: rest => (∃ i, start = some i ∧ find i = some a) ∧ LinkedFrom (link a) rest

/-- The link after the last item. -/
def lastLink : Option I → List A → Option I
  | start, [] => start
  | _, a :: rest => lastLink (link a) rest

variable {find link}

/-- The identities of the items. -/
structure Identities (id : A → I) (find : I → Option A) (items : List A) : Prop where
  id_of_find : ∀ {i a}, find i = some a → id a = i
  mem_of_find : ∀ {i a}, find i = some a → a ∈ items

variable {id : A → I} {items : List A} (hids : Identities id find items)

include hids in
theorem walk_linked (fuel : Nat) (passed : List I) (start : Option I) :
    LinkedFrom find link start (walk find link fuel passed start).1 ∧
      (passed.Nodup → (passed.reverse ++ (walk find link fuel passed start).1.map id).Nodup) := by
  induction fuel generalizing passed start with
  | zero => cases start <;> simp [walk, LinkedFrom]
  | succ fuel ih =>
    cases start with
    | none => simp [walk, LinkedFrom]
    | some i =>
      rw [walk]
      split
      · simp [LinkedFrom]
      rename_i hnew
      cases hfind : find i with
      | none => simp [LinkedFrom]
      | some a =>
        obtain ⟨hlinked, hnodup⟩ := ih (i :: passed) (link a)
        refine ⟨⟨⟨i, rfl, hfind⟩, hlinked⟩, fun hpassed => ?_⟩
        have hrest := hnodup (nodup_cons.mpr ⟨hnew, hpassed⟩)
        simpa [hids.id_of_find hfind] using hrest

include hids in
/-- The link after the last item of a walk with enough turns. -/
theorem walk_cut {fuel : Nat} {passed : List I} (start : Option I) (hpassed : passed.Nodup)
    (hmem : ∀ i ∈ passed, i ∈ items.map id) (hfuel : items.length < fuel + passed.length) :
    (walk find link fuel passed start).2 = true ↔
      ∃ i, lastLink link start (walk find link fuel passed start).1 = some i ∧
        (find i = none ∨ i ∈ passed ∨ i ∈ (walk find link fuel passed start).1.map id) := by
  induction fuel generalizing passed start with
  | zero =>
    have hlength := (hpassed.subperm hmem).length_le
    rw [length_map] at hlength
    omega
  | succ fuel ih =>
    cases start with
    | none => simp [walk, lastLink]
    | some i =>
      rw [walk]
      split
      · rename_i hold
        simp [lastLink, hold]
      rename_i hnew
      cases hfind : find i with
      | none => simp [lastLink, hfind]
      | some a =>
        have hid := hids.id_of_find hfind
        have hmem' : ∀ j ∈ i :: passed, j ∈ items.map id := by
          rw [forall_mem_cons]
          exact ⟨hid ▸ mem_map_of_mem (hids.mem_of_find hfind), hmem⟩
        rw [ih (link a) (nodup_cons.mpr ⟨hnew, hpassed⟩) hmem' (by rw [length_cons]; omega)]
        simp only [lastLink, map_cons, mem_cons, hid]
        constructor <;> rintro ⟨j, hj, hcut⟩ <;> refine ⟨j, hj, ?_⟩ <;> tauto

/-- Every chain without repetition is a part of a walk with enough turns. -/
theorem walk_longest (hids : Identities id find items) {fuel : Nat} {passed : List I} {start : Option I} {l : List A}
    (hl : LinkedFrom find link start l) (hnodup : (passed.reverse ++ l.map id).Nodup)
    (hmem : ∀ i ∈ passed, i ∈ items.map id) (hfuel : items.length < fuel + passed.length) :
    l <+: (walk find link fuel passed start).1 := by
  induction fuel generalizing passed start l with
  | zero =>
    have hpassed := nodup_reverse.mp (nodup_append.mp hnodup).1
    have hlength := (hpassed.subperm hmem).length_le
    rw [length_map] at hlength
    omega
  | succ fuel ih =>
    cases l with
    | nil => exact nil_prefix
    | cons a l =>
      obtain ⟨⟨i, rfl, hfind⟩, hrest⟩ := hl
      have hid := hids.id_of_find hfind
      have hnew : i ∉ passed := by
        intro hold
        refine (nodup_append.mp hnodup).2.2 i (mem_reverse.mpr hold) (id a) mem_cons_self hid.symm
      have hmem' : ∀ j ∈ i :: passed, j ∈ items.map id := by
        rw [forall_mem_cons]
        exact ⟨hid ▸ mem_map_of_mem (hids.mem_of_find hfind), hmem⟩
      have hnodup' : ((i :: passed).reverse ++ l.map id).Nodup := by
        simpa [hid] using hnodup
      rw [walk, if_neg hnew]
      simp only [hfind]
      exact cons_prefix_cons.mpr ⟨rfl, ih hrest hnodup' hmem' (by rw [length_cons]; omega)⟩

end

end PiDaemon.Lib
