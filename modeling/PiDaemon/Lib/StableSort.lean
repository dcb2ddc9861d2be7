import Mathlib.Data.List.Count
import Mathlib.Data.List.Nodup
import Mathlib.Data.List.Sort

/-!
# Places in a stable sort

A stable sort puts an item ahead of the others that it is strictly below, and of those it ties with
that come later in the list.

* `sublist_stableSort`: what is sorted already keeps its order;
* `pairwise_ahead`: the sorted list is in the order `ahead`;
* `mem_take_stableSort`: an item is among the first `n` exactly when fewer than `n` are ahead of it.

The items are told apart by their keys.
-/

namespace PiDaemon.Lib

open List

variable {A K : Type} [DecidableEq K] (le : A → A → Bool) (key : A → K)

/-- The list, sorted by insertion. -/
def stableSort (l : List A) : List A := l.insertionSort fun a b => le a b = true

/-- `a` comes before `b` when `l` is sorted. -/
def ahead (l : List A) (a b : A) : Bool :=
  !le b a || (le a b && decide ((l.map key).idxOf (key a) < (l.map key).idxOf (key b)))

variable {le key} {l : List A}

theorem perm_stableSort : (stableSort le l).Perm l := perm_insertionSort _ l

@[simp] theorem mem_stableSort {a : A} : a ∈ stableSort le l ↔ a ∈ l := perm_stableSort.mem_iff

@[simp] theorem length_stableSort : (stableSort le l).length = l.length := perm_stableSort.length_eq

theorem idxOf_getElem (hnodup : (l.map key).Nodup) (i : Nat) (hi : i < l.length) :
    (l.map key).idxOf (key l[i]) = i := by
  have hi' : i < (l.map key).length := by simpa using hi
  have := hnodup.idxOf_getElem i hi'
  simpa using this

theorem idxOf_lt_of_sublist (hnodup : (l.map key).Nodup) {a b : A} (h : [a, b].Sublist l) :
    (l.map key).idxOf (key a) < (l.map key).idxOf (key b) := by
  have hpairwise : l.Pairwise fun a b => (l.map key).idxOf (key a) < (l.map key).idxOf (key b) := by
    refine pairwise_iff_getElem.mpr fun i j hi hj hij => ?_
    rw [idxOf_getElem hnodup i hi, idxOf_getElem hnodup j hj]
    exact hij
  exact pairwise_iff_forall_sublist.mp hpairwise h

theorem sublist_of_idxOf_lt (hnodup : (l.map key).Nodup) {a b : A} (ha : a ∈ l) (hb : b ∈ l)
    (h : (l.map key).idxOf (key a) < (l.map key).idxOf (key b)) : [a, b].Sublist l := by
  obtain ⟨i, hi, rfl⟩ := getElem_of_mem ha
  obtain ⟨j, hj, rfl⟩ := getElem_of_mem hb
  rw [idxOf_getElem hnodup i hi, idxOf_getElem hnodup j hj] at h
  have hpairwise : l.Pairwise fun a b => [a, b].Sublist l :=
    pairwise_iff_forall_sublist.mpr fun hsublist => hsublist
  exact pairwise_iff_getElem.mp hpairwise i j hi hj h

theorem not_ahead_self (b : A) (hrefl : le b b = true) : ahead le key l b b = false := by
  simp [ahead, hrefl]

theorem not_ahead_of_ahead (htotal : ∀ a b, (le a b || le b a) = true) {a b : A} (h : ahead le key l a b = true) :
    ahead le key l b a = false := by
  have := htotal a b
  rw [Bool.or_eq_true] at this
  rw [ahead, Bool.or_eq_true, Bool.and_eq_true, decide_eq_true_eq, Bool.not_eq_true'] at h
  rw [ahead, Bool.or_eq_false_iff, Bool.and_eq_false_iff, decide_eq_false_iff_not, Bool.not_eq_false']
  rcases h with hba | ⟨hab, hlt⟩
  · rcases this with hab | hba'
    · exact ⟨hab, .inl hba⟩
    · rw [hba] at hba'
      cases hba'
  · exact ⟨hab, .inr (Nat.lt_asymm hlt)⟩

/-- What is sorted already keeps its order. -/
theorem sublist_stableSort {part : List A} (hsorted : part.Pairwise fun a b => le a b = true)
    (hsub : part.Sublist l) : part.Sublist (stableSort le l) :=
  sublist_insertionSort hsorted hsub

section
variable (htrans : ∀ a b c, le a b = true → le b c = true → le a c = true)
  (htotal : ∀ a b, (le a b || le b a) = true)

include htrans htotal

theorem pairwise_stableSort : (stableSort le l).Pairwise fun a b => le a b = true := by
  have : Std.Total fun a b => le a b = true := ⟨fun a b => by
    have := htotal a b
    rwa [Bool.or_eq_true] at this⟩
  have : IsTrans A fun a b => le a b = true := ⟨htrans⟩
  exact pairwise_insertionSort _ l

theorem pairwise_ahead (hnodup : (l.map key).Nodup) : (stableSort le l).Pairwise fun a b => ahead le key l a b := by
  have hsorted : ((stableSort le l).map key).Nodup := (perm_stableSort.map key).nodup_iff.mpr hnodup
  refine pairwise_iff_forall_sublist.mpr fun {a b} hsub => ?_
  have hle : le a b = true := pairwise_iff_forall_sublist.mp (pairwise_stableSort htrans htotal) hsub
  have ha : a ∈ l := mem_stableSort.mp (hsub.subset (mem_cons_self ..))
  have hb : b ∈ l := mem_stableSort.mp (hsub.subset (mem_cons_of_mem _ (mem_cons_self ..)))
  rw [ahead, Bool.or_eq_true, Bool.and_eq_true, decide_eq_true_eq]
  cases hba : le b a with
  | false => exact .inl rfl
  | true =>
    refine .inr ⟨hle, Nat.lt_of_not_le fun hlt => ?_⟩
    have hforward := idxOf_lt_of_sublist hsorted hsub
    rcases Nat.lt_or_eq_of_le hlt with hlt | heq
    · -- the sort keeps the order of a tie
      have hback := sublist_stableSort (pairwise_pair.mpr hba)
        (sublist_of_idxOf_lt hnodup hb ha hlt)
      exact Nat.lt_asymm hforward (idxOf_lt_of_sublist hsorted hback)
    · have hkey : key b = key a := (idxOf_inj (mem_map_of_mem hb)).mp heq
      rw [hkey] at hforward
      exact Nat.lt_irrefl _ hforward

/-- An item is among the first `n` exactly when fewer than `n` are ahead of it. -/
theorem mem_take_stableSort (hnodup : (l.map key).Nodup) {x : A} (hx : x ∈ l) (n : Nat) :
    x ∈ (stableSort le l).take n ↔ l.countP (fun y => ahead le key l y x) < n := by
  have hperm : (stableSort le l).Perm l := perm_stableSort
  have hpairwise := pairwise_ahead htrans htotal hnodup
  have hsorted : (stableSort le l).Nodup := (hperm.nodup_iff).mpr (List.Nodup.of_map key hnodup)
  rw [← hperm.countP_eq]
  obtain ⟨pre, post, heq⟩ := append_of_mem (mem_stableSort.mpr hx : x ∈ stableSort le l)
  rw [heq] at hpairwise hsorted ⊢
  obtain ⟨-, hpost, hpre⟩ := pairwise_append.mp hpairwise
  have hcount : (pre ++ x :: post).countP (fun y => ahead le key l y x) = pre.length := by
    have hrefl : le x x = true := by
      have := htotal x x
      rwa [Bool.or_self] at this
    rw [countP_append, countP_cons, not_ahead_self x hrefl]
    have hall : pre.countP (fun y => ahead le key l y x) = pre.length :=
      countP_eq_length.mpr fun y hy => hpre y hy x (mem_cons_self ..)
    have hnone : post.countP (fun y => ahead le key l y x) = 0 := by
      refine countP_eq_zero.mpr fun y hy => ?_
      rw [not_ahead_of_ahead htotal ((pairwise_cons.mp hpost).1 y hy)]
      decide
    rw [hall, hnone]
    rfl
  rw [hcount]
  have hnot : x ∉ pre := fun hmem => (nodup_append.mp hsorted).2.2 x hmem x (mem_cons_self ..) rfl
  constructor
  · intro hmem
    by_contra hlt
    rw [take_append_of_le_length (Nat.not_lt.mp hlt)] at hmem
    exact hnot (mem_of_mem_take hmem)
  · intro hlt
    obtain ⟨m, rfl⟩ := Nat.exists_eq_add_of_lt hlt
    rw [take_append, Nat.add_assoc, Nat.add_sub_cancel_left]
    exact mem_append_right _ (mem_cons_self ..)

/-- As many items as there are, up to `n`, have fewer than `n` ahead of them. -/
theorem countP_place_lt (hnodup : (l.map key).Nodup) (n : Nat) :
    l.countP (fun x => decide (l.countP (fun y => ahead le key l y x) < n)) = min n l.length := by
  have hperm : (stableSort le l).Perm l := perm_stableSort
  have hsorted : (stableSort le l).Nodup := hperm.nodup_iff.mpr (List.Nodup.of_map key hnodup)
  have hmem {x : A} (hx : x ∈ stableSort le l) :
      decide (l.countP (fun y => ahead le key l y x) < n) = true ↔ x ∈ (stableSort le l).take n := by
    rw [decide_eq_true_eq]
    exact (mem_take_stableSort htrans htotal hnodup (mem_stableSort.mp hx) n).symm
  rw [← hperm.countP_eq, ← hperm.length_eq, ← length_take]
  have htake : ((stableSort le l).take n).countP (fun x => decide (l.countP (fun y => ahead le key l y x) < n)) =
      ((stableSort le l).take n).length :=
    countP_eq_length.mpr fun x hx => (hmem (mem_of_mem_take hx)).mpr hx
  have hdrop : ((stableSort le l).drop n).countP (fun x => decide (l.countP (fun y => ahead le key l y x) < n)) = 0 := by
    refine countP_eq_zero.mpr fun x hx hlt => ?_
    have hin := (hmem (mem_of_mem_drop hx)).mp hlt
    rw [← take_append_drop n (stableSort le l)] at hsorted
    exact (nodup_append.mp hsorted).2.2 x hin x hx rfl
  have hsplit := congrArg (List.countP fun x => decide (l.countP (fun y => ahead le key l y x) < n))
    (take_append_drop n (stableSort le l)).symm
  rw [countP_append, htake, hdrop] at hsplit
  exact hsplit

end

/-! ## The first ones of a list -/

theorem filter_eq_take_countP {p : A → Bool} (h : l.Pairwise fun x y => p y = true → p x = true) :
    l.filter p = l.take (l.countP p) := by
  induction l with
  | nil => rfl
  | cons a l ih =>
    obtain ⟨hfirst, hrest⟩ := pairwise_cons.mp h
    cases hp : p a with
    | true => rw [filter_cons_of_pos hp, countP_cons_of_pos hp, take_succ_cons, ih hrest]
    | false =>
      have hnone : ∀ b ∈ l, ¬ p b = true := by
        intro b hb hpb
        rw [hfirst b hb hpb] at hp
        cases hp
      rw [filter_cons_of_neg (by rw [hp]; decide), filter_eq_nil_iff.mpr hnone, countP_eq_zero.mpr]
      · rfl
      intro b hb
      rcases mem_cons.mp hb with rfl | hmem
      · rw [hp]
        decide
      · exact hnone b hmem

theorem forall_mem_take_of_filter {p : A → Bool} {n : Nat} (h : l.filter p = l.take n) :
    (∀ a ∈ l.take n, p a = true) ∧ ∀ a ∈ l.drop n, p a = false := by
  have htake : ∀ a ∈ l.take n, p a = true := by
    intro a ha
    rw [← h] at ha
    exact (mem_filter.mp ha).2
  refine ⟨htake, fun a ha => ?_⟩
  have hsplit : l.filter p = (l.take n).filter p ++ (l.drop n).filter p := by
    rw [← filter_append, take_append_drop]
  rw [filter_eq_self.mpr htake, h] at hsplit
  have hnil := self_eq_append_right.mp hsplit
  exact Bool.eq_false_iff.mpr (filter_eq_nil_iff.mp hnil a ha)

/-- Two conditions select the first `n` of the items with one of them: when `p` has `n` items, or all,
this says that `p` goes by the order of the list where `q` holds, and selects nothing without `q` while
it leaves out something with `q`. -/
theorem filter_and_eq_take_iff {p q : A → Bool} {n : Nat} (hcount : l.countP p = min n l.length) :
    (l.filter fun x => p x && q x) = (l.filter q).take n ↔
      (l.Pairwise fun x y => q x = true → q y = true → p y = true → p x = true) ∧
        ((∃ x ∈ l, p x = true ∧ q x = false) → ∀ y ∈ l, p y = true ∨ q y = false) := by
  have hboth : (l.filter fun x => p x && q x) = (l.filter q).filter p := filter_filter.symm
  rw [hboth, ← pairwise_filter]
  have hcountq : (l.filter q).countP p = l.countP fun x => p x && q x := by
    rw [countP_filter]
  constructor
  · intro h
    obtain ⟨htake, hdrop⟩ := forall_mem_take_of_filter h
    constructor
    · rw [← take_append_drop n (l.filter q)]
      refine pairwise_append.mpr ⟨?_, ?_, ?_⟩
      · exact pairwise_of_forall_mem_list fun x hx _ _ _ => htake x hx
      · refine pairwise_of_forall_mem_list fun x _ y hy hpy => ?_
        rw [hdrop y hy] at hpy
        cases hpy
      · intro x hx _ _ _
        exact htake x hx
    · rintro ⟨x, hx, hpx, hqx⟩ y hy
      by_contra hnot
      rw [not_or, Bool.not_eq_true, Bool.not_eq_false] at hnot
      obtain ⟨hpy, hqy⟩ := hnot
      -- something with `q` is left out, so `p` has `n` items, one of them without `q`
      have hless : (l.filter q).countP p < l.countP p := by
        have hsplit := countP_eq_countP_filter_add l p q
        have hpos : 0 < (l.filter fun z => !q z).countP p :=
          countP_pos_iff.mpr ⟨x, mem_filter.mpr ⟨hx, by rw [hqx]; rfl⟩, hpx⟩
        omega
      have hlength := congrArg List.length h
      rw [← countP_eq_length_filter, length_take] at hlength
      have hall : (l.filter q).countP p = (l.filter q).length := by omega
      rw [countP_eq_length.mp hall y (mem_filter.mpr ⟨hy, hqy⟩)] at hpy
      cases hpy
  · rintro ⟨hpairwise, hslots⟩
    rw [filter_eq_take_countP hpairwise]
    by_cases hx : ∃ x ∈ l, p x = true ∧ q x = false
    · have hall : (l.filter q).countP p = (l.filter q).length := by
        refine countP_eq_length.mpr fun y hy => ?_
        obtain ⟨hmem, hqy⟩ := mem_filter.mp hy
        refine (hslots hx y hmem).resolve_right fun hfalse => ?_
        rw [hqy] at hfalse
        cases hfalse
      have hle : (l.filter q).countP p ≤ l.countP p := by
        rw [hcountq]
        exact countP_mono_left fun z _ hz => ((Bool.and_eq_true _ _).mp hz).1
      rw [hall, take_of_length_le (Nat.le_refl _), take_of_length_le (by omega)]
    · have hsame : (l.filter q).countP p = l.countP p := by
        rw [hcountq]
        refine countP_congr fun z hz => ?_
        rw [Bool.and_eq_true]
        refine ⟨And.left, fun hpz => ⟨hpz, ?_⟩⟩
        by_contra hqz
        exact hx ⟨z, hz, hpz, Bool.eq_false_iff.mpr hqz⟩
      rw [hsame, hcount]
      rcases Nat.le_total n l.length with hle | hle
      · rw [Nat.min_eq_left hle]
      · have hlength : (l.filter q).length ≤ l.length := length_filter_le _ _
        rw [Nat.min_eq_right hle, take_of_length_le hlength, take_of_length_le (by omega)]

end PiDaemon.Lib
