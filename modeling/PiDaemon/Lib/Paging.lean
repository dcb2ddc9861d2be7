import Mathlib.Data.List.Nodup
import Mathlib.Data.List.Perm.Basic

/-!
# Pages of a list

A list is given out page by page.  The next page begins after the last item of the one before, in
an order of its own: it has the items of the whole list that are greater than that one.

* `pages_isSome`: there is a last page;
* `flatten_pages_perm_iff`: the pages have every item once exactly when, at the end of every page,
  what comes after it in the list is what is greater than its last item.
-/

namespace PiDaemon.Lib

open List Option

section
variable {A : Type} (lt : A → A → Bool) (n : Nat) (l : List A)

/-- The pages of some items and of what comes after them. -/
def pages : Nat → List A → Option (List (List A))
  | 0, _ => none
  | fuel + 1, rest =>
    if rest.length ≤ n then some [rest]
    else
      (rest.take n).getLast?.bind fun last =>
        (pages fuel (l.filter (lt last))).map fun later => rest.take n :: later

/-- With an item, these are all the greater ones. -/
def Upward (rest : List A) : Prop :=
  ∃ p : A → Bool, rest = l.filter p ∧ ∀ a b, p a = true → lt a b = true → p b = true

/-- At the end of every page after the first `m` items, what comes after it is what is greater than
its last item. -/
def AlignedFrom (m : Nat) : Prop :=
  ∀ k, 0 < k → m + k * n < l.length → ∀ last ∈ l[m + k * n - 1]?, l.filter (lt last) = l.drop (m + k * n)

variable {lt n l}

theorem upward_all : Upward lt l l := ⟨fun _ => true, by simp, fun _ _ _ _ => rfl⟩

theorem upward_filter (htrans : ∀ a b c, lt a b = true → lt b c = true → lt a c = true) (a : A) :
    Upward lt l (l.filter (lt a)) := ⟨lt a, rfl, fun b c hb hc => htrans a b c hb hc⟩

variable {fuel : Nat} {rest : List A} {ps : List (List A)}

/-- What is greater than an item is among the items that are left. -/
theorem Upward.filter (h : Upward lt l rest) {last : A} (hlast : last ∈ rest) :
    l.filter (lt last) = rest.filter (lt last) := by
  obtain ⟨_, rfl, hp⟩ := h
  rw [List.filter_filter]
  refine filter_congr fun a _ => ?_
  cases hlt : lt last a with
  | false => rfl
  | true => simp [hp last a (mem_filter.mp hlast).2 hlt]

theorem getLast?_take (hn : 0 < n) (hlong : n < rest.length) : (rest.take n).getLast? = some rest[n - 1] := by
  rw [List.getLast?_eq_getElem?, length_take, Nat.min_eq_left (by omega), List.getElem?_take,
    if_pos (by omega), List.getElem?_eq_getElem (by omega)]

theorem pages_last (h : rest.length ≤ n) : pages lt n l (fuel + 1) rest = some [rest] := by
  rw [pages, if_pos h]

theorem pages_more (hn : 0 < n) (hlong : n < rest.length) :
    pages lt n l (fuel + 1) rest =
      (pages lt n l fuel (l.filter (lt rest[n - 1]))).map fun later => rest.take n :: later := by
  rw [pages, if_neg (by omega), getLast?_take hn hlong]
  rfl

/-- There is a last page. -/
theorem pages_isSome (hirrefl : ∀ a, lt a a = false) (htrans : ∀ a b c, lt a b = true → lt b c = true → lt a c = true)
    (hn : 0 < n) (h : Upward lt l rest) (hfuel : rest.length < fuel) : (pages lt n l fuel rest).isSome = true := by
  induction fuel generalizing rest with
  | zero => omega
  | succ fuel ih =>
    by_cases hlong : n < rest.length
    · have hlast : rest[n - 1] ∈ rest := getElem_mem _
      have hless : (rest.filter (lt rest[n - 1])).length < rest.length := by
        rw [length_filter_lt_length_iff_exists]
        exact ⟨_, hlast, by simp [hirrefl]⟩
      have hfits : (l.filter (lt rest[n - 1])).length < fuel := by
        rw [h.filter hlast]
        omega
      rw [pages_more hn hlong, isSome_map]
      exact ih (upward_filter htrans _) hfits
    · rw [pages_last (by omega)]
      rfl

theorem mem_flatten_pages (htrans : ∀ a b c, lt a b = true → lt b c = true → lt a c = true) (hn : 0 < n)
    (h : Upward lt l rest) (hpages : pages lt n l fuel rest = some ps) {a : A} (ha : a ∈ ps.flatten) : a ∈ rest := by
  induction fuel generalizing rest ps with
  | zero => cases hpages
  | succ fuel ih =>
    by_cases hlong : n < rest.length
    · rw [pages_more hn hlong, map_eq_some_iff] at hpages
      obtain ⟨_, hlater, rfl⟩ := hpages
      rw [flatten_cons, mem_append] at ha
      rcases ha with ha | ha
      · exact mem_of_mem_take ha
      have hmem := ih (upward_filter htrans _) hlater ha
      rw [h.filter (getElem_mem _)] at hmem
      exact (mem_filter.mp hmem).1
    · rw [pages_last (by omega)] at hpages
      cases hpages
      simpa using ha

/-- The first item that is left is given out first. -/
theorem head_mem_pages (hn : 0 < n) {a : A} (hpages : pages lt n l fuel (a :: rest) = some ps) : a ∈ ps.flatten := by
  cases fuel with
  | zero => cases hpages
  | succ fuel =>
    by_cases hlong : n < (a :: rest).length
    · rw [pages_more hn hlong, map_eq_some_iff] at hpages
      obtain ⟨_, -, rfl⟩ := hpages
      obtain ⟨m, rfl⟩ : ∃ m, n = m + 1 := ⟨n - 1, by omega⟩
      simp
    · rw [pages_last (by omega)] at hpages
      cases hpages
      simp

/-- When the pages have every item once, the first of them ends where the next one begins. -/
theorem filter_eq_drop (htrans : ∀ a b c, lt a b = true → lt b c = true → lt a c = true) (hn : 0 < n)
    (hnodup : l.Nodup) {fuel m : Nat} (hlong : m + n < l.length) (hup : Upward lt l (l.drop m))
    {later : List (List A)} (hlater : pages lt n l fuel (l.filter (lt l[m + n - 1])) = some later)
    (hperm : later.flatten.Perm (l.drop (m + n))) : l.filter (lt l[m + n - 1]) = l.drop (m + n) := by
  have hlast : l[m + n - 1] ∈ l.drop m := by
    rw [mem_drop_iff_getElem]
    exact ⟨n - 1, by omega, by congr 1; omega⟩
  have hsplit : l.drop m = (l.drop m).take n ++ l.drop (m + n) := by
    rw [← drop_drop, take_append_drop]
  have hfilter : l.filter (lt l[m + n - 1]) =
      ((l.drop m).take n).filter (lt l[m + n - 1]) ++ (l.drop (m + n)).filter (lt l[m + n - 1]) := by
    rw [hup.filter hlast, ← filter_append, ← hsplit]
  have hdisjoint : ∀ a ∈ (l.drop m).take n, a ∉ l.drop (m + n) := by
    have hdrop : (l.drop m).Nodup := hnodup.sublist (drop_sublist _ _)
    rw [hsplit] at hdrop
    intro a ha hmem
    exact (nodup_append.mp hdrop).2.2 a ha a hmem rfl
  -- a greater item of this page would come first on the next one
  have hfirst : ((l.drop m).take n).filter (lt l[m + n - 1]) = [] := by
    cases hitems : ((l.drop m).take n).filter (lt l[m + n - 1]) with
    | nil => rfl
    | cons a items =>
      rw [hfilter, hitems] at hlater
      have hagain := hperm.mem_iff.mp (head_mem_pages hn hlater)
      have ha : a ∈ ((l.drop m).take n).filter (lt l[m + n - 1]) := by
        rw [hitems]
        exact mem_cons_self
      exact absurd hagain (hdisjoint a (mem_filter.mp ha).1)
  have hall : (l.drop (m + n)).filter (lt l[m + n - 1]) = l.drop (m + n) := by
    refine filter_eq_self.mpr fun a ha => ?_
    have hmem := mem_flatten_pages htrans hn (upward_filter htrans _) hlater (hperm.mem_iff.mpr ha)
    exact (mem_filter.mp hmem).2
  rw [hfilter, hfirst, hall, nil_append]

theorem alignedFrom_of_perm (htrans : ∀ a b c, lt a b = true → lt b c = true → lt a c = true) (hn : 0 < n)
    (hnodup : l.Nodup) {fuel m : Nat} (hup : Upward lt l (l.drop m)) (hpages : pages lt n l fuel (l.drop m) = some ps)
    (hperm : ps.flatten.Perm (l.drop m)) : AlignedFrom lt n l m := by
  induction fuel generalizing m ps with
  | zero => cases hpages
  | succ fuel ih =>
    intro k hk hbound last hlast
    have hkn : n ≤ k * n := Nat.le_mul_of_pos_left n hk
    have hlong : n < (l.drop m).length := by
      rw [length_drop]
      omega
    rw [pages_more hn hlong, map_eq_some_iff] at hpages
    obtain ⟨later, hlater, rfl⟩ := hpages
    have hitem : (l.drop m)[n - 1] = l[m + n - 1] := by
      rw [getElem_drop]
      congr 1
      omega
    rw [hitem] at hlater
    have hrest : later.flatten.Perm (l.drop (m + n)) := by
      have hsplit : l.drop m = (l.drop m).take n ++ l.drop (m + n) := by
        rw [← drop_drop, take_append_drop]
      exact (perm_append_left_iff _).mp (hperm.trans (List.Perm.of_eq hsplit))
    have hfilter := filter_eq_drop htrans hn hnodup (by omega) hup hlater hrest
    obtain ⟨k, rfl⟩ : ∃ j, k = j + 1 := ⟨k - 1, by omega⟩
    by_cases hfirst : k = 0
    · subst hfirst
      rw [Nat.one_mul] at hbound hlast ⊢
      rw [List.getElem?_eq_getElem (by omega), mem_some] at hlast
      subst hlast
      exact hfilter
    · rw [hfilter] at hlater
      have hup' : Upward lt l (l.drop (m + n)) := by
        rw [← hfilter]
        exact upward_filter htrans _
      have hsum : m + (k + 1) * n = m + n + k * n := by
        rw [Nat.succ_mul]
        omega
      rw [hsum] at hbound hlast ⊢
      exact ih hup' hlater hrest k (by omega) hbound last hlast

theorem flatten_pages_of_aligned (hn : 0 < n) {fuel m : Nat} (h : AlignedFrom lt n l m)
    (hpages : pages lt n l fuel (l.drop m) = some ps) : ps.flatten = l.drop m := by
  induction fuel generalizing m ps with
  | zero => cases hpages
  | succ fuel ih =>
    by_cases hlong : n < (l.drop m).length
    · rw [pages_more hn hlong, map_eq_some_iff] at hpages
      obtain ⟨_, hlater, rfl⟩ := hpages
      rw [length_drop] at hlong
      have hitem : (l.drop m)[n - 1] = l[m + n - 1] := by
        rw [getElem_drop]
        congr 1
        omega
      have hfilter : l.filter (lt l[m + n - 1]) = l.drop (m + n) := by
        have hone := h 1 (by decide)
        rw [Nat.one_mul] at hone
        exact hone (by omega) _ (List.getElem?_eq_getElem (by omega))
      rw [hitem, hfilter] at hlater
      have hrest : AlignedFrom lt n l (m + n) := by
        intro k hk hbound last hlast
        have hsum : m + n + k * n = m + (k + 1) * n := by
          rw [Nat.succ_mul]
          omega
        rw [hsum] at hbound hlast ⊢
        exact h (k + 1) (by omega) hbound last hlast
      rw [flatten_cons, ih hrest hlater, ← drop_drop, take_append_drop]
    · rw [pages_last (by omega)] at hpages
      cases hpages
      simp

/-- Some of the items are those after the first ones. -/
theorem filter_eq_drop_iff {p : A → Bool} (hnodup : l.Nodup) (m : Nat) :
    l.filter p = l.drop m ↔ ∀ (j : Nat), ∀ a ∈ l[j]?, p a = true ↔ m ≤ j := by
  constructor
  · intro h j a ha
    obtain ⟨hj, rfl⟩ := List.getElem?_eq_some_iff.mp ha
    have hmem : p l[j] = true ↔ l[j] ∈ l.drop m := by
      rw [← h]
      simp
    rw [hmem, mem_drop_iff_getElem]
    constructor
    · rintro ⟨_, _, heq⟩
      have hij := (List.Nodup.getElem_inj_iff hnodup).mp heq
      omega
    · intro hm
      exact ⟨j - m, by omega, by congr 1; omega⟩
  · intro h
    conv_lhs => rw [← take_append_drop m l]
    rw [filter_append]
    have hfirst : (l.take m).filter p = [] := by
      refine filter_eq_nil_iff.mpr fun a ha => ?_
      obtain ⟨j, hj, rfl⟩ := getElem_of_mem ha
      rw [length_take] at hj
      have hiff := h j l[j] (List.getElem?_eq_getElem (by omega))
      rw [getElem_take, hiff]
      omega
    have hrest : (l.drop m).filter p = l.drop m := by
      refine filter_eq_self.mpr fun a ha => ?_
      obtain ⟨j, hj, rfl⟩ := getElem_of_mem ha
      rw [length_drop] at hj
      have hiff := h (m + j) l[m + j] (List.getElem?_eq_getElem (by omega))
      rw [getElem_drop, hiff]
      omega
    rw [hfirst, hrest, nil_append]

/-- **Every item once.** -/
theorem flatten_pages_perm_iff (htrans : ∀ a b c, lt a b = true → lt b c = true → lt a c = true) (hn : 0 < n)
    (hnodup : l.Nodup) (hpages : pages lt n l fuel l = some ps) : ps.flatten.Perm l ↔ AlignedFrom lt n l 0 := by
  have hzero : pages lt n l fuel (l.drop 0) = some ps := hpages
  constructor
  · exact alignedFrom_of_perm htrans hn hnodup upward_all hzero
  intro h
  rw [flatten_pages_of_aligned hn h hzero]
  rfl

end

end PiDaemon.Lib
