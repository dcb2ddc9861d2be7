import Mathlib.Data.List.Induction
import Mathlib.Data.List.Nodup

/-!
# Insertion-ordered maps

A finite map that enumerates its keys in the order of their first insertion:
`set` keeps the place of a key that is present and appends a new one, `delete`
removes the key.  The keys are distinct by construction, so `size` counts them.

* `get?_set`, `get?_delete`: the reading lemmas;
* `size_set_of_not_has`, `size_set_of_has`, `size_delete_of_has`,
  `size_delete_le`: the accounting lemmas;
* `mem_entries`: an entry is listed exactly when it is read;
* `get?_ofPairs`: a map of pairs with distinct keys;
* `get?_delete_expired`: deleting entries by their values;
* `get?_evict`, `newer_evict`: what deleting the oldest entries leaves.
-/

namespace PiDaemon.Lib

open List Option

variable {K V : Type}

structure OrderedMap (K V : Type) where
  entries : List (K × V)
  nodup : (entries.map Prod.fst).Nodup

namespace OrderedMap

def empty : OrderedMap K V := ⟨[], List.nodup_nil⟩

instance : Inhabited (OrderedMap K V) := ⟨empty⟩

def size (m : OrderedMap K V) : Nat := m.entries.length

def keys (m : OrderedMap K V) : List K := m.entries.map Prod.fst

def values (m : OrderedMap K V) : List V := m.entries.map Prod.snd

section
variable [DecidableEq K]

def lookupIn (k : K) : List (K × V) → Option V
  | [] => none
  | (k', v) :: es => if k' = k then some v else lookupIn k es

def setIn (k : K) (v : V) : List (K × V) → List (K × V)
  | [] => [(k, v)]
  | (k', v') :: es => if k' = k then (k, v) :: es else (k', v') :: setIn k v es

def deleteIn (k : K) : List (K × V) → List (K × V)
  | [] => []
  | (k', v') :: es => if k' = k then es else (k', v') :: deleteIn k es

theorem mem_keys_setIn {k k' : K} {v : V} {es : List (K × V)} :
    k' ∈ (setIn k v es).map Prod.fst ↔ k' = k ∨ k' ∈ es.map Prod.fst := by
  induction es with
  | nil => simp [setIn]
  | cons e es ih =>
    obtain ⟨a, b⟩ := e
    by_cases h : a = k
    · subst h; simp [setIn]
    · simp only [setIn, h, if_false, map_cons, mem_cons, ih]
      tauto

variable (m : OrderedMap K V) (k : K)

theorem nodup_setIn (v : V) (es : List (K × V)) (h : (es.map Prod.fst).Nodup) :
    ((setIn k v es).map Prod.fst).Nodup := by
  induction es with
  | nil => simp [setIn]
  | cons e es ih =>
    obtain ⟨a, b⟩ := e
    simp only [map_cons, nodup_cons] at h
    by_cases hk : a = k
    · subst hk; simpa [setIn] using h
    simp only [setIn, hk, if_false, map_cons, nodup_cons]
    refine ⟨fun hm => ?_, ih h.2⟩
    rcases mem_keys_setIn.mp hm with e | e
    · exact hk e
    · exact h.1 e

theorem sublist_deleteIn (es : List (K × V)) : (deleteIn k es).Sublist es := by
  induction es with
  | nil => exact List.Sublist.refl _
  | cons e es ih =>
    obtain ⟨a, b⟩ := e
    by_cases h : a = k
    · simp [deleteIn, h]
    · simpa [deleteIn, h] using ih

def get? (m : OrderedMap K V) (k : K) : Option V := lookupIn k m.entries

def has (m : OrderedMap K V) (k : K) : Bool := (m.get? k).isSome

def set (m : OrderedMap K V) (k : K) (v : V) : OrderedMap K V :=
  ⟨setIn k v m.entries, nodup_setIn k v _ m.nodup⟩

def delete (m : OrderedMap K V) (k : K) : OrderedMap K V :=
  ⟨deleteIn k m.entries, m.nodup.sublist ((sublist_deleteIn k _).map _)⟩

theorem lookupIn_setIn (k k' : K) (v : V) (es : List (K × V)) :
    lookupIn k' (setIn k v es) = if k = k' then some v else lookupIn k' es := by
  induction es with
  | nil => simp [setIn, lookupIn]
  | cons e es ih =>
    obtain ⟨a, b⟩ := e
    by_cases h : a = k
    · subst h
      by_cases h' : a = k' <;> simp [setIn, lookupIn, h']
    by_cases h' : a = k'
    · subst h'
      simp [setIn, lookupIn, h, Ne.symm h]
    · simp [setIn, lookupIn, h, h', ih]

theorem lookupIn_eq_none {k : K} {es : List (K × V)} :
    lookupIn k es = none ↔ k ∉ es.map Prod.fst := by
  induction es with
  | nil => simp [lookupIn]
  | cons e es ih =>
    obtain ⟨a, b⟩ := e
    by_cases h : a = k
    · simp [lookupIn, h]
    · simp [lookupIn, h, ih, Ne.symm h]

theorem lookupIn_deleteIn (k k' : K) (es : List (K × V)) (h : (es.map Prod.fst).Nodup) :
    lookupIn k' (deleteIn k es) = if k = k' then none else lookupIn k' es := by
  induction es with
  | nil => simp [deleteIn, lookupIn]
  | cons e es ih =>
    obtain ⟨a, b⟩ := e
    simp only [map_cons, nodup_cons] at h
    by_cases ha : a = k
    · subst ha
      by_cases h' : a = k'
      · subst h'
        simpa [deleteIn] using lookupIn_eq_none.mpr h.1
      · simp [deleteIn, lookupIn, h']
    · by_cases h' : a = k'
      · subst h'
        simp [deleteIn, lookupIn, ha, Ne.symm ha]
      · simp [deleteIn, lookupIn, ha, h', ih h.2]

@[simp] theorem get?_empty : (empty : OrderedMap K V).get? k = none := rfl

theorem get?_set (k k' : K) (v : V) : (m.set k v).get? k' = if k = k' then some v else m.get? k' :=
  lookupIn_setIn k k' v m.entries

@[simp] theorem get?_set_self (v : V) : (m.set k v).get? k = some v := by simp [get?_set]

theorem get?_set_ne {k k' : K} (h : k ≠ k') (v : V) : (m.set k v).get? k' = m.get? k' := by simp [get?_set, h]

theorem get?_delete (k k' : K) : (m.delete k).get? k' = if k = k' then none else m.get? k' :=
  lookupIn_deleteIn k k' m.entries m.nodup

@[simp] theorem get?_delete_self : (m.delete k).get? k = none := by
  simp [get?_delete]

theorem get?_delete_ne {k k' : K} (h : k ≠ k') : (m.delete k).get? k' = m.get? k' := by simp [get?_delete, h]

theorem has_iff {m : OrderedMap K V} {k : K} : m.has k = true ↔ ∃ v, m.get? k = some v := by
  simp [has, isSome_iff_exists]

theorem has_eq_false {m : OrderedMap K V} {k : K} : m.has k = false ↔ m.get? k = none := by
  simp [has]

theorem get?_of_delete {m : OrderedMap K V} {k k' : K} {v : V} (h : (m.delete k).get? k' = some v) :
    k ≠ k' ∧ m.get? k' = some v := by
  rw [get?_delete] at h
  split at h
  · cases h
  · exact ⟨by assumption, h⟩

theorem mem_of_lookupIn {k : K} {v : V} {es : List (K × V)} (h : lookupIn k es = some v) :
    (k, v) ∈ es := by
  induction es with
  | nil => simp [lookupIn] at h
  | cons e es ih =>
    obtain ⟨a, b⟩ := e
    by_cases ha : a = k
    · simp only [lookupIn, ha, if_true, Option.some.injEq] at h
      simp [ha, h]
    · simp only [lookupIn, ha, if_false] at h
      exact mem_cons_of_mem _ (ih h)

theorem lookupIn_of_mem {k : K} {v : V} {es : List (K × V)} (hn : (es.map Prod.fst).Nodup)
    (h : (k, v) ∈ es) : lookupIn k es = some v := by
  induction es with
  | nil => simp at h
  | cons e es ih =>
    obtain ⟨a, b⟩ := e
    simp only [map_cons, nodup_cons] at hn
    rcases mem_cons.mp h with e | e
    · cases e; simp [lookupIn]
    · have hne : a ≠ k := fun hk => hn.1 (hk ▸ List.mem_map.mpr ⟨(k, v), e, rfl⟩)
      simpa [lookupIn, hne] using ih hn.2 e

/-- An entry is listed exactly when it is read. -/
theorem mem_entries {m : OrderedMap K V} {k : K} {v : V} :
    (k, v) ∈ m.entries ↔ m.get? k = some v :=
  ⟨lookupIn_of_mem m.nodup, mem_of_lookupIn⟩

/-- `new Map(pairs)`: of several pairs with one key, the last counts. -/
def ofPairs (pairs : List (K × V)) : OrderedMap K V := pairs.foldl (fun m pair => m.set pair.1 pair.2) empty

theorem get?_ofPairs {pairs : List (K × V)} (hnodup : (pairs.map Prod.fst).Nodup) {k : K} {v : V} :
    (ofPairs pairs).get? k = some v ↔ (k, v) ∈ pairs := by
  induction pairs using List.reverseRecOn with
  | nil => simp [ofPairs]
  | append_singleton pairs pair ih =>
    rw [map_append, nodup_append] at hnodup
    obtain ⟨hpairs, -, hnew⟩ := hnodup
    have hset : ofPairs (pairs ++ [pair]) = (ofPairs pairs).set pair.1 pair.2 := by
      simp only [ofPairs, foldl_append, foldl_cons, foldl_nil]
    rw [hset, get?_set, mem_append, mem_singleton]
    by_cases hk : pair.1 = k
    · rw [if_pos hk]
      constructor
      · intro hv
        exact .inr (Prod.ext hk.symm (Option.some.inj hv).symm)
      rintro (hmem | rfl)
      · exact absurd hk.symm (hnew k (List.mem_map.mpr ⟨_, hmem, rfl⟩) pair.1 (mem_singleton_self _))
      · rfl
    · rw [if_neg hk, ih hpairs]
      constructor
      · exact .inl
      rintro (hmem | rfl)
      · exact hmem
      · exact absurd rfl hk

theorem length_setIn (v : V) (es : List (K × V)) :
    (setIn k v es).length = es.length + if (lookupIn k es).isSome then 0 else 1 := by
  induction es with
  | nil => simp [setIn, lookupIn]
  | cons e es ih =>
    obtain ⟨a, b⟩ := e
    by_cases h : a = k
    · simp [setIn, lookupIn, h]
    · simp only [setIn, lookupIn, h, if_false, length_cons, ih]
      omega

theorem length_deleteIn (es : List (K × V)) :
    (deleteIn k es).length + (if (lookupIn k es).isSome then 1 else 0) = es.length := by
  induction es with
  | nil => simp [deleteIn, lookupIn]
  | cons e es ih =>
    obtain ⟨a, b⟩ := e
    by_cases h : a = k
    · simp [deleteIn, lookupIn, h]
    · simp only [deleteIn, lookupIn, h, if_false, length_cons]
      omega

/-- Setting what is there already. -/
theorem set_of_get? {m : OrderedMap K V} {k : K} {v : V} (h : m.get? k = some v) : m.set k v = m := by
  obtain ⟨es, hnodup⟩ := m
  have hin : setIn k v es = es := by
    change lookupIn k es = some v at h
    clear hnodup
    induction es with
    | nil => cases h
    | cons e es ih =>
      obtain ⟨a, b⟩ := e
      rw [lookupIn] at h
      rw [setIn]
      split at h
      · rename_i heq
        rw [if_pos heq, heq, Option.some.inj h]
      · rename_i hne
        rw [if_neg hne, ih h]
  simp only [set, hin]

/-- A key that is present keeps its place. -/
theorem keys_set_of_has {m : OrderedMap K V} {k : K} {w : V} (h : m.get? k = some w) (v : V) :
    (m.set k v).keys = m.keys := by
  show (setIn k v m.entries).map Prod.fst = m.entries.map Prod.fst
  change lookupIn k m.entries = some w at h
  generalize m.entries = es at h
  induction es with
  | nil => cases h
  | cons e es ih =>
    rw [lookupIn] at h
    rw [setIn]
    split at h
    · rename_i heq
      rw [if_pos heq, map_cons, map_cons, heq]
    · rename_i hne
      rw [if_neg hne, map_cons, map_cons, ih h]

/-- The values are read at the keys. -/
theorem values_map_some : m.values.map some = m.keys.map m.get? := by
  rw [values, keys, List.map_map, List.map_map]
  refine map_congr_left fun e he => ?_
  exact (mem_entries.mp he).symm

theorem size_set_of_not_has {m : OrderedMap K V} {k : K} (h : m.get? k = none) (v : V) :
    (m.set k v).size = m.size + 1 := by
  have := length_setIn k v m.entries
  simp only [get?] at h
  simp only [size, set, this, h, isSome_none, Bool.false_eq_true, if_false]

theorem size_set_of_has {m : OrderedMap K V} {k : K} {w : V} (h : m.get? k = some w) (v : V) :
    (m.set k v).size = m.size := by
  have := length_setIn k v m.entries
  simp only [get?] at h
  simp only [size, set, this, h, isSome_some, if_true, Nat.add_zero]

theorem size_set_le (v : V) : (m.set k v).size ≤ m.size + 1 := by
  cases hget : m.get? k with
  | none => exact Nat.le_of_eq (size_set_of_not_has hget v)
  | some other =>
    rw [size_set_of_has hget v]
    exact Nat.le_succ _

theorem size_delete_of_has {m : OrderedMap K V} {k : K} {w : V} (h : m.get? k = some w) :
    (m.delete k).size + 1 = m.size := by
  have := length_deleteIn k m.entries
  simp only [get?] at h
  simpa [size, delete, h] using this

theorem size_delete_le : (m.delete k).size ≤ m.size :=
  (sublist_deleteIn k m.entries).length_le

/-- Steps that never grow a map. -/
theorem size_foldl_le {A : Type} {f : OrderedMap K V → A → OrderedMap K V}
    (h : ∀ m a, (f m a).size ≤ m.size) (l : List A) (m : OrderedMap K V) :
    (l.foldl f m).size ≤ m.size := by
  induction l generalizing m with
  | nil => exact Nat.le_refl _
  | cons a l ih => exact Nat.le_trans (ih (f m a)) (h m a)

/-- Deleting the listed keys whose values are expired, one after another. -/
theorem get?_foldl_delete (expired : V → Bool) (es : List (K × V)) (m : OrderedMap K V) (k : K) :
    (es.foldl (fun m e => if expired e.2 then m.delete e.1 else m) m).get? k =
      if es.any fun e => e.1 = k && expired e.2 then none else m.get? k := by
  induction es generalizing m with
  | nil => rfl
  | cons e es ih =>
    rw [foldl_cons, ih, any_cons]
    cases hx : expired e.2 with
    | false =>
      rw [Bool.and_false]
      rfl
    | true =>
      rw [Bool.and_true, if_pos rfl]
      by_cases hk : e.1 = k
      · simp [hk]
      · rw [get?_delete_ne m hk, decide_eq_false hk, Bool.false_or]

theorem get?_delete_expired (expired : V → Bool) (m : OrderedMap K V) (k : K) :
    (m.entries.foldl (fun m e => if expired e.2 then m.delete e.1 else m) m).get? k =
      (m.get? k).filter fun v => !expired v := by
  rw [get?_foldl_delete]
  have hany : (m.entries.any fun e => e.1 = k && expired e.2) = (m.get? k).any expired := by
    cases hg : m.get? k with
    | none =>
      refine List.any_eq_false.mpr fun e he hc => ?_
      simp only [Bool.and_eq_true, decide_eq_true_eq] at hc
      rw [← hc.1, mem_entries.mp he] at hg
      cases hg
    | some v =>
      cases hv : expired v with
      | true =>
        refine (List.any_eq_true.mpr ⟨(k, v), mem_entries.mpr hg, ?_⟩).trans hv.symm
        simp [hv]
      | false =>
        refine (List.any_eq_false.mpr fun e he hc => ?_).trans hv.symm
        simp only [Bool.and_eq_true, decide_eq_true_eq] at hc
        have := mem_entries.mp he
        rw [hc.1, hg] at this
        cases this
        rw [hv] at hc
        cases hc.2
  rw [hany]
  cases m.get? k with
  | none => rfl
  | some v =>
    cases hv : expired v with
    | true | false =>
      rw [filter_some]
      simp [hv]

/-- The entries whose values satisfy `p`. -/
def filterValues (p : V → Bool) (m : OrderedMap K V) : OrderedMap K V :=
  ⟨m.entries.filter fun e => p e.2,
    m.nodup.sublist ((List.filter_sublist (p := fun e => p e.2)).map Prod.fst)⟩

theorem get?_filterValues (p : V → Bool) (m : OrderedMap K V) (k : K) :
    (m.filterValues p).get? k = (m.get? k).filter p := by
  cases hget : (m.filterValues p).get? k with
  | some v =>
    have hmem := mem_entries.mpr hget
    rw [filterValues, mem_filter] at hmem
    rw [mem_entries.mp hmem.1, filter_some, if_pos hmem.2]
  | none =>
    cases hm : m.get? k with
    | none => rfl
    | some v =>
      rw [filter_some]
      split
      · rename_i hp
        have hmem : (k, v) ∈ (m.filterValues p).entries :=
          mem_filter.mpr ⟨mem_entries.mpr hm, hp⟩
        rw [mem_entries.mp hmem] at hget
        cases hget
      · rfl

theorem size_filterValues_le (p : V → Bool) (m : OrderedMap K V) : (m.filterValues p).size ≤ m.size :=
  length_filter_le _ _

theorem size_filterValues_eq_zero {p : V → Bool} {m : OrderedMap K V} :
    (m.filterValues p).size = 0 ↔ ∀ k v, m.get? k = some v → p v = false := by
  rw [size, filterValues, length_eq_zero_iff, filter_eq_nil_iff]
  constructor
  · intro h k v hget
    exact Bool.eq_false_iff.mpr (h (k, v) (mem_entries.mpr hget))
  · rintro h ⟨k, v⟩ hmem
    exact Bool.eq_false_iff.mp (h k v (mem_entries.mp hmem))

/-- Every value is replaced. -/
def mapValues (f : V → V) (m : OrderedMap K V) : OrderedMap K V :=
  ⟨m.entries.map fun e => (e.1, f e.2), by
    rw [List.map_map]
    exact m.nodup⟩

theorem lookupIn_map (f : V → V) (k : K) (es : List (K × V)) :
    lookupIn k (es.map fun e => (e.1, f e.2)) = (lookupIn k es).map f := by
  induction es with
  | nil => rfl
  | cons e es ih =>
    rw [map_cons, lookupIn, lookupIn]
    split
    · rfl
    · exact ih

theorem get?_mapValues (f : V → V) (m : OrderedMap K V) (k : K) :
    (m.mapValues f).get? k = (m.get? k).map f :=
  lookupIn_map f k m.entries

theorem exists_of_size_ne_zero {m : OrderedMap K V} (h : m.size ≠ 0) : ∃ k v, m.get? k = some v := by
  obtain ⟨⟨k, v⟩, hmem⟩ := exists_mem_of_length_pos (Nat.pos_of_ne_zero h)
  exact ⟨k, v, mem_entries.mp hmem⟩

theorem get?_of_size_eq_zero {m : OrderedMap K V} (h : m.size = 0) (k : K) : m.get? k = none := by
  unfold get?
  rw [eq_nil_of_length_eq_zero h]
  rfl

end

/-! ## Eviction -/

section
variable (limit : Nat)

/-- Delete the oldest entry until fewer than `limit` are left. -/
def evictIn : List (K × V) → List (K × V)
  | [] => []
  | e :: es => if limit ≤ (e :: es).length then evictIn es else e :: es

theorem sublist_evictIn (es : List (K × V)) : (evictIn limit es).Sublist es := by
  induction es with
  | nil => exact .slnil
  | cons e es ih =>
    rw [evictIn]
    split
    · exact ih.cons e
    · exact .refl _

def evict (m : OrderedMap K V) : OrderedMap K V :=
  ⟨evictIn limit m.entries, m.nodup.sublist ((sublist_evictIn limit m.entries).map Prod.fst)⟩

end

section
variable [DecidableEq K]

/-- How many entries there are from `k` on. -/
def newerIn (k : K) (es : List (K × V)) : Nat := (es.dropWhile fun e => e.1 ≠ k).length

def newer (m : OrderedMap K V) (k : K) : Nat := newerIn k m.entries

theorem newerIn_cons (k : K) (e : K × V) (es : List (K × V)) :
    newerIn k (e :: es) = if e.1 = k then es.length + 1 else newerIn k es := by
  unfold newerIn
  by_cases h : e.1 = k <;> simp [h]

theorem newerIn_le (k : K) (es : List (K × V)) : newerIn k es ≤ es.length :=
  (dropWhile_sublist _).length_le

theorem evictIn_of_newer {limit : Nat} {k : K} {es : List (K × V)} (h : newerIn k es < limit) :
    lookupIn k (evictIn limit es) = lookupIn k es ∧
      newerIn k (evictIn limit es) = newerIn k es := by
  induction es with
  | nil => exact ⟨rfl, rfl⟩
  | cons e es ih =>
    obtain ⟨a, b⟩ := e
    rw [evictIn]
    split
    · rename_i hfull
      by_cases heq : a = k
      · rw [newerIn_cons, if_pos heq] at h
        simp only [length_cons] at hfull
        omega
      · rw [newerIn_cons, if_neg heq] at h
        rw [newerIn_cons, if_neg heq, lookupIn, if_neg heq]
        exact ih h
    · exact ⟨rfl, rfl⟩

variable {m : OrderedMap K V}

theorem get?_evict {limit : Nat} {k : K} (h : m.newer k < limit) : (m.evict limit).get? k = m.get? k :=
  (evictIn_of_newer h).1

theorem newer_evict {limit : Nat} {k : K} (h : m.newer k < limit) : (m.evict limit).newer k = m.newer k :=
  (evictIn_of_newer h).2

theorem get?_evict_none {k : K} (limit : Nat) (h : m.get? k = none) : (m.evict limit).get? k = none :=
  lookupIn_eq_none.mpr fun hmem =>
    lookupIn_eq_none.mp h (((sublist_evictIn limit m.entries).map Prod.fst).mem hmem)

theorem newer_set_le (m : OrderedMap K V) {k k' : K} (hne : k' ≠ k) (v : V) :
    (m.set k' v).newer k ≤ m.newer k + 1 := by
  show newerIn k (setIn k' v m.entries) ≤ newerIn k m.entries + 1
  generalize m.entries = es
  induction es with
  | nil => simp [setIn, newerIn_cons, hne]
  | cons e es ih =>
    rw [setIn]
    split
    · rename_i heq
      rw [newerIn_cons, newerIn_cons, if_neg hne, if_neg (heq ▸ hne)]
      omega
    · rw [newerIn_cons, newerIn_cons]
      split
      · rw [length_setIn]
        split <;> omega
      · exact ih

theorem newer_set_self {k : K} (h : m.get? k = none) (v : V) : (m.set k v).newer k = 1 := by
  change lookupIn k m.entries = none at h
  show newerIn k (setIn k v m.entries) = 1
  generalize m.entries = es at h
  induction es with
  | nil => simp [setIn, newerIn_cons, newerIn]
  | cons e es ih =>
    rw [lookupIn] at h
    split at h
    · cases h
    rename_i hne
    rw [setIn, if_neg hne, newerIn_cons, if_neg hne]
    exact ih h

theorem newer_filterValues_le (p : V → Bool) (m : OrderedMap K V) (k : K) :
    (m.filterValues p).newer k ≤ m.newer k := by
  show newerIn k (m.entries.filter fun e => p e.2) ≤ newerIn k m.entries
  generalize m.entries = es
  induction es with
  | nil => exact Nat.le_refl _
  | cons e es ih =>
    rw [filter_cons]
    split
    · rw [newerIn_cons, newerIn_cons]
      split
      · exact Nat.succ_le_succ (length_filter_le _ _)
      · exact ih
    · rw [newerIn_cons]
      split
      · have hle : newerIn k (es.filter fun e => p e.2) ≤ (es.filter fun e => p e.2).length :=
          newerIn_le k _
        exact Nat.le_succ_of_le (Nat.le_trans hle (length_filter_le _ _))
      · exact ih

end

end OrderedMap

end PiDaemon.Lib
