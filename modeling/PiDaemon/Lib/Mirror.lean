import Mathlib.Data.List.Perm.Basic
import PiDaemon.Lib.OrderedMap

/-!
# Mirrored maps

A map of files that mirrors a map of records: each record has a file, named after its
key and holding what is written for it, and there are no other files.

* `Mirrors.set`, `Mirrors.delete`: both maps change in step, as long as no other key
  has the same file name;
* `Mirrors.perm`: the files are those of the records, each once.
-/

namespace PiDaemon.Lib

open List

variable {K V N F : Type} [DecidableEq K] [DecidableEq N]

/-! ## Replacing an item of a list -/

/-- The item with a key that no other one has. -/
theorem filter_eq_singleton {key : V → Option K} {l : List V} (h : (l.filterMap key).Nodup) {v : V} {k : K}
    (hv : v ∈ l) (hk : key v = some k) : l.filter (fun w => key w = some k) = [v] := by
  obtain ⟨left, right, rfl⟩ := append_of_mem hv
  rw [List.Nodup, pairwise_filterMap, pairwise_append, pairwise_cons] at h
  have hleft : left.filter (fun w => key w = some k) = [] := filter_eq_nil_iff.mpr fun w hw heq =>
    h.2.2 w hw v mem_cons_self k (of_decide_eq_true heq) k hk rfl
  have hright : right.filter (fun w => key w = some k) = [] := filter_eq_nil_iff.mpr fun w hw heq =>
    h.2.1.1 w hw k hk k (of_decide_eq_true heq) rfl
  rw [filter_append, hleft, filter_cons_of_pos (by simpa using hk), hright]
  rfl

theorem set_of_getElem? {l : List V} {i : Nat} {v : V} (h : l[i]? = some v) : l.set i v = l := by
  obtain ⟨hlt, rfl⟩ := List.getElem?_eq_some_iff.mp h
  exact set_getElem_self hlt

/-- The items are told apart by their keys. -/
theorem mem_set_of_nodup_map {l : List V} (key : V → K) (hnodup : (l.map key).Nodup) {i : Nat}
    {v w x : V} (h : l[i]? = some v) : x ∈ l.set i w ↔ x = w ∨ x ∈ l ∧ key x ≠ key v := by
  obtain ⟨hlt, rfl⟩ := List.getElem?_eq_some_iff.mp h
  rw [mem_iff_getElem?]
  simp only [List.getElem?_set]
  constructor
  · rintro ⟨j, hj⟩
    split at hj
    · simp only [hlt, if_true, Option.some.injEq] at hj
      exact .inl hj.symm
    rename_i hne
    refine .inr ⟨mem_of_getElem? hj, fun heq => hne ?_⟩
    obtain ⟨hlt', rfl⟩ := List.getElem?_eq_some_iff.mp hj
    have hi : i < (l.map key).length := (length_map key).symm ▸ hlt
    have hj' : j < (l.map key).length := (length_map key).symm ▸ hlt'
    have hinj : (l.map key)[i] = (l.map key)[j] ↔ i = j := hnodup.getElem_inj_iff
    rw [← hinj, getElem_map, getElem_map, heq]
  · rintro (rfl | ⟨hx, hne⟩)
    · exact ⟨i, by simp [hlt]⟩
    obtain ⟨j, hj⟩ := mem_iff_getElem?.mp hx
    refine ⟨j, ?_⟩
    rw [if_neg, hj]
    rintro rfl
    rw [h] at hj
    cases hj
    exact hne rfl

namespace OrderedMap

theorem perm_entries_of_get? {m m' : OrderedMap K V} (h : ∀ k, m.get? k = m'.get? k) :
    m.entries.Perm m'.entries := by
  apply (perm_ext_iff_of_nodup m.nodup.of_map m'.nodup.of_map).mpr
  rintro ⟨k, _⟩
  rw [mem_entries, mem_entries, h k]

theorem setIn_of_lookupIn_none {k : K} {v : V} {es : List (K × V)} (h : lookupIn k es = none) :
    setIn k v es = es ++ [(k, v)] := by
  induction es with
  | nil => rfl
  | cons e es ih =>
    simp only [lookupIn] at h
    split at h
    · cases h
    · rename_i hne
      simp [setIn, hne, ih h]

variable {m : OrderedMap K V}

theorem values_set_of_not_has {k : K} (h : m.get? k = none) (v : V) :
    (m.set k v).values = m.values ++ [v] := by
  simp [values, set, setIn_of_lookupIn_none h]

theorem filter_values_setIn {k : K} {v w : V} {p : V → Bool} (hp : p w = p v) {es : List (K × V)}
    (h : lookupIn k es = some w) :
    (((setIn k v es).map Prod.snd).filter p).length = ((es.map Prod.snd).filter p).length := by
  induction es with
  | nil => cases h
  | cons e es ih =>
    obtain ⟨_, b⟩ := e
    simp only [lookupIn] at h
    split at h
    · rename_i heq
      cases h
      cases hv : p v <;> simp [setIn, heq, hp, hv]
    · rename_i hne
      have := ih h
      cases hb : p b <;> simp [setIn, hne, hb, this]

/-- A value that is replaced by one of its kind. -/
theorem length_filter_values_set {k : K} {v w : V} {p : V → Bool} (h : m.get? k = some w)
    (hp : p w = p v) : ((m.set k v).values.filter p).length = (m.values.filter p).length :=
  filter_values_setIn hp h

theorem length_filter_values_delete_le (m : OrderedMap K V) (k : K) (p : V → Bool) :
    ((m.delete k).values.filter p).length ≤ (m.values.filter p).length :=
  (((sublist_deleteIn k m.entries).map Prod.snd).filter p).length_le

/-- A key takes its value with it. -/
theorem values_delete_perm {k : K} {v : V} (h : m.get? k = some v) :
    m.values.Perm (v :: (m.delete k).values) := by
  have hperm : ∀ es : List (K × V), lookupIn k es = some v → es.Perm ((k, v) :: deleteIn k es) := by
    intro es hes
    induction es with
    | nil => cases hes
    | cons e es ih =>
      obtain ⟨_, _⟩ := e
      rw [lookupIn] at hes
      rw [deleteIn]
      split at hes
      · rename_i heq
        cases hes
        rw [if_pos heq, heq]
      · rename_i hne
        rw [if_neg hne]
        exact ((ih hes).cons _).trans (List.Perm.swap _ _ _)
  exact (hperm m.entries h).map Prod.snd

theorem mem_values {v : V} : v ∈ m.values ↔ ∃ k, m.get? k = some v := by
  simp only [values, mem_map, Prod.exists, exists_eq_right, mem_entries]

/-- The entries of a list are set one after the other. -/
theorem get?_foldl_set (key : V → K) (vs : List V) (m : OrderedMap K V)
    (hnodup : (vs.map key).Nodup) :
    (∀ v ∈ vs, (vs.foldl (fun m v => m.set (key v) v) m).get? (key v) = some v) ∧
      ∀ k, k ∉ vs.map key → (vs.foldl (fun m v => m.set (key v) v) m).get? k = m.get? k := by
  induction vs generalizing m with
  | nil =>
    constructor
    · intro v hv
      cases hv
    · intro k _
      rfl
  | cons v vs ih =>
    rw [map_cons, nodup_cons] at hnodup
    obtain ⟨hset, hother⟩ := ih (m.set (key v) v) hnodup.2
    constructor
    · intro w hw
      rcases mem_cons.mp hw with rfl | hw
      · exact (hother (key w) hnodup.1).trans (get?_set_self m (key w) w)
      · exact hset w hw
    · intro k hk
      rw [map_cons, mem_cons, not_or] at hk
      rw [foldl_cons, hother k hk.2, get?_set_ne _ (Ne.symm hk.1)]

/-- One list of entries is set after another. -/
theorem get?_foldl_set_append (key : V → K) {first second : List V} (hfirst : (first.map key).Nodup)
    (hsecond : (second.map key).Nodup) (k : K) (v : V) :
    ((first ++ second).foldl (fun m v => m.set (key v) v) empty).get? k = some v ↔
      key v = k ∧ (v ∈ second ∨ v ∈ first ∧ k ∉ second.map key) := by
  obtain ⟨hin, hout⟩ := get?_foldl_set key first empty hfirst
  obtain ⟨hin', hout'⟩ := get?_foldl_set key second
    (first.foldl (fun m v => m.set (key v) v) empty) hsecond
  rw [foldl_append]
  constructor
  · intro h
    by_cases hk : k ∈ second.map key
    · obtain ⟨w, hw, rfl⟩ := mem_map.mp hk
      rw [hin' w hw] at h
      cases h
      exact ⟨rfl, .inl hw⟩
    · rw [hout' k hk] at h
      by_cases hk' : k ∈ first.map key
      · obtain ⟨w, hw, rfl⟩ := mem_map.mp hk'
        rw [hin w hw] at h
        cases h
        exact ⟨rfl, .inr ⟨hw, hk⟩⟩
      · rw [hout k hk'] at h
        cases h
  · rintro ⟨rfl, hv | ⟨hv, hk⟩⟩
    · exact hin' v hv
    · rw [hout' _ hk]
      exact hin v hv

/-- The keys of the values are the keys of the map. -/
theorem nodup_map_values (key : V → K) (hkey : ∀ k v, m.get? k = some v → key v = k) :
    (m.values.map key).Nodup := by
  have hkeys : m.values.map key = m.entries.map Prod.fst := by
    rw [values, map_map]
    exact map_congr_left fun e he => hkey e.1 e.2 (mem_entries.mp he)
  rw [hkeys]
  exact m.nodup

/-- A key that comes later in a list of distinct keys is not in the map yet. -/
theorem get?_of_nodup_append {k : K} {v : V} {es : List (K × V)}
    (h : ((m.entries ++ (k, v) :: es).map Prod.fst).Nodup) : m.get? k = none := by
  rw [map_append, nodup_append] at h
  exact lookupIn_eq_none.mpr fun hmem => h.2.2 k hmem k mem_cons_self rfl

theorem eq_of_entries {m m' : OrderedMap K V} (h : m.entries = m'.entries) : m = m' := by
  cases m
  cases m'
  cases h
  rfl

/-- A map is made of its values again, in their order. -/
theorem foldl_set_values (key : V → K) (m : OrderedMap K V)
    (hkey : ∀ k v, m.get? k = some v → key v = k) :
    m.values.foldl (fun acc v => acc.set (key v) v) empty = m := by
  have happend : ∀ (es : List (K × V)) (acc : OrderedMap K V), (∀ e ∈ es, key e.2 = e.1) →
      ((acc.entries ++ es).map Prod.fst).Nodup →
      ((es.map Prod.snd).foldl (fun acc v => acc.set (key v) v) acc).entries =
        acc.entries ++ es := by
    intro es
    induction es with
    | nil => intro acc _ _; exact (append_nil _).symm
    | cons e es ih =>
      obtain ⟨k, v⟩ := e
      intro acc hes hnodup
      have hk : key v = k := hes (k, v) mem_cons_self
      have hset : (acc.set (key v) v).entries = acc.entries ++ [(k, v)] := by
        rw [hk]
        exact setIn_of_lookupIn_none (get?_of_nodup_append hnodup)
      rw [map_cons, foldl_cons, ih]
      · rw [hset, append_assoc, singleton_append]
      · exact fun e he => hes e (mem_cons_of_mem _ he)
      · rw [hset, append_assoc]
        exact hnodup
  have hentries := happend m.entries empty (fun e he => hkey e.1 e.2 (mem_entries.mp he)) m.nodup
  exact eq_of_entries hentries

end OrderedMap

structure Mirrors (name : K → N) (file : V → F) (records : OrderedMap K V)
    (directory : OrderedMap N F) : Prop where
  read : ∀ k v, records.get? k = some v → directory.get? (name k) = some (file v)
  owned : ∀ n f, directory.get? n = some f → ∃ k v, records.get? k = some v ∧ name k = n

namespace Mirrors

variable {name : K → N} {file : V → F} {records : OrderedMap K V} {directory : OrderedMap N F}

theorem empty (name : K → N) (file : V → F) : Mirrors name file .empty .empty := by
  constructor
  · intro k v h
    cases h
  · intro n f h
    cases h

theorem set (h : Mirrors name file records directory) {k : K} (v : V)
    (hname : ∀ k' v', records.get? k' = some v' → name k' = name k → k' = k) :
    Mirrors name file (records.set k v) (directory.set (name k) (file v)) := by
  constructor
  · intro k' v' hget
    rw [OrderedMap.get?_set] at hget
    split at hget
    · rename_i heq
      cases hget
      rw [← heq, OrderedMap.get?_set_self]
    · rename_i hne
      rw [OrderedMap.get?_set_ne]
      · exact h.read k' v' hget
      · intro heq
        exact hne (hname k' v' hget heq.symm).symm
  · intro n f hget
    rw [OrderedMap.get?_set] at hget
    split at hget
    · rename_i heq
      exact ⟨k, v, OrderedMap.get?_set_self _ _ _, heq⟩
    rename_i hne
    obtain ⟨k', v', hrecord, rfl⟩ := h.owned n f hget
    refine ⟨k', v', ?_, rfl⟩
    rw [OrderedMap.get?_set_ne]
    · exact hrecord
    · rintro rfl
      exact hne rfl

theorem delete (h : Mirrors name file records directory) {k : K}
    (hname : ∀ k' v', records.get? k' = some v' → name k' = name k → k' = k) :
    Mirrors name file (records.delete k) (directory.delete (name k)) := by
  constructor
  · intro k' v' hget
    obtain ⟨hne, hget⟩ := OrderedMap.get?_of_delete hget
    rw [OrderedMap.get?_delete_ne]
    · exact h.read k' v' hget
    · intro heq
      exact hne (hname k' v' hget heq.symm).symm
  · intro n f hget
    obtain ⟨hne, hget⟩ := OrderedMap.get?_of_delete hget
    obtain ⟨k', v', hrecord, rfl⟩ := h.owned n f hget
    refine ⟨k', v', ?_, rfl⟩
    rw [OrderedMap.get?_delete_ne]
    · exact hrecord
    · rintro rfl
      exact hne rfl

theorem perm (h : Mirrors name file records directory)
    (hname : ∀ k v k' v', records.get? k = some v → records.get? k' = some v' →
      name k = name k' → k = k') :
    directory.entries.Perm (records.entries.map fun entry => (name entry.1, file entry.2)) := by
  have hnames : ((records.entries.map fun entry => (name entry.1, file entry.2)).map Prod.fst).Nodup := by
    rw [map_map]
    apply List.Nodup.map_on _ records.nodup.of_map
    rintro ⟨k, v⟩ hmem ⟨k', v'⟩ hmem' heq
    rw [OrderedMap.mem_entries] at hmem hmem'
    have hkey := hname k v k' v' hmem hmem' heq
    subst hkey
    rw [hmem] at hmem'
    cases hmem'
    rfl
  apply (perm_ext_iff_of_nodup directory.nodup.of_map hnames.of_map).mpr
  rintro ⟨n, f⟩
  simp only [mem_map, Prod.mk.injEq, Prod.exists, OrderedMap.mem_entries]
  constructor
  · intro hget
    obtain ⟨k, v, hrecord, rfl⟩ := h.owned n f hget
    refine ⟨k, v, hrecord, rfl, ?_⟩
    rw [h.read k v hrecord] at hget
    exact Option.some.inj hget
  · rintro ⟨k, v, hrecord, rfl, rfl⟩
    exact h.read k v hrecord

end Mirrors

end PiDaemon.Lib
