import Mathlib.Data.List.Chain

/-!
# Layers

A table that is changed by one layer after the other.  A layer gives some entries, and the shape
that the table has from then on: entries outside the shape are dropped, and after a layer of
another shape nothing from below it is left.

* `get_of_latest`: when each layer of a new shape gives every entry, an entry of the table is what
  the latest layer gives for it;
* `latest_or_base`: there is no other entry than these and the ones of the base.
-/

namespace PiDaemon.Lib

open List Option

structure Layer (D K V : Type) where
  shape : D
  get : K → Option V

namespace Layer

variable {D K V : Type} [DecidableEq D] (within : D → K → Bool)

/-- The table after a layer. -/
def cover (below above : Layer D K V) : Layer D K V :=
  ⟨above.shape, fun k =>
    if within above.shape k = true then
      (above.get k).or (if above.shape = below.shape then below.get k else none)
    else none⟩

/-- The table after some layers. -/
def stack (base : Layer D K V) (layers : List (Layer D K V)) : Layer D K V :=
  layers.foldl (cover within) base

/-- What the last layer with an entry gives for it. -/
def latest (layers : List (Layer D K V)) (k : K) : Option V :=
  layers.foldl (fun found layer => (layer.get k).or found) none

/-- A layer of another shape than the one before gives every entry. -/
def Regular (layers : List (Layer D K V)) : Prop :=
  layers.IsChain fun a b => a.shape ≠ b.shape → ∀ k, within b.shape k = true → (b.get k).isSome = true

omit [DecidableEq D] in
@[simp] theorem latest_nil (k : K) : latest ([] : List (Layer D K V)) k = none := rfl

omit [DecidableEq D] in
theorem latest_concat (layers : List (Layer D K V)) (layer : Layer D K V) (k : K) :
    latest (layers ++ [layer]) k = (layer.get k).or (latest layers k) := by
  simp [latest]

omit [DecidableEq D] in
theorem latest_append (first second : List (Layer D K V)) (k : K) :
    latest (first ++ second) k = (latest second k).or (latest first k) := by
  induction second using List.reverseRecOn with
  | nil => simp
  | append_singleton second layer ih =>
    rw [← append_assoc, latest_concat, ih, latest_concat, Option.or_assoc]

omit [DecidableEq D] in
theorem latest_isSome {layers : List (Layer D K V)} {layer : Layer D K V} (h : layer ∈ layers) {k : K}
    (hk : (layer.get k).isSome = true) : (latest layers k).isSome = true := by
  induction layers using List.reverseRecOn with
  | nil => cases h
  | append_singleton layers other ih =>
    rw [latest_concat, isSome_or, Bool.or_eq_true]
    rcases mem_append.mp h with hold | hnew
    · exact .inr (ih hold)
    · rw [mem_singleton.mp hnew] at hk
      exact .inl hk

theorem stack_concat (base : Layer D K V) (layers : List (Layer D K V)) (layer : Layer D K V) :
    stack within base (layers ++ [layer]) = cover within (stack within base layers) layer := by
  simp [stack]

variable {within}

theorem get_cover {below above : Layer D K V} {k : K} (h : within above.shape k = true) :
    (cover within below above).get k =
      (above.get k).or (if above.shape = below.shape then below.get k else none) := by
  simp only [cover, h, if_true]

theorem within_of_get_cover {below above : Layer D K V} {k : K} {v : V}
    (h : (cover within below above).get k = some v) : within above.shape k = true := by
  simp only [cover] at h
  split at h
  · assumption
  · cases h

variable {layers : List (Layer D K V)}

theorem get_of_latest (hregular : Regular within layers) (base : Layer D K V) {k : K} {v : V}
    (hk : within (stack within base layers).shape k = true) (h : latest layers k = some v) :
    (stack within base layers).get k = some v := by
  induction layers using List.reverseRecOn with
  | nil => cases h
  | append_singleton layers layer ih =>
    rw [stack_concat] at hk ⊢
    rw [latest_concat] at h
    have hlayer : within layer.shape k = true := hk
    rw [get_cover hlayer]
    cases hget : layer.get k with
    | some =>
      rw [hget] at h
      exact h
    | none =>
      rw [hget] at h
      have hshape : layer.shape = (stack within base layers).shape := by
        cases layers using List.reverseRecOn with
        | nil => cases h
        | append_singleton =>
          rw [stack_concat]
          by_contra hne
          rw [Regular, append_assoc] at hregular
          have hall := (isChain_append.mp hregular).2.1.rel_head (Ne.symm hne) k hlayer
          rw [hget] at hall
          cases hall
      rw [if_pos hshape]
      refine ih (isChain_append.mp hregular).1 ?_ h
      rw [← hshape]
      exact hk

/-- An entry that no layer gives is the one of the base, when that has the shape of the table. -/
theorem get_of_latest_none (hregular : Regular within layers) {base : Layer D K V} {k : K}
    (hk : within (stack within base layers).shape k = true)
    (hbase : base.shape = (stack within base layers).shape) (h : latest layers k = none) :
    (stack within base layers).get k = base.get k := by
  induction layers using List.reverseRecOn with
  | nil => rfl
  | append_singleton layers layer ih =>
    rw [stack_concat] at hk hbase ⊢
    rw [latest_concat, or_eq_none_iff] at h
    have hlayer : within layer.shape k = true := hk
    have hshape : layer.shape = (stack within base layers).shape := by
      cases layers using List.reverseRecOn with
      | nil => exact hbase.symm
      | append_singleton =>
        rw [stack_concat]
        by_contra hne
        rw [append_assoc] at hregular
        have hall := (isChain_append.mp hregular).2.1.rel_head (Ne.symm hne) k hlayer
        rw [h.1] at hall
        cases hall
    rw [get_cover hlayer, h.1, if_pos hshape]
    exact ih (isChain_append.mp hregular).1 (hshape ▸ hlayer) (hbase.trans hshape) h.2

theorem Regular.suffix {layers rest : List (Layer D K V)} (h : Regular within layers)
    (hrest : rest <:+ layers) : Regular within rest := by
  obtain ⟨_, rfl⟩ := hrest
  exact (isChain_append.mp h).2.1

omit [DecidableEq D] in
theorem latest_suffix {layers rest : List (Layer D K V)} (hrest : rest <:+ layers) {k : K} {v : V}
    (h : latest rest k = some v) : latest layers k = some v := by
  obtain ⟨_, rfl⟩ := hrest
  rw [latest_append, h, some_or]

/-- An entry of the table is the latest one, or one of the base that no layer gives. -/
theorem latest_or_base {base : Layer D K V} {k : K} {v : V}
    (h : (stack within base layers).get k = some v) :
    latest layers k = some v ∨ latest layers k = none ∧ base.get k = some v := by
  induction layers using List.reverseRecOn with
  | nil => exact .inr ⟨rfl, h⟩
  | append_singleton layers layer ih =>
    rw [stack_concat] at h
    have hk := within_of_get_cover h
    rw [get_cover hk] at h
    rw [latest_concat]
    cases hget : layer.get k with
    | some => exact .inl (by rwa [hget] at h)
    | none =>
      rw [hget] at h
      split at h
      · exact ih h
      · cases h

end Layer

end PiDaemon.Lib
