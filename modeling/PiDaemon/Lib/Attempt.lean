import PiDaemon.Lib.Runs

/-!
# Calls that may throw

A call on a state either returns the next state or throws, and then leaves what it has done
so far.

* `Always`: what holds of the state either way;
* `Returns`: what holds of the state, and that the call returns.
-/

namespace PiDaemon.Lib

/-- The state that a call leaves. -/
inductive Attempt (S : Type) where
  | returned (s : S)
  | threw (s : S)

namespace Attempt

variable {S E : Type}

def state : Attempt S → S
  | returned s => s
  | threw s => s

def toOption : Attempt S → Option S
  | returned s => some s
  | threw _ => none

/-- A call after a call. -/
def andThen : Attempt S → (S → Attempt S) → Attempt S
  | returned s, f => f s
  | threw s, _ => threw s

/-- One call for each item of a list. -/
def each (f : S → E → Attempt S) : List E → S → Attempt S
  | [], s => returned s
  | item :: rest, s => (f s item).andThen fun s => each f rest s

/-- A change of the state that a call leaves. -/
def map (f : S → S) : Attempt S → Attempt S
  | returned s => returned (f s)
  | threw s => threw (f s)

theorem ite_map {f : S → S} {p : Prop} [Decidable p] {x y x' y' : Attempt S} (hx : x' = x.map f)
    (hy : y' = y.map f) : (if p then x' else y') = (if p then x else y).map f := by
  split
  · exact hx
  · exact hy

theorem andThen_map {f : S → S} {g : S → Attempt S} (hg : ∀ s, g (f s) = (g s).map f) (x : Attempt S) :
    (x.map f).andThen g = (x.andThen g).map f := by
  cases x with
  | returned s => exact hg s
  | threw s => rfl

theorem each_map {f : S → S} {g : S → E → Attempt S} (hg : ∀ s item, g (f s) item = (g s item).map f)
    (items : List E) (s : S) : each g items (f s) = (each g items s).map f := by
  induction items generalizing s with
  | nil => rfl
  | cons item rest ih => rw [each, each, hg, andThen_map ih]

theorem each_append (f : S → E → Attempt S) (items more : List E) (s : S) :
    each f (items ++ more) s = (each f items s).andThen (each f more) := by
  induction items generalizing s with
  | nil => rfl
  | cons item rest ih =>
    rw [List.cons_append, each, each]
    cases f s item with
    | returned t => exact ih t
    | threw t => rfl

def Always (P : S → Prop) (x : Attempt S) : Prop := P x.state

def Returns (P : S → Prop) (x : Attempt S) : Prop := ∃ s, x = returned s ∧ P s

variable {P Q : S → Prop}

theorem Returns.of {s : S} (h : P s) : Returns P (returned s) := ⟨s, rfl, h⟩

variable {f : S → E → Attempt S} {x : Attempt S}

theorem Returns.mono (h : Returns P x) (himp : ∀ s, P s → Q s) : Returns Q x := by
  obtain ⟨s, rfl, hs⟩ := h
  exact ⟨s, rfl, himp s hs⟩

theorem Always.mono (h : Always P x) (himp : ∀ s, P s → Q s) : Always Q x :=
  himp x.state h

theorem Returns.always (h : Returns P x) : Always P x := by
  obtain ⟨s, rfl, hs⟩ := h
  exact hs

theorem Always.andThen {f : S → Attempt S} (hx : Always P x) (hf : ∀ s, P s → Always P (f s)) :
    Always P (x.andThen f) := by
  cases x with
  | returned s => exact hf s hx
  | threw s => exact hx

theorem Returns.andThen {f : S → Attempt S} (hx : Returns P x) (hf : ∀ s, P s → Returns Q (f s)) :
    Returns Q (x.andThen f) := by
  obtain ⟨s, rfl, hs⟩ := hx
  exact hf s hs

theorem Always.each (hf : ∀ s, P s → ∀ item, Always P (f s item)) (items : List E) {s : S} (hs : P s) :
    Always P (each f items s) := by
  induction items generalizing s with
  | nil => exact hs
  | cons item rest ih => exact (hf s hs item).andThen fun t ht => ih ht

theorem Returns.each {items : List E} (hf : ∀ s, P s → ∀ item ∈ items, Returns P (f s item)) {s : S} (hs : P s) :
    Returns P (each f items s) := by
  induction items generalizing s with
  | nil => exact Returns.of hs
  | cons item rest ih =>
    refine (hf s hs item List.mem_cons_self).andThen fun t ht => ?_
    exact ih (fun u hu other hother => hf u hu other (List.mem_cons_of_mem _ hother)) ht

/-- Where no call throws, every item meets a condition whose breach makes its call throw. -/
theorem meets_of_each_returned {ok : S → E → Prop} (hthrows : ∀ s item, P s → ¬ok s item → ∀ t, f s item ≠ returned t)
    (hkeep : ∀ s item t, P s → ok s item → f s item = returned t → P t) {items : List E} {s t : S} (hs : P s)
    (h : each f items s = returned t) : Meets (fun s item => (f s item).toOption) ok s items := by
  induction items generalizing s with
  | nil => trivial
  | cons item rest ih =>
    rw [each] at h
    cases hf : f s item with
    | threw u =>
      rw [hf] at h
      cases h
    | returned u =>
      rw [hf] at h
      have hitem : ok s item :=
        Classical.byContradiction fun hnot => hthrows s item hs hnot u hf
      refine ⟨hitem, fun s' hs' => ?_⟩
      simp only [hf, toOption, Option.some.injEq] at hs'
      subst hs'
      exact ih (hkeep s item u hs hitem hf) h

/-- The calls that return are the steps of a run, and their condition is that of the run. -/
theorem Always.each_of_meets {ok : S → E → Prop} (hf : ∀ s, P s → ∀ item, ok s item → Always P (f s item))
    {items : List E} {s : S} (hs : P s) (hok : Meets (fun s item => (f s item).toOption) ok s items) :
    Always P (Attempt.each f items s) := by
  induction items generalizing s with
  | nil => exact hs
  | cons item rest ih =>
    have hitem := hf s hs item hok.1
    cases hcall : f s item with
    | threw t =>
      rw [Attempt.each, hcall]
      rw [hcall] at hitem
      exact hitem
    | returned t =>
      rw [Attempt.each, hcall]
      rw [hcall] at hitem
      exact ih hitem (hok.2 t (congrArg toOption hcall))

theorem Returns.each_of_meets {ok : S → E → Prop} (hf : ∀ s, P s → ∀ item, ok s item → Returns P (f s item))
    {items : List E} {s : S} (hs : P s) (hok : Meets (fun s item => (f s item).toOption) ok s items) :
    Returns P (Attempt.each f items s) := by
  induction items generalizing s with
  | nil => exact Returns.of hs
  | cons item rest ih =>
    obtain ⟨t, hcall, ht⟩ := hf s hs item hok.1
    rw [Attempt.each, hcall]
    exact ih ht (hok.2 t (congrArg toOption hcall))

end Attempt

end PiDaemon.Lib
