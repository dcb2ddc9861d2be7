/-!
# Runs of a partial step function

A machine is a function `step : S → E → Option S`: the event `e` is enabled in
`s` when `step s e` is some state.  `run` takes a list of events one after
another.

* `run_invariant`: what holds at the start and is kept by every step holds at
  the end of every run;
* `run_invariant_of_meets`: the same for the runs whose steps all meet a
  condition on the event and the state before it (`Meets`);
* `run_relation`: a reflexive and transitive relation that every step is in
  relates the ends of a run.
-/

namespace PiDaemon.Lib

variable {S E : Type}

/-- Take the events of a list one after another. -/
def run (step : S → E → Option S) : S → List E → Option S
  | s, [] => some s
  | s, e :: es => (step s e).bind fun s' => run step s' es

/-- Every step of the run meets `ok` in the state it is taken from. -/
def Meets (step : S → E → Option S) (ok : S → E → Prop) : S → List E → Prop
  | _, [] => True
  | s, e :: es => ok s e ∧ ∀ s', step s e = some s' → Meets step ok s' es

/-- A condition that can be decided at each step can be decided along a run. -/
instance Meets.decidable {step : S → E → Option S} {ok : S → E → Prop}
    [∀ s e, Decidable (ok s e)] : (s : S) → (es : List E) → Decidable (Meets step ok s es)
  | _, [] => .isTrue trivial
  | s, e :: es =>
    match hs : step s e with
    | none =>
      decidable_of_iff (ok s e)
        ⟨fun h => ⟨h, fun _ h' => absurd (hs.symm.trans h') (Option.some_ne_none _).symm⟩, And.left⟩
    | some t =>
      have : Decidable (Meets step ok t es) := Meets.decidable t es
      decidable_of_iff (ok s e ∧ Meets step ok t es)
        ⟨fun h => ⟨h.1, fun _ h' => Option.some.inj (hs.symm.trans h') ▸ h.2⟩,
          fun h => ⟨h.1, h.2 t hs⟩⟩

/-- What a computation gives can be tested by computing it. -/
instance (priority := high) decidableExistsSome {A : Type} (o : Option A) (p : A → Prop) [DecidablePred p] :
    Decidable (∃ a, o = some a ∧ p a) :=
  match o with
  | none => .isFalse fun ⟨_, h, _⟩ => by cases h
  | some a => decidable_of_iff (p a) (by simp)

instance (priority := high) decidableExistsOk {X A : Type} (result : Except X A) (p : A → Prop) [DecidablePred p] :
    Decidable (∃ a, result = .ok a ∧ p a) :=
  match result with
  | .error _ => .isFalse fun ⟨_, h, _⟩ => by cases h
  | .ok a => decidable_of_iff (p a) (by simp)

theorem exists_some {A : Type} {o : Option A} {q : A → Prop} (h : o.isSome = true)
    (hq : ∀ a, o = some a → q a) : ∃ a, o = some a ∧ q a := by
  obtain ⟨a, ha⟩ := Option.isSome_iff_exists.mp h
  exact ⟨a, ha, hq a ha⟩

/-- What is tested of a result, and what is proved of it. -/
theorem exists_some_and {A : Type} {o : Option A} {p q : A → Prop} (h : ∃ a, o = some a ∧ p a)
    (hq : ∀ a, o = some a → p a → q a) : ∃ a, o = some a ∧ p a ∧ q a := by
  obtain ⟨a, ha, hp⟩ := h
  exact ⟨a, ha, hp, hq a ha hp⟩

@[simp] theorem run_nil (step : S → E → Option S) (s : S) : run step s [] = some s := rfl

variable {step : S → E → Option S} {ok : S → E → Prop} {es : List E}

theorem run_cons_eq_some {s t : S} {e : E} :
    run step s (e :: es) = some t ↔ ∃ s', step s e = some s' ∧ run step s' es = some t := by
  simp [run, Option.bind_eq_some_iff]

theorem meets_append {s m : S} {es fs : List E} (hm : run step s es = some m)
    (h : Meets step ok s (es ++ fs)) : Meets step ok s es ∧ Meets step ok m fs := by
  induction es generalizing s with
  | nil =>
    simp only [run_nil, Option.some.injEq] at hm
    subst hm
    exact ⟨trivial, h⟩
  | cons e es ih =>
    obtain ⟨s', hs, hm⟩ := run_cons_eq_some.mp hm
    have hrest := ih hm (h.2 s' hs)
    refine ⟨⟨h.1, fun t ht => ?_⟩, hrest.2⟩
    rw [hs] at ht
    cases ht
    exact hrest.1

/-- **Invariants of conditional runs.** -/
theorem run_invariant_of_meets {inv : S → Prop}
    (keep : ∀ s e s', inv s → ok s e → step s e = some s' → inv s') {s t : S} (h0 : inv s)
    (hok : Meets step ok s es) (ht : run step s es = some t) : inv t := by
  induction es generalizing s with
  | nil =>
    simp only [run_nil, Option.some.injEq] at ht
    exact ht ▸ h0
  | cons e es ih =>
    obtain ⟨s', hs, ht⟩ := run_cons_eq_some.mp ht
    exact ih (keep s e s' h0 hok.1 hs) (hok.2 s' hs) ht

theorem meets_true (step : S → E → Option S) (s : S) (es : List E) :
    Meets step (fun _ _ => True) s es := by
  induction es generalizing s with
  | nil => trivial
  | cons e es ih => exact ⟨trivial, fun s' _ => ih s'⟩

theorem meets_of_forall {s : S} (h : ∀ e ∈ es, ∀ t, ok t e) : Meets step ok s es := by
  induction es generalizing s with
  | nil => trivial
  | cons e es ih =>
    rw [List.forall_mem_cons] at h
    exact ⟨h.1 s, fun s' _ => ih h.2⟩

theorem Meets.both {ok ok' : S → E → Prop} {s : S} (h : Meets step ok s es)
    (h' : Meets step ok' s es) : Meets step (fun s e => ok s e ∧ ok' s e) s es := by
  induction es generalizing s with
  | nil => trivial
  | cons e es ih => exact ⟨⟨h.1, h'.1⟩, fun s' hs => ih (h.2 s' hs) (h'.2 s' hs)⟩

/-- A condition on the events alone joins the condition of a run. -/
theorem meets_and {p : E → Prop} {s : S} (hp : ∀ e ∈ es, p e) (h : Meets step ok s es) :
    Meets step (fun s e => p e ∧ ok s e) s es := by
  induction es generalizing s with
  | nil => trivial
  | cons e es ih =>
    rw [List.forall_mem_cons] at hp
    exact ⟨⟨hp.1, h.1⟩, fun s' hs => ih hp.2 (h.2 s' hs)⟩

/-- **Invariants of runs.** -/
theorem run_invariant {inv : S → Prop} (keep : ∀ s e s', inv s → step s e = some s' → inv s')
    {s t : S} (h0 : inv s) (ht : run step s es = some t) : inv t :=
  run_invariant_of_meets (fun s e s' hi _ hs => keep s e s' hi hs) h0 (meets_true step s es) ht

/-- **Conditions of runs.**  When a step keeps what is good exactly when it meets the condition, a run
ends well exactly when it begins well and meets the condition. -/
theorem run_meets_iff {inv good : S → Prop}
    (keep : ∀ s e s', inv s → step s e = some s' → inv s')
    (hgood : ∀ s e s', inv s → step s e = some s' → (good s' ↔ good s ∧ ok s e)) {s t : S} (h0 : inv s)
    (ht : run step s es = some t) : good t ↔ good s ∧ Meets step ok s es := by
  induction es generalizing s with
  | nil =>
    obtain rfl := Option.some.inj ht
    exact (and_iff_left trivial).symm
  | cons e es ih =>
    obtain ⟨s', hs, ht⟩ := run_cons_eq_some.mp ht
    rw [ih (keep s e s' h0 hs) ht, hgood s e s' h0 hs, and_assoc]
    refine and_congr_right fun _ => and_congr_right fun _ => ⟨fun h u hu => ?_, fun h => h s' hs⟩
    rw [hs] at hu
    cases hu
    exact h

theorem meets_weaken {ok ok' : S → E → Prop} (himp : ∀ s e, ok s e → ok' s e) {s : S}
    (h : Meets step ok s es) : Meets step ok' s es := by
  induction es generalizing s with
  | nil => trivial
  | cons e es ih => exact ⟨himp s e h.1, fun s' hs => ih (h.2 s' hs)⟩

/-- A reflexive and transitive relation that holds along every step of a
conditional run, given an invariant of such runs, relates its two ends. -/
theorem run_relation {inv : S → Prop} {rel : S → S → Prop} (refl : ∀ s, rel s s)
    (trans : ∀ a b c, rel a b → rel b c → rel a c)
    (keep : ∀ s e s', inv s → ok s e → step s e = some s' → inv s' ∧ rel s s') {s t : S}
    (h0 : inv s) (hok : Meets step ok s es) (ht : run step s es = some t) : rel s t := by
  induction es generalizing s with
  | nil =>
    simp only [run_nil, Option.some.injEq] at ht
    exact ht ▸ refl s
  | cons e es ih =>
    obtain ⟨s', hs, ht⟩ := run_cons_eq_some.mp ht
    obtain ⟨hi, hr⟩ := keep s e s' h0 hok.1 hs
    exact trans _ _ _ hr (ih hi (hok.2 s' hs) ht)

end PiDaemon.Lib
