import Mathlib.Data.List.Induction

/-!
# Checks

A function that checks its input one condition after the other: the rules that
take a successful run of it apart.
-/

namespace PiDaemon.Lib

open List

section
variable {E A B : Type}

/-- Throws `error` unless the condition holds. -/
def check (condition : Bool) (error : E) : Except E Unit :=
  if condition then .ok () else .error error

@[simp] theorem check_ok {condition : Bool} {error : E} {u : Unit} :
    check condition error = .ok u ↔ condition = true := by
  cases condition <;> simp [check]

@[simp] theorem bind_ok {x : Except E A} {f : A → Except E B} {b : B} :
    (x >>= f) = .ok b ↔ ∃ a, x = .ok a ∧ f a = .ok b := by
  cases x <;> simp [bind, Except.bind]

theorem then_ok {x : Except E Unit} {y : Except E B} {b : B} :
    (x >>= fun _ => y) = .ok b ↔ x = .ok () ∧ y = .ok b := by
  cases x <;> simp [bind, Except.bind]

@[simp] theorem toOption_eq_some {x : Except E A} {a : A} : x.toOption = some a ↔ x = .ok a := by
  cases x <;> simp [Except.toOption]

@[simp] theorem mapError_ok {E' : Type} {g : E → E'} {x : Except E A} {a : A} :
    x.mapError g = .ok a ↔ x = .ok a := by
  cases x with
  | error error =>
    constructor <;> intro h <;> cases h
  | ok value =>
    constructor <;> intro h <;> cases h <;> rfl

@[simp] theorem forM_ok {f : A → Except E PUnit} {x : Option A} {u : PUnit} :
    x.forM f = .ok u ↔ ∀ a, x = some a → f a = .ok u := by
  cases x <;> simp [Option.forM, pure, Except.pure]

@[simp] theorem list_forM_ok {f : A → Except E PUnit} {l : List A} :
    l.forM f = .ok () ↔ ∀ a ∈ l, f a = .ok () := by
  induction l with
  | nil => simp [pure, Except.pure]
  | cons a l ih =>
    rw [forall_mem_cons, ← ih]
    exact then_ok

theorem list_mapM_ok {f : A → Except E B} {l : List A} {results : List B} :
    l.mapM f = .ok results ↔ l.map f = results.map .ok := by
  induction l generalizing results with
  | nil => cases results <;> simp [pure, Except.pure]
  | cons a l ih =>
    rw [mapM_cons]
    simp only [bind_ok, ih]
    constructor
    · rintro ⟨result, hresult, rest, hrest, heq⟩
      cases heq
      rw [map_cons, map_cons, hresult, hrest]
    · intro h
      cases results with
      | nil => cases h
      | cons result rest => exact ⟨result, (List.cons.inj h).1, rest, (List.cons.inj h).2, rfl⟩

/-- A loop whose state is `f` of what it has passed, and whose steps succeed as long as `p` holds of that. -/
theorem foldlM_ok {S : Type} {step : S → A → Except E S} {f : List A → S} {p : List A → Prop} {start s : S}
    (hstart : f [] = start) (hnil : p []) (hinit : ∀ {l a}, p (l ++ [a]) → p l)
    (hstep : ∀ {l a s}, p l → (step (f l) a = .ok s ↔ p (l ++ [a]) ∧ s = f (l ++ [a]))) (l : List A) :
    l.foldlM step start = .ok s ↔ p l ∧ s = f l := by
  subst hstart
  induction l using List.reverseRecOn generalizing s with
  | nil => simp [pure, Except.pure, hnil, eq_comm]
  | append_singleton l a ih =>
    rw [foldlM_append, bind_ok]
    simp only [ih, foldlM_cons, foldlM_nil, bind_pure]
    constructor
    · rintro ⟨_, ⟨hl, rfl⟩, hs⟩
      exact (hstep hl).mp hs
    · rintro ⟨hla, rfl⟩
      exact ⟨f l, ⟨hinit hla, rfl⟩, (hstep (hinit hla)).mpr ⟨hla, rfl⟩⟩

end

end PiDaemon.Lib
