import Mathlib.Order.Defs.PartialOrder
import PiDaemon.Lib.OrderedMap

/-!
# Suspended routines

An asynchronous function is a `Routine`: it has returned, has thrown, or is suspended at a call and
goes on with the answer.  A pool of routines takes one step at a time: some routine gets its answer
and runs up to its next call.

A local state says how far a routine is; `Rules` say which calls it may make there, and in which
local state an answer leaves it.

* `Obeys.bind`, `Obeys.perform`, `Obeys.tryCatch`: the rules of a function from those of its
  parts;
* `Pool.Sound.spawn`, `Pool.Sound.resume`: routines that obey the rules keep an invariant.
-/

namespace PiDaemon.Lib

/-- `A c` is what the call `c` is answered with. -/
inductive Routine (C : Type) (A : C → Type) (E X : Type) where
  | done (result : Except E X)
  | call (c : C) (next : A c → Routine C A E X)

namespace Routine

variable {C : Type} {A : C → Type} {E X Y : Type}

def bind : Routine C A E X → (X → Routine C A E Y) → Routine C A E Y
  | done (.ok x), f => f x
  | done (.error e), _ => done (.error e)
  | call c next, f => call c fun a => (next a).bind f

instance : Monad (Routine C A E) where
  pure x := done (.ok x)
  bind := bind

/-- A call that does not throw. -/
def perform (c : C) : Routine C A E (A c) := call c fun a => done (.ok a)

def fail (e : E) : Routine C A E X := done (.error e)

/-- An answer that may be an error. -/
def ofExcept (result : Except E X) : Routine C A E X := done result

def failIf (p : Prop) [Decidable p] (e : E) : Routine C A E Unit :=
  if p then fail e else done (.ok ())

def tryCatch : Routine C A E X → (E → Routine C A E X) → Routine C A E X
  | done (.ok x), _ => done (.ok x)
  | done (.error e), handler => handler e
  | call c next, handler => call c fun a => (next a).tryCatch handler

/-- What the function returns or throws. -/
def attempt : Routine C A E X → Routine C A E (Except E X)
  | done result => done (.ok result)
  | call c next => call c fun a => (next a).attempt

end Routine

namespace Routine

variable {C : Type} {A : C → Type} {E X Y Z : Type}

theorem bind_assoc (routine : Routine C A E X) (f : X → Routine C A E Y) (g : Y → Routine C A E Z) :
    (routine >>= f) >>= g = routine >>= fun x => f x >>= g := by
  induction routine with
  | done result =>
    cases result with
    | error e => rfl
    | ok x => rfl
  | call c next ih => exact congrArg (Routine.call c) (funext ih)

end Routine

/-! ## Rules -/

/-- Which calls may be made in a local state, and where their answers lead. -/
structure Rules (C : Type) (A : C → Type) (L : Type) where
  before : L → C → Prop
  after : L → (c : C) → A c → L → Prop

namespace Routine

variable {C : Type} {A : C → Type} {E X Y L : Type} {rules : Rules C A L}

/-- The routine only makes calls that the rules allow, and ends in a local state with `post`. -/
def Obeys (rules : Rules C A L) (post : L → Except E X → Prop) : L → Routine C A E X → Prop
  | l, done result => post l result
  | l, call c next => rules.before l c ∧ ∀ a l', rules.after l c a l' → Obeys rules post l' (next a)

variable {post : L → Except E X → Prop} {post' : L → Except E Y → Prop} {l : L}

variable {routine : Routine C A E X}

theorem Obeys.mono {post' : L → Except E X → Prop} (h : Obeys rules post l routine)
    (himp : ∀ l result, post l result → post' l result) : Obeys rules post' l routine := by
  induction routine generalizing l with
  | done result => exact himp l result h
  | call c next ih => exact ⟨h.1, fun a l' ha => ih a (h.2 a l' ha)⟩

theorem Obeys.bind {f : X → Routine C A E Y} (h : Obeys rules post l routine)
    (hok : ∀ l x, post l (.ok x) → Obeys rules post' l (f x)) (herror : ∀ l e, post l (.error e) → post' l (.error e)) :
    Obeys rules post' l (routine >>= f) := by
  induction routine generalizing l with
  | done result =>
    cases result with
    | error e => exact herror l e h
    | ok x => exact hok l x h
  | call c next ih => exact ⟨h.1, fun a l' ha => ih a (h.2 a l' ha)⟩

theorem Obeys.tryCatch {handler : E → Routine C A E X} {final : L → Except E X → Prop}
    (h : Obeys rules post l routine) (hok : ∀ l x, post l (.ok x) → final l (.ok x))
    (herror : ∀ l e, post l (.error e) → Obeys rules final l (handler e)) :
    Obeys rules final l (routine.tryCatch handler) := by
  induction routine generalizing l with
  | done result =>
    cases result with
    | error e => exact herror l e h
    | ok x => exact hok l x h
  | call c next ih => exact ⟨h.1, fun a l' ha => ih a (h.2 a l' ha)⟩

/-- A call and what follows it. -/
theorem Obeys.perform {c : C} {f : A c → Routine C A E Y} (hbefore : rules.before l c)
    (hafter : ∀ a l', rules.after l c a l' → Obeys rules post' l' (f a)) :
    Obeys rules post' l (Routine.perform c >>= f) :=
  ⟨hbefore, hafter⟩

theorem Obeys.attempt {post' : L → Except E (Except E X) → Prop} (h : Obeys rules post l routine)
    (hpost : ∀ l result, post l result → post' l (.ok result)) : Obeys rules post' l routine.attempt := by
  induction routine generalizing l with
  | done result => exact hpost l result h
  | call c next ih => exact ⟨h.1, fun a l' ha => ih a (h.2 a l' ha)⟩

theorem Obeys.failIf {p : Prop} [Decidable p] {e : E} {f : Unit → Routine C A E Y}
    (hok : ¬p → Obeys rules post' l (f ())) (herror : p → post' l (.error e)) :
    Obeys rules post' l (Routine.failIf p e >>= f) := by
  by_cases hp : p
  · rw [Routine.failIf, if_pos hp]
    exact herror hp
  · rw [Routine.failIf, if_neg hp]
    exact hok hp

end Routine

/-! ## Pools -/

/-- A state, and the routines that work on it. -/
structure Pool (S C : Type) (A : C → Type) (E X : Type) where
  world : S
  routines : OrderedMap Nat (Routine C A E X)

/-- How the calls of a routine are answered; `V` is what the environment decides, and a call may
have to wait. -/
abbrev Handler (S C : Type) (A : C → Type) (V : Type) :=
  S → Nat → V → (c : C) → Option (S × A c)

namespace Pool

variable {S C : Type} {A : C → Type} {E X V L : Type} {handler : Handler S C A V}

/-- A routine goes on, or has ended. -/
def settle (p : Pool S C A E X) (id : Nat) (world : S) : Routine C A E X → Pool S C A E X
  | .done _ => ⟨world, p.routines.delete id⟩
  | .call c next => ⟨world, p.routines.set id (.call c next)⟩

/-- A routine begins, and runs up to its first call. -/
def spawn (p : Pool S C A E X) (id : Nat) (routine : Routine C A E X) : Option (Pool S C A E X) :=
  if p.routines.has id then none else some (p.settle id p.world routine)

/-- A routine gets its answer, and runs up to its next call. -/
def resume (handler : Handler S C A V) (p : Pool S C A E X) (id : Nat) (v : V) :
    Option (Pool S C A E X) :=
  match p.routines.get? id with
  | some (.call c next) =>
    (handler p.world id v c).map fun answered => p.settle id answered.1 (next answered.2)
  | _ => none

/-- A condition on the call that a routine is suspended at. -/
def Suspended (ok : S → Nat → V → C → Prop) (p : Pool S C A E X) (id : Nat) (v : V) : Prop :=
  ∀ c next, p.routines.get? id = some (.call c next) → ok p.world id v c

instance Suspended.decidable {ok : S → Nat → V → C → Prop} [∀ s id v c, Decidable (ok s id v c)]
    (p : Pool S C A E X) (id : Nat) (v : V) : Decidable (Suspended ok p id v) :=
  match h : p.routines.get? id with
  | none => .isTrue fun _ _ hcall => by rw [h] at hcall; cases hcall
  | some (.done _) => .isTrue fun _ _ hcall => by rw [h] at hcall; cases hcall
  | some (.call c _) =>
    decidable_of_iff (ok p.world id v c)
      ⟨fun hok _ _ hcall => by rw [h] at hcall; cases hcall; exact hok,
        fun hall => hall c _ h⟩

@[simp] theorem settle_world (p : Pool S C A E X) (id : Nat) (world : S)
    (routine : Routine C A E X) :
    (p.settle id world routine).world = world := by
  cases routine <;> rfl

variable {routine : Routine C A E X}

/-- A routine that begins changes nothing in the state. -/
theorem world_of_spawn {p p' : Pool S C A E X} {id : Nat} (h : p.spawn id routine = some p') :
    p'.world = p.world := by
  rw [spawn] at h
  split at h
  · cases h
  · cases h
    simp

/-- A step of a routine is the answer to the call that it is suspended at. -/
theorem resume_eq_some {p p' : Pool S C A E X} {id : Nat} {v : V} :
    p.resume handler id v = some p' ↔ ∃ c next s a, p.routines.get? id = some (.call c next) ∧
      handler p.world id v c = some (s, a) ∧ p' = p.settle id s (next a) := by
  rw [resume]
  constructor
  · intro h
    split at h
    · rename_i c next hroutine
      obtain ⟨⟨s, a⟩, hs, rfl⟩ := Option.map_eq_some_iff.mp h
      exact ⟨c, next, s, a, hroutine, hs, rfl⟩
    · cases h
  · rintro ⟨c, next, s, a, hroutine, hs, rfl⟩
    rw [hroutine]
    simp only [hs, Option.map_some]

/-- The invariant holds, and every routine obeys the rules from its local state. -/
structure Sound (rules : Rules C A L) (post : L → Except E X → Prop) (inv : S → Prop)
    (holds : S → Nat → L → Prop) (p : Pool S C A E X) : Prop where
  world : inv p.world
  routines : ∀ id routine, p.routines.get? id = some routine →
    ∃ l, holds p.world id l ∧ routine.Obeys rules post l

variable {rules : Rules C A L} {post : L → Except E X → Prop} {inv : S → Prop}
  {holds : S → Nat → L → Prop} {ok : S → Nat → V → C → Prop} {p p' : Pool S C A E X}

theorem Sound.settle (h : Sound rules post inv holds p) {id : Nat} {world : S} {l : L} (hinv : inv world)
    (hat : holds world id l) (hobeys : routine.Obeys rules post l)
    (hothers : ∀ other l', other ≠ id → holds p.world other l' → holds world other l') :
    Sound rules post inv holds (p.settle id world routine) := by
  cases routine with
  | done result =>
    refine ⟨hinv, fun other routine hother => ?_⟩
    obtain ⟨hne, hget⟩ := OrderedMap.get?_of_delete hother
    obtain ⟨l', hat', hroutine⟩ := h.routines other routine hget
    exact ⟨l', hothers other l' (Ne.symm hne) hat', hroutine⟩
  | call c next =>
    refine ⟨hinv, fun other routine hother => ?_⟩
    rw [Pool.settle, OrderedMap.get?_set] at hother
    split at hother
    · rename_i heq
      subst heq
      cases hother
      exact ⟨l, hat, hobeys⟩
    · rename_i hne
      obtain ⟨l', hat', hroutine⟩ := h.routines other routine hother
      exact ⟨l', hothers other l' (Ne.symm hne) hat', hroutine⟩

/-- **A routine that begins.** -/
theorem Sound.spawn (h : Sound rules post inv holds p) {id : Nat} {l : L}
    (hat : p.routines.get? id = none → holds p.world id l) (hobeys : routine.Obeys rules post l)
    (hspawn : p.spawn id routine = some p') : Sound rules post inv holds p' := by
  rw [Pool.spawn] at hspawn
  split at hspawn
  · cases hspawn
  rename_i hnew
  cases hspawn
  refine h.settle h.world (hat ?_) hobeys fun _ _ _ hother => hother
  simpa [OrderedMap.has] using hnew

/-- **A routine that goes on.** -/
theorem Sound.resume (h : Sound rules post inv holds p) {id : Nat} {v : V}
    (hanswer : ∀ c l s a, inv p.world → holds p.world id l → rules.before l c → ok p.world id v c →
      handler p.world id v c = some (s, a) →
      inv s ∧ (∃ l', rules.after l c a l' ∧ holds s id l') ∧
        ∀ other l', other ≠ id → holds p.world other l' → holds s other l')
    (hok : Suspended ok p id v) (hresume : p.resume handler id v = some p') :
    Sound rules post inv holds p' := by
  obtain ⟨c, next, s, a, hroutine, hs, rfl⟩ := resume_eq_some.mp hresume
  obtain ⟨l, hat, hbefore, hnext⟩ := h.routines id _ hroutine
  obtain ⟨hinv, ⟨l', hafter, hat'⟩, hothers⟩ :=
    hanswer c l s a h.world hat hbefore (hok c next hroutine) hs
  exact h.settle hinv hat' (hnext a l' hafter) hothers

end Pool

end PiDaemon.Lib
