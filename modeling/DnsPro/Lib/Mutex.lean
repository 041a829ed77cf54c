import Mathlib.Logic.Function.Basic

/-!
# Mutual exclusion

A mutex is the identity of the thread that holds it, if there is one, and what a
thread believes is read off its program counter: `owns thread`.  `Held` says that
the two agree, so that at most one thread believes that it owns the mutex.

`Moves` is what one step of a thread may do to a mutex: take it when it is free,
give it up, or leave it alone.  `Held.step` is the invariant rule for that.
-/

namespace DnsPro.Mutex

variable {ThreadId : Type} {owns : ThreadId → Bool} {holder holder' : Option ThreadId}
variable {thread : ThreadId}

/-- The threads that believe they own the mutex are the ones that hold it. -/
def Held (owns : ThreadId → Bool) (holder : Option ThreadId) : Prop :=
  ∀ thread, owns thread = true ↔ holder = some thread

/-- What a step of `thread` does to the mutex, from what the thread believes
before and after. -/
def Moves (thread : ThreadId) (before after : Bool) (holder holder' : Option ThreadId) : Prop :=
  match before, after with
  | false, true => holder = none ∧ holder' = some thread
  | true, false => holder' = none
  | _, _ => holder' = holder

/-- A step that the belief of the thread is not changed by leaves the mutex alone. -/
theorem moves_same (thread : ThreadId) (believes : Bool) (holder : Option ThreadId) :
    Moves thread believes believes holder holder := by
  cases believes <;> rfl

/-- A mutex that nobody holds and nobody believes to own. -/
theorem held_free (hfree : ∀ thread, owns thread = false) : Held owns none := by
  intro thread
  simp [hfree thread]

theorem Held.unique (hheld : Held owns holder) {other : ThreadId}
    (hthread : owns thread = true) (hother : owns other = true) : thread = other := by
  have hthread := (hheld thread).mp hthread
  have hother := (hheld other).mp hother
  exact Option.some.inj (hthread.symm.trans hother)

/-- The invariant rule: a step of one thread keeps the agreement. -/
theorem Held.step [DecidableEq ThreadId] (hheld : Held owns holder) {after : Bool}
    (hmoves : Moves thread (owns thread) after holder holder') :
    Held (Function.update owns thread after) holder' := by
  have hthread := hheld thread
  generalize owns thread = before at hmoves hthread
  intro other
  have hother := hheld other
  by_cases heq : other = thread
  · subst heq
    rw [Function.update_self]
    cases before <;> cases after <;> simp_all [Moves]
  · rw [Function.update_of_ne heq]
    have hne : ¬ thread = other := fun h => heq h.symm
    cases before <;> cases after <;> simp_all [Moves]

end DnsPro.Mutex
