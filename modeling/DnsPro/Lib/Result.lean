import Mathlib.Tactic

/-!
# Computations that may fail

`std::expected` is `Except`, and a chain of early returns is a `do` block.
These lemmas take such a block apart: a block that succeeds succeeded at each
of its steps.
-/

namespace DnsPro.Result

variable {ε α β : Type}

theorem bind_eq_ok {x : Except ε α} {f : α → Except ε β} {b : β} :
    (x >>= f) = .ok b ↔ ∃ a, x = .ok a ∧ f a = .ok b := by
  cases x with
  | error e => simp [bind, Except.bind]
  | ok a => simp [bind, Except.bind]

@[simp] theorem ok_bind (a : α) (f : α → Except ε β) :
    ((Except.ok a : Except ε α) >>= f) = f a := rfl

@[simp] theorem pure_eq_ok (a : α) : (pure a : Except ε α) = .ok a := rfl

/-- What comes after a step need only agree on what the step returns. -/
theorem bind_congr_ok {x : Except ε α} {f f' : α → Except ε β} (h : ∀ a, x = .ok a → f a = f' a) :
    (x >>= f) = (x >>= f') := by
  cases x with
  | error e => rfl
  | ok a => exact h a rfl

theorem map_bind (x : Except ε α) (f : α → Except ε β) {γ : Type} (g : β → γ) :
    (x >>= f).map g = x >>= fun a => (f a).map g := by
  cases x with
  | error e => rfl
  | ok a => rfl

end DnsPro.Result
