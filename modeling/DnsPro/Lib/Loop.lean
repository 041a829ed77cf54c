import Mathlib.Tactic

/-!
# Loops with a termination measure

A `while (true)` loop of the source is a body that either starts another
iteration or leaves with a result.  `Iteration` is the outcome of one body,
`Terminating` packs a body with a measure that every further iteration makes
smaller, and `exec` runs the loop to its result.  The fuel of `exec` is the
measure of the start state, so no caller ever sees an exhausted loop, and a
closed loop still evaluates.

Proofs use `exec_again` and `exec_done` to unfold one iteration, and
`exec_rule`, the invariant rule, to reason about the whole loop.
-/

namespace DnsPro.Loop

variable {σ ρ : Type}

/-- What one pass through the body of a loop does. -/
inductive Iteration (σ ρ : Type) where
  | again (state : σ)
  | done (result : ρ)

/-- At most `fuel` passes through the body. -/
def iterate (body : σ → Iteration σ ρ) : Nat → σ → Option ρ
  | 0, _ => none
  | fuel + 1, state =>
    match body state with
    | .again next => iterate body fuel next
    | .done result => some result

/-- A loop body whose further iterations make `measure` smaller. -/
structure Terminating (σ ρ : Type) where
  body : σ → Iteration σ ρ
  measure : σ → Nat
  decreasing : ∀ {state next : σ}, body state = .again next → measure next < measure state

/-- Fuel above the measure is enough fuel. -/
theorem iterate_isSome (loop : Terminating σ ρ) :
    ∀ (fuel : Nat) (state : σ), loop.measure state < fuel →
      (iterate loop.body fuel state).isSome := by
  intro fuel
  induction fuel with
  | zero => intro state h; exact absurd h (Nat.not_lt_zero _)
  | succ fuel ih =>
    intro state h
    rw [iterate]
    split
    · rename_i next hnext
      have := loop.decreasing hnext
      exact ih next (by omega)
    · rfl

/-- Extra fuel does not change the result. -/
theorem iterate_mono (body : σ → Iteration σ ρ) {result : ρ} :
    ∀ {fuel : Nat} (fuel' : Nat) {state : σ}, fuel ≤ fuel' →
      iterate body fuel state = some result → iterate body fuel' state = some result := by
  intro fuel
  induction fuel with
  | zero => intro fuel' state _ h; simp [iterate] at h
  | succ fuel ih =>
    intro fuel' state hle h
    obtain ⟨extra, rfl⟩ : ∃ extra, fuel' = extra + 1 := ⟨fuel' - 1, by omega⟩
    rw [iterate] at h ⊢
    split at h
    · exact ih _ (by omega) h
    · exact h

/-- Run the loop to its result. -/
def exec (loop : Terminating σ ρ) (state : σ) : ρ :=
  (iterate loop.body (loop.measure state + 1) state).get
    (iterate_isSome loop _ state (Nat.lt_succ_self _))

variable {loop : Terminating σ ρ} {state next : σ} {result : ρ}

private theorem iterate_eq_exec (loop : Terminating σ ρ) (state : σ) :
    iterate loop.body (loop.measure state + 1) state = some (exec loop state) :=
  (Option.some_get _).symm

/-- A loop that leaves within any number of passes leaves with its result. -/
theorem iterate_eq_some_iff {fuel : Nat} (h : (iterate loop.body fuel state).isSome) :
    iterate loop.body fuel state = some result ↔ exec loop state = result := by
  obtain ⟨found, hfound⟩ := Option.isSome_iff_exists.mp h
  have hmore :=
    iterate_mono loop.body (max fuel (loop.measure state + 1)) (Nat.le_max_left _ _) hfound
  have hexec := iterate_mono loop.body (max fuel (loop.measure state + 1)) (Nat.le_max_right _ _)
    (iterate_eq_exec loop state)
  rw [hmore, Option.some_inj] at hexec
  rw [hfound, Option.some_inj, hexec]

/-- A pass that moves `state` on, `passes` times over, and then leaves. -/
theorem iterate_of_passes {body : σ → Iteration σ ρ} (move : σ → σ) {passes : Nat} {state : σ}
    (hagain : ∀ pass < passes, body (move^[pass] state) = .again (move^[pass + 1] state))
    (hdone : body (move^[passes] state) = .done result) :
    iterate body (passes + 1) state = some result := by
  induction passes generalizing state with
  | zero =>
    change body state = .done result at hdone
    rw [iterate, hdone]
  | succ passes ih =>
    have hfirst := hagain 0 (Nat.succ_pos passes)
    change body state = .again (move state) at hfirst
    rw [iterate, hfirst]
    apply ih
    · intro pass hpass
      exact hagain (pass + 1) (Nat.succ_lt_succ hpass)
    · exact hdone

/-- One more iteration. -/
theorem exec_again (h : loop.body state = .again next) :
    exec loop state = exec loop next := by
  have hstart := iterate_eq_exec loop state
  rw [iterate, h] at hstart
  have hnext := iterate_mono loop.body (loop.measure state)
    (loop.decreasing h) (iterate_eq_exec loop next)
  exact Option.some.inj (hstart.symm.trans hnext)

/-- The iteration that leaves the loop. -/
theorem exec_done (h : loop.body state = .done result) : exec loop state = result := by
  have hstart := iterate_eq_exec loop state
  rw [iterate, h] at hstart
  exact (Option.some.inj hstart).symm

/-- Induction along a loop: what holds of a state that leaves and is passed back
from one iteration to the one before holds of every state and its result. -/
theorem exec_induction (loop : Terminating σ ρ) (motive : σ → ρ → Prop)
    (hagain : ∀ state next, loop.body state = .again next → motive next (exec loop next) →
      motive state (exec loop next))
    (hdone : ∀ state result, loop.body state = .done result → motive state result) (state : σ) :
    motive state (exec loop state) := by
  induction hm : loop.measure state using Nat.strongRecOn generalizing state with
  | ind m ih =>
    cases hbody : loop.body state with
    | again next =>
      rw [exec_again hbody]
      exact hagain state next hbody (ih _ (hm ▸ loop.decreasing hbody) next rfl)
    | done result =>
      rw [exec_done hbody]
      exact hdone state result hbody

/-- The invariant rule: what every iteration keeps, and what it gives at the
exit, holds of the result. -/
theorem exec_rule (loop : Terminating σ ρ) (Inv : σ → Prop) (Post : ρ → Prop)
    (hagain : ∀ state next, Inv state → loop.body state = .again next → Inv next)
    (hdone : ∀ state result, Inv state → loop.body state = .done result → Post result)
    (state : σ) (hstart : Inv state) : Post (exec loop state) :=
  exec_induction loop (fun state result => Inv state → Post result)
    (fun state next hbody ih h => ih (hagain state next h hbody))
    (fun state result hbody h => hdone state result h hbody) state hstart

/-- Two loops in lockstep: bodies that keep `Rel` and leave together give
related results. -/
theorem exec_rel {σ' ρ' : Type} (loop : Terminating σ ρ) (loop' : Terminating σ' ρ')
    (Rel : σ → σ' → Prop) (Post : ρ → ρ' → Prop)
    (hbody : ∀ state state', Rel state state' →
      match loop.body state, loop'.body state' with
      | .again next, .again next' => Rel next next'
      | .done result, .done result' => Post result result'
      | _, _ => False)
    (state : σ) (state' : σ') (hstart : Rel state state') :
    Post (exec loop state) (exec loop' state') := by
  induction hm : loop.measure state using Nat.strongRecOn generalizing state state' with
  | ind m ih =>
    have h := hbody state state' hstart
    cases h1 : loop.body state with
    | again next =>
      cases h2 : loop'.body state' with
      | again next' =>
        rw [h1, h2] at h
        rw [exec_again h1, exec_again h2]
        exact ih _ (hm ▸ loop.decreasing h1) next next' h rfl
      | done result' => rw [h1, h2] at h; exact h.elim
    | done result =>
      cases h2 : loop'.body state' with
      | again next' => rw [h1, h2] at h; exact h.elim
      | done result' =>
        rw [h1, h2] at h
        rw [exec_done h1, exec_done h2]
        exact h

end DnsPro.Loop
