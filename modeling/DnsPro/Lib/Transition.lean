import Mathlib.Tactic

/-!
# Runs of a transition system

A component is a state type, a label type and a partial step function: the
label names the operation together with everything the environment decides
(a clock reading, a random choice, the bytes of a datagram), and the step is
`none` when the callers' protocol does not allow the operation in that state.
A run is a list of labels.

`run_invariant` is the induction that every safety theorem uses: one step
lemma gives a fact about every run.  `run_trace_invariant` is the same for a
fact that also reads the labels so far, and `run_invariant_along` for the runs
whose steps all meet a condition.  `run_simulated` carries a run over to an
abstract system.
-/

namespace DnsPro.Transition

variable {σ ℓ : Type} {step : σ → ℓ → Option σ}

/-- The state after a list of operations, if each of them is allowed. -/
def run (step : σ → ℓ → Option σ) : σ → List ℓ → Option σ
  | state, [] => some state
  | state, label :: labels =>
    match step state label with
    | none => none
    | some next => run step next labels

/-- `state` is reached by some run from `start`. -/
def Reachable (step : σ → ℓ → Option σ) (start state : σ) : Prop :=
  ∃ labels, run step start labels = some state

@[simp] theorem run_nil (state : σ) : run step state [] = some state := rfl

theorem run_cons {state final : σ} {label : ℓ} {labels : List ℓ} :
    run step state (label :: labels) = some final ↔
      ∃ next, step state label = some next ∧ run step next labels = some final := by
  rw [run]
  cases step state label <;> simp

/-- A guarded operation that took place was allowed. -/
theorem enabled {p : Prop} [Decidable p] {state next : σ}
    (h : (if p then some state else none) = some next) : p ∧ state = next := by
  split at h
  · exact ⟨‹p›, Option.some.inj h⟩
  · cases h

theorem run_append {state final : σ} {labels labels' : List ℓ} :
    run step state (labels ++ labels') = some final ↔
      ∃ middle, run step state labels = some middle ∧
        run step middle labels' = some final := by
  induction labels generalizing state with
  | nil => simp
  | cons label labels ih =>
    simp only [List.cons_append, run_cons, ih]
    constructor
    · rintro ⟨next, hnext, middle, hrun, hfinal⟩
      exact ⟨middle, ⟨next, hnext, hrun⟩, hfinal⟩
    · rintro ⟨middle, ⟨next, hnext, hrun⟩, hfinal⟩
      exact ⟨next, hnext, middle, hrun, hfinal⟩

/-- What holds at the start and is kept by every step holds after every run. -/
theorem run_invariant (Inv : σ → Prop)
    (hstep : ∀ state label next, Inv state → step state label = some next → Inv next)
    {state final : σ} {labels : List ℓ} (hstart : Inv state)
    (hrun : run step state labels = some final) : Inv final := by
  induction labels generalizing state with
  | nil => exact Option.some.inj hrun ▸ hstart
  | cons label labels ih =>
    obtain ⟨next, hnext, hrun⟩ := run_cons.mp hrun
    exact ih (hstep _ _ _ hstart hnext) hrun

/-- A run seen as a run of another system: where the invariant holds, a step is a step of
what is seen, or it is not seen. -/
theorem run_simulated {τ κ : Type} {abstract : τ → κ → Option τ} (view : σ → τ) (Inv : σ → Prop)
    (hinv : ∀ state label next, Inv state → step state label = some next → Inv next)
    (hview : ∀ state label next, Inv state → step state label = some next →
      view next = view state ∨ ∃ seen, abstract (view state) seen = some (view next))
    {state final : σ} {labels : List ℓ} (hstart : Inv state)
    (hrun : run step state labels = some final) :
    Reachable abstract (view state) (view final) := by
  induction labels generalizing state with
  | nil =>
    obtain rfl := Option.some.inj hrun
    exact ⟨[], rfl⟩
  | cons label labels ih =>
    obtain ⟨next, hnext, hrun⟩ := run_cons.mp hrun
    obtain ⟨seen, hseen⟩ := ih (hinv _ _ _ hstart hnext) hrun
    rcases hview _ _ _ hstart hnext with hsame | ⟨first, hfirst⟩
    · exact ⟨seen, hsame ▸ hseen⟩
    · exact ⟨first :: seen, run_cons.mpr ⟨view next, hfirst, hseen⟩⟩

/-- The invariant rule for a fact about the state and the labels so far. -/
theorem run_trace_invariant (Inv : List ℓ → σ → Prop)
    (hstep : ∀ past state label next, Inv past state → step state label = some next →
      Inv (past ++ [label]) next)
    (past : List ℓ) {state final : σ} {labels : List ℓ} (hstart : Inv past state)
    (hrun : run step state labels = some final) : Inv (past ++ labels) final := by
  induction labels generalizing state past with
  | nil => simpa using Option.some.inj hrun ▸ hstart
  | cons label labels ih =>
    obtain ⟨next, hnext, hrun⟩ := run_cons.mp hrun
    have := ih (past ++ [label]) (hstep _ _ _ _ hstart hnext) hrun
    simpa using this

/-- Every step of the run is taken from a state that meets `ok`. -/
def Along (step : σ → ℓ → Option σ) (ok : σ → ℓ → Prop) (start : σ) (labels : List ℓ) : Prop :=
  ∀ past label rest reached, labels = past ++ label :: rest →
    run step start past = some reached → ok reached label

theorem along_cons {ok : σ → ℓ → Prop} {state next : σ} {label : ℓ} {labels : List ℓ}
    (hstep : step state label = some next) (halong : Along step ok state (label :: labels)) :
    ok state label ∧ Along step ok next labels := by
  constructor
  · exact halong [] label labels state rfl rfl
  · rintro past label' rest reached rfl hrun
    exact halong (label :: past) label' rest reached rfl (run_cons.mpr ⟨next, hstep, hrun⟩)

/-- `Along` as a computation. -/
def checkAlong (step : σ → ℓ → Option σ) (ok : σ → ℓ → Prop)
    [∀ state label, Decidable (ok state label)] : σ → List ℓ → Bool
  | _, [] => true
  | state, label :: labels =>
    decide (ok state label) &&
      match step state label with
      | none => true
      | some next => checkAlong step ok next labels

theorem along_of_check {ok : σ → ℓ → Prop} [∀ state label, Decidable (ok state label)]
    {state : σ} {labels : List ℓ} (h : checkAlong step ok state labels = true) :
    Along step ok state labels := by
  induction labels generalizing state with
  | nil =>
    intro past label rest _ hlabels
    simp at hlabels
  | cons label labels ih =>
    obtain ⟨hok, hrest⟩ := Bool.and_eq_true_iff.mp h
    intro past label' rest reached hlabels hrun
    cases past with
    | nil =>
      obtain ⟨rfl, _⟩ := List.cons.inj hlabels
      obtain rfl := Option.some.inj hrun
      exact of_decide_eq_true hok
    | cons first past =>
      obtain ⟨rfl, htail⟩ := List.cons.inj hlabels
      obtain ⟨next, hnext, hrun⟩ := run_cons.mp hrun
      rw [hnext] at hrest
      exact ih hrest past label' rest reached htail hrun

/-- The invariant rule for the runs whose steps meet a condition. -/
theorem run_invariant_along (Inv : σ → Prop) (ok : σ → ℓ → Prop)
    (hstep : ∀ state label next, Inv state → ok state label → step state label = some next →
      Inv next)
    {state final : σ} {labels : List ℓ} (hstart : Inv state)
    (hrun : run step state labels = some final) (halong : Along step ok state labels) :
    Inv final := by
  induction labels generalizing state with
  | nil => exact Option.some.inj hrun ▸ hstart
  | cons label labels ih =>
    obtain ⟨next, hnext, hrun⟩ := run_cons.mp hrun
    obtain ⟨hok, halong⟩ := along_cons hnext halong
    exact ih (hstep _ _ _ hstart hok hnext) hrun halong

end DnsPro.Transition
