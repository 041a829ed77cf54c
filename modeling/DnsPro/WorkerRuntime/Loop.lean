import DnsPro.WorkerRuntime.Actions

/-!
# The loops of the scheduler

`Rests` is what holds of a worker outside `run_ready`, and `Runs` says what a run of
the loop does: it comes back to such a state, the frames destroyed before it are still
gone, and once the stop was requested the registries and the counters are as they were.
A pass of the loop is a resumption, the script of the task and what follows it.
-/

namespace DnsPro.WorkerRuntime

open DnsPro.Protocol DnsPro.Runtime DnsPro.Upstream DnsPro.Ownership

variable {env : Environment} {state next third : State} {task child : TaskId}

/-- The worker is outside `run_ready`. -/
structure Rests (state : State) : Prop where
  inv : Inv state
  idle : ∀ task, ¬ state.executing task
  dispatching : state.dispatching = false
  calm : state.cancelPending = false

/-- The loop has run. -/
structure Runs (state next : State) : Prop where
  rests : Rests next
  grows : Grows state next
  settled : state.system.scheduler.stopRequested = true → Settled state.system next.system

theorem Runs.refl (h : Rests state) : Runs state state :=
  ⟨h, ⟨List.prefix_refl _, Nat.le_refl _⟩, fun _ => Settled.refl _⟩

theorem Runs.trans (h : Runs state next) (h' : Runs next third) : Runs state third where
  rests := h'.rests
  grows := h.grows.trans h'.grows
  settled hstop :=
    (h.settled hstop).trans (h'.settled ((h.settled hstop).steady.stopRequested.trans hstop))

theorem Rests.observed (h : Rests state) : Runs state state.observeExternalStop := by
  have hacts : Acts 0 state state.observeExternalStop :=
    Acts.observed h.inv fun other hother => absurd hother (h.idle other)
  refine ⟨⟨hacts.inv, fun task hexecuting => ?_, ?_, hacts.calm.trans h.calm⟩, hacts.grows,
    hacts.settled⟩
  · exact h.idle task (observed_executing.mp hexecuting)
  · unfold State.observeExternalStop
    split <;> exact h.dispatching

/-! ## A pass of the loop -/

/-- A task that waits for a child is ready when the child has ended. -/
theorem Inv.child_ended (h : Inv state)
    (hqueued : (state.system.scheduler.tasks task).queued = true)
    (hpoint : (state.system.scheduler.tasks task).point = .child child) :
    (state.system.scheduler.tasks child).point = .final := by
  obtain ⟨hheld, hbound, hcontinuation⟩ := h.housed.waits task child hpoint
  by_contra hfinal
  have hgone := (h.housed.owned.made hheld).2.2.1
  have hdestroyed : (state.system.scheduler.tasks child).point ≠ .destroyed := fun hpoint =>
    hgone ((h.housed.destroyed_iff child hbound).mp hpoint)
  have := (h.system.scheduler.child child task hcontinuation ⟨hfinal, hdestroyed⟩).queued
  rw [hqueued] at this
  cases this

/-- The first ready task is resumed. -/
theorem Inv.resume (env : Environment) (h : Inv state) (hidle : ∀ task, ¬ state.executing task)
    {rest : List TaskId} (hready : state.system.scheduler.ready = task :: rest) :
    Acts task state (state.resume env task) := by
  have hok := h.system.scheduler
  have hqueued : (state.system.scheduler.tasks task).queued = true := by
    rw [hok.queued_iff, hready]
    exact List.mem_cons_self
  have hbound : (state.system.scheduler.tasks task).bound = true := by
    by_contra hunbound
    have := (hok.unbound task (by simpa using hunbound)).2.2
    rw [hqueued] at this
    cases this
  obtain ⟨hfinal, hdestroyed⟩ := hok.live task hqueued
  obtain ⟨scheduler, hfront, hsteady, hplaces⟩ := Scheduler.runFront_eq hready
  have hsystem := h.system.setScheduler (Scheduler.runFront_keeps hok hfront)
  have honly : ∀ other, (scheduler.places other).point = .executing → other = task := by
    intro other hother
    by_contra hne
    rw [hplaces, Function.update_of_ne hne] at hother
    exact hidle other hother
  have hsettled : Settled state.system (state.system.setScheduler scheduler) :=
    ⟨rfl, rfl, hsteady⟩
  have hmoved : (∀ child, (state.system.scheduler.tasks task).point ≠ .child child) →
      Acts task state { state.setScheduler scheduler with dispatching := true } := by
    intro hwaits
    refine ⟨⟨hsystem, ?_⟩, honly, List.Subset.refl _, ⟨List.prefix_refl _, Nat.le_refl _⟩, rfl,
      fun _ => hsettled⟩
    have hentered : Housed (Function.update state.system.scheduler.places task
        { state.system.scheduler.places task with point := .executing }) state.held state.roots
        state.destroyed state.frames :=
      h.housed.move hbound hwaits hdestroyed (by simp) (by simp) (by simp)
    rwa [← hplaces] at hentered
  unfold State.resume
  rw [hfront]
  dsimp only
  split
  · rename_i child hpoint
    have hended := h.child_ended hqueued hpoint
    have hlater : task < child :=
      h.housed.owned.later task child (h.housed.waits task child hpoint).1
    have hchild : scheduler.places child = state.system.scheduler.places child := by
      rw [hplaces, Function.update_of_ne (Nat.ne_of_gt hlater)]
    have hchildPoint : (scheduler.tasks child).point = .final := by
      rw [← Scheduler.places_point, hchild]
      exact hended
    have hnil : Function.update state.held task ((state.held task).erase child) child = [] :=
      Housed.held_erase_nil (h.housed.final child hended)
    have hwoken := h.housed.wake hpoint
    rw [← hplaces] at hwoken
    have hentered : Inv { state.setScheduler scheduler with
        dispatching := true
        held := Function.update state.held task ((state.held task).erase child)
        roots := child :: state.roots } := ⟨hsystem, hwoken⟩
    have hburied := hentered.bury env List.mem_cons_self hnil fun _ => hchildPoint
    simp only [List.erase_cons_head] at hburied
    have hended' : (scheduler.tasks child).bound = true → (scheduler.tasks child).point = .final :=
      fun _ => hchildPoint
    have hframe := destroyFrame_eq env hsystem hended'
    refine ⟨hburied, ?_, ?_, ?_, ?_, ?_⟩
    all_goals rw [discard_leaf env { state.setScheduler scheduler with dispatching := true } hnil]
    · intro other hother
      exact honly other (destroyFrame_executing env hsystem hended' hother)
    · exact List.Subset.refl _
    · exact ⟨List.prefix_append _ _, Nat.le_refl _⟩
    · rfl
    · exact fun _ => hsettled.trans hframe.2.1
  · rename_i hwaits
    exact hmoved hwaits

/-- A root that holds nothing is destroyed alone. -/
theorem finishRoot_leaf (env : Environment) (state : State) (hnil : state.held task = []) :
    ∃ exceptions, state.finishRoot env task =
      { state with
        system := destroyFrame env state.system task
        roots := state.roots.erase task
        destroyed := state.destroyed ++ [task]
        unhandledRootExceptions := exceptions } := by
  unfold State.finishRoot
  split
  · exact ⟨_, destroy_leaf env { state with
      unhandledRootExceptions := state.unhandledRootExceptions + 1
      roots := state.roots.erase task } hnil⟩
  · exact ⟨_, destroy_leaf env { state with roots := state.roots.erase task } hnil⟩

/-- The task has suspended or ended, and a root that has ended is destroyed. -/
theorem Inv.afterResume (env : Environment) (h : Inv state)
    (hidle : ∀ other, ¬ state.executing other)
    (hcalm : state.cancelPending = false) (root : Bool) (hroot : root = true → task ∈ state.roots) :
    Runs state (state.afterResume env task root) := by
  unfold State.afterResume
  dsimp only
  split
  · rename_i hfinished
    obtain ⟨hisRoot, hpoint⟩ := hfinished
    change (state.system.scheduler.tasks task).point = .final at hpoint
    have hnil := h.housed.final task hpoint
    have hended : (state.system.scheduler.tasks task).bound = true →
        (state.system.scheduler.tasks task).point = .final := fun _ => hpoint
    have hburied := h.bury env (hroot hisRoot) hnil hended
    rw [destroy_leaf env { state with roots := state.roots.erase task } hnil] at hburied
    obtain ⟨exceptions, hfinish⟩ :=
      finishRoot_leaf env { state with dispatching := false } hnil
    rw [hfinish]
    refine ⟨⟨⟨hburied.system, hburied.housed⟩, ?_, rfl, hcalm⟩,
      ⟨List.prefix_append _ _, Nat.le_refl _⟩, ?_⟩
    · intro other hother
      exact hidle other (destroyFrame_executing env h.system hended hother)
    · exact fun _ => (destroyFrame_eq env h.system hended).2.1
  · exact ⟨⟨⟨h.system, h.housed⟩, hidle, rfl, hcalm⟩, ⟨List.prefix_refl _, Nat.le_refl _⟩, fun _ =>
      Settled.refl _⟩

/-- A pass of the loop. -/
theorem Rests.pass (env : Environment) (h : Rests state) {rest : List TaskId}
    (hready : state.system.scheduler.ready = task :: rest) (script : Script) :
    Runs state (((state.resume env task).perform env task script).afterResume env task
      (decide (task ∈ state.roots))) := by
  have hresumed := h.inv.resume env h.idle hready
  obtain ⟨hperformed, hidle⟩ := hresumed.inv.perform env script hresumed.only
  have hacts := hresumed.trans hperformed
  have hroot : decide (task ∈ state.roots) = true → task ∈
      ((state.resume env task).perform env task script).roots :=
    fun hroot => hacts.roots (of_decide_eq_true hroot)
  have hruns := hacts.inv.afterResume env hidle (hacts.calm.trans h.calm) _ hroot
  exact ⟨hruns.rests, hacts.grows.trans hruns.grows, fun hstop =>
    (hacts.settled hstop).trans
      (hruns.settled ((hacts.settled hstop).steady.stopRequested.trans hstop))⟩

/-! ## The loops -/

theorem Rests.runLoop (env : Environment) (program : Program) (budget resumed : Nat)
    (h : Rests state) : Runs state (State.runLoop env program budget resumed state).2 := by
  induction budget generalizing state resumed with
  | zero => exact Runs.refl h
  | succ budget ih =>
    unfold State.runLoop
    split
    · exact Runs.refl h
    · rename_i task rest hready
      have hpass := h.pass env hready (program resumed)
      dsimp only
      rw [if_neg (by simp [hpass.rests.calm])]
      exact hpass.trans (ih (resumed + 1) hpass.rests)

theorem Rests.runReady (env : Environment) (program : Program) (budget : Nat) (h : Rests state) :
    Runs state (state.runReady env program budget).2 := by
  unfold State.runReady
  rw [if_neg (by simp [h.inv.system.scheduler.running]), if_neg (by simp [h.dispatching])]
  exact h.observed.trans (h.observed.rests.runLoop env program budget 0)

theorem Rests.shutdownLoop (env : Environment) (program : Program) (budget resumed : Nat)
    (h : Rests state) : Runs state (State.shutdownLoop env program budget resumed state).2 := by
  fun_induction State.shutdownLoop env program budget resumed state with
  | case1 resumed state hmore next hresult =>
    have hruns := h.runReady env (fun count => program (resumed + count)) (budget - resumed)
    rwa [hresult] at hruns
  | case2 resumed state hmore count next hresult ih =>
    have hruns := h.runReady env (fun count => program (resumed + count)) (budget - resumed)
    rw [hresult] at hruns
    exact hruns.trans (ih hruns.rests)
  | case3 resumed state => exact Runs.refl h

end DnsPro.WorkerRuntime
