import DnsPro.WorkerRuntime.Invariant

/-!
# The actions of a task

The actions that make, start and destroy frames, one lemma for each, and a task that
follows its script (`Inv.perform`): at the end no task executes.
-/

namespace DnsPro.WorkerRuntime

open DnsPro.Protocol DnsPro.Runtime DnsPro.Upstream DnsPro.Ownership

variable {env : Environment} {state next third : State} {task child : TaskId}

/-! ## Destroying a frame -/

/-- A frame that was never started or that has ended is destroyed. -/
theorem destroyFrame_eq (env : Environment) {system : System} (h : System.Inv none system)
    (hended : (system.scheduler.tasks task).bound = true →
      (system.scheduler.tasks task).point = .final) :
    System.Inv none (destroyFrame env system task) ∧
      Settled system (destroyFrame env system task) ∧
      (destroyFrame env system task).scheduler.places =
        if (system.scheduler.places task).bound then
          Function.update system.scheduler.places task
            { system.scheduler.places task with point := .destroyed }
        else system.scheduler.places := by
  have hpoint : (system.scheduler.tasks task).point = .final ∨
      (system.scheduler.tasks task).point = .initial := by
    cases hbound : (system.scheduler.tasks task).bound with
    | true => exact .inl (hended hbound)
    | false => exact .inr (h.scheduler.unbound task hbound).1
  have hrest : AtRest system task := by
    apply atRest_of_point h
    · intro query hquery
      rcases hpoint with hpoint | hpoint <;> simp [hpoint] at hquery
    · intro sleep hsleep
      rcases hpoint with hpoint | hpoint <;> simp [hpoint] at hsleep
  have hcleaned := destroyAwaiters_cleaned env hrest
  have hinv := hcleaned.inv h
  unfold destroyFrame
  dsimp only
  rw [hcleaned.scheduler]
  cases hbound : (system.scheduler.tasks task).bound with
  | true =>
    have hkeeps := Scheduler.destroyed_keeps h.scheduler hbound (hended hbound)
    simp only [if_true]
    refine ⟨hinv.setScheduler (hcleaned.scheduler ▸ hkeeps), ⟨hcleaned.channel, hcleaned.timers,
      Scheduler.steady_setPoint _ _ _⟩, ?_⟩
    rw [if_pos (by simpa using hbound)]
    exact Scheduler.places_setPoint _ _ _
  | false =>
    simp only [Bool.false_eq_true, if_false]
    refine ⟨hinv, hcleaned.settled, ?_⟩
    rw [if_neg (by simp [hbound]), hcleaned.scheduler]

/-- A frame that holds nothing is destroyed alone. -/
theorem destroy_leaf (env : Environment) (state : State) (hnil : state.held task = []) :
    state.destroy env task =
      { state with
        system := destroyFrame env state.system task
        destroyed := state.destroyed ++ [task] } := by
  unfold State.destroy
  rw [tree_of_nil hnil]
  show state.reclaim env task = _
  unfold State.reclaim
  rw [← hnil, Function.update_eq_self]

theorem discard_leaf (env : Environment) (state : State)
    (hnil : Function.update state.held task ((state.held task).erase child) child = []) :
    state.discard env task child =
      { state with
        system := destroyFrame env state.system child
        held := Function.update state.held task ((state.held task).erase child)
        destroyed := state.destroyed ++ [child] } :=
  destroy_leaf env { state with
    held := Function.update state.held task ((state.held task).erase child) } hnil

/-- A root that was never started or that has ended is destroyed. -/
theorem Inv.bury (env : Environment) (h : Inv state) (hroot : task ∈ state.roots)
    (hnil : state.held task = [])
    (hended : (state.system.scheduler.tasks task).bound = true →
      (state.system.scheduler.tasks task).point = .final) :
    Inv ({ state with roots := state.roots.erase task }.destroy env task) := by
  obtain ⟨hsystem, -, hplaces⟩ := destroyFrame_eq env h.system hended
  rw [destroy_leaf env { state with roots := state.roots.erase task } hnil]
  refine ⟨hsystem, ?_⟩
  show Housed (destroyFrame env state.system task).scheduler.places state.held
    (state.roots.erase task) (state.destroyed ++ [task]) state.frames
  rw [hplaces]
  exact h.housed.bury hroot hnil

theorem destroyFrame_executing (env : Environment) {system : System}
    (h : System.Inv none system)
    (hended : (system.scheduler.tasks task).bound = true →
      (system.scheduler.tasks task).point = .final) {other : TaskId}
    (hexecuting : (destroyFrame env system task).executing other) : system.executing other := by
  obtain ⟨-, -, hplaces⟩ := destroyFrame_eq env h hended
  have hpoint : ((destroyFrame env system task).scheduler.places other).point = .executing :=
    hexecuting
  rw [hplaces] at hpoint
  split at hpoint
  · by_cases hother : other = task
    · subst hother
      simp at hpoint
    · rwa [Function.update_of_ne hother] at hpoint
  · exact hpoint

/-- A task that was never started is destroyed by the one that holds it. -/
theorem Inv.discard (env : Environment) (h : Inv state)
    (honly : ∀ other, state.executing other → other = task)
    (hchild : child ∈ state.held task)
    (hfresh : (state.system.scheduler.tasks child).bound = false) :
    Acts task state (state.discard env task child) := by
  have hnil : state.held child = [] := h.housed.fresh child hfresh
  have hended : (state.system.scheduler.tasks child).bound = true →
      (state.system.scheduler.tasks child).point = .final := by simp [hfresh]
  obtain ⟨-, hsettled, -⟩ := destroyFrame_eq env h.system hended
  have hreleased : Inv { state with
      held := Function.update state.held task ((state.held task).erase child)
      roots := child :: state.roots } :=
    ⟨h.system, h.housed.release hchild hfresh⟩
  have hburied := hreleased.bury env List.mem_cons_self
    (Housed.held_erase_nil hnil) hended
  simp only [List.erase_cons_head] at hburied
  have hdiscard : state.discard env task child = _ :=
    discard_leaf env state (Housed.held_erase_nil hnil)
  refine ⟨hburied, ?_, ?_, ?_, ?_, ?_⟩
  all_goals rw [hdiscard]
  · exact fun other hother => honly other (destroyFrame_executing env h.system hended hother)
  · exact List.Subset.refl _
  · exact ⟨List.prefix_append _ _, Nat.le_refl _⟩
  · exact fun _ => hsettled

/-- The task goes on executing, and does not hold the handle any more. -/
theorem discard_held (env : Environment) (h : Inv state) (hexecuting : state.executing task)
    (hchild : child ∈ state.held task) :
    (state.discard env task child).executing task ∧
      (state.discard env task child).held task = (state.held task).erase child := by
  have hfresh := (h.held_fresh hexecuting hchild).1
  have hnil : state.held child = [] := h.housed.fresh child hfresh
  have hne : task ≠ child := by
    rintro rfl
    rw [hnil] at hchild
    simp at hchild
  obtain ⟨-, -, hplaces⟩ := destroyFrame_eq env h.system
    (show (state.system.scheduler.tasks child).bound = true → _ by simp [hfresh])
  have hdiscard : state.discard env task child = _ :=
    discard_leaf env state (Housed.held_erase_nil hnil)
  rw [hdiscard]
  refine ⟨?_, Function.update_self _ _ _⟩
  show ((destroyFrame env state.system child).scheduler.places task).point = .executing
  rw [hplaces, if_neg (by simp [hfresh])]
  exact hexecuting

/-! ## Making and starting tasks -/

theorem Inv.make (h : Inv state) (honly : ∀ other, state.executing other → other = task)
    (hexecuting : state.executing task) : Acts task state (state.make task) :=
  ⟨⟨h.system, h.housed.make (h.bound hexecuting) hexecuting⟩, honly, List.Subset.refl _,
    ⟨List.prefix_refl _, Nat.le_succ _⟩, rfl, fun _ => Settled.refl _⟩

theorem Inv.spawn (h : Inv state) (honly : ∀ other, state.executing other → other = task)
    (hexecuting : state.executing task) (hchild : child ∈ state.held task) :
    Acts task state (state.spawn task child) := by
  have hobserved := Acts.observed h honly
  have hheld := observed_held state
  have hexecuting' := observed_executing.mpr hexecuting
  unfold State.spawn
  split
  · exact Acts.refl h honly
  dsimp only
  generalize state.observeExternalStop = observed at hobserved hheld hexecuting'
  split
  · rename_i haccepts
    have hchild : child ∈ observed.held task := by rwa [hheld]
    obtain ⟨hfresh, hinitial⟩ := hobserved.inv.held_fresh hexecuting' hchild
    obtain ⟨-, -, hstop⟩ := accepts_iff.mp haccepts
    apply hobserved.trans
    refine ⟨⟨hobserved.inv.system.setScheduler
      (Scheduler.spawn_keeps hobserved.inv.system.scheduler hfresh), ?_⟩, ?_, ?_,
      ⟨List.prefix_refl _, Nat.le_refl _⟩, rfl, ?_⟩
    · have hbound := (hobserved.inv.housed.release hchild hfresh).bind List.mem_cons_self hfresh
        hinitial
      rwa [← spawn_places haccepts child] at hbound
    · exact fun other hother => hobserved.only other (executing_of_spawn haccepts hother)
    · exact List.subset_cons_self _ _
    · intro hstopped
      exact absurd (hstop.symm.trans hstopped) (by decide)
  · exact hobserved

theorem Inv.awaitTask (env : Environment) (h : Inv state)
    (honly : ∀ other, state.executing other → other = task)
    (hexecuting : state.executing task) (hchild : child ∈ state.held task) :
    Acts task state (state.awaitTask env task child) := by
  have hobserved := Acts.observed h honly
  have hheld := observed_held state
  have hexecuting' := observed_executing.mpr hexecuting
  unfold State.awaitTask
  dsimp only
  generalize state.observeExternalStop = observed at hobserved hheld hexecuting'
  have hchild : child ∈ observed.held task := by rwa [hheld]
  obtain ⟨hfresh, hinitial⟩ := hobserved.inv.held_fresh hexecuting' hchild
  have hok := hobserved.inv.system.scheduler
  have hbound := hobserved.inv.bound hexecuting'
  have hne : task ≠ child := Housed.ne_of_bound hbound hfresh
  obtain ⟨hsteady, hplaces⟩ := Scheduler.awaitTask_eq hok hexecuting' hfresh
  have hpoint : ∀ other,
      ((observed.system.scheduler.awaitTask task child).places other).point = .executing →
      other ≠ task ∧ observed.executing other := by
    intro other hother
    rw [hplaces] at hother
    by_cases hotherChild : other = child
    · subst hotherChild
      rw [Function.update_self] at hother
      exact ⟨hne.symm, hother⟩
    · rw [Function.update_of_ne hotherChild] at hother
      by_cases hotherTask : other = task
      · subst hotherTask
        simp at hother
      · rw [Function.update_of_ne hotherTask] at hother
        exact ⟨hotherTask, hother⟩
  have hsuspended : ¬ (observed.setScheduler
      (observed.system.scheduler.awaitTask task child)).executing task :=
    fun hstill => (hpoint task hstill).1 rfl
  rw [if_neg hsuspended]
  apply hobserved.trans
  refine ⟨⟨hobserved.inv.system.setScheduler
      (Scheduler.awaitTask_keeps hok hexecuting' hfresh), ?_⟩,
    fun other hother => hobserved.only other (hpoint other hother).2, List.Subset.refl _,
    ⟨List.prefix_refl _, Nat.le_refl _⟩, rfl, fun _ => ⟨rfl, rfl, hsteady⟩⟩
  have hawait := hobserved.inv.housed.await hbound hexecuting' hchild hfresh hinitial
  rwa [← hplaces] at hawait

/-! ## The end of a task -/

/-- The task objects in the frame are destroyed, one after the other. -/
theorem Inv.discardAll (env : Environment) (children : List TaskId) (h : Inv state)
    (honly : ∀ other, state.executing other → other = task)
    (hexecuting : state.executing task) (hheld : state.held task = children) :
    Acts task state
        (children.foldl (fun state child => state.discard env task child) state) ∧
      (children.foldl (fun state child => state.discard env task child) state).executing task ∧
      (children.foldl (fun state child => state.discard env task child) state).held task = [] := by
  induction children generalizing state with
  | nil => exact ⟨Acts.refl h honly, hexecuting, hheld⟩
  | cons child children ih =>
    have hchild : child ∈ state.held task := by
      rw [hheld]
      exact List.mem_cons_self
    have hacts := h.discard env honly hchild (h.held_fresh hexecuting hchild).1
    obtain ⟨hstill, herased⟩ := discard_held env h hexecuting hchild
    rw [hheld, List.erase_cons_head] at herased
    obtain ⟨hrest, hend⟩ := ih hacts.inv hacts.only hstill herased
    exact ⟨hacts.trans hrest, hend⟩

/-- At its end a task holds nothing, and the task that waits for it is scheduled. -/
theorem Inv.complete (env : Environment) (h : Inv state)
    (honly : ∀ other, state.executing other → other = task)
    (hexecuting : state.executing task) (throws : Bool) :
    Acts task state (state.complete env task throws) ∧
      ¬ (state.complete env task throws).executing task := by
  obtain ⟨hacts, hstill, hheld⟩ := h.discardAll env (state.held task) honly hexecuting rfl
  unfold State.complete
  dsimp only
  generalize (state.held task).foldl (fun state child => state.discard env task child) state =
    emptied at hacts hstill hheld
  have hcleaned := destroyAwaiters_cleaned env (hacts.inv.atRest hstill)
  generalize destroyAwaiters env emptied.system task = system at hcleaned
  have hok := hacts.inv.system.scheduler
  have hsystem := hcleaned.inv hacts.inv.system
  have hpoint : (emptied.system.scheduler.tasks task).point = .executing := hstill
  rw [← hcleaned.scheduler] at hok hpoint
  generalize hthrown : (if throws then system.scheduler.unhandledException task
    else system.scheduler) = thrown
  obtain ⟨hkeeps, hsteady, hplaces⟩ := Scheduler.thrown_complete hok hpoint throws hthrown.symm
  have hmoved : Acts task emptied
      { emptied with system := system.setScheduler (thrown.complete task) } := by
    apply Acts.moved hacts.inv hacts.only hstill (hsystem.setScheduler hkeeps) .final (by simp)
      (by simp) fun _ => hheld
    · rw [← hcleaned.scheduler]
      exact hplaces
    · intro _
      exact ⟨hcleaned.channel, hcleaned.timers, hcleaned.scheduler ▸ hsteady⟩
  refine ⟨hacts.trans ⟨⟨hmoved.inv.system, hmoved.inv.housed⟩, hmoved.only, hmoved.roots,
    ⟨hmoved.grows.destroyed, hmoved.grows.frames⟩, hmoved.calm, hmoved.settled⟩, ?_⟩
  intro hend
  have hfinal : ((thrown.complete task).places task).point = .executing := hend
  rw [hplaces, Function.update_self] at hfinal
  cases hfinal

/-! ## Scripts -/

/-- What one action does. -/
theorem Inv.act (env : Environment) (h : Inv state)
    (honly : ∀ other, state.executing other → other = task)
    (hexecuting : state.executing task) (action : Action) :
    Acts task state (state.act env task action) := by
  have hrest := h.atRest hexecuting
  have hobserved := Acts.observed h honly
  have hexecuting' := observed_executing.mpr hexecuting
  obtain ⟨hqueries, hsleeps⟩ := observed_awaiters state
  cases action with
  | query header question =>
    exact Acts.still h honly (h.system.makeQuery env task header question) rfl fun _ =>
      ⟨rfl, rfl, Scheduler.Steady.refl _⟩
  | queryUntil header question deadline =>
    exact Acts.still h honly (h.system.queryUntil task header question deadline) rfl fun _ =>
      ⟨rfl, rfl, Scheduler.Steady.refl _⟩
  | awaitQuery query writeFails armFails sent =>
    dsimp only [State.act]
    split
    · rename_i hframe
      rw [← hqueries] at hframe
      exact hobserved.trans (hobserved.inv.awaitQuery hobserved.only hexecuting' hframe.1 hframe.2
        writeFails armFails sent)
    · exact Acts.refl h honly
  | destroyQuery query =>
    dsimp only [State.act]
    split
    · rename_i hframe
      exact Acts.cleaned h honly (destroyQuery_cleaned env (hframe.2 ▸ hrest))
    · exact Acts.refl h honly
  | sleepUntil deadline =>
    exact Acts.still h honly (h.system.sleepUntil task deadline) rfl fun _ =>
      ⟨rfl, rfl, Scheduler.Steady.refl _⟩
  | awaitSleep sleep armFails =>
    dsimp only [State.act]
    split
    · rename_i hframe
      rw [← hsleeps] at hframe
      exact hobserved.trans (hobserved.inv.awaitSleep hobserved.only hexecuting' hframe.1 hframe.2
        armFails)
    · exact Acts.refl h honly
  | destroySleep sleep =>
    dsimp only [State.act]
    split
    · rename_i hframe
      exact Acts.cleaned h honly
        (destroySleep_cleaned (h.system.madeSleep hframe.1) (hframe.2 ▸ hrest))
    · exact Acts.refl h honly
  | stopToken => exact hobserved
  | yield =>
    obtain ⟨hsteady, hplaces⟩ := Scheduler.yield_eq h.system.scheduler hexecuting
    exact Acts.moved h honly hexecuting
      (h.system.setScheduler (Scheduler.yield_keeps h.system.scheduler hexecuting)) .yielded
      (by simp) (by simp) (by simp) hplaces fun _ => ⟨rfl, rfl, hsteady⟩
  | make => exact h.make honly hexecuting
  | spawn child =>
    dsimp only [State.act]
    split
    · rename_i hchild
      exact h.spawn honly hexecuting hchild
    · exact Acts.refl h honly
  | awaitTask child =>
    dsimp only [State.act]
    split
    · rename_i hchild
      exact h.awaitTask env honly hexecuting hchild
    · exact Acts.refl h honly
  | discard child =>
    dsimp only [State.act]
    split
    · rename_i hchild
      exact h.discard env honly hchild (h.held_fresh hexecuting hchild).1
    · exact Acts.refl h honly
  | complete throws => exact (h.complete env honly hexecuting throws).1

/-- A task that follows its script suspends or ends. -/
theorem Inv.perform (env : Environment) (script : Script) (h : Inv state)
    (honly : ∀ other, state.executing other → other = task) :
    Acts task state (state.perform env task script) ∧
      ∀ other, ¬ (state.perform env task script).executing other := by
  induction script generalizing state with
  | nil =>
    unfold State.perform
    split
    · rename_i hexecuting
      obtain ⟨hacts, hended⟩ := h.complete env honly hexecuting false
      exact ⟨hacts, fun other hother => hended (hacts.only other hother ▸ hother)⟩
    · rename_i hsuspended
      exact ⟨Acts.refl h honly, fun other hother => hsuspended (honly other hother ▸ hother)⟩
  | cons action script ih =>
    unfold State.perform
    split
    · rename_i hexecuting
      have hacts := h.act env honly hexecuting action
      obtain ⟨hrest, hended⟩ := ih hacts.inv hacts.only
      exact ⟨hacts.trans hrest, hended⟩
    · rename_i hsuspended
      exact ⟨Acts.refl h honly, fun other hother => hsuspended (honly other hother ▸ hother)⟩

end DnsPro.WorkerRuntime
