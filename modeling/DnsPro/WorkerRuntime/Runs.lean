import DnsPro.Upstream.Attribution
import DnsPro.WorkerRuntime.Loop

/-!
# Runs of the worker

The calls of the channel and of the timer queue end queries and sleeps, which puts
tasks on the ready list and leaves every task where it is (`placed_kept`).  With the
loop of `run_ready` and the spawning of root tasks, every step of the worker leads from
a state outside the loop to another one (`rests_step`), and so does every run.
-/

namespace DnsPro.WorkerRuntime

open DnsPro.Protocol DnsPro.Runtime DnsPro.Upstream DnsPro.Ownership

variable {env : Environment} {state next : State} {system : System} {task : TaskId}

/-! ## Ending queries and sleeps -/

/-- A task may have been put on the ready list. -/
structure Woken (scheduler next : Scheduler) : Prop where
  places : next.places = scheduler.places
  steady : Scheduler.Steady scheduler next

theorem Woken.refl (scheduler : Scheduler) : Woken scheduler scheduler :=
  ⟨rfl, Scheduler.Steady.refl _⟩

theorem Woken.trans {scheduler next third : Scheduler} (h : Woken scheduler next)
    (h' : Woken next third) : Woken scheduler third :=
  ⟨h'.places.trans h.places, h.steady.trans h'.steady⟩

theorem woken_schedule (scheduler : Scheduler) (task : TaskId) :
    Woken scheduler (scheduler.schedule task).2 :=
  ⟨Scheduler.places_schedule scheduler task, Scheduler.steady_schedule scheduler task⟩

theorem finish_woken (env : Environment) (system : System) (query : QueryId)
    (outcome : QueryOutcome) (response : Bytes) (errorNumber : Int) :
    Woken system.scheduler (system.finish env query outcome response errorNumber).2.scheduler := by
  unfold System.finish
  dsimp only
  split
  · exact Woken.refl _
  split
  · exact Woken.refl _
  split
  · exact Woken.refl _
  · rename_i task _ _
    have hwoken := woken_schedule system.scheduler task
    generalize hresult : system.scheduler.schedule task = result at hwoken
    have hresult' : (system.unlink env query).scheduler.schedule task = result := hresult
    rw [System.setQuery, hresult']
    split
    · exact hwoken
    · exact hwoken

theorem completeSleep_woken (system : System) (sleep : Nat) (completion : TimerCompletion) :
    Woken system.scheduler (system.completeSleep sleep completion).2.scheduler := by
  unfold System.completeSleep
  dsimp only
  generalize (if completion = .expired then SleepState.expired else .cancelled) = ended
  cases (system.sleeps sleep).task with
  | none => exact Woken.refl _
  | some task =>
    dsimp only
    split
    · exact Woken.refl _
    · exact woken_schedule system.scheduler task

/-- Ending queries and sleeps leaves the tasks where they are. -/
theorem placed_kept (env : Environment) (places : TaskId → TaskPromise) :
    System.Kept env fun system => System.Inv none system ∧ system.scheduler.places = places where
  inv h := h.1
  countInvalid h := ⟨h.1.countInvalid, h.2⟩
  countUnmatched h := ⟨h.1.countUnmatched, h.2⟩
  outOfMemory h := ⟨h.1.outOfMemory, h.2⟩
  finish response errorNumber h hpending houtcome _ :=
    ⟨h.1.finishNow env hpending houtcome response errorNumber,
      (finish_woken env _ _ _ response errorNumber).places.trans h.2⟩
  completeFront {system} completion timer result h hfront := by
    obtain ⟨heq, hinv⟩ := h.1.completeFront_eq env completion result hfront
    rw [heq]
    refine ⟨hinv, ?_⟩
    cases timer with
    | query query =>
      obtain ⟨outcome, -, -, hcomplete⟩ :=
        (h.1.removeFront hfront).deadlineComplete_eq env completion
      rw [System.completeTimer, hcomplete]
      exact (finish_woken env _ query outcome [] 0).places.trans h.2
    | sleep sleep => exact (completeSleep_woken _ sleep completion).places.trans h.2

/-- The calls of the worker keep the invariant, and leave the tasks where they are. -/
theorem call_places (env : Environment) (h : System.Inv none system) {label : System.Label}
    (hcall : isWorkerCall label = true) {called : System}
    (hstep : System.step env system label = some called) :
    System.Inv none called ∧ called.scheduler.places = system.scheduler.places := by
  refine ⟨System.inv_step env label h hstep, ?_⟩
  have hkept := placed_kept env system.scheduler.places
  cases label with
  | start socketFd config discarded faulty =>
    obtain rfl := Option.some.inj hstep
    rw [h.start_eq]
    split
    · rfl
    split
    · rfl
    · obtain ⟨channel, readings, hprepared⟩ := System.preparePool_frame env system config
      rw [hprepared]
  | close => exact Option.some.inj hstep ▸ rfl
  | stop =>
    obtain rfl := Option.some.inj hstep
    rw [h.stop_eq]
    split <;> rfl
  | handleDatagram packet truncated allocationFails =>
    obtain rfl := Option.some.inj hstep
    exact (hkept.handleDatagram ⟨h, rfl⟩ packet truncated allocationFails).2
  | drain budget received =>
    obtain rfl := Option.some.inj hstep
    exact (hkept.drain ⟨h, rfl⟩ budget received).2
  | failAll outcome errorNumber =>
    obtain rfl := Option.some.inj hstep
    exact (hkept.failAll ⟨h, rfl⟩ outcome errorNumber).2
  | expire now budget =>
    obtain rfl := Option.some.inj hstep
    exact (hkept.expire ⟨h, rfl⟩ now budget).2
  | cancelTimers =>
    obtain rfl := Option.some.inj hstep
    exact (hkept.cancelTimers ⟨h, rfl⟩).2
  | startTimers => exact Option.some.inj hstep ▸ rfl
  | closeTimers => exact Option.some.inj hstep ▸ rfl
  | stopTimers => exact Option.some.inj hstep ▸ rfl
  | _ => cases hcall

/-! ## Steps -/

theorem Rests.still (h : Rests state) {called : System} (hinv : System.Inv none called)
    (hplaces : called.scheduler.places = state.system.scheduler.places) :
    Rests { state with system := called } := by
  refine ⟨h.inv.still hinv hplaces, ?_, h.dispatching, h.calm⟩
  intro task hexecuting
  apply h.idle task
  have hpoint : (called.scheduler.places task).point = .executing := hexecuting
  rwa [hplaces] at hpoint

/-- A scheduler that was closed takes no task. -/
theorem accepting_keeps {scheduler : Scheduler} (h : scheduler.Ok) :
    Scheduler.Keeps scheduler { scheduler with accepting := false } :=
  ⟨{ h with child := fun task parent hcontinuation hlive =>
      { h.child task parent hcontinuation hlive with } }, fun _ _ _ hwaiting => { hwaiting with }⟩

theorem Rests.closeScheduler (h : Rests state) : Rests state.closeScheduler :=
  h.still (h.inv.system.setScheduler (accepting_keeps h.inv.system.scheduler)) rfl

/-- A task that the scheduler does not take is destroyed. -/
theorem Rests.refused (env : Environment) (h : Rests state) :
    Rests ({ state with frames := state.frames + 1 }.destroy env state.frames) := by
  have hfresh : (state.system.scheduler.tasks state.frames).bound = false :=
    h.inv.housed.unmade state.frames (Nat.le_refl _)
  have hended : (state.system.scheduler.tasks state.frames).bound = true →
      (state.system.scheduler.tasks state.frames).point = .final := by simp [hfresh]
  have hnil := h.inv.housed.fresh state.frames hfresh
  have hmade : Inv { state with
      frames := state.frames + 1, roots := state.frames :: state.roots } :=
    ⟨h.inv.system, h.inv.housed.makeRoot⟩
  have hburied := hmade.bury env List.mem_cons_self hnil hended
  simp only [List.erase_cons_head] at hburied
  refine ⟨hburied, ?_, ?_, ?_⟩
  all_goals rw [destroy_leaf env { state with frames := state.frames + 1 } hnil]
  · exact fun other hother =>
      h.idle other (destroyFrame_executing env h.inv.system hended hother)
  · exact h.dispatching
  · exact h.calm

theorem Rests.spawnRoot (env : Environment) (h : Rests state) : Rests (state.spawnRoot env) := by
  have hobserved : ({ state with frames := state.frames + 1 } : State).observeExternalStop =
      { state.observeExternalStop with frames := state.frames + 1 } := by
    unfold State.observeExternalStop
    split <;> rfl
  have hframes : state.observeExternalStop.frames = state.frames := by
    unfold State.observeExternalStop
    split <;> rfl
  unfold State.spawnRoot
  dsimp only
  split
  · exact h.refused env
  rw [hobserved]
  have hrests := h.observed.rests
  generalize state.observeExternalStop = observed at hframes hrests
  rw [← hframes]
  split
  · rename_i haccepts
    have hfresh : (observed.system.scheduler.tasks observed.frames).bound = false :=
      hrests.inv.housed.unmade observed.frames (Nat.le_refl _)
    have hinitial := (hrests.inv.system.scheduler.unbound observed.frames hfresh).1
    have hbound := hrests.inv.housed.makeRoot.bind List.mem_cons_self hfresh hinitial
    rw [← spawn_places haccepts observed.frames] at hbound
    refine ⟨⟨hrests.inv.system.setScheduler
      (Scheduler.spawn_keeps hrests.inv.system.scheduler hfresh), hbound⟩, ?_, hrests.dispatching,
      hrests.calm⟩
    exact fun other hother => hrests.idle other (executing_of_spawn haccepts hother)
  · exact hrests.refused env

/-- Every step of the worker leads to a state outside the loop. -/
theorem rests_step (env : Environment) (label : Label) (h : Rests state)
    (hstep : step env state label = some next) : Rests next := by
  cases label with
  | externalStop =>
    obtain rfl := Option.some.inj hstep
    exact ⟨⟨h.inv.system, h.inv.housed⟩, h.idle, h.dispatching, h.calm⟩
  | spawn =>
    obtain rfl := Option.some.inj hstep
    exact h.spawnRoot env
  | runReady budget program =>
    obtain rfl := Option.some.inj hstep
    exact (h.runReady env program budget).rests
  | closeScheduler =>
    obtain rfl := Option.some.inj hstep
    exact h.closeScheduler
  | call label =>
    dsimp only [step] at hstep
    split at hstep
    · rename_i hcall
      obtain ⟨called, hcalled, rfl⟩ := Option.map_eq_some_iff.mp hstep
      obtain ⟨hinv, hplaces⟩ := call_places env h.inv.system hcall hcalled
      exact h.still hinv hplaces
    · cases hstep

theorem rests_initial : Rests {} where
  inv := ⟨System.inv_initial, Housed.empty⟩
  idle task hexecuting := by cases hexecuting
  dispatching := rfl
  calm := rfl

theorem rests_run (env : Environment) {labels : List Label} (hrun : run env labels = some state) :
    Rests state :=
  Transition.run_invariant Rests (fun _ label _ h hstep => rests_step env label h hstep)
    rests_initial hrun

end DnsPro.WorkerRuntime
