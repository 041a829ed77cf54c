import DnsPro.Upstream.Completion
import DnsPro.WorkerRuntime.Cancellation

/-!
# Shutdown

After `cancelPendingWork` nothing is pending, and what the tasks do then changes
neither the channel nor the timer queue, because the stop was requested.  The loop of
`shutdown` may use up its budget, so tasks may still be suspended or ready when
`cancel_all_now` destroys the root tasks.  No awaiter in their frames is linked, so
destroying them changes no registry either (`destroy_quiet`), and every frame has a
root above it (`Owned.all_gone`).

`clean_shutdown` puts this together.
-/

namespace DnsPro.WorkerRuntime

open DnsPro.Protocol DnsPro.Runtime DnsPro.Upstream DnsPro.Ownership

variable {env : Environment} {state next third : State} {system : System} {task : TaskId}

/-! ## Destroying frames when nothing is pending -/

/-- The ready list is as it was too. -/
structure Quiet (system next : System) : Prop where
  atRest : ∀ task, AtRest next task
  settled : Settled system next
  ready : next.scheduler.ready = system.scheduler.ready

theorem destroyFrame_quiet (env : Environment) (hrest : ∀ task, AtRest system task)
    (task : TaskId) : Quiet system (destroyFrame env system task) := by
  have hcleaned := destroyAwaiters_cleaned env (hrest task)
  have hready : (destroyAwaiters env system task).scheduler.ready = system.scheduler.ready := by
    rw [hcleaned.scheduler]
  have hatRest : ∀ other, AtRest (destroyAwaiters env system task) other :=
    fun other => hcleaned.atRest (hrest other)
  unfold destroyFrame
  dsimp only
  split
  · refine ⟨fun other => ⟨(hatRest other).query, (hatRest other).sleep⟩, ?_, hready⟩
    exact hcleaned.settled.trans ⟨rfl, rfl, Scheduler.steady_setPoint _ _ _⟩
  · exact ⟨hatRest, hcleaned.settled, hready⟩

/-- The frames in a list are destroyed. -/
structure Destroyed (state : State) (gone : List TaskId) (next : State) : Prop where
  quiet : Quiet state.system next.system
  roots : next.roots = state.roots
  held : next.held = fun task => if task ∈ gone then [] else state.held task
  frames : next.frames = state.frames
  destroyed : next.destroyed = state.destroyed ++ gone

theorem reclaim_quiet (env : Environment) (gone : List TaskId)
    (hrest : ∀ task, AtRest state.system task) :
    Destroyed state gone (gone.foldl (State.reclaim env) state) := by
  induction gone generalizing state with
  | nil => exact ⟨⟨hrest, Settled.refl _, rfl⟩, rfl, by simp, rfl, by simp⟩
  | cons task gone ih =>
    have hfirst := destroyFrame_quiet env hrest task
    have hothers : Destroyed (state.reclaim env task) gone _ := ih hfirst.atRest
    rw [List.foldl_cons]
    refine ⟨⟨hothers.quiet.atRest, hfirst.settled.trans hothers.quiet.settled,
      hothers.quiet.ready.trans hfirst.ready⟩, hothers.roots, ?_, hothers.frames, ?_⟩
    · rw [hothers.held]
      funext other
      by_cases hother : other = task
      · subst hother
        simp [State.reclaim]
      · simp [State.reclaim, hother]
    · rw [hothers.destroyed]
      simp [State.reclaim]

/-- A root is destroyed with the frames that it owns. -/
theorem destroy_quiet (env : Environment) (state : State)
    (hrest : ∀ task, AtRest state.system task) (task : TaskId) :
    Destroyed state (tree state.held state.frames task) (state.destroy env task) :=
  reclaim_quiet env _ hrest

/-- No root task is left, and the ready list is as it was. -/
structure Cancelled (state next : State) : Prop where
  quiet : Quiet state.system next.system
  roots : next.roots = []
  owned : Owned next.held [] next.destroyed next.frames
  grows : Grows state next

theorem destroyRoots (env : Environment) (roots : List TaskId)
    (hrest : ∀ task, AtRest state.system task) (hroots : state.roots = roots)
    (howned : Owned state.held roots state.destroyed state.frames) :
    Cancelled state (roots.foldl
      (fun state root => { state with roots := state.roots.erase root }.destroy env root)
      state) := by
  induction roots generalizing state with
  | nil => exact ⟨⟨hrest, Settled.refl _, rfl⟩, hroots, howned, ⟨List.prefix_refl _, Nat.le_refl _⟩⟩
  | cons root roots ih =>
    rw [List.foldl_cons, hroots, List.erase_cons_head]
    have hdestroyed : Destroyed { state with roots := roots } (tree state.held state.frames root)
        ({ state with roots := roots }.destroy env root) :=
      destroy_quiet env { state with roots := roots } hrest root
    have hnext : Owned ({ state with roots := roots }.destroy env root).held roots
        ({ state with roots := roots }.destroy env root).destroyed
        ({ state with roots := roots }.destroy env root).frames := by
      rw [hdestroyed.held, hdestroyed.destroyed, hdestroyed.frames]
      have := howned.destroy List.mem_cons_self (Nat.le_add_right state.frames root)
      rwa [List.erase_cons_head] at this
    have hothers := ih hdestroyed.quiet.atRest hdestroyed.roots hnext
    refine ⟨⟨hothers.quiet.atRest, hdestroyed.quiet.settled.trans hothers.quiet.settled,
      hothers.quiet.ready.trans hdestroyed.quiet.ready⟩, hothers.roots, hothers.owned, ?_⟩
    have hgrows := hothers.grows
    refine ⟨?_, Nat.le_trans (Nat.le_of_eq hdestroyed.frames.symm) hgrows.frames⟩
    have hlater := hgrows.destroyed
    rw [hdestroyed.destroyed] at hlater
    exact (List.prefix_append _ _).trans hlater

/-- The scheduler has no task, and the registries are as they were. -/
structure Ended (state next : State) : Prop where
  settled : Settled state.system next.system
  ready : next.system.scheduler.ready = []
  roots : next.roots = []
  grows : Grows state next
  gone : next.destroyed.Perm (List.range next.frames)

/-- `cancel_all_now` leaves no frame. -/
theorem Inv.cancelAllNow (env : Environment) (h : Inv state)
    (hrest : ∀ task, AtRest state.system task) : Ended state (state.cancelAllNow env) := by
  have hclear : ∀ task, AtRest state.clearReady.system task :=
    fun task => ⟨(hrest task).query, (hrest task).sleep⟩
  have hcancelled : Cancelled state.clearReady (state.cancelAllNow env) :=
    destroyRoots env state.roots hclear rfl h.housed.owned
  have hsettled : Settled state.system state.clearReady.system := ⟨rfl, rfl, rfl, rfl, rfl⟩
  exact ⟨hsettled.trans hcancelled.quiet.settled, hcancelled.quiet.ready, hcancelled.roots,
    ⟨hcancelled.grows.destroyed, hcancelled.grows.frames⟩, hcancelled.owned.all_gone⟩

/-- When no query is pending and no timer is armed every awaiter is at rest. -/
theorem atRest_of_drained (h : System.Inv none system) (hcount : system.channel.pendingCount = 0)
    (hheap : system.timers.heap.nodes = []) (task : TaskId) : AtRest system task := by
  have hunarmed : ∀ timer, system.armed timer = false := by
    intro timer
    by_contra harmed
    rw [Bool.not_eq_false] at harmed
    have := (h.timers.owner_iff timer).mp harmed
    rw [hheap] at this
    simp at this
  exact ⟨fun query _ => ⟨h.not_pending hcount query, hunarmed _⟩, fun sleep _ => hunarmed _⟩

/-! ## `shutdown` -/

/-- `shutdown` when nothing is pending: the loop runs while the budget lasts, and then
the tasks that are left are destroyed. -/
theorem Rests.shutdown (env : Environment) (program : Program) (budget : Nat) (h : Rests state)
    (hcount : state.system.channel.pendingCount = 0)
    (hheap : state.system.timers.heap.nodes = []) :
    (state.shutdown env program budget).2.system.channel = state.system.channel ∧
      (state.shutdown env program budget).2.system.timers = state.system.timers ∧
      (state.shutdown env program budget).2.system.scheduler.invariantFailures =
        state.system.scheduler.invariantFailures ∧
      (state.shutdown env program budget).2.system.scheduler.running = false ∧
      (state.shutdown env program budget).2.system.scheduler.ready = [] ∧
      (state.shutdown env program budget).2.roots = [] ∧
      Grows state (state.shutdown env program budget).2 ∧
      (state.shutdown env program budget).2.destroyed.Perm
        (List.range (state.shutdown env program budget).2.frames) := by
  have hstopped : Rests (state.setScheduler
      { state.system.scheduler with stopRequested := true, accepting := false }) :=
    h.still h.inv.system.requestStop rfl
  have hruns := hstopped.shutdownLoop env program budget 0
  have hsettled := hruns.settled rfl
  have hrunning := hruns.rests.inv.system.scheduler.running
  have hrest := atRest_of_drained hruns.rests.inv.system
    ((congrArg UpstreamChannel.pendingCount hsettled.channel).trans hcount)
    ((congrArg (fun timers => timers.heap.nodes) hsettled.timers).trans hheap)
  have hended := hruns.rests.inv.cancelAllNow env hrest
  have hboth := hsettled.trans hended.settled
  have hgrows := hruns.grows.trans hended.grows
  unfold State.shutdown
  dsimp only
  rw [if_neg (by simp [hstopped.dispatching]), if_pos hrunning]
  exact ⟨hboth.channel, hboth.timers, hboth.steady.invariantFailures, rfl, hended.ready,
    hended.roots, ⟨hgrows.destroyed, hgrows.frames⟩, hended.gone⟩

/-! ## The guarantee -/

/-- A frame that was made and not destroyed. -/
def State.Alive (state : State) (task : TaskId) : Prop :=
  task < state.frames ∧ task ∉ state.destroyed

/-- What a worker that was shut down has left. -/
structure ShutDown (state final : State) : Prop where
  noQuery : final.system.channel.pendingCount = 0
  noTimer : final.system.timers.heap.nodes = []
  noReady : final.system.scheduler.ready = []
  noRoot : final.roots = []
  channelStopped : final.system.channel.running = false
  timersStopped : final.system.timers.running = false
  schedulerStopped : final.system.scheduler.running = false
  destroyedOnce : ∀ task, state.Alive task → final.destroyed.count task = 1
  destroyedBefore : state.destroyed <+: final.destroyed
  noFrame : ∀ task, ¬ final.Alive task
  channelFailures : final.system.channel.stats.invariantFailures =
    state.system.channel.stats.invariantFailures
  timersFailures : final.system.timers.invariantFailures = state.system.timers.invariantFailures
  schedulerFailures : final.system.scheduler.invariantFailures =
    state.system.scheduler.invariantFailures

/-- `stop` of a channel without a pending query. -/
theorem stop_drained (h : System.Inv none system) (hcount : system.channel.pendingCount = 0)
    {finished : System} (hchannel : finished.channel = system.channel) :
    finished.stop = (true, { finished with channel := { system.channel with
      attached := false, socketFd := -1, running := false, accepting := false } }) := by
  unfold System.stop
  dsimp only
  rw [hchannel, if_neg (by simp [hcount]), if_neg]
  rintro ⟨hstarted, hinvalid⟩
  rw [h.validated hstarted hcount] at hinvalid
  cases hinvalid

/-! ## Two tasks that wait, as an example -/

/-- One task waits for an answer, and another for a child that sleeps. -/
def sampleProgram : Program
  | 0 => [.queryUntil { id := 7 } System.sampleQuestion 100, .awaitQuery 0 false false (.sent 17)]
  | 1 => [.make, .awaitTask 2]
  | _ => [.sleepUntil 50, .awaitSleep 0 false]

def sampleStarted : State :=
  { system := System.started System.sampleEnvironment System.initial 3 System.sampleConfig }

theorem step_sampleStarted :
    step System.sampleEnvironment {} (.call (.start 3 System.sampleConfig true false)) =
      some sampleStarted := by
  have hstart := System.run_start
    (show System.run System.sampleEnvironment [] = some System.initial from rfl)
    (show System.initial.startable 3 System.sampleConfig true = true from rfl)
  obtain ⟨system, hstep, hsystem⟩ := Transition.run_cons.mp hstart
  obtain rfl := Option.some.inj hsystem
  simp only [step, isWorkerCall, ↓reduceIte, hstep, Option.map_some]
  rfl

def sampleLabels : List Label := [.spawn, .spawn, .runReady 8 sampleProgram]

/-! ## Shutdown of every run -/

/-- Clean shutdown.  From every state that a worker reaches, whatever its tasks do,
`shutdown_runtime` returns true.  After it no query is pending, no timer is armed, no
task is ready, there is no root task, and the three components are stopped; every frame
that was alive has been destroyed once, and none is alive; and no counter of failures
has increased. -/
theorem clean_shutdown (env : Environment) (program : Program) {labels : List Label}
    {state : State} (hrun : run env labels = some state) :
    (state.shutdownRuntime env program).1 = true ∧
      ShutDown state (state.shutdownRuntime env program).2 := by
  obtain ⟨hdrained, hfailures⟩ := (rests_run env hrun).cancelPendingWork env
  obtain ⟨hchannel, htimers, hscheduler, hrunning, hready, hroots, hbefore, hgone⟩ :=
    hdrained.rests.shutdown env program shutdownResumeBudget hdrained.count hdrained.heap
  have hheap : ((state.cancelPendingWork env).1.shutdown env program
      shutdownResumeBudget).2.system.timers.heap.nodes = [] := by rw [htimers, hdrained.heap]
  have hstop := stop_drained hdrained.rests.inv.system hdrained.count hchannel
  unfold State.shutdownRuntime
  dsimp only
  rw [hstop, hfailures]
  generalize ((state.cancelPendingWork env).1.shutdown env program shutdownResumeBudget).2 =
    finished at *
  have hstopTimers : finished.system.timers.stop =
      (true, { finished.system.timers with running := false, accepting := false }) := by
    unfold TimerQueue.stop
    rw [if_neg (by simp [hheap])]
  dsimp only
  rw [hstopTimers]
  have hall : ∀ task, task < finished.frames → task ∈ finished.destroyed := fun task htask =>
    hgone.mem_iff.mpr (List.mem_range.mpr htask)
  refine ⟨rfl, hdrained.count, hheap, hready, hroots, rfl, rfl, hrunning, ?_, ?_, ?_, ?_, ?_, ?_⟩
  · intro task halive
    have hmade : task < finished.frames :=
      Nat.lt_of_lt_of_le (hdrained.frames ▸ halive.1) hbefore.frames
    exact List.count_eq_one_of_mem (hgone.nodup_iff.mpr List.nodup_range) (hall task hmade)
  · exact hdrained.destroyed ▸ hbefore.destroyed
  · exact fun task halive => halive.2 (hall task halive.1)
  · exact hdrained.unharmed.channel
  · exact (congrArg TimerQueue.invariantFailures htimers).trans hdrained.unharmed.timers
  · exact hscheduler.trans hdrained.unharmed.woken.steady.invariantFailures

theorem shutdown_of_waiting : ∃ state,
    run System.sampleEnvironment
      (.call (.start 3 System.sampleConfig true false) :: sampleLabels) = some state ∧
    state.system.channel.pendingCount = 1 ∧ state.system.timers.heap.nodes.length = 2 ∧
    (state.shutdownRuntime System.sampleEnvironment sampleProgram).1 = true ∧
    (state.shutdownRuntime System.sampleEnvironment sampleProgram).2.destroyed.count 2 = 1 := by
  have hrun : ((Transition.run (step System.sampleEnvironment) sampleStarted sampleLabels).map
      fun state => (state.system.channel.pendingCount, state.system.timers.heap.nodes.length,
        state.frames, state.destroyed)) = some (1, 2, 3, []) := by decide +kernel
  obtain ⟨state, hrun, hstate⟩ := Option.map_eq_some_iff.mp hrun
  simp only [Prod.mk.injEq] at hstate
  obtain ⟨hcount, htimers, hframes, hdestroyed⟩ := hstate
  have hreached : run System.sampleEnvironment
      (.call (.start 3 System.sampleConfig true false) :: sampleLabels) = some state :=
    Transition.run_cons.mpr ⟨_, step_sampleStarted, hrun⟩
  obtain ⟨hresult, hfinal⟩ := clean_shutdown System.sampleEnvironment sampleProgram hreached
  have halive : state.Alive 2 := ⟨by simp [hframes], by simp [hdestroyed]⟩
  exact ⟨state, hreached, hcount, htimers, hresult, hfinal.destroyedOnce 2 halive⟩

end DnsPro.WorkerRuntime
