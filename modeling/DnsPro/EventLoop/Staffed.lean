import DnsPro.EventLoop.Sound
import DnsPro.Server.Progress

/-!
# Every coroutine is attended

`Staffed` is what every step keeps of the coroutines: each one that the scheduler has taken is
at its end, runs, is ready, or waits for a query that is pending; the one that the loop has
resumed executes; and there is always a task that was not made yet.
-/

namespace DnsPro.EventLoop

open DnsPro.Filter DnsPro.Protocol DnsPro.Readiness DnsPro.Runtime DnsPro.Server DnsPro.Upstream

namespace Loop

variable {env : Server.Environment} {loop next : Loop} {label : Label}

/-- Every task that was bound has a frame, and is attended. -/
def StaffedWorker (worker : Worker) : Prop :=
  ∀ task, (worker.upstream.scheduler.tasks task).bound = true →
    ∃ frame, worker.frames task = some frame ∧ frame.Attended worker.upstream task

structure Staffed (loop : Loop) : Prop where
  worker : StaffedWorker loop.worker
  current : ∀ failures resumed task, loop.point = .running failures resumed (some task) →
    loop.worker.upstream.executing task
  unmade : ∃ bound, ∀ task, bound ≤ task → loop.worker.frames task = none

theorem StaffedWorker.attends {worker next : Worker} (h : StaffedWorker worker)
    (hframes : next.frames = worker.frames)
    (hbound : ∀ task, (next.upstream.scheduler.tasks task).bound =
      (worker.upstream.scheduler.tasks task).bound)
    (hattends : ∀ task, System.Attends task worker.upstream next.upstream) :
    StaffedWorker next := by
  intro task htask
  rw [hbound task] at htask
  obtain ⟨frame, hframe, hattended⟩ := h task htask
  exact ⟨frame, by rw [hframes, hframe], hattended.keep (hattends task)⟩

theorem StaffedWorker.observed {worker : Worker} (h : StaffedWorker worker) (stop : Bool) :
    StaffedWorker (observed stop worker) := by
  unfold EventLoop.observed
  split
  · exact h.attends rfl (fun _ => rfl) fun _ =>
      ⟨⟨rfl, id⟩, fun _ hpending hframe => .inl ⟨hpending, hframe⟩⟩
  · exact h

theorem StaffedWorker.acted {worker next : Worker} (h : StaffedWorker worker)
    (hinv : worker.Inv) {task : TaskId} {label : Worker.Label} (hactor : label.actor = some task)
    (hstep : worker.step env label = some next) : StaffedWorker next := by
  have hcontained := Worker.step_contained hinv hstep hactor
  obtain ⟨-, after, -, hnext, -⟩ := Worker.step_actor hinv hstep hactor
  obtain ⟨-, -, -, frame, hframe, -, hattended⟩ := Worker.step_advances hinv hstep hactor
  intro other hbound
  by_cases hself : other = task
  · rw [hself]
    exact ⟨frame, hframe, hattended⟩
  · rw [hcontained.undisturbed.scheduler.bound other] at hbound
    obtain ⟨frame', hframe', hattended'⟩ := h other hbound
    refine ⟨frame', ?_, hattended'.keep (hcontained.attends other hself)⟩
    rw [hnext, Function.update_of_ne hself, hframe']

/-- The first ready coroutine runs, and the other ones are left alone. -/
theorem StaffedWorker.resumed {worker next : Worker} (h : StaffedWorker worker) (hinv : worker.Inv)
    (hstep : worker.step env (.upstream .resume) = some next) : StaffedWorker next := by
  cases Worker.step_eq_some.mp hstep with
  | upstream _ hsystem =>
    obtain ⟨scheduler, hfront, rfl⟩ := Option.map_eq_some_iff.mp hsystem
    unfold Scheduler.runFront at hfront
    split at hfront
    · cases hfront
    rename_i front rest hready
    obtain rfl := Option.some.inj hfront
    have hok := hinv.upstream.scheduler
    have hqueued : (worker.upstream.scheduler.tasks front).queued = true :=
      (hok.queued_iff front).mpr (by rw [hready]; exact .head rest)
    intro other hbound
    by_cases hself : other = front
    · subst hself
      obtain ⟨frame, hframe, hattended⟩ := h other (by simpa [System.setScheduler,
        Scheduler.setTask] using hbound)
      refine ⟨frame, hframe, .executing ?_ (by simp [System.executing, System.setScheduler,
        Scheduler.setTask])⟩
      cases hattended with
      | returned _ hfinal => exact absurd hfinal (hok.live other hqueued).1
      | executing hopen => exact hopen
      | ready hopen => exact hopen
      | waiting hstage => simp [hstage]
    · obtain ⟨frame, hframe, hattended⟩ := h other (by simpa [System.setScheduler,
        Scheduler.setTask, hself] using hbound)
      refine ⟨frame, hframe, hattended.keep ⟨.of_eq ?_, fun _ hpending hother =>
        .inl ⟨hpending, hother⟩⟩⟩
      exact Function.update_of_ne hself _ _

/-- A new task that is bound is ready. -/
theorem spawn_queued {scheduler : Scheduler} (hok : scheduler.Ok) {task : TaskId}
    (hfresh : (scheduler.tasks task).bound = false)
    (hbound : ((scheduler.spawn task).tasks task).bound = true) :
    ((scheduler.spawn task).tasks task).queued = true := by
  obtain ⟨hpoint, -, hqueued⟩ := hok.unbound task hfresh
  unfold Scheduler.spawn at hbound ⊢
  split at hbound
  · rw [hfresh] at hbound
    cases hbound
  · rename_i haccepts
    rw [if_neg haccepts]
    simp [Scheduler.schedule, Scheduler.setTask, hok.running, hpoint, hqueued]

/-- The coroutine of a packet has a frame before it is bound, and it is ready when it is. -/
theorem StaffedWorker.spawned {stop : Bool} {worker next : Worker} (h : StaffedWorker worker)
    (hsteady : Steady stop worker) {task : TaskId} {datagram : ClientDatagram}
    (hstep : (EventLoop.observed stop worker).step env (.receive task datagram) = some next) :
    StaffedWorker next := by
  have hobserved := h.observed stop
  have hok := hsteady.observed.inv.upstream.scheduler
  generalize EventLoop.observed stop worker = before at hstep hobserved hok
  cases Worker.step_eq_some.mp hstep with
  | receive _ hfresh =>
    intro other hbound
    change ((before.upstream.scheduler.spawn task).tasks other).bound = true at hbound
    by_cases hself : other = task
    · subst hself
      refine ⟨_, Function.update_self _ _ _, .ready (by simp) ?_⟩
      exact spawn_queued hok hfresh hbound
    · have hsame := (Scheduler.spawn_same before.upstream.scheduler task).2 other hself
      rw [hsame] at hbound
      obtain ⟨frame, hframe, hattended⟩ := hobserved other hbound
      refine ⟨frame, (Function.update_of_ne hself _ _).trans hframe, hattended.keep
        ⟨.of_eq hsame, fun _ hpending hother => .inl ⟨hpending, hother⟩⟩⟩

theorem StaffedWorker.driven {stop : Bool} {worker next : Worker} (h : StaffedWorker worker)
    (hsteady : Steady stop worker) {label : Label} (hdriven : Driven env stop worker label next) :
    StaffedWorker next := by
  cases hdriven with
  | same | refreshed | lost => exact h
  | observed => exact h.observed stop
  | upstream _ _ hended | hangup _ _ hended =>
    exact h.attends rfl hended.undisturbed.scheduler.bound hended.attends
  | spawned hstep => exact h.spawned hsteady hstep
  | resumed hstep => exact h.resumed hsteady.inv hstep
  | acted hbefore hactor hstep =>
    rcases hbefore with rfl | rfl
    · exact h.acted hsteady.inv hactor hstep
    · exact (h.observed stop).acted hsteady.observed.inv hactor hstep

theorem observed_frames (stop : Bool) (worker : Worker) :
    (observed stop worker).frames = worker.frames := by
  unfold observed
  split
  · rfl
  · rfl

/-- A step makes or changes one frame at most. -/
theorem frames_of_driven {stop : Bool} {worker next : Worker} (hsteady : Steady stop worker)
    {label : Label} (hdriven : Driven env stop worker label next) :
    next.frames = worker.frames ∨
      ∃ task frame, next.frames = Function.update worker.frames task (some frame) := by
  have hframes := observed_frames stop worker
  cases hdriven with
  | same | refreshed | lost | upstream | hangup => exact .inl rfl
  | observed => exact .inl hframes
  | spawned hstep =>
    cases Worker.step_eq_some.mp hstep with
    | receive => exact .inr ⟨_, _, congrArg (Function.update · _ _) hframes⟩
  | resumed hstep =>
    cases Worker.step_eq_some.mp hstep with
    | upstream => exact .inl rfl
  | acted hbefore hactor hstep =>
    rcases hbefore with rfl | rfl
    · obtain ⟨-, frame, -, hnext, -⟩ := Worker.step_actor hsteady.inv hstep hactor
      exact .inr ⟨_, frame, hnext⟩
    · obtain ⟨-, frame, -, hnext, -⟩ := Worker.step_actor hsteady.observed.inv hstep hactor
      exact .inr ⟨_, frame, hframes ▸ hnext⟩

theorem unmade_driven {stop : Bool} {worker next : Worker} (hsteady : Steady stop worker)
    {label : Label} (hdriven : Driven env stop worker label next)
    (h : ∃ bound, ∀ task, bound ≤ task → worker.frames task = none) :
    ∃ bound, ∀ task, bound ≤ task → next.frames task = none := by
  obtain ⟨bound, hnone⟩ := h
  rcases frames_of_driven hsteady hdriven with hsame | ⟨made, frame, hnext⟩
  · exact ⟨bound, fun task hle => (congrFun hsame task).trans (hnone task hle)⟩
  · refine ⟨max bound (made + 1), fun task hle => ?_⟩
    have hne : task ≠ made := Nat.ne_of_gt ((le_max_right _ _).trans hle)
    rw [hnext, Function.update_of_ne hne]
    exact hnone task ((le_max_left _ _).trans hle)

/-- `run_ready` resumes the front of the ready list. -/
theorem resumed_executing {task : TaskId} {rest : List TaskId} {worker next : Worker}
    (hready : worker.upstream.scheduler.ready = task :: rest)
    (hstep : worker.step env (.upstream .resume) = some next) : next.upstream.executing task := by
  cases Worker.step_eq_some.mp hstep with
  | upstream _ hsystem =>
    obtain ⟨scheduler, hfront, rfl⟩ := Option.map_eq_some_iff.mp hsystem
    unfold Scheduler.runFront at hfront
    rw [hready] at hfront
    obtain rfl := Option.some.inj hfront
    simp [System.executing, System.setScheduler, Scheduler.setTask]

/-- A coroutine runs because it was resumed, or goes on running. -/
theorem current_of_stepped (hstepped : Stepped env loop label next) {failures resumed : Nat}
    {task : TaskId} (hpoint : next.point = .running failures resumed (some task)) :
    next.worker.upstream.executing task ∨ next.point = loop.point ∧ next.worker = loop.worker := by
  cases hstepped with
  | upToDate | refreshed => exact absurd hpoint (listenerPoint_ne rfl _ _)
  | receiveEmpty | receiveFailed | receivedAll => exact absurd hpoint (upstreamPoint_ne rfl _)
  | resumed _ _ hready hstep =>
    obtain ⟨-, -, hcurrent⟩ := Point.running.inj hpoint
    obtain rfl := Option.some.inj hcurrent
    exact .inl (resumed_executing hready hstep)
  | acted =>
    have hcurrent := (Point.running.inj hpoint).2.2
    split at hcurrent
    · rename_i hexecuting
      exact .inl (Option.some.inj hcurrent ▸ hexecuting)
    · cases hcurrent
  | receiveInterrupted | drainInterrupted | arrives | upstreamArrives | upstreamRaises
  | stopRequested | wakeWritten | refreshRequested => exact .inr ⟨rfl, rfl⟩
  | _ => cases hpoint

theorem staffed_step (hsound : loop.Sound) (h : loop.Staffed)
    (hstep : loop.step env label = some next) : next.Staffed := by
  have hstepped := stepped_of_step hstep
  constructor
  · exact h.worker.driven hsound.steady (driven_of_stepped hsound.steady.inv hstepped)
  · intro failures resumed task hpoint
    rcases current_of_stepped hstepped hpoint with hexecuting | ⟨hsame, hworker⟩
    · exact hexecuting
    · rw [hworker]
      exact h.current failures resumed task (hsame.symm.trans hpoint)
  · exact unmade_driven hsound.steady (driven_of_stepped hsound.steady.inv hstepped) h.unmade

theorem staffed_initial (env : Server.Environment) (cache : Cache.CacheShard)
    (snapshot : Option DomainBlocklist) {socketFd : Int} {config : ChannelConfig}
    (hstarted : Started env socketFd config) :
    (initial env cache snapshot socketFd config).Staffed := by
  obtain ⟨channel, -, heq⟩ := started_eq hstarted
  have hsystem : (initial env cache snapshot socketFd config).worker.upstream =
      { System.initial with channel := channel } := heq
  refine ⟨fun task hbound => ?_, fun _ _ _ hpoint => (by cases hpoint), 0, fun _ _ => rfl⟩
  rw [hsystem] at hbound
  cases hbound

theorem staffed_run {cache : Cache.CacheShard} {snapshot : Option DomainBlocklist}
    {socketFd : Int} {config : ChannelConfig} {labels : List Label}
    (hstarted : Started env socketFd config)
    (hrun : run env cache snapshot socketFd config labels = some loop) : loop.Staffed :=
  run_invariant_sound Staffed (staffed_initial env cache snapshot hstarted)
    (fun _ _ _ hsound h hstep => staffed_step hsound h hstep) hstarted hrun

end Loop

end DnsPro.EventLoop
