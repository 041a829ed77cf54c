import DnsPro.EventLoop.Steps
import DnsPro.Server.Containment

/-!
# The runtime under the event loop

`Steady` is what holds of the worker between two steps of its loop: the invariant of the
worker, a channel that runs, no internal check of the scheduler or of the timer queue that
failed, no coroutine that an exception has left, and a scheduler that refuses a coroutine
only after a stop.  `Driven` lists what a
step of the loop does to the worker; every step is one of these, and each of them keeps a
worker steady.
-/

namespace DnsPro.EventLoop

open DnsPro.Filter DnsPro.Protocol DnsPro.Readiness DnsPro.Runtime DnsPro.Server DnsPro.Upstream

/-- The `schedule_failures` that the loop will check. -/
def Point.failures : Point → Nat
  | .readying failures => failures
  | .running failures _ _ => failures
  | .checking failures => failures
  | _ => 0

structure Steady (stop : Bool) (worker : Worker) : Prop where
  inv : worker.Inv
  running : worker.upstream.channel.running = true
  scheduler : worker.upstream.scheduler.invariantFailures = 0
  timers : worker.upstream.timers.invariantFailures = 0
  sorted : worker.upstream.timers.Sorted
  accepting : worker.upstream.scheduler.accepting = !worker.upstream.scheduler.stopRequested
  stopped : worker.upstream.scheduler.stopRequested = true → stop = true
  exception : ∀ task, (worker.upstream.scheduler.tasks task).exception = false

/-- What a step of the loop does to the worker. -/
inductive Driven (env : Server.Environment) (stop : Bool) (worker : Worker) :
    Loop.Label → Worker → Prop where
  | same {label : Loop.Label} : Driven env stop worker label worker
  | observed {label : Loop.Label} : Driven env stop worker label (observed stop worker)
  | refreshed {label : Loop.Label} (snapshot : Option DomainBlocklist) :
      Driven env stop worker label { worker with snapshot := snapshot }
  | upstream {label : Loop.Label} (call : System.Label) {system : System}
      (hstep : worker.upstream.step env.upstream call = some system)
      (hended : System.Ended worker.upstream system) :
      Driven env stop worker label { worker with upstream := system }
  | hangup {label : Loop.Label} (call : System.Label) {system : System}
      (hstep : worker.upstream.step env.upstream call = some system)
      (hended : System.Ended worker.upstream system) :
      Driven env stop worker label { worker with upstream := system, upstreamUsable := false }
  | lost {task : TaskId} (stats : WorkerStats) :
      Driven env stop worker (.spawned task true) { worker with stats := stats }
  | spawned {task : TaskId} {datagram : ClientDatagram} {next : Worker}
      (hstep : (EventLoop.observed stop worker).step env (.receive task datagram) = some next) :
      Driven env stop worker (.spawned task false) next
  | resumed {next : Worker} (hstep : worker.step env (.upstream .resume) = some next) :
      Driven env stop worker .resumed next
  | acted {before next : Worker} {task : TaskId} {action : Worker.Label}
      (hbefore : before = worker ∨ before = EventLoop.observed stop worker)
      (hactor : action.actor = some task) (hstep : before.step env action = some next) :
      Driven env stop worker (.acted action) next

variable {env : Server.Environment} {stop : Bool} {worker next : Worker}

theorem Steady.congr (h : Steady stop worker) (hupstream : next.upstream = worker.upstream)
    (hframes : next.frames = worker.frames) (hsent : next.sent = worker.sent) :
    Steady stop next := by
  obtain ⟨⟨hinv, hok, hgood, honce⟩, hrunning, hscheduler, htimers, hsorted, haccepting,
    hstopped, hexception⟩ := h
  rw [← hupstream] at hinv hok hrunning hscheduler htimers hsorted haccepting hstopped hexception
  rw [← hframes] at hok hgood
  rw [← hsent] at hgood honce
  exact ⟨⟨hinv, hok, hgood, honce⟩, hrunning, hscheduler, htimers, hsorted, haccepting, hstopped,
    hexception⟩

/-- A stop may be requested at any time. -/
theorem Steady.request (h : Steady stop worker) : Steady true worker :=
  ⟨h.inv, h.running, h.scheduler, h.timers, h.sorted, h.accepting, fun _ => rfl, h.exception⟩

/-- A step of the worker that fails no check. -/
theorem Steady.step (h : Steady stop worker) {label : Worker.Label}
    (hstep : worker.step env label = some next)
    (hrunning : next.upstream.channel.running = worker.upstream.channel.running)
    (hscheduler : Scheduler.Same worker.upstream.scheduler next.upstream.scheduler)
    (htimers : TimerQueue.Same worker.upstream.timers next.upstream.timers) :
    Steady stop next where
  inv := Worker.inv_step env label h.inv hstep
  running := hrunning.trans h.running
  scheduler := hscheduler.failures.trans h.scheduler
  timers := htimers.failures.trans h.timers
  sorted := htimers.sorted h.sorted
  accepting := by
    rw [hscheduler.accepting, hscheduler.stopRequested]
    exact h.accepting
  stopped := by
    rw [hscheduler.stopRequested]
    exact h.stopped
  exception task := (hscheduler.exception task).trans (h.exception task)

theorem Steady.observed (h : Steady stop worker) : Steady stop (observed stop worker) := by
  unfold EventLoop.observed
  split
  · rename_i hstop
    have hinv := h.inv.setUpstream h.inv.upstream.requestStop
      (Worker.keepsAsked_setScheduler worker.upstream _)
    exact ⟨hinv, h.running, h.scheduler, h.timers, h.sorted, rfl, fun _ => hstop, h.exception⟩
  · exact h

/-- What ends queries keeps a worker steady. -/
theorem Steady.ended (h : Steady stop worker) {label : System.Label} {system : System}
    (hstep : worker.upstream.step env.upstream label = some system)
    (hended : System.Ended worker.upstream system) :
    Steady stop { worker with upstream := system } where
  inv := h.inv.setUpstream hended.inv fun _ _ _ _ hasked =>
    hasked.step h.inv.upstream label hstep
  running := hended.undisturbed.running.trans h.running
  scheduler := hended.undisturbed.scheduler.failures.trans h.scheduler
  timers := hended.undisturbed.timers.failures.trans h.timers
  sorted := hended.undisturbed.timers.sorted h.sorted
  accepting := by
    dsimp only
    rw [hended.undisturbed.scheduler.accepting, hended.undisturbed.scheduler.stopRequested]
    exact h.accepting
  stopped := by
    dsimp only
    rw [hended.undisturbed.scheduler.stopRequested]
    exact h.stopped
  exception task := (hended.undisturbed.scheduler.exception task).trans (h.exception task)

theorem resume_undisturbed (h : worker.Inv)
    (hstep : worker.step env (.upstream .resume) = some next) :
    System.Undisturbed worker.upstream next.upstream := by
  cases Worker.step_eq_some.mp hstep with
  | upstream hexternal hsystem =>
    obtain ⟨scheduler, hfront, rfl⟩ := Option.map_eq_some_iff.mp hsystem
    exact ⟨rfl, h.upstream.scheduler.runFront_calm hfront, .refl _⟩

theorem Steady.driven (h : Steady stop worker) {label : Loop.Label}
    (hdriven : Driven env stop worker label next) : Steady stop next := by
  cases hdriven with
  | same => exact h
  | observed => exact h.observed
  | refreshed | lost => exact h.congr rfl rfl rfl
  | upstream _ hstep hended => exact h.ended hstep hended
  | hangup _ hstep hended => exact (h.ended hstep hended).congr rfl rfl rfl
  | @spawned task datagram next hstep =>
    cases Worker.step_eq_some.mp hstep with
    | receive => exact h.observed.step hstep rfl (Scheduler.spawn_same _ task).1 (.refl _)
  | resumed hstep =>
    have hundisturbed := resume_undisturbed h.inv hstep
    exact h.step hstep hundisturbed.running hundisturbed.scheduler.toSame hundisturbed.timers
  | @acted before next task action hbefore hactor hstep =>
    have hsteady : Steady stop before := by
      rcases hbefore with rfl | rfl
      · exact h
      · exact h.observed
    have hundisturbed := (Worker.step_contained hsteady.inv hstep hactor).undisturbed
    exact hsteady.step hstep hundisturbed.running hundisturbed.scheduler.toSame hundisturbed.timers

theorem observed_frame (stop : Bool) (worker : Worker) :
    System.Unsent worker.upstream (observed stop worker).upstream ∧
      (observed stop worker).snapshot = worker.snapshot ∧
      (observed stop worker).upstreamUsable = worker.upstreamUsable := by
  unfold observed
  split
  · exact ⟨System.unsent_setScheduler _ _, rfl, rfl⟩
  · exact ⟨System.Unsent.refl _, rfl, rfl⟩

/-- The loop sends no query, or one that the filter lets pass. -/
theorem asks_of_driven (h : Steady stop worker) {label : Loop.Label}
    (hdriven : Driven env stop worker label next) :
    System.Unsent worker.upstream next.upstream ∨ Worker.Asks env worker next := by
  obtain ⟨hobserved, hsnapshot, husable⟩ := observed_frame stop worker
  cases hdriven with
  | same | refreshed | lost => exact .inl (System.Unsent.refl _)
  | observed => exact .inl hobserved
  | upstream _ _ hended | hangup _ _ hended => exact .inl hended.unsent
  | spawned hstep =>
    cases Worker.step_eq_some.mp hstep with
    | receive => exact .inl (hobserved.trans (System.unsent_setScheduler _ _))
  | resumed hstep =>
    cases Worker.step_eq_some.mp hstep with
    | upstream _ hsystem =>
      obtain ⟨scheduler, -, rfl⟩ := Option.map_eq_some_iff.mp hsystem
      exact .inl (System.unsent_setScheduler _ _)
  | acted hbefore hactor hstep =>
    rcases hbefore with rfl | rfl
    · exact Worker.step_asks h.inv hstep hactor
    · exact (Worker.step_asks h.observed.inv hstep hactor).imp hobserved.trans fun hasks =>
        hasks.of_unsent hobserved hsnapshot husable

namespace Loop

variable {loop next : Loop} {label : Label}

structure Sound (loop : Loop) : Prop where
  steady : Steady loop.stop loop.worker
  failures : loop.point.failures = 0
  exceptions : loop.unhandledRootExceptions = 0

/-! ## Steps -/

@[simp] theorem upstreamPoint_failures (upstreamPending : Bool) :
    (upstreamPoint upstreamPending).failures = 0 := by
  cases upstreamPending <;> rfl

@[simp] theorem listenerPoint_failures (listenerPending upstreamPending : Bool) :
    (listenerPoint listenerPending upstreamPending).failures = 0 := by
  cases listenerPending
  · exact upstreamPoint_failures upstreamPending
  · rfl

/-- Reporting events touches the two sockets, and dispatching them does not even that. -/
theorem report_worker (events : List Event) (loop : Loop) :
    (events.foldl report loop).worker = loop.worker ∧
      (events.foldl report loop).stop = loop.stop := by
  induction events generalizing loop with
  | nil => exact ⟨rfl, rfl⟩
  | cons event events ih =>
    rw [List.foldl_cons]
    obtain ⟨hworker, hstop⟩ := ih (loop.report event)
    rw [hworker, hstop]
    cases event with
    | listener | wake | generation | upstream => exact ⟨rfl, rfl⟩

theorem dispatch_worker (loop : Loop) (event : Event) :
    (loop.dispatch event).worker = loop.worker ∧ (loop.dispatch event).stop = loop.stop := by
  cases event with
  | listener | wake | generation | upstream => exact ⟨rfl, rfl⟩

theorem driven_of_stepped (h : loop.worker.Inv) (hstepped : Stepped env loop label next) :
    Driven env loop.stop loop.worker label next.worker := by
  have hkept := System.ended_kept env.upstream loop.worker.upstream
  have hrefl := h.upstream.ended_refl
  cases hstepped with
  | stopped | waiting | timing | interrupted | pollFailed | dispatched | synchronizing | upToDate
  | stale | receiveInterrupted | receiveEmpty | receiveFailed | received | receivedAll
  | drainInterrupted | drainEmpty | notRunning | drainedAll | noError | errorCleared | ran | thrown
  | broken   | checked | arrives | upstreamArrives | upstreamRaises | stopRequested | wakeWritten
  | refreshRequested => exact .same
  | @polled _ _ events =>
    dsimp only [goto]
    rw [(report_worker events loop).1]
    exact .same
  | @dispatch event =>
    dsimp only [goto]
    rw [(dispatch_worker loop event).1]
    exact .same
  | refreshed => exact .refreshed _
  | lost => exact .lost _
  | spawned _ hstep => exact .spawned hstep
  | @drainFailed _ errorNumber =>
    exact .upstream (.failAll .socketError errorNumber) rfl
      (hkept.failAll hrefl .socketError errorNumber)
  | drained =>
    exact .upstream (.handleDatagram _ _ _) rfl
      (hkept.handleDatagram hrefl _ _ _)
  | errorFailed socketError =>
    exact .upstream (.failAll .socketError socketError) rfl
      (hkept.failAll hrefl .socketError socketError)
  | hungUp socketError =>
    exact .hangup (.failAll .socketError socketError) rfl
      (hkept.failAll hrefl .socketError socketError)
  | @expired now =>
    exact .upstream (.expire now timerBudget) rfl
      (hkept.expire hrefl now timerBudget)
  | readied => exact .observed
  | resumed _ _ _ hstep => exact .resumed hstep
  | acted _ hbefore hactor hstep => exact .acted hbefore hactor hstep

theorem stop_of_stepped (hstepped : Stepped env loop label next) :
    next.stop = loop.stop ∨ next.stop = true := by
  cases hstepped with
  | @polled _ _ events => exact .inl (report_worker events loop).2
  | @dispatch event => exact .inl (dispatch_worker loop event).2
  | stopRequested => exact .inr rfl
  | _ => exact .inl rfl

/-- No task of a timer that ended could not be scheduled. -/
theorem failures_of_stepped (h : loop.worker.Inv) (hstepped : Stepped env loop label next) :
    next.point.failures = loop.point.failures ∨ next.point.failures = 0 := by
  cases hstepped with
  | upToDate | refreshed => exact .inr (listenerPoint_failures _ _)
  | receiveEmpty | receiveFailed | receivedAll => exact .inr (upstreamPoint_failures _)
  | receiveInterrupted | drainInterrupted | arrives | upstreamArrives | upstreamRaises
  | stopRequested | wakeWritten | refreshRequested => exact .inl rfl
  | @expired now => exact .inr (h.upstream.expire_scheduleFailures env.upstream now timerBudget)
  | readied hpoint | resumed hpoint | acted hpoint | ran hpoint =>
    rw [hpoint]
    exact .inl rfl
  | _ => exact .inr rfl

theorem report_exceptions (events : List Event) (loop : Loop) :
    (events.foldl report loop).unhandledRootExceptions = loop.unhandledRootExceptions := by
  induction events generalizing loop with
  | nil => rfl
  | cons event events ih =>
    rw [List.foldl_cons, ih]
    cases event with
    | listener | wake | generation | upstream => rfl

/-- A coroutine that has ended without an exception is not counted. -/
theorem exceptions_of_stepped (hstepped : Stepped env loop label next)
    (hexception : ∀ task, (next.worker.upstream.scheduler.tasks task).exception = false) :
    next.unhandledRootExceptions = loop.unhandledRootExceptions := by
  cases hstepped with
  | @polled _ _ events => exact report_exceptions events loop
  | @dispatch event =>
    cases event with
    | listener | wake | generation | upstream => rfl
  | @acted _ _ task _ _ worker =>
    have hnone : ¬ ((worker.upstream.scheduler.tasks task).point = .final ∧
        (worker.upstream.scheduler.tasks task).exception = true) := by
      intro hthrown
      exact Bool.false_ne_true ((hexception task).symm.trans hthrown.2)
    exact if_neg hnone
  | _ => rfl

theorem sound_step (h : loop.Sound) (hstep : loop.step env label = some next) : next.Sound := by
  have hstepped := stepped_of_step hstep
  have hsteady : Steady loop.stop next.worker :=
    h.steady.driven (driven_of_stepped h.steady.inv hstepped)
  refine ⟨?_, ?_, (exceptions_of_stepped hstepped hsteady.exception).trans h.exceptions⟩
  · rcases stop_of_stepped hstepped with hsame | htrue
    · rw [hsame]
      exact hsteady
    · rw [htrue]
      exact hsteady.request
  · rcases failures_of_stepped h.steady.inv hstepped with hsame | hzero
    · exact hsame.trans h.failures
    · exact hzero

/-! ## Runs -/

variable {cache : Cache.CacheShard} {snapshot : Option DomainBlocklist} {socketFd : Int}
  {config : ChannelConfig} {labels : List Label}

/-- `start` of the channel succeeds. -/
def Started (env : Server.Environment) (socketFd : Int) (config : ChannelConfig) : Prop :=
  (System.initial.start env.upstream socketFd config true false).1 = some true

instance (env : Server.Environment) (socketFd : Int) (config : ChannelConfig) :
    Decidable (Started env socketFd config) :=
  inferInstanceAs (Decidable (_ = _))

/-- The channel that was started, and nothing else. -/
theorem started_eq (hstarted : Started env socketFd config) :
    ∃ channel, channel.running = true ∧
      (System.initial.start env.upstream socketFd config true false).2 =
        { System.initial with channel := channel } := by
  have heq := System.inv_initial.start_eq env.upstream socketFd config true false
  unfold Started at hstarted
  rw [heq] at hstarted ⊢
  split at hstarted
  · cases hstarted
  · rename_i hstartable
    rw [if_neg hstartable]
    simp only [Bool.false_eq_true, and_false, if_false]
    exact ⟨_, rfl, rfl⟩

theorem sound_initial (cache : Cache.CacheShard) (snapshot : Option DomainBlocklist)
    (hstarted : Started env socketFd config) :
    (initial env cache snapshot socketFd config).Sound := by
  have hinv := Worker.inv_step env (.upstream (.start socketFd config true false))
    (Worker.inv_initial cache snapshot) rfl
  obtain ⟨channel, hrunning, heq⟩ := started_eq hstarted
  have hsystem : (initial env cache snapshot socketFd config).worker.upstream =
      { System.initial with channel := channel } := heq
  refine ⟨⟨hinv, ?_, ?_, ?_, ?_, ?_, ?_, ?_⟩, rfl, rfl⟩
  all_goals rw [hsystem]
  · exact hrunning
  · rfl
  · rfl
  · exact TimerQueue.sorted_of_nil rfl
  · rfl
  · exact fun hstop => by cases hstop
  · exact fun _ => rfl

theorem sound_run (hstarted : Started env socketFd config)
    (hrun : run env cache snapshot socketFd config labels = some loop) : loop.Sound :=
  Transition.run_invariant Sound (fun _ _ _ h hstep => sound_step h hstep)
    (sound_initial cache snapshot hstarted) hrun

/-- A fact that every step keeps from a sound state. -/
theorem run_invariant_sound (Inv : Loop → Prop)
    (hinitial : Inv (initial env cache snapshot socketFd config))
    (hstep : ∀ loop label next, Sound loop → Inv loop → loop.step env label = some next → Inv next)
    (hstarted : Started env socketFd config)
    (hrun : run env cache snapshot socketFd config labels = some loop) : Inv loop := by
  have h := Transition.run_invariant (fun loop => Sound loop ∧ Inv loop)
    (fun loop label next h hnext => ⟨sound_step h.1 hnext, hstep loop label next h.1 h.2 hnext⟩)
    ⟨sound_initial cache snapshot hstarted, hinitial⟩ hrun
  exact h.2

/-! ## A loop, as an example -/

/-- The loop over a channel that was started with one id. -/
def sampleLoop (snapshot : Option DomainBlocklist) : Loop where
  worker :=
    let worker := Worker.initial { capacity := 8 } snapshot
    { worker with
      upstream := System.started Worker.sampleEnvironment.upstream System.initial 3
        System.sampleConfig }

theorem sample_start :
    System.initial.start Worker.sampleEnvironment.upstream 3 System.sampleConfig true false =
      (some true, System.started Worker.sampleEnvironment.upstream System.initial 3
        System.sampleConfig) := by
  rw [System.inv_initial.start_eq, if_neg (by decide), if_neg (by simp)]
  rfl

theorem sample_started : Started Worker.sampleEnvironment 3 System.sampleConfig := by
  unfold Started
  rw [sample_start]

theorem initial_sample (snapshot : Option DomainBlocklist) :
    initial Worker.sampleEnvironment { capacity := 8 } snapshot 3 System.sampleConfig =
      sampleLoop snapshot := by
  unfold initial
  dsimp only [Worker.initial]
  rw [sample_start]
  rfl

theorem run_sample (snapshot : Option DomainBlocklist) (labels : List Label) :
    run Worker.sampleEnvironment { capacity := 8 } snapshot 3 System.sampleConfig labels =
      Transition.run (step Worker.sampleEnvironment) (sampleLoop snapshot) labels := by
  unfold run
  rw [initial_sample]

end Loop

end DnsPro.EventLoop
