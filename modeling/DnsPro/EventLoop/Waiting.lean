import DnsPro.EventLoop.Staffed
import DnsPro.EventLoop.Wakeups

/-!
# No coroutine is stranded

When the loop is blocked in `epoll_wait`, no coroutine runs (`Alone`) and none is ready, so by
`Staffed` each one has ended or waits for a query that is pending.  A pending query has an armed
timer, and the timeout of the poll does not go beyond it (`waitTimeout_bounds`).
-/

namespace DnsPro.Runtime

variable {ν : Type} {timers : TimerQueue ν} {front : ν} {now : TimePoint} {timeout : Int}

/-- The milliseconds to a deadline that has not passed. -/
theorem ceil_bounds {deadline now : Int} (hlate : now < deadline) :
    0 < min intMax ⌈((deadline - now : Int) : ℚ) / millisecond⌉ ∧
      (min intMax ⌈((deadline - now : Int) : ℚ) / millisecond⌉ - 1) * millisecond <
        deadline - now := by
  have hpositive := Signed.ceil_pos millisecond_pos (Int.sub_pos.mpr hlate)
  refine ⟨lt_min (by decide) hpositive, ?_⟩
  rw [← Signed.lt_ceil_iff millisecond_pos]
  have hmin := min_le_right intMax ⌈((deadline - now : Int) : ℚ) / millisecond⌉
  omega

/-- The wait for a deadline that has not passed ends less than a millisecond after it. -/
theorem TimerQueue.waitTimeout_bounds (hfront : timers.heap.nodes.head? = some front)
    (hlate : now < (timers.registrations front).deadline)
    (h : timers.waitTimeout now = some timeout) :
    0 < timeout ∧ (timeout - 1) * millisecond < (timers.registrations front).deadline - now := by
  unfold waitTimeout at h
  rw [hfront] at h
  dsimp only at h
  generalize (timers.registrations front).deadline = deadline at hlate h ⊢
  have hbounds := ceil_bounds hlate
  rw [if_neg (not_le.mpr hlate), maximumWait_eq] at h
  dsimp only [Option.bind_eq_bind, Option.bind_some] at h
  rw [beyondEpoch_eq] at h
  dsimp only [Option.bind_some] at h
  split at h
  · rename_i hbeyond
    have hfar : intMax * millisecond ≤ (deadline - now : Int) := by
      have := of_decide_eq_true hbeyond
      omega
    obtain rfl := Option.some.inj h
    rwa [min_ceil_of_le hfar] at hbounds
  obtain ⟨waitDuration, hsub, h⟩ := Option.bind_eq_some_iff.mp h
  unfold Signed.sub Signed.checked at hsub
  split at hsub
  · rename_i hfits
    obtain rfl := Option.some.inj hsub
    split at h
    · rename_i hfar
      obtain rfl := Option.some.inj h
      rwa [min_ceil_of_le hfar] at hbounds
    rw [Signed.ceilTo_eq millisecond_pos hfits] at h
    dsimp only [Option.bind_some] at h
    split at h
    · rename_i hclamped
      obtain rfl := Option.some.inj h
      rwa [min_eq_left hclamped] at hbounds
    · rename_i hbelow
      unfold Signed.checked at h
      split at h
      · obtain rfl := Option.some.inj h
        rwa [min_eq_right (not_le.mp hbelow).le] at hbounds
      · cases h
  · cases hsub

end DnsPro.Runtime

namespace DnsPro.EventLoop

open DnsPro.Filter DnsPro.Protocol DnsPro.Readiness DnsPro.Runtime DnsPro.Server DnsPro.Upstream

/-- The coroutine that was resumed and has not suspended. -/
def Point.current : Point → Option TaskId
  | .running _ _ current => current
  | _ => none

theorem observed_executing (stop : Bool) {worker : Worker} {task : TaskId}
    (h : (observed stop worker).upstream.executing task) : worker.upstream.executing task := by
  unfold observed at h
  split at h
  · exact h
  · exact h

/-- Only what resumes a coroutine makes one execute. -/
theorem executing_of_driven {env : Server.Environment} {stop : Bool} {worker next : Worker}
    (h : Steady stop worker) {label : Loop.Label} (hdriven : Driven env stop worker label next)
    (hresumed : label ≠ .resumed) (hacted : ∀ action, label ≠ .acted action) {task : TaskId}
    (hexecuting : next.upstream.executing task) : worker.upstream.executing task := by
  cases hdriven with
  | same | refreshed | lost => exact hexecuting
  | observed => exact observed_executing stop hexecuting
  | upstream _ _ hended | hangup _ _ hended =>
    exact (hended.attends task).stays.point.symm.trans hexecuting
  | @spawned spawned datagram next hstep =>
    apply observed_executing stop
    have hok := h.observed.inv.upstream.scheduler
    generalize observed stop worker = before at hstep hok
    cases Worker.step_eq_some.mp hstep with
    | receive =>
      change ((before.upstream.scheduler.spawn spawned).tasks task).point = .executing at hexecuting
      by_cases hself : task = spawned
      · subst hself
        unfold Scheduler.spawn at hexecuting
        split at hexecuting
        · exact hexecuting
        · rw [(Scheduler.schedule_stays _ task task).point] at hexecuting
          simpa [System.executing] using hexecuting
      · rwa [(Scheduler.spawn_same before.upstream.scheduler spawned).2 task hself] at hexecuting
  | resumed => exact absurd rfl hresumed
  | @acted _ _ _ action => exact absurd rfl (hacted action)

namespace Loop

variable {env : Server.Environment} {loop next : Loop} {label : Label}

/-- Only the coroutine that was resumed executes. -/
def Alone (loop : Loop) : Prop :=
  ∀ task, loop.worker.upstream.executing task → loop.point.current = some task

/-- While a coroutine runs, the loop does nothing else. -/
theorem point_of_current (hstepped : Stepped env loop label next) {task : TaskId}
    (hcurrent : loop.point.current = some task) (hacted : ∀ action, label ≠ .acted action) :
    next.point = loop.point := by
  cases hstepped with
  | stopped hpoint =>
    rcases hpoint with hpoint | hpoint
    · rw [hpoint] at hcurrent
      cases hcurrent
    · rw [hpoint] at hcurrent
      cases hcurrent
  | waiting hpoint | timing hpoint | interrupted hpoint | pollFailed hpoint | polled hpoint
  | dispatch hpoint | dispatched hpoint | synchronizing hpoint | upToDate hpoint | stale hpoint
  | refreshed hpoint | receiveEmpty hpoint | receiveFailed hpoint | received hpoint
  | receivedAll hpoint | lost hpoint | spawned hpoint | drainEmpty hpoint | drainFailed hpoint
  | drained hpoint | notRunning hpoint | drainedAll hpoint | noError hpoint | errorCleared hpoint
  | errorFailed _ hpoint | hungUp _ hpoint | expired hpoint | readied hpoint | resumed hpoint
  | ran hpoint | thrown hpoint | broken hpoint | checked hpoint =>
    rw [hpoint] at hcurrent
    cases hcurrent
  | @acted _ _ _ action => exact absurd rfl (hacted action)
  | receiveInterrupted | drainInterrupted | arrives | upstreamArrives | upstreamRaises
  | stopRequested | wakeWritten | refreshRequested => rfl

/-- The front of the ready list executes, and whoever did before. -/
theorem executing_of_resume {worker next : Worker} {front task : TaskId} {rest : List TaskId}
    (hready : worker.upstream.scheduler.ready = front :: rest)
    (hstep : worker.step env (.upstream .resume) = some next)
    (hexecuting : next.upstream.executing task) :
    task = front ∨ worker.upstream.executing task := by
  cases Worker.step_eq_some.mp hstep with
  | upstream _ hsystem =>
    obtain ⟨scheduler, hfront, rfl⟩ := Option.map_eq_some_iff.mp hsystem
    unfold Scheduler.runFront at hfront
    rw [hready] at hfront
    obtain rfl := Option.some.inj hfront
    by_cases hself : task = front
    · exact .inl hself
    · refine .inr ?_
      simpa [System.executing, System.setScheduler, Scheduler.setTask, hself] using hexecuting

theorem alone_step (hsound : loop.Sound) (h : loop.Alone)
    (hstep : loop.step env label = some next) : next.Alone := by
  have hstepped := stepped_of_step hstep
  intro task hexecuting
  by_cases hresumed : label = .resumed
  · subst hresumed
    cases hstepped with
    | resumed hpoint _ hready hresume =>
      rcases executing_of_resume hready hresume hexecuting with rfl | hbefore
      · rfl
      · have hcurrent := h task hbefore
        rw [hpoint] at hcurrent
        cases hcurrent
  by_cases hacted : ∃ action, label = .acted action
  · obtain ⟨action, rfl⟩ := hacted
    cases hstepped with
    | @acted failures resumed actor _ before worker hpoint hbefore hactor hact =>
      by_cases hself : task = actor
      · subst hself
        exact if_pos hexecuting
      · have hrunning : loop.worker.upstream.executing task := by
          rcases hbefore with rfl | rfl
          · have hcontained := Worker.step_contained hsound.steady.inv hact hactor
            exact (hcontained.attends task hself).stays.point.symm.trans hexecuting
          · have hcontained := Worker.step_contained hsound.steady.observed.inv hact hactor
            exact observed_executing loop.stop
              ((hcontained.attends task hself).stays.point.symm.trans hexecuting)
        have hcurrent := h task hrunning
        rw [hpoint] at hcurrent
        exact absurd (Option.some.inj hcurrent).symm hself
  · have hother : ∀ action, label ≠ .acted action := fun action heq => hacted ⟨action, heq⟩
    have hcurrent := h task (executing_of_driven hsound.steady
      (driven_of_stepped hsound.steady.inv hstepped) hresumed hother hexecuting)
    rw [point_of_current hstepped hcurrent hother]
    exact hcurrent

theorem alone_initial (env : Server.Environment) (cache : Cache.CacheShard)
    (snapshot : Option DomainBlocklist) {socketFd : Int} {config : ChannelConfig}
    (hstarted : Started env socketFd config) :
    (initial env cache snapshot socketFd config).Alone := by
  obtain ⟨channel, -, heq⟩ := started_eq hstarted
  have hsystem : (initial env cache snapshot socketFd config).worker.upstream =
      { System.initial with channel := channel } := heq
  intro task hexecuting
  rw [hsystem] at hexecuting
  cases hexecuting

/-- The coroutine awaits the answer to its query, or the timeout. -/
def Awaits (loop : Loop) (frame : Frame) (deadline : TimePoint) : Prop :=
  ∃ request question cacheKey query, frame.stage = .awaiting request question cacheKey query ∧
    (loop.worker.upstream.queries query).state = .pending ∧
    (loop.worker.upstream.timers.registrations (.query query)).owner = true ∧
    (loop.worker.upstream.timers.registrations (.query query)).deadline = deadline

/-- No coroutine is stranded.  In every run of the loop with the network and the other threads,
in every order, whenever the loop is blocked in `epoll_wait`: every coroutine that the scheduler
has taken has returned, or awaits a query that is pending, and then the timer of the query is
armed and not due, and the poll ends less than a millisecond after its deadline.  So where the
poll has no timeout, every coroutine has returned. -/
theorem no_coroutine_stranded {cache : Cache.CacheShard} {snapshot : Option DomainBlocklist}
    {socketFd : Int} {config : ChannelConfig} {labels : List Label}
    (hstarted : Started env socketFd config)
    (hrun : run env cache snapshot socketFd config labels = some loop) {now : TimePoint}
    {timeout : Int} (hblocked : loop.Blocked now timeout) {task : TaskId}
    (hbound : (loop.worker.upstream.scheduler.tasks task).bound = true) :
    ∃ frame, loop.worker.frames task = some frame ∧
      (frame.stage = .returned ∨
        ∃ deadline, loop.Awaits frame deadline ∧ now < deadline ∧ 0 < timeout ∧
          (timeout - 1) * millisecond < deadline - now) := by
  have hsound := sound_run hstarted hrun
  have hstaffed := staffed_run hstarted hrun
  have halone : loop.Alone := run_invariant_sound Alone
    (alone_initial env cache snapshot hstarted)
    (fun _ _ _ hsound h hstep => alone_step hsound h hstep) hstarted hrun
  have halert := alert_run hstarted hrun
  obtain ⟨hlistener, hupstream, hready, hdeadlines⟩ := hblocked.idle hsound halert
  have hinv := hsound.steady.inv.upstream
  obtain ⟨frame, hframe, hattended⟩ := hstaffed.worker task hbound
  refine ⟨frame, hframe, ?_⟩
  cases hattended with
  | returned hstage => exact .inl hstage
  | executing _ hexecuting =>
    have hcurrent := halone task hexecuting
    rw [hblocked.point] at hcurrent
    cases hcurrent
  | ready _ hqueued =>
    rw [hinv.scheduler.queued_iff, hready] at hqueued
    cases hqueued
  | @waiting request question cacheKey query hstage hpending =>
    refine .inr ⟨_, ⟨request, question, cacheKey, query, hstage, hpending, ?_, rfl⟩, ?_⟩
    · exact (hinv.pending query hpending).held.resolve_right (by simp)
    have harmed := (hinv.pending query hpending).held.resolve_right (by simp)
    have hmem : (loop.worker.upstream.timers.registrations (.query query)).deadline ∈
        loop.worker.upstream.timers.deadlines := ⟨_, harmed, rfl⟩
    refine ⟨hdeadlines _ hmem, ?_⟩
    -- the poll waits for the front of the heap, which has the earliest deadline
    obtain ⟨front, hfront⟩ : ∃ front, loop.worker.upstream.timers.heap.nodes.head? = some front :=
      Option.ne_none_iff_exists'.mp (mt List.head?_eq_none_iff.mp
        (List.ne_nil_of_mem ((hinv.timers.owner_iff _).mp harmed)))
    have hleast := hsound.steady.sorted.deadline_least hinv.timers hfront
    have htimeout := halert.timeout now timeout hblocked.point
    rw [hlistener, hupstream, hready] at htimeout
    obtain ⟨hpositive, hbound⟩ := TimerQueue.waitTimeout_bounds hfront (hdeadlines _ hleast.1)
      htimeout
    exact ⟨hpositive, hbound.trans_le (Int.sub_le_sub_right (hleast.2 hmem) now)⟩

/-- A query is forwarded, and the loop goes back to the poll. -/
def sampleForwarded : List Label :=
  [.arrives ⟨Worker.sampleQuery.packet, Worker.sampleQuery.clientAddress⟩, .advance, .timing 20,
    .polled (.events [.listener]), .advance, .advance, .advance, .refreshed none,
    .received (.datagram false), .spawned 0 false, .received .wouldBlock, .socketError 0,
    .expired 20, .advance, .resumed, .acted (.process 0 5 false false (.sent 22)), .advance,
    .advance, .advance, .timing 20]

theorem coroutine_awaits_when_forwarded : ∃ loop frame deadline,
    run Worker.sampleEnvironment { capacity := 8 } none 3 System.sampleConfig sampleForwarded =
        some loop ∧
      loop.Blocked 20 2000 ∧ loop.worker.frames 0 = some frame ∧ loop.Awaits frame deadline ∧
      20 < deadline := by
  rw [run_sample]
  obtain ⟨loop, hrun, hblocked, hbound, datagram, request, question, cacheKey, query, blocked,
    hframe⟩ : ∃ loop,
      Transition.run (step Worker.sampleEnvironment) (sampleLoop none) sampleForwarded = some loop ∧
        loop.Blocked 20 2000 ∧ (loop.worker.upstream.scheduler.tasks 0).bound = true ∧
        ∃ datagram request question cacheKey query blocked, loop.worker.frames 0 =
          some ⟨datagram, .awaiting request question cacheKey query, blocked⟩ :=
    ⟨_, rfl, ⟨rfl, by decide, rfl, rfl, rfl, rfl⟩, rfl, _, _, _, _, _, _, rfl⟩
  obtain ⟨frame, hsame, hreturned | ⟨deadline, hawaits, hlate, -⟩⟩ := no_coroutine_stranded
    sample_started ((run_sample none sampleForwarded).trans hrun) hblocked hbound
  · obtain rfl := Option.some.inj (hframe.symm.trans hsame)
    cases hreturned
  · exact ⟨loop, frame, deadline, hrun, hblocked, hsame, hawaits, hlate⟩

end Loop

end DnsPro.EventLoop
