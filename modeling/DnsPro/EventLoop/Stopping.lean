import DnsPro.EventLoop.Staffed
import DnsPro.EventLoop.Wakeups

/-!
# A loop that is stopped ends

`rank` is the number of steps that a stopped loop has left: what the budgets leave of the pass
that it is in, and three steps of each coroutine that it still resumes.  The loop is never stuck
either: the coroutine that runs has not returned (`Staffed`), and where the loop is in
`epoll_wait` the counter that wakes it was written to, or a thread is about to (`Alert`).  `Goes`
says so with a step in which no call is interrupted or fails.
-/

namespace DnsPro.EventLoop

open DnsPro.Filter DnsPro.Protocol DnsPro.Readiness DnsPro.Runtime DnsPro.Server DnsPro.Upstream

namespace Loop

variable {env : Server.Environment} {loop next : Loop} {label : Label}

/-! ## The steps that are left -/

/-- The pieces that the coroutine that runs has left. -/
def currentRank (frames : TaskId → Option Frame) (current : Option TaskId) : Nat :=
  ((current.bind frames).map fun frame => frame.stage.rank).getD 0

/-- How many steps a stopped loop has left at most. -/
def rank (loop : Loop) : Nat :=
  match loop.point with
  | .exited _ => 0
  | .top => 1
  | .synchronizing => 1
  | .checking _ => 2
  | .running _ resumed current =>
    3 + 4 * (readyBudget - resumed) + currentRank loop.worker.frames current
  | .readying _ => 4 + 4 * readyBudget
  | .expiring => 5 + 4 * readyBudget
  | .failing => 6 + 4 * readyBudget
  | .draining datagrams => 7 + 4 * readyBudget + (upstreamReceiveBudget - datagrams)
  | .receiving _ => 8 + 4 * readyBudget + upstreamReceiveBudget
  | .spawning _ _ => 9 + 4 * readyBudget + upstreamReceiveBudget
  | .refreshing => 10 + 4 * readyBudget + upstreamReceiveBudget
  | .dispatching events => 2 + events.length
  | .polling _ _ => 3 + eventCapacity
  | .timing => 4 + eventCapacity

def stopBound : Nat := 10 + 4 * readyBudget + upstreamReceiveBudget

/-- The loop takes the step, and no call was interrupted. -/
def Label.own : Label → Bool
  | .received .interrupted => false
  | .arrives _ => false
  | .upstreamArrives _ => false
  | .upstreamRaises => false
  | .stopRequested => false
  | .wakeWritten => false
  | .refreshRequested => false
  | _ => true

/-- A coroutine acts, and nothing that it calls fails. -/
def actsRegularly : Worker.Label → Bool
  | .process _ _ writeFails armFails (.sent _) => !writeFails && !armFails
  | .resume _ _ cachingFails emplaceFails => !cachingFails && !emplaceFails
  | .respond _ (.sent _) => true
  | _ => false

/-- The loop takes the step, no call is interrupted or fails, and there is memory. -/
def Label.regular : Label → Bool
  | .advance => true
  | .timing _ => true
  | .polled (.events _) => true
  | .refreshed snapshot => snapshot.isSome
  | .received .wouldBlock => true
  | .received (.datagram allocationFails) => !allocationFails
  | .spawned _ allocationFails => !allocationFails
  | .socketError _ => true
  | .expired _ => true
  | .resumed => true
  | .acted label => actsRegularly label
  | _ => false

/-- The loop can take a regular step of its own; or it is in `epoll_wait` while a thread is
inside `request_stop`, and can when that thread has written to the counter. -/
inductive Goes (env : Server.Environment) (loop : Loop) : Prop where
  | steps {label : Label} {next : Loop} (hown : label.own = true) (hregular : label.regular = true)
      (hstep : loop.step env label = some next)
  | woken {now : TimePoint} {timeout : Int} {written next : Loop}
      (hpoint : loop.point = .polling now timeout)
      (hwritten : loop.step env .wakeWritten = some written)
      (hstep : written.step env (.polled (.events [.wake])) = some next)

theorem currentRank_le (frames : TaskId → Option Frame) (current : Option TaskId) :
    currentRank frames current ≤ 3 := by
  unfold currentRank
  cases current.bind frames with
  | none => simp
  | some frame => simpa using frame.stage.rank_le

theorem rank_toUpstream (loop : Loop) (upstreamPending : Bool) :
    (loop.goto (upstreamPoint upstreamPending)).rank ≤
      7 + 4 * readyBudget + upstreamReceiveBudget := by
  cases upstreamPending
  · show 6 + 4 * readyBudget ≤ _
    omega
  · exact Nat.le_refl _

theorem rank_toListener (loop : Loop) (listenerPending upstreamPending : Bool) :
    (loop.goto (listenerPoint listenerPending upstreamPending)).rank ≤
      8 + 4 * readyBudget + upstreamReceiveBudget := by
  cases listenerPending
  · exact (rank_toUpstream loop upstreamPending).trans (by omega)
  · exact Nat.le_refl _

/-- The coroutine that acted has a piece less, or is done. -/
theorem currentRank_acted {before worker : Worker} (hinv : before.Inv) {task : TaskId}
    {label : Worker.Label} (hactor : label.actor = some task)
    (hstep : before.step env label = some worker) :
    currentRank worker.frames (if worker.upstream.executing task then some task else none) <
      currentRank before.frames (some task) := by
  obtain ⟨frame, hframe, hpositive, after, hafter, hless, -⟩ :=
    Worker.step_advances hinv hstep hactor
  have hbefore : currentRank before.frames (some task) = frame.stage.rank := by
    simp [currentRank, hframe]
  rw [hbefore]
  split
  · simpa [currentRank, hafter] using hless
  · simpa [currentRank] using hpositive

/-- A step of a stopped loop leaves fewer. -/
theorem rank_of_stepped (hsound : loop.Sound) (hstop : loop.stop = true)
    (hstepped : Stepped env loop label next)
    (hown : label.own = true) : next.rank < loop.rank := by
  have hrank : ∀ {point : Point}, loop.point = point → loop.rank = (loop.goto point).rank := by
    rintro point rfl
    rfl
  cases hstepped with
  | stopped hpoint =>
    rcases hpoint with hpoint | hpoint
    · rw [hrank hpoint]
      exact Nat.zero_lt_one
    · rw [hrank hpoint]
      exact Nat.zero_lt_one
  | waiting _ hgoes | synchronizing _ hgoes | receiveInterrupted _ hgoes | receiveEmpty _ hgoes
  | receiveFailed _ hgoes | received _ hgoes =>
    rw [hstop] at hgoes
    cases hgoes
  | timing hpoint =>
    rw [hrank hpoint]
    show 3 + eventCapacity < 4 + eventCapacity
    omega
  | interrupted hpoint =>
    rw [hrank hpoint]
    show 1 < 3 + eventCapacity
    omega
  | pollFailed hpoint =>
    rw [hrank hpoint]
    show 0 < 3 + eventCapacity
    omega
  | polled hpoint _ hcapacity =>
    rw [hrank hpoint]
    show 2 + List.length _ < 3 + eventCapacity
    omega
  | @dispatch event events hpoint =>
    rw [hrank hpoint]
    show 2 + events.length < 2 + (events.length + 1)
    omega
  | dispatched hpoint =>
    rw [hrank hpoint]
    show 1 < 2 + 0
    omega
  | stale hpoint =>
    rw [hrank hpoint]
    show 0 < 10 + 4 * readyBudget + upstreamReceiveBudget
    omega
  | upToDate hpoint | refreshed hpoint =>
    rw [hrank hpoint]
    exact lt_of_le_of_lt (rank_toListener _ _ _)
      (show _ < 10 + 4 * readyBudget + upstreamReceiveBudget by omega)
  | receivedAll hpoint =>
    rw [hrank hpoint]
    exact lt_of_le_of_lt (rank_toUpstream _ _)
      (show _ < 8 + 4 * readyBudget + upstreamReceiveBudget by omega)
  | lost hpoint | spawned hpoint =>
    rw [hrank hpoint]
    show 8 + 4 * readyBudget + upstreamReceiveBudget < 9 + 4 * readyBudget + upstreamReceiveBudget
    omega
  | drainInterrupted => cases hown
  | drainEmpty hpoint | drainFailed hpoint | notRunning hpoint | drainedAll hpoint =>
    rw [hrank hpoint]
    show 6 + 4 * readyBudget < 7 + 4 * readyBudget + _
    omega
  | @drained datagrams _ _ _ _ hpoint hbudget =>
    rw [hrank hpoint]
    show 7 + 4 * readyBudget + (upstreamReceiveBudget - (datagrams + 1)) <
      7 + 4 * readyBudget + (upstreamReceiveBudget - datagrams)
    omega
  | noError hpoint | errorCleared hpoint | errorFailed _ hpoint | hungUp _ hpoint =>
    rw [hrank hpoint]
    show 5 + 4 * readyBudget < 6 + 4 * readyBudget
    omega
  | expired hpoint =>
    rw [hrank hpoint]
    show 4 + 4 * readyBudget < 5 + 4 * readyBudget
    omega
  | readied hpoint =>
    rw [hrank hpoint]
    show 3 + 4 * (readyBudget - 0) + 0 < 4 + 4 * readyBudget
    omega
  | @resumed failures resumed task rest worker hpoint hbudget =>
    -- four for the coroutine, of which it has at most three left
    rw [hrank hpoint]
    have hcurrent := currentRank_le worker.frames (some task)
    show 3 + 4 * (readyBudget - (resumed + 1)) + currentRank worker.frames (some task) <
      3 + 4 * (readyBudget - resumed) + 0
    omega
  | @acted failures resumed task label before worker hpoint hbefore hactor hstep =>
    rw [hrank hpoint]
    refine Nat.add_lt_add_left ?_ _
    dsimp only [goto]
    rcases hbefore with rfl | rfl
    · exact currentRank_acted hsound.steady.inv hactor hstep
    · rw [← observed_frames loop.stop loop.worker]
      exact currentRank_acted hsound.steady.observed.inv hactor hstep
  | ran hpoint =>
    rw [hrank hpoint]
    show 2 < 3 + _ + _
    omega
  | thrown hpoint | broken hpoint =>
    rw [hrank hpoint]
    exact Nat.zero_lt_two
  | checked hpoint =>
    rw [hrank hpoint]
    exact Nat.one_lt_two
  | arrives | upstreamArrives | upstreamRaises | stopRequested | wakeWritten | refreshRequested =>
    cases hown

/-- A step of another party, or a call that was interrupted, changes no rank. -/
theorem rank_of_other (hstepped : Stepped env loop label next) (hown : label.own = false) :
    next.rank = loop.rank := by
  cases hstepped with
  | receiveInterrupted | drainInterrupted | arrives | upstreamArrives | upstreamRaises
  | stopRequested | wakeWritten | refreshRequested => rfl
  | _ => cases hown

/-- In a poll there is a time for which the timeout can be computed. -/
theorem exists_pollTimeout {ν : Type} (timers : TimerQueue ν)
    (listenerPending upstreamPending hasReady : Bool) :
    ∃ now timeout,
      timers.pollTimeout listenerPending upstreamPending hasReady now = some timeout := by
  cases hfront : timers.heap.nodes.head? with
  | none =>
    refine ⟨0, if listenerPending || upstreamPending || hasReady then 0 else -1, ?_⟩
    unfold TimerQueue.pollTimeout TimerQueue.waitTimeout
    rw [hfront]
    split
    · rfl
    · rfl
  | some front =>
    refine ⟨(timers.registrations front).deadline, 0, ?_⟩
    unfold TimerQueue.pollTimeout TimerQueue.waitTimeout
    rw [hfront]
    dsimp only
    rw [if_pos (le_refl _)]
    split
    · rfl
    · rfl

theorem step_of_own (env : Server.Environment) (loop : Loop) (hown : label.own = true) :
    loop.step env label = loop.stepLoop env label := by
  unfold step
  cases label with
  | arrives | upstreamArrives | upstreamRaises | stopRequested | wakeWritten | refreshRequested =>
    cases hown
  | _ => rfl

/-- The coroutine that runs can go on from where it is. -/
theorem exists_act (env : Server.Environment) (hsound : loop.Sound) (hstaffed : loop.Staffed)
    {failures resumed : Nat} {task : TaskId}
    (hpoint : loop.point = .running failures resumed (some task)) :
    ∃ label next, actsRegularly label = true ∧
      loop.stepAct env failures resumed task label = some next := by
  have hexecuting := hstaffed.current failures resumed task hpoint
  have hbound := (hsound.steady.inv.upstream.scheduler.executing task hexecuting).1
  obtain ⟨⟨datagram, stage, blocked⟩, hframe, hattended⟩ := hstaffed.worker task hbound
  have hopen : stage ≠ .returned := hattended.open_of_executing hexecuting
  have hrunning : loop.worker.running task = some ⟨datagram, stage, blocked⟩ := by
    unfold Worker.running
    rw [if_pos hexecuting, hframe]
  have hacts : ∀ (label : Worker.Label) {worker : Worker}, label.actor = some task →
      (loop.observeAtStart label).worker.step env label = some worker →
        ∃ next, loop.stepAct env failures resumed task label = some next := by
    intro label worker hactor hstep
    unfold stepAct
    rw [if_pos hactor]
    exact ⟨_, congrArg (Option.map _) hstep⟩
  cases stage with
  | created =>
    have hobserved : (observed loop.stop loop.worker).running task =
        some ⟨datagram, .created, blocked⟩ := by
      unfold observed
      split
      · exact hrunning
      · exact hrunning
    obtain ⟨next, hnext⟩ := hacts (.process task 0 false false (.sent 0)) rfl (by
      show loop.observe.worker.step env _ = _
      rw [observe_worker]
      exact Worker.step_eq_some.mpr (.process 0 false false (.sent 0) hobserved))
    exact ⟨_, next, rfl, hnext⟩
  | awaiting request question cacheKey query =>
    obtain ⟨next, hnext⟩ := hacts (.resume task 0 false false) rfl
      (Worker.step_eq_some.mpr (.resume 0 false false hrunning))
    exact ⟨_, next, rfl, hnext⟩
  | responding response =>
    obtain ⟨next, hnext⟩ := hacts (.respond task (.sent 0)) rfl
      (Worker.step_eq_some.mpr (.respond (.sent 0) hrunning))
    exact ⟨_, next, rfl, hnext⟩
  | returned => exact absurd rfl hopen

/-- There is a task for the datagram that was read. -/
theorem exists_spawn (env : Server.Environment) (hstaffed : loop.Staffed) (datagrams : Nat)
    (packet : Packet) :
    ∃ task next, loop.stepSpawning env datagrams packet task false = some next := by
  obtain ⟨task, hnone⟩ := hstaffed.unmade
  have hframe : (observed loop.stop loop.worker).frames task = none := by
    rw [observed_frames]
    exact hnone task (Nat.le_refl task)
  have hfresh : (observed loop.stop loop.worker).upstream.fresh task := by
    by_contra hnot
    have hbound := (Bool.not_eq_false _).mp hnot
    obtain ⟨frame, hmade, -⟩ := hstaffed.worker.observed loop.stop task hbound
    rw [hframe] at hmade
    cases hmade
  refine ⟨task, ?_⟩
  unfold stepSpawning
  rw [if_neg Bool.false_ne_true, observe_worker]
  have hstep := Worker.step_eq_some.mpr
    (@Worker.Stepped.receive env _ task packet.datagram hfresh hframe)
  exact ⟨_, congrArg (Option.map _) hstep⟩

/-- `run_ready` resumes a coroutine or returns. -/
theorem exists_run (env : Server.Environment) (loop : Loop) (failures resumed : Nat) :
    (∃ next, loop.stepResume env failures resumed = some next) ∨
      ∃ next, loop.stepRan failures resumed = some next := by
  by_cases hruns : resumed < readyBudget ∧ loop.worker.upstream.scheduler.ready ≠ []
  · refine .inl ?_
    obtain ⟨task, rest, hready⟩ := List.exists_cons_of_ne_nil hruns.2
    unfold stepResume
    rw [if_pos hruns.1, hready]
    simp only [Worker.step, Worker.external, if_true, System.step, Scheduler.runFront, hready,
      Option.map_some, Option.some.injEq, exists_eq']
  · refine .inr ?_
    unfold stepRan
    rw [if_neg hruns]
    exact ⟨_, rfl⟩

/-- The socket has a datagram, or is empty. -/
theorem exists_drain (env : Server.Environment) (loop : Loop) (datagrams : Nat) :
    ∃ outcome next, ((Label.received outcome).own = true ∧
        (Label.received outcome).regular = true) ∧
      loop.stepDraining env datagrams outcome = some next := by
  cases hqueue : loop.upstreamSocket.queue with
  | nil => exact ⟨.wouldBlock, _, ⟨rfl, rfl⟩, if_pos hqueue⟩
  | cons payload rest =>
    refine ⟨.datagram false, ?_⟩
    unfold stepDraining Source.take
    rw [hqueue]
    exact ⟨_, ⟨rfl, rfl⟩, rfl⟩

/-- A loop in `epoll_wait` is woken after a stop. -/
theorem goes_polling (env : Server.Environment) (halert : loop.Alert) (hstop : loop.stop = true)
    {now : TimePoint} {timeout : Int} (hpoint : loop.point = .polling now timeout) :
    Goes env loop := by
  have hpolls : ∀ woken : Loop, woken.point = .polling now timeout → 0 < woken.wake →
      ∃ next, woken.step env (.polled (.events [.wake])) = some next := by
    intro woken hwoken hwake
    rw [step_of_own env woken rfl]
    unfold stepLoop
    rw [hwoken]
    exact ⟨_, if_pos ⟨by simpa [ready] using hwake, by decide, fun hnil => by cases hnil⟩⟩
  rcases halert.stop (by rw [hpoint]; rfl) hstop with hwake | hstoppers
  · obtain ⟨next, hnext⟩ := hpolls loop hpoint hwake
    exact @Goes.steps env loop (.polled (.events [.wake])) next rfl rfl hnext
  · have hwritten : loop.step env .wakeWritten = some { loop with
        stoppers := loop.stoppers - 1, wake := ring counterLimit loop.wake } := by
      unfold step stepOthers
      rw [if_pos hstoppers]
      rfl
    generalize hwoken : { loop with
        stoppers := loop.stoppers - 1, wake := ring counterLimit loop.wake } = woken at hwritten
    have hsame : woken.point = .polling now timeout := by
      rw [← hwoken]
      exact hpoint
    have hwake : 0 < woken.wake := by
      rw [← hwoken]
      exact ring_pos counterLimit_pos loop.wake
    obtain ⟨next, hnext⟩ := hpolls woken hsame hwake
    exact .woken hpoint hwritten hnext

/-- A stopped loop goes on until it has ended. -/
theorem goes_of_stopped (env : Server.Environment) (hsound : loop.Sound) (hstaffed : loop.Staffed)
    (halert : loop.Alert) (hstop : loop.stop = true) (hended : loop.point.ended = false) :
    Goes env loop := by
  suffices hloop : (∃ now timeout, loop.point = .polling now timeout) ∨ ∃ label next,
      label.own = true ∧ label.regular = true ∧ loop.stepLoop env label = some next by
    rcases hloop with ⟨now, timeout, hpoint⟩ | ⟨label, next, hown, hregular, hstep⟩
    · exact goes_polling env halert hstop hpoint
    · exact .steps hown hregular ((step_of_own env loop hown).trans hstep)
  unfold stepLoop
  cases hpoint : loop.point with
  | polling now timeout => exact .inl ⟨now, timeout, rfl⟩
  | timing =>
    obtain ⟨now, timeout, htimeout⟩ := exists_pollTimeout loop.worker.upstream.timers
      loop.listenerPending loop.upstreamPending
      (decide (loop.worker.upstream.scheduler.ready ≠ []))
    exact .inr ⟨.timing now, _, rfl, rfl, congrArg (Option.map _) htimeout⟩
  | dispatching events =>
    cases events with
    | nil => exact .inr ⟨.advance, _, rfl, rfl, rfl⟩
    | cons event events => exact .inr ⟨.advance, _, rfl, rfl, rfl⟩
  | refreshing => exact .inr ⟨.refreshed (some loop.worker.snapshot), _, rfl, rfl, rfl⟩
  | receiving datagrams => exact .inr ⟨.advance, _, rfl, rfl, if_pos (.inl hstop)⟩
  | spawning datagrams packet =>
    obtain ⟨task, next, hnext⟩ := exists_spawn env hstaffed datagrams packet
    exact .inr ⟨.spawned task false, next, rfl, rfl, hnext⟩
  | draining datagrams =>
    have hrunning := hsound.steady.running
    by_cases hdone : upstreamReceiveBudget ≤ datagrams
    · refine .inr ⟨.advance, ?_⟩
      dsimp only
      rw [if_neg (by simp [hrunning]), if_pos hdone]
      exact ⟨_, rfl, rfl, rfl⟩
    · have hopen : ¬ (loop.worker.upstream.channel.running = false ∨
          upstreamReceiveBudget ≤ datagrams) := by simp [hrunning, hdone]
      obtain ⟨outcome, next, hregular, hnext⟩ := exists_drain env loop datagrams
      exact .inr ⟨.received outcome, next, hregular.1, hregular.2, (if_neg hopen).trans hnext⟩
  | failing => exact .inr ⟨.socketError 0, _, rfl, rfl, rfl⟩
  | expiring => exact .inr ⟨.expired 0, _, rfl, rfl, rfl⟩
  | running failures resumed current =>
    cases current with
    | none =>
      rcases exists_run env loop failures resumed with ⟨next, hnext⟩ | ⟨next, hnext⟩
      · exact .inr ⟨.resumed, next, rfl, rfl, hnext⟩
      · exact .inr ⟨.advance, next, rfl, rfl, hnext⟩
    | some task =>
      obtain ⟨label, next, hregular, hnext⟩ := exists_act env hsound hstaffed hpoint
      exact .inr ⟨.acted label, next, rfl, hregular, hnext⟩
  | top | synchronizing | readying failures | checking failures =>
    exact .inr ⟨.advance, _, rfl, rfl, rfl⟩
  | exited result =>
    rw [hpoint] at hended
    cases hended

/-- What is left of a stopped loop after some steps of a run. -/
structure Stopping (bound : Nat) (past : List Label) (loop : Loop) : Prop where
  sound : loop.Sound
  staffed : loop.Staffed
  alert : loop.Alert
  stop : loop.stop = true
  steps : (past.filter Label.own).length + loop.rank ≤ bound

theorem stopping_step {bound : Nat} {past : List Label} (h : Stopping bound past loop)
    (hstep : loop.step env label = some next) : Stopping bound (past ++ [label]) next := by
  have hstepped := stepped_of_step hstep
  refine ⟨sound_step h.sound hstep, staffed_step h.sound h.staffed hstep,
    alert_step h.alert h.sound.steady.running hstep, ?_, ?_⟩
  · rcases stop_of_stepped hstepped with hsame | htrue
    · exact hsame.trans h.stop
    · exact htrue
  have hsteps := h.steps
  rw [List.filter_append, List.length_append]
  cases hown : label.own with
  | true =>
    have hless := rank_of_stepped h.sound h.stop hstepped hown
    simp only [List.filter_cons, hown, if_true, List.filter_nil, List.length_singleton]
    omega
  | false =>
    have hsame := rank_of_other hstepped hown
    simp only [List.filter_cons, hown, Bool.false_eq_true, if_false, List.filter_nil,
      List.length_nil]
    omega

theorem rank_le (hevents : ∀ events, loop.point = .dispatching events →
    events.length ≤ eventCapacity) : loop.rank ≤ stopBound := by
  have hcapacity : eventCapacity = 64 := rfl
  have hready : readyBudget = 64 := rfl
  unfold rank stopBound
  cases hpoint : loop.point with
  | running failures resumed current =>
    have hcurrent := currentRank_le loop.worker.frames current
    dsimp only
    omega
  | dispatching events =>
    have hlength := hevents events hpoint
    dsimp only
    omega
  | _ =>
    dsimp only
    omega

/-- The array of events is not exceeded. -/
theorem events_step (h : ∀ events, loop.point = .dispatching events → events.length ≤ eventCapacity)
    (hstepped : Stepped env loop label next) :
    ∀ events, next.point = .dispatching events → events.length ≤ eventCapacity := by
  intro events hnext
  cases hstepped with
  | polled _ _ hcapacity =>
    obtain rfl := Point.dispatching.inj hnext
    exact hcapacity
  | dispatch hpoint =>
    obtain rfl := Point.dispatching.inj hnext
    exact (Nat.le_succ _).trans (h _ hpoint)
  | upToDate | refreshed => exact absurd hnext (listenerPoint_ne rfl _ _)
  | receiveEmpty | receiveFailed | receivedAll => exact absurd hnext (upstreamPoint_ne rfl _)
  | receiveInterrupted | drainInterrupted | arrives | upstreamArrives | upstreamRaises
  | stopRequested | wakeWritten | refreshRequested => exact h events hnext
  | _ => cases hnext

/-- A stop ends the loop.  In every run of the loop with the network and the other threads, in
every order: from a state on in which a stop was requested, the loop takes at most `stopBound`
steps of its own, interrupted calls of `recvmsg` aside, whatever the other parties do in
between; and until it has ended it can always take one without any call that is interrupted or
fails, where it is in `epoll_wait` once the thread that stops it has written to its counter. -/
theorem stop_ends_loop {cache : Cache.CacheShard} {snapshot : Option DomainBlocklist}
    {socketFd : Int} {config : ChannelConfig} {labels : List Label}
    (hstarted : Started env socketFd config)
    (hrun : run env cache snapshot socketFd config labels = some loop) (hstop : loop.stop = true)
    {later : List Label} {final : Loop}
    (hlater : Transition.run (step env) loop later = some final) :
    (later.filter Label.own).length ≤ stopBound ∧
      (final.point.ended = false → Goes env final) := by
  have hstaffed := staffed_run hstarted hrun
  have hevents : ∀ events, loop.point = .dispatching events → events.length ≤ eventCapacity :=
    run_invariant_sound (fun loop => ∀ events, loop.point = .dispatching events →
        events.length ≤ eventCapacity) (fun events hpoint => (by cases hpoint))
      (fun _ _ _ _ h hstep => events_step h (stepped_of_step hstep)) hstarted hrun
  have hstopping : Stopping stopBound later final :=
    Transition.run_trace_invariant (Stopping stopBound)
      (fun _ _ _ _ h hstep => stopping_step h hstep) []
      ⟨sound_run hstarted hrun, hstaffed, alert_run hstarted hrun, hstop,
        by simpa using rank_le hevents⟩ hlater
  exact ⟨(Nat.le_add_right _ _).trans hstopping.steps,
    goes_of_stopped env hstopping.sound hstopping.staffed hstopping.alert hstopping.stop⟩

/-- A packet is read when the stop is requested. -/
def sampleStopped : List Label :=
  [.arrives ⟨Worker.sampleQuery.packet, Worker.sampleQuery.clientAddress⟩, .advance, .timing 20,
    .polled (.events [.listener]), .advance, .advance, .advance, .refreshed none,
    .received (.datagram false), .stopRequested]

/-- Its coroutine is made, but the scheduler does not accept it. -/
def sampleEnding : List Label :=
  [.spawned 0 false, .wakeWritten, .advance, .socketError 0, .expired 20, .advance, .advance,
    .advance, .advance]

theorem loop_ends_when_stopped : ∃ loop final,
    run Worker.sampleEnvironment { capacity := 8 } none 3 System.sampleConfig sampleStopped =
        some loop ∧
      Goes Worker.sampleEnvironment loop ∧
      Transition.run (step Worker.sampleEnvironment) loop sampleEnding = some final ∧
      final.point = .exited requestedStop ∧ (sampleEnding.filter Label.own).length ≤ stopBound := by
  rw [run_sample]
  obtain ⟨loop, hrun, hstop, hopen, final, hending, hexited⟩ : ∃ loop,
      Transition.run (step Worker.sampleEnvironment) (sampleLoop none) sampleStopped = some loop ∧
        loop.stop = true ∧ loop.point.ended = false ∧ ∃ final,
          Transition.run (step Worker.sampleEnvironment) loop sampleEnding = some final ∧
            final.point = .exited requestedStop :=
    ⟨_, rfl, rfl, rfl, _, rfl, rfl⟩
  have hrun' := (run_sample none sampleStopped).trans hrun
  exact ⟨loop, final, hrun, (stop_ends_loop sample_started hrun' hstop (Transition.run_nil loop)).2
    hopen, hending, hexited, (stop_ends_loop sample_started hrun' hstop hending).1⟩

end Loop

end DnsPro.EventLoop
