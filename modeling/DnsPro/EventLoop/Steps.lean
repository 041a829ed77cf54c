import DnsPro.EventLoop.State

/-!
# What a step of the event loop does

`Stepped` has one constructor for each thing that can happen, with the point it happens at
and the state it leads to.  `stepped_of_step` is the one place where `step` is unfolded.
-/

namespace DnsPro.EventLoop

open DnsPro.Filter DnsPro.Protocol DnsPro.Readiness DnsPro.Runtime DnsPro.Server DnsPro.Upstream

/-- The loop reads from a socket, or looks at its errors. -/
def Point.atSocket : Point → Bool
  | .receiving _ => true
  | .draining _ => true
  | .failing => true
  | _ => false

/-- The worker when its scheduler has looked at the token. -/
def observed (stop : Bool) (worker : Worker) : Worker :=
  if stop then
    { worker with upstream := worker.upstream.setScheduler (
      { worker.upstream.scheduler with stopRequested := true, accepting := false }) }
  else worker

namespace Loop

inductive Stepped (env : Server.Environment) (loop : Loop) : Label → Loop → Prop where
  -- the top of the loop, and the events
  | stopped (hpoint : loop.point = .top ∨ loop.point = .synchronizing) (hstop : loop.stop = true) :
      Stepped env loop .advance (loop.goto (.exited requestedStop))
  | waiting (hpoint : loop.point = .top) (hstop : loop.stop = false) :
      Stepped env loop .advance (loop.goto .timing)
  | timing {now : TimePoint} {timeout : Int} (hpoint : loop.point = .timing)
      (htimeout : loop.worker.upstream.timers.pollTimeout loop.listenerPending loop.upstreamPending
        (decide (loop.worker.upstream.scheduler.ready ≠ [])) now = some timeout) :
      Stepped env loop (.timing now) (loop.goto (.polling now timeout))
  | interrupted {now : TimePoint} {timeout : Int} (hpoint : loop.point = .polling now timeout) :
      Stepped env loop (.polled .interrupted) (loop.goto .top)
  | pollFailed {now : TimePoint} {timeout errorNumber : Int}
      (hpoint : loop.point = .polling now timeout) :
      Stepped env loop (.polled (.failed errorNumber))
        (loop.goto (.exited (fatalExit .waitForEvents errorNumber)))
  | polled {now : TimePoint} {timeout : Int} {events : List Event}
      (hpoint : loop.point = .polling now timeout) (hready : events.all loop.ready)
      (hcapacity : events.length ≤ eventCapacity) (hempty : events = [] → 0 ≤ timeout) :
      Stepped env loop (.polled (.events events))
        ((events.foldl report loop).goto (.dispatching events))
  | dispatch {event : Event} {events : List Event}
      (hpoint : loop.point = .dispatching (event :: events)) :
      Stepped env loop .advance ((loop.dispatch event).goto (.dispatching events))
  | dispatched (hpoint : loop.point = .dispatching []) :
      Stepped env loop .advance (loop.goto .synchronizing)
  | synchronizing (hpoint : loop.point = .synchronizing) (hstop : loop.stop = false) :
      Stepped env loop .advance (loop.goto .refreshing)
  -- the filter
  | upToDate {snapshot : Option (Option DomainBlocklist)} (hpoint : loop.point = .refreshing)
      (hsettled : loop.generationPending = false) :
      Stepped env loop (.refreshed snapshot)
        (loop.goto (listenerPoint loop.listenerPending loop.upstreamPending))
  | stale (hpoint : loop.point = .refreshing) (hpending : loop.generationPending = true) :
      Stepped env loop (.refreshed none)
        ({ loop with generationPending := false }.goto (.exited (fatalExit .synchronizeFilter)))
  | refreshed {snapshot : Option DomainBlocklist} (hpoint : loop.point = .refreshing)
      (hpending : loop.generationPending = true) :
      Stepped env loop (.refreshed (some snapshot))
        ({ loop with
          generationPending := false
          worker := { loop.worker with snapshot := snapshot }
          generation := loop.generation.answer }.goto
            (listenerPoint loop.listenerPending loop.upstreamPending))
  -- the listener
  | receiveInterrupted {datagrams : Nat} (hpoint : loop.point = .receiving datagrams)
      (hstop : loop.stop = false) : Stepped env loop (.received .interrupted) loop
  | receiveEmpty {datagrams : Nat} (hpoint : loop.point = .receiving datagrams)
      (hstop : loop.stop = false) (hempty : loop.listener.queue = []) :
      Stepped env loop (.received .wouldBlock)
        ({ loop with listenerPending := false, listenerFaulted := false }.goto
          (upstreamPoint loop.upstreamPending))
  | receiveFailed {datagrams : Nat} {errorNumber : Int} (hpoint : loop.point = .receiving datagrams)
      (hstop : loop.stop = false) :
      Stepped env loop (.received (.failed errorNumber))
        ({ loop with listenerPending := false, listenerFaulted := true }.goto
          (upstreamPoint loop.upstreamPending))
  | received {datagrams : Nat} {packet : Packet} {rest : Source Packet} {allocationFails : Bool}
      (hpoint : loop.point = .receiving datagrams) (hstop : loop.stop = false)
      (htaken : loop.listener.take = some (packet, rest)) :
      Stepped env loop (.received (.datagram allocationFails))
        ({ loop with listener := rest, listenerFaulted := false }.goto (.spawning datagrams packet))
  | receivedAll {datagrams : Nat} (hpoint : loop.point = .receiving datagrams) :
      Stepped env loop .advance
        ({ loop with listenerPending := !loop.stop }.goto (upstreamPoint loop.upstreamPending))
  | lost {datagrams : Nat} {packet : Packet} {task : TaskId} {stats : WorkerStats}
      (hpoint : loop.point = .spawning datagrams packet)
      (hstats : stats.receivedDatagrams = loop.worker.stats.receivedDatagrams + 1) :
      Stepped env loop (.spawned task true)
        ({ loop with
          worker := { loop.worker with stats := stats }
          owned := loop.owned ++ [(packet, none)] }.goto (.receiving (datagrams + 1)))
  | spawned {datagrams : Nat} {packet : Packet} {task : TaskId} {worker : Worker}
      (hpoint : loop.point = .spawning datagrams packet)
      (hstep : (observed loop.stop loop.worker).step env (.receive task packet.datagram) =
        some worker) :
      Stepped env loop (.spawned task false)
        ({ loop with worker := worker, owned := loop.owned ++ [(packet, some task)] }.goto
          (.receiving (datagrams + 1)))
  -- the upstream socket
  | drainInterrupted {datagrams : Nat} (hpoint : loop.point = .draining datagrams) :
      Stepped env loop (.received .interrupted) loop
  | drainEmpty {datagrams : Nat} (hpoint : loop.point = .draining datagrams)
      (hempty : loop.upstreamSocket.queue = []) :
      Stepped env loop (.received .wouldBlock)
        ({ loop with upstreamPending := false, upstreamFaulted := false }.goto .failing)
  | drainFailed {datagrams : Nat} {errorNumber : Int} (hpoint : loop.point = .draining datagrams) :
      Stepped env loop (.received (.failed errorNumber))
        (({ loop with upstreamPending := false, upstreamFaulted := true }.setUpstream
          (loop.worker.upstream.failAll env.upstream .socketError errorNumber).2).goto .failing)
  | drained {datagrams : Nat} {payload : Bytes} {rest : Source Bytes} {truncated : Bool}
      {allocationFails : Bool} (hpoint : loop.point = .draining datagrams)
      (hbudget : datagrams < upstreamReceiveBudget)
      (htaken : loop.upstreamSocket.take = some (payload, rest)) :
      Stepped env loop (.received (.datagram allocationFails))
        (({ loop with upstreamSocket := rest, upstreamFaulted := false }.setUpstream
          (loop.worker.upstream.handleDatagram env.upstream (payload.take upstreamReceiveBufferSize)
            truncated allocationFails).2).goto (.draining (datagrams + 1)))
  | notRunning {datagrams : Nat} (hpoint : loop.point = .draining datagrams)
      (hrunning : loop.worker.upstream.channel.running = false) :
      Stepped env loop .advance ({ loop with upstreamPending := false }.goto .failing)
  | drainedAll {datagrams : Nat} (hpoint : loop.point = .draining datagrams) :
      Stepped env loop .advance ({ loop with upstreamPending := true }.goto .failing)
  | noError {errorNumber : Int} (hpoint : loop.point = .failing) :
      Stepped env loop (.socketError errorNumber) (loop.goto .expiring)
  | errorCleared {errorNumber : Int} (hpoint : loop.point = .failing) :
      Stepped env loop (.socketError errorNumber)
        ({ loop with upstreamErrorPending := false, upstreamHangupPending := false }.goto .expiring)
  | errorFailed {errorNumber : Int} (socketError : Int) (hpoint : loop.point = .failing) :
      Stepped env loop (.socketError errorNumber)
        (({ loop with upstreamErrorPending := false, upstreamHangupPending := false }.setUpstream
          (loop.worker.upstream.failAll env.upstream .socketError socketError).2).goto .expiring)
  | hungUp {errorNumber : Int} (socketError : Int) (hpoint : loop.point = .failing) :
      Stepped env loop (.socketError errorNumber)
        ({ loop with
          upstreamErrorPending := false
          upstreamHangupPending := false
          worker := { loop.worker with
            upstream := (loop.worker.upstream.failAll env.upstream .socketError socketError).2
            upstreamUsable := false }
          upstreamPending := false
          upstreamSocket := loop.upstreamSocket.close }.goto .expiring)
  -- timers and coroutines
  | expired {now : TimePoint} (hpoint : loop.point = .expiring) :
      Stepped env loop (.expired now)
        ((loop.setUpstream
            ((System.host env.upstream).expire now timerBudget loop.worker.upstream).1).goto
          (.readying
            ((System.host env.upstream).expire now timerBudget
              loop.worker.upstream).2.scheduleFailures))
  | readied {failures : Nat} (hpoint : loop.point = .readying failures) :
      Stepped env loop .advance
        ({ loop with worker := observed loop.stop loop.worker }.goto (.running failures 0 none))
  | resumed {failures resumed : Nat} {task : TaskId} {rest : List TaskId} {worker : Worker}
      (hpoint : loop.point = .running failures resumed none) (hbudget : resumed < readyBudget)
      (hready : loop.worker.upstream.scheduler.ready = task :: rest)
      (hstep : loop.worker.step env (.upstream .resume) = some worker) :
      Stepped env loop .resumed
        ({ loop with worker := worker }.goto (.running failures (resumed + 1) (some task)))
  | acted {failures resumed : Nat} {task : TaskId} {label : Worker.Label} {before worker : Worker}
      (hpoint : loop.point = .running failures resumed (some task))
      (hbefore : before = loop.worker ∨ before = observed loop.stop loop.worker)
      (hactor : label.actor = some task) (hstep : before.step env label = some worker) :
      Stepped env loop (.acted label)
        ({ loop with
          worker := worker
          unhandledRootExceptions := loop.exceptionsAfter worker task }.goto
            (.running failures resumed
              (if worker.upstream.executing task then some task else none)))
  | ran {failures resumed : Nat} (hpoint : loop.point = .running failures resumed none) :
      Stepped env loop .advance (loop.goto (.checking failures))
  | thrown {failures : Nat} (hpoint : loop.point = .checking failures)
      (hthrown : loop.unhandledRootExceptions ≠ 0) :
      Stepped env loop .advance (loop.goto (.exited (fatalExit .unhandledException)))
  | broken {failures : Nat} (hpoint : loop.point = .checking failures)
      (hbroken : failures ≠ 0 ∨ loop.runtimeInvariantsHold = false) :
      Stepped env loop .advance (loop.goto (.exited (fatalExit .runtimeInvariant)))
  | checked {failures : Nat} (hpoint : loop.point = .checking failures) :
      Stepped env loop .advance (loop.goto .top)
  -- the other parties
  | arrives (packet : Packet) :
      Stepped env loop (.arrives packet) { loop with listener := loop.listener.arrive packet }
  | upstreamArrives (payload : Bytes) (husable : loop.worker.upstreamUsable = true) :
      Stepped env loop (.upstreamArrives payload)
        { loop with upstreamSocket := loop.upstreamSocket.arrive payload }
  | upstreamRaises (husable : loop.worker.upstreamUsable = true) :
      Stepped env loop .upstreamRaises { loop with upstreamSocket := loop.upstreamSocket.raise }
  | stopRequested :
      Stepped env loop .stopRequested { loop with stop := true, stoppers := loop.stoppers + 1 }
  | wakeWritten (hstoppers : 0 < loop.stoppers) :
      Stepped env loop .wakeWritten
        { loop with stoppers := loop.stoppers - 1, wake := ring counterLimit loop.wake }
  | refreshRequested :
      Stepped env loop .refreshRequested
        { loop with generation := loop.generation.request counterLimit }

variable {env : Server.Environment} {loop next : Loop} {label : Label}

theorem observe_worker (loop : Loop) :
    loop.observe = { loop with worker := observed loop.stop loop.worker } := by
  unfold observe observed
  split
  · rfl
  · rfl

/-- Behind the filter a pass goes on at a socket. -/
theorem upstreamPoint_ne {point : Point} (h : point.atSocket = false) (upstreamPending : Bool) :
    upstreamPoint upstreamPending ≠ point := by
  rintro rfl
  cases upstreamPending <;> cases h

theorem listenerPoint_ne {point : Point} (h : point.atSocket = false)
    (listenerPending upstreamPending : Bool) :
    listenerPoint listenerPending upstreamPending ≠ point := by
  cases listenerPending
  · exact upstreamPoint_ne h upstreamPending
  · rintro rfl
    cases h

/-! ## The parts of a pass -/

theorem stepped_of_stepOthers (h : loop.stepOthers label = some next) :
    Stepped env loop label next := by
  cases label with
  | arrives packet =>
    obtain rfl := Option.some.inj h
    exact .arrives packet
  | upstreamArrives payload =>
    obtain ⟨husable, rfl⟩ := Transition.enabled h
    exact .upstreamArrives payload husable
  | upstreamRaises =>
    obtain ⟨husable, rfl⟩ := Transition.enabled h
    exact .upstreamRaises husable
  | stopRequested =>
    obtain rfl := Option.some.inj h
    exact .stopRequested
  | wakeWritten =>
    obtain ⟨hstoppers, rfl⟩ := Transition.enabled h
    exact .wakeWritten hstoppers
  | refreshRequested =>
    obtain rfl := Option.some.inj h
    exact .refreshRequested
  | _ => cases h

theorem stepped_of_stepPolled {now : TimePoint} {timeout : Int} {outcome : PollOutcome}
    (hpoint : loop.point = .polling now timeout) (h : loop.stepPolled timeout outcome = some next) :
    Stepped env loop (.polled outcome) next := by
  cases outcome with
  | interrupted =>
    obtain rfl := Option.some.inj h
    exact .interrupted hpoint
  | failed errorNumber =>
    obtain rfl := Option.some.inj h
    exact .pollFailed hpoint
  | events events =>
    obtain ⟨hallowed, rfl⟩ := Transition.enabled h
    exact .polled hpoint hallowed.1 hallowed.2.1 hallowed.2.2

theorem stepped_of_stop (hpoint : loop.point = .top ∨ loop.point = .synchronizing) {point : Point}
    (hgoes : loop.stop = false → Stepped env loop .advance (loop.goto point)) :
    Stepped env loop .advance (if loop.stop then loop.leave else loop.goto point) := by
  cases hstop : loop.stop with
  | true =>
    have hleave : loop.leave = loop.goto (.exited requestedStop) := by
      unfold leave
      rw [if_pos hstop]
    rw [if_pos rfl, hleave]
    exact .stopped hpoint hstop
  | false =>
    rw [if_neg Bool.false_ne_true]
    exact hgoes hstop

theorem stepped_of_stepRefreshing (hpoint : loop.point = .refreshing)
    (refreshed : Option (Option DomainBlocklist)) :
    Stepped env loop (.refreshed refreshed) (loop.stepRefreshing refreshed) := by
  unfold stepRefreshing
  split
  · rename_i hpending
    cases refreshed with
    | none => exact .stale hpoint hpending
    | some snapshot => exact .refreshed hpoint hpending
  · rename_i hsettled
    exact .upToDate hpoint (by simpa using hsettled)

theorem stepped_of_stepReceiving {datagrams : Nat} {outcome : Received}
    (hpoint : loop.point = .receiving datagrams) (hstop : loop.stop = false)
    (h : loop.stepReceiving datagrams outcome = some next) :
    Stepped env loop (.received outcome) next := by
  cases outcome with
  | interrupted =>
    obtain rfl := Option.some.inj h
    exact .receiveInterrupted hpoint hstop
  | wouldBlock =>
    obtain ⟨hempty, rfl⟩ := Transition.enabled h
    exact .receiveEmpty hpoint hstop hempty
  | failed errorNumber =>
    obtain rfl := Option.some.inj h
    exact .receiveFailed hpoint hstop
  | datagram allocationFails =>
    obtain ⟨⟨packet, rest⟩, htaken, rfl⟩ := Option.map_eq_some_iff.mp h
    exact .received hpoint hstop htaken

theorem stepped_of_stepSpawning {datagrams : Nat} {packet : Packet} {task : TaskId}
    {allocationFails : Bool} (hpoint : loop.point = .spawning datagrams packet)
    (h : loop.stepSpawning env datagrams packet task allocationFails = some next) :
    Stepped env loop (.spawned task allocationFails) next := by
  unfold stepSpawning at h
  cases allocationFails with
  | true =>
    obtain rfl := Option.some.inj h
    exact .lost hpoint rfl
  | false =>
    rw [if_neg (by decide), observe_worker] at h
    obtain ⟨worker, hstep, rfl⟩ := Option.map_eq_some_iff.mp h
    exact .spawned hpoint hstep

theorem stepped_of_stepDraining {datagrams : Nat} {outcome : Received}
    (hpoint : loop.point = .draining datagrams) (hbudget : datagrams < upstreamReceiveBudget)
    (h : loop.stepDraining env datagrams outcome = some next) :
    Stepped env loop (.received outcome) next := by
  cases outcome with
  | interrupted =>
    obtain rfl := Option.some.inj h
    exact .drainInterrupted hpoint
  | wouldBlock =>
    obtain ⟨hempty, rfl⟩ := Transition.enabled h
    exact .drainEmpty hpoint hempty
  | failed errorNumber =>
    obtain rfl := Option.some.inj h
    exact .drainFailed hpoint
  | datagram allocationFails =>
    obtain ⟨⟨payload, rest⟩, htaken, rfl⟩ := Option.map_eq_some_iff.mp h
    exact .drained hpoint hbudget htaken

/-- Where the socket hung up, the error is not zero, so that every query is failed. -/
theorem stepped_of_stepFailing (hpoint : loop.point = .failing) (errorNumber : Int) :
    Stepped env loop (.socketError errorNumber) (loop.stepFailing env errorNumber) := by
  unfold stepFailing
  by_cases hpending : loop.upstreamErrorPending = true ∨ loop.upstreamHangupPending = true
  · rw [if_pos hpending]
    cases hhangup : loop.upstreamHangupPending with
    | true =>
      by_cases hzero : errorNumber = 0
      · simp only [hzero, and_self, if_true]
        exact .hungUp econnreset hpoint
      · simp only [hzero, false_and, if_false, ne_eq, not_false_eq_true, if_true]
        exact .hungUp errorNumber hpoint
    | false =>
      by_cases hzero : errorNumber = 0
      · simp only [hzero, Bool.false_eq_true, and_false, if_false, ne_eq, not_true_eq_false]
        exact .errorCleared hpoint
      · simp only [hzero, false_and, Bool.false_eq_true, if_false, ne_eq, not_false_eq_true,
          if_true]
        exact .errorFailed errorNumber hpoint
  · rw [if_neg hpending]
    exact .noError hpoint

theorem stepped_of_stepResume {failures resumed : Nat}
    (hpoint : loop.point = .running failures resumed none)
    (h : loop.stepResume env failures resumed = some next) : Stepped env loop .resumed next := by
  unfold stepResume at h
  split at h
  · rename_i hbudget
    split at h
    · cases h
    · rename_i task rest hready
      obtain ⟨worker, hstep, rfl⟩ := Option.map_eq_some_iff.mp h
      exact .resumed hpoint hbudget hready hstep
  · cases h

theorem stepped_of_stepAct {failures resumed : Nat} {task : TaskId} {label : Worker.Label}
    (hpoint : loop.point = .running failures resumed (some task))
    (h : loop.stepAct env failures resumed task label = some next) :
    Stepped env loop (.acted label) next := by
  have hobserved : ∃ before, loop.observeAtStart label = { loop with worker := before } ∧
      (before = loop.worker ∨ before = observed loop.stop loop.worker) := by
    unfold observeAtStart
    split
    · exact ⟨_, observe_worker loop, .inr rfl⟩
    · exact ⟨loop.worker, rfl, .inl rfl⟩
  obtain ⟨before, heq, hbefore⟩ := hobserved
  unfold stepAct at h
  rw [heq] at h
  split at h
  · rename_i hactor
    obtain ⟨worker, hstep, rfl⟩ := Option.map_eq_some_iff.mp h
    exact .acted hpoint hbefore hactor hstep
  · cases h

/-! ## The step -/

theorem stepped_of_stepLoop (h : loop.stepLoop env label = some next) :
    Stepped env loop label next := by
  unfold stepLoop at h
  split at h
  case h_1 hpoint =>
    exact Option.some.inj h ▸ stepped_of_stop (.inl hpoint) (.waiting hpoint)
  case h_2 hpoint =>
    obtain ⟨timeout, htimeout, rfl⟩ := Option.map_eq_some_iff.mp h
    exact .timing hpoint htimeout
  case h_3 hpoint => exact stepped_of_stepPolled hpoint h
  case h_4 hpoint => exact Option.some.inj h ▸ .dispatch hpoint
  case h_5 hpoint => exact Option.some.inj h ▸ .dispatched hpoint
  case h_6 hpoint =>
    exact Option.some.inj h ▸ stepped_of_stop (.inr hpoint) (.synchronizing hpoint)
  case h_7 hpoint => exact Option.some.inj h ▸ stepped_of_stepRefreshing hpoint _
  case h_8 hpoint =>
    split at h
    · cases h
    · rename_i hallowed
      exact stepped_of_stepReceiving hpoint (by simpa using (not_or.mp hallowed).1) h
  case h_9 hpoint =>
    obtain ⟨-, rfl⟩ := Transition.enabled h
    exact .receivedAll hpoint
  case h_10 hpoint => exact stepped_of_stepSpawning hpoint h
  case h_11 hpoint =>
    split at h
    · cases h
    · rename_i hallowed
      exact stepped_of_stepDraining hpoint (Nat.lt_of_not_le (not_or.mp hallowed).2) h
  case h_12 hpoint =>
    split at h
    · rename_i hrunning
      exact Option.some.inj h ▸ .notRunning hpoint hrunning
    · obtain ⟨-, rfl⟩ := Transition.enabled h
      exact .drainedAll hpoint
  case h_13 hpoint => exact Option.some.inj h ▸ stepped_of_stepFailing hpoint _
  case h_14 hpoint => exact Option.some.inj h ▸ .expired hpoint
  case h_15 hpoint =>
    rw [observe_worker] at h
    exact Option.some.inj h ▸ .readied hpoint
  case h_16 hpoint => exact stepped_of_stepResume hpoint h
  case h_17 hpoint => exact stepped_of_stepAct hpoint h
  case h_18 hpoint =>
    unfold stepRan at h
    split at h
    · cases h
    · exact Option.some.inj h ▸ .ran hpoint
  case h_19 hpoint =>
    obtain rfl := Option.some.inj h
    unfold stepChecking
    split
    · exact .thrown hpoint ‹_›
    split
    · exact .broken hpoint ‹_›
    · exact .checked hpoint
  case h_20 => cases h

theorem stepped_of_step (h : loop.step env label = some next) : Stepped env loop label next := by
  unfold step at h
  rcases Option.or_eq_some_iff.mp h with hothers | ⟨-, hloop⟩
  · exact stepped_of_stepOthers hothers
  · exact stepped_of_stepLoop hloop

end Loop

end DnsPro.EventLoop
