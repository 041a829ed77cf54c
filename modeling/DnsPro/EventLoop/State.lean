import DnsPro.Lib.Readiness
import DnsPro.Runtime.WaitTimeout
import DnsPro.Server.WorkerLoop
import DnsPro.Service.Errors

/-!
# The event loop of a worker

The `while` loop of `WorkerLoop::run` with `drain_listener`, `UpstreamChannel::drain` and
`run_ready`, beside what it shares with the rest of the process: the two sockets and the
two event counters that its epoll instance watches, and the stop token.

`Point` says where the loop stands.  A step of the loop is one system call with what it
returns, one look at the stop token, or one resumption of a coroutine; between two steps
packets arrive and the other threads call `request_stop` and `request_filter_refresh`.
`request_stop` takes two steps: the token, then the write to the counter.

`owned` is a ghost: the packets that were read from the listener, each with the task that
processes it, or without one where there was no memory.  So are the two `faulted` flags:
whether the last `recvmsg` on the socket failed, and not because it was empty.
-/

namespace DnsPro.EventLoop

open DnsPro.Filter DnsPro.Protocol DnsPro.Readiness DnsPro.Runtime DnsPro.Server DnsPro.Upstream
open DnsPro.Service (WorkerRunResult WorkerRuntimeStep)

/-- A datagram in the queue of the listener. -/
structure Packet where
  payload : Bytes
  address : Bytes
  deriving DecidableEq

/-- What `epoll_wait` reports. -/
inductive Event where
  | listener
  | wake
  | generation
  | upstream (error hangup : Bool)
  deriving DecidableEq, Repr

inductive PollOutcome where
  | interrupted
  | failed (errorNumber : Int)
  | events (events : List Event)
  deriving DecidableEq, Repr

/-- What one `recvmsg` does.  On the upstream socket, `allocationFails` is whether there is
no memory for parsing the datagram. -/
inductive Received where
  | interrupted
  | wouldBlock
  | failed (errorNumber : Int)
  | datagram (allocationFails : Bool)
  deriving DecidableEq, Repr

/-- Where the loop stands.  `now` is the reading of the clock that the timeout was computed
from, `datagrams` and `resumed` count against a budget, and `failures` is the
`schedule_failures` of `expire`. -/
inductive Point where
  | top
  | timing
  | polling (now : TimePoint) (timeout : Int)
  | dispatching (events : List Event)
  | synchronizing
  | refreshing
  | receiving (datagrams : Nat)
  | spawning (datagrams : Nat) (packet : Packet)
  | draining (datagrams : Nat)
  | failing
  | expiring
  | readying (failures : Nat)
  | running (failures resumed : Nat) (current : Option TaskId)
  | checking (failures : Nat)
  | exited (result : WorkerRunResult)

def Point.ended : Point → Bool
  | .exited _ => true
  | _ => false

structure Loop where
  worker : Worker
  point : Point := .top
  listenerPending : Bool := false
  generationPending : Bool := false
  upstreamPending : Bool := false
  upstreamErrorPending : Bool := false
  upstreamHangupPending : Bool := false
  listener : Source Packet := {}
  upstreamSocket : Source Bytes := {}
  wake : Nat := 0
  generation : Bell := {}
  /-- `stop_source_`. -/
  stop : Bool := false
  /-- The threads inside `request_stop` that have not written to the counter. -/
  stoppers : Nat := 0
  unhandledRootExceptions : Nat := 0
  owned : List (Packet × Option TaskId) := []
  listenerFaulted : Bool := false
  upstreamFaulted : Bool := false

def receiveBudget : Nat := 64

def upstreamReceiveBudget : Nat := 64

def timerBudget : Nat := 64

def readyBudget : Nat := 64

/-- The size of the array that `epoll_wait` fills. -/
def eventCapacity : Nat := 64

/-- The greatest value of an event counter. -/
def counterLimit : Nat := 2 ^ 64 - 2

/-- `ECONNRESET`. -/
def econnreset : Int := 104

def requestedStop : WorkerRunResult := { outcome := .requestedStop }

def fatalExit (step : WorkerRuntimeStep) (errorNumber : Int := 0) : WorkerRunResult :=
  { error := some { step := step, errorNumber := errorNumber } }

/-- The datagram that `drain_listener` makes of a packet. -/
def Packet.datagram (packet : Packet) : ClientDatagram where
  packet := packet.payload.take downstreamReceiveBufferSize
  clientAddress := packet.address
  truncated := decide (downstreamReceiveBufferSize < packet.payload.length)

namespace Loop

variable (env : Server.Environment)

def goto (loop : Loop) (point : Point) : Loop := { loop with point := point }

def setUpstream (loop : Loop) (system : Upstream.System) : Loop :=
  { loop with worker := { loop.worker with upstream := system } }

/-- `Scheduler::observe_external_stop`. -/
def observe (loop : Loop) : Loop :=
  if loop.stop then
    loop.setUpstream (loop.worker.upstream.setScheduler
      { loop.worker.upstream.scheduler with stopRequested := true, accepting := false })
  else loop

/-- `runtime_invariants_hold`. -/
def runtimeInvariantsHold (loop : Loop) : Bool :=
  decide (loop.worker.upstream.scheduler.invariantFailures = 0) &&
    decide (loop.worker.upstream.timers.invariantFailures = 0) &&
    decide (loop.worker.upstream.channel.stats.invariantFailures = 0)

/-! ## Polling -/

/-- The timeout of `epoll_wait`. -/
def stepTiming (loop : Loop) (now : TimePoint) : Option Loop :=
  (loop.worker.upstream.timers.pollTimeout loop.listenerPending loop.upstreamPending
    (decide (loop.worker.upstream.scheduler.ready ≠ [])) now).map fun timeout =>
      loop.goto (.polling now timeout)

/-- The event can be reported. -/
def ready (loop : Loop) : Event → Bool
  | .listener => loop.listener.edge
  | .wake => decide (0 < loop.wake)
  | .generation => decide (0 < loop.generation.count)
  | .upstream _ _ => loop.upstreamSocket.edge

/-- The edges of the reported sockets are lowered. -/
def report (loop : Loop) : Event → Loop
  | .listener => { loop with listener := loop.listener.report }
  | .upstream _ _ => { loop with upstreamSocket := loop.upstreamSocket.report }
  | _ => loop

/-- `epoll_wait` returns.  Without an event it does so when the timeout is over, and a
negative timeout never is. -/
def stepPolled (loop : Loop) (timeout : Int) : PollOutcome → Option Loop
  | .interrupted => some (loop.goto .top)
  | .failed errorNumber => some (loop.goto (.exited (fatalExit .waitForEvents errorNumber)))
  | .events events =>
    if events.all loop.ready ∧ events.length ≤ eventCapacity ∧ (events = [] → 0 ≤ timeout) then
      some ((events.foldl report loop).goto (.dispatching events))
    else none

/-- The body of the loop over the events. -/
def dispatch (loop : Loop) : Event → Loop
  | .wake => { loop with wake := 0 }
  | .generation => { loop with generation := loop.generation.silence, generationPending := true }
  | .listener => { loop with listenerPending := true }
  | .upstream error hangup =>
    { loop with
      upstreamPending := true
      upstreamErrorPending := loop.upstreamErrorPending || error
      upstreamHangupPending := loop.upstreamHangupPending || hangup }

/-! ## The sockets -/

/-- Where the pass goes on behind `drain_listener`. -/
def upstreamPoint (upstreamPending : Bool) : Point :=
  if upstreamPending then .draining 0 else .failing

/-- Where it goes on when the filter is up to date. -/
def listenerPoint (listenerPending upstreamPending : Bool) : Point :=
  if listenerPending then .receiving 0 else upstreamPoint upstreamPending

def toUpstream (loop : Loop) : Loop := loop.goto (upstreamPoint loop.upstreamPending)

def toListener (loop : Loop) : Loop :=
  loop.goto (listenerPoint loop.listenerPending loop.upstreamPending)

/-- The filter is refreshed if the counter rang.  `refreshed` is the snapshot, or `none`
where `refresh_filter_snapshot` fails. -/
def stepRefreshing (loop : Loop) (refreshed : Option (Option DomainBlocklist)) : Loop :=
  if loop.generationPending then
    let loop := { loop with generationPending := false }
    match refreshed with
    | none => loop.goto (.exited (fatalExit .synchronizeFilter))
    | some snapshot =>
      { loop with
        worker := { loop.worker with snapshot := snapshot }
        generation := loop.generation.answer }.toListener
  else loop.toListener

/-- One `recvmsg` of `drain_listener`. -/
def stepReceiving (loop : Loop) (datagrams : Nat) : Received → Option Loop
  | .interrupted => some loop
  | .wouldBlock =>
    if loop.listener.queue = [] then
      some { loop with listenerPending := false, listenerFaulted := false }.toUpstream
    else none
  | .failed _ => some { loop with listenerPending := false, listenerFaulted := true }.toUpstream
  | .datagram _ =>
    loop.listener.take.map fun taken =>
      { loop with
        listener := taken.2
        listenerFaulted := false
        point := .spawning datagrams taken.1 }

/-- The rest of the pass: the coroutine of the datagram is made and spawned. -/
def stepSpawning (loop : Loop) (datagrams : Nat) (packet : Packet) (task : TaskId)
    (allocationFails : Bool) : Option Loop :=
  if allocationFails then
    let stats := loop.worker.stats
    some { loop with
      worker := { loop.worker with stats := { stats with
        receivedDatagrams := stats.receivedDatagrams + 1
        internalErrors := stats.internalErrors + 1 } }
      owned := loop.owned ++ [(packet, none)]
      point := .receiving (datagrams + 1) }
  else
    let loop := loop.observe
    (loop.worker.step env (.receive task packet.datagram)).map fun worker =>
      { loop with
        worker := worker
        owned := loop.owned ++ [(packet, some task)]
        point := .receiving (datagrams + 1) }

/-- One `recvmsg` of `UpstreamChannel::drain`, with `handle_datagram`. -/
def stepDraining (loop : Loop) (datagrams : Nat) : Received → Option Loop
  | .interrupted => some loop
  | .wouldBlock =>
    if loop.upstreamSocket.queue = [] then
      some ({ loop with upstreamPending := false, upstreamFaulted := false }.goto .failing)
    else none
  | .failed errorNumber =>
    some ({ loop with upstreamPending := false, upstreamFaulted := true }.setUpstream
      (loop.worker.upstream.failAll env.upstream .socketError errorNumber).2 |>.goto .failing)
  | .datagram allocationFails =>
    loop.upstreamSocket.take.map fun taken =>
      ({ loop with upstreamSocket := taken.2, upstreamFaulted := false }.setUpstream
        (loop.worker.upstream.handleDatagram env.upstream (taken.1.take upstreamReceiveBufferSize)
          (decide (upstreamReceiveBufferSize < taken.1.length)) allocationFails).2).goto
            (.draining (datagrams + 1))

/-- The errors of the upstream socket.  `socketError` is what `getsockopt` makes of
`SO_ERROR`. -/
def stepFailing (loop : Loop) (socketError : Int) : Loop :=
  if loop.upstreamErrorPending ∨ loop.upstreamHangupPending then
    let hangup := loop.upstreamHangupPending
    let socketError := if socketError = 0 ∧ hangup then econnreset else socketError
    let loop := { loop with upstreamErrorPending := false, upstreamHangupPending := false }
    let loop :=
      if socketError ≠ 0 then
        loop.setUpstream (loop.worker.upstream.failAll env.upstream .socketError socketError).2
      else loop
    if hangup then
      { loop with
        worker := { loop.worker with upstreamUsable := false }
        upstreamPending := false
        upstreamSocket := loop.upstreamSocket.close
        point := .expiring }
    else loop.goto .expiring
  else loop.goto .expiring

/-! ## Timers and coroutines -/

def stepExpiring (loop : Loop) (now : TimePoint) : Loop :=
  let (system, result) :=
    (System.host env.upstream).expire now timerBudget loop.worker.upstream
  (loop.setUpstream system).goto (.readying result.scheduleFailures)

/-- `run_ready` resumes the next coroutine, unless one runs. -/
def stepResume (loop : Loop) (failures resumed : Nat) : Option Loop :=
  if resumed < readyBudget then
    match loop.worker.upstream.scheduler.ready with
    | [] => none
    | task :: _ =>
      (loop.worker.step env (.upstream .resume)).map fun worker =>
        { loop with
          worker := worker
          point := .running failures (resumed + 1) (some task) }
  else none

/-- A coroutine looks at its stop token first. -/
def observeAtStart (loop : Loop) : Worker.Label → Loop
  | .process _ _ _ _ _ => loop.observe
  | _ => loop

/-- `finish_root` counts the exception of a task that has ended.  Every task is a root. -/
def exceptionsAfter (loop : Loop) (worker : Worker) (task : TaskId) : Nat :=
  let promise := worker.upstream.scheduler.tasks task
  if promise.point = .final ∧ promise.exception = true then loop.unhandledRootExceptions + 1
  else loop.unhandledRootExceptions

/-- The coroutine that was resumed acts, and may suspend or end.  Its look at the stop token
and the rest of `process_datagram` up to the next suspension are one step, so that a stop
requested between the two is seen by the next one. -/
def stepAct (loop : Loop) (failures resumed : Nat) (task : TaskId) (label : Worker.Label) :
    Option Loop :=
  if label.actor = some task then
    let loop := loop.observeAtStart label
    (loop.worker.step env label).map fun worker =>
      { loop with
        worker := worker
        unhandledRootExceptions := loop.exceptionsAfter worker task
        point := .running failures resumed
          (if worker.upstream.executing task then some task else none) }
  else none

/-- `run_ready` returns. -/
def stepRan (loop : Loop) (failures resumed : Nat) : Option Loop :=
  if resumed < readyBudget ∧ loop.worker.upstream.scheduler.ready ≠ [] then none
  else some (loop.goto (.checking failures))

def stepChecking (loop : Loop) (failures : Nat) : Loop :=
  if loop.unhandledRootExceptions ≠ 0 then
    loop.goto (.exited (fatalExit .unhandledException))
  else if failures ≠ 0 ∨ loop.runtimeInvariantsHold = false then
    loop.goto (.exited (fatalExit .runtimeInvariant))
  else loop.goto .top

/-- The result behind the loop, where none was set. -/
def leave (loop : Loop) : Loop :=
  loop.goto (.exited (if loop.stop then requestedStop else fatalExit .unhandledException))

/-! ## Steps -/

inductive Label where
  | advance
  | timing (now : TimePoint)
  | polled (outcome : PollOutcome)
  | refreshed (snapshot : Option (Option DomainBlocklist))
  | received (outcome : Received)
  | spawned (task : TaskId) (allocationFails : Bool)
  | socketError (errorNumber : Int)
  | expired (now : TimePoint)
  | resumed
  | acted (label : Worker.Label)
  -- the network and the other threads
  | arrives (packet : Packet)
  | upstreamArrives (payload : Bytes)
  | upstreamRaises
  | stopRequested
  | wakeWritten
  | refreshRequested

/-- A step of the loop. -/
def stepLoop (loop : Loop) (label : Label) : Option Loop :=
  match loop.point, label with
  | .top, .advance => some (if loop.stop then loop.leave else loop.goto .timing)
  | .timing, .timing now => loop.stepTiming now
  | .polling _ timeout, .polled outcome => loop.stepPolled timeout outcome
  | .dispatching (event :: events), .advance =>
    some ((loop.dispatch event).goto (.dispatching events))
  | .dispatching [], .advance => some (loop.goto .synchronizing)
  | .synchronizing, .advance => some (if loop.stop then loop.leave else loop.goto .refreshing)
  | .refreshing, .refreshed snapshot => some (loop.stepRefreshing snapshot)
  | .receiving datagrams, .received outcome =>
    if loop.stop ∨ receiveBudget ≤ datagrams then none else loop.stepReceiving datagrams outcome
  | .receiving datagrams, .advance =>
    if loop.stop ∨ receiveBudget ≤ datagrams then
      some { loop with listenerPending := !loop.stop }.toUpstream
    else none
  | .spawning datagrams packet, .spawned task allocationFails =>
    loop.stepSpawning env datagrams packet task allocationFails
  | .draining datagrams, .received outcome =>
    if loop.worker.upstream.channel.running = false ∨ upstreamReceiveBudget ≤ datagrams then none
    else loop.stepDraining env datagrams outcome
  | .draining datagrams, .advance =>
    if loop.worker.upstream.channel.running = false then
      some ({ loop with upstreamPending := false }.goto .failing)
    else if upstreamReceiveBudget ≤ datagrams then
      some ({ loop with upstreamPending := true }.goto .failing)
    else none
  | .failing, .socketError errorNumber => some (loop.stepFailing env errorNumber)
  | .expiring, .expired now => some (loop.stepExpiring env now)
  | .readying failures, .advance => some (loop.observe.goto (.running failures 0 none))
  | .running failures resumed none, .resumed => loop.stepResume env failures resumed
  | .running failures resumed (some task), .acted label =>
    loop.stepAct env failures resumed task label
  | .running failures resumed none, .advance => loop.stepRan failures resumed
  | .checking failures, .advance => some (loop.stepChecking failures)
  | _, _ => none

/-- A step of the network or of another thread.  Nothing happens to a closed socket. -/
def stepOthers (loop : Loop) : Label → Option Loop
  | .arrives packet => some { loop with listener := loop.listener.arrive packet }
  | .upstreamArrives payload =>
    if loop.worker.upstreamUsable then
      some { loop with upstreamSocket := loop.upstreamSocket.arrive payload }
    else none
  | .upstreamRaises =>
    if loop.worker.upstreamUsable then
      some { loop with upstreamSocket := loop.upstreamSocket.raise }
    else none
  | .stopRequested => some { loop with stop := true, stoppers := loop.stoppers + 1 }
  | .wakeWritten =>
    if 0 < loop.stoppers then
      some { loop with stoppers := loop.stoppers - 1, wake := ring counterLimit loop.wake }
    else none
  | .refreshRequested => some { loop with generation := loop.generation.request counterLimit }
  | _ => none

def step (loop : Loop) (label : Label) : Option Loop :=
  (loop.stepOthers label).or (loop.stepLoop env label)

/-- The loop of a worker whose scheduler, timers and channel were started.  The channel
found its socket empty, and its configuration and its socket are good. -/
def initial (cache : Cache.CacheShard) (snapshot : Option DomainBlocklist) (socketFd : Int)
    (config : ChannelConfig) : Loop where
  worker :=
    let worker := Worker.initial cache snapshot
    { worker with upstream := (worker.upstream.start env.upstream socketFd config true false).2 }

/-- The state after a list of steps. -/
def run (cache : Cache.CacheShard) (snapshot : Option DomainBlocklist) (socketFd : Int)
    (config : ChannelConfig) (labels : List Label) : Option Loop :=
  Transition.run (step env) (initial env cache snapshot socketFd config) labels

end Loop

end DnsPro.EventLoop
