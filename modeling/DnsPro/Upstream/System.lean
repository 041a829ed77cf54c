import DnsPro.Lib.Transition
import DnsPro.Runtime.Scheduler
import DnsPro.Upstream.Channel

/-!
# The channel with its scheduler and its timers

One `UpstreamChannel`, the `TimerQueue` that holds its deadlines and the
`Scheduler` that owns the suspended coroutines, all on one thread.  A step is
one call into one of the three, or something a coroutine does: it is spawned or
resumed, it creates an awaiter, it suspends, it ends, or its frame is destroyed.

An awaiter lives in the frame of one task.  Only that task awaits it, and
destroying a pending awaiter is destroying the suspended frame around it.
`log` is a ghost: the ids that `begin` was given, the queries it suspended, how
each of these ended, and the datagrams for which there was no memory.

The labels carry what the environment decides: the bytes of a datagram, what
`send` returns, and whether an allocation fails.
-/

namespace DnsPro.Upstream

open DnsPro.Protocol DnsPro.Runtime

inductive QueryState where
  | idle
  | pending
  | completed
  | failed
  deriving DecidableEq, Repr

/-- `QueryAwaiter`.  `alive` is whether the object exists, and `frame` the task
whose coroutine frame holds it.  There is one channel, so `owner_` is whether
it is set. -/
structure QueryAwaiter where
  alive : Bool := false
  frame : TaskId := 0
  owner : Bool := false
  task : Option TaskId := none
  header : Header := {}
  question : Question := ⟨DomainName.default, 0, 0⟩
  deadline : TimePoint := 0
  result : QueryResult := {}
  error : Option String := none
  transactionId : UInt16 := 0
  state : QueryState := .idle

inductive SleepState where
  | idle
  | pending
  | expired
  | cancelled
  | failed
  deriving DecidableEq, Repr

/-- `SleepAwaiter`. -/
structure SleepAwaiter where
  alive : Bool := false
  frame : TaskId := 0
  task : Option TaskId := none
  deadline : TimePoint := 0
  error : Option String := none
  state : SleepState := .idle

/-- The owners of timer registrations. -/
inductive Timer where
  | query (query : QueryId)
  | sleep (sleep : Nat)
  deriving DecidableEq, Repr

inductive BeginResult where
  | suspended
  | closed
  | wrongScheduler
  | overloaded
  | invalidQuery
  | timerFailure
  | sendError
  deriving DecidableEq, Repr

inductive PacketResult where
  | completed
  | invalid
  | unmatched
  | invariantFailure
  deriving DecidableEq, Repr

/-- What `send` returns after it was not interrupted. -/
inductive SendOutcome where
  | sent (count : Nat)
  | failed (errorNumber : Int)
  deriving DecidableEq, Repr

/-- What one `recvmsg` of `drain` returns. -/
inductive ReceiveOutcome where
  | interrupted
  | wouldBlock
  | failed (errorNumber : Int)
  | datagram (payload : Bytes) (truncatedFlag allocationFails : Bool)
  deriving DecidableEq, Repr

/-- `EIO`, `ENOMEM`. -/
def eio : Int := 5

def enomem : Int := 12

/-- What the ghost records. -/
inductive Event where
  | allocated (query : QueryId) (id : UInt16) (now : TimePoint)
  | suspended (query : QueryId)
  | scheduled (query : QueryId) (id : UInt16) (now : TimePoint) (outcome : QueryOutcome)
  | abandoned (query : QueryId) (id : UInt16) (now : TimePoint)
  | outOfMemory
  deriving DecidableEq, Repr

/-- The event ends the query. -/
def Event.ends (query : QueryId) : Event → Bool
  | .scheduled other _ _ _ => decide (other = query)
  | .abandoned other _ _ => decide (other = query)
  | _ => false

/-- What `QueryAwaiter::begin` makes of the results that do not suspend. -/
def QueryAwaiter.refused (awaiter : QueryAwaiter) : BeginResult → QueryAwaiter
  | .suspended => awaiter
  | .closed => { awaiter with
      owner := false, state := .completed, result := { awaiter.result with outcome := .cancelled } }
  | .overloaded => { awaiter with
      owner := false, state := .completed
      result := { awaiter.result with outcome := .overloaded } }
  | .invalidQuery => { awaiter with
      owner := false, state := .completed
      result := { awaiter.result with outcome := .invalidQuery } }
  | .sendError => { awaiter with
      owner := false, state := .completed, result := { awaiter.result with outcome := .sendError } }
  | .wrongScheduler => { awaiter with
      owner := false, state := .failed
      error := some "upstream channel belongs to another scheduler" }
  | .timerFailure => { awaiter with
      owner := false, state := .failed, error := some "upstream deadline could not be armed" }

structure System where
  channel : UpstreamChannel := {}
  timers : TimerQueue Timer := {}
  scheduler : Scheduler := {}
  queries : QueryId → QueryAwaiter := fun _ => {}
  queryCount : Nat := 0
  sleeps : Nat → SleepAwaiter := fun _ => {}
  sleepCount : Nat := 0
  readings : Nat := 0
  log : List Event := []

namespace System

variable (env : Environment)

/-- A channel that was never started, beside a running scheduler and timer
queue. -/
def initial : System where
  timers := { running := true, accepting := true }
  scheduler := { running := true, accepting := true }

/-- The next value of `Clock::now()`. -/
def now (system : System) : TimePoint := env.clock system.readings

def setQuery (system : System) (query : QueryId) (awaiter : QueryAwaiter) : System :=
  { system with queries := Function.update system.queries query awaiter }

def setSleep (system : System) (sleep : Nat) (awaiter : SleepAwaiter) : System :=
  { system with sleeps := Function.update system.sleeps sleep awaiter }

def armed (system : System) (timer : Timer) : Bool := (system.timers.registrations timer).owner

/-- `++stats_.invariant_failures`. -/
def recordFailure (system : System) : System :=
  { system with channel := system.channel.recordFailure }

/-! ## Starting and stopping -/

/-- The checks at the beginning of `start`. -/
def startable (system : System) (socketFd : Int) (config : ChannelConfig) (discarded : Bool) :
    Bool :=
  !system.channel.running && decide (system.channel.pendingCount = 0) && decide (0 ≤ socketFd) &&
    system.scheduler.running && system.timers.running && decide (0 < config.queryTimeout) &&
    decide (config.queryTimeout ≤ config.idReuseGuard) &&
    decide (config.transactionIdCapacity ≠ 0) &&
    decide (config.transactionIdCapacity ≤ transactionIdSpace) &&
    (!system.channel.hasStarted || decide (config = system.channel.config)) && discarded

/-- `start` up to the audit: the slots and the counters are cleared and the pool
is set up, or the retired ids that may be used again are reclaimed. -/
def preparePool (system : System) (config : ChannelConfig) : System :=
  let cleared := { system.channel with slots := fun _ => none, stats := {} }
  if system.channel.hasStarted then
    { system with
      channel := cleared.reclaimIds env (system.now env)
      readings := system.readings + 1 }
  else { system with channel := cleared.initializeIdPool env config }

/-- `start`.  `discarded` is the result of `discard_socket_input`, and `faulty`
whether setting up the pool fails with an exception. -/
def start (system : System) (socketFd : Int) (config : ChannelConfig)
    (discarded faulty : Bool) : Option Bool × System :=
  if system.startable socketFd config discarded = false then (some false, system)
  else if system.channel.hasStarted = false ∧ faulty then
    let cleared := { system.channel with slots := fun _ => none, stats := {} }
    (none, { system with channel := cleared.clearIdPool })
  else
    let prepared := system.preparePool env config
    if prepared.channel.validateIdPool config.transactionIdCapacity = false then
      (some false, prepared.recordFailure)
    else
      (some true, { prepared with
        channel := { prepared.channel with
          attached := true, config := config, socketFd := socketFd, pendingCount := 0
          running := true, accepting := true, hasStarted := true } })

/-- `close`. -/
def close (system : System) : System :=
  { system with channel := { system.channel with accepting := false } }

/-- `stop`. -/
def stop (system : System) : Bool × System :=
  let channel := system.channel
  if channel.pendingCount ≠ 0 then (false, system)
  else if channel.hasStarted ∧
      channel.validateIdPool channel.config.transactionIdCapacity = false then
    (false, system.recordFailure)
  else
    (true, { system with channel := { channel with
      attached := false, socketFd := -1, running := false, accepting := false } })

/-! ## Beginning a query -/

/-- `query_until`, in the frame of `task`. -/
def queryUntil (system : System) (task : TaskId) (header : Header) (question : Question)
    (deadline : TimePoint) : System :=
  { system.setQuery system.queryCount
      { alive := true, frame := task, owner := true, header := header, question := question
        deadline := deadline } with
    queryCount := system.queryCount + 1 }

/-- The deadline that `query` computes. -/
def queryDeadline (system : System) : TimePoint :=
  let now := system.now env
  let timeout := system.channel.config.queryTimeout
  if now ≤ 0 ∨ timeout ≤ durationMax - now then now + timeout else durationMax

/-- `query`. -/
def query (system : System) (task : TaskId) (header : Header) (question : Question) : System :=
  { system with readings := system.readings + 1 }.queryUntil task header question
    (system.queryDeadline env)

/-- `rollback_begin`. -/
def rollbackBegin (system : System) (query : QueryId) : System :=
  let id := (system.queries query).transactionId
  let timers :=
    if system.armed (.query query) ∧ system.channel.attached then
      (system.timers.disarm (.query query)).2
    else system.timers
  let system := { system with timers := timers }
  let channel := system.channel
  let system :=
    if id.toNat < channel.config.transactionIdCapacity ∧ channel.slots id = some query then
      { system with
        channel := UpstreamChannel.releaseId env id (system.now env) false
          { channel with
            slots := Function.update channel.slots id none
            pendingCount := channel.pendingCount - 1 }
        readings := system.readings + 1 }
    else system
  system.setQuery query
    { system.queries query with owner := false, task := none, state := .idle }

/-- The part of `begin` after the query was written: the awaiter takes the slot
and the timer, and the datagram is sent. -/
def beginSend (system : System) (query : QueryId) (task : TaskId) (id : UInt16) (wire : Bytes)
    (armFails : Bool) (sent : SendOutcome) : Option BeginResult × System :=
  let awaiter := system.queries query
  let channel := system.channel
  let linked := { system.setQuery query
      { awaiter with owner := true, task := some task, transactionId := id, state := .pending } with
    channel := { channel with
      slots := Function.update channel.slots id (some query)
      pendingCount := channel.pendingCount + 1 } }
  let (result, timers) := linked.timers.arm (.query query) awaiter.deadline true armFails
  let linked := { linked with timers := timers }
  match result with
  | none => (none, linked.rollbackBegin env query)
  | some .armed =>
    if sent = .sent wire.length then
      let stats := linked.channel.stats
      (some .suspended, { linked with
        channel := { linked.channel with
          stats := { stats with queriesSent := stats.queriesSent + 1 } }
        log := linked.log ++ [.suspended query] })
    else
      let errorNumber := match sent with | .failed errorNumber => errorNumber | .sent _ => eio
      let back := linked.rollbackBegin env query
      let awaiter := back.queries query
      let stats := back.channel.stats
      (some .sendError, { back.setQuery query
          { awaiter with result := { awaiter.result with errorNumber := errorNumber } } with
        channel := { back.channel with
          stats := { stats with sendErrors := stats.sendErrors + 1 } } })
  | some .closed => (some .closed, linked.rollbackBegin env query)
  | some _ => (some .timerFailure, linked.rollbackBegin env query)

/-- `UpstreamChannel::begin`.  The result is `none` when writing the query or
arming the timer fails with an exception. -/
def begin (system : System) (query : QueryId) (task : TaskId) (writeFails armFails : Bool)
    (sent : SendOutcome) : Option BeginResult × System :=
  if system.channel.running = false ∨ system.channel.accepting = false then
    (some .closed, system)
  else if (system.scheduler.tasks task).bound = false ∨ system.channel.attached = false ∨
      system.timers.running = false then
    (some .wrongScheduler, system)
  else
    let now := system.now env
    let (allocation, channel) := system.channel.allocateId env now
    let system := { system with channel := channel, readings := system.readings + 1 }
    match allocation with
    | none =>
      (some .overloaded, { system with channel := { channel with
        stats := { channel.stats with overloaded := channel.stats.overloaded + 1 } } })
    | some id =>
      let system := { system with log := system.log ++ [Event.allocated query id now] }
      let awaiter := system.queries query
      let released := { system with channel := channel.releaseId env id now false }
      if writeFails then (none, released)
      else
        match serializeQuery { awaiter.header with id := id } [awaiter.question]
            upstreamQueryBudget with
        | .error _ => (some .invalidQuery, released)
        | .ok wire => system.beginSend env query task id wire armFails sent

/-- `QueryAwaiter::await_suspend` and `QueryAwaiter::begin`: the executing task
awaits a query.  It stays suspended when `begin` suspends it, and goes on
executing otherwise. -/
def awaitQuery (system : System) (query : QueryId) (writeFails armFails : Bool)
    (sent : SendOutcome) : System :=
  let awaiter := system.queries query
  let task := awaiter.frame
  if (system.scheduler.tasks task).bound = false then
    system.setQuery query { awaiter with
      owner := false, state := .failed
      error := some "upstream query is not bound to a scheduler" }
  else if system.scheduler.stopRequested then
    system.setQuery query { awaiter with
      owner := false, state := .completed
      result := { awaiter.result with outcome := .cancelled } }
  else if awaiter.owner = false ∨ awaiter.state ≠ .idle then
    system.setQuery query { awaiter with
      state := .failed, error := some "upstream query awaiter cannot be reused" }
  else
    match system.begin env query task writeFails armFails sent with
    | (none, next) => next
    | (some .suspended, next) =>
      { next with scheduler := next.scheduler.setPoint task (.query query) }
    | (some result, next) => next.setQuery query ((next.queries query).refused result)

/-! ## Ending a query -/

/-- The common part of `finish` and `abandon`: the query leaves its slot and the
timer queue, and its id is retired. -/
def unlink (system : System) (query : QueryId) : System :=
  let id := (system.queries query).transactionId
  let channel := { system.channel with
    slots := Function.update system.channel.slots id none
    pendingCount := system.channel.pendingCount - 1 }
  let (disarmed, timers) :=
    if system.armed (.query query) ∧ system.channel.attached then
      system.timers.disarm (.query query)
    else (true, system.timers)
  let channel := if disarmed then channel else channel.recordFailure
  { system with
    timers := timers
    channel := channel.releaseId env id (system.now env) true
    readings := system.readings + 1 }

/-- `finish`. -/
def finish (system : System) (query : QueryId) (outcome : QueryOutcome) (response : Bytes)
    (errorNumber : Int) : Bool × System :=
  let awaiter := system.queries query
  let id := awaiter.transactionId
  if awaiter.owner = false ∨ awaiter.state ≠ .pending ∨
      system.channel.config.transactionIdCapacity ≤ id.toNat ∨
      system.channel.slots id ≠ some query then
    (false, system)
  else
    let unlinked := system.unlink env query
    let ended := { unlinked.setQuery query { awaiter with
        task := none, owner := false, state := .completed
        result := ⟨outcome, response, errorNumber⟩ } with
      channel := { unlinked.channel with
        stats := unlinked.channel.stats.countOutcome outcome } }
    match awaiter.task with
    | none => (false, ended.recordFailure)
    | some task =>
      if ended.channel.attached = false then (false, ended.recordFailure)
      else
        let (result, scheduler) := ended.scheduler.schedule task
        let next := { ended with scheduler := scheduler }
        if result = .scheduled then
          (true, { next with log := next.log ++ [.scheduled query id (system.now env) outcome] })
        else (false, next.recordFailure)

/-- `finish_deadline`. -/
def finishDeadline (system : System) (query : QueryId) (completion : TimerCompletion) :
    Bool × System :=
  system.finish env query (if completion = .expired then .timeout else .cancelled) [] 0

/-- `QueryAwaiter::deadline_complete`. -/
def deadlineComplete (system : System) (query : QueryId) (completion : TimerCompletion) :
    Bool × System :=
  if (system.queries query).owner then system.finishDeadline env query completion
  else (false, system)

/-- `UpstreamChannel::abandon`. -/
def abandon (system : System) (query : QueryId) : System :=
  let awaiter := system.queries query
  let id := awaiter.transactionId
  if awaiter.owner = false ∨ awaiter.state ≠ .pending then system
  else if system.channel.config.transactionIdCapacity ≤ id.toNat ∨
      system.channel.slots id ≠ some query then
    system.recordFailure.setQuery query { awaiter with owner := false, task := none }
  else
    let unlinked := system.unlink env query
    let stats := unlinked.channel.stats
    { unlinked.setQuery query { awaiter with
        owner := false, task := none, state := .completed
        result := { awaiter.result with outcome := .cancelled } } with
      channel := { unlinked.channel with
        stats := { stats with cancellations := stats.cancellations + 1 } }
      log := unlinked.log ++ [.abandoned query id (system.now env)] }

/-- `~QueryAwaiter`, with the destructor of its registration.  A pending awaiter
goes with the frame that it suspends. -/
def destroyQuery (system : System) (query : QueryId) : System :=
  let awaiter := system.queries query
  let abandoned := if awaiter.owner then system.abandon env query else system
  let scheduler :=
    if awaiter.state = .pending then abandoned.scheduler.setPoint awaiter.frame .destroyed
    else abandoned.scheduler
  { abandoned.setQuery query { abandoned.queries query with alive := false } with
    timers := abandoned.timers.abandon (.query query)
    scheduler := scheduler }

/-- `fail_all`. -/
def failAll (system : System) (outcome : QueryOutcome) (errorNumber : Int) : Nat × System :=
  if system.channel.running = false ∨ (outcome ≠ .cancelled ∧ outcome ≠ .socketError) then
    (0, system)
  else
    (List.range system.channel.config.transactionIdCapacity).foldl
      (fun state index =>
        match state.2.channel.slots (UInt16.ofNat index) with
        | none => state
        | some query =>
          let (finished, next) := state.2.finish env query outcome [] errorNumber
          (if finished then state.1 + 1 else state.1, next))
      (0, system)

/-- `cancel_all`. -/
def cancelAll (system : System) : Nat × System := system.failAll env .cancelled 0

/-! ## Datagrams -/

/-- The limits that `handle_datagram` parses with. -/
def upstreamLimits : ParseLimits := { maximumPacketSize := upstreamReceiveBufferSize }

def countInvalid (system : System) : System :=
  let stats := system.channel.stats
  { system with channel := { system.channel with
    stats := { stats with invalidResponses := stats.invalidResponses + 1 } } }

def countUnmatched (system : System) : System :=
  let stats := system.channel.stats
  { system with channel := { system.channel with
    stats := { stats with unmatchedResponses := stats.unmatchedResponses + 1 } } }

/-- The `try` block of `handle_datagram`, for a datagram whose id is pending. -/
def completeWith (system : System) (query : QueryId) (id : UInt16) (packet : Bytes) :
    PacketResult × System :=
  let awaiter := system.queries query
  match parseMessage packet upstreamLimits with
  | .error _ => (.invalid, system.countInvalid)
  | .ok message =>
    match validateUpstreamResponse message id awaiter.header.opcode awaiter.question with
    | .error _ => (.invalid, system.countInvalid)
    | .ok _ =>
      match rewriteTransactionId message.wireImage awaiter.header.id with
      | .error _ => (.invariantFailure, system.recordFailure)
      | .ok response =>
        let (finished, next) := system.finish env query .response response 0
        (if finished then .completed else .invariantFailure, next)

/-- `handle_datagram`.  `allocationFails` is whether parsing the packet runs out
of memory. -/
def handleDatagram (system : System) (packet : Bytes) (truncated allocationFails : Bool) :
    PacketResult × System :=
  if system.channel.running = false then (.invariantFailure, system)
  else if truncated ∨ upstreamReceiveBufferSize < packet.length then
    (.invalid, system.countInvalid)
  else
    match transactionId packet with
    | none => (.unmatched, system.countUnmatched)
    | some id =>
      if system.channel.config.transactionIdCapacity ≤ id.toNat then
        (.unmatched, system.countUnmatched)
      else
        match system.channel.slots id with
        | none => (.unmatched, system.countUnmatched)
        | some query =>
          if allocationFails then
            let failed := { system.recordFailure with log := system.log ++ [Event.outOfMemory] }
            (.invariantFailure, (failed.finish env query .socketError [] enomem).2)
          else system.completeWith env query id packet

/-- The loop of `drain`, over what the calls of `recvmsg` return. -/
def drainLoop : Nat → List ReceiveOutcome → System → System
  | _, [], system => system
  | 0, _, system => system
  | budget + 1, .interrupted :: rest, system => drainLoop (budget + 1) rest system
  | _ + 1, .wouldBlock :: _, system => system
  | _ + 1, .failed errorNumber :: _, system => (system.failAll env .socketError errorNumber).2
  | budget + 1, .datagram payload truncatedFlag allocationFails :: rest, system =>
    let truncated := truncatedFlag || decide (upstreamReceiveBufferSize < payload.length)
    let packet := payload.take upstreamReceiveBufferSize
    drainLoop budget rest (system.handleDatagram env packet truncated allocationFails).2

/-- `drain`. -/
def drain (system : System) (budget : Nat) (received : List ReceiveOutcome) : System :=
  if system.channel.running = false then system else drainLoop env budget received system

/-! ## Sleeping -/

/-- `sleep_until`, in the frame of `task`. -/
def sleepUntil (system : System) (task : TaskId) (deadline : TimePoint) : System :=
  { system.setSleep system.sleepCount { alive := true, frame := task, deadline := deadline } with
    sleepCount := system.sleepCount + 1 }

/-- `SleepAwaiter::await_suspend`. -/
def awaitSleep (system : System) (sleep : Nat) (armFails : Bool) : System :=
  let awaiter := system.sleeps sleep
  let task := awaiter.frame
  if (system.scheduler.tasks task).bound = false then
    system.setSleep sleep { awaiter with
      state := .failed, error := some "sleeping coroutine is not bound to a scheduler" }
  else if system.scheduler.stopRequested then
    system.setSleep sleep { awaiter with state := .cancelled }
  else if system.timers.running = false then
    system.setSleep sleep { awaiter with
      state := .failed, error := some "timer queue belongs to another scheduler" }
  else
    let pending := { awaiter with task := some task, state := .pending }
    let (result, timers) := system.timers.arm (.sleep sleep) awaiter.deadline true armFails
    let system := { system with timers := timers }
    match result with
    | none => system.setSleep sleep pending
    | some .armed =>
      { system.setSleep sleep pending with
        scheduler := system.scheduler.setPoint task (.sleep sleep) }
    | some .closed => system.setSleep sleep { pending with task := none, state := .cancelled }
    | some .notRunning => system.setSleep sleep { pending with
        task := none, state := .failed, error := some "timer queue is not running" }
    | some .alreadyArmed => system.setSleep sleep { pending with
        task := none, state := .failed
        error := some "timer awaiter cannot be armed more than once" }
    | some .invalidCallback => system.setSleep sleep { pending with
        task := none, state := .failed, error := some "timer completion callback is invalid" }

/-- `SleepAwaiter::complete`. -/
def completeSleep (system : System) (sleep : Nat) (completion : TimerCompletion) :
    Bool × System :=
  let awaiter := system.sleeps sleep
  let ended := system.setSleep sleep { awaiter with
    task := none, state := if completion = .expired then .expired else .cancelled }
  match awaiter.task with
  | none => (false, ended)
  | some task =>
    if (ended.scheduler.tasks task).bound = false then (false, ended)
    else
      let (result, scheduler) := ended.scheduler.schedule task
      (decide (result = .scheduled), { ended with scheduler := scheduler })

/-- `~SleepAwaiter`.  An armed one goes with the frame that it suspends. -/
def destroySleep (system : System) (sleep : Nat) : System :=
  let awaiter := system.sleeps sleep
  let scheduler :=
    if system.armed (.sleep sleep) then system.scheduler.setPoint awaiter.frame .destroyed
    else system.scheduler
  { system.setSleep sleep { awaiter with alive := false } with
    timers := system.timers.abandon (.sleep sleep)
    scheduler := scheduler }

/-! ## Steps -/

/-- The callback of a registration. -/
def completeTimer (system : System) (timer : Timer) (completion : TimerCompletion) :
    Bool × System :=
  match timer with
  | .query query => system.deadlineComplete env query completion
  | .sleep sleep => system.completeSleep sleep completion

/-- The program that the timer queue calls back. -/
def host : TimerQueue.Host Timer System where
  timers := System.timers
  setTimers system timers := { system with timers := timers }
  callback := completeTimer env

inductive Label where
  | start (socketFd : Int) (config : ChannelConfig) (discarded faulty : Bool)
  | close
  | stop
  | query (task : TaskId) (header : Header) (question : Question)
  | queryUntil (task : TaskId) (header : Header) (question : Question) (deadline : TimePoint)
  | awaitQuery (query : QueryId) (writeFails armFails : Bool) (sent : SendOutcome)
  | destroyQuery (query : QueryId)
  | handleDatagram (packet : Bytes) (truncated allocationFails : Bool)
  | drain (budget : Nat) (received : List ReceiveOutcome)
  | failAll (outcome : QueryOutcome) (errorNumber : Int)
  | expire (now : TimePoint) (budget : Nat)
  | cancelTimers
  | startTimers
  | closeTimers
  | stopTimers
  | sleepUntil (task : TaskId) (deadline : TimePoint)
  | awaitSleep (sleep : Nat) (armFails : Bool)
  | destroySleep (sleep : Nat)
  | spawn (task : TaskId)
  | resume
  | yield (task : TaskId)
  | awaitTask (task child : TaskId)
  | complete (task : TaskId)
  | clearReady
  | requestStop

/-- The task is executing. -/
def executing (system : System) (task : TaskId) : Prop :=
  (system.scheduler.tasks task).point = .executing

instance (system : System) (task : TaskId) : Decidable (system.executing task) :=
  inferInstanceAs (Decidable (_ = _))

/-- The task was created and nothing was done with it. -/
def fresh (system : System) (task : TaskId) : Prop :=
  (system.scheduler.tasks task).bound = false

instance (system : System) (task : TaskId) : Decidable (system.fresh task) :=
  inferInstanceAs (Decidable (_ = _))

def setScheduler (system : System) (scheduler : Scheduler) : System :=
  { system with scheduler := scheduler }

/-- One step.  A coroutine acts while it executes, and an awaiter is awaited
while it exists. -/
def step (system : System) : Label → Option System
  | .start socketFd config discarded faulty =>
    some (system.start env socketFd config discarded faulty).2
  | .close => some system.close
  | .stop => some system.stop.2
  | .query task header question =>
    if system.executing task then some (system.query env task header question) else none
  | .queryUntil task header question deadline =>
    if system.executing task then some (system.queryUntil task header question deadline) else none
  | .awaitQuery query writeFails armFails sent =>
    if (system.queries query).alive ∧ system.executing (system.queries query).frame then
      some (system.awaitQuery env query writeFails armFails sent)
    else none
  | .destroyQuery query =>
    if (system.queries query).alive then some (system.destroyQuery env query) else none
  | .handleDatagram packet truncated allocationFails =>
    some (system.handleDatagram env packet truncated allocationFails).2
  | .drain budget received => some (system.drain env budget received)
  | .failAll outcome errorNumber => some (system.failAll env outcome errorNumber).2
  | .expire now budget => some ((host env).expire now budget system).1
  | .cancelTimers => some ((host env).cancelAll system).1
  | .startTimers => some { system with timers := (system.timers.start system.scheduler.running).2 }
  | .closeTimers => some { system with timers := system.timers.close }
  | .stopTimers => some { system with timers := system.timers.stop.2 }
  | .sleepUntil task deadline =>
    if system.executing task then some (system.sleepUntil task deadline) else none
  | .awaitSleep sleep armFails =>
    if (system.sleeps sleep).alive ∧ system.executing (system.sleeps sleep).frame then
      some (system.awaitSleep sleep armFails)
    else none
  | .destroySleep sleep =>
    if (system.sleeps sleep).alive then some (system.destroySleep sleep) else none
  | .spawn task =>
    if system.fresh task then some (system.setScheduler (system.scheduler.spawn task)) else none
  | .resume => system.scheduler.runFront.map system.setScheduler
  | .yield task =>
    if system.executing task then some (system.setScheduler (system.scheduler.yield task)) else none
  | .awaitTask task child =>
    if system.executing task ∧ system.fresh child then
      some (system.setScheduler (system.scheduler.awaitTask task child))
    else none
  | .complete task =>
    if system.executing task then some (system.setScheduler (system.scheduler.complete task))
    else none
  | .clearReady => some (system.setScheduler system.scheduler.clearReady)
  | .requestStop => some (system.setScheduler
      { system.scheduler with stopRequested := true, accepting := false })

/-- The state after a list of operations, from a channel that was never started. -/
def run (labels : List Label) : Option System := Transition.run (step env) initial labels

end System

end DnsPro.Upstream
