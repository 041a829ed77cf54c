import DnsPro.Filter.DomainBlocklist
import DnsPro.Server.Datagram
import DnsPro.Upstream.Attribution

/-!
# The worker

One worker of `WorkerLoop.cpp`: the cache shard, the filter snapshot, the
upstream channel with its scheduler and its timers, and the coroutines of
`process_datagram`.  A coroutine runs in three pieces: up to the point where it
awaits the upstream query, from there to the point where the response is known,
and the sending of the response.  Between two pieces anything else may happen,
also the stop request of another thread.

`sent` is a ghost: the datagrams that were handed to `sendto`.  So is `blocked`,
which keeps what `matches_filter` returned.
-/

namespace DnsPro.Server

open DnsPro.Cache DnsPro.Filter DnsPro.Protocol DnsPro.Runtime DnsPro.Upstream

structure Environment where
  upstream : Upstream.Environment
  hash : Bytes → UInt64

/-- `ClientDatagram`, with the address as the bytes of the `sockaddr`. -/
structure ClientDatagram where
  packet : Bytes
  clientAddress : Bytes
  truncated : Bool
  deriving DecidableEq

structure WorkerStats where
  receivedDatagrams : Nat := 0
  truncatedDatagrams : Nat := 0
  parseErrors : Nat := 0
  unsupportedQueries : Nat := 0
  acceptedQueries : Nat := 0
  blockedQueries : Nat := 0
  cacheHits : Nat := 0
  cacheMisses : Nat := 0
  cacheBypasses : Nat := 0
  cacheInserts : Nat := 0
  responsesSent : Nat := 0
  oversizedResponses : Nat := 0
  sendErrors : Nat := 0
  internalErrors : Nat := 0
  deriving DecidableEq, Repr

/-- Where the coroutine of a datagram is. -/
inductive Stage where
  | created
  | awaiting (request : Message) (question : Question) (cacheKey : Option CacheKey)
      (query : QueryId)
  | responding (response : Bytes)
  | returned

structure Frame where
  datagram : ClientDatagram
  stage : Stage := .created
  blocked : Bool := false

structure Sent where
  task : TaskId
  clientAddress : Bytes
  response : Bytes
  deriving DecidableEq

/-- What the handlers of `process_datagram` tell apart: `OperationCancelled`, another
`std::exception`, or anything else. -/
inductive Thrown where
  | operationCancelled
  | standard
  | other
  deriving DecidableEq, Repr

structure Worker where
  upstream : System := System.initial
  cache : CacheShard
  snapshot : Option DomainBlocklist
  upstreamUsable : Bool := true
  stats : WorkerStats := {}
  frames : TaskId → Option Frame := fun _ => none
  sent : List Sent := []

namespace Worker

variable (env : Environment)

/-- `matches_filter`. -/
def matchesFilter (worker : Worker) (name : DomainName) : Bool :=
  match worker.snapshot with
  | none => false
  | some blocklist => blocklist.matches env.hash name

def setFrame (worker : Worker) (task : TaskId) (frame : Frame) : Worker :=
  { worker with frames := Function.update worker.frames task (some frame) }

/-- `++stats_.internal_errors`. -/
def countInternalError (worker : Worker) : Worker :=
  { worker with stats := { worker.stats with internalErrors := worker.stats.internalErrors + 1 } }

/-- `co_return`: the task is complete. -/
def coReturn (worker : Worker) (task : TaskId) (frame : Frame) : Worker :=
  { worker.setFrame task { frame with stage := .returned } with
    upstream := worker.upstream.setScheduler (worker.upstream.scheduler.complete task) }

/-- The handlers of `process_datagram`, and `unhandled_exception` behind them. -/
def handle (worker : Worker) (task : TaskId) (frame : Frame) : Thrown → Worker
  | .operationCancelled => worker.coReturn task frame
  | .standard => worker.countInternalError.coReturn task frame
  | .other =>
    { worker with
      upstream := worker.upstream.setScheduler
        (worker.upstream.scheduler.unhandledException task) }.coReturn task frame

/-- The coroutine goes on to the end of `process_datagram`, where the response is
sent. -/
def respondWith (worker : Worker) (task : TaskId) (frame : Frame) (response : Bytes) : Worker :=
  worker.setFrame task { frame with stage := .responding response }

/-- The end of the branch for accepted queries: a request without a response
gets an error. -/
def orServFail (worker : Worker) (task : TaskId) (frame : Frame) (request : Message)
    (response : Bytes) : Worker :=
  if response = [] then
    match makeErrorResponse request .servFail true downstreamResponseBudget with
    | .error _ => worker.countInternalError.coReturn task frame
    | .ok servfail => worker.respondWith task frame servfail
  else worker.respondWith task frame response

/-- `co_await upstream_channel_.query(...)`, up to the suspension. -/
def awaitUpstream (worker : Worker) (task : TaskId) (frame : Frame) (request : Message)
    (question : Question) (cacheKey : Option CacheKey) (writeFails armFails : Bool)
    (sent : SendOutcome) : Worker :=
  let query := worker.upstream.queryCount
  let made := worker.upstream.query env.upstream task request.header question
  { worker.setFrame task { frame with stage := .awaiting request question cacheKey query } with
    upstream := made.awaitQuery env.upstream query writeFails armFails sent }

/-- The cache part of `process_datagram`: the response from the cache, which is
empty when there is none, and the key under which a response may be stored.  It
is `none` when the entry cannot be written. -/
def lookupCache (worker : Worker) (request : Message) (question : Question) (cacheNow : TimePoint) :
    Option (Bytes × Option CacheKey) × Worker :=
  let stats := worker.stats
  if worker.cache.capacity ≠ 0 ∧ request.header.authenticatedData = false ∧
      request.header.checkingDisabled = false then
    let key := CacheKey.ofName question.name question.type question.questionClass
    let (found, cache) := worker.cache.get key cacheNow
    let worker := { worker with cache := cache }
    match found with
    | some hit =>
      match makeCacheHitResponse request hit downstreamResponseBudget with
      | .ok response =>
        (some (response, some key),
          { worker with stats := { stats with cacheHits := stats.cacheHits + 1 } })
      -- forwarded like a miss
      | .error ⟨.messageTooLarge⟩ =>
        (some ([], some key),
          { worker with stats := { stats with cacheMisses := stats.cacheMisses + 1 } })
      | .error _ => (none, worker.countInternalError)
    | none =>
      (some ([], some key),
        { worker with stats := { stats with cacheMisses := stats.cacheMisses + 1 } })
  else
    (some ([], none),
      { worker with stats := { stats with cacheBypasses := stats.cacheBypasses + 1 } })

/-- The filter part of `process_datagram`: the response to a blocked query, which
is empty for another one, or `none` when it cannot be written. -/
def filterQuery (worker : Worker) (frame : Frame) (request : Message) (question : Question) :
    Option Bytes × Worker × Frame :=
  if worker.matchesFilter env question.name then
    let stats := worker.stats
    let worker := { worker with stats := { stats with blockedQueries := stats.blockedQueries + 1 } }
    let frame := { frame with blocked := true }
    match makeErrorResponse request .refused true downstreamResponseBudget with
    | .error _ => (none, worker.countInternalError, frame)
    | .ok refused => (some refused, worker, frame)
  else (some [], worker, frame)

/-- The branch for accepted queries, up to the suspension. -/
def processQuery (worker : Worker) (task : TaskId) (frame : Frame) (request : Message)
    (question : Question) (cacheNow : TimePoint) (writeFails armFails : Bool)
    (sent : SendOutcome) : Worker :=
  match worker.filterQuery env frame request question with
  | (none, worker, frame) => worker.coReturn task frame
  | (some response, worker, frame) =>
    if response = [] then
      match worker.lookupCache request question cacheNow with
      | (none, worker) => worker.coReturn task frame
      | (some (response, cacheKey), worker) =>
        if response = [] ∧ worker.upstreamUsable then
          worker.awaitUpstream env task frame request question cacheKey writeFails armFails sent
        else worker.orServFail task frame request response
    else worker.orServFail task frame request response

/-- `process_datagram` from its beginning. -/
def processDatagram (worker : Worker) (task : TaskId) (frame : Frame) (cacheNow : TimePoint)
    (writeFails armFails : Bool) (sent : SendOutcome) : Worker :=
  let stats := worker.stats
  if worker.upstream.scheduler.stopRequested then worker.coReturn task frame
  else
    let decision := evaluateDatagram frame.datagram.packet frame.datagram.truncated
    match decision.outcome with
    | .dropped => worker.coReturn task frame
    | .truncated =>
      { worker with stats := { stats with truncatedDatagrams := stats.truncatedDatagrams + 1 }
        }.respondWith task frame decision.response
    | .malformed =>
      { worker with stats := { stats with parseErrors := stats.parseErrors + 1 }
        }.respondWith task frame decision.response
    | .unsupported =>
      { worker with stats := { stats with unsupportedQueries := stats.unsupportedQueries + 1 }
        }.respondWith task frame decision.response
    | .internalError => worker.countInternalError.coReturn task frame
    | .accepted =>
      let worker :=
        { worker with stats := { stats with acceptedQueries := stats.acceptedQueries + 1 } }
      match decision.request with
      | none => worker.countInternalError.coReturn task frame
      | some request =>
        match request.questions with
        | [question] =>
          worker.processQuery env task frame request question cacheNow writeFails armFails sent
        | _ => worker.countInternalError.coReturn task frame

/-- The `try` block that stores a response.  `cachingFails` is whether parsing or
writing runs out of memory. -/
def storeResponse (worker : Worker) (request : Message) (question : Question) (key : CacheKey)
    (response : Bytes) (cacheNow : TimePoint) (cachingFails emplaceFails : Bool) : Worker :=
  if cachingFails then worker.countInternalError
  else
    match parseMessage response {} with
    | .error _ => worker
    | .ok parsed =>
      match cacheableAddressSet parsed question with
      | none => worker
      | some cacheable =>
        match makeCacheHitResponse request ⟨cacheable.addresses, cacheable.ttl⟩
            downstreamResponseBudget with
        | .error _ => worker
        | .ok _ =>
          let (returned, cache) :=
            worker.cache.put key cacheable.addresses cacheable.ttl cacheNow emplaceFails
          let worker := { worker with cache := cache }
          if returned then
            { worker with
              stats := { worker.stats with cacheInserts := worker.stats.cacheInserts + 1 } }
          else worker.countInternalError

/-- `process_datagram` from `await_resume` on. -/
def resumeDatagram (worker : Worker) (task : TaskId) (frame : Frame) (request : Message)
    (question : Question) (cacheKey : Option CacheKey) (query : QueryId) (cacheNow : TimePoint)
    (cachingFails emplaceFails : Bool) : Worker :=
  let awaiter := worker.upstream.queries query
  let worker := { worker with upstream := worker.upstream.destroyQuery env.upstream query }
  if awaiter.state ≠ .completed then worker.handle task frame .standard
  else
    match awaiter.result.outcome with
    | .cancelled => worker.handle task frame .operationCancelled
    | .response =>
      let worker := match cacheKey with
        | none => worker
        | some key =>
          worker.storeResponse request question key awaiter.result.response cacheNow cachingFails
            emplaceFails
      worker.orServFail task frame request awaiter.result.response
    | _ => worker.orServFail task frame request []

/-- `send_response`. -/
def sendResponse (worker : Worker) (task : TaskId) (clientAddress response : Bytes)
    (sent : SendOutcome) : Worker :=
  let stats := worker.stats
  if downstreamResponseBudget < response.length then
    { worker with stats := { stats with oversizedResponses := stats.oversizedResponses + 1 } }
  else
    { worker with
      sent := worker.sent ++ [⟨task, clientAddress, response⟩]
      stats :=
        if sent = .sent response.length then { stats with responsesSent := stats.responsesSent + 1 }
        else { stats with sendErrors := stats.sendErrors + 1 } }

/-- The end of `process_datagram`. -/
def finishDatagram (worker : Worker) (task : TaskId) (frame : Frame) (response : Bytes)
    (sent : SendOutcome) : Worker :=
  if response ≠ [] ∧ worker.upstream.scheduler.stopRequested = false then
    (worker.sendResponse task frame.datagram.clientAddress response sent).coReturn task frame
  else worker.coReturn task frame

/-- One datagram of `drain_listener`: its coroutine is spawned. -/
def receiveDatagram (worker : Worker) (task : TaskId) (datagram : ClientDatagram) : Worker :=
  let stats := worker.stats
  let scheduler := worker.upstream.scheduler.spawn task
  let refused := (scheduler.tasks task).bound = false ∧ scheduler.stopRequested = false
  { worker.setFrame task { datagram := datagram } with
    upstream := worker.upstream.setScheduler scheduler
    stats := { stats with
      receivedDatagrams := stats.receivedDatagrams + 1
      internalErrors := if refused then stats.internalErrors + 1 else stats.internalErrors } }

/-- An allocation of the coroutine throws.  The awaiter in the frame is destroyed. -/
def failDatagram (worker : Worker) (task : TaskId) (frame : Frame) : Worker :=
  let worker := match frame.stage with
    | .awaiting _ _ _ query =>
      { worker with upstream := worker.upstream.destroyQuery env.upstream query }
    | _ => worker
  worker.handle task frame .standard

/-! ## Steps -/

inductive Label where
  | upstream (label : System.Label)
  | receive (task : TaskId) (datagram : ClientDatagram)
  | process (task : TaskId) (cacheNow : TimePoint) (writeFails armFails : Bool) (sent : SendOutcome)
  | resume (task : TaskId) (cacheNow : TimePoint) (cachingFails emplaceFails : Bool)
  | respond (task : TaskId) (sent : SendOutcome)
  | fail (task : TaskId)
  | refresh (snapshot : Option DomainBlocklist)
  | hangup

/-- The coroutine that acts in the step. -/
def Label.actor : Label → Option TaskId
  | .process task _ _ _ _ => some task
  | .resume task _ _ _ => some task
  | .respond task _ => some task
  | .fail task => some task
  | _ => none

/-- What the event loop and the runtime do with the channel, the timers and the
scheduler, and not a coroutine.  A frame that is destroyed takes its pending
query with it. -/
def external (system : System) : System.Label → Bool
  | .start .. => true
  | .close => true
  | .stop => true
  | .destroyQuery query => decide ((system.queries query).state = .pending)
  | .handleDatagram .. => true
  | .drain .. => true
  | .failAll .. => true
  | .expire .. => true
  | .cancelTimers => true
  | .startTimers => true
  | .closeTimers => true
  | .stopTimers => true
  | .resume => true
  | .clearReady => true
  | .requestStop => true
  | _ => false

/-- The frame of a task that executes. -/
def running (worker : Worker) (task : TaskId) : Option Frame :=
  if worker.upstream.executing task then worker.frames task else none

/-- One step. -/
def step (worker : Worker) : Label → Option Worker
  | .upstream label =>
    if external worker.upstream label then
      (worker.upstream.step env.upstream label).map fun next => { worker with upstream := next }
    else none
  | .receive task datagram =>
    if worker.upstream.fresh task ∧ (worker.frames task).isNone then
      some (worker.receiveDatagram task datagram)
    else none
  | .process task cacheNow writeFails armFails sent =>
    match worker.running task with
    | some ⟨datagram, .created, blocked⟩ =>
      some (worker.processDatagram env task ⟨datagram, .created, blocked⟩ cacheNow writeFails armFails
        sent)
    | _ => none
  | .resume task cacheNow cachingFails emplaceFails =>
    match worker.running task with
    | some ⟨datagram, .awaiting request question cacheKey query, blocked⟩ =>
      some (worker.resumeDatagram env task
        ⟨datagram, .awaiting request question cacheKey query, blocked⟩
        request question cacheKey query cacheNow cachingFails emplaceFails)
    | _ => none
  | .respond task sent =>
    match worker.running task with
    | some ⟨datagram, .responding response, blocked⟩ =>
      some (worker.finishDatagram task ⟨datagram, .responding response, blocked⟩ response sent)
    | _ => none
  | .fail task =>
    match worker.running task with
    | none => none
    | some ⟨_, .returned, _⟩ => none
    | some frame => some (worker.failDatagram env task frame)
  | .refresh snapshot => some { worker with snapshot := snapshot }
  | .hangup => some { worker with upstreamUsable := false }

/-- A worker over a cache shard that other workers may have used before. -/
def initial (cache : CacheShard) (snapshot : Option DomainBlocklist) : Worker where
  cache := cache
  snapshot := snapshot

/-- The state after a list of steps. -/
def run (cache : CacheShard) (snapshot : Option DomainBlocklist) (labels : List Label) :
    Option Worker :=
  Transition.run (step env) (initial cache snapshot) labels

end Worker

end DnsPro.Server
