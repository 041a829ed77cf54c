import DnsPro.Publication.System
import DnsPro.Supervisor.Record

/-!
# The supervisor as a transition system

The parties are the control thread, which is the body of `run` and of the calls
it makes, the worker threads, and the threads that call the supervisor from
outside.  A step is one lock-protected body of `WorkerSupervisor.cpp`, or one
call that the control thread makes outside the lock: to the publication, to
`WorkerLoop::create`, to start or to join a thread.  `Pc` says where the control
thread stands.  A loop over the records that the source makes under one lock is
one step for each record here, so more steps of the other threads come between
than in the source.

After `run` has returned, `emergency_join_all` is the one writer of the records,
and takes the place of the control thread.

A slot is a record together with what exists on its behalf: its `WorkerLoop`
objects and its threads, which the source could leak or share.  `Choice` is what
the environment decides in a step of the control thread.  `log` is a ghost, the
newest event first.
-/

namespace DnsPro.Supervisor

open DnsPro.Runtime (TimePoint)
open DnsPro.Service (WorkerRunResult WorkerInitError WorkerFailure WorkerRecoveryConfig
  SupervisorStartupError SupervisorStartupInfo SupervisorActivationError SupervisorHealthSnapshot
  isValidRecoveryConfig)

inductive GateAction where
  | stop
  | refreshFilter
  | proceed
  deriving DecidableEq, Repr

inductive Gate where
  | activation
  | dataPlane
  deriving DecidableEq, Repr

inductive SupervisorRunOutcome where
  | requestedStop
  | startupFailure
  | fatalExit
  deriving DecidableEq, Repr

inductive SupervisorRunErrorCode where
  | none
  | unexpectedWorkerStop
  | workerFatalExit
  | workerJoinFailed
  | internalError
  deriving DecidableEq, Repr

/-- `SupervisorRunResult`, with the two fields that the service does not read. -/
structure RunResult extends Service.SupervisorRunResult where
  outcome : SupervisorRunOutcome := .fatalExit
  errorCode : SupervisorRunErrorCode := .internalError
  deriving DecidableEq, Repr

/-- What the supervisor reads of its configuration. -/
structure Config where
  workerCount : Nat
  requestedPort : UInt16 := 0
  /-- The number of shards of the cache, or none without a cache. -/
  cacheShards : Option Nat
  recovery : WorkerRecoveryConfig := {}
  deriving DecidableEq, Repr

structure WorkerThread where
  instanceId : Nat
  exited : Bool := false
  deriving DecidableEq, Repr

structure Slot where
  record : WorkerRecord := {}
  loops : List WorkerLoop := []
  threads : List WorkerThread := []
  deriving DecidableEq, Repr

inductive Event where
  | instanceCreated (worker instanceId : Nat)
  | registered (worker instanceId : Nat)
  | becameRunning (worker instanceId : Nat) (now : TimePoint)
  | joinFailed (worker instanceId : Nat)
  | quiesced (worker instanceId : Nat)
  | gateReturned (worker instanceId : Nat) (gate : Gate) (action : GateAction)
  | episodeBegan (worker : Nat)
  | episodeEnded (worker : Nat)
  | scheduled (worker : Nat) (delay : Int)
  | restarted (worker : Nat)
  | healthReported (snapshot : SupervisorHealthSnapshot)
  | fatalReported (failure : WorkerFailure)
  | runReturned (result : Option RunResult)
  deriving DecidableEq, Repr

/-! ## Where the control thread stands -/

inductive Caller where
  | startup
  | restart
  deriving DecidableEq, Repr

inductive CreatePoint where
  | admission
  | register
  | build
  | store (loop : WorkerLoop)
  deriving DecidableEq, Repr

inductive JoinPoint where
  | request
  | join
  | record
  | reset
  | quiesce
  | offline
  deriving DecidableEq, Repr

/-- Who called `join_and_reset`. -/
inductive JoinCaller where
  | failure (failure : WorkerFailure)
  | all (success checked : Bool) (result : Option RunResult)
  | emergency (success : Bool)
  deriving DecidableEq, Repr

/-- The points of the work on one record. -/
inductive Point where
  | create (caller : Caller) (port : UInt16) (point : CreatePoint)
  | start (caller : Caller) (spawning : Bool)
  | readiness
  | activationExits
  | activationMarks
  | monitor
  | readyPoint
  | checkActivated
  | activatedPoint
  | runningPoint
  | checkStable
  | createHealth (error : Option SupervisorStartupError)
  | beginFailure (failure : WorkerFailure)
  | failureHealth (failure : WorkerFailure)
  | decide (failure : WorkerFailure)
  | fail (failure : WorkerFailure)
  | report (failure : WorkerFailure) (reports : Bool)
  | join (caller : JoinCaller) (point : JoinPoint)
  deriving DecidableEq, Repr

/-- What `run_impl` does after it has published its results.  `joins` says whether
the stops are followed by `join_and_reset_all`, and whether its result counts. -/
inductive Next where
  | finish (result : RunResult)
  | stop (result : Option RunResult) (joins : Option Bool)
  | awaitActivation
  | activationFailed (error : SupervisorActivationError)
  | monitor
  deriving DecidableEq, Repr

inductive Pc where
  | notStarted
  | entered
  | checking
  | publishing (startup : Option (Except SupervisorStartupError SupervisorStartupInfo))
      (activation : Option (Except SupervisorActivationError Unit)) (next : Next)
  | record (worker : Nat) (point : Point)
  | readinessTop
  | activationTop
  | activationFailed (error : SupervisorActivationError)
  | monitorTop
  | stopping (result : Option RunResult) (joins : Option Bool)
  | finishing (result : Option RunResult)
  | finished
  deriving DecidableEq

def Next.pc : Next → Pc
  | .finish result => .finishing (some result)
  | .stop result joins => .stopping result joins
  | .awaitActivation => .activationTop
  | .activationFailed error => .activationFailed error
  | .monitor => .monitorTop

/-- What `mutex_` guards besides the records. -/
structure Shared where
  startupResult : Option (Except SupervisorStartupError SupervisorStartupInfo) := none
  activationResult : Option (Except SupervisorActivationError Unit) := none
  activationRequested : Bool := false
  dataPlaneReleased : Bool := false
  stopRequested : Bool := false
  /-- Whether a stop is requested of `config_.service_stop_token`. -/
  serviceStop : Bool := false
  runActive : Bool := false
  abruptExitRequested : Bool := false
  abruptExitAfterPublicationRequested : Bool := false
  effectiveBoundPort : UInt16 := 0
  health : SupervisorHealthSnapshot := {}
  publishedGeneration : Nat
  snapshotPublicationPending : Bool := false

/-- `stop_requested_locked`. -/
def Shared.stopRequestedLocked (shared : Shared) : Bool :=
  shared.stopRequested || shared.serviceStop

structure System where
  config : Config
  shared : Shared
  slots : Nat → Slot := fun _ => {}
  publication : Publication.System
  clock : TimePoint := 0
  pc : Pc := .notStarted
  log : List Event := []

/-- What the environment decides in a step of the control thread. -/
structure Choice where
  now : TimePoint
  build : Except (Int × Option WorkerInitError) UInt16 := .ok 0
  threadError : Option Int := none
  joinRefused : Bool := false
  joinThrows : Bool := false
  /-- The record whose `request_filter_refresh` fails, with `errno`. -/
  refreshFailure : Option (Nat × Int) := none
  deriving DecidableEq

namespace System

/-! ## Small steps -/

def setSlot (system : System) (worker : Nat) (slot : Slot) : System :=
  { system with slots := Function.update system.slots worker slot }

def setRecord (system : System) (worker : Nat) (record : WorkerRecord) : System :=
  system.setSlot worker { system.slots worker with record := record }

def goto (system : System) (pc : Pc) : System := { system with pc := pc }

def note (system : System) (event : Event) : System :=
  { system with log := event :: system.log }

def setHealth (system : System) (health : SupervisorHealthSnapshot) : System :=
  { system with shared := { system.shared with health := health } }

def record (system : System) (worker : Nat) : WorkerRecord := (system.slots worker).record

/-- The local snapshot of the instance goes with its owner. -/
def dropSnapshot (system : System) (worker : Nat) : System :=
  { system with publication := { system.publication with
      locals := system.publication.locals.filter fun entry =>
        !entry.of worker (system.record worker).instanceId } }

def cancelledStartup : SupervisorStartupError := { code := .cancelled }

def cancelledActivation : SupervisorActivationError := { code := .cancelled }

def requestedStopResult : RunResult := { outcome := .requestedStop, errorCode := .none }

def startupFailureResult (error : SupervisorStartupError) : RunResult :=
  { outcome := .startupFailure
    errorCode := .none
    workerId := error.workerId
    instanceId := error.instanceId
    errorNumber := error.errorNumber
    startupError := some error }

/-- An exception leaves `run_impl`: `publish_abrupt_failure`, then the stops. -/
def thrown (system : System) : System :=
  system.goto (.publishing (some (.error {})) (some (.error {})) (.stop none none))

/-- `run_impl` gives up the startup. -/
def startupFailed (system : System) (error : SupervisorStartupError) : System :=
  system.goto (.publishing (some (.error error))
    (some (.error (if error.code = .cancelled then cancelledActivation
      else { workerId := error.workerId, instanceId := error.instanceId })))
    (.stop (some (if error.code = .cancelled then requestedStopResult
      else startupFailureResult error)) (some false)))

/-- `run_impl` gives up the activation. -/
def activationFails (system : System) (error : SupervisorActivationError) : System :=
  system.goto (.publishing none (some (.error error)) (.activationFailed error))

/-- `monitor_active_workers` returns. -/
def monitorReturned (system : System) (result : RunResult) : System :=
  system.goto (.stopping (some result)
    (if result.errorCode = .workerJoinFailed then none else some true))

/-- `publish_health`, with the call of the health reporter. -/
def publishHealth (system : System) : System :=
  let health := { system.shared.health with
    availableWorkers :=
      ((List.range system.config.workerCount).filter fun worker =>
        (system.record worker).available).length }
  { system with
    shared := { system.shared with health := health }
    log := .healthReported health :: system.log }

/-- `request_all_worker_stops`. -/
def requestAllWorkerStops (system : System) : System :=
  { system with slots := fun worker =>
      { system.slots worker with
        record := { system.record worker with instanceStop := true } } }

/-! ## Creation -/

/-- The `failure` of `create_worker`. -/
def createError (system : System) (worker : Nat)
    (code : Service.SupervisorStartupErrorCode) : SupervisorStartupError :=
  { code := code, workerId := worker, instanceId := (system.record worker).instanceId }

/-- A replacement could not be created or started. -/
def restartFailed (system : System) (worker : Nat) (error : SupervisorStartupError) : System :=
  if error.code = .cancelled then system.monitorReturned requestedStopResult
  else system.goto (.record worker (.beginFailure (creationFailure error)))

/-- `create_worker` returns. -/
def createReturned (system : System) (worker : Nat) (caller : Caller) (port : UInt16)
    (error : Option SupervisorStartupError) : System :=
  match caller, error with
  | .restart, error => system.goto (.record worker (.createHealth error))
  | .startup, some error => system.startupFailed error
  | .startup, none =>
    let port := if worker = 0 ∧ system.config.requestedPort = 0 then
      (((system.record worker).currentInstance.map (·.boundPort)).getD port) else port
    if worker + 1 < system.config.workerCount then
      system.goto (.record (worker + 1) (.create .startup port .admission))
    else system.goto (.record 0 (.start .startup false))

/-- A restart is counted before any check of the record. -/
def countRestart (system : System) (worker : Nat) : System :=
  if (system.record worker).recoveryEpisode then
    let health := { system.shared.health with
      restartCount := system.shared.health.restartCount + 1 }
    ((system.setRecord worker (system.record worker).countAttempt).setHealth health).note
      (.restarted worker)
  else system

/-- `create_worker`. -/
def stepCreate (system : System) (worker : Nat) (caller : Caller) (port : UInt16)
    (choice : Choice) : CreatePoint → System
  | .admission =>
    if system.shared.abruptExitRequested then system.thrown
    else if system.shared.stopRequestedLocked then
      system.createReturned worker caller port (some cancelledStartup)
    else
      let system := system.countRestart worker
      let record := system.record worker
      if record.instanceId = WorkerRecord.maximumInstanceId then
        system.createReturned worker caller port
          (some (system.createError worker .instanceIdExhausted))
      else if record.currentInstance.isSome ∨ record.currentThread then
        system.createReturned worker caller port (some (system.createError worker .internalError))
      else
        ((system.setRecord worker record.admission).note
          (.instanceCreated worker record.admission.instanceId)).goto
            (.record worker (.create caller port .register))
  | .register =>
    let instanceId := (system.record worker).instanceId
    let registered := (system.publication.publication.registerWorker worker instanceId).1.isSome
    let system := { system with publication := system.publication.register worker instanceId }
    if registered then
      (system.note (.registered worker instanceId)).goto
        (.record worker (.create caller port .build))
    else system.createReturned worker caller port (some (system.createError worker .internalError))
  | .build =>
    let instanceId := (system.record worker).instanceId
    match choice.build with
    | .error (errorNumber, createError) =>
      -- the owners of the registration have unwound
      (system.dropSnapshot worker).createReturned worker caller port
        (some { system.createError worker .workerCreateFailed with
          errorNumber := (createError.map (·.errorNumber)).getD errorNumber
          createError := createError })
    | .ok boundPort =>
      let loop : WorkerLoop := ⟨instanceId, worker, port, boundPort⟩
      (system.setSlot worker
        { system.slots worker with loops := loop :: (system.slots worker).loops }).goto
          (.record worker (.create caller port (.store loop)))
  | .store loop =>
    (system.setRecord worker
      { system.record worker with currentInstance := some loop, state := .starting }).createReturned
        worker caller port none

/-- `start_worker_thread` returns. -/
def startReturned (system : System) (worker : Nat) (caller : Caller)
    (error : Option SupervisorStartupError) : System :=
  match caller, error with
  | .restart, some error => system.restartFailed worker error
  | .restart, none => system.goto .monitorTop
  | .startup, some error => system.startupFailed error
  | .startup, none =>
    if worker + 1 < system.config.workerCount then
      system.goto (.record (worker + 1) (.start .startup false))
    else system.goto .readinessTop

/-- `start_worker_thread`. -/
def stepStart (system : System) (worker : Nat) (caller : Caller) (spawning : Bool)
    (choice : Choice) : System :=
  if spawning then
    let record := system.record worker
    let bound := { record with observer := record.instanceId }
    match choice.threadError with
    | some errorNumber =>
      (system.setRecord worker bound).startReturned worker caller
        (some { system.createError worker .workerThreadStartFailed with
          errorNumber := errorNumber })
    | none =>
      (system.setSlot worker
        { system.slots worker with
          record := { bound with currentThread := true }
          threads := ⟨record.instanceId, false⟩ :: (system.slots worker).threads }).startReturned
            worker caller none
  else if system.shared.abruptExitRequested then system.thrown
  else if system.shared.stopRequestedLocked then
    system.startReturned worker caller (some cancelledStartup)
  else system.goto (.record worker (.start caller true))

/-! ## Startup -/

/-- `mark_worker_registered` for the instance of the record. -/
def markRegistered (system : System) (worker : Nat) : Bool × System :=
  let marked := system.publication.publication.markWorkerRegistered worker
    (system.record worker).instanceId
  (marked.1, { system with publication := { system.publication with publication := marked.2 } })

/-- The pass of `await_worker_readiness` over one record, or its end. -/
def stepReadiness (system : System) (worker : Nat) : System :=
  let record := system.record worker
  let next := system.goto (.record (worker + 1) .readiness)
  if system.config.workerCount ≤ worker then
    if (List.range system.config.workerCount).all fun worker =>
        (system.record worker).state = .ready then
      system.goto (.publishing
        (some (.ok ⟨((system.record 0).currentInstance.map (·.boundPort)).getD 0,
          system.config.workerCount⟩)) none .awaitActivation)
    else system.goto .readinessTop
  else if record.state = .ready then next
  else if record.reported then
    if record.ready.result.outcome ≠ .ready then
      system.startupFailed { system.createError worker .workerInitFailed with
        errorNumber := (record.ready.result.error.map (·.errorNumber)).getD 0
        runtimeError := record.ready.result.error }
    else
      match next.markRegistered worker with
      | (false, next) => next
      | (true, next) => next.setRecord worker { record with state := .ready }
  else if record.completed then
    (system.setRecord worker
      { record with state := .exited, lastResult := some record.completion.result }).startupFailed
        { system.createError worker .workerExitedBeforeReady with
          errorNumber := (record.completion.result.error.map (·.errorNumber)).getD 0
          runtimeError := record.completion.result.error }
  else next

/-- The first pass of `await_activation_command_and_workers` over one record, or its
end. -/
def stepActivationExits (system : System) (worker : Nat) : System :=
  let record := system.record worker
  if system.config.workerCount ≤ worker then
    if system.shared.activationRequested then system.goto (.record 0 .activationMarks)
    else system.goto .activationTop
  else if record.completed then
    (system.setRecord worker
      { record with state := .exited, lastResult := some record.completion.result }).activationFails
        { code := .workerExitedBeforeActivation
          workerId := worker
          instanceId := record.instanceId
          workerResult := some record.completion.result }
  else system.goto (.record (worker + 1) .activationExits)

/-- The second pass of `await_activation_command_and_workers` over one record, or its
end. -/
def stepActivationMarks (system : System) (worker : Nat) : System :=
  let record := system.record worker
  let next := system.goto (.record (worker + 1) .activationMarks)
  if system.config.workerCount ≤ worker then
    if (List.range system.config.workerCount).all fun worker =>
        (system.record worker).state = .running then
      system.goto (.publishing none (some (.ok ())) .monitor)
    else system.goto .activationTop
  else if record.state = .running then next
  else if record.isActivated then next.setRecord worker { record with state := .running }
  else next

/-- What `run_impl` makes of a failed activation after it has published it. -/
def stepActivationFailed (system : System) (error : SupervisorActivationError) : System :=
  if system.shared.stopRequestedLocked ∨ error.code = .cancelled then
    system.goto (.stopping (some requestedStopResult) (some false))
  else
    let result := error.workerResult.getD
      { outcome := .fatalExit, error := some { step := .awaitActivation, errorNumber := 0 } }
    let code : SupervisorRunErrorCode :=
      if result.outcome = .requestedStop then .unexpectedWorkerStop else .workerFatalExit
    system.goto (.stopping (some {
      outcome := .fatalExit
      errorCode := code
      workerId := error.workerId
      instanceId := error.instanceId
      workerResult := some { result with outcome := .fatalExit } }) (some false))

/-! ## Monitoring -/

/-- The top of the loop of `monitor_active_workers`. -/
def stepMonitorTop (system : System) (choice : Choice) : System :=
  if system.shared.abruptExitRequested then system.thrown
  else if system.shared.stopRequestedLocked then system.monitorReturned requestedStopResult
  else if system.shared.snapshotPublicationPending then
    let system := { system with
      shared := { system.shared with snapshotPublicationPending := false } }
    match choice.refreshFailure with
    | some (worker, errorNumber) =>
      if worker < system.config.workerCount ∧ (system.record worker).currentInstance.isSome then
        system.monitorReturned {
          outcome := .fatalExit
          errorCode := .internalError
          workerId := worker
          instanceId := (system.record worker).instanceId
          errorNumber := errorNumber }
      else system.goto (.record 0 .monitor)
    | none => system.goto (.record 0 .monitor)
  else system.goto (.record 0 .monitor)

/-- The pass of `monitor_active_workers` over one record, up to the first point where
it lets go of the lock, or the end of the pass. -/
def stepMonitor (system : System) (worker : Nat) : System :=
  let record := system.record worker
  if system.config.workerCount ≤ worker then system.goto .monitorTop
  else
    match record.observedFailure worker with
    | some failure => system.goto (.record worker (.beginFailure failure))
    | none =>
      if record.state = .starting ∧ record.reported then
        system.goto (.record worker .readyPoint)
      else system.goto (.record worker .checkActivated)

/-- The pass over one record after its `Ready` was seen. -/
def stepReadyPoint (system : System) (worker : Nat) : System :=
  let record := system.record worker
  if system.shared.stopRequestedLocked then system.monitorReturned requestedStopResult
  else if record.completion.published then system.goto .monitorTop
  else
    match system.markRegistered worker with
    | (false, system) => system.goto (.record (worker + 1) .monitor)
    | (true, system) =>
      (system.setRecord worker { record with state := .ready, activationAllowed := true }).goto
        (.record worker .checkActivated)

/-- The pass over one record at the test for its activation. -/
def stepCheckActivated (system : System) (worker : Nat) : System :=
  let record := system.record worker
  if record.state = .ready ∧ record.isActivated then
    system.goto (.record worker .activatedPoint)
  else system.goto (.record worker .checkStable)

/-- The pass over one record after its activation was seen. -/
def stepActivatedPoint (system : System) (worker : Nat) (now : TimePoint) : System :=
  let record := system.record worker
  if system.shared.stopRequestedLocked then system.monitorReturned requestedStopResult
  else if record.completion.published then system.goto .monitorTop
  else
    let health := { system.shared.health with
      restartSuccessCount := system.shared.health.restartSuccessCount + 1 }
    (((system.setRecord worker (record.activate system.config.recovery now)).setHealth health).note
      (.becameRunning worker record.instanceId now)).goto (.record worker .runningPoint)

/-- The rest of the pass over one record: the stability of its episode and the
deadline of its restart. -/
def stepCheckStable (system : System) (worker : Nat) (now : TimePoint) : System :=
  let record := system.record worker
  if record.state = .running ∧ record.completion.published then system.goto .monitorTop
  else
    let system :=
      if record.isStable now then
        (system.setRecord worker (record.closeEpisode system.config.recovery)).note
          (.episodeEnded worker)
      else system
    if record.state ≠ .backoff ∨ now < record.restartAt then
      system.goto (.record (worker + 1) .monitor)
    else
      system.goto (.record worker
        (.create .restart system.shared.effectiveBoundPort .admission))

/-- The first locked body of `handle_worker_failure`. -/
def stepBeginFailure (system : System) (worker : Nat) (failure : WorkerFailure) : System :=
  let record := system.record worker
  let released := system.shared.dataPlaneReleased
  if system.shared.stopRequestedLocked then system.monitorReturned requestedStopResult
  else
    let health := { system.shared.health with
      restartFailureCount := system.shared.health.restartFailureCount +
        (if record.instanceId > 1 then 1 else 0)
      lastError := some failure }
    let system :=
      (system.setRecord worker (record.beginFailure system.config.recovery released)).setHealth health
    let system := if record.endedStable then system.note (.episodeEnded worker) else system
    let system :=
      if (record.endedStable || !record.recoveryEpisode) && released then
        system.note (.episodeBegan worker)
      else system
    system.goto (.record worker (.failureHealth failure))

/-- The second locked body of `handle_worker_failure`. -/
def stepDecide (system : System) (worker : Nat) (failure : WorkerFailure) (now : TimePoint) :
    System :=
  let record := (system.record worker).keepResult failure
  let system := system.setRecord worker record
  if system.shared.stopRequestedLocked then system.monitorReturned requestedStopResult
  else if record.restartable system.config.recovery system.shared.dataPlaneReleased failure then
    if record.recoveryAttempts < system.config.recovery.maxAttempts then
      ((system.setRecord worker (record.schedule system.config.recovery now)).note
        (.scheduled worker record.nextBackoff)).goto .monitorTop
    else system.goto (.record worker (.fail { failure with budgetExhausted := true }))
  else system.goto (.record worker (.fail failure))

/-- The locked body of `fail_worker_service`. -/
def stepFail (system : System) (worker : Nat) (failure : WorkerFailure) : System :=
  (system.setHealth { system.shared.health with lastError := some failure }).goto
    (.record worker (.report failure
      (system.shared.dataPlaneReleased && !system.shared.stopRequestedLocked)))

/-- The rest of `fail_worker_service`: the two reporters, and the result. -/
def stepReport (system : System) (failure : WorkerFailure) (reports : Bool) : System :=
  let system := system.publishHealth
  let system := if reports then system.note (.fatalReported failure) else system
  system.monitorReturned {
    outcome := .fatalExit
    errorCode :=
      if failure.code = .joinFailed then .workerJoinFailed
      else if failure.code = .unexpectedStop then .unexpectedWorkerStop
      else .workerFatalExit
    workerId := failure.workerId
    instanceId := failure.instanceId
    errorNumber := failure.errorNumber
    workerResult := some { outcome := .fatalExit, error := failure.runtimeError } }

/-! ## Joining -/

/-- The result of `run_impl` after `join_and_reset_all`. -/
def joinedResult (success checked : Bool) (result : Option RunResult) : Option RunResult :=
  if checked ∧ success = false ∧ result.any (fun result => result.outcome ≠ .fatalExit) then
    some { outcome := .fatalExit, errorCode := .internalError }
  else result

/-- `join_and_reset` returns. -/
def joinReturned (system : System) (worker : Nat) (success : Bool) : JoinCaller → System
  | .failure failure =>
    if success then system.goto (.record worker (.decide failure))
    else system.goto (.record worker (.fail { failure with code := .joinFailed }))
  | .all allJoined checked result =>
    if worker + 1 < system.config.workerCount then
      system.goto (.record (worker + 1)
        (.join (.all (success && allJoined) checked result) .request))
    else system.goto (.finishing (joinedResult (success && allJoined) checked result))
  | .emergency allJoined =>
    if worker + 1 < system.config.workerCount then
      system.goto (.record (worker + 1) (.join (.emergency (success && allJoined)) .request))
    else system.goto .finished

/-- A failed join. -/
def joinFails (system : System) (worker : Nat) (caller : JoinCaller) : System :=
  (system.note (.joinFailed worker (system.record worker).instanceId)).joinReturned worker false
    caller

/-- `join_and_reset`; `none` while the thread has not ended. -/
def stepJoin (system : System) (worker : Nat) (caller : JoinCaller) (choice : Choice) :
    JoinPoint → Option System
  | .request =>
    let system := system.setRecord worker { system.record worker with instanceStop := true }
    if choice.joinRefused then some (system.joinFails worker caller)
    else some ((system.setRecord worker (system.record worker).beginJoin).goto
      (.record worker (.join caller .join)))
  | .join =>
    if (system.record worker).currentThread then
      if choice.joinThrows then some (system.joinFails worker caller)
      else if (system.slots worker).threads.all (·.exited) then
        some ((system.setSlot worker
          { system.slots worker with
            record := { system.record worker with currentThread := false }
            threads := [] }).goto (.record worker (.join caller .record)))
      else none
    else some (system.goto (.record worker (.join caller .record)))
  | .record =>
    some ((system.setRecord worker (system.record worker).recordJoin).goto
      (.record worker (.join caller .reset)))
  | .reset =>
    let slot := { system.slots worker with
      record := { system.record worker with currentInstance := none }
      loops := (system.record worker).currentInstance.elim (system.slots worker).loops
        (system.slots worker).loops.erase }
    let system :=
      if (system.record worker).currentInstance.isSome then system.dropSnapshot worker else system
    some ((system.setSlot worker slot).goto (.record worker (.join caller .quiesce)))
  | .quiesce =>
    let publication := system.publication.publication.quiesceWorker worker
      (system.record worker).instanceId
    some { system with
      publication := { system.publication with publication := publication.publishProgress }
      pc := .record worker (.join caller .offline)
      log := .quiesced worker (system.record worker).instanceId :: system.log }
  | .offline =>
    some ((system.setRecord worker (system.record worker).goOffline).joinReturned worker true
      caller)

/-! ## The control thread -/

/-- The work on one record. -/
def stepRecord (system : System) (worker : Nat) (choice : Choice) : Point → Option System
  | .create caller port point => some (system.stepCreate worker caller port choice point)
  | .start caller spawning => some (system.stepStart worker caller spawning choice)
  | .readiness => some (system.stepReadiness worker)
  | .activationExits => some (system.stepActivationExits worker)
  | .activationMarks => some (system.stepActivationMarks worker)
  | .monitor => some (system.stepMonitor worker)
  | .readyPoint => some (system.stepReadyPoint worker)
  | .checkActivated => some (system.stepCheckActivated worker)
  | .activatedPoint => some (system.stepActivatedPoint worker choice.now)
  | .runningPoint => some (system.publishHealth.goto (.record worker .checkStable))
  | .checkStable => some (system.stepCheckStable worker choice.now)
  | .createHealth none =>
    some (system.publishHealth.goto (.record worker (.start .restart false)))
  | .createHealth (some error) => some (system.publishHealth.restartFailed worker error)
  | .beginFailure failure => some (system.stepBeginFailure worker failure)
  | .failureHealth failure =>
    some (system.publishHealth.goto (.record worker (.join (.failure failure) .request)))
  | .decide failure => some (system.stepDecide worker failure choice.now)
  | .fail failure => some (system.stepFail worker failure)
  | .report failure reports => some (system.stepReport failure reports)
  | .join caller point => system.stepJoin worker caller choice point

/-- One step of the control thread; `none` where it waits or has ended. -/
def stepControl (system : System) (choice : Choice) : Option System :=
  match system.pc with
  | .notStarted | .finished => none
  | .entered =>
    if system.shared.stopRequestedLocked then
      some (system.goto (.publishing (some (.error cancelledStartup))
        (some (.error cancelledActivation)) (.finish requestedStopResult)))
    else some (system.goto .checking)
  | .checking =>
    if system.shared.abruptExitRequested then some system.thrown
    else if system.config.workerCount = 0 ∨
        system.config.cacheShards.all (· < system.config.workerCount) ∨
        isValidRecoveryConfig system.config.recovery = false then
      let error : SupervisorStartupError := { code := .invalidConfiguration }
      some (system.goto (.publishing (some (.error error)) (some (.error {}))
        (.finish (startupFailureResult error))))
    else
      some (system.goto (.record 0 (.create .startup system.config.requestedPort .admission)))
  | .publishing (some result) activation next =>
    some { system with
      shared := { system.shared with
        startupResult := some (system.shared.startupResult.getD result) }
      pc := .publishing none activation next }
  | .publishing none (some result) next =>
    some { system with
      shared := { system.shared with
        activationResult := some (system.shared.activationResult.getD result) }
      pc := .publishing none none next }
  | .publishing none none next => some (system.goto next.pc)
  | .record worker point => system.stepRecord worker choice point
  | .readinessTop =>
    if system.shared.abruptExitRequested then some system.thrown
    else if system.shared.stopRequestedLocked then some (system.startupFailed cancelledStartup)
    else some (system.goto (.record 0 .readiness))
  | .activationTop =>
    if system.shared.abruptExitRequested then some system.thrown
    else if system.shared.stopRequestedLocked then
      some (system.activationFails cancelledActivation)
    else some (system.goto (.record 0 .activationExits))
  | .activationFailed error => some (system.stepActivationFailed error)
  | .monitorTop => some (system.stepMonitorTop choice)
  | .stopping result joins =>
    let system := system.requestAllWorkerStops
    match joins with
    | some checked => some (system.goto (.record 0 (.join (.all true checked result) .request)))
    | none => some (system.goto (.finishing result))
  | .finishing result =>
    some { system with
      shared := { system.shared with runActive := false }
      pc := .finished
      log := .runReturned result :: system.log }

/-! ## The worker threads -/

/-- The two gates: `allowed` is the gate's own flag and `denied` what else stops the
instance at it.  `none` while the worker waits. -/
def awaitGate (system : System) (worker instanceId : Nat) (allowed denied tokenStopped : Bool) :
    Option GateAction :=
  let record := system.record worker
  let current := instanceId = record.instanceId
  let stopped := system.shared.stopRequestedLocked || denied || record.instanceStop
  let needsRefresh := system.publication.publication.workerNeedsRefresh worker instanceId
  let ready := !current || allowed || stopped || needsRefresh
  if !ready && !tokenStopped then none
  else if !ready || !current || stopped then some .stop
  else if needsRefresh then some .refreshFilter
  else some (if allowed then .proceed else .stop)

def awaitWorkerActivation (system : System) (worker instanceId : Nat) (tokenStopped : Bool) :
    Option GateAction :=
  system.awaitGate worker instanceId (system.record worker).activationAllowed false tokenStopped

def awaitWorkerDataPlane (system : System) (worker instanceId : Nat) (tokenStopped : Bool) :
    Option GateAction :=
  system.awaitGate worker instanceId (system.record worker).dataPlaneAllowed
    system.shared.abruptExitRequested tokenStopped

/-- What a worker thread calls. -/
inductive Action where
  | reportReady (result : WorkerReadyResult)
  | awaitActivation (tokenStopped : Bool)
  | reportActivated
  | awaitDataPlane (tokenStopped : Bool)
  | reportCompletion (result : WorkerRunResult) (now : TimePoint)
  deriving DecidableEq, Repr

/-- A call for an instance; `none` while it waits. -/
def act (system : System) (worker instanceId : Nat) : Action → Option System
  | .reportReady result =>
    some (system.setRecord worker ((system.record worker).reportReady instanceId result))
  | .awaitActivation tokenStopped =>
    (system.awaitWorkerActivation worker instanceId tokenStopped).map fun action =>
      system.note (.gateReturned worker instanceId .activation action)
  | .reportActivated =>
    some (system.setRecord worker ((system.record worker).reportActivated instanceId))
  | .awaitDataPlane tokenStopped =>
    (system.awaitWorkerDataPlane worker instanceId tokenStopped).map fun action =>
      system.note (.gateReturned worker instanceId .dataPlane action)
  | .reportCompletion result now =>
    if system.clock ≤ now ∧ now ≤ timePointMax then
      some { system.setRecord worker
          ((system.record worker).reportCompletion instanceId result now) with
        clock := now }
    else none

/-- A step of the thread at `index` of the slot.  It calls through the observer, with
the instance the observer is bound to, and reports its completion itself, last. -/
def stepThread (system : System) (worker index : Nat) (action : Action) : Option System :=
  match (system.slots worker).threads[index]? with
  | none => none
  | some thread =>
    if thread.exited then none
    else
      match action with
      | .reportCompletion _ _ =>
        (system.act worker thread.instanceId action).map fun system =>
          system.setSlot worker { system.slots worker with
            threads := (system.slots worker).threads.set index { thread with exited := true } }
      | _ => system.act worker (system.record worker).observer action

/-- `refresh_worker_snapshot` by the thread at `index` of the slot. -/
def stepRefresh (system : System) (worker index : Nat) : Option System :=
  match (system.slots worker).threads[index]? with
  | none => none
  | some thread =>
    if thread.exited then none
    else some { system with
      publication := system.publication.refresh worker thread.instanceId }

/-! ## The other callers -/

def requestActivation (system : System) : System :=
  let startedUp := match system.shared.startupResult with
    | some (.ok _) => true
    | _ => false
  if system.shared.stopRequestedLocked ∨ system.shared.activationRequested ∨
      system.shared.activationResult.isSome ∨ system.shared.runActive = false ∨
      startedUp = false then system
  else
    { system with
      shared := { system.shared with activationRequested := true }
      slots := fun worker => { system.slots worker with
        record := { system.record worker with activationAllowed := true } } }

def releaseDataPlane (system : System) : Except SupervisorActivationError Unit × System :=
  let activated := match system.shared.activationResult with
    | some (.ok _) => true
    | _ => false
  if system.shared.stopRequestedLocked then (.error cancelledActivation, system)
  else if system.shared.abruptExitRequested then (.error {}, system)
  else
    match (List.range system.config.workerCount).find? fun worker =>
      (system.record worker).state ≠ .running ∨ (system.record worker).completed with
    | some worker =>
      let record := system.record worker
      (.error {
        code := .workerExitedBeforeActivation
        workerId := worker
        instanceId := record.instanceId
        workerResult := if record.completed then some record.completion.result
          else record.lastResult }, system)
    | none =>
      if system.shared.dataPlaneReleased ∨ system.shared.runActive = false ∨
          activated = false then (.error {}, system)
      else
        (.ok (), { system with
          shared := { system.shared with
            dataPlaneReleased := true
            effectiveBoundPort := match system.shared.startupResult with
              | some (.ok info) => info.boundPort
              | _ => system.config.requestedPort }
          slots := fun worker =>
            if worker < system.config.workerCount then
              { system.slots worker with
                record := { system.record worker with dataPlaneAllowed := true } }
            else system.slots worker })

def snapshotPublished (system : System) (generation : Nat) : System :=
  if generation ≤ system.shared.publishedGeneration then system
  else
    { system with shared := { system.shared with
        publishedGeneration := generation
        snapshotPublicationPending := true
        abruptExitAfterPublicationRequested := false
        abruptExitRequested := system.shared.abruptExitRequested ||
          system.shared.abruptExitAfterPublicationRequested } }

/-- The labels of the publication that its other users take: not the supervisor, and
not its workers. -/
def othersPublication : Publication.System.Label → Bool
  | .registerWorker _ _ | .markWorkerRegistered _ _ | .refreshWorkerSnapshot _ _
  | .dropLocalSnapshot _ _ | .quiesceWorker _ _ => false
  | _ => true

inductive Label where
  | run
  | control (choice : Choice)
  | thread (worker index : Nat) (action : Action)
  | refresh (worker index : Nat)
  | stale (worker instanceId : Nat) (action : Action)
  | requestActivation
  | releaseDataPlane
  | requestStop
  | stopWorker (worker : Nat)
  | serviceStop
  | snapshotPublished (generation : Nat)
  | injectAbruptExit
  | injectAbruptExitAfterPublication
  | emergencyJoinAll (refused : Bool)
  | publication (label : Publication.System.Label)
  deriving DecidableEq

/-- One step of the whole system; `none` where the party waits, or is not at that
point of its code. -/
def step (system : System) : Label → Option System
  | .run =>
    -- `run_started_` is set once, and so is the point
    if system.pc = .notStarted then
      some { system with shared := { system.shared with runActive := true }, pc := .entered }
    else some system
  | .control choice =>
    if system.clock ≤ choice.now ∧ choice.now ≤ timePointMax then
      ({ system with clock := choice.now } : System).stepControl choice
    else none
  | .thread worker index action => system.stepThread worker index action
  | .refresh worker index => system.stepRefresh worker index
  | .stale worker instanceId action =>
    if instanceId < (system.record worker).instanceId then system.act worker instanceId action
    else none
  | .requestActivation => some system.requestActivation
  | .releaseDataPlane => some system.releaseDataPlane.2
  | .requestStop => some { system with shared := { system.shared with stopRequested := true } }
  | .stopWorker worker =>
    if system.shared.stopRequestedLocked then
      some (system.setRecord worker { system.record worker with instanceStop := true })
    else none
  | .serviceStop => some { system with shared := { system.shared with serviceStop := true } }
  | .snapshotPublished generation => some (system.snapshotPublished generation)
  | .injectAbruptExit =>
    some { system with shared := { system.shared with abruptExitRequested := true } }
  | .injectAbruptExitAfterPublication =>
    some { system with
      shared := { system.shared with abruptExitAfterPublicationRequested := true } }
  | .emergencyJoinAll refused =>
    -- the caller has joined the control thread, so the call is enabled only when that
    -- thread has finished; the stops of all workers are requested in one step
    if system.pc = .finished then
      let system := ({ system with
        shared := { system.shared with stopRequested := true } } : System).requestAllWorkerStops
      if refused ∨ system.config.workerCount = 0 then some system
      else some (system.goto (.record 0 (.join (.emergency true) .request)))
    else none
  | .publication label =>
    if othersPublication label then
      (system.publication.step label).map fun publication =>
        { system with publication := publication }
    else none

/-- A new supervisor over a publication. -/
def new (config : Config) (publication : Publication.System) : System :=
  { config := config
    shared := { publishedGeneration := publication.publication.currentGeneration }
    publication := publication }

end System

end DnsPro.Supervisor
