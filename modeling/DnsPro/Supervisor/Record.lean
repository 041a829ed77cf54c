import DnsPro.Runtime.TimerQueue
import DnsPro.Service.Lifecycle

/-!
# The record of a worker

`WorkerRecord` of `WorkerSupervisor.h`, and the bodies of `WorkerSupervisor.cpp`
that are about one record: the admission of a new instance, the reports of a
worker thread, the gates, and the recovery budget.  Each definition is one
lock-protected body, or the part of one that touches the record.

Time points are in nanoseconds of the steady clock and durations are in
milliseconds.  The epoch of the record is kept by the publication, under the
record's worker id, and `last_stats_` is left out, which nothing reads.
-/

namespace DnsPro.Supervisor

open DnsPro.Runtime (TimePoint)
open DnsPro.Service (WorkerRunResult WorkerRuntimeError WorkerFailure WorkerFailureCode
  WorkerRecoveryConfig SupervisorStartupError SupervisorStartupErrorCode)

/-! ## Deadlines -/

/-- `Clock::time_point::max()`. -/
def timePointMax : TimePoint := 2 ^ 63 - 1

/-- `deadline_after`. -/
def deadlineAfter (now : TimePoint) (delay : Int) : TimePoint :=
  let remaining := (timePointMax - now).tdiv 1000000
  if delay ≥ remaining then timePointMax else now + delay * 1000000

def doubledBackoff (current maximum : Int) : Int :=
  if current ≥ maximum - current then maximum else current + current

/-! ## The record -/

inductive WorkerRecordState where
  | offline
  | creating
  | starting
  | ready
  | running
  | stopping
  | exited
  | joined
  | backoff
  deriving DecidableEq, Repr

inductive WorkerReadyOutcome where
  | ready
  | initError
  deriving DecidableEq, Repr

structure WorkerReadyResult where
  outcome : WorkerReadyOutcome := .initError
  error : Option WorkerRuntimeError := none
  deriving DecidableEq, Repr

structure ReadySlot where
  published : Bool := false
  instanceId : Nat := 0
  result : WorkerReadyResult := {}
  deriving DecidableEq, Repr

structure ActivationSlot where
  published : Bool := false
  instanceId : Nat := 0
  deriving DecidableEq, Repr

structure CompletionSlot where
  published : Bool := false
  instanceId : Nat := 0
  result : WorkerRunResult := {}
  completedAt : TimePoint := 0
  deriving DecidableEq, Repr

/-- A `WorkerLoop` object: the instance it was created for, the shard of the cache that
it uses, and its ports. -/
structure WorkerLoop where
  instanceId : Nat
  shard : Nat
  requestedPort : UInt16
  boundPort : UInt16
  deriving DecidableEq, Repr

structure WorkerRecord where
  state : WorkerRecordState := .offline
  instanceId : Nat := 0
  currentInstance : Option WorkerLoop := none
  /-- Whether `current_thread_` is joinable. -/
  currentThread : Bool := false
  /-- Whether a stop is requested of `instance_stop_source_`. -/
  instanceStop : Bool := false
  ready : ReadySlot := {}
  activated : ActivationSlot := {}
  completion : CompletionSlot := {}
  activationAllowed : Bool := false
  dataPlaneAllowed : Bool := false
  lastResult : Option WorkerRunResult := none
  recoveryEpisode : Bool := false
  recoveryAttempts : Nat := 0
  nextBackoff : Int := 0
  restartAt : TimePoint := 0
  stableAt : TimePoint := 0
  /-- The instance that `observer_` is bound to. -/
  observer : Nat := 0
  deriving DecidableEq, Repr

namespace WorkerRecord

variable (record : WorkerRecord)

/-- The instance of the record has completed. -/
def completed : Bool :=
  record.completion.published && record.completion.instanceId == record.instanceId

/-- The instance of the record has reported `Ready` or a failed initialization. -/
def reported : Bool := record.ready.published && record.ready.instanceId == record.instanceId

/-- The instance of the record has reported its activation. -/
def isActivated : Bool :=
  record.activated.published && record.activated.instanceId == record.instanceId

/-- The record counts as an available worker in `publish_health`. -/
def available : Bool :=
  record.state == .running && record.dataPlaneAllowed && !record.completed

/-! ## A new instance -/

/-- The greatest `uint64_t`. -/
def maximumInstanceId : Nat := 2 ^ 64 - 1

/-- The attempt that `create_worker` counts in an episode. -/
def countAttempt : WorkerRecord :=
  { record with recoveryAttempts := record.recoveryAttempts + 1 }

/-- The rest of the admission: the next instance, with fresh slots and closed gates. -/
def admission : WorkerRecord :=
  { record with
    instanceId := record.instanceId + 1
    state := .creating
    instanceStop := false
    ready := {}
    activated := {}
    completion := {}
    activationAllowed := false
    dataPlaneAllowed := false }

/-! ## Reports -/

/-- The locked body of `report_worker_ready`, without the fault hook. -/
def reportReady (instanceId : Nat) (result : WorkerReadyResult) : WorkerRecord :=
  if instanceId ≠ record.instanceId ∨ record.ready.published then record
  else { record with ready := ⟨true, instanceId, result⟩ }

/-- The locked body of `report_worker_activated`. -/
def reportActivated (instanceId : Nat) : WorkerRecord :=
  if instanceId ≠ record.instanceId ∨ record.activated.published then record
  else { record with activated := ⟨true, instanceId⟩ }

/-- The locked body of `report_worker_completion`. -/
def reportCompletion (instanceId : Nat) (result : WorkerRunResult) (now : TimePoint) :
    WorkerRecord :=
  if instanceId ≠ record.instanceId ∨ record.completion.published then record
  else { record with completion := ⟨true, instanceId, result, now⟩ }

/-! ## Failures -/

/-- What `monitor_active_workers` makes of a record whose instance has completed or
failed to initialize, while the instance is live. -/
def observedFailure (worker : Nat) : Option WorkerFailure :=
  let live := record.state == .starting || record.state == .ready || record.state == .running
  let completed := live && record.completed
  let initFailed := live && record.reported && record.ready.result.outcome != .ready
  if completed || initFailed then
    let failure : WorkerFailure := { workerId := worker, instanceId := record.instanceId }
    let failure :=
      if initFailed then
        { failure with code := .initFailed, runtimeError := record.ready.result.error }
      else if record.completion.result.outcome = .requestedStop then
        { failure with
          code := .unexpectedStop
          runtimeError := some { step := .unexpectedStop, errorNumber := 0 } }
      else
        { failure with code := .fatalExit, runtimeError := record.completion.result.error }
    some { failure with
      errorNumber := (failure.runtimeError.map (·.errorNumber)).getD 0 }
  else none

/-- The instance was stable before it completed. -/
def endedStable : Bool :=
  record.state == .running && record.recoveryEpisode &&
    decide (record.completion.completedAt ≥ record.stableAt)

/-- The recovery fields after the first locked body of `handle_worker_failure`. -/
def openEpisode (config : WorkerRecoveryConfig) (released : Bool) : WorkerRecord :=
  let record :=
    if record.endedStable then { record with recoveryEpisode := false, recoveryAttempts := 0 }
    else record
  if record.recoveryEpisode then record
  else { record with recoveryEpisode := released, nextBackoff := config.initialBackoff }

/-- The record after the first locked body of `handle_worker_failure`. -/
def beginFailure (config : WorkerRecoveryConfig) (released : Bool) : WorkerRecord :=
  { record.openEpisode config released with
    state := if record.completion.published then .exited else .stopping }

/-- `last_result_` after the second locked body of `handle_worker_failure`. -/
def keepResult (failure : WorkerFailure) : WorkerRecord :=
  if failure.code = .unexpectedStop ∨ failure.code = .fatalExit ∨ failure.code = .initFailed then
    { record with lastResult := some { outcome := .fatalExit, error := failure.runtimeError } }
  else record

/-- The record may be restarted after this failure. -/
def restartable (config : WorkerRecoveryConfig) (released : Bool) (failure : WorkerFailure) :
    Bool :=
  released && record.recoveryEpisode && config.policy == .restart &&
    failure.code != .instanceIdExhausted

/-- A restart is scheduled. -/
def schedule (config : WorkerRecoveryConfig) (now : TimePoint) : WorkerRecord :=
  { record with
    state := .backoff
    restartAt := deadlineAfter now record.nextBackoff
    nextBackoff := doubledBackoff record.nextBackoff config.maxBackoff }

/-- The instance has been stable for the whole window. -/
def isStable (now : TimePoint) : Bool :=
  record.state == .running && record.recoveryEpisode && decide (now ≥ record.stableAt)

/-- The episode is over. -/
def closeEpisode (config : WorkerRecoveryConfig) : WorkerRecord :=
  { record with
    recoveryEpisode := false
    recoveryAttempts := 0
    nextBackoff := config.initialBackoff }

/-- The instance becomes `Running`, with its data plane open. -/
def activate (config : WorkerRecoveryConfig) (now : TimePoint) : WorkerRecord :=
  { record with
    state := .running
    dataPlaneAllowed := true
    stableAt := deadlineAfter now config.stabilityWindow }

/-- The first locked body of `join_and_reset`. -/
def beginJoin : WorkerRecord :=
  if record.currentThread && record.state != .exited then { record with state := .stopping }
  else record

/-- The second locked body of `join_and_reset`. -/
def recordJoin : WorkerRecord :=
  { record with
    lastResult := if record.completed then some record.completion.result else record.lastResult
    state := .joined }

/-- The last locked body of `join_and_reset`. -/
def goOffline : WorkerRecord :=
  { record with state := .offline, activationAllowed := false, dataPlaneAllowed := false }

end WorkerRecord

/-- `creation_failure`. -/
def creationFailure (error : SupervisorStartupError) : WorkerFailure :=
  { code :=
      if error.code = .instanceIdExhausted then .instanceIdExhausted
      else if error.code = .workerThreadStartFailed then .threadStartFailed
      else .createFailed
    workerId := error.workerId
    instanceId := error.instanceId
    errorNumber := error.errorNumber
    createError := error.createError
    runtimeError := error.runtimeError }

end DnsPro.Supervisor
