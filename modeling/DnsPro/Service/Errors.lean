import DnsPro.Publication.State

/-!
# The errors of the service

The error and result types of `DNS.h`, of the supervisor and of a worker as far
as the service reads them, and the functions of `DNS.cpp` that map a failure
below the service to an error of the service.

A `shared_ptr<const FilterGraceDiagnostic>` is the value it points to.
-/

namespace DnsPro.Service

open DnsPro.Publication (SnapshotReclaimerExitCode)

/-- `kInvalidWorkerId`, the greatest `size_t`. -/
def kInvalidWorkerId : Nat := 2 ^ 64 - 1

/-! ## Failures of a worker and of the supervisor -/

inductive WorkerInitStep where
  | createSocket
  | configureSocket
  | bindSocket
  | readBoundAddress
  | createEpoll
  | createWakeEvent
  | createGenerationEvent
  | validateUpstream
  | createUpstreamSocket
  | connectUpstream
  | registerListener
  | registerWakeEvent
  | registerGenerationEvent
  | registerUpstream
  deriving DecidableEq, Repr

structure WorkerInitError where
  step : WorkerInitStep
  errorNumber : Int := 0
  deriving DecidableEq, Repr

inductive WorkerRuntimeStep where
  | startScheduler
  | startTimerQueue
  | startUpstreamChannel
  | awaitActivation
  | synchronizeFilter
  | waitForEvents
  | runtimeInvariant
  | unhandledException
  | shutdown
  | unexpectedStop
  deriving DecidableEq, Repr

structure WorkerRuntimeError where
  step : WorkerRuntimeStep := .unhandledException
  errorNumber : Int := 0
  deriving DecidableEq, Repr

inductive WorkerRunOutcome where
  | requestedStop
  | fatalExit
  deriving DecidableEq, Repr

structure WorkerRunResult where
  outcome : WorkerRunOutcome := .fatalExit
  error : Option WorkerRuntimeError := none
  deriving DecidableEq, Repr

inductive WorkerFailureCode where
  | unexpectedStop
  | fatalExit
  | createFailed
  | threadStartFailed
  | initFailed
  | instanceIdExhausted
  | joinFailed
  deriving DecidableEq, Repr

structure WorkerFailure where
  code : WorkerFailureCode := .fatalExit
  workerId : Nat := kInvalidWorkerId
  instanceId : Nat := 0
  errorNumber : Int := 0
  createError : Option WorkerInitError := none
  runtimeError : Option WorkerRuntimeError := none
  budgetExhausted : Bool := false
  deriving DecidableEq, Repr

inductive SupervisorStartupErrorCode where
  | cancelled
  | invalidConfiguration
  | instanceIdExhausted
  | workerCreateFailed
  | workerThreadStartFailed
  | workerInitFailed
  | workerExitedBeforeReady
  | internalError
  deriving DecidableEq, Repr

structure SupervisorStartupError where
  code : SupervisorStartupErrorCode := .internalError
  workerId : Nat := kInvalidWorkerId
  instanceId : Nat := 0
  errorNumber : Int := 0
  createError : Option WorkerInitError := none
  runtimeError : Option WorkerRuntimeError := none
  deriving DecidableEq, Repr

structure SupervisorStartupInfo where
  boundPort : UInt16 := 0
  workerCount : Nat := 0
  deriving DecidableEq, Repr

inductive SupervisorActivationErrorCode where
  | cancelled
  | workerExitedBeforeActivation
  | internalError
  deriving DecidableEq, Repr

structure SupervisorActivationError where
  code : SupervisorActivationErrorCode := .internalError
  workerId : Nat := kInvalidWorkerId
  instanceId : Nat := 0
  workerResult : Option WorkerRunResult := none
  deriving DecidableEq, Repr

/-- The fields of `SupervisorRunResult` that `supervisor_main` reads. -/
structure SupervisorRunResult where
  workerId : Nat := kInvalidWorkerId
  instanceId : Nat := 0
  errorNumber : Int := 0
  startupError : Option SupervisorStartupError := none
  workerResult : Option WorkerRunResult := none
  deriving DecidableEq, Repr

structure SupervisorHealthSnapshot where
  availableWorkers : Nat := 0
  restartCount : Nat := 0
  restartSuccessCount : Nat := 0
  restartFailureCount : Nat := 0
  lastError : Option WorkerFailure := none
  deriving DecidableEq, Repr

/-! ## Failures of the reclaimer -/

structure PendingFilterParticipant where
  workerId : Nat := 0
  instanceId : Nat := 0
  observedGeneration : Nat := 0
  deriving DecidableEq, Repr

structure FilterGraceDiagnostic where
  targetGeneration : Nat := 0
  retiredBytes : Nat := 0
  waited : Int := 0
  pending : List PendingFilterParticipant := []
  deriving DecidableEq, Repr

structure SnapshotReclaimerResult where
  code : SnapshotReclaimerExitCode := .requestedStop
  diagnostic : Option FilterGraceDiagnostic := none
  deriving DecidableEq, Repr

/-! ## Errors of the service -/

inductive DNSControlRole where
  | none
  | filterUpdateCoordinator
  | snapshotReclaimer
  | workerSupervisor
  | worker
  deriving DecidableEq, Repr

inductive DNSStartErrorCode where
  | invalidLifecycleState
  | cancelled
  | coordinatorThreadCreationFailed
  | coordinatorInitFailed
  | reclaimerThreadCreationFailed
  | reclaimerInitFailed
  | supervisorThreadCreationFailed
  | supervisorInitFailed
  | workerCreateFailed
  | workerRuntimeInitFailed
  | workerThreadCreationFailed
  | internalError
  deriving DecidableEq, Repr

structure DNSStartError where
  code : DNSStartErrorCode := .internalError
  role : DNSControlRole := .none
  workerId : Nat := kInvalidWorkerId
  instanceId : Nat := 0
  workerCreateError : Option WorkerInitError := none
  workerRuntimeError : Option WorkerRuntimeError := none
  errorNumber : Int := 0
  deriving DecidableEq, Repr

structure DNSStartInfo where
  effectiveBoundPort : UInt16 := 0
  workerCount : Nat := 0
  startupAttemptId : UInt64 := 0
  deriving DecidableEq, Repr

abbrev DNSStartResult := Except DNSStartError DNSStartInfo

inductive DNSServiceExitCode where
  | notStarted
  | explicitStop
  | startupFailure
  | fatal
  | teardownIncomplete
  deriving DecidableEq, Repr

inductive DNSFatalCode where
  | none
  | coordinatorExited
  | reclaimerExited
  | gracePeriodStalled
  | supervisorExited
  | workerExited
  | unexpectedWorkerStop
  | restartBudgetExhausted
  | workerJoinFailed
  | internalError
  deriving DecidableEq, Repr

structure DNSFatalError where
  code : DNSFatalCode := .none
  role : DNSControlRole := .none
  workerId : Nat := kInvalidWorkerId
  instanceId : Nat := 0
  workerError : Option WorkerRuntimeError := none
  workerCreateError : Option WorkerInitError := none
  workerFailureCode : Option WorkerFailureCode := none
  errorNumber : Int := 0
  graceDiagnostic : Option FilterGraceDiagnostic := none
  deriving DecidableEq, Repr

structure DNSServiceExitResult where
  code : DNSServiceExitCode := .notStarted
  startupError : Option DNSStartError := none
  fatalError : Option DNSFatalError := none
  deriving DecidableEq, Repr

def makeStartError (code : DNSStartErrorCode) (role : DNSControlRole) (errorNumber : Int) :
    DNSStartError :=
  { code := code, role := role, errorNumber := errorNumber }

def cancelledStartError : DNSStartError := makeStartError .cancelled .none 0

/-- `map_supervisor_start_error`. -/
def mapSupervisorStartError (error : SupervisorStartupError) : DNSStartError :=
  let mapped : DNSStartError :=
    { role := .worker
      workerId := error.workerId
      instanceId := error.instanceId
      workerCreateError := error.createError
      workerRuntimeError := error.runtimeError
      errorNumber := error.errorNumber }
  match error.code with
  | .cancelled => { mapped with code := .cancelled }
  | .workerCreateFailed => { mapped with code := .workerCreateFailed }
  | .workerThreadStartFailed => { mapped with code := .workerThreadCreationFailed }
  | .workerInitFailed | .workerExitedBeforeReady =>
    { mapped with code := .workerRuntimeInitFailed }
  | .invalidConfiguration | .instanceIdExhausted | .internalError =>
    { mapped with code := .supervisorInitFailed, role := .workerSupervisor }

/-- `map_supervisor_activation_error`. -/
def mapSupervisorActivationError (error : SupervisorActivationError) : DNSStartError :=
  if error.code = .cancelled then makeStartError .cancelled .none 0
  else if error.workerId = kInvalidWorkerId then
    makeStartError .supervisorInitFailed .workerSupervisor 0
  else
    let mapped : DNSStartError :=
      { makeStartError .workerRuntimeInitFailed .worker 0 with
        workerId := error.workerId, instanceId := error.instanceId }
    match error.workerResult with
    | none => mapped
    | some result =>
      { mapped with
        workerRuntimeError := result.error
        errorNumber := (result.error.map (·.errorNumber)).getD mapped.errorNumber }

def makeRoleFatal (code : DNSFatalCode) (role : DNSControlRole) : DNSFatalError :=
  { code := code, role := role }

/-- `map_worker_failure`. -/
def mapWorkerFailure (failure : WorkerFailure) : DNSFatalError :=
  { code :=
      if failure.budgetExhausted then .restartBudgetExhausted
      else if failure.code = .joinFailed then .workerJoinFailed
      else if failure.code = .unexpectedStop then .unexpectedWorkerStop
      else .workerExited
    role := .worker
    workerId := failure.workerId
    instanceId := failure.instanceId
    workerError := failure.runtimeError
    workerCreateError := failure.createError
    workerFailureCode := some failure.code
    errorNumber := failure.errorNumber }

end DnsPro.Service
