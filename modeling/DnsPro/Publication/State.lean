import DnsPro.Lib.Transition

/-!
# The filter publication state

`FilterPublicationState` hands one immutable filter snapshot to many workers
and takes it back when no worker can read it any more.  This module is the
translation of `FilterPublication.cpp`: every definition below is one
lock-protected body of the class, as a function of the state.

A `shared_ptr<const FilterContext>` is a `FilterSnapshot`: the identity of the
object it owns together with the fields of the object that the publication
reads, so two pointers are equal when they own one object.  An epoch has the
address of the worker record that owns it, so it is named by the worker id.
-/

namespace DnsPro.Publication

/-- The greatest `uint64_t`. -/
def maximumGeneration : Nat := 2 ^ 64 - 1

/-- `kUnobservedFilterGeneration`. -/
def unobservedFilterGeneration : Nat := 0

/-- An owning pointer to a `FilterContext`. -/
structure FilterSnapshot where
  object : Nat
  generation : Nat
  ruleCount : Nat
  normalizedRuleBytes : Nat
  deriving DecidableEq, Repr

inductive WorkerRegistrationState where
  | unregistered
  | starting
  | registered
  deriving DecidableEq, Repr

structure WorkerEpoch where
  publishedInstanceId : Nat := 0
  observedGeneration : Nat := unobservedFilterGeneration
  registrationState : WorkerRegistrationState := .unregistered
  quiescedThroughInstanceId : Nat := 0
  deriving DecidableEq, Repr

structure FilterVersion where
  generation : Nat := 0
  ruleCount : Nat := 0
  deriving DecidableEq, Repr

/-- The version that a snapshot is published as. -/
def FilterSnapshot.version (snapshot : FilterSnapshot) : FilterVersion :=
  ⟨snapshot.generation, snapshot.ruleCount⟩

inductive FilterCommitError where
  | noRetirementCredit
  | publicationSealed
  | invalidCandidate
  | generationMismatch
  deriving DecidableEq, Repr

inductive FilterGenerationWaitResult where
  | converged
  | reclaimerUnavailable
  | internalError
  deriving DecidableEq, Repr

inductive SnapshotReclaimerExitCode where
  | requestedStop
  | gracePeriodStalled
  | fatalExit
  deriving DecidableEq, Repr

/-- `CohortMember`; its epoch is the one of `workerId`. -/
structure CohortMember where
  workerId : Nat
  instanceId : Nat
  deriving DecidableEq, Repr

structure RetirementRecord where
  owner : Option FilterSnapshot := none
  version : FilterVersion := {}
  publishedNormalizedRuleBytes : Nat := 0
  retiredBytes : Nat := 0
  cohort : List CohortMember := []
  committedAt : Nat := 0
  pending : Bool := false
  destroying : Bool := false
  terminal : Bool := false
  deriving DecidableEq, Repr

structure FilterPublicationState where
  maximumWorkers : Nat
  graceTimeout : Nat
  activeSnapshot : Option FilterSnapshot
  /-- Whether `registry_[worker]` holds the worker's epoch or is null. -/
  registry : Nat → Bool := fun _ => false
  epochs : Nat → WorkerEpoch := fun _ => {}
  currentGeneration : Nat
  currentRuleCount : Nat
  currentNormalizedRuleBytes : Nat
  publicationSealed : Bool := false
  retired : RetirementRecord := {}
  terminal : RetirementRecord := {}
  retirementCreditHeld : Bool := false
  retiredBytes : Nat := 0
  progressSequence : Nat := 0
  lastConvergedGeneration : Nat := 0
  lastReclaimedGeneration : Nat := 0
  reclaimerShutdownRequested : Bool := false
  reclaimerFailureRequested : Bool := false
  reclaimerFailureAfterCommitRequested : Bool := false
  reclaimerStarted : Bool := false
  reclaimerActive : Bool := false

namespace FilterPublicationState

/-- The constructor; `none` where it throws. -/
def new (initialSnapshot : Option FilterSnapshot) (maximumWorkers graceTimeout : Nat) :
    Option FilterPublicationState :=
  match initialSnapshot with
  | none => none
  | some snapshot =>
    if snapshot.generation = 0 ∨ graceTimeout = 0 then none
    else some {
      maximumWorkers := maximumWorkers
      graceTimeout := graceTimeout
      activeSnapshot := some snapshot
      currentGeneration := snapshot.generation
      currentRuleCount := snapshot.ruleCount
      currentNormalizedRuleBytes := snapshot.normalizedRuleBytes }

/-- Store to one field of the epoch of `worker`. -/
def setEpoch (state : FilterPublicationState) (worker : Nat) (epoch : WorkerEpoch) :
    FilterPublicationState :=
  { state with epochs := Function.update state.epochs worker epoch }

/-! ## Workers -/

/-- `register_worker`: the local snapshot and generation handed to the instance. -/
def registerWorker (state : FilterPublicationState) (workerId instanceId : Nat) :
    Option (FilterSnapshot × Nat) × FilterPublicationState :=
  if state.maximumWorkers ≤ workerId ∨ instanceId = 0 ∨ state.registry workerId ∨
      state.publicationSealed then (none, state)
  else
    match state.activeSnapshot with
    | none => (none, state)
    | some snapshot =>
      let epoch := { state.epochs workerId with
        observedGeneration := unobservedFilterGeneration
        registrationState := .starting
        publishedInstanceId := instanceId }
      (some (snapshot, state.currentGeneration),
        { state.setEpoch workerId epoch with
          registry := Function.update state.registry workerId true })

/-- `mark_worker_registered`. -/
def markWorkerRegistered (state : FilterPublicationState) (workerId instanceId : Nat) :
    Bool × FilterPublicationState :=
  let epoch := state.epochs workerId
  if state.maximumWorkers ≤ workerId ∨ state.registry workerId = false ∨
      epoch.publishedInstanceId ≠ instanceId ∨ epoch.registrationState ≠ .starting then
    (false, state)
  else if epoch.observedGeneration < state.currentGeneration then (false, state)
  else (true, state.setEpoch workerId { epoch with registrationState := .registered })

/-- The locked body of `quiesce_worker`. -/
def quiesceWorker (state : FilterPublicationState) (workerId instanceId : Nat) :
    FilterPublicationState :=
  let epoch := state.epochs workerId
  if workerId < state.maximumWorkers ∧ state.registry workerId ∧
      epoch.publishedInstanceId = instanceId then
    { state.setEpoch workerId { epoch with
        quiescedThroughInstanceId := instanceId
        registrationState := .unregistered } with
      registry := Function.update state.registry workerId false }
  else state

/-- What `refresh_worker_snapshot` returns, and whether it published an ack. -/
structure Refresh where
  ok : Bool
  localSnapshot : Option FilterSnapshot
  advanced : Bool
  state : FilterPublicationState

/-- The locked body of `refresh_worker_snapshot`. -/
def refreshWorkerSnapshot (state : FilterPublicationState)
    (localSnapshot : Option FilterSnapshot) (workerId instanceId : Nat) : Refresh :=
  let epoch := state.epochs workerId
  if epoch.publishedInstanceId ≠ instanceId ∨ epoch.registrationState = .unregistered then
    ⟨false, localSnapshot, false, state⟩
  else
    match state.activeSnapshot, localSnapshot with
    | some next, some held =>
      if held.generation > next.generation ∨ epoch.observedGeneration > held.generation then
        ⟨false, localSnapshot, false, state⟩
      else
        let held := if held ≠ next then next else held
        if epoch.observedGeneration < held.generation then
          ⟨true, some held, true,
            state.setEpoch workerId { epoch with observedGeneration := held.generation }⟩
        else ⟨true, some held, false, state⟩
    | _, _ => ⟨false, localSnapshot, false, state⟩

/-- `publish_progress`, which ends `quiesce_worker` and an advancing refresh. -/
def publishProgress (state : FilterPublicationState) : FilterPublicationState :=
  { state with progressSequence := (state.progressSequence + 1) % 2 ^ 64 }

/-- `worker_needs_refresh`. -/
def workerNeedsRefresh (state : FilterPublicationState) (workerId instanceId : Nat) : Bool :=
  (state.epochs workerId).publishedInstanceId = instanceId ∧
    (state.epochs workerId).observedGeneration < state.currentGeneration

/-! ## The publisher -/

/-- `acquire_retirement_credit`, when it returns; `none` while it waits. -/
def acquireRetirementCredit (state : FilterPublicationState) (stopRequested : Bool) :
    Option (Bool × FilterPublicationState) :=
  let ready := !state.retirementCreditHeld || state.publicationSealed
  if !ready && !stopRequested then none
  else if !ready || state.publicationSealed || stopRequested then some (false, state)
  else some (true, { state with retirementCreditHeld := true })

/-- `release_uncommitted_credit`. -/
def releaseUncommittedCredit (state : FilterPublicationState) : FilterPublicationState :=
  if !state.retired.pending then { state with retirementCreditHeld := false } else state

/-- The cohort that `commit` and `detach_terminal_snapshot` freeze. -/
def frozenCohort (state : FilterPublicationState) : List CohortMember :=
  (List.range state.maximumWorkers).filterMap fun worker =>
    let epoch := state.epochs worker
    if state.registry worker ∧ epoch.publishedInstanceId ≠ 0 ∧
        (epoch.registrationState = .starting ∨ epoch.registrationState = .registered) then
      some ⟨worker, epoch.publishedInstanceId⟩
    else none

/-- `commit`. -/
def commit (state : FilterPublicationState) (candidate : Option FilterSnapshot) (now : Nat) :
    Except FilterCommitError FilterVersion × FilterPublicationState :=
  if state.retirementCreditHeld = false ∨ state.retired.pending then
    (.error .noRetirementCredit, state)
  else if state.publicationSealed then (.error .publicationSealed, state)
  else
    match candidate with
    | none => (.error .invalidCandidate, state)
    | some candidate =>
      if candidate.generation = 0 then (.error .invalidCandidate, state)
      else if state.currentGeneration = maximumGeneration ∨
          candidate.generation ≠ state.currentGeneration + 1 then
        (.error .generationMismatch, state)
      else
        (.ok candidate.version,
          { state with
            retired := {
              owner := state.activeSnapshot
              version := candidate.version
              publishedNormalizedRuleBytes := candidate.normalizedRuleBytes
              retiredBytes := state.currentNormalizedRuleBytes
              cohort := state.frozenCohort
              committedAt := now
              pending := true
              destroying := false
              terminal := false }
            activeSnapshot := some candidate
            retiredBytes := state.currentNormalizedRuleBytes
            currentGeneration := candidate.generation
            currentRuleCount := candidate.ruleCount
            currentNormalizedRuleBytes := candidate.normalizedRuleBytes })

/-- The test of `wait_until_converged`, when it returns; `none` while it waits. -/
def waitUntilConverged (state : FilterPublicationState) (generation : Nat) :
    Option FilterGenerationWaitResult :=
  if state.lastConvergedGeneration ≥ generation then some .converged
  else if state.reclaimerStarted && !state.reclaimerActive then some .reclaimerUnavailable
  else none

/-- `current_version`. -/
def currentVersion (state : FilterPublicationState) : FilterVersion :=
  ⟨state.currentGeneration, state.currentRuleCount⟩

/-- `seal_publication`. -/
def sealPublication (state : FilterPublicationState) : FilterPublicationState :=
  { state with publicationSealed := true }

/-- `detach_terminal_snapshot`; it returns true on every path. -/
def detachTerminalSnapshot (state : FilterPublicationState) (now : Nat) :
    FilterPublicationState :=
  if state.terminal.pending then state
  else
    match state.activeSnapshot with
    | none => state
    | some active =>
      { state with
        terminal := {
          owner := some active
          version := active.version
          publishedNormalizedRuleBytes := active.normalizedRuleBytes
          retiredBytes := active.normalizedRuleBytes
          cohort := state.frozenCohort
          committedAt := now
          pending := true
          destroying := false
          terminal := true }
        activeSnapshot := none
        retiredBytes := min (2 ^ 64 - 1) (state.retiredBytes + active.normalizedRuleBytes) }

/-! ## The reclaimer -/

/-- `member_complete`. -/
def memberComplete (state : FilterPublicationState) (member : CohortMember) (generation : Nat)
    (terminal : Bool) : Bool :=
  let epoch := state.epochs member.workerId
  if epoch.quiescedThroughInstanceId ≥ member.instanceId then true
  else if terminal then false
  else epoch.publishedInstanceId = member.instanceId ∧ epoch.observedGeneration ≥ generation

/-- `cohort_complete`. -/
def cohortComplete (state : FilterPublicationState) (record : RetirementRecord) : Bool :=
  record.cohort.all fun member =>
    state.memberComplete member record.version.generation record.terminal

/-- Which of the two records. -/
inductive RecordName where
  | retired
  | terminal
  deriving DecidableEq, Repr

def record (state : FilterPublicationState) : RecordName → RetirementRecord
  | .retired => state.retired
  | .terminal => state.terminal

def setRecord (state : FilterPublicationState) (name : RecordName) (record : RetirementRecord) :
    FilterPublicationState :=
  match name with
  | .retired => { state with retired := record }
  | .terminal => { state with terminal := record }

/-- `next_pending_record_locked`. -/
def nextPendingRecord (state : FilterPublicationState) : Option RecordName :=
  if state.retired.pending then some .retired
  else if state.terminal.pending then some .terminal
  else none

/-- What one iteration of `run_reclaimer` does when it lets go of the lock. -/
inductive Iteration where
  | exit (code : SnapshotReclaimerExitCode)
  | destroy (name : RecordName) (soleOwner : Option FilterSnapshot) (generation retiredBytes : Nat)
  | wait
  deriving DecidableEq, Repr

/-- One iteration of `run_reclaimer` up to the point where it releases the
lock: to leave the loop, to destroy a snapshot, or to wait. -/
def reclaimerIteration (state : FilterPublicationState) (useCount : FilterSnapshot → Nat)
    (now : Nat) (stopRequested : Bool) : Iteration × FilterPublicationState :=
  if state.reclaimerFailureRequested then (.exit .fatalExit, state)
  else if state.reclaimerFailureAfterCommitRequested ∧ state.retired.pending then
    (.exit .fatalExit, { state with reclaimerFailureAfterCommitRequested := false })
  else
    match state.nextPendingRecord with
    | some name =>
      let record := state.record name
      if state.cohortComplete record then
        -- an owner outside the protocol would move the destruction elsewhere
        if record.owner.any (fun owner => useCount owner ≠ 1) then (.exit .fatalExit, state)
        else
          let generation := record.version.generation
          let state := if name = .retired then
            { state with lastConvergedGeneration := max state.lastConvergedGeneration generation }
            else state
          (.destroy name record.owner generation record.retiredBytes,
            state.setRecord name { record with destroying := true, owner := none })
      else if now ≥ record.committedAt + state.graceTimeout then
        (.exit .gracePeriodStalled, state)
      else (.wait, state)
    | none =>
      if state.reclaimerShutdownRequested ∨ stopRequested then (.exit .requestedStop, state)
      else (.wait, state)

/-- The record after its owner is gone.  `committed_at` is not cleared. -/
def clearedRecord (record : RetirementRecord) : RetirementRecord :=
  { committedAt := record.committedAt, owner := record.owner }

/-- The rest of the iteration, after the destruction, with the lock again. -/
def finishDestroy (state : FilterPublicationState) (name : RecordName)
    (generation retiredBytes : Nat) : FilterPublicationState :=
  let cleared := { state with
    retiredBytes := state.retiredBytes - min state.retiredBytes retiredBytes }.setRecord name
      (clearedRecord (state.record name))
  if name = .retired then
    { cleared with
      retirementCreditHeld := false
      lastReclaimedGeneration := max state.lastReclaimedGeneration generation }
  else cleared

/-- The entry of `run_reclaimer`; `none` where another one is running. -/
def startReclaimer (state : FilterPublicationState) : Option FilterPublicationState :=
  if state.reclaimerActive then none
  else some { state with reclaimerStarted := true, reclaimerActive := true }

/-- The epilogue of `run_reclaimer`. -/
def exitReclaimer (state : FilterPublicationState) : FilterPublicationState :=
  { state with reclaimerActive := false }

/-- `reclaim_record`. -/
def reclaimRecord (state : FilterPublicationState) (name : RecordName) (returnsCredit : Bool) :
    FilterPublicationState :=
  let record := state.record name
  let generation := record.version.generation
  let cleared := { state with
    retiredBytes := state.retiredBytes - min state.retiredBytes record.retiredBytes }.setRecord name
      (clearedRecord { record with owner := none })
  if returnsCredit then
    { cleared with
      retirementCreditHeld := false
      lastConvergedGeneration := max state.lastConvergedGeneration generation
      lastReclaimedGeneration := max state.lastReclaimedGeneration generation }
  else cleared

/-- `reclaim_converged_locked`. -/
def reclaimConvergedLocked (state : FilterPublicationState) (useCount : FilterSnapshot → Nat) :
    Bool × FilterPublicationState :=
  if state.retired.pending ∧ state.cohortComplete state.retired = false then (false, state)
  else if state.terminal.pending ∧ state.cohortComplete state.terminal = false then (false, state)
  else if state.retired.owner.any (fun owner => useCount owner ≠ 1) ∨
      state.terminal.owner.any (fun owner => useCount owner ≠ 1) then (false, state)
  else
    let state := if state.retired.pending then state.reclaimRecord .retired true else state
    let state := if state.terminal.pending then state.reclaimRecord .terminal false else state
    (true, state)

/-- `emergency_reclaim_converged`. -/
def emergencyReclaimConverged (state : FilterPublicationState)
    (useCount : FilterSnapshot → Nat) : Bool × FilterPublicationState :=
  if state.reclaimerActive ∨ state.publicationSealed = false then (false, state)
  else state.reclaimConvergedLocked useCount

end FilterPublicationState

end DnsPro.Publication
