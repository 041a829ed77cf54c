import DnsPro.Filter.DomainBlocklist
import DnsPro.Publication.System

/-!
# The filter update controller

The translation of `FilterUpdateController.cpp`: the validation of a rule set,
the queue of commands, and the bodies that run under the controller's mutex.
Each definition is one such body as a function of the controller's fields.  How
the bodies of several threads interleave is in `Update.System`.

A promise is named by the id of its command.
-/

namespace DnsPro.Update

open DnsPro.Protocol DnsPro.Publication
open DnsPro.Filter (BlocklistBuildError)

structure FilterUpdateLimits where
  maximumRuleCount : Nat := 100000
  maximumNormalizedRuleBytes : Nat := 16 * 1024 * 1024
  maximumQueuedRuleBytes : Nat := 64 * 1024 * 1024
  deriving DecidableEq, Repr

/-- The codes of `FilterUpdateErrorCode` that the controller itself produces. -/
inductive FilterUpdateErrorCode where
  | shuttingDown
  | buildFailed
  | generationExhausted
  | queueFull
  | ruleCountLimitExceeded
  | ruleBytesLimitExceeded
  | queueBytesLimitExceeded
  | internalError
  deriving DecidableEq, Repr

structure FilterUpdateError where
  code : FilterUpdateErrorCode
  buildError : Option BlocklistBuildError := none
  actual : Nat := 0
  limit : Nat := 0
  deriving DecidableEq, Repr

abbrev FilterUpdateResult := Except FilterUpdateError FilterVersion

inductive FilterSuccessorCompletionResult where
  | completed
  | reclaimerUnavailable
  | writerStillRunning
  | internalError
  deriving DecidableEq, Repr

/-! ## Validation of a rule set -/

structure FilterRuleMeasurement where
  rawBytes : Nat := 0
  normalizedBytes : Nat := 0
  deriving DecidableEq, Repr

/-- `saturated_add` on `size_t`. -/
def saturatedAdd (lhs rhs : Nat) : Nat := min (2 ^ 64 - 1) (lhs + rhs)

/-- The loop of `validate_filter_rule_set`. -/
def measureRules (limits : FilterUpdateLimits) :
    List Bytes → FilterRuleMeasurement → Except FilterUpdateError FilterRuleMeasurement
  | [], measured => .ok measured
  | rule :: rules, measured =>
    let limit := limits.maximumNormalizedRuleBytes
    if rule.length > limit - min measured.rawBytes limit then
      .error ⟨.ruleBytesLimitExceeded, none, saturatedAdd measured.rawBytes rule.length, limit⟩
    else
      let measured := { measured with rawBytes := measured.rawBytes + rule.length }
      match fromText rule with
      | .error _ => measureRules limits rules measured
      | .ok name =>
        let bytes := name.canonicalKey.length
        if bytes > limit - min measured.normalizedBytes limit then
          .error ⟨.ruleBytesLimitExceeded, none, saturatedAdd measured.normalizedBytes bytes, limit⟩
        else
          measureRules limits rules
            { measured with normalizedBytes := measured.normalizedBytes + bytes }

/-- `validate_filter_rule_set`. -/
def validateFilterRuleSet (rules : List Bytes) (limits : FilterUpdateLimits) :
    Except FilterUpdateError FilterRuleMeasurement :=
  if rules.length > limits.maximumRuleCount then
    .error ⟨.ruleCountLimitExceeded, none, rules.length, limits.maximumRuleCount⟩
  else measureRules limits rules {}

/-! ## Commands -/

inductive CommandPhase where
  | queued
  | building
  | publishing
  | committed
  | completed
  deriving DecidableEq, Repr

structure Command where
  id : Nat
  rules : List Bytes
  accountedBytes : Nat
  phase : CommandPhase := .queued
  target : Option FilterVersion := none
  published : Option FilterVersion := none
  deriving DecidableEq, Repr

/-- `kMaximumPendingUpdates`. -/
def maximumPendingUpdates : Nat := 64

structure FilterUpdateController where
  limits : FilterUpdateLimits
  pending : List Command := []
  inflight : Option Command := none
  queuedRuleBytes : Nat := 0
  buildStopRequested : Bool := false
  isSealed : Bool := false
  sealedAcknowledged : Bool := false
  terminalDetachRequested : Bool := false
  runnerActive : Bool := false
  failAfterCommit : Bool := false
  deriving DecidableEq, Repr

namespace FilterUpdateController

/-- The constructor; `none` where it throws. -/
def new (publication : FilterPublicationState) (limits : FilterUpdateLimits) :
    Option FilterUpdateController :=
  if publication.currentGeneration = 0 ∨ limits.maximumRuleCount = 0 ∨
      limits.maximumNormalizedRuleBytes = 0 ∨ limits.maximumQueuedRuleBytes = 0 then none
  else some { limits := limits }

/-- The locked body of `submit_replace`: the command joins the queue, or the
error that its promise is given. -/
def enqueue (controller : FilterUpdateController) (command : Command) (pushFails : Bool) :
    Except FilterUpdateError FilterUpdateController :=
  if controller.isSealed then .error { code := .shuttingDown }
  else if controller.pending.length ≥ maximumPendingUpdates then
    .error ⟨.queueFull, none, controller.pending.length + 1, maximumPendingUpdates⟩
  else if command.accountedBytes > controller.limits.maximumQueuedRuleBytes -
      min controller.queuedRuleBytes controller.limits.maximumQueuedRuleBytes then
    .error ⟨.queueBytesLimitExceeded, none,
      saturatedAdd controller.queuedRuleBytes command.accountedBytes,
      controller.limits.maximumQueuedRuleBytes⟩
  else if pushFails then .error { code := .internalError }
  else .ok { controller with
    pending := controller.pending ++ [command]
    queuedRuleBytes := controller.queuedRuleBytes + command.accountedBytes }

/-- What the locked body at the top of the runner's loop decides. -/
inductive Wakeup where
  | detach
  | take (command : Command)
  deriving DecidableEq, Repr

/-- The locked body at the top of the loop of `run`; `none` while it waits. -/
def takeCommand (controller : FilterUpdateController) :
    Option (Wakeup × FilterUpdateController) :=
  match controller.pending with
  | command :: pending =>
    let command := { command with phase := .building }
    some (.take command, { controller with
      inflight := some command
      pending := pending
      queuedRuleBytes := controller.queuedRuleBytes -
        min controller.queuedRuleBytes command.accountedBytes })
  | [] => if controller.terminalDetachRequested then some (.detach, controller) else none

/-- The locked body of `seal`: the commands it takes off the queue. -/
def sealQueue (controller : FilterUpdateController) : List Command × FilterUpdateController :=
  if !controller.isSealed then
    (controller.pending, { controller with
      isSealed := true
      pending := []
      queuedRuleBytes := 0
      sealedAcknowledged := true })
  else ([], { controller with sealedAcknowledged := true })

/-- The locked body of `cancel_pending`. -/
def cancelPending (controller : FilterUpdateController) :
    List Command × FilterUpdateController :=
  (controller.pending, { controller with pending := [], queuedRuleBytes := 0 })

/-- `reconcile_inflight_after_writer_exit`. -/
def reconcileInflight (controller : FilterUpdateController)
    (current : FilterVersion) : FilterUpdateController :=
  match controller.inflight with
  | none => controller
  | some command =>
    match command.phase, command.target with
    | .publishing, some target =>
      if current = target then
        { controller with
          inflight := some { command with phase := .committed, published := some target } }
      else
        { controller with inflight := some { command with phase := .building, target := none } }
    | _, _ => controller

/-- The last locked body of `finish_run`: the command that it completes with an
error, if any. -/
def finishRun (controller : FilterUpdateController) (current : FilterVersion) :
    Option Command × FilterUpdateController :=
  let controller := controller.reconcileInflight current
  match controller.inflight with
  | some command =>
    if command.phase ≠ .committed then
      (some command, { controller with inflight := none, runnerActive := false })
    else (none, { controller with runnerActive := false })
  | none => (none, { controller with runnerActive := false })

/-- What the first locked body of `complete_committed_by_successor` decides. -/
inductive SuccessorEntry where
  | returns (result : FilterSuccessorCompletionResult)
  | wait (published : FilterVersion)
  | take (command : Command)
  deriving DecidableEq, Repr

/-- The first locked body of `complete_committed_by_successor`. -/
def enterSuccessor (controller : FilterUpdateController) (current : FilterVersion) :
    SuccessorEntry × FilterUpdateController :=
  if controller.runnerActive then (.returns .writerStillRunning, controller)
  else
    let controller := controller.reconcileInflight current
    match controller.inflight with
    | none => (.returns .completed, controller)
    | some command =>
      match command.phase, command.published with
      | .committed, some published => (.wait published, controller)
      | _, _ => (.take { command with phase := .completed }, { controller with inflight := none })

/-- The second locked body of `complete_committed_by_successor`. -/
def takeCommitted (controller : FilterUpdateController) (published : FilterVersion) :
    SuccessorEntry × FilterUpdateController :=
  match controller.inflight with
  | none => (.returns .completed, controller)
  | some command =>
    if command.phase ≠ .committed ∨ command.published ≠ some published then
      (.returns .internalError, controller)
    else (.take { command with phase := .completed }, { controller with inflight := none })

/-- A store to a field of the command that is being applied. -/
def setInflight (controller : FilterUpdateController) (command : Command) :
    FilterUpdateController :=
  { controller with inflight := some command }

end FilterUpdateController

end DnsPro.Update
