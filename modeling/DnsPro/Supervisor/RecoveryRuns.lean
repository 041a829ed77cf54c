import DnsPro.Supervisor.Failures

/-!
# Recovery, over every run

`RecoveryInv` collects the budget, the backoff, the deadlines and the failures of
all the records.  `decides` is the one step where the supervisor chooses between a
restart and the end of the service.
-/

namespace DnsPro.Supervisor

open DnsPro.Runtime (TimePoint)
open DnsPro.Service (WorkerRunResult WorkerFailure WorkerRecoveryConfig isValidRecoveryConfig)

variable {config : WorkerRecoveryConfig} {worker : Nat} {view : View} {now : TimePoint}

theorem Budget.at (h : Budget config view) (hnow : view.clock ≤ now) :
    Budget config (view.at now) where
  attempts := h.attempts
  free := h.free
  released := h.released
  waiting := h.waiting
  startup := h.startup
  first := h.first
  due port hplace := ⟨(h.due port hplace).1, (h.due port hplace).2.trans hnow⟩

theorem Paced.at (h : Paced config worker view) (now : TimePoint) :
    Paced config worker (view.at now) :=
  ⟨h.bounded, h.next, h.restarts, h.history, h.running⟩

theorem Timed.at (h : Timed view) (hnow : System.Later view.clock now) : Timed (view.at now) := by
  obtain ⟨hlater, rfl | hmaximum⟩ := hnow
  · exact ⟨h.start, h.clock, h.restartAt, h.stableAt⟩
  · exact ⟨h.start.trans hlater, hmaximum, h.restartAt, h.stableAt⟩

theorem Failing.at (h : Failing config view) (now : TimePoint) : Failing config (view.at now) :=
  ⟨h.outcome, h.readyPoint, h.halted, h.begun, h.handled, h.failed⟩

namespace System

variable {config : Config} {publication : Publication.System} {system next : System}
  {label : Label} {labels : List Label} {worker : Nat}

/-- The recovery of every record. -/
structure RecoveryInv (config : Config) (system : System) : Prop where
  inv : Inv config system
  budget : ∀ worker < config.workerCount, Budget config.recovery (system.view worker)
  paced : ∀ worker < config.workerCount, Paced config.recovery worker (system.view worker)
  timed : ∀ worker < config.workerCount, Timed (system.view worker)
  failing : ∀ worker < config.workerCount, Failing config.recovery (system.view worker)

theorem RecoveryInv.step (h : RecoveryInv config system) (hrestarts : Restarts config.recovery)
    (hstep : system.step label = some next) : RecoveryInv config next := by
  refine ⟨h.inv.step hstep, fun worker hworker => ?_, fun worker hworker => ?_,
    fun worker hworker => ?_, fun worker hworker => ?_⟩
  all_goals
    obtain ⟨now, hnow, hmove⟩ := h.inv.move hstep hworker
    have hsound := (h.inv.sound worker hworker).at now
    have hbudget := (h.budget worker hworker).at hnow.1
    have hrecovers := hmove.recovers hsound
  · exact hbudget.step hrecovers hsound
  · exact ((h.paced worker hworker).at now).step hrestarts hbudget hrecovers
  · exact ((h.timed worker hworker).at hnow).step hrecovers
  · exact hmove.failing hsound hbudget hrestarts.policy ((h.failing worker hworker).at now)

theorem RecoveryInv.start (hunused : Unused publication) (hrestarts : Restarts config.recovery) :
    RecoveryInv config (new config publication) := by
  refine ⟨Inv.start hunused, fun worker _ => ?_, fun worker _ => ?_, fun worker _ => ?_,
    fun worker _ => ?_⟩
  · exact ⟨Nat.zero_le _, fun _ => rfl, fun hno => (by cases hno), fun hno => (by cases hno),
      fun _ => rfl, fun _ hno => (by cases hno), fun _ hno => (by cases hno)⟩
  · exact ⟨⟨le_rfl, hrestarts.initial.trans hrestarts.maximum⟩, fun hno => (by cases hno),
      fun hno => (by cases hno), trivial, fun hno => (by cases hno)⟩
  · have hmaximum : (0 : TimePoint) ≤ timePointMax := by decide
    exact ⟨le_rfl, hmaximum, hmaximum, hmaximum⟩
  · refine Failing.go rfl fun hlive => ?_
    obtain hno | hno := hlive <;> cases hno

theorem RecoveryInv.reached (hunused : Unused publication) (hrestarts : Restarts config.recovery)
    (hrun : Transition.run System.step (new config publication) labels = some system) :
    RecoveryInv config system :=
  Transition.run_invariant (RecoveryInv config) (fun _ _ _ h hstep => h.step hrestarts hstep)
    (RecoveryInv.start hunused hrestarts) hrun

/-- The control thread takes its step on a record. -/
theorem step_record {choice : Choice} {point : Point} (hpc : system.pc = .record worker point)
    (hstep : system.step (.control choice) = some next) :
    (system.tick choice.now).stepRecord worker choice point = some next := by
  simp only [step] at hstep
  split_ifs at hstep
  have hcontrol : (system.tick choice.now).stepControl choice = some next := hstep
  unfold stepControl at hcontrol
  rw [show (system.tick choice.now).pc = .record worker point from hpc] at hcontrol
  exact hcontrol

/-- After a failure whose thread was joined: a restart is scheduled, or the budget is
exhausted. -/
theorem RecoveryInv.decides (h : RecoveryInv config system) (hrestarts : Restarts config.recovery)
    (hworker : worker < config.workerCount) {failure : WorkerFailure} {choice : Choice}
    (hpc : system.pc = .record worker (.decide failure))
    (hstep : system.step (.control choice) = some next)
    (hstop : system.shared.stopRequestedLocked = false)
    (hreleased : system.shared.dataPlaneReleased = true)
    (hcode : failure.code ≠ .instanceIdExhausted) :
    (restartsSince (system.history worker) = config.recovery.maxAttempts ∧
        next.pc = .record worker (.fail { failure with budgetExhausted := true })) ∨
      (restartsSince (system.history worker) < config.recovery.maxAttempts ∧
        next.pc = .monitorTop ∧ (next.record worker).state = .backoff ∧
        (next.record worker).restartAt =
          deadlineAfter choice.now (system.record worker).nextBackoff ∧
        next.log = .scheduled worker (system.record worker).nextBackoff :: system.log) := by
  have hplace : (system.view worker).place = .here (.decide failure) := view_place hpc
  obtain ⟨hfree, hepisode⟩ := (h.failing worker hworker).handled failure (by rw [hplace]; rfl)
  have hepisode : (system.record worker).recoveryEpisode = true := hepisode hreleased
  have hattempts : (system.record worker).recoveryAttempts = restartsSince
    (system.history worker) :=
    (h.paced worker hworker).restarts hepisode
  have hbudget : (system.record worker).recoveryAttempts ≤ config.recovery.maxAttempts :=
    (h.budget worker hworker).attempts
  obtain ⟨lastResult, hkept⟩ := (system.record worker).keepResult_eq failure
  have hrestartable : ((system.record worker).keepResult failure).restartable config.recovery
      system.shared.dataPlaneReleased failure = true := by
    rw [hkept]
    simp [WorkerRecord.restartable, hepisode, hreleased, hrestarts.policy, hcode]
  have hspent : ((system.record worker).keepResult failure).recoveryAttempts =
      restartsSince (system.history worker) := by
    rw [hkept]
    exact hattempts
  have hbackoff : ((system.record worker).keepResult failure).nextBackoff =
      (system.record worker).nextBackoff := by
    rw [hkept]
  have hnext : some ((system.tick choice.now).stepDecide worker failure choice.now) = some next :=
    step_record hpc hstep
  obtain rfl := Option.some.inj hnext
  have hnot : ¬system.shared.stopRequestedLocked = true := by
    rw [hstop]
    exact Bool.false_ne_true
  rw [hattempts] at hbudget
  rw [← h.inv.fixed] at hrestartable hbudget ⊢
  unfold stepDecide
  dsimp only
  rw [if_neg (by exact hnot), if_pos (by exact hrestartable)]
  by_cases hleft : restartsSince (system.history worker) < system.config.recovery.maxAttempts
  · rw [if_pos (by rw [← hspent] at hleft; exact hleft)]
    refine Or.inr ⟨hleft, rfl, ?_, ?_, ?_⟩
    · exact congrArg WorkerRecord.state (setRecord_record _ worker _)
    · rw [← hbackoff]
      exact congrArg WorkerRecord.restartAt (setRecord_record _ worker _)
    · rw [← hbackoff]
      rfl
  · rw [if_neg (by rw [← hspent] at hleft; exact hleft)]
    exact Or.inl ⟨le_antisymm hbudget (Nat.le_of_not_lt hleft), rfl⟩

/-- `fail_worker_service` reports the failure. -/
theorem step_fail {failure : WorkerFailure} {choice : Choice}
    (hpc : system.pc = .record worker (.fail failure))
    (hstep : system.step (.control choice) = some next) :
    next.shared.health.lastError = some failure ∧
      next.pc = .record worker (.report failure
        (system.shared.dataPlaneReleased && !system.shared.stopRequestedLocked)) := by
  obtain rfl := Option.some.inj (step_record hpc hstep)
  exact ⟨rfl, rfl⟩

theorem step_report {failure : WorkerFailure} {choice : Choice}
    (hpc : system.pc = .record worker (.report failure true))
    (hstep : system.step (.control choice) = some next) :
    .fatalReported failure ∈ next.log := by
  obtain rfl := Option.some.inj (step_record hpc hstep)
  exact List.mem_cons_self

/-- Only a failure after the last restart of the budget is reported as exhausted. -/
theorem RecoveryInv.exhausted (h : RecoveryInv config system)
    (hworker : worker < config.workerCount) {failure : WorkerFailure}
    (hfailed : (system.pc.place worker).failed = some failure) :
    (failure.budgetExhausted = true →
      restartsSince (system.history worker) = config.recovery.maxAttempts) ∧
    (failure.budgetExhausted = false → system.shared.dataPlaneReleased = true →
      failure.code = .joinFailed ∨ failure.code = .instanceIdExhausted) := by
  obtain ⟨hexhausted, hother⟩ := (h.failing worker hworker).failed failure hfailed
  refine ⟨fun hspent => ?_, hother⟩
  obtain ⟨hattempts, hepisode⟩ := hexhausted hspent
  exact ((h.paced worker hworker).restarts hepisode).symm.trans hattempts

/-- How an episode ends. -/
theorem RecoveryInv.ends (h : RecoveryInv config system) (hstep : system.step label = some next)
    (hworker : worker < config.workerCount)
    (hends : (system.view worker).Ends worker (next.view worker)) :
    (system.record worker).state = .running ∧
      (∃ now, .becameRunning worker (system.record worker).instanceId now ∈ system.log ∧
        (system.record worker).stableAt = deadlineAfter now config.recovery.stabilityWindow) ∧
      ((system.record worker).completion.published = false ∧
          (system.record worker).stableAt ≤ next.clock ∨
        (system.record worker).completed = true ∧
          (system.record worker).stableAt ≤ (system.record worker).completion.completedAt) := by
  obtain ⟨now, -, hmove⟩ := h.inv.move hstep hworker
  obtain ⟨hrunning, hepisode, hstable⟩ :=
    (hmove.recovers ((h.inv.sound worker hworker).at now)).ends hends
  have hrunning : (system.record worker).state = .running := hrunning
  obtain ⟨start, hmem, hdeadline⟩ := (h.paced worker hworker).running hrunning hepisode
  refine ⟨hrunning, ⟨start, (mem_history rfl).mp hmem, hdeadline⟩, ?_⟩
  obtain huncompleted | ⟨⟨failure, hplace⟩, hcompleted⟩ := hstable
  · exact Or.inl huncompleted
  · exact Or.inr ⟨((h.failing worker hworker).begun failure hplace).2 hrunning, hcompleted⟩

/-- In every run under a valid configuration that restarts its workers:

* the attempts of a record stay within the budget, and are the restarts of its episode;
* the `j`-th backoff of an episode is `min(max_backoff, initial_backoff * 2 ^ j)`; no
  backoff leaves the range of the configuration, and no deadline that of the clock;
* once the data plane is released, and with no stop requested, a failure whose thread
  was joined and whose code is not `InstanceIdExhausted` ends the service as
  exhausted after the last restart of the budget, and schedules a restart before it;
* a failure that ends the service is reported, as exhausted only after the last
  restart, and otherwise for a failed join or exhausted ids;
* an episode ends only where its instance was running, and had not completed, at
  its stability deadline;
* a restart is admitted only after the release, at its deadline, and with no stop
  requested. -/
theorem recovery_budget (hunused : Unused publication)
    (hvalid : isValidRecoveryConfig config.recovery = true)
    (hpolicy : config.recovery.policy = .restart)
    (hrun : Transition.run step (new config publication) labels = some system) :
    (∀ worker < config.workerCount,
      (system.record worker).recoveryAttempts ≤ config.recovery.maxAttempts ∧
      ((system.record worker).recoveryEpisode = true →
        (system.record worker).recoveryAttempts = restartsSince (system.history worker)) ∧
      (∀ after delay before, system.history worker = after ++ .scheduled worker delay :: before →
        delay = min config.recovery.maxBackoff
          (config.recovery.initialBackoff * 2 ^ scheduledSince before)) ∧
      0 ≤ (system.record worker).nextBackoff ∧
      (system.record worker).nextBackoff ≤ config.recovery.maxBackoff ∧
      (system.record worker).restartAt ≤ timePointMax ∧
      (system.record worker).stableAt ≤ timePointMax) ∧
    (∀ worker < config.workerCount, ∀ failure choice next,
      system.pc = .record worker (.decide failure) →
      system.step (.control choice) = some next →
      system.shared.stopRequestedLocked = false → system.shared.dataPlaneReleased = true →
      failure.code ≠ .instanceIdExhausted →
        (restartsSince (system.history worker) = config.recovery.maxAttempts ∧
          next.pc = .record worker (.fail { failure with budgetExhausted := true })) ∨
        (restartsSince (system.history worker) < config.recovery.maxAttempts ∧
          next.pc = .monitorTop ∧ (next.record worker).state = .backoff ∧
          (next.record worker).restartAt =
            deadlineAfter choice.now (system.record worker).nextBackoff ∧
          next.log = .scheduled worker (system.record worker).nextBackoff :: system.log)) ∧
    (∀ worker < config.workerCount, ∀ failure choice next,
      system.step (.control choice) = some next →
      (system.pc = .record worker (.fail failure) →
        next.shared.health.lastError = some failure ∧
        next.pc = .record worker (.report failure
          (system.shared.dataPlaneReleased && !system.shared.stopRequestedLocked))) ∧
      (system.pc = .record worker (.report failure true) → .fatalReported failure ∈ next.log) ∧
      ((system.pc.place worker).failed = some failure →
        (failure.budgetExhausted = true →
          restartsSince (system.history worker) = config.recovery.maxAttempts) ∧
        (failure.budgetExhausted = false → system.shared.dataPlaneReleased = true →
          failure.code = .joinFailed ∨ failure.code = .instanceIdExhausted))) ∧
    (∀ label next, system.step label = some next → ∀ worker < config.workerCount,
      (system.view worker).Ends worker (next.view worker) →
        (system.record worker).state = .running ∧
        (∃ now, .becameRunning worker (system.record worker).instanceId now ∈ system.log ∧
          (system.record worker).stableAt =
            deadlineAfter now config.recovery.stabilityWindow) ∧
        ((system.record worker).completion.published = false ∧
            (system.record worker).stableAt ≤ next.clock ∨
          (system.record worker).completed = true ∧
            (system.record worker).stableAt ≤ (system.record worker).completion.completedAt)) ∧
    (∀ label next, system.step label = some next → ∀ worker < config.workerCount,
      ((system.record worker).recoveryAttempts < (next.record worker).recoveryAttempts ∨
        0 < (system.record worker).instanceId ∧
          (next.record worker).instanceId ≠ (system.record worker).instanceId) →
        system.shared.dataPlaneReleased = true ∧
        (system.record worker).restartAt ≤ next.clock ∧
        system.shared.stopRequestedLocked = false) := by
  have hrestarts := Restarts.of_valid hvalid hpolicy
  have h := RecoveryInv.reached hunused hrestarts hrun
  refine ⟨fun worker hworker => ?_, ?_, fun worker hworker failure choice next hstep => ?_, ?_,
    fun label next hstep worker hworker hadmits => ?_⟩
  · have hpaced := h.paced worker hworker
    have htimed := h.timed worker hworker
    refine ⟨(h.budget worker hworker).attempts, hpaced.restarts, ?_, hpaced.bounded.1,
      hpaced.bounded.2, htimed.restartAt, htimed.stableAt⟩
    intro after delay before hhistory
    have hhistory' := hpaced.history
    rw [show (system.view worker).history = _ from hhistory] at hhistory'
    exact hhistory'.delay
  · exact fun worker hworker failure choice next hpc hstep hstop hreleased hcode =>
      h.decides hrestarts hworker hpc hstep hstop hreleased hcode
  · exact ⟨fun hpc => step_fail hpc hstep, fun hpc => step_report hpc hstep,
      fun hfailed => h.exhausted hworker hfailed⟩
  · exact fun label next hstep worker hworker hends => h.ends hstep hworker hends
  · obtain ⟨now, hnow, hmove⟩ := h.inv.move hstep hworker
    exact ((h.budget worker hworker).at hnow.1).admits hmove ((h.inv.sound worker hworker).at now)
      hadmits

theorem recovery_budget_replaced : ∃ system,
    Transition.run step (new oneWorker freshPublication) replacedWorker = some system ∧
    (system.record 0).recoveryAttempts = 1 ∧ restartsSince (system.history 0) = 1 ∧
    (system.record 0).recoveryAttempts ≤ oneWorker.recovery.maxAttempts := by
  refine ⟨_, rfl, by decide, by decide, ?_⟩
  exact ((@recovery_budget oneWorker freshPublication _ replacedWorker (fun _ => ⟨rfl, rfl⟩) rfl rfl
    rfl).1 0 (by decide)).1

/-- The worker fails after its activation, and the data plane was not released. -/
def failedBeforeRelease : List Label :=
  [.run] ++ controls 8 0 ++ [.refresh 0 0, .thread 0 0 (.reportReady ⟨.ready, none⟩)] ++
    controls 6 0 ++ [.requestActivation, .thread 0 0 .reportActivated] ++ controls 8 0 ++
    [.thread 0 0 (.reportCompletion {} 0)] ++ controls 12 0

/-- Before the release, the first failure ends the service within its budget. -/
theorem unreleased_not_restarted : ¬ ∀ (config : Config) (publication : Publication.System)
    (labels : List Label) (system next : System) (worker : Nat) (failure : WorkerFailure)
    (choice : Choice), Unused publication → isValidRecoveryConfig config.recovery = true →
    config.recovery.policy = .restart →
    Transition.run step (new config publication) labels = some system →
    worker < config.workerCount → system.pc = .record worker (.decide failure) →
    system.step (.control choice) = some next → system.shared.stopRequestedLocked = false →
    failure.code ≠ .instanceIdExhausted →
    restartsSince (system.history worker) ≠ config.recovery.maxAttempts →
    (next.record worker).state = .backoff := by
  intro hall
  have hbackoff := hall oneWorker freshPublication failedBeforeRelease _ _ 0
    { code := .fatalExit, workerId := 0, instanceId := 1 } { now := 0 }
    (fun _ => ⟨rfl, rfl⟩) rfl rfl rfl (by decide) rfl rfl rfl (by decide) (by decide)
  exact absurd hbackoff (by decide)

end System

end DnsPro.Supervisor
