import DnsPro.Supervisor.Recovery

/-!
# The failure that is handled

From the monitor's look at a record up to the report of its failure, the control
thread carries the failure along.  `Failing` says what it is like at each place:
whether the record has completed, whether its budget is exhausted, and which of
the failures are reported without a restart.
-/

namespace DnsPro.Supervisor

open DnsPro.Runtime (TimePoint)
open DnsPro.Service (WorkerRunResult WorkerFailure WorkerRecoveryConfig SupervisorStartupError)

variable {config : WorkerRecoveryConfig} {worker : Nat} {stopped : Bool} {view view' : View}

/-- The instance of the record does not run any more, or does not run yet. -/
def Place.halted : Place → Bool
  | .here (.createHealth (some _)) | .here (.failureHealth _) | .here (.decide _) => true
  | .here (.join (.failure _) _) | .here (.fail _) | .here (.report _ _) => true
  | _ => false

/-- The failure that is handled. -/
def Place.handled : Place → Option WorkerFailure
  | .here (.failureHealth failure) | .here (.decide failure) => some failure
  | .here (.join (.failure failure) _) => some failure
  | _ => none

/-- The failure that ends the service. -/
def Place.failed : Place → Option WorkerFailure
  | .here (.fail failure) | .here (.report failure _) => some failure
  | _ => none

/-- Nothing is carried along. -/
def Place.plain : Place → Bool
  | .here .readyPoint | .here (.beginFailure _) => false
  | place => !place.halted

/-- The record has reported `Ready`. -/
def WorkerRecord.isReady (record : WorkerRecord) : Prop :=
  record.ready.published = true ∧ record.ready.result.outcome = .ready

/-- The failure at each place. -/
structure Failing (config : WorkerRecoveryConfig) (view : View) : Prop where
  outcome : view.record.state = .ready ∨ view.record.state = .running → view.record.isReady
  readyPoint : view.place = .here .readyPoint → view.record.isReady
  halted : view.place.halted = true → view.record.state ≠ .running
  begun : ∀ failure, view.place = .here (.beginFailure failure) →
    failure.budgetExhausted = false ∧
      (view.record.state = .running → view.record.completed = true)
  handled : ∀ failure, view.place.handled = some failure → failure.budgetExhausted = false ∧
    (view.released = true → view.record.recoveryEpisode = true)
  failed : ∀ failure, view.place.failed = some failure →
    (failure.budgetExhausted = true →
      view.record.recoveryAttempts = config.maxAttempts ∧ view.record.recoveryEpisode = true) ∧
    (failure.budgetExhausted = false → view.released = true →
      failure.code = .joinFailed ∨ failure.code = .instanceIdExhausted)

theorem handled_halted {place : Place} {failure : WorkerFailure}
    (h : place.handled = some failure) : place.halted = true := by
  unfold Place.handled at h
  split at h
  · rfl
  · rfl
  · rfl
  · cases h

theorem failed_halted {place : Place} {failure : WorkerFailure}
    (h : place.failed = some failure) : place.halted = true := by
  unfold Place.failed at h
  split at h
  · rfl
  · rfl
  · cases h

theorem plain_halted {place : Place} (h : place.plain = true) : place.halted = false := by
  unfold Place.plain at h
  split at h
  · cases h
  · cases h
  · simpa using h

/-- The control thread goes on, and carries nothing. -/
theorem Failing.go (hplain : view'.place.plain = true)
    (houtcome : view'.record.state = .ready ∨ view'.record.state = .running →
      view'.record.isReady) : Failing config view' where
  outcome := houtcome
  readyPoint hplace := by
    rw [hplace] at hplain
    cases hplain
  halted h := absurd ((plain_halted hplain).symm.trans h) Bool.false_ne_true
  begun failure hplace := by
    rw [hplace] at hplain
    cases hplain
  handled failure h :=
    absurd ((plain_halted hplain).symm.trans (handled_halted h)) Bool.false_ne_true
  failed failure h :=
    absurd ((plain_halted hplain).symm.trans (failed_halted h)) Bool.false_ne_true

/-- A report, or a flag that is set. -/
theorem Failing.stay (h : Failing config view) (hplace : view'.place = view.place)
    (hstate : view'.record.state = view.record.state)
    (hready : view.record.isReady → view'.record.isReady)
    (hcompleted : view.record.completed = true → view'.record.completed = true)
    (hbudget : view'.record.budget = view.record.budget)
    (hreleased : view'.released = view.released) : Failing config view' := by
  obtain ⟨hepisode, hattempts, -⟩ := budget_eq hbudget
  refine ⟨fun hlive => hready (h.outcome (hstate ▸ hlive)),
    fun hpoint => hready (h.readyPoint (hplace ▸ hpoint)), fun hhalted => ?_,
    fun failure hbegin => ?_, fun failure hhandled => ?_, fun failure hfailed => ?_⟩
  · rw [hstate]
    exact h.halted (hplace ▸ hhalted)
  · obtain ⟨hfree, hcomplete⟩ := h.begun failure (hplace ▸ hbegin)
    exact ⟨hfree, fun hrunning => hcompleted (hcomplete (hstate ▸ hrunning))⟩
  · rw [hreleased, hepisode]
    exact h.handled failure (hplace ▸ hhandled)
  · rw [hattempts, hreleased, hepisode]
    exact h.failed failure (hplace ▸ hfailed)

namespace WorkerRecord

variable (record : WorkerRecord)

theorem isReady_report (instanceId : Nat) (result : WorkerReadyResult) (hready : record.isReady) :
    (record.reportReady instanceId result).isReady := by
  obtain heq | ⟨-, hno, -⟩ := record.reportReady_eq instanceId result
  · rw [heq]
    exact hready
  · exact absurd (hno.symm.trans hready.1) Bool.false_ne_true

theorem completed_report (instanceId : Nat) (result : WorkerRunResult) (now : TimePoint)
    (hcompleted : record.completed = true) :
    (record.reportCompletion instanceId result now).completed = true := by
  obtain heq | ⟨-, hno, -⟩ := record.reportCompletion_eq instanceId result now
  · rw [heq]
    exact hcompleted
  · rw [completed, hno, Bool.false_and] at hcompleted
    cases hcompleted

/-- A running instance fails by its completion. -/
theorem observed_running {failure : WorkerFailure}
    (hfailure : record.observedFailure worker = some failure)
    (hready : record.state = .running → record.isReady) :
    failure.budgetExhausted = false ∧ (record.state = .running → record.completed = true) := by
  simp only [observedFailure] at hfailure
  split_ifs at hfailure with hfails hinit hstop
  all_goals obtain rfl := Option.some.inj hfailure
  all_goals refine ⟨rfl, fun hrunning => ?_⟩
  all_goals
    rw [hrunning, (hready hrunning).2] at hfails
    simpa using hfails

end WorkerRecord

/-- The failure goes on to another place. -/
theorem Failing.carry {place : Place} (h : Failing config view)
    (hpoint : place ≠ .here .readyPoint) (hbegin : ∀ failure, place ≠ .here (.beginFailure failure))
    (hhalted : view.record.state ≠ .running)
    (hhandled : ∀ failure, place.handled = some failure → failure.budgetExhausted = false ∧
      (view.released = true → view.record.recoveryEpisode = true))
    (hfailed : ∀ failure, place.failed = some failure →
      (failure.budgetExhausted = true →
        view.record.recoveryAttempts = config.maxAttempts ∧ view.record.recoveryEpisode = true) ∧
      (failure.budgetExhausted = false → view.released = true →
        failure.code = .joinFailed ∨ failure.code = .instanceIdExhausted)) :
    Failing config (view.goto place) where
  outcome := h.outcome
  readyPoint hplace := absurd hplace hpoint
  halted _ := hhalted
  begun failure hplace := absurd hplace (hbegin failure)
  handled := hhandled
  failed := hfailed

theorem not_running {state : WorkerRecordState} (hstate : state.idle = true ∨ state = .creating) :
    state ≠ .running := by
  obtain hidle | rfl := hstate
  · rintro rfl
    cases hidle
  · exact fun hno => by cases hno

theorem Goes.failing {place : Place} (hgoes : Goes view view.place place)
    (h : Failing config view) (hstands : view.place.Stands view) :
    Failing config (view.goto place) := by
  generalize hplace : view.place = start at hgoes
  rw [hplace] at hstands
  cases hgoes with
  | failure hfailure =>
    have hbegun := view.record.observed_running hfailure fun hrunning => h.outcome (Or.inr hrunning)
    refine ⟨h.outcome, fun hno => (by cases hno), fun hno => (by cases hno),
      fun failure heq => ?_, fun _ hno => (by cases hno), fun _ hno => (by cases hno)⟩
    cases heq
    exact hbegun
  | ready hfailure hstate hreported =>
    refine ⟨h.outcome, fun _ => ?_, fun hno => (by cases hno), fun _ hno => (by cases hno),
      fun _ hno => (by cases hno), fun _ hno => (by cases hno)⟩
    -- a failed initialization is a failure
    have hpublished : view.record.ready.published = true := by
      simp only [WorkerRecord.reported, Bool.and_eq_true] at hreported
      exact hreported.1
    refine ⟨hpublished, ?_⟩
    simp only [WorkerRecord.observedFailure] at hfailure
    split_ifs at hfailure with hfails
    have houtcome : view.record.completed = false ∧ view.record.ready.result.outcome = .ready := by
      simpa [hstate, hreported] using hfails
    exact houtcome.2
  | createFailed error hpoint =>
    have hstate : view.record.state ≠ .running := by
      obtain rfl | rfl | rfl := hpoint
      · exact not_running (Or.inl hstands)
      · exact not_running (Or.inr hstands.1)
      · exact not_running (Or.inr hstands.1)
    exact h.carry (fun hno => by cases hno) (fun _ hno => by cases hno) hstate
      (fun _ hno => by cases hno) fun _ hno => by cases hno
  | failedHealth error =>
    have hstate := h.halted (by rw [hplace]; rfl)
    refine ⟨h.outcome, fun hno => (by cases hno), fun hno => (by cases hno),
      fun failure heq => ?_, fun _ hno => (by cases hno), fun _ hno => (by cases hno)⟩
    cases heq
    exact ⟨rfl, fun hrunning => absurd hrunning hstate⟩
  | joinFailure failure =>
    refine h.carry (fun hno => by cases hno) (fun _ hno => by cases hno)
      (h.halted (by rw [hplace]; rfl)) (fun _ heq => ?_) fun _ hno => by cases hno
    exact h.handled _ (by rw [hplace]; exact heq)
  | report failure reports =>
    refine h.carry (fun hno => by cases hno) (fun _ hno => by cases hno)
      (h.halted (by rw [hplace]; rfl)) (fun _ hno => by cases hno) fun _ heq => ?_
    exact h.failed _ (by rw [hplace]; exact heq)
  | @noThread caller hthread =>
    cases caller with
    | failure failure =>
      refine h.carry (fun hno => by cases hno) (fun _ hno => by cases hno)
        (h.halted (by rw [hplace]; rfl)) (fun _ heq => ?_) fun _ hno => by cases hno
      exact h.handled _ (by rw [hplace]; exact heq)
    | all | emergency => exact Failing.go rfl h.outcome
  | @join caller hcaller =>
    cases caller with
    | failure failure => cases hcaller
    | all | emergency => exact Failing.go rfl h.outcome
  | activating hpoint => exact Failing.go rfl h.outcome
  | _ => exact Failing.go rfl h.outcome

/-- A join goes on. -/
theorem Failing.join {caller : JoinCaller} {point point' : JoinPoint} (h : Failing config view)
    (hplace : view.place = .here (.join caller point))
    (hplace' : view'.place = .here (.join caller point'))
    (hstate : view'.record.state = .ready ∨ view'.record.state = .running →
      view'.record.state = view.record.state ∧ (view.record.isReady → view'.record.isReady))
    (hepisode : view'.record.recoveryEpisode = view.record.recoveryEpisode)
    (hreleased : view'.released = view.released) : Failing config view' := by
  have houtcome : view'.record.state = .ready ∨ view'.record.state = .running →
      view'.record.isReady := by
    intro hlive
    obtain ⟨hsame, hready⟩ := hstate hlive
    exact hready (h.outcome (hsame ▸ hlive))
  cases caller with
  | failure failure =>
    refine ⟨houtcome, fun heq => ?_, fun _ hrunning => ?_, fun failure heq => ?_,
      fun failure heq => ?_, fun failure heq => ?_⟩
    · rw [hplace'] at heq
      cases heq
    · have hsame := (hstate (Or.inr hrunning)).1
      exact h.halted (by rw [hplace]; rfl) (hsame ▸ hrunning)
    · rw [hplace'] at heq
      cases heq
    · rw [hplace'] at heq
      rw [hepisode, hreleased]
      exact h.handled failure (by rw [hplace]; exact heq)
    · rw [hplace'] at heq
      cases heq
  | all | emergency => exact Failing.go (by rw [hplace']; rfl) houtcome

theorem Move.failing (hmove : Move config worker stopped view view') (hsound : view.Sound)
    (hbudget : Budget config view) (hpolicy : config.policy = .restart)
    (h : Failing config view) : Failing config view' := by
  have hstands := hsound.stands
  cases hmove with
  | still | requestStop | allowActivation | gate | observe =>
    exact h.stay rfl rfl id id rfl rfl
  | release hstop hstate hcompleted =>
    have hlive : ∀ {p : Prop}, view.place.halted = true → p := fun hhalted =>
      absurd hstate (h.halted hhalted)
    exact ⟨h.outcome, h.readyPoint, fun hhalted => hlive hhalted, h.begun,
      fun _ hhandled => hlive (handled_halted hhandled), fun _ hfailed =>
        hlive (failed_halted hfailed)⟩
  | reportReady instanceId result =>
    have hready := view.record.isReady_report instanceId result
    obtain heq | ⟨-, -, heq⟩ :=
      view.record.reportReady_eq instanceId result <;> rw [heq] at hready ⊢
    · exact h.stay rfl rfl id id rfl rfl
    · exact h.stay rfl rfl hready id rfl rfl
  | reportActivated instanceId =>
    obtain heq | ⟨-, -, heq⟩ := view.record.reportActivated_eq instanceId <;> rw [heq] <;>
      exact h.stay rfl rfl id id rfl rfl
  | reportCompletion instanceId result now threads =>
    have hcompleted := view.record.completed_report instanceId result now
    obtain heq | ⟨-, -, heq⟩ := view.record.reportCompletion_eq instanceId result now <;>
      rw [heq] at hcompleted ⊢
    · exact h.stay rfl rfl id id rfl rfl
    · exact h.stay rfl rfl id hcompleted rfl rfl
  | goes hgoes => exact hgoes.failing h hstands
  | @refused caller port place hplace hstop hnext =>
    rw [hplace] at hstands
    have hstate := not_running (Or.inl hstands)
    obtain heq | heq := view.counted_eq worker <;> rw [heq] <;> obtain rfl | ⟨error, rfl⟩ := hnext
    · exact Failing.go rfl h.outcome
    · exact h.carry (fun hno => by cases hno) (fun _ hno => by cases hno) hstate
        (fun _ hno => by cases hno) fun _ hno => by cases hno
    · exact Failing.go rfl h.outcome
    · exact ⟨h.outcome, fun hno => (by cases hno), fun _ => hstate, fun _ hno => (by cases hno),
        fun _ hno => (by cases hno), fun _ hno => (by cases hno)⟩
  | admission =>
    refine Failing.go rfl fun hlive => ?_
    obtain hno | hno := hlive <;> cases hno
  | register | build => exact Failing.go rfl h.outcome
  | @store caller port loop place hplace hnext =>
    have hplain : place.plain = true := by
      obtain ⟨-, rfl | rfl⟩ | ⟨-, rfl⟩ := hnext <;> rfl
    refine Failing.go hplain fun hlive => ?_
    obtain hno | hno := hlive <;> cases hno
  | threadFailed hplace hnext =>
    rw [hplace] at hstands
    have hstate : view.record.state ≠ .running := by
      rw [show view.record.state = .starting from hstands.1]
      exact fun hno => by cases hno
    obtain rfl | ⟨error, rfl⟩ := hnext
    · exact Failing.go rfl h.outcome
    · refine ⟨h.outcome, fun hno => (by cases hno), fun hno => (by cases hno),
        fun failure heq => ?_, fun _ hno => (by cases hno), fun _ hno => (by cases hno)⟩
      cases heq
      exact ⟨rfl, fun hrunning => absurd hrunning hstate⟩
  | @thread caller place hplace hnext =>
    have hplain : place.plain = true := by
      obtain ⟨-, rfl⟩ | ⟨-, rfl⟩ := hnext <;> rfl
    exact Failing.go hplain h.outcome
  | markReady hplace hreported houtcome =>
    simp only [WorkerRecord.reported, Bool.and_eq_true] at hreported
    exact Failing.go rfl fun _ => ⟨hreported.1, houtcome⟩
  | exited =>
    refine Failing.go rfl fun hlive => ?_
    obtain hno | hno := hlive <;> cases hno
  | markRunning hplace =>
    rw [hplace] at hstands
    exact Failing.go rfl fun _ => h.outcome hstands
  | ready hplace => exact Failing.go rfl fun _ => h.readyPoint hplace
  | activate hplace =>
    rw [hplace] at hstands
    exact Failing.go rfl fun _ => h.outcome (Or.inl hstands)
  | stable => exact Failing.go rfl h.outcome
  | @beginFailure failure hplace hstop =>
    obtain ⟨hfree, -⟩ := h.begun failure hplace
    obtain ⟨history, hhistory⟩ := view.noteFailure_eq worker
      (view.put (view.record.beginFailure config view.released))
    have hstate : ∀ published : Bool, ¬((if published then WorkerRecordState.exited else
        WorkerRecordState.stopping) = .ready ∨ (if published then WorkerRecordState.exited else
        WorkerRecordState.stopping) = .running) := by
      decide
    have hepisode : view.released = true →
        (view.record.openEpisode config view.released).recoveryEpisode = true := by
      intro hreleased
      obtain ⟨-, hopen, heq⟩ | ⟨-, heq⟩ := openEpisode_cases config view.record view.released <;>
        rw [heq]
      · exact hopen
      · exact hreleased
    rw [hhistory]
    refine ⟨fun hlive => absurd hlive (hstate _), fun hno => (by cases hno),
      fun _ hrunning => hstate _ (Or.inr hrunning), fun _ hno => (by cases hno),
      fun other heq => ?_, fun _ hno => (by cases hno)⟩
    obtain rfl := Option.some.inj heq
    exact ⟨hfree, hepisode⟩
  | @decided failure place hplace hnext =>
    obtain ⟨hfree, hepisode⟩ := h.handled failure (by rw [hplace]; rfl)
    have hstate := h.halted (by rw [hplace]; rfl)
    obtain ⟨lastResult, heq⟩ := view.record.keepResult_eq failure
    rw [heq]
    obtain rfl | ⟨rfl, hrestartable, hspent⟩ | ⟨rfl, hrefused⟩ := hnext
    · exact Failing.go rfl h.outcome
    · refine ⟨h.outcome, fun hno => (by cases hno), fun _ => hstate, fun _ hno => (by cases hno),
        fun _ hno => (by cases hno), fun other heq => ?_⟩
      obtain rfl := Option.some.inj heq
      exact ⟨fun _ => ⟨le_antisymm hbudget.attempts hspent, (restartable_episode hrestartable).2⟩,
        fun hno => by cases hno⟩
    · refine ⟨h.outcome, fun hno => (by cases hno), fun _ => hstate, fun _ hno => (by cases hno),
        fun _ hno => (by cases hno), fun other heq => ?_⟩
      obtain rfl := Option.some.inj heq
      refine ⟨fun hno => absurd (hfree.symm.trans hno) Bool.false_ne_true,
        fun _ hreleased => Or.inr ?_⟩
      have hreleased : view.released = true := hreleased
      rw [WorkerRecord.restartable, hreleased, hepisode hreleased, hpolicy] at hrefused
      simpa using hrefused
  | schedule =>
    refine Failing.go rfl fun hlive => ?_
    obtain hno | hno := hlive <;> cases hno
  | @stopping place hplace hnext =>
    have hplain : place.plain = true := by
      obtain rfl | ⟨caller, rfl, hdown⟩ := hnext
      · rfl
      · cases caller with
        | failure => cases hdown
        | all | emergency => rfl
    exact Failing.go hplain h.outcome
  | @joinFailed caller point place stop hplace hnext =>
    obtain rfl | ⟨failure, rfl, rfl⟩ := hnext
    · exact Failing.go rfl h.outcome
    · obtain ⟨hfree, -⟩ := h.handled failure (by rw [hplace]; rfl)
      refine ⟨h.outcome, fun hno => (by cases hno), fun _ => h.halted (by rw [hplace]; rfl),
        fun _ hno => (by cases hno), fun _ hno => (by cases hno), fun other heq => ?_⟩
      obtain rfl := Option.some.inj heq
      exact ⟨fun hno => absurd (hfree.symm.trans hno) Bool.false_ne_true, fun _ _ => Or.inl rfl⟩
  | joinRequest hplace =>
    obtain heq | heq := WorkerRecord.beginJoin_eq { view.record with instanceStop := true } <;>
      rw [heq]
    · exact h.join hplace rfl (fun _ => ⟨rfl, id⟩) rfl rfl
    · refine h.join hplace rfl (fun hlive => ?_) rfl rfl
      obtain hno | hno := hlive <;> cases hno
  | joined hplace | reset hplace | quiesce hplace =>
    exact h.join hplace rfl (fun _ => ⟨rfl, id⟩) rfl rfl
  | recordJoin hplace =>
    refine h.join hplace rfl (fun hlive => ?_) rfl rfl
    obtain hno | hno := hlive <;> cases hno
  | @offline caller place hplace hnext =>
    have hlive : ∀ {p : Prop}, (WorkerRecordState.offline = .ready ∨
        WorkerRecordState.offline = .running) → p := by
      rintro p (hno | hno) <;> cases hno
    obtain rfl | ⟨failure, rfl, rfl⟩ := hnext
    · exact Failing.go rfl fun h => hlive h
    · refine ⟨fun h => hlive h, fun hno => (by cases hno), fun _ hno => (by cases hno),
        fun _ hno => (by cases hno), fun other heq => ?_, fun _ hno => (by cases hno)⟩
      exact h.handled other (by rw [hplace]; exact heq)

end DnsPro.Supervisor
