import DnsPro.Service.Lifecycle

/-!
# What a locked body does to the state and the stop cause

The state, the stop cause and the two errors are the `Verdict` of the service.
`Verdict.Moves` lists everything a locked body may do to it, and for which
`Party`: an attempt to start, a teardown, or anyone.  The lemmas of the second
part say which of these each body of `Service.Lifecycle` is, so that no proof
about runs looks into a body again.

The facts about a move that the invariants and the main results use are the last
part: the state never goes back, and the first stop cause stays with its errors.
-/

namespace DnsPro.Service

/-! ## Order of the states -/

namespace DNSLifecycleState

/-- The order of the states; the two final ones are on one level. -/
def rank : DNSLifecycleState → Nat
  | .empty => 0
  | .initialized => 1
  | .starting => 2
  | .active => 3
  | .stopping => 4
  | .stopped => 5
  | .failed => 5

/-- `later` may come after `earlier`: it is the same state or a higher one. -/
def Forward (earlier later : DNSLifecycleState) : Prop :=
  later = earlier ∨ earlier.rank < later.rank

theorem Forward.rank_le {earlier later : DNSLifecycleState} (h : Forward earlier later) :
    earlier.rank ≤ later.rank := by
  obtain rfl | h := h
  · exact Nat.le_refl _
  · exact Nat.le_of_lt h

theorem Forward.refl (state : DNSLifecycleState) : Forward state state := Or.inl rfl

theorem Forward.trans {first second third : DNSLifecycleState} (h : Forward first second)
    (h' : Forward second third) : Forward first third := by
  obtain rfl | hlt := h
  · exact h'
  · apply Or.inr
    exact Nat.lt_of_lt_of_le hlt h'.rank_le

/-- The service has ended. -/
def terminal (state : DNSLifecycleState) : Prop := state = .stopped ∨ state = .failed

/-- The states that `finish_teardown` and `request_stop` act on. -/
def running (state : DNSLifecycleState) : Prop :=
  state = .starting ∨ state = .active ∨ state = .stopping

end DNSLifecycleState

/-! ## Moves -/

structure Verdict where
  state : DNSLifecycleState
  cause : StopCause
  startupError : Option DNSStartError
  fatalError : Option DNSFatalError
  deriving DecidableEq, Repr

def Lifecycle.verdict (lifecycle : Lifecycle) : Verdict :=
  { state := lifecycle.state
    cause := lifecycle.stopCause
    startupError := lifecycle.startupError
    fatalError := lifecycle.fatalError }

namespace Verdict

/-- A startup failure is the stop cause unless there is one already. -/
def recordFailure (verdict : Verdict) (error : DNSStartError) : Verdict :=
  if verdict.cause = .none then
    { verdict with cause := .startupFailure, startupError := some error }
  else verdict

/-- Who runs a body: a start attempt, a teardown, or anyone else. -/
inductive Party where
  | anyone
  | attempt
  | teardown
  deriving DecidableEq, Repr

/-- What a locked body may do to the verdict. -/
inductive Moves : Party → Verdict → Verdict → Prop
  | keep (party : Party) (verdict : Verdict) : Moves party verdict verdict
  | initialized (verdict : Verdict) (hstate : verdict.state = .empty) :
      Moves .anyone verdict { verdict with state := .initialized }
  | abandon (verdict : Verdict) (hstate : verdict.state = .initialized) :
      Moves .anyone verdict { verdict with state := .stopped, cause := .explicit }
  | stop (verdict : Verdict) (hstate : verdict.state.running) :
      Moves .anyone verdict { verdict with
        state := .stopping
        cause := if verdict.cause = .none then .explicit else verdict.cause }
  | roleFailure (verdict : Verdict) (error : DNSStartError) (hstate : verdict.state = .starting) :
      Moves .anyone verdict { verdict.recordFailure error with state := .stopping }
  | fatal (verdict : Verdict) (error : DNSFatalError) (hstate : verdict.state = .active)
      (hcause : verdict.cause = .none) :
      Moves .anyone verdict { verdict with
        state := .stopping, cause := .fatal, fatalError := some error }
  | accept (verdict : Verdict) (hstate : verdict.state = .initialized) :
      Moves .attempt verdict ⟨.starting, .none, none, none⟩
  | commit (verdict : Verdict) (hstate : verdict.state = .starting)
      (hcause : verdict.cause = .none) : Moves .attempt verdict { verdict with state := .active }
  | failStart (verdict : Verdict) (error : DNSStartError)
      (hstate : verdict.state = .starting ∨ verdict.state = .stopping) :
      Moves .attempt verdict { verdict.recordFailure error with state := .stopping }
  | incomplete (verdict : Verdict)
      (hstate : verdict.state = .active ∨ verdict.state = .stopping) :
      Moves .teardown verdict { verdict with state := .stopping }
  | release (verdict : Verdict) (hstate : verdict.state = .active ∨ verdict.state = .stopping) :
      Moves .teardown verdict { verdict with
        state := if verdict.cause = .explicit then .stopped else .failed }

end Verdict

/-! ## The move of each body -/

namespace Lifecycle

open Verdict (Moves)

variable (lifecycle : Lifecycle) (role : Role)

@[simp] theorem verdict_state : lifecycle.verdict.state = lifecycle.state := rfl

@[simp] theorem reportHealth_verdict (snapshot : SupervisorHealthSnapshot) :
    (lifecycle.reportHealth snapshot).verdict = lifecycle.verdict := by
  unfold reportHealth
  split
  · rfl
  · dsimp only
    split <;> rfl

@[simp] theorem replaceCompleted_verdict (version : Publication.FilterVersion) :
    (lifecycle.replaceCompleted version).verdict = lifecycle.verdict := by
  unfold replaceCompleted
  split <;> rfl

@[simp] theorem reportHealth_initInProgress (snapshot : SupervisorHealthSnapshot) :
    (lifecycle.reportHealth snapshot).initInProgress = lifecycle.initInProgress := by
  unfold reportHealth
  split
  · rfl
  · dsimp only
    split <;> rfl

@[simp] theorem replaceCompleted_initInProgress (version : Publication.FilterVersion) :
    (lifecycle.replaceCompleted version).initInProgress = lifecycle.initInProgress := by
  unfold replaceCompleted
  split <;> rfl

variable {lifecycle role} {next : Lifecycle}

theorem beginInit_eq (h : lifecycle.beginInit = some next) :
    lifecycle.state = .empty ∧ lifecycle.initInProgress = false ∧
      next = { lifecycle with initInProgress := true } := by
  unfold beginInit at h
  split at h
  · cases h
  · rename_i hguard
    have hnext := Option.some.inj h
    refine ⟨?_, ?_, hnext.symm⟩
    · exact not_not.mp fun hne => hguard (Or.inl hne)
    · exact Bool.eq_false_iff.mpr fun htrue => hguard (Or.inr htrue)

theorem finishInit_moves (config : DNSConfig) (version : Publication.FilterVersion)
    (hstate : lifecycle.state = .empty) :
    Moves .anyone lifecycle.verdict (lifecycle.finishInit config version).verdict :=
  Moves.initialized lifecycle.verdict hstate

theorem acceptStart_moves (h : lifecycle.acceptStart = some next) :
    Moves .attempt lifecycle.verdict next.verdict ∧ next.state = .starting ∧
      next.initInProgress = lifecycle.initInProgress := by
  unfold acceptStart at h
  split at h
  · cases h
  · rename_i hguard
    have hstate : lifecycle.state = .initialized := by
      exact not_not.mp fun hne => hguard (Or.inl hne)
    obtain rfl := Option.some.inj h
    exact ⟨Moves.accept lifecycle.verdict hstate, rfl, rfl⟩

/-- After the service has ended, or while it starts or runs, no start is accepted. -/
theorem acceptStart_refused (hstate : lifecycle.state ≠ .initialized) :
    lifecycle.acceptStart = none :=
  if_pos (Or.inl hstate)

/-- A commit either makes the service active or leaves the verdict alone. -/
theorem commitStartup_moves {attempt : UInt64} {info : SupervisorStartupInfo}
    {released : Except SupervisorActivationError Unit} {result : Except DNSStartError Unit}
    (h : lifecycle.commitStartup attempt info released = (result, next)) :
    next.initInProgress = lifecycle.initInProgress ∧
      ((result = .ok () ∧ lifecycle.state = .starting ∧ lifecycle.stopCause = .none ∧
          next.verdict = { lifecycle.verdict with state := .active }) ∨
        (∃ error, result = .error error) ∧ next.verdict = lifecycle.verdict) := by
  unfold commitStartup at h
  split at h
  · rename_i hcurrent
    cases released with
    | ok _ =>
      obtain ⟨rfl, rfl⟩ := Prod.mk.inj h
      exact ⟨rfl, Or.inl ⟨rfl, hcurrent.1, hcurrent.2.1, rfl⟩⟩
    | error error =>
      obtain ⟨rfl, rfl⟩ := Prod.mk.inj h
      refine ⟨rfl, Or.inr ⟨⟨_, rfl⟩, ?_⟩⟩
      show Verdict.mk .starting lifecycle.stopCause lifecycle.startupError lifecycle.fatalError = _
      rw [← hcurrent.1]
      rfl
  · obtain ⟨rfl, rfl⟩ := Prod.mk.inj h
    exact ⟨rfl, Or.inr ⟨⟨_, rfl⟩, rfl⟩⟩

theorem commit_moves {control : ControlPlaneState} {attempt : UInt64}
    {info : SupervisorStartupInfo} {released : Except SupervisorActivationError Unit}
    {result : Except DNSStartError Unit}
    (h : lifecycle.commit control attempt info released = (result, next)) :
    next.initInProgress = lifecycle.initInProgress ∧
      ((result = .ok () ∧ lifecycle.state = .starting ∧ lifecycle.stopCause = .none ∧
          next.verdict = { lifecycle.verdict with state := .active }) ∨
        (∃ error, result = .error error) ∧ next.verdict = lifecycle.verdict) := by
  unfold commit at h
  split_ifs at h
  · exact commitStartup_moves h
  · obtain ⟨rfl, rfl⟩ := Prod.mk.inj h
    exact ⟨rfl, Or.inr ⟨⟨_, rfl⟩, rfl⟩⟩
  · obtain ⟨rfl, rfl⟩ := Prod.mk.inj h
    exact ⟨rfl, Or.inr ⟨⟨_, rfl⟩, rfl⟩⟩
  · exact commitStartup_moves h

theorem failStart_verdict (lifecycle : Lifecycle) (error : DNSStartError)
    (hstate : lifecycle.state = .starting ∨ lifecycle.state = .stopping) :
    (lifecycle.failStart error).verdict =
      { lifecycle.verdict.recordFailure error with state := .stopping } := by
  by_cases hcause : lifecycle.stopCause = .none <;> obtain hstate | hstate := hstate <;>
    simp [failStart, verdict, Verdict.recordFailure, hcause, hstate]

theorem failStart_moves (error : DNSStartError)
    (hstate : lifecycle.state = .starting ∨ lifecycle.state = .stopping) :
    Moves .attempt lifecycle.verdict (lifecycle.failStart error).verdict := by
  rw [failStart_verdict lifecycle error hstate]
  exact Moves.failStart lifecycle.verdict error hstate

@[simp] theorem failStart_initInProgress (lifecycle : Lifecycle) (error : DNSStartError) :
    (lifecycle.failStart error).initInProgress = lifecycle.initInProgress := by
  unfold failStart
  dsimp only
  split <;> rfl

/-- The body of `request_stop`: it returns at once when there is nothing to stop,
ends a service that never started, or leaves it stopping with a cause. -/
theorem requestStop_moves {action : StopAction} (h : lifecycle.requestStop = (action, next)) :
    Moves .anyone lifecycle.verdict next.verdict ∧ next.initInProgress = lifecycle.initInProgress ∧
      (action = .stopRuntime → next.stopCause ≠ .none) ∧
      (lifecycle.stopCause = .none → next.stopCause ≠ .fatal) := by
  by_cases hdone : lifecycle.state = .empty ∨ lifecycle.state = .stopped ∨ lifecycle.state = .failed
  · rw [requestStop, if_pos hdone] at h
    obtain ⟨rfl, rfl⟩ := Prod.mk.inj h
    refine ⟨Moves.keep .anyone _, rfl, nofun, fun hnone => ?_⟩
    rw [hnone]
    nofun
  by_cases hinitialized : lifecycle.state = .initialized
  · rw [requestStop, if_neg hdone, if_pos hinitialized] at h
    obtain ⟨rfl, rfl⟩ := Prod.mk.inj h
    exact ⟨Moves.abandon lifecycle.verdict hinitialized, rfl, nofun, nofun⟩
  · rw [requestStop, if_neg hdone, if_neg hinitialized] at h
    obtain ⟨rfl, rfl⟩ := Prod.mk.inj h
    have hrunning : lifecycle.state.running := by
      revert hdone hinitialized
      unfold DNSLifecycleState.running
      cases lifecycle.state <;> simp
    refine ⟨?_, rfl, fun _ => ?_, fun hnone => ?_⟩
    · have hstop := Moves.stop lifecycle.verdict hrunning
      convert hstop using 1
      obtain hstate | hstate | hstate := hrunning <;> simp [verdict, hstate]
    · show (if lifecycle.stopCause = .none then StopCause.explicit else lifecycle.stopCause) ≠ .none
      split_ifs with hnone
      · nofun
      · exact hnone
    · show (if lifecycle.stopCause = .none then StopCause.explicit else lifecycle.stopCause) ≠ .fatal
      rw [if_pos hnone]
      nofun

/-- A service that has ended is not stopped again. -/
theorem requestStop_terminal (hstate : lifecycle.state.terminal) :
    lifecycle.requestStop = (.nothing, lifecycle) :=
  if_pos (Or.inr hstate)

theorem acceptFatalLocked_moves {error : DNSFatalError}
    (h : lifecycle.acceptFatalLocked error = some next) :
    Moves .anyone lifecycle.verdict next.verdict ∧ next.initInProgress = lifecycle.initInProgress ∧
      next.stopCause = .fatal := by
  unfold acceptFatalLocked at h
  split at h
  · cases h
  · rename_i hguard
    have hstate : lifecycle.state = .active := not_not.mp fun hne => hguard (Or.inl hne)
    have hcause : lifecycle.stopCause = .none := not_not.mp fun hne => hguard (Or.inr hne)
    obtain rfl := Option.some.inj h
    exact ⟨Moves.fatal lifecycle.verdict error hstate hcause, rfl, rfl⟩

/-- The body of a role main: an exit that was expected changes nothing, and the
other two leave a stop cause. -/
theorem roleExited_moves {exit : RoleExit} {attempt : UInt64} {found : RoleVerdict}
    (h : lifecycle.roleExited exit attempt = (found, next)) :
    Moves .anyone lifecycle.verdict next.verdict ∧ next.initInProgress = lifecycle.initInProgress ∧
      (found = .expected → next = lifecycle) ∧ (found ≠ .expected → next.stopCause ≠ .none) ∧
      (lifecycle.stopCause = .none → next.stopCause = .fatal →
        ∃ error, found = .runtimeFailure error) ∧
      (lifecycle.stopCause = .none → next.stopCause ≠ .explicit) := by
  unfold roleExited at h
  split_ifs at h with hexpected hstarting hcause hactive
  · obtain ⟨rfl, rfl⟩ := Prod.mk.inj h
    exact ⟨Moves.keep .anyone _, rfl, fun _ => rfl, nofun, by simp_all, by simp_all⟩
  · obtain ⟨rfl, rfl⟩ := Prod.mk.inj h
    refine ⟨?_, rfl, nofun, by simp, by simp, by simp⟩
    have hmove := Moves.roleFailure lifecycle.verdict exit.startError hstarting
    simpa [Verdict.recordFailure, verdict, hcause] using hmove
  · obtain ⟨rfl, rfl⟩ := Prod.mk.inj h
    refine ⟨?_, rfl, nofun, fun _ => hcause, by simp_all, by simp_all⟩
    have hmove := Moves.roleFailure lifecycle.verdict exit.startError hstarting
    simpa [Verdict.recordFailure, verdict, hcause] using hmove
  · split at h
    · rename_i accepted haccepted
      obtain ⟨rfl, rfl⟩ := Prod.mk.inj h
      obtain ⟨hmove, hinit, hfatal⟩ := acceptFatalLocked_moves haccepted
      refine ⟨hmove, hinit, nofun, ?_, fun _ _ => ⟨_, rfl⟩, ?_⟩
      · intro _
        rw [hfatal]
        simp
      · intro _
        rw [hfatal]
        simp
    · obtain ⟨rfl, rfl⟩ := Prod.mk.inj h
      exact ⟨Moves.keep .anyone _, rfl, fun _ => rfl, nofun, by simp_all, by simp_all⟩
  · obtain ⟨rfl, rfl⟩ := Prod.mk.inj h
    exact ⟨Moves.keep .anyone _, rfl, fun _ => rfl, nofun, by simp_all, by simp_all⟩

/-- A role that ends before the service starts changes nothing. -/
theorem roleExited_empty (exit : RoleExit) (attempt : UInt64) (hempty : lifecycle.state = .empty) :
    lifecycle.roleExited exit attempt = (.expected, lifecycle) := by
  unfold roleExited
  rw [hempty]
  simp

theorem teardownIncomplete_moves
    (hstate : lifecycle.state = .active ∨ lifecycle.state = .stopping) :
    Moves .teardown lifecycle.verdict lifecycle.teardownIncomplete.verdict :=
  Moves.incomplete lifecycle.verdict hstate

theorem release_moves (hstate : lifecycle.state = .active ∨ lifecycle.state = .stopping) :
    Moves .teardown lifecycle.verdict lifecycle.release.verdict :=
  Moves.release lifecycle.verdict hstate

end Lifecycle

/-! ## Facts about a move -/

/-- A cause that stays `None` is not newly set. -/
theorem StopCause.not_set {cause cause' new : StopCause} (hkept : cause' = cause)
    (hnone : cause = .none) (hnew : cause' = new) (hne : new ≠ .none) : False := by
  apply hne
  calc
    new = cause' := hnew.symm
    _ = cause := hkept
    _ = .none := hnone

namespace Verdict

variable {party : Party} {verdict next : Verdict}

theorem recordFailure_of_cause {error : DNSStartError} (hcause : verdict.cause ≠ .none) :
    verdict.recordFailure error = verdict := if_neg hcause

/-- The state never goes back. -/
theorem Moves.forward (h : Moves party verdict next) : verdict.state.Forward next.state := by
  cases h with
  | keep => exact .refl _
  | initialized _ hstate | abandon _ hstate | accept _ hstate | commit _ hstate _
  | fatal _ _ hstate _ | roleFailure _ _ hstate =>
    apply Or.inr
    simp [hstate, DNSLifecycleState.rank]
  | stop _ hstate =>
    obtain hstate | hstate | hstate := hstate <;>
      simp [hstate, DNSLifecycleState.Forward, DNSLifecycleState.rank]
  | failStart _ _ hstate | incomplete _ hstate =>
    obtain hstate | hstate := hstate <;>
      simp [hstate, DNSLifecycleState.Forward, DNSLifecycleState.rank]
  | release _ hstate =>
    apply Or.inr
    obtain hstate | hstate := hstate <;> dsimp only <;> split <;>
      simp [hstate, DNSLifecycleState.rank]

/-- A state up to `Active` has no stop cause. -/
def Causeless (verdict : Verdict) : Prop := verdict.state.rank ≤ 3 → verdict.cause = .none

/-- A stop cause stays, and the errors with it. -/
theorem Moves.cause_kept (h : Moves party verdict next) (hcauseless : verdict.Causeless)
    (hcause : verdict.cause ≠ .none) :
    next.cause = verdict.cause ∧ next.startupError = verdict.startupError ∧
      next.fatalError = verdict.fatalError := by
  -- Before the service starts there is no cause.
  have hearly : verdict.state ≠ .initialized := by
    intro hstate
    apply hcause
    apply hcauseless
    rw [hstate]
    decide
  cases h with
  | keep | initialized | commit | incomplete | release => exact ⟨rfl, rfl, rfl⟩
  | abandon _ hstate | accept _ hstate => exact absurd hstate hearly
  | fatal _ _ _ hnone => exact absurd hnone hcause
  | stop => exact ⟨if_neg hcause, rfl, rfl⟩
  | roleFailure _ error | failStart _ error =>
    rw [recordFailure_of_cause hcause]
    exact ⟨rfl, rfl, rfl⟩

/-- Nothing moves once the service has ended. -/
theorem Moves.terminal (h : Moves party verdict next) (hterminal : verdict.state.terminal) :
    next = verdict := by
  cases h with
  | keep => rfl
  | initialized _ hstate | abandon _ hstate | accept _ hstate | commit _ hstate _
  | fatal _ _ hstate _ | roleFailure _ _ hstate =>
    simp [DNSLifecycleState.terminal, hstate] at hterminal
  | stop _ hstate =>
    obtain hstate | hstate | hstate := hstate <;>
      simp [DNSLifecycleState.terminal, hstate] at hterminal
  | failStart _ _ hstate | incomplete _ hstate | release _ hstate =>
    obtain hstate | hstate := hstate <;> simp [DNSLifecycleState.terminal, hstate] at hterminal

theorem Moves.causeless (h : Moves party verdict next) (hcauseless : verdict.Causeless) :
    next.Causeless := by
  intro hrank
  cases h with
  | keep => exact hcauseless hrank
  | initialized _ hstate =>
    apply hcauseless
    simp [hstate, DNSLifecycleState.rank]
  | accept => rfl
  | commit _ _ hcause => exact hcause
  | abandon | stop | fatal | roleFailure | failStart | incomplete =>
    simp [DNSLifecycleState.rank] at hrank
  | release =>
    exfalso
    revert hrank
    dsimp only
    split <;> simp [DNSLifecycleState.rank]

/-- A body without `startup_mutex_` leaves a start attempt starting or stopping. -/
theorem Moves.attempt (h : Moves .anyone verdict next)
    (hstate : verdict.state = .starting ∨ verdict.state = .stopping) :
    next.state = .starting ∨ next.state = .stopping := by
  cases h with
  | keep => exact hstate
  | initialized _ h | abandon _ h | fatal _ _ h _ =>
    rw [h] at hstate
    simp at hstate
  | stop | roleFailure => exact Or.inr rfl

/-- A body without `startup_mutex_` leaves a teardown active or stopping. -/
theorem Moves.teardown (h : Moves .anyone verdict next)
    (hstate : verdict.state = .active ∨ verdict.state = .stopping) :
    next.state = .active ∨ next.state = .stopping := by
  cases h with
  | keep => exact hstate
  | initialized _ h | abandon _ h | roleFailure _ _ h =>
    rw [h] at hstate
    simp at hstate
  | stop | fatal => exact Or.inr rfl

/-- Only the holder of `startup_mutex_` makes the service start. -/
theorem Moves.starting (h : Moves .anyone verdict next) (hstate : next.state = .starting) :
    verdict.state = .starting := by
  cases h with
  | keep => exact hstate
  | initialized | abandon | stop | roleFailure | fatal => cases hstate

/-- A final state agrees with the cause. -/
def Final (verdict : Verdict) : Prop :=
  (verdict.state = .stopped → verdict.cause = .explicit) ∧
    (verdict.state = .failed → verdict.cause ≠ .explicit)

theorem Moves.final (h : Moves party verdict next) (hfinal : verdict.Final) : next.Final := by
  cases h with
  | keep => exact hfinal
  | initialized | accept | commit | stop | roleFailure | fatal | failStart | incomplete =>
    exact ⟨nofun, nofun⟩
  | abandon => exact ⟨fun _ => rfl, nofun⟩
  | release =>
    unfold Final
    dsimp only
    split_ifs with hcause
    · exact ⟨fun _ => hcause, nofun⟩
    · exact ⟨nofun, fun _ => hcause⟩

/-- A state from `Stopping` on has a stop cause. -/
def Caused (verdict : Verdict) : Prop := 4 ≤ verdict.state.rank → verdict.cause ≠ .none

theorem recordFailure_cause (verdict : Verdict) (error : DNSStartError) :
    (verdict.recordFailure error).cause ≠ .none := by
  unfold recordFailure
  split_ifs with hcause
  · nofun
  · exact hcause

/-- What stops the service has a cause, if every teardown has one. -/
theorem Moves.caused (h : Moves party verdict next) (hcaused : verdict.Caused)
    (hteardown : party = .teardown → verdict.cause ≠ .none) : next.Caused := by
  intro hrank
  cases h with
  | keep => exact hcaused hrank
  | initialized | accept | commit => simp [DNSLifecycleState.rank] at hrank
  | abandon | fatal => nofun
  | stop =>
    dsimp only
    split_ifs with hcause
    · nofun
    · exact hcause
  | roleFailure _ error | failStart _ error => exact recordFailure_cause verdict error
  | incomplete | release => exact hteardown rfl

/-- A cause that is set to `StartupFailure` stops a service that was starting. -/
theorem Moves.startupFailure (h : Moves party verdict next) (hcaused : verdict.Caused)
    (hnone : verdict.cause = .none) (hfailure : next.cause = .startupFailure) :
    verdict.state = .starting ∧ next.state = .stopping := by
  cases h with
  | keep | initialized | commit | incomplete | release =>
    rw [show verdict.cause = .startupFailure from hfailure] at hnone
    cases hnone
  | abandon | fatal | accept => cases hfailure
  | stop => rw [if_pos hnone] at hfailure; cases hfailure
  | roleFailure _ _ hstate => exact ⟨hstate, rfl⟩
  | failStart _ _ hstate =>
    obtain hstate | hstate := hstate
    · exact ⟨hstate, rfl⟩
    · refine absurd hnone (hcaused ?_)
      rw [hstate]
      decide

/-- From `Empty` the service can only be initialized. -/
theorem Moves.empty (h : Moves party verdict next) (hstate : verdict.state = .empty) :
    next.state = .empty ∨ next.state = .initialized := by
  cases h with
  | keep => exact Or.inl hstate
  | initialized => exact Or.inr rfl
  | abandon _ h | roleFailure _ _ h | fatal _ _ h _ | accept _ h | commit _ h _ =>
    rw [h] at hstate
    cases hstate
  | stop _ h => obtain h | h | h := h <;> rw [h] at hstate <;> cases hstate
  | failStart _ _ h | incomplete _ h | release _ h =>
    obtain h | h := h <;> rw [h] at hstate <;> cases hstate

end Verdict

end DnsPro.Service
