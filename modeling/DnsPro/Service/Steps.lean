import DnsPro.Lib.Mutex
import DnsPro.Lib.Transition
import DnsPro.Service.System
import DnsPro.Service.Verdict

/-!
# What a step of a thread can do

The program counters fall into a few phases: what a thread holds, what it owes,
and what it may rely on.  `Advances` is everything that the invariants and the
main results use of a step of a thread, and `stepThread_advances` says it of
every step; no later proof looks into `stepThread` again.
-/

namespace DnsPro.Service

open DnsPro.Publication
open Verdict (Moves Party)

/-! ## Phases -/

/-- Where a thread stands, as far as the locks and the stop cause are concerned.
The `Bool` is whether the call is the rollback of a start attempt. -/
inductive Phase where
  | outside
  | building
  | stopping
  | deciding
  | attempting
  | rollingBack
  | returning
  | entering (starts : Bool)
  | examining (starts : Bool)
  | tearing (starts : Bool)
  deriving DecidableEq, Repr

namespace Phase

def ownsStartup : Phase → Bool
  | .outside | .building | .stopping => false
  | _ => true

def ownsJoin : Phase → Bool
  | .examining _ | .tearing _ => true
  | _ => false

/-- The thread is about to stop the runtime, or is stopping it. -/
def stopDue : Phase → Bool
  | .stopping | .rollingBack | .tearing _ => true
  | .entering starts | .examining starts => starts
  | _ => false

/-- The thread is in a start attempt that was accepted. -/
def accepted : Phase → Bool
  | .attempting | .rollingBack | .returning => true
  | .entering starts | .examining starts | .tearing starts => starts
  | _ => false

end Phase

/-- Whether a thread in the phase may be the party of a body. -/
def Phase.Plays (phase : Phase) : Party → Prop
  | .anyone => True
  | .attempt => phase.ownsStartup = true
  | .teardown => ∃ starts, phase = .tearing starts

theorem Phase.Plays.ownsStartup {phase : Phase} {party : Party} (h : phase.Plays party)
    (hparty : party ≠ .anyone) : phase.ownsStartup = true := by
  cases party with
  | anyone => exact absurd rfl hparty
  | attempt => exact h
  | teardown =>
    obtain ⟨_, rfl⟩ := h
    rfl

def StartStage.phase : StartStage → Phase
  | .lock => .outside
  | .check => .deciding
  | .failStop _ => .rollingBack
  | .result _ => .returning
  | _ => .attempting

def Caller.starts : Caller → Bool
  | .start _ => true
  | .join | .wait => false

def TeardownStage.phase (starts : Bool) : TeardownStage → Phase
  | .check => .examining starts
  | _ => .tearing starts

namespace Pc

def phase : Pc → Phase
  | .init .build _ => .building
  | .start stage _ => stage.phase
  | .requestStop true _ | .fatalStop => .stopping
  | .lockJoin caller => .entering caller.starts
  | .teardown stage caller _ => stage.phase caller.starts
  | _ => .outside

end Pc

/-- What a thread in the given phase relies on. -/
structure Phase.Ok (lifecycle : Lifecycle) (phase : Phase) : Prop where
  building : phase = .building → lifecycle.initInProgress = true ∧ lifecycle.state = .empty
  attempt : phase = .attempting → lifecycle.state = .starting ∨ lifecycle.state = .stopping
  tearing : ∀ starts, phase = .tearing starts →
    lifecycle.state = .active ∨ lifecycle.state = .stopping

/-! ## The effect of a step -/

/-- What an event of a step says about the step. -/
def EventOk (thread : ThreadId) (shared : Shared) (phase : Phase) (shared' : Shared) :
    Event → Prop
  | .called _ _ => False
  | .activated => shared.lifecycle.state = .starting ∧ shared'.lifecycle.state = .active
  | .runtimeStop _ => phase.stopDue = true
  | .startReturned returned result =>
    returned = thread ∧ (phase.accepted = false →
      result = .error (makeStartError .invalidLifecycleState .none 0))
  | .exitReturned returned result =>
    returned = thread ∧
      ((shared'.lifecycle.teardownDone ∧ result = shared'.lifecycle.exitResultLocked) ∨
        shared'.lifecycle.state = .stopping ∧ result = shared'.lifecycle.incompleteResult)
  | .fatalAccepted _ | .initReturned _ _ | .replaceReturned _ _ => True

/-- The effect of a step of `thread` that takes it from `pc` to `pc'`. -/
structure Advances (thread : ThreadId) (shared : Shared) (pc : Pc) (shared' : Shared) (pc' : Pc) :
    Prop where
  moves : ∃ party, pc.phase.Plays party ∧
    Moves party shared.lifecycle.verdict shared'.lifecycle.verdict
  startup : Mutex.Moves thread pc.phase.ownsStartup pc'.phase.ownsStartup shared.startupMutex
    shared'.startupMutex
  join : Mutex.Moves thread pc.phase.ownsJoin pc'.phase.ownsJoin shared.joinMutex shared'.joinMutex
  ok : pc'.phase.Ok shared'.lifecycle
  attempt : shared'.lifecycle.state = .starting →
    (pc.phase = .attempting ∨ shared.lifecycle.state ≠ .starting) → pc'.phase = .attempting
  initialized : shared.lifecycle.state = .empty → shared'.lifecycle.state ≠ .empty →
    pc.phase = .building
  building : pc.phase ≠ .building →
    (pc'.phase = .building ∧ shared.lifecycle.initInProgress = false ∧
      shared'.lifecycle.initInProgress = true) ∨
    (pc'.phase ≠ .building ∧ shared'.lifecycle.initInProgress = shared.lifecycle.initInProgress)
  accepted : pc.phase.accepted = false → pc'.phase.accepted = true →
    shared.lifecycle.state = .initialized
  due : pc'.phase.stopDue = true → shared'.lifecycle.stopCause ≠ .none ∨
    pc.phase.stopDue = true ∨ (pc.phase = .examining false ∧ ¬ shared.lifecycle.teardownDone)
  explicit : shared.lifecycle.stopCause = .none → shared'.lifecycle.stopCause = .explicit →
    ∃ joins, pc = .requestStop false joins
  stopCall : ∀ joins, pc' ≠ .requestStop false joins
  fatal : shared.lifecycle.stopCause = .none → shared'.lifecycle.stopCause = .fatal →
    ∃ error, Event.fatalAccepted error ∈ shared'.log
  roles : ∀ role, shared'.roles role = .stopping → shared.roles role = .stopping
  log : ∃ events, shared'.log = events ++ shared.log ∧
    ∀ event ∈ events, EventOk thread shared pc.phase shared' event

variable {thread : ThreadId} {shared shared' : Shared} {pc pc' : Pc} {choice : Choice}

/-- What a step without effect on the verdict leaves alone besides it. -/
structure Shared.Keeps (shared shared' : Shared) : Prop where
  verdict : shared'.lifecycle.verdict = shared.lifecycle.verdict
  initInProgress : shared'.lifecycle.initInProgress = shared.lifecycle.initInProgress
  roles : ∀ role, shared'.roles role = .stopping → shared.roles role = .stopping

namespace Shared.Keeps

theorem state (h : shared.Keeps shared') : shared'.lifecycle.state = shared.lifecycle.state :=
  congrArg Verdict.state h.verdict

theorem cause (h : shared.Keeps shared') :
    shared'.lifecycle.stopCause = shared.lifecycle.stopCause := congrArg Verdict.cause h.verdict

theorem ok (h : shared.Keeps shared') {phase : Phase} (hok : phase.Ok shared.lifecycle) :
    phase.Ok shared'.lifecycle := by
  constructor
  · rw [h.state, h.initInProgress]
    exact hok.building
  · rw [h.state]
    exact hok.attempt
  · rw [h.state]
    exact hok.tearing

theorem refl (shared : Shared) : shared.Keeps shared := ⟨rfl, rfl, fun _ h => h⟩

/-- A body that does not touch the roles. -/
theorem of_roles (hverdict : shared'.lifecycle.verdict = shared.lifecycle.verdict)
    (hinit : shared'.lifecycle.initInProgress = shared.lifecycle.initInProgress)
    (hroles : shared'.roles = shared.roles) : shared.Keeps shared' :=
  ⟨hverdict, hinit, fun _ h => hroles ▸ h⟩

end Shared.Keeps

/-- The stage of another role is not touched. -/
theorem setRole_stopping {role other : Role} {stage : RoleStage} (hstage : stage ≠ .stopping)
    (h : (shared.setRole role stage).roles other = .stopping) : shared.roles other = .stopping := by
  by_cases heq : other = role
  · simp [Shared.setRole, heq, hstage] at h
  · simpa [Shared.setRole, heq] using h

/-- A phase that relies on nothing. -/
theorem Phase.ok_of_free {lifecycle : Lifecycle} {phase : Phase} (hbuilding : phase ≠ .building)
    (hattempt : phase ≠ .attempting) (htearing : ∀ starts, phase ≠ .tearing starts) :
    phase.Ok lifecycle :=
  ⟨fun h => absurd h hbuilding, fun h => absurd h hattempt,
    fun starts h => absurd h (htearing starts)⟩

/-- A step that keeps the verdict. -/
theorem advances_of_keeps (hkeeps : shared.Keeps shared')
    (hstartup : Mutex.Moves thread pc.phase.ownsStartup pc'.phase.ownsStartup shared.startupMutex
      shared'.startupMutex)
    (hjoin : Mutex.Moves thread pc.phase.ownsJoin pc'.phase.ownsJoin shared.joinMutex
      shared'.joinMutex)
    (hok : pc'.phase.Ok shared'.lifecycle)
    (hattempt : pc.phase = .attempting → pc'.phase = .attempting)
    (hbuilding : pc'.phase ≠ .building)
    (haccepted : pc'.phase.accepted = true → pc.phase.accepted = true)
    (hdue : pc'.phase.stopDue = true → pc.phase.stopDue = true ∨
      (pc.phase = .examining false ∧ ¬ shared.lifecycle.teardownDone))
    (hcall : ∀ joins, pc' ≠ .requestStop false joins)
    (hlog : ∃ events, shared'.log = events ++ shared.log ∧
      ∀ event ∈ events, EventOk thread shared pc.phase shared' event) :
    Advances thread shared pc shared' pc' where
  moves := ⟨.anyone, trivial, hkeeps.verdict ▸ Moves.keep .anyone _⟩
  startup := hstartup
  join := hjoin
  ok := hok
  attempt hstate hcase := by
    rw [hkeeps.state] at hstate
    exact hattempt (hcase.resolve_right fun hne => hne hstate)
  initialized hempty hne := absurd (hkeeps.state.trans hempty) hne
  building _ := Or.inr ⟨hbuilding, hkeeps.initInProgress⟩
  accepted hnot haccepts := by
    rw [haccepted haccepts] at hnot
    cases hnot
  due h := Or.inr (hdue h)
  explicit hnone hexplicit := (StopCause.not_set hkeeps.cause hnone hexplicit nofun).elim
  stopCall := hcall
  fatal hnone hfatal := (StopCause.not_set hkeeps.cause hnone hfatal nofun).elim
  roles := hkeeps.roles
  log := hlog

/-- A step inside one phase that keeps the verdict and the mutexes. -/
theorem advances_of_same (hok : pc.phase.Ok shared.lifecycle) (hkeeps : shared.Keeps shared')
    (hphase : pc'.phase = pc.phase) (hbuilding : pc.phase ≠ .building)
    (hstartup : shared'.startupMutex = shared.startupMutex)
    (hjoin : shared'.joinMutex = shared.joinMutex)
    (hcall : ∀ joins, pc' ≠ .requestStop false joins)
    (hlog : ∃ events, shared'.log = events ++ shared.log ∧
      ∀ event ∈ events, EventOk thread shared pc.phase shared' event) :
    Advances thread shared pc shared' pc' := by
  apply advances_of_keeps hkeeps
  · rw [hphase, hstartup]
    exact Mutex.moves_same _ _ _
  · rw [hphase, hjoin]
    exact Mutex.moves_same _ _ _
  · rw [hphase]
    exact hkeeps.ok hok
  · rw [hphase]
    exact id
  · rw [hphase]
    exact hbuilding
  · rw [hphase]
    exact id
  · rw [hphase]
    exact Or.inl
  · exact hcall
  · exact hlog

/-- A step that logs nothing. -/
theorem log_nil {phase : Phase} (h : shared'.log = shared.log) :
    ∃ events, shared'.log = events ++ shared.log ∧
      ∀ event ∈ events, EventOk thread shared phase shared' event :=
  ⟨[], h, by simp⟩

/-- A step that logs one event. -/
theorem log_one {phase : Phase} {event : Event} (h : shared'.log = event :: shared.log)
    (hevent : EventOk thread shared phase shared' event) :
    ∃ events, shared'.log = events ++ shared.log ∧
      ∀ event ∈ events, EventOk thread shared phase shared' event :=
  ⟨[event], h, by simpa using hevent⟩

/-! ## `init` -/

theorem stepInit_advances {config : DNSConfig} {stage : InitStage}
    (hok : (Pc.init stage config).phase.Ok shared.lifecycle)
    (hstep : shared.stepInit thread choice config stage = (shared', pc')) :
    Advances thread shared (.init stage config) shared' pc' := by
  cases stage with
  | check =>
    simp only [Shared.stepInit] at hstep
    split at hstep
    · obtain ⟨rfl, rfl⟩ := Prod.mk.inj hstep
      exact advances_of_same hok (.of_roles rfl rfl rfl) rfl nofun rfl rfl nofun
        (log_one rfl trivial)
    · rename_i lifecycle hbegin
      obtain ⟨rfl, rfl⟩ := Prod.mk.inj hstep
      obtain ⟨hempty, hidle, rfl⟩ := Lifecycle.beginInit_eq hbegin
      exact
        { moves := ⟨.anyone, trivial, Moves.keep .anyone _⟩
          startup := rfl
          join := rfl
          ok := ⟨fun _ => ⟨rfl, hempty⟩, nofun, nofun⟩
          attempt := fun hstate _ => by
            rw [show shared.lifecycle.state = .starting from hstate] at hempty
            cases hempty
          initialized := fun _ hne => absurd hempty hne
          building := fun _ => Or.inl ⟨rfl, hidle, rfl⟩
          accepted := nofun
          due := nofun
          explicit := fun hnone hexplicit => (StopCause.not_set rfl hnone hexplicit nofun).elim
          stopCall := nofun
          fatal := fun hnone hfatal => (StopCause.not_set rfl hnone hfatal nofun).elim
          roles := fun _ h => h
          log := log_nil rfl }
  | build =>
    -- Every way out of the build leaves `initInProgress` clear; only one initializes.
    obtain ⟨_, hempty⟩ := hok.building rfl
    have hleave : ∀ (lifecycle : Lifecycle) (result : Bool),
        Moves .anyone shared.lifecycle.verdict lifecycle.verdict →
        (lifecycle.state = .empty ∨ lifecycle.state = .initialized) →
        lifecycle.stopCause = shared.lifecycle.stopCause →
        Advances thread shared (.init .build config)
          ((shared.setLifecycle lifecycle).record (.initReturned thread result)) .idle := by
      intro lifecycle result hmoves hstate hcause
      exact
        { moves := ⟨.anyone, trivial, hmoves⟩
          startup := rfl
          join := rfl
          ok := Phase.ok_of_free nofun nofun nofun
          attempt := fun hstarting _ => by
            rw [show lifecycle.state = .starting from hstarting] at hstate
            simp at hstate
          initialized := fun _ _ => rfl
          building := fun hne => absurd rfl hne
          accepted := nofun
          due := nofun
          explicit := fun hnone hexplicit => (StopCause.not_set hcause hnone hexplicit nofun).elim
          stopCall := nofun
          fatal := fun hnone hfatal => (StopCause.not_set hcause hnone hfatal nofun).elim
          roles := fun _ h => h
          log := log_one rfl trivial }
    have habandon := hleave shared.lifecycle.abandonInit false (Moves.keep .anyone _)
      (Or.inl hempty) rfl
    simp only [Shared.stepInit] at hstep
    split at hstep
    · split at hstep
      · obtain ⟨rfl, rfl⟩ := Prod.mk.inj hstep
        exact habandon
      · obtain ⟨rfl, rfl⟩ := Prod.mk.inj hstep
        exact hleave _ true (Lifecycle.finishInit_moves _ _ hempty) (Or.inr rfl) rfl
    · obtain ⟨rfl, rfl⟩ := Prod.mk.inj hstep
      exact habandon

/-! ## `start` -/

@[simp] theorem supervisorBuilt_phase (enabled : Bool) :
    (Shared.supervisorBuilt enabled).phase = .attempting := by
  cases enabled <;> rfl

@[simp] theorem threadStored_phase (enabled : Bool) (role : Role) :
    (Shared.threadStored enabled role).phase = .attempting := by
  cases role <;> cases enabled <;> rfl

@[simp] theorem roleReady_phase (role : Role) : (Shared.roleReady role).phase = .attempting := by
  cases role <;> rfl

/-- A step of an attempt that goes on, or that goes to its failure. -/
theorem attempt_advances {stage stage' : StartStage} {attempt attempt' : UInt64}
    (hok : (Pc.start stage attempt).phase.Ok shared.lifecycle) (hstage : stage.phase = .attempting)
    (hstage' : stage'.phase = .attempting) (hkeeps : shared.Keeps shared')
    (hstartup : shared'.startupMutex = shared.startupMutex)
    (hjoin : shared'.joinMutex = shared.joinMutex) (hlog : shared'.log = shared.log) :
    Advances thread shared (.start stage attempt) shared' (.start stage' attempt') := by
  refine advances_of_same hok hkeeps (hstage'.trans hstage.symm) ?_ hstartup hjoin nofun
    (log_nil hlog)
  show stage.phase ≠ .building
  rw [hstage]
  nofun

/-- A thread that holds only `startup_mutex_` returns from `start`. -/
theorem startReturned_advances {stage : StartStage} {attempt : UInt64} {result : DNSStartResult}
    (hphase : stage.phase = .deciding ∨ stage.phase = .returning)
    (hresult : stage.phase.accepted = false →
      result = .error (makeStartError .invalidLifecycleState .none 0)) :
    Advances thread shared (.start stage attempt)
      (shared.record (.startReturned thread result)).releaseStartup .idle := by
  have hpc : (Pc.start stage attempt).phase = stage.phase := rfl
  have hkeeps : shared.Keeps (shared.record (.startReturned thread result)).releaseStartup :=
    .of_roles rfl rfl rfl
  apply advances_of_keeps hkeeps
  · obtain h | h := hphase <;> rw [hpc, h] <;> rfl
  · obtain h | h := hphase <;> rw [hpc, h] <;> rfl
  · exact Phase.ok_of_free nofun nofun nofun
  · obtain h | h := hphase <;> rw [hpc, h] <;> nofun
  · nofun
  · nofun
  · nofun
  · nofun
  · exact log_one rfl ⟨rfl, hresult⟩

/-- The first body of an accepted `start`. -/
theorem accept_advances {attempt : UInt64} {lifecycle : Lifecycle}
    (haccept : shared.lifecycle.acceptStart = some lifecycle) :
    Advances thread shared (.start .check attempt) (shared.setLifecycle lifecycle)
      (.start .reset lifecycle.startupAttemptId) := by
  obtain ⟨hmoves, hstarting, hinit⟩ := Lifecycle.acceptStart_moves haccept
  have hinitialized : shared.lifecycle.state = .initialized := by
    by_contra hne
    rw [Lifecycle.acceptStart_refused hne] at haccept
    cases haccept
  have hcause : lifecycle.stopCause = .none := by
    unfold Lifecycle.acceptStart at haccept
    split at haccept
    · cases haccept
    · rw [← Option.some.inj haccept]
  exact
    { moves := ⟨.attempt, rfl, hmoves⟩
      startup := rfl
      join := rfl
      ok := ⟨nofun, fun _ => Or.inl hstarting, nofun⟩
      attempt := fun _ _ => rfl
      initialized := fun hempty _ => by
        rw [hinitialized] at hempty
        cases hempty
      building := fun _ => Or.inr ⟨nofun, hinit⟩
      accepted := fun _ _ => hinitialized
      due := nofun
      explicit := fun _ hexplicit => (StopCause.not_set hcause rfl hexplicit nofun).elim
      stopCall := nofun
      fatal := fun _ hfatal => (StopCause.not_set hcause rfl hfatal nofun).elim
      roles := fun _ h => h
      log := log_nil rfl }

/-- The body that commits the service to `Active`. -/
theorem commit_advances {attempt : UInt64} {info : SupervisorStartupInfo} {lifecycle : Lifecycle}
    {result : DNSStartResult} (hstarting : shared.lifecycle.state = .starting)
    (hnone : shared.lifecycle.stopCause = .none)
    (hverdict : lifecycle.verdict = { shared.lifecycle.verdict with state := .active })
    (hinit : lifecycle.initInProgress = shared.lifecycle.initInProgress) :
    Advances thread shared (.start (.commit info) attempt)
      (((shared.setLifecycle lifecycle).record .activated).record
        (.startReturned thread result)).releaseStartup .idle where
  moves := ⟨.attempt, rfl, by
    show Moves .attempt _ lifecycle.verdict
    rw [hverdict]
    exact Moves.commit shared.lifecycle.verdict hstarting hnone⟩
  startup := rfl
  join := rfl
  ok := Phase.ok_of_free nofun nofun nofun
  attempt hstate _ := by
    have hactive : lifecycle.state = .active := congrArg Verdict.state hverdict
    rw [show lifecycle.state = .starting from hstate] at hactive
    cases hactive
  initialized hempty _ := by
    rw [hstarting] at hempty
    cases hempty
  building _ := Or.inr ⟨nofun, hinit⟩
  accepted := nofun
  due := nofun
  explicit hnone hexplicit :=
    (StopCause.not_set (congrArg Verdict.cause hverdict) hnone hexplicit nofun).elim
  stopCall := nofun
  fatal hnone hfatal :=
    (StopCause.not_set (congrArg Verdict.cause hverdict) hnone hfatal nofun).elim
  roles _ h := h
  log := by
    refine ⟨[.startReturned thread result, .activated], rfl, ?_⟩
    intro event hevent
    simp only [List.mem_cons, List.not_mem_nil, or_false] at hevent
    obtain rfl | rfl := hevent
    · exact ⟨rfl, nofun⟩
    · exact ⟨hstarting, congrArg Verdict.state hverdict⟩

/-- The first body of `fail_start`. -/
theorem failStart_advances {attempt : UInt64} {error : DNSStartError}
    (hok : (Pc.start (.fail error) attempt).phase.Ok shared.lifecycle) :
    Advances thread shared (.start (.fail error) attempt)
      (shared.setLifecycle (shared.lifecycle.failStart error))
        (.start (.failStop error) attempt) := by
  have hstate := hok.attempt rfl
  have hverdict := Lifecycle.failStart_verdict shared.lifecycle error hstate
  have hstopping : (shared.lifecycle.failStart error).state = .stopping :=
    congrArg Verdict.state hverdict
  have hcause : (shared.lifecycle.failStart error).stopCause =
      (shared.lifecycle.verdict.recordFailure error).cause := congrArg Verdict.cause hverdict
  have hnew : shared.lifecycle.stopCause = .none →
      (shared.lifecycle.failStart error).stopCause = .startupFailure := by
    intro hnone
    have hverdictNone : shared.lifecycle.verdict.cause = .none := hnone
    rw [hcause, Verdict.recordFailure, if_pos hverdictNone]
  exact
    { moves := ⟨.attempt, rfl, Lifecycle.failStart_moves error hstate⟩
      startup := rfl
      join := rfl
      ok := Phase.ok_of_free (fun h => by cases h) (fun h => by cases h) fun _ h => by cases h
      attempt := fun hstarting _ => by
        rw [show (shared.lifecycle.failStart error).state = .starting from hstarting] at hstopping
        cases hstopping
      initialized := fun hempty _ => by
        rw [hempty] at hstate
        simp at hstate
      building := fun _ =>
        Or.inr ⟨(fun h => by cases h), Lifecycle.failStart_initInProgress _ _⟩
      accepted := fun h => by cases h
      due := fun _ => by
        apply Or.inl
        show (shared.lifecycle.failStart error).stopCause ≠ .none
        rw [hcause]
        exact Verdict.recordFailure_cause _ error
      explicit := fun hnone hexplicit => by
        have hfailure := (hnew hnone).symm.trans hexplicit
        cases hfailure
      stopCall := fun _ h => by cases h
      fatal := fun hnone hfatal => by
        have hfailure := (hnew hnone).symm.trans hfatal
        cases hfailure
      roles := fun _ h => h
      log := log_nil rfl }

/-- What `request_runtime_stop` logs, in a thread that owes it. -/
theorem runtimeStop_log {phase : Phase} (hdue : phase.stopDue = true) :
    ∃ events, shared.requestRuntimeStop.log = events ++ shared.log ∧
      ∀ event ∈ events, EventOk thread shared phase shared.requestRuntimeStop event :=
  log_one rfl hdue

theorem requestRuntimeStop_keeps (shared : Shared) : shared.Keeps shared.requestRuntimeStop :=
  .of_roles rfl rfl rfl

theorem stepStart_advances {attempt : UInt64} {stage : StartStage}
    (hok : (Pc.start stage attempt).phase.Ok shared.lifecycle)
    (hstep : shared.stepStart thread choice attempt stage = some (shared', pc')) :
    Advances thread shared (.start stage attempt) shared' pc' := by
  have hsame := Shared.Keeps.refl shared
  cases stage with
  | lock =>
    obtain ⟨hfree, hnext⟩ := Transition.enabled hstep
    obtain ⟨rfl, rfl⟩ := Prod.mk.inj hnext
    exact advances_of_keeps (.of_roles rfl rfl rfl) ⟨hfree, rfl⟩ rfl
      (Phase.ok_of_free nofun nofun nofun) nofun nofun nofun nofun nofun (log_nil rfl)
  | check =>
    simp only [Shared.stepStart] at hstep
    split at hstep
    · obtain ⟨rfl, rfl⟩ := Prod.mk.inj (Option.some.inj hstep)
      exact startReturned_advances (Or.inl rfl) fun _ => rfl
    · obtain ⟨rfl, rfl⟩ := Prod.mk.inj (Option.some.inj hstep)
      exact accept_advances ‹_›
  | reset =>
    obtain ⟨rfl, rfl⟩ := Prod.mk.inj (Option.some.inj hstep)
    exact attempt_advances hok rfl rfl (.of_roles rfl rfl rfl) rfl rfl rfl
  | supervisor =>
    simp only [Shared.stepStart] at hstep
    split at hstep
    · obtain ⟨rfl, rfl⟩ := Prod.mk.inj (Option.some.inj hstep)
      exact attempt_advances hok rfl rfl hsame rfl rfl rfl
    · obtain ⟨rfl, rfl⟩ := Prod.mk.inj (Option.some.inj hstep)
      exact attempt_advances hok rfl (supervisorBuilt_phase _) (.of_roles rfl rfl rfl)
        rfl rfl rfl
  | create role =>
    simp only [Shared.stepStart] at hstep
    split at hstep
    · obtain ⟨rfl, rfl⟩ := Prod.mk.inj (Option.some.inj hstep)
      exact attempt_advances hok rfl rfl hsame rfl rfl rfl
    · obtain ⟨rfl, rfl⟩ := Prod.mk.inj (Option.some.inj hstep)
      exact attempt_advances hok rfl rfl ⟨rfl, rfl, fun _ => setRole_stopping nofun⟩ rfl rfl rfl
  | store role =>
    obtain ⟨rfl, rfl⟩ := Prod.mk.inj (Option.some.inj hstep)
    exact attempt_advances hok rfl (threadStored_phase _ role) (.of_roles rfl rfl rfl)
      rfl rfl rfl
  | ready role =>
    obtain ⟨_, hstep⟩ := (Option.ite_none_right_eq_some).mp hstep
    split at hstep
    · obtain ⟨rfl, rfl⟩ := Prod.mk.inj (Option.some.inj hstep)
      exact attempt_advances hok rfl rfl hsame rfl rfl rfl
    · split at hstep
      · obtain ⟨rfl, rfl⟩ := Prod.mk.inj (Option.some.inj hstep)
        exact attempt_advances hok rfl rfl hsame rfl rfl rfl
      · obtain ⟨rfl, rfl⟩ := Prod.mk.inj (Option.some.inj hstep)
        exact attempt_advances hok rfl (roleReady_phase role) hsame rfl rfl rfl
  | notReady role =>
    obtain ⟨rfl, rfl⟩ := Prod.mk.inj (Option.some.inj hstep)
    exact attempt_advances hok rfl rfl hsame rfl rfl rfl
  | wait | activate | activated | pause =>
    simp only [Shared.stepStart] at hstep
    split at hstep <;> obtain ⟨rfl, rfl⟩ := Prod.mk.inj (Option.some.inj hstep) <;>
      exact attempt_advances hok rfl rfl hsame rfl rfl rfl
  | commit info =>
    simp only [Shared.stepStart] at hstep
    split at hstep
    · rename_i lifecycle hcommit
      obtain ⟨rfl, rfl⟩ := Prod.mk.inj (Option.some.inj hstep)
      obtain ⟨hinit, ⟨_, hstarting, hnone, hverdict⟩ | ⟨⟨_, herror⟩, _⟩⟩ :=
        Lifecycle.commit_moves hcommit
      · exact commit_advances hstarting hnone hverdict hinit
      · cases herror
    · rename_i error lifecycle hcommit
      obtain ⟨rfl, rfl⟩ := Prod.mk.inj (Option.some.inj hstep)
      obtain ⟨hinit, ⟨hresult, _⟩ | ⟨_, hverdict⟩⟩ := Lifecycle.commit_moves hcommit
      · cases hresult
      · exact attempt_advances hok rfl rfl (.of_roles hverdict hinit rfl) rfl rfl rfl
  | fail error =>
    obtain ⟨rfl, rfl⟩ := Prod.mk.inj (Option.some.inj hstep)
    exact failStart_advances hok
  | failStop error =>
    obtain ⟨rfl, rfl⟩ := Prod.mk.inj (Option.some.inj hstep)
    exact advances_of_keeps (requestRuntimeStop_keeps shared) rfl rfl
      (Phase.ok_of_free nofun nofun nofun) nofun nofun (fun _ => rfl) (fun _ => Or.inl rfl) nofun
      (runtimeStop_log rfl)
  | result error =>
    obtain ⟨rfl, rfl⟩ := Prod.mk.inj (Option.some.inj hstep)
    exact startReturned_advances (Or.inr rfl) nofun

/-! ## `finish_teardown` -/

namespace TeardownStage

variable (stage : TeardownStage) (starts : Bool)

@[simp] theorem phase_ownsStartup : (stage.phase starts).ownsStartup = true := by
  cases stage <;> rfl

@[simp] theorem phase_ownsJoin : (stage.phase starts).ownsJoin = true := by
  cases stage <;> rfl

@[simp] theorem phase_accepted : (stage.phase starts).accepted = starts := by
  cases stage <;> rfl

theorem phase_ne_building : stage.phase starts ≠ .building := by
  cases stage <;> nofun

end TeardownStage

@[simp] theorem joined_phase (joining : Joining) (starts : Bool) :
    joining.joined.phase starts = .tearing starts := by
  cases joining <;> rfl

@[simp] theorem reclaimerJoined_phase (site : FailedReclaimer) (starts : Bool) :
    (Shared.reclaimerJoined site).phase starts = .tearing starts := by
  cases site <;> rfl

/-- A step of a teardown that goes on. -/
theorem teardown_advances {stage stage' : TeardownStage} {caller : Caller}
    {available available' : Bool}
    (hok : (Pc.teardown stage caller available).phase.Ok shared.lifecycle)
    (hstage : stage.phase caller.starts = .tearing caller.starts)
    (hstage' : stage'.phase caller.starts = .tearing caller.starts) (hkeeps : shared.Keeps shared')
    (hstartup : shared'.startupMutex = shared.startupMutex)
    (hjoin : shared'.joinMutex = shared.joinMutex)
    (hlog : shared'.log = shared.log ∨ ∃ part, shared'.log = .runtimeStop part :: shared.log) :
    Advances thread shared (.teardown stage caller available) shared'
      (.teardown stage' caller available') := by
  refine advances_of_same hok hkeeps (hstage'.trans hstage.symm) (stage.phase_ne_building _) hstartup
    hjoin nofun ?_
  obtain hlog | ⟨part, hlog⟩ := hlog
  · exact log_nil hlog
  · apply log_one hlog
    show (stage.phase caller.starts).stopDue = true
    rw [hstage]
    rfl

/-- `finish_teardown` returns, after a last body that leaves `ended`. -/
theorem finishTeardown_advances (ended : Shared) {stage : TeardownStage} {caller : Caller}
    {available : Bool} {result : DNSServiceExitResult}
    (hmoves : ∃ party, (stage.phase caller.starts).Plays party ∧
      Moves party shared.lifecycle.verdict ended.lifecycle.verdict)
    (hcause : ended.lifecycle.stopCause = shared.lifecycle.stopCause)
    (hstate : ended.lifecycle.state ≠ .starting)
    (hempty : shared.lifecycle.state = .empty → ended.lifecycle.state = .empty)
    (hinit : ended.lifecycle.initInProgress = shared.lifecycle.initInProgress)
    (hstartup : ended.startupMutex = shared.startupMutex) (hroles : ended.roles = shared.roles)
    (hlog : ended.log = shared.log ∨
      (stage.phase caller.starts).stopDue = true ∧
        ∃ part, ended.log = .runtimeStop part :: shared.log)
    (hresult : (ended.lifecycle.teardownDone ∧ result = ended.lifecycle.exitResultLocked) ∨
      ended.lifecycle.state = .stopping ∧ result = ended.lifecycle.incompleteResult)
    (hstep : ended.finishTeardown thread result caller = (shared', pc')) :
    Advances thread shared (.teardown stage caller available) shared' pc' := by
  have hpc : (Pc.teardown stage caller available).phase = stage.phase caller.starts := rfl
  have howns : (Pc.teardown stage caller available).phase.ownsStartup = true :=
    stage.phase_ownsStartup _
  have hjoins : (Pc.teardown stage caller available).phase.ownsJoin = true := stage.phase_ownsJoin _
  -- What the two ways to return have in common.
  have hnext : shared'.lifecycle = ended.lifecycle ∧ shared'.roles = ended.roles ∧
      shared'.joinMutex = none ∧
      ((caller.starts = true ∧ pc'.phase = .returning ∧ shared'.startupMutex = ended.startupMutex ∧
          shared'.log = ended.log) ∨
        (pc'.phase = .outside ∧ shared'.startupMutex = none ∧
          shared'.log = .exitReturned thread result :: ended.log)) ∧
      ∀ joins, pc' ≠ .requestStop false joins := by
    cases caller with
    | start error =>
      obtain ⟨rfl, rfl⟩ := Prod.mk.inj hstep
      exact ⟨rfl, rfl, rfl, Or.inl ⟨rfl, rfl, rfl, rfl⟩, nofun⟩
    | join | wait =>
      obtain ⟨rfl, rfl⟩ := Prod.mk.inj hstep
      exact ⟨rfl, rfl, rfl, Or.inr ⟨rfl, rfl, rfl⟩, nofun⟩
  obtain ⟨hlifecycle, hroles', hfree, hways, hcall⟩ := hnext
  have hkept : shared'.lifecycle.stopCause = shared.lifecycle.stopCause := by
    rw [hlifecycle]
    exact hcause
  exact
    { moves := hlifecycle ▸ hmoves
      startup := by
        rw [howns]
        obtain ⟨_, hphase, hkept, _⟩ | ⟨hphase, hnone, _⟩ := hways
        · rw [hphase]
          exact hkept.trans hstartup
        · rw [hphase]
          exact hnone
      join := by
        rw [hjoins]
        obtain ⟨_, hphase, _⟩ | ⟨hphase, _⟩ := hways <;> rw [hphase] <;> exact hfree
      ok := by
        obtain ⟨_, hphase, _⟩ | ⟨hphase, _⟩ := hways <;> rw [hphase] <;>
          exact Phase.ok_of_free nofun nofun nofun
      attempt := fun h _ => absurd (hlifecycle ▸ h) hstate
      initialized := fun h hne => absurd (hempty h) (hlifecycle ▸ hne)
      building := fun _ => by
        refine Or.inr ⟨?_, hlifecycle ▸ hinit⟩
        obtain ⟨_, hphase, _⟩ | ⟨hphase, _⟩ := hways <;> rw [hphase] <;> nofun
      accepted := fun hnot haccepts => by
        rw [hpc, TeardownStage.phase_accepted] at hnot
        obtain ⟨hstarts, _⟩ | ⟨hphase, _⟩ := hways
        · rw [hstarts] at hnot
          cases hnot
        · rw [hphase] at haccepts
          cases haccepts
      due := fun hdue => by
        obtain ⟨_, hphase, _⟩ | ⟨hphase, _⟩ := hways <;> rw [hphase] at hdue <;> cases hdue
      explicit := fun hnone hexplicit => (StopCause.not_set hkept hnone hexplicit nofun).elim
      stopCall := hcall
      fatal := fun hnone hfatal => (StopCause.not_set hkept hnone hfatal nofun).elim
      roles := fun role h => by rwa [hroles', hroles] at h
      log := by
        have hreturned : EventOk thread shared (stage.phase caller.starts) shared'
            (.exitReturned thread result) := by
          refine ⟨rfl, ?_⟩
          rw [hlifecycle]
          exact hresult
        obtain ⟨_, _, _, hkept⟩ | ⟨_, _, hcons⟩ := hways <;>
          obtain hlog | ⟨hdue, part, hlog⟩ := hlog
        · exact log_nil (hkept.trans hlog)
        · exact log_one (hkept.trans hlog) hdue
        · exact log_one (hlog ▸ hcons) hreturned
        · refine ⟨[.exitReturned thread result, .runtimeStop part], ?_, ?_⟩
          · rw [hcons, hlog]
            rfl
          · intro event hevent
            simp only [List.mem_cons, List.not_mem_nil, or_false] at hevent
            obtain rfl | rfl := hevent
            · exact hreturned
            · exact hdue }

theorem stepTeardown_advances {stage : TeardownStage} {caller : Caller} {available : Bool}
    (hstarting : stage = .check → shared.lifecycle.state ≠ .starting)
    (hok : (Pc.teardown stage caller available).phase.Ok shared.lifecycle)
    (hstep : shared.stepTeardown thread choice caller available stage = some (shared', pc')) :
    Advances thread shared (.teardown stage caller available) shared' pc' := by
  have hsame := Shared.Keeps.refl shared
  cases stage with
  | check =>
    simp only [Shared.stepTeardown] at hstep
    split at hstep
    · rename_i hdone
      exact finishTeardown_advances shared ⟨.anyone, trivial, Moves.keep .anyone _⟩ rfl
        (hstarting rfl) id rfl rfl rfl (Or.inl rfl) (Or.inl ⟨hdone, rfl⟩) (Option.some.inj hstep)
    · rename_i hdone
      obtain ⟨rfl, rfl⟩ := Prod.mk.inj (Option.some.inj hstep)
      have hactive : shared.lifecycle.state = .active ∨ shared.lifecycle.state = .stopping := by
        have hne := hstarting rfl
        unfold Lifecycle.teardownDone at hdone
        revert hne hdone
        cases shared.lifecycle.state <;> simp
      refine advances_of_keeps hsame rfl rfl ⟨nofun, nofun, fun _ _ => hactive⟩ nofun nofun id ?_
        nofun (log_nil rfl)
      intro _
      show caller.starts = true ∨ Phase.examining caller.starts = .examining false ∧ _
      cases hstarts : caller.starts
      · exact Or.inr ⟨rfl, hdone⟩
      · exact Or.inl rfl
  | stop =>
    obtain ⟨rfl, rfl⟩ := Prod.mk.inj (Option.some.inj hstep)
    exact teardown_advances hok rfl rfl (requestRuntimeStop_keeps shared) rfl rfl
      (Or.inr ⟨_, rfl⟩)
  | take joining =>
    simp only [Shared.stepTeardown] at hstep
    split at hstep <;> obtain ⟨rfl, rfl⟩ := Prod.mk.inj (Option.some.inj hstep)
    · refine teardown_advances hok rfl rfl (.of_roles ?_ ?_ rfl) rfl rfl (Or.inl rfl)
      · show Lifecycle.verdict (if _ then _ else _) = _
        split <;> rfl
      · show Lifecycle.initInProgress (if _ then _ else _) = _
        split <;> rfl
    · exact teardown_advances hok rfl (joined_phase _ _) hsame rfl rfl (Or.inl rfl)
  | join joining =>
    simp only [Shared.stepTeardown] at hstep
    split at hstep
    · obtain ⟨rfl, rfl⟩ := Prod.mk.inj (Option.some.inj hstep)
      exact teardown_advances hok rfl rfl hsame rfl rfl (Or.inl rfl)
    · obtain ⟨_, hnext⟩ := Transition.enabled hstep
      obtain ⟨rfl, rfl⟩ := Prod.mk.inj hnext
      exact teardown_advances hok rfl (joined_phase _ _) (.of_roles rfl rfl rfl) rfl rfl
        (Or.inr ⟨_, rfl⟩)
  | restore joining =>
    obtain ⟨rfl, rfl⟩ := Prod.mk.inj (Option.some.inj hstep)
    exact teardown_advances hok rfl rfl (.of_roles rfl rfl rfl) rfl rfl (Or.inl rfl)
  | joinWorkers =>
    simp only [Shared.stepTeardown] at hstep
    split at hstep
    · obtain ⟨rfl, rfl⟩ := Prod.mk.inj (Option.some.inj hstep)
      exact teardown_advances hok rfl rfl hsame rfl rfl (Or.inl rfl)
    · split at hstep <;> obtain ⟨rfl, rfl⟩ := Prod.mk.inj (Option.some.inj hstep)
      · exact teardown_advances hok rfl rfl (.of_roles rfl rfl rfl) rfl rfl (Or.inr ⟨_, rfl⟩)
      · exact teardown_advances hok rfl rfl hsame rfl rfl (Or.inl rfl)
  | readReclaimer =>
    obtain ⟨rfl, rfl⟩ := Prod.mk.inj (Option.some.inj hstep)
    exact teardown_advances hok rfl rfl hsame rfl rfl (Or.inl rfl)
  | converge site =>
    simp only [Shared.stepTeardown] at hstep
    split at hstep <;> obtain ⟨rfl, rfl⟩ := Prod.mk.inj (Option.some.inj hstep)
    · exact teardown_advances hok rfl rfl hsame rfl rfl (Or.inl rfl)
    · exact teardown_advances hok rfl (reclaimerJoined_phase _ _) hsame rfl rfl (Or.inl rfl)
  | awaitCoordinator =>
    simp only [Shared.stepTeardown] at hstep
    split at hstep
    · obtain ⟨rfl, rfl⟩ := Prod.mk.inj (Option.some.inj hstep)
      exact teardown_advances hok rfl rfl hsame rfl rfl (Or.inl rfl)
    · obtain ⟨_, hnext⟩ := Transition.enabled hstep
      obtain ⟨rfl, rfl⟩ := Prod.mk.inj hnext
      exact teardown_advances hok rfl rfl hsame rfl rfl (Or.inl rfl)
  | successor | sealPublication =>
    simp only [Shared.stepTeardown] at hstep
    split at hstep
    · obtain ⟨rfl, rfl⟩ := Prod.mk.inj (Option.some.inj hstep)
      exact teardown_advances hok rfl rfl hsame rfl rfl (Or.inl rfl)
    · split at hstep <;> obtain ⟨rfl, rfl⟩ := Prod.mk.inj (Option.some.inj hstep) <;>
        exact teardown_advances hok rfl rfl hsame rfl rfl (Or.inl rfl)
  | readExited | detach | successorRetry | converged | completeLast =>
    simp only [Shared.stepTeardown] at hstep
    split at hstep <;> obtain ⟨rfl, rfl⟩ := Prod.mk.inj (Option.some.inj hstep) <;>
      exact teardown_advances hok rfl rfl hsame rfl rfl (Or.inl rfl)
  | release =>
    have hstate := hok.tearing caller.starts rfl
    have hdone : shared.lifecycle.release.state = .stopped ∨
        shared.lifecycle.release.state = .failed := by
      unfold Lifecycle.release
      dsimp only
      split <;> simp
    refine finishTeardown_advances
      ((shared.setLifecycle shared.lifecycle.release).record (.runtimeStop .released))
      ⟨.teardown, ⟨_, rfl⟩, Lifecycle.release_moves hstate⟩ rfl ?_ ?_ rfl rfl rfl
      (Or.inr ⟨rfl, _, rfl⟩) (Or.inl ⟨Or.inr (Or.inr hdone), rfl⟩) (Option.some.inj hstep)
    · intro hstarting
      rw [show shared.lifecycle.release.state = .starting from hstarting] at hdone
      simp at hdone
    · intro hempty
      rw [hempty] at hstate
      simp at hstate
  | incomplete =>
    have hstate := hok.tearing caller.starts rfl
    refine finishTeardown_advances (shared.setLifecycle shared.lifecycle.teardownIncomplete)
      ⟨.teardown, ⟨_, rfl⟩, Lifecycle.teardownIncomplete_moves hstate⟩ rfl nofun ?_ rfl rfl
      rfl (Or.inl rfl) (Or.inr ⟨rfl, rfl⟩) (Option.some.inj hstep)
    intro hempty
    rw [hempty] at hstate
    simp at hstate

/-! ## Every step of a thread -/

@[simp] theorem stopReturned_phase (joins : Bool) :
    (Shared.stopReturned joins).phase = .outside := by
  cases joins <;> rfl

theorem stopReturned_ne (returns joins : Bool) :
    Shared.stopReturned returns ≠ .requestStop false joins := by
  cases returns <;> nofun

/-- A body without mutexes that may move the verdict, of a thread that owed nothing. -/
theorem advances_of_moves (hphase : pc.phase = .outside)
    (hphase' : pc'.phase = .outside ∨ pc'.phase = .stopping ∧ shared'.lifecycle.stopCause ≠ .none)
    (hmoves : Moves .anyone shared.lifecycle.verdict shared'.lifecycle.verdict)
    (hempty : shared.lifecycle.state = .empty → shared'.lifecycle.state = .empty)
    (hinit : shared'.lifecycle.initInProgress = shared.lifecycle.initInProgress)
    (hstarting : shared'.lifecycle.state = .starting → shared.lifecycle.state = .starting)
    (hexplicit : shared.lifecycle.stopCause = .none → shared'.lifecycle.stopCause = .explicit →
      ∃ joins, pc = .requestStop false joins)
    (hcall : ∀ joins, pc' ≠ .requestStop false joins)
    (hfatal : shared.lifecycle.stopCause = .none → shared'.lifecycle.stopCause = .fatal →
      ∃ error, Event.fatalAccepted error ∈ shared'.log)
    (hstartup : shared'.startupMutex = shared.startupMutex)
    (hjoin : shared'.joinMutex = shared.joinMutex) (hroles : shared'.roles = shared.roles)
    (hlog : ∃ events, shared'.log = events ++ shared.log ∧
      ∀ event ∈ events, EventOk thread shared pc.phase shared' event) :
    Advances thread shared pc shared' pc' where
  moves := ⟨.anyone, trivial, hmoves⟩
  startup := by
    rw [hphase, hstartup]
    obtain h | ⟨h, _⟩ := hphase' <;> rw [h] <;> rfl
  join := by
    rw [hphase, hjoin]
    obtain h | ⟨h, _⟩ := hphase' <;> rw [h] <;> rfl
  ok := by
    obtain h | ⟨h, _⟩ := hphase' <;> rw [h] <;> exact Phase.ok_of_free nofun nofun nofun
  attempt hstate hcase := by
    rw [hphase] at hcase
    exact absurd (hstarting hstate) (hcase.resolve_left nofun)
  initialized h hne := absurd (hempty h) hne
  building _ := by
    refine Or.inr ⟨?_, hinit⟩
    obtain h | ⟨h, _⟩ := hphase' <;> rw [h] <;> nofun
  accepted _ haccepts := by
    obtain h | ⟨h, _⟩ := hphase' <;> rw [h] at haccepts <;> cases haccepts
  due hdue := by
    obtain h | ⟨_, h⟩ := hphase'
    · rw [h] at hdue
      cases hdue
    · exact Or.inl h
  explicit := hexplicit
  stopCall := hcall
  fatal := hfatal
  roles role h := hroles ▸ h
  log := hlog

/-- The body of `request_stop`. -/
theorem requestStop_advances {joins : Bool} {action : Lifecycle.StopAction} {lifecycle : Lifecycle}
    (hstop : shared.lifecycle.requestStop = (action, lifecycle))
    (hphase' : pc'.phase = .outside ∨ pc'.phase = .stopping ∧ action = .stopRuntime)
    (hcall : ∀ joins, pc' ≠ .requestStop false joins) :
    Advances thread shared (.requestStop false joins) (shared.setLifecycle lifecycle) pc' := by
  obtain ⟨hmoves, hinit, hdue, hnotFatal⟩ := Lifecycle.requestStop_moves hstop
  refine advances_of_moves rfl ?_ hmoves ?_ hinit ?_ (fun _ _ => ⟨joins, rfl⟩) hcall ?_ rfl rfl rfl
    (log_nil rfl)
  · exact hphase'.imp_right fun h => ⟨h.1, hdue h.2⟩
  · intro hempty
    rw [Lifecycle.requestStop, if_pos (Or.inl hempty)] at hstop
    obtain ⟨_, rfl⟩ := Prod.mk.inj hstop
    exact hempty
  · -- Only `start` makes the service start.
    intro hstarting
    exact hmoves.starting hstarting
  · intro hnone hfatal
    exact absurd hfatal (hnotFatal hnone)

/-- The body of `fail_service`. -/
theorem failService_advances {failure : WorkerFailure} {lifecycle : Lifecycle}
    (haccept : shared.lifecycle.acceptFatalLocked (mapWorkerFailure failure) = some lifecycle) :
    Advances thread shared (.failService failure)
      ((shared.setLifecycle lifecycle).record (.fatalAccepted (mapWorkerFailure failure)))
      .fatalStop := by
  obtain ⟨hmoves, hinit, hcause⟩ := Lifecycle.acceptFatalLocked_moves haccept
  refine advances_of_moves rfl (Or.inr ⟨rfl, ?_⟩) hmoves ?_ hinit ?_ ?_ nofun ?_ rfl rfl rfl
    (log_one rfl trivial)
  · show lifecycle.stopCause ≠ .none
    rw [hcause]
    nofun
  · intro hempty
    rw [Lifecycle.acceptFatalLocked, if_pos (Or.inl (by rw [hempty]; nofun))] at haccept
    cases haccept
  · exact hmoves.starting
  · intro _ hexplicit
    rw [show lifecycle.stopCause = .explicit from hexplicit] at hcause
    cases hcause
  · intro _ _
    exact ⟨_, List.mem_cons_self⟩

theorem stepThread_advances
    (hstarting : ∀ caller available, pc = .teardown .check caller available →
      shared.lifecycle.state ≠ .starting)
    (hok : pc.phase.Ok shared.lifecycle)
    (hstep : shared.stepThread thread choice pc = some (shared', pc')) :
    Advances thread shared pc shared' pc' := by
  have hsame := Shared.Keeps.refl shared
  cases pc with
  | idle => cases hstep
  | init stage config => exact stepInit_advances hok (Option.some.inj hstep)
  | start stage attempt => exact stepStart_advances hok hstep
  | requestStop runtimeDue joins =>
    cases runtimeDue with
    | false =>
      simp only [Shared.stepThread] at hstep
      split at hstep <;> obtain ⟨rfl, rfl⟩ := Prod.mk.inj (Option.some.inj hstep)
      · exact requestStop_advances ‹_› (Or.inl (stopReturned_phase _)) (stopReturned_ne _)
      · exact requestStop_advances ‹_› (Or.inr ⟨rfl, rfl⟩) nofun
    | true =>
      obtain ⟨rfl, rfl⟩ := Prod.mk.inj (Option.some.inj hstep)
      have hphase := stopReturned_phase joins
      apply advances_of_keeps (requestRuntimeStop_keeps shared)
      · rw [hphase]
        rfl
      · rw [hphase]
        rfl
      · rw [hphase]
        exact Phase.ok_of_free nofun nofun nofun
      · nofun
      · rw [hphase]
        nofun
      · rw [hphase]
        nofun
      · rw [hphase]
        nofun
      · exact stopReturned_ne _
      · exact runtimeStop_log rfl
  | failService failure =>
    simp only [Shared.stepThread] at hstep
    split at hstep <;> obtain ⟨rfl, rfl⟩ := Prod.mk.inj (Option.some.inj hstep)
    · exact advances_of_same hok hsame rfl nofun rfl rfl nofun (log_nil rfl)
    · exact failService_advances ‹_›
  | fatalStop =>
    obtain ⟨rfl, rfl⟩ := Prod.mk.inj (Option.some.inj hstep)
    exact advances_of_keeps (requestRuntimeStop_keeps shared) rfl rfl
      (Phase.ok_of_free nofun nofun nofun) nofun nofun nofun nofun nofun (runtimeStop_log rfl)
  | waitCheck =>
    obtain ⟨_, hnext⟩ := (Option.ite_none_right_eq_some).mp hstep
    split at hnext <;> obtain ⟨rfl, rfl⟩ := Prod.mk.inj (Option.some.inj hnext)
    · rename_i hempty
      exact advances_of_same hok (.of_roles rfl rfl rfl) rfl nofun rfl rfl nofun
        (log_one rfl ⟨rfl, Or.inl ⟨Or.inl hempty, rfl⟩⟩)
    · exact advances_of_same hok hsame rfl nofun rfl rfl nofun (log_nil rfl)
  | lockStartup joins =>
    obtain ⟨hfree, hnext⟩ := Transition.enabled hstep
    obtain ⟨rfl, rfl⟩ := Prod.mk.inj hnext
    have hphase : (Pc.lockJoin (if joins then .join else .wait)).phase = .entering false := by
      cases joins <;> rfl
    have hkeeps : shared.Keeps { shared with startupMutex := some thread } := .of_roles rfl rfl rfl
    apply advances_of_keeps hkeeps
    · rw [hphase]
      exact ⟨hfree, rfl⟩
    · rw [hphase]
      rfl
    · rw [hphase]
      exact Phase.ok_of_free nofun nofun nofun
    · nofun
    · rw [hphase]
      nofun
    · rw [hphase]
      nofun
    · rw [hphase]
      nofun
    · nofun
    · exact log_nil rfl
  | lockJoin caller =>
    obtain ⟨hfree, hnext⟩ := Transition.enabled hstep
    obtain ⟨rfl, rfl⟩ := Prod.mk.inj hnext
    exact advances_of_keeps (.of_roles rfl rfl rfl) rfl ⟨hfree, rfl⟩
      (Phase.ok_of_free nofun nofun nofun) nofun nofun id Or.inl nofun (log_nil rfl)
  | teardown stage caller available =>
    refine stepTeardown_advances ?_ hok hstep
    intro hcheck
    exact hstarting caller available (by rw [hcheck])
  | replaceCheck =>
    simp only [Shared.stepThread] at hstep
    split at hstep <;> obtain ⟨rfl, rfl⟩ := Prod.mk.inj (Option.some.inj hstep)
    · exact advances_of_same hok (.of_roles rfl rfl rfl) rfl nofun rfl rfl nofun
        (log_one rfl trivial)
    · exact advances_of_same hok (.of_roles rfl rfl rfl) rfl nofun rfl rfl nofun
        (log_one rfl trivial)
    · exact advances_of_same hok hsame rfl nofun rfl rfl nofun (log_nil rfl)
  | replaceWait =>
    simp only [Shared.stepThread] at hstep
    split at hstep
    · obtain ⟨rfl, rfl⟩ := Prod.mk.inj (Option.some.inj hstep)
      exact advances_of_same hok (.of_roles rfl rfl rfl) rfl nofun rfl rfl nofun
        (log_one rfl trivial)
    · rename_i version _
      obtain ⟨_, hnext⟩ := Transition.enabled hstep
      obtain ⟨rfl, rfl⟩ := Prod.mk.inj hnext
      refine advances_of_same hok (.of_roles ?_ ?_ rfl) rfl nofun rfl rfl nofun
        (log_one rfl trivial)
      · exact Lifecycle.replaceCompleted_verdict _ version
      · exact Lifecycle.replaceCompleted_initInProgress _ version

end DnsPro.Service
