import DnsPro.Service.Invariant

/-!
# The first cause wins

Once the service has a stop cause, the cause and the two errors stay what they
are; the state only moves forward; and after `Stopped` or `Failed` nothing moves
any more.  The last part is about the calls that come after: whatever they are
interleaved with, each `join` and each `wait` returns one result, each new
`start` is refused, and none of them can be kept from returning by the holder of
`startup_mutex_`.
-/

namespace DnsPro.Service

open Verdict (Moves)
open DNSLifecycleState (Forward)

theorem Lifecycle.exitResultLocked_of_verdict {lifecycle lifecycle' : Lifecycle}
    (h : lifecycle'.verdict = lifecycle.verdict) :
    lifecycle'.exitResultLocked = lifecycle.exitResultLocked := by
  have hcause : lifecycle'.stopCause = lifecycle.stopCause := congrArg Verdict.cause h
  have hstartup : lifecycle'.startupError = lifecycle.startupError :=
    congrArg Verdict.startupError h
  have hfatal : lifecycle'.fatalError = lifecycle.fatalError := congrArg Verdict.fatalError h
  rw [Lifecycle.exitResultLocked, Lifecycle.exitResultLocked, hcause, hstartup, hfatal]

namespace DNS

variable {service next final : DNS} {label : Label} {labels : List Label} {thread : ThreadId}

/-- What a step does to the verdict. -/
theorem moves_step (hinv : Inv service.shared service.phases)
    (hstep : service.step label = some next) :
    ∃ party, Moves party service.shared.lifecycle.verdict next.shared.lifecycle.verdict := by
  obtain ⟨_, _, _, _, rfl⟩ | ⟨_, _, _, _, _, hthread, rfl⟩ | ⟨hbeside, _⟩ := step_cases hstep
  · exact ⟨.anyone, Moves.keep .anyone _⟩
  · obtain ⟨party, _, hmoves⟩ := (hinv.advances hthread).moves
    exact ⟨party, hmoves⟩
  · exact ⟨.anyone, hbeside.moves⟩

/-- The first cause stays. -/
theorem cause_kept_step (hinv : Inv service.shared service.phases)
    (hstep : service.step label = some next)
    (hcause : service.shared.lifecycle.stopCause ≠ .none) :
    next.shared.lifecycle.stopCause = service.shared.lifecycle.stopCause ∧
      next.shared.lifecycle.startupError = service.shared.lifecycle.startupError ∧
      next.shared.lifecycle.fatalError = service.shared.lifecycle.fatalError := by
  obtain ⟨_, hmoves⟩ := moves_step hinv hstep
  exact hmoves.cause_kept hinv.causeless hcause

/-! ## Runs -/

theorem forward_run (hinv : Inv service.shared service.phases)
    (hrun : Transition.run step service labels = some final) :
    service.shared.lifecycle.state.Forward final.shared.lifecycle.state := by
  have hall := Transition.run_invariant
    (fun reached => Inv reached.shared reached.phases ∧
      service.shared.lifecycle.state.Forward reached.shared.lifecycle.state)
    (fun state label next h hstep => by
      obtain ⟨_, hmoves⟩ := moves_step h.1 hstep
      exact ⟨inv_step h.1 hstep, h.2.trans hmoves.forward⟩)
    ⟨hinv, Forward.refl _⟩ hrun
  exact hall.2

theorem cause_kept_run (hinv : Inv service.shared service.phases)
    (hrun : Transition.run step service labels = some final)
    (hcause : service.shared.lifecycle.stopCause ≠ .none) :
    final.shared.lifecycle.stopCause = service.shared.lifecycle.stopCause ∧
      final.shared.lifecycle.startupError = service.shared.lifecycle.startupError ∧
      final.shared.lifecycle.fatalError = service.shared.lifecycle.fatalError := by
  have hall := Transition.run_invariant
    (fun reached => Inv reached.shared reached.phases ∧
      reached.shared.lifecycle.stopCause = service.shared.lifecycle.stopCause ∧
      reached.shared.lifecycle.startupError = service.shared.lifecycle.startupError ∧
      reached.shared.lifecycle.fatalError = service.shared.lifecycle.fatalError)
    (fun state label next h hstep => by
      obtain ⟨hinv, hcause', hstartup, hfatal⟩ := h
      obtain ⟨hc, hs, hf⟩ := cause_kept_step hinv hstep (hcause' ▸ hcause)
      exact ⟨inv_step hinv hstep, hc.trans hcause', hs.trans hstartup, hf.trans hfatal⟩)
    ⟨hinv, rfl, rfl, rfl⟩ hrun
  exact hall.2

/-! ## After the end -/

/-- What a call may return after the service has ended in `ended`: `join` and
`wait` its result, and `start`, unless its attempt is older, a refusal. -/
def AfterEnd (ended : DNS) : Event → Prop
  | .exitReturned _ result => result = ended.shared.lifecycle.exitResultLocked
  | .startReturned thread result => (ended.phases thread).accepted = false →
    result = .error (makeStartError .invalidLifecycleState .none 0)
  | _ => True

/-- What has happened since the service ended in `ended`. -/
structure Since (ended service : DNS) : Prop where
  inv : Inv service.shared service.phases
  verdict : service.shared.lifecycle.verdict = ended.shared.lifecycle.verdict
  accepted : ∀ thread, (ended.phases thread).accepted = false →
    (service.phases thread).accepted = false
  log : ∃ events, service.shared.log = events ++ ended.shared.log ∧
    ∀ event ∈ events, AfterEnd ended event

variable {ended : DNS}

theorem since_self (hinv : Inv service.shared service.phases) : Since service service :=
  ⟨hinv, rfl, fun _ h => h, [], rfl, by simp⟩

/-- What a step adds to the log after the end. -/
theorem Since.log_step {shared' : Shared} {pc' : Pc} (hsince : Since ended service)
    (hterminal : ended.shared.lifecycle.state.terminal)
    (hverdict : shared'.lifecycle.verdict = ended.shared.lifecycle.verdict)
    (hadvances : Advances thread service.shared (service.threads thread) shared' pc') :
    ∃ events, shared'.log = events ++ ended.shared.log ∧
      ∀ event ∈ events, AfterEnd ended event := by
  obtain ⟨before, hbefore, hold⟩ := hsince.log
  obtain ⟨events, hlog, hevents⟩ := hadvances.log
  have hstate : shared'.lifecycle.state = ended.shared.lifecycle.state :=
    congrArg Verdict.state hverdict
  refine ⟨events ++ before, by rw [hlog, hbefore, List.append_assoc], ?_⟩
  intro event hmem
  obtain hmem | hmem := List.mem_append.mp hmem
  · have hevent := hevents event hmem
    cases event with
    | exitReturned returned result =>
      obtain ⟨_, ⟨_, hresult⟩ | ⟨hstopping, _⟩⟩ := hevent
      · exact hresult.trans (Lifecycle.exitResultLocked_of_verdict hverdict)
      · rw [← hstate, hstopping] at hterminal
        simp [DNSLifecycleState.terminal] at hterminal
    | startReturned returned result =>
      intro hidle
      obtain ⟨rfl, hrefused⟩ := hevent
      exact hrefused (hsince.accepted _ hidle)
    | called | activated | fatalAccepted | runtimeStop | initReturned | replaceReturned =>
      trivial
  · exact hold event hmem

theorem Since.step (hterminal : ended.shared.lifecycle.state.terminal)
    (hsince : Since ended service) (hstep : service.step label = some next) :
    Since ended next := by
  have hinv := inv_step hsince.inv hstep
  have hended : service.shared.lifecycle.verdict.state.terminal := by
    rw [hsince.verdict]
    exact hterminal
  have hverdict : next.shared.lifecycle.verdict = ended.shared.lifecycle.verdict := by
    obtain ⟨_, hmoves⟩ := moves_step hsince.inv hstep
    exact (hmoves.terminal hended).trans hsince.verdict
  obtain ⟨before, hbefore, hold⟩ := hsince.log
  obtain ⟨called, call, _, hidle, rfl⟩ | ⟨acting, choice, shared, pc, _, hthread, rfl⟩ |
    ⟨hbeside, hthreads⟩ := step_cases hstep
  · refine ⟨hinv, hverdict, ?_, .called called call :: before, ?_, ?_⟩
    · intro thread hthread
      rw [phases_setThread]
      by_cases heq : thread = called
      · subst heq
        rw [Function.update_self, entry_phase]
        rfl
      · rw [Function.update_of_ne heq]
        exact hsince.accepted thread hthread
    · show _ :: service.shared.log = _
      rw [hbefore]
      rfl
    · intro event hmem
      obtain rfl | hmem := List.mem_cons.mp hmem
      · trivial
      · exact hold event hmem
  · have hadvances := hsince.inv.advances hthread
    refine ⟨hinv, hverdict, ?_, hsince.log_step hterminal hverdict hadvances⟩
    intro thread hended'
    rw [phases_setThread]
    by_cases heq : thread = acting
    · subst heq
      rw [Function.update_self]
      by_contra haccepts
      have hinitialized := hadvances.accepted (hsince.accepted thread hended')
        (by simpa using haccepts)
      rw [show service.shared.lifecycle.verdict.state = .initialized from hinitialized] at hended
      simp [DNSLifecycleState.terminal] at hended
    · rw [Function.update_of_ne heq]
      exact hsince.accepted thread hended'
  · refine ⟨hinv, hverdict, ?_, ?_⟩
    · intro thread hthread
      rw [phases, hthreads]
      exact hsince.accepted thread hthread
    · obtain ⟨events, hlog, hevents⟩ := hbeside.log
      refine ⟨events ++ before, by rw [hlog, hbefore, List.append_assoc], ?_⟩
      intro event hmem
      obtain hmem | hmem := List.mem_append.mp hmem
      · obtain ⟨_, rfl⟩ | ⟨⟨_, rfl⟩, _⟩ := hevents event hmem <;> trivial
      · exact hold event hmem

theorem since_run (hinv : Inv ended.shared ended.phases)
    (hterminal : ended.shared.lifecycle.state.terminal)
    (hrun : Transition.run step ended labels = some final) : Since ended final :=
  Transition.run_invariant (Since ended) (fun _ _ _ hsince hstep => hsince.step hterminal hstep)
    (since_self hinv) hrun

/-! ## No call is kept from returning -/

/-- How many steps the holder of `startup_mutex_` is away from giving it up, once
the service has ended. -/
def releaseRank : Phase → Nat
  | .returning | .deciding => 1
  | .examining _ => 2
  | .entering _ => 3
  | .rollingBack => 4
  | _ => 0

theorem act_eq {choice : Choice} {shared' : Shared} {pc pc' : Pc}
    (hpc : service.threads thread = pc)
    (hstep : service.shared.stepThread thread choice pc = some (shared', pc')) :
    service.step (.act thread choice) = some (service.setThread shared' thread pc') := by
  show (service.shared.stepThread thread choice (service.threads thread)).map _ = _
  rw [hpc, hstep]
  rfl

/-- `join_mutex_` is free when nobody holds `startup_mutex_`, or its holder has not
got there. -/
theorem Inv.join_free {shared : Shared} {phases : ThreadId → Phase} (hinv : Inv shared phases)
    (hholder : ∀ thread, shared.startupMutex = some thread → (phases thread).ownsJoin = false) :
    shared.joinMutex = none := by
  cases hjoin : shared.joinMutex with
  | none => rfl
  | some thread =>
    have howns : (phases thread).ownsJoin = true := (hinv.join thread).mpr hjoin
    have hstartup : (phases thread).ownsStartup = true := by
      cases hphase : phases thread <;> rw [hphase] at howns <;> first | rfl | cases howns
    rw [hholder thread ((hinv.startup thread).mp hstartup)] at howns
    cases howns

/-- The refusal of `start`. -/
theorem stepStart_refused {shared : Shared} (choice : Choice) (attempt : UInt64)
    (hrefused : shared.lifecycle.acceptStart = none) :
    shared.stepStart thread choice attempt .check =
      some ((shared.record (.startReturned thread
        (.error (makeStartError .invalidLifecycleState .none 0)))).releaseStartup, .idle) := by
  simp only [Shared.stepStart, hrefused]

/-- After the end, the holder of `startup_mutex_` can take a step towards giving it up. -/
theorem holder_step (hinv : Inv service.shared service.phases)
    (hterminal : service.shared.lifecycle.state.terminal)
    (howns : (service.phases thread).ownsStartup = true) :
    ∃ shared' pc', service.step (.act thread {}) = some (service.setThread shared' thread pc') ∧
      releaseRank pc'.phase < releaseRank (service.phases thread) := by
  have hok := hinv.ok thread
  have hnotAttempt : service.phases thread ≠ .attempting := by
    intro hphase
    obtain hstate | hstate := hok.attempt hphase <;> rw [hstate] at hterminal <;>
      simp [DNSLifecycleState.terminal] at hterminal
  have hnotTearing : ∀ starts, service.phases thread ≠ .tearing starts := by
    intro starts hphase
    obtain hstate | hstate := hok.tearing starts hphase <;> rw [hstate] at hterminal <;>
      simp [DNSLifecycleState.terminal] at hterminal
  have hdone : service.shared.lifecycle.teardownDone := Or.inr (Or.inr hterminal)
  cases hpc : service.threads thread with
  | start stage attempt =>
    have hphase : service.phases thread = stage.phase := by rw [phases, hpc]; rfl
    rw [hphase] at howns hnotAttempt
    cases stage with
    | check =>
      have hrefused : service.shared.lifecycle.acceptStart = none := by
        apply Lifecycle.acceptStart_refused
        intro hinitialized
        rw [hinitialized] at hterminal
        simp [DNSLifecycleState.terminal] at hterminal
      refine ⟨_, .idle, act_eq hpc (stepStart_refused {} attempt hrefused), ?_⟩
      rw [hphase]
      exact Nat.zero_lt_one
    | failStop error =>
      refine ⟨_, .lockJoin (.start error), act_eq hpc rfl, ?_⟩
      rw [hphase]
      exact Nat.lt_succ_self 3
    | result error =>
      refine ⟨_, .idle, act_eq hpc rfl, ?_⟩
      rw [hphase]
      exact Nat.zero_lt_one
    | lock => cases howns
    | reset | supervisor | create | store | ready | notReady | wait | activate | activated | pause
    | commit | fail => exact absurd rfl hnotAttempt
  | lockJoin caller =>
    have hphase : service.phases thread = .entering caller.starts := by rw [phases, hpc]; rfl
    have hfree : service.shared.joinMutex = none := by
      apply hinv.join_free
      intro holder hholder
      have heq := hinv.startup.unique ((hinv.startup holder).mpr hholder) howns
      rw [heq, hphase]
      rfl
    refine ⟨_, .teardown .check caller false, act_eq hpc (if_pos hfree), ?_⟩
    rw [hphase]
    exact Nat.lt_succ_self 2
  | teardown stage caller available =>
    have hphase : service.phases thread = stage.phase caller.starts := by rw [phases, hpc]; rfl
    cases stage with
    | check =>
      cases caller with
      | start error =>
        refine ⟨_, .start (.result error) 0, act_eq hpc (if_pos hdone), ?_⟩
        rw [hphase]
        exact Nat.lt_succ_self 1
      | join | wait =>
        refine ⟨_, .idle, act_eq hpc (if_pos hdone), ?_⟩
        rw [hphase]
        exact Nat.zero_lt_two
    | _ => exact absurd hphase (hnotTearing _)
  | init stage config =>
    rw [phases, hpc] at howns
    cases stage <;> cases howns
  | requestStop runtimeDue joins =>
    rw [phases, hpc] at howns
    cases runtimeDue <;> cases howns
  | idle | failService | fatalStop | waitCheck | lockStartup | replaceCheck | replaceWait =>
    rw [phases, hpc] at howns
    cases howns

/-- After the end, `startup_mutex_` can be given up without a step of any thread
that does not hold it. -/
theorem startup_released (hinv : Inv ended.shared ended.phases)
    (hterminal : ended.shared.lifecycle.state.terminal) :
    ∃ labels released, Transition.run step ended labels = some released ∧
      released.shared.startupMutex = none ∧
      ∀ thread, (ended.phases thread).ownsStartup = false →
        released.threads thread = ended.threads thread := by
  cases hholder : ended.shared.startupMutex with
  | none => exact ⟨[], ended, rfl, hholder, fun _ _ => rfl⟩
  | some holder =>
    have howns : (ended.phases holder).ownsStartup = true := (hinv.startup holder).mpr hholder
    clear hholder
    -- On the steps that the holder is away from giving the mutex up.
    induction hrank : releaseRank (ended.phases holder) using Nat.strong_induction_on
      generalizing ended with
    | _ rank ih =>
      obtain ⟨shared', pc', hstep, hless⟩ := holder_step hinv hterminal howns
      have hnext := (since_self hinv).step hterminal hstep
      have hphase : (ended.setThread shared' holder pc').phases holder = pc'.phase := by
        rw [phases_setThread, Function.update_self]
      have hkept : ∀ thread, (ended.phases thread).ownsStartup = false →
          (ended.setThread shared' holder pc').threads thread = ended.threads thread := by
        intro thread hthread
        refine Function.update_of_ne ?_ _ _
        rintro rfl
        rw [howns] at hthread
        cases hthread
      by_cases hstill : pc'.phase.ownsStartup = true
      · have hterminal' : (ended.setThread shared' holder pc').shared.lifecycle.state.terminal := by
          have hstate : (ended.setThread shared' holder pc').shared.lifecycle.state =
              ended.shared.lifecycle.state := congrArg Verdict.state hnext.verdict
          rw [hstate]
          exact hterminal
        obtain ⟨labels, released, hrun, hfree, hothers⟩ :=
          ih (releaseRank pc'.phase) (hrank ▸ hless)
          hnext.inv hterminal' (by rw [hphase]; exact hstill) (by rw [hphase])
        refine ⟨.act holder {} :: labels, released,
          Transition.run_cons.mpr ⟨_, hstep, hrun⟩, hfree, ?_⟩
        intro thread hthread
        rw [hothers thread, hkept thread hthread]
        rw [phases, hkept thread hthread]
        exact hthread
      · refine ⟨[.act holder {}], _, Transition.run_cons.mpr ⟨_, hstep, rfl⟩, ?_, hkept⟩
        cases hmutex : (ended.setThread shared' holder pc').shared.startupMutex with
        | none => rfl
        | some other =>
          have hother : ((ended.setThread shared' holder pc').phases other).ownsStartup = true :=
            (hnext.inv.startup other).mpr hmutex
          by_cases heq : other = holder
          · rw [heq, hphase] at hother
            exact absurd hother hstill
          · rw [phases_setThread, Function.update_of_ne heq] at hother
            exact absurd (hinv.startup.unique hother howns) heq

/-- A `finish_teardown` that finds the service ended returns its result. -/
theorem examined_returns {caller : Caller} {available : Bool}
    (hterminal : service.shared.lifecycle.state.terminal) (hcaller : caller.starts = false)
    (hpc : service.threads thread = .teardown .check caller available) :
    ∃ after, service.step (.act thread {}) = some after ∧
      after.shared.log =
        .exitReturned thread service.shared.lifecycle.exitResultLocked :: service.shared.log := by
  have hdone : service.shared.lifecycle.teardownDone := Or.inr (Or.inr hterminal)
  cases caller with
  | start error => cases hcaller
  | join | wait => exact ⟨_, act_eq hpc (if_pos hdone), rfl⟩

/-- A thread that waits for `startup_mutex_` in `join` or `wait` gets its result. -/
theorem exit_returns {joins : Bool} (hterminal : service.shared.lifecycle.state.terminal)
    (hpc : service.threads thread = .lockStartup joins)
    (hstartup : service.shared.startupMutex = none) (hjoin : service.shared.joinMutex = none) :
    ∃ labels after earlier, Transition.run step service labels = some after ∧
      after.shared.log =
        .exitReturned thread service.shared.lifecycle.exitResultLocked :: earlier := by
  let caller : Caller := if joins then .join else .wait
  let locked := service.setThread { service.shared with startupMutex := some thread } thread
    (.lockJoin caller)
  let entered := locked.setThread { locked.shared with joinMutex := some thread } thread
    (.teardown .check caller false)
  have hcaller : caller.starts = false := by
    show Caller.starts (if joins then .join else .wait) = false
    cases joins <;> rfl
  have hlock : service.step (.act thread {}) = some locked := act_eq hpc (if_pos hstartup)
  have henter : locked.step (.act thread {}) = some entered :=
    act_eq (Function.update_self _ _ _) (if_pos hjoin)
  have hchecking : entered.threads thread = .teardown .check caller false :=
    Function.update_self _ _ _
  have hended : entered.shared.lifecycle.state.terminal := hterminal
  obtain ⟨after, hexamine, hlog⟩ := examined_returns hended hcaller hchecking
  exact ⟨[.act thread {}, .act thread {}, .act thread {}], after, _,
    Transition.run_cons.mpr ⟨_, hlock, Transition.run_cons.mpr ⟨_, henter,
      Transition.run_cons.mpr ⟨_, hexamine, rfl⟩⟩⟩, hlog⟩

/-- A thread that waits for `startup_mutex_` in `start` is refused. -/
theorem start_returns {attempt : UInt64} (hterminal : service.shared.lifecycle.state.terminal)
    (hpc : service.threads thread = .start .lock attempt)
    (hstartup : service.shared.startupMutex = none) :
    ∃ labels after earlier, Transition.run step service labels = some after ∧
      after.shared.log =
        .startReturned thread (.error (makeStartError .invalidLifecycleState .none 0)) ::
          earlier := by
  have hrefused : service.shared.lifecycle.acceptStart = none := by
    apply Lifecycle.acceptStart_refused
    intro hinitialized
    rw [hinitialized] at hterminal
    simp [DNSLifecycleState.terminal] at hterminal
  let locked : Shared := { service.shared with startupMutex := some thread }
  have hlock : service.step (.act thread {}) =
      some (service.setThread locked thread (.start .check attempt)) :=
    act_eq hpc (if_pos hstartup)
  have hcheck : (service.setThread locked thread (.start .check attempt)).step (.act thread {}) =
      some _ := act_eq (Function.update_self _ _ _) (stepStart_refused {} attempt hrefused)
  exact ⟨[.act thread {}, .act thread {}], _, _,
    Transition.run_cons.mpr ⟨_, hlock, Transition.run_cons.mpr ⟨_, hcheck, rfl⟩⟩, rfl⟩

/-- A thread on its way to `startup_mutex_` in `join` or `wait` can return. -/
theorem exit_completes {joins : Bool} (hinv : Inv ended.shared ended.phases)
    (hterminal : ended.shared.lifecycle.state.terminal)
    (hpc : ended.threads thread = .lockStartup joins) :
    ∃ labels after earlier, Transition.run step ended labels = some after ∧
      after.shared.log =
        .exitReturned thread ended.shared.lifecycle.exitResultLocked :: earlier := by
  obtain ⟨labels, released, hrun, hfree, hothers⟩ := startup_released hinv hterminal
  have hsince := since_run hinv hterminal hrun
  have hstate : released.shared.lifecycle.state = ended.shared.lifecycle.state :=
    congrArg Verdict.state hsince.verdict
  have hkept : released.threads thread = .lockStartup joins := by
    rw [hothers thread (by rw [phases, hpc]; rfl), hpc]
  have hjoin : released.shared.joinMutex = none := by
    apply hsince.inv.join_free
    intro holder hholder
    rw [hfree] at hholder
    cases hholder
  obtain ⟨labels', after, earlier, hrun', hlog⟩ :=
    exit_returns (hstate ▸ hterminal) hkept hfree hjoin
  refine ⟨labels ++ labels', after, earlier, Transition.run_append.mpr ⟨_, hrun, hrun'⟩, ?_⟩
  rw [hlog, Lifecycle.exitResultLocked_of_verdict hsince.verdict]

/-- A thread at the beginning of `start` can return. -/
theorem start_completes {attempt : UInt64} (hinv : Inv ended.shared ended.phases)
    (hterminal : ended.shared.lifecycle.state.terminal)
    (hpc : ended.threads thread = .start .lock attempt) :
    ∃ labels after earlier, Transition.run step ended labels = some after ∧
      after.shared.log =
        .startReturned thread (.error (makeStartError .invalidLifecycleState .none 0)) ::
          earlier := by
  obtain ⟨labels, released, hrun, hfree, hothers⟩ := startup_released hinv hterminal
  have hsince := since_run hinv hterminal hrun
  have hstate : released.shared.lifecycle.state = ended.shared.lifecycle.state :=
    congrArg Verdict.state hsince.verdict
  have hkept : released.threads thread = .start .lock attempt := by
    rw [hothers thread (by rw [phases, hpc]; rfl), hpc]
  obtain ⟨labels', after, earlier, hrun', hlog⟩ := start_returns (hstate ▸ hterminal) hkept hfree
  exact ⟨labels ++ labels', after, earlier, Transition.run_append.mpr ⟨_, hrun, hrun'⟩, hlog⟩

/-- A call of `join`, `wait` or `start` can be brought to an end from here on, and
then it returns `event`. -/
def CanReturn (service : DNS) (thread : ThreadId) (call : Call) (event : Event) : Prop :=
  ∃ labels after earlier, Transition.run step service (.call thread call :: labels) = some after ∧
    after.shared.log = event :: earlier

/-- After the end, `join` and `wait` come to `startup_mutex_` with their first body. -/
theorem arrives {call : Call} {joins : Bool} (hterminal : service.shared.lifecycle.state.terminal)
    (hcall : call = .join ∧ joins = true ∨ call = .wait ∧ joins = false)
    (hpc : service.threads thread = call.entry) :
    service.step (.act thread {}) =
      some (service.setThread service.shared thread (.lockStartup joins)) := by
  obtain ⟨rfl, rfl⟩ | ⟨rfl, rfl⟩ := hcall
  · refine act_eq hpc ?_
    simp only [Shared.stepThread, Call.entry]
    rw [Lifecycle.requestStop_terminal hterminal]
    rfl
  · have hover : service.shared.waitOver := by
      obtain hstate | hstate := hterminal <;> simp [Shared.waitOver, hstate]
    have hnonempty : service.shared.lifecycle.state ≠ .empty := by
      obtain hstate | hstate := hterminal <;> simp [hstate]
    exact act_eq hpc ((if_pos hover).trans (if_neg hnonempty))

theorem canReturn_after_end (hinv : Inv ended.shared ended.phases)
    (hterminal : ended.shared.lifecycle.state.terminal) (hidle : ended.threads thread = .idle) :
    (∀ call, call = .join ∨ call = .wait → CanReturn ended thread call
      (.exitReturned thread ended.shared.lifecycle.exitResultLocked)) ∧
    CanReturn ended thread .start
      (.startReturned thread (.error (makeStartError .invalidLifecycleState .none 0))) := by
  let began (call : Call) : DNS :=
    ended.setThread (ended.shared.record (.called thread call)) thread call.entry
  have hcall : ∀ call, ended.step (.call thread call) = some (began call) := fun _ => if_pos hidle
  have hbegan : ∀ call, (began call).threads thread = call.entry :=
    fun _ => Function.update_self _ _ _
  have hinv' : ∀ call, Inv (began call).shared (began call).phases :=
    fun call => inv_step hinv (hcall call)
  have hended : ∀ call, (began call).shared.lifecycle.state.terminal := fun _ => hterminal
  constructor
  · intro call hexit
    obtain ⟨joins, hjoins⟩ :
        ∃ joins, call = .join ∧ joins = true ∨ call = .wait ∧ joins = false := by
      obtain rfl | rfl := hexit
      · exact ⟨true, Or.inl ⟨rfl, rfl⟩⟩
      · exact ⟨false, Or.inr ⟨rfl, rfl⟩⟩
    have harrives := arrives (hended call) hjoins (hbegan call)
    have harrived : ((began call).setThread (began call).shared thread
        (.lockStartup joins)).threads thread = .lockStartup joins := Function.update_self _ _ _
    obtain ⟨labels, after, earlier, hrun, hlog⟩ :=
      exit_completes (inv_step (hinv' call) harrives) (hended call) harrived
    exact ⟨.act thread {} :: labels, after, earlier, Transition.run_cons.mpr ⟨_, hcall call,
      Transition.run_cons.mpr ⟨_, harrives, hrun⟩⟩, hlog⟩
  · obtain ⟨labels, after, earlier, hrun, hlog⟩ :=
      start_completes (hinv' .start) (hended .start) (hbegan .start)
    exact ⟨labels, after, earlier, Transition.run_cons.mpr ⟨_, hcall .start, hrun⟩, hlog⟩

/-! ## The result -/

/-- In any run of any number of threads and roles, from any state the service can
reach:

* the state only moves forward;
* a stop cause stays, with both errors;
* once the service has ended, it stays in that state, `join` and `wait` return one
  result and `start` is refused to every thread that was not in an attempt already,
  and each of these calls can be brought to its end. -/
theorem first_cause_wins (hreach : Transition.Reachable step {} service)
    (hrun : Transition.run step service labels = some final) :
    service.shared.lifecycle.state.Forward final.shared.lifecycle.state ∧
    (service.shared.lifecycle.stopCause ≠ .none →
      final.shared.lifecycle.stopCause = service.shared.lifecycle.stopCause ∧
      final.shared.lifecycle.startupError = service.shared.lifecycle.startupError ∧
      final.shared.lifecycle.fatalError = service.shared.lifecycle.fatalError) ∧
    (service.shared.lifecycle.state.terminal →
      final.shared.lifecycle.state = service.shared.lifecycle.state ∧
      (∃ events, final.shared.log = events ++ service.shared.log ∧
        (∀ thread result, Event.exitReturned thread result ∈ events →
          result = service.shared.lifecycle.exitResultLocked) ∧
        ∀ thread result, Event.startReturned thread result ∈ events →
          service.threads thread = .idle →
          result = .error (makeStartError .invalidLifecycleState .none 0)) ∧
      ∀ thread, final.threads thread = .idle →
        (∀ call, call = .join ∨ call = .wait → CanReturn final thread call
          (.exitReturned thread service.shared.lifecycle.exitResultLocked)) ∧
        CanReturn final thread .start
          (.startReturned thread (.error (makeStartError .invalidLifecycleState .none 0)))) := by
  have hinv := inv_reachable hreach
  refine ⟨forward_run hinv hrun, cause_kept_run hinv hrun, fun hterminal => ?_⟩
  have hsince := since_run hinv hterminal hrun
  have hstate : final.shared.lifecycle.state = service.shared.lifecycle.state :=
    congrArg Verdict.state hsince.verdict
  obtain ⟨events, hlog, hevents⟩ := hsince.log
  refine ⟨hstate, ⟨events, hlog, ?_, ?_⟩, ?_⟩
  · intro thread result hmem
    exact hevents _ hmem
  · intro thread result hmem hidle
    apply hevents _ hmem
    rw [phases, hidle]
    rfl
  · intro thread hidle
    rw [← Lifecycle.exitResultLocked_of_verdict hsince.verdict]
    exact canReturn_after_end hsince.inv (hstate ▸ hterminal) hidle

/-- Thread 1 initializes the service and stops it. -/
def initThenStop : List Label :=
  .call 1 (.init {}) :: acts 2 1 ++ .call 1 .requestStop :: acts 1 1

/-- Thread 2 comes later with `join`, and thread 3 with `start`. -/
def lateCalls : List Label :=
  .call 2 .join :: acts 4 2 ++ .call 3 .start :: acts 2 3

theorem first_cause_wins_stopped :
    ∃ service final, Transition.run step {} initThenStop = some service ∧
      Transition.run step service lateCalls = some final ∧
      service.shared.lifecycle.state = .stopped ∧ final.shared.lifecycle.state = .stopped ∧
      final.shared.lifecycle.stopCause = service.shared.lifecycle.stopCause ∧
      ∃ events, final.shared.log = events ++ service.shared.log ∧
        ∀ thread result, Event.exitReturned thread result ∈ events →
          result = service.shared.lifecycle.exitResultLocked := by
  have hboth : (Transition.run step {} (initThenStop ++ lateCalls)).isSome = true := by
    decide +kernel
  have hend : (Transition.run step {} initThenStop).map (fun service =>
      (service.shared.lifecycle.state, service.shared.lifecycle.stopCause)) =
      some (.stopped, .explicit) := by decide +kernel
  obtain ⟨final, hboth⟩ := Option.isSome_iff_exists.mp hboth
  obtain ⟨service, hrun, hlate⟩ := Transition.run_append.mp hboth
  rw [hrun] at hend
  obtain ⟨hstopped, hexplicit⟩ := Prod.mk.inj (Option.some.inj hend)
  have hresult := first_cause_wins ⟨initThenStop, hrun⟩ hlate
  obtain ⟨hstate, ⟨events, hlog, hexits, _⟩, _⟩ := hresult.2.2 (Or.inl hstopped)
  have hcause := hresult.2.1 (by rw [hexplicit]; nofun)
  exact ⟨service, final, hrun, hlate, hstopped, hstate.trans hstopped, hcause.1, events, hlog,
    hexits⟩

end DNS

end DnsPro.Service
