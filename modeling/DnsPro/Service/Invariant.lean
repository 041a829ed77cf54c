import DnsPro.Service.Steps

/-!
# The invariant of the service

`Inv` says who holds the two mutexes, what each thread may rely on in its phase,
and that a state up to `Active` has no stop cause.  It reads the program counters
only through their phases.

A step is a call, a step of a thread, or a step beside the threads: of a role, a
health report or a publication.  `step_cases` says so, and `inv_step` follows from
what `Advances` and `Beside` say of them.
-/

namespace DnsPro.Service

open Verdict (Moves Party)

/-! ## Steps beside the threads -/

/-- The effect of a step of a role, of a health report or of a publication. -/
structure Beside (shared shared' : Shared) : Prop where
  moves : Moves .anyone shared.lifecycle.verdict shared'.lifecycle.verdict
  initInProgress : shared'.lifecycle.initInProgress = shared.lifecycle.initInProgress
  startup : shared'.startupMutex = shared.startupMutex
  join : shared'.joinMutex = shared.joinMutex
  empty : shared.lifecycle.state = .empty → shared'.lifecycle.state = .empty
  due : ∀ role, shared'.roles role = .stopping →
    shared'.lifecycle.stopCause ≠ .none ∨ shared.roles role = .stopping
  explicit : shared.lifecycle.stopCause = .none → shared'.lifecycle.stopCause ≠ .explicit
  fatal : shared.lifecycle.stopCause = .none → shared'.lifecycle.stopCause = .fatal →
    ∃ error, Event.fatalAccepted error ∈ shared'.log
  log : ∃ events, shared'.log = events ++ shared.log ∧ ∀ event ∈ events,
    (∃ error, event = .fatalAccepted error) ∨
      (∃ part, event = .runtimeStop part) ∧ ∃ role, shared.roles role = .stopping

variable {shared shared' : Shared}

theorem Shared.Keeps.beside (h : shared.Keeps shared')
    (hstartup : shared'.startupMutex = shared.startupMutex)
    (hjoin : shared'.joinMutex = shared.joinMutex)
    (hlog : ∃ events, shared'.log = events ++ shared.log ∧ ∀ event ∈ events,
      (∃ error, event = .fatalAccepted error) ∨
        (∃ part, event = .runtimeStop part) ∧ ∃ role, shared.roles role = .stopping) :
    Beside shared shared' where
  moves := h.verdict ▸ Moves.keep .anyone _
  initInProgress := h.initInProgress
  startup := hstartup
  join := hjoin
  empty hempty := h.state.trans hempty
  due role hstopping := Or.inr (h.roles role hstopping)
  explicit hnone hexplicit := StopCause.not_set h.cause hnone hexplicit nofun
  fatal hnone hfatal := (StopCause.not_set h.cause hnone hfatal nofun).elim
  log := hlog

/-- The body of a role main after its result was published. -/
theorem account_beside {role : Role} {exit : RoleExit} {attempt : UInt64}
    {found : Lifecycle.RoleVerdict} {lifecycle : Lifecycle} {stage : RoleStage}
    (hrole : shared.lifecycle.roleExited exit attempt = (found, lifecycle))
    (hlifecycle : shared'.lifecycle = lifecycle)
    (hroles : shared'.roles = Function.update shared.roles role stage)
    (hstage : stage = .stopping → found ≠ .expected)
    (hstartup : shared'.startupMutex = shared.startupMutex)
    (hjoin : shared'.joinMutex = shared.joinMutex)
    (hlog : (∀ error, found ≠ .runtimeFailure error) ∧ shared'.log = shared.log ∨
      ∃ error, shared'.log = .fatalAccepted error :: shared.log) :
    Beside shared shared' := by
  obtain ⟨hmoves, hinit, _, hdue, hfatal, hexplicit⟩ := Lifecycle.roleExited_moves hrole
  subst hlifecycle
  exact
    { moves := hmoves
      initInProgress := hinit
      startup := hstartup
      join := hjoin
      empty := fun hempty => by
        rw [Lifecycle.roleExited_empty exit attempt hempty] at hrole
        rw [← (Prod.mk.inj hrole).2]
        exact hempty
      due := fun other hstopping => by
        rw [hroles] at hstopping
        by_cases heq : other = role
        · rw [heq, Function.update_self] at hstopping
          exact Or.inl (hdue (hstage hstopping))
        · rw [Function.update_of_ne heq] at hstopping
          exact Or.inr hstopping
      explicit := hexplicit
      fatal := fun hnone hcause => by
        obtain ⟨error, herror⟩ := hfatal hnone hcause
        obtain ⟨hnot, _⟩ | ⟨accepted, hlog⟩ := hlog
        · exact absurd herror (hnot error)
        · exact ⟨accepted, hlog ▸ List.mem_cons_self⟩
      log := by
        obtain ⟨_, hlog⟩ | ⟨accepted, hlog⟩ := hlog
        · exact ⟨[], hlog, by simp⟩
        · exact ⟨[.fatalAccepted accepted], hlog, by simp⟩ }

theorem stepRole_beside {role : Role} {action : Shared.RoleAction}
    (hstep : shared.stepRole role action = some shared') : Beside shared shared' := by
  unfold Shared.stepRole at hstep
  cases hrole : shared.roles role with
  | idle | done =>
    rw [hrole] at hstep
    cases hstep
  | running attempt =>
    rw [hrole] at hstep
    cases action with
    | reportReady code =>
      obtain ⟨_, rfl⟩ := Transition.enabled hstep
      exact Shared.Keeps.beside ⟨rfl, rfl, fun _ => id⟩ rfl rfl ⟨[], rfl, by simp⟩
    | abort | exit =>
      obtain ⟨_, rfl⟩ := Transition.enabled hstep
      exact Shared.Keeps.beside ⟨rfl, rfl, fun _ => setRole_stopping nofun⟩ rfl rfl
        ⟨[], rfl, by simp⟩
    | account | stopRuntime => cases hstep
  | exited exit attempt =>
    rw [hrole] at hstep
    cases action with
    | account =>
      rcases hfound : shared.lifecycle.roleExited exit attempt with ⟨found, lifecycle⟩
      dsimp only at hstep
      rw [hfound] at hstep
      cases found with
      | expected =>
        obtain rfl := Option.some.inj hstep
        exact account_beside hfound rfl rfl nofun rfl rfl (Or.inl ⟨by simp, rfl⟩)
      | startupFailure =>
        obtain rfl := Option.some.inj hstep
        exact account_beside hfound rfl rfl (fun _ h => by cases h) rfl rfl
          (Or.inl ⟨by simp, rfl⟩)
      | runtimeFailure error =>
        obtain rfl := Option.some.inj hstep
        exact account_beside hfound rfl rfl (fun _ h => by cases h) rfl rfl (Or.inr ⟨error, rfl⟩)
    | reportReady | abort | exit | stopRuntime => cases hstep
  | stopping =>
    rw [hrole] at hstep
    cases action with
    | stopRuntime =>
      obtain rfl := Option.some.inj hstep
      exact Shared.Keeps.beside ⟨rfl, rfl, fun _ => setRole_stopping nofun⟩ rfl rfl
        ⟨[.runtimeStop .requested], rfl, by simpa using ⟨role, hrole⟩⟩
    | reportReady | abort | exit | account => cases hstep

/-! ## Cases of a step -/

namespace DNS

variable {service next : DNS} {label : Label}

/-- The phases of the threads. -/
def phases (service : DNS) (thread : ThreadId) : Phase := (service.threads thread).phase

theorem phases_setThread (shared : Shared) (thread : ThreadId) (pc : Pc) :
    (service.setThread shared thread pc).phases =
      Function.update service.phases thread pc.phase := by
  funext other
  by_cases heq : other = thread
  · subst heq
    simp [phases, setThread]
  · simp [phases, setThread, heq]

/-- A call begins outside of every lock. -/
@[simp] theorem entry_phase (call : Call) : call.entry.phase = .outside := by
  cases call <;> rfl

/-- A step is a call, a step of a thread, or a step beside the threads. -/
theorem step_cases (hstep : service.step label = some next) :
    (∃ thread call, label = .call thread call ∧ service.threads thread = .idle ∧
      next = service.setThread (service.shared.record (.called thread call)) thread call.entry) ∨
    (∃ thread choice shared pc, label = .act thread choice ∧
      service.shared.stepThread thread choice (service.threads thread) = some (shared, pc) ∧
      next = service.setThread shared thread pc) ∨
    Beside service.shared next.shared ∧ next.threads = service.threads := by
  cases label with
  | call thread call =>
    obtain ⟨hidle, rfl⟩ := Transition.enabled hstep
    exact Or.inl ⟨thread, call, rfl, hidle, rfl⟩
  | act thread choice =>
    obtain ⟨⟨shared, pc⟩, hthread, rfl⟩ := Option.map_eq_some_iff.mp hstep
    exact Or.inr (Or.inl ⟨thread, choice, shared, pc, rfl, hthread, rfl⟩)
  | role role action =>
    obtain ⟨shared, hrole, rfl⟩ := Option.map_eq_some_iff.mp hstep
    exact Or.inr (Or.inr ⟨stepRole_beside hrole, rfl⟩)
  | reportHealth snapshot =>
    obtain rfl := Option.some.inj hstep
    have hkeeps : service.shared.Keeps
        (service.shared.setLifecycle (service.shared.lifecycle.reportHealth snapshot)) :=
      .of_roles (Lifecycle.reportHealth_verdict _ snapshot)
        (Lifecycle.reportHealth_initInProgress _ snapshot) rfl
    exact Or.inr (Or.inr ⟨hkeeps.beside rfl rfl ⟨[], rfl, by simp⟩, rfl⟩)
  | publish ruleCount =>
    obtain ⟨_, rfl⟩ := Transition.enabled hstep
    exact Or.inr (Or.inr ⟨Shared.Keeps.beside ⟨rfl, rfl, fun _ => id⟩ rfl rfl
      ⟨[], rfl, by simp⟩, rfl⟩)

/-! ## The invariant -/

/-- The invariant, over the shared state and the phases of the threads. -/
structure Inv (shared : Shared) (phases : ThreadId → Phase) : Prop where
  startup : Mutex.Held (Phase.ownsStartup ∘ phases) shared.startupMutex
  join : Mutex.Held (Phase.ownsJoin ∘ phases) shared.joinMutex
  ok : ∀ thread, (phases thread).Ok shared.lifecycle
  attempt : shared.lifecycle.state = .starting → ∃ thread, phases thread = .attempting
  building : ∀ thread other, phases thread = .building → phases other = .building → thread = other
  causeless : shared.lifecycle.verdict.Causeless

theorem inv_new : Inv ({} : DNS).shared ({} : DNS).phases where
  startup := Mutex.held_free fun _ => rfl
  join := Mutex.held_free fun _ => rfl
  ok _ := Phase.ok_of_free nofun nofun nofun
  attempt := nofun
  building := nofun
  causeless _ := rfl

variable {phases : ThreadId → Phase} {shared shared' : Shared} {thread : ThreadId} {pc pc' : Pc}

/-- While a thread looks at the state under both mutexes, no start is going on. -/
theorem Inv.not_starting (hinv : Inv shared phases) {starts : Bool}
    (hphase : phases thread = .examining starts) : shared.lifecycle.state ≠ .starting := by
  intro hstarting
  obtain ⟨other, hother⟩ := hinv.attempt hstarting
  have howns : (Phase.ownsStartup ∘ phases) thread = true := by simp [hphase, Phase.ownsStartup]
  have howns' : (Phase.ownsStartup ∘ phases) other = true := by simp [hother, Phase.ownsStartup]
  have heq := hinv.startup.unique howns howns'
  rw [← heq, hphase] at hother
  cases hother

/-- The other threads keep what they rely on. -/
theorem Inv.others (hinv : Inv shared phases) (hphase : phases thread = pc.phase)
    (hadvances : Advances thread shared pc shared' pc') {other : ThreadId}
    (hne : other ≠ thread) : (phases other).Ok shared'.lifecycle := by
  have hok := hinv.ok other
  obtain ⟨party, hplays, hmoves⟩ := hadvances.moves
  -- A thread that holds `startup_mutex_` sees only bodies that anyone may run.
  have hforeign : (phases other).ownsStartup = true → party = .anyone := by
    intro hother
    by_contra hparty
    have hthread : (Phase.ownsStartup ∘ phases) thread = true := by
      show (phases thread).ownsStartup = true
      rw [hphase]
      exact hplays.ownsStartup hparty
    exact hne (hinv.startup.unique hother hthread)
  constructor
  · intro hbuilding
    obtain ⟨hprogress, hempty⟩ := hok.building hbuilding
    have hnot : pc.phase ≠ .building := by
      intro hpc
      exact hne (hinv.building other thread hbuilding (hphase.trans hpc))
    obtain ⟨_, hidle, _⟩ | ⟨_, hsame⟩ := hadvances.building hnot
    · rw [hidle] at hprogress
      cases hprogress
    · refine ⟨hsame.trans hprogress, ?_⟩
      by_contra hleft
      exact hnot (hadvances.initialized hempty hleft)
  · intro hattempt
    obtain rfl := hforeign (by rw [hattempt]; rfl)
    exact hmoves.attempt (hok.attempt hattempt)
  · intro starts htearing
    obtain rfl := hforeign (by rw [htearing]; rfl)
    exact hmoves.teardown (hok.tearing starts htearing)

/-- A step of a thread keeps the invariant. -/
theorem Inv.act (hinv : Inv shared phases) (hphase : phases thread = pc.phase)
    (hadvances : Advances thread shared pc shared' pc') :
    Inv shared' (Function.update phases thread pc'.phase) where
  startup := by
    rw [Function.comp_update]
    apply hinv.startup.step
    simpa [hphase] using hadvances.startup
  join := by
    rw [Function.comp_update]
    apply hinv.join.step
    simpa [hphase] using hadvances.join
  ok other := by
    by_cases heq : other = thread
    · subst heq
      rw [Function.update_self]
      exact hadvances.ok
    · rw [Function.update_of_ne heq]
      exact hinv.others hphase hadvances heq
  attempt hstarting := by
    by_cases hbefore : shared.lifecycle.state = .starting
    · obtain ⟨other, hother⟩ := hinv.attempt hbefore
      by_cases heq : other = thread
      · subst heq
        have hgoes := hadvances.attempt hstarting (Or.inl (hphase.symm.trans hother))
        exact ⟨other, by rw [Function.update_self]; exact hgoes⟩
      · exact ⟨other, by rw [Function.update_of_ne heq]; exact hother⟩
    · have hgoes := hadvances.attempt hstarting (Or.inr hbefore)
      exact ⟨thread, by rw [Function.update_self]; exact hgoes⟩
  building first second hfirst hsecond := by
    -- A second thread that builds would have found the flag set.
    have halone : ∀ other, other ≠ thread → phases other = .building →
        pc'.phase = .building → False := by
      intro other hne hother hpc'
      have hnot : pc.phase ≠ .building := fun hpc =>
        hne (hinv.building other thread hother (hphase.trans hpc))
      obtain ⟨_, hidle, _⟩ | ⟨hno, _⟩ := hadvances.building hnot
      · rw [((hinv.ok other).building hother).1] at hidle
        cases hidle
      · exact hno hpc'
    by_cases heq : first = thread <;> by_cases heq' : second = thread
    · rw [heq, heq']
    · rw [heq, Function.update_self] at hfirst
      rw [Function.update_of_ne heq'] at hsecond
      exact (halone second heq' hsecond hfirst).elim
    · rw [heq', Function.update_self] at hsecond
      rw [Function.update_of_ne heq] at hfirst
      exact (halone first heq hfirst hsecond).elim
    · rw [Function.update_of_ne heq] at hfirst
      rw [Function.update_of_ne heq'] at hsecond
      exact hinv.building first second hfirst hsecond
  causeless := by
    obtain ⟨_, _, hmoves⟩ := hadvances.moves
    exact hmoves.causeless hinv.causeless

/-- A step beside the threads keeps the invariant. -/
theorem Inv.beside (hinv : Inv shared phases) (hbeside : Beside shared shared') :
    Inv shared' phases where
  startup := hbeside.startup ▸ hinv.startup
  join := hbeside.join ▸ hinv.join
  ok thread := by
    have hok := hinv.ok thread
    constructor
    · intro hbuilding
      obtain ⟨hprogress, hempty⟩ := hok.building hbuilding
      exact ⟨hbeside.initInProgress.trans hprogress, hbeside.empty hempty⟩
    · intro hattempt
      exact hbeside.moves.attempt (hok.attempt hattempt)
    · intro starts htearing
      exact hbeside.moves.teardown (hok.tearing starts htearing)
  attempt hstarting := hinv.attempt (hbeside.moves.starting hstarting)
  building := hinv.building
  causeless := hbeside.moves.causeless hinv.causeless

/-- What `Advances` says holds of every step of a thread of a reachable service. -/
theorem Inv.advances {choice : Choice} (hinv : Inv service.shared service.phases)
    (hstep : service.shared.stepThread thread choice (service.threads thread) =
      some (shared', pc')) :
    Advances thread service.shared (service.threads thread) shared' pc' := by
  refine stepThread_advances ?_ (hinv.ok thread) hstep
  intro caller available hpc
  apply hinv.not_starting
  show (service.threads thread).phase = .examining caller.starts
  rw [hpc]
  rfl

theorem inv_step (hinv : Inv service.shared service.phases)
    (hstep : service.step label = some next) :
    Inv next.shared next.phases := by
  obtain ⟨thread, call, _, hidle, rfl⟩ | ⟨thread, choice, shared, pc, _, hthread, rfl⟩ |
    ⟨hbeside, hthreads⟩ := step_cases hstep
  · have hphases : (service.setThread (service.shared.record (.called thread call)) thread
        call.entry).phases = service.phases := by
      have houtside : service.phases thread = .outside := by simp [phases, hidle, Pc.phase]
      rw [phases_setThread, entry_phase, ← houtside, Function.update_eq_self]
    rw [hphases]
    exact ⟨hinv.startup, hinv.join, hinv.ok, hinv.attempt, hinv.building, hinv.causeless⟩
  · rw [phases_setThread]
    exact hinv.act rfl (hinv.advances hthread)
  · have hphases : next.phases = service.phases := by
      funext thread
      rw [phases, phases, hthreads]
    rw [hphases]
    exact hinv.beside hbeside

theorem inv_reachable (hreach : Transition.Reachable step {} service) :
    Inv service.shared service.phases := by
  obtain ⟨labels, hrun⟩ := hreach
  refine Transition.run_invariant (fun service => Inv service.shared service.phases) ?_ inv_new hrun
  intro state label next hinv hstep
  exact inv_step hinv hstep

end DNS

end DnsPro.Service
