import DnsPro.Service.Status

/-!
# Health and admission

At every release of `lifecycle_mutex_` the health that is reported and the admission
of updates agree with the state of the service.  A body alone does not keep this: a
teardown that is past its stop has closed the admission, and a start attempt that is
still going on has released nothing, and it is the mutexes that keep the commit of
another thread away from both (`Settled`).
-/

namespace DnsPro.Service

open Lifecycle

/-! ## Steps -/

/-- The teardown has stopped the runtime. -/
def Pc.pastStop : Pc → Bool
  | .teardown .check .. | .teardown .stop .. => false
  | .teardown .. => true
  | _ => false

/-- The next step of the thread is the commit. -/
def Pc.commits : Pc → Bool
  | .start (.commit _) _ => true
  | _ => false

/-- Health and admission agree with the state; the admission stays closed while a
teardown goes on, and nothing is released while a start attempt does. -/
structure Settled (shared : Shared) (threads : ThreadId → Pc) : Prop where
  agrees : Agrees shared.lifecycle.status
  closed : ∀ thread, (threads thread).pastStop = true →
    shared.lifecycle.updateAdmissionOpen = false
  uncommitted : ∀ thread, (threads thread).phase = .attempting →
    uncommitted shared.lifecycle.status

/-- The effect of a step that takes a thread from `pc` to `pc'`. -/
structure Effect (shared : Shared) (pc : Pc) (shared' : Shared) (pc' : Pc) : Prop where
  settles : Settles shared.lifecycle.status shared'.lifecycle.status ∨
    pc.commits = true ∧ pc' = .idle ∧ Agrees shared'.lifecycle.status ∧
      Reports shared.lifecycle.status shared'.lifecycle.status
  closed : pc'.pastStop = true → shared'.lifecycle.updateAdmissionOpen = false
  uncommitted : pc'.phase = .attempting → uncommitted shared'.lifecycle.status

variable {shared shared' : Shared} {threads : ThreadId → Pc} {thread : ThreadId} {pc pc' : Pc}
  {choice : Choice}

/-- A body that keeps what the monitoring reads, in a thread that goes on as before. -/
theorem effect_of_settles (h : Settled shared threads) (hpc : threads thread = pc)
    (hsettles : Settles shared.lifecycle.status shared'.lifecycle.status)
    (hpast : pc'.pastStop = false ∨ pc.pastStop = true)
    (hphase : decide (pc'.phase = .attempting) = false ∨ pc.phase = .attempting) :
    Effect shared pc shared' pc' where
  settles := Or.inl hsettles
  closed hnext := by
    by_contra hopen
    have hbefore : pc.pastStop = true := hpast.resolve_left (by simp [hnext])
    have hclosed := h.closed thread (by rw [hpc]; exact hbefore)
    have hbefore : shared.lifecycle.updateAdmissionOpen = true :=
      hsettles.admission (Bool.eq_true_of_not_eq_false hopen)
    rw [hbefore] at hclosed
    cases hclosed
  uncommitted hnext := by
    have hbefore : pc.phase = .attempting := hphase.resolve_left (by simp [hnext])
    exact hsettles.uncommitted (h.uncommitted thread (by rw [hpc]; exact hbefore))

theorem effect_of_eq (h : Settled shared threads) (hpc : threads thread = pc)
    (hstatus : shared'.lifecycle.status = shared.lifecycle.status)
    (hpast : pc'.pastStop = false ∨ pc.pastStop = true)
    (hphase : decide (pc'.phase = .attempting) = false ∨ pc.phase = .attempting) :
    Effect shared pc shared' pc' :=
  effect_of_settles h hpc (settles_of_eq h.agrees hstatus) hpast hphase

theorem stepInit_effect {stage : InitStage} {config : DNSConfig} (h : Settled shared threads)
    (hpc : threads thread = .init stage config)
    (hok : (Pc.init stage config).phase.Ok shared.lifecycle)
    (hstep : shared.stepInit thread choice config stage = (shared', pc')) :
    Effect shared (.init stage config) shared' pc' := by
  cases stage with
  | check =>
    simp only [Shared.stepInit] at hstep
    split at hstep
    · obtain ⟨rfl, rfl⟩ := Prod.mk.inj hstep
      exact effect_of_eq h hpc rfl (.inl rfl) (.inl rfl)
    · rename_i lifecycle hbegin
      obtain ⟨rfl, rfl⟩ := Prod.mk.inj hstep
      obtain ⟨-, -, rfl⟩ := beginInit_eq hbegin
      exact effect_of_eq h hpc rfl (.inl rfl) (.inl rfl)
  | build =>
    have hempty := (hok.building rfl).2
    simp only [Shared.stepInit] at hstep
    split at hstep
    · rename_i hvalid
      split at hstep
      · obtain ⟨rfl, rfl⟩ := Prod.mk.inj hstep
        exact effect_of_eq h hpc rfl (.inl rfl) (.inl rfl)
      · obtain ⟨rfl, rfl⟩ := Prod.mk.inj hstep
        exact effect_of_settles h hpc (finishInit_settles h.agrees hempty hvalid _)
          (.inl rfl) (.inl rfl)
    · obtain ⟨rfl, rfl⟩ := Prod.mk.inj hstep
      exact effect_of_eq h hpc rfl (.inl rfl) (.inl rfl)

theorem stepStart_effect {stage : StartStage} {attempt : UInt64} (h : Settled shared threads)
    (hpc : threads thread = .start stage attempt)
    (hok : (Pc.start stage attempt).phase.Ok shared.lifecycle)
    (hstep : shared.stepStart thread choice attempt stage = some (shared', pc')) :
    Effect shared (.start stage attempt) shared' pc' := by
  cases stage with
  | lock =>
    obtain ⟨_, hnext⟩ := Transition.enabled hstep
    obtain ⟨rfl, rfl⟩ := Prod.mk.inj hnext
    exact effect_of_eq h hpc rfl (.inl rfl) (.inl rfl)
  | check =>
    simp only [Shared.stepStart] at hstep
    split at hstep
    · obtain ⟨rfl, rfl⟩ := Prod.mk.inj (Option.some.inj hstep)
      exact effect_of_eq h hpc rfl (.inl rfl) (.inl rfl)
    · rename_i lifecycle haccept
      obtain ⟨rfl, rfl⟩ := Prod.mk.inj (Option.some.inj hstep)
      obtain ⟨hsettles, hkept⟩ := acceptStart_settles h.agrees haccept
      exact ⟨Or.inl hsettles, (fun hno => by cases hno), fun _ => hkept⟩
  | commit info =>
    have hstate := hok.attempt rfl
    simp only [Shared.stepStart] at hstep
    split at hstep
    · rename_i lifecycle hcommit
      obtain ⟨rfl, rfl⟩ := Prod.mk.inj (Option.some.inj hstep)
      obtain ⟨-, hagrees, hreports, -⟩ | ⟨⟨_, herror⟩, -⟩ := commit_commits h.agrees hstate hcommit
      · exact ⟨Or.inr ⟨rfl, rfl, hagrees, hreports⟩, (fun hno => by cases hno),
          (fun hno => by cases hno)⟩
      · cases herror
    · rename_i error lifecycle hcommit
      obtain ⟨rfl, rfl⟩ := Prod.mk.inj (Option.some.inj hstep)
      obtain ⟨hresult, -⟩ | ⟨-, -, hsettles⟩ := commit_commits h.agrees hstate hcommit
      · cases hresult
      · exact effect_of_settles h hpc hsettles (.inl rfl) (.inr rfl)
  | fail error =>
    obtain ⟨rfl, rfl⟩ := Prod.mk.inj (Option.some.inj hstep)
    exact effect_of_settles h hpc (failStart_settles h.agrees error (hok.attempt rfl))
      (.inl rfl) (.inl rfl)
  | failStop error =>
    obtain ⟨rfl, rfl⟩ := Prod.mk.inj (Option.some.inj hstep)
    exact effect_of_settles h hpc (requestRuntimeStop_settles h.agrees) (.inl rfl) (.inl rfl)
  | result error =>
    obtain ⟨rfl, rfl⟩ := Prod.mk.inj (Option.some.inj hstep)
    exact effect_of_eq h hpc rfl (.inl rfl) (.inl rfl)
  | reset | store | notReady =>
    obtain ⟨rfl, rfl⟩ := Prod.mk.inj (Option.some.inj hstep)
    exact effect_of_eq h hpc rfl (.inl rfl) (.inr rfl)
  | supervisor | create | wait | activated =>
    simp only [Shared.stepStart] at hstep
    split at hstep <;> obtain ⟨rfl, rfl⟩ := Prod.mk.inj (Option.some.inj hstep) <;>
      exact effect_of_eq h hpc rfl (.inl rfl) (.inr rfl)
  | activate | pause =>
    simp only [Shared.stepStart] at hstep
    split_ifs at hstep <;> obtain ⟨rfl, rfl⟩ := Prod.mk.inj (Option.some.inj hstep) <;>
      exact effect_of_eq h hpc rfl (.inl rfl) (.inr rfl)
  | ready role =>
    simp only [Shared.stepStart] at hstep
    split_ifs at hstep <;> obtain ⟨rfl, rfl⟩ := Prod.mk.inj (Option.some.inj hstep) <;>
      exact effect_of_eq h hpc rfl (.inl rfl) (.inr rfl)

theorem finishTeardown_quiet (shared : Shared) (thread : ThreadId) (result : DNSServiceExitResult)
    (caller : Caller) :
    (shared.finishTeardown thread result caller).1.lifecycle = shared.lifecycle ∧
      (shared.finishTeardown thread result caller).2.pastStop = false ∧
      (shared.finishTeardown thread result caller).2.phase ≠ .attempting := by
  cases caller with
  | start => exact ⟨rfl, rfl, fun hno => by cases hno⟩
  | join | wait => exact ⟨rfl, rfl, fun hno => by cases hno⟩

/-- `finish_teardown` returns. -/
theorem effect_of_finish {before : Shared} {result : DNSServiceExitResult} {caller : Caller}
    (h : Settled shared threads) (hpc : threads thread = pc)
    (hsettles : Settles shared.lifecycle.status before.lifecycle.status)
    (hnext : before.finishTeardown thread result caller = (shared', pc')) :
    Effect shared pc shared' pc' := by
  obtain ⟨hlifecycle, hpast, hphase⟩ := finishTeardown_quiet before thread result caller
  rw [hnext] at hlifecycle hpast hphase
  dsimp only at hlifecycle hpast hphase
  refine effect_of_settles h hpc ?_ (.inl hpast) (.inl (decide_eq_false hphase))
  rw [hlifecycle]
  exact hsettles

theorem stepTeardown_effect {stage : TeardownStage} {caller : Caller} {reclaimerAvailable : Bool}
    (h : Settled shared threads)
    (hpc : threads thread = .teardown stage caller reclaimerAvailable)
    (hok : (Pc.teardown stage caller reclaimerAvailable).phase.Ok shared.lifecycle)
    (hstep : shared.stepTeardown thread choice caller reclaimerAvailable stage =
      some (shared', pc')) :
    Effect shared (.teardown stage caller reclaimerAvailable) shared' pc' := by
  cases stage with
  | check =>
    simp only [Shared.stepTeardown] at hstep
    split at hstep
    · exact effect_of_finish h hpc (Settles.refl h.agrees) (Option.some.inj hstep)
    · obtain ⟨rfl, rfl⟩ := Prod.mk.inj (Option.some.inj hstep)
      exact effect_of_eq h hpc rfl (.inl rfl) (.inl rfl)
  | stop =>
    obtain ⟨rfl, rfl⟩ := Prod.mk.inj (Option.some.inj hstep)
    exact ⟨Or.inl (requestRuntimeStop_settles h.agrees), fun _ => rfl, fun hno => by cases hno⟩
  | release =>
    have hclosed := h.closed thread (by rw [hpc]; rfl)
    have hempty : shared.lifecycle.state ≠ .empty := by
      obtain hstate | hstate := hok.tearing caller.starts rfl <;> simp [hstate]
    exact effect_of_finish h hpc (release_settles h.agrees hclosed hempty) (Option.some.inj hstep)
  | incomplete =>
    have hclosed := h.closed thread (by rw [hpc]; rfl)
    have hempty : shared.lifecycle.state ≠ .empty := by
      obtain hstate | hstate := hok.tearing caller.starts rfl <;> simp [hstate]
    exact effect_of_finish h hpc (teardownIncomplete_settles h.agrees hclosed hempty)
      (Option.some.inj hstep)
  | take joining =>
    simp only [Shared.stepTeardown] at hstep
    split at hstep
    · obtain ⟨rfl, rfl⟩ := Prod.mk.inj (Option.some.inj hstep)
      refine effect_of_eq h hpc ?_ (.inr rfl) (.inl rfl)
      dsimp only [Shared.setLifecycle]
      split <;> rfl
    · obtain ⟨rfl, rfl⟩ := Prod.mk.inj (Option.some.inj hstep)
      exact effect_of_eq h hpc rfl (.inr rfl) (by cases joining <;> exact .inl rfl)
  | join joining =>
    simp only [Shared.stepTeardown] at hstep
    split_ifs at hstep
    · obtain ⟨rfl, rfl⟩ := Prod.mk.inj (Option.some.inj hstep)
      exact effect_of_eq h hpc rfl (.inr rfl) (.inl rfl)
    · obtain ⟨rfl, rfl⟩ := Prod.mk.inj (Option.some.inj hstep)
      exact effect_of_eq h hpc rfl (.inr rfl) (by cases joining <;> exact .inl rfl)
  | restore | readReclaimer =>
    obtain ⟨rfl, rfl⟩ := Prod.mk.inj (Option.some.inj hstep)
    exact effect_of_eq h hpc rfl (.inr rfl) (.inl rfl)
  | converge site =>
    simp only [Shared.stepTeardown] at hstep
    split_ifs at hstep
    · obtain ⟨rfl, rfl⟩ := Prod.mk.inj (Option.some.inj hstep)
      exact effect_of_eq h hpc rfl (.inr rfl) (.inl rfl)
    · obtain ⟨rfl, rfl⟩ := Prod.mk.inj (Option.some.inj hstep)
      exact effect_of_eq h hpc rfl (.inr rfl) (by cases site <;> exact .inl rfl)
  | joinWorkers | readExited | detach | awaitCoordinator | successor | successorRetry |
      sealPublication | converged | completeLast =>
    simp only [Shared.stepTeardown] at hstep
    split_ifs at hstep <;> obtain ⟨rfl, rfl⟩ := Prod.mk.inj (Option.some.inj hstep) <;>
      exact effect_of_eq h hpc rfl (.inr rfl) (.inl rfl)

theorem stepThread_effect (h : Settled shared threads) (hpc : threads thread = pc)
    (hok : pc.phase.Ok shared.lifecycle)
    (hstep : shared.stepThread thread choice pc = some (shared', pc')) :
    Effect shared pc shared' pc' := by
  cases pc with
  | idle => cases hstep
  | init stage config => exact stepInit_effect h hpc hok (Option.some.inj hstep)
  | start stage attempt => exact stepStart_effect h hpc hok hstep
  | requestStop runtimeDue joins =>
    have hreturned : (Shared.stopReturned joins).pastStop = false ∧
        (Shared.stopReturned joins).phase ≠ .attempting := by
      cases joins <;> exact ⟨rfl, fun hno => by cases hno⟩
    cases runtimeDue with
    | false =>
      have hsettles := requestStop_settles h.agrees
      simp only [Shared.stepThread] at hstep
      split at hstep
      · rename_i lifecycle hstop
        rw [hstop] at hsettles
        obtain ⟨rfl, rfl⟩ := Prod.mk.inj (Option.some.inj hstep)
        exact effect_of_settles h hpc hsettles (.inl hreturned.1)
          (.inl (decide_eq_false hreturned.2))
      · rename_i lifecycle hstop
        rw [hstop] at hsettles
        obtain ⟨rfl, rfl⟩ := Prod.mk.inj (Option.some.inj hstep)
        exact effect_of_settles h hpc hsettles (.inl rfl) (.inl rfl)
    | true =>
      obtain ⟨rfl, rfl⟩ := Prod.mk.inj (Option.some.inj hstep)
      exact effect_of_settles h hpc (requestRuntimeStop_settles h.agrees) (.inl hreturned.1)
        (.inl (decide_eq_false hreturned.2))
  | failService failure =>
    simp only [Shared.stepThread] at hstep
    split at hstep
    · obtain ⟨rfl, rfl⟩ := Prod.mk.inj (Option.some.inj hstep)
      exact effect_of_eq h hpc rfl (.inl rfl) (.inl rfl)
    · rename_i lifecycle haccept
      obtain ⟨rfl, rfl⟩ := Prod.mk.inj (Option.some.inj hstep)
      exact effect_of_settles h hpc (acceptFatalLocked_settles h.agrees haccept)
        (.inl rfl) (.inl rfl)
  | fatalStop =>
    obtain ⟨rfl, rfl⟩ := Prod.mk.inj (Option.some.inj hstep)
    exact effect_of_settles h hpc (requestRuntimeStop_settles h.agrees) (.inl rfl) (.inl rfl)
  | waitCheck =>
    simp only [Shared.stepThread] at hstep
    split_ifs at hstep <;> obtain ⟨rfl, rfl⟩ := Prod.mk.inj (Option.some.inj hstep) <;>
      exact effect_of_eq h hpc rfl (.inl rfl) (.inl rfl)
  | lockStartup joins =>
    obtain ⟨_, hnext⟩ := Transition.enabled hstep
    obtain ⟨rfl, rfl⟩ := Prod.mk.inj hnext
    exact effect_of_eq h hpc rfl (.inl rfl) (.inl rfl)
  | lockJoin caller =>
    obtain ⟨_, hnext⟩ := Transition.enabled hstep
    obtain ⟨rfl, rfl⟩ := Prod.mk.inj hnext
    exact effect_of_eq h hpc rfl (.inl rfl) (.inl rfl)
  | teardown stage caller reclaimerAvailable => exact stepTeardown_effect h hpc hok hstep
  | replaceCheck =>
    simp only [Shared.stepThread] at hstep
    split at hstep <;> obtain ⟨rfl, rfl⟩ := Prod.mk.inj (Option.some.inj hstep) <;>
      exact effect_of_eq h hpc rfl (.inl rfl) (.inl rfl)
  | replaceWait =>
    simp only [Shared.stepThread] at hstep
    split at hstep
    · obtain ⟨rfl, rfl⟩ := Prod.mk.inj (Option.some.inj hstep)
      exact effect_of_eq h hpc rfl (.inl rfl) (.inl rfl)
    · obtain ⟨hpublished, hnext⟩ := Transition.enabled hstep
      obtain ⟨rfl, rfl⟩ := Prod.mk.inj hnext
      exact effect_of_settles h hpc (replaceCompleted_settles h.agrees hpublished)
        (.inl rfl) (.inl rfl)

theorem stepRole_settles {role : Role} {action : Shared.RoleAction}
    (h : Agrees shared.lifecycle.status) (hstep : shared.stepRole role action = some shared') :
    Settles shared.lifecycle.status shared'.lifecycle.status := by
  unfold Shared.stepRole at hstep
  cases hrole : shared.roles role with
  | idle | done =>
    rw [hrole] at hstep
    cases hstep
  | running attempt =>
    rw [hrole] at hstep
    cases action with
    | reportReady | abort | exit =>
      obtain ⟨_, rfl⟩ := Transition.enabled hstep
      exact Settles.refl h
    | account | stopRuntime => cases hstep
  | exited exit attempt =>
    rw [hrole] at hstep
    cases action with
    | account =>
      rcases hfound : shared.lifecycle.roleExited exit attempt with ⟨found, lifecycle⟩
      dsimp only at hstep
      rw [hfound] at hstep
      cases found with
      | expected | startupFailure | runtimeFailure =>
        obtain rfl := Option.some.inj hstep
        exact roleExited_settles h hfound
    | reportReady | abort | exit | stopRuntime => cases hstep
  | stopping =>
    rw [hrole] at hstep
    cases action with
    | stopRuntime =>
      obtain rfl := Option.some.inj hstep
      exact requestRuntimeStop_settles h
    | reportReady | abort | exit | account => cases hstep

/-- A body that anyone may run at any time. -/
theorem Settled.settles (h : Settled shared threads)
    (hsettles : Settles shared.lifecycle.status shared'.lifecycle.status) :
    Settled shared' threads where
  agrees := hsettles.agrees
  closed thread hpast := by
    by_contra hopen
    have hbefore : shared.lifecycle.updateAdmissionOpen = true :=
      hsettles.admission (Bool.eq_true_of_not_eq_false hopen)
    rw [h.closed thread hpast] at hbefore
    cases hbefore
  uncommitted thread hphase := hsettles.uncommitted (h.uncommitted thread hphase)

namespace DNS

variable {service next : DNS} {label : Label}

theorem settled_new : Settled ({} : DNS).shared ({} : DNS).threads where
  agrees := ⟨fun _ => ⟨rfl, rfl⟩, (fun hno => by cases hno), fun hne => absurd rfl hne,
    (fun hno => by cases hno), fun _ => ⟨rfl, rfl⟩, fun _ => ⟨rfl, Nat.zero_le _⟩,
    (fun _ hno => by cases hno)⟩
  closed _ _ := rfl
  uncommitted _ _ := ⟨rfl, rfl⟩

/-- While a thread commits, no teardown goes on and no other start does. -/
theorem commits_alone (hinv : Inv service.shared service.phases) {thread other : ThreadId}
    (hcommits : (service.threads thread).commits = true)
    (hother : (service.threads other).pastStop = true ∨
      (service.threads other).phase = .attempting) : other = thread := by
  apply hinv.startup.unique
  · show (service.threads other).phase.ownsStartup = true
    obtain hpast | hphase := hother
    · cases hpc : service.threads other with
      | teardown stage caller available => cases stage <;> rfl
      | idle | init | start | requestStop | failService | fatalStop | waitCheck | lockStartup
          | lockJoin | replaceCheck | replaceWait =>
        rw [hpc] at hpast
        cases hpast
    · rw [hphase]
      rfl
  · show (service.threads thread).phase.ownsStartup = true
    cases hpc : service.threads thread with
    | start stage attempt =>
      rw [hpc] at hcommits
      cases stage with
      | commit => rfl
      | lock | check | reset | supervisor | create | store | ready | notReady | wait | activate
          | activated | pause | fail | failStop | result => cases hcommits
    | idle | init | requestStop | failService | fatalStop | waitCheck | lockStartup | lockJoin
        | teardown | replaceCheck | replaceWait =>
      rw [hpc] at hcommits
      cases hcommits

theorem settled_act (hinv : Inv service.shared service.phases)
    (h : Settled service.shared service.threads) {thread : ThreadId} {shared' : Shared} {pc' : Pc}
    (heffect : Effect service.shared (service.threads thread) shared' pc') :
    Settled shared' (Function.update service.threads thread pc') := by
  obtain hsettles | ⟨hcommits, rfl, hagrees, -⟩ := heffect.settles
  · have hkept := h.settles hsettles
    refine ⟨hsettles.agrees, ?_, ?_⟩
    · intro other hpast
      by_cases heq : other = thread
      · rw [heq, Function.update_self] at hpast
        exact heffect.closed hpast
      · rw [Function.update_of_ne heq] at hpast
        exact hkept.closed other hpast
    · intro other hphase
      by_cases heq : other = thread
      · rw [heq, Function.update_self] at hphase
        exact heffect.uncommitted hphase
      · rw [Function.update_of_ne heq] at hphase
        exact hkept.uncommitted other hphase
  · refine ⟨hagrees, ?_, ?_⟩
    · intro other hpast
      by_cases heq : other = thread
      · rw [heq, Function.update_self] at hpast
        cases hpast
      · rw [Function.update_of_ne heq] at hpast
        exact absurd (commits_alone hinv hcommits (Or.inl hpast)) heq
    · intro other hphase
      by_cases heq : other = thread
      · rw [heq, Function.update_self] at hphase
        cases hphase
      · rw [Function.update_of_ne heq] at hphase
        exact absurd (commits_alone hinv hcommits (Or.inr hphase)) heq

/-- A step keeps what is settled, and the reported generation does not fall. -/
theorem settled_step (hinv : Inv service.shared service.phases)
    (h : Settled service.shared service.threads) (hstep : service.step label = some next) :
    Settled next.shared next.threads ∧
      Reports service.shared.lifecycle.status next.shared.lifecycle.status := by
  cases label with
  | call thread call =>
    obtain ⟨_, rfl⟩ := Transition.enabled hstep
    have hentry : call.entry.pastStop = false ∧ call.entry.phase ≠ .attempting := by
      cases call <;> exact ⟨rfl, fun hno => by cases hno⟩
    refine ⟨settled_act hinv h ⟨Or.inl (Settles.refl h.agrees), ?_, ?_⟩, Reports.refl _⟩
    · rw [hentry.1]
      exact fun hno => by cases hno
    · exact fun hphase => absurd hphase hentry.2
  | act thread choice =>
    obtain ⟨⟨shared, pc⟩, hthread, rfl⟩ := Option.map_eq_some_iff.mp hstep
    have heffect := stepThread_effect h rfl (hinv.ok thread) hthread
    refine ⟨settled_act hinv h heffect, ?_⟩
    obtain hsettles | ⟨-, -, -, hreports⟩ := heffect.settles
    · exact hsettles.reports
    · exact hreports
  | role role action =>
    obtain ⟨shared, hrole, rfl⟩ := Option.map_eq_some_iff.mp hstep
    have hsettles := stepRole_settles h.agrees hrole
    exact ⟨h.settles hsettles, hsettles.reports⟩
  | reportHealth snapshot =>
    obtain rfl := Option.some.inj hstep
    have hsettles := reportHealth_settles h.agrees snapshot
    exact ⟨h.settles hsettles, hsettles.reports⟩
  | publish ruleCount =>
    obtain ⟨⟨hupdates, _⟩, rfl⟩ := Transition.enabled hstep
    have hsettles : Settles service.shared.lifecycle.status
        ({ service.shared.lifecycle with
          currentVersion := ⟨service.shared.lifecycle.currentVersion.generation + 1, ruleCount⟩ } :
          Lifecycle).status := by
      refine ⟨⟨h.agrees.outside, h.agrees.inside, h.agrees.desired, h.agrees.admission,
        h.agrees.fresh, ?_, ?_⟩, id, id, Reports.refl service.shared.lifecycle.status⟩
      · intro hempty
        have hnone : service.shared.lifecycle.filterUpdates = false := (h.agrees.empty hempty).1
        rw [hnone] at hupdates
        cases hupdates
      · intro version hversion
        exact (h.agrees.version version hversion).trans (Nat.le_succ _)
    exact ⟨h.settles hsettles, hsettles.reports⟩

theorem settled_reachable (hreach : Transition.Reachable step {} service) :
    Inv service.shared service.phases ∧ Settled service.shared service.threads := by
  obtain ⟨labels, hrun⟩ := hreach
  refine Transition.run_invariant
    (fun service => Inv service.shared service.phases ∧ Settled service.shared service.threads)
    ?_ ⟨inv_new, settled_new⟩ hrun
  rintro state label next ⟨hinv, h⟩ hstep
  exact ⟨inv_step hinv hstep, (settled_step hinv h hstep).1⟩

/-- In every reachable state, and so whenever `lifecycle_mutex_` is released: outside
`Active` the service is reported unavailable with no workers, and inside as healthy,
unavailable or degraded by the number of available workers; the admission of updates is
open only in `Active`, with updates enabled and no stop cause.  A step of the commit
either makes the service active, releases the data plane, sets the port and the
admission, or does none of these; and no step lowers the reported generation. -/
theorem health_agrees (hreach : Transition.Reachable step {} service) :
    (service.shared.lifecycle.state ≠ .active →
        service.shared.lifecycle.health.state = .unavailable ∧
          service.shared.lifecycle.health.availableWorkers = 0) ∧
      (service.shared.lifecycle.state = .active →
        let health := service.shared.lifecycle.health
        (health.state = .healthy ↔ health.availableWorkers = health.desiredWorkers) ∧
          (health.state = .unavailable ↔ health.availableWorkers = 0) ∧
          (health.state = .degraded ↔
            health.availableWorkers ≠ health.desiredWorkers ∧ health.availableWorkers ≠ 0)) ∧
      (service.shared.lifecycle.updateAdmissionOpen = true →
        service.shared.lifecycle.state = .active ∧
          service.shared.lifecycle.config.runtimeUpdatesEnabled = true ∧
          service.shared.lifecycle.stopCause = .none) ∧
      (∀ thread choice info attempt next,
        service.threads thread = .start (.commit info) attempt →
        service.step (.act thread choice) = some next →
        let after := next.shared.lifecycle
        (after.state = .active ∧ after.dataPlaneReleased = true ∧
            after.health.effectiveBoundPort = some info.boundPort ∧
            after.updateAdmissionOpen = after.config.runtimeUpdatesEnabled) ∨
          (after.state ≠ .active ∧ after.dataPlaneReleased = false ∧
            after.health.effectiveBoundPort = none ∧ after.updateAdmissionOpen = false)) ∧
      ∀ label next version, service.step label = some next →
        service.shared.lifecycle.health.filterVersion = some version →
        ∃ version', next.shared.lifecycle.health.filterVersion = some version' ∧
          version.generation ≤ version'.generation := by
  obtain ⟨hinv, h⟩ := settled_reachable hreach
  refine ⟨h.agrees.outside, ?_, h.agrees.admission, ?_, ?_⟩
  · intro hactive health
    have hstate : health.state = health.expected := h.agrees.inside hactive
    have hdesired : health.desiredWorkers ≠ 0 :=
      (h.agrees.desired (by rw [show service.shared.lifecycle.status.state = .active from hactive]
                            decide)).2
    rw [hstate, DNSHealthSnapshot.expected]
    by_cases hall : health.availableWorkers = health.desiredWorkers
    · rw [if_pos hall]
      simp [hall, hdesired]
    · rw [if_neg hall]
      by_cases hnone : health.availableWorkers = 0
      · rw [if_pos hnone]
        simp [hnone, Ne.symm hdesired]
      · rw [if_neg hnone]
        simp [hall, hnone]
  · intro thread choice info attempt next hpc hstep after
    have hphase : service.phases thread = .attempting := by
      show (service.threads thread).phase = .attempting
      rw [hpc]
      rfl
    have hstate := (hinv.ok thread).attempt hphase
    have hkept := h.uncommitted thread hphase
    obtain ⟨⟨shared, pc⟩, hthread, rfl⟩ := Option.map_eq_some_iff.mp hstep
    rw [hpc] at hthread
    simp only [Shared.stepThread, Shared.stepStart] at hthread
    split at hthread
    · rename_i lifecycle hcommit
      obtain ⟨rfl, rfl⟩ := Prod.mk.inj (Option.some.inj hthread)
      obtain ⟨-, -, -, hcommitted⟩ | ⟨⟨_, herror⟩, -⟩ := commit_commits h.agrees hstate hcommit
      · exact Or.inl hcommitted
      · cases herror
    · rename_i error lifecycle hcommit
      obtain ⟨rfl, rfl⟩ := Prod.mk.inj (Option.some.inj hthread)
      obtain ⟨hresult, -⟩ | ⟨-, hidle, hsettles⟩ := commit_commits h.agrees hstate hcommit
      · cases hresult
      · have hnone := hsettles.uncommitted hkept
        exact Or.inr ⟨hidle, hnone.1, hnone.2, hsettles.agrees.closed hidle⟩
  · intro label next version hstep hreported
    exact (settled_step hinv h hstep).2 version hreported

/-- One of two workers is lost after the start, and reported. -/
theorem health_agrees_degraded :
    ∃ service, Transition.run step {}
        (.call 1 (.init { workerCount := 2, runtimeUpdatesEnabled := false }) :: acts 2 1 ++
          .call 1 .start :: acts 11 1 ++ [.reportHealth { availableWorkers := 1 }]) =
        some service ∧
      service.shared.lifecycle.state = .active ∧
      service.shared.lifecycle.health.state = .degraded := by
  obtain ⟨service, hrun, hend⟩ : ∃ service, Transition.run step {}
      (.call 1 (.init { workerCount := 2, runtimeUpdatesEnabled := false }) :: acts 2 1 ++
        .call 1 .start :: acts 11 1 ++ [.reportHealth { availableWorkers := 1 }]) =
      some service ∧
        (service.shared.lifecycle.state, service.shared.lifecycle.health.availableWorkers,
        service.shared.lifecycle.health.desiredWorkers) = (.active, 1, 2) := by
    apply Option.map_eq_some_iff.mp
    decide +kernel
  obtain ⟨hactive, hrest⟩ := Prod.mk.inj hend
  obtain ⟨havailable, hdesired⟩ := Prod.mk.inj hrest
  refine ⟨service, hrun, hactive, ?_⟩
  obtain ⟨-, hinside, -⟩ := health_agrees ⟨_, hrun⟩
  apply (hinside hactive).2.2.mpr
  rw [havailable, hdesired]
  decide

end DNS

end DnsPro.Service
