import DnsPro.Service.Invariant

/-!
# A teardown has a cause

The service is torn down for a reason: `Stopping` and the two final states have a
stop cause, and the runtime of a service that was active is stopped only after a
call of `request_stop` or `join`, or an accepted fatal error.

This holds of the runs in which no `finish_teardown` finds the service `Active`.
`wait` looks at the state under `lifecycle_mutex_`, gives the mutex up and then
takes `startup_mutex_`; a `start` that comes between makes the service active, and
`finish_teardown` takes it down with the cause `None`.  `wait_tears_down_active` is
such a run.
-/

namespace DnsPro.Service

open Verdict (Moves Party)

/-! ## What the log says -/

/-- Somebody has called `request_stop` or `join`. -/
def StopCalled (log : List Event) : Prop :=
  ∃ thread, Event.called thread .requestStop ∈ log ∨ Event.called thread .join ∈ log

/-- A stop was asked for, or a fatal error was accepted. -/
def StopRequested (log : List Event) : Prop :=
  StopCalled log ∨ ∃ error, Event.fatalAccepted error ∈ log

theorem StopCalled.mono {log log' : List Event} (h : StopCalled log) (hsub : log ⊆ log') :
    StopCalled log' := by
  obtain ⟨thread, h⟩ := h
  exact ⟨thread, h.imp (fun h => hsub h) fun h => hsub h⟩

theorem StopRequested.mono {log log' : List Event} (h : StopRequested log) (hsub : log ⊆ log') :
    StopRequested log' := by
  obtain h | ⟨error, h⟩ := h
  · exact Or.inl (h.mono hsub)
  · exact Or.inr ⟨error, hsub h⟩

/-- Every runtime stop of a service that was active was asked for before. -/
def Justified : List Event → Prop
  | [] => True
  | event :: before =>
    ((∃ part, event = .runtimeStop part) → Event.activated ∈ before → StopRequested before) ∧
      Justified before

theorem justified_append {events log : List Event} (hlog : Justified log)
    (hevents : (∃ part, Event.runtimeStop part ∈ events) → Event.activated ∈ events ++ log →
      StopRequested log) : Justified (events ++ log) := by
  induction events with
  | nil => exact hlog
  | cons event events ih =>
    have hrest : Justified (events ++ log) := by
      apply ih
      rintro ⟨part, hpart⟩ hactivated
      exact hevents ⟨part, List.mem_cons_of_mem _ hpart⟩ (List.mem_cons_of_mem _ hactivated)
    refine ⟨?_, hrest⟩
    rintro ⟨part, rfl⟩ hactivated
    have hrequested := hevents ⟨part, List.mem_cons_self⟩ (List.mem_cons_of_mem _ hactivated)
    exact hrequested.mono (List.subset_append_right _ _)

theorem Justified.split {log after before : List Event} {part : RuntimeStop}
    (h : Justified log) (hlog : log = after ++ .runtimeStop part :: before)
    (hactivated : Event.activated ∈ before) : StopRequested before := by
  subst hlog
  induction after with
  | nil => exact h.1 ⟨part, rfl⟩ hactivated
  | cons event after ih => exact ih h.2

/-! ## The invariant of the causes -/

/-- What is recorded of the causes. -/
structure Recorded (shared : Shared) : Prop where
  caused : shared.lifecycle.verdict.Caused
  final : shared.lifecycle.verdict.Final
  explicit : shared.lifecycle.stopCause = .explicit → StopCalled shared.log
  fatal : shared.lifecycle.stopCause = .fatal → ∃ error, Event.fatalAccepted error ∈ shared.log
  startup : shared.lifecycle.stopCause = .startupFailure → Event.activated ∉ shared.log
  early : shared.lifecycle.state.rank ≤ 2 → Event.activated ∉ shared.log
  justified : Justified shared.log

/-- What a step does, as far as the causes are concerned. -/
structure Records (shared shared' : Shared) : Prop where
  moves : ∃ party, (party = .teardown → shared.lifecycle.stopCause ≠ .none) ∧
    Moves party shared.lifecycle.verdict shared'.lifecycle.verdict
  explicit : shared.lifecycle.stopCause = .none → shared'.lifecycle.stopCause = .explicit →
    StopCalled shared'.log
  fatal : shared.lifecycle.stopCause = .none → shared'.lifecycle.stopCause = .fatal →
    ∃ error, Event.fatalAccepted error ∈ shared'.log
  log : ∃ events, shared'.log = events ++ shared.log ∧
    (Event.activated ∈ events →
      shared.lifecycle.state = .starting ∧ shared'.lifecycle.state = .active) ∧
    ((∃ part, Event.runtimeStop part ∈ events) → shared.lifecycle.stopCause ≠ .none)

variable {shared shared' : Shared}

theorem Records.subset (h : Records shared shared') : shared.log ⊆ shared'.log := by
  obtain ⟨events, hlog, _⟩ := h.log
  rw [hlog]
  exact List.subset_append_right _ _

theorem Recorded.step (hrecorded : Recorded shared)
    (hcauseless : shared.lifecycle.verdict.Causeless)
    (hrecords : Records shared shared') : Recorded shared' := by
  obtain ⟨party, hteardown, hmoves⟩ := hrecords.moves
  obtain ⟨events, hlog, hactivated, hstops⟩ := hrecords.log
  have hsub := hrecords.subset
  have hkept : shared.lifecycle.stopCause ≠ .none →
      shared'.lifecycle.stopCause = shared.lifecycle.stopCause :=
    fun hcause => (hmoves.cause_kept hcauseless hcause).1
  have hstarting : Event.activated ∈ events → shared.lifecycle.stopCause = .none := by
    intro hmem
    apply hcauseless
    rw [Lifecycle.verdict_state, (hactivated hmem).1]
    decide
  constructor
  · exact hmoves.caused hrecorded.caused hteardown
  · exact hmoves.final hrecorded.final
  · intro hexplicit
    by_cases hnone : shared.lifecycle.stopCause = .none
    · exact hrecords.explicit hnone hexplicit
    · exact (hrecorded.explicit ((hkept hnone).symm.trans hexplicit)).mono hsub
  · intro hfatal
    by_cases hnone : shared.lifecycle.stopCause = .none
    · exact hrecords.fatal hnone hfatal
    · obtain ⟨error, herror⟩ := hrecorded.fatal ((hkept hnone).symm.trans hfatal)
      exact ⟨error, hsub herror⟩
  · intro hfailure hmem
    rw [hlog] at hmem
    by_cases hnone : shared.lifecycle.stopCause = .none
    · obtain ⟨hstate, hstopping⟩ := hmoves.startupFailure hrecorded.caused hnone hfailure
      obtain hmem | hmem := List.mem_append.mp hmem
      · have hactive := (hactivated hmem).2
        rw [show shared'.lifecycle.state = .stopping from hstopping] at hactive
        cases hactive
      · refine hrecorded.early ?_ hmem
        rw [show shared.lifecycle.state = .starting from hstate]
        decide
    · obtain hmem | hmem := List.mem_append.mp hmem
      · exact hnone (hstarting hmem)
      · exact hrecorded.startup ((hkept hnone).symm.trans hfailure) hmem
  · intro hrank hmem
    rw [hlog] at hmem
    obtain hmem | hmem := List.mem_append.mp hmem
    · rw [(hactivated hmem).2] at hrank
      simp [DNSLifecycleState.rank] at hrank
    · exact hrecorded.early (Nat.le_trans hmoves.forward.rank_le hrank) hmem
  · rw [hlog]
    apply justified_append hrecorded.justified
    intro hstop hmem
    have hcause := hstops hstop
    have hbefore : Event.activated ∈ shared.log := by
      obtain hmem | hmem := List.mem_append.mp hmem
      · exact absurd (hstarting hmem) hcause
      · exact hmem
    cases hcase : shared.lifecycle.stopCause with
    | none => exact absurd hcase hcause
    | explicit => exact Or.inl (hrecorded.explicit hcase)
    | fatal => exact Or.inr (hrecorded.fatal hcase)
    | startupFailure => exact absurd hbefore (hrecorded.startup hcase)

/-- Only the check of `finish_teardown` is in its phase. -/
theorem Pc.of_examining {pc : Pc} {starts : Bool} (h : pc.phase = .examining starts) :
    ∃ caller available, pc = .teardown .check caller available := by
  cases pc with
  | teardown stage caller available =>
    cases stage with
    | check => exact ⟨caller, available, rfl⟩
    | _ => cases h
  | start stage attempt => cases stage <;> cases h
  | init stage config => cases stage <;> cases h
  | requestStop runtimeDue joins => cases runtimeDue <;> cases h
  | idle | failService | fatalStop | waitCheck | lockStartup | lockJoin | replaceCheck
  | replaceWait => cases h

namespace DNS

/-- A `finish_teardown` is about to find the service active. -/
def entersActive (service : DNS) : Label → Bool
  | .act thread _ =>
    match service.threads thread with
    | .teardown .check _ _ => decide (service.shared.lifecycle.state = .active)
    | _ => false
  | _ => false

/-- Everything recorded of the causes, with the threads and roles that owe a stop. -/
structure CauseInv (service : DNS) : Prop where
  recorded : Recorded service.shared
  due : ∀ thread, (service.phases thread).stopDue = true →
    service.shared.lifecycle.stopCause ≠ .none
  roles : ∀ role, service.shared.roles role = .stopping →
    service.shared.lifecycle.stopCause ≠ .none
  call : ∀ thread joins, service.threads thread = .requestStop false joins →
    StopCalled service.shared.log

theorem causeInv_new : CauseInv {} where
  recorded := ⟨nofun, ⟨nofun, nofun⟩, nofun, nofun, nofun, nofun, trivial⟩
  due := nofun
  roles := nofun
  call := nofun

variable {service next : DNS} {label : Label} {thread : ThreadId} {shared' : Shared} {pc' : Pc}

/-- What a step of a thread records. -/
theorem CauseInv.records (hcause : CauseInv service)
    (hadvances : Advances thread service.shared (service.threads thread) shared' pc') :
    Records service.shared shared' := by
  obtain ⟨party, hplays, hmoves⟩ := hadvances.moves
  obtain ⟨events, hlog, hevents⟩ := hadvances.log
  refine ⟨⟨party, ?_, hmoves⟩, ?_, hadvances.fatal, events, hlog, ?_, ?_⟩
  · rintro rfl
    obtain ⟨starts, hphase⟩ := hplays
    apply hcause.due thread
    rw [phases, hphase]
    rfl
  · intro hnone hexplicit
    obtain ⟨joins, hpc⟩ := hadvances.explicit hnone hexplicit
    apply (hcause.call thread joins hpc).mono
    rw [hlog]
    exact List.subset_append_right _ _
  · intro hmem
    exact hevents _ hmem
  · rintro ⟨part, hmem⟩
    exact hcause.due thread (hevents _ hmem)

/-- A cause that there is stays. -/
theorem cause_ne_step {party : Party} {shared : Shared}
    (hcauseless : shared.lifecycle.verdict.Causeless)
    (hmoves : Moves party shared.lifecycle.verdict shared'.lifecycle.verdict)
    (hcause : shared.lifecycle.stopCause ≠ .none) : shared'.lifecycle.stopCause ≠ .none := by
  have hkept : shared'.lifecycle.stopCause = shared.lifecycle.stopCause :=
    (hmoves.cause_kept hcauseless hcause).1
  rw [hkept]
  exact hcause

/-- A step of a thread keeps the causes, unless it lets a teardown of an active
service begin. -/
theorem CauseInv.act {choice : Choice} (hcause : CauseInv service)
    (hinv : Inv service.shared service.phases)
    (hcareful : service.entersActive (.act thread choice) = false)
    (hadvances : Advances thread service.shared (service.threads thread) shared' pc') :
    CauseInv (service.setThread shared' thread pc') := by
  have hrecords := hcause.records hadvances
  obtain ⟨party, _, hmoves⟩ := hrecords.moves
  have hkept := cause_ne_step hinv.causeless hmoves
  have hsub := hrecords.subset
  refine ⟨hcause.recorded.step hinv.causeless hrecords, ?_, ?_, ?_⟩
  · intro other hdue
    rw [phases_setThread] at hdue
    by_cases heq : other = thread
    · subst heq
      rw [Function.update_self] at hdue
      obtain hset | hbefore | ⟨hphase, hrunning⟩ := hadvances.due hdue
      · exact hset
      · exact hkept (hcause.due other hbefore)
      · -- The check lets the teardown go on: the state is neither `Starting` nor `Active`.
        apply hkept
        apply hcause.recorded.caused
        have hexamining : service.phases other = .examining false := hphase
        have hstarting := hinv.not_starting hexamining
        have hactive : service.shared.lifecycle.state ≠ .active := by
          intro hactive
          have henters : service.entersActive (.act other choice) = true := by
            obtain ⟨caller, available, hpc⟩ := Pc.of_examining hphase
            simp [entersActive, hpc, hactive]
          rw [henters] at hcareful
          cases hcareful
        revert hstarting hactive hrunning
        rw [Lifecycle.verdict_state]
        unfold Lifecycle.teardownDone
        cases service.shared.lifecycle.state <;> simp [DNSLifecycleState.rank]
    · rw [Function.update_of_ne heq] at hdue
      exact hkept (hcause.due other hdue)
  · intro role hstopping
    exact hkept (hcause.roles role (hadvances.roles role hstopping))
  · intro other joins hpc
    by_cases heq : other = thread
    · subst heq
      rw [show (service.setThread shared' other pc').threads other = pc' from
        Function.update_self _ _ _] at hpc
      exact absurd hpc (hadvances.stopCall joins)
    · rw [show (service.setThread shared' thread pc').threads other = service.threads other from
        Function.update_of_ne heq _ _] at hpc
      exact (hcause.call other joins hpc).mono hsub

/-- A call keeps the causes, and one of `request_stop` or `join` is in the log. -/
theorem CauseInv.called {call : Call} (hcause : CauseInv service)
    (hinv : Inv service.shared service.phases) (hidle : service.threads thread = .idle) :
    CauseInv (service.setThread (service.shared.record (.called thread call)) thread
      call.entry) := by
  have hrecords : Records service.shared (service.shared.record (.called thread call)) := by
    refine ⟨⟨.anyone, nofun, Moves.keep .anyone _⟩, ?_, ?_, [.called thread call], rfl, by simp,
      by simp⟩
    · intro hnone hexplicit
      exact (StopCause.not_set rfl hnone hexplicit nofun).elim
    · intro hnone hfatal
      exact (StopCause.not_set rfl hnone hfatal nofun).elim
  refine ⟨hcause.recorded.step hinv.causeless hrecords, ?_, hcause.roles, ?_⟩
  · intro other hdue
    rw [phases_setThread] at hdue
    by_cases heq : other = thread
    · subst heq
      rw [Function.update_self, entry_phase] at hdue
      cases hdue
    · rw [Function.update_of_ne heq] at hdue
      exact hcause.due other hdue
  · intro other joins hpc
    by_cases heq : other = thread
    · subst heq
      rw [show (service.setThread _ other call.entry).threads other = call.entry from
        Function.update_self _ _ _] at hpc
      cases call with
      | requestStop => exact ⟨other, Or.inl List.mem_cons_self⟩
      | join => exact ⟨other, Or.inr List.mem_cons_self⟩
      | init | start | wait | failService | replaceBlockedDomains => cases hpc
    · rw [show (service.setThread _ thread call.entry).threads other = service.threads other from
        Function.update_of_ne heq _ _] at hpc
      exact (hcause.call other joins hpc).mono (List.subset_cons_self _ _)

/-- A step beside the threads keeps the causes. -/
theorem CauseInv.beside (hcause : CauseInv service) (hinv : Inv service.shared service.phases)
    (hbeside : Beside service.shared next.shared) (hthreads : next.threads = service.threads) :
    CauseInv next := by
  obtain ⟨events, hlog, hevents⟩ := hbeside.log
  have hkept := cause_ne_step hinv.causeless hbeside.moves
  have hrecords : Records service.shared next.shared := by
    refine ⟨⟨.anyone, nofun, hbeside.moves⟩, ?_, hbeside.fatal, events, hlog, ?_, ?_⟩
    · intro hnone hexplicit
      exact absurd hexplicit (hbeside.explicit hnone)
    · intro hmem
      obtain ⟨_, h⟩ | ⟨⟨_, h⟩, _⟩ := hevents _ hmem <;> cases h
    · rintro ⟨part, hmem⟩
      obtain ⟨_, h⟩ | ⟨_, role, hstopping⟩ := hevents _ hmem
      · cases h
      · exact hcause.roles role hstopping
  refine ⟨hcause.recorded.step hinv.causeless hrecords, ?_, ?_, ?_⟩
  · intro thread hdue
    rw [phases, hthreads] at hdue
    exact hkept (hcause.due thread hdue)
  · intro role hstopping
    obtain hset | hbefore := hbeside.due role hstopping
    · exact hset
    · exact hkept (hcause.roles role hbefore)
  · intro thread joins hpc
    rw [hthreads] at hpc
    exact (hcause.call thread joins hpc).mono hrecords.subset

theorem causeInv_step (hcause : CauseInv service) (hinv : Inv service.shared service.phases)
    (hcareful : service.entersActive label = false) (hstep : service.step label = some next) :
    CauseInv next := by
  obtain ⟨thread, call, _, hidle, rfl⟩ | ⟨thread, choice, shared, pc, rfl, hthread, rfl⟩ |
    ⟨hbeside, hthreads⟩ := step_cases hstep
  · exact hcause.called hinv hidle
  · exact hcause.act hinv hcareful (hinv.advances hthread)
  · exact hcause.beside hinv hbeside hthreads

/-! ## The result -/

/-- The service is torn down only with a cause. -/
structure CauseBeforeTeardown (service : DNS) : Prop where
  cause : service.shared.lifecycle.state = .stopping ∨ service.shared.lifecycle.state = .stopped ∨
    service.shared.lifecycle.state = .failed → service.shared.lifecycle.stopCause ≠ .none
  stopped : service.shared.lifecycle.state = .stopped →
    service.shared.lifecycle.stopCause = .explicit
  failed : service.shared.lifecycle.state = .failed →
    service.shared.lifecycle.stopCause = .startupFailure ∨
      service.shared.lifecycle.stopCause = .fatal
  runtime : ∀ after part before, service.shared.log = after ++ .runtimeStop part :: before →
    Event.activated ∈ before → StopRequested before

theorem CauseInv.causeBeforeTeardown (hcause : CauseInv service) : CauseBeforeTeardown service where
  cause hstate := by
    apply hcause.recorded.caused
    rw [Lifecycle.verdict_state]
    obtain h | h | h := hstate <;> rw [h] <;> decide
  stopped := hcause.recorded.final.1
  failed hstate := by
    have hset : service.shared.lifecycle.stopCause ≠ .none := by
      apply hcause.recorded.caused
      rw [Lifecycle.verdict_state, hstate]
      decide
    have hother : service.shared.lifecycle.stopCause ≠ .explicit := hcause.recorded.final.2 hstate
    cases hcase : service.shared.lifecycle.stopCause with
    | none => exact absurd hcase hset
    | explicit => exact absurd hcase hother
    | startupFailure => exact Or.inl rfl
    | fatal => exact Or.inr rfl
  runtime _ _ _ hlog hactivated := hcause.recorded.justified.split hlog hactivated

/-- In every run in which no `finish_teardown` finds the service active, the service
is torn down only with a cause. -/
theorem teardown_has_cause {labels : List Label}
    (hrun : Transition.run step {} labels = some service)
    (hcareful : Transition.Along step (fun reached label => reached.entersActive label = false) {}
      labels) : CauseBeforeTeardown service := by
  have hall := Transition.run_invariant_along
    (fun reached => Inv reached.shared reached.phases ∧ CauseInv reached)
    (fun reached label => reached.entersActive label = false)
    (fun reached label next h hcareful hstep =>
      ⟨inv_step h.1 hstep, causeInv_step h.2 h.1 hcareful hstep⟩)
    ⟨inv_new, causeInv_new⟩ hrun hcareful
  exact hall.2.causeBeforeTeardown

/-- The steps of a thread that has come to `startup_mutex_` and takes an active
service down. -/
def tearsDown (thread : ThreadId) : List Label :=
  acts 5 thread ++ [.role .supervisor (.exit (.supervisor {})), .role .supervisor .account] ++
    acts 11 thread

/-- A service that is started and stopped, by one thread, with `join`. -/
def startThenJoin : List Label :=
  .call 1 (.init { runtimeUpdatesEnabled := false }) :: acts 2 1 ++ .call 1 .start :: acts 11 1 ++
    .call 1 .join :: acts 2 1 ++ tearsDown 1

theorem teardown_has_cause_join :
    ∃ service, Transition.run step {} startThenJoin = some service ∧
      service.shared.lifecycle.state = .stopped ∧ CauseBeforeTeardown service := by
  have hstate : (Transition.run step {} startThenJoin).map
      (fun service => service.shared.lifecycle.state) = some .stopped := by decide +kernel
  obtain ⟨service, hrun, hstopped⟩ := Option.map_eq_some_iff.mp hstate
  have hcareful : Transition.Along step (fun reached label => reached.entersActive label = false) {}
      startThenJoin := Transition.along_of_check (by decide +kernel)
  exact ⟨service, hrun, hstopped, teardown_has_cause hrun hcareful⟩

/-- Thread 2 initializes the service.  Thread 1 calls `wait`, sees `Initialized` and
gives `lifecycle_mutex_` up.  Thread 2 starts the service, which becomes active.
Now thread 1 gets `startup_mutex_` and takes the service down. -/
def waitRacesStart : List Label :=
  .call 2 (.init { runtimeUpdatesEnabled := false }) :: acts 2 2 ++ .call 1 .wait :: acts 1 1 ++
    .call 2 .start :: acts 11 2 ++ tearsDown 1

/-- Nobody has stopped the service, and yet `wait` ends it as `Failed` with the cause
`None`. -/
theorem wait_tears_down_active :
    ∃ service, Transition.run step {} waitRacesStart = some service ∧
      service.shared.lifecycle.state = .failed ∧ service.shared.lifecycle.stopCause = .none ∧
      Event.exitReturned 1 { code := .notStarted } ∈ service.shared.log ∧
      ¬ StopRequested service.shared.log ∧ ¬ CauseBeforeTeardown service := by
  have hrun : (Transition.run step {} waitRacesStart).map (fun service =>
      (service.shared.lifecycle.state, service.shared.lifecycle.stopCause, service.shared.log)) =
      some (.failed, .none,
        [.exitReturned 1 { code := .notStarted },
          .runtimeStop .released,
          .runtimeStop .workersJoined,
          .runtimeStop (.joined .supervisor),
          .runtimeStop .requested,
          .startReturned 2 (.ok { startupAttemptId := 1 }),
          .activated,
          .called 2 .start,
          .called 1 .wait,
          .initReturned 2 true,
          .called 2 (.init { runtimeUpdatesEnabled := false })]) := by decide +kernel
  obtain ⟨service, hrun, hend⟩ := Option.map_eq_some_iff.mp hrun
  obtain ⟨hstate, hrest⟩ := Prod.mk.inj hend
  obtain ⟨hcause, hlog⟩ := Prod.mk.inj hrest
  refine ⟨service, hrun, hstate, hcause, ?_, ?_, ?_⟩
  · rw [hlog]
    exact List.mem_cons_self
  · rw [hlog]
    simp [StopRequested, StopCalled]
  · intro hclaimed
    exact hclaimed.cause (Or.inr (Or.inr hstate)) hcause

end DNS

end DnsPro.Service
