import DnsPro.Service.Invariant

/-!
# What each body does to the status

`Status` is what the monitoring of the service reads, and `Agrees` ties its health and
its admission to the state.  Each locked body sets only some of these fields, so
`Settles` says of every body but the commit what it keeps: it opens no admission,
releases no data plane and sets no port.  The commit is all or nothing (`Commits`).
-/

namespace DnsPro.Service

open DnsPro.Publication

/-- The health state for a number of available workers. -/
def DNSHealthSnapshot.expected (health : DNSHealthSnapshot) : DNSHealthState :=
  if health.availableWorkers = health.desiredWorkers then .healthy
  else if health.availableWorkers = 0 then .unavailable
  else .degraded

namespace Lifecycle

/-- What the monitoring of the service reads. -/
structure Status where
  state : DNSLifecycleState
  cause : StopCause
  admission : Bool
  config : RuntimeConfig
  health : DNSHealthSnapshot
  currentVersion : FilterVersion
  filterUpdates : Bool
  released : Bool

def status (lifecycle : Lifecycle) : Status :=
  { state := lifecycle.state
    cause := lifecycle.stopCause
    admission := lifecycle.updateAdmissionOpen
    config := lifecycle.config
    health := lifecycle.health
    currentVersion := lifecycle.currentVersion
    filterUpdates := lifecycle.filterUpdates
    released := lifecycle.dataPlaneReleased }

/-- No start has been committed. -/
def uncommitted (status : Status) : Prop :=
  status.released = false ∧ status.health.effectiveBoundPort = none

structure Agrees (status : Status) : Prop where
  outside : status.state ≠ .active →
    status.health.state = .unavailable ∧ status.health.availableWorkers = 0
  inside : status.state = .active → status.health.state = status.health.expected
  desired : status.state ≠ .empty →
    status.health.desiredWorkers = status.config.workerCount ∧ status.health.desiredWorkers ≠ 0
  admission : status.admission = true →
    status.state = .active ∧ status.config.runtimeUpdatesEnabled = true ∧ status.cause = .none
  fresh : status.state.rank ≤ 2 → uncommitted status
  empty : status.state = .empty → status.filterUpdates = false ∧
    status.currentVersion.generation ≤ initialFilterGeneration
  version : ∀ version, status.health.filterVersion = some version →
    version.generation ≤ status.currentVersion.generation

/-- The reported generation does not fall. -/
def Reports (status next : Status) : Prop :=
  ∀ version, status.health.filterVersion = some version →
    ∃ version', next.health.filterVersion = some version' ∧
      version.generation ≤ version'.generation

/-- What every body but the commit keeps. -/
structure Settles (status next : Status) : Prop where
  agrees : Agrees next
  admission : next.admission = true → status.admission = true
  uncommitted : uncommitted status → uncommitted next
  reports : Reports status next

variable {lifecycle next : Lifecycle} {status : Status}

theorem Reports.refl (status : Status) : Reports status status := fun _ h => ⟨_, h, le_rfl⟩

theorem Settles.refl (h : Agrees status) : Settles status status := ⟨h, id, id, Reports.refl status⟩

/-- A body that leaves what the monitoring reads. -/
theorem settles_of_eq (h : Agrees lifecycle.status) (heq : next.status = lifecycle.status) :
    Settles lifecycle.status next.status := by
  rw [heq]
  exact Settles.refl h

theorem Agrees.closed (h : Agrees status) (hstate : status.state ≠ .active) :
    status.admission = false := by
  by_contra hopen
  exact hstate (h.admission (Bool.eq_true_of_not_eq_false hopen)).1

/-- A body that ends in a state after `Active`, with the admission closed. -/
theorem settles_stopped {next : Status} (h : Agrees status)
    (hstate : next.state = .stopping ∨ next.state.terminal)
    (hempty : status.state ≠ .empty)
    (hunavailable : next.health.state = .unavailable ∧ next.health.availableWorkers = 0)
    (hclosed : next.admission = false) (hconfig : next.config = status.config)
    (hdesired : next.health.desiredWorkers = status.health.desiredWorkers)
    (hversion : ∀ version, next.health.filterVersion = some version →
      version.generation ≤ next.currentVersion.generation)
    (hkept : uncommitted status → uncommitted next) (hreports : Reports status next) :
    Settles status next := by
  have hrank : 4 ≤ next.state.rank := by
    obtain hstate | hstate | hstate := hstate <;> rw [hstate] <;> decide
  refine ⟨⟨fun _ => hunavailable, ?_, ?_, ?_, fun hlow => by omega, ?_, hversion⟩, ?_, hkept,
    hreports⟩
  · intro hactive
    rw [hactive] at hrank
    exact absurd hrank (by decide)
  · intro _
    rw [hdesired, hconfig]
    exact h.desired hempty
  · intro hopen
    rw [hclosed] at hopen
    cases hopen
  · intro hnext
    rw [hnext] at hrank
    exact absurd hrank (by decide)
  · intro hopen
    rw [hclosed] at hopen
    cases hopen

/-! ## Bodies -/

theorem finishInit_settles (h : Agrees lifecycle.status) (hempty : lifecycle.state = .empty)
    {config : DNSConfig} {inetPton : Bool} (hvalid : validConfig config inetPton = true)
    (ruleCount : Nat) :
    Settles lifecycle.status
      (lifecycle.finishInit config ⟨initialFilterGeneration, ruleCount⟩).status := by
  have hstate : lifecycle.status.state = .empty := hempty
  have hworkers : config.workerCount ≠ 0 := by
    simp only [validConfig, Bool.and_eq_true, bne_iff_ne] at hvalid
    exact hvalid.1.1.1
  have hclosed : lifecycle.updateAdmissionOpen = false := h.closed (by rw [hstate]; decide)
  have hreleased : lifecycle.dataPlaneReleased = false := (h.fresh (by rw [hstate]; decide)).1
  refine ⟨⟨fun _ => ⟨rfl, rfl⟩, nofun, fun _ => ⟨rfl, hworkers⟩, ?_, fun _ => ⟨hreleased, rfl⟩,
    nofun, ?_⟩, id, fun hkept => ⟨hkept.1, rfl⟩, ?_⟩
  · intro hopen
    change lifecycle.updateAdmissionOpen = true at hopen
    rw [hclosed] at hopen
    cases hopen
  · intro version hversion
    obtain rfl := Option.some.inj hversion
    exact le_rfl
  · intro version hversion
    exact ⟨_, rfl, (h.version version hversion).trans (h.empty hstate).2⟩

theorem acceptStart_settles (h : Agrees lifecycle.status)
    (haccept : lifecycle.acceptStart = some next) :
    Settles lifecycle.status next.status ∧ uncommitted next.status := by
  unfold acceptStart at haccept
  split at haccept
  · cases haccept
  · rename_i hguard
    have hstate : lifecycle.status.state = .initialized :=
      not_not.mp fun hne => hguard (Or.inl hne)
    obtain rfl := Option.some.inj haccept
    have hreleased : lifecycle.dataPlaneReleased = false :=
      (h.fresh (by rw [hstate]; decide)).1
    have hdesired := h.desired (by rw [hstate]; decide)
    refine ⟨⟨?_, nofun, fun _ => ⟨hreleased, rfl⟩, fun version hreported =>
      ⟨version, hreported, le_rfl⟩⟩, hreleased, rfl⟩
    exact
      { outside := fun _ => ⟨rfl, rfl⟩
        inside := nofun
        desired := fun _ => hdesired
        admission := nofun
        fresh := fun _ => ⟨hreleased, rfl⟩
        empty := nofun
        version := h.version }

theorem failStart_settles (h : Agrees lifecycle.status) (error : DNSStartError)
    (hstate : lifecycle.state = .starting ∨ lifecycle.state = .stopping) :
    Settles lifecycle.status (lifecycle.failStart error).status := by
  have hnext : (lifecycle.failStart error).status =
      { lifecycle.status with
        state := .stopping
        cause := (lifecycle.failStart error).stopCause
        admission := false
        health := { lifecycle.health with state := .unavailable } } := by
    unfold failStart
    by_cases hcause : lifecycle.stopCause = .none <;> obtain hstate | hstate := hstate <;>
      simp [status, hcause, hstate]
  have hempty : lifecycle.status.state ≠ .empty := by
    obtain hstate | hstate := hstate <;> simp [status, hstate]
  have houtside := h.outside (by obtain hstate | hstate := hstate <;> simp [status, hstate])
  rw [hnext]
  exact settles_stopped h (Or.inl rfl) hempty ⟨rfl, houtside.2⟩ rfl rfl rfl h.version id
    (Reports.refl lifecycle.status)

theorem requestStop_settles (h : Agrees lifecycle.status) :
    Settles lifecycle.status lifecycle.requestStop.2.status := by
  unfold requestStop
  split
  · exact Settles.refl h
  · rename_i hover
    have hempty : lifecycle.status.state ≠ .empty := fun hempty => hover (Or.inl hempty)
    split
    · exact settles_stopped h (Or.inr (Or.inl rfl)) hempty ⟨rfl, rfl⟩ rfl rfl rfl h.version id
        (Reports.refl lifecycle.status)
    · rename_i hinitialized
      refine settles_stopped h (Or.inl ?_) hempty ⟨rfl, rfl⟩ rfl rfl rfl h.version id
        (Reports.refl lifecycle.status)
      show (if lifecycle.state = .starting ∨ lifecycle.state = .active then .stopping
        else lifecycle.state) = .stopping
      cases hstate : lifecycle.state <;> simp_all

/-- The state of the service stays, which may still be `Active`. -/
theorem requestRuntimeStop_settles (h : Agrees lifecycle.status) :
    Settles lifecycle.status lifecycle.requestRuntimeStop.status where
  agrees := ⟨h.outside, h.inside, h.desired, nofun, h.fresh, h.empty, h.version⟩
  admission := nofun
  uncommitted := id
  reports := Reports.refl lifecycle.status

theorem acceptFatalLocked_settles (h : Agrees lifecycle.status) {error : DNSFatalError}
    (haccept : lifecycle.acceptFatalLocked error = some next) :
    Settles lifecycle.status next.status := by
  unfold acceptFatalLocked at haccept
  split at haccept
  · cases haccept
  · rename_i hguard
    have hactive : lifecycle.status.state = .active := not_not.mp fun hne => hguard (Or.inl hne)
    obtain rfl := Option.some.inj haccept
    exact settles_stopped h (Or.inl rfl) (by rw [hactive]; decide) ⟨rfl, rfl⟩ rfl rfl rfl h.version id
      (Reports.refl lifecycle.status)

theorem roleExited_settles (h : Agrees lifecycle.status) {exit : RoleExit} {attempt : UInt64}
    {found : RoleVerdict} (hexited : lifecycle.roleExited exit attempt = (found, next)) :
    Settles lifecycle.status next.status := by
  unfold roleExited at hexited
  split at hexited
  · obtain ⟨-, rfl⟩ := Prod.mk.inj hexited
    exact Settles.refl h
  · split at hexited
    · rename_i hstarting
      obtain ⟨-, rfl⟩ := Prod.mk.inj hexited
      have hstate : lifecycle.status.state = .starting := hstarting
      have houtside := h.outside (by rw [hstate]; decide)
      have hclosed := h.closed (by rw [hstate]; decide)
      have hempty : lifecycle.status.state ≠ .empty := by rw [hstate]; decide
      split
      · exact settles_stopped h (Or.inl rfl) hempty houtside hclosed rfl rfl h.version id
          (Reports.refl lifecycle.status)
      · exact settles_stopped h (Or.inl rfl) hempty houtside hclosed rfl rfl h.version id
          (Reports.refl lifecycle.status)
    · split at hexited
      · split at hexited
        · rename_i accepted haccepted
          obtain ⟨-, rfl⟩ := Prod.mk.inj hexited
          exact acceptFatalLocked_settles h haccepted
        · obtain ⟨-, rfl⟩ := Prod.mk.inj hexited
          exact Settles.refl h
      · obtain ⟨-, rfl⟩ := Prod.mk.inj hexited
        exact Settles.refl h

/-- A report can come too early and too late; then it only counts restarts. -/
theorem reportHealth_settles (h : Agrees lifecycle.status) (snapshot : SupervisorHealthSnapshot) :
    Settles lifecycle.status (lifecycle.reportHealth snapshot).status := by
  unfold reportHealth
  split
  · exact Settles.refl h
  · dsimp only
    split
    · exact ⟨⟨h.outside, h.inside, h.desired, h.admission, h.fresh, h.empty, h.version⟩, id, id,
        Reports.refl lifecycle.status⟩
    · rename_i hguard
      have hactive : lifecycle.status.state = .active := not_not.mp fun hne => hguard (Or.inl hne)
      exact ⟨⟨fun hne => absurd hactive hne, fun _ => rfl, h.desired, h.admission, h.fresh, h.empty,
        h.version⟩, id, id, Reports.refl lifecycle.status⟩

theorem replaceCompleted_settles (h : Agrees lifecycle.status) {version : FilterVersion}
    (hpublished : version.generation ≤ lifecycle.currentVersion.generation) :
    Settles lifecycle.status (lifecycle.replaceCompleted version).status := by
  unfold replaceCompleted
  split
  · rename_i hnewer
    refine ⟨⟨h.outside, h.inside, h.desired, h.admission, h.fresh, h.empty, ?_⟩, id, id, ?_⟩
    · intro version' hversion
      obtain rfl := Option.some.inj hversion
      exact hpublished
    · intro version' hversion
      refine ⟨version, rfl, ?_⟩
      have hreported : lifecycle.health.filterVersion = some version' := hversion
      rw [hreported] at hnewer
      exact (of_decide_eq_true hnewer).le
  · exact Settles.refl h

theorem teardownIncomplete_settles (h : Agrees lifecycle.status)
    (hclosed : lifecycle.updateAdmissionOpen = false) (hempty : lifecycle.state ≠ .empty) :
    Settles lifecycle.status lifecycle.teardownIncomplete.status :=
  settles_stopped h (Or.inl rfl) hempty ⟨rfl, rfl⟩ hclosed rfl rfl h.version id
    (Reports.refl lifecycle.status)

theorem release_settles (h : Agrees lifecycle.status)
    (hclosed : lifecycle.updateAdmissionOpen = false) (hempty : lifecycle.state ≠ .empty) :
    Settles lifecycle.status lifecycle.release.status := by
  refine settles_stopped h ?_ hempty ⟨rfl, rfl⟩ hclosed rfl rfl ?_ id ?_
  · rw [show lifecycle.release.status.state =
      if lifecycle.stopCause = .explicit then .stopped else .failed from rfl]
    split
    · exact Or.inr (Or.inl rfl)
    · exact Or.inr (Or.inr rfl)
  · intro version hversion
    change (if lifecycle.filterUpdates then some lifecycle.currentVersion
      else lifecycle.health.filterVersion) = some version at hversion
    split at hversion
    · obtain rfl := Option.some.inj hversion
      exact le_rfl
    · exact h.version version hversion
  · intro version hversion
    show ∃ version', (if lifecycle.filterUpdates then some lifecycle.currentVersion
      else lifecycle.health.filterVersion) = some version' ∧ _
    split
    · exact ⟨_, rfl, h.version version hversion⟩
    · exact ⟨version, hversion, le_rfl⟩

/-- The commit is all or nothing. -/
def Commits (lifecycle next : Lifecycle) (info : SupervisorStartupInfo)
    (result : Except DNSStartError Unit) : Prop :=
  (result = .ok () ∧ Agrees next.status ∧ Reports lifecycle.status next.status ∧
    next.state = .active ∧ next.dataPlaneReleased = true ∧
    next.health.effectiveBoundPort = some info.boundPort ∧
    next.updateAdmissionOpen = next.config.runtimeUpdatesEnabled) ∨
  (∃ error, result = .error error) ∧ next.state ≠ .active ∧ Settles lifecycle.status next.status

variable {attempt : UInt64} {info : SupervisorStartupInfo}
  {released : Except SupervisorActivationError Unit} {result : Except DNSStartError Unit}

theorem commitStartup_commits (h : Agrees lifecycle.status)
    (hstate : lifecycle.state = .starting ∨ lifecycle.state = .stopping)
    (hcommit : lifecycle.commitStartup attempt info released = (result, next)) :
    Commits lifecycle next info result := by
  unfold commitStartup at hcommit
  split at hcommit
  · rename_i hcurrent
    have hstarting : lifecycle.status.state = .starting := hcurrent.1
    have hdesired := h.desired (by rw [hstarting]; decide)
    have hreports : ∀ version, lifecycle.health.filterVersion = some version →
        ∃ version', some lifecycle.currentVersion = some version' ∧
          version.generation ≤ version'.generation :=
      fun version hversion => ⟨_, rfl, h.version version hversion⟩
    have hversion : ∀ version, some lifecycle.currentVersion = some version →
        version.generation ≤ lifecycle.currentVersion.generation := by
      intro version hversion
      rw [Option.some.inj hversion]
    cases released with
    | ok _ =>
      obtain ⟨rfl, rfl⟩ := Prod.mk.inj hcommit
      refine Or.inl ⟨rfl, ⟨?_, ?_, ?_, ?_, ?_, nofun, hversion⟩, hreports, rfl, rfl, rfl, rfl⟩
      · exact fun hne => absurd rfl hne
      · intro _
        exact (if_pos hdesired.1.symm).symm
      · exact fun _ => hdesired
      · exact fun hopen => ⟨rfl, hopen, hcurrent.2.1⟩
      · exact fun hlow => absurd hlow (show ¬ DNSLifecycleState.active.rank ≤ 2 by decide)
    | error error =>
      obtain ⟨rfl, rfl⟩ := Prod.mk.inj hcommit
      have hreleased := (h.fresh (by rw [hstarting]; decide)).1
      refine Or.inr ⟨⟨_, rfl⟩, nofun, ⟨?_, nofun, fun hkept => ⟨hkept.1, rfl⟩, hreports⟩⟩
      exact ⟨fun _ => ⟨rfl, rfl⟩, nofun, fun _ => hdesired, nofun, fun _ => ⟨hreleased, rfl⟩, nofun,
        hversion⟩
  · obtain ⟨rfl, rfl⟩ := Prod.mk.inj hcommit
    refine Or.inr ⟨⟨_, rfl⟩, ?_, Settles.refl h⟩
    obtain hstate | hstate := hstate <;> simp [hstate]

theorem commit_commits (h : Agrees lifecycle.status)
    (hstate : lifecycle.state = .starting ∨ lifecycle.state = .stopping)
    {control : ControlPlaneState}
    (hcommit : lifecycle.commit control attempt info released = (result, next)) :
    Commits lifecycle next info result := by
  have hrefused : ∀ error, (Except.error error, lifecycle) = (result, next) →
      Commits lifecycle next info result := by
    intro error herror
    obtain ⟨rfl, rfl⟩ := Prod.mk.inj herror
    refine Or.inr ⟨⟨_, rfl⟩, ?_, Settles.refl h⟩
    obtain hstate | hstate := hstate <;> simp [hstate]
  unfold commit at hcommit
  split_ifs at hcommit
  · exact commitStartup_commits h hstate hcommit
  · exact hrefused _ hcommit
  · exact hrefused _ hcommit
  · exact commitStartup_commits h hstate hcommit

end Lifecycle

end DnsPro.Service
