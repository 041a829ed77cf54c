import DnsPro.Supervisor.OneInstance

/-!
# The gates of a worker

A worker passes two gates: the activation, and the data plane.  `Gated` ties the
flag of the data plane to the state of the record, to its activation and to its
registration.  `Move.opens` says when the flag turns true, and `Move.stopped` what
is left of both gates once a stop is requested.
-/

namespace DnsPro.Supervisor

open DnsPro.Runtime (TimePoint)
open DnsPro.Service (WorkerRunResult WorkerFailure WorkerRecoveryConfig)

variable {config : WorkerRecoveryConfig} {worker : Nat} {stopped : Bool} {view view' : View}

/-- An instance has run. -/
def WorkerRecordState.started : WorkerRecordState → Bool
  | .running | .stopping | .exited | .joined => true
  | _ => false

theorem WorkerRecordState.started_of_idle {state : WorkerRecordState}
    (hidle : state.idle = true) : state.started = false := by
  cases state with
  | offline | backoff => rfl
  | _ => cases hidle

/-- What the open data plane of a record says about it. -/
structure Gated (view : View) : Prop where
  running : view.record.state = .running → view.record.isActivated = true
  activated : view.place = .here .activatedPoint → view.record.isActivated = true
  started : view.record.dataPlaneAllowed = true → view.record.state.started = true
  current : view.record.dataPlaneAllowed = true →
    view.epoch.publishedInstanceId = view.record.instanceId

/-- A change that opens nothing and starts nothing. -/
theorem Gated.keep (h : Gated view)
    (hactivated : view.record.isActivated = true → view'.record.isActivated = true)
    (hallowed : view'.record.dataPlaneAllowed = true → view.record.dataPlaneAllowed = true)
    (hpublished : view'.epoch.publishedInstanceId = view.epoch.publishedInstanceId)
    (hid : view'.record.instanceId = view.record.instanceId)
    (hrunning : view'.record.state = .running → view.record.state = .running)
    (hstarted : view.record.state.started = true → view'.record.state.started = true)
    (hplace : view'.place = .here .activatedPoint → view.place = .here .activatedPoint) :
    Gated view' where
  running hstate := hactivated (h.running (hrunning hstate))
  activated hpoint := hactivated (h.activated (hplace hpoint))
  started hopen := hstarted (h.started (hallowed hopen))
  current hopen := by
    rw [hpublished, hid]
    exact h.current (hallowed hopen)

/-- A closed gate says nothing. -/
theorem Gated.closed (hclosed : view.record.dataPlaneAllowed = false)
    (hrunning : view.record.state = .running → view.record.isActivated = true)
    (hplace : view.place = .here .activatedPoint → view.record.isActivated = true) :
    Gated view where
  running := hrunning
  activated := hplace
  started hopen := absurd (hclosed.symm.trans hopen) Bool.false_ne_true
  current hopen := absurd (hclosed.symm.trans hopen) Bool.false_ne_true

theorem Gated.not_started (h : Gated view) (hstate : view.record.state.started = false) :
    view.record.dataPlaneAllowed = false :=
  Bool.eq_false_of_not_eq_true fun hopen =>
    absurd (hstate.symm.trans (h.started hopen)) Bool.false_ne_true

/-- A live instance is registered under its id. -/
theorem View.Sound.published_live (hsound : view.Sound) (hlive : view.record.state.live = true) :
    view.epoch.publishedInstanceId = view.record.instanceId :=
  hsound.registered.current (hsound.registered.hosts (hsound.placed.live hlive))

namespace WorkerRecord

theorem isActivated_report (record : WorkerRecord) (instanceId : Nat)
    (hactivated : record.isActivated = true) :
    (record.reportActivated instanceId).isActivated = true := by
  obtain heq | ⟨hid, -, heq⟩ := record.reportActivated_eq instanceId
  · rw [heq]
    exact hactivated
  · rw [heq]
    simp [isActivated, hid]

end WorkerRecord

theorem Goes.activatedPoint {place place' : Place} (h : Goes view place place')
    (hplace : place' = .here .activatedPoint) : view.record.isActivated = true := by
  cases h with
  | activated hstate hactivated => exact hactivated
  | _ => cases hplace

theorem Move.gated (h : Move config worker stopped view view') (hsound : view.Sound)
    (hgated : Gated view) : Gated view' := by
  have hstands := hsound.stands
  cases h with
  | still | requestStop | allowActivation | gate =>
    exact hgated.keep id id rfl rfl id id id
  | observe hpublished => exact hgated.keep id id hpublished rfl id id id
  | release hstop hstate =>
    have hcurrent : view.epoch.publishedInstanceId = view.record.instanceId :=
      hsound.published_live (by rw [hstate]; rfl)
    exact ⟨hgated.running, hgated.activated, fun _ => congrArg WorkerRecordState.started hstate,
      fun _ => hcurrent⟩
  | reportReady instanceId result =>
    obtain heq | ⟨-, -, heq⟩ := view.record.reportReady_eq instanceId result <;> rw [heq] <;>
      exact hgated.keep id id rfl rfl id id id
  | reportActivated instanceId =>
    have hkept := view.record.isActivated_report instanceId
    obtain heq | ⟨-, -, heq⟩ := view.record.reportActivated_eq instanceId <;> rw [heq] at hkept ⊢
    · exact hgated.keep id id rfl rfl id id id
    · exact hgated.keep hkept id rfl rfl id id id
  | reportCompletion instanceId result now threads =>
    obtain heq | ⟨-, -, heq⟩ := view.record.reportCompletion_eq instanceId result now <;>
      rw [heq] <;> exact hgated.keep id id rfl rfl id id id
  | goes hgoes =>
    exact ⟨hgated.running, fun hplace => hgoes.activatedPoint hplace, hgated.started,
      hgated.current⟩
  | refused hplace hstop hnext =>
    have hnot : ∀ place : Place,
      (place = .closing ∨ ∃ error, place = .here (.createHealth (some error))) →
        place ≠ .here .activatedPoint := by
      rintro place (rfl | ⟨error, rfl⟩) hno <;> cases hno
    have hcount : Gated (view.counted worker) := by
      obtain heq | heq := view.counted_eq worker <;> rw [heq]
      · exact hgated
      · exact hgated.keep id id rfl rfl id id id
    exact hcount.keep id id rfl rfl id id fun hno => absurd hno (hnot _ hnext)
  | admission => exact Gated.closed rfl (fun hno => by cases hno) fun hno => by cases hno
  | register hplace =>
    rw [hplace] at hstands
    have hclosed := hgated.not_started (by
      rw [show view.record.state = .creating from hstands.1]
      rfl)
    exact Gated.closed hclosed hgated.running fun hno => by cases hno
  | build => exact hgated.keep id id rfl rfl id id fun hno => by cases hno
  | store hplace hnext =>
    rw [hplace] at hstands
    have hclosed := hgated.not_started (by
      rw [show view.record.state = .creating from hstands.1]
      rfl)
    refine Gated.closed hclosed (fun hno => by cases hno) fun hno => ?_
    obtain ⟨-, rfl | rfl⟩ | ⟨-, rfl⟩ := hnext <;> cases hno
  | threadFailed hplace hnext =>
    refine hgated.keep id id rfl rfl id id fun hno => ?_
    obtain rfl | ⟨error, rfl⟩ := hnext <;> cases hno
  | thread hplace hnext =>
    refine hgated.keep id id rfl rfl id id fun hno => ?_
    obtain ⟨-, rfl⟩ | ⟨-, rfl⟩ := hnext <;> cases hno
  | markReady hplace =>
    rw [hplace] at hstands
    have hclosed :=
      hgated.not_started (by obtain hstate | hstate := hstands <;> rw [hstate] <;> rfl)
    exact Gated.closed hclosed (fun hno => by cases hno) fun hno => by cases hno
  | ready hplace =>
    rw [hplace] at hstands
    have hclosed := hgated.not_started (by
      rw [show view.record.state = .starting from hstands]
      rfl)
    exact Gated.closed hclosed (fun hno => by cases hno) fun hno => by cases hno
  | exited hplace hpoint hcompleted =>
    exact hgated.keep id id rfl rfl (fun hno => by cases hno) (fun _ => rfl) fun hno => by cases hno
  | markRunning hplace hactivated =>
    exact ⟨fun _ => hactivated, fun hno => (by cases hno), fun _ => rfl, hgated.current⟩
  | activate hplace =>
    rw [hplace] at hstands
    have hcurrent : view.epoch.publishedInstanceId = view.record.instanceId :=
      hsound.published_live (by rw [show view.record.state = .ready from hstands]; rfl)
    exact ⟨fun _ => hgated.activated hplace, fun hno => (by cases hno), fun _ => rfl,
      fun _ => hcurrent⟩
  | stable => exact hgated.keep id id rfl rfl id id fun hno => by cases hno
  | beginFailure hplace =>
    obtain ⟨state, episode, attempts, backoff, history, hstate, heq⟩ :=
      view.beginFailure_eq config worker
    rw [heq]
    obtain rfl | rfl := hstate <;>
      exact hgated.keep id id rfl rfl (fun hno => by cases hno) (fun _ => rfl)
        fun hno => by cases hno
  | @decided failure place hplace hnext =>
    obtain ⟨lastResult, heq⟩ := view.record.keepResult_eq failure
    rw [heq]
    obtain rfl | ⟨rfl, -⟩ | ⟨rfl, -⟩ := hnext <;>
      exact hgated.keep id id rfl rfl id id fun hno => by cases hno
  | @schedule failure hplace =>
    rw [hplace] at hstands
    have hclosed := hgated.not_started (WorkerRecordState.started_of_idle hstands)
    obtain ⟨lastResult, heq⟩ := view.record.keepResult_eq failure
    rw [heq]
    exact Gated.closed hclosed (fun hno => by cases hno) fun hno => by cases hno
  | stopping hplace hnext =>
    refine hgated.keep id id rfl rfl id id fun hno => ?_
    obtain rfl | ⟨caller, rfl, -⟩ := hnext <;> cases hno
  | joinFailed stop hplace hnext =>
    refine hgated.keep id id rfl rfl id id fun hno => ?_
    obtain rfl | ⟨failure, -, rfl⟩ := hnext <;> cases hno
  | joinRequest hplace =>
    obtain heq | heq := WorkerRecord.beginJoin_eq { view.record with instanceStop := true } <;>
      rw [heq]
    · exact hgated.keep id id rfl rfl id id fun hno => by cases hno
    · exact hgated.keep id id rfl rfl (fun hno => by cases hno) (fun _ => rfl)
        fun hno => by cases hno
  | joined | reset => exact hgated.keep id id rfl rfl id id fun hno => by cases hno
  | recordJoin =>
    exact hgated.keep id id rfl rfl (fun hno => by cases hno) (fun _ => rfl) fun hno => by cases hno
  | quiesce hplace hquiesced =>
    refine hgated.keep id id ?_ rfl id id fun hno => by cases hno
    obtain ⟨-, -, -, rfl⟩ | ⟨-, -, rfl⟩ := hquiesced <;> rfl
  | offline hplace hnext =>
    refine Gated.closed rfl (fun hno => by cases hno) fun hno => ?_
    obtain rfl | ⟨failure, -, rfl⟩ := hnext <;> cases hno

/-! ## When a gate opens -/

/-- A gate opens only while no stop is requested, and the data plane only for a
running instance that has reported its activation and has not completed. -/
theorem Move.opens (h : Move config worker stopped view view') (hsound : view.Sound)
    (hgated : Gated view) {gate : Gate} (hclosed : view.record.allowed gate = false)
    (hopen : view'.record.allowed gate = true) :
    stopped = false ∧ (gate = .dataPlane → view'.record.state = .running ∧
      view'.record.isActivated = true ∧ view'.record.completion.published = false) := by
  have hsame : ∀ {p : Prop}, view'.record.allowed gate = view.record.allowed gate → p :=
    fun heq => absurd (hclosed.symm.trans (heq.symm.trans hopen)) Bool.false_ne_true
  cases h with
  | allowActivation hstop =>
    refine ⟨hstop, ?_⟩
    rintro rfl
    exact hsame rfl
  | release hstop hstate hcompleted =>
    refine ⟨hstop, fun _ => ⟨hstate, hgated.running hstate, ?_⟩⟩
    refine Bool.eq_false_of_not_eq_true fun hpublished => ?_
    have hid := hsound.published.completion hpublished
    have hcompleted' : view.record.completed = true := by
      rw [WorkerRecord.completed, show view.record.completion.published = true from hpublished, hid]
      simp
    exact absurd (hcompleted.symm.trans hcompleted') Bool.false_ne_true
  | ready hplace hstop =>
    refine ⟨hstop, ?_⟩
    rintro rfl
    exact hsame rfl
  | activate hplace hstop hcompletion =>
    exact ⟨hstop, fun _ => ⟨rfl, hgated.activated hplace, hcompletion⟩⟩
  | admission | offline => cases gate <;> cases hopen
  | reportReady instanceId result =>
    obtain heq | ⟨-, -, heq⟩ := view.record.reportReady_eq instanceId result <;>
      rw [heq] at hsame <;> cases gate <;> exact hsame rfl
  | reportActivated instanceId =>
    obtain heq | ⟨-, -, heq⟩ := view.record.reportActivated_eq instanceId <;>
      rw [heq] at hsame <;> cases gate <;> exact hsame rfl
  | reportCompletion instanceId result now threads =>
    obtain heq | ⟨-, -, heq⟩ := view.record.reportCompletion_eq instanceId result now <;>
      rw [heq] at hsame <;> cases gate <;> exact hsame rfl
  | refused =>
    obtain heq | heq := view.counted_eq worker <;> rw [heq] at hsame <;> cases gate <;>
      exact hsame rfl
  | beginFailure =>
    obtain ⟨_, _, _, _, _, -, heq⟩ := view.beginFailure_eq config worker
    rw [heq] at hsame
    cases gate <;> exact hsame rfl
  | @decided failure =>
    obtain ⟨_, heq⟩ := view.record.keepResult_eq failure
    rw [heq] at hsame
    cases gate <;> exact hsame rfl
  | @schedule failure =>
    obtain ⟨_, heq⟩ := view.record.keepResult_eq failure
    rw [heq] at hsame
    cases gate <;> exact hsame rfl
  | joinRequest =>
    obtain heq | heq := WorkerRecord.beginJoin_eq { view.record with instanceStop := true } <;>
      rw [heq] at hsame <;> cases gate <;> exact hsame rfl
  | _ => cases gate <;> exact hsame rfl

/-- A worker is let through only while no stop is requested. -/
theorem Move.proceeds (h : Move config worker stopped view view') {instanceId : Nat} {gate : Gate}
    (hnoted : .gateReturned worker instanceId gate .proceed ∈ view'.history) :
    .gateReturned worker instanceId gate .proceed ∈ view.history ∨
      stopped = false ∧ instanceId = view.record.instanceId ∧ view.record.allowed gate = true := by
  have hcons : ∀ {event : Event} {history : List Event},
      .gateReturned worker instanceId gate .proceed ∈ event :: history →
      event ≠ .gateReturned worker instanceId gate .proceed →
      .gateReturned worker instanceId gate .proceed ∈ history :=
    fun hmem hne => (List.mem_cons.mp hmem).resolve_left hne.symm
  cases h with
  | gate other gate' action hproceed =>
    obtain heq | hmem := List.mem_cons.mp hnoted
    · obtain ⟨-, rfl, rfl, rfl⟩ := Event.gateReturned.inj heq
      exact Or.inr (hproceed rfl)
    · exact Or.inl hmem
  | refused =>
    refine Or.inl ?_
    obtain heq | heq := view.counted_eq worker <;> rw [heq] at hnoted
    · exact hnoted
    · exact hcons hnoted fun hno => by cases hno
  | admission =>
    refine Or.inl ?_
    have hnoted := hcons hnoted fun hno => by cases hno
    obtain heq | heq := view.counted_eq worker <;> rw [heq] at hnoted
    · exact hnoted
    · exact hcons hnoted fun hno => by cases hno
  | beginFailure =>
    refine Or.inl ?_
    simp only [View.noteFailure, View.note, View.goto] at hnoted
    split_ifs at hnoted
    · exact hcons (hcons hnoted fun hno => by cases hno) fun hno => by cases hno
    · exact hcons hnoted fun hno => by cases hno
    · exact hcons hnoted fun hno => by cases hno
    · exact hnoted
  | register | activate | stable | schedule | joinFailed | quiesce =>
    exact Or.inl (hcons hnoted fun hno => by cases hno)
  | _ => exact Or.inl hnoted

/-- The data plane is closed when the next instance is admitted, before and after. -/
theorem Move.admits_closed (h : Move config worker stopped view view') (hsound : view.Sound)
    (hgated : Gated view) (hid : view'.record.instanceId ≠ view.record.instanceId) :
    view.record.dataPlaneAllowed = false ∧ view'.record.dataPlaneAllowed = false := by
  obtain ⟨⟨caller, port, hplace⟩, -, -, -, -, hrecord⟩ := h.admits hid
  have hstands := hsound.stands
  rw [hplace] at hstands
  rw [hrecord]
  exact ⟨hgated.not_started (WorkerRecordState.started_of_idle hstands), rfl⟩

/-- It is still closed when the loop of the instance is built. -/
theorem Move.builds_closed (h : Move config worker stopped view view') (hsound : view.Sound)
    (hgated : Gated view) {loop : WorkerLoop} (hbuilt : loop ∈ view'.slot.loops)
    (hnew : loop ∉ view.slot.loops) :
    view.record.dataPlaneAllowed = false ∧ view'.record.dataPlaneAllowed = false := by
  have hstands := hsound.stands
  cases h with
  | build boundPort hplace =>
    rw [hplace] at hstands
    have hclosed := hgated.not_started (by
      rw [show view.record.state = .creating from hstands.1]
      rfl)
    exact ⟨hclosed, hclosed⟩
  | reset => exact absurd (mem_of_mem_reset hbuilt) hnew
  | refused | admission =>
    obtain heq | heq := view.counted_eq worker <;> rw [heq] at hbuilt <;> exact absurd hbuilt hnew
  | beginFailure =>
    obtain ⟨_, _, _, _, _, -, heq⟩ := view.beginFailure_eq config worker
    rw [heq] at hbuilt
    exact absurd hbuilt hnew
  | _ => exact absurd hbuilt hnew

/-! ## Every run -/

theorem Gated.at (h : Gated view) (now : TimePoint) : Gated (view.at now) :=
  h.keep id id rfl rfl id id id

namespace System

variable {config : Config} {publication : Publication.System} {system next later : System}
  {label : Label} {labels : List Label}

/-- The invariant of the records, with their gates. -/
structure GatedInv (config : Config) (system : System) : Prop where
  inv : Inv config system
  gated : ∀ worker < config.workerCount, Gated (system.view worker)

theorem GatedInv.step (h : GatedInv config system) (hstep : system.step label = some next) :
    GatedInv config next := by
  refine ⟨h.inv.step hstep, fun worker hworker => ?_⟩
  obtain ⟨now, -, hmove⟩ := h.inv.move hstep hworker
  exact hmove.gated ((h.inv.sound worker hworker).at now) ((h.gated worker hworker).at now)

theorem GatedInv.start (hunused : Unused publication) :
    GatedInv config (new config publication) :=
  ⟨Inv.start hunused, fun _ _ => Gated.closed rfl (fun hno => by cases hno) fun hno => by cases hno⟩

theorem GatedInv.run (h : GatedInv config system)
    (hrun : Transition.run System.step system labels = some later) : GatedInv config later :=
  Transition.run_invariant (GatedInv config) (fun _ _ _ h hstep => h.step hstep) h hrun

/-- When the data plane of a record opens. -/
theorem GatedInv.opens (h : GatedInv config system) (hstep : system.step label = some next)
    {worker : Nat} (hworker : worker < config.workerCount) {gate : Gate}
    (hclosed : (system.record worker).allowed gate = false)
    (hopen : (next.record worker).allowed gate = true) :
    system.shared.stopRequestedLocked = false ∧ (gate = .dataPlane →
      (next.record worker).state = .running ∧ (next.record worker).isActivated = true ∧
        (next.record worker).completion.published = false) := by
  obtain ⟨now, -, hmove⟩ := h.inv.move hstep hworker
  exact hmove.opens ((h.inv.sound worker hworker).at now) ((h.gated worker hworker).at now)
    hclosed hopen

/-- `release_data_plane` opens every gate, or changes nothing. -/
theorem releaseDataPlane_all (system : System) :
    (∃ error, system.releaseDataPlane = (.error error, system)) ∨
      system.releaseDataPlane.1 = .ok () ∧ ∀ worker < system.config.workerCount,
        (system.releaseDataPlane.2.record worker).dataPlaneAllowed = true := by
  obtain herror | ⟨hok, -, -, hviews⟩ := releaseDataPlane_cases system
  · exact Or.inl herror
  · refine Or.inr ⟨hok, fun worker hworker => ?_⟩
    exact congrArg (fun view : View => view.record.dataPlaneAllowed) (hviews worker hworker)

/-- The worker that the data plane lets through has seen the current generation. -/
theorem GatedInv.proceeds (h : GatedInv config system) {worker instanceId : Nat}
    (hworker : worker < config.workerCount) {tokenStopped : Bool}
    (hproceed : system.awaitWorkerDataPlane worker instanceId tokenStopped = some .proceed) :
    instanceId = (system.record worker).instanceId ∧
      (system.record worker).dataPlaneAllowed = true ∧
      system.shared.stopRequestedLocked = false ∧
      (system.publication.publication.epochs worker).publishedInstanceId = instanceId ∧
      system.publication.publication.currentGeneration ≤
        (system.publication.publication.epochs worker).observedGeneration := by
  obtain ⟨hid, hallowed, hstop, -, hfresh⟩ := awaitGate_proceed hproceed
  have hpublished : (system.publication.publication.epochs worker).publishedInstanceId =
      instanceId := ((h.gated worker hworker).current hallowed).trans hid.symm
  refine ⟨hid, hallowed, hstop, hpublished, ?_⟩
  rw [Publication.FilterPublicationState.workerNeedsRefresh, decide_eq_false_iff_not] at hfresh
  exact Nat.le_of_not_lt fun hlt => hfresh ⟨hpublished, hlt⟩

/-- What a stop leaves of the gates, against the state where it was first seen. -/
structure Stopped (config : Config) (system later : System) : Prop where
  inv : GatedInv config later
  stop : later.shared.stopRequestedLocked = true
  closed : ∀ worker < config.workerCount, ∀ gate,
    (later.record worker).allowed gate = true → (system.record worker).allowed gate = true
  returned : ∀ worker < config.workerCount, ∀ instanceId gate,
    .gateReturned worker instanceId gate .proceed ∈ later.log →
      .gateReturned worker instanceId gate .proceed ∈ system.log

theorem Stopped.step (h : Stopped config system later) (hstep : later.step label = some next) :
    Stopped config system next := by
  refine ⟨h.inv.step hstep, (step_kept hstep).2 h.stop, fun worker hworker gate hopen => ?_,
    fun worker hworker instanceId gate hnoted => ?_⟩
  · refine h.closed worker hworker gate (Bool.eq_true_of_not_eq_false fun hclosed => ?_)
    have hstop := (h.inv.opens hstep hworker hclosed hopen).1
    exact absurd (hstop.symm.trans h.stop) Bool.false_ne_true
  · obtain ⟨now, -, hmove⟩ := h.inv.inv.move hstep hworker
    obtain hmem | ⟨hstop, -⟩ := hmove.proceeds ((mem_history rfl).mpr hnoted)
    · exact h.returned worker hworker instanceId gate ((mem_history rfl).mp hmem)
    · exact absurd (hstop.symm.trans h.stop) Bool.false_ne_true

theorem GatedInv.after_stop (h : GatedInv config system)
    (hstop : system.shared.stopRequestedLocked = true)
    (hrun : Transition.run System.step system labels = some later) :
    Stopped config system later :=
  Transition.run_invariant (Stopped config system) (fun _ _ _ h hstep => h.step hstep)
    ⟨h, hstop, fun _ _ _ hopen => hopen, fun _ _ _ _ hmem => hmem⟩ hrun

theorem awaitGate_stopped {worker instanceId : Nat} {allowed denied tokenStopped : Bool}
    (hstop : system.shared.stopRequestedLocked = true) :
    system.awaitGate worker instanceId allowed denied tokenStopped ≠ some .proceed := by
  intro hproceed
  obtain ⟨-, -, hno, -⟩ := awaitGate_proceed hproceed
  exact absurd (hno.symm.trans hstop) Bool.false_ne_true

/-- In every run:

* the data plane of a record opens only in a step where no stop is requested, for a
  running instance that has reported its activation and has not completed;
* `release_data_plane` opens it for every record, or changes nothing;
* it is closed where the next instance is admitted, and where its loop is built;
* the data plane lets an instance through only if it is the current one, its gate is
  open, no stop is requested, and its generation is the current one;
* after a stop request, no gate opens and none lets an instance through. -/
theorem data_plane_gate (hunused : Unused publication)
    (hrun : Transition.run step (new config publication) labels = some system) :
    (∀ label next, system.step label = some next → ∀ worker < config.workerCount,
      (system.record worker).dataPlaneAllowed = false →
      (next.record worker).dataPlaneAllowed = true →
        system.shared.stopRequestedLocked = false ∧ (next.record worker).state = .running ∧
        (next.record worker).isActivated = true ∧
        (next.record worker).completion.published = false) ∧
    ((∃ error, system.releaseDataPlane = (.error error, system)) ∨
      system.releaseDataPlane.1 = .ok () ∧ ∀ worker < config.workerCount,
        (system.releaseDataPlane.2.record worker).dataPlaneAllowed = true) ∧
    (∀ label next, system.step label = some next → ∀ worker < config.workerCount,
      ((next.record worker).instanceId ≠ (system.record worker).instanceId ∨
        ∃ loop ∈ (next.slots worker).loops, loop ∉ (system.slots worker).loops) →
      (system.record worker).dataPlaneAllowed = false ∧
        (next.record worker).dataPlaneAllowed = false) ∧
    (∀ worker < config.workerCount, ∀ instanceId tokenStopped,
      system.awaitWorkerDataPlane worker instanceId tokenStopped = some .proceed →
        instanceId = (system.record worker).instanceId ∧
        (system.record worker).dataPlaneAllowed = true ∧
        system.shared.stopRequestedLocked = false ∧
        (system.publication.publication.epochs worker).publishedInstanceId = instanceId ∧
        system.publication.publication.currentGeneration ≤
          (system.publication.publication.epochs worker).observedGeneration) ∧
    (system.shared.stopRequestedLocked = true → ∀ after later,
      Transition.run step system after = some later → ∀ worker < config.workerCount,
        (∀ gate, (later.record worker).allowed gate = true →
          (system.record worker).allowed gate = true) ∧
        (∀ instanceId tokenStopped,
          later.awaitWorkerActivation worker instanceId tokenStopped ≠ some .proceed ∧
          later.awaitWorkerDataPlane worker instanceId tokenStopped ≠ some .proceed) ∧
        ∀ instanceId gate, .gateReturned worker instanceId gate .proceed ∈ later.log →
          .gateReturned worker instanceId gate .proceed ∈ system.log) := by
  have h : GatedInv config system := (GatedInv.start hunused).run hrun
  refine ⟨fun label next hstep worker hworker hclosed hopen => ?_, ?_,
    fun label next hstep worker hworker hnew => ?_,
    fun worker hworker instanceId tokenStopped hproceed => h.proceeds hworker hproceed,
    fun hstop after later hlater worker hworker => ?_⟩
  · obtain ⟨hstop, hrunning⟩ :=
      @GatedInv.opens _ _ _ _ h hstep worker hworker .dataPlane hclosed hopen
    exact ⟨hstop, hrunning rfl⟩
  · rw [← h.inv.fixed]
    exact releaseDataPlane_all system
  · obtain ⟨now, -, hmove⟩ := h.inv.move hstep hworker
    have hsound := (h.inv.sound worker hworker).at now
    have hgated := (h.gated worker hworker).at now
    obtain hid | ⟨loop, hbuilt, hfresh⟩ := hnew
    · exact hmove.admits_closed hsound hgated hid
    · exact hmove.builds_closed hsound hgated hbuilt hfresh
  · have hstopped := h.after_stop hstop hlater
    exact ⟨hstopped.closed worker hworker,
      fun _ _ => ⟨awaitGate_stopped hstopped.stop, awaitGate_stopped hstopped.stop⟩,
      hstopped.returned worker hworker⟩

/-- The worker of a service is let through after the release, and then a stop is
requested. -/
def releasedThenStopped : List Label :=
  [.run] ++ controls 8 0 ++ [.refresh 0 0, .thread 0 0 (.reportReady ⟨.ready, none⟩)] ++
    controls 6 0 ++ [.requestActivation, .thread 0 0 .reportActivated] ++ controls 8 0 ++
    [.releaseDataPlane, .thread 0 0 (.awaitDataPlane false), .requestStop,
      .thread 0 0 (.awaitDataPlane false)]

theorem data_plane_gate_stopped : ∃ system,
    Transition.run step (new oneWorker freshPublication) releasedThenStopped = some system ∧
    system.log.head? = some (.gateReturned 0 1 .dataPlane .stop) ∧
    .gateReturned 0 1 .dataPlane .proceed ∈ system.log ∧
    ∀ instanceId tokenStopped,
      system.awaitWorkerDataPlane 0 instanceId tokenStopped ≠ some .proceed := by
  refine ⟨_, rfl, by decide, by decide, fun instanceId tokenStopped => ?_⟩
  have hstopped := (@data_plane_gate oneWorker freshPublication _ releasedThenStopped
    (fun _ => ⟨rfl, rfl⟩) rfl).2.2.2.2 rfl [] _ rfl 0 (by decide)
  exact (hstopped.2.1 instanceId tokenStopped).2

end System

end DnsPro.Supervisor
