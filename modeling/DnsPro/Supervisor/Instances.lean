import DnsPro.Supervisor.Moves

/-!
# One live instance for a record

What one record keeps over every run: its threads and its `WorkerLoop` objects
(`Hosted`), its reports (`Published`), its state (`Placed`), its registration and
the places of the control thread (`Sound`).  Each is kept by every `Move`.
-/

namespace DnsPro.Supervisor

open DnsPro.Runtime (TimePoint)
open DnsPro.Service (WorkerRunResult WorkerFailure WorkerRecoveryConfig SupervisorStartupError)

/-! ## Frames -/

namespace WorkerRecord

variable (record : WorkerRecord)

theorem reportReady_eq (instanceId : Nat) (result : WorkerReadyResult) :
    record.reportReady instanceId result = record ∨
      instanceId = record.instanceId ∧ record.ready.published = false ∧
        record.reportReady instanceId result =
          { record with ready := ⟨true, instanceId, result⟩ } := by
  unfold reportReady
  split_ifs with hstale
  · exact Or.inl rfl
  · simp only [not_or, not_not, Bool.not_eq_true] at hstale
    exact Or.inr ⟨hstale.1, hstale.2, rfl⟩

theorem reportActivated_eq (instanceId : Nat) :
    record.reportActivated instanceId = record ∨
      instanceId = record.instanceId ∧ record.activated.published = false ∧
        record.reportActivated instanceId =
          { record with activated := ⟨true, instanceId⟩ } := by
  unfold reportActivated
  split_ifs with hstale
  · exact Or.inl rfl
  · simp only [not_or, not_not, Bool.not_eq_true] at hstale
    exact Or.inr ⟨hstale.1, hstale.2, rfl⟩

theorem reportCompletion_eq (instanceId : Nat) (result : WorkerRunResult) (now : TimePoint) :
    record.reportCompletion instanceId result now = record ∨
      instanceId = record.instanceId ∧ record.completion.published = false ∧
        record.reportCompletion instanceId result now =
          { record with completion := ⟨true, instanceId, result, now⟩ } := by
  unfold reportCompletion
  split_ifs with hstale
  · exact Or.inl rfl
  · simp only [not_or, not_not, Bool.not_eq_true] at hstale
    exact Or.inr ⟨hstale.1, hstale.2, rfl⟩

theorem keepResult_eq (failure : WorkerFailure) :
    ∃ lastResult, record.keepResult failure = { record with lastResult := lastResult } := by
  unfold keepResult
  split_ifs
  · exact ⟨_, rfl⟩
  · exact ⟨_, rfl⟩

theorem openEpisode_eq (config : WorkerRecoveryConfig) (released : Bool) :
    ∃ episode attempts backoff, record.openEpisode config released = { record with
      recoveryEpisode := episode
      recoveryAttempts := attempts
      nextBackoff := backoff } := by
  unfold openEpisode
  dsimp only
  split_ifs <;> exact ⟨_, _, _, rfl⟩

theorem beginJoin_eq :
    record.beginJoin = record ∨ record.beginJoin = { record with state := .stopping } := by
  unfold beginJoin
  split_ifs
  · exact Or.inr rfl
  · exact Or.inl rfl

end WorkerRecord

namespace View

theorem counted_eq (worker : Nat) (view : View) :
    view.counted worker = view ∨
      view.counted worker = (view.put view.record.countAttempt).note (.restarted worker) := by
  unfold counted
  split_ifs
  · exact Or.inr rfl
  · exact Or.inl rfl

/-- Counting an attempt touches the attempts alone. -/
theorem counted_kept (worker : Nat) (view : View) :
    (view.counted worker).record.instanceId = view.record.instanceId ∧
      (view.counted worker).record.state = view.record.state ∧
      (view.counted worker).place = view.place ∧ (view.counted worker).epoch = view.epoch := by
  obtain heq | heq := view.counted_eq worker <;> rw [heq] <;> exact ⟨rfl, rfl, rfl, rfl⟩

theorem noteFailure_eq (worker : Nat) (before view : View) :
    ∃ history, before.noteFailure worker view = { view with history := history } := by
  unfold noteFailure
  dsimp only
  split_ifs <;> exact ⟨_, rfl⟩

theorem beginFailure_eq (config : WorkerRecoveryConfig) (worker : Nat) (view : View) :
    ∃ state episode attempts backoff history, (state = .exited ∨ state = .stopping) ∧
      view.noteFailure worker (view.put (view.record.beginFailure config view.released)) =
        { view.put { view.record with
            state := state
            recoveryEpisode := episode
            recoveryAttempts := attempts
            nextBackoff := backoff } with history := history } := by
  obtain ⟨history, hhistory⟩ := view.noteFailure_eq worker
    (view.put (view.record.beginFailure config view.released))
  obtain ⟨episode, attempts, backoff, hopen⟩ := view.record.openEpisode_eq config view.released
  refine ⟨if view.record.completion.published then .exited else .stopping, episode, attempts,
    backoff, history, ?_, ?_⟩
  · cases view.record.completion.published with
    | true => exact Or.inl rfl
    | false => exact Or.inr rfl
  · rw [hhistory, WorkerRecord.beginFailure, hopen]

end View

variable {config : WorkerRecoveryConfig} {worker : Nat} {stopped : Bool} {view view' : View}

/-! ## Threads and loops -/

/-- A record has at most one thread, which runs its one `WorkerLoop` and reports for
its current instance. -/
structure Hosted (slot : Slot) : Prop where
  threads : slot.record.currentThread = true →
    slot.threads.map (·.instanceId) = [slot.record.instanceId]
  unthreaded : slot.record.currentThread = false → slot.threads = []
  hosted : slot.record.currentThread = true → slot.record.currentInstance.isSome = true
  loop : ∀ loop, slot.record.currentInstance = some loop →
    loop.instanceId = slot.record.instanceId
  observer : slot.record.currentThread = true → slot.record.observer = slot.record.instanceId

/-- The published slots of a record carry its instance. -/
structure Published (record : WorkerRecord) : Prop where
  ready : record.ready.published = true → record.ready.instanceId = record.instanceId
  activated : record.activated.published = true → record.activated.instanceId = record.instanceId
  completion : record.completion.published = true →
    record.completion.instanceId = record.instanceId

namespace WorkerRecordState

/-- Between two instances. -/
def idle : WorkerRecordState → Bool
  | .offline | .backoff => true
  | _ => false

/-- With an instance that may run. -/
def live : WorkerRecordState → Bool
  | .starting | .ready | .running => true
  | _ => false

end WorkerRecordState

/-- The state of a record agrees with its instance. -/
structure Placed (record : WorkerRecord) : Prop where
  live : record.state.live = true → record.currentInstance.isSome = true
  idle : record.state.idle = true → record.currentInstance = none

/-! ## The places of the control thread -/

/-- What a record is like while the control thread stands at a point of it. -/
def Point.Stands (view : View) : Point → Prop
  | .create _ _ .admission | .decide _ => view.record.state.idle = true
  | .create _ _ .register => view.record.state = .creating ∧
      view.record.currentInstance = none ∧ view.registered = false
  | .create _ _ .build => view.record.state = .creating ∧
      view.record.currentInstance = none ∧ view.registered = true
  | .create _ _ (.store loop) => view.record.state = .creating ∧
      view.record.currentInstance = none ∧ view.registered = true ∧
      loop.instanceId = view.record.instanceId
  | .start _ _ | .createHealth none =>
      view.record.state = .starting ∧ view.record.currentThread = false
  | .readiness => view.record.state = .starting ∨ view.record.state = .ready
  | .activationExits | .activationMarks =>
      view.record.state = .ready ∨ view.record.state = .running
  | .readyPoint => view.record.state = .starting
  | .activatedPoint => view.record.state = .ready
  | .join _ .record => view.record.currentThread = false
  | .join _ .reset => view.record.state = .joined ∧ view.record.currentThread = false
  | .join _ .quiesce => view.record.state = .joined ∧ view.record.currentInstance = none
  | .join _ .offline => view.record.state = .joined ∧ view.record.currentInstance = none ∧
      view.registered = false
  | _ => True

def Place.Stands (view : View) : Place → Prop
  | .fresh => view.record.state = .offline ∧ view.record.instanceId = 0
  | .created => view.record.state = .starting ∧ view.record.currentThread = false
  | .starting => view.record.state = .starting ∨ view.record.state = .ready
  | .activating => view.record.state = .ready ∨ view.record.state = .running
  | .away | .closing => True
  | .here point => point.Stands view

/-- The loops that exist for a record: its own, or the one that is about to be. -/
def View.loops (view : View) : List WorkerLoop :=
  match view.place with
  | .here (.create _ _ (.store loop)) => [loop]
  | _ => view.record.currentInstance.toList

/-- The registration of a record follows its instances. -/
structure Registered (view : View) : Prop where
  current : view.registered = true → view.epoch.publishedInstanceId = view.record.instanceId
  quiesced : view.registered = false →
    view.epoch.publishedInstanceId ≤ view.epoch.quiescedThroughInstanceId
  bounded : view.epoch.publishedInstanceId ≤ view.record.instanceId
  hosts : view.record.currentInstance.isSome = true → view.registered = true
  vacant : view.record.state.idle = true → view.registered = false

/-- What the view of a worker keeps. -/
structure View.Sound (view : View) : Prop where
  hosted : Hosted view.slot
  published : Published view.record
  placed : Placed view.record
  stands : view.place.Stands view
  loops : view.slot.loops = view.loops
  registered : Registered view

/-! ## Moves keep it -/

theorem Move.hosted (h : Move config worker stopped view view') (hsound : view.Sound) :
    Hosted view'.slot := by
  have hstands := hsound.stands
  obtain ⟨hthreads, hunthreaded, hinstance, hloop, hobserver⟩ := hsound.hosted
  cases h with
  | still | requestStop | allowActivation | release | gate | observe | goes | register | build
  | markReady | exited | markRunning | ready | activate | stable | stopping | joinFailed
  | recordJoin | quiesce | offline =>
    exact ⟨hthreads, hunthreaded, hinstance, hloop, hobserver⟩
  | reportReady instanceId result =>
    obtain heq | ⟨-, -, heq⟩ := view.record.reportReady_eq instanceId result <;> rw [heq] <;>
      exact ⟨hthreads, hunthreaded, hinstance, hloop, hobserver⟩
  | reportActivated instanceId =>
    obtain heq | ⟨-, -, heq⟩ := view.record.reportActivated_eq instanceId <;> rw [heq] <;>
      exact ⟨hthreads, hunthreaded, hinstance, hloop, hobserver⟩
  | reportCompletion instanceId result now threads hmap =>
    have hnone : view.slot.threads = [] → threads = [] := by
      intro hnil
      rw [hnil] at hmap
      exact List.map_eq_nil_iff.mp hmap
    obtain heq | ⟨-, -, heq⟩ := view.record.reportCompletion_eq instanceId result now <;> rw [heq]
    · exact ⟨fun hthread => hmap.trans (hthreads hthread),
        fun hthread => hnone (hunthreaded hthread), hinstance, hloop, hobserver⟩
    · exact ⟨fun hthread => hmap.trans (hthreads hthread),
        fun hthread => hnone (hunthreaded hthread), hinstance, hloop, hobserver⟩
  | refused hplace =>
    obtain heq | heq := view.counted_eq worker <;> rw [heq] <;>
      exact ⟨hthreads, hunthreaded, hinstance, hloop, hobserver⟩
  | admission hplace hstop hnone hthread =>
    have hvacant : ∀ {p : Prop}, view.slot.record.currentThread = true → p := by
      intro p hno
      rw [View.record, hno] at hthread
      cases hthread
    have hempty : ∀ {p : WorkerLoop → Prop} loop,
        view.slot.record.currentInstance = some loop → p loop := by
      intro p loop hsome
      rw [View.record, hsome] at hnone
      cases hnone
    obtain heq | heq := view.counted_eq worker <;> rw [heq] <;>
      exact ⟨hvacant, fun _ => hunthreaded hthread, hvacant, hempty, hvacant⟩
  | store hplace =>
    rw [hplace] at hstands
    obtain ⟨-, -, -, hid⟩ := hstands
    refine ⟨hthreads, hunthreaded, fun _ => rfl, fun loop heq => ?_, hobserver⟩
    obtain rfl := Option.some.inj heq
    exact hid
  | threadFailed hplace => exact ⟨hthreads, hunthreaded, hinstance, hloop, fun _ => rfl⟩
  | thread hplace =>
    rw [hplace] at hstands
    obtain ⟨hstate, hthread⟩ := hstands
    have hone : ((⟨view.record.instanceId, false⟩ : WorkerThread) :: view.slot.threads).map
        (·.instanceId) = [view.record.instanceId] := by
      rw [hunthreaded hthread]
      rfl
    exact ⟨fun _ => hone, fun hno => (by cases hno),
      fun _ => hsound.placed.live (by rw [hstate]; rfl), hloop, fun _ => rfl⟩
  | beginFailure hplace =>
    obtain ⟨state, episode, attempts, backoff, history, -, heq⟩ :=
      view.beginFailure_eq config worker
    rw [heq]
    exact ⟨hthreads, hunthreaded, hinstance, hloop, hobserver⟩
  | @decided failure _ hplace =>
    obtain ⟨lastResult, heq⟩ := view.record.keepResult_eq failure
    rw [heq]
    exact ⟨hthreads, hunthreaded, hinstance, hloop, hobserver⟩
  | @schedule failure hplace =>
    obtain ⟨lastResult, heq⟩ := view.record.keepResult_eq failure
    rw [heq]
    exact ⟨hthreads, hunthreaded, hinstance, hloop, hobserver⟩
  | joinRequest hplace =>
    obtain heq | heq := WorkerRecord.beginJoin_eq { view.record with instanceStop := true } <;>
      rw [heq] <;> exact ⟨hthreads, hunthreaded, hinstance, hloop, hobserver⟩
  | joined hplace =>
    exact ⟨fun hno => (by cases hno), fun _ => rfl, fun hno => (by cases hno), hloop,
      fun hno => (by cases hno)⟩
  | reset hplace =>
    rw [hplace] at hstands
    have hvacant : ∀ {p : Prop}, view.slot.record.currentThread = true → p := by
      intro p hno
      exact absurd (hstands.2.symm.trans hno) Bool.false_ne_true
    exact ⟨hvacant, hunthreaded, hvacant, fun _ hno => (by cases hno), hobserver⟩

theorem Move.published (h : Move config worker stopped view view') (hsound : view.Sound) :
    Published view'.record := by
  obtain ⟨hready, hactivated, hcompletion⟩ := hsound.published
  cases h with
  | still | requestStop | allowActivation | release | gate | observe | goes | register | build
  | store | threadFailed | thread | markReady | exited | markRunning | ready | activate | stable
  | stopping | joinFailed | joined | recordJoin | reset | quiesce | offline =>
    exact ⟨hready, hactivated, hcompletion⟩
  | reportReady instanceId result =>
    obtain heq | ⟨hid, -, heq⟩ := view.record.reportReady_eq instanceId result
    · rw [heq]
      exact ⟨hready, hactivated, hcompletion⟩
    · rw [heq]
      exact ⟨fun _ => hid, hactivated, hcompletion⟩
  | reportActivated instanceId =>
    obtain heq | ⟨hid, -, heq⟩ := view.record.reportActivated_eq instanceId
    · rw [heq]
      exact ⟨hready, hactivated, hcompletion⟩
    · rw [heq]
      exact ⟨hready, fun _ => hid, hcompletion⟩
  | reportCompletion instanceId result now threads hmap =>
    obtain heq | ⟨hid, -, heq⟩ := view.record.reportCompletion_eq instanceId result now
    · rw [heq]
      exact ⟨hready, hactivated, hcompletion⟩
    · rw [heq]
      exact ⟨hready, hactivated, fun _ => hid⟩
  | refused hplace =>
    obtain heq | heq := view.counted_eq worker <;> rw [heq] <;>
      exact ⟨hready, hactivated, hcompletion⟩
  | admission hplace =>
    exact ⟨fun hno => (by cases hno), fun hno => (by cases hno), fun hno => (by cases hno)⟩
  | beginFailure hplace =>
    obtain ⟨state, episode, attempts, backoff, history, -, heq⟩ :=
      view.beginFailure_eq config worker
    rw [heq]
    exact ⟨hready, hactivated, hcompletion⟩
  | @decided failure _ hplace =>
    obtain ⟨lastResult, heq⟩ := view.record.keepResult_eq failure
    rw [heq]
    exact ⟨hready, hactivated, hcompletion⟩
  | @schedule failure hplace =>
    obtain ⟨lastResult, heq⟩ := view.record.keepResult_eq failure
    rw [heq]
    exact ⟨hready, hactivated, hcompletion⟩
  | joinRequest hplace =>
    obtain heq | heq := WorkerRecord.beginJoin_eq { view.record with instanceStop := true } <;>
      rw [heq] <;> exact ⟨hready, hactivated, hcompletion⟩

theorem Move.placed (h : Move config worker stopped view view') (hsound : view.Sound) :
    Placed view'.record := by
  have hstands := hsound.stands
  obtain ⟨hlive, hidle⟩ := hsound.placed
  cases h with
  | still | requestStop | allowActivation | release | gate | observe | goes | register | build
  | threadFailed | thread | stable | stopping | joinFailed | joined | quiesce =>
    exact ⟨hlive, hidle⟩
  | reportReady instanceId result =>
    obtain heq | ⟨-, -, heq⟩ := view.record.reportReady_eq instanceId result <;> rw [heq] <;>
      exact ⟨hlive, hidle⟩
  | reportActivated instanceId =>
    obtain heq | ⟨-, -, heq⟩ := view.record.reportActivated_eq instanceId <;> rw [heq] <;>
      exact ⟨hlive, hidle⟩
  | reportCompletion instanceId result now threads hmap =>
    obtain heq | ⟨-, -, heq⟩ := view.record.reportCompletion_eq instanceId result now <;>
      rw [heq] <;> exact ⟨hlive, hidle⟩
  | refused hplace =>
    obtain heq | heq := view.counted_eq worker <;> rw [heq] <;> exact ⟨hlive, hidle⟩
  | admission hplace => exact ⟨fun hno => (by cases hno), fun hno => (by cases hno)⟩
  | store hplace => exact ⟨fun _ => rfl, fun hno => (by cases hno)⟩
  | markReady hplace =>
    rw [hplace] at hstands
    refine ⟨fun _ => hlive ?_, fun hno => (by cases hno)⟩
    obtain hstate | hstate := hstands <;> rw [hstate] <;> rfl
  | markRunning hplace =>
    rw [hplace] at hstands
    refine ⟨fun _ => hlive ?_, fun hno => (by cases hno)⟩
    obtain hstate | hstate := hstands <;> rw [hstate] <;> rfl
  | ready hplace =>
    rw [hplace] at hstands
    exact ⟨fun _ => hlive (by rw [show view.record.state = .starting from hstands]; rfl),
      fun hno => (by cases hno)⟩
  | activate hplace =>
    rw [hplace] at hstands
    exact ⟨fun _ => hlive (by rw [show view.record.state = .ready from hstands]; rfl),
      fun hno => (by cases hno)⟩
  | exited hplace => exact ⟨fun hno => (by cases hno), fun hno => (by cases hno)⟩
  | beginFailure hplace =>
    obtain ⟨state, episode, attempts, backoff, history, hstate, heq⟩ :=
      view.beginFailure_eq config worker
    rw [heq]
    obtain rfl | rfl := hstate <;>
      exact ⟨fun hno => (by cases hno), fun hno => (by cases hno)⟩
  | @decided failure _ hplace =>
    obtain ⟨lastResult, heq⟩ := view.record.keepResult_eq failure
    rw [heq]
    exact ⟨hlive, hidle⟩
  | @schedule failure hplace =>
    rw [hplace] at hstands
    obtain ⟨lastResult, heq⟩ := view.record.keepResult_eq failure
    rw [heq]
    exact ⟨fun hno => (by cases hno), fun _ => hidle hstands⟩
  | joinRequest hplace =>
    obtain heq | heq := WorkerRecord.beginJoin_eq { view.record with instanceStop := true } <;>
      rw [heq]
    · exact ⟨hlive, hidle⟩
    · exact ⟨fun hno => (by cases hno), fun hno => (by cases hno)⟩
  | recordJoin hplace => exact ⟨fun hno => (by cases hno), fun hno => (by cases hno)⟩
  | reset hplace =>
    rw [hplace] at hstands
    have hnotLive : view.record.state.live = false := by
      rw [show view.record.state = .joined from hstands.1]
      rfl
    exact ⟨fun hno => absurd (hnotLive.symm.trans hno) Bool.false_ne_true, fun _ => rfl⟩
  | offline hplace =>
    rw [hplace] at hstands
    exact ⟨fun hno => (by cases hno), fun _ => hstands.2.1⟩

theorem Goes.stands {place place' : Place} (h : Goes view place place')
    (hstands : place.Stands view) : place'.Stands (view.goto place') := by
  cases h with
  | giveUp | leave | monitor | failure | checkActivated | checkStable | running | createFailed
  | failedHealth | joinFailure | report | join => trivial
  | create port => exact congrArg WorkerRecordState.idle hstands.1
  | start | readiness | starting | exits | marks | createdHealth | spawning => exact hstands
  | activating hpoint => obtain rfl | rfl := hpoint <;> exact hstands
  | allReady hstate => exact Or.inl hstate
  | ready hfailure hstate hreported => exact hstate
  | activated hstate hactivated => exact hstate
  | due port hstate hdue => exact congrArg WorkerRecordState.idle hstate
  | noThread hthread => exact hthread

theorem Move.stands (h : Move config worker stopped view view') (hsound : view.Sound) :
    view'.place.Stands view' := by
  have hstands := hsound.stands
  cases h with
  | still | requestStop | allowActivation | release | gate | observe => exact hstands
  | goes hgoes => exact hgoes.stands hstands
  | reportReady instanceId result =>
    obtain heq | ⟨-, -, heq⟩ := view.record.reportReady_eq instanceId result <;> rw [heq] <;>
      exact hstands
  | reportActivated instanceId =>
    obtain heq | ⟨-, -, heq⟩ := view.record.reportActivated_eq instanceId <;> rw [heq] <;>
      exact hstands
  | reportCompletion instanceId result now threads hmap =>
    obtain heq | ⟨-, -, heq⟩ := view.record.reportCompletion_eq instanceId result now <;>
      rw [heq] <;> exact hstands
  | refused hplace hstop hnext => obtain rfl | ⟨error, rfl⟩ := hnext <;> trivial
  | admission hplace hstop hnone hthread =>
    rw [hplace] at hstands
    have hvacant := hsound.registered.vacant hstands
    obtain heq | heq := view.counted_eq worker <;> rw [heq] <;> exact ⟨rfl, hnone, hvacant⟩
  | register hplace =>
    rw [hplace] at hstands
    exact ⟨hstands.1, hstands.2.1, rfl⟩
  | build boundPort hplace =>
    rw [hplace] at hstands
    exact ⟨hstands.1, hstands.2.1, hstands.2.2, rfl⟩
  | store hplace hnext =>
    rw [hplace] at hstands
    have hthread : view.record.currentThread = false := by
      refine Bool.eq_false_of_not_eq_true fun hthread => ?_
      have hsome := hsound.hosted.hosted hthread
      rw [show view.slot.record.currentInstance = none from hstands.2.1] at hsome
      cases hsome
    obtain ⟨-, rfl | rfl⟩ | ⟨-, rfl⟩ := hnext <;> exact ⟨rfl, hthread⟩
  | threadFailed hplace hnext => obtain rfl | ⟨error, rfl⟩ := hnext <;> trivial
  | thread hplace hnext =>
    rw [hplace] at hstands
    obtain ⟨-, rfl⟩ | ⟨-, rfl⟩ := hnext
    · exact Or.inl hstands.1
    · trivial
  | markReady hplace => exact Or.inr rfl
  | exited hplace => trivial
  | markRunning hplace => exact Or.inr rfl
  | ready hplace => trivial
  | activate hplace => trivial
  | stable hplace => trivial
  | beginFailure hplace => trivial
  | decided hplace hnext => obtain rfl | ⟨rfl, -⟩ | ⟨rfl, -⟩ := hnext <;> trivial
  | schedule hplace => trivial
  | stopping hplace hnext => obtain rfl | ⟨caller, rfl, -⟩ := hnext <;> trivial
  | joinFailed stop hplace hnext => obtain rfl | ⟨failure, -, rfl⟩ := hnext <;> trivial
  | joinRequest hplace => trivial
  | joined hplace => exact rfl
  | recordJoin hplace =>
    rw [hplace] at hstands
    exact ⟨rfl, hstands⟩
  | reset hplace =>
    rw [hplace] at hstands
    exact ⟨hstands.1, rfl⟩
  | quiesce hplace hquiesced =>
    rw [hplace] at hstands
    refine ⟨hstands.1, hstands.2, ?_⟩
    -- a registered record is registered for its own instance
    obtain ⟨-, -, hgone, -⟩ | ⟨hother, hsame, -⟩ := hquiesced
    · exact hgone
    · rw [show (_ : Bool) = view.registered from hsame]
      exact Bool.eq_false_of_not_eq_true fun hregistered =>
        hother ⟨hregistered, hsound.registered.current hregistered⟩
  | offline hplace hnext => obtain rfl | ⟨failure, -, rfl⟩ := hnext <;> trivial

theorem View.loops_eq (hplace : view.place.storing = false) :
    view.loops = view.record.currentInstance.toList := by
  unfold View.loops
  cases heq : view.place with
  | here point =>
    cases point with
    | create caller port point =>
      cases point with
      | store loop =>
        rw [heq] at hplace
        cases hplace
      | _ => rfl
    | _ => rfl
  | _ => rfl

theorem Goes.loops {place place' : Place} (h : Goes view place place') :
    (view.goto place').loops = (view.goto place).loops := by
  cases h with
  | giveUp hplace | leave hplace => exact (@View.loops_eq (view.goto place) hplace).symm
  | createFailed error hpoint => obtain rfl | rfl | rfl := hpoint <;> rfl
  | activating hpoint => obtain rfl | rfl := hpoint <;> rfl
  | _ => rfl

/-- A move that leaves the loops alone. -/
theorem View.Sound.keep_loops (hsound : view.Sound) (hplace : view.place.storing = false)
    (hplace' : view'.place.storing = false) (hloops : view'.slot.loops = view.slot.loops)
    (hinstance : view'.record.currentInstance = view.record.currentInstance) :
    view'.slot.loops = view'.loops := by
  rw [hloops, hsound.loops, View.loops_eq hplace, View.loops_eq hplace', hinstance]

theorem Move.loops (h : Move config worker stopped view view') (hsound : view.Sound) :
    view'.slot.loops = view'.loops := by
  have hloops := hsound.loops
  have hstands := hsound.stands
  cases h with
  | still | requestStop | allowActivation | release | gate | observe => exact hloops
  | goes hgoes => exact hloops.trans hgoes.loops.symm
  | reportReady instanceId result =>
    obtain heq | ⟨-, -, heq⟩ := view.record.reportReady_eq instanceId result <;> rw [heq] <;>
      exact hloops
  | reportActivated instanceId =>
    obtain heq | ⟨-, -, heq⟩ := view.record.reportActivated_eq instanceId <;> rw [heq] <;>
      exact hloops
  | reportCompletion instanceId result now threads hmap =>
    obtain heq | ⟨-, -, heq⟩ := view.record.reportCompletion_eq instanceId result now <;>
      rw [heq] <;> exact hloops
  | refused hplace hstop hnext =>
    have hstoring : view.place.storing = false := by rw [hplace]; rfl
    obtain rfl | ⟨error, rfl⟩ := hnext <;> obtain heq | heq := view.counted_eq worker <;>
      rw [heq] <;> exact hsound.keep_loops hstoring rfl rfl rfl
  | admission hplace hstop hnone hthread =>
    have hstoring : view.place.storing = false := by rw [hplace]; rfl
    obtain heq | heq := view.counted_eq worker <;> rw [heq] <;>
      exact hsound.keep_loops hstoring rfl rfl rfl
  | build boundPort hplace =>
    have hnone : view.slot.loops = [] := by
      rw [hplace] at hstands
      rw [hloops, View.loops_eq (by rw [hplace]; rfl),
        show view.record.currentInstance = none from hstands.2.1]
      rfl
    exact congrArg (_ :: ·) hnone
  | @store _ _ loop _ hplace hnext =>
    have hone : view.slot.loops = [loop] := by
      rw [hloops, View.loops, hplace]
    obtain ⟨-, rfl | rfl⟩ | ⟨-, rfl⟩ := hnext <;> exact hone
  | register hplace | activate hplace | stable hplace | markReady hplace | markRunning hplace
  | ready hplace | joined hplace | recordJoin hplace | quiesce hplace =>
    exact hsound.keep_loops (by rw [hplace]; rfl) rfl rfl rfl
  | threadFailed hplace hnext =>
    obtain rfl | ⟨error, rfl⟩ := hnext <;>
      exact hsound.keep_loops (by rw [hplace]; rfl) rfl rfl rfl
  | thread hplace hnext =>
    obtain ⟨-, rfl⟩ | ⟨-, rfl⟩ := hnext <;>
      exact hsound.keep_loops (by rw [hplace]; rfl) rfl rfl rfl
  | exited hplace hpoint hcompleted =>
    have hstoring : view.place.storing = false := by
      obtain rfl | rfl := hpoint <;> rw [hplace] <;> rfl
    exact hsound.keep_loops hstoring rfl rfl rfl
  | beginFailure hplace =>
    obtain ⟨state, episode, attempts, backoff, history, -, heq⟩ :=
      view.beginFailure_eq config worker
    rw [heq]
    exact hsound.keep_loops (by rw [hplace]; rfl) rfl rfl rfl
  | @decided failure _ hplace hnext =>
    obtain ⟨lastResult, heq⟩ := view.record.keepResult_eq failure
    rw [heq]
    obtain rfl | ⟨rfl, -⟩ | ⟨rfl, -⟩ := hnext <;>
      exact hsound.keep_loops (by rw [hplace]; rfl) rfl rfl rfl
  | @schedule failure hplace =>
    obtain ⟨lastResult, heq⟩ := view.record.keepResult_eq failure
    rw [heq]
    exact hsound.keep_loops (by rw [hplace]; rfl) rfl rfl rfl
  | stopping hplace hnext =>
    obtain rfl | ⟨caller, rfl, -⟩ := hnext <;>
      exact hsound.keep_loops (by rw [hplace]; rfl) rfl rfl rfl
  | joinFailed stop hplace hnext =>
    obtain rfl | ⟨failure, -, rfl⟩ := hnext <;>
      exact hsound.keep_loops (by rw [hplace]; rfl) rfl rfl rfl
  | joinRequest hplace =>
    obtain heq | heq := WorkerRecord.beginJoin_eq { view.record with instanceStop := true } <;>
      rw [heq] <;> exact hsound.keep_loops (by rw [hplace]; rfl) rfl rfl rfl
  | reset hplace =>
    rw [View.loops_eq (by rw [hplace]; rfl)] at hloops
    have hnone : view.record.currentInstance.elim view.slot.loops view.slot.loops.erase = [] := by
      rw [hloops]
      cases view.record.currentInstance with
      | none => rfl
      | some loop => exact List.erase_cons_head ..
    exact hnone
  | offline hplace hnext =>
    obtain rfl | ⟨failure, -, rfl⟩ := hnext <;>
      exact hsound.keep_loops (by rw [hplace]; rfl) rfl rfl rfl

theorem Move.registered (h : Move config worker stopped view view') (hsound : view.Sound) :
    Registered view' := by
  have hstands := hsound.stands
  obtain ⟨hcurrent, hquiesced, hbounded, hhosts, hvacant⟩ := hsound.registered
  cases h with
  | still | requestStop | allowActivation | release | gate | goes | build | threadFailed | thread
  | stable | stopping | joinFailed | joined =>
    exact ⟨hcurrent, hquiesced, hbounded, hhosts, hvacant⟩
  | reportReady instanceId result =>
    obtain heq | ⟨-, -, heq⟩ := view.record.reportReady_eq instanceId result <;> rw [heq] <;>
      exact ⟨hcurrent, hquiesced, hbounded, hhosts, hvacant⟩
  | reportActivated instanceId =>
    obtain heq | ⟨-, -, heq⟩ := view.record.reportActivated_eq instanceId <;> rw [heq] <;>
      exact ⟨hcurrent, hquiesced, hbounded, hhosts, hvacant⟩
  | reportCompletion instanceId result now threads hmap =>
    obtain heq | ⟨-, -, heq⟩ := view.record.reportCompletion_eq instanceId result now <;>
      rw [heq] <;> exact ⟨hcurrent, hquiesced, hbounded, hhosts, hvacant⟩
  | observe hpublished hthrough =>
    refine ⟨fun h => hpublished.trans (hcurrent h), fun h => ?_, ?_, hhosts, hvacant⟩
    · dsimp only
      rw [hpublished, hthrough]
      exact hquiesced h
    · dsimp only
      rw [hpublished]
      exact hbounded
  | refused hplace hstop hnext =>
    obtain heq | heq := view.counted_eq worker <;> rw [heq] <;>
      exact ⟨hcurrent, hquiesced, hbounded, hhosts, hvacant⟩
  | admission hplace hstop hnone hthread =>
    rw [hplace] at hstands
    have hgone := hvacant hstands
    have hempty : ∀ {p : Prop}, view.record.currentInstance.isSome = true → p := by
      intro p hno
      rw [hnone] at hno
      cases hno
    have hstale : ∀ {p : Prop}, view.registered = true → p := fun hno =>
      absurd (hgone.symm.trans hno) Bool.false_ne_true
    obtain heq | heq := view.counted_eq worker <;> rw [heq] <;>
      exact ⟨hstale, hquiesced, hbounded.trans (Nat.le_succ _), hempty, fun hno => (by cases hno)⟩
  | register hplace =>
    rw [hplace] at hstands
    have hnotIdle : view.record.state.idle = false := by
      rw [show view.record.state = .creating from hstands.1]
      rfl
    exact ⟨fun _ => rfl, fun hno => (by cases hno), le_rfl, fun _ => rfl,
      fun hno => absurd (hnotIdle.symm.trans hno) Bool.false_ne_true⟩
  | store hplace hnext =>
    rw [hplace] at hstands
    exact ⟨hcurrent, hquiesced, hbounded, fun _ => hstands.2.2.1, fun hno => (by cases hno)⟩
  | markReady hplace hreported houtcome hpublished hthrough
  | ready hplace hstop hcompletion hpublished hthrough =>
    refine ⟨fun h => hpublished.trans (hcurrent h), fun h => ?_, ?_, hhosts,
      fun hno => (by cases hno)⟩
    · dsimp only [View.goto]
      rw [hpublished, hthrough]
      exact hquiesced h
    · dsimp only [View.goto]
      rw [hpublished]
      exact hbounded
  | activate | exited | markRunning | recordJoin =>
    exact ⟨hcurrent, hquiesced, hbounded, hhosts, fun hno => (by cases hno)⟩
  | beginFailure hplace =>
    obtain ⟨state, episode, attempts, backoff, history, hstate, heq⟩ :=
      view.beginFailure_eq config worker
    rw [heq]
    obtain rfl | rfl := hstate <;>
      exact ⟨hcurrent, hquiesced, hbounded, hhosts, fun hno => (by cases hno)⟩
  | @decided failure _ hplace hnext =>
    obtain ⟨lastResult, heq⟩ := view.record.keepResult_eq failure
    rw [heq]
    exact ⟨hcurrent, hquiesced, hbounded, hhosts, hvacant⟩
  | @schedule failure hplace =>
    rw [hplace] at hstands
    obtain ⟨lastResult, heq⟩ := view.record.keepResult_eq failure
    rw [heq]
    exact ⟨hcurrent, hquiesced, hbounded, hhosts, fun _ => hvacant hstands⟩
  | joinRequest hplace =>
    obtain heq | heq := WorkerRecord.beginJoin_eq { view.record with instanceStop := true } <;>
      rw [heq]
    · exact ⟨hcurrent, hquiesced, hbounded, hhosts, hvacant⟩
    · exact ⟨hcurrent, hquiesced, hbounded, hhosts, fun hno => (by cases hno)⟩
  | reset hplace =>
    exact ⟨hcurrent, hquiesced, hbounded, fun hno => (by cases hno), hvacant⟩
  | quiesce hplace hthrough =>
    rw [hplace] at hstands
    obtain ⟨-, hpublished, rfl, rfl⟩ | ⟨-, rfl, rfl⟩ := hthrough
    · have hempty : view.record.currentInstance.isSome = false := by
        rw [hstands.2]
        rfl
      exact ⟨fun hno => (by cases hno), fun _ => hpublished.le, hbounded,
        fun hno => absurd (hempty.symm.trans hno) Bool.false_ne_true, fun _ => rfl⟩
    · exact ⟨hcurrent, hquiesced, hbounded, hhosts, hvacant⟩
  | offline hplace hnext =>
    rw [hplace] at hstands
    exact ⟨hcurrent, hquiesced, hbounded, hhosts, fun _ => hstands.2.2⟩

theorem Move.sound (h : Move config worker stopped view view') (hsound : view.Sound) :
    view'.Sound :=
  ⟨h.hosted hsound, h.published hsound, h.placed hsound, h.stands hsound, h.loops hsound,
    h.registered hsound⟩

/-! ## The events of a record -/

/-- The instance of the worker that an event creates. -/
def Event.created? (worker : Nat) : Event → Option Nat
  | .instanceCreated other instanceId => if other = worker then some instanceId else none
  | _ => none

theorem mem_created {history : List Event} {instanceId : Nat} :
    instanceId ∈ history.filterMap (Event.created? worker) ↔
      .instanceCreated worker instanceId ∈ history := by
  rw [List.mem_filterMap]
  constructor
  · rintro ⟨event, hmem, hcreated⟩
    cases event with
    | instanceCreated other id =>
      simp only [Event.created?] at hcreated
      split_ifs at hcreated with heq
      obtain rfl := Option.some.inj hcreated
      exact heq ▸ hmem
    | _ => cases hcreated
  · exact fun hmem => ⟨_, hmem, by simp [Event.created?]⟩

/-- The event asks nothing of the record. -/
def Event.quiet : Event → Bool
  | .instanceCreated .. | .registered .. | .joinFailed .. => false
  | _ => true

/-- What the events of a worker say: instance ids increase, a former instance was
quiesced, an id is registered before the epoch carries a later one, and after a
failed join the run winds down. -/
structure Told (worker : Nat) (view : View) : Prop where
  created : ∀ instanceId, .instanceCreated worker instanceId ∈ view.history →
    instanceId ≤ view.record.instanceId
  ordered : (view.history.filterMap (Event.created? worker)).Pairwise (· > ·)
  quiesced : ∀ instanceId, 0 < instanceId → instanceId < view.record.instanceId →
    .quiesced worker instanceId ∈ view.history
  last : view.record.state.idle = true → 0 < view.record.instanceId →
    .quiesced worker view.record.instanceId ∈ view.history
  offline : ∀ caller, view.place = .here (.join caller .offline) →
    .quiesced worker view.record.instanceId ∈ view.history
  registered : ∀ instanceId, .registered worker instanceId ∈ view.history →
    instanceId ≤ view.epoch.publishedInstanceId
  failed : ∀ instanceId, .joinFailed worker instanceId ∈ view.history →
    view.place.windingDown = true

namespace Told

/-- A change that none of the events is about. -/
theorem keep (h : Told worker view) (hhistory : view'.history = view.history)
    (hid : view'.record.instanceId = view.record.instanceId)
    (hpublished : view'.epoch.publishedInstanceId = view.epoch.publishedInstanceId)
    (hdown : view.place.windingDown = true → view'.place.windingDown = true)
    (hidle : view'.record.state.idle = true → view.record.state.idle = true)
    (hoffline : ∀ caller, view'.place = .here (.join caller .offline) →
      view.place = .here (.join caller .offline)) : Told worker view' where
  created instanceId hmem := by
    rw [hid]
    exact h.created instanceId (hhistory ▸ hmem)
  ordered := by
    rw [hhistory]
    exact h.ordered
  quiesced instanceId hpos hlt := by
    rw [hhistory]
    exact h.quiesced instanceId hpos (hid ▸ hlt)
  last hstate hpos := by
    rw [hhistory, hid]
    exact h.last (hidle hstate) (hid ▸ hpos)
  offline caller hplace := by
    rw [hhistory, hid]
    exact h.offline caller (hoffline caller hplace)
  registered instanceId hmem := by
    rw [hpublished]
    exact h.registered instanceId (hhistory ▸ hmem)
  failed instanceId hmem := hdown (h.failed instanceId (hhistory ▸ hmem))

/-- An event about something else. -/
theorem note (h : Told worker view) {event : Event} (hquiet : event.quiet = true) :
    Told worker (view.note event) := by
  have hother : ∀ event' : Event, event'.quiet = false → event' ∈ (view.note event).history →
      event' ∈ view.history := by
    intro event' hloud hmem
    obtain rfl | hmem := List.mem_cons.mp hmem
    · exact absurd (hloud.symm.trans hquiet) Bool.false_ne_true
    · exact hmem
  refine ⟨fun id hmem => h.created id (hother _ rfl hmem), ?_,
    fun id hpos hlt => List.mem_cons_of_mem _ (h.quiesced id hpos hlt),
    fun hidle hpos => List.mem_cons_of_mem _ (h.last hidle hpos),
    fun caller hplace => List.mem_cons_of_mem _ (h.offline caller hplace),
    fun id hmem => h.registered id (hother _ rfl hmem),
    fun id hmem => h.failed id (hother _ rfl hmem)⟩
  have hnone : event.created? worker = none := by
    cases event with
    | instanceCreated worker instanceId => cases hquiet
    | _ => rfl
  simp only [View.note, List.filterMap_cons, hnone]
  exact h.ordered

end Told

theorem Goes.windingDown {place place' : Place} (h : Goes view place place')
    (hdown : place.windingDown = true) : place'.windingDown = true := by
  cases h with
  | giveUp hplace => rfl
  | leave hplace hnot => exact absurd (hnot.symm.trans hdown) Bool.false_ne_true
  | activating hpoint => obtain rfl | rfl := hpoint <;> cases hdown
  | @noThread caller hthread => cases caller <;> first | rfl | cases hdown
  | report failure reports => rfl
  | join hcaller => exact hcaller
  | _ => cases hdown

theorem Goes.not_offline {place place' : Place} (h : Goes view place place') (caller : JoinCaller) :
    place' ≠ .here (.join caller .offline) := by
  cases h <;> exact fun hno => by cases hno

/-- A new place, where nothing winds down yet. -/
theorem Told.goto (h : Told worker view) {place : Place}
    (hdown : view.place.windingDown = true → place.windingDown = true)
    (hoffline : ∀ caller, place ≠ .here (.join caller .offline)) :
    Told worker (view.goto place) :=
  h.keep rfl rfl rfl hdown id fun caller heq => absurd heq (hoffline caller)

/-- The attempt that an admission counts. -/
theorem Told.count (h : Told worker view) : Told worker (view.counted worker) := by
  obtain heq | heq := view.counted_eq worker <;> rw [heq]
  · exact h
  · have hput : Told worker (view.put view.record.countAttempt) :=
      h.keep rfl rfl rfl id id fun _ heq => heq
    exact hput.note rfl

/-- The events of a failure. -/
theorem Told.noteFailure (h : Told worker view) (before : View) :
    Told worker (before.noteFailure worker view) := by
  unfold View.noteFailure
  dsimp only
  split_ifs
  · exact (h.note rfl).note rfl
  · exact h.note rfl
  · exact h.note rfl
  · exact h

theorem join_windingDown (caller : JoinCaller) (point point' : JoinPoint) :
    (Place.here (.join caller point)).windingDown = true ↔
      (Place.here (.join caller point')).windingDown = true := by
  cases caller <;> exact Iff.rfl

theorem Move.told (h : Move config worker stopped view view') (hsound : view.Sound)
    (htold : Told worker view) : Told worker view' := by
  have hstands := hsound.stands
  cases h with
  | still | requestStop | allowActivation | release =>
    exact htold.keep rfl rfl rfl id id fun _ heq => heq
  | observe hpublished hquiesced => exact htold.keep rfl rfl hpublished id id fun _ heq => heq
  | reportReady instanceId result =>
    obtain heq | ⟨-, -, heq⟩ := view.record.reportReady_eq instanceId result <;> rw [heq] <;>
      exact htold.keep rfl rfl rfl id id fun _ heq => heq
  | reportActivated instanceId =>
    obtain heq | ⟨-, -, heq⟩ := view.record.reportActivated_eq instanceId <;> rw [heq] <;>
      exact htold.keep rfl rfl rfl id id fun _ heq => heq
  | reportCompletion instanceId result now threads hmap =>
    obtain heq | ⟨-, -, heq⟩ := view.record.reportCompletion_eq instanceId result now <;>
      rw [heq] <;> exact htold.keep rfl rfl rfl id id fun _ heq => heq
  | gate instanceId gate action => exact htold.note rfl
  | goes hgoes => exact htold.goto hgoes.windingDown hgoes.not_offline
  | refused hplace hstop hnext =>
    have hup : (view.counted worker).place.windingDown = false := by
      rw [(view.counted_kept worker).2.2.1, hplace]
      rfl
    refine htold.count.goto (fun hno => absurd (hup.symm.trans hno) Bool.false_ne_true) ?_
    obtain rfl | ⟨error, rfl⟩ := hnext <;> exact fun _ hno => (by cases hno)
  | admission hplace hstop hnone hthread =>
    rw [hplace] at hstands
    have hcount := htold.count
    obtain ⟨hid, hstate, hsame, hepoch⟩ := view.counted_kept worker
    refine ⟨fun instanceId hmem => ?_, ?_, fun instanceId hpos hlt => ?_,
      fun hno => (by cases hno), fun caller hno => (by cases hno), fun instanceId hmem => ?_,
      fun instanceId hmem => ?_⟩
    · -- created
      obtain heq | hmem := List.mem_cons.mp hmem
      · obtain ⟨-, rfl⟩ := Event.instanceCreated.inj heq
        exact (congrArg (· + 1) hid).ge
      · exact (hcount.created instanceId hmem).trans (Nat.le_succ _)
    · -- ordered
      simp only [View.note, View.goto, View.put, List.filterMap_cons, Event.created?, if_true]
      refine List.pairwise_cons.mpr ⟨fun instanceId hmem => ?_, hcount.ordered⟩
      have hle := hcount.created instanceId (mem_created.mp hmem)
      rw [hid] at hle
      exact Nat.lt_succ_of_le hle
    · -- quiesced
      refine List.mem_cons_of_mem _ ?_
      obtain hlt | heq := Nat.lt_succ_iff_lt_or_eq.mp hlt
      · exact hcount.quiesced instanceId hpos hlt
      · rw [heq]
        exact hcount.last (by rw [hstate]; exact hstands) (heq ▸ hpos)
    · -- registered
      refine hcount.registered instanceId ?_
      exact (List.mem_cons.mp hmem).resolve_left fun hno => by cases hno
    · -- failed
      have hdown := hcount.failed instanceId
        ((List.mem_cons.mp hmem).resolve_left fun hno => by cases hno)
      rw [hsame, hplace] at hdown
      cases hdown
  | register hplace =>
    refine ⟨fun instanceId hmem => htold.created instanceId
        ((List.mem_cons.mp hmem).resolve_left fun hno => by cases hno), htold.ordered,
      fun instanceId hpos hlt => List.mem_cons_of_mem _ (htold.quiesced instanceId hpos hlt),
      fun hidle hpos => List.mem_cons_of_mem _ (htold.last hidle hpos),
      fun caller hno => (by cases hno), fun instanceId hmem => ?_, fun instanceId hmem => ?_⟩
    · obtain heq | hmem := List.mem_cons.mp hmem
      · obtain ⟨-, rfl⟩ := Event.registered.inj heq
        exact le_rfl
      · exact (htold.registered instanceId hmem).trans hsound.registered.bounded
    · have hdown := htold.failed instanceId
        ((List.mem_cons.mp hmem).resolve_left fun hno => by cases hno)
      rw [hplace] at hdown
      cases hdown
  | build boundPort hplace =>
    exact htold.keep rfl rfl rfl (by rw [hplace]; exact id) id fun _ hno => (by cases hno)
  | store hplace hnext =>
    obtain ⟨-, rfl | rfl⟩ | ⟨-, rfl⟩ := hnext <;>
      exact htold.keep rfl rfl rfl (by rw [hplace]; exact fun hno => (by cases hno))
        (fun hno => (by cases hno)) fun _ hno => (by cases hno)
  | threadFailed hplace hnext =>
    obtain rfl | ⟨error, rfl⟩ := hnext <;>
      exact htold.keep rfl rfl rfl (by rw [hplace]; exact fun hno => (by cases hno)) id
        fun _ hno => (by cases hno)
  | thread hplace hnext =>
    obtain ⟨-, rfl⟩ | ⟨-, rfl⟩ := hnext <;>
      exact htold.keep rfl rfl rfl (by rw [hplace]; exact fun hno => (by cases hno)) id
        fun _ hno => (by cases hno)
  | markReady hplace hreported houtcome hpublished hquiesced
  | ready hplace hstop hcompletion hpublished hquiesced =>
    exact htold.keep rfl rfl hpublished (by rw [hplace]; exact fun hno => (by cases hno))
      (fun hno => (by cases hno)) fun _ hno => (by cases hno)
  | exited hplace hpoint hcompleted =>
    exact htold.keep rfl rfl rfl (fun _ => rfl) (fun hno => (by cases hno))
      fun _ hno => (by cases hno)
  | markRunning hplace =>
    exact htold.keep rfl rfl rfl (by rw [hplace]; exact fun hno => (by cases hno))
      (fun hno => (by cases hno)) fun _ hno => (by cases hno)
  | activate hplace hstop hcompletion =>
    have hput : Told worker (view.put (view.record.activate config view.clock)) :=
      htold.keep rfl rfl rfl id (fun hno => (by cases hno)) fun _ heq => heq
    have hup : view.place.windingDown = false := by rw [hplace]; rfl
    exact (hput.note rfl).goto (fun hno => absurd (hup.symm.trans hno) Bool.false_ne_true)
      fun _ hno => (by cases hno)
  | stable hplace hcompletion hstable =>
    have hput : Told worker (view.put (view.record.closeEpisode config)) :=
      htold.keep rfl rfl rfl id id fun _ heq => heq
    have hup : view.place.windingDown = false := by rw [hplace]; rfl
    exact (hput.note rfl).goto (fun hno => absurd (hup.symm.trans hno) Bool.false_ne_true)
      fun _ hno => (by cases hno)
  | beginFailure hplace =>
    obtain ⟨episode, attempts, backoff, hopen⟩ := view.record.openEpisode_eq config view.released
    have hput : Told worker (view.put (view.record.beginFailure config view.released)) := by
      rw [WorkerRecord.beginFailure, hopen]
      refine htold.keep rfl rfl rfl id (fun hno => ?_) fun _ heq => heq
      have hnotIdle : ∀ published : Bool, (if published then WorkerRecordState.exited else
          WorkerRecordState.stopping).idle = false := by
        decide
      exact absurd ((hnotIdle view.record.completion.published).symm.trans hno) Bool.false_ne_true
    have hup : view.place.windingDown = false := by rw [hplace]; rfl
    have hplace' : (view.noteFailure worker
        (view.put (view.record.beginFailure config view.released))).place = view.place := by
      obtain ⟨history, heq⟩ := view.noteFailure_eq worker
        (view.put (view.record.beginFailure config view.released))
      rw [heq]
      rfl
    refine (hput.noteFailure view).goto (fun hno => ?_) fun _ hno => (by cases hno)
    rw [hplace'] at hno
    exact absurd (hup.symm.trans hno) Bool.false_ne_true
  | @decided failure place hplace hnext =>
    obtain ⟨lastResult, heq⟩ := view.record.keepResult_eq failure
    rw [heq]
    obtain rfl | ⟨rfl, -⟩ | ⟨rfl, -⟩ := hnext <;>
      exact htold.keep rfl rfl rfl (fun _ => rfl) id fun _ hno => (by cases hno)
  | @schedule failure hplace =>
    rw [hplace] at hstands
    obtain ⟨lastResult, heq⟩ := view.record.keepResult_eq failure
    rw [heq]
    have hput : Told worker (view.put (WorkerRecord.schedule
        { view.record with lastResult := lastResult } config view.clock)) :=
      htold.keep rfl rfl rfl id (fun _ => hstands) fun _ heq => heq
    have hup : view.place.windingDown = false := by rw [hplace]; rfl
    exact (hput.note rfl).goto (fun hno => absurd (hup.symm.trans hno) Bool.false_ne_true)
      fun _ hno => (by cases hno)
  | stopping hplace hnext =>
    obtain rfl | ⟨caller, rfl, hdown⟩ := hnext
    · exact htold.keep rfl rfl rfl (fun _ => rfl) id fun _ hno => (by cases hno)
    · exact htold.keep rfl rfl rfl (fun _ => hdown) id fun _ hno => (by cases hno)
  | @joinFailed caller _ place stop hplace hnext =>
    have hdown : place.windingDown = true := by
      obtain rfl | ⟨failure, -, rfl⟩ := hnext <;> rfl
    refine ⟨fun instanceId hmem => htold.created instanceId
        ((List.mem_cons.mp hmem).resolve_left fun hno => by cases hno), htold.ordered,
      fun instanceId hpos hlt => List.mem_cons_of_mem _ (htold.quiesced instanceId hpos hlt),
      fun hidle hpos => List.mem_cons_of_mem _ (htold.last hidle hpos), fun caller hno => ?_,
      fun instanceId hmem => htold.registered instanceId
        ((List.mem_cons.mp hmem).resolve_left fun hno => by cases hno), fun _ _ => hdown⟩
    obtain rfl | ⟨failure, -, rfl⟩ := hnext <;> cases hno
  | @joinRequest caller hplace =>
    have hkeep := join_windingDown caller .request .join
    obtain heq | heq := WorkerRecord.beginJoin_eq { view.record with instanceStop := true } <;>
      rw [heq]
    · exact htold.keep rfl rfl rfl (by rw [hplace]; exact hkeep.mp) id fun _ hno => (by cases hno)
    · exact htold.keep rfl rfl rfl (by rw [hplace]; exact hkeep.mp) (fun hno => (by cases hno))
        fun _ hno => (by cases hno)
  | @joined caller hplace =>
    exact htold.keep rfl rfl rfl (by rw [hplace]; exact (join_windingDown caller .join .record).mp) id
      fun _ hno => (by cases hno)
  | @recordJoin caller hplace =>
    exact htold.keep rfl rfl rfl (by rw [hplace]; exact (join_windingDown caller .record .reset).mp)
      (fun hno => (by cases hno)) fun _ hno => (by cases hno)
  | @reset caller hplace =>
    exact htold.keep rfl rfl rfl
      (by rw [hplace]; exact (join_windingDown caller .reset .quiesce).mp)
      id fun _ hno => (by cases hno)
  | @quiesce caller registered epoch hplace hquiesced =>
    have hnoted : Told worker (view.note (.quiesced worker view.record.instanceId)) :=
      htold.note rfl
    have hkeep := (join_windingDown caller .quiesce .offline).mp
    have hpublished : epoch.publishedInstanceId = view.epoch.publishedInstanceId := by
      obtain ⟨-, -, -, rfl⟩ | ⟨-, -, rfl⟩ := hquiesced <;> rfl
    refine ⟨hnoted.created, hnoted.ordered, hnoted.quiesced, hnoted.last,
      fun _ _ => List.mem_cons_self, fun instanceId hmem => ?_, fun instanceId hmem => ?_⟩
    · exact (hnoted.registered instanceId hmem).trans hpublished.ge
    · have hdown : view.place.windingDown = true := hnoted.failed instanceId hmem
      rw [hplace] at hdown
      exact hkeep hdown
  | @offline caller place hplace hnext =>
    have hlast := htold.offline caller hplace
    refine ⟨htold.created, htold.ordered, htold.quiesced, fun _ _ => hlast, fun caller' hno => ?_,
      htold.registered, fun instanceId hmem => ?_⟩
    · obtain rfl | ⟨failure, -, rfl⟩ := hnext <;> cases hno
    · have hdown := htold.failed instanceId hmem
      rw [hplace] at hdown
      obtain rfl | ⟨failure, rfl, rfl⟩ := hnext
      · rfl
      · cases hdown

end DnsPro.Supervisor
