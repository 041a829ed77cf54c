import DnsPro.Supervisor.Gates

/-!
# The recovery of a record

`Recovers` lists what a move can do to the budget of a record, to its backoff and
to its episode; every other move is `Calm`.  `Budget` bounds the attempts and says
where a record waits for its restart, and `Paced` ties the attempts and the backoff
to the events since the episode began.
-/

namespace DnsPro.Supervisor

open DnsPro.Runtime (TimePoint)
open DnsPro.Service (WorkerRunResult WorkerFailure WorkerRecoveryConfig isValidRecoveryConfig)

variable {config : WorkerRecoveryConfig} {worker : Nat} {stopped : Bool} {view view' : View}

/-! ## The events of an episode -/

/-- The event is about the episode of its worker. -/
def Event.recovery : Event → Bool
  | .episodeBegan _ | .episodeEnded _ | .scheduled _ _ | .restarted _ => true
  | _ => false

/-- The restarts since the last episode began, in a history of one worker. -/
def restartsSince : List Event → Nat
  | [] => 0
  | .episodeBegan _ :: _ => 0
  | .restarted _ :: events => restartsSince events + 1
  | _ :: events => restartsSince events

/-- The backoffs scheduled since the last episode began. -/
def scheduledSince : List Event → Nat
  | [] => 0
  | .episodeBegan _ :: _ => 0
  | .scheduled _ _ :: events => scheduledSince events + 1
  | _ :: events => scheduledSince events

theorem since_append {new history : List Event} (hnew : ∀ event ∈ new, event.recovery = false) :
    restartsSince (new ++ history) = restartsSince history ∧
      scheduledSince (new ++ history) = scheduledSince history := by
  induction new with
  | nil => exact ⟨rfl, rfl⟩
  | cons event new ih =>
    obtain ⟨hrestarts, hscheduled⟩ := ih fun event hmem => hnew event (List.mem_cons_of_mem _ hmem)
    have hquiet := hnew event List.mem_cons_self
    cases event with
    | episodeBegan | episodeEnded | scheduled | restarted => cases hquiet
    | _ => exact ⟨hrestarts, hscheduled⟩

/-! ## What a move does to the recovery -/

/-- The record may still be restarted from its backoff. -/
def Place.waits : Place → Bool
  | .here (.createHealth (some _)) | .here (.beginFailure _) => false
  | place => !place.windingDown

/-- The fields of the recovery. -/
def WorkerRecord.budget (record : WorkerRecord) : Bool × Nat × Int × TimePoint × TimePoint :=
  (record.recoveryEpisode, record.recoveryAttempts, record.nextBackoff, record.restartAt,
    record.stableAt)

/-- The recovery is left alone. -/
structure Calm (view view' : View) : Prop where
  budget : view'.record.budget = view.record.budget
  released : view.released = true → view'.released = true
  clock : view'.clock = view.clock
  history : ∃ new, view'.history = new ++ view.history ∧ ∀ event ∈ new, event.recovery = false
  running : view'.record.state = .running → view'.record.instanceId = view.record.instanceId ∧
    (view.record.state = .running ∨ view.place.startup = true)
  waits : view'.record.state = .backoff → view'.place.waits = true →
    view.record.state = .backoff ∧ view.place.waits = true
  startup : view'.place.startup = true → view.place.startup = true
  admits : ∀ caller port, view'.place = .here (.create caller port .admission) →
    view'.record.instanceId = view.record.instanceId ∧
      (view.place = .here (.create caller port .admission) ∧
        view'.record.state = view.record.state ∨
        caller = .startup ∧ view.place = .fresh)

/-- What one move does to the recovery of the record. -/
inductive Recovers (config : WorkerRecoveryConfig) (worker : Nat) (stopped : Bool) (view : View) :
    View → Prop where
  | calm {view' : View} (h : Calm view view') : Recovers config worker stopped view view'
  | due (port : UInt16) (hplace : view.place = .here .checkStable)
      (hstate : view.record.state = .backoff) (hdue : view.record.restartAt ≤ view.clock) :
      Recovers config worker stopped view (view.goto (.here (.create .restart port .admission)))
  | counted {view' : View} {caller : Caller} {port : UInt16}
      (hplace : view.place = .here (.create caller port .admission)) (hstop : stopped = false)
      (hepisode : view.record.recoveryEpisode = true)
      (hbudget : view'.record.budget = view.record.countAttempt.budget)
      (hreleased : view'.released = view.released) (hclock : view'.clock = view.clock)
      (hhistory : ∃ new, view'.history = new ++ .restarted worker :: view.history ∧
        ∀ event ∈ new, event.recovery = false)
      (hrunning : view'.record.state ≠ .running)
      (hwaits : view'.record.state = .backoff → view'.place.waits = false)
      (hstartup : view'.place.startup = true → view.place.startup = true)
      (hadmits : ∀ caller port, view'.place ≠ .here (.create caller port .admission)) :
      Recovers config worker stopped view view'
  | activated (hplace : view.place = .here .activatedPoint) (hstop : stopped = false) :
      Recovers config worker stopped view
        (((view.put (view.record.activate config view.clock)).note
          (.becameRunning worker view.record.instanceId view.clock)).goto (.here .runningPoint))
  | stable (hplace : view.place = .here .checkStable)
      (hcompletion : view.record.completion.published = false)
      (hstable : view.record.isStable view.clock = true) :
      Recovers config worker stopped view
        (((view.put (view.record.closeEpisode config)).note (.episodeEnded worker)).goto .away)
  | failed {failure : WorkerFailure} (hplace : view.place = .here (.beginFailure failure))
      (hstop : stopped = false) :
      Recovers config worker stopped view
        ((view.noteFailure worker
          (view.put (view.record.beginFailure config view.released))).goto
          (.here (.failureHealth failure)))
  | scheduled {failure : WorkerFailure} (hplace : view.place = .here (.decide failure))
      (hstop : stopped = false)
      (hrestartable : view.record.restartable config view.released failure = true)
      (hbudget : view.record.recoveryAttempts < config.maxAttempts) :
      Recovers config worker stopped view
        (((view.put ((view.record.keepResult failure).schedule config view.clock)).note
          (.scheduled worker view.record.nextBackoff)).goto .away)

theorem windingDown_waits {place : Place} (hdown : place.windingDown = true) :
    place.waits = false := by
  unfold Place.waits
  split
  · rfl
  · rfl
  · rw [hdown]
    rfl

theorem join_waits (caller : JoinCaller) (point point' : JoinPoint) :
    (Place.here (.join caller point)).waits = true ↔
      (Place.here (.join caller point')).waits = true := by
  cases caller <;> exact Iff.rfl

theorem Goes.waits {place place' : Place} (h : Goes view place place')
    (hwaits : place'.waits = true) : place.waits = true := by
  cases h with
  | giveUp => cases hwaits
  | leave hstoring hdown hfailing =>
    unfold Place.waits
    split
    · cases hfailing
    · cases hfailing
    · rw [hdown]
      rfl
  | activating hpoint => obtain rfl | rfl := hpoint <;> rfl
  | createFailed error hpoint => obtain rfl | rfl | rfl := hpoint <;> rfl
  | @noThread caller => exact (join_waits caller _ _).mp hwaits
  | join hcaller => exact absurd ((windingDown_waits hcaller).symm.trans hwaits) Bool.false_ne_true
  | failedHealth | report => cases hwaits
  | _ => rfl

theorem Goes.startup {place place' : Place} (h : Goes view place place')
    (hstartup : place'.startup = true) : place.startup = true := by
  cases h with
  | activating hpoint => obtain rfl | rfl := hpoint <;> rfl
  | @spawning caller => cases caller <;> first | rfl | cases hstartup
  | join hcaller => cases hstartup
  | create | start | readiness | starting | allReady | exits | marks => rfl
  | _ => cases hstartup

/-- No event is noted, or one that is not about an episode. -/
theorem quiet_none (history : List Event) :
    ∃ new, history = new ++ history ∧ ∀ event ∈ new, event.recovery = false :=
  ⟨[], rfl, fun _ hno => by cases hno⟩

theorem quiet_one {event : Event} (hquiet : event.recovery = false) (history : List Event) :
    ∃ new, event :: history = new ++ history ∧ ∀ event ∈ new, event.recovery = false :=
  ⟨[event], rfl, fun _ hmem => List.mem_singleton.mp hmem ▸ hquiet⟩

/-- The control thread does not leave the record. -/
theorem Calm.stay (hplace : view'.place = view.place)
    (hstate : view'.record.state = view.record.state)
    (hid : view'.record.instanceId = view.record.instanceId)
    (hbudget : view'.record.budget = view.record.budget)
    (hreleased : view.released = true → view'.released = true) (hclock : view'.clock = view.clock)
    (hhistory : ∃ new, view'.history = new ++ view.history ∧
      ∀ event ∈ new, event.recovery = false) : Calm view view' where
  budget := hbudget
  released := hreleased
  clock := hclock
  history := hhistory
  running hrunning := ⟨hid, Or.inl (hstate ▸ hrunning)⟩
  waits hbackoff hwaits := ⟨hstate ▸ hbackoff, hplace ▸ hwaits⟩
  startup hstartup := hplace ▸ hstartup
  admits _ _ hadmission := ⟨hid, Or.inl ⟨hplace ▸ hadmission, hstate⟩⟩

/-- The control thread goes on, and not to an admission. -/
theorem Calm.go (hbudget : view'.record.budget = view.record.budget)
    (hreleased : view'.released = view.released) (hclock : view'.clock = view.clock)
    (hhistory : ∃ new, view'.history = new ++ view.history ∧
      ∀ event ∈ new, event.recovery = false)
    (hrunning : view'.record.state = .running →
      view'.record.instanceId = view.record.instanceId ∧ view.record.state = .running)
    (hwaits : view'.record.state = .backoff → view'.place.waits = true →
      view.record.state = .backoff ∧ view.place.waits = true)
    (hstartup : view'.place.startup = true → view.place.startup = true)
    (hadmits : ∀ caller port, view'.place ≠ .here (.create caller port .admission)) :
    Calm view view' where
  budget := hbudget
  released hopen := hreleased.trans hopen
  clock := hclock
  history := hhistory
  running hstate := ⟨(hrunning hstate).1, Or.inl (hrunning hstate).2⟩
  waits := hwaits
  startup := hstartup
  admits caller port hadmission := absurd hadmission (hadmits caller port)

theorem Goes.recovers {place : Place} (h : Goes view view.place place) :
    Recovers config worker stopped view (view.goto place) := by
  by_cases hadmission : ∃ caller port, place = .here (.create caller port .admission)
  · obtain ⟨caller, port, rfl⟩ := hadmission
    generalize hplace : view.place = start at h
    cases h with
    | due _ hstate hdue => exact .due port hplace hstate hdue
    | create =>
      exact .calm ⟨rfl, id, rfl, quiet_none _, fun hstate => ⟨rfl, Or.inl hstate⟩,
        fun hbackoff _ => ⟨hbackoff, by rw [hplace]; rfl⟩, fun _ => by rw [hplace]; rfl,
        fun caller port hother => ⟨rfl, Or.inr ⟨by cases hother; rfl, hplace⟩⟩⟩
  · refine .calm (.go rfl rfl rfl (quiet_none _) (fun hstate => ⟨rfl, hstate⟩)
      (fun hbackoff hwaits => ⟨hbackoff, h.waits hwaits⟩) h.startup ?_)
    exact fun caller port heq => hadmission ⟨caller, port, heq⟩

theorem Move.recovers (h : Move config worker stopped view view') (hsound : view.Sound) :
    Recovers config worker stopped view view' := by
  have hstands := hsound.stands
  have hno : ∀ {p : Prop} {q : Bool}, q = false → q = true → p :=
    fun hfalse htrue => absurd (hfalse.symm.trans htrue) Bool.false_ne_true
  cases h with
  | still | requestStop | allowActivation | observe =>
    exact .calm (.stay rfl rfl rfl rfl id rfl (quiet_none _))
  | release => exact .calm (.stay rfl rfl rfl rfl (fun _ => rfl) rfl (quiet_none _))
  | gate => exact .calm (.stay rfl rfl rfl rfl id rfl (quiet_one rfl _))
  | reportReady instanceId result =>
    obtain heq | ⟨-, -, heq⟩ := view.record.reportReady_eq instanceId result <;> rw [heq] <;>
      exact .calm (.stay rfl rfl rfl rfl id rfl (quiet_none _))
  | reportActivated instanceId =>
    obtain heq | ⟨-, -, heq⟩ := view.record.reportActivated_eq instanceId <;> rw [heq] <;>
      exact .calm (.stay rfl rfl rfl rfl id rfl (quiet_none _))
  | reportCompletion instanceId result now threads =>
    obtain heq | ⟨-, -, heq⟩ := view.record.reportCompletion_eq instanceId result now <;>
      rw [heq] <;> exact .calm (.stay rfl rfl rfl rfl id rfl (quiet_none _))
  | goes hgoes => exact hgoes.recovers
  | @refused caller port place hplace hstop hnext =>
    rw [hplace] at hstands
    have hwaits : place.waits = false := by obtain rfl | ⟨error, rfl⟩ := hnext <;> rfl
    have hstartup : place.startup = false := by obtain rfl | ⟨error, rfl⟩ := hnext <;> rfl
    have hadmits : ∀ caller port, place ≠ .here (.create caller port .admission) := by
      rintro caller port rfl
      obtain hno | ⟨error, hno⟩ := hnext <;> cases hno
    by_cases hepisode : view.record.recoveryEpisode = true
    · rw [View.counted, if_pos hepisode]
      refine .counted hplace hstop hepisode rfl rfl rfl ⟨[], rfl, fun _ hno => by cases hno⟩ ?_
        (fun _ => hwaits) (fun h => hno hstartup h) hadmits
      intro hrunning
      have hidle : view.record.state.idle = true := hstands
      rw [show view.record.state = .running from hrunning] at hidle
      cases hidle
    · rw [View.counted, if_neg hepisode]
      exact .calm (.go rfl rfl rfl (quiet_none _) (fun hstate => ⟨rfl, hstate⟩)
        (fun _ h => hno hwaits h) (fun h => hno hstartup h) hadmits)
  | @admission caller port hplace hstop =>
    have hsame : (Place.here (.create caller port .register)).startup = true →
        view.place.startup = true := by
      rw [hplace]
      cases caller <;> exact id
    by_cases hepisode : view.record.recoveryEpisode = true
    · rw [View.counted, if_pos hepisode]
      exact .counted hplace hstop hepisode rfl rfl rfl
        ⟨[.instanceCreated worker (view.record.instanceId + 1)], rfl,
          fun _ hmem => List.mem_singleton.mp hmem ▸ rfl⟩
        (fun hno => by cases hno) (fun hno => by cases hno) hsame fun _ _ hno => by cases hno
    · rw [View.counted, if_neg hepisode]
      exact .calm (.go rfl rfl rfl (quiet_one rfl _) (fun hno => by cases hno)
        (fun hno => by cases hno) hsame fun _ _ hno => by cases hno)
  | @register caller _ hplace =>
    refine .calm (.go rfl rfl rfl (quiet_one rfl _) (fun hstate => ⟨rfl, hstate⟩)
      (fun hstate _ => ⟨hstate, by rw [hplace]; rfl⟩) (fun h => ?_) fun _ _ hno => by cases hno)
    rw [hplace]
    cases caller <;> exact h
  | @build caller _ boundPort hplace =>
    refine .calm (.go rfl rfl rfl (quiet_none _) (fun hstate => ⟨rfl, hstate⟩)
      (fun hstate _ => ⟨hstate, by rw [hplace]; rfl⟩) (fun h => ?_) fun _ _ hno => by cases hno)
    rw [hplace]
    cases caller <;> exact h
  | store hplace hnext =>
    refine .calm (.go rfl rfl rfl (quiet_none _) (fun hno => by cases hno)
      (fun hno => by cases hno) (fun h => ?_) fun _ _ hno => ?_)
    · obtain ⟨rfl, -⟩ | ⟨-, rfl⟩ := hnext
      · rw [hplace]
        rfl
      · cases h
    · obtain ⟨-, rfl | rfl⟩ | ⟨-, rfl⟩ := hnext <;> cases hno
  | @threadFailed caller place hplace hnext =>
    have hwaits : place.waits = false := by obtain rfl | ⟨error, rfl⟩ := hnext <;> rfl
    have hstartup : place.startup = false := by obtain rfl | ⟨error, rfl⟩ := hnext <;> rfl
    refine .calm (.go rfl rfl rfl (quiet_none _) (fun hstate => ⟨rfl, hstate⟩)
      (fun _ h => hno hwaits h) (fun h => hno hstartup h) fun _ _ heq => ?_)
    obtain rfl | ⟨error, rfl⟩ := hnext <;> cases heq
  | thread hplace hnext =>
    refine .calm (.go rfl rfl rfl (quiet_none _) (fun hstate => ⟨rfl, hstate⟩)
      (fun hstate _ => ⟨hstate, by rw [hplace]; rfl⟩) (fun h => ?_) fun _ _ heq => ?_)
    · obtain ⟨rfl, -⟩ | ⟨-, rfl⟩ := hnext
      · rw [hplace]
        rfl
      · cases h
    · obtain ⟨-, rfl⟩ | ⟨-, rfl⟩ := hnext <;> cases heq
  | markReady hplace =>
    exact .calm (.go rfl rfl rfl (quiet_none _) (fun hno => by cases hno)
      (fun hno => by cases hno) (fun _ => by rw [hplace]; rfl) fun _ _ hno => by cases hno)
  | exited hplace =>
    exact .calm (.go rfl rfl rfl (quiet_none _) (fun hno => by cases hno)
      (fun hno => by cases hno) (fun hno => by cases hno) fun _ _ hno => by cases hno)
  | markRunning hplace =>
    exact .calm ⟨rfl, id, rfl, quiet_none _, fun _ => ⟨rfl, Or.inr (by rw [hplace]; rfl)⟩,
      fun hno => (by cases hno), fun _ => (by rw [hplace]; rfl), fun _ _ hno => (by cases hno)⟩
  | ready hplace =>
    exact .calm (.go rfl rfl rfl (quiet_none _) (fun hno => by cases hno)
      (fun hno => by cases hno) (fun hno => by cases hno) fun _ _ hno => by cases hno)
  | activate hplace hstop => exact .activated hplace hstop
  | stable hplace hcompletion hstable => exact .stable hplace hcompletion hstable
  | beginFailure hplace hstop => exact .failed hplace hstop
  | @decided failure place hplace hnext =>
    obtain ⟨lastResult, heq⟩ := view.record.keepResult_eq failure
    have hwaits : place.waits = false := by
      obtain rfl | ⟨rfl, -⟩ | ⟨rfl, -⟩ := hnext <;> rfl
    have hstartup : place.startup = false := by
      obtain rfl | ⟨rfl, -⟩ | ⟨rfl, -⟩ := hnext <;> rfl
    rw [heq]
    refine .calm (.go rfl rfl rfl (quiet_none _) (fun hstate => ⟨rfl, hstate⟩)
      (fun _ h => hno hwaits h) (fun h => hno hstartup h) fun _ _ heq => ?_)
    obtain rfl | ⟨rfl, -⟩ | ⟨rfl, -⟩ := hnext <;> cases heq
  | schedule hplace hstop hrestartable hbudget =>
    exact .scheduled hplace hstop hrestartable hbudget
  | @stopping place hplace hnext =>
    have hwaits : place.waits = false := by
      obtain rfl | ⟨caller, rfl, hdown⟩ := hnext
      · rfl
      · exact windingDown_waits hdown
    refine .calm (.go rfl rfl rfl (quiet_none _) (fun hstate => ⟨rfl, hstate⟩)
      (fun _ h => hno hwaits h) (fun h => ?_) fun _ _ heq => ?_)
    · obtain rfl | ⟨caller, rfl, -⟩ := hnext <;> cases h
    · obtain rfl | ⟨caller, rfl, -⟩ := hnext <;> cases heq
  | @joinFailed _ _ place stop hplace hnext =>
    have hwaits : place.waits = false := by
      obtain rfl | ⟨failure, -, rfl⟩ := hnext <;> rfl
    refine .calm (.go rfl rfl rfl (quiet_one rfl _) (fun hstate => ⟨rfl, hstate⟩)
      (fun _ h => hno hwaits h) (fun h => ?_) fun _ _ heq => ?_)
    · obtain rfl | ⟨failure, -, rfl⟩ := hnext <;> cases h
    · obtain rfl | ⟨failure, -, rfl⟩ := hnext <;> cases heq
  | @joinRequest caller hplace =>
    have hjoin : (Place.here (.join caller .join)).waits = true → view.place.waits = true := by
      rw [hplace]
      exact (join_waits caller _ _).mp
    obtain heq | heq := WorkerRecord.beginJoin_eq { view.record with instanceStop := true } <;>
      rw [heq]
    · exact .calm (.go rfl rfl rfl (quiet_none _) (fun hstate => ⟨rfl, hstate⟩)
        (fun hstate h => ⟨hstate, hjoin h⟩) (fun hno => by cases hno) fun _ _ hno => by cases hno)
    · exact .calm (.go rfl rfl rfl (quiet_none _) (fun hno => by cases hno)
        (fun hno => by cases hno) (fun hno => by cases hno) fun _ _ hno => by cases hno)
  | @joined caller hplace =>
    have hjoin : (Place.here (.join caller .record)).waits = true → view.place.waits = true := by
      rw [hplace]
      exact (join_waits caller _ _).mp
    exact .calm (.go rfl rfl rfl (quiet_none _) (fun hstate => ⟨rfl, hstate⟩)
      (fun hstate h => ⟨hstate, hjoin h⟩) (fun hno => by cases hno) fun _ _ hno => by cases hno)
  | recordJoin hplace =>
    exact .calm (.go rfl rfl rfl (quiet_none _) (fun hno => by cases hno)
      (fun hno => by cases hno) (fun hno => by cases hno) fun _ _ hno => by cases hno)
  | @reset caller hplace =>
    have hjoin : (Place.here (.join caller .quiesce)).waits = true → view.place.waits = true := by
      rw [hplace]
      exact (join_waits caller _ _).mp
    exact .calm (.go rfl rfl rfl (quiet_none _) (fun hstate => ⟨rfl, hstate⟩)
      (fun hstate h => ⟨hstate, hjoin h⟩) (fun hno => by cases hno) fun _ _ hno => by cases hno)
  | @quiesce caller _ _ hplace =>
    have hjoin : (Place.here (.join caller .offline)).waits = true → view.place.waits = true := by
      rw [hplace]
      exact (join_waits caller _ _).mp
    exact .calm (.go rfl rfl rfl (quiet_one rfl _) (fun hstate => ⟨rfl, hstate⟩)
      (fun hstate h => ⟨hstate, hjoin h⟩) (fun hno => by cases hno) fun _ _ hno => by cases hno)
  | offline hplace hnext =>
    refine .calm (.go rfl rfl rfl (quiet_none _) (fun hno => by cases hno)
      (fun hno => by cases hno) (fun h => ?_) fun _ _ heq => ?_)
    · obtain rfl | ⟨failure, -, rfl⟩ := hnext <;> cases h
    · obtain rfl | ⟨failure, -, rfl⟩ := hnext <;> cases heq

/-! ## The budget -/

/-- A configuration that restarts its workers. -/
structure Restarts (config : WorkerRecoveryConfig) : Prop where
  policy : config.policy = .restart
  attempts : 0 < config.maxAttempts
  initial : 0 ≤ config.initialBackoff
  maximum : config.initialBackoff ≤ config.maxBackoff

theorem Restarts.of_valid (hvalid : isValidRecoveryConfig config = true)
    (hpolicy : config.policy = .restart) : Restarts config := by
  simp only [isValidRecoveryConfig, hpolicy, Bool.or_eq_true, Bool.and_eq_true, bne_iff_ne,
    decide_eq_true_eq] at hvalid
  obtain hno | ⟨⟨⟨⟨-, hattempts⟩, hinitial⟩, hmaximum⟩, -⟩ := hvalid
  · cases hno
  · exact ⟨hpolicy, Nat.pos_of_ne_zero hattempts, hinitial, hmaximum⟩

/-- The budget of a record, and what is true where it waits for a restart. -/
structure Budget (config : WorkerRecoveryConfig) (view : View) : Prop where
  attempts : view.record.recoveryAttempts ≤ config.maxAttempts
  free : view.record.recoveryEpisode = false → view.record.recoveryAttempts = 0
  released : view.record.recoveryEpisode = true → view.released = true
  waiting : view.record.state = .backoff → view.place.waits = true →
    view.record.recoveryEpisode = true ∧ view.record.recoveryAttempts < config.maxAttempts
  startup : view.place.startup = true → view.record.recoveryEpisode = false
  first : ∀ port, view.place = .here (.create .startup port .admission) → view.record.instanceId = 0
  due : ∀ port, view.place = .here (.create .restart port .admission) →
    view.record.state = .backoff ∧ view.record.restartAt ≤ view.clock

theorem budget_eq {record record' : WorkerRecord} (heq : record'.budget = record.budget) :
    record'.recoveryEpisode = record.recoveryEpisode ∧
      record'.recoveryAttempts = record.recoveryAttempts ∧
      record'.nextBackoff = record.nextBackoff ∧ record'.restartAt = record.restartAt ∧
      record'.stableAt = record.stableAt := by
  simp only [WorkerRecord.budget, Prod.mk.injEq] at heq
  exact heq

/-- The recovery fields after the first locked body of `handle_worker_failure`. -/
theorem openEpisode_cases (config : WorkerRecoveryConfig) (record : WorkerRecord)
    (released : Bool) :
    (record.endedStable = false ∧ record.recoveryEpisode = true ∧
        record.openEpisode config released = record) ∨
      ((record.endedStable || !record.recoveryEpisode) = true ∧
        record.openEpisode config released = { record with
          recoveryEpisode := released
          recoveryAttempts := if record.endedStable then 0 else record.recoveryAttempts
          nextBackoff := config.initialBackoff }) := by
  unfold WorkerRecord.openEpisode
  cases hstable : record.endedStable with
  | true => exact Or.inr ⟨rfl, rfl⟩
  | false =>
    cases hepisode : record.recoveryEpisode with
    | true => exact Or.inl ⟨rfl, rfl, by simp [hepisode]⟩
    | false => exact Or.inr ⟨rfl, by simp [hepisode]⟩

theorem restartable_episode {failure : WorkerFailure}
    (h : view.record.restartable config view.released failure = true) :
    view.released = true ∧ view.record.recoveryEpisode = true := by
  simp only [WorkerRecord.restartable, Bool.and_eq_true] at h
  exact ⟨h.1.1.1, h.1.1.2⟩

/-- An episode begins without attempts. -/
theorem Budget.attempts_begin (h : Budget config view)
    (hbegins : (view.record.endedStable || !view.record.recoveryEpisode) = true) :
    (if view.record.endedStable then 0 else view.record.recoveryAttempts) = 0 := by
  cases hstable : view.record.endedStable with
  | true => rfl
  | false =>
    rw [hstable] at hbegins
    exact h.free (by simpa using hbegins)

theorem Budget.step (h : Budget config view) (hmove : Recovers config worker stopped view view')
    (hsound : view.Sound) : Budget config view' := by
  cases hmove with
  | calm hcalm =>
    obtain ⟨hepisode, hattempts, -, hrestart, -⟩ := budget_eq hcalm.budget
    refine ⟨hattempts ▸ h.attempts, fun hfree => hattempts ▸ h.free (hepisode ▸ hfree),
      fun hopen => hcalm.released (h.released (hepisode ▸ hopen)), fun hbackoff hwaits => ?_,
      fun hstartup => hepisode ▸ h.startup (hcalm.startup hstartup), fun port hplace => ?_,
      fun port hplace => ?_⟩
    · obtain ⟨hstate, hplace⟩ := hcalm.waits hbackoff hwaits
      rw [hepisode, hattempts]
      exact h.waiting hstate hplace
    · obtain ⟨hid, ⟨hsame, -⟩ | ⟨-, hfresh⟩⟩ := hcalm.admits _ _ hplace
      · exact hid.trans (h.first port hsame)
      · have hstands := hsound.stands
        rw [hfresh] at hstands
        exact hid.trans hstands.2
    · obtain ⟨-, ⟨hsame, hstate⟩ | ⟨hno, -⟩⟩ := hcalm.admits _ _ hplace
      · rw [hstate, hrestart, hcalm.clock]
        exact h.due port hsame
      · cases hno
  | due port hplace hstate hdue =>
    have hwaits : view.place.waits = true := by rw [hplace]; rfl
    exact ⟨h.attempts, h.free, h.released, fun hbackoff _ => h.waiting hbackoff hwaits,
      fun hno => (by cases hno), fun _ hno => (by cases hno), fun _ _ => ⟨hstate, hdue⟩⟩
  | @counted _ caller port hplace hstop hopen hbudget hreleased hclock hhistory hrunning hwaits
      hstartup hadmits =>
    obtain ⟨hepisode, hattempts, -⟩ := budget_eq hbudget
    have hepisode : view'.record.recoveryEpisode = true := hepisode.trans hopen
    have hrestart : ∀ port, view.place = .here (.create .restart port .admission) →
        view.record.recoveryAttempts < config.maxAttempts := by
      intro port hrestart
      have hwaits : view.place.waits = true := by rw [hrestart]; rfl
      exact (h.waiting (h.due port hrestart).1 hwaits).2
    have hlt : view.record.recoveryAttempts < config.maxAttempts := by
      cases caller with
      | restart => exact hrestart port hplace
      | startup =>
        have hfree := h.startup (by rw [hplace]; rfl)
        exact absurd (hfree.symm.trans hopen) Bool.false_ne_true
    refine ⟨?_, fun hfree => absurd (hfree.symm.trans hepisode) Bool.false_ne_true,
      fun _ => hreleased.trans (h.released hopen), fun hbackoff hplace => ?_,
      fun hplace => ?_, fun port hplace => absurd hplace (hadmits _ port),
      fun port hplace => absurd hplace (hadmits _ port)⟩
    · rw [hattempts]
      exact hlt
    · exact absurd ((hwaits hbackoff).symm.trans hplace) Bool.false_ne_true
    · exact absurd ((h.startup (hstartup hplace)).symm.trans hopen) Bool.false_ne_true
  | activated hplace =>
    exact ⟨h.attempts, h.free, h.released, fun hno => (by cases hno), fun hno => (by cases hno),
      fun _ hno => (by cases hno), fun _ hno => (by cases hno)⟩
  | stable hplace hcompletion hstable =>
    simp only [WorkerRecord.isStable, Bool.and_eq_true, beq_iff_eq] at hstable
    have hnot : view.record.state ≠ .backoff := by
      rw [hstable.1.1]
      exact fun hno => by cases hno
    exact ⟨Nat.zero_le _, fun _ => rfl, fun hno => (by cases hno),
      fun hbackoff => absurd hbackoff hnot, fun hno => (by cases hno),
      fun _ hno => (by cases hno), fun _ hno => (by cases hno)⟩
  | @failed failure hplace hstop =>
    obtain ⟨history, hhistory⟩ := view.noteFailure_eq worker
      (view.put (view.record.beginFailure config view.released))
    rw [hhistory]
    have hstate : ∀ published : Bool, (if published then WorkerRecordState.exited else
        WorkerRecordState.stopping) ≠ .backoff := by
      decide
    obtain ⟨-, hopen, heq⟩ | ⟨hbegins, heq⟩ :=
      openEpisode_cases config view.record view.released <;>
      rw [WorkerRecord.beginFailure, heq]
    · exact ⟨h.attempts, h.free, h.released, fun hbackoff => absurd hbackoff (hstate _),
        fun hno => (by cases hno), fun _ hno => (by cases hno), fun _ hno => (by cases hno)⟩
    · have hzero := h.attempts_begin hbegins
      exact ⟨hzero.trans_le (Nat.zero_le _), fun _ => hzero, id,
        fun hbackoff => absurd hbackoff (hstate _), fun hno => (by cases hno),
        fun _ hno => (by cases hno), fun _ hno => (by cases hno)⟩
  | @scheduled failure hplace hstop hrestartable hbudget =>
    obtain ⟨lastResult, heq⟩ := view.record.keepResult_eq failure
    obtain ⟨hreleased, hepisode⟩ := restartable_episode hrestartable
    rw [heq]
    exact ⟨h.attempts, h.free, fun _ => hreleased, fun _ _ => ⟨hepisode, hbudget⟩,
      fun hno => (by cases hno), fun _ hno => (by cases hno), fun _ hno => (by cases hno)⟩

/-! ## The backoff -/

/-- The backoff that is scheduled after `count` others of the episode. -/
def backoffAfter (config : WorkerRecoveryConfig) (count : Nat) : Int :=
  min config.maxBackoff (config.initialBackoff * 2 ^ count)

/-- `doubled_backoff` is the next one, and the sum stays below the maximum. -/
theorem doubledBackoff_after (hconfig : Restarts config) (count : Nat) :
    doubledBackoff (backoffAfter config count) config.maxBackoff =
      backoffAfter config (count + 1) := by
  have hinitial := hconfig.initial
  have hmaximum := hconfig.maximum
  have hpower : 0 ≤ config.initialBackoff * 2 ^ count := mul_nonneg hinitial (by positivity)
  have hnext : config.initialBackoff * 2 ^ (count + 1) =
      config.initialBackoff * 2 ^ count + config.initialBackoff * 2 ^ count := by
    rw [pow_succ]
    ring
  unfold backoffAfter doubledBackoff
  rw [hnext]
  generalize config.initialBackoff * 2 ^ count = power at hpower
  split_ifs <;> omega

theorem backoffAfter_bounds (hconfig : Restarts config) (count : Nat) :
    0 ≤ backoffAfter config count ∧ backoffAfter config count ≤ config.maxBackoff := by
  have hpower : 0 ≤ config.initialBackoff * 2 ^ count :=
    mul_nonneg hconfig.initial (by positivity)
  exact ⟨le_min (hconfig.initial.trans hconfig.maximum) hpower, min_le_left _ _⟩

/-- Every backoff of a history is the one that its place in the episode asks for. -/
def PacedHistory (config : WorkerRecoveryConfig) : List Event → Prop
  | [] => True
  | .scheduled _ delay :: before =>
    delay = backoffAfter config (scheduledSince before) ∧ PacedHistory config before
  | _ :: before => PacedHistory config before

theorem PacedHistory.append {new history : List Event} (h : PacedHistory config history)
    (hnew : ∀ event ∈ new, event.recovery = false) : PacedHistory config (new ++ history) := by
  induction new with
  | nil => exact h
  | cons event new ih =>
    have hrest := ih fun event hmem => hnew event (List.mem_cons_of_mem _ hmem)
    have hquiet := hnew event List.mem_cons_self
    cases event with
    | scheduled => cases hquiet
    | _ => exact hrest

theorem PacedHistory.delay {after before : List Event} {delay : Int}
    (h : PacedHistory config (after ++ .scheduled worker delay :: before)) :
    delay = backoffAfter config (scheduledSince before) := by
  induction after with
  | nil => exact h.1
  | cons event after ih =>
    cases event with
    | scheduled => exact ih h.2
    | _ => exact ih h

/-- The attempts and the backoff of an episode, against its events. -/
structure Paced (config : WorkerRecoveryConfig) (worker : Nat) (view : View) : Prop where
  bounded : 0 ≤ view.record.nextBackoff ∧ view.record.nextBackoff ≤ config.maxBackoff
  next : view.record.recoveryEpisode = true →
    view.record.nextBackoff = backoffAfter config (scheduledSince view.history)
  restarts : view.record.recoveryEpisode = true →
    view.record.recoveryAttempts = restartsSince view.history
  history : PacedHistory config view.history
  running : view.record.state = .running → view.record.recoveryEpisode = true →
    ∃ now, .becameRunning worker view.record.instanceId now ∈ view.history ∧
      view.record.stableAt = deadlineAfter now config.stabilityWindow

theorem backoffAfter_zero (hconfig : Restarts config) :
    backoffAfter config 0 = config.initialBackoff := by
  rw [backoffAfter, pow_zero, mul_one]
  exact min_eq_right hconfig.maximum

/-- The history of a failure that opens an episode. -/
theorem noteFailure_begin {view' : View}
    (hbegins : (view.record.endedStable || !view.record.recoveryEpisode) = true)
    (hreleased : view.released = true) :
    ∃ history, view.noteFailure worker view' =
        { view' with history := .episodeBegan worker :: history } ∧
      (PacedHistory config view'.history → PacedHistory config history) := by
  unfold View.noteFailure
  rw [hbegins, hreleased]
  cases view.record.endedStable with
  | true => exact ⟨.episodeEnded worker :: view'.history, rfl, id⟩
  | false => exact ⟨view'.history, rfl, id⟩

/-- A failure that neither ends an episode nor opens one. -/
theorem noteFailure_keep {view' : View} (hended : view.record.endedStable = false)
    (hopens : (!view.record.recoveryEpisode && view.released) = false) :
    view.noteFailure worker view' = view' := by
  unfold View.noteFailure
  dsimp only
  rw [hended, Bool.false_or, hopens]
  rfl

theorem Paced.step (h : Paced config worker view) (hconfig : Restarts config)
    (hbudget : Budget config view) (hmove : Recovers config worker stopped view view') :
    Paced config worker view' := by
  cases hmove with
  | calm hcalm =>
    obtain ⟨hepisode, hattempts, hbackoff, -, hstable⟩ := budget_eq hcalm.budget
    obtain ⟨new, hhistory, hquiet⟩ := hcalm.history
    obtain ⟨hrestarts, hscheduled⟩ := @since_append _ view.history hquiet
    refine ⟨hbackoff ▸ h.bounded, fun hopen => ?_, fun hopen => ?_, ?_, fun hrunning hopen => ?_⟩
    · rw [hbackoff, hhistory, hscheduled]
      exact h.next (hepisode ▸ hopen)
    · rw [hattempts, hhistory, hrestarts]
      exact h.restarts (hepisode ▸ hopen)
    · rw [hhistory]
      exact h.history.append hquiet
    · obtain ⟨hid, hrunning | hstartup⟩ := hcalm.running hrunning
      · obtain ⟨now, hmem, hdeadline⟩ := h.running hrunning (hepisode ▸ hopen)
        refine ⟨now, ?_, hstable.trans hdeadline⟩
        rw [hid, hhistory]
        exact List.mem_append_right _ hmem
      · have hclosed := hbudget.startup hstartup
        exact absurd (hclosed.symm.trans (hepisode ▸ hopen)) Bool.false_ne_true
  | due => exact ⟨h.bounded, h.next, h.restarts, h.history, h.running⟩
  | counted hplace hstop hopen hbudget' hreleased hclock hhistory hrunning =>
    obtain ⟨-, hattempts, hbackoff, -⟩ := budget_eq hbudget'
    obtain ⟨new, hhistory, hquiet⟩ := hhistory
    obtain ⟨hrestarts, hscheduled⟩ :=
      @since_append _ (.restarted worker :: view.history) hquiet
    refine ⟨hbackoff ▸ h.bounded, fun _ => ?_, fun _ => ?_, ?_, fun hno => absurd hno hrunning⟩
    · rw [hbackoff, hhistory, hscheduled]
      exact h.next hopen
    · rw [hattempts, hhistory, hrestarts]
      exact congrArg (· + 1) (h.restarts hopen)
    · rw [hhistory]
      exact @PacedHistory.append _ _ (.restarted worker :: view.history) h.history hquiet
  | activated =>
    exact ⟨h.bounded, h.next, h.restarts, h.history, fun _ _ =>
      ⟨view.clock, List.mem_cons_self, rfl⟩⟩
  | stable =>
    exact ⟨⟨hconfig.initial, hconfig.maximum⟩, fun hno => (by cases hno), fun hno => (by cases hno),
      h.history, fun _ hno => (by cases hno)⟩
  | @failed failure hplace hstop =>
    have hstate : ∀ published : Bool, (if published then WorkerRecordState.exited else
        WorkerRecordState.stopping) ≠ .running := by
      decide
    obtain ⟨hended, hopen, heq⟩ | ⟨hbegins, heq⟩ :=
      openEpisode_cases config view.record view.released
    · -- the episode goes on
      rw [noteFailure_keep hended (by rw [hopen]; rfl), WorkerRecord.beginFailure, heq]
      exact ⟨h.bounded, h.next, h.restarts, h.history, fun hno => absurd hno (hstate _)⟩
    · by_cases hreleased : view.released = true
      · obtain ⟨history, hhistory, hpaced⟩ := @noteFailure_begin config worker _
          (view.put (view.record.beginFailure config view.released)) hbegins hreleased
        rw [hhistory, WorkerRecord.beginFailure, heq]
        exact ⟨⟨hconfig.initial, hconfig.maximum⟩, fun _ => (backoffAfter_zero hconfig).symm,
          fun _ => hbudget.attempts_begin hbegins, hpaced h.history,
          fun hno => absurd hno (hstate _)⟩
      · -- before the release there is no episode
        have hepisode : view.record.recoveryEpisode = false :=
          Bool.eq_false_of_not_eq_true fun hopen => hreleased (hbudget.released hopen)
        have hended : view.record.endedStable = false := by
          rw [WorkerRecord.endedStable, hepisode, Bool.and_false, Bool.false_and]
        have hclosed : ∀ {p : Prop}, view.released = true → p := fun hopen => absurd hopen hreleased
        rw [noteFailure_keep hended
          (by rw [Bool.eq_false_of_not_eq_true hreleased, Bool.and_false]),
          WorkerRecord.beginFailure, heq]
        exact ⟨⟨hconfig.initial, hconfig.maximum⟩, fun hopen => hclosed hopen,
          fun hopen => hclosed hopen, h.history, fun hno => absurd hno (hstate _)⟩
  | @scheduled failure hplace hstop hrestartable hlt =>
    obtain ⟨lastResult, heq⟩ := view.record.keepResult_eq failure
    obtain ⟨-, hepisode⟩ := restartable_episode hrestartable
    have hnext : doubledBackoff view.record.nextBackoff config.maxBackoff =
        backoffAfter config (scheduledSince view.history + 1) := by
      rw [h.next hepisode]
      exact doubledBackoff_after hconfig _
    rw [heq]
    refine ⟨?_, fun _ => hnext, fun _ => h.restarts hepisode, ⟨h.next hepisode, h.history⟩,
      fun hno => (by cases hno)⟩
    have hbounds := backoffAfter_bounds hconfig (scheduledSince view.history + 1)
    rw [← hnext] at hbounds
    exact hbounds

/-! ## The deadlines -/

/-- `deadline_after` stays in the range of the clock. -/
theorem deadlineAfter_le {now : TimePoint} (hnow : now ≤ timePointMax) (delay : Int) :
    deadlineAfter now delay ≤ timePointMax := by
  unfold deadlineAfter
  dsimp only
  split_ifs with hfar
  · exact le_rfl
  · have hremaining : (0 : Int) ≤ timePointMax - now := Int.sub_nonneg_of_le hnow
    rw [Int.tdiv_eq_ediv_of_nonneg hremaining] at hfar
    have hfits : (timePointMax - now) / 1000000 * 1000000 ≤ timePointMax - now :=
      Int.ediv_mul_le _ (by decide)
    have hless : delay < (timePointMax - now) / 1000000 := not_le.mp hfar
    linarith

/-- The clock and the deadlines of a record can be represented. -/
structure Timed (view : View) : Prop where
  start : 0 ≤ view.clock
  clock : view.clock ≤ timePointMax
  restartAt : view.record.restartAt ≤ timePointMax
  stableAt : view.record.stableAt ≤ timePointMax

theorem Timed.step (h : Timed view) (hmove : Recovers config worker stopped view view') :
    Timed view' := by
  obtain ⟨hstart, hclock, hrestart, hstable⟩ := h
  cases hmove with
  | calm hcalm =>
    obtain ⟨-, -, -, hrestart', hstable'⟩ := budget_eq hcalm.budget
    exact ⟨hcalm.clock ▸ hstart, hcalm.clock ▸ hclock, hrestart' ▸ hrestart, hstable' ▸ hstable⟩
  | counted hplace hstop hopen hbudget hreleased hsame =>
    obtain ⟨-, -, -, hrestart', hstable'⟩ := budget_eq hbudget
    exact ⟨hsame ▸ hstart, hsame ▸ hclock, hrestart' ▸ hrestart, hstable' ▸ hstable⟩
  | activated => exact ⟨hstart, hclock, hrestart, deadlineAfter_le hclock _⟩
  | due | stable => exact ⟨hstart, hclock, hrestart, hstable⟩
  | failed =>
    obtain ⟨history, hhistory⟩ := view.noteFailure_eq worker
      (view.put (view.record.beginFailure config view.released))
    obtain ⟨_, _, _, hopen⟩ := view.record.openEpisode_eq config view.released
    rw [hhistory, WorkerRecord.beginFailure, hopen]
    exact ⟨hstart, hclock, hrestart, hstable⟩
  | @scheduled failure =>
    obtain ⟨lastResult, heq⟩ := view.record.keepResult_eq failure
    rw [heq]
    exact ⟨hstart, hclock, deadlineAfter_le hclock _, hstable⟩

theorem Recovers.clock (hmove : Recovers config worker stopped view view') :
    view'.clock = view.clock := by
  cases hmove with
  | calm hcalm => exact hcalm.clock
  | counted hplace hstop hopen hbudget hreleased hclock => exact hclock
  | failed =>
    obtain ⟨history, hhistory⟩ := view.noteFailure_eq worker
      (view.put (view.record.beginFailure config view.released))
    rw [hhistory]
    rfl
  | _ => rfl

/-! ## The end of an episode, and the next attempt -/

/-- The episode ends, or its budget is given back. -/
def View.Ends (worker : Nat) (view view' : View) : Prop :=
  view.record.recoveryEpisode = true ∧ view'.record.recoveryEpisode = false ∨
  view'.record.recoveryAttempts < view.record.recoveryAttempts ∨
  ∃ new, view'.history = new ++ view.history ∧ .episodeEnded worker ∈ new

/-- An episode ends at the point where the instance is running at its deadline, or
where it completed after it. -/
theorem Recovers.ends (hmove : Recovers config worker stopped view view')
    (hends : view.Ends worker view') :
    view.record.state = .running ∧ view.record.recoveryEpisode = true ∧
      (view.record.completion.published = false ∧ view.record.stableAt ≤ view'.clock ∨
        (∃ failure, view.place = .here (.beginFailure failure)) ∧
          view.record.stableAt ≤ view.record.completion.completedAt) := by
  have hquiet : ∀ {p : Prop} {new : List Event} (old : List Event),
      view'.history = old ++ view.history → .episodeEnded worker ∉ old →
      view'.history = new ++ view.history → .episodeEnded worker ∈ new → p := by
    intro p new old hold hno hnew hmem
    rw [hold] at hnew
    exact absurd (List.append_cancel_right hnew ▸ hmem) hno
  cases hmove with
  | calm hcalm =>
    obtain ⟨hepisode, hattempts, -⟩ := budget_eq hcalm.budget
    obtain ⟨old, hold, hrecovery⟩ := hcalm.history
    obtain ⟨hopen, hclosed⟩ | hless | ⟨new, hnew, hmem⟩ := hends
    · exact absurd (hclosed.symm.trans (hepisode.trans hopen)) Bool.false_ne_true
    · exact absurd hless (by omega)
    · exact hquiet old hold (fun hno => by cases hrecovery _ hno) hnew hmem
  | due =>
    obtain ⟨hopen, hclosed⟩ | hless | ⟨new, hnew, hmem⟩ := hends
    · exact absurd (hclosed.symm.trans hopen) Bool.false_ne_true
    · exact absurd hless (lt_irrefl _)
    · exact hquiet [] rfl (fun hno => by cases hno) hnew hmem
  | counted hplace hstop hopen hbudget' hreleased hclock hhistory =>
    obtain ⟨hepisode, hattempts, -⟩ := budget_eq hbudget'
    obtain ⟨old, hold, hrecovery⟩ := hhistory
    obtain ⟨-, hclosed⟩ | hless | ⟨new, hnew, hmem⟩ := hends
    · exact absurd (hclosed.symm.trans (hepisode.trans hopen)) Bool.false_ne_true
    · have hmore : view'.record.recoveryAttempts = view.record.recoveryAttempts + 1 := hattempts
      omega
    · refine hquiet (old ++ [.restarted worker]) ?_ (fun hno => ?_) hnew hmem
      · rw [hold, List.append_assoc]
        rfl
      · obtain hno | hno := List.mem_append.mp hno
        · cases hrecovery _ hno
        · cases List.mem_singleton.mp hno
  | activated =>
    obtain ⟨hopen, hclosed⟩ | hless | ⟨new, hnew, hmem⟩ := hends
    · exact absurd (hclosed.symm.trans hopen) Bool.false_ne_true
    · exact absurd hless (lt_irrefl _)
    · refine hquiet [.becameRunning worker view.record.instanceId view.clock] rfl
        (fun hno => ?_) hnew hmem
      cases List.mem_singleton.mp hno
  | stable hplace hcompletion hstable =>
    simp only [WorkerRecord.isStable, Bool.and_eq_true, beq_iff_eq, decide_eq_true_eq] at hstable
    exact ⟨hstable.1.1, hstable.1.2, Or.inl ⟨hcompletion, hstable.2⟩⟩
  | @failed failure hplace =>
    cases hended : view.record.endedStable with
    | true =>
      simp only [WorkerRecord.endedStable, Bool.and_eq_true, beq_iff_eq,
        decide_eq_true_eq] at hended
      exact ⟨hended.1.1, hended.1.2, Or.inr ⟨⟨failure, hplace⟩, hended.2⟩⟩
    | false =>
      exfalso
      obtain ⟨hopen, hclosed⟩ | hless | ⟨new, hnew, hmem⟩ := hends
      · rw [noteFailure_keep hended (by rw [hopen]; rfl)] at hclosed
        obtain ⟨-, -, heq⟩ | ⟨hbegins, -⟩ := openEpisode_cases config view.record view.released
        · rw [WorkerRecord.beginFailure, heq] at hclosed
          exact absurd (hclosed.symm.trans hopen) Bool.false_ne_true
        · rw [hended, hopen] at hbegins
          cases hbegins
      · obtain ⟨history, hhistory⟩ := view.noteFailure_eq worker
          (view.put (view.record.beginFailure config view.released))
        rw [hhistory] at hless
        obtain ⟨-, -, heq⟩ | ⟨-, heq⟩ := openEpisode_cases config view.record view.released
        · rw [WorkerRecord.beginFailure, heq] at hless
          exact absurd hless (lt_irrefl _)
        · rw [WorkerRecord.beginFailure, heq, hended] at hless
          exact absurd hless (lt_irrefl _)
      · refine hquiet (if !view.record.recoveryEpisode && view.released then
          [.episodeBegan worker] else []) ?_ (fun hno => ?_) hnew hmem
        · unfold View.noteFailure
          dsimp only
          rw [hended, Bool.false_or]
          cases !view.record.recoveryEpisode && view.released <;> rfl
        · split_ifs at hno
          · cases List.mem_singleton.mp hno
          · cases hno
  | @scheduled failure hplace hstop hrestartable =>
    obtain ⟨lastResult, heq⟩ := view.record.keepResult_eq failure
    obtain ⟨hopen, hclosed⟩ | hless | ⟨new, hnew, hmem⟩ := hends
    · rw [heq] at hclosed
      exact absurd (hclosed.symm.trans hopen) Bool.false_ne_true
    · rw [heq] at hless
      exact absurd hless (lt_irrefl _)
    · refine hquiet [.scheduled worker view.record.nextBackoff] rfl (fun hno => ?_) hnew hmem
      cases List.mem_singleton.mp hno

/-- An attempt is counted, or the next instance is admitted, only after the release,
at the deadline of the restart, and with no stop requested. -/
theorem Budget.admits (h : Budget config view) (hmove : Move config worker stopped view view')
    (hsound : view.Sound)
    (hadmits : view.record.recoveryAttempts < view'.record.recoveryAttempts ∨
      0 < view.record.instanceId ∧ view'.record.instanceId ≠ view.record.instanceId) :
    view.released = true ∧ view.record.restartAt ≤ view'.clock ∧ stopped = false := by
  have hrecovers := hmove.recovers hsound
  have hrestart : ∀ {port}, view.place = .here (.create .restart port .admission) →
      stopped = false → view.released = true ∧ view.record.restartAt ≤ view'.clock ∧
        stopped = false := by
    intro port hplace hstop
    obtain ⟨hbackoff, hdue⟩ := h.due port hplace
    have hwaits : view.place.waits = true := by rw [hplace]; rfl
    refine ⟨h.released (h.waiting hbackoff hwaits).1, ?_, hstop⟩
    rw [hrecovers.clock]
    exact hdue
  obtain hcounts | ⟨hpos, hid⟩ := hadmits
  · cases hrecovers with
    | calm hcalm =>
      obtain ⟨-, hattempts, -⟩ := budget_eq hcalm.budget
      exact absurd hcounts (by omega)
    | @counted _ caller port hplace hstop hopen =>
      cases caller with
      | restart => exact hrestart hplace hstop
      | startup =>
        have hfree := h.startup (by rw [hplace]; rfl)
        exact absurd (hfree.symm.trans hopen) Bool.false_ne_true
    | due | activated => exact absurd hcounts (lt_irrefl _)
    | stable => exact absurd hcounts (Nat.not_lt_zero _)
    | failed =>
      obtain ⟨history, hhistory⟩ := view.noteFailure_eq worker
        (view.put (view.record.beginFailure config view.released))
      rw [hhistory] at hcounts
      obtain ⟨-, -, heq⟩ | ⟨hbegins, heq⟩ := openEpisode_cases config view.record view.released <;>
        rw [WorkerRecord.beginFailure, heq] at hcounts
      · exact absurd hcounts (lt_irrefl _)
      · exact absurd (hcounts.trans_eq (h.attempts_begin hbegins)) (Nat.not_lt_zero _)
    | @scheduled failure =>
      obtain ⟨lastResult, heq⟩ := view.record.keepResult_eq failure
      rw [heq] at hcounts
      exact absurd hcounts (lt_irrefl _)
  · obtain ⟨⟨caller, port, hplace⟩, hstop, -⟩ := hmove.admits hid
    cases caller with
    | restart => exact hrestart hplace hstop
    | startup => exact absurd (h.first port hplace) hpos.ne'

end DnsPro.Supervisor
