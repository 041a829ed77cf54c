import DnsPro.Publication.Visibility
import DnsPro.Supervisor.View

/-!
# Every step is a move

`step_moves`: a step of the system is a `Move` of every record, up to the reading
of the clock.  The control thread works on one record at a time, and for the
others it only goes on (`moves_here`, `moves_pass`, `moves_back`, `moves_leave`).
The step function is unfolded here and nowhere else.
-/

namespace DnsPro.Supervisor

open DnsPro.Runtime (TimePoint)
open DnsPro.Publication (WorkerEpoch FilterPublicationState unobservedFilterGeneration)
open DnsPro.Service (WorkerRunResult WorkerFailure WorkerRecoveryConfig SupervisorStartupError)

namespace System

variable {system next : System} {worker other : Nat} {choice : Choice}

/-- The step is a move of every record. -/
def Moves (system next : System) : Prop :=
  ∀ worker < system.config.workerCount,
    Move system.config.recovery worker system.shared.stopRequestedLocked (system.view worker)
      (next.view worker)

@[simp] theorem view_goto (system : System) (pc : Pc) (worker : Nat) :
    (system.goto pc).view worker = (system.view worker).goto (pc.place worker) := rfl

theorem view_note_self {event : Event} (hevent : event.worker? = some worker) :
    (system.note event).view worker = (system.view worker).note event := by
  simp [view, note, history, View.note, hevent]

theorem view_note_other {event : Event} (hevent : event.worker? ≠ some worker) :
    (system.note event).view worker = system.view worker := by
  simp [view, note, history, hevent]

/-- An event of the worker that is noted under a condition. -/
theorem view_noteIf_self {event : Event} (hevent : event.worker? = some worker) (cond : Bool) :
    (if cond then system.note event else system).view worker =
      if cond then (system.view worker).note event else system.view worker := by
  cases cond with
  | false => rfl
  | true => exact view_note_self hevent

theorem view_noteIf_other {event : Event} (hevent : event.worker? ≠ some worker) (cond : Bool) :
    (if cond then system.note event else system).view worker = system.view worker := by
  cases cond with
  | false => rfl
  | true => exact view_note_other hevent

theorem view_setSlot_self (slot : Slot) :
    (system.setSlot worker slot).view worker = { system.view worker with slot := slot } := by
  simp [view, setSlot, history]

theorem view_setSlot_other {slot : Slot} (hne : worker ≠ other) :
    (system.setSlot other slot).view worker = system.view worker := by
  simp [view, setSlot, history, hne]

theorem view_setRecord_self (record : WorkerRecord) :
    (system.setRecord worker record).view worker = (system.view worker).put record :=
  view_setSlot_self _

theorem view_setRecord_other {record : WorkerRecord} (hne : worker ≠ other) :
    (system.setRecord other record).view worker = system.view worker :=
  view_setSlot_other hne

@[simp] theorem setRecord_record (system : System) (worker : Nat) (record : WorkerRecord) :
    (system.setRecord worker record).record worker = record := by
  simp [setRecord, setSlot, System.record]

theorem setRecord_shared (system : System) (worker : Nat) (record : WorkerRecord) :
    (system.setRecord worker record).shared = system.shared := rfl

theorem setRecord_config (system : System) (worker : Nat) (record : WorkerRecord) :
    (system.setRecord worker record).config = system.config := rfl

/-- The local snapshots are no part of a view. -/
@[simp] theorem view_dropSnapshot (system : System) (dropped worker : Nat) :
    (system.dropSnapshot dropped).view worker = system.view worker := rfl

@[simp] theorem view_setHealth (system : System) (health : Service.SupervisorHealthSnapshot)
    (worker : Nat) : (system.setHealth health).view worker = system.view worker := rfl

theorem view_publishHealth (system : System) (worker : Nat) :
    system.publishHealth.view worker = system.view worker := by
  simp [view, publishHealth, history, Event.worker?]

theorem goto_place (system : System) (worker : Nat) :
    (system.view worker).goto (system.pc.place worker) = system.view worker := rfl

/-- The control thread goes on, and no slot changes. -/
theorem moves_goto (pc : Pc) (hviews : ∀ worker, next.view worker =
      (system.view worker).goto (pc.place worker))
    (hgoes : ∀ worker < system.config.workerCount,
      pc.place worker = system.pc.place worker ∨
        Goes (system.view worker) (system.pc.place worker) (pc.place worker)) :
    system.Moves next := by
  intro worker hworker
  rw [hviews]
  rcases hgoes worker hworker with hsame | hgoes
  · rw [hsame, goto_place]
    exact .still
  · exact .goes hgoes

/-- The control thread works on one record, and goes on for the others. -/
theorem moves_at (worker : Nat) (pc : Pc)
    (hself : worker < system.config.workerCount →
      Move system.config.recovery worker system.shared.stopRequestedLocked (system.view worker)
        (next.view worker))
    (hviews : ∀ other ≠ worker, next.view other = (system.view other).goto (pc.place other))
    (hgoes : ∀ other < system.config.workerCount, other ≠ worker →
      pc.place other = system.pc.place other ∨
        Goes (system.view other) (system.pc.place other) (pc.place other)) :
    system.Moves next := by
  intro other hother
  by_cases hne : other = worker
  · subst hne
    exact hself hother
  · rw [hviews other hne]
    rcases hgoes other hother hne with hsame | hgoes
    · rw [hsame, goto_place]
      exact .still
    · exact .goes hgoes

theorem elsewhere_storing (point : Point) (later : Bool) :
    (point.elsewhere later).storing = false := by
  cases point with
  | create caller port point =>
    cases caller with
    | startup => cases later <;> rfl
    | restart => rfl
  | start caller spawning =>
    cases caller with
    | startup => cases later <;> rfl
    | restart => rfl
  | join caller point => cases caller <;> rfl
  | _ => rfl

theorem place_storing {pc : Pc} (hpc : pc.storing = false) (worker : Nat) :
    (pc.place worker).storing = false := by
  cases pc with
  | record other point =>
    by_cases hne : worker = other
    · subst hne
      simp only [Pc.place, if_pos]
      cases point with
      | create caller port point =>
        cases point with
        | store loop => cases hpc
        | _ => rfl
      | _ => rfl
    · simp only [Pc.place, if_neg hne]
      exact elsewhere_storing point _
  | publishing startup activation after => cases after <;> rfl
  | _ => rfl

/-- The run is given up. -/
theorem moves_giveUp {system₁ : System} (pc : Pc) (hstoring : system.pc.storing = false)
    (hclosing : ∀ worker, pc.place worker = .closing)
    (hviews : ∀ worker, system₁.view worker = system.view worker) :
    system.Moves (system₁.goto pc) := by
  refine moves_goto pc (fun other => by rw [view_goto, hviews]) fun other _ => ?_
  rw [hclosing]
  exact Or.inr (.giveUp (place_storing hstoring other))

/-- A point of one record, seen from another one. -/
theorem place_other (point : Point) (hne : other ≠ worker) :
    (Pc.record worker point).place other = point.elsewhere (decide (worker < other)) := by
  simp only [Pc.place, if_neg hne]

@[simp] theorem place_self (point : Point) :
    (Pc.record worker point).place worker = .here point := by
  simp only [Pc.place, if_pos]

theorem view_place {point : Point} (hpc : system.pc = .record worker point) :
    (system.view worker).place = .here point := by
  simp only [view, hpc, place_self]

/-- The control thread goes from one point of a record to another, and for the other
records that is all the same. -/
theorem moves_here {system₁ : System} {point point' : Point}
    (hpc : system.pc = .record worker point)
    (hsame : ∀ later, point'.elsewhere later = point.elsewhere later)
    (hself : Move system.config.recovery worker system.shared.stopRequestedLocked
      (system.view worker) ((system₁.view worker).goto (.here point')))
    (hviews : ∀ other ≠ worker, system₁.view other = system.view other) :
    system.Moves (system₁.goto (.record worker point')) := by
  refine moves_at worker (.record worker point') (fun _ => ?_) (fun other hne => ?_)
    fun other _ hne => ?_
  · rw [view_goto, place_self]
    exact hself
  · rw [view_goto, hviews other hne]
  · rw [hpc, place_other _ hne, place_other _ hne, hsame]
    exact Or.inl rfl

/-- The control thread leaves a record at the end of the run. -/
theorem moves_leave {system₁ : System} {point : Point} (pc : Pc)
    (hpc : system.pc = .record worker point) (hclosing : ∀ worker, pc.place worker = .closing)
    (hself : Move system.config.recovery worker system.shared.stopRequestedLocked
      (system.view worker) ((system₁.view worker).goto .closing))
    (hviews : ∀ other ≠ worker, system₁.view other = system.view other) :
    system.Moves (system₁.goto pc) := by
  refine moves_at worker pc (fun _ => ?_) (fun other hne => ?_) fun other _ hne => ?_
  · rw [view_goto, hclosing]
    exact hself
  · rw [view_goto, hviews other hne]
  · rw [hclosing, hpc, place_other _ hne]
    exact Or.inr (.giveUp (elsewhere_storing _ _))

/-- The control thread goes on to the next record of a pass. -/
theorem moves_pass {system₁ : System} {point point' : Point} {place : Place}
    (hpc : system.pc = .record worker point)
    (hplace : ∀ later, point.elsewhere later = place)
    (hplace' : ∀ later, point'.elsewhere later = place)
    (hgoes : ∀ view, Goes view place (.here point'))
    (hself : Move system.config.recovery worker system.shared.stopRequestedLocked
      (system.view worker) ((system₁.view worker).goto place))
    (hviews : ∀ other ≠ worker, system₁.view other = system.view other) :
    system.Moves (system₁.goto (.record (worker + 1) point')) := by
  refine moves_at worker (.record (worker + 1) point') (fun _ => ?_) (fun other hne => ?_)
    fun other _ hne => ?_
  · rw [view_goto, place_other _ (by omega), hplace']
    exact hself
  · rw [view_goto, hviews other hne]
  · rw [hpc, place_other _ hne, hplace]
    by_cases hnext : other = worker + 1
    · subst hnext
      rw [place_self]
      exact Or.inr (hgoes _)
    · rw [place_other _ hnext, hplace']
      exact Or.inl rfl

/-- The control thread leaves a record for a point that is about none. -/
theorem moves_back {system₁ : System} {point : Point} (pc : Pc) {place : Place}
    (hpc : system.pc = .record worker point)
    (hplace : ∀ later, point.elsewhere later = place)
    (hplace' : ∀ worker, pc.place worker = place)
    (hself : Move system.config.recovery worker system.shared.stopRequestedLocked
      (system.view worker) ((system₁.view worker).goto place))
    (hviews : ∀ other ≠ worker, system₁.view other = system.view other) :
    system.Moves (system₁.goto pc) := by
  refine moves_at worker pc (fun _ => ?_) (fun other hne => ?_) fun other _ hne => ?_
  · rw [view_goto, hplace']
    exact hself
  · rw [view_goto, hviews other hne]
  · rw [hpc, place_other _ hne, hplace, hplace']
    exact Or.inl rfl

/-- The control thread begins a pass. -/
theorem moves_enter {system₁ : System} {point : Point} {place : Place}
    (hwaiting : ∀ worker < system.config.workerCount, system.pc.place worker = place)
    (hplace : point.elsewhere true = place) (hgoes : ∀ view, Goes view place (.here point))
    (hviews : ∀ worker, system₁.view worker = system.view worker) :
    system.Moves (system₁.goto (.record 0 point)) := by
  refine moves_goto (.record 0 point) (fun worker => by rw [view_goto, hviews])
    fun worker hworker => ?_
  rw [hwaiting worker hworker]
  by_cases hzero : worker = 0
  · subst hzero
    rw [place_self]
    exact Or.inr (hgoes _)
  · rw [place_other _ hzero, decide_eq_true (Nat.pos_of_ne_zero hzero), hplace]
    exact Or.inl rfl

/-! ### The ends of the run -/

theorem thrown_eq (system : System) :
    ∃ pc, system.thrown = system.goto pc ∧ ∀ worker, pc.place worker = .closing :=
  ⟨_, rfl, fun _ => rfl⟩

theorem startupFailed_eq (system : System) (error : SupervisorStartupError) :
    ∃ pc, system.startupFailed error = system.goto pc ∧ ∀ worker, pc.place worker = .closing :=
  ⟨_, rfl, fun _ => rfl⟩

theorem thrown_moves (hstoring : system.pc.storing = false) : system.Moves system.thrown := by
  obtain ⟨pc, heq, hclosing⟩ := thrown_eq system
  rw [heq]
  exact moves_giveUp _ hstoring hclosing fun _ => rfl

/-! ### Creation -/

/-- `create_worker` fails. -/
theorem createReturned_error (system : System) (worker : Nat) (caller : Caller) (port : UInt16)
    (error : SupervisorStartupError) :
    ∃ pc, system.createReturned worker caller port (some error) = system.goto pc ∧
      ((∀ worker, pc.place worker = .closing) ∨
        caller = .restart ∧ pc = .record worker (.createHealth (some error))) := by
  cases caller with
  | startup =>
    obtain ⟨pc, heq, hclosing⟩ := startupFailed_eq system error
    exact ⟨pc, heq, Or.inl hclosing⟩
  | restart => exact ⟨_, rfl, Or.inr ⟨rfl, rfl⟩⟩

/-- `create_worker` has stored the new instance. -/
theorem createReturned_none (system : System) (worker : Nat) (caller : Caller) (port : UInt16) :
    ∃ pc, system.createReturned worker caller port none = system.goto pc ∧
      (caller = .restart ∧ pc = .record worker (.createHealth none) ∨
        caller = .startup ∧ worker + 1 < system.config.workerCount ∧
          (∃ port, pc = .record (worker + 1) (.create .startup port .admission)) ∨
        caller = .startup ∧ system.config.workerCount ≤ worker + 1 ∧
          pc = .record 0 (.start .startup false)) := by
  cases caller with
  | restart => exact ⟨_, rfl, Or.inl ⟨rfl, rfl⟩⟩
  | startup =>
    by_cases hnext : worker + 1 < system.config.workerCount
    · simp only [createReturned, if_pos hnext]
      exact ⟨_, rfl, Or.inr (Or.inl ⟨trivial, hnext, _, rfl⟩)⟩
    · simp only [createReturned, if_neg hnext]
      exact ⟨_, rfl, Or.inr (Or.inr ⟨trivial, by omega, rfl⟩)⟩

/-- `create_worker` fails after a move of the record alone. -/
theorem moves_createFailed {system₁ : System} {caller : Caller} {port : UInt16}
    {point : CreatePoint} (error : SupervisorStartupError)
    (hpc : system.pc = .record worker (.create caller port point))
    (hself : ∀ place, (place = .closing ∨ ∃ error, caller = .restart ∧
        place = .here (.createHealth (some error))) →
      Move system.config.recovery worker system.shared.stopRequestedLocked (system.view worker)
        ((system₁.view worker).goto place))
    (hviews : ∀ other ≠ worker, system₁.view other = system.view other) :
    system.Moves (system₁.createReturned worker caller port (some error)) := by
  obtain ⟨pc, heq, hclosing | ⟨rfl, rfl⟩⟩ := createReturned_error system₁ worker caller port error
  · rw [heq]
    exact moves_leave _ hpc hclosing (hself _ (Or.inl rfl)) hviews
  · rw [heq]
    exact moves_here hpc (fun _ => rfl) (hself _ (Or.inr ⟨error, rfl, rfl⟩)) hviews

/-- `create_worker` fails and leaves the record alone. -/
theorem goes_createFailed {view : View} {caller : Caller} {port : UInt16} {point : CreatePoint}
    {place : Place} (hpoint : point = .admission ∨ point = .register ∨ point = .build)
    (h : place = .closing ∨ ∃ error, caller = .restart ∧
      place = .here (.createHealth (some error))) :
    Goes view (.here (.create caller port point)) place := by
  rcases h with rfl | ⟨error, rfl, rfl⟩
  · exact .giveUp (by obtain rfl | rfl | rfl := hpoint <;> rfl)
  · exact .createFailed error hpoint

theorem countRestart_view_self (system : System) (worker : Nat) :
    (system.countRestart worker).view worker = (system.view worker).counted worker := by
  unfold countRestart View.counted
  by_cases hepisode : (system.record worker).recoveryEpisode = true
  · rw [if_pos hepisode, if_pos (by exact hepisode), view_note_self rfl, view_setHealth,
      view_setRecord_self]
    rfl
  · rw [if_neg hepisode, if_neg (by exact hepisode)]

theorem countRestart_view_other (system : System) (hne : other ≠ worker) :
    (system.countRestart worker).view other = system.view other := by
  unfold countRestart
  split_ifs
  · rw [view_note_other (by simpa [Event.worker?] using hne.symm), view_setHealth,
      view_setRecord_other hne]
  · rfl

/-- The part of a publication that the view of a worker shows. -/
theorem view_publication (system : System) (publication : Publication.System) (worker : Nat) :
    ({ system with publication := publication } : System).view worker =
      { system.view worker with
        registered := registeredIn publication.publication worker
        epoch := publication.publication.epochs worker } := rfl

/-- An instance is registered, or nothing changes. -/
theorem register_view (system : System) (worker instanceId : Nat) :
    let registered :=
      (system.publication.publication.registerWorker worker instanceId).1.isSome
    let next : System :=
      { system with publication := system.publication.register worker instanceId }
    (registered = false ∧ next.view worker = system.view worker ∨
        registered = true ∧ (system.view worker).registered = false ∧
          next.view worker = { system.view worker with
            registered := true
            epoch := { (system.view worker).epoch with
              observedGeneration := unobservedFilterGeneration
              registrationState := .starting
              publishedInstanceId := instanceId } }) ∧
      ∀ other ≠ worker, next.view other = system.view other := by
  dsimp only
  simp only [view_publication, Publication.System.register]
  obtain heq | ⟨snapshot, -, hworker, hregistry, -, heq⟩ :=
    FilterPublicationState.registerWorker_cases system.publication.publication worker instanceId
  · rw [heq]
    exact ⟨Or.inl ⟨rfl, rfl⟩, fun _ _ => rfl⟩
  · rw [heq]
    refine ⟨Or.inr ⟨rfl, by simp [view, registeredIn, hregistry], ?_⟩, fun other hne => ?_⟩
    · simp [view, registeredIn, hworker]
    · simp [view, registeredIn, hne]

theorem stepCreate_moves {caller : Caller} {port : UInt16} {point : CreatePoint}
    (hpc : system.pc = .record worker (.create caller port point)) :
    system.Moves (system.stepCreate worker caller port choice point) := by
  have hplace := view_place hpc
  cases point with
  | admission =>
    simp only [stepCreate]
    by_cases habrupt : system.shared.abruptExitRequested = true
    · rw [if_pos habrupt]
      exact thrown_moves (by rw [hpc]; rfl)
    rw [if_neg habrupt]
    by_cases hstop : system.shared.stopRequestedLocked = true
    · rw [if_pos hstop]
      refine moves_createFailed _ hpc (fun place hnext => ?_) fun _ _ => rfl
      refine .goes ?_
      rw [hplace]
      exact goes_createFailed (Or.inl rfl) hnext
    rw [if_neg hstop]
    have hrefused : ∀ error, system.Moves
        ((system.countRestart worker).createReturned worker caller port (some error)) := by
      intro error
      refine moves_createFailed _ hpc (fun place hnext => ?_) fun _ => countRestart_view_other _
      rw [countRestart_view_self]
      refine .refused hplace (by simpa using hstop) ?_
      rcases hnext with rfl | ⟨error, -, rfl⟩
      · exact Or.inl rfl
      · exact Or.inr ⟨error, rfl⟩
    by_cases hexhausted :
        ((system.countRestart worker).record worker).instanceId = WorkerRecord.maximumInstanceId
    · rw [if_pos hexhausted]
      exact hrefused _
    rw [if_neg hexhausted]
    by_cases hbusy : ((system.countRestart worker).record worker).currentInstance.isSome ∨
        ((system.countRestart worker).record worker).currentThread = true
    · rw [if_pos hbusy]
      exact hrefused _
    rw [if_neg hbusy]
    have hrecord : (system.countRestart worker).record worker =
        ((system.view worker).counted worker).record := by
      rw [← countRestart_view_self]
      rfl
    have hkept : ((system.view worker).counted worker).record.instanceId =
          (system.view worker).record.instanceId ∧
        ((system.view worker).counted worker).record.currentInstance =
          (system.view worker).record.currentInstance ∧
        ((system.view worker).counted worker).record.currentThread =
          (system.view worker).record.currentThread := by
      unfold View.counted
      split_ifs <;> exact ⟨rfl, rfl, rfl⟩
    rw [hrecord] at hbusy ⊢
    rw [hkept.2.1, hkept.2.2, not_or] at hbusy
    refine moves_here hpc (fun _ => by cases caller <;> rfl) ?_ fun other hne => ?_
    · rw [view_note_self rfl, view_setRecord_self, countRestart_view_self]
      have hid : ((system.view worker).counted worker).record.admission.instanceId =
          (system.view worker).record.instanceId + 1 := congrArg (· + 1) hkept.1
      rw [hid]
      exact .admission hplace (by simpa using hstop) (by simpa using hbusy.1)
        (by simpa using hbusy.2)
    · rw [view_note_other (by simpa [Event.worker?] using hne.symm), view_setRecord_other hne,
        countRestart_view_other _ hne]
  | register =>
    simp only [stepCreate]
    obtain ⟨⟨hnone, hview⟩ | ⟨hsome, hbefore, hview⟩, hothers⟩ :=
      register_view system worker (system.record worker).instanceId
    · rw [if_neg (by simp [hnone])]
      refine moves_createFailed _ hpc (fun place hnext => ?_) hothers
      rw [hview]
      refine .goes ?_
      rw [hplace]
      exact goes_createFailed (Or.inr (Or.inl rfl)) hnext
    · rw [if_pos hsome]
      refine moves_here hpc (fun _ => by cases caller <;> rfl) ?_ fun other hne => ?_
      · rw [view_note_self rfl, hview]
        exact .register hplace hbefore
      · rw [view_note_other (by simpa [Event.worker?] using hne.symm), hothers other hne]
  | build =>
    simp only [stepCreate]
    cases choice.build with
    | error failure =>
      obtain ⟨errorNumber, createError⟩ := failure
      refine moves_createFailed _ hpc (fun place hnext => ?_) fun _ _ => rfl
      refine .goes ?_
      rw [hplace]
      exact goes_createFailed (Or.inr (Or.inr rfl)) hnext
    | ok boundPort =>
      refine moves_here hpc (fun _ => by cases caller <;> rfl) ?_ fun _ => view_setSlot_other
      rw [view_setSlot_self]
      exact .build boundPort hplace
  | store loop =>
    simp only [stepCreate]
    obtain ⟨pc, heq, hpc'⟩ := createReturned_none (system.setRecord worker
      { system.record worker with currentInstance := some loop, state := .starting }) worker caller
        port
    rw [heq]
    rcases hpc' with ⟨rfl, rfl⟩ | ⟨rfl, hnext, port', rfl⟩ | ⟨rfl, hlast, rfl⟩
    · refine moves_here hpc (fun _ => rfl) ?_ fun other hne => view_setRecord_other hne
      rw [view_setRecord_self]
      exact .store hplace (Or.inr ⟨rfl, rfl⟩)
    · refine moves_at worker (.record (worker + 1) (.create .startup port' .admission))
        (fun _ => ?_) (fun other hne => ?_) fun other hother hne => ?_
      · rw [view_goto, view_setRecord_self, place_other _ (by omega)]
        exact .store hplace (Or.inl ⟨rfl, Or.inl (by simp [Point.elsewhere])⟩)
      · rw [view_goto, view_setRecord_other hne]
      · rw [hpc, place_other _ hne]
        by_cases hhere : other = worker + 1
        · subst hhere
          rw [place_self]
          exact Or.inr (by simpa [Point.elsewhere] using .create port')
        · rw [place_other _ hhere]
          refine Or.inl ?_
          have : worker < other ↔ worker + 1 < other := by omega
          simp only [Point.elsewhere, this]
    · refine moves_at worker (.record 0 (.start .startup false)) (fun hworker => ?_)
        (fun other hne => ?_) fun other hother hne => ?_
      · rw [view_goto, view_setRecord_self]
        refine .store hplace (Or.inl ⟨rfl, ?_⟩)
        by_cases hzero : worker = 0
        · subst hzero
          exact Or.inr (place_self _)
        · refine Or.inl ?_
          rw [place_other _ hzero]
          simp [Point.elsewhere, Nat.pos_of_ne_zero hzero]
      · rw [view_goto, view_setRecord_other hne]
      · have hother' : other < system.config.workerCount := hother
        have hlast' : system.config.workerCount ≤ worker + 1 := hlast
        rw [hpc, place_other _ hne]
        have hcreated : (Point.create .startup port (.store loop)).elsewhere
            (decide (worker < other)) = .created := by
          have : ¬worker < other := by omega
          simp [Point.elsewhere, this]
        rw [hcreated]
        by_cases hzero : other = 0
        · subst hzero
          rw [place_self]
          exact Or.inr .start
        · rw [place_other _ hzero]
          exact Or.inl (by simp [Point.elsewhere, Nat.pos_of_ne_zero hzero])

/-! ### The start of a thread -/

theorem restartFailed_eq (system : System) (worker : Nat) (error : SupervisorStartupError) :
    ∃ pc, system.restartFailed worker error = system.goto pc ∧
      ((∀ worker, pc.place worker = .closing) ∨
        pc = .record worker (.beginFailure (creationFailure error))) := by
  unfold restartFailed
  split_ifs
  · exact ⟨_, rfl, Or.inl fun _ => rfl⟩
  · exact ⟨_, rfl, Or.inr rfl⟩

/-- `start_worker_thread` fails. -/
theorem startReturned_error (system : System) (worker : Nat) (caller : Caller)
    (error : SupervisorStartupError) :
    ∃ pc, system.startReturned worker caller (some error) = system.goto pc ∧
      ((∀ worker, pc.place worker = .closing) ∨
        caller = .restart ∧ pc = .record worker (.beginFailure (creationFailure error))) := by
  cases caller with
  | startup =>
    obtain ⟨pc, heq, hclosing⟩ := startupFailed_eq system error
    exact ⟨pc, heq, Or.inl hclosing⟩
  | restart =>
    obtain ⟨pc, heq, hclosing | hpc⟩ := restartFailed_eq system worker error
    · exact ⟨pc, heq, Or.inl hclosing⟩
    · exact ⟨pc, heq, Or.inr ⟨rfl, hpc⟩⟩

/-- `start_worker_thread` is cancelled. -/
theorem startReturned_cancelled (system : System) (worker : Nat) (caller : Caller) :
    ∃ pc, system.startReturned worker caller (some cancelledStartup) = system.goto pc ∧
      ∀ worker, pc.place worker = .closing := by
  cases caller with
  | startup => exact startupFailed_eq system _
  | restart => exact ⟨_, rfl, fun _ => rfl⟩

/-- `start_worker_thread` has started the thread. -/
theorem moves_started {system₁ : System} {caller : Caller} {spawning : Bool}
    (hpc : system.pc = .record worker (.start caller spawning))
    (hcount : system₁.config.workerCount = system.config.workerCount)
    (hself : ∀ place, (caller = .startup ∧ place = .starting ∨ caller = .restart ∧ place = .away) →
      Move system.config.recovery worker system.shared.stopRequestedLocked
        (system.view worker) ((system₁.view worker).goto place))
    (hviews : ∀ other ≠ worker, system₁.view other = system.view other) :
    system.Moves (system₁.startReturned worker caller none) := by
  cases caller with
  | restart =>
    exact moves_back .monitorTop hpc (fun _ => rfl) (fun _ => rfl)
      (hself _ (Or.inr ⟨rfl, rfl⟩)) hviews
  | startup =>
    by_cases hnext : worker + 1 < system₁.config.workerCount
    · simp only [startReturned, if_pos hnext]
      refine moves_at worker (.record (worker + 1) (.start .startup false))
        (fun _ => ?_) (fun other hne => ?_) fun other _ hne => ?_
      · rw [view_goto, place_other _ (by omega)]
        exact hself _ (Or.inl ⟨rfl, by simp [Point.elsewhere]⟩)
      · rw [view_goto, hviews other hne]
      · rw [hpc, place_other _ hne]
        by_cases hhere : other = worker + 1
        · subst hhere
          rw [place_self]
          exact Or.inr (by simpa [Point.elsewhere] using .start)
        · rw [place_other _ hhere]
          have : worker < other ↔ worker + 1 < other := by omega
          exact Or.inl (by simp only [Point.elsewhere, this])
    · simp only [startReturned, if_neg hnext]
      refine moves_at worker .readinessTop (fun _ => ?_) (fun other hne => ?_)
        fun other hother hne => ?_
      · rw [view_goto]
        exact hself _ (Or.inl ⟨rfl, rfl⟩)
      · rw [view_goto, hviews other hne]
      · have hlater : ¬worker < other := by omega
        rw [hpc, place_other _ hne]
        exact Or.inl (by simp [Point.elsewhere, hlater, Pc.place])

theorem stepStart_moves {caller : Caller} {spawning : Bool}
    (hpc : system.pc = .record worker (.start caller spawning)) :
    system.Moves (system.stepStart worker caller spawning choice) := by
  have hplace := view_place hpc
  cases spawning with
  | false =>
    simp only [stepStart, Bool.false_eq_true, if_false]
    split_ifs
    · exact thrown_moves (by rw [hpc]; rfl)
    · obtain ⟨pc, heq, hclosing⟩ := startReturned_cancelled system worker caller
      rw [heq]
      exact moves_giveUp _ (by rw [hpc]; rfl) hclosing fun _ => rfl
    · refine moves_here hpc (fun _ => by cases caller <;> rfl) (.goes ?_) fun _ _ => rfl
      rw [hplace]
      exact .spawning caller
  | true =>
    simp only [stepStart, if_true]
    cases choice.threadError with
    | some errorNumber =>
      dsimp only
      have hfailed : ∀ place, (place = .closing ∨
          ∃ error, place = .here (.beginFailure (creationFailure error))) →
          Move system.config.recovery worker system.shared.stopRequestedLocked (system.view worker)
            (((system.setRecord worker { system.record worker with
              observer := (system.record worker).instanceId }).view worker).goto place) := by
        intro place hnext
        rw [view_setRecord_self]
        exact .threadFailed hplace hnext
      obtain ⟨pc, heq, hclosing | ⟨rfl, rfl⟩⟩ := startReturned_error (system.setRecord worker
        { system.record worker with observer := (system.record worker).instanceId }) worker caller
        { system.createError worker .workerThreadStartFailed with errorNumber := errorNumber }
      · rw [heq]
        exact moves_leave _ hpc hclosing (hfailed _ (Or.inl rfl)) fun _ => view_setRecord_other
      · rw [heq]
        exact moves_here hpc (fun _ => rfl) (hfailed _ (Or.inr ⟨_, rfl⟩))
          fun _ => view_setRecord_other
    | none =>
      refine moves_started hpc rfl (fun place hnext => ?_) fun other hne => view_setSlot_other hne
      rw [view_setSlot_self]
      exact .thread hplace hnext

/-! ### The startup -/

theorem markWorkerRegistered_false {publication : FilterPublicationState} {instanceId : Nat}
    (h : (publication.markWorkerRegistered worker instanceId).1 = false) :
    (publication.markWorkerRegistered worker instanceId).2 = publication := by
  simp only [FilterPublicationState.markWorkerRegistered] at h ⊢
  split_ifs at h ⊢
  · rfl
  · rfl

/-- Marking a worker touches the registration state of its epoch alone. -/
theorem markWorkerRegistered_keeps (publication : FilterPublicationState)
    (worker instanceId other : Nat) :
    registeredIn (publication.markWorkerRegistered worker instanceId).2 other =
        registeredIn publication other ∧
      ((publication.markWorkerRegistered worker instanceId).2.epochs other).publishedInstanceId =
        (publication.epochs other).publishedInstanceId ∧
      ((publication.markWorkerRegistered worker instanceId).2.epochs
          other).quiescedThroughInstanceId =
        (publication.epochs other).quiescedThroughInstanceId ∧
      (other ≠ worker →
        (publication.markWorkerRegistered worker instanceId).2.epochs other =
          publication.epochs other) := by
  simp only [FilterPublicationState.markWorkerRegistered]
  split_ifs
  · exact ⟨rfl, rfl, rfl, fun _ => rfl⟩
  · exact ⟨rfl, rfl, rfl, fun _ => rfl⟩
  · refine ⟨rfl, ?_, ?_, fun hne => ?_⟩
    · by_cases hne : other = worker
      · subst hne
        simp [FilterPublicationState.setEpoch]
      · simp [FilterPublicationState.setEpoch, hne]
    · by_cases hne : other = worker
      · subst hne
        simp [FilterPublicationState.setEpoch]
      · simp [FilterPublicationState.setEpoch, hne]
    · simp [FilterPublicationState.setEpoch, hne]

theorem markRegistered_false (h : (system.markRegistered worker).1 = false) :
    (system.markRegistered worker).2 = system := by
  unfold markRegistered at h ⊢
  dsimp only at h ⊢
  rw [markWorkerRegistered_false h]

theorem markRegistered_view (system : System) (worker other : Nat) :
    (system.markRegistered worker).2.view other = { system.view other with
      epoch := ((system.markRegistered worker).2.view other).epoch } := by
  obtain ⟨hregistered, -, -, -⟩ := markWorkerRegistered_keeps system.publication.publication worker
    (system.record worker).instanceId other
  unfold markRegistered
  dsimp only
  rw [view_publication, hregistered]
  rfl

theorem markRegistered_other (system : System) (hne : other ≠ worker) :
    (system.markRegistered worker).2.view other = system.view other := by
  obtain ⟨hregistered, -, -, hsame⟩ := markWorkerRegistered_keeps system.publication.publication
    worker (system.record worker).instanceId other
  unfold markRegistered
  rw [view_publication]
  dsimp only
  rw [hregistered, hsame hne]
  rfl

/-- The epoch of a worker that is marked. -/
theorem markRegistered_epoch (system : System) (worker : Nat) :
    ((system.markRegistered worker).2.view worker).epoch.publishedInstanceId =
        (system.view worker).epoch.publishedInstanceId ∧
      ((system.markRegistered worker).2.view worker).epoch.quiescedThroughInstanceId =
        (system.view worker).epoch.quiescedThroughInstanceId := by
  obtain ⟨-, hpublished, hquiesced, -⟩ := markWorkerRegistered_keeps
    system.publication.publication worker (system.record worker).instanceId worker
  exact ⟨hpublished, hquiesced⟩

/-- The state and the epoch of a record change together. -/
theorem markRegistered_setRecord (system : System) (worker : Nat) (record : WorkerRecord) :
    ((system.markRegistered worker).2.setRecord worker record).view worker =
      { (system.view worker).put record with
        epoch := ((system.markRegistered worker).2.view worker).epoch } := by
  rw [view_setRecord_self, markRegistered_view]
  rfl

theorem stepReadiness_moves (hpc : system.pc = .record worker .readiness) :
    system.Moves (system.stepReadiness worker) := by
  have hplace := view_place hpc
  unfold stepReadiness
  dsimp only
  by_cases hlast : system.config.workerCount ≤ worker
  · rw [if_pos hlast]
    have hwaiting : ∀ other < system.config.workerCount,
        system.pc.place other = .starting := by
      intro other hother
      rw [hpc, place_other _ (by omega)]
      rfl
    split_ifs with hall
    · refine moves_goto _ (fun _ => rfl) fun other hother => Or.inr ?_
      rw [hwaiting other hother]
      exact .allReady (of_decide_eq_true
        (List.all_eq_true.mp hall other (List.mem_range.mpr hother)))
    · refine moves_goto _ (fun _ => rfl) fun other hother => Or.inl ?_
      rw [hwaiting other hother]
      rfl
  rw [if_neg hlast]
  have hnext : system.Moves (system.goto (.record (worker + 1) .readiness)) := by
    refine moves_pass hpc (fun _ => rfl) (fun _ => rfl) (fun _ => .readiness) (.goes ?_)
      fun _ _ => rfl
    rw [hplace]
    exact .starting
  split_ifs with hready hreported houtcome hcompleted
  · exact hnext
  · exact moves_giveUp _ (by rw [hpc]; rfl) (fun _ => rfl) fun _ => rfl
  · cases hmarked : (system.goto (.record (worker + 1) .readiness)).markRegistered worker with
    | mk marked next =>
      have hafter : next = (system.markRegistered worker).2.goto
        (.record (worker + 1) .readiness) :=
        (congrArg Prod.snd hmarked).symm
      cases marked with
      | false =>
        have hsame := markRegistered_false (congrArg Prod.fst hmarked)
        rw [hmarked] at hsame
        dsimp only at hsame ⊢
        rw [hsame]
        exact hnext
      | true =>
        dsimp only
        obtain ⟨hpublished, hquiesced⟩ := markRegistered_epoch system worker
        rw [hafter]
        refine @moves_pass _ _ ((system.markRegistered worker).2.setRecord worker _) _ _ _ hpc
          (fun _ => rfl) (fun _ => rfl) (fun _ => .readiness) ?_ fun other hne => ?_
        · rw [markRegistered_setRecord]
          exact .markReady hplace hreported (not_not.mp houtcome) hpublished hquiesced
        · rw [view_setRecord_other hne, markRegistered_other _ hne]
  · refine moves_leave (.publishing _ _ (.stop _ _)) hpc (fun _ => rfl) ?_
      fun _ => view_setRecord_other
    rw [view_setRecord_self]
    exact .exited hplace (Or.inl rfl) hcompleted
  · exact hnext

/-- A sweep that has passed the last worker leaves every one of them activating. -/
theorem activating_of_last {point : Point} (hpc : system.pc = .record worker point)
    (helsewhere : point.elsewhere false = .activating)
    (hlast : system.config.workerCount ≤ worker) :
    ∀ other < system.config.workerCount, system.pc.place other = .activating := by
  intro other hother
  have hbefore : other < worker := Nat.lt_of_lt_of_le hother hlast
  rw [hpc, place_other _ (Nat.ne_of_lt hbefore), decide_eq_false (Nat.lt_asymm hbefore)]
  exact helsewhere

theorem stepActivationExits_moves (hpc : system.pc = .record worker .activationExits) :
    system.Moves (system.stepActivationExits worker) := by
  have hplace := view_place hpc
  unfold stepActivationExits
  dsimp only
  by_cases hlast : system.config.workerCount ≤ worker
  · rw [if_pos hlast]
    have hwaiting := activating_of_last hpc rfl hlast
    split_ifs with hrequested
    · exact moves_enter hwaiting rfl (fun _ => .marks) fun _ => rfl
    · refine moves_goto _ (fun _ => rfl) fun other hother => Or.inl ?_
      rw [hwaiting other hother]
      rfl
  rw [if_neg hlast]
  split_ifs with hcompleted
  · refine moves_leave (.publishing _ _ (.activationFailed _)) hpc (fun _ => rfl) ?_
      fun _ => view_setRecord_other
    rw [view_setRecord_self]
    exact .exited hplace (Or.inr rfl) hcompleted
  · refine moves_pass hpc (fun _ => rfl) (fun _ => rfl) (fun _ => .exits) (.goes ?_)
      fun _ _ => rfl
    rw [hplace]
    exact .activating (Or.inl rfl)

theorem stepActivationMarks_moves (hpc : system.pc = .record worker .activationMarks) :
    system.Moves (system.stepActivationMarks worker) := by
  have hplace := view_place hpc
  unfold stepActivationMarks
  dsimp only
  by_cases hlast : system.config.workerCount ≤ worker
  · rw [if_pos hlast]
    have hwaiting := activating_of_last hpc rfl hlast
    split_ifs with hall
    · refine moves_goto _ (fun _ => rfl) fun other hother => Or.inr ?_
      rw [hwaiting other hother]
      exact .leave rfl rfl rfl
    · refine moves_goto _ (fun _ => rfl) fun other hother => Or.inl ?_
      rw [hwaiting other hother]
      rfl
  rw [if_neg hlast]
  have hnext : system.Moves (system.goto (.record (worker + 1) .activationMarks)) := by
    refine moves_pass hpc (fun _ => rfl) (fun _ => rfl) (fun _ => .marks) (.goes ?_)
      fun _ _ => rfl
    rw [hplace]
    exact .activating (Or.inr rfl)
  split_ifs with hrunning hactivated
  · exact hnext
  · refine @moves_pass _ _ (system.setRecord worker _) _ _ _ hpc (fun _ => rfl) (fun _ => rfl)
      (fun _ => .marks) ?_ fun _ => view_setRecord_other
    rw [view_setRecord_self]
    exact .markRunning hplace hactivated
  · exact hnext

theorem stepActivationFailed_moves {error : Service.SupervisorActivationError}
    (hpc : system.pc = .activationFailed error) :
    system.Moves (system.stepActivationFailed error) := by
  unfold stepActivationFailed
  split_ifs <;> exact moves_giveUp _ (by rw [hpc]; rfl) (fun _ => rfl) fun _ => rfl

/-! ### Monitoring -/

theorem stepMonitorTop_moves (hpc : system.pc = .monitorTop) :
    system.Moves (system.stepMonitorTop choice) := by
  have hwaiting : ∀ worker < system.config.workerCount, system.pc.place worker = .away := by
    intro worker _
    rw [hpc]
    rfl
  unfold stepMonitorTop
  split_ifs
  · exact thrown_moves (by rw [hpc]; rfl)
  · exact moves_giveUp _ (by rw [hpc]; rfl) (fun _ => rfl) fun _ => rfl
  · cases choice.refreshFailure with
    | none => exact moves_enter hwaiting rfl (fun _ => .monitor) fun _ => rfl
    | some failure =>
      obtain ⟨worker, errorNumber⟩ := failure
      dsimp only
      split_ifs
      · exact moves_giveUp _ (by rw [hpc]; rfl) (fun _ => rfl) fun _ => rfl
      · exact moves_enter hwaiting rfl (fun _ => .monitor) fun _ => rfl
  · exact moves_enter hwaiting rfl (fun _ => .monitor) fun _ => rfl

/-- The control thread goes from one point of the monitor to another. -/
theorem moves_monitor {point point' : Point} (hpc : system.pc = .record worker point)
    (hplace : ∀ later, point.elsewhere later = .away)
    (hplace' : ∀ later, point'.elsewhere later = .away)
    (hgoes : Goes (system.view worker) (.here point) (.here point')) :
    system.Moves (system.goto (.record worker point')) := by
  refine moves_here hpc (fun later => by rw [hplace, hplace']) (.goes ?_) fun _ _ => rfl
  rw [view_place hpc]
  exact hgoes

/-- The pass of the monitor is broken off. -/
theorem moves_break {point : Point} (hpc : system.pc = .record worker point)
    (hplace : ∀ later, point.elsewhere later = .away)
    (hstoring : (Place.here point).storing = false)
    (hdown : (Place.here point).windingDown = false)
    (hfailing : (Place.here point).failing = false) :
    system.Moves (system.goto .monitorTop) := by
  refine moves_back .monitorTop hpc hplace (fun _ => rfl) (.goes ?_) fun _ _ => rfl
  rw [view_place hpc]
  exact .leave hstoring hdown hfailing

/-- The pass of the monitor goes on. -/
theorem moves_nextMonitor {point : Point} (hpc : system.pc = .record worker point)
    (hplace : ∀ later, point.elsewhere later = .away)
    (hstoring : (Place.here point).storing = false)
    (hdown : (Place.here point).windingDown = false)
    (hfailing : (Place.here point).failing = false) :
    system.Moves (system.goto (.record (worker + 1) .monitor)) := by
  refine moves_pass hpc hplace (fun _ => rfl) (fun _ => .monitor) (.goes ?_) fun _ _ => rfl
  rw [view_place hpc]
  exact .leave hstoring hdown hfailing

theorem stepMonitor_moves (hpc : system.pc = .record worker .monitor) :
    system.Moves (system.stepMonitor worker) := by
  unfold stepMonitor
  dsimp only
  split_ifs with hlast hready
  · exact moves_break hpc (fun _ => rfl) rfl rfl rfl
  all_goals
    cases hfailure : (system.record worker).observedFailure worker with
    | some failure =>
      exact moves_monitor hpc (fun _ => rfl) (fun _ => rfl) (.failure hfailure)
    | none => ?_
  · exact moves_monitor hpc (fun _ => rfl) (fun _ => rfl) (.ready hfailure hready.1 hready.2)
  · exact moves_monitor hpc (fun _ => rfl) (fun _ => rfl) .checkActivated

theorem stepReadyPoint_moves (hpc : system.pc = .record worker .readyPoint) :
    system.Moves (system.stepReadyPoint worker) := by
  have hplace := view_place hpc
  unfold stepReadyPoint
  dsimp only
  split_ifs with hstop hcompletion
  · exact moves_giveUp _ (by rw [hpc]; rfl) (fun _ => rfl) fun _ => rfl
  · exact moves_break hpc (fun _ => rfl) rfl rfl rfl
  cases hmarked : system.markRegistered worker with
  | mk marked next =>
    have hafter : next = (system.markRegistered worker).2 := (congrArg Prod.snd hmarked).symm
    cases marked with
    | false =>
      rw [hafter, markRegistered_false (congrArg Prod.fst hmarked)]
      exact moves_nextMonitor hpc (fun _ => rfl) rfl rfl rfl
    | true =>
      obtain ⟨hpublished, hquiesced⟩ := markRegistered_epoch system worker
      dsimp only
      rw [hafter]
      refine moves_here hpc (fun _ => rfl) ?_ fun other hne => ?_
      · rw [markRegistered_setRecord]
        exact .ready hplace (Bool.eq_false_of_not_eq_true hstop)
          (Bool.eq_false_of_not_eq_true hcompletion) hpublished hquiesced
      · rw [view_setRecord_other hne, markRegistered_other _ hne]

theorem stepCheckActivated_moves (hpc : system.pc = .record worker .checkActivated) :
    system.Moves (system.stepCheckActivated worker) := by
  unfold stepCheckActivated
  dsimp only
  split_ifs with hactivated
  · exact moves_monitor hpc (fun _ => rfl) (fun _ => rfl) (.activated hactivated.1 hactivated.2)
  · exact moves_monitor hpc (fun _ => rfl) (fun _ => rfl) .checkStable

theorem stepActivatedPoint_moves (hpc : system.pc = .record worker .activatedPoint) :
    system.Moves (system.stepActivatedPoint worker system.clock) := by
  have hplace := view_place hpc
  unfold stepActivatedPoint
  dsimp only
  split_ifs with hstop hcompletion
  · exact moves_giveUp _ (by rw [hpc]; rfl) (fun _ => rfl) fun _ => rfl
  · exact moves_break hpc (fun _ => rfl) rfl rfl rfl
  · refine moves_here hpc (fun _ => rfl) ?_ fun other hne => ?_
    · rw [view_note_self rfl, view_setHealth, view_setRecord_self]
      exact .activate hplace (Bool.eq_false_of_not_eq_true hstop)
        (Bool.eq_false_of_not_eq_true hcompletion)
    · rw [view_note_other (by simpa [Event.worker?] using hne.symm), view_setHealth,
        view_setRecord_other hne]

theorem stepCheckStable_moves (hpc : system.pc = .record worker .checkStable) :
    system.Moves (system.stepCheckStable worker system.clock) := by
  have hplace := view_place hpc
  unfold stepCheckStable
  dsimp only
  by_cases hexited : (system.record worker).state = .running ∧
      (system.record worker).completion.published = true
  · rw [if_pos hexited]
    exact moves_break hpc (fun _ => rfl) rfl rfl rfl
  rw [if_neg hexited]
  by_cases hstable : (system.record worker).isStable system.clock = true
  · -- a stable instance is `Running`, so the record has no restart to wait for
    have hrunning : (system.record worker).state = .running := by
      simp only [WorkerRecord.isStable, Bool.and_eq_true, beq_iff_eq] at hstable
      exact hstable.1.1
    rw [if_pos hstable, if_pos (Or.inl (by rw [hrunning]; decide))]
    refine @moves_pass _ _ ((system.setRecord worker _).note _) _ _ _ hpc (fun _ => rfl)
      (fun _ => rfl) (fun _ => .monitor) ?_ fun other hne => ?_
    · rw [view_note_self rfl, view_setRecord_self]
      exact .stable hplace
        (Bool.eq_false_of_not_eq_true fun hcompletion => hexited ⟨hrunning, hcompletion⟩) hstable
    · rw [view_note_other (by simpa [Event.worker?] using hne.symm), view_setRecord_other hne]
  · rw [if_neg hstable]
    split_ifs with hwaiting
    · exact moves_nextMonitor hpc (fun _ => rfl) rfl rfl rfl
    · simp only [not_or, not_not, not_lt] at hwaiting
      exact moves_monitor hpc (fun _ => rfl) (fun _ => rfl) (.due _ hwaiting.1 hwaiting.2)

/-! ### Failures -/

theorem stepBeginFailure_moves {failure : WorkerFailure}
    (hpc : system.pc = .record worker (.beginFailure failure)) :
    system.Moves (system.stepBeginFailure worker failure) := by
  have hplace := view_place hpc
  unfold stepBeginFailure
  dsimp only
  by_cases hstop : system.shared.stopRequestedLocked = true
  · rw [if_pos hstop]
    exact moves_giveUp _ (by rw [hpc]; rfl) (fun _ => rfl) fun _ => rfl
  rw [if_neg hstop]
  refine moves_here hpc (fun _ => rfl) ?_ fun other hne => ?_
  · rw [view_noteIf_self rfl, view_noteIf_self rfl, view_setHealth, view_setRecord_self]
    exact .beginFailure hplace (Bool.eq_false_of_not_eq_true hstop)
  · have hevent : ∀ event : Event, event.worker? = some worker → event.worker? ≠ some other := by
      intro event hworker hother
      rw [hworker] at hother
      exact hne (Option.some.inj hother).symm
    rw [view_noteIf_other (hevent _ rfl), view_noteIf_other (hevent _ rfl), view_setHealth,
      view_setRecord_other hne]

/-- The service is failed over a record. -/
theorem moves_fail {system₁ : System} {point : Point} {failure : WorkerFailure}
    (hpc : system.pc = .record worker point)
    (hself : Move system.config.recovery worker system.shared.stopRequestedLocked
      (system.view worker) ((system₁.view worker).goto (.here (.fail failure))))
    (hviews : ∀ other ≠ worker, system₁.view other = system.view other) :
    system.Moves (system₁.goto (.record worker (.fail failure))) := by
  refine moves_at worker (.record worker (.fail failure)) (fun _ => ?_)
    (fun other hne => ?_) fun other _ hne => Or.inr ?_
  · rw [view_goto, place_self]
    exact hself
  · rw [view_goto, hviews other hne]
  · rw [hpc, place_other _ hne, place_other _ hne]
    exact .giveUp (elsewhere_storing _ _)

@[simp] theorem keepResult_recovery (record : WorkerRecord) (failure : WorkerFailure) :
    (record.keepResult failure).recoveryEpisode = record.recoveryEpisode ∧
      (record.keepResult failure).recoveryAttempts = record.recoveryAttempts ∧
      (record.keepResult failure).nextBackoff = record.nextBackoff := by
  unfold WorkerRecord.keepResult
  split_ifs <;> exact ⟨rfl, rfl, rfl⟩

theorem stepDecide_moves {failure : WorkerFailure}
    (hpc : system.pc = .record worker (.decide failure)) :
    system.Moves (system.stepDecide worker failure system.clock) := by
  have hplace := view_place hpc
  obtain ⟨hepisode, hattempts, hbackoff⟩ := keepResult_recovery (system.record worker) failure
  unfold stepDecide
  dsimp only
  by_cases hstop : system.shared.stopRequestedLocked = true
  · rw [if_pos (by exact hstop)]
    refine moves_leave (.stopping _ _) hpc (fun _ => rfl) ?_ fun _ => view_setRecord_other
    rw [view_setRecord_self]
    exact .decided hplace (Or.inl rfl)
  rw [if_neg (by exact hstop)]
  -- what was decided does not depend on the result that is kept
  have hrestart : ((system.record worker).keepResult failure).restartable system.config.recovery
      system.shared.dataPlaneReleased failure =
        (system.view worker).record.restartable system.config.recovery
          (system.view worker).released failure := by
    rw [WorkerRecord.restartable, hepisode]
    rfl
  have hfail : ∀ failure', (∀ place, place = .here (.fail failure') →
      Move system.config.recovery worker system.shared.stopRequestedLocked (system.view worker)
        (((system.view worker).put ((system.record worker).keepResult failure)).goto place)) →
      system.Moves ((system.setRecord worker ((system.record worker).keepResult failure)).goto
        (.record worker (.fail failure'))) := by
    intro failure' hself
    refine moves_fail hpc ?_ fun _ => view_setRecord_other
    rw [view_setRecord_self]
    exact hself _ rfl
  split_ifs with hrestartable hbudget
  · rw [setRecord_shared, setRecord_config, hrestart] at hrestartable
    refine moves_back .monitorTop hpc (fun _ => rfl) (fun _ => rfl) ?_ fun other hne => ?_
    · rw [view_note_self rfl, view_setRecord_self, view_setRecord_self, hbackoff]
      refine .schedule hplace (Bool.eq_false_of_not_eq_true hstop) hrestartable ?_
      rw [hattempts] at hbudget
      exact hbudget
    · rw [view_note_other (by simpa [Event.worker?] using hne.symm), view_setRecord_other hne,
        view_setRecord_other hne]
  · rw [setRecord_shared, setRecord_config, hrestart] at hrestartable
    rw [hattempts] at hbudget
    exact hfail _ fun place heq =>
      .decided hplace (Or.inr (Or.inl ⟨heq, hrestartable, Nat.le_of_not_lt hbudget⟩))
  · rw [setRecord_shared, setRecord_config, hrestart] at hrestartable
    exact hfail _ fun place heq =>
      .decided hplace (Or.inr (Or.inr ⟨heq, Bool.eq_false_of_not_eq_true hrestartable⟩))

theorem stepFail_moves {failure : WorkerFailure}
    (hpc : system.pc = .record worker (.fail failure)) :
    system.Moves (system.stepFail worker failure) := by
  unfold stepFail
  refine moves_here hpc (fun _ => rfl) (.goes ?_) fun _ _ => rfl
  rw [view_place hpc]
  exact .report failure _

theorem stepReport_moves {failure : WorkerFailure} {reports : Bool}
    (hpc : system.pc = .record worker (.report failure reports)) :
    system.Moves (system.stepReport failure reports) := by
  unfold stepReport
  refine moves_giveUp (.stopping _ _) (by rw [hpc]; rfl) (fun _ => rfl) fun worker => ?_
  rw [view_noteIf_other (by simp [Event.worker?]), view_publishHealth]

/-! ### Joins -/

/-- `join_and_reset_all` goes on to the next record. -/
theorem moves_nextJoin {system₁ : System} {caller caller' : JoinCaller} {point : JoinPoint}
    (hpc : system.pc = .record worker (.join caller point))
    (hclosing : ∀ later, (Point.join caller point).elsewhere later = .closing)
    (hclosing' : ∀ later, (Point.join caller' .request).elsewhere later = .closing)
    (hdown : (Place.here (.join caller' .request)).windingDown = true)
    (hself : Move system.config.recovery worker system.shared.stopRequestedLocked
      (system.view worker) ((system₁.view worker).goto .closing))
    (hviews : ∀ other ≠ worker, system₁.view other = system.view other) :
    system.Moves (system₁.goto (.record (worker + 1) (.join caller' .request))) :=
  moves_pass hpc hclosing hclosing' (fun _ => .join hdown) hself hviews

/-- `join_and_reset` returns to a caller that joins every record. -/
theorem moves_joinReturned {system₁ : System} {caller : JoinCaller} {point : JoinPoint}
    (success : Bool) (hpc : system.pc = .record worker (.join caller point))
    (hcaller : ∀ failure, caller ≠ .failure failure)
    (hself : Move system.config.recovery worker system.shared.stopRequestedLocked
      (system.view worker) ((system₁.view worker).goto .closing))
    (hviews : ∀ other ≠ worker, system₁.view other = system.view other) :
    system.Moves (system₁.joinReturned worker success caller) := by
  cases caller with
  | failure failure => exact absurd rfl (hcaller failure)
  | all joined checked result =>
    simp only [joinReturned]
    split_ifs
    · exact moves_nextJoin hpc (fun _ => rfl) (fun _ => rfl) rfl hself hviews
    · exact moves_leave _ hpc (fun _ => rfl) hself hviews
  | emergency joined =>
    simp only [joinReturned]
    split_ifs
    · exact moves_nextJoin hpc (fun _ => rfl) (fun _ => rfl) rfl hself hviews
    · exact moves_leave _ hpc (fun _ => rfl) hself hviews

/-- `join_and_reset` fails. -/
theorem moves_joinFails {system₁ : System} {caller : JoinCaller} {point : JoinPoint}
    (hpc : system.pc = .record worker (.join caller point))
    (hself : ∀ place, (place = .closing ∨ ∃ failure, caller = .failure failure ∧
        place = .here (.fail { failure with code := .joinFailed })) →
      Move system.config.recovery worker system.shared.stopRequestedLocked (system.view worker)
        (((system₁.view worker).note
          (.joinFailed worker (system₁.record worker).instanceId)).goto place))
    (hviews : ∀ other ≠ worker, system₁.view other = system.view other) :
    system.Moves (system₁.joinFails worker caller) := by
  have hothers : ∀ other ≠ worker, (system₁.note
      (.joinFailed worker (system₁.record worker).instanceId)).view other = system.view other := by
    intro other hne
    rw [view_note_other (by simpa [Event.worker?] using hne.symm), hviews other hne]
  unfold joinFails
  cases caller with
  | failure failure =>
    refine moves_fail hpc ?_ hothers
    rw [view_note_self rfl]
    exact hself _ (Or.inr ⟨_, rfl, rfl⟩)
  | all joined checked result =>
    refine moves_joinReturned false hpc (fun _ hno => by cases hno) ?_ hothers
    rw [view_note_self rfl]
    exact hself _ (Or.inl rfl)
  | emergency joined =>
    refine moves_joinReturned false hpc (fun _ hno => by cases hno) ?_ hothers
    rw [view_note_self rfl]
    exact hself _ (Or.inl rfl)

/-- `quiesce_worker` touches one worker. -/
theorem quiesceWorker_other (publication : FilterPublicationState) (instanceId : Nat)
    (hne : other ≠ worker) :
    registeredIn (publication.quiesceWorker worker instanceId) other =
        registeredIn publication other ∧
      (publication.quiesceWorker worker instanceId).epochs other = publication.epochs other := by
  unfold FilterPublicationState.quiesceWorker
  dsimp only
  split_ifs
  · constructor
    · simp only [registeredIn, FilterPublicationState.setEpoch, Function.update_of_ne hne]
      rfl
    · simp only [FilterPublicationState.setEpoch, Function.update_of_ne hne]
  · exact ⟨rfl, rfl⟩

theorem quiesceWorker_self (publication : FilterPublicationState) (worker instanceId : Nat) :
    (registeredIn publication worker = true ∧
        (publication.epochs worker).publishedInstanceId = instanceId ∧
        registeredIn (publication.quiesceWorker worker instanceId) worker = false ∧
        (publication.quiesceWorker worker instanceId).epochs worker =
          { publication.epochs worker with
            quiescedThroughInstanceId := instanceId
            registrationState := .unregistered }) ∨
      (¬(registeredIn publication worker = true ∧
          (publication.epochs worker).publishedInstanceId = instanceId) ∧
        registeredIn (publication.quiesceWorker worker instanceId) worker =
          registeredIn publication worker ∧
        (publication.quiesceWorker worker instanceId).epochs worker = publication.epochs worker) := by
  unfold FilterPublicationState.quiesceWorker
  dsimp only
  split_ifs with hguard
  · obtain ⟨hworker, hregistry, hpublished⟩ := hguard
    refine Or.inl ⟨by simp [registeredIn, hworker, hregistry], hpublished, ?_, ?_⟩
    · simp [registeredIn, FilterPublicationState.setEpoch]
    · simp [FilterPublicationState.setEpoch]
  · refine Or.inr ⟨fun hboth => hguard ?_, rfl, rfl⟩
    simp only [registeredIn, Bool.and_eq_true, decide_eq_true_eq] at hboth
    exact ⟨hboth.1.1, hboth.1.2, hboth.2⟩

theorem stepJoin_moves {caller : JoinCaller} {point : JoinPoint} {next : System}
    (hpc : system.pc = .record worker (.join caller point))
    (hstep : system.stepJoin worker caller choice point = some next) : system.Moves next := by
  have hplace := view_place hpc
  have hsame : ∀ point' later, (Point.join caller point').elsewhere later =
      (Point.join caller point).elsewhere later := by
    intro point' later
    cases caller <;> rfl
  cases point with
  | request =>
    simp only [stepJoin] at hstep
    split_ifs at hstep
    · obtain rfl := Option.some.inj hstep
      refine moves_joinFails hpc (fun place hnext => ?_) fun _ => view_setRecord_other
      have hid : ((system.setRecord worker { system.record worker with
          instanceStop := true }).record worker).instanceId =
            (system.view worker).record.instanceId := by
        rw [setRecord_record]
        rfl
      rw [view_setRecord_self, hid]
      exact .joinFailed true hplace hnext
    · obtain rfl := Option.some.inj hstep
      refine moves_here hpc (hsame _) ?_ fun other hne => ?_
      · rw [view_setRecord_self, view_setRecord_self, setRecord_record]
        exact .joinRequest hplace
      · rw [view_setRecord_other hne, view_setRecord_other hne]
  | join =>
    simp only [stepJoin] at hstep
    split_ifs at hstep with hthread hthrows hexited
    · obtain rfl := Option.some.inj hstep
      exact moves_joinFails hpc (fun place hnext => .joinFailed (system.record worker).instanceStop
        hplace hnext) fun _ _ => rfl
    · obtain rfl := Option.some.inj hstep
      refine moves_here hpc (hsame _) ?_ fun _ => view_setSlot_other
      rw [view_setSlot_self]
      exact .joined hplace
    · obtain rfl := Option.some.inj hstep
      refine moves_here hpc (hsame _) (.goes ?_) fun _ _ => rfl
      rw [hplace]
      exact .noThread (Bool.eq_false_of_not_eq_true hthread)
  | record =>
    obtain rfl := Option.some.inj hstep
    refine moves_here hpc (hsame _) ?_ fun _ => view_setRecord_other
    rw [view_setRecord_self]
    exact .recordJoin hplace
  | reset =>
    obtain rfl := Option.some.inj hstep
    have hviews : ∀ other, (if (system.record worker).currentInstance.isSome then
        system.dropSnapshot worker else system).view other = system.view other := by
      intro other
      split_ifs <;> rfl
    refine moves_here hpc (hsame _) ?_ fun other hne => ?_
    · rw [view_setSlot_self, hviews]
      exact .reset hplace
    · rw [view_setSlot_other hne, hviews]
  | quiesce =>
    obtain rfl := Option.some.inj hstep
    refine @moves_here _ _ (({ system with
        publication := { system.publication with
          publication := (system.publication.publication.quiesceWorker worker
            (system.record worker).instanceId).publishProgress } } : System).note
              (.quiesced worker (system.record worker).instanceId)) _ _ hpc (hsame _) ?_
      fun other hne => ?_
    · rw [view_note_self rfl, view_publication]
      exact .quiesce hplace (quiesceWorker_self _ _ _)
    · obtain ⟨hregistered, hepochs⟩ := quiesceWorker_other system.publication.publication
        (system.record worker).instanceId hne
      rw [view_note_other (by simpa [Event.worker?] using hne.symm), view_publication]
      exact congrArg₂ (fun registered epoch =>
        ({ system.view other with registered := registered, epoch := epoch } : View))
          hregistered hepochs
  | offline =>
    obtain rfl := Option.some.inj hstep
    have hself : ∀ place, (place = .closing ∨ ∃ failure, caller = .failure failure ∧
          place = .here (.decide failure)) →
        Move system.config.recovery worker system.shared.stopRequestedLocked (system.view worker)
          (((system.setRecord worker (system.record worker).goOffline).view worker).goto place) := by
      intro place hnext
      rw [view_setRecord_self]
      exact .offline hplace hnext
    cases caller with
    | failure failure =>
      exact moves_here hpc (fun _ => rfl) (hself _ (Or.inr ⟨failure, rfl, rfl⟩))
        fun _ => view_setRecord_other
    | all joined checked result =>
      exact moves_joinReturned true hpc (fun _ hno => by cases hno) (hself _ (Or.inl rfl))
        fun _ => view_setRecord_other
    | emergency joined =>
      exact moves_joinReturned true hpc (fun _ hno => by cases hno) (hself _ (Or.inl rfl))
        fun _ => view_setRecord_other

/-! ### The control thread -/

theorem stepRecord_moves {point : Point} {next : System} (hpc : system.pc = .record worker point)
    (hnow : choice.now = system.clock)
    (hstep : system.stepRecord worker choice point = some next) : system.Moves next := by
  cases point with
  | create caller port point =>
    obtain rfl := Option.some.inj hstep
    exact stepCreate_moves hpc
  | start caller spawning =>
    obtain rfl := Option.some.inj hstep
    exact stepStart_moves hpc
  | readiness =>
    obtain rfl := Option.some.inj hstep
    exact stepReadiness_moves hpc
  | activationExits =>
    obtain rfl := Option.some.inj hstep
    exact stepActivationExits_moves hpc
  | activationMarks =>
    obtain rfl := Option.some.inj hstep
    exact stepActivationMarks_moves hpc
  | monitor =>
    obtain rfl := Option.some.inj hstep
    exact stepMonitor_moves hpc
  | readyPoint =>
    obtain rfl := Option.some.inj hstep
    exact stepReadyPoint_moves hpc
  | checkActivated =>
    obtain rfl := Option.some.inj hstep
    exact stepCheckActivated_moves hpc
  | activatedPoint =>
    obtain rfl := Option.some.inj hstep
    rw [hnow]
    exact stepActivatedPoint_moves hpc
  | runningPoint =>
    obtain rfl := Option.some.inj hstep
    refine moves_here hpc (fun _ => rfl) ?_ fun _ _ => view_publishHealth _ _
    rw [view_publishHealth]
    refine .goes ?_
    rw [view_place hpc]
    exact .running
  | checkStable =>
    obtain rfl := Option.some.inj hstep
    rw [hnow]
    exact stepCheckStable_moves hpc
  | createHealth error =>
    cases error with
    | none =>
      obtain rfl := Option.some.inj hstep
      refine moves_here hpc (fun _ => rfl) ?_ fun _ _ => view_publishHealth _ _
      rw [view_publishHealth]
      refine .goes ?_
      rw [view_place hpc]
      exact .createdHealth
    | some error =>
      obtain rfl := Option.some.inj hstep
      obtain ⟨pc, heq, hclosing | rfl⟩ := restartFailed_eq system.publishHealth worker error
      · rw [heq]
        exact moves_giveUp _ (by rw [hpc]; rfl) hclosing (view_publishHealth _)
      · rw [heq]
        refine moves_here hpc (fun _ => rfl) ?_ fun _ _ => view_publishHealth _ _
        rw [view_publishHealth]
        refine .goes ?_
        rw [view_place hpc]
        exact .failedHealth error
  | beginFailure failure =>
    obtain rfl := Option.some.inj hstep
    exact stepBeginFailure_moves hpc
  | failureHealth failure =>
    obtain rfl := Option.some.inj hstep
    refine moves_here hpc (fun _ => rfl) ?_ fun _ _ => view_publishHealth _ _
    rw [view_publishHealth]
    refine .goes ?_
    rw [view_place hpc]
    exact .joinFailure failure
  | decide failure =>
    obtain rfl := Option.some.inj hstep
    rw [hnow]
    exact stepDecide_moves hpc
  | fail failure =>
    obtain rfl := Option.some.inj hstep
    exact stepFail_moves hpc
  | report failure reports =>
    obtain rfl := Option.some.inj hstep
    exact stepReport_moves hpc
  | join caller point => exact stepJoin_moves hpc hstep

/-- The stops at the end of the run. -/
theorem moves_stops {system₁ : System} {pc : Pc}
    (hplaces : ∀ worker < system.config.workerCount, system.pc.place worker = .closing)
    (hnext : ∀ worker, pc.place worker = .closing ∨
      ∃ caller, pc.place worker = .here (.join caller .request) ∧
        (pc.place worker).windingDown = true)
    (hviews : ∀ worker, system₁.view worker =
      (system.view worker).put { (system.view worker).record with instanceStop := true }) :
    system.Moves (system₁.goto pc) := by
  intro worker hworker
  rw [view_goto, hviews]
  exact .stopping (hplaces worker hworker) (hnext worker)

theorem view_requestAllWorkerStops (system : System) (worker : Nat) :
    system.requestAllWorkerStops.view worker =
      (system.view worker).put { (system.view worker).record with instanceStop := true } := rfl

/-- The places where the joins of every record begin. -/
theorem places_joins {caller : JoinCaller}
    (hclosing : ∀ later, (Point.join caller .request).elsewhere later = .closing)
    (hdown : (Place.here (.join caller .request)).windingDown = true) (worker : Nat) :
    (Pc.record 0 (.join caller .request)).place worker = .closing ∨
      ∃ caller', (Pc.record 0 (.join caller .request)).place worker =
          .here (.join caller' .request) ∧
        ((Pc.record 0 (.join caller .request)).place worker).windingDown = true := by
  by_cases hzero : worker = 0
  · subst hzero
    rw [place_self]
    exact Or.inr ⟨caller, rfl, hdown⟩
  · rw [place_other _ hzero, hclosing]
    exact Or.inl rfl

theorem stepControl_moves {next : System} (hnow : choice.now = system.clock)
    (hstep : system.stepControl choice = some next) : system.Moves next := by
  unfold stepControl at hstep
  cases hpc : system.pc with
  | notStarted | finished =>
    rw [hpc] at hstep
    cases hstep
  | entered =>
    simp only [hpc] at hstep
    split_ifs at hstep <;> obtain rfl := Option.some.inj hstep
    · exact moves_giveUp _ (by rw [hpc]; rfl) (fun _ => rfl) fun _ => rfl
    · refine moves_goto _ (fun _ => rfl) fun worker _ => Or.inl ?_
      rw [hpc]
      rfl
  | checking =>
    simp only [hpc] at hstep
    split_ifs at hstep <;> obtain rfl := Option.some.inj hstep
    · exact thrown_moves (by rw [hpc]; rfl)
    · exact moves_giveUp _ (by rw [hpc]; rfl) (fun _ => rfl) fun _ => rfl
    · exact moves_enter (fun _ _ => by rw [hpc]; rfl) rfl (fun _ => .create _) fun _ => rfl
  | publishing startup activation after =>
    rw [hpc] at hstep
    cases startup with
    | some result =>
      obtain rfl := Option.some.inj hstep
      refine moves_goto (.publishing none activation after) (fun _ => rfl)
        fun worker _ => Or.inl ?_
      rw [hpc]
      cases after <;> rfl
    | none =>
      cases activation with
      | some result =>
        obtain rfl := Option.some.inj hstep
        refine moves_goto (.publishing none none after) (fun _ => rfl)
          fun worker _ => Or.inl ?_
        rw [hpc]
        cases after <;> rfl
      | none =>
        obtain rfl := Option.some.inj hstep
        refine moves_goto _ (fun _ => rfl) fun worker _ => Or.inl ?_
        rw [hpc]
        cases after <;> rfl
  | record worker point =>
    rw [hpc] at hstep
    exact stepRecord_moves hpc hnow hstep
  | readinessTop =>
    simp only [hpc] at hstep
    split_ifs at hstep <;> obtain rfl := Option.some.inj hstep
    · exact thrown_moves (by rw [hpc]; rfl)
    · exact moves_giveUp _ (by rw [hpc]; rfl) (fun _ => rfl) fun _ => rfl
    · exact moves_enter (fun _ _ => by rw [hpc]; rfl) rfl (fun _ => .readiness) fun _ => rfl
  | activationTop =>
    simp only [hpc] at hstep
    split_ifs at hstep <;> obtain rfl := Option.some.inj hstep
    · exact thrown_moves (by rw [hpc]; rfl)
    · exact moves_giveUp _ (by rw [hpc]; rfl) (fun _ => rfl) fun _ => rfl
    · exact moves_enter (fun _ _ => by rw [hpc]; rfl) rfl (fun _ => .exits) fun _ => rfl
  | activationFailed error =>
    rw [hpc] at hstep
    obtain rfl := Option.some.inj hstep
    exact stepActivationFailed_moves hpc
  | monitorTop =>
    rw [hpc] at hstep
    obtain rfl := Option.some.inj hstep
    exact stepMonitorTop_moves hpc
  | stopping result joins =>
    simp only [hpc] at hstep
    cases joins with
    | some checked =>
      obtain rfl := Option.some.inj hstep
      exact moves_stops (fun _ _ => by rw [hpc]; rfl) (places_joins (fun _ => rfl) rfl)
        (view_requestAllWorkerStops system)
    | none =>
      obtain rfl := Option.some.inj hstep
      exact moves_stops (fun _ _ => by rw [hpc]; rfl) (fun _ => Or.inl rfl)
        (view_requestAllWorkerStops system)
  | finishing result =>
    rw [hpc] at hstep
    obtain rfl := Option.some.inj hstep
    refine moves_goto .finished (fun worker => ?_) fun worker _ => Or.inl ?_
    · simp [view, history, Event.worker?, View.goto]
    · rw [hpc]
      rfl

/-! ### The other threads -/

/-- A step of another thread changes one record. -/
theorem moves_one {next : System} (worker : Nat)
    (hself : Move system.config.recovery worker system.shared.stopRequestedLocked
      (system.view worker) (next.view worker))
    (hviews : ∀ other ≠ worker, next.view other = system.view other) : system.Moves next := by
  intro other _
  by_cases hne : other = worker
  · subst hne
    exact hself
  · rw [hviews other hne]
    exact .still

/-- A refresh acknowledges a generation, and that is all that a view shows of it. -/
theorem refresh_keeps (publication : Publication.System) (worker instanceId : Nat) :
    let next := (publication.refresh worker instanceId).publication
    (∀ other, registeredIn next other = registeredIn publication.publication other) ∧
      (next.epochs worker).publishedInstanceId =
        (publication.publication.epochs worker).publishedInstanceId ∧
      (next.epochs worker).quiescedThroughInstanceId =
        (publication.publication.epochs worker).quiescedThroughInstanceId ∧
      ∀ other ≠ worker, next.epochs other = publication.publication.epochs other := by
  dsimp only
  unfold Publication.System.refresh
  obtain heq | ⟨snapshot, held, advanced, -, -, -, -, heq⟩ :=
    FilterPublicationState.refreshWorkerSnapshot_cases publication.publication
      (publication.localSnapshot worker instanceId) worker instanceId
  · rw [heq]
    dsimp only
    split <;> exact ⟨fun _ => rfl, rfl, rfl, fun _ _ => rfl⟩
  · rw [heq]
    refine ⟨fun _ => rfl, ?_, ?_, fun other hne => ?_⟩
    · simp only [Function.update_self]
    · simp only [Function.update_self]
    · simp only [Function.update_of_ne hne]

theorem refresh_moves (system : System) (worker instanceId : Nat) :
    system.Moves { system with
      publication := system.publication.refresh worker instanceId } := by
  obtain ⟨hregistered, hpublished, hquiesced, hothers⟩ :=
    refresh_keeps system.publication worker instanceId
  refine moves_one worker ?_ fun other hne => ?_
  · rw [view_publication _ (system.publication.refresh worker instanceId), hregistered]
    exact .observe hpublished hquiesced
  · rw [view_publication _ (system.publication.refresh worker instanceId), hregistered,
      hothers other hne]
    rfl

/-- The other users of the publication leave the registry and the epochs alone. -/
theorem others_keep {label : Publication.System.Label} {publication next : Publication.System}
    (hlabel : othersPublication label = true) (hstep : publication.step label = some next) :
    next.publication.epochs = publication.publication.epochs ∧
      next.publication.registry = publication.publication.registry := by
  by_cases hfront : label.leavesFront = true
  · obtain ⟨hfront, -, -⟩ := Publication.System.Inv.front_step hfront hstep
    exact ⟨hfront.epochs, hfront.registry⟩
  · cases label with
    | commit candidate now =>
      obtain rfl := Option.some.inj hstep
      unfold Publication.System.publish
      obtain ⟨error, heq⟩ | ⟨next, rfl, -, -, -, -, -, heq⟩ :=
        FilterPublicationState.commit_cases publication.publication candidate now
      · rw [heq]
        cases candidate <;> exact ⟨rfl, rfl⟩
      · rw [heq]
        exact ⟨rfl, rfl⟩
    | detachTerminalSnapshot now =>
      obtain ⟨_, rfl⟩ := Transition.enabled hstep
      unfold FilterPublicationState.detachTerminalSnapshot
      split_ifs
      · exact ⟨rfl, rfl⟩
      · split <;> exact ⟨rfl, rfl⟩
    | registerWorker _ _ | markWorkerRegistered _ _ | refreshWorkerSnapshot _ _
    | dropLocalSnapshot _ _ | quiesceWorker _ _ => exact absurd hlabel Bool.false_ne_true
    | _ => exact absurd rfl hfront

theorem publication_moves {label : Publication.System.Label} {publication : Publication.System}
    (hlabel : othersPublication label = true)
    (hstep : system.publication.step label = some publication) :
    system.Moves { system with publication := publication } := by
  obtain ⟨hepochs, hregistry⟩ := others_keep hlabel hstep
  have hworkers := Publication.System.maximumWorkers_step hstep
  intro worker _
  rw [view_publication _ publication, registeredIn, hepochs, hregistry, hworkers]
  exact .still

/-- A later reading of the clock. -/
def Later (clock now : TimePoint) : Prop := clock ≤ now ∧ (now = clock ∨ now ≤ timePointMax)

theorem Later.refl (clock : TimePoint) : Later clock clock := ⟨le_rfl, Or.inl rfl⟩

/-- The time passes. -/
def tick (system : System) (now : TimePoint) : System := { system with clock := now }

/-- When a gate lets a worker through. -/
theorem awaitGate_proceed {instanceId : Nat} {allowed denied tokenStopped : Bool}
    (hgate : system.awaitGate worker instanceId allowed denied tokenStopped = some .proceed) :
    instanceId = (system.record worker).instanceId ∧ allowed = true ∧
      system.shared.stopRequestedLocked = false ∧ denied = false ∧
      system.publication.publication.workerNeedsRefresh worker instanceId = false := by
  simp only [awaitGate] at hgate
  split_ifs at hgate with hwaits hstops hrefresh hallowed
  · cases hgate
  · cases hgate
  · rw [Bool.not_eq_true, Bool.or_eq_false_iff, Bool.or_eq_false_iff, Bool.or_eq_false_iff,
      Bool.or_eq_false_iff, Bool.not_eq_false', Bool.not_eq_false'] at hstops
    obtain ⟨⟨-, hcurrent⟩, ⟨hstop, hdenied⟩, -⟩ := hstops
    exact ⟨of_decide_eq_true hcurrent, hallowed, hstop, hdenied,
      Bool.eq_false_of_not_eq_true hrefresh⟩
  · cases hgate

/-- A call for an instance. -/
theorem act_moves {instanceId : Nat} {action : Action} {next : System}
    (hact : system.act worker instanceId action = some next) :
    ∃ now, Later system.clock now ∧ (system.tick now).Moves next := by
  cases action with
  | reportReady result =>
    obtain rfl := Option.some.inj hact
    refine ⟨system.clock, Later.refl _, moves_one worker ?_ fun _ => view_setRecord_other⟩
    rw [view_setRecord_self]
    exact .reportReady instanceId result
  | reportActivated =>
    obtain rfl := Option.some.inj hact
    refine ⟨system.clock, Later.refl _, moves_one worker ?_ fun _ => view_setRecord_other⟩
    rw [view_setRecord_self]
    exact .reportActivated instanceId
  | awaitActivation tokenStopped | awaitDataPlane tokenStopped =>
    obtain ⟨action, hgate, rfl⟩ := Option.map_eq_some_iff.mp hact
    refine ⟨system.clock, Later.refl _, moves_one worker ?_ fun other hne => ?_⟩
    · rw [view_note_self rfl]
      refine .gate _ _ _ fun hproceed => ?_
      obtain ⟨hid, hallowed, hstop, -⟩ := awaitGate_proceed (hgate.trans (congrArg some hproceed))
      exact ⟨hstop, hid, hallowed⟩
    · exact view_note_other (by simpa [Event.worker?] using hne.symm)
  | reportCompletion result now =>
    obtain ⟨⟨hclock, hmaximum⟩, rfl⟩ := Transition.enabled hact
    refine ⟨now, ⟨hclock, Or.inr hmaximum⟩, moves_one worker ?_ fun other hne =>
      @view_setRecord_other (system.tick now) _ _ _ hne⟩
    have hview := @view_setRecord_self (system.tick now) worker
      ((system.record worker).reportCompletion instanceId result now)
    exact hview ▸ .reportCompletion instanceId result now _ rfl

/-- A thread that ends is the thread of the same instance. -/
theorem map_instanceId_set {threads : List WorkerThread} {index : Nat} {thread : WorkerThread}
    (hthread : threads[index]? = some thread) :
    (threads.set index { thread with exited := true }).map (·.instanceId) =
      threads.map (·.instanceId) := by
  rw [List.map_set]
  refine List.ext_getElem? fun i => ?_
  by_cases heq : index = i
  · subst heq
    obtain ⟨hlt, hget⟩ := List.getElem?_eq_some_iff.mp hthread
    simp [hlt, hget]
  · rw [List.getElem?_set_ne heq]

/-- A step of a worker thread. -/
theorem stepThread_moves {index : Nat} {action : Action} {next : System}
    (hstep : system.stepThread worker index action = some next) :
    ∃ now, Later system.clock now ∧ (system.tick now).Moves next := by
  unfold stepThread at hstep
  cases hthread : (system.slots worker).threads[index]? with
  | none =>
    rw [hthread] at hstep
    cases hstep
  | some thread =>
    simp only [hthread] at hstep
    split_ifs at hstep
    cases action with
    | reportCompletion result now =>
      simp only at hstep
      obtain ⟨middle, hact, rfl⟩ := Option.map_eq_some_iff.mp hstep
      obtain ⟨⟨hclock, hmaximum⟩, rfl⟩ := Transition.enabled hact
      refine ⟨now, ⟨hclock, Or.inr hmaximum⟩, moves_one worker ?_ fun other hne => ?_⟩
      · rw [view_setSlot_self]
        have hslot : ((system.setRecord worker ((system.record worker).reportCompletion
            thread.instanceId result now)).slots worker) = { system.slots worker with
              record := (system.record worker).reportCompletion thread.instanceId result now } := by
          simp only [setRecord, setSlot, Function.update_self]
        dsimp only
        rw [hslot]
        exact .reportCompletion thread.instanceId result now _ (map_instanceId_set hthread)
      · rw [view_setSlot_other hne]
        exact @view_setRecord_other (system.tick now) _ _ _ hne
    | reportReady _ | awaitActivation _ | reportActivated | awaitDataPlane _ =>
      exact act_moves hstep

/-- `request_activation` opens the first gate of every record. -/
theorem requestActivation_moves (system : System) : system.Moves system.requestActivation := by
  unfold requestActivation
  dsimp only
  split_ifs with hrefused
  · exact fun _ _ => .still
  · exact fun _ _ => .allowActivation (Bool.eq_false_of_not_eq_true fun hstop =>
      hrefused (Or.inl hstop))

/-- `release_data_plane` opens the data plane of every record, or of none. -/
theorem releaseDataPlane_cases (system : System) :
    (∃ error, system.releaseDataPlane = (.error error, system)) ∨
      system.releaseDataPlane.1 = .ok () ∧ system.shared.stopRequestedLocked = false ∧
        (∀ worker < system.config.workerCount, (system.record worker).state = .running ∧
          (system.record worker).completed = false) ∧
        ∀ worker < system.config.workerCount, system.releaseDataPlane.2.view worker =
          { (system.view worker).put { (system.view worker).record with
            dataPlaneAllowed := true } with released := true } := by
  unfold releaseDataPlane
  dsimp only
  by_cases hstop : system.shared.stopRequestedLocked = true
  · rw [if_pos hstop]
    exact Or.inl ⟨_, rfl⟩
  rw [if_neg hstop]
  by_cases habrupt : system.shared.abruptExitRequested = true
  · rw [if_pos habrupt]
    exact Or.inl ⟨_, rfl⟩
  rw [if_neg habrupt]
  cases hfind : (List.range system.config.workerCount).find? fun worker =>
      (system.record worker).state ≠ .running ∨ (system.record worker).completed with
  | some worker => exact Or.inl ⟨_, rfl⟩
  | none =>
    dsimp only
    split_ifs
    · exact Or.inl ⟨_, rfl⟩
    · refine Or.inr ⟨rfl, Bool.eq_false_of_not_eq_true hstop, fun worker hworker => ?_,
        fun worker hworker => ?_⟩
      · have hall := List.find?_eq_none.mp hfind worker (List.mem_range.mpr hworker)
        simpa using hall
      · simp [view, history, View.put, View.record, record, hworker]

theorem releaseDataPlane_moves (system : System) : system.Moves system.releaseDataPlane.2 := by
  intro worker hworker
  obtain ⟨error, heq⟩ | ⟨-, hstop, hall, hviews⟩ := releaseDataPlane_cases system
  · rw [heq]
    exact .still
  · rw [hviews worker hworker]
    exact .release hstop (hall worker hworker).1 (hall worker hworker).2

/-- Every step is a move of every record, after some time. -/
theorem step_moves {label : Label} {next : System} (hstep : system.step label = some next) :
    ∃ now, Later system.clock now ∧ (system.tick now).Moves next := by
  cases label with
  | run =>
    simp only [step] at hstep
    split_ifs at hstep with hpc
    · obtain rfl := Option.some.inj hstep
      refine ⟨system.clock, Later.refl _, moves_goto .entered (fun _ => rfl)
        fun worker _ => Or.inl ?_⟩
      rw [show (system.tick system.clock).pc = .notStarted from hpc]
      rfl
    · obtain rfl := Option.some.inj hstep
      exact ⟨system.clock, Later.refl _, fun _ _ => .still⟩
  | control choice =>
    simp only [step] at hstep
    split_ifs at hstep with hclock
    exact ⟨choice.now, ⟨hclock.1, Or.inr hclock.2⟩, stepControl_moves rfl hstep⟩
  | thread worker index action => exact stepThread_moves hstep
  | refresh worker index =>
    simp only [step, stepRefresh] at hstep
    cases hthread : (system.slots worker).threads[index]? with
    | none => simp [hthread] at hstep
    | some thread =>
      simp only [hthread] at hstep
      split_ifs at hstep
      obtain rfl := Option.some.inj hstep
      exact ⟨system.clock, Later.refl _, refresh_moves system worker thread.instanceId⟩
  | stale worker instanceId action =>
    simp only [step] at hstep
    split_ifs at hstep
    exact act_moves hstep
  | requestActivation =>
    obtain rfl := Option.some.inj hstep
    exact ⟨system.clock, Later.refl _, requestActivation_moves system⟩
  | releaseDataPlane =>
    obtain rfl := Option.some.inj hstep
    exact ⟨system.clock, Later.refl _, releaseDataPlane_moves system⟩
  | stopWorker worker =>
    simp only [step] at hstep
    split_ifs at hstep
    obtain rfl := Option.some.inj hstep
    refine ⟨system.clock, Later.refl _, moves_one worker ?_ fun _ => view_setRecord_other⟩
    rw [view_setRecord_self]
    exact .requestStop
  | snapshotPublished generation =>
    obtain rfl := Option.some.inj hstep
    refine ⟨system.clock, Later.refl _, fun worker _ => ?_⟩
    unfold snapshotPublished
    split_ifs <;> exact .still
  | requestStop | serviceStop | injectAbruptExit | injectAbruptExitAfterPublication =>
    obtain rfl := Option.some.inj hstep
    exact ⟨system.clock, Later.refl _, fun _ _ => .still⟩
  | emergencyJoinAll refused =>
    simp only [step] at hstep
    split_ifs at hstep with hfinished
    · obtain rfl := Option.some.inj hstep
      exact ⟨system.clock, Later.refl _, fun _ _ => .requestStop⟩
    · obtain rfl := Option.some.inj hstep
      refine ⟨system.clock, Later.refl _,
        moves_stops (fun _ _ => ?_) (places_joins (fun _ => rfl) rfl)
        fun _ => rfl⟩
      rw [show (system.tick system.clock).pc = .finished from hfinished]
      rfl
  | publication label =>
    simp only [step] at hstep
    split_ifs at hstep with hlabel
    obtain ⟨publication, hpublication, rfl⟩ := Option.map_eq_some_iff.mp hstep
    exact ⟨system.clock, Later.refl _, publication_moves hlabel hpublication⟩

/-! ### What the threads of the supervisor leave alone -/

/-- The configuration, and whether a stop is requested. -/
def kept (system : System) : Config × Bool :=
  (system.config, system.shared.stopRequestedLocked)

theorem countRestart_kept : (system.countRestart worker).kept = system.kept := by
  unfold countRestart
  split_ifs <;> rfl

theorem restartFailed_kept (error : SupervisorStartupError) :
    (system.restartFailed worker error).kept = system.kept := by
  unfold restartFailed
  split_ifs <;> rfl

theorem createReturned_kept (caller : Caller) (port : UInt16)
    (error : Option SupervisorStartupError) :
    (system.createReturned worker caller port error).kept = system.kept := by
  cases caller <;> cases error
  · simp only [createReturned]
    split_ifs <;> rfl
  all_goals rfl

theorem startReturned_kept (caller : Caller) (error : Option SupervisorStartupError) :
    (system.startReturned worker caller error).kept = system.kept := by
  cases caller <;> cases error
  · simp only [startReturned]
    split_ifs <;> rfl
  · rfl
  · rfl
  · exact restartFailed_kept _

theorem joinReturned_kept (success : Bool) (caller : JoinCaller) :
    (system.joinReturned worker success caller).kept = system.kept := by
  cases caller <;> simp only [joinReturned] <;> split_ifs <;> rfl

theorem stepCreate_kept (caller : Caller) (port : UInt16) (point : CreatePoint) :
    (system.stepCreate worker caller port choice point).kept = system.kept := by
  cases point with
  | admission =>
    simp only [stepCreate]
    split_ifs
    · rfl
    · exact createReturned_kept _ _ _
    · exact (createReturned_kept _ _ _).trans countRestart_kept
    · exact (createReturned_kept _ _ _).trans countRestart_kept
    · exact countRestart_kept
  | register =>
    simp only [stepCreate]
    split_ifs
    · rfl
    · exact createReturned_kept _ _ _
  | build =>
    simp only [stepCreate]
    cases choice.build
    · exact createReturned_kept _ _ _
    · rfl
  | store loop => exact createReturned_kept _ _ _

theorem stepStart_kept (caller : Caller) (spawning : Bool) :
    (system.stepStart worker caller spawning choice).kept = system.kept := by
  cases spawning with
  | false =>
    simp only [stepStart, Bool.false_eq_true, if_false]
    split_ifs
    · rfl
    · exact startReturned_kept _ _
    · rfl
  | true =>
    simp only [stepStart, if_true]
    cases choice.threadError <;> exact startReturned_kept _ _

theorem stepReadiness_kept : (system.stepReadiness worker).kept = system.kept := by
  unfold stepReadiness
  dsimp only
  split_ifs
  any_goals rfl
  cases hmarked : (system.goto (.record (worker + 1) .readiness)).markRegistered worker with
  | mk marked next =>
    have hafter : next = (system.markRegistered worker).2.goto (.record (worker + 1) .readiness) :=
      (congrArg Prod.snd hmarked).symm
    rw [hafter]
    cases marked <;> rfl

theorem stepActivation_kept :
    (system.stepActivationExits worker).kept = system.kept ∧
      (system.stepActivationMarks worker).kept = system.kept := by
  unfold stepActivationExits stepActivationMarks
  dsimp only
  constructor <;> split_ifs <;> rfl

theorem stepActivationFailed_kept (error : Service.SupervisorActivationError) :
    (system.stepActivationFailed error).kept = system.kept := by
  unfold stepActivationFailed
  split_ifs <;> rfl

theorem stepMonitorTop_kept : (system.stepMonitorTop choice).kept = system.kept := by
  unfold stepMonitorTop
  split_ifs
  any_goals rfl
  cases choice.refreshFailure with
  | none => rfl
  | some failure =>
    dsimp only
    split_ifs <;> rfl

theorem stepMonitor_kept : (system.stepMonitor worker).kept = system.kept := by
  unfold stepMonitor
  dsimp only
  cases (system.record worker).observedFailure worker <;> split_ifs <;> rfl

theorem stepReadyPoint_kept : (system.stepReadyPoint worker).kept = system.kept := by
  unfold stepReadyPoint
  dsimp only
  split_ifs
  any_goals rfl
  cases hmarked : system.markRegistered worker with
  | mk marked next =>
    have hafter : next = (system.markRegistered worker).2 := (congrArg Prod.snd hmarked).symm
    rw [hafter]
    cases marked <;> rfl

theorem stepMonitored_kept (now : TimePoint) :
    (system.stepCheckActivated worker).kept = system.kept ∧
      (system.stepActivatedPoint worker now).kept = system.kept ∧
      (system.stepCheckStable worker now).kept = system.kept := by
  unfold stepCheckActivated stepActivatedPoint stepCheckStable
  dsimp only
  refine ⟨?_, ?_, ?_⟩ <;> split_ifs <;> rfl

theorem stepFailure_kept (failure : WorkerFailure) (now : TimePoint) (reports : Bool) :
    (system.stepBeginFailure worker failure).kept = system.kept ∧
      (system.stepDecide worker failure now).kept = system.kept ∧
      (system.stepReport failure reports).kept = system.kept := by
  unfold stepBeginFailure stepDecide stepReport
  dsimp only
  refine ⟨?_, ?_, ?_⟩ <;> split_ifs <;> rfl

theorem stepJoin_kept {caller : JoinCaller} {point : JoinPoint}
    (hstep : system.stepJoin worker caller choice point = some next) :
    next.kept = system.kept := by
  cases point with
  | request =>
    simp only [stepJoin] at hstep
    split_ifs at hstep <;> obtain rfl := Option.some.inj hstep
    · exact joinReturned_kept _ _
    · rfl
  | join =>
    simp only [stepJoin] at hstep
    split_ifs at hstep <;> obtain rfl := Option.some.inj hstep
    · exact joinReturned_kept _ _
    · rfl
    · rfl
  | reset =>
    simp only [stepJoin] at hstep
    split_ifs at hstep <;> obtain rfl := Option.some.inj hstep <;> rfl
  | offline =>
    obtain rfl := Option.some.inj hstep
    exact joinReturned_kept _ _
  | record | quiesce =>
    obtain rfl := Option.some.inj hstep
    rfl

theorem stepRecord_kept {point : Point}
    (hstep : system.stepRecord worker choice point = some next) : next.kept = system.kept := by
  cases point with
  | create caller port point =>
    obtain rfl := Option.some.inj hstep
    exact stepCreate_kept _ _ _
  | start caller spawning =>
    obtain rfl := Option.some.inj hstep
    exact stepStart_kept _ _
  | readiness =>
    obtain rfl := Option.some.inj hstep
    exact stepReadiness_kept
  | activationExits =>
    obtain rfl := Option.some.inj hstep
    exact stepActivation_kept.1
  | activationMarks =>
    obtain rfl := Option.some.inj hstep
    exact stepActivation_kept.2
  | monitor =>
    obtain rfl := Option.some.inj hstep
    exact stepMonitor_kept
  | readyPoint =>
    obtain rfl := Option.some.inj hstep
    exact stepReadyPoint_kept
  | checkActivated =>
    obtain rfl := Option.some.inj hstep
    exact (stepMonitored_kept 0).1
  | activatedPoint =>
    obtain rfl := Option.some.inj hstep
    exact (stepMonitored_kept _).2.1
  | checkStable =>
    obtain rfl := Option.some.inj hstep
    exact (stepMonitored_kept _).2.2
  | createHealth error =>
    cases error with
    | none =>
      obtain rfl := Option.some.inj hstep
      rfl
    | some error =>
      obtain rfl := Option.some.inj hstep
      exact restartFailed_kept _
  | beginFailure failure =>
    obtain rfl := Option.some.inj hstep
    exact (stepFailure_kept failure 0 true).1
  | decide failure =>
    obtain rfl := Option.some.inj hstep
    exact (stepFailure_kept failure _ true).2.1
  | report failure reports =>
    obtain rfl := Option.some.inj hstep
    exact (@stepFailure_kept _ worker failure 0 reports).2.2
  | join caller point => exact stepJoin_kept hstep
  | runningPoint | failureHealth failure | fail failure =>
    obtain rfl := Option.some.inj hstep
    rfl

theorem stepControl_kept (hstep : system.stepControl choice = some next) :
    next.kept = system.kept := by
  unfold stepControl at hstep
  cases hpc : system.pc with
  | notStarted | finished =>
    rw [hpc] at hstep
    cases hstep
  | entered | checking | readinessTop | activationTop =>
    simp only [hpc] at hstep
    split_ifs at hstep <;> obtain rfl := Option.some.inj hstep <;> rfl
  | publishing startup activation after =>
    rw [hpc] at hstep
    cases startup <;> cases activation <;> obtain rfl := Option.some.inj hstep <;> rfl
  | record worker point =>
    rw [hpc] at hstep
    exact stepRecord_kept hstep
  | activationFailed error =>
    rw [hpc] at hstep
    obtain rfl := Option.some.inj hstep
    exact stepActivationFailed_kept _
  | monitorTop =>
    rw [hpc] at hstep
    obtain rfl := Option.some.inj hstep
    exact stepMonitorTop_kept
  | stopping result joins =>
    rw [hpc] at hstep
    cases joins <;> obtain rfl := Option.some.inj hstep <;> rfl
  | finishing result =>
    rw [hpc] at hstep
    obtain rfl := Option.some.inj hstep
    rfl

theorem act_kept {instanceId : Nat} {action : Action}
    (hact : system.act worker instanceId action = some next) : next.kept = system.kept := by
  cases action with
  | reportReady _ | reportActivated =>
    obtain rfl := Option.some.inj hact
    rfl
  | awaitActivation _ | awaitDataPlane _ =>
    obtain ⟨_, -, rfl⟩ := Option.map_eq_some_iff.mp hact
    rfl
  | reportCompletion result now =>
    obtain ⟨_, rfl⟩ := Transition.enabled hact
    rfl

theorem stepThread_kept {index : Nat} {action : Action}
    (hstep : system.stepThread worker index action = some next) :
    next.kept = system.kept := by
  unfold stepThread at hstep
  cases hthread : (system.slots worker).threads[index]? with
  | none =>
    rw [hthread] at hstep
    cases hstep
  | some thread =>
    simp only [hthread] at hstep
    split_ifs at hstep
    cases action with
    | reportCompletion result now =>
      simp only at hstep
      obtain ⟨middle, hact, rfl⟩ := Option.map_eq_some_iff.mp hstep
      have hkept : middle.kept = system.kept := act_kept hact
      exact hkept
    | reportReady _ | awaitActivation _ | reportActivated | awaitDataPlane _ =>
      exact act_kept hstep

theorem releaseDataPlane_kept (system : System) :
    system.releaseDataPlane.2.kept = system.kept := by
  unfold releaseDataPlane
  dsimp only
  split_ifs
  any_goals rfl
  all_goals
    cases (List.range system.config.workerCount).find? fun worker =>
      (system.record worker).state ≠ .running ∨ (system.record worker).completed <;> rfl

/-- A step changes nothing of this, but for a stop that is requested. -/
theorem step_kept {label : Label} (hstep : system.step label = some next) :
    next.config = system.config ∧ (system.shared.stopRequestedLocked = true →
      next.shared.stopRequestedLocked = true) := by
  have hkept : next.kept = system.kept → next.config = system.config ∧
      (system.shared.stopRequestedLocked = true → next.shared.stopRequestedLocked = true) := by
    intro heq
    obtain ⟨hconfig, hstop⟩ := Prod.mk.inj heq
    exact ⟨hconfig, fun hstopped => hstop.trans hstopped⟩
  cases label with
  | run =>
    simp only [step] at hstep
    split_ifs at hstep <;> obtain rfl := Option.some.inj hstep <;> exact hkept rfl
  | control choice =>
    simp only [step] at hstep
    split_ifs at hstep
    have hcontrol : next.kept = (system.tick choice.now).kept := stepControl_kept hstep
    exact hkept hcontrol
  | thread worker index action => exact hkept (stepThread_kept hstep)
  | refresh worker index =>
    simp only [step, stepRefresh] at hstep
    cases hthread : (system.slots worker).threads[index]? with
    | none => simp [hthread] at hstep
    | some thread =>
      simp only [hthread] at hstep
      split_ifs at hstep
      obtain rfl := Option.some.inj hstep
      exact hkept rfl
  | stale worker instanceId action =>
    simp only [step] at hstep
    split_ifs at hstep
    exact hkept (act_kept hstep)
  | requestActivation =>
    obtain rfl := Option.some.inj hstep
    refine hkept ?_
    unfold requestActivation
    dsimp only
    split_ifs <;> rfl
  | releaseDataPlane =>
    obtain rfl := Option.some.inj hstep
    exact hkept (releaseDataPlane_kept system)
  | stopWorker worker =>
    simp only [step] at hstep
    split_ifs at hstep
    obtain rfl := Option.some.inj hstep
    exact hkept rfl
  | snapshotPublished generation =>
    obtain rfl := Option.some.inj hstep
    refine hkept ?_
    unfold snapshotPublished
    split_ifs <;> rfl
  | injectAbruptExit | injectAbruptExitAfterPublication =>
    obtain rfl := Option.some.inj hstep
    exact hkept rfl
  | requestStop =>
    obtain rfl := Option.some.inj hstep
    exact ⟨rfl, fun _ => rfl⟩
  | serviceStop =>
    obtain rfl := Option.some.inj hstep
    exact ⟨rfl, fun _ => Bool.or_true _⟩
  | emergencyJoinAll refused =>
    simp only [step] at hstep
    split_ifs at hstep <;> obtain rfl := Option.some.inj hstep <;> exact ⟨rfl, fun _ => rfl⟩
  | publication label =>
    simp only [step] at hstep
    split_ifs at hstep
    obtain ⟨publication, -, rfl⟩ := Option.map_eq_some_iff.mp hstep
    exact hkept rfl

end System

end DnsPro.Supervisor
