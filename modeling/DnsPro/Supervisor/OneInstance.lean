import DnsPro.Lib.Transition
import DnsPro.Supervisor.Instances

/-!
# One live instance, over every run

`Inv` collects what `Instances` proves of one record, for all of them, and
`Inv.step` is the one place where a step of the system meets the moves of its
records.  `admits` says what is true when a record gets its next instance, and
`join_failed` what a failed join leaves alone.
-/

namespace DnsPro.Supervisor

open DnsPro.Runtime (TimePoint)
open DnsPro.Service (WorkerRunResult WorkerFailure WorkerRecoveryConfig)

variable {config : WorkerRecoveryConfig} {worker : Nat} {stopped : Bool} {view view' : View}

/-! ## The shard of a worker -/

/-- Every loop uses the shard of its worker. -/
def View.Sharded (worker : Nat) (view : View) : Prop :=
  ∀ loop ∈ view.slot.loops, loop.shard = worker

theorem mem_of_mem_reset {current : Option WorkerLoop} {loops : List WorkerLoop} {loop : WorkerLoop}
    (hmem : loop ∈ current.elim loops loops.erase) : loop ∈ loops := by
  cases current with
  | none => exact hmem
  | some current => exact List.mem_of_mem_erase hmem

theorem Move.sharded (h : Move config worker stopped view view') (hsharded : view.Sharded worker) :
    view'.Sharded worker := by
  cases h with
  | refused =>
    obtain heq | heq := view.counted_eq worker <;> rw [heq] <;> exact hsharded
  | admission =>
    obtain heq | heq := view.counted_eq worker <;> rw [heq] <;> exact hsharded
  | beginFailure =>
    obtain ⟨_, _, _, _, _, -, heq⟩ := view.beginFailure_eq config worker
    rw [heq]
    exact hsharded
  | build boundPort =>
    intro loop hmem
    obtain rfl | hmem := List.mem_cons.mp hmem
    · rfl
    · exact hsharded loop hmem
  | reset => exact fun loop hmem => hsharded loop (mem_of_mem_reset hmem)
  | _ => exact hsharded

/-! ## What a move says of an instance id -/

/-- A record gets a new instance at the admission alone, and only when nothing is
left of the one before. -/
theorem Move.admits (h : Move config worker stopped view view')
    (hid : view'.record.instanceId ≠ view.record.instanceId) :
    (∃ caller port, view.place = .here (.create caller port .admission)) ∧ stopped = false ∧
      view.record.currentInstance = none ∧ view.record.currentThread = false ∧
      view'.record.instanceId = view.record.instanceId + 1 ∧
      view'.record = (view.counted worker).record.admission := by
  cases h with
  | reportReady instanceId result =>
    obtain heq | ⟨-, -, heq⟩ := view.record.reportReady_eq instanceId result <;> rw [heq] at hid <;>
      exact absurd rfl hid
  | reportActivated instanceId =>
    obtain heq | ⟨-, -, heq⟩ := view.record.reportActivated_eq instanceId <;> rw [heq] at hid <;>
      exact absurd rfl hid
  | reportCompletion instanceId result now =>
    obtain heq | ⟨-, -, heq⟩ := view.record.reportCompletion_eq instanceId result now <;>
      rw [heq] at hid <;> exact absurd rfl hid
  | refused => exact absurd (view.counted_kept worker).1 hid
  | @admission caller port hplace hstop hinstance hthread =>
    exact ⟨⟨caller, port, hplace⟩, hstop, hinstance, hthread,
      congrArg (· + 1) (view.counted_kept worker).1, rfl⟩
  | beginFailure =>
    obtain ⟨_, _, _, _, _, -, heq⟩ := view.beginFailure_eq config worker
    rw [heq] at hid
    exact absurd rfl hid
  | @decided failure =>
    obtain ⟨_, heq⟩ := view.record.keepResult_eq failure
    rw [heq] at hid
    exact absurd rfl hid
  | @schedule failure =>
    obtain ⟨_, heq⟩ := view.record.keepResult_eq failure
    rw [heq] at hid
    exact absurd rfl hid
  | joinRequest =>
    obtain heq | heq := WorkerRecord.beginJoin_eq { view.record with instanceStop := true } <;>
      rw [heq] at hid <;> exact absurd rfl hid
  | _ => exact absurd rfl hid

/-- A failed join leaves the instance as it is: its thread, its loop and its
registration. -/
theorem Move.join_failed (h : Move config worker stopped view view') {instanceId : Nat}
    (hnoted : view'.history = .joinFailed worker instanceId :: view.history) :
    instanceId = view.record.instanceId ∧ view'.slot.threads = view.slot.threads ∧
      view'.slot.loops = view.slot.loops ∧ view'.registered = view.registered ∧
      view'.epoch = view.epoch := by
  have hnone : ∀ {p : Prop}, view.history = .joinFailed worker instanceId :: view.history → p :=
    fun hno => absurd hno.symm (List.cons_ne_self _ _)
  have hother : ∀ {p : Prop} {event : Event} {history : List Event},
      event.quiet = true →
      event :: history = .joinFailed worker instanceId :: view.history → p := by
    intro p event history hquiet heq
    obtain ⟨rfl, -⟩ := List.cons.inj heq
    cases hquiet
  cases h with
  | joinFailed =>
    obtain ⟨heq, -⟩ := List.cons.inj hnoted
    exact ⟨(Event.joinFailed.inj heq).2.symm, rfl, rfl, rfl, rfl⟩
  | refused =>
    obtain heq | heq := view.counted_eq worker <;> rw [heq] at hnoted
    · exact hnone hnoted
    · exact hother rfl hnoted
  | admission | register =>
    obtain ⟨hno, -⟩ := List.cons.inj hnoted
    cases hno
  | beginFailure =>
    simp only [View.noteFailure, View.note, View.goto] at hnoted
    split_ifs at hnoted
    all_goals first | exact hnone hnoted | exact hother rfl hnoted
  | gate | activate | stable | schedule | quiesce => exact hother rfl hnoted
  | _ => exact hnone hnoted

/-! ## Every run -/

/-- The view at another time. -/
def View.at (view : View) (now : TimePoint) : View := { view with clock := now }

/-- None of this reads the clock. -/
theorem View.Sound.at (hsound : view.Sound) (now : TimePoint) : (view.at now).Sound := by
  obtain ⟨hhosted, hpublished, hplaced, hstands, hloops, hregistered⟩ := hsound
  refine ⟨hhosted, hpublished, hplaced, ?_, hloops, ⟨hregistered.current, hregistered.quiesced,
    hregistered.bounded, hregistered.hosts, hregistered.vacant⟩⟩
  cases hplace : view.place with
  | here point =>
    rw [hplace] at hstands
    simp only [View.at, hplace]
    cases point with
    | create caller port point => cases point <;> exact hstands
    | createHealth error => cases error <;> exact hstands
    | join caller point => cases point <;> exact hstands
    | _ => exact hstands
  | _ =>
    rw [hplace] at hstands
    simp only [View.at, hplace]
    exact hstands

theorem Told.at (htold : Told worker view) (now : TimePoint) : Told worker (view.at now) :=
  htold.keep rfl rfl rfl id id fun _ heq => heq

namespace System

variable {config : Config} {publication : Publication.System} {system next : System}
  {label : Label} {labels : List Label}

theorem view_tick (system : System) (now : TimePoint) (worker : Nat) :
    (system.tick now).view worker = (system.view worker).at now := rfl

/-- What holds of every record. -/
structure Inv (config : Config) (system : System) : Prop where
  fixed : system.config = config
  sound : ∀ worker < config.workerCount, (system.view worker).Sound
  told : ∀ worker < config.workerCount, Told worker (system.view worker)
  sharded : ∀ worker < config.workerCount, (system.view worker).Sharded worker

/-- A step, for one record. -/
theorem Inv.move (h : Inv config system) (hstep : system.step label = some next) {worker : Nat}
    (hworker : worker < config.workerCount) :
    ∃ now, Later system.clock now ∧ Move config.recovery worker system.shared.stopRequestedLocked
      ((system.view worker).at now) (next.view worker) := by
  obtain ⟨now, hnow, hmoves⟩ := step_moves hstep
  have hmove := hmoves worker (by rw [tick, h.fixed]; exact hworker)
  rw [view_tick] at hmove
  exact ⟨now, hnow, h.fixed ▸ hmove⟩

theorem Inv.step (h : Inv config system) (hstep : system.step label = some next) :
    Inv config next := by
  refine ⟨(step_kept hstep).1.trans h.fixed, fun worker hworker => ?_, fun worker hworker => ?_,
    fun worker hworker => ?_⟩
  · obtain ⟨now, -, hmove⟩ := h.move hstep hworker
    exact hmove.sound ((h.sound worker hworker).at now)
  · obtain ⟨now, -, hmove⟩ := h.move hstep hworker
    exact hmove.told ((h.sound worker hworker).at now) ((h.told worker hworker).at now)
  · obtain ⟨now, -, hmove⟩ := h.move hstep hworker
    exact hmove.sharded (h.sharded worker hworker)

/-- The publication has not been used by a worker. -/
def Unused (publication : Publication.System) : Prop :=
  ∀ worker, publication.publication.registry worker = false ∧
    publication.publication.epochs worker = {}

theorem Inv.start (hunused : Unused publication) : Inv config (new config publication) := by
  have hregistered : ∀ worker, ((new config publication).view worker).registered = false := by
    intro worker
    show (decide _ && publication.publication.registry worker) = false
    rw [(hunused worker).1, Bool.and_false]
  have hepoch : ∀ worker, ((new config publication).view worker).epoch = {} :=
    fun worker => (hunused worker).2
  refine ⟨rfl, fun worker _ => ?_, fun worker _ => ?_, fun worker _ loop hmem => ?_⟩
  · refine ⟨⟨fun hno => (by cases hno), fun _ => rfl, fun hno => (by cases hno),
      fun loop hno => (by cases hno), fun hno => (by cases hno)⟩,
      ⟨fun hno => (by cases hno), fun hno => (by cases hno), fun hno => (by cases hno)⟩,
      ⟨fun hno => (by cases hno), fun _ => rfl⟩, ⟨rfl, rfl⟩, rfl, ?_⟩
    refine ⟨fun hno => ?_, fun _ => ?_, ?_, fun hno => (by cases hno), fun _ => hregistered worker⟩
    · exact absurd ((hregistered worker).symm.trans hno) Bool.false_ne_true
    · rw [hepoch]
    · rw [hepoch]
      exact Nat.zero_le _
  · refine ⟨?_, List.Pairwise.nil, fun instanceId _ hno => (by cases hno), fun _ hno =>
      (by cases hno), ?_, ?_, ?_⟩
    all_goals exact fun _ hno => by cases hno
  · cases hmem

theorem Inv.reached (hunused : Unused publication)
    (hrun : Transition.run System.step (new config publication) labels = some system) :
    Inv config system :=
  Transition.run_invariant (Inv config) (fun _ _ _ h hstep => h.step hstep) (Inv.start hunused) hrun

theorem mem_history {event : Event} {worker : Nat} (hevent : event.worker? = some worker) :
    event ∈ system.history worker ↔ event ∈ system.log := by
  simp [history, hevent]

theorem history_cons {event : Event} {worker : Nat} (hevent : event.worker? = some worker)
    (hlog : next.log = event :: system.log) :
    next.history worker = event :: system.history worker := by
  simp [history, hlog, hevent]

/-- A thread runs the one loop of its record. -/
theorem Inv.threads (h : Inv config system) {worker : Nat} (hworker : worker < config.workerCount)
    {thread : WorkerThread} (hmem : thread ∈ (system.slots worker).threads) :
    thread.instanceId = (system.record worker).instanceId ∧
      ∃ loop, (system.record worker).currentInstance = some loop ∧
        loop.instanceId = (system.record worker).instanceId ∧
        (system.slots worker).loops = [loop] := by
  have hsound := h.sound worker hworker
  have hcurrent : (system.record worker).currentThread = true := by
    refine Bool.eq_true_of_not_eq_false fun hno => ?_
    rw [show (system.slots worker).threads = [] from hsound.hosted.unthreaded hno] at hmem
    cases hmem
  have hid : thread.instanceId ∈ (system.slots worker).threads.map (·.instanceId) :=
    List.mem_map_of_mem hmem
  rw [show (system.slots worker).threads.map (·.instanceId) =
    [(system.record worker).instanceId] from hsound.hosted.threads hcurrent] at hid
  obtain ⟨loop, hloop⟩ := Option.isSome_iff_exists.mp (hsound.hosted.hosted hcurrent)
  refine ⟨List.mem_singleton.mp hid, loop, hloop, hsound.hosted.loop loop hloop, ?_⟩
  have hstands := hsound.stands
  have hloops := hsound.loops
  cases hstoring : (system.view worker).place.storing with
  | false =>
    rw [View.loops_eq hstoring] at hloops
    exact hloops.trans (congrArg Option.toList hloop)
  | true =>
    -- an instance is built only where there is none
    exfalso
    cases hplace : (system.view worker).place with
    | here point =>
      rw [hplace] at hstoring hstands
      cases point with
      | create caller port point =>
        cases point with
        | store loop => exact absurd (hloop.symm.trans hstands.2.1) (by simp)
        | _ => cases hstoring
      | _ => cases hstoring
    | _ =>
      rw [hplace] at hstoring
      cases hstoring

theorem Inv.loops_length (h : Inv config system) {worker : Nat}
    (hworker : worker < config.workerCount) : (system.slots worker).loops.length ≤ 1 := by
  have hlength : ∀ view : View, view.loops.length ≤ 1 := by
    intro view
    have htoList : view.record.currentInstance.toList.length ≤ 1 := by
      cases view.record.currentInstance with
      | none => exact Nat.zero_le _
      | some _ => exact le_rfl
    unfold View.loops
    split
    · exact le_rfl
    · exact htoList
  rw [show (system.slots worker).loops = (system.view worker).loops from
    (h.sound worker hworker).loops]
  exact hlength _

theorem Inv.threads_length (h : Inv config system) {worker : Nat}
    (hworker : worker < config.workerCount) : (system.slots worker).threads.length ≤ 1 := by
  have hhosted := (h.sound worker hworker).hosted
  cases hcurrent : (system.record worker).currentThread with
  | false =>
    rw [show (system.slots worker).threads = [] from hhosted.unthreaded hcurrent]
    exact Nat.zero_le _
  | true =>
    have hmap := congrArg List.length (hhosted.threads hcurrent)
    rw [List.length_map] at hmap
    exact hmap.le

/-- Two loops never share a shard. -/
theorem Inv.shards (h : Inv config system) {worker other : Nat}
    (hworker : worker < config.workerCount) (hother : other < config.workerCount)
    {loop loop' : WorkerLoop} (hmem : loop ∈ (system.slots worker).loops)
    (hmem' : loop' ∈ (system.slots other).loops) (hshard : loop.shard = loop'.shard) :
    worker = other ∧ loop = loop' := by
  have heq : worker = other :=
    (h.sharded worker hworker loop hmem).symm.trans
      (hshard.trans (h.sharded other hother loop' hmem'))
  subst heq
  obtain ⟨only, honly⟩ | hnil : (∃ only, (system.slots worker).loops = [only]) ∨
      (system.slots worker).loops = [] := by
    have hlength := h.loops_length hworker
    cases hloops : (system.slots worker).loops with
    | nil => exact Or.inr rfl
    | cons first rest =>
      rw [hloops, List.length_cons] at hlength
      obtain rfl := List.length_eq_zero_iff.mp (show rest.length = 0 by omega)
      exact Or.inl ⟨first, rfl⟩
  · rw [honly] at hmem hmem'
    exact ⟨rfl, (List.mem_singleton.mp hmem).trans (List.mem_singleton.mp hmem').symm⟩
  · rw [hnil] at hmem
    cases hmem

/-- What a call for a former instance does to the records. -/
theorem step_stale {worker instanceId : Nat} {action : Action}
    (hstep : system.step (.stale worker instanceId action) = some next) :
    next.slots = system.slots ∧ next.shared = system.shared ∧
      next.publication = system.publication ∧ next.pc = system.pc := by
  simp only [step] at hstep
  split_ifs at hstep with hlt
  have hstale : instanceId ≠ (system.record worker).instanceId := Nat.ne_of_lt hlt
  have hsame : ∀ record, record = system.record worker →
      (system.setRecord worker record).slots = system.slots := by
    rintro record rfl
    exact Function.update_eq_self worker system.slots
  cases action with
  | reportReady result =>
    obtain rfl := Option.some.inj hstep
    exact ⟨hsame _ (if_pos (Or.inl hstale)), rfl, rfl, rfl⟩
  | reportActivated =>
    obtain rfl := Option.some.inj hstep
    exact ⟨hsame _ (if_pos (Or.inl hstale)), rfl, rfl, rfl⟩
  | reportCompletion result now =>
    obtain ⟨-, rfl⟩ := Transition.enabled hstep
    exact ⟨hsame _ (if_pos (Or.inl hstale)), rfl, rfl, rfl⟩
  | awaitActivation _ | awaitDataPlane _ =>
    obtain ⟨_, -, rfl⟩ := Option.map_eq_some_iff.mp hstep
    exact ⟨rfl, rfl, rfl, rfl⟩

/-- A record gets its next instance when nothing is left of the one before. -/
theorem Inv.admits (h : Inv config system) (hstep : system.step label = some next) {worker : Nat}
    (hworker : worker < config.workerCount)
    (hid : (next.record worker).instanceId ≠ (system.record worker).instanceId) :
    (next.record worker).instanceId = (system.record worker).instanceId + 1 ∧
      (system.slots worker).threads = [] ∧ (system.slots worker).loops = [] ∧
      registeredIn system.publication.publication worker = false ∧
      (0 < (system.record worker).instanceId →
        .quiesced worker (system.record worker).instanceId ∈ system.log) ∧
      (∀ instanceId, .registered worker instanceId ∈ system.log →
        instanceId ≤ (system.publication.publication.epochs worker).quiescedThroughInstanceId) ∧
      ∀ instanceId, .joinFailed worker instanceId ∉ system.log := by
  obtain ⟨now, -, hmove⟩ := h.move hstep hworker
  have hsound := h.sound worker hworker
  have htold := h.told worker hworker
  obtain ⟨⟨caller, port, hplace⟩, -, hinstance, hthread, hnext, -⟩ := hmove.admits hid
  have hplace : (system.view worker).place = .here (.create caller port .admission) := hplace
  have hidle : (system.view worker).record.state.idle = true := by
    have hstands := hsound.stands
    rw [hplace] at hstands
    exact hstands
  have hgone : (system.view worker).registered = false := hsound.registered.vacant hidle
  refine ⟨hnext, hsound.hosted.unthreaded hthread, ?_, hgone, fun hpos => ?_,
    fun instanceId hmem => ?_, fun instanceId hmem => ?_⟩
  · have hloops := hsound.loops
    rw [View.loops_eq (by rw [hplace]; rfl)] at hloops
    exact hloops.trans (congrArg Option.toList hinstance)
  · exact (mem_history rfl).mp (htold.last hidle hpos)
  · exact (htold.registered instanceId ((mem_history rfl).mpr hmem)).trans
      (hsound.registered.quiesced hgone)
  · have hdown := htold.failed instanceId ((mem_history rfl).mpr hmem)
    rw [hplace] at hdown
    cases hdown

/-- A failed join leaves the instance as it is. -/
theorem Inv.join_failed (h : Inv config system) (hstep : system.step label = some next)
    {worker : Nat} (hworker : worker < config.workerCount) {instanceId : Nat}
    (hlog : next.log = .joinFailed worker instanceId :: system.log) :
    instanceId = (system.record worker).instanceId ∧
      (next.slots worker).threads = (system.slots worker).threads ∧
      (next.slots worker).loops = (system.slots worker).loops ∧
      registeredIn next.publication.publication worker =
        registeredIn system.publication.publication worker ∧
      next.publication.publication.epochs worker = system.publication.publication.epochs worker := by
  obtain ⟨now, -, hmove⟩ := h.move hstep hworker
  exact hmove.join_failed (history_cons rfl hlog)

/-- In every run:

* a record has at most one loop and one thread, the thread runs the loop of the
  record for its current instance, and no two loops use one shard;
* a published slot carries the instance of the record, and the ids of the
  instances created, the newest first, decrease;
* a step that changes an instance id adds one to it, finds no thread, loop or
  registration left, and the old instance quiesced; every instance that was
  registered is within `quiesced_through_instance_id`, and no join has failed;
* a call for a former instance changes neither a record nor the publication;
* a failed join leaves the thread, the loop and the registration of the instance. -/
theorem one_live_instance (hunused : Unused publication)
    (hrun : Transition.run step (new config publication) labels = some system) :
    (∀ worker < config.workerCount,
      (system.slots worker).loops.length ≤ 1 ∧ (system.slots worker).threads.length ≤ 1 ∧
      (∀ thread ∈ (system.slots worker).threads,
        thread.instanceId = (system.record worker).instanceId ∧
        ∃ loop, (system.record worker).currentInstance = some loop ∧
          loop.instanceId = (system.record worker).instanceId ∧
          (system.slots worker).loops = [loop]) ∧
      Published (system.record worker) ∧
      ((system.history worker).filterMap (Event.created? worker)).Pairwise (· > ·)) ∧
    (∀ worker < config.workerCount, ∀ other < config.workerCount,
      ∀ loop ∈ (system.slots worker).loops, ∀ loop' ∈ (system.slots other).loops,
        loop.shard = loop'.shard → worker = other ∧ loop = loop') ∧
    (∀ label next, system.step label = some next → ∀ worker < config.workerCount,
      (next.record worker).instanceId ≠ (system.record worker).instanceId →
        (next.record worker).instanceId = (system.record worker).instanceId + 1 ∧
        (system.slots worker).threads = [] ∧ (system.slots worker).loops = [] ∧
        registeredIn system.publication.publication worker = false ∧
        (0 < (system.record worker).instanceId →
          .quiesced worker (system.record worker).instanceId ∈ system.log) ∧
        (∀ instanceId, .registered worker instanceId ∈ system.log →
          instanceId ≤ (system.publication.publication.epochs worker).quiescedThroughInstanceId) ∧
        ∀ instanceId, .joinFailed worker instanceId ∉ system.log) ∧
    (∀ worker instanceId action next,
      system.step (.stale worker instanceId action) = some next →
        next.slots = system.slots ∧ next.shared = system.shared ∧
        next.publication = system.publication ∧ next.pc = system.pc) ∧
    (∀ label next, system.step label = some next → ∀ worker < config.workerCount,
      ∀ instanceId, next.log = .joinFailed worker instanceId :: system.log →
        instanceId = (system.record worker).instanceId ∧
        (next.slots worker).threads = (system.slots worker).threads ∧
        (next.slots worker).loops = (system.slots worker).loops ∧
        registeredIn next.publication.publication worker =
          registeredIn system.publication.publication worker ∧
        next.publication.publication.epochs worker =
          system.publication.publication.epochs worker) := by
  have h := Inv.reached hunused hrun
  refine ⟨fun worker hworker => ?_, fun worker hworker other hother loop hmem loop' hmem' hshard =>
    h.shards hworker hother hmem hmem' hshard, ?_, ?_, ?_⟩
  · exact ⟨h.loops_length hworker, h.threads_length hworker, fun thread hmem =>
      h.threads hworker hmem, (h.sound worker hworker).published, (h.told worker hworker).ordered⟩
  · exact fun label next hstep worker hworker hid => h.admits hstep hworker hid
  · exact fun worker instanceId action next hstep => step_stale hstep
  · exact fun label next hstep worker hworker instanceId hlog => h.join_failed hstep hworker hlog

/-- One worker, with restarts. -/
def oneWorker : Config :=
  { workerCount := 1, cacheShards := some 1, recovery := { policy := .restart } }

/-- Steps of the control thread at one time. -/
def controls (count : Nat) (now : TimePoint) : List Label :=
  List.replicate count (.control { now := now })

/-- The worker of a released service fails, and is replaced after its backoff. -/
def replacedWorker : List Label :=
  [.run] ++ controls 8 0 ++ [.refresh 0 0, .thread 0 0 (.reportReady ⟨.ready, none⟩)] ++
    controls 6 0 ++ [.requestActivation, .thread 0 0 .reportActivated] ++ controls 8 0 ++
    [.releaseDataPlane, .thread 0 0 (.reportCompletion {} 0)] ++ controls 23 0 ++
    controls 11 100000000

/-- A publication for one worker that has not been used. -/
def freshPublication : Publication.System :=
  (Publication.System.new ⟨0, 1, 0, 0⟩ 1 1).get rfl

theorem one_live_instance_replaced : ∃ system,
    Transition.run step (new oneWorker freshPublication) replacedWorker = some system ∧
    (system.record 0).instanceId = 2 ∧ (system.slots 0).threads.map (·.instanceId) = [2] ∧
    (system.slots 0).loops.length ≤ 1 := by
  refine ⟨_, rfl, by decide, by decide, ?_⟩
  exact ((@one_live_instance oneWorker freshPublication _ replacedWorker
    (fun _ => ⟨rfl, rfl⟩) rfl).1 0 (by decide)).1

end System

end DnsPro.Supervisor
