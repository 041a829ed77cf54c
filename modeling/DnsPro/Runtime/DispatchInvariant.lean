import DnsPro.Runtime.DispatchFrames

/-!
# The invariant of the dispatcher

`Sound state dispatcher current` ties the state to the abstract dispatcher that its
log leads to: the queue and the root tasks of the dispatcher are what the links
spell out, and the root tasks that have ended are destroyed.  Only `current`, the
task that the loop has resumed, executes or is a root task at its end.

Each operation of the scheduler has one lemma that says which dispatcher it leads to.
-/

namespace DnsPro.Runtime.Dispatch

open Transition

variable {state next : State} {dispatcher : FifoDispatcher} {current : Option TaskId}
  {task other child : Nat} {ready roots front back : List TaskId}

structure Sound (state : State) (dispatcher : FifoDispatcher) (current : Option TaskId) :
    Prop where
  ready : ReadyList state dispatcher.queue
  roots : RootList state dispatcher.roots
  frames : Frames state
  ended : ∀ task ∈ dispatcher.ended, task ∈ state.destroyed
  executing : ∀ task, (state.promises task).point = .executing → current = some task
  final : ∀ task, (state.promises task).root = true → (state.promises task).point = .final →
    current = some task
  log : run FifoDispatcher.step {} state.log = some dispatcher

/-! ## The fields that say where the program is -/

/-- What the lists and the frames have nothing to do with. -/
structure Status where
  control : Control
  running : Bool
  dispatching : Bool
  cancelPending : Bool
  shutdownPending : Bool
  frames : Nat

def State.status (state : State) : Status where
  control := state.control
  running := state.running
  dispatching := state.dispatching
  cancelPending := state.cancelPending
  shutdownPending := state.shutdownPending
  frames := state.frames

@[simp] theorem update_status (change : Promise → Promise) :
    (state.update task change).status = state.status := rfl

@[simp] theorem setPoint_status (point : Point) :
    (state.setPoint task point).status = state.status := rfl

@[simp] theorem record_status (event : DispatchEvent) :
    (state.record event).status = state.status := rfl

@[simp] theorem destroy_status : (state.destroy task).status = state.status := rfl

@[simp] theorem takeFront_status : (state.takeFront task).status = state.status := rfl

@[simp] theorem observe_status : state.observeExternalStop.status = state.status := by
  unfold State.observeExternalStop
  split <;> rfl

@[simp] theorem enqueue_status : (state.enqueue task).status = state.status := by
  rw [enqueue_eq]
  rfl

@[simp] theorem linkRoot_status : (state.linkRoot task).status = state.status := by
  rw [linkRoot_eq]
  rfl

@[simp] theorem unlinkRoot_status : (state.unlinkRoot task).status = state.status := by
  by_cases hroot : (state.promises task).root = true
  · rw [unlinkRoot_eq hroot]
    rfl
  · unfold State.unlinkRoot
    rw [if_pos (by simpa using hroot)]

theorem unlinkRoot_log : (state.unlinkRoot task).log = state.log := by
  by_cases hroot : (state.promises task).root = true
  · rw [unlinkRoot_eq hroot]
  · unfold State.unlinkRoot
    rw [if_pos (by simpa using hroot)]

theorem destroyRoots_log (fuel : Nat) (state : State) :
    (State.destroyRoots fuel state).log = state.log := by
  induction fuel generalizing state with
  | zero => rfl
  | succ fuel ih =>
    unfold State.destroyRoots
    split
    · rfl
    · exact (ih _).trans unlinkRoot_log

theorem cancelAllNow_log : state.cancelAllNow.log = state.log ++ [.cancelled] := by
  show (State.destroyRoots state.frames state.clearReady).log ++ [.cancelled] = _
  rw [destroyRoots_log, clearReady_eq]

@[simp] theorem clearReady_status : state.clearReady.status = state.status := by
  rw [clearReady_eq]
  rfl

@[simp] theorem resume_status : (state.resume task).status = state.status := by
  unfold State.resume
  split <;> rfl

@[simp] theorem schedule_status : (state.schedule task).2.status = state.status := by
  unfold State.schedule
  dsimp only
  split_ifs <;> simp

@[simp] theorem destroyRoots_status (fuel : Nat) (state : State) :
    (State.destroyRoots fuel state).status = state.status := by
  induction fuel generalizing state with
  | zero => rfl
  | succ fuel ih =>
    rw [State.destroyRoots]
    split
    · rfl
    · rw [ih]
      simp

@[simp] theorem cancelAllNow_status : state.cancelAllNow.status = state.status := by
  unfold State.cancelAllNow
  simp

@[simp] theorem finishRoot_status : (state.finishRoot task).status = state.status := by
  unfold State.finishRoot
  dsimp only
  split
  · rw [record_status, destroy_status, unlinkRoot_status]
    rfl
  · rw [record_status, destroy_status, unlinkRoot_status]

/-! ## Operations that leave the lists alone -/

/-- Fields that the invariant does not read are written. -/
theorem Sound.congr (h : Sound state dispatcher current)
    (hready : next.readyHead = state.readyHead ∧ next.readyTail = state.readyTail ∧
      next.readyCount = state.readyCount)
    (hroots : next.rootHead = state.rootHead ∧ next.activeCount = state.activeCount)
    (hpromises : next.promises = state.promises) (hframes : state.frames ≤ next.frames)
    (hdestroyed : next.destroyed = state.destroyed) (hlog : next.log = state.log) :
    Sound next dispatcher current := by
  refine ⟨?_, ?_, h.frames.congr hframes hpromises hdestroyed, ?_, ?_, ?_, ?_⟩
  · exact h.ready.congr (fun _ _ => by rw [hpromises]) (fun _ => by rw [hpromises]) hready.1
      hready.2.1 hready.2.2
  · exact h.roots.congr (fun _ _ => by rw [hpromises]) (fun _ _ => by rw [hpromises])
      (fun _ => by rw [hpromises]) hroots.1 hroots.2
  · rw [hdestroyed]
    exact h.ended
  · rw [hpromises]
    exact h.executing
  · rw [hpromises]
    exact h.final
  · rw [hlog]
    exact h.log

theorem Sound.observe (h : Sound state dispatcher current) :
    Sound state.observeExternalStop dispatcher current := by
  unfold State.observeExternalStop
  split
  · exact h.congr ⟨rfl, rfl, rfl⟩ ⟨rfl, rfl⟩ rfl le_rfl rfl rfl
  · exact h

/-- An event that changes nothing but the call, the executing task and the pending
cancellation of the dispatcher. -/
theorem Sound.record (h : Sound state dispatcher current) {event : DispatchEvent}
    {after : FifoDispatcher} (hstep : FifoDispatcher.step dispatcher event = some after)
    (hqueue : after.queue = dispatcher.queue) (hroots : after.roots = dispatcher.roots)
    (hended : after.ended = dispatcher.ended) :
    Sound (state.record event) after current := by
  refine ⟨?_, ?_, h.frames.congr le_rfl rfl rfl, ?_, h.executing, h.final, ?_⟩
  · rw [hqueue]
    exact h.ready.congr (fun _ _ => rfl) (fun _ => rfl) rfl rfl rfl
  · rw [hroots]
    exact h.roots.congr (fun _ _ => rfl) (fun _ _ => rfl) (fun _ => rfl) rfl rfl
  · rw [hended]
    exact h.ended
  · exact FifoDispatcher.run_snoc.mpr ⟨dispatcher, h.log, hstep⟩

theorem Sound.queued_lt_frames (h : Sound state dispatcher current)
    (hqueue : task ∈ dispatcher.queue) : task < state.frames := by
  apply h.frames.lt_frames
  intro heq
  have := (h.ready.queued task).mpr hqueue
  rw [heq] at this
  cases this

theorem Sound.root_lt_frames (h : Sound state dispatcher current)
    (hroots : task ∈ dispatcher.roots) : task < state.frames := by
  apply h.frames.lt_frames
  intro heq
  have := (h.roots.root task).mpr hroots
  rw [heq] at this
  cases this

theorem length_le_of_lt {list : List Nat} {bound : Nat} (hnodup : list.Nodup)
    (hlt : ∀ task ∈ list, task < bound) : list.length ≤ bound := by
  have hsub : list ⊆ List.range bound := fun task htask => List.mem_range.mpr (hlt task htask)
  have := (List.subperm_of_subset hnodup hsub).length_le
  rwa [List.length_range] at this

theorem Sound.queue_length_le (h : Sound state dispatcher current) :
    dispatcher.queue.length ≤ state.frames :=
  length_le_of_lt h.ready.nodup fun _ => h.queued_lt_frames

theorem Sound.roots_length_le (h : Sound state dispatcher current) :
    dispatcher.roots.length ≤ state.frames :=
  length_le_of_lt h.roots.nodup fun _ => h.root_lt_frames

/-- A write that the lists do not read. -/
theorem Sound.update (h : Sound state dispatcher current) {change : Promise → Promise}
    {after : Option TaskId}
    (hlinks : ∃ bound point exception continuation, change (state.promises task) =
      { state.promises task with
        bound := bound
        point := point
        exception := exception
        continuation := continuation })
    (hframes : Frames (state.update task change))
    (hexecuting : ∀ other, ((state.update task change).promises other).point = .executing →
      after = some other)
    (hfinal : ∀ other, (state.promises other).root = true →
      ((state.update task change).promises other).point = .final → after = some other) :
    Sound (state.update task change) dispatcher after := by
  obtain ⟨bound, point, exception, continuation, hchange⟩ := hlinks
  refine ⟨h.ready.update (by rw [hchange]) (by rw [hchange]),
    h.roots.update (by rw [hchange]) (by rw [hchange]) (by rw [hchange]), hframes, h.ended,
    hexecuting, ?_, h.log⟩
  intro other hroot
  apply hfinal other
  rw [update_promises] at hroot
  split at hroot
  · rename_i heq
    rw [hchange] at hroot
    rw [heq]
    exact hroot
  · exact hroot

/-! ## `schedule` -/

/-- What `schedule` does: nothing, or the task goes to the end of the list. -/
theorem schedule_cases (state : State) (task : TaskId) :
    ((state.schedule task).1 ≠ .scheduled ∧ (state.schedule task).2 = state) ∨
      (state.schedule task = (.scheduled, (state.enqueue task).record (.scheduled task)) ∧
        state.running = true ∧ (state.promises task).bound = true ∧
        (state.promises task).point ≠ .final ∧ (state.promises task).point ≠ .destroyed ∧
        (state.promises task).queued = false) := by
  unfold State.schedule
  dsimp only
  split_ifs with hrunning hbound hdone hqueued
  · left; simp
  · left; simp
  · left; simp
  · left; simp
  · right
    obtain ⟨hfinal, hdestroyed⟩ := not_or.mp hdone
    simp [hrunning, hbound, hfinal, hdestroyed, hqueued]

theorem Point.resumable_of_ne {point : Point} (hexecuting : point ≠ .executing)
    (hfinal : point ≠ .final) (hdestroyed : point ≠ .destroyed) : point.isResumable = true := by
  cases point with
  | executing => exact absurd rfl hexecuting
  | final => exact absurd rfl hfinal
  | destroyed => exact absurd rfl hdestroyed
  | initial | yielded | query _ | sleep _ | child _ => rfl

/-- The task goes to the end of the queue. -/
theorem Sound.enqueue (h : Sound state dispatcher current)
    (hbound : (state.promises task).bound = true)
    (hresumable : (state.promises task).point.isResumable = true)
    (hqueued : (state.promises task).queued = false) :
    Sound ((state.enqueue task).record (.scheduled task))
      { dispatcher with queue := dispatcher.queue ++ [task] } current := by
  have hqueue : task ∉ dispatcher.queue := by
    rw [← h.ready.queued, hqueued]
    exact Bool.false_ne_true
  have hseen : task < state.frames := by
    apply h.frames.lt_frames
    intro heq
    rw [heq] at hbound
    cases hbound
  refine ⟨?_, ?_, ?_, ?_, ?_, ?_, ?_⟩
  · exact (h.ready.enqueue hqueue).congr (fun _ _ => rfl) (fun _ => rfl) rfl rfl rfl
  · exact (h.roots.enqueue task).congr (fun _ _ => rfl) (fun _ _ => rfl) (fun _ => rfl) rfl rfl
  · exact (h.frames.enqueue h.ready hseen hresumable).congr le_rfl rfl rfl
  · show ∀ task ∈ dispatcher.ended, task ∈ (state.enqueue _).destroyed
    rw [enqueue_eq]
    exact h.ended
  · intro other
    show ((state.enqueue task).promises other).point = _ → _
    rw [enqueue_promises]
    exact h.executing other
  · intro other
    show ((state.enqueue task).promises other).root = _ →
      ((state.enqueue task).promises other).point = _ → _
    rw [enqueue_promises]
    exact h.final other
  · show run FifoDispatcher.step {} ((state.enqueue task).log ++ [.scheduled task]) = _
    rw [enqueue_eq]
    exact FifoDispatcher.run_snoc.mpr ⟨dispatcher, h.log, if_pos hqueue⟩

theorem Sound.schedule (h : Sound state dispatcher current)
    (hexecuting : (state.promises task).point ≠ .executing) :
    ∃ queue, Sound (state.schedule task).2 { dispatcher with queue := queue } current ∧
      (state.running = false → queue = dispatcher.queue) := by
  obtain ⟨_, hsame⟩ | ⟨heq, hrunning, hbound, hfinal, hdestroyed, hqueued⟩ :=
    schedule_cases state task
  · rw [hsame]
    exact ⟨dispatcher.queue, h, fun _ => rfl⟩
  · rw [heq]
    refine ⟨dispatcher.queue ++ [task],
      h.enqueue hbound (Point.resumable_of_ne hexecuting hfinal hdestroyed) hqueued, ?_⟩
    intro hstopped
    rw [hrunning] at hstopped
    cases hstopped

theorem observe_promises (state : State) : state.observeExternalStop.promises = state.promises := by
  unfold State.observeExternalStop
  split <;> rfl

theorem observe_log (state : State) : state.observeExternalStop.log = state.log := by
  unfold State.observeExternalStop
  split <;> rfl

theorem Sound.withFrame (h : Sound state dispatcher current) :
    Sound state.withFrame dispatcher current :=
  h.congr ⟨rfl, rfl, rfl⟩ ⟨rfl, rfl⟩ rfl (Nat.le_succ _) rfl rfl

/-! ## `spawn` -/

/-- What `spawn` does: nothing but to observe a stop, or the task becomes a root task
and goes to the end of the list. -/
theorem spawn_cases (hnew : state.promises task = {}) :
    (state.spawn (some task)).2 = state ∨
      (state.spawn (some task)).2 = state.observeExternalStop ∨
      (state.running = true ∧ (state.spawn (some task)).2 =
        ((((state.observeExternalStop.bind task).linkRoot task).enqueue task).record
            (.scheduled task)).record (.spawned task)) := by
  have hpromises := observe_promises state
  have hrunning : state.observeExternalStop.running = state.running :=
    congrArg Status.running observe_status
  have hbound : (state.observeExternalStop.bind task).promises task = { bound := true } := by
    unfold State.bind
    rw [update_promises, if_pos rfl, hpromises, hnew]
  unfold State.spawn
  dsimp only
  by_cases hstopped : state.running = false
  · left
    rw [if_pos hstopped]
  · right
    rw [if_neg hstopped]
    by_cases haccepting : state.observeExternalStop.accepting = false ∨
        state.observeExternalStop.stopRequested = true
    · left
      rw [if_pos haccepting]
    · right
      -- A new task passes the checks, and it can be scheduled.
      rw [if_neg haccepting, hbound, if_neg (by simp)]
      have hschedule : ((state.observeExternalStop.bind task).linkRoot task).schedule task =
          (.scheduled, (((state.observeExternalStop.bind task).linkRoot task).enqueue task).record
            (.scheduled task)) := by
        have hlinked : ((state.observeExternalStop.bind task).linkRoot task).running = true := by
          rw [linkRoot_eq]
          exact hrunning.trans (by simpa using hstopped)
        unfold State.schedule
        rw [linkRoot_promises, hbound]
        simp [hlinked]
      rw [hschedule]
      exact ⟨by simpa using hstopped, rfl⟩

theorem Sound.bind (h : Sound state dispatcher current) (hnew : state.promises task = {})
    (hseen : task < state.frames) : Sound (state.bind task) dispatcher current := by
  have hpoint : ∀ other, ((state.bind task).promises other).point =
      (state.promises other).point := by
    intro other
    unfold State.bind
    rw [update_promises]
    split
    · rename_i heq
      rw [heq]
    · rfl
  apply h.update
  · exact ⟨true, _, _, _, rfl⟩
  · apply h.frames.update _ _ hseen <;> rw [hnew]
    all_goals simp
  · intro other heq
    exact h.executing other ((hpoint other).symm.trans heq)
  · intro other hroot heq
    exact h.final other hroot ((hpoint other).symm.trans heq)

/-- A new task becomes a root task and goes to the end of the queue. -/
theorem Sound.adoptRoot (h : Sound state dispatcher current)
    (htask : state.promises task = { bound := true }) (hseen : task < state.frames)
    (hended : task ∉ dispatcher.ended) :
    Sound ((((state.linkRoot task).enqueue task).record (.scheduled task)).record (.spawned task))
      { dispatcher with
        queue := dispatcher.queue ++ [task]
        roots := task :: dispatcher.roots } current := by
  have hqueue : task ∉ dispatcher.queue := by
    rw [← h.ready.queued, htask]
    exact Bool.false_ne_true
  have hroots : task ∉ dispatcher.roots := by
    rw [← h.roots.root, htask]
    exact Bool.false_ne_true
  have hlinked := h.frames.linkRoot h.roots hseen (by rw [htask]) (by rw [htask]; simp)
  have hpoint : ∀ other, (((state.linkRoot task).enqueue task).promises other).point =
      (state.promises other).point := by
    intro other
    rw [enqueue_promises, linkRoot_promises]
  refine ⟨?_, ?_, ?_, ?_, ?_, ?_, ?_⟩
  · exact ((h.ready.linkRoot task).enqueue hqueue).congr (fun _ _ => rfl) (fun _ => rfl)
      rfl rfl rfl
  · exact ((h.roots.linkRoot hroots).enqueue task).congr (fun _ _ => rfl) (fun _ _ => rfl)
      (fun _ => rfl) rfl rfl
  · refine (hlinked.enqueue (h.ready.linkRoot task) ?_ ?_).congr le_rfl rfl rfl
    · rw [linkRoot_eq]
      exact hseen
    · rw [linkRoot_promises, htask]
      rfl
  · show ∀ task ∈ dispatcher.ended, task ∈ ((state.linkRoot _).enqueue _).destroyed
    rw [enqueue_eq, linkRoot_eq]
    exact h.ended
  · intro other heq
    exact h.executing other ((hpoint other).symm.trans heq)
  · intro other hroot heq
    have hroot' : (decide (other = task) || (state.promises other).root) = true := by
      have : (((state.linkRoot task).enqueue task).promises other).root = true := hroot
      rw [enqueue_promises, linkRoot_promises] at this
      exact this
    have hfinal := (hpoint other).symm.trans heq
    obtain hself | hroot' := Bool.or_eq_true_iff.mp hroot'
    · rw [of_decide_eq_true hself, htask] at hfinal
      cases hfinal
    · exact h.final other hroot' hfinal
  · show run FifoDispatcher.step {} ((((state.linkRoot task).enqueue task).log ++
      [.scheduled task]) ++ [.spawned task]) = _
    rw [enqueue_eq, linkRoot_eq]
    refine FifoDispatcher.run_snoc.mpr ⟨_, FifoDispatcher.run_snoc.mpr
      ⟨dispatcher, h.log, if_pos hqueue⟩, if_pos ⟨hroots, hended⟩⟩

theorem Sound.spawn (h : Sound state dispatcher current) :
    ∃ queue roots, Sound (state.withFrame.spawn (some state.frames)).2
      { dispatcher with queue := queue, roots := roots } current ∧
      (state.running = false → queue = dispatcher.queue ∧ roots = dispatcher.roots) ∧
      ∀ task : Nat, task < state.frames → (task ∈ roots ↔ task ∈ dispatcher.roots) := by
  have hframe := h.withFrame
  have hnew : state.withFrame.promises state.frames = {} := h.frames.unseen state.frames le_rfl
  obtain heq | heq | ⟨hrunning, heq⟩ := spawn_cases hnew
  · rw [heq]
    exact ⟨dispatcher.queue, dispatcher.roots, hframe, fun _ => ⟨rfl, rfl⟩, fun _ _ => Iff.rfl⟩
  · rw [heq]
    exact ⟨dispatcher.queue, dispatcher.roots, hframe.observe, fun _ => ⟨rfl, rfl⟩,
      fun _ _ => Iff.rfl⟩
  · have hobserved := hframe.observe
    have hnewobserved : state.withFrame.observeExternalStop.promises state.frames = {} := by
      rw [observe_promises]
      exact hnew
    have hseen : state.frames < state.withFrame.observeExternalStop.frames := by
      have : state.withFrame.observeExternalStop.frames = state.frames + 1 :=
        congrArg Status.frames (@observe_status state.withFrame)
      omega
    have hbound := hobserved.bind hnewobserved hseen
    have hended : state.frames ∉ dispatcher.ended := by
      intro hmem
      have := (h.frames.destroyed state.frames).mp (h.ended state.frames hmem)
      rw [h.frames.unseen state.frames le_rfl] at this
      cases this
    rw [heq]
    refine ⟨_, _, hbound.adoptRoot ?_ hseen hended, ?_, ?_⟩
    · unfold State.bind
      rw [update_promises, if_pos rfl, hnewobserved]
    · intro hstopped
      have : state.running = true := hrunning
      rw [this] at hstopped
      cases hstopped
    · intro task hlt
      rw [List.mem_cons]
      simp [hlt.ne]

theorem spawn_status (h : Sound state dispatcher current) :
    (state.withFrame.spawn (some state.frames)).2.status = state.withFrame.status := by
  have hnew : state.withFrame.promises state.frames = {} := h.frames.unseen state.frames le_rfl
  obtain heq | heq | ⟨_, heq⟩ := spawn_cases hnew
  · rw [heq]
  · rw [heq, observe_status]
  · rw [heq]
    simp only [record_status, enqueue_status, linkRoot_status]
    exact observe_status

/-! ## What a task does -/

/-- The current task moves to a point where it waits for no child. -/
theorem Sound.move (h : Sound state dispatcher (some task))
    (hchild : ∀ child, (state.promises task).point ≠ .child child)
    (hlive : (state.promises task).point ≠ .destroyed)
    (hqueued : (state.promises task).queued = false) (hseen : task < state.frames)
    (exception : Bool) {point : Point} (hpoint : ∀ child, point ≠ .child child)
    (hpoint' : point ≠ .destroyed) :
    Sound (state.update task fun promise =>
      { promise with exception := exception, point := point }) dispatcher (some task) := by
  have hothers : ∀ other, other ≠ task → ((state.update task fun promise =>
      { promise with exception := exception, point := point }).promises other) =
        state.promises other := by
    intro other hne
    rw [update_promises, if_neg hne]
  apply h.update
  · exact ⟨_, point, exception, _, rfl⟩
  · exact h.frames.update hchild hlive hseen hpoint hpoint' rfl rfl hqueued
  · intro other heq
    by_cases hother : other = task
    · rw [hother]
    · rw [hothers other hother] at heq
      exact h.executing other heq
  · intro other hroot heq
    by_cases hother : other = task
    · rw [hother]
    · rw [hothers other hother] at heq
      exact h.final other hroot heq

/-- The current task executes, and it is not queued. -/
theorem Sound.not_queued (h : Sound state dispatcher current)
    (hpoint : (state.promises task).point = .executing) :
    (state.promises task).queued = false := by
  rw [← Bool.not_eq_true]
  intro hqueued
  have := h.frames.queued task hqueued
  rw [hpoint] at this
  cases this

theorem Sound.suspend (h : Sound state dispatcher (some task))
    (htask : (state.promises task).point = .executing) (hseen : task < state.frames)
    {point : Point} (hpoint : ∀ child, point ≠ .child child) (hpoint' : point ≠ .destroyed) :
    Sound (state.setPoint task point) dispatcher (some task) :=
  h.move (by rw [htask]; simp) (by rw [htask]; simp) (h.not_queued htask) hseen
    (state.promises task).exception hpoint hpoint'

theorem setPoint_promises (point : Point) :
    (state.setPoint task point).promises other =
      if other = task then { state.promises task with point := point }
      else state.promises other :=
  update_promises _

theorem Sound.yield (h : Sound state dispatcher (some task))
    (htask : (state.promises task).point = .executing) (hseen : task < state.frames) :
    (state.yield task).status = state.status ∧
      ∃ queue, Sound (state.yield task) { dispatcher with queue := queue } (some task) ∧
        (state.running = false → queue = dispatcher.queue) := by
  have hsuspended := @Sound.suspend state dispatcher task h htask hseen .yielded (by simp) (by simp)
  have hpoint : ((state.setPoint task .yielded).promises task).point = .yielded := by
    rw [setPoint_promises, if_pos rfl]
  obtain ⟨hfailed, hsame⟩ | ⟨heq, hrunning, hbound, _, _, hqueued⟩ :=
    schedule_cases (state.setPoint task .yielded) task
  · have hyield : state.yield task = (state.setPoint task .yielded).setPoint task .executing := by
      unfold State.yield
      dsimp only
      rw [if_neg hfailed, hsame]
    rw [hyield]
    refine ⟨rfl, dispatcher.queue, ?_, fun _ => rfl⟩
    refine hsuspended.move ?_ ?_ ?_ hseen ((state.setPoint task .yielded).promises task).exception
      (by simp) (by simp)
    · rw [hpoint]
      simp
    · rw [hpoint]
      simp
    · rw [setPoint_promises, if_pos rfl]
      exact h.not_queued htask
  · have hyield : state.yield task =
        ((state.setPoint task .yielded).enqueue task).record (.scheduled task) := by
      unfold State.yield
      dsimp only
      rw [heq]
      rfl
    rw [hyield]
    refine ⟨by simp, _, hsuspended.enqueue hbound (by rw [hpoint]; rfl) hqueued, ?_⟩
    intro hstopped
    exact absurd (hstopped.symm.trans hrunning) Bool.false_ne_true

theorem Sound.complete (h : Sound state dispatcher (some task))
    (htask : (state.promises task).point = .executing) (hseen : task < state.frames)
    (throws : Bool) :
    (state.complete task throws).status = state.status ∧
      ∃ queue, Sound (state.complete task throws) { dispatcher with queue := queue } (some task) ∧
        (state.running = false → queue = dispatcher.queue) := by
  have hended := @Sound.move state dispatcher task h (by rw [htask]; simp) (by rw [htask]; simp)
    (h.not_queued htask) hseen throws .final (by simp) (by simp)
  unfold State.complete
  dsimp only
  split
  · exact ⟨rfl, dispatcher.queue, hended, fun _ => rfl⟩
  · rename_i parent hparent
    have hwaits := hended.frames.waits task parent hparent
    obtain ⟨hfailed, hsame⟩ | ⟨heq, hrunning, hbound, hfinal, hdestroyed, hqueued⟩ :=
      schedule_cases (state.update task fun promise =>
        { promise with exception := throws, point := .final }) parent
    · rw [if_neg hfailed, hsame]
      exact ⟨rfl, dispatcher.queue,
        hended.congr ⟨rfl, rfl, rfl⟩ ⟨rfl, rfl⟩ rfl le_rfl rfl rfl, fun _ => rfl⟩
    · rw [heq]
      refine ⟨by simp, _, hended.enqueue hbound (by rw [hwaits]; rfl) hqueued, ?_⟩
      intro hstopped
      exact absurd (hstopped.symm.trans hrunning) Bool.false_ne_true

/-- The state before the child is scheduled. -/
theorem Sound.adopt (h : Sound state dispatcher (some task))
    (htask : (state.promises task).point = .executing) (hchild : state.promises child = {})
    (hlt : task < child) (hseen : child < state.frames) :
    Sound (((state.setPoint task (.child child)).bind child).update child fun promise =>
      { promise with continuation := some task }) dispatcher (some task) := by
  have hframes := h.frames.adopt htask hchild hlt hseen
  have hpromises : ∀ other, ∃ bound point continuation,
      (((state.setPoint task (.child child)).bind child).update child fun promise =>
        { promise with continuation := some task }).promises other =
          { state.promises other with
            bound := bound
            point := point
            continuation := continuation } ∧
        (other ≠ task → point = (state.promises other).point) := by
    intro other
    unfold State.setPoint State.bind
    simp only [update_promises, if_neg hlt.ne', if_true]
    by_cases hother : other = child
    · rw [if_pos hother, hother]
      exact ⟨true, _, some task, rfl, fun _ => rfl⟩
    · rw [if_neg hother, if_neg hother]
      by_cases hself : other = task
      · rw [if_pos hself, hself]
        exact ⟨_, .child child, _, rfl, fun hne => absurd rfl hne⟩
      · rw [if_neg hself]
        exact ⟨_, _, _, rfl, fun _ => rfl⟩
  refine ⟨?_, ?_, hframes, h.ended, ?_, ?_, h.log⟩
  · refine h.ready.congr ?_ ?_ rfl rfl rfl
    · intro other _
      obtain ⟨bound, point, continuation, heq, _⟩ := hpromises other
      rw [heq]
    · intro other
      obtain ⟨bound, point, continuation, heq, _⟩ := hpromises other
      rw [heq]
  · refine h.roots.congr ?_ ?_ ?_ rfl rfl
    · intro other _
      obtain ⟨bound, point, continuation, heq, _⟩ := hpromises other
      rw [heq]
    · intro other _
      obtain ⟨bound, point, continuation, heq, _⟩ := hpromises other
      rw [heq]
    · intro other
      obtain ⟨bound, point, continuation, heq, _⟩ := hpromises other
      rw [heq]
  · intro other
    obtain ⟨bound, point, continuation, heq, hpoint⟩ := hpromises other
    rw [heq]
    by_cases hself : other = task
    · intro _
      rw [hself]
    · rw [hpoint hself]
      exact h.executing other
  · intro other
    obtain ⟨bound, point, continuation, heq, hpoint⟩ := hpromises other
    rw [heq]
    by_cases hself : other = task
    · intro _ _
      rw [hself]
    · rw [hpoint hself]
      exact h.final other

theorem Sound.awaitTask (h : Sound state dispatcher (some task))
    (htask : (state.promises task).point = .executing) (hseen : task < state.frames)
    (hrunning : state.running = true) :
    (state.withFrame.awaitTask task state.frames).status = state.withFrame.status ∧
      ∃ queue, Sound (state.withFrame.awaitTask task state.frames)
        { dispatcher with queue := queue } (some task) := by
  have hobserved := h.withFrame.observe
  have hstatus : state.withFrame.observeExternalStop.status = state.withFrame.status :=
    observe_status
  have hpromises : state.withFrame.observeExternalStop.promises = state.promises :=
    observe_promises _
  have hframes : state.withFrame.observeExternalStop.frames = state.frames + 1 :=
    congrArg Status.frames hstatus
  have hadopted := @Sound.adopt _ _ task state.frames hobserved (by rw [hpromises]; exact htask)
    (by rw [hpromises]; exact h.frames.unseen _ le_rfl) hseen
    (by rw [hframes]; exact Nat.lt_succ_self _)
  -- The child is new, so it can be scheduled.
  have hchild : ((((state.withFrame.observeExternalStop.setPoint task (.child state.frames)).bind
      state.frames).update state.frames fun promise =>
        { promise with continuation := some task }).promises state.frames) =
          { bound := true, continuation := some task } := by
    unfold State.bind
    simp only [update_promises, if_true, setPoint_promises, if_neg hseen.ne', hpromises]
    rw [h.frames.unseen _ le_rfl]
  have hschedule : (((state.withFrame.observeExternalStop.setPoint task
      (.child state.frames)).bind state.frames).update state.frames fun promise =>
        { promise with continuation := some task }).schedule state.frames =
      (.scheduled, ((((state.withFrame.observeExternalStop.setPoint task
        (.child state.frames)).bind state.frames).update state.frames fun promise =>
          { promise with continuation := some task }).enqueue state.frames).record
            (.scheduled state.frames)) := by
    have : (((state.withFrame.observeExternalStop.setPoint task
        (.child state.frames)).bind state.frames).update state.frames fun promise =>
          { promise with continuation := some task }).running = true :=
      (congrArg Status.running hstatus).trans hrunning
    unfold State.schedule
    rw [hchild]
    simp [this]
  unfold State.awaitTask
  dsimp only
  rw [hschedule]
  refine ⟨?_, _, hadopted.enqueue (by rw [hchild]) (by rw [hchild]; rfl) (by rw [hchild])⟩
  rw [if_pos rfl, record_status, enqueue_status, update_status]
  unfold State.bind
  rw [update_status, setPoint_status]
  exact hstatus

/-! ## The loop of `run_ready` -/

theorem chain_congr {promises promises' : TaskId → Promise}
    (hpoint : ∀ task, (promises' task).point = (promises task).point) (fuel : Nat)
    (task : TaskId) : State.chain promises' fuel task = State.chain promises fuel task := by
  induction fuel generalizing task with
  | zero => rfl
  | succ fuel ih =>
    rw [State.chain, State.chain, hpoint]
    split
    · rw [ih]
    · rfl

theorem resume_cases (state : State) (task : TaskId) :
    (∃ child, (state.promises task).point = .child child ∧
      state.resume task = (state.destroy child).setPoint task .executing) ∨
    (∀ child, (state.promises task).point ≠ .child child) ∧
      state.resume task = state.setPoint task .executing := by
  by_cases hchild : ∃ child, (state.promises task).point = .child child
  · obtain ⟨child, hpoint⟩ := hchild
    left
    refine ⟨child, hpoint, ?_⟩
    unfold State.resume
    rw [hpoint]
  · right
    have hfree : ∀ child, (state.promises task).point ≠ .child child :=
      fun child heq => hchild ⟨child, heq⟩
    refine ⟨hfree, ?_⟩
    unfold State.resume
    split
    · rename_i child heq
      exact absurd heq (hfree child)
    · rfl

theorem ReadyList.resume (h : ReadyList state ready)
    (hchild : ∀ child, (state.promises task).point = .child child →
      ∀ other ∈ state.owned child, (state.promises other).queued = false) :
    ReadyList (state.resume task) ready := by
  obtain ⟨child, hpoint, heq⟩ | ⟨_, heq⟩ := resume_cases state task
  · rw [heq]
    exact (h.destroy (hchild child hpoint)).update rfl rfl
  · rw [heq]
    exact h.update rfl rfl

theorem RootList.resume (h : RootList state roots) (hframes : Frames state) :
    RootList (state.resume task) roots := by
  obtain ⟨child, hpoint, heq⟩ | ⟨_, heq⟩ := resume_cases state task
  · rw [heq]
    exact (h.destroy (hframes.owned_not_root (hframes.child_not_root hpoint))).update rfl rfl rfl
  · rw [heq]
    exact h.update rfl rfl rfl

/-- Another frame than the one that goes on stays where it is or is destroyed. -/
theorem resume_others (hne : other ≠ task) :
    (state.resume task).promises other = state.promises other ∨
      (state.resume task).promises other = { point := .destroyed } := by
  obtain ⟨child, hpoint, heq⟩ | ⟨_, heq⟩ := resume_cases state task
  · rw [heq, setPoint_promises, if_neg hne, destroy_promises]
    split
    · exact Or.inr rfl
    · exact Or.inl rfl
  · rw [heq, setPoint_promises, if_neg hne]
    exact Or.inl rfl

theorem resume_log : (state.resume task).log = state.log := by
  obtain ⟨child, hpoint, heq⟩ | ⟨_, heq⟩ := resume_cases state task
  · rw [heq]
    rfl
  · rw [heq]
    rfl

theorem mem_resume_destroyed (hother : other ∈ state.destroyed) :
    other ∈ (state.resume task).destroyed := by
  obtain ⟨child, hpoint, heq⟩ | ⟨_, heq⟩ := resume_cases state task
  · rw [heq]
    exact List.mem_append_left _ hother
  · rw [heq]
    exact hother

/-- The state in which the loop calls `handle.resume()`. -/
def State.taken (state : State) (task : TaskId) : State :=
  { state.takeFront task with dispatching := true }

theorem taken_promises (state : State) (task other : TaskId) :
    (state.taken task).promises other =
      if other = task then { state.promises task with readyNext := none, queued := false }
      else state.promises other :=
  takeFront_promises state task other

theorem taken_point (state : State) (task other : TaskId) :
    ((state.taken task).promises other).point = (state.promises other).point := by
  rw [taken_promises]
  split
  · rename_i heq
    rw [heq]
  · rfl

theorem taken_owned (state : State) (task child : TaskId) :
    (state.taken task).owned child = state.owned child :=
  chain_congr (taken_point state task) _ child

/-- The promises after a task that waits for a child has gone on. -/
theorem resumed_promises (hpoint : (state.promises task).point = .child child)
    (hself : task ∉ state.owned child) (other : Nat) :
    ((state.taken task).resume task).promises other =
      if other = task then { (state.taken task).promises task with point := .executing }
      else if other ∈ state.owned child then { point := .destroyed }
      else state.promises other := by
  have hresume : (state.taken task).resume task =
      ((state.taken task).destroy child).setPoint task .executing := by
    unfold State.resume
    rw [taken_point, hpoint]
  rw [hresume, setPoint_promises, destroy_promises, destroy_promises, taken_owned, if_neg hself]
  split
  · rfl
  · rename_i hne
    rw [taken_promises, if_neg hne]

theorem resumed_readyHead (state : State) (task : TaskId) :
    ((state.taken task).resume task).readyHead = (state.promises task).readyNext := by
  unfold State.resume
  split <;> rfl

/-- The first task of the queue goes on.  No frame that is destroyed with its child is
on the ready list. -/
theorem Sound.resume (h : Sound state dispatcher none) {rest : List TaskId}
    (hqueue : dispatcher.queue = task :: rest)
    (hmay : FifoDispatcher.mayResume dispatcher.call = true)
    (hidle : dispatcher.executing = none) (hpending : dispatcher.pending = false)
    (hchild : ∀ child, (state.promises task).point = .child child →
      ∀ other ∈ state.owned child, (state.promises other).queued = false) :
    Sound (((state.taken task).resume task).record (.resumed task))
      { dispatcher with queue := rest, executing := some task } (some task) := by
  have hmem : task ∈ dispatcher.queue := by
    rw [hqueue]
    exact List.mem_cons_self
  have hseen := h.queued_lt_frames hmem
  have hresumable := h.frames.queued task ((h.ready.queued task).mpr hmem)
  have hready : ReadyList (state.taken task) rest := by
    have := h.ready
    rw [hqueue] at this
    exact this.takeFront.congr (fun _ _ => rfl) (fun _ => rfl) rfl rfl rfl
  have hroots : RootList (state.taken task) dispatcher.roots :=
    (h.roots.takeFront task).congr (fun _ _ => rfl) (fun _ _ => rfl) (fun _ => rfl) rfl rfl
  have hframes : Frames (state.taken task) := (h.frames.takeFront hseen).congr le_rfl rfl rfl
  have hqueued : ((state.taken task).promises task).queued = false := by
    rw [taken_promises, if_pos rfl]
  have hchild' : ∀ child, ((state.taken task).promises task).point = .child child →
      ∀ other ∈ (state.taken task).owned child,
        ((state.taken task).promises other).queued = false := by
    intro child heq other hother
    rw [taken_promises]
    split
    · rfl
    · rw [taken_owned] at hother
      exact hchild child ((taken_point state task task).symm.trans heq) other hother
  refine ⟨?_, ?_, ?_, ?_, ?_, ?_, ?_⟩
  · exact (hready.resume hchild').congr (fun _ _ => rfl) (fun _ => rfl) rfl rfl rfl
  · exact (hroots.resume hframes).congr (fun _ _ => rfl) (fun _ _ => rfl) (fun _ => rfl) rfl rfl
  · refine (hframes.resume hseen ?_ hqueued).congr le_rfl rfl rfl
    rw [taken_point]
    exact hresumable
  · intro other hother
    exact mem_resume_destroyed (h.ended other hother)
  · intro other heq
    by_cases hother : other = task
    · rw [hother]
    · exfalso
      have heq' : (((state.taken task).resume task).promises other).point = .executing := heq
      obtain hsame | hgone := @resume_others (state.taken task) task other hother
      · rw [hsame, taken_point] at heq'
        cases h.executing other heq'
      · rw [hgone] at heq'
        cases heq'
  · intro other hrooted heq
    by_cases hother : other = task
    · rw [hother]
    · exfalso
      have heq' : (((state.taken task).resume task).promises other).point = .final := heq
      have hrooted' : (((state.taken task).resume task).promises other).root = true := hrooted
      obtain hsame | hgone := @resume_others (state.taken task) task other hother
      · rw [hsame, taken_point] at heq'
        rw [hsame, taken_promises, if_neg hother] at hrooted'
        cases h.final other hrooted' heq'
      · rw [hgone] at heq'
        cases heq'
  · show run FifoDispatcher.step {} (((state.taken task).resume task).log ++ [.resumed task]) = _
    rw [resume_log]
    refine FifoDispatcher.run_snoc.mpr ⟨dispatcher, h.log, ?_⟩
    refine (if_pos ⟨?_, hmay, hidle, hpending⟩).trans ?_
    · rw [hqueue]
      rfl
    · rw [hqueue]
      rfl

/-! ## Frames that end -/

/-- A root task is unlinked and destroyed. -/
theorem Frames.release (h : Frames state) (hroots : RootList state (front ++ task :: back)) :
    Frames ((state.unlinkRoot task).destroy task) := by
  obtain ⟨hcontinuation, hlive⟩ := h.root task hroots.root_middle
  apply (h.unlinkRoot hroots).destroy
  · rw [hroots.unlinkRoot_promises]
    exact hcontinuation
  · rw [hroots.unlinkRoot_promises]
    exact hlive
  · rw [unlinkRoot_eq hroots.root_middle]
    apply h.lt_frames
    intro heq
    have := hroots.root_middle
    rw [heq] at this
    cases this

theorem RootList.release (h : RootList state (front ++ task :: back)) (hframes : Frames state) :
    RootList ((state.unlinkRoot task).destroy task) (front ++ back) := by
  apply h.unlinkRoot.destroy
  apply (hframes.unlinkRoot h).owned_not_root
  rw [h.unlinkRoot_promises]
  simp

theorem release_promises (hroots : RootList state (front ++ task :: back)) (other : Nat) :
    (((state.unlinkRoot task).destroy task).promises other).point =
        (state.promises other).point ∧
      ((((state.unlinkRoot task).destroy task).promises other).root = true →
        (state.promises other).root = true) ∨
    ((state.unlinkRoot task).destroy task).promises other = { point := .destroyed } := by
  rw [destroy_promises]
  split
  · exact Or.inr rfl
  · left
    rw [hroots.unlinkRoot_promises]
    exact ⟨rfl, fun hroot => (Bool.and_eq_true_iff.mp hroot).2⟩

/-- A task at its end owns nothing but itself, and it is not queued. -/
theorem ReadyList.release (h : ReadyList state ready)
    (hroots : RootList state (front ++ task :: back)) (hframes : Frames state)
    (hpoint : (state.promises task).point = .final) :
    ReadyList ((state.unlinkRoot task).destroy task) ready := by
  apply (h.unlinkRoot hroots).destroy
  intro other hother
  have hleaf : (state.unlinkRoot task).owned task = [task] := by
    apply Frames.owned_leaf
    intro child
    rw [hroots.unlinkRoot_promises, hpoint]
    simp
  rw [hleaf, List.mem_singleton] at hother
  rw [hroots.unlinkRoot_promises, hother, ← Bool.not_eq_true]
  intro hqueued
  have := hframes.queued task hqueued
  rw [hpoint] at this
  cases this

theorem Sound.finishRoot (h : Sound state dispatcher (some task))
    (hroot : task ∈ dispatcher.roots) (hpoint : (state.promises task).point = .final)
    (hidle : dispatcher.executing = none) :
    Sound (state.finishRoot task)
      { dispatcher with
        roots := dispatcher.roots.erase task
        ended := dispatcher.ended ++ [task] } none := by
  -- The state in which the exception of the task has been counted.
  obtain ⟨counted, hcounted, hpromises, hfinish⟩ : ∃ counted, Sound counted dispatcher (some task) ∧
      counted.promises = state.promises ∧
      state.finishRoot task =
        ((counted.unlinkRoot task).destroy task).record (.finished task) := by
    unfold State.finishRoot
    dsimp only
    split
    · exact ⟨{ state with unhandledRootExceptions := state.unhandledRootExceptions + 1 },
        h.congr ⟨rfl, rfl, rfl⟩ ⟨rfl, rfl⟩ rfl le_rfl rfl rfl, rfl, rfl⟩
    · exact ⟨state, h, rfl, rfl⟩
  rw [hfinish]
  rw [← hpromises] at hpoint
  obtain ⟨front, back, hsplit⟩ := List.append_of_mem hroot
  have hroots := hcounted.roots
  have hnodup := hcounted.roots.nodup
  rw [hsplit] at hroots hnodup
  have herase : dispatcher.roots.erase task = front ++ back := by
    have hfront : task ∉ front := by
      intro hmem
      exact (List.nodup_append.mp hnodup).2.2 task hmem task List.mem_cons_self rfl
    rw [hsplit, List.erase_append_right _ hfront, List.erase_cons_head]
  have hself : task ∈ (counted.unlinkRoot task).owned task :=
    (hcounted.frames.unlinkRoot hroots).self_mem_owned task
  refine ⟨?_, ?_, ?_, ?_, ?_, ?_, ?_⟩
  · exact (hcounted.ready.release hroots hcounted.frames hpoint).congr (fun _ _ => rfl)
      (fun _ => rfl) rfl rfl rfl
  · show RootList _ (dispatcher.roots.erase task)
    rw [herase]
    exact (hroots.release hcounted.frames).congr (fun _ _ => rfl) (fun _ _ => rfl) (fun _ => rfl)
      rfl rfl
  · exact (hcounted.frames.release hroots).congr le_rfl rfl rfl
  · intro other hother
    show other ∈ (counted.unlinkRoot task).destroyed ++ (counted.unlinkRoot task).owned task
    obtain hother | hother := List.mem_append.mp hother
    · rw [unlinkRoot_eq hroots.root_middle]
      exact List.mem_append_left _ (hcounted.ended other hother)
    · rw [List.mem_singleton.mp hother]
      exact List.mem_append_right _ hself
  · intro other heq
    obtain ⟨hsame, _⟩ | hgone := release_promises hroots other
    · have hexecuting := hsame.symm.trans heq
      obtain rfl := Option.some.inj (hcounted.executing other hexecuting)
      rw [hpoint] at hexecuting
      cases hexecuting
    · rw [show (((counted.unlinkRoot task).destroy task).record (.finished task)).promises other =
        _ from hgone] at heq
      cases heq
  · intro other hrooted heq
    obtain ⟨hsame, hkept⟩ | hgone := release_promises hroots other
    · -- Only the task itself was a root task at its end, and it is destroyed.
      obtain rfl := Option.some.inj (hcounted.final other (hkept hrooted) (hsame.symm.trans heq))
      have : ((counted.unlinkRoot task).destroy task).promises task = { point := .destroyed } := by
        rw [destroy_promises, if_pos hself]
      rw [show (((counted.unlinkRoot task).destroy task).record (.finished task)).promises task =
        _ from this] at heq
      cases heq
    · rw [show (((counted.unlinkRoot task).destroy task).record (.finished task)).promises other =
        _ from hgone] at heq
      cases heq
  · show run FifoDispatcher.step {} (((counted.unlinkRoot task).log) ++ [.finished task]) = _
    rw [unlinkRoot_eq hroots.root_middle]
    exact FifoDispatcher.run_snoc.mpr ⟨dispatcher, hcounted.log, if_pos ⟨hroot, hidle⟩⟩

/-- The loop of `cancel_all_now` destroys every root task. -/
theorem destroyRoots_spec (fuel : Nat) {state : State} (hready : ReadyList state [])
    (hroots : RootList state roots) (hframes : Frames state) (hfuel : roots.length ≤ fuel) :
    ReadyList (State.destroyRoots fuel state) [] ∧ RootList (State.destroyRoots fuel state) [] ∧
      Frames (State.destroyRoots fuel state) ∧
      (∀ task ∈ state.destroyed ++ roots, task ∈ (State.destroyRoots fuel state).destroyed) ∧
      ∀ task, ((State.destroyRoots fuel state).promises task).point =
        (state.promises task).point ∨
          ((State.destroyRoots fuel state).promises task).point = .destroyed := by
  induction fuel generalizing state roots with
  | zero =>
    obtain rfl := List.length_eq_zero_iff.mp (Nat.le_zero.mp hfuel)
    refine ⟨hready, hroots, hframes, ?_, fun _ => Or.inl rfl⟩
    intro task htask
    rw [List.append_nil] at htask
    exact htask
  | succ fuel ih =>
    rw [State.destroyRoots, hroots.head]
    cases roots with
    | nil =>
      refine ⟨hready, hroots, hframes, ?_, fun _ => Or.inl rfl⟩
      intro task htask
      rw [List.append_nil] at htask
      exact htask
    | cons task rest =>
      have hmiddle : RootList state ([] ++ task :: rest) := hroots
      have hreleased : ReadyList ((state.unlinkRoot task).destroy task) [] := by
        apply (hready.unlinkRoot hmiddle).destroy
        intro other _
        exact (hready.unlinkRoot hmiddle).not_queued List.not_mem_nil
      obtain ⟨hready', hroots', hframes', hdestroyed, hpoint⟩ :=
        ih hreleased (hmiddle.release hframes) (hframes.release hmiddle)
          (Nat.le_of_succ_le_succ hfuel)
      rw [List.head?_cons]
      refine ⟨hready', hroots', hframes', ?_, ?_⟩
      · intro other hother
        apply hdestroyed
        show other ∈ ((state.unlinkRoot task).destroyed ++ (state.unlinkRoot task).owned task) ++
          rest
        have hself := (hframes.unlinkRoot hmiddle).self_mem_owned task
        have hsame : (state.unlinkRoot task).destroyed = state.destroyed := by
          rw [unlinkRoot_eq hmiddle.root_middle]
        rw [hsame]
        simp only [List.mem_append, List.mem_cons] at hother ⊢
        obtain hother | rfl | hother := hother
        · exact Or.inl (Or.inl hother)
        · exact Or.inl (Or.inr hself)
        · exact Or.inr hother
      · intro other
        obtain hsame | hgone := hpoint other
        · obtain ⟨hkept, _⟩ | hgone := release_promises hmiddle other
          · exact Or.inl (hsame.trans hkept)
          · right
            show ((State.destroyRoots fuel _).promises other).point = _
            rw [hsame, hgone]
        · exact Or.inr hgone

theorem Sound.cancelAllNow (h : Sound state dispatcher current)
    (hidle : dispatcher.executing = none)
    (hasked : dispatcher.pending = true ∨ dispatcher.call = none)
    (hexecuting : ∀ task, (state.promises task).point ≠ .executing) :
    Sound state.cancelAllNow
      { dispatcher with
        queue := []
        roots := []
        ended := dispatcher.ended ++ dispatcher.roots
        pending := false } none := by
  have hfuel := h.queue_length_le
  have hframes : state.clearReady.frames = state.frames := by
    rw [clearReady_eq]
  have hpoint : ∀ task, (state.clearReady.promises task).point = (state.promises task).point := by
    intro task
    rw [h.ready.clearReady_promises hfuel]
  obtain ⟨hready, hroots, hframes', hdestroyed, hkept⟩ :=
    destroyRoots_spec state.frames (h.ready.clearReady hfuel) (h.roots.clearReady h.ready hfuel)
      (h.frames.clearReady h.ready hfuel) h.roots_length_le
  refine ⟨?_, ?_, ?_, ?_, ?_, ?_, ?_⟩
  · exact hready.congr (fun _ _ => rfl) (fun _ => rfl) rfl rfl rfl
  · exact hroots.congr (fun _ _ => rfl) (fun _ _ => rfl) (fun _ => rfl) rfl rfl
  · exact hframes'.congr le_rfl rfl rfl
  · intro task htask
    apply hdestroyed
    have hsame : state.clearReady.destroyed = state.destroyed := by
      rw [clearReady_eq]
    rw [hsame]
    obtain htask | htask := List.mem_append.mp htask
    · exact List.mem_append_left _ (h.ended task htask)
    · exact List.mem_append_right _ htask
  · intro task heq
    obtain hsame | hgone := hkept task
    · exact absurd ((hsame.trans (hpoint task)).symm.trans heq) (hexecuting task)
    · exact absurd (hgone.symm.trans heq) (by simp)
  · intro task hroot heq
    have := (hroots.root task).mp hroot
    simp at this
  · rw [cancelAllNow_log]
    exact FifoDispatcher.run_snoc.mpr ⟨dispatcher, h.log, if_pos ⟨hidle, hasked⟩⟩

end DnsPro.Runtime.Dispatch
