import DnsPro.Runtime.DispatchRuns

/-!
# The dispatcher runs each scheduled task once, in order

`Conforms` is what the lists, the order of the tasks and the root tasks have to be in a
state, `Progresses` says that a call of `run_ready` goes on as long as it may, and
`Cancels` what becomes of a cancellation.  All hold in every state of a run whose steps
are all `Steady`, and the first step that is not `Steady` ends in a state that does not
conform.
-/

namespace DnsPro.Runtime.Dispatch

open Transition

variable {state next : State} {dispatcher : FifoDispatcher} {label : Label} {task : Nat}
  {ready roots : List TaskId}

/-- The `shutdown` that is under way. -/
def Control.currentShutdown : Control → Option (Nat × Nat)
  | .outside => none
  | .loop call => call.shutdown
  | .executing call _ _ => call.shutdown

/-- The lists of the scheduler are what its links and its flags say, the tasks on the
ready list can be resumed, what the scheduler did is what the abstract dispatcher does,
and a root task is destroyed exactly once, when it ends or is cancelled. -/
structure Conforms (state : State) (ready roots : List TaskId) : Prop where
  readyList : ReadyList state ready
  rootList : RootList state roots
  resumable : ∀ task ∈ ready, (state.promises task).point.isResumable = true
  follows : ∃ ended, run FifoDispatcher.step {} state.log = some
    { queue := ready
      roots := roots
      ended := ended
      call := state.control.currentCall
      executing := state.control.currentTask
      pending := state.cancelPending }
  order : FifoDispatcher.scheduledTasks state.log =
    FifoDispatcher.resumedTasks state.log ++ ready
  budget : ∀ budget resumed, state.control.currentCall = some (budget, resumed) →
    resumed ≤ budget
  once : ∀ task, .spawned task ∈ state.log →
    state.destroyed.count task = if task ∈ roots then 0 else 1
  ended : ∀ task ∈ roots, (state.promises task).point = .final →
    state.control.currentTask = some task

/-- A call of `run_ready` enters its loop when the scheduler runs.  The loop resumes the
first task of the ready list as long as there is one and the budget lasts, and comes back
when the task has suspended and no cancellation is pending.  Otherwise the call returns. -/
structure Progresses (state : State) : Prop where
  enters : ∀ budget, state.control = .outside → state.running = true →
    ∃ next, step state (.runReady budget) = some next ∧
      next.control = .loop ⟨budget, 0, none⟩ ∧ next.log = state.log ++ [.entered budget]
  resumes : ∀ call task, state.control = .loop call → state.readyHead = some task →
    call.resumed < call.budget → ∃ next root, step state .pass = some next ∧
      next.control = .executing call task root ∧ next.log = state.log ++ [.resumed task]
  returns : ∀ call, state.control = .loop call →
    state.readyHead = none ∨ call.budget ≤ call.resumed →
      ∃ next, step state .pass = some next ∧
        state.log ++ [.returned call.resumed] <+: next.log
  continues : ∀ call task root next, state.control = .executing call task root →
    state.cancelPending = false → step state .back = some next →
      next.control = .loop { call with resumed := call.resumed + 1 }

/-- A cancellation that a task asks for is made when the task has suspended, and leaves
both lists empty; so does every other `cancel_all` and the end of every `shutdown`. -/
structure Cancels (state : State) : Prop where
  requested : ∀ call task root label next, state.control = .executing call task root →
    label = .cancelAll ∨ (∃ budget, label = .shutdown budget) → step state label = some next →
      next.cancelPending = true ∧ next.control = state.control
  deferred : state.cancelPending = true → ∀ label next, step state label = some next →
    next.cancelPending = true ∧ next.control = state.control ∨
      label = .back ∧ next.readyHead = none ∧ next.rootHead = none
  immediate : ∀ next, state.control = .outside → step state .cancelAll = some next →
    next.readyHead = none ∧ next.rootHead = none
  finished : ∀ label next, state.control.currentShutdown ≠ none ∨
    (∃ budget, label = .shutdown budget) → step state label = some next →
      next.control = .outside → next.readyHead = none ∧ next.rootHead = none

/-! ## The invariant implies both -/

theorem Invariant.conforms (h : Invariant state dispatcher) :
    Conforms state dispatcher.queue dispatcher.roots where
  readyList := h.sound.ready
  rootList := h.sound.roots
  resumable := fun task htask =>
    h.sound.frames.queued task ((h.sound.ready.queued task).mpr htask)
  follows := by
    refine ⟨dispatcher.ended, ?_⟩
    rw [h.sound.log, ← h.controlled.call, ← h.controlled.executing, ← h.controlled.pending]
  order := FifoDispatcher.scheduled_eq h.sound.log
  budget := by
    intro budget resumed hcall
    exact (FifoDispatcher.resumed_le h.sound.log (h.controlled.call.trans hcall)).1
  once := by
    intro task hspawned
    have hframes := h.sound.frames
    split
    · rename_i hroot
      apply List.count_eq_zero_of_not_mem
      intro hmem
      have := hframes.root task ((h.sound.roots.root task).mpr hroot)
      exact this.2 ((hframes.destroyed task).mp hmem)
    · rename_i hroot
      have hended := (FifoDispatcher.spawned_iff h.sound.log task).mp hspawned
      exact List.count_eq_one_of_mem hframes.once
        (h.sound.ended task (hended.resolve_left hroot))
  ended := fun task hroot => h.sound.final task ((h.sound.roots.root task).mpr hroot)

/-- What a call does when it returns comes after its return. -/
theorem leave_log (state : State) (call : Call) :
    state.log ++ [.returned call.resumed] <+: (state.leave call).log := by
  have hfinish : ∀ returned : State, returned.log <+: returned.finishShutdown.log := by
    intro returned
    unfold State.finishShutdown
    dsimp only
    split
    · exact ⟨[.cancelled], cancelAllNow_log.symm⟩
    · exact List.prefix_refl _
  have hloop : ∀ (returned : State) (budget resumed : Nat),
      returned.log <+: (returned.shutdownLoop budget resumed).log := by
    intro returned budget resumed
    unfold State.shutdownLoop
    split
    · refine ⟨[.entered (budget - resumed)], ?_⟩
      show _ = returned.observeExternalStop.log ++ _
      rw [observe_log]
    · exact hfinish returned
  unfold State.leave
  dsimp only
  split
  · exact List.prefix_refl _
  · split
    · exact hfinish (state.record (.returned call.resumed))
    · exact hloop (state.record (.returned call.resumed)) _ _

/-- The loop can resume every task of the ready list, and goes on with the first one. -/
theorem Invariant.progresses (h : Invariant state dispatcher) : Progresses state where
  enters := by
    intro budget hcontrol hrunning
    obtain ⟨hidle, _⟩ := h.outside hcontrol
    have hcall : state.canCall = true := by
      unfold State.canCall
      rw [hcontrol]
    have hentered : state.runReady budget = state.enter budget none := by
      unfold State.runReady
      rw [if_neg (by simp [hrunning]), if_neg (by simp [hidle.dispatching])]
    refine ⟨_, (if_pos hcall).trans (congrArg some hentered), rfl, ?_⟩
    show state.observeExternalStop.log ++ _ = _
    rw [observe_log]
  resumes := by
    intro call task hcontrol hhead hlt
    obtain ⟨rest, hqueue⟩ := h.sound.ready.eq_cons hhead
    have hmem : task ∈ dispatcher.queue := by
      rw [hqueue]
      exact List.mem_cons_self
    have hresumable := h.sound.frames.queued task ((h.sound.ready.queued task).mpr hmem)
    have hpass : step state .pass = state.pass call := by
      simp only [step, hcontrol]
    rw [hpass]
    unfold State.pass
    rw [hhead]
    dsimp only
    rw [if_pos hlt, if_pos hresumable]
    refine ⟨_, _, rfl, rfl, ?_⟩
    show (State.resume _ task).log ++ _ = _
    rw [resume_log]
    rfl
  returns := by
    intro call hcontrol hdone
    have hpass : step state .pass = state.pass call := by
      simp only [step, hcontrol]
    refine ⟨state.leave call, ?_, leave_log state call⟩
    rw [hpass]
    unfold State.pass
    split
    · rfl
    · rename_i task hhead
      have hle : call.budget ≤ call.resumed := by
        refine hdone.resolve_left ?_
        rw [hhead]
        exact Option.some_ne_none task
      rw [if_neg (Nat.not_lt.mpr hle)]
  continues := by
    intro call task root next hcontrol hpending hback
    obtain ⟨call', task', root', hcontrol', hpoint, rfl⟩ := back_step hback
    obtain ⟨rfl, rfl, rfl⟩ := Control.executing.inj (hcontrol.symm.trans hcontrol')
    obtain ⟨finished, after, _, _, _, _, hstatus, hfinished⟩ := finished_sound h hcontrol hpoint
    have hkept : finished.cancelPending = false :=
      (congrArg Status.cancelPending hstatus).trans hpending
    unfold State.afterResume
    dsimp only
    rw [hfinished, if_neg (by simp [hkept])]

/-- Empty lists have no head. -/
theorem Invariant.heads (h : Invariant state dispatcher)
    (hempty : dispatcher.queue = [] ∧ dispatcher.roots = []) :
    state.readyHead = none ∧ state.rootHead = none := by
  rw [h.sound.ready.head, h.sound.roots.head, hempty.1, hempty.2]
  exact ⟨rfl, rfl⟩

theorem Invariant.executing_of_pending (h : Invariant state dispatcher)
    (hpending : state.cancelPending = true) :
    ∃ call task root, state.control = .executing call task root := by
  have hdispatching := h.controlled.cancel hpending
  rw [h.controlled.dispatching] at hdispatching
  cases hcontrol : state.control with
  | executing call task root => exact ⟨call, task, root, rfl⟩
  | outside | loop call =>
    rw [hcontrol] at hdispatching
    cases hdispatching

/-- While a task executes, every step but `back` leaves the program in that task, and a
cancellation that is pending stays so. -/
theorem step_in_task {call : Call} {root : Bool} (h : Invariant state dispatcher)
    (hcontrol : state.control = .executing call task root)
    (hlabel : label ≠ .back) (hstep : step state label = some next) :
    next.control = state.control ∧
      (state.cancelPending = true ∨ label = .cancelAll ∨ (∃ budget, label = .shutdown budget) →
        next.cancelPending = true) := by
  have hdispatching := h.dispatching hcontrol
  have hrunning : state.running = true := by
    apply h.controlled.running
    rw [hcontrol]
    exact Control.noConfusion
  -- The operations that leave the flags alone.
  have hkeep : ∀ {after : State}, after.status.control = state.control →
      after.status.cancelPending = state.cancelPending → label ≠ .cancelAll →
      (∀ budget, label ≠ .shutdown budget) → after.control = state.control ∧
        (state.cancelPending = true ∨ label = .cancelAll ∨ (∃ budget, label = .shutdown budget) →
          after.cancelPending = true) := by
    intro after hcontrol hpending hcancel hshutdown
    refine ⟨hcontrol, ?_⟩
    intro hcases
    obtain hstate | hlabel | ⟨budget, hlabel⟩ := hcases
    · exact hpending.trans hstate
    · exact absurd hlabel hcancel
    · exact absurd hlabel (hshutdown budget)
  cases label with
  | externalStop =>
    obtain rfl := Option.some.inj hstep
    exact hkeep rfl rfl (by simp) (by simp)
  | start stopped =>
    obtain ⟨rfl, _⟩ := asCall_cases hstep
    have hsame : state.start stopped = state := if_pos (Or.inl hrunning)
    rw [hsame]
    exact hkeep rfl rfl (by simp) (by simp)
  | spawn =>
    obtain ⟨rfl, _⟩ := asCall_cases hstep
    have hstatus := spawn_status h.sound
    exact hkeep (congrArg Status.control hstatus) (congrArg Status.cancelPending hstatus) (by simp)
      (by simp)
  | spawnEmpty =>
    obtain ⟨rfl, _⟩ := asCall_cases hstep
    exact hkeep rfl rfl (by simp) (by simp)
  | schedule other =>
    simp only [step] at hstep
    split at hstep
    · obtain ⟨rfl, _⟩ := asCall_cases hstep
      have hstatus := @schedule_status state other
      exact hkeep (congrArg Status.control hstatus) (congrArg Status.cancelPending hstatus)
        (by simp) (by simp)
    · cases hstep
  | runReady budget =>
    obtain ⟨rfl, _⟩ := asCall_cases hstep
    have hfails : state.runReady budget =
        { state with invariantFailures := state.invariantFailures + 1 } := by
      unfold State.runReady
      rw [if_neg (by simp [hrunning]), if_pos hdispatching]
    rw [hfails]
    exact hkeep rfl rfl (by simp) (by simp)
  | close =>
    obtain ⟨rfl, _⟩ := asCall_cases hstep
    exact hkeep rfl rfl (by simp) (by simp)
  | cancelAll =>
    obtain ⟨rfl, _⟩ := asCall_cases hstep
    unfold State.cancelAll
    dsimp only
    rw [if_pos hdispatching]
    exact ⟨rfl, fun _ => rfl⟩
  | shutdown budget =>
    obtain ⟨rfl, _⟩ := asCall_cases hstep
    unfold State.shutdown
    dsimp only
    rw [if_pos hdispatching]
    exact ⟨rfl, fun _ => rfl⟩
  | pass =>
    simp only [step, hcontrol] at hstep
    cases hstep
  | back => exact absurd rfl hlabel
  | observe =>
    obtain ⟨_, _, _, _, _, rfl⟩ := h.asTask hstep
    have hstatus := @observe_status state
    exact hkeep (congrArg Status.control hstatus) (congrArg Status.cancelPending hstatus) (by simp)
      (by simp)
  | yield =>
    obtain ⟨other, htask, hpoint, hseen, _, rfl⟩ := h.asTask hstep
    have hstatus := ((htask ▸ h.sound).yield hpoint hseen).1
    exact hkeep (congrArg Status.control hstatus) (congrArg Status.cancelPending hstatus) (by simp)
      (by simp)
  | suspend point =>
    simp only [step] at hstep
    split at hstep
    · obtain ⟨_, _, _, _, _, rfl⟩ := h.asTask hstep
      exact hkeep rfl rfl (by simp) (by simp)
    · cases hstep
  | awaitTask =>
    obtain ⟨other, htask, hpoint, hseen, hrunning, rfl⟩ := h.asTask hstep
    have hstatus := ((htask ▸ h.sound).awaitTask hpoint hseen hrunning).1
    exact hkeep (congrArg Status.control hstatus) (congrArg Status.cancelPending hstatus) (by simp)
      (by simp)
  | complete throws =>
    obtain ⟨other, htask, hpoint, hseen, _, rfl⟩ := h.asTask hstep
    have hstatus := ((htask ▸ h.sound).complete hpoint hseen throws).1
    exact hkeep (congrArg Status.control hstatus) (congrArg Status.cancelPending hstatus) (by simp)
      (by simp)

/-- In the loop of `run_ready` the only other step is an external stop. -/
theorem step_in_loop {call : Call} (hcontrol : state.control = .loop call)
    (hstep : step state label = some next) : label = .pass ∨ next.control = state.control := by
  have hcall : ∀ after, state.asCall after ≠ some next := by
    intro after heq
    obtain ⟨_, houtside | ⟨call', task, root, hexecuting⟩⟩ := asCall_cases heq
    · rw [hcontrol] at houtside
      cases houtside
    · rw [hcontrol] at hexecuting
      cases hexecuting
  have htask : ∀ action, state.asTask action ≠ some next := by
    intro action heq
    unfold State.asTask at heq
    rw [hcontrol] at heq
    cases heq
  cases label with
  | pass => exact Or.inl rfl
  | externalStop =>
    obtain rfl := Option.some.inj hstep
    exact Or.inr rfl
  | start _ | spawn | spawnEmpty | runReady _ | close | cancelAll | shutdown _ =>
    exact absurd hstep (hcall _)
  | observe | yield | awaitTask | complete _ => exact absurd hstep (htask _)
  | schedule other =>
    simp only [step] at hstep
    split at hstep
    · exact absurd hstep (hcall _)
    · cases hstep
  | suspend point =>
    simp only [step] at hstep
    split at hstep
    · exact absurd hstep (htask _)
    · cases hstep
  | back =>
    obtain ⟨call', task, root, hexecuting, _⟩ := back_step hstep
    rw [hcontrol] at hexecuting
    cases hexecuting

/-- When the loop of `run_ready` goes outside, it has returned. -/
theorem pass_outside {call : Call} (hpass : state.pass call = some next)
    (houtside : next.control = .outside) :
    state.leave call = next ∧ (state.readyHead = none ∨ call.budget ≤ call.resumed) := by
  unfold State.pass at hpass
  split at hpass
  · rename_i hhead
    exact ⟨Option.some.inj hpass, Or.inl hhead⟩
  · split at hpass
    · obtain ⟨_, hnext⟩ := enabled hpass
      rw [← hnext] at houtside
      cases houtside
    · rename_i hspent
      exact ⟨Option.some.inj hpass, Or.inr (Nat.not_lt.mp hspent)⟩

theorem Invariant.cancels (h : Invariant state dispatcher) : Cancels state where
  requested := by
    intro call task root label next hcontrol hlabel hstep
    have hne : label ≠ .back := by
      obtain rfl | ⟨budget, rfl⟩ := hlabel <;> simp
    obtain ⟨hsame, hpending⟩ := step_in_task h hcontrol hne hstep
    exact ⟨hpending (Or.inr hlabel), hsame⟩
  deferred := by
    intro hpending label next hstep
    by_cases hlabel : label = .back
    · right
      subst hlabel
      obtain ⟨call, task, root, hcontrol, hpoint, rfl⟩ := back_step hstep
      obtain ⟨after, hafter, hempty⟩ := back_invariant h hcontrol hpoint
      exact ⟨rfl, hafter.heads (hempty (Or.inl hpending))⟩
    · left
      obtain ⟨call, task, root, hcontrol⟩ := h.executing_of_pending hpending
      obtain ⟨hsame, hkept⟩ := step_in_task h hcontrol hlabel hstep
      exact ⟨hkept (Or.inl hpending), hsame⟩
  immediate := by
    intro next houtside hstep
    obtain ⟨rfl, hcontrol⟩ := asCall_cases hstep
    obtain ⟨after, hafter, hempty⟩ := cancelAll_invariant h hcontrol
    exact hafter.heads (hempty houtside)
  finished := by
    intro label next hshutdown hstep houtside
    cases hcontrol : state.control with
    | outside =>
      rw [hcontrol] at hshutdown
      obtain ⟨budget, rfl⟩ := hshutdown.resolve_left (absurd rfl)
      obtain ⟨rfl, hcall⟩ := asCall_cases hstep
      obtain ⟨after, hafter, hempty⟩ := shutdown_invariant h hcall budget
      exact hafter.heads (hempty houtside)
    | loop call =>
      obtain rfl | hsame := step_in_loop hcontrol hstep
      · obtain ⟨call', hcontrol', hpass⟩ := pass_step hstep
        obtain rfl := Control.loop.inj (hcontrol.symm.trans hcontrol')
        obtain ⟨rfl, hdone⟩ := pass_outside hpass houtside
        have hcall : dispatcher.call = some (call.budget, call.resumed) := by
          rw [h.controlled.call, hcontrol]
          rfl
        obtain ⟨after, hafter, hempty⟩ := (h.idle (by rw [hcontrol]; rfl)).leave hcall
          (hdone.imp_left h.sound.ready.eq_nil)
        rw [hcontrol] at hshutdown
        obtain hshutdown | ⟨budget, hlabel⟩ := hshutdown
        · exact hafter.heads (hempty (Or.inl ⟨hshutdown, houtside⟩))
        · cases hlabel
      · rw [hsame, hcontrol] at houtside
        cases houtside
    | executing call task root =>
      by_cases hlabel : label = .back
      · subst hlabel
        obtain ⟨call', task', root', hcontrol', hpoint, rfl⟩ := back_step hstep
        obtain ⟨after, hafter, hempty⟩ := back_invariant h hcontrol' hpoint
        exact hafter.heads (hempty (Or.inr houtside))
      · have hsame := (step_in_task h hcontrol hlabel hstep).1
        rw [hsame, hcontrol] at houtside
        cases houtside

/-! ## A task that is resumed too early -/

/-- A step that is not steady resumes a task that owns a frame on the ready list. -/
theorem unsteady_cases (hsteady : ¬ Steady state label) (hstep : step state label = some next) :
    ∃ task child other, state.readyHead = some task ∧
      (state.promises task).point = .child child ∧ other ∈ state.owned child ∧
      (state.promises other).queued = true ∧
      next.promises = ((state.taken task).resume task).promises ∧
      next.readyHead = ((state.taken task).resume task).readyHead := by
  obtain ⟨rfl, hany⟩ := Classical.not_imp.mp hsteady
  obtain ⟨call, hcontrol, hpass⟩ := pass_step hstep
  rw [Bool.not_eq_false] at hany
  obtain ⟨task, hfront, hawaits⟩ : ∃ task, state.front = some task ∧
      state.awaitsQueued task = true := by
    cases hfront : state.front with
    | none =>
      rw [hfront] at hany
      cases hany
    | some task =>
      rw [hfront, Option.any_some] at hany
      exact ⟨task, rfl, hany⟩
  have hloop : call.resumed < call.budget ∧ state.readyHead = some task := by
    unfold State.front at hfront
    rw [hcontrol] at hfront
    dsimp only at hfront
    split at hfront
    · exact ⟨‹_›, hfront⟩
    · cases hfront
  unfold State.awaitsQueued at hawaits
  split at hawaits
  · rename_i child hpoint
    obtain ⟨other, howned, hqueued⟩ := List.any_eq_true.mp hawaits
    unfold State.pass at hpass
    rw [hloop.2] at hpass
    dsimp only at hpass
    rw [if_pos hloop.1] at hpass
    obtain ⟨_, hnext⟩ := enabled hpass
    refine ⟨task, child, other, hloop.2, hpoint, howned, hqueued, ?_, ?_⟩
    · rw [← hnext]
      rfl
    · rw [← hnext]
      rfl
  · cases hawaits

/-- Such a step leaves a frame on the ready list that is destroyed: the links up to the
first one that is gone are still there. -/
theorem unsteady_breaks (h : Invariant state dispatcher) (hsteady : ¬ Steady state label)
    (hstep : step state label = some next) : ¬ ∃ ready, ReadyList next ready := by
  obtain ⟨task, child, other, hhead, hpoint, howned, hqueued, hpromises, hnext⟩ :=
    unsteady_cases hsteady hstep
  obtain ⟨rest, hqueue⟩ := h.sound.ready.eq_cons hhead
  have hlinked := h.sound.ready.linked
  rw [hqueue] at hlinked
  have hself : task ∉ state.owned child := by
    intro hmem
    have hle := h.sound.frames.le_of_mem_owned child task hmem
    exact absurd (h.sound.frames.awaited task child hpoint).1 (Nat.not_lt.mpr hle)
  have hresumed := resumed_promises hpoint hself
  have hne : other ≠ task := fun heq => hself (heq ▸ howned)
  have hrest : other ∈ rest := by
    have hmem := (h.sound.ready.queued other).mp hqueued
    rw [hqueue, List.mem_cons] at hmem
    exact hmem.resolve_left hne
  -- The links of the frames that are still queued are the old ones.
  have hkeeps : ∀ node, ¬ (next.promises node).queued = false →
      (next.promises node).readyNext = (state.promises node).readyNext := by
    intro node hkept
    rw [hpromises, hresumed] at hkept ⊢
    split
    · rename_i heq
      rw [if_pos heq, taken_promises, if_pos rfl] at hkept
      exact absurd rfl hkept
    · rename_i hnode
      rw [if_neg hnode] at hkept
      split
      · rename_i hgone
        rw [if_pos hgone] at hkept
        exact absurd rfl hkept
      · rfl
  have hother : (next.promises other).queued = false := by
    rw [hpromises, hresumed, if_neg hne, if_pos howned]
  intro hready
  obtain ⟨ready, hready⟩ := hready
  have hlinked' := hready.linked
  rw [hnext, resumed_readyHead] at hlinked'
  obtain ⟨node, hnode, hgone⟩ := hlinked.tail.meets hlinked' hkeeps ⟨other, hrest, hother⟩
  rw [(hready.queued node).mpr hnode] at hgone
  cases hgone

/-! ## Every run -/

theorem initial_invariant : Invariant {} {} := by
  refine ⟨⟨⟨rfl, rfl, rfl, List.nodup_nil, by simp⟩, ⟨rfl, rfl, List.nodup_nil, by simp⟩,
    ⟨fun _ _ => rfl, by simp, by simp, by simp, by simp, by simp, by simp, List.nodup_nil⟩,
    by simp, by simp, by simp, rfl⟩, ?_⟩
  refine ⟨rfl, rfl, rfl, rfl, fun hne => absurd rfl hne, fun _ => ⟨rfl, rfl⟩, by simp, by simp, ?_⟩
  intro call task root heq
  cases heq

theorem run_keeps_invariant {labels : List Label} (hrun : run step {} labels = some state)
    (hsteady : Along step Steady {} labels) : ∃ dispatcher, Invariant state dispatcher := by
  refine run_invariant_along (fun state => ∃ dispatcher, Invariant state dispatcher) Steady ?_
    ⟨{}, initial_invariant⟩ hrun hsteady
  intro state label next hinvariant hok hstep
  obtain ⟨dispatcher, h⟩ := hinvariant
  exact step_invariant h hok hstep

/-- In every run whose steps are all steady, each scheduled task runs once, in order, no
call of `run_ready` leaves a task that it may resume, and the lists are well formed; and
one more step keeps that up exactly when it is steady. -/
theorem fifo_dispatch (labels : List Label) (state : State)
    (hrun : run step {} labels = some state) (hsteady : Along step Steady {} labels) :
    (∃ ready roots, Conforms state ready roots) ∧ Progresses state ∧ Cancels state ∧
      ∀ label next, step state label = some next →
        ((∃ ready roots, Conforms next ready roots) ↔ Steady state label) := by
  obtain ⟨dispatcher, h⟩ := run_keeps_invariant hrun hsteady
  refine ⟨⟨_, _, h.conforms⟩, h.progresses, h.cancels, ?_⟩
  intro label next hstep
  constructor
  · intro hconforms
    obtain ⟨ready, roots, hconforms⟩ := hconforms
    by_contra hnot
    exact unsteady_breaks h hnot hstep ⟨ready, hconforms.readyList⟩
  · intro hok
    obtain ⟨after, hafter⟩ := step_invariant h hok hstep
    exact ⟨_, _, hafter.conforms⟩

/-- A task waits for a child, another root task suspends, the child wakes that task and
ends, and the root task asks for a cancellation before it yields. -/
def cancelledLabels : List Label :=
  [.start false, .spawn, .spawn, .runReady 8, .pass, .awaitTask, .back, .pass,
    .suspend (.sleep 0), .back, .pass, .schedule 1, .complete false, .back, .pass, .cancelAll,
    .yield, .back]

theorem fifo_dispatch_cancelled : ∃ state, run step {} cancelledLabels = some state ∧
    state.destroyed = [1, 0, 2] ∧ ∃ ready roots, Conforms state ready roots := by
  have hdestroyed : (run step {} cancelledLabels).map (fun state => state.destroyed) =
      some [1, 0, 2] := by decide
  obtain ⟨state, hrun, heq⟩ := Option.map_eq_some_iff.mp hdestroyed
  exact ⟨state, hrun, heq,
    (fifo_dispatch cancelledLabels state hrun (along_of_check (by decide))).1⟩

/-- The first task waits for a child, the second schedules the first one all the same,
and the child yields: it is behind the first task on the ready list when that goes on
and destroys it. -/
def earlyLabels : List Label :=
  [.start false, .spawn, .spawn, .runReady 9, .pass, .awaitTask, .back, .pass, .schedule 0,
    .complete false, .back, .pass, .yield, .back, .pass]

theorem destroyed_while_queued : ¬ ∀ labels state, run step {} labels = some state →
    ∃ ready roots, Conforms state ready roots := by
  intro h
  have hready : (run step {} earlyLabels).map (fun state =>
      (state.readyHead, (state.promises 2).queued)) = some (some 2, false) := by decide
  obtain ⟨state, hrun, heq⟩ := Option.map_eq_some_iff.mp hready
  obtain ⟨hhead, hqueued⟩ := Prod.mk.inj heq
  obtain ⟨ready, roots, hconforms⟩ := h earlyLabels state hrun
  obtain ⟨rest, hlist⟩ := hconforms.readyList.eq_cons hhead
  have hmem : 2 ∈ ready := by
    rw [hlist]
    exact List.mem_cons_self
  rw [(hconforms.readyList.queued 2).mpr hmem] at hqueued
  cases hqueued

end DnsPro.Runtime.Dispatch
