import DnsPro.Runtime.Scheduler

/-!
# Where the tasks stand

What the operations of the scheduler do to a promise, apart from its place on the
ready list and from what it has thrown: who it is bound to, the point where the frame
is suspended, and the task that waits for it.  `schedule` changes none of these, and
every other operation changes them for one or two tasks.

`Steady` is what no operation on tasks changes: the scheduler goes on running, stopped
or not, and counts no failure of an invariant.  `Stays` is what an operation leaves of a
task that it does not run.
-/

namespace DnsPro.Runtime.Scheduler

/-- The promises without the ready list and the exceptions. -/
def places (scheduler : Scheduler) (task : TaskId) : TaskPromise :=
  { scheduler.tasks task with queued := false, exception := false }

/-- The operations on tasks leave the rest of the scheduler alone. -/
structure Steady (scheduler next : Scheduler) : Prop where
  running : next.running = scheduler.running
  stopRequested : next.stopRequested = scheduler.stopRequested
  invariantFailures : next.invariantFailures = scheduler.invariantFailures

variable {scheduler next third : Scheduler} {task child other : TaskId}

theorem Steady.refl (scheduler : Scheduler) : Steady scheduler scheduler := ⟨rfl, rfl, rfl⟩

theorem Steady.trans (h : Steady scheduler next) (h' : Steady next third) :
    Steady scheduler third :=
  ⟨h'.running.trans h.running, h'.stopRequested.trans h.stopRequested,
    h'.invariantFailures.trans h.invariantFailures⟩

@[simp] theorem places_bound : (scheduler.places task).bound = (scheduler.tasks task).bound := rfl

@[simp] theorem places_point : (scheduler.places task).point = (scheduler.tasks task).point := rfl

@[simp] theorem places_continuation :
    (scheduler.places task).continuation = (scheduler.tasks task).continuation := rfl

theorem places_setTask (scheduler : Scheduler) (task : TaskId) (promise : TaskPromise) :
    (scheduler.setTask task promise).places =
      Function.update scheduler.places task { promise with queued := false, exception := false } := by
  funext other
  by_cases hother : other = task
  · subst hother
    simp [places]
  · simp [places, hother]

theorem places_setPoint (scheduler : Scheduler) (task : TaskId) (point : Point) :
    (scheduler.setPoint task point).places =
      Function.update scheduler.places task { scheduler.places task with point := point } :=
  places_setTask _ _ _

theorem steady_setPoint (scheduler : Scheduler) (task : TaskId) (point : Point) :
    Steady scheduler (scheduler.setPoint task point) := ⟨rfl, rfl, rfl⟩

theorem places_schedule (scheduler : Scheduler) (task : TaskId) :
    (scheduler.schedule task).2.places = scheduler.places := by
  unfold schedule
  dsimp only
  split_ifs
  all_goals try rfl
  have hqueued := places_setTask scheduler task { scheduler.tasks task with queued := true }
  exact hqueued.trans (Function.update_eq_self task scheduler.places)

theorem steady_schedule (scheduler : Scheduler) (task : TaskId) :
    Steady scheduler (scheduler.schedule task).2 := by
  unfold schedule
  dsimp only
  split_ifs
  all_goals exact ⟨rfl, rfl, rfl⟩

/-! ## What the tasks do -/

/-- A task that the scheduler takes is bound. -/
theorem places_spawn (hrunning : scheduler.running = true) (haccepting : scheduler.accepting = true)
    (hstop : scheduler.stopRequested = false) :
    (scheduler.spawn task).places =
      Function.update scheduler.places task { scheduler.places task with bound := true } := by
  unfold spawn
  rw [if_neg (by simp [hrunning, haccepting, hstop]), places_schedule, places_setTask]
  rfl

theorem runFront_eq {rest : List TaskId} (hready : scheduler.ready = task :: rest) :
    ∃ next, scheduler.runFront = some next ∧ Steady scheduler next ∧
      next.places =
        Function.update scheduler.places task
          { scheduler.places task with point := .executing } := by
  unfold runFront
  rw [hready]
  exact ⟨_, rfl, ⟨rfl, rfl, rfl⟩, places_setTask _ _ _⟩

/-- A task that yields is suspended. -/
theorem yield_eq (h : scheduler.Ok) (hpoint : (scheduler.tasks task).point = .executing) :
    Steady scheduler (scheduler.yield task) ∧
      (scheduler.yield task).places =
        Function.update scheduler.places task { scheduler.places task with point := .yielded } := by
  have hexecuting := h.waiting_executing hpoint
  have hsuspended := setPoint_executing_keeps h hpoint .yielded
  have hwaiting : (scheduler.setPoint task .yielded).Waiting task .yielded := by
    constructor <;> simp [hexecuting.bound, hexecuting.queued]
  obtain ⟨hresult, -⟩ := hsuspended.ok.schedule hwaiting (by simp) (by simp) (by simp) (by simp)
  have hplaces := places_schedule (scheduler.setPoint task .yielded) task
  have hsteady := steady_schedule (scheduler.setPoint task .yielded) task
  unfold yield
  rw [hresult] at hplaces hsteady ⊢
  simp only [if_true]
  exact ⟨(steady_setPoint _ _ _).trans hsteady, hplaces.trans (places_setPoint _ _ _)⟩

/-- A task that waits for a child is suspended, and the child is bound. -/
theorem awaitTask_eq (h : scheduler.Ok) (hpoint : (scheduler.tasks task).point = .executing)
    (hchild : (scheduler.tasks child).bound = false) :
    Steady scheduler (scheduler.awaitTask task child) ∧
      (scheduler.awaitTask task child).places =
        Function.update
          (Function.update scheduler.places task
            { scheduler.places task with point := .child child })
          child { scheduler.places child with bound := true, continuation := some task } := by
  have hexecuting := h.waiting_executing hpoint
  have hne : task ≠ child := by
    rintro rfl
    simp [hexecuting.bound] at hchild
  obtain ⟨hinitial, -, hqueued⟩ := h.unbound child hchild
  let suspended := scheduler.setPoint task (.child child)
  let linked := suspended.setTask child
    { suspended.tasks child with bound := true, continuation := some task }
  have htask : suspended.tasks child = scheduler.tasks child := setPoint_tasks_of_ne hne.symm _
  have hresult : (linked.schedule child).1 = .scheduled := by
    have hlinked : linked.tasks child =
        { scheduler.tasks child with bound := true, continuation := some task } := by
      rw [← htask]
      exact setTask_tasks_self _
    have hrunning : linked.running = true := h.running
    unfold schedule
    simp [hlinked, hrunning, hinitial, hqueued]
  have hawait : scheduler.awaitTask task child = (linked.schedule child).2 := by
    show (if (linked.schedule child).1 = .scheduled then (linked.schedule child).2 else _) = _
    rw [if_pos hresult]
  rw [hawait]
  refine ⟨(steady_setPoint scheduler task (.child child)).trans
    ((Steady.mk rfl rfl rfl : Steady suspended linked).trans (steady_schedule linked child)), ?_⟩
  rw [places_schedule, places_setTask, places_setPoint, htask]
  rfl

theorem places_unhandledException (scheduler : Scheduler) (task : TaskId) :
    (scheduler.unhandledException task).places = scheduler.places :=
  (places_setTask _ _ _).trans (Function.update_eq_self task scheduler.places)

/-- A task that ends is at its end, and the task that waits for it can be scheduled. -/
theorem complete_eq (h : scheduler.Ok) (hpoint : (scheduler.tasks task).point = .executing) :
    Steady scheduler (scheduler.complete task) ∧
      (scheduler.complete task).places =
        Function.update scheduler.places task { scheduler.places task with point := .final } := by
  unfold complete
  split
  · exact ⟨steady_setPoint _ _ _, places_setPoint _ _ _⟩
  · rename_i parent hcontinuation
    obtain ⟨-, next, hresult, -⟩ := h.schedule_parent hpoint hcontinuation
    have hplaces := places_schedule (scheduler.setPoint task .final) parent
    have hsteady := steady_schedule (scheduler.setPoint task .final) parent
    dsimp only
    rw [hresult] at hplaces hsteady ⊢
    simp only [if_true]
    exact ⟨(steady_setPoint _ _ _).trans hsteady, hplaces.trans (places_setPoint _ _ _)⟩

/-- A task that throws ends like one that returns. -/
theorem thrown_complete (h : scheduler.Ok) (hpoint : (scheduler.tasks task).point = .executing)
    (throws : Bool) {thrown : Scheduler}
    (hthrown : thrown = if throws then scheduler.unhandledException task else scheduler) :
    Keeps scheduler (thrown.complete task) ∧ Steady scheduler (thrown.complete task) ∧
      (thrown.complete task).places =
        Function.update scheduler.places task { scheduler.places task with point := .final } := by
  cases throws with
  | false =>
    subst hthrown
    exact ⟨complete_keeps h hpoint, complete_eq h hpoint⟩
  | true =>
    subst hthrown
    have hkept := unhandledException_keeps h hpoint
    have hplaces := places_unhandledException scheduler task
    have hstill : ((scheduler.unhandledException task).tasks task).point = .executing :=
      (congrArg TaskPromise.point (congrFun hplaces task)).trans hpoint
    obtain ⟨hsteady, hended⟩ := complete_eq hkept.ok hstill
    have hcompleted := complete_keeps hkept.ok hstill
    rw [hplaces] at hended
    have hsame : Steady scheduler (scheduler.unhandledException task) := ⟨rfl, rfl, rfl⟩
    refine ⟨⟨hcompleted.ok, fun other point hexternal hwaiting => ?_⟩, hsame.trans hsteady, hended⟩
    exact hcompleted.waiting other point hexternal (hkept.waiting other point hexternal hwaiting)

/-- The frame of a task that has ended is destroyed. -/
theorem destroyed_keeps (h : scheduler.Ok) (hbound : (scheduler.tasks task).bound = true)
    (hpoint : (scheduler.tasks task).point = .final) :
    Keeps scheduler (scheduler.setPoint task .destroyed) := by
  refine ⟨?_, ?_⟩
  · refine h.update task { scheduler.tasks task with point := .destroyed } scheduler.ready h.nodup
      (fun _ _ => Iff.rfl) (h.queued_iff task) ?_ (by simp) hbound ?_ ?_
    · intro hqueued
      exact absurd hpoint (h.live task hqueued).1
    · intro parent _ hlive
      exact absurd rfl hlive.2
    · intro other _ hcontinuation hlive
      have := (h.child other task hcontinuation hlive).point_eq
      rw [hpoint] at this
      cases this
  · intro other point hexternal hother
    apply hother.congr
    apply setPoint_tasks_of_ne
    rintro rfl
    rw [← hother.point_eq, hpoint] at hexternal
    exact hexternal

/-! ## A task that is not run -/

/-- The task stands where it stood, and is on the ready list if it was. -/
structure Stays (task : TaskId) (scheduler next : Scheduler) : Prop where
  point : (next.tasks task).point = (scheduler.tasks task).point
  queued : (scheduler.tasks task).queued = true → (next.tasks task).queued = true

theorem Stays.refl (task : TaskId) (scheduler : Scheduler) : Stays task scheduler scheduler :=
  ⟨rfl, id⟩

theorem Stays.trans (h : Stays task scheduler next) (h' : Stays task next third) :
    Stays task scheduler third :=
  ⟨h'.point.trans h.point, fun hqueued => h'.queued (h.queued hqueued)⟩

theorem Stays.of_eq (heq : next.tasks task = scheduler.tasks task) : Stays task scheduler next := by
  refine ⟨by rw [heq], fun hqueued => ?_⟩
  rw [heq]
  exact hqueued

theorem setPoint_stays (scheduler : Scheduler) (hne : task ≠ other) (point : Point) :
    Stays task scheduler (scheduler.setPoint other point) :=
  .of_eq (Function.update_of_ne hne _ _)

theorem schedule_stays (scheduler : Scheduler) (task other : TaskId) :
    Stays task scheduler (scheduler.schedule other).2 := by
  unfold schedule
  dsimp only
  split_ifs
  all_goals try exact Stays.refl task scheduler
  by_cases hself : task = other
  · subst hself
    exact ⟨by simp, fun _ => by simp⟩
  · exact .of_eq (Function.update_of_ne hself _ _)

theorem complete_stays (scheduler : Scheduler) (hne : task ≠ other) :
    Stays task scheduler (scheduler.complete other) := by
  have hended := setPoint_stays scheduler hne .final
  unfold complete
  split
  · exact hended
  · rename_i parent _
    have hscheduled := hended.trans (schedule_stays (scheduler.setPoint other .final) task parent)
    dsimp only
    split
    · exact hscheduled
    · exact ⟨hscheduled.point, hscheduled.queued⟩

end DnsPro.Runtime.Scheduler
