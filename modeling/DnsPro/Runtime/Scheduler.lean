import Mathlib.Tactic

/-!
# The scheduler

The ready queue of `runtime/Scheduler.cpp` and the part of `TaskPromiseBase`
that it reads.  The intrusive list of ready tasks is a list of task numbers.

A coroutine frame stands at a `Point`: not yet entered, executing, suspended
at one of the library's awaiters, at the end, or destroyed.  `resume`
continues a frame from the point where it is suspended, so a frame waits for
one thing at a time.

All components of a worker live on one thread, and the checks of the thread's
identity are not part of the model.
-/

namespace DnsPro.Runtime

abbrev TaskId := Nat

/-- Where a coroutine frame stands. -/
inductive Point where
  | initial
  | executing
  | yielded
  | query (query : Nat)
  | sleep (sleep : Nat)
  | child (child : TaskId)
  | final
  | destroyed
  deriving DecidableEq, Repr

/-- `TaskPromiseBase`.  There is one scheduler, so `scheduler_` is whether the
task is bound. -/
structure TaskPromise where
  bound : Bool := false
  point : Point := .initial
  exception : Bool := false
  continuation : Option TaskId := none
  queued : Bool := false
  deriving DecidableEq, Repr

inductive ScheduleResult where
  | scheduled
  | duplicate
  | notRunning
  | wrongScheduler
  | completed
  deriving DecidableEq, Repr

structure Scheduler where
  running : Bool := false
  accepting : Bool := false
  stopRequested : Bool := false
  ready : List TaskId := []
  tasks : TaskId → TaskPromise := fun _ => {}
  invariantFailures : Nat := 0

namespace Scheduler

def setTask (scheduler : Scheduler) (task : TaskId) (promise : TaskPromise) : Scheduler :=
  { scheduler with tasks := Function.update scheduler.tasks task promise }

/-- The frame moves to `point`. -/
def setPoint (scheduler : Scheduler) (task : TaskId) (point : Point) : Scheduler :=
  scheduler.setTask task { scheduler.tasks task with point := point }

/-- `schedule`. -/
def schedule (scheduler : Scheduler) (task : TaskId) : ScheduleResult × Scheduler :=
  let promise := scheduler.tasks task
  if scheduler.running = false then (.notRunning, scheduler)
  else if promise.bound = false then (.wrongScheduler, scheduler)
  else if promise.point = .final ∨ promise.point = .destroyed then (.completed, scheduler)
  else if promise.queued then (.duplicate, scheduler)
  else
    let queued := scheduler.setTask task { promise with queued := true }
    (.scheduled, { queued with ready := scheduler.ready ++ [task] })

/-- `spawn` of a task that no one has bound yet. -/
def spawn (scheduler : Scheduler) (task : TaskId) : Scheduler :=
  if scheduler.running = false ∨ scheduler.accepting = false ∨ scheduler.stopRequested then
    scheduler
  else
    let bound := scheduler.setTask task { scheduler.tasks task with bound := true }
    (bound.schedule task).2

/-- One pass of the loop of `run_ready`: the first ready task is taken off the
list and resumed. -/
def runFront (scheduler : Scheduler) : Option Scheduler :=
  match scheduler.ready with
  | [] => none
  | task :: rest =>
    let promise := { scheduler.tasks task with queued := false, point := .executing }
    some { scheduler.setTask task promise with ready := rest }

/-- The `YieldAwaiter` of an executing task.  A frame is suspended before
`await_suspend` is called and goes on executing when that returns false. -/
def yield (scheduler : Scheduler) (task : TaskId) : Scheduler :=
  let (result, next) := (scheduler.setPoint task .yielded).schedule task
  if result = .scheduled then next else next.setPoint task .executing

/-- `Task::Awaiter::await_suspend`: the executing task waits for `child`. -/
def awaitTask (scheduler : Scheduler) (task child : TaskId) : Scheduler :=
  let suspended := scheduler.setPoint task (.child child)
  let linked := suspended.setTask child
    { suspended.tasks child with bound := true, continuation := some task }
  let (result, next) := linked.schedule child
  if result = .scheduled then next
  else
    (next.setTask child { next.tasks child with continuation := none }).setPoint task .executing

/-- `unhandled_exception`: the promise keeps what leaves the body of the task. -/
def unhandledException (scheduler : Scheduler) (task : TaskId) : Scheduler :=
  scheduler.setTask task { scheduler.tasks task with exception := true }

/-- The task reaches its end: `FinalAwaiter` schedules the task that waits
for it. -/
def complete (scheduler : Scheduler) (task : TaskId) : Scheduler :=
  let ended := scheduler.setPoint task .final
  match (scheduler.tasks task).continuation with
  | none => ended
  | some continuation =>
    let (result, next) := ended.schedule continuation
    if result = .scheduled then next
    else { next with invariantFailures := next.invariantFailures + 1 }

/-- `clear_ready`. -/
def clearReady (scheduler : Scheduler) : Scheduler :=
  { scheduler with
    ready := []
    tasks := fun task =>
      if task ∈ scheduler.ready then { scheduler.tasks task with queued := false }
      else scheduler.tasks task }

/-! ## The lists and the links -/

/-- The task is suspended at `point` and nothing has woken it. -/
structure Waiting (scheduler : Scheduler) (task : TaskId) (point : Point) : Prop where
  bound : (scheduler.tasks task).bound = true
  point_eq : (scheduler.tasks task).point = point
  queued : (scheduler.tasks task).queued = false

/-- The frame can still reach its end. -/
def TaskPromise.Live (promise : TaskPromise) : Prop :=
  promise.point ≠ .final ∧ promise.point ≠ .destroyed

/-- The flag of a task says whether it is on the ready list, where it stands
once, and the task that waits for a live one is suspended there. -/
structure Ok (scheduler : Scheduler) : Prop where
  running : scheduler.running = true
  nodup : scheduler.ready.Nodup
  queued_iff : ∀ task, (scheduler.tasks task).queued = true ↔ task ∈ scheduler.ready
  live : ∀ task, (scheduler.tasks task).queued = true → TaskPromise.Live (scheduler.tasks task)
  executing : ∀ task, (scheduler.tasks task).point = .executing →
    (scheduler.tasks task).bound = true ∧ (scheduler.tasks task).queued = false
  unbound : ∀ task, (scheduler.tasks task).bound = false →
    (scheduler.tasks task).point = .initial ∧ (scheduler.tasks task).continuation = none ∧
      (scheduler.tasks task).queued = false
  child : ∀ task parent, (scheduler.tasks task).continuation = some parent →
    TaskPromise.Live (scheduler.tasks task) → scheduler.Waiting parent (.child task)

variable {scheduler next : Scheduler} {task other : TaskId} {point : Point}

theorem Waiting.congr (h : scheduler.Waiting other point)
    (heq : next.tasks other = scheduler.tasks other) : next.Waiting other point :=
  ⟨heq ▸ h.bound, heq ▸ h.point_eq, heq ▸ h.queued⟩

/-- Replace the promise of one task. -/
theorem Ok.update (h : scheduler.Ok) (task : TaskId) (promise : TaskPromise)
    (ready : List TaskId) (hnodup : ready.Nodup)
    (hothers : ∀ other, other ≠ task → (other ∈ ready ↔ other ∈ scheduler.ready))
    (hqueued : promise.queued = true ↔ task ∈ ready)
    (hlive : promise.queued = true → TaskPromise.Live promise)
    (hexecuting : promise.point = .executing → promise.bound = true ∧ promise.queued = false)
    (hbound : promise.bound = true)
    (hchild : ∀ parent, promise.continuation = some parent → TaskPromise.Live promise →
      parent ≠ task ∧ scheduler.Waiting parent (.child task))
    (hparent : ∀ other, other ≠ task → (scheduler.tasks other).continuation = some task →
      TaskPromise.Live (scheduler.tasks other) →
      promise.point = .child other ∧ promise.queued = false) :
    Ok { scheduler.setTask task promise with ready := ready } := by
  have hself : (scheduler.setTask task promise).tasks task = promise := by simp [setTask]
  have hother : ∀ other, other ≠ task →
      (scheduler.setTask task promise).tasks other = scheduler.tasks other := by
    intro other hne
    simp [setTask, hne]
  refine ⟨h.running, hnodup, ?_, ?_, ?_, ?_, ?_⟩
  · intro other
    show ((scheduler.setTask task promise).tasks other).queued = true ↔ _
    by_cases hne : other = task
    · subst hne
      rw [hself, hqueued]
    · rw [hother other hne, h.queued_iff, hothers other hne]
  · intro other
    show ((scheduler.setTask task promise).tasks other).queued = true → _
    by_cases hne : other = task
    · subst hne
      simpa only [hself] using hlive
    · simpa only [hother other hne] using h.live other
  · intro other
    show ((scheduler.setTask task promise).tasks other).point = .executing → _
    by_cases hne : other = task
    · subst hne
      simpa only [hself] using hexecuting
    · simpa only [hother other hne] using h.executing other
  · intro other
    show ((scheduler.setTask task promise).tasks other).bound = false → _
    by_cases hne : other = task
    · subst hne
      rw [hself, hbound]
      exact fun h => absurd h (by decide)
    · simpa only [hother other hne] using h.unbound other
  · intro other parent hcontinuation hlive
    change ((scheduler.setTask task promise).tasks other).continuation = some parent
      at hcontinuation
    change TaskPromise.Live ((scheduler.setTask task promise).tasks other) at hlive
    by_cases hne : other = task
    · subst hne
      rw [hself] at hcontinuation hlive
      obtain ⟨hparentne, hwaiting⟩ := hchild parent hcontinuation hlive
      exact hwaiting.congr (hother parent hparentne)
    · rw [hother other hne] at hcontinuation hlive
      by_cases hp : parent = task
      · subst hp
        obtain ⟨hpoint, hq⟩ := hparent other hne hcontinuation hlive
        exact ⟨hself.symm ▸ hbound, hself.symm ▸ hpoint, hself.symm ▸ hq⟩
      · exact (h.child other parent hcontinuation hlive).congr (hother parent hp)

/-- A suspended task that no live task has to wake is put on the ready list. -/
theorem Ok.schedule (h : scheduler.Ok) (hwaiting : scheduler.Waiting task point)
    (hfinal : point ≠ .final) (hdestroyed : point ≠ .destroyed) (hexecuting : point ≠ .executing)
    (hchild : ∀ child, point = .child child → (scheduler.tasks child).continuation = some task →
      ¬ TaskPromise.Live (scheduler.tasks child)) :
    scheduler.schedule task = (.scheduled,
      { scheduler.setTask task { scheduler.tasks task with queued := true } with
        ready := scheduler.ready ++ [task] }) ∧
    Ok { scheduler.setTask task { scheduler.tasks task with queued := true } with
        ready := scheduler.ready ++ [task] } := by
  have hready : task ∉ scheduler.ready := by
    rw [← h.queued_iff, hwaiting.queued]
    decide
  constructor
  · unfold Scheduler.schedule
    simp [h.running, hwaiting.bound, hwaiting.point_eq, hwaiting.queued, hfinal, hdestroyed]
  · apply h.update
    · exact (List.nodup_append.mpr ⟨h.nodup, by simp, by grind⟩)
    · intro other hne
      simp [hne]
    · simp
    · intro _
      exact ⟨hwaiting.point_eq ▸ hfinal, hwaiting.point_eq ▸ hdestroyed⟩
    · intro hpoint
      exact absurd (hwaiting.point_eq ▸ hpoint) hexecuting
    · exact hwaiting.bound
    · intro parent hcontinuation hlive
      have hparent := h.child task parent hcontinuation hlive
      refine ⟨?_, hparent⟩
      rintro rfl
      exact hchild parent (hwaiting.point_eq ▸ hparent.point_eq) hcontinuation hlive
    · intro other hne hcontinuation hlive
      have hother := h.child other task hcontinuation hlive
      exact absurd hlive (hchild other (hwaiting.point_eq ▸ hother.point_eq) hcontinuation)

/-- A task that waits for no other task moves to another point. -/
theorem Ok.setPoint (h : scheduler.Ok) (hwaiting : scheduler.Waiting task point)
    (hfinal : point ≠ .final) (hdestroyed : point ≠ .destroyed)
    (hchild : ∀ child, point ≠ .child child) (target : Point) :
    (scheduler.setPoint task target).Ok := by
  refine h.update task { scheduler.tasks task with point := target } scheduler.ready h.nodup
    (fun _ _ => Iff.rfl) (h.queued_iff task) ?_ (fun _ => ⟨hwaiting.bound, hwaiting.queued⟩)
    hwaiting.bound ?_ ?_
  · intro hqueued
    exact absurd (hwaiting.queued.symm.trans hqueued) (by decide)
  · intro parent hcontinuation _
    have hlive : TaskPromise.Live (scheduler.tasks task) := by
      rw [TaskPromise.Live, hwaiting.point_eq]
      exact ⟨hfinal, hdestroyed⟩
    have hparent := h.child task parent hcontinuation hlive
    refine ⟨?_, hparent⟩
    rintro rfl
    exact hchild parent (hwaiting.point_eq.symm.trans hparent.point_eq)
  · intro other _ hcontinuation hlive
    have hother := h.child other task hcontinuation hlive
    exact absurd (hwaiting.point_eq.symm.trans hother.point_eq) (hchild other)

theorem Ok.waiting_executing (h : scheduler.Ok)
    (hpoint : (scheduler.tasks task).point = .executing) :
    scheduler.Waiting task .executing :=
  ⟨(h.executing task hpoint).1, hpoint, (h.executing task hpoint).2⟩

@[simp] theorem setPoint_tasks_of_ne (hne : other ≠ task) (target : Point) :
    (scheduler.setPoint task target).tasks other = scheduler.tasks other := by
  simp [Scheduler.setPoint, setTask, hne]

@[simp] theorem setTask_tasks_of_ne (hne : other ≠ task) (promise : TaskPromise) :
    (scheduler.setTask task promise).tasks other = scheduler.tasks other := by
  simp [setTask, hne]

@[simp] theorem setTask_tasks_self (promise : TaskPromise) :
    (scheduler.setTask task promise).tasks task = promise := by
  simp [setTask]

/-- The task waits for something outside the scheduler. -/
def Point.External : Point → Prop
  | .query _ => True
  | .sleep _ => True
  | _ => False

/-- What the tasks do among themselves: the lists stay well formed, and a task
that waits for a query or a timer goes on waiting. -/
structure Keeps (scheduler next : Scheduler) : Prop where
  ok : next.Ok
  waiting : ∀ task point, Point.External point → scheduler.Waiting task point →
    next.Waiting task point

theorem Keeps.refl (h : scheduler.Ok) : Keeps scheduler scheduler :=
  ⟨h, fun _ _ _ hwaiting => hwaiting⟩

theorem spawn_keeps (h : scheduler.Ok) (hbound : (scheduler.tasks task).bound = false) :
    Keeps scheduler (scheduler.spawn task) := by
  obtain ⟨hpoint, hcontinuation, hqueued⟩ := h.unbound task hbound
  unfold spawn
  split
  · exact Keeps.refl h
  · have hok : (scheduler.setTask task { scheduler.tasks task with bound := true }).Ok := by
      refine h.update task { scheduler.tasks task with bound := true } scheduler.ready h.nodup
        (fun _ _ => Iff.rfl) (h.queued_iff task) (h.live task) (fun _ => ⟨rfl, hqueued⟩) rfl ?_ ?_
      · intro parent hparent
        simp [hcontinuation] at hparent
      · intro other _ hother hlive
        have := (h.child other task hother hlive).point_eq
        simp [hpoint] at this
    have hwaiting : (scheduler.setTask task { scheduler.tasks task with bound := true }).Waiting
        task .initial := by
      constructor <;> simp [hpoint, hqueued]
    obtain ⟨hresult, hnext⟩ := hok.schedule hwaiting (by simp) (by simp) (by simp) (by simp)
    dsimp only
    rw [hresult]
    refine ⟨hnext, fun other point _ hother => ?_⟩
    have hne : other ≠ task := by
      rintro rfl
      have := hother.bound
      simp [hbound] at this
    exact hother.congr (by simp [setTask, hne])

theorem runFront_keeps (h : scheduler.Ok)
    (hnext : scheduler.runFront = some next) : Keeps scheduler next := by
  unfold runFront at hnext
  split at hnext
  · cases hnext
  · rename_i task rest hready
    obtain rfl := Option.some.inj hnext
    have hnodup := h.nodup
    rw [hready, List.nodup_cons] at hnodup
    have hqueued : (scheduler.tasks task).queued = true := by
      rw [h.queued_iff, hready]
      simp
    have hbound : (scheduler.tasks task).bound = true := by
      by_contra hunbound
      have := h.unbound task (by simpa using hunbound)
      simp [hqueued] at this
    refine ⟨?_, ?_⟩
    · refine h.update task _ rest hnodup.2 ?_ ?_ (by simp) (fun _ => ⟨hbound, rfl⟩) hbound ?_ ?_
      · intro other hne
        simp [hready, hne]
      · simpa using hnodup.1
      · intro parent hcontinuation _
        have hparent := h.child task parent hcontinuation (h.live task hqueued)
        refine ⟨?_, hparent⟩
        rintro rfl
        have := hparent.queued
        simp [hqueued] at this
      · intro other _ hcontinuation hlive
        have := (h.child other task hcontinuation hlive).queued
        simp [hqueued] at this
    · intro other point _ hother
      have hne : other ≠ task := by
        rintro rfl
        have := hother.queued
        simp [hqueued] at this
      exact hother.congr (by simp [setTask, hne])

/-- The executing task suspends, ends or is destroyed. -/
theorem setPoint_executing_keeps (h : scheduler.Ok)
    (hpoint : (scheduler.tasks task).point = .executing) (target : Point) :
    Keeps scheduler (scheduler.setPoint task target) := by
  refine ⟨h.setPoint (h.waiting_executing hpoint) (by simp) (by simp) (by simp) target, ?_⟩
  intro other point hexternal hother
  have hne : other ≠ task := by
    rintro rfl
    rw [hother.point_eq] at hpoint
    simp [hpoint, Point.External] at hexternal
  exact hother.congr (setPoint_tasks_of_ne hne target)

@[simp] theorem setPoint_tasks_self (target : Point) :
    (scheduler.setPoint task target).tasks task =
      { scheduler.tasks task with point := target } := by
  simp [Scheduler.setPoint]

/-- The executing task is about to end. -/
theorem unhandledException_keeps (h : scheduler.Ok)
    (hpoint : (scheduler.tasks task).point = .executing) :
    Keeps scheduler (scheduler.unhandledException task) := by
  have hwaiting := h.waiting_executing hpoint
  refine ⟨h.update task { scheduler.tasks task with exception := true } scheduler.ready h.nodup
    (fun _ _ => Iff.rfl) (h.queued_iff task) (h.live task) (h.executing task) hwaiting.bound ?_ ?_,
    ?_⟩
  · intro parent hcontinuation hlive
    have hparent := h.child task parent hcontinuation hlive
    refine ⟨?_, hparent⟩
    rintro rfl
    rw [hparent.point_eq] at hpoint
    cases hpoint
  · intro other _ hcontinuation hlive
    have hother := h.child other task hcontinuation hlive
    rw [hother.point_eq] at hpoint
    cases hpoint
  · intro other point hexternal hother
    have hne : other ≠ task := by
      rintro rfl
      rw [hother.point_eq] at hpoint
      simp [hpoint, Point.External] at hexternal
    exact hother.congr (setTask_tasks_of_ne hne _)

theorem yield_keeps (h : scheduler.Ok) (hpoint : (scheduler.tasks task).point = .executing) :
    Keeps scheduler (scheduler.yield task) := by
  have hexecuting := h.waiting_executing hpoint
  have hsuspended := setPoint_executing_keeps h hpoint .yielded
  have hwaiting : (scheduler.setPoint task .yielded).Waiting task .yielded := by
    constructor <;> simp [hexecuting.bound, hexecuting.queued]
  obtain ⟨hresult, hok⟩ := hsuspended.ok.schedule hwaiting (by simp) (by simp) (by simp) (by simp)
  unfold yield
  simp only [hresult, if_true]
  refine ⟨hok, fun other point hexternal hother => ?_⟩
  have hkept := hsuspended.waiting other point hexternal hother
  have hne : other ≠ task := by
    rintro rfl
    rw [hother.point_eq] at hpoint
    simp [hpoint, Point.External] at hexternal
  exact hkept.congr (by simp [setTask, hne])

theorem awaitTask_keeps {child : TaskId} (h : scheduler.Ok)
    (hpoint : (scheduler.tasks task).point = .executing)
    (hchild : (scheduler.tasks child).bound = false) :
    Keeps scheduler (scheduler.awaitTask task child) := by
  have hexecuting := h.waiting_executing hpoint
  have hne : task ≠ child := by
    rintro rfl
    simp [hexecuting.bound] at hchild
  obtain ⟨hinitial, hcontinuation, hqueued⟩ := h.unbound child hchild
  have hsuspended := setPoint_executing_keeps h hpoint (.child child)
  have hparent : (scheduler.setPoint task (.child child)).Waiting task (.child child) := by
    constructor <;> simp [hexecuting.bound, hexecuting.queued]
  have hlinked : ((scheduler.setPoint task (.child child)).setTask child
      { (scheduler.setPoint task (.child child)).tasks child with
        bound := true, continuation := some task }).Ok := by
    refine hsuspended.ok.update child _ _ hsuspended.ok.nodup (fun _ _ => Iff.rfl)
      (hsuspended.ok.queued_iff child) ?_ ?_ rfl ?_ ?_
    · simp [hne.symm, hqueued]
    · simp [hne.symm, hinitial]
    · intro parent hparent' _
      obtain rfl := Option.some.inj hparent'
      exact ⟨hne, hparent⟩
    · intro other _ hother hlive
      have := (hsuspended.ok.child other child hother hlive).point_eq
      simp [hne.symm, hinitial] at this
  have hwaiting : ((scheduler.setPoint task (.child child)).setTask child
      { (scheduler.setPoint task (.child child)).tasks child with
        bound := true, continuation := some task }).Waiting child .initial := by
    constructor <;> simp [hne.symm, hinitial, hqueued]
  obtain ⟨hresult, hok⟩ := hlinked.schedule hwaiting (by simp) (by simp) (by simp) (by simp)
  unfold awaitTask
  simp only [hresult, if_true]
  refine ⟨hok, fun other point hexternal hother => ?_⟩
  have hkept := hsuspended.waiting other point hexternal hother
  have hotherne : other ≠ child := by
    rintro rfl
    have := hother.bound
    simp [hchild] at this
  exact hkept.congr (by simp [setTask, hotherne])

/-- The task that waits for the one that ends is put on the ready list. -/
theorem Ok.schedule_parent (h : scheduler.Ok) (hpoint : (scheduler.tasks task).point = .executing)
    {parent : TaskId} (hcontinuation : (scheduler.tasks task).continuation = some parent) :
    (scheduler.tasks parent).point = .child task ∧ ∃ next,
      (scheduler.setPoint task .final).schedule parent = (.scheduled, next) ∧ next.Ok ∧
      ∀ other, other ≠ parent → next.tasks other = (scheduler.setPoint task .final).tasks other := by
  have hlive : TaskPromise.Live (scheduler.tasks task) := by
    simp [TaskPromise.Live, hpoint]
  have hparent := h.child task parent hcontinuation hlive
  have hne : parent ≠ task := by
    rintro rfl
    rw [hparent.point_eq] at hpoint
    cases hpoint
  have hwaiting : (scheduler.setPoint task .final).Waiting parent (.child task) :=
    hparent.congr (setPoint_tasks_of_ne hne _)
  have hended := setPoint_executing_keeps h hpoint .final
  obtain ⟨hresult, hok⟩ := hended.ok.schedule hwaiting (by simp) (by simp) (by simp) (by
    intro child heq _
    obtain rfl := Point.child.inj heq
    simp [TaskPromise.Live])
  refine ⟨hparent.point_eq, _, hresult, hok, ?_⟩
  intro other hother
  simp [setTask, hother]

theorem complete_keeps (h : scheduler.Ok) (hpoint : (scheduler.tasks task).point = .executing) :
    Keeps scheduler (scheduler.complete task) := by
  have hended := setPoint_executing_keeps h hpoint .final
  unfold complete
  split
  · exact hended
  · rename_i parent hcontinuation
    obtain ⟨hparent, next, hresult, hok, hothers⟩ := h.schedule_parent hpoint hcontinuation
    simp only [hresult, if_true]
    refine ⟨hok, fun other point hexternal hother => ?_⟩
    have hotherne : other ≠ parent := by
      rintro rfl
      rw [← hother.point_eq, hparent] at hexternal
      exact hexternal
    exact (hended.waiting other point hexternal hother).congr (hothers other hotherne)

theorem clearReady_keeps (h : scheduler.Ok) : Keeps scheduler scheduler.clearReady := by
  have htask : ∀ task, scheduler.clearReady.tasks task =
      { scheduler.tasks task with queued := false } := by
    intro task
    unfold clearReady
    dsimp only
    split
    · rfl
    · rename_i hready
      have : (scheduler.tasks task).queued = false := by
        simpa using (h.queued_iff task).not.mpr hready
      rw [← this]
  have hwaiting : ∀ task point, scheduler.Waiting task point →
      scheduler.clearReady.Waiting task point := by
    intro task point hwaiting
    constructor <;> simp [htask, hwaiting.bound, hwaiting.point_eq]
  refine ⟨⟨h.running, by simp [clearReady], ?_, ?_, ?_, ?_, ?_⟩, fun task point _ =>
    hwaiting task point⟩
  · intro task
    rw [htask]
    show false = true ↔ task ∈ []
    simp
  · intro task
    simp [htask]
  · intro task
    simpa [htask] using fun hpoint => (h.executing task hpoint).1
  · intro task
    simpa [htask] using fun hbound => ⟨(h.unbound task hbound).1, (h.unbound task hbound).2.1⟩
  · intro task parent
    simp only [htask, TaskPromise.Live]
    exact fun hcontinuation hlive => hwaiting _ _ (h.child task parent hcontinuation hlive)

end Scheduler

end DnsPro.Runtime
