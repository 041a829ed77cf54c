import DnsPro.Upstream.Ending
import DnsPro.WorkerRuntime.Invariant

/-!
# The tasks that an operation does not run

A task that is suspended stands where it stood after every operation, and is on the ready list
if it was.  If its query was pending, then it is pending still, or the task is on the ready
list: `Attends` says so of one task.  What ends queries attends to every task, and what a task
does attends to the other ones.
-/

namespace DnsPro.Upstream.System

open DnsPro.Protocol DnsPro.Runtime

variable {env : Environment} {system next third : System} {query other : QueryId} {task : TaskId}

structure Attends (task : TaskId) (system next : System) : Prop where
  stays : Scheduler.Stays task system.scheduler next.scheduler
  awaited : ∀ query, (system.queries query).state = .pending → (system.queries query).frame = task →
    (next.queries query).state = .pending ∧ (next.queries query).frame = task ∨
      (next.scheduler.tasks task).queued = true

theorem attends_of_eq (hscheduler : next.scheduler = system.scheduler)
    (hqueries : next.queries = system.queries) : Attends task system next where
  stays := .of_eq (by rw [hscheduler])
  awaited query hpending hframe := .inl ⟨by rw [hqueries, hpending], by rw [hqueries, hframe]⟩

theorem Attends.refl (task : TaskId) (system : System) : Attends task system system :=
  attends_of_eq rfl rfl

theorem Attends.trans (h : Attends task system next) (h' : Attends task next third) :
    Attends task system third where
  stays := h.stays.trans h'.stays
  awaited query hpending hframe := by
    rcases h.awaited query hpending hframe with ⟨hstill, hsame⟩ | hqueued
    · exact h'.awaited query hstill hsame
    · exact .inr (h'.stays.queued hqueued)

/-- Only the query of another task changes. -/
theorem attends_of_query (hstays : Scheduler.Stays task system.scheduler next.scheduler)
    (hqueries : ∀ other, other ≠ query → next.queries other = system.queries other)
    (hframe : (system.queries query).state = .pending → (system.queries query).frame ≠ task) :
    Attends task system next where
  stays := hstays
  awaited other hpending hother := by
    have hne : other ≠ query := by
      rintro rfl
      exact hframe hpending hother
    exact .inl ⟨by rw [hqueries other hne, hpending], by rw [hqueries other hne, hother]⟩

/-! ## Ending a query -/

/-- The task of a query that ends is on the ready list. -/
theorem finish_attends (env : Environment) {exempt : Option Timer} (h : Inv exempt system)
    (hpending : (system.queries query).state = .pending)
    (hexempt : ∀ timer, exempt = some timer → timer = .query query) {outcome : QueryOutcome}
    (houtcome : Ending outcome) (response : Bytes) (errorNumber : Int) (task : TaskId) :
    Attends task system (system.finish env query outcome response errorNumber).2 := by
  obtain ⟨timers, retired, hfinish, -⟩ :=
    h.finish env hpending hexempt houtcome response errorNumber
  obtain ⟨hstays, hwoke⟩ := h.finished_woke env hpending ⟨outcome, response, errorNumber⟩
    timers retired
  rw [hfinish]
  by_cases hself : task = (system.queries query).frame
  · exact ⟨hstays task, fun _ _ _ => .inr (hself ▸ hwoke.queued)⟩
  · exact attends_of_query (hstays task) (fun other hne => Function.update_of_ne hne _ _)
      fun _ => Ne.symm hself

theorem completeSleep_attends (system : System) (sleep : Nat) (completion : TimerCompletion)
    (task : TaskId) : Attends task system (system.completeSleep sleep completion).2 := by
  unfold System.completeSleep
  dsimp only
  cases (system.sleeps sleep).task with
  | none => exact attends_of_eq rfl rfl
  | some sleeper =>
    dsimp only
    generalize (if completion = .expired then SleepState.expired else .cancelled) = state
    split
    · exact attends_of_eq rfl rfl
    · exact ⟨Scheduler.schedule_stays _ task _, fun _ hpending hframe => .inl ⟨hpending, hframe⟩⟩

theorem completeTimer_attends (env : Environment) {timer : Timer} (h : Inv (some timer) system)
    (completion : TimerCompletion) (task : TaskId) :
    Attends task system (completeTimer env system timer completion).2 := by
  cases timer with
  | query query =>
    obtain ⟨outcome, houtcome, -, hcomplete⟩ := h.deadlineComplete_eq env completion
    rw [completeTimer, hcomplete]
    exact finish_attends env h (h.heldQuery query (.inr rfl))
      (fun _ heq => (Option.some.inj heq).symm) houtcome [] 0 task
  | sleep sleep => exact completeSleep_attends system sleep completion task

theorem awaitQuery_attends (env : Environment) (system : System) (query : QueryId)
    (writeFails armFails : Bool) (sent : SendOutcome) (hne : task ≠ (system.queries query).frame) :
    Attends task system (system.awaitQuery env query writeFails armFails sent) := by
  refine attends_of_query ?_ (awaitQuery_spares env system query writeFails armFails sent).others
    fun _ => Ne.symm hne
  rcases WorkerRuntime.awaitQuery_scheduler env system query writeFails armFails sent with heq | heq
  · rw [heq]
    exact .refl task _
  · rw [heq]
    exact Scheduler.setPoint_stays _ hne _

theorem beginSend_pending (env : Environment) (system : System) (query : QueryId) (task : TaskId)
    (id : UInt16) (wire : Bytes) (armFails : Bool) (sent : SendOutcome) :
    (system.beginSend env query task id wire armFails sent).1 = some .suspended →
      ((system.beginSend env query task id wire armFails sent).2.queries query).state = .pending := by
  unfold System.beginSend
  dsimp only [System.setQuery]
  split
  · exact fun hsuspended => by cases hsuspended
  · split
    · exact fun _ => by simp
    · exact fun hsuspended => by cases hsuspended
  · exact fun hsuspended => by cases hsuspended
  · exact fun hsuspended => by cases hsuspended

/-- A query that is suspended is pending. -/
theorem begin_pending (env : Environment) (system : System) (query : QueryId) (task : TaskId)
    (writeFails armFails : Bool) (sent : SendOutcome) :
    (system.begin env query task writeFails armFails sent).1 = some .suspended →
      ((system.begin env query task writeFails armFails sent).2.queries query).state = .pending := by
  unfold System.begin
  split
  · exact fun hsuspended => by cases hsuspended
  split
  · exact fun hsuspended => by cases hsuspended
  dsimp only
  split
  · exact fun hsuspended => by cases hsuspended
  split
  · exact fun hsuspended => by cases hsuspended
  split
  · exact fun hsuspended => by cases hsuspended
  · exact beginSend_pending env _ query task _ _ armFails sent

/-- The task that awaits a query goes on executing, or the query is pending. -/
theorem awaitQuery_pending (env : Environment) (system : System) (query : QueryId)
    (writeFails armFails : Bool) (sent : SendOutcome) :
    (system.awaitQuery env query writeFails armFails sent).scheduler = system.scheduler ∨
      ((system.awaitQuery env query writeFails armFails sent).queries query).state = .pending := by
  have hscheduler := WorkerRuntime.begin_scheduler env system query (system.queries query).frame
    writeFails armFails sent
  have hpending := begin_pending env system query (system.queries query).frame writeFails armFails
    sent
  unfold System.awaitQuery
  dsimp only
  split
  · exact .inl rfl
  split
  · exact .inl rfl
  split
  · exact .inl rfl
  generalize system.begin env query (system.queries query).frame writeFails armFails sent = outcome
    at hscheduler hpending
  split
  · exact .inl hscheduler
  · exact .inr (hpending rfl)
  · exact .inl hscheduler

end DnsPro.Upstream.System
