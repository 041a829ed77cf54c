import DnsPro.Lib.Transition
import DnsPro.Runtime.Scheduler

/-!
# What a scheduler is for

A dispatcher resumes tasks in the order in which they were scheduled, at most as
many as the call of `run_ready` may, and one at a time.  The call returns when no
task is left or it may resume no other.  The dispatcher owns the root tasks until
they end or are cancelled, and a call cancels them only when it was asked to.  What
is asked of it while a task executes waits until the task has suspended, and then
comes before anything else.

`FifoDispatcher.step` is `none` for an event that such a dispatcher never makes.
-/

namespace DnsPro.Runtime

/-- What a scheduler does, as seen from outside. -/
inductive DispatchEvent where
  | spawned (task : TaskId)
  | scheduled (task : TaskId)
  | entered (budget : Nat)
  | resumed (task : TaskId)
  | cancelRequested
  | suspended (task : TaskId)
  | finished (task : TaskId)
  | cancelled
  | returned (resumed : Nat)
  deriving DecidableEq, Repr

/-- The tasks that wait to be resumed, the root tasks that live and those that
have ended, the budget of the current call of `run_ready` and how many tasks it
resumed, and the task that executes. -/
structure FifoDispatcher where
  queue : List TaskId := []
  roots : List TaskId := []
  ended : List TaskId := []
  call : Option (Nat × Nat) := none
  executing : Option TaskId := none
  pending : Bool := false
  deriving DecidableEq

namespace FifoDispatcher

open Transition

/-- The call may resume one more task. -/
def mayResume : Option (Nat × Nat) → Bool
  | none => false
  | some (budget, resumed) => resumed < budget

def step (dispatcher : FifoDispatcher) : DispatchEvent → Option FifoDispatcher
  | .spawned task =>
    if task ∉ dispatcher.roots ∧ task ∉ dispatcher.ended then
      some { dispatcher with roots := task :: dispatcher.roots }
    else none
  | .scheduled task =>
    if task ∉ dispatcher.queue then
      some { dispatcher with queue := dispatcher.queue ++ [task] }
    else none
  | .entered budget =>
    if dispatcher.call = none ∧ dispatcher.executing = none then
      some { dispatcher with call := some (budget, 0) }
    else none
  | .resumed task =>
    if dispatcher.queue.head? = some task ∧ mayResume dispatcher.call ∧
        dispatcher.executing = none ∧ dispatcher.pending = false then
      some { dispatcher with queue := dispatcher.queue.tail, executing := some task }
    else none
  | .cancelRequested =>
    if dispatcher.executing ≠ none then some { dispatcher with pending := true } else none
  | .suspended task =>
    if dispatcher.executing = some task then
      some { dispatcher with
        executing := none
        call := dispatcher.call.map fun call => (call.1, call.2 + 1) }
    else none
  | .finished task =>
    if task ∈ dispatcher.roots ∧ dispatcher.executing = none then
      some { dispatcher with
        roots := dispatcher.roots.erase task
        ended := dispatcher.ended ++ [task] }
    else none
  | .cancelled =>
    if dispatcher.executing = none ∧ (dispatcher.pending = true ∨ dispatcher.call = none) then
      some { dispatcher with
        queue := []
        roots := []
        ended := dispatcher.ended ++ dispatcher.roots
        pending := false }
    else none
  | .returned resumed =>
    if dispatcher.call.map Prod.snd = some resumed ∧ dispatcher.executing = none ∧
        dispatcher.pending = false ∧
        (dispatcher.queue = [] ∨ mayResume dispatcher.call = false) then
      some { dispatcher with call := none }
    else none

variable {dispatcher next : FifoDispatcher} {event : DispatchEvent} {log : List DispatchEvent}
  {task : TaskId}

/-- The tasks scheduled since the last cancellation. -/
def scheduledTasks (log : List DispatchEvent) : List TaskId :=
  log.foldl (fun tasks event =>
    match event with
    | .scheduled task => tasks ++ [task]
    | .cancelled => []
    | _ => tasks) []

/-- The tasks resumed since the last cancellation. -/
def resumedTasks (log : List DispatchEvent) : List TaskId :=
  log.foldl (fun tasks event =>
    match event with
    | .resumed task => tasks ++ [task]
    | .cancelled => []
    | _ => tasks) []

theorem run_snoc :
    run step dispatcher (log ++ [event]) = some next ↔
      ∃ middle, run step dispatcher log = some middle ∧ step middle event = some next := by
  rw [run_append]
  constructor
  · rintro ⟨middle, hrun, hlast⟩
    obtain ⟨final, hstep, hfinal⟩ := run_cons.mp hlast
    obtain rfl := Option.some.inj hfinal
    exact ⟨middle, hrun, hstep⟩
  · rintro ⟨middle, hrun, hstep⟩
    exact ⟨middle, hrun, run_cons.mpr ⟨next, hstep, rfl⟩⟩

/-- Tasks are resumed in exactly the order in which they were scheduled. -/
theorem scheduled_eq (h : run step {} log = some dispatcher) :
    scheduledTasks log = resumedTasks log ++ dispatcher.queue := by
  induction log using List.reverseRecOn generalizing dispatcher with
  | nil =>
    obtain rfl := Option.some.inj h
    rfl
  | append_singleton log event ih =>
    obtain ⟨middle, hrun, hstep⟩ := run_snoc.mp h
    have hmiddle := ih hrun
    rw [scheduledTasks, resumedTasks] at hmiddle ⊢
    rw [List.foldl_append, List.foldl_append, hmiddle]
    cases event with
    | scheduled task =>
      obtain ⟨_, rfl⟩ := enabled hstep
      exact List.append_assoc _ _ _
    | resumed task =>
      obtain ⟨hfront, rfl⟩ := enabled hstep
      have hqueue : task :: middle.queue.tail = middle.queue :=
        List.cons_head?_tail hfront.1
      rw [← hqueue]
      simp
    | cancelled =>
      obtain ⟨_, rfl⟩ := enabled hstep
      rfl
    | spawned task | entered budget | cancelRequested | suspended task | finished task
    | returned resumed =>
      obtain ⟨_, rfl⟩ := enabled hstep
      rfl

/-- A root task lives or has ended, and no other task does. -/
theorem spawned_iff (h : run step {} log = some dispatcher) (task : TaskId) :
    .spawned task ∈ log ↔ task ∈ dispatcher.roots ∨ task ∈ dispatcher.ended := by
  induction log using List.reverseRecOn generalizing dispatcher with
  | nil =>
    obtain rfl := Option.some.inj h
    simp
  | append_singleton log event ih =>
    obtain ⟨middle, hrun, hstep⟩ := run_snoc.mp h
    have hmiddle := ih hrun
    rw [List.mem_append, List.mem_singleton, hmiddle]
    cases event with
    | spawned other =>
      obtain ⟨_, rfl⟩ := enabled hstep
      grind
    | finished other =>
      obtain ⟨_, rfl⟩ := enabled hstep
      have := List.mem_erase_of_ne (a := task) (b := other) (l := middle.roots)
      grind
    | cancelled =>
      obtain ⟨_, rfl⟩ := enabled hstep
      grind
    | scheduled other | entered budget | resumed other | cancelRequested | suspended other
    | returned resumed =>
      obtain ⟨_, rfl⟩ := enabled hstep
      simp

/-- A call of `run_ready` resumes at most as many tasks as its budget says. -/
theorem resumed_le (h : run step {} log = some dispatcher) {budget resumed : Nat}
    (hcall : dispatcher.call = some (budget, resumed)) :
    resumed ≤ budget ∧ (dispatcher.executing ≠ none → resumed < budget) := by
  induction log using List.reverseRecOn generalizing dispatcher budget resumed with
  | nil =>
    obtain rfl := Option.some.inj h
    cases hcall
  | append_singleton log event ih =>
    obtain ⟨middle, hrun, hstep⟩ := run_snoc.mp h
    cases event with
    | entered other =>
      obtain ⟨⟨_, hidle⟩, rfl⟩ := enabled hstep
      obtain ⟨rfl, rfl⟩ := Prod.mk.inj (Option.some.inj hcall)
      exact ⟨Nat.zero_le other, fun hexecuting => absurd hidle hexecuting⟩
    | resumed task =>
      obtain ⟨⟨_, hmay, _⟩, rfl⟩ := enabled hstep
      change middle.call = some (budget, resumed) at hcall
      rw [hcall] at hmay
      have hlt : resumed < budget := of_decide_eq_true hmay
      exact ⟨hlt.le, fun _ => hlt⟩
    | suspended task =>
      obtain ⟨hexecuting, rfl⟩ := enabled hstep
      obtain ⟨⟨first, second⟩, hbefore, heq⟩ := Option.map_eq_some_iff.mp hcall
      obtain ⟨rfl, rfl⟩ := Prod.mk.inj heq
      have hlt := (ih hrun hbefore).2 (by rw [hexecuting]; exact Option.some_ne_none task)
      exact ⟨hlt, fun hnone => absurd rfl hnone⟩
    | returned other =>
      obtain ⟨_, rfl⟩ := enabled hstep
      cases hcall
    | spawned task | scheduled task | finished task =>
      obtain ⟨_, rfl⟩ := enabled hstep
      exact ih hrun hcall
    | cancelRequested | cancelled =>
      obtain ⟨_, rfl⟩ := enabled hstep
      exact ih hrun hcall

end FifoDispatcher

end DnsPro.Runtime
