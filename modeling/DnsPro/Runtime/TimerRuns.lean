import DnsPro.Lib.Transition
import DnsPro.Runtime.TimerOrder

/-!
# Runs of the timer queue

The queue between two pieces of code of its users: a step is a whole `arm`, `disarm`
or destruction, or a part of `expire` or `cancel_all` up to or from the call of a
callback.  While a callback runs its code may use the queue, and may even start
another `expire` or `cancel_all`, so the calls in progress are a stack.

Armings are numbered, and the log says how each of them ended.
-/

namespace DnsPro.Runtime

open DnsPro.Transition

variable {ν : Type} [DecidableEq ν]

/-- The two functions that call back. -/
inductive DispatchKind where
  | expire (now : TimePoint) (budget : Nat)
  | cancelAll
  deriving DecidableEq, Repr

def DispatchKind.completion : DispatchKind → TimerCompletion
  | .expire .. => .expired
  | .cancelAll => .cancelled

/-- A call of `expire` or `cancel_all` that has not returned. -/
structure DispatchCall where
  kind : DispatchKind
  result : DispatchResult := {}
  inCallback : Bool := false
  deriving DecidableEq, Repr

inductive TimerEvent (ν : Type) where
  | armed (arming : Nat) (node : ν)
  | disarmed (arming : Nat)
  | abandoned (arming : Nat)
  | callback (arming : Nat) (node : ν) (completion : TimerCompletion)
  | returned (result : DispatchResult)
  deriving DecidableEq, Repr

/-- The arming that the event ends. -/
def TimerEvent.ends : TimerEvent ν → Option Nat
  | .disarmed arming | .abandoned arming | .callback arming .. => some arming
  | .armed .. | .returned _ => none

/-- The callback for an arming. -/
def TimerEvent.callsBack (arming : Nat) : TimerEvent ν → Bool
  | .callback arming' .. => decide (arming' = arming)
  | _ => false

/-- The end of an arming without a callback. -/
def TimerEvent.takesBack (arming : Nat) : TimerEvent ν → Bool
  | .disarmed arming' | .abandoned arming' => decide (arming' = arming)
  | _ => false

/-- A queue, the calls in progress, the number of the latest arming of each
registration, the number of armings, and what has happened. -/
structure TimerRun (ν : Type) where
  timers : TimerQueue ν := {}
  calls : List DispatchCall := []
  armings : ν → Nat := fun _ => 0
  count : Nat := 0
  log : List (TimerEvent ν) := []

inductive TimerLabel (ν : Type) where
  | start (owned : Bool)
  | close
  | stop
  | arm (node : ν) (deadline : TimePoint) (completion allocationFails : Bool)
  | disarm (node : ν)
  | abandon (node : ν)
  | dispatch (kind : DispatchKind)
  | front
  | callbackReturns (scheduled : Bool)
  | finish
  deriving DecidableEq, Repr

namespace TimerQueue

/-- The registration at the front is due. -/
def hasDue (timers : TimerQueue ν) (now : TimePoint) : Bool :=
  timers.heap.nodes.head?.any (timers.isDue now)

end TimerQueue

/-- The condition of the loop. -/
def DispatchCall.continues (call : DispatchCall) (timers : TimerQueue ν) : Bool :=
  match call.kind with
  | .expire now budget => decide (call.result.dispatched < budget) && timers.hasDue now
  | .cancelAll => !timers.heap.nodes.isEmpty

/-- What the call returns, after its loop. -/
def DispatchCall.answer (call : DispatchCall) (timers : TimerQueue ν) : DispatchResult :=
  match call.kind with
  | .expire now _ => { call.result with hasDue := timers.hasDue now }
  | .cancelAll => call.result

namespace TimerRun

/-- The code of the users runs: no call is in progress, or the latest one is in a
callback. -/
def free (run : TimerRun ν) : Bool := run.calls.head?.all DispatchCall.inCallback

def arm (run : TimerRun ν) (node : ν) (deadline : TimePoint) (completion allocationFails : Bool) :
    TimerRun ν :=
  match run.timers.arm node deadline completion allocationFails with
  | (some .armed, timers) =>
    { run with
      timers := timers
      armings := Function.update run.armings node run.count
      count := run.count + 1
      log := run.log ++ [.armed run.count node] }
  | (_, timers) => { run with timers := timers }

def disarm (run : TimerRun ν) (node : ν) : TimerRun ν :=
  match run.timers.disarm node with
  | (true, timers) => { run with
      timers := timers
      log := run.log ++ [.disarmed (run.armings node)] }
  | (false, timers) => { run with timers := timers }

def abandon (run : TimerRun ν) (node : ν) : TimerRun ν :=
  { run with
    timers := run.timers.abandon node
    log := if (run.timers.registrations node).owner
      then run.log ++ [.abandoned (run.armings node)] else run.log }

/-- The beginning of `expire` and `cancel_all`. -/
def dispatch (run : TimerRun ν) (kind : DispatchKind) : TimerRun ν :=
  if run.timers.running then { run with calls := { kind := kind } :: run.calls }
  else { run with log := run.log ++ [.returned {}] }

/-- `complete_front` up to its callback. -/
def front (run : TimerRun ν) : Option (TimerRun ν) :=
  match run.calls, run.timers.heap.nodes.head? with
  | call :: calls, some node =>
    if call.inCallback = false ∧ call.continues run.timers then
      let timers := run.timers.removeAt 0
      let result := { call.result with dispatched := call.result.dispatched + 1 }
      if (run.timers.registrations node).completion then
        some { run with
          timers := timers
          calls := { call with result := result, inCallback := true } :: calls
          log := run.log ++ [.callback (run.armings node) node call.kind.completion] }
      else
        some { run with
          timers := { timers with invariantFailures := timers.invariantFailures + 1 }
          calls := { call with
            result := { result with scheduleFailures := result.scheduleFailures + 1 } } :: calls }
    else none
  | _, _ => none

/-- `complete_front` from the return of its callback. -/
def callbackReturns (run : TimerRun ν) (scheduled : Bool) : Option (TimerRun ν) :=
  match run.calls with
  | [] => none
  | call :: calls =>
    if call.inCallback = false then none
    else if scheduled then
      some { run with calls := { call with inCallback := false } :: calls }
    else
      some { run with
        timers := { run.timers with invariantFailures := run.timers.invariantFailures + 1 }
        calls := { call with
          result := { call.result with scheduleFailures := call.result.scheduleFailures + 1 }
          inCallback := false } :: calls }

/-- The loop has ended. -/
def finish (run : TimerRun ν) : Option (TimerRun ν) :=
  match run.calls with
  | [] => none
  | call :: calls =>
    if call.inCallback ∨ call.continues run.timers then none
    else some { run with
      calls := calls
      log := run.log ++ [.returned (call.answer run.timers)] }

def step (run : TimerRun ν) : TimerLabel ν → Option (TimerRun ν)
  | .start owned =>
    if run.free then some { run with timers := (run.timers.start owned).2 } else none
  | .close => if run.free then some { run with timers := run.timers.close } else none
  | .stop => if run.free then some { run with timers := run.timers.stop.2 } else none
  | .arm node deadline completion allocationFails =>
    if run.free then some (run.arm node deadline completion allocationFails) else none
  | .disarm node => if run.free then some (run.disarm node) else none
  | .abandon node => if run.free then some (run.abandon node) else none
  | .dispatch kind => if run.free then some (run.dispatch kind) else none
  | .front => run.front
  | .callbackReturns scheduled => run.callbackReturns scheduled
  | .finish => run.finish

/-- The armings that have ended. -/
def endings (run : TimerRun ν) : List Nat := run.log.filterMap TimerEvent.ends

/-- The number of callbacks for an arming. -/
def callbacks (run : TimerRun ν) (arming : Nat) : Nat :=
  run.log.countP (TimerEvent.callsBack arming)

/-! ## What holds between two steps -/

/-- An arming ends once, and only when its registration is armed no more. -/
structure Kept (run : TimerRun ν) : Prop where
  ok : run.timers.Ok
  sorted : run.timers.Sorted
  numbered : ∀ node, (run.timers.registrations node).owner = true → run.armings node < run.count
  distinct : ∀ node other, (run.timers.registrations node).owner = true →
    (run.timers.registrations other).owner = true → run.armings node = run.armings other →
    node = other
  ended_lt : ∀ arming ∈ run.endings, arming < run.count
  ended_once : run.endings.Nodup
  live : ∀ node, (run.timers.registrations node).owner = true → run.armings node ∉ run.endings

variable {run next : TimerRun ν} {node : ν}

omit [DecidableEq ν] in
theorem kept_new : ({} : TimerRun ν).Kept where
  ok := ⟨IndexedHeap.indexed_empty, fun _ => by simp, fun _ h => by simp at h,
    fun h => absurd rfl h⟩
  sorted := TimerQueue.sorted_of_nil rfl
  numbered _ h := by simp at h
  distinct _ _ h := by simp at h
  ended_lt _ h := by simp [endings] at h
  ended_once := List.nodup_nil
  live _ h := by simp at h

omit [DecidableEq ν] in
/-- A step that arms nothing and ends nothing. -/
theorem Kept.same (h : run.Kept) (hok : next.timers.Ok) (hsorted : next.timers.Sorted)
    (howner : ∀ node, (next.timers.registrations node).owner = true →
      (run.timers.registrations node).owner = true)
    (harmings : next.armings = run.armings) (hcount : next.count = run.count)
    (hendings : next.endings = run.endings) : next.Kept where
  ok := hok
  sorted := hsorted
  numbered node hnode := by
    rw [harmings, hcount]
    exact h.numbered node (howner node hnode)
  distinct node other hnode hother := by
    rw [harmings]
    exact h.distinct node other (howner node hnode) (howner other hother)
  ended_lt := by
    rw [hendings, hcount]
    exact h.ended_lt
  ended_once := by
    rw [hendings]
    exact h.ended_once
  live node hnode := by
    rw [harmings, hendings]
    exact h.live node (howner node hnode)

omit [DecidableEq ν] in
/-- A step that ends the arming of one registration. -/
theorem Kept.ends (h : run.Kept) (harmed : (run.timers.registrations node).owner = true)
    (hrearmed : TimerQueue.Rearmed run.timers next.timers node false)
    (hsorted : next.timers.Sorted) (harmings : next.armings = run.armings)
    (hcount : next.count = run.count)
    (hendings : next.endings = run.endings ++ [run.armings node]) :
    next.Kept := by
  have hother : ∀ other, (next.timers.registrations other).owner = true →
      other ≠ node ∧ (run.timers.registrations other).owner = true := by
    intro other howner
    have hne : other ≠ node := by
      rintro rfl
      rw [hrearmed.owner_eq] at howner
      cases howner
    rw [hrearmed.others other hne] at howner
    exact ⟨hne, howner⟩
  refine ⟨hrearmed.ok, hsorted, ?_, ?_, ?_, ?_, ?_⟩
  · intro other howner
    rw [harmings, hcount]
    exact h.numbered other (hother other howner).2
  · intro other third howner hthird
    rw [harmings]
    exact h.distinct other third (hother other howner).2 (hother third hthird).2
  · intro arming hmem
    rw [hendings, List.mem_append, List.mem_singleton] at hmem
    rw [hcount]
    rcases hmem with hmem | rfl
    · exact h.ended_lt arming hmem
    · exact h.numbered node harmed
  · rw [hendings, ← List.concat_eq_append, List.nodup_concat]
    exact ⟨h.live node harmed, h.ended_once⟩
  · intro other howner
    obtain ⟨hne, howner⟩ := hother other howner
    rw [harmings, hendings, List.mem_append, List.mem_singleton]
    rintro (hmem | heq)
    · exact h.live other howner hmem
    · exact hne (h.distinct other node howner harmed heq)

/-- A step that arms a registration. -/
theorem Kept.arms (h : run.Kept) (hrearmed : TimerQueue.Rearmed run.timers next.timers node true)
    (hsorted : next.timers.Sorted)
    (harmings : next.armings = Function.update run.armings node run.count)
    (hcount : next.count = run.count + 1) (hendings : next.endings = run.endings) : next.Kept := by
  have hother : ∀ other, other ≠ node → (next.timers.registrations other).owner = true →
      next.armings other = run.armings other ∧ (run.timers.registrations other).owner = true := by
    intro other hne howner
    rw [hrearmed.others other hne] at howner
    exact ⟨by rw [harmings, Function.update_of_ne hne], howner⟩
  have hself : next.armings node = run.count := by rw [harmings, Function.update_self]
  refine ⟨hrearmed.ok, hsorted, ?_, ?_, ?_, ?_, ?_⟩
  · intro other howner
    by_cases hne : other = node
    · rw [hne, hself, hcount]
      exact Nat.lt_succ_self _
    · obtain ⟨heq, howner⟩ := hother other hne howner
      rw [heq, hcount]
      exact (h.numbered other howner).trans (Nat.lt_succ_self _)
  · intro other third howner hthird heq
    by_cases hne : other = node <;> by_cases hne' : third = node
    · rw [hne, hne']
    · obtain ⟨heq', hthird⟩ := hother third hne' hthird
      rw [hne, hself, heq'] at heq
      exact absurd heq.symm (h.numbered third hthird).ne
    · obtain ⟨heq', howner⟩ := hother other hne howner
      rw [hne', hself, heq'] at heq
      exact absurd heq (h.numbered other howner).ne
    · obtain ⟨heq1, howner⟩ := hother other hne howner
      obtain ⟨heq2, hthird⟩ := hother third hne' hthird
      rw [heq1, heq2] at heq
      exact h.distinct other third howner hthird heq
  · intro arming hmem
    rw [hendings] at hmem
    rw [hcount]
    exact (h.ended_lt arming hmem).trans (Nat.lt_succ_self _)
  · rw [hendings]
    exact h.ended_once
  · intro other howner
    rw [hendings]
    by_cases hne : other = node
    · rw [hne, hself]
      exact fun hmem => (h.ended_lt _ hmem).ne rfl
    · obtain ⟨heq, howner⟩ := hother other hne howner
      rw [heq]
      exact h.live other howner

/-! ## Steps -/

omit [DecidableEq ν] in
/-- The registrations and the heap are as they were. -/
theorem Kept.frame (h : run.Kept)
    (hregistrations : next.timers.registrations = run.timers.registrations)
    (hheap : next.timers.heap = run.timers.heap)
    (hrunning : run.timers.heap.nodes ≠ [] → next.timers.running = true)
    (hsequence : run.timers.heap.nodes ≠ [] → run.timers.nextSequence ≤ next.timers.nextSequence)
    (harmings : next.armings = run.armings) (hcount : next.count = run.count)
    (hendings : next.endings = run.endings) : next.Kept := by
  refine h.same ⟨?_, ?_, ?_, ?_⟩ ?_ ?_ harmings hcount hendings
  · rw [hheap]
    exact h.ok.indexed
  · rw [hregistrations, hheap]
    exact h.ok.owner_iff
  · rw [hregistrations]
    exact h.ok.completion
  · rw [hheap]
    exact hrunning
  · by_cases hnil : run.timers.heap.nodes = []
    · apply TimerQueue.sorted_of_nil
      rw [hheap, hnil]
    · exact h.sorted.congr (congrArg IndexedHeap.nodes hheap)
        (fun other _ => congrFun hregistrations other) (hsequence hnil)
  · rw [hregistrations]
    exact fun _ howner => howner

omit [DecidableEq ν] in
theorem Kept.start (h : run.Kept) (owned : Bool) :
    ({ run with timers := (run.timers.start owned).2 } : TimerRun ν).Kept := by
  unfold TimerQueue.start
  split
  · exact h
  · rename_i hstart
    have hnil : run.timers.heap.nodes = [] := by
      by_contra hne
      exact hstart (Or.inr (Or.inl hne))
    exact h.frame rfl rfl (fun hne => absurd hnil hne) (fun hne => absurd hnil hne) rfl rfl rfl

omit [DecidableEq ν] in
theorem Kept.stop (h : run.Kept) :
    ({ run with timers := run.timers.stop.2 } : TimerRun ν).Kept := by
  unfold TimerQueue.stop
  split
  · exact h
  · rename_i hempty
    have hnil := not_not.mp hempty
    exact h.frame rfl rfl (fun hne => absurd hnil hne) (fun hne => absurd hnil hne) rfl rfl rfl

theorem Kept.arm (h : run.Kept) (node : ν) (deadline : TimePoint)
    (completion allocationFails : Bool) :
    (run.arm node deadline completion allocationFails).Kept := by
  have hsorted := h.sorted.arm h.ok node deadline completion allocationFails
  have hcases := h.ok.arm_cases node deadline completion allocationFails
  unfold TimerRun.arm
  generalize run.timers.arm node deadline completion allocationFails = outcome at *
  obtain ⟨result, timers⟩ := outcome
  dsimp only at hsorted hcases
  split
  · rename_i timers' heq
    obtain ⟨rfl, rfl⟩ := Prod.mk.inj heq
    obtain ⟨-, -, -, hrearmed⟩ | ⟨hother, -⟩ | ⟨hfailed, -⟩ := hcases
    · exact h.arms hrearmed hsorted rfl rfl (by simp [endings, TimerEvent.ends])
    · exact absurd rfl hother
    · cases hfailed
  · rename_i hrefused heq
    obtain ⟨rfl, rfl⟩ := Prod.mk.inj heq
    obtain ⟨harmed, -⟩ | ⟨-, hsame⟩ | ⟨-, howner, hrearmed⟩ := hcases
    · obtain rfl : result = some .armed := harmed
      exact absurd rfl hrefused
    · exact h.frame (by rw [hsame]) (by rw [hsame]) (by rw [hsame]; exact h.ok.running)
        (by rw [hsame]; exact fun _ => le_rfl) rfl rfl rfl
    · refine h.same hrearmed.ok hsorted ?_ rfl rfl rfl
      intro other hother
      by_cases hne : other = node
      · rw [hne, hrearmed.owner_eq] at hother
        cases hother
      · rwa [hrearmed.others other hne] at hother

/-- Taking a registration out, with the event for the end of its arming. -/
theorem Kept.remove (h : run.Kept) {index : Nat} (hnode : run.timers.heap.nodes[index]? = some node)
    (hregistrations : next.timers.registrations = (run.timers.removeAt index).registrations)
    (hheap : next.timers.heap = (run.timers.removeAt index).heap)
    (hrunning : next.timers.running = (run.timers.removeAt index).running)
    (hsequence : next.timers.nextSequence = (run.timers.removeAt index).nextSequence)
    (harmings : next.armings = run.armings) (hcount : next.count = run.count) {event : TimerEvent ν}
    (hlog : next.log = run.log ++ [event]) (hevent : event.ends = some (run.armings node)) :
    next.Kept := by
  have harmed := (h.ok.owner_iff node).mpr (List.mem_of_getElem? hnode)
  have hends : ({ run with
      timers := run.timers.removeAt index, log := run.log ++ [event] } : TimerRun ν).Kept :=
    h.ends harmed (h.ok.removeAt hnode) (h.sorted.removeAt h.ok hnode) rfl rfl
      (by simp [endings, hevent])
  refine hends.frame hregistrations hheap ?_ ?_ harmings hcount ?_
  · intro hne
    rw [hrunning]
    exact hends.ok.running hne
  · exact fun _ => hsequence.ge
  · rw [endings, endings, hlog]

theorem Kept.disarm (h : run.Kept) (node : ν) : (run.disarm node).Kept := by
  unfold TimerRun.disarm
  cases howner : (run.timers.registrations node).owner with
  | true =>
    obtain ⟨index, hindex, hdisarm⟩ := h.ok.disarm_eq howner
    rw [hdisarm]
    exact h.remove hindex rfl rfl rfl rfl rfl rfl rfl rfl
  | false =>
    have hdisarm : run.timers.disarm node = (false, run.timers) := by
      unfold TimerQueue.disarm
      rw [if_pos (Or.inr howner)]
    rw [hdisarm]
    exact h

theorem Kept.abandon (h : run.Kept) (node : ν) : (run.abandon node).Kept := by
  unfold TimerRun.abandon
  cases howner : (run.timers.registrations node).owner with
  | true =>
    obtain ⟨index, hindex, habandon⟩ := h.ok.abandon_eq howner
    rw [habandon, if_pos rfl]
    exact h.remove hindex rfl rfl rfl rfl rfl rfl rfl rfl
  | false =>
    have habandon : run.timers.abandon node = run.timers := by
      unfold TimerQueue.abandon
      rw [if_pos howner]
    rw [habandon, if_neg Bool.false_ne_true]
    exact h

/-- What the first half of `complete_front` does. -/
theorem front_cases (h : run.Kept) (hstep : run.front = some next) :
    ∃ call calls node, run.calls = call :: calls ∧ call.inCallback = false ∧
      call.continues run.timers = true ∧ run.timers.heap.nodes.head? = some node ∧
      next = { run with
        timers := run.timers.removeAt 0
        calls := { call with
          result := { call.result with dispatched := call.result.dispatched + 1 }
          inCallback := true } :: calls
        log := run.log ++ [.callback (run.armings node) node call.kind.completion] } := by
  unfold front at hstep
  split at hstep
  · rename_i call calls node hcalls hnode
    obtain ⟨hguard, hstep⟩ := Option.ite_none_right_eq_some.mp hstep
    have harmed := (h.ok.owner_iff node).mpr (List.mem_of_mem_head? hnode)
    rw [if_pos (h.ok.completion node harmed)] at hstep
    exact ⟨call, calls, node, hcalls, hguard.1, hguard.2, hnode, (Option.some.inj hstep).symm⟩
  · cases hstep

theorem Kept.step (h : run.Kept) (label : TimerLabel ν) (hstep : run.step label = some next) :
    next.Kept := by
  cases label with
  | start owned =>
    obtain ⟨-, rfl⟩ := enabled hstep
    exact h.start owned
  | close =>
    obtain ⟨-, rfl⟩ := enabled hstep
    exact h.frame rfl rfl h.ok.running (fun _ => le_rfl) rfl rfl rfl
  | stop =>
    obtain ⟨-, rfl⟩ := enabled hstep
    exact h.stop
  | arm node deadline completion allocationFails =>
    obtain ⟨-, rfl⟩ := enabled hstep
    exact h.arm node deadline completion allocationFails
  | disarm node =>
    obtain ⟨-, rfl⟩ := enabled hstep
    exact h.disarm node
  | abandon node =>
    obtain ⟨-, rfl⟩ := enabled hstep
    exact h.abandon node
  | dispatch kind =>
    obtain ⟨-, rfl⟩ := enabled hstep
    unfold TimerRun.dispatch
    split
    · exact h.frame rfl rfl h.ok.running (fun _ => le_rfl) rfl rfl rfl
    · exact h.frame rfl rfl h.ok.running (fun _ => le_rfl) rfl rfl
        (by simp [endings, TimerEvent.ends])
  | front =>
    obtain ⟨call, calls, node, -, -, -, hnode, rfl⟩ := front_cases h hstep
    rw [List.head?_eq_getElem?] at hnode
    exact h.remove hnode rfl rfl rfl rfl rfl rfl rfl rfl
  | callbackReturns scheduled =>
    simp only [TimerRun.step, TimerRun.callbackReturns] at hstep
    split at hstep
    · cases hstep
    · split at hstep
      · cases hstep
      · split at hstep
        · obtain rfl := Option.some.inj hstep
          exact h.frame rfl rfl h.ok.running (fun _ => le_rfl) rfl rfl rfl
        · obtain rfl := Option.some.inj hstep
          exact h.frame rfl rfl h.ok.running (fun _ => le_rfl) rfl rfl rfl
  | finish =>
    simp only [TimerRun.step, TimerRun.finish] at hstep
    split at hstep
    · cases hstep
    · split at hstep
      · cases hstep
      · obtain rfl := Option.some.inj hstep
        exact h.frame rfl rfl h.ok.running (fun _ => le_rfl) rfl rfl
          (by simp [endings, TimerEvent.ends])

theorem kept_run {labels : List (TimerLabel ν)}
    (hrun : Transition.run step ({} : TimerRun ν) labels = some run) : run.Kept :=
  run_invariant Kept (fun _ label _ h hstep => h.step label hstep) kept_new hrun

/-! ## `expire` when the callbacks leave the queue alone -/

end TimerRun

/-- The steps of `expire` itself. -/
def TimerLabel.quiet : TimerLabel ν → Bool
  | .front | .callbackReturns _ => true
  | _ => false

namespace TimerRun

variable {run start state next : TimerRun ν} {now : TimePoint} {budget : Nat} {done : List ν}

/-- In the middle of `expire`: the registrations of `done` have had their callbacks, in
this order, and nothing else has changed since `start`. -/
structure Expiring (start : TimerRun ν) (now : TimePoint) (budget : Nat) (done : List ν)
    (inCallback : Bool) (state : TimerRun ν) : Prop where
  kept : state.Kept
  due : start.timers.dueOrder now = done ++ state.timers.dueOrder now
  within : done.length ≤ budget
  calls : ∃ failures, state.calls =
    ⟨.expire now budget, ⟨done.length, failures, false⟩, inCallback⟩ :: start.calls
  log : state.log =
    start.log ++ done.map fun node => .callback (start.armings node) node .expired
  nodes : (done ++ state.timers.heap.nodes).Perm start.timers.heap.nodes
  others : ∀ node, node ∉ done →
    state.timers.registrations node = start.timers.registrations node
  armings : state.armings = start.armings

omit [DecidableEq ν] in
theorem expiring_start (h : start.Kept) (hrunning : start.timers.running = true) :
    Expiring start now budget [] false (start.dispatch (.expire now budget)) := by
  unfold dispatch
  rw [if_pos hrunning]
  exact
    { kept := h.frame rfl rfl h.ok.running (fun _ => le_rfl) rfl rfl rfl
      due := rfl
      within := Nat.zero_le _
      calls := ⟨0, rfl⟩
      log := (List.append_nil _).symm
      nodes := List.Perm.refl _
      others := fun _ _ => rfl
      armings := rfl }

omit [DecidableEq ν] in
theorem hasDue_iff (timers : TimerQueue ν) (now : TimePoint) :
    timers.hasDue now = true ↔
      ∃ front, timers.heap.nodes.head? = some front ∧ timers.isDue now front = true := by
  rw [TimerQueue.hasDue, Option.any_eq_true]

omit [DecidableEq ν] in
theorem dueOrder_eq_nil (h : state.Kept) (hdue : state.timers.hasDue now = false) :
    state.timers.dueOrder now = [] := by
  apply h.sorted.dueOrder_nil
  intro front hfront
  rw [← Bool.not_eq_true, hasDue_iff] at hdue
  exact Bool.eq_false_of_not_eq_true fun hfrontDue => hdue ⟨front, hfront, hfrontDue⟩

theorem Expiring.front (h : Expiring start now budget done false state)
    (hstep : state.front = some next) :
    ∃ node, Expiring start now budget (done ++ [node]) true next := by
  have hkept := h.kept.step .front hstep
  obtain ⟨call, calls, node, hcalls, -, hcontinues, hnode, rfl⟩ := front_cases h.kept hstep
  obtain ⟨failures, hcall⟩ := h.calls
  rw [hcalls] at hcall
  obtain ⟨rfl, rfl⟩ := List.cons.inj hcall
  simp only [DispatchCall.continues, Bool.and_eq_true, decide_eq_true_eq] at hcontinues
  obtain ⟨front, hfront, hfrontDue⟩ := (hasDue_iff _ _).mp hcontinues.2
  obtain rfl := Option.some.inj (hnode.symm.trans hfront)
  have hindex : state.timers.heap.nodes[0]? = some node := by
    rw [← List.head?_eq_getElem?]
    exact hnode
  refine ⟨node, hkept, ?_, ?_, ⟨failures, by simp⟩, ?_, ?_, ?_, h.armings⟩
  · rw [h.due, h.kept.sorted.dueOrder_cons h.kept.ok hnode hfrontDue, List.append_assoc]
    rfl
  · rw [List.length_append, List.length_singleton]
    exact hcontinues.1
  · dsimp only
    rw [h.log, h.armings, List.map_append, List.append_assoc]
    rfl
  · rw [List.append_assoc]
    exact ((TimerQueue.removeAt_perm h.kept.ok hindex).append_left done).trans h.nodes
  · intro other hother
    rw [List.mem_append, not_or, List.mem_singleton] at hother
    rw [← h.others other hother.1]
    exact (h.kept.ok.removeAt hindex).others other hother.2

theorem Expiring.callbackReturns (h : Expiring start now budget done true state) (scheduled : Bool)
    (hstep : state.callbackReturns scheduled = some next) :
    Expiring start now budget done false next := by
  have hkept := h.kept.step (.callbackReturns scheduled) hstep
  obtain ⟨failures, hcall⟩ := h.calls
  simp only [TimerRun.callbackReturns, hcall, Bool.true_eq_false, if_false] at hstep
  split at hstep
  · obtain rfl := Option.some.inj hstep
    exact ⟨hkept, h.due, h.within, ⟨failures, rfl⟩, h.log, h.nodes, h.others, h.armings⟩
  · obtain rfl := Option.some.inj hstep
    exact ⟨hkept, h.due, h.within, ⟨failures + 1, rfl⟩, h.log, h.nodes, h.others, h.armings⟩

/-- The steps of `expire` keep the bookkeeping. -/
theorem Expiring.steps {inCallback : Bool} (h : Expiring start now budget done inCallback state)
    {inner : List (TimerLabel ν)} (hquiet : ∀ label ∈ inner, label.quiet = true)
    (hrun : Transition.run step state inner = some next) :
    ∃ done inCallback, Expiring start now budget done inCallback next := by
  induction inner generalizing state done inCallback with
  | nil =>
    obtain rfl := Option.some.inj hrun
    exact ⟨done, inCallback, h⟩
  | cons label inner ih =>
    obtain ⟨middle, hstep, htail⟩ := run_cons.mp hrun
    have hrest := fun label hlabel => hquiet label (List.mem_cons_of_mem _ hlabel)
    have hlabel := hquiet label List.mem_cons_self
    obtain ⟨failures, hcall⟩ := h.calls
    cases label with
    | front =>
      cases inCallback with
      | false =>
        obtain ⟨node, hnext⟩ := h.front hstep
        exact ih hnext hrest htail
      | true =>
        obtain ⟨call, calls, node, hcalls, hidle, -⟩ := front_cases h.kept hstep
        rw [hcalls] at hcall
        obtain ⟨rfl, -⟩ := List.cons.inj hcall
        cases hidle
    | callbackReturns scheduled =>
      cases inCallback with
      | false => simp [step, TimerRun.callbackReturns, hcall] at hstep
      | true => exact ih (h.callbackReturns scheduled hstep) hrest htail
    | _ => cases hlabel

/-- What `expire` has done when it returns. -/
theorem Expiring.finish {inCallback : Bool} (h : Expiring start now budget done inCallback state)
    (hstep : state.finish = some next) :
    ∃ failures, next.calls = start.calls ∧
      next.log = start.log ++
        (((start.timers.dueOrder now).take budget).map fun node =>
          .callback (start.armings node) node .expired) ++
        [.returned ⟨min budget (start.timers.dueOrder now).length, failures,
          decide (budget < (start.timers.dueOrder now).length)⟩] ∧
      ((start.timers.dueOrder now).take budget ++ next.timers.heap.nodes).Perm
        start.timers.heap.nodes ∧
      ∀ node, node ∉ (start.timers.dueOrder now).take budget →
        next.timers.registrations node = start.timers.registrations node := by
  obtain ⟨failures, hcall⟩ := h.calls
  simp only [TimerRun.finish, hcall] at hstep
  obtain ⟨hover, hstep⟩ := Option.ite_none_left_eq_some.mp hstep
  obtain rfl := Option.some.inj hstep
  have hwithin := h.within
  -- the loop ended because of the budget, or because nothing more is due
  have hover : done.length = budget ∨ state.timers.dueOrder now = [] := by
    by_contra hmore
    obtain ⟨hbudget, hdue⟩ := not_or.mp hmore
    refine hover (Or.inr ?_)
    simp only [DispatchCall.continues, Bool.and_eq_true, decide_eq_true_eq]
    refine ⟨by omega, ?_⟩
    exact Bool.eq_true_of_not_eq_false fun hnone => hdue (dueOrder_eq_nil h.kept hnone)
  have hlength : (start.timers.dueOrder now).length =
      done.length + (state.timers.dueOrder now).length := by
    rw [h.due, List.length_append]
  have hdone : (start.timers.dueOrder now).take budget = done := by
    rw [h.due]
    rcases hover with hover | hover
    · rw [← hover, List.take_left]
    · rw [hover, List.append_nil, List.take_of_length_le hwithin]
  have hmore : state.timers.hasDue now = decide (budget < (start.timers.dueOrder now).length) := by
    rw [hlength, Bool.eq_iff_iff, decide_eq_true_eq]
    constructor
    · intro hdue
      obtain ⟨front, hfront, hfrontDue⟩ := (hasDue_iff _ _).mp hdue
      rw [h.kept.sorted.dueOrder_cons h.kept.ok hfront hfrontDue, List.length_cons] at hlength ⊢
      rcases hover with hover | hover
      · omega
      · rw [h.kept.sorted.dueOrder_cons h.kept.ok hfront hfrontDue] at hover
        cases hover
    · intro hlt
      by_contra hdue
      have hnil := dueOrder_eq_nil h.kept (Bool.eq_false_of_not_eq_true hdue)
      rw [hnil, List.length_nil] at hlt
      omega
  refine ⟨failures, rfl, ?_, ?_, ?_⟩
  · dsimp only [DispatchCall.answer]
    have hcount : min budget (start.timers.dueOrder now).length = done.length := by
      rw [← hdone, List.length_take]
    rw [hmore, hcount, hdone, h.log]
  · rw [hdone]
    exact h.nodes
  · rw [hdone]
    exact h.others

/-- `expire` comes to its end. -/
theorem Expiring.ends (h : Expiring start now budget done false state) :
    ∃ inner final, (∀ label ∈ inner, label.quiet = true) ∧
      Transition.run step state (inner ++ [.finish]) = some final := by
  induction hsize : state.timers.heap.nodes.length using Nat.strongRecOn
    generalizing state done with
  | ind size ih =>
    obtain ⟨failures, hcall⟩ := h.calls
    by_cases hmore : done.length < budget ∧ state.timers.hasDue now = true
    · obtain ⟨front, hfront, -⟩ := (hasDue_iff _ _).mp hmore.2
      have harmed := (h.kept.ok.owner_iff front).mpr (List.mem_of_mem_head? hfront)
      obtain ⟨called, hcalled⟩ : ∃ called, state.front = some called := by
        simp [TimerRun.front, hcall, hfront, DispatchCall.continues, hmore,
          h.kept.ok.completion front harmed]
      obtain ⟨node, hcallback⟩ := h.front hcalled
      obtain ⟨_, hcall'⟩ := hcallback.calls
      obtain ⟨returned, hreturned⟩ : ∃ returned, called.callbackReturns true = some returned := by
        simp [TimerRun.callbackReturns, hcall']
      have hrest := hcallback.callbackReturns true hreturned
      have hsmaller : returned.timers.heap.nodes.length < size := by
        have hbefore := h.nodes.length_eq
        have hafter := hrest.nodes.length_eq
        simp only [List.length_append, List.length_singleton] at hbefore hafter
        omega
      obtain ⟨inner, final, hquiet, hrun⟩ := ih _ hsmaller hrest rfl
      refine ⟨.front :: .callbackReturns true :: inner, final, ?_, ?_⟩
      · simpa [TimerLabel.quiet] using hquiet
      · exact run_cons.mpr ⟨called, hcalled, run_cons.mpr ⟨returned, hreturned, hrun⟩⟩
    · obtain ⟨final, hfinal⟩ : ∃ final, state.finish = some final := by
        have hover : (decide (done.length < budget) && state.timers.hasDue now) = false := by
          simpa using hmore
        simp only [TimerRun.finish, hcall, DispatchCall.continues, hover, Bool.false_eq_true,
          or_self, if_false]
        exact ⟨_, rfl⟩
      exact ⟨[], final, by simp, run_cons.mpr ⟨final, hfinal, rfl⟩⟩

/-- `expire` whose callbacks leave the queue alone returns, and has called back exactly
the first registrations that are due, as many as the budget allows. -/
theorem expire_quiet (h : start.Kept) (hfree : start.free = true)
    (hrunning : start.timers.running = true) (now : TimePoint) (budget : Nat) :
    let due := start.timers.dueOrder now
    (∃ inner final, (∀ label ∈ inner, label.quiet = true) ∧
      Transition.run step start (.dispatch (.expire now budget) :: inner ++ [.finish]) =
        some final) ∧
    ∀ inner final, (∀ label ∈ inner, label.quiet = true) →
      Transition.run step start (.dispatch (.expire now budget) :: inner ++ [.finish]) =
        some final →
      ∃ failures, final.calls = start.calls ∧
        final.log = start.log ++
          ((due.take budget).map fun node => .callback (start.armings node) node .expired) ++
          [.returned ⟨min budget due.length, failures, decide (budget < due.length)⟩] ∧
        (due.take budget ++ final.timers.heap.nodes).Perm start.timers.heap.nodes ∧
        ∀ node, node ∉ due.take budget →
          final.timers.registrations node = start.timers.registrations node := by
  intro due
  have hstart : Expiring start now budget [] false (start.dispatch (.expire now budget)) :=
    expiring_start h hrunning
  have hbegin : start.step (.dispatch (.expire now budget)) =
      some (start.dispatch (.expire now budget)) := if_pos hfree
  constructor
  · obtain ⟨inner, final, hquiet, hrun⟩ := hstart.ends
    exact ⟨inner, final, hquiet, run_cons.mpr ⟨_, hbegin, hrun⟩⟩
  · intro inner final hquiet hrun
    obtain ⟨begun, hbegun, hrun⟩ := run_cons.mp hrun
    obtain rfl := Option.some.inj (hbegin.symm.trans hbegun)
    obtain ⟨middle, hinner, hlast⟩ := run_append.mp hrun
    obtain ⟨_, hfinish, hnil⟩ := run_cons.mp hlast
    obtain rfl := Option.some.inj hnil
    obtain ⟨done, inCallback, hmiddle⟩ := hstart.steps hquiet hinner
    exact hmiddle.finish hfinish

/-! ## Callbacks -/

omit [DecidableEq ν] in
/-- Every end of an arming is a callback, or takes the arming back. -/
theorem count_endings (run : TimerRun ν) (arming : Nat) :
    run.endings.count arming =
      run.callbacks arming + run.log.countP (TimerEvent.takesBack arming) := by
  unfold endings callbacks
  induction run.log with
  | nil => rfl
  | cons event log ih =>
    rw [List.countP_cons, List.countP_cons, List.filterMap_cons]
    cases event with
    | armed | returned => simpa [TimerEvent.ends, TimerEvent.callsBack, TimerEvent.takesBack]
    | disarmed | abandoned | callback =>
      simp only [TimerEvent.ends, TimerEvent.callsBack, TimerEvent.takesBack, List.count_cons,
        beq_iff_eq, decide_eq_true_eq, Bool.false_eq_true, if_false, ih]
      omega

omit [DecidableEq ν] in
/-- An arming has one callback at most, and none when it was taken back. -/
theorem Kept.callbacks (h : run.Kept) (arming : Nat) :
    run.callbacks arming ≤ 1 ∧
      (.disarmed arming ∈ run.log ∨ .abandoned arming ∈ run.log → run.callbacks arming = 0) := by
  have honce := List.nodup_iff_count_le_one.mp h.ended_once arming
  rw [count_endings] at honce
  refine ⟨by omega, fun htaken => ?_⟩
  have hpositive : 0 < run.log.countP (TimerEvent.takesBack arming) := by
    rw [List.countP_pos_iff]
    obtain htaken | htaken := htaken
    · exact ⟨_, htaken, decide_eq_true rfl⟩
    · exact ⟨_, htaken, decide_eq_true rfl⟩
  omega

end TimerRun

/-- After every sequence of steps, callbacks that use the queue included: the heap is
ordered, its back-pointers are right and its registrations are the armed ones; an arming
has one callback at most, and none once it was disarmed or its registration destroyed;
an armed registration can be disarmed; and `expire` whose callbacks do not use the queue
returns, calls back the first registrations that are due in their order, leaves the
others armed, and says whether one more is due. -/
theorem timer_queue_stable {labels : List (TimerLabel ν)} {run : TimerRun ν}
    (hrun : Transition.run TimerRun.step {} labels = some run) :
    IndexedHeap.Ordered run.timers.earlier run.timers.heap.nodes ∧
      (∀ node index, run.timers.heap.position node = some index ↔
        run.timers.heap.nodes[index]? = some node) ∧
      (∀ node, (run.timers.registrations node).owner = true ↔ node ∈ run.timers.heap.nodes) ∧
      (∀ arming, run.callbacks arming ≤ 1 ∧
        (.disarmed arming ∈ run.log ∨ .abandoned arming ∈ run.log → run.callbacks arming = 0)) ∧
      (∀ node, (run.timers.registrations node).owner = true →
        (run.timers.disarm node).1 = true ∧
          ((run.timers.disarm node).2.registrations node).owner = false) ∧
      (run.free = true → run.timers.running = true → ∀ now budget,
        let due := run.timers.dueOrder now
        (∃ inner final, (∀ label ∈ inner, label.quiet = true) ∧
          Transition.run TimerRun.step run (.dispatch (.expire now budget) :: inner ++ [.finish]) =
            some final) ∧
        ∀ inner final, (∀ label ∈ inner, label.quiet = true) →
          Transition.run TimerRun.step run (.dispatch (.expire now budget) :: inner ++ [.finish]) =
            some final →
          ∃ failures, final.calls = run.calls ∧
            final.log = run.log ++
              ((due.take budget).map fun node => .callback (run.armings node) node .expired) ++
              [.returned ⟨min budget due.length, failures, decide (budget < due.length)⟩] ∧
            (due.take budget ++ final.timers.heap.nodes).Perm run.timers.heap.nodes ∧
            ∀ node, node ∉ due.take budget →
              final.timers.registrations node = run.timers.registrations node) := by
  have h := TimerRun.kept_run hrun
  refine ⟨h.sorted.ordered, fun node index => h.ok.indexed.indexed node index id, h.ok.owner_iff,
    h.callbacks, ?_, fun hfree hrunning => TimerRun.expire_quiet h hfree hrunning⟩
  intro node harmed
  obtain ⟨hdisarm, hrearmed⟩ := h.ok.disarm harmed
  exact ⟨hdisarm, hrearmed.owner_eq⟩

/-- Two timers, one of them due; its callback disarms the other one. -/
theorem timer_queue_stable_disarm :
    ∃ run : TimerRun Nat,
      Transition.run TimerRun.step {}
        [.start true, .arm 0 7 true false, .arm 1 5 true false, .dispatch (.expire 6 10), .front,
          .disarm 0, .callbackReturns true, .finish] = some run ∧
      run.log = [.armed 0 0, .armed 1 1, .callback 1 1 .expired, .disarmed 0,
        .returned ⟨1, 0, false⟩] ∧
      run.callbacks 0 = 0 := by
  obtain ⟨run, hrun⟩ : ∃ run : TimerRun Nat, Transition.run TimerRun.step {}
      [.start true, .arm 0 7 true false, .arm 1 5 true false, .dispatch (.expire 6 10), .front,
        .disarm 0, .callbackReturns true, .finish] = some run := ⟨_, rfl⟩
  have hlog : run.log = [.armed 0 0, .armed 1 1, .callback 1 1 .expired, .disarmed 0,
      .returned ⟨1, 0, false⟩] := by
    obtain rfl := Option.some.inj hrun
    decide
  obtain ⟨-, -, -, hcallbacks, -⟩ := timer_queue_stable hrun
  refine ⟨run, hrun, hlog, (hcallbacks 0).2 (Or.inl ?_)⟩
  rw [hlog]
  simp

end DnsPro.Runtime
