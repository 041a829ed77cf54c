import DnsPro.Lib.IndexedHeap

/-!
# The timer queue

`runtime/TimerQueue.cpp` over an arbitrary type `ν` that names registrations.
The heap is an `IndexedHeap`: `heap_index_` of a registration is the heap's
`position`, and `none` is `not_in_heap`.  There is one queue, so `owner_` is
whether the registration is armed, and `completion_` whether a callback is set.

A callback runs while the queue is in the middle of `expire` or `cancel_all`,
and may change the whole program, the queue included.  A `Host` is the program
around the queue: its state, where the queue is in it, and what the callback of
a registration does.  Time points are numbers of clock ticks.
-/

namespace DnsPro.Runtime

abbrev TimePoint := Int

abbrev Duration := Int

/-- `Duration::max()`, the count of `TimePoint::max()`. -/
def durationMax : Duration := 2 ^ 63 - 1

inductive TimerCompletion where
  | expired
  | cancelled
  deriving DecidableEq, Repr

inductive ArmResult where
  | armed
  | notRunning
  | closed
  | alreadyArmed
  | invalidCallback
  deriving DecidableEq, Repr

structure TimerRegistration where
  owner : Bool := false
  deadline : TimePoint := 0
  sequence : Nat := 0
  completion : Bool := false
  deriving DecidableEq, Repr

structure DispatchResult where
  dispatched : Nat := 0
  scheduleFailures : Nat := 0
  hasDue : Bool := false
  deriving DecidableEq, Repr

structure TimerQueue (ν : Type) where
  heap : IndexedHeap ν := {}
  registrations : ν → TimerRegistration := fun _ => {}
  nextSequence : Nat := 0
  invariantFailures : Nat := 0
  running : Bool := false
  accepting : Bool := false

namespace TimerQueue

variable {ν : Type} [DecidableEq ν]

/-- `earlier`: by deadline, and by the order of arming at the same deadline. -/
def earlier (timers : TimerQueue ν) (left right : ν) : Bool :=
  let atLeft := timers.registrations left
  let atRight := timers.registrations right
  if atLeft.deadline ≠ atRight.deadline then decide (atLeft.deadline < atRight.deadline)
  else decide (atLeft.sequence < atRight.sequence)

def setRegistration (timers : TimerQueue ν) (node : ν) (registration : TimerRegistration) :
    TimerQueue ν :=
  { timers with registrations := Function.update timers.registrations node registration }

/-- `start`.  `owned` is whether the scheduler owns the calling thread. -/
def start (timers : TimerQueue ν) (owned : Bool) : Bool × TimerQueue ν :=
  if timers.running ∨ timers.heap.nodes ≠ [] ∨ owned = false then (false, timers)
  else (true, { timers with
    nextSequence := 0, invariantFailures := 0, running := true, accepting := true })

/-- `close`. -/
def close (timers : TimerQueue ν) : TimerQueue ν := { timers with accepting := false }

/-- `stop`. -/
def stop (timers : TimerQueue ν) : Bool × TimerQueue ν :=
  if timers.heap.nodes ≠ [] then (false, timers)
  else (true, { timers with running := false, accepting := false })

/-- `arm`.  The result is `none` when appending to the heap fails to allocate:
the exception leaves `deadline_` and `sequence_` written. -/
def arm (timers : TimerQueue ν) (node : ν) (deadline : TimePoint) (completion : Bool)
    (allocationFails : Bool) : Option ArmResult × TimerQueue ν :=
  let registration := timers.registrations node
  if timers.running = false then (some .notRunning, timers)
  else if timers.accepting = false then (some .closed, timers)
  else if registration.owner ∨ timers.heap.position node ≠ none then (some .alreadyArmed, timers)
  else if completion = false then (some .invalidCallback, timers)
  else
    let stamped := { registration with deadline := deadline, sequence := timers.nextSequence }
    let sequenced :=
      { timers.setRegistration node stamped with nextSequence := timers.nextSequence + 1 }
    if allocationFails then (none, sequenced)
    else
      let armed :=
        sequenced.setRegistration node { stamped with owner := true, completion := completion }
      (some .armed, { armed with heap := armed.heap.push armed.earlier node })

/-- `remove_at`, after which the callback of the removed registration is
cleared by every caller. -/
def removeAt (timers : TimerQueue ν) (index : Nat) : TimerQueue ν :=
  match timers.heap.nodes[index]? with
  | none => timers
  | some removed =>
    { timers.setRegistration removed
        { timers.registrations removed with owner := false, completion := false } with
      heap := timers.heap.removeAt timers.earlier index }

/-- `disarm`. -/
def disarm (timers : TimerQueue ν) (node : ν) : Bool × TimerQueue ν :=
  if timers.running = false ∨ (timers.registrations node).owner = false then (false, timers)
  else
    match timers.heap.position node with
    | none => (false, { timers with invariantFailures := timers.invariantFailures + 1 })
    | some index =>
      if timers.heap.nodes[index]? = some node then (true, timers.removeAt index)
      else (false, { timers with invariantFailures := timers.invariantFailures + 1 })

/-- `abandon`: a registration is destroyed. -/
def abandon (timers : TimerQueue ν) (node : ν) : TimerQueue ν :=
  let registration := timers.registrations node
  if registration.owner = false then timers
  else
    match (timers.heap.position node).filter fun index => timers.heap.nodes[index]? = some node with
    | some index => timers.removeAt index
    | none =>
      let failed := { timers with invariantFailures := timers.invariantFailures + 1 }
      match timers.heap.nodes.idxOf? node with
      | some index => failed.removeAt index
      | none =>
        { failed.setRegistration node { registration with owner := false, completion := false } with
          heap := { timers.heap with position := Function.update timers.heap.position node none } }

/-! ## Armed registrations -/

/-- The armed registrations are the ones in the heap, they have a callback,
and a queue that is not running has none. -/
structure Ok (timers : TimerQueue ν) : Prop where
  indexed : timers.heap.Indexed
  owner_iff : ∀ node, (timers.registrations node).owner = true ↔ node ∈ timers.heap.nodes
  completion : ∀ node, (timers.registrations node).owner = true →
    (timers.registrations node).completion = true
  running : timers.heap.nodes ≠ [] → timers.running = true

/-- `next` differs from `timers` at `node` alone, where `owner` says whether it
is armed. -/
structure Rearmed (timers next : TimerQueue ν) (node : ν) (owner : Bool) : Prop where
  ok : next.Ok
  running : next.running = timers.running
  accepting : next.accepting = timers.accepting
  owner_eq : (next.registrations node).owner = owner
  others : ∀ other, other ≠ node → next.registrations other = timers.registrations other

variable {timers next : TimerQueue ν} {node : ν}

omit [DecidableEq ν] in
theorem ok_new : ({ running := true, accepting := true } : TimerQueue ν).Ok :=
  ⟨IndexedHeap.indexed_empty, fun _ => by simp, fun _ h => by simp at h, fun _ => rfl⟩

theorem Ok.removeAt (h : timers.Ok) {index : Nat} (hnode : timers.heap.nodes[index]? = some node) :
    Rearmed timers (timers.removeAt index) node false := by
  obtain ⟨hindexed, hperm⟩ := IndexedHeap.removeAt_keeps timers.earlier h.indexed hnode
  have hmem : ∀ other, other ∈ (timers.heap.removeAt timers.earlier index).nodes ↔
      other ≠ node ∧ other ∈ timers.heap.nodes := by
    intro other
    have hnodup := hperm.nodup_iff.mpr h.indexed.nodup
    rw [List.nodup_cons] at hnodup
    rw [← hperm.mem_iff, List.mem_cons]
    grind
  unfold TimerQueue.removeAt
  rw [hnode]
  refine ⟨⟨hindexed, ?_, ?_, ?_⟩, rfl, rfl, by simp [setRegistration], ?_⟩
  · intro other
    rw [hmem]
    by_cases hne : other = node
    · subst hne
      simp [setRegistration]
    · simp [setRegistration, hne, h.owner_iff]
  · intro other
    by_cases hne : other = node
    · subst hne
      simp [setRegistration]
    · simpa [setRegistration, hne] using h.completion other
  · intro _
    exact h.running (List.ne_nil_of_mem (List.mem_of_getElem? hnode))
  · intro other hne
    simp [setRegistration, hne]

/-- An armed registration can be disarmed, which takes it out of the heap. -/
theorem Ok.disarm_eq (h : timers.Ok) (harmed : (timers.registrations node).owner = true) :
    ∃ index, timers.heap.nodes[index]? = some node ∧
      timers.disarm node = (true, timers.removeAt index) := by
  have hmem := (h.owner_iff node).mp harmed
  obtain ⟨index, hindex⟩ := List.mem_iff_getElem?.mp hmem
  have hposition := (h.indexed.indexed node index id).mpr hindex
  refine ⟨index, hindex, ?_⟩
  unfold TimerQueue.disarm
  simp [h.running (List.ne_nil_of_mem hmem), harmed, hposition, hindex]

/-- Disarming an armed registration succeeds. -/
theorem Ok.disarm (h : timers.Ok) (harmed : (timers.registrations node).owner = true) :
    (timers.disarm node).1 = true ∧ Rearmed timers (timers.disarm node).2 node false := by
  obtain ⟨index, hindex, hdisarm⟩ := h.disarm_eq harmed
  rw [hdisarm]
  exact ⟨rfl, h.removeAt hindex⟩

/-- Destroying an armed registration takes it out of the heap. -/
theorem Ok.abandon_eq (h : timers.Ok) (harmed : (timers.registrations node).owner = true) :
    ∃ index, timers.heap.nodes[index]? = some node ∧
      timers.abandon node = timers.removeAt index := by
  obtain ⟨index, hindex⟩ := List.mem_iff_getElem?.mp ((h.owner_iff node).mp harmed)
  have hposition := (h.indexed.indexed node index id).mpr hindex
  refine ⟨index, hindex, ?_⟩
  unfold TimerQueue.abandon
  rw [hposition, Option.filter_some, if_pos (show decide (_ = _) = true by simpa using hindex)]
  simp [harmed]

/-- Destroying a registration takes it out of the heap. -/
theorem Ok.abandon (h : timers.Ok) : Rearmed timers (timers.abandon node) node false := by
  cases howner : (timers.registrations node).owner with
  | false =>
    unfold TimerQueue.abandon
    rw [if_pos howner]
    exact ⟨h, rfl, rfl, howner, fun _ _ => rfl⟩
  | true =>
    obtain ⟨index, hindex, habandon⟩ := h.abandon_eq howner
    rw [habandon]
    exact h.removeAt hindex

/-- What `arm` can do: it arms, it refuses, or the allocation fails. -/
theorem Ok.arm_cases (h : timers.Ok) (node : ν) (deadline : TimePoint)
    (completion allocationFails : Bool) :
    ((timers.arm node deadline completion allocationFails).1 = some .armed ∧
      timers.running = true ∧ (timers.registrations node).owner = false ∧
      Rearmed timers (timers.arm node deadline completion allocationFails).2 node true) ∨
    ((timers.arm node deadline completion allocationFails).1 ≠ some .armed ∧
      (timers.arm node deadline completion allocationFails).2 = timers) ∨
    ((timers.arm node deadline completion allocationFails).1 = none ∧
      (timers.registrations node).owner = false ∧
      Rearmed timers (timers.arm node deadline completion allocationFails).2 node false) := by
  unfold arm
  dsimp only
  split
  · exact .inr (.inl ⟨by simp, rfl⟩)
  rename_i hstopped
  have hrunning : timers.running = true := by simpa using hstopped
  split
  · exact .inr (.inl ⟨by simp, rfl⟩)
  split
  · exact .inr (.inl ⟨by simp, rfl⟩)
  rename_i hfree
  split
  · exact .inr (.inl ⟨by simp, rfl⟩)
  rename_i hcompletion
  have howner : (timers.registrations node).owner = false := by
    simpa using fun howner => hfree (.inl howner)
  have hnew : node ∉ timers.heap.nodes := by
    rw [← h.owner_iff, howner]
    decide
  split
  · refine .inr (.inr ⟨rfl, howner, ⟨h.indexed, ?_, ?_, h.running⟩, rfl, rfl, ?_, ?_⟩)
    · intro other
      by_cases hne : other = node
      · subst hne
        simp [setRegistration, howner, hnew]
      · simp [setRegistration, hne, h.owner_iff]
    · intro other
      by_cases hne : other = node
      · subst hne
        simp [setRegistration, howner]
      · simpa [setRegistration, hne] using h.completion other
    · simp [setRegistration, howner]
    · intro other hne
      simp [setRegistration, hne]
  · refine .inl ⟨rfl, hrunning, howner, ⟨?_, ?_, ?_, fun _ => hrunning⟩, rfl, rfl, ?_, ?_⟩
    · exact (IndexedHeap.push_keeps _ h.indexed hnew).1
    · intro other
      show _ ↔ other ∈ (IndexedHeap.push _ timers.heap node).nodes
      rw [(IndexedHeap.push_keeps _ h.indexed hnew).2.mem_iff]
      by_cases hne : other = node
      · subst hne
        simp [setRegistration]
      · simp [setRegistration, hne, h.owner_iff]
    · intro other
      by_cases hne : other = node
      · subst hne
        simpa [setRegistration] using hcompletion
      · simpa [setRegistration, hne] using h.completion other
    · simp [setRegistration]
    · intro other hne
      simp [setRegistration, hne]

end TimerQueue

/-- The program around a timer queue. -/
structure TimerQueue.Host (ν σ : Type) where
  timers : σ → TimerQueue ν
  setTimers : σ → TimerQueue ν → σ
  callback : σ → ν → TimerCompletion → Bool × σ

namespace TimerQueue.Host

variable {ν σ : Type} [DecidableEq ν] (host : TimerQueue.Host ν σ)

/-- `complete_front`, for the registration at the front of the heap. -/
def completeFront (completion : TimerCompletion) (node : ν) (state : σ) (result : DispatchResult) :
    σ × DispatchResult :=
  let timers := host.timers state
  let detached := host.setTimers state (timers.removeAt 0)
  let dispatched := { result with dispatched := result.dispatched + 1 }
  let (completed, next) :=
    if (timers.registrations node).completion then host.callback detached node completion
    else (false, detached)
  if completed then (next, dispatched)
  else
    let timers := host.timers next
    (host.setTimers next { timers with invariantFailures := timers.invariantFailures + 1 },
      { dispatched with scheduleFailures := dispatched.scheduleFailures + 1 })

/-- The registration at the front is due. -/
def due (now : TimePoint) (state : σ) : Option ν :=
  (host.timers state).heap.nodes.head?.filter fun node =>
    decide (((host.timers state).registrations node).deadline ≤ now)

/-- The loop of `expire`, with the dispatches the budget still allows. -/
def expireLoop (now : TimePoint) : Nat → σ → DispatchResult → σ × DispatchResult
  | 0, state, result => (state, result)
  | budget + 1, state, result =>
    match host.due now state with
    | none => (state, result)
    | some node =>
      let (next, result) := host.completeFront .expired node state result
      expireLoop now budget next result

/-- `expire`. -/
def expire (now : TimePoint) (budget : Nat) (state : σ) : σ × DispatchResult :=
  if (host.timers state).running = false then (state, {})
  else
    let (next, result) := host.expireLoop now budget state {}
    (next, { result with hasDue := (host.due now next).isSome })

/-- The loop of `cancel_all` for at most `fuel` passes. -/
def cancelLoop : Nat → σ → DispatchResult → σ × DispatchResult
  | 0, state, result => (state, result)
  | fuel + 1, state, result =>
    match (host.timers state).heap.nodes.head? with
    | none => (state, result)
    | some node =>
      let (next, result) := host.completeFront .cancelled node state result
      cancelLoop fuel next result

/-- `cancel_all`.  As many passes as there are timers empty the heap when no
callback arms one. -/
def cancelAll (state : σ) : σ × DispatchResult :=
  if (host.timers state).running = false then (state, {})
  else host.cancelLoop (host.timers state).heap.nodes.length state {}

/-! ## Invariants of the program -/

variable {host} {Inv : σ → Prop}

/-- What completing the front keeps, `expire` keeps. -/
theorem expire_invariant
    (hfront : ∀ state completion node result, Inv state →
      (host.timers state).heap.nodes.head? = some node →
      Inv (host.completeFront completion node state result).1)
    (now : TimePoint) (budget : Nat) {state : σ} (h : Inv state) :
    Inv (host.expire now budget state).1 := by
  have hloop : ∀ (budget : Nat) (state : σ) (result : DispatchResult), Inv state →
      Inv (host.expireLoop now budget state result).1 := by
    intro budget
    induction budget with
    | zero => exact fun _ _ h => h
    | succ budget ih =>
      intro state result h
      rw [expireLoop]
      split
      · exact h
      · rename_i node hdue
        unfold due at hdue
        obtain ⟨hhead, -⟩ := Option.filter_eq_some_iff.mp hdue
        exact ih _ _ (hfront _ _ _ _ h hhead)
  unfold expire
  split
  · exact h
  · exact hloop budget state {} h

/-- What completing the front keeps, `cancel_all` keeps. -/
theorem cancelAll_invariant
    (hfront : ∀ state completion node result, Inv state →
      (host.timers state).heap.nodes.head? = some node →
      Inv (host.completeFront completion node state result).1)
    {state : σ} (h : Inv state) : Inv (host.cancelAll state).1 := by
  have hloop : ∀ (fuel : Nat) (state : σ) (result : DispatchResult), Inv state →
      Inv (host.cancelLoop fuel state result).1 := by
    intro fuel
    induction fuel with
    | zero => exact fun _ _ h => h
    | succ fuel ih =>
      intro state result h
      rw [cancelLoop]
      split
      · exact h
      · rename_i node hhead
        exact ih _ _ (hfront _ _ _ _ h hhead)
  unfold cancelAll
  split
  · exact h
  · exact hloop _ state {} h

end TimerQueue.Host

end DnsPro.Runtime
