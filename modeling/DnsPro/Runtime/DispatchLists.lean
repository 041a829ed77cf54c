import DnsPro.Lib.IntrusiveList
import DnsPro.Runtime.Dispatch

/-!
# The lists of the dispatcher

`ReadyList` and `RootList` say which list the links in the promises spell out, and
that the flags, the counts and the ends agree with it.  There is one lemma for each
operation: what it does to the promises, and what becomes of the list it changes.
The other list only needs that its links and flags are left alone.
-/

namespace DnsPro.Runtime.Dispatch

variable {state next : State} {task other : TaskId} {ready roots front back : List TaskId}

/-- The ready list of the scheduler. -/
structure ReadyList (state : State) (ready : List TaskId) : Prop where
  linked : SinglyLinked (fun task => (state.promises task).readyNext) state.readyHead ready
  tail : state.readyTail = ready.getLast?
  count : state.readyCount = ready.length
  nodup : ready.Nodup
  queued : ∀ task, (state.promises task).queued = true ↔ task ∈ ready

/-- The list of the root tasks. -/
structure RootList (state : State) (roots : List TaskId) : Prop where
  linked : DoublyLinked (fun task => (state.promises task).rootPrevious)
    (fun task => (state.promises task).rootNext) none state.rootHead roots
  count : state.activeCount = roots.length
  nodup : roots.Nodup
  root : ∀ task, (state.promises task).root = true ↔ task ∈ roots

theorem ReadyList.congr (h : ReadyList state ready)
    (hnext : ∀ task ∈ ready, (next.promises task).readyNext = (state.promises task).readyNext)
    (hqueued : ∀ task, (next.promises task).queued = (state.promises task).queued)
    (hhead : next.readyHead = state.readyHead) (htail : next.readyTail = state.readyTail)
    (hcount : next.readyCount = state.readyCount) : ReadyList next ready := by
  refine ⟨?_, htail.trans h.tail, hcount.trans h.count, h.nodup, ?_⟩
  · rw [hhead]
    exact h.linked.congr hnext
  · intro task
    rw [hqueued]
    exact h.queued task

theorem RootList.congr (h : RootList state roots)
    (hprevious : ∀ task ∈ roots,
      (next.promises task).rootPrevious = (state.promises task).rootPrevious)
    (hnext : ∀ task ∈ roots, (next.promises task).rootNext = (state.promises task).rootNext)
    (hroot : ∀ task, (next.promises task).root = (state.promises task).root)
    (hhead : next.rootHead = state.rootHead) (hcount : next.activeCount = state.activeCount) :
    RootList next roots := by
  refine ⟨?_, hcount.trans h.count, h.nodup, ?_⟩
  · rw [hhead]
    exact h.linked.congr hprevious hnext
  · intro task
    rw [hroot]
    exact h.root task

theorem ReadyList.head (h : ReadyList state ready) : state.readyHead = ready.head? :=
  h.linked.head_eq

theorem ReadyList.eq_cons (h : ReadyList state ready) (hhead : state.readyHead = some task) :
    ∃ rest, ready = task :: rest :=
  ⟨ready.tail, (List.cons_head?_tail (h.head.symm.trans hhead)).symm⟩

theorem ReadyList.eq_nil (h : ReadyList state ready) (hhead : state.readyHead = none) :
    ready = [] :=
  List.head?_eq_none_iff.mp (h.head.symm.trans hhead)

theorem RootList.head (h : RootList state roots) : state.rootHead = roots.head? :=
  h.linked.head_eq

theorem ReadyList.not_queued (h : ReadyList state ready) (hready : task ∉ ready) :
    (state.promises task).queued = false := by
  rw [← Bool.not_eq_true, h.queued]
  exact hready

/-! ## Writing to one promise -/

theorem update_promises (change : Promise → Promise) :
    (state.update task change).promises other =
      if other = task then change (state.promises task) else state.promises other :=
  Function.update_apply _ _ _ _

/-- A write that leaves the fields of the ready list alone. -/
theorem ReadyList.update (h : ReadyList state ready) {change : Promise → Promise}
    (hnext : (change (state.promises task)).readyNext = (state.promises task).readyNext)
    (hqueued : (change (state.promises task)).queued = (state.promises task).queued) :
    ReadyList (state.update task change) ready := by
  refine h.congr ?_ ?_ rfl rfl rfl
  · intro other _
    rw [update_promises]
    split
    · rename_i heq
      rw [hnext, heq]
    · rfl
  · intro other
    rw [update_promises]
    split
    · rename_i heq
      rw [hqueued, heq]
    · rfl

/-- A write that leaves the fields of the root list alone. -/
theorem RootList.update (h : RootList state roots) {change : Promise → Promise}
    (hprevious : (change (state.promises task)).rootPrevious = (state.promises task).rootPrevious)
    (hnext : (change (state.promises task)).rootNext = (state.promises task).rootNext)
    (hroot : (change (state.promises task)).root = (state.promises task).root) :
    RootList (state.update task change) roots := by
  refine h.congr ?_ ?_ ?_ rfl rfl
  · intro other _
    rw [update_promises]
    split
    · rename_i heq
      rw [hprevious, heq]
    · rfl
  · intro other _
    rw [update_promises]
    split
    · rename_i heq
      rw [hnext, heq]
    · rfl
  · intro other
    rw [update_promises]
    split
    · rename_i heq
      rw [hroot, heq]
    · rfl

/-! ## The ready list -/

theorem enqueue_promises (state : State) (task other : TaskId) :
    (state.enqueue task).promises other =
      { state.promises other with
        readyNext :=
          if state.readyTail = some other then some task
          else if other = task then none
          else (state.promises other).readyNext
        queued := decide (other = task) || (state.promises other).queued } := by
  unfold State.enqueue
  cases htail : state.readyTail with
  | none =>
    simp only [update_promises, reduceCtorEq, if_false]
    by_cases heq : other = task
    · subst heq
      simp
    · simp [heq]
  | some tail =>
    simp only [update_promises, Option.some.injEq]
    by_cases heq : other = task
    · subst heq
      by_cases htask : other = tail
      · simp [htask]
      · simp [htask, Ne.symm htask]
    · by_cases hother : other = tail
      · simp [hother, show tail ≠ task from hother ▸ heq]
      · simp [heq, hother, Ne.symm hother]

theorem enqueue_readyHead (state : State) (task : TaskId) :
    (state.enqueue task).readyHead =
      if state.readyTail = none then some task else state.readyHead := by
  unfold State.enqueue
  cases state.readyTail <;> rfl

/-- The fields that `enqueue` writes. -/
theorem enqueue_eq (state : State) (task : TaskId) :
    state.enqueue task = { state with
      promises := (state.enqueue task).promises
      readyHead := (state.enqueue task).readyHead
      readyTail := some task
      readyCount := state.readyCount + 1 } := by
  unfold State.enqueue
  cases state.readyTail <;> rfl

theorem ReadyList.enqueue (h : ReadyList state ready) (hready : task ∉ ready) :
    ReadyList (state.enqueue task) (ready ++ [task]) := by
  have hhead : (state.enqueue task).readyHead = (ready ++ [task]).head? := by
    rw [enqueue_readyHead, h.tail, h.head]
    cases ready with
    | nil => rfl
    | cons first rest => rw [if_neg (by simp)]; rfl
  refine ⟨?_, ?_, ?_, ?_, ?_⟩
  · rw [hhead]
    apply h.linked.append h.nodup
    · intro last hlast
      rw [enqueue_promises, h.tail]
      exact if_pos hlast
    · intro other hother hne
      have hdifferent : other ≠ task := fun heq => hready (heq ▸ hother)
      rw [enqueue_promises, h.tail]
      simp only [if_neg hne, if_neg hdifferent]
    · have hlast : ready.getLast? ≠ some task := fun heq => hready (List.mem_of_getLast? heq)
      rw [enqueue_promises, h.tail]
      simp [hlast]
  · show some task = (ready ++ [task]).getLast?
    rw [List.getLast?_concat]
  · rw [enqueue_eq, List.length_append, ← h.count]
    rfl
  · exact List.nodup_append.mpr ⟨h.nodup, by simp, by grind⟩
  · intro other
    rw [enqueue_promises, List.mem_append, List.mem_singleton, ← h.queued]
    simp [or_comm]

theorem RootList.enqueue (h : RootList state roots) (task : TaskId) :
    RootList (state.enqueue task) roots :=
  h.congr (fun other _ => by rw [enqueue_promises]) (fun other _ => by rw [enqueue_promises])
    (fun other => by rw [enqueue_promises]) (by rw [enqueue_eq]) (by rw [enqueue_eq])

theorem takeFront_promises (state : State) (task other : TaskId) :
    (state.takeFront task).promises other =
      if other = task then { state.promises task with readyNext := none, queued := false }
      else state.promises other := by
  unfold State.takeFront
  simp only [update_promises]

theorem ReadyList.takeFront (h : ReadyList state (task :: ready)) :
    ReadyList (state.takeFront task) ready := by
  obtain ⟨hfirst, hnodup⟩ := List.nodup_cons.mp h.nodup
  have hhead : (state.promises task).readyNext = ready.head? := h.linked.tail.head_eq
  refine ⟨?_, ?_, ?_, hnodup, ?_⟩
  · apply h.linked.tail.congr
    intro other hother
    have hne : other ≠ task := fun heq => hfirst (heq ▸ hother)
    rw [takeFront_promises, if_neg hne]
  · show (if (state.promises task).readyNext = none then none else state.readyTail) = _
    rw [hhead, h.tail]
    cases ready with
    | nil => rfl
    | cons second rest =>
      rw [if_neg (by simp), List.getLast?_cons_cons]
  · show state.readyCount - 1 = ready.length
    rw [h.count]
    rfl
  · intro other
    rw [takeFront_promises]
    split
    · rename_i heq
      rw [heq]
      simp [hfirst]
    · rename_i hne
      rw [h.queued, List.mem_cons]
      simp [hne]

theorem RootList.takeFront (h : RootList state roots) (task : TaskId) :
    RootList (state.takeFront task) roots := by
  have hsame : ∀ other, ∃ next queued, (state.takeFront task).promises other =
      { state.promises other with readyNext := next, queued := queued } := by
    intro other
    rw [takeFront_promises]
    split
    · rename_i heq
      rw [heq]
      exact ⟨none, false, rfl⟩
    · exact ⟨_, _, rfl⟩
  refine h.congr ?_ ?_ ?_ rfl rfl
  · intro other _
    obtain ⟨next, queued, heq⟩ := hsame other
    rw [heq]
  · intro other _
    obtain ⟨next, queued, heq⟩ := hsame other
    rw [heq]
  · intro other
    obtain ⟨next, queued, heq⟩ := hsame other
    rw [heq]

/-! ## The root list -/

theorem linkRoot_promises (state : State) (task other : TaskId) :
    (state.linkRoot task).promises other =
      { state.promises other with
        root := decide (other = task) || (state.promises other).root
        rootPrevious :=
          if state.rootHead = some other then some task
          else if other = task then none
          else (state.promises other).rootPrevious
        rootNext := if other = task then state.rootHead else (state.promises other).rootNext } := by
  unfold State.linkRoot
  cases hhead : state.rootHead with
  | none =>
    simp only [update_promises, reduceCtorEq, if_false]
    by_cases heq : other = task
    · subst heq
      simp
    · simp [heq]
  | some head =>
    simp only [update_promises, Option.some.injEq]
    by_cases heq : other = task
    · subst heq
      by_cases htask : other = head
      · simp [htask]
      · simp [htask, Ne.symm htask]
    · by_cases hother : other = head
      · simp [hother, show head ≠ task from hother ▸ heq]
      · simp [heq, hother, Ne.symm hother]

/-- The fields that `link_root` writes. -/
theorem linkRoot_eq (state : State) (task : TaskId) :
    state.linkRoot task = { state with
      promises := (state.linkRoot task).promises
      rootHead := some task
      activeCount := state.activeCount + 1 } := by
  unfold State.linkRoot
  cases state.rootHead <;> rfl

theorem RootList.linkRoot (h : RootList state roots) (hroots : task ∉ roots) :
    RootList (state.linkRoot task) (task :: roots) := by
  have hhead : state.rootHead ≠ some task := by
    rw [h.head]
    exact fun heq => hroots (List.mem_of_head? heq)
  refine ⟨?_, ?_, List.nodup_cons.mpr ⟨hroots, h.nodup⟩, ?_⟩
  · apply h.linked.push h.nodup
    · rw [linkRoot_promises]
      simp [hhead]
    · rw [linkRoot_promises]
      simp
    · intro first hfirst
      rw [linkRoot_promises]
      exact if_pos hfirst
    · intro other hother hne
      have hdifferent : other ≠ task := fun heq => hroots (heq ▸ hother)
      rw [linkRoot_promises]
      simp only [if_neg hne, if_neg hdifferent]
    · intro other hother
      have hdifferent : other ≠ task := fun heq => hroots (heq ▸ hother)
      rw [linkRoot_promises]
      simp only [if_neg hdifferent]
  · rw [linkRoot_eq, List.length_cons, ← h.count]
  · intro other
    rw [linkRoot_promises, List.mem_cons, ← h.root]
    simp

theorem ReadyList.linkRoot (h : ReadyList state ready) (task : TaskId) :
    ReadyList (state.linkRoot task) ready := by
  refine h.congr ?_ ?_ ?_ ?_ ?_
  · intro other _
    rw [linkRoot_promises]
  · intro other
    rw [linkRoot_promises]
  all_goals rw [linkRoot_eq]

theorem unlinkRoot_promises (hroot : (state.promises task).root = true)
    (hprevious : (state.promises task).rootPrevious ≠ some task)
    (hnext : (state.promises task).rootNext ≠ some task) (other : TaskId) :
    (state.unlinkRoot task).promises other =
      { state.promises other with
        root := decide (other ≠ task) && (state.promises other).root
        rootPrevious :=
          if other = task then none
          else if (state.promises task).rootNext = some other then
            (state.promises task).rootPrevious
          else (state.promises other).rootPrevious
        rootNext :=
          if other = task then none
          else if (state.promises task).rootPrevious = some other then
            (state.promises task).rootNext
          else (state.promises other).rootNext } := by
  unfold State.unlinkRoot
  rw [if_neg (by simp [hroot])]
  by_cases heq : other = task
  · subst heq
    cases hp : (state.promises other).rootPrevious with
    | none =>
      cases hn : (state.promises other).rootNext with
      | none => simp [update_promises]
      | some after =>
        have hafter : other ≠ after := fun heq => hnext (heq ▸ hn)
        simp [update_promises, hafter]
    | some before =>
      have hbefore : other ≠ before := fun heq => hprevious (heq ▸ hp)
      cases hn : (state.promises other).rootNext with
      | none => simp [update_promises, hbefore]
      | some after =>
        have hafter : other ≠ after := fun heq => hnext (heq ▸ hn)
        simp [update_promises, hafter, hbefore]
  · cases hp : (state.promises task).rootPrevious with
    | none =>
      cases hn : (state.promises task).rootNext with
      | none => simp [update_promises, heq]
      | some after =>
        by_cases hafter : other = after
        · subst hafter
          simp [update_promises, heq]
        · simp [update_promises, heq, hafter, Ne.symm hafter]
    | some before =>
      cases hn : (state.promises task).rootNext with
      | none =>
        by_cases hbefore : other = before
        · subst hbefore
          simp [update_promises, heq]
        · simp [update_promises, heq, hbefore, Ne.symm hbefore]
      | some after =>
        by_cases hbefore : other = before <;> by_cases hafter : other = after
        · subst hbefore
          subst hafter
          simp [update_promises, heq]
        · subst hbefore
          simp [update_promises, heq, hafter, Ne.symm hafter]
        · subst hafter
          simp [update_promises, heq, hbefore, Ne.symm hbefore]
        · simp [update_promises, heq, hafter, hbefore, Ne.symm hbefore, Ne.symm hafter]

theorem unlinkRoot_rootHead (hroot : (state.promises task).root = true) :
    (state.unlinkRoot task).rootHead =
      if (state.promises task).rootPrevious = none then (state.promises task).rootNext
      else state.rootHead := by
  unfold State.unlinkRoot
  rw [if_neg (by simp [hroot])]
  cases (state.promises task).rootPrevious <;> cases (state.promises task).rootNext <;> rfl

/-- The fields that `unlink_root` writes. -/
theorem unlinkRoot_eq (hroot : (state.promises task).root = true) :
    state.unlinkRoot task = { state with
      promises := (state.unlinkRoot task).promises
      rootHead := (state.unlinkRoot task).rootHead
      activeCount := state.activeCount - 1 } := by
  unfold State.unlinkRoot
  simp only [hroot, Bool.true_eq_false, if_false]
  cases (state.promises task).rootPrevious <;> cases (state.promises task).rootNext <;> rfl

theorem RootList.root_middle (h : RootList state (front ++ task :: back)) :
    (state.promises task).root = true := by
  rw [h.root]
  simp

/-- A root task is between its neighbours. -/
theorem RootList.neighbours (h : RootList state (front ++ task :: back)) :
    (state.promises task).rootPrevious = front.getLast? ∧
      (state.promises task).rootNext = back.head? := by
  have hprevious := h.linked.prev_eq
  rw [Option.or_none] at hprevious
  exact ⟨hprevious, h.linked.next_eq⟩

theorem RootList.unlinkRoot_promises (h : RootList state (front ++ task :: back))
    (other : TaskId) :
    (state.unlinkRoot task).promises other =
      { state.promises other with
        root := decide (other ≠ task) && (state.promises other).root
        rootPrevious :=
          if other = task then none
          else if (state.promises task).rootNext = some other then
            (state.promises task).rootPrevious
          else (state.promises other).rootPrevious
        rootNext :=
          if other = task then none
          else if (state.promises task).rootPrevious = some other then
            (state.promises task).rootNext
          else (state.promises other).rootNext } := by
  obtain ⟨hprevious, hnext⟩ := h.neighbours
  obtain ⟨_, hback, hdisjoint⟩ := List.nodup_append.mp h.nodup
  apply Dispatch.unlinkRoot_promises h.root_middle
  · rw [hprevious]
    intro heq
    exact hdisjoint task (List.mem_of_getLast? heq) task List.mem_cons_self rfl
  · rw [hnext]
    intro heq
    exact (List.nodup_cons.mp hback).1 (List.mem_of_head? heq)

theorem RootList.unlinkRoot (h : RootList state (front ++ task :: back)) :
    RootList (state.unlinkRoot task) (front ++ back) := by
  obtain ⟨hprevious, hnext⟩ := h.neighbours
  have hnodup : (task :: (front ++ back)).Nodup := List.nodup_middle.mp h.nodup
  have hroot := h.root_middle
  have hne : ∀ other ∈ front ++ back, other ≠ task := by
    intro other hother heq
    exact (List.nodup_cons.mp hnodup).1 (heq ▸ hother)
  have hhead : (state.unlinkRoot task).rootHead =
      if front = [] then (state.promises task).rootNext else state.rootHead := by
    rw [unlinkRoot_rootHead hroot, hprevious]
    simp
  refine ⟨?_, ?_, (List.nodup_cons.mp hnodup).2, ?_⟩
  · rw [hhead]
    apply h.linked.remove h.nodup
    · intro other hother
      cases hother
    · intro other hother
      rw [h.unlinkRoot_promises]
      exact if_neg (hne other hother)
    · intro other hother
      rw [h.unlinkRoot_promises]
      exact if_neg (hne other hother)
  · rw [unlinkRoot_eq hroot]
    simp only [h.count, List.length_append, List.length_cons]
    omega
  · intro other
    rw [h.unlinkRoot_promises]
    have := h.root other
    by_cases heq : other = task
    · subst heq
      simpa using (List.nodup_cons.mp hnodup).1
    · simp [heq, this]

theorem ReadyList.unlinkRoot (h : ReadyList state ready)
    (hroots : RootList state (front ++ task :: back)) :
    ReadyList (state.unlinkRoot task) ready := by
  refine h.congr ?_ ?_ ?_ ?_ ?_
  · intro other _
    rw [hroots.unlinkRoot_promises]
  · intro other
    rw [hroots.unlinkRoot_promises]
  all_goals rw [unlinkRoot_eq hroots.root_middle]

/-! ## Frames that are destroyed -/

theorem destroy_promises (state : State) (task other : TaskId) :
    (state.destroy task).promises other =
      if other ∈ state.owned task then { point := .destroyed } else state.promises other :=
  rfl

/-- No frame that is destroyed is on the ready list. -/
theorem ReadyList.destroy (h : ReadyList state ready)
    (hready : ∀ other ∈ state.owned task, (state.promises other).queued = false) :
    ReadyList (state.destroy task) ready := by
  have hlisted : ∀ other ∈ ready, other ∉ state.owned task := by
    intro other hother howned
    have := hready other howned
    rw [(h.queued other).mpr hother] at this
    cases this
  refine h.congr ?_ ?_ rfl rfl rfl
  · intro other hother
    rw [destroy_promises, if_neg (hlisted other hother)]
  · intro other
    rw [destroy_promises]
    split
    · rename_i howned
      exact (hready other howned).symm
    · rfl

/-- No frame that is destroyed is on the root list. -/
theorem RootList.destroy (h : RootList state roots)
    (hroots : ∀ other ∈ state.owned task, (state.promises other).root = false) :
    RootList (state.destroy task) roots := by
  have hlisted : ∀ other ∈ roots, other ∉ state.owned task := by
    intro other hother howned
    have := hroots other howned
    rw [(h.root other).mpr hother] at this
    cases this
  refine h.congr ?_ ?_ ?_ rfl rfl
  · intro other hother
    rw [destroy_promises, if_neg (hlisted other hother)]
  · intro other hother
    rw [destroy_promises, if_neg (hlisted other hother)]
  · intro other
    rw [destroy_promises]
    split
    · rename_i howned
      exact (hroots other howned).symm
    · rfl

/-! ## The loop of `clear_ready` -/

/-- The fields that the loop writes. -/
theorem unqueueAll_eq (fuel : Nat) (state : State) :
    State.unqueueAll fuel state = { state with
      promises := (State.unqueueAll fuel state).promises
      readyHead := (State.unqueueAll fuel state).readyHead } := by
  induction fuel generalizing state with
  | zero => rfl
  | succ fuel ih =>
    rw [State.unqueueAll]
    cases state.readyHead with
    | none => rfl
    | some task => exact ih _

/-- The loop takes every task off the list. -/
theorem unqueueAll_spec (fuel : Nat) {state : State}
    (hlinked : SinglyLinked (fun task => (state.promises task).readyNext) state.readyHead ready)
    (hnodup : ready.Nodup)
    (hqueued : ∀ task, (state.promises task).queued = true ↔ task ∈ ready)
    (hfuel : ready.length ≤ fuel) :
    (State.unqueueAll fuel state).readyHead = none ∧
      ∀ other, (State.unqueueAll fuel state).promises other =
        { state.promises other with
          readyNext := if other ∈ ready then none else (state.promises other).readyNext
          queued := false } := by
  induction fuel generalizing state ready with
  | zero =>
    obtain rfl := List.length_eq_zero_iff.mp (Nat.le_zero.mp hfuel)
    refine ⟨hlinked, fun other => ?_⟩
    have : (state.promises other).queued = false := by simpa using (hqueued other).not
    rw [if_neg List.not_mem_nil, ← this]
    rfl
  | succ fuel ih =>
    rw [State.unqueueAll, hlinked.head_eq]
    cases ready with
    | nil =>
      refine ⟨hlinked, fun other => ?_⟩
      have : (state.promises other).queued = false := by simpa using (hqueued other).not
      rw [if_neg List.not_mem_nil, ← this]
      rfl
    | cons task rest =>
      obtain ⟨hfirst, hrest⟩ := List.nodup_cons.mp hnodup
      obtain ⟨hnone, hpromises⟩ := @ih rest
        ({ state with readyHead := (state.promises task).readyNext }.update task fun promise =>
          { promise with readyNext := none, queued := false })
        (by
          apply hlinked.tail.congr
          intro other hother
          have hne : other ≠ task := fun heq => hfirst (heq ▸ hother)
          rw [update_promises, if_neg hne])
        hrest
        (by
          intro other
          rw [update_promises]
          split
          · rename_i heq
            rw [heq]
            simp [hfirst]
          · rename_i hne
            rw [hqueued, List.mem_cons]
            simp [hne])
        (Nat.le_of_succ_le_succ hfuel)
      refine ⟨hnone, fun other => ?_⟩
      show (State.unqueueAll fuel _).promises other = _
      rw [hpromises, update_promises]
      by_cases hother : other = task
      · subst hother
        simp
      · simp [hother]

/-- The fields that `clear_ready` writes. -/
theorem clearReady_eq (state : State) :
    state.clearReady = { state with
      promises := state.clearReady.promises
      readyHead := state.clearReady.readyHead
      readyTail := none
      readyCount := 0 } := by
  unfold State.clearReady
  rw [unqueueAll_eq]

theorem ReadyList.clearReady_promises (h : ReadyList state ready)
    (hfuel : ready.length ≤ state.frames) (other : TaskId) :
    state.clearReady.promises other =
      { state.promises other with
        readyNext := if other ∈ ready then none else (state.promises other).readyNext
        queued := false } :=
  (unqueueAll_spec state.frames h.linked h.nodup h.queued hfuel).2 other

theorem ReadyList.clearReady (h : ReadyList state ready)
    (hfuel : ready.length ≤ state.frames) : ReadyList state.clearReady [] := by
  refine ⟨(unqueueAll_spec state.frames h.linked h.nodup h.queued hfuel).1, rfl, rfl,
    List.nodup_nil, ?_⟩
  intro other
  rw [h.clearReady_promises hfuel]
  simp

theorem RootList.clearReady (h : RootList state roots) (hready : ReadyList state ready)
    (hfuel : ready.length ≤ state.frames) : RootList state.clearReady roots := by
  refine h.congr ?_ ?_ ?_ ?_ ?_
  · intro other _
    rw [hready.clearReady_promises hfuel]
  · intro other _
    rw [hready.clearReady_promises hfuel]
  · intro other
    rw [hready.clearReady_promises hfuel]
  all_goals rw [clearReady_eq]

end DnsPro.Runtime.Dispatch
