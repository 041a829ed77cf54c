import DnsPro.Lib.HeapOrder
import DnsPro.Runtime.TimerQueue
import Mathlib.Data.Prod.Lex

/-!
# The order of the timer queue

The heap of a timer queue is ordered by deadline and, at one deadline, by arming.
No two armed registrations have one sequence number, so `dueOrder` is the only order
in which the due ones can leave the front.
-/

namespace DnsPro.Runtime.TimerQueue

open IndexedHeap (WeakOrder NotAfter Ordered)

variable {ν : Type} [DecidableEq ν] {timers next : TimerQueue ν} {node : ν}

/-- What a registration is ordered by: its deadline, then its sequence number. -/
def rank (timers : TimerQueue ν) (node : ν) : Int ×ₗ Nat :=
  toLex ((timers.registrations node).deadline, (timers.registrations node).sequence)

omit [DecidableEq ν] in
theorem earlier_iff {left right : ν} :
    timers.earlier left right = true ↔ timers.rank left < timers.rank right := by
  rw [rank, rank, Prod.Lex.toLex_lt_toLex]
  unfold earlier
  dsimp only
  split
  · rename_i hne
    simp [hne]
  · rename_i heq
    simp [not_not.mp heq]

omit [DecidableEq ν] in
theorem not_earlier_iff {left right : ν} :
    timers.earlier left right = false ↔ timers.rank right ≤ timers.rank left := by
  rw [← Bool.not_eq_true, earlier_iff, not_lt]

omit [DecidableEq ν] in
theorem weakOrder_earlier (timers : TimerQueue ν) : WeakOrder timers.earlier where
  asymm h := not_earlier_iff.mpr (earlier_iff.mp h).le
  trans h h' := not_earlier_iff.mpr ((not_earlier_iff.mp h).trans (not_earlier_iff.mp h'))

omit [DecidableEq ν] in
/-- Two queues that rank two registrations alike order them alike. -/
theorem earlier_congr {left right : ν} (hleft : next.rank left = timers.rank left)
    (hright : next.rank right = timers.rank right) :
    next.earlier left right = timers.earlier left right := by
  rw [Bool.eq_iff_iff, earlier_iff, earlier_iff, hleft, hright]

omit [DecidableEq ν] in
theorem rank_congr (h : next.registrations node = timers.registrations node) :
    next.rank node = timers.rank node := by
  rw [rank, rank, h]

/-- The heap is ordered, and the armed registrations have distinct sequence numbers,
all of them given out. -/
structure Sorted (timers : TimerQueue ν) : Prop where
  ordered : Ordered timers.earlier timers.heap.nodes
  sequenced : ∀ node ∈ timers.heap.nodes,
    (timers.registrations node).sequence < timers.nextSequence
  distinct : ∀ left ∈ timers.heap.nodes, ∀ right ∈ timers.heap.nodes,
    (timers.registrations left).sequence = (timers.registrations right).sequence → left = right

omit [DecidableEq ν] in
theorem sorted_of_nil (h : timers.heap.nodes = []) : timers.Sorted := by
  refine ⟨?_, ?_, ?_⟩
  · rw [h]
    exact IndexedHeap.ordered_nil
  · simp [h]
  · simp [h]

/-! ## Operations -/

omit [DecidableEq ν] in
/-- The registrations of the heap are as they were, and so is the heap. -/
theorem Sorted.congr (h : timers.Sorted) (hnodes : next.heap.nodes = timers.heap.nodes)
    (hsame : ∀ node ∈ timers.heap.nodes, next.registrations node = timers.registrations node)
    (hsequence : timers.nextSequence ≤ next.nextSequence) : next.Sorted := by
  refine ⟨?_, ?_, ?_⟩
  · rw [hnodes]
    apply h.ordered.congr
    intro left hleft right hright
    exact earlier_congr (rank_congr (hsame left hleft)) (rank_congr (hsame right hright))
  · intro node hnode
    rw [hnodes] at hnode
    rw [hsame node hnode]
    exact (h.sequenced node hnode).trans_le hsequence
  · intro left hleft right hright heq
    rw [hnodes] at hleft hright
    rw [hsame left hleft, hsame right hright] at heq
    exact h.distinct left hleft right hright heq

/-- Taking a registration out changes no deadline and no sequence number. -/
theorem removeAt_rank (timers : TimerQueue ν) (index : Nat) (node : ν) :
    (timers.removeAt index).rank node = timers.rank node := by
  unfold removeAt
  split
  · rfl
  · rename_i removed _
    by_cases hnode : node = removed
    · subst hnode
      simp [rank, setRegistration]
    · simp [rank, setRegistration, hnode]

theorem removeAt_deadline (timers : TimerQueue ν) (index : Nat) (node : ν) :
    ((timers.removeAt index).registrations node).deadline =
      (timers.registrations node).deadline :=
  congrArg (fun rank => (ofLex rank).1) (removeAt_rank timers index node)

theorem removeAt_sequence (timers : TimerQueue ν) (index : Nat) (node : ν) :
    ((timers.removeAt index).registrations node).sequence =
      (timers.registrations node).sequence :=
  congrArg (fun rank => (ofLex rank).2) (removeAt_rank timers index node)

theorem removeAt_earlier (timers : TimerQueue ν) (index : Nat) :
    (timers.removeAt index).earlier = timers.earlier := by
  funext left right
  exact earlier_congr (removeAt_rank timers index left) (removeAt_rank timers index right)

theorem removeAt_nodes (timers : TimerQueue ν) (index : Nat) :
    (timers.removeAt index).heap = timers.heap ∨
      (timers.removeAt index).heap = timers.heap.removeAt timers.earlier index := by
  unfold removeAt
  split
  · exact Or.inl rfl
  · exact Or.inr rfl

theorem removeAt_perm (h : timers.Ok) {index : Nat}
    (hnode : timers.heap.nodes[index]? = some node) :
    (node :: (timers.removeAt index).heap.nodes).Perm timers.heap.nodes := by
  have hperm := (IndexedHeap.removeAt_keeps timers.earlier h.indexed hnode).2
  unfold removeAt
  rw [hnode]
  exact hperm

theorem removeAt_nextSequence (timers : TimerQueue ν) (index : Nat) :
    (timers.removeAt index).nextSequence = timers.nextSequence := by
  unfold removeAt
  split <;> rfl

theorem Sorted.removeAt (h : timers.Sorted) (hok : timers.Ok) {index : Nat}
    (hnode : timers.heap.nodes[index]? = some node) : (timers.removeAt index).Sorted := by
  have hsubset : ∀ other ∈ (timers.removeAt index).heap.nodes, other ∈ timers.heap.nodes :=
    fun other hother => (removeAt_perm hok hnode).subset (List.mem_cons_of_mem node hother)
  refine ⟨?_, ?_, ?_⟩
  · rw [removeAt_earlier]
    obtain hsame | hremoved := removeAt_nodes timers index
    · rw [hsame]
      exact h.ordered
    · rw [hremoved]
      exact IndexedHeap.removeAt_ordered (weakOrder_earlier timers) h.ordered index
  · intro other hother
    rw [removeAt_sequence, removeAt_nextSequence]
    exact h.sequenced other (hsubset other hother)
  · intro left hleft right hright heq
    rw [removeAt_sequence, removeAt_sequence] at heq
    exact h.distinct left (hsubset left hleft) right (hsubset right hright) heq

/-- The new registration has the largest sequence number. -/
theorem Sorted.arm (h : timers.Sorted) (hok : timers.Ok) (node : ν) (deadline : TimePoint)
    (completion allocationFails : Bool) :
    (timers.arm node deadline completion allocationFails).2.Sorted := by
  unfold TimerQueue.arm
  dsimp only
  split
  · exact h
  split
  · exact h
  split
  · exact h
  rename_i hfree
  split
  · exact h
  have howner : (timers.registrations node).owner = false := by
    simpa using fun howner => hfree (.inl howner)
  have hnew : node ∉ timers.heap.nodes := by
    rw [← hok.owner_iff, howner]
    decide
  split
  · refine h.congr rfl ?_ (Nat.le_succ _)
    intro other hother
    exact Function.update_of_ne (fun heq : other = node => hnew (heq ▸ hother)) _ _
  · have hmem : ∀ before other, other ∈ (timers.heap.push before node).nodes ↔
        other = node ∨ other ∈ timers.heap.nodes := by
      intro before other
      rw [(IndexedHeap.push_keeps before hok.indexed hnew).2.mem_iff, List.mem_cons]
    refine ⟨?_, ?_, ?_⟩
    · apply IndexedHeap.push_ordered (weakOrder_earlier _)
      apply h.ordered.congr
      intro left hleft right hright
      have hl : left ≠ node := fun heq => hnew (heq ▸ hleft)
      have hr : right ≠ node := fun heq => hnew (heq ▸ hright)
      apply earlier_congr
      · simp [rank, setRegistration, hl]
      · simp [rank, setRegistration, hr]
    · intro other hother
      replace hother := (hmem _ _).mp hother
      by_cases heq : other = node
      · simp [setRegistration, heq]
      · have := h.sequenced other (hother.resolve_left heq)
        simp only [setRegistration, Function.update_of_ne heq]
        omega
    · intro left hleft right hright hsequence
      replace hleft := (hmem _ _).mp hleft
      replace hright := (hmem _ _).mp hright
      by_cases hl : left = node <;> by_cases hr : right = node
      · rw [hl, hr]
      · have := h.sequenced right (hright.resolve_left hr)
        simp [setRegistration, hl, hr] at hsequence
        omega
      · have := h.sequenced left (hleft.resolve_left hl)
        simp [setRegistration, hl, hr] at hsequence
        omega
      · simp [setRegistration, hl, hr] at hsequence
        exact h.distinct left (hleft.resolve_left hl) right (hright.resolve_left hr) hsequence

/-! ## The due registrations -/

/-- The deadline of `node` has passed. -/
def isDue (timers : TimerQueue ν) (now : TimePoint) (node : ν) : Bool :=
  decide ((timers.registrations node).deadline ≤ now)

/-- The due registrations, by deadline and then by arming. -/
def dueOrder (timers : TimerQueue ν) (now : TimePoint) : List ν :=
  (timers.heap.nodes.filter (timers.isDue now)).mergeSort fun left right =>
    !timers.earlier right left

omit [DecidableEq ν] in
theorem dueOrder_perm (timers : TimerQueue ν) (now : TimePoint) :
    (timers.dueOrder now).Perm (timers.heap.nodes.filter (timers.isDue now)) :=
  List.mergeSort_perm _ _

omit [DecidableEq ν] in
theorem dueOrder_pairwise (timers : TimerQueue ν) (now : TimePoint) :
    (timers.dueOrder now).Pairwise fun left right => timers.earlier right left = false := by
  have hpairwise := @List.pairwise_mergeSort _ (fun left right => !timers.earlier right left)
    (fun first second third h h' => by
      rw [Bool.not_eq_true'] at h h' ⊢
      exact (weakOrder_earlier timers).trans h h')
    (fun first second => by
      cases h : timers.earlier second first with
      | false => rfl
      | true => simp [(weakOrder_earlier timers).asymm h])
    (timers.heap.nodes.filter (timers.isDue now))
  exact hpairwise.imp fun h => by simpa using h

omit [DecidableEq ν] in
/-- There is no other order. -/
theorem Sorted.dueOrder_eq (h : timers.Sorted) {now : TimePoint} {due : List ν}
    (hperm : due.Perm (timers.heap.nodes.filter (timers.isDue now)))
    (hpairwise : due.Pairwise fun left right => timers.earlier right left = false) :
    timers.dueOrder now = due := by
  refine List.Perm.eq_of_pairwise ?_ (dueOrder_pairwise timers now) hpairwise
    ((dueOrder_perm timers now).trans hperm.symm)
  intro left right hleft hright hbefore hafter
  have hleft' := (List.mem_filter.mp ((dueOrder_perm timers now).subset hleft)).1
  have hright' := (List.mem_filter.mp (hperm.subset hright)).1
  rw [not_earlier_iff] at hbefore hafter
  exact h.distinct left hleft' right hright'
    (congrArg (fun rank => (ofLex rank).2) (le_antisymm hbefore hafter))

omit [DecidableEq ν] in
/-- The front is due before every other registration that is due. -/
theorem Sorted.front (h : timers.Sorted) {front : ν} (hfront : timers.heap.nodes.head? = some front)
    {other : ν} (hother : other ∈ timers.heap.nodes) : timers.earlier other front = false := by
  obtain ⟨index, hindex⟩ := List.mem_iff_getElem?.mp hother
  rw [List.head?_eq_getElem?] at hfront
  exact h.ordered.root (weakOrder_earlier timers) index front other hfront hindex

omit [DecidableEq ν] in
/-- When the front is not due, nothing is. -/
theorem Sorted.dueOrder_nil (h : timers.Sorted) {now : TimePoint}
    (hfront : ∀ front, timers.heap.nodes.head? = some front → timers.isDue now front = false) :
    timers.dueOrder now = [] := by
  refine h.dueOrder_eq ?_ List.Pairwise.nil
  rw [List.perm_comm, List.perm_nil, List.filter_eq_nil_iff]
  intro other hother hdue
  cases hhead : timers.heap.nodes.head? with
  | none =>
    rw [List.head?_eq_none_iff.mp hhead] at hother
    cases hother
  | some front =>
    have hlate := hfront front hhead
    have hfirst := Prod.Lex.monotone_fst _ _ (not_earlier_iff.mp (h.front hhead hother))
    simp only [isDue, decide_eq_true_eq, decide_eq_false_iff_not] at hdue hlate
    exact hlate (hfirst.trans hdue)

/-- When the front is due, it is the first, and the others follow in their order. -/
theorem Sorted.dueOrder_cons (h : timers.Sorted) (hok : timers.Ok) {now : TimePoint} {front : ν}
    (hfront : timers.heap.nodes.head? = some front) (hdue : timers.isDue now front) :
    timers.dueOrder now = front :: (timers.removeAt 0).dueOrder now := by
  rw [List.head?_eq_getElem?] at hfront
  have hperm := removeAt_perm hok hfront
  have hsame : (timers.removeAt 0).isDue now = timers.isDue now := by
    funext other
    rw [isDue, isDue, removeAt_deadline]
  apply h.dueOrder_eq
  · refine ((dueOrder_perm (timers.removeAt 0) now).cons front).trans ?_
    rw [hsame]
    have hfilter := hperm.filter (timers.isDue now)
    rwa [List.filter_cons_of_pos hdue] at hfilter
  · rw [List.pairwise_cons]
    constructor
    · intro other hother
      have hmem := (List.mem_filter.mp ((dueOrder_perm _ now).subset hother)).1
      rw [List.head?_eq_getElem?.symm] at hfront
      exact h.front hfront (hperm.subset (List.mem_cons_of_mem front hmem))
    · rw [← removeAt_earlier timers 0]
      exact dueOrder_pairwise (timers.removeAt 0) now

end DnsPro.Runtime.TimerQueue
