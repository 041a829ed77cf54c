import DnsPro.Lib.IndexedHeap

/-!
# The order of an indexed heap

No node of a heap comes before its parent.  Every sift starts from a list that has
this order except around one index, the hole: `UpOrder` and `DownOrder` say which
pairs are still in order, and that the children of the hole are not before its
parent.  A swap moves the hole one level and keeps them.

`before` is any weak order: nodes that are level may stand in either order.
-/

namespace DnsPro.IndexedHeap

open Loop

variable {ν : Type} {before : ν → ν → Bool}

/-- `before` is strict, and "not after" is transitive. -/
structure WeakOrder (before : ν → ν → Bool) : Prop where
  asymm : ∀ {first second}, before first second = true → before second first = false
  trans : ∀ {first second third}, before second first = false → before third second = false →
    before third first = false

/-- The node at `left` does not come after the node at `right`. -/
def NotAfter (before : ν → ν → Bool) (nodes : List ν) (left right : Nat) : Prop :=
  ∀ atLeft atRight, nodes[left]? = some atLeft → nodes[right]? = some atRight →
    before atRight atLeft = false

/-- No node comes before its parent. -/
def Ordered (before : ν → ν → Bool) (nodes : List ν) : Prop :=
  ∀ index, index ≠ 0 → NotAfter before nodes ((index - 1) / 2) index

/-! ## Pairs of indices -/

section Pairs

variable {nodes : List ν} {heap : IndexedHeap ν} {left middle right : Nat}

theorem NotAfter.trans (hweak : WeakOrder before) (hmiddle : middle < nodes.length)
    (h : NotAfter before nodes left middle) (h' : NotAfter before nodes middle right) :
    NotAfter before nodes left right := by
  intro atLeft atRight hleft hright
  have hat := List.getElem?_eq_getElem hmiddle
  exact hweak.trans (h _ _ hleft hat) (h' _ _ hat hright)

theorem NotAfter.refl (hweak : WeakOrder before) (nodes : List ν) (index : Nat) :
    NotAfter before nodes index index := by
  intro atLeft atRight hleft hright
  obtain rfl := Option.some.inj (hleft.symm.trans hright)
  by_contra h
  exact h (hweak.asymm (Bool.eq_true_of_not_eq_false h))

theorem notAfter_outside (h : nodes.length ≤ right) : NotAfter before nodes left right := by
  intro atLeft atRight _ hright
  rw [List.getElem?_eq_none h] at hright
  cases hright

theorem notAfter_of_not_precedes (h : precedes before heap right left = false) :
    NotAfter before heap.nodes left right := by
  intro atLeft atRight hleft hright
  rw [precedes, hright, hleft] at h
  exact h

theorem notAfter_of_precedes (hweak : WeakOrder before) (h : precedes before heap left right) :
    NotAfter before heap.nodes left right := by
  intro atLeft atRight hleft hright
  rw [precedes, hleft, hright] at h
  exact hweak.asymm h

theorem lt_of_precedes (h : precedes before heap left right) :
    left < heap.nodes.length ∧ right < heap.nodes.length := by
  rw [precedes] at h
  split at h
  · rename_i hleft hright
    exact ⟨(List.getElem?_eq_some_iff.mp hleft).1, (List.getElem?_eq_some_iff.mp hright).1⟩
  · cases h

/-- Where the node at `index` stood before the swap. -/
def swapIndex (left right index : Nat) : Nat :=
  if index = left then right else if index = right then left else index

variable [DecidableEq ν]

theorem getElem?_swapNodes (hleft : left < heap.nodes.length) (hright : right < heap.nodes.length)
    (index : Nat) :
    (heap.swapNodes left right).nodes[index]? = heap.nodes[swapIndex left right index]? := by
  unfold swapNodes swapIndex
  rw [List.getElem?_eq_getElem hleft, List.getElem?_eq_getElem hright]
  simp only [swapEntries, List.getElem?_eq_getElem hleft, List.getElem?_eq_getElem hright,
    List.getElem?_set, List.length_set]
  grind

theorem NotAfter.swap (hleft : left < heap.nodes.length) (hright : right < heap.nodes.length)
    {index index' : Nat}
    (h : NotAfter before heap.nodes (swapIndex left right index) (swapIndex left right index')) :
    NotAfter before (heap.swapNodes left right).nodes index index' := by
  intro atIndex atIndex' hindex hindex'
  rw [getElem?_swapNodes hleft hright] at hindex hindex'
  exact h _ _ hindex hindex'

end Pairs

/-! ## Holes -/

/-- In order but for the node at the hole and its parent; the children of the hole
are not before that parent. -/
structure UpOrder (before : ν → ν → Bool) (nodes : List ν) (hole : Nat) : Prop where
  except : ∀ index, index ≠ 0 → index ≠ hole → NotAfter before nodes ((index - 1) / 2) index
  grand : hole ≠ 0 → ∀ index, index ≠ 0 → (index - 1) / 2 = hole →
    NotAfter before nodes ((hole - 1) / 2) index

/-- In order but for the node at the hole and its children; these are not before the
parent of the hole. -/
structure DownOrder (before : ν → ν → Bool) (nodes : List ν) (hole : Nat) : Prop where
  except : ∀ index, index ≠ 0 → (index - 1) / 2 ≠ hole →
    NotAfter before nodes ((index - 1) / 2) index
  grand : hole ≠ 0 → ∀ index, index ≠ 0 → (index - 1) / 2 = hole →
    NotAfter before nodes ((hole - 1) / 2) index

variable [DecidableEq ν] {heap : IndexedHeap ν} {hole : Nat}

/-- The hole rises: its parent comes down, and is before everything below. -/
theorem UpOrder.swap (hweak : WeakOrder before) (h : UpOrder before heap.nodes hole)
    (hhole : hole ≠ 0) (hbefore : precedes before heap hole ((hole - 1) / 2)) :
    UpOrder before (heap.swapNodes hole ((hole - 1) / 2)).nodes ((hole - 1) / 2) := by
  obtain ⟨hlt, hparent⟩ := lt_of_precedes hbefore
  have hparent_lt : (hole - 1) / 2 < hole := by omega
  constructor
  · intro index hindex hother
    apply NotAfter.swap hlt hparent
    by_cases hat : index = hole
    · subst hat
      rw [swapIndex, if_neg (by omega), if_pos rfl, swapIndex, if_pos rfl]
      exact notAfter_of_precedes hweak hbefore
    rw [show swapIndex hole ((hole - 1) / 2) index = index by simp [swapIndex, hat, hother]]
    by_cases hchild : (index - 1) / 2 = hole
    · rw [hchild, swapIndex, if_pos rfl]
      exact h.grand hhole index hindex hchild
    by_cases hsibling : (index - 1) / 2 = (hole - 1) / 2
    · have hbelow := h.except index hindex hat
      rw [hsibling] at hbelow ⊢
      rw [swapIndex, if_neg (by omega), if_pos rfl]
      exact (notAfter_of_precedes hweak hbefore).trans hweak hparent hbelow
    · rw [swapIndex, if_neg hchild, if_neg hsibling]
      exact h.except index hindex hat
  · intro hnonzero index hindex hchild
    apply NotAfter.swap hlt hparent
    have hup := h.except ((hole - 1) / 2) hnonzero (by omega)
    rw [show swapIndex hole ((hole - 1) / 2) (((hole - 1) / 2 - 1) / 2) = ((hole - 1) / 2 - 1) / 2 by
      rw [swapIndex, if_neg (by omega), if_neg (by omega)]]
    by_cases hat : index = hole
    · rw [hat, swapIndex, if_pos rfl]
      exact hup
    · rw [swapIndex, if_neg hat, if_neg (by omega)]
      have hbelow := h.except index hindex hat
      rw [hchild] at hbelow
      exact hup.trans hweak hparent hbelow

omit [DecidableEq ν] in
/-- The rise ends at the root, or below a parent that is not after the hole. -/
theorem UpOrder.finish (h : UpOrder before heap.nodes hole)
    (hstop : ¬ (hole ≠ 0 ∧ precedes before heap hole ((hole - 1) / 2))) :
    Ordered before heap.nodes := by
  intro index hindex
  by_cases hat : index = hole
  · subst hat
    exact notAfter_of_not_precedes (by simpa [hindex] using hstop)
  · exact h.except index hindex hat

theorem siftUp_ordered (hweak : WeakOrder before) (h : UpOrder before heap.nodes hole) :
    Ordered before (siftUp before heap hole).nodes := by
  refine exec_rule (siftUpLoop before) (fun state => UpOrder before state.1.nodes state.2)
    (fun result => Ordered before result.nodes) ?_ ?_ (heap, hole) h
  · intro state next hstate hbody
    change siftUpBody before state = _ at hbody
    unfold siftUpBody at hbody
    dsimp only at hbody
    split at hbody
    · rename_i hguard
      obtain rfl := Iteration.again.inj hbody
      exact hstate.swap hweak hguard.1 hguard.2
    · cases hbody
  · intro state result hstate hbody
    change siftUpBody before state = _ at hbody
    unfold siftUpBody at hbody
    dsimp only at hbody
    split at hbody
    · cases hbody
    · rename_i hstop
      obtain rfl := Iteration.done.inj hbody
      exact hstate.finish hstop

omit [DecidableEq ν] in
/-- Both children of `index` are not before the earliest one. -/
theorem earliestChild_notAfter (hweak : WeakOrder before) (heap : IndexedHeap ν) {index child : Nat}
    (hchild : child ≠ 0) (hparent : (child - 1) / 2 = index) :
    NotAfter before heap.nodes (earliestChild before heap index) child := by
  unfold earliestChild
  dsimp only
  have hcases : child = index * 2 + 1 ∨ child = index * 2 + 1 + 1 := by omega
  split
  · rename_i hright
    rcases hcases with rfl | rfl
    · exact notAfter_of_precedes hweak hright.2
    · exact NotAfter.refl hweak _ _
  · rename_i hleft
    rcases hcases with rfl | rfl
    · exact NotAfter.refl hweak _ _
    · by_cases hinside : index * 2 + 1 + 1 < heap.nodes.length
      · exact notAfter_of_not_precedes (by simpa [hinside] using hleft)
      · exact notAfter_outside (by omega)

omit [DecidableEq ν] in
theorem earliestChild_parent (before : ν → ν → Bool) (heap : IndexedHeap ν) (index : Nat) :
    (earliestChild before heap index - 1) / 2 = index := by
  unfold earliestChild
  dsimp only
  split <;> omega

/-- The hole sinks: its earliest child comes up, and is before everything below. -/
theorem DownOrder.swap (hweak : WeakOrder before) (h : DownOrder before heap.nodes hole)
    (hbefore : precedes before heap (earliestChild before heap hole) hole) :
    DownOrder before (heap.swapNodes hole (earliestChild before heap hole)).nodes
      (earliestChild before heap hole) := by
  obtain ⟨hearliest, hlt⟩ := lt_of_precedes hbefore
  have hparent := earliestChild_parent before heap hole
  have hbelow := lt_earliestChild before heap hole
  have hmin : ∀ child, child ≠ 0 → (child - 1) / 2 = hole →
      NotAfter before heap.nodes (earliestChild before heap hole) child :=
    fun _ hchild hof => earliestChild_notAfter hweak heap hchild hof
  generalize earliestChild before heap hole = earliest at *
  constructor
  · intro index hindex hother
    apply NotAfter.swap hlt hearliest
    by_cases hat : index = hole
    · subst hat
      rw [swapIndex, if_neg (by omega), if_neg (by omega), swapIndex, if_pos rfl]
      exact h.grand hindex earliest (by omega) hparent
    by_cases hmoved : index = earliest
    · subst hmoved
      rw [hparent, swapIndex, if_pos rfl, swapIndex, if_neg (by omega), if_pos rfl]
      exact notAfter_of_precedes hweak hbefore
    rw [show swapIndex hole earliest index = index by simp [swapIndex, hat, hmoved]]
    by_cases hchild : (index - 1) / 2 = hole
    · rw [hchild, swapIndex, if_pos rfl]
      exact hmin index hindex hchild
    · rw [swapIndex, if_neg hchild, if_neg hother]
      exact h.except index hindex hchild
  · intro _ index hindex hchild
    apply NotAfter.swap hlt hearliest
    rw [hparent, swapIndex, if_pos rfl, swapIndex, if_neg (by omega), if_neg (by omega), ← hchild]
    exact h.except index hindex (by omega)

omit [DecidableEq ν] in
/-- The sinking ends at a leaf, or above children that are not before the hole. -/
theorem DownOrder.finish (hweak : WeakOrder before) (h : DownOrder before heap.nodes hole)
    (hstop : heap.nodes.length ≤ hole * 2 + 1 ∨
      ¬ precedes before heap (earliestChild before heap hole) hole) :
    Ordered before heap.nodes := by
  intro index hindex
  by_cases hchild : (index - 1) / 2 = hole
  · by_cases hleaf : heap.nodes.length ≤ hole * 2 + 1
    · exact notAfter_outside (by omega)
    have hnot := notAfter_of_not_precedes
      (Bool.eq_false_of_not_eq_true (hstop.resolve_left hleaf))
    rw [hchild]
    refine hnot.trans hweak ?_ (earliestChild_notAfter hweak heap hindex hchild)
    unfold earliestChild
    dsimp only
    split <;> omega
  · exact h.except index hindex hchild

theorem siftDown_ordered (hweak : WeakOrder before) (h : DownOrder before heap.nodes hole) :
    Ordered before (siftDown before heap hole).nodes := by
  refine exec_rule (siftDownLoop before) (fun state => DownOrder before state.1.nodes state.2)
    (fun result => Ordered before result.nodes) ?_ ?_ (heap, hole) h
  · intro state next hstate hbody
    change siftDownBody before state = _ at hbody
    unfold siftDownBody at hbody
    dsimp only at hbody
    split at hbody
    · cases hbody
    · split at hbody
      · rename_i hbefore
        obtain rfl := Iteration.again.inj hbody
        exact hstate.swap hweak hbefore
      · cases hbody
  · intro state result hstate hbody
    change siftDownBody before state = _ at hbody
    unfold siftDownBody at hbody
    dsimp only at hbody
    split at hbody
    · rename_i hleaf
      obtain rfl := Iteration.done.inj hbody
      exact hstate.finish hweak (Or.inl hleaf)
    · split at hbody
      · cases hbody
      · rename_i hbefore
        obtain rfl := Iteration.done.inj hbody
        exact hstate.finish hweak (Or.inr hbefore)

/-! ## Operations -/

omit [DecidableEq ν] in
theorem ordered_nil : Ordered before ([] : List ν) :=
  fun _ _ => notAfter_outside (Nat.zero_le _)

omit [DecidableEq ν] in
/-- The order depends on `before` at the nodes of the heap only. -/
theorem Ordered.congr {before' : ν → ν → Bool} {nodes : List ν} (h : Ordered before nodes)
    (heq : ∀ left ∈ nodes, ∀ right ∈ nodes, before' left right = before left right) :
    Ordered before' nodes := by
  intro index hindex atLeft atRight hleft hright
  rw [heq _ (List.mem_of_getElem? hright) _ (List.mem_of_getElem? hleft)]
  exact h index hindex _ _ hleft hright

theorem push_ordered (hweak : WeakOrder before) (h : Ordered before heap.nodes) (node : ν) :
    Ordered before (push before heap node).nodes := by
  have hold : ∀ {left right}, right < heap.nodes.length → left < heap.nodes.length →
      NotAfter before heap.nodes left right →
        NotAfter before (heap.nodes ++ [node]) left right := by
    intro left right hright hleft hnot atLeft atRight hatLeft hatRight
    rw [List.getElem?_append_left hleft] at hatLeft
    rw [List.getElem?_append_left hright] at hatRight
    exact hnot _ _ hatLeft hatRight
  apply siftUp_ordered hweak
  constructor
  · intro index hindex hother
    by_cases hinside : index < heap.nodes.length
    · exact hold hinside (by omega) (h index hindex)
    · exact notAfter_outside (by simp; omega)
  · intro _ index hindex hchild
    exact notAfter_outside (by simp; omega)

theorem fillHole_ordered (hweak : WeakOrder before) {index : Nat} {tail : ν}
    (h : Ordered before heap.nodes) (hinside : index < heap.nodes.length) :
    Ordered before (fillHole before heap index tail).nodes := by
  have hset : ∀ {left right}, left ≠ index → right ≠ index →
      NotAfter before heap.nodes left right →
      NotAfter before (heap.nodes.set index tail) left right := by
    intro left right hleft hright hnot atLeft atRight hatLeft hatRight
    rw [List.getElem?_set_ne (Ne.symm hleft)] at hatLeft
    rw [List.getElem?_set_ne (Ne.symm hright)] at hatRight
    exact hnot _ _ hatLeft hatRight
  have hgrand : index ≠ 0 → ∀ child, child ≠ 0 → (child - 1) / 2 = index →
      NotAfter before (heap.nodes.set index tail) ((index - 1) / 2) child := by
    intro hindex child hchild hparent
    apply hset (by omega) (by omega)
    have hbelow := h child hchild
    rw [hparent] at hbelow
    exact (h index hindex).trans hweak hinside hbelow
  unfold fillHole
  dsimp only
  split
  · rename_i hup
    apply siftUp_ordered hweak
    refine ⟨?_, hgrand⟩
    intro child hchild hother
    by_cases hparent : (child - 1) / 2 = index
    · rw [hparent]
      refine (notAfter_of_precedes hweak hup.2).trans hweak ?_ (hgrand hup.1 child hchild hparent)
      rw [List.length_set]
      omega
    · exact hset hparent hother (h child hchild)
  · rename_i hdown
    apply siftDown_ordered hweak
    refine ⟨?_, hgrand⟩
    intro child hchild hparent
    by_cases hat : child = index
    · subst hat
      exact notAfter_of_not_precedes (by simpa [hchild] using hdown)
    · exact hset hparent hat (h child hchild)

theorem removeAt_ordered (hweak : WeakOrder before) (h : Ordered before heap.nodes) (index : Nat) :
    Ordered before (removeAt before heap index).nodes := by
  have hshorter : Ordered before heap.nodes.dropLast := by
    intro child hchild atLeft atRight hleft hright
    rw [List.getElem?_dropLast] at hleft hright
    split at hleft
    · split at hright
      · exact h child hchild _ _ hleft hright
      · cases hright
    · cases hleft
  unfold removeAt
  split
  · dsimp only
    split
    · rename_i hinside
      exact fillHole_ordered hweak hshorter hinside
    · exact hshorter
  · exact h

omit [DecidableEq ν] in
/-- No node comes before the one at the root. -/
theorem Ordered.root {nodes : List ν} (hweak : WeakOrder before) (h : Ordered before nodes)
    (index : Nat) : NotAfter before nodes 0 index := by
  induction index using Nat.strongRecOn with
  | ind index ih =>
    by_cases hindex : index = 0
    · rw [hindex]
      exact NotAfter.refl hweak nodes 0
    by_cases hinside : index < nodes.length
    · exact (ih ((index - 1) / 2) (by omega)).trans hweak (by omega) (h index hindex)
    · exact notAfter_outside (by omega)

end DnsPro.IndexedHeap
