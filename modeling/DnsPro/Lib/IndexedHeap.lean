import DnsPro.Lib.Algorithms
import DnsPro.Lib.Loop

/-!
# A binary heap whose nodes know their place

An intrusive heap keeps a list of nodes, and every node keeps the index it has
in the list, so that it can be taken out without a search.  A swap therefore
writes two slots of the list and two indices.

`Tracks` is the agreement of the two directions.  Its second argument names the
nodes whose index is stale: `removeAt` resets the index of the removed node
only after the last sift.
-/

namespace DnsPro

open Loop

structure IndexedHeap (ν : Type) where
  nodes : List ν := []
  position : ν → Option Nat := fun _ => none

namespace IndexedHeap

variable {ν : Type}

/-- `before` holds between the nodes at two indices. -/
def precedes (before : ν → ν → Bool) (heap : IndexedHeap ν) (left right : Nat) : Bool :=
  match heap.nodes[left]?, heap.nodes[right]? with
  | some atLeft, some atRight => before atLeft atRight
  | _, _ => false

/-- The child of `index` that comes first, when `index` has a child. -/
def earliestChild (before : ν → ν → Bool) (heap : IndexedHeap ν) (index : Nat) : Nat :=
  let left := index * 2 + 1
  let right := left + 1
  if right < heap.nodes.length ∧ precedes before heap right left then right else left

theorem lt_earliestChild (before : ν → ν → Bool) (heap : IndexedHeap ν) (index : Nat) :
    index < earliestChild before heap index := by
  unfold earliestChild
  dsimp only
  split <;> omega

/-! ## The two directions agree -/

/-- Off the stale nodes the index of a node is where it stands, and no stale
node stands anywhere. -/
structure Tracks (heap : IndexedHeap ν) (stale : ν → Prop) : Prop where
  indexed : ∀ node index, ¬ stale node →
    (heap.position node = some index ↔ heap.nodes[index]? = some node)
  absent : ∀ node, stale node → node ∉ heap.nodes

/-- Every node of the heap, and no other, has its index. -/
def Indexed (heap : IndexedHeap ν) : Prop := Tracks heap fun _ => False

variable {heap : IndexedHeap ν} {stale : ν → Prop}

theorem indexed_empty : ({} : IndexedHeap ν).Indexed :=
  ⟨fun _ _ _ => by simp, fun _ h => h.elim⟩

theorem Tracks.not_stale (h : Tracks heap stale) {node : ν} {index : Nat}
    (hnode : heap.nodes[index]? = some node) : ¬ stale node :=
  fun hstale => h.absent node hstale (List.mem_of_getElem? hnode)

/-- A node stands at one index only. -/
theorem Tracks.index_inj (h : Tracks heap stale) {node : ν} {index index' : Nat}
    (hnode : heap.nodes[index]? = some node) (hnode' : heap.nodes[index']? = some node) :
    index = index' := by
  have hlive := h.not_stale hnode
  have := (h.indexed node index hlive).mpr hnode
  exact Option.some.inj (this.symm.trans ((h.indexed node index' hlive).mpr hnode'))

theorem Indexed.mem_iff (h : heap.Indexed) (node : ν) :
    node ∈ heap.nodes ↔ (heap.position node).isSome := by
  rw [List.mem_iff_getElem?, Option.isSome_iff_exists]
  exact exists_congr fun index => (h.indexed node index id).symm

theorem Indexed.nodup (h : heap.Indexed) : heap.nodes.Nodup := by
  rw [List.nodup_iff_getElem?_ne_getElem?]
  intro i j hij hj heq
  have hnode : heap.nodes[j]? = some heap.nodes[j] := List.getElem?_eq_getElem hj
  have := h.index_inj (heq.trans hnode) hnode
  omega

/-! ## Operations -/

variable [DecidableEq ν]

/-- Exchange two nodes and write their new indices. -/
def swapNodes (heap : IndexedHeap ν) (left right : Nat) : IndexedHeap ν :=
  match heap.nodes[left]?, heap.nodes[right]? with
  | some atLeft, some atRight =>
    { nodes := swapEntries heap.nodes left right
      position :=
        Function.update (Function.update heap.position atRight (some left)) atLeft (some right) }
  | _, _ => heap

theorem swapNodes_perm (heap : IndexedHeap ν) (left right : Nat) :
    (heap.swapNodes left right).nodes.Perm heap.nodes := by
  unfold swapNodes
  split
  · exact swapEntries_perm _ _ _
  · exact List.Perm.refl _

def siftUpBody (before : ν → ν → Bool) (state : IndexedHeap ν × Nat) :
    Iteration (IndexedHeap ν × Nat) (IndexedHeap ν) :=
  let parent := (state.2 - 1) / 2
  if state.2 ≠ 0 ∧ precedes before state.1 state.2 parent then
    .again (state.1.swapNodes state.2 parent, parent)
  else .done state.1

def siftUpLoop (before : ν → ν → Bool) : Terminating (IndexedHeap ν × Nat) (IndexedHeap ν) where
  body := siftUpBody before
  measure state := state.2
  decreasing := by
    intro state next h
    unfold siftUpBody at h
    dsimp only at h
    split at h
    · rename_i hguard
      obtain rfl := Iteration.again.inj h
      have := hguard.1
      show (state.2 - 1) / 2 < state.2
      omega
    · cases h

/-- Move the node at `index` up while it comes before its parent. -/
def siftUp (before : ν → ν → Bool) (heap : IndexedHeap ν) (index : Nat) : IndexedHeap ν :=
  exec (siftUpLoop before) (heap, index)

def siftDownBody (before : ν → ν → Bool) (state : IndexedHeap ν × Nat) :
    Iteration (IndexedHeap ν × Nat) (IndexedHeap ν) :=
  if state.1.nodes.length ≤ state.2 * 2 + 1 then .done state.1
  else
    let earliest := earliestChild before state.1 state.2
    if precedes before state.1 earliest state.2 then
      .again (state.1.swapNodes state.2 earliest, earliest)
    else .done state.1

def siftDownLoop (before : ν → ν → Bool) : Terminating (IndexedHeap ν × Nat) (IndexedHeap ν) where
  body := siftDownBody before
  measure state := state.1.nodes.length - state.2
  decreasing := by
    intro state next h
    unfold siftDownBody at h
    split at h
    · cases h
    · rename_i hchild
      dsimp only at h
      split at h
      · obtain rfl := Iteration.again.inj h
        have := lt_earliestChild before state.1 state.2
        dsimp only
        rw [(swapNodes_perm _ _ _).length_eq]
        omega
      · cases h

/-- Move the node at `index` down while a child comes before it. -/
def siftDown (before : ν → ν → Bool) (heap : IndexedHeap ν) (index : Nat) : IndexedHeap ν :=
  exec (siftDownLoop before) (heap, index)

/-- Append a node and let it rise. -/
def push (before : ν → ν → Bool) (heap : IndexedHeap ν) (node : ν) : IndexedHeap ν :=
  let index := heap.nodes.length
  siftUp before
    { nodes := heap.nodes ++ [node]
      position := Function.update heap.position node (some index) } index

/-- Put the last node in the place of the one at `index` and restore the
order from there. -/
def fillHole (before : ν → ν → Bool) (heap : IndexedHeap ν) (index : Nat) (tail : ν) :
    IndexedHeap ν :=
  let filled : IndexedHeap ν :=
    { nodes := heap.nodes.set index tail
      position := Function.update heap.position tail (some index) }
  if index ≠ 0 ∧ precedes before filled index ((index - 1) / 2) then siftUp before filled index
  else siftDown before filled index

/-- Take out the node at `index`.  An index outside the heap is no call of
the users'. -/
def removeAt (before : ν → ν → Bool) (heap : IndexedHeap ν) (index : Nat) : IndexedHeap ν :=
  match heap.nodes[index]?, heap.nodes.getLast? with
  | some removed, some tail =>
    let shorter := { heap with nodes := heap.nodes.dropLast }
    let refilled :=
      if index < shorter.nodes.length then fillHole before shorter index tail else shorter
    { refilled with position := Function.update refilled.position removed none }
  | _, _ => heap

/-! ## What the operations keep -/

theorem Tracks.swapNodes (h : Tracks heap stale) {left right : Nat} (hne : left ≠ right) :
    Tracks (heap.swapNodes left right) stale := by
  refine ⟨?_, fun node hstale => (swapNodes_perm heap left right).mem_iff.not.mpr
    (h.absent node hstale)⟩
  intro node index hlive
  unfold IndexedHeap.swapNodes
  split
  · rename_i atLeft atRight hleft hright
    have hdistinct : atLeft ≠ atRight := by
      rintro rfl
      exact hne (h.index_inj hleft hright)
    have hl := (List.getElem?_eq_some_iff.mp hleft).1
    have hr := (List.getElem?_eq_some_iff.mp hright).1
    have hnode := h.indexed node index hlive
    have hatLeft := fun i => h.indexed atLeft i (h.not_stale hleft)
    have hatRight := fun i => h.indexed atRight i (h.not_stale hright)
    simp only [swapEntries, hleft, hright, Function.update_apply, List.getElem?_set,
      List.length_set]
    grind
  · exact h.indexed node index hlive

theorem siftUp_keeps (before : ν → ν → Bool) (h : Tracks heap stale) (index : Nat) :
    Tracks (siftUp before heap index) stale ∧
      (siftUp before heap index).nodes.Perm heap.nodes := by
  refine exec_rule (siftUpLoop before)
    (fun state => Tracks state.1 stale ∧ state.1.nodes.Perm heap.nodes)
    (fun result => Tracks result stale ∧ result.nodes.Perm heap.nodes)
    ?_ ?_ (heap, index) ⟨h, List.Perm.refl _⟩
  · intro state next hstate hbody
    change siftUpBody before state = _ at hbody
    unfold siftUpBody at hbody
    dsimp only at hbody
    split at hbody
    · rename_i hguard
      obtain rfl := Iteration.again.inj hbody
      have := hguard.1
      exact ⟨hstate.1.swapNodes (by omega), (swapNodes_perm _ _ _).trans hstate.2⟩
    · cases hbody
  · intro state result hstate hbody
    change siftUpBody before state = _ at hbody
    unfold siftUpBody at hbody
    dsimp only at hbody
    split at hbody
    · cases hbody
    · obtain rfl := Iteration.done.inj hbody
      exact hstate

theorem siftDown_keeps (before : ν → ν → Bool) (h : Tracks heap stale) (index : Nat) :
    Tracks (siftDown before heap index) stale ∧
      (siftDown before heap index).nodes.Perm heap.nodes := by
  refine exec_rule (siftDownLoop before)
    (fun state => Tracks state.1 stale ∧ state.1.nodes.Perm heap.nodes)
    (fun result => Tracks result stale ∧ result.nodes.Perm heap.nodes)
    ?_ ?_ (heap, index) ⟨h, List.Perm.refl _⟩
  · intro state next hstate hbody
    change siftDownBody before state = _ at hbody
    unfold siftDownBody at hbody
    dsimp only at hbody
    split at hbody
    · cases hbody
    · split at hbody
      · obtain rfl := Iteration.again.inj hbody
        have := lt_earliestChild before state.1 state.2
        exact ⟨hstate.1.swapNodes (by omega), (swapNodes_perm _ _ _).trans hstate.2⟩
      · cases hbody
  · intro state result hstate hbody
    change siftDownBody before state = _ at hbody
    unfold siftDownBody at hbody
    dsimp only at hbody
    split at hbody
    · obtain rfl := Iteration.done.inj hbody
      exact hstate
    · split at hbody
      · cases hbody
      · obtain rfl := Iteration.done.inj hbody
        exact hstate

/-- A node that is not in the heap joins it. -/
theorem push_keeps (before : ν → ν → Bool) (h : heap.Indexed) {node : ν}
    (hnew : node ∉ heap.nodes) :
    (push before heap node).Indexed ∧
      (push before heap node).nodes.Perm (node :: heap.nodes) := by
  have happended : Tracks
      { nodes := heap.nodes ++ [node],
        position := Function.update heap.position node (some heap.nodes.length) }
      (fun _ => False) := by
    refine ⟨?_, fun _ hstale => hstale.elim⟩
    intro other index _
    have hother := h.indexed other index id
    simp only [Function.update_apply, List.getElem?_append, List.getElem?_singleton]
    grind
  obtain ⟨hindexed, hperm⟩ := siftUp_keeps before happended heap.nodes.length
  exact ⟨hindexed, hperm.trans (List.perm_append_singleton _ _)⟩

/-- Overwriting one entry exchanges it for the new one. -/
private theorem cons_set_perm {α : Type} {entries : List α} {index : Nat} {old new : α}
    (h : entries[index]? = some old) :
    (old :: entries.set index new).Perm (new :: entries) := by
  obtain ⟨hlt, rfl⟩ := List.getElem?_eq_some_iff.mp h
  rw [List.set_eq_take_append_cons_drop, if_pos hlt]
  have hrest : (entries[index] :: (entries.take index ++ entries.drop (index + 1))).Perm
      entries := by
    have hmiddle : (entries.take index ++ entries[index] :: entries.drop (index + 1)).Perm
        (entries[index] :: (entries.take index ++ entries.drop (index + 1))) := List.perm_middle
    rw [← List.drop_eq_getElem_cons hlt, List.take_append_drop] at hmiddle
    exact hmiddle.symm
  exact ((List.perm_middle.cons _).trans (List.Perm.swap _ _ _)).trans (hrest.cons new)

theorem fillHole_keeps (before : ν → ν → Bool) (heap : IndexedHeap ν) {index : Nat}
    {tail removed : ν}
    (hindexed : (IndexedHeap.mk (heap.nodes ++ [tail]) heap.position).Indexed)
    (hremoved : heap.nodes[index]? = some removed) :
    Tracks (fillHole before heap index tail) (· = removed) ∧
      (removed :: (fillHole before heap index tail).nodes).Perm (heap.nodes ++ [tail]) := by
  have hlt := (List.getElem?_eq_some_iff.mp hremoved).1
  have hfilled : Tracks
      { nodes := heap.nodes.set index tail,
        position := Function.update heap.position tail (some index) } (· = removed) := by
    have hnodup := hindexed.nodup
    simp only [List.nodup_append, List.mem_singleton] at hnodup
    have htail : ∀ i, heap.nodes[i]? ≠ some tail := fun i hi =>
      hnodup.2.2 tail (List.mem_of_getElem? hi) tail rfl rfl
    have hfront : ∀ node i, node ≠ tail →
        (heap.position node = some i ↔ heap.nodes[i]? = some node) := by
      intro node i hnode
      have := hindexed.indexed node i id
      simp only [List.getElem?_append, List.getElem?_singleton] at this
      grind
    have hone : ∀ i, heap.nodes[i]? = some removed → i = index := by
      intro i hi
      have hne : removed ≠ tail := fun heq => htail index (heq ▸ hremoved)
      have hat := (hfront removed i hne).mpr hi
      exact Option.some.inj (hat.symm.trans ((hfront removed index hne).mpr hremoved))
    refine ⟨?_, ?_⟩
    · intro node i hnode
      have := hfront node i
      have := htail i
      simp only [Function.update_apply, List.getElem?_set]
      grind
    · rintro node rfl hmem
      obtain ⟨i, hi⟩ := List.mem_iff_getElem?.mp hmem
      have := hone i
      simp only [List.getElem?_set] at hi
      grind
  have hperm : (removed :: heap.nodes.set index tail).Perm (heap.nodes ++ [tail]) :=
    (cons_set_perm hremoved).trans (List.perm_append_singleton _ _).symm
  unfold fillHole
  dsimp only
  split
  · obtain ⟨htracks, hsift⟩ := siftUp_keeps before hfilled index
    exact ⟨htracks, (hsift.cons removed).trans hperm⟩
  · obtain ⟨htracks, hsift⟩ := siftDown_keeps before hfilled index
    exact ⟨htracks, (hsift.cons removed).trans hperm⟩

/-- The node at `index` leaves, and every other one stays. -/
theorem removeAt_keeps (before : ν → ν → Bool) (h : heap.Indexed) {index : Nat} {removed : ν}
    (hremoved : heap.nodes[index]? = some removed) :
    (removeAt before heap index).Indexed ∧
      (removed :: (removeAt before heap index).nodes).Perm heap.nodes := by
  have hlt := (List.getElem?_eq_some_iff.mp hremoved).1
  obtain ⟨front, tail, hsplit⟩ : ∃ front tail, heap.nodes = front ++ [tail] :=
    ⟨_, _, (List.dropLast_append_getLast (by rintro hnil; simp [hnil] at hlt)).symm⟩
  -- The removed node is the only one whose index is still to be reset.
  have hreset : ∀ refilled : IndexedHeap ν, Tracks refilled (· = removed) →
      ({ refilled with position := Function.update refilled.position removed none } :
        IndexedHeap ν).Indexed := by
    intro refilled htracks
    refine ⟨?_, fun _ hstale => hstale.elim⟩
    intro node i _
    by_cases hnode : node = removed
    · subst hnode
      simp only [Function.update_self, reduceCtorEq, false_iff]
      exact fun hat => htracks.absent node rfl (List.mem_of_getElem? hat)
    · simpa [Function.update_of_ne hnode] using htracks.indexed node i hnode
  unfold removeAt
  rw [hremoved, hsplit, List.getLast?_append_of_ne_nil _ (by simp), List.dropLast_concat]
  dsimp only [List.getLast?_singleton]
  split
  · rename_i hinside
    have hat : front[index]? = some removed := by
      rw [← hremoved, hsplit, List.getElem?_append_left hinside]
    have hwhole : (IndexedHeap.mk (front ++ [tail]) heap.position).Indexed := by
      rw [← hsplit]
      exact h
    obtain ⟨htracks, hperm⟩ := fillHole_keeps before { heap with nodes := front } hwhole hat
    exact ⟨hreset _ htracks, hperm⟩
  · rename_i hlast
    obtain rfl : tail = removed := by
      rw [hsplit] at hremoved hlt
      simp only [List.length_append, List.length_singleton] at hlt
      rw [show index = front.length by omega] at hremoved
      simpa using hremoved
    refine ⟨hreset _ ⟨?_, ?_⟩, (List.perm_append_singleton _ _).symm⟩
    · intro node i hnode
      have := h.indexed node i id
      rw [hsplit] at this
      simp only [List.getElem?_append, List.getElem?_singleton] at this
      grind
    · rintro node rfl
      have := h.nodup
      rw [hsplit] at this
      simp [List.nodup_append] at this
      exact fun hmem => this.2 _ hmem rfl

end IndexedHeap

end DnsPro
