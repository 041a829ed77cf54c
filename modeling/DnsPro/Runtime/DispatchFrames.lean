import DnsPro.Runtime.DispatchLists

/-!
# The frames of the dispatcher

A frame that waits for a child owns it, and the child leads back to it; numbers grow
from a frame to its child, so the frames that one frame owns are a finite chain.
`Frames` says this of all promises.

Two lemmas carry it over the operations.  `Frames.change` is for those that move
frames and destroy some: the frames that are destroyed take along all they own.
`Frames.adopt` is for an executing frame that begins to wait for a new child.
-/

namespace DnsPro.Runtime.Dispatch

variable {state next : State} {task other child parent : Nat} {ready roots : List Nat}

structure Frames (state : State) : Prop where
  unseen : ∀ task : Nat, state.frames ≤ task → state.promises task = {}
  queued : ∀ task, (state.promises task).queued = true →
    (state.promises task).point.isResumable = true
  awaited : ∀ task child : Nat, (state.promises task).point = .child child →
    task < child ∧ (state.promises child).continuation = some task
  waits : ∀ task parent, (state.promises task).continuation = some parent →
    (state.promises parent).point = .child task
  root : ∀ task, (state.promises task).root = true →
    (state.promises task).continuation = none ∧ (state.promises task).point ≠ .destroyed
  gone : ∀ task, (state.promises task).point = .destroyed →
    (state.promises task).continuation = none
  destroyed : ∀ task, task ∈ state.destroyed ↔ (state.promises task).point = .destroyed
  once : state.destroyed.Nodup

namespace Frames

/-- A task that is not as new has a number below `frames`. -/
theorem lt_frames (h : Frames state) (hseen : state.promises task ≠ {}) : task < state.frames := by
  by_contra hge
  exact hseen (h.unseen task (Nat.le_of_not_lt hge))

theorem child_lt_frames (h : Frames state) (hpoint : (state.promises task).point = .child child) :
    child < state.frames := by
  apply h.lt_frames
  intro heq
  have := (h.awaited task child hpoint).2
  rw [heq] at this
  cases this

theorem child_not_destroyed (h : Frames state)
    (hpoint : (state.promises task).point = .child child) :
    (state.promises child).point ≠ .destroyed := by
  intro hgone
  have := (h.awaited task child hpoint).2
  rw [h.gone child hgone] at this
  cases this

/-- A child is waited for by one frame. -/
theorem parent_unique (h : Frames state) (htask : (state.promises task).point = .child child)
    (hother : (state.promises other).point = .child child) : other = task := by
  have := (h.awaited other child hother).2
  rw [(h.awaited task child htask).2] at this
  exact (Option.some.inj this).symm

theorem child_not_root (h : Frames state) (hpoint : (state.promises task).point = .child child) :
    (state.promises child).root = false := by
  rw [← Bool.not_eq_true]
  intro hroot
  have := (h.awaited task child hpoint).2
  rw [(h.root child hroot).1] at this
  cases this

/-! ## The frames that a frame owns -/

theorem chain_child {promises : Nat → Promise} (hpoint : (promises task).point = .child child)
    (fuel : Nat) :
    State.chain promises (fuel + 1) task = task :: State.chain promises fuel child := by
  rw [State.chain, hpoint]

theorem chain_leaf {promises : Nat → Promise}
    (hpoint : ∀ child, (promises task).point ≠ .child child) (fuel : Nat) :
    State.chain promises fuel task = [task] := by
  cases fuel with
  | zero => rfl
  | succ fuel =>
    rw [State.chain]
    split
    · rename_i child heq
      exact absurd heq (hpoint child)
    · rfl

/-- Numbers grow along a chain, so fuel up to `frames` is enough. -/
theorem chain_fuel (h : Frames state) :
    ∀ fuel fuel' task : Nat, state.frames ≤ task + fuel → fuel ≤ fuel' →
      State.chain state.promises fuel' task = State.chain state.promises fuel task := by
  intro fuel
  induction fuel with
  | zero =>
    intro fuel' task hfuel _
    have hnew := h.unseen task hfuel
    rw [chain_leaf, chain_leaf] <;>
    · intro child heq
      rw [hnew] at heq
      cases heq
  | succ fuel ih =>
    intro fuel' task hfuel hle
    obtain ⟨more, rfl⟩ : ∃ more, fuel' = more + 1 := ⟨fuel' - 1, by omega⟩
    rw [State.chain, State.chain]
    split
    · rename_i child heq
      have hlt := (h.awaited task child heq).1
      rw [ih more child (by omega) (by omega)]
    · rfl

theorem owned_child (h : Frames state) (hpoint : (state.promises task).point = .child child) :
    state.owned task = task :: state.owned child := by
  have hframes : state.frames = state.frames - 1 + 1 := by
    have := h.child_lt_frames hpoint
    omega
  have hlt := (h.awaited task child hpoint).1
  unfold State.owned
  rw [h.chain_fuel (state.frames - 1) state.frames child (by omega) (by omega)]
  conv_lhs => rw [hframes]
  exact chain_child hpoint _

theorem owned_leaf (hpoint : ∀ child, (state.promises task).point ≠ .child child) :
    state.owned task = [task] :=
  chain_leaf hpoint _

/-- Induction along the chain of a frame. -/
theorem owned_induction (h : Frames state) {motive : Nat → Prop}
    (leaf : ∀ task, (∀ child, (state.promises task).point ≠ .child child) → motive task)
    (step : ∀ task child, (state.promises task).point = .child child → motive child → motive task)
    (task : Nat) : motive task := by
  induction hmeasure : state.frames - task using Nat.strong_induction_on generalizing task with
  | h measure ih =>
    by_cases hchild : ∃ child, (state.promises task).point = .child child
    · obtain ⟨child, hpoint⟩ := hchild
      have hlt := (h.awaited task child hpoint).1
      have hframes := h.child_lt_frames hpoint
      exact step task child hpoint (ih (state.frames - child) (by omega) child rfl)
    · exact leaf task fun child hpoint => hchild ⟨child, hpoint⟩

theorem self_mem_owned (h : Frames state) (task : Nat) : task ∈ state.owned task := by
  induction task using h.owned_induction with
  | leaf task hleaf =>
    rw [owned_leaf hleaf]
    exact List.mem_singleton_self task
  | step task child hpoint _ =>
    rw [h.owned_child hpoint]
    exact List.mem_cons_self

/-- Numbers do not fall along a chain. -/
theorem le_of_mem_owned (h : Frames state) (task : Nat) :
    ∀ other ∈ state.owned task, task ≤ other := by
  induction task using h.owned_induction with
  | leaf task hleaf =>
    intro other hother
    rw [owned_leaf hleaf, List.mem_singleton] at hother
    exact hother.ge
  | step task child hpoint ih =>
    intro other hother
    rw [h.owned_child hpoint, List.mem_cons] at hother
    obtain rfl | hother := hother
    · exact le_rfl
    · exact (h.awaited task child hpoint).1.le.trans (ih other hother)

theorem owned_nodup (h : Frames state) (task : Nat) : (state.owned task).Nodup := by
  induction task using h.owned_induction with
  | leaf task hleaf =>
    rw [owned_leaf hleaf]
    exact List.nodup_singleton task
  | step task child hpoint ih =>
    rw [h.owned_child hpoint]
    refine List.nodup_cons.mpr ⟨?_, ih⟩
    intro hmem
    have hle := h.le_of_mem_owned child task hmem
    have hlt := (h.awaited task child hpoint).1
    omega

/-- What an owned frame waits for is owned. -/
theorem owned_closed (h : Frames state) (task : Nat) :
    ∀ other ∈ state.owned task, ∀ child, (state.promises other).point = .child child →
      child ∈ state.owned task := by
  induction task using h.owned_induction with
  | leaf task hleaf =>
    intro other hother child hpoint
    rw [owned_leaf hleaf, List.mem_singleton] at hother
    rw [hother] at hpoint
    exact absurd hpoint (hleaf child)
  | step task first hfirst ih =>
    intro other hother child hpoint
    rw [h.owned_child hfirst] at hother ⊢
    obtain rfl | hother := List.mem_cons.mp hother
    · rw [hfirst] at hpoint
      obtain rfl := Point.child.inj hpoint
      exact List.mem_cons_of_mem other (h.self_mem_owned first)
    · exact List.mem_cons_of_mem task (ih other hother child hpoint)

/-- An owned frame is the first or is waited for by an owned one. -/
theorem owned_parent (h : Frames state) (task : Nat) :
    ∀ other ∈ state.owned task, other = task ∨
      ∃ parent ∈ state.owned task, (state.promises parent).point = .child other := by
  induction task using h.owned_induction with
  | leaf task hleaf =>
    intro other hother
    rw [owned_leaf hleaf, List.mem_singleton] at hother
    exact Or.inl hother
  | step task child hpoint ih =>
    intro other hother
    rw [h.owned_child hpoint] at hother ⊢
    obtain rfl | hother := List.mem_cons.mp hother
    · exact Or.inl rfl
    · right
      obtain rfl | ⟨parent, hparent, heq⟩ := ih other hother
      · exact ⟨task, List.mem_cons_self, hpoint⟩
      · exact ⟨parent, List.mem_cons_of_mem task hparent, heq⟩

theorem owned_not_destroyed (h : Frames state)
    (htask : (state.promises task).point ≠ .destroyed) :
    ∀ other ∈ state.owned task, (state.promises other).point ≠ .destroyed := by
  intro other hother
  obtain rfl | ⟨parent, _, heq⟩ := h.owned_parent task other hother
  · exact htask
  · exact h.child_not_destroyed heq

/-- Only the first of the owned frames can be a root task. -/
theorem owned_not_root (h : Frames state) (htask : (state.promises task).root = false) :
    ∀ other ∈ state.owned task, (state.promises other).root = false := by
  intro other hother
  obtain rfl | ⟨parent, _, heq⟩ := h.owned_parent task other hother
  · exact htask
  · exact h.child_not_root heq

/-! ## What the operations do to the frames -/

/-- Some frames are destroyed, together with all that they own, and others move
between points where they wait for no child. -/
theorem change (h : Frames state) {gone : List Nat} (hnodup : gone.Nodup)
    (hlive : ∀ task ∈ gone, (state.promises task).point ≠ .destroyed)
    (hclosed : ∀ task ∈ gone, ∀ child, (state.promises task).point = .child child → child ∈ gone)
    (hgone : ∀ task ∈ gone, next.promises task = { point := .destroyed })
    (hunseen : ∀ task : Nat, next.frames ≤ task → next.promises task = {})
    (hcontinuation : ∀ task, task ∉ gone →
      (next.promises task).continuation = (state.promises task).continuation)
    (hqueued : ∀ task, task ∉ gone → (next.promises task).queued = true →
      (next.promises task).point.isResumable = true)
    (hroot : ∀ task, task ∉ gone → (next.promises task).root = true →
      (state.promises task).continuation = none ∧ (state.promises task).point ≠ .destroyed)
    (hpoint : ∀ task, task ∉ gone → (next.promises task).point = (state.promises task).point ∨
      (∀ child, (state.promises task).point = .child child → child ∈ gone) ∧
        (state.promises task).point ≠ .destroyed ∧
        (∀ child, (next.promises task).point ≠ .child child) ∧
        (next.promises task).point ≠ .destroyed)
    (howner : ∀ task, task ∉ gone → ∀ child ∈ gone, (next.promises task).point ≠ .child child)
    (hdestroyed : next.destroyed = state.destroyed ++ gone) : Frames next := by
  refine ⟨hunseen, ?_, ?_, ?_, ?_, ?_, ?_, ?_⟩
  · intro task hq
    by_cases hmem : task ∈ gone
    · rw [hgone task hmem] at hq
      cases hq
    · exact hqueued task hmem hq
  · intro task child heq
    have hmem : task ∉ gone := by
      intro hmem
      rw [hgone task hmem] at heq
      cases heq
    have hchild : child ∉ gone := fun hchild => howner task hmem child hchild heq
    obtain hsame | hmoved := hpoint task hmem
    · rw [hcontinuation child hchild]
      exact h.awaited task child (hsame ▸ heq)
    · exact absurd heq (hmoved.2.2.1 child)
  · intro task parent heq
    have hmem : task ∉ gone := by
      intro hmem
      rw [hgone task hmem] at heq
      cases heq
    rw [hcontinuation task hmem] at heq
    have hwaits := h.waits task parent heq
    have hparent : parent ∉ gone := fun hparent => hmem (hclosed parent hparent task hwaits)
    obtain hsame | hmoved := hpoint parent hparent
    · exact hsame.trans hwaits
    · exact absurd (hmoved.1 task hwaits) hmem
  · intro task heq
    have hmem : task ∉ gone := by
      intro hmem
      rw [hgone task hmem] at heq
      cases heq
    obtain ⟨hnone, hlive⟩ := hroot task hmem heq
    refine ⟨(hcontinuation task hmem).trans hnone, ?_⟩
    obtain hsame | hmoved := hpoint task hmem
    · rw [hsame]
      exact hlive
    · exact hmoved.2.2.2
  · intro task heq
    by_cases hmem : task ∈ gone
    · rw [hgone task hmem]
    · rw [hcontinuation task hmem]
      obtain hsame | hmoved := hpoint task hmem
      · exact h.gone task (hsame ▸ heq)
      · exact absurd heq hmoved.2.2.2
  · intro task
    rw [hdestroyed, List.mem_append, h.destroyed]
    by_cases hmem : task ∈ gone
    · simp [hmem, hgone task hmem]
    · obtain hsame | hmoved := hpoint task hmem
      · simp [hmem, hsame]
      · simp [hmem, hmoved.2.1, hmoved.2.2.2]
  · rw [hdestroyed]
    refine List.nodup_append.mpr ⟨h.once, hnodup, ?_⟩
    intro task htask other hother heq
    exact hlive other hother (heq ▸ (h.destroyed task).mp htask)

/-- No frame is destroyed, and those that move wait for no child. -/
theorem move (h : Frames state)
    (hunseen : ∀ task : Nat, next.frames ≤ task → next.promises task = {})
    (hcontinuation : ∀ task,
      (next.promises task).continuation = (state.promises task).continuation)
    (hqueued : ∀ task, (next.promises task).queued = true →
      (next.promises task).point.isResumable = true)
    (hroot : ∀ task, (next.promises task).root = true →
      (state.promises task).continuation = none ∧ (state.promises task).point ≠ .destroyed)
    (hpoint : ∀ task, (next.promises task).point = (state.promises task).point ∨
      (∀ child, (state.promises task).point ≠ .child child) ∧
        (state.promises task).point ≠ .destroyed ∧
        (∀ child, (next.promises task).point ≠ .child child) ∧
        (next.promises task).point ≠ .destroyed)
    (hdestroyed : next.destroyed = state.destroyed) : Frames next := by
  apply @change state next h []
  · exact List.nodup_nil
  · simp
  · simp
  · simp
  · exact hunseen
  · exact fun task _ => hcontinuation task
  · exact fun task _ => hqueued task
  · exact fun task _ => hroot task
  · intro task _
    obtain hsame | hmoved := hpoint task
    · exact Or.inl hsame
    · exact Or.inr ⟨fun child heq => absurd heq (hmoved.1 child), hmoved.2⟩
  · simp
  · rw [hdestroyed, List.append_nil]

/-- The same frames at the same points. -/
theorem congr (h : Frames state) (hframes : state.frames ≤ next.frames)
    (hpromises : next.promises = state.promises) (hdestroyed : next.destroyed = state.destroyed) :
    Frames next := by
  refine h.move ?_ ?_ ?_ ?_ ?_ hdestroyed
  · intro task htask
    rw [hpromises]
    exact h.unseen task (hframes.trans htask)
  · intro task
    rw [hpromises]
  · rw [hpromises]
    exact h.queued
  · rw [hpromises]
    exact h.root
  · intro task
    rw [hpromises]
    exact Or.inl rfl

/-- A task that waits for no child moves. -/
theorem update (h : Frames state) (hchild : ∀ child, (state.promises task).point ≠ .child child)
    (hlive : (state.promises task).point ≠ .destroyed) (hseen : task < state.frames)
    {change : Promise → Promise}
    (hpoint : ∀ child, (change (state.promises task)).point ≠ .child child)
    (hpoint' : (change (state.promises task)).point ≠ .destroyed)
    (hcontinuation : (change (state.promises task)).continuation =
      (state.promises task).continuation)
    (hroot : (change (state.promises task)).root = (state.promises task).root)
    (hqueued : (change (state.promises task)).queued = false) :
    Frames (state.update task change) := by
  refine h.move ?_ ?_ ?_ ?_ ?_ rfl
  · intro other hother
    have hne : other ≠ task := by
      have : state.frames ≤ other := hother
      omega
    rw [update_promises, if_neg hne]
    exact h.unseen other hother
  · intro other
    rw [update_promises]
    split
    · rename_i heq
      rw [hcontinuation, heq]
    · rfl
  · intro other
    rw [update_promises]
    split
    · rw [hqueued]
      exact fun hfalse => absurd hfalse Bool.false_ne_true
    · exact h.queued other
  · intro other
    rw [update_promises]
    split
    · rename_i heq
      rw [hroot, heq]
      exact h.root task
    · exact h.root other
  · intro other
    rw [update_promises]
    split
    · rename_i heq
      rw [heq]
      exact Or.inr ⟨hchild, hlive, hpoint, hpoint'⟩
    · exact Or.inl rfl

/-- An executing task begins to wait for a new child. -/
theorem adopt (h : Frames state) (htask : (state.promises task).point = .executing)
    (hchild : state.promises child = {}) (hlt : task < child) (hseen : child < state.frames) :
    Frames (((state.setPoint task (.child child)).bind child).update child fun promise =>
      { promise with continuation := some task }) := by
  have hself : ∀ other : Nat, (((state.setPoint task (.child child)).bind child).update child
      fun promise => { promise with continuation := some task }).promises other =
        if other = child then { bound := true, continuation := some task }
        else if other = task then { state.promises task with point := .child child }
        else state.promises other := by
    intro other
    unfold State.setPoint State.bind
    simp only [update_promises, if_neg hlt.ne', hchild, if_true]
    split
    · rfl
    · split <;> rfl
  -- Nobody waits for the new child, and the executing task has no other one.
  have hnew : ∀ other, (state.promises other).point ≠ .child child := by
    intro other heq
    have := (h.awaited other child heq).2
    rw [hchild] at this
    cases this
  have hfree : ∀ other, (state.promises other).continuation ≠ some task := by
    intro other heq
    have := h.waits other task heq
    rw [htask] at this
    cases this
  refine ⟨?_, ?_, ?_, ?_, ?_, ?_, ?_, h.once⟩
  · intro other hother
    have : state.frames ≤ other := hother
    rw [hself, if_neg (by omega), if_neg (by omega)]
    exact h.unseen other hother
  · intro other
    rw [hself]
    split
    · exact fun hfalse => absurd hfalse Bool.false_ne_true
    · split
      · intro hqueued
        have := h.queued task hqueued
        rw [htask] at this
        cases this
      · exact h.queued other
  · intro other grandchild
    rw [hself, hself]
    split
    · intro heq
      cases heq
    · split
      · rename_i heq
        intro hpoint
        obtain rfl := Point.child.inj hpoint
        rw [if_pos rfl, heq]
        exact ⟨hlt, rfl⟩
      · intro hpoint
        have hawaited := h.awaited other grandchild hpoint
        have hne : grandchild ≠ child := fun heq => hnew other (heq ▸ hpoint)
        rw [if_neg hne]
        split
        · rename_i heq
          rw [← heq]
          exact hawaited
        · exact hawaited
  · intro other parent
    rw [hself, hself]
    split
    · rename_i heq
      intro hparent
      obtain rfl := Option.some.inj hparent
      rw [if_neg hlt.ne, if_pos rfl, heq]
    · split
      · rename_i hne heq
        intro hparent
        have hwaits := h.waits task parent hparent
        have hparentne : parent ≠ task := fun heq => hfree task (heq ▸ hparent)
        have hchildne : parent ≠ child := by
          intro heq
          rw [heq, hchild] at hwaits
          cases hwaits
        rw [if_neg hchildne, if_neg hparentne, heq]
        exact hwaits
      · intro hparent
        have hwaits := h.waits other parent hparent
        have hparentne : parent ≠ task := fun heq => hfree other (heq ▸ hparent)
        have hchildne : parent ≠ child := by
          intro heq
          rw [heq, hchild] at hwaits
          cases hwaits
        rw [if_neg hchildne, if_neg hparentne]
        exact hwaits
  · intro other
    rw [hself]
    split
    · exact fun hfalse => absurd hfalse Bool.false_ne_true
    · split
      · intro hroot
        exact ⟨(h.root task hroot).1, Point.noConfusion⟩
      · exact h.root other
  · intro other
    rw [hself]
    split
    · exact fun hfalse => Point.noConfusion hfalse
    · split
      · exact fun hfalse => Point.noConfusion hfalse
      · exact h.gone other
  · intro other
    rw [hself]
    show other ∈ state.destroyed ↔ _
    rw [h.destroyed]
    split
    · rename_i heq
      rw [heq, hchild]
    · split
      · rename_i heq
        rw [heq, htask]
        simp
      · rfl

theorem enqueue (h : Frames state) (hready : ReadyList state ready) (hseen : task < state.frames)
    (hresumable : (state.promises task).point.isResumable = true) :
    Frames (state.enqueue task) := by
  refine h.move ?_ ?_ ?_ ?_ ?_ (by rw [enqueue_eq])
  · intro other hother
    rw [enqueue_eq] at hother
    have hne : other ≠ task := by
      have : state.frames ≤ other := hother
      omega
    have htail : state.readyTail ≠ some other := by
      intro heq
      rw [hready.tail] at heq
      have := (hready.queued other).mpr (List.mem_of_getLast? heq)
      rw [h.unseen other hother] at this
      cases this
    rw [enqueue_promises, h.unseen other hother, if_neg htail, if_neg hne]
    simp [hne]
  · intro other
    rw [enqueue_promises]
  · intro other
    rw [enqueue_promises]
    simp only [Bool.or_eq_true, decide_eq_true_eq]
    intro hor
    obtain rfl | hqueued := hor
    · exact hresumable
    · exact h.queued other hqueued
  · intro other
    rw [enqueue_promises]
    exact h.root other
  · intro other
    rw [enqueue_promises]
    exact Or.inl rfl

theorem takeFront (h : Frames state) (hseen : task < state.frames) :
    Frames (state.takeFront task) := by
  refine h.move ?_ ?_ ?_ ?_ ?_ rfl
  · intro other hother
    have hne : other ≠ task := by
      have : state.frames ≤ other := hother
      omega
    rw [takeFront_promises, if_neg hne]
    exact h.unseen other hother
  · intro other
    rw [takeFront_promises]
    split
    · rename_i heq
      rw [heq]
    · rfl
  · intro other
    rw [takeFront_promises]
    split
    · exact fun hfalse => absurd hfalse Bool.false_ne_true
    · exact h.queued other
  · intro other
    rw [takeFront_promises]
    split
    · rename_i heq
      rw [heq]
      exact h.root task
    · exact h.root other
  · intro other
    rw [takeFront_promises]
    split
    · rename_i heq
      rw [heq]
      exact Or.inl rfl
    · exact Or.inl rfl

theorem linkRoot (h : Frames state) (hroots : RootList state roots) (hseen : task < state.frames)
    (hcontinuation : (state.promises task).continuation = none)
    (hlive : (state.promises task).point ≠ .destroyed) : Frames (state.linkRoot task) := by
  refine h.move ?_ ?_ ?_ ?_ ?_ (by rw [linkRoot_eq])
  · intro other hother
    rw [linkRoot_eq] at hother
    have hne : other ≠ task := by
      have : state.frames ≤ other := hother
      omega
    have hhead : state.rootHead ≠ some other := by
      intro heq
      rw [hroots.head] at heq
      have := (hroots.root other).mpr (List.mem_of_head? heq)
      rw [h.unseen other hother] at this
      cases this
    rw [linkRoot_promises, h.unseen other hother, if_neg hhead, if_neg hne, if_neg hne]
    simp [hne]
  · intro other
    rw [linkRoot_promises]
  · intro other
    rw [linkRoot_promises]
    exact h.queued other
  · intro other
    rw [linkRoot_promises]
    simp only [Bool.or_eq_true, decide_eq_true_eq]
    intro hor
    obtain rfl | hroot := hor
    · exact ⟨hcontinuation, hlive⟩
    · exact h.root other hroot
  · intro other
    rw [linkRoot_promises]
    exact Or.inl rfl

theorem unlinkRoot {front back : List TaskId} (h : Frames state)
    (hroots : RootList state (front ++ task :: back)) : Frames (state.unlinkRoot task) := by
  refine h.move ?_ ?_ ?_ ?_ ?_ (by rw [unlinkRoot_eq hroots.root_middle])
  · intro other hother
    rw [unlinkRoot_eq hroots.root_middle] at hother
    have hnew := h.unseen other hother
    -- A task that nobody has seen is no neighbour of a root task.
    have hneighbour : other ∉ front ++ task :: back := by
      intro hmem
      have := (hroots.root other).mpr hmem
      rw [hnew] at this
      cases this
    have hne : other ≠ task := by
      intro heq
      exact hneighbour (heq ▸ List.mem_append_right front List.mem_cons_self)
    obtain ⟨hprevious, hnext⟩ := hroots.neighbours
    have hfront : (state.promises task).rootPrevious ≠ some other := by
      rw [hprevious]
      intro heq
      exact hneighbour (List.mem_append_left _ (List.mem_of_getLast? heq))
    have hback : (state.promises task).rootNext ≠ some other := by
      rw [hnext]
      intro heq
      exact hneighbour
        (List.mem_append_right front (List.mem_cons_of_mem task (List.mem_of_head? heq)))
    rw [hroots.unlinkRoot_promises, hnew, if_neg hne, if_neg hne, if_neg hfront, if_neg hback]
    simp
  · intro other
    rw [hroots.unlinkRoot_promises]
  · intro other
    rw [hroots.unlinkRoot_promises]
    exact h.queued other
  · intro other
    rw [hroots.unlinkRoot_promises]
    intro hroot
    exact h.root other (Bool.and_eq_true_iff.mp hroot).2
  · intro other
    rw [hroots.unlinkRoot_promises]
    exact Or.inl rfl

theorem clearReady (h : Frames state) (hready : ReadyList state ready)
    (hfuel : ready.length ≤ state.frames) : Frames state.clearReady := by
  have hsame := hready.clearReady_promises hfuel
  refine h.move ?_ ?_ ?_ ?_ ?_ (by rw [clearReady_eq])
  · intro other hother
    rw [clearReady_eq] at hother
    rw [hsame, h.unseen other hother]
    simp
  · intro other
    rw [hsame]
  · intro other
    rw [hsame]
    exact fun hfalse => absurd hfalse Bool.false_ne_true
  · intro other
    rw [hsame]
    exact h.root other
  · intro other
    rw [hsame]
    exact Or.inl rfl

theorem owned_lt_frames (h : Frames state) (hseen : task < state.frames) :
    ∀ other : Nat, other ∈ state.owned task → other < state.frames := by
  intro other hother
  obtain rfl | ⟨parent, _, heq⟩ := h.owned_parent task other hother
  · exact hseen
  · exact h.child_lt_frames heq

/-- A frame that nobody waits for is destroyed. -/
theorem destroy (h : Frames state) (hcontinuation : (state.promises task).continuation = none)
    (hlive : (state.promises task).point ≠ .destroyed) (hseen : task < state.frames) :
    Frames (state.destroy task) := by
  refine h.change (h.owned_nodup task) (h.owned_not_destroyed hlive) (h.owned_closed task)
    ?_ ?_ ?_ ?_ ?_ ?_ ?_ rfl
  · intro other hother
    rw [destroy_promises, if_pos hother]
  · intro other hother
    have hnot : other ∉ state.owned task := by
      intro howned
      have hlt := h.owned_lt_frames hseen other howned
      have : state.frames ≤ other := hother
      omega
    rw [destroy_promises, if_neg hnot]
    exact h.unseen other hother
  · intro other hother
    rw [destroy_promises, if_neg hother]
  · intro other hother
    rw [destroy_promises, if_neg hother]
    exact h.queued other
  · intro other hother
    rw [destroy_promises, if_neg hother]
    exact h.root other
  · intro other hother
    rw [destroy_promises, if_neg hother]
    exact Or.inl rfl
  · intro other hother child hchild
    rw [destroy_promises, if_neg hother]
    intro heq
    -- The frame that waits for an owned frame is owned too, unless that is the first.
    obtain rfl | ⟨parent, hparent, hpoint⟩ := h.owned_parent task child hchild
    · have := (h.awaited other child heq).2
      rw [hcontinuation] at this
      cases this
    · exact hother (h.parent_unique hpoint heq ▸ hparent)

/-- A suspended task goes on, and the child it waits for is destroyed. -/
theorem resume (h : Frames state) (hseen : task < state.frames)
    (hresumable : (state.promises task).point.isResumable = true)
    (hqueued : (state.promises task).queued = false) : Frames (state.resume task) := by
  have hlive : (state.promises task).point ≠ .destroyed := by
    intro heq
    rw [heq] at hresumable
    cases hresumable
  by_cases hchild : ∃ child, (state.promises task).point = .child child
  · obtain ⟨child, hpoint⟩ := hchild
    have hlt := (h.awaited task child hpoint).1
    have hself : task ∉ state.owned child := by
      intro hmem
      have := h.le_of_mem_owned child task hmem
      omega
    have hresume : state.resume task = (state.destroy child).setPoint task .executing := by
      unfold State.resume
      rw [hpoint]
    have hpromises : ∀ other, (state.resume task).promises other =
        if other = task then { state.promises task with point := .executing }
        else if other ∈ state.owned child then { point := .destroyed }
        else state.promises other := by
      intro other
      rw [hresume]
      unfold State.setPoint
      rw [update_promises, destroy_promises, destroy_promises, if_neg hself]
    refine h.change (h.owned_nodup child)
      (h.owned_not_destroyed (h.child_not_destroyed hpoint)) (h.owned_closed child)
      ?_ ?_ ?_ ?_ ?_ ?_ ?_ (by rw [hresume]; rfl)
    · intro other hother
      have hne : other ≠ task := fun heq => hself (heq ▸ hother)
      rw [hpromises, if_neg hne, if_pos hother]
    · intro other hother
      rw [hresume] at hother
      have hframes : state.frames ≤ other := hother
      have hne : other ≠ task := by omega
      have hnot : other ∉ state.owned child := by
        intro howned
        have := h.owned_lt_frames (h.child_lt_frames hpoint) other howned
        omega
      rw [hpromises, if_neg hne, if_neg hnot]
      exact h.unseen other hframes
    · intro other hother
      rw [hpromises, if_neg hother]
      split
      · rename_i heq
        rw [heq]
      · rfl
    · intro other hother
      rw [hpromises, if_neg hother]
      split
      · intro htrue
        exact absurd (hqueued.symm.trans htrue) Bool.false_ne_true
      · exact h.queued other
    · intro other hother
      rw [hpromises, if_neg hother]
      split
      · rename_i heq
        rw [heq]
        exact h.root task
      · exact h.root other
    · intro other hother
      rw [hpromises, if_neg hother]
      split
      · rename_i heq
        rw [heq]
        refine Or.inr ⟨?_, hlive, fun _ => Point.noConfusion, Point.noConfusion⟩
        intro second hsecond
        rw [hpoint] at hsecond
        obtain rfl := Point.child.inj hsecond
        exact h.self_mem_owned child
      · exact Or.inl rfl
    · intro other hother second hsecond
      rw [hpromises, if_neg hother]
      split
      · exact Point.noConfusion
      · rename_i hne
        intro heq
        obtain rfl | ⟨parent, hparent, hparentpoint⟩ := h.owned_parent child second hsecond
        · exact hne (h.parent_unique hpoint heq)
        · exact hother (h.parent_unique hparentpoint heq ▸ hparent)
  · have hfree : ∀ child, (state.promises task).point ≠ .child child :=
      fun child heq => hchild ⟨child, heq⟩
    have hresume : state.resume task = state.setPoint task .executing := by
      unfold State.resume
      split
      · rename_i child heq
        exact absurd heq (hfree child)
      · rfl
    rw [hresume]
    exact h.update hfree hlive hseen (fun _ => Point.noConfusion) Point.noConfusion rfl rfl hqueued

end Frames

end DnsPro.Runtime.Dispatch
