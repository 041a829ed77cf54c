import DnsPro.Lib.Ownership
import DnsPro.Runtime.Scheduler

/-!
# Where the frames are

`Housed` says which frame holds the handle of which: each frame has an owner or is
gone, a frame that was never entered and one that has ended own nothing, and the
handles in a frame are those of tasks that were never started and of the one that it
waits for.

One lemma for each thing that happens to frames follows, in terms of the promises of
the tasks: a frame is made (`make`, `makeRoot`), suspends or ends (`move`), starts a
child (`await`) or a root (`release` and `bind`), goes on after a child (`wake`), and
is destroyed (`bury`).
-/

namespace DnsPro.WorkerRuntime

open DnsPro.Runtime DnsPro.Ownership

structure Housed (places : TaskId → TaskPromise) (held : TaskId → List TaskId)
    (roots destroyed : List TaskId) (frames : Nat) : Prop where
  owned : Owned held roots destroyed frames
  unmade : ∀ task, frames ≤ task → (places task).bound = false
  fresh : ∀ task, (places task).bound = false → held task = []
  final : ∀ task, (places task).point = .final → held task = []
  waits : ∀ task child, (places task).point = .child child →
    child ∈ held task ∧ (places child).bound = true ∧ (places child).continuation = some task
  children : ∀ task, ∀ child ∈ held task,
    (places child).bound = false ∨ (places task).point = .child child
  destroyed_iff : ∀ task, (places task).bound = true →
    ((places task).point = .destroyed ↔ task ∈ destroyed)

namespace Housed

variable {places : TaskId → TaskPromise} {held : TaskId → List TaskId}
  {roots destroyed : List TaskId} {frames : Nat} {task child : TaskId}

theorem empty : Housed (fun _ => {}) (fun _ => []) [] [] 0 where
  owned := owned_empty
  unmade _ _ := rfl
  fresh _ _ := rfl
  final _ _ := rfl
  waits _ _ h := by simp at h
  children _ _ h := by simp at h
  destroyed_iff _ h := by simp at h

/-- A frame that has been entered was made, and one that was not destroyed is there. -/
theorem made (h : Housed places held roots destroyed frames)
    (hbound : (places task).bound = true) (hpoint : (places task).point ≠ .destroyed) :
    task < frames ∧ task ∉ destroyed := by
  refine ⟨?_, fun hgone => hpoint ((h.destroyed_iff task hbound).mpr hgone)⟩
  by_contra hunmade
  rw [h.unmade task (Nat.le_of_not_lt hunmade)] at hbound
  cases hbound

/-! ## The frame of one task goes on -/

theorem update_point_bound (places : TaskId → TaskPromise) (task other : TaskId) (target : Point) :
    (Function.update places task { places task with point := target } other).bound =
      (places other).bound := by
  by_cases hother : other = task
  · subst hother
    rw [Function.update_self]
  · rw [Function.update_of_ne hother]

theorem update_point_continuation (places : TaskId → TaskPromise) (task other : TaskId)
    (target : Point) :
    (Function.update places task { places task with point := target } other).continuation =
      (places other).continuation := by
  by_cases hother : other = task
  · subst hother
    rw [Function.update_self]
  · rw [Function.update_of_ne hother]

/-- A frame that was entered is not one that was never started. -/
theorem ne_of_bound (hbound : (places task).bound = true) (hfresh : (places child).bound = false) :
    task ≠ child := by
  rintro rfl
  exact absurd (hbound.symm.trans hfresh) (by decide)

/-- A frame that waits for no child comes to another point. -/
theorem move (h : Housed places held roots destroyed frames) (hbound : (places task).bound = true)
    (hwaits : ∀ child, (places task).point ≠ .child child)
    (hpoint : (places task).point ≠ .destroyed) {target : Point}
    (hchild : ∀ child, target ≠ .child child) (hdestroyed : target ≠ .destroyed)
    (hfinal : target = .final → held task = []) :
    Housed (Function.update places task { places task with point := target }) held roots destroyed
      frames := by
  refine ⟨h.owned, ?_, ?_, ?_, ?_, ?_, ?_⟩
  · intro other hother
    rw [update_point_bound]
    exact h.unmade other hother
  · intro other hother
    rw [update_point_bound] at hother
    exact h.fresh other hother
  · intro other hother
    by_cases hne : other = task
    · subst hne
      exact hfinal (by simpa using hother)
    · rw [Function.update_of_ne hne] at hother
      exact h.final other hother
  · intro other child hother
    by_cases hne : other = task
    · subst hne
      exact absurd (by simpa using hother) (hchild child)
    · rw [Function.update_of_ne hne] at hother
      rw [update_point_bound, update_point_continuation]
      exact h.waits other child hother
  · intro other child hheld
    rw [update_point_bound]
    by_cases hne : other = task
    · subst hne
      exact .inl ((h.children other child hheld).resolve_right (hwaits child))
    · rw [Function.update_of_ne hne]
      exact h.children other child hheld
  · intro other hother
    rw [update_point_bound] at hother
    by_cases hne : other = task
    · subst hne
      have := h.destroyed_iff other hbound
      simp [hdestroyed, ← this, hpoint]
    · rw [Function.update_of_ne hne]
      exact h.destroyed_iff other hother

/-- A frame waits for a child that was not started. -/
theorem await (h : Housed places held roots destroyed frames)
    (hbound : (places task).bound = true) (hpoint : (places task).point = .executing)
    (hchild : child ∈ held task) (hfresh : (places child).bound = false)
    (hinitial : (places child).point = .initial) :
    Housed (Function.update (Function.update places task { places task with point := .child child })
      child { places child with bound := true, continuation := some task }) held roots destroyed
      frames := by
  have hne : task ≠ child := ne_of_bound hbound hfresh
  obtain ⟨-, hmade, hgone, -⟩ := h.owned.made hchild
  have hself : Function.update (Function.update places task
      { places task with point := .child child }) child
      { places child with bound := true, continuation := some task } task =
      { places task with point := .child child } := by
    rw [Function.update_of_ne hne, Function.update_self]
  have hother : ∀ other, other ≠ task → other ≠ child →
      Function.update (Function.update places task { places task with point := .child child }) child
        { places child with bound := true, continuation := some task } other = places other := by
    intro other htask hother
    rw [Function.update_of_ne hother, Function.update_of_ne htask]
  refine ⟨h.owned, ?_, ?_, ?_, ?_, ?_, ?_⟩
  · intro other hunmade
    have hneChild : other ≠ child := fun heq => by omega
    by_cases heq : other = task
    · subst heq
      rw [h.unmade other hunmade] at hbound
      cases hbound
    · rw [hother other heq hneChild]
      exact h.unmade other hunmade
  · intro other hunbound
    by_cases heq : other = child
    · subst heq
      simp at hunbound
    by_cases heq' : other = task
    · subst heq'
      rw [hself] at hunbound
      exact absurd (hbound.symm.trans hunbound) (by decide)
    · rw [hother other heq' heq] at hunbound
      exact h.fresh other hunbound
  · intro other hfinal
    by_cases heq : other = child
    · subst heq
      exact h.fresh other hfresh
    by_cases heq' : other = task
    · subst heq'
      rw [hself] at hfinal
      cases hfinal
    · rw [hother other heq' heq] at hfinal
      exact h.final other hfinal
  · intro other waited hpoint'
    by_cases heq : other = child
    · subst heq
      rw [Function.update_self] at hpoint'
      exact absurd (hinitial.symm.trans hpoint') (by simp)
    by_cases heq' : other = task
    · subst heq'
      rw [hself] at hpoint'
      obtain rfl := Point.child.inj hpoint'
      exact ⟨hchild, by simp⟩
    · rw [hother other heq' heq] at hpoint'
      obtain ⟨hheld, hwaited, hcontinuation⟩ := h.waits other waited hpoint'
      have hneChild : waited ≠ child := ne_of_bound hwaited hfresh
      by_cases hwaitedTask : waited = task
      · subst hwaitedTask
        rw [hself]
        exact ⟨hheld, hwaited, hcontinuation⟩
      · rw [hother waited hwaitedTask hneChild]
        exact ⟨hheld, hwaited, hcontinuation⟩
  · intro other held' hheld
    by_cases heq : other = task
    · subst heq
      rw [hself]
      by_cases hsame : held' = child
      · exact .inr (hsame ▸ rfl)
      · have hfree := (h.children other held' hheld).resolve_right (by simp [hpoint])
        have hneTask : held' ≠ other := (ne_of_bound hbound hfree).symm
        rw [hother held' hneTask hsame]
        exact .inl hfree
    · have hneChild : other ≠ child := by
        rintro rfl
        rw [h.fresh other hfresh] at hheld
        simp at hheld
      have hneHeld : held' ≠ child := by
        rintro rfl
        exact heq (h.owned.holder_unique hheld hchild)
      rw [hother other heq hneChild]
      by_cases hsame : held' = task
      · subst hsame
        rw [hself]
        exact h.children other held' hheld
      · rw [hother held' hsame hneHeld]
        exact h.children other held' hheld
  · intro other hbound'
    by_cases heq : other = child
    · subst heq
      simp [hinitial, hgone]
    by_cases heq' : other = task
    · subst heq'
      have := h.destroyed_iff other hbound
      simp [hself, ← this, hpoint]
    · rw [hother other heq' heq] at hbound' ⊢
      exact h.destroyed_iff other hbound'

/-! ## Handles -/

theorem held_erase_subset {other handle : TaskId}
    (hhandle : handle ∈ Function.update held task ((held task).erase child) other) :
    handle ∈ held other := by
  by_cases hother : other = task
  · subst hother
    rw [Function.update_self] at hhandle
    exact List.mem_of_mem_erase hhandle
  · rwa [Function.update_of_ne hother] at hhandle

theorem held_erase_nil {other : TaskId} (hnil : held other = []) :
    Function.update held task ((held task).erase child) other = [] := by
  apply List.eq_nil_iff_forall_not_mem.mpr
  intro handle hhandle
  have := held_erase_subset hhandle
  rw [hnil] at this
  simp at this

/-- The handle of a task that was never started leaves the frame. -/
theorem release (h : Housed places held roots destroyed frames) (hchild : child ∈ held task)
    (hfresh : (places child).bound = false) :
    Housed places (Function.update held task ((held task).erase child)) (child :: roots) destroyed
      frames where
  owned := h.owned.release hchild
  unmade := h.unmade
  fresh other hother := held_erase_nil (h.fresh other hother)
  final other hother := held_erase_nil (h.final other hother)
  waits other waited hpoint := by
    obtain ⟨hheld, hbound, hcontinuation⟩ := h.waits other waited hpoint
    refine ⟨?_, hbound, hcontinuation⟩
    by_cases hother : other = task
    · subst hother
      rw [Function.update_self]
      exact (List.mem_erase_of_ne (ne_of_bound hbound hfresh)).mpr hheld
    · rwa [Function.update_of_ne hother]
  children other handle hhandle := h.children other handle (held_erase_subset hhandle)
  destroyed_iff := h.destroyed_iff

/-- A frame goes on after it waited for a child, whose handle it gives up. -/
theorem wake (h : Housed places held roots destroyed frames)
    (hpoint : (places task).point = .child child) :
    Housed (Function.update places task { places task with point := .executing })
      (Function.update held task ((held task).erase child)) (child :: roots) destroyed frames := by
  obtain ⟨hchild, hchildBound, -⟩ := h.waits task child hpoint
  have hreleased := h.owned.release hchild
  refine ⟨hreleased, ?_, ?_, ?_, ?_, ?_, ?_⟩
  · intro other hother
    rw [update_point_bound]
    exact h.unmade other hother
  · intro other hother
    rw [update_point_bound] at hother
    exact held_erase_nil (h.fresh other hother)
  · intro other hother
    by_cases hne : other = task
    · subst hne
      simp at hother
    · rw [Function.update_of_ne hne] at hother
      exact held_erase_nil (h.final other hother)
  · intro other waited hother
    by_cases hne : other = task
    · subst hne
      simp at hother
    · rw [Function.update_of_ne hne] at hother
      rw [update_point_bound, update_point_continuation, Function.update_of_ne hne]
      exact h.waits other waited hother
  · intro other handle hhandle
    have hneChild : handle ≠ child := by
      rintro rfl
      exact (hreleased.made hhandle).2.2.2 List.mem_cons_self
    have hheld := h.children other handle (held_erase_subset hhandle)
    rw [update_point_bound]
    by_cases hne : other = task
    · subst hne
      refine .inl (hheld.resolve_right fun hwaits => ?_)
      exact hneChild (Point.child.inj (hpoint.symm.trans hwaits)).symm
    · rwa [Function.update_of_ne hne]
  · intro other hother
    rw [update_point_bound] at hother
    by_cases hne : other = task
    · subst hne
      have := h.destroyed_iff other hother
      simp [← this, hpoint]
    · rw [Function.update_of_ne hne]
      exact h.destroyed_iff other hother

/-- A root that was never started is bound. -/
theorem bind (h : Housed places held roots destroyed frames) (hroot : task ∈ roots)
    (hfresh : (places task).bound = false) (hinitial : (places task).point = .initial) :
    Housed (Function.update places task { places task with bound := true }) held roots destroyed
      frames := by
  obtain ⟨hmade, hgone⟩ := h.owned.root_made hroot
  have hsame : ∀ other, (Function.update places task { places task with bound := true }
        other).point = (places other).point ∧
      (Function.update places task { places task with bound := true } other).continuation =
        (places other).continuation := by
    intro other
    by_cases hother : other = task
    · subst hother
      simp
    · simp [hother]
  refine ⟨h.owned, ?_, ?_, ?_, ?_, ?_, ?_⟩
  · intro other hother
    rw [Function.update_of_ne (Nat.ne_of_gt (Nat.lt_of_lt_of_le hmade hother))]
    exact h.unmade other hother
  · intro other hother
    by_cases hne : other = task
    · subst hne
      simp at hother
    · rw [Function.update_of_ne hne] at hother
      exact h.fresh other hother
  · intro other hother
    rw [(hsame other).1] at hother
    exact h.final other hother
  · intro other child hother
    rw [(hsame other).1] at hother
    obtain ⟨hheld, hbound, hcontinuation⟩ := h.waits other child hother
    have hne : child ≠ task := ne_of_bound hbound hfresh
    rw [Function.update_of_ne hne]
    exact ⟨hheld, hbound, hcontinuation⟩
  · intro other child hheld
    have hne : child ≠ task := by
      rintro rfl
      exact (h.owned.made hheld).2.2.2 hroot
    rw [(hsame other).1, Function.update_of_ne hne]
    exact h.children other child hheld
  · intro other hother
    rw [(hsame other).1]
    by_cases hne : other = task
    · subst hne
      simp [hinitial, hgone]
    · rw [Function.update_of_ne hne] at hother
      exact h.destroyed_iff other hother

/-! ## Frames are made and destroyed -/

/-- A task calls a coroutine. -/
theorem make (h : Housed places held roots destroyed frames)
    (hbound : (places task).bound = true) (hpoint : (places task).point = .executing) :
    Housed places (Function.update held task (held task ++ [frames])) roots destroyed
      (frames + 1) := by
  obtain ⟨hmade, hgone⟩ := h.made hbound (by simp [hpoint])
  have helsewhere : ∀ other, (places other).point ≠ .executing → other ≠ task := by
    rintro other hother rfl
    exact hother hpoint
  refine ⟨h.owned.make hmade hgone, fun other hother => h.unmade other (by omega), ?_, ?_, ?_, ?_,
    h.destroyed_iff⟩
  · intro other hother
    have hne : other ≠ task := (ne_of_bound hbound hother).symm
    rw [Function.update_of_ne hne]
    exact h.fresh other hother
  · intro other hother
    have hne : other ≠ task := helsewhere other (by simp [hother])
    rw [Function.update_of_ne hne]
    exact h.final other hother
  · intro other child hother
    have hne : other ≠ task := helsewhere other (by simp [hother])
    rw [Function.update_of_ne hne]
    exact h.waits other child hother
  · intro other child hheld
    by_cases hne : other = task
    · subst hne
      rw [Function.update_self, List.mem_append, List.mem_singleton] at hheld
      rcases hheld with hheld | rfl
      · exact h.children other child hheld
      · exact .inl (h.unmade child (Nat.le_refl _))
    · rw [Function.update_of_ne hne] at hheld
      exact h.children other child hheld

/-- The worker calls a coroutine. -/
theorem makeRoot (h : Housed places held roots destroyed frames) :
    Housed places held (frames :: roots) destroyed (frames + 1) :=
  { h with owned := h.owned.makeRoot, unmade := fun other hother => h.unmade other (by omega) }

/-- The tree of a frame that holds nothing is the frame. -/
theorem buried_eq (hnil : held task = []) (depth : Nat) :
    (fun other => if other ∈ tree held depth task then [] else held other) = held := by
  rw [tree_of_nil hnil]
  funext other
  by_cases hother : other = task
  · simp [hother, hnil]
  · simp [hother]

/-- A frame that holds nothing is destroyed.  The scheduler does not know it when it
was never bound. -/
theorem bury (h : Housed places held roots destroyed frames) (hroot : task ∈ roots)
    (hnil : held task = []) :
    Housed
      (if (places task).bound then
        Function.update places task { places task with point := .destroyed }
      else places)
      held (roots.erase task) (destroyed ++ [task]) frames := by
  have howned := h.owned.destroy hroot (Nat.le_add_right frames task)
  rw [buried_eq hnil, tree_of_nil hnil] at howned
  have hnotHeld : ∀ other child, child ∈ held other → child ≠ task := by
    rintro other child hheld rfl
    exact (h.owned.made hheld).2.2.2 hroot
  split
  · rename_i hbound
    refine ⟨howned, ?_, ?_, ?_, ?_, ?_, ?_⟩
    · intro other hother
      rw [update_point_bound]
      exact h.unmade other hother
    · intro other hother
      rw [update_point_bound] at hother
      exact h.fresh other hother
    · intro other hother
      by_cases hne : other = task
      · exact hne ▸ hnil
      · rw [Function.update_of_ne hne] at hother
        exact h.final other hother
    · intro other child hother
      by_cases hne : other = task
      · subst hne
        simp at hother
      · rw [Function.update_of_ne hne] at hother
        have hwaits := h.waits other child hother
        rwa [Function.update_of_ne (hnotHeld other child hwaits.1)]
    · intro other child hheld
      have hne : other ≠ task := by
        rintro rfl
        rw [hnil] at hheld
        simp at hheld
      rw [Function.update_of_ne hne, Function.update_of_ne (hnotHeld other child hheld)]
      exact h.children other child hheld
    · intro other hother
      by_cases hne : other = task
      · subst hne
        simp
      · rw [Function.update_of_ne hne] at hother ⊢
        simp [h.destroyed_iff other hother, hne]
  · rename_i hunbound
    refine ⟨howned, h.unmade, h.fresh, h.final, h.waits, h.children, ?_⟩
    intro other hother
    have hne : other ≠ task := fun heq => hunbound (heq ▸ hother)
    simp [h.destroyed_iff other hother, hne]

end Housed

end DnsPro.WorkerRuntime
