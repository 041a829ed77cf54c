import DnsPro.Runtime.Places
import DnsPro.Upstream.Steps
import DnsPro.WorkerRuntime.State

/-!
# Frames that are destroyed

A frame that waits for neither a query nor a timer is at rest: its awaiters are
linked into no registry, and destroying them changes only themselves
(`destroyAwaiters_cleaned`).
-/

namespace DnsPro.WorkerRuntime

open DnsPro.Runtime DnsPro.Upstream DnsPro.Ownership

variable {env : Environment} {system next third : System} {task child other : TaskId}

/-! ## Awaiters at rest -/

/-- No awaiter in the frame is linked into the channel or the timer queue. -/
structure AtRest (system : System) (task : TaskId) : Prop where
  query : ∀ query, (system.queries query).frame = task →
    (system.queries query).state ≠ .pending ∧ system.armed (.query query) = false
  sleep : ∀ sleep, (system.sleeps sleep).frame = task → system.armed (.sleep sleep) = false

/-- A frame that waits for neither a query nor a timer is at rest. -/
theorem atRest_of_point (h : System.Inv none system)
    (hquery : ∀ query, (system.scheduler.tasks task).point ≠ .query query)
    (hsleep : ∀ sleep, (system.scheduler.tasks task).point ≠ .sleep sleep) :
    AtRest system task where
  query query hframe := by
    have hpending : (system.queries query).state ≠ .pending := by
      intro hpending
      apply hquery query
      rw [← hframe]
      exact (h.pending query hpending).waiting.point_eq
    exact ⟨hpending, h.not_armed hpending⟩
  sleep sleep hframe := by
    by_contra harmed
    apply hsleep sleep
    rw [← hframe]
    rw [Bool.not_eq_false] at harmed
    exact (h.heldSleep sleep (.inl harmed)).waiting.point_eq

/-- Only awaiters were changed, and none of them is linked. -/
structure Cleaned (system next : System) : Prop where
  channel : next.channel = system.channel
  timers : next.timers = system.timers
  scheduler : next.scheduler = system.scheduler
  sleepCount : next.sleepCount = system.sleepCount
  queryFrame : ∀ query, (next.queries query).frame = (system.queries query).frame
  sleepFrame : ∀ sleep, (next.sleeps sleep).frame = (system.sleeps sleep).frame
  queryState : ∀ query, (next.queries query).state = (system.queries query).state
  inv : System.Inv none system → System.Inv none next

theorem Cleaned.refl (system : System) : Cleaned system system :=
  ⟨rfl, rfl, rfl, rfl, fun _ => rfl, fun _ => rfl, fun _ => rfl, id⟩

theorem Cleaned.trans (h : Cleaned system next) (h' : Cleaned next third) :
    Cleaned system third where
  channel := h'.channel.trans h.channel
  timers := h'.timers.trans h.timers
  scheduler := h'.scheduler.trans h.scheduler
  sleepCount := h'.sleepCount.trans h.sleepCount
  queryFrame query := (h'.queryFrame query).trans (h.queryFrame query)
  sleepFrame sleep := (h'.sleepFrame sleep).trans (h.sleepFrame sleep)
  queryState query := (h'.queryState query).trans (h.queryState query)
  inv hinv := h'.inv (h.inv hinv)

theorem Cleaned.atRest (h : Cleaned system next) (hrest : AtRest system task) :
    AtRest next task where
  query query hframe := by
    rw [h.queryFrame] at hframe
    rw [h.queryState, System.armed, h.timers]
    exact hrest.query query hframe
  sleep sleep hframe := by
    rw [h.sleepFrame] at hframe
    rw [System.armed, h.timers]
    exact hrest.sleep sleep hframe

theorem destroyQuery_cleaned (env : Environment) {query : QueryId}
    (hrest : AtRest system (system.queries query).frame) :
    Cleaned system (system.destroyQuery env query) := by
  obtain ⟨hpending, harmed⟩ := hrest.query query rfl
  have habandon : (if (system.queries query).owner then system.abandon env query else system) =
      system := by
    split
    · unfold System.abandon
      simp [hpending]
    · rfl
  have heq : system.destroyQuery env query =
      system.setQuery query { system.queries query with alive := false } := by
    unfold System.destroyQuery
    dsimp only
    rw [habandon, if_neg hpending, System.abandon_unarmed harmed]
    rfl
  refine ⟨?_, ?_, ?_, ?_, ?_, ?_, ?_, fun hinv => hinv.destroyQuery env query⟩
  all_goals rw [heq]
  all_goals try rfl
  · intro other
    by_cases hother : other = query
    · subst hother
      simp [System.setQuery]
    · simp [System.setQuery, hother]
  · intro _
    rfl
  · intro other
    by_cases hother : other = query
    · subst hother
      simp [System.setQuery]
    · simp [System.setQuery, hother]

theorem destroySleep_cleaned {sleep : Nat} (hmade : sleep < system.sleepCount)
    (hrest : AtRest system (system.sleeps sleep).frame) :
    Cleaned system (system.destroySleep sleep) := by
  have harmed := hrest.sleep sleep rfl
  have heq : system.destroySleep sleep =
      system.setSleep sleep { system.sleeps sleep with alive := false } := by
    unfold System.destroySleep
    dsimp only
    rw [harmed, System.abandon_unarmed harmed]
    rfl
  refine ⟨?_, ?_, ?_, ?_, ?_, ?_, ?_, ?_⟩
  all_goals rw [heq]
  all_goals try rfl
  · intro _
    rfl
  · intro other
    by_cases hother : other = sleep
    · subst hother
      simp [System.setSleep]
    · simp [System.setSleep, hother]
  · intro _
    rfl
  · intro hinv
    refine hinv.setSleep hmade ?_
    rintro (hheld | hnone)
    · exact absurd (harmed.symm.trans hheld) (by decide)
    · cases hnone

/-- Destroying the awaiters of a frame at rest. -/
theorem destroyAwaiters_cleaned (env : Environment) (hrest : AtRest system task) :
    Cleaned system (destroyAwaiters env system task) := by
  have hqueries : ∀ (queries : List QueryId) (next : System), Cleaned system next →
      (∀ query ∈ queries, (system.queries query).frame = task) →
      Cleaned system (queries.foldl (System.destroyQuery env) next) := by
    intro queries
    induction queries with
    | nil => exact fun _ h _ => h
    | cons query queries ih =>
      intro next h hframes
      apply ih
      · apply h.trans
        apply destroyQuery_cleaned
        rw [h.queryFrame, hframes query List.mem_cons_self]
        exact h.atRest hrest
      · exact fun query hquery => hframes query (List.mem_cons_of_mem _ hquery)
  have hsleeps : ∀ (sleeps : List Nat) (next : System), Cleaned system next →
      (∀ sleep ∈ sleeps, sleep < system.sleepCount ∧ (system.sleeps sleep).frame = task) →
      Cleaned system (sleeps.foldl System.destroySleep next) := by
    intro sleeps
    induction sleeps with
    | nil => exact fun _ h _ => h
    | cons sleep sleeps ih =>
      intro next h hframes
      obtain ⟨hmade, hframe⟩ := hframes sleep List.mem_cons_self
      apply ih
      · apply h.trans
        apply destroySleep_cleaned
        · rw [h.sleepCount]
          exact hmade
        · rw [h.sleepFrame, hframe]
          exact h.atRest hrest
      · exact fun sleep hsleep => hframes sleep (List.mem_cons_of_mem _ hsleep)
  unfold destroyAwaiters
  apply hsleeps
  · apply hqueries _ _ (Cleaned.refl system)
    intro query hquery
    exact (of_decide_eq_true (List.mem_filter.mp hquery).2).2
  · intro sleep hsleep
    obtain ⟨hmade, hsleep⟩ := List.mem_filter.mp hsleep
    exact ⟨List.mem_range.mp hmade, (of_decide_eq_true hsleep).2⟩

end DnsPro.WorkerRuntime
