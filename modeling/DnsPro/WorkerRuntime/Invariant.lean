import DnsPro.WorkerRuntime.Frames
import DnsPro.WorkerRuntime.Housing

/-!
# What the tasks keep

`Inv` joins the invariant of the channel with `Housed`.  `Acts` says what an action of
a task does: the invariant holds after it, no other task executes, and once the stop
was requested the registries and the counters are as they were.

An action that leaves the frames alone is one of three changes of the system: the tasks
stay where they are (`Acts.still`), the executing task suspends (`Acts.moved`), or the
external stop is seen (`Acts.observed`).  Awaiting a query or a timer comes after these.
-/

namespace DnsPro.WorkerRuntime

open DnsPro.Protocol DnsPro.Runtime DnsPro.Upstream DnsPro.Ownership

structure Inv (state : State) : Prop where
  system : System.Inv none state.system
  housed : Housed state.system.scheduler.places state.held state.roots state.destroyed state.frames

/-- The registries and the counters of failures are as they were. -/
structure Settled (system next : System) : Prop where
  channel : next.channel = system.channel
  timers : next.timers = system.timers
  steady : Scheduler.Steady system.scheduler next.scheduler

theorem Settled.refl (system : System) : Settled system system :=
  ⟨rfl, rfl, Scheduler.Steady.refl _⟩

theorem Settled.trans {system next third : System} (h : Settled system next)
    (h' : Settled next third) : Settled system third :=
  ⟨h'.channel.trans h.channel, h'.timers.trans h.timers, h.steady.trans h'.steady⟩

theorem Cleaned.settled {system next : System} (h : Cleaned system next) : Settled system next :=
  ⟨h.channel, h.timers, h.scheduler ▸ Scheduler.Steady.refl _⟩

/-- Frames are made and destroyed, and none comes back. -/
structure Grows (state next : State) : Prop where
  destroyed : state.destroyed <+: next.destroyed
  frames : state.frames ≤ next.frames

theorem Grows.trans {state next third : State} (h : Grows state next) (h' : Grows next third) :
    Grows state third :=
  ⟨h.destroyed.trans h'.destroyed, Nat.le_trans h.frames h'.frames⟩

/-- What the code of `task` does between two suspensions. -/
structure Acts (task : TaskId) (state next : State) : Prop where
  inv : Inv next
  only : ∀ other, next.executing other → other = task
  roots : state.roots ⊆ next.roots
  grows : Grows state next
  calm : next.cancelPending = state.cancelPending
  settled : state.system.scheduler.stopRequested = true → Settled state.system next.system

variable {env : Environment} {state next third : State} {task child : TaskId}

theorem Acts.trans (h : Acts task state next) (h' : Acts task next third) :
    Acts task state third where
  inv := h'.inv
  only := h'.only
  roots := List.Subset.trans h.roots h'.roots
  grows := h.grows.trans h'.grows
  calm := h'.calm.trans h.calm
  settled hstop :=
    (h.settled hstop).trans (h'.settled ((h.settled hstop).steady.stopRequested.trans hstop))

theorem Acts.refl (h : Inv state) (honly : ∀ other, state.executing other → other = task) :
    Acts task state state :=
  ⟨h, honly, List.Subset.refl _, ⟨List.prefix_refl _, Nat.le_refl _⟩, rfl, fun _ => Settled.refl _⟩

/-- A task that executes is bound, and the tasks whose handles are in its frame were
never started. -/
theorem Inv.held_fresh (h : Inv state) (hexecuting : state.executing task)
    (hchild : child ∈ state.held task) :
    (state.system.scheduler.tasks child).bound = false ∧
      (state.system.scheduler.tasks child).point = .initial := by
  have hpoint : (state.system.scheduler.tasks task).point = .executing := hexecuting
  have hfresh : (state.system.scheduler.tasks child).bound = false :=
    (h.housed.children task child hchild).resolve_right (by simp [hpoint])
  exact ⟨hfresh, (h.system.scheduler.unbound child hfresh).1⟩

theorem Inv.bound (h : Inv state) (hexecuting : state.executing task) :
    (state.system.scheduler.tasks task).bound = true :=
  (h.system.scheduler.executing task hexecuting).1

/-- The awaiters in the frame of a task that executes are not linked. -/
theorem Inv.atRest (h : Inv state) (hexecuting : state.executing task) :
    AtRest state.system task := by
  have hpoint : (state.system.scheduler.tasks task).point = .executing := hexecuting
  apply atRest_of_point h.system
  · simp [hpoint]
  · simp [hpoint]

/-! ## Changes of the system alone -/

/-- A change that leaves the tasks where they are. -/
theorem Inv.still (h : Inv state) {system : System} (hsystem : System.Inv none system)
    (hplaces : system.scheduler.places = state.system.scheduler.places) :
    Inv { state with system := system } :=
  ⟨hsystem, hplaces ▸ h.housed⟩

theorem Acts.still (h : Inv state) (honly : ∀ other, state.executing other → other = task)
    {system : System} (hsystem : System.Inv none system)
    (hplaces : system.scheduler.places = state.system.scheduler.places)
    (hsettled : state.system.scheduler.stopRequested = true → Settled state.system system) :
    Acts task state { state with system := system } := by
  refine ⟨h.still hsystem hplaces, ?_, List.Subset.refl _,
    ⟨List.prefix_refl _, Nat.le_refl _⟩, rfl, hsettled⟩
  intro other hother
  apply honly other
  have : (system.scheduler.places other).point = .executing := hother
  rwa [hplaces] at this

theorem Acts.cleaned (h : Inv state) (honly : ∀ other, state.executing other → other = task)
    {system : System} (hcleaned : Cleaned state.system system) :
    Acts task state { state with system := system } :=
  Acts.still h honly (hcleaned.inv h.system) (by rw [hcleaned.scheduler]) fun _ => hcleaned.settled

/-- The executing task suspends or ends. -/
theorem Acts.moved (h : Inv state) (honly : ∀ other, state.executing other → other = task)
    (hexecuting : state.executing task) {system : System} (hsystem : System.Inv none system)
    (target : Point) (hchild : ∀ child, target ≠ .child child) (hdestroyed : target ≠ .destroyed)
    (hfinal : target = .final → state.held task = [])
    (hplaces : system.scheduler.places = Function.update state.system.scheduler.places task
      { state.system.scheduler.places task with point := target })
    (hsettled : state.system.scheduler.stopRequested = true → Settled state.system system) :
    Acts task state { state with system := system } := by
  have hpoint : (state.system.scheduler.tasks task).point = .executing := hexecuting
  refine ⟨⟨hsystem, ?_⟩, ?_, List.Subset.refl _, ⟨List.prefix_refl _, Nat.le_refl _⟩, rfl, hsettled⟩
  · rw [hplaces]
    exact h.housed.move (h.bound hexecuting) (by simp [hpoint]) (by simp [hpoint]) hchild hdestroyed
      hfinal
  · intro other hother
    by_contra hne
    have : (system.scheduler.places other).point = .executing := hother
    rw [hplaces, Function.update_of_ne hne] at this
    exact hne (honly other this)

/-- The external stop is seen. -/
theorem Acts.observed (h : Inv state) (honly : ∀ other, state.executing other → other = task) :
    Acts task state state.observeExternalStop := by
  unfold State.observeExternalStop
  split
  · refine Acts.still h honly h.system.requestStop rfl fun hstop => ⟨rfl, rfl, rfl, ?_, rfl⟩
    exact hstop.symm
  · exact Acts.refl h honly

theorem observed_executing :
    state.observeExternalStop.executing task ↔ state.executing task := by
  unfold State.observeExternalStop
  split <;> rfl

theorem observed_held (state : State) : state.observeExternalStop.held = state.held := by
  unfold State.observeExternalStop
  split <;> rfl

theorem observed_awaiters (state : State) :
    state.observeExternalStop.system.queries = state.system.queries ∧
      state.observeExternalStop.system.sleeps = state.system.sleeps := by
  unfold State.observeExternalStop
  split
  · exact ⟨rfl, rfl⟩
  · exact ⟨rfl, rfl⟩

/-! ## Spawning -/

theorem accepts_iff : state.accepts = true ↔
    state.system.scheduler.running = true ∧ state.system.scheduler.accepting = true ∧
      state.system.scheduler.stopRequested = false := by
  unfold State.accepts
  rw [Bool.and_eq_true, Bool.and_eq_true, Bool.not_eq_true', and_assoc]

theorem spawn_places (haccepts : state.accepts = true) (child : TaskId) :
    (state.system.scheduler.spawn child).places =
      Function.update state.system.scheduler.places child
      { state.system.scheduler.places child with bound := true } := by
  obtain ⟨hrunning, haccepting, hstop⟩ := accepts_iff.mp haccepts
  exact Scheduler.places_spawn hrunning haccepting hstop

/-- A task that is spawned does not execute yet. -/
theorem executing_of_spawn (haccepts : state.accepts = true) {other : TaskId}
    (hother : ((state.system.scheduler.spawn child).places other).point = .executing) :
    state.executing other := by
  rw [spawn_places haccepts] at hother
  by_cases hne : other = child
  · subst hne
    rw [Function.update_self] at hother
    exact hother
  · rwa [Function.update_of_ne hne] at hother

/-! ## Awaiting -/

theorem rollbackBegin_scheduler (env : Environment) (system : System) (query : QueryId) :
    (system.rollbackBegin env query).scheduler = system.scheduler := by
  unfold System.rollbackBegin
  dsimp only
  split_ifs
  all_goals rfl

theorem beginSend_scheduler (env : Environment) (system : System) (query : QueryId) (task : TaskId)
    (id : UInt16) (wire : Bytes) (armFails : Bool) (sent : SendOutcome) :
    (system.beginSend env query task id wire armFails sent).2.scheduler = system.scheduler := by
  unfold System.beginSend
  dsimp only
  split
  · exact rollbackBegin_scheduler env _ query
  · split
    · rfl
    · exact rollbackBegin_scheduler env _ query
  · exact rollbackBegin_scheduler env _ query
  · exact rollbackBegin_scheduler env _ query

theorem begin_scheduler (env : Environment) (system : System) (query : QueryId) (task : TaskId)
    (writeFails armFails : Bool) (sent : SendOutcome) :
    (system.begin env query task writeFails armFails sent).2.scheduler = system.scheduler := by
  unfold System.begin
  split
  · rfl
  split
  · rfl
  dsimp only
  split
  · rfl
  split
  · rfl
  split
  · rfl
  · exact beginSend_scheduler env _ query task _ _ armFails sent

/-- A task that awaits a query goes on executing or waits for it. -/
theorem awaitQuery_scheduler (env : Environment) (system : System) (query : QueryId)
    (writeFails armFails : Bool) (sent : SendOutcome) :
    (system.awaitQuery env query writeFails armFails sent).scheduler = system.scheduler ∨
      (system.awaitQuery env query writeFails armFails sent).scheduler =
        system.scheduler.setPoint (system.queries query).frame (.query query) := by
  have hbegin := begin_scheduler env system query (system.queries query).frame writeFails armFails
    sent
  unfold System.awaitQuery
  dsimp only
  split
  · exact .inl rfl
  split
  · exact .inl rfl
  split
  · exact .inl rfl
  generalize system.begin env query (system.queries query).frame writeFails armFails sent = outcome
    at hbegin
  split
  · exact .inl hbegin
  · refine .inr ?_
    dsimp only at hbegin ⊢
    rw [hbegin]
  · exact .inl hbegin

/-- After a stop request a query is not begun. -/
theorem awaitQuery_stopped (env : Environment) {system : System} (query : QueryId)
    (hbound : (system.scheduler.tasks (system.queries query).frame).bound = true)
    (hstop : system.scheduler.stopRequested = true) (writeFails armFails : Bool)
    (sent : SendOutcome) :
    Settled system (system.awaitQuery env query writeFails armFails sent) := by
  unfold System.awaitQuery
  dsimp only
  rw [if_neg (by simp [hbound]), if_pos hstop]
  exact ⟨rfl, rfl, Scheduler.Steady.refl _⟩

/-- A task that awaits a timer goes on executing or waits for it. -/
theorem awaitSleep_scheduler (system : System) (sleep : Nat) (armFails : Bool) :
    (system.awaitSleep sleep armFails).scheduler = system.scheduler ∨
      (system.awaitSleep sleep armFails).scheduler =
        system.scheduler.setPoint (system.sleeps sleep).frame (.sleep sleep) := by
  unfold System.awaitSleep
  dsimp only
  split_ifs
  · exact .inl rfl
  · exact .inl rfl
  · exact .inl rfl
  split
  · exact .inl rfl
  · exact .inr rfl
  all_goals exact .inl rfl

/-- After a stop request a timer is not armed. -/
theorem awaitSleep_stopped {system : System} (sleep : Nat)
    (hbound : (system.scheduler.tasks (system.sleeps sleep).frame).bound = true)
    (hstop : system.scheduler.stopRequested = true) (armFails : Bool) :
    Settled system (system.awaitSleep sleep armFails) := by
  unfold System.awaitSleep
  dsimp only
  rw [if_neg (by simp [hbound]), if_pos hstop]
  exact ⟨rfl, rfl, Scheduler.Steady.refl _⟩

theorem Inv.awaitQuery (h : Inv state) (honly : ∀ other, state.executing other → other = task)
    (hexecuting : state.executing task) {query : QueryId}
    (halive : (state.system.queries query).alive = true)
    (hframe : (state.system.queries query).frame = task) (writeFails armFails : Bool)
    (sent : SendOutcome) :
    Acts task state
      { state with system := state.system.awaitQuery env query writeFails armFails sent } := by
  subst hframe
  have hsystem := h.system.awaitQuery env halive hexecuting writeFails armFails sent
  have hsettled := fun hstop =>
    awaitQuery_stopped env query (h.bound hexecuting) hstop writeFails armFails sent
  rcases awaitQuery_scheduler env state.system query writeFails armFails sent with hsame | hmoved
  · exact Acts.still h honly hsystem (by rw [hsame]) hsettled
  · refine Acts.moved h honly hexecuting hsystem (.query query) (by simp) (by simp)
      (by simp) ?_ hsettled
    rw [hmoved, Scheduler.places_setPoint]

theorem Inv.awaitSleep (h : Inv state) (honly : ∀ other, state.executing other → other = task)
    (hexecuting : state.executing task) {sleep : Nat}
    (halive : (state.system.sleeps sleep).alive = true)
    (hframe : (state.system.sleeps sleep).frame = task) (armFails : Bool) :
    Acts task state { state with system := state.system.awaitSleep sleep armFails } := by
  subst hframe
  have hsystem := h.system.awaitSleep halive hexecuting armFails
  have hsettled := fun hstop =>
    awaitSleep_stopped sleep (h.bound hexecuting) hstop armFails
  rcases awaitSleep_scheduler state.system sleep armFails with hsame | hmoved
  · exact Acts.still h honly hsystem (by rw [hsame]) hsettled
  · refine Acts.moved h honly hexecuting hsystem (.sleep sleep) (by simp) (by simp)
      (by simp) ?_ hsettled
    rw [hmoved, Scheduler.places_setPoint]

end DnsPro.WorkerRuntime
