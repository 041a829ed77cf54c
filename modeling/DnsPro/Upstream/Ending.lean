import DnsPro.Upstream.Attribution

/-!
# What the end of a query does

The log says which queries ended.  `Done` says what a step has done that
logs such an event: the task of the query is on the ready list, where it was not,
and the outcome is what it will read, or the frame of the task is gone.  One lemma
for each way in which a query ends, and `recorded_step` for all of them.
-/

namespace DnsPro.Upstream

open DnsPro.Protocol DnsPro.Runtime

namespace System

variable {env : Environment} {system next third base : System} {query other : QueryId} {id : UInt16}
  {outcome : QueryOutcome}

/-- A query that was pending in `system` has an outcome in `next`, and its task
has been woken. -/
structure Woke (system next : System) (query : QueryId) (id : UInt16) (outcome : QueryOutcome) :
    Prop where
  pending : (system.queries query).state = .pending
  id_eq : (system.queries query).transactionId = id
  result : ∃ result, result.outcome = outcome ∧ next.queries query =
    { system.queries query with task := none, owner := false, state := .completed, result := result }
  point : (next.scheduler.tasks (system.queries query).frame).point = .query query
  queued : (next.scheduler.tasks (system.queries query).frame).queued = true

/-- The task was not on the ready list, and stands there once. -/
structure Scheduled (system next : System) (query : QueryId) (id : UInt16)
    (outcome : QueryOutcome) : Prop extends Woke system next query id outcome where
  fresh : (system.queries query).frame ∉ system.scheduler.ready
  ready : next.scheduler.ready.count (system.queries query).frame = 1

/-- A query that was pending in `system` is gone in `next`, with the frame of its
task. -/
structure Abandoned (system next : System) (query : QueryId) (id : UInt16) : Prop where
  pending : (system.queries query).state = .pending
  id_eq : (system.queries query).transactionId = id
  result : next.queries query =
    { system.queries query with
      alive := false, task := none, owner := false, state := .completed
      result := { (system.queries query).result with outcome := .cancelled } }
  point : (next.scheduler.tasks (system.queries query).frame).point = .destroyed
  idle : (system.queries query).frame ∉ next.scheduler.ready

/-- What the step from `system` to `next` has done when it logs the event. -/
def Done (system next : System) : Event → Prop
  | .scheduled query id _ outcome => Scheduled system next query id outcome
  | .abandoned query id _ => Abandoned system next query id
  | _ => True

/-- The step from `system` to `next` has done what it logs, and a task that waits
for a query reads, once it is resumed, what the end of the query left. -/
structure Recorded (system next : System) : Prop where
  log : ∃ added, next.log = system.log ++ added ∧ ∀ event ∈ added, Done system next event
  settled : ∀ query, (system.queries query).state ≠ .pending →
    (system.scheduler.tasks (system.queries query).frame).point = .query query →
    (next.queries query).state = (system.queries query).state ∧
      (next.queries query).result = (system.queries query).result

/-! ## The calls that end queries -/

theorem Woke.mono (h : Woke base system query id outcome)
    (hqueries : next.queries query = system.queries query)
    (hstays : ∀ task, Scheduler.Stays task system.scheduler next.scheduler) :
    Woke base next query id outcome where
  pending := h.pending
  id_eq := h.id_eq
  result := hqueries ▸ h.result
  point := (hstays _).point.trans h.point
  queued := (hstays _).queued h.queued

/-- The query was the same at an earlier time. -/
theorem Woke.since (h : Woke system next query id outcome)
    (hbase : system.queries query = base.queries query) : Woke base next query id outcome := by
  obtain ⟨hpending, hid, hresult, hpoint, hqueued⟩ := h
  rw [hbase] at hpending hid hresult hpoint hqueued
  exact ⟨hpending, hid, hresult, hpoint, hqueued⟩

theorem Woke.scheduled (h : Woke system next query id outcome) (hinv : Inv none system)
    (hnext : next.scheduler.Ok) : Scheduled system next query id outcome where
  toWoke := h
  fresh := by
    rw [← hinv.scheduler.queued_iff, (hinv.pending query h.pending).waiting.queued]
    decide
  ready := List.count_eq_one_of_mem hnext.nodup ((hnext.queued_iff _).mp h.queued)

/-- A number of queries that were pending in `base` have been finished. -/
structure Since (base system : System) : Prop where
  log : ∃ added, system.log = base.log ++ added ∧ ∀ event ∈ added, event = .outOfMemory ∨
    ∃ query id now outcome, event = .scheduled query id now outcome ∧
      Woke base system query id outcome
  pending : ∀ query, (system.queries query).state = .pending →
    system.queries query = base.queries query
  settled : ∀ query, (base.queries query).state ≠ .pending →
    system.queries query = base.queries query
  stays : ∀ task, Scheduler.Stays task base.scheduler system.scheduler

theorem Since.refl (system : System) : Since system system where
  log := ⟨[], by simp, by simp⟩
  pending _ _ := rfl
  settled _ _ := rfl
  stays task := Scheduler.Stays.refl task _

/-- What does not change a query, and ends none. -/
theorem Since.mono (h : Since base system) (hqueries : next.queries = system.queries)
    (hlog : next.log = system.log ∨ next.log = system.log ++ [.outOfMemory])
    (hstays : ∀ task, Scheduler.Stays task system.scheduler next.scheduler) : Since base next := by
  obtain ⟨added, hadded, hdone⟩ := h.log
  have hstill : ∀ event ∈ added, event = .outOfMemory ∨ ∃ query id now outcome,
      event = .scheduled query id now outcome ∧ Woke base next query id outcome := by
    intro event hevent
    refine (hdone event hevent).imp id ?_
    rintro ⟨query, id, now, outcome, heq, hwoke⟩
    exact ⟨query, id, now, outcome, heq, hwoke.mono (congrFun hqueries query) hstays⟩
  refine ⟨?_, ?_, ?_, fun task => (h.stays task).trans (hstays task)⟩
  · rcases hlog with hlog | hlog
    · exact ⟨added, hlog.trans hadded, hstill⟩
    · refine ⟨added ++ [.outOfMemory], by rw [hlog, hadded, List.append_assoc], ?_⟩
      intro event hevent
      rw [List.mem_append, List.mem_singleton] at hevent
      exact hevent.elim (hstill event) .inl
  · rw [hqueries]
    exact h.pending
  · rw [hqueries]
    exact h.settled

/-- `finish` wakes the task of a pending query. -/
theorem Inv.finished_woke (env : Environment) {exempt : Option Timer} (h : Inv exempt system)
    (hpending : (system.queries query).state = .pending) (result : QueryResult)
    (timers : TimerQueue Timer) (retired : List RetiredId) :
    (∀ task, Scheduler.Stays task system.scheduler
      (finished env system query result timers retired).scheduler) ∧
    Woke system (finished env system query result timers retired) query
      (system.queries query).transactionId result.outcome := by
  have hwaiting := (h.pending query hpending).waiting
  refine ⟨fun task => ?_, hpending, rfl, ⟨result, rfl, Function.update_self _ _ _⟩, ?_, ?_⟩
  · by_cases hself : task = (system.queries query).frame
    · subst hself
      constructor <;> simp [finished, Scheduler.setTask]
    · exact .of_eq (Function.update_of_ne hself _ _)
  · simpa [finished, Scheduler.setTask] using hwaiting.point_eq
  · simp [finished, Scheduler.setTask]

theorem Since.finish {exempt : Option Timer} (h : Since base system) (hinv : Inv exempt system)
    (hpending : (system.queries query).state = .pending) (result : QueryResult)
    (timers : TimerQueue Timer) (retired : List RetiredId) :
    Since base (finished env system query result timers retired) := by
  obtain ⟨added, hadded, hdone⟩ := h.log
  obtain ⟨hstays, hwoke⟩ := hinv.finished_woke env hpending result timers retired
  have hbase := h.pending query hpending
  have hothers : ∀ other, other ≠ query →
      (System.finished env system query result timers retired).queries other =
        system.queries other :=
    fun other hne => Function.update_of_ne hne _ _
  refine ⟨?_, ?_, ?_, fun task => (h.stays task).trans (hstays task)⟩
  · refine ⟨added ++ [.scheduled query (system.queries query).transactionId (system.now env)
      result.outcome], ?_, ?_⟩
    · show system.log ++ _ = _
      rw [hadded, List.append_assoc]
    intro event hevent
    rw [List.mem_append, List.mem_singleton] at hevent
    rcases hevent with hevent | rfl
    · refine (hdone event hevent).imp id ?_
      rintro ⟨other, id, now, outcome, heq, hother⟩
      refine ⟨other, id, now, outcome, heq, hother.mono (hothers other ?_) hstays⟩
      -- a query that has ended is not pending
      rintro rfl
      obtain ⟨ended, -, hended⟩ := hother.result
      rw [hended] at hpending
      cases hpending
    · exact .inr ⟨query, _, _, _, rfl, hwoke.since hbase⟩
  · intro other hother
    by_cases hne : other = query
    · subst hne
      obtain ⟨ended, -, hended⟩ := hwoke.result
      rw [hended] at hother
      cases hother
    · rw [hothers other hne] at hother ⊢
      exact h.pending other hother
  · intro other hother
    have hne : other ≠ query := by
      rintro rfl
      exact hother (hbase ▸ hpending)
    rw [hothers other hne]
    exact h.settled other hother

theorem since_stable (env : Environment) (base : System) : Stable env (Since base) where
  frame _ _ hstays h := h.mono rfl (.inl rfl) hstays
  stats _ h := h.mono rfl (.inl rfl) fun task => Scheduler.Stays.refl task _
  outOfMemory h := h.mono rfl (.inr rfl) fun task => Scheduler.Stays.refl task _
  finish response errorNumber hinv h hpending hexempt houtcome _ := by
    obtain ⟨timers, retired, hfinish, -⟩ :=
      hinv.finish env hpending hexempt houtcome response errorNumber
    rw [hfinish]
    exact h.finish hinv hpending _ timers retired

theorem Since.recorded (h : Since system next) (hinv : Inv none system) (hnext : Inv none next) :
    Recorded system next where
  log := by
    obtain ⟨added, hadded, hdone⟩ := h.log
    refine ⟨added, hadded, fun event hevent => ?_⟩
    obtain rfl | ⟨query, id, now, outcome, rfl, hwoke⟩ := hdone event hevent
    · trivial
    · exact hwoke.scheduled hinv hnext.scheduler
  settled query hsettled _ := by
    rw [h.settled query hsettled]
    exact ⟨rfl, rfl⟩

/-! ## The frames of coroutines -/

/-- A step that neither ends a query nor changes one that has ended. -/
theorem recorded_of_eq (hlog : next.log = system.log) (hqueries : next.queries = system.queries) :
    Recorded system next where
  log := ⟨[], by rw [hlog, List.append_nil], by simp⟩
  settled query _ _ := by
    rw [hqueries]
    exact ⟨rfl, rfl⟩

/-! ## Sending a query -/

/-- No other query is made or changes. -/
structure Spares (query : QueryId) (system next : System) : Prop where
  queryCount : next.queryCount = system.queryCount
  others : ∀ other, other ≠ query → next.queries other = system.queries other

theorem Spares.refl (query : QueryId) (system : System) : Spares query system system :=
  ⟨rfl, fun _ _ => rfl⟩

theorem Spares.setQuery (h : Spares query system next) (hcount : third.queryCount = next.queryCount)
    {awaiter : QueryAwaiter}
    (hqueries : third.queries = Function.update next.queries query awaiter) :
    Spares query system third where
  queryCount := hcount.trans h.queryCount
  others other hne := by
    rw [hqueries, Function.update_of_ne hne]
    exact h.others other hne

theorem Spares.of_eq (h : Spares query system next) (hcount : third.queryCount = next.queryCount)
    (hqueries : third.queries = next.queries) : Spares query system third where
  queryCount := hcount.trans h.queryCount
  others other hne := by
    rw [hqueries]
    exact h.others other hne

theorem beginSend_spares (env : Environment) (system : System) (query : QueryId) (task : TaskId)
    (id : UInt16) (wire : Bytes) (armFails : Bool) (sent : SendOutcome) :
    Spares query system (system.beginSend env query task id wire armFails sent).2 := by
  have hrefl := Spares.refl query system
  have hback : ∀ timers,
      Spares query system ((linked system query task id timers).rollbackBegin env query) := by
    intro timers
    have hlinked : Spares query system (linked system query task id timers) :=
      hrefl.setQuery rfl rfl
    obtain ⟨hcount, hqueries⟩ :=
      rollbackBegin_queries env (linked system query task id timers) query
    exact hlinked.setQuery hcount hqueries
  unfold System.beginSend
  dsimp only [System.setQuery]
  split
  · exact hback _
  · split
    · exact hrefl.setQuery rfl rfl
    · exact (hback _).setQuery rfl rfl
  · exact hback _
  · exact hback _

theorem begin_spares (env : Environment) (system : System) (query : QueryId) (task : TaskId)
    (writeFails armFails : Bool) (sent : SendOutcome) :
    Spares query system (system.begin env query task writeFails armFails sent).2 := by
  have hrefl := Spares.refl query system
  unfold System.begin
  split
  · exact hrefl
  split
  · exact hrefl
  dsimp only
  split
  · exact hrefl.of_eq rfl rfl
  split
  · exact hrefl.of_eq rfl rfl
  split
  · exact hrefl.of_eq rfl rfl
  · have hsend := beginSend_spares env
    exact ⟨(hsend _ query task _ _ armFails sent).queryCount,
      (hsend _ query task _ _ armFails sent).others⟩

theorem awaitQuery_spares (env : Environment) (system : System) (query : QueryId)
    (writeFails armFails : Bool) (sent : SendOutcome) :
    Spares query system (system.awaitQuery env query writeFails armFails sent) := by
  have hbegin := begin_spares env system query (system.queries query).frame writeFails armFails sent
  have hrefl := Spares.refl query system
  unfold System.awaitQuery
  dsimp only
  split
  · exact hrefl.setQuery rfl rfl
  split
  · exact hrefl.setQuery rfl rfl
  split
  · exact hrefl.setQuery rfl rfl
  generalize system.begin env query (system.queries query).frame writeFails armFails sent = outcome
    at hbegin
  split
  · exact hbegin
  · exact hbegin.of_eq rfl rfl
  · exact hbegin.setQuery rfl rfl

theorem done_of_not_ends {event : Event} (hends : ∀ other, event.ends other = false) :
    Done system next event := by
  cases event with
  | scheduled query _ _ _ | abandoned query _ _ => simpa [Event.ends] using hends query
  | allocated | suspended | outOfMemory => trivial

/-- What is logged from `system` on ends no query. -/
def Silent (system next : System) : Prop :=
  ∃ added, next.log = system.log ++ added ∧ ∀ event ∈ added, ∀ other, event.ends other = false

theorem Silent.of_eq (h : Silent system next) (hlog : third.log = next.log) :
    Silent system third := by
  obtain ⟨added, hadded, hends⟩ := h
  exact ⟨added, hlog.trans hadded, hends⟩

theorem Silent.refl (system : System) : Silent system system := ⟨[], by simp, by simp⟩

theorem Silent.note (h : Silent system next) {event : Event}
    (hends : ∀ other, event.ends other = false) (hlog : third.log = next.log ++ [event]) :
    Silent system third := by
  obtain ⟨added, hadded, hsilent⟩ := h
  refine ⟨added ++ [event], by rw [hlog, hadded, List.append_assoc], ?_⟩
  intro last hlast
  rw [List.mem_append, List.mem_singleton] at hlast
  rcases hlast with hold | rfl
  · exact hsilent last hold
  · exact hends

theorem BeginTrace.silent (h : BeginTrace env query system next) : Silent system next := by
  have hgo : ∀ {channel : UpstreamChannel} {readings : Nat} {before : System},
      Silent system before → Continues channel readings before.log query next →
      Silent system next := by
    intro channel readings before hbefore hnext
    rcases hnext.log with hlog | hlog
    · exact hbefore.of_eq hlog
    · exact hbefore.note (fun _ => rfl) hlog
  cases h with
  | refused heq => exact heq ▸ Silent.refl system
  | overloaded channel _ hnext => exact hgo (Silent.refl system) hnext
  | allocated id channel _ hnext =>
    have hallocated : Silent system
        { system with log := system.log ++ [.allocated query id (system.now env)] } :=
      (Silent.refl system).note (fun _ => rfl) rfl
    exact hgo hallocated hnext

theorem Inv.awaitQuery_silent (env : Environment) (h : Inv none system)
    (halive : (system.queries query).alive = true)
    (hexecuting : system.executing (system.queries query).frame) (writeFails armFails : Bool)
    (sent : SendOutcome) : Silent system (system.awaitQuery env query writeFails armFails sent) := by
  have hrefl := Silent.refl system
  unfold System.awaitQuery
  dsimp only
  split
  · exact hrefl.of_eq rfl
  split
  · exact hrefl.of_eq rfl
  split
  · exact hrefl.of_eq rfl
  rename_i hfresh
  have hidle : (system.queries query).state = .idle := by
    by_contra hstate
    exact hfresh (.inr hstate)
  have hbegin := fun result next hresult =>
    (Idle.begin env ⟨h, halive, hidle⟩ hexecuting writeFails armFails sent result next
      hresult).1.silent
  split
  · rename_i next hresult
    exact hbegin _ _ hresult
  · rename_i next hresult
    exact (hbegin _ _ hresult).of_eq rfl
  · rename_i result next _ hresult
    exact (hbegin _ _ hresult).of_eq rfl

theorem Inv.awaitQuery_recorded (env : Environment) (h : Inv none system)
    (halive : (system.queries query).alive = true)
    (hexecuting : system.executing (system.queries query).frame) (writeFails armFails : Bool)
    (sent : SendOutcome) :
    Recorded system (system.awaitQuery env query writeFails armFails sent) where
  log := by
    obtain ⟨added, hadded, hends⟩ := h.awaitQuery_silent env halive hexecuting writeFails armFails sent
    exact ⟨added, hadded, fun event hevent => done_of_not_ends (hends event hevent)⟩
  settled other _ hpoint := by
    have hne : other ≠ query := by
      rintro rfl
      rw [hexecuting] at hpoint
      cases hpoint
    rw [(awaitQuery_spares env system query writeFails armFails sent).others other hne]
    exact ⟨rfl, rfl⟩

/-- A query that is made is idle, as what was there before. -/
theorem Inv.made_recorded (h : Inv none system) {awaiter : QueryAwaiter}
    (hlog : next.log = system.log)
    (hqueries : next.queries = Function.update system.queries system.queryCount awaiter)
    (hidle : awaiter.state = .idle) (hresult : awaiter.result = {}) : Recorded system next where
  log := ⟨[], by rw [hlog, List.append_nil], by simp⟩
  settled other _ _ := by
    rw [hqueries]
    by_cases hne : other = system.queryCount
    · subst hne
      rw [h.unmade _ (Nat.le_refl _), Function.update_self]
      exact ⟨hidle, hresult⟩
    · rw [Function.update_of_ne hne]
      exact ⟨rfl, rfl⟩

/-- A pending query that is destroyed goes with the frame around it. -/
theorem Inv.destroyQuery_recorded (env : Environment) (h : Inv none system) (query : QueryId) :
    Recorded system (system.destroyQuery env query) := by
  by_cases hpending : (system.queries query).state = .pending
  · have hquery := h.pending query hpending
    obtain ⟨timers, retired, hdestroy, -, -⟩ := h.destroyQuery_pending env hpending
    rw [hdestroy]
    refine ⟨⟨[.abandoned query (system.queries query).transactionId (system.now env)], rfl, ?_⟩, ?_⟩
    · intro event hevent
      rw [List.mem_singleton.mp hevent]
      refine ⟨hpending, rfl, Function.update_self _ _ _, by simp, ?_⟩
      show (system.queries query).frame ∉ system.scheduler.ready
      rw [← h.scheduler.queued_iff, hquery.waiting.queued]
      decide
    · intro other hsettled _
      have hne : other ≠ query := by
        rintro rfl
        exact hsettled hpending
      simp [hne]
  · rw [h.destroyQuery_eq env hpending]
    refine ⟨⟨[], (List.append_nil _).symm, by simp⟩, fun other _ _ => ?_⟩
    by_cases hne : other = query
    · subst hne
      simp [System.setQuery]
    · simp [System.setQuery, hne]

/-! ## Steps -/

/-- Every step has done what it logs. -/
theorem recorded_step (env : Environment) (label : Label) (h : Inv none system)
    (hstep : step env system label = some next) : Recorded system next := by
  have hnext := inv_step env label h hstep
  have hkept := (since_stable env system).kept
  have hsince : Inv none system ∧ Since system system := ⟨h, Since.refl system⟩
  cases label with
  | start socketFd config discarded faulty =>
    obtain rfl := Option.some.inj hstep
    rw [h.start_eq]
    split
    · exact recorded_of_eq rfl rfl
    split
    · exact recorded_of_eq rfl rfl
    · obtain ⟨channel, readings, hprepared⟩ := preparePool_frame env system config
      rw [hprepared]
      exact recorded_of_eq rfl rfl
  | stop =>
    obtain rfl := Option.some.inj hstep
    rw [h.stop_eq]
    split
    · exact recorded_of_eq rfl rfl
    · exact recorded_of_eq rfl rfl
  | query | queryUntil =>
    obtain ⟨-, rfl⟩ := Transition.enabled hstep
    exact h.made_recorded rfl rfl rfl rfl
  | awaitQuery query writeFails armFails sent =>
    obtain ⟨⟨halive, hexecuting⟩, rfl⟩ := Transition.enabled hstep
    exact h.awaitQuery_recorded env halive hexecuting writeFails armFails sent
  | destroyQuery query =>
    obtain ⟨-, rfl⟩ := Transition.enabled hstep
    exact h.destroyQuery_recorded env query
  | handleDatagram packet truncated allocationFails =>
    obtain rfl := Option.some.inj hstep
    exact (hkept.handleDatagram hsince packet truncated allocationFails).2.recorded h hnext
  | drain budget received =>
    obtain rfl := Option.some.inj hstep
    exact (hkept.drain hsince budget received).2.recorded h hnext
  | failAll outcome errorNumber =>
    obtain rfl := Option.some.inj hstep
    exact (hkept.failAll hsince outcome errorNumber).2.recorded h hnext
  | expire now budget =>
    obtain rfl := Option.some.inj hstep
    exact (hkept.expire hsince now budget).2.recorded h hnext
  | cancelTimers =>
    obtain rfl := Option.some.inj hstep
    exact (hkept.cancelTimers hsince).2.recorded h hnext
  | close | startTimers | closeTimers | stopTimers | clearReady | requestStop =>
    obtain rfl := Option.some.inj hstep
    exact recorded_of_eq rfl rfl
  | awaitSleep sleep armFails =>
    obtain ⟨-, rfl⟩ := Transition.enabled hstep
    obtain ⟨sleeps, scheduler, timers, hsleep⟩ := awaitSleep_frame system sleep armFails
    rw [hsleep]
    exact recorded_of_eq rfl rfl
  | resume =>
    obtain ⟨scheduler, -, rfl⟩ := Option.map_eq_some_iff.mp hstep
    exact recorded_of_eq rfl rfl
  | sleepUntil | destroySleep | spawn | yield | awaitTask | complete =>
    obtain ⟨-, rfl⟩ := Transition.enabled hstep
    exact recorded_of_eq rfl rfl

end System

end DnsPro.Upstream
