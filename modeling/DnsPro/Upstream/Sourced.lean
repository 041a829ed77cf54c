import DnsPro.Upstream.Attribution

/-!
# Every response was received

`came` is any fact about packets that holds of those that are handed to `handle_datagram`.
Then every query that was answered was answered by a packet of which it holds, and which the
parser and `validate_upstream_response` accept for the question.  No other operation answers a
query.
-/

namespace DnsPro.Upstream

open DnsPro.Protocol DnsPro.Runtime

/-- The packet is a response to the question, and these are its bytes under the id of the
client. -/
structure Relayed (packet : Bytes) (header : Header) (question : Question)
    (response : Bytes) : Prop where
  accepted : ∃ message, parseMessage packet System.upstreamLimits = .ok message ∧
    validateUpstreamResponse message message.header.id header.opcode question = .ok ()
  response_eq : response = withTransactionId packet header.id

/-- The query has a response only if it was received. -/
def QueryAwaiter.Heard (came : Bytes → Prop) (awaiter : QueryAwaiter) : Prop :=
  awaiter.state = .completed → awaiter.result.outcome = .response →
    ∃ packet, came packet ∧
      Relayed packet awaiter.header awaiter.question awaiter.result.response

namespace System

variable {env : Environment} {system next : System} {query other : QueryId}
  {came came' : Bytes → Prop}

def Sourced (came : Bytes → Prop) (system : System) : Prop :=
  ∀ query, (system.queries query).Heard came

theorem Sourced.mono (h : Sourced came system) (hcame : ∀ packet, came packet → came' packet) :
    Sourced came' system := by
  intro query hstate houtcome
  obtain ⟨packet, hpacket, hrelayed⟩ := h query hstate houtcome
  exact ⟨packet, hcame packet hpacket, hrelayed⟩

theorem Sourced.of_eq (h : Sourced came system) (hqueries : next.queries = system.queries) :
    Sourced came next := by
  intro query
  rw [hqueries]
  exact h query

theorem Sourced.setQuery (h : Sourced came system) {awaiter : QueryAwaiter}
    (hqueries : next.queries = Function.update system.queries query awaiter)
    (hheard : awaiter.Heard came) : Sourced came next := by
  intro other
  rw [hqueries]
  by_cases hself : other = query
  · rw [hself, Function.update_self]
    exact hheard
  · rw [Function.update_of_ne hself]
    exact h other

theorem heard_of_state {awaiter : QueryAwaiter} (hstate : awaiter.state ≠ .completed) :
    awaiter.Heard came := fun hcompleted => absurd hcompleted hstate

theorem heard_of_outcome {awaiter : QueryAwaiter}
    (houtcome : awaiter.result.outcome ≠ .response) : awaiter.Heard came :=
  fun _ hresponse => absurd hresponse houtcome

theorem sourced_initial : Sourced came initial :=
  fun _ => heard_of_state (by simp [initial])

/-! ## Ending a query -/

theorem unlink_queries (env : Environment) (system : System) (query : QueryId) :
    (system.unlink env query).queries = system.queries := by
  unfold unlink
  rfl

/-- `finish` answers a query with what it is given. -/
theorem Sourced.finish (h : Sourced came system) {outcome : QueryOutcome} {response : Bytes}
    {errorNumber : Int} (hgiven : outcome = .response → ∃ packet, came packet ∧
      Relayed packet (system.queries query).header (system.queries query).question response) :
    Sourced came (system.finish env query outcome response errorNumber).2 := by
  have hended : ∀ state : System, state.queries =
      Function.update (system.unlink env query).queries query { system.queries query with
        task := none, owner := false, state := .completed
        result := ⟨outcome, response, errorNumber⟩ } → Sourced came state := by
    intro state hqueries
    rw [unlink_queries] at hqueries
    exact h.setQuery hqueries fun _ houtcome => hgiven houtcome
  unfold System.finish
  dsimp only
  split
  · exact h
  split
  · exact hended _ rfl
  split
  · exact hended _ rfl
  split
  · exact hended _ rfl
  · exact hended _ rfl

theorem Sourced.abandon (h : Sourced came system) (env : Environment) (query : QueryId) :
    Sourced came (system.abandon env query) := by
  have hended : ∀ state : System, state.queries =
      Function.update (system.unlink env query).queries query { system.queries query with
        owner := false, task := none, state := .completed
        result := { (system.queries query).result with outcome := .cancelled } } →
      Sourced came state := by
    intro state hqueries
    rw [unlink_queries] at hqueries
    exact h.setQuery hqueries (heard_of_outcome (by simp))
  unfold System.abandon
  dsimp only
  split
  · exact h
  rename_i hguard
  rw [not_or, not_not] at hguard
  split
  · exact h.setQuery rfl (heard_of_state (by simp [hguard.2]))
  · exact hended _ rfl

theorem Sourced.destroyQuery (h : Sourced came system) (env : Environment) (query : QueryId) :
    Sourced came (system.destroyQuery env query) := by
  have habandoned := h.abandon env query
  unfold System.destroyQuery
  dsimp only
  split
  · exact habandoned.setQuery rfl (habandoned query)
  · exact h.setQuery rfl (h query)

/-! ## Beginning a query -/

theorem Sourced.rollbackBegin (h : Sourced came system) :
    Sourced came (system.rollbackBegin env query) :=
  h.setQuery (rollbackBegin_queries env system query).2 (heard_of_state (by simp))

theorem Sourced.beginSend (h : Sourced came system) (task : TaskId) (id : UInt16) (wire : Bytes)
    (armFails : Bool) (sent : SendOutcome) :
    Sourced came (system.beginSend env query task id wire armFails sent).2 := by
  have hlinked : ∀ timers, Sourced came (system.linked query task id timers) :=
    fun timers => h.setQuery rfl (heard_of_state (by simp))
  unfold System.beginSend
  dsimp only [System.setQuery]
  generalize system.timers.arm (.query query) (system.queries query).deadline true armFails =
    attempt
  obtain ⟨result, timers⟩ := attempt
  dsimp only
  have hback : Sourced came ((system.linked query task id timers).rollbackBegin env query) :=
    (hlinked timers).rollbackBegin
  split
  · exact hback
  · split
    · exact (hlinked timers).of_eq rfl
    · refine hback.setQuery rfl (heard_of_state ?_)
      dsimp only
      have hidle : (((system.linked query task id timers).rollbackBegin env query).queries
          query).state = .idle := by
        rw [(rollbackBegin_queries env _ query).2, Function.update_self]
      exact hidle.symm ▸ by decide
  · exact hback
  · exact hback

theorem Sourced.begin (h : Sourced came system) (env : Environment) (query : QueryId)
    (task : TaskId) (writeFails armFails : Bool) (sent : SendOutcome) :
    Sourced came (system.begin env query task writeFails armFails sent).2 := by
  have hsend : ∀ state : System, state.queries = system.queries → ∀ id wire,
      Sourced came (state.beginSend env query task id wire armFails sent).2 :=
    fun state hqueries id wire => (h.of_eq hqueries).beginSend task id wire armFails sent
  unfold System.begin
  split
  · exact h
  split
  · exact h
  dsimp only
  split
  · exact h.of_eq rfl
  split
  · exact h.of_eq rfl
  split
  · exact h.of_eq rfl
  · refine hsend _ ?_ _ _
    rfl

theorem Sourced.awaitQuery (h : Sourced came system) (env : Environment) (query : QueryId)
    (writeFails armFails : Bool) (sent : SendOutcome) :
    Sourced came (system.awaitQuery env query writeFails armFails sent) := by
  unfold System.awaitQuery
  dsimp only
  split
  · exact h.setQuery rfl (heard_of_state (by simp))
  split
  · exact h.setQuery rfl (heard_of_outcome (by simp))
  split
  · exact h.setQuery rfl (heard_of_state (by simp))
  have hbegin := h.begin env query (system.queries query).frame writeFails armFails sent
  generalize system.begin env query (system.queries query).frame writeFails armFails sent = outcome
    at hbegin
  split
  · exact hbegin
  · exact hbegin.of_eq rfl
  · rename_i result next hsuspended
    refine hbegin.setQuery rfl ?_
    cases result with
    | suspended => exact absurd rfl hsuspended
    | closed | overloaded | invalidQuery | sendError => exact heard_of_outcome (by
        simp [QueryAwaiter.refused])
    | wrongScheduler | timerFailure => exact heard_of_state (by simp [QueryAwaiter.refused])

theorem Sourced.makeQuery (h : Sourced came system) (env : Environment) (task : TaskId)
    (header : Header) (question : Question) :
    Sourced came (system.query env task header question) :=
  h.setQuery rfl (heard_of_state (by simp))

/-! ## What the event loop does -/

theorem Sourced.handleDatagram (h : Sourced came system) {packet : Bytes} (hcame : came packet)
    (truncated allocationFails : Bool) :
    Sourced came (system.handleDatagram env packet truncated allocationFails).2 := by
  unfold System.handleDatagram
  split
  · exact h
  split
  · exact h.of_eq rfl
  split
  · exact h.of_eq rfl
  rename_i id hid
  split
  · exact h.of_eq rfl
  split
  · exact h.of_eq rfl
  split
  · have hfailed : Sourced came
        { system.recordFailure with log := system.log ++ [Event.outOfMemory] } := h.of_eq rfl
    exact hfailed.finish fun houtcome => by cases houtcome
  · unfold completeWith
    dsimp only
    split
    · exact h.of_eq rfl
    rename_i message hparse
    split
    · exact h.of_eq rfl
    rename_i hvalid
    rw [(parsed_of_parseMessage hparse).wireImage_eq, rewriteTransactionId_eq hid]
    refine h.finish fun _ => ⟨packet, hcame, ⟨message, hparse, ?_⟩, rfl⟩
    rw [transactionId_of_parse hparse] at hid
    rw [Option.some.inj hid]
    exact hvalid

theorem Sourced.failAll (h : Sourced came system) (outcome : QueryOutcome) (errorNumber : Int) :
    Sourced came (system.failAll env outcome errorNumber).2 := by
  unfold System.failAll
  split
  · exact h
  rename_i hguard
  refine List.foldlRecOn (motive := fun state : Nat × System => Sourced came state.2) _ _ h ?_
  intro state h index _
  split
  · exact h
  · refine h.finish ?_
    rintro rfl
    exact absurd (.inr ⟨by decide, by decide⟩) hguard

theorem Sourced.completeTimer (h : Sourced came system) {timer : Timer}
    (hinv : Inv (some timer) system) (completion : TimerCompletion) :
    Sourced came (completeTimer env system timer completion).2 := by
  cases timer with
  | query query =>
    obtain ⟨outcome, -, hresponse, hcomplete⟩ := hinv.deadlineComplete_eq env completion
    rw [System.completeTimer, hcomplete]
    exact h.finish fun houtcome => absurd houtcome hresponse
  | sleep sleep =>
    obtain ⟨sleeps, scheduler, -, hsleep⟩ := completeSleep_frame system sleep completion
    rw [System.completeTimer, hsleep]
    exact h.of_eq rfl

/-- What completing the front of the timer queue keeps. -/
theorem Sourced.completeFront (hinv : Inv none system) (h : Sourced came system)
    (completion : TimerCompletion) {timer : Timer} (result : DispatchResult)
    (hfront : system.timers.heap.nodes.head? = some timer) :
    Inv none ((host env).completeFront completion timer system result).1 ∧
      Sourced came ((host env).completeFront completion timer system result).1 := by
  obtain ⟨heq, hnext⟩ := hinv.completeFront_eq env completion result hfront
  have hremoved : Sourced came { system with timers := system.timers.removeAt 0 } := h.of_eq rfl
  rw [heq]
  exact ⟨hnext, hremoved.completeTimer (hinv.removeFront hfront) completion⟩

/-- Expiring and cancelling the timers complete the front over and over. -/
theorem Sourced.timers (h : Sourced came system) (hinv : Inv none system) :
    (∀ now budget, Sourced came ((host env).expire now budget system).1) ∧
      Sourced came ((host env).cancelAll system).1 := by
  let both (state : System) : Prop := Inv none state ∧ Sourced came state
  have hfront : ∀ (state : System) (completion : TimerCompletion) (timer : Timer)
      (result : DispatchResult), both state → state.timers.heap.nodes.head? = some timer →
      both ((host env).completeFront completion timer state result).1 :=
    fun _ completion _ result hstate hhead =>
      hstate.2.completeFront hstate.1 completion result hhead
  have hboth : both system := ⟨hinv, h⟩
  exact ⟨fun now budget => (TimerQueue.Host.expire_invariant hfront now budget hboth).2,
    (TimerQueue.Host.cancelAll_invariant hfront hboth).2⟩

/-- The packets that the operation hands to `handle_datagram`, or may hand to it. -/
def Label.packets : Label → List Bytes
  | .handleDatagram packet _ _ => [packet]
  | .drain _ received => received.filterMap fun outcome => match outcome with
    | .datagram payload _ _ => some (payload.take upstreamReceiveBufferSize)
    | _ => none
  | _ => []

theorem Sourced.drain (h : Sourced came system) (budget : Nat) (received : List ReceiveOutcome)
    (hcame : ∀ packet ∈ (Label.drain budget received).packets, came packet) :
    Sourced came (system.drain env budget received) := by
  unfold System.drain
  split
  · exact h
  rename_i hrunning
  clear hrunning
  -- the loop is over the outcomes, and the budget goes down with the datagrams
  induction received generalizing budget system with
  | nil => rwa [drainLoop]
  | cons outcome rest ih =>
    cases budget with
    | zero => rwa [drainLoop]; simp
    | succ budget =>
      cases outcome with
      | interrupted => exact ih h (budget + 1) hcame
      | wouldBlock => exact h
      | failed errorNumber => exact h.failAll _ _
      | datagram payload truncatedFlag allocationFails =>
        have hboth := List.forall_mem_cons.mp hcame
        exact ih (h.handleDatagram hboth.1 _ _) budget hboth.2

/-- A query is answered by nothing but a packet that the operation read. -/
theorem Sourced.step (h : Sourced came system) (hinv : Inv none system) {label : Label}
    (hstep : System.step env system label = some next)
    (hcame : ∀ packet ∈ label.packets, came packet) : Sourced came next := by
  cases label with
  | start socketFd config discarded faulty =>
    obtain rfl := Option.some.inj hstep
    rw [hinv.start_eq]
    split
    · exact h
    split
    · exact h.of_eq rfl
    · obtain ⟨channel, readings, hprepared⟩ := preparePool_frame env system config
      rw [hprepared]
      exact h.of_eq rfl
  | stop =>
    obtain rfl := Option.some.inj hstep
    rw [hinv.stop_eq]
    split
    · exact h
    · exact h.of_eq rfl
  | query task header question =>
    obtain ⟨-, rfl⟩ := Transition.enabled hstep
    exact h.makeQuery env task header question
  | queryUntil task header question deadline =>
    obtain ⟨-, rfl⟩ := Transition.enabled hstep
    exact h.setQuery rfl (heard_of_state (by simp))
  | awaitQuery other writeFails armFails sent =>
    obtain ⟨-, rfl⟩ := Transition.enabled hstep
    exact h.awaitQuery env other writeFails armFails sent
  | destroyQuery other =>
    obtain ⟨-, rfl⟩ := Transition.enabled hstep
    exact h.destroyQuery env other
  | handleDatagram packet truncated allocationFails =>
    obtain rfl := Option.some.inj hstep
    exact h.handleDatagram (hcame packet (List.mem_singleton_self packet)) truncated allocationFails
  | drain budget received =>
    obtain rfl := Option.some.inj hstep
    exact h.drain budget received hcame
  | failAll outcome errorNumber =>
    obtain rfl := Option.some.inj hstep
    exact h.failAll outcome errorNumber
  | expire now budget =>
    obtain rfl := Option.some.inj hstep
    exact (h.timers hinv).1 now budget
  | cancelTimers =>
    obtain rfl := Option.some.inj hstep
    exact (h.timers hinv).2
  | close | startTimers | closeTimers | stopTimers | clearReady | requestStop =>
    obtain rfl := Option.some.inj hstep
    exact h.of_eq rfl
  | awaitSleep sleep armFails =>
    obtain ⟨-, rfl⟩ := Transition.enabled hstep
    obtain ⟨sleeps, scheduler, timers, hsleep⟩ := awaitSleep_frame system sleep armFails
    rw [hsleep]
    exact h.of_eq rfl
  | resume =>
    obtain ⟨scheduler, -, rfl⟩ := Option.map_eq_some_iff.mp hstep
    exact h.of_eq rfl
  | sleepUntil | destroySleep | spawn | yield | awaitTask | complete =>
    obtain ⟨-, rfl⟩ := Transition.enabled hstep
    exact h.of_eq rfl

end System

end DnsPro.Upstream
