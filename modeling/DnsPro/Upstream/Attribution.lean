import DnsPro.Upstream.Steps

/-!
# Where a result comes from

A query keeps the header and the question it was made with, and when it is
completed with a response, the bytes come from a datagram that was accepted for
this question.
-/

namespace DnsPro.Upstream

open DnsPro.Protocol DnsPro.Runtime

namespace System

variable {env : Environment} {system next : System} {query other : QueryId} {task : TaskId}
  {header : Header} {question : Question}

/-- The task made the query with this header and question, and its response, if
it has one, answers the question. -/
structure Asked (query : QueryId) (task : TaskId) (header : Header) (question : Question)
    (system : System) : Prop where
  made : query < system.queryCount
  frame_eq : (system.queries query).frame = task
  header_eq : (system.queries query).header = header
  question_eq : (system.queries query).question = question
  answered : (system.queries query).state = .completed →
    (system.queries query).result.outcome = .response →
    ∃ packet message, parseMessage packet upstreamLimits = .ok message ∧
      validateUpstreamResponse message message.header.id header.opcode question = .ok () ∧
      (system.queries query).result.response = withTransactionId packet header.id

theorem Asked.frame (h : Asked query task header question system)
    (hcount : system.queryCount ≤ next.queryCount)
    (hqueries : next.queries query = system.queries query) : Asked query task header question next := by
  constructor
  · exact h.made.trans_le hcount
  · rw [hqueries, h.frame_eq]
  · rw [hqueries, h.header_eq]
  · rw [hqueries, h.question_eq]
  · rw [hqueries]
    exact h.answered

/-- A query changes, but is not completed with another response. -/
theorem Asked.setQuery (h : Asked query task header question system) {awaiter : QueryAwaiter}
    (hcount : system.queryCount ≤ next.queryCount)
    (hqueries : next.queries = Function.update system.queries other awaiter)
    (hframe : awaiter.frame = (system.queries other).frame)
    (hheader : awaiter.header = (system.queries other).header)
    (hquestion : awaiter.question = (system.queries other).question)
    (hresult : awaiter.state = .completed → awaiter.result.outcome = .response →
      (system.queries other).state = .completed ∧
        awaiter.result = (system.queries other).result) :
    Asked query task header question next := by
  by_cases hself : query = other
  · subst hself
    have hnext : next.queries query = awaiter := by rw [hqueries, Function.update_self]
    constructor
    · exact h.made.trans_le hcount
    · rw [hnext, hframe, h.frame_eq]
    · rw [hnext, hheader, h.header_eq]
    · rw [hnext, hquestion, h.question_eq]
    · rw [hnext]
      intro hstate houtcome
      obtain ⟨hcompleted, hsame⟩ := hresult hstate houtcome
      rw [hsame] at houtcome ⊢
      exact h.answered hcompleted houtcome
  · exact h.frame hcount (by rw [hqueries, Function.update_of_ne hself])

/-! ## Ending a query -/

theorem asked_stable (env : Environment) (query : QueryId) (task : TaskId) (header : Header)
    (question : Question) :
    Stable env (Asked query task header question) where
  frame _ _ _ h := h.frame (Nat.le_refl _) rfl
  stats _ h := h.frame (Nat.le_refl _) rfl
  outOfMemory h := h.frame (Nat.le_refl _) rfl
  finish {exempt system ended outcome} response errorNumber hinv h hpending hexempt houtcome
      hanswers := by
    obtain ⟨timers, retired, hfinish, -, -, -⟩ :=
      hinv.finish env hpending hexempt houtcome response errorNumber
    rw [hfinish]
    by_cases hself : query = ended
    · subst hself
      have hnext : (finished env system query ⟨outcome, response, errorNumber⟩ timers
          retired).queries query = { system.queries query with
            task := none, owner := false, state := .completed
            result := ⟨outcome, response, errorNumber⟩ } := Function.update_self _ _ _
      constructor
      · exact h.made
      · rw [hnext]
        exact h.frame_eq
      · rw [hnext]
        exact h.header_eq
      · rw [hnext]
        exact h.question_eq
      · rw [hnext]
        intro _ hresponse
        obtain ⟨id, packet, hpacket, rfl⟩ := hanswers hresponse
        obtain ⟨message, hparse, hvalid⟩ := hpacket.accepted
        have hid := hpacket.id_eq
        rw [transactionId_of_parse hparse] at hid
        obtain rfl := Option.some.inj hid
        rw [h.header_eq, h.question_eq] at hvalid
        exact ⟨packet, message, hparse, hvalid, by rw [h.header_eq]⟩
    · exact h.frame (Nat.le_refl _) (Function.update_of_ne hself _ _)

theorem Asked.destroyQuery (h : Asked query task header question system) (hinv : Inv none system) :
    Asked query task header question (system.destroyQuery env other) := by
  have habandon : Asked query task header question (system.abandon env other) := by
    by_cases hpending : (system.queries other).state = .pending
    · obtain ⟨timers, retired, habandon, -, -, -⟩ := hinv.abandon env hpending
      rw [habandon]
      exact h.setQuery (Nat.le_refl _) rfl rfl rfl rfl (by simp)
    · unfold System.abandon
      simpa [hpending] using h
  unfold System.destroyQuery
  dsimp only
  split
  · exact habandon.setQuery (Nat.le_refl _) rfl rfl rfl rfl fun hstate _ => ⟨hstate, rfl⟩
  · exact h.setQuery (Nat.le_refl _) rfl rfl rfl rfl fun hstate _ => ⟨hstate, rfl⟩

/-! ## Beginning a query -/

theorem rollbackBegin_queries (env : Environment) (system : System) (query : QueryId) :
    (system.rollbackBegin env query).queryCount = system.queryCount ∧
      (system.rollbackBegin env query).queries = Function.update system.queries query
        { system.queries query with owner := false, task := none, state := .idle } := by
  unfold rollbackBegin
  dsimp only
  split_ifs
  all_goals exact ⟨rfl, rfl⟩

theorem Asked.rollbackBegin (h : Asked query task header question system) :
    Asked query task header question (system.rollbackBegin env other) := by
  obtain ⟨hcount, hqueries⟩ := rollbackBegin_queries env system other
  exact h.setQuery hcount.ge hqueries rfl rfl rfl (by simp)

theorem Asked.beginSend (h : Asked query task header question system) (sender : TaskId)
    (id : UInt16) (wire : Bytes) (armFails : Bool) (sent : SendOutcome) :
    Asked query task header question
      (system.beginSend env other sender id wire armFails sent).2 := by
  have hlinked : ∀ timers,
    Asked query task header question (system.linked other sender id timers) :=
    fun timers => h.setQuery (Nat.le_refl _) rfl rfl rfl rfl (by simp)
  unfold System.beginSend
  dsimp only [System.setQuery]
  generalize system.timers.arm (.query other) (system.queries other).deadline true armFails = attempt
  obtain ⟨result, timers⟩ := attempt
  dsimp only
  have hback : Asked query task header question
      ((system.linked other sender id timers).rollbackBegin env other) :=
        (hlinked timers).rollbackBegin
  split
  · exact hback
  · split
    · exact (hlinked timers).frame (Nat.le_refl _) rfl
    · have hidle : (((system.linked other sender id timers).rollbackBegin env other).queries
          other).state = .idle := by
        rw [(rollbackBegin_queries env _ other).2, Function.update_self]
      refine hback.setQuery (Nat.le_refl _) rfl rfl rfl rfl fun hstate => ?_
      exact absurd (hidle.symm.trans hstate) (by decide)
  · exact hback
  · exact hback

theorem Asked.begin (env : Environment) (h : Asked query task header question system)
    (other : QueryId) (sender : TaskId) (writeFails armFails : Bool) (sent : SendOutcome) :
    Asked query task header question
      (system.begin env other sender writeFails armFails sent).2 := by
  unfold System.begin
  split
  · exact h
  split
  · exact h
  dsimp only
  generalize system.channel.allocateId env (system.now env) = allocation
  obtain ⟨id, channel⟩ := allocation
  dsimp only
  split
  · exact h.frame (Nat.le_refl _) rfl
  rename_i id
  split
  · exact h.frame (Nat.le_refl _) rfl
  split
  · exact h.frame (Nat.le_refl _) rfl
  · have hframe : Asked query task header question { system with
        channel := channel, readings := system.readings + 1
        log := system.log ++ [Event.allocated other id (system.now env)] } :=
      h.frame (Nat.le_refl _) rfl
    exact hframe.beginSend sender id _ armFails sent

theorem Asked.awaitQuery (env : Environment) (h : Asked query task header question system)
    (other : QueryId) (writeFails armFails : Bool) (sent : SendOutcome) :
    Asked query task header question (system.awaitQuery env other writeFails armFails sent) := by
  unfold System.awaitQuery
  dsimp only
  split
  · exact h.setQuery (Nat.le_refl _) rfl rfl rfl rfl (by simp)
  split
  · exact h.setQuery (Nat.le_refl _) rfl rfl rfl rfl (by simp)
  split
  · exact h.setQuery (Nat.le_refl _) rfl rfl rfl rfl (by simp)
  have hbegin := h.begin env other (system.queries other).frame writeFails armFails sent
  generalize system.begin env other (system.queries other).frame writeFails armFails sent =
    outcome at hbegin
  obtain ⟨result, next⟩ := outcome
  dsimp only at hbegin ⊢
  split
  · rename_i heq
    obtain ⟨rfl, rfl⟩ := Prod.mk.inj heq
    exact hbegin
  · rename_i heq
    obtain ⟨rfl, rfl⟩ := Prod.mk.inj heq
    exact hbegin.frame (Nat.le_refl _) rfl
  · rename_i result' next' hsuspended heq
    obtain ⟨rfl, rfl⟩ := Prod.mk.inj heq
    refine hbegin.setQuery (Nat.le_refl _) rfl ?_ ?_ ?_ ?_
    · cases result' <;> rfl
    · cases result' <;> rfl
    · cases result' <;> rfl
    · cases result' <;> simp [QueryAwaiter.refused]
      exact absurd rfl hsuspended

/-! ## Steps -/

theorem preparePool_frame (env : Environment) (system : System) (config : ChannelConfig) :
    ∃ channel readings, system.preparePool env config =
      { system with channel := channel, readings := readings } := by
  unfold System.preparePool
  split
  · exact ⟨_, _, rfl⟩
  · exact ⟨_, _, rfl⟩

theorem asked_query (env : Environment) (system : System) (task : TaskId) (header : Header)
    (question : Question) :
    Asked system.queryCount task header question (system.query env task header question) := by
  have hnew : (system.query env task header question).queries system.queryCount =
      { alive := true, frame := task, owner := true, header := header, question := question
        deadline := system.queryDeadline env } := Function.update_self _ _ _
  constructor
  · exact Nat.lt_succ_self _
  · rw [hnew]
  · rw [hnew]
  · rw [hnew]
  · rw [hnew]
    intro hstate
    cases hstate

theorem Asked.step (h : Asked query task header question system) (hinv : Inv none system)
    (label : Label)
    (hstep : System.step env system label = some next) : Asked query task header question next := by
  have hkept := (asked_stable env query task header question).kept
  cases label with
  | start socketFd config discarded faulty =>
    obtain rfl := Option.some.inj hstep
    rw [hinv.start_eq]
    split
    · exact h
    split
    · exact h.frame (Nat.le_refl _) rfl
    · obtain ⟨channel, readings, hprepared⟩ := preparePool_frame env system config
      rw [hprepared]
      exact h.frame (Nat.le_refl _) rfl
  | close =>
    obtain rfl := Option.some.inj hstep
    exact h.frame (Nat.le_refl _) rfl
  | stop =>
    obtain rfl := Option.some.inj hstep
    rw [hinv.stop_eq]
    split
    · exact h
    · exact h.frame (Nat.le_refl _) rfl
  | query _ _ _ | queryUntil _ _ _ _ =>
    obtain ⟨-, rfl⟩ := Transition.enabled hstep
    exact h.frame (Nat.le_succ _) (Function.update_of_ne (Nat.ne_of_lt h.made) _ _)
  | awaitQuery other writeFails armFails sent =>
    obtain ⟨-, rfl⟩ := Transition.enabled hstep
    exact h.awaitQuery env other writeFails armFails sent
  | destroyQuery other =>
    obtain ⟨-, rfl⟩ := Transition.enabled hstep
    exact h.destroyQuery hinv
  | handleDatagram packet truncated allocationFails =>
    obtain rfl := Option.some.inj hstep
    exact (hkept.handleDatagram ⟨hinv, h⟩ packet truncated allocationFails).2
  | drain budget received =>
    obtain rfl := Option.some.inj hstep
    exact (hkept.drain ⟨hinv, h⟩ budget received).2
  | failAll outcome errorNumber =>
    obtain rfl := Option.some.inj hstep
    exact (hkept.failAll ⟨hinv, h⟩ outcome errorNumber).2
  | expire now budget =>
    obtain rfl := Option.some.inj hstep
    exact (hkept.expire ⟨hinv, h⟩ now budget).2
  | cancelTimers =>
    obtain rfl := Option.some.inj hstep
    exact (hkept.cancelTimers ⟨hinv, h⟩).2
  | startTimers | closeTimers | stopTimers | clearReady | requestStop =>
    obtain rfl := Option.some.inj hstep
    exact h.frame (Nat.le_refl _) rfl
  | awaitSleep sleep armFails =>
    obtain ⟨-, rfl⟩ := Transition.enabled hstep
    obtain ⟨sleeps, scheduler, timers, hsleep⟩ := awaitSleep_frame system sleep armFails
    rw [hsleep]
    exact h.frame (Nat.le_refl _) rfl
  | resume =>
    obtain ⟨scheduler, -, rfl⟩ := Option.map_eq_some_iff.mp hstep
    exact h.frame (Nat.le_refl _) rfl
  | sleepUntil | destroySleep | spawn | yield | awaitTask | complete =>
    obtain ⟨-, rfl⟩ := Transition.enabled hstep
    exact h.frame (Nat.le_refl _) rfl

end System

end DnsPro.Upstream
