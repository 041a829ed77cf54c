import DnsPro.Server.Responses
import DnsPro.WorkerRuntime.Undisturbed

/-!
# What a coroutine does with the channel

A step of a coroutine completes its task, makes a query and awaits it, or destroys the query that
it awaited; `Drives` lists what it leaves.  One piece of `process_datagram` makes a query: the one
that runs up to the suspension, for a question that the filter lets pass, and only while the
upstream socket is usable.
-/

namespace DnsPro.Server

open DnsPro.Cache DnsPro.Filter DnsPro.Protocol DnsPro.Runtime DnsPro.Upstream

namespace Worker

variable {env : Environment} {worker next third : Worker} {task : TaskId} {frame frame' : Frame}

/-- The channel after a step of the coroutine. -/
inductive Drives (env : Environment) (worker : Worker) (task : TaskId) : System → Prop where
  | kept : Drives env worker task worker.upstream
  | completed : Drives env worker task
      (worker.upstream.setScheduler (worker.upstream.scheduler.complete task))
  | awaited {frame : Frame} {request : Message} {question : Question}
      (writeFails armFails : Bool) (sent : SendOutcome) (hframe : worker.frames task = some frame)
      (hcreated : frame.stage = .created) (haccepts : frame.datagram.Accepts request)
      (hquestions : request.questions = [question]) (husable : worker.upstreamUsable = true)
      (hpasses : worker.matchesFilter env question.name = false) :
      Drives env worker task
        ((worker.upstream.query env.upstream task request.header question).awaitQuery env.upstream
          worker.upstream.queryCount writeFails armFails sent)
  | destroyed {query : QueryId}
      (hended : System.Ended worker.upstream (worker.upstream.destroyQuery env.upstream query)) :
      Drives env worker task (worker.upstream.destroyQuery env.upstream query)
  | returned {query : QueryId}
      (hended : System.Ended worker.upstream (worker.upstream.destroyQuery env.upstream query)) :
      Drives env worker task ((worker.upstream.destroyQuery env.upstream query).setScheduler
        ((worker.upstream.destroyQuery env.upstream query).scheduler.complete task))

/-- What does not touch the channel, the filter and the coroutines may come first. -/
theorem Drives.of_eq {system : System} (h : Drives env next task system)
    (hupstream : next.upstream = worker.upstream) (hframes : next.frames = worker.frames)
    (hsnapshot : next.snapshot = worker.snapshot)
    (husable : next.upstreamUsable = worker.upstreamUsable) : Drives env worker task system := by
  have hmatches : ∀ name, next.matchesFilter env name = worker.matchesFilter env name := by
    intro name
    unfold matchesFilter
    rw [hsnapshot]
  cases h with
  | kept =>
    rw [hupstream]
    exact .kept
  | completed =>
    rw [hupstream]
    exact .completed
  | awaited writeFails armFails sent hframe hcreated haccepts hquestions hnext hpasses =>
    rw [hupstream]
    exact .awaited writeFails armFails sent (hframes ▸ hframe) hcreated haccepts hquestions
      (husable ▸ hnext) (hmatches _ ▸ hpasses)
  | destroyed hended =>
    rw [hupstream] at hended ⊢
    exact .destroyed hended
  | returned hended =>
    rw [hupstream] at hended ⊢
    exact .returned hended

/-! ## The pieces without a query -/

/-- Looking into the cache changes the cache and the counters. -/
theorem lookupCache_frame {request : Message} {question : Question} {cacheNow : TimePoint}
    {result : Option (Bytes × Option CacheKey)}
    (hlookup : worker.lookupCache request question cacheNow = (result, next)) :
    next.upstream = worker.upstream ∧ next.snapshot = worker.snapshot ∧
      next.upstreamUsable = worker.upstreamUsable := by
  unfold lookupCache at hlookup
  dsimp only at hlookup
  split at hlookup
  · split at hlookup
    · split at hlookup
      all_goals
        obtain ⟨rfl, rfl⟩ := Prod.mk.inj hlookup
        exact ⟨rfl, rfl, rfl⟩
    · obtain ⟨rfl, rfl⟩ := Prod.mk.inj hlookup
      exact ⟨rfl, rfl, rfl⟩
  · obtain ⟨rfl, rfl⟩ := Prod.mk.inj hlookup
    exact ⟨rfl, rfl, rfl⟩

theorem storeResponse_upstream (worker : Worker) (request : Message) (question : Question)
    (key : CacheKey) (response : Bytes) (cacheNow : TimePoint) (cachingFails emplaceFails : Bool) :
    (worker.storeResponse request question key response cacheNow cachingFails
      emplaceFails).upstream = worker.upstream := by
  unfold storeResponse
  split
  · rfl
  split
  · rfl
  split
  · rfl
  split
  · rfl
  · dsimp only
    split
    · rfl
    · rfl

theorem orServFail_upstream (worker : Worker) (task : TaskId) (frame : Frame) (request : Message)
    (response : Bytes) :
    (worker.orServFail task frame request response).upstream = worker.upstream ∨
      (worker.orServFail task frame request response).upstream =
        worker.upstream.setScheduler (worker.upstream.scheduler.complete task) := by
  unfold orServFail
  split
  · split
    · exact .inr rfl
    · exact .inl rfl
  · exact .inl rfl

theorem drives_orServFail (env : Environment) (worker : Worker) (task : TaskId) (frame : Frame)
    (request : Message) (response : Bytes) :
    Drives env worker task (worker.orServFail task frame request response).upstream := by
  rcases orServFail_upstream worker task frame request response with hkept | hcompleted
  · rw [hkept]
    exact .kept
  · rw [hcompleted]
    exact .completed

/-! ## Up to the suspension -/

theorem drives_processQuery (worker : Worker) (hframe : worker.frames task = some frame)
    (hcreated : frame.stage = .created) {request : Message} {question : Question}
    (haccepts : frame.datagram.Accepts request) (haccepted : Accepted request question)
    (cacheNow : TimePoint) (writeFails armFails : Bool) (sent : SendOutcome) :
    Drives env worker task (worker.processQuery env task frame request question cacheNow writeFails
      armFails sent).upstream := by
  cases hmatches : worker.matchesFilter env question.name with
  | true =>
    obtain ⟨refused, stats, -, -, hprocess⟩ := processQuery_blocked haccepted hmatches task frame
      cacheNow writeFails armFails sent
    rw [hprocess]
    exact .kept
  | false =>
    unfold processQuery filterQuery
    rw [if_neg (by simp [hmatches])]
    dsimp only
    rw [if_pos rfl]
    split
    · rename_i looked heq
      obtain ⟨hupstream, hsnapshot, husable⟩ := lookupCache_frame heq
      have hreturned : Drives env looked task (looked.coReturn task frame).upstream := .completed
      have hframes := congrArg (·.2.frames) heq
      rw [frames_lookupCache] at hframes
      exact hreturned.of_eq hupstream hframes.symm hsnapshot husable
    · rename_i response cacheKey looked heq
      obtain ⟨hupstream, hsnapshot, husable⟩ := lookupCache_frame heq
      have hframes := congrArg (·.2.frames) heq
      rw [frames_lookupCache] at hframes
      split
      · rename_i hasks
        have hpasses : looked.matchesFilter env question.name = false := by
          unfold matchesFilter at hmatches ⊢
          rw [hsnapshot]
          exact hmatches
        have hawaited : Drives env looked task (looked.awaitUpstream env task frame request question
            cacheKey writeFails armFails sent).upstream :=
          .awaited writeFails armFails sent (hframes ▸ hframe) hcreated haccepts
            haccepted.questions hasks.2 hpasses
        exact hawaited.of_eq hupstream hframes.symm hsnapshot husable
      · exact (drives_orServFail env looked task frame request response).of_eq hupstream
          hframes.symm hsnapshot husable

theorem drives_processDatagram (worker : Worker) (hframe : worker.frames task = some frame)
    (hcreated : frame.stage = .created) (cacheNow : TimePoint) (writeFails armFails : Bool)
    (sent : SendOutcome) :
    Drives env worker task (worker.processDatagram env task frame cacheNow writeFails armFails
      sent).upstream := by
  by_cases hnot : worker.upstream.scheduler.stopRequested = true ∨
      (evaluateDatagram frame.datagram.packet frame.datagram.truncated).outcome ≠ .accepted
  · unfold processDatagram
    dsimp only
    split
    · exact .completed
    rename_i hstop
    split
    · exact .completed
    · exact .kept
    · exact .kept
    · exact .kept
    · exact .completed
    · rename_i houtcome
      rcases hnot with h | h
      · exact absurd h hstop
      · exact absurd houtcome h
  · rw [not_or, not_not] at hnot
    obtain ⟨hstop, houtcome⟩ := hnot
    obtain ⟨request, question, haccepts, haccepted⟩ := accepted_of_evaluateDatagram houtcome
    obtain ⟨stats, hprocess⟩ := processDatagram_of_accepts env worker haccepts haccepted.questions
      (by simpa using hstop) task cacheNow writeFails armFails sent
    rw [hprocess]
    exact (drives_processQuery { worker with stats := stats } hframe hcreated haccepts haccepted
      cacheNow writeFails armFails sent).of_eq rfl rfl rfl rfl

/-! ## From the suspension on -/

/-- The query that a coroutine awaited has ended when it goes on. -/
theorem Acting.destroyQuery_ended (h : Acting worker task frame) {query : QueryId}
    {header : Header} {question : Question}
    (hasked : System.Asked query task header question worker.upstream) :
    System.Ended worker.upstream (worker.upstream.destroyQuery env.upstream query) := by
  refine System.destroyQuery_ended env.upstream h.inv.upstream fun hpending => ?_
  have hpoint := (h.inv.upstream.pending query hpending).waiting.point_eq
  rw [hasked.frame_eq, h.executing] at hpoint
  cases hpoint

theorem Acting.drives_resumeDatagram (h : Acting worker task frame) {request : Message}
    {question : Question} {query : QueryId}
    (hasked : System.Asked query task request.header question worker.upstream)
    (cacheKey : Option CacheKey) (cacheNow : TimePoint) (cachingFails emplaceFails : Bool) :
    Drives env worker task (worker.resumeDatagram env task frame request question cacheKey query
      cacheNow cachingFails emplaceFails).upstream := by
  have hended : System.Ended worker.upstream (worker.upstream.destroyQuery env.upstream query) :=
    h.destroyQuery_ended hasked
  have hrest : ∀ (before : Worker) (response : Bytes),
      before.upstream = worker.upstream.destroyQuery env.upstream query →
      Drives env worker task (before.orServFail task frame request response).upstream := by
    intro before response hbefore
    rcases orServFail_upstream before task frame request response with hkept | hcompleted
    · rw [hkept, hbefore]
      exact .destroyed hended
    · rw [hcompleted, hbefore]
      exact .returned hended
  unfold Worker.resumeDatagram
  dsimp only
  split
  · exact .returned hended
  split
  · exact .returned hended
  · refine hrest _ _ ?_
    cases cacheKey with
    | none => rfl
    | some key => exact storeResponse_upstream _ _ _ _ _ _ _ _
  · exact hrest _ _ rfl

theorem drives_finishDatagram (worker : Worker) (task : TaskId) (frame : Frame) (response : Bytes)
    (sent : SendOutcome) :
    Drives env worker task (worker.finishDatagram task frame response sent).upstream := by
  unfold finishDatagram
  split
  · unfold sendResponse
    dsimp only
    split
    · exact .completed
    · exact .completed
  · exact .completed

theorem Acting.drives_failDatagram (h : Acting worker task frame) :
    Drives env worker task (worker.failDatagram env task frame).upstream := by
  have hok := h.inv.frames task frame h.frame_eq
  unfold Worker.failDatagram
  dsimp only
  split
  · rename_i request question cacheKey query hstage
    simp only [FrameOk, hstage] at hok
    exact .returned (h.destroyQuery_ended hok.2.2.2)
  · exact .completed

/-- What the step of a coroutine leaves of the channel. -/
theorem step_drives (h : Inv worker) {label : Label} (hstep : step env worker label = some next)
    (hactor : label.actor = some task) : Drives env worker task next.upstream := by
  cases step_eq_some.mp hstep with
  | upstream | receive | refresh | hangup => cases hactor
  | process cacheNow writeFails armFails sent hrunning =>
    obtain rfl := Option.some.inj hactor
    exact drives_processDatagram worker (running_eq_some hrunning).2 rfl cacheNow writeFails
      armFails sent
  | resume cacheNow cachingFails emplaceFails hrunning =>
    obtain rfl := Option.some.inj hactor
    have hok := h.frames _ _ (running_eq_some hrunning).2
    exact (h.acting hrunning (by simp)).drives_resumeDatagram hok.2.2.2 _ cacheNow cachingFails
      emplaceFails
  | respond sent =>
    obtain rfl := Option.some.inj hactor
    exact drives_finishDatagram worker _ _ _ sent
  | fail hrunning hstage =>
    obtain rfl := Option.some.inj hactor
    exact (h.acting hrunning hstage).drives_failDatagram

/-! ## Queries -/

/-- One query is made, for a question that the filter lets pass. -/
structure Asks (env : Environment) (worker next : Worker) : Prop where
  usable : worker.upstreamUsable = true
  queryCount : next.upstream.queryCount = worker.upstream.queryCount + 1
  passes : worker.matchesFilter env
    (next.upstream.queries worker.upstream.queryCount).question.name = false
  questions : ∀ query, query ≠ worker.upstream.queryCount →
    (next.upstream.queries query).question = (worker.upstream.queries query).question

/-- What precedes the query makes none, and does not touch the filter. -/
theorem Asks.of_unsent (h : Asks env next third)
    (hunsent : System.Unsent worker.upstream next.upstream)
    (hsnapshot : next.snapshot = worker.snapshot)
    (husable : next.upstreamUsable = worker.upstreamUsable) : Asks env worker third := by
  obtain ⟨husable', hcount, hpasses, hquestions⟩ := h
  unfold matchesFilter at hpasses
  rw [hunsent.queryCount] at hcount hquestions
  rw [hsnapshot, hunsent.queryCount] at hpasses
  exact ⟨husable ▸ husable', hcount, hpasses, fun query hne =>
    (hquestions query hne).trans (hunsent.questions query)⟩

/-- The step of a coroutine sends no query, or one that the filter lets pass. -/
theorem step_asks (h : Inv worker) {label : Label} (hstep : step env worker label = some next)
    (hactor : label.actor = some task) :
    System.Unsent worker.upstream next.upstream ∨ Asks env worker next := by
  have hdrives := step_drives h hstep hactor
  generalize hupstream : next.upstream = system at hdrives
  cases hdrives with
  | kept => exact .inl (System.Unsent.refl _)
  | completed => exact .inl (System.unsent_setScheduler _ _)
  | destroyed hended => exact .inl hended.unsent
  | returned hended => exact .inl (hended.unsent.trans (System.unsent_setScheduler _ _))
  | @awaited frame request question writeFails armFails sent hframe hcreated haccepts hquestions
      husable hpasses =>
    have hasked := System.asked_query env.upstream worker.upstream task request.header question
    have hawaited :=
      hasked.awaitQuery env.upstream worker.upstream.queryCount writeFails armFails sent
    have hspares := System.awaitQuery_spares env.upstream
      (worker.upstream.query env.upstream task request.header question) worker.upstream.queryCount
      writeFails armFails sent
    rw [← hupstream] at hawaited hspares
    refine .inr ⟨husable, hspares.queryCount, ?_, fun query hne => ?_⟩
    · rw [hawaited.question_eq]
      exact hpasses
    · have hmade : (worker.upstream.query env.upstream task request.header question).queries query =
          worker.upstream.queries query := Function.update_of_ne hne _ _
      exact congrArg QueryAwaiter.question ((hspares.others query hne).trans hmade)

end Worker

end DnsPro.Server
