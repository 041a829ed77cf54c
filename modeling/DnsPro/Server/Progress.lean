import DnsPro.Server.Containment

/-!
# A coroutine gets on

`Stage.rank` counts the pieces of a coroutine that are left: `process_datagram` up to its first
suspension, what comes after the upstream query, the response.  `Attended` says that a coroutine
is at its end, runs, is ready, or waits for a query that is pending.  A coroutine that acts has a
piece less and is attended, and no operation of another one changes that.
-/

namespace DnsPro.Server

open DnsPro.Cache DnsPro.Filter DnsPro.Protocol DnsPro.Runtime DnsPro.Upstream

/-- The pieces of the coroutine that are left. -/
def Stage.rank : Stage → Nat
  | .created => 3
  | .awaiting _ _ _ _ => 2
  | .responding _ => 1
  | .returned => 0

theorem Stage.rank_le (stage : Stage) : stage.rank ≤ 3 := by
  cases stage with
  | created | awaiting | responding | returned => simp [Stage.rank]

theorem Stage.rank_pos {stage : Stage} (h : stage ≠ .returned) : 0 < stage.rank := by
  cases stage with
  | returned => exact absurd rfl h
  | created | awaiting | responding => simp [Stage.rank]

/-- The scheduler or a pending query attends to the coroutine. -/
inductive Frame.Attended (system : System) (task : TaskId) (frame : Frame) : Prop where
  | returned (hstage : frame.stage = .returned)
      (hfinal : (system.scheduler.tasks task).point = .final)
  | executing (hopen : frame.stage ≠ .returned) (h : system.executing task)
  | ready (hopen : frame.stage ≠ .returned) (h : (system.scheduler.tasks task).queued = true)
  | waiting {request : Message} {question : Question} {cacheKey : Option CacheKey}
      {query : QueryId} (hstage : frame.stage = .awaiting request question cacheKey query)
      (hpending : (system.queries query).state = .pending)
      (hframe : (system.queries query).frame = task)

theorem Frame.Attended.keep {system next : System} {task : TaskId} {frame : Frame}
    (h : frame.Attended system task) (hattends : System.Attends task system next) :
    frame.Attended next task := by
  cases h with
  | returned hstage hfinal => exact .returned hstage (hattends.stays.point.trans hfinal)
  | executing hopen h => exact .executing hopen (hattends.stays.point.trans h)
  | ready hopen h => exact .ready hopen (hattends.stays.queued h)
  | waiting hstage hpending hframe =>
    rcases hattends.awaited _ hpending hframe with ⟨hstill, hsame⟩ | hqueued
    · exact .waiting hstage hstill hsame
    · exact .ready (by simp [hstage]) hqueued

/-- A coroutine that runs is not at its end. -/
theorem Frame.Attended.open_of_executing {system : System} {task : TaskId} {frame : Frame}
    (h : frame.Attended system task) (hexecuting : system.executing task) :
    frame.stage ≠ .returned := by
  cases h with
  | returned _ hfinal =>
    rw [hexecuting] at hfinal
    cases hfinal
  | executing hopen => exact hopen
  | ready hopen => exact hopen
  | waiting hstage => simp [hstage]

namespace Worker

variable {env : Environment} {worker next : Worker} {task : TaskId} {frame : Frame} {rank : Nat}

/-- The coroutine has fewer pieces left, and is attended. -/
def Advances (task : TaskId) (rank : Nat) (next : Worker) : Prop :=
  ∃ frame, next.frames task = some frame ∧ frame.stage.rank < rank ∧
    frame.Attended next.upstream task

theorem complete_final (scheduler : Scheduler) (task : TaskId) :
    ((scheduler.complete task).tasks task).point = .final := by
  have hended : ((scheduler.setPoint task .final).tasks task).point = .final := by simp
  unfold Scheduler.complete
  split
  · exact hended
  · rename_i parent _
    have hfinal :=
      (Scheduler.schedule_calm (scheduler.setPoint task .final) parent).final task hended
    dsimp only
    split
    · exact hfinal
    · exact hfinal

theorem advances_coReturn (hrank : 0 < rank) (worker : Worker) (task : TaskId) (frame : Frame) :
    Advances task rank (worker.coReturn task frame) :=
  ⟨_, Function.update_self _ _ _, hrank,
    .returned rfl (complete_final worker.upstream.scheduler task)⟩

/-- A coroutine that has its response runs until it has sent it. -/
theorem advances_respondWith (hexecuting : worker.upstream.executing task) (hrank : 1 < rank)
    (frame : Frame) (response : Bytes) :
    Advances task rank (worker.respondWith task frame response) :=
  ⟨_, Function.update_self _ _ _, hrank, .executing (by simp) hexecuting⟩

theorem advances_orServFail (hexecuting : worker.upstream.executing task) (hrank : 1 < rank)
    (frame : Frame) (request : Message) (response : Bytes) :
    Advances task rank (worker.orServFail task frame request response) := by
  unfold orServFail
  split
  · split
    · exact advances_coReturn (by omega) _ task frame
    · exact advances_respondWith hexecuting hrank frame _
  · exact advances_respondWith hexecuting hrank frame _

/-- The coroutine goes on executing, or its query is pending. -/
theorem advances_awaitUpstream (hexecuting : worker.upstream.executing task) (hrank : 2 < rank)
    (frame : Frame) (request : Message) (question : Question) (cacheKey : Option CacheKey)
    (writeFails armFails : Bool) (sent : SendOutcome) :
    Advances task rank (worker.awaitUpstream env task frame request question cacheKey writeFails
      armFails sent) := by
  have hasked := System.asked_query env.upstream worker.upstream task request.header question
  have hawaited :=
    hasked.awaitQuery env.upstream worker.upstream.queryCount writeFails armFails sent
  have hpending := System.awaitQuery_pending env.upstream
    (worker.upstream.query env.upstream task request.header question) worker.upstream.queryCount
    writeFails armFails sent
  refine ⟨_, Function.update_self _ _ _, hrank, ?_⟩
  rcases hpending with hscheduler | hpending
  · refine .executing (by simp) ?_
    unfold awaitUpstream System.executing
    dsimp only
    rw [hscheduler]
    exact hexecuting
  · exact .waiting rfl hpending hawaited.frame_eq

theorem filterQuery_upstream {frame' : Frame} {request : Message} {question : Question}
    {response : Option Bytes}
    (hfilter : worker.filterQuery env frame request question = (response, next, frame')) :
    next.upstream = worker.upstream := by
  unfold filterQuery at hfilter
  split at hfilter
  · dsimp only at hfilter
    split at hfilter
    all_goals
      obtain ⟨-, rfl, -⟩ := hfilter
      rfl
  · obtain ⟨-, rfl, -⟩ := hfilter
    rfl

theorem advances_processQuery (hexecuting : worker.upstream.executing task) (hrank : 2 < rank)
    (frame : Frame) (request : Message) (question : Question) (cacheNow : TimePoint)
    (writeFails armFails : Bool) (sent : SendOutcome) :
    Advances task rank (worker.processQuery env task frame request question cacheNow writeFails
      armFails sent) := by
  unfold processQuery
  split
  · exact advances_coReturn (by omega) _ task _
  rename_i hfilter
  rw [← filterQuery_upstream hfilter] at hexecuting
  split
  · split
    · exact advances_coReturn (by omega) _ task _
    rename_i hlookup
    rw [← (lookupCache_frame hlookup).1] at hexecuting
    split
    · exact advances_awaitUpstream hexecuting hrank _ request question _ writeFails armFails sent
    · exact advances_orServFail hexecuting (by omega) _ request _
  · exact advances_orServFail hexecuting (by omega) _ request _

theorem advances_processDatagram (hexecuting : worker.upstream.executing task) (hrank : 2 < rank)
    (frame : Frame) (cacheNow : TimePoint) (writeFails armFails : Bool) (sent : SendOutcome) :
    Advances task rank
      (worker.processDatagram env task frame cacheNow writeFails armFails sent) := by
  unfold processDatagram
  dsimp only
  split
  · exact advances_coReturn (by omega) _ task frame
  split
  · exact advances_coReturn (by omega) _ task frame
  · exact advances_respondWith hexecuting (by omega) frame _
  · exact advances_respondWith hexecuting (by omega) frame _
  · exact advances_respondWith hexecuting (by omega) frame _
  · exact advances_coReturn (by omega) _ task frame
  · split
    · exact advances_coReturn (by omega) _ task frame
    split
    · refine advances_processQuery ?_ hrank frame _ _ cacheNow writeFails armFails sent
      exact hexecuting
    · exact advances_coReturn (by omega) _ task frame

/-- The task of a query that it does not wait for goes on executing when it is destroyed. -/
theorem Acting.advances_resumeDatagram (h : Acting worker task frame) (hrank : 1 < rank)
    {request : Message} {question : Question} {query : QueryId}
    (hasked : System.Asked query task request.header question worker.upstream)
    (cacheKey : Option CacheKey) (cacheNow : TimePoint) (cachingFails emplaceFails : Bool) :
    Advances task rank (worker.resumeDatagram env task frame request question cacheKey query
      cacheNow cachingFails emplaceFails) := by
  have hdestroyed : Acting { worker with upstream := worker.upstream.destroyQuery env.upstream query }
      task frame := h.destroyQuery hasked
  unfold Worker.resumeDatagram
  dsimp only
  split
  · exact advances_coReturn (by omega) _ task frame
  split
  · exact advances_coReturn (by omega) _ task frame
  · cases cacheKey with
    | none => exact advances_orServFail hdestroyed.executing hrank frame request _
    | some key =>
      refine advances_orServFail ?_ hrank frame request _
      dsimp only
      rw [storeResponse_upstream]
      exact hdestroyed.executing
  · exact advances_orServFail hdestroyed.executing hrank frame request _

/-- A coroutine that acts gets on. -/
theorem step_advances {label : Label} (h : Inv worker) (hstep : step env worker label = some next)
    (hactor : label.actor = some task) :
    ∃ frame, worker.frames task = some frame ∧ 0 < frame.stage.rank ∧
      Advances task frame.stage.rank next := by
  cases step_eq_some.mp hstep with
  | upstream | receive | refresh | hangup => cases hactor
  | process cacheNow writeFails armFails sent hrunning =>
    obtain rfl := Option.some.inj hactor
    obtain ⟨hexecuting, hframe⟩ := running_eq_some hrunning
    exact ⟨_, hframe, by simp [Stage.rank],
      advances_processDatagram hexecuting (by simp [Stage.rank]) _ cacheNow writeFails armFails
        sent⟩
  | resume cacheNow cachingFails emplaceFails hrunning =>
    obtain rfl := Option.some.inj hactor
    have hframe := (running_eq_some hrunning).2
    have hok := h.frames _ _ hframe
    exact ⟨_, hframe, by simp [Stage.rank],
      (h.acting hrunning (by simp)).advances_resumeDatagram (by simp [Stage.rank]) hok.2.2.2 _
        cacheNow cachingFails emplaceFails⟩
  | respond sent hrunning =>
    obtain rfl := Option.some.inj hactor
    refine ⟨_, (running_eq_some hrunning).2, by simp [Stage.rank], ?_⟩
    unfold finishDatagram
    split
    · exact advances_coReturn (by simp [Stage.rank]) _ _ _
    · exact advances_coReturn (by simp [Stage.rank]) _ _ _
  | fail hrunning hstage =>
    obtain rfl := Option.some.inj hactor
    exact ⟨_, (running_eq_some hrunning).2, Stage.rank_pos hstage,
      advances_coReturn (Stage.rank_pos hstage) _ _ _⟩

end Worker

end DnsPro.Server
