import DnsPro.Server.Store

/-!
# Queries beside the cache

A query with `AD` or `CD` set is not looked up, and its response is not stored.
Its coroutine takes the same steps over any other shard: it reads nothing of the
shard and leaves it as it is.
-/

namespace DnsPro.Server

open DnsPro.Cache DnsPro.Filter DnsPro.Protocol DnsPro.Runtime DnsPro.Upstream DnsPro.Transition

namespace Worker

variable {env : Environment} {worker next : Worker} {task : TaskId} {frame : Frame}

/-- The worker over another shard. -/
def withCache (worker : Worker) (cache : CacheShard) : Worker := { worker with cache := cache }

theorem withCache_orServFail (worker : Worker) (task : TaskId) (frame : Frame) (request : Message)
    (response : Bytes) (cache : CacheShard) :
    (worker.withCache cache).orServFail task frame request response =
      (worker.orServFail task frame request response).withCache cache := by
  unfold orServFail
  split
  · split
    · rfl
    · rfl
  · rfl

theorem withCache_filterQuery (env : Environment) (worker : Worker) (frame : Frame)
    (request : Message) (question : Question) (cache : CacheShard) :
    (worker.withCache cache).filterQuery env frame request question =
      ((worker.filterQuery env frame request question).1,
        (worker.filterQuery env frame request question).2.1.withCache cache,
        (worker.filterQuery env frame request question).2.2) := by
  have hmatches : (worker.withCache cache).matchesFilter env question.name =
      worker.matchesFilter env question.name := rfl
  unfold filterQuery
  rw [hmatches]
  split
  · dsimp only
    split
    · rfl
    · rfl
  · rfl

/-- A query that may not use the cache neither reads nor writes it. -/
theorem lookupCache_bypass {request : Message} (hbypass : ¬ Cachable request) (worker : Worker)
    (question : Question) (cacheNow : TimePoint) :
    worker.lookupCache request question cacheNow = (some ([], none),
      { worker with
        stats := { worker.stats with cacheBypasses := worker.stats.cacheBypasses + 1 } }) := by
  unfold lookupCache
  dsimp only
  exact if_neg fun heligible => hbypass heligible.2

theorem withCache_processQuery {request : Message} (hbypass : ¬ Cachable request)
    (env : Environment)
    (worker : Worker) (task : TaskId) (frame : Frame) (question : Question) (cacheNow : TimePoint)
    (writeFails armFails : Bool) (sent : SendOutcome) (cache : CacheShard) :
    (worker.withCache cache).processQuery env task frame request question cacheNow writeFails armFails
        sent =
      (worker.processQuery env task frame request question cacheNow writeFails armFails
        sent).withCache cache := by
  unfold processQuery
  rw [withCache_filterQuery]
  rcases worker.filterQuery env frame request question with ⟨_ | response, filtered, frame'⟩
  · rfl
  · dsimp only
    split
    · rw [lookupCache_bypass hbypass, lookupCache_bypass hbypass]
      dsimp only
      have husable : (filtered.withCache cache).upstreamUsable = filtered.upstreamUsable := rfl
      rw [husable]
      split
      · rfl
      · exact withCache_orServFail { filtered with
          stats := { filtered.stats with cacheBypasses := filtered.stats.cacheBypasses + 1 } }
          task frame' request [] cache
    · exact withCache_orServFail filtered task frame' request response cache

theorem withCache_processDatagram {request : Message} (haccepts : frame.datagram.Accepts request)
    (hbypass : ¬ Cachable request) (env : Environment) (worker : Worker) (task : TaskId)
    (cacheNow : TimePoint) (writeFails armFails : Bool) (sent : SendOutcome) (cache : CacheShard) :
    (worker.withCache cache).processDatagram env task frame cacheNow writeFails armFails sent =
      (worker.processDatagram env task frame cacheNow writeFails armFails sent).withCache cache := by
  have hstop : (worker.withCache cache).upstream.scheduler.stopRequested =
      worker.upstream.scheduler.stopRequested := rfl
  unfold processDatagram
  dsimp only
  rw [haccepts, hstop]
  dsimp only
  split
  · rfl
  split
  · exact withCache_processQuery hbypass env
      { worker with
        stats := { worker.stats with acceptedQueries := worker.stats.acceptedQueries + 1 } }
      task frame _ cacheNow writeFails armFails sent cache
  · rfl

theorem withCache_resumeDatagram (env : Environment) (worker : Worker) (task : TaskId)
    (frame : Frame)
    (request : Message) (question : Question) (query : QueryId) (cacheNow : TimePoint)
    (cachingFails emplaceFails : Bool) (cache : CacheShard) :
    (worker.withCache cache).resumeDatagram env task frame request question none query cacheNow
        cachingFails emplaceFails =
      (worker.resumeDatagram env task frame request question none query cacheNow cachingFails
        emplaceFails).withCache cache := by
  have hqueries : (worker.withCache cache).upstream = worker.upstream := rfl
  unfold resumeDatagram
  dsimp only
  rw [hqueries]
  split
  · rfl
  split
  · rfl
  · exact withCache_orServFail
      { worker with upstream := worker.upstream.destroyQuery env.upstream query } task frame request
      _ cache
  · exact withCache_orServFail
      { worker with upstream := worker.upstream.destroyQuery env.upstream query } task frame request
      _ cache

theorem withCache_finishDatagram (worker : Worker) (task : TaskId) (frame : Frame)
    (response : Bytes) (sent : SendOutcome) (cache : CacheShard) :
    (worker.withCache cache).finishDatagram task frame response sent =
      (worker.finishDatagram task frame response sent).withCache cache := by
  have hstop : (worker.withCache cache).upstream.scheduler.stopRequested =
      worker.upstream.scheduler.stopRequested := rfl
  unfold finishDatagram
  rw [hstop]
  split
  · unfold sendResponse
    dsimp only
    split
    · rfl
    · rfl
  · rfl

theorem accepts_inj {datagram : ClientDatagram} {request request' : Message}
    (h : datagram.Accepts request) (h' : datagram.Accepts request') : request' = request := by
  simpa using h'.symm.trans h

/-- A coroutine whose query has `AD` or `CD` set takes the same step over any other
shard, and leaves the shard as it is. -/
theorem step_bypass (h : CacheOk worker) {label : Label} (hstep : step env worker label = some next)
    (hactor : label.actor = some task) (hframe : worker.frames task = some frame)
    {request : Message}
    (haccepts : frame.datagram.Accepts request) (hbypass : ¬ Cachable request)
    (cache : CacheShard) :
    step env (worker.withCache cache) label = some (next.withCache cache) := by
  have hsame (task : TaskId) : (worker.withCache cache).running task = worker.running task := rfl
  rw [step_eq_some]
  cases step_eq_some.mp hstep with
  | upstream | receive | refresh | hangup => cases hactor
  | process cacheNow writeFails armFails sent hrunning =>
    obtain rfl := Option.some.inj hactor
    obtain rfl := Option.some.inj (hframe.symm.trans (running_eq_some hrunning).2)
    rw [← withCache_processDatagram haccepts hbypass]
    exact .process cacheNow writeFails armFails sent ((hsame _).trans hrunning)
  | @resume _ _ request' question cacheKey _ _ cacheNow cachingFails emplaceFails hrunning =>
    obtain rfl := Option.some.inj hactor
    obtain rfl := Option.some.inj (hframe.symm.trans (running_eq_some hrunning).2)
    obtain ⟨-, haccepts', -⟩ := h.inv.frames _ _ hframe
    obtain rfl := accepts_inj haccepts haccepts'
    -- its response has no key to be stored under
    obtain rfl : cacheKey = none := by
      cases cacheKey with
      | none => rfl
      | some key => exact absurd (h.keys _ _ hframe _ _ key _ rfl).2 hbypass
    rw [← withCache_resumeDatagram]
    exact .resume cacheNow cachingFails emplaceFails ((hsame _).trans hrunning)
  | respond sent hrunning =>
    rw [← withCache_finishDatagram]
    exact .respond sent ((hsame _).trans hrunning)
  | @fail task' failed hrunning hstage =>
    have hfail : (worker.withCache cache).failDatagram env task' failed =
        (worker.failDatagram env task' failed).withCache cache := by
      unfold failDatagram
      dsimp only
      split
      · rfl
      · rfl
    rw [← hfail]
    exact .fail ((hsame _).trans hrunning) hstage

theorem cache_of_bypass (h : CacheOk worker) {label : Label}
    (hstep : step env worker label = some next) (hactor : label.actor = some task)
    (hframe : worker.frames task = some frame) {request : Message}
    (haccepts : frame.datagram.Accepts request) (hbypass : ¬ Cachable request) :
    next.cache = worker.cache := by
  have hsame : step env worker label = some (next.withCache worker.cache) :=
    step_bypass h hstep hactor hframe haccepts hbypass worker.cache
  have hnext : next = next.withCache worker.cache := Option.some.inj (hstep.symm.trans hsame)
  rw [hnext]
  rfl

end Worker

end DnsPro.Server
