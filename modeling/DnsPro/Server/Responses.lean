import DnsPro.Server.Invariant
import DnsPro.Upstream.Completion

/-!
# One response to each query

What the coroutine of a datagram does with its own frame, and what it leaves
alone: a blocked query reads neither the cache nor the channel.  With the invariant
this gives the contract of `process_datagram` over every run.
-/

namespace DnsPro.Server

open DnsPro.Cache DnsPro.Filter DnsPro.Protocol DnsPro.Runtime DnsPro.Upstream

namespace Worker

variable {env : Environment} {worker next : Worker} {task : TaskId} {frame : Frame}

/-! ## The frame of the coroutine that acts -/

/-- Only the stage of the frame changes, and no other frame. -/
def Moves (worker next : Worker) (task : TaskId) (frame : Frame) : Prop :=
  ∃ stage, next.frames = Function.update worker.frames task (some { frame with stage := stage })

/-- The cache and the channel are as before; the scheduler may differ. -/
def Untouched (worker next : Worker) : Prop :=
  next.cache = worker.cache ∧ ∃ scheduler, next.upstream = worker.upstream.setScheduler scheduler

theorem moves_orServFail (worker : Worker) (task : TaskId) (frame : Frame) (request : Message)
    (response : Bytes) : Moves worker (worker.orServFail task frame request response) task frame := by
  unfold orServFail
  split
  · split
    · exact ⟨_, rfl⟩
    · exact ⟨_, rfl⟩
  · exact ⟨_, rfl⟩

theorem frames_lookupCache (worker : Worker) (request : Message) (question : Question)
    (cacheNow : TimePoint) :
    (worker.lookupCache request question cacheNow).2.frames = worker.frames := by
  unfold lookupCache
  dsimp only
  split
  · split
    · split
      all_goals rfl
    · rfl
  · rfl

/-- A query that is not blocked. -/
theorem moves_processQuery (env : Environment) (worker : Worker) {question : Question}
    (hmatches : worker.matchesFilter env question.name = false) (task : TaskId) (frame : Frame)
    (request : Message) (cacheNow : TimePoint) (writeFails armFails : Bool) (sent : SendOutcome) :
    Moves worker
      (worker.processQuery env task frame request question cacheNow writeFails armFails sent) task
      frame := by
  have hframes := frames_lookupCache worker request question cacheNow
  unfold processQuery filterQuery
  rw [if_neg (by simp [hmatches])]
  dsimp only
  rw [if_pos rfl]
  split
  · rename_i looked heq
    rw [heq] at hframes
    exact ⟨.returned, by rw [← hframes]; rfl⟩
  · rename_i response cacheKey looked heq
    rw [heq] at hframes
    change looked.frames = worker.frames at hframes
    split
    · exact ⟨_, by rw [← hframes]; rfl⟩
    · obtain ⟨stage, hstage⟩ := moves_orServFail looked task frame request response
      exact ⟨stage, by rw [hstage, hframes]⟩

/-- A datagram that is not accepted, or that comes too late, reaches neither the
filter nor the cache. -/
theorem moves_processDatagram_of_not_accepted (task : TaskId) (frame : Frame)
    (hnot : worker.upstream.scheduler.stopRequested = true ∨
      (evaluateDatagram frame.datagram.packet frame.datagram.truncated).outcome ≠ .accepted)
    (cacheNow : TimePoint) (writeFails armFails : Bool) (sent : SendOutcome) :
    Moves worker (worker.processDatagram env task frame cacheNow writeFails armFails sent) task
      frame := by
  unfold processDatagram
  dsimp only
  split
  · exact ⟨_, rfl⟩
  rename_i hstop
  split
  · exact ⟨_, rfl⟩
  · exact ⟨_, rfl⟩
  · exact ⟨_, rfl⟩
  · exact ⟨_, rfl⟩
  · exact ⟨_, rfl⟩
  · rename_i houtcome
    rcases hnot with h | h
    · exact absurd h hstop
    · exact absurd houtcome h

/-- An accepted datagram is processed as its query. -/
theorem processDatagram_of_accepts (env : Environment) (worker : Worker) {request : Message}
    {question : Question} (haccepts : frame.datagram.Accepts request)
    (hquestions : request.questions = [question])
    (hstop : worker.upstream.scheduler.stopRequested = false) (task : TaskId)
    (cacheNow : TimePoint) (writeFails armFails : Bool) (sent : SendOutcome) :
    ∃ stats, worker.processDatagram env task frame cacheNow writeFails armFails sent =
      { worker with stats := stats }.processQuery env task frame request question cacheNow
        writeFails armFails sent := by
  refine ⟨{ worker.stats with acceptedQueries := worker.stats.acceptedQueries + 1 }, ?_⟩
  unfold processDatagram
  dsimp only
  rw [if_neg (by simp [hstop]), haccepts]
  dsimp only
  rw [hquestions]

/-- The query of an accepted datagram is the one that `evaluate_datagram` saw. -/
theorem accepted_of_accepts {datagram : ClientDatagram} {request : Message} {question : Question}
    (haccepts : datagram.Accepts request) (hquestions : request.questions = [question]) :
    Accepted request question := by
  obtain ⟨request', question', haccepts', haccepted⟩ :=
    accepted_of_evaluateDatagram (congrArg DatagramDecision.outcome haccepts)
  obtain rfl : request' = request := by
    simpa using haccepts'.symm.trans haccepts
  obtain rfl : question' = question := by
    simpa using haccepted.questions.symm.trans hquestions
  exact haccepted

/-- `next` is the state in which the client of a blocked query is about to be
refused. -/
structure Refuses (worker next : Worker) (task : TaskId) (frame : Frame) (request : Message) :
    Prop where
  cache : next.cache = worker.cache
  upstream : next.upstream = worker.upstream
  frames : ∃ refused, refused ≠ [] ∧
    makeErrorResponse request .refused true downstreamResponseBudget = .ok refused ∧
    next.frames = Function.update worker.frames task
      (some ⟨frame.datagram, .responding refused, true⟩)

/-- What the first piece of the coroutine does with an accepted query. -/
theorem processDatagram_accepted (env : Environment) (worker : Worker) {request : Message}
    {question : Question} (haccepts : frame.datagram.Accepts request)
    (hquestions : request.questions = [question])
    (hstop : worker.upstream.scheduler.stopRequested = false) (task : TaskId)
    (cacheNow : TimePoint) (writeFails armFails : Bool) (sent : SendOutcome) :
    let next := worker.processDatagram env task frame cacheNow writeFails armFails sent
    if worker.matchesFilter env question.name then Refuses worker next task frame request
    else Moves worker next task frame := by
  intro next
  obtain ⟨stats, hprocess⟩ := processDatagram_of_accepts env worker haccepts hquestions hstop task
    cacheNow writeFails armFails sent
  split
  · rename_i hmatches
    obtain ⟨refused, stats', hwrite, hne, heq⟩ := processQuery_blocked
      (accepted_of_accepts haccepts hquestions)
      (hmatches : { worker with stats := stats }.matchesFilter env _ = _)
      task frame cacheNow writeFails armFails sent
    have hnext : next = { worker with stats := stats' }.respondWith task
        { frame with blocked := true } refused := hprocess.trans heq
    rw [hnext]
    exact ⟨rfl, rfl, refused, hne, hwrite, rfl⟩
  · rename_i hmatches
    show Moves worker (worker.processDatagram env task frame cacheNow writeFails armFails sent) task
      frame
    rw [hprocess]
    have hpassed : worker.matchesFilter env question.name = false := by
      simpa using hmatches
    exact moves_processQuery env { worker with stats := stats } hpassed task frame request cacheNow
      writeFails armFails sent

/-- What the first piece of the coroutine does. -/
theorem moves_processDatagram (env : Environment) (worker : Worker) (task : TaskId) (frame : Frame)
    (cacheNow : TimePoint) (writeFails armFails : Bool) (sent : SendOutcome) :
    let next := worker.processDatagram env task frame cacheNow writeFails armFails sent
    Moves worker next task frame ∨
      Moves worker next task { frame with blocked := true } ∧ Untouched worker next := by
  intro next
  by_cases hnot : worker.upstream.scheduler.stopRequested = true ∨
      (evaluateDatagram frame.datagram.packet frame.datagram.truncated).outcome ≠ .accepted
  · exact .inl (moves_processDatagram_of_not_accepted task frame hnot cacheNow writeFails armFails
      sent)
  · rw [not_or, not_not] at hnot
    obtain ⟨hstop, houtcome⟩ := hnot
    obtain ⟨request, question, haccepts, haccepted⟩ := accepted_of_evaluateDatagram houtcome
    have hprocess := processDatagram_accepted env worker haccepts haccepted.questions
      (by simpa using hstop) task cacheNow writeFails armFails sent
    dsimp only at hprocess
    split at hprocess
    · obtain ⟨refused, -, -, hframes⟩ := hprocess.frames
      exact .inr ⟨⟨_, hframes⟩, hprocess.cache, worker.upstream.scheduler, hprocess.upstream⟩
    · exact .inl hprocess

theorem frames_storeResponse (worker : Worker) (request : Message) (question : Question)
    (key : CacheKey) (response : Bytes) (cacheNow : TimePoint) (cachingFails emplaceFails : Bool) :
    (worker.storeResponse request question key response cacheNow cachingFails emplaceFails).frames =
      worker.frames := by
  unfold storeResponse
  split
  · rfl
  split
  · rfl
  split
  · rfl
  split
  · rfl
  dsimp only
  split
  · rfl
  · rfl

theorem moves_resumeDatagram (env : Environment) (worker : Worker) (task : TaskId) (frame : Frame)
    (request : Message) (question : Question) (cacheKey : Option CacheKey) (query : QueryId)
    (cacheNow : TimePoint) (cachingFails emplaceFails : Bool) :
    Moves worker (worker.resumeDatagram env task frame request question cacheKey query cacheNow
      cachingFails emplaceFails) task frame := by
  unfold resumeDatagram
  dsimp only
  split
  · exact ⟨_, rfl⟩
  split
  · exact ⟨_, rfl⟩
  · cases cacheKey with
    | none => exact moves_orServFail _ task frame request _
    | some key =>
      obtain ⟨stage, hstage⟩ := moves_orServFail
        ({ worker with upstream := worker.upstream.destroyQuery env.upstream query }.storeResponse
          request question key (worker.upstream.queries query).result.response cacheNow cachingFails
          emplaceFails) task frame request (worker.upstream.queries query).result.response
      rw [frames_storeResponse] at hstage
      exact ⟨stage, hstage⟩
  · exact moves_orServFail _ task frame request _

theorem moves_finishDatagram (worker : Worker) (task : TaskId) (frame : Frame) (response : Bytes)
    (sent : SendOutcome) :
    Moves worker (worker.finishDatagram task frame response sent) task frame ∧
      Untouched worker (worker.finishDatagram task frame response sent) := by
  unfold finishDatagram
  split
  · unfold sendResponse
    dsimp only
    split
    · exact ⟨⟨_, rfl⟩, rfl, _, rfl⟩
    · exact ⟨⟨_, rfl⟩, rfl, _, rfl⟩
  · exact ⟨⟨_, rfl⟩, rfl, _, rfl⟩

theorem moves_failDatagram (env : Environment) (worker : Worker) (task : TaskId) (frame : Frame) :
    Moves worker (worker.failDatagram env task frame) task frame ∧
      ((∀ request question cacheKey query,
          frame.stage ≠ .awaiting request question cacheKey query) →
        Untouched worker (worker.failDatagram env task frame)) := by
  unfold failDatagram
  dsimp only
  split
  · rename_i request question cacheKey query hstage
    exact ⟨⟨_, rfl⟩, fun h => absurd hstage (h _ _ _ _)⟩
  · exact ⟨⟨_, rfl⟩, fun _ => ⟨rfl, _, rfl⟩⟩

/-! ## Steps -/

/-- The coroutine that acts keeps its datagram, and what the filter said; when it
said that the query is blocked, the cache and the channel are left alone. -/
theorem step_actor (h : Inv worker) {label : Label} (hstep : step env worker label = some next)
    (hactor : label.actor = some task) :
    ∃ frame frame', worker.frames task = some frame ∧
      next.frames = Function.update worker.frames task (some frame') ∧
      frame'.datagram = frame.datagram ∧ (frame.blocked = true → frame'.blocked = true) ∧
      (frame'.blocked = true → Untouched worker next) := by
  cases step_eq_some.mp hstep with
  | upstream | receive | refresh | hangup => cases hactor
  | @process task' datagram blocked cacheNow writeFails armFails sent hrunning =>
    obtain rfl := Option.some.inj hactor
    have hframe := (running_eq_some hrunning).2
    have hblocked : blocked = false := h.frames _ _ hframe
    rcases moves_processDatagram env worker task' ⟨datagram, .created, blocked⟩ cacheNow writeFails
      armFails sent with ⟨stage, hmoves⟩ | ⟨⟨stage, hmoves⟩, huntouched⟩
    · exact ⟨_, _, hframe, hmoves, rfl, id, by simp [hblocked]⟩
    · exact ⟨_, _, hframe, hmoves, rfl, fun _ => rfl, fun _ => huntouched⟩
  | @resume task' _ request question cacheKey query blocked cacheNow cachingFails emplaceFails
      hrunning =>
    obtain rfl := Option.some.inj hactor
    have hframe := (running_eq_some hrunning).2
    have hblocked : blocked = false := (h.frames _ _ hframe).1
    obtain ⟨stage, hmoves⟩ :=
      moves_resumeDatagram env worker task' _ request question cacheKey query
      cacheNow cachingFails emplaceFails
    exact ⟨_, _, hframe, hmoves, rfl, id, by simp [hblocked]⟩
  | @respond task' datagram response blocked sent hrunning =>
    obtain rfl := Option.some.inj hactor
    obtain ⟨⟨stage, hmoves⟩, huntouched⟩ := moves_finishDatagram worker task'
      ⟨datagram, .responding response, blocked⟩ response sent
    exact ⟨_, _, (running_eq_some hrunning).2, hmoves, rfl, id, fun _ => huntouched⟩
  | @fail task' frame hrunning =>
    obtain rfl := Option.some.inj hactor
    have hframe := (running_eq_some hrunning).2
    obtain ⟨⟨stage, hmoves⟩, huntouched⟩ := moves_failDatagram env worker task' frame
    refine ⟨frame, _, hframe, hmoves, rfl, id, fun hblocked => huntouched ?_⟩
    -- a coroutine that waits for the channel was not blocked
    intro request question cacheKey query hstage
    have hok := h.frames _ _ hframe
    simp only [FrameOk, hstage] at hok
    rw [hok.1] at hblocked
    cases hblocked

/-- No step forgets a datagram, or that its query was blocked. -/
theorem step_keeps_frame (h : Inv worker) {label : Label}
    (hstep : step env worker label = some next) (hframe : worker.frames task = some frame) :
    ∃ frame', next.frames task = some frame' ∧ frame'.datagram = frame.datagram ∧
      (frame.blocked = true → frame'.blocked = true) := by
  cases hactor : label.actor with
  | some actor =>
    obtain ⟨before, after, hbefore, hnext, hdatagram, hblocked, -⟩ := step_actor h hstep hactor
    rw [hnext]
    by_cases hself : task = actor
    · subst hself
      obtain rfl := Option.some.inj (hframe.symm.trans hbefore)
      exact ⟨after, Function.update_self _ _ _, hdatagram, hblocked⟩
    · exact ⟨frame, by rw [Function.update_of_ne hself, hframe], rfl, id⟩
  | none =>
    suffices hkept : next.frames task = worker.frames task from
      ⟨frame, hkept.trans hframe, rfl, id⟩
    cases step_eq_some.mp hstep with
    | process | resume | respond | fail => cases hactor
    | upstream | refresh | hangup => rfl
    | receive datagram hfresh hnone =>
      refine Function.update_of_ne ?_ _ _
      rintro rfl
      rw [hnone] at hframe
      cases hframe

/-! ## The contract -/

theorem inv_initial (cache : CacheShard) (snapshot : Option DomainBlocklist) :
    Inv (initial cache snapshot) where
  upstream := System.inv_initial
  frames _ _ h := by cases h
  sent _ h := by cases h
  once := List.nodup_nil

theorem inv_run {cache : CacheShard} {snapshot : Option DomainBlocklist} {labels : List Label}
    (hrun : run env cache snapshot labels = some worker) : Inv worker :=
  Transition.run_invariant Inv (fun _ label _ h hstep => inv_step env label h hstep)
    (inv_initial cache snapshot) hrun

/-- The contract of `process_datagram`.  In every run of a worker, over any cache
contents and with any snapshots:

* a datagram gets at most one response, which goes to its own client;
* the response to an accepted datagram has at most 512 bytes, parses, and answers
  the question of the client under its id; if its query was blocked, the code is
  `REFUSED`;
* whether it is blocked is what the snapshot says when it is processed; then the
  refusal is the response, and in every step of its coroutine the cache and the
  channel stay as they are;
* and no step forgets this. -/
theorem one_response_per_datagram (env : Environment) {cache : CacheShard}
    {snapshot : Option DomainBlocklist} {labels : List Label} {worker : Worker}
    (hrun : run env cache snapshot labels = some worker) :
    (worker.sent.map Sent.task).Nodup ∧
    (∀ entry ∈ worker.sent, ∃ frame, worker.frames entry.task = some frame ∧
      entry.clientAddress = frame.datagram.clientAddress ∧
      ∀ request, frame.datagram.Accepts request →
        ∃ message, RespondsTo request entry.response message ∧
          (frame.blocked = true → message.header.responseCode = ResponseCode.refused.code)) ∧
    (∀ task frame request question cacheNow writeFails armFails sent next,
      worker.frames task = some frame → frame.datagram.Accepts request →
      request.questions = [question] → worker.upstream.scheduler.stopRequested = false →
      step env worker (.process task cacheNow writeFails armFails sent) = some next →
      if worker.matchesFilter env question.name then Refuses worker next task frame request
      else ∃ stage, next.frames = Function.update worker.frames task
        (some ⟨frame.datagram, stage, false⟩)) ∧
    (∀ label task frame next, step env worker label = some next → label.actor = some task →
      next.frames task = some frame → frame.blocked = true → Untouched worker next) ∧
    (∀ label task frame next, step env worker label = some next → worker.frames task = some frame →
      ∃ frame', next.frames task = some frame' ∧ frame'.datagram = frame.datagram ∧
        (frame.blocked = true → frame'.blocked = true)) := by
  have h := inv_run hrun
  refine ⟨h.once, ?_, ?_, ?_, fun _ _ _ _ hstep hframe => step_keeps_frame h hstep hframe⟩
  · intro entry hentry
    obtain ⟨frame, hframe, -, haddress, hgood⟩ := h.sent entry hentry
    exact ⟨frame, hframe, haddress, hgood⟩
  · intro task frame request question cacheNow writeFails armFails sent next hframe haccepts
      hquestions hstop hstep
    cases step_eq_some.mp hstep with
    | @process _ datagram blocked _ _ _ _ hrunning =>
      have hcreated := (running_eq_some hrunning).2
      obtain rfl := Option.some.inj (hframe.symm.trans hcreated)
      have hblocked : blocked = false := h.frames _ _ hcreated
      subst hblocked
      exact processDatagram_accepted env worker haccepts hquestions hstop task cacheNow writeFails
        armFails sent
  · intro label task frame next hstep hactor hframe hblocked
    obtain ⟨before, after, -, hnext, -, -, huntouched⟩ := step_actor h hstep hactor
    rw [hnext, Function.update_self] at hframe
    exact huntouched (Option.some.inj hframe ▸ hblocked)

/-! ## A blocked query, as an example -/

def sampleEnvironment : Environment where
  upstream := System.sampleEnvironment
  hash item := UInt64.ofNat item.length * 0x9e3779b97f4a7c15

/-- The blocklist of the one rule `ad`. -/
def sampleBlocklist : DomainBlocklist :=
  (DomainBlocklist.build sampleEnvironment.hash (fun _ => false) (2 ^ 58)
    [[0x61, 0x64]]).toOption.get
    rfl

/-- A query for the address of `x.AD`. -/
def sampleQuery : ClientDatagram where
  packet := [0, 7, 1, 0, 0, 1, 0, 0, 0, 0, 0, 0, 1, 0x78, 2, 0x41, 0x44, 0, 0, 1, 0, 1]
  clientAddress := [127, 0, 0, 1]
  truncated := false

def sampleRequest : Message :=
  (evaluateDatagram sampleQuery.packet sampleQuery.truncated).request.get rfl

/-- The query is received, processed and refused. -/
def sampleRefused : List Label :=
  [.receive 0 sampleQuery, .upstream .resume, .process 0 5 false false (.sent 22),
    .respond 0 (.sent 22)]

theorem response_when_blocked :
    ∃ worker entry message,
      run sampleEnvironment { capacity := 8 } (some sampleBlocklist) sampleRefused = some worker ∧
      worker.sent = [entry] ∧ RespondsTo sampleRequest entry.response message ∧
      message.header.responseCode = ResponseCode.refused.code := by
  obtain ⟨worker, entry, hrun, hsent, hframe⟩ : ∃ worker entry,
      run sampleEnvironment { capacity := 8 } (some sampleBlocklist) sampleRefused = some worker ∧
      worker.sent = [entry] ∧ worker.frames entry.task = some ⟨sampleQuery, .returned, true⟩ :=
    ⟨_, _, rfl, rfl, rfl⟩
  obtain ⟨frame, hsame, -, hresponds⟩ :=
    (one_response_per_datagram sampleEnvironment hrun).2.1 entry (by simp [hsent])
  obtain rfl := Option.some.inj (hframe.symm.trans hsame)
  obtain ⟨message, hmessage, hrefused⟩ := hresponds sampleRequest rfl
  exact ⟨worker, entry, message, hrun, hsent, hmessage, hrefused rfl⟩

end Worker

end DnsPro.Server
