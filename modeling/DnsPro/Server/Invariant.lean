import DnsPro.Server.WorkerLoop

/-!
# The invariant of the worker

A coroutine that waits for the upstream server waits for a query that was made
with the header and the question of its own client, and a coroutine that is about
to respond has a response that its client may get.
-/

namespace DnsPro.Server

open DnsPro.Cache DnsPro.Filter DnsPro.Protocol DnsPro.Runtime DnsPro.Upstream

/-- `evaluate_datagram` accepts the datagram as this request. -/
def ClientDatagram.Accepts (datagram : ClientDatagram) (request : Message) : Prop :=
  evaluateDatagram datagram.packet datagram.truncated =
    { outcome := .accepted, request := some request }

/-- The response to an accepted datagram is one that its client may get, and a
blocked query is refused. -/
def Frame.Good (frame : Frame) (response : Bytes) : Prop :=
  ∀ request, frame.datagram.Accepts request →
    ∃ message, RespondsTo request response message ∧
      (frame.blocked = true → message.header.responseCode = ResponseCode.refused.code)

/-- What the stage of a coroutine promises. -/
def FrameOk (system : System) (task : TaskId) (frame : Frame) : Prop :=
  match frame.stage with
  | .created => frame.blocked = false
  | .awaiting request question _ query =>
    frame.blocked = false ∧ frame.datagram.Accepts request ∧ Accepted request question ∧
      System.Asked query task request.header question system
  | .responding response => response ≠ [] → frame.Good response
  | .returned => True

namespace Worker

structure Inv (worker : Worker) : Prop where
  upstream : System.Inv none worker.upstream
  frames : ∀ task frame, worker.frames task = some frame → FrameOk worker.upstream task frame
  sent : ∀ entry ∈ worker.sent, ∃ frame, worker.frames entry.task = some frame ∧
    frame.stage = .returned ∧ entry.clientAddress = frame.datagram.clientAddress ∧
    frame.Good entry.response
  once : (worker.sent.map Sent.task).Nodup

variable {env : Environment} {worker next : Worker} {task : TaskId} {frame frame' : Frame}

/-- The queries that coroutines wait for are still theirs. -/
def KeepsAsked (system next : System) : Prop :=
  ∀ query task header question, System.Asked query task header question system →
    System.Asked query task header question next

theorem frameOk_keep {system next : System} (h : FrameOk system task frame)
    (hasked : KeepsAsked system next) : FrameOk next task frame := by
  unfold FrameOk at h ⊢
  split
  · rename_i hstage
    rwa [hstage] at h
  · rename_i request question cacheKey query hstage
    rw [hstage] at h
    obtain ⟨hblocked, haccepts, haccepted, hquery⟩ := h
    exact ⟨hblocked, haccepts, haccepted, hasked _ _ _ _ hquery⟩
  · rename_i response hstage
    rwa [hstage] at h
  · trivial

/-- A step of the channel, the timers or the scheduler. -/
theorem Inv.setUpstream (h : Inv worker) {system : System} (hinv : System.Inv none system)
    (hasked : KeepsAsked worker.upstream system) : Inv { worker with upstream := system } where
  upstream := hinv
  frames task frame hframe := frameOk_keep (h.frames task frame hframe) hasked
  sent := h.sent
  once := h.once

/-- The coroutine of `task` executes. -/
structure Acting (worker : Worker) (task : TaskId) (frame : Frame) : Prop where
  inv : Inv worker
  frame_eq : worker.frames task = some frame
  executing : worker.upstream.executing task
  open_ : frame.stage ≠ .returned

/-- The counters, the cache, the snapshot and the flag of the socket are not part
of the invariant. -/
theorem Acting.congr (h : Acting worker task frame) (hupstream : next.upstream = worker.upstream)
    (hframes : next.frames = worker.frames) (hsent : next.sent = worker.sent) :
    Acting next task frame := by
  refine ⟨⟨?_, ?_, ?_, ?_⟩, ?_, ?_, h.open_⟩
  · rw [hupstream]
    exact h.inv.upstream
  · rw [hupstream, hframes]
    exact h.inv.frames
  · rw [hsent, hframes]
    exact h.inv.sent
  · rw [hsent]
    exact h.inv.once
  · rw [hframes]
    exact h.frame_eq
  · rw [hupstream]
    exact h.executing

theorem Acting.countInternalError (h : Acting worker task frame) :
    Acting worker.countInternalError task frame :=
  h.congr rfl rfl rfl

theorem Acting.setStats (h : Acting worker task frame) (stats : WorkerStats) :
    Acting { worker with stats := stats } task frame :=
  h.congr rfl rfl rfl

/-- An open coroutine has sent nothing. -/
theorem Acting.not_sent (h : Acting worker task frame) :
    task ∉ worker.sent.map Sent.task := by
  intro hmem
  obtain ⟨entry, hentry, rfl⟩ := List.mem_map.mp hmem
  obtain ⟨other, hother, hstage, -⟩ := h.inv.sent entry hentry
  rw [h.frame_eq] at hother
  exact h.open_ (Option.some.inj hother ▸ hstage)

/-- The coroutine goes on to another stage. -/
theorem Acting.advance (h : Acting worker task frame) (hupstream : System.Inv none next.upstream)
    (hasked : KeepsAsked worker.upstream next.upstream)
    (hframes : next.frames = Function.update worker.frames task (some frame'))
    (hsent : next.sent = worker.sent) (hok : FrameOk next.upstream task frame') : Inv next where
  upstream := hupstream
  frames other otherFrame hother := by
    rw [hframes] at hother
    by_cases hself : other = task
    · subst hself
      rw [Function.update_self] at hother
      exact Option.some.inj hother ▸ hok
    · rw [Function.update_of_ne hself] at hother
      exact frameOk_keep (h.inv.frames other otherFrame hother) hasked
  sent entry hentry := by
    rw [hsent] at hentry
    obtain ⟨other, hother, hrest⟩ := h.inv.sent entry hentry
    refine ⟨other, ?_, hrest⟩
    rw [hframes, Function.update_of_ne, hother]
    rintro rfl
    exact h.not_sent (List.mem_map_of_mem hentry)
  once := by
    rw [hsent]
    exact h.inv.once

/-! ## The ends of the pieces -/

theorem keepsAsked_setScheduler (system : System) (scheduler : Scheduler) :
    KeepsAsked system (system.setScheduler scheduler) :=
  fun _ _ _ _ h => h.frame (Nat.le_refl _) rfl

theorem Acting.completed (h : Acting worker task frame) :
    System.Inv none (worker.upstream.setScheduler (worker.upstream.scheduler.complete task)) :=
  h.inv.upstream.setScheduler (Scheduler.complete_keeps h.inv.upstream.scheduler h.executing)

theorem Acting.coReturn (h : Acting worker task frame) (frame' : Frame) :
    Inv (worker.coReturn task frame') :=
  h.advance h.completed (keepsAsked_setScheduler _ _) rfl rfl trivial

theorem Acting.respondWith (h : Acting worker task frame) {response : Bytes}
    (hgood : response ≠ [] → frame'.Good response) :
    Inv (worker.respondWith task frame' response) :=
  h.advance h.inv.upstream (fun _ _ _ _ hasked => hasked) rfl rfl hgood

/-- An error response is one that the client may get. -/
theorem good_error (frame : Frame) {request : Message} {question : Question}
    (haccepts : frame.datagram.Accepts request) (haccepted : Accepted request question)
    {code : ResponseCode} {response : Bytes}
    (hresponse : makeErrorResponse request code true downstreamResponseBudget = .ok response)
    (hcode : frame.blocked = true → code = .refused) : frame.Good response := by
  intro request' haccepts'
  obtain rfl : request' = request := by
    have := haccepts'.symm.trans haccepts
    simpa using this
  obtain ⟨written, message, hwrite, -, hresponds, hheader⟩ := haccepted.error code true
  obtain rfl := Except.ok.inj (hwrite.symm.trans hresponse)
  refine ⟨message, hresponds, fun hblocked => ?_⟩
  rw [hheader, hcode hblocked]
  rfl

theorem Acting.orServFail (h : Acting worker task frame) {request : Message} {question : Question}
    (haccepts : frame'.datagram.Accepts request) (haccepted : Accepted request question)
    {response : Bytes} (hblocked : response = [] → frame'.blocked = false)
    (hgood : response ≠ [] → frame'.Good response) :
    Inv (worker.orServFail task frame' request response) := by
  unfold Worker.orServFail
  split
  · rename_i hempty
    split
    · exact h.countInternalError.coReturn frame'
    · rename_i servfail hwrite
      refine h.respondWith fun _ => good_error frame' haccepts haccepted hwrite ?_
      simp [hblocked hempty]
  · exact h.respondWith hgood

/-! ## Up to the suspension -/

theorem Acting.awaitUpstream (h : Acting worker task frame) {request : Message}
    {question : Question}
    (hblocked : frame'.blocked = false) (haccepts : frame'.datagram.Accepts request)
    (haccepted : Accepted request question) (cacheKey : Option CacheKey)
    (writeFails armFails : Bool) (sent : SendOutcome) :
    Inv (worker.awaitUpstream env task frame' request question cacheKey writeFails armFails sent) := by
  have hinv := h.inv.upstream.makeQuery env.upstream task request.header question
  have hasked := System.asked_query env.upstream worker.upstream task request.header question
  generalize hmade : worker.upstream.query env.upstream task request.header question = made
    at hinv hasked
  have hnew : made.queries worker.upstream.queryCount =
      { alive := true, frame := task, owner := true, header := request.header, question := question
        deadline := worker.upstream.queryDeadline env.upstream } := by
    subst hmade
    exact Function.update_self _ _ _
  have hexecuting : made.executing (made.queries worker.upstream.queryCount).frame := by
    rw [hnew]
    subst hmade
    exact h.executing
  have hkeeps : KeepsAsked worker.upstream made := by
    intro query other header question' hother
    subst hmade
    exact hother.frame (Nat.le_succ _) (Function.update_of_ne (Nat.ne_of_lt hother.made) _ _)
  unfold Worker.awaitUpstream
  dsimp only
  rw [hmade]
  refine h.advance ?_ ?_ rfl rfl ⟨hblocked, haccepts, haccepted, ?_⟩
  · exact hinv.awaitQuery env.upstream (by rw [hnew]) hexecuting writeFails armFails sent
  · intro query other header question' hother
    exact (hkeeps query other header question' hother).awaitQuery env.upstream _ writeFails armFails
      sent
  · exact hasked.awaitQuery env.upstream _ writeFails armFails sent

/-- The cache gives a response to the question, or nothing. -/
theorem Acting.lookupCache (h : Acting worker task frame) {request : Message} {question : Question}
    (haccepted : Accepted request question) (cacheNow : TimePoint)
    {result : Option (Bytes × Option CacheKey)}
    (hlookup : worker.lookupCache request question cacheNow = (result, next)) :
    Acting next task frame ∧ ∀ response cacheKey, result = some (response, cacheKey) →
      response ≠ [] → ∃ message, RespondsTo request response message := by
  unfold Worker.lookupCache at hlookup
  dsimp only at hlookup
  split at hlookup
  · split at hlookup
    · rename_i hit hfound
      split at hlookup
      · rename_i response hresponse
        obtain ⟨rfl, rfl⟩ := Prod.mk.inj hlookup
        refine ⟨h.congr rfl rfl rfl, ?_⟩
        intro response' cacheKey heq _
        obtain ⟨rfl, -⟩ := Prod.mk.inj (Option.some.inj heq)
        obtain ⟨message, -, hresponds⟩ := cacheHit_respondsTo haccepted hresponse
        exact ⟨message, hresponds⟩
      · obtain ⟨rfl, rfl⟩ := Prod.mk.inj hlookup
        exact ⟨h.congr rfl rfl rfl, by simp⟩
      · obtain ⟨rfl, rfl⟩ := Prod.mk.inj hlookup
        exact ⟨h.congr rfl rfl rfl, by simp⟩
    · obtain ⟨rfl, rfl⟩ := Prod.mk.inj hlookup
      exact ⟨h.congr rfl rfl rfl, by simp⟩
  · obtain ⟨rfl, rfl⟩ := Prod.mk.inj hlookup
    exact ⟨h.congr rfl rfl rfl, by simp⟩

/-- A blocked query is refused, without the cache and the channel. -/
theorem processQuery_blocked {request : Message} {question : Question}
    (haccepted : Accepted request question)
    (hmatches : worker.matchesFilter env question.name = true) (task : TaskId) (frame : Frame)
    (cacheNow : TimePoint) (writeFails armFails : Bool) (sent : SendOutcome) :
    ∃ refused stats,
      makeErrorResponse request .refused true downstreamResponseBudget = .ok refused ∧
      refused ≠ [] ∧
      worker.processQuery env task frame request question cacheNow writeFails armFails sent =
        { worker with stats := stats }.respondWith task { frame with blocked := true } refused := by
  obtain ⟨refused, message, hwrite, hne, -, -⟩ := haccepted.error .refused true
  refine ⟨refused, { worker.stats with blockedQueries := worker.stats.blockedQueries + 1 }, hwrite,
    hne, ?_⟩
  unfold processQuery filterQuery
  rw [if_pos hmatches, hwrite]
  dsimp only
  rw [if_neg hne]
  unfold orServFail
  rw [if_neg hne]

theorem Acting.processQuery (h : Acting worker task frame) {request : Message} {question : Question}
    (hblocked : frame.blocked = false) (haccepts : frame.datagram.Accepts request)
    (haccepted : Accepted request question) (cacheNow : TimePoint) (writeFails armFails : Bool)
    (sent : SendOutcome) :
    Inv (worker.processQuery env task frame request question cacheNow writeFails armFails sent) := by
  cases hmatches : worker.matchesFilter env question.name with
  | true =>
    obtain ⟨refused, stats, hwrite, -, hprocess⟩ :=
      processQuery_blocked haccepted hmatches task frame
      cacheNow writeFails armFails sent
    rw [hprocess]
    exact (h.setStats stats).respondWith fun _ =>
      good_error { frame with blocked := true } haccepts haccepted hwrite fun _ => rfl
  | false =>
    unfold Worker.processQuery filterQuery
    rw [if_neg (by simp [hmatches])]
    dsimp only
    rw [if_pos rfl]
    split
    · rename_i next heq
      exact (h.lookupCache haccepted cacheNow heq).1.coReturn frame
    · rename_i response cacheKey next heq
      obtain ⟨hacting, hresponds⟩ := h.lookupCache haccepted cacheNow heq
      split
      · exact hacting.awaitUpstream hblocked haccepts haccepted cacheKey writeFails armFails sent
      · refine hacting.orServFail haccepts haccepted (fun _ => hblocked) fun hne => ?_
        intro request' haccepts'
        obtain rfl : request' = request := by
          simpa using haccepts'.symm.trans haccepts
        obtain ⟨message, hmessage⟩ := hresponds response cacheKey rfl hne
        exact ⟨message, hmessage, by simp [hblocked]⟩

/-- A response that was made without a request is for a datagram that is not
accepted. -/
theorem good_of_not_accepted {response : Bytes}
    (h : (evaluateDatagram frame.datagram.packet frame.datagram.truncated).outcome ≠ .accepted) :
    frame.Good response := by
  intro request haccepts
  rw [haccepts] at h
  exact absurd rfl h

theorem Acting.processDatagram (h : Acting worker task frame) (hblocked : frame.blocked = false)
    (cacheNow : TimePoint) (writeFails armFails : Bool) (sent : SendOutcome) :
    Inv (worker.processDatagram env task frame cacheNow writeFails armFails sent) := by
  unfold Worker.processDatagram
  dsimp only
  split
  · exact h.coReturn frame
  split
  · exact h.coReturn frame
  · rename_i houtcome
    exact (h.setStats _).respondWith fun _ => good_of_not_accepted (by simp [houtcome])
  · rename_i houtcome
    exact (h.setStats _).respondWith fun _ => good_of_not_accepted (by simp [houtcome])
  · rename_i houtcome
    exact (h.setStats _).respondWith fun _ => good_of_not_accepted (by simp [houtcome])
  · exact (h.setStats _).coReturn frame
  · rename_i houtcome
    obtain ⟨request, question, haccepts, haccepted⟩ := accepted_of_evaluateDatagram houtcome
    rw [haccepts]
    dsimp only
    rw [haccepted.questions]
    exact (h.setStats _).processQuery hblocked haccepts haccepted cacheNow writeFails armFails sent

/-! ## From the suspension on -/

/-- The awaiter of a coroutine that executes is not pending, so destroying it
only marks it. -/
theorem Acting.destroyQuery (h : Acting worker task frame) {query : QueryId} {header : Header}
    {question : Question}
    (hasked : System.Asked query task header question worker.upstream) :
    Acting { worker with upstream := worker.upstream.destroyQuery env.upstream query }
      task frame := by
  have hpending : (worker.upstream.queries query).state ≠ .pending := by
    intro hpending
    have hpoint := (h.inv.upstream.pending query hpending).waiting.point_eq
    rw [hasked.frame_eq, h.executing] at hpoint
    cases hpoint
  refine ⟨h.inv.setUpstream (h.inv.upstream.destroyQuery env.upstream query) ?_, h.frame_eq, ?_,
    h.open_⟩
  · intro _ _ _ _ hother
    exact hother.destroyQuery h.inv.upstream
  · rw [h.inv.upstream.destroyQuery_eq env.upstream hpending]
    exact h.executing

theorem Acting.storeResponse (h : Acting worker task frame) (request : Message)
    (question : Question) (key : CacheKey) (response : Bytes) (cacheNow : TimePoint)
    (cachingFails emplaceFails : Bool) :
    Acting (worker.storeResponse request question key response cacheNow cachingFails emplaceFails)
      task frame := by
  unfold Worker.storeResponse
  split
  · exact h.congr rfl rfl rfl
  split
  · exact h
  split
  · exact h
  split
  · exact h
  · dsimp only
    split
    · exact h.congr rfl rfl rfl
    · exact h.congr rfl rfl rfl

theorem Acting.resumeDatagram (h : Acting worker task frame) {request : Message}
    {question : Question}
    {query : QueryId} (hblocked : frame.blocked = false) (haccepts : frame.datagram.Accepts request)
    (haccepted : Accepted request question)
    (hasked : System.Asked query task request.header question worker.upstream)
    (cacheKey : Option CacheKey) (cacheNow : TimePoint) (cachingFails emplaceFails : Bool) :
    Inv (worker.resumeDatagram env task frame request question cacheKey query cacheNow cachingFails
      emplaceFails) := by
  have hdestroyed : Acting { worker with
      upstream := worker.upstream.destroyQuery env.upstream query } task frame :=
    h.destroyQuery hasked
  unfold Worker.resumeDatagram
  dsimp only
  split
  · exact hdestroyed.countInternalError.coReturn frame
  rename_i hstate
  rw [not_not] at hstate
  split
  · exact hdestroyed.coReturn frame
  · rename_i houtcome
    -- the bytes are those of a datagram that was accepted for this question
    obtain ⟨packet, message, hparse, hvalid, hresponse⟩ := hasked.answered hstate houtcome
    have hgood : frame.Good (worker.upstream.queries query).result.response := by
      intro request' haccepts'
      obtain rfl : request' = request := by
        simpa using haccepts'.symm.trans haccepts
      obtain ⟨message', -, hresponds⟩ := haccepted.upstream hparse hvalid
      rw [hresponse]
      exact ⟨message', hresponds, by simp [hblocked]⟩
    cases cacheKey with
    | none => exact hdestroyed.orServFail haccepts haccepted (fun _ => hblocked) fun _ => hgood
    | some key =>
      exact (hdestroyed.storeResponse request question key _ cacheNow cachingFails
        emplaceFails).orServFail haccepts haccepted (fun _ => hblocked) fun _ => hgood
  · exact hdestroyed.orServFail haccepts haccepted (fun _ => hblocked) (by simp)

theorem Acting.failDatagram (h : Acting worker task frame) :
    Inv (worker.failDatagram env task frame) := by
  have hok := h.inv.frames task frame h.frame_eq
  unfold Worker.failDatagram
  dsimp only
  split
  · rename_i request question cacheKey query hstage
    simp only [FrameOk, hstage] at hok
    exact (h.destroyQuery hok.2.2.2).countInternalError.coReturn frame
  · exact h.countInternalError.coReturn frame

/-! ## Sending -/

theorem Acting.sendResponse (h : Acting worker task frame) {response : Bytes}
    (hgood : frame.Good response) (sent : SendOutcome) :
    Inv ((worker.sendResponse task frame.datagram.clientAddress response sent).coReturn task
      frame) := by
  unfold Worker.sendResponse
  dsimp only
  split
  · exact (h.setStats _).coReturn frame
  · have hreturned := h.coReturn frame
    refine ⟨hreturned.upstream, hreturned.frames, ?_, ?_⟩
    · intro entry hentry
      rcases List.mem_append.mp hentry with hold | hnew
      · exact hreturned.sent entry hold
      · rw [List.mem_singleton.mp hnew]
        exact ⟨{ frame with stage := .returned }, Function.update_self _ _ _, rfl, rfl, hgood⟩
    · show ((worker.sent ++ [_]).map Sent.task).Nodup
      rw [List.map_append, List.nodup_append_comm, List.map_singleton, List.singleton_append,
        List.nodup_cons]
      exact ⟨h.not_sent, h.inv.once⟩

theorem Acting.finishDatagram (h : Acting worker task frame) {response : Bytes}
    (hgood : response ≠ [] → frame.Good response) (sent : SendOutcome) :
    Inv (worker.finishDatagram task frame response sent) := by
  unfold Worker.finishDatagram
  split
  · rename_i hsend
    exact h.sendResponse (hgood hsend.1) sent
  · exact h.coReturn frame

/-! ## Runs -/

theorem Inv.receiveDatagram (h : Inv worker) (hfresh : worker.upstream.fresh task)
    (hnone : worker.frames task = none) (datagram : ClientDatagram) :
    Inv (worker.receiveDatagram task datagram) := by
  have hupstream := h.upstream.setScheduler (Scheduler.spawn_keeps h.upstream.scheduler hfresh)
  refine ⟨hupstream, ?_, ?_, h.once⟩
  · intro other frame hframe
    change Function.update worker.frames task _ other = _ at hframe
    by_cases hself : other = task
    · subst hself
      rw [Function.update_self] at hframe
      exact Option.some.inj hframe ▸ rfl
    · rw [Function.update_of_ne hself] at hframe
      exact frameOk_keep (h.frames other frame hframe) (keepsAsked_setScheduler _ _)
  · intro entry hentry
    obtain ⟨frame, hframe, hrest⟩ := h.sent entry hentry
    refine ⟨frame, ?_, hrest⟩
    show Function.update worker.frames task _ entry.task = _
    rw [Function.update_of_ne, hframe]
    rintro rfl
    rw [hnone] at hframe
    cases hframe

theorem running_eq_some (h : worker.running task = some frame) :
    worker.upstream.executing task ∧ worker.frames task = some frame := by
  unfold running at h
  split at h
  · exact ⟨‹_›, h⟩
  · cases h

theorem Inv.acting (h : Inv worker) (hrunning : worker.running task = some frame)
    (hstage : frame.stage ≠ .returned) : Acting worker task frame :=
  ⟨h, (running_eq_some hrunning).2, (running_eq_some hrunning).1, hstage⟩

/-- What a step does, label by label. -/
inductive Stepped (env : Environment) (worker : Worker) : Label → Worker → Prop where
  | upstream {label : System.Label} {system : System}
      (hexternal : external worker.upstream label = true)
      (hsystem : worker.upstream.step env.upstream label = some system) :
      Stepped env worker (.upstream label) { worker with upstream := system }
  | receive {task : TaskId} (datagram : ClientDatagram) (hfresh : worker.upstream.fresh task)
      (hnone : worker.frames task = none) :
      Stepped env worker (.receive task datagram) (worker.receiveDatagram task datagram)
  | process {task : TaskId} {datagram : ClientDatagram} {blocked : Bool}
      (cacheNow : TimePoint) (writeFails armFails : Bool) (sent : SendOutcome)
      (hrunning : worker.running task = some ⟨datagram, .created, blocked⟩) :
      Stepped env worker (.process task cacheNow writeFails armFails sent)
        (worker.processDatagram env task ⟨datagram, .created, blocked⟩ cacheNow writeFails armFails
          sent)
  | resume {task : TaskId} {datagram : ClientDatagram} {request : Message} {question : Question}
      {cacheKey : Option CacheKey} {query : QueryId} {blocked : Bool}
      (cacheNow : TimePoint) (cachingFails emplaceFails : Bool)
      (hrunning : worker.running task =
        some ⟨datagram, .awaiting request question cacheKey query, blocked⟩) :
      Stepped env worker (.resume task cacheNow cachingFails emplaceFails)
        (worker.resumeDatagram env task
          ⟨datagram, .awaiting request question cacheKey query, blocked⟩
          request question cacheKey query cacheNow cachingFails emplaceFails)
  | respond {task : TaskId} {datagram : ClientDatagram} {response : Bytes} {blocked : Bool}
      (sent : SendOutcome)
      (hrunning : worker.running task = some ⟨datagram, .responding response, blocked⟩) :
      Stepped env worker (.respond task sent)
        (worker.finishDatagram task ⟨datagram, .responding response, blocked⟩ response sent)
  | fail {task : TaskId} {frame : Frame} (hrunning : worker.running task = some frame)
      (hstage : frame.stage ≠ .returned) :
      Stepped env worker (.fail task) (worker.failDatagram env task frame)
  | refresh (snapshot : Option DomainBlocklist) :
      Stepped env worker (.refresh snapshot) { worker with snapshot := snapshot }
  | hangup : Stepped env worker .hangup { worker with upstreamUsable := false }

/-- The one place where `step` is unfolded. -/
theorem step_eq_some {label : Label} :
    step env worker label = some next ↔ Stepped env worker label next := by
  constructor
  · intro hstep
    cases label with
    | upstream label =>
      simp only [step] at hstep
      split at hstep
      · obtain ⟨system, hsystem, rfl⟩ := Option.map_eq_some_iff.mp hstep
        exact .upstream ‹_› hsystem
      · cases hstep
    | receive task datagram =>
      obtain ⟨⟨hfresh, hnone⟩, rfl⟩ := Transition.enabled hstep
      exact .receive datagram hfresh (by simpa using hnone)
    | process task cacheNow writeFails armFails sent =>
      simp only [step] at hstep
      split at hstep
      · rename_i datagram blocked hrunning
        obtain rfl := Option.some.inj hstep
        exact .process cacheNow writeFails armFails sent hrunning
      · cases hstep
    | resume task cacheNow cachingFails emplaceFails =>
      simp only [step] at hstep
      split at hstep
      · rename_i datagram request question cacheKey query blocked hrunning
        obtain rfl := Option.some.inj hstep
        exact .resume cacheNow cachingFails emplaceFails hrunning
      · cases hstep
    | respond task sent =>
      simp only [step] at hstep
      split at hstep
      · rename_i datagram response blocked hrunning
        obtain rfl := Option.some.inj hstep
        exact .respond sent hrunning
      · cases hstep
    | fail task =>
      simp only [step] at hstep
      split at hstep
      · cases hstep
      · cases hstep
      · rename_i frame hopen hrunning
        obtain rfl := Option.some.inj hstep
        refine .fail hrunning fun hstage => hopen frame.datagram frame.blocked ?_
        rw [← hstage]
    | refresh snapshot =>
      obtain rfl := Option.some.inj hstep
      exact .refresh snapshot
    | hangup =>
      obtain rfl := Option.some.inj hstep
      exact .hangup
  · intro hstepped
    cases hstepped with
    | upstream hexternal hsystem =>
      simp only [step]
      rw [if_pos hexternal, hsystem]
      rfl
    | receive datagram hfresh hnone =>
      simp only [step]
      rw [if_pos ⟨hfresh, by simp [hnone]⟩]
    | process cacheNow writeFails armFails sent hrunning =>
      simp only [step]
      rw [hrunning]
    | resume cacheNow cachingFails emplaceFails hrunning =>
      simp only [step]
      rw [hrunning]
    | respond sent hrunning =>
      simp only [step]
      rw [hrunning]
    | @fail task frame hrunning hstage =>
      obtain ⟨datagram, stage, blocked⟩ := frame
      simp only [step]
      rw [hrunning]
      cases stage with
      | returned => exact absurd rfl hstage
      | created | awaiting | responding => rfl
    | refresh | hangup => rfl

theorem inv_step (env : Environment) (label : Label) (h : Inv worker)
    (hstep : step env worker label = some next) : Inv next := by
  cases step_eq_some.mp hstep with
  | upstream _ hsystem =>
    exact h.setUpstream (System.inv_step env.upstream _ h.upstream hsystem)
      fun _ _ _ _ hasked => hasked.step h.upstream _ hsystem
  | receive datagram hfresh hnone => exact h.receiveDatagram hfresh hnone datagram
  | process cacheNow writeFails armFails sent hrunning =>
    have hok := h.frames _ _ (running_eq_some hrunning).2
    exact (h.acting hrunning (by simp)).processDatagram hok cacheNow writeFails armFails sent
  | resume cacheNow cachingFails emplaceFails hrunning =>
    obtain ⟨hblocked, haccepts, haccepted, hasked⟩ := h.frames _ _ (running_eq_some hrunning).2
    exact (h.acting hrunning (by simp)).resumeDatagram hblocked haccepts haccepted hasked _
      cacheNow cachingFails emplaceFails
  | respond sent hrunning =>
    have hok := h.frames _ _ (running_eq_some hrunning).2
    exact (h.acting hrunning (by simp)).finishDatagram hok sent
  | fail hrunning hstage => exact (h.acting hrunning hstage).failDatagram
  | refresh | hangup => exact ⟨h.upstream, h.frames, h.sent, h.once⟩

end Worker

end DnsPro.Server
