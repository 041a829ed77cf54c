import DnsPro.Server.Asking

/-!
# How a coroutine ends

`Concluded` lists the reasons for which a coroutine returns.  Only its own step can end it, so it
is enough to look at the pieces of `process_datagram`: `Concludes` says of a piece that it ends
the coroutine for one of the reasons, or leaves it with something to send.
-/

namespace DnsPro.Server

open DnsPro.Cache DnsPro.Filter DnsPro.Protocol DnsPro.Runtime DnsPro.Upstream

/-- The datagram is not accepted, and there is no response to it. -/
def ClientDatagram.Silent (datagram : ClientDatagram) : Prop :=
  (evaluateDatagram datagram.packet datagram.truncated).outcome ≠ .accepted ∧
    (evaluateDatagram datagram.packet datagram.truncated).response = []

/-- A datagram that is dropped gets no response. -/
theorem response_of_dropped {packet : Bytes} {truncated : Bool}
    (h : (evaluateDatagram packet truncated).outcome = .dropped) :
    (evaluateDatagram packet truncated).response = [] := by
  unfold evaluateDatagram at h ⊢
  split at h
  · rename_i hlong
    rw [if_pos hlong]
    split at h
    · rename_i hprefix
      rw [if_pos hprefix]
    · cases h
  rename_i hlong
  rw [if_neg hlong]
  split at h
  · cases h
  split at h
  · rfl
  · split at h
    · cases h
    · cases h
  · cases h

namespace Worker

variable {env : Environment} {worker next : Worker} {task : TaskId} {frame frame' : Frame}
  {request : Message} {question : Question} {response : Bytes}

/-- Why the coroutine has returned. -/
inductive Concluded (worker next : Worker) (task : TaskId) (frame : Frame) : Prop where
  | sent {entry : Sent} (hentry : entry ∈ next.sent) (htask : entry.task = task)
  | silent (h : frame.datagram.Silent)
  | stopped (h : worker.upstream.scheduler.stopRequested = true)
  | oversized (h : worker.stats.oversizedResponses < next.stats.oversizedResponses)
  | failed (h : worker.stats.internalErrors < next.stats.internalErrors)
  | cancelled {request : Message} {question : Question} {cacheKey : Option CacheKey}
      {query : QueryId} (hstage : frame.stage = .awaiting request question cacheKey query)
      (hstate : (worker.upstream.queries query).state = .completed)
      (houtcome : (worker.upstream.queries query).result.outcome = .cancelled)

/-- The coroutine has something to send. -/
def Prepared (frame : Frame) : Prop :=
  ∀ response, frame.stage = .responding response → response ≠ [] ∨ frame.datagram.Silent

/-- The coroutine has returned for a reason, or has something to send. -/
def Concludes (worker next : Worker) (task : TaskId) (frame : Frame) : Prop :=
  ∀ frame', next.frames task = some frame' →
    (frame'.stage = .returned → Concluded worker next task frame) ∧ Prepared frame'

theorem concludes_coReturn (h : Concluded worker (next.coReturn task frame') task frame) :
    Concludes worker (next.coReturn task frame') task frame := by
  intro after hafter
  have hnext : (next.coReturn task frame').frames task =
    some { frame' with stage := .returned } := Function.update_self _ _ _
  obtain rfl := Option.some.inj (hnext.symm.trans hafter)
  exact ⟨fun _ => h, fun response hresponding => (by cases hresponding)⟩

theorem concludes_respondWith (worker next : Worker) (task : TaskId) (frame frame' : Frame)
    (h : response ≠ [] ∨ frame'.datagram.Silent) :
    Concludes worker (next.respondWith task frame' response) task frame := by
  intro after hafter
  have hnext : (next.respondWith task frame' response).frames task =
    some { frame' with stage := .responding response } := Function.update_self _ _ _
  obtain rfl := Option.some.inj (hnext.symm.trans hafter)
  refine ⟨fun hreturned => (by cases hreturned), fun other hother => ?_⟩
  obtain rfl := Stage.responding.inj hother
  exact h

/-- An accepted request gets an error, if nothing else. -/
theorem concludes_orServFail (worker next : Worker) (task : TaskId) (frame frame' : Frame)
    (haccepted : Accepted request question) (response : Bytes) :
    Concludes worker (next.orServFail task frame' request response) task frame := by
  obtain ⟨servfail, -, hwrite, hne, -, -⟩ := haccepted.error .servFail true
  unfold orServFail
  split
  · rw [hwrite]
    exact concludes_respondWith worker next task frame frame' (.inl hne)
  · rename_i hresponse
    exact concludes_respondWith worker next task frame frame' (.inl hresponse)

/-! ## The pieces -/

/-- Looking into the cache fails with an internal error, or not at all. -/
theorem lookupCache_failed {cacheNow : TimePoint}
    (hlookup : worker.lookupCache request question cacheNow = (none, next)) :
    worker.stats.internalErrors < next.stats.internalErrors := by
  unfold lookupCache at hlookup
  dsimp only at hlookup
  split at hlookup
  · split at hlookup
    · split at hlookup
      · cases hlookup
      · cases hlookup
      · obtain ⟨-, rfl⟩ := Prod.mk.inj hlookup
        exact Nat.lt_succ_self _
    · cases hlookup
  · cases hlookup

theorem concludes_awaitUpstream (env : Environment) (worker next : Worker) (task : TaskId)
    (frame frame' : Frame) (request : Message) (question : Question) (cacheKey : Option CacheKey)
    (writeFails armFails : Bool) (sent : SendOutcome) :
    Concludes worker
      (next.awaitUpstream env task frame' request question cacheKey writeFails armFails sent)
      task frame := by
  intro after hafter
  have hnext : (next.awaitUpstream env task frame' request question cacheKey writeFails armFails
      sent).frames task =
    some { frame' with stage := .awaiting request question cacheKey next.upstream.queryCount } :=
    Function.update_self _ _ _
  obtain rfl := Option.some.inj (hnext.symm.trans hafter)
  exact ⟨fun hreturned => (by cases hreturned), fun response hresponding => (by cases hresponding)⟩

theorem concludes_processQuery (hstats : worker.stats.internalErrors ≤ next.stats.internalErrors)
    (task : TaskId) (frame : Frame) (haccepted : Accepted request question)
    (cacheNow : TimePoint) (writeFails armFails : Bool) (sent : SendOutcome) :
    Concludes worker
      (next.processQuery env task frame request question cacheNow writeFails armFails sent)
      task frame := by
  cases hmatches : next.matchesFilter env question.name with
  | true =>
    obtain ⟨refused, stats, -, hne, hprocess⟩ :=
      processQuery_blocked haccepted hmatches task frame cacheNow writeFails armFails sent
    rw [hprocess]
    exact concludes_respondWith _ _ _ _ _ (.inl hne)
  | false =>
    unfold processQuery filterQuery
    rw [if_neg (by simp [hmatches])]
    dsimp only
    rw [if_pos rfl]
    split
    · rename_i looked hlooked
      have hfailed := hstats.trans_lt (lookupCache_failed hlooked)
      exact concludes_coReturn (.failed hfailed)
    · split
      · exact concludes_awaitUpstream _ _ _ _ _ _ _ _ _ _ _ _
      · exact concludes_orServFail _ _ _ _ _ haccepted _

theorem concludes_processDatagram (env : Environment) (worker : Worker) (task : TaskId)
    (frame : Frame) (cacheNow : TimePoint) (writeFails armFails : Bool) (sent : SendOutcome) :
    Concludes worker (worker.processDatagram env task frame cacheNow writeFails armFails sent)
      task frame := by
  have hempty : (evaluateDatagram frame.datagram.packet frame.datagram.truncated).outcome ≠
      .accepted →
      (evaluateDatagram frame.datagram.packet frame.datagram.truncated).response ≠ [] ∨
        frame.datagram.Silent := by
    intro houtcome
    by_cases hresponse :
        (evaluateDatagram frame.datagram.packet frame.datagram.truncated).response = []
    · exact .inr ⟨houtcome, hresponse⟩
    · exact .inl hresponse
  unfold processDatagram
  dsimp only
  split
  · rename_i hstop
    exact concludes_coReturn (.stopped hstop)
  split
  · rename_i houtcome
    refine concludes_coReturn (.silent ⟨by simp [houtcome], ?_⟩)
    exact response_of_dropped houtcome
  · rename_i houtcome
    exact concludes_respondWith _ _ _ _ _ (hempty (by simp [houtcome]))
  · rename_i houtcome
    exact concludes_respondWith _ _ _ _ _ (hempty (by simp [houtcome]))
  · rename_i houtcome
    exact concludes_respondWith _ _ _ _ _ (hempty (by simp [houtcome]))
  · exact concludes_coReturn (.failed (Nat.lt_succ_self _))
  · rename_i houtcome
    obtain ⟨request, question, haccepts, haccepted⟩ := accepted_of_evaluateDatagram houtcome
    rw [haccepts]
    dsimp only
    rw [haccepted.questions]
    refine concludes_processQuery ?_ task frame haccepted cacheNow writeFails armFails sent
    exact Nat.le_refl _

theorem concludes_resumeDatagram (env : Environment) (worker : Worker) (task : TaskId)
    (haccepted : Accepted request question) {cacheKey : Option CacheKey} {query : QueryId}
    (hstage : frame.stage = .awaiting request question cacheKey query)
    (cacheNow : TimePoint) (cachingFails emplaceFails : Bool) :
    Concludes worker (worker.resumeDatagram env task frame request question cacheKey query cacheNow
      cachingFails emplaceFails) task frame := by
  unfold resumeDatagram
  dsimp only
  split
  · exact concludes_coReturn (.failed (Nat.lt_succ_self _))
  rename_i hstate
  split
  · rename_i houtcome
    exact concludes_coReturn (.cancelled hstage (not_not.mp hstate) houtcome)
  · exact concludes_orServFail _ _ _ _ _ haccepted _
  · exact concludes_orServFail _ _ _ _ _ haccepted _

theorem concludes_finishDatagram (worker : Worker) (task : TaskId)
    (hstage : frame.stage = .responding response) (hprepared : Prepared frame)
    (sent : SendOutcome) :
    Concludes worker (worker.finishDatagram task frame response sent) task frame := by
  unfold finishDatagram
  split
  · unfold sendResponse
    dsimp only
    split
    · exact concludes_coReturn (.oversized (Nat.lt_succ_self _))
    · exact concludes_coReturn (.sent (List.mem_append_right _ (List.mem_singleton_self _)) rfl)
  · rename_i hnot
    refine concludes_coReturn ?_
    rcases hprepared response hstage with hne | hsilent
    · refine .stopped ?_
      rw [not_and] at hnot
      simpa using hnot hne
    · exact .silent hsilent

theorem concludes_failDatagram (env : Environment) (worker : Worker) (task : TaskId)
    (frame : Frame) : Concludes worker (worker.failDatagram env task frame) task frame := by
  unfold failDatagram
  dsimp only
  refine concludes_coReturn (.failed ?_)
  split
  · exact Nat.lt_succ_self _
  · exact Nat.lt_succ_self _

/-! ## Steps -/

/-- The coroutine that acts returns for a reason. -/
theorem step_concludes (h : Inv worker) {label : Label} (hstep : step env worker label = some next)
    (hactor : label.actor = some task) (hframe : worker.frames task = some frame)
    (hprepared : Prepared frame) : Concludes worker next task frame := by
  cases step_eq_some.mp hstep with
  | upstream | receive | refresh | hangup => cases hactor
  | process cacheNow writeFails armFails sent hrunning =>
    obtain rfl := Option.some.inj hactor
    obtain rfl := Option.some.inj (hframe.symm.trans (running_eq_some hrunning).2)
    exact concludes_processDatagram env worker _ _ cacheNow writeFails armFails sent
  | resume cacheNow cachingFails emplaceFails hrunning =>
    obtain rfl := Option.some.inj hactor
    obtain rfl := Option.some.inj (hframe.symm.trans (running_eq_some hrunning).2)
    have hok := h.frames _ _ (running_eq_some hrunning).2
    exact concludes_resumeDatagram env worker _ hok.2.2.1 rfl cacheNow cachingFails emplaceFails
  | respond sent hrunning =>
    obtain rfl := Option.some.inj hactor
    obtain rfl := Option.some.inj (hframe.symm.trans (running_eq_some hrunning).2)
    exact concludes_finishDatagram worker _ rfl hprepared sent
  | fail hrunning hstage =>
    obtain rfl := Option.some.inj hactor
    obtain rfl := Option.some.inj (hframe.symm.trans (running_eq_some hrunning).2)
    exact concludes_failDatagram env worker _ _

end Worker

end DnsPro.Server
