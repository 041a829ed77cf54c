import DnsPro.Server.Asking

/-!
# What a coroutine leaves alone

A coroutine of `process_datagram` does not disturb the channel, the scheduler and the timers
that it shares with the other ones, and attends to these.  It does not decide whether the
upstream socket is usable, it counts no datagram as received, and it keeps the snapshot.
-/

namespace DnsPro.Server

open DnsPro.Cache DnsPro.Filter DnsPro.Protocol DnsPro.Runtime DnsPro.Upstream

namespace Worker

variable {env : Environment} {worker next third : Worker} {task : TaskId} {frame frame' : Frame}

structure Contained (task : TaskId) (worker next : Worker) : Prop where
  undisturbed : System.Undisturbed worker.upstream next.upstream
  usable : next.upstreamUsable = worker.upstreamUsable
  received : next.stats.receivedDatagrams = worker.stats.receivedDatagrams
  snapshot : next.snapshot = worker.snapshot
  attends : ∀ other, other ≠ task → System.Attends other worker.upstream next.upstream

theorem contained_of_eq (hupstream : next.upstream = worker.upstream)
    (husable : next.upstreamUsable = worker.upstreamUsable)
    (hreceived : next.stats.receivedDatagrams = worker.stats.receivedDatagrams)
    (hsnapshot : next.snapshot = worker.snapshot) : Contained task worker next where
  undisturbed := by
    rw [hupstream]
    exact System.Undisturbed.refl _
  usable := husable
  received := hreceived
  snapshot := hsnapshot
  attends _ _ := System.attends_of_eq (by rw [hupstream]) (by rw [hupstream])

theorem Contained.trans (h : Contained task worker next) (h' : Contained task next third) :
    Contained task worker third where
  undisturbed := h.undisturbed.trans h'.undisturbed
  usable := h'.usable.trans h.usable
  received := h'.received.trans h.received
  snapshot := h'.snapshot.trans h.snapshot
  attends other hne := (h.attends other hne).trans (h'.attends other hne)

theorem Contained.of_eq (h : Contained task next third)
    (hupstream : next.upstream = worker.upstream)
    (husable : next.upstreamUsable = worker.upstreamUsable)
    (hreceived : next.stats.receivedDatagrams = worker.stats.receivedDatagrams)
    (hsnapshot : next.snapshot = worker.snapshot) : Contained task worker third :=
  Contained.trans (contained_of_eq hupstream husable hreceived hsnapshot) h

theorem Acting.coReturn_contained (h : Acting worker task frame) (frame' : Frame) :
    Contained task worker (worker.coReturn task frame') where
  undisturbed := ⟨rfl, h.inv.upstream.scheduler.complete_calm h.executing, .refl _⟩
  usable := rfl
  received := rfl
  snapshot := rfl
  attends _ hne :=
    ⟨Scheduler.complete_stays _ hne, fun _ hpending hframe => .inl ⟨hpending, hframe⟩⟩

theorem Acting.orServFail_contained (h : Acting worker task frame) (frame' : Frame)
    (request : Message) (response : Bytes) :
    Contained task worker (worker.orServFail task frame' request response) := by
  unfold Worker.orServFail
  split
  · split
    · exact (h.countInternalError.coReturn_contained frame').of_eq rfl rfl rfl rfl
    · exact contained_of_eq rfl rfl rfl rfl
  · exact contained_of_eq rfl rfl rfl rfl

/-! ## Up to the suspension -/

theorem lookupCache_contained {request : Message} {question : Question} {cacheNow : TimePoint}
    {result : Option (Bytes × Option CacheKey)}
    (hlookup : worker.lookupCache request question cacheNow = (result, next)) :
    Contained task worker next := by
  unfold lookupCache at hlookup
  dsimp only at hlookup
  split at hlookup
  · split at hlookup
    · split at hlookup
      all_goals
        obtain ⟨rfl, rfl⟩ := Prod.mk.inj hlookup
        exact contained_of_eq rfl rfl rfl rfl
    · obtain ⟨rfl, rfl⟩ := Prod.mk.inj hlookup
      exact contained_of_eq rfl rfl rfl rfl
  · obtain ⟨rfl, rfl⟩ := Prod.mk.inj hlookup
    exact contained_of_eq rfl rfl rfl rfl

theorem Acting.awaitUpstream_contained (h : Acting worker task frame) (frame' : Frame)
    (request : Message) (question : Question) (cacheKey : Option CacheKey)
    (writeFails armFails : Bool) (sent : SendOutcome) :
    Contained task worker (worker.awaitUpstream env task frame' request question cacheKey writeFails
      armFails sent) := by
  have hmade : System.Undisturbed worker.upstream
      (worker.upstream.query env.upstream task request.header question) := ⟨rfl, {}, .refl _⟩
  have hattends : ∀ other, System.Attends other worker.upstream
      (worker.upstream.query env.upstream task request.header question) := by
    refine fun other => System.attends_of_query (.refl other _)
      (fun query hquery => Function.update_of_ne hquery _ _) fun hpending => ?_
    rw [h.inv.upstream.unmade _ (Nat.le_refl _)] at hpending
    cases hpending
  have hinv := h.inv.upstream.makeQuery env.upstream task request.header question
  have hframe : ((worker.upstream.query env.upstream task request.header question).queries
      worker.upstream.queryCount).frame = task := by
    show (Function.update worker.upstream.queries worker.upstream.queryCount _
      worker.upstream.queryCount).frame = task
    rw [Function.update_self]
  have hexecuting : (worker.upstream.query env.upstream task request.header question).executing
      ((worker.upstream.query env.upstream task request.header question).queries
        worker.upstream.queryCount).frame := by
    rw [hframe]
    exact h.executing
  refine ⟨hmade.trans (System.awaitQuery_undisturbed env.upstream hinv.timers _ hexecuting
    writeFails armFails sent), rfl, rfl, rfl, fun other hne => ?_⟩
  refine (hattends other).trans
    (System.awaitQuery_attends env.upstream _ _ writeFails armFails sent ?_)
  rw [hframe]
  exact hne

theorem Acting.processQuery_contained (h : Acting worker task frame) {request : Message}
    {question : Question} (haccepted : Accepted request question) (cacheNow : TimePoint)
    (writeFails armFails : Bool) (sent : SendOutcome) :
    Contained task worker (worker.processQuery env task frame request question cacheNow writeFails
      armFails sent) := by
  cases hmatches : worker.matchesFilter env question.name with
  | true =>
    obtain ⟨refused, message, hwrite, hne, -, -⟩ := haccepted.error .refused true
    unfold Worker.processQuery filterQuery
    rw [if_pos hmatches, hwrite]
    dsimp only
    rw [if_neg hne]
    exact (Acting.orServFail_contained (h.setStats _) _ request refused).of_eq rfl rfl rfl rfl
  | false =>
    unfold Worker.processQuery filterQuery
    rw [if_neg (by simp [hmatches])]
    dsimp only
    rw [if_pos rfl]
    split
    · rename_i looked heq
      have hacting := (h.lookupCache haccepted cacheNow heq).1
      exact (lookupCache_contained heq).trans (hacting.coReturn_contained frame)
    · rename_i response cacheKey looked heq
      have hacting := (h.lookupCache haccepted cacheNow heq).1
      refine (lookupCache_contained heq).trans ?_
      split
      · exact hacting.awaitUpstream_contained frame request question cacheKey writeFails armFails
          sent
      · exact hacting.orServFail_contained frame request response

theorem Acting.processDatagram_contained (h : Acting worker task frame) (cacheNow : TimePoint)
    (writeFails armFails : Bool) (sent : SendOutcome) :
    Contained task worker (worker.processDatagram env task frame cacheNow writeFails armFails sent) := by
  unfold Worker.processDatagram
  dsimp only
  split
  · exact h.coReturn_contained frame
  split
  · exact h.coReturn_contained frame
  · exact contained_of_eq rfl rfl rfl rfl
  · exact contained_of_eq rfl rfl rfl rfl
  · exact contained_of_eq rfl rfl rfl rfl
  · exact (h.countInternalError.coReturn_contained frame).of_eq rfl rfl rfl rfl
  · rename_i houtcome
    obtain ⟨request, question, haccepts, haccepted⟩ := accepted_of_evaluateDatagram houtcome
    rw [haccepts]
    dsimp only
    rw [haccepted.questions]
    exact ((h.setStats _).processQuery_contained haccepted cacheNow writeFails armFails
      sent).of_eq rfl rfl rfl rfl

/-! ## From the suspension on -/

theorem Acting.destroyQuery_contained (h : Acting worker task frame) {query : QueryId}
    {header : Header} {question : Question}
    (hasked : System.Asked query task header question worker.upstream) :
    Contained task worker { worker with
      upstream := worker.upstream.destroyQuery env.upstream query } := by
  have hended : System.Ended worker.upstream (worker.upstream.destroyQuery env.upstream query) :=
    h.destroyQuery_ended hasked
  exact ⟨hended.undisturbed, rfl, rfl, rfl, fun other _ => hended.attends other⟩

theorem storeResponse_contained (worker : Worker) (request : Message) (question : Question)
    (key : CacheKey) (response : Bytes) (cacheNow : TimePoint) (cachingFails emplaceFails : Bool) :
    Contained task worker
      (worker.storeResponse request question key response cacheNow cachingFails emplaceFails) := by
  unfold storeResponse
  split
  · exact contained_of_eq rfl rfl rfl rfl
  split
  · exact contained_of_eq rfl rfl rfl rfl
  split
  · exact contained_of_eq rfl rfl rfl rfl
  split
  · exact contained_of_eq rfl rfl rfl rfl
  · dsimp only
    split
    · exact contained_of_eq rfl rfl rfl rfl
    · exact contained_of_eq rfl rfl rfl rfl

theorem Acting.resumeDatagram_contained (h : Acting worker task frame) {request : Message}
    {question : Question} {query : QueryId}
    (hasked : System.Asked query task request.header question worker.upstream)
    (cacheKey : Option CacheKey) (cacheNow : TimePoint) (cachingFails emplaceFails : Bool) :
    Contained task worker (worker.resumeDatagram env task frame request question cacheKey query cacheNow
      cachingFails emplaceFails) := by
  have hdestroyed : Acting { worker with upstream := worker.upstream.destroyQuery env.upstream query }
      task frame := h.destroyQuery hasked
  have hcontained : Contained task worker
      { worker with upstream := worker.upstream.destroyQuery env.upstream query } :=
    h.destroyQuery_contained hasked
  refine hcontained.trans ?_
  unfold Worker.resumeDatagram
  dsimp only
  split
  · exact (hdestroyed.countInternalError.coReturn_contained frame).of_eq rfl rfl rfl rfl
  split
  · exact hdestroyed.coReturn_contained frame
  · cases cacheKey with
    | none => exact hdestroyed.orServFail_contained frame request _
    | some key =>
      exact (storeResponse_contained _ request question key _ cacheNow cachingFails emplaceFails).trans
        ((hdestroyed.storeResponse request question key _ cacheNow cachingFails
          emplaceFails).orServFail_contained frame request _)
  · exact hdestroyed.orServFail_contained frame request []

theorem Acting.finishDatagram_contained (h : Acting worker task frame) (response : Bytes)
    (sent : SendOutcome) : Contained task worker (worker.finishDatagram task frame response sent) := by
  unfold Worker.finishDatagram
  split
  · unfold Worker.sendResponse
    dsimp only
    split
    · exact ((h.setStats _).coReturn_contained frame).of_eq rfl rfl rfl rfl
    · refine ⟨(h.coReturn_contained frame).undisturbed, rfl, ?_, rfl,
        (h.coReturn_contained frame).attends⟩
      show (if sent = .sent response.length then _ else _ : WorkerStats).receivedDatagrams = _
      split
      · rfl
      · rfl
  · exact h.coReturn_contained frame

theorem Acting.failDatagram_contained (h : Acting worker task frame) :
    Contained task worker (worker.failDatagram env task frame) := by
  have hok := h.inv.frames task frame h.frame_eq
  unfold Worker.failDatagram
  dsimp only
  split
  · rename_i request question cacheKey query hstage
    simp only [FrameOk, hstage] at hok
    have hdestroyed :
        Acting { worker with upstream := worker.upstream.destroyQuery env.upstream query } task
          frame := h.destroyQuery hok.2.2.2
    exact Contained.trans (h.destroyQuery_contained hok.2.2.2)
      ((hdestroyed.countInternalError.coReturn_contained frame).of_eq rfl rfl rfl rfl)
  · exact (h.countInternalError.coReturn_contained frame).of_eq rfl rfl rfl rfl

/-- What the step of a coroutine leaves alone. -/
theorem step_contained (h : Inv worker) {label : Label}
    (hstep : step env worker label = some next) (hactor : label.actor = some task) :
    Contained task worker next := by
  cases step_eq_some.mp hstep with
  | upstream | receive | refresh | hangup => cases hactor
  | process cacheNow writeFails armFails sent hrunning =>
    obtain rfl := Option.some.inj hactor
    exact (h.acting hrunning (by simp)).processDatagram_contained cacheNow writeFails armFails sent
  | resume cacheNow cachingFails emplaceFails hrunning =>
    obtain rfl := Option.some.inj hactor
    have hok := h.frames _ _ (running_eq_some hrunning).2
    exact (h.acting hrunning (by simp)).resumeDatagram_contained hok.2.2.2 _ cacheNow cachingFails
      emplaceFails
  | respond sent hrunning =>
    obtain rfl := Option.some.inj hactor
    exact (h.acting hrunning (by simp)).finishDatagram_contained _ sent
  | fail hrunning hstage =>
    obtain rfl := Option.some.inj hactor
    exact (h.acting hrunning hstage).failDatagram_contained

end Worker

end DnsPro.Server
