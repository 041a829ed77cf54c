import DnsPro.Cache.Refinement
import DnsPro.Server.CacheHit
import DnsPro.Server.Responses

/-!
# What a worker does with its cache shard

A step of a worker leaves the shard alone, looks a key up, or stores the address
set of an upstream response.  From this one case analysis follows what every entry
of a shard promises, whichever workers have used it.
-/

namespace DnsPro.Server

open DnsPro.Cache DnsPro.Filter DnsPro.Protocol DnsPro.Runtime DnsPro.Upstream

/-- The query may use the cache. -/
def Cachable (request : Message) : Prop :=
  request.header.authenticatedData = false ∧ request.header.checkingDisabled = false

/-- The address set that `process_datagram` stores of a response. -/
def storable (request : Message) (question : Question) (response : Bytes) :
    Option CacheableAddressSet :=
  match parseMessage response {} with
  | .error _ => none
  | .ok parsed =>
    match cacheableAddressSet parsed question with
    | none => none
    | some cacheable =>
      match makeCacheHitResponse request ⟨cacheable.addresses, cacheable.ttl⟩
          downstreamResponseBudget with
      | .error _ => none
      | .ok _ => some cacheable

theorem storable_eq_some {request : Message} {question : Question} {response : Bytes}
    {cacheable : CacheableAddressSet} (h : storable request question response = some cacheable) :
    ∃ parsed wire, parseMessage response {} = .ok parsed ∧ Cacheable parsed question cacheable ∧
      makeCacheHitResponse request ⟨cacheable.addresses, cacheable.ttl⟩ downstreamResponseBudget =
        .ok wire := by
  unfold storable at h
  split at h
  · cases h
  rename_i parsed hparsed
  split at h
  · cases h
  rename_i set hset
  split at h
  · cases h
  rename_i wire hwire
  obtain rfl := Option.some.inj h
  exact ⟨parsed, wire, hparsed, cacheable_of_eq_some hset, hwire⟩

/-- A response that was handed to the cache, and the query that it answers. -/
structure StoredResponse where
  datagram : ClientDatagram
  request : Message
  question : Question
  response : Bytes
  cacheable : CacheableAddressSet
  time : TimePoint

namespace Worker

variable {env : Environment} {worker next : Worker} {task : TaskId} {frame : Frame}

/-! ## One step -/

/-- The response that a step hands to `put`, with its key. -/
def puts (worker : Worker) : Label → Option (CacheKey × StoredResponse)
  | .resume task cacheNow cachingFails _ =>
    match worker.running task with
    | some ⟨datagram, .awaiting request question (some key) query, _⟩ =>
      let awaiter := worker.upstream.queries query
      if awaiter.state = .completed ∧ awaiter.result.outcome = .response ∧ cachingFails = false then
        (storable request question awaiter.result.response).map fun cacheable =>
          (key, ⟨datagram, request, question, awaiter.result.response, cacheable, cacheNow⟩)
      else none
    | _ => none
  | _ => none

/-- What a step leaves in the cache. -/
inductive CacheEffect (worker : Worker) : Label → CacheShard → Prop where
  | kept {label : Label} (hputs : worker.puts label = none) : CacheEffect worker label worker.cache
  | looked {task : TaskId} {frame : Frame} {request : Message} {question : Question}
      (cacheNow : TimePoint) (writeFails armFails : Bool) (sent : SendOutcome)
      (hframe : worker.frames task = some frame) (haccepts : frame.datagram.Accepts request)
      (hquestions : request.questions = [question]) (hcachable : Cachable request) :
      CacheEffect worker (.process task cacheNow writeFails armFails sent)
        (worker.cache.get (keyOf question) cacheNow).2
  | stored {task : TaskId} {cacheNow : TimePoint} {cachingFails : Bool} {key : CacheKey}
      {stored : StoredResponse} (emplaceFails : Bool)
      (hputs : worker.puts (.resume task cacheNow cachingFails emplaceFails) = some (key, stored)) :
      CacheEffect worker (.resume task cacheNow cachingFails emplaceFails)
        (worker.cache.put key stored.cacheable.addresses stored.cacheable.ttl cacheNow
          emplaceFails).2

theorem cache_orServFail (worker : Worker) (task : TaskId) (frame : Frame) (request : Message)
    (response : Bytes) : (worker.orServFail task frame request response).cache = worker.cache := by
  unfold orServFail
  split
  · split
    · rfl
    · rfl
  · rfl

/-- The shard after `lookupCache`, and the key that it returns. -/
theorem lookupCache_cases (worker : Worker) (request : Message) (question : Question)
    (cacheNow : TimePoint) :
    ((worker.lookupCache request question cacheNow).2.cache = worker.cache ∨
      Cachable request ∧ (worker.lookupCache request question cacheNow).2.cache =
        (worker.cache.get (keyOf question) cacheNow).2) ∧
    ∀ response key, (worker.lookupCache request question cacheNow).1 = some (response, some key) →
      key = keyOf question ∧ Cachable request := by
  unfold lookupCache
  dsimp only
  split
  · rename_i heligible
    have hcachable : Cachable request := heligible.2
    split
    · split
      · exact ⟨Or.inr ⟨hcachable, rfl⟩, by simp_all [keyOf]⟩
      · exact ⟨Or.inr ⟨hcachable, rfl⟩, by simp_all [keyOf]⟩
      · exact ⟨Or.inr ⟨hcachable, rfl⟩, by simp⟩
    · exact ⟨Or.inr ⟨hcachable, rfl⟩, by simp_all [keyOf]⟩
  · exact ⟨Or.inl rfl, by simp⟩

/-- A hit is served. -/
theorem lookupCache_hit (worker : Worker) {request : Message} {question : Question}
    {cacheNow : TimePoint}
    {hit : CacheHit} {response : Bytes} (hcapacity : worker.cache.capacity ≠ 0)
    (hcachable : Cachable request)
    (hget : (worker.cache.get (keyOf question) cacheNow).1 = some hit)
    (hwrite : makeCacheHitResponse request hit downstreamResponseBudget = .ok response) :
    worker.lookupCache request question cacheNow = (some (response, some (keyOf question)),
      { worker with
        cache := (worker.cache.get (keyOf question) cacheNow).2
        stats := { worker.stats with cacheHits := worker.stats.cacheHits + 1 } }) := by
  have hfound : worker.cache.get (keyOf question) cacheNow =
      (some hit, (worker.cache.get (keyOf question) cacheNow).2) := Prod.ext hget rfl
  unfold lookupCache
  dsimp only
  rw [if_pos ⟨hcapacity, hcachable⟩, show CacheKey.ofName question.name question.type
    question.questionClass = keyOf question from rfl, hfound]
  dsimp only
  rw [hwrite]

/-- A coroutine that may store a response will store it under the key of its
question. -/
def KeyOk (frame : Frame) : Prop :=
  ∀ request question key query, frame.stage = .awaiting request question (some key) query →
    key = keyOf question ∧ Cachable request

/-- The coroutine does not wait any more. -/
def Settled (next : Worker) (task : TaskId) : Prop :=
  ∀ frame, next.frames task = some frame → KeyOk frame

theorem settled_of_stage {stage : Stage}
    (hframes : next.frames task = some { frame with stage := stage })
    (hstage : ∀ request question key query, stage ≠ .awaiting request question (some key) query) :
    Settled next task := by
  intro frame' hframe' request question key query hawaiting
  obtain rfl := Option.some.inj (hframes.symm.trans hframe')
  exact absurd hawaiting (hstage request question key query)

theorem settled_coReturn (worker : Worker) (task : TaskId) (frame : Frame) :
    Settled (worker.coReturn task frame) task :=
  settled_of_stage (Function.update_self _ _ _) (by simp)

theorem settled_respondWith (worker : Worker) (task : TaskId) (frame : Frame) (response : Bytes) :
    Settled (worker.respondWith task frame response) task :=
  settled_of_stage (Function.update_self _ _ _) (by simp)

theorem settled_orServFail (worker : Worker) (task : TaskId) (frame : Frame) (request : Message)
    (response : Bytes) : Settled (worker.orServFail task frame request response) task := by
  unfold orServFail
  split
  · split
    · exact settled_coReturn _ _ _
    · exact settled_respondWith _ _ _ _
  · exact settled_respondWith _ _ _ _

theorem settled_awaitUpstream (env : Environment) (worker : Worker) (task : TaskId) (frame : Frame)
    {request : Message} {question : Question} {cacheKey : Option CacheKey}
    (hkey : ∀ key, cacheKey = some key → key = keyOf question ∧ Cachable request)
    (writeFails armFails : Bool) (sent : SendOutcome) :
    Settled (worker.awaitUpstream env task frame request question cacheKey writeFails armFails sent)
      task := by
  intro frame' hframe' request' question' key query hawaiting
  change Function.update worker.frames task _ task = _ at hframe'
  rw [Function.update_self] at hframe'
  obtain rfl := Option.some.inj hframe'
  injection hawaiting with hrequest hquestion hcacheKey _
  subst hrequest hquestion
  exact hkey key hcacheKey

/-- The branch for accepted queries: the shard, and what the coroutine waits for. -/
theorem processQuery_cases (env : Environment) (worker : Worker) (task : TaskId) (frame : Frame)
    (request : Message) (question : Question) (cacheNow : TimePoint) (writeFails armFails : Bool)
    (sent : SendOutcome) :
    let next :=
      worker.processQuery env task frame request question cacheNow writeFails armFails sent
    (next.cache = worker.cache ∨
      Cachable request ∧ next.cache = (worker.cache.get (keyOf question) cacheNow).2) ∧
    Settled next task := by
  intro next
  have hfilter : (worker.filterQuery env frame request question).2.1.cache = worker.cache := by
    unfold filterQuery
    split
    · dsimp only
      split
      · rfl
      · rfl
    · rfl
  have hnext : next = worker.processQuery env task frame request question cacheNow writeFails armFails
    sent := rfl
  clear_value next
  unfold processQuery at hnext
  split at hnext
  · rename_i filtered frame' heq
    rw [heq] at hfilter
    subst hnext
    exact ⟨Or.inl hfilter, settled_coReturn _ _ _⟩
  rename_i response filtered frame' heq
  rw [heq] at hfilter
  change filtered.cache = worker.cache at hfilter
  split at hnext
  · obtain ⟨hcache, hkey⟩ := lookupCache_cases filtered request question cacheNow
    rw [hfilter] at hcache
    split at hnext
    · rename_i looked hlooked
      rw [hlooked] at hcache
      subst hnext
      exact ⟨hcache, settled_coReturn _ _ _⟩
    · rename_i found cacheKey looked hlooked
      rw [hlooked] at hcache hkey
      split at hnext
      · subst hnext
        refine ⟨hcache, settled_awaitUpstream env looked task frame' ?_ writeFails armFails sent⟩
        rintro key rfl
        exact hkey found key rfl
      · subst hnext
        rw [cache_orServFail]
        exact ⟨hcache, settled_orServFail _ _ _ _ _⟩
  · subst hnext
    rw [cache_orServFail]
    exact ⟨Or.inl hfilter, settled_orServFail _ _ _ _ _⟩

theorem processDatagram_cases (env : Environment) (worker : Worker) (task : TaskId) (frame : Frame)
    (cacheNow : TimePoint) (writeFails armFails : Bool) (sent : SendOutcome) :
    let next := worker.processDatagram env task frame cacheNow writeFails armFails sent
    (next.cache = worker.cache ∨ ∃ request question, frame.datagram.Accepts request ∧
      request.questions = [question] ∧ Cachable request ∧
      next.cache = (worker.cache.get (keyOf question) cacheNow).2) ∧
    Settled next task := by
  intro next
  have hnext : next = worker.processDatagram env task frame cacheNow writeFails armFails sent := rfl
  clear_value next
  by_cases hstop : worker.upstream.scheduler.stopRequested = true
  · unfold processDatagram at hnext
    rw [if_pos hstop] at hnext
    subst hnext
    exact ⟨Or.inl rfl, settled_coReturn _ _ _⟩
  by_cases houtcome :
      (evaluateDatagram frame.datagram.packet frame.datagram.truncated).outcome = .accepted
  · obtain ⟨request, question, haccepts, haccepted⟩ := accepted_of_evaluateDatagram houtcome
    obtain ⟨stats, hprocess⟩ := processDatagram_of_accepts env worker haccepts haccepted.questions
      (by simpa using hstop) task cacheNow writeFails armFails sent
    rw [hprocess] at hnext
    obtain ⟨hcache, hsettled⟩ := processQuery_cases env { worker with stats := stats } task frame
      request question cacheNow writeFails armFails sent
    rw [← hnext] at hcache hsettled
    refine ⟨?_, hsettled⟩
    rcases hcache with hkept | ⟨hcachable, hlooked⟩
    · exact Or.inl hkept
    · exact Or.inr ⟨request, question, haccepts, haccepted.questions, hcachable, hlooked⟩
  · unfold processDatagram at hnext
    rw [if_neg hstop] at hnext
    dsimp only at hnext
    split at hnext
    · subst hnext
      exact ⟨Or.inl rfl, settled_coReturn _ _ _⟩
    · subst hnext
      exact ⟨Or.inl rfl, settled_respondWith _ _ _ _⟩
    · subst hnext
      exact ⟨Or.inl rfl, settled_respondWith _ _ _ _⟩
    · subst hnext
      exact ⟨Or.inl rfl, settled_respondWith _ _ _ _⟩
    · subst hnext
      exact ⟨Or.inl rfl, settled_coReturn _ _ _⟩
    · rename_i hother
      exact absurd hother houtcome

/-- The shard after `storeResponse`. -/
theorem cache_storeResponse (worker : Worker) (request : Message) (question : Question)
    (key : CacheKey) (response : Bytes) (cacheNow : TimePoint) (emplaceFails : Bool) :
    (worker.storeResponse request question key response cacheNow true emplaceFails).cache =
      worker.cache ∧
    (worker.storeResponse request question key response cacheNow false emplaceFails).cache =
      match storable request question response with
      | none => worker.cache
      | some cacheable =>
        (worker.cache.put key cacheable.addresses cacheable.ttl cacheNow emplaceFails).2 := by
  refine ⟨rfl, ?_⟩
  unfold storeResponse storable
  rw [if_neg (by simp)]
  cases parseMessage response {} with
  | error error => rfl
  | ok parsed =>
    dsimp only
    cases cacheableAddressSet parsed question with
    | none => rfl
    | some cacheable =>
      dsimp only
      cases makeCacheHitResponse request ⟨cacheable.addresses, cacheable.ttl⟩
          downstreamResponseBudget with
      | error error => rfl
      | ok wire =>
        dsimp only
        split
        · rfl
        · rfl

theorem settled_resumeDatagram (env : Environment) (worker : Worker) (task : TaskId) (frame : Frame)
    (request : Message) (question : Question) (cacheKey : Option CacheKey) (query : QueryId)
    (cacheNow : TimePoint) (cachingFails emplaceFails : Bool) :
    Settled (worker.resumeDatagram env task frame request question cacheKey query cacheNow cachingFails
      emplaceFails) task := by
  unfold resumeDatagram
  dsimp only
  split
  · exact settled_coReturn _ _ _
  split
  · exact settled_coReturn _ _ _
  · exact settled_orServFail _ _ _ _ _
  · exact settled_orServFail _ _ _ _ _

/-- A coroutine that goes on stores the response of its query, if there is one. -/
theorem cacheEffect_resume (env : Environment) (worker : Worker) {datagram : ClientDatagram}
    {request : Message} {question : Question} {cacheKey : Option CacheKey} {query : QueryId}
    {blocked : Bool} (hrunning : worker.running task =
      some ⟨datagram, .awaiting request question cacheKey query, blocked⟩) (frame : Frame)
    (cacheNow : TimePoint) (cachingFails emplaceFails : Bool) :
    CacheEffect worker (.resume task cacheNow cachingFails emplaceFails)
      (worker.resumeDatagram env task frame request question cacheKey query cacheNow cachingFails
        emplaceFails).cache := by
  cases cacheKey with
  | none =>
    have hkept :
      (worker.resumeDatagram env task frame request question none query cacheNow cachingFails
        emplaceFails).cache = worker.cache := by
      unfold resumeDatagram
      dsimp only
      split
      · rfl
      split
      · rfl
      · exact cache_orServFail _ _ _ _ _
      · exact cache_orServFail _ _ _ _ _
    rw [hkept]
    refine .kept ?_
    unfold puts
    dsimp only
    rw [hrunning]
  | some key =>
    have hputs : worker.puts (.resume task cacheNow cachingFails emplaceFails) =
        if (worker.upstream.queries query).state = .completed ∧
            (worker.upstream.queries query).result.outcome = .response ∧ cachingFails = false then
          (storable request question (worker.upstream.queries query).result.response).map
            fun cacheable => (key, ⟨datagram, request, question,
              (worker.upstream.queries query).result.response, cacheable, cacheNow⟩)
        else none := by
      unfold puts
      dsimp only
      rw [hrunning]
    unfold resumeDatagram
    dsimp only
    split
    · rename_i hstate
      rw [if_neg (fun h => hstate h.1)] at hputs
      exact .kept hputs
    rename_i hstate
    rw [not_not] at hstate
    split
    · rename_i houtcome
      rw [if_neg (by simp [houtcome])] at hputs
      exact .kept hputs
    · rename_i houtcome
      rw [cache_orServFail]
      obtain ⟨hfails, hstores⟩ := cache_storeResponse
        { worker with upstream := worker.upstream.destroyQuery env.upstream query } request question
        key (worker.upstream.queries query).result.response cacheNow emplaceFails
      cases cachingFails with
      | true =>
        rw [if_neg (by simp)] at hputs
        rw [hfails]
        exact .kept hputs
      | false =>
        rw [if_pos ⟨hstate, houtcome, rfl⟩] at hputs
        rw [hstores]
        cases hstorable : storable request question (worker.upstream.queries query).result.response with
        | none =>
          rw [hstorable] at hputs
          exact .kept hputs
        | some cacheable =>
          rw [hstorable] at hputs
          exact .stored emplaceFails hputs
    · rename_i hother
      rw [if_neg (fun h => hother h.2.1)] at hputs
      rw [cache_orServFail]
      exact .kept hputs

/-- What a step does with the shard, and with the coroutine that acts. -/
theorem step_cache {label : Label} (hstep : step env worker label = some next) :
    CacheEffect worker label next.cache ∧ ∀ task, label.actor = some task → Settled next task := by
  cases step_eq_some.mp hstep with
  | upstream | receive | refresh | hangup => exact ⟨.kept rfl, by simp [Label.actor]⟩
  | @process task datagram blocked cacheNow writeFails armFails sent hrunning =>
    obtain ⟨hcache, hsettled⟩ := processDatagram_cases env worker task ⟨datagram, .created, blocked⟩
      cacheNow writeFails armFails sent
    refine ⟨?_, fun actor hactor => Option.some.inj hactor ▸ hsettled⟩
    rcases hcache with hkept | ⟨request, question, haccepts, hquestions, hcachable, hlooked⟩
    · rw [hkept]
      exact .kept rfl
    · rw [hlooked]
      exact .looked cacheNow writeFails armFails sent (running_eq_some hrunning).2 haccepts hquestions
        hcachable
  | @resume task datagram request question cacheKey query blocked cacheNow cachingFails emplaceFails
      hrunning =>
    exact ⟨cacheEffect_resume env worker hrunning _ cacheNow cachingFails emplaceFails,
      fun actor hactor => Option.some.inj hactor ▸ settled_resumeDatagram env worker task _ request
        question cacheKey query cacheNow cachingFails emplaceFails⟩
  | @respond task datagram response blocked sent hrunning =>
    refine ⟨?_, fun actor hactor => Option.some.inj hactor ▸ ?_⟩
    · rw [(moves_finishDatagram worker task _ response sent).2.1]
      exact .kept rfl
    · unfold finishDatagram
      split
      · exact settled_coReturn _ _ _
      · exact settled_coReturn _ _ _
  | @fail task frame hrunning hstage =>
    refine ⟨?_, fun actor hactor => Option.some.inj hactor ▸ settled_coReturn _ _ _⟩
    have hkept : (worker.failDatagram env task frame).cache = worker.cache := by
      unfold failDatagram
      dsimp only
      split
      · rfl
      · rfl
    rw [hkept]
    exact .kept rfl

/-- The frames of the coroutines that do not act stay, but for the one that is
received. -/
theorem step_frames (h : Inv worker) {label : Label} (hstep : step env worker label = some next)
    (hactor : label.actor ≠ some task) :
    next.frames task = worker.frames task ∨ worker.frames task = none ∧
      ∃ datagram, next.frames task = some { datagram := datagram } := by
  cases hlabel : label.actor with
  | some actor =>
    obtain ⟨before, after, -, hframes, -⟩ := step_actor h hstep hlabel
    have hne : task ≠ actor := by
      rintro rfl
      exact hactor hlabel
    rw [hframes, Function.update_of_ne hne]
    exact Or.inl rfl
  | none =>
    cases step_eq_some.mp hstep with
    | process | resume | respond | fail => cases hlabel
    | upstream | refresh | hangup => exact Or.inl rfl
    | @receive received datagram hfresh hnone =>
      by_cases hself : task = received
      · subst hself
        exact Or.inr ⟨hnone, datagram, Function.update_self _ _ _⟩
      · exact Or.inl (Function.update_of_ne hself _ _)

/-! ## Runs -/

/-- What holds of a worker and its shard after every run. -/
structure CacheOk (worker : Worker) : Prop where
  inv : Inv worker
  shard : worker.cache.Inv
  keys : ∀ task frame, worker.frames task = some frame → KeyOk frame
  servable : ∀ index key addresses expiry,
    worker.cache.slots.slot index = some (key, addresses, expiry) → Servable key addresses

/-- What is known of a response that is handed to the cache. -/
structure Origin (key : CacheKey) (stored : StoredResponse) : Prop where
  key_eq : key = keyOf stored.question
  cachable : Cachable stored.request
  accepts : stored.datagram.Accepts stored.request
  accepted : Accepted stored.request stored.question
  answered : ∃ packet message, parseMessage packet System.upstreamLimits = .ok message ∧
    validateUpstreamResponse message message.header.id stored.request.header.opcode stored.question =
      .ok () ∧
    stored.response = withTransactionId packet stored.request.header.id
  storable_eq : storable stored.request stored.question stored.response = some stored.cacheable

theorem CacheOk.origin (h : CacheOk worker) {cacheNow : TimePoint}
    {cachingFails emplaceFails : Bool} {key : CacheKey} {stored : StoredResponse}
    (hputs : worker.puts (.resume task cacheNow cachingFails emplaceFails) = some (key, stored)) :
    Origin key stored ∧ stored.time = cacheNow := by
  unfold puts at hputs
  dsimp only at hputs
  split at hputs
  · rename_i datagram request question key' query blocked hrunning
    split at hputs
    · rename_i hanswered
      obtain ⟨hstate, houtcome, -⟩ := hanswered
      obtain ⟨cacheable, hstorable, heq⟩ := Option.map_eq_some_iff.mp hputs
      obtain ⟨rfl, rfl⟩ := Prod.mk.inj heq
      have hframe := (running_eq_some hrunning).2
      obtain ⟨-, haccepts, haccepted, hasked⟩ := h.inv.frames _ _ hframe
      obtain ⟨hkey, hcachable⟩ := h.keys _ _ hframe request question key' query rfl
      exact ⟨⟨hkey, hcachable, haccepts, haccepted, hasked.answered hstate houtcome, hstorable⟩, rfl⟩
    · cases hputs
  · cases hputs

/-- What is stored can be served. -/
theorem Origin.servable {key : CacheKey} {stored : StoredResponse} (h : Origin key stored) :
    Servable key stored.cacheable.addresses := by
  obtain ⟨parsed, wire, -, -, hwire⟩ := storable_eq_some h.storable_eq
  rw [h.key_eq]
  exact servable_of_write h.accepted hwire

theorem CacheOk.step (h : CacheOk worker) {label : Label}
    (hstep : step env worker label = some next) :
    CacheOk next := by
  obtain ⟨heffect, hsettled⟩ := step_cache hstep
  refine ⟨inv_step env label h.inv hstep, ?_, ?_, ?_⟩
  · generalize next.cache = cache at heffect
    cases heffect with
    | kept => exact h.shard
    | looked cacheNow => exact h.shard.get _ cacheNow
    | stored emplaceFails => exact h.shard.put _ _ _ _ emplaceFails
  · intro task frame hframe
    by_cases hactor : label.actor = some task
    · exact hsettled task hactor frame hframe
    · rcases step_frames h.inv hstep hactor with hsame | ⟨-, datagram, hnew⟩
      · exact h.keys task frame (hsame ▸ hframe)
      · obtain rfl := Option.some.inj (hnew.symm.trans hframe)
        intro request question key query hstage
        cases hstage
  · intro index key addresses expiry hslot
    generalize next.cache = cache at heffect hslot
    cases heffect with
    | kept => exact h.servable index key addresses expiry hslot
    | looked => exact h.servable index key addresses expiry (h.shard.slot_get hslot)
    | stored emplaceFails hputs =>
      rcases (h.shard.put_effect _ _ _ _ emplaceFails).1.slot_cases hslot with hold | hnew
      · exact h.servable index key addresses expiry hold
      · obtain ⟨rfl, hrest⟩ := Prod.mk.inj hnew
        obtain ⟨rfl, -⟩ := Prod.mk.inj hrest
        exact (h.origin hputs).1.servable

end Worker

/-- A shard that workers have used, one after the other. -/
inductive ReachableShard : CacheShard → Prop where
  | fresh (capacity : Nat) : ReachableShard { capacity := capacity }
  | worker {env : Environment} {cache : CacheShard} {snapshot : Option DomainBlocklist}
      {labels : List Worker.Label} {worker : Worker} (hcache : ReachableShard cache)
      (hrun : Worker.run env cache snapshot labels = some worker) : ReachableShard worker.cache

/-- What every entry of a reachable shard promises. -/
structure ShardOk (shard : CacheShard) : Prop where
  inv : shard.Inv
  servable : ∀ index key addresses expiry,
    shard.slots.slot index = some (key, addresses, expiry) → Servable key addresses

theorem ShardOk.initial {shard : CacheShard} (h : ShardOk shard)
    (snapshot : Option DomainBlocklist) :
    Worker.CacheOk (Worker.initial shard snapshot) where
  inv := Worker.inv_initial shard snapshot
  shard := h.inv
  keys _ _ hframe := by cases hframe
  servable := h.servable

theorem shardOk_of_reachable {shard : CacheShard} (h : ReachableShard shard) : ShardOk shard := by
  induction h with
  | fresh capacity => exact ⟨CacheShard.inv_empty capacity, fun _ _ _ _ hslot => by cases hslot⟩
  | worker hcache hrun ih =>
    have hok := Transition.run_invariant Worker.CacheOk (fun _ _ _ h hstep => h.step hstep)
      (ih.initial _) hrun
    exact ⟨hok.shard, hok.servable⟩

/-- A query that hits finds an entry that can be served. -/
theorem ShardOk.hit {shard : CacheShard} (h : ShardOk shard) {key : CacheKey} {now : TimePoint}
    {hit : CacheHit} (hget : (shard.get key now).1 = some hit) :
    Servable key hit.addresses ∧ shard.capacity ≠ 0 := by
  rw [h.inv.get_fst, Option.bind_eq_some_iff] at hget
  obtain ⟨⟨addresses, expiry⟩, hfind, hhit⟩ := hget
  obtain ⟨-, rfl⟩ := Transition.enabled hhit
  obtain ⟨index, -, hslot⟩ := h.inv.sound.find_eq_some hfind
  have hindex : index < shard.entries.length := lt_length_of_slotPair hslot
  have hlength := h.inv.length_le
  exact ⟨h.servable index key addresses expiry hslot, by omega⟩

/-- Every entry of a reachable shard can be served: it has addresses, of the family
of its type, its class is `IN`, and they fit.  So a query that is accepted and hits
gets its response from the cache, and neither of the other two ends of the lookup is
reached. -/
theorem entries_servable {shard : CacheShard} (h : ReachableShard shard) :
    (∀ (slot : Nat) (entry : CacheEntry), shard.entries[slot]? = some (some entry) →
      entry.addresses ≠ [] ∧
      ((entry.key.qtype = RecordType.a.code ∧ ∀ address ∈ entry.addresses, address.isV4 = true) ∨
        (entry.key.qtype = RecordType.aaaa.code ∧
          ∀ address ∈ entry.addresses, address.isV6 = true)) ∧
      entry.key.qclass = classIn ∧
      12 + entry.key.qname.length + 4 +
        entry.addresses.length * (12 + if entry.key.qtype = RecordType.a.code then 4 else 16) ≤ 512) ∧
    ∀ packet truncated request question now hit,
      evaluateDatagram packet truncated = { outcome := .accepted, request := some request } →
      request.questions = [question] →
      (shard.get (CacheKey.ofName question.name question.type question.questionClass) now).1 =
        some hit →
      ∃ response, makeCacheHitResponse request hit downstreamResponseBudget = .ok response ∧
        response ≠ [] ∧
        ∀ worker : Worker, worker.cache = shard → request.header.authenticatedData = false →
          request.header.checkingDisabled = false →
          (worker.lookupCache request question now).1 = some (response,
            some (CacheKey.ofName question.name question.type question.questionClass)) ∧
          (worker.lookupCache request question now).2.stats =
            { worker.stats with cacheHits := worker.stats.cacheHits + 1 } := by
  have hok := shardOk_of_reachable h
  constructor
  · intro slot entry hentry
    have hservable := hok.servable slot entry.key entry.addresses entry.expiry
      (slotPair_eq_some.mpr ⟨entry, hentry, rfl⟩)
    exact ⟨hservable.nonempty, hservable.family, hservable.questionClass, hservable.fits⟩
  · intro packet truncated request question now hit haccepts hquestions hget
    have hdatagram : ClientDatagram.Accepts ⟨packet, [], truncated⟩ request := haccepts
    have haccepted : Accepted request question := Worker.accepted_of_accepts hdatagram hquestions
    obtain ⟨hservable, hcapacity⟩ := hok.hit hget
    obtain ⟨response, message, hwrite, hne, -⟩ := serve haccepted hservable hit.remainingTtl
    refine ⟨response, hwrite, hne, ?_⟩
    rintro worker rfl hauthenticated hchecking
    rw [Worker.lookupCache_hit worker hcapacity ⟨hauthenticated, hchecking⟩ hget hwrite]
    exact ⟨rfl, rfl⟩

/-! ## A stored answer, as an example -/

namespace Worker

/-- A query for the address of `x`. -/
def sampleLookup : ClientDatagram where
  packet := [0, 7, 1, 0, 0, 1, 0, 0, 0, 0, 0, 0, 1, 0x78, 0, 0, 1, 0, 1]
  clientAddress := [127, 0, 0, 1]
  truncated := false

/-- The answer of the upstream server. -/
def sampleAnswer : Bytes :=
  [0, 0, 0x80, 0, 0, 1, 0, 1, 0, 0, 0, 0, 1, 0x78, 0, 0, 1, 0, 1,
    0xc0, 12, 0, 1, 0, 1, 0, 0, 0, 60, 0, 4, 10, 0, 0, 1]

/-- The channel has been started. -/
def sampleStarted (cache : CacheShard) : Worker :=
  { initial cache none with
    upstream := System.started sampleEnvironment.upstream System.initial 3 System.sampleConfig }

theorem step_sampleStarted (cache : CacheShard) :
    step sampleEnvironment (initial cache none)
      (.upstream (.start 3 System.sampleConfig true false)) =
      some (sampleStarted cache) := by
  have hstart := System.run_start
    (show System.run sampleEnvironment.upstream [] = some System.initial from rfl)
    (show System.initial.startable 3 System.sampleConfig true = true from rfl)
  obtain ⟨system, hstep, hsystem⟩ := Transition.run_cons.mp hstart
  obtain rfl := Option.some.inj hsystem
  exact congrArg (Option.map fun next => { initial cache none with upstream := next }) hstep

/-- The query misses, and the answer is stored. -/
def sampleStored : List Label :=
  [.receive 0 sampleLookup, .upstream .resume, .process 0 5 false false (.sent 19),
    .upstream (.handleDatagram sampleAnswer false false), .upstream .resume,
      .resume 0 6 false false]

/-- A query for `X`, of another client. -/
def sampleSecond : ClientDatagram where
  packet := [0, 9, 0, 0, 0, 1, 0, 0, 0, 0, 0, 0, 1, 0x58, 0, 0, 1, 0, 1]
  clientAddress := [127, 0, 0, 2]
  truncated := false

def sampleSecondRequest : Message :=
  (evaluateDatagram sampleSecond.packet sampleSecond.truncated).request.get rfl

end Worker

theorem stored_answer_servable :
    ∃ shard hit response, ReachableShard shard ∧
      (shard.get ⟨[1, 0x78, 0], 1, 1⟩ 7).1 = some hit ∧ hit.addresses = [.v4 #v[10, 0, 0, 1]] ∧
      makeCacheHitResponse Worker.sampleSecondRequest hit downstreamResponseBudget =
        .ok response := by
  have hrun : ((Transition.run (Worker.step Worker.sampleEnvironment)
      (Worker.sampleStarted { capacity := 8 }) Worker.sampleStored).map fun worker =>
        (worker.cache.get ⟨[1, 0x78, 0], 1, 1⟩ 7).1) = some (some ⟨[.v4 #v[10, 0, 0, 1]], 60⟩) := by
    decide +kernel
  obtain ⟨worker, hrun, hget⟩ := Option.map_eq_some_iff.mp hrun
  have hreachable : ReachableShard worker.cache := .worker (.fresh 8)
    (Transition.run_cons.mpr ⟨_, Worker.step_sampleStarted _, hrun⟩)
  obtain ⟨response, hresponse, -⟩ :=
    (entries_servable hreachable).2 Worker.sampleSecond.packet false
    Worker.sampleSecondRequest _ 7 ⟨[.v4 #v[10, 0, 0, 1]], 60⟩ rfl rfl hget
  exact ⟨worker.cache, _, response, hreachable, hget, rfl, hresponse⟩

end DnsPro.Server
