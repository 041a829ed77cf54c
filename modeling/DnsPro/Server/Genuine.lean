import DnsPro.Server.Asking
import DnsPro.Server.Boundary
import DnsPro.Server.Fidelity
import DnsPro.Upstream.Sourced

/-!
# Where the records of a response come from

`came` is any fact about packets that holds of those that the channel is handed.  Every record of
a response repeats a record of such a packet, and the packet answers the question of the client:
the packet is forwarded, or the cache replays it.  What a worker writes on its own has no records.
-/

namespace DnsPro.Server

open DnsPro.Cache DnsPro.Filter DnsPro.Protocol DnsPro.Runtime DnsPro.Upstream DnsPro.Transition

/-- The records of the three sections. -/
def allRecords (message : Message) : List ResourceRecord :=
  message.answers ++ message.authorities ++ message.additionals

structure Repeats (record original : ResourceRecord) : Prop where
  type : record.type = original.type
  recordClass : record.recordClass = original.recordClass
  rdata : record.rdata = original.rdata

/-- The record is that of a packet that came, in answer to the question. -/
def Witnessed (came : Bytes → Prop) (question : Question) (record : ResourceRecord) : Prop :=
  ∃ packet original answered, came packet ∧
    parseMessage packet System.upstreamLimits = .ok original ∧ original.questions = [answered] ∧
    SameQuestion answered question ∧ ∃ source ∈ allRecords original, Repeats record source

/-- What the client gets has no records but those of packets that answer its question. -/
def Traced (came : Bytes → Prop) (datagram : ClientDatagram) (response : Bytes) : Prop :=
  ∃ message, parseMessage response {} = .ok message ∧ ∀ record ∈ allRecords message,
    ∃ request question, datagram.Accepts request ∧ request.questions = [question] ∧
      Witnessed came question record

/-- The response was received. -/
def StoredResponse.From (came : Bytes → Prop) (stored : StoredResponse) : Prop :=
  ∃ packet, came packet ∧
    Relayed packet stored.request.header stored.question stored.response

/-- Every entry of the shard was taken from a response that was received. -/
def ShardFrom (came : Bytes → Prop) (shard : CacheShard) : Prop :=
  ∀ index key addresses expiry, shard.slots.slot index = some (key, addresses, expiry) →
    ∃ stored, Worker.Origin key stored ∧ stored.From came ∧
      addresses = stored.cacheable.addresses

variable {came came' : Bytes → Prop} {datagram : ClientDatagram} {request : Message}
  {question : Question} {response : Bytes}

theorem Traced.mono (h : Traced came datagram response)
    (hcame : ∀ packet, came packet → came' packet) :
    Traced came' datagram response := by
  obtain ⟨message, hparse, hrecords⟩ := h
  refine ⟨message, hparse, fun record hrecord => ?_⟩
  obtain ⟨request, question, haccepts, hquestions, packet, original, answered, hpacket, hrest⟩ :=
    hrecords record hrecord
  exact ⟨request, question, haccepts, hquestions, packet, original, answered, hcame _ hpacket,
    hrest⟩

theorem ShardFrom.mono {shard : CacheShard} (h : ShardFrom came shard)
    (hcame : ∀ packet, came packet → came' packet) : ShardFrom came' shard := by
  intro index key addresses expiry hslot
  obtain ⟨stored, horigin, ⟨packet, hpacket, hrelayed⟩, haddresses⟩ := h _ _ _ _ hslot
  exact ⟨stored, horigin, ⟨packet, hcame _ hpacket, hrelayed⟩, haddresses⟩

/-! ## What the worker writes -/

theorem traced_boundary {packet : Bytes} {message : Message}
    (h : BoundaryResponse packet response message) : Traced came datagram response := by
  refine ⟨message, h.parsed, fun record hrecord => ?_⟩
  rw [allRecords, h.answers, h.authorities, h.additionals] at hrecord
  cases hrecord

theorem parse_of_accepts (h : datagram.Accepts request) :
    parseMessage datagram.packet {} = .ok request := by
  unfold ClientDatagram.Accepts evaluateDatagram at h
  split at h
  · split at h
    · cases h
    · cases h
  split at h
  · cases h
  rename_i message hparse
  split at h
  · cases h
  · split at h
    · cases h
    · cases h
  · cases h
    exact hparse

theorem traced_error (haccepts : datagram.Accepts request) (haccepted : Accepted request question)
    {code : ResponseCode}
    (hwrite : makeErrorResponse request code true downstreamResponseBudget = .ok response) :
    Traced came datagram response := by
  have hparse := parse_of_accepts haccepts
  obtain ⟨hlength, hcount⟩ := bounds_of_parse hparse
  obtain ⟨written, questions, hmake, hquestions, hechoed⟩ :=
    makeErrorResponse_spec hparse haccepted.isResponse code
  obtain rfl := Except.ok.inj (hmake.symm.trans hwrite)
  rcases hechoed with rfl | ⟨rfl, -⟩
  · obtain ⟨message, hboundary, -⟩ :=
      boundaryResponse_of_write hlength hcount (parseMessage_key hparse) hquestions
    exact traced_boundary hboundary
  · obtain ⟨message, hboundary, -⟩ :=
      boundaryResponse_of_write hlength (by simp) (by simp) hquestions
    exact traced_boundary hboundary

theorem traced_evaluated (came : Bytes → Prop) (datagram : ClientDatagram)
    (hresponse : (evaluateDatagram datagram.packet datagram.truncated).response ≠ []) :
    Traced came datagram (evaluateDatagram datagram.packet datagram.truncated).response := by
  obtain ⟨message, hevaluated⟩ := evaluated_of_response hresponse
  exact traced_boundary hevaluated.boundary

/-! ## What was received -/

theorem sameQuestion_trans {first second third : Question} (h : SameQuestion first second)
    (h' : SameQuestion second third) : SameQuestion first third :=
  ⟨h.name.trans h'.name, h.type.trans h'.type, h.questionClass.trans h'.questionClass⟩

/-- Names that give one key differ in case alone. -/
theorem sameQuestion_of_keyOf {other : Question} {request' : Message}
    (h : Accepted request question) (h' : Accepted request' other)
    (hkey : keyOf question = keyOf other) : SameQuestion question other := by
  have hname : question.name.canonicalKey = other.name.canonicalKey := congrArg CacheKey.qname hkey
  rw [h.key, h'.key, canonicalKeyOf_inj question.name.labels_ok other.name.labels_ok] at hname
  exact ⟨hname, congrArg CacheKey.qtype hkey, congrArg CacheKey.qclass hkey⟩

/-- A packet that is relayed answers the question. -/
theorem answered_of_relayed {packet : Bytes} (h : Relayed packet request.header question response)
    (haccepted : Accepted request question) :
    ∃ original answered, parseMessage packet System.upstreamLimits = .ok original ∧
      original.questions = [answered] ∧ SameQuestion answered question ∧
      parseMessage response {} = .ok { original with
        header := { original.header with id := request.header.id }, wireImage := response } := by
  obtain ⟨original, hparse, hvalid⟩ := h.accepted
  obtain ⟨-, hdefault, hrewritten⟩ := parseMessage_upstream hparse request.header.id
  obtain ⟨-, -, -, -, answered, hquestions, hsame⟩ := validateUpstreamResponse_ok_iff.mp hvalid
  refine ⟨original, answered, hparse, hquestions, ?_, ?_⟩
  · refine sameQuestion_of_same ?_ haccepted.key hsame
    exact parseMessage_key hdefault answered (by simp [hquestions])
  · rw [h.response_eq]
    exact hrewritten

theorem traced_relayed (haccepts : datagram.Accepts request) (haccepted : Accepted request question)
    {packet : Bytes} (hcame : came packet)
    (hrelayed : Relayed packet request.header question response) :
    Traced came datagram response := by
  obtain ⟨original, answered, hparse, hquestions, hsame, hresponse⟩ :=
    answered_of_relayed hrelayed haccepted
  refine ⟨_, hresponse, fun record hrecord => ⟨request, question, haccepts, haccepted.questions,
    packet, original, answered, hcame, hparse, hquestions, hsame, record, hrecord, rfl, rfl, rfl⟩⟩

theorem exists_of_forall₂ {α β : Type} {related : α → β → Prop} {left : List α} {right : List β}
    (h : List.Forall₂ related left right) {first : α} (hfirst : first ∈ left) :
    ∃ second ∈ right, related first second := by
  induction h with
  | nil => cases hfirst
  | cons hrelated _ ih =>
    rcases List.mem_cons.mp hfirst with rfl | hrest
    · exact ⟨_, List.mem_cons_self, hrelated⟩
    · obtain ⟨second, hsecond, hrelated'⟩ := ih hrest
      exact ⟨second, List.mem_cons_of_mem _ hsecond, hrelated'⟩

/-- A hit replays a response that was received. -/
theorem traced_hit {shard : CacheShard} (hshard : ShardFrom came shard) (hinv : shard.Inv)
    (haccepts : datagram.Accepts request) (haccepted : Accepted request question)
    {cacheNow : TimePoint} {hit : CacheHit}
    (hget : (shard.get (keyOf question) cacheNow).1 = some hit)
    (hwrite : makeCacheHitResponse request hit downstreamResponseBudget = .ok response) :
    Traced came datagram response := by
  rw [hinv.get_fst, Option.bind_eq_some_iff] at hget
  obtain ⟨⟨addresses, expiry⟩, hfind, hhit⟩ := hget
  obtain ⟨-, rfl⟩ := enabled hhit
  obtain ⟨index, -, hslot⟩ := hinv.sound.find_eq_some hfind
  obtain ⟨stored, horigin, ⟨packet, hcame, hrelayed⟩, rfl⟩ := hshard _ _ _ _ hslot
  obtain ⟨original, answered, hparse, hquestions, hsame, -⟩ :=
    answered_of_relayed hrelayed horigin.accepted
  have hcacheable := horigin.cacheable hrelayed.response_eq hparse
  have hstored := sameQuestion_of_keyOf horigin.accepted haccepted horigin.key_eq.symm
  obtain ⟨written, message, hserve, -, hresponds, -, -, hauthorities, hadditionals, rdatas, hrdatas,
    hrecords⟩ := serve haccepted horigin.servable (CacheShard.remainingSeconds expiry cacheNow)
  obtain rfl := Except.ok.inj (hserve.symm.trans hwrite)
  have hreplays := replays_of_answers hstored.type.symm hstored.questionClass.symm
    hcacheable.answers hrdatas hrecords
  refine ⟨message, hresponds.parsed, fun record hrecord => ⟨request, question, haccepts,
    haccepted.questions, packet, original, answered, hcame, hparse, hquestions,
    sameQuestion_trans hsame hstored, ?_⟩⟩
  rw [allRecords, hauthorities, hadditionals, List.append_nil, List.append_nil] at hrecord
  obtain ⟨source, hsource, hreplay⟩ := exists_of_forall₂ hreplays hrecord
  exact ⟨source, List.mem_append_left _ (List.mem_append_left _ hsource), hreplay.type,
    hreplay.recordClass, hreplay.rdata⟩

namespace Worker

variable {env : Environment} {worker next : Worker} {task : TaskId} {frame : Frame}

/-- The coroutine is about to send nothing else. -/
def TracedFrame (came : Bytes → Prop) (frame : Frame) : Prop :=
  ∀ response, frame.stage = .responding response → response ≠ [] →
    Traced came frame.datagram response

/-- The channel, the shard and the coroutines hold nothing that was not received. -/
structure Genuine (came : Bytes → Prop) (worker : Worker) : Prop where
  ok : CacheOk worker
  upstream : System.Sourced came worker.upstream
  shard : ShardFrom came worker.cache
  frames : ∀ task frame, worker.frames task = some frame → TracedFrame came frame
  sent : ∀ entry ∈ worker.sent, ∃ frame, worker.frames entry.task = some frame ∧
    Traced came frame.datagram entry.response

theorem Genuine.mono (h : Genuine came worker) (hcame : ∀ packet, came packet → came' packet) :
    Genuine came' worker where
  ok := h.ok
  upstream := h.upstream.mono hcame
  shard := h.shard.mono hcame
  frames task frame hframe response hstage hne :=
    (h.frames task frame hframe response hstage hne).mono hcame
  sent entry hentry := by
    obtain ⟨frame, hframe, htraced⟩ := h.sent entry hentry
    exact ⟨frame, hframe, htraced.mono hcame⟩

/-! ## The coroutine that acts -/

/-- What the coroutine is about to send is traced. -/
def Tracing (came : Bytes → Prop) (next : Worker) (task : TaskId) : Prop :=
  ∀ frame, next.frames task = some frame → TracedFrame came frame

theorem tracing_of_stage {stage : Stage}
    (hframes : next.frames task = some { frame with stage := stage })
    (hstage : ∀ response, stage ≠ .responding response) : Tracing came next task := by
  intro frame' hframe' response hresponding
  obtain rfl := Option.some.inj (hframes.symm.trans hframe')
  exact absurd hresponding (hstage response)

theorem tracing_coReturn (came : Bytes → Prop) (worker : Worker) (task : TaskId) (frame : Frame) :
    Tracing came (worker.coReturn task frame) task :=
  tracing_of_stage (Function.update_self _ _ _) (by simp)

theorem tracing_respondWith (worker : Worker) (task : TaskId) (frame : Frame) {response : Bytes}
    (h : response ≠ [] → Traced came frame.datagram response) :
    Tracing came (worker.respondWith task frame response) task := by
  intro frame' hframe' response' hresponding hne
  have hnext : (worker.respondWith task frame response).frames task =
    some { frame with stage := .responding response } := Function.update_self _ _ _
  obtain rfl := Option.some.inj (hnext.symm.trans hframe')
  obtain rfl := Stage.responding.inj hresponding
  exact h hne

theorem tracing_orServFail (worker : Worker) (task : TaskId) (frame : Frame)
    (haccepts : frame.datagram.Accepts request) (haccepted : Accepted request question)
    (h : response ≠ [] → Traced came frame.datagram response) :
    Tracing came (worker.orServFail task frame request response) task := by
  unfold orServFail
  split
  · split
    · exact tracing_coReturn _ _ _ _
    · rename_i servfail hwrite
      exact tracing_respondWith _ _ _ fun _ => traced_error haccepts haccepted hwrite
  · exact tracing_respondWith _ _ _ h

theorem tracing_awaitUpstream (came : Bytes → Prop) (env : Environment) (worker : Worker)
    (task : TaskId) (frame : Frame) (request : Message) (question : Question)
    (cacheKey : Option CacheKey) (writeFails armFails : Bool) (sent : SendOutcome) :
    Tracing came
      (worker.awaitUpstream env task frame request question cacheKey writeFails armFails sent)
      task :=
  tracing_of_stage (Function.update_self _ _ _) (by simp)

/-- What the cache gives is traced. -/
theorem traced_lookupCache (h : ShardFrom came worker.cache) (hinv : worker.cache.Inv)
    (haccepts : datagram.Accepts request) (haccepted : Accepted request question)
    {cacheNow : TimePoint} {found : Bytes} {cacheKey : Option CacheKey}
    (hlookup : (worker.lookupCache request question cacheNow).1 = some (found, cacheKey))
    (hne : found ≠ []) : Traced came datagram found := by
  unfold lookupCache at hlookup
  dsimp only at hlookup
  split at hlookup
  · split at hlookup
    · rename_i hit hfound
      split at hlookup
      · rename_i response hwrite
        obtain ⟨rfl, -⟩ := Prod.mk.inj (Option.some.inj hlookup)
        exact traced_hit h hinv haccepts haccepted hfound hwrite
      · obtain ⟨rfl, -⟩ := Prod.mk.inj (Option.some.inj hlookup)
        exact absurd rfl hne
      · cases hlookup
    · obtain ⟨rfl, -⟩ := Prod.mk.inj (Option.some.inj hlookup)
      exact absurd rfl hne
  · obtain ⟨rfl, -⟩ := Prod.mk.inj (Option.some.inj hlookup)
    exact absurd rfl hne

theorem tracing_processQuery (env : Environment) (worker : Worker)
    (h : ShardFrom came worker.cache) (hinv : worker.cache.Inv) (task : TaskId)
    (haccepts : frame.datagram.Accepts request)
    (haccepted : Accepted request question) (cacheNow : TimePoint) (writeFails armFails : Bool)
    (sent : SendOutcome) :
    Tracing came
      (worker.processQuery env task frame request question cacheNow writeFails armFails sent)
      task := by
  cases hmatches : worker.matchesFilter env question.name with
  | true =>
    obtain ⟨refused, stats, hwrite, -, hprocess⟩ :=
      processQuery_blocked haccepted hmatches task frame cacheNow writeFails armFails sent
    rw [hprocess]
    exact tracing_respondWith _ _ _ fun _ => traced_error haccepts haccepted hwrite
  | false =>
    unfold processQuery filterQuery
    rw [if_neg (by simp [hmatches])]
    dsimp only
    rw [if_pos rfl]
    split
    · exact tracing_coReturn _ _ _ _
    · rename_i found cacheKey looked hlooked
      split
      · exact tracing_awaitUpstream _ _ _ _ _ _ _ _ _ _ _
      · refine tracing_orServFail _ _ _ haccepts haccepted fun hne => ?_
        exact traced_lookupCache h hinv haccepts haccepted (congrArg Prod.fst hlooked) hne

theorem tracing_processDatagram (h : ShardFrom came worker.cache) (hinv : worker.cache.Inv)
    (env : Environment) (task : TaskId) (frame : Frame) (cacheNow : TimePoint)
    (writeFails armFails : Bool) (sent : SendOutcome) :
    Tracing came (worker.processDatagram env task frame cacheNow writeFails armFails sent)
      task := by
  have hevaluated := traced_evaluated came frame.datagram
  unfold processDatagram
  dsimp only
  split
  · exact tracing_coReturn _ _ _ _
  split
  · exact tracing_coReturn _ _ _ _
  · exact tracing_respondWith _ _ _ hevaluated
  · exact tracing_respondWith _ _ _ hevaluated
  · exact tracing_respondWith _ _ _ hevaluated
  · exact tracing_coReturn _ _ _ _
  · rename_i houtcome
    obtain ⟨request, question, haccepts, haccepted⟩ := accepted_of_evaluateDatagram houtcome
    rw [haccepts]
    dsimp only
    rw [haccepted.questions]
    have hquery (stats : WorkerStats) :=
      tracing_processQuery env { worker with stats := stats } h hinv
      task haccepts haccepted cacheNow writeFails armFails sent
    exact hquery _

/-- The response to the query of a coroutine was received for its question. -/
theorem traced_resume (h : Genuine came worker) {cacheKey : Option CacheKey} {query : QueryId}
    {blocked : Bool}
    (hframe : worker.frames task =
      some ⟨datagram, .awaiting request question cacheKey query, blocked⟩)
    (hstate : (worker.upstream.queries query).state = .completed)
    (houtcome : (worker.upstream.queries query).result.outcome = .response) :
    ∃ packet, came packet ∧ Relayed packet request.header question
      (worker.upstream.queries query).result.response := by
  obtain ⟨-, -, -, hasked⟩ := h.ok.inv.frames _ _ hframe
  obtain ⟨packet, hcame, hrelayed⟩ := h.upstream query hstate houtcome
  rw [hasked.header_eq, hasked.question_eq] at hrelayed
  exact ⟨packet, hcame, hrelayed⟩

theorem tracing_resumeDatagram (h : Genuine came worker) (env : Environment)
    {cacheKey : Option CacheKey} {query : QueryId} {blocked : Bool}
    (hframe : worker.frames task =
      some ⟨datagram, .awaiting request question cacheKey query, blocked⟩)
    (cacheNow : TimePoint) (cachingFails emplaceFails : Bool) :
    Tracing came (worker.resumeDatagram env task
      ⟨datagram, .awaiting request question cacheKey query, blocked⟩ request question cacheKey query
      cacheNow cachingFails emplaceFails) task := by
  obtain ⟨-, haccepts, haccepted, -⟩ := h.ok.inv.frames _ _ hframe
  unfold resumeDatagram
  dsimp only
  split
  · exact tracing_coReturn _ _ _ _
  rename_i hstate
  rw [not_not] at hstate
  split
  · exact tracing_coReturn _ _ _ _
  · rename_i houtcome
    refine tracing_orServFail _ _ _ haccepts haccepted fun _ => ?_
    obtain ⟨packet, hcame, hrelayed⟩ := traced_resume h hframe hstate houtcome
    exact traced_relayed haccepts haccepted hcame hrelayed
  · exact tracing_orServFail _ _ _ haccepts haccepted fun hne => absurd rfl hne

/-- Whatever a coroutine does, it is about to send nothing that was not received. -/
theorem Genuine.tracing (h : Genuine came worker) {label : Label}
    (hstep : step env worker label = some next) (hactor : label.actor = some task) :
    Tracing came next task := by
  cases step_eq_some.mp hstep with
  | upstream | receive | refresh | hangup => cases hactor
  | process cacheNow writeFails armFails sent =>
    obtain rfl := Option.some.inj hactor
    exact tracing_processDatagram h.shard h.ok.shard env _ _ cacheNow writeFails armFails sent
  | resume cacheNow cachingFails emplaceFails hrunning =>
    obtain rfl := Option.some.inj hactor
    exact tracing_resumeDatagram h env (running_eq_some hrunning).2 cacheNow cachingFails
      emplaceFails
  | respond =>
    obtain rfl := Option.some.inj hactor
    unfold finishDatagram
    split
    · exact tracing_coReturn _ _ _ _
    · exact tracing_coReturn _ _ _ _
  | fail =>
    obtain rfl := Option.some.inj hactor
    exact tracing_coReturn _ _ _ _

/-- What a coroutine does with the channel answers no query. -/
theorem sourced_drives {system : System} (h : System.Sourced came worker.upstream)
    (hdrives : Drives env worker task system) : System.Sourced came system := by
  cases hdrives with
  | kept => exact h
  | completed => exact h.of_eq rfl
  | awaited writeFails armFails sent =>
    exact (h.makeQuery env.upstream task _ _).awaitQuery env.upstream _ writeFails armFails sent
  | destroyed => exact h.destroyQuery env.upstream _
  | returned => exact (h.destroyQuery env.upstream _).of_eq rfl

/-! ## Steps -/

/-- The packets that the step hands to the channel. -/
def Label.packets : Label → List Bytes
  | .upstream label => label.packets
  | _ => []

/-- What is put into the shard was received. -/
theorem Genuine.puts_from (h : Genuine came worker) {label : Label} {key : CacheKey}
    {stored : StoredResponse} (hputs : worker.puts label = some (key, stored)) :
    stored.From came := by
  cases label with
  | upstream | receive | process | respond | fail | refresh | hangup => cases hputs
  | resume task cacheNow cachingFails emplaceFails =>
    unfold puts at hputs
    dsimp only at hputs
    split at hputs
    · rename_i datagram request question key' query blocked hrunning
      split at hputs
      · rename_i hanswered
        obtain ⟨hstate, houtcome, -⟩ := hanswered
        obtain ⟨cacheable, -, heq⟩ := Option.map_eq_some_iff.mp hputs
        obtain ⟨rfl, rfl⟩ := Prod.mk.inj heq
        exact traced_resume h (running_eq_some hrunning).2 hstate houtcome
      · cases hputs
    · cases hputs

theorem Genuine.step_shard (h : Genuine came worker) {label : Label}
    (hstep : step env worker label = some next) : ShardFrom came next.cache := by
  intro index key addresses expiry hslot
  by_cases hold : worker.cache.slots.slot index = some (key, addresses, expiry)
  · exact h.shard index key addresses expiry hold
  have heffect := (step_cache hstep).1
  generalize next.cache = cache at heffect hslot
  cases heffect with
  | kept => exact absurd hslot hold
  | looked => exact absurd (h.ok.shard.slot_get hslot) hold
  | stored emplaceFails hputs =>
    rcases (h.ok.shard.put_effect _ _ _ _ emplaceFails).1.slot_cases hslot with hsame | hnew
    · exact absurd hsame hold
    · obtain ⟨rfl, hrest⟩ := Prod.mk.inj hnew
      obtain ⟨rfl, -⟩ := Prod.mk.inj hrest
      exact ⟨_, (h.ok.origin hputs).1, h.puts_from hputs, rfl⟩

/-- An empty response is not sent. -/
theorem response_ne_nil {sent : SendOutcome} {response : Bytes}
    (hstep : step env worker (.respond task sent) = some next)
    (hframe : worker.frames task = some frame) (hstage : frame.stage = .responding response)
    (hsent : next.sent ≠ worker.sent) : response ≠ [] := by
  cases step_eq_some.mp hstep with
  | respond _ hrunning =>
    obtain rfl := Option.some.inj (hframe.symm.trans (running_eq_some hrunning).2)
    obtain rfl := Stage.responding.inj hstage
    rintro rfl
    refine hsent ?_
    unfold finishDatagram
    rw [if_neg fun hsends => hsends.1 rfl]
    rfl

theorem Genuine.step (h : Genuine came worker) {label : Label}
    (hstep : step env worker label = some next) (hcame : ∀ packet ∈ label.packets, came packet) :
    Genuine came next where
  ok := h.ok.step hstep
  upstream := by
    cases hactor : label.actor with
    | some task => exact sourced_drives h.upstream (step_drives h.ok.inv hstep hactor)
    | none =>
      cases step_eq_some.mp hstep with
      | process | resume | respond | fail => cases hactor
      | upstream _ hsystem => exact h.upstream.step h.ok.inv.upstream hsystem hcame
      | receive => exact h.upstream.of_eq rfl
      | refresh | hangup => exact h.upstream
  shard := h.step_shard hstep
  frames task frame hframe := by
    by_cases hactor : label.actor = some task
    · exact h.tracing hstep hactor frame hframe
    rcases step_frames h.ok.inv hstep hactor with hsame | ⟨-, datagram, hnew⟩
    · exact h.frames task frame (hsame ▸ hframe)
    · obtain rfl := Option.some.inj (hnew.symm.trans hframe)
      intro response hstage
      cases hstage
  sent entry hentry := by
    have hkept : ∀ task frame response, worker.frames task = some frame →
        Traced came frame.datagram response → ∃ frame', next.frames task = some frame' ∧
          Traced came frame'.datagram response := by
      intro task frame response hframe htraced
      obtain ⟨frame', hframe', hdatagram, -⟩ := step_keeps_frame h.ok.inv hstep hframe
      exact ⟨frame', hframe', hdatagram ▸ htraced⟩
    rcases step_sent hstep with hsent | ⟨task, sent, frame, response, rfl, hframe, hstage, hsent⟩
    · rw [hsent] at hentry
      obtain ⟨frame, hframe, htraced⟩ := h.sent entry hentry
      exact hkept _ _ _ hframe htraced
    rw [hsent] at hentry
    rcases List.mem_append.mp hentry with hold | hnew
    · obtain ⟨frame, hframe, htraced⟩ := h.sent entry hold
      exact hkept _ _ _ hframe htraced
    · obtain rfl := List.mem_singleton.mp hnew
      have hne := response_ne_nil hstep hframe hstage fun hsame => by
        rw [hsame] at hsent
        simp at hsent
      exact hkept _ _ _ hframe (h.frames task frame hframe response hstage hne)

/-- A step that reads no packet. -/
theorem Genuine.silent (h : Genuine came worker) {label : Label}
    (hstep : worker.step env label = some next) (hsilent : label.packets = []) :
    Genuine came next :=
  h.step hstep (by simp [hsilent])

/-- A worker that takes over a shard. -/
theorem genuine_initial {cache : CacheShard} (hinv : cache.Inv) (hshard : ShardFrom came cache)
    (snapshot : Option DomainBlocklist) : Genuine came (initial cache snapshot) where
  ok := ShardOk.initial ⟨hinv, fun index key addresses expiry hslot => by
    obtain ⟨stored, horigin, -, rfl⟩ := hshard index key addresses expiry hslot
    exact horigin.servable⟩ snapshot
  upstream := System.sourced_initial
  shard := hshard
  frames _ _ hframe := by cases hframe
  sent _ hentry := by cases hentry

end Worker

end DnsPro.Server
