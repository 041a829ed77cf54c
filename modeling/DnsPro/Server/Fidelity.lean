import DnsPro.Cache.History
import DnsPro.Server.Bypass
import DnsPro.Server.Sent

/-!
# What a cache hit says

A hit is the answer of the upstream server to an earlier query, under the id and
with the name of the query that hits.  The ledger of a worker keeps the response
that was stored latest under each key, and goes on when the next worker takes the
shard over.  The clock of the cache is steady, so the times do not decrease.
-/

namespace DnsPro.Server

open DnsPro.Cache DnsPro.Filter DnsPro.Protocol DnsPro.Runtime DnsPro.Upstream DnsPro.Transition

namespace Worker

variable {env : Environment} {worker next : Worker} {task : TaskId} {frame : Frame}

/-- A query that hits is about to get the response from the cache. -/
theorem processDatagram_hit (env : Environment) {request : Message} {question : Question}
    (haccepts : frame.datagram.Accepts request) (hquestions : request.questions = [question])
    (hstop : worker.upstream.scheduler.stopRequested = false)
    (hpassed : worker.matchesFilter env question.name = false)
    (hcapacity : worker.cache.capacity ≠ 0)
    (hcachable : Cachable request) {cacheNow : TimePoint} {hit : CacheHit}
    (hget : (worker.cache.get (keyOf question) cacheNow).1 = some hit) {response : Bytes}
    (hwrite : makeCacheHitResponse request hit downstreamResponseBudget = .ok response)
    (hne : response ≠ []) (task : TaskId) (writeFails armFails : Bool) (sent : SendOutcome) :
    (worker.processDatagram env task frame cacheNow writeFails armFails sent).frames task =
      some { frame with stage := .responding response } := by
  obtain ⟨stats, hprocess⟩ := processDatagram_of_accepts env worker haccepts hquestions hstop task
    cacheNow writeFails armFails sent
  have hlookup := lookupCache_hit { worker with stats := stats } hcapacity hcachable hget hwrite
  have hmatches : { worker with stats := stats }.matchesFilter env question.name = false := hpassed
  rw [hprocess]
  unfold processQuery filterQuery
  rw [if_neg (by simp [hmatches])]
  dsimp only
  rw [if_pos rfl, hlookup]
  dsimp only
  rw [if_neg (by simp [hne])]
  unfold orServFail
  rw [if_neg hne]
  exact Function.update_self _ _ _

/-- The reading of the clock of the cache. -/
def Label.cacheTime : Label → Option TimePoint
  | .process _ cacheNow _ _ _ => some cacheNow
  | .resume _ cacheNow _ _ => some cacheNow
  | _ => none

/-- Whether the `emplace` of the step throws. -/
def Label.emplaceFails : Label → Bool
  | .resume _ _ _ emplaceFails => emplaceFails
  | _ => false

/-- The response that a step stores: `put` returns. -/
def stores (worker : Worker) (label : Label) : Option (CacheKey × StoredResponse) :=
  (worker.puts label).filter fun (key, stored) =>
    (worker.cache.put key stored.cacheable.addresses stored.cacheable.ttl stored.time
      label.emplaceFails).1

/-- What a step does to the map of the shard: it forgets, or it stores one response
and forgets. -/
theorem step_find (h : CacheOk worker) {label : Label} (hstep : step env worker label = some next) :
    (worker.stores label = none ∧ ∀ key, next.cache.slots.find key = worker.cache.slots.find key ∨
      next.cache.slots.find key = none) ∨
    ∃ key stored, worker.stores label = some (key, stored) ∧ Origin key stored ∧
      label.cacheTime = some stored.time ∧
      (∀ value, next.cache.slots.find key = some value → value =
        (stored.cacheable.addresses, stored.time + stored.cacheable.ttl.toNat * second)) ∧
      ∀ other ≠ key, next.cache.slots.find other = worker.cache.slots.find other ∨
        next.cache.slots.find other = none := by
  have heffect := (step_cache hstep).1
  generalize next.cache = cache at heffect
  cases heffect with
  | kept hputs =>
    refine Or.inl ⟨?_, fun key => Or.inl rfl⟩
    rw [stores, hputs]
    rfl
  | looked cacheNow => exact Or.inl ⟨rfl, h.shard.forget_get _ cacheNow⟩
  | @stored task cacheNow cachingFails key stored emplaceFails hputs =>
    obtain ⟨horigin, rfl⟩ := h.origin hputs
    have hstores : worker.stores (.resume task stored.time cachingFails emplaceFails) =
        if (worker.cache.put key stored.cacheable.addresses stored.cacheable.ttl stored.time
          emplaceFails).1 then some (key, stored) else none := by
      rw [stores, hputs, Option.filter_some]
      rfl
    have heffect :=
      (h.shard.put_effect key stored.cacheable.addresses stored.cacheable.ttl stored.time
      emplaceFails).1
    cases hreturned :
      (worker.cache.put key stored.cacheable.addresses stored.cacheable.ttl stored.time
      emplaceFails).1 with
    | false =>
      rw [hreturned] at hstores heffect
      exact Or.inl ⟨hstores, heffect.find_aborted h.shard⟩
    | true =>
      rw [hreturned] at hstores heffect
      refine Or.inr ⟨key, stored, hstores, horigin, rfl, ?_, ?_⟩
      · intro value hvalue
        rw [heffect.find_self h.shard] at hvalue
        split at hvalue
        · cases hvalue
        · exact (Option.some.inj hvalue).symm
      · intro other hother
        exact (heffect.find_other h.shard hother).imp id And.left

end Worker

/-- A worker, the latest time that its cache has seen, and the response that was
stored latest under each key. -/
structure Ledger where
  worker : Worker
  now : TimePoint
  latest : CacheKey → Option StoredResponse

namespace Ledger

/-- One step of the worker, with its time and what it stores. -/
def step (env : Environment) (ledger : Ledger) (label : Worker.Label) : Option Ledger :=
  if ledger.now ≤ label.cacheTime.getD ledger.now then
    (ledger.worker.step env label).map fun next =>
      { worker := next
        now := label.cacheTime.getD ledger.now
        latest := match ledger.worker.stores label with
          | none => ledger.latest
          | some (key, stored) => Function.update ledger.latest key (some stored) }
  else none

/-- The ledger of a worker that takes a shard over. -/
def initial (cache : CacheShard) (snapshot : Option DomainBlocklist) (now : TimePoint)
    (latest : CacheKey → Option StoredResponse) : Ledger where
  worker := Worker.initial cache snapshot
  now := now
  latest := latest

end Ledger

/-- A shard that workers have used, one after the other, with the time and what was
stored. -/
inductive ShardHistory : CacheShard → TimePoint → (CacheKey → Option StoredResponse) → Prop where
  | fresh (capacity : Nat) (now : TimePoint) : ShardHistory { capacity := capacity } now fun _ => none
  | worker {env : Environment} {cache : CacheShard} {now : TimePoint}
      {latest : CacheKey → Option StoredResponse} {snapshot : Option DomainBlocklist}
      {labels : List Worker.Label} {ledger : Ledger} (hcache : ShardHistory cache now latest)
      (hrun : run (Ledger.step env) (.initial cache snapshot now latest) labels = some ledger) :
      ShardHistory ledger.worker.cache ledger.now ledger.latest

/-- A state of a worker over a shard with a history. -/
def Ledger.Reached (env : Environment) (ledger : Ledger) : Prop :=
  ∃ cache now latest snapshot labels, ShardHistory cache now latest ∧
    run (Ledger.step env) (.initial cache snapshot now latest) labels = some ledger

namespace Ledger

variable {env : Environment} {ledger next : Ledger}

/-- What the map of the shard holds is the latest response under the key. -/
structure Ok (ledger : Ledger) : Prop where
  worker : ledger.worker.CacheOk
  latest : ∀ key addresses expiry, ledger.worker.cache.slots.find key = some (addresses, expiry) →
    ∃ stored, ledger.latest key = some stored ∧ Worker.Origin key stored ∧
      addresses = stored.cacheable.addresses ∧
      expiry = stored.time + stored.cacheable.ttl.toNat * second ∧ stored.time ≤ ledger.now

/-- A map that has forgotten some keys. -/
theorem Ok.latest_of_forget (h : Ok ledger) {now : TimePoint} (hnow : ledger.now ≤ now)
    {find : CacheKey → Option (List IPAddress × TimePoint)} {key : CacheKey}
    (hforget : find key = ledger.worker.cache.slots.find key ∨ find key = none)
    {addresses : List IPAddress} {expiry : TimePoint}
    (hfind : find key = some (addresses, expiry)) :
    ∃ stored, ledger.latest key = some stored ∧ Worker.Origin key stored ∧
      addresses = stored.cacheable.addresses ∧
      expiry = stored.time + stored.cacheable.ttl.toNat * second ∧ stored.time ≤ now := by
  rcases hforget with hsame | hnone
  · rw [hsame] at hfind
    obtain ⟨stored, hlatest, horigin, haddresses, hexpiry, htime⟩ := h.latest _ _ _ hfind
    exact ⟨stored, hlatest, horigin, haddresses, hexpiry, le_trans htime hnow⟩
  · rw [hnone] at hfind
    cases hfind

theorem Ok.step (h : Ok ledger) {label : Worker.Label} (hstep : ledger.step env label = some next) :
    Ok next := by
  unfold Ledger.step at hstep
  split at hstep
  · rename_i hnow
    obtain ⟨worker, hworker, rfl⟩ := Option.map_eq_some_iff.mp hstep
    refine ⟨h.worker.step hworker, ?_⟩
    intro key addresses expiry hfind
    rcases Worker.step_find h.worker hworker with
      ⟨hstores, hforget⟩ | ⟨written, stored, hstores, horigin, htime, hself, hforget⟩
    · dsimp only
      rw [hstores]
      exact h.latest_of_forget hnow (hforget key) hfind
    · dsimp only
      rw [hstores, htime]
      by_cases hkey : key = written
      · subst hkey
        obtain ⟨rfl, rfl⟩ := Prod.mk.inj (hself _ hfind)
        exact ⟨stored, Function.update_self _ _ _, horigin, rfl, rfl, le_refl _⟩
      · rw [htime] at hnow
        dsimp only
        rw [Function.update_of_ne hkey]
        exact h.latest_of_forget hnow (hforget key hkey) hfind
  · cases hstep

/-- Every reached ledger. -/
theorem ok_of_history {cache : CacheShard} {now : TimePoint}
    {latest : CacheKey → Option StoredResponse} (h : ShardHistory cache now latest)
    (snapshot : Option DomainBlocklist) : Ok (initial cache snapshot now latest) := by
  induction h generalizing snapshot with
  | fresh capacity now =>
    refine ⟨ShardOk.initial ⟨CacheShard.inv_empty capacity, fun _ _ _ _ hslot => by cases hslot⟩
      snapshot, ?_⟩
    intro key addresses expiry hfind
    cases hfind
  | worker hcache hrun ih =>
    have hok := run_invariant Ok (fun _ _ _ h hstep => h.step hstep) (ih _) hrun
    exact ⟨ShardOk.initial ⟨hok.worker.shard, hok.worker.servable⟩ snapshot, hok.latest⟩

theorem ok_of_reached (h : ledger.Reached env) : Ok ledger := by
  obtain ⟨cache, now, latest, snapshot, labels, hcache, hrun⟩ := h
  exact run_invariant Ok (fun _ _ _ h hstep => h.step hstep) (ok_of_history hcache snapshot) hrun

end Ledger

/-! ## The answers -/

/-- The record that a hit gives for an answer of the upstream server. -/
structure Replays (question : Question) (ttl : UInt32) (record original : ResourceRecord) : Prop where
  name : record.name.labels = question.name.labels
  type : record.type = original.type
  recordClass : record.recordClass = original.recordClass
  rdata : record.rdata = original.rdata
  ttl : record.ttl = ttl

theorem RdataOf.inj {type : UInt16} {address : IPAddress} {rdata rdata' : Bytes}
    (h : RdataOf type address rdata) (h' : RdataOf type address rdata') : rdata = rdata' := by
  rcases h with ⟨rfl, -, rfl⟩ | ⟨rfl, -, rfl⟩
  · rcases h' with ⟨-, -, rfl⟩ | ⟨hother, -⟩
    · rfl
    · exact absurd hother (Ne.symm aaaa_ne_a)
  · rcases h' with ⟨hother, -⟩ | ⟨-, -, rfl⟩
    · exact absurd hother aaaa_ne_a
    · rfl

/-- From the answers to the addresses, and from these to the records of the
response. -/
theorem replays_of_answers {asked question : Question} (htype : question.type = asked.type)
    (hclass : question.questionClass = asked.questionClass) {ttl : UInt32}
    {originals records : List ResourceRecord} {addresses : List IPAddress} {rdatas : List Bytes}
    (hanswers : List.Forall₂ (AddressAnswer asked) originals addresses)
    (hrdatas : List.Forall₂ (RdataOf question.type) addresses rdatas)
    (hrecords : List.Forall₂ (AddressRecord question ttl) rdatas records) :
    List.Forall₂ (Replays question ttl) records originals := by
  induction hanswers generalizing rdatas records with
  | nil =>
    cases hrdatas
    cases hrecords
    exact .nil
  | @cons original address originals addresses hanswer hanswers ih =>
    cases hrdatas with
    | @cons _ rdata _ rdatas hrdata hrdatas =>
      cases hrecords with
      | @cons _ record _ records hrecord hrecords =>
        refine .cons ?_ (ih hrdatas hrecords)
        obtain ⟨hname, hrtype, hrclass, hrttl, hrrdata⟩ := hrecord
        have horiginal := rdataOf_addressOf hanswer.address
        rw [hanswer.type, ← htype] at horiginal
        refine ⟨hname, ?_, ?_, ?_, hrttl⟩
        · rw [hrtype, htype, hanswer.type]
        · rw [hrclass, hclass, hanswer.recordClass]
        · rw [hrrdata]
          exact RdataOf.inj hrdata horiginal

/-- What the upstream server sent is cacheable, as the response was. -/
theorem Worker.Origin.cacheable {key : CacheKey} {stored : StoredResponse}
    (h : Worker.Origin key stored) {packet : Bytes} {original : Message}
    (hresponse : stored.response = withTransactionId packet stored.request.header.id)
    (hparse : parseMessage packet System.upstreamLimits = .ok original) :
    Cacheable original stored.question stored.cacheable := by
  obtain ⟨parsed, wire, hparsed, hcacheable, -⟩ := storable_eq_some h.storable_eq
  obtain ⟨-, -, hrewritten⟩ := parseMessage_upstream hparse stored.request.header.id
  rw [hresponse, hrewritten] at hparsed
  obtain rfl := Except.ok.inj hparsed
  exact ⟨hcacheable.isResponse, hcacheable.truncated, hcacheable.responseCode, hcacheable.questions,
    hcacheable.nonempty, hcacheable.authorities, hcacheable.additionals, hcacheable.answers,
    hcacheable.ttl_le, hcacheable.ttl_mem⟩

/-- The response to a query that hits what was stored.  `original` is what the
upstream server sent. -/
structure Replay (stored : StoredResponse) (request : Message) (question : Question)
    (cacheNow : TimePoint) (response : Bytes) (message : Message) : Prop where
  parsed : parseMessage response {} = .ok message
  responseCode : message.header.responseCode = ResponseCode.noError.code
  id : message.header.id = request.header.id
  questions : message.questions = [question]
  authorities : message.authorities = []
  additionals : message.additionals = []
  answers : ∀ packet original, parseMessage packet System.upstreamLimits = .ok original →
    stored.response = withTransactionId packet stored.request.header.id →
    ∃ ttl, List.Forall₂ (Replays question ttl) message.answers original.answers ∧
      ∃ shortest ∈ original.answers, (∀ answer ∈ original.answers, shortest.ttl ≤ answer.ttl) ∧
        (ttl.toNat : Int) =
          ⌈((stored.time + shortest.ttl.toNat * second - cacheNow : Int) : ℚ) / (second : Int)⌉ ∧
        1 ≤ ttl ∧ ttl ≤ shortest.ttl

/-- A hit replays what was stored latest under its key. -/
theorem Ledger.Ok.replay {ledger : Ledger} (h : ledger.Ok) {request : Message} {question : Question}
    (haccepted : Accepted request question) {cacheNow : TimePoint} (hnow : ledger.now ≤ cacheNow)
    {hit : CacheHit} (hget : (ledger.worker.cache.get (keyOf question) cacheNow).1 = some hit) :
    ∃ stored response message, ledger.latest (keyOf question) = some stored ∧
      Worker.Origin (keyOf question) stored ∧
      makeCacheHitResponse request hit downstreamResponseBudget = .ok response ∧ response ≠ [] ∧
      Replay stored request question cacheNow response message := by
  have hservable := (ShardOk.hit ⟨h.worker.shard, h.worker.servable⟩ hget).1
  rw [h.worker.shard.get_fst, Option.bind_eq_some_iff] at hget
  obtain ⟨⟨addresses, expiry⟩, hfind, hhit⟩ := hget
  obtain ⟨hlive, rfl⟩ := enabled hhit
  obtain ⟨stored, hlatest, horigin, rfl, rfl, htime⟩ := h.latest _ _ _ hfind
  obtain ⟨response, message, hwrite, hne, hresponds, hheader, hquestions, hauthorities, hadditionals,
    rdatas, hrdatas, hrecords⟩ := serve haccepted hservable
      (CacheShard.remainingSeconds (stored.time + stored.cacheable.ttl.toNat * second) cacheNow)
  refine ⟨stored, response, message, hlatest, horigin, hwrite, hne, hresponds.parsed, ?_, hresponds.id,
    hquestions, hauthorities, hadditionals, ?_⟩
  · rw [hheader]
    rfl
  intro packet original hparse hresponse
  have hcacheable := horigin.cacheable hresponse hparse
  -- equal keys are equal types and classes
  have hkey := horigin.key_eq
  have htype : question.type = stored.question.type := congrArg CacheKey.qtype hkey
  have hclass : question.questionClass = stored.question.questionClass :=
    congrArg CacheKey.qclass hkey
  obtain ⟨shortest, hshortest, hminimum⟩ := hcacheable.ttl_mem
  have hleft : stored.time + stored.cacheable.ttl.toNat * second ≤
      cacheNow + stored.cacheable.ttl.toNat * second := add_le_add_left (le_trans htime hnow) _
  obtain ⟨hvalue, hone, hmost⟩ := remainingSeconds_toNat hlive hleft
  refine ⟨_, replays_of_answers htype hclass hcacheable.answers hrdatas hrecords, shortest, hshortest,
    ?_, ?_, hone, ?_⟩
  · rw [← hminimum]
    exact hcacheable.ttl_le
  · rw [← hminimum]
    exact hvalue.trans (ceil_second _)
  · rw [← hminimum]
    exact hmost

/-- Nothing is put into a slot but the address set of a response without errors and
without other records, for a query that may use the cache. -/
theorem Worker.CacheOk.stored {env : Environment} {worker next : Worker} (h : worker.CacheOk)
    {label : Worker.Label} (hstep : worker.step env label = some next) {slot : Nat}
    {pair : CacheKey × List IPAddress × TimePoint}
    (hafter : slotPair next.cache.entries slot = some pair)
    (hbefore : slotPair worker.cache.entries slot ≠ some pair) :
    ∃ stored, worker.puts label = some (pair.1, stored) ∧ Worker.Origin pair.1 stored := by
  have heffect := (Worker.step_cache hstep).1
  generalize next.cache = cache at heffect hafter
  cases heffect with
  | kept => exact absurd hafter hbefore
  | looked => exact absurd (h.shard.slot_get hafter) hbefore
  | stored emplaceFails hputs =>
    rcases (h.shard.put_effect _ _ _ _ emplaceFails).1.slot_cases hafter with hold | hnew
    · exact absurd hold hbefore
    · rw [hnew]
      exact ⟨_, hputs, (h.origin hputs).1⟩

/-- Cache fidelity.  In every state of a worker over a shard that workers have used
before, while the clock is steady:

* a query without `AD` and `CD` that hits gets what was stored latest under its
  key, and this is the answer to an earlier query without `AD` and `CD`; whatever
  the coroutine then sends is parsed to a response under its own id, with its own
  question and the answers of the upstream server, in order, under its own name,
  with the time that is left;
* nothing is stored but the addresses of a whole and positive answer to the
  question;
* a query with `AD` or `CD` set neither reads nor writes the shard. -/
theorem cache_fidelity (env : Environment) {ledger : Ledger} (h : ledger.Reached env) :
    (∀ task frame request question cacheNow writeFails armFails sent hit next,
      ledger.worker.frames task = some frame → frame.datagram.Accepts request →
      request.questions = [question] → request.header.authenticatedData = false →
      request.header.checkingDisabled = false → ledger.now ≤ cacheNow →
      ledger.worker.upstream.scheduler.stopRequested = false →
      ledger.worker.matchesFilter env question.name = false →
      (ledger.worker.cache.get (keyOf question) cacheNow).1 = some hit →
      ledger.worker.step env (.process task cacheNow writeFails armFails sent) = some next →
      ∃ stored response message, ledger.latest (keyOf question) = some stored ∧
        stored.datagram.Accepts stored.request ∧
        stored.request.header.authenticatedData = false ∧
        stored.request.header.checkingDisabled = false ∧
        (∃ packet original, parseMessage packet System.upstreamLimits = .ok original ∧
          validateUpstreamResponse original original.header.id stored.request.header.opcode
            stored.question = .ok () ∧
          stored.response = withTransactionId packet stored.request.header.id) ∧
        next.frames task = some { frame with stage := .responding response } ∧
        (∀ labels final, run (Worker.step env) next labels = some final →
          ∀ entry ∈ final.sent, entry.task = task → entry.response = response) ∧
        Replay stored request question cacheNow response message) ∧
    (∀ label next slot pair, ledger.worker.step env label = some next →
      slotPair next.cache.entries slot = some pair →
      slotPair ledger.worker.cache.entries slot ≠ some pair →
      ∃ stored packet original, ledger.worker.puts label = some (pair.1, stored) ∧
        stored.datagram.Accepts stored.request ∧
        stored.request.header.authenticatedData = false ∧
        stored.request.header.checkingDisabled = false ∧
        parseMessage packet System.upstreamLimits = .ok original ∧
        stored.response = withTransactionId packet stored.request.header.id ∧
        original.header.responseCode = ResponseCode.noError.code ∧
        original.header.truncated = false ∧ original.authorities = [] ∧ original.additionals = [] ∧
        ∀ answer ∈ original.answers, answer.ttl ≠ 0 ∧
          answer.name.sameName stored.question.name = true ∧ answer.type = stored.question.type ∧
          answer.recordClass = stored.question.questionClass) ∧
    (∀ label task frame request next, ledger.worker.step env label = some next →
      label.actor = some task → ledger.worker.frames task = some frame →
      frame.datagram.Accepts request →
      request.header.authenticatedData = true ∨ request.header.checkingDisabled = true →
      next.cache = ledger.worker.cache ∧
      ∀ cache, { ledger.worker with cache := cache }.step env label =
        some { next with cache := cache }) := by
  have hok := Ledger.ok_of_reached h
  refine ⟨?_, ?_, ?_⟩
  · intro task frame request question cacheNow writeFails armFails sent hit next hframe haccepts
      hquestions hauthenticated hchecking hnow hstop hpassed hget hstep
    have haccepted := Worker.accepted_of_accepts haccepts hquestions
    obtain ⟨stored, response, message, hlatest, horigin, hwrite, hne, hreplay⟩ :=
      hok.replay haccepted hnow hget
    have hcapacity := (ShardOk.hit ⟨hok.worker.shard, hok.worker.servable⟩ hget).2
    have hnext : next.frames task = some { frame with stage := .responding response } := by
      cases Worker.step_eq_some.mp hstep with
      | process _ _ _ _ hrunning =>
        obtain rfl := Option.some.inj (hframe.symm.trans (Worker.running_eq_some hrunning).2)
        exact Worker.processDatagram_hit env haccepts hquestions hstop hpassed hcapacity
          ⟨hauthenticated, hchecking⟩ hget hwrite hne task writeFails armFails sent
    have hinv := Worker.inv_step env _ hok.worker.inv hstep
    exact ⟨stored, response, message, hlatest, horigin.accepts, horigin.cachable.1,
      horigin.cachable.2,
      horigin.answered, hnext, fun labels final hrun =>
        Worker.sent_of_responding hinv hnext rfl hrun,
      hreplay⟩
  · intro label next slot pair hstep hafter hbefore
    obtain ⟨stored, hputs, horigin⟩ := hok.worker.stored hstep hafter hbefore
    obtain ⟨packet, original, hparse, -, hresponse⟩ := horigin.answered
    have hcacheable := horigin.cacheable hresponse hparse
    refine ⟨stored, packet, original, hputs, horigin.accepts, horigin.cachable.1,
      horigin.cachable.2,
      hparse, hresponse, hcacheable.responseCode, hcacheable.truncated, hcacheable.authorities,
      hcacheable.additionals, ?_⟩
    intro answer hanswer
    obtain ⟨address, haddress⟩ := hcacheable.of_mem hanswer
    exact ⟨haddress.ttl, haddress.name, haddress.type, haddress.recordClass⟩
  · intro label task frame request next hstep hactor hframe haccepts hbits
    have hbypass : ¬ Cachable request := by
      rintro ⟨hauthenticated, hchecking⟩
      simp [hauthenticated, hchecking] at hbits
    exact ⟨Worker.cache_of_bypass hok.worker hstep hactor hframe haccepts hbypass,
      Worker.step_bypass hok.worker hstep hactor hframe haccepts hbypass⟩

/-! ## A hit, as an example -/

/-- The answer is stored and sent, and the second query is received. -/
def sampleHistory : List Worker.Label :=
  Worker.sampleStored ++ [.respond 0 (.sent 35), .receive 1 Worker.sampleSecond, .upstream .resume]

def sampleSecondQuestion : Question :=
  Worker.sampleSecondRequest.questions.head (by decide)

theorem second_query_replayed :
    ∃ (ledger : Ledger) (stored : StoredResponse) (response : Bytes) (message : Message)
        (next : Worker), ledger.Reached Worker.sampleEnvironment ∧
      ledger.latest (keyOf sampleSecondQuestion) = some stored ∧
      stored.datagram = Worker.sampleLookup ∧
      ledger.worker.step Worker.sampleEnvironment (.process 1 (7 * second) false false (.sent 35)) =
        some next ∧
      Replay stored Worker.sampleSecondRequest sampleSecondQuestion (7 * second) response message := by
  have hstate : ((run (Ledger.step Worker.sampleEnvironment)
      ⟨Worker.sampleStarted { capacity := 8 }, 0, fun _ => none⟩ sampleHistory).map fun ledger =>
        (ledger.now, (ledger.worker.frames 1).map Frame.datagram,
          (ledger.worker.cache.get (keyOf sampleSecondQuestion) (7 * second)).1,
          (ledger.latest (keyOf sampleSecondQuestion)).map StoredResponse.datagram,
          !ledger.worker.upstream.scheduler.stopRequested &&
            !ledger.worker.matchesFilter Worker.sampleEnvironment sampleSecondQuestion.name &&
            (ledger.worker.step Worker.sampleEnvironment
              (.process 1 (7 * second) false false (.sent 35))).isSome)) =
      some (6, some Worker.sampleSecond, some ⟨[.v4 #v[10, 0, 0, 1]], 54⟩, some Worker.sampleLookup,
        true) := by
    decide +kernel
  obtain ⟨ledger, hrun, hfacts⟩ := Option.map_eq_some_iff.mp hstate
  simp only [Prod.mk.injEq, Bool.and_eq_true, Bool.not_eq_true'] at hfacts
  obtain ⟨hnow, hframe, hget, hlatest, ⟨hstop, hpassed⟩, hstep⟩ := hfacts
  obtain ⟨frame, hframe, hdatagram⟩ := Option.map_eq_some_iff.mp hframe
  obtain ⟨next, hstep⟩ := Option.isSome_iff_exists.mp hstep
  have hreached : ledger.Reached Worker.sampleEnvironment := by
    refine ⟨_, 0, _, none, .upstream (.start 3 System.sampleConfig true false) :: sampleHistory,
      .fresh 8 0, run_cons.mpr ⟨_, ?_, hrun⟩⟩
    unfold Ledger.step
    rw [if_pos (by decide)]
    exact congrArg (Option.map _) (Worker.step_sampleStarted { capacity := 8 })
  have haccepts : frame.datagram.Accepts Worker.sampleSecondRequest := by
    rw [hdatagram]
    rfl
  obtain ⟨stored, response, message, hsame, -, -, -, -, -, -, hreplay⟩ :=
    (cache_fidelity Worker.sampleEnvironment hreached).1 1 frame Worker.sampleSecondRequest
      sampleSecondQuestion (7 * second) false false (.sent 35) _ next hframe haccepts rfl rfl rfl
      (by rw [hnow]; decide) hstop hpassed hget hstep
  rw [hsame] at hlatest
  exact ⟨ledger, stored, response, message, next, hreached, hsame, Option.some.inj hlatest, hstep,
    hreplay⟩

end DnsPro.Server
