import DnsPro.Upstream.Completion

/-!
# Which datagrams complete a query

`handle_datagram` against every reachable state of the channel and every list of
bytes: it completes the query that the datagram answers, or it only counts the
datagram.
-/

namespace DnsPro.Upstream

open DnsPro.Protocol DnsPro.Runtime

namespace System

variable {env : Environment} {system : System} {query : QueryId} {packet : Bytes}
  {truncated : Bool}

/-- The whole datagram was received, its id is one that a pending query waits
for, and it is a response to the question of this query. -/
structure Matches (system : System) (packet : Bytes) (truncated : Bool) (query : QueryId) :
    Prop where
  whole : truncated = false
  size_le : packet.length ≤ upstreamReceiveBufferSize
  id : ∃ id, transactionId packet = some id ∧ system.channel.slots id = some query ∧
    (system.queries query).state = .pending
  message : ∃ message question, parseMessage packet upstreamLimits = .ok message ∧
    message.header.isResponse = true ∧ message.header.reservedZ = false ∧
    message.header.opcode = (system.queries query).header.opcode ∧
    message.questions = [question] ∧ question.same (system.queries query).question = true

theorem Matches.answers (h : Matches system packet truncated query) :
    ∃ id, Answers system query id packet := by
  obtain ⟨id, hid, hslot, -⟩ := h.id
  obtain ⟨message, question, hparse, hresponse, hz, hopcode, hquestions, hsame⟩ := h.message
  refine ⟨id, hid, hslot, message, hparse, ?_⟩
  rw [transactionId_of_parse hparse] at hid
  exact validateUpstreamResponse_ok_iff.mpr
    ⟨hresponse, Option.some.inj hid, hopcode, hz, question, hquestions, hsame⟩

theorem Answers.matches {id : UInt16} (h : Answers system query id packet) (hinv : Inv none system)
    (hwhole : truncated = false) (hsize : packet.length ≤ upstreamReceiveBufferSize) :
    Matches system packet truncated query := by
  obtain ⟨message, hparse, hvalid⟩ := h.accepted
  obtain ⟨hresponse, -, hopcode, hz, question, hquestions, hsame⟩ :=
    validateUpstreamResponse_ok_iff.mp hvalid
  exact ⟨hwhole, hsize, ⟨id, h.id_eq, h.slot, (hinv.slot id query h.slot).1⟩,
    message, question, hparse, hresponse, hz, hopcode, hquestions, hsame⟩

/-- What `handle_datagram` does when memory suffices. -/
inductive Handled (env : Environment) (system : System) (packet : Bytes) (truncated : Bool) :
    PacketResult × System → Prop where
  | stopped (hstopped : system.channel.running = false) :
      Handled env system packet truncated (.invariantFailure, system)
  | invalid : Handled env system packet truncated (.invalid, system.countInvalid)
  | unmatched : Handled env system packet truncated (.unmatched, system.countUnmatched)
  | completed (query : QueryId) (timers : TimerQueue Timer) (retired : List RetiredId)
      (hmatches : Matches system packet truncated query) :
      Handled env system packet truncated (.completed, finished env system query
        ⟨.response, withTransactionId packet (system.queries query).header.id, 0⟩ timers retired)

theorem Inv.handled (env : Environment) (h : Inv none system) (packet : Bytes) (truncated : Bool) :
    Handled env system packet truncated
      (system.handleDatagram env packet truncated false) := by
  unfold System.handleDatagram
  split
  · rename_i hstopped
    exact .stopped hstopped
  split
  · exact .invalid
  rename_i hwhole
  split
  · exact .unmatched
  rename_i id hid
  split
  · exact .unmatched
  split
  · exact .unmatched
  rename_i query hslot
  rw [if_neg (by simp)]
  unfold completeWith
  dsimp only
  split
  · exact .invalid
  rename_i message hparse
  split
  · exact .invalid
  rename_i hvalid
  have hpending := (h.slot id query hslot).1
  have hanswers : Answers system query id packet := ⟨hid, hslot, message, hparse, hvalid⟩
  obtain ⟨timers, retired, hfinish, -, -, -⟩ := h.finish env hpending (by simp) (.inl rfl)
    (withTransactionId packet (system.queries query).header.id) 0
  rw [(parsed_of_parseMessage hparse).wireImage_eq, rewriteTransactionId_eq hid]
  dsimp only
  rw [hfinish]
  refine .completed query timers retired (hanswers.matches h ?_ ?_)
  · simpa using fun htruncated => hwhole (.inl htruncated)
  · exact Nat.le_of_not_lt fun hsize => hwhole (.inr hsize)

/-- A datagram that matches a pending query completes one. -/
theorem Matches.completed (h : Matches system packet truncated query) (hinv : Inv none system) :
    (system.handleDatagram env packet truncated false).1 = .completed := by
  obtain ⟨id, hid, hslot, hpending⟩ := h.id
  obtain ⟨message, hparse, hvalid⟩ : ∃ message, parseMessage packet upstreamLimits = .ok message ∧
      validateUpstreamResponse message id (system.queries query).header.opcode
        (system.queries query).question = .ok () := by
    obtain ⟨id', hanswers⟩ := h.answers
    obtain rfl := Option.some.inj (hid.symm.trans hanswers.id_eq)
    exact hanswers.accepted
  have hquery := hinv.pending query hpending
  have hcapacity : ¬ system.channel.config.transactionIdCapacity ≤ id.toNat := by
    have hids := hinv.ids (hinv.running hquery.running).1
    exact UpstreamChannel.capacity_of_pending hids.pool
      ((hids.pending_iff id).mpr (by simp [hslot]))
  obtain ⟨timers, retired, hfinish, -, -, -⟩ := hinv.finish env hpending (by simp) (.inl rfl)
    (withTransactionId packet (system.queries query).header.id) 0
  unfold System.handleDatagram
  rw [if_neg (by simp [hquery.running]), if_neg (by simp [h.whole, h.size_le]), hid]
  dsimp only
  rw [if_neg hcapacity, hslot]
  dsimp only
  rw [if_neg (by simp)]
  unfold completeWith
  rw [hparse]
  dsimp only
  rw [hvalid]
  dsimp only
  rw [(parsed_of_parseMessage hparse).wireImage_eq, rewriteTransactionId_eq hid]
  dsimp only
  rw [hfinish]
  rfl

/-- Response matching and frame.  In every run, while memory suffices: a
datagram is answered with `Completed` exactly when it matches a pending query;
then this query is completed with the bytes of the datagram, except that the
first two are the id of the client, and no other query changes.  A datagram
that is invalid or unmatched only increments its counter. -/
theorem completed_iff_matches (env : Environment) {labels : List Label} {system : System}
    (hrun : run env labels = some system) (packet : Bytes) (truncated : Bool) :
    ((system.handleDatagram env packet truncated false).1 = .completed ↔
      ∃ query, Matches system packet truncated query) ∧
    (∀ next, system.handleDatagram env packet truncated false = (.completed, next) →
      ∃ query response, Matches system packet truncated query ∧
        transactionId response = some (system.queries query).header.id ∧
        response.drop 2 = packet.drop 2 ∧
        next.queries = Function.update system.queries query { system.queries query with
          owner := false, task := none, state := .completed, result := ⟨.response, response, 0⟩ } ∧
        next.channel.slots =
          Function.update system.channel.slots (system.queries query).transactionId none ∧
        next.scheduler.ready = system.scheduler.ready ++ [(system.queries query).frame] ∧
        next.log = system.log ++
          [.scheduled query (system.queries query).transactionId (system.now env) .response]) ∧
    (∀ next, system.handleDatagram env packet truncated false = (.invalid, next) →
      next = system.countInvalid) ∧
    ∀ next, system.handleDatagram env packet truncated false = (.unmatched, next) →
      next = system.countUnmatched := by
  have h := inv_run env hrun
  have hhandled := h.handled env packet truncated
  refine ⟨⟨fun hresult => ?_, fun ⟨query, hmatches⟩ => hmatches.completed h⟩, ?_, ?_, ?_⟩
  · generalize system.handleDatagram env packet truncated false = outcome at hhandled hresult
    cases hhandled with
    | completed query timers retired hmatches => exact ⟨query, hmatches⟩
    | stopped | invalid | unmatched => cases hresult
  · intro next hnext
    rw [hnext] at hhandled
    cases hhandled with
    | completed query timers retired hmatches =>
      exact ⟨query, _, hmatches, transactionId_withTransactionId _ _, drop_withTransactionId _ _,
        rfl, rfl, rfl, rfl⟩
  · intro next hnext
    rw [hnext] at hhandled
    cases hhandled
    rfl
  · intro next hnext
    rw [hnext] at hhandled
    cases hhandled
    rfl

theorem sampleReply_matches : ∃ system query,
    run sampleEnvironment (sampleStart ++ sampleAnswered.take 2) = some system ∧
    Matches system sampleReply false query := by
  obtain ⟨system, hrun, hcompleted⟩ : ∃ system,
      run sampleEnvironment (sampleStart ++ sampleAnswered.take 2) = some system ∧
      (system.handleDatagram sampleEnvironment sampleReply false false).1 = .completed :=
    ⟨_, Transition.run_append.mpr ⟨_, run_sampleStart, rfl⟩, by decide⟩
  obtain ⟨query, hmatches⟩ :=
    (completed_iff_matches sampleEnvironment hrun sampleReply false).1.mp hcompleted
  exact ⟨system, query, hrun, hmatches⟩

end System

end DnsPro.Upstream
