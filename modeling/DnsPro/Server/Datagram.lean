import DnsPro.Cache.Policy
import DnsPro.Protocol.Responses

/-!
# What a worker makes of a datagram

The functions of `WorkerLoop.cpp` that need nothing of the worker's state.
-/

namespace DnsPro.Server

open DnsPro.Cache DnsPro.Protocol

inductive DatagramOutcome where
  | dropped
  | truncated
  | malformed
  | unsupported
  | accepted
  | internalError
  deriving DecidableEq, Repr

structure DatagramDecision where
  outcome : DatagramOutcome
  response : Bytes := []
  request : Option Message := none
  deriving DecidableEq

/-- `response ? std::move(*response) : std::vector<std::byte>{}`. -/
def valueOrEmpty : Except WriteError Bytes → Bytes
  | .ok response => response
  | .error _ => []

/-- The third byte is there, and its response bit is not set. -/
def isQueryPrefix : Bytes → Bool
  | _ :: _ :: flags :: _ => decide (flags &&& 0x80 = 0)
  | _ => false

/-- `WorkerLoop::evaluate_datagram`. -/
def evaluateDatagram (packet : Bytes) (truncated : Bool) : DatagramDecision :=
  if truncated ∨ downstreamReceiveBufferSize < packet.length then
    if isQueryPrefix packet = false then { outcome := .dropped }
    else
      { outcome := .truncated
        response := valueOrEmpty
          (makeHeaderOnlyErrorResponse packet .formErr true downstreamResponseBudget) }
  else
    match parseMessage packet {} with
    | .error _ =>
      { outcome := .malformed
        response := valueOrEmpty (makeFormatErrorResponse packet true downstreamResponseBudget) }
    | .ok parsed =>
      match validateMvpQuery parsed with
      | .error .notAQuery => { outcome := .dropped }
      | .error code =>
        match makeErrorResponse parsed (responseCodeFor code) true downstreamResponseBudget with
        | .error _ => { outcome := .internalError }
        | .ok response => { outcome := .unsupported, response := response }
      | .ok _ => { outcome := .accepted, request := some parsed }

/-- The loop of `make_cache_hit_response`: the bytes of each address, if its
family is the one of the type. -/
def addressAnswers (type : UInt16) : List IPAddress → Except WriteError (List Bytes)
  | [] => .ok []
  | address :: addresses =>
    if type = RecordType.a.code ∧ address.isV4 then do
      let answers ← addressAnswers type addresses
      return address.bytes.toList.take 4 :: answers
    else if type = RecordType.aaaa.code ∧ address.isV6 then do
      let answers ← addressAnswers type addresses
      return address.bytes.toList :: answers
    else .error ⟨.invalidAddressLength⟩

/-- `make_cache_hit_response`. -/
def makeCacheHitResponse (request : Message) (hit : CacheHit) (maximumSize : Nat) :
    Except WriteError Bytes :=
  match request.questions with
  | [question] => do
    let answers ← addressAnswers question.type hit.addresses
    makeAddressResponse request answers hit.remainingTtl true maximumSize
  | _ => .error ⟨.wrongQuestionCount⟩

/-! ## Accepted datagrams -/

/-- An accepted datagram is a query of a client. -/
theorem accepted_of_evaluateDatagram {packet : Bytes} {truncated : Bool}
    (h : (evaluateDatagram packet truncated).outcome = .accepted) :
    ∃ request question, evaluateDatagram packet truncated =
        { outcome := .accepted, request := some request } ∧ Accepted request question := by
  unfold evaluateDatagram at h ⊢
  split at h
  · split at h <;> cases h
  rename_i hsize
  rw [if_neg hsize]
  split at h
  · cases h
  rename_i parsed hparse
  split at h
  · cases h
  · split at h <;> cases h
  · rename_i question hvalid
    exact ⟨parsed, question, rfl, accepted_of_parse hparse hvalid⟩

/-- A response from the cache answers the question of the request. -/
theorem cacheHit_respondsTo {request : Message} {question : Question}
    (h : Accepted request question) {hit : CacheHit} {response : Bytes}
    (hresponse : makeCacheHitResponse request hit downstreamResponseBudget = .ok response) :
    ∃ message, response ≠ [] ∧ RespondsTo request response message := by
  rw [makeCacheHitResponse, h.questions] at hresponse
  obtain ⟨answers, -, hwrite⟩ := Result.bind_eq_ok.mp hresponse
  exact h.addresses hwrite

end DnsPro.Server
