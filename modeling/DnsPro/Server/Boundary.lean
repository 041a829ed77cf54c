import DnsPro.Protocol.Query
import DnsPro.Server.Datagram

/-!
# The boundary of the service

What `evaluate_datagram` does with an arbitrary datagram.  Every error response,
whichever writer makes it, has the header that `responseHeader` derives from the
first four bytes of the datagram (`datagramHeader`), so the three writers have one
specification.
-/

namespace DnsPro.Server

open DnsPro.Protocol

/-! ## The header bytes of a datagram -/

/-- The header fields in the first four bytes; a byte that is not there is zero. -/
def datagramHeader (packet : Bytes) : Header :=
  decodeFlags (be16 (packet.getD 0 0) (packet.getD 1 0)) (be16 (packet.getD 2 0) (packet.getD 3 0))

theorem testBit_be16 (high low : UInt8) (index : Nat) :
    (be16 high low).toNat.testBit index =
      if index < 8 then low.toNat.testBit index else high.toNat.testBit (index - 8) := by
  rw [be16_toNat, Nat.mul_comm, show 256 = 2 ^ 8 from rfl]
  exact Nat.testBit_two_pow_mul_add _ low.toNat_lt _

theorem isResponse_decodeFlags (id : UInt16) (high low : UInt8) :
    (decodeFlags id (be16 high low)).isResponse = decide (high &&& 0x80 ≠ 0) := by
  rw [byte_and_mask_ne_zero high 7 rfl]
  show decide (be16 high low &&& 0x8000 ≠ 0) = _
  rw [and_mask_ne_zero _ 15 rfl, testBit_be16]
  rfl

theorem recursionDesired_decodeFlags (id : UInt16) (high low : UInt8) :
    (decodeFlags id (be16 high low)).recursionDesired = decide (high &&& 0x01 ≠ 0) := by
  rw [byte_and_mask_ne_zero high 0 rfl]
  show decide (be16 high low &&& 0x0100 ≠ 0) = _
  rw [and_mask_ne_zero _ 8 rfl, testBit_be16]
  rfl

theorem checkingDisabled_decodeFlags (id : UInt16) (high low : UInt8) :
    (decodeFlags id (be16 high low)).checkingDisabled = decide (low &&& 0x10 ≠ 0) := by
  rw [byte_and_mask_ne_zero low 4 rfl]
  show decide (be16 high low &&& 0x0010 ≠ 0) = _
  rw [and_mask_ne_zero _ 4 rfl, testBit_be16]
  rfl

theorem opcode_decodeFlags (id : UInt16) (high low : UInt8) :
    (decodeFlags id (be16 high low)).opcode = (high >>> 3) &&& 0x0f := by
  rw [← UInt8.toNat_inj]
  apply Nat.eq_of_testBit_eq
  intro index
  show ((be16 high low >>> 11) &&& 0x0f).toUInt8.toNat.testBit index = _
  rw [testBit_nibble _ 11 index (by decide), testBit_be16, show (11 : UInt16).toNat = 11 from rfl,
    if_neg (by omega), show 11 + index - 8 = 3 + index by omega, UInt8.toNat_and,
    UInt8.toNat_shiftRight, show (3 : UInt8).toNat % 8 = 3 from rfl,
    show (15 : UInt8).toNat = 2 ^ 4 - 1 from rfl, Nat.testBit_and, Nat.testBit_two_pow_sub_one,
    Nat.testBit_shiftRight, Bool.and_comm]

/-- The header of a parsed message is in the first four bytes. -/
theorem datagramHeader_of_parse {packet : Bytes} {limits : ParseLimits} {message : Message}
    (h : parseMessage packet limits = .ok message) : message.header = datagramHeader packet := by
  obtain ⟨words, questionsEnd, answersEnd, authoritiesEnd, recordsEnd, hwords, hheader, -⟩ :=
    (parseMessage_iff.mp h).sections
  have hpacket := hwords.1
  rw [List.drop_zero] at hpacket
  rw [hheader, datagramHeader, hpacket]
  show _ = decodeFlags (be16 (words.id >>> 8).toUInt8 words.id.toUInt8)
    (be16 (words.flags >>> 8).toUInt8 words.flags.toUInt8)
  rw [be16_bytes, be16_bytes]

/-! ## Error responses -/

/-- `write_question_message` of a response header that comes from a datagram
fails for its size only. -/
theorem writeResponse_eq (packet : Bytes) (code : ResponseCode) (questions : List Question)
    (hcount : questions.length ≤ 65535) :
    ∃ flags, encodeFlags (responseHeader (datagramHeader packet) code true) = .ok flags ∧
      writeQuestionMessage (responseHeader (datagramHeader packet) code true) questions
          downstreamResponseBudget =
        if (questionMessageWire (datagramHeader packet).id flags questions).length ≤
            downstreamResponseBudget then
          .ok (questionMessageWire (datagramHeader packet).id flags questions)
        else .error ⟨.messageTooLarge⟩ := by
  have hopcode : ¬ (responseHeader (datagramHeader packet) code true).opcode > 0x0f :=
    nibble_le _ 11
  have hcode : ¬ (responseHeader (datagramHeader packet) code true).responseCode > 0x0f := by
    show ¬ code.code > 0x0f
    cases code <;> decide
  obtain ⟨flags, hflags⟩ : ∃ flags,
      encodeFlags (responseHeader (datagramHeader packet) code true) = .ok flags := by
    rw [encodeFlags, if_neg hopcode, if_neg hcode]
    exact ⟨_, rfl⟩
  exact ⟨flags, hflags, writeQuestionMessage_eq (by decide) hcount hflags⟩

/-- What the sender of a datagram may get back. -/
structure BoundaryResponse (packet response : Bytes) (message : Message) : Prop where
  size_ge : dnsHeaderSize ≤ response.length
  size_le : response.length ≤ downstreamResponseBudget
  parsed : parseMessage response {} = .ok message
  isResponse : message.header.isResponse = true
  authenticatedData : message.header.authenticatedData = false
  answers : message.answers = []
  authorities : message.authorities = []
  additionals : message.additionals = []
  id : transactionId packet = some message.header.id
  opcode : message.header.opcode = (datagramHeader packet).opcode
  recursionDesired : message.header.recursionDesired = (datagramHeader packet).recursionDesired
  checkingDisabled : message.header.checkingDisabled = (datagramHeader packet).checkingDisabled

theorem transactionId_eq_datagramHeader {packet : Bytes} (h : 2 ≤ packet.length) :
    transactionId packet = some (datagramHeader packet).id := by
  match packet, h with
  | _ :: _ :: _, _ => rfl

/-- A response that was written is one that the sender may get back, with the
questions that were written. -/
theorem boundaryResponse_of_write {packet : Bytes} (hlength : 2 ≤ packet.length)
    {code : ResponseCode} {questions : List Question} (hcount : questions.length ≤ 16)
    (hkeys : ∀ question ∈ questions,
      question.name.canonicalKey = canonicalKeyOf question.name.labels) {response : Bytes}
    (hwrite : writeQuestionMessage (responseHeader (datagramHeader packet) code true) questions
      downstreamResponseBudget = .ok response) :
    ∃ message, BoundaryResponse packet response message ∧ message.questions = questions := by
  obtain ⟨flags, hflags, heq⟩ := writeResponse_eq packet code questions (hcount.trans (by decide))
  rw [heq] at hwrite
  split at hwrite
  · rename_i hsize
    obtain rfl := Except.ok.inj hwrite
    have hparse := parseMessage_questionMessage {} hflags (hcount.trans (by decide)) hcount hkeys
      (hsize.trans (by decide))
    refine ⟨_, ⟨?_, hsize, hparse, rfl, rfl, rfl, rfl, rfl, transactionId_eq_datagramHeader hlength,
      rfl, rfl, rfl⟩, rfl⟩
    rw [questionMessageWire, List.length_append, headerWire_length]
    omega
  · cases hwrite

/-- The header-only writer writes the header that belongs to the datagram. -/
theorem makeHeaderOnlyErrorResponse_eq {packet : Bytes} (hlength : 2 ≤ packet.length)
    (hquery : (datagramHeader packet).isResponse = false) (code : ResponseCode)
    (recursionAvailable : Bool) (maximumSize : Nat) :
    makeHeaderOnlyErrorResponse packet code recursionAvailable maximumSize =
      writeQuestionMessage (responseHeader (datagramHeader packet) code recursionAvailable) []
        maximumSize := by
  match packet, hlength, hquery with
  | [high, low], _, _ =>
    show _ = writeQuestionMessage (responseHeader (decodeFlags (be16 high low) (be16 0 0)) code
      recursionAvailable) [] maximumSize
    rw [responseHeader, opcode_decodeFlags, recursionDesired_decodeFlags,
      checkingDisabled_decodeFlags]
    rfl
  | [high, low, flags], _, hquery =>
    change (decodeFlags (be16 high low) (be16 flags 0)).isResponse = false at hquery
    rw [isResponse_decodeFlags] at hquery
    rw [makeHeaderOnlyErrorResponse]
    dsimp only
    rw [if_neg (by simpa using hquery)]
    show _ = writeQuestionMessage (responseHeader (decodeFlags (be16 high low) (be16 flags 0)) code
      recursionAvailable) [] maximumSize
    rw [responseHeader, opcode_decodeFlags, recursionDesired_decodeFlags,
      checkingDisabled_decodeFlags]
    rfl
  | high :: low :: flags :: lowFlags :: rest, _, hquery =>
    change (decodeFlags (be16 high low) (be16 flags lowFlags)).isResponse = false at hquery
    rw [isResponse_decodeFlags] at hquery
    rw [makeHeaderOnlyErrorResponse]
    dsimp only
    rw [if_neg (by simpa using hquery)]
    show _ = writeQuestionMessage
      (responseHeader (decodeFlags (be16 high low) (be16 flags lowFlags))
      code recursionAvailable) [] maximumSize
    rw [responseHeader, opcode_decodeFlags, recursionDesired_decodeFlags,
      checkingDisabled_decodeFlags]
    rfl

/-- The header-only writer answers neither a fragment of an id nor a response. -/
theorem makeHeaderOnlyErrorResponse_silent {packet : Bytes}
    (h : packet.length < 2 ∨ (datagramHeader packet).isResponse = true) (code : ResponseCode)
    (recursionAvailable : Bool) (maximumSize : Nat) :
    valueOrEmpty (makeHeaderOnlyErrorResponse packet code recursionAvailable maximumSize) = [] := by
  match packet, h with
  | [], _ => rfl
  | [_], _ => rfl
  | [high, low], h =>
    rcases h with h | h
    · simp at h
    · change (decodeFlags (be16 high low) (be16 0 0)).isResponse = true at h
      rw [isResponse_decodeFlags] at h
      cases h
  | high :: low :: flags :: rest, h =>
    have hresponse : (decodeFlags (be16 high low) (be16 flags (rest.getD 0 0))).isResponse = true := by
      rcases h with h | h
      · simp at h
      · exact h
    rw [isResponse_decodeFlags] at hresponse
    rw [makeHeaderOnlyErrorResponse]
    dsimp only
    rw [if_pos (by simpa using hresponse)]
    rfl

/-- The bytes of an error response that echoes the questions. -/
def echoSize (questions : List Question) : Nat :=
  dnsHeaderSize + (questions.map fun question => question.name.wireSize + 4).sum

theorem questionMessageWire_length (id flags : UInt16) (questions : List Question) :
    (questionMessageWire id flags questions).length = echoSize questions := by
  rw [questionMessageWire, List.length_append, headerWire_length, List.length_flatMap, echoSize]
  simp only [questionWire_length]

/-- A parsed message has an id, and at most sixteen questions. -/
theorem bounds_of_parse {packet : Bytes} {request : Message}
    (hparse : parseMessage packet {} = .ok request) :
    2 ≤ packet.length ∧ request.questions.length ≤ 16 := by
  obtain ⟨words, questionsEnd, answersEnd, authoritiesEnd, recordsEnd, hwords, -, hcounts,
    hquestionCount, -⟩ := (parseMessage_iff.mp hparse).sections
  have hlength := hwords.le_length (Nat.zero_le _)
  have hquestions : words.questionCount.toNat ≤ 16 := hcounts.questions
  simp only [dnsHeaderSize] at hlength
  omega

/-- `make_error_response` always succeeds for a parsed query: it echoes the
questions, or leaves them out when they do not fit. -/
theorem makeErrorResponse_spec {packet : Bytes} {request : Message}
    (hparse : parseMessage packet {} = .ok request) (hquery : request.header.isResponse = false)
    (code : ResponseCode) :
    ∃ response questions,
      makeErrorResponse request code true downstreamResponseBudget = .ok response ∧
      writeQuestionMessage (responseHeader (datagramHeader packet) code true) questions
        downstreamResponseBudget = .ok response ∧
      (questions = request.questions ∨
        questions = [] ∧ downstreamResponseBudget < echoSize request.questions) := by
  have hcount : request.questions.length ≤ 65535 := (bounds_of_parse hparse).2.trans (by decide)
  obtain ⟨flags, -, hecho⟩ := writeResponse_eq packet code request.questions hcount
  obtain ⟨flags', -, hbare⟩ := writeResponse_eq packet code [] (Nat.zero_le _)
  rw [questionMessageWire_length] at hecho hbare
  rw [if_pos (by decide)] at hbare
  rw [makeErrorResponse, if_neg (by simp [hquery]), datagramHeader_of_parse hparse]
  dsimp only
  by_cases hfits : echoSize request.questions ≤ downstreamResponseBudget
  · rw [if_pos hfits] at hecho
    rw [hecho]
    exact ⟨_, request.questions, rfl, hecho, Or.inl rfl⟩
  · rw [if_neg hfits] at hecho
    rw [hecho, hbare]
    exact ⟨_, [], rfl, hbare, Or.inr ⟨rfl, by omega⟩⟩

/-! ## Datagrams -/

/-- The datagram was cut, or it is too large, or it is not a message. -/
def Unparsed (packet : Bytes) (truncated : Bool) : Prop :=
  truncated = true ∨ downstreamReceiveBufferSize < packet.length ∨
    ∃ error, parseMessage packet {} = .error error

/-- What the response to a datagram is, when there is one. -/
structure Evaluated (packet : Bytes) (truncated : Bool) (response : Bytes) (message : Message) :
    Prop where
  length_ge : 2 ≤ packet.length
  query : (datagramHeader packet).isResponse = false
  boundary : BoundaryResponse packet response message
  questions : Unparsed packet truncated ∧ message.questions = [] ∨
    ∃ request, parseMessage packet {} = .ok request ∧ (message.questions = request.questions ∨
      message.questions = [] ∧ downstreamResponseBudget < echoSize request.questions)

/-- The header-only writer, for a datagram that was not parsed. -/
theorem evaluated_of_headerOnly {packet : Bytes} {truncated : Bool}
    (hunparsed : Unparsed packet truncated)
    (hresponse : valueOrEmpty
      (makeHeaderOnlyErrorResponse packet .formErr true downstreamResponseBudget) ≠ []) :
    ∃ message, Evaluated packet truncated (valueOrEmpty
      (makeHeaderOnlyErrorResponse packet .formErr true downstreamResponseBudget)) message := by
  by_cases hsilent : packet.length < 2 ∨ (datagramHeader packet).isResponse = true
  · exact absurd (makeHeaderOnlyErrorResponse_silent hsilent _ _ _) hresponse
  · rw [not_or, Bool.not_eq_true] at hsilent
    obtain ⟨hlength, hquery⟩ := hsilent
    have heq := makeHeaderOnlyErrorResponse_eq (by omega) hquery .formErr true
      downstreamResponseBudget
    rw [heq] at hresponse ⊢
    cases hwrite : writeQuestionMessage (responseHeader (datagramHeader packet) .formErr true) []
        downstreamResponseBudget with
    | error error =>
      rw [hwrite] at hresponse
      exact absurd rfl hresponse
    | ok response =>
      obtain ⟨message, hboundary, hquestions⟩ := boundaryResponse_of_write (by omega) (by simp)
        (by simp) hwrite
      exact ⟨message, by omega, hquery, hboundary, Or.inl ⟨hunparsed, hquestions⟩⟩

theorem evaluated_of_response {packet : Bytes} {truncated : Bool}
    (hresponse : (evaluateDatagram packet truncated).response ≠ []) :
    ∃ message, Evaluated packet truncated (evaluateDatagram packet truncated).response message := by
  unfold evaluateDatagram at hresponse ⊢
  split
  · rename_i hcut
    rw [if_pos hcut] at hresponse
    split
    · rename_i hdropped
      rw [if_pos hdropped] at hresponse
      exact absurd rfl hresponse
    · rename_i hkept
      rw [if_neg hkept] at hresponse
      exact evaluated_of_headerOnly (hcut.imp id Or.inl) hresponse
  rename_i hcut
  rw [if_neg hcut] at hresponse
  split
  · rename_i error herror
    rw [herror] at hresponse
    exact evaluated_of_headerOnly (Or.inr (Or.inr ⟨error, herror⟩)) hresponse
  rename_i parsed hparse
  rw [hparse] at hresponse
  dsimp only at hresponse
  split
  · rename_i hinvalid
    rw [hinvalid] at hresponse
    exact absurd rfl hresponse
  · rename_i code hcode hinvalid
    have hquery := isResponse_of_validateMvpQuery hinvalid hcode
    obtain ⟨response, questions, hmake, hwrite, hquestions⟩ :=
      makeErrorResponse_spec hparse hquery (responseCodeFor code)
    obtain ⟨hlength, hcount⟩ := bounds_of_parse hparse
    obtain ⟨message, hboundary, hmessage⟩ : ∃ message, BoundaryResponse packet response message ∧
        message.questions = questions := by
      rcases hquestions with rfl | ⟨rfl, -⟩
      · exact boundaryResponse_of_write hlength hcount (parseMessage_key hparse) hwrite
      · exact boundaryResponse_of_write hlength (by simp) (by simp) hwrite
    rw [hmake]
    refine ⟨message, hlength, datagramHeader_of_parse hparse ▸ hquery, hboundary,
      Or.inr ⟨parsed, hparse, ?_⟩⟩
    rw [hmessage]
    exact hquestions
  · rename_i hvalid
    rw [hvalid] at hresponse
    exact absurd rfl hresponse

/-- No branch of `evaluate_datagram` ends in an internal error. -/
theorem evaluateDatagram_ne_internalError (packet : Bytes) (truncated : Bool) :
    (evaluateDatagram packet truncated).outcome ≠ .internalError := by
  unfold evaluateDatagram
  split
  · split
    · exact fun h => by cases h
    · exact fun h => by cases h
  split
  · exact fun h => by cases h
  rename_i parsed hparse
  split
  · exact fun h => by cases h
  · rename_i code hcode hinvalid
    obtain ⟨response, questions, hmake, -⟩ := makeErrorResponse_spec hparse
      (isResponse_of_validateMvpQuery hinvalid hcode) (responseCodeFor code)
    rw [hmake]
    exact fun h => by cases h
  · exact fun h => by cases h

theorem evaluateDatagram_accepted_iff (packet : Bytes) (truncated : Bool) :
    (evaluateDatagram packet truncated).outcome = .accepted ↔
      truncated = false ∧ packet.length ≤ downstreamReceiveBufferSize ∧
        ∃ message question, parseMessage packet {} = .ok message ∧ MvpQuery message question := by
  constructor
  · intro h
    unfold evaluateDatagram at h
    split at h
    · split at h <;> cases h
    rename_i hcut
    rw [not_or, Bool.not_eq_true] at hcut
    split at h
    · cases h
    rename_i parsed hparse
    split at h
    · cases h
    · split at h <;> cases h
    · rename_i question hvalid
      exact ⟨hcut.1, by omega, parsed, question, hparse, validateMvpQuery_ok_iff.mp hvalid⟩
  · rintro ⟨rfl, hsize, message, question, hparse, hquery⟩
    rw [evaluateDatagram, if_neg (by simp; omega), hparse]
    dsimp only
    rw [validateMvpQuery_ok_iff.mpr hquery]

/-- A datagram without an id, and a response, get nothing. -/
theorem evaluateDatagram_silent {packet : Bytes}
    (h : packet.length < 2 ∨ (datagramHeader packet).isResponse = true) (truncated : Bool) :
    (evaluateDatagram packet truncated).response = [] := by
  by_contra hresponse
  obtain ⟨message, hevaluated⟩ := evaluated_of_response hresponse
  rcases h with hshort | hisResponse
  · have := hevaluated.length_ge
    omega
  · rw [hevaluated.query] at hisResponse
    cases hisResponse

/-- The contract of `evaluate_datagram`, for every byte string:

* there is no internal error;
* a response has 12 to 512 bytes, parses, and is a response without records and
  without AD, under the id, the opcode, RD and CD of the datagram;
* its questions are those of the request, or none, and none only when the
  datagram was not parsed, when it has no question, or when the echo does not fit;
* a datagram of less than 2 bytes, and one whose third byte says that it is a
  response, get none; so a response that comes back gets none;
* exactly the queries of the service are accepted. -/
theorem datagram_boundary (packet : Bytes) (truncated : Bool) :
    (evaluateDatagram packet truncated).outcome ≠ .internalError ∧
    ((evaluateDatagram packet truncated).response ≠ [] → ∃ message,
      BoundaryResponse packet (evaluateDatagram packet truncated).response message ∧
      (message.questions = [] ∨ ∃ request, parseMessage packet {} = .ok request ∧
        message.questions.map Question.content = request.questions.map Question.content) ∧
      (message.questions = [] → Unparsed packet truncated ∨
        ∃ request, parseMessage packet {} = .ok request ∧
          (request.questions = [] ∨ downstreamResponseBudget < echoSize request.questions))) ∧
    (packet.length < 2 ∨ 3 ≤ packet.length ∧ packet.getD 2 0 &&& 0x80 ≠ 0 →
      (evaluateDatagram packet truncated).response = []) ∧
    (∀ truncated', (evaluateDatagram (evaluateDatagram packet truncated).response
      truncated').response = []) ∧
    ((evaluateDatagram packet truncated).outcome = .accepted ↔
      truncated = false ∧ packet.length ≤ downstreamReceiveBufferSize ∧
        ∃ message question, parseMessage packet {} = .ok message ∧ MvpQuery message question) := by
  refine ⟨evaluateDatagram_ne_internalError packet truncated, ?_, ?_, ?_,
    evaluateDatagram_accepted_iff packet truncated⟩
  · intro hresponse
    obtain ⟨message, hevaluated⟩ := evaluated_of_response hresponse
    refine ⟨message, hevaluated.boundary, ?_, ?_⟩
    · rcases hevaluated.questions with ⟨-, hnone⟩ | ⟨request, hparse, hsame | ⟨hnone, -⟩⟩
      · exact Or.inl hnone
      · exact Or.inr ⟨request, hparse, by rw [hsame]⟩
      · exact Or.inl hnone
    · intro hnone
      rcases hevaluated.questions with ⟨hunparsed, -⟩ | ⟨request, hparse, hsame | ⟨-, hlarge⟩⟩
      · exact Or.inl hunparsed
      · exact Or.inr ⟨request, hparse, Or.inl (hsame.symm.trans hnone)⟩
      · exact Or.inr ⟨request, hparse, Or.inr hlarge⟩
  · intro hshort
    refine evaluateDatagram_silent (hshort.imp id fun ⟨_, hflag⟩ => ?_) truncated
    rw [datagramHeader, isResponse_decodeFlags]
    exact decide_eq_true hflag
  · intro truncated'
    by_cases hresponse : (evaluateDatagram packet truncated).response = []
    · rw [hresponse]
      exact evaluateDatagram_silent (Or.inl (by decide)) truncated'
    · obtain ⟨message, hevaluated⟩ := evaluated_of_response hresponse
      refine evaluateDatagram_silent (Or.inr ?_) truncated'
      rw [← datagramHeader_of_parse hevaluated.boundary.parsed]
      exact hevaluated.boundary.isResponse

/-- A query without a question gets a response without a question, although it was
parsed and although nothing had to be left out. -/
theorem no_question_echoed :
    ¬ ∀ (packet : Bytes) (truncated : Bool) (message : Message),
      (evaluateDatagram packet truncated).response ≠ [] →
      parseMessage (evaluateDatagram packet truncated).response {} = .ok message →
      message.questions = [] → Unparsed packet truncated ∨
        ∃ request, parseMessage packet {} = .ok request ∧
          downstreamResponseBudget < echoSize request.questions := by
  intro h
  obtain ⟨message, hparse, hquestions⟩ : ∃ message,
      parseMessage (evaluateDatagram [0, 7, 0, 0, 0, 0, 0, 0, 0, 0, 0, 0] false).response {} =
        .ok message ∧ message.questions = [] := ⟨_, rfl, rfl⟩
  obtain ⟨request, hrequest, hnone⟩ : ∃ request,
      parseMessage [0, 7, 0, 0, 0, 0, 0, 0, 0, 0, 0, 0] {} = .ok request ∧
        request.questions = [] := ⟨_, rfl, rfl⟩
  rcases h [0, 7, 0, 0, 0, 0, 0, 0, 0, 0, 0, 0] false message (by decide) hparse hquestions with
    (hcut | hlarge | ⟨error, herror⟩) | ⟨request', hrequest', hlarge⟩
  · cases hcut
  · exact absurd hlarge (by decide)
  · rw [hrequest] at herror
    cases herror
  · rw [hrequest] at hrequest'
    obtain rfl := Except.ok.inj hrequest'
    rw [hnone] at hlarge
    exact absurd hlarge (by decide)

end DnsPro.Server
