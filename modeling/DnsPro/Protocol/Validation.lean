import DnsPro.Protocol.Parser

/-!
# Accepted queries and responses

`protocol/DnsQuery.cpp` decides which messages the service answers, and
`protocol/DnsResponse.cpp` which messages may complete an upstream query.
-/

namespace DnsPro.Protocol

open DnsPro.Result

inductive QueryErrorCode where
  | notAQuery
  | unsupportedOpcode
  | invalidHeaderFlags
  | wrongQuestionCount
  | unexpectedAnswerSection
  | extensionsNotSupported
  | unsupportedType
  | unsupportedClass
  deriving DecidableEq, Repr

/-- `validate_mvp_query`. -/
def validateMvpQuery (message : Message) : Except QueryErrorCode Question :=
  let header := message.header
  if header.isResponse then .error .notAQuery
  else if header.opcode ≠ opcodeQuery then .error .unsupportedOpcode
  else if header.authoritativeAnswer ∨ header.truncated ∨ header.recursionAvailable ∨
      header.reservedZ ∨ header.responseCode ≠ ResponseCode.noError.code then
    .error .invalidHeaderFlags
  else
    match message.questions with
    | [question] =>
      if message.answers ≠ [] ∨ message.authorities ≠ [] then .error .unexpectedAnswerSection
      else if message.additionals ≠ [] then .error .extensionsNotSupported
      else if question.questionClass ≠ classIn then .error .unsupportedClass
      else if question.type ≠ RecordType.a.code ∧ question.type ≠ RecordType.aaaa.code then
        .error .unsupportedType
      else .ok question
    | _ => .error .wrongQuestionCount

/-- `response_code_for`. -/
def responseCodeFor : QueryErrorCode → ResponseCode
  | .wrongQuestionCount => .formErr
  | .unexpectedAnswerSection => .formErr
  | .invalidHeaderFlags => .formErr
  | .notAQuery => .notImp
  | .unsupportedOpcode => .notImp
  | .extensionsNotSupported => .notImp
  | .unsupportedType => .notImp
  | .unsupportedClass => .notImp

inductive ResponseValidationErrorCode where
  | notAResponse
  | wrongTransactionId
  | wrongOpcode
  | invalidHeaderFlags
  | wrongQuestionCount
  | questionMismatch
  deriving DecidableEq, Repr

/-- `transaction_id`. -/
def transactionId : Bytes → Option UInt16
  | high :: low :: _ => some (be16 high low)
  | _ => none

/-- `validate_upstream_response`. -/
def validateUpstreamResponse (message : Message) (expectedTransactionId : UInt16)
    (expectedOpcode : UInt8) (expectedQuestion : Question) :
    Except ResponseValidationErrorCode Unit :=
  if message.header.isResponse = false then .error .notAResponse
  else if message.header.id ≠ expectedTransactionId then .error .wrongTransactionId
  else if message.header.opcode ≠ expectedOpcode then .error .wrongOpcode
  else if message.header.reservedZ then .error .invalidHeaderFlags
  else
    match message.questions with
    | [question] =>
      if question.same expectedQuestion = false then .error .questionMismatch else .ok ()
    | _ => .error .wrongQuestionCount

/-- A query that the service answers. -/
structure MvpQuery (message : Message) (question : Question) : Prop where
  isResponse : message.header.isResponse = false
  opcode : message.header.opcode = opcodeQuery
  authoritativeAnswer : message.header.authoritativeAnswer = false
  truncated : message.header.truncated = false
  recursionAvailable : message.header.recursionAvailable = false
  reservedZ : message.header.reservedZ = false
  responseCode : message.header.responseCode = ResponseCode.noError.code
  questions : message.questions = [question]
  answers : message.answers = []
  authorities : message.authorities = []
  additionals : message.additionals = []
  questionClass : question.questionClass = classIn
  type : question.type = RecordType.a.code ∨ question.type = RecordType.aaaa.code

theorem validateMvpQuery_ok_iff {message : Message} {question : Question} :
    validateMvpQuery message = .ok question ↔ MvpQuery message question := by
  unfold validateMvpQuery
  dsimp only
  constructor
  · intro h
    split at h
    · cases h
    rename_i hresponse
    split at h
    · cases h
    rename_i hopcode
    split at h
    · cases h
    rename_i hflags
    simp only [not_or, Bool.not_eq_true, not_not] at hflags
    obtain ⟨hauthoritative, htruncated, havailable, hreserved, hcode⟩ := hflags
    split at h
    · rename_i only hquestions
      split at h
      · cases h
      rename_i hrecords
      rw [not_or, not_not, not_not] at hrecords
      split at h
      · cases h
      rename_i hadditionals
      split at h
      · cases h
      rename_i hclass
      split at h
      · cases h
      rename_i htype
      obtain rfl := Except.ok.inj h
      exact ⟨by simpa using hresponse, by simpa using hopcode, hauthoritative, htruncated,
        havailable, hreserved, hcode, hquestions, hrecords.1,
          hrecords.2, by simpa using hadditionals,
        by simpa using hclass, by tauto⟩
    · cases h
  · intro h
    have htype : ¬ (question.type ≠ RecordType.a.code ∧ question.type ≠ RecordType.aaaa.code) := by
      have := h.type
      tauto
    rw [if_neg (by simp [h.isResponse]), if_neg (by simp [h.opcode]),
      if_neg (by simp [h.authoritativeAnswer, h.truncated, h.recursionAvailable, h.reservedZ,
        h.responseCode]), h.questions]
    dsimp only
    rw [if_neg (by simp [h.answers, h.authorities]), if_neg (by simp [h.additionals]),
      if_neg (by simp [h.questionClass]), if_neg htype]

/-- A message that is refused for another reason is a query. -/
theorem isResponse_of_validateMvpQuery {message : Message} {code : QueryErrorCode}
    (h : validateMvpQuery message = .error code) (hcode : code ≠ .notAQuery) :
    message.header.isResponse = false := by
  cases hresponse : message.header.isResponse with
  | false => rfl
  | true =>
    rw [validateMvpQuery, hresponse, if_pos rfl] at h
    exact absurd (Except.error.inj h).symm hcode

/-- A response completes a query when it is a response to the same question
with the id and the opcode that were sent. -/
theorem validateUpstreamResponse_ok_iff {message : Message} {id : UInt16} {opcode : UInt8}
    {expected : Question} :
    validateUpstreamResponse message id opcode expected = .ok () ↔
      message.header.isResponse = true ∧ message.header.id = id ∧
        message.header.opcode = opcode ∧ message.header.reservedZ = false ∧
        ∃ question, message.questions = [question] ∧ question.same expected = true := by
  unfold validateUpstreamResponse
  by_cases hresponse : message.header.isResponse = false
  · simp [hresponse]
  by_cases hid : message.header.id ≠ id
  · simp [hresponse, hid]
  by_cases hopcode : message.header.opcode ≠ opcode
  · simp [hresponse, hid, hopcode]
  by_cases hz : message.header.reservedZ = true
  · simp [hresponse, hid, hopcode, hz]
  rw [if_neg hresponse, if_neg hid, if_neg hopcode, if_neg hz]
  rw [Bool.not_eq_false] at hresponse
  rw [ne_eq, not_not] at hid hopcode
  rw [Bool.not_eq_true] at hz
  split
  · rename_i question hquestions
    cases hsame : question.same expected with
    | false => simp [hquestions, hsame]
    | true => simp [hquestions, hsame, hresponse, hid, hopcode, hz]
  · rename_i hquestions
    simp only [reduceCtorEq, false_iff]
    rintro ⟨_, _, _, _, question, hone, _⟩
    exact hquestions question hone

/-- What a successful parse went through. -/
structure Parsed (packet : Bytes) (limits : ParseLimits) (message : Message) : Prop where
  size_le : packet.length ≤ limits.maximumPacketSize
  wireImage_eq : message.wireImage = packet
  steps : ∃ words questionsEnd answersEnd authoritiesEnd recordsEnd,
    readHeader packet = .ok words ∧
    message.header = decodeFlags words.id words.flags ∧
    checkCounts words limits = .ok () ∧
    parseSection (parseQuestion packet limits) words.questionCount.toNat dnsHeaderSize =
      .ok (message.questions, questionsEnd) ∧
    parseSection (parseResourceRecord packet limits) words.answerCount.toNat questionsEnd =
      .ok (message.answers, answersEnd) ∧
    parseSection (parseResourceRecord packet limits) words.authorityCount.toNat answersEnd =
      .ok (message.authorities, authoritiesEnd) ∧
    parseSection (parseResourceRecord packet limits) words.additionalCount.toNat authoritiesEnd =
      .ok (message.additionals, recordsEnd) ∧
    ¬ (limits.rejectTrailingData ∧ recordsEnd ≠ packet.length)

theorem parsed_of_parseMessage {packet : Bytes} {limits : ParseLimits} {message : Message}
    (h : parseMessage packet limits = .ok message) : Parsed packet limits message := by
  unfold parseMessage at h
  by_cases hsize : packet.length > limits.maximumPacketSize
  · rw [if_pos hsize] at h
    cases h
  rw [if_neg hsize] at h
  obtain ⟨words, hwords, h⟩ := bind_eq_ok.mp h
  obtain ⟨_, hcounts, h⟩ := bind_eq_ok.mp h
  obtain ⟨⟨questions, questionsEnd⟩, hquestions, h⟩ := bind_eq_ok.mp h
  obtain ⟨⟨answers, answersEnd⟩, hanswers, h⟩ := bind_eq_ok.mp h
  obtain ⟨⟨authorities, authoritiesEnd⟩, hauthorities, h⟩ := bind_eq_ok.mp h
  obtain ⟨⟨additionals, recordsEnd⟩, hadditionals, h⟩ := bind_eq_ok.mp h
  dsimp only at h hanswers hauthorities hadditionals
  split at h
  · cases h
  · rename_i htrailing
    obtain rfl := Except.ok.inj h
    exact ⟨by omega, rfl, words, _, _, _, _, hwords, rfl, hcounts, hquestions, hanswers,
      hauthorities, hadditionals, htrailing⟩

/-- Once its sections are read, a message fails only by the bytes after them. -/
theorem parseMessage_of_sections {packet : Bytes} {limits : ParseLimits} {words : HeaderWords}
    {questions : List Question} {answers authorities additionals : List ResourceRecord}
    {questionsEnd answersEnd authoritiesEnd recordsEnd : Nat}
    (hsize : packet.length ≤ limits.maximumPacketSize) (hwords : readHeader packet = .ok words)
    (hcounts : checkCounts words limits = .ok ())
    (hquestions : parseSection (parseQuestion packet limits) words.questionCount.toNat dnsHeaderSize =
      .ok (questions, questionsEnd))
    (hanswers : parseSection (parseResourceRecord packet limits) words.answerCount.toNat
      questionsEnd =
      .ok (answers, answersEnd))
    (hauthorities : parseSection (parseResourceRecord packet limits) words.authorityCount.toNat
      answersEnd = .ok (authorities, authoritiesEnd))
    (hadditionals : parseSection (parseResourceRecord packet limits) words.additionalCount.toNat
      authoritiesEnd = .ok (additionals, recordsEnd)) :
    parseMessage packet limits =
      if limits.rejectTrailingData ∧ recordsEnd ≠ packet.length then
        .error ⟨.trailingData, recordsEnd⟩
      else .ok ⟨decodeFlags words.id words.flags, questions, answers, authorities, additionals,
        packet⟩ := by
  rw [parseMessage, if_neg (Nat.not_lt.mpr hsize)]
  simp only [pure_eq_ok, ok_bind, hwords, hcounts, hquestions, hanswers, hauthorities, hadditionals]
  split
  · rfl
  · rfl

theorem Parsed.parseMessage {packet : Bytes} {limits : ParseLimits} {message : Message}
    (h : Parsed packet limits message) : parseMessage packet limits = .ok message := by
  obtain ⟨words, questionsEnd, answersEnd, authoritiesEnd, recordsEnd, hwords, hheader, hcounts,
    hquestions, hanswers, hauthorities, hadditionals, htrailing⟩ := h.steps
  rw [parseMessage_of_sections h.size_le hwords hcounts hquestions hanswers hauthorities hadditionals,
    if_neg htrailing, ← hheader, ← h.wireImage_eq]

/-- The id of an accepted packet is its first two bytes. -/
theorem transactionId_of_parse {packet : Bytes} {limits : ParseLimits} {message : Message}
    (h : parseMessage packet limits = .ok message) :
    transactionId packet = some message.header.id := by
  obtain ⟨words, -, -, -, -, hwords, hheader, -⟩ := (parsed_of_parseMessage h).steps
  unfold readHeader at hwords
  obtain ⟨⟨id, _⟩, hid, hwords⟩ := bind_eq_ok.mp hwords
  obtain ⟨⟨flags, _⟩, -, hwords⟩ := bind_eq_ok.mp hwords
  obtain ⟨⟨questionCount, _⟩, -, hwords⟩ := bind_eq_ok.mp hwords
  obtain ⟨⟨answerCount, _⟩, -, hwords⟩ := bind_eq_ok.mp hwords
  obtain ⟨⟨authorityCount, _⟩, -, hwords⟩ := bind_eq_ok.mp hwords
  obtain ⟨⟨additionalCount, _⟩, -, hwords⟩ := bind_eq_ok.mp hwords
  obtain rfl := Except.ok.inj hwords
  rw [hheader]
  unfold readU16 at hid
  rw [List.drop_zero] at hid
  split at hid
  · obtain ⟨rfl, -⟩ := Prod.mk.inj (Except.ok.inj hid)
    rfl
  · cases hid

end DnsPro.Protocol
