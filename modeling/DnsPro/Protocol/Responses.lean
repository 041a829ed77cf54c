import DnsPro.Protocol.Rewrite
import DnsPro.Protocol.RoundTrip

/-!
# Responses to a client

What a client may get: a message within the classic UDP limit that answers its
question under its id.  The three ways in which the service makes a response
(an error, addresses, the bytes of the upstream server under another id) all give
one.
-/

namespace DnsPro.Protocol

open DnsPro.Result

/-- The questions agree, and the names up to case. -/
structure SameQuestion (question other : Question) : Prop where
  name : foldedLabels question.name.labels = foldedLabels other.name.labels
  type : question.type = other.type
  questionClass : question.questionClass = other.questionClass

/-- A response that the client of `request` may get. -/
structure RespondsTo (request : Message) (response : Bytes) (message : Message) : Prop where
  size_le : response.length ≤ downstreamResponseBudget
  parsed : parseMessage response {} = .ok message
  isResponse : message.header.isResponse = true
  opcode : message.header.opcode = opcodeQuery
  id : message.header.id = request.header.id
  question : ∃ asked answered, request.questions = [asked] ∧ message.questions = [answered] ∧
    SameQuestion answered asked

/-- A query of a client that was parsed and accepted. -/
structure Accepted (request : Message) (question : Question) : Prop where
  isResponse : request.header.isResponse = false
  opcode : request.header.opcode = opcodeQuery
  questions : request.questions = [question]
  questionClass : question.questionClass = classIn
  type : question.type = RecordType.a.code ∨ question.type = RecordType.aaaa.code
  key : question.name.canonicalKey = canonicalKeyOf question.name.labels

theorem accepted_of_parse {packet : Bytes} {limits : ParseLimits} {request : Message}
    {question : Question} (hparse : parseMessage packet limits = .ok request)
    (hvalid : validateMvpQuery request = .ok question) : Accepted request question := by
  have hquery := validateMvpQuery_ok_iff.mp hvalid
  refine ⟨hquery.isResponse, hquery.opcode, hquery.questions, hquery.questionClass, hquery.type, ?_⟩
  exact parseMessage_key hparse question (by simp [hquery.questions])

theorem SameQuestion.refl (question : Question) : SameQuestion question question := ⟨rfl, rfl, rfl⟩

theorem sameQuestion_of_same {question other : Question}
    (hkey : question.name.canonicalKey = canonicalKeyOf question.name.labels)
    (hother : other.name.canonicalKey = canonicalKeyOf other.name.labels)
    (hsame : question.same other = true) : SameQuestion question other := by
  obtain ⟨hname, htype, hclass⟩ := (Question.same_iff _ _).mp hsame
  rw [hkey, hother, canonicalKeyOf_inj question.name.labels_ok other.name.labels_ok] at hname
  exact ⟨hname, htype, hclass⟩

/-! ## Errors -/

theorem encodeFlags_responseHeader {header : Header} (hopcode : header.opcode = opcodeQuery)
    (code : ResponseCode) (recursionAvailable : Bool) :
    ∃ flags, encodeFlags (responseHeader header code recursionAvailable) = .ok flags := by
  have hsmall : ¬ (responseHeader header code recursionAvailable).opcode > 0x0f := by
    show ¬ header.opcode > 0x0f
    rw [hopcode]
    decide
  have hcode : ¬ (responseHeader header code recursionAvailable).responseCode > 0x0f := by
    show ¬ code.code > 0x0f
    cases code <;> decide
  rw [encodeFlags, if_neg hsmall, if_neg hcode]
  exact ⟨_, rfl⟩

variable {request : Message} {question : Question}

/-- `make_error_response` echoes the question of an accepted query. -/
theorem Accepted.error (h : Accepted request question) (code : ResponseCode)
    (recursionAvailable : Bool) :
    ∃ response message,
      makeErrorResponse request code recursionAvailable downstreamResponseBudget = .ok response ∧
      response ≠ [] ∧ RespondsTo request response message ∧
      message.header = responseHeader request.header code recursionAvailable := by
  obtain ⟨flags, hflags⟩ := encodeFlags_responseHeader h.opcode code recursionAvailable
  have hsize : (questionMessageWire request.header.id flags [question]).length ≤
      downstreamResponseBudget := by
    have hname := question.name.labels_ok.size
    have hwire := question.name.wireSize_eq
    rw [questionMessageWire, List.length_append, headerWire_length, List.flatMap_singleton,
      questionWire_length, hwire]
    simp only [dnsHeaderSize, downstreamResponseBudget, classicDnsUdpPayloadLimit,
      maxDomainWireSize] at hname ⊢
    omega
  have hwrite : writeQuestionMessage (responseHeader request.header code recursionAvailable)
      [question] downstreamResponseBudget =
      .ok (questionMessageWire request.header.id flags [question]) := by
    rw [writeQuestionMessage_eq (by decide) (by simp) hflags]
    exact if_pos hsize
  have hparse := parseMessage_questionMessage {} hflags (by simp) (by simp)
    (by simpa using h.key) (hsize.trans (by decide))
  refine ⟨questionMessageWire request.header.id flags [question], _, ?_, ?_,
    ⟨hsize, hparse, rfl, h.opcode, rfl, question, question, h.questions, rfl, .refl question⟩, rfl⟩
  · rw [makeErrorResponse, if_neg (by simp [h.isResponse]), h.questions]
    dsimp only
    rw [hwrite]
  · simp [questionMessageWire, headerWire, bytes16]

/-! ## Addresses -/

theorem addressSize_of_accepted (h : Accepted request question) :
    ∃ size, addressSize? question.type = some size ∧ 4 ≤ size := by
  rcases h.type with htype | htype
  · exact ⟨4, by rw [htype]; rfl, by omega⟩
  · exact ⟨16, by rw [htype]; rfl, by omega⟩

/-- `make_address_response` succeeds only for addresses of the size of the type, and
when there is room for them. -/
theorem Accepted.addresses_fit (h : Accepted request question) {answers : List Bytes} {ttl : UInt32}
    {recursionAvailable : Bool} {response : Bytes}
    (hwrite : makeAddressResponse request answers ttl recursionAvailable downstreamResponseBudget =
      .ok response) :
    answers ≠ [] ∧ ∃ size, addressSize? question.type = some size ∧
      (∀ answer ∈ answers, answer.length = size) ∧
      dnsHeaderSize + (question.name.wireSize + 4) + answers.length * (12 + size) ≤
        downstreamResponseBudget := by
  obtain ⟨flags, hflags⟩ := encodeFlags_responseHeader h.opcode .noError recursionAvailable
  obtain ⟨size, hsize, -⟩ := addressSize_of_accepted h
  rw [makeAddressResponse, if_neg (by simp [h.isResponse]), h.questions] at hwrite
  dsimp only at hwrite
  have hne : answers ≠ [] := by
    rintro rfl
    rw [writeAddressMessage, if_neg (by decide)] at hwrite
    cases hwrite
  have hcount : answers.length ≤ 65535 := by
    by_contra hlong
    rw [writeAddressMessage, if_neg (by decide), if_neg (by simpa using hne),
      if_pos (by omega)] at hwrite
    cases hwrite
  have hsizes : ∀ answer ∈ answers, answer.length = size := by
    by_contra hother
    rw [writeAddressMessage, if_neg (by decide), if_neg (by simpa using hne), if_neg (by omega),
      hsize] at hwrite
    dsimp only at hwrite
    rw [if_pos (by simpa using hother)] at hwrite
    cases hwrite
  refine ⟨hne, size, hsize, hsizes, ?_⟩
  rw [writeAddressMessage_eq (by decide) hne hcount hsize hsizes hflags] at hwrite
  split at hwrite
  · rename_i hfits
    rwa [addressMessageWire_length _ _ _ _ hsizes] at hfits
  · cases hwrite

/-- Addresses for which there is room are written, and parsed back. -/
theorem Accepted.writeAddresses (h : Accepted request question) {answers : List Bytes} {size : Nat}
    (hne : answers ≠ []) (hsize : addressSize? question.type = some size)
    (hsizes : ∀ answer ∈ answers, answer.length = size)
    (hfits : dnsHeaderSize + (question.name.wireSize + 4) + answers.length * (12 + size) ≤
      downstreamResponseBudget) (ttl : UInt32) (recursionAvailable : Bool) :
    ∃ response message,
      makeAddressResponse request answers ttl recursionAvailable downstreamResponseBudget =
        .ok response ∧
      response ≠ [] ∧ RespondsTo request response message ∧
      message.header = responseHeader request.header .noError recursionAvailable ∧
      message.questions = [question] ∧
      List.Forall₂ (AddressRecord question ttl) answers message.answers ∧
      message.authorities = [] ∧ message.additionals = [] := by
  obtain ⟨flags, hflags⟩ := encodeFlags_responseHeader h.opcode .noError recursionAvailable
  -- sixteen bytes for each answer at least, so the parser's limits are not reached
  have hfew : answers.length ≤ 32 := by
    obtain ⟨size', hsize', hpositive⟩ := addressSize_of_accepted h
    obtain rfl := Option.some.inj (hsize.symm.trans hsize')
    have hrecords : answers.length * 16 ≤ answers.length * (12 + size) :=
      Nat.mul_le_mul_left _ (by omega)
    change _ ≤ 512 at hfits
    omega
  have hlength : (addressMessageWire request.header.id flags question ttl answers).length ≤
      downstreamResponseBudget := by
    rw [addressMessageWire_length _ _ _ _ hsizes]
    exact hfits
  have htypes : ∀ answer ∈ answers, addressSize? question.type = some answer.length :=
    fun answer hanswer => by rw [hsizes answer hanswer, hsize]
  obtain ⟨records, hparse, hrecords⟩ := parseMessage_addressMessage {} hflags h.key htypes
    (by omega) (by decide) (by decide) (hfew.trans (by decide)) (hfew.trans (by decide))
    (hlength.trans (by decide))
  refine ⟨addressMessageWire request.header.id flags question ttl answers, _, ?_, ?_,
    ⟨hlength, hparse, rfl, h.opcode, rfl, question, question, h.questions, rfl, .refl question⟩, rfl,
    rfl, hrecords, rfl, rfl⟩
  · rw [makeAddressResponse, if_neg (by simp [h.isResponse]), h.questions]
    dsimp only
    rw [writeAddressMessage_eq (by decide) hne (by omega) hsize hsizes hflags]
    exact if_pos hlength
  · simp [addressMessageWire, headerWire, bytes16]

/-- `make_address_response` answers the question, when it succeeds. -/
theorem Accepted.addresses (h : Accepted request question) {answers : List Bytes} {ttl : UInt32}
    {recursionAvailable : Bool} {response : Bytes}
    (hwrite : makeAddressResponse request answers ttl recursionAvailable downstreamResponseBudget =
      .ok response) :
    ∃ message, response ≠ [] ∧ RespondsTo request response message := by
  obtain ⟨hne, size, hsize, hsizes, hfits⟩ := h.addresses_fit hwrite
  obtain ⟨written, message, hwritten, hbytes, hresponds, -⟩ :=
    h.writeAddresses hne hsize hsizes hfits ttl recursionAvailable
  obtain rfl := Except.ok.inj (hwritten.symm.trans hwrite)
  exact ⟨message, hbytes, hresponds⟩

/-! ## Upstream responses -/

/-- What the upstream server sent, under another id, is parsed like it. -/
theorem parseMessage_upstream {packet : Bytes} {message : Message}
    (hparse : parseMessage packet { maximumPacketSize := upstreamReceiveBufferSize } = .ok message)
    (id : UInt16) :
    (withTransactionId packet id).length = packet.length ∧ parseMessage packet {} = .ok message ∧
      parseMessage (withTransactionId packet id) {} = .ok { message with
        header := { message.header with id := id }
        wireImage := withTransactionId packet id } := by
  have hsize := (parsed_of_parseMessage hparse).size_le
  have hlength : 2 ≤ packet.length := by
    have hid := transactionId_of_parse hparse
    unfold transactionId at hid
    split at hid
    · simp
    · cases hid
  have hdefault := parseMessage_of_size {} hparse (hsize.trans (by decide))
  have hrewritten := parseMessage_withTransactionId hlength id {}
  rw [hdefault, Except.map] at hrewritten
  exact ⟨(sameBody_withTransactionId hlength id).length_eq.symm, hdefault, hrewritten⟩

/-- The datagram of the upstream server, under the id of the client. -/
theorem Accepted.upstream (h : Accepted request question) {packet : Bytes} {message : Message}
    (hparse : parseMessage packet { maximumPacketSize := upstreamReceiveBufferSize } = .ok message)
    (hvalid : validateUpstreamResponse message message.header.id request.header.opcode question =
      .ok ()) :
    ∃ message', withTransactionId packet request.header.id ≠ [] ∧
      RespondsTo request (withTransactionId packet request.header.id) message' := by
  obtain ⟨hlength, hdefault, hrewritten⟩ := parseMessage_upstream hparse request.header.id
  obtain ⟨hresponse, -, hopcode, -, answered, hquestions, hsame⟩ :=
    validateUpstreamResponse_ok_iff.mp hvalid
  refine ⟨_, by simp [withTransactionId, bytes16], ?_, hrewritten, hresponse, ?_, rfl, question,
    answered, h.questions, hquestions, ?_⟩
  · rw [hlength]
    exact (parsed_of_parseMessage hparse).size_le
  · exact hopcode.trans h.opcode
  · refine sameQuestion_of_same ?_ h.key hsame
    exact parseMessage_key hdefault answered (by simp [hquestions])

end DnsPro.Protocol
