import DnsPro.Protocol.Query

/-!
# The size of a message and its content

`make_address_response` and `serialize_query` write an image that does not depend on
the maximum size, or nothing.  `writeAddressMessage_outcome` and
`writeQuestionMessage_outcome` give the image and every failure,
`parseMessage_addressImage` what the parser makes of the addresses: the pointer
of each answer leads to the name of the question, whatever name that is.
-/

namespace DnsPro.Protocol

open DnsPro.Result

variable {header : Header} {question : Question} {questions : List Question}
  {addresses : List Bytes} {ttl : UInt32} {size : Nat}

/-- Without a response code only the opcode can be out of range. -/
theorem encodeFlags_outcome (hcode : header.responseCode = ResponseCode.noError.code) :
    ∃ flags, encodeFlags header =
      if header.opcode > 0x0f then .error ⟨.invalidOpcode⟩ else .ok flags := by
  have hnibble : ¬ header.responseCode > 0x0f := by
    rw [hcode]
    decide
  unfold encodeFlags
  rw [if_neg hnibble]
  exact ⟨_, rfl⟩

/-- `write_question_message` writes its image, when there is room for it. -/
theorem writeQuestionMessage_outcome (hcode : header.responseCode = ResponseCode.noError.code)
    (questions : List Question) :
    ∃ flags, ∀ maximumSize ≤ 65535, writeQuestionMessage header questions maximumSize =
      if questions.length > 65535 then .error ⟨.tooManyQuestions⟩
      else if header.opcode > 0x0f then .error ⟨.invalidOpcode⟩
      else if (questionMessageWire header.id flags questions).length ≤ maximumSize then
        .ok (questionMessageWire header.id flags questions)
      else .error ⟨.messageTooLarge⟩ := by
  obtain ⟨flags, hflags⟩ := encodeFlags_outcome hcode
  refine ⟨flags, ?_⟩
  intro maximumSize hmaximum
  by_cases hcount : questions.length > 65535
  · rw [writeQuestionMessage, if_neg (by omega), if_pos hcount, if_pos hcount]
  rw [if_neg hcount]
  by_cases hopcode : header.opcode > 0x0f
  · rw [if_pos hopcode] at hflags ⊢
    rw [writeQuestionMessage, if_neg (by omega), if_neg hcount, hflags]
    rfl
  · rw [if_neg hopcode] at hflags ⊢
    exact writeQuestionMessage_eq hmaximum (by omega) hflags

/-- `write_address_message` writes its image, when there is room for it. -/
theorem writeAddressMessage_outcome (hcode : header.responseCode = ResponseCode.noError.code)
    (ttl : UInt32) (hne : addresses ≠ []) (htype : addressSize? question.type = some size)
    (hsizes : ∀ address ∈ addresses, address.length = size) :
    ∃ flags, (¬ header.opcode > 0x0f → encodeFlags header = .ok flags) ∧
      ∀ maximumSize ≤ 65535, writeAddressMessage header question addresses ttl maximumSize =
        if addresses.length > 65535 then .error ⟨.tooManyAnswers⟩
        else if header.opcode > 0x0f then .error ⟨.invalidOpcode⟩
        else if (addressMessageWire header.id flags question ttl addresses).length ≤ maximumSize then
          .ok (addressMessageWire header.id flags question ttl addresses)
        else .error ⟨.messageTooLarge⟩ := by
  obtain ⟨flags, hflags⟩ := encodeFlags_outcome hcode
  refine ⟨flags, fun hopcode => by rw [hflags, if_neg hopcode], ?_⟩
  intro maximumSize hmaximum
  have hempty : ¬ addresses.isEmpty = true := by simpa using hne
  have hany : ¬ (addresses.any fun address => address.length ≠ size) = true := by simpa using hsizes
  by_cases hcount : addresses.length > 65535
  · rw [writeAddressMessage, if_neg (by omega), if_neg hempty, if_pos hcount, if_pos hcount]
  rw [if_neg hcount]
  by_cases hopcode : header.opcode > 0x0f
  · rw [if_pos hopcode] at hflags ⊢
    rw [writeAddressMessage, if_neg (by omega), if_neg hempty, if_neg hcount, htype]
    dsimp only
    rw [if_neg hany, hflags]
    rfl
  · rw [if_neg hopcode] at hflags ⊢
    exact writeAddressMessage_eq hmaximum hne (by omega) htype hsizes hflags

/-- The size law of a question message. -/
theorem questionMessageWire_length (id flags : UInt16) (questions : List Question) :
    (questionMessageWire id flags questions).length =
      dnsHeaderSize + (questions.map fun question => question.name.wireSize + 4).sum := by
  have hquestions : (questions.flatMap questionWire).length =
      (questions.map fun question => question.name.wireSize + 4).sum := by
    induction questions with
    | nil => rfl
    | cons question questions ih =>
      rw [List.flatMap_cons, List.length_append, questionWire_length, ih, List.map_cons,
        List.sum_cons]
  rw [questionMessageWire, List.length_append, headerWire_length, hquestions]

/-- The parser reads the header, the content of the question and the addresses. -/
theorem parseMessage_addressImage {flags : UInt16} (hflags : encodeFlags header = .ok flags)
    (htype : addressSize? question.type = some size)
    (hsizes : ∀ address ∈ addresses, address.length = size) (hcount : addresses.length ≤ 4096)
    (hroom : (addressMessageWire header.id flags question ttl addresses).length ≤ 65535) :
    ∃ message answered,
      parseMessage (addressMessageWire header.id flags question ttl addresses) {} = .ok message ∧
      message.header = header ∧ message.questions = [answered] ∧
      answered.content = question.content ∧
      List.Forall₂ (AddressRecord question ttl) addresses message.answers ∧
      message.authorities = [] ∧ message.additionals = [] := by
  have htypes : ∀ address ∈ addresses,
      addressSize? question.normalized.type = some address.length := by
    intro address haddress
    rw [hsizes address haddress]
    exact htype
  -- the image holds the labels of the question only, so its key may be any
  have hparse : ∃ records,
      parseMessage (addressMessageWire header.id flags question.normalized ttl addresses) {} = _ ∧
        List.Forall₂ (AddressRecord question.normalized ttl) addresses records :=
    parseMessage_addressMessage {} hflags rfl htypes (by omega) (by decide) (by decide) hcount hcount
      hroom
  obtain ⟨records, hparse, hrecords⟩ := hparse
  exact ⟨_, question.normalized, hparse, rfl, rfl, rfl, hrecords, rfl, rfl⟩

theorem addressSize_of_type
    (h : question.type = RecordType.a.code ∧ size = 4 ∨
      question.type = RecordType.aaaa.code ∧ size = 16) :
    addressSize? question.type = some size := by
  rcases h with ⟨htype, rfl⟩ | ⟨htype, rfl⟩
  · rw [htype]
    rfl
  · rw [htype]
    rfl

/-- Address responses are exact and decodable.  For every request that is a query with one
A or AAAA question, every non-empty list of addresses of its length and every TTL there is
one image of the exact size.  With every maximum size up to 65535 the function returns it
when it fits, and else fails with `MessageTooLarge`; before that it refuses more than 65535
addresses, and an opcode that does not fit in its four bits.  The parser reads back the
header, the question and the addresses, and nothing else.  The size law of `serialize_query`
is the same. -/
theorem address_responses_exact :
    (∀ (request : Message) (question : Question) (addresses : List Bytes) (ttl : UInt32)
      (recursionAvailable : Bool) (size : Nat),
      request.header.isResponse = false → request.questions = [question] →
      question.type = RecordType.a.code ∧ size = 4 ∨
        question.type = RecordType.aaaa.code ∧ size = 16 →
      addresses ≠ [] → (∀ address ∈ addresses, address.length = size) →
      ∃ image : Bytes,
        image.length = 12 + (question.name.wireSize + 4) + addresses.length * (12 + size) ∧
        (∀ maximumSize ≤ 65535,
          makeAddressResponse request addresses ttl recursionAvailable maximumSize =
            if addresses.length > 65535 then .error ⟨.tooManyAnswers⟩
            else if request.header.opcode > 0x0f then .error ⟨.invalidOpcode⟩
            else if image.length ≤ maximumSize then .ok image
            else .error ⟨.messageTooLarge⟩) ∧
        (¬ request.header.opcode > 0x0f → image.length ≤ 65535 → addresses.length ≤ 4096 →
          ∃ message answered, parseMessage image {} = .ok message ∧
            message.header = {
              id := request.header.id
              isResponse := true
              opcode := request.header.opcode
              authoritativeAnswer := false
              truncated := false
              recursionDesired := request.header.recursionDesired
              recursionAvailable := recursionAvailable
              reservedZ := false
              authenticatedData := false
              checkingDisabled := request.header.checkingDisabled
              responseCode := ResponseCode.noError.code } ∧
            message.questions = [answered] ∧ answered.name.labels = question.name.labels ∧
            answered.type = question.type ∧ answered.questionClass = question.questionClass ∧
            List.Forall₂ (fun address record =>
              record.name.labels = question.name.labels ∧ record.type = question.type ∧
                record.recordClass = question.questionClass ∧ record.ttl = ttl ∧
                record.rdata = address) addresses message.answers ∧
            message.authorities = [] ∧ message.additionals = [])) ∧
    ∀ (header : Header) (questions : List Question), header.isResponse = false →
      ∃ image : Bytes,
        image.length = 12 + (questions.map fun question => question.name.wireSize + 4).sum ∧
        ∀ maximumSize ≤ 65535, serializeQuery header questions maximumSize =
          if questions.length > 65535 then .error ⟨.tooManyQuestions⟩
          else if header.opcode > 0x0f then .error ⟨.invalidOpcode⟩
          else if image.length ≤ maximumSize then .ok image
          else .error ⟨.messageTooLarge⟩ := by
  constructor
  · intro request question addresses ttl recursionAvailable size hquery hone htype hne hsizes
    have hsize := addressSize_of_type htype
    obtain ⟨flags, hflags, hwrite⟩ := writeAddressMessage_outcome
      (show (responseHeader request.header .noError recursionAvailable).responseCode = _ from rfl)
      ttl hne hsize hsizes
    refine ⟨_, addressMessageWire_length request.header.id flags question ttl hsizes, ?_, ?_⟩
    · intro maximumSize hmaximum
      rw [makeAddressResponse, if_neg (by simp [hquery]), hone]
      exact hwrite maximumSize hmaximum
    · intro hopcode hroom hcount
      obtain ⟨message, answered, hparse, hheader, hquestions, hcontent, hanswers, hrest⟩ :=
        parseMessage_addressImage (hflags hopcode) hsize hsizes hcount hroom
      obtain ⟨hlabels, hrest'⟩ := Prod.mk.inj hcontent
      obtain ⟨htype', hclass⟩ := Prod.mk.inj hrest'
      exact ⟨message, answered, hparse, hheader, hquestions, hlabels, htype', hclass, hanswers, hrest⟩
  · intro header questions hquery
    obtain ⟨flags, hwrite⟩ := writeQuestionMessage_outcome
      (show (queryHeader header).responseCode = _ from rfl) questions
    refine ⟨_, questionMessageWire_length header.id flags questions, ?_⟩
    intro maximumSize hmaximum
    rw [serializeQuery, if_neg (by simp [hquery])]
    exact hwrite maximumSize hmaximum

/-- A request for the addresses of a name with one label. -/
def labelRequest : Message where
  header := { id := 7, recursionDesired := true }
  questions := [⟨DomainName.ofLabels [[0x61]] ⟨by decide, by decide, by decide⟩, RecordType.a.code,
    classIn⟩]
  answers := []
  authorities := []
  additionals := []
  wireImage := []

/-- Two addresses of four bytes fit in 51 bytes and not in 50, and are read back. -/
theorem address_responses_exact_two : ∃ (image : Bytes) (message : Message),
    image.length = 51 ∧
    makeAddressResponse labelRequest [[10, 0, 0, 1], [10, 0, 0, 2]] 60 true 51 = .ok image ∧
    makeAddressResponse labelRequest [[10, 0, 0, 1], [10, 0, 0, 2]] 60 true 50 =
      .error ⟨.messageTooLarge⟩ ∧
    parseMessage image {} = .ok message ∧
    message.answers.map (fun record => record.rdata) = [[10, 0, 0, 1], [10, 0, 0, 2]] := by
  obtain ⟨image, hlength, hwrite, hread⟩ := address_responses_exact.1 labelRequest _
    [[10, 0, 0, 1], [10, 0, 0, 2]] 60 true 4 rfl rfl (.inl ⟨rfl, rfl⟩) (by simp) (by simp)
  have hlength : image.length = 51 := hlength
  obtain ⟨message, answered, hparse, -, -, -, -, -, hanswers, -⟩ :=
    hread (by decide) (by omega) (by decide)
  have hfits := hwrite 51 (by decide)
  have hlarge := hwrite 50 (by decide)
  rw [if_neg (by decide), if_neg (by decide), hlength] at hfits hlarge
  refine ⟨image, message, hlength, hfits, hlarge, hparse, ?_⟩
  have hdata : List.Forall₂ (fun address data => address = data) _
      (message.answers.map fun record => record.rdata) :=
    List.forall₂_map_right_iff.mpr (hanswers.imp fun _ _ hanswer => hanswer.2.2.2.2.symm)
  rw [List.forall₂_eq_eq_eq] at hdata
  exact hdata.symm

/-- A request for the addresses of the root. -/
def rootRequest (opcode : UInt8) : Message where
  header := { opcode := opcode }
  questions := [⟨DomainName.default, RecordType.a.code, classIn⟩]
  answers := []
  authorities := []
  additionals := []
  wireImage := []

/-- More addresses than the header can count are refused as such and not for their size, and
an opcode out of range is refused where there is room for the image. -/
theorem addresses_refused :
    (makeAddressResponse (rootRequest 0) (List.replicate 65536 [192, 0, 2, 1]) 60 true 512 =
        .error ⟨.tooManyAnswers⟩ ∧
      ¬ 12 + (DomainName.default.wireSize + 4) + 65536 * (12 + 4) ≤ 512) ∧
    makeAddressResponse (rootRequest 16) [[192, 0, 2, 1]] 60 true 512 = .error ⟨.invalidOpcode⟩ ∧
      12 + (DomainName.default.wireSize + 4) + 1 * (12 + 4) ≤ 512 := by
  refine ⟨⟨?_, by decide⟩, by decide, by decide⟩
  generalize haddresses : List.replicate 65536 ([192, 0, 2, 1] : Bytes) = addresses
  have hcount : addresses.length = 65536 := by rw [← haddresses, List.length_replicate]
  have hempty : ¬ addresses.isEmpty = true := by
    rw [List.isEmpty_iff_length_eq_zero, hcount]
    decide
  rw [makeAddressResponse, if_neg (by decide)]
  show writeAddressMessage _ _ addresses 60 512 = _
  rw [writeAddressMessage, if_neg (by decide), if_neg hempty, if_pos (by omega)]

end DnsPro.Protocol
