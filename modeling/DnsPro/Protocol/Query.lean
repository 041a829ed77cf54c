import DnsPro.Protocol.RoundTrip

/-!
# Queries on the wire

`serialize_query` and `parse_message` undo one another: the parser reads back
every query that the writer wrote, and a query that was parsed without following
a compression pointer is written as it was.
-/

namespace DnsPro.Protocol

/-! ## Decoding what was encoded -/

/-- The question with the name that `from_labels` makes of the same labels.  Only
the key of the root may differ. -/
def Question.normalized (question : Question) : Question :=
  { question with name := DomainName.ofLabels question.name.labels question.name.labels_ok }

/-- What a question has on the wire. -/
def Question.content (question : Question) : List Bytes × UInt16 × UInt16 :=
  (question.name.labels, question.type, question.questionClass)

theorem questionMessageWire_normalized (id flags : UInt16) (questions : List Question) :
    questionMessageWire id flags (questions.map Question.normalized) =
      questionMessageWire id flags questions := by
  rw [questionMessageWire, questionMessageWire, List.length_map, List.flatMap_map]
  rfl

/-- The header that a query goes out with. -/
def queryHeader (header : Header) : Header :=
  { header with
    authoritativeAnswer := false
    truncated := false
    recursionAvailable := false
    responseCode := ResponseCode.noError.code }

theorem serializeQuery_eq_ok {header : Header} {questions : List Question} {maximumSize : Nat}
    {wire : Bytes} (h : serializeQuery header questions maximumSize = .ok wire) :
    ∃ flags, encodeFlags (queryHeader header) = .ok flags ∧ maximumSize ≤ 65535 ∧
      wire = questionMessageWire header.id flags questions ∧ wire.length ≤ maximumSize := by
  unfold serializeQuery at h
  split at h
  · cases h
  change writeQuestionMessage (queryHeader header) questions maximumSize = _ at h
  by_cases hmaximum : maximumSize > 65535
  · rw [writeQuestionMessage, if_pos hmaximum] at h
    cases h
  by_cases hcount : questions.length > 65535
  · rw [writeQuestionMessage, if_neg hmaximum, if_pos hcount] at h
    cases h
  cases hflags : encodeFlags (queryHeader header) with
  | error error =>
    rw [writeQuestionMessage, if_neg hmaximum, if_neg hcount, hflags] at h
    cases h
  | ok flags =>
    rw [writeQuestionMessage_eq (by omega) (by omega) hflags] at h
    split at h
    · rename_i hsize
      obtain rfl := Except.ok.inj h
      exact ⟨flags, rfl, by omega, rfl, hsize⟩
    · cases h

/-- Decode undoes encode: a query with at most sixteen questions that was written
is parsed back with its header, but for the bits that a query does not have, and
with its questions. -/
theorem parseMessage_serializeQuery {header : Header} {questions : List Question}
    {maximumSize : Nat} {wire : Bytes} (hcount : questions.length ≤ 16)
    (hwire : serializeQuery header questions maximumSize = .ok wire) :
    ∃ message, parseMessage wire {} = .ok message ∧
      message.header = { header with
        authoritativeAnswer := false
        truncated := false
        recursionAvailable := false
        responseCode := ResponseCode.noError.code } ∧
      message.questions.map Question.content = questions.map Question.content ∧
      message.answers = [] ∧ message.authorities = [] ∧ message.additionals = [] ∧
      message.wireImage = wire := by
  obtain ⟨flags, hflags, hmaximum, rfl, hsize⟩ := serializeQuery_eq_ok hwire
  have hkeys : ∀ question ∈ questions.map Question.normalized,
      question.name.canonicalKey = canonicalKeyOf question.name.labels := by
    intro question hquestion
    obtain ⟨original, -, rfl⟩ := List.mem_map.mp hquestion
    rfl
  have hnormalized := questionMessageWire_normalized header.id flags questions
  have hlength : (questions.map Question.normalized).length ≤ 16 := by
    rw [List.length_map]
    exact hcount
  have hparse := parseMessage_questionMessage {} hflags (hlength.trans (by decide)) hlength hkeys
    (by
      show (questionMessageWire header.id flags (questions.map Question.normalized)).length ≤ 65535
      rw [hnormalized]
      exact hsize.trans hmaximum)
  change parseMessage (questionMessageWire header.id flags (questions.map Question.normalized)) {} = _
    at hparse
  rw [hnormalized] at hparse
  refine ⟨_, hparse, rfl, ?_, rfl, rfl, rfl, hnormalized⟩
  rw [List.map_map]
  rfl

/-- Two questions: the root, whose name is the default one, and `x`. -/
def sampleQuestions : List Question :=
  [⟨DomainName.default, 1, 1⟩,
    ⟨DomainName.ofLabels [[0x78]] ⟨by simp, by simp [maxLabelSize], by decide⟩, 28, 1⟩]

theorem parsed_root_query :
    ∃ wire message,
      serializeQuery { id := 7, recursionDesired := true } sampleQuestions 512 = .ok wire ∧
      parseMessage wire {} = .ok message ∧
      message.questions.map Question.content = [([], 1, 1), ([[0x78]], 28, 1)] := by
  obtain ⟨wire, hwire⟩ : ∃ wire,
    serializeQuery { id := 7, recursionDesired := true } sampleQuestions
      512 = .ok wire := ⟨_, rfl⟩
  obtain ⟨message, hparse, -, hquestions, -⟩ := parseMessage_serializeQuery (by decide) hwire
  exact ⟨wire, message, hwire, hparse, hquestions⟩

/-! ## Encoding what was decoded -/

variable {packet : Bytes} {limits : ParseLimits} {offset next : Nat}

/-- Without pointers a question stands in the packet as the writer writes it. -/
theorem QuestionAt.chunkAt (hpointers : limits.maximumCompressionPointers = 0) {question : Question}
    (h : QuestionAt packet limits offset question next) :
    ChunkAt packet offset (questionWire question) next := by
  obtain ⟨labels, afterName, hok, hname, hlabels, hwords⟩ := h
  obtain ⟨jumps, hname, hlimit, -⟩ := hname.encoded
  rw [hpointers, Nat.le_zero, List.length_eq_zero_iff] at hlimit
  subst hlimit
  have hboth := hname.chunkAt.append hwords
  rw [questionWire, hlabels, List.append_assoc]
  exact hboth

theorem Sequence.chunkAt {Item : Type} {At : Nat → Item → Nat → Prop} {items : List Item}
    (h : Sequence At offset items next) (wire : Item → Bytes)
    (hat : ∀ {first last : Nat} {item : Item}, At first item last →
      ChunkAt packet first (wire item) last) :
    ChunkAt packet offset (items.flatMap wire) next := by
  induction h with
  | nil => exact ⟨rfl, rfl⟩
  | cons hitem hitems ih => exact (hat hitem).append ih

theorem Sequence.eq_of_nil {Item : Type} {At : Nat → Item → Nat → Prop}
    (h : Sequence At offset [] next) : next = offset := by
  cases h
  rfl

theorem queryHeader_eq_self {header : Header} (hauthoritative : header.authoritativeAnswer = false)
    (htruncated : header.truncated = false) (hrecursion : header.recursionAvailable = false)
    (hcode : header.responseCode = ResponseCode.noError.code) : queryHeader header = header := by
  cases header
  simp only at hauthoritative htruncated hrecursion hcode
  subst hauthoritative htruncated hrecursion hcode
  rfl

/-- Encode undoes decode: a query that was parsed without compression pointers,
and that has no records and none of the bits of a response, is written as it
was. -/
theorem serializeQuery_parseMessage {packet : Bytes} {message : Message}
    (hparse : parseMessage packet { maximumCompressionPointers := 0 } = .ok message)
    (hquery : message.header.isResponse = false)
    (hauthoritative : message.header.authoritativeAnswer = false)
    (htruncated : message.header.truncated = false)
    (hrecursion : message.header.recursionAvailable = false)
    (hcode : message.header.responseCode = ResponseCode.noError.code)
    (hanswers : message.answers = []) (hauthorities : message.authorities = [])
    (hadditionals : message.additionals = []) :
    serializeQuery message.header message.questions 65535 = .ok packet := by
  have hmessage := parseMessage_iff.mp hparse
  obtain ⟨words, questionsEnd, answersEnd, authoritiesEnd, recordsEnd, hwords, hheader, -,
    hquestionCount, hanswerCount, hauthorityCount, hadditionalCount, hquestionsAt, hanswersAt,
    hauthoritiesAt, hadditionalsAt, htrailing⟩ := hmessage.sections
  rw [hanswers] at hanswerCount hanswersAt
  rw [hauthorities] at hauthorityCount hauthoritiesAt
  rw [hadditionals] at hadditionalCount hadditionalsAt
  -- the questions end where the packet ends
  have hend : questionsEnd = packet.length := by
    rw [← hanswersAt.eq_of_nil, ← hauthoritiesAt.eq_of_nil, ← hadditionalsAt.eq_of_nil]
    exact htrailing rfl
  have hwhole := hwords.append
    (hquestionsAt.chunkAt questionWire (QuestionAt.chunkAt rfl))
  have hpacket : packet = words.wire ++ message.questions.flatMap questionWire := by
    have hdrop := hwhole.1
    rwa [List.drop_zero, hend, List.drop_length, List.append_nil] at hdrop
  have hzero : ∀ {count : UInt16}, ([] : List ResourceRecord).length = count.toNat → count = 0 :=
    fun h => UInt16.toNat_inj.mp h.symm
  have hcount : UInt16.ofNat message.questions.length = words.questionCount := by
    rw [hquestionCount, UInt16.ofNat_toNat]
  have himage : questionMessageWire words.id words.flags message.questions = packet := by
    rw [hpacket, questionMessageWire, hcount, headerWire, HeaderWords.wire, hzero hanswerCount,
      hzero hauthorityCount, hzero hadditionalCount]
    simp only [List.append_assoc]
  have hflags : encodeFlags message.header = .ok words.flags := by
    rw [hheader]
    exact encodeFlags_decodeFlags words.id words.flags
  have hsame := queryHeader_eq_self hauthoritative htruncated hrecursion hcode
  have hsmall : message.questions.length ≤ 65535 := by
    rw [hquestionCount]
    have := words.questionCount.toNat_lt
    omega
  have hid : message.header.id = words.id := by
    rw [hheader]
    rfl
  rw [serializeQuery, if_neg (by simp [hquery])]
  change writeQuestionMessage (queryHeader message.header) message.questions 65535 = _
  rw [hsame, writeQuestionMessage_eq (Nat.le_refl _) hsmall hflags, hid, himage,
    if_pos hmessage.size]

/-- A query for the addresses of `WwW` with the bits RD, AD and CD. -/
theorem serialized_mixed_case_query :
    ∃ message, parseMessage [0x12, 0x34, 1, 0x30, 0, 1, 0, 0, 0, 0, 0, 0, 3, 0x57, 0x77, 0x57, 0,
        0, 28, 0, 1] { maximumCompressionPointers := 0 } = .ok message ∧
      serializeQuery message.header message.questions 65535 =
        .ok [0x12, 0x34, 1, 0x30, 0, 1, 0, 0, 0, 0, 0, 0, 3, 0x57, 0x77, 0x57, 0, 0, 28, 0, 1] := by
  obtain ⟨message, hparse, hfacts⟩ : ∃ message, parseMessage [0x12, 0x34, 1, 0x30, 0, 1, 0, 0, 0, 0,
        0, 0, 3, 0x57, 0x77, 0x57, 0, 0, 28, 0, 1]
          { maximumCompressionPointers := 0 } = .ok message ∧
      (message.header.isResponse = false ∧ message.header.authoritativeAnswer = false ∧
        message.header.truncated = false ∧ message.header.recursionAvailable = false ∧
        message.header.responseCode = ResponseCode.noError.code ∧ message.answers = [] ∧
        message.authorities = [] ∧ message.additionals = []) :=
    ⟨_, rfl, by decide⟩
  obtain ⟨hquery, hauthoritative, htruncated, hrecursion, hcode, hanswers, hauthorities,
    hadditionals⟩ := hfacts
  exact ⟨message, hparse, serializeQuery_parseMessage hparse hquery hauthoritative htruncated
    hrecursion hcode hanswers hauthorities hadditionals⟩

end DnsPro.Protocol
