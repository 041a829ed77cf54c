import DnsPro.Protocol.Grammar

/-!
# The parser reads what the writer wrote

A chunk stands at an offset of a packet when the packet from that offset on is
the chunk followed by something.  The lemmas go through the grammar bottom up:
a name (`decodeName_plain`), a name behind a compression pointer
(`decodeName_pointer`), a question, an address record, a section, and the two
messages `questionMessageWire` and `addressMessageWire`.
-/

namespace DnsPro.Protocol

/-! ## Names -/

/-- An uncompressed name. -/
theorem decodeName_plain {packet rest : Bytes} {start encodedEnd : Nat} {labels : List Bytes}
    (limits : ParseLimits) (hok : LabelsOk labels)
    (hdrop : packet.drop start = wireOf labels ++ rest)
    (hend : start + wireSizeOf labels ≤ encodedEnd) :
    decodeName packet start encodedEnd limits =
      .ok ⟨DomainName.ofLabels labels hok, start + wireSizeOf labels⟩ := by
  have hname := nameAt_of_drop hok.nonempty hok.short hdrop
  exact decodeName_iff.mpr
    ⟨labels, hok, ⟨⟨[], hname, Nat.zero_le _, by simp⟩, hok.size, hend⟩, rfl⟩

/-- A compression pointer to an uncompressed name. -/
theorem decodeName_pointer {packet rest tail : Bytes} {start encodedEnd : Nat}
    {labels : List Bytes} {limits : ParseLimits} (high low : UInt8) (hok : LabelsOk labels)
    (hdrop : packet.drop start = high :: low :: rest) (hhigh : high &&& 0xc0 = 0xc0)
    (hend : start + 1 < encodedEnd) (hpointers : 0 < limits.maximumCompressionPointers)
    (hheader : dnsHeaderSize ≤ pointerTarget high low) (hback : pointerTarget high low < start)
    (htarget : packet.drop (pointerTarget high low) = wireOf labels ++ tail) :
    decodeName packet start encodedEnd limits =
      .ok ⟨DomainName.ofLabels labels hok, start + 2⟩ := by
  have hname := NameAt.pointer hhigh hdrop (nameAt_of_drop hok.nonempty hok.short htarget)
  refine decodeName_iff.mpr ⟨labels, hok, ⟨⟨_, hname, hpointers, ?_⟩, hok.size, hend⟩, rfl⟩
  rw [List.forall_mem_singleton]
  exact ⟨hheader, fun _ => hback⟩

/-! ## Questions -/

theorem length_of_drop {packet chunk rest : Bytes} {offset : Nat} (hne : chunk ≠ [])
    (h : packet.drop offset = chunk ++ rest) :
    packet.length = offset + chunk.length + rest.length := by
  have hlen := congrArg List.length h
  have hpos := List.length_pos_iff.mpr hne
  rw [List.length_drop, List.length_append] at hlen
  omega

theorem wireOf_ne_nil (labels : List Bytes) : wireOf labels ≠ [] := by
  simp [wireOf]

/-- The size law of a question. -/
theorem questionWire_length (question : Question) :
    (questionWire question).length = question.name.wireSize + 4 := by
  simp only [questionWire, List.length_append, wireOf_length, bytes16_length,
    question.name.wireSize_eq]

/-- A question whose name came from `from_labels` is parsed back as it was. -/
theorem parseQuestion_wire {packet rest : Bytes} {offset : Nat} {question : Question}
    (limits : ParseLimits)
    (hkey : question.name.canonicalKey = canonicalKeyOf question.name.labels)
    (h : packet.drop offset = questionWire question ++ rest) :
    parseQuestion packet limits offset =
      .ok (question, offset + (questionWire question).length) := by
  have hname : packet.drop offset = wireOf question.name.labels ++
      (bytes16 question.type ++ (bytes16 question.questionClass ++ rest)) := by
    rw [h, questionWire]
    simp
  have htype := drop_chunk _ hname
  have hclass := drop_chunk _ htype
  rw [wireOf_length] at htype hclass
  have hlength := length_of_drop (wireOf_ne_nil _) hname
  rw [wireOf_length] at hlength
  rw [parseQuestion, decodeName_plain limits question.name.labels_ok hname (by omega)]
  simp only [Result.ok_bind, readU16_chunk htype]
  rw [bytes16_length] at hclass
  simp only [readU16_chunk hclass, Result.ok_bind, Result.pure_eq_ok,
    ← DomainName.eq_ofLabels hkey, questionWire_length, question.name.wireSize_eq]
  simp only [Except.ok.injEq, Prod.mk.injEq, true_and]
  omega

/-! ## Address records -/

/-- What the parser makes of an address record that points at the question. -/
def AddressRecord (question : Question) (ttl : UInt32) (address : Bytes)
    (record : ResourceRecord) : Prop :=
  record.name.labels = question.name.labels ∧ record.type = question.type ∧
    record.recordClass = question.questionClass ∧ record.ttl = ttl ∧ record.rdata = address

theorem addressSize_cases {type : UInt16} {size : Nat} (h : addressSize? type = some size) :
    type = RecordType.a.code ∧ size = 4 ∨ type = RecordType.aaaa.code ∧ size = 16 := by
  rw [addressSize?] at h
  split_ifs at h with ha haaaa
  · exact Or.inl ⟨ha, (Option.some.inj h).symm⟩
  · exact Or.inr ⟨haaaa, (Option.some.inj h).symm⟩

theorem validateRdata_address {packet : Bytes} {limits : ParseLimits} {type : UInt16}
    {rdataOffset rdataEnd : Nat} {rdata : Bytes} (h : addressSize? type = some rdata.length) :
    validateRdata packet limits type rdataOffset rdataEnd rdata = .ok () := by
  rcases addressSize_cases h with ⟨rfl, hsize⟩ | ⟨rfl, hsize⟩
  · rw [validateRdata, show RecordType.ofCode? RecordType.a.code = some .a from rfl]
    simp [hsize]
  · rw [validateRdata, show RecordType.ofCode? RecordType.aaaa.code = some .aaaa from rfl]
    simp [hsize]

theorem addressWire_length (question : Question) (ttl : UInt32) (address : Bytes) :
    (addressWire question ttl address).length = 12 + address.length := by
  simp only [addressWire, List.length_append, bytes16_length, bytes32_length]

/-- An address record behind a message whose question starts at offset 12. -/
theorem parseResourceRecord_address {packet rest tail : Bytes} {offset : Nat}
    {question : Question} {ttl : UInt32} {address : Bytes} {limits : ParseLimits}
    (hpointers : 0 < limits.maximumCompressionPointers)
    (hquestion : packet.drop dnsHeaderSize = wireOf question.name.labels ++ tail)
    (hoffset : dnsHeaderSize < offset)
    (hsize : addressSize? question.type = some address.length)
    (h : packet.drop offset = addressWire question ttl address ++ rest) :
    ∃ record, parseResourceRecord packet limits offset =
        .ok (record, offset + (addressWire question ttl address).length) ∧
      AddressRecord question ttl address record := by
  have hpointer : packet.drop offset = bytes16 0xc00c ++ (bytes16 question.type ++
      (bytes16 question.questionClass ++ (bytes32 ttl ++
        (bytes16 (UInt16.ofNat address.length) ++ (address ++ rest))))) := by
    rw [h, addressWire]
    simp
  have hcount : (UInt16.ofNat address.length).toNat = address.length := by
    rcases addressSize_cases hsize with ⟨_, hsize⟩ | ⟨_, hsize⟩ <;> rw [hsize] <;> rfl
  have htype := drop_chunk _ hpointer
  have hclass := drop_chunk _ htype
  have httl := drop_chunk _ hclass
  have hlength := drop_chunk _ httl
  have hrdata := drop_chunk _ hlength
  simp only [bytes16_length, bytes32_length] at htype hclass httl hlength hrdata
  have hpacket := length_of_drop (by simp [bytes16]) hpointer
  simp only [bytes16_length] at hpacket
  have htarget : pointerTarget 0xc0 0x0c = dnsHeaderSize := rfl
  have hname : decodeName packet offset packet.length limits =
      .ok ⟨DomainName.ofLabels question.name.labels question.name.labels_ok, offset + 2⟩ := by
    refine decodeName_pointer 0xc0 0x0c question.name.labels_ok hpointer rfl
      (by omega) hpointers (by rw [htarget]) (by rw [htarget]; exact hoffset)
      (by rw [htarget]; exact hquestion)
  refine ⟨⟨DomainName.ofLabels question.name.labels question.name.labels_ok, question.type,
    question.questionClass, ttl, offset + 12, address⟩, ?_, rfl, rfl, rfl, rfl, rfl⟩
  rw [parseResourceRecord, hname]
  simp only [Result.ok_bind, readU16_chunk htype, readU16_chunk hclass, readU32_chunk httl,
    readU16_chunk hlength, readBytes_chunk hrdata rfl, validateRdata_address hsize,
    Result.pure_eq_ok, addressWire_length, hcount]
  simp only [Except.ok.injEq, Prod.mk.injEq]
  constructor
  · simp
  · omega

/-! ## Sections -/

theorem parseSection_questions {packet : Bytes} (limits : ParseLimits) :
    ∀ (questions : List Question) (offset : Nat) (rest : Bytes),
      (∀ question ∈ questions,
        question.name.canonicalKey = canonicalKeyOf question.name.labels) →
      packet.drop offset = questions.flatMap questionWire ++ rest →
      parseSection (parseQuestion packet limits) questions.length offset =
        .ok (questions, offset + (questions.flatMap questionWire).length) := by
  intro questions
  induction questions with
  | nil => intro offset rest _ _; simp [parseSection]
  | cons question questions ih =>
    intro offset rest hkeys h
    rw [List.flatMap_cons, List.append_assoc] at h
    rw [List.length_cons, parseSection,
      parseQuestion_wire limits (hkeys question (by simp)) h]
    simp only [Result.ok_bind]
    rw [ih _ rest (fun q hq => hkeys q (by simp [hq])) (drop_chunk _ h)]
    simp only [Result.ok_bind, Result.pure_eq_ok, List.flatMap_cons, List.length_append,
      Nat.add_assoc]

theorem parseSection_addresses {packet tail : Bytes} {limits : ParseLimits} {question : Question}
    {ttl : UInt32} (hpointers : 0 < limits.maximumCompressionPointers)
    (hquestion : packet.drop dnsHeaderSize = wireOf question.name.labels ++ tail) :
    ∀ (addresses : List Bytes) (offset : Nat) (rest : Bytes),
      dnsHeaderSize < offset →
      (∀ address ∈ addresses, addressSize? question.type = some address.length) →
      packet.drop offset = addresses.flatMap (addressWire question ttl) ++ rest →
      ∃ records, parseSection (parseResourceRecord packet limits) addresses.length offset =
          .ok (records, offset + (addresses.flatMap (addressWire question ttl)).length) ∧
        List.Forall₂ (AddressRecord question ttl) addresses records := by
  intro addresses
  induction addresses with
  | nil => intro offset rest _ _ _; exact ⟨[], by simp [parseSection], List.Forall₂.nil⟩
  | cons address addresses ih =>
    intro offset rest hoffset hsizes h
    rw [List.flatMap_cons, List.append_assoc] at h
    obtain ⟨record, hrecord, hspec⟩ := parseResourceRecord_address hpointers hquestion hoffset
      (hsizes address (by simp)) h
    obtain ⟨records, hrecords, hall⟩ := ih _ rest (by omega)
      (fun a ha => hsizes a (by simp [ha])) (drop_chunk _ h)
    refine ⟨record :: records, ?_, List.Forall₂.cons hspec hall⟩
    rw [List.length_cons, parseSection, hrecord]
    simp only [Result.ok_bind]
    rw [hrecords]
    simp only [Result.ok_bind, Result.pure_eq_ok, List.flatMap_cons, List.length_append,
      Nat.add_assoc]

/-! ## Messages -/

theorem headerWire_length (id flags questions answers : UInt16) :
    (headerWire id flags questions answers).length = dnsHeaderSize := rfl

theorem readHeader_wire (id flags questions answers : UInt16) (rest : Bytes) :
    readHeader (headerWire id flags questions answers ++ rest) =
      .ok ⟨id, flags, questions, answers, 0, 0⟩ := by
  have hzero : be16 0 0 = 0 := rfl
  simp [readHeader, readU16, headerWire, bytes16, be16_bytes, hzero]

theorem drop_header (id flags questions answers : UInt16) (rest : Bytes) :
    (headerWire id flags questions answers ++ rest).drop dnsHeaderSize = rest := by
  rw [← headerWire_length id flags questions answers, List.drop_left]

/-- A question message within the limits is parsed back as it was written. -/
theorem parseMessage_questionMessage (limits : ParseLimits) {header : Header} {flags : UInt16}
    {questions : List Question} (hflags : encodeFlags header = .ok flags)
    (hcount : questions.length ≤ 65535) (hquestions : questions.length ≤ limits.maximumQuestions)
    (hkeys : ∀ question ∈ questions,
      question.name.canonicalKey = canonicalKeyOf question.name.labels)
    (hsize : (questionMessageWire header.id flags questions).length ≤ limits.maximumPacketSize) :
    parseMessage (questionMessageWire header.id flags questions) limits =
      .ok {
        header := header
        questions := questions
        answers := []
        authorities := []
        additionals := []
        wireImage := questionMessageWire header.id flags questions } := by
  have hnat : (UInt16.ofNat questions.length).toNat = questions.length := by
    rw [UInt16.toNat_ofNat']
    exact Nat.mod_eq_of_lt (by omega)
  have hdrop := drop_header header.id flags (UInt16.ofNat questions.length) 0
    (questions.flatMap questionWire)
  have hsection := parseSection_questions limits questions dnsHeaderSize [] hkeys
    (by rw [hdrop, List.append_nil])
  have himage : questionMessageWire header.id flags questions =
      headerWire header.id flags (UInt16.ofNat questions.length) 0 ++
        questions.flatMap questionWire := rfl
  have hlength : (headerWire header.id flags (UInt16.ofNat questions.length) 0 ++
      questions.flatMap questionWire).length =
      dnsHeaderSize + (questions.flatMap questionWire).length := by
    rw [List.length_append, headerWire_length]
  rw [himage] at hsize ⊢
  rw [parseMessage, if_neg (by omega)]
  simp only [Result.pure_eq_ok, Result.ok_bind, readHeader_wire, checkCounts, hnat,
    show (0 : UInt16).toNat = 0 from rfl]
  rw [if_neg (by omega), if_neg (by omega), if_neg (by omega)]
  simp only [Result.ok_bind, hsection, parseSection_zero]
  rw [if_neg (by rw [hlength]; simp)]
  simp only [decodeFlags_encodeFlags hflags]

/-- The size law of an address message. -/
theorem addressMessageWire_length {answers : List Bytes} {size : Nat} (id flags : UInt16)
    (question : Question) (ttl : UInt32) (h : ∀ answer ∈ answers, answer.length = size) :
    (addressMessageWire id flags question ttl answers).length =
      dnsHeaderSize + (question.name.wireSize + 4) + answers.length * (12 + size) := by
  have hanswers : (answers.flatMap (addressWire question ttl)).length =
      answers.length * (12 + size) := by
    induction answers with
    | nil => simp
    | cons answer answers ih =>
      rw [List.flatMap_cons, List.length_append, addressWire_length,
        ih (fun a ha => h a (by simp [ha])), h answer (by simp), List.length_cons, Nat.succ_mul]
      omega
  rw [addressMessageWire, List.length_append, List.length_append, headerWire_length,
    questionWire_length, hanswers]

/-- An address message within the limits is parsed back: the header, the
question, and one record for each address, in order. -/
theorem parseMessage_addressMessage (limits : ParseLimits) {header : Header} {flags : UInt16}
    {question : Question} {answers : List Bytes} {ttl : UInt32}
    (hflags : encodeFlags header = .ok flags)
    (hkey : question.name.canonicalKey = canonicalKeyOf question.name.labels)
    (hsizes : ∀ answer ∈ answers, addressSize? question.type = some answer.length)
    (hcount : answers.length ≤ 65535) (hquestions : 1 ≤ limits.maximumQuestions)
    (hpointers : 0 < limits.maximumCompressionPointers)
    (hrecords : answers.length ≤ limits.maximumRecordsPerSection)
    (htotal : answers.length ≤ limits.maximumTotalRecords)
    (hsize : (addressMessageWire header.id flags question ttl answers).length ≤
      limits.maximumPacketSize) :
    ∃ records,
      parseMessage (addressMessageWire header.id flags question ttl answers) limits =
        .ok {
          header := header
          questions := [question]
          answers := records
          authorities := []
          additionals := []
          wireImage := addressMessageWire header.id flags question ttl answers } ∧
      List.Forall₂ (AddressRecord question ttl) answers records := by
  have hnat : (UInt16.ofNat answers.length).toNat = answers.length := by
    rw [UInt16.toNat_ofNat']
    exact Nat.mod_eq_of_lt (by omega)
  have himage : addressMessageWire header.id flags question ttl answers =
      headerWire header.id flags 1 (UInt16.ofNat answers.length) ++
        (questionWire question ++ answers.flatMap (addressWire question ttl)) := by
    rw [addressMessageWire, List.append_assoc]
  have hdrop := drop_header header.id flags 1 (UInt16.ofNat answers.length)
    (questionWire question ++ answers.flatMap (addressWire question ttl))
  have hquestion := parseSection_questions limits [question] dnsHeaderSize
    (answers.flatMap (addressWire question ttl)) (by simpa using hkey)
    (by rw [hdrop]; simp)
  simp only [List.length_singleton, List.flatMap_cons, List.flatMap_nil, List.append_nil]
    at hquestion
  have hname : (headerWire header.id flags 1 (UInt16.ofNat answers.length) ++
      (questionWire question ++ answers.flatMap (addressWire question ttl))).drop dnsHeaderSize =
      wireOf question.name.labels ++ (bytes16 question.type ++ (bytes16 question.questionClass ++
        answers.flatMap (addressWire question ttl))) := by
    rw [hdrop, questionWire, List.append_assoc, List.append_assoc]
  have hlength : (headerWire header.id flags 1 (UInt16.ofNat answers.length) ++
      (questionWire question ++ answers.flatMap (addressWire question ttl))).length =
      dnsHeaderSize + (questionWire question).length +
        (answers.flatMap (addressWire question ttl)).length := by
    rw [List.length_append, headerWire_length, List.length_append]
    omega
  have hrest : (headerWire header.id flags 1 (UInt16.ofNat answers.length) ++
      (questionWire question ++ answers.flatMap (addressWire question ttl))).drop
        (dnsHeaderSize + (questionWire question).length) =
      answers.flatMap (addressWire question ttl) ++ [] := by
    rw [← List.drop_drop, hdrop, List.drop_left, List.append_nil]
  obtain ⟨records, hanswers, hall⟩ := parseSection_addresses hpointers hname answers
    (dnsHeaderSize + (questionWire question).length) []
    (by rw [questionWire_length]; omega) hsizes hrest
  refine ⟨records, ?_, hall⟩
  rw [himage] at hsize ⊢
  rw [parseMessage, if_neg (by omega)]
  simp only [Result.pure_eq_ok, Result.ok_bind, readHeader_wire, checkCounts, hnat,
    show (0 : UInt16).toNat = 0 from rfl, show (1 : UInt16).toNat = 1 from rfl]
  rw [if_neg (by omega), if_neg (by omega), if_neg (by omega)]
  simp only [Result.ok_bind, hquestion, hanswers, parseSection_zero]
  rw [if_neg (by rw [hlength]; simp)]
  simp only [decodeFlags_encodeFlags hflags]

end DnsPro.Protocol
