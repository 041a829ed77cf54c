import DnsPro.Lib.Result
import DnsPro.Protocol.Message

/-!
# The wire writer

`protocol/DnsWriter.cpp` and the `WireWriter` of `protocol/Wire.h`.  The
writer's state is the byte list so far.  Each write appends one chunk, or
fails when the chunk does not fit in the maximum size, and every caller turns
a failure into `MessageTooLarge`.

Two writes in a row are one write of the joined chunk (`append_bind`), so
every message is written by one `append` of its whole image.  That gives the
exact size law of each writer: `writeQuestionMessage_eq` and
`writeAddressMessage_eq`.
-/

namespace DnsPro.Protocol

inductive WriteErrorCode where
  | messageTooLarge
  | tooManyQuestions
  | tooManyAnswers
  | invalidOpcode
  | invalidResponseCode
  | invalidMaximumSize
  | expectedQuery
  | missingTransactionId
  | wrongQuestionCount
  | unsupportedAddressType
  | invalidAddressLength
  | missingAnswers
  deriving DecidableEq, Repr

structure WriteError where
  code : WriteErrorCode
  deriving DecidableEq, Repr

/-! ## `WireWriter` -/

/-- `write_bytes`, with the check of `can_append`. -/
def append (maximumSize : Nat) (chunk bytes : Bytes) : Option Bytes :=
  if bytes.length ≤ maximumSize ∧ chunk.length ≤ maximumSize - bytes.length then
    some (bytes ++ chunk)
  else none

/-- The bytes of a 16-bit value in network order. -/
def bytes16 (value : UInt16) : Bytes :=
  [(value >>> 8).toUInt8, value.toUInt8]

/-- The bytes of a 32-bit value in network order. -/
def bytes32 (value : UInt32) : Bytes :=
  [(value >>> 24).toUInt8, (value >>> 16).toUInt8, (value >>> 8).toUInt8, value.toUInt8]

/-- `write_u8`. -/
def writeU8 (maximumSize : Nat) (value : UInt8) (bytes : Bytes) : Option Bytes :=
  append maximumSize [value] bytes

/-- `write_u16`. -/
def writeU16 (maximumSize : Nat) (value : UInt16) (bytes : Bytes) : Option Bytes :=
  append maximumSize (bytes16 value) bytes

/-- `write_u32`. -/
def writeU32 (maximumSize : Nat) (value : UInt32) (bytes : Bytes) : Option Bytes :=
  append maximumSize (bytes32 value) bytes

/-! ## Messages -/

/-- The mask of a flag that is set. -/
def flagBit (flag : Bool) (mask : UInt16) : UInt16 :=
  if flag then mask else 0

/-- `encode_flags`. -/
def encodeFlags (header : Header) : Except WriteError UInt16 :=
  if header.opcode > 0x0f then .error ⟨.invalidOpcode⟩
  else if header.responseCode > 0x0f then .error ⟨.invalidResponseCode⟩
  else
    .ok (flagBit header.isResponse 0x8000 |||
      header.opcode.toUInt16 <<< 11 |||
      flagBit header.authoritativeAnswer 0x0400 |||
      flagBit header.truncated 0x0200 |||
      flagBit header.recursionDesired 0x0100 |||
      flagBit header.recursionAvailable 0x0080 |||
      flagBit header.reservedZ 0x0040 |||
      flagBit header.authenticatedData 0x0020 |||
      flagBit header.checkingDisabled 0x0010 |||
      header.responseCode.toUInt16)

/-- The label loop of `write_name`. -/
def writeLabels (maximumSize : Nat) : List Bytes → Bytes → Option Bytes
  | [], bytes => some bytes
  | label :: rest, bytes => do
    let bytes ← writeU8 maximumSize (UInt8.ofNat label.length) bytes
    let bytes ← append maximumSize label bytes
    writeLabels maximumSize rest bytes

/-- `write_name`. -/
def writeName (maximumSize : Nat) (name : DomainName) (bytes : Bytes) : Option Bytes := do
  let bytes ← writeLabels maximumSize name.labels bytes
  writeU8 maximumSize 0 bytes

/-- The six header words. -/
def writeHeader (maximumSize : Nat) (id flags questions answers : UInt16) : Option Bytes := do
  let bytes ← writeU16 maximumSize id []
  let bytes ← writeU16 maximumSize flags bytes
  let bytes ← writeU16 maximumSize questions bytes
  let bytes ← writeU16 maximumSize answers bytes
  let bytes ← writeU16 maximumSize 0 bytes
  writeU16 maximumSize 0 bytes

/-- A question of either message. -/
def writeQuestion (maximumSize : Nat) (question : Question) (bytes : Bytes) : Option Bytes := do
  let bytes ← writeName maximumSize question.name bytes
  let bytes ← writeU16 maximumSize question.type bytes
  writeU16 maximumSize question.questionClass bytes

/-- The question loop of `write_question_message`. -/
def writeQuestions (maximumSize : Nat) : List Question → Bytes → Option Bytes
  | [], bytes => some bytes
  | question :: rest, bytes => do
    let bytes ← writeQuestion maximumSize question bytes
    writeQuestions maximumSize rest bytes

/-- The failure of any write of a message. -/
def fitted : Option Bytes → Except WriteError Bytes
  | some bytes => .ok bytes
  | none => .error ⟨.messageTooLarge⟩

/-- `write_question_message`. -/
def writeQuestionMessage (header : Header) (questions : List Question) (maximumSize : Nat) :
    Except WriteError Bytes :=
  if maximumSize > 65535 then .error ⟨.invalidMaximumSize⟩
  else if questions.length > 65535 then .error ⟨.tooManyQuestions⟩
  else do
    let flags ← encodeFlags header
    fitted do
      let bytes ← writeHeader maximumSize header.id flags (UInt16.ofNat questions.length) 0
      writeQuestions maximumSize questions bytes

/-- One answer of `write_address_message`: a pointer to the only question. -/
def writeAddress (maximumSize : Nat) (question : Question) (ttl : UInt32) (address : Bytes)
    (bytes : Bytes) : Option Bytes := do
  let bytes ← writeU16 maximumSize 0xc00c bytes
  let bytes ← writeU16 maximumSize question.type bytes
  let bytes ← writeU16 maximumSize question.questionClass bytes
  let bytes ← writeU32 maximumSize ttl bytes
  let bytes ← writeU16 maximumSize (UInt16.ofNat address.length) bytes
  append maximumSize address bytes

/-- The answer loop of `write_address_message`. -/
def writeAddresses (maximumSize : Nat) (question : Question) (ttl : UInt32) :
    List Bytes → Bytes → Option Bytes
  | [], bytes => some bytes
  | address :: rest, bytes => do
    let bytes ← writeAddress maximumSize question ttl address bytes
    writeAddresses maximumSize question ttl rest bytes

/-- The RDATA length of an address type. -/
def addressSize? (type : UInt16) : Option Nat :=
  if type = RecordType.a.code then some 4
  else if type = RecordType.aaaa.code then some 16
  else none

/-- `write_address_message`. -/
def writeAddressMessage (header : Header) (question : Question) (answers : List Bytes)
    (ttl : UInt32) (maximumSize : Nat) : Except WriteError Bytes :=
  if maximumSize > 65535 then .error ⟨.invalidMaximumSize⟩
  else if answers.isEmpty then .error ⟨.missingAnswers⟩
  else if answers.length > 65535 then .error ⟨.tooManyAnswers⟩
  else
    match addressSize? question.type with
    | none => .error ⟨.unsupportedAddressType⟩
    | some expectedSize =>
      if answers.any fun answer => answer.length ≠ expectedSize then
        .error ⟨.invalidAddressLength⟩
      else do
        let flags ← encodeFlags header
        fitted do
          let bytes ← writeHeader maximumSize header.id flags 1 (UInt16.ofNat answers.length)
          let bytes ← writeQuestion maximumSize question bytes
          writeAddresses maximumSize question ttl answers bytes

/-! ## Entry points -/

/-- `serialize_query`. -/
def serializeQuery (header : Header) (questions : List Question) (maximumSize : Nat) :
    Except WriteError Bytes :=
  if header.isResponse then .error ⟨.expectedQuery⟩
  else
    writeQuestionMessage
      { header with
        authoritativeAnswer := false
        truncated := false
        recursionAvailable := false
        responseCode := ResponseCode.noError.code }
      questions maximumSize

/-- `rewrite_transaction_id`. -/
def rewriteTransactionId (packet : Bytes) (transactionId : UInt16) : Except WriteError Bytes :=
  match packet with
  | _ :: _ :: rest => .ok (bytes16 transactionId ++ rest)
  | _ => .error ⟨.missingTransactionId⟩

/-- The header that the response writers derive from a request. -/
def responseHeader (request : Header) (responseCode : ResponseCode) (recursionAvailable : Bool) :
    Header where
  id := request.id
  isResponse := true
  opcode := request.opcode
  recursionDesired := request.recursionDesired
  recursionAvailable := recursionAvailable
  checkingDisabled := request.checkingDisabled
  responseCode := responseCode.code

/-- `make_error_response`. -/
def makeErrorResponse (request : Message) (responseCode : ResponseCode) (recursionAvailable : Bool)
    (maximumSize : Nat) : Except WriteError Bytes :=
  if request.header.isResponse then .error ⟨.expectedQuery⟩
  else
    let header := responseHeader request.header responseCode recursionAvailable
    match writeQuestionMessage header request.questions maximumSize with
    -- the question is left out rather than cut
    | .error ⟨.messageTooLarge⟩ => writeQuestionMessage header [] maximumSize
    | response => response

/-- `make_header_only_error_response`. -/
def makeHeaderOnlyErrorResponse (requestPrefix : Bytes) (responseCode : ResponseCode)
    (recursionAvailable : Bool) (maximumSize : Nat) : Except WriteError Bytes :=
  match requestPrefix with
  | high :: low :: rest =>
    let header : Header := {
      id := high.toUInt16 <<< 8 ||| low.toUInt16
      isResponse := true
      recursionAvailable := recursionAvailable
      responseCode := responseCode.code }
    match rest with
    | [] => writeQuestionMessage header [] maximumSize
    | highFlags :: rest =>
      if highFlags &&& 0x80 ≠ 0 then .error ⟨.expectedQuery⟩
      else
        let header := { header with
          opcode := (highFlags >>> 3) &&& 0x0f
          recursionDesired := highFlags &&& 0x01 ≠ 0 }
        match rest with
        | [] => writeQuestionMessage header [] maximumSize
        | lowFlags :: _ =>
          writeQuestionMessage { header with checkingDisabled := lowFlags &&& 0x10 ≠ 0 } []
            maximumSize
  | _ => .error ⟨.missingTransactionId⟩

/-- `make_format_error_response`. -/
def makeFormatErrorResponse (malformedRequest : Bytes) (recursionAvailable : Bool)
    (maximumSize : Nat) : Except WriteError Bytes :=
  makeHeaderOnlyErrorResponse malformedRequest .formErr recursionAvailable maximumSize

/-- `make_address_response`. -/
def makeAddressResponse (request : Message) (answers : List Bytes) (ttl : UInt32)
    (recursionAvailable : Bool) (maximumSize : Nat) : Except WriteError Bytes :=
  if request.header.isResponse then .error ⟨.expectedQuery⟩
  else
    match request.questions with
    | [question] =>
      writeAddressMessage (responseHeader request.header .noError recursionAvailable) question
        answers ttl maximumSize
    | _ => .error ⟨.wrongQuestionCount⟩

/-! ## One message is one append -/

/-- Two writes in a row are one write. -/
@[simp] theorem append_bind (maximumSize : Nat) (first second bytes : Bytes) :
    ((append maximumSize first bytes) >>= append maximumSize second) =
      append maximumSize (first ++ second) bytes := by
  unfold append
  by_cases h : bytes.length ≤ maximumSize ∧ first.length ≤ maximumSize - bytes.length
  · rw [if_pos h]
    simp only [Option.bind_eq_bind, Option.bind_some, List.length_append, List.append_assoc]
    by_cases h' : first.length + second.length ≤ maximumSize - bytes.length
    · rw [if_pos (by omega), if_pos (by omega)]
    · rw [if_neg (by omega), if_neg (by omega)]
  · rw [if_neg h, if_neg (by simp only [List.length_append]; omega)]
    rfl

theorem append_nil {maximumSize : Nat} {bytes : Bytes} (h : bytes.length ≤ maximumSize) :
    append maximumSize [] bytes = some bytes := by
  simp [append, h]

/-- The image of a list of chunks written one after the other. -/
theorem append_some_iff {maximumSize : Nat} {chunk bytes result : Bytes} :
    append maximumSize chunk bytes = some result ↔
      bytes.length + chunk.length ≤ maximumSize ∧ result = bytes ++ chunk := by
  unfold append
  split_ifs with h
  · simp only [Option.some.injEq]
    constructor
    · intro heq; exact ⟨by omega, heq.symm⟩
    · rintro ⟨_, rfl⟩; rfl
  · constructor
    · intro h; exact absurd h (by simp)
    · rintro ⟨hle, _⟩; exact absurd ⟨by omega, by omega⟩ h

/-- The wire form of a question. -/
def questionWire (question : Question) : Bytes :=
  wireOf question.name.labels ++ bytes16 question.type ++ bytes16 question.questionClass

/-- The wire form of an address record that points at the question. -/
def addressWire (question : Question) (ttl : UInt32) (address : Bytes) : Bytes :=
  bytes16 0xc00c ++ bytes16 question.type ++ bytes16 question.questionClass ++ bytes32 ttl ++
    bytes16 (UInt16.ofNat address.length) ++ address

/-- The wire form of a header. -/
def headerWire (id flags questions answers : UInt16) : Bytes :=
  bytes16 id ++ bytes16 flags ++ bytes16 questions ++ bytes16 answers ++ bytes16 0 ++ bytes16 0

theorem writeLabels_eq (maximumSize : Nat) (labels : List Bytes) {bytes : Bytes}
    (h : bytes.length ≤ maximumSize) :
    writeLabels maximumSize labels bytes = append maximumSize (wireLabels labels) bytes := by
  induction labels generalizing bytes with
  | nil => rw [wireLabels_nil, append_nil h]; rfl
  | cons label rest ih =>
    have hchunk : UInt8.ofNat label.length :: (label ++ wireLabels rest) =
        ([UInt8.ofNat label.length] ++ label) ++ wireLabels rest := by simp
    rw [writeLabels, wireLabels_cons, hchunk, ← append_bind, ← append_bind, writeU8]
    cases h1 : append maximumSize [UInt8.ofNat label.length] bytes with
    | none => rfl
    | some first =>
      simp only [Option.bind_eq_bind, Option.bind_some]
      cases h2 : append maximumSize label first with
      | none => rfl
      | some second =>
        obtain ⟨hlen, rfl⟩ := append_some_iff.mp h2
        exact ih (by simpa using hlen)

theorem writeName_eq (maximumSize : Nat) (name : DomainName) {bytes : Bytes}
    (h : bytes.length ≤ maximumSize) :
    writeName maximumSize name bytes = append maximumSize (wireOf name.labels) bytes := by
  rw [writeName, writeLabels_eq maximumSize name.labels h, wireOf, ← append_bind]
  rfl

theorem writeQuestion_eq (maximumSize : Nat) (question : Question) {bytes : Bytes}
    (h : bytes.length ≤ maximumSize) :
    writeQuestion maximumSize question bytes =
      append maximumSize (questionWire question) bytes := by
  rw [writeQuestion, writeName_eq maximumSize question.name h, questionWire, ← append_bind,
    ← append_bind, bind_assoc]
  rfl

theorem writeQuestions_eq (maximumSize : Nat) (questions : List Question) {bytes : Bytes}
    (h : bytes.length ≤ maximumSize) :
    writeQuestions maximumSize questions bytes =
      append maximumSize (questions.flatMap questionWire) bytes := by
  induction questions generalizing bytes with
  | nil => rw [List.flatMap_nil, append_nil h]; rfl
  | cons question rest ih =>
    rw [writeQuestions, writeQuestion_eq maximumSize question h, List.flatMap_cons, ← append_bind]
    cases h1 : append maximumSize (questionWire question) bytes with
    | none => rfl
    | some first =>
      obtain ⟨hlen, rfl⟩ := append_some_iff.mp h1
      exact ih (by simpa using hlen)

theorem writeAddresses_eq (maximumSize : Nat) (question : Question) (ttl : UInt32)
    (addresses : List Bytes) {bytes : Bytes} (h : bytes.length ≤ maximumSize) :
    writeAddresses maximumSize question ttl addresses bytes =
      append maximumSize (addresses.flatMap (addressWire question ttl)) bytes := by
  induction addresses generalizing bytes with
  | nil => rw [List.flatMap_nil, append_nil h]; rfl
  | cons address rest ih =>
    have hone : writeAddress maximumSize question ttl address bytes =
        append maximumSize (addressWire question ttl address) bytes := by
      rw [writeAddress, addressWire, ← append_bind, ← append_bind, ← append_bind, ← append_bind,
        ← append_bind]
      simp only [bind_assoc]
      rfl
    rw [writeAddresses, hone, List.flatMap_cons, ← append_bind]
    cases h1 : append maximumSize (addressWire question ttl address) bytes with
    | none => rfl
    | some first =>
      obtain ⟨hlen, rfl⟩ := append_some_iff.mp h1
      exact ih (by simpa using hlen)

theorem writeHeader_eq (maximumSize : Nat) (id flags questions answers : UInt16) :
    writeHeader maximumSize id flags questions answers =
      append maximumSize (headerWire id flags questions answers) [] := by
  rw [writeHeader, headerWire, ← append_bind, ← append_bind, ← append_bind, ← append_bind,
    ← append_bind]
  simp only [bind_assoc]
  rfl

/-- The image of a question message. -/
def questionMessageWire (id flags : UInt16) (questions : List Question) : Bytes :=
  headerWire id flags (UInt16.ofNat questions.length) 0 ++ questions.flatMap questionWire

/-- The image of an address message. -/
def addressMessageWire (id flags : UInt16) (question : Question) (ttl : UInt32)
    (answers : List Bytes) : Bytes :=
  headerWire id flags 1 (UInt16.ofNat answers.length) ++ questionWire question ++
    answers.flatMap (addressWire question ttl)

theorem fitted_append (maximumSize : Nat) (image : Bytes) :
    fitted (append maximumSize image []) =
      if image.length ≤ maximumSize then .ok image else .error ⟨.messageTooLarge⟩ := by
  unfold append
  simp only [List.length_nil, Nat.zero_le, true_and, Nat.sub_zero, List.nil_append]
  split_ifs <;> rfl

/-- `write_question_message` writes the whole image, or nothing. -/
theorem writeQuestionMessage_eq {header : Header} {questions : List Question} {maximumSize : Nat}
    {flags : UInt16} (hmax : maximumSize ≤ 65535) (hcount : questions.length ≤ 65535)
    (hflags : encodeFlags header = .ok flags) :
    writeQuestionMessage header questions maximumSize =
      if (questionMessageWire header.id flags questions).length ≤ maximumSize then
        .ok (questionMessageWire header.id flags questions)
      else .error ⟨.messageTooLarge⟩ := by
  rw [writeQuestionMessage, if_neg (by omega), if_neg (by omega), hflags, Result.ok_bind,
    ← fitted_append, questionMessageWire, ← append_bind, writeHeader_eq]
  congr 1
  cases h1 : append maximumSize (headerWire header.id flags (UInt16.ofNat questions.length) 0)
      [] with
  | none => rfl
  | some first =>
    obtain ⟨hlen, rfl⟩ := append_some_iff.mp h1
    exact writeQuestions_eq maximumSize questions (by simpa using hlen)

/-- `write_address_message` writes the whole image, or nothing. -/
theorem writeAddressMessage_eq {header : Header} {question : Question} {answers : List Bytes}
    {ttl : UInt32} {maximumSize size : Nat} {flags : UInt16} (hmax : maximumSize ≤ 65535)
    (hne : answers ≠ []) (hcount : answers.length ≤ 65535)
    (htype : addressSize? question.type = some size)
    (hsizes : ∀ answer ∈ answers, answer.length = size)
    (hflags : encodeFlags header = .ok flags) :
    writeAddressMessage header question answers ttl maximumSize =
      if (addressMessageWire header.id flags question ttl answers).length ≤ maximumSize then
        .ok (addressMessageWire header.id flags question ttl answers)
      else .error ⟨.messageTooLarge⟩ := by
  have hempty : ¬ answers.isEmpty = true := by simpa using hne
  have hany : ¬ (answers.any fun answer => answer.length ≠ size) = true := by
    simpa using hsizes
  rw [writeAddressMessage, if_neg (by omega), if_neg hempty, if_neg (by omega), htype]
  simp only
  rw [if_neg hany, hflags, Result.ok_bind, ← fitted_append, addressMessageWire, ← append_bind,
    ← append_bind, writeHeader_eq, bind_assoc]
  congr 1
  cases h1 : append maximumSize (headerWire header.id flags 1 (UInt16.ofNat answers.length))
      [] with
  | none => rfl
  | some first =>
    obtain ⟨hlen, rfl⟩ := append_some_iff.mp h1
    simp only [Option.bind_eq_bind, Option.bind_some]
    rw [writeQuestion_eq maximumSize question (by simpa using hlen)]
    cases h2 : append maximumSize (questionWire question)
        ([] ++ headerWire header.id flags 1 (UInt16.ofNat answers.length)) with
    | none => rfl
    | some second =>
      obtain ⟨hlen, rfl⟩ := append_some_iff.mp h2
      exact writeAddresses_eq maximumSize question ttl answers (by simpa using hlen)

end DnsPro.Protocol
