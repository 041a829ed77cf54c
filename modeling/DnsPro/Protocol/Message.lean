import DnsPro.Protocol.DomainName

/-!
# Messages

The data model of `protocol/DnsMessage.h`, `protocol/DnsLimits.h` and the limit
and error types of `protocol/DnsParser.h`.  The numeric fields have the width
they have in the source.
-/

namespace DnsPro.Protocol

/-- `kDnsHeaderSize`. -/
def dnsHeaderSize : Nat := 12

/-- `kClassicDnsUdpPayloadLimit`.  The four service budgets are aliases of it. -/
def classicDnsUdpPayloadLimit : Nat := 512

/-- `kDownstreamReceiveBufferSize`. -/
def downstreamReceiveBufferSize : Nat := classicDnsUdpPayloadLimit

/-- `kUpstreamQueryBudget`. -/
def upstreamQueryBudget : Nat := classicDnsUdpPayloadLimit

/-- `kUpstreamReceiveBufferSize`. -/
def upstreamReceiveBufferSize : Nat := classicDnsUdpPayloadLimit

/-- `kDownstreamResponseBudget`. -/
def downstreamResponseBudget : Nat := classicDnsUdpPayloadLimit

inductive RecordType where
  | a
  | ns
  | cname
  | soa
  | ptr
  | hinfo
  | minfo
  | mx
  | txt
  | aaaa
  | opt
  deriving DecidableEq, Repr

/-- The value of an enumerator. -/
def RecordType.code : RecordType → UInt16
  | .a => 1
  | .ns => 2
  | .cname => 5
  | .soa => 6
  | .ptr => 12
  | .hinfo => 13
  | .minfo => 14
  | .mx => 15
  | .txt => 16
  | .aaaa => 28
  | .opt => 41

/-- The enumerator that a `switch` on the cast value selects, if any. -/
def RecordType.ofCode? (code : UInt16) : Option RecordType :=
  [RecordType.a, .ns, .cname, .soa, .ptr, .hinfo, .minfo, .mx, .txt, .aaaa, .opt].find?
    fun type => type.code = code

/-- `RecordClass::IN`. -/
def classIn : UInt16 := 1

/-- `Opcode::Query`. -/
def opcodeQuery : UInt8 := 0

inductive ResponseCode where
  | noError
  | formErr
  | servFail
  | nxDomain
  | notImp
  | refused
  deriving DecidableEq, Repr

/-- The value of an enumerator. -/
def ResponseCode.code : ResponseCode → UInt8
  | .noError => 0
  | .formErr => 1
  | .servFail => 2
  | .nxDomain => 3
  | .notImp => 4
  | .refused => 5

structure Header where
  id : UInt16 := 0
  isResponse : Bool := false
  opcode : UInt8 := opcodeQuery
  authoritativeAnswer : Bool := false
  truncated : Bool := false
  recursionDesired : Bool := false
  recursionAvailable : Bool := false
  reservedZ : Bool := false
  authenticatedData : Bool := false
  checkingDisabled : Bool := false
  responseCode : UInt8 := ResponseCode.noError.code
  deriving DecidableEq

structure Question where
  name : DomainName
  type : UInt16
  questionClass : UInt16
  deriving DecidableEq

/-- `Question::operator==`, which compares the names by key. -/
def Question.same (lhs rhs : Question) : Bool :=
  lhs.name.sameName rhs.name && decide (lhs.type = rhs.type) &&
    decide (lhs.questionClass = rhs.questionClass)

structure ResourceRecord where
  name : DomainName
  type : UInt16
  recordClass : UInt16
  ttl : UInt32
  rdataOffset : Nat
  rdata : Bytes
  deriving DecidableEq

structure Message where
  header : Header
  questions : List Question
  answers : List ResourceRecord
  authorities : List ResourceRecord
  additionals : List ResourceRecord
  wireImage : Bytes
  deriving DecidableEq

/-! ## Limits and errors of the parser -/

inductive ParseErrorCode where
  | packetTooLarge
  | unexpectedEnd
  | tooManyQuestions
  | tooManyRecords
  | invalidLabelType
  | emptyLabel
  | labelTooLong
  | nameTooLong
  | truncatedCompressionPointer
  | compressionPointerOutOfBounds
  | compressionPointerIntoHeader
  | forwardCompressionPointer
  | compressionPointerLoop
  | tooManyCompressionPointers
  | invalidRdata
  | trailingData
  deriving DecidableEq, Repr

structure ParseError where
  code : ParseErrorCode
  offset : Nat
  deriving DecidableEq, Repr

structure ParseLimits where
  maximumPacketSize : Nat := 65535
  maximumQuestions : Nat := 16
  maximumRecordsPerSection : Nat := 4096
  maximumTotalRecords : Nat := 4096
  maximumCompressionPointers : Nat := 32
  requireBackwardPointers : Bool := true
  rejectTrailingData : Bool := true
  deriving DecidableEq

/-- Equal questions have names that agree up to case, when both names come
from `from_labels`. -/
theorem Question.same_iff (lhs rhs : Question) :
    lhs.same rhs = true ↔
      lhs.name.canonicalKey = rhs.name.canonicalKey ∧ lhs.type = rhs.type ∧
        lhs.questionClass = rhs.questionClass := by
  simp [Question.same, DomainName.sameName, and_assoc]

end DnsPro.Protocol
