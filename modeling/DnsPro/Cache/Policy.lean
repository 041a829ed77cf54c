import DnsPro.Cache.Shard
import DnsPro.Protocol.Message

/-!
# Which responses are cached

`CachePolicy.{h,cpp}`: the address set of a response, if the response holds
nothing else.
-/

namespace DnsPro.Cache

open DnsPro.Protocol

structure CacheableAddressSet where
  addresses : List IPAddress
  ttl : UInt32
  deriving DecidableEq

/-- The address in the RDATA of a record, by its type and size. -/
def addressOf (answer : ResourceRecord) : Option IPAddress :=
  if h : answer.type = RecordType.a.code ∧ answer.rdata.length = 4 then
    some (.v4 ⟨answer.rdata.toArray, h.2⟩)
  else if h : answer.type = RecordType.aaaa.code ∧ answer.rdata.length = 16 then
    some (.v6 ⟨answer.rdata.toArray, h.2⟩)
  else none

/-- The loop over the answers. -/
def collectAddresses (expectedQuestion : Question) :
    List ResourceRecord → CacheableAddressSet → Option CacheableAddressSet
  | [], result => some result
  | answer :: answers, result =>
    if answer.name.sameName expectedQuestion.name = false ∨ answer.type ≠ expectedQuestion.type ∨
        answer.recordClass ≠ expectedQuestion.questionClass ∨ answer.ttl = 0 then
      none
    else
      match addressOf answer with
      | none => none
      | some address =>
        collectAddresses expectedQuestion answers
          ⟨result.addresses ++ [address], min result.ttl answer.ttl⟩

/-- `cacheable_address_set`. -/
def cacheableAddressSet (response : Message) (expectedQuestion : Question) :
    Option CacheableAddressSet :=
  if response.header.isResponse = false ∨ response.header.truncated ∨
      response.header.responseCode ≠ ResponseCode.noError.code then
    none
  else
    match response.questions with
    | [question] =>
      if question.same expectedQuestion = false ∨ response.answers = [] ∨
          65535 < response.answers.length ∨ response.authorities ≠ [] ∨
          response.additionals ≠ [] then
        none
      else collectAddresses expectedQuestion response.answers ⟨[], 4294967295⟩
    | _ => none

/-! ## What is cached -/

/-- The record is an address of the question. -/
structure AddressAnswer (question : Question) (answer : ResourceRecord) (address : IPAddress) :
    Prop where
  name : answer.name.sameName question.name = true
  type : answer.type = question.type
  recordClass : answer.recordClass = question.questionClass
  ttl : answer.ttl ≠ 0
  address : addressOf answer = some address

/-- The address set of a response that holds nothing else. -/
structure Cacheable (response : Message) (question : Question) (cacheable : CacheableAddressSet) :
    Prop where
  isResponse : response.header.isResponse = true
  truncated : response.header.truncated = false
  responseCode : response.header.responseCode = ResponseCode.noError.code
  questions : ∃ answered, response.questions = [answered] ∧ answered.same question = true
  nonempty : response.answers ≠ []
  authorities : response.authorities = []
  additionals : response.additionals = []
  answers : List.Forall₂ (AddressAnswer question) response.answers cacheable.addresses
  ttl_le : ∀ answer ∈ response.answers, cacheable.ttl ≤ answer.ttl
  ttl_mem : ∃ answer ∈ response.answers, cacheable.ttl = answer.ttl

namespace Cacheable

variable {response : Message} {question : Question} {cacheable : CacheableAddressSet}

/-- Every answer is an address of the question. -/
theorem of_mem (h : Cacheable response question cacheable) {answer : ResourceRecord}
    (hanswer : answer ∈ response.answers) :
    ∃ address, AddressAnswer question answer address := by
  have hboth : List.Forall₂
    (fun answer address => (∃ address, AddressAnswer question answer address) ∧
      AddressAnswer question answer address) response.answers cacheable.addresses :=
    h.answers.imp fun _ address haddress => ⟨⟨address, haddress⟩, haddress⟩
  exact ((List.forall₂_and_left _ _).mp hboth).1 answer hanswer

end Cacheable

theorem min_ttl (left right : UInt32) :
    min left right ≤ left ∧ min left right ≤ right ∧
      (min left right = left ∨ min left right = right) := by
  show (if left ≤ right then left else right) ≤ left ∧
    (if left ≤ right then left else right) ≤ right ∧
    ((if left ≤ right then left else right) = left ∨ (if left ≤ right then left else right) = right)
  split
  · rename_i hle
    exact ⟨UInt32.le_refl _, hle, Or.inl rfl⟩
  · rename_i hnot
    exact ⟨UInt32.le_of_lt (UInt32.not_le.mp hnot), UInt32.le_refl _, Or.inr rfl⟩

/-- The loop collects the addresses in order, and the smallest TTL. -/
theorem collectAddresses_eq_some {question : Question} {answers : List ResourceRecord}
    {result final : CacheableAddressSet}
    (h : collectAddresses question answers result = some final) :
    ∃ addresses, final.addresses = result.addresses ++ addresses ∧
      List.Forall₂ (AddressAnswer question) answers addresses ∧
      final.ttl ≤ result.ttl ∧ (∀ answer ∈ answers, final.ttl ≤ answer.ttl) ∧
      (final.ttl = result.ttl ∨ ∃ answer ∈ answers, final.ttl = answer.ttl) := by
  induction answers generalizing result with
  | nil =>
    obtain rfl := Option.some.inj h
    exact ⟨[], by simp, .nil, UInt32.le_refl _, by simp, Or.inl rfl⟩
  | cons answer answers ih =>
    rw [collectAddresses] at h
    split at h
    · cases h
    rename_i haccepted
    simp only [not_or, Bool.not_eq_false, not_not] at haccepted
    obtain ⟨hname, htype, hclass, httl⟩ := haccepted
    split at h
    · cases h
    rename_i address haddress
    obtain ⟨addresses, heq, hall, hresult, hle, hmem⟩ := ih h
    dsimp only at heq hresult hmem
    obtain ⟨hleft, hright, hchoice⟩ := min_ttl result.ttl answer.ttl
    refine ⟨address :: addresses, ?_, .cons ⟨hname, htype, hclass, httl, haddress⟩ hall, ?_, ?_, ?_⟩
    · rw [heq, List.append_assoc]
      rfl
    · exact UInt32.le_trans hresult hleft
    · intro other hother
      rcases List.mem_cons.mp hother with rfl | hrest
      · exact UInt32.le_trans hresult hright
      · exact hle other hrest
    · rcases hmem with hmin | ⟨other, hother, heq⟩
      · rcases hchoice with hfirst | hsecond
        · exact Or.inl (hmin.trans hfirst)
        · exact Or.inr ⟨answer, List.mem_cons_self, hmin.trans hsecond⟩
      · exact Or.inr ⟨other, List.mem_cons_of_mem _ hother, heq⟩

/-- Only an address set is cached. -/
theorem cacheable_of_eq_some {response : Message} {question : Question}
    {cacheable : CacheableAddressSet} (h : cacheableAddressSet response question = some cacheable) :
    Cacheable response question cacheable := by
  unfold cacheableAddressSet at h
  split at h
  · cases h
  rename_i hheader
  simp only [not_or, Bool.not_eq_false, Bool.not_eq_true, not_not] at hheader
  obtain ⟨hresponse, htruncated, hcode⟩ := hheader
  split at h
  · rename_i answered hquestions
    split at h
    · cases h
    rename_i hsections
    simp only [not_or, Bool.not_eq_false, not_not] at hsections
    obtain ⟨hsame, hnonempty, -, hauthorities, hadditionals⟩ := hsections
    obtain ⟨addresses, heq, hall, -, hle, hmem⟩ := collectAddresses_eq_some h
    rw [List.nil_append] at heq
    refine ⟨hresponse, htruncated, hcode, ⟨answered, hquestions, hsame⟩, hnonempty, hauthorities,
      hadditionals, heq ▸ hall, hle, ?_⟩
    rcases hmem with hmost | hmem
    · -- no TTL is above the start value
      obtain ⟨answer, rest, hanswers⟩ := List.exists_cons_of_ne_nil hnonempty
      have hfirst : answer ∈ response.answers := by rw [hanswers]; exact List.mem_cons_self
      refine ⟨answer, hfirst, UInt32.le_antisymm (hle answer hfirst) ?_⟩
      rw [hmost, UInt32.le_iff_toNat_le]
      exact Nat.le_of_lt_succ answer.ttl.toNat_lt
    · exact hmem
  · cases h

end DnsPro.Cache
