import DnsPro.Filter.BuildAccounting
import DnsPro.Update.Invariant

/-!
# Admission of updates

What `validate_filter_rule_set` accepts is stated with exact sums: the comparisons
of the form `limit - min(used, limit)` are the comparison of the sum with the limit,
and `SizeT.validateFilterRuleSet`, which has no result where a `size_t` would wrap, has
the same result.

The queue of the controller changes in four ways (`Queue.Move`): a command is
accepted, the first one is taken, all are cleared, or it stays.  Each keeps the
counter the sum of the bytes of the queue, and the bounds.
-/

namespace DnsPro.Update

open DnsPro.Protocol DnsPro.Publication
open DnsPro.Filter (BlocklistBuildError DomainBlocklist StopPoint maxSizeT)

/-! ## The sums of a rule set -/

/-- The bytes of the rules as they were submitted. -/
def rawBytes (rules : List Bytes) : Nat := (rules.map List.length).sum

/-- The bytes of the canonical key of a rule that parses. -/
def keyBytes (rule : Bytes) : Nat :=
  match fromText rule with
  | .ok name => name.canonicalKey.length
  | .error _ => 0

/-- The bytes of the canonical keys of the rules that parse. -/
def normalizedBytes (rules : List Bytes) : Nat := (rules.map keyBytes).sum

@[simp] theorem rawBytes_cons (rule : Bytes) (rules : List Bytes) :
    rawBytes (rule :: rules) = rule.length + rawBytes rules := by
  rw [rawBytes, List.map_cons, List.sum_cons, rawBytes]

@[simp] theorem normalizedBytes_cons (rule : Bytes) (rules : List Bytes) :
    normalizedBytes (rule :: rules) = keyBytes rule + normalizedBytes rules := by
  rw [normalizedBytes, List.map_cons, List.sum_cons, normalizedBytes]

theorem keyBytes_ok {rule : Bytes} {name : DomainName} (h : fromText rule = .ok name) :
    keyBytes rule = name.canonicalKey.length := by
  rw [keyBytes, h]

theorem keyBytes_error {rule : Bytes} {error : DomainNameError} (h : fromText rule = .error error) :
    keyBytes rule = 0 := by
  rw [keyBytes, h]

/-- The loop accepts the rules whose sums stay within the limit, and returns the sums. -/
theorem measureRules_iff (limits : FilterUpdateLimits) (rules : List Bytes)
    {measured result : FilterRuleMeasurement}
    (hraw : measured.rawBytes ≤ limits.maximumNormalizedRuleBytes)
    (hnormalized : measured.normalizedBytes ≤ limits.maximumNormalizedRuleBytes) :
    measureRules limits rules measured = .ok result ↔
      measured.rawBytes + rawBytes rules ≤ limits.maximumNormalizedRuleBytes ∧
      measured.normalizedBytes + normalizedBytes rules ≤ limits.maximumNormalizedRuleBytes ∧
      result = ⟨measured.rawBytes + rawBytes rules,
        measured.normalizedBytes + normalizedBytes rules⟩ := by
  induction rules generalizing measured with
  | nil =>
    constructor
    · intro h
      obtain rfl := Except.ok.inj h
      exact ⟨hraw, hnormalized, rfl⟩
    · intro h
      rw [h.2.2]
      rfl
  | cons rule rules ih =>
    rw [measureRules, rawBytes_cons, normalizedBytes_cons]
    dsimp only
    by_cases hfits : measured.rawBytes + rule.length ≤ limits.maximumNormalizedRuleBytes
    · rw [if_neg (by omega)]
      cases hparse : fromText rule with
      | error error =>
        rw [keyBytes_error hparse]
        dsimp only
        rw [ih (by exact hfits) (by exact hnormalized)]
        dsimp only
        rw [Nat.add_assoc, Nat.zero_add]
      | ok name =>
        rw [keyBytes_ok hparse]
        dsimp only
        by_cases hkey : measured.normalizedBytes + name.canonicalKey.length ≤
            limits.maximumNormalizedRuleBytes
        · rw [if_neg (by omega), ih (by exact hfits) (by exact hkey)]
          dsimp only
          rw [Nat.add_assoc, Nat.add_assoc]
        · rw [if_pos (by omega)]
          constructor
          · intro h
            cases h
          · intro h
            omega
    · rw [if_pos (by omega)]
      constructor
      · intro h
        cases h
      · intro h
        omega

theorem validateFilterRuleSet_iff (limits : FilterUpdateLimits) (rules : List Bytes)
    (result : FilterRuleMeasurement) :
    validateFilterRuleSet rules limits = .ok result ↔
      rules.length ≤ limits.maximumRuleCount ∧
      rawBytes rules ≤ limits.maximumNormalizedRuleBytes ∧
      normalizedBytes rules ≤ limits.maximumNormalizedRuleBytes ∧
      result = ⟨rawBytes rules, normalizedBytes rules⟩ := by
  rw [validateFilterRuleSet]
  by_cases hcount : rules.length ≤ limits.maximumRuleCount
  · rw [if_neg (by omega), measureRules_iff limits rules (Nat.zero_le _) (Nat.zero_le _)]
    simp only [Nat.zero_add, hcount, true_and]
  · rw [if_pos (by omega)]
    constructor
    · intro h
      cases h
    · intro h
      exact absurd h.1 hcount

/-! ## Machine arithmetic -/

namespace SizeT

/-- A sum of two `size_t`; `none` where it wraps. -/
def add (lhs rhs : Nat) : Option Nat := if lhs + rhs ≤ maxSizeT then some (lhs + rhs) else none

/-- A difference of two `size_t`; `none` where it wraps. -/
def sub (lhs rhs : Nat) : Option Nat := if rhs ≤ lhs then some (lhs - rhs) else none

/-- `saturated_add`. -/
def saturatedAdd (lhs rhs : Nat) : Option Nat := do
  let room ← sub maxSizeT lhs
  if rhs > room then return maxSizeT
  else add lhs rhs

/-- The loop of `validate_filter_rule_set`. -/
def measureRules (limits : FilterUpdateLimits) :
    List Bytes → FilterRuleMeasurement → Option (Except FilterUpdateError FilterRuleMeasurement)
  | [], measured => some (.ok measured)
  | rule :: rules, measured => do
    let limit := limits.maximumNormalizedRuleBytes
    let room ← sub limit (min measured.rawBytes limit)
    if rule.length > room then
      let actual ← saturatedAdd measured.rawBytes rule.length
      return .error ⟨.ruleBytesLimitExceeded, none, actual, limit⟩
    else
      let rawBytes ← add measured.rawBytes rule.length
      let measured := { measured with rawBytes := rawBytes }
      match fromText rule with
      | .error _ => measureRules limits rules measured
      | .ok name =>
        let bytes := name.canonicalKey.length
        let room ← sub limit (min measured.normalizedBytes limit)
        if bytes > room then
          let actual ← saturatedAdd measured.normalizedBytes bytes
          return .error ⟨.ruleBytesLimitExceeded, none, actual, limit⟩
        else
          let normalizedBytes ← add measured.normalizedBytes bytes
          measureRules limits rules { measured with normalizedBytes := normalizedBytes }

/-- `validate_filter_rule_set`. -/
def validateFilterRuleSet (rules : List Bytes) (limits : FilterUpdateLimits) :
    Option (Except FilterUpdateError FilterRuleMeasurement) :=
  if rules.length > limits.maximumRuleCount then
    some (.error ⟨.ruleCountLimitExceeded, none, rules.length, limits.maximumRuleCount⟩)
  else measureRules limits rules {}

theorem add_eq {lhs rhs : Nat} (h : lhs + rhs ≤ maxSizeT) : add lhs rhs = some (lhs + rhs) :=
  if_pos h

theorem sub_eq {lhs rhs : Nat} (h : rhs ≤ lhs) : sub lhs rhs = some (lhs - rhs) := if_pos h

theorem saturatedAdd_eq {lhs : Nat} (h : lhs ≤ maxSizeT) (rhs : Nat) :
    saturatedAdd lhs rhs = some (Update.saturatedAdd lhs rhs) := by
  rw [saturatedAdd, sub_eq h, Option.bind_eq_bind, Option.bind_some, Update.saturatedAdd]
  by_cases hroom : rhs > maxSizeT - lhs
  · rw [if_pos hroom, Nat.min_eq_left (by simp only [maxSizeT] at h hroom; omega)]
    rfl
  · rw [if_neg hroom, add_eq (by omega),
      Nat.min_eq_right (by simp only [maxSizeT] at h hroom; omega)]

/-- No operation of the loop wraps. -/
theorem measureRules_eq {limits : FilterUpdateLimits}
    (hlimit : limits.maximumNormalizedRuleBytes ≤ maxSizeT) (rules : List Bytes)
    {measured : FilterRuleMeasurement}
    (hraw : measured.rawBytes ≤ limits.maximumNormalizedRuleBytes)
    (hnormalized : measured.normalizedBytes ≤ limits.maximumNormalizedRuleBytes) :
    measureRules limits rules measured = some (Update.measureRules limits rules measured) := by
  induction rules generalizing measured with
  | nil => rfl
  | cons rule rules ih =>
    rw [measureRules, Update.measureRules]
    simp only [sub_eq (Nat.min_le_right _ _), Option.bind_eq_bind, Option.bind_some]
    split
    · rw [saturatedAdd_eq (hraw.trans hlimit)]
      rfl
    · rename_i hfits
      rw [add_eq (by omega)]
      cases hparse : fromText rule with
      | error error => exact ih (by show _ + _ ≤ _; omega) hnormalized
      | ok name =>
        dsimp only [Option.bind_some]
        split
        · rw [saturatedAdd_eq (hnormalized.trans hlimit)]
          rfl
        · rename_i hkey
          rw [add_eq (by omega)]
          exact ih (by show _ + _ ≤ _; omega) (by show _ + _ ≤ _; omega)

theorem validateFilterRuleSet_eq (rules : List Bytes) {limits : FilterUpdateLimits}
    (hlimit : limits.maximumNormalizedRuleBytes ≤ maxSizeT) :
    validateFilterRuleSet rules limits = some (Update.validateFilterRuleSet rules limits) := by
  rw [validateFilterRuleSet, Update.validateFilterRuleSet]
  split
  · rfl
  · exact measureRules_eq hlimit rules (Nat.zero_le _) (Nat.zero_le _)

end SizeT

/-! ## The default builder -/

/-- What a call of `build_filter_snapshot` depends on besides its arguments: when the token
fires, an allocation that fails, and which object is made. -/
structure BuildEnvironment where
  stop : StopPoint → Bool
  stopAfter : Bool
  allocationFails : Bool
  object : Nat

/-- `build_filter_snapshot`. -/
def buildFilterSnapshot (hash : Bytes → UInt64) (maxSize : Nat) (environment : BuildEnvironment)
    (rules : List Bytes) (generation : Nat) : BuildOutcome :=
  if environment.allocationFails then .exception
  else
    match DomainBlocklist.build hash environment.stop maxSize rules with
    | .error (.error error) => .failure error
    | .error .lengthError => .exception
    | .ok blocklist =>
      if environment.stopAfter then .failure ⟨.cancelled, 0⟩
      else
        .candidate (some ⟨environment.object, generation, blocklist.ruleCount,
          blocklist.normalizedRuleBytes⟩)

/-- The builder that the constructor puts in place of an empty one. -/
def defaultBuilder (hash : Bytes → UInt64) (maxSize : Nat)
    (environment : Nat → BuildEnvironment) : Builder :=
  fun choice => buildFilterSnapshot hash maxSize (environment choice)

/-- The rule loop keeps no more key bytes than the rules have. -/
theorem canonicalRules_bytes {stop : StopPoint → Bool} {rules : List Bytes} {index : Nat}
    {names result : List DomainName} {keys : List Bytes}
    (h : Filter.canonicalRules stop rules index names keys = .ok result) :
    (result.map fun name => name.canonicalKey.length).sum ≤
      (names.map fun name => name.canonicalKey.length).sum + normalizedBytes rules := by
  induction rules generalizing index names keys with
  | nil =>
    obtain rfl := Except.ok.inj h
    exact Nat.le_add_right _ _
  | cons rule rules ih =>
    rw [Filter.canonicalRules] at h
    split at h
    · cases h
    split at h
    · cases h
    rename_i name hparse
    split at h
    · cases h
    split at h
    · cases h
    rw [normalizedBytes_cons, keyBytes_ok hparse]
    split at h
    · have hrest := ih h
      omega
    · have hrest := ih h
      rw [List.map_append, List.sum_append, List.map_singleton, List.sum_singleton] at hrest
      omega

/-- A snapshot of the default builder has no more bytes than its rules. -/
theorem buildFilterSnapshot_bytes {hash : Bytes → UInt64} {maxSize : Nat}
    {environment : BuildEnvironment} {rules : List Bytes} {generation : Nat}
    {snapshot : FilterSnapshot}
    (h : buildFilterSnapshot hash maxSize environment rules generation =
      .candidate (some snapshot)) :
    snapshot.normalizedRuleBytes ≤ normalizedBytes rules := by
  rw [buildFilterSnapshot] at h
  split at h
  · cases h
  split at h
  · cases h
  · cases h
  rename_i blocklist hbuild
  split at h
  · cases h
  obtain rfl := Option.some.inj (BuildOutcome.candidate.inj h)
  rw [DomainBlocklist.build] at hbuild
  split at hbuild
  · cases hbuild
  split at hbuild
  · cases hbuild
  rename_i names hnames
  obtain ⟨count, hround⟩ := Filter.buildLoop_ok hbuild
  have hbytes := canonicalRules_bytes hnames
  rw [List.map_nil, List.sum_nil, Nat.zero_add] at hbytes
  show blocklist.normalizedRuleBytes ≤ _
  rw [(Filter.buildRound_counts hround).2]
  exact hbytes

/-! ## The queue -/

/-- The part of the system that admission is about. -/
structure Queue where
  limits : FilterUpdateLimits
  pending : List Command
  queuedRuleBytes : Nat
  accepted : List Command

/-- The bytes that the commands are accounted with. -/
def accountedBytes (commands : List Command) : Nat := (commands.map Command.accountedBytes).sum

/-- What a step may do to the queue. -/
inductive Queue.Move (queue : Queue) : Queue → Prop where
  | stay : Move queue queue
  | accept {command : Command} {measured : FilterRuleMeasurement}
      (hvalid : validateFilterRuleSet command.rules queue.limits = .ok measured)
      (hbytes : command.accountedBytes = measured.rawBytes)
      (hroom : queue.pending.length < maximumPendingUpdates)
      (hfits : command.accountedBytes ≤ queue.limits.maximumQueuedRuleBytes -
        min queue.queuedRuleBytes queue.limits.maximumQueuedRuleBytes) :
      Move queue { queue with
        pending := queue.pending ++ [command]
        queuedRuleBytes := queue.queuedRuleBytes + command.accountedBytes
        accepted := queue.accepted ++ [command] }
  | take {command : Command} {pending : List Command}
      (hpending : queue.pending = command :: pending) :
      Move queue { queue with
        pending := pending
        queuedRuleBytes := queue.queuedRuleBytes -
          min queue.queuedRuleBytes command.accountedBytes }
  | clear : Move queue { queue with pending := [], queuedRuleBytes := 0 }

/-- The counter is exact and the queue is within its bounds. -/
structure Queue.Bounded (limits : FilterUpdateLimits) (queue : Queue) : Prop where
  limits_eq : queue.limits = limits
  bytes : queue.queuedRuleBytes = accountedBytes queue.pending
  bytes_le : queue.queuedRuleBytes ≤ limits.maximumQueuedRuleBytes
  count_le : queue.pending.length ≤ maximumPendingUpdates
  valid : ∀ command ∈ queue.accepted, ∃ measured,
    validateFilterRuleSet command.rules limits = .ok measured

theorem Queue.Bounded.move {limits : FilterUpdateLimits} {queue next : Queue}
    (h : queue.Bounded limits) (hmove : queue.Move next) : next.Bounded limits := by
  obtain ⟨rfl, hbytes, hle, hcount, hvalid⟩ := h
  cases hmove with
  | stay => exact ⟨rfl, hbytes, hle, hcount, hvalid⟩
  | accept hcommand haccounted hroom hfits =>
    rename_i command measured
    refine ⟨rfl, ?_, ?_, ?_, ?_⟩
    · show queue.queuedRuleBytes + command.accountedBytes = accountedBytes
        (queue.pending ++ [command])
      rw [hbytes, accountedBytes, accountedBytes, List.map_append, List.sum_append,
        List.map_singleton, List.sum_singleton]
    · show queue.queuedRuleBytes + command.accountedBytes ≤ _
      omega
    · show (queue.pending ++ [command]).length ≤ _
      rw [List.length_append, List.length_singleton]
      omega
    · intro other hother
      rcases List.mem_append.mp hother with hold | hnew
      · exact hvalid other hold
      · rw [List.mem_singleton.mp hnew]
        exact ⟨measured, hcommand⟩
  | take hpending =>
    rename_i command pending
    rw [hpending, accountedBytes, List.map_cons, List.sum_cons] at hbytes
    rw [hpending, List.length_cons] at hcount
    refine ⟨rfl, ?_, ?_, ?_, hvalid⟩
    · show queue.queuedRuleBytes - min queue.queuedRuleBytes command.accountedBytes =
        accountedBytes pending
      rw [accountedBytes]
      omega
    · show queue.queuedRuleBytes - min queue.queuedRuleBytes command.accountedBytes ≤ _
      omega
    · show pending.length ≤ _
      omega
  | clear => exact ⟨rfl, rfl, Nat.zero_le _, Nat.zero_le _, hvalid⟩

namespace System

/-- The queue of the controller. -/
def queue (system : System) : Queue :=
  ⟨system.controller.limits, system.controller.pending, system.controller.queuedRuleBytes,
    system.accepted⟩

variable {builder : Builder} {system next : System}

theorem submitReplace_queue (system : System) (rules : List Bytes)
    (allocationFails pushFails : Bool) :
    system.queue.Move (system.submitReplace rules allocationFails pushFails).queue := by
  unfold submitReplace
  split
  · exact .stay
  rename_i measured hvalid
  split
  · exact .stay
  dsimp only
  split
  · exact .stay
  rename_i controller henqueue
  obtain ⟨-, rfl⟩ := Inv.enqueue_ok henqueue
  unfold FilterUpdateController.enqueue at henqueue
  split_ifs at henqueue with _ hroom hfits
  exact .accept hvalid rfl (Nat.not_le.mp hroom) (Nat.not_lt.mp hfits)

theorem stepSeal_queue (system : System) (point : SealPoint) :
    system.queue.Move (system.stepSeal point).2.queue := by
  cases point with
  | requestStop | sealPublication => exact .stay
  | swap =>
    simp only [stepSeal, FilterUpdateController.sealQueue]
    split
    · exact .clear
    · exact .stay
  | completing cancelled =>
    cases cancelled with
    | nil => exact .stay
    | cons command cancelled => exact .stay

theorem commitCandidate_queue (system : System) (command : Command) (candidate : FilterSnapshot)
    (now : Nat) : (system.commitCandidate command candidate now).queue = system.queue := by
  unfold commitCandidate
  dsimp only
  split
  · rfl
  · rfl

/-- `apply` does not touch the queue. -/
theorem stepApply_queue {command : Command} {choice now : Nat}
    (hstep : system.stepApply builder command choice now = some next) :
    next.queue = system.queue := by
  unfold stepApply at hstep
  cases hrunner : system.runner with
  | acquiring _ | awaiting _ =>
    simp only [hrunner] at hstep
    obtain ⟨_, -, rfl⟩ := Option.map_eq_some_iff.mp hstep
    rfl
  | built nextGeneration outcome =>
    rw [hrunner] at hstep
    cases outcome with
    | failure error | exception =>
      obtain rfl := Option.some.inj hstep
      rfl
    | candidate snapshot =>
      cases snapshot with
      | none =>
        obtain rfl := Option.some.inj hstep
        rfl
      | some candidate =>
        dsimp only at hstep
        split_ifs at hstep
        all_goals
          obtain rfl := Option.some.inj hstep
          rfl
  | publishing candidate =>
    rw [hrunner] at hstep
    obtain rfl := Option.some.inj hstep
    exact commitCandidate_queue system command candidate now
  | committed version =>
    simp only [hrunner] at hstep
    split_ifs at hstep
    all_goals
      obtain rfl := Option.some.inj hstep
      rfl
  | checkingStop | readingVersion | building _ | buildFailed _ | caught | releasing _ =>
    rw [hrunner] at hstep
    obtain rfl := Option.some.inj hstep
    rfl
  | idle | waiting | detaching | returned _ | completed | sealing _ | cancelling
  | completingCancelled _ | closing =>
    rw [hrunner] at hstep
    cases hstep

theorem takeCommand_queue {wakeup : FilterUpdateController.Wakeup}
    {controller : FilterUpdateController} {accepted : List Command}
    (htake : system.controller.takeCommand = some (wakeup, controller))
    (haccepted : accepted = system.accepted) :
    system.queue.Move
      ⟨controller.limits, controller.pending, controller.queuedRuleBytes, accepted⟩ := by
  subst haccepted
  unfold FilterUpdateController.takeCommand at htake
  split at htake
  · rename_i command pending hpending
    obtain ⟨-, rfl⟩ := Prod.mk.inj (Option.some.inj htake)
    exact @Queue.Move.take system.queue command pending hpending
  · split at htake
    · obtain ⟨-, rfl⟩ := Prod.mk.inj (Option.some.inj htake)
      exact .stay
    · cases htake

/-- Neither `reconcile_inflight_after_writer_exit` nor what its callers do after it
touches the queue. -/
theorem reconcileInflight_queue (controller : FilterUpdateController) (current : FilterVersion) :
    (controller.reconcileInflight current).limits = controller.limits ∧
      (controller.reconcileInflight current).pending = controller.pending ∧
      (controller.reconcileInflight current).queuedRuleBytes = controller.queuedRuleBytes := by
  unfold FilterUpdateController.reconcileInflight
  split
  · exact ⟨rfl, rfl, rfl⟩
  · split
    · split <;> exact ⟨rfl, rfl, rfl⟩
    · exact ⟨rfl, rfl, rfl⟩

theorem finishRun_queue (controller : FilterUpdateController) (current : FilterVersion) :
    (controller.finishRun current).2.limits = controller.limits ∧
      (controller.finishRun current).2.pending = controller.pending ∧
      (controller.finishRun current).2.queuedRuleBytes = controller.queuedRuleBytes := by
  have hreconciled := reconcileInflight_queue controller current
  unfold FilterUpdateController.finishRun
  dsimp only
  split
  · split <;> exact hreconciled
  · exact hreconciled

theorem enterSuccessor_queue (controller : FilterUpdateController) (current : FilterVersion) :
    (controller.enterSuccessor current).2.limits = controller.limits ∧
      (controller.enterSuccessor current).2.pending = controller.pending ∧
      (controller.enterSuccessor current).2.queuedRuleBytes = controller.queuedRuleBytes := by
  have hreconciled := reconcileInflight_queue controller current
  unfold FilterUpdateController.enterSuccessor
  split
  · exact ⟨rfl, rfl, rfl⟩
  · dsimp only
    split
    · exact hreconciled
    · split <;> exact hreconciled

/-- The queue of a system whose controller has the same one. -/
theorem queue_congr {controller : FilterUpdateController}
    (h : controller.limits = system.controller.limits ∧
      controller.pending = system.controller.pending ∧
      controller.queuedRuleBytes = system.controller.queuedRuleBytes) :
    (⟨controller.limits, controller.pending, controller.queuedRuleBytes, system.accepted⟩ : Queue) =
      system.queue := by
  rw [h.1, h.2.1, h.2.2]
  rfl

theorem stepRunner_queue {choice now : Nat} {throws : Bool}
    (hstep : system.stepRunner builder choice now throws = some next) :
    system.queue.Move next.queue := by
  unfold stepRunner at hstep
  cases hrunner : system.runner with
  | idle =>
    rw [hrunner] at hstep
    cases hstep
  | waiting =>
    simp only [hrunner] at hstep
    split_ifs at hstep
    · obtain rfl := Option.some.inj hstep
      exact .stay
    · obtain ⟨⟨wakeup, controller⟩, htake, rfl⟩ := Option.map_eq_some_iff.mp hstep
      exact takeCommand_queue htake rfl
  | returned result =>
    simp only [hrunner] at hstep
    obtain ⟨command, -, rfl⟩ := Option.map_eq_some_iff.mp hstep
    unfold stepReturned
    split <;> exact .stay
  | sealing point =>
    have hmove := stepSeal_queue system point
    simp only [hrunner] at hstep
    split at hstep
    all_goals
      rename_i hpoint
      rw [hpoint] at hmove
      obtain rfl := Option.some.inj hstep
      exact hmove
  | cancelling =>
    rw [hrunner] at hstep
    obtain rfl := Option.some.inj hstep
    exact .clear
  | completingCancelled cancelled =>
    rw [hrunner] at hstep
    cases cancelled with
    | nil =>
      obtain rfl := Option.some.inj hstep
      exact .stay
    | cons command cancelled =>
      obtain rfl := Option.some.inj hstep
      exact .stay
  | closing =>
    have hsame := queue_congr (finishRun_queue system.controller
      system.publication.publication.currentVersion)
    have hqueue : next.queue = system.queue := by
      rw [← hsame]
      simp only [hrunner] at hstep
      split at hstep
      all_goals
        obtain rfl := Option.some.inj hstep
        rfl
    rw [hqueue]
    exact .stay
  | detaching | completed =>
    rw [hrunner] at hstep
    obtain rfl := Option.some.inj hstep
    exact .stay
  | checkingStop | readingVersion | acquiring _ | building _ | built _ _ | buildFailed _ | caught
  | releasing _ | publishing _ | committed _ | awaiting _ =>
    simp only [hrunner] at hstep
    obtain ⟨command, -, hstep⟩ := Option.bind_eq_some_iff.mp hstep
    rw [stepApply_queue hstep]
    exact .stay

theorem stepSuccessor_queue {point : SuccessorPoint} {outcome : Option SuccessorPoint × System}
    (hstep : system.stepSuccessor point = some outcome) : outcome.2.queue = system.queue := by
  cases point with
  | entering =>
    rw [← queue_congr (enterSuccessor_queue system.controller
      system.publication.publication.currentVersion)]
    simp only [stepSuccessor] at hstep
    split at hstep
    all_goals
      obtain rfl := Option.some.inj hstep
      rfl
  | waiting published =>
    simp only [stepSuccessor] at hstep
    obtain ⟨result, -, rfl⟩ := Option.map_eq_some_iff.mp hstep
    cases result <;> rfl
  | taking published =>
    have hsame : (system.controller.takeCommitted published).2.limits = system.controller.limits ∧
        (system.controller.takeCommitted published).2.pending = system.controller.pending ∧
        (system.controller.takeCommitted published).2.queuedRuleBytes =
          system.controller.queuedRuleBytes := by
      unfold FilterUpdateController.takeCommitted
      split
      · exact ⟨rfl, rfl, rfl⟩
      · split <;> exact ⟨rfl, rfl, rfl⟩
    rw [← queue_congr hsame]
    simp only [stepSuccessor] at hstep
    split at hstep
    all_goals
      obtain rfl := Option.some.inj hstep
      rfl
  | completing command result =>
    obtain rfl := Option.some.inj hstep
    rfl

theorem stepCall_queue {index : Nat} (hstep : system.stepCall index = some next) :
    system.queue.Move next.queue := by
  unfold stepCall at hstep
  cases hget : system.calls[index]? with
  | none =>
    rw [hget] at hstep
    cases hstep
  | some call =>
    cases call with
    | sealCall point terminalDetach =>
      have hmove := stepSeal_queue system point
      simp only [hget] at hstep
      split at hstep
      · rename_i hpoint
        rw [hpoint] at hmove
        obtain rfl := Option.some.inj hstep
        exact hmove
      · rename_i hpoint
        rw [hpoint] at hmove
        split_ifs at hstep
        all_goals
          obtain rfl := Option.some.inj hstep
          exact hmove
    | requestDetach =>
      simp only [hget, Option.some.injEq] at hstep
      subst hstep
      exact .stay
    | successor point =>
      simp only [hget] at hstep
      split at hstep
      · cases hstep
      all_goals
        rename_i hpoint
        obtain rfl := Option.some.inj hstep
        have hsame := stepSuccessor_queue hpoint
        show system.queue.Move (queue _)
        rw [← hsame]
        exact .stay

/-- Every step is one of the moves. -/
theorem queue_step {label : Label} (hstep : system.step builder label = some next) :
    system.queue.Move next.queue := by
  cases label with
  | submitReplace rules allocationFails pushFails =>
    obtain rfl := Option.some.inj hstep
    exact submitReplace_queue system rules allocationFails pushFails
  | startRunner =>
    unfold step at hstep
    dsimp only at hstep
    split_ifs at hstep
    obtain rfl := Option.some.inj hstep
    exact .stay
  | runner choice now throws => exact stepRunner_queue hstep
  | call index => exact stepCall_queue hstep
  | publication label =>
    obtain ⟨-, publication, -, rfl⟩ := Inv.step_publication hstep
    exact .stay
  | callSeal _ | callSuccessor | injectPostcommitFailure =>
    obtain rfl := Option.some.inj hstep
    exact .stay

/-- The queue is within its bounds after every run. -/
theorem bounded_reached {initialSnapshot : FilterSnapshot} {maximumWorkers graceTimeout : Nat}
    {limits : FilterUpdateLimits} {first : System} {labels : List Label}
    (hstart : System.new initialSnapshot maximumWorkers graceTimeout limits = some first)
    (hrun : Transition.run (step builder) first labels = some system) :
    system.queue.Bounded limits := by
  refine Transition.run_invariant (fun system : System => system.queue.Bounded limits)
    (fun _ _ _ h hstep => h.move (queue_step hstep)) ?_ hrun
  unfold System.new FilterUpdateController.new at hstart
  split at hstart
  · cases hstart
  · split at hstart
    · cases hstart
    · obtain rfl := Option.some.inj hstart
      exact ⟨rfl, rfl, Nat.zero_le _, Nat.zero_le _, by simp [queue]⟩

/-- Admission bounds.  For every rule list and all limits, the validation succeeds exactly
when the count and both exact sums are within the limits, and returns the sums; with a limit
that is a `size_t` none of its operations wraps.  In every run the counter is the sum over
the queue and both are bounded; with the default builder no committed snapshot exceeds the
limit of the rules. -/
theorem update_admission_bounds :
    (∀ (rules : List Bytes) (limits : FilterUpdateLimits),
      ((∃ measured, validateFilterRuleSet rules limits = .ok measured) ↔
        rules.length ≤ limits.maximumRuleCount ∧
          (rules.map List.length).sum ≤ limits.maximumNormalizedRuleBytes ∧
          (rules.map keyBytes).sum ≤ limits.maximumNormalizedRuleBytes) ∧
      (∀ measured, validateFilterRuleSet rules limits = .ok measured →
        measured.rawBytes = (rules.map List.length).sum ∧
          measured.normalizedBytes = (rules.map keyBytes).sum) ∧
      (limits.maximumNormalizedRuleBytes ≤ maxSizeT →
        SizeT.validateFilterRuleSet rules limits = some (validateFilterRuleSet rules limits))) ∧
    ∀ (builder : Builder) (initialSnapshot : FilterSnapshot) (maximumWorkers graceTimeout : Nat)
      (limits : FilterUpdateLimits) (first system : System) (labels : List Label),
      System.new initialSnapshot maximumWorkers graceTimeout limits = some first →
      Transition.run (step builder) first labels = some system →
      (system.controller.queuedRuleBytes =
          (system.controller.pending.map Command.accountedBytes).sum ∧
        system.controller.queuedRuleBytes ≤ limits.maximumQueuedRuleBytes ∧
        system.controller.pending.length ≤ maximumPendingUpdates) ∧
      ∀ hash maxSize environment, builder = defaultBuilder hash maxSize environment →
        ∀ commit ∈ system.commits,
          commit.2.normalizedRuleBytes ≤ limits.maximumNormalizedRuleBytes := by
  constructor
  · intro rules limits
    refine ⟨?_, ?_, SizeT.validateFilterRuleSet_eq rules⟩
    · constructor
      · intro h
        obtain ⟨measured, h⟩ := h
        obtain ⟨hcount, hraw, hnormalized, -⟩ := (validateFilterRuleSet_iff _ _ _).mp h
        exact ⟨hcount, hraw, hnormalized⟩
      · intro h
        exact ⟨_, (validateFilterRuleSet_iff _ _ _).mpr ⟨h.1, h.2.1, h.2.2, rfl⟩⟩
    · intro measured h
      obtain ⟨-, -, -, rfl⟩ := (validateFilterRuleSet_iff _ _ _).mp h
      exact ⟨rfl, rfl⟩
  · intro builder initialSnapshot maximumWorkers graceTimeout limits first system labels hstart hrun
    have hbounded := bounded_reached hstart hrun
    refine ⟨⟨hbounded.bytes, hbounded.bytes_le, hbounded.count_le⟩, ?_⟩
    intro hash maxSize environment hbuilder commit hcommit
    obtain ⟨publication, -, hinv⟩ := Inv.reached hstart hrun
    obtain ⟨original, haccepted, -, choice, hbuilt⟩ := hinv.built commit hcommit
    obtain ⟨measured, hvalid⟩ := hbounded.valid original haccepted
    rw [hbuilder] at hbuilt
    exact (buildFilterSnapshot_bytes hbuilt).trans
      ((validateFilterRuleSet_iff _ _ _).mp hvalid).2.2.1

/-- Room for two rules of one byte. -/
def smallLimits : FilterUpdateLimits where
  maximumRuleCount := 2
  maximumNormalizedRuleBytes := 6
  maximumQueuedRuleBytes := 3

/-- A builder whose calls neither are cancelled nor run out of memory. -/
def quietBuilder : Builder :=
  defaultBuilder (fun _ => 5) 8 fun choice => ⟨fun _ => false, false, false, choice⟩

/-- The rule `a` is committed, the rules `b` and `c` wait, and two more have no room. -/
def committedThenQueued : List Label :=
  [.submitReplace [[0x61]] false false, .startRunner] ++ List.replicate 7 (.runner 1 0 false) ++
    [.submitReplace [[0x62], [0x63]] false false, .submitReplace [[0x64], [0x65]] false false]

theorem update_admission_bounds_queued : ∃ first system,
    System.new ⟨0, 1, 0, 0⟩ 1 1 smallLimits = some first ∧
    Transition.run (step quietBuilder) first committedThenQueued = some system ∧
    system.commits.map (fun commit => commit.2.normalizedRuleBytes) = [3] ∧
    system.controller.pending.map (fun command => command.rules) = [[[0x62], [0x63]]] ∧
    system.controller.queuedRuleBytes =
      (system.controller.pending.map Command.accountedBytes).sum ∧
    system.controller.queuedRuleBytes ≤ 3 ∧
    ∀ commit ∈ system.commits, commit.2.normalizedRuleBytes ≤ 6 := by
  obtain ⟨first, system, hstart, hrun, hcommits, hpending⟩ : ∃ first system,
      System.new ⟨0, 1, 0, 0⟩ 1 1 smallLimits = some first ∧
      Transition.run (step quietBuilder) first committedThenQueued = some system ∧
      system.commits.map (fun commit => commit.2.normalizedRuleBytes) = [3] ∧
      system.controller.pending.map (fun command => command.rules) = [[[0x62], [0x63]]] :=
    ⟨_, _, rfl, rfl, rfl, rfl⟩
  obtain ⟨⟨hsum, hqueued, -⟩, hbuilt⟩ := update_admission_bounds.2 quietBuilder _ _ _ smallLimits
    first system committedThenQueued hstart hrun
  exact ⟨first, system, hstart, hrun, hcommits, hpending, hsum, hqueued, hbuilt _ _ _ rfl⟩

end System

end DnsPro.Update
