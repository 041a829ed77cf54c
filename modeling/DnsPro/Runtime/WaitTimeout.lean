import DnsPro.Lib.SignedArithmetic
import DnsPro.Runtime.TimerRuns
import Mathlib.Order.Bounds.Basic

/-!
# The timeout of a poll

`wait_timeout` turns the deadline at the front of the heap into a number of
milliseconds for `epoll_wait`.  Its durations are signed integers of 64 bits and its
result is one of 32 bits, so its operations are those of `Signed`, and it has no result
where one of them overflows.

* `beyondEpoch_eq` is the check that comes before the subtraction, and
  `fits_of_not_beyondEpoch` is what it is for: the difference that it lets through is a
  duration.
* `waitTimeout_front` is the value of `wait_timeout` for the registration at the front,
  and `Sorted.deadline_least` says that no armed registration has an earlier deadline.
* `wait_timeout_exact` is about every state of the queue.
-/

namespace DnsPro.Runtime

variable {ν : Type}

/-- A millisecond in ticks of the clock. -/
def millisecond : Duration := 1000000

/-- `INT_MAX`. -/
def intMax : Int := 2 ^ 31 - 1

/-- The check of `wait_timeout` before it subtracts: across the epoch one of the two
halves is the maximum already. -/
def beyondEpoch (maximumWait deadline now : Duration) : Option Bool :=
  if now < 0 ∧ deadline ≥ 0 then
    if deadline ≥ maximumWait then some true
    else (Signed.neg 64 maximumWait).map fun least => decide (now ≤ least)
  else some false

namespace TimerQueue

/-- `wait_timeout`; `none` when an operation overflows, the conversion to `int` included. -/
def waitTimeout (timers : TimerQueue ν) (now : TimePoint) : Option Int :=
  match timers.heap.nodes.head? with
  | none => some (-1)
  | some front =>
    let deadline := (timers.registrations front).deadline
    if deadline ≤ now then some 0
    else do
      let maximumWait ← Signed.mul 64 intMax millisecond
      let beyond ← beyondEpoch maximumWait deadline now
      if beyond then return intMax
      let waitDuration ← Signed.sub 64 deadline now
      if waitDuration ≥ maximumWait then return intMax
      let wait ← Signed.ceilTo 64 millisecond waitDuration
      if wait ≥ intMax then return intMax
      Signed.checked 32 wait

/-- The timeout that `WorkerLoop::run` polls with. -/
def pollTimeout (timers : TimerQueue ν) (listenerPending upstreamPending hasReady : Bool)
    (now : TimePoint) : Option Int :=
  if listenerPending || upstreamPending || hasReady then some 0 else timers.waitTimeout now

/-- The deadlines of the armed registrations. -/
def deadlines (timers : TimerQueue ν) : Set TimePoint :=
  {deadline | ∃ node, (timers.registrations node).owner = true ∧
    (timers.registrations node).deadline = deadline}

end TimerQueue

/-! ## The check before the subtraction -/

theorem maximumWait_eq :
    Signed.mul 64 intMax millisecond = some (intMax * millisecond) :=
  Signed.mul_eq (by decide)

theorem beyondEpoch_eq (deadline now : Int) :
    beyondEpoch (intMax * millisecond) deadline now =
      some (decide (now < 0 ∧ 0 ≤ deadline ∧
        (intMax * millisecond ≤ deadline ∨ now ≤ -(intMax * millisecond)))) := by
  have hneg : Signed.neg 64 (intMax * millisecond) = some (-(intMax * millisecond)) :=
    Signed.neg_eq (by decide)
  unfold beyondEpoch
  rw [hneg]
  split
  · rename_i hacross
    split
    · rename_i hfar
      simp [hacross.1, hacross.2, hfar]
    · rename_i hnear
      simp [hacross.1, hacross.2, hnear]
  · rename_i hsame
    have : ¬ (now < 0 ∧ 0 ≤ deadline ∧
        (intMax * millisecond ≤ deadline ∨ now ≤ -(intMax * millisecond))) :=
      fun h => hsame ⟨h.1, h.2.1⟩
    simp [this]

/-- On one side of the epoch the difference is a duration, and across it each half is
below the maximum, of which two fit. -/
theorem fits_of_not_beyondEpoch {deadline now : Int} (hdeadline : Signed.Fits 64 deadline)
    (hnow : Signed.Fits 64 now) (hlate : now < deadline)
    (hnear : ¬ (now < 0 ∧ 0 ≤ deadline ∧
      (intMax * millisecond ≤ deadline ∨ now ≤ -(intMax * millisecond)))) :
    Signed.Fits 64 (deadline - now) := by
  by_cases hacross : now < 0 ∧ 0 ≤ deadline
  · have hbounds : -(intMax * millisecond) < now ∧ deadline < intMax * millisecond := by
      omega
    have htwice : Signed.Fits 64 (2 * (intMax * millisecond)) := by decide
    exact (Signed.fits_zero 64).of_between htwice (by omega) (by omega)
  · exact hdeadline.sub_of_same_sign hnow (by omega)

/-- From the first time point to the last one the subtraction overflows. -/
example : Signed.sub 64 durationMax (-2 ^ 63) = none := by decide

/-! ## Rounding up to milliseconds -/

theorem millisecond_pos : 0 < millisecond := by decide

/-- A wait that is not below the maximum is clamped. -/
theorem min_ceil_of_le {waitDuration : Duration} (h : intMax * millisecond ≤ waitDuration) :
    min intMax ⌈(waitDuration : ℚ) / millisecond⌉ = intMax := by
  have hless : (intMax - 1) * millisecond < waitDuration := by
    simp only [intMax, millisecond] at h ⊢
    omega
  have hceil := (Signed.lt_ceil_iff millisecond_pos (intMax - 1)).mpr hless
  exact min_eq_left (by omega)

namespace TimerQueue

variable {timers : TimerQueue ν} {front : ν} {now : TimePoint}

theorem waitTimeout_front (hfront : timers.heap.nodes.head? = some front)
    (hdeadline : Signed.Fits 64 (timers.registrations front).deadline)
    (hnow : Signed.Fits 64 now) :
    timers.waitTimeout now = some (if (timers.registrations front).deadline ≤ now then 0
      else min intMax
        ⌈(((timers.registrations front).deadline - now : Int) : ℚ) / millisecond⌉) := by
  unfold waitTimeout
  rw [hfront]
  dsimp only
  generalize (timers.registrations front).deadline = deadline at hdeadline
  split
  · rfl
  rename_i hdue
  have hlate := Int.not_le.mp hdue
  rw [maximumWait_eq]
  dsimp only [Option.bind_eq_bind, Option.bind_some]
  rw [beyondEpoch_eq]
  dsimp only [Option.bind_some]
  split
  · rename_i hbeyond
    have hfar : intMax * millisecond ≤ (deadline - now : Int) := by
      have := of_decide_eq_true hbeyond
      omega
    rw [min_ceil_of_le hfar]
    rfl
  rename_i hnear
  have hfits := fits_of_not_beyondEpoch hdeadline hnow hlate (by simpa using hnear)
  rw [Signed.sub_eq hfits]
  dsimp only [Option.bind_some]
  split
  · rename_i hfar
    rw [min_ceil_of_le hfar]
    rfl
  rw [Signed.ceilTo_eq millisecond_pos hfits]
  dsimp only [Option.bind_some]
  split
  · rename_i hclamped
    rw [min_eq_left hclamped]
    rfl
  · rename_i hbelow
    have hpositive := Signed.ceil_pos millisecond_pos (Int.sub_pos.mpr hlate)
    rw [min_eq_right (not_le.mp hbelow).le]
    refine Signed.checked_eq ?_
    unfold Signed.Fits
    simp only [intMax] at hbelow
    omega

/-- The deadline at the front is the earliest one of the armed registrations. -/
theorem Sorted.deadline_least (h : timers.Sorted) (hok : timers.Ok)
    (hfront : timers.heap.nodes.head? = some front) :
    IsLeast timers.deadlines (timers.registrations front).deadline := by
  constructor
  · exact ⟨front, (hok.owner_iff front).mpr (List.mem_of_mem_head? hfront), rfl⟩
  · rintro deadline ⟨node, harmed, rfl⟩
    have hnode := (hok.owner_iff node).mp harmed
    exact Prod.Lex.monotone_fst _ _ (not_earlier_iff.mp (h.front hfront hnode))

/-- A wait for a deadline that has not passed is positive. -/
theorem wait_eq_zero_iff {deadline now : Int} :
    (if deadline ≤ now then 0 else
      min intMax ⌈((deadline - now : Int) : ℚ) / millisecond⌉) = 0 ↔ deadline ≤ now := by
  split
  · rename_i hdue
    exact ⟨fun _ => hdue, fun _ => rfl⟩
  · rename_i hlate
    have hpositive := Signed.ceil_pos millisecond_pos (Int.sub_pos.mpr (not_le.mp hlate))
    have hmin := lt_min (show 0 < intMax by decide) hpositive
    omega

/-- The poll does not end before the deadline, unless its timeout was clamped. -/
theorem deadline_le_of_wait {deadline now timeout : Int}
    (htimeout : (if deadline ≤ now then 0 else
      min intMax ⌈((deadline - now : Int) : ℚ) / millisecond⌉) = timeout)
    (hclamped : timeout ≠ intMax) : deadline ≤ now + timeout * millisecond := by
  subst htimeout
  split
  · rename_i hdue
    omega
  · rename_i hlate
    rw [if_neg hlate] at hclamped
    have hceil : min intMax ⌈((deadline - now : Int) : ℚ) / millisecond⌉ =
        ⌈((deadline - now : Int) : ℚ) / millisecond⌉ :=
      (min_choice _ _).resolve_left hclamped
    have hreached := (Signed.ceil_le_iff millisecond_pos _).mp
      (le_refl ⌈((deadline - now : Int) : ℚ) / millisecond⌉)
    rw [hceil]
    omega

end TimerQueue

/-- In every state of the queue, for every earliest deadline and every time, both signed
integers of 64 bits: no operation of `wait_timeout` overflows, and it returns 0 when the
deadline has passed and otherwise the milliseconds to it, rounded up and clamped to
`INT_MAX`.  The loop of the worker polls with 0 only when work is pending or the deadline
has passed, and a poll that is not clamped does not end before the deadline. -/
theorem wait_timeout_exact [DecidableEq ν] {labels : List (TimerLabel ν)} {run : TimerRun ν}
    (hrun : Transition.run TimerRun.step {} labels = some run) {deadline now : TimePoint}
    (hleast : IsLeast run.timers.deadlines deadline) (hdeadline : Signed.Fits 64 deadline)
    (hnow : Signed.Fits 64 now) :
    run.timers.waitTimeout now = some (if deadline ≤ now then 0 else
        min intMax ⌈((deadline - now : Int) : ℚ) / millisecond⌉) ∧
      (∀ listenerPending upstreamPending hasReady,
        run.timers.pollTimeout listenerPending upstreamPending hasReady now = some 0 ↔
          listenerPending = true ∨ upstreamPending = true ∨ hasReady = true ∨ deadline ≤ now) ∧
      ∀ timeout, run.timers.pollTimeout false false false now = some timeout →
        timeout ≠ intMax → deadline ≤ now + timeout * millisecond := by
  have h := TimerRun.kept_run hrun
  obtain ⟨node, harmed, -⟩ := hleast.1
  obtain ⟨front, hfront⟩ : ∃ front, run.timers.heap.nodes.head? = some front :=
    Option.ne_none_iff_exists'.mp
      (mt List.head?_eq_none_iff.mp (List.ne_nil_of_mem ((h.ok.owner_iff node).mp harmed)))
  obtain rfl := (h.sorted.deadline_least h.ok hfront).unique hleast
  have hwait := TimerQueue.waitTimeout_front hfront hdeadline hnow
  refine ⟨hwait, ?_, ?_⟩
  · intro listenerPending upstreamPending hasReady
    unfold TimerQueue.pollTimeout
    split
    · rename_i hpending
      simpa [or_assoc] using Or.inl hpending
    · rename_i hidle
      obtain ⟨⟨rfl, rfl⟩, rfl⟩ : (listenerPending = false ∧ upstreamPending = false) ∧
          hasReady = false := by simpa using hidle
      rw [hwait, Option.some.injEq, TimerQueue.wait_eq_zero_iff]
      simp
  · intro timeout htimeout
    exact TimerQueue.deadline_le_of_wait (Option.some.inj (hwait.symm.trans htimeout))

/-- Two timers; the earlier one is due in a millisecond and a nanosecond. -/
theorem wait_timeout_exact_rounded : ∃ run : TimerRun Nat,
    Transition.run TimerRun.step {}
      [.start true, .arm 0 (2 ^ 63 - 1) true false, .arm 1 20001000001 true false] = some run ∧
    run.timers.waitTimeout 20000000000 = some 2 := by
  obtain ⟨run, hrun⟩ : ∃ run : TimerRun Nat, Transition.run TimerRun.step {}
      [.start true, .arm 0 (2 ^ 63 - 1) true false, .arm 1 20001000001 true false] = some run :=
    ⟨_, rfl⟩
  have h := TimerRun.kept_run hrun
  have hfront : run.timers.heap.nodes.head? = some 1 ∧
      (run.timers.registrations 1).deadline = 20001000001 := by
    obtain rfl := Option.some.inj hrun
    decide
  have hleast := h.sorted.deadline_least h.ok hfront.1
  rw [hfront.2] at hleast
  have hnow : Signed.Fits 64 20000000000 := by decide
  have hceil : ⌈((20001000001 - 20000000000 : Int) : ℚ) / millisecond⌉ = 2 :=
    Signed.ceil_eq millisecond_pos (by decide) (by decide)
  have hwait := (wait_timeout_exact hrun hleast (by decide) hnow).1
  rw [if_neg (by decide), hceil] at hwait
  exact ⟨run, hrun, hwait⟩

end DnsPro.Runtime
