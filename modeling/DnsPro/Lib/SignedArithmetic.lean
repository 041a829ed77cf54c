import Mathlib.Data.Rat.Floor
import Mathlib.Tactic

/-!
# Signed machine arithmetic

The operations of a signed integer type of `width` bits, on mathematical integers.
An operation has no result where the exact one is not a value of the type.

* `Fits` says which integers are values of the type, and `neg_eq`, `sub_eq`, `add_eq`,
  `mul_eq` and `quotient_eq` that an operation whose exact result fits is exact.
* `Fits.sub_of_same_sign` and `Fits.of_between` bound the differences of two values.
* `ceilTo` rounds a count of small units up to a count of large ones, by a truncated
  quotient that is multiplied back.  `ceilTo_eq` says that no operation of it overflows
  and that it is the exact ceiling, and `ceil_le_iff` is how a ceiling is compared.
-/

namespace DnsPro.Signed

/-- The values of the type. -/
def Fits (width : Nat) (value : Int) : Prop :=
  -2 ^ (width - 1) ≤ value ∧ value < 2 ^ (width - 1)

instance (width : Nat) (value : Int) : Decidable (Fits width value) :=
  inferInstanceAs (Decidable (_ ∧ _))

/-- An exact result, if it is a value of the type. -/
def checked (width : Nat) (value : Int) : Option Int :=
  if Fits width value then some value else none

def neg (width : Nat) (value : Int) : Option Int := checked width (-value)

def add (width : Nat) (left right : Int) : Option Int := checked width (left + right)

def sub (width : Nat) (left right : Int) : Option Int := checked width (left - right)

def mul (width : Nat) (left right : Int) : Option Int := checked width (left * right)

/-- The quotient, truncated toward zero. -/
def quotient (width : Nat) (left right : Int) : Option Int :=
  if right = 0 then none else checked width (left.tdiv right)

/-- The least number of units that is at least `value`. -/
def ceilTo (width : Nat) (unit value : Int) : Option Int := do
  let truncated ← quotient width value unit
  let back ← mul width truncated unit
  if back < value then add width truncated 1 else return truncated

variable {width : Nat} {value left right unit lower upper : Int}

/-! ## Exact results -/

theorem checked_eq (h : Fits width value) : checked width value = some value := if_pos h

theorem neg_eq (h : Fits width (-value)) : neg width value = some (-value) := checked_eq h

theorem add_eq (h : Fits width (left + right)) : add width left right = some (left + right) :=
  checked_eq h

theorem sub_eq (h : Fits width (left - right)) : sub width left right = some (left - right) :=
  checked_eq h

theorem mul_eq (h : Fits width (left * right)) : mul width left right = some (left * right) :=
  checked_eq h

theorem quotient_eq (hright : right ≠ 0) (h : Fits width (left.tdiv right)) :
    quotient width left right = some (left.tdiv right) := by
  unfold quotient
  rw [if_neg hright, checked_eq h]

/-! ## Bounds -/

theorem Fits.of_between (hlower : Fits width lower) (hupper : Fits width upper)
    (h : lower ≤ value) (h' : value ≤ upper) : Fits width value :=
  ⟨hlower.1.trans h, h'.trans_lt hupper.2⟩

theorem fits_zero (width : Nat) : Fits width 0 := by
  have hpositive : (0 : Int) < 2 ^ (width - 1) := by positivity
  exact ⟨by omega, hpositive⟩

/-- The difference of two values of one sign is a value. -/
theorem Fits.sub_of_same_sign (hleft : Fits width left) (hright : Fits width right)
    (hsign : left < 0 ↔ right < 0) : Fits width (left - right) := by
  obtain ⟨hleftLower, hleftUpper⟩ := hleft
  obtain ⟨hrightLower, hrightUpper⟩ := hright
  unfold Fits
  generalize (2 : Int) ^ (width - 1) = bound at *
  by_cases hnegative : right < 0
  · have := hsign.mpr hnegative
    omega
  · have := mt hsign.mp hnegative
    omega

/-! ## Rounding up -/

/-- How a ceiling is compared. -/
theorem ceil_le_iff (hunit : 0 < unit) (count : Int) :
    ⌈(value : ℚ) / unit⌉ ≤ count ↔ value ≤ count * unit := by
  have hunit' : (0 : ℚ) < unit := by exact_mod_cast hunit
  rw [Int.ceil_le, div_le_iff₀ hunit']
  exact_mod_cast Iff.rfl

theorem lt_ceil_iff (hunit : 0 < unit) (count : Int) :
    count < ⌈(value : ℚ) / unit⌉ ↔ count * unit < value := by
  rw [← not_le, ceil_le_iff hunit, not_le]

theorem ceil_pos (hunit : 0 < unit) (hvalue : 0 < value) : 0 < ⌈(value : ℚ) / unit⌉ := by
  rw [lt_ceil_iff hunit, zero_mul]
  exact hvalue

theorem ceil_eq (hunit : 0 < unit) {count : Int} (hlower : (count - 1) * unit < value)
    (hupper : value ≤ count * unit) : ⌈(value : ℚ) / unit⌉ = count := by
  have habove := (lt_ceil_iff hunit (count - 1)).mpr hlower
  have hbelow := (ceil_le_iff hunit count).mpr hupper
  omega

/-- The truncated quotient of a value that is not negative is rounded down. -/
theorem tdiv_of_nonneg (hunit : 0 < unit) (hvalue : 0 ≤ value) :
    0 ≤ value.tdiv unit ∧ value.tdiv unit ≤ value.tdiv unit * unit ∧
      value.tdiv unit * unit ≤ value ∧ value < (value.tdiv unit + 1) * unit := by
  have hquotient := Int.tdiv_nonneg hvalue hunit.le
  have hrest := Int.tmod_nonneg unit hvalue
  have hsplit := Int.tdiv_mul_add_tmod value unit
  exact ⟨hquotient, le_mul_of_one_le_right hquotient hunit, by omega,
    Int.lt_tdiv_add_one_mul_self value hunit⟩

/-- The truncated quotient of a negative value is rounded up. -/
theorem tdiv_of_neg (hunit : 0 < unit) (hvalue : value < 0) :
    value.tdiv unit ≤ 0 ∧ value.tdiv unit * unit ≤ value.tdiv unit ∧
      value ≤ value.tdiv unit * unit ∧ (value.tdiv unit - 1) * unit < value := by
  obtain ⟨hquotient, hproduct, hbelow, habove⟩ :=
    tdiv_of_nonneg hunit (neg_nonneg.mpr hvalue.le)
  rw [Int.neg_tdiv] at hquotient hproduct hbelow habove
  rw [neg_mul] at hproduct hbelow
  have hnegated : (-value.tdiv unit + 1) * unit = -((value.tdiv unit - 1) * unit) := by ring
  omega

/-- Rounding up is exact, and no operation of it overflows. -/
theorem ceilTo_eq (hunit : 0 < unit) (h : Fits width value) :
    ceilTo width unit value = some ⌈(value : ℚ) / unit⌉ := by
  have hzero := fits_zero width
  unfold ceilTo
  by_cases hvalue : 0 ≤ value
  · obtain ⟨hquotient, hproduct, hbelow, habove⟩ := tdiv_of_nonneg hunit hvalue
    rw [quotient_eq hunit.ne' (hzero.of_between h hquotient (hproduct.trans hbelow))]
    dsimp only [Option.bind_eq_bind, Option.bind_some]
    rw [mul_eq (hzero.of_between h (hquotient.trans hproduct) hbelow)]
    dsimp only [Option.bind_some]
    split
    · rename_i hless
      rw [add_eq (hzero.of_between h (by omega) (by omega)), ceil_eq hunit ?_ habove.le]
      rwa [add_sub_cancel_right]
    · rename_i hexact
      rw [ceil_eq hunit ?_ (not_lt.mp hexact)]
      · rfl
      · rw [sub_mul, one_mul]
        omega
  · obtain ⟨hquotient, hproduct, hbelow, habove⟩ := tdiv_of_neg hunit (not_le.mp hvalue)
    rw [quotient_eq hunit.ne' (h.of_between hzero (hbelow.trans hproduct) hquotient)]
    dsimp only [Option.bind_eq_bind, Option.bind_some]
    rw [mul_eq (h.of_between hzero hbelow (hproduct.trans hquotient))]
    dsimp only [Option.bind_some]
    rw [if_neg (not_lt.mpr hbelow), ceil_eq hunit habove hbelow]
    rfl

end DnsPro.Signed
