import Mathlib.Data.Rat.Floor
import Mathlib.Algebra.Order.Field.Power
import Mathlib.Tactic.Positivity
import WebCoverage.Number.Binary

/-! Floating-point numbers as exact rational numbers. The finite ones stand for dyadic fractions,
and the integer part of a floating-point number is that of what it stands for. -/

namespace WebCoverage.Number

/-- The rational number that a finite floating-point number stands for. -/
def Binary.rational? : Binary → Option ℚ
  | .finite negative mantissa exponent =>
    some ((if negative then -1 else 1) * (mantissa * 2 ^ exponent))
  | _ => none

def rational? (x : Float) : Option ℚ :=
  (Binary.ofFloat x).rational?

/-- The integer part of a rational number, rounded toward zero. -/
def integerPart (q : ℚ) : Int :=
  if q < 0 then ⌈q⌉ else ⌊q⌋

/-- What is negated has the negated integer part. -/
theorem integerPart_neg (q : ℚ) : integerPart (-q) = -integerPart q := by
  unfold integerPart
  obtain hneg | rfl | hpos := lt_trichotomy q 0
  · rw [if_neg (by linarith), if_pos hneg, Int.floor_neg]
  · simp
  · rw [if_pos (by linarith), if_neg hpos.not_gt, Int.ceil_neg]

theorem integerPart_of_nonneg {q : ℚ} (h : 0 ≤ q) : integerPart q = ⌊q⌋ :=
  if_neg h.not_gt

theorem nonneg_of_integerPart_pos {q : ℚ} (h : 0 < integerPart q) : 0 ≤ q := by
  by_contra hneg
  rw [not_le] at hneg
  have hceil : ⌈q⌉ ≤ 0 := Int.ceil_le.2 (by exact_mod_cast hneg.le)
  rw [integerPart, if_pos hneg] at h
  omega

theorem mul_two_zpow_eq_div (mantissa : Nat) (exponent : Int) :
    (mantissa * 2 ^ exponent : ℚ) =
      Binary.numerator mantissa exponent / Binary.denominator exponent := by
  have hpow : (2 ^ exponent : ℚ) = 2 ^ exponent.toNat / 2 ^ (-exponent).toNat := by
    rw [← zpow_natCast, ← zpow_natCast, ← zpow_sub₀ two_ne_zero]
    congr 1
    omega
  rw [hpow]
  simp [Binary.numerator, Binary.denominator, mul_div_assoc]

theorem floor_mul_two_zpow (mantissa : Nat) (exponent : Int) :
    ⌊(mantissa * 2 ^ exponent : ℚ)⌋ =
      (Binary.numerator mantissa exponent / Binary.denominator exponent : Nat) := by
  rw [mul_two_zpow_eq_div]
  exact Rat.floor_intCast_div_natCast _ _

/-- The integer part of a floating-point number is that of the number it stands for. -/
theorem truncate_eq_ok_iff {x : Float} {n : Int} :
    truncate x = .ok n ↔ ∃ q, rational? x = some q ∧ integerPart q = n := by
  unfold truncate rational?
  cases Binary.ofFloat x with
  | notANumber => simp [Binary.rational?]
  | infinite negative => simp [Binary.rational?]
  | finite negative mantissa exponent =>
    have hnonneg : (0 : ℚ) ≤ mantissa * 2 ^ exponent := by positivity
    cases negative with
    | false =>
      simp [Binary.rational?, integerPart_of_nonneg hnonneg, floor_mul_two_zpow]
    | true =>
      simp [Binary.rational?, integerPart_neg, integerPart_of_nonneg hnonneg, floor_mul_two_zpow]

/-- A number with a positive integer part is that and a fraction. -/
theorem exists_floor_of_truncate {x : Float} {n : Nat} (hn : 0 < n) (h : truncate x = .ok n) :
    ∃ q, rational? x = some q ∧ ⌊q⌋ = n ∧ n ≤ q := by
  obtain ⟨q, hq, hpart⟩ := truncate_eq_ok_iff.1 h
  have hnonneg : 0 ≤ q := nonneg_of_integerPart_pos (hpart ▸ Int.natCast_pos.2 hn)
  rw [integerPart_of_nonneg hnonneg] at hpart
  have hfloor := Int.floor_le q
  rw [hpart, Int.cast_natCast] at hfloor
  exact ⟨q, hq, hpart, hfloor⟩

end WebCoverage.Number
