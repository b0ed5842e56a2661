import Mathlib.Algebra.Order.Ring.Nat
import Mathlib.Data.List.TakeWhile
import WebCoverage.Number.Format

/-! Decimal digits of whole numbers. A number that has no more digits than are asked for is not
rounded, and what is laid out is all of its digits (`Layout.digitsText_rounded_mul`). -/

namespace WebCoverage.Number

variable {n den count : Nat}

/-! ## Counting digits -/

namespace Decimal

theorem digitCount_pos (n : Nat) : 0 < digitCount n :=
  Nat.length_toDigits_pos

theorem digitCount_le_iff (hcount : 0 < count) : digitCount n ≤ count ↔ n < 10 ^ count :=
  Nat.length_toDigits_le_iff (by decide) hcount

theorem lt_pow_digitCount (n : Nat) : n < 10 ^ digitCount n :=
  (digitCount_le_iff (digitCount_pos n)).1 le_rfl

/-- The first digit of a number is not a zero. -/
theorem pow_le_of_pos (h : 0 < n) : 10 ^ (digitCount n - 1) ≤ n := by
  obtain ⟨count, hcount⟩ : ∃ count, digitCount n = count + 1 :=
    Nat.exists_eq_succ_of_ne_zero (digitCount_pos n).ne'
  rw [hcount, Nat.add_sub_cancel]
  obtain rfl | hpos := count.eq_zero_or_pos
  · rw [pow_zero]
    exact h
  · by_contra hlt
    have hle := (digitCount_le_iff hpos).2 (not_le.1 hlt)
    omega

/-- The digits of two factors together are those of their product, or one more. -/
theorem digitCount_mul (hn : 0 < n) (hden : 0 < den) :
    digitCount (n * den) = digitCount n + digitCount den ∨
      digitCount (n * den) + 1 = digitCount n + digitCount den := by
  have hcount := digitCount_pos n
  have hcount' := digitCount_pos den
  have hle : digitCount (n * den) ≤ digitCount n + digitCount den := by
    rw [digitCount_le_iff (by omega), pow_add]
    exact Nat.mul_lt_mul'' (lt_pow_digitCount n) (lt_pow_digitCount den)
  have hge : digitCount n + digitCount den ≤ digitCount (n * den) + 1 := by
    by_contra! hlt
    have hsmall : n * den < 10 ^ (digitCount n - 1 + (digitCount den - 1)) :=
      (lt_pow_digitCount _).trans_le (Nat.pow_le_pow_right (by decide) (by omega))
    rw [pow_add] at hsmall
    exact hsmall.not_ge (Nat.mul_le_mul (pow_le_of_pos hn) (pow_le_of_pos hden))
  omega

/-! ## Rounding -/

theorem power_natCast (k : Nat) : power k = (10 ^ k, 1) := by
  unfold power
  simp

theorem power_neg_natCast (k : Nat) : power (-k) = (1, 10 ^ k) := by
  unfold power
  simp

theorem leading_mul (hn : 0 < n) (hden : 0 < den) :
    leading (n * den) den = (digitCount n - 1 : Nat) := by
  have hcount := digitCount_pos n
  have hscale (k : Nat) : n * den * 1 < den * 10 ^ k ↔ n < 10 ^ k := by
    rw [mul_one, mul_comm n, Nat.mul_lt_mul_left hden]
  unfold leading
  dsimp only
  obtain hmul | hmul := digitCount_mul hn hden
  · have hguess : (digitCount (n * den) - digitCount den : Int) = digitCount n := by omega
    rw [hguess, power_natCast, if_pos ((hscale _).2 (lt_pow_digitCount n))]
    omega
  · have hguess : (digitCount (n * den) - digitCount den : Int) = (digitCount n - 1 : Nat) := by
      omega
    rw [hguess, power_natCast, if_neg fun h => ((hscale _).1 h).not_ge (pow_le_of_pos hn)]

theorem roundDiv_mul (hden : 0 < den) : roundDiv (n * den) den = n := by
  unfold roundDiv
  rw [Nat.mul_mod_left, Nat.mul_div_cancel n hden]
  exact if_pos hden

/-- A number that has no more than `count` digits gets zeros behind them. -/
theorem rounded_mul (hn : 0 < n) (hden : 0 < den) (hlt : n < 10 ^ count) :
    rounded count (n * den) den =
      ⟨n * 10 ^ (count - digitCount n), (digitCount n - 1 : Nat)⟩ := by
  have hcount : 0 < count := by
    by_contra! hzero
    rw [Nat.le_zero.1 hzero, pow_zero] at hlt
    omega
  have hle := (digitCount_le_iff hcount).2 hlt
  have hfirst := digitCount_pos n
  have hunit : ((digitCount n - 1 : Nat) - (count - 1) : Int) = -(count - digitCount n : Nat) := by
    omega
  have hscaled : n * den * 10 ^ (count - digitCount n) =
      n * 10 ^ (count - digitCount n) * den :=
    mul_right_comm ..
  have hcarry : n * 10 ^ (count - digitCount n) ≠ Nat.pow 10 count := by
    have hlast : n * 10 ^ (count - digitCount n) < 10 ^ count := by
      calc n * 10 ^ (count - digitCount n)
          < 10 ^ digitCount n * 10 ^ (count - digitCount n) :=
            Nat.mul_lt_mul_of_pos_right (lt_pow_digitCount n) (Nat.pow_pos (by decide))
        _ = 10 ^ count := by rw [← pow_add, Nat.add_sub_cancel' hle]
    exact hlast.ne
  unfold rounded
  rw [leading_mul hn hden]
  dsimp only
  rw [hunit, scaled, power_neg_natCast]
  dsimp only
  rw [mul_one, hscaled, roundDiv_mul hden, carried, if_neg hcarry]

end Decimal

/-! ## Laying out -/

theorem toDigits_mul_pow (hn : 0 < n) (k : Nat) :
    Nat.toDigits 10 (n * 10 ^ k) = Nat.toDigits 10 n ++ List.replicate k '0' := by
  induction k with
  | zero => rw [pow_zero, mul_one, List.replicate_zero, List.append_nil]
  | succ k ih =>
    have hzero : Nat.toDigits 10 0 = ['0'] := rfl
    have happend := Nat.toDigits_append_toDigits (b := 10) (n := n * 10 ^ k) (d := 0) (by decide)
      (Nat.mul_pos hn (Nat.pow_pos (by decide))) (by decide)
    rw [ih, hzero, Nat.add_zero] at happend
    rw [pow_succ', mul_left_comm, ← happend, List.append_assoc, List.replicate_succ']

/-- What is left of a text without the zeros at its end. -/
def withoutZeros (digits : List Char) : List Char :=
  (digits.reverse.dropWhile (· = '0')).reverse

theorem withoutZeros_append_replicate (digits : List Char) (k : Nat) :
    withoutZeros (digits ++ List.replicate k '0') = withoutZeros digits := by
  unfold withoutZeros
  rw [List.reverse_append, List.reverse_replicate, List.dropWhile_append_of_pos]
  intro c hc
  exact decide_eq_true (List.eq_of_mem_replicate hc)

/-- The zeros that were dropped make up the length. -/
theorem exists_withoutZeros_append (digits : List Char) :
    ∃ k, withoutZeros digits ++ List.replicate k '0' = digits := by
  have hzeros : digits.reverse.takeWhile (· = '0') =
      List.replicate (digits.reverse.takeWhile (· = '0')).length '0' := by
    refine List.eq_replicate_of_mem fun c hc => ?_
    exact of_decide_eq_true (List.mem_takeWhile_imp (p := fun c => decide (c = '0')) hc)
  refine ⟨(digits.reverse.takeWhile (· = '0')).length, ?_⟩
  rw [withoutZeros, ← List.reverse_replicate, ← hzeros, ← List.reverse_append,
    List.takeWhile_append_dropWhile, List.reverse_reverse]

namespace Layout

/-- Digits that end at the point or before it are filled up with zeros. -/
theorem digitsText_of_length_le {least bound : Int} {whole : Nat} (hleast : least ≤ 0)
    (hbound : (whole : Int) < bound)
    (hlength : (withoutZeros (Nat.toDigits 10 n)).length ≤ whole + 1) :
    (⟨least, bound, false⟩ : Layout).digitsText ⟨n, whole⟩ =
      String.ofList (withoutZeros (Nat.toDigits 10 n) ++
        List.replicate (whole + 1 - (withoutZeros (Nat.toDigits 10 n)).length) '0') := by
  have hplace : least ≤ whole ∧ (whole : Int) < bound := ⟨by omega, hbound⟩
  unfold digitsText
  dsimp only
  rw [if_pos hplace, if_neg (by omega), Int.toNat_natCast, String.ofList_append]
  exact (if_pos hlength).trans String.append_empty

/-- A number that has no more than `count` digits is written with all of them. -/
theorem digitsText_rounded_mul {least : Int} (hleast : least ≤ 0) (hn : 0 < n) (hden : 0 < den)
    (hlt : n < 10 ^ count) :
    (⟨least, count, false⟩ : Layout).digitsText (Decimal.rounded count (n * den) den) =
      toString n := by
  have hfirst := Decimal.digitCount_pos n
  have hcount : Decimal.digitCount n ≤ count := by
    refine (Decimal.digitCount_le_iff (Nat.pos_of_ne_zero ?_)).2 hlt
    rintro rfl
    omega
  obtain ⟨k, hk⟩ := exists_withoutZeros_append (Nat.toDigits 10 n)
  have hlength : (withoutZeros (Nat.toDigits 10 n)).length + k = Decimal.digitCount n := by
    have hlength := congrArg List.length hk
    rwa [List.length_append, List.length_replicate] at hlength
  have hfill : Decimal.digitCount n - 1 + 1 - (withoutZeros (Nat.toDigits 10 n)).length = k := by
    omega
  have hdigits : withoutZeros (Nat.toDigits 10 (n * 10 ^ (count - Decimal.digitCount n))) =
      withoutZeros (Nat.toDigits 10 n) := by
    rw [toDigits_mul_pow hn, withoutZeros_append_replicate]
  rw [Decimal.rounded_mul hn hden hlt, digitsText_of_length_le hleast (by omega), hdigits, hfill,
    hk, Nat.toString_eq_ofList_toDigits]
  rw [hdigits]
  omega

end Layout

end WebCoverage.Number
