import Mathlib
import WebCoverage.Number.Binary

/-! How floating-point arithmetic rounds. A result is computed as an integer mantissa with two bits
for what lies below it (`Represents`), and rounding keeps the order: no number with a place among
the floating-point ones lies strictly between a result and its rounding (`Rounded`). A positive
result is lost only where half of the least positive number is not exceeded. -/

namespace WebCoverage.Number

open Float.Model Float.Model.UnpackedFloat

/-! ## Mantissas -/

/-- The number that an extended mantissa stands for. The residual bits say where it lies between the
mantissa and the next one. -/
def Represents (em : ExtendedMantissa) (y : ℚ) : Prop :=
  match em.roundBit, em.stickyBit with
  | false, false => y = em.mantissa
  | false, true => em.mantissa < y ∧ y < em.mantissa + 1 / 2
  | true, false => y = em.mantissa + 1 / 2
  | true, true => em.mantissa + 1 / 2 < y ∧ y < em.mantissa + 1

variable {em : ExtendedMantissa} {x y : ℚ} {m : Nat} {e : Int} {accuracy : Accuracy} {sign : Sign}

theorem Represents.mantissa_le (h : Represents em y) : em.mantissa ≤ y := by
  obtain ⟨m, roundBit, stickyBit⟩ := em
  cases roundBit <;> cases stickyBit <;> simp only [Represents] at h ⊢ <;> linarith

theorem Represents.lt_mantissa_add_one (h : Represents em y) : y < em.mantissa + 1 := by
  obtain ⟨m, roundBit, stickyBit⟩ := em
  cases roundBit <;> cases stickyBit <;> simp only [Represents] at h ⊢ <;> linarith

/-- A bit that is shifted out of the mantissa tells where the number lies. -/
theorem Represents.shiftRightOne (h : Represents em y) : Represents em.shiftRightOne (y / 2) := by
  obtain ⟨m, roundBit, stickyBit⟩ := em
  have hm : (m : ℚ) = 2 * (m / 2 : Nat) + (m % 2 : Nat) := by
    exact_mod_cast (Nat.div_add_mod m 2).symm
  obtain hbit | hbit := Nat.mod_two_eq_zero_or_one m
  · have hround : (m % 2 != 0) = false := by rw [hbit]; rfl
    rw [hbit] at hm
    cases roundBit <;> cases stickyBit <;>
      simp only [Represents, ExtendedMantissa.shiftRightOne, hround, Bool.or_false, Bool.or_true,
        Bool.or_self] at h ⊢ <;>
      norm_num at h hm ⊢ <;> (try constructor) <;> linarith
  · have hround : (m % 2 != 0) = true := by rw [hbit]; rfl
    rw [hbit] at hm
    cases roundBit <;> cases stickyBit <;>
      simp only [Represents, ExtendedMantissa.shiftRightOne, hround, Bool.or_false, Bool.or_true,
        Bool.or_self] at h ⊢ <;>
      norm_num at h hm ⊢ <;> (try constructor) <;> linarith

theorem Represents.shiftRight (h : Represents em y) (n : Nat) :
    Represents (em >>> n) (y / 2 ^ n) := by
  induction n with
  | zero => simpa [HShiftRight.hShiftRight, Nat.repeat] using h
  | succ n ih =>
    rw [pow_succ, ← div_div]
    exact ih.shiftRightOne

/-- A mantissa is rounded down up to the middle, and up from there. In the middle only an odd one is
rounded up. -/
theorem Represents.roundedMantissa_cases (h : Represents em y) :
    em.roundedMantissa = em.mantissa ∧ y ≤ em.mantissa + 1 / 2 ∨
      em.roundedMantissa = em.mantissa + 1 ∧ em.mantissa + 1 / 2 ≤ y ∧
        (em.mantissa = 0 → 1 / 2 < y) := by
  obtain ⟨m, roundBit, stickyBit⟩ := em
  cases roundBit <;> cases stickyBit <;>
    simp only [Represents, ExtendedMantissa.roundedMantissa, ExtendedMantissa.accuracy,
      Accuracy.roundToNearestEven] at h ⊢
  · exact .inl ⟨trivial, by linarith⟩
  · exact .inl ⟨trivial, h.2.le⟩
  · obtain heven | hodd := Nat.mod_two_eq_zero_or_one m
    · exact .inl ⟨by rw [heven, Nat.add_zero], h.le⟩
    · exact .inr ⟨by rw [hodd], h.ge, by rintro rfl; cases hodd⟩
  · refine .inr ⟨trivial, h.1.le, ?_⟩
    rintro rfl
    simpa using h.1

/-- Rounding passes no integer. -/
theorem Represents.roundedMantissa_le {n : Nat} (h : Represents em y) (hn : y ≤ n) :
    em.roundedMantissa ≤ n := by
  obtain ⟨heq, -⟩ | ⟨heq, hmiddle, -⟩ := h.roundedMantissa_cases
  · rw [heq]
    exact_mod_cast h.mantissa_le.trans hn
  · have hlt : (em.mantissa : ℚ) < n := by linarith
    rw [heq]
    exact_mod_cast hlt

theorem Represents.le_roundedMantissa {n : Nat} (h : Represents em y) (hn : n ≤ y) :
    n ≤ em.roundedMantissa := by
  have hle : n ≤ em.mantissa := by
    have hlt : (n : ℚ) < em.mantissa + 1 := hn.trans_lt h.lt_mantissa_add_one
    exact Nat.lt_succ_iff.1 (by exact_mod_cast hlt)
  obtain ⟨heq, -⟩ | ⟨heq, -⟩ := h.roundedMantissa_cases <;> omega

/-- What does not exceed one half is rounded to zero. -/
theorem Represents.roundedMantissa_eq_zero_iff (h : Represents em y) :
    em.roundedMantissa = 0 ↔ y ≤ 1 / 2 := by
  obtain ⟨heq, hmiddle⟩ | ⟨heq, hmiddle, hzero⟩ := h.roundedMantissa_cases
  · rw [heq]
    constructor
    · intro hm
      simpa [hm] using hmiddle
    · intro hy
      have hlt : (em.mantissa : ℚ) < 1 := by linarith [h.mantissa_le]
      exact Nat.lt_one_iff.1 (by exact_mod_cast hlt)
  · rw [heq]
    refine iff_of_false (Nat.succ_ne_zero _) fun hy => ?_
    have hm : em.mantissa = 0 := by
      have hle : (em.mantissa : ℚ) ≤ 0 := by linarith
      exact Nat.le_zero.1 (by exact_mod_cast hle)
    exact (hzero hm).not_ge hy

theorem represents_exact (m : Nat) : Represents (.ofMantissaAndAccuracy m .exact) m := rfl

/-- What is known of a fraction tells where it lies. -/
theorem represents_fraction (q : Nat) {r d : Nat} (h : r < d) :
    Represents (.ofMantissaAndAccuracy q (accuracyOfFraction r d)) (q + r / d) := by
  have hd : (0 : ℚ) < d := by exact_mod_cast (Nat.zero_le r).trans_lt h
  unfold accuracyOfFraction
  by_cases hr : r = 0
  · rw [if_pos hr, hr]
    simp [Represents, ExtendedMantissa.ofMantissaAndAccuracy]
  · rw [if_neg hr]
    have hpos : (0 : ℚ) < r / d := by positivity
    cases hcompare : compare (2 * r) d with
    | lt =>
      have hhalf : (r / d : ℚ) < 1 / 2 := by
        rw [div_lt_div_iff₀ hd two_pos, one_mul, mul_comm]
        exact_mod_cast Nat.compare_eq_lt.1 hcompare
      exact ⟨lt_add_of_pos_right _ hpos, add_lt_add_right hhalf _⟩
    | eq =>
      have hhalf : (r / d : ℚ) = 1 / 2 := by
        rw [div_eq_div_iff hd.ne' two_ne_zero, one_mul, mul_comm]
        exact_mod_cast Nat.compare_eq_eq.1 hcompare
      exact congrArg _ hhalf
    | gt =>
      have hhalf : (1 / 2 : ℚ) < r / d := by
        rw [div_lt_div_iff₀ two_pos hd, one_mul, mul_comm]
        exact_mod_cast Nat.compare_eq_gt.1 hcompare
      have hone : (r / d : ℚ) < 1 := by
        rw [div_lt_one hd]
        exact_mod_cast h
      exact ⟨add_lt_add_right hhalf _, add_lt_add_right hone _⟩

/-- The integer part of a quotient, with the accuracy that its remainder tells. -/
theorem represents_div (n : Nat) {d : Nat} (hd : 0 < d) :
    Represents (.ofMantissaAndAccuracy (n / d) (accuracyOfFraction (n % d) d)) (n / d) := by
  have hd' : (d : ℚ) ≠ 0 := by exact_mod_cast hd.ne'
  have hn : (n / d : ℚ) = (n / d : Nat) + (n % d : Nat) / d := by
    have hdiv : (n : ℚ) = d * (n / d : Nat) + (n % d : Nat) := by
      exact_mod_cast (Nat.div_add_mod n d).symm
    rw [div_eq_iff hd', add_mul, div_mul_cancel₀ _ hd', hdiv]
    ring
  rw [hn]
  exact represents_fraction _ (Nat.mod_lt n hd)

/-! ## Numbers with a place among the floating-point ones -/

/-- The mantissas and exponents of floating-point numbers that are not zero, but for a bound on the
exponent. -/
structure Canonical (m : Nat) (e : Int) : Prop where
  lt : m < 2 ^ 53
  le : -1074 ≤ e
  normal : 2 ^ 52 ≤ m ∨ e = -1074

/-- A number that could be a floating-point one if these were not bounded. -/
def IsBinary (c : ℚ) : Prop :=
  ∃ (m : Nat) (e : Int), m ≤ 2 ^ 53 ∧ -1074 ≤ e ∧ c = m * 2 ^ e

theorem IsBinary.nonneg {c : ℚ} (h : IsBinary c) : 0 ≤ c := by
  obtain ⟨m, e, -, -, rfl⟩ := h
  positivity

/-- A number that is not negative, and what it is rounded to. Rounding passes no floating-point
number, and only what does not exceed half of the least positive one is lost. -/
structure Rounded (x r : ℚ) : Prop where
  le_of_le : ∀ {c}, IsBinary c → x ≤ c → r ≤ c
  ge_of_le : ∀ {c}, IsBinary c → c ≤ x → c ≤ r
  eq_zero_iff : r = 0 ↔ x ≤ 2 ^ (-1075 : Int)

/-- A magnitude rounded, with a sign. -/
inductive RoundsTo (sign : Sign) (x : ℚ) : UnpackedFloat → Prop
  | zero : Rounded x 0 → RoundsTo sign x (.zero sign)
  | finite {m : Nat} {e : Int} {hpos : 0 < m} :
      Canonical m e → Rounded x (m * 2 ^ e) → RoundsTo sign x (.finite sign m e hpos)

/-- The greatest number that is lost is half of the least positive floating-point number. -/
theorem half_least : (2 ^ (-1075 : Int) : ℚ) = 1 / 2 * 2 ^ (-1074 : Int) := by
  rw [show (-1075 : Int) = -1074 - 1 by rfl, zpow_sub_one₀ two_ne_zero]
  ring

/-- A number is a multiple of a unit, or below all numbers with that unit. -/
theorem IsBinary.place {c : ℚ} (h : IsBinary c) (e : Int) :
    (∃ n : Nat, c = n * 2 ^ e) ∨ -1074 < e ∧ c ≤ (2 ^ 52 : Nat) * 2 ^ e := by
  obtain ⟨m, e', hm, he', rfl⟩ := h
  obtain hle | hlt := le_or_gt e e'
  · refine .inl ⟨m * 2 ^ (e' - e).toNat, ?_⟩
    rw [Nat.cast_mul, Nat.cast_pow, Nat.cast_ofNat, ← zpow_natCast, mul_assoc,
      ← zpow_add₀ two_ne_zero, Int.toNat_of_nonneg (by omega), sub_add_cancel]
  · refine .inr ⟨by omega, ?_⟩
    calc (m * 2 ^ e' : ℚ) ≤ (2 ^ 53 : Nat) * 2 ^ (e - 1) := by
          gcongr
          · norm_num
          · omega
      _ = (2 ^ 52 : Nat) * 2 ^ e := by
          rw [zpow_sub_one₀ two_ne_zero]
          push_cast
          ring

/-- Rounding to a multiple of `2 ^ e` is rounding if the number has no more than 53 bits above
that, and all of them unless there is no smaller exponent. -/
theorem rounded_of_represents (h : Represents em y) (he : -1074 ≤ e)
    (hnormal : 2 ^ 52 ≤ y ∨ e = -1074) :
    Rounded (y * 2 ^ e) (em.roundedMantissa * 2 ^ e) := by
  have hpos : (0 : ℚ) < 2 ^ e := by positivity
  refine ⟨fun {c} hc hle => ?_, fun {c} hc hle => ?_, ?_⟩
  · obtain ⟨n, rfl⟩ | ⟨hlt, hsmall⟩ := hc.place e
    · have hn := h.roundedMantissa_le (le_of_mul_le_mul_right hle hpos)
      gcongr
    · have hy : 2 ^ 52 ≤ y := hnormal.resolve_right hlt.ne'
      have hy' : y ≤ (2 ^ 52 : Nat) := le_of_mul_le_mul_right (hle.trans hsmall) hpos
      have hn : em.roundedMantissa ≤ 2 ^ 52 := h.roundedMantissa_le hy'
      refine le_trans ?_ hle
      gcongr
      refine le_trans (by exact_mod_cast hn) hy
  · obtain ⟨n, rfl⟩ | ⟨hlt, hsmall⟩ := hc.place e
    · have hn := h.le_roundedMantissa (le_of_mul_le_mul_right hle hpos)
      gcongr
    · have hy : 2 ^ 52 ≤ y := hnormal.resolve_right hlt.ne'
      have hn : 2 ^ 52 ≤ em.roundedMantissa := h.le_roundedMantissa (by exact_mod_cast hy)
      refine hsmall.trans ?_
      gcongr
  · rw [mul_eq_zero_iff_right hpos.ne', Nat.cast_eq_zero, h.roundedMantissa_eq_zero_iff,
      half_least]
    obtain hy | rfl := hnormal
    · have hexp : (2 ^ (-1074 : Int) : ℚ) ≤ 2 ^ e := zpow_le_zpow_right₀ one_le_two he
      refine iff_of_false (by linarith) (not_le.2 ?_)
      calc (1 / 2 * 2 ^ (-1074 : Int) : ℚ) < 1 * 2 ^ (-1074 : Int) := by
            gcongr
            norm_num
        _ ≤ y * 2 ^ e := by
            gcongr
            linarith
    · exact (mul_le_mul_iff_left₀ hpos).symm

theorem targetExponent_eq (t : Int) :
    Format.binary64.targetExponent t = max (t - 53) (-1074) := rfl

theorem shiftToTargetExponent_eq {n : Nat} {e' : Int} (m : Nat) (accuracy : Accuracy)
    (htarget : Format.binary64.targetExponent (totalExponent m e) = e') (hn : (e' - e).toNat = n) :
    shiftToTargetExponent Format.binary64 m e accuracy =
      (ExtendedMantissa.ofMantissaAndAccuracy m accuracy >>> n, e + n) := by
  subst hn
  rw [shiftToTargetExponent, htarget]
  rfl

/-- A mantissa that has been rounded up to too many bits is shifted once more, and any other not at
all. -/
theorem shift_rounded (he : -1074 ≤ e) (hm : m ≤ 2 ^ 53) :
    (m < 2 ^ 53 ∧
      shiftToTargetExponent Format.binary64 m e .exact = (⟨m, false, false⟩, e)) ∨
    (m = 2 ^ 53 ∧
      shiftToTargetExponent Format.binary64 m e .exact = (⟨2 ^ 52, false, false⟩, e + 1)) := by
  obtain hlt | rfl := hm.lt_or_eq
  · have hlog : m.log2 ≤ 52 := by
      by_cases hzero : m = 0
      · rw [hzero]
        decide
      · exact Nat.lt_succ_iff.1 ((Nat.log2_lt hzero).2 hlt)
    refine .inl ⟨hlt, ?_⟩
    rw [shiftToTargetExponent_eq m .exact (targetExponent_eq _) (n := 0) (by
      rw [totalExponent]
      omega)]
    simp [HShiftRight.hShiftRight, Nat.repeat, ExtendedMantissa.ofMantissaAndAccuracy]
  · refine .inr ⟨rfl, ?_⟩
    have hlog : (2 ^ 53).log2 = 53 := Nat.log2_two_pow
    rw [shiftToTargetExponent_eq _ .exact (targetExponent_eq _) (n := 1) (by
      rw [totalExponent]
      omega)]
    rfl

theorem roundWithAccuracy_eq {em' : ExtendedMantissa} {t t' : Int} (sign : Sign)
    (hfirst : shiftToTargetExponent Format.binary64 m e accuracy = (em, t))
    (hcarry : shiftToTargetExponent Format.binary64 em.roundedMantissa t .exact = (em', t')) :
    roundWithAccuracy Format.binary64 sign m e accuracy =
      if h : em'.mantissa = 0 then .zero sign
      else .finite sign em'.mantissa t' (Nat.pos_of_ne_zero h) := by
  simp only [roundWithAccuracy, hfirst, hcarry]

/-- The first shift leaves the bits that are kept above the point, and all of them unless the least
exponent is reached. -/
theorem exists_shift (h : Represents (.ofMantissaAndAccuracy m accuracy) y)
    (hbits : 2 ^ 52 ≤ m ∨ e ≤ -1074) :
    ∃ (n : Nat) (t : Int), e + n = t ∧ -1074 ≤ t ∧
      shiftToTargetExponent Format.binary64 m e accuracy =
        (ExtendedMantissa.ofMantissaAndAccuracy m accuracy >>> n, t) ∧
      y / 2 ^ n ≤ (2 ^ 53 : Nat) ∧ (2 ^ 52 ≤ y / 2 ^ n ∨ t = -1074) := by
  obtain ⟨t, htarget⟩ : ∃ t, Format.binary64.targetExponent (totalExponent m e) = t := ⟨_, rfl⟩
  obtain ⟨n, hn⟩ : ∃ n, (t - e).toNat = n := ⟨_, rfl⟩
  have ht : t = max (totalExponent m e - 53) (-1074) := htarget.symm
  rw [totalExponent] at ht
  have hlog : 2 ^ 52 ≤ m → 52 ≤ m.log2 := fun hm => (Nat.le_log2 (by omega)).2 hm
  have hexp : e + n = t := by omega
  have hmantissa : (ExtendedMantissa.ofMantissaAndAccuracy m accuracy).mantissa = m := by
    unfold ExtendedMantissa.ofMantissaAndAccuracy
    split <;> rfl
  have hlower := h.mantissa_le
  have hupper := h.lt_mantissa_add_one
  rw [hmantissa] at hlower hupper
  have hpow : (0 : ℚ) < 2 ^ n := by positivity
  refine ⟨n, t, hexp, by omega, hexp ▸ shiftToTargetExponent_eq m accuracy htarget hn, ?_, ?_⟩
  · have hm : m + 1 ≤ 2 ^ 53 * 2 ^ n := by
      rw [← Nat.pow_add]
      exact (Nat.lt_log2_self (n := m)).trans_le (Nat.pow_le_pow_right two_pos (by omega))
    rw [div_le_iff₀ hpow]
    exact hupper.le.trans (by exact_mod_cast hm)
  · by_cases hmin : t = -1074
    · exact .inr hmin
    · have hzero : m ≠ 0 := by
        rintro rfl
        have hzero : Nat.log2 0 = 0 := by decide
        omega
      have hm : 2 ^ 52 * 2 ^ n ≤ m := by
        rw [← Nat.pow_add, show 52 + n = m.log2 by omega]
        exact Nat.log2_self_le hzero
      exact .inl ((le_div_iff₀ hpow).2 (le_trans (by exact_mod_cast hm) hlower))

/-- Rounding a number that is given by its integer part and the accuracy of that. -/
theorem roundsTo_roundWithAccuracy (sign : Sign)
    (h : Represents (.ofMantissaAndAccuracy m accuracy) y) (hbits : 2 ^ 52 ≤ m ∨ e ≤ -1074) :
    RoundsTo sign (y * 2 ^ e) (roundWithAccuracy Format.binary64 sign m e accuracy) := by
  obtain ⟨n, t, hexp, ht, hshift, hupper, hnormal⟩ := exists_shift h hbits
  have hfirst := h.shiftRight n
  have hvalue : y * 2 ^ e = y / 2 ^ n * 2 ^ t := by
    rw [← hexp, zpow_add₀ two_ne_zero, zpow_natCast]
    field_simp
  have hrounded := rounded_of_represents hfirst ht hnormal
  have hbound := hfirst.roundedMantissa_le hupper
  have hcanonical := hnormal.imp_left fun hle => hfirst.le_roundedMantissa (by exact_mod_cast hle)
  rw [hvalue]
  obtain ⟨hlt, hcarry⟩ | ⟨hmax, hcarry⟩ := shift_rounded ht hbound
  · rw [roundWithAccuracy_eq sign hshift hcarry]
    split
    · next hzero =>
      dsimp only at hzero
      rw [hzero, Nat.cast_zero, zero_mul] at hrounded
      exact .zero hrounded
    · exact .finite ⟨hlt, ht, hcanonical⟩ hrounded
  · rw [roundWithAccuracy_eq sign hshift hcarry, dif_neg (by decide)]
    refine .finite ⟨by decide, by omega, .inl le_rfl⟩ ?_
    have hdouble : ((2 ^ 52 : Nat) * 2 ^ (t + 1) : ℚ) = (2 ^ 53 : Nat) * 2 ^ t := by
      rw [zpow_add_one₀ two_ne_zero]
      push_cast
      ring
    rw [hdouble, ← hmax]
    exact hrounded

/-! ## Sums and quotients -/

/-- Rounding a whole number of units. -/
theorem roundsTo_round (sign : Sign) (hm : 0 < m) (e : Int) :
    RoundsTo sign (m * 2 ^ e) (UnpackedFloat.round Format.binary64 sign m e) := by
  obtain ⟨t, htarget⟩ : ∃ t, Format.binary64.targetExponent (totalExponent m e) = t := ⟨_, rfl⟩
  obtain ⟨n, hn⟩ : ∃ n, (e - t).toNat = n := ⟨_, rfl⟩
  have ht : t = max (totalExponent m e - 53) (-1074) := htarget.symm
  rw [totalExponent] at ht
  have hbits : 2 ^ 52 ≤ m * 2 ^ n ∨ e - n ≤ -1074 := by
    by_cases hmin : t = -1074
    · exact .inr (by omega)
    · refine .inl ?_
      calc 2 ^ 52 ≤ 2 ^ (m.log2 + n) := Nat.pow_le_pow_right two_pos (by omega)
        _ = 2 ^ m.log2 * 2 ^ n := Nat.pow_add ..
        _ ≤ m * 2 ^ n := Nat.mul_le_mul_right _ (Nat.log2_self_le hm.ne')
  have hvalue : (m * 2 ^ e : ℚ) = (m * 2 ^ n : Nat) * 2 ^ (e - n) := by
    rw [zpow_sub₀ two_ne_zero, zpow_natCast]
    push_cast
    field_simp
  rw [hvalue, UnpackedFloat.round, decreaseExponent, htarget, hn, Nat.shiftLeft_eq]
  exact roundsTo_roundWithAccuracy sign (represents_exact _) hbits

/-- Rounding a quotient. -/
theorem roundsTo_divCore {m' : Nat} {e' : Int} (sign : Sign) (hm : 0 < m) (hm' : 0 < m') :
    RoundsTo sign (m * 2 ^ e / (m' * 2 ^ e'))
      (roundWithAccuracy Format.binary64 sign (divCore Format.binary64 m e m' e').1
        (divCore Format.binary64 m e m' e').2.1 (divCore Format.binary64 m e m' e').2.2) := by
  obtain ⟨t, ht⟩ : ∃ t, min (e - e') (Format.binary64.targetExponent
      (totalExponent m e - totalExponent m' e')) = t := ⟨_, rfl⟩
  obtain ⟨n, hn⟩ : ∃ n, (e - e' - t).toNat = n := ⟨_, rfl⟩
  have hcore : divCore Format.binary64 m e m' e' =
      (m * 2 ^ n / m', t, accuracyOfFraction (m * 2 ^ n % m') m') := by
    rw [divCore, ht, hn, Nat.shiftLeft_eq]
  rw [targetExponent_eq, totalExponent, totalExponent] at ht
  have hexp : e - e' = t + n := by omega
  have hbits : 2 ^ 52 ≤ m * 2 ^ n / m' ∨ t ≤ -1074 := by
    by_cases hmin : t ≤ -1074
    · exact .inr hmin
    · refine .inl ((Nat.le_div_iff_mul_le hm').2 ?_)
      calc 2 ^ 52 * m' ≤ 2 ^ 52 * 2 ^ (m'.log2 + 1) :=
            Nat.mul_le_mul_left _ (Nat.lt_log2_self (n := m')).le
        _ = 2 ^ (52 + (m'.log2 + 1)) := (Nat.pow_add ..).symm
        _ ≤ 2 ^ (m.log2 + n) := Nat.pow_le_pow_right two_pos (by omega)
        _ = 2 ^ m.log2 * 2 ^ n := Nat.pow_add ..
        _ ≤ m * 2 ^ n := Nat.mul_le_mul_right _ (Nat.log2_self_le hm.ne')
  have hvalue : (m * 2 ^ e / (m' * 2 ^ e') : ℚ) = (m * 2 ^ n : Nat) / m' * 2 ^ t := by
    rw [show e = t + n + e' by omega, zpow_add₀ two_ne_zero, zpow_add₀ two_ne_zero, zpow_natCast]
    push_cast
    field_simp
  rw [hvalue, hcore]
  exact roundsTo_roundWithAccuracy sign (represents_div _ hm') hbits

end WebCoverage.Number
