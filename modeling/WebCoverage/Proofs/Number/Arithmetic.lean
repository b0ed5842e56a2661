import WebCoverage.Proofs.Number.Exact
import WebCoverage.Proofs.Number.Rounding

/-! Floating-point arithmetic in terms of exact numbers. Every finite number has one mantissa and
exponent (`canonical_of_unpack`), so that comparing them compares values (`lt_iff`), and every
operation on finite numbers gives the exact result rounded, or an infinity. -/

namespace WebCoverage.Number

open Float.Model Float.Model.UnpackedFloat

variable {m : Nat} {e : Int} {hpos : 0 < m} {sign : Sign}

/-! ## Storing -/

/-- What is left of a result once it is stored. -/
def stored (u : UnpackedFloat) : UnpackedFloat :=
  (Float.Model.pack u).unpack

theorem append_toNat (b : BitVec 52) : (1#1 ++ b).toNat = 2 ^ 52 + b.toNat := by
  rw [BitVec.toNat_append, ← Nat.shiftLeft_add_eq_or_of_lt b.isLt]
  rfl

/-- The mantissa and the exponent of a finite number. -/
theorem canonical_of_unpack {x : Float.Model} (h : x.unpack = .finite sign m e hpos) :
    Canonical m e ∧ e ≤ 971 := by
  have hb : (@unpackMantissa Format.binary64 x.toBits.toBitVec).toNat < 2 ^ 52 :=
    BitVec.isLt _
  have hc : (@unpackExponent Format.binary64 x.toBits.toBitVec).toNat < 2 ^ 11 :=
    BitVec.isLt _
  unfold Float.Model.unpack UnpackedFloat.unpack at h
  dsimp only at h
  split at h
  · split at h <;> cases h
  · next hlast =>
    replace hlast : (@unpackExponent Format.binary64 x.toBits.toBitVec).toNat ≠ 2047 :=
      fun heq => hlast (BitVec.eq_of_toNat_eq heq)
    split at h
    · split at h
      · cases h
      · -- subnormal
        next hfirst _ =>
        cases h
        rw [hfirst]
        exact ⟨⟨by omega, le_rfl, .inr rfl⟩, by decide⟩
    · -- normal
      next hfirst =>
      replace hfirst : (@unpackExponent Format.binary64 x.toBits.toBitVec).toNat ≠ 0 :=
        fun heq => hfirst (BitVec.eq_of_toNat_eq heq)
      cases h
      rw [append_toNat]
      have hbias : (Format.binary64.exponentBias : Int) + (52 : Nat) = 1075 := rfl
      rw [hbias]
      exact ⟨⟨by omega, by omega, .inl (by omega)⟩, by omega⟩

theorem stored_zero (sign : Sign) : stored (.zero sign) = .zero sign := by
  cases sign <;> rfl

theorem stored_infinity (sign : Sign) : stored (.infinity sign) = .infinity sign := by
  cases sign <;> rfl

theorem stored_notANumber : stored .notANumber = .notANumber := rfl

theorem unpack_normal {k : Nat} (hpos : 0 < m) (hm : 2 ^ 52 ≤ m) (hlt : m < 2 ^ 53) (hk : 0 < k)
    (hlast : k < 2047) :
    UnpackedFloat.unpack Format.binary64
        (packComponents Format.binary64 sign (BitVec.ofNat 11 k) (BitVec.ofNat 52 m)) =
      .finite sign m (k - 1075) hpos := by
  have hexponent : (BitVec.ofNat 11 k).toNat = k := by
    rw [BitVec.toNat_ofNat, Nat.mod_eq_of_lt (by omega)]
  have hmantissa : (1#1 ++ BitVec.ofNat 52 m).toNat = m := by
    rw [append_toNat, BitVec.toNat_ofNat]
    omega
  have hne : BitVec.ofNat 11 k ≠ 0#11 := fun heq => by
    have hzero := hexponent.symm.trans (congrArg BitVec.toNat heq)
    exact hk.ne' hzero
  have hne' : BitVec.ofNat 11 k ≠ -1#11 := fun heq => by
    have hones := hexponent.symm.trans (congrArg BitVec.toNat heq)
    exact hlast.ne hones
  simp only [UnpackedFloat.unpack, unpackExponent_packComponents, unpackMantissa_packComponents,
    unpackSign_packComponents, Sign.ofBitVec_toBitVec, if_neg hne, if_neg hne', hexponent,
    hmantissa]
  rfl

theorem unpack_subnormal (hpos : 0 < m) (hlt : m < 2 ^ 52) :
    UnpackedFloat.unpack Format.binary64
        (packComponents Format.binary64 sign 0#11 (BitVec.ofNat 52 m)) =
      .finite sign m (-1074) hpos := by
  have hmantissa : (BitVec.ofNat 52 m).toNat = m := by
    rw [BitVec.toNat_ofNat, Nat.mod_eq_of_lt hlt]
  have hne : BitVec.ofNat 52 m ≠ 0#52 := fun heq => by
    have hzero := hmantissa.symm.trans (congrArg BitVec.toNat heq)
    exact hpos.ne' hzero
  simp only [UnpackedFloat.unpack, unpackExponent_packComponents, unpackMantissa_packComponents,
    unpackSign_packComponents, Sign.ofBitVec_toBitVec, dif_neg hne, hmantissa]
  rfl

/-- A finite result is stored as it is, or as infinity if its exponent is too large. -/
theorem stored_finite (h : Canonical m e) :
    stored (.finite sign m e hpos) =
      if e ≤ 971 then .finite sign m e hpos else .infinity sign := by
  obtain ⟨k, hk⟩ : ∃ k, (e + Format.binary64.exponentBias + (52 : Nat)).toNat = k := ⟨_, rfl⟩
  have hexp : (k : Int) = e + 1075 := by
    have hbias : (Format.binary64.exponentBias : Int) = 1023 := rfl
    have := h.le
    omega
  have hle := h.le
  change UnpackedFloat.unpack Format.binary64 (UnpackedFloat.pack _ (.finite sign m e hpos)) = _
  unfold UnpackedFloat.pack
  rw [hk]
  dsimp only
  by_cases hlarge : e ≤ 971
  · rw [if_neg (by omega), if_pos hlarge]
    by_cases hnormal : 2 ^ 52 ≤ m
    · have hlog : m.log2 = 52 := (Nat.log2_eq_iff hpos.ne').2 ⟨hnormal, h.lt⟩
      rw [if_pos (by rw [hlog]; rfl), unpack_normal hpos hnormal h.lt (by omega) (by omega)]
      simp only [hexp, add_sub_cancel_right]
    · have hlog : m.log2 + 1 < 53 := by
        have := (Nat.log2_lt hpos.ne').2 (not_le.1 hnormal)
        omega
      rw [if_neg (show m.log2 + 1 ≠ Format.binary64.mantissaBits from hlog.ne),
        unpack_subnormal hpos (not_le.1 hnormal)]
      simp only [h.normal.resolve_left hnormal]
  · rw [if_pos (by omega), if_neg hlarge]
    exact stored_infinity sign

/-! ## Values -/

def withSign : Sign → ℚ → ℚ
  | .negative, q => -q
  | .positive, q => q

/-- The number that a finite unpacked number stands for. -/
def value? : UnpackedFloat → Option ℚ
  | .zero _ => some 0
  | .finite sign m e _ => some (withSign sign (m * 2 ^ e))
  | _ => none

theorem rational?_eq (x : Float) : rational? x = value? x.toModel.unpack := by
  unfold rational? Binary.ofFloat
  cases x.toModel.unpack with
  | infinity sign => rfl
  | notANumber => rfl
  | zero sign => simp [Binary.rational?, value?]
  | finite sign m e hpos => cases sign <;> simp [Binary.rational?, value?, withSign]

/-- The finite unpacked numbers that floating-point numbers are stored as. -/
inductive IsStored : UnpackedFloat → ℚ → Prop
  | zero (sign : Sign) : IsStored (.zero sign) 0
  | finite {m : Nat} {e : Int} (sign : Sign) (hpos : 0 < m) :
      Canonical m e → e ≤ 971 → IsStored (.finite sign m e hpos) (withSign sign (m * 2 ^ e))

variable {x y z : Float} {p q : ℚ} {u v : UnpackedFloat}

theorem isStored_of_rational? (h : rational? x = some q) : IsStored x.toModel.unpack q := by
  rw [rational?_eq] at h
  generalize hu : x.toModel.unpack = u at h
  cases u with
  | infinity sign => cases h
  | notANumber => cases h
  | zero sign => cases h; exact .zero sign
  | finite sign m e hpos =>
    cases h
    obtain ⟨hcanonical, hle⟩ := canonical_of_unpack hu
    exact .finite sign hpos hcanonical hle

theorem lt_of_exponent_lt {m' : Nat} {e' : Int} (h : Canonical m e) (h' : Canonical m' e')
    (hlt : e < e') : (m * 2 ^ e : ℚ) < m' * 2 ^ e' := by
  have hm' : 2 ^ 52 ≤ m' := h'.normal.resolve_right (by have := h.le; omega)
  calc (m * 2 ^ e : ℚ) < (2 ^ 53 : Nat) * 2 ^ e := by
        gcongr
        exact h.lt
    _ = (2 ^ 52 : Nat) * 2 ^ (e + 1) := by
        rw [zpow_add_one₀ two_ne_zero]
        push_cast
        ring
    _ ≤ m' * 2 ^ e' := by
        gcongr
        · exact one_le_two
        · omega

/-- Numbers in canonical form are compared by their exponents first. -/
theorem compare_canonical {m' : Nat} {e' : Int} (h : Canonical m e) (h' : Canonical m' e') :
    (compare e e').then (compare m m') = compare (m * 2 ^ e : ℚ) (m' * 2 ^ e') := by
  obtain hlt | rfl | hgt := lt_trichotomy e e'
  · rw [compare_lt_iff_lt.2 hlt, compare_lt_iff_lt.2 (lt_of_exponent_lt h h' hlt)]
    rfl
  · have hscale : (0 : ℚ) < 2 ^ e := by positivity
    rw [compare_eq_iff_eq.2 rfl, Ordering.eq_then]
    obtain hlt | rfl | hgt := lt_trichotomy m m'
    · rw [compare_lt_iff_lt.2 hlt, eq_comm, compare_lt_iff_lt]
      gcongr
    · rw [compare_eq_iff_eq.2 rfl, compare_eq_iff_eq.2 rfl]
    · rw [compare_gt_iff_gt.2 hgt, eq_comm, compare_gt_iff_gt]
      gcongr
  · rw [compare_gt_iff_gt.2 hgt, compare_gt_iff_gt.2 (lt_of_exponent_lt h' h hgt)]
    rfl

theorem swap_compare (a b : ℚ) : (compare a b).swap = compare (-a) (-b) := by
  obtain hlt | rfl | hgt := lt_trichotomy a b
  · rw [compare_lt_iff_lt.2 hlt, compare_gt_iff_gt.2 (neg_lt_neg hlt)]
    rfl
  · rw [compare_eq_iff_eq.2 rfl, compare_eq_iff_eq.2 rfl]
    rfl
  · rw [compare_gt_iff_gt.2 hgt, compare_lt_iff_lt.2 (neg_lt_neg hgt)]
    rfl

theorem compare_eq (hu : IsStored u p) (hv : IsStored v q) : u.compare v = some (compare p q) := by
  have hmagnitude {m : Nat} (e : Int) (hpos : 0 < m) : (0 : ℚ) < m * 2 ^ e := by positivity
  cases hu with
  | zero sign =>
    cases hv with
    | zero sign' => rfl
    | finite sign' hpos' h' _ =>
      cases sign' with
      | negative =>
        exact congrArg some (compare_gt_iff_gt.2 (neg_neg_of_pos (hmagnitude _ hpos'))).symm
      | positive => exact congrArg some (compare_lt_iff_lt.2 (hmagnitude _ hpos')).symm
  | finite sign hpos h _ =>
    cases hv with
    | zero sign' =>
      cases sign with
      | negative =>
        exact congrArg some (compare_lt_iff_lt.2 (neg_neg_of_pos (hmagnitude _ hpos))).symm
      | positive => exact congrArg some (compare_gt_iff_gt.2 (hmagnitude _ hpos)).symm
    | finite sign' hpos' h' _ =>
      cases sign <;> cases sign'
      · exact congrArg some ((congrArg _ (compare_canonical h h')).trans (swap_compare _ _))
      · exact congrArg some (compare_lt_iff_lt.2
          ((neg_neg_of_pos (hmagnitude _ hpos)).trans (hmagnitude _ hpos'))).symm
      · exact congrArg some (compare_gt_iff_gt.2
          ((neg_neg_of_pos (hmagnitude _ hpos')).trans (hmagnitude _ hpos))).symm
      · exact congrArg some (compare_canonical h h')

theorem lt_iff_compare : x < y ↔ x.toModel.unpack.compare y.toModel.unpack = some .lt := by
  change decide (x.toModel < y.toModel) = true ↔ _
  rw [decide_eq_true_iff]
  exact beq_iff_eq

theorem le_iff_compare :
    x ≤ y ↔ (x.toModel.unpack.compare y.toModel.unpack).any (·.isLE) = true := by
  change decide (x.toModel ≤ y.toModel) = true ↔ _
  rw [decide_eq_true_iff]
  rfl

theorem lt_iff (hx : rational? x = some p) (hy : rational? y = some q) : x < y ↔ p < q := by
  rw [lt_iff_compare, compare_eq (isStored_of_rational? hx) (isStored_of_rational? hy),
    Option.some.injEq, compare_lt_iff_lt]

theorem le_iff (hx : rational? x = some p) (hy : rational? y = some q) : x ≤ y ↔ p ≤ q := by
  rw [le_iff_compare, compare_eq (isStored_of_rational? hx) (isStored_of_rational? hy),
    Option.any_some, Ordering.isLE_iff_ne_gt, ← not_lt]
  exact not_congr compare_gt_iff_gt

theorem le_of_lt (h : x < y) : x ≤ y := by
  rw [lt_iff_compare] at h
  rw [le_iff_compare, h]
  rfl

/-! ## Results -/

/-- The result that an exact number is rounded to. A zero has either sign. -/
def RoundsFrom (q : ℚ) (u : UnpackedFloat) : Prop :=
  ∃ (sign : Sign) (magnitude : ℚ), 0 ≤ magnitude ∧ q = withSign sign magnitude ∧
    RoundsTo sign magnitude u

theorem Canonical.least_le (h : Canonical m e) (hpos : 0 < m) :
    (2 ^ (-1074 : Int) : ℚ) ≤ m * 2 ^ e := by
  have hm : (1 : ℚ) ≤ m := by exact_mod_cast hpos
  calc (2 ^ (-1074 : Int) : ℚ) = 1 * 2 ^ (-1074 : Int) := (one_mul _).symm
    _ ≤ m * 2 ^ e := by
      gcongr
      · exact one_le_two
      · exact h.le

theorem Canonical.half_least_lt (h : Canonical m e) (hpos : 0 < m) :
    (2 ^ (-1075 : Int) : ℚ) < m * 2 ^ e := by
  refine lt_of_lt_of_le ?_ (h.least_le hpos)
  gcongr
  · exact one_lt_two
  · decide

theorem rounded_zero : Rounded 0 0 :=
  ⟨fun _ h => h, fun _ h => h, iff_of_true rfl (by positivity)⟩

/-- A floating-point number is rounded to itself. -/
theorem Canonical.rounded (h : Canonical m e) (hpos : 0 < m) : Rounded (m * 2 ^ e) (m * 2 ^ e) := by
  refine ⟨fun _ h => h, fun _ h => h, iff_of_false ?_ (h.half_least_lt hpos).not_ge⟩
  positivity

theorem IsStored.rounds (h : IsStored u q) : RoundsFrom q u := by
  cases h with
  | zero sign => exact ⟨sign, 0, le_rfl, by cases sign <;> simp [withSign], .zero rounded_zero⟩
  | finite sign hpos h hle =>
    exact ⟨sign, _, by positivity, rfl, .finite h (h.rounded hpos)⟩

theorem rounds_normalize (n : Int) (e : Int) (zeroSign : Sign) :
    RoundsFrom (n * 2 ^ e) (UnpackedFloat.normalize Format.binary64 n e zeroSign) := by
  unfold UnpackedFloat.normalize
  cases hn : compare n 0 with
  | lt =>
    have hneg : n < 0 := compare_lt_iff_lt.1 hn
    have hvalue : (n : ℚ) = -((-n).toNat : ℚ) := by
      have hcast : ((-n).toNat : Int) = -n := by omega
      rw [← Int.cast_natCast, hcast, Int.cast_neg, neg_neg]
    refine ⟨.negative, (-n).toNat * 2 ^ e, by positivity, ?_, roundsTo_round _ (by omega) e⟩
    rw [hvalue, neg_mul]
    rfl
  | eq =>
    obtain rfl : n = 0 := compare_eq_iff_eq.1 hn
    rw [Int.cast_zero, zero_mul]
    exact (IsStored.zero zeroSign).rounds
  | gt =>
    have hpos : 0 < n := compare_gt_iff_gt.1 hn
    have hvalue : (n : ℚ) = (n.toNat : ℚ) := by
      have hcast : (n.toNat : Int) = n := by omega
      rw [← Int.cast_natCast, hcast]
    refine ⟨.positive, n.toNat * 2 ^ e, by positivity, ?_, roundsTo_round _ (by omega) e⟩
    rw [hvalue]
    rfl

/-- A finite number in units of a smaller exponent. -/
theorem withSign_eq_mul {t : Int} (sign : Sign) (m : Nat) (h : t ≤ e) :
    withSign sign (m * 2 ^ e) = (sign.apply (decreaseExponent m e t).1 : Int) * 2 ^ t := by
  have hvalue : (m * 2 ^ e : ℚ) = (decreaseExponent m e t).1 * 2 ^ t := by
    rw [decreaseExponent, Nat.shiftLeft_eq, Nat.cast_mul, Nat.cast_pow, Nat.cast_ofNat,
      ← zpow_natCast, mul_assoc, ← zpow_add₀ two_ne_zero, Int.toNat_of_nonneg (by omega),
      sub_add_cancel]
  rw [hvalue]
  cases sign <;> simp [withSign, Sign.apply]

theorem rounds_add (hu : IsStored u p) (hv : IsStored v q) :
    RoundsFrom (p + q) (add Format.binary64 u v) := by
  have hu' := hu
  have hv' := hv
  cases hu with
  | zero sign =>
    cases hv with
    | zero sign' =>
      rw [add_zero]
      change RoundsFrom 0 (if sign == sign' then .zero sign else .zero .positive)
      split
      · exact (IsStored.zero _).rounds
      · exact (IsStored.zero _).rounds
    | finite sign' hpos' h' hle' =>
      rw [zero_add]
      exact hv'.rounds
  | finite sign hpos h hle =>
    cases hv with
    | zero sign' =>
      rw [add_zero]
      exact hu'.rounds
    | @finite m' e' sign' hpos' h' hle' =>
      rw [withSign_eq_mul sign _ (min_le_left _ e'), withSign_eq_mul sign' _ (min_le_right _ _),
        ← add_mul, ← Int.cast_add]
      exact rounds_normalize _ _ _

/-- A number is subtracted as its negation is added. -/
theorem sub_eq_add (spec : Format) (u v : UnpackedFloat) : sub spec u v = add spec u v.neg := by
  cases u with
  | infinity sign => cases v <;> rfl
  | notANumber => rfl
  | zero sign => cases v <;> rfl
  | finite sign m e hpos =>
    cases v with
    | finite sign' m' e' hpos' =>
      have happly (n : Nat) : (-sign').apply n = -sign'.apply n := by
        cases sign' with
        | negative => exact (neg_neg _).symm
        | positive => rfl
      simp only [UnpackedFloat.sub, UnpackedFloat.add, UnpackedFloat.neg, happly, sub_eq_add_neg]
    | infinity | notANumber | zero => rfl

theorem IsStored.neg (h : IsStored u q) : IsStored u.neg (-q) := by
  cases h with
  | zero sign =>
    rw [neg_zero]
    exact .zero _
  | finite sign hpos h hle =>
    cases sign with
    | negative =>
      rw [withSign, neg_neg]
      exact .finite .positive hpos h hle
    | positive => exact .finite .negative hpos h hle

/-- What is stored is not changed by storing it again. -/
theorem IsStored.stored_eq (h : IsStored u q) : stored u = u := by
  cases h with
  | zero sign => exact stored_zero sign
  | finite sign hpos h hle => rw [stored_finite h, if_pos hle]

theorem IsStored.value?_eq (h : IsStored u q) : value? u = some q := by
  cases h <;> rfl

/-- A positive finite number has a mantissa and an exponent. -/
theorem IsStored.exists_canonical (h : IsStored u q) (hq : 0 < q) :
    ∃ (m : Nat) (e : Int), 0 < m ∧ Canonical m e ∧ e ≤ 971 ∧ q = m * 2 ^ e := by
  cases h with
  | zero sign => exact absurd hq (lt_irrefl _)
  | @finite m e sign hpos h hle =>
    cases sign with
    | negative =>
      refine absurd hq (neg_nonpos.2 ?_).not_gt
      positivity
    | positive => exact ⟨m, e, hpos, h, hle, rfl⟩

theorem Canonical.lt_large (h : Canonical m e) (hle : e ≤ 971) :
    (m * 2 ^ e : ℚ) < 2 ^ (1024 : Int) := by
  calc (m * 2 ^ e : ℚ) < (2 ^ 53 : Nat) * 2 ^ (971 : Int) := by
        refine mul_lt_mul ?_ ?_ ?_ ?_
        · exact_mod_cast h.lt
        · exact zpow_le_zpow_right₀ one_le_two hle
        · positivity
        · positivity
    _ = 2 ^ (1024 : Int) := by
        rw [Nat.cast_pow, Nat.cast_ofNat, ← zpow_natCast, ← zpow_add₀ two_ne_zero]
        rfl

theorem rounds_div (hu : IsStored u p) (hv : IsStored v q) (hq : q ≠ 0) :
    RoundsFrom (p / q) (div Format.binary64 u v) := by
  cases hv with
  | zero sign' => exact absurd rfl hq
  | finite sign' hpos' h' hle' =>
    cases hu with
    | zero sign =>
      rw [zero_div]
      exact (IsStored.zero _).rounds
    | finite sign hpos h hle =>
      refine ⟨sign / sign', _, ?_, ?_, roundsTo_divCore _ hpos hpos'⟩
      · positivity
      · have hsign : ∀ a b : ℚ, withSign sign a / withSign sign' b =
            withSign (sign / sign') (a / b) := fun a b => by
          cases sign <;> cases sign'
          · exact neg_div_neg_eq a b
          · exact neg_div b a
          · exact div_neg a
          · rfl
        exact hsign _ _

/-- Products of mantissas are rounded where they have enough bits. -/
theorem rounds_mul_finite {m' : Nat} {e' : Int} (hpos : 0 < m) (hpos' : 0 < m') (sign sign' : Sign)
    (hbits : 2 ^ 52 ≤ m * m' ∨ e + e' ≤ -1074) :
    RoundsFrom (withSign sign (m * 2 ^ e) * withSign sign' (m' * 2 ^ e'))
      (mul Format.binary64 (.finite sign m e hpos) (.finite sign' m' e' hpos')) := by
  refine ⟨sign * sign', (m * m' : Nat) * 2 ^ (e + e'), by positivity, ?_,
    roundsTo_roundWithAccuracy _ (represents_exact _) hbits⟩
  have hvalue : ((m * m' : Nat) * 2 ^ (e + e') : ℚ) = m * 2 ^ e * (m' * 2 ^ e') := by
    rw [zpow_add₀ two_ne_zero]
    push_cast
    ring
  rw [hvalue]
  cases sign <;> cases sign'
  · exact neg_mul_neg _ _
  · exact neg_mul _ _
  · exact mul_neg _ _
  · rfl

theorem rounds_mul (hu : IsStored u p) (hv : IsStored v q) :
    RoundsFrom (p * q) (mul Format.binary64 u v) := by
  cases hu with
  | zero sign =>
    rw [zero_mul]
    cases hv with
    | zero sign' => exact (IsStored.zero _).rounds
    | finite sign' hpos' h' hle' => exact (IsStored.zero _).rounds
  | @finite m e sign hpos h hle =>
    cases hv with
    | zero sign' =>
      rw [mul_zero]
      exact (IsStored.zero _).rounds
    | @finite m' e' sign' hpos' h' hle' =>
      refine rounds_mul_finite hpos hpos' sign sign' ?_
      by_cases hm : 2 ^ 52 ≤ m
      · exact .inl (hm.trans (Nat.le_mul_of_pos_right m hpos'))
      · by_cases hm' : 2 ^ 52 ≤ m'
        · exact .inl (hm'.trans (Nat.le_mul_of_pos_left m' hpos))
        · have hexp := h.normal.resolve_left hm
          have hexp' := h'.normal.resolve_left hm'
          exact .inr (by omega)

/-- A large integer is read by way of a product with one. -/
theorem rounds_ofScientific {n : Nat} (h : 2 ^ 53 ≤ n) :
    RoundsFrom n (UnpackedFloat.ofScientific Format.binary64 n 0) := by
  have hpos : 0 < n <<< 53 := by
    rw [Nat.shiftLeft_eq]
    omega
  have hone : 0 < 10 ^ 0 := by decide
  have hproduct : RoundsFrom (withSign .positive ((n <<< 53 : Nat) * 2 ^ (-53 : Int)) *
        withSign .positive ((10 ^ 0 : Nat) * 2 ^ (0 : Int)))
      (mul Format.binary64 (.finite .positive (n <<< 53) (-53) hpos)
        (.finite .positive (10 ^ 0) 0 hone)) :=
    rounds_mul_finite hpos hone .positive .positive (.inl (by rw [Nat.shiftLeft_eq]; omega))
  have hvalue : withSign .positive ((n <<< 53 : Nat) * 2 ^ (-53 : Int)) *
      withSign .positive ((10 ^ 0 : Nat) * 2 ^ (0 : Int)) = n := by
    simp only [withSign, Nat.shiftLeft_eq, Nat.cast_mul, Nat.cast_pow]
    norm_num
    ring
  rw [hvalue] at hproduct
  unfold UnpackedFloat.ofScientific
  rw [dif_neg (by omega), if_neg (by decide), if_neg (by norm_num), if_pos le_rfl]
  exact hproduct

/-! ## Operations -/

/-- A floating-point number that is an exact one rounded, or an infinity in its place. -/
def Rounds (q : ℚ) (x : Float) : Prop :=
  ∃ u, RoundsFrom q u ∧ x.toModel.unpack = stored u

theorem rational?_zero : rational? 0.0 = some 0 := by
  rw [rational?_eq]
  rfl

namespace Rounds

theorem add (hx : rational? x = some p) (hy : rational? y = some q) : Rounds (p + q) (x + y) :=
  ⟨_, rounds_add (isStored_of_rational? hx) (isStored_of_rational? hy), rfl⟩

theorem sub (hx : rational? x = some p) (hy : rational? y = some q) : Rounds (p - q) (x - y) := by
  refine ⟨_, ?_, rfl⟩
  rw [sub_eq_add, sub_eq_add_neg]
  exact rounds_add (isStored_of_rational? hx) (isStored_of_rational? hy).neg

theorem mul (hx : rational? x = some p) (hy : rational? y = some q) : Rounds (p * q) (x * y) :=
  ⟨_, rounds_mul (isStored_of_rational? hx) (isStored_of_rational? hy), rfl⟩

theorem div (hx : rational? x = some p) (hy : rational? y = some q) (hq : q ≠ 0) :
    Rounds (p / q) (x / y) :=
  ⟨_, rounds_div (isStored_of_rational? hx) (isStored_of_rational? hy) hq, rfl⟩

/-- What a rounded number is: finite, or infinite where rounding leads beyond the finite ones. -/
theorem cases (h : Rounds q x) :
    ∃ (sign : Sign) (magnitude r : ℚ), 0 ≤ magnitude ∧ q = withSign sign magnitude ∧ 0 ≤ r ∧
      Rounded magnitude r ∧
      (rational? x = some (withSign sign r) ∨
        x.toModel.unpack = .infinity sign ∧ 2 ^ (1024 : Int) ≤ r) := by
  obtain ⟨u, ⟨sign, magnitude, hnonneg, hq, hrounds⟩, hx⟩ := h
  rw [rational?_eq, hx]
  cases hrounds with
  | zero hrounded =>
    rw [stored_zero]
    exact ⟨sign, magnitude, 0, hnonneg, hq, le_rfl, hrounded,
      .inl (by cases sign <;> simp [value?, withSign])⟩
  | @finite m e hpos h hrounded =>
    refine ⟨sign, magnitude, m * 2 ^ e, hnonneg, hq, by positivity, hrounded, ?_⟩
    rw [stored_finite h]
    split
    · exact .inl rfl
    · next hlarge =>
      refine .inr ⟨rfl, ?_⟩
      have hm : 2 ^ 52 ≤ m := h.normal.resolve_right (by omega)
      calc (2 ^ (1024 : Int) : ℚ) = (2 ^ 52 : Nat) * 2 ^ (972 : Int) := by
            rw [Nat.cast_pow, Nat.cast_ofNat, ← zpow_natCast, ← zpow_add₀ two_ne_zero]
            rfl
        _ ≤ m * 2 ^ e := by
          gcongr
          · exact one_le_two
          · omega

/-- A number is not rounded up past a floating-point number. -/
theorem le_of_le {c : ℚ} (h : Rounds q x) (hx : rational? x = some p) (hc : IsBinary c)
    (hle : q ≤ c) : p ≤ c := by
  obtain ⟨sign, magnitude, r, -, rfl, hnonneg, hrounded, hr | ⟨hinf, -⟩⟩ := h.cases
  · obtain rfl : withSign sign r = p := Option.some.inj (hr.symm.trans hx)
    cases sign with
    | negative => exact (neg_nonpos.2 hnonneg).trans hc.nonneg
    | positive => exact hrounded.le_of_le hc hle
  · rw [rational?_eq, hinf] at hx
    cases hx

/-- A floating-point number that is large enough for no other is rounded to itself. -/
theorem rational?_eq_some (h : Rounds q x) (hq : IsBinary q) (hlt : q < 2 ^ (1024 : Int)) :
    rational? x = some q := by
  obtain ⟨sign, magnitude, r, hmagnitude, rfl, -, hrounded, hr⟩ := h.cases
  have hsame : withSign sign magnitude = magnitude := by
    cases sign with
    | negative =>
      obtain rfl : magnitude = 0 := le_antisymm (neg_nonneg.1 hq.nonneg) hmagnitude
      exact neg_zero
    | positive => rfl
  rw [hsame] at hq hlt
  obtain rfl : r = magnitude :=
    le_antisymm (hrounded.le_of_le hq le_rfl) (hrounded.ge_of_le hq le_rfl)
  exact hr.resolve_right fun h => h.2.not_gt hlt

/-- A number is positive after rounding if it exceeds half of the least positive one. -/
theorem pos_iff (h : Rounds q x) : 0.0 < x ↔ 2 ^ (-1075 : Int) < q := by
  have hleast : (0 : ℚ) < 2 ^ (-1075 : Int) := by positivity
  obtain ⟨sign, magnitude, r, hmagnitude, rfl, hnonneg, hrounded, hr | ⟨hinf, hlarge⟩⟩ := h.cases
  · rw [lt_iff rational?_zero hr]
    cases sign with
    | negative =>
      refine iff_of_false (neg_nonpos.2 hnonneg).not_gt ?_
      exact ((neg_nonpos.2 hmagnitude).trans hleast.le).not_gt
    | positive =>
      change 0 < r ↔ _ < magnitude
      rw [← not_le, ← not_le, ← hrounded.eq_zero_iff, ← hnonneg.ge_iff_eq']
  · have hmagnitude : 2 ^ (-1075 : Int) < magnitude := not_le.1 fun hle => by
      rw [hrounded.eq_zero_iff.2 hle] at hlarge
      exact hlarge.not_gt (by positivity)
    rw [lt_iff_compare, hinf]
    cases sign with
    | negative =>
      refine iff_of_false (fun h => by cases h) (not_lt.2 ?_)
      exact (neg_nonpos.2 (hleast.le.trans hmagnitude.le)).trans hleast.le
    | positive => exact iff_of_true rfl hmagnitude

end Rounds

theorem lt_large {n : Nat} (h : n ≤ 2 ^ 53) : (n : ℚ) < 2 ^ (1024 : Int) := by
  calc (n : ℚ) ≤ (2 ^ 53 : Nat) := by exact_mod_cast h
    _ = 2 ^ (53 : Int) := by
      rw [Nat.cast_pow, Nat.cast_ofNat, ← zpow_natCast]
      rfl
    _ < 2 ^ (1024 : Int) := zpow_lt_zpow_right₀ one_lt_two (by decide)

theorem isBinary_natCast {n : Nat} (h : n ≤ 2 ^ 53) : IsBinary n :=
  ⟨n, 0, h, by decide, by simp⟩

theorem rational?_one : rational? (Float.ofBits 0x3FF0000000000000) = some 1 := by
  rw [rational?_eq]
  change some (withSign .positive ((2 ^ 52 : Nat) * 2 ^ (-52 : Int))) = some 1
  norm_num [withSign]

/-- A natural number is read as what it is rounded to. -/
theorem rounds_ofNat (n : Nat) : Rounds n (Float.ofNat n) := by
  change Rounds n (Float.ofScientific n false 0)
  unfold Float.ofScientific
  split
  · next hsmall =>
    -- A small number is multiplied by one.
    have hle : n ≤ 2 ^ 53 := hsmall.1.le
    have hword : n.toUInt64.toNat = n := by
      rw [Nat.toUInt64_eq, UInt64.toNat_ofNat']
      omega
    have hfloat : Rounds n n.toUInt64.toFloat := by
      have h := rounds_normalize n.toUInt64.toNat 0 .positive
      rw [zpow_zero, mul_one, Int.cast_natCast] at h
      refine ⟨UnpackedFloat.normalize Format.binary64 n.toUInt64.toNat 0 .positive, ?_, rfl⟩
      rw [hword] at h ⊢
      exact h
    have hexact := hfloat.rational?_eq_some (isBinary_natCast hle) (lt_large hle)
    have h := Rounds.mul hexact rational?_one
    rwa [mul_one] at h
  · next hlarge =>
    have hn : 2 ^ 53 ≤ n := by omega
    exact ⟨_, rounds_ofScientific hn, rfl⟩

end WebCoverage.Number
