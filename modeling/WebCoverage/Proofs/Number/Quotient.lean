import WebCoverage.Proofs.Number.Arithmetic

/-! The signs of differences and quotients. No difference of different numbers is lost in rounding
(`sub_pos_iff`), a small quotient can be (`div_pos_iff`), but not that of a number by as many steps
as go into it (`half_least_lt_of_truncate`). -/

namespace WebCoverage.Number

open Float.Model Float.Model.UnpackedFloat

variable {m : Nat} {e : Int} {x y : Float} {p q : ℚ} {u v : UnpackedFloat}

/-! ## Differences -/

/-- An infinity, or no number at all. -/
def IsSpecial (u : UnpackedFloat) : Prop :=
  u = .notANumber ∨ ∃ sign, u = .infinity sign

theorem rational?_cases (x : Float) :
    (∃ q, rational? x = some q) ∨ IsSpecial x.toModel.unpack := by
  rw [rational?_eq]
  cases x.toModel.unpack with
  | infinity sign => exact .inr (.inr ⟨sign, rfl⟩)
  | notANumber => exact .inr (.inl rfl)
  | zero sign => exact .inl ⟨_, rfl⟩
  | finite sign m e hpos => exact .inl ⟨_, rfl⟩

/-- Finite numbers are multiples of the least positive one. -/
theorem IsStored.exists_mul_least (h : IsStored u q) : ∃ n : Int, q = n * 2 ^ (-1074 : Int) := by
  cases h with
  | zero sign => exact ⟨0, by simp⟩
  | @finite m e sign hpos h hle =>
    refine ⟨sign.apply (decreaseExponent m e (-1074)).1, ?_⟩
    exact withSign_eq_mul sign m h.le

/-- Different finite numbers are so far apart that their difference is not lost. -/
theorem half_least_lt_sub_iff (hp : rational? x = some p) (hq : rational? y = some q) :
    2 ^ (-1075 : Int) < q - p ↔ p < q := by
  obtain ⟨n, rfl⟩ := (isStored_of_rational? hp).exists_mul_least
  obtain ⟨n', rfl⟩ := (isStored_of_rational? hq).exists_mul_least
  have hleast : (0 : ℚ) < 2 ^ (-1074 : Int) := by positivity
  rw [half_least, ← sub_mul, mul_lt_mul_iff_left₀ hleast, mul_lt_mul_iff_left₀ hleast]
  constructor
  · intro h
    linarith
  · intro h
    have hstep : n + 1 ≤ n' := by exact_mod_cast h
    have hcast : (n + 1 : ℚ) ≤ n' := by exact_mod_cast hstep
    linarith

/-- Numbers that are not both finite have an infinite difference or none. -/
theorem sub_cases_of_special (h : IsSpecial u ∨ IsSpecial v) :
    sub Format.binary64 v u = .notANumber ∧ u.compare v ≠ some .lt ∨
      sub Format.binary64 v u = .infinity .negative ∧ u.compare v ≠ some .lt ∨
      sub Format.binary64 v u = .infinity .positive ∧ u.compare v = some .lt := by
  obtain (rfl | ⟨sign, rfl⟩) | rfl | ⟨sign, rfl⟩ := h
  · exact .inl ⟨by cases v <;> rfl, fun h => by cases v <;> cases h⟩
  · cases sign with
    | negative =>
      cases v with
      | infinity sign' =>
        cases sign' with
        | negative => exact .inl ⟨rfl, by decide⟩
        | positive => exact .inr (.inr ⟨rfl, rfl⟩)
      | notANumber => exact .inl ⟨rfl, by decide⟩
      | zero | finite => exact .inr (.inr ⟨rfl, rfl⟩)
    | positive =>
      cases v with
      | infinity sign' =>
        cases sign' with
        | negative => exact .inr (.inl ⟨rfl, by decide⟩)
        | positive => exact .inl ⟨rfl, by decide⟩
      | notANumber => exact .inl ⟨rfl, by decide⟩
      | zero | finite => exact .inr (.inl ⟨rfl, nofun⟩)
  · refine .inl ⟨by cases u <;> rfl, fun h => ?_⟩
    rcases u with _ | _ | _ | _ <;> cases h
  · cases sign with
    | negative =>
      cases u with
      | infinity sign' =>
        cases sign' with
        | negative => exact .inl ⟨rfl, by decide⟩
        | positive => exact .inr (.inl ⟨rfl, by decide⟩)
      | notANumber => exact .inl ⟨rfl, by decide⟩
      | zero | finite => exact .inr (.inl ⟨rfl, nofun⟩)
    | positive =>
      cases u with
      | infinity sign' =>
        cases sign' with
        | negative => exact .inr (.inr ⟨rfl, rfl⟩)
        | positive => exact .inl ⟨rfl, by decide⟩
      | notANumber => exact .inl ⟨rfl, by decide⟩
      | zero | finite => exact .inr (.inr ⟨rfl, rfl⟩)

theorem sub_pos_iff_of_special (h : IsSpecial u ∨ IsSpecial v) :
    (UnpackedFloat.zero .positive).compare (stored (sub Format.binary64 v u)) = some .lt ↔
      u.compare v = some .lt := by
  obtain ⟨hsub, hcompare⟩ | ⟨hsub, hcompare⟩ | ⟨hsub, hcompare⟩ := sub_cases_of_special h
  · rw [hsub, stored_notANumber]
    exact iff_of_false (by decide) hcompare
  · rw [hsub, stored_infinity]
    exact iff_of_false (by decide) hcompare
  · rw [hsub, stored_infinity]
    exact iff_of_true rfl hcompare

/-- A difference is positive exactly if what is subtracted is the smaller number. -/
theorem sub_pos_iff : 0.0 < y - x ↔ x < y := by
  obtain ⟨p, hp⟩ | hx := rational?_cases x
  · obtain ⟨q, hq⟩ | hy := rational?_cases y
    · rw [(Rounds.sub hq hp).pos_iff, lt_iff hp hq, half_least_lt_sub_iff hp hq]
    · rw [lt_iff_compare, lt_iff_compare]
      exact sub_pos_iff_of_special (.inr hy)
  · rw [lt_iff_compare, lt_iff_compare]
    exact sub_pos_iff_of_special (.inl hx)

theorem rational?_neg (h : rational? x = some q) : rational? (-x) = some (-q) := by
  have hneg : (-x).toModel.unpack = stored x.toModel.unpack.neg := rfl
  have hx := isStored_of_rational? h
  rw [rational?_eq, hneg, hx.neg.stored_eq, hx.neg.value?_eq]

theorem neg_lt_zero_iff : -x < 0.0 ↔ 0.0 < x := by
  have hneg : (-x).toModel.unpack = stored x.toModel.unpack.neg := rfl
  obtain ⟨q, hq⟩ | hnan | ⟨sign, hinf⟩ := rational?_cases x
  · rw [lt_iff (rational?_neg hq) rational?_zero, lt_iff rational?_zero hq]
    exact neg_lt_zero
  · rw [lt_iff_compare, lt_iff_compare, hneg, hnan]
    exact iff_of_false (by decide) (by decide)
  · rw [lt_iff_compare, lt_iff_compare, hneg, hinf]
    cases sign with
    | negative => exact iff_of_false (by decide) (by decide)
    | positive => exact iff_of_true rfl rfl

/-! ## Quotients -/

/-- A quotient is positive unless its dividend is not or it is lost. -/
theorem div_pos_iff (hy : rational? y = some q) (hpos : 0 < q) :
    0.0 < x / y ↔ 0.0 < x ∧ ∀ p, rational? x = some p → 2 ^ (-1075 : Int) < p / q := by
  have hdiv : (x / y).toModel.unpack =
    stored (div Format.binary64 x.toModel.unpack y.toModel.unpack) := rfl
  obtain ⟨p, hp⟩ | hnan | ⟨sign, hinf⟩ := rational?_cases x
  · rw [(Rounds.div hp hy hpos.ne').pos_iff, lt_iff rational?_zero hp]
    constructor
    · intro h
      refine ⟨(div_pos_iff_of_pos_right hpos).1 (lt_trans (by positivity) h), fun p' hp' => ?_⟩
      rwa [← Option.some.inj (hp.symm.trans hp')]
    · exact fun h => h.2 p hp
  · have hsame : div Format.binary64 .notANumber y.toModel.unpack = .notANumber := by
      cases y.toModel.unpack <;> rfl
    rw [lt_iff_compare, lt_iff_compare, hdiv, hnan, hsame]
    exact iff_of_false (by decide) fun h => absurd h.1 (by decide)
  · have hnone : rational? x = none := by
      rw [rational?_eq, hinf]
      rfl
    have hsame : div Format.binary64 x.toModel.unpack y.toModel.unpack = .infinity sign := by
      have hstored := isStored_of_rational? hy
      rw [hinf]
      generalize y.toModel.unpack = v at hstored
      cases hstored with
      | zero sign' => exact absurd rfl hpos.ne'
      | @finite m e sign' hm _ _ =>
        cases sign' with
        | negative =>
          refine absurd (neg_neg_of_pos ?_) hpos.not_gt
          positivity
        | positive => cases sign <;> rfl
    rw [lt_iff_compare, lt_iff_compare, hdiv, hsame, stored_infinity, hinf, hnone]
    simp

/-! ## Integer parts -/

theorem IsSpecial.value?_stored (h : IsSpecial u) : value? (stored u) = none := by
  obtain rfl | ⟨sign, rfl⟩ := h
  · rfl
  · rw [stored_infinity]
    rfl

theorem IsSpecial.add (h : IsSpecial u) : IsSpecial (add Format.binary64 u v) := by
  obtain rfl | ⟨sign, rfl⟩ := h
  · exact .inl (by cases v <;> rfl)
  · cases v with
    | infinity sign' =>
      change IsSpecial (if sign == sign' then .infinity sign else .notANumber)
      split
      · exact .inr ⟨_, rfl⟩
      · exact .inl rfl
    | notANumber => exact .inl rfl
    | zero | finite => exact .inr ⟨_, rfl⟩

theorem IsSpecial.div (h : IsSpecial u) : IsSpecial (div Format.binary64 u v) := by
  obtain rfl | ⟨sign, rfl⟩ := h
  · exact .inl (by cases v <;> rfl)
  · cases v with
    | infinity | notANumber => exact .inl rfl
    | zero | finite => exact .inr ⟨_, rfl⟩

/-- A finite sum has finite summands. -/
theorem exists_rational?_of_add (h : rational? (x + y) = some q) : ∃ p, rational? x = some p := by
  refine (rational?_cases x).resolve_right fun hspecial => ?_
  rw [rational?_eq] at h
  cases h.symm.trans (hspecial.add (v := y.toModel.unpack)).value?_stored

/-- A finite quotient has a finite dividend, and is zero unless its divisor is finite too. -/
theorem rational?_of_div (h : rational? (x / y) = some q) :
    ∃ p, rational? x = some p ∧ (q = 0 ∨ ∃ p', rational? y = some p') := by
  have hdiv : (x / y).toModel.unpack =
    stored (UnpackedFloat.div Format.binary64 x.toModel.unpack y.toModel.unpack) := rfl
  rw [rational?_eq, hdiv] at h
  obtain ⟨p, hp⟩ | hspecial := rational?_cases x
  · refine ⟨p, hp, ?_⟩
    have hx := isStored_of_rational? hp
    generalize x.toModel.unpack = u at h hx
    obtain hy | hnan | ⟨sign, hinf⟩ := rational?_cases y
    · exact .inr hy
    · have hresult : UnpackedFloat.div Format.binary64 u .notANumber = .notANumber := by
        cases hx <;> rfl
      rw [hnan, hresult] at h
      cases h
    · obtain ⟨sign', hresult⟩ :
          ∃ sign', UnpackedFloat.div Format.binary64 u (.infinity sign) = .zero sign' := by
        cases hx <;> exact ⟨_, rfl⟩
      rw [hinf, hresult, stored_zero] at h
      cases h
      exact .inl rfl
  · cases h.symm.trans hspecial.div.value?_stored

/-- The integer part of a floating-point number is one too, so that reading it does not round. -/
theorem rational?_ofInt_of_truncate {n : Nat} (h : truncate x = .ok n) :
    rational? (Float.ofInt n) = some n := by
  obtain rfl | hpos := n.eq_zero_or_pos
  · exact (rounds_ofNat 0).rational?_eq_some (isBinary_natCast (by decide)) (lt_large (by decide))
  · obtain ⟨q, hq, hfloor, hle⟩ := exists_floor_of_truncate hpos h
    have hqpos : 0 < q := lt_of_lt_of_le (by exact_mod_cast hpos) hle
    obtain ⟨m, e, -, hcanonical, hmax, rfl⟩ := (isStored_of_rational? hq).exists_canonical hqpos
    refine (rounds_ofNat n).rational?_eq_some ?_ (hle.trans_lt (hcanonical.lt_large hmax))
    obtain he | he := le_or_gt 0 e
    · -- Without bits below the point a number is its integer part.
      have hwhole : (n : ℚ) = m * 2 ^ e := by
        obtain ⟨k, rfl⟩ := Int.eq_ofNat_of_zero_le he
        have hnat : (m * 2 ^ (k : Int) : ℚ) = (m * 2 ^ k : Nat) := by
          rw [zpow_natCast]
          push_cast
          rfl
        rw [hnat, Int.floor_natCast, Nat.cast_inj] at hfloor
        rw [hnat, hfloor]
      exact ⟨m, e, hcanonical.lt.le, hcanonical.le, hwhole⟩
    · refine isBinary_natCast (le_trans ?_ hcanonical.lt.le)
      have hm : (m * 2 ^ e : ℚ) ≤ m :=
        mul_le_of_le_one_right (Nat.cast_nonneg m) (zpow_le_one_of_nonpos₀ one_le_two he.le)
      exact_mod_cast hle.trans hm

/-- Above a positive integer and a half there is a floating-point number before its double. -/
theorem exists_isBinary_lt_double {k : Nat} (hk : 0 < k) :
    ∃ c, IsBinary c ∧ (k + 1 / 2 : ℚ) ≤ c ∧ c < 2 * k := by
  obtain ⟨t, hlow, hhigh⟩ : ∃ t : Nat, 2 ^ t ≤ k ∧ k < 2 ^ (t + 1) :=
    ⟨k.log2, Nat.log2_self_le hk.ne', Nat.lt_log2_self⟩
  have hk' : (1 : ℚ) ≤ k := by exact_mod_cast hk
  obtain hlt | heq := hlow.lt_or_eq
  · have hstep : (k + 1 : ℚ) ≤ 2 ^ (t + 1) := by exact_mod_cast hhigh
    have hdouble : (2 ^ t : ℚ) < k := by exact_mod_cast hlt
    refine ⟨2 ^ (t + 1), ⟨1, t + 1, by decide, by omega, ?_⟩, by linarith, ?_⟩
    · rw [Nat.cast_one, one_mul]
      exact (zpow_natCast _ _).symm
    · rw [pow_succ]
      linarith
  · have hpower : (k : ℚ) = 2 ^ t := by exact_mod_cast heq.symm
    refine ⟨3 / 2 * k, ⟨3, t - 1, by decide, by omega, ?_⟩, by linarith, by linarith⟩
    rw [hpower, zpow_sub_one₀ two_ne_zero, zpow_natCast]
    push_cast
    ring

theorem rational?_half : rational? 0.5 = some (1 / 2) := by
  rw [rational?_eq]
  change some (withSign .positive ((2 ^ 52 : Nat) * 2 ^ (-53 : Int))) = some (1 / 2)
  norm_num [withSign]

theorem isBinary_half : IsBinary (1 / 2) :=
  ⟨1, -1, by decide, by decide, by norm_num⟩

/-- In units of the least positive number a finite one is an integer that rounding leaves alone. -/
theorem Canonical.exists_mul_least (h : Canonical m e) :
    ∃ k : Nat, IsBinary k ∧ (m * 2 ^ e : ℚ) = k * 2 ^ (-1074 : Int) := by
  obtain ⟨j, hj⟩ := Int.eq_ofNat_of_zero_le (show 0 ≤ e + 1074 by have := h.le; omega)
  have hcast : ((m * 2 ^ j : Nat) : ℚ) = m * 2 ^ (j : Int) := by
    rw [zpow_natCast]
    push_cast
    rfl
  refine ⟨m * 2 ^ j, ⟨m, j, h.lt.le, by omega, hcast⟩, ?_⟩
  rw [hcast, show e = j + -1074 by omega, zpow_add₀ two_ne_zero, mul_assoc]

/-- A positive quotient is at most as large as its dividend is in units of the least positive
number, since that is the least divisor. -/
theorem exists_quotient_le (hy : ¬y ≤ 0.0) (hq : rational? (x / y) = some q) (hpos : 0 < q) :
    ∃ k : Nat, 0 < k ∧ rational? x = some ((k : ℚ) * 2 ^ (-1074 : Int)) ∧ q ≤ k := by
  obtain ⟨p, hp, hzero | ⟨v, hv⟩⟩ := rational?_of_div hq
  · exact absurd hzero hpos.ne'
  · rw [le_iff hv rational?_zero, not_le] at hy
    have hquotient := Rounds.div hp hv hy.ne'
    have hppos : 0 < p := by
      by_contra hnonpos
      have hzero := hquotient.le_of_le hq (isBinary_natCast (Nat.zero_le _)) (by
        rw [Nat.cast_zero]
        exact div_nonpos_of_nonpos_of_nonneg (not_lt.1 hnonpos) hy.le)
      rw [Nat.cast_zero] at hzero
      exact hzero.not_gt hpos
    obtain ⟨m, e, hm, hcanonical, -, rfl⟩ := (isStored_of_rational? hp).exists_canonical hppos
    obtain ⟨m', e', hm', hcanonical', -, rfl⟩ := (isStored_of_rational? hv).exists_canonical hy
    obtain ⟨k, hbinary, hk⟩ := hcanonical.exists_mul_least
    have hleast := hcanonical'.least_le hm'
    rw [hk] at hp hquotient hppos
    refine ⟨k, ?_, hp, hquotient.le_of_le hq hbinary ?_⟩
    · have hcast : (0 : ℚ) < k := pos_of_mul_pos_left hppos (by positivity)
      exact_mod_cast hcast
    · rw [div_le_iff₀ hy]
      gcongr

/-- What an integer is rounded to that exceeds another by no more than a half is below the double of
that. -/
theorem lt_double_of_truncate {n k : Nat} (hk : 0 < k) (hn : 0 < n) (hx : rational? x = some q)
    (hle : q ≤ k) (h : truncate (x + 0.5) = .ok n) : n < 2 * k := by
  obtain ⟨w, hw, -, hnw⟩ := exists_floor_of_truncate hn h
  obtain ⟨c, hc, hlow, hhigh⟩ := exists_isBinary_lt_double hk
  have hwc := (Rounds.add hx rational?_half).le_of_le hw hc (by linarith)
  exact_mod_cast (hnw.trans hwc).trans_lt hhigh

/-- What goes into a number a positive number of times, rounded, is positive. -/
theorem pos_of_truncate {n : Nat} (hn : 0 < n) (hx : rational? x = some q)
    (h : truncate (x + 0.5) = .ok n) : 0 < q := by
  obtain ⟨w, hw, -, hnw⟩ := exists_floor_of_truncate hn h
  have hn' : (1 : ℚ) ≤ n := by exact_mod_cast hn
  by_contra hnonpos
  have hhalf := (Rounds.add hx rational?_half).le_of_le hw isBinary_half (by linarith)
  linarith

/-- A quotient that is rounded to an integer is not so large that a part of that number would be
lost. -/
theorem half_least_lt_of_truncate {n : Nat} (hn : 0 < n) (hy : ¬y ≤ 0.0)
    (h : truncate (x / y + 0.5) = .ok n) :
    0.0 < x ∧ ∀ p, rational? x = some p → 2 ^ (-1075 : Int) < p / n := by
  obtain ⟨w, hw, -⟩ := truncate_eq_ok_iff.1 h
  obtain ⟨q, hq⟩ := exists_rational?_of_add hw
  obtain ⟨k, hk, hx, hle⟩ := exists_quotient_le hy hq (pos_of_truncate hn hq h)
  have hlt : (n : ℚ) < 2 * k := by exact_mod_cast lt_double_of_truncate hk hn hq hle h
  refine ⟨?_, fun p hp => ?_⟩
  · rw [lt_iff rational?_zero hx]
    positivity
  · obtain rfl : (k : ℚ) * 2 ^ (-1074 : Int) = p := Option.some.inj (hx.symm.trans hp)
    rw [lt_div_iff₀ (by exact_mod_cast hn), half_least]
    calc (1 / 2 * 2 ^ (-1074 : Int) * n : ℚ) = n / 2 * 2 ^ (-1074 : Int) := by ring
      _ < k * 2 ^ (-1074 : Int) := by
        gcongr
        linarith

end WebCoverage.Number
