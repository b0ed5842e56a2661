import WebCoverage.Number.Format
import WebCoverage.Number.Literal
import WebCoverage.Proofs.Number.Digits
import WebCoverage.Proofs.Number.Quotient
import WebCoverage.Proofs.Text.WordList

/-! Whole numbers as floating-point numbers and as text. Up to `2 ^ 53` they are not rounded
(`rational?_ofInt`). If they have no more digits than are asked for, they are written as integers
are (`significant_ofInt`), and integers are read as the floating-point numbers next to them
(`float?_toString`). -/

namespace WebCoverage.Number

variable {n : Int} {x : Float} {count : Nat}

/-! ## Values -/

theorem rational?_ofInt (h : n.natAbs ≤ 2 ^ 53) : rational? (Float.ofInt n) = some (n : ℚ) := by
  cases n with
  | ofNat k => exact (rounds_ofNat k).rational?_eq_some (isBinary_natCast h) (lt_large h)
  | negSucc k =>
    have hpos := (rounds_ofNat (k + 1)).rational?_eq_some (isBinary_natCast h) (lt_large h)
    rw [Int.cast_negSucc]
    exact rational?_neg hpos

theorem isFinite_of_rational? {q : ℚ} (h : rational? x = some q) : x.isFinite := by
  have hfinite : x.isFinite = x.toModel.unpack.isFinite := rfl
  have hstored := isStored_of_rational? h
  rw [hfinite]
  generalize x.toModel.unpack = u at hstored
  cases hstored <;> rfl

theorem ofInt?_eq (h : n.natAbs ≤ 2 ^ 53) : ofInt? n = some (Float.ofInt n) :=
  if_pos (isFinite_of_rational? (rational?_ofInt h))

/-- Zero is equal to the negative zero, and no other whole number is equal to two. -/
theorem eq_of_beq_ofInt (hn : n.natAbs ≤ 2 ^ 53) (h : x == Float.ofInt n) :
    x = Float.ofInt n ∨ n = 0 ∧ x = -0 := by
  have hvalue := rational?_ofInt hn
  have hzero : rational? 0 = some 0 := rational?_ofInt (n := 0) (by decide)
  obtain ⟨-, -, heq | ⟨-, hneg⟩ | ⟨rfl, hpos⟩⟩ := Float.beq_iff_ne_nan_and_eq.1 h
  · exact .inl heq
  · rw [hneg, rational?_neg hzero, Option.some.injEq, neg_zero, eq_comm, Int.cast_eq_zero] at hvalue
    subst hvalue
    exact absurd hneg (by decide +kernel)
  · rw [hpos, hzero, Option.some.injEq, eq_comm, Int.cast_eq_zero] at hvalue
    exact .inr ⟨hvalue, rfl⟩

/-! ## Writing -/

theorem toString_eq (n : Int) :
    toString n = (if n < 0 then "-" else "") ++ toString n.natAbs := by
  cases n with
  | ofNat k => exact (String.empty_append).symm
  | negSucc k =>
    rw [if_pos (Int.negSucc_lt_zero k)]
    rfl

theorem numerator_eq_mul {mantissa k : Nat} {exponent : Int}
    (h : (mantissa * 2 ^ exponent : ℚ) = k) :
    Binary.numerator mantissa exponent = k * Binary.denominator exponent := by
  have hden : (Binary.denominator exponent : ℚ) ≠ 0 := by
    exact_mod_cast (Nat.pow_pos (by decide)).ne'
  rw [mul_two_zpow_eq_div, div_eq_iff hden] at h
  exact_mod_cast h

theorem magnitude_of_rational? {negative : Bool} {mantissa : Nat} {exponent : Int}
    (h : (Binary.finite negative mantissa exponent).rational? = some (n : ℚ)) (hn : n ≠ 0) :
    (mantissa * 2 ^ exponent : ℚ) = n.natAbs ∧ (negative = true ↔ n < 0) := by
  have hvalue := Option.some.inj h
  have hnonneg : (0 : ℚ) ≤ mantissa * 2 ^ exponent := by positivity
  rw [Nat.cast_natAbs, Int.cast_abs]
  cases negative with
  | false =>
    rw [if_neg Bool.false_ne_true, one_mul] at hvalue
    rw [hvalue] at hnonneg ⊢
    refine ⟨(abs_of_nonneg hnonneg).symm, iff_of_false Bool.false_ne_true ?_⟩
    exact not_lt.2 (by exact_mod_cast hnonneg)
  | true =>
    rw [if_pos rfl, neg_one_mul, neg_eq_iff_eq_neg] at hvalue
    rw [hvalue, Left.nonneg_neg_iff] at hnonneg
    have hle : n ≤ 0 := by exact_mod_cast hnonneg
    rw [hvalue, abs_of_nonpos hnonneg]
    exact ⟨rfl, iff_of_true rfl (lt_of_le_of_ne hle hn)⟩

/-- The digits of a whole number other than zero are those of its magnitude. -/
theorem significant_of_rational? (hx : rational? x = some (n : ℚ)) (hn : n ≠ 0)
    (hlt : n.natAbs < 10 ^ count) : significant count x = toString n := by
  unfold rational? at hx
  unfold significant Layout.text
  cases hb : Binary.ofFloat x with
  | notANumber => rw [hb] at hx; cases hx
  | infinite negative => rw [hb] at hx; cases hx
  | finite negative mantissa exponent =>
    rw [hb] at hx
    obtain ⟨hmagnitude, hnegative⟩ := magnitude_of_rational? hx hn
    have hpos : 0 < n.natAbs := Int.natAbs_pos.2 hn
    have hmantissa : mantissa ≠ 0 := by
      rintro rfl
      rw [Nat.cast_zero, zero_mul, eq_comm, Nat.cast_eq_zero] at hmagnitude
      exact hpos.ne' hmagnitude
    have hden : 0 < Binary.denominator exponent := Nat.pow_pos (by decide)
    dsimp only
    rw [if_neg hmantissa, numerator_eq_mul hmagnitude,
      Layout.digitsText_rounded_mul (by decide) hpos hden hlt, toString_eq n]
    simp only [hnegative]

theorem significant_zero : significant count 0 = "0" := rfl

theorem significant_neg_zero : significant count (-0) = "-0" := rfl

/-- A whole number that has no more than `count` digits is written as the integer that it is. -/
theorem significant_ofInt (hcount : 10 ^ count ≤ 2 ^ 53) (hn : n.natAbs < 10 ^ count) :
    significant count (Float.ofInt n) = toString n := by
  obtain rfl | hne := eq_or_ne n 0
  · exact significant_zero
  · exact significant_of_rational? (rational?_ofInt (hn.le.trans hcount)) hne hn

/-- A negative zero keeps its sign. -/
theorem significant_of_beq_ofInt (hcount : 10 ^ count ≤ 2 ^ 53) (hn : n.natAbs < 10 ^ count)
    (h : x == Float.ofInt n) :
    significant count x = if x = -0 then "-0" else toString n := by
  split
  · next hzero => rw [hzero, significant_neg_zero]
  · next hzero =>
    obtain rfl | ⟨-, hneg⟩ := eq_of_beq_ofInt (hn.le.trans hcount) h
    · exact significant_ofInt hcount hn
    · exact absurd hneg hzero

/-! ## Reading -/

theorem digit?_of_isDigit {c : Char} (h : c.isDigit) :
    Text.digit? c = some (c.toNat - '0'.toNat) := by
  obtain ⟨hlow, hhigh⟩ := Text.toNat_of_isDigit h
  have hfound : Text.digitRanges.find? (fun range => range.1 ≤ c.toNat && c.toNat ≤ range.2) =
      some (48, 57) := by
    refine List.find?_cons_of_pos ?_
    rw [Bool.and_eq_true, decide_eq_true_iff, decide_eq_true_iff]
    exact ⟨hlow, hhigh⟩
  have hzero : '0'.toNat = 48 := rfl
  rw [Text.digit?, hfound, Option.map_some, hzero, Nat.mod_eq_of_lt (by omega)]

namespace Literal

variable {digits : List Char} {k : Nat}

theorem digitRun_of_isDigit (inside : Bool) (h : ∀ c ∈ digits, c.isDigit) :
    digitRun Text.digit? inside digits = (digits.map fun c => c.toNat - '0'.toNat, []) := by
  induction digits generalizing inside with
  | nil => rfl
  | cons c rest ih =>
    obtain ⟨hc, hrest⟩ := List.forall_mem_cons.1 h
    simp only [digitRun, digit?_of_isDigit hc, ih true hrest, List.map_cons]

theorem value_toDigits (k : Nat) :
    value ((Nat.toDigits 10 k).map fun c => c.toNat - '0'.toNat) = k := by
  rw [value, List.foldl_map]
  exact Nat.ofDigitChars_ten_toDigits

theorem isDigit_of_mem_toDigits {c : Char} (h : c ∈ Nat.toDigits 10 k) : c.isDigit :=
  Nat.isDigit_of_mem_toDigits (by decide) (by decide) h

theorem digitRun_toDigits (k : Nat) :
    digitRun Text.digit? false (Nat.toDigits 10 k) =
      ((Nat.toDigits 10 k).map fun c => c.toNat - '0'.toNat, []) :=
  digitRun_of_isDigit false fun _ => isDigit_of_mem_toDigits

theorem toLower_of_isDigit {c : Char} (h : c.isDigit) : c.toLower = c := by
  have hlow := (Text.toNat_of_isDigit h).2
  refine Char.toLower_eq_of_not_isUpper ?_
  simp only [Char.isUpper, decide_eq_true_eq, ge_iff_le, UInt32.le_iff_toNat_le]
  intro hupper
  have hstart : 65 ≤ c.toNat := hupper.1
  omega

/-- The digits of a magnitude, behind a minus sign where it is negative. -/
def signedDigits (negative : Bool) (k : Nat) : List Char :=
  (if negative then ['-'] else []) ++ Nat.toDigits 10 k

theorem sign_signedDigits (negative : Bool) (k : Nat) :
    sign (signedDigits negative k) = (negative, Nat.toDigits 10 k) := by
  cases negative with
  | true => rfl
  | false =>
    have hnot {c : Char} {rest : List Char} (hc : ¬c.isDigit) :
        signedDigits false k ≠ c :: rest := by
      intro heq
      have hmem : c ∈ signedDigits false k := heq ▸ List.mem_cons_self
      exact hc (isDigit_of_mem_toDigits hmem)
    unfold sign
    split
    · next heq => exact absurd heq (hnot (by decide))
    · next heq => exact absurd heq (hnot (by decide))
    · rfl

theorem ofList_toDigits_ne {first : Char} {rest : List Char} (h : ¬first.isDigit) :
    String.ofList ((Nat.toDigits 10 k).map Char.toLower) ≠ String.ofList (first :: rest) := by
  have hsmall : (Nat.toDigits 10 k).map Char.toLower = Nat.toDigits 10 k := by
    exact (List.map_congr_left fun c hc => toLower_of_isDigit (isDigit_of_mem_toDigits hc)).trans
      (List.map_id' _)
  intro heq
  rw [hsmall] at heq
  have hlist := String.ofList_injective heq
  exact h (isDigit_of_mem_toDigits (hlist ▸ List.mem_cons_self))

theorem named?_toDigits (k : Nat) : named? (Nat.toDigits 10 k) = none := by
  unfold named?
  split
  · next heq => exact absurd heq (ofList_toDigits_ne (by decide))
  · next heq => exact absurd heq (ofList_toDigits_ne (by decide))
  · next heq => exact absurd heq (ofList_toDigits_ne (by decide))
  · rfl

theorem unsigned?_toDigits (k : Nat) :
    unsigned? Text.digit? (Nat.toDigits 10 k) = some (Float.ofNat k) := by
  have hsome : ¬((Nat.toDigits 10 k).map fun c => c.toNat - '0'.toNat).isEmpty := by
    simp [Nat.toDigits_ne_nil]
  unfold unsigned?
  rw [digitRun_toDigits]
  dsimp only
  rw [if_neg fun h => hsome h.1, List.append_nil, value_toDigits]
  rfl

theorem real?_signedDigits (negative : Bool) (k : Nat) :
    real? Text.digit? (signedDigits negative k) =
      some (if negative then -Float.ofNat k else Float.ofNat k) := by
  rw [real?, sign_signedDigits]
  dsimp only
  rw [named?_toDigits, unsigned?_toDigits]
  rfl

theorem integerDigits?_signedDigits (negative : Bool) (k : Nat) :
    integerDigits? Text.digit? (signedDigits negative k) =
      some (negative, (Nat.toDigits 10 k).map fun c => c.toNat - '0'.toNat) := by
  rw [integerDigits?, sign_signedDigits]
  dsimp only
  rw [digitRun_toDigits, if_neg (by simp [Nat.toDigits_ne_nil])]

theorem isBlank_of_mem_signedDigits {negative : Bool} {c : Char}
    (h : c ∈ signedDigits negative k) : Text.isBlank c = false := by
  obtain hsign | hdigit := List.mem_append.1 h
  · cases negative with
    | true =>
      rw [List.mem_singleton.1 hsign]
      decide
    | false => cases hsign
  · exact Text.isBlank_eq_false_of_isDigit (isDigit_of_mem_toDigits hdigit)

end Literal

open Literal

theorem toList_toString (n : Int) : (toString n).toList = signedDigits (n < 0) n.natAbs := by
  rw [toString_eq, Nat.toString_eq_ofList_toDigits, String.toList_append, String.toList_ofList,
    signedDigits]
  split
  · next hneg => rw [if_pos (decide_eq_true hneg)]; rfl
  · next hneg => rw [if_neg (mt of_decide_eq_true hneg)]; rfl

variable {text : String} {negative : Bool} {k : Nat}

theorem isWord_of_toList (h : text.toList = signedDigits negative k) : Text.IsWord text := by
  refine ⟨?_, fun c hc => isBlank_of_mem_signedDigits (h ▸ hc)⟩
  rintro rfl
  exact Nat.toDigits_ne_nil (List.append_eq_nil_iff.1 h.symm).2

theorem isWord_toString (n : Int) : Text.IsWord (toString n) :=
  isWord_of_toList (toList_toString n)

theorem trimWhere_of_toList (h : text.toList = signedDigits negative k) :
    Text.trimWhere Text.isWhiteSpace text.toList = signedDigits negative k := by
  rw [Text.trimWhere_eq_self, h]
  intro c hc
  exact (Bool.or_eq_false_iff.1 ((isWord_of_toList h).solid c hc)).1

theorem float?_of_toList (h : text.toList = signedDigits negative k) :
    float? text = some (if negative then -Float.ofNat k else Float.ofNat k) := by
  rw [float?, Literal.float?, trimWhere_of_toList h, real?_signedDigits]

theorem ofInt_eq (n : Int) :
    Float.ofInt n = if n < 0 then -Float.ofNat n.natAbs else Float.ofNat n.natAbs := by
  cases n with
  | ofNat k => rfl
  | negSucc k =>
    rw [if_pos (Int.negSucc_lt_zero k)]
    rfl

/-- An integer is read as the floating-point number nearest to it. -/
theorem float?_toString (n : Int) : float? (toString n) = some (Float.ofInt n) := by
  rw [float?_of_toList (toList_toString n), ofInt_eq]
  simp only [decide_eq_true_eq]

theorem toList_neg_zero : "-0".toList = signedDigits true 0 := rfl

theorem int?_toString (h : (Nat.toDigits 10 n.natAbs).length ≤ digitLimit) :
    int? (toString n) = some n := by
  rw [int?, trimWhere_of_toList (toList_toString n), integerDigits?_signedDigits]
  dsimp only [Option.bind_some]
  rw [List.length_map, if_pos h, signedValue, value_toDigits]
  refine congrArg some ?_
  split
  · next hneg =>
    have hlt : n < 0 := of_decide_eq_true hneg
    omega
  · next hneg =>
    have hge : ¬n < 0 := mt decide_eq_true hneg
    omega

end WebCoverage.Number
