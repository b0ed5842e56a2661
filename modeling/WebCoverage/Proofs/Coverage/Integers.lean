import Mathlib.Data.Nat.Digits.Defs
import WebCoverage.Coverage.Sample

/-! Types of samples that are integers. An integer that is stored in such a type is read back from
the bytes of its bits (`IntegerType.read_write`), and these are the only values the type stores
(`IntegerType.bits_eq_ok_iff`). -/

namespace WebCoverage

/-- The integer that is stored for a value. -/
def Sample.integer? : Sample → Option Int
  | .whole n => some n
  | .real x => (Number.truncate x).toOption
  | .negativeNaN => none

/-- A type of samples that are integers. -/
structure IntegerType where
  signed : Bool
  width : Nat
  highFirst : Bool
  deriving DecidableEq, Repr

/-- The number that bytes stand for, the lowest first. -/
def numberOfBytes (bytes : Bytes) : Nat :=
  Nat.ofDigits 0x100 (bytes.map UInt8.toNat)

namespace SampleType

theorem length_lowFirst (width n : Nat) : (lowFirst width n).length = width := by
  induction width generalizing n with
  | zero => rfl
  | succ width ih => rw [lowFirst, List.length_cons, ih]

theorem length_write (type : SampleType) (bits : Nat) : (type.write bits).length = type.width := by
  rw [write]
  split
  · rw [List.length_reverse, length_lowFirst]
  · exact length_lowFirst _ _

theorem numberOfBytes_lowFirst {width n : Nat} (h : n < 0x100 ^ width) :
    numberOfBytes (lowFirst width n) = n := by
  induction width generalizing n with
  | zero => exact (Nat.lt_one_iff.1 h).symm
  | succ width ih =>
    have hhigh : n / 0x100 < 0x100 ^ width := by
      rw [Nat.div_lt_iff_lt_mul (by decide), ← Nat.pow_succ]
      exact h
    have hlow : (UInt8.ofNat n).toNat = n % 0x100 := UInt8.toNat_ofNat'
    rw [lowFirst, numberOfBytes, List.map_cons, Nat.ofDigits_cons, hlow]
    rw [← numberOfBytes, ih hhigh]
    exact Nat.mod_add_div n 0x100

/-- The bits of an integer are its remainder. -/
theorem integerBits_spec (type : SampleType) (n : Int) :
    type.integerBits n < type.size ∧ (type.integerBits n : Int) = n % type.size := by
  have hpos : 0 < (type.size : Int) := Int.natCast_pos.2 (Nat.pow_pos (by decide))
  have hlow := Int.emod_nonneg n hpos.ne'
  have hhigh := Int.emod_lt_of_pos n hpos
  unfold integerBits
  omega

end SampleType

namespace IntegerType

variable {type : IntegerType} {n : Int} {sample : Sample} {bits : Nat}

def sampleType (type : IntegerType) : SampleType :=
  ⟨.integer type.signed, type.width, type.highFirst⟩

/-- Whether an integer lies in the range of a type. -/
def Holds (type : IntegerType) (n : Int) : Prop :=
  type.sampleType.holds type.signed n

/-- The integer that the bytes of a sample stand for. The upper half of the numbers of a type with a
sign are the negative integers. -/
def read (type : IntegerType) (bytes : Bytes) : Int :=
  let n := numberOfBytes (if type.highFirst then bytes.reverse else bytes)
  if type.signed && type.sampleType.size / 2 ≤ n then n - type.sampleType.size else n

theorem storeInteger_eq_ok_iff : type.sampleType.storeInteger type.signed n = .ok bits ↔
    type.Holds n ∧ bits = type.sampleType.integerBits n := by
  have hsymm : bits = type.sampleType.integerBits n ↔ type.sampleType.integerBits n = bits := eq_comm
  unfold SampleType.storeInteger Holds
  by_cases h : type.sampleType.holds type.signed n <;> simp [h, hsymm]

/-- A type stores the integers of its range and no other values. -/
theorem bits_eq_ok_iff : type.sampleType.bits sample = .ok bits ↔
    ∃ n, sample.integer? = some n ∧ type.Holds n ∧ bits = type.sampleType.integerBits n := by
  cases sample with
  | whole n =>
    have hbits : type.sampleType.bits (.whole n) = type.sampleType.storeInteger type.signed n := rfl
    simp [hbits, storeInteger_eq_ok_iff, Sample.integer?]
  | real x =>
    unfold SampleType.bits sampleType
    dsimp only
    rw [Sample.integer?]
    cases Number.truncate x with
    | ok n =>
      have hstored : type.sampleType.storeInteger type.signed n = .ok bits ↔ _ :=
        storeInteger_eq_ok_iff
      simpa [sampleType, Except.toOption] using hstored
    | error fault => cases fault <;> simp [Except.toOption]
  | negativeNaN => simp [SampleType.bits, sampleType, Sample.integer?]

theorem numberOfBytes_write (h : bits < type.sampleType.size) :
    numberOfBytes (if type.highFirst then (type.sampleType.write bits).reverse
      else type.sampleType.write bits) = bits := by
  have hlow : numberOfBytes (SampleType.lowFirst type.width bits) = bits :=
    SampleType.numberOfBytes_lowFirst h
  unfold SampleType.write sampleType
  dsimp only
  split
  · rw [List.reverse_reverse, hlow]
  · exact hlow

/-- An integer of the range of a type is read back from its bytes. -/
theorem read_write (h : type.Holds n) :
    type.read (type.sampleType.write (type.sampleType.integerBits n)) = n := by
  obtain ⟨hlt, hbits⟩ := type.sampleType.integerBits_spec n
  unfold read
  dsimp only
  rw [numberOfBytes_write hlt]
  generalize type.sampleType.integerBits n = bits at *
  unfold Holds SampleType.holds at h
  generalize type.sampleType.size = size at *
  split at h
  · next hsigned =>
    simp only [Bool.and_eq_true, decide_eq_true_eq] at h
    obtain hnegative | hnonnegative := Int.lt_or_le n 0
    · have hwrapped : n % size = n + size := by
        rw [← Int.add_emod_right, Int.emod_eq_of_lt (by omega) (by omega)]
      simp only [hsigned, Bool.true_and, decide_eq_true_eq]
      rw [if_pos (by omega)]
      omega
    · have hsame : n % size = n := Int.emod_eq_of_lt hnonnegative (by omega)
      simp only [hsigned, Bool.true_and, decide_eq_true_eq]
      rw [if_neg (by omega)]
      omega
  · next hunsigned =>
    simp only [Bool.and_eq_true, decide_eq_true_eq] at h
    have hsame : n % size = n := Int.emod_eq_of_lt h.1 h.2
    simp only [hunsigned, Bool.false_and, Bool.false_eq_true, if_false]
    omega

end IntegerType

end WebCoverage
