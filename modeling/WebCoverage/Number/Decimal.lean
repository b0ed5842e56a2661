import WebCoverage.Number.Binary

/-! Decimal digits of a positive rational `num / den`: rounded to a number of significant digits,
or the fewest that still single out a floating-point number. Everything is exact arithmetic on
natural numbers. -/

namespace WebCoverage.Number

/-- Significant digits, read as a number, and the power of ten of the first of them. -/
structure Decimal where
  digits : Nat
  exponent : Int
  deriving DecidableEq, Repr

namespace Decimal

/-- The number of decimal digits of `n`. -/
def digitCount (n : Nat) : Nat :=
  (Nat.toDigits 10 n).length

/-- `10 ^ e` as a numerator and a denominator. -/
def power (e : Int) : Nat × Nat :=
  (Nat.pow 10 e.toNat, Nat.pow 10 (-e).toNat)

/-- The power of ten of the first significant digit of `num / den`. -/
def leading (num den : Nat) : Int :=
  let guess : Int := digitCount num - digitCount den
  let scale := power guess
  if num * scale.2 < den * scale.1 then guess - 1 else guess

/-- `num / den` in units of `10 ^ e`. -/
def scaled (num den : Nat) (e : Int) : Nat × Nat :=
  let scale := power e
  (num * scale.2, den * scale.1)

/-- The quotient rounded to the nearest natural number, a half to the even neighbour. -/
def roundDiv (num den : Nat) : Nat :=
  let quotient := num / den
  let twice := 2 * (num % den)
  if twice < den then quotient
  else if den < twice then quotient + 1
  else quotient + quotient % 2

/-- Digits that were rounded to `count` of them. Where rounding carried into one more, the last zero
is dropped. -/
def carried (count digits : Nat) (exponent : Int) : Decimal :=
  if digits = Nat.pow 10 count then ⟨Nat.pow 10 (count - 1), exponent + 1⟩
  else ⟨digits, exponent⟩

/-- `num / den` rounded to `count` significant digits. -/
def rounded (count num den : Nat) : Decimal :=
  let exponent := leading num den
  let parts := scaled num den (exponent - (count - 1))
  let digits := roundDiv parts.1 parts.2
  carried count digits exponent

/-- The interval of rationals that are nearer to `num / den` than to its neighbours among the
floating-point numbers, or as near where `closed`: `num ± half / den`, the lower half smaller
where the gap below is. -/
structure Cell where
  num : Nat
  den : Nat
  below : Nat
  above : Nat
  closed : Bool

/-- The interval that rounds to `mantissa * 2 ^ exponent`. The gap below a power of two is half as
wide as the gap above it, unless the numbers below are as sparse. -/
def Cell.of (mantissa : Nat) (exponent : Int) : Cell :=
  let quarter := Binary.numerator 1 exponent
  { num := 4 * Binary.numerator mantissa exponent
    den := 4 * Binary.denominator exponent
    below := if mantissa = 0x10000000000000 ∧ -1074 < exponent then quarter else 2 * quarter
    above := 2 * quarter
    closed := mantissa % 2 = 0 }

/-- Whether the decimal `n * 10 ^ e` lies in the interval. -/
def Cell.contains (cell : Cell) (n : Nat) (e : Int) : Bool :=
  let scale := power e
  let value := n * scale.1 * cell.den
  let low := (cell.num - cell.below) * scale.2
  let high := (cell.num + cell.above) * scale.2
  if cell.closed then low ≤ value && value ≤ high else low < value && value < high

/-- The decimal with `count` significant digits that lies in the interval, the one nearer to its
centre if there are two. -/
def Cell.pick? (cell : Cell) (exponent : Int) (count : Nat) : Option Decimal :=
  let unit := exponent - (count - 1)
  let parts := scaled cell.num cell.den unit
  let floor := parts.1 / parts.2
  let nearest := roundDiv parts.1 parts.2
  let other := if nearest = floor then floor + 1 else floor
  ([nearest, other].find? fun n => cell.contains n unit).map fun n =>
    carried count n exponent

/-- The fewest significant digits that single out the floating-point number
`mantissa * 2 ^ exponent`. Seventeen always do. -/
def shortest (mantissa : Nat) (exponent : Int) : Decimal :=
  let cell := Cell.of mantissa exponent
  let first := leading cell.num cell.den
  (((List.range 17).map (· + 1)).findSome? (cell.pick? first)).getD
    (rounded 17 cell.num cell.den)

end Decimal

end WebCoverage.Number
