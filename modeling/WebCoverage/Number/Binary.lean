/-! What a floating-point number stands for: an exact rational with a power of two, an infinity, or
no number at all. -/

namespace WebCoverage.Number

/-- The value of a floating-point number. A finite one is `mantissa * 2 ^ exponent`, negated where
`negative` says so; zero has a sign too. -/
inductive Binary where
  | notANumber
  | infinite (negative : Bool)
  | finite (negative : Bool) (mantissa : Nat) (exponent : Int)
  deriving DecidableEq, Repr

namespace Binary

def ofFloat (x : Float) : Binary :=
  match x.toModel.unpack with
  | .notANumber => notANumber
  | .infinity sign => infinite (sign matches .negative)
  | .zero sign => finite (sign matches .negative) 0 0
  | .finite sign mantissa exponent _ => finite (sign matches .negative) mantissa exponent

/-- The numerator of the magnitude of `mantissa * 2 ^ exponent`. -/
def numerator (mantissa : Nat) (exponent : Int) : Nat :=
  mantissa * Nat.pow 2 exponent.toNat

/-- The denominator of the magnitude of `mantissa * 2 ^ exponent`. -/
def denominator (exponent : Int) : Nat :=
  Nat.pow 2 (-exponent).toNat

end Binary

/-- Why a floating-point number has no integer part. -/
inductive NoInteger where
  | notANumber
  | infinite
  deriving DecidableEq, Repr

/-- The integer part of a floating-point number, rounded toward zero. -/
def truncate (x : Float) : Except NoInteger Int :=
  match Binary.ofFloat x with
  | .notANumber => .error .notANumber
  | .infinite _ => .error .infinite
  | .finite negative mantissa exponent =>
    let magnitude := Binary.numerator mantissa exponent / Binary.denominator exponent
    .ok (if negative then -magnitude else magnitude)

/-- The nearest floating-point number to an integer, unless the integer is beyond all of them. -/
def ofInt? (n : Int) : Option Float :=
  let x := Float.ofInt n
  if x.isFinite then some x else none

end WebCoverage.Number
