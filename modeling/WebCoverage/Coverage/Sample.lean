import WebCoverage.Failure
import WebCoverage.Number.Decimal
import WebCoverage.Number.Literal
import WebCoverage.Text.Charset

/-! Samples: the values that images are made of, the types in which they are stored, and the bits
and bytes in which a type holds a value. -/

namespace WebCoverage

/-- A value to be stored. -/
inductive Sample where
  | whole (n : Int)
  | real (x : Float)
  /-- No number, with the sign bit set: a `Float` does not tell it from one without. -/
  | negativeNaN
  deriving DecidableEq

/-- The floating-point value that a text stands for. -/
def Sample.ofText? (text : String) : Option Sample :=
  (Number.float? text).map fun x =>
    let trimmed := Text.trimWhere Text.isWhiteSpace text.toList
    if x.isNaN && (Number.Literal.sign trimmed).1 then .negativeNaN else .real x

/-- Why values cannot be the samples of a raster. -/
inductive SampleFault where
  | notANumber
  | outOfRange
  | unsuitableShape
  deriving DecidableEq, Repr

def SampleFault.failure : SampleFault → Failure
  | notANumber | unsuitableShape => .plain .invalidValue
  | outOfRange => .plain .overflow

inductive SampleKind where
  | boolean
  | integer (signed : Bool)
  | real
  deriving DecidableEq, Repr

/-- How one sample is written: what it is, in how many bytes, and whether the highest byte comes
first. -/
structure SampleType where
  kind : SampleKind
  width : Nat
  highFirst : Bool
  deriving DecidableEq, Repr

/-- The bits of a floating-point number: the sign, the exponent, the fraction. -/
structure FloatLayout where
  /-- The number of bits of the fraction. -/
  fraction : Nat
  /-- The exponent of the least positive number, a power of two. -/
  least : Int
  /-- The bits of infinity: those of the exponent are set. -/
  infinity : Nat
  deriving DecidableEq, Repr

namespace FloatLayout

/-- The layout of floating-point numbers in two, four or eight bytes. -/
def ofWidth : Nat → FloatLayout
  | 2 => ⟨10, -24, 0x7C00⟩
  | 4 => ⟨23, -149, 0x7F800000⟩
  | _ => ⟨52, -1074, 0x7FF0000000000000⟩

/-- The place of the lowest bit of the exponent, which is also how many fractions there are. -/
def step (layout : FloatLayout) : Nat :=
  Nat.pow 2 layout.fraction

/-- The sign bit is the one above the exponent. -/
def signBit (layout : FloatLayout) : Nat :=
  layout.infinity + layout.step

/-- The bits of a value that is no number: an infinity with the highest bit of the fraction. -/
def notANumber (layout : FloatLayout) : Nat :=
  layout.infinity + layout.step / 2

/-- The bits of `mantissa * 2 ^ exponent`, rounded to the nearest number, a half to the even
neighbour. Numbers follow each other like their bits do, so a carry out of the fraction belongs to
the exponent, and what is beyond the largest number is infinite. -/
def magnitude (layout : FloatLayout) (mantissa : Nat) (exponent : Int) : Nat :=
  if mantissa = 0 then 0
  else
    let unit := max layout.least (exponent + mantissa.log2 - layout.fraction)
    let digits := Number.Decimal.roundDiv (Number.Binary.numerator mantissa (exponent - unit))
      (Number.Binary.denominator (exponent - unit))
    min layout.infinity ((unit - layout.least).toNat * layout.step + digits)

/-- The bits of the number of the layout that is nearest to a value. -/
def bits (layout : FloatLayout) : Number.Binary → Nat
  | .notANumber => layout.notANumber
  | .infinite negative => (if negative then layout.signBit else 0) + layout.infinity
  | .finite negative mantissa exponent =>
    (if negative then layout.signBit else 0) + layout.magnitude mantissa exponent

end FloatLayout

namespace SampleType

/-- How many values the bits of a type can tell apart. -/
def size (type : SampleType) : Nat :=
  Nat.pow 0x100 type.width

/-- Whether an integer lies in the range of an integer type. -/
def holds (type : SampleType) (signed : Bool) (n : Int) : Bool :=
  if signed then -(type.size / 2 : Nat) ≤ n && n < (type.size / 2 : Nat)
  else 0 ≤ n && n < type.size

/-- The bits of an integer of the range of a type, a negative one in two's complement. -/
def integerBits (type : SampleType) (n : Int) : Nat :=
  (n % type.size).toNat

/-- Stores an integer in an integer type. -/
def storeInteger (type : SampleType) (signed : Bool) (n : Int) : Except SampleFault Nat :=
  if type.holds signed n then .ok (type.integerBits n) else .error .outOfRange

/-- The bits of a floating-point number. -/
def floatBits (type : SampleType) (x : Float) : Nat :=
  (FloatLayout.ofWidth type.width).bits (.ofFloat x)

/-- The bits of a value. An integer type takes the integers of its range and the integer parts of
floating-point numbers, a truth value is whether a value is not zero. -/
def bits (type : SampleType) (sample : Sample) : Except SampleFault Nat :=
  match type.kind, sample with
  | .boolean, .whole n => .ok (if n = 0 then 0 else 1)
  | .boolean, .real x => .ok (if x == 0.0 then 0 else 1)
  | .boolean, .negativeNaN => .ok 1
  | .integer signed, .whole n => type.storeInteger signed n
  | .integer signed, .real x =>
    match Number.truncate x with
    | .ok n => type.storeInteger signed n
    | .error .infinite => .error .outOfRange
    | .error .notANumber => .error .notANumber
  | .integer _, .negativeNaN => .error .notANumber
  | .real, .whole n =>
    match Number.ofInt? n with
    | some x => .ok (type.floatBits x)
    | none => .error .outOfRange
  | .real, .real x => .ok (type.floatBits x)
  | .real, .negativeNaN =>
    let layout := FloatLayout.ofWidth type.width
    .ok (layout.signBit + layout.notANumber)

/-- The bytes of a number, the lowest first. -/
def lowFirst : (width : Nat) → Nat → Bytes
  | 0, _ => []
  | width + 1, n => UInt8.ofNat n :: lowFirst width (n / 0x100)

/-- The bytes of a sample that is given by its bits. -/
def write (type : SampleType) (bits : Nat) : Bytes :=
  let bytes := lowFirst type.width bits
  if type.highFirst then bytes.reverse else bytes

end SampleType

end WebCoverage
