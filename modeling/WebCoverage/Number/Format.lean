import WebCoverage.Number.Decimal

/-! Numbers as text: the two ways of laying out significant digits that are in use here, one for
coordinates and one for values that are shown as they were configured. -/

namespace WebCoverage.Number

/-- How significant digits are laid out. They are written positionally while the power of ten of
the first is at least `least` and below `bound`, otherwise with an exponent. -/
structure Layout where
  least : Int
  bound : Int
  /-- Whether a whole number that is written positionally ends in `.0`. -/
  wholePoint : Bool

namespace Layout

/-- An exponent has a sign and at least two digits. -/
def exponentText (e : Int) : String :=
  let digits := toString e.natAbs
  "e" ++ (if e < 0 then "-" else "+") ++ (if digits.length < 2 then "0" ++ digits else digits)

def zeros (n : Nat) : String :=
  String.ofList (List.replicate n '0')

/-- Lays out significant digits without the zeros at their end. -/
def digitsText (layout : Layout) (decimal : Decimal) : String :=
  let all := Nat.toDigits 10 decimal.digits
  let digits := (all.reverse.dropWhile (· = '0')).reverse
  let exponent := decimal.exponent
  if layout.least ≤ exponent ∧ exponent < layout.bound then
    if exponent < 0 then
      "0." ++ zeros (-exponent - 1).toNat ++ String.ofList digits
    else
      let whole := exponent.toNat + 1
      if digits.length ≤ whole then
        String.ofList digits ++ zeros (whole - digits.length) ++
          (if layout.wholePoint then ".0" else "")
      else
        String.ofList (digits.take whole) ++ "." ++ String.ofList (digits.drop whole)
  else
    String.ofList (digits.take 1) ++
      (if digits.length ≤ 1 then "" else "." ++ String.ofList (digits.drop 1)) ++
      exponentText exponent

/-- The text of a floating-point number whose digits `decimal` chooses. -/
def text (layout : Layout) (decimal : (mantissa : Nat) → (exponent : Int) → Decimal) (x : Float) :
    String :=
  match Binary.ofFloat x with
  | .notANumber => "nan"
  | .infinite negative => if negative then "-inf" else "inf"
  | .finite negative mantissa exponent =>
    (if negative then "-" else "") ++
      if mantissa = 0 then (if layout.wholePoint then "0.0" else "0")
      else layout.digitsText (decimal mantissa exponent)

end Layout

/-- At most `count` significant digits, positional from `0.0001` up to `count` digits before the
point. -/
def significant (count : Nat) (x : Float) : String :=
  Layout.text ⟨-4, count, false⟩
    (fun mantissa exponent =>
      Decimal.rounded count (Binary.numerator mantissa exponent) (Binary.denominator exponent)) x

/-- The fewest digits that read back as the same number, positional from `0.0001` up to sixteen
digits before the point, which is never left out. -/
def roundTrip (x : Float) : String :=
  Layout.text ⟨-4, 16, true⟩ Decimal.shortest x

end WebCoverage.Number

namespace WebCoverage

/-- A number that is given as an integer or as a floating-point number. -/
inductive Quantity where
  | whole (n : Int)
  | real (x : Float)
  deriving DecidableEq

/-- The text of a coordinate: fifteen significant digits of the nearest floating-point number, if
there is one. -/
def coordinateText? : Quantity → Option String
  | .whole n => (Number.ofInt? n).map (Number.significant 15)
  | .real x => some (Number.significant 15 x)

/-- Coordinates with single spaces between them. -/
def coordinatesText? (values : List Quantity) : Option String :=
  (values.mapM coordinateText?).map (" ".intercalate ·)

/-- The text of floating-point coordinates, which always have one. -/
def pointText (x y : Float) : String :=
  Number.significant 15 x ++ " " ++ Number.significant 15 y

end WebCoverage
