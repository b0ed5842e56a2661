import WebCoverage.Text.Blank
import WebCoverage.Text.Digit

/-! Reading numbers: decimal literals with single underscores between their digits, and the names
of the infinities and of the value that is no number. Which characters are digits is for the
reader to say. -/

namespace WebCoverage.Number.Literal

/-- The digits at the start of a text and what follows them. An underscore is passed over between
two digits. -/
def digitRun (digit? : Char → Option Nat) : (inside : Bool) → List Char → List Nat × List Char
  | _, [] => ([], [])
  | inside, c :: rest =>
    match digit? c with
    | some d =>
      let run := digitRun digit? true rest
      (d :: run.1, run.2)
    | none =>
      if inside && c = '_' && (rest.head?.bind digit?).isSome then digitRun digit? false rest
      else ([], c :: rest)

/-- The number that decimal digits stand for. -/
def value (digits : List Nat) : Nat :=
  digits.foldl (fun n d => 10 * n + d) 0

/-- A sign at the start of a text, true for minus, and what follows it. -/
def sign : List Char → Bool × List Char
  | '-' :: rest => (true, rest)
  | '+' :: rest => (false, rest)
  | rest => (false, rest)

/-- An exponent that ends the text; an empty text is the exponent zero. -/
def exponent? (digit? : Char → Option Nat) : List Char → Option Int
  | [] => some 0
  | c :: rest =>
    if c = 'e' ∨ c = 'E' then
      let signed := sign rest
      let run := digitRun digit? false signed.2
      if run.1.isEmpty ∨ ¬run.2.isEmpty then none
      else some (if signed.1 then -value run.1 else value run.1)
    else none

/-- The floating-point number nearest to `mantissa * 10 ^ exponent`. -/
def nearest (mantissa : Nat) (exponent : Int) : Float :=
  Float.ofScientific mantissa (exponent < 0) exponent.natAbs

/-- A decimal number without a sign: digits before or after a point, or both, and an exponent. -/
def unsigned? (digit? : Char → Option Nat) (text : List Char) : Option Float := do
  let whole := digitRun digit? false text
  let fraction := match whole.2 with
    | '.' :: rest => digitRun digit? false rest
    | rest => ([], rest)
  if whole.1.isEmpty ∧ fraction.1.isEmpty then none
  let exponent ← exponent? digit? fraction.2
  return nearest (value (whole.1 ++ fraction.1)) (exponent - fraction.1.length)

/-- Names of values that have no digits, in any case. -/
def named? (text : List Char) : Option Float :=
  match String.ofList (text.map Char.toLower) with
  | "inf" | "infinity" => some (1.0 / 0.0)
  | "nan" => some (0.0 / 0.0)
  | _ => none

/-- The floating-point number that a text stands for. -/
def real? (digit? : Char → Option Nat) (text : List Char) : Option Float :=
  let signed := sign text
  let magnitude := (named? signed.2).orElse fun _ => unsigned? digit? signed.2
  magnitude.map fun x => if signed.1 then -x else x

/-- The floating-point number that a text stands for, white space around it left out. -/
def float? (digit? : Char → Option Nat) (text : String) : Option Float :=
  real? digit? (Text.trimWhere Text.isWhiteSpace text.toList)

/-- The digits of an integer and whether it is negative. -/
def integerDigits? (digit? : Char → Option Nat) (text : List Char) : Option (Bool × List Nat) :=
  let signed := sign text
  let run := digitRun digit? false signed.2
  if run.1.isEmpty ∨ ¬run.2.isEmpty then none else some (signed.1, run.1)

/-- The integer with the given sign and digits. -/
def signedValue (number : Bool × List Nat) : Int :=
  if number.1 then -value number.2 else value number.2

/-- The most digits an integer may be written with. -/
def digitLimit : Nat := 4300

end Literal

/-- The floating-point number that a configured text stands for, in the digits of any script. -/
def float? (text : String) : Option Float :=
  Literal.float? Text.digit? text

/-- The integer that a configured text stands for, in the digits of any script and no more of them
than the limit, white space around it left out. -/
def int? (text : String) : Option Int :=
  let trimmed := Text.trimWhere Text.isWhiteSpace text.toList
  (Literal.integerDigits? Text.digit? trimmed).bind fun number =>
    if number.2.length ≤ Literal.digitLimit then some (Literal.signedValue number) else none

end WebCoverage.Number
