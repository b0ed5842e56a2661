import WebCoverage.Assoc
import WebCoverage.Json.Basic
import WebCoverage.Number.Literal

/-! Reading JSON texts. Beside the standard's values the reader takes the names `NaN`, `Infinity`
and `-Infinity` for numbers; of a name that an object repeats the last value counts, at the place
of the first. An integer may have a limited number of digits, and one that has more is a fault of
its own, found when the reader comes to it. -/

namespace WebCoverage.Json

/-- Why a text is not read. -/
inductive Fault where
  | malformed
  | longInteger
  deriving DecidableEq, Repr

namespace Reader

/-! A reader answers with what it read and the rest of the text. -/

def skipSpace (text : List Char) : List Char :=
  text.dropWhile fun c => c = ' ' ∨ c = '\t' ∨ c = '\n' ∨ c = '\r'

def hexDigit? (c : Char) : Option Nat :=
  if '0' ≤ c ∧ c ≤ '9' then some (c.toNat - '0'.toNat)
  else if 'a' ≤ c ∧ c ≤ 'f' then some (c.toNat - 'a'.toNat + 10)
  else if 'A' ≤ c ∧ c ≤ 'F' then some (c.toNat - 'A'.toNat + 10)
  else none

/-- The code unit that four hexadecimal digits stand for. -/
def codeUnit? (a b c d : Char) : Option Nat :=
  ([a, b, c, d].mapM hexDigit?).map (·.foldl (fun unit digit => 16 * unit + digit) 0)

/-- The character after a backslash. -/
def escaped? : Char → Option Char
  | '"' => some '"'
  | '\\' => some '\\'
  | '/' => some '/'
  | 'b' => some '\x08'
  | 'f' => some '\x0c'
  | 'n' => some '\n'
  | 'r' => some '\r'
  | 't' => some '\t'
  | _ => none

/-- The rest of a string, up to its closing quote, by code points. `read` holds those before,
backwards. An escape gives one code unit, also where it is half of a pair or of none. -/
def stringRest (read : List Nat) : List Char → Except Fault (List Nat × List Char)
  | '"' :: rest => .ok (read.reverse, rest)
  | '\\' :: 'u' :: a :: b :: c :: d :: rest =>
    match codeUnit? a b c d with
    | none => .error .malformed
    | some unit => stringRest (unit :: read) rest
  | '\\' :: c :: rest =>
    match escaped? c with
    | some c => stringRest (c.toNat :: read) rest
    | none => .error .malformed
  | c :: rest => if c.toNat < 0x20 then .error .malformed else stringRest (c.toNat :: read) rest
  | [] => .error .malformed

/-- The character of a code point. Texts are of Unicode characters, and a surrogate is none: the
replacement character stands for it. -/
def character (code : Nat) : Char :=
  if code.isValidChar then Char.ofNat code else '\uFFFD'

/-- The characters that code points stand for. Two surrogates of a pair make one. -/
def characters : List Nat → List Char
  | high :: low :: rest =>
    if 0xD800 ≤ high ∧ high < 0xDC00 ∧ 0xDC00 ≤ low ∧ low < 0xE000 then
      Char.ofNat (0x10000 + (high - 0xD800) * 0x400 + (low - 0xDC00)) :: characters rest
    else character high :: characters (low :: rest)
  | [code] => [character code]
  | [] => []

def text (codes : List Nat) : String :=
  String.ofList (characters codes)

/-- The digits of a number before its point: a zero, or digits that do not start with one. -/
def wholeDigits (text : List Char) : List Char × List Char :=
  match text with
  | '0' :: rest => (['0'], rest)
  | text => text.span (·.isDigit)

/-- A point and the digits after it. -/
def fractionDigits (text : List Char) : List Char × List Char :=
  match text with
  | '.' :: c :: rest => if c.isDigit then (c :: rest).span (·.isDigit) else ([], text)
  | _ => ([], text)

/-- The digits of an exponent and whether it is negative. -/
def exponentDigits? (text : List Char) : Option (Bool × List Char × List Char) :=
  match text with
  | c :: rest =>
    if c = 'e' ∨ c = 'E' then
      let signed := Number.Literal.sign rest
      let run := signed.2.span (·.isDigit)
      if run.1.isEmpty then none else some (signed.1, run.1, run.2)
    else none
  | [] => none

def digitsValue (digits : List Char) : Nat :=
  Number.Literal.value (digits.filterMap Text.asciiDigit?)

/-- A number without its sign. Digits alone make an integer. -/
def number (digitLimit : Option Nat) (negative : Bool) (text : List Char) :
    Except Fault (Json × List Char) :=
  let whole := wholeDigits text
  if whole.1.isEmpty then .error .malformed
  else
    let fraction := fractionDigits whole.2
    let exponent := exponentDigits? fraction.2
    if fraction.1.isEmpty ∧ exponent.isNone then
      if digitLimit.any (· < whole.1.length) then .error .longInteger
      else
        let magnitude : Int := digitsValue whole.1
        .ok (.integer (if negative then -magnitude else magnitude), whole.2)
    else
      let power : Int := match exponent with
        | some (true, digits, _) => -digitsValue digits
        | some (false, digits, _) => digitsValue digits
        | none => 0
      let magnitude := Number.Literal.nearest (digitsValue (whole.1 ++ fraction.1))
        (power - fraction.1.length)
      .ok (.real (if negative then -magnitude else magnitude),
        match exponent with
        | some (_, _, rest) => rest
        | none => fraction.2)

/-- Fails unless the text starts with `word`. -/
def expect (word : String) (value : Json) (text : List Char) :
    Except Fault (Json × List Char) :=
  if word.toList.isPrefixOf text then .ok (value, text.drop word.length) else .error .malformed

mutual

/-- A value. Every step into an array or an object, or on to its next part, takes one unit of
`fuel` and at least one character. -/
def value (digitLimit : Option Nat) :
    (fuel : Nat) → List Char → Except Fault (Json × List Char)
  | 0, _ => .error .malformed
  | fuel + 1, text =>
    match text with
    | '"' :: rest => (stringRest [] rest).map fun read => (.string (Reader.text read.1), read.2)
    | '[' :: rest =>
      match skipSpace rest with
      | ']' :: rest => .ok (.array [], rest)
      | rest => elements digitLimit fuel [] rest
    | '\x7b' :: rest =>
      match skipSpace rest with
      | '\x7d' :: rest => .ok (.object [], rest)
      | rest => members digitLimit fuel [] rest
    | 'n' :: _ => expect "null" .null text
    | 't' :: _ => expect "true" (.boolean true) text
    | 'f' :: _ => expect "false" (.boolean false) text
    | 'N' :: _ => expect "NaN" (.real (0.0 / 0.0)) text
    | 'I' :: _ => expect "Infinity" (.real (1.0 / 0.0)) text
    | '-' :: 'I' :: _ => expect "-Infinity" (.real (-1.0 / 0.0)) text
    | '-' :: rest => number digitLimit true rest
    | text => number digitLimit false text

/-- The elements of an array from the next one on. -/
def elements (digitLimit : Option Nat) :
    (fuel : Nat) → List Json → List Char → Except Fault (Json × List Char)
  | 0, _, _ => .error .malformed
  | fuel + 1, before, text => do
    let item ← value digitLimit fuel text
    match skipSpace item.2 with
    | ']' :: rest => return (.array (item.1 :: before).reverse, rest)
    | ',' :: rest => elements digitLimit fuel (item.1 :: before) (skipSpace rest)
    | _ => .error .malformed

/-- The members of an object from the next one on. -/
def members (digitLimit : Option Nat) :
    (fuel : Nat) → List (String × Json) → List Char → Except Fault (Json × List Char)
  | 0, _, _ => .error .malformed
  | fuel + 1, before, text =>
    match text with
    | '"' :: rest => do
      let name ← stringRest [] rest
      match skipSpace name.2 with
      | ':' :: rest =>
        let item ← value digitLimit fuel (skipSpace rest)
        let entries := Assoc.put (Reader.text name.1) item.1 before
        match skipSpace item.2 with
        | '\x7d' :: rest => return (.object entries, rest)
        | ',' :: rest => members digitLimit fuel entries (skipSpace rest)
        | _ => .error .malformed
      | _ => .error .malformed
    | _ => .error .malformed

end

end Reader

/-- The value that a whole text stands for. -/
def read (digitLimit : Option Nat) (text : String) : Except Fault Json := do
  let chars := Reader.skipSpace text.toList
  let result ← Reader.value digitLimit (2 * chars.length + 1) chars
  if (Reader.skipSpace result.2).isEmpty then return result.1 else .error .malformed

end WebCoverage.Json
