import WebCoverage.Text.DigitTable

/-! The value of a decimal digit, of ASCII alone or of any script. -/

namespace WebCoverage.Text

/-- The value of one of the ten ASCII digits. -/
def asciiDigit? (c : Char) : Option Nat :=
  if '0' ≤ c ∧ c ≤ '9' then some (c.toNat - '0'.toNat) else none

/-- The value of a decimal digit of any script. Every range of the table starts with a zero and
holds whole rows of ten. -/
def digit? (c : Char) : Option Nat :=
  (digitRanges.find? fun range => range.1 ≤ c.toNat && c.toNat ≤ range.2).map
    fun range => (c.toNat - range.1) % 10

end WebCoverage.Text
