import WebCoverage.Number.Literal

/-! Numbers in the texts of records. Their digits are those of ASCII, and underscores may group
them: none is first or last, none follows another, and apart from that they stand anywhere, next to
a sign or a point too. White space may surround a floating-point number or underscores group it, not
both. An integer may have both, zeros in front of it, and a point and zeros after it. -/

namespace WebCoverage.Number.Grouped

/-- A text without its underscores, unless one of them is first or last or follows another. -/
def ungrouped? (text : List Char) : Option (List Char) :=
  let groups := text.splitOnP (· = '_')
  if groups.any (·.isEmpty) then none else some groups.flatten

/-- The floating-point number that a text stands for. -/
def float? (text : String) : Option Float :=
  if text.toList.contains '_' then
    (ungrouped? text.toList).bind (Literal.real? Text.asciiDigit?)
  else
    Literal.float? Text.asciiDigit? text

/-- Why a text is no integer. -/
inductive IntegerFault where
  | malformed
  | tooLong
  deriving DecidableEq, Repr

/-- What follows zeros and underscores: the number from its first other digit or its sign on. One
character stays before a point and at the end; `last` is the one before the text. -/
def pastZeros? (last : Char) : List Char → Option (List Char)
  | [] => some [last]
  | c :: rest =>
    if c = '0' ∨ c = '_' then pastZeros? c rest
    else if c = '.' then some (last :: c :: rest)
    else if c = '-' ∨ c.isDigit then some (c :: rest)
    else none

/-- A number that starts with a digit, without the zeros in front of it. -/
def withoutZeros? : List Char → Option (List Char)
  | [] => none
  | c :: rest =>
    if c = '0' then pastZeros? c rest
    else if c.isDigit then some (c :: rest)
    else none

/-- A number without the point and the zeros after it, if nothing else follows the point. -/
def withoutFraction (text : List Char) : List Char :=
  let parts := text.span (· ≠ '.')
  if 1 < parts.2.length && parts.2.tail.all (· = '0') then parts.1 else text

/-- Reads an integer that is a minus sign or none and digits, with no zero in front of others. How
many digits there are is looked at before what follows them. -/
def plainInteger (text : List Char) : Except IntegerFault Int :=
  let negative := text.head? = some '-'
  let parts := (if negative then text.tail else text).span Char.isDigit
  if parts.1.isEmpty ∨ (parts.1.head? = some '0' ∧ 1 < parts.1.length) then .error .malformed
  else if Literal.digitLimit < parts.1.length then .error .tooLong
  else if ¬parts.2.isEmpty then .error .malformed
  else .ok (Literal.signedValue (negative, parts.1.filterMap Text.asciiDigit?))

/-- A text that stands for an integer, as a minus sign or none and digits. -/
def plain? (text : String) : Option (List Char) := do
  let signed := Literal.sign (Text.trimWhere Text.isWhiteSpace text.toList)
  let whole := withoutFraction (← withoutZeros? signed.2)
  let digits := (ungrouped? whole).getD whole
  return if signed.1 then '-' :: digits else digits

/-- The integer that a text stands for. Only a text that starts with too many digits is too long;
one that has too many of them when it has been made plain is malformed. -/
def integer (text : String) : Except IntegerFault Int :=
  match plainInteger text.toList with
  | .error .malformed =>
    match (plain? text).map plainInteger with
    | some (.ok n) => .ok n
    | _ => .error .malformed
  | found => found

end WebCoverage.Number.Grouped
