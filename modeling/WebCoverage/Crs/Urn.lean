import WebCoverage.Number.Literal
import WebCoverage.Text.Lower

/-! URNs of coordinate reference systems, and the tokens that have one: EPSG codes, the image
coordinate system, and URNs themselves. -/

namespace WebCoverage.Crs

def imageUrn : String := "urn:ogc:def:crs:OGC::imageCRS"

def epsgUrn (code : Int) : String :=
  s!"urn:ogc:def:crs:EPSG::{code}"

/-- The geographic system of longitudes and latitudes. -/
def geographicUrn : String := "urn:ogc:def:crs:EPSG::4326"

/-- Whether `c` is some case of a small letter. The long s is an s; the i with a dot as a capital
and the one without a dot are an i. -/
def isCaseOf (letter c : Char) : Bool :=
  c.toLower = letter || (letter = 's' && c.toNat = 0x17F) ||
    (letter = 'i' && (c.toNat = 0x130 || c.toNat = 0x131))

/-- What follows `word`, in any case, at the start of a text. -/
def dropWord? : (word : List Char) → List Char → Option (List Char)
  | [], text => some text
  | _, [] => none
  | letter :: word, c :: text => if isCaseOf letter c then dropWord? word text else none

/-- Decimal digits of any script that fill a text, but for one line end after them. -/
def digits? (text : List Char) : Option (List Char) :=
  let parts := text.span fun c => (Text.digit? c).isSome
  if !parts.1.isEmpty && (parts.2.isEmpty || parts.2 = ['\n']) then some parts.1 else none

/-- The digits of a text of the form `EPSG:4326`. -/
def epsgDigits? (text : List Char) : Option (List Char) :=
  (dropWord? "epsg:".toList text).bind digits?

/-- The digits of a text of the form `+init=epsg:4326`, whose plus sign may be left out. -/
def initDigits? (text : List Char) : Option (List Char) :=
  let unsigned := match text with
    | '+' :: rest => rest
    | rest => rest
  (dropWord? "init=epsg:".toList unsigned).bind digits?

/-- Why tokens or their URNs are not found. -/
inductive TokenFault where
  /-- A code has more digits than are read. -/
  | longCode
  /-- The library that is asked for the code of a definition fails. -/
  | unidentified
  deriving DecidableEq, Repr

/-- The URN of a token, if it has one. A code keeps its value alone: leading zeros and the script of
its digits are lost. -/
def urn? (token : String) : Except TokenFault (Option String) :=
  match epsgDigits? token.toList with
  | some digits =>
    if digits.length ≤ Number.Literal.digitLimit then
      .ok (some (epsgUrn (Number.Literal.value (digits.filterMap Text.digit?))))
    else .error .longCode
  | none =>
    if Text.lower token == "imagecrs" then .ok (some imageUrn)
    else if "urn:ogc:def:crs:".toList.isPrefixOf token.toList then .ok (some token)
    else .ok none

end WebCoverage.Crs
