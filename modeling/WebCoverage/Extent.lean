import WebCoverage.Number.Format
import WebCoverage.Validation

/-! Rectangles in a coordinate reference system. -/

namespace WebCoverage

/-- A rectangle no minimum of which exceeds its maximum. A coordinate that is no number exceeds
nothing. -/
structure Extent where
  minX : Float
  minY : Float
  maxX : Float
  maxY : Float
  x_le : ¬maxX < minX
  y_le : ¬maxY < minY
  deriving DecidableEq

namespace Extent

/-- Which minimum exceeds its maximum. -/
inductive Disorder where
  | x
  | y
  deriving DecidableEq, Repr

def Disorder.problem : Disorder → Problem
  | x => ⟨[], .rejected "minx must not exceed maxx"⟩
  | y => ⟨[], .rejected "miny must not exceed maxy"⟩

/-- The rectangle with the given bounds, if they are in order. -/
def ofBounds (minX minY maxX maxY : Float) : Except Disorder Extent :=
  if hx : maxX < minX then .error .x
  else if hy : maxY < minY then .error .y
  else .ok ⟨minX, minY, maxX, maxY, hx, hy⟩

/-- The rectangle that four words stand for. -/
def ofText (text : String) : Except Failure Extent :=
  match Text.wordList text with
  | [a, b, c, d] =>
    match Number.float? a, Number.float? b, Number.float? c, Number.float? d with
    | some minX, some minY, some maxX, some maxY =>
      (ofBounds minX minY maxX maxY).mapError fun disorder => .invalid [disorder.problem]
    | _, _, _, _ => .error (.plain .invalidValue)
  | _ => .error (.extentWords (Text.quoted text))

/-- The order of the bounds is checked when all four are numbers. -/
def validator : Validator Extent :=
  Validator.record fun members =>
    let bounds := Prod.mk <$>
      (Prod.mk <$> Members.required members "minx" Validator.float <*>
        Members.required members "miny" Validator.float) <*>
      (Prod.mk <$> Members.required members "maxx" Validator.float <*>
        Members.required members "maxy" Validator.float)
    bounds.andThen fun bounds =>
      match ofBounds bounds.1.1 bounds.1.2 bounds.2.1 bounds.2.2 with
      | .ok extent => .valid extent
      | .error disorder => .invalid [disorder.problem]

end Extent

end WebCoverage
