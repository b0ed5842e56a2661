import WebCoverage.Coverage.Sample

/-! Rasters: samples in storage, and the shape, the strides and the place of the first sample that
make an array of any number of dimensions of it. Changing the order of the axes or leaving out lines
changes the view, not the samples. -/

namespace WebCoverage

structure Raster where
  type : SampleType
  /-- The bits of the samples. -/
  storage : List Nat
  shape : List Nat
  /-- How far neighbours along each axis are apart in storage. -/
  strides : List Int
  /-- The place of the first sample. -/
  start : Int

namespace Raster

/-- The number of samples of a shape. -/
def count (shape : List Nat) : Nat :=
  shape.foldr (· * ·) 1

/-- The strides of samples that are stored with the last axis running fastest. -/
def rowStrides : (shape : List Nat) → List Int
  | [] => []
  | _ :: rest => (count rest : Int) :: rowStrides rest

/-- The lengths of the axes, if they hold `size` samples. One of them may be left open by a negative
number: it is what the others leave. -/
def shape? (size : Nat) (lengths : List Int) : Option (List Nat) :=
  let known := count ((lengths.filter (0 ≤ ·)).map Int.toNat)
  match lengths.countP (· < 0) with
  | 0 => if size = known then some (lengths.map Int.toNat) else none
  | 1 =>
    if 0 < known ∧ size % known = 0 then
      some (lengths.map fun length => if length < 0 then size / known else length.toNat)
    else none
  | _ => none

/-- The most axes a raster may have. -/
def axisLimit : Nat := 64

/-- Whether a raster may have a shape: there are not too many axes, and the axes that are not empty
span no more bytes than a word of 64 bits with a sign can count. -/
def isSupported (type : SampleType) (shape : List Nat) : Bool :=
  shape.length ≤ axisLimit && count (shape.filter (0 < ·)) * type.width < 0x8000000000000000

/-- The raster of values that are given with the last axis running fastest. -/
def ofSamples (type : SampleType) (lengths : List Int) (samples : List Sample) :
    Except SampleFault Raster := do
  let storage ← samples.mapM type.bits
  match (shape? storage.length lengths).filter (isSupported type) with
  | some shape => return ⟨type, storage, shape, rowStrides shape, 0⟩
  | none => throw .unsuitableShape

/-- The places of the samples in storage, the last axis running fastest. -/
def places (start : Int) : List (Nat × Int) → List Int
  | [] => [start]
  | (length, stride) :: rest =>
    (List.range length).flatMap fun (i : Nat) => places (start + i * stride) rest

/-- The sample at a place in storage. -/
def sampleAt (raster : Raster) (place : Int) : Nat :=
  raster.storage.getD place.toNat 0

/-- The samples of the view, the last axis running fastest. -/
def samples (raster : Raster) : List Nat :=
  (places raster.start (raster.shape.zip raster.strides)).map raster.sampleAt

/-- The same view with the axes in reverse order. -/
def transposed (raster : Raster) : Raster :=
  { raster with shape := raster.shape.reverse, strides := raster.strides.reverse }

/-- The same samples, stored with the first axis running fastest. There is at least one axis then: a
raster of no axes becomes one of a single line. -/
def columnMajor (raster : Raster) : Raster :=
  let shape := if raster.shape.isEmpty then [1] else raster.shape
  { raster with
    storage := raster.transposed.samples
    shape
    strides := (rowStrides shape.reverse).reverse
    start := 0 }

/-- Every line of the first axis at a distance of `step` from the one before, backwards from the
last line where `step` is negative. No lines are at a distance of zero. -/
def everyNth? (raster : Raster) (step : Int) : Option Raster :=
  match raster.shape, raster.strides with
  | length :: shape, stride :: strides =>
    if step = 0 then none
    else
      let kept := (length + step.natAbs - 1) / step.natAbs
      some { raster with
        shape := kept :: shape
        strides := stride * step :: strides
        start := if step < 0 then raster.start + (length - 1) * stride else raster.start }
  | _, _ => none

def isEmpty (raster : Raster) : Bool :=
  count raster.shape = 0

/-- The samples of the view in bytes. -/
def bytes (raster : Raster) : Bytes :=
  raster.samples.flatMap raster.type.write

end Raster

end WebCoverage
