import WebCoverage.Crs.Projection

/-! The pixel grid of a coverage: its size, its place on the ground, and how both follow from the
configuration of a layer. -/

namespace WebCoverage

/-- The affine map from columns and lines of pixels to coordinates. -/
structure GeoTransform where
  originX : Float
  columnX : Float
  lineX : Float
  originY : Float
  columnY : Float
  lineY : Float
  deriving DecidableEq

structure Grid where
  width : Nat
  height : Nat
  extent : Extent
  /-- The extent in longitudes and latitudes. -/
  geographic : Extent
  transform : GeoTransform
  crs : String
  bands : Nat
  width_pos : 0 < width
  height_pos : 0 < height
  bands_pos : 0 < bands
  deriving DecidableEq

namespace Grid

/-- The place of the centre of the first pixel. -/
def origin (grid : Grid) : Float × Float :=
  let t := grid.transform
  (t.originX + t.columnX / 2.0 + t.lineX / 2.0, t.originY + t.columnY / 2.0 + t.lineY / 2.0)

/-- The size of a pixel in both directions, signed. -/
def offsets (grid : Grid) : Float × Float :=
  (grid.transform.columnX, grid.transform.lineY)

/-- A transform is a list of six numbers. -/
def transformValidator : Validator GeoTransform
  | .array items =>
    if 6 < items.length then .flaw .tooLong
    else
      let item (i : Nat) : Checked Float :=
        match items[i]? with
        | some value => (Validator.float value).under (toString i)
        | none => .invalid [⟨[toString i], .missing⟩]
      GeoTransform.mk <$> item 0 <*> item 1 <*> item 2 <*> item 3 <*> item 4 <*> item 5
  | _ => .flaw .notTuple

def validator : Validator Grid :=
  Validator.record fun members =>
    (fun width height extent geographic transform crs bands =>
        { width := width.1, height := height.1, extent, geographic, transform, crs,
          bands := bands.1, width_pos := width.2, height_pos := height.2, bands_pos := bands.2 })
      <$> Members.required members "xsize" Validator.positive
      <*> Members.required members "ysize" Validator.positive
      <*> Members.required members "extent" Extent.validator
      <*> Members.required members "llextent" Extent.validator
      <*> Members.required members "geotransform" transformValidator
      <*> Members.required members "srs_urn" Validator.text
      <*> Members.defaulted members "bandcount" ⟨1, by decide⟩ Validator.positive

/-! ## From the configuration of a layer -/

/-- The extent that metadata gives, else the one that the layer is configured with. -/
def layerExtent (layer : Layer) : Except Failure Extent :=
  match layer.metadata.filled? "extent" with
  | some text =>
    (Extent.ofText text).mapError fun failure =>
      .unresolved s!"Invalid extent metadata '{text}' on layer '{layer.name}'" (some failure.kind)
  | none =>
    match layer.extent with
    | some extent => .ok extent
    | none => .error (.unresolved s!"Unable to determine the extent of layer '{layer.name}'" none)

/-- The two numbers that the metadata under `key` gives. -/
def pair (layer : Layer) (key text : String) : Except Failure (Float × Float) :=
  let found := match Text.wordList text with
    | [a, b] =>
      match Number.float? a, Number.float? b with
      | some x, some y => some (x, y)
      | _, _ => none
    | _ => none
  match found with
  | some values => .ok values
  | none =>
    .error (.unresolved s!"Invalid {key} metadata '{text}' on layer '{layer.name}'"
      (some .invalidValue))

/-- The integer part of a size; it has none where the size is no number or infinite. -/
def wholeSize (x : Float) : Except Failure Int :=
  (Number.truncate x).mapError fun
    | .notANumber => .plain .invalidValue
    | .infinite => .plain .overflow

/-- The number of pixels in both directions, from the size or else from the resolution. -/
def layerSize (layer : Layer) (extent : Extent) : Except Failure (Int × Int) :=
  match layer.metadata.filled? "size" with
  | some text => do
    let size ← pair layer "size" text
    return (← wholeSize size.1, ← wholeSize size.2)
  | none =>
    match layer.metadata.filled? "resolution" with
    | none =>
      .error (.unresolved
        s!"Layer '{layer.name}' defines neither size nor resolution metadata" none)
    | some text => do
      let resolution ← pair layer "resolution" text
      if resolution.1 ≤ 0.0 ∨ resolution.2 ≤ 0.0 then
        throw (.unresolved s!"Resolution of layer '{layer.name}' must be positive" none)
      let width ← wholeSize ((extent.maxX - extent.minX) / resolution.1 + 0.5)
      let height ← wholeSize ((extent.maxY - extent.minY) / resolution.2 + 0.5)
      return (width, height)

/-- The extent in longitudes and latitudes. -/
def geographicExtent (library : ProjectionLibrary) (layer : Layer) (extent : Extent)
    (crs : String) : Except Failure Extent :=
  if crs = Crs.geographicUrn then .ok extent
  else
    (library.transformExtent extent crs "EPSG:4326").mapError fun failure =>
      .unresolved s!"Unable to compute the WGS84 extent of layer '{layer.name}'"
        (some failure.kind)

/-- The number of bands, one unless metadata gives more. -/
def layerBands (layer : Layer) : { n : Nat // 0 < n } :=
  match (layer.metadata.find? "bandcount").bind Number.int? with
  | some n => if h : 0 < n.toNat then ⟨n.toNat, h⟩ else ⟨1, by decide⟩
  | none => ⟨1, by decide⟩

/-- The north-up transform of an extent that is divided into pixels. -/
def northUp (extent : Extent) (width height : Int) : GeoTransform where
  originX := extent.minX
  columnX := (extent.maxX - extent.minX) / Float.ofInt width
  lineX := 0.0
  originY := extent.maxY
  columnY := 0.0
  lineY := -((extent.maxY - extent.minY) / Float.ofInt height)

/-- The grid of a layer. -/
def ofLayer (library : ProjectionLibrary) (owner : Option MapDefinition) (layer : Layer) :
    Except Failure Grid := do
  let crs ← match Crs.native? library owner layer with
    | .ok (some urn) => .ok urn
    | .ok none => .error (.unresolved s!"Unable to determine the SRS for layer '{layer.name}'" none)
    | .error fault => .error fault.failure
  let extent ← layerExtent layer
  let size ← layerSize layer extent
  if h : 0 < size.1 ∧ 0 < size.2 then
    let geographic ← geographicExtent library layer extent crs
    let bands := layerBands layer
    return {
      width := size.1.toNat, height := size.2.toNat, extent, geographic
      transform := northUp extent size.1 size.2
      crs, bands := bands.1
      width_pos := by omega, height_pos := by omega, bands_pos := bands.2 }
  else
    throw (.unresolved s!"Layer '{layer.name}' has an empty grid ({size.1}, {size.2})" none)

end Grid

end WebCoverage
