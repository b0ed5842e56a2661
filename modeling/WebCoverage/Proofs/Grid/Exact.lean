import Mathlib.Tactic.FieldSimp
import Mathlib.Tactic.NormNum
import WebCoverage.Proofs.Grid.Resolution
import WebCoverage.Proofs.Number.Exact

/-! What the grid of a layer would be without rounding. The arithmetic of a grid is written once for
all numbers that it can be done with. Floating-point numbers give the grid of the layer
(`Tiling.ofLayer?_float`), and rational numbers give one that tiles the extent
(`Tiling.tiles_extent`). -/

namespace WebCoverage

open Number (rational? integerPart)

/-! ## The arithmetic of a grid -/

/-- Numbers that configured ones can be read as, and that have integer parts. -/
class Reading (α : Type) where
  read? : Float → Option α
  whole? : α → Option Int
  ofInt : Int → α

instance : Reading Float where
  read? := some
  whole? x := (Number.truncate x).toOption
  ofInt := Float.ofInt

/-- A number that is not finite stands for no rational number. -/
instance : Reading ℚ where
  read? := rational?
  whole? q := some (integerPart q)
  ofInt := Int.cast

/-- A rectangle. -/
structure Rectangle (α : Type) where
  minX : α
  minY : α
  maxX : α
  maxY : α
  deriving DecidableEq

/-- An affine map from columns and lines of pixels to coordinates. -/
structure Affine (α : Type) where
  originX : α
  columnX : α
  lineX : α
  originY : α
  columnY : α
  lineY : α
  deriving DecidableEq

/-- A rectangle divided into pixels. -/
structure Tiling (α : Type) where
  width : Nat
  height : Nat
  bounds : Rectangle α
  transform : Affine α
  deriving DecidableEq

section

variable {α : Type} [Reading α]

open Reading

def Rectangle.ofExtent? (extent : Extent) : Option (Rectangle α) := do
  return ⟨← read? extent.minX, ← read? extent.minY, ← read? extent.maxX, ← read? extent.maxY⟩

variable [Add α] [Sub α] [Div α] [Neg α] [LE α] [DecidableLE α] [OfScientific α]

def Affine.northUp (bounds : Rectangle α) (width height : Int) : Affine α where
  originX := bounds.minX
  columnX := (bounds.maxX - bounds.minX) / ofInt width
  lineX := 0.0
  originY := bounds.maxY
  columnY := 0.0
  lineY := -((bounds.maxY - bounds.minY) / ofInt height)

namespace Tiling

def origin (tiling : Tiling α) : α × α :=
  let t := tiling.transform
  (t.originX + t.columnX / 2.0 + t.lineX / 2.0, t.originY + t.columnY / 2.0 + t.lineY / 2.0)

def offsets (tiling : Tiling α) : α × α :=
  (tiling.transform.columnX, tiling.transform.lineY)

/-- The two numbers that the metadata under `key` gives. -/
def pair? (layer : Layer) (key : String) : Option (α × α) := do
  let (x, y) ← Grid.numbers? (← layer.metadata.filled? key)
  return (← read? x, ← read? y)

/-- The number of pixels in both directions, from the size or else from the resolution. -/
def size? (layer : Layer) (bounds : Rectangle α) : Option (Int × Int) := do
  if (layer.metadata.filled? "size").isSome then
    let size : α × α ← pair? layer "size"
    return (← whole? size.1, ← whole? size.2)
  else
    let resolution : α × α ← pair? layer "resolution"
    if resolution.1 ≤ 0.0 ∨ resolution.2 ≤ 0.0 then none
    else
      return (← whole? ((bounds.maxX - bounds.minX) / resolution.1 + 0.5),
        ← whole? ((bounds.maxY - bounds.minY) / resolution.2 + 0.5))

/-- The grid of a layer, if it has one. -/
def ofLayer? (library : ProjectionLibrary) (owner : Option MapDefinition) (layer : Layer) :
    Option (Tiling α) := do
  let crs ← (Crs.native? library owner layer).toOption.join
  let extent ← (Grid.layerExtent layer).toOption
  let bounds ← Rectangle.ofExtent? extent
  let size ← size? layer bounds
  if 0 < size.1 ∧ 0 < size.2 then
    let _ ← (Grid.geographicExtent library layer extent crs).toOption
    return ⟨size.1.toNat, size.2.toNat, bounds, .northUp bounds size.1 size.2⟩
  else none

end Tiling

end

/-! ## With rounding -/

def Extent.bounds (extent : Extent) : Rectangle Float :=
  ⟨extent.minX, extent.minY, extent.maxX, extent.maxY⟩

def GeoTransform.affine (transform : GeoTransform) : Affine Float :=
  ⟨transform.originX, transform.columnX, transform.lineX, transform.originY, transform.columnY,
    transform.lineY⟩

def Grid.tiling (grid : Grid) : Tiling Float :=
  ⟨grid.width, grid.height, grid.extent.bounds, grid.transform.affine⟩

variable {library : ProjectionLibrary} {owner : Option MapDefinition} {layer : Layer}
  {extent : Extent}

namespace Tiling

theorem origin_tiling (grid : Grid) : grid.tiling.origin = grid.origin := rfl

theorem offsets_tiling (grid : Grid) : grid.tiling.offsets = grid.offsets := rfl

private theorem toOption_bind {β γ : Type} (step : Except Failure β) (next : β → Except Failure γ) :
    (step >>= next).toOption = step.toOption.bind fun b => (next b).toOption := by
  cases step <;> rfl

private theorem toOption_wholeSize (x : Float) :
    (Grid.wholeSize x).toOption = Reading.whole? x := by
  change _ = (Number.truncate x).toOption
  unfold Grid.wholeSize
  cases Number.truncate x <;> rfl

private theorem toOption_pair {key text : String} (h : layer.metadata.filled? key = some text) :
    (Grid.pair layer key text).toOption = pair? layer key := by
  rw [Grid.pair_eq, pair?, h]
  cases hnumbers : Grid.numbers? text with
  | none => simp [hnumbers, Except.toOption]
  | some values => simp [hnumbers, Except.toOption, Reading.read?]

theorem size?_float (layer : Layer) (extent : Extent) :
    size? layer extent.bounds = (Grid.layerSize layer extent).toOption := by
  unfold size? Grid.layerSize
  cases hsize : layer.metadata.filled? "size" with
  | some text =>
    simp only [toOption_bind, toOption_pair hsize, toOption_wholeSize]
    rfl
  | none =>
    cases hresolution : layer.metadata.filled? "resolution" with
    | none => simp [pair?, hresolution, Except.toOption]
    | some text =>
      rw [toOption_bind, toOption_pair hresolution]
      cases pair? (α := Float) layer "resolution" with
      | none => rfl
      | some resolution =>
        rw [Option.bind_some]
        dsimp only
        by_cases hzero : resolution.1 ≤ 0.0 ∨ resolution.2 ≤ 0.0
        · rw [if_pos hzero]
          exact if_pos hzero
        · rw [if_neg hzero]
          simp only [toOption_bind, toOption_wholeSize]
          exact if_neg hzero

/-- With floating-point numbers the arithmetic gives the grid of the layer. -/
theorem ofLayer?_float (library : ProjectionLibrary) (owner : Option MapDefinition)
    (layer : Layer) :
    ofLayer? library owner layer = (Grid.ofLayer library owner layer).toOption.map Grid.tiling := by
  have hread (extent : Extent) : Rectangle.ofExtent? extent = some extent.bounds := rfl
  obtain ⟨grid, hgrid, hfound⟩ | ⟨failure, hfailure, hunfound⟩ :=
    Grid.found_or_unfound library owner layer
  · have hpos : 0 < grid.width ∧ 0 < grid.height := ⟨grid.width_pos, grid.height_pos⟩
    rw [hgrid, ofLayer?, hfound.crs, hfound.extent]
    simp [hread, Except.toOption, size?_float, hfound.size, hpos, hfound.geographic, Grid.tiling,
      hfound.transform]
    rfl
  · rw [hfailure, ofLayer?]
    cases hunfound with
    | token hcrs => rw [hcrs]; rfl
    | crs hcrs => rw [hcrs]; rfl
    | extent hcrs hextent => rw [hcrs, hextent]; rfl
    | size hcrs hextent hsize => simp [hcrs, hextent, hread, Except.toOption, size?_float, hsize]
    | empty hcrs hextent hsize hpos =>
      simp [hcrs, hextent, hread, Except.toOption, size?_float, hsize, if_neg hpos]
    | geographic hcrs hextent hsize hpos hgeographic =>
      simp [hcrs, hextent, hread, Except.toOption, size?_float, hsize, hpos, hgeographic]

/-! ## Without rounding -/

section

variable {α : Type} [Reading α] [Add α] [Sub α] [Div α] [Neg α] [LE α] [DecidableLE α]
  [OfScientific α] {tiling : Tiling α}

/-- What a grid that was found is made of. -/
structure Found (layer : Layer) (tiling : Tiling α) : Prop where
  bounds : ∃ extent, Grid.layerExtent layer = .ok extent ∧
    Rectangle.ofExtent? extent = some tiling.bounds
  size : size? layer tiling.bounds = some ((tiling.width : Int), (tiling.height : Int))
  width_pos : 0 < tiling.width
  height_pos : 0 < tiling.height
  transform : tiling.transform = .northUp tiling.bounds tiling.width tiling.height

theorem eq_ok_of_toOption {ε β : Type} {step : Except ε β} {b : β}
    (h : step.toOption = some b) : step = .ok b := by
  cases step with
  | error failure => cases h
  | ok b' => cases h; rfl

theorem Found.of_ofLayer? (h : ofLayer? library owner layer = some tiling) :
    tiling.Found layer := by
  simp only [ofLayer?, Option.bind_eq_bind, Option.bind_eq_some_iff] at h
  obtain ⟨crs, -, extent, hextent, bounds, hbounds, ⟨width, height⟩, hsize, h⟩ := h
  split at h
  · next hpos =>
    obtain ⟨geographic, -, htiling⟩ := Option.bind_eq_some_iff.1 h
    cases htiling
    obtain ⟨hwidth, hheight⟩ : 0 < width ∧ 0 < height := hpos
    have hcolumns : (width.toNat : Int) = width := by omega
    have hlines : (height.toNat : Int) = height := by omega
    refine ⟨⟨extent, eq_ok_of_toOption hextent, hbounds⟩, ?_, ?_, ?_, ?_⟩
    · rwa [hcolumns, hlines]
    · exact Int.pos_iff_toNat_pos.1 hwidth
    · exact Int.pos_iff_toNat_pos.1 hheight
    · rw [hcolumns, hlines]
  · cases h

end

end Tiling

/-- Where an affine map takes a column and a line. Pixels have their centres at halves. -/
def Affine.place (affine : Affine ℚ) (column line : ℚ) : ℚ × ℚ :=
  (affine.originX + column * affine.columnX + line * affine.lineX,
    affine.originY + column * affine.columnY + line * affine.lineY)

section

variable {bounds : Rectangle ℚ} {width height : Nat}

theorem Affine.place_northUp (bounds : Rectangle ℚ) (width height : Nat) (column line : ℚ) :
    (northUp bounds width height).place column line =
      (bounds.minX + column * ((bounds.maxX - bounds.minX) / width),
        bounds.maxY - line * ((bounds.maxY - bounds.minY) / height)) := by
  simp only [place, northUp, Reading.ofInt, Int.cast_natCast]
  norm_num
  ring

/-- The first corner of the first pixel. -/
theorem Affine.place_northUp_first (bounds : Rectangle ℚ) (width height : Nat) :
    (northUp bounds width height).place 0 0 = (bounds.minX, bounds.maxY) := by
  simp [place_northUp]

/-- The last corner of the last pixel. -/
theorem Affine.place_northUp_last (bounds : Rectangle ℚ) (hwidth : 0 < width)
    (hheight : 0 < height) :
    (northUp bounds width height).place width height = (bounds.maxX, bounds.minY) := by
  have hwidth : (width : ℚ) ≠ 0 := by positivity
  have hheight : (height : ℚ) ≠ 0 := by positivity
  rw [place_northUp, mul_div_cancel₀ _ hwidth, mul_div_cancel₀ _ hheight]
  simp

/-- How often a step goes into a length, rounded to an integer, is off by half a step at most. -/
theorem abs_mul_sub_le {step length : ℚ} {n : Nat} (hstep : 0 < step) (hn : 0 < n)
    (h : integerPart (length / step + 0.5) = n) : |n * step - length| ≤ step / 2 := by
  have hnonneg : 0 ≤ length / step + 0.5 :=
    Number.nonneg_of_integerPart_pos (h ▸ Int.natCast_pos.2 hn)
  rw [Number.integerPart_of_nonneg hnonneg, Int.floor_eq_iff, Int.cast_natCast] at h
  have hhalf : |n - length / step| ≤ 1 / 2 := by
    rw [abs_le]
    constructor <;> norm_num at h ⊢ <;> linarith
  calc |n * step - length| = |n - length / step| * step := by
        rw [← abs_of_pos hstep, ← abs_mul, abs_of_pos hstep, sub_mul, div_mul_cancel₀ _ hstep.ne']
    _ ≤ 1 / 2 * step := by gcongr
    _ = step / 2 := by ring

end

namespace Tiling

variable {tiling : Tiling ℚ}

/-- From the origin, the centre of the first pixel, the offsets lead to all other centres. -/
theorem Found.origin_add_offsets (h : tiling.Found layer) (column line : ℚ) :
    tiling.origin + (column, line) * tiling.offsets =
      tiling.transform.place (column + 1 / 2) (line + 1 / 2) := by
  rw [origin, offsets, h.transform, Affine.place_northUp]
  simp only [Affine.northUp, Reading.ofInt, Int.cast_natCast, Prod.mk_mul_mk, Prod.mk_add_mk,
    Prod.mk.injEq]
  constructor
  · norm_num
    ring
  · norm_num
    ring

/-- The size that is found from a resolution is off by half a pixel at most. -/
theorem Found.abs_sub_le {resolution : ℚ × ℚ} (h : tiling.Found layer)
    (hnone : layer.metadata.filled? "size" = none)
    (hresolution : pair? layer "resolution" = some resolution) :
    |tiling.width * resolution.1 - (tiling.bounds.maxX - tiling.bounds.minX)| ≤
        resolution.1 / 2 ∧
      |tiling.height * resolution.2 - (tiling.bounds.maxY - tiling.bounds.minY)| ≤
        resolution.2 / 2 := by
  have hsize := h.size
  rw [size?, hnone, hresolution] at hsize
  replace hsize : (if resolution.1 ≤ 0.0 ∨ resolution.2 ≤ 0.0 then none
      else some (integerPart ((tiling.bounds.maxX - tiling.bounds.minX) / resolution.1 + 0.5),
        integerPart ((tiling.bounds.maxY - tiling.bounds.minY) / resolution.2 + 0.5))) =
      some ((tiling.width : Int), (tiling.height : Int)) := hsize
  split at hsize
  · cases hsize
  · next hpos =>
    norm_num only [not_or, not_le] at hpos
    rw [Option.some.injEq, Prod.mk.injEq] at hsize
    exact ⟨abs_mul_sub_le hpos.1 h.width_pos hsize.1, abs_mul_sub_le hpos.2 h.height_pos hsize.2⟩

private theorem exists_of_whole? {x : Float} {n : Int} (h : Reading.whole? x = some n) :
    ∃ q : ℚ, Reading.read? x = some q ∧ Reading.whole? q = some n := by
  obtain ⟨q, hq, hn⟩ := Number.truncate_eq_ok_iff.1 (eq_ok_of_toOption h)
  exact ⟨q, hq, congrArg some hn⟩

/-- A layer of a given size that has a grid has one of as many pixels without rounding. -/
theorem ofLayer?_of_sized {grid : Grid} {bounds : Rectangle ℚ}
    (h : Grid.ofLayer library owner layer = .ok grid)
    (hsize : (layer.metadata.filled? "size").isSome)
    (hbounds : Rectangle.ofExtent? grid.extent = some bounds) :
    ofLayer? library owner layer =
      some ⟨grid.width, grid.height, bounds, .northUp bounds grid.width grid.height⟩ := by
  have hfound := Grid.Found.of_ofLayer h
  have hpos : 0 < grid.width ∧ 0 < grid.height := ⟨grid.width_pos, grid.height_pos⟩
  have hexact : size? layer bounds = some ((grid.width : Int), (grid.height : Int)) := by
    have hfloat : size? layer grid.extent.bounds =
        some ((grid.width : Int), (grid.height : Int)) := by
      rw [size?_float, hfound.size]
      rfl
    rw [size?, if_pos hsize] at hfloat ⊢
    simp only [pair?, Option.bind_eq_bind, Option.bind_eq_some_iff] at hfloat ⊢
    obtain ⟨size, ⟨text, htext, ⟨x, y⟩, hnumbers, _, hx, _, hy, hpair⟩, columns, hcolumns, lines,
      hlines, hcount⟩ := hfloat
    cases hx
    cases hy
    cases hpair
    cases hcount
    obtain ⟨p, hp, hwidth⟩ := exists_of_whole? hcolumns
    obtain ⟨q, hq, hheight⟩ := exists_of_whole? hlines
    exact ⟨(p, q), ⟨text, htext, (x, y), hnumbers, p, hp, q, hq, rfl⟩, _, hwidth, _, hheight, rfl⟩
  rw [ofLayer?, hfound.crs, hfound.extent]
  simp [Except.toOption, hbounds, hexact, hpos, hfound.geographic]

/-- Without rounding the grid of a layer tiles its extent. The same arithmetic with rounding is that
of the grid itself, and counts as many pixels where the size is given. -/
theorem tiles_extent (library : ProjectionLibrary) (owner : Option MapDefinition)
    (layer : Layer) :
    ofLayer? library owner layer = (Grid.ofLayer library owner layer).toOption.map Grid.tiling ∧
    (∀ grid : Grid, grid.tiling.origin = grid.origin ∧ grid.tiling.offsets = grid.offsets) ∧
    (∀ (grid : Grid) (bounds : Rectangle ℚ), Grid.ofLayer library owner layer = .ok grid →
      (layer.metadata.filled? "size").isSome → Rectangle.ofExtent? grid.extent = some bounds →
      ofLayer? library owner layer =
        some ⟨grid.width, grid.height, bounds, .northUp bounds grid.width grid.height⟩) ∧
    ∀ tiling : Tiling ℚ, ofLayer? library owner layer = some tiling →
      (∃ extent, Grid.layerExtent layer = .ok extent ∧
        Rectangle.ofExtent? extent = some tiling.bounds) ∧
      1 ≤ tiling.width ∧ 1 ≤ tiling.height ∧
      tiling.transform.place 0 0 = (tiling.bounds.minX, tiling.bounds.maxY) ∧
      tiling.transform.place tiling.width tiling.height =
        (tiling.bounds.maxX, tiling.bounds.minY) ∧
      tiling.origin - (1 / 2 : ℚ) • tiling.offsets = (tiling.bounds.minX, tiling.bounds.maxY) ∧
      tiling.origin + ((tiling.width - 1 / 2 : ℚ), (tiling.height - 1 / 2 : ℚ)) * tiling.offsets =
        (tiling.bounds.maxX, tiling.bounds.minY) ∧
      ∀ resolution : ℚ × ℚ, layer.metadata.filled? "size" = none →
        pair? layer "resolution" = some resolution →
        |tiling.width * resolution.1 - (tiling.bounds.maxX - tiling.bounds.minX)| ≤
            resolution.1 / 2 ∧
          |tiling.height * resolution.2 - (tiling.bounds.maxY - tiling.bounds.minY)| ≤
            resolution.2 / 2 := by
  refine ⟨ofLayer?_float library owner layer,
    fun grid => ⟨origin_tiling grid, offsets_tiling grid⟩,
    fun grid bounds => ofLayer?_of_sized, fun tiling h => ?_⟩
  have hfound := Found.of_ofLayer? h
  have hfirst := Affine.place_northUp_first tiling.bounds tiling.width tiling.height
  have hlast := Affine.place_northUp_last tiling.bounds hfound.width_pos hfound.height_pos
  rw [← hfound.transform] at hfirst hlast
  refine ⟨hfound.bounds, hfound.width_pos, hfound.height_pos, hfirst, hlast, ?_, ?_,
    fun resolution hnone hresolution => hfound.abs_sub_le hnone hresolution⟩
  · have hhalf :
        -((1 / 2 : ℚ) • tiling.offsets) = ((-1 / 2 : ℚ), (-1 / 2 : ℚ)) * tiling.offsets := by
      ext <;> simp <;> ring
    rw [sub_eq_add_neg, hhalf, hfound.origin_add_offsets, ← hfirst]
    norm_num
  · rw [hfound.origin_add_offsets, sub_add_cancel, sub_add_cancel, hlast]

/-- A layer of which the resolution does not go into the extent. -/
def coarseLayer : Layer :=
  { Grid.sizedLayer "dem" "" with metadata := Metadata.ofPairs [("wcs_resolution", "3 4")] }

theorem tiles_extent_coarse :
    ∃ (grid : Grid) (tiling : Tiling ℚ),
      Grid.ofLayer Grid.plainLibrary none coarseLayer = .ok grid ∧
      ofLayer? Grid.plainLibrary none coarseLayer = some grid.tiling ∧
      ofLayer? Grid.plainLibrary none coarseLayer = some tiling ∧
      grid.width = 3 ∧ tiling.width = 3 ∧ grid.height = 3 ∧ tiling.height = 3 ∧
      tiling.transform.place 3 3 = (10, 0) ∧
      |tiling.height * 4 - (tiling.bounds.maxY - tiling.bounds.minY)| ≤ 4 / 2 := by
  have hcoarse : (Grid.ofLayer Grid.plainLibrary none coarseLayer).toOption.map
      (fun grid => (grid.width, grid.height)) = some (3, 3) := by
    decide +kernel
  obtain ⟨grid, hgrid, hcounts⟩ := Option.map_eq_some_iff.1 hcoarse
  obtain ⟨hwidth, hheight⟩ := Prod.mk.inj hcounts
  have h : ofLayer? Grid.plainLibrary none coarseLayer =
      some (⟨3, 3, ⟨0, 0, 10, 10⟩, .northUp ⟨0, 0, 10, 10⟩ 3 3⟩ : Tiling ℚ) := by
    decide +kernel
  obtain ⟨hfloat, -, -, htiles⟩ := tiles_extent Grid.plainLibrary none coarseLayer
  rw [hgrid] at hfloat
  obtain ⟨-, -, -, -, hlast, -, -, hresolution⟩ := htiles _ h
  exact ⟨grid, _, eq_ok_of_toOption hgrid, hfloat, h, hwidth, rfl, hheight, rfl, hlast,
    (hresolution (3, 4) (by decide +kernel) (by decide +kernel)).2⟩

end Tiling

end WebCoverage
