import WebCoverage.Proofs.Grid.Exact
import WebCoverage.Proofs.Number.Quotient

/-! Which grids are degenerate. A grid with a size that follows from a resolution never is: it is
found only where at least one pixel goes into the extent. A configured size is not checked against
the extent, and the grid is degenerate unless the extent spans that many pixels
(`Grid.isRegular_iff`). -/

namespace WebCoverage.Grid

open Number (rational?)

variable {library : ProjectionLibrary} {owner : Option MapDefinition} {layer : Layer}
  {grid : Grid}

/-- The extent is in order, and pixels go to the right and down. None of these numbers can be one
that is no number. -/
structure IsRegular (grid : Grid) : Prop where
  x_le : grid.extent.minX ≤ grid.extent.maxX
  y_le : grid.extent.minY ≤ grid.extent.maxY
  column_pos : 0.0 < grid.transform.columnX
  line_neg : grid.transform.lineY < 0.0

/-- One coordinate is less than another, and their difference can be divided by a number without
being lost: the quotient exceeds half of the least positive number. -/
def Spans (low high : Float) (count : Nat) : Prop :=
  low < high ∧ ∀ length, rational? (high - low) = some length → 2 ^ (-1075 : Int) < length / count

theorem quotient_pos_iff (low high : Float) {count : Nat} (hpos : 0 < count)
    (hcount : rational? (Float.ofInt count) = some count) :
    0.0 < (high - low) / Float.ofInt count ↔ Spans low high count := by
  rw [Number.div_pos_iff hcount (by exact_mod_cast hpos), Number.sub_pos_iff, Spans]

/-- The two numbers behind the size, and where they come from if no size is configured. -/
theorem Found.exists_whole (h : Found library owner layer grid) :
    ∃ x y : Float, Number.truncate x = .ok grid.width ∧ Number.truncate y = .ok grid.height ∧
      (layer.metadata.filled? "size" = none → ∃ resolution : Float × Float,
        ¬resolution.1 ≤ 0.0 ∧ ¬resolution.2 ≤ 0.0 ∧
        x = (grid.extent.maxX - grid.extent.minX) / resolution.1 + 0.5 ∧
        y = (grid.extent.maxY - grid.extent.minY) / resolution.2 + 0.5) := by
  have hsize : Tiling.size? layer grid.extent.bounds =
      some ((grid.width : Int), (grid.height : Int)) := by
    rw [Tiling.size?_float, h.size]
    rfl
  unfold Tiling.size? at hsize
  by_cases hsome : (layer.metadata.filled? "size").isSome
  · simp only [if_pos hsome, Option.bind_eq_bind, Option.bind_eq_some_iff] at hsize
    obtain ⟨size, -, columns, hcolumns, lines, hlines, hcount⟩ := hsize
    cases hcount
    exact ⟨_, _, Tiling.eq_ok_of_toOption hcolumns, Tiling.eq_ok_of_toOption hlines,
      fun hnone => by rw [hnone] at hsome; cases hsome⟩
  · simp only [if_neg hsome, Option.bind_eq_bind, Option.bind_eq_some_iff] at hsize
    obtain ⟨resolution, -, hsize⟩ := hsize
    split at hsize
    · cases hsize
    · next hpos =>
      simp only [Option.bind_eq_some_iff] at hsize
      obtain ⟨columns, hcolumns, lines, hlines, hcount⟩ := hsize
      cases hcount
      exact ⟨_, _, Tiling.eq_ok_of_toOption hcolumns, Tiling.eq_ok_of_toOption hlines,
        fun _ => ⟨resolution, not_or.1 hpos |>.1, not_or.1 hpos |>.2, rfl, rfl⟩⟩

/-- An extent that a pixel of the given size goes into spans as many pixels as do. -/
theorem spans_of_resolution {low high step : Float} {count : Nat} (hpos : 0 < count)
    (hstep : ¬step ≤ 0.0) (h : Number.truncate ((high - low) / step + 0.5) = .ok count) :
    Spans low high count := by
  obtain ⟨hlt, hlength⟩ := Number.half_least_lt_of_truncate hpos hstep h
  exact ⟨Number.sub_pos_iff.1 hlt, hlength⟩

theorem Found.isRegular_iff_spans (h : Found library owner layer grid) :
    grid.IsRegular ↔ Spans grid.extent.minX grid.extent.maxX grid.width ∧
      Spans grid.extent.minY grid.extent.maxY grid.height := by
  obtain ⟨x, y, hx, hy, -⟩ := h.exists_whole
  have hcolumn := quotient_pos_iff grid.extent.minX grid.extent.maxX grid.width_pos
    (Number.rational?_ofInt_of_truncate hx)
  have hline := quotient_pos_iff grid.extent.minY grid.extent.maxY grid.height_pos
    (Number.rational?_ofInt_of_truncate hy)
  constructor
  · intro hregular
    have hcolumn' := hregular.column_pos
    have hline' := hregular.line_neg
    rw [h.transform] at hcolumn' hline'
    exact ⟨hcolumn.1 hcolumn', hline.1 (Number.neg_lt_zero_iff.1 hline')⟩
  · rintro ⟨hx, hy⟩
    refine ⟨Number.le_of_lt hx.1, Number.le_of_lt hy.1, ?_, ?_⟩
    · rw [h.transform]
      exact hcolumn.2 hx
    · rw [h.transform]
      exact Number.neg_lt_zero_iff.2 (hline.2 hy)

/-- Grids with a size that follows from a resolution are regular. Those of a configured size are if
the extent spans so many pixels. -/
theorem isRegular_iff (h : ofLayer library owner layer = .ok grid) :
    grid.IsRegular ↔
      layer.metadata.filled? "size" = none ∨
        Spans grid.extent.minX grid.extent.maxX grid.width ∧
          Spans grid.extent.minY grid.extent.maxY grid.height := by
  have hfound := Found.of_ofLayer h
  rw [hfound.isRegular_iff_spans]
  refine ⟨.inr, fun hcases => hcases.elim (fun hnone => ?_) id⟩
  obtain ⟨x, y, hx, hy, hresolution⟩ := hfound.exists_whole
  obtain ⟨resolution, hcolumn, hline, rfl, rfl⟩ := hresolution hnone
  exact ⟨spans_of_resolution grid.width_pos hcolumn hx,
    spans_of_resolution grid.height_pos hline hy⟩

theorem isRegular_coarse :
    ∃ grid, ofLayer plainLibrary none Tiling.coarseLayer = .ok grid ∧ grid.IsRegular := by
  have hok : (ofLayer plainLibrary none Tiling.coarseLayer).isOk := by decide +kernel
  cases hgrid : ofLayer plainLibrary none Tiling.coarseLayer with
  | error failure => rw [hgrid] at hok; cases hok
  | ok grid => exact ⟨grid, rfl, (isRegular_iff hgrid).2 (.inl (by decide +kernel))⟩

/-- A layer with an extent of no width. -/
def flatLayer (key value : String) : Layer :=
  { sizedLayer "slope" "" with
    extent := some ⟨5.0, 0.0, 5.0, 20.0, by decide, by decide⟩
    metadata := Metadata.ofPairs [("wcs_" ++ key, value)] }

/-- The pixels of such a layer have no width if a size is configured. With a resolution there are
none. -/
theorem not_isRegular_flat :
    (∃ grid, ofLayer plainLibrary none (flatLayer "size" "10 10") = .ok grid ∧
      grid.transform.columnX = 0.0 ∧ ¬grid.IsRegular) ∧
    ofLayer plainLibrary none (flatLayer "resolution" "1 1") =
      .error (.unresolved "Layer 'slope' has an empty grid (0, 20)" none) := by
  have hflat : (ofLayer plainLibrary none (flatLayer "size" "10 10")).toOption.map
      (·.transform.columnX) = some 0.0 := by decide +kernel
  refine ⟨?_, by decide +kernel⟩
  cases hgrid : ofLayer plainLibrary none (flatLayer "size" "10 10") with
  | error failure => rw [hgrid] at hflat; cases hflat
  | ok grid =>
    rw [hgrid] at hflat
    have hcolumn : grid.transform.columnX = 0.0 := Option.some.inj hflat
    refine ⟨grid, rfl, hcolumn, fun hregular => ?_⟩
    have hpos := hregular.column_pos
    rw [hcolumn] at hpos
    exact absurd hpos (by decide)

end WebCoverage.Grid
