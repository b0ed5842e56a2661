import WebCoverage.Proofs.Correspondence
import WebCoverage.Proofs.Number.Whole

/-! Whole coordinates. An integer of at most fifteen digits is written as it is, and so is the
floating-point number that is equal to it, but for the sign of a negative zero. What is written is
read again as it was: the corners of images in documents, and whole extents
(`whole_coordinates_read`). -/

namespace WebCoverage

open Xml

/-! ## Coordinates -/

section Coordinates

variable {n : Int} {x : Float}

theorem coordinateText?_whole (h : n.natAbs < 10 ^ 15) :
    coordinateText? (.whole n) = some (toString n) := by
  have hfloat : Number.ofInt? n = some (Float.ofInt n) := Number.ofInt?_eq (by omega)
  rw [coordinateText?, hfloat, Option.map_some, Number.significant_ofInt (by decide) h]

theorem coordinateText?_real (h : n.natAbs < 10 ^ 15) (hx : x == Float.ofInt n) :
    coordinateText? (.real x) = some (if x = -0 then "-0" else toString n) :=
  congrArg some (Number.significant_of_beq_ofInt (by decide) h hx)

theorem int?_toString_of_lt (h : n.natAbs < 10 ^ 15) : Number.int? (toString n) = some n := by
  refine Number.int?_toString (le_trans (b := 15) ?_ (by decide))
  exact (Number.Decimal.digitCount_le_iff (by decide)).2 h

/-- A whole number of at most fifteen digits. -/
def IsWhole (x : Float) : Prop :=
  ∃ n : Int, n.natAbs < 10 ^ 15 ∧ x == Float.ofInt n

/-- The text of a whole coordinate is a word, which is read as that coordinate. -/
theorem IsWhole.exists_text (h : IsWhole x) :
    ∃ text, coordinateText? (.real x) = some text ∧ Text.IsWord text ∧
      Number.float? text = some x := by
  obtain ⟨n, hn, hx⟩ := h
  refine ⟨_, coordinateText?_real hn hx, ?_⟩
  split
  · next hzero =>
    rw [hzero]
    exact ⟨Number.isWord_of_toList Number.toList_neg_zero,
      Number.float?_of_toList Number.toList_neg_zero⟩
  · next hzero =>
    obtain rfl | ⟨-, hneg⟩ := Number.eq_of_beq_ofInt (by omega) hx
    · exact ⟨Number.isWord_toString n, Number.float?_toString n⟩
    · exact absurd hneg hzero

end Coordinates

/-! ## Extents -/

namespace Extent

/-- The coordinates of an extent, in the order in which they are written. -/
def coordinates (extent : Extent) : List Float :=
  [extent.minX, extent.minY, extent.maxX, extent.maxY]

/-- A whole extent is read again as it was. -/
theorem exists_text_of_isWhole {extent : Extent} (h : ∀ x ∈ extent.coordinates, IsWhole x) :
    ∃ text, coordinatesText? (extent.coordinates.map .real) = some text ∧
      ofText text = .ok extent := by
  simp only [coordinates, List.forall_mem_cons] at h
  obtain ⟨hminX, hminY, hmaxX, hmaxY, -⟩ := h
  obtain ⟨minX, hminX, hword₁, hread₁⟩ := hminX.exists_text
  obtain ⟨minY, hminY, hword₂, hread₂⟩ := hminY.exists_text
  obtain ⟨maxX, hmaxX, hword₃, hread₃⟩ := hmaxX.exists_text
  obtain ⟨maxY, hmaxY, hword₄, hread₄⟩ := hmaxY.exists_text
  have hwords :
      Text.wordList (" ".intercalate [minX, minY, maxX, maxY]) = [minX, minY, maxX, maxY] :=
    Text.wordList_intercalate_of_isWord (by simp [hword₁, hword₂, hword₃, hword₄])
  refine ⟨" ".intercalate [minX, minY, maxX, maxY], ?_, ?_⟩
  · simp [coordinates, coordinatesText?, hminX, hminY, hmaxX, hmaxY]
  · rw [ofText, hwords]
    dsimp only
    rw [hread₁, hread₂, hread₃, hread₄]
    dsimp only
    rw [ofBounds, dif_neg extent.x_le, dif_neg extent.y_le]
    rfl

end Extent

/-! ## Images -/

namespace WrittenBox

/-- The corners of a box as they are read. -/
def corners (box : WrittenBox) : List (List (Option Int)) :=
  (box.lower ++ box.upper).map fun text => (Text.wordList text).map Number.int?

theorem exists_corner {x y : Int} (hx : x.natAbs < 10 ^ 15) (hy : y.natAbs < 10 ^ 15) :
    ∃ text, coordinatesText? [.whole x, .whole y] = some text ∧
      (Text.wordList text).map Number.int? = [some x, some y] := by
  refine ⟨" ".intercalate [toString x, toString y], ?_, ?_⟩
  · simp [coordinatesText?, coordinateText?_whole hx, coordinateText?_whole hy]
  · rw [Text.wordList_intercalate_of_isWord]
    · rw [List.map_cons, List.map_singleton, int?_toString_of_lt hx, int?_toString_of_lt hy]
    · exact List.forall_mem_cons.2
        ⟨Number.isWord_toString x, List.forall_mem_singleton.2 (Number.isWord_toString y)⟩

theorem corners_around {element : String} {crs : Option String} {minX minY maxX maxY : Int}
    (hminX : minX.natAbs < 10 ^ 15) (hminY : minY.natAbs < 10 ^ 15) (hmaxX : maxX.natAbs < 10 ^ 15)
    (hmaxY : maxY.natAbs < 10 ^ 15) :
    (around element crs (.whole minX) (.whole minY) (.whole maxX) (.whole maxY)).corners =
      [[some minX, some minY], [some maxX, some maxY]] := by
  obtain ⟨lower, hlower, hreadLower⟩ := exists_corner hminX hminY
  obtain ⟨upper, hupper, hreadUpper⟩ := exists_corner hmaxX hmaxY
  simp [corners, around, hlower, hupper, hreadLower, hreadUpper]

end WrittenBox

/-- The first box is that of the image, and its corners are the first pixel and the last. -/
def Profile.TellsSize (profile : Profile) (grid : Grid) : Prop :=
  ∃ box, profile.boxes.head? = some box ∧ box.crs = some Crs.imageUrn ∧
    box.corners =
      [[some 0, some 0], [some ((grid.width : Int) - 1), some ((grid.height : Int) - 1)]]

variable {library : ProjectionLibrary} {map : MapDefinition} {layer : Layer} {element : Element}

theorem Profile.tellsSize_ofLayer {grid : Grid} {crs : List String} (hwidth : grid.width < 10 ^ 15)
    (hheight : grid.height < 10 ^ 15) : (ofLayer map layer grid crs).TellsSize grid := by
  have hcolumns := grid.width_pos
  have hlines := grid.height_pos
  refine ⟨_, rfl, rfl, WrittenBox.corners_around (by decide) (by decide) ?_ ?_⟩ <;> omega

/-- The profile tells the size of the grid of the layer, if there are not too many pixels. -/
def HasSizeOf (library : ProjectionLibrary) (map : MapDefinition) (layer : Layer)
    (profile : Profile) : Prop :=
  ∃ grid, Grid.ofLayer library (map.owner? layer) layer = .ok grid ∧
    (grid.width < 10 ^ 15 → grid.height < 10 ^ 15 → profile.TellsSize grid)

theorem Summarizes.hasSizeOf (h : Summarizes library map layer element) :
    HasSizeOf library map layer (Profile.ofSummary element) := by
  obtain ⟨grid, crs, hresolved, rfl⟩ := h
  refine ⟨grid, hresolved.ofLayer_eq, fun hwidth hheight => ?_⟩
  rw [Profile.ofSummary_summaryElement]
  exact Profile.tellsSize_ofLayer hwidth hheight

theorem Describes.hasSizeOf (h : Describes library map layer element) :
    HasSizeOf library map layer (Profile.ofDescription element) := by
  obtain ⟨-, -, grid, crs, range, hresolved, rfl⟩ := h
  refine ⟨grid, hresolved.ofLayer_eq, fun hwidth hheight => ?_⟩
  rw [Profile.ofDescription_coverageElement]
  exact Profile.tellsSize_ofLayer hwidth hheight

/-! ## Reading again -/

/-- Integers of at most fifteen digits are written as they are, and floating-point numbers that are
equal to one likewise, but for the sign of a negative zero. So capabilities and descriptions tell
the size of every image whose sides are no longer, and whole extents are read again as they were. -/
theorem whole_coordinates_read (library : ProjectionLibrary) (map : MapDefinition) :
    (∀ n : Int, n.natAbs < 10 ^ 15 →
      coordinateText? (.whole n) = some (toString n) ∧
        ∀ x : Float, x == Float.ofInt n →
          coordinateText? (.real x) = some (if x = -0 then "-0" else toString n)) ∧
    (∀ origin version capabilities,
      Capabilities.document library map origin version = .ok capabilities →
        List.Forall₂ (HasSizeOf library map) map.coverages
          (capabilities.summaries.map Profile.ofSummary)) ∧
    (∀ coverages version description,
      Description.document library map coverages version = .ok description →
        ∃ layers, Description.targets map coverages = .ok layers ∧
          List.Forall₂ (HasSizeOf library map) (layers.filter (Description.isDescribed library map))
            (description.descriptions.map Profile.ofDescription)) ∧
    ∀ extent : Extent, (∀ x ∈ extent.coordinates, IsWhole x) →
      ∃ text, coordinatesText? (extent.coordinates.map .real) = some text ∧
        Extent.ofText text = .ok extent := by
  refine ⟨fun n hn => ⟨coordinateText?_whole hn, fun x => coordinateText?_real hn⟩, ?_, ?_,
    fun extent => Extent.exists_text_of_isWhole⟩
  · intro origin version capabilities h
    rw [List.forall₂_map_right_iff]
    exact (Capabilities.forall₂_summaries h).imp fun _ _ h => h.hasSizeOf
  · intro coverages version description h
    obtain ⟨layers, htargets, hrow⟩ := Description.forall₂_descriptions h
    refine ⟨layers, htargets, ?_⟩
    rw [List.forall₂_map_right_iff]
    exact hrow.imp fun _ _ h => h.hasSizeOf

/-- An extent of whole coordinates, one of them a negative zero. -/
def wideExtent : Extent where
  minX := Float.ofInt (-999999999999999)
  minY := -0
  maxX := 0
  maxY := Float.ofInt 100000000000000
  x_le := by decide +kernel
  y_le := by decide +kernel

theorem whole_coordinates_read_terrainMap :
    coordinateText? (.real (Float.ofInt 100000000000000)) = some "100000000000000" ∧
      (∃ capabilities profile rest,
        Capabilities.document Grid.plainLibrary terrainMap (some localOrigin) "1.1.0" =
            .ok capabilities ∧
          capabilities.summaries.map Profile.ofSummary = profile :: rest ∧
          ∃ grid, grid.width = 10 ∧ grid.height = 10 ∧ profile.TellsSize grid) ∧
      ∃ text, coordinatesText? (wideExtent.coordinates.map .real) = some text ∧
        Extent.ofText text = .ok wideExtent := by
  obtain ⟨hnumber, hsummaries, -, hextent⟩ := whole_coordinates_read Grid.plainLibrary terrainMap
  refine ⟨?_, ?_, ?_⟩
  · have htext := (hnumber 100000000000000 (by decide)).2 (Float.ofInt 100000000000000)
      (by decide +kernel)
    rwa [if_neg (by decide +kernel)] at htext
  · obtain ⟨capabilities, hcapabilities⟩ := Fragment.exists_of_isOk isOk_capabilities_terrainMap
    obtain ⟨dem, others, hcoverages, hsize⟩ : ∃ dem others,
        terrainMap.coverages = dem :: others ∧
          (Grid.ofLayer Grid.plainLibrary (terrainMap.owner? dem) dem).toOption.map
            (fun grid => (grid.width, grid.height)) = some (10, 10) :=
      ⟨_, _, rfl, by decide +kernel⟩
    have hrow := hsummaries _ _ _ hcapabilities
    rw [hcoverages] at hrow
    obtain ⟨profile, rest, ⟨grid, hgrid, htells⟩, -, hprofiles⟩ := List.forall₂_cons_left_iff.1 hrow
    rw [hgrid] at hsize
    obtain ⟨hwidth, hheight⟩ := Prod.mk.inj (Option.some.inj hsize)
    refine ⟨capabilities, profile, rest, hcapabilities, hprofiles, grid, hwidth, hheight, ?_⟩
    exact htells (by omega) (by omega)
  · refine hextent wideExtent ?_
    simp only [Extent.coordinates, List.forall_mem_cons]
    exact ⟨⟨-999999999999999, by decide, by decide +kernel⟩, ⟨0, by decide, by decide +kernel⟩,
      ⟨0, by decide, by decide +kernel⟩, ⟨100000000000000, by decide, by decide +kernel⟩, nofun⟩

/-- The negative zero is equal to zero and is not written like it. -/
theorem not_whole_neg_zero :
    ¬∀ n : Int, n.natAbs < 10 ^ 15 → ∀ x : Float, x == Float.ofInt n →
      coordinateText? (.real x) = some (toString n) := by
  intro h
  have hzero := h 0 (by decide) (-0) (by decide +kernel)
  have hwritten : coordinateText? (.real (-0)) = some "-0" := rfl
  rw [hwritten] at hzero
  exact absurd (Option.some.inj hzero) (by decide)

end WebCoverage
