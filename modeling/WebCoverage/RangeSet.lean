import WebCoverage.Metadata

/-! The description of the bands of a coverage, for layers that configure none. -/

namespace WebCoverage.Metadata

/-- The numbers from one to `bands`, with commas. -/
def bandNumbers (bands : Nat) : String :=
  ",".intercalate ((List.range bands).map fun band => toString (band + 1))

/-- The keys of one axis that holds all bands. -/
def bandDefaults (bands : Nat) : List (String × String) :=
  [("wcs_rangeset_axes", "bands"), ("wcs_bands_name", "bands"), ("wcs_bands_label", "Bands"),
   ("wcs_bands_rangeitem", "_bands"), ("wcs_bands_values", bandNumbers bands)]

/-- Metadata that names axes of its own. -/
def namesAxes (metadata : Metadata) : Bool :=
  (metadata.find? "rangeset_axes").isSome

/-- Metadata with the axis of bands, unless it names axes of its own. -/
def withBands (metadata : Metadata) (bands : Nat) : Metadata :=
  if metadata.namesAxes then metadata else metadata.withDefaults (bandDefaults bands)

end WebCoverage.Metadata
