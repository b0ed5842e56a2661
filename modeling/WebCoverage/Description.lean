import WebCoverage.FormatCatalog
import WebCoverage.Ows
import WebCoverage.RangeSet

/-! The document that describes coverages: their domain, their range, and the reference systems and
formats in which they are delivered. -/

namespace WebCoverage.Description

open Xml

/-- The identifiers of a request. A single value may hold several with commas; they are not
trimmed. -/
def identifiers (coverages : List String) : List String :=
  match coverages with
  | [one] => ((one.toList.splitOnP (· = ',')).filter (!·.isEmpty)).map String.ofList
  | several => several

/-- The layers that identifiers name, up to the first that names none. -/
def namedLayers (map : MapDefinition) : List String → Except Failure (List Layer)
  | [] => .ok []
  | identifier :: rest =>
    match map.layer? identifier with
    | some layer => (namedLayers map rest).map (layer :: ·)
    | none => .error (.coverageNotDefined identifier)

/-- The requested layers; all of them if a request names none. -/
def targets (map : MapDefinition) (coverages : List String) : Except Failure (List Layer) :=
  match identifiers coverages with
  | [] => .ok map.layers
  | requested => namedLayers map requested

/-- The grid of a layer that is described: its map owns it, it is a coverage, and its grid is known.
A failure of any other kind is not passed over. -/
def grid? (library : ProjectionLibrary) (map : MapDefinition) (layer : Layer) :
    Except Failure (Option Grid) :=
  match map.owner? layer with
  | none => .ok none
  | some owner =>
    if !layer.isCoverage then .ok none
    else
      match Grid.ofLayer library (some owner) layer with
      | .ok grid => .ok (some grid)
      | .error failure =>
        if failure.kind = .report .metadataResolution then .ok none else .error failure

/-- The grid and its reference system. -/
def gridCrs (scope : Scope) (grid : Grid) : Fragment :=
  scope.node "GridCRS" [] (.concat [
    scope.leaf "GridBaseCRS" grid.crs [],
    scope.leaf "GridType" "urn:ogc:def:method:WCS:1.1:2dSimpleGrid" [],
    scope.leaf "GridOrigin" (pointText grid.origin.1 grid.origin.2) [],
    scope.leaf "GridOffsets" (pointText grid.offsets.1 grid.offsets.2) [],
    scope.leaf "GridCS" "urn:ogc:def:cs:OGC:0.0:Grid2dSquareCS" []])

/-- The one field of the range. Of the keys of its axis the first band alone is listed. -/
def field (scope : Scope) (metadata : Metadata) : Fragment :=
  scope.node "Field" [] (.concat [
    Ows.filledLeaf scope "ows:Title" metadata "rangeset_label",
    Ows.leafOr scope "Identifier" metadata "rangeset_name" "bands",
    scope.node "InterpolationMethods" [] (.concat [
      scope.leaf "DefaultMethod" "nearest neighbour" [],
      scope.leaf "OtherMethod" "bilinear" []]),
    scope.node "Axis" [("identifier", "Band")]
      (scope.node "AvailableKeys" [] (scope.leaf "Key" "1" []))])

/-- The description of one coverage. -/
def coverage (scope : Scope) (library : ProjectionLibrary) (map : MapDefinition) (layer : Layer)
    (grid : Grid) : Fragment :=
  scope.node "CoverageDescription" [] (.concat [
    Ows.coverageIdentity scope layer,
    scope.node "Domain" [] (scope.node "SpatialDomain" [] (.concat [
      Ows.coverageBoxes scope grid,
      gridCrs scope grid])),
    scope.node "Range" [] (field scope (layer.metadata.withBands grid.bands)),
    .ofResult (Crs.supported library (map.owner? layer) layer) (scope.leaves "SupportedCRS"),
    scope.leaves "SupportedFormat" (map.mimeTypes (some layer))])

/-- The description of a layer, or nothing for a layer that is passed over. -/
def layerFragment (scope : Scope) (library : ProjectionLibrary) (map : MapDefinition)
    (layer : Layer) : Fragment :=
  .ofResult (grid? library map layer) fun grid =>
    .ofOption grid (coverage scope library map layer)

/-- The document, if all of it can be built. -/
def document (library : ProjectionLibrary) (map : MapDefinition) (coverages : List String)
    (version : String) : Except Failure Document := do
  let layers ← targets map coverages
  let empty ← Document.create "CoverageDescriptions" .service (some version)
  empty.withBody (.concat (layers.map (layerFragment .service library map)))

end WebCoverage.Description
