import WebCoverage.Capabilities
import WebCoverage.Description
import WebCoverage.Proofs.Grid.Resolution
import WebCoverage.Proofs.Xml.Construction

/-! What documents say of a coverage. A profile is read from the elements of a finished document,
and `Profile.ofLayer` gives it from the layer. Summaries and descriptions order these elements
differently, but for one layer both have the same profile. -/

namespace WebCoverage

open Xml

/-- The texts of the children with the given name. -/
def Xml.Element.textsOf (element : Element) (name : String) : List String :=
  (element.childrenNamed name).map (·.text)

/-- A bounding box as it stands in a document. -/
structure WrittenBox where
  element : String
  crs : Option String
  dimensions : Option String
  lower : List String
  upper : List String
  deriving DecidableEq, Repr

namespace WrittenBox

def ofElement (box : Element) : WrittenBox :=
  ⟨box.name, box.attribute? "crs", box.attribute? "dimensions", box.textsOf "ows:LowerCorner",
    box.textsOf "ows:UpperCorner"⟩

/-- The boxes among the children of an element. -/
def among (element : Element) : List WrittenBox :=
  (element.children.filter fun child =>
    child.name = "ows:BoundingBox" ∨ child.name = "ows:WGS84BoundingBox").map ofElement

/-- A box of two dimensions between two corners. -/
def around (element : String) (crs : Option String) (minX minY maxX maxY : Quantity) : WrittenBox :=
  ⟨element, crs, some "2", (coordinatesText? [minX, minY]).toList,
    (coordinatesText? [maxX, maxY]).toList⟩

@[simp]
theorem element_around {element : String} {crs : Option String} {minX minY maxX maxY : Quantity} :
    (around element crs minX minY maxX maxY).element = element := rfl

/-- The boxes of a coverage: that of the image, the native one and the geographic one. -/
def ofGrid (grid : Grid) : List WrittenBox :=
  [around "ows:BoundingBox" (some Crs.imageUrn) (.whole 0) (.whole 0) (.whole (grid.width - 1))
      (.whole (grid.height - 1)),
    around "ows:BoundingBox" (some grid.crs) (.real grid.extent.minX) (.real grid.extent.minY)
      (.real grid.extent.maxX) (.real grid.extent.maxY),
    around "ows:WGS84BoundingBox" none (.real grid.geographic.minX) (.real grid.geographic.minY)
      (.real grid.geographic.maxX) (.real grid.geographic.maxY)]

end WrittenBox

/-- What a document says of one coverage. -/
structure Profile where
  titles : List String
  identifiers : List String
  /-- The keywords of each section of keywords. -/
  keywords : List (List String)
  boxes : List WrittenBox
  crs : List String
  formats : List String
  deriving DecidableEq, Repr

namespace Profile

/-- Reads an element whose boxes stand among the children of other elements. -/
def read (element : Element) (spatial : List Element) : Profile where
  titles := element.textsOf "ows:Title"
  identifiers := element.textsOf "Identifier"
  keywords := (element.childrenNamed "ows:Keywords").map (·.textsOf "ows:Keyword")
  boxes := spatial.flatMap WrittenBox.among
  crs := element.textsOf "SupportedCRS"
  formats := element.textsOf "SupportedFormat"

def ofSummary (element : Element) : Profile :=
  read element [element]

def ofDescription (element : Element) : Profile :=
  read element ((element.childrenNamed "Domain").flatMap (·.childrenNamed "SpatialDomain"))

/-- What there is to say of a layer whose grid and reference systems are known. -/
def ofLayer (map : MapDefinition) (layer : Layer) (grid : Grid) (crs : List String) : Profile where
  titles := [(layer.metadata.find? "description").getD layer.name]
  identifiers := [layer.name]
  keywords := (layer.metadata.find? "keywordlist").toList.map Text.commaList
  boxes := WrittenBox.ofGrid grid
  crs := crs
  formats := map.mimeTypes (some layer)

/-- The texts of the base reference systems of the grids in a description. -/
def gridBases (element : Element) : List String :=
  (((element.childrenNamed "Domain").flatMap (·.childrenNamed "SpatialDomain")).flatMap
    (·.childrenNamed "GridCRS")).flatMap (·.textsOf "GridBaseCRS")

end Profile

/-! ## The elements that are built -/

namespace Ows

variable {scope : Scope} {layer : Layer} {grid : Grid}

/-- Title, identifier and keywords. -/
def identityElements (layer : Layer) : List Element :=
  [[.ofText "ows:Title" ((layer.metadata.find? "description").getD layer.name)],
    [.ofText "Identifier" layer.name],
    (layer.metadata.find? "keywordlist").elim [] fun keywords =>
      [.ofChildren "ows:Keywords" []
        ((Text.commaList keywords).map (.ofText "ows:Keyword"))]].flatten

theorem builds_coverageIdentity :
    (coverageIdentity scope layer).Builds (identityElements layer) := by
  refine Fragment.builds_concat (.cons Fragment.builds_leaf (.cons Fragment.builds_leaf
    (.cons (Fragment.builds_ofOption fun keywords _ => ?_) .nil)))
  exact Fragment.builds_node Fragment.builds_leaves

/-- The element of a box. -/
def boxElement (box : WrittenBox) : Element :=
  .ofChildren box.element
    ((box.crs.toList.map fun crs => ("crs", crs)) ++
      box.dimensions.toList.map fun dimensions => ("dimensions", dimensions))
    (box.lower.map (.ofText "ows:LowerCorner") ++ box.upper.map (.ofText "ows:UpperCorner"))

@[simp]
theorem name_boxElement (box : WrittenBox) : (boxElement box).name = box.element := rfl

@[simp]
theorem ofElement_boxElement (box : WrittenBox) : WrittenBox.ofElement (boxElement box) = box := by
  obtain ⟨name, crs, dimensions, lower, upper⟩ := box
  cases crs <;> cases dimensions <;>
    simp [WrittenBox.ofElement, boxElement, Element.textsOf, Element.childrenNamed,
      Element.attribute?, Element.ofChildren, Element.ofText, List.lookup_cons, List.filter_map,
      Function.comp_def]

theorem builds_corner {name : String} {x y : Quantity} :
    (corner scope name x y).Builds ((coordinatesText? [x, y]).toList.map (.ofText name)) := by
  unfold corner
  cases coordinatesText? [x, y] with
  | none => exact fun h => nomatch h
  | some text => exact Fragment.builds_leaf

theorem builds_boundingBox {crs : String} {minX minY maxX maxY : Quantity} :
    (boundingBox scope crs minX minY maxX maxY).Builds
      [boxElement (.around "ows:BoundingBox" (some crs) minX minY maxX maxY)] :=
  Fragment.builds_node (Fragment.builds_append builds_corner builds_corner)

theorem builds_geographicBoundingBox {extent : Extent} :
    (geographicBoundingBox scope extent).Builds
      [boxElement (.around "ows:WGS84BoundingBox" none (.real extent.minX) (.real extent.minY)
        (.real extent.maxX) (.real extent.maxY))] :=
  Fragment.builds_node (Fragment.builds_append builds_corner builds_corner)

theorem builds_coverageBoxes :
    (coverageBoxes scope grid).Builds ((WrittenBox.ofGrid grid).map boxElement) :=
  Fragment.builds_concat
    (.cons builds_boundingBox (.cons builds_boundingBox (.cons builds_geographicBoundingBox .nil)))

end Ows

variable {scope : Scope} {library : ProjectionLibrary} {map : MapDefinition} {layer : Layer}
  {grid : Grid} {crs : List String}

/-- The grid and the reference systems of a layer were found. -/
structure Resolved (library : ProjectionLibrary) (map : MapDefinition) (layer : Layer) (grid : Grid)
    (crs : List String) : Prop where
  ofLayer_eq : Grid.ofLayer library (map.owner? layer) layer = .ok grid
  supported_eq : Crs.supported library (map.owner? layer) layer = .ok crs

/-- The summary of a layer whose grid and reference systems are known. -/
def Capabilities.summaryElement (map : MapDefinition) (layer : Layer) (grid : Grid)
    (crs : List String) : Element :=
  .ofChildren "CoverageSummary" []
    [Ows.identityElements layer, (WrittenBox.ofGrid grid).map Ows.boxElement,
      (map.mimeTypes (some layer)).map (.ofText "SupportedFormat"),
      crs.map (.ofText "SupportedCRS")].flatten

theorem Capabilities.builds_summary (h : Resolved library map layer grid crs) :
    (summary scope library map layer).Builds [summaryElement map layer grid crs] := by
  simp only [summary, h.ofLayer_eq, h.supported_eq, Fragment.ofResult]
  exact Fragment.builds_node (Fragment.builds_concat (.cons Ows.builds_coverageIdentity
    (.cons Ows.builds_coverageBoxes (.cons Fragment.builds_leaves
      (.cons Fragment.builds_leaves .nil)))))

/-- A summary without a failure is that of a layer whose grid and reference systems are known. -/
theorem Capabilities.elements_summary (h : (summary scope library map layer).failure = none) :
    ∃ grid crs, Resolved library map layer grid crs ∧
      (summary scope library map layer).elements = [summaryElement map layer grid crs] := by
  obtain ⟨grid, hgrid, hnode⟩ := Fragment.failure_ofResult_eq_none.1 h
  have hparts := Fragment.failure_concat_eq_none.1 (Scope.failure_node_eq_none.1 hnode).2.2
  simp only [List.forall_mem_cons] at hparts
  obtain ⟨-, -, -, hcrs, -⟩ := hparts
  obtain ⟨crs, hcrs, -⟩ := Fragment.failure_ofResult_eq_none.1 hcrs
  exact ⟨grid, crs, ⟨hgrid, hcrs⟩, builds_summary ⟨hgrid, hcrs⟩ h⟩

/-- The element of a grid with its base reference system. -/
def Description.gridElement (grid : Grid) : Element :=
  .ofChildren "GridCRS" [] [
    .ofText "GridBaseCRS" grid.crs,
    .ofText "GridType" "urn:ogc:def:method:WCS:1.1:2dSimpleGrid",
    .ofText "GridOrigin" (pointText grid.origin.1 grid.origin.2),
    .ofText "GridOffsets" (pointText grid.offsets.1 grid.offsets.2),
    .ofText "GridCS" "urn:ogc:def:cs:OGC:0.0:Grid2dSquareCS"]

theorem Description.builds_gridCrs : (gridCrs scope grid).Builds [gridElement grid] :=
  Fragment.builds_node (Fragment.builds_concat (.cons Fragment.builds_leaf
    (.cons Fragment.builds_leaf (.cons Fragment.builds_leaf (.cons Fragment.builds_leaf
      (.cons Fragment.builds_leaf .nil))))))

/-- The description of a layer whose grid and reference systems are known, around what stands in its
range. -/
def Description.coverageElement (map : MapDefinition) (layer : Layer) (grid : Grid)
    (crs : List String) (range : List Element) : Element :=
  .ofChildren "CoverageDescription" []
    [Ows.identityElements layer,
      [.ofChildren "Domain" [] [.ofChildren "SpatialDomain" []
        [(WrittenBox.ofGrid grid).map Ows.boxElement, [gridElement grid]].flatten]],
      [.ofChildren "Range" [] range],
      crs.map (.ofText "SupportedCRS"),
      (map.mimeTypes (some layer)).map (.ofText "SupportedFormat")].flatten

theorem Description.builds_coverage
    (hcrs : Crs.supported library (map.owner? layer) layer = .ok crs) :
    (coverage scope library map layer grid).Builds [coverageElement map layer grid crs
      (field scope (layer.metadata.withBands grid.bands)).elements] := by
  unfold coverage
  rw [hcrs]
  refine Fragment.builds_node (Fragment.builds_concat (.cons Ows.builds_coverageIdentity
    (.cons ?domain (.cons ?range (.cons Fragment.builds_leaves
      (.cons Fragment.builds_leaves .nil))))))
  case domain =>
    exact Fragment.builds_node (Fragment.builds_node (Fragment.builds_concat
      (.cons Ows.builds_coverageBoxes (.cons builds_gridCrs .nil))))
  case range => exact Fragment.builds_node (Fragment.builds_self _)

theorem Description.elements_coverage
    (h : (coverage scope library map layer grid).failure = none) :
    ∃ crs range, Crs.supported library (map.owner? layer) layer = .ok crs ∧
      (coverage scope library map layer grid).elements =
        [coverageElement map layer grid crs range] := by
  have hparts := Fragment.failure_concat_eq_none.1 (Scope.failure_node_eq_none.1 h).2.2
  simp only [List.forall_mem_cons] at hparts
  obtain ⟨-, -, -, hcrs, -⟩ := hparts
  obtain ⟨crs, hcrs, -⟩ := Fragment.failure_ofResult_eq_none.1 hcrs
  exact ⟨crs, _, hcrs, builds_coverage hcrs h⟩

/-! ## What is read from them -/

theorem Profile.ofSummary_summaryElement :
    ofSummary (Capabilities.summaryElement map layer grid crs) = ofLayer map layer grid crs := by
  cases hkeywords : layer.metadata.find? "keywordlist" <;>
    simp [ofSummary, read, ofLayer, Capabilities.summaryElement, Ows.identityElements, hkeywords,
      Element.textsOf, Element.childrenNamed, WrittenBox.among, WrittenBox.ofGrid, List.filter_map,
      Function.comp_def]

theorem Profile.ofDescription_coverageElement {range : List Element} :
    ofDescription (Description.coverageElement map layer grid crs range) =
      ofLayer map layer grid crs := by
  cases hkeywords : layer.metadata.find? "keywordlist" <;>
    simp [ofDescription, read, ofLayer, Description.coverageElement, Description.gridElement,
      Ows.identityElements, hkeywords, Element.textsOf, Element.childrenNamed, WrittenBox.among,
      WrittenBox.ofGrid, List.filter_map, Function.comp_def]

theorem Profile.gridBases_coverageElement {range : List Element} :
    gridBases (Description.coverageElement map layer grid crs range) = [grid.crs] := by
  cases hkeywords : layer.metadata.find? "keywordlist" <;>
    simp [gridBases, Description.coverageElement, Description.gridElement, Ows.identityElements,
      hkeywords, Element.textsOf, Element.childrenNamed, WrittenBox.ofGrid, List.filter_map,
      Function.comp_def]

end WebCoverage
