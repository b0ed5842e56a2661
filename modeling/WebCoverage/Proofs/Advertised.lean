import WebCoverage.Proofs.Correspondence
import WebCoverage.Proofs.Text.CommaList

/-! The identifiers that capabilities advertise with their operations, and the coverages that they
list. Identifiers go through a list of names, in which spellings of one name count once, and through
one text with commas. So both operations advertise the same, but the names of the coverages only if
all of them come through unchanged (`Capabilities.advertised_eq_offered_iff`). -/

namespace WebCoverage

open Xml

/-- Names come through a list of names and a text with commas as they are if each of them is an item
and no two are spellings of one name. -/
theorem NameList.commaList_join_eq_self_iff (names : List String) :
    Text.commaList ((ofList names).join ",") = names ↔
      (∀ name ∈ names, Text.IsItem name) ∧ (names.map Text.fold).Nodup := by
  have hjoin : Text.commaList ((ofList names).join ",") =
      (ofList names).items.flatMap Text.commaList := Text.commaList_intercalate _
  rw [hjoin]
  constructor
  · intro h
    -- What is read from a text with commas is an item, whatever was joined.
    have hall : ∀ name ∈ names, Text.IsItem name := by
      intro name hname
      rw [← h] at hname
      obtain ⟨_, -, hname⟩ := List.mem_flatMap.1 hname
      exact Text.isItem_of_mem_commaList hname
    have hitems : ∀ item ∈ (ofList names).items, Text.IsItem item := by
      intro item hitem
      obtain hnone | hitem := mem_of_mem_insertAll hitem
      · cases hnone
      · exact hall item hitem
    rw [Text.flatMap_commaList_of_isItem hitems] at h
    exact ⟨hall, items_ofList_eq_self_iff.1 h⟩
  · rintro ⟨hall, hdistinct⟩
    rw [items_ofList_eq_self_iff.2 hdistinct]
    exact Text.flatMap_commaList_of_isItem hall

/-! ## What is read -/

/-- The elements whose attribute `name` is the given one. -/
def Xml.Element.withName (name : String) (elements : List Element) : List Element :=
  elements.filter (·.attribute? "name" = some name)

namespace Xml.Document

/-- The values that a document lists for a parameter of an operation. -/
def parameterValues (document : Document) (operation parameter : String) : List String :=
  let sections := document.root.childrenNamed "ows:OperationsMetadata"
  let operations := Element.withName operation (sections.flatMap (·.childrenNamed "ows:Operation"))
  let parameters :=
    Element.withName parameter (operations.flatMap (·.childrenNamed "ows:Parameter"))
  parameters.flatMap (·.textsOf "ows:Value")

/-- The identifiers of the coverages that a document summarizes. -/
def summarized (document : Document) : List String :=
  document.summaries.flatMap (·.textsOf "Identifier")

end Xml.Document

/-! ## What is built -/

namespace Ows

variable {scope : Scope} {name url : String} {values : List String} {parameters : Fragment}
  {elements : List Element}

def parameterElement (name : String) (values : List String) : Element :=
  .ofChildren "ows:Parameter" [("name", name)] (values.map (.ofText "ows:Value"))

theorem builds_parameter :
    (domainType scope "Parameter" name values).Builds [parameterElement name values] :=
  Fragment.builds_node Fragment.builds_leaves

def operationElement (name url : String) (parameters : List Element) : Element :=
  .ofChildren "ows:Operation" [("name", name)]
    (.ofChildren "ows:DCP" [] [.ofChildren "ows:HTTP" []
      [.ofChildren "ows:Get" (Assoc.ofPairs (link url)) []]] :: parameters)

theorem builds_operation (h : parameters.Builds elements) :
    (operation scope name url parameters).Builds [operationElement name url elements] := by
  have hreached : (scope.node "ows:DCP" [] (scope.node "ows:HTTP" []
      (scope.node "ows:Get" (link url) .empty))).Builds [.ofChildren "ows:DCP" []
        [.ofChildren "ows:HTTP" [] [.ofChildren "ows:Get" (Assoc.ofPairs (link url)) []]]] :=
    Fragment.builds_node (Fragment.builds_node (Fragment.builds_node Fragment.builds_empty))
  have hbody := Fragment.builds_concat (.cons hreached (.cons h .nil))
  rw [List.flatten_cons, List.flatten_singleton] at hbody
  exact Fragment.builds_node hbody

end Ows

namespace Capabilities

variable {library : ProjectionLibrary} {map : MapDefinition} {origin : Option Origin}
  {version url : String} {capabilities : Document} {scope : Scope}

/-- The section of operations. -/
def operationsElement (map : MapDefinition) (version url : String) : Element :=
  let common := [Ows.parameterElement "service" (Text.commaList "WCS"),
    Ows.parameterElement "version" (Text.commaList version)]
  let offered := Text.commaList (identifiers map)
  .ofChildren "ows:OperationsMetadata" [] [
    Ows.operationElement "GetCapabilities" url common,
    Ows.operationElement "DescribeCoverage" url
      (common ++ [Ows.parameterElement "identifiers" offered]),
    Ows.operationElement "GetCoverage" url (common ++ [
      Ows.parameterElement "Identifier" offered,
      Ows.parameterElement "InterpolationType" ["NEAREST_NEIGHBOUR", "BILINEAR"],
      Ows.parameterElement "format" (map.mimeTypes none),
      Ows.parameterElement "store" (Text.commaList "false"),
      Ows.parameterElement "GridBaseCRS" (Text.commaList "urn:ogc:def:crs:epsg::4326")])]

theorem builds_operations :
    (operations scope map version url).Builds [operationsElement map version url] := by
  refine Fragment.builds_node (Fragment.builds_concat (.cons (Ows.builds_operation ?capabilities)
    (.cons (Ows.builds_operation ?description) (.cons (Ows.builds_operation ?coverage) .nil))))
  case capabilities =>
    exact Fragment.builds_concat (.cons Ows.builds_parameter (.cons Ows.builds_parameter .nil))
  case description =>
    exact Fragment.builds_concat (.cons Ows.builds_parameter (.cons Ows.builds_parameter
      (.cons Ows.builds_parameter .nil)))
  case coverage =>
    exact Fragment.builds_concat (.cons Ows.builds_parameter (.cons Ows.builds_parameter
      (.cons Ows.builds_parameter (.cons Ows.builds_parameter (.cons Ows.builds_parameter
        (.cons Ows.builds_parameter (.cons Ows.builds_parameter .nil)))))))

/-- Both operations advertise the items of the joined names. -/
theorem parameterValues_identifiers
    (h : document library map origin version = .ok capabilities) :
    capabilities.parameterValues "DescribeCoverage" "identifiers" =
        Text.commaList (identifiers map) ∧
      capabilities.parameterValues "GetCoverage" "Identifier" =
        Text.commaList (identifiers map) := by
  obtain ⟨_, _, url, hoperations, -, hchildren⟩ := children_of_document h
  rw [builds_operations hoperations] at hchildren
  have hsection : capabilities.root.childrenNamed "ows:OperationsMetadata" =
      [operationsElement map version url] := by
    rw [Element.childrenNamed, hchildren]
    rfl
  unfold Document.parameterValues
  rw [hsection]
  constructor <;>
    simp [operationsElement, Ows.operationElement, Ows.parameterElement, Element.withName,
      Element.childrenNamed, Element.attribute?, Element.textsOf, Element.ofChildren,
      List.filter_map, Function.comp_def]

theorem textsOf_identifier {layer : Layer} {element : Element}
    (h : Summarizes library map layer element) : element.textsOf "Identifier" = [layer.name] := by
  obtain ⟨grid, crs, -, rfl⟩ := h
  exact congrArg Profile.identifiers Profile.ofSummary_summaryElement

/-- The coverages are listed in the order of the map. -/
theorem summarized_eq (h : document library map origin version = .ok capabilities) :
    capabilities.summarized = map.coverages.map (·.name) := by
  have hrow := forall₂_summaries h
  unfold Document.summarized
  generalize capabilities.summaries = elements, map.coverages = layers at hrow ⊢
  induction hrow with
  | nil => rfl
  | cons hfirst _ ih => rw [List.flatMap_cons, textsOf_identifier hfirst, ih]; rfl

/-- What operations advertise is what is listed if each name of a coverage is an item and no two are
spellings of one name. What they advertise is the same for both in any case. -/
theorem advertised_eq_offered_iff
    (h : document library map origin version = .ok capabilities) :
    let described := capabilities.parameterValues "DescribeCoverage" "identifiers"
    let delivered := capabilities.parameterValues "GetCoverage" "Identifier"
    described = delivered ∧
      capabilities.summarized = map.coverages.map (·.name) ∧
      (described = capabilities.summarized ↔
        (∀ layer ∈ map.coverages, Text.IsItem layer.name) ∧
          (map.coverages.map fun layer => Text.fold layer.name).Nodup) := by
  obtain ⟨hdescribed, hdelivered⟩ := parameterValues_identifiers h
  have hlisted := NameList.commaList_join_eq_self_iff (map.coverages.map (·.name))
  rw [List.forall_mem_map, List.map_map] at hlisted
  rw [hdescribed, hdelivered, summarized_eq h]
  exact ⟨rfl, rfl, hlisted⟩

theorem advertised_eq_offered_terrainMap :
    ∃ capabilities,
      document Grid.plainLibrary terrainMap (some localOrigin) "1.1.0" = .ok capabilities ∧
      capabilities.parameterValues "DescribeCoverage" "identifiers" = capabilities.summarized := by
  obtain ⟨capabilities, hcapabilities⟩ := Fragment.exists_of_isOk isOk_capabilities_terrainMap
  have hnames : (∀ layer ∈ terrainMap.coverages, Text.IsItem layer.name) ∧
      (terrainMap.coverages.map fun layer => Text.fold layer.name).Nodup := by
    decide +kernel
  exact ⟨capabilities, hcapabilities, (advertised_eq_offered_iff hcapabilities).2.2.2 hnames⟩

/-- A map of two coverages whose names differ in case alone. -/
def spelledMap : MapDefinition :=
  { MapDefinition.empty with
    layers := [Grid.sizedLayer "dem" "10 10", Grid.sizedLayer "DEM" "10 10"] }

/-- The second of two spellings is listed, and no operation advertises it. -/
theorem not_advertised_spelledMap :
    ∃ capabilities,
      document Grid.plainLibrary spelledMap (some localOrigin) "1.1.0" = .ok capabilities ∧
      capabilities.parameterValues "DescribeCoverage" "identifiers" = ["dem"] ∧
      capabilities.parameterValues "GetCoverage" "Identifier" = ["dem"] ∧
      capabilities.summarized = ["dem", "DEM"] := by
  have hbuilt : (document Grid.plainLibrary spelledMap (some localOrigin) "1.1.0").isOk := by
    decide +kernel
  obtain ⟨capabilities, hcapabilities⟩ := Fragment.exists_of_isOk hbuilt
  obtain ⟨hdescribed, hdelivered⟩ := parameterValues_identifiers hcapabilities
  have hadvertised : Text.commaList (identifiers spelledMap) = ["dem"] := by decide +kernel
  have hsummarized : spelledMap.coverages.map (·.name) = ["dem", "DEM"] := by decide
  rw [hadvertised] at hdescribed hdelivered
  exact ⟨capabilities, hcapabilities, hdescribed, hdelivered,
    (summarized_eq hcapabilities).trans hsummarized⟩

end Capabilities

end WebCoverage
