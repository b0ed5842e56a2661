import WebCoverage.Grid
import WebCoverage.Text.Separated
import WebCoverage.Xml.Document

/-! The sections that OGC service documents have in common. -/

namespace WebCoverage.Ows

open Xml

/-- An element for the value of a name in metadata, if it is not empty. -/
def filledLeaf (scope : Scope) (element : String) (metadata : Metadata) (name : String) :
    Fragment :=
  .ofOption (metadata.filled? name) fun value => scope.leaf element value []

/-- An element for the value of a name in metadata, or for a value in its place. -/
def leafOr (scope : Scope) (element : String) (metadata : Metadata) (name default : String) :
    Fragment :=
  scope.leaf element ((metadata.find? name).getD default) []

def serviceIdentification (scope : Scope) (map : MapDefinition) (serviceType version : String) :
    Fragment :=
  let metadata := map.metadata
  let keywords := Text.commaList ((metadata.find? "keywordlist").getD "")
  scope.node "ows:ServiceIdentification" [] (.concat [
    leafOr scope "ows:Title" metadata "title" map.name,
    filledLeaf scope "ows:Abstract" metadata "abstract",
    if keywords.isEmpty then .empty
      else scope.node "ows:Keywords" [] (scope.leaves "ows:Keyword" keywords),
    scope.leaf "ows:ServiceType" serviceType [("codeSpace", "OGC")],
    scope.leaf "ows:ServiceTypeVersion" version [],
    leafOr scope "ows:Fees" metadata "fees" "NONE",
    leafOr scope "ows:AccessConstraints" metadata "accessconstraints" "NONE"])

/-- An attribute pair that makes an element a link. -/
def link (url : String) : List (String × String) :=
  [("xlink:type", "simple"), ("xlink:href", url)]

def serviceProvider (scope : Scope) (metadata : Metadata) : Fragment :=
  scope.node "ows:ServiceProvider" [] (.concat [
    leafOr scope "ows:ProviderName" metadata "contactorganization" "",
    .ofOption (metadata.filled? "service_onlineresource") fun site =>
      scope.node "ows:ProviderSite" (link site) .empty,
    scope.node "ows:ServiceContact" [] (.concat [
      filledLeaf scope "ows:IndividualName" metadata "contactperson",
      filledLeaf scope "ows:PositionName" metadata "contactposition",
      scope.node "ows:ContactInfo" [] (.concat [
        scope.node "ows:Phone" [] (.concat [
          filledLeaf scope "ows:Voice" metadata "contactvoicetelephone",
          filledLeaf scope "ows:Facsimile" metadata "contactfacsimiletelephone"]),
        scope.node "ows:Address" [] (.concat [
          filledLeaf scope "ows:DeliveryPoint" metadata "address",
          filledLeaf scope "ows:City" metadata "city",
          filledLeaf scope "ows:AdministrativeArea" metadata "stateorprovince",
          filledLeaf scope "ows:PostalCode" metadata "postcode",
          filledLeaf scope "ows:Country" metadata "country",
          filledLeaf scope "ows:ElectronicMailAddress" metadata
            "contactelectronicmailaddress"])])])])

def operationsMetadata (scope : Scope) (operations : Fragment) : Fragment :=
  scope.node "ows:OperationsMetadata" [] operations

/-- An operation that is reached with GET at a URL, and its parameters. -/
def operation (scope : Scope) (name url : String) (parameters : Fragment) : Fragment :=
  scope.node "ows:Operation" [("name", name)] (.concat [
    scope.node "ows:DCP" [] (scope.node "ows:HTTP" [] (scope.node "ows:Get" (link url) .empty)),
    parameters])

/-- A named domain with its values. -/
def domainType (scope : Scope) (element name : String) (values : List String) : Fragment :=
  scope.node ("ows:" ++ element) [("name", name)] (scope.leaves "ows:Value" values)

/-- One corner of a box. An integer beyond all floating-point numbers has no text. -/
def corner (scope : Scope) (name : String) (x y : Quantity) : Fragment :=
  match coordinatesText? [x, y] with
  | some text => scope.leaf name text []
  | none => .failed (.plain .overflow)

def corners (scope : Scope) (minX minY maxX maxY : Quantity) : Fragment :=
  corner scope "ows:LowerCorner" minX minY ++ corner scope "ows:UpperCorner" maxX maxY

def boundingBox (scope : Scope) (crs : String) (minX minY maxX maxY : Quantity) : Fragment :=
  scope.node "ows:BoundingBox" [("crs", crs), ("dimensions", "2")]
    (corners scope minX minY maxX maxY)

def extentCorners (scope : Scope) (extent : Extent) : Fragment :=
  corners scope (.real extent.minX) (.real extent.minY) (.real extent.maxX) (.real extent.maxY)

def geographicBoundingBox (scope : Scope) (extent : Extent) : Fragment :=
  scope.node "ows:WGS84BoundingBox" [("dimensions", "2")] (extentCorners scope extent)

/-! ## What capabilities and descriptions say of a coverage -/

/-- Title, identifier and keywords. -/
def coverageIdentity (scope : Scope) (layer : Layer) : Fragment :=
  .concat [
    leafOr scope "ows:Title" layer.metadata "description" layer.name,
    scope.leaf "Identifier" layer.name [],
    .ofOption (layer.metadata.find? "keywordlist") fun keywords =>
      scope.node "ows:Keywords" [] (scope.leaves "ows:Keyword" (Text.commaList keywords))]

/-- The box of the image, the native one and the geographic one. -/
def coverageBoxes (scope : Scope) (grid : Grid) : Fragment :=
  let extent := grid.extent
  .concat [
    boundingBox scope Crs.imageUrn (.whole 0) (.whole 0) (.whole (grid.width - 1))
      (.whole (grid.height - 1)),
    boundingBox scope grid.crs (.real extent.minX) (.real extent.minY) (.real extent.maxX)
      (.real extent.maxY),
    geographicBoundingBox scope grid.geographic]

end WebCoverage.Ows
