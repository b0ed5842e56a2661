import WebCoverage.FormatCatalog
import WebCoverage.Ows
import WebCoverage.ServiceUrl

/-! The capabilities document: who runs the service, its operations, and a summary of every
coverage. -/

namespace WebCoverage.Capabilities

open Xml

/-- The names of the coverages with commas. -/
def identifiers (map : MapDefinition) : String :=
  (NameList.ofList (map.coverages.map (·.name))).join ","

/-- A parameter whose values are given with commas. -/
def parameter (scope : Scope) (name values : String) : Fragment :=
  Ows.domainType scope "Parameter" name (Text.commaList values)

def operations (scope : Scope) (map : MapDefinition) (version url : String) : Fragment :=
  let common := [parameter scope "service" "WCS", parameter scope "version" version]
  Ows.operationsMetadata scope (.concat [
    Ows.operation scope "GetCapabilities" url (.concat common),
    Ows.operation scope "DescribeCoverage" url (.concat (common ++ [
      parameter scope "identifiers" (identifiers map)])),
    Ows.operation scope "GetCoverage" url (.concat (common ++ [
      parameter scope "Identifier" (identifiers map),
      Ows.domainType scope "Parameter" "InterpolationType" ["NEAREST_NEIGHBOUR", "BILINEAR"],
      Ows.domainType scope "Parameter" "format" (map.mimeTypes none),
      parameter scope "store" "false",
      parameter scope "GridBaseCRS" "urn:ogc:def:crs:epsg::4326"]))])

/-- The summary of one coverage. -/
def summary (scope : Scope) (library : ProjectionLibrary) (map : MapDefinition) (layer : Layer) :
    Fragment :=
  let owner := map.owner? layer
  .ofResult (Grid.ofLayer library owner layer) fun grid =>
    scope.node "CoverageSummary" [] (.concat [
      Ows.coverageIdentity scope layer,
      Ows.coverageBoxes scope grid,
      scope.leaves "SupportedFormat" (map.mimeTypes (some layer)),
      .ofResult (Crs.supported library owner layer) (scope.leaves "SupportedCRS")])

/-- The URL of the service, if there is one that a document can carry. -/
def serviceUrl (map : MapDefinition) (origin : Option Origin) : Except Failure String :=
  match (ServiceUrl.ofMap? map origin).filter isWritableText with
  | some url => .ok url
  | none =>
    .error (.ofKind .missingOnlineResource
      "Unable to determine the online resource of the service" (some "onlineresource") none)

def body (scope : Scope) (library : ProjectionLibrary) (map : MapDefinition)
    (origin : Option Origin) (version : String) : Fragment :=
  .concat [
    Ows.serviceIdentification scope map "OGC WCS" version,
    Ows.serviceProvider scope map.metadata,
    .ofResult (serviceUrl map origin) (operations scope map version),
    scope.node "Contents" [] (.concat (map.coverages.map (summary scope library map)))]

/-- The document, if all of it can be built. -/
def document (library : ProjectionLibrary) (map : MapDefinition) (origin : Option Origin)
    (version : String) : Except Failure Document := do
  let empty ← Document.create "Capabilities" .service (some version)
  empty.withBody (body .service library map origin version)

end WebCoverage.Capabilities
