import WebCoverage.Capabilities
import WebCoverage.Coverage.Multipart
import WebCoverage.Description
import WebCoverage.ExceptionReport
import WebCoverage.Settings

/-! The service of one map. Every operation writes either its response or an exception report, and
releases the parameters of the request whatever happens. -/

namespace WebCoverage

/-- A request that is being answered. -/
structure Exchange where
  parameters : RequestParameters
  transport : Transport

/-- Steps of answering a request. -/
abbrev Answering := EStateM Failure Exchange

namespace Exchange

/-- A step that writes to the transport. -/
def sending {α : Type} (step : Sending α) : Answering α := fun exchange =>
  match step exchange.transport with
  | .ok value transport => .ok value { exchange with transport }
  | .error failure transport => .error failure { exchange with transport }

def release (exchange : Exchange) : Exchange :=
  { exchange with parameters := exchange.parameters.release }

/-- Releases the parameters at the end of a step, whether it fails or not. -/
def releasing {α : Type} (step : Answering α) : Answering α := fun exchange =>
  match step exchange with
  | .ok value exchange => .ok value exchange.release
  | .error failure exchange => .error failure exchange.release

end Exchange

structure Service where
  map : MapDefinition
  settings : Settings
  encoder : Encoder
  library : ProjectionLibrary
  codecs : Text.Codecs

namespace Service

open Exchange

def reporter (service : Service) : Reporter :=
  ⟨service.settings.exceptionVersion, service.settings.encoding, service.codecs⟩

/-- A document as the settings have it written. -/
def payload (service : Service) (document : Xml.Document) : Except Failure Xml.Payload :=
  document.payload service.codecs service.settings.encoding service.settings.prettyPrint

/-- The version of a document: the one requested, or the default for an empty one. -/
def version (service : Service) (requested : String) : String :=
  if requested.isEmpty then service.settings.defaultVersion else requested

/-- Builds a document from the parameters, which are released when it is built or has failed, and
writes it. Nothing is written before all of it is there. -/
def respond (service : Service)
    (build : RequestParameters → Except Failure Xml.Document) : Answering Unit := do
  let document ← releasing do
    match build (← get).parameters with
    | .ok document => pure document
    | .error failure => throw failure
  match service.payload document with
  | .error failure => throw failure
  | .ok payload =>
    sending (Transport.start "text/xml" 200)
    sending (Transport.writePayload payload)

def respondCapabilities (service : Service) (origin : Option Origin) : Answering Unit :=
  service.respond fun parameters =>
    Capabilities.document service.library service.map origin (service.version parameters.version)

def respondDescription (service : Service) : Answering Unit :=
  service.respond fun parameters =>
    Description.document service.library service.map parameters.coverages
      (service.version parameters.version)

def respondCoverage (service : Service) (image : Image) : Answering Unit :=
  releasing do
    sending (Coverage.send service.encoder service.map (← get).parameters.format image)

/-- Writes a report for a failure that a client is told; any other failure goes on. -/
def reporting (service : Service) (operation : Answering Unit) : Answering Bool := fun exchange =>
  match operation exchange with
  | .ok () exchange => .ok true exchange
  | .error (.reported report) exchange =>
    (do sending (service.reporter.send report); pure false : Answering Bool) exchange
  | .error failure exchange => .error failure exchange

/-- Fills in an empty version. -/
def defaultVersion (service : Service) (exchange : Exchange) : Exchange :=
  { exchange with parameters :=
      { exchange.parameters with version := service.version exchange.parameters.version } }

/-- Carries an operation out. The answer says whether it succeeded. -/
def run (service : Service) (operation : Answering Unit) : Answering Bool := fun exchange =>
  let ensureReleased (exchange : Exchange) : Exchange :=
    if exchange.parameters.released then exchange else exchange.release
  match service.reporting operation (service.defaultVersion exchange) with
  | .ok succeeded exchange => .ok succeeded (ensureReleased exchange)
  | .error failure exchange => .error failure (ensureReleased exchange)

def getCapabilities (service : Service) (origin : Option Origin) : Answering Bool :=
  service.run (service.respondCapabilities origin)

def describeCoverage (service : Service) : Answering Bool :=
  service.run service.respondDescription

def getCoverage (service : Service) (image : Image) : Answering Bool :=
  service.run (service.respondCoverage image)

/-- The report on an operation that is not offered. -/
def unsupported (operation : Option String) : Report :=
  let name := operation.getD "None"
  ⟨.general, s!"WCS request '{name}' is not supported", "OperationNotSupported", some "request",
    none⟩

/-- Carries out the operation that the parameters name, in any case. -/
def dispatch (service : Service) (origin : Option Origin) (image : Image) : Answering Bool := do
  let operation := (← get).parameters.operation
  match Text.lower (operation.getD "") with
  | "getcapabilities" => service.getCapabilities origin
  | "describecoverage" => service.describeCoverage
  | "getcoverage" => service.getCoverage image
  | _ =>
    releasing (sending (service.reporter.send (unsupported operation)))
    return false

end Service

end WebCoverage
