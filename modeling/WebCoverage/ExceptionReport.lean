import WebCoverage.Transport

/-! Exception reports: documents that tell a client what failed. -/

namespace WebCoverage

/-- What writes reports: their version, their encoding, and the encodings that there are. -/
structure Reporter where
  version : String
  encoding : String
  codecs : Text.Codecs

namespace Reporter

open Xml

def scope : Scope :=
  ⟨[("ows", owsNamespace), ("xsi", xsiNamespace)]⟩

def schemaLocation : String :=
  "http://www.opengis.net/ows/1.1 http://schemas.opengis.net/ows/1.1.0/owsExceptionReport.xsd"

/-- A locator is there if it is not empty. -/
def attributes (report : Report) : List (String × String) :=
  ("exceptionCode", report.code) ::
    match report.locator.filter (!·.isEmpty) with
    | some locator => [("locator", writable locator)]
    | none => []

/-- The document of a report. Message and locator lose what a document cannot carry; the code and
the version do not. -/
def document (reporter : Reporter) (report : Report) : Except Failure Document := do
  let document ← Document.create "ows:ExceptionReport" scope (some reporter.version)
  let document ← document.setRootAttribute "language" "en-US"
  let document ← document.setRootAttribute "xsi:schemaLocation" schemaLocation
  document.withBody (scope.node "ows:Exception" (attributes report)
    (scope.leaf "ows:ExceptionText" (writable report.message) []))

def payload (reporter : Reporter) (report : Report) : Except Failure Payload := do
  (← reporter.document report).payload reporter.codecs reporter.encoding true

/-- Writes a report. To a body that has been started it is appended, and the status stays. -/
def send (reporter : Reporter) (report : Report) : Sending Unit := do
  if !(← get).headersSent then Transport.start "text/xml" report.status
  match reporter.payload report with
  | .ok payload => Transport.writePayload payload
  | .error failure => throw failure

end Reporter

end WebCoverage
