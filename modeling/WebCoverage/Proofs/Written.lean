import WebCoverage.Proofs.AllOrNothing
import WebCoverage.Proofs.Correspondence
import WebCoverage.Proofs.Xml.Reading
import WebCoverage.Proofs.Xml.WellFormed

/-! Whether what is written is well-formed. The version of a document comes from the request or from
the settings, and it is written on the root without a check. In capabilities it also stands in a
text, which is checked, so they are always well-formed. Descriptions and reports are if their
version can be carried (`Service.wellFormed_iff`). All this is said of texts of characters. The
check alone would not be enough for texts with surrogates, which it lets through. -/

namespace WebCoverage

open Xml

variable {library : ProjectionLibrary} {map : MapDefinition} {document : Document}
  {version : String}

theorem Xml.Document.Framed.wellFormed_reporter_iff (h : document.Framed Reporter.scope version) :
    document.WellFormed ↔ isWritableText version :=
  h.wellFormed_iff_isWritableText (by decide +kernel)

theorem Capabilities.framed_of_document {origin : Option Origin}
    (h : Capabilities.document library map origin version = .ok document) :
    document.Framed .service version :=
  Document.framed_of_body (composed_body origin version) h

theorem Description.framed_of_document {coverages : List String}
    (h : Description.document library map coverages version = .ok document) :
    document.Framed .service version := by
  obtain ⟨layers, -, h⟩ := exists_of_bind_eq_ok h
  have hbody : Composed Failure.Reportable .service
      (.concat (layers.map (layerFragment .service library map))) :=
    .concat_map fun _ _ => composed_layerFragment
  exact Document.framed_of_body hbody h

theorem Reporter.framed_of_document {reporter : Reporter} {report : Report}
    (h : reporter.document report = .ok document) :
    document.Framed Reporter.scope reporter.version := by
  have hbody : Composed Failure.Reportable scope (scope.node "ows:Exception" (attributes report)
      (scope.leaf "ows:ExceptionText" (writable report.message) [])) := .node _ _ (.leaf ..)
  obtain ⟨empty, hempty, h⟩ := exists_of_bind_eq_ok h
  obtain ⟨spoken, hlanguage, h⟩ := exists_of_bind_eq_ok h
  obtain ⟨located, hlocation, h⟩ := exists_of_bind_eq_ok h
  have hspoken := (Document.framed_create hempty).setRootAttribute (by decide +kernel) hlanguage
  exact (hspoken.setRootAttribute (by decide +kernel) hlocation).withBody hbody h

/-! ## Surrogates -/

/-- A document as it is laid out when it is written. -/
def Xml.Document.laidOut (document : Document) (indent : Bool) : Document :=
  if indent then document.indented else document

theorem Xml.Document.Framed.laidOut {scope : Scope} (h : document.Framed scope version)
    (indent : Bool) : (document.laidOut indent).Framed scope version := by
  cases indent with
  | true => exact h.indented
  | false => exact h

namespace Service

variable {service : Service} {operation : DocumentOperation} {parameters : RequestParameters}
  {inMemory : Bool} {exchange : Exchange}

theorem framed_of_document (h : operation.document service parameters = .ok document) :
    document.Framed .service (service.version parameters.version) := by
  cases operation with
  | capabilities origin => exact Capabilities.framed_of_document h
  | description => exact Description.framed_of_document h

end Service

end WebCoverage
