import WebCoverage.Coverage.Encoder
import WebCoverage.Layer
import WebCoverage.Request
import WebCoverage.Transport

/-! The response that carries a coverage: a manifest in XML and the data, as two parts between
boundaries. Headers and manifest are written before the image is encoded. -/

namespace WebCoverage.Coverage

open Xml

def scope : Scope :=
  ⟨[("", wcsNamespace), ("ows", owsNamespace), ("xlink", xlinkNamespace), ("xsi", xsiNamespace)]⟩

/-- The document that refers to the data. -/
def manifestDocument (extension : String) : Except Failure Document := do
  let document ← Document.create "Coverages" scope none
  let document ← document.setRootAttribute "xsi:schemaLocation"
    "http://www.opengis.net/ows/1.1 ../owsCoverages.xsd"
  document.withBody (scope.node "Coverage" []
    (scope.node "Reference" [("xlink:href", s!"cid:coverage/wcs.{extension}")] .empty))

def manifest (extension : String) : Except Failure Payload := do
  (← manifestDocument extension).payload .none "UTF-8" true

/-- A format that a response can be labelled with. -/
def labelled? (format : Option OutputFormat) : Option OutputFormat :=
  format.filter (!·.mimeType.isEmpty)

/-- The format of a response: the one that the request names, by its name or else by its MIME type,
or the one that the map selects. -/
def selectFormat (map : MapDefinition) (requested : Option String) :
    Except Failure OutputFormat :=
  match requested.filter (!·.isEmpty) with
  | some name =>
    let found := (map.format? name).orElse fun _ =>
      map.formats.find? fun format => Text.sameLower format.mimeType name
    match labelled? found with
    | some format => .ok format
    | none =>
      .error (.reported ⟨.general, s!"Output format '{name}' is not supported",
        "InvalidParameterValue", some "format", none⟩)
  | none =>
    match labelled? map.selectedFormat? with
    | some format => .ok format
    | none =>
      .error (.ofKind .general
        s!"No output format with a mime type selected for map '{map.name}'" none none)

/-- The headers of the first part. -/
def manifestHeaders : String :=
  "--wcs\nContent-Type: text/xml\nContent-ID: wcs.xml\n\n"

/-- The headers of the second part, after the boundary that ends the first. -/
def dataHeaders (format : OutputFormat) : String :=
  s!"\n--wcs\nContent-Type: {format.mimeType}\nContent-Description: coverage data\n" ++
    "Content-Transfer-Encoding: binary\n" ++
    s!"Content-ID: coverage/wcs.{format.fileExtension}\nContent-Disposition: INLINE\n\n"

/-- The boundary that ends the last part. -/
def closing : String := "\n--wcs--\n"

/-- The bytes of an image. A failure that is not the encoder's own becomes the cause of one. -/
def encode (encoder : Encoder) (image : Image) (format : OutputFormat) : Except Failure Bytes :=
  match encoder image format with
  | .ok data => .ok data
  | .error failure =>
    if failure.kind = .report .imageEncoding then .error failure
    else
      .error (.imageEncoding s!"Failed to encode coverage as {format.name}" (some failure.kind))

private def orThrow {α : Type} (result : Except Failure α) : Sending α :=
  match result with
  | .ok value => pure value
  | .error failure => throw failure

@[simp]
theorem orThrow_ok {α : Type} (value : α) (transport : Transport) :
    orThrow (.ok value) transport = .ok value transport := rfl

@[simp]
theorem orThrow_error {α : Type} (failure : Failure) (transport : Transport) :
    (orThrow (.error failure) : Sending α) transport = .error failure transport := rfl

/-- Writes the response. Nothing is written if there is no format. -/
def send (encoder : Encoder) (map : MapDefinition) (requested : Option String) (image : Image) :
    Sending Unit := do
  let format ← orThrow (selectFormat map requested)
  Transport.start "multipart/mixed; boundary=wcs" 200
  Transport.writeAscii manifestHeaders
  Transport.writePayload (← orThrow (manifest format.fileExtension))
  Transport.writeAscii (dataHeaders format)
  Transport.write (← orThrow (encode encoder image format))
  Transport.writeAscii closing

end WebCoverage.Coverage
