import WebCoverage.Failure
import WebCoverage.Xml.Document

/-! The sink of a response: one header line, a blank line, and a body. What is written stays
written when a later step fails. -/

namespace WebCoverage

structure Transport where
  contentType : Option String
  status : Int
  headersSent : Bool
  /-- Everything written so far, the header line included. -/
  output : Bytes
  /-- Whether the output can be read back. -/
  inMemory : Bool
  deriving DecidableEq, Repr

/-- Steps that write to a transport. -/
abbrev Sending := EStateM Failure Transport

namespace Transport

/-- A transport to which nothing was written. -/
def fresh (inMemory : Bool) : Transport :=
  ⟨none, 200, false, [], inMemory⟩

/-- Commits the headers. The content type and the status are kept even if the header line cannot be
written, which is in ASCII. -/
def start (contentType : String) (status : Int) : Sending Unit := fun transport =>
  if transport.headersSent then
    .error (.headersAlreadySent (transport.contentType.getD "")) transport
  else
    let transport := { transport with contentType := some contentType, status }
    match Text.asciiBytes? s!"Content-Type: {contentType}\n\n" with
    | none => .error (.plain .unencodable) transport
    | some line => .ok () { transport with output := transport.output ++ line, headersSent := true }

/-- Writes to the body. -/
def write (content : Bytes) : Sending Unit := fun transport =>
  if transport.headersSent then .ok () { transport with output := transport.output ++ content }
  else .error .bodyBeforeHeaders transport

/-- Writes a serialized document; characters cannot be written. -/
def writePayload (payload : Xml.Payload) : Sending Unit := fun transport =>
  match payload with
  | .bytes content => write content transport
  | .characters _ =>
    .error (if transport.headersSent then .plain .wrongType else .bodyBeforeHeaders) transport

/-- Writes a text to the body if it is in ASCII. -/
def writeAscii (text : String) : Sending Unit := fun transport =>
  match Text.asciiBytes? text with
  | some content => write content transport
  | none => .error (.plain .unencodable) transport

/-- Everything written so far. -/
def contents (transport : Transport) : Except Failure Bytes :=
  if transport.inMemory then .ok transport.output else .error .notInMemory

/-- What follows the first blank line. -/
def afterBlankLine : Bytes → Bytes
  | 10 :: 10 :: rest => rest
  | _ :: rest => afterBlankLine rest
  | [] => []

/-- The body written so far. -/
def body (transport : Transport) : Except Failure Bytes :=
  transport.contents.map afterBlankLine

end Transport

end WebCoverage
