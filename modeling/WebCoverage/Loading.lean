import WebCoverage.Json.Reader
import WebCoverage.Layer

/-! Map definitions from files or from JSON values. -/

namespace WebCoverage.MapDefinition

/-- What reading a file gives. -/
inductive Source where
  | missing
  | directory
  | bytes (content : ByteArray)

def ofJson (definition : Json) : Except Failure MapDefinition :=
  (validator definition).toExcept .invalidMap

/-- The map that the file at a path defines. The file is JSON in UTF-8. -/
def load (path : String) : Source → Except Failure MapDefinition
  | .missing => .error (.unreadableMap path .missingFile)
  | .directory => .error (.unreadableMap path .isDirectory)
  | .bytes content =>
    match String.fromUTF8? content with
    | none => .error (.plain .undecodable)
    | some text =>
      match Json.read (some Number.Literal.digitLimit) text with
      | .error .malformed => .error (.malformedMap path)
      | .error .longInteger => .error (.plain .invalidValue)
      | .ok definition => ofJson definition

end WebCoverage.MapDefinition
