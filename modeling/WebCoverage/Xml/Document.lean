import WebCoverage.Text.Charset
import WebCoverage.Xml.Fragment

/-! XML documents. All namespaces that a document binds are declared on its root, whether they are
used or not. -/

namespace WebCoverage.Xml

/-- What a document is serialized to. -/
inductive Payload where
  | bytes (content : Bytes)
  | characters (content : String)
  deriving DecidableEq, Repr

structure Document where
  scope : Scope
  root : Element

namespace Document

/-- The attribute that declares a namespace. -/
def declaration (binding : String × String) : String × String :=
  (if binding.1.isEmpty then "xmlns" else "xmlns:" ++ binding.1, binding.2)

/-- A document with an empty root. The declarations come first, then the version. -/
def create (rootName : String) (scope : Scope) (version : Option String) :
    Except Failure Document := do
  scope.check rootName
  let version := match version with
    | some version => [("version", version)]
    | none => []
  return ⟨scope, { Element.bare rootName with
    attributes := scope.bindings.map declaration ++ version }⟩

/-- The document with a fragment as the content of its root, if nothing failed. -/
def withBody (document : Document) (body : Fragment) : Except Failure Document :=
  match body.failure with
  | some failure => .error failure
  | none => .ok { document with root := { document.root with children := body.elements } }

def setRootAttribute (document : Document) (name value : String) : Except Failure Document := do
  return { document with root := ← document.scope.setAttribute document.root name value }

/-- Appends a fragment to the descendant to which the positions lead. The result is the place of
the first element appended; a failure leaves the elements before it in the document. -/
def append (document : Document) (positions : List Nat) (fragment : Fragment) :
    Document × Except Failure (List Nat) :=
  let count := ((Element.at? positions document.root).map (·.children.length)).getD 0
  let extend (element : Element) : Element :=
    { element with children := element.children ++ fragment.elements }
  ({ document with root := document.root.modifyAt extend positions },
    match fragment.failure with
    | some failure => .error failure
    | none => .ok (positions ++ [count]))

/-- Gives the descendant to which the positions lead an attribute. -/
def setAttributeAt (document : Document) (positions : List Nat) (name value : String) :
    Except Failure Document := do
  Scope.checkText name value
  document.scope.check name
  return { document with root := document.root.modifyAt (·.setAttribute name value) positions }

/-- The document with its blank places filled by line ends and indentation. -/
def indented (document : Document) : Document :=
  { document with root := document.root.indented 0 }

/-- The markup of the document after a declaration of the encoding. -/
def chars (document : Document) (encoding : String) : List Char :=
  "<?xml version='1.0' encoding='".toList ++ encoding.toList ++ "'?>\n".toList ++
    document.root.chars

/-- The name of an encoding as a document declares it. An empty one is US-ASCII. -/
def declaredEncoding (encoding : String) : String :=
  if encoding.isEmpty then "us-ascii" else encoding

/-- Serializes the document as it stands. The name `unicode` keeps the characters; in capitals it is
no encoding. -/
def serialize (document : Document) (codecs : Text.Codecs) (encoding : String) :
    Except Failure Payload :=
  if encoding = "unicode" then
    .ok (.characters (String.ofList (document.chars "utf-8")))
  else if encoding.toLower = "unicode" then .error (.plain .wrongType)
  else
    let declared := declaredEncoding encoding
    if declared.toList.contains '\x00' then .error (.plain .invalidValue)
    else
      match codecs.find? declared with
      | none => .error (.plain .unknownName)
      | some write =>
        match write (document.chars declared) with
        | some content => .ok (.bytes content)
        | none => .error (.plain .unencodable)

/-- Serializes the document, indented or as it stands. -/
def payload (document : Document) (codecs : Text.Codecs) (encoding : String) (indent : Bool) :
    Except Failure Payload :=
  (if indent then document.indented else document).serialize codecs encoding

end Document

/-! ## Namespaces of the service -/

def wcsNamespace : String := "http://www.opengis.net/wcs/1.1"
def owsNamespace : String := "http://www.opengis.net/ows/1.1"
def xlinkNamespace : String := "http://www.w3.org/1999/xlink"
def xsiNamespace : String := "http://www.w3.org/2001/XMLSchema-instance"
def ogcNamespace : String := "http://www.opengis.net/ogc"

/-- The namespaces of capabilities and descriptions. -/
def Scope.service : Scope :=
  ⟨[("", wcsNamespace), ("ows", owsNamespace), ("xlink", xlinkNamespace), ("xsi", xsiNamespace),
    ("ogc", ogcNamespace)]⟩

end WebCoverage.Xml
