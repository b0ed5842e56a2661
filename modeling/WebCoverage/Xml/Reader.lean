import WebCoverage.Json.Reader
import WebCoverage.Text.Digit
import WebCoverage.Xml.Document

/-! Reading documents back. A reader goes through the markup character by character and holds the
elements whose end tags have not come yet, the innermost first. Elements that are still open keep
their children backwards. The outermost one stands for the document itself: when the markup ends,
nothing else is open, and the root is its one child. -/

namespace WebCoverage.Xml

/-- A character that names are made of. -/
def isNameChar (c : Char) : Bool :=
  c.isAlphanum || c = '-' || c = '_' || c = '.' || c = ':'

/-- A blank in markup: between the parts of a tag, and before and after the root. -/
def isGap (c : Char) : Bool :=
  c = ' ' || c = '\t' || c = '\n' || c = '\r'

/-! ## References -/

/-- The character with a code point that is written with digits. -/
def ofCode? (base : Nat) (digit? : Char → Option Nat) (digits : List Char) : Option Char := do
  let digits ← digits.mapM digit?
  let code := digits.foldl (fun code digit => base * code + digit) 0
  if code.isValidChar ∧ digits ≠ [] then some (Char.ofNat code) else none

/-- The character that a reference stands for: one by name, or any by its code point. -/
def referent? : (name : List Char) → Option Char
  | '#' :: 'x' :: digits => ofCode? 16 Json.Reader.hexDigit? digits
  | '#' :: digits => ofCode? 10 Text.asciiDigit? digits
  | name =>
    [("amp", '&'), ("lt", '<'), ("gt", '>'), ("quot", '"'), ("apos", '\'')].lookup
      (String.ofList name)

/-! ## Open elements -/

namespace Element

/-- A character in the content of an open element, after its last child. -/
def receive (element : Element) (c : Char) : Element :=
  match element.children with
  | [] => { element with text := element.text.push c }
  | last :: earlier =>
    { element with children := { last with tail := last.tail.push c } :: earlier }

/-- A child of an open element. -/
def adopt (element child : Element) : Element :=
  { element with children := child :: element.children }

/-- The element when its end tag has come. -/
def closed (element : Element) : Element :=
  { element with children := element.children.reverse }

end Element

/-! ## Reading -/

/-- An attribute whose value is being read, and the element that will have it. -/
structure OpenAttribute where
  element : Element
  name : String
  quote : Char
  value : String

namespace OpenAttribute

/-- A character of the value. -/
def receive (pending : OpenAttribute) (c : Char) : OpenAttribute :=
  { pending with value := pending.value.push c }

/-- The element with the attribute, which it may not have already. -/
def element? (pending : OpenAttribute) : Option Element :=
  if pending.name ∈ pending.element.attributes.map Prod.fst then none
  else some { pending.element with
    attributes := pending.element.attributes ++ [(pending.name, pending.value)] }

end OpenAttribute

/-- Where in the markup a reader stands. -/
inductive Place where
  /-- Between tags. -/
  | content
  /-- Between tags, inside a reference. -/
  | contentReference (name : List Char)
  /-- After the sign that starts a tag. -/
  | tag
  | startName (name : String)
  /-- In a start tag, after a blank. -/
  | gap (element : Element)
  | attributeName (element : Element) (name : String)
  /-- Between the name of an attribute and its value. -/
  | equals (element : Element) (name : String)
  | value (pending : OpenAttribute)
  | valueReference (pending : OpenAttribute) (name : List Char)
  /-- In a start tag, after the value of an attribute. -/
  | valueEnd (element : Element)
  /-- At the end of a tag without content. -/
  | slash (element : Element)
  | endName (name : String)

structure Reader where
  place : Place
  /-- The innermost open element. -/
  inner : Element
  /-- The open elements around it, from the inside. -/
  outer : List Element

namespace Reader

/-- What may follow a name or a value in the start tag of an element. -/
def inTag (reader : Reader) (element : Element) (c : Char) : Option Reader :=
  if isGap c then some { reader with place := .gap element }
  else if c = '/' then some { reader with place := .slash element }
  else if c = '>' then some ⟨.content, element, reader.inner :: reader.outer⟩
  else none

/-- One character of a value. A blank that is not written as a reference counts as a space. -/
def inValue (reader : Reader) (pending : OpenAttribute) (c : Char) : Option Reader :=
  if c = pending.quote then
    pending.element?.map fun element => { reader with place := .valueEnd element }
  else if c = '<' then none
  else if c = '&' then some { reader with place := .valueReference pending [] }
  else some { reader with place := .value (pending.receive (if isGap c then ' ' else c)) }

/-- An end tag closes the innermost element and must have its name. -/
def close? (reader : Reader) (name : String) : Option Reader :=
  match reader.outer with
  | parent :: outer =>
    if name = reader.inner.name then some ⟨.content, parent.adopt reader.inner.closed, outer⟩
    else none
  | [] => none

/-- Reads one character. -/
def step (reader : Reader) (c : Char) : Option Reader :=
  match reader.place with
  | .content =>
    if c = '<' then some { reader with place := .tag }
    else if c = '&' then some { reader with place := .contentReference [] }
    else some { reader with inner := reader.inner.receive c }
  | .contentReference name =>
    if c = ';' then
      (referent? name).map fun c => ⟨.content, reader.inner.receive c, reader.outer⟩
    else some { reader with place := .contentReference (name ++ [c]) }
  | .tag =>
    if c = '/' then some { reader with place := .endName "" }
    else if isNameChar c then some { reader with place := .startName ("".push c) }
    else none
  | .startName name =>
    if isNameChar c then some { reader with place := .startName (name.push c) }
    else reader.inTag (.bare name) c
  | .gap element =>
    if isNameChar c then some { reader with place := .attributeName element ("".push c) }
    else reader.inTag element c
  | .attributeName element name =>
    if isNameChar c then some { reader with place := .attributeName element (name.push c) }
    else if c = '=' then some { reader with place := .equals element name }
    else none
  | .equals element name =>
    if c = '"' ∨ c = '\'' then some { reader with place := .value ⟨element, name, c, ""⟩ }
    else none
  | .value pending => reader.inValue pending c
  | .valueReference pending name =>
    if c = ';' then
      (referent? name).map fun c => { reader with place := .value (pending.receive c) }
    else some { reader with place := .valueReference pending (name ++ [c]) }
  | .valueEnd element => reader.inTag element c
  | .slash element =>
    if c = '>' then some { reader with place := .content, inner := reader.inner.adopt element }
    else none
  | .endName name =>
    if isNameChar c then some { reader with place := .endName (name.push c) }
    else if c = '>' then reader.close? name
    else none

def run (reader : Reader) (markup : List Char) : Option Reader :=
  markup.foldlM step reader

/-- A reader before the markup of a document. -/
def start : Reader :=
  ⟨.content, .bare "", []⟩

/-- The root of the document that has been read, if it is complete and holds nothing but blanks
beside the root. -/
def root? (reader : Reader) : Option Element :=
  match reader with
  | ⟨.content, ⟨_, _, before, [root], _⟩, []⟩ =>
    if before.toList.all isGap && root.tail.toList.all isGap then some { root with tail := "" }
    else none
  | _ => none

end Reader

/-- What follows the XML declaration at the start of a text. -/
def afterDeclaration? (text : List Char) : Option (List Char) :=
  if "<?xml".toList.isPrefixOf text then skip text else none
where
  /-- What follows the first sign that ends a declaration. -/
  skip : List Char → Option (List Char)
    | '?' :: '>' :: rest => some rest
    | _ :: rest => skip rest
    | [] => none

/-- The root of the document that bytes in the given encoding hold. -/
def Document.read? (encoding : String) (content : Bytes) : Option Element := do
  let charset ← Text.Charset.ofName? encoding
  let markup ← afterDeclaration? (← charset.read? content)
  (← Reader.start.run markup).root?

end WebCoverage.Xml
