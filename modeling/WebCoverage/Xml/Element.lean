import WebCoverage.Assoc
import WebCoverage.Text.Blank

/-! Elements of an XML document: a name, attributes in order, a text before the children, and a
tail, the text between an element and its next sibling. An empty text is the same as none. -/

namespace WebCoverage.Xml

structure Element where
  name : String
  attributes : List (String × String)
  text : String
  children : List Element
  tail : String

namespace Element

/-- An element without content. -/
def bare (name : String) : Element :=
  ⟨name, [], "", [], ""⟩

/-- Gives an attribute a value; one that is there keeps its place. -/
def setAttribute (element : Element) (name value : String) : Element :=
  { element with attributes := Assoc.put name value element.attributes }

def attribute? (element : Element) (name : String) : Option String :=
  element.attributes.lookup name

/-- The children with the given name. -/
def childrenNamed (element : Element) (name : String) : List Element :=
  element.children.filter (·.name = name)

/-- Changes the descendant to which the positions lead. -/
def modifyAt (f : Element → Element) : (positions : List Nat) → Element → Element
  | [], element => f element
  | position :: rest, element =>
    { element with children := element.children.modify position (modifyAt f rest) }

/-- The descendant to which the positions lead. -/
def at? : (positions : List Nat) → Element → Option Element
  | [], element => some element
  | position :: rest, element => (element.children[position]?).bind (at? rest)

/-! ## Layout

Indentation fills the blank places inside elements that have children: each child starts a line of
its own, two spaces deeper for each level. -/

/-- A line end and the blanks before what stands at `level`. -/
def lineStart (level : Nat) : String :=
  String.ofList ('\n' :: List.replicate (2 * level) ' ')

/-- A text that says something stays, a blank one gives way to `layout`. -/
def fillBlank (layout text : String) : String :=
  if Text.isBlankText text then layout else text

mutual

/-- Indents the content of an element that stands at `level`. -/
def indented (level : Nat) : Element → Element
  | ⟨name, attributes, text, [], tail⟩ => ⟨name, attributes, text, [], tail⟩
  | ⟨name, attributes, text, child :: rest, tail⟩ =>
    ⟨name, attributes, fillBlank (lineStart (level + 1)) text,
      indentedChildren level (child :: rest), tail⟩

/-- Indents the children of an element that stands at `level`. The line after the last one belongs
to the end of the element. -/
def indentedChildren (level : Nat) : List Element → List Element
  | [] => []
  | child :: rest =>
    let child := child.indented (level + 1)
    let after := if rest.isEmpty then level else level + 1
    { child with tail := fillBlank (lineStart after) child.tail } :: indentedChildren level rest

end

/-! ## Text -/

/-- A character of a text between tags. -/
def textChar : Char → List Char
  | '&' => "&amp;".toList
  | '<' => "&lt;".toList
  | '>' => "&gt;".toList
  | c => [c]

/-- A character of the value of an attribute, where line ends and tabulators would be lost. -/
def valueChar : Char → List Char
  | '"' => "&quot;".toList
  | '\r' => "&#13;".toList
  | '\n' => "&#10;".toList
  | '\t' => "&#09;".toList
  | c => textChar c

def textChars (text : String) : List Char :=
  text.toList.flatMap textChar

def attributeChars (entry : String × String) : List Char :=
  ' ' :: entry.1.toList ++ '=' :: '"' :: entry.2.toList.flatMap valueChar ++ ['"']

section

variable {d : Char} (hd : d = '\n' ∨ d = '\r')

include hd

/-- Values have no line ends of their own. -/
theorem not_mem_valueChar (c : Char) : d ∉ valueChar c := by
  have hreferences : ∀ reference ∈ ["&quot;", "&#13;", "&#10;", "&#09;", "&amp;", "&lt;", "&gt;"],
      d ∉ reference.toList := by
    rcases hd with rfl | rfl <;> decide
  simp only [List.forall_mem_cons] at hreferences
  obtain ⟨hquote, hreturn, hfeed, htab, hamp, hlt, hgt, -⟩ := hreferences
  unfold valueChar
  split
  · exact hquote
  · exact hreturn
  · exact hfeed
  · exact htab
  · next hreturn hfeed _ =>
    unfold textChar
    split
    · exact hamp
    · exact hlt
    · exact hgt
    · rw [List.mem_singleton]
      rintro rfl
      exact hd.elim hfeed hreturn

theorem not_mem_attributeChars {entry : String × String} (h : d ∉ entry.1.toList) :
    d ∉ attributeChars entry := by
  have hvalue : d ∉ entry.2.toList.flatMap valueChar := fun hmem => by
    obtain ⟨c, -, hc⟩ := List.mem_flatMap.1 hmem
    exact not_mem_valueChar hd c hc
  have hsigns : d ∉ [' ', '=', '"'] := by
    rcases hd with rfl | rfl <;> decide
  simp only [attributeChars, List.cons_append, List.mem_cons, List.mem_append, List.not_mem_nil,
    or_false, not_or] at hsigns ⊢
  exact ⟨hsigns.1, ⟨h, hsigns.2.1, hsigns.2.2, hvalue⟩, hsigns.2.2⟩

end

mutual

/-- The markup of an element and its tail. An element without content is one tag. -/
def chars : Element → List Char
  | ⟨name, attributes, text, children, tail⟩ =>
    let start := '<' :: name.toList ++ attributes.flatMap attributeChars
    let rest :=
      if text.isEmpty && children.isEmpty then [' ', '/', '>']
      else
        '>' :: textChars text ++ childrenChars children ++ '<' :: '/' :: name.toList ++ ['>']
    start ++ rest ++ textChars tail

def childrenChars : List Element → List Char
  | [] => []
  | child :: rest => child.chars ++ childrenChars rest

end

end Element

end WebCoverage.Xml
