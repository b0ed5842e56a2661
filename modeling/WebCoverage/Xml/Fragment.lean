import WebCoverage.Failure
import WebCoverage.Text.Quoted
import WebCoverage.Xml.Character
import WebCoverage.Xml.Element

/-! Fragments: rows of sibling elements as far as they could be built. A failure ends a fragment,
and the elements before it stay, the one that was being built included. -/

namespace WebCoverage.Xml

structure Fragment where
  elements : List Element
  failure : Option Failure

namespace Fragment

def empty : Fragment := ⟨[], none⟩

/-- A fragment that fails before its first element. -/
def failed (failure : Failure) : Fragment := ⟨[], some failure⟩

/-- What follows a failure is not built. -/
def append (first second : Fragment) : Fragment :=
  match first.failure with
  | some _ => first
  | none => ⟨first.elements ++ second.elements, second.failure⟩

instance : Append Fragment := ⟨append⟩

/-- Fragments one after the other. -/
def concat : List Fragment → Fragment
  | [] => empty
  | first :: rest => first ++ concat rest

/-- A fragment made from a result, or its failure. -/
def ofResult {α : Type} (result : Except Failure α) (f : α → Fragment) : Fragment :=
  match result with
  | .ok value => f value
  | .error failure => failed failure

/-- A fragment that is there only if a value is. -/
def ofOption {α : Type} (value : Option α) (f : α → Fragment) : Fragment :=
  match value with
  | some value => f value
  | none => empty

theorem failure_append_eq_none {first second : Fragment} :
    (first ++ second).failure = none ↔ first.failure = none ∧ second.failure = none := by
  show (append first second).failure = none ↔ _
  unfold append
  cases h : first.failure <;> simp [h]

theorem elements_append {first second : Fragment} (h : first.failure = none) :
    (first ++ second).elements = first.elements ++ second.elements := by
  show (append first second).elements = _
  simp [append, h]

theorem failure_concat_eq_none {fragments : List Fragment} :
    (concat fragments).failure = none ↔ ∀ fragment ∈ fragments, fragment.failure = none := by
  induction fragments with
  | nil => simp [concat, empty]
  | cons first rest ih => simp [concat, failure_append_eq_none, ih]

theorem elements_concat {fragments : List Fragment} (h : (concat fragments).failure = none) :
    (concat fragments).elements = fragments.flatMap (·.elements) := by
  induction fragments with
  | nil => rfl
  | cons first rest ih =>
    have parts := failure_append_eq_none.1 h
    simp [concat, elements_append parts.1, ih parts.2]

end Fragment

/-- The namespaces that a document binds; the empty one is the default. -/
structure Scope where
  bindings : List (String × String)

namespace Scope

def binds (scope : Scope) (space : String) : Bool :=
  scope.bindings.any (·.1 = space)

/-- The parts of a name before and after its last colon. -/
def splitName (name : String) : String × String :=
  let backwards := name.toList.reverse
  let isLocal := fun c => c ≠ ':'
  (String.ofList (backwards.dropWhile isLocal).tail.reverse,
    String.ofList (backwards.takeWhile isLocal).reverse)

/-- A name has a local part, and its namespace is bound. -/
def check (scope : Scope) (name : String) : Except Failure Unit :=
  let parts := splitName name
  if !parts.1.isEmpty && !scope.binds parts.1 then .error (.unboundNamespace parts.1)
  else if parts.2.isEmpty then .error (.emptyName (Text.quoted name))
  else .ok ()

/-- The value of the named element or attribute can be carried. -/
def checkText (name value : String) : Except Failure Unit :=
  if isWritableText value then .ok () else .error (.unwritable name)

/-- Gives an element an attribute. -/
def setAttribute (scope : Scope) (element : Element) (name value : String) :
    Except Failure Element := do
  checkText name value
  scope.check name
  return element.setAttribute name value

/-- Gives an element attributes, up to the first that fails. -/
def setAttributes (scope : Scope) (element : Element) :
    List (String × String) → Element × Option Failure
  | [] => (element, none)
  | (name, value) :: rest =>
    match scope.setAttribute element name value with
    | .ok element => setAttributes scope element rest
    | .error failure => (element, some failure)

/-- One element with its attributes and the fragment inside it. -/
def node (scope : Scope) (name : String) (attributes : List (String × String)) (body : Fragment) :
    Fragment :=
  match scope.check name with
  | .error failure => .failed failure
  | .ok () =>
    match scope.setAttributes (.bare name) attributes with
    | (element, some failure) => ⟨[element], some failure⟩
    | (element, none) => ⟨[{ element with children := body.elements }], body.failure⟩

/-- One element with attributes and a text. The text is checked first and set last. -/
def leaf (scope : Scope) (name text : String) (attributes : List (String × String)) : Fragment :=
  match checkText name text with
  | .error failure => .failed failure
  | .ok () =>
    match scope.check name with
    | .error failure => .failed failure
    | .ok () =>
      match scope.setAttributes (.bare name) attributes with
      | (element, some failure) => ⟨[element], some failure⟩
      | (element, none) => ⟨[{ element with text := text }], none⟩

/-- One element of the same name for each text. -/
def leaves (scope : Scope) (name : String) (texts : List String) : Fragment :=
  .concat (texts.map fun text => scope.leaf name text [])

end Scope

end WebCoverage.Xml
