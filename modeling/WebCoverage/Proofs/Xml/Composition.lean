import Mathlib.Data.List.Basic
import WebCoverage.Proofs.Xml.Construction

/-! What builders leave behind, whether they fail or not. Every element that a scope's builders put
into a document has a name and attributes that the scope takes and a text that can be carried
(`Composed.admits`). Documents are trees, so properties of all their elements are stated over
`Element.subtree` and kept by what changes a tree at one place. -/

namespace WebCoverage.Xml

namespace Element

mutual

/-- An element and all elements inside it. -/
def subtree : Element → List Element
  | ⟨name, attributes, text, children, tail⟩ =>
    ⟨name, attributes, text, children, tail⟩ :: childrenSubtree children

def childrenSubtree : List Element → List Element
  | [] => []
  | child :: rest => child.subtree ++ childrenSubtree rest

end

theorem childrenSubtree_eq (children : List Element) :
    childrenSubtree children = children.flatMap subtree := by
  induction children with
  | nil => rfl
  | cons child rest ih => rw [childrenSubtree, ih, List.flatMap_cons]

theorem forall_subtree_iff {p : Element → Prop} {element : Element} :
    (∀ node ∈ element.subtree, p node) ↔
      p element ∧ ∀ child ∈ element.children, ∀ node ∈ child.subtree, p node := by
  obtain ⟨name, attributes, text, children, tail⟩ := element
  rw [subtree, childrenSubtree_eq, List.forall_mem_cons, List.forall_mem_flatMap]

theorem self_mem_subtree (element : Element) : element ∈ element.subtree := by
  obtain ⟨name, attributes, text, children, tail⟩ := element
  rw [subtree]
  exact List.mem_cons_self

/-- What holds of an element if it holds of its children holds of all elements. -/
@[elab_as_elim]
theorem induction {motive : Element → Prop}
    (element : ∀ element : Element, (∀ child ∈ element.children, motive child) → motive element)
    (e : Element) : motive e := by
  refine Element.rec (motive_1 := motive) (motive_2 := fun es => ∀ e ∈ es, motive e) ?_ ?_ ?_ e
  · intro name attributes text children tail hchildren
    exact element _ hchildren
  · intro child h
    cases h
  · intro child rest hchild hrest
    exact List.forall_mem_cons.2 ⟨hchild, hrest⟩

section

variable {p : Element → Prop} {f : Element → Element} {element : Element}

private theorem forall_modify {es : List Element} (h : ∀ e ∈ es, p e) (hf : ∀ e, p e → p (f e))
    (i : Nat) : ∀ e ∈ es.modify i f, p e := by
  induction es generalizing i with
  | nil => simp
  | cons first rest ih =>
    obtain ⟨hfirst, hrest⟩ := List.forall_mem_cons.1 h
    cases i with
    | zero => exact List.forall_mem_cons.2 ⟨hf _ hfirst, hrest⟩
    | succ i => exact List.forall_mem_cons.2 ⟨hfirst, ih hrest i⟩

/-- A change at one place keeps what it keeps there, if it is nothing that the children of an
element decide. -/
theorem forall_subtree_modifyAt (hp : ∀ e children, p e → p { e with children := children })
    (hf : ∀ e, (∀ node ∈ e.subtree, p node) → ∀ node ∈ (f e).subtree, p node)
    (positions : List Nat) (h : ∀ node ∈ element.subtree, p node) :
    ∀ node ∈ (modifyAt f positions element).subtree, p node := by
  induction positions generalizing element with
  | nil => exact hf _ h
  | cons position rest ih =>
    obtain ⟨hself, hchildren⟩ := forall_subtree_iff.1 h
    exact forall_subtree_iff.2 ⟨hp _ _ hself, forall_modify hchildren (fun e he => ih he) _⟩

end

end Element

/-! ## Elements of a scope -/

/-- What a scope's builders leave of an element: its name and its attributes were taken, and its
text can be carried. -/
structure Scope.Admits (scope : Scope) (node : Element) : Prop where
  name : scope.check node.name = .ok ()
  attributes : ∀ entry ∈ node.attributes, scope.Accepts entry
  nodup : (node.attributes.map Prod.fst).Nodup
  text : isWritableText node.text
  tail : node.tail = ""

/-- The fragments that a scope's builders make. What fails before its first element fails in a way
that is allowed. -/
inductive Composed (allowed : Failure → Prop) (scope : Scope) : Fragment → Prop
  | failed {failure : Failure} : allowed failure → Composed allowed scope (.failed failure)
  | empty : Composed allowed scope .empty
  | append {first second : Fragment} : Composed allowed scope first →
      Composed allowed scope second → Composed allowed scope (first ++ second)
  | node {body : Fragment} (name : String) (attributes : List (String × String)) :
      Composed allowed scope body → Composed allowed scope (scope.node name attributes body)
  | leaf (name text : String) (attributes : List (String × String)) :
      Composed allowed scope (scope.leaf name text attributes)

namespace Scope

variable {scope : Scope} {element node : Element} {attributes : List (String × String)}
  {name value text : String}

theorem Admits.withChildren (h : scope.Admits node) (children : List Element) :
    scope.Admits { node with children := children } :=
  ⟨h.name, h.attributes, h.nodup, h.text, h.tail⟩

theorem Admits.withText (h : scope.Admits node) (htext : isWritableText text) :
    scope.Admits { node with text := text } :=
  ⟨h.name, h.attributes, h.nodup, htext, h.tail⟩

theorem admits_bare (h : scope.check name = .ok ()) : scope.Admits (.bare name) :=
  ⟨h, by simp [Element.bare], by simp [Element.bare], by simp [Element.bare, isWritableText], rfl⟩

theorem Admits.setAttribute (h : scope.Admits node) (hentry : scope.Accepts (name, value)) :
    scope.Admits (node.setAttribute name value) := by
  refine ⟨h.name, fun entry hmem => ?_, Assoc.nodup_put h.nodup, h.text, h.tail⟩
  obtain rfl | hold := Assoc.mem_of_mem_put hmem
  · exact hentry
  · exact h.attributes entry hold

/-- The element keeps the attributes before the first that fails. -/
theorem Admits.setAttributes (h : scope.Admits element) (attributes : List (String × String)) :
    scope.Admits (scope.setAttributes element attributes).1 ∧
      (scope.setAttributes element attributes).1.children = element.children := by
  induction attributes generalizing element with
  | nil => exact ⟨h, rfl⟩
  | cons entry rest ih =>
    obtain ⟨name, value⟩ := entry
    rw [Scope.setAttributes]
    cases hset : scope.setAttribute element name value with
    | error failure => exact ⟨h, rfl⟩
    | ok changed =>
      have haccepts := accepts_of_setAttribute hset
      rw [setAttribute_of_accepts haccepts] at hset
      cases hset
      exact ih (h.setAttribute haccepts)

end Scope

namespace Composed

variable {allowed : Failure → Prop} {scope : Scope} {fragment body : Fragment}

private theorem mem_append {first second : Fragment} {element : Element}
    (h : element ∈ (first ++ second).elements) :
    element ∈ first.elements ∨ element ∈ second.elements := by
  change element ∈ (Fragment.append first second).elements at h
  unfold Fragment.append at h
  split at h
  · exact .inl h
  · exact List.mem_append.1 h

private theorem admits_alone {element : Element} (h : scope.Admits element)
    (hchildren : element.children = []) : ∀ node ∈ element.subtree, scope.Admits node := by
  refine Element.forall_subtree_iff.2 ⟨h, ?_⟩
  rw [hchildren]
  exact List.forall_mem_nil _

private theorem admits_node {name : String} {attributes : List (String × String)}
    (hbody : ∀ element ∈ body.elements, ∀ node ∈ element.subtree, scope.Admits node) :
    ∀ element ∈ (scope.node name attributes body).elements, ∀ node ∈ element.subtree,
      scope.Admits node := by
  unfold Scope.node
  cases hname : scope.check name with
  | error failure => exact List.forall_mem_nil _
  | ok _ =>
    obtain ⟨hadmits, hchildren⟩ := (Scope.admits_bare hname).setAttributes attributes
    generalize scope.setAttributes (.bare name) attributes = set at hadmits hchildren ⊢
    obtain ⟨element, _ | failure⟩ := set
    · refine List.forall_mem_singleton.2 (Element.forall_subtree_iff.2 ⟨?_, hbody⟩)
      exact hadmits.withChildren _
    · exact List.forall_mem_singleton.2 (admits_alone hadmits hchildren)

private theorem admits_leaf (name text : String) (attributes : List (String × String)) :
    ∀ element ∈ (scope.leaf name text attributes).elements, ∀ node ∈ element.subtree,
      scope.Admits node := by
  unfold Scope.leaf Scope.checkText
  by_cases htext : isWritableText text
  · rw [if_pos htext]
    cases hname : scope.check name with
    | error failure => exact List.forall_mem_nil _
    | ok _ =>
      obtain ⟨hadmits, hchildren⟩ := (Scope.admits_bare hname).setAttributes attributes
      generalize scope.setAttributes (.bare name) attributes = set at hadmits hchildren ⊢
      obtain ⟨element, _ | failure⟩ := set
      · exact List.forall_mem_singleton.2 (admits_alone (hadmits.withText htext) hchildren)
      · exact List.forall_mem_singleton.2 (admits_alone hadmits hchildren)
  · rw [if_neg htext]
    exact List.forall_mem_nil _

/-- The elements that builders leave, those of a fragment that failed included, belong to the
scope. -/
theorem admits (h : Composed allowed scope fragment) :
    ∀ element ∈ fragment.elements, ∀ node ∈ element.subtree, scope.Admits node := by
  induction h with
  | failed _ => exact List.forall_mem_nil _
  | empty => exact List.forall_mem_nil _
  | append _ _ hfirst hsecond =>
    intro element helement
    exact (mem_append helement).elim (hfirst element) (hsecond element)
  | node name attributes _ hbody => exact admits_node hbody
  | leaf name text attributes => exact admits_leaf name text attributes

attribute [simp] Composed.empty Composed.leaf Composed.node

@[simp]
theorem concat {fragments : List Fragment}
    (h : ∀ fragment ∈ fragments, Composed allowed scope fragment) :
    Composed allowed scope (.concat fragments) := by
  induction fragments with
  | nil => exact .empty
  | cons first rest ih =>
    obtain ⟨hfirst, hrest⟩ := List.forall_mem_cons.1 h
    exact .append hfirst (ih hrest)

theorem concat_map {α : Type} {items : List α} {f : α → Fragment}
    (h : ∀ item ∈ items, Composed allowed scope (f item)) :
    Composed allowed scope (.concat (items.map f)) :=
  concat (List.forall_mem_map.2 h)

/-- An element around parts that stand one after the other. -/
theorem inside {parts : List Fragment} {name : String} {attributes : List (String × String)}
    (h : ∀ part ∈ parts, Composed allowed scope part) :
    Composed allowed scope (scope.node name attributes (.concat parts)) :=
  .node name attributes (concat h)

@[simp]
theorem leaves (name : String) (texts : List String) :
    Composed allowed scope (scope.leaves name texts) :=
  concat_map fun text _ => .leaf name text []

theorem ofResult {α : Type} {result : Except Failure α} {f : α → Fragment}
    (herror : ∀ failure, result = .error failure → allowed failure)
    (hok : ∀ value, Composed allowed scope (f value)) :
    Composed allowed scope (.ofResult result f) := by
  cases result with
  | ok value => exact hok value
  | error failure => exact .failed (herror failure rfl)

@[simp]
theorem ofOption {α : Type} {option : Option α} {f : α → Fragment}
    (h : ∀ value, Composed allowed scope (f value)) :
    Composed allowed scope (.ofOption option f) := by
  cases option with
  | none => exact .empty
  | some value => exact h value

end Composed

end WebCoverage.Xml
