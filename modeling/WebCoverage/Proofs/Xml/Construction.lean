import Mathlib.Data.List.Forall2
import WebCoverage.Xml.Fragment

/-! What a fragment holds once it has been built. Each way of making a fragment has a lemma that
says when nothing fails, in terms of its parts, and one that gives its elements in that case. -/

namespace WebCoverage.Xml

/-- Steps that succeed one after the other. -/
theorem exists_of_bind_eq_ok {α β : Type} {step : Except Failure α} {next : α → Except Failure β}
    {b : β} (h : step >>= next = .ok b) : ∃ a, step = .ok a ∧ next a = .ok b := by
  cases step with
  | error failure => cases h
  | ok a => exact ⟨a, rfl, h⟩

/-- An element that holds a text alone. -/
def Element.ofText (name text : String) : Element :=
  ⟨name, [], text, [], ""⟩

@[simp]
theorem Element.name_ofText (name text : String) : (ofText name text).name = name := rfl

@[simp]
theorem Element.text_ofText (name text : String) : (ofText name text).text = text := rfl

/-- An element that holds other elements alone. -/
def Element.ofChildren (name : String) (attributes : List (String × String))
    (children : List Element) : Element :=
  ⟨name, attributes, "", children, ""⟩

section

variable (name : String) (attributes : List (String × String)) (children : List Element)

@[simp]
theorem Element.name_ofChildren : (ofChildren name attributes children).name = name := rfl

@[simp]
theorem Element.children_ofChildren : (ofChildren name attributes children).children = children :=
  rfl

end

namespace Scope

variable {scope : Scope} {element : Element} {name value text : String}
  {attributes : List (String × String)} {texts : List String} {body : Fragment}

/-- An attribute that elements of the scope can be given. -/
def Accepts (scope : Scope) (entry : String × String) : Prop :=
  isWritableText entry.2 ∧ scope.check entry.1 = .ok ()

theorem setAttribute_of_accepts (h : scope.Accepts (name, value)) :
    scope.setAttribute element name value = .ok (element.setAttribute name value) := by
  obtain ⟨hvalue, hname⟩ := h
  simp only [setAttribute, checkText, if_pos hvalue, hname]
  rfl

theorem accepts_of_setAttribute {changed : Element}
    (h : scope.setAttribute element name value = .ok changed) : scope.Accepts (name, value) := by
  unfold setAttribute checkText at h
  by_cases hvalue : isWritableText value
  · cases hname : scope.check name with
    | error failure => rw [if_pos hvalue, hname] at h; cases h
    | ok _ => exact ⟨hvalue, hname⟩
  · rw [if_neg hvalue] at h; cases h

theorem setAttributes_eq_none_iff (element : Element) :
    (scope.setAttributes element attributes).2 = none ↔
      ∀ entry ∈ attributes, scope.Accepts entry := by
  induction attributes generalizing element with
  | nil => simp [setAttributes]
  | cons entry rest ih =>
    obtain ⟨name, value⟩ := entry
    rw [setAttributes, List.forall_mem_cons]
    cases h : scope.setAttribute element name value with
    | ok changed => simp [ih, accepts_of_setAttribute h]
    | error failure =>
      have hno : ¬scope.Accepts (name, value) := fun ha => by
        rw [setAttribute_of_accepts ha] at h; cases h
      simp [hno]

/-- Attributes that are accepted are put one after the other, whatever attributes follow. -/
theorem setAttributes_append {entries after : List (String × String)}
    (h : ∀ entry ∈ attributes, scope.Accepts entry) :
    scope.setAttributes (.ofChildren name entries []) (attributes ++ after) =
      scope.setAttributes (.ofChildren name
        (attributes.foldl (fun entries pair => Assoc.put pair.1 pair.2 entries) entries) [])
        after := by
  induction attributes generalizing entries with
  | nil => rfl
  | cons entry rest ih =>
    obtain ⟨hentry, hrest⟩ := List.forall_mem_cons.1 h
    rw [List.cons_append, setAttributes, setAttribute_of_accepts hentry]
    exact ih hrest

theorem setAttributes_bare (h : ∀ entry ∈ attributes, scope.Accepts entry) :
    scope.setAttributes (.bare name) attributes =
      (.ofChildren name (Assoc.ofPairs attributes) [], none) := by
  have hall : scope.setAttributes (.bare name) (attributes ++ []) =
      (.ofChildren name (Assoc.ofPairs attributes) [], none) := setAttributes_append h
  rwa [List.append_nil] at hall

theorem failure_node_eq_none :
    (scope.node name attributes body).failure = none ↔
      scope.check name = .ok () ∧ (∀ entry ∈ attributes, scope.Accepts entry) ∧
        body.failure = none := by
  unfold node
  cases hname : scope.check name with
  | error failure => simp [Fragment.failed]
  | ok _ =>
    rw [← setAttributes_eq_none_iff (.bare name)]
    rcases scope.setAttributes (.bare name) attributes with ⟨element, _ | failure⟩ <;> simp

theorem elements_node (h : (scope.node name attributes body).failure = none) :
    (scope.node name attributes body).elements =
      [.ofChildren name (Assoc.ofPairs attributes) body.elements] := by
  obtain ⟨hname, hattributes, -⟩ := failure_node_eq_none.1 h
  simp only [node, hname, setAttributes_bare hattributes]
  rfl

theorem failure_leaf_eq_none :
    (scope.leaf name text attributes).failure = none ↔
      isWritableText text ∧ scope.check name = .ok () ∧
        ∀ entry ∈ attributes, scope.Accepts entry := by
  unfold leaf checkText
  by_cases htext : isWritableText text
  · rw [if_pos htext]
    cases hname : scope.check name with
    | error failure => simp [Fragment.failed]
    | ok _ =>
      rw [← setAttributes_eq_none_iff (.bare name)]
      rcases scope.setAttributes (.bare name) attributes with ⟨element, _ | failure⟩ <;>
        simp [htext]
  · simp [Fragment.failed, htext]

theorem elements_leaf (h : (scope.leaf name text attributes).failure = none) :
    (scope.leaf name text attributes).elements =
      [{ Element.ofText name text with attributes := Assoc.ofPairs attributes }] := by
  obtain ⟨htext, hname, hattributes⟩ := failure_leaf_eq_none.1 h
  simp only [leaf, checkText, if_pos htext, hname, setAttributes_bare hattributes]
  rfl

theorem failure_leaves_eq_none :
    (scope.leaves name texts).failure = none ↔
      ∀ text ∈ texts, (scope.leaf name text []).failure = none := by
  simp [leaves, Fragment.failure_concat_eq_none]

theorem elements_leaves (h : (scope.leaves name texts).failure = none) :
    (scope.leaves name texts).elements = texts.map (.ofText name) := by
  have hparts := failure_leaves_eq_none.1 h
  rw [leaves, Fragment.elements_concat h, List.flatMap_map, List.map_eq_flatMap]
  exact List.flatMap_congr fun text htext => elements_leaf (hparts text htext)

end Scope

namespace Fragment

variable {α : Type} {result : Except Failure α} {value : Option α} {f : α → Fragment}

theorem exists_of_isOk (h : result.isOk) : ∃ a, result = .ok a := by
  cases result with
  | ok a => exact ⟨a, rfl⟩
  | error failure => cases h

theorem failure_ofResult_eq_none :
    (ofResult result f).failure = none ↔ ∃ a, result = .ok a ∧ (f a).failure = none := by
  cases result <;> simp [ofResult, failed]

theorem failure_ofOption_eq_none :
    (ofOption value f).failure = none ↔ ∀ a ∈ value, (f a).failure = none := by
  cases value <;> simp [ofOption, empty]

/-- What the fragment holds if nothing fails. -/
def Builds (fragment : Fragment) (elements : List Element) : Prop :=
  fragment.failure = none → fragment.elements = elements

variable {first second body : Fragment} {elements more children : List Element}
  {scope : Scope} {name text : String} {attributes : List (String × String)}

theorem builds_self (fragment : Fragment) : fragment.Builds fragment.elements := fun _ => rfl

theorem builds_empty : empty.Builds [] := fun _ => rfl

theorem builds_append (hfirst : first.Builds elements) (hsecond : second.Builds more) :
    (first ++ second).Builds (elements ++ more) := fun h => by
  obtain ⟨hfirst', hsecond'⟩ := failure_append_eq_none.1 h
  rw [elements_append hfirst', hfirst hfirst', hsecond hsecond']

/-- Parts that are built one after the other. -/
theorem builds_concat {fragments : List Fragment} {parts : List (List Element)}
    (h : List.Forall₂ Builds fragments parts) : (concat fragments).Builds parts.flatten := by
  induction h with
  | nil => exact builds_empty
  | cons hfirst _ ih => exact builds_append hfirst ih

theorem builds_concat_map {items : List α} {g : α → List Element}
    (h : ∀ item ∈ items, (f item).Builds (g item)) :
    (concat (items.map f)).Builds (items.flatMap g) := by
  rw [List.flatMap_def]
  refine builds_concat ?_
  rw [List.forall₂_map_left_iff, List.forall₂_map_right_iff, List.forall₂_same]
  exact h

theorem builds_ofOption {g : α → List Element} (h : ∀ a ∈ value, (f a).Builds (g a)) :
    (ofOption value f).Builds (value.elim [] g) := by
  cases value with
  | none => exact builds_empty
  | some a => exact h a rfl

theorem builds_node (h : body.Builds children) :
    (scope.node name attributes body).Builds
      [.ofChildren name (Assoc.ofPairs attributes) children] := fun hnode => by
  rw [Scope.elements_node hnode, h (Scope.failure_node_eq_none.1 hnode).2.2]

theorem builds_leaf : (scope.leaf name text []).Builds [.ofText name text] :=
  Scope.elements_leaf

theorem builds_leaves {texts : List String} :
    (scope.leaves name texts).Builds (texts.map (.ofText name)) :=
  Scope.elements_leaves

end Fragment

end WebCoverage.Xml
