import Mathlib.Data.List.Forall2
import WebCoverage.Proofs.Xml.Composition
import WebCoverage.Xml.Document

/-! What indenting a document changes and what it leaves behind. Indentation stays in the tree, so
whatever is built after it stands next to line ends that a document never indented does not have.
These stand in blank places though (`Element.Relaid`): every call keeps two documents alike that
differ in such places only, and indentation fills a blank place alike whatever blanks it held. So a
document does not remember that it was indented before (`Document.layout_alone`). -/

namespace WebCoverage.Xml

open Text (isBlankText)

/-! ## Calls -/

/-- What a document is asked for. The positions lead to the element that is meant. -/
inductive Call where
  | child (positions : List Nat) (name text : String) (attributes : List (String × String))
  | children (positions : List Nat) (name : String) (texts : List String)
  | set (positions : List Nat) (name value : String)
  | serialize (encoding : String) (indent : Bool)

/-- What a call gives back. -/
inductive Reply where
  | place (positions : List Nat)
  | done
  | written (payload : Payload)

/-- A call that builds. -/
def Call.builds : Call → Bool
  | .serialize _ _ => false
  | _ => true

namespace Document

/-- The document that a call leaves, and what the call gives back. Elements appended before a
failure stay, and so does the indentation of a document that cannot be written. -/
def call (codecs : Text.Codecs) (document : Document) : Call → Document × Except Failure Reply
  | .child positions name text attributes =>
    let appended := document.append positions (document.scope.leaf name text attributes)
    (appended.1, appended.2.map .place)
  | .children positions name texts =>
    let appended := document.append positions (document.scope.leaves name texts)
    (appended.1, appended.2.map fun _ => .done)
  | .set positions name value =>
    match document.setAttributeAt positions name value with
    | .ok changed => (changed, .ok .done)
    | .error failure => (document, .error failure)
  | .serialize encoding indent =>
    (if indent then document.indented else document,
      (document.payload codecs encoding indent).map .written)

/-- The document that calls leave, one after the other. -/
def after (codecs : Text.Codecs) (document : Document) (calls : List Call) : Document :=
  calls.foldl (fun document call => (document.call codecs call).1) document

end Document

/-! ## Layouts of an element -/

namespace Element

/-- What stands in one place of two layouts: the same text, or blanks in both. -/
def RelaidText (text text' : String) : Prop :=
  text' = text ∨ isBlankText text ∧ isBlankText text'

/-- Two layouts of one element. Names, attributes and the order of the children are the same, and so
are all texts but blank ones of elements that have children, and all tails but blank ones. -/
inductive Relaid : Element → Element → Prop
  | intro {name : String} {attributes : List (String × String)} {text text' tail tail' : String}
      {children children' : List Element}
      (htext : text' = text ∨ children ≠ [] ∧ RelaidText text text')
      (hchildren : List.Forall₂ Relaid children children') (htail : RelaidText tail tail') :
      Relaid ⟨name, attributes, text, children, tail⟩ ⟨name, attributes, text', children', tail'⟩

variable {element element' element'' : Element} {text text' text'' : String}

theorem RelaidText.refl (text : String) : RelaidText text text := .inl rfl

theorem RelaidText.trans (h : RelaidText text text') (h' : RelaidText text' text'') :
    RelaidText text text'' := by
  obtain rfl | ⟨hblank, hblank'⟩ := h
  · exact h'
  · exact .inr ⟨hblank, h'.elim (fun heq => heq ▸ hblank') And.right⟩

theorem relaidText_fillBlank (level : Nat) (text : String) :
    RelaidText text (fillBlank (lineStart level) text) := by
  have hline : isBlankText (lineStart level) := by
    simp [isBlankText, lineStart, Text.isBlank, Text.isWhiteSpace]
  by_cases h : isBlankText text
  · exact .inr ⟨h, by rwa [fillBlank, if_pos h]⟩
  · exact .inl (if_neg h)

theorem RelaidText.fillBlank_eq (h : RelaidText text text') (layout : String) :
    fillBlank layout text' = fillBlank layout text := by
  obtain rfl | ⟨hblank, hblank'⟩ := h
  · rfl
  · rw [fillBlank, fillBlank, if_pos hblank, if_pos hblank']

@[simp]
theorem tail_indented (level : Nat) (element : Element) :
    (element.indented level).tail = element.tail := by
  obtain ⟨name, attributes, text, children, tail⟩ := element
  cases children <;> rfl

namespace Relaid

theorem refl (element : Element) : element.Relaid element := by
  induction element using Element.induction with
  | element element ih =>
    obtain ⟨name, attributes, text, children, tail⟩ := element
    exact ⟨.inl rfl, List.forall₂_same.2 ih, .refl _⟩

theorem tail (h : element.Relaid element') : RelaidText element.tail element'.tail := by
  obtain ⟨-, -, htail⟩ := h
  exact htail

theorem withTail (h : element.Relaid element') (htail : RelaidText element.tail text) :
    element.Relaid { element' with tail := text } := by
  obtain ⟨htext, hchildren, -⟩ := h
  exact ⟨htext, hchildren, htail⟩

private theorem forall₂_trans {es es' es'' : List Element}
    (htrans : ∀ e ∈ es, ∀ {e' e'' : Element}, e.Relaid e' → e'.Relaid e'' → e.Relaid e'')
    (h : List.Forall₂ Relaid es es') (h' : List.Forall₂ Relaid es' es'') :
    List.Forall₂ Relaid es es'' := by
  induction h generalizing es'' with
  | nil => exact h'
  | cons hfirst _ ih =>
    obtain _ | ⟨hfirst', hrest'⟩ := h'
    obtain ⟨hself, hrest⟩ := List.forall_mem_cons.1 htrans
    exact .cons (hself hfirst hfirst') (ih hrest hrest')

/-- Places that are blank in two layouts are blank in a third one. -/
theorem trans (h : element.Relaid element') (h' : element'.Relaid element'') :
    element.Relaid element'' := by
  induction element using Element.induction generalizing element' element'' with
  | element element ih =>
    obtain @⟨name, attributes, text, text', tail, tail', children, children', htext, hchildren,
      htail⟩ := h
    obtain @⟨_, _, _, text'', _, tail'', _, children'', htext', hchildren', htail'⟩ := h'
    refine ⟨?_, forall₂_trans ih hchildren hchildren', htail.trans htail'⟩
    obtain rfl | ⟨hne', halike'⟩ := htext'
    · exact htext
    · have hne : children ≠ [] := by
        rintro rfl
        exact hne' (List.forall₂_nil_left_iff.1 hchildren)
      obtain rfl | ⟨-, halike⟩ := htext
      · exact .inr ⟨hne, halike'⟩
      · exact .inr ⟨hne, halike.trans halike'⟩

/-! ### Indentation -/

/-- The children of an element are indented each for itself, and so is what follows them. -/
private theorem forall₂_indentedChildren {children : List Element} (level : Nat)
    (h : ∀ child ∈ children, ∀ level, child.Relaid (child.indented level)) :
    List.Forall₂ Relaid children (indentedChildren level children) := by
  induction children with
  | nil => exact .nil
  | cons child rest ih =>
    obtain ⟨hchild, hrest⟩ := List.forall_mem_cons.1 h
    rw [indentedChildren]
    refine .cons ((hchild (level + 1)).withTail ?_) (ih hrest)
    rw [tail_indented]
    exact relaidText_fillBlank _ _

/-- Indentation fills blank places only. -/
theorem indented (element : Element) (level : Nat) : element.Relaid (element.indented level) := by
  induction element using Element.induction generalizing level with
  | element element ih =>
    obtain ⟨name, attributes, text, children, tail⟩ := element
    cases children with
    | nil => exact refl _
    | cons child rest =>
      rw [Element.indented]
      exact ⟨.inr ⟨List.cons_ne_nil _ _, relaidText_fillBlank _ _⟩,
        forall₂_indentedChildren level ih, .refl _⟩

private theorem indentedChildren_eq {children children' : List Element} (level : Nat)
    (hself : ∀ child ∈ children, ∀ {child' : Element}, child.Relaid child' →
      ∀ level tail, { child.indented level with tail := tail } =
        { child'.indented level with tail := tail })
    (h : List.Forall₂ Relaid children children') :
    indentedChildren level children = indentedChildren level children' := by
  induction h with
  | nil => rfl
  | @cons child child' rest rest' hchild hrests ih =>
    obtain ⟨hfirst, hrest⟩ := List.forall_mem_cons.1 hself
    have hempty : rest.isEmpty = rest'.isEmpty := by
      cases hrests <;> rfl
    rw [indentedChildren, indentedChildren, ih hrest, hempty]
    simp only [tail_indented, hchild.tail.fillBlank_eq]
    rw [hfirst hchild]

/-- Two layouts of one element are indented alike, but for what follows the element. -/
theorem indented_eq (h : element.Relaid element') (level : Nat) (tail : String) :
    { element.indented level with tail := tail } =
      { element'.indented level with tail := tail } := by
  induction element using Element.induction generalizing element' level tail with
  | element element ih =>
    obtain @⟨name, attributes, text, text', _, _, children, children', htext, hchildren, -⟩ := h
    have halike := indentedChildren_eq level ih hchildren
    cases hchildren with
    | nil =>
      obtain rfl | ⟨hne, -⟩ := htext
      · rfl
      · exact absurd rfl hne
    | cons _ _ =>
      have htext : RelaidText text text' := htext.elim .inl And.right
      rw [Element.indented, Element.indented, halike, htext.fillBlank_eq]

/-! ### Building -/

private theorem forall₂_modify {es es' : List Element} {f f' : Element → Element}
    (h : List.Forall₂ Relaid es es') (hf : ∀ {e e'}, e.Relaid e' → (f e).Relaid (f' e'))
    (i : Nat) : List.Forall₂ Relaid (es.modify i f) (es'.modify i f') := by
  induction h generalizing i with
  | nil => simp
  | cons hfirst hrest ih =>
    cases i with
    | zero => exact .cons (hf hfirst) hrest
    | succ i => exact .cons hfirst (ih i)

/-- A change at one place keeps two layouts alike if it does so there. -/
theorem modifyAt {f : Element → Element} (hf : ∀ {e e'}, e.Relaid e' → (f e).Relaid (f e'))
    (positions : List Nat) (h : element.Relaid element') :
    (element.modifyAt f positions).Relaid (element'.modifyAt f positions) := by
  induction positions generalizing element element' with
  | nil => exact hf h
  | cons position rest ih =>
    obtain ⟨htext, hchildren, htail⟩ := h
    refine ⟨?_, forall₂_modify hchildren ih position, htail⟩
    exact htext.imp_right (And.imp_left (mt List.modify_eq_nil_iff.1))

theorem extend (h : element.Relaid element') (added : List Element) :
    { element with children := element.children ++ added }.Relaid
      { element' with children := element'.children ++ added } := by
  obtain ⟨htext, hchildren, htail⟩ := h
  refine ⟨?_, List.rel_append hchildren (List.forall₂_same.2 fun e _ => refl e), htail⟩
  exact htext.imp_right (And.imp_left fun hne => List.append_ne_nil_of_left_ne_nil hne added)

theorem setAttribute (h : element.Relaid element') (name value : String) :
    (element.setAttribute name value).Relaid (element'.setAttribute name value) := by
  obtain ⟨htext, hchildren, htail⟩ := h
  exact ⟨htext, hchildren, htail⟩

private theorem rel_getElem? {es es' : List Element} (h : List.Forall₂ Relaid es es') (i : Nat) :
    Option.Rel Relaid es[i]? es'[i]? := by
  induction h generalizing i with
  | nil => exact .none
  | cons hfirst _ ih =>
    cases i with
    | zero => exact .some hfirst
    | succ i => simpa using ih i

/-- In two layouts the same positions lead to elements with as many children. -/
theorem length_at? (positions : List Nat) (h : element.Relaid element') :
    (element.at? positions).map (·.children.length) =
      (element'.at? positions).map (·.children.length) := by
  induction positions generalizing element element' with
  | nil =>
    obtain ⟨-, hchildren, -⟩ := h
    exact congrArg some hchildren.length_eq
  | cons position rest ih =>
    obtain @⟨_, _, _, _, _, _, children, children', -, hchildren, -⟩ := h
    have hplace := rel_getElem? hchildren position
    simp only [Element.at?]
    generalize children[position]? = place, children'[position]? = place' at hplace
    cases hplace with
    | none => rfl
    | some hchild => exact ih hchild

end Relaid

theorem tail_modifyAt {f : Element → Element} (hf : ∀ e, (f e).tail = e.tail)
    (positions : List Nat) (element : Element) :
    (element.modifyAt f positions).tail = element.tail := by
  cases positions with
  | nil => exact hf element
  | cons position rest => rfl

end Element

/-! ## Layouts of a document -/

namespace Document

/-- Two layouts of one document. What follows the root is no place to fill. -/
structure Relaid (document document' : Document) : Prop where
  scope : document'.scope = document.scope
  root : document.root.Relaid document'.root
  tail : document'.root.tail = document.root.tail

variable {document document' : Document}

namespace Relaid

theorem refl (document : Document) : document.Relaid document :=
  ⟨rfl, .refl _, rfl⟩

theorem trans {document'' : Document} (h : document.Relaid document')
    (h' : document'.Relaid document'') : document.Relaid document'' :=
  ⟨h'.scope.trans h.scope, h.root.trans h'.root, h'.tail.trans h.tail⟩

theorem indented (document : Document) : document.Relaid document.indented :=
  ⟨rfl, .indented _ _, Element.tail_indented _ _⟩

/-- Indentation forgets the layout that a document had. -/
theorem indented_eq (h : document.Relaid document') : document.indented = document'.indented := by
  have hself (element : Element) :
      { element.indented 0 with tail := element.tail } = element.indented 0 := by
    rw [← element.tail_indented 0]
    cases element.indented 0
    rfl
  have hroot : document.root.indented 0 = document'.root.indented 0 := by
    rw [← hself document.root, ← hself document'.root, h.tail]
    exact h.root.indented_eq 0 _
  rw [Document.indented, Document.indented, h.scope, hroot]

theorem modifyRoot {f : Element → Element} (h : document.Relaid document')
    (hf : ∀ {e e'}, e.Relaid e' → (f e).Relaid (f e')) (htail : ∀ e, (f e).tail = e.tail)
    (positions : List Nat) :
    Relaid { document with root := document.root.modifyAt f positions }
      { document' with root := document'.root.modifyAt f positions } where
  scope := h.scope
  root := h.root.modifyAt hf positions
  tail := by simp only [Element.tail_modifyAt htail, h.tail]

theorem append (h : document.Relaid document') (positions : List Nat) (fragment : Fragment) :
    (document.append positions fragment).1.Relaid (document'.append positions fragment).1 ∧
      (document.append positions fragment).2 = (document'.append positions fragment).2 := by
  refine ⟨h.modifyRoot (fun he => he.extend _) (fun _ => rfl) positions, ?_⟩
  simp only [Document.append, h.root.length_at?]

theorem setAttribute (h : document.Relaid document') (positions : List Nat) (name value : String) :
    (∃ changed changed', document.setAttributeAt positions name value = .ok changed ∧
      document'.setAttributeAt positions name value = .ok changed' ∧ changed.Relaid changed') ∨
    ∃ failure, document.setAttributeAt positions name value = .error failure ∧
      document'.setAttributeAt positions name value = .error failure := by
  unfold setAttributeAt
  rw [h.scope]
  cases Scope.checkText name value with
  | error failure => exact .inr ⟨failure, rfl, rfl⟩
  | ok _ =>
    cases document.scope.check name with
    | error failure => exact .inr ⟨failure, rfl, rfl⟩
    | ok _ =>
      have hchanged := h.modifyRoot (f := (·.setAttribute name value))
        (fun he => he.setAttribute name value) (fun _ => rfl) positions
      rw [h.scope] at hchanged
      exact .inl ⟨_, _, rfl, rfl, hchanged⟩

/-- A call that builds does the same to two layouts of one document, and gives back the same. -/
theorem call_of_builds (codecs : Text.Codecs) (h : document.Relaid document') {call : Call}
    (hbuilds : call.builds) :
    (document.call codecs call).1.Relaid (document'.call codecs call).1 ∧
      (document.call codecs call).2 = (document'.call codecs call).2 := by
  cases call with
  | child positions name text attributes =>
    obtain ⟨hleft, hreply⟩ := h.append positions (document.scope.leaf name text attributes)
    simp only [call, h.scope]
    exact ⟨hleft, congrArg _ hreply⟩
  | children positions name texts =>
    obtain ⟨hleft, hreply⟩ := h.append positions (document.scope.leaves name texts)
    simp only [call, h.scope]
    exact ⟨hleft, congrArg _ hreply⟩
  | set positions name value =>
    simp only [call]
    obtain ⟨changed, changed', hset, hset', hchanged⟩ | ⟨failure, hset, hset'⟩ :=
      h.setAttribute positions name value
    · rw [hset, hset']
      exact ⟨hchanged, rfl⟩
    · rw [hset, hset']
      exact ⟨h, rfl⟩
  | serialize encoding indent => cases hbuilds

/-- Calls leave a layout of what those of them that build leave. -/
theorem after_filter (codecs : Text.Codecs) (h : document.Relaid document')
    (calls : List Call) :
    (document.after codecs (calls.filter Call.builds)).Relaid (document'.after codecs calls) := by
  induction calls generalizing document document' with
  | nil => exact h
  | cons first rest ih =>
    by_cases hbuilds : first.builds
    · rw [List.filter_cons_of_pos hbuilds]
      exact ih (h.call_of_builds codecs hbuilds).1
    · rw [List.filter_cons_of_neg hbuilds]
      cases first with
      | serialize encoding indent =>
        cases indent with
        | true => exact ih (h.trans (.indented _))
        | false => exact ih h
      | child | children | set => exact absurd rfl hbuilds

end Relaid

/-- Whatever is built and however often the document is serialized meanwhile, indented it is
written as if it had never been serialized before; written once more as it stands, it is the same;
and indentation gives it another layout and nothing else. -/
theorem layout_alone (codecs : Text.Codecs) (document : Document) (calls : List Call)
    (encoding : String) :
    ((document.after codecs calls).call codecs (.serialize encoding true)).2 =
        ((document.after codecs (calls.filter Call.builds)).call codecs
          (.serialize encoding true)).2 ∧
      ((document.after codecs (calls ++ [.serialize encoding true])).call codecs
          (.serialize encoding false)).2 =
        ((document.after codecs calls).call codecs (.serialize encoding true)).2 ∧
      (document.after codecs calls).Relaid (document.after codecs calls).indented := by
  refine ⟨?_, ?_, .indented _⟩
  · have hbuilt := (Relaid.refl document).after_filter codecs calls
    simp only [call, payload, if_true, hbuilt.indented_eq]
  · rw [after, List.foldl_append]
    rfl

end Document

end WebCoverage.Xml
