import WebCoverage.Proofs.Xml.Layout

/-! Children that a document rejects. The text and the name of a child are checked before it is
appended, and its attributes are set after that, one at a time. So a child that is rejected for its
text or its name leaves no trace, and one that is rejected for an attribute stays in the document
with the attributes before that one (`Document.untouched_iff`). -/

namespace WebCoverage.Xml

private theorem exists_first {α : Type} {p : α → Prop} {items : List α}
    (h : ¬∀ item ∈ items, p item) :
    ∃ before item after, items = before ++ item :: after ∧ (∀ other ∈ before, p other) ∧
      ¬p item := by
  induction items with
  | nil => exact absurd (List.forall_mem_nil _) h
  | cons first rest ih =>
    by_cases hfirst : p first
    · obtain ⟨before, item, after, rfl, hbefore, hitem⟩ :=
        ih fun hrest => h (List.forall_mem_cons.2 ⟨hfirst, hrest⟩)
      exact ⟨first :: before, item, after, rfl, List.forall_mem_cons.2 ⟨hfirst, hbefore⟩, hitem⟩
    · exact ⟨[], first, rest, rfl, List.forall_mem_nil _, hfirst⟩

/-! ## Where a child is rejected -/

namespace Scope

variable {scope : Scope} {name text : String} {before : List (String × String)}
  {entry : String × String}

/-- A child whose text or name is not taken is not begun. -/
theorem leaf_refused (h : ¬(isWritableText text ∧ scope.check name = .ok ()))
    (attributes : List (String × String)) :
    ∃ failure, scope.leaf name text attributes = .failed failure := by
  unfold leaf checkText
  by_cases htext : isWritableText text
  · rw [if_pos htext]
    cases hname : scope.check name with
    | error failure => exact ⟨failure, rfl⟩
    | ok _ => exact absurd ⟨htext, hname⟩ h
  · rw [if_neg htext]
    exact ⟨_, rfl⟩

/-- Attributes are set up to the first that is not accepted. -/
theorem setAttributes_stopped (name : String) (hbefore : ∀ entry ∈ before, scope.Accepts entry)
    (hentry : ¬scope.Accepts entry) (after : List (String × String)) :
    ∃ failure, scope.setAttributes (.bare name) (before ++ entry :: after) =
      (.ofChildren name (Assoc.ofPairs before) [], some failure) := by
  have hset : scope.setAttributes (.bare name) (before ++ entry :: after) =
      scope.setAttributes (.ofChildren name (Assoc.ofPairs before) []) (entry :: after) :=
    setAttributes_append hbefore
  rw [hset, setAttributes]
  cases hfirst : scope.setAttribute (.ofChildren name (Assoc.ofPairs before) []) entry.1
      entry.2 with
  | ok changed => exact absurd (accepts_of_setAttribute hfirst) hentry
  | error failure => exact ⟨failure, rfl⟩

theorem leaf_stopped (htext : isWritableText text) (hname : scope.check name = .ok ())
    (hbefore : ∀ entry ∈ before, scope.Accepts entry) (hentry : ¬scope.Accepts entry)
    (after : List (String × String)) :
    ∃ failure, scope.leaf name text (before ++ entry :: after) =
      ⟨[.ofChildren name (Assoc.ofPairs before) []], some failure⟩ := by
  obtain ⟨failure, hset⟩ := setAttributes_stopped name hbefore hentry after
  refine ⟨failure, ?_⟩
  simp only [leaf, checkText, if_pos htext, hname, hset]

end Scope

/-! ## What is left in the tree -/

namespace Element

/-- A change at one place is a change of what stands there. -/
theorem at?_modifyAt (f : Element → Element) (positions : List Nat) (element : Element) :
    (element.modifyAt f positions).at? positions = (element.at? positions).map f := by
  induction positions generalizing element with
  | nil => rfl
  | cons position rest ih =>
    simp only [modifyAt, at?, List.getElem?_modify_eq]
    cases element.children[position]? with
    | none => rfl
    | some child => exact ih child

theorem modifyAt_id (positions : List Nat) (element : Element) :
    element.modifyAt id positions = element := by
  induction positions generalizing element with
  | nil => rfl
  | cons position rest ih =>
    have hrest : modifyAt id rest = id := funext ih
    rw [modifyAt, hrest, List.modify_id]
    cases element
    rfl

end Element

namespace Document

variable {document : Document} {positions : List Nat} {parent : Element} {fragment : Fragment}

/-- What is appended to an element of the tree is in the tree. -/
theorem append_eq_self_iff (h : document.root.at? positions = some parent) :
    (document.append positions fragment).1 = document ↔ fragment.elements = [] := by
  constructor
  · intro heq
    have hroot : (document.append positions fragment).1.root.at? positions = some parent := by
      rw [heq, h]
    simp only [append, Element.at?_modifyAt, h, Option.map_some, Option.some.injEq] at hroot
    exact List.append_right_eq_self.1 (congrArg Element.children hroot)
  · intro hnone
    have hextend : (fun element : Element =>
        { element with children := element.children ++ fragment.elements }) = id := by
      funext element
      rw [hnone, List.append_nil]
      cases element
      rfl
    simp only [append, hextend, Element.modifyAt_id]

/-- A child that is rejected for an attribute is in the document, with the attributes before that
one. -/
theorem call_child_stopped {name text : String} {before : List (String × String)}
    {entry : String × String} (codecs : Text.Codecs) (positions : List Nat)
    (htext : isWritableText text) (hname : document.scope.check name = .ok ())
    (hbefore : ∀ entry ∈ before, document.scope.Accepts entry)
    (hentry : ¬document.scope.Accepts entry) (after : List (String × String)) :
    ∃ failure, document.call codecs (.child positions name text (before ++ entry :: after)) =
      ((document.append positions ⟨[.ofChildren name (Assoc.ofPairs before) []], none⟩).1,
        .error failure) := by
  obtain ⟨failure, hleaf⟩ := Scope.leaf_stopped htext hname hbefore hentry after
  refine ⟨failure, ?_⟩
  rw [call, hleaf]
  rfl

/-- A child that is rejected leaves the document as it was if its text or its name is why. If an
attribute is why, the child is in the document, with the attributes before that one. -/
theorem untouched_iff (h : document.root.at? positions = some parent) (codecs : Text.Codecs)
    (name text : String) (attributes : List (String × String)) :
    let called := document.call codecs (.child positions name text attributes)
    ((∀ failure, called.2 = .error failure → called.1 = document) ↔
      (isWritableText text → document.scope.check name = .ok () →
        ∀ entry ∈ attributes, document.scope.Accepts entry)) ∧
    ∀ before entry after, attributes = before ++ entry :: after →
      isWritableText text → document.scope.check name = .ok () →
      (∀ entry ∈ before, document.scope.Accepts entry) → ¬document.scope.Accepts entry →
      ∃ failure, called =
        ((document.append positions ⟨[.ofChildren name (Assoc.ofPairs before) []], none⟩).1,
          .error failure) := by
  refine ⟨⟨fun huntouched htext hname => ?_, fun haccepts failure hfailure => ?_⟩,
    fun before entry after hsplit htext hname hbefore hentry =>
      hsplit ▸ call_child_stopped codecs positions htext hname hbefore hentry after⟩
  · by_contra hattributes
    obtain ⟨before, entry, after, rfl, hbefore, hentry⟩ := exists_first hattributes
    obtain ⟨failure, hcall⟩ := call_child_stopped codecs positions htext hname hbefore hentry after
    rw [hcall] at huntouched
    exact List.cons_ne_nil _ _ ((append_eq_self_iff h).1 (huntouched failure rfl))
  · by_cases htaken : isWritableText text ∧ document.scope.check name = .ok ()
    · -- Everything about the child is taken, so it is not rejected.
      have hnone : (document.scope.leaf name text attributes).failure = none :=
        Scope.failure_leaf_eq_none.2 ⟨htaken.1, htaken.2, haccepts htaken.1 htaken.2⟩
      simp only [call, append, hnone] at hfailure
      cases hfailure
    · obtain ⟨other, hleaf⟩ := Scope.leaf_refused htaken attributes
      simp only [call, hleaf]
      exact (append_eq_self_iff h).2 rfl

/-- A document of capabilities that holds nothing yet but one element without content. -/
def begun : Document :=
  ⟨.service, .ofChildren "Capabilities"
    (Scope.service.bindings.map declaration ++ [("version", "1.1.0")])
    [.ofChildren "Contents" [] []]⟩

/-- A child that is rejected for its text. -/
theorem untouched_begun :
    begun.root.at? [0] = some (.ofChildren "Contents" [] []) ∧
      (begun.call .none (.child [0] "CoverageSummary" "\x01" [])).1 = begun := by
  have hrefused : (begun.call .none (.child [0] "CoverageSummary" "\x01" [])).2 =
      .error (.unwritable "CoverageSummary") := rfl
  have hcontrol : ¬isWritableText "\x01" := by decide
  exact ⟨rfl, (untouched_iff rfl .none "CoverageSummary" "\x01" []).1.2
    (fun htext => absurd htext hcontrol) _ hrefused⟩

/-- A child that is rejected for a link with a control character stays. -/
theorem not_untouched_control_link :
    (begun.call .none (.child [] "ows:Get" "" [("xlink:href", "http://example.com/\x02")])).2 =
        .error (.unwritable "xlink:href") ∧
      (begun.call .none (.child [] "ows:Get" "" [("xlink:href", "http://example.com/\x02")])).1 ≠
        begun := by
  have hcalled : begun.call .none
        (.child [] "ows:Get" "" [("xlink:href", "http://example.com/\x02")]) =
      ({ begun with root := { begun.root with
        children := [.ofChildren "Contents" [] [], .ofChildren "ows:Get" [] []] } },
        .error (.unwritable "xlink:href")) := rfl
  rw [hcalled]
  refine ⟨rfl, fun heq => ?_⟩
  have hlength := congrArg (fun document : Document => document.root.children.length) heq
  exact absurd hlength (by decide)

end Document

end WebCoverage.Xml
