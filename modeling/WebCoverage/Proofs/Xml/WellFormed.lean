import WebCoverage.Proofs.Xml.Composition
import WebCoverage.Xml.Document

/-! Documents that XML 1.0 allows, as far as their characters and their prefixes go. A scope's
builders check every name, every text and every value but those on the root, where the version is
written as it comes. So a document is well-formed if its version can be carried
(`Document.Framed.wellFormed_iff_isWritableText`), and indenting it changes nothing about that
(`Document.Framed.indented`). -/

namespace WebCoverage.Xml

/-- The code points of the characters of a document in the grammar of XML 1.0. -/
def isCharCode (code : Nat) : Bool :=
  code == 0x9 || code == 0xA || code == 0xD || (0x20 ≤ code && code ≤ 0xD7FF) ||
    (0xE000 ≤ code && code ≤ 0xFFFD) || (0x10000 ≤ code && code ≤ 0x10FFFF)

def isChar (c : Char) : Bool :=
  isCharCode c.toNat

/-- A code point that is half of a pair, and no character. -/
def IsSurrogate (code : Nat) : Prop :=
  0xD800 ≤ code ∧ code < 0xE000

/-- The check lets through what XML allows and the surrogates, which XML does not allow. -/
theorem isWritableCode_iff {code : Nat} (h : code < 0x110000) :
    isWritableCode code ↔ isCharCode code ∨ IsSurrogate code := by
  simp only [isWritableCode, isCharCode, IsSurrogate, Bool.not_eq_true', Bool.or_eq_false_iff,
    Bool.and_eq_false_iff, Bool.or_eq_true, Bool.and_eq_true, decide_eq_true_eq,
    decide_eq_false_iff_not, beq_iff_eq, beq_eq_false_iff_ne]
  omega

theorem IsSurrogate.not_isValidChar {code : Nat} (h : IsSurrogate code) : ¬code.isValidChar := by
  obtain ⟨hlow, hhigh⟩ := h
  rintro (hbefore | ⟨hafter, -⟩) <;> omega

theorem not_isSurrogate_toNat (c : Char) : ¬IsSurrogate c.toNat :=
  fun h => h.not_isValidChar c.valid

/-- No character is a surrogate, so of a character the check tells whether XML allows it. -/
theorem isWritable_eq_isChar (c : Char) : isWritable c = isChar c := by
  have hbound : c.toNat < 0x110000 := by
    have hvalid : c.toNat < 0xD800 ∨ (0xDFFF < c.toNat ∧ c.toNat < 0x110000) := c.valid
    omega
  rw [Bool.eq_iff_iff]
  exact (isWritableCode_iff hbound).trans (or_iff_left (not_isSurrogate_toNat c))

theorem isWritableText_iff {text : String} :
    isWritableText text ↔ ∀ c ∈ text.toList, isChar c := by
  simp only [isWritableText, List.all_eq_true, isWritable_eq_isChar]

/-! ## Well-formed documents -/

/-- No prefix, or one that is declared on the element. -/
def Element.Binds (root : Element) (space : String) : Prop :=
  space = "" ∨ "xmlns:" ++ space ∈ root.attributes.map Prod.fst

/-- What a document with the given root can hold. Declarations are names with a prefix of their
own. -/
structure Element.Holds (root node : Element) : Prop where
  name : root.Binds (Scope.splitName node.name).1
  attributes : ∀ entry ∈ node.attributes,
    (Scope.splitName entry.1).1 = "xmlns" ∨ root.Binds (Scope.splitName entry.1).1
  values : ∀ entry ∈ node.attributes, ∀ c ∈ entry.2.toList, isChar c
  text : ∀ c ∈ node.text.toList, isChar c
  tail : ∀ c ∈ node.tail.toList, isChar c

instance (root : Element) (space : String) : Decidable (root.Binds space) :=
  inferInstanceAs (Decidable (_ ∨ _))

instance (root node : Element) : Decidable (root.Holds node) :=
  decidable_of_iff
    (root.Binds (Scope.splitName node.name).1 ∧
      (∀ entry ∈ node.attributes,
        (Scope.splitName entry.1).1 = "xmlns" ∨ root.Binds (Scope.splitName entry.1).1) ∧
      (∀ entry ∈ node.attributes, entry.2.toList.all isChar) ∧
      node.text.toList.all isChar ∧ node.tail.toList.all isChar) <| by
    simp only [List.all_eq_true]
    exact ⟨fun ⟨hname, hattributes, hvalues, htext, htail⟩ =>
        ⟨hname, hattributes, hvalues, htext, htail⟩,
      fun ⟨hname, hattributes, hvalues, htext, htail⟩ =>
        ⟨hname, hattributes, hvalues, htext, htail⟩⟩

def Document.WellFormed (document : Document) : Prop :=
  ∀ node ∈ document.root.subtree, document.root.Holds node

/-! ## Indentation -/

namespace Element

variable {p : Element → Prop} {level : Nat}

private theorem mem_indentedChildren {children : List Element} {child : Element}
    (h : child ∈ indentedChildren level children) :
    ∃ before ∈ children, ∃ after, child = { before.indented (level + 1) with
      tail := fillBlank (lineStart after) (before.indented (level + 1)).tail } := by
  induction children with
  | nil => cases h
  | cons first rest ih =>
    rw [indentedChildren] at h
    obtain rfl | h := List.mem_cons.1 h
    · exact ⟨first, List.mem_cons_self, _, rfl⟩
    · obtain ⟨before, hbefore, after, rfl⟩ := ih h
      exact ⟨before, List.mem_cons_of_mem _ hbefore, after, rfl⟩

section

variable (hchildren : ∀ e children, p e → p { e with children := children })
  (htext : ∀ e level, p e → p { e with text := fillBlank (lineStart level) e.text })

include hchildren htext

private theorem of_indented {element : Element} (h : p element) : p (element.indented level) := by
  obtain ⟨name, attributes, text, children, tail⟩ := element
  cases children with
  | nil => exact h
  | cons first rest =>
    rw [indented]
    exact hchildren _ _ (htext _ (level + 1) h)

/-- Inside an element indentation keeps what filling blank places keeps. -/
theorem forall_inside_indented
    (htail : ∀ e level, p e → p { e with tail := fillBlank (lineStart level) e.tail })
    {element : Element} (h : ∀ child ∈ element.children, ∀ node ∈ child.subtree, p node) :
    ∀ child ∈ (element.indented level).children, ∀ node ∈ child.subtree, p node := by
  induction element using Element.induction generalizing level with
  | element element ih =>
    obtain ⟨name, attributes, text, children, tail⟩ := element
    cases children with
    | nil => exact h
    | cons first rest =>
      rw [indented]
      intro child hchild
      obtain ⟨before, hbefore, after, rfl⟩ := mem_indentedChildren hchild
      obtain ⟨hself, hinside⟩ := forall_subtree_iff.1 (h before hbefore)
      exact forall_subtree_iff.2
        ⟨htail _ after (of_indented hchildren htext hself), ih before hbefore hinside⟩

end

end Element

theorem isWritableText_fillBlank {text : String} (level : Nat) (h : isWritableText text) :
    isWritableText (Element.fillBlank (Element.lineStart level) text) := by
  unfold Element.fillBlank
  split
  · have hspace : isWritable ' ' := by decide
    have hend : isWritable '\n' := by decide
    simp [isWritableText, Element.lineStart, hspace, hend]
  · exact h

/-! ## Documents of a scope -/

variable {scope : Scope} {node : Element} {version : String}

/-- An element whose names the scope takes and whose texts and values can be carried. -/
structure Scope.Carries (scope : Scope) (node : Element) : Prop where
  name : scope.check node.name = .ok ()
  attributes : ∀ entry ∈ node.attributes, scope.Accepts entry
  text : isWritableText node.text
  tail : isWritableText node.tail

theorem Scope.Admits.carries (h : scope.Admits node) : scope.Carries node :=
  ⟨h.name, h.attributes, h.text, h.tail ▸ rfl⟩

/-- The declarations of the scope, a version and attributes that the scope takes stand on the root,
and elements that the scope takes stand in it. -/
structure Document.Framed (scope : Scope) (version : String) (document : Document) : Prop where
  scope_eq : document.scope = scope
  name : scope.check document.root.name = .ok ()
  attributes : ∃ more, document.root.attributes =
    scope.bindings.map declaration ++ ("version", version) :: more ∧
      ∀ entry ∈ more, scope.Accepts entry
  text : isWritableText document.root.text
  tail : isWritableText document.root.tail
  children : ∀ child ∈ document.root.children, ∀ node ∈ child.subtree, scope.Carries node

namespace Document

variable {document : Document}

theorem Framed.indented (h : document.Framed scope version) :
    document.indented.Framed scope version := by
  have hinside : ∀ child ∈ (document.root.indented 0).children, ∀ node ∈ child.subtree,
      scope.Carries node :=
    Element.forall_inside_indented (fun e children he => ⟨he.name, he.attributes, he.text, he.tail⟩)
      (fun e level he => ⟨he.name, he.attributes, isWritableText_fillBlank level he.text, he.tail⟩)
      (fun e level he => ⟨he.name, he.attributes, he.text, isWritableText_fillBlank level he.tail⟩)
      h.children
  obtain ⟨scope', name, attributes, text, children, tail⟩ := document
  cases children with
  | nil => exact h
  | cons first rest =>
    unfold Document.indented
    dsimp only at hinside ⊢
    rw [Element.indented] at hinside ⊢
    exact ⟨h.scope_eq, h.name, h.attributes, isWritableText_fillBlank 1 h.text, h.tail, hinside⟩

private theorem binds_of_declared {root : Element} {binding : String × String}
    (h : declaration binding ∈ root.attributes) : root.Binds binding.1 := by
  by_cases hempty : binding.1.isEmpty
  · exact .inl (String.isEmpty_iff.1 hempty)
  · have hname : (declaration binding).1 = "xmlns:" ++ binding.1 := by
      rw [declaration, if_neg hempty]
    exact .inr (hname ▸ List.mem_map_of_mem h)

private theorem binds_of_check {root : Element} {name : String}
    (hroot : ∀ binding ∈ scope.bindings, declaration binding ∈ root.attributes)
    (h : scope.check name = .ok ()) : root.Binds (Scope.splitName name).1 := by
  by_cases hempty : (Scope.splitName name).1.isEmpty
  · exact .inl (String.isEmpty_iff.1 hempty)
  · have hbinds : scope.binds (Scope.splitName name).1 := by
      by_contra hno
      rw [Bool.not_eq_true] at hempty hno
      simp only [Scope.check, hempty, hno] at h
      cases h
    obtain ⟨binding, hbinding, hspace⟩ := List.any_eq_true.1 hbinds
    exact of_decide_eq_true hspace ▸ binds_of_declared (hroot binding hbinding)

private theorem holds_of_carries {root : Element}
    (hroot : ∀ binding ∈ scope.bindings, declaration binding ∈ root.attributes)
    (h : scope.Carries node) : root.Holds node where
  name := binds_of_check hroot h.name
  attributes entry hentry := .inr (binds_of_check hroot (h.attributes entry hentry).2)
  values entry hentry := isWritableText_iff.1 (h.attributes entry hentry).1
  text := isWritableText_iff.1 h.text
  tail := isWritableText_iff.1 h.tail

/-- The version is all that can keep such a document from being well-formed. -/
theorem Framed.wellFormed_iff_isWritableText (h : document.Framed scope version)
    (hscope : ∀ entry ∈ scope.bindings.map declaration,
      isWritableText entry.2 ∧ (Scope.splitName entry.1).1 ∈ ["", "xmlns"]) :
    document.WellFormed ↔ isWritableText version := by
  obtain ⟨more, hattributes, hmore⟩ := h.attributes
  have hroot : ∀ binding ∈ scope.bindings, declaration binding ∈ document.root.attributes := by
    intro binding hbinding
    rw [hattributes]
    exact List.mem_append_left _ (List.mem_map_of_mem hbinding)
  constructor
  · intro hwell
    refine isWritableText_iff.2
      ((hwell _ document.root.self_mem_subtree).values ("version", version) ?_)
    simp [hattributes]
  · intro hversion
    refine Element.forall_subtree_iff.2 ⟨⟨binds_of_check hroot h.name, ?_, ?_,
      isWritableText_iff.1 h.text, isWritableText_iff.1 h.tail⟩,
      fun child hchild node hnode => holds_of_carries hroot (h.children child hchild node hnode)⟩
    · rw [hattributes]
      simp only [List.forall_mem_append, List.forall_mem_cons]
      refine ⟨fun entry hentry => ?_, .inr (.inl (by decide)), fun entry hentry => ?_⟩
      · have hspace := (hscope entry hentry).2
        simp only [List.mem_cons, List.not_mem_nil, or_false] at hspace
        exact hspace.elim (fun heq => .inr (.inl heq)) .inl
      · exact .inr (binds_of_check hroot (hmore entry hentry).2)
    · rw [hattributes]
      simp only [List.forall_mem_append, List.forall_mem_cons]
      exact ⟨fun entry hentry => isWritableText_iff.1 (hscope entry hentry).1,
        isWritableText_iff.1 hversion,
        fun entry hentry => isWritableText_iff.1 (hmore entry hentry).1⟩

theorem framed_create {name : String} (h : create name scope (some version) = .ok document) :
    document.Framed scope version := by
  unfold create at h
  cases hname : scope.check name with
  | error failure => rw [hname] at h; cases h
  | ok _ =>
    rw [hname] at h
    cases h
    exact ⟨rfl, hname, ⟨[], rfl, List.forall_mem_nil _⟩, rfl, rfl, List.forall_mem_nil _⟩

/-- The body of a document is what builders leave. -/
theorem Framed.withBody {allowed : Failure → Prop} {empty : Document} {body : Fragment}
    (hempty : empty.Framed scope version) (hbody : Composed allowed scope body)
    (h : empty.withBody body = .ok document) : document.Framed scope version := by
  unfold Document.withBody at h
  cases hfailure : body.failure with
  | some failure => rw [hfailure] at h; cases h
  | none =>
    rw [hfailure] at h
    cases h
    exact ⟨hempty.scope_eq, hempty.name, hempty.attributes, hempty.text, hempty.tail,
      fun child hchild node hnode => (hbody.admits child hchild node hnode).carries⟩

theorem framed_of_body {allowed : Failure → Prop} {name : String} {body : Fragment}
    (hbody : Composed allowed scope body)
    (h : (do (← create name scope (some version)).withBody body) = .ok document) :
    document.Framed scope version := by
  obtain ⟨empty, hempty, hfilled⟩ := exists_of_bind_eq_ok h
  exact (framed_create hempty).withBody hbody hfilled

theorem Framed.setRootAttribute {before : Document} {name value : String}
    (hbefore : before.Framed scope version)
    (hname : name ∉ "version" :: (scope.bindings.map declaration).map Prod.fst)
    (h : before.setRootAttribute name value = .ok document) : document.Framed scope version := by
  rw [List.mem_cons, not_or] at hname
  obtain ⟨more, hattributes, hmore⟩ := hbefore.attributes
  unfold Document.setRootAttribute at h
  cases hset : before.scope.setAttribute before.root name value with
  | error failure => rw [hset] at h; cases h
  | ok root =>
    have haccepts := Scope.accepts_of_setAttribute hset
    rw [hset] at h
    cases h
    rw [Scope.setAttribute_of_accepts haccepts] at hset
    cases hset
    rw [hbefore.scope_eq] at haccepts
    refine ⟨hbefore.scope_eq, hbefore.name, ⟨Assoc.put name value more, ?_, fun entry hentry => ?_⟩,
      hbefore.text, hbefore.tail, hbefore.children⟩
    · -- The name is none of the declarations and not the version, which so stay in front.
      change Assoc.put name value before.root.attributes = _
      rw [hattributes, Assoc.put_append hname.2, Assoc.put, if_neg (Ne.symm hname.1)]
    · obtain rfl | hentry := Assoc.mem_of_mem_put hentry
      · exact haccepts
      · exact hmore entry hentry

end Document

end WebCoverage.Xml
