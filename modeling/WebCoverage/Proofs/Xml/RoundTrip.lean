import WebCoverage.Proofs.AllOrNothing
import WebCoverage.Proofs.Xml.Reading

/-! Documents read back. Whatever steps a document is built in, no step leaves an element without a
name, an attribute twice or a text outside the root (`Document.Built.named`), and a reader finds the
way through the markup of such a tree. So what was written is what is read
(`Document.read?_payload`), and the content of texts and values is never taken for markup. -/

namespace WebCoverage.Xml

open Text (Charset)

/-! ## Building -/

/-- The documents that can be built. A step that fails leaves in the document what it has put
there. -/
inductive Document.Built : Document → Prop
  | create {scope : Scope} {document : Document} (name : String) (version : Option String) :
      (scope.bindings.map Prod.fst).Nodup → create name scope version = .ok document →
      Built document
  | child {document : Document} (positions : List Nat) (name text : String)
      (attributes : List (String × String)) : Built document →
      Built (document.append positions (document.scope.leaf name text attributes)).1
  | children {document : Document} (positions : List Nat) (name : String) (texts : List String) :
      Built document → Built (document.append positions (document.scope.leaves name texts)).1
  | set {document changed : Document} (positions : List Nat) (name value : String) :
      Built document → document.setAttributeAt positions name value = .ok changed → Built changed

/-- An element that has a name, as its attributes have, of which none is there twice. Nothing
follows it. -/
structure Element.Named (node : Element) : Prop where
  name : node.name ≠ ""
  attributes : ∀ entry ∈ node.attributes, entry.1 ≠ ""
  nodup : (node.attributes.map Prod.fst).Nodup
  tail : node.tail = ""

variable {scope : Scope} {node : Element} {name value : String}

theorem Scope.ne_empty_of_check (h : scope.check name = .ok ()) : name ≠ "" := by
  rintro rfl
  cases h

theorem Scope.Admits.named (h : scope.Admits node) : node.Named :=
  ⟨ne_empty_of_check h.name, fun entry hentry => ne_empty_of_check (h.attributes entry hentry).2,
    h.nodup, h.tail⟩

theorem Element.Named.withChildren (h : node.Named) (children : List Element) :
    { node with children := children }.Named :=
  ⟨h.name, h.attributes, h.nodup, h.tail⟩

theorem Element.Named.setAttribute (h : node.Named) (hname : name ≠ "") :
    (node.setAttribute name value).Named := by
  refine ⟨h.name, fun entry hentry => ?_, Assoc.nodup_put h.nodup, h.tail⟩
  obtain rfl | hold := Assoc.mem_of_mem_put hentry
  · exact hname
  · exact h.attributes entry hold

namespace Document

variable {document : Document}

/-! ## What building keeps -/

private theorem declaration_ne_empty (binding : String × String) :
    (declaration binding).1 ≠ "" := by
  unfold declaration
  split <;> simp

private theorem xmlns_append_ne (space : String) :
    "xmlns:" ++ space ≠ "version" ∧ "xmlns:" ++ space ≠ "xmlns" := by
  constructor <;>
    · intro h
      have := congrArg String.toList h
      simp at this

private theorem declaration_ne_version (binding : String × String) :
    (declaration binding).1 ≠ "version" := by
  unfold declaration
  split
  · simp
  · exact (xmlns_append_ne binding.1).1

private theorem declaration_injective {binding other : String × String}
    (h : (declaration binding).1 = (declaration other).1) : binding.1 = other.1 := by
  unfold declaration at h
  split at h <;> split at h
  · next hbinding hother => rw [String.isEmpty_iff.1 hbinding, String.isEmpty_iff.1 hother]
  · exact absurd h.symm (xmlns_append_ne other.1).2
  · exact absurd h (xmlns_append_ne binding.1).2
  · exact (String.append_right_inj _).1 h

private theorem nodup_declarations {bindings : List (String × String)}
    (h : (bindings.map Prod.fst).Nodup) : ((bindings.map declaration).map Prod.fst).Nodup := by
  rw [List.map_map]
  rw [List.Nodup, List.pairwise_map] at h ⊢
  exact h.imp fun hne heq => hne (declaration_injective heq)

private theorem named_create {version : Option String}
    (hscope : (scope.bindings.map Prod.fst).Nodup)
    (h : create name scope version = .ok document) :
    ∀ node ∈ document.root.subtree, node.Named := by
  unfold create at h
  cases hname : scope.check name with
  | error failure => rw [hname] at h; cases h
  | ok _ =>
    rw [hname] at h
    cases h
    have hnodup := nodup_declarations hscope
    -- The version stands after the declarations, all of which start with `xmlns`.
    have hdeclarations : ∀ entry ∈ scope.bindings.map declaration,
        entry.1 ≠ "" ∧ entry.1 ≠ "version" := by
      simp only [List.forall_mem_map]
      exact fun binding _ => ⟨declaration_ne_empty binding, declaration_ne_version binding⟩
    refine Element.forall_subtree_iff.2 ⟨⟨Scope.ne_empty_of_check hname, ?_, ?_, rfl⟩,
      List.forall_mem_nil _⟩
    · refine List.forall_mem_append.2 ⟨fun entry hentry => (hdeclarations entry hentry).1, ?_⟩
      cases version <;> simp
    · cases version with
      | none => simpa using hnodup
      | some version =>
        rw [List.map_append, List.nodup_append]
        refine ⟨hnodup, by simp, fun key hkey other hother => ?_⟩
        obtain ⟨entry, hentry, rfl⟩ := List.mem_map.1 hkey
        rw [show other = "version" by simpa using hother]
        exact (hdeclarations entry hentry).2

private theorem named_append (positions : List Nat) {fragment : Fragment}
    (hfragment : Composed (fun _ => True) scope fragment)
    (h : ∀ node ∈ document.root.subtree, node.Named) :
    ∀ node ∈ (document.append positions fragment).1.root.subtree, node.Named := by
  refine Element.forall_subtree_modifyAt (fun e children he => he.withChildren children)
    (fun e he => ?_) positions h
  obtain ⟨hself, hchildren⟩ := Element.forall_subtree_iff.1 he
  refine Element.forall_subtree_iff.2 ⟨hself.withChildren _, ?_⟩
  refine List.forall_mem_append.2 ⟨hchildren, fun child hchild node hnode => ?_⟩
  exact (hfragment.admits child hchild node hnode).named

private theorem named_setAttributeAt {changed : Document} {positions : List Nat}
    (hset : document.setAttributeAt positions name value = .ok changed)
    (h : ∀ node ∈ document.root.subtree, node.Named) :
    ∀ node ∈ changed.root.subtree, node.Named := by
  unfold setAttributeAt at hset
  cases hvalue : Scope.checkText name value with
  | error failure => rw [hvalue] at hset; cases hset
  | ok _ =>
    cases hname : document.scope.check name with
    | error failure => rw [hvalue, hname] at hset; cases hset
    | ok _ =>
      rw [hvalue, hname] at hset
      cases hset
      refine Element.forall_subtree_modifyAt (fun e children he => he.withChildren children)
        (fun e he => ?_) positions h
      obtain ⟨hself, hchildren⟩ := Element.forall_subtree_iff.1 he
      exact Element.forall_subtree_iff.2
        ⟨hself.setAttribute (Scope.ne_empty_of_check hname), hchildren⟩

theorem Built.named (h : document.Built) : ∀ node ∈ document.root.subtree, node.Named := by
  induction h with
  | create name version hscope hcreate => exact named_create hscope hcreate
  | child positions name text attributes _ ih =>
    exact named_append positions (.leaf name text attributes) ih
  | children positions name texts _ ih => exact named_append positions (.leaves name texts) ih
  | set positions name value _ hset ih => exact named_setAttributeAt hset ih

/-! ## Reading -/

private theorem skip_append {text : List Char} (h : '?' ∉ text) (rest : List Char) :
    afterDeclaration?.skip (text ++ '?' :: '>' :: rest) = some rest := by
  induction text with
  | nil => rfl
  | cons c text ih =>
    rw [List.mem_cons, not_or] at h
    rw [List.cons_append, afterDeclaration?.skip]
    · exact ih h.2
    · rintro _ rfl
      exact absurd rfl h.1

/-- A reader of a document leaves its declaration behind. -/
theorem afterDeclaration?_chars {encoding : String} (h : '?' ∉ encoding.toList)
    (markup : List Char) :
    afterDeclaration? ("<?xml version='1.0' encoding='".toList ++ encoding.toList ++
      "'?>\n".toList ++ markup) = some ('\n' :: markup) := by
  let between := "xml version='1.0' encoding='".toList ++ encoding.toList ++ ['\'']
  have hbetween : '?' ∉ between := by
    simp only [between, List.mem_append, List.mem_singleton, not_or]
    exact ⟨⟨by decide, h⟩, by decide⟩
  have htext : "<?xml version='1.0' encoding='".toList ++ encoding.toList ++ "'?>\n".toList ++
      markup = '<' :: '?' :: (between ++ '?' :: '>' :: '\n' :: markup) := by
    simp [between]
  rw [htext]
  exact skip_append hbetween ('\n' :: markup)

/-- A tree with names that a reader can tell from its markup is what a reader finds in what was
written of it. -/
theorem read?_of_readable {encoding : String} {charset : Charset}
    (hcharset : charset ∈ Charset.common) (hname : Charset.ofName? encoding = some charset)
    (hascii : encoding.toList.all (·.toNat < 0x80)) (hquestion : '?' ∉ encoding.toList)
    (hreadable : ∀ node ∈ document.root.subtree, node.Readable) (htail : document.root.tail = "") :
    read? encoding (charset.write (document.chars encoding)) = some document.root := by
  have hdeclaration : ("<?xml version='1.0' encoding='".toList ++ encoding.toList ++
      "'?>\n".toList).flatMap charset.spelled =
      "<?xml version='1.0' encoding='".toList ++ encoding.toList ++ "'?>\n".toList := by
    refine flatMap_spelled hcharset ?_
    simp only [List.all_append, Bool.and_eq_true]
    exact ⟨⟨by decide, hascii⟩, by decide⟩
  have hread : charset.read? (charset.write (document.chars encoding)) =
      some ("<?xml version='1.0' encoding='".toList ++ encoding.toList ++ "'?>\n".toList ++
        document.root.chars.flatMap charset.spelled) := by
    unfold chars
    rw [Charset.read?_write hcharset, List.flatMap_append, hdeclaration]
  have hmarkup := afterDeclaration?_chars hquestion (document.root.chars.flatMap charset.spelled)
  have hstart : Reader.start.step '\n' = some ⟨.content, ⟨"", [], "\n", [], ""⟩, []⟩ := rfl
  have hroot := Reader.run_chars hcharset document.root hreadable ⟨"", [], "\n", [], ""⟩ []
  have hbeside : ∀ root : Element, root.tail = "" →
      Reader.root? ⟨.content, ⟨"", [], "\n", [root], ""⟩, []⟩ = some root := by
    rintro ⟨name, attributes, text, children, tail⟩ rfl
    rfl
  simp only [read?, hname, hread, hmarkup, Reader.run_of_step hstart, hroot, bind, Option.bind]
  exact hbeside document.root htail

theorem Built.readable (h : document.Built)
    (hnames : ∀ node ∈ document.root.subtree, ∀ name ∈ node.name :: node.attributes.map Prod.fst,
      ∀ c ∈ name.toList, isNameChar c) :
    ∀ node ∈ document.root.subtree, node.Readable := by
  intro node hnode
  obtain ⟨hname, hattributes⟩ := List.forall_mem_cons.1 (hnames node hnode)
  have hnamed := h.named node hnode
  refine ⟨⟨hnamed.name, hname⟩, fun entry hentry => ?_, hnamed.nodup⟩
  exact ⟨hnamed.attributes entry hentry, hattributes entry.1 (List.mem_map_of_mem hentry)⟩

/-- A document whose names are made of name characters is written as it stands in such a way that a
reader finds it again, whatever characters its texts and values hold. -/
theorem read?_payload {encoding : String} (codecs : Text.Codecs) (hbuilt : document.Built)
    (hnames : ∀ node ∈ document.root.subtree, ∀ name ∈ node.name :: node.attributes.map Prod.fst,
      ∀ c ∈ name.toList, isNameChar c)
    (hencoding : encoding ∈ Settings.commonEncodings) :
    ∃ content, document.payload codecs encoding false = .ok (.bytes content) ∧
      read? encoding content = some document.root := by
  obtain ⟨charset, hcharset, hname, hserialize⟩ := exists_serialize hencoding
  have hplain : ∀ encoding ∈ Settings.commonEncodings,
      encoding.toList.all (·.toNat < 0x80) ∧ '?' ∉ encoding.toList := by decide
  obtain ⟨hascii, hquestion⟩ := hplain encoding hencoding
  have htail := (hbuilt.named _ document.root.self_mem_subtree).tail
  exact ⟨_, hserialize document codecs, read?_of_readable hcharset hname hascii hquestion
    (hbuilt.readable hnames) htail⟩

/-- A document with a title and a link that look like markup. -/
def disguised : Document :=
  let empty : Document := ⟨.service, { Element.bare "Capabilities" with
    attributes := Scope.service.bindings.map declaration ++ [("version", "1.1.0")] }⟩
  (empty.append [] (Scope.service.leaf "ows:Title" "</ows:Title> 5€ &#8364;<a b='&amp;'/>\r\n"
    [("xlink:href", "\"/><a b='&lt;'\t")])).1

theorem read?_payload_disguised :
    ∃ content, disguised.payload .none "US-ASCII" false = .ok (.bytes content) ∧
      read? "US-ASCII" content = some disguised.root := by
  have hcreate : Built ⟨.service, { Element.bare "Capabilities" with
      attributes := Scope.service.bindings.map declaration ++ [("version", "1.1.0")] }⟩ :=
    .create "Capabilities" (some "1.1.0") (by decide) rfl
  have hbuilt : disguised.Built := hcreate.child [] _ _ _
  have hnames : disguised.root.subtree.all fun node =>
      (node.name :: node.attributes.map Prod.fst).all (·.toList.all isNameChar) := by
    decide +kernel
  simp only [List.all_eq_true] at hnames
  exact read?_payload .none hbuilt hnames (by decide)

end Document

end WebCoverage.Xml
