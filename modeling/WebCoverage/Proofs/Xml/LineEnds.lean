import WebCoverage.Proofs.Xml.RoundTrip
import WebCoverage.Proofs.Xml.WellFormed

/-! Line ends in documents that are read. A reader of XML takes every line end for a line feed, and
it does so before it looks at the markup. Values are written in such a way that their line ends come
through, texts are not. So what is read of a document is its tree with line feeds for the line ends
of its texts (`Document.receive?_of_readable`). -/

namespace WebCoverage.Xml

open Text (Charset)

/-! ## Characters -/

/-- The characters with line feeds for line ends: for every carriage return, together with a line
feed that follows it. -/
def withLineFeeds : List Char → List Char
  | [] => []
  | c :: rest =>
    if c = '\r' then
      if rest.head? = some '\n' then withLineFeeds rest else '\n' :: withLineFeeds rest
    else c :: withLineFeeds rest

section

variable {c : Char} {first second text : List Char}

theorem withLineFeeds_cons (h : c ≠ '\r') (rest : List Char) :
    withLineFeeds (c :: rest) = c :: withLineFeeds rest :=
  if_neg h

theorem mem_withLineFeeds (h : c ∈ withLineFeeds text) : c = '\n' ∨ (c ∈ text ∧ c ≠ '\r') := by
  induction text with
  | nil => cases h
  | cons d rest ih =>
    have hrest (h : c ∈ withLineFeeds rest) : c = '\n' ∨ (c ∈ d :: rest ∧ c ≠ '\r') :=
      (ih h).imp_right fun ⟨hmem, hne⟩ => ⟨List.mem_cons_of_mem _ hmem, hne⟩
    unfold withLineFeeds at h
    split at h
    · split at h
      · exact hrest h
      · exact (List.mem_cons.1 h).elim .inl hrest
    · next hd =>
      obtain rfl | h := List.mem_cons.1 h
      · exact .inr ⟨List.mem_cons_self, hd⟩
      · exact hrest h

theorem withLineFeeds_append_of_not_mem (h : '\r' ∉ first) (second : List Char) :
    withLineFeeds (first ++ second) = first ++ withLineFeeds second := by
  induction first with
  | nil => rfl
  | cons c rest ih =>
    rw [List.mem_cons, not_or] at h
    rw [List.cons_append, withLineFeeds_cons (Ne.symm h.1), ih h.2, List.cons_append]

theorem withLineFeeds_eq_self_iff : withLineFeeds text = text ↔ '\r' ∉ text := by
  constructor
  · intro h hreturn
    rw [← h] at hreturn
    obtain heq | ⟨-, hne⟩ := mem_withLineFeeds hreturn
    · contradiction
    · exact hne rfl
  · intro h
    have hall := withLineFeeds_append_of_not_mem h []
    rwa [List.append_nil, withLineFeeds, List.append_nil] at hall

/-- Where no line feed follows, line ends end. -/
theorem withLineFeeds_append (h : second.head? ≠ some '\n') (first : List Char) :
    withLineFeeds (first ++ second) = withLineFeeds first ++ withLineFeeds second := by
  induction first with
  | nil => rfl
  | cons c rest ih =>
    have hhead : (rest ++ second).head? = some '\n' ↔ rest.head? = some '\n' := by
      cases rest with
      | nil => exact iff_of_false h nofun
      | cons d rest => rfl
    rw [List.cons_append, withLineFeeds, withLineFeeds, ih]
    simp only [hhead]
    split
    · split <;> rfl
    · rfl

theorem withLineFeeds_eq_nil_iff : withLineFeeds text = [] ↔ text = [] := by
  refine ⟨fun h => ?_, by rintro rfl; rfl⟩
  induction text with
  | nil => rfl
  | cons c rest ih =>
    unfold withLineFeeds at h
    split at h
    · split at h
      · next hhead => rw [ih h] at hhead; cases hhead
      · cases h
    · cases h

/-- Characters that are written one by one, as themselves or as references, keep their line
ends. -/
theorem withLineFeeds_flatMap {f : Char → List Char} (hreturn : f '\r' = ['\r'])
    (hfeed : f '\n' = ['\n']) (h : ∀ c, f c = [c] ∨ ∃ name, f c = '&' :: name ∧ '\r' ∉ name)
    (text : List Char) :
    withLineFeeds (text.flatMap f) = (withLineFeeds text).flatMap f := by
  induction text with
  | nil => rfl
  | cons c rest ih =>
    have hhead : (rest.flatMap f).head? = some '\n' ↔ rest.head? = some '\n' := by
      cases rest with
      | nil => rfl
      | cons d rest =>
        rw [List.flatMap_cons]
        obtain hself | ⟨name, hname, -⟩ := h d
        · rw [hself]
          rfl
        · rw [hname]
          refine iff_of_false (by simp) fun hd => ?_
          rw [Option.some.inj hd, hfeed] at hname
          simp at hname
    rw [List.flatMap_cons, withLineFeeds]
    by_cases hc : c = '\r'
    · rw [hc, hreturn, List.singleton_append, withLineFeeds, if_pos rfl, if_pos rfl]
      simp only [hhead, ih]
      split
      · rfl
      · rw [List.flatMap_cons, hfeed, List.singleton_append]
    · rw [if_neg hc, List.flatMap_cons, withLineFeeds_append_of_not_mem, ih]
      obtain hself | ⟨name, hname, hclean⟩ := h c
      · rw [hself, List.mem_singleton]
        exact Ne.symm hc
      · rw [hname, List.mem_cons, not_or]
        exact ⟨by decide, hclean⟩

end

/-- The text with line feeds for line ends. -/
def lineFed (text : String) : String :=
  String.ofList (withLineFeeds text.toList)

theorem toList_lineFed (text : String) : (lineFed text).toList = withLineFeeds text.toList :=
  String.toList_ofList

theorem lineFed_eq_self_iff {text : String} : lineFed text = text ↔ '\r' ∉ text.toList := by
  rw [← String.toList_inj, toList_lineFed, withLineFeeds_eq_self_iff]

theorem isEmpty_lineFed (text : String) : (lineFed text).isEmpty = text.isEmpty := by
  rw [Bool.eq_iff_iff, String.isEmpty_iff, String.isEmpty_iff, ← String.toList_eq_nil_iff,
    ← String.toList_eq_nil_iff, toList_lineFed, withLineFeeds_eq_nil_iff]

/-- Line feeds are characters that a document can hold. -/
theorem forall_isChar_lineFed {text : String} (h : ∀ c ∈ text.toList, isChar c) :
    ∀ c ∈ (lineFed text).toList, isChar c := by
  intro c hc
  rw [toList_lineFed] at hc
  obtain rfl | ⟨hmem, -⟩ := mem_withLineFeeds hc
  · decide
  · exact h c hmem

/-! ## Trees -/

namespace Element

mutual

/-- The element with line feeds for the line ends of its texts. -/
def lineFed : Element → Element
  | ⟨name, attributes, text, children, tail⟩ =>
    ⟨name, attributes, Xml.lineFed text, lineFedChildren children, Xml.lineFed tail⟩

def lineFedChildren : List Element → List Element
  | [] => []
  | child :: rest => child.lineFed :: lineFedChildren rest

end

theorem lineFedChildren_eq (children : List Element) :
    lineFedChildren children = children.map lineFed := by
  induction children with
  | nil => rfl
  | cons child rest ih => rw [lineFedChildren, ih, List.map_cons]

theorem lineFed_eq (element : Element) : element.lineFed =
    ⟨element.name, element.attributes, Xml.lineFed element.text, element.children.map lineFed,
      Xml.lineFed element.tail⟩ := by
  obtain ⟨name, attributes, text, children, tail⟩ := element
  rw [lineFed, lineFedChildren_eq]

@[simp]
theorem name_lineFed (element : Element) : element.lineFed.name = element.name := by
  rw [lineFed_eq]

@[simp]
theorem attributes_lineFed (element : Element) :
    element.lineFed.attributes = element.attributes := by
  rw [lineFed_eq]

@[simp]
theorem text_lineFed (element : Element) : element.lineFed.text = Xml.lineFed element.text := by
  rw [lineFed_eq]

@[simp]
theorem tail_lineFed (element : Element) : element.lineFed.tail = Xml.lineFed element.tail := by
  rw [lineFed_eq]

theorem subtree_lineFed (element : Element) :
    element.lineFed.subtree = element.subtree.map lineFed := by
  induction element using Element.induction with
  | element element ih =>
    obtain ⟨name, attributes, text, children, tail⟩ := element
    rw [subtree, List.map_cons, lineFed, subtree, childrenSubtree_eq, childrenSubtree_eq,
      lineFedChildren_eq, List.flatMap_map, List.map_flatMap]
    exact congrArg _ (List.flatMap_congr ih)

theorem forall_subtree_lineFed {p : Element → Prop} {element : Element}
    (h : ∀ node ∈ element.subtree, p node.lineFed) : ∀ node ∈ element.lineFed.subtree, p node := by
  rw [subtree_lineFed]
  exact List.forall_mem_map.2 h

theorem Readable.lineFed {node : Element} (h : node.Readable) : node.lineFed.Readable := by
  obtain ⟨hname, hattributes, hnodup⟩ := h
  exact ⟨by simpa using hname, by simpa using hattributes, by simpa using hnodup⟩

theorem Holds.lineFed {root node : Element} (h : root.Holds node) :
    root.lineFed.Holds node.lineFed := by
  obtain ⟨hname, hattributes, hvalues, htext, htail⟩ := h
  refine ⟨?_, ?_, ?_, ?_, ?_⟩
  · simpa [Binds] using hname
  · simpa [Binds] using hattributes
  · simpa using hvalues
  · simpa using forall_isChar_lineFed htext
  · simpa using forall_isChar_lineFed htail

/-! ## Markup -/

theorem withLineFeeds_textChars (text : String) :
    withLineFeeds (textChars text) = textChars (Xml.lineFed text) := by
  rw [textChars, textChars, toList_lineFed]
  refine withLineFeeds_flatMap rfl rfl (fun c => ?_) text.toList
  unfold textChar
  split
  · exact .inr ⟨_, rfl, by decide⟩
  · exact .inr ⟨_, rfl, by decide⟩
  · exact .inr ⟨_, rfl, by decide⟩
  · exact .inl rfl

theorem not_mem_of_isName {name : String} (h : IsName name) : '\r' ∉ name.toList := fun hmem =>
  absurd (h.chars _ hmem) (by decide)

theorem head?_childrenChars (children : List Element) (rest : List Char)
    (h : rest.head? ≠ some '\n') : (childrenChars children ++ rest).head? ≠ some '\n' := by
  cases children with
  | nil => exact h
  | cons child others =>
    obtain ⟨name, attributes, text, inner, tail⟩ := child
    rw [childrenChars, chars]
    simp

theorem withLineFeeds_childrenChars {children : List Element}
    (h : ∀ child ∈ children, withLineFeeds child.chars = child.lineFed.chars) :
    withLineFeeds (childrenChars children) = childrenChars (lineFedChildren children) := by
  induction children with
  | nil => rfl
  | cons child rest ih =>
    obtain ⟨hchild, hrest⟩ := List.forall_mem_cons.1 h
    have hhead := head?_childrenChars rest [] nofun
    rw [List.append_nil] at hhead
    rw [childrenChars, withLineFeeds_append hhead, hchild, ih hrest, lineFedChildren, childrenChars]

/-- The content of an element, the end tag and what follows it. -/
private theorem withLineFeeds_content (text tail : String) {name : String} {children : List Element}
    (hname : '\r' ∉ name.toList)
    (hchildren : withLineFeeds (childrenChars children) =
      childrenChars (lineFedChildren children)) :
    withLineFeeds ('>' :: textChars text ++ childrenChars children ++
        '<' :: '/' :: name.toList ++ ['>'] ++ textChars tail) =
      '>' :: textChars (Xml.lineFed text) ++ childrenChars (lineFedChildren children) ++
        '<' :: '/' :: name.toList ++ ['>'] ++ textChars (Xml.lineFed tail) := by
  have hend : '\r' ∉ '<' :: '/' :: name.toList ++ ['>'] := by
    simp [hname]
  -- A child starts with a tag, and so does what follows the last one.
  have htag (rest : List Char) :
      ('<' :: '/' :: name.toList ++ ['>'] ++ rest).head? ≠ some '\n' := by simp
  have hsplit (text tail : String) (children : List Element) :
      '>' :: textChars text ++ childrenChars children ++ '<' :: '/' :: name.toList ++ ['>'] ++
        textChars tail =
      '>' :: (textChars text ++ (childrenChars children ++
        ('<' :: '/' :: name.toList ++ ['>'] ++ textChars tail))) := by simp
  rw [hsplit, hsplit, withLineFeeds_cons (by decide),
    withLineFeeds_append (head?_childrenChars children _ (htag _)), withLineFeeds_textChars,
    withLineFeeds_append (htag _), hchildren, withLineFeeds_append_of_not_mem hend,
    withLineFeeds_textChars]

/-- It does not matter whether line ends become line feeds in the markup of a tree or in its
texts. -/
theorem withLineFeeds_chars {element : Element} (h : ∀ node ∈ element.subtree, node.Readable) :
    withLineFeeds element.chars = element.lineFed.chars := by
  induction element using Element.induction with
  | element element ih =>
    obtain ⟨hself, hinside⟩ := forall_subtree_iff.1 h
    obtain ⟨name, attributes, text, children, tail⟩ := element
    have hname : '\r' ∉ name.toList := not_mem_of_isName hself.name
    have hstart : '\r' ∉ '<' :: name.toList ++ attributes.flatMap attributeChars := by
      simp only [List.cons_append, List.mem_cons, List.mem_append, List.mem_flatMap, not_or]
      refine ⟨by decide, hname, fun ⟨entry, hentry, hmem⟩ => ?_⟩
      have hentry := not_mem_of_isName (hself.attributes entry hentry)
      exact not_mem_attributeChars (.inr rfl) hentry hmem
    have hempty : ((Xml.lineFed text).isEmpty && (lineFedChildren children).isEmpty) =
        (text.isEmpty && children.isEmpty) := by
      rw [isEmpty_lineFed, lineFedChildren_eq, List.isEmpty_map]
    have hchildren : withLineFeeds (childrenChars children) =
        childrenChars (lineFedChildren children) :=
      withLineFeeds_childrenChars fun child hchild => ih child hchild (hinside child hchild)
    rw [lineFed, chars, chars, hempty, List.append_assoc _ _ (textChars tail),
      withLineFeeds_append_of_not_mem hstart, List.append_assoc _ _ (textChars (Xml.lineFed tail))]
    refine congrArg _ ?_
    split
    · rw [withLineFeeds_append_of_not_mem (by decide), withLineFeeds_textChars]
    · exact withLineFeeds_content text tail hname hchildren

end Element

/-! ## Reading -/

theorem withLineFeeds_spelled {charset : Charset} (hcharset : charset ∈ Charset.common)
    (text : List Char) :
    withLineFeeds (text.flatMap charset.spelled) =
      (withLineFeeds text).flatMap charset.spelled := by
  refine withLineFeeds_flatMap (Charset.spelled_ascii hcharset (by decide))
    (Charset.spelled_ascii hcharset (by decide)) (fun c => ?_) text
  refine (charset.spelled_eq c).imp_right fun hreference =>
    ⟨'#' :: (Nat.toDigits 10 c.toNat ++ [';']), hreference, ?_⟩
  simp only [List.mem_cons, List.mem_append, List.not_mem_nil, or_false, not_or]
  refine ⟨by decide, fun hdigit => ?_, by decide⟩
  have := Nat.isDigit_of_mem_toDigits (by decide) (by decide) hdigit
  contradiction

namespace Document

/-- The root that a reader of XML finds in bytes in the given encoding, if they are a well-formed
document: what `read?` finds, with line feeds for line ends. -/
def receive? (encoding : String) (content : Bytes) : Option Element := do
  let charset ← Charset.ofName? encoding
  let markup ← afterDeclaration? (withLineFeeds (← charset.read? content))
  let root ← (← Reader.start.run markup).root?
  if ∀ node ∈ root.subtree, root.Holds node then some root else none

/-- The document with line feeds for the line ends of its texts. -/
def lineFed (document : Document) : Document :=
  ⟨document.scope, document.root.lineFed⟩

variable {document : Document} {encoding : String} {charset : Charset}

theorem withLineFeeds_chars (hencoding : '\r' ∉ encoding.toList)
    (hreadable : ∀ node ∈ document.root.subtree, node.Readable) :
    withLineFeeds (document.chars encoding) = document.lineFed.chars encoding := by
  have hdeclaration : '\r' ∉ "<?xml version='1.0' encoding='".toList ++ encoding.toList ++
      "'?>\n".toList := by
    simp only [List.mem_append, not_or]
    exact ⟨⟨by decide, hencoding⟩, by decide⟩
  unfold chars lineFed
  rw [withLineFeeds_append_of_not_mem hdeclaration, Element.withLineFeeds_chars hreadable]

theorem WellFormed.lineFed (h : document.WellFormed) : document.lineFed.WellFormed :=
  Element.forall_subtree_lineFed fun node hnode => (h node hnode).lineFed

/-- What is read of a well-formed document with names that a reader can tell from its markup. -/
theorem receive?_of_readable (hcharset : charset ∈ Charset.common)
    (hname : Charset.ofName? encoding = some charset)
    (hascii : encoding.toList.all (·.toNat < 0x80))
    (hplain : '?' ∉ encoding.toList ∧ '\r' ∉ encoding.toList)
    (hreadable : ∀ node ∈ document.root.subtree, node.Readable) (htail : document.root.tail = "")
    (hwell : document.WellFormed) :
    receive? encoding (charset.write (document.chars encoding)) = some document.root.lineFed := by
  have hread : read? encoding (charset.write (document.lineFed.chars encoding)) =
      some document.root.lineFed := by
    refine read?_of_readable hcharset hname hascii hplain.1
      (Element.forall_subtree_lineFed fun node hnode => (hreadable node hnode).lineFed) ?_
    rw [lineFed, Element.tail_lineFed, htail]
    rfl
  simp only [read?, hname, Charset.read?_write hcharset, Option.bind_eq_bind,
    Option.bind_some] at hread
  obtain ⟨markup, hmarkup, hread⟩ := Option.bind_eq_some_iff.1 hread
  obtain ⟨reader, hrun, hroot⟩ := Option.bind_eq_some_iff.1 hread
  simp only [receive?, hname, Charset.read?_write hcharset, withLineFeeds_spelled hcharset,
    withLineFeeds_chars hplain.2 hreadable, hmarkup, hrun, hroot, Option.bind_eq_bind,
    Option.bind_some]
  exact if_pos hwell.lineFed

end Document

end WebCoverage.Xml
