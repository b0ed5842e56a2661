import WebCoverage.Proofs.AllOrNothing
import WebCoverage.Proofs.Coverage.Parts
import WebCoverage.Proofs.Number.Writable

/-! The manifest of a coverage. It can be written if the extension in it can be carried
(`Coverage.manifest_of_writable`, `Coverage.manifest_of_not_writable`), and its lines are those of
its markup, none of which is taken for a line between parts (`Coverage.clear_manifest`). -/

namespace WebCoverage

open Xml Multipart
open Text (Charset)

/-! ## Lines of markup -/

/-- The bytes of a line end stand for nothing else. -/
theorem Text.Charset.eq_of_mem_utf8EncodeChar {c : Char} (h : 10 ∈ String.utf8EncodeChar c) :
    c = '\n' := by
  have hbyte {n : Nat} (heq : 10 = UInt8.ofNat n) : n % 256 = 10 := by
    rw [← UInt8.toNat_ofNat', ← heq]
    rfl
  have hchar (hcode : c.toNat = 10) : c = '\n' := by
    rw [← Char.ofNat_toNat c, hcode]
  unfold String.utf8EncodeChar at h
  dsimp only at h
  -- All bytes of a longer sequence have their highest bit.
  split_ifs at h
  · next hascii =>
    have hcode : c.toNat % 256 = 10 := hbyte (List.mem_singleton.1 h)
    have hascii : c.toNat ≤ 127 := hascii
    exact hchar (by omega)
  all_goals
    simp only [List.mem_cons, List.not_mem_nil, or_false] at h
    exfalso
  · rcases h with h | h <;> have := hbyte h <;> omega
  · rcases h with h | h | h <;> have := hbyte h <;> omega
  · rcases h with h | h | h | h <;> have := hbyte h <;> omega

/-! ## Lines of bytes -/

/-- No line starts like one between parts. -/
def Multipart.Undashed (content : Bytes) : Prop :=
  ∀ line ∈ lines content, line.head? ≠ some 45

theorem Multipart.Undashed.clear {boundary : String} {content : Bytes} (h : Undashed content) :
    Clear boundary content := by
  have hdashes (text : String) : (textBytes ("--" ++ text)).head? = some 45 := by
    rw [textBytes, String.toList_append, List.map_append]
    rfl
  intro line hline
  refine ⟨fun heq => h line hline ?_, fun heq => h line hline ?_⟩
  · exact heq ▸ hdashes boundary
  · rw [heq, closeDelimiter, String.append_assoc]
    exact hdashes (boundary ++ "--")

namespace Coverage

/-- The text in UTF-8. -/
private def utf8 (text : List Char) : Bytes :=
  text.flatMap Charset.utf8.writeChar

private theorem not_mem_utf8 {text : List Char} (h : '\n' ∉ text) : 10 ∉ utf8 text := by
  intro hmem
  obtain ⟨c, hc, hbyte⟩ := List.mem_flatMap.1 hmem
  exact h (Charset.eq_of_mem_utf8EncodeChar hbyte ▸ hc)

/-- Lines of markup, none of which starts with a dash. -/
private theorem undashed_utf8_intercalate {rows : List (List Char)}
    (h : ∀ row ∈ rows, '\n' ∉ row ∧ row.head? ∈ [some '<', some ' ']) :
    Undashed (utf8 (['\n'].intercalate rows)) := by
  have hstart {row : List Char} (hrow : row.head? ∈ [some '<', some ' ']) :
      (utf8 row).head? ≠ some 45 := by
    have hbytes : (Charset.utf8.writeChar '<').head? = some 60 ∧
        (Charset.utf8.writeChar ' ').head? = some 32 := by
      decide
    cases row with
    | nil => simp at hrow
    | cons c rest =>
      rw [utf8, List.flatMap_cons, List.head?_append]
      rcases List.mem_pair.1 hrow with hstart | hstart <;> cases hstart
      · rw [hbytes.1, Option.some_or]
        decide
      · rw [hbytes.2, Option.some_or]
        decide
  have hsingle {row : List Char} (hrow : '\n' ∉ row ∧ row.head? ∈ [some '<', some ' ']) :
      ∀ line ∈ lines (utf8 row), line.head? ≠ some 45 := by
    rw [lines_of_not_mem (not_mem_utf8 hrow.1)]
    exact List.forall_mem_singleton.2 (hstart hrow.2)
  induction rows with
  | nil => exact List.forall_mem_singleton.2 (by decide)
  | cons row rest ih =>
    obtain ⟨hrow, hrest⟩ := List.forall_mem_cons.1 h
    cases rest with
    | nil =>
      rw [List.intercalate_singleton]
      exact hsingle hrow
    | cons next rest =>
      have hend : Charset.utf8.writeChar '\n' = [10] := by decide
      rw [List.intercalate_cons_cons, List.append_assoc, List.singleton_append, utf8,
        List.flatMap_append, List.flatMap_cons, hend, List.singleton_append, Undashed,
        lines_append_cons]
      exact List.forall_mem_append.2 ⟨hsingle hrow, ih hrest⟩

/-! ## The document -/

/-- The attributes of the root. -/
def manifestAttributes : List (String × String) :=
  scope.bindings.map Document.declaration ++
    [("xsi:schemaLocation", "http://www.opengis.net/ows/1.1 ../owsCoverages.xsd")]

/-- The document as a tree. -/
def manifestRoot (reference : String) : Element :=
  .ofChildren "Coverages" manifestAttributes
    [.ofChildren "Coverage" [] [.ofChildren "Reference" [("xlink:href", reference)] []]]

/-- The lines of the markup of such a tree. -/
private theorem chars_indented (attributes : List (String × String)) (entry : String × String) :
    ((Element.ofChildren "Coverages" attributes
      [.ofChildren "Coverage" [] [.ofChildren "Reference" [entry] []]]).indented 0).chars =
      ['\n'].intercalate [
        '<' :: ("Coverages".toList ++ attributes.flatMap Element.attributeChars ++ ['>']),
        "  <Coverage>".toList,
        "    <Reference".toList ++ Element.attributeChars entry ++ " />".toList,
        "  </Coverage>".toList,
        "</Coverages>".toList] := by
  have hblank (level : Nat) :
      Element.fillBlank (Element.lineStart level) "" = Element.lineStart level := rfl
  simp only [Element.ofChildren, Element.indented, Element.indentedChildren, hblank,
    Element.chars, Element.childrenChars]
  simp [Element.textChars, Element.lineStart, Element.textChar]

theorem undashed_manifest (reference : String) :
    Undashed (Charset.utf8.write
      ((Document.mk scope (manifestRoot reference)).indented.chars "UTF-8")) := by
  have hattributes : '\n' ∉ manifestAttributes.flatMap Element.attributeChars := by
    intro hmem
    obtain ⟨entry, hentry, hmem⟩ := List.mem_flatMap.1 hmem
    have hnames : ∀ entry ∈ manifestAttributes, '\n' ∉ entry.1.toList := by decide +kernel
    exact Element.not_mem_attributeChars (.inl rfl) (hnames entry hentry) hmem
  have hreference : '\n' ∉ Element.attributeChars ("xlink:href", reference) :=
    Element.not_mem_attributeChars (.inl rfl) (show '\n' ∉ "xlink:href".toList by decide)
  have hdeclaration : "<?xml version='1.0' encoding='".toList ++ "UTF-8".toList ++ "'?>\n".toList =
      "<?xml version='1.0' encoding='UTF-8'?>".toList ++ ['\n'] := rfl
  have hchars : (Document.mk scope (manifestRoot reference)).indented.chars "UTF-8" =
      ['\n'].intercalate ("<?xml version='1.0' encoding='UTF-8'?>".toList :: [
        '<' :: ("Coverages".toList ++ manifestAttributes.flatMap Element.attributeChars ++ ['>']),
        "  <Coverage>".toList,
        "    <Reference".toList ++ Element.attributeChars ("xlink:href", reference) ++
          " />".toList,
        "  </Coverage>".toList,
        "</Coverages>".toList]) := by
    rw [List.intercalate_cons_cons, ← chars_indented, ← hdeclaration]
    rfl
  rw [hchars]
  refine undashed_utf8_intercalate ?_
  simp only [List.forall_mem_cons]
  refine ⟨by decide, ⟨?_, by simp⟩, by decide, ⟨?_, by simp⟩, by decide, by decide,
    List.forall_mem_nil _⟩
  · simp [hattributes]
  · simp [hreference]

/-- The bytes of the document that refers to the data with the given extension. -/
def manifestBytes (extension : String) : Bytes :=
  Charset.utf8.write
    ((Document.mk scope (manifestRoot ("cid:coverage/wcs." ++ extension))).indented.chars "UTF-8")

private theorem check_names : ∀ name ∈ ["Coverages", "xsi:schemaLocation", "Coverage", "Reference",
    "xlink:href"], scope.check name = .ok () := by
  decide +kernel

variable {extension : String}

private theorem isWritableText_reference :
    isWritableText ("cid:coverage/wcs." ++ extension) ↔ isWritableText extension := by
  have hfront : isWritableText "cid:coverage/wcs." := by decide
  refine ⟨fun h => ?_, isWritableText_append hfront⟩
  unfold isWritableText at h ⊢
  rw [String.toList_append, List.all_append, Bool.and_eq_true] at h
  exact h.2

private theorem manifestDocument_eq (extension : String) :
    manifestDocument extension =
      (Document.mk scope
        { Element.bare "Coverages" with attributes := manifestAttributes }).withBody
        (scope.node "Coverage" []
          (scope.node "Reference" [("xlink:href", "cid:coverage/wcs." ++ extension)] .empty)) := by
  have hlocation : scope.Accepts
      ("xsi:schemaLocation", "http://www.opengis.net/ows/1.1 ../owsCoverages.xsd") :=
    ⟨by decide +kernel, check_names _ (by simp)⟩
  unfold manifestDocument Document.create
  rw [check_names "Coverages" (by simp)]
  simp only [bind, Except.bind, pure, Except.pure]
  rw [Document.setRootAttribute_of_accepts hlocation]
  rfl

/-- An extension that can be carried is referred to. -/
theorem manifest_of_writable (h : isWritableText extension) :
    manifest extension = .ok (.bytes (manifestBytes extension)) := by
  have hentry : ∀ entry ∈ [("xlink:href", "cid:coverage/wcs." ++ extension)],
      scope.Accepts entry :=
    List.forall_mem_singleton.2 ⟨isWritableText_reference.2 h, check_names _ (by simp)⟩
  have hinner : (scope.node "Reference"
      [("xlink:href", "cid:coverage/wcs." ++ extension)] .empty).failure = none :=
    Scope.failure_node_eq_none.2 ⟨check_names _ (by simp), hentry, rfl⟩
  have hbody : (scope.node "Coverage" [] (scope.node "Reference"
      [("xlink:href", "cid:coverage/wcs." ++ extension)] .empty)).failure = none :=
    Scope.failure_node_eq_none.2 ⟨check_names _ (by simp), List.forall_mem_nil _, hinner⟩
  have hdocument : manifestDocument extension =
      .ok ⟨scope, manifestRoot ("cid:coverage/wcs." ++ extension)⟩ := by
    rw [manifestDocument_eq, Document.withBody, hbody, Scope.elements_node hbody,
      Scope.elements_node hinner]
    rfl
  obtain ⟨charset, -, hcharset, hserialize⟩ :=
    Document.exists_serialize (show "UTF-8" ∈ Settings.commonEncodings by decide)
  have hutf8 : Charset.ofName? "UTF-8" = some .utf8 := by decide +kernel
  obtain rfl : charset = .utf8 := Option.some.inj (hcharset.symm.trans hutf8)
  unfold manifest
  rw [hdocument]
  exact hserialize _ .none

/-- Any other extension is reported. -/
theorem manifest_of_not_writable (h : ¬isWritableText extension) :
    manifest extension = .error (.unwritable "xlink:href") := by
  have hreference : ¬isWritableText ("cid:coverage/wcs." ++ extension) :=
    fun hwritable => h (isWritableText_reference.1 hwritable)
  have hset : scope.setAttributes (.bare "Reference")
      [("xlink:href", "cid:coverage/wcs." ++ extension)] =
        (.bare "Reference", some (.unwritable "xlink:href")) := by
    simp only [Scope.setAttributes, Scope.setAttribute, Scope.checkText, if_neg hreference]
    rfl
  unfold manifest
  rw [manifestDocument_eq, Document.withBody]
  simp only [Scope.node, check_names "Coverage" (by simp), check_names "Reference" (by simp), hset]
  rfl

theorem clear_manifest (boundary extension : String) : Clear boundary (manifestBytes extension) :=
  (undashed_manifest _).clear

end Coverage

end WebCoverage
