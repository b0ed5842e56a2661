import WebCoverage.Proofs.Written
import WebCoverage.Proofs.Xml.LineEnds

/-! Reports read back. Message and locator lose what a document cannot carry, and the rest of them
is written so that a reader finds the report again, whatever it says. Only the line ends of the
message are not written as references, so a reader of XML takes them for line feeds
(`Reporter.reads_back`). -/

namespace WebCoverage

open Xml

/-! ## What a document carries of a text -/

section

variable {text : String}

theorem Xml.sublist_writable (text : String) : (writable text).toList.Sublist text.toList := by
  rw [writable, String.toList_ofList]
  exact List.filter_sublist

theorem Xml.writable_eq_self_iff : writable text = text ↔ isWritableText text := by
  rw [← String.toList_inj, writable, String.toList_ofList, List.filter_eq_self, isWritableText,
    List.all_eq_true]

theorem Xml.writable_writable (text : String) : writable (writable text) = writable text :=
  writable_eq_self_iff.2 (isWritableText_writable text)

/-- Line ends can be carried. -/
theorem Xml.lineFed_writable_iff :
    lineFed (writable text) = writable text ↔ '\r' ∉ text.toList := by
  have hreturn : isWritable '\r' := by decide
  rw [lineFed_eq_self_iff, writable, String.toList_ofList, List.mem_filter]
  simp [hreturn]

end

/-! ## Reports in documents -/

/-- An element that holds the code of a report, its locator if it is not empty, and a text. -/
structure Report.ToldBy (report : Report) (text : String) (node : Element) : Prop where
  code : node.attribute? "exceptionCode" = some report.code
  locator : node.attribute? "locator" = (report.locator.filter (!·.isEmpty)).map writable
  text : node.children.map (fun child => (child.name, child.text, child.children)) =
    [("ows:ExceptionText", text, [])]

/-- The tree tells of one exception, which is that of the report with the given text. -/
def Report.Told (report : Report) (text : String) (root : Element) : Prop :=
  ∃ node, root.subtree.filter (·.name = "ows:Exception") = [node] ∧ report.ToldBy text node

theorem Report.Told.text_eq {report : Report} {text text' : String} {root : Element}
    (h : report.Told text root) (h' : report.Told text' root) : text = text' := by
  obtain ⟨node, hnode, htold⟩ := h
  obtain ⟨node', hnode', htold'⟩ := h'
  cases hnode.symm.trans hnode'
  cases htold.text.symm.trans htold'.text
  rfl

namespace Reporter

variable {reporter : Reporter} {report : Report} {text encoding : String}

/-- The exception of a report as it is laid out, with a text for its message. -/
def laidOutException (report : Report) (text : String) : Element :=
  ⟨"ows:Exception", attributes report, Element.lineStart 2,
    [⟨"ows:ExceptionText", [], text, [], Element.lineStart 1⟩], Element.lineStart 0⟩

/-- The root of a report as it is laid out. -/
def laidOut (reporter : Reporter) (report : Report) (text : String) : Element :=
  { reporter.root report with
    text := Element.lineStart 1, children := [laidOutException report text] }

theorem indented_eq_laidOut (reporter : Reporter) (report : Report) :
    (Document.mk scope (reporter.root report)).indented =
      ⟨scope, reporter.laidOut report (writable report.message)⟩ := rfl

theorem lineFed_laidOut : (reporter.laidOut report text).lineFed =
    reporter.laidOut report (lineFed text) := by
  have hstart (level : Nat) : lineFed (Element.lineStart level) = Element.lineStart level :=
    lineFed_eq_self_iff.2 (by simp [Element.lineStart, List.mem_replicate])
  have htail : lineFed (reporter.root report).tail = (reporter.root report).tail := rfl
  simp only [laidOut, laidOutException, Element.lineFed, Element.lineFedChildren, hstart, htail]

theorem told_laidOut (reporter : Reporter) (report : Report) (text : String) :
    report.Told text (reporter.laidOut report text) := by
  refine ⟨laidOutException report text, rfl, ⟨rfl, ?_, rfl⟩⟩
  unfold laidOutException attributes Element.attribute?
  cases report.locator.filter (!·.isEmpty) <;> rfl

/-- The names in a report. -/
def names : List String :=
  ["ows:ExceptionReport", "xmlns:ows", "xmlns:xsi", "version", "language", "xsi:schemaLocation",
    "ows:Exception", "exceptionCode", "locator", "ows:ExceptionText"]

theorem isName_of_mem_names {name : String} (h : name ∈ names) : IsName name := by
  have hnames : ∀ name ∈ names, name ≠ "" ∧ name.toList.all isNameChar := by
    decide +kernel
  exact ⟨(hnames name h).1, List.all_eq_true.1 (hnames name h).2⟩

theorem readable_laidOut (reporter : Reporter) (report : Report) (text : String) :
    ∀ node ∈ (reporter.laidOut report text).subtree, node.Readable := by
  have hroot : (reporter.laidOut report text).Readable := by
    have hkeys : (reporter.laidOut report text).attributes.map Prod.fst =
        ["xmlns:ows", "xmlns:xsi", "version", "language", "xsi:schemaLocation"] := rfl
    refine ⟨isName_of_mem_names (show "ows:ExceptionReport" ∈ names by decide),
      List.forall_mem_map.1 fun key hkey => isName_of_mem_names ?_, hkeys ▸ by decide⟩
    have hall : ∀ key ∈ ["xmlns:ows", "xmlns:xsi", "version", "language", "xsi:schemaLocation"],
        key ∈ names := by
      decide
    exact hall key (hkeys ▸ hkey)
  have hexception : (laidOutException report text).Readable := by
    refine ⟨isName_of_mem_names (show "ows:Exception" ∈ names by decide),
      List.forall_mem_map.1 fun key hkey => isName_of_mem_names ?_, nodup_attributes report⟩
    have hall : ∀ key ∈ ["exceptionCode", "locator"], key ∈ names := by decide
    exact hall key ((sublist_attributes report).subset hkey)
  have htext : Element.Readable ⟨"ows:ExceptionText", [], text, [], Element.lineStart 1⟩ :=
    ⟨isName_of_mem_names (show "ows:ExceptionText" ∈ names by decide), List.forall_mem_nil _,
      List.nodup_nil⟩
  change ∀ node ∈ [_, _, _], _
  simp only [List.forall_mem_cons]
  exact ⟨hroot, hexception, htext, List.forall_mem_nil _⟩

/-- A report as it is written is found again by a reader, and by a reader of XML if its version can
be carried. -/
theorem read?_laidOut (reporter : Reporter) (hcode : isWritableText report.code)
    (hencoding : encoding ∈ Settings.commonEncodings) :
    ∃ document content, reporter.document report = .ok document ∧
      document.payload reporter.codecs encoding true = .ok (.bytes content) ∧
      Document.read? encoding content = some (reporter.laidOut report (writable report.message)) ∧
      (isWritableText reporter.version → Document.receive? encoding content =
        some (reporter.laidOut report (lineFed (writable report.message)))) := by
  have hdocument := document_eq reporter hcode
  obtain ⟨charset, hcharset, hname, hserialize⟩ := Document.exists_serialize hencoding
  have hplain : ∀ encoding ∈ Settings.commonEncodings,
      encoding.toList.all (·.toNat < 0x80) ∧ '?' ∉ encoding.toList ∧ '\r' ∉ encoding.toList := by
    decide
  obtain ⟨hascii, hclean⟩ := hplain encoding hencoding
  have hreadable := readable_laidOut reporter report (writable report.message)
  have hframed := (framed_of_document hdocument).indented
  have hcontent := hserialize (Document.mk scope (reporter.root report)).indented reporter.codecs
  rw [indented_eq_laidOut] at hframed hcontent
  refine ⟨_, _, hdocument, hcontent, ?_, fun hversion => ?_⟩
  · exact Document.read?_of_readable hcharset hname hascii hclean.1 hreadable rfl
  · rw [← lineFed_laidOut]
    exact Document.receive?_of_readable hcharset hname hascii hclean hreadable rfl
      (hframed.wellFormed_reporter_iff.2 hversion)

/-- A report whose code and version can be carried has a document, and what is read of it is one
exception with the code, the locator and the message of the report, as far as the latter two can be
carried. A reader that leaves line ends alone finds the message as it was carried, and a reader of
XML finds it with line feeds for line ends, which is the same if it has no carriage return. What is
carried of a text can be carried, and it is the whole text if and only if that can be; the same holds
of any code points, those of a text among them. -/
theorem reads_back (reporter : Reporter) (report : Report) (hcode : isWritableText report.code)
    (hversion : isWritableText reporter.version) :
    (∃ document content, reporter.document report = .ok document ∧
      document.payload reporter.codecs "ISO-8859-1" true = .ok (.bytes content) ∧
      (∃ root, Document.read? "ISO-8859-1" content = some root ∧
        report.Told (writable report.message) root) ∧
      ∃ root, Document.receive? "ISO-8859-1" content = some root ∧
        report.Told (lineFed (writable report.message)) root) ∧
    (lineFed (writable report.message) = writable report.message ↔
      '\r' ∉ report.message.toList) ∧
    (∀ text, isWritableText (writable text) ∧ (writable text).toList.Sublist text.toList ∧
      writable (writable text) = writable text ∧ (writable text = text ↔ isWritableText text) ∧
      (writable text).toList.map Char.toNat = writableCodes (text.toList.map Char.toNat)) ∧
    ∀ codes, (∀ code ∈ writableCodes codes, isWritableCode code) ∧
      (writableCodes codes).Sublist codes ∧
      writableCodes (writableCodes codes) = writableCodes codes ∧
      (writableCodes codes = codes ↔ ∀ code ∈ codes, isWritableCode code) := by
  obtain ⟨document, content, hdocument, hcontent, hread, hreceive⟩ :=
    read?_laidOut reporter hcode (show "ISO-8859-1" ∈ Settings.commonEncodings by decide)
  refine ⟨⟨document, content, hdocument, hcontent, ⟨_, hread, told_laidOut ..⟩, _,
    hreceive hversion, told_laidOut ..⟩, lineFed_writable_iff, fun text => ?_, fun codes => ?_⟩
  · exact ⟨isWritableText_writable text, sublist_writable text, writable_writable text,
      writable_eq_self_iff, map_toNat_writable text⟩
  · have hagain : writableCodes (writableCodes codes) = writableCodes codes := by
      simp only [writableCodes, List.filter_filter, Bool.and_self]
    exact ⟨fun code hcode => List.of_mem_filter hcode, List.filter_sublist, hagain,
      List.filter_eq_self⟩

/-- A report with markup, quotes, a control character, a character that Latin-1 lacks and a line
end. -/
def disguised : Report :=
  ⟨.coverageNotDefined, "COVERAGE </a>\x01 & \"5€\"\r\n", "CoverageNotDefined",
    some "\x02'<a b=\"€\"\t", none⟩

theorem reads_back_disguised :
    ∃ document content, (Reporter.mk "1.1.0" "ISO-8859-1" .none).document disguised = .ok document ∧
      document.payload .none "ISO-8859-1" true = .ok (.bytes content) ∧
      ∃ root, Document.receive? "ISO-8859-1" content = some root ∧
        disguised.Told "COVERAGE </a> & \"5€\"\n" root := by
  have hback := reads_back ⟨"1.1.0", "ISO-8859-1", .none⟩ disguised (by decide) (by decide)
  obtain ⟨document, content, hdocument, hcontent, -, root, hreceive, htold⟩ := hback.1
  have htext : lineFed (writable disguised.message) = "COVERAGE </a> & \"5€\"\n" := by
    decide +kernel
  rw [htext] at htold
  exact ⟨document, content, hdocument, hcontent, root, hreceive, htold⟩

/-- A message with a carriage return is not read back. -/
theorem not_told_carriage_return :
    let report : Report := ⟨.general, "a\rb", "NoApplicableCode", none, none⟩
    writable report.message = report.message ∧
    ∃ document content, (Reporter.mk "1.1.0" "ISO-8859-1" .none).document report = .ok document ∧
      document.payload .none "ISO-8859-1" true = .ok (.bytes content) ∧
      ∃ root, Document.receive? "ISO-8859-1" content = some root ∧
        ¬report.Told report.message root := by
  intro report
  have hcode : isWritableText report.code := by decide
  obtain ⟨document, content, hdocument, hcontent, -, hreceive⟩ :=
    read?_laidOut ⟨"1.1.0", "ISO-8859-1", .none⟩ hcode
      (show "ISO-8859-1" ∈ Settings.commonEncodings by decide)
  refine ⟨by decide, document, content, hdocument, hcontent, _, hreceive (by decide),
    fun htold => ?_⟩
  have hother : lineFed (writable report.message) ≠ report.message := by decide +kernel
  exact hother ((told_laidOut ..).text_eq htold)

end Reporter

end WebCoverage
