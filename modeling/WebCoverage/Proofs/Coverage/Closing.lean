import WebCoverage.Proofs.Coverage.Delivery
import WebCoverage.Proofs.Xml.Layout

/-! What the end of a stream of parts says. The line after the last part is the last that is
written, and nothing else that can come last ends like it: headers end in a line without content,
and documents in a tag, which no encoding ends in a line feed. So the line is there if and only if
the answer is a success (`Coverage.closed_iff_succeeded`). -/

namespace WebCoverage

open Xml Multipart
open Text (Charset)

/-! ## The end of a document -/

theorem Text.Charset.suffix_write (charset : Charset) {text : List Char} {c : Char}
    (h : [c] <:+ text) : charset.writeChar c <:+ charset.write text := by
  obtain ⟨front, rfl⟩ := h
  simp only [write, List.flatMap_append, List.flatMap_cons, List.flatMap_nil, List.append_nil,
    ← List.append_assoc]
  exact List.suffix_append _ _

/-- In bytes, what ends in the sign that ends a tag does not end in a line feed. -/
theorem Text.Charset.not_feed_write (charset : Charset) {text : List Char} (h : ['>'] <:+ text) :
    ¬[10] <:+ charset.write text := by
  intro hfeed
  have hlength : 1 ≤ (charset.writeChar '>').length := by cases charset <;> decide +kernel
  have hlast := List.suffix_of_suffix_length_le hfeed (charset.suffix_write h) hlength
  have hother : ¬[10] <:+ charset.writeChar '>' := by cases charset <;> decide +kernel
  exact hother hlast

theorem Text.Codecs.not_feed_of_find? {codecs : Codecs} {name : String}
    {write : List Char → Option Bytes} {text : List Char} {content : Bytes}
    (hfind : codecs.find? name = some write) (htext : ['>'] <:+ text)
    (hwrite : write text = some content) : ¬[10] <:+ content := by
  unfold find? at hfind
  split at hfind
  · next charset _ =>
    cases hfind
    cases hwrite
    exact charset.not_feed_write htext
  · exact codecs.tag_end hfind htext hwrite

namespace Xml

theorem Element.suffix_chars {element : Element} (h : element.tail = "") :
    ['>'] <:+ element.chars := by
  obtain ⟨name, attributes, text, children, tail⟩ := element
  subst h
  have htail : textChars "" = [] := rfl
  rw [chars, htail, List.append_nil]
  refine List.IsSuffix.trans ?_ (List.suffix_append _ _)
  split
  · decide
  · exact List.suffix_append _ _

namespace Document

variable {document : Document}

theorem suffix_chars (htail : document.root.tail = "") (encoding : String) :
    ['>'] <:+ document.chars encoding :=
  (Element.suffix_chars htail).trans (List.suffix_append _ _)

/-- Whatever the encoding, a document does not end in a line feed. -/
theorem not_feed_of_serialize {codecs : Text.Codecs} {encoding : String} {content : Bytes}
    (htail : document.root.tail = "")
    (h : document.serialize codecs encoding = .ok (.bytes content)) : ¬[10] <:+ content := by
  obtain ⟨-, -, write, hfind, hwrite⟩ := serialize_eq_bytes_iff.1 h
  exact Text.Codecs.not_feed_of_find? hfind (suffix_chars htail _) hwrite

end Document

end Xml

namespace Coverage

/-! ## Streams that are not closed -/

/-- A line feed at the end follows another one, as after headers. -/
def Open (output : Bytes) : Prop :=
  [10] <:+ output → [10, 10] <:+ output

variable {output content : Bytes} {service : Service}
  {requested : Option String} {image : Image} {inMemory : Bool}

theorem Open.not_closed (h : Open output) : ¬textBytes closing <:+ output := by
  intro hclosed
  have hfeed : [10] <:+ textBytes closing := by decide
  have hblank : [10, 10] <:+ textBytes closing :=
    List.suffix_of_suffix_length_le (h (hfeed.trans hclosed)) hclosed (by decide)
  exact absurd hblank (by decide)

/-- More that is open leaves the whole open. -/
theorem Open.append (hfirst : Open output) (hsecond : Open content) : Open (output ++ content) := by
  intro hfeed
  by_cases hempty : content = []
  · subst hempty
    rw [List.append_nil] at hfeed ⊢
    exact hfirst hfeed
  · have hlast : [10] <:+ content :=
      List.suffix_of_suffix_length_le hfeed (List.suffix_append output content)
        (List.length_pos_iff.2 hempty)
    exact (hsecond hlast).trans (List.suffix_append _ _)

theorem open_nil : Open [] :=
  fun hfeed => absurd (List.suffix_nil.1 hfeed) (List.cons_ne_nil _ _)

theorem open_of_blank (h : [10, 10] <:+ output) : Open output :=
  fun _ => h

theorem open_report {reporter : Reporter} {report : Report}
    (h : reporter.payload report = .ok (.bytes content)) : Open content := by
  obtain ⟨document, hdocument, hserialize⟩ := exists_of_bind_eq_ok h
  obtain ⟨-, rfl⟩ := Reporter.document_eq_ok_iff.1 hdocument
  have hend := Document.not_feed_of_serialize (Element.tail_indented 0 _) hserialize
  exact fun hfeed => absurd hfeed hend

theorem open_manifest (extension : String) : Open (manifestBytes extension) :=
  fun hfeed => absurd hfeed
    (Charset.utf8.not_feed_write (Document.suffix_chars (Element.tail_indented 0 _) "UTF-8"))

theorem open_headerLine : ∀ contentType ∈ ["text/xml", "multipart/mixed; boundary=wcs"],
    Open (Transport.headerLine contentType) := by
  have hlast : ∀ contentType ∈ ["text/xml", "multipart/mixed; boundary=wcs"],
      [10, 10] <:+ Transport.headerLine contentType := by
    decide
  exact fun contentType h => open_of_blank (hlast contentType h)

theorem open_beginning : Open beginning :=
  open_of_blank (by decide)

theorem open_dataHeaders (format : OutputFormat) : Open (textBytes (dataHeaders format)) := by
  have hlast : ['\n', '\n'] <:+ (dataHeaders format).toList := by
    unfold dataHeaders
    rw [String.toList_append]
    refine List.IsSuffix.trans ?_ (List.suffix_append _ _)
    simp only [toString]
    rw [String.toList_append]
    exact List.IsSuffix.trans (by decide) (List.suffix_append _ _)
  have hbytes : [10, 10] <:+ textBytes (dataHeaders format) :=
    List.IsSuffix.map (fun c : Char => UInt8.ofNat c.toNat) hlast
  exact open_of_blank hbytes

/-! ## What an answer leaves -/

/-- Where sending stops depends on whether a format was selected. -/
theorem Delivery.stopped {encoder : Encoder} {map : MapDefinition} {failure : Failure}
    {stopped : Transport}
    (h : Delivery encoder map requested image inMemory (.error failure stopped)) :
    (selectFormat map requested = .error failure ∧ stopped = .fresh inMemory) ∨
      ((∃ format, selectFormat map requested = .ok format) ∧
        ∃ content, Open content ∧ stopped = streaming content inMemory) := by
  cases h with
  | unselected hselect => exact .inl ⟨hselect, rfl⟩
  | undescribed hselect _ => exact .inr ⟨⟨_, hselect⟩, _, open_beginning, rfl⟩
  | unlabelled hselect _ _ =>
    exact .inr ⟨⟨_, hselect⟩, _, open_beginning.append (open_manifest _), rfl⟩
  | @unencoded format _ hselect _ _ _ =>
    exact .inr ⟨⟨_, hselect⟩, _,
      (open_beginning.append (open_manifest _)).append (open_dataHeaders format), rfl⟩

end Coverage

/-- What a step of answering leaves, whether it fails or not. -/
def Exchange.after {α : Type} : EStateM.Result Failure Exchange α → Exchange
  | .ok _ exchange => exchange
  | .error _ exchange => exchange

namespace Coverage

/-- What an answer leaves on a transport to which nothing was written before, when it succeeds and
when it does not. -/
inductive Written (service : Service) (requested : Option String) (image : Image)
    (inMemory : Bool) : Bool → Transport → Prop
  /-- A whole response. -/
  | whole {format : OutputFormat} {data : Bytes} :
      selectFormat service.map requested = .ok format →
      service.encoder image format = .ok data →
      Written service requested image inMemory true (streaming (response format data) inMemory)
  /-- The beginning of a response, and what may follow where it stops. -/
  | part {format : OutputFormat} {content : Bytes} :
      selectFormat service.map requested = .ok format → Open content →
      Written service requested image inMemory false (streaming content inMemory)
  /-- No response, and at most a report. -/
  | report {report : Report} {content : Bytes} :
      selectFormat service.map requested = .error (.reported report) →
      (content = [] ∨ service.reporter.payload report = .ok (.bytes content)) →
      Written service requested image inMemory false
        (.carrying "text/xml" report.status content inMemory)

theorem Ending.written {result : EStateM.Result Failure Exchange Bool}
    (h : Ending service requested image inMemory result) :
    ∃ succeeded, (succeeded = true ↔ ∃ exchange, result = .ok true exchange) ∧
      Written service requested image inMemory succeeded (Exchange.after result).transport := by
  have hdelivery := delivery service.encoder service.map requested image inMemory
  have hstreaming (report : Report) (content : Bytes) :
      Reporter.opened report (streaming content inMemory) = streaming content inMemory := rfl
  cases h with
  | delivered hsend =>
    rw [hsend] at hdelivery
    cases hdelivery with
    | delivered hselect _ _ hencode =>
      exact ⟨true, iff_of_true rfl ⟨_, rfl⟩, .whole hselect (encode_eq_ok_iff.1 hencode)⟩
  | @reported report stopped content _ hsend hpayload =>
    refine ⟨false, by simp, ?_⟩
    rw [hsend] at hdelivery
    rcases hdelivery.stopped with ⟨hselect, rfl⟩ | ⟨⟨format, hselect⟩, before, hbefore, rfl⟩
    · rw [Exchange.after, Reporter.opened_fresh, Transport.push_carrying, List.nil_append]
      exact .report hselect (.inr hpayload)
    · rw [Exchange.after, hstreaming, streaming, Transport.push_carrying]
      exact .part hselect (hbefore.append (open_report hpayload))
  | @unreported report stopped _ _ hsend _ =>
    refine ⟨false, by simp, ?_⟩
    rw [hsend] at hdelivery
    rcases hdelivery.stopped with ⟨hselect, rfl⟩ | ⟨⟨format, hselect⟩, before, hbefore, rfl⟩
    · rw [Exchange.after, Reporter.opened_fresh]
      exact .report hselect (.inl rfl)
    · exact .part hselect hbefore
  | escaped hsend hother =>
    refine ⟨false, by simp, ?_⟩
    rw [hsend] at hdelivery
    rcases hdelivery.stopped with ⟨hselect, rfl⟩ | ⟨⟨format, hselect⟩, before, hbefore, rfl⟩
    · obtain ⟨report, rfl, -⟩ := isTold_of_selectFormat hselect
      exact absurd rfl (hother report)
    · exact .part hselect hbefore

namespace Written

variable {succeeded : Bool} {transport : Transport}

theorem closed_iff (h : Written service requested image inMemory succeeded transport) :
    textBytes closing <:+ transport.output ↔ succeeded = true := by
  cases h with
  | whole _ _ =>
    refine iff_of_true ?_ rfl
    exact (List.suffix_append _ _).trans (List.suffix_append _ _)
  | part _ hopen =>
    refine iff_of_false (Open.not_closed ?_) (by simp)
    exact (open_headerLine _ (by simp)).append hopen
  | report _ hcontent =>
    refine iff_of_false (Open.not_closed ?_) (by simp)
    refine (open_headerLine "text/xml" (by simp)).append (hcontent.elim ?_ open_report)
    rintro rfl
    exact open_nil

theorem data_closed (h : Written service requested image inMemory true transport) :
    ∃ format data, selectFormat service.map requested = .ok format ∧
      service.encoder image format = .ok data ∧ data ++ textBytes closing <:+ transport.output := by
  cases h with
  | @whole format data hselect hencoder =>
    refine ⟨format, data, hselect, hencoder, List.IsSuffix.trans ?_ (List.suffix_append _ _)⟩
    rw [response, List.append_assoc]
    exact List.suffix_append _ _

theorem contentType_iff (h : Written service requested image inMemory succeeded transport) :
    transport.contentType = some "multipart/mixed; boundary=wcs" ∧ transport.status = 200 ↔
      ∃ format, selectFormat service.map requested = .ok format := by
  cases h with
  | whole hselect _ => exact iff_of_true ⟨rfl, rfl⟩ ⟨_, hselect⟩
  | part hselect _ => exact iff_of_true ⟨rfl, rfl⟩ ⟨_, hselect⟩
  | report hselect _ =>
    rw [hselect]
    refine iff_of_false (fun h => ?_) (fun ⟨_, h⟩ => nomatch h)
    exact absurd (Option.some.inj h.1) (by decide)

theorem report_only (h : Written service requested image inMemory succeeded transport)
    {failure : Failure} (hselect : selectFormat service.map requested = .error failure) :
    ∃ report content, failure = .reported report ∧
      (content = [] ∨ service.reporter.payload report = .ok (.bytes content)) ∧
      transport.output = Transport.headerLine "text/xml" ++ content := by
  cases h with
  | whole hformat _ => rw [hselect] at hformat; cases hformat
  | part hformat _ => rw [hselect] at hformat; cases hformat
  | report hreport hcontent =>
    rw [hselect] at hreport
    cases hreport
    exact ⟨_, _, rfl, hcontent, rfl⟩

end Written

/-- The line after the last part is the end of what was written if and only if the answer is a
success, and the data stand before it then. The content type is that of a stream of parts if and
only if there is a format; if there is none, what was written is a header line and at most a report,
without a byte of a stream. -/
theorem closed_iff_succeeded (service : Service) (parameters : RequestParameters) (image : Image)
    (inMemory : Bool) :
    let result := service.getCoverage image ⟨parameters, .fresh inMemory⟩
    let transport := (Exchange.after result).transport
    let selected := selectFormat service.map parameters.format
    (textBytes closing <:+ transport.output ↔ ∃ exchange, result = .ok true exchange) ∧
      ((∃ exchange, result = .ok true exchange) →
        ∃ format data, selected = .ok format ∧ service.encoder image format = .ok data ∧
          data ++ textBytes closing <:+ transport.output) ∧
      (transport.contentType = some "multipart/mixed; boundary=wcs" ∧ transport.status = 200 ↔
        ∃ format, selected = .ok format) ∧
      (∀ failure, selected = .error failure → ∃ report content, failure = .reported report ∧
        (content = [] ∨ service.reporter.payload report = .ok (.bytes content)) ∧
        transport.output = Transport.headerLine "text/xml" ++ content) := by
  obtain ⟨succeeded, hsucceeded, hwritten⟩ := (ending service parameters image inMemory).written
  refine ⟨hwritten.closed_iff.trans hsucceeded, fun h => ?_, hwritten.contentType_iff,
    fun failure hselect => hwritten.report_only hselect⟩
  rw [hsucceeded.2 h] at hwritten
  exact hwritten.data_closed

/-- Four bytes for every character, the lowest first, after a mark of their order. -/
def wideBytes (text : List Char) : Bytes :=
  [0xFF, 0xFE, 0, 0] ++ text.flatMap fun c =>
    Charset.littleEndian c.toNat ++ Charset.littleEndian (c.toNat / 0x10000)

/-- One encoding that the library has not itself. -/
def wideCodecs : Text.Codecs where
  other? name :=
    if Charset.plainName name ∈ ["utf_32", "u32", "utf32"] then some (some ∘ wideBytes) else none
  tag_end := by
    intro name write text content hother htext hwrite hfeed
    obtain ⟨front, rfl⟩ := htext
    rw [Option.ite_none_right_eq_some] at hother
    cases hother.2
    cases hwrite
    have hlast : [0x3E, 0, 0, 0] <:+ wideBytes (front ++ ['>']) := by
      rw [wideBytes, List.flatMap_append, ← List.append_assoc]
      exact List.suffix_append _ _
    have hzero := List.suffix_of_suffix_length_le hfeed hlast (by decide)
    exact absurd hzero (by decide)

/-- A service without a format, which has its reports in that encoding. -/
def wideService : Service :=
  { DocumentOperation.elevationService with
    settings := ⟨"UTF-32", true, "1.1.0", "1.1.0"⟩, codecs := wideCodecs }

/-- Where there is no format, a report is written and the output is not closed. -/
theorem closed_iff_succeeded_wide :
    let result := wideService.getCoverage (.other "NoneType")
      ⟨⟨"", none, [], none, false⟩, .fresh true⟩
    let output := (Exchange.after result).transport.output
    ¬textBytes closing <:+ output ∧ ∃ report content,
      wideService.reporter.payload report = .ok (.bytes content) ∧
        output = Transport.headerLine "text/xml" ++ content := by
  intro result output
  obtain ⟨hclosed, hdata, -, hreported⟩ := closed_iff_succeeded wideService
    ⟨"", none, [], none, false⟩ (.other "NoneType") true
  obtain ⟨failure, hselect⟩ : ∃ failure, selectFormat wideService.map none = .error failure :=
    ⟨_, rfl⟩
  constructor
  · intro hsuffix
    obtain ⟨format, -, hformat, -⟩ := hdata (hclosed.1 hsuffix)
    cases hselect.symm.trans hformat
  · obtain ⟨report, content, -, hcontent, houtput⟩ := hreported failure hselect
    refine ⟨report, content, hcontent.resolve_left ?_, houtput⟩
    rintro rfl
    have hmore : output.drop (Transport.headerLine "text/xml").length ≠ [] := by
      decide +kernel
    exact hmore ((congrArg _ houtput).trans (List.drop_left ..))

end Coverage

end WebCoverage
