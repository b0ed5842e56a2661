import WebCoverage.Service
import WebCoverage.Proofs.Reportable
import WebCoverage.Proofs.Transport
import WebCoverage.Proofs.Text.Decoding
import WebCoverage.Proofs.Xml.Construction

/-! Operations that answer with an XML document write all of it or nothing of it. What has been
written when such an operation ends is decided by whether its document could be built: the document,
a report of what failed, or nothing at all (`DocumentOperation.Ending`). -/

namespace WebCoverage

open Xml

/-! ## Reports can be written -/

theorem Xml.isWritableText_writable (text : String) : isWritableText (writable text) := by
  simp [isWritableText, writable]

theorem Xml.Document.setRootAttribute_of_accepts {scope : Scope} {root : Element}
    {name value : String} (h : scope.Accepts (name, value)) :
    (Document.mk scope root).setRootAttribute name value =
      .ok ⟨scope, root.setAttribute name value⟩ := by
  rw [setRootAttribute, Scope.setAttribute_of_accepts h]
  rfl

namespace Reporter

variable {report : Report}

/-- The names that stand in a report belong to its scope. -/
private theorem check_scope : ∀ name ∈ ["ows:ExceptionReport", "language", "xsi:schemaLocation",
    "ows:Exception", "exceptionCode", "locator", "ows:ExceptionText"],
    scope.check name = .ok () := by
  decide +kernel

private theorem accepts_attributes (hcode : isWritableText report.code) :
    ∀ entry ∈ attributes report, scope.Accepts entry := by
  unfold attributes
  refine List.forall_mem_cons.2 ⟨⟨hcode, check_scope _ (by simp)⟩, ?_⟩
  split
  · exact List.forall_mem_singleton.2 ⟨isWritableText_writable _, check_scope _ (by simp)⟩
  · exact fun _ h => nomatch h

theorem sublist_attributes (report : Report) :
    ((attributes report).map Prod.fst).Sublist ["exceptionCode", "locator"] := by
  unfold attributes
  split
  · exact List.Sublist.refl _
  · exact List.sublist_append_left ["exceptionCode"] _

theorem nodup_attributes (report : Report) : ((attributes report).map Prod.fst).Nodup :=
  (sublist_attributes report).nodup (by decide)

/-- The root of a report. -/
def root (reporter : Reporter) (report : Report) : Element :=
  .ofChildren "ows:ExceptionReport"
    (scope.bindings.map Document.declaration ++ [("version", reporter.version),
      ("language", "en-US"), ("xsi:schemaLocation", schemaLocation)])
    [.ofChildren "ows:Exception" (attributes report)
      [.ofText "ows:ExceptionText" (writable report.message)]]

private theorem document_eq_withBody (reporter : Reporter) (report : Report) :
    reporter.document report =
      (Document.mk scope { reporter.root report with children := [] }).withBody
        (scope.node "ows:Exception" (attributes report)
          (scope.leaf "ows:ExceptionText" (writable report.message) [])) := by
  have hwritable : isWritableText "en-US" ∧ isWritableText schemaLocation := by decide +kernel
  have hlanguage : scope.Accepts ("language", "en-US") :=
    ⟨hwritable.1, check_scope _ (by simp)⟩
  have hlocation : scope.Accepts ("xsi:schemaLocation", schemaLocation) :=
    ⟨hwritable.2, check_scope _ (by simp)⟩
  unfold document Document.create
  rw [check_scope "ows:ExceptionReport" (by simp)]
  simp only [bind, Except.bind, pure, Except.pure]
  rw [Document.setRootAttribute_of_accepts hlanguage]
  dsimp only
  rw [Document.setRootAttribute_of_accepts hlocation]
  rfl

/-- A report whose code can be carried has a document, whatever it says and names, and no other
report has one. -/
theorem document_eq_ok_iff {reporter : Reporter} {document : Document} :
    reporter.document report = .ok document ↔
      isWritableText report.code ∧ document = ⟨scope, reporter.root report⟩ := by
  have htext : (scope.leaf "ows:ExceptionText" (writable report.message) []).failure = none :=
    Scope.failure_leaf_eq_none.2 ⟨isWritableText_writable _, check_scope _ (by simp), by simp⟩
  rw [document_eq_withBody]
  unfold Document.withBody
  split
  · next hbody =>
    refine iff_of_false (fun h => nomatch h) fun ⟨hcode, _⟩ => ?_
    rw [Scope.failure_node_eq_none.2 ⟨check_scope _ (by simp), accepts_attributes hcode, htext⟩]
      at hbody
    cases hbody
  · next hbody =>
    obtain ⟨-, hattributes, -⟩ := Scope.failure_node_eq_none.1 hbody
    have hcode : isWritableText report.code := (hattributes _ List.mem_cons_self).1
    rw [Scope.elements_node hbody, Scope.elements_leaf htext,
      Assoc.ofPairs_of_nodup (nodup_attributes report), Except.ok.injEq, and_iff_right hcode,
      eq_comm]
    rfl

theorem document_eq (reporter : Reporter) (hcode : isWritableText report.code) :
    reporter.document report = .ok ⟨scope, reporter.root report⟩ :=
  document_eq_ok_iff.2 ⟨hcode, rfl⟩

end Reporter

/-! ## Documents can be serialized -/

/-- The encodings in which every document can be written. -/
def Settings.commonEncodings : List String :=
  ["ISO-8859-1", "US-ASCII", "UTF-8"]

/-- In a common encoding the whole document is written. -/
theorem Xml.Document.exists_serialize {encoding : String}
    (h : encoding ∈ Settings.commonEncodings) :
    ∃ charset ∈ Text.Charset.common, Text.Charset.ofName? encoding = some charset ∧
      ∀ (document : Document) (codecs : Text.Codecs), document.serialize codecs encoding =
        .ok (.bytes (charset.write (document.chars encoding))) := by
  have hname : ∀ encoding ∈ Settings.commonEncodings,
      encoding ≠ "unicode" ∧ encoding.toLower ≠ "unicode" ∧
      Document.declaredEncoding encoding = encoding ∧ encoding.toList.contains '\x00' = false ∧
      ∃ charset ∈ Text.Charset.common, Text.Charset.ofName? encoding = some charset := by
    decide +kernel
  obtain ⟨hunicode, hcapitals, hdeclared, hnul, charset, hcommon, hcharset⟩ := hname encoding h
  refine ⟨charset, hcommon, hcharset, fun document codecs => ?_⟩
  unfold serialize
  rw [if_neg hunicode, if_neg hcapitals]
  simp only [hdeclared, hnul, Text.Codecs.find?, hcharset, Bool.false_eq_true, if_false]

/-- A document is serialized to bytes where its encoding is that of a codec which can write it. -/
theorem Xml.Document.serialize_eq_bytes_iff {document : Document} {codecs : Text.Codecs}
    {encoding : String} {content : Bytes} :
    document.serialize codecs encoding = .ok (.bytes content) ↔
      encoding.toLower ≠ "unicode" ∧ '\x00' ∉ (declaredEncoding encoding).toList ∧
        ∃ write, codecs.find? (declaredEncoding encoding) = some write ∧
          write (document.chars (declaredEncoding encoding)) = some content := by
  unfold serialize
  by_cases hcapitals : encoding.toLower = "unicode"
  · simp only [hcapitals, ne_eq, not_true_eq_false, false_and, iff_false, if_true]
    split <;> simp
  · have hunicode : encoding ≠ "unicode" := by
      rintro rfl
      exact hcapitals (by decide +kernel)
    rw [if_neg hunicode, if_neg hcapitals]
    dsimp only
    by_cases hnul : '\x00' ∈ (declaredEncoding encoding).toList
    · simp [hnul]
    · cases hfind : codecs.find? (declaredEncoding encoding) with
      | none => simp [hnul]
      | some write =>
        cases hwrite : write (document.chars (declaredEncoding encoding)) <;>
          simp [hnul, hcapitals, hwrite]

theorem Xml.Document.exists_payload {encoding : String} (document : Document)
    (codecs : Text.Codecs) (indent : Bool) (h : encoding ∈ Settings.commonEncodings) :
    ∃ content, document.payload codecs encoding indent = .ok (.bytes content) := by
  obtain ⟨_, -, -, hserialize⟩ := exists_serialize h
  exact ⟨_, hserialize _ _⟩

theorem Reporter.exists_payload {reporter : Reporter} {report : Report}
    (hcode : isWritableText report.code) (h : reporter.encoding ∈ Settings.commonEncodings) :
    ∃ content, reporter.payload report = .ok (.bytes content) := by
  obtain ⟨content, hcontent⟩ :=
    (Document.mk scope (reporter.root report)).exists_payload reporter.codecs true h
  refine ⟨content, ?_⟩
  rw [payload, document_eq reporter hcode]
  exact hcontent

/-! ## Reports on a transport -/

namespace Reporter

variable {reporter : Reporter} {report : Report} {content : Bytes} {inMemory : Bool}

/-- The transport to which a report is written: one without headers gets those of reports. -/
def opened (report : Report) (transport : Transport) : Transport :=
  if transport.headersSent then transport
  else
    { transport with
      contentType := some "text/xml", status := report.status, headersSent := true,
      output := transport.output ++ Transport.headerLine "text/xml" }

theorem headersSent_opened (report : Report) (transport : Transport) :
    (opened report transport).headersSent = true := by
  unfold opened
  split
  · assumption
  · rfl

theorem opened_of_sent {transport : Transport} (h : transport.headersSent = true) :
    opened report transport = transport :=
  if_pos h

theorem start_opened {transport : Transport} (h : transport.headersSent = false) :
    Transport.start "text/xml" report.status transport = .ok () (opened report transport) := by
  rw [Transport.start_of_unsent h (by decide), opened, h]
  rfl

theorem send_of_ok {payload : Payload} (h : reporter.payload report = .ok payload)
    (transport : Transport) :
    reporter.send report transport =
      Transport.writePayload payload (opened report transport) := by
  have hget : (get : Sending Transport) transport = .ok transport transport := rfl
  unfold send
  simp only [bind, EStateM.bind, hget, h]
  cases hsent : transport.headersSent with
  | true =>
    rw [opened_of_sent hsent]
    rfl
  | false => simp only [Bool.not_false, if_true, EStateM.bind, start_opened hsent]

theorem send_of_error {failure : Failure} (h : reporter.payload report = .error failure)
    (transport : Transport) :
    reporter.send report transport = .error failure (opened report transport) := by
  have hget : (get : Sending Transport) transport = .ok transport transport := rfl
  unfold send
  simp only [bind, EStateM.bind, hget, h]
  cases hsent : transport.headersSent with
  | true =>
    rw [opened_of_sent hsent]
    rfl
  | false =>
    simp only [Bool.not_false, if_true, EStateM.bind, start_opened hsent]
    rfl

/-- A report is written if it is serialized to bytes. -/
theorem send_of_bytes (h : reporter.payload report = .ok (.bytes content))
    (transport : Transport) :
    reporter.send report transport = .ok () ((opened report transport).push content) := by
  rw [send_of_ok h]
  exact if_pos (headersSent_opened report transport)

/-- Of any other report there are the headers alone. -/
theorem exists_send_of_not_bytes
    (h : ∀ content, reporter.payload report ≠ .ok (.bytes content)) (transport : Transport) :
    ∃ failure, reporter.send report transport = .error failure (opened report transport) := by
  cases hpayload : reporter.payload report with
  | error failure => exact ⟨failure, send_of_error hpayload transport⟩
  | ok payload =>
    cases payload with
    | bytes content => exact absurd hpayload (h content)
    | characters content => exact ⟨_, send_of_ok hpayload transport⟩

theorem opened_fresh : opened report (.fresh inMemory) =
    .carrying "text/xml" report.status [] inMemory := by
  simp [opened, Transport.fresh, Transport.carrying]

theorem send_fresh (h : reporter.payload report = .ok (.bytes content)) :
    reporter.send report (.fresh inMemory) =
      .ok () (.carrying "text/xml" report.status content inMemory) := by
  rw [send_of_bytes h, opened_fresh, Transport.push_carrying, List.nil_append]

end Reporter

namespace Service

variable {service : Service}

theorem version_version (requested : String) :
    service.version (service.version requested) = service.version requested := by
  unfold version
  split
  · simp
  · rfl

/-- Without a document nothing is written. -/
theorem respond_of_error {build : RequestParameters → Except Failure Document}
    {exchange : Exchange} {failure : Failure} (h : build exchange.parameters = .error failure) :
    service.respond build exchange = .error failure exchange.release := by
  have hget : (get : Answering Exchange) exchange = .ok exchange exchange := rfl
  have hthrow : (throw failure : Answering Document) exchange = .error failure exchange := rfl
  simp only [respond, Exchange.releasing, bind, EStateM.bind, hget, h, hthrow]

/-- A document is written as a whole. -/
theorem respond_of_ok {build : RequestParameters → Except Failure Document}
    {parameters : RequestParameters} {document : Document} {content : Bytes} {inMemory : Bool}
    (h : build parameters = .ok document)
    (hcontent : service.payload document = .ok (.bytes content)) :
    service.respond build ⟨parameters, .fresh inMemory⟩ =
      .ok () ⟨parameters.release, .carrying "text/xml" 200 content inMemory⟩ := by
  have hstart : Transport.start "text/xml" 200 (.fresh inMemory) =
      .ok () (.carrying "text/xml" 200 [] inMemory) := Transport.start_fresh (by decide)
  have hget (exchange : Exchange) : (get : Answering Exchange) exchange = .ok exchange exchange :=
    rfl
  simp only [respond, Exchange.releasing, bind, EStateM.bind, hget, h, pure, EStateM.pure, hcontent,
    Exchange.sending, Exchange.release, hstart, Transport.writePayload_carrying, List.nil_append]

theorem run_of_ok {operation : Answering Unit} {exchange after : Exchange}
    (h : operation (service.defaultVersion exchange) = .ok () after) :
    ∃ parameters, service.run operation exchange = .ok true ⟨parameters, after.transport⟩ := by
  simp only [run, reporting, h]
  split <;> exact ⟨_, rfl⟩

/-- A failure that is no report goes on. -/
theorem run_of_error {operation : Answering Unit} {exchange after : Exchange} {failure : Failure}
    (h : operation (service.defaultVersion exchange) = .error failure after)
    (hfailure : ∀ report, failure ≠ .reported report) :
    ∃ parameters, service.run operation exchange =
      .error failure ⟨parameters, after.transport⟩ := by
  have hreporting : service.reporting operation (service.defaultVersion exchange) =
      .error failure after := by
    unfold reporting
    rw [h]
    cases failure with
    | reported report => exact absurd rfl (hfailure report)
    | _ => rfl
  simp only [run, hreporting]
  split <;> exact ⟨_, rfl⟩

/-- A report is sent wherever an operation stopped. -/
theorem run_of_reported {operation : Answering Unit} {exchange after : Exchange} {report : Report}
    {transport : Transport}
    (h : operation (service.defaultVersion exchange) = .error (.reported report) after)
    (hsend : service.reporter.send report after.transport = .ok () transport) :
    ∃ parameters, service.run operation exchange = .ok false ⟨parameters, transport⟩ := by
  have hreporting : service.reporting operation (service.defaultVersion exchange) =
      .ok false ⟨after.parameters, transport⟩ := by
    simp only [reporting, h, bind, EStateM.bind, Exchange.sending, hsend, pure, EStateM.pure]
  simp only [run, hreporting]
  split <;> exact ⟨_, rfl⟩

/-- A failure to send a report goes on. -/
theorem run_of_unreported {operation : Answering Unit} {exchange after : Exchange}
    {report : Report} {failure : Failure} {transport : Transport}
    (h : operation (service.defaultVersion exchange) = .error (.reported report) after)
    (hsend : service.reporter.send report after.transport = .error failure transport) :
    ∃ parameters, service.run operation exchange = .error failure ⟨parameters, transport⟩ := by
  have hreporting : service.reporting operation (service.defaultVersion exchange) =
      .error failure ⟨after.parameters, transport⟩ := by
    simp only [reporting, h, bind, EStateM.bind, Exchange.sending, hsend]
  simp only [run, hreporting]
  split <;> exact ⟨_, rfl⟩

end Service

/-! ## Operations that answer with a document -/

/-- The operations that answer with an XML document. -/
inductive DocumentOperation where
  | capabilities (origin : Option Origin)
  | description

theorem Report.status_eq (report : Report) :
    report.status = if report.kind = .coverageNotDefined then 400 else 500 := by
  unfold Report.status
  cases report.kind <;> rfl

namespace DocumentOperation

/-- The document that answers a request, if it can be built. -/
def document (service : Service) (parameters : RequestParameters) :
    DocumentOperation → Except Failure Document
  | capabilities origin =>
    Capabilities.document service.library service.map origin (service.version parameters.version)
  | description =>
    Description.document service.library service.map parameters.coverages
      (service.version parameters.version)

/-- The operation as the service carries it out. -/
def answer (service : Service) : DocumentOperation → Answering Bool
  | capabilities origin => service.getCapabilities origin
  | description => service.describeCoverage

/-- The three ways in which an operation ends on a transport to which nothing was written, when
`built` is what building its document gave. -/
inductive Ending (service : Service) (inMemory : Bool) (built : Except Failure Document) :
    EStateM.Result Failure Exchange Bool → Prop
  /-- The header line and the document were written. -/
  | answered {document : Document} {content : Bytes} {parameters : RequestParameters} :
      built = .ok document →
      service.payload document = .ok (.bytes content) →
      Ending service inMemory built
        (.ok true ⟨parameters, .carrying "text/xml" 200 content inMemory⟩)
  /-- The header line and a report were written. -/
  | reported {report : Report} {content : Bytes} {parameters : RequestParameters} :
      built = .error (.reported report) →
      service.reporter.payload report = .ok (.bytes content) →
      Ending service inMemory built
        (.ok false ⟨parameters, .carrying "text/xml"
          (if report.kind = .coverageNotDefined then 400 else 500) content inMemory⟩)
  /-- A failure that is no report goes on, and nothing was written. -/
  | escaped {failure : Failure} {parameters : RequestParameters} :
      built = .error failure → (∀ report, failure ≠ .reported report) →
      Ending service inMemory built (.error failure ⟨parameters, .fresh inMemory⟩)

variable {service : Service} {operation : DocumentOperation} {parameters : RequestParameters}
  {failure : Failure}

theorem answer_eq : operation.answer service =
    service.run (service.respond fun parameters => operation.document service parameters) := by
  cases operation <;> rfl

/-- Filling in an empty version does not change the document. -/
theorem document_defaultVersion (exchange : Exchange) :
    operation.document service (service.defaultVersion exchange).parameters =
      operation.document service exchange.parameters := by
  cases operation <;>
    simp only [document, Service.defaultVersion, Service.version_version]

theorem reportable_of_document (h : operation.document service parameters = .error failure) :
    failure.Reportable := by
  cases operation with
  | capabilities origin => exact Capabilities.reportable_of_document h
  | description => exact Description.reportable_of_document h

theorem ending (operation : DocumentOperation) (parameters : RequestParameters) (inMemory : Bool)
    (h : service.settings.encoding ∈ Settings.commonEncodings) :
    Ending service inMemory (operation.document service parameters)
      (operation.answer service ⟨parameters, .fresh inMemory⟩) := by
  let build := fun parameters => operation.document service parameters
  let start := service.defaultVersion ⟨parameters, .fresh inMemory⟩
  have hbuild : build start.parameters = operation.document service parameters :=
    document_defaultVersion _
  rw [answer_eq]
  cases hdocument : operation.document service parameters with
  | ok document =>
    obtain ⟨content, hcontent⟩ : ∃ content, service.payload document = .ok (.bytes content) :=
      document.exists_payload service.codecs service.settings.prettyPrint h
    have hrespond : service.respond build start =
        .ok () ⟨start.parameters.release, .carrying "text/xml" 200 content inMemory⟩ :=
      Service.respond_of_ok (hbuild.trans hdocument) hcontent
    obtain ⟨_, hrun⟩ := Service.run_of_ok hrespond
    rw [hrun]
    exact .answered rfl hcontent
  | error failure =>
    have hrespond : service.respond build start =
        .error failure ⟨start.parameters.release, .fresh inMemory⟩ :=
      Service.respond_of_error (hbuild.trans hdocument)
    by_cases hreport : ∃ report, failure = .reported report
    · obtain ⟨report, rfl⟩ := hreport
      have hcode := (reportable_of_document hdocument).code report rfl
      obtain ⟨content, hpayload⟩ : ∃ content, service.reporter.payload report =
          .ok (.bytes content) :=
        Reporter.exists_payload hcode h
      obtain ⟨_, hrun⟩ := Service.run_of_reported hrespond (Reporter.send_fresh hpayload)
      rw [hrun, report.status_eq]
      exact .reported rfl hpayload
    · have hother : ∀ report, failure ≠ .reported report := fun report heq => hreport ⟨report, heq⟩
      obtain ⟨_, hrun⟩ := Service.run_of_error hrespond hother
      rw [hrun]
      exact .escaped rfl hother

theorem Ending.succeeded_iff {built : Except Failure Document} {inMemory : Bool}
    {result : EStateM.Result Failure Exchange Bool} (h : Ending service inMemory built result) :
    (∃ exchange, result = .ok true exchange) ↔ ∃ document, built = .ok document := by
  cases h with
  | answered hbuilt _ => exact iff_of_true ⟨_, rfl⟩ ⟨_, hbuilt⟩
  | reported hbuilt _ => exact iff_of_false (fun ⟨_, h⟩ => nomatch h) (by simp [hbuilt])
  | escaped hbuilt _ => exact iff_of_false (fun ⟨_, h⟩ => nomatch h) (by simp [hbuilt])

theorem Ending.reported_iff {built : Except Failure Document} {inMemory : Bool}
    {result : EStateM.Result Failure Exchange Bool} (h : Ending service inMemory built result) :
    (∃ exchange, result = .ok false exchange) ↔ ∃ report, built = .error (.reported report) := by
  cases h with
  | answered hbuilt _ => exact iff_of_false (fun ⟨_, h⟩ => nomatch h) (by simp [hbuilt])
  | reported hbuilt _ => exact iff_of_true ⟨_, rfl⟩ ⟨_, hbuilt⟩
  | escaped hbuilt hother =>
    exact iff_of_false (fun ⟨_, h⟩ => nomatch h) (by simpa [hbuilt] using hother)

/-- An operation succeeds if its document can be built and is then all that was written. It answers
with a report if a report is why the document could not be built, and the report is then all that
was written. Otherwise nothing was. -/
theorem answer_all_or_nothing (service : Service) (operation : DocumentOperation)
    (parameters : RequestParameters) (inMemory : Bool)
    (h : service.settings.encoding ∈ Settings.commonEncodings) :
    let built := operation.document service parameters
    let result := operation.answer service ⟨parameters, .fresh inMemory⟩
    Ending service inMemory built result ∧
      ((∃ exchange, result = .ok true exchange) ↔ ∃ document, built = .ok document) ∧
      ((∃ exchange, result = .ok false exchange) ↔
        ∃ report, built = .error (.reported report)) := by
  have hending := operation.ending parameters inMemory h
  exact ⟨hending, hending.succeeded_iff, hending.reported_iff⟩

/-- A service of one coverage. -/
def elevationService : Service where
  map := { MapDefinition.empty with layers := [Grid.sizedLayer "dem" "10 10"] }
  settings := ⟨"UTF-8", true, "1.1.0", "1.1.0"⟩
  encoder := rawEncoder
  library := Grid.plainLibrary
  codecs := .none

/-- The service describes its coverage. -/
theorem elevationService_describes :
    ∃ exchange, elevationService.describeCoverage ⟨⟨"", none, [], none, false⟩, .fresh true⟩ =
      .ok true exchange := by
  have hbuilt : (description.document elevationService ⟨"", none, [], none, false⟩).isOk := by
    decide +kernel
  have hanswer := answer_all_or_nothing elevationService .description
    ⟨"", none, [], none, false⟩ true (by decide)
  exact hanswer.2.1.2 (Fragment.exists_of_isOk hbuilt)

end DocumentOperation

end WebCoverage
