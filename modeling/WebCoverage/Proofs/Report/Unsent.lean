import WebCoverage.Proofs.AllOrNothing

/-! Reports that are not sent. The headers of a report are committed before its document is built
and serialized, either of which can fail. So a transport is left as it was if it has headers, or if
nothing can fail: if the code of the report can be carried and its document can be written in the
encoding (`Reporter.send_untouched_iff`). -/

namespace WebCoverage

open Xml

namespace Reporter

variable {reporter : Reporter} {report : Report} {transport : Transport}

/-- The document of a report whose code can be carried. -/
def tree (reporter : Reporter) (report : Report) : Document :=
  ⟨scope, reporter.root report⟩

/-- Some encoding of the reporter, its own or one that it is given, writes the document of the
report. -/
def Encodes (reporter : Reporter) (report : Report) : Prop :=
  let declared := Document.declaredEncoding reporter.encoding
  reporter.encoding.toLower ≠ "unicode" ∧ '\x00' ∉ declared.toList ∧
    ∃ write, reporter.codecs.find? declared = some write ∧
      (write ((reporter.tree report).indented.chars declared)).isSome

/-- A report that can be sent: its code can be carried, and its document is bytes in the
encoding. -/
def Sendable (reporter : Reporter) (report : Report) : Prop :=
  isWritableText report.code ∧ reporter.Encodes report

theorem exists_payload_iff :
    (∃ content, reporter.payload report = .ok (.bytes content)) ↔ reporter.Sendable report := by
  have hencodes :
      (∃ content, (reporter.tree report).payload reporter.codecs reporter.encoding true =
        .ok (.bytes content)) ↔ reporter.Encodes report := by
    simp only [Document.payload, if_true, Document.serialize_eq_bytes_iff, Encodes,
      Option.isSome_iff_exists]
    constructor
    · rintro ⟨content, hcapitals, hnul, write, hfind, hwrite⟩
      exact ⟨hcapitals, hnul, write, hfind, content, hwrite⟩
    · rintro ⟨hcapitals, hnul, write, hfind, content, hwrite⟩
      exact ⟨content, hcapitals, hnul, write, hfind, hwrite⟩
  constructor
  · rintro ⟨content, hcontent⟩
    obtain ⟨document, hdocument, hserialize⟩ := exists_of_bind_eq_ok hcontent
    obtain ⟨hcode, rfl⟩ := document_eq_ok_iff.1 hdocument
    exact ⟨hcode, hencodes.1 ⟨content, hserialize⟩⟩
  · rintro ⟨hcode, h⟩
    obtain ⟨content, hcontent⟩ := hencodes.2 h
    refine ⟨content, ?_⟩
    rw [payload, document_eq reporter hcode]
    exact hcontent

/-! ## What a failure leaves -/

theorem opened_eq_self_iff : opened report transport = transport ↔ transport.headersSent := by
  refine ⟨fun h => ?_, opened_of_sent⟩
  rw [← h]
  exact headersSent_opened report transport

/-- Sending fails if the report cannot be written, and leaves the headers behind. -/
theorem send_eq_error {failure : Failure} {after : Transport}
    (h : reporter.send report transport = .error failure after) :
    ¬reporter.Sendable report ∧ after = opened report transport := by
  by_cases hpayload : ∃ content, reporter.payload report = .ok (.bytes content)
  · obtain ⟨content, hcontent⟩ := hpayload
    rw [send_of_bytes hcontent] at h
    cases h
  · obtain ⟨_, hsend⟩ := exists_send_of_not_bytes (not_exists.1 hpayload) transport
    rw [hsend] at h
    cases h
    exact ⟨exists_payload_iff.not.1 hpayload, rfl⟩

/-- A report that is not sent leaves the transport as it was if and only if the transport had
headers. Any report is sent whose code can be carried and whose document can be written in the
encoding; no other is. -/
theorem send_untouched_iff (reporter : Reporter) (report : Report) (transport : Transport) :
    (∀ failure after, reporter.send report transport = .error failure after →
      ¬reporter.Sendable report ∧ after = opened report transport) ∧
    (¬reporter.Sendable report → ∃ failure,
      reporter.send report transport = .error failure (opened report transport)) ∧
    ((∀ failure after, reporter.send report transport = .error failure after →
      after = transport) ↔ transport.headersSent ∨ reporter.Sendable report) := by
  have hfails : ¬reporter.Sendable report →
      ∃ failure, reporter.send report transport = .error failure (opened report transport) :=
    fun hno => exists_send_of_not_bytes (not_exists.1 (exists_payload_iff.not.2 hno)) transport
  refine ⟨fun _ _ hsend => send_eq_error hsend, hfails, fun hsame => ?_,
    fun h failure after hsend => ?_⟩
  · by_contra hneither
    obtain ⟨hheaders, hno⟩ := not_or.1 hneither
    obtain ⟨failure, hsend⟩ := hfails hno
    exact hheaders (opened_eq_self_iff.1 (hsame failure _ hsend))
  · obtain ⟨hno, rfl⟩ := send_eq_error hsend
    exact opened_eq_self_iff.2 (h.resolve_right hno)

/-- A control character in the code leaves headers without a body. -/
theorem touched_of_control_code :
    ∃ failure, (Reporter.mk "1.1.0" "ISO-8859-1" .none).send ⟨.general, "boom", "\x01", none, none⟩
        (.fresh true) = .error failure (.carrying "text/xml" 500 [] true) ∧
      Transport.carrying "text/xml" 500 [] true ≠ .fresh true := by
  have hno : ¬∃ content, (Reporter.mk "1.1.0" "ISO-8859-1" .none).payload
      ⟨.general, "boom", "\x01", none, none⟩ = .ok (.bytes content) := by
    rw [exists_payload_iff]
    exact fun h => absurd h.1 (by decide)
  obtain ⟨failure, hsend⟩ := exists_send_of_not_bytes (not_exists.1 hno) (.fresh true)
  rw [opened_fresh] at hsend
  exact ⟨failure, hsend, by decide⟩

end Reporter

end WebCoverage
