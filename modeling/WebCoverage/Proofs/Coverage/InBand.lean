import WebCoverage.Proofs.Coverage.Delivery
import WebCoverage.Proofs.Coverage.Selection
import WebCoverage.Proofs.Report.Unsent

/-! Failures that the client is told. A request for a coverage ends in an answer unless the headers
of the data are not in ASCII or the encoder fails with a report that cannot be carried
(`Coverage.getCoverage_in_band`). The last that is written of an answer without success is a
report. -/

namespace WebCoverage

open Xml

namespace Coverage

variable {encoder : Encoder} {map : MapDefinition} {requested : Option String} {image : Image}
  {inMemory : Bool}

/-! ## Failures that escape -/

/-- The two ways in which a failure escapes after the first part was written. -/
inductive Escapes (encoder : Encoder) (map : MapDefinition) (requested : Option String)
    (image : Image) : Prop
  /-- The headers of the data are not in ASCII. -/
  | unlabelled {format : OutputFormat} :
      selectFormat map requested = .ok format → isWritableText format.fileExtension →
      ¬(Text.IsAscii format.mimeType ∧ Text.IsAscii format.fileExtension) →
      Escapes encoder map requested image
  /-- The encoder fails with a failure of its own, whose report cannot be written. -/
  | untold {format : OutputFormat} {failure : Failure} :
      selectFormat map requested = .ok format → isWritableText format.fileExtension →
      Text.IsAscii format.mimeType → Text.IsAscii format.fileExtension →
      encoder image format = .error failure → failure.kind = .report .imageEncoding →
      ¬failure.IsTold → Escapes encoder map requested image

theorem encode_of_own {format : OutputFormat} {failure : Failure}
    (h : encoder image format = .error failure) (hkind : failure.kind = .report .imageEncoding) :
    encode encoder image format = .error failure := by
  unfold encode
  rw [h]
  exact if_pos hkind

/-- What escapes does so after the manifest was written, at the headers of the data or at the
data. -/
theorem Escapes.of_selected {format : OutputFormat} (h : Escapes encoder map requested image)
    (hselect : selectFormat map requested = .ok format) :
    isWritableText format.fileExtension ∧
      (¬(Text.IsAscii format.mimeType ∧ Text.IsAscii format.fileExtension) ∨
        ∃ failure, encode encoder image format = .error failure ∧ ¬failure.IsTold) := by
  cases h with
  | unlabelled hother hextension hheaders =>
    cases hselect.symm.trans hother
    exact ⟨hextension, .inl hheaders⟩
  | untold hother hextension _ _ hfailed hkind huntold =>
    cases hselect.symm.trans hother
    exact ⟨hextension, .inr ⟨_, encode_of_own hfailed hkind, huntold⟩⟩

theorem Delivery.not_escapes {transport : Transport}
    (h : Delivery encoder map requested image inMemory (.ok () transport)) :
    ¬Escapes encoder map requested image := by
  cases h with
  | delivered hselect _ hascii hencode =>
    intro hescapes
    obtain ⟨-, hheaders | ⟨failure, hfailed, -⟩⟩ := hescapes.of_selected hselect
    · exact hheaders (isAscii_dataHeaders_iff.1 hascii)
    · cases hencode.symm.trans hfailed

/-- What escapes is what cannot be told, wherever sending stops. -/
theorem Delivery.escapes_iff_untold {failure : Failure} {stopped : Transport}
    (h : Delivery encoder map requested image inMemory (.error failure stopped)) :
    Escapes encoder map requested image ↔ ¬failure.IsTold := by
  cases h with
  | unselected hselect =>
    have htold := isTold_of_selectFormat hselect
    refine iff_of_false (fun hescapes => ?_) (fun huntold => huntold htold)
    cases hescapes with
    | unlabelled hother | untold hother => cases hselect.symm.trans hother
  | undescribed hselect hextension =>
    refine iff_of_false (fun hescapes => ?_) (fun huntold => huntold (Failure.isTold_ofKind ..))
    exact hextension (hescapes.of_selected hselect).1
  | unlabelled hselect hextension hascii =>
    refine iff_of_true ?_ (fun ⟨_, heq, _⟩ => nomatch heq)
    exact .unlabelled hselect hextension (isAscii_dataHeaders_iff.not.1 hascii)
  | unencoded hselect hextension hascii hencode =>
    have hlabels := isAscii_dataHeaders_iff.1 hascii
    constructor
    · intro hescapes
      obtain ⟨-, hheaders | ⟨failure, hfailed, huntold⟩⟩ := hescapes.of_selected hselect
      · exact absurd hlabels hheaders
      · cases hencode.symm.trans hfailed
        exact huntold
    · intro huntold
      rcases encode_eq_error_cases hencode with ⟨hfailed, hkind⟩ | ⟨cause, rfl⟩
      · exact .untold hselect hextension hlabels.1 hlabels.2 hfailed hkind huntold
      · exact absurd (Failure.isTold_ofKind ..) huntold

/-! ## Answers -/

variable {service : Service} {result : EStateM.Result Failure Exchange Bool}

theorem Ending.answered_iff (hencoding : service.settings.encoding ∈ Settings.commonEncodings)
    (h : Ending service requested image inMemory result) :
    (∃ succeeded after, result = .ok succeeded after) ↔
      ¬Escapes service.encoder service.map requested image := by
  have hdelivery := delivery service.encoder service.map requested image inMemory
  cases h with
  | delivered hsend =>
    rw [hsend] at hdelivery
    exact iff_of_true ⟨_, _, rfl⟩ hdelivery.not_escapes
  | @reported report stopped content _ hsend hpayload =>
    have hcode := (Reporter.exists_payload_iff.1 ⟨content, hpayload⟩).1
    rw [hsend] at hdelivery
    refine iff_of_true ⟨_, _, rfl⟩ fun hescapes => ?_
    exact hdelivery.escapes_iff_untold.1 hescapes (Failure.isTold_reported_iff.2 hcode)
  | @unreported report stopped _ _ hsend hpayload =>
    have hcode : ¬isWritableText report.code := fun hcode =>
      have ⟨content, hcontent⟩ := Reporter.exists_payload hcode hencoding
      hpayload content hcontent
    rw [hsend] at hdelivery
    refine iff_of_false nofun (not_not.2 (hdelivery.escapes_iff_untold.2 ?_))
    exact Failure.isTold_reported_iff.not.2 hcode
  | escaped hsend hother =>
    rw [hsend] at hdelivery
    refine iff_of_false nofun (not_not.2 (hdelivery.escapes_iff_untold.2 ?_))
    exact fun ⟨report, heq, _⟩ => hother report heq

theorem Ending.report_last {after : Exchange}
    (h : Ending service requested image inMemory (.ok false after)) :
    ∃ report stopped content,
      send service.encoder service.map requested image (.fresh inMemory) =
          .error (.reported report) stopped ∧
        service.reporter.payload report = .ok (.bytes content) ∧
        after.transport.output = (Reporter.opened report stopped).output ++ content := by
  cases h with
  | @reported report stopped content _ hsend hpayload =>
    exact ⟨report, stopped, content, hsend, hpayload, rfl⟩

/-- A request for a coverage is answered unless its failure escapes, and an answer that is no
success ends in one whole report, after what was written before. -/
theorem getCoverage_in_band (service : Service) (parameters : RequestParameters) (image : Image)
    (inMemory : Bool) (hencoding : service.settings.encoding ∈ Settings.commonEncodings) :
    let result := service.getCoverage image ⟨parameters, .fresh inMemory⟩
    ((∃ succeeded after, result = .ok succeeded after) ↔
        ¬Escapes service.encoder service.map parameters.format image) ∧
      ∀ after, result = .ok false after → ∃ report stopped content,
        send service.encoder service.map parameters.format image (.fresh inMemory) =
            .error (.reported report) stopped ∧
          service.reporter.payload report = .ok (.bytes content) ∧
          after.transport.output = (Reporter.opened report stopped).output ++ content := by
  have hending := ending service parameters image inMemory
  refine ⟨hending.answered_iff hencoding, fun after hafter => ?_⟩
  rw [hafter] at hending
  exact hending.report_last

/-- A service with one output format, which writes samples as they are. -/
def tiffService (mimeType : String) : Service where
  map := formatMap [("GTiff", mimeType)]
  settings := ⟨"ISO-8859-1", true, "1.1.0", "1.1.0"⟩
  encoder := rawEncoder
  library := Grid.plainLibrary
  codecs := .none

theorem selectFormat_tiffService : ∀ mimeType ∈ ["image/tiff", "image/é"],
    selectFormat (tiffService mimeType).map (some "GTiff") =
      .ok ⟨"GTiff", "", .rawData, mimeType, ""⟩ := by
  decide +kernel

/-- What is no image is answered. -/
theorem getCoverage_in_band_tiff :
    ∃ succeeded after, (tiffService "image/tiff").getCoverage (.other "NoneType")
      ⟨⟨"", none, [], some "GTiff", false⟩, .fresh true⟩ = .ok succeeded after := by
  have hband := getCoverage_in_band (tiffService "image/tiff") ⟨"", none, [], some "GTiff", false⟩
    (.other "NoneType") true (by decide)
  have hformat := selectFormat_tiffService "image/tiff" (by simp)
  refine hband.1.2 fun hescapes => ?_
  cases hescapes with
  | unlabelled hselect _ hheaders =>
    cases hformat.symm.trans hselect
    exact hheaders (by decide)
  | untold hselect _ _ _ hfailed _ huntold =>
    cases hformat.symm.trans hselect
    cases hfailed
    exact huntold (Failure.isTold_ofKind ..)

/-- A letter with an accent in a MIME type keeps the service from answering. -/
theorem not_in_band_accented :
    (tiffService "image/é").settings.encoding ∈ Settings.commonEncodings ∧
      ¬∃ succeeded after, (tiffService "image/é").getCoverage (.other "NoneType")
        ⟨⟨"", none, [], some "GTiff", false⟩, .fresh true⟩ = .ok succeeded after := by
  have hencoding : (tiffService "image/é").settings.encoding ∈ Settings.commonEncodings := by
    decide
  have hending := ending (tiffService "image/é") ⟨"", none, [], some "GTiff", false⟩
    (.other "NoneType") true
  refine ⟨hencoding, fun hanswered => (hending.answered_iff hencoding).1 hanswered ?_⟩
  exact .unlabelled (selectFormat_tiffService "image/é" (by simp)) (by decide) (by decide)

end Coverage

end WebCoverage
