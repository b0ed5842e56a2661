import WebCoverage.Proofs.Coverage.Manifest

/-! How the answer to a request for a coverage comes about. Sending stops at the first step that
fails, and what was written before stays (`Coverage.Delivery`). The service then writes a report
after it, if there is something to report (`Coverage.Ending`). -/

namespace WebCoverage

open Xml Multipart

/-! ## Texts in ASCII -/

def Text.IsAscii (text : String) : Prop :=
  ∀ c ∈ text.toList, c.toNat < 0x80

instance (text : String) : Decidable (Text.IsAscii text) :=
  List.decidableBAll (fun c : Char => c.toNat < 0x80) text.toList

namespace Text

variable {first second text : String}

theorem isAscii_append_iff : IsAscii (first ++ second) ↔ IsAscii first ∧ IsAscii second := by
  unfold IsAscii
  rw [String.toList_append, List.forall_mem_append]

theorem asciiBytes?_of_isAscii (h : IsAscii text) : asciiBytes? text = some (textBytes text) := by
  have hall : text.toList.all (·.toNat < 0x80) := by simpa [IsAscii] using h
  exact if_pos hall

theorem asciiBytes?_eq_none (h : ¬IsAscii text) : asciiBytes? text = none := by
  have hall : ¬text.toList.all (·.toNat < 0x80) := by simpa [IsAscii] using h
  exact if_neg hall

end Text

/-! ## Failures that are told -/

/-- The failure has a report, which can carry its code. -/
def Failure.IsTold (failure : Failure) : Prop :=
  ∃ report, failure = .reported report ∧ isWritableText report.code

theorem Failure.isTold_ofKind (kind : ReportKind) (message : String) (locator : Option String)
    (cause : Option FailureKind) : (ofKind kind message locator cause).IsTold :=
  ⟨_, rfl, (reportable_ofKind kind message locator cause).code _ rfl⟩

theorem Failure.isTold_reported_iff {report : Report} :
    (reported report).IsTold ↔ isWritableText report.code := by
  refine ⟨fun ⟨_, heq, hcode⟩ => ?_, fun hcode => ⟨report, rfl, hcode⟩⟩
  cases heq
  exact hcode

/-! ## Steps of writing -/

namespace Transport

variable {contentType text : String} {status : Int} {content more : Bytes} {inMemory : Bool}

theorem writeAscii_carrying (h : Text.IsAscii text) :
    writeAscii text (carrying contentType status content inMemory) =
      .ok () (carrying contentType status (content ++ textBytes text) inMemory) := by
  rw [writeAscii, Text.asciiBytes?_of_isAscii h]
  exact write_carrying

theorem writeAscii_of_not_isAscii (h : ¬Text.IsAscii text) (transport : Transport) :
    writeAscii text transport = .error (.plain .unencodable) transport := by
  rw [writeAscii, Text.asciiBytes?_eq_none h]

end Transport

/-! ## Sending -/

namespace Coverage

variable {encoder : Encoder} {map : MapDefinition} {requested : Option String} {image : Image}
  {format : OutputFormat} {inMemory : Bool} {data : Bytes} {failure : Failure}

/-- A transport to which the headers of a stream of parts and some of the stream were written. -/
def streaming (content : Bytes) (inMemory : Bool) : Transport :=
  .carrying "multipart/mixed; boundary=wcs" 200 content inMemory

/-- What is written before the manifest. -/
def beginning : Bytes :=
  textBytes manifestHeaders

/-- What is written before the data. -/
def opening (format : OutputFormat) : Bytes :=
  beginning ++ manifestBytes format.fileExtension ++ textBytes (dataHeaders format)

/-- What is written of a whole response. -/
def response (format : OutputFormat) (data : Bytes) : Bytes :=
  opening format ++ data ++ textBytes closing

/-- The ways in which sending on a transport to which nothing was written ends. -/
inductive Delivery (encoder : Encoder) (map : MapDefinition) (requested : Option String)
    (image : Image) (inMemory : Bool) : EStateM.Result Failure Transport Unit → Prop
  /-- There is no format, and nothing was written. -/
  | unselected {failure : Failure} :
      selectFormat map requested = .error failure →
      Delivery encoder map requested image inMemory (.error failure (.fresh inMemory))
  /-- The manifest cannot refer to the data. -/
  | undescribed {format : OutputFormat} :
      selectFormat map requested = .ok format → ¬isWritableText format.fileExtension →
      Delivery encoder map requested image inMemory
        (.error (.unwritable "xlink:href") (streaming beginning inMemory))
  /-- The headers of the data are not in ASCII. -/
  | unlabelled {format : OutputFormat} :
      selectFormat map requested = .ok format → isWritableText format.fileExtension →
      ¬Text.IsAscii (dataHeaders format) →
      Delivery encoder map requested image inMemory
        (.error (.plain .unencodable)
          (streaming (beginning ++ manifestBytes format.fileExtension) inMemory))
  /-- The image cannot be encoded. -/
  | unencoded {format : OutputFormat} {failure : Failure} :
      selectFormat map requested = .ok format → isWritableText format.fileExtension →
      Text.IsAscii (dataHeaders format) → encode encoder image format = .error failure →
      Delivery encoder map requested image inMemory
        (.error failure (streaming (opening format) inMemory))
  /-- All of the response was written. -/
  | delivered {format : OutputFormat} {data : Bytes} :
      selectFormat map requested = .ok format → isWritableText format.fileExtension →
      Text.IsAscii (dataHeaders format) → encode encoder image format = .ok data →
      Delivery encoder map requested image inMemory
        (.ok () (streaming (response format data) inMemory))

theorem start_streaming : Transport.start "multipart/mixed; boundary=wcs" 200 (.fresh inMemory) =
    .ok () (streaming [] inMemory) :=
  Transport.start_fresh (by decide)

theorem delivery (encoder : Encoder) (map : MapDefinition) (requested : Option String)
    (image : Image) (inMemory : Bool) :
    Delivery encoder map requested image inMemory
      (send encoder map requested image (.fresh inMemory)) := by
  have hbeginning : Transport.writeAscii manifestHeaders (streaming [] inMemory) =
      .ok () (streaming beginning inMemory) :=
    Transport.writeAscii_carrying (by decide)
  have hmanifest (extension : String) :
      Transport.writePayload (.bytes (manifestBytes extension)) (streaming beginning inMemory) =
        .ok () (streaming (beginning ++ manifestBytes extension) inMemory) :=
    Transport.writePayload_carrying
  have hheaders {format : OutputFormat} (hascii : Text.IsAscii (dataHeaders format)) :
      Transport.writeAscii (dataHeaders format)
          (streaming (beginning ++ manifestBytes format.fileExtension) inMemory) =
        .ok () (streaming (opening format) inMemory) :=
    Transport.writeAscii_carrying hascii
  have hdata (format : OutputFormat) (data : Bytes) :
      Transport.write data (streaming (opening format) inMemory) =
        .ok () (streaming (opening format ++ data) inMemory) :=
    Transport.write_carrying
  have hclosing (format : OutputFormat) (data : Bytes) :
      Transport.writeAscii closing (streaming (opening format ++ data) inMemory) =
        .ok () (streaming (response format data) inMemory) :=
    Transport.writeAscii_carrying (by decide)
  unfold send
  simp only [bind, EStateM.bind]
  cases hselect : selectFormat map requested with
  | error failure =>
    rw [orThrow_error]
    exact .unselected hselect
  | ok format =>
    rw [orThrow_ok]
    dsimp only
    rw [start_streaming]
    dsimp only
    rw [hbeginning]
    dsimp only
    by_cases hextension : isWritableText format.fileExtension
    · rw [manifest_of_writable hextension, orThrow_ok]
      dsimp only
      rw [hmanifest]
      dsimp only
      by_cases hascii : Text.IsAscii (dataHeaders format)
      · rw [hheaders hascii]
        dsimp only
        cases hencode : encode encoder image format with
        | error failure =>
          rw [orThrow_error]
          exact .unencoded hselect hextension hascii hencode
        | ok data =>
          rw [orThrow_ok]
          dsimp only
          rw [hdata]
          dsimp only
          rw [hclosing]
          exact .delivered hselect hextension hascii hencode
      · rw [Transport.writeAscii_of_not_isAscii hascii]
        exact .unlabelled hselect hextension hascii
    · rw [manifest_of_not_writable hextension, orThrow_error]
      exact .undescribed hselect hextension

/-- A failure to select a format is told. -/
theorem isTold_of_selectFormat {failure : Failure}
    (h : selectFormat map requested = .error failure) : failure.IsTold := by
  unfold selectFormat at h
  dsimp only at h
  split at h
  · split at h
    · cases h
    · cases h
      exact Failure.isTold_reported_iff.2 (show isWritableText "InvalidParameterValue" by decide)
  · split at h
    · cases h
    · cases h
      exact Failure.isTold_ofKind ..

theorem encode_eq_ok_iff :
    encode encoder image format = .ok data ↔ encoder image format = .ok data := by
  unfold encode
  cases encoder image format with
  | ok content => exact Iff.rfl
  | error failure =>
    refine iff_of_false (fun h => ?_) (fun h => nomatch h)
    dsimp only at h
    split at h <;> cases h

/-- Nothing else keeps a response from being sent. -/
theorem send_of_ok (hselect : selectFormat map requested = .ok format)
    (hextension : isWritableText format.fileExtension) (hascii : Text.IsAscii (dataHeaders format))
    (hencoder : encoder image format = .ok data) :
    send encoder map requested image (.fresh inMemory) =
      .ok () (streaming (response format data) inMemory) := by
  have hdelivery := delivery encoder map requested image inMemory
  generalize send encoder map requested image (.fresh inMemory) = result at hdelivery ⊢
  cases hdelivery with
  | unselected hnone => cases hselect.symm.trans hnone
  | undescribed hother hnot =>
    cases hselect.symm.trans hother
    exact absurd hextension hnot
  | unlabelled hother _ hnot =>
    cases hselect.symm.trans hother
    exact absurd hascii hnot
  | unencoded hother _ _ hfailed =>
    cases hselect.symm.trans hother
    cases (encode_eq_ok_iff.2 hencoder).symm.trans hfailed
  | delivered hother _ _ hencode =>
    cases hselect.symm.trans hother
    cases (encode_eq_ok_iff.2 hencoder).symm.trans hencode
    rfl

/-- An encoder's own failure goes on, any other becomes the cause of one. -/
theorem encode_eq_error_cases (h : encode encoder image format = .error failure) :
    (encoder image format = .error failure ∧ failure.kind = .report .imageEncoding) ∨
      ∃ cause, failure =
        .imageEncoding s!"Failed to encode coverage as {format.name}" (some cause) := by
  unfold encode at h
  cases hencoder : encoder image format with
  | ok content => rw [hencoder] at h; cases h
  | error own =>
    rw [hencoder] at h
    dsimp only at h
    split at h
    · next hkind => cases h; exact .inl ⟨rfl, hkind⟩
    · cases h; exact .inr ⟨own.kind, rfl⟩

theorem isAscii_dataHeaders_iff : Text.IsAscii (dataHeaders format) ↔
    Text.IsAscii format.mimeType ∧ Text.IsAscii format.fileExtension := by
  have hfixed : ∀ text ∈ ["\n--wcs\nContent-Type: ", "\nContent-Description: coverage data\n",
      "Content-Transfer-Encoding: binary\n", "Content-ID: coverage/wcs.",
      "\nContent-Disposition: INLINE\n\n"], Text.IsAscii text := by
    decide
  simp only [List.forall_mem_cons] at hfixed
  obtain ⟨htype, hdescription, hencoding, hid, hdisposition, -⟩ := hfixed
  unfold dataHeaders
  simp only [toString, Text.isAscii_append_iff, htype, hdescription, hencoding, hid, hdisposition,
    true_and, and_true]

end Coverage

/-! ## Answers -/

namespace Service

variable {service : Service} {image : Image} {exchange : Exchange} {transport : Transport}

theorem respondCoverage_of_ok
    (h : Coverage.send service.encoder service.map exchange.parameters.format image
      exchange.transport = .ok () transport) :
    service.respondCoverage image exchange = .ok () ⟨exchange.parameters.release, transport⟩ := by
  have hget : (get : Answering Exchange) exchange = .ok exchange exchange := rfl
  simp only [respondCoverage, Exchange.releasing, bind, EStateM.bind, hget, Exchange.sending, h,
    Exchange.release]

theorem respondCoverage_of_error {failure : Failure}
    (h : Coverage.send service.encoder service.map exchange.parameters.format image
      exchange.transport = .error failure transport) :
    service.respondCoverage image exchange =
      .error failure ⟨exchange.parameters.release, transport⟩ := by
  have hget : (get : Answering Exchange) exchange = .ok exchange exchange := rfl
  simp only [respondCoverage, Exchange.releasing, bind, EStateM.bind, hget, Exchange.sending, h,
    Exchange.release]

end Service

/-! ## The end of an answer -/

namespace Coverage

/-- The ways in which a service ends answering a request for a coverage on a transport to which
nothing was written. -/
inductive Ending (service : Service) (requested : Option String) (image : Image)
    (inMemory : Bool) : EStateM.Result Failure Exchange Bool → Prop
  /-- The response was written. -/
  | delivered {transport : Transport} {parameters : RequestParameters} :
      send service.encoder service.map requested image (.fresh inMemory) = .ok () transport →
      Ending service requested image inMemory (.ok true ⟨parameters, transport⟩)
  /-- A report was written where sending stopped. -/
  | reported {report : Report} {stopped : Transport} {content : Bytes}
      {parameters : RequestParameters} :
      send service.encoder service.map requested image (.fresh inMemory) =
        .error (.reported report) stopped →
      service.reporter.payload report = .ok (.bytes content) →
      Ending service requested image inMemory
        (.ok false ⟨parameters, (Reporter.opened report stopped).push content⟩)
  /-- The report could not be written. -/
  | unreported {report : Report} {stopped : Transport} {failure : Failure}
      {parameters : RequestParameters} :
      send service.encoder service.map requested image (.fresh inMemory) =
        .error (.reported report) stopped →
      (∀ content, service.reporter.payload report ≠ .ok (.bytes content)) →
      Ending service requested image inMemory
        (.error failure ⟨parameters, Reporter.opened report stopped⟩)
  /-- A failure that is no report went on from where sending stopped. -/
  | escaped {failure : Failure} {stopped : Transport} {parameters : RequestParameters} :
      send service.encoder service.map requested image (.fresh inMemory) =
        .error failure stopped →
      (∀ report, failure ≠ .reported report) →
      Ending service requested image inMemory (.error failure ⟨parameters, stopped⟩)

theorem ending (service : Service) (parameters : RequestParameters) (image : Image)
    (inMemory : Bool) :
    Ending service parameters.format image inMemory
      (service.getCoverage image ⟨parameters, .fresh inMemory⟩) := by
  let start := service.defaultVersion ⟨parameters, .fresh inMemory⟩
  cases hsend : send service.encoder service.map parameters.format image (.fresh inMemory) with
  | ok _ transport =>
    have hrespond : service.respondCoverage image start =
        .ok () ⟨start.parameters.release, transport⟩ :=
      Service.respondCoverage_of_ok hsend
    obtain ⟨_, hrun⟩ := Service.run_of_ok hrespond
    rw [Service.getCoverage, hrun]
    exact .delivered hsend
  | error failure stopped =>
    have hrespond : service.respondCoverage image start =
        .error failure ⟨start.parameters.release, stopped⟩ :=
      Service.respondCoverage_of_error hsend
    by_cases hreport : ∃ report, failure = .reported report
    · obtain ⟨report, rfl⟩ := hreport
      by_cases hbytes : ∃ content, service.reporter.payload report = .ok (.bytes content)
      · obtain ⟨content, hcontent⟩ := hbytes
        obtain ⟨_, hrun⟩ := Service.run_of_reported hrespond (Reporter.send_of_bytes hcontent _)
        rw [Service.getCoverage, hrun]
        exact .reported hsend hcontent
      · have hother : ∀ content, service.reporter.payload report ≠ .ok (.bytes content) :=
          fun content heq => hbytes ⟨content, heq⟩
        obtain ⟨failure, hfailed⟩ := Reporter.exists_send_of_not_bytes hother stopped
        obtain ⟨_, hrun⟩ := Service.run_of_unreported hrespond hfailed
        rw [Service.getCoverage, hrun]
        exact .unreported hsend hother
    · have hother : ∀ report, failure ≠ .reported report := fun report heq => hreport ⟨report, heq⟩
      obtain ⟨_, hrun⟩ := Service.run_of_error hrespond hother
      rw [Service.getCoverage, hrun]
      exact .escaped hsend hother

end Coverage

end WebCoverage
