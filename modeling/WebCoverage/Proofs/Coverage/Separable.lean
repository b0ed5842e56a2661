import WebCoverage.Proofs.Coverage.Delivery
import WebCoverage.Proofs.Coverage.Selection

/-! A response as a stream of parts. It is the stream of the manifest and the data
(`Coverage.response_eq_write`). Data and labels are written as they come, so a client finds the two
parts unless a line of the data is one that stands between parts, or a label holds a line end
(`Coverage.separable_iff`). -/

namespace WebCoverage

open Xml Multipart

namespace Coverage

/-- The part that refers to the data. -/
def manifestPart (described : Bytes) : Part :=
  ⟨[("Content-Type", "text/xml"), ("Content-ID", "wcs.xml")], described⟩

/-- The part with the data. -/
def dataPart (format : OutputFormat) (data : Bytes) : Part where
  headers := [("Content-Type", format.mimeType), ("Content-Description", "coverage data"),
    ("Content-Transfer-Encoding", "binary"),
    ("Content-ID", "coverage/wcs." ++ format.fileExtension), ("Content-Disposition", "INLINE")]
  payload := data

variable {encoder : Encoder} {map : MapDefinition} {requested : Option String} {image : Image}
  {format : OutputFormat} {inMemory : Bool} {data : Bytes} {after : Transport}

/-- After the manifest stand the line before a part, and the part with the data. -/
theorem textBytes_dataHeaders (format : OutputFormat) (data : Bytes) :
    textBytes (dataHeaders format) ++ data =
      10 :: delimiter "wcs" ++ 10 :: (dataPart format data).bytes := by
  -- Only the joins between the literals are taken apart, never a literal.
  have hjoin (a b c d e f g : String) : textBytes (a ++ b ++ c ++ d ++ (e ++ f ++ g)) =
      textBytes a ++ textBytes b ++ textBytes c ++ textBytes d ++
        (textBytes e ++ textBytes f ++ textBytes g) := by
    simp only [textBytes_append]
  have hheaders : textBytes (dataHeaders format) =
      textBytes "\n--wcs\nContent-Type: " ++ textBytes format.mimeType ++
        textBytes "\nContent-Description: coverage data\n" ++
        textBytes "Content-Transfer-Encoding: binary\n" ++
        (textBytes "Content-ID: coverage/wcs." ++ textBytes format.fileExtension ++
          textBytes "\nContent-Disposition: INLINE\n\n") :=
    hjoin ..
  have htype : textBytes "\n--wcs\nContent-Type: " =
      10 :: delimiter "wcs" ++ 10 :: textBytes "Content-Type: " := by
    decide
  have hdescription : textBytes "\nContent-Description: coverage data\n" =
      10 :: lineOfField ("Content-Description", "coverage data") ++ [10] := by
    decide
  have hencoding : textBytes "Content-Transfer-Encoding: binary\n" =
      lineOfField ("Content-Transfer-Encoding", "binary") ++ [10] := by
    decide
  have hdisposition : textBytes "\nContent-Disposition: INLINE\n\n" =
      10 :: lineOfField ("Content-Disposition", "INLINE") ++ [10, 10] := by
    decide
  have hmimeType : lineOfField ("Content-Type", format.mimeType) =
      textBytes "Content-Type: " ++ textBytes format.mimeType :=
    textBytes_append "Content-Type: " _
  have hid : lineOfField ("Content-ID", "coverage/wcs." ++ format.fileExtension) =
      textBytes "Content-ID: coverage/wcs." ++ textBytes format.fileExtension := by
    rw [← textBytes_append]
    rfl
  rw [hheaders, htype, hdescription, hencoding, hdisposition]
  simp only [dataPart, Part.bytes, List.flatMap_cons, List.flatMap_nil, hmimeType, hid,
    List.append_assoc, List.cons_append, List.nil_append]

theorem response_eq_write (format : OutputFormat) (data : Bytes) :
    response format data =
      write "wcs" [manifestPart (manifestBytes format.fileExtension), dataPart format data] := by
  have hbeginning : beginning = delimiter "wcs" ++ 10 :: (manifestPart []).bytes := by decide
  have hclosing : textBytes closing = 10 :: closeDelimiter "wcs" ++ [10] := by decide
  unfold response opening
  rw [List.append_assoc (beginning ++ _), textBytes_dataHeaders, hbeginning, hclosing]
  simp only [write, Part.bytes, manifestPart, List.flatMap_cons, List.flatMap_nil,
    List.append_assoc, List.cons_append, List.nil_append]

/-! ## Parts that can be found -/

theorem isField_iff {name value : String} (hname : IsField (name, ""))
    (hascii : Text.IsAscii value) : IsField (name, value) ↔ '\n' ∉ value.toList := by
  refine ⟨fun h hmem => (h.value _ hmem).2 rfl, fun h => ⟨hname.name, fun c hc => ⟨?_, ?_⟩⟩⟩
  · exact (hascii c hc).trans (by decide)
  · rintro rfl
    exact h hc

theorem framed_manifestPart (extension : String) :
    (manifestPart (manifestBytes extension)).Framed "wcs" := by
  have hheaders : ∀ field ∈ [("Content-Type", "text/xml"), ("Content-ID", "wcs.xml")],
      IsField field := by
    decide
  exact ⟨hheaders, clear_manifest "wcs" extension⟩

theorem framed_dataPart_iff (data : Bytes) (htype : Text.IsAscii format.mimeType)
    (hextension : Text.IsAscii format.fileExtension) :
    (dataPart format data).Framed "wcs" ↔
      Clear "wcs" data ∧ '\n' ∉ format.mimeType.toList ∧ '\n' ∉ format.fileExtension.toList := by
  have hmimeType : IsField ("Content-Type", format.mimeType) ↔ '\n' ∉ format.mimeType.toList :=
    isField_iff (by decide) htype
  have hid : IsField ("Content-ID", "coverage/wcs." ++ format.fileExtension) ↔
      '\n' ∉ format.fileExtension.toList := by
    have hfront : Text.IsAscii "coverage/wcs." ∧ '\n' ∉ "coverage/wcs.".toList := by decide
    rw [isField_iff (by decide) (Text.isAscii_append_iff.2 ⟨hfront.1, hextension⟩),
      String.toList_append, List.mem_append, or_iff_right hfront.2]
  constructor
  · intro h
    have hheaders := h.headers
    simp only [dataPart, List.forall_mem_cons] at hheaders
    obtain ⟨hfirst, -, -, hfourth, -⟩ := hheaders
    exact ⟨h.payload, hmimeType.1 hfirst, hid.1 hfourth⟩
  · rintro ⟨hclear, hfirst, hfourth⟩
    refine ⟨?_, hclear⟩
    simp only [dataPart, List.forall_mem_cons]
    exact ⟨hmimeType.2 hfirst, by decide, by decide, hid.2 hfourth, by decide,
      List.forall_mem_nil _⟩

/-- The body stands after the header line. -/
theorem afterBlankLine_streaming (content : Bytes) (inMemory : Bool) :
    Transport.afterBlankLine (streaming content inMemory).output = content := rfl

/-- A response that was sent is taken apart into the manifest and the data, the latter with the
headers that were written, if and only if no line of the data is one that stands between parts and
neither the MIME type nor the extension holds a line end. -/
theorem separable_iff
    (hsend : send encoder map requested image (.fresh inMemory) = .ok () after) :
    ∃ format described data body,
      selectFormat map requested = .ok format ∧
        manifest format.fileExtension = .ok (.bytes described) ∧
        encoder image format = .ok data ∧
        body = Transport.afterBlankLine after.output ∧ (inMemory → after.body = .ok body) ∧
        ((∃ first, read? "wcs" body = some [first, dataPart format data] ∧
            first.payload = described) ↔
          (∀ line ∈ lines data, line ≠ textBytes "--wcs" ∧ line ≠ textBytes "--wcs--") ∧
            '\n' ∉ format.mimeType.toList ∧ '\n' ∉ format.fileExtension.toList) := by
  have hdelivery := delivery encoder map requested image inMemory
  rw [hsend] at hdelivery
  cases hdelivery with
  | @delivered format data hselect hwritable hascii hencode =>
    obtain ⟨htype, hextension⟩ := isAscii_dataHeaders_iff.1 hascii
    have hframed := framed_dataPart_iff data htype hextension
    refine ⟨format, manifestBytes format.fileExtension, data, response format data, hselect,
      manifest_of_writable hwritable, encode_eq_ok_iff.1 hencode,
      (afterBlankLine_streaming _ inMemory).symm, ?_, ?_⟩
    · rintro rfl
      exact congrArg Except.ok (afterBlankLine_streaming _ true)
    · rw [response_eq_write]
      constructor
      · rintro ⟨first, hread, -⟩
        exact hframed.1 (framed_of_read? hread _ (by simp))
      · intro hclear
        refine ⟨_, (read?_write_iff (by decide)).2 ?_, rfl⟩
        simp only [List.forall_mem_cons]
        exact ⟨framed_manifestPart _, hframed.2 hclear, List.forall_mem_nil _⟩

/-- An encoder that gives the same bytes for every image. -/
def fixedEncoder (data : Bytes) : Encoder :=
  fun _ _ => .ok data

theorem send_fixed (data : Bytes) :
    send (fixedEncoder data) (formatMap [("GTiff", "image/tiff")]) (some "GTiff")
        (.other "NoneType") (.fresh true) =
      .ok () (streaming (response ⟨"GTiff", "", .rawData, "image/tiff", ""⟩ data) true) :=
  send_of_ok (by decide +kernel) (by decide +kernel) (by decide +kernel) rfl

/-- A boundary that is not a line of its own is no boundary. -/
theorem separable_inline :
    ∃ after body first second,
      send (fixedEncoder (textBytes "a--wcs\n--wcs--b")) (formatMap [("GTiff", "image/tiff")])
          (some "GTiff") (.other "NoneType") (.fresh true) = .ok () after ∧
        after.body = .ok body ∧ read? "wcs" body = some [first, second] ∧
        second.payload = textBytes "a--wcs\n--wcs--b" := by
  have hsend := send_fixed (textBytes "a--wcs\n--wcs--b")
  obtain ⟨format, described, data, body, hselect, -, hencoder, -, hbody, hiff⟩ :=
    separable_iff hsend
  cases hencoder
  have hformat : selectFormat (formatMap [("GTiff", "image/tiff")]) (some "GTiff") =
      .ok ⟨"GTiff", "", .rawData, "image/tiff", ""⟩ := by
    decide +kernel
  cases hformat.symm.trans hselect
  obtain ⟨first, hread, -⟩ := hiff.2 (by decide +kernel)
  exact ⟨_, body, first, _, hsend, hbody rfl, hread, rfl⟩

/-- A line of the data that stands between parts elsewhere keeps the data from being found. -/
theorem not_separable_line :
    ∃ after,
      send (fixedEncoder (textBytes "a\n--wcs\nb")) (formatMap [("GTiff", "image/tiff")])
          (some "GTiff") (.other "NoneType") (.fresh true) = .ok () after ∧
        ∀ body first second, after.body = .ok body → read? "wcs" body = some [first, second] →
          second.payload ≠ textBytes "a\n--wcs\nb" := by
  refine ⟨_, send_fixed _, fun body first second _ hread heq => ?_⟩
  have hclear := (framed_of_read? hread second (by simp)).payload
  rw [heq] at hclear
  exact (hclear (delimiter "wcs") (by decide)).1 rfl

end Coverage

end WebCoverage
