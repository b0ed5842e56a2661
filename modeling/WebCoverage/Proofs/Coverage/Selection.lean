import WebCoverage.Coverage.Multipart
import WebCoverage.FormatCatalog

/-! Whether the MIME types that are advertised can be asked for. A request is matched by the names
of formats first, so a MIME type leads to a format that has it unless another format bears it as
its name (`Coverage.selectFormat_mimeType_iff`). -/

namespace WebCoverage

variable {map : MapDefinition} {layer : Option Layer} {mimeType : String} {format : OutputFormat}

/-- What is advertised is the MIME type of a format, and no empty text. -/
theorem MapDefinition.exists_of_mem_mimeTypes (h : mimeType ∈ map.mimeTypes layer) :
    (∃ format ∈ map.formats, format.mimeType = mimeType) ∧ mimeType.isEmpty = false := by
  obtain hnone | hmem := NameList.mem_of_mem_insertAll h
  · cases hnone
  · obtain ⟨hmem, hnonempty⟩ := List.mem_filter.1 hmem
    obtain ⟨format, hformat, rfl⟩ := List.mem_map.1 hmem
    obtain ⟨name, -, hname⟩ := List.mem_filterMap.1 hformat
    exact ⟨⟨format, List.mem_of_find?_eq_some hname, rfl⟩, by simpa using hnonempty⟩

namespace Coverage

theorem labelled?_eq_some_iff {found : Option OutputFormat} :
    labelled? found = some format ↔ found = some format ∧ format.mimeType.isEmpty = false := by
  simp [labelled?, Option.filter_eq_some_iff]

/-- The format that a request names, by its name or else by its MIME type. -/
def requested? (map : MapDefinition) (name : String) : Option OutputFormat :=
  (map.format? name).orElse fun _ =>
    map.formats.find? fun format => Text.sameLower format.mimeType name

theorem selectFormat_eq_ok_iff {name : String} (hname : name.isEmpty = false) :
    selectFormat map (some name) = .ok format ↔
      requested? map name = some format ∧ format.mimeType.isEmpty = false := by
  have hfilter : (some name).filter (!·.isEmpty) = some name := by simp [hname]
  unfold selectFormat requested?
  rw [hfilter, ← labelled?_eq_some_iff]
  dsimp only
  generalize labelled? _ = found
  cases found with
  | none => exact iff_of_false (fun h => nomatch h) (fun h => nomatch h)
  | some found => simp

/-- An advertised MIME type leads to a format that has it if the format that bears it as a name, if
there is one, does. -/
theorem selectFormat_mimeType_iff (h : mimeType ∈ map.mimeTypes layer) :
    (∃ format, selectFormat map (some mimeType) = .ok format ∧
        Text.sameLower format.mimeType mimeType) ↔
      ∀ named ∈ map.format? mimeType, Text.sameLower named.mimeType mimeType := by
  obtain ⟨⟨source, hsource, hmimeType⟩, hnonempty⟩ := MapDefinition.exists_of_mem_mimeTypes h
  simp only [selectFormat_eq_ok_iff hnonempty, requested?]
  cases hnamed : map.format? mimeType with
  | some named =>
    constructor
    · rintro ⟨_, ⟨hfound, -⟩, hsame⟩ other hother
      cases hfound
      cases hother
      exact hsame
    · intro hsame
      have hsame := hsame named rfl
      exact ⟨named, ⟨rfl, (Text.isEmpty_eq_of_sameLower hsame).trans hnonempty⟩, hsame⟩
  | none =>
    -- Some format has the MIME type, so the search by MIME types finds one.
    refine iff_of_true ?_ (fun _ hnone => nomatch hnone)
    cases hfound : map.formats.find? fun format => Text.sameLower format.mimeType mimeType with
    | none =>
      have hother := List.find?_eq_none.1 hfound source hsource
      rw [hmimeType, Text.sameLower, beq_self_eq_true] at hother
      exact absurd rfl hother
    | some found =>
      have hsame : Text.sameLower found.mimeType mimeType := by
        simpa using List.find?_some hfound
      exact ⟨found, ⟨rfl, (Text.isEmpty_eq_of_sameLower hsame).trans hnonempty⟩, hsame⟩

/-- A map with a format for each pair of a name and a MIME type. -/
def formatMap (formats : List (String × String)) : MapDefinition :=
  { MapDefinition.empty with
    formats := formats.map fun entry => ⟨entry.1, "", .rawData, entry.2, ""⟩ }

/-- A format may bear its own MIME type as its name. -/
theorem selectFormat_mimeType_tiff :
    ∃ format, selectFormat (formatMap [("image/tiff", "IMAGE/TIFF"), ("GTiff", "image/tiff")])
        (some "IMAGE/TIFF") = .ok format ∧ Text.sameLower format.mimeType "IMAGE/TIFF" := by
  have hadvertised : "IMAGE/TIFF" ∈
      (formatMap [("image/tiff", "IMAGE/TIFF"), ("GTiff", "image/tiff")]).mimeTypes none := by
    decide +kernel
  refine (selectFormat_mimeType_iff hadvertised).2 ?_
  decide +kernel

/-- A format without a MIME type bears that of another as its name. -/
theorem not_selectFormat_mimeType_named :
    "image/tiff" ∈ (formatMap [("image/tiff", ""), ("GTiff", "image/tiff")]).mimeTypes none ∧
      ¬∃ format, selectFormat (formatMap [("image/tiff", ""), ("GTiff", "image/tiff")])
        (some "image/tiff") = .ok format := by
  refine ⟨by decide +kernel, fun ⟨format, hformat⟩ => ?_⟩
  have hfailed : (selectFormat (formatMap [("image/tiff", ""), ("GTiff", "image/tiff")])
      (some "image/tiff")).isOk = false := by
    decide +kernel
  rw [hformat] at hfailed
  cases hfailed

end Coverage

end WebCoverage
