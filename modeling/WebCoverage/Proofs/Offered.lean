import Mathlib.Data.List.Basic
import WebCoverage.FormatCatalog
import WebCoverage.Proofs.NameList

/-! The MIME types that a whole map offers. They are meant to be those of its raster formats. A
map looks its raster formats up by their names, though, and finds the first format of each name,
whatever renders it. `MapDefinition.mimeTypes_eq_rasterTypes_iff` says when that makes no
difference. -/

namespace WebCoverage.MapDefinition

variable {map : MapDefinition} {formats : List OutputFormat} {format : OutputFormat}

/-- The MIME types of raster formats, in the order of the formats. -/
def typesOfRasters (map : MapDefinition) : List String :=
  ((map.formats.filter fun format => format.renderer ∈ [.gd, .agg, .rawData]).map
    (·.mimeType)).filter (!·.isEmpty)

/-- The MIME types of the formats that are found by the names of raster formats. -/
def typesOfNamesakes (map : MapDefinition) : List String :=
  (((map.formatNames none).filterMap map.format?).map (·.mimeType)).filter (!·.isEmpty)

/-- The MIME types of raster formats without those that are spelled like an earlier one. -/
def rasterTypes (map : MapDefinition) : List String :=
  NameList.firstSpellings map.typesOfRasters

theorem mimeTypes_eq (map : MapDefinition) :
    map.mimeTypes none = NameList.firstSpellings map.typesOfNamesakes :=
  NameList.items_ofList _

theorem isRaster_iff : format.isRaster ↔ format.renderer ∈ [.gd, .agg, .rawData] := by
  unfold OutputFormat.isRaster
  cases format.renderer <;> decide

theorem typesOfRasters_eq (map : MapDefinition) :
    map.typesOfRasters =
      ((map.formats.filter (·.isRaster)).map (·.mimeType)).filter (!·.isEmpty) := by
  unfold typesOfRasters
  congr 2
  exact List.filter_congr fun format _ => by
    rw [Bool.eq_iff_iff, decide_eq_true_eq, isRaster_iff]

/-! ## Formats that follow another one of their name -/

/-- No raster format follows a format of the same name in any case. -/
def RastersLead (formats : List OutputFormat) : Prop :=
  ∀ before format after, formats = before ++ format :: after → format.isRaster →
    ∀ earlier ∈ before, Text.sameLower earlier.name format.name = false

/-- A name and what renders the format, without its MIME type. -/
def kindOf (format : OutputFormat) : String × Renderer :=
  (format.name, format.renderer)

theorem RastersLead.congr {formats' : List OutputFormat} (h : RastersLead formats)
    (hkinds : formats'.map kindOf = formats.map kindOf) : RastersLead formats' := by
  intro before' format' after' hformats' hraster earlier' hearlier
  rw [hformats', List.map_append, List.map_cons] at hkinds
  obtain ⟨before, rest, rfl, hbefore, hrest⟩ := List.map_eq_append_iff.1 hkinds.symm
  obtain ⟨format, after, rfl, hformat, -⟩ := List.map_eq_cons_iff.1 hrest
  obtain ⟨earlier, hmem, hsame⟩ := List.mem_map.1 (hbefore ▸ List.mem_map_of_mem hearlier)
  obtain ⟨hname, hrenderer⟩ := Prod.mk.inj hformat
  have hlead := h before format after rfl
    (by rw [OutputFormat.isRaster, hrenderer]; exact hraster) earlier hmem
  rw [(Prod.mk.inj hsame).1, hname] at hlead
  exact hlead

/-- A raster format that follows no other of its name is found by it. -/
theorem format?_name (h : RastersLead map.formats) (hmem : format ∈ map.formats)
    (hraster : format.isRaster) : map.format? format.name = some format := by
  obtain ⟨before, after, hformats⟩ := List.append_of_mem hmem
  have hbefore : before.find? (fun earlier => Text.sameLower earlier.name format.name) = none :=
    List.find?_eq_none.2 fun earlier hearlier => by
      simp [h before format after hformats hraster earlier hearlier]
  have hself : Text.sameLower format.name format.name := by simp [Text.sameLower]
  rw [format?, hformats, List.find?_append, hbefore, Option.none_or]
  exact List.find?_cons_of_pos hself

theorem typesOfNamesakes_eq (h : RastersLead map.formats) :
    map.typesOfNamesakes = map.typesOfRasters := by
  have hfound : (map.formatNames none).filterMap map.format? =
      map.formats.filter (·.isRaster) := by
    rw [formatNames, List.filterMap_map]
    refine (List.filterMap_congr (g := some) fun format hformat => ?_).trans List.filterMap_some
    obtain ⟨hmem, hraster⟩ := List.mem_filter.1 hformat
    exact format?_name h hmem hraster
  rw [typesOfNamesakes, hfound, typesOfRasters_eq]

/-- If only one format has a MIME type, and it follows another one of its name, then its MIME type
is not offered. -/
theorem typesOfNamesakes_eq_nil {before after : List OutputFormat} (earlier format : OutputFormat)
    (hearlier : earlier ∈ before) (hsame : Text.sameLower earlier.name format.name)
    (hformats : map.formats = before ++ format :: after)
    (hbefore : ∀ other ∈ before, other.mimeType = "")
    (hafter : ∀ other ∈ after, other.mimeType = "") : map.typesOfNamesakes = [] := by
  refine List.filter_eq_nil_iff.2 fun mimeType hmem => ?_
  obtain ⟨found, hfound, rfl⟩ := List.mem_map.1 hmem
  obtain ⟨name, -, hname⟩ := List.mem_filterMap.1 hfound
  rw [format?, hformats, List.find?_append] at hname
  have hnone : found.mimeType = "" := by
    cases hfirst : before.find? fun other => Text.sameLower other.name name with
    | some first =>
      rw [hfirst] at hname
      cases hname
      exact hbefore found (List.mem_of_find?_eq_some hfirst)
    | none =>
      -- The format has another name than the one that is looked up, as the earlier one has.
      have hother := List.find?_eq_none.1 hfirst earlier hearlier
      have hne : Text.sameLower format.name name = false := by
        rw [Text.sameLower, beq_iff_eq] at hsame
        rw [Text.sameLower, hsame] at hother
        simpa [Text.sameLower] using hother
      rw [hfirst, Option.none_or, List.find?_cons_of_neg (by simp [hne])] at hname
      exact hafter found (List.mem_of_find?_eq_some hname)
  simp [hnone]

/-- A format without its MIME type. -/
def untyped (format : OutputFormat) : OutputFormat :=
  { format with mimeType := "" }

/-- A format with a certain MIME type. -/
def typed (format : OutputFormat) : OutputFormat :=
  { format with mimeType := "image/tiff" }

/-- Formats of the same names and renderers of which one alone has a MIME type. -/
def typedAlone (before : List OutputFormat) (format : OutputFormat) (after : List OutputFormat) :
    List OutputFormat :=
  before.map untyped ++ typed format :: after.map untyped

theorem map_kindOf_typedAlone (before : List OutputFormat) (format : OutputFormat)
    (after : List OutputFormat) :
    (typedAlone before format after).map kindOf = (before ++ format :: after).map kindOf := by
  have huntyped : kindOf ∘ untyped = kindOf := rfl
  rw [typedAlone, List.map_append, List.map_cons, List.map_map, List.map_map, huntyped,
    List.map_append, List.map_cons]
  rfl

/-- A raster format that follows another one of its name can have the one MIME type that there is,
and then none is offered. -/
theorem mimeTypes_typedAlone_ne (map : MapDefinition) {before : List OutputFormat}
    {earlier : OutputFormat} (after : List OutputFormat) (hearlier : earlier ∈ before)
    (hsame : Text.sameLower earlier.name format.name) (hraster : format.isRaster) :
    { map with formats := typedAlone before format after }.mimeTypes none ≠
      { map with formats := typedAlone before format after }.rasterTypes := by
  have huntyped : ∀ formats : List OutputFormat, ∀ other ∈ formats.map untyped,
      other.mimeType = "" :=
    fun formats => List.forall_mem_map.2 fun _ _ => rfl
  have hnone : { map with formats := typedAlone before format after }.typesOfNamesakes = [] :=
    typesOfNamesakes_eq_nil (untyped earlier) (typed format) (List.mem_map_of_mem hearlier) hsame
      rfl (huntyped before) (huntyped after)
  have hsome : "image/tiff" ∈
      { map with formats := typedAlone before format after }.typesOfRasters := by
    rw [typesOfRasters_eq]
    refine List.mem_filter.2 ⟨List.mem_map.2 ⟨typed format, ?_, rfl⟩, by decide⟩
    exact List.mem_filter.2 ⟨List.mem_append_right _ List.mem_cons_self, hraster⟩
  rw [mimeTypes_eq, rasterTypes, hnone]
  intro hequal
  cases htypes : { map with formats := typedAlone before format after }.typesOfRasters with
  | nil => rw [htypes] at hsome; cases hsome
  | cons first rest => rw [htypes] at hequal; cases hequal

/-- What a map offers are the MIME types of its raster formats, each once, if the MIME types that
come first by the names of these formats are the ones that come first in the formats themselves.
Whatever the MIME types are, that is so exactly if no raster format follows another format of the
same name. -/
theorem mimeTypes_eq_rasterTypes_iff (map : MapDefinition) :
    (map.mimeTypes none = map.rasterTypes ↔
      ∀ mimeType other, NameList.Leads mimeType other map.typesOfNamesakes ↔
        NameList.Leads mimeType other map.typesOfRasters) ∧
    ((∀ formats, formats.map kindOf = map.formats.map kindOf →
        { map with formats := formats }.mimeTypes none =
          { map with formats := formats }.rasterTypes) ↔
      RastersLead map.formats) := by
  refine ⟨?_, ?_, ?_⟩
  · rw [mimeTypes_eq, rasterTypes, NameList.firstSpellings_eq_iff]
  · intro h before format after hformats hraster earlier hearlier
    refine Bool.eq_false_iff.2 fun hsame =>
      mimeTypes_typedAlone_ne map after hearlier hsame hraster (h _ ?_)
    rw [hformats]
    exact map_kindOf_typedAlone before format after
  · intro h formats hkinds
    rw [mimeTypes_eq, rasterTypes, typesOfNamesakes_eq (h.congr hkinds)]

/-- A format that is no raster format bears the name of a raster format that follows it. -/
def shadowedMap : MapDefinition :=
  { MapDefinition.empty with
    formats := [⟨"gtiff", "", .other, "application/x-tar", ""⟩,
      ⟨"GTiff", "", .rawData, "image/tiff", ""⟩] }

/-- Such a map offers a MIME type that none of its raster formats has, and not the one that its
raster format has. -/
theorem not_mimeTypes_shadowedMap :
    shadowedMap.mimeTypes none = ["application/x-tar"] ∧ shadowedMap.rasterTypes = ["image/tiff"] ∧
      shadowedMap.mimeTypes none ≠ shadowedMap.rasterTypes := by
  have hoffered : shadowedMap.mimeTypes none = ["application/x-tar"] := by decide +kernel
  have hrasters : shadowedMap.rasterTypes = ["image/tiff"] := by decide +kernel
  exact ⟨hoffered, hrasters, by rw [hoffered, hrasters]; decide⟩

end WebCoverage.MapDefinition
