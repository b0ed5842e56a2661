import WebCoverage.FormatCatalog
import WebCoverage.Proofs.Collected

/-! The MIME types in which a layer can be delivered. A layer lists names of output formats. What it
offers are the MIME types of the first formats of these names, in the order of the names and each
once, so that a longer list of names only adds to it (`MapDefinition.mimeTypes_collects`). -/

namespace WebCoverage.MapDefinition

variable {map : MapDefinition} {format : OutputFormat} {name mimeType : String}

/-- A format bears a name, in any case, and no format before it does. -/
def FirstNamed (formats : List OutputFormat) (name : String) (format : OutputFormat) : Prop :=
  ∃ before after, formats = before ++ format :: after ∧ Text.sameLower format.name name ∧
    ∀ earlier ∈ before, Text.sameLower earlier.name name = false

/-- A name stands for the MIME type of the first format that bears it, unless the format has
none. -/
def StandsFor (map : MapDefinition) (name mimeType : String) : Prop :=
  ∃ format, FirstNamed map.formats name format ∧ format.mimeType = mimeType ∧ mimeType ≠ ""

/-- The MIME type a name stands for. -/
def typeOfName? (map : MapDefinition) (name : String) : Option String :=
  ((map.format? name).map (·.mimeType)).filter (!·.isEmpty)

theorem format?_eq_some_iff :
    map.format? name = some format ↔ FirstNamed map.formats name format := by
  rw [format?, List.find?_eq_some_iff_append]
  constructor
  · rintro ⟨hname, before, after, hformats, hbefore⟩
    exact ⟨before, after, hformats, hname, fun earlier hearlier => by
      simpa using hbefore earlier hearlier⟩
  · rintro ⟨before, after, hformats, hname, hbefore⟩
    exact ⟨hname, before, after, hformats, fun earlier hearlier => by
      simpa using hbefore earlier hearlier⟩

theorem standsFor_iff : map.StandsFor name mimeType ↔ map.typeOfName? name = some mimeType := by
  unfold StandsFor typeOfName?
  simp only [← format?_eq_some_iff, Option.filter_eq_some_iff, Option.map_eq_some_iff]
  constructor
  · rintro ⟨format, hformat, rfl, hnonempty⟩
    exact ⟨⟨format, hformat, rfl⟩, by simpa using hnonempty⟩
  · rintro ⟨⟨format, hformat, rfl⟩, hnonempty⟩
    exact ⟨format, hformat, rfl, by simpa using hnonempty⟩

/-- Names of no format and formats without a MIME type are passed over alike. -/
theorem mimeTypes_eq_filterMap (map : MapDefinition) (layer : Option Layer) :
    map.mimeTypes layer =
      (NameList.ofList ((map.formatNames layer).filterMap map.typeOfName?)).items := by
  unfold mimeTypes
  dsimp only
  rw [List.map_filterMap, List.filter_filterMap]
  rfl

/-- A layer offers the MIME types that the names it lists stand for: each is that of a listed name,
in its spelling, before which no name stands for a spelling of it. None is there twice, none is
missing, they have the order of the names, and more names after these only append to them. -/
theorem mimeTypes_collects (map : MapDefinition) (layer : Layer) :
    NameList.Collects map.StandsFor
        (Text.wordList ((layer.metadata.find? "formats").getD "GTiff"))
        (map.mimeTypes (some layer)) ∧
      ∀ (longer : Layer) (more : List String),
        map.formatNames (some longer) = map.formatNames (some layer) ++ more →
        map.mimeTypes (some layer) <+: map.mimeTypes (some longer) := by
  constructor
  · have hnames : map.formatNames (some layer) =
        Text.wordList ((layer.metadata.find? "formats").getD "GTiff") := rfl
    rw [mimeTypes_eq_filterMap, hnames]
    have hgives (name mimeType : String) :
        map.StandsFor name mimeType ↔ map.typeOfName? name = some mimeType := standsFor_iff
    exact NameList.collects_items_ofList hgives _
  · intro longer more hnames
    rw [mimeTypes_eq_filterMap, mimeTypes_eq_filterMap, hnames, List.filterMap_append]
    exact NameList.items_ofList_prefix _ _

/-- A map of three formats, two of which have one MIME type. -/
def imageMap : MapDefinition :=
  { MapDefinition.empty with
    formats := [⟨"GTiff", "", .rawData, "image/tiff", ""⟩, ⟨"TIFF", "", .rawData, "IMAGE/TIFF", ""⟩,
      ⟨"PNG", "", .rawData, "image/png", ""⟩] }

/-- A layer that lists names of formats. -/
def listingLayer (formats : String) : Layer where
  name := "dem"
  kind := .raster
  connection := none
  dump := true
  projection := none
  extent := none
  metadata := Metadata.ofPairs [("wcs_formats", formats)]
  attached := true

/-- Of two names more, one stands for a MIME type that is there, and the other appends its own. -/
theorem mimeTypes_collects_appended :
    imageMap.formatNames (some (listingLayer "gtiff tiff png")) =
        imageMap.formatNames (some (listingLayer "gtiff")) ++ ["tiff", "png"] ∧
      imageMap.mimeTypes (some (listingLayer "gtiff tiff png")) = ["image/tiff", "image/png"] ∧
      imageMap.mimeTypes (some (listingLayer "gtiff")) <+:
        imageMap.mimeTypes (some (listingLayer "gtiff tiff png")) := by
  have hnames : imageMap.formatNames (some (listingLayer "gtiff tiff png")) =
      imageMap.formatNames (some (listingLayer "gtiff")) ++ ["tiff", "png"] := by
    decide +kernel
  have htypes : imageMap.mimeTypes (some (listingLayer "gtiff tiff png")) =
      ["image/tiff", "image/png"] := by
    decide +kernel
  exact ⟨hnames, htypes, (mimeTypes_collects imageMap (listingLayer "gtiff")).2 _ _ hnames⟩

end WebCoverage.MapDefinition
