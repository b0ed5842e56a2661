import WebCoverage.Proofs.Correspondence
import WebCoverage.Proofs.Crs.Native

/-! The native reference system comes first wherever the supported ones are listed: in the list
itself, and in all that documents say of a coverage. -/

namespace WebCoverage

open Xml

variable {library : ProjectionLibrary} {owner : Option MapDefinition} {map : MapDefinition}
  {layer : Layer} {grid : Grid} {urns : List String}

/-- No reference system is supported exactly where the search for a grid ends for want of one. -/
theorem Crs.supported_eq_nil_iff (h : supported library owner layer = .ok urns) :
    urns = [] ↔ Grid.ofLayer library owner layer = .error (Grid.noCrs layer) := by
  rw [Grid.ofLayer_eq_noCrs_iff, native?_of_supported h]
  cases urns <;> simp

theorem Crs.head?_supported (h : supported library owner layer = .ok urns)
    (hgrid : Grid.ofLayer library owner layer = .ok grid) : urns.head? = some grid.crs := by
  have hnative := (Grid.Found.of_ofLayer hgrid).crs
  rw [native?_of_supported h] at hnative
  exact Except.ok.inj hnative

/-- The reference system of the second box. -/
def Profile.native? (profile : Profile) : Option String :=
  (profile.boxes[1]?).bind (·.crs)

/-- The reference systems of the profile start with the one of its native box. -/
def Profile.StartsWith (profile : Profile) (urn : String) : Prop :=
  profile.crs.head? = some urn ∧ profile.native? = some urn

theorem Resolved.startsWith (h : Resolved library map layer grid urns) :
    (Profile.ofLayer map layer grid urns).StartsWith grid.crs :=
  ⟨Crs.head?_supported h.supported_eq h.ofLayer_eq, rfl⟩

theorem Capabilities.startsWith_of_mem_summaries {document : Document} {origin : Option Origin}
    {version : String} (h : Capabilities.document library map origin version = .ok document)
    {element : Element} (helement : element ∈ document.summaries) :
    ∃ urn, (Profile.ofSummary element).StartsWith urn := by
  obtain ⟨layer, -, grid, urns, hresolved, rfl⟩ :=
    exists_of_mem_right (forall₂_summaries h) helement
  rw [Profile.ofSummary_summaryElement]
  exact ⟨grid.crs, hresolved.startsWith⟩

theorem Description.startsWith_of_mem_descriptions {document : Document} {coverages : List String}
    {version : String} (h : Description.document library map coverages version = .ok document)
    {element : Element} (helement : element ∈ document.descriptions) :
    ∃ urn, (Profile.ofDescription element).StartsWith urn ∧ Profile.gridBases element = [urn] := by
  obtain ⟨_, -, hrow⟩ := forall₂_descriptions h
  obtain ⟨layer, -, -, -, grid, urns, range, hresolved, rfl⟩ := exists_of_mem_right hrow helement
  rw [Profile.ofDescription_coverageElement]
  exact ⟨grid.crs, hresolved.startsWith, Profile.gridBases_coverageElement⟩

/-- Where the supported reference systems are found, the native one is the first of them, if there
is any. Each summary and each description starts with it, and names it in its native box and as the
base of its grid. -/
theorem native_before_supported (library : ProjectionLibrary) :
    (∀ owner layer urns, Crs.supported library owner layer = .ok urns →
      (urns = [] ↔ Grid.ofLayer library owner layer = .error (Grid.noCrs layer)) ∧
      Crs.native? library owner layer = .ok urns.head? ∧
      ∀ grid, Grid.ofLayer library owner layer = .ok grid → urns.head? = some grid.crs) ∧
    (∀ map origin version document,
      Capabilities.document library map origin version = .ok document →
      ∀ element ∈ document.summaries, ∃ urn, (Profile.ofSummary element).StartsWith urn) ∧
    ∀ map coverages version document,
      Description.document library map coverages version = .ok document →
      ∀ element ∈ document.descriptions, ∃ urn,
        (Profile.ofDescription element).StartsWith urn ∧ Profile.gridBases element = [urn] := by
  refine ⟨fun owner layer urns h => ?_, fun map origin version document h element helement => ?_,
    fun map coverages version document h element helement => ?_⟩
  · exact ⟨Crs.supported_eq_nil_iff h, Crs.native?_of_supported h,
      fun grid hgrid => Crs.head?_supported h hgrid⟩
  · exact Capabilities.startsWith_of_mem_summaries h helement
  · exact Description.startsWith_of_mem_descriptions h helement

theorem native_before_supported_dem :
    (∃ urns, Crs.supported Grid.plainLibrary (some terrainMap) (Grid.sizedLayer "dem" "10 10") =
        .ok urns ∧
      ∀ grid, Grid.ofLayer Grid.plainLibrary (some terrainMap) (Grid.sizedLayer "dem" "10 10") =
        .ok grid → urns.head? = some grid.crs) ∧
    (∃ capabilities,
      Capabilities.document Grid.plainLibrary terrainMap (some localOrigin) "1.1.0" =
        .ok capabilities ∧
      ∀ element ∈ capabilities.summaries, ∃ urn, (Profile.ofSummary element).StartsWith urn) ∧
    ∃ description,
      Description.document Grid.plainLibrary terrainMap [] "1.1.0" = .ok description ∧
      ∀ element ∈ description.descriptions, ∃ urn,
        (Profile.ofDescription element).StartsWith urn ∧ Profile.gridBases element = [urn] := by
  have hurns : (Crs.supported Grid.plainLibrary (some terrainMap)
      (Grid.sizedLayer "dem" "10 10")).isOk := by decide +kernel
  obtain ⟨hlist, hcapabilities, hdescription⟩ := native_before_supported Grid.plainLibrary
  obtain ⟨urns, hurns⟩ := Fragment.exists_of_isOk hurns
  obtain ⟨capabilities, hc⟩ := Fragment.exists_of_isOk isOk_capabilities_terrainMap
  obtain ⟨description, hd⟩ := Fragment.exists_of_isOk isOk_description_terrainMap
  exact ⟨⟨urns, hurns, (hlist _ _ _ hurns).2.2⟩, ⟨capabilities, hc, hcapabilities _ _ _ _ hc⟩,
    description, hd, hdescription _ _ _ _ hd⟩

end WebCoverage
