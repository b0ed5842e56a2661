import WebCoverage.Proofs.Alike
import WebCoverage.Proofs.Answering
import WebCoverage.Proofs.Lookup

/-! What no answer shows: the metadata that lookups do not find, and, where no coverage is named,
the layers that are no coverages. -/

namespace WebCoverage.Service

variable {service : Service} {map : MapDefinition} {origin : Option Origin} {exchange : Exchange}

/-- The same service of another map. -/
def withMap (service : Service) (map : MapDefinition) : Service :=
  { service with map }

/-- An answer depends on the map by way of the document alone. -/
theorem getCapabilities_congr
    (h : ∀ version, Capabilities.document service.library service.map origin version =
      Capabilities.document service.library map origin version) :
    service.getCapabilities origin exchange =
      (service.withMap map).getCapabilities origin exchange :=
  run_respond_congr rfl rfl (h _) rfl

theorem describeCoverage_congr
    (h : ∀ version,
      Description.document service.library service.map exchange.parameters.coverages version =
        Description.document service.library map exchange.parameters.coverages version) :
    service.describeCoverage exchange = (service.withMap map).describeCoverage exchange :=
  run_respond_congr rfl rfl (h _) rfl

theorem getCoverage_congr (h : Coverage.selectFormat service.map = Coverage.selectFormat map)
    (image : Image) :
    service.getCoverage image = (service.withMap map).getCoverage image := by
  have hsend : Coverage.send service.encoder service.map = Coverage.send service.encoder map := by
    unfold Coverage.send
    rw [h]
  funext exchange
  apply run_congr rfl
  unfold respondCoverage
  rw [hsend]
  rfl

/-- Answers show of metadata only what lookups find. So they show neither how keys are spelled nor
what stands under keys that no lookup finds. -/
theorem lookups_alone_show (service : Service) :
    (∀ map, service.map.Alike map →
      (∀ origin, service.getCapabilities origin = (service.withMap map).getCapabilities origin) ∧
      service.describeCoverage = (service.withMap map).describeCoverage ∧
      (∀ image, service.getCoverage image = (service.withMap map).getCoverage image) ∧
      ∀ origin image,
        service.dispatch origin image = (service.withMap map).dispatch origin image) ∧
    (∀ (metadata : Metadata) keep,
      (∀ entry ∈ metadata.entries, keep entry.1 = false → metadata.Unseen entry.1) →
        metadata.Alike (metadata.filterKeys keep)) ∧
    ∀ first second : Metadata,
      ((first.entries.map fun entry => (Text.lower entry.1, entry.2)) =
        second.entries.map fun entry => (Text.lower entry.1, entry.2)) → first.Alike second := by
  refine ⟨fun map h => ?_, fun metadata keep h name _ => ?_, fun first second h name _ => ?_⟩
  · have hcapabilities (origin : Option Origin) :
        service.getCapabilities origin = (service.withMap map).getCapabilities origin :=
      funext fun _ => getCapabilities_congr fun _ =>
        Capabilities.document_congr h.butLayers h.coverages origin
    have hdescription : service.describeCoverage = (service.withMap map).describeCoverage :=
      funext fun _ => describeCoverage_congr fun _ => Description.document_congr h
    have hcoverage (image : Image) :
        service.getCoverage image = (service.withMap map).getCoverage image :=
      getCoverage_congr (Coverage.selectFormat_congr h.butLayers) image
    refine ⟨hcapabilities, hdescription, hcoverage, fun origin image => ?_⟩
    unfold dispatch
    rw [hcapabilities, hdescription, funext hcoverage]
    rfl
  · exact (Metadata.find?_filterKeys h).symm
  · exact Metadata.find?_eq_of_lower h

/-- A title with an older spelling of its key, one for another kind of service, one of a namespace
that is not looked in, and one of no namespace. -/
def titles : Metadata :=
  .ofPairs [("wcs_title", "Heights"), ("WCS_Title", "Terrain"), ("ows_title", "Maps"),
    ("gml_title", "Features"), ("title", "Layers")]

/-- A service of one coverage, with metadata of its map. -/
def titledService (metadata : Metadata) : Service :=
  DocumentOperation.elevationService.withMap
    { MapDefinition.empty with metadata, layers := [Grid.sizedLayer "dem" "10 10"] }

theorem one_title_shows :
    titles.Alike (titles.filterKeys (· = "WCS_Title")) ∧
      (titles.filterKeys (· = "WCS_Title")).Alike (.ofPairs [("wcs_title", "Terrain")]) ∧
      (titledService titles).getCapabilities (some localOrigin) =
        (titledService (titles.filterKeys (· = "WCS_Title"))).getCapabilities
          (some localOrigin) := by
  obtain ⟨hmap, hkeys, hspelling⟩ := lookups_alone_show (titledService titles)
  have hentries : titles.entries = [("wcs_title", "Heights"), ("WCS_Title", "Terrain"),
      ("ows_title", "Maps"), ("gml_title", "Features"), ("title", "Layers")] := by
    decide +kernel
  have halike : titles.Alike (titles.filterKeys (· = "WCS_Title")) := by
    apply hkeys
    rw [hentries]
    simp only [List.forall_mem_cons, List.not_mem_nil, false_implies, implies_true, and_true]
    refine ⟨fun _ => ?_, fun h => absurd h (by decide), fun _ => ?_, fun _ => ?_, fun _ => ?_⟩
    · exact .respelled [] hentries List.mem_cons_self (by decide +kernel)
    · exact .shadowed "ows_" "wcs_" "title" (by decide) (by decide +kernel) (by decide +kernel)
        (by decide +kernel)
    · exact .foreign (by decide +kernel)
    · exact .foreign (by decide +kernel)
  have hmaps : (titledService titles).map.Alike
      (titledService (titles.filterKeys (· = "WCS_Title"))).map :=
    ⟨.intro halike, .cons (.refl _) .nil⟩
  exact ⟨halike, hspelling _ _ (by decide +kernel), (hmap _ hmaps).1 _⟩

/-- Layers that are no coverages show neither in capabilities nor in descriptions for which no
coverage is named. Any of them may be added, changed or left out. -/
theorem coverages_alone_show (service : Service) (exchange : Exchange) {layers : List Layer}
    (h : layers.filter (·.isCoverage) = service.map.coverages) :
    (∀ origin, service.getCapabilities origin exchange =
      (service.withMap { service.map with layers }).getCapabilities origin exchange) ∧
    (Description.identifiers exchange.parameters.coverages = [] →
      service.describeCoverage exchange =
        (service.withMap { service.map with layers }).describeCoverage exchange) := by
  have haround : service.map.AlikeButLayers { service.map with layers } :=
    .intro (.refl service.map.metadata)
  have hcoverages : List.Forall₂ Layer.Alike service.map.coverages
      { service.map with layers }.coverages := by
    rw [← h]
    exact List.forall₂_same.2 fun layer _ => .refl layer
  refine ⟨fun origin => ?_, fun hidentifiers => ?_⟩
  · exact getCapabilities_congr fun _ => Capabilities.document_congr haround hcoverages origin
  · exact describeCoverage_congr fun _ =>
      Description.document_congr_of_nil haround hcoverages hidentifiers

/-- The layer between the coverages of a map may give way to others. -/
theorem only_terrain_shows :
    let layers := [{ Grid.sizedLayer "lakes" "" with kind := .polygon, attached := false },
      Grid.sizedLayer "dem" "10 10", Grid.sizedLayer "slope" "20 20"]
    let service := DocumentOperation.elevationService.withMap terrainMap
    layers.filter (·.isCoverage) = terrainMap.coverages ∧
      service.describeCoverage ⟨⟨"", none, [], none, false⟩, .fresh true⟩ =
        (service.withMap { terrainMap with layers }).describeCoverage
          ⟨⟨"", none, [], none, false⟩, .fresh true⟩ := by
  intro layers service
  have hcoverages : layers.filter (·.isCoverage) = service.map.coverages := rfl
  have hanswers :=
    coverages_alone_show service ⟨⟨"", none, [], none, false⟩, .fresh true⟩ hcoverages
  exact ⟨hcoverages, hanswers.2 rfl⟩

end WebCoverage.Service
