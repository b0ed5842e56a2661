import WebCoverage.Proofs.Profile

/-! Capabilities and descriptions tell the same of the coverages of a map. A document is read as the
row of elements that say something of a coverage, each of which belongs to a layer: the summaries to
the coverages of the map, the descriptions to those target layers that are not passed over. Where a
map owns its layers and both documents can be built, both rows have the same profiles. -/

namespace WebCoverage

open Xml

/-! ## Rows that belong to lists -/

section

variable {α β : Type} {R : α → β → Prop} {p : α → Bool} {f : α → List β} {as : List α} {bs : List β}

/-- One element for each item that passes, and none for the others. -/
private theorem forall₂_filter_flatMap (hsome : ∀ a ∈ as, p a → ∃ b, R a b ∧ f a = [b])
    (hnone : ∀ a ∈ as, ¬p a → f a = []) : List.Forall₂ R (as.filter p) (as.flatMap f) := by
  induction as with
  | nil => exact .nil
  | cons a rest ih =>
    rw [List.forall_mem_cons] at hsome hnone
    have hrest := ih hsome.2 hnone.2
    rw [List.flatMap_cons]
    by_cases ha : p a
    · obtain ⟨b, hb, hfa⟩ := hsome.1 ha
      rw [List.filter_cons_of_pos ha, hfa]
      exact .cons hb hrest
    · rw [List.filter_cons_of_neg ha, hnone.1 ha]
      exact hrest

theorem exists_of_mem_right (h : List.Forall₂ R as bs) {b : β} (hb : b ∈ bs) :
    ∃ a ∈ as, R a b := by
  induction h with
  | nil => cases hb
  | cons hab _ ih =>
    cases hb with
    | head => exact ⟨_, .head _, hab⟩
    | tail _ hb =>
      obtain ⟨a, ha, hR⟩ := ih hb
      exact ⟨a, .tail _ ha, hR⟩

end

/-! ## What stands in a document -/

namespace Xml.Document

variable {document : Document} {name version : String} {body : Fragment}

theorem of_body
    (h : (do (← create name .service (some version)).withBody body) = .ok document) :
    body.failure = none ∧ document.root.children = body.elements := by
  cases hempty : create name .service (some version) with
  | error failure => rw [hempty] at h; cases h
  | ok empty =>
    rw [hempty] at h
    change empty.withBody body = _ at h
    unfold withBody at h
    cases hfailure : body.failure with
    | some failure => rw [hfailure] at h; cases h
    | none => rw [hfailure] at h; cases h; exact ⟨rfl, rfl⟩

/-- The summaries of coverages in capabilities. -/
def summaries (document : Document) : List Element :=
  (document.root.childrenNamed "Contents").flatMap (·.childrenNamed "CoverageSummary")

def descriptions (document : Document) : List Element :=
  document.root.childrenNamed "CoverageDescription"

end Xml.Document

variable {library : ProjectionLibrary} {map : MapDefinition} {layer : Layer} {element : Element}
  {version : String}

/-! ## Summaries -/

/-- The element is the summary of the layer. -/
def Summarizes (library : ProjectionLibrary) (map : MapDefinition) (layer : Layer)
    (element : Element) : Prop :=
  ∃ grid crs, Resolved library map layer grid crs ∧
    element = Capabilities.summaryElement map layer grid crs

namespace Capabilities

/-- The parts of capabilities that could be built. -/
theorem children_of_document {capabilities : Document} {origin : Option Origin}
    (h : document library map origin version = .ok capabilities) :
    ∃ identification provider url,
      (operations .service map version url).failure = none ∧
      (.concat (map.coverages.map (summary .service library map)) : Fragment).failure = none ∧
      capabilities.root.children =
        .ofChildren "ows:ServiceIdentification" [] identification ::
          .ofChildren "ows:ServiceProvider" [] provider ::
          (operations .service map version url).elements ++
          [.ofChildren "Contents" [] (map.coverages.flatMap fun layer =>
            (summary .service library map layer).elements)] := by
  obtain ⟨hfailure, hchildren⟩ := Document.of_body h
  rw [body, Fragment.elements_concat hfailure] at hchildren
  have hparts := Fragment.failure_concat_eq_none.1 hfailure
  simp only [List.forall_mem_cons, Ows.serviceIdentification, Ows.serviceProvider] at hparts
  obtain ⟨hidentification, hprovider, hurl, hcontents, -⟩ := hparts
  obtain ⟨url, hurl, hoperations⟩ := Fragment.failure_ofResult_eq_none.1 hurl
  have hsummaries := (Scope.failure_node_eq_none.1 hcontents).2.2
  have helements := Fragment.builds_node
    (Fragment.builds_concat_map fun layer _ => Fragment.builds_self _) hcontents
  simp only [List.flatMap_cons, List.flatMap_nil, Ows.serviceIdentification, Ows.serviceProvider,
    hurl, Fragment.ofResult, Scope.elements_node hidentification, Scope.elements_node hprovider,
    helements] at hchildren
  exact ⟨_, _, url, hoperations, hsummaries, hchildren⟩

/-- What stands in the contents of capabilities that could be built. -/
theorem childrenNamed_contents {capabilities : Document} {origin : Option Origin}
    (h : document library map origin version = .ok capabilities) :
    (.concat (map.coverages.map (summary .service library map)) : Fragment).failure = none ∧
      capabilities.root.childrenNamed "Contents" =
        [.ofChildren "Contents" []
          (map.coverages.flatMap fun layer => (summary .service library map layer).elements)] := by
  obtain ⟨_, _, _, hoperations, hsummaries, hchildren⟩ := children_of_document h
  refine ⟨hsummaries, ?_⟩
  rw [operations, Ows.operationsMetadata] at hoperations
  simp only [operations, Ows.operationsMetadata, Scope.elements_node hoperations] at hchildren
  simp [Element.childrenNamed, hchildren]

theorem forall₂_summaries {capabilities : Document} {origin : Option Origin}
    (h : document library map origin version = .ok capabilities) :
    List.Forall₂ (Summarizes library map) map.coverages capabilities.summaries := by
  obtain ⟨hsummaries, hcontents⟩ := childrenNamed_contents h
  rw [Fragment.failure_concat_eq_none, List.forall_mem_map] at hsummaries
  have hrow : List.Forall₂ (Summarizes library map) (map.coverages.filter fun _ => true)
      (map.coverages.flatMap fun layer => (summary .service library map layer).elements) := by
    refine forall₂_filter_flatMap (fun layer hlayer _ => ?_) fun _ _ h => absurd rfl h
    obtain ⟨grid, crs, hresolved, helements⟩ := elements_summary (hsummaries layer hlayer)
    exact ⟨_, ⟨grid, crs, hresolved, rfl⟩, helements⟩
  rw [List.filter_true] at hrow
  have hnames : ∀ element ∈ map.coverages.flatMap fun layer =>
      (summary .service library map layer).elements, element.name = "CoverageSummary" := by
    intro element helement
    obtain ⟨_, -, _, _, -, rfl⟩ := exists_of_mem_right hrow helement
    rfl
  have hall : capabilities.summaries = map.coverages.flatMap fun layer =>
      (summary .service library map layer).elements := by
    rw [Document.summaries, hcontents, List.flatMap_singleton, Element.childrenNamed,
      Element.children_ofChildren, List.filter_eq_self]
    exact fun element helement => decide_eq_true (hnames element helement)
  rw [hall]
  exact hrow

end Capabilities

/-! ## Descriptions -/

/-- The element is the description of the layer, which its map owns and which is a coverage. -/
def Describes (library : ProjectionLibrary) (map : MapDefinition) (layer : Layer)
    (element : Element) : Prop :=
  layer.attached ∧ layer.isCoverage ∧ ∃ grid crs range, Resolved library map layer grid crs ∧
    element = Description.coverageElement map layer grid crs range

namespace Description

/-- A coverage that its map owns is passed over only where it is reported as unresolved. -/
theorem grid?_of_isCoverage (hattached : layer.attached) (hcoverage : layer.isCoverage) :
    grid? library map layer =
      match Grid.ofLayer library (map.owner? layer) layer with
      | .ok grid => .ok (some grid)
      | .error failure =>
        if failure.kind = .report .metadataResolution then .ok none else .error failure := by
  have howner : map.owner? layer = some map := if_pos hattached
  unfold grid?
  rw [howner, hcoverage]
  rfl

theorem grid?_eq_ok_some_iff {grid : Grid} : grid? library map layer = .ok (some grid) ↔
    layer.attached ∧ layer.isCoverage ∧
      Grid.ofLayer library (map.owner? layer) layer = .ok grid := by
  by_cases h : layer.attached ∧ layer.isCoverage
  · rw [grid?_of_isCoverage h.1 h.2]
    cases Grid.ofLayer library (map.owner? layer) layer with
    | ok found => simp [h]
    | error failure =>
      dsimp only
      split <;> simp
  · have hnone : grid? library map layer = .ok none := by
      unfold grid?
      by_cases hattached : layer.attached
      · have hcoverage : layer.isCoverage = false := by simpa [hattached] using h
        rw [show map.owner? layer = some map from if_pos hattached, hcoverage]
        rfl
      · rw [show map.owner? layer = none from if_neg hattached]
    rw [hnone]
    exact iff_of_false (fun heq => nomatch heq) fun hall => h ⟨hall.1, hall.2.1⟩

/-- The layer is not passed over. -/
def isDescribed (library : ProjectionLibrary) (map : MapDefinition) (layer : Layer) : Bool :=
  match grid? library map layer with
  | .ok (some _) => true
  | _ => false

/-- A layer that its map owns is not passed over if it is a coverage with a grid. -/
theorem isDescribed_eq_isCoverage (hattached : layer.attached)
    (h : layer.isCoverage → ∃ grid, Grid.ofLayer library (map.owner? layer) layer = .ok grid) :
    isDescribed library map layer = layer.isCoverage := by
  unfold isDescribed
  by_cases hcoverage : layer.isCoverage
  · obtain ⟨grid, hgrid⟩ := h hcoverage
    rw [grid?_eq_ok_some_iff.2 ⟨hattached, hcoverage, hgrid⟩, hcoverage]
  · split
    · next hfound => exact absurd (grid?_eq_ok_some_iff.1 hfound).2.1 hcoverage
    · exact (eq_false_of_ne_true hcoverage).symm

theorem elements_layerFragment (h : (layerFragment .service library map layer).failure = none) :
    (isDescribed library map layer → ∃ element, Describes library map layer element ∧
      (layerFragment .service library map layer).elements = [element]) ∧
    (¬isDescribed library map layer →
      (layerFragment .service library map layer).elements = []) := by
  obtain ⟨found, hfound, hcoverage⟩ := Fragment.failure_ofResult_eq_none.1 h
  unfold layerFragment isDescribed
  rw [hfound]
  cases found with
  | none => exact ⟨(nomatch ·), fun _ => rfl⟩
  | some grid =>
    obtain ⟨hattached, hlayer, hgrid⟩ := grid?_eq_ok_some_iff.1 hfound
    obtain ⟨crs, range, hcrs, helements⟩ := elements_coverage hcoverage
    exact ⟨fun _ => ⟨_, ⟨hattached, hlayer, grid, crs, range, ⟨hgrid, hcrs⟩, rfl⟩, helements⟩,
      fun h => absurd rfl h⟩

/-- A description is made of its targets, none of which fails. -/
theorem children_of_document {description : Document} {coverages : List String}
    (h : document library map coverages version = .ok description) :
    ∃ layers, targets map coverages = .ok layers ∧
      (∀ layer ∈ layers, (layerFragment .service library map layer).failure = none) ∧
      description.root.children =
        layers.flatMap fun layer => (layerFragment .service library map layer).elements := by
  unfold document at h
  cases htargets : targets map coverages with
  | error failure => rw [htargets] at h; cases h
  | ok layers =>
    rw [htargets] at h
    change (do
      (← Document.create "CoverageDescriptions" .service (some version)).withBody
        (.concat (layers.map (layerFragment .service library map)))) = .ok description at h
    obtain ⟨hfailure, hchildren⟩ := Document.of_body h
    have hparts := Fragment.failure_concat_eq_none.1 hfailure
    rw [List.forall_mem_map] at hparts
    have hbody := Fragment.builds_concat_map (fun layer _ => Fragment.builds_self _) hfailure
    exact ⟨layers, rfl, hparts, hchildren.trans hbody⟩

/-- Every description belongs to a target that is not passed over, in the order of the targets. -/
theorem forall₂_descriptions {description : Document} {coverages : List String}
    (h : document library map coverages version = .ok description) :
    ∃ layers, targets map coverages = .ok layers ∧
      List.Forall₂ (Describes library map) (layers.filter (isDescribed library map))
        description.descriptions := by
  obtain ⟨layers, htargets, hparts, hchildren⟩ := children_of_document h
  have hrow : List.Forall₂ (Describes library map) (layers.filter (isDescribed library map))
      description.root.children := by
    rw [hchildren]
    refine forall₂_filter_flatMap (fun layer hlayer => ?_) fun layer hlayer => ?_
    · exact (elements_layerFragment (hparts layer hlayer)).1
    · exact (elements_layerFragment (hparts layer hlayer)).2
  have hall : description.descriptions = description.root.children := by
    rw [Document.descriptions, Element.childrenNamed, List.filter_eq_self]
    intro element helement
    obtain ⟨_, -, -, -, _, _, _, -, rfl⟩ := exists_of_mem_right hrow helement
    rfl
  rw [hall]
  exact ⟨layers, htargets, hrow⟩

end Description

/-! ## Both documents -/

/-- The profile is what there is to say of the layer. -/
def Portrays (library : ProjectionLibrary) (map : MapDefinition) (layer : Layer)
    (profile : Profile) : Prop :=
  ∃ grid crs, Resolved library map layer grid crs ∧ profile = .ofLayer map layer grid crs

theorem rightUnique_portrays : Relator.RightUnique (Portrays library map) := by
  rintro layer _ _ ⟨grid, crs, hresolved, rfl⟩ ⟨grid', crs', hresolved', rfl⟩
  have hgrid := hresolved.ofLayer_eq.symm.trans hresolved'.ofLayer_eq
  have hcrs := hresolved.supported_eq.symm.trans hresolved'.supported_eq
  cases hgrid
  cases hcrs
  rfl

/-- On a map that owns its layers, both documents hold one element for each coverage, in the order
of the map, and what both say of it is what there is to say. -/
theorem same_profiles {capabilities description : Document} {origin : Option Origin}
    {version' : String} (hattached : ∀ layer ∈ map.layers, layer.attached)
    (hcapabilities : Capabilities.document library map origin version = .ok capabilities)
    (hdescription : Description.document library map [] version' = .ok description) :
    ∃ profiles, List.Forall₂ (Portrays library map) map.coverages profiles ∧
      capabilities.summaries.map Profile.ofSummary = profiles ∧
      description.descriptions.map Profile.ofDescription = profiles := by
  have hsummaries := Capabilities.forall₂_summaries hcapabilities
  obtain ⟨_, htargets, hdescriptions⟩ := Description.forall₂_descriptions hdescription
  cases htargets
  have hfilter : map.layers.filter (Description.isDescribed library map) = map.coverages := by
    refine List.filter_congr fun layer hlayer => ?_
    refine Description.isDescribed_eq_isCoverage (hattached layer hlayer) fun hcoverage => ?_
    obtain ⟨_, -, grid, _, hresolved, -⟩ := exists_of_mem_right hsummaries.flip
      (List.mem_filter.2 ⟨hlayer, hcoverage⟩)
    exact ⟨grid, hresolved.ofLayer_eq⟩
  rw [hfilter] at hdescriptions
  have hsummarized : List.Forall₂ (Portrays library map) map.coverages
      (capabilities.summaries.map Profile.ofSummary) := by
    rw [List.forall₂_map_right_iff]
    refine hsummaries.imp ?_
    rintro layer _ ⟨grid, crs, hresolved, rfl⟩
    exact ⟨grid, crs, hresolved, Profile.ofSummary_summaryElement⟩
  have hdescribed : List.Forall₂ (Portrays library map) map.coverages
      (description.descriptions.map Profile.ofDescription) := by
    rw [List.forall₂_map_right_iff]
    refine hdescriptions.imp ?_
    rintro layer _ ⟨-, -, grid, crs, range, hresolved, rfl⟩
    exact ⟨grid, crs, hresolved, Profile.ofDescription_coverageElement⟩
  exact ⟨_, hsummarized, rfl, (rightUnique_portrays.forall₂ hsummarized hdescribed).symm⟩

/-- A map of two coverages, with a layer between them that is none. -/
def terrainMap : MapDefinition :=
  { MapDefinition.empty with
    layers := [Grid.sizedLayer "dem" "10 10",
      { Grid.sizedLayer "roads" "10 10" with kind := .line }, Grid.sizedLayer "slope" "20 20"] }

/-- A request to the local host. -/
def localOrigin : Origin where
  host := some "localhost"
  port := none
  script := ""
  secure := false

theorem isOk_capabilities_terrainMap :
    (Capabilities.document Grid.plainLibrary terrainMap (some localOrigin) "1.1.0").isOk := by
  decide +kernel

theorem isOk_description_terrainMap :
    (Description.document Grid.plainLibrary terrainMap [] "1.1.0").isOk := by
  decide +kernel

theorem terrainMap_same_profiles :
    ∃ capabilities description,
      Capabilities.document Grid.plainLibrary terrainMap (some localOrigin) "1.1.0" =
        .ok capabilities ∧
      Description.document Grid.plainLibrary terrainMap [] "1.1.0" = .ok description ∧
      ∃ profiles,
        List.Forall₂ (Portrays Grid.plainLibrary terrainMap) terrainMap.coverages profiles ∧
        capabilities.summaries.map Profile.ofSummary = profiles ∧
        description.descriptions.map Profile.ofDescription = profiles := by
  obtain ⟨capabilities, hcapabilities⟩ := Fragment.exists_of_isOk isOk_capabilities_terrainMap
  obtain ⟨description, hdescription⟩ := Fragment.exists_of_isOk isOk_description_terrainMap
  exact ⟨capabilities, description, hcapabilities, hdescription,
    same_profiles (by decide) hcapabilities hdescription⟩

end WebCoverage
