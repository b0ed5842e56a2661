import Mathlib.Data.List.Forall2
import WebCoverage.Coverage.Multipart
import WebCoverage.Proofs.Described

/-! Maps that cannot be told apart by what is read of them: they are equal but for metadata, in
which lookups find the same, and for layers that are not looked at. One lemma for each reader leads
up to the documents and to the format of a coverage. -/

namespace WebCoverage

open Xml

/-! ## Metadata -/

namespace Metadata

variable {first second : Metadata} {scope : Scope} {projection : Option String}

/-- The names that are looked up for what is served. -/
def asked : List String :=
  ["srs", "extent", "size", "resolution", "bandcount", "formats", "description", "keywordlist",
   "rangeset_label", "rangeset_name", "title", "abstract", "fees", "accessconstraints",
   "onlineresource", "contactorganization", "service_onlineresource", "contactperson",
   "contactposition", "contactvoicetelephone", "contactfacsimiletelephone", "address", "city",
   "stateorprovince", "postcode", "country", "contactelectronicmailaddress"]

/-- Metadata in which lookups of these names find the same. -/
def Alike (first second : Metadata) : Prop :=
  ∀ name ∈ asked, first.find? name = second.find? name

theorem Alike.refl (metadata : Metadata) : metadata.Alike metadata :=
  fun _ _ => rfl

theorem Alike.filled?_eq (h : first.Alike second) (name : String) (hname : name ∈ asked) :
    first.filled? name = second.filled? name := by
  rw [filled?, h name hname]
  rfl

theorem Alike.filledLeaf_eq (h : first.Alike second) (element name : String)
    (hname : name ∈ asked) :
    Ows.filledLeaf scope element first name = Ows.filledLeaf scope element second name := by
  rw [Ows.filledLeaf, h.filled?_eq name hname]
  rfl

theorem Alike.leafOr_eq (h : first.Alike second) (element name default : String)
    (hname : name ∈ asked) :
    Ows.leafOr scope element first name default = Ows.leafOr scope element second name default := by
  rw [Ows.leafOr, h name hname]
  rfl

theorem Alike.tokens_eq (library : ProjectionLibrary) (h : first.Alike second) :
    library.tokens projection first = library.tokens projection second := by
  unfold ProjectionLibrary.tokens
  rw [h.filled?_eq "srs" (by decide)]

theorem Alike.urns_eq (library : ProjectionLibrary) (h : first.Alike second) :
    Crs.urns library projection first = Crs.urns library projection second := by
  unfold Crs.urns
  rw [h.tokens_eq]

theorem Alike.serviceProvider_eq (h : first.Alike second) :
    Ows.serviceProvider scope first = Ows.serviceProvider scope second := by
  unfold Ows.serviceProvider
  simp (disch := decide) only [h.filled?_eq, h.filledLeaf_eq, h.leafOr_eq]

/-- The axis of bands, which comes with the keys that are not there, does not show either. -/
theorem Alike.field_eq (h : first.Alike second) (bands : Nat) :
    Description.field scope (first.withBands bands) =
      Description.field scope (second.withBands bands) := by
  have hname (name : String) (hname : name ∈ ["rangeset_label", "rangeset_name"])
      (hasked : name ∈ asked) :
      (first.withBands bands).find? name = (second.withBands bands).find? name := by
    rw [find?_withBands bands hname, find?_withBands bands hname, h name hasked]
  unfold Description.field Ows.filledLeaf Ows.leafOr filled?
  simp (disch := decide) only [hname]

end Metadata

/-! ## Layers -/

/-- Layers that are equal but for metadata, in which lookups find the same. -/
inductive Layer.Alike (layer : Layer) : Layer → Prop where
  | intro {metadata : Metadata} (h : layer.metadata.Alike metadata) :
      Alike layer { layer with metadata }

namespace Layer

variable {first second : Layer}

theorem Alike.refl (layer : Layer) : layer.Alike layer :=
  .intro (.refl layer.metadata)

theorem Alike.name_eq (h : first.Alike second) : first.name = second.name := by
  cases h
  rfl

theorem Alike.attached_eq (h : first.Alike second) : first.attached = second.attached := by
  cases h
  rfl

theorem Alike.isCoverage_eq (h : first.Alike second) : first.isCoverage = second.isCoverage := by
  cases h
  rfl

theorem Alike.layerExtent_eq (h : first.Alike second) :
    Grid.layerExtent first = Grid.layerExtent second := by
  cases h with
  | intro h =>
    unfold Grid.layerExtent
    rw [h.filled?_eq "extent" (by decide)]

theorem Alike.layerSize_eq (h : first.Alike second) :
    Grid.layerSize first = Grid.layerSize second := by
  cases h with
  | intro h =>
    funext extent
    unfold Grid.layerSize Grid.pair
    simp (disch := decide) only [h.filled?_eq]

theorem Alike.layerBands_eq (h : first.Alike second) :
    Grid.layerBands first = Grid.layerBands second := by
  cases h with
  | intro h =>
    unfold Grid.layerBands
    rw [h "bandcount" (by decide)]

theorem Alike.geographicExtent_eq (library : ProjectionLibrary) (h : first.Alike second) :
    Grid.geographicExtent library first = Grid.geographicExtent library second := by
  cases h
  rfl

theorem Alike.coverageIdentity_eq {scope : Scope} (h : first.Alike second) :
    Ows.coverageIdentity scope first = Ows.coverageIdentity scope second := by
  cases h with
  | intro h =>
    unfold Ows.coverageIdentity
    simp (disch := decide) only [h.leafOr_eq, h _]

end Layer

/-! ## Maps -/

/-- Maps that are equal but for metadata, in which lookups find the same, and for layers. -/
inductive MapDefinition.AlikeButLayers (map : MapDefinition) : MapDefinition → Prop where
  | intro {metadata : Metadata} {layers : List Layer} (h : map.metadata.Alike metadata) :
      AlikeButLayers map { map with metadata, layers }

/-- Maps that are equal but for metadata of their own and of their layers, in which lookups find the
same. -/
structure MapDefinition.Alike (first second : MapDefinition) : Prop where
  butLayers : first.AlikeButLayers second
  layers : List.Forall₂ Layer.Alike first.layers second.layers

variable {library : ProjectionLibrary} {scope : Scope} {version : String}
  {first second : MapDefinition} {owner owner' : Option MapDefinition} {layer layer' : Layer}

theorem MapDefinition.AlikeButLayers.owner? (h : first.AlikeButLayers second)
    (hlayer : layer.Alike layer') :
    Option.Rel AlikeButLayers (first.owner? layer) (second.owner? layer') := by
  unfold MapDefinition.owner?
  rw [hlayer.attached_eq]
  split
  · exact .some h
  · exact .none

theorem Crs.supported_congr (howner : Option.Rel MapDefinition.AlikeButLayers owner owner')
    (hlayer : layer.Alike layer') :
    Crs.supported library owner layer = Crs.supported library owner' layer' := by
  cases hlayer with
  | intro hlayer =>
    unfold Crs.supported
    rw [hlayer.urns_eq]
    cases howner with
    | none => rfl
    | some h =>
      cases h with
      | intro h => simp only [h.urns_eq]

theorem Crs.native?_congr (howner : Option.Rel MapDefinition.AlikeButLayers owner owner')
    (hlayer : layer.Alike layer') :
    Crs.native? library owner layer = Crs.native? library owner' layer' := by
  cases hlayer with
  | intro hlayer =>
    unfold Crs.native?
    rw [hlayer.tokens_eq]
    cases howner with
    | none => rfl
    | some h =>
      cases h with
      | intro h => simp only [h.tokens_eq]

theorem Grid.ofLayer_congr (howner : Option.Rel MapDefinition.AlikeButLayers owner owner')
    (hlayer : layer.Alike layer') :
    Grid.ofLayer library owner layer = Grid.ofLayer library owner' layer' := by
  unfold Grid.ofLayer
  simp only [Crs.native?_congr howner hlayer, hlayer.layerExtent_eq, hlayer.layerSize_eq,
    hlayer.layerBands_eq, hlayer.geographicExtent_eq, hlayer.name_eq]

theorem MapDefinition.AlikeButLayers.mimeTypes_eq (h : first.AlikeButLayers second)
    {layer layer' : Option Layer} (hlayer : Option.Rel Layer.Alike layer layer') :
    first.mimeTypes layer = second.mimeTypes layer' := by
  cases h
  cases hlayer with
  | none => rfl
  | some hlayer =>
    cases hlayer with
    | intro hlayer =>
      unfold mimeTypes formatNames
      simp only [hlayer "formats" (by decide)]
      rfl

theorem MapDefinition.AlikeButLayers.serviceIdentification_eq
    (h : first.AlikeButLayers second) (serviceType : String) :
    Ows.serviceIdentification scope first serviceType version =
      Ows.serviceIdentification scope second serviceType version := by
  cases h with
  | intro h =>
    unfold Ows.serviceIdentification
    simp (disch := decide) only [h.filledLeaf_eq, h.leafOr_eq, h _]

theorem MapDefinition.AlikeButLayers.serviceUrl_eq (h : first.AlikeButLayers second)
    (origin : Option Origin) :
    Capabilities.serviceUrl first origin = Capabilities.serviceUrl second origin := by
  cases h with
  | intro h =>
    unfold Capabilities.serviceUrl ServiceUrl.ofMap?
    simp (disch := decide) only [h.filled?_eq]

/-! ## Documents -/

theorem map_eq_of_forall₂ {α β γ : Type} {r : α → β → Prop} {f : α → γ} {g : β → γ}
    {xs : List α} {ys : List β} (h : List.Forall₂ r xs ys) (heq : ∀ x y, r x y → f x = g y) :
    xs.map f = ys.map g := by
  induction h with
  | nil => rfl
  | cons hhead _ ih => rw [List.map_cons, List.map_cons, heq _ _ hhead, ih]

theorem MapDefinition.Alike.coverages (h : first.Alike second) :
    List.Forall₂ Layer.Alike first.coverages second.coverages := by
  refine List.rel_filter (fun layer layer' hlayer => ?_) h.layers
  exact Bool.eq_iff_iff.1 hlayer.isCoverage_eq

theorem Capabilities.summary_congr (h : first.AlikeButLayers second)
    (hlayer : layer.Alike layer') :
    summary scope library first layer = summary scope library second layer' := by
  have howner := h.owner? hlayer
  unfold summary
  simp only [Grid.ofLayer_congr howner hlayer, Crs.supported_congr howner hlayer,
    hlayer.coverageIdentity_eq, h.mimeTypes_eq (.some hlayer)]

theorem Capabilities.operations_congr (h : first.AlikeButLayers second)
    (hidentifiers : identifiers first = identifiers second) (url : String) :
    operations scope first version url = operations scope second version url := by
  unfold operations
  rw [hidentifiers, h.mimeTypes_eq .none]

/-- Capabilities tell of coverages alone. -/
theorem Capabilities.document_congr (h : first.AlikeButLayers second)
    (hcoverages : List.Forall₂ Layer.Alike first.coverages second.coverages)
    (origin : Option Origin) :
    document library first origin version = document library second origin version := by
  have hidentifiers : identifiers first = identifiers second := by
    unfold identifiers
    rw [map_eq_of_forall₂ hcoverages fun _ _ hlayer => hlayer.name_eq]
  have hprovider : Ows.serviceProvider .service first.metadata =
      Ows.serviceProvider .service second.metadata := by
    cases h with
    | intro h => exact h.serviceProvider_eq
  unfold document body
  rw [h.serviceIdentification_eq, h.serviceUrl_eq, hprovider,
    funext (operations_congr h hidentifiers),
    map_eq_of_forall₂ hcoverages fun _ _ hlayer => summary_congr h hlayer]

namespace Description

variable {coverages names : List String}

theorem grid?_congr (h : first.AlikeButLayers second) (hlayer : layer.Alike layer') :
    grid? library first layer = grid? library second layer' := by
  have howner := h.owner? hlayer
  unfold grid?
  rw [hlayer.isCoverage_eq]
  generalize first.owner? layer = owner at howner ⊢
  generalize second.owner? layer' = owner' at howner ⊢
  cases howner with
  | none => rfl
  | some howner => simp only [Grid.ofLayer_congr (.some howner) hlayer]

theorem layerFragment_congr (h : first.AlikeButLayers second) (hlayer : layer.Alike layer') :
    layerFragment scope library first layer = layerFragment scope library second layer' := by
  have hcoverage (grid : Grid) :
      coverage scope library first layer grid = coverage scope library second layer' grid := by
    have hfield : field scope (layer.metadata.withBands grid.bands) =
        field scope (layer'.metadata.withBands grid.bands) := by
      cases hlayer with
      | intro hlayer => exact hlayer.field_eq grid.bands
    unfold coverage
    rw [hlayer.coverageIdentity_eq, hfield, Crs.supported_congr (h.owner? hlayer) hlayer,
      h.mimeTypes_eq (.some hlayer)]
  unfold layerFragment
  rw [grid?_congr h hlayer, funext hcoverage]

/-- The document is made of what there is to say of each target. -/
theorem document_eq_bind (map : MapDefinition) : document library map coverages version =
    (targets map coverages).map (List.map (layerFragment .service library map)) >>=
      fun fragments => (do
        let empty ← Document.create "CoverageDescriptions" .service (some version)
        empty.withBody (.concat fragments)) := by
  unfold document
  cases targets map coverages <;> rfl

theorem layer?_rel (h : List.Forall₂ Layer.Alike first.layers second.layers) (name : String) :
    Option.Rel Layer.Alike (first.layer? name) (second.layer? name) := by
  unfold MapDefinition.layer?
  generalize first.layers = layers at h ⊢
  generalize second.layers = layers' at h ⊢
  induction h with
  | nil => exact .none
  | cons hhead _ ih =>
    rw [List.find?_cons, List.find?_cons, hhead.name_eq]
    split
    · exact .some hhead
    · exact ih

theorem map_namedLayers_congr {f g : Layer → Fragment} (h : first.Alike second)
    (heq : ∀ layer layer', layer.Alike layer' → f layer = g layer') :
    (namedLayers first names).map (List.map f) = (namedLayers second names).map (List.map g) := by
  induction names with
  | nil => rfl
  | cons name rest ih =>
    -- A name is unknown to both maps or to none, and then the failure names it for both.
    have hlayer := layer?_rel h.layers name
    unfold namedLayers
    generalize first.layer? name = found at hlayer ⊢
    generalize second.layer? name = found' at hlayer ⊢
    cases hlayer with
    | none => rfl
    | some hlayer =>
      have hcons {f : Layer → Fragment} (layer : Layer) (result : Except Failure (List Layer)) :
          (result.map (layer :: ·)).map (List.map f) =
            (result.map (List.map f)).map (f layer :: ·) := by
        cases result <;> rfl
      simp only [hcons, heq _ _ hlayer, ih]

theorem document_congr (h : first.Alike second) :
    document library first coverages version = document library second coverages version := by
  have hfragment (layer layer' : Layer) (hlayer : layer.Alike layer') :
      layerFragment .service library first layer = layerFragment .service library second layer' :=
    layerFragment_congr h.butLayers hlayer
  -- The targets themselves differ, so what is said of them is compared.
  have htargets : (targets first coverages).map (List.map (layerFragment .service library first)) =
      (targets second coverages).map (List.map (layerFragment .service library second)) := by
    unfold targets
    split
    · exact congrArg Except.ok (map_eq_of_forall₂ h.layers hfragment)
    · exact map_namedLayers_congr h hfragment
  rw [document_eq_bind, document_eq_bind, htargets]

/-- What is passed over can be left out. -/
theorem concat_map_layers (map : MapDefinition) :
    Fragment.concat (map.layers.map (layerFragment scope library map)) =
      .concat (map.coverages.map (layerFragment scope library map)) := by
  unfold MapDefinition.coverages
  generalize map.layers = layers
  induction layers with
  | nil => rfl
  | cons layer rest ih =>
    rw [List.filter_cons]
    split
    · rw [List.map_cons, List.map_cons, Fragment.concat, Fragment.concat, ih]
    · next hcoverage =>
      have hempty : layerFragment scope library map layer = .empty := by
        rw [layerFragment, grid?_of_not_isCoverage (by simpa using hcoverage)]
        rfl
      rw [List.map_cons, Fragment.concat, hempty, ih]
      rfl

/-- Without identifiers, descriptions tell of coverages alone. -/
theorem document_congr_of_nil (h : first.AlikeButLayers second)
    (hcoverages : List.Forall₂ Layer.Alike first.coverages second.coverages)
    (hidentifiers : identifiers coverages = []) :
    document library first coverages version = document library second coverages version := by
  have hfragments : Fragment.concat (first.layers.map (layerFragment .service library first)) =
      .concat (second.layers.map (layerFragment .service library second)) := by
    rw [concat_map_layers, concat_map_layers]
    exact congrArg Fragment.concat
      (map_eq_of_forall₂ hcoverages fun _ _ hlayer => layerFragment_congr h hlayer)
  unfold document
  rw [targets_of_nil hidentifiers, targets_of_nil hidentifiers]
  simp only [bind, Except.bind, hfragments]

end Description

theorem Coverage.selectFormat_congr (h : first.AlikeButLayers second) :
    selectFormat first = selectFormat second := by
  cases h
  rfl

end WebCoverage
