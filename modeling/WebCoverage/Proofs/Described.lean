import Mathlib.Data.List.Nodup
import WebCoverage.Proofs.Advertised
import WebCoverage.Proofs.Number.Writable
import WebCoverage.Proofs.RangeSet

/-! Descriptions of the coverages that capabilities list. A summary and a description of one
coverage are put together from the same parts, but for what a description says of the grid and of
the range, so a coverage that is listed can be described if the texts for its range can be carried.
Whether its identifier asks for it is another matter: an identifier is read as a list with commas,
and a list without items stands for all coverages (`Description.describes_listed_iff`). -/

namespace WebCoverage

open Xml

/-- A document can carry what metadata says of the range of a layer. -/
def Layer.HasWritableRange (layer : Layer) : Prop :=
  ∀ name ∈ ["rangeset_label", "rangeset_name"], ∀ text ∈ layer.metadata.find? name,
    isWritableText text

instance (layer : Layer) : Decidable layer.HasWritableRange :=
  inferInstanceAs (Decidable (∀ name ∈ ["rangeset_label", "rangeset_name"],
    ∀ text ∈ layer.metadata.find? name, isWritableText text))

variable {library : ProjectionLibrary} {map : MapDefinition} {layer : Layer} {grid : Grid}
  {name text version : String} {body : Fragment}

theorem MapDefinition.of_layer?_eq_some (h : map.layer? name = some layer) :
    layer ∈ map.layers ∧ layer.name = name := by
  unfold layer? at h
  exact ⟨List.mem_of_find?_eq_some h, by simpa using List.find?_some h⟩

/-- Where names are different, a layer is found under its name. -/
theorem MapDefinition.layer?_name (hdistinct : (map.layers.map (·.name)).Nodup)
    (hlayer : layer ∈ map.layers) : map.layer? layer.name = some layer := by
  cases hfound : map.layer? layer.name with
  | none =>
    unfold layer? at hfound
    simpa using List.find?_eq_none.1 hfound layer hlayer
  | some found =>
    obtain ⟨hmem, hname⟩ := of_layer?_eq_some hfound
    exact congrArg some (List.inj_on_of_nodup_map hdistinct hmem hlayer hname)

namespace Description

/-! ## Parts of a description -/

private theorem check_service : ∀ name ∈ ["CoverageDescriptions", "CoverageDescription", "Domain",
    "SpatialDomain", "GridCRS", "GridBaseCRS", "GridType", "GridOrigin", "GridOffsets", "GridCS",
    "Range", "Field", "ows:Title", "Identifier", "InterpolationMethods", "DefaultMethod",
    "OtherMethod", "Axis", "identifier", "AvailableKeys", "Key"],
    Scope.service.check name = .ok () := by
  decide +kernel

private theorem failure_leaf_iff (hname : Scope.service.check name = .ok ()) :
    (Scope.service.leaf name text []).failure = none ↔ isWritableText text := by
  simp [Scope.failure_leaf_eq_none, hname]

private theorem failure_node_iff (hname : Scope.service.check name = .ok ()) :
    (Scope.service.node name [] body).failure = none ↔ body.failure = none := by
  simp [Scope.failure_node_eq_none, hname]

theorem failure_gridCrs (h : isWritableText grid.crs) : (gridCrs .service grid).failure = none := by
  have hleaf {name text : String} (hname : Scope.service.check name = .ok ())
      (htext : isWritableText text) : (Scope.service.leaf name text []).failure = none :=
    (failure_leaf_iff hname).2 htext
  refine (failure_node_iff (check_service _ (by simp))).2 (Fragment.failure_concat_eq_none.2 ?_)
  simp only [List.forall_mem_cons]
  exact ⟨hleaf (check_service _ (by simp)) h, hleaf (check_service _ (by simp)) (by decide),
    hleaf (check_service _ (by simp)) (isWritableText_pointText ..),
    hleaf (check_service _ (by simp)) (isWritableText_pointText ..),
    hleaf (check_service _ (by simp)) (by decide), List.forall_mem_nil _⟩

private theorem failure_filledLeaf_iff (hname : Scope.service.check name = .ok ())
    (metadata : Metadata) (key : String) :
    (Ows.filledLeaf .service name metadata key).failure = none ↔
      ∀ text ∈ metadata.find? key, isWritableText text := by
  simp only [Ows.filledLeaf, Fragment.failure_ofOption_eq_none, failure_leaf_iff hname,
    Metadata.filled?, Option.mem_def, Option.filter_eq_some_iff]
  refine ⟨fun h text htext => ?_, fun h text htext => h text htext.1⟩
  by_cases hempty : text.isEmpty
  · rw [String.isEmpty_iff.1 hempty]
    rfl
  · exact h text ⟨htext, by simpa using hempty⟩

private theorem failure_leafOr_iff (hname : Scope.service.check name = .ok ())
    (metadata : Metadata) (key : String) {default : String} (hdefault : isWritableText default) :
    (Ows.leafOr .service name metadata key default).failure = none ↔
      ∀ text ∈ metadata.find? key, isWritableText text := by
  rw [Ows.leafOr, failure_leaf_iff hname]
  cases metadata.find? key <;> simp [hdefault]

theorem failure_field_iff (metadata : Metadata) : (field .service metadata).failure = none ↔
    ∀ name ∈ ["rangeset_label", "rangeset_name"], ∀ text ∈ metadata.find? name,
      isWritableText text := by
  have hmethods : (Scope.service.node "InterpolationMethods" [] (.concat [
      Scope.service.leaf "DefaultMethod" "nearest neighbour" [],
      Scope.service.leaf "OtherMethod" "bilinear" []])).failure = none := by
    decide +kernel
  have haxis : (Scope.service.node "Axis" [("identifier", "Band")]
      (Scope.service.node "AvailableKeys" [] (Scope.service.leaf "Key" "1" []))).failure =
        none := by
    decide +kernel
  rw [field, failure_node_iff (check_service _ (by simp)), Fragment.failure_concat_eq_none]
  simp only [List.forall_mem_cons, failure_filledLeaf_iff (check_service "ows:Title" (by simp)),
    failure_leafOr_iff (check_service "Identifier" (by simp)) metadata "rangeset_name"
      (show isWritableText "bands" by decide), hmethods, haxis, true_and, List.not_mem_nil,
    false_implies, implies_true]

/-- The box of a grid names its reference system. -/
private theorem isWritableText_crs
    (h : (Ows.coverageBoxes .service grid).failure = none) : isWritableText grid.crs := by
  have hparts := Fragment.failure_concat_eq_none.1 h
  simp only [List.forall_mem_cons] at hparts
  exact ((Scope.failure_node_eq_none.1 hparts.2.1).2.1 ("crs", grid.crs) (by simp)).1

/-- A coverage that is listed can be described if what is said of its range can be carried. -/
theorem failure_coverage_iff
    (hsummary : (Capabilities.summary .service library map layer).failure = none)
    (hgrid : Grid.ofLayer library (map.owner? layer) layer = .ok grid) :
    (coverage .service library map layer grid).failure = none ↔ layer.HasWritableRange := by
  obtain ⟨found, hfound, hnode⟩ := Fragment.failure_ofResult_eq_none.1 hsummary
  cases hgrid.symm.trans hfound
  have hparts := Fragment.failure_concat_eq_none.1 (Scope.failure_node_eq_none.1 hnode).2.2
  simp only [List.forall_mem_cons] at hparts
  obtain ⟨hidentity, hboxes, hformats, hcrs, -⟩ := hparts
  have hdomain : (Scope.service.node "Domain" [] (Scope.service.node "SpatialDomain" [] (.concat [
      Ows.coverageBoxes .service grid, gridCrs .service grid]))).failure = none := by
    refine (failure_node_iff (check_service _ (by simp))).2
      ((failure_node_iff (check_service _ (by simp))).2 (Fragment.failure_concat_eq_none.2 ?_))
    simp only [List.forall_mem_cons]
    exact ⟨hboxes, failure_gridCrs (isWritableText_crs hboxes), List.forall_mem_nil _⟩
  have hrange : (field .service (layer.metadata.withBands grid.bands)).failure = none ↔
      layer.HasWritableRange := by
    rw [failure_field_iff]
    refine forall_congr' fun name => forall_congr' fun hname => ?_
    rw [Metadata.find?_withBands grid.bands hname]
  rw [coverage, failure_node_iff (check_service _ (by simp)), Fragment.failure_concat_eq_none]
  simp only [List.forall_mem_cons, hidentity, hdomain, hcrs, hformats,
    failure_node_iff (check_service "Range" (by simp)), hrange, true_and, List.not_mem_nil,
    false_implies, implies_true, and_true]

theorem grid?_of_not_isCoverage (h : layer.isCoverage = false) :
    grid? library map layer = .ok none := by
  unfold grid?
  split
  · rfl
  · rw [h]
    rfl

/-- Where all coverages are listed, they are the layers that are described. -/
theorem isDescribed_of_listed (hattached : layer.attached)
    (hsummary : layer.isCoverage →
      (Capabilities.summary .service library map layer).failure = none) :
    isDescribed library map layer = layer.isCoverage := by
  refine isDescribed_eq_isCoverage hattached fun hcoverage => ?_
  obtain ⟨grid, _, hresolved, -⟩ := Capabilities.elements_summary (hsummary hcoverage)
  exact ⟨grid, hresolved.ofLayer_eq⟩

theorem failure_layerFragment_iff (hattached : layer.attached)
    (hsummary : layer.isCoverage →
      (Capabilities.summary .service library map layer).failure = none) :
    (layerFragment .service library map layer).failure = none ↔
      (layer.isCoverage → layer.HasWritableRange) := by
  unfold layerFragment
  by_cases hcoverage : layer.isCoverage
  · obtain ⟨grid, _, hresolved, -⟩ := Capabilities.elements_summary (hsummary hcoverage)
    rw [grid?_eq_ok_some_iff.2 ⟨hattached, hcoverage, hresolved.ofLayer_eq⟩]
    have hiff := failure_coverage_iff (hsummary hcoverage) hresolved.ofLayer_eq
    exact hiff.trans ⟨fun h _ => h, fun h => h hcoverage⟩
  · rw [grid?_of_not_isCoverage (eq_false_of_ne_true hcoverage)]
    exact iff_of_true rfl fun h => absurd h hcoverage

/-! ## Documents -/

/-- There are descriptions if all targets are known and none of them fails. -/
theorem exists_document_iff {coverages : List String} :
    (∃ description, document library map coverages version = .ok description) ↔
      ∃ layers, targets map coverages = .ok layers ∧
        ∀ layer ∈ layers, (layerFragment .service library map layer).failure = none := by
  constructor
  · rintro ⟨description, h⟩
    obtain ⟨layers, htargets, hparts, -⟩ := children_of_document h
    exact ⟨layers, htargets, hparts⟩
  · rintro ⟨layers, htargets, hparts⟩
    have hbody : (.concat (layers.map (layerFragment .service library map)) : Fragment).failure =
        none := Fragment.failure_concat_eq_none.2 (List.forall_mem_map.2 hparts)
    unfold document Document.create
    simp only [htargets, check_service "CoverageDescriptions" (by simp), bind, Except.bind, pure,
      Except.pure, Document.withBody, hbody]
    exact ⟨_, rfl⟩

theorem textsOf_identifier {element : Element} (h : Describes library map layer element) :
    element.textsOf "Identifier" = [layer.name] := by
  obtain ⟨-, -, grid, crs, range, -, rfl⟩ := h
  exact congrArg Profile.identifiers Profile.ofDescription_coverageElement

/-- The identifiers of the descriptions are the names of the targets that are not passed over. -/
theorem identifiers_of_document {description : Document} {coverages : List String}
    {layers : List Layer} (h : document library map coverages version = .ok description)
    (htargets : targets map coverages = .ok layers) :
    description.descriptions.map (·.textsOf "Identifier") =
      (layers.filter (isDescribed library map)).map fun layer => [layer.name] := by
  obtain ⟨found, hfound, hrow⟩ := forall₂_descriptions h
  cases htargets.symm.trans hfound
  generalize description.descriptions = elements, layers.filter _ = described at hrow ⊢
  induction hrow with
  | nil => rfl
  | cons hfirst _ ih => rw [List.map_cons, List.map_cons, textsOf_identifier hfirst, ih]

/-! ## Requests for one identifier -/

variable {i : String} {identifiers' : List String} {layers : List Layer}

theorem identifiers_of_plain (hnonempty : i ≠ "") (hcomma : ',' ∉ i.toList) :
    identifiers [i] = [i] := by
  have hpieces : i.toList.splitOnP (· = ',') = [i.toList] :=
    List.splitOnP_eq_singleton fun c hc => decide_eq_false fun heq => hcomma (heq ▸ hc)
  simp [identifiers, hpieces, hnonempty]

theorem plain_of_mem_identifiers (h : name ∈ identifiers [i]) : name ≠ "" ∧ ',' ∉ name.toList := by
  obtain ⟨piece, hpiece, rfl⟩ := List.mem_map.1 h
  obtain ⟨hpiece, hnonempty⟩ := List.mem_filter.1 hpiece
  rw [String.toList_ofList]
  exact ⟨by simpa using hnonempty,
    fun hcomma => Text.not_mem_of_mem_splitOnP hpiece _ hcomma (by decide)⟩

private theorem splitOnP_eq_nil_iff {α : Type} {p : α → Bool} {items : List α} :
    (items.splitOnP p).filter (!·.isEmpty) = [] ↔ ∀ item ∈ items, p item := by
  induction items with
  | nil => simp
  | cons first rest ih =>
    rw [List.splitOnP_cons_eq_if_modifyHead, List.forall_mem_cons]
    split
    · next hfirst => simpa [hfirst] using ih
    · next hfirst =>
      obtain ⟨head, tail, hsplit⟩ := List.exists_cons_of_ne_nil (List.splitOnP_ne_nil p rest)
      simp [hsplit, hfirst]

/-- No identifier is asked for with commas alone. -/
theorem identifiers_eq_nil_iff : identifiers [i] = [] ↔ ∀ c ∈ i.toList, c = ',' := by
  rw [identifiers, List.map_eq_nil_iff, splitOnP_eq_nil_iff]
  simp only [decide_eq_true_eq]

theorem map_name_of_namedLayers (h : namedLayers map identifiers' = .ok layers) :
    layers.map (·.name) = identifiers' ∧ ∀ layer ∈ layers, layer ∈ map.layers := by
  induction identifiers' generalizing layers with
  | nil =>
    cases h
    exact ⟨rfl, List.forall_mem_nil _⟩
  | cons identifier rest ih =>
    rw [namedLayers] at h
    split at h
    · next layer hlayer =>
      cases hrest : namedLayers map rest with
      | error failure => rw [hrest] at h; cases h
      | ok found =>
        rw [hrest] at h
        cases h
        obtain ⟨hnames, hmem⟩ := ih hrest
        obtain ⟨hlayer, hname⟩ := MapDefinition.of_layer?_eq_some hlayer
        exact ⟨by rw [List.map_cons, hnames, hname], List.forall_mem_cons.2 ⟨hlayer, hmem⟩⟩
    · cases h

theorem targets_of_nil {coverages : List String} (h : identifiers coverages = []) :
    targets map coverages = .ok map.layers := by
  rw [targets, h]

theorem targets_of_ne_nil {coverages : List String} (h : identifiers coverages ≠ []) :
    targets map coverages = namedLayers map (identifiers coverages) := by
  unfold targets
  split
  · contradiction
  · rfl

/-- A name that is one identifier asks for the layer alone. -/
theorem targets_of_plain (hdistinct : (map.layers.map (·.name)).Nodup) (hlayer : layer ∈ map.layers)
    (hnonempty : layer.name ≠ "") (hcomma : ',' ∉ layer.name.toList) :
    targets map [layer.name] = .ok [layer] := by
  have hplain := identifiers_of_plain hnonempty hcomma
  rw [targets_of_ne_nil (by simp [hplain]), hplain, namedLayers,
    MapDefinition.layer?_name hdistinct hlayer]
  rfl

/-- The layers that a text asks for, by its commas. -/
theorem targets_of_singleton (h : targets map [i] = .ok layers) :
    ((∀ c ∈ i.toList, c = ',') ∧ layers = map.layers) ∨
      ∀ layer ∈ layers, layer ∈ map.layers ∧ layer.name ≠ "" ∧ ',' ∉ layer.name.toList := by
  by_cases hnone : identifiers [i] = []
  · rw [targets_of_nil hnone] at h
    cases h
    exact .inl ⟨identifiers_eq_nil_iff.1 hnone, rfl⟩
  · rw [targets_of_ne_nil hnone] at h
    obtain ⟨hnames, hmem⟩ := map_name_of_namedLayers h
    refine .inr fun layer hlayer => ⟨hmem layer hlayer, plain_of_mem_identifiers (i := i) ?_⟩
    exact hnames ▸ List.mem_map_of_mem hlayer

theorem mem_of_targets (h : targets map [i] = .ok layers) :
    ∀ layer ∈ layers, layer ∈ map.layers := by
  obtain ⟨-, rfl⟩ | hall := targets_of_singleton h
  · exact fun layer hlayer => hlayer
  · exact fun layer hlayer => (hall layer hlayer).1

/-! ## Coverages that are listed -/

/-- A map that owns its layers, all coverages of which can be listed. -/
structure Listed (library : ProjectionLibrary) (map : MapDefinition) : Prop where
  attached : ∀ layer ∈ map.layers, layer.attached
  summary : ∀ layer ∈ map.layers, layer.isCoverage →
    (Capabilities.summary .service library map layer).failure = none

theorem Listed.of_document {capabilities : Document} {origin : Option Origin}
    (hattached : ∀ layer ∈ map.layers, layer.attached)
    (h : Capabilities.document library map origin version = .ok capabilities) :
    Listed library map where
  attached := hattached
  summary layer hlayer hcoverage := by
    have hall := Fragment.failure_concat_eq_none.1 (Capabilities.childrenNamed_contents h).1
    exact List.forall_mem_map.1 hall layer (List.mem_filter.2 ⟨hlayer, hcoverage⟩)

/-- What a request for one text is answered with, by the layers that it asks for. -/
theorem Listed.describes_iff (hlisted : Listed library map) (version : String)
    {identified : List (List String)} :
    (∃ description, document library map [i] version = .ok description ∧
      description.descriptions.map (·.textsOf "Identifier") = identified) ↔
    ∃ layers, targets map [i] = .ok layers ∧
      (∀ layer ∈ layers, layer.isCoverage → layer.HasWritableRange) ∧
      (layers.filter (·.isCoverage)).map (fun layer => [layer.name]) = identified := by
  have hfragment {layers : List Layer} (h : targets map [i] = .ok layers) :
      ∀ layer ∈ layers, (layerFragment .service library map layer).failure = none ↔
        (layer.isCoverage → layer.HasWritableRange) := by
    intro layer hlayer
    have hmem := mem_of_targets h layer hlayer
    exact failure_layerFragment_iff (hlisted.attached layer hmem) (hlisted.summary layer hmem)
  have hfilter {layers : List Layer} (h : targets map [i] = .ok layers) :
      layers.filter (isDescribed library map) = layers.filter (·.isCoverage) := by
    refine List.filter_congr fun layer hlayer => ?_
    have hmem := mem_of_targets h layer hlayer
    exact isDescribed_of_listed (hlisted.attached layer hmem) (hlisted.summary layer hmem)
  constructor
  · rintro ⟨description, hdocument, rfl⟩
    obtain ⟨layers, htargets, hparts⟩ := exists_document_iff.1 ⟨description, hdocument⟩
    refine ⟨layers, htargets, fun layer hlayer => ?_, ?_⟩
    · exact (hfragment htargets layer hlayer).1 (hparts layer hlayer)
    · rw [identifiers_of_document hdocument htargets, hfilter htargets]
  · rintro ⟨layers, htargets, hranges, rfl⟩
    obtain ⟨description, hdocument⟩ := exists_document_iff.2 ⟨layers, htargets,
      fun layer hlayer => (hfragment htargets layer hlayer).2 (hranges layer hlayer)⟩
    refine ⟨description, hdocument, ?_⟩
    rw [identifiers_of_document hdocument htargets, hfilter htargets]

/-- What capabilities list, descriptions describe when they are asked for its identifier alone, if
two things hold: the texts for its range can be carried, and its identifier is one identifier or, as
a list without any, asks for all coverages where there is no other. -/
theorem describes_listed_iff {capabilities : Document} {origin : Option Origin}
    (hdistinct : (map.layers.map (·.name)).Nodup)
    (hattached : ∀ layer ∈ map.layers, layer.attached)
    (hcapabilities : Capabilities.document library map origin version = .ok capabilities)
    (hi : i ∈ capabilities.summarized) (version' : String) :
    (∃ description, document library map [i] version' = .ok description ∧
      description.descriptions.map (·.textsOf "Identifier") = [[i]]) ↔
    (∀ layer ∈ map.coverages, layer.name = i → layer.HasWritableRange) ∧
      (i ≠ "" ∧ ',' ∉ i.toList ∨
        (∀ c ∈ i.toList, c = ',') ∧ map.coverages.length = 1) := by
  rw [Capabilities.summarized_eq hcapabilities] at hi
  obtain ⟨layer, hcoverages, rfl⟩ := List.mem_map.1 hi
  obtain ⟨hlayer, hcoverage⟩ := List.mem_filter.1 hcoverages
  have hunique : ∀ other ∈ map.layers, other.name = layer.name → other = layer := by
    intro other hother hname
    exact List.inj_on_of_nodup_map hdistinct hother hlayer hname
  rw [(Listed.of_document hattached hcapabilities).describes_iff version']
  constructor
  · rintro ⟨layers, htargets, hranges, hnames⟩
    obtain ⟨found, hfound, hname⟩ := List.map_eq_singleton_iff.1 hnames
    rw [List.cons.injEq] at hname
    -- What was described is the listed layer itself, since no other has its name.
    have hmem : found ∈ layers.filter (·.isCoverage) := hfound ▸ List.mem_singleton_self found
    obtain ⟨hmem, -⟩ := List.mem_filter.1 hmem
    cases hunique found (mem_of_targets htargets found hmem) hname.1
    refine ⟨fun other hother hname => ?_, ?_⟩
    · cases hunique other (List.mem_filter.1 hother).1 hname
      exact hranges layer hmem hcoverage
    · obtain ⟨hcommas, rfl⟩ | hplain := targets_of_singleton htargets
      · exact .inr ⟨hcommas, congrArg List.length hfound⟩
      · exact .inl (hplain layer hmem).2
  · rintro ⟨hrange, ⟨hnonempty, hcomma⟩ | ⟨hcommas, hlength⟩⟩
    · exact ⟨[layer], targets_of_plain hdistinct hlayer hnonempty hcomma,
        List.forall_mem_singleton.2 fun _ => hrange layer hcoverages rfl, by simp [hcoverage]⟩
    · obtain ⟨only, honly⟩ := List.length_eq_one_iff.1 hlength
      rw [honly, List.mem_singleton] at hcoverages
      subst hcoverages
      refine ⟨map.layers, targets_of_nil (identifiers_eq_nil_iff.2 hcommas), ?_, ?_⟩
      · intro other hother hcoverage
        have hmem : other ∈ map.coverages := List.mem_filter.2 ⟨hother, hcoverage⟩
        rw [honly, List.mem_singleton] at hmem
        exact hmem ▸ hrange layer (honly ▸ List.mem_singleton_self _) rfl
      · change map.coverages.map _ = _
        rw [honly]
        rfl

theorem describes_dem :
    ∃ description, document Grid.plainLibrary terrainMap ["dem"] "1.1.0" = .ok description ∧
      description.descriptions.map (·.textsOf "Identifier") = [["dem"]] := by
  obtain ⟨capabilities, hcapabilities⟩ := Fragment.exists_of_isOk isOk_capabilities_terrainMap
  have hlisted : "dem" ∈ capabilities.summarized := by
    rw [Capabilities.summarized_eq hcapabilities]
    decide
  have hrange : ∀ layer ∈ terrainMap.coverages, layer.name = "dem" → layer.HasWritableRange := by
    decide +kernel
  exact (describes_listed_iff (by decide) (by decide) hcapabilities hlisted "1.1.0").2
    ⟨hrange, .inl (by decide)⟩

/-- A map of one coverage, whose name reads as two identifiers. -/
def pairMap : MapDefinition :=
  { MapDefinition.empty with layers := [Grid.sizedLayer "a,b" "10 10"] }

/-- A coverage is listed under an identifier that asks for others. -/
theorem not_described_pairMap :
    (pairMap.layers.map (·.name)).Nodup ∧ (∀ layer ∈ pairMap.layers, layer.attached) ∧
      (∃ capabilities,
        Capabilities.document Grid.plainLibrary pairMap (some localOrigin) "1.1.0" =
          .ok capabilities ∧
        "a,b" ∈ capabilities.summarized) ∧
      document Grid.plainLibrary pairMap ["a,b"] "1.1.0" = .error (.coverageNotDefined "a") := by
  have hbuilt : (Capabilities.document Grid.plainLibrary pairMap (some localOrigin) "1.1.0").isOk :=
    by decide +kernel
  obtain ⟨capabilities, hcapabilities⟩ := Fragment.exists_of_isOk hbuilt
  have hlisted : "a,b" ∈ capabilities.summarized := by
    rw [Capabilities.summarized_eq hcapabilities]
    decide
  refine ⟨by decide, by decide, ⟨capabilities, hcapabilities, hlisted⟩, ?_⟩
  have hidentifiers : identifiers ["a,b"] = ["a", "b"] := by decide
  have hunknown : pairMap.layer? "a" = none := by decide
  have htargets : targets pairMap ["a,b"] = .error (.coverageNotDefined "a") := by
    rw [targets_of_ne_nil (by simp [hidentifiers]), hidentifiers, namedLayers, hunknown]
  unfold document
  rw [htargets]
  rfl

end Description

end WebCoverage
