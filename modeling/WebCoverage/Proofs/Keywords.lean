import WebCoverage.Proofs.Advertised

/-! Sections of keywords. The service has one exactly if there are keywords. A coverage has one as
soon as a list of keywords is configured for it, so of a list without any keyword there is an empty
section (`tells_keywords_iff`). -/

namespace WebCoverage

open Xml

/-! ## Keywords -/

namespace Metadata

variable {metadata : Metadata}

/-- The keywords: what stands between commas in their list, trimmed, unless nothing is left. -/
def keywords (metadata : Metadata) : List String :=
  let pieces := ((metadata.find? "keywordlist").getD "").toList.splitOnP (· = ',')
  ((pieces.map Text.trim).filter (!·.isEmpty)).map String.ofList

/-- A list of keywords is configured that has none. -/
def ListsNothing (metadata : Metadata) : Prop :=
  metadata.find? "keywordlist" ≠ none ∧ metadata.keywords = []

theorem keywords_eq_commaList (metadata : Metadata) :
    metadata.keywords = Text.commaList ((metadata.find? "keywordlist").getD "") := by
  rw [keywords, Text.commaList, Text.items_comma]

theorem keywords_of_none (h : metadata.find? "keywordlist" = none) : metadata.keywords = [] := by
  rw [keywords, h]
  rfl

end Metadata

namespace Xml.Element

/-- The texts of the keywords in each section of keywords. -/
def keywordSections (element : Element) : List (List String) :=
  (element.childrenNamed "ows:Keywords").map (·.textsOf "ows:Keyword")

/-- The element has a section with these keywords, and none where there are no keywords. -/
def Tells (element : Element) (keywords : List String) : Prop :=
  element.keywordSections = if keywords = [] then [] else [keywords]

end Xml.Element

/-! ## The service -/

namespace Ows

variable {scope : Scope} {map : MapDefinition} {element name serviceType version default : String}
  {metadata : Metadata}

def identificationElement (map : MapDefinition) (serviceType version : String) : Element :=
  let metadata := map.metadata
  .ofChildren "ows:ServiceIdentification" []
    [[.ofText "ows:Title" ((metadata.find? "title").getD map.name)],
      (metadata.filled? "abstract").elim [] fun abstract => [.ofText "ows:Abstract" abstract],
      if metadata.keywords = [] then []
        else [.ofChildren "ows:Keywords" [] (metadata.keywords.map (.ofText "ows:Keyword"))],
      [{ Element.ofText "ows:ServiceType" serviceType with attributes := [("codeSpace", "OGC")] }],
      [.ofText "ows:ServiceTypeVersion" version],
      [.ofText "ows:Fees" ((metadata.find? "fees").getD "NONE")],
      [.ofText "ows:AccessConstraints" ((metadata.find? "accessconstraints").getD "NONE")]].flatten

theorem builds_leafOr : (leafOr scope element metadata name default).Builds
    [.ofText element ((metadata.find? name).getD default)] :=
  Fragment.builds_leaf

theorem builds_filledLeaf : (filledLeaf scope element metadata name).Builds
    ((metadata.filled? name).elim [] fun value => [.ofText element value]) :=
  Fragment.builds_ofOption fun _ _ => Fragment.builds_leaf

theorem builds_serviceIdentification :
    (serviceIdentification scope map serviceType version).Builds
      [identificationElement map serviceType version] := by
  refine Fragment.builds_node (Fragment.builds_concat (.cons builds_leafOr (.cons builds_filledLeaf
    (.cons ?keywords (.cons ?type (.cons Fragment.builds_leaf (.cons builds_leafOr
      (.cons builds_leafOr .nil))))))))
  case keywords =>
    rw [← Metadata.keywords_eq_commaList]
    by_cases hnone : map.metadata.keywords = []
    · rw [if_pos hnone, if_pos (List.isEmpty_iff.2 hnone)]
      exact Fragment.builds_empty
    · rw [if_neg hnone, if_neg (mt List.isEmpty_iff.1 hnone)]
      exact Fragment.builds_node Fragment.builds_leaves
  case type => exact fun h => Scope.elements_leaf h

theorem tells_identificationElement :
    (identificationElement map serviceType version).Tells map.metadata.keywords := by
  unfold Element.Tells Element.keywordSections
  cases habstract : map.metadata.filled? "abstract" <;>
    by_cases hnone : map.metadata.keywords = [] <;>
      simp [identificationElement, habstract, hnone, Element.textsOf, Element.childrenNamed,
        List.filter_map, Function.comp_def, Element.ofText, Element.ofChildren]

end Ows

variable {library : ProjectionLibrary} {map : MapDefinition} {layer : Layer} {element : Element}
  {version : String}

/-- The service has one identification, which tells its keywords. -/
theorem Capabilities.tells_identification {capabilities : Document} {origin : Option Origin}
    (h : document library map origin version = .ok capabilities) :
    ∃ identification,
      capabilities.root.childrenNamed "ows:ServiceIdentification" = [identification] ∧
        identification.Tells map.metadata.keywords := by
  obtain ⟨identification, provider, url, hoperations, -, hchildren⟩ := children_of_document h
  obtain ⟨hfailure, hbody⟩ := Document.of_body h
  have hparts := Fragment.failure_concat_eq_none.1 hfailure
  have hfirst := Ows.builds_serviceIdentification (hparts _ List.mem_cons_self)
  rw [body, Fragment.elements_concat hfailure, List.flatMap_cons, hfirst, hchildren] at hbody
  obtain ⟨hidentification, -⟩ := List.cons.inj hbody
  rw [builds_operations hoperations] at hchildren
  refine ⟨.ofChildren "ows:ServiceIdentification" [] identification, ?_, ?_⟩
  · rw [Element.childrenNamed, hchildren]
    rfl
  · rw [hidentification]
    exact Ows.tells_identificationElement

/-! ## Coverages -/

/-- The element tells the keywords of the layer, unless a list without any is configured: of such a
list it has an empty section. -/
structure HasKeywordsOf (layer : Layer) (element : Element) : Prop where
  tells_iff : element.Tells layer.metadata.keywords ↔ ¬layer.metadata.ListsNothing
  empty : layer.metadata.ListsNothing → element.keywordSections = [[]]

theorem HasKeywordsOf.of_sections (h : element.keywordSections =
    (layer.metadata.find? "keywordlist").toList.map Text.commaList) :
    HasKeywordsOf layer element := by
  have hkeywords := layer.metadata.keywords_eq_commaList
  cases hlist : layer.metadata.find? "keywordlist" with
  | none =>
    rw [hlist] at h
    have hnothing : ¬layer.metadata.ListsNothing := fun hnothing => hnothing.1 hlist
    refine ⟨iff_of_true ?_ hnothing, fun h => absurd h hnothing⟩
    rw [Element.Tells, h, if_pos (Metadata.keywords_of_none hlist)]
    rfl
  | some list =>
    rw [hlist, Option.getD_some] at hkeywords
    rw [hlist, Option.toList_some, List.map_singleton, ← hkeywords] at h
    have hlisted : layer.metadata.find? "keywordlist" ≠ none := by
      rw [hlist]
      exact Option.some_ne_none list
    by_cases hnone : layer.metadata.keywords = []
    · have hnothing : layer.metadata.ListsNothing := ⟨hlisted, hnone⟩
      rw [hnone] at h
      refine ⟨iff_of_false ?_ (not_not_intro hnothing), fun _ => h⟩
      rw [Element.Tells, h, if_pos hnone]
      exact List.cons_ne_nil _ _
    · have hsomething : ¬layer.metadata.ListsNothing := fun hnothing => hnone hnothing.2
      refine ⟨iff_of_true ?_ hsomething, fun h => absurd h hsomething⟩
      rw [Element.Tells, h, if_neg hnone]

theorem Summarizes.hasKeywordsOf (h : Summarizes library map layer element) :
    HasKeywordsOf layer element := by
  obtain ⟨grid, crs, -, rfl⟩ := h
  exact .of_sections (congrArg Profile.keywords Profile.ofSummary_summaryElement)

theorem Describes.hasKeywordsOf (h : Describes library map layer element) :
    HasKeywordsOf layer element := by
  obtain ⟨-, -, grid, crs, range, -, rfl⟩ := h
  exact .of_sections (congrArg Profile.keywords Profile.ofDescription_coverageElement)

/-- Capabilities tell the keywords of the service. These and descriptions tell those of every
coverage for which no list without any keyword is configured, and have an empty section for the
others. -/
theorem tells_keywords_iff (library : ProjectionLibrary) (map : MapDefinition) :
    (∀ origin version capabilities,
      Capabilities.document library map origin version = .ok capabilities →
        (∃ identification,
          capabilities.root.childrenNamed "ows:ServiceIdentification" = [identification] ∧
            identification.Tells map.metadata.keywords) ∧
        List.Forall₂ HasKeywordsOf map.coverages capabilities.summaries) ∧
    ∀ coverages version description,
      Description.document library map coverages version = .ok description →
        ∃ layers, Description.targets map coverages = .ok layers ∧
          List.Forall₂ HasKeywordsOf (layers.filter (Description.isDescribed library map))
            description.descriptions := by
  constructor
  · intro origin version capabilities h
    refine ⟨Capabilities.tells_identification h, ?_⟩
    exact (Capabilities.forall₂_summaries h).imp fun _ _ h => h.hasKeywordsOf
  · intro coverages version description h
    obtain ⟨layers, htargets, hrow⟩ := Description.forall₂_descriptions h
    exact ⟨layers, htargets, hrow.imp fun _ _ h => h.hasKeywordsOf⟩

theorem exists_of_forall₂_singleton {α β : Type} {R : α → β → Prop} {a : α} {bs : List β}
    (h : List.Forall₂ R [a] bs) : ∃ b, R a b ∧ bs = [b] := by
  cases h with
  | cons hfirst hrest =>
    cases hrest
    exact ⟨_, hfirst, rfl⟩

/-- A map of one coverage with the given list of keywords. -/
def keyedMap (list : String) : MapDefinition :=
  { MapDefinition.empty with
    layers := [{ Grid.sizedLayer "dem" "" with
      metadata := Metadata.ofPairs [("wcs_size", "10 10"), ("wcs_keywordlist", list)] }] }

theorem tells_keywords_relief :
    ∃ capabilities summary,
      Capabilities.document Grid.plainLibrary (keyedMap " relief ,, dem") (some localOrigin)
        "1.1.0" = .ok capabilities ∧
      capabilities.summaries = [summary] ∧ summary.keywordSections = [["relief", "dem"]] := by
  have hbuilt : (Capabilities.document Grid.plainLibrary (keyedMap " relief ,, dem")
      (some localOrigin) "1.1.0").isOk := by
    decide +kernel
  obtain ⟨capabilities, hcapabilities⟩ := Fragment.exists_of_isOk hbuilt
  obtain ⟨layer, hcoverages, hkeywords⟩ : ∃ layer, (keyedMap " relief ,, dem").coverages = [layer] ∧
      layer.metadata.keywords = ["relief", "dem"] :=
    ⟨_, rfl, by decide +kernel⟩
  have hsome : layer.metadata.keywords ≠ [] := by
    rw [hkeywords]
    exact List.cons_ne_nil _ _
  obtain ⟨-, hrow⟩ := (tells_keywords_iff Grid.plainLibrary (keyedMap " relief ,, dem")).1 _ _ _
    hcapabilities
  rw [hcoverages] at hrow
  obtain ⟨summary, hsummary, hsummaries⟩ := exists_of_forall₂_singleton hrow
  have htells := hsummary.tells_iff.2 fun hnothing => hsome hnothing.2
  rw [Element.Tells, if_neg hsome, hkeywords] at htells
  exact ⟨capabilities, summary, hcapabilities, hsummaries, htells⟩

/-- Of a list of nothing but commas there is an empty section. -/
theorem not_tells_separators :
    ∃ capabilities summary,
      Capabilities.document Grid.plainLibrary (keyedMap " ,, ") (some localOrigin) "1.1.0" =
        .ok capabilities ∧
      capabilities.summaries = [summary] ∧ [] ∈ summary.keywordSections ∧
        ∀ layer ∈ (keyedMap " ,, ").coverages, ¬summary.Tells layer.metadata.keywords := by
  have hbuilt : (Capabilities.document Grid.plainLibrary (keyedMap " ,, ") (some localOrigin)
      "1.1.0").isOk := by
    decide +kernel
  obtain ⟨capabilities, hcapabilities⟩ := Fragment.exists_of_isOk hbuilt
  obtain ⟨layer, hcoverages, hnothing⟩ : ∃ layer, (keyedMap " ,, ").coverages = [layer] ∧
      layer.metadata.ListsNothing :=
    ⟨_, rfl, by decide +kernel, by decide +kernel⟩
  have hrow := Capabilities.forall₂_summaries hcapabilities
  rw [hcoverages] at hrow ⊢
  obtain ⟨summary, hsummary, hsummaries⟩ := exists_of_forall₂_singleton hrow
  refine ⟨capabilities, summary, hcapabilities, hsummaries, ?_, ?_⟩
  · rw [hsummary.hasKeywordsOf.empty hnothing]
    exact List.mem_singleton_self []
  · intro other hother htells
    rw [List.mem_singleton.1 hother] at htells
    exact hsummary.hasKeywordsOf.tells_iff.1 htells hnothing

end WebCoverage
