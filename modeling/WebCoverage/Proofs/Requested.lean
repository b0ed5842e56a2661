import WebCoverage.Proofs.Answering
import WebCoverage.Proofs.Described

/-! Requests for several identifiers. Each identifier adds its own part to a description, which does
not depend on the others (`Description.part`), so what is asked for in one request can be asked for
in two (`Description.composed_iff`). Only that a name is unknown is said before any part is
built. -/

namespace WebCoverage

open Xml

/-- The document with the children of the root of another one after its own. -/
def Xml.Document.joined (first second : Document) : Document :=
  { first with root :=
      { first.root with children := first.root.children ++ second.root.children } }

namespace Description

variable {library : ProjectionLibrary} {map : MapDefinition} {layers : List Layer}
  {name version : String} {names xs ys : List String} {description : Document}

/-! ## Identifiers that are read as they stand -/

/-- There are identifiers, and each of them stands for itself. -/
structure Plain (names : List String) : Prop where
  nonempty : names ≠ []
  each : ∀ name ∈ names, name ≠ "" ∧ ',' ∉ name.toList

theorem Plain.append (hxs : Plain xs) (hys : Plain ys) : Plain (xs ++ ys) where
  nonempty := List.append_ne_nil_of_left_ne_nil hxs.nonempty ys
  each := List.forall_mem_append.2 ⟨hxs.each, hys.each⟩

/-- A single identifier is taken apart at its commas, several are not. -/
theorem Plain.identifiers_eq (h : Plain names) : identifiers names = names := by
  match names, h with
  | [], h => exact absurd rfl h.nonempty
  | [name], h =>
    obtain ⟨hnonempty, hcomma⟩ := h.each name List.mem_cons_self
    exact identifiers_of_plain hnonempty hcomma
  | _ :: _ :: _, _ => rfl

theorem Plain.identifiers_intercalate (h : Plain names) :
    identifiers [",".intercalate names] = names := by
  have hcomma : ∀ text ∈ names.map String.toList, ',' ∉ text := by
    intro text htext
    obtain ⟨name, hname, rfl⟩ := List.mem_map.1 htext
    exact (h.each name hname).2
  have hpieces : (",".intercalate names).toList.splitOnP (· = ',') = names.map String.toList := by
    have hsplit := List.splitOn_intercalate ',' hcomma (by simpa using h.nonempty)
    rw [String.toList_intercalate]
    exact hsplit
  have hfilled : (names.map String.toList).filter (!·.isEmpty) = names.map String.toList := by
    rw [List.filter_eq_self]
    intro text htext
    obtain ⟨name, hname, rfl⟩ := List.mem_map.1 htext
    simpa using (h.each name hname).1
  have hnames : (names.map String.toList).map String.ofList = names := by
    simp [Function.comp_def]
  rw [identifiers, hpieces, hfilled, hnames]

theorem Plain.targets_eq (h : Plain names) : targets map names = namedLayers map names := by
  have hnonempty : identifiers names ≠ [] := by
    rw [h.identifiers_eq]
    exact h.nonempty
  rw [targets_of_ne_nil hnonempty, h.identifiers_eq]

theorem Plain.document_intercalate (h : Plain names) :
    document library map [",".intercalate names] version = document library map names version := by
  unfold document targets
  rw [h.identifiers_intercalate, h.identifiers_eq]

/-! ## What a name adds -/

/-- What a name adds to a description: what there is to say of the first layer with the name. -/
def part (library : ProjectionLibrary) (map : MapDefinition) (name : String) : Fragment :=
  match map.layer? name with
  | some layer => layerFragment .service library map layer
  | none => .failed (.coverageNotDefined name)

/-- The first layer with the name can be described: its map owns it, it is a coverage, and its grid
is found. -/
def Describable (library : ProjectionLibrary) (map : MapDefinition) (name : String) : Prop :=
  ∃ layer grid, map.layer? name = some layer ∧ layer.attached ∧ layer.isCoverage ∧
    Grid.ofLayer library (some map) layer = .ok grid

theorem isDescribed_iff {layer : Layer} : isDescribed library map layer ↔
    layer.attached ∧ layer.isCoverage ∧
      ∃ grid, Grid.ofLayer library (some map) layer = .ok grid := by
  have howner (hattached : layer.attached) : map.owner? layer = some map := if_pos hattached
  unfold isDescribed
  constructor
  · intro h
    split at h
    · next grid hgrid =>
      obtain ⟨hattached, hcoverage, hfound⟩ := grid?_eq_ok_some_iff.1 hgrid
      rw [howner hattached] at hfound
      exact ⟨hattached, hcoverage, grid, hfound⟩
    · cases h
  · rintro ⟨hattached, hcoverage, grid, hgrid⟩
    rw [← howner hattached] at hgrid
    rw [grid?_eq_ok_some_iff.2 ⟨hattached, hcoverage, hgrid⟩]

/-- Where it does not fail, a part is one description, or nothing for a layer that is passed
over. -/
theorem elements_part (h : (part library map name).failure = none) :
    (Describable library map name → ∃ element, (part library map name).elements = [element] ∧
      element.name = "CoverageDescription" ∧ element.textsOf "Identifier" = [name]) ∧
    (¬Describable library map name → (part library map name).elements = []) := by
  unfold part at h ⊢
  cases hlayer : map.layer? name with
  | none =>
    rw [hlayer] at h
    cases h
  | some layer =>
    simp only [hlayer] at h
    obtain ⟨hone, hnothing⟩ := elements_layerFragment h
    constructor
    · rintro ⟨found, grid, hfound, hattached, hcoverage, hgrid⟩
      cases hlayer.symm.trans hfound
      obtain ⟨element, hdescribes, helements⟩ :=
        hone (isDescribed_iff.2 ⟨hattached, hcoverage, grid, hgrid⟩)
      obtain ⟨-, hname⟩ := MapDefinition.of_layer?_eq_some hlayer
      refine ⟨element, helements, ?_, hname ▸ textsOf_identifier hdescribes⟩
      obtain ⟨-, -, _, _, _, -, rfl⟩ := hdescribes
      rfl
    · intro hnot
      apply hnothing
      intro hdescribed
      obtain ⟨hattached, hcoverage, grid, hgrid⟩ := isDescribed_iff.1 hdescribed
      exact hnot ⟨layer, grid, hlayer, hattached, hcoverage, hgrid⟩

/-! ## Descriptions as their parts -/

/-- What several names add, one after the other. -/
def parts (library : ProjectionLibrary) (map : MapDefinition) (names : List String) : Fragment :=
  .concat (names.map (part library map))

theorem failure_parts_append : (parts library map (xs ++ ys)).failure = none ↔
    (parts library map xs).failure = none ∧ (parts library map ys).failure = none := by
  simp only [parts, Fragment.failure_concat_eq_none, List.map_append, List.forall_mem_append]

theorem elements_parts (h : (parts library map names).failure = none) :
    (parts library map names).elements =
      names.flatMap fun name => (part library map name).elements := by
  unfold parts at h ⊢
  rw [Fragment.elements_concat h, List.flatMap_map]

theorem elements_parts_append (hxs : (parts library map xs).failure = none)
    (hys : (parts library map ys).failure = none) :
    (parts library map (xs ++ ys)).elements =
      (parts library map xs).elements ++ (parts library map ys).elements := by
  rw [elements_parts (failure_parts_append.2 ⟨hxs, hys⟩), List.flatMap_append, elements_parts hxs,
    elements_parts hys]

/-- The layers that names stand for make the same parts as the names. -/
theorem map_part_of_namedLayers (h : namedLayers map names = .ok layers) :
    names.map (part library map) = layers.map (layerFragment .service library map) := by
  induction names generalizing layers with
  | nil =>
    cases h
    rfl
  | cons name rest ih =>
    rw [namedLayers] at h
    cases hlayer : map.layer? name with
    | none =>
      rw [hlayer] at h
      cases h
    | some layer =>
      cases hrest : namedLayers map rest with
      | error failure =>
        simp only [hlayer, hrest] at h
        cases h
      | ok found =>
        simp only [hlayer, hrest] at h
        cases h
        rw [List.map_cons, List.map_cons, ih hrest, part, hlayer]

/-- Names are looked up up to the first that is unknown. -/
theorem namedLayers_of_find? (h : names.find? (fun name => (map.layer? name).isNone) = some name) :
    namedLayers map names = .error (.coverageNotDefined name) := by
  induction names with
  | nil => cases h
  | cons first rest ih =>
    rw [namedLayers]
    cases hlayer : map.layer? first with
    | none =>
      rw [List.find?_cons_of_pos (by rw [hlayer]; rfl)] at h
      cases h
      rfl
    | some layer =>
      rw [List.find?_cons_of_neg (by rw [hlayer]; exact Bool.false_ne_true)] at h
      rw [ih h]
      rfl

/-- The document with the given content. -/
def filled (version : String) (elements : List Element) : Document :=
  ⟨.service, { Element.bare "CoverageDescriptions" with
    attributes := Scope.service.bindings.map Document.declaration ++ [("version", version)]
    children := elements }⟩

theorem filled_append (version : String) (first second : List Element) :
    filled version (first ++ second) = (filled version first).joined (filled version second) := rfl

/-- A description holds the parts of its names, if all of them can be built. -/
theorem Plain.document_eq_ok_iff (h : Plain names) :
    document library map names version = .ok description ↔
      (parts library map names).failure = none ∧
        description = filled version (parts library map names).elements := by
  have hname : Scope.service.check "CoverageDescriptions" = .ok () := by decide +kernel
  unfold document
  rw [h.targets_eq]
  cases hlayers : namedLayers map names with
  | error failure =>
    obtain ⟨name, hmem, hmissing, -⟩ := coverageNotDefined_of_namedLayers hlayers
    refine iff_of_false (fun heq => nomatch heq) ?_
    rintro ⟨hfailure, -⟩
    have hpart := Fragment.failure_concat_eq_none.1 hfailure _ (List.mem_map_of_mem hmem)
    rw [part, hmissing] at hpart
    cases hpart
  | ok layers =>
    unfold parts
    rw [map_part_of_namedLayers hlayers]
    simp only [Document.create, hname, bind, Except.bind, pure, Except.pure, Document.withBody]
    cases (Fragment.concat (layers.map (layerFragment .service library map))).failure with
    | some failure => simp
    | none =>
      simp only [Except.ok.injEq, true_and]
      exact eq_comm

/-- The coverages of two requests can be described in one document if they can in two, and the
second then follows the first. What a name adds to a description depends on the name alone: a
description of the first layer with the name, if it is a coverage that its map owns and has a grid,
and nothing if not. Of unknown names the first is reported, whatever else fails. One text with
commas asks for the same as the names in it, and is answered with the same bytes. -/
theorem composed_iff (library : ProjectionLibrary) (map : MapDefinition) (version : String)
    (hxs : Plain xs) (hys : Plain ys) :
    (∀ description, document library map (xs ++ ys) version = .ok description ↔
      ∃ first second, document library map xs version = .ok first ∧
        document library map ys version = .ok second ∧ description = first.joined second) ∧
    (∀ description, document library map xs version = .ok description →
      description.root.children = xs.flatMap (fun name => (part library map name).elements) ∧
      ∀ name ∈ xs,
        (Describable library map name → ∃ element, (part library map name).elements = [element] ∧
          element.name = "CoverageDescription" ∧ element.textsOf "Identifier" = [name]) ∧
        (¬Describable library map name → (part library map name).elements = [])) ∧
    (∀ name, xs.find? (fun name => (map.layer? name).isNone) = some name →
      document library map xs version = .error (.coverageNotDefined name)) ∧
    document library map [",".intercalate xs] version = document library map xs version ∧
    ∀ (service : Service) (parameters : RequestParameters) (transport : Transport),
      service.describeCoverage
          ⟨{ parameters with coverages := [",".intercalate xs] }, transport⟩ =
        service.describeCoverage ⟨{ parameters with coverages := xs }, transport⟩ := by
  refine ⟨fun description => ?_, fun description h => ?_, fun name h => ?_,
    hxs.document_intercalate, fun service parameters transport => ?_⟩
  · rw [(hxs.append hys).document_eq_ok_iff, failure_parts_append]
    constructor
    · rintro ⟨⟨hfirst, hsecond⟩, rfl⟩
      refine ⟨_, _, hxs.document_eq_ok_iff.2 ⟨hfirst, rfl⟩,
        hys.document_eq_ok_iff.2 ⟨hsecond, rfl⟩, ?_⟩
      rw [elements_parts_append hfirst hsecond, filled_append]
    · rintro ⟨first, second, hfirst, hsecond, rfl⟩
      obtain ⟨hxs, rfl⟩ := hxs.document_eq_ok_iff.1 hfirst
      obtain ⟨hys, rfl⟩ := hys.document_eq_ok_iff.1 hsecond
      refine ⟨⟨hxs, hys⟩, ?_⟩
      rw [elements_parts_append hxs hys, filled_append]
  · obtain ⟨hparts, rfl⟩ := hxs.document_eq_ok_iff.1 h
    refine ⟨elements_parts hparts, fun name hname => elements_part ?_⟩
    exact Fragment.failure_concat_eq_none.1 hparts _ (List.mem_map_of_mem hname)
  · unfold document
    rw [hxs.targets_eq, namedLayers_of_find? h]
    rfl
  · exact Service.run_respond_congr rfl rfl hxs.document_intercalate rfl

theorem composed_terrainMap : Plain ["dem"] ∧ Plain ["roads", "slope"] ∧ ∃ first second,
    document Grid.plainLibrary terrainMap ["dem"] "1.1.0" = .ok first ∧
      document Grid.plainLibrary terrainMap ["roads", "slope"] "1.1.0" = .ok second ∧
      document Grid.plainLibrary terrainMap ["dem", "roads", "slope"] "1.1.0" =
        .ok (first.joined second) := by
  have hxs : Plain ["dem"] := ⟨by decide, by decide⟩
  have hys : Plain ["roads", "slope"] := ⟨by decide, by decide⟩
  have hbuilt : (document Grid.plainLibrary terrainMap ["dem", "roads", "slope"] "1.1.0").isOk := by
    decide +kernel
  obtain ⟨both, hboth⟩ := Fragment.exists_of_isOk hbuilt
  obtain ⟨first, second, hfirst, hsecond, rfl⟩ :=
    ((composed_iff Grid.plainLibrary terrainMap "1.1.0" hxs hys).1 both).1 hboth
  exact ⟨hxs, hys, first, second, hfirst, hsecond, hboth⟩

end Description

end WebCoverage
