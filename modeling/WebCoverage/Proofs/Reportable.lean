import WebCoverage.Capabilities
import WebCoverage.Description
import WebCoverage.Proofs.Grid.Resolution
import WebCoverage.Proofs.Xml.Composition

/-! What a failure of a document under construction tells the client. Messages and locators may hold
any text, they are cleaned before they are written, but a code is written as it is. Every report
that a document ends in has the code of its kind, which a report can carry.

All sections of capabilities and descriptions are put together with a scope's builders from parts
that fail, if at all, in this way (`Composed Failure.Reportable`). -/

namespace WebCoverage

/-- What the failure reports, if anything, has a code that a document can carry. -/
structure Failure.Reportable (failure : Failure) : Prop where
  code : ∀ report, failure = .reported report → Xml.isWritableText report.code

namespace Failure

@[simp]
theorem reportable_ofKind (kind : ReportKind) (message : String) (locator : Option String)
    (cause : Option FailureKind) : (ofKind kind message locator cause).Reportable := by
  refine ⟨fun report h => ?_⟩
  cases h
  change Xml.isWritableText kind.defaultCode = true
  cases kind <;> decide +kernel

@[simp]
theorem reportable_plain (kind : FailureKind) : (plain kind).Reportable :=
  ⟨fun _ h => nomatch h⟩

@[simp]
theorem reportable_unbound (space : String) : (unboundNamespace space).Reportable :=
  ⟨fun _ h => nomatch h⟩

@[simp]
theorem reportable_emptyName (name : String) : (emptyName name).Reportable :=
  ⟨fun _ h => nomatch h⟩

end Failure

namespace Xml

variable {α : Type} {scope : Scope} {element : Element} {name value text : String}
  {attributes : List (String × String)} {texts : List String} {failure : Failure}

theorem Scope.reportable_of_check (h : scope.check name = .error failure) :
    failure.Reportable := by
  unfold check at h
  dsimp only at h
  split at h
  · cases h; exact Failure.reportable_unbound _
  · split at h
    · cases h; exact Failure.reportable_emptyName _
    · cases h

theorem Scope.reportable_of_checkText (h : checkText name value = .error failure) :
    failure.Reportable := by
  unfold checkText at h
  split at h
  · cases h
  · cases h; exact Failure.reportable_ofKind ..

theorem Scope.reportable_of_setAttribute
    (h : scope.setAttribute element name value = .error failure) : failure.Reportable := by
  unfold setAttribute at h
  cases hvalue : checkText name value with
  | error fault => rw [hvalue] at h; cases h; exact reportable_of_checkText hvalue
  | ok _ =>
    cases hname : scope.check name with
    | error fault => rw [hvalue, hname] at h; cases h; exact reportable_of_check hname
    | ok _ => rw [hvalue, hname] at h; cases h

theorem Scope.reportable_of_setAttributes
    (h : (scope.setAttributes element attributes).2 = some failure) : failure.Reportable := by
  induction attributes generalizing element with
  | nil => cases h
  | cons entry rest ih =>
    rw [setAttributes] at h
    cases hentry : scope.setAttribute element entry.1 entry.2 with
    | ok changed => rw [hentry] at h; exact ih h
    | error fault => rw [hentry] at h; cases h; exact reportable_of_setAttribute hentry

/-- A fragment that fails, if at all, with what can be reported. -/
structure Fragment.Reportable (fragment : Fragment) : Prop where
  failure : ∀ failure, fragment.failure = some failure → failure.Reportable

theorem Fragment.reportable_append {first second : Fragment} (hfirst : first.Reportable)
    (hsecond : second.Reportable) : (first ++ second).Reportable := by
  refine ⟨fun failure h => ?_⟩
  change (append first second).failure = _ at h
  unfold append at h
  cases hfailure : first.failure with
  | none => rw [hfailure] at h; exact hsecond.failure _ h
  | some fault => rw [hfailure] at h; exact hfirst.failure _ h

theorem Scope.reportable_node {body : Fragment} (h : body.Reportable) :
    (scope.node name attributes body).Reportable := by
  refine ⟨fun failure hfailure => ?_⟩
  unfold node at hfailure
  cases hname : scope.check name with
  | error fault => rw [hname] at hfailure; cases hfailure; exact reportable_of_check hname
  | ok _ =>
    rw [hname] at hfailure
    rcases hset : scope.setAttributes (.bare name) attributes with ⟨element, _ | fault⟩
    · rw [hset] at hfailure; exact h.failure _ hfailure
    · rw [hset] at hfailure
      cases hfailure
      exact reportable_of_setAttributes (congrArg Prod.snd hset)

theorem Scope.reportable_leaf : (scope.leaf name text attributes).Reportable := by
  refine ⟨fun failure hfailure => ?_⟩
  unfold leaf at hfailure
  cases htext : checkText name text with
  | error fault => rw [htext] at hfailure; cases hfailure; exact reportable_of_checkText htext
  | ok _ =>
    cases hname : scope.check name with
    | error fault =>
      rw [htext, hname] at hfailure; cases hfailure; exact reportable_of_check hname
    | ok _ =>
      rw [htext, hname] at hfailure
      rcases hset : scope.setAttributes (.bare name) attributes with ⟨element, _ | fault⟩
      · rw [hset] at hfailure; cases hfailure
      · rw [hset] at hfailure
        cases hfailure
        exact reportable_of_setAttributes (congrArg Prod.snd hset)

theorem Composed.reportable {fragment : Fragment} (h : Composed Failure.Reportable scope fragment) :
    fragment.Reportable := by
  induction h with
  | failed hfailure => exact ⟨fun _ heq => Option.some.inj heq ▸ hfailure⟩
  | empty => exact ⟨fun _ heq => nomatch heq⟩
  | append _ _ hfirst hsecond => exact Fragment.reportable_append hfirst hsecond
  | node _ _ _ hbody => exact Scope.reportable_node hbody
  | leaf _ _ _ => exact Scope.reportable_leaf

end Xml

/-! ## Documents -/

open Xml

variable {library : ProjectionLibrary} {owner : Option MapDefinition} {map : MapDefinition}
  {layer : Layer} {failure : Failure} {scope : Scope}

theorem Grid.IsUnresolved.reportable (h : IsUnresolved layer failure) : failure.Reportable := by
  obtain ⟨-, message, cause, rfl⟩ := h
  exact Failure.reportable_ofKind ..

theorem Grid.reportable_of_ofLayer (h : ofLayer library owner layer = .error failure) :
    failure.Reportable := by
  obtain ⟨-, rfl⟩ | hunresolved | ⟨kind, rfl⟩ :=
    (ofLayer_eq_error_iff.1 h).noCrs_or_unresolved_or_plain
  · exact Failure.reportable_ofKind ..
  · exact hunresolved.reportable
  · exact Failure.reportable_plain _

theorem Crs.reportable_of_urns {projection : Option String} {metadata : Metadata}
    (h : urns library projection metadata = .error failure) : failure.Reportable := by
  unfold urns at h
  split at h
  · cases h
  · cases h; exact Failure.reportable_plain _

theorem Crs.reportable_of_supported (h : supported library owner layer = .error failure) :
    failure.Reportable := by
  unfold supported at h
  cases hown : urns library layer.projection layer.metadata with
  | error fault => rw [hown] at h; cases h; exact reportable_of_urns hown
  | ok own =>
    rw [hown] at h
    cases own with
    | cons urn rest => cases h
    | nil =>
      cases owner with
      | none => cases h
      | some map => exact reportable_of_urns h

namespace Ows

@[simp]
theorem composed_filledLeaf (element name : String) (metadata : Metadata) :
    Composed Failure.Reportable scope (filledLeaf scope element metadata name) := by
  simp [filledLeaf]

@[simp]
theorem composed_leafOr (element name default : String) (metadata : Metadata) :
    Composed Failure.Reportable scope (leafOr scope element metadata name default) := by
  simp [leafOr]

theorem composed_serviceIdentification (serviceType version : String) :
    Composed Failure.Reportable scope (serviceIdentification scope map serviceType version) := by
  unfold serviceIdentification
  refine .inside ?_
  simp only [List.forall_mem_cons]
  refine ⟨by simp, by simp, ?_, by simp⟩
  split <;> simp

theorem composed_serviceProvider (metadata : Metadata) :
    Composed Failure.Reportable scope (serviceProvider scope metadata) := by
  refine .inside ?_
  simp only [List.forall_mem_cons]
  refine ⟨by simp, by simp, .inside ?_, by simp⟩
  simp only [List.forall_mem_cons]
  refine ⟨by simp, by simp, .inside ?_, by simp⟩
  simp

@[simp]
theorem composed_domainType (element name : String) (values : List String) :
    Composed Failure.Reportable scope (domainType scope element name values) := by
  simp [domainType]

@[simp]
theorem composed_operation {parameters : Fragment} (name url : String)
    (h : Composed Failure.Reportable scope parameters) :
    Composed Failure.Reportable scope (operation scope name url parameters) := by
  refine .inside ?_
  simp only [List.forall_mem_cons]
  exact ⟨.node _ _ (by simp), h, by simp⟩

@[simp]
theorem composed_corner (name : String) (x y : Quantity) :
    Composed Failure.Reportable scope (corner scope name x y) := by
  unfold corner
  split
  · exact .leaf ..
  · exact .failed (Failure.reportable_plain _)

@[simp]
theorem composed_corners (minX minY maxX maxY : Quantity) :
    Composed Failure.Reportable scope (corners scope minX minY maxX maxY) :=
  .append (composed_corner ..) (composed_corner ..)

@[simp]
theorem composed_coverageIdentity :
    Composed Failure.Reportable scope (coverageIdentity scope layer) :=
  .concat (by simp)

@[simp]
theorem composed_coverageBoxes (grid : Grid) :
    Composed Failure.Reportable scope (coverageBoxes scope grid) := by
  simp [coverageBoxes, boundingBox, geographicBoundingBox, extentCorners]

end Ows

theorem Capabilities.composed_operations (version url : String) :
    Composed Failure.Reportable scope (operations scope map version url) := by
  unfold operations parameter
  refine .inside ?_
  simp

theorem Capabilities.composed_summary :
    Composed Failure.Reportable scope (summary scope library map layer) := by
  refine .ofResult (fun _ => Grid.reportable_of_ofLayer) fun grid => ?_
  have hcrs : Composed Failure.Reportable scope (.ofResult
      (Crs.supported library (map.owner? layer) layer) (scope.leaves "SupportedCRS")) :=
    .ofResult (fun _ => Crs.reportable_of_supported) fun _ => .leaves ..
  simp [hcrs]

theorem Capabilities.composed_body (origin : Option Origin) (version : String) :
    Composed Failure.Reportable scope (body scope library map origin version) := by
  have hurl (failure : Failure) (h : serviceUrl map origin = .error failure) :
      failure.Reportable := by
    unfold serviceUrl at h
    split at h
    · cases h
    · cases h; exact Failure.reportable_ofKind ..
  refine .concat ?_
  simp only [List.forall_mem_cons]
  exact ⟨Ows.composed_serviceIdentification .., Ows.composed_serviceProvider ..,
    .ofResult hurl fun _ => composed_operations ..,
    .node _ _ (.concat_map fun _ _ => composed_summary), by simp⟩

theorem Description.composed_coverage (grid : Grid) :
    Composed Failure.Reportable scope (coverage scope library map layer grid) := by
  have hcrs : Composed Failure.Reportable scope (.ofResult
      (Crs.supported library (map.owner? layer) layer) (scope.leaves "SupportedCRS")) :=
    .ofResult (fun _ => Crs.reportable_of_supported) fun _ => .leaves ..
  have hgrid : Composed Failure.Reportable scope (gridCrs scope grid) := .inside (by simp)
  have hfield (metadata : Metadata) : Composed Failure.Reportable scope (field scope metadata) := by
    refine .inside ?_
    simp only [List.forall_mem_cons]
    exact ⟨by simp, by simp, by simp, .node _ _ (by simp), by simp⟩
  refine .inside ?_
  simp only [List.forall_mem_cons]
  exact ⟨by simp, .node _ _ (by simp [hgrid]), .node _ _ (hfield _), hcrs, by simp⟩

theorem Description.composed_layerFragment :
    Composed Failure.Reportable scope (layerFragment scope library map layer) := by
  refine .ofResult (fun failure h => ?_) fun grid => .ofOption fun _ => composed_coverage _
  unfold grid? at h
  split at h
  · cases h
  · split at h
    · cases h
    · split at h
      · cases h
      · next hgrid =>
        split at h
        · cases h
        · cases h; exact Grid.reportable_of_ofLayer hgrid

/-- Looking identifiers up fails at one that names no layer. -/
theorem Description.coverageNotDefined_of_namedLayers {identifiers : List String}
    (h : namedLayers map identifiers = .error failure) :
    ∃ identifier ∈ identifiers, map.layer? identifier = none ∧
      failure = .coverageNotDefined identifier := by
  induction identifiers with
  | nil => cases h
  | cons identifier rest ih =>
    rw [namedLayers] at h
    cases hlayer : map.layer? identifier with
    | none => rw [hlayer] at h; cases h; exact ⟨identifier, by simp, hlayer, rfl⟩
    | some layer =>
      rw [hlayer] at h
      cases hrest : namedLayers map rest with
      | ok layers => rw [hrest] at h; cases h
      | error fault =>
        rw [hrest] at h
        cases h
        obtain ⟨missing, hmem, hmissing⟩ := ih hrest
        exact ⟨missing, List.mem_cons_of_mem _ hmem, hmissing⟩

theorem Description.reportable_of_targets {coverages : List String}
    (h : targets map coverages = .error failure) : failure.Reportable := by
  unfold targets at h
  split at h
  · cases h
  · obtain ⟨identifier, -, -, rfl⟩ := coverageNotDefined_of_namedLayers h
    exact Failure.reportable_ofKind ..

/-- A document that is made and filled fails where its name is refused or its body fails. -/
theorem Xml.Document.reportable_of_body {name version : String} {body : Fragment}
    (hbody : body.Reportable)
    (h : (do (← create name scope (some version)).withBody body) = .error failure) :
    failure.Reportable := by
  cases hempty : create name scope (some version) with
  | error fault =>
    rw [hempty] at h
    cases h
    unfold create at hempty
    cases hname : scope.check name with
    | error fault => rw [hname] at hempty; cases hempty; exact Scope.reportable_of_check hname
    | ok _ => rw [hname] at hempty; cases hempty
  | ok empty =>
    rw [hempty] at h
    change empty.withBody body = _ at h
    unfold withBody at h
    cases hfailure : body.failure with
    | none => rw [hfailure] at h; cases h
    | some fault => rw [hfailure] at h; cases h; exact hbody.failure _ hfailure

theorem Capabilities.reportable_of_document {origin : Option Origin} {version : String}
    (h : document library map origin version = .error failure) : failure.Reportable :=
  Xml.Document.reportable_of_body (composed_body origin version).reportable h

theorem Description.reportable_of_document {coverages : List String} {version : String}
    (h : document library map coverages version = .error failure) : failure.Reportable := by
  unfold document at h
  cases htargets : targets map coverages with
  | error fault => rw [htargets] at h; cases h; exact reportable_of_targets htargets
  | ok layers =>
    rw [htargets] at h
    change (do
      (← Document.create "CoverageDescriptions" .service (some version)).withBody
        (.concat (layers.map (layerFragment .service library map)))) = .error failure at h
    have hbody : Composed Failure.Reportable .service
        (.concat (layers.map (layerFragment .service library map))) :=
      .concat_map fun _ _ => composed_layerFragment
    exact Document.reportable_of_body hbody.reportable h

end WebCoverage
