import Mathlib.Control.Monad.Basic
import WebCoverage.Proofs.Correspondence
import WebCoverage.Proofs.Crs.Native

/-! The layers whose grid is neither found nor reported as unresolved. A description passes over a
layer only where it is told that the layer is unresolved, so these failures end the whole document.
`Grid.Escapes` says for which layers that happens, and `Grid.escapes_iff` that it happens for no
others. -/

namespace WebCoverage.Grid

variable {library : ProjectionLibrary} {owner : Option MapDefinition} {layer : Layer}

/-- The layers for which the search for a grid ends in a failure that is not a report, and the kind
of that failure. -/
inductive Escapes (library : ProjectionLibrary) (owner : Option MapDefinition) (layer : Layer) :
    FailureKind → Prop
  /-- An EPSG code has too many digits, and no token before it has a URN. -/
  | longCode {before after : List (Except Crs.TokenFault String)} {token : String} :
      Crs.candidates library owner layer = before ++ .ok token :: after →
      (∀ earlier ∈ before, earlier >>= Crs.urn? = .ok none) → Crs.IsLongCode token →
      Escapes library owner layer .invalidValue
  /-- The library fails on a definition, and no token before it has a URN. -/
  | unidentified {before after : List (Except Crs.TokenFault String)} :
      Crs.candidates library owner layer = before ++ .error .unidentified :: after →
      (∀ earlier ∈ before, earlier >>= Crs.urn? = .ok none) →
      Escapes library owner layer .projection
  /-- The first of the numbers behind the size that is not finite is no number. -/
  | notANumber {urn : String} {extent : Extent} {x y : Float} :
      Crs.native? library owner layer = .ok (some urn) → layerExtent layer = .ok extent →
      rawSize? layer extent = some (x, y) → x.isNaN ∨ x.isFinite ∧ y.isNaN →
      Escapes library owner layer .invalidValue
  /-- The first of the numbers behind the size that is not finite is infinite. -/
  | infinite {urn : String} {extent : Extent} {x y : Float} :
      Crs.native? library owner layer = .ok (some urn) → layerExtent layer = .ok extent →
      rawSize? layer extent = some (x, y) → x.isInf ∨ x.isFinite ∧ y.isInf →
      Escapes library owner layer .overflow

theorem IsUnresolved.kind {failure : Failure} (h : IsUnresolved layer failure) :
    failure.kind = .report .metadataResolution := by
  obtain ⟨-, message, cause, rfl⟩ := h
  rfl

/-- Each way of not finding a grid is reported, or else it is one of the escapes. -/
theorem Unfound.reported_or_escapes {failure : Failure} (h : Unfound library owner layer failure) :
    failure.kind = .report .metadataResolution ∨ Escapes library owner layer failure.kind := by
  cases h with
  | @token fault hcrs =>
    obtain ⟨before, candidate, after, hcandidates, hbefore, hfails⟩ :=
      Crs.native?_eq_error_iff.1 hcrs
    cases candidate with
    | ok token =>
      obtain ⟨rfl, hlong⟩ := Crs.urn?_eq_error_iff.1 hfails
      exact .inr (.longCode hcandidates hbefore hlong)
    | error other =>
      cases hfails
      have hmem : .error fault ∈ Crs.candidates library owner layer := by
        simp [hcandidates]
      cases Crs.eq_unidentified_of_mem_candidates hmem
      exact .inr (.unidentified hcandidates hbefore)
  | crs hcrs => exact .inl rfl
  | extent hcrs hextent => exact .inl (isUnresolved_of_layerExtent hextent).kind
  | @size urn extent _ hcrs hextent hsize =>
    cases hraw : rawSize? layer extent with
    | none => exact .inl (isUnresolved_of_rawSize? hraw hsize).kind
    | some size =>
      obtain ⟨hnan, rfl⟩ | ⟨hinf, rfl⟩ := (layerSize_eq_error_iff hraw).1 hsize
      · exact .inr (.notANumber hcrs hextent hraw hnan)
      · exact .inr (.infinite hcrs hextent hraw hinf)
  | empty => exact .inl rfl
  | geographic hcrs hextent hsize hpos hgeographic =>
    exact .inl (isUnresolved_of_geographicExtent hgeographic).kind

theorem Escapes.ofLayer_eq {kind : FailureKind} (h : Escapes library owner layer kind) :
    ofLayer library owner layer = .error (.plain kind) ∧ kind ≠ .report .metadataResolution := by
  refine ⟨ofLayer_eq_error_iff.2 ?_, by cases h <;> decide⟩
  cases h with
  | longCode hcandidates hbefore hlong =>
    have hfails := Crs.urn?_eq_error_iff.2 ⟨rfl, hlong⟩
    exact .token (Crs.native?_eq_error_iff.2 ⟨_, _, _, hcandidates, hbefore, hfails⟩)
  | unidentified hcandidates hbefore =>
    exact .token (Crs.native?_eq_error_iff.2 ⟨_, _, _, hcandidates, hbefore, rfl⟩)
  | notANumber hcrs hextent hraw hnan =>
    exact .size hcrs hextent ((layerSize_eq_error_iff hraw).2 (.inl ⟨hnan, rfl⟩))
  | infinite hcrs hextent hraw hinf =>
    exact .size hcrs hextent ((layerSize_eq_error_iff hraw).2 (.inr ⟨hinf, rfl⟩))

/-- A grid is found or the layer is reported as unresolved, except where a failure escapes; and what
escapes is of the kind that `Escapes` gives. -/
theorem escapes_iff (library : ProjectionLibrary) (owner : Option MapDefinition) (layer : Layer) :
    (((∃ grid, ofLayer library owner layer = .ok grid) ∨
        ∃ failure, ofLayer library owner layer = .error failure ∧
          failure.kind = .report .metadataResolution) ↔
      ∀ kind, ¬Escapes library owner layer kind) ∧
    ∀ kind, Escapes library owner layer kind ↔
      kind ≠ .report .metadataResolution ∧
        ∃ failure, ofLayer library owner layer = .error failure ∧ failure.kind = kind := by
  constructor
  · constructor
    · intro h kind hescapes
      obtain ⟨hfailure, hkind⟩ := hescapes.ofLayer_eq
      rw [hfailure] at h
      obtain ⟨grid, hgrid⟩ | ⟨failure, heq, hreported⟩ := h
      · cases hgrid
      · cases heq; exact hkind hreported
    · intro h
      obtain ⟨grid, hgrid, -⟩ | ⟨failure, hfailure, hunfound⟩ :=
        found_or_unfound library owner layer
      · exact .inl ⟨grid, hgrid⟩
      · exact .inr ⟨failure, hfailure, hunfound.reported_or_escapes.resolve_right (h _)⟩
  · intro kind
    constructor
    · intro h
      exact ⟨h.ofLayer_eq.2, _, h.ofLayer_eq.1, rfl⟩
    · rintro ⟨hkind, failure, hfailure, rfl⟩
      exact (ofLayer_eq_error_iff.1 hfailure).reported_or_escapes.resolve_left hkind

/-- A fault of the library on a definition is not reported. -/
example : ofLayer { plainLibrary with identify := fun _ => .error .other } none
    { sizedLayer "dem" "10 10" with projection := some "+proj=utm" } =
      .error (.plain .projection) := by
  decide +kernel

/-- Where the failure of one coverage escapes, none of the targets is described. -/
theorem isOk_document_of_escapes {map : MapDefinition} {coverages : List String} {version : String}
    {layers : List Layer} {kind : FailureKind}
    (htargets : Description.targets map coverages = .ok layers) (hlayer : layer ∈ layers)
    (hattached : layer.attached) (hcoverage : layer.isCoverage)
    (h : Escapes library (map.owner? layer) layer kind) :
    (Description.document library map coverages version).isOk = false := by
  rw [← Bool.not_eq_true]
  intro hok
  obtain ⟨description, hdescription⟩ := Xml.Fragment.exists_of_isOk hok
  obtain ⟨_, htargets', hparts, -⟩ := Description.children_of_document hdescription
  rw [htargets] at htargets'
  cases htargets'
  obtain ⟨found, hfound, -⟩ := Xml.Fragment.failure_ofResult_eq_none.1 (hparts layer hlayer)
  obtain ⟨hfailure, hkind⟩ := h.ofLayer_eq
  rw [Description.grid?_of_isCoverage hattached hcoverage, hfailure] at hfound
  dsimp only at hfound
  split at hfound
  · next hreported => exact hkind hreported
  · cases hfound

/-- A map of two coverages, the second of which has a size that is no number. -/
def unsizedMap : MapDefinition :=
  { MapDefinition.empty with layers := [sizedLayer "dem" "10 10", sizedLayer "slope" "nan 1"] }

/-- A size that is no number is not reported, and it keeps the other coverage of its map from being
described. -/
theorem escapes_of_nan_size :
    ofLayer plainLibrary (some unsizedMap) (sizedLayer "slope" "nan 1") =
        .error (.plain .invalidValue) ∧
      ¬((∃ grid, ofLayer plainLibrary (some unsizedMap) (sizedLayer "slope" "nan 1") = .ok grid) ∨
        ∃ failure, ofLayer plainLibrary (some unsizedMap) (sizedLayer "slope" "nan 1") =
          .error failure ∧ failure.kind = .report .metadataResolution) ∧
      (Description.document plainLibrary unsizedMap ["dem"] "1.1.0").isOk ∧
      (Description.document plainLibrary unsizedMap [] "1.1.0").isOk = false := by
  have hlayer : ofLayer plainLibrary (some unsizedMap) (sizedLayer "slope" "nan 1") =
      .error (.plain .invalidValue) := by decide +kernel
  refine ⟨hlayer, ?_, by decide +kernel, ?_⟩
  · rw [hlayer]
    rintro (⟨grid, hgrid⟩ | ⟨failure, hfailure, hkind⟩)
    · cases hgrid
    · cases hfailure; cases hkind
  · have hescapes := (ofLayer_eq_error_iff.1 hlayer).reported_or_escapes.resolve_left (by decide)
    have htargets : Description.targets unsizedMap [] = .ok unsizedMap.layers := rfl
    have hmem : sizedLayer "slope" "nan 1" ∈ unsizedMap.layers := by simp [unsizedMap]
    exact isOk_document_of_escapes htargets hmem rfl (by decide) hescapes

end WebCoverage.Grid
