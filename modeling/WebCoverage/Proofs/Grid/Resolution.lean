import WebCoverage.Grid

/-! How the grid of a layer is found, step by step. `Grid.Found` says what a grid that was found is
made of, and `Grid.Unfound` lists the steps at which the search can end without one. Nothing below
this module opens `Grid.ofLayer`. -/

namespace WebCoverage

namespace Number

/-- What is no number and what is infinite has no integer part, everything else has one. -/
theorem truncate_cases (x : Float) :
    x.isNaN ∧ ¬x.isInf ∧ ¬x.isFinite ∧ truncate x = .error .notANumber ∨
      ¬x.isNaN ∧ x.isInf ∧ ¬x.isFinite ∧ truncate x = .error .infinite ∨
        ¬x.isNaN ∧ ¬x.isInf ∧ x.isFinite ∧ ∃ n, truncate x = .ok n := by
  have hnan : x.isNaN = x.toModel.unpack.isNaN := rfl
  have hinf : x.isInf = x.toModel.unpack.isInf := rfl
  have hfinite : x.isFinite = x.toModel.unpack.isFinite := rfl
  rw [hnan, hinf, hfinite]
  unfold truncate Binary.ofFloat
  cases x.toModel.unpack with
  | notANumber => exact .inl ⟨rfl, Bool.false_ne_true, Bool.false_ne_true, rfl⟩
  | infinity => exact .inr (.inl ⟨Bool.false_ne_true, rfl, Bool.false_ne_true, rfl⟩)
  | zero => exact .inr (.inr ⟨Bool.false_ne_true, Bool.false_ne_true, rfl, _, rfl⟩)
  | finite => exact .inr (.inr ⟨Bool.false_ne_true, Bool.false_ne_true, rfl, _, rfl⟩)

end Number

namespace Grid

variable {library : ProjectionLibrary} {owner : Option MapDefinition} {layer : Layer}
  {extent : Extent} {grid : Grid} {failure : Failure}

/-! ## The steps -/

/-- What a grid of a layer that was found is made of. -/
structure Found (library : ProjectionLibrary) (owner : Option MapDefinition) (layer : Layer)
    (grid : Grid) : Prop where
  crs : Crs.native? library owner layer = .ok (some grid.crs)
  extent : layerExtent layer = .ok grid.extent
  size : layerSize layer grid.extent = .ok (grid.width, grid.height)
  geographic : geographicExtent library layer grid.extent grid.crs = .ok grid.geographic
  transform : grid.transform = northUp grid.extent grid.width grid.height
  bands : grid.bands = layerBands layer

/-- The failure of a layer that names no reference system. -/
def noCrs (layer : Layer) : Failure :=
  .unresolved s!"Unable to determine the SRS for layer '{layer.name}'" none

/-- The steps at which the search for a grid ends without one, and the failure of each. -/
inductive Unfound (library : ProjectionLibrary) (owner : Option MapDefinition) (layer : Layer) :
    Failure → Prop
  | token {fault : Crs.TokenFault} : Crs.native? library owner layer = .error fault →
      Unfound library owner layer fault.failure
  | crs : Crs.native? library owner layer = .ok none → Unfound library owner layer (noCrs layer)
  | extent {urn : String} {failure : Failure} :
      Crs.native? library owner layer = .ok (some urn) → layerExtent layer = .error failure →
      Unfound library owner layer failure
  | size {urn : String} {extent : Extent} {failure : Failure} :
      Crs.native? library owner layer = .ok (some urn) → layerExtent layer = .ok extent →
      layerSize layer extent = .error failure → Unfound library owner layer failure
  | empty {urn : String} {extent : Extent} {size : Int × Int} :
      Crs.native? library owner layer = .ok (some urn) → layerExtent layer = .ok extent →
      layerSize layer extent = .ok size → ¬(0 < size.1 ∧ 0 < size.2) →
      Unfound library owner layer
        (.unresolved s!"Layer '{layer.name}' has an empty grid ({size.1}, {size.2})" none)
  | geographic {urn : String} {extent : Extent} {size : Int × Int} {failure : Failure} :
      Crs.native? library owner layer = .ok (some urn) → layerExtent layer = .ok extent →
      layerSize layer extent = .ok size → 0 < size.1 ∧ 0 < size.2 →
      geographicExtent library layer extent urn = .error failure →
      Unfound library owner layer failure

theorem found_or_unfound (library : ProjectionLibrary) (owner : Option MapDefinition)
    (layer : Layer) :
    (∃ grid, ofLayer library owner layer = .ok grid ∧ Found library owner layer grid) ∨
      ∃ failure, ofLayer library owner layer = .error failure ∧
        Unfound library owner layer failure := by
  unfold ofLayer
  cases hcrs : Crs.native? library owner layer with
  | error fault => exact .inr ⟨_, rfl, .token hcrs⟩
  | ok found =>
    cases found with
    | none => exact .inr ⟨_, rfl, .crs hcrs⟩
    | some urn =>
      cases hextent : layerExtent layer with
      | error failure => exact .inr ⟨_, rfl, .extent hcrs hextent⟩
      | ok extent =>
        simp only [bind, Except.bind]
        cases hsize : layerSize layer extent with
        | error failure => exact .inr ⟨_, rfl, .size hcrs hextent hsize⟩
        | ok size =>
          dsimp only
          split
          · next hpos =>
            cases hgeographic : geographicExtent library layer extent urn with
            | error failure => exact .inr ⟨_, rfl, .geographic hcrs hextent hsize hpos hgeographic⟩
            | ok geographic =>
              have hwidth : (size.1.toNat : Int) = size.1 := by omega
              have hheight : (size.2.toNat : Int) = size.2 := by omega
              refine .inl ⟨_, rfl, hcrs, hextent, ?_, hgeographic, ?_, rfl⟩
              · rw [hwidth, hheight]; exact hsize
              · rw [hwidth, hheight]
          · next hpos => exact .inr ⟨_, rfl, .empty hcrs hextent hsize hpos⟩

theorem Found.of_ofLayer (h : ofLayer library owner layer = .ok grid) :
    Found library owner layer grid := by
  obtain ⟨_, hgrid, hfound⟩ | ⟨_, hfailure, -⟩ := found_or_unfound library owner layer
  · rw [h] at hgrid; cases hgrid; exact hfound
  · rw [h] at hfailure; cases hfailure

theorem ofLayer_eq_error_iff :
    ofLayer library owner layer = .error failure ↔ Unfound library owner layer failure := by
  constructor
  · intro h
    obtain ⟨_, hgrid, -⟩ | ⟨_, hfailure, hunfound⟩ := found_or_unfound library owner layer
    · rw [h] at hgrid; cases hgrid
    · rw [h] at hfailure; cases hfailure; exact hunfound
  · intro h
    unfold ofLayer
    cases h with
    | token hcrs => rw [hcrs]; rfl
    | crs hcrs => rw [hcrs]; rfl
    | extent hcrs hextent => rw [hcrs, hextent]; rfl
    | size hcrs hextent hsize => simp only [hcrs, hextent, hsize, bind, Except.bind]
    | empty hcrs hextent hsize hpos =>
      simp only [hcrs, hextent, hsize, bind, Except.bind, dif_neg hpos]; rfl
    | geographic hcrs hextent hsize hpos hgeographic =>
      simp only [hcrs, hextent, hsize, hgeographic, bind, Except.bind, dif_pos hpos]

/-- A coverage of which metadata gives the size. -/
def sizedLayer (name size : String) : Layer where
  name := name
  kind := .raster
  connection := none
  dump := true
  projection := some "epsg:4326"
  extent := some ⟨0.0, 0.0, 10.0, 10.0, by decide, by decide⟩
  metadata := Metadata.ofPairs [("wcs_size", size)]
  attached := true

/-- A library that knows no definition and moves no bounds. -/
def plainLibrary : ProjectionLibrary where
  identify _ := .error .unknownCrs
  transform _ _ bounds := .ok bounds

/-- Such a layer has a grid. -/
example : (ofLayer plainLibrary none (sizedLayer "dem" "10 10")).isOk := by decide +kernel

/-! ## The two numbers behind the size -/

/-- The two numbers that a text holds. -/
def numbers? (text : String) : Option (Float × Float) :=
  match Text.wordList text with
  | [a, b] =>
    match Number.float? a, Number.float? b with
    | some x, some y => some (x, y)
    | _, _ => none
  | _ => none

/-- The two numbers whose integer parts are the size of a grid: the configured size, or else how
often the resolution goes into the extent, with a half added. -/
def rawSize? (layer : Layer) (extent : Extent) : Option (Float × Float) :=
  match layer.metadata.filled? "size" with
  | some text => numbers? text
  | none =>
    ((layer.metadata.filled? "resolution").bind numbers?).bind fun resolution =>
      if resolution.1 ≤ 0.0 ∨ resolution.2 ≤ 0.0 then none
      else
        some ((extent.maxX - extent.minX) / resolution.1 + 0.5,
          (extent.maxY - extent.minY) / resolution.2 + 0.5)

theorem pair_eq (layer : Layer) (key text : String) :
    pair layer key text =
      match numbers? text with
      | some values => .ok values
      | none =>
        .error (.unresolved s!"Invalid {key} metadata '{text}' on layer '{layer.name}'"
          (some .invalidValue)) := rfl

theorem layerSize_of_rawSize? {size : Float × Float} (h : rawSize? layer extent = some size) :
    layerSize layer extent = do return (← wholeSize size.1, ← wholeSize size.2) := by
  unfold rawSize? at h
  unfold layerSize
  cases hsize : layer.metadata.filled? "size" with
  | some text =>
    simp only [hsize] at h
    dsimp only
    rw [pair_eq, h]
    rfl
  | none =>
    simp only [hsize] at h
    obtain ⟨resolution, hresolution, hpos⟩ := Option.bind_eq_some_iff.1 h
    obtain ⟨text, htext, hnumbers⟩ := Option.bind_eq_some_iff.1 hresolution
    simp only [htext, pair_eq, hnumbers]
    by_cases hzero : resolution.1 ≤ 0.0 ∨ resolution.2 ≤ 0.0
    · rw [if_pos hzero] at hpos; cases hpos
    · rw [if_neg hzero] at hpos
      cases hpos
      simp only [bind, Except.bind, if_neg hzero, pure, Except.pure]

/-! ## How the steps fail -/

/-- The failure of a step after the first, where it is reported as an unresolved coverage. -/
def IsUnresolved (layer : Layer) (failure : Failure) : Prop :=
  failure ≠ noCrs layer ∧ ∃ message cause, failure = .unresolved message cause

/-- A message that differs from that of `noCrs` at a place before the name of the layer. -/
private theorem isUnresolved_of_getElem? {message : String} {cause : Option FailureKind} (i : Nat)
    (h : message.toList[i]? ≠
      (s!"Unable to determine the SRS for layer '{layer.name}'").toList[i]?) :
    IsUnresolved layer (.unresolved message cause) := by
  refine ⟨fun heq => h ?_, message, cause, rfl⟩
  unfold noCrs Failure.unresolved Failure.ofKind at heq
  injection heq with hreport
  injection hreport with _ hmessage
  rw [hmessage]

theorem isUnresolved_of_layerExtent (h : layerExtent layer = .error failure) :
    IsUnresolved layer failure := by
  unfold layerExtent at h
  split at h
  · next text _ =>
    cases htext : Extent.ofText text with
    | ok extent => rw [htext] at h; cases h
    | error fault =>
      rw [htext] at h
      cases h
      exact isUnresolved_of_getElem? 0 (by simp [toString])
  · split at h
    · cases h
    · cases h
      exact isUnresolved_of_getElem? 24 (by simp [toString])

theorem isUnresolved_of_geographicExtent {urn : String}
    (h : geographicExtent library layer extent urn = .error failure) :
    IsUnresolved layer failure := by
  unfold geographicExtent at h
  split at h
  · cases h
  · cases hbounds : library.transformExtent extent urn "EPSG:4326" with
    | ok geographic => rw [hbounds] at h; cases h
    | error fault =>
      rw [hbounds] at h
      cases h
      exact isUnresolved_of_getElem? 10 (by simp [toString])

theorem isUnresolved_of_empty (size : Int × Int) :
    IsUnresolved layer
      (.unresolved s!"Layer '{layer.name}' has an empty grid ({size.1}, {size.2})" none) :=
  isUnresolved_of_getElem? 0 (by simp [toString])

/-- Without two numbers for the size a layer is reported as unresolved. -/
theorem isUnresolved_of_rawSize? (hraw : rawSize? layer extent = none)
    (h : layerSize layer extent = .error failure) : IsUnresolved layer failure := by
  unfold rawSize? at hraw
  unfold layerSize at h
  cases hsize : layer.metadata.filled? "size" with
  | some text =>
    simp only [hsize] at hraw
    simp only [hsize, pair_eq, hraw] at h
    cases h
    exact isUnresolved_of_getElem? 0 (by simp [toString])
  | none =>
    simp only [hsize] at hraw
    cases htext : layer.metadata.filled? "resolution" with
    | none =>
      simp only [hsize, htext] at h
      cases h
      exact isUnresolved_of_getElem? 0 (by simp [toString])
    | some text =>
      simp only [htext, Option.bind_some] at hraw
      simp only [hsize, htext, pair_eq] at h
      cases hnumbers : numbers? text with
      | none =>
        rw [hnumbers] at h
        cases h
        exact isUnresolved_of_getElem? 0 (by simp [toString])
      | some resolution =>
        simp only [hnumbers, Option.bind_some] at hraw
        by_cases hzero : resolution.1 ≤ 0.0 ∨ resolution.2 ≤ 0.0
        · simp only [hnumbers, bind, Except.bind, if_pos hzero] at h
          cases h
          exact isUnresolved_of_getElem? 0 (by simp [toString])
        · rw [if_neg hzero] at hraw; cases hraw

theorem wholeSize_cases (x : Float) :
    x.isNaN ∧ ¬x.isInf ∧ ¬x.isFinite ∧ wholeSize x = .error (.plain .invalidValue) ∨
      ¬x.isNaN ∧ x.isInf ∧ ¬x.isFinite ∧ wholeSize x = .error (.plain .overflow) ∨
        ¬x.isNaN ∧ ¬x.isInf ∧ x.isFinite ∧ ∃ n, wholeSize x = .ok n := by
  obtain ⟨hnan, hinf, hfin, hx⟩ | ⟨hnan, hinf, hfin, hx⟩ | ⟨hnan, hinf, hfin, n, hx⟩ :=
    Number.truncate_cases x
  · exact .inl ⟨hnan, hinf, hfin, by rw [wholeSize, hx]; rfl⟩
  · exact .inr (.inl ⟨hnan, hinf, hfin, by rw [wholeSize, hx]; rfl⟩)
  · exact .inr (.inr ⟨hnan, hinf, hfin, n, by rw [wholeSize, hx]; rfl⟩)

/-- Of the two numbers behind the size, the first that has no integer part decides the failure. -/
theorem layerSize_eq_error_iff {x y : Float} (hraw : rawSize? layer extent = some (x, y)) :
    layerSize layer extent = .error failure ↔
      (x.isNaN ∨ x.isFinite ∧ y.isNaN) ∧ failure = .plain .invalidValue ∨
        (x.isInf ∨ x.isFinite ∧ y.isInf) ∧ failure = .plain .overflow := by
  rw [layerSize_of_rawSize? hraw, eq_comm]
  obtain ⟨hnan, hinf, hfin, hx⟩ | ⟨hnan, hinf, hfin, hx⟩ | ⟨hnan, hinf, hfin, n, hx⟩ :=
    wholeSize_cases x
  · simp only [hx, hnan, hinf, hfin, bind, Except.bind, Except.error.injEq, Bool.false_eq_true,
      true_and, false_and, or_false]
  · simp only [hx, hnan, hinf, hfin, bind, Except.bind, Except.error.injEq, Bool.false_eq_true,
      true_and, false_and, or_false, false_or]
  · obtain ⟨hnan', hinf', -, hy⟩ | ⟨hnan', hinf', -, hy⟩ | ⟨hnan', hinf', -, m, hy⟩ :=
      wholeSize_cases y
    · simp only [hx, hy, hnan, hinf, hfin, hnan', hinf', bind, Except.bind, Except.error.injEq,
        Bool.false_eq_true, true_and, false_and, and_false, or_false, false_or]
    · simp only [hx, hy, hnan, hinf, hfin, hnan', hinf', bind, Except.bind, Except.error.injEq,
        Bool.false_eq_true, true_and, false_and, and_false, false_or]
    · simp only [hx, hy, hnan, hinf, hnan', hinf', bind, Except.bind, pure, Except.pure,
        reduceCtorEq, Bool.false_eq_true, false_and, and_false, or_false]

/-- The search ends for want of a reference system, with a report on another step, or with a failure
that is no report. -/
theorem Unfound.noCrs_or_unresolved_or_plain (h : Unfound library owner layer failure) :
    Crs.native? library owner layer = .ok none ∧ failure = noCrs layer ∨
      IsUnresolved layer failure ∨ ∃ kind, failure = .plain kind := by
  cases h with
  | token hcrs => exact .inr (.inr ⟨_, rfl⟩)
  | crs hcrs => exact .inl ⟨hcrs, rfl⟩
  | extent hcrs hextent => exact .inr (.inl (isUnresolved_of_layerExtent hextent))
  | @size urn extent _ hcrs hextent hsize =>
    cases hraw : rawSize? layer extent with
    | none => exact .inr (.inl (isUnresolved_of_rawSize? hraw hsize))
    | some size =>
      obtain ⟨-, rfl⟩ | ⟨-, rfl⟩ := (layerSize_eq_error_iff hraw).1 hsize
      · exact .inr (.inr ⟨_, rfl⟩)
      · exact .inr (.inr ⟨_, rfl⟩)
  | empty => exact .inr (.inl (isUnresolved_of_empty _))
  | geographic hcrs hextent hsize hpos hgeographic =>
    exact .inr (.inl (isUnresolved_of_geographicExtent hgeographic))

theorem ofLayer_eq_noCrs_iff :
    ofLayer library owner layer = .error (noCrs layer) ↔
      Crs.native? library owner layer = .ok none := by
  rw [ofLayer_eq_error_iff]
  refine ⟨fun h => ?_, .crs⟩
  obtain ⟨hcrs, -⟩ | ⟨hne, -⟩ | ⟨kind, hkind⟩ := h.noCrs_or_unresolved_or_plain
  · exact hcrs
  · exact absurd rfl hne
  · cases hkind

end Grid

end WebCoverage
