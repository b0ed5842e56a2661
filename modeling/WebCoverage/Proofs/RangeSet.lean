import WebCoverage.Proofs.Lookup

/-! The description of the bands among the metadata of a layer. It stands under the keys of
coverages, which lookups try first. So it fills in what a layer leaves out, but a name to which the
layer gives a value under a common or a map service key alone is answered with the description
(`Metadata.find?_withBands_eq_or_iff`). -/

namespace WebCoverage.Metadata

variable {metadata : Metadata} {bands : Nat} {name : String}

/-! ## What bands are described by -/

/-- What is said of the bands, by names without a namespace. -/
def bandDescription (bands : Nat) : List (String × String) :=
  [("rangeset_axes", "bands"), ("bands_name", "bands"), ("bands_label", "Bands"),
   ("bands_rangeitem", "_bands"), ("bands_values", bandNumbers bands)]

/-- What is said of the bands under a name, which may be spelled in any case. -/
def bandDefault? (bands : Nat) (name : String) : Option String :=
  (ofPairs (bandDescription bands)).get? name

theorem nodup_bandDefaults (bands : Nat) : ((bandDefaults bands).map Prod.fst).Nodup := by
  change ["wcs_rangeset_axes", "wcs_bands_name", "wcs_bands_label", "wcs_bands_rangeitem",
    "wcs_bands_values"].Nodup
  decide

theorem sameLower_start {start start' : String} (h : start ∈ starts) (h' : start' ∈ starts)
    (name name' : String) :
    Text.sameLower (start ++ name) (start' ++ name') =
      (decide (start = start') && Text.sameLower name name') := by
  rw [Bool.eq_iff_iff]
  simp only [Text.sameLower, beq_iff_eq, Bool.and_eq_true, decide_eq_true_eq]
  exact lower_start_inj h h'

theorem entries_bandDescription (bands : Nat) :
    (ofPairs (bandDescription bands)).entries = bandDescription bands := by
  refine Assoc.ofPairs_of_nodup ?_
  change ["rangeset_axes", "bands_name", "bands_label", "bands_rangeitem", "bands_values"].Nodup
  decide

/-- The description stands under coverage keys alone. -/
theorem get?_bandDefaults {start : String} (h : start ∈ starts) (bands : Nat) (name : String) :
    (ofPairs (bandDefaults bands)).get? (start ++ name) =
      if start = "wcs_" then bandDefault? bands name else none := by
  have hkeys : (ofPairs (bandDefaults bands)).entries =
      (bandDescription bands).map fun entry => ("wcs_" ++ entry.1, entry.2) :=
    Assoc.ofPairs_of_nodup (nodup_bandDefaults bands)
  have hsame (other : String) := sameLower_start (show "wcs_" ∈ starts by decide) h other name
  rw [get?, hkeys, ← List.map_reverse, List.find?_map, Option.map_map]
  simp only [Function.comp_def, hsame]
  split
  · next hstart =>
    simp only [hstart, decide_true, Bool.true_and]
    rw [bandDefault?, get?, entries_bandDescription]
  · next hstart =>
    have hother : decide ("wcs_" = start) = false := decide_eq_false (Ne.symm hstart)
    simp [hother]

/-! ## Lookups -/

/-- Without axes of its own, metadata says first what it has for coverages, then what is said of the
bands, and last what it has for other services. -/
theorem find?_withBands_eq (metadata : Metadata) (bands : Nat) (name : String) :
    (metadata.withBands bands).find? name =
      if metadata.namesAxes then metadata.find? name
      else ((metadata.get? ("wcs_" ++ name)).or (bandDefault? bands name)).or
        (metadata.find? name) := by
  have hstarts (metadata : Metadata) :
      metadata.find? name = starts.findSome? fun start => metadata.get? (start ++ name) := rfl
  have hget (start : String) (h : start ∈ starts) :
      (metadata.withDefaults (bandDefaults bands)).get? (start ++ name) =
        (metadata.get? (start ++ name)).or
          (if start = "wcs_" then bandDefault? bands name else none) := by
    rw [get?_withDefaults (nodup_bandDefaults bands), get?_bandDefaults h]
  unfold withBands
  split
  · rfl
  · rw [hstarts, hstarts]
    simp only [starts, List.findSome?_cons, List.findSome?_nil, hget "wcs_" (by decide),
      hget "ows_" (by decide), hget "wms_" (by decide)]
    cases metadata.get? ("wcs_" ++ name) <;> cases bandDefault? bands name <;> simp

theorem find?_of_get?_coverage {value : String} (h : metadata.get? ("wcs_" ++ name) = some value) :
    metadata.find? name = some value := by
  change (starts.findSome? fun start => metadata.get? (start ++ name)) = some value
  rw [starts, List.findSome?_cons, h]

/-- The axis of bands does not change what metadata says of the range itself. -/
theorem find?_withBands (bands : Nat) (h : name ∈ ["rangeset_label", "rangeset_name"]) :
    (metadata.withBands bands).find? name = metadata.find? name := by
  have hother : ∀ key ∈ (bandDescription bands).map Prod.fst, Text.sameLower key name = false := by
    change ∀ key ∈ ["rangeset_axes", "bands_name", "bands_label", "bands_rangeitem",
      "bands_values"], Text.sameLower key name = false
    revert h name
    decide +kernel
  have hnone : bandDefault? bands name = none := by
    rw [bandDefault?, ← Option.not_isSome_iff_eq_none, Bool.not_eq_true]
    refine not_contains_iff.2 ?_
    rw [entries_bandDescription]
    exact List.forall_mem_map.1 hother
  rw [find?_withBands_eq, hnone, Option.or_none]
  split
  · rfl
  · cases hget : metadata.get? ("wcs_" ++ name) with
    | none => rfl
    | some value => exact (find?_of_get?_coverage hget).symm

/-- A name whose value gives way to what is said of the bands. -/
structure Overridden (metadata : Metadata) (bands : Nat) (name : String) : Prop where
  /-- The metadata names no axes, so that the axis of bands comes with it. -/
  unnamed : metadata.namesAxes = false
  /-- The name has its value for other services than coverages. -/
  foreign : metadata.get? ("wcs_" ++ name) = none
  differs : ∃ value ∈ metadata.find? name, ∃ default ∈ bandDefault? bands name, default ≠ value

/-- A lookup finds what metadata says itself, and without that what is said of the bands if the
metadata names no axes, for all names but those whose value gives way. -/
theorem find?_withBands_eq_or_iff (metadata : Metadata) (bands : Nat) (name : String) :
    (metadata.withBands bands).find? name =
        (metadata.find? name).or
          (if metadata.namesAxes then none else bandDefault? bands name) ↔
      ¬metadata.Overridden bands name := by
  rw [find?_withBands_eq]
  cases haxes : metadata.namesAxes with
  | true =>
    simp only [if_true, Option.or_none, true_iff]
    intro hoverridden
    cases haxes.symm.trans hoverridden.unnamed
  | false =>
    simp only [Bool.false_eq_true, if_false]
    cases hget : metadata.get? ("wcs_" ++ name) with
    | some value =>
      rw [find?_of_get?_coverage hget]
      simp only [Option.some_or, true_iff]
      intro hoverridden
      cases hget.symm.trans hoverridden.foreign
    | none =>
      have hgives : metadata.Overridden bands name ↔
          ∃ value ∈ metadata.find? name, ∃ default ∈ bandDefault? bands name, default ≠ value :=
        ⟨Overridden.differs, fun hdiffers => ⟨haxes, hget, hdiffers⟩⟩
      rw [hgives]
      cases metadata.find? name <;> cases bandDefault? bands name <;> simp

/-- Metadata that names its bands with a common key. -/
def depthBands : Metadata :=
  ofPairs [("ows_bands_name", "depth")]

theorem overridden_depthBands :
    depthBands.find? "bands_name" = some "depth" ∧
      (depthBands.withBands 2).find? "bands_name" = some "bands" := by
  decide +kernel

end WebCoverage.Metadata
