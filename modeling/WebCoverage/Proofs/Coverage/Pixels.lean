import WebCoverage.Coverage.Encoder
import WebCoverage.Proofs.Coverage.Integers
import WebCoverage.Proofs.Coverage.RowMajor

/-! Images of integers as what they show: the value at each index, whatever the storage. The raw
bytes of an image are those of its values in row-major order, so they tell images apart exactly
where these show different values (`Pixels.rawEncoder_storedAs`). -/

namespace WebCoverage

/-- An image of integers. The values beyond the shape are not part of it. -/
structure Pixels where
  type : IntegerType
  shape : List Nat
  value : List Nat → Int

namespace Pixels

open Raster

/-! ## Reading, reordering and leaving out -/

/-- What samples in bytes show to a reader, the last axis running fastest. -/
def ofBytes (type : IntegerType) (shape : List Nat) (bytes : Bytes) : Pixels where
  type
  shape
  value index := type.read ((bytes.drop (rank shape index * type.width)).take type.width)

/-- What values show that are given with the last axis running fastest. -/
def ofValues (type : IntegerType) (shape : List Nat) (values : List Int) : Pixels where
  type
  shape
  value index := values.getD (rank shape index) 0

/-- An image of no axes as one of a single line. -/
def withAxis (pixels : Pixels) : Pixels :=
  match pixels.shape with
  | [] => { pixels with shape := [1], value := fun _ => pixels.value [] }
  | _ :: _ => pixels

/-- The axes in reverse order. -/
def transposed (pixels : Pixels) : Pixels :=
  { pixels with shape := pixels.shape.reverse, value := fun index => pixels.value index.reverse }

/-- Which line of an axis is the given one of those that are left at a distance of `step`. -/
def keptLine (length : Nat) (step : Int) (line : Nat) : Nat :=
  if step < 0 then length - 1 - line * step.natAbs else line * step.natAbs

/-- Every line of the first axis at a distance of `step` from the one before, backwards from the
last line where `step` is negative. -/
def everyNth (pixels : Pixels) (step : Int) : Pixels :=
  match pixels.shape with
  | [] => pixels
  | length :: shape =>
    { pixels with
      shape := (length + step.natAbs - 1) / step.natAbs :: shape
      value := fun index => pixels.value (index.modifyHead (keptLine length step)) }

/-- Rasters that show an image: its values in a row, and what storing them with the first axis
running fastest, reversing the axes and leaving out lines makes of such a raster. -/
inductive StoredAs : Pixels → Raster → Prop
  | rowMajor {type lengths samples values raster} :
      Raster.ofSamples type.sampleType lengths samples = .ok raster →
      samples.map Sample.integer? = values.map some →
      StoredAs (ofValues type raster.shape values) raster
  | columnMajor {pixels raster} : StoredAs pixels raster →
      StoredAs pixels.withAxis raster.columnMajor
  | transposed {pixels raster} : StoredAs pixels raster →
      StoredAs pixels.transposed raster.transposed
  | everyNth {pixels raster step kept} : StoredAs pixels raster →
      raster.everyNth? step = some kept → StoredAs (pixels.everyNth step) kept

/-! ## Storage -/

variable {pixels : Pixels} {raster : Raster} {index : List Nat}

/-- The storage of a raster shows an image: at the place of each index are the bits of the value
there. -/
structure Shows (raster : Raster) (pixels : Pixels) : Prop where
  type : raster.type = pixels.type.sampleType
  shape : raster.shape = pixels.shape
  strides : raster.strides.length = pixels.shape.length
  holds : ∀ index, IsIndex pixels.shape index → pixels.type.Holds (pixels.value index)
  bits : ∀ index, IsIndex pixels.shape index →
    raster.sampleAt (place raster.start raster.strides index) =
      pixels.type.sampleType.integerBits (pixels.value index)

/-- The samples of a raster are those of the values in row-major order. -/
theorem Shows.samples (h : Shows raster pixels) : raster.samples =
    (indices pixels.shape).map fun index =>
      pixels.type.sampleType.integerBits (pixels.value index) := by
  rw [Raster.samples, h.shape, places_zip h.strides, List.map_map]
  exact List.map_congr_left fun index hindex => h.bits index (mem_indices_iff.1 hindex)

/-- Samples in row-major order show what each of them stands for. -/
theorem shows_of_row {type : IntegerType} {storage shape : List Nat} {value : List Nat → Int}
    (h : ∀ index, IsIndex shape index → type.Holds (value index) ∧
      storage[rank shape index]? = some (type.sampleType.integerBits (value index))) :
    Shows ⟨type.sampleType, storage, shape, rowStrides shape, 0⟩ ⟨type, shape, value⟩ where
  type := rfl
  shape := rfl
  strides := length_rowStrides
  holds index hindex := (h index hindex).1
  bits index hindex := by
    rw [place_rowStrides hindex, sampleAt, Int.zero_add, Int.toNat_natCast,
      List.getD_eq_getElem?_getD, (h index hindex).2, Option.getD_some]

/-- A raster that is stored anew shows the same image. -/
theorem Shows.row (h : Shows raster pixels) :
    Shows ⟨raster.type, raster.samples, raster.shape, rowStrides raster.shape, 0⟩ pixels := by
  rw [h.type, h.shape, h.samples]
  refine shows_of_row fun index hindex => ⟨h.holds index hindex, ?_⟩
  rw [List.getElem?_map, getElem?_indices hindex, Option.map_some]

/-! ## Layouts -/

theorem shows_ofSamples {type : IntegerType} {lengths : List Int} {samples : List Sample}
    {values : List Int} (hraster : Raster.ofSamples type.sampleType lengths samples = .ok raster)
    (hvalues : samples.map Sample.integer? = values.map some) :
    Shows raster (ofValues type raster.shape values) := by
  obtain ⟨storage, shape, hstorage, hshape, rfl⟩ := ofSamples_eq_ok_iff.1 hraster
  have hcount := count_of_shape? (Option.filter_eq_some_iff.1 hshape).1
  refine shows_of_row fun index hindex => ?_
  -- The sample and the value at the rank of the index are found through the bits there.
  have hrank := rank_lt_count hindex
  generalize rank shape index = position at hrank ⊢
  obtain ⟨bits, hbits⟩ : ∃ bits, storage[position]? = some bits :=
    ⟨_, List.getElem?_eq_getElem (hcount ▸ hrank)⟩
  have hsample : (samples.map type.sampleType.bits)[position]? = some (.ok bits) := by
    rw [mapM_eq_ok_iff.1 hstorage, List.getElem?_map, hbits, Option.map_some]
  rw [List.getElem?_map, Option.map_eq_some_iff] at hsample
  obtain ⟨sample, hsample, hstored⟩ := hsample
  obtain ⟨n, hinteger, hholds, rfl⟩ := IntegerType.bits_eq_ok_iff.1 hstored
  have hvalue : (values.map some)[position]? = some (some n) := by
    rw [← hvalues, List.getElem?_map, hsample, Option.map_some, hinteger]
  rw [List.getElem?_map, Option.map_eq_some_iff] at hvalue
  obtain ⟨_, hvalue, ⟨⟩⟩ := hvalue
  rw [List.getD_eq_getElem?_getD, hvalue, Option.getD_some]
  exact ⟨hholds, hbits⟩

theorem Shows.transposed (h : Shows raster pixels) : Shows raster.transposed pixels.transposed where
  type := h.type
  shape := congrArg List.reverse h.shape
  strides := by
    rw [Raster.transposed, List.length_reverse, h.strides, Pixels.transposed, List.length_reverse]
  holds index hindex := h.holds index.reverse (isIndex_reverse_iff.1 hindex)
  bits index hindex := by
    have hindex := isIndex_reverse_iff.1 hindex
    have hlength : index.length = raster.strides.length := by
      rw [h.strides, ← hindex.length_eq, List.length_reverse]
    exact (congrArg raster.sampleAt (place_reverse hlength)).trans (h.bits index.reverse hindex)

theorem transposed_transposed : pixels.transposed.transposed = pixels := by
  simp [Pixels.transposed]

/-- To store the first axis fastest is to store the reversed axes in row-major order. -/
theorem columnMajor_of_axis (h : raster.shape ≠ []) : raster.columnMajor =
    Raster.transposed ⟨raster.type, raster.transposed.samples, raster.transposed.shape,
      rowStrides raster.transposed.shape, 0⟩ := by
  simp [columnMajor, Raster.transposed, h]

theorem Shows.columnMajor (h : Shows raster pixels) :
    Shows raster.columnMajor pixels.withAxis := by
  -- A raster of no axes gets one, so its only index is another one than before.
  cases hshape : pixels.shape with
  | nil =>
    have hrow : raster.columnMajor =
        ⟨pixels.type.sampleType, raster.transposed.samples, [1], rowStrides [1], 0⟩ := by
      simp [Raster.columnMajor, h.type, h.shape, hshape, rowStrides]
    have hpixels : pixels.withAxis = ⟨pixels.type, [1], fun _ => pixels.value []⟩ := by
      rw [withAxis, hshape]
    rw [hrow, hpixels]
    refine shows_of_row fun index hindex => ⟨h.holds [] (hshape ▸ .nil), ?_⟩
    have hfirst : rank [1] index = 0 := Nat.lt_one_iff.1 (rank_lt_count hindex)
    rw [hfirst, h.transposed.samples]
    simp [Pixels.transposed, hshape, indices]
  | cons length shape =>
    have hraster : raster.shape ≠ [] := by
      rw [h.shape, hshape]
      exact List.cons_ne_nil _ _
    have hpixels : pixels.withAxis = pixels.transposed.transposed := by
      rw [transposed_transposed, withAxis, hshape]
    rw [columnMajor_of_axis hraster, hpixels]
    exact h.transposed.row.transposed

section

variable {length line : Nat} {shape : List Nat} {step start stride : Int} {strides : List Int}

theorem mul_natAbs_lt (hstep : step ≠ 0)
    (hline : line < (length + step.natAbs - 1) / step.natAbs) : line * step.natAbs < length := by
  have hpos : 0 < step.natAbs := Int.natAbs_pos.2 hstep
  have hlast : (line + 1) * step.natAbs ≤ length + step.natAbs - 1 :=
    (Nat.le_div_iff_mul_le hpos).1 hline
  rw [Nat.succ_mul] at hlast
  omega

/-- The lines that are left are lines of the axis. -/
theorem isIndex_kept (hstep : step ≠ 0)
    (hindex : IsIndex ((length + step.natAbs - 1) / step.natAbs :: shape) index) :
    IsIndex (length :: shape) (index.modifyHead (keptLine length step)) := by
  cases hindex with
  | @cons line _ rest _ hline hrest =>
    refine .cons ?_ hrest
    have hlt := mul_natAbs_lt hstep hline
    unfold keptLine
    split <;> omega

/-- A line that is left stays where it is. -/
theorem place_kept (hstep : step ≠ 0)
    (hindex : IsIndex ((length + step.natAbs - 1) / step.natAbs :: shape) index) :
    place (if step < 0 then start + (length - 1) * stride else start) (stride * step :: strides)
      index = place start (stride :: strides) (index.modifyHead (keptLine length step)) := by
  cases hindex with
  | @cons line _ rest _ hline hrest =>
    have hlt := mul_natAbs_lt hstep hline
    have hstart : (if step < 0 then start + (length - 1) * stride else start) +
        line * (stride * step) = start + keptLine length step line * stride := by
      unfold keptLine
      split
      · have hline : ((length - 1 - line * step.natAbs : Nat) : Int) =
            length - 1 + line * step := by
          rw [Nat.sub_sub, Nat.cast_sub (by omega), Nat.cast_add, Nat.cast_mul,
            Int.ofNat_natAbs_of_nonpos (by omega)]
          ring
        rw [hline]
        ring
      · rw [Nat.cast_mul, Int.natAbs_of_nonneg (by omega)]
        ring
    rw [List.modifyHead_cons, place_cons, place_cons, hstart]

end

theorem Shows.everyNth {kept : Raster} {step : Int} (h : Shows raster pixels)
    (hkept : raster.everyNth? step = some kept) : Shows kept (pixels.everyNth step) := by
  obtain ⟨type, storage, shape, strides, start⟩ := raster
  obtain ⟨integerType, _, value⟩ := pixels
  obtain rfl : shape = _ := h.shape
  cases shape with
  | nil => cases hkept
  | cons length shape =>
    cases strides with
    | nil => cases h.strides
    | cons stride strides =>
      obtain ⟨hstep, hkept⟩ := Option.ite_none_left_eq_some.1 hkept
      cases hkept
      exact {
        type := h.type
        shape := rfl
        strides := h.strides
        holds := fun index hindex => h.holds _ (isIndex_kept hstep hindex)
        bits := fun index hindex =>
          (congrArg _ (place_kept hstep hindex)).trans (h.bits _ (isIndex_kept hstep hindex)) }

/-- All rasters that show an image have its values in storage. -/
theorem StoredAs.shows (h : StoredAs pixels raster) : Shows raster pixels := by
  induction h with
  | rowMajor hraster hvalues => exact shows_ofSamples hraster hvalues
  | columnMajor _ ih => exact ih.columnMajor
  | transposed _ ih => exact ih.transposed
  | everyNth _ hkept ih => exact ih.everyNth hkept

/-! ## Bytes -/

theorem Shows.bytes (h : Shows raster pixels) : raster.bytes =
    (indices pixels.shape).flatMap fun index =>
      pixels.type.sampleType.write (pixels.type.sampleType.integerBits (pixels.value index)) := by
  rw [Raster.bytes, h.samples, h.type, List.flatMap_map]

theorem Shows.length_bytes (h : Shows raster pixels) :
    raster.bytes.length = count pixels.shape * pixels.type.width := by
  rw [h.bytes, length_flatMap_of_forall fun index _ => SampleType.length_write _ _, length_indices]
  rfl

/-- The bytes of a raster show the image that its storage shows. -/
theorem Shows.value_ofBytes (h : Shows raster pixels) (hindex : IsIndex pixels.shape index) :
    (ofBytes pixels.type pixels.shape raster.bytes).value index = pixels.value index := by
  have hwidth : ∀ index ∈ indices pixels.shape, (pixels.type.sampleType.write
      (pixels.type.sampleType.integerBits (pixels.value index))).length = pixels.type.width :=
    fun index _ => SampleType.length_write _ _
  have hpiece := take_drop_flatMap hwidth (getElem?_indices hindex)
  rw [← h.bytes] at hpiece
  exact (congrArg pixels.type.read hpiece).trans (IntegerType.read_write (h.holds index hindex))

/-- Images of one type and shape have the same bytes if they show the same values. -/
theorem Shows.bytes_eq_iff {other : Pixels} {otherRaster : Raster} (h : Shows raster pixels)
    (hother : Shows otherRaster other) (htype : other.type = pixels.type)
    (hshape : other.shape = pixels.shape) : otherRaster.bytes = raster.bytes ↔
      ∀ index, IsIndex pixels.shape index → other.value index = pixels.value index := by
  constructor
  · intro hbytes index hindex
    rw [← h.value_ofBytes hindex, ← hbytes, ← htype, ← hshape]
    exact (hother.value_ofBytes (hshape ▸ hindex)).symm
  · intro hvalues
    rw [h.bytes, hother.bytes, htype, hshape]
    refine List.flatMap_congr fun index hindex => ?_
    rw [hvalues index (mem_indices_iff.1 hindex)]

/-- The raw bytes of an image that is not empty, however it is stored, are its values in row-major
order, and images of one type and shape have the same bytes exactly if they show the same values. -/
theorem rawEncoder_storedAs (h : StoredAs pixels raster) (hcount : count pixels.shape ≠ 0)
    (format : OutputFormat) :
    raster.type = pixels.type.sampleType ∧ raster.shape = pixels.shape ∧
      ∃ bytes, rawEncoder (.raster raster) format = .ok bytes ∧
        bytes.length = count pixels.shape * pixels.type.width ∧
        (∀ index, IsIndex pixels.shape index →
          (ofBytes pixels.type pixels.shape bytes).value index = pixels.value index) ∧
        ∀ other otherRaster, StoredAs other otherRaster → other.type = pixels.type →
          other.shape = pixels.shape →
            (rawEncoder (.raster otherRaster) format = .ok bytes ↔
              ∀ index, IsIndex pixels.shape index → other.value index = pixels.value index) := by
  have hencoded {pixels : Pixels} {raster : Raster} (h : Shows raster pixels)
      (hcount : count pixels.shape ≠ 0) : rawEncoder (.raster raster) format = .ok raster.bytes := by
    simp [rawEncoder, Raster.isEmpty, h.shape, hcount]
  have hshows := h.shows
  refine ⟨hshows.type, hshows.shape, raster.bytes, hencoded hshows hcount, hshows.length_bytes,
    fun index hindex => hshows.value_ofBytes hindex, ?_⟩
  intro other otherRaster hother htype hshape
  rw [hencoded hother.shows (hshape ▸ hcount), Except.ok.injEq]
  exact hshows.bytes_eq_iff hother.shows htype hshape

/-- Integers with a sign in two bytes, the highest byte first. -/
def shortType : IntegerType :=
  ⟨true, 2, true⟩

/-- Two rows of three values. -/
def rowsRaster : Raster :=
  ⟨shortType.sampleType, [1, 0xFFFE, 3, 0xFFFC, 5, 0xFFFA], [2, 3], [3, 1], 0⟩

/-- Their columns as rows, from the last one on and without the second one. -/
def columnsRaster : Raster :=
  ⟨shortType.sampleType, [1, 0xFFFC, 0xFFFE, 5, 3, 0xFFFA], [2, 2], [-4, 1], 4⟩

/-- The same values in a row. -/
def pickedRaster : Raster :=
  ⟨shortType.sampleType, [3, 0xFFFA, 1, 0xFFFC], [2, 2], [2, 1], 0⟩

/-- The columns have the bytes of the same values in a row. -/
theorem rawEncoder_storedAs_columns :
    ∃ bytes, rawEncoder (.raster columnsRaster) ⟨"raw", "raw", .rawData, "", "raw"⟩ = .ok bytes ∧
      bytes.length = 8 ∧ (ofBytes shortType [2, 2] bytes).value [0, 1] = -6 ∧
        rawEncoder (.raster pickedRaster) ⟨"raw", "raw", .rawData, "", "raw"⟩ = .ok bytes := by
  have hrows : StoredAs (ofValues shortType [2, 3] [1, -2, 3, -4, 5, -6]) rowsRaster := by
    have hsamples : Raster.ofSamples shortType.sampleType [2, -1]
        ([1, -2, 3, -4, 5, -6].map .whole) = .ok rowsRaster := rfl
    exact .rowMajor hsamples rfl
  have hpicked : StoredAs (ofValues shortType [2, 2] [3, -6, 1, -4]) pickedRaster := by
    have hsamples : Raster.ofSamples shortType.sampleType [2, 2]
        ([3, -6, 1, -4].map .whole) = .ok pickedRaster := rfl
    exact .rowMajor hsamples rfl
  have hkept : rowsRaster.columnMajor.transposed.everyNth? (-2) = some columnsRaster := rfl
  have hcolumns := hrows.columnMajor.transposed.everyNth hkept
  obtain ⟨-, -, bytes, hbytes, hlength, hread, hsame⟩ :=
    rawEncoder_storedAs hcolumns (by decide) ⟨"raw", "raw", .rawData, "", "raw"⟩
  have hindex : IsIndex [2, 2] [0, 1] := .cons (by decide) (.cons (by decide) .nil)
  refine ⟨bytes, hbytes, hlength, hread [0, 1] hindex, (hsame _ _ hpicked rfl rfl).2 ?_⟩
  intro index hindex
  rw [← mem_indices_iff] at hindex
  revert index
  decide

end Pixels

end WebCoverage
