import Mathlib.Data.Int.Cast.Basic
import Mathlib.Data.List.Forall2
import Mathlib.Tactic.Ring
import WebCoverage.Coverage.Raster
import WebCoverage.Proofs.Rows

/-! Indices of a shape in row-major order, the last axis running fastest, and the places that
strides give them. The places of a raster are those of the indices in this order
(`Raster.places_zip`), and in samples that are stored in this order an index has the place of its
rank (`Raster.place_rowStrides`). -/

namespace WebCoverage

open Raster

variable {shape index : List Nat} {strides : List Int} {start : Int} {line length : Nat}

/-! ## Indices -/

/-- Whether an index lies in a shape: it has a line of each axis. -/
def IsIndex (shape index : List Nat) : Prop :=
  List.Forall₂ (· < ·) index shape

theorem isIndex_reverse_iff : IsIndex shape.reverse index ↔ IsIndex shape index.reverse := by
  unfold IsIndex
  rw [← List.forall₂_reverse_iff, List.reverse_reverse]

/-- How many indices of a shape come before an index. -/
def rank : (shape index : List Nat) → Nat
  | _ :: shape, line :: index => line * count shape + rank shape index
  | _, _ => 0

/-- The indices of a shape. -/
def indices : (shape : List Nat) → List (List Nat)
  | [] => [[]]
  | length :: shape =>
    (List.range length).flatMap fun line => (indices shape).map (line :: ·)

@[simp]
theorem Raster.count_cons : count (length :: shape) = length * count shape :=
  rfl

theorem mem_indices_iff : index ∈ indices shape ↔ IsIndex shape index := by
  unfold IsIndex
  induction shape generalizing index with
  | nil => simp [indices]
  | cons length shape ih =>
    simp only [indices, List.mem_flatMap, List.mem_range, List.mem_map, ih,
      List.forall₂_cons_right_iff]
    constructor
    · rintro ⟨line, hline, rest, hrest, rfl⟩
      exact ⟨line, rest, hline, hrest, rfl⟩
    · rintro ⟨line, rest, hline, hrest, rfl⟩
      exact ⟨line, hline, rest, hrest, rfl⟩

theorem length_indices : (indices shape).length = count shape := by
  induction shape with
  | nil => rfl
  | cons length shape ih =>
    rw [indices, length_flatMap_of_forall fun _ _ => (List.length_map _).trans ih,
      List.length_range, count_cons]

theorem rank_lt_count (h : IsIndex shape index) : rank shape index < count shape := by
  induction h with
  | nil => exact Nat.one_pos
  | @cons line length index shape hline hrest ih =>
    calc line * count shape + rank shape index
        < line * count shape + count shape := Nat.add_lt_add_left ih _
      _ = (line + 1) * count shape := (Nat.succ_mul _ _).symm
      _ ≤ length * count shape := Nat.mul_le_mul_right _ hline

theorem getElem?_indices (h : IsIndex shape index) :
    (indices shape)[rank shape index]? = some index := by
  induction h with
  | nil => rfl
  | @cons line length index shape hline hrest ih =>
    have hlines : ∀ line ∈ List.range length,
        ((indices shape).map (line :: ·)).length = count shape :=
      fun _ _ => (List.length_map _).trans length_indices
    -- The indices of one line stand together, so the index is looked for among them.
    have hline := take_drop_flatMap hlines (List.getElem?_range hline)
    have hindex := congrArg (·[rank shape index]?) hline
    simp only [List.getElem?_take_of_lt (rank_lt_count hrest), List.getElem?_drop,
      List.getElem?_map, ih] at hindex
    exact hindex

namespace Raster

/-! ## Places -/

/-- The place of an index in storage. -/
def place (start : Int) (strides : List Int) (index : List Nat) : Int :=
  start + (List.zipWith (fun (line : Nat) (stride : Int) => (line : Int) * stride) index strides).sum

@[simp]
theorem place_nil : place start strides [] = start := by
  simp [place]

@[simp]
theorem place_cons {stride : Int} : place start (stride :: strides) (line :: index) =
    place (start + line * stride) strides index := by
  simp [place, Int.add_assoc]

/-- The order of the axes does not matter for the place. -/
theorem place_reverse (h : index.length = strides.length) :
    place start strides.reverse index = place start strides index.reverse := by
  have hlength : index.length = strides.reverse.length := by rw [List.length_reverse, h]
  rw [place, place, ← List.sum_reverse, List.reverse_zipWith hlength, List.reverse_reverse]

theorem places_zip (h : strides.length = shape.length) :
    places start (shape.zip strides) = (indices shape).map (place start strides) := by
  induction shape generalizing start strides with
  | nil => simp [places, indices]
  | cons length shape ih =>
    cases strides with
    | nil => cases h
    | cons stride strides =>
      rw [List.zip_cons_cons, places, indices, List.map_flatMap]
      refine List.flatMap_congr fun line _ => ?_
      rw [ih (Nat.succ.inj h), List.map_map]
      exact List.map_congr_left fun index _ => place_cons.symm

theorem length_rowStrides : (rowStrides shape).length = shape.length := by
  induction shape with
  | nil => rfl
  | cons length shape ih => rw [rowStrides, List.length_cons, List.length_cons, ih]

theorem place_rowStrides (h : IsIndex shape index) :
    place start (rowStrides shape) index = start + rank shape index := by
  induction h generalizing start with
  | nil => simp [rank]
  | cons hline hrest ih =>
    rw [rowStrides, place_cons, ih, rank, Nat.cast_add, Nat.cast_mul, Int.add_assoc]

/-! ## Shapes -/

/-- A shape in which a length stands for each one that is left open. -/
private theorem count_filled (lengths : List Int) (filling : Nat) :
    count (lengths.map fun length => if length < 0 then filling else length.toNat) =
      count ((lengths.filter (0 ≤ ·)).map Int.toNat) * filling ^ lengths.countP (· < 0) := by
  induction lengths with
  | nil => rfl
  | cons length lengths ih =>
    have hknown : 0 ≤ length ↔ ¬length < 0 := Int.not_lt.symm
    by_cases hlength : length < 0
    all_goals
      simp only [List.map_cons, List.filter_cons, List.countP_cons, count_cons, ih, hknown, hlength,
        not_true_eq_false, not_false_eq_true, decide_true, decide_false, Bool.false_eq_true,
        if_false, if_true]
      ring

/-- A shape that is found holds all samples. -/
theorem count_of_shape? {size : Nat} {lengths : List Int} (h : shape? size lengths = some shape) :
    count shape = size := by
  unfold shape? at h
  dsimp only at h
  split at h
  · next hopen =>
    obtain ⟨hsize, hshape⟩ := Option.ite_none_right_eq_some.1 h
    have hfilled := count_filled lengths 0
    have htoNat : (fun length : Int => if length < 0 then 0 else length.toNat) = Int.toNat := by
      funext length
      split <;> omega
    rw [htoNat, hopen, pow_zero, mul_one, ← hsize] at hfilled
    exact Option.some.inj hshape ▸ hfilled
  · next hopen =>
    obtain ⟨⟨-, hdivides⟩, hshape⟩ := Option.ite_none_right_eq_some.1 h
    rw [← Option.some.inj hshape, count_filled, hopen, pow_one]
    exact Nat.mul_div_cancel' (Nat.dvd_of_mod_eq_zero hdivides)
  · cases h

theorem ofSamples_eq_ok_iff {type : SampleType} {lengths : List Int} {samples : List Sample}
    {raster : Raster} : ofSamples type lengths samples = .ok raster ↔
      ∃ storage shape, samples.mapM type.bits = .ok storage ∧
        (shape? storage.length lengths).filter (isSupported type) = some shape ∧
          raster = ⟨type, storage, shape, rowStrides shape, 0⟩ := by
  unfold ofSamples
  cases samples.mapM type.bits with
  | error fault => simp [bind, Except.bind]
  | ok storage =>
    simp only [bind, Except.bind, Except.ok.injEq, ↓existsAndEq, true_and]
    generalize (shape? storage.length lengths).filter (isSupported type) = found
    cases found <;> simp [throw, throwThe, MonadExceptOf.throw, pure, Except.pure, eq_comm]

end Raster

end WebCoverage
