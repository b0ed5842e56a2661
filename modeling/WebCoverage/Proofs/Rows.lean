import Mathlib.Data.List.Basic

/-! Rows of steps, which succeed if each step does (`mapM_eq_ok_iff`), and rows of equally long
pieces, which can be taken apart again (`take_drop_flatMap`). -/

namespace WebCoverage

variable {ε α β : Type} {items : List α} {item : α}

/-- A row of steps succeeds if each of them does. -/
theorem mapM_eq_ok_iff {step : α → Except ε β} {results : List β} :
    items.mapM step = .ok results ↔ items.map step = results.map .ok := by
  have hinjective {first second : List β} :
      first.map (Except.ok (ε := ε)) = second.map .ok ↔ first = second :=
    (List.map_injective_iff.2 fun _ _ => Except.ok.inj).eq_iff
  induction items generalizing results with
  | nil =>
    have hnil : ([] : List α).mapM step = .ok [] := rfl
    rw [hnil, List.map_nil, Except.ok.injEq, ← hinjective, List.map_nil]
  | cons item rest ih =>
    rw [List.mapM_cons, List.map_cons]
    cases hitem : step item with
    | error fault => cases results <;> simp [bind, Except.bind]
    | ok result =>
      cases hrest : rest.mapM step with
      | ok more =>
        have hsteps : (.ok (result :: more) : Except ε (List β)) = .ok results ↔
            result :: more = results := by rw [Except.ok.injEq]
        rw [ih.1 hrest, ← List.map_cons, hinjective]
        exact hsteps
      | error fault =>
        refine iff_of_false (fun h => nomatch h) ?_
        intro h
        cases results with
        | nil => cases h
        | cons first others =>
          have hothers := ih.2 (List.cons.inj h).2
          rw [hrest] at hothers
          cases hothers

section

variable {piece : α → List β} {width : Nat}

theorem length_flatMap_of_forall (hwidth : ∀ item ∈ items, (piece item).length = width) :
    (items.flatMap piece).length = items.length * width := by
  rw [List.length_flatMap, List.map_congr_left hwidth, List.map_const', List.sum_replicate_nat]

/-- One of the pieces that a list is made of. -/
theorem take_drop_flatMap {position : Nat} (hwidth : ∀ item ∈ items, (piece item).length = width)
    (hitem : items[position]? = some item) :
    ((items.flatMap piece).drop (position * width)).take width = piece item := by
  induction items generalizing position with
  | nil => cases hitem
  | cons first rest ih =>
    obtain ⟨hfirst, hrest⟩ := List.forall_mem_cons.1 hwidth
    rw [List.flatMap_cons]
    cases position with
    | zero =>
      rw [List.getElem?_cons_zero, Option.some.injEq] at hitem
      rw [Nat.zero_mul, List.drop_zero, List.take_left' hfirst, hitem]
    | succ position =>
      have hpieces : (position + 1) * width = (piece first).length + position * width := by
        rw [hfirst, Nat.succ_mul, Nat.add_comm]
      rw [hpieces, List.drop_length_add_append]
      exact ih hrest hitem

end

end WebCoverage
