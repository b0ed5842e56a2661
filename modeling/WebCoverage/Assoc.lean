/-! Lists of keys with values in which every key stands once, at the place where it was first
put. -/

namespace WebCoverage.Assoc

variable {κ β : Type} [DecidableEq κ]

/-- Gives `key` a new value at its place, or puts it last. -/
def put (key : κ) (value : β) : List (κ × β) → List (κ × β)
  | [] => [(key, value)]
  | (k, v) :: rest => if k = key then (k, value) :: rest else (k, v) :: put key value rest

/-- Puts the pairs one after the other, so that the last value of a key stays. -/
def ofPairs (pairs : List (κ × β)) : List (κ × β) :=
  pairs.foldl (fun entries pair => put pair.1 pair.2 entries) []

theorem put_eq_append {key : κ} {value : β} {entries : List (κ × β)}
    (h : key ∉ entries.map Prod.fst) : put key value entries = entries ++ [(key, value)] := by
  induction entries with
  | nil => rfl
  | cons entry rest ih =>
    simp only [List.map_cons, List.mem_cons, not_or] at h
    simp [put, Ne.symm h.1, ih h.2]

theorem put_append {key : κ} {value : β} {first second : List (κ × β)}
    (h : key ∉ first.map Prod.fst) :
    put key value (first ++ second) = first ++ put key value second := by
  induction first with
  | nil => rfl
  | cons entry rest ih =>
    simp only [List.map_cons, List.mem_cons, not_or] at h
    simp [put, Ne.symm h.1, ih h.2]

theorem mem_of_mem_put {key : κ} {value : β} {entries : List (κ × β)} {entry : κ × β}
    (h : entry ∈ put key value entries) : entry = (key, value) ∨ entry ∈ entries := by
  induction entries with
  | nil => exact .inl (List.mem_singleton.1 h)
  | cons first rest ih =>
    by_cases hfirst : first.1 = key
    · simp only [put, hfirst, if_true, List.mem_cons] at h
      exact h.imp_right (List.mem_cons_of_mem _)
    · simp only [put, hfirst, if_false, List.mem_cons] at h
      obtain rfl | hrest := h
      · exact .inr List.mem_cons_self
      · exact (ih hrest).imp_right (List.mem_cons_of_mem _)

theorem map_fst_put (key : κ) (value : β) (entries : List (κ × β)) :
    (put key value entries).map Prod.fst =
      if key ∈ entries.map Prod.fst then entries.map Prod.fst
      else entries.map Prod.fst ++ [key] := by
  induction entries with
  | nil => simp [put]
  | cons entry rest ih =>
    by_cases h : entry.1 = key
    · simp [put, h]
    · by_cases hr : key ∈ rest.map Prod.fst <;> simp_all [put, Ne.symm h]

theorem nodup_put {key : κ} {value : β} {entries : List (κ × β)}
    (h : (entries.map Prod.fst).Nodup) : ((put key value entries).map Prod.fst).Nodup := by
  rw [map_fst_put]
  split
  · exact h
  · next hk =>
    rw [List.nodup_append]
    refine ⟨h, by simp, fun a ha b hb => ?_⟩
    rw [List.mem_singleton.1 hb]
    exact fun hab => hk (hab ▸ ha)

theorem nodup_ofPairs (pairs : List (κ × β)) : ((ofPairs pairs).map Prod.fst).Nodup := by
  have go (entries : List (κ × β)) (h : (entries.map Prod.fst).Nodup) :
      ((pairs.foldl (fun entries pair => put pair.1 pair.2 entries) entries).map
        Prod.fst).Nodup := by
    induction pairs generalizing entries with
    | nil => exact h
    | cons pair rest ih => exact ih _ (nodup_put h)
  exact go [] (by simp)

private theorem foldl_put_of_nodup {entries pairs : List (κ × β)}
    (h : ((entries ++ pairs).map Prod.fst).Nodup) :
    pairs.foldl (fun entries pair => put pair.1 pair.2 entries) entries = entries ++ pairs := by
  induction pairs generalizing entries with
  | nil => exact (List.append_nil _).symm
  | cons pair rest ih =>
    have hfresh : pair.1 ∉ entries.map Prod.fst := by
      rw [List.map_append, List.nodup_append] at h
      exact fun hmem => h.2.2 _ hmem _ List.mem_cons_self rfl
    have hsplit : entries ++ pair :: rest = entries ++ [pair] ++ rest := by
      rw [List.append_assoc, List.singleton_append]
    rw [hsplit] at h ⊢
    rw [List.foldl_cons, put_eq_append hfresh]
    exact ih h

/-- Pairs with different keys stay as they are. -/
theorem ofPairs_of_nodup {pairs : List (κ × β)} (h : (pairs.map Prod.fst).Nodup) :
    ofPairs pairs = pairs :=
  foldl_put_of_nodup h

end WebCoverage.Assoc
