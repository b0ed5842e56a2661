import WebCoverage.Proofs.NameList

/-! Names that are collected from a row of items, each of which may give a name. A list of names
collects what the items give, in their order and each name once (`NameList.collects_items_ofList`).
Further items only append to it (`NameList.items_ofList_prefix`). -/

namespace WebCoverage.NameList

variable {α : Type} {give : α → Option String} {gives : α → String → Prop} {item : α} {row : List α}
  {names : List String} {name other : String}

/-- An item gives a name, and no item before it gives a spelling of another one. -/
def GivenBefore (gives : α → String → Prop) (row : List α) (name other : String) : Prop :=
  ∃ before item after, row = before ++ item :: after ∧ gives item name ∧
    ∀ earlier ∈ before, ∀ given, gives earlier given → Text.fold given ≠ Text.fold other

theorem GivenBefore.here (h : gives item name) : GivenBefore gives (item :: row) name other :=
  ⟨[], item, row, rfl, h, fun _ hearlier => nomatch hearlier⟩

theorem GivenBefore.cons (h : GivenBefore gives row name other)
    (hitem : ∀ given, gives item given → Text.fold given ≠ Text.fold other) :
    GivenBefore gives (item :: row) name other := by
  obtain ⟨before, giver, after, rfl, hgiver, hbefore⟩ := h
  exact ⟨item :: before, giver, after, rfl, hgiver, List.forall_mem_cons.2 ⟨hitem, hbefore⟩⟩

/-- The names that the items of a row give, each in the spelling of the first item that gives it. -/
structure Collects (gives : α → String → Prop) (row : List α) (names : List String) : Prop where
  /-- No two names are spellings of one. -/
  distinct : (names.map Text.fold).Nodup
  /-- Each name is given by an item before which no spelling of it is given. -/
  first : ∀ name ∈ names, GivenBefore gives row name name
  /-- Of all names that are given a spelling is there. -/
  complete : ∀ item ∈ row, ∀ name, gives item name → ∃ kept ∈ names, Text.fold kept = Text.fold name
  /-- The names stand in the order of the items that give them first. -/
  ordered : names.Pairwise (GivenBefore gives row)

theorem Collects.nil : Collects gives [] [] where
  distinct := List.nodup_nil
  first _ h := nomatch h
  complete _ h := nomatch h
  ordered := List.Pairwise.nil

/-- An item that gives nothing changes nothing. -/
theorem Collects.cons_of_none (h : Collects gives row names) (hitem : ∀ given, ¬gives item given) :
    Collects gives (item :: row) names where
  distinct := h.distinct
  first name hname := (h.first name hname).cons fun given hgiven => absurd hgiven (hitem given)
  complete := List.forall_mem_cons.2
    ⟨fun name hname => absurd hname (hitem name), h.complete⟩
  ordered := h.ordered.imp fun hbefore =>
    hbefore.cons fun given hgiven => absurd hgiven (hitem given)

/-- The name of an item stands before the names of later items, its own spellings left out. -/
theorem Collects.cons (h : Collects gives row names)
    (hitem : ∀ given, gives item given ↔ given = name) :
    Collects gives (item :: row)
      (name :: names.filter fun other => Text.fold other ≠ Text.fold name) := by
  have hself : gives item name := (hitem name).2 rfl
  have hother : ∀ other ∈ names.filter (fun other => Text.fold other ≠ Text.fold name),
      ∀ given, gives item given → Text.fold given ≠ Text.fold other := by
    intro other hmem given hgiven
    rw [(hitem given).1 hgiven]
    exact Ne.symm (of_decide_eq_true (List.mem_filter.1 hmem).2)
  refine ⟨?distinct, ?first, ?complete, ?ordered⟩
  case distinct =>
    rw [List.map_cons, List.nodup_cons]
    refine ⟨?_, h.distinct.sublist (List.filter_sublist.map Text.fold)⟩
    intro hmem
    obtain ⟨other, hother, heq⟩ := List.mem_map.1 hmem
    exact of_decide_eq_true (List.mem_filter.1 hother).2 heq
  case first =>
    refine List.forall_mem_cons.2 ⟨.here hself, ?_⟩
    intro other hmem
    exact (h.first other (List.mem_filter.1 hmem).1).cons (hother other hmem)
  case complete =>
    refine List.forall_mem_cons.2 ⟨?_, ?_⟩
    · intro given hgiven
      exact ⟨name, List.mem_cons_self, ((hitem given).1 hgiven).symm ▸ rfl⟩
    · intro later hlater given hgiven
      obtain ⟨kept, hkept, hfold⟩ := h.complete later hlater given hgiven
      by_cases hname : Text.fold kept = Text.fold name
      · exact ⟨name, List.mem_cons_self, hname.symm.trans hfold⟩
      · exact ⟨kept, List.mem_cons_of_mem _ (List.mem_filter.2 ⟨hkept, by simpa using hname⟩), hfold⟩
  case ordered =>
    refine List.pairwise_cons.2 ⟨fun _ _ => .here hself, ?_⟩
    refine (h.ordered.filter _).imp_of_mem ?_
    intro first second _ hsecond hbefore
    exact hbefore.cons (hother second hsecond)

theorem collects_firstSpellings (hgives : ∀ item name, gives item name ↔ give item = some name)
    (row : List α) : Collects gives row (firstSpellings (row.filterMap give)) := by
  induction row with
  | nil => exact .nil
  | cons item rest ih =>
    cases hitem : give item with
    | none =>
      rw [List.filterMap_cons_none hitem]
      exact ih.cons_of_none fun given hgiven => nomatch hitem.symm.trans ((hgives _ _).1 hgiven)
    | some name =>
      rw [List.filterMap_cons_some hitem, firstSpellings]
      refine ih.cons fun given => ?_
      rw [hgives, hitem, Option.some_inj, eq_comm]

theorem collects_items_ofList (hgives : ∀ item name, gives item name ↔ give item = some name)
    (row : List α) : Collects gives row (ofList (row.filterMap give)).items := by
  rw [items_ofList]
  exact collects_firstSpellings hgives row

/-- A list of more names goes on where the list of the first ones ends. -/
theorem items_ofList_prefix (first more : List String) :
    (ofList first).items <+: (ofList (first ++ more)).items := by
  have happend : ofList (first ++ more) = (ofList first).insertAll more := List.foldl_append
  rw [happend]
  exact prefix_insertAll _ more

end WebCoverage.NameList
