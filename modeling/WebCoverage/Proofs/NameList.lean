import WebCoverage.NameList

/-! Lists of names against the names that were put into them. What a list keeps are the names that
are not spelled like an earlier one (`NameList.items_ofList`), and two rows of names leave the same
list if in both the same spellings come first, in the same order
(`NameList.firstSpellings_eq_iff`). -/

namespace WebCoverage.NameList

/-- The names without those that are spelled like an earlier one. -/
def firstSpellings : List String → List String
  | [] => []
  | name :: rest =>
    name :: (firstSpellings rest).filter fun other => Text.fold other ≠ Text.fold name

/-- A name stands in a row before all its other spellings and all spellings of another name. -/
inductive Leads (name other : String) : List String → Prop
  | here {rest : List String} : Leads name other (name :: rest)
  | later {first : String} {rest : List String} : Text.fold first ≠ Text.fold name →
      Text.fold first ≠ Text.fold other → Leads name other rest → Leads name other (first :: rest)

variable {names names' : List String} {name other : String} {key : String}

/-! ## What a list keeps -/

theorem nodup_firstSpellings (names : List String) :
    ((firstSpellings names).map Text.fold).Nodup := by
  induction names with
  | nil => exact List.nodup_nil
  | cons name rest ih =>
    rw [firstSpellings, List.map_cons, List.nodup_cons]
    refine ⟨?_, ih.sublist (List.filter_sublist.map Text.fold)⟩
    intro hmem
    obtain ⟨other, hother, heq⟩ := List.mem_map.1 hmem
    exact of_decide_eq_true (List.mem_filter.1 hother).2 heq

theorem mem_map_fold_firstSpellings {key : String} :
    key ∈ (firstSpellings names).map Text.fold ↔ key ∈ names.map Text.fold := by
  induction names with
  | nil => rfl
  | cons first rest ih =>
    rw [firstSpellings, List.map_cons, List.map_cons, List.mem_cons, List.mem_cons, ← ih]
    by_cases hfirst : key = Text.fold first
    · exact iff_of_true (.inl hfirst) (.inl hfirst)
    · refine or_congr_right ⟨fun h => ?_, fun h => ?_⟩
      · exact (List.filter_sublist.map Text.fold).subset h
      · -- Only spellings of the first name are dropped, and this is none.
        obtain ⟨other, hother, rfl⟩ := List.mem_map.1 h
        exact List.mem_map_of_mem (List.mem_filter.2 ⟨hother, decide_eq_true hfirst⟩)

theorem insert_of_contains {list : NameList} (h : list.contains name) :
    list.insert name = list := by
  rw [insert, dif_pos h]

/-- Inserting names appends those whose spellings are new, each once. -/
theorem items_insertAll (list : NameList) (names : List String) :
    (list.insertAll names).items =
      list.items ++ (firstSpellings names).filter fun name => !list.contains name := by
  induction names generalizing list with
  | nil => exact (List.append_nil _).symm
  | cons name rest ih =>
    have hstep :
        (list.insertAll (name :: rest)).items = ((list.insert name).insertAll rest).items := rfl
    rw [hstep, ih, items_insert, firstSpellings]
    by_cases hold : list.contains name
    · -- The name is there already, so its other spellings are too.
      rw [if_pos hold, List.filter_cons_of_neg (by simp [hold]), List.filter_filter]
      congr 1
      refine List.filter_congr fun other _ => ?_
      rw [insert_of_contains hold]
      by_cases hother : list.contains other
      · simp [hother]
      · have hne : Text.fold other ≠ Text.fold name := by
          intro heq
          rw [contains, heq] at hother
          exact hother hold
        simp [hne]
    · rw [if_neg hold, List.filter_cons_of_pos (by simp [hold]), List.filter_filter,
        List.append_assoc, List.singleton_append]
      congr 2
      refine List.filter_congr fun other _ => ?_
      have hcontains : (list.insert name).contains other =
          (list.contains other || decide (Text.fold other = Text.fold name)) := by
        unfold contains
        rw [items_insert, if_neg hold, Bool.eq_iff_iff]
        simp
      rw [hcontains, Bool.not_or, decide_not]

theorem items_ofList (names : List String) : (ofList names).items = firstSpellings names := by
  rw [ofList, items_insertAll]
  simp [empty, contains]

/-! ## Rows that leave the same list -/

private theorem leads_filter (hname : Text.fold name ≠ key) (hother : Text.fold other ≠ key)
    (names : List String) :
    Leads name other (names.filter fun first => Text.fold first ≠ key) ↔
      Leads name other names := by
  induction names with
  | nil => rfl
  | cons first rest ih =>
    by_cases hfirst : Text.fold first = key
    · rw [List.filter_cons_of_neg (by simp [hfirst]), ih]
      constructor
      · exact .later (hfirst ▸ hname.symm) (hfirst ▸ hother.symm)
      · intro h
        cases h with
        | here => exact absurd hfirst hname
        | later _ _ h => exact h
    · rw [List.filter_cons_of_pos (by simp [hfirst])]
      constructor
      · intro h
        cases h with
        | here => exact .here
        | later hne hne' h => exact .later hne hne' (ih.1 h)
      · intro h
        cases h with
        | here => exact .here
        | later hne hne' h => exact .later hne hne' (ih.2 h)

/-- The names that are dropped lead nothing. -/
theorem leads_firstSpellings (names : List String) :
    Leads name other (firstSpellings names) ↔ Leads name other names := by
  induction names with
  | nil => rfl
  | cons first rest ih =>
    constructor
    · intro h
      cases h with
      | here => exact .here
      | later hne hne' h => exact .later hne hne' (ih.1 ((leads_filter hne.symm hne'.symm _).1 h))
    · intro h
      cases h with
      | here => exact .here
      | later hne hne' h => exact .later hne hne' ((leads_filter hne.symm hne'.symm _).2 (ih.2 h))

theorem Leads.mem (h : Leads name other names) : name ∈ names := by
  induction h with
  | here => exact List.mem_cons_self
  | later _ _ _ ih => exact List.mem_cons_of_mem _ ih

/-- A name without a spelling in the row comes before nothing. -/
private theorem leads_iff_self (h : Text.fold other ∉ names.map Text.fold) :
    Leads name other names ↔ Leads name name names := by
  induction names with
  | nil => exact iff_of_false (fun h => nomatch h) (fun h => nomatch h)
  | cons first rest ih =>
    rw [List.map_cons, List.mem_cons, not_or] at h
    constructor
    · intro hleads
      cases hleads with
      | here => exact .here
      | later hne _ hleads => exact .later hne hne ((ih h.2).1 hleads)
    · intro hleads
      cases hleads with
      | here => exact .here
      | later hne _ hleads => exact .later hne (Ne.symm h.1) ((ih h.2).2 hleads)

private theorem leads_cons_iff {first : String} (hfirst : Text.fold first ∉ names.map Text.fold)
    (hother : Text.fold other ≠ Text.fold first) :
    Leads name other names ↔ Leads name other (first :: names) ∧ name ≠ first := by
  constructor
  · intro h
    have hne : Text.fold first ≠ Text.fold name := fun heq =>
      hfirst (heq ▸ List.mem_map_of_mem h.mem)
    exact ⟨.later hne hother.symm h, fun heq => hne (heq ▸ rfl)⟩
  · rintro ⟨h, hne⟩
    cases h with
    | here => exact absurd rfl hne
    | later _ _ h => exact h

/-- Rows without two spellings of one name are the same if the same names lead in them. -/
private theorem eq_of_leads (hnames : (names.map Text.fold).Nodup)
    (hnames' : (names'.map Text.fold).Nodup)
    (h : ∀ name other, Leads name other names ↔ Leads name other names') : names = names' := by
  induction names generalizing names' with
  | nil =>
    cases names' with
    | nil => rfl
    | cons first' rest' => exact nomatch (h first' first').2 .here
  | cons first rest ih =>
    cases names' with
    | nil => exact nomatch (h first first).1 .here
    | cons first' rest' =>
      -- The first of the one row comes before the first of the other there too.
      obtain rfl : first = first' := by
        cases (h first first').1 .here with
        | here => rfl
        | later _ hne _ => exact absurd rfl hne
      rw [List.map_cons, List.nodup_cons] at hnames hnames'
      congr 1
      refine ih hnames.2 hnames'.2 fun name other => ?_
      have key : ∀ other, Text.fold other ≠ Text.fold first →
          (Leads name other rest ↔ Leads name other rest') := by
        intro other hother
        rw [leads_cons_iff hnames.1 hother, leads_cons_iff hnames'.1 hother, h]
      by_cases hother : Text.fold other = Text.fold first
      · have hrest : Text.fold other ∉ rest.map Text.fold := hother ▸ hnames.1
        have hrest' : Text.fold other ∉ rest'.map Text.fold := hother ▸ hnames'.1
        rw [leads_iff_self hrest, leads_iff_self hrest']
        by_cases hname : Text.fold name = Text.fold first
        · exact iff_of_false
            (fun h => hnames.1 (hname ▸ List.mem_map_of_mem h.mem))
            (fun h => hnames'.1 (hname ▸ List.mem_map_of_mem h.mem))
        · exact key name hname
      · exact key other hother

theorem firstSpellings_eq_iff :
    firstSpellings names = firstSpellings names' ↔
      ∀ name other, Leads name other names ↔ Leads name other names' := by
  constructor
  · intro h name other
    rw [← leads_firstSpellings names, h, leads_firstSpellings]
  · intro h
    refine eq_of_leads (nodup_firstSpellings _) (nodup_firstSpellings _) fun name other => ?_
    rw [leads_firstSpellings, leads_firstSpellings, h]

end WebCoverage.NameList
