import Mathlib.Data.Finset.Lattice.Lemmas
import WebCoverage.Proofs.NameList

/-! Lists of names that are filled call by call. Whatever calls there were, a list holds the names
that were added but those that are spelled like an earlier one, and a name is in it if one of its
spellings was added (`NameList.first_seen`). An index keeps the folded forms of its names in a set
beside them. Nothing but the way it is filled keeps the two in step (`NameList.Index.InStep`), which
every addition does (`NameList.Index.InStep.add`). -/

namespace WebCoverage.NameList

variable {list : NameList} {names : List String} {name : String}

/-! ## Calls -/

/-- A call that fills a list. -/
inductive Call where
  | add (name : String)
  | extend (names : List String)

/-- The names that a call adds. -/
def Call.added : Call → List String
  | add name => [name]
  | extend names => names

/-- The list that a call leaves. -/
def call (list : NameList) : Call → NameList
  | .add name => (list.add name).1
  | .extend names => list.insertAll names

/-- The list that calls leave, one after the other. -/
def after (list : NameList) (calls : List Call) : NameList :=
  calls.foldl call list

theorem call_eq_insertAll (list : NameList) (call : Call) :
    list.call call = list.insertAll call.added := by
  cases call <;> rfl

/-- It does not matter by which calls names are added. -/
theorem after_eq_insertAll (list : NameList) (calls : List Call) :
    list.after calls = list.insertAll (calls.flatMap Call.added) := by
  induction calls generalizing list with
  | nil => rfl
  | cons first rest ih =>
    have hstep : list.after (first :: rest) = (list.call first).after rest := rfl
    rw [hstep, ih, call_eq_insertAll, List.flatMap_cons]
    exact List.foldl_append.symm

theorem after_ofList (names : List String) (calls : List Call) :
    (ofList names).after calls = ofList (names ++ calls.flatMap Call.added) := by
  rw [after_eq_insertAll]
  exact List.foldl_append.symm

/-! ## What a list answers -/

theorem add_of_contains (h : list.contains name) : list.add name = (list, false) := by
  rw [add, insert_of_contains h, h]
  rfl

theorem add_of_not_contains (h : ¬list.contains name) :
    (list.add name).1.items = list.items ++ [name] ∧ (list.add name).2 = true := by
  refine ⟨?_, ?_⟩
  · rw [add, items_insert, if_neg h]
  · rw [add, Bool.eq_false_iff.2 h]
    rfl

/-- What is told of a name that is added is whether it was put into the list. -/
theorem add_tells (list : NameList) (name : String) :
    ((list.add name).2 = true ↔ (list.add name).1.items = list.items ++ [name]) ∧
      ((list.add name).2 = false ↔ (list.add name).1 = list) := by
  by_cases hold : list.contains name
  · rw [add_of_contains hold]
    simp
  · obtain ⟨hitems, hanswer⟩ := add_of_not_contains hold
    refine ⟨iff_of_true hanswer hitems, iff_of_false (by simp [hanswer]) fun hsame => ?_⟩
    rw [hsame] at hitems
    simp at hitems

/-- In a list are the spellings of the names that were put into it, whether they were kept or
not. -/
theorem contains_ofList_iff :
    (ofList names).contains name ↔ ∃ other ∈ names, Text.fold other = Text.fold name := by
  rw [contains, List.contains_iff_mem, items_ofList, mem_map_fold_firstSpellings, List.mem_map]

theorem holds_ofList_iff {value : Json} :
    (ofList names).holds value ↔
      ∃ name, value = .string name ∧ ∃ other ∈ names, Text.fold other = Text.fold name := by
  cases value with
  | string name =>
    have hholds : (ofList names).holds (.string name) = (ofList names).contains name := rfl
    rw [hholds, contains_ofList_iff]
    simp
  | _ => simp [holds]

theorem ofList_items (list : NameList) : ofList list.items = list := by
  have hitems : (ofList list.items).items = list.items := items_ofList_eq_self_iff.2 list.nodup
  obtain ⟨items, nodup⟩ := list
  generalize ofList _ = other at hitems ⊢
  obtain ⟨items', nodup'⟩ := other
  cases hitems
  rfl

/-! ## An index -/

/-- Names, and beside them a set of folded forms. -/
structure Index where
  names : List String
  seen : Finset String

namespace Index

def empty : Index :=
  ⟨[], ∅⟩

/-- Puts a name last and its folded form into the set, unless that is in the set. Tells whether it
was not. -/
def add (index : Index) (name : String) : Index × Bool :=
  if Text.fold name ∈ index.seen then (index, false)
  else (⟨index.names ++ [name], index.seen ∪ {Text.fold name}⟩, true)

def addAll (index : Index) (names : List String) : Index :=
  names.foldl (fun index name => (index.add name).1) index

def call (index : Index) : Call → Index
  | .add name => (index.add name).1
  | .extend names => index.addAll names

def after (index : Index) (calls : List Call) : Index :=
  calls.foldl call index

/-- An index has the names of a list, and its set holds their folded forms and nothing else. -/
structure InStep (index : Index) (list : NameList) : Prop where
  names : index.names = list.items
  seen : ∀ key, key ∈ index.seen ↔ key ∈ list.items.map Text.fold

namespace InStep

variable {index : Index}

theorem empty : Index.empty.InStep NameList.empty :=
  ⟨rfl, fun _ => by simp [Index.empty]⟩

theorem mem_seen_iff (h : index.InStep list) (name : String) :
    Text.fold name ∈ index.seen ↔ list.contains name := by
  rw [h.seen, contains, List.contains_iff_mem]

/-- An index takes the names that the list takes, and tells the same of them. -/
theorem add (h : index.InStep list) (name : String) :
    (index.add name).1.InStep (list.add name).1 ∧ (index.add name).2 = (list.add name).2 := by
  by_cases hold : list.contains name
  · rw [Index.add, if_pos ((h.mem_seen_iff name).2 hold), add_of_contains hold]
    exact ⟨h, rfl⟩
  · obtain ⟨hitems, hanswer⟩ := add_of_not_contains hold
    rw [Index.add, if_neg (mt (h.mem_seen_iff name).1 hold), hanswer]
    refine ⟨⟨?_, fun key => ?_⟩, rfl⟩
    · rw [hitems, h.names]
    · rw [hitems, List.map_append, List.mem_append, List.map_singleton, List.mem_singleton,
        Finset.mem_union, Finset.mem_singleton, h.seen]

theorem addAll (h : index.InStep list) (names : List String) :
    (index.addAll names).InStep (list.insertAll names) := by
  induction names generalizing index list with
  | nil => exact h
  | cons name rest ih => exact ih (h.add name).1

theorem call (h : index.InStep list) (call : Call) : (index.call call).InStep (list.call call) := by
  cases call with
  | add name => exact (h.add name).1
  | extend names => exact h.addAll names

theorem after (h : index.InStep list) (calls : List Call) :
    (index.after calls).InStep (list.after calls) := by
  induction calls generalizing index list with
  | nil => exact h
  | cons first rest ih => exact ih (h.call first)

end InStep

end Index

/-- A list that is made of names and filled by calls has the names that were added in this way, each
in the spelling that was added first, in this order. Whoever adds another name is told whether it
was put into the list. A text is in the list if one of its spellings was added, and no other value
is. The names of the list make the same list, and an index that is filled alike is in step with
it. -/
theorem first_seen (names : List String) (calls : List Call) :
    let list := (ofList names).after calls
    let index := (Index.empty.addAll names).after calls
    let added := names ++ calls.flatMap Call.added
    list.items = firstSpellings added ∧
      (∀ name, ((list.add name).2 = true ↔ (list.add name).1.items = list.items ++ [name]) ∧
        ((list.add name).2 = false ↔ (list.add name).1 = list)) ∧
      (∀ value, list.holds value ↔
        ∃ name, value = .string name ∧ ∃ other ∈ added, Text.fold other = Text.fold name) ∧
      ofList list.items = list ∧
      index.InStep list ∧ ∀ name, (index.add name).2 = (list.add name).2 := by
  have hstep : ((Index.empty.addAll names).after calls).InStep ((ofList names).after calls) :=
    (Index.InStep.empty.addAll names).after calls
  dsimp only
  -- The list is the one that is made of all names at once.
  refine ⟨?_, add_tells _, fun value => ?_, ofList_items _, hstep,
    fun name => (hstep.add name).2⟩
  · rw [after_ofList, items_ofList]
  · rw [after_ofList, holds_ofList_iff]

example : ((ofList ["Straße", "dem"]).after [.extend ["STRASSE", "Dem"], .add "slope"]).items =
    ["Straße", "dem", "slope"] := by
  decide +kernel

end WebCoverage.NameList
