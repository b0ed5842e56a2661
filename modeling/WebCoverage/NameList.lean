import WebCoverage.Json.Basic
import WebCoverage.Text.Fold
import WebCoverage.Text.Quoted

/-! Lists of names in which no name stands twice, in capitals or small letters. The spelling that
came first stays. -/

namespace WebCoverage

structure NameList where
  items : List String
  nodup : (items.map Text.fold).Nodup

namespace NameList

def empty : NameList := ⟨[], by simp⟩

/-- Some spelling of the name is in the list. -/
def contains (names : NameList) (name : String) : Bool :=
  (names.items.map Text.fold).contains (Text.fold name)

/-- A value is in the list if it is a text of which a spelling is. -/
def holds (names : NameList) : Json → Bool
  | .string name => names.contains name
  | _ => false

/-- Puts a name last, unless a spelling of it is there. -/
def insert (names : NameList) (name : String) : NameList :=
  if h : names.contains name then names
  else
    { items := names.items ++ [name]
      nodup := by
        rw [List.map_append, List.nodup_append]
        refine ⟨names.nodup, by simp, fun a ha b hb hab => h ?_⟩
        simp only [List.map_cons, List.map_nil, List.mem_singleton] at hb
        simpa [contains, ← hb, ← hab] using ha }

/-- Inserts a name, and tells whether it was put into the list. -/
def add (names : NameList) (name : String) : NameList × Bool :=
  (names.insert name, !names.contains name)

/-- Inserts names one after the other. -/
def insertAll (names : NameList) (more : List String) : NameList :=
  more.foldl insert names

def ofList (names : List String) : NameList :=
  empty.insertAll names

def join (names : NameList) (separator : String) : String :=
  separator.intercalate names.items

/-- The names in quotes. -/
def shown (names : NameList) : String :=
  "UniqueNameList([" ++ ", ".intercalate (names.items.map Text.quoted) ++ "])"

@[simp]
theorem items_empty : empty.items = [] := rfl

theorem items_insert (names : NameList) (name : String) :
    (names.insert name).items =
      if names.contains name then names.items else names.items ++ [name] := by
  unfold insert
  split <;> simp_all

theorem prefix_insert (names : NameList) (name : String) :
    names.items <+: (names.insert name).items := by
  rw [items_insert]
  split
  · exact List.prefix_rfl
  · exact List.prefix_append ..

/-- Inserting only appends. -/
theorem prefix_insertAll (names : NameList) (more : List String) :
    names.items <+: (names.insertAll more).items := by
  induction more generalizing names with
  | nil => exact List.prefix_rfl
  | cons name rest ih => exact (prefix_insert names name).trans (ih _)

theorem mem_of_mem_insertAll {names : NameList} {more : List String} {name : String}
    (h : name ∈ (names.insertAll more).items) : name ∈ names.items ∨ name ∈ more := by
  induction more generalizing names with
  | nil => exact .inl h
  | cons first rest ih =>
    obtain hinserted | hrest := ih h
    · rw [items_insert] at hinserted
      split at hinserted
      · exact .inl hinserted
      · obtain hold | hfirst := List.mem_append.1 hinserted
        · exact .inl hold
        · exact .inr (List.mem_singleton.1 hfirst ▸ List.mem_cons_self)
    · exact .inr (List.mem_cons_of_mem _ hrest)

theorem items_insertAll_of_nodup (names : NameList) {more : List String}
    (h : ((names.items ++ more).map Text.fold).Nodup) :
    (names.insertAll more).items = names.items ++ more := by
  induction more generalizing names with
  | nil => exact (List.append_nil _).symm
  | cons name rest ih =>
    have hfresh : ¬names.contains name := by
      rw [List.map_append, List.nodup_append] at h
      simp only [contains, List.contains_iff_mem]
      exact fun hmem => h.2.2 _ hmem _ List.mem_cons_self rfl
    have hinsert : (names.insert name).items = names.items ++ [name] := by
      rw [items_insert, if_neg hfresh]
    have hrest := ih (names.insert name)
    rw [hinsert, List.append_assoc, List.singleton_append] at hrest
    exact hrest h

/-- Names of which no two are spellings of one stay as they are. -/
theorem items_ofList_eq_self_iff {names : List String} :
    (ofList names).items = names ↔ (names.map Text.fold).Nodup :=
  ⟨fun h => h ▸ (ofList names).nodup, items_insertAll_of_nodup empty⟩

theorem head?_items_ofList (names : List String) : (ofList names).items.head? = names.head? := by
  cases names with
  | nil => rfl
  | cons name rest =>
    have hfirst : (empty.insert name).items = [name] := by simp [items_insert, contains]
    obtain ⟨more, hmore⟩ := prefix_insertAll (empty.insert name) rest
    rw [hfirst] at hmore
    show ((empty.insert name).insertAll rest).items.head? = some name
    rw [← hmore]
    rfl

end NameList

end WebCoverage
