import WebCoverage.Layer

/-! Metadata as a map whose keys may be spelled in any case. What is found under a key is the value
that was configured last for one of its spellings (`Metadata.maps_any_case`). An index of two tables
that are filled while values are put one after the other finds the same (`Metadata.Index`). -/

namespace WebCoverage

namespace Assoc

variable {κ β : Type} [DecidableEq κ]

theorem lookup_put (key other : κ) (value : β) (entries : List (κ × β)) :
    (put key value entries).lookup other =
      if other = key then some value else entries.lookup other := by
  have hcons (entry : κ × β) (rest : List (κ × β)) :
      (entry :: rest).lookup other = if other = entry.1 then some entry.2 else rest.lookup other := by
    by_cases h : other = entry.1
    · rw [List.lookup_cons, h, beq_self_eq_true, if_pos rfl]
    · rw [List.lookup_cons, beq_false_of_ne h, if_neg h]
  induction entries with
  | nil => exact hcons _ _
  | cons entry rest ih =>
    by_cases hfirst : entry.1 = key
    · rw [put, if_pos hfirst, hcons, hcons, hfirst]
      split <;> rfl
    · rw [put, if_neg hfirst, hcons, hcons, ih]
      by_cases h : other = entry.1
      · rw [if_pos h, if_pos h, if_neg (h ▸ hfirst)]
      · rw [if_neg h, if_neg h]

end Assoc

namespace Metadata

variable {β : Type} {metadata : Metadata} {members : List (String × Json)} {key name : String}

/-! ## What is configured -/

/-- The members of a mapping, with the texts of their values. -/
def texts (members : List (String × Json)) : List (String × String) :=
  members.map fun member => (member.1, member.2.text)

/-- The metadata that a mapping is read as. -/
def ofMembers (members : List (String × Json)) : Metadata :=
  ofPairs (texts members)

/-- Of the members under spellings of a key `member` is the last. -/
def LastSpelled (key : String) (member : String × β) (members : List (String × β)) : Prop :=
  ∃ before after, members = before ++ member :: after ∧ Text.sameLower member.1 key ∧
    ∀ later ∈ after, Text.sameLower later.1 key = false

theorem find?_reverse_eq_some_iff {members : List (String × β)} {member : String × β} :
    (members.reverse.find? fun entry => Text.sameLower entry.1 key) = some member ↔
      LastSpelled key member members := by
  rw [List.find?_eq_some_iff_append]
  constructor
  · rintro ⟨hkey, before, after, hmembers, hbefore⟩
    refine ⟨after.reverse, before.reverse, ?_, hkey, ?_⟩
    · rw [← List.reverse_reverse members, hmembers]
      simp
    · intro later hlater
      simpa using hbefore later (List.mem_reverse.1 hlater)
  · rintro ⟨before, after, rfl, hkey, hafter⟩
    refine ⟨hkey, after.reverse, before.reverse, by simp, ?_⟩
    intro later hlater
    simpa using hafter later (List.mem_reverse.1 hlater)

theorem map_fst_texts (members : List (String × Json)) :
    (texts members).map Prod.fst = members.map Prod.fst := by
  rw [texts, List.map_map]
  rfl

/-- No two members of a mapping have the same key, so all of them are kept. -/
theorem entries_ofMembers (h : (members.map Prod.fst).Nodup) :
    (ofMembers members).entries = texts members :=
  Assoc.ofPairs_of_nodup (map_fst_texts members ▸ h)

theorem keys_ofMembers (h : (members.map Prod.fst).Nodup) :
    (ofMembers members).keys = members.map Prod.fst := by
  rw [keys, entries_ofMembers h, map_fst_texts]

theorem get?_ofMembers (h : (members.map Prod.fst).Nodup) (key : String) :
    (ofMembers members).get? key =
      (members.reverse.find? fun member => Text.sameLower member.1 key).map (·.2.text) := by
  rw [get?, entries_ofMembers h, texts, ← List.map_reverse, List.find?_map, Option.map_map]
  rfl

theorem get?_ofMembers_eq_some_iff (h : (members.map Prod.fst).Nodup) {value : String} :
    (ofMembers members).get? key = some value ↔
      ∃ member, LastSpelled key member members ∧ member.2.text = value := by
  rw [get?_ofMembers h, Option.map_eq_some_iff]
  simp only [find?_reverse_eq_some_iff]

theorem get?_ofMembers_eq_none_iff (h : (members.map Prod.fst).Nodup) :
    (ofMembers members).get? key = none ↔
      ∀ member ∈ members, Text.sameLower member.1 key = false := by
  rw [get?_ofMembers h, Option.map_eq_none_iff, List.find?_eq_none]
  simp

theorem contains_of_mem_keys (h : key ∈ metadata.keys) : metadata.contains key := by
  obtain ⟨entry, hentry, rfl⟩ := List.mem_map.1 h
  cases hcontains : metadata.contains entry.1 with
  | true => rfl
  | false =>
    have hother := not_contains_iff.1 hcontains entry hentry
    rw [Text.sameLower, beq_self_eq_true] at hother
    cases hother

/-! ## An index -/

/-- Values by the spellings of their keys, and for each key in lower case the spelling that was put
last. -/
structure Index where
  values : List (String × String)
  spellings : List (String × String)
  spelled : ∀ entry ∈ spellings, Text.lower entry.2 = entry.1

namespace Index

def empty : Index :=
  ⟨[], [], fun _ h => absurd h List.not_mem_nil⟩

def put (index : Index) (key value : String) : Index where
  values := Assoc.put key value index.values
  spellings := Assoc.put (Text.lower key) key index.spellings
  spelled entry hentry := by
    obtain rfl | hold := Assoc.mem_of_mem_put hentry
    · rfl
    · exact index.spelled entry hold

def putAll (index : Index) (pairs : List (String × String)) : Index :=
  pairs.foldl (fun index pair => index.put pair.1 pair.2) index

/-- Looks up the spelling of a key, and then the value under this spelling. -/
def get? (index : Index) (key : String) : Option String :=
  (index.spellings.lookup (Text.lower key)).bind fun spelling => index.values.lookup spelling

/-- A new value is found under all spellings of its key, and all other keys stay as they were. -/
theorem get?_put (index : Index) (key value other : String) :
    (index.put key value).get? other =
      if Text.sameLower key other then some value else index.get? other := by
  rw [get?, put]
  dsimp only
  rw [Assoc.lookup_put]
  by_cases hsame : Text.lower other = Text.lower key
  · have hkey : Text.sameLower key other := by simp [Text.sameLower, hsame]
    rw [if_pos hsame, if_pos hkey, Option.bind_some, Assoc.lookup_put, if_pos rfl]
  · have hkey : ¬Text.sameLower key other := by simpa [Text.sameLower] using Ne.symm hsame
    rw [if_neg hsame, if_neg hkey, get?]
    cases hspelling : index.spellings.lookup (Text.lower other) with
    | none => rfl
    | some spelling =>
      -- The spelling belongs to the other key, so the new value is not under it.
      obtain ⟨before, after, hspellings, -⟩ := List.lookup_eq_some_iff.1 hspelling
      have hlower : Text.lower spelling = Text.lower other :=
        index.spelled (Text.lower other, spelling) (by simp [hspellings])
      have hne : spelling ≠ key := by
        rintro rfl
        exact hsame hlower.symm
      rw [Option.bind_some, Option.bind_some, Assoc.lookup_put, if_neg hne]

theorem get?_putAll (index : Index) (pairs : List (String × String)) (key : String) :
    (index.putAll pairs).get? key =
      ((pairs.reverse.find? fun pair => Text.sameLower pair.1 key).map Prod.snd).or
        (index.get? key) := by
  induction pairs generalizing index with
  | nil => rfl
  | cons pair rest ih =>
    have hstep : index.putAll (pair :: rest) = (index.put pair.1 pair.2).putAll rest := rfl
    rw [hstep, ih, get?_put, List.reverse_cons, List.find?_append, Option.map_or]
    by_cases hpair : Text.sameLower pair.1 key
    · simp [hpair]
    · simp [hpair]

end Index

/-- An index that is filled with all members of a mapping finds what the metadata finds. -/
theorem get?_index (h : (members.map Prod.fst).Nodup) (key : String) :
    (Index.empty.putAll (texts members)).get? key = (ofMembers members).get? key := by
  have hempty : Index.empty.get? key = none := rfl
  rw [Index.get?_putAll, hempty, Option.or_none, get?, entries_ofMembers h]

/-! ## Namespaces -/

/-- A namespace of the codes has a value for a name, and no namespace before it has one. Codes of no
namespace do not count. -/
def FirstValue (metadata : Metadata) (codes name value : String) : Prop :=
  ∃ before code after start, codes.toList = before ++ code :: after ∧
    namespaceStart? code = some start ∧ metadata.get? (start ++ name) = some value ∧
    ∀ earlier ∈ before, ∀ other ∈ namespaceStart? earlier, metadata.contains (other ++ name) = false

/-- No namespace of the codes has a value for a name. -/
def Valueless (metadata : Metadata) (codes name : String) : Prop :=
  ∀ code ∈ codes.toList, ∀ start ∈ namespaceStart? code, metadata.contains (start ++ name) = false

private theorem bind_get?_eq_none_iff {code : Char} :
    ((namespaceStart? code).bind fun start => metadata.get? (start ++ name)) = none ↔
      ∀ start ∈ namespaceStart? code, metadata.contains (start ++ name) = false := by
  cases namespaceStart? code <;> simp [contains]

theorem lookup?_eq_some_iff {codes value : String} :
    metadata.lookup? codes name = some value ↔ metadata.FirstValue codes name value := by
  rw [lookup?, List.findSome?_eq_some_iff]
  simp only [bind_get?_eq_none_iff, Option.bind_eq_some_iff]
  constructor
  · rintro ⟨before, code, after, hcodes, ⟨start, hstart, hvalue⟩, hbefore⟩
    exact ⟨before, code, after, start, hcodes, hstart, hvalue, hbefore⟩
  · rintro ⟨before, code, after, start, hcodes, hstart, hvalue, hbefore⟩
    exact ⟨before, code, after, hcodes, ⟨start, hstart, hvalue⟩, hbefore⟩

theorem lookup?_eq_none_iff {codes : String} :
    metadata.lookup? codes name = none ↔ metadata.Valueless codes name := by
  rw [lookup?, List.findSome?_eq_none_iff]
  simp only [bind_get?_eq_none_iff]
  rfl

theorem lookup?_or_eq_iff {codes : String} {default answer : Option String} :
    (metadata.lookup? codes name).or default = answer ↔
      (∃ value, metadata.FirstValue codes name value ∧ answer = some value) ∨
        metadata.Valueless codes name ∧ answer = default := by
  rw [← lookup?_eq_none_iff]
  simp only [← lookup?_eq_some_iff]
  cases metadata.lookup? codes name <;> simp [eq_comm]

/-! ## Copies -/

theorem map_fst_toList (metadata : Metadata) : metadata.toList.map Prod.fst = metadata.keys := by
  rw [toList, List.map_map]
  exact List.map_id' _

theorem entries_copy (metadata : Metadata) : metadata.copy.entries = metadata.toList :=
  Assoc.ofPairs_of_nodup ((map_fst_toList metadata).symm ▸ metadata.nodup)

theorem keys_copy (metadata : Metadata) : metadata.copy.keys = metadata.keys := by
  rw [keys, entries_copy, map_fst_toList]

/-- A copy holds what lookups find, under every spelling of a key. -/
theorem get?_copy (metadata : Metadata) (key : String) :
    metadata.copy.get? key = metadata.get? key := by
  rw [get?, entries_copy, toList, keys, List.map_map, ← List.map_reverse, List.find?_map,
    Option.map_map]
  cases hfound : metadata.entries.reverse.find? fun entry => Text.sameLower entry.1 key with
  | none => simp [Function.comp_def, hfound, get?]
  | some entry =>
    have hget : metadata.get? key = some entry.2 := by rw [get?, hfound, Option.map_some]
    have hsame : Text.sameLower entry.1 key := by simpa using List.find?_some hfound
    have hspelled : metadata.get? entry.1 = metadata.get? key := get?_congr hsame
    simp [Function.comp_def, hfound, hspelled, hget]

/-- Metadata that is read from a mapping has its keys in their order, and under each of them, in any
case, the text of the value that was configured last. All that has been configured is found. Lookups
go by the first namespace that has a value, a copy has the same values under the same keys, and
defaults are found where there is no value of the metadata's own. -/
theorem maps_any_case {members : List (String × Json)} (h : (members.map Prod.fst).Nodup) :
    ((ofMembers members).keys = members.map Prod.fst ∧
      (∀ key value, (ofMembers members).get? key = some value ↔
        ∃ member, LastSpelled key member members ∧ member.2.text = value) ∧
      (∀ key, (ofMembers members).get? key = none ↔
        ∀ member ∈ members, Text.sameLower member.1 key = false) ∧
      ∀ key, (Index.empty.putAll (texts members)).get? key = (ofMembers members).get? key) ∧
    ∀ metadata : Metadata,
      (∀ key ∈ metadata.keys, metadata.contains key) ∧
      (∀ codes name default answer, (metadata.lookup? codes name).or default = answer ↔
        (∃ value, metadata.FirstValue codes name value ∧ answer = some value) ∨
          metadata.Valueless codes name ∧ answer = default) ∧
      (metadata.copy.keys = metadata.keys ∧ ∀ key, metadata.copy.get? key = metadata.get? key) ∧
      ∀ key, (metadata.withDefaults (texts members)).get? key =
        (metadata.get? key).or ((ofMembers members).get? key) := by
  refine ⟨⟨keys_ofMembers h, ?_, ?_, get?_index h⟩, ?_⟩
  · intro key value
    exact get?_ofMembers_eq_some_iff h
  · intro key
    exact get?_ofMembers_eq_none_iff h
  · intro metadata
    refine ⟨?_, ?_, ⟨keys_copy metadata, get?_copy metadata⟩, ?_⟩
    · intro key hkey
      exact contains_of_mem_keys hkey
    · intro codes name default answer
      exact lookup?_or_eq_iff
    · exact get?_withDefaults ((map_fst_texts members).symm ▸ h)

/-- Titles under two spellings of one key and under a key of another namespace. -/
def mixedTitles : List (String × Json) :=
  [("wcs_title", .string "Heights"), ("WCS_Title", .integer 7), ("ows_title", .string "Maps")]

theorem maps_any_case_mixedTitles :
    (mixedTitles.map Prod.fst).Nodup ∧
      (ofMembers mixedTitles).get? "wcs_TITLE" = some "7" ∧
      (ofMembers mixedTitles).lookup? "xOc" "title" = some "Maps" ∧
      (ofMembers mixedTitles).copy.get? "wcs_title" = some "7" ∧
      ((ofPairs [("Ows_Title", "Plans")]).withDefaults (texts mixedTitles)).get? "ows_title" =
        some "Plans" ∧
      ((ofPairs [("Ows_Title", "Plans")]).withDefaults (texts mixedTitles)).get? "wcs_title" =
        some "7" := by
  have hnodup : (mixedTitles.map Prod.fst).Nodup := by decide
  obtain ⟨⟨-, hsome, -, -⟩, hmetadata⟩ := maps_any_case hnodup
  have hlast (key : String) (hkey : Text.sameLower "WCS_Title" key)
      (hother : Text.sameLower "ows_title" key = false) :
      (ofMembers mixedTitles).get? key = some "7" :=
    (hsome key "7").2 ⟨("WCS_Title", .integer 7),
      ⟨[("wcs_title", .string "Heights")], [("ows_title", .string "Maps")], rfl, hkey,
        by simpa using hother⟩, rfl⟩
  have hseven : (ofMembers mixedTitles).get? "wcs_title" = some "7" :=
    hlast _ (by decide +kernel) (by decide +kernel)
  obtain ⟨-, hlookup, ⟨-, hcopy⟩, -⟩ := hmetadata (ofMembers mixedTitles)
  obtain ⟨-, -, -, hdefaults⟩ := hmetadata (ofPairs [("Ows_Title", "Plans")])
  refine ⟨hnodup, hlast _ (by decide +kernel) (by decide +kernel), ?_, ?_, ?_, ?_⟩
  · decide +kernel
  · rw [hcopy, hseven]
  · rw [hdefaults]
    decide +kernel
  · rw [hdefaults, hseven]
    decide +kernel

end Metadata

end WebCoverage
