import WebCoverage.Assoc
import WebCoverage.Text.Lower
import WebCoverage.Text.Quoted

/-! Metadata of maps and layers: texts under keys that keep the spelling in which they were
configured and are found in any case. A lookup by namespaces tries a name under the key words of
several specifications in turn. -/

namespace WebCoverage

structure Metadata where
  entries : List (String × String)
  nodup : (entries.map Prod.fst).Nodup

namespace Metadata

/-- Of equal keys the last value stays, at the place of the first. -/
def ofPairs (pairs : List (String × String)) : Metadata :=
  ⟨Assoc.ofPairs pairs, Assoc.nodup_ofPairs pairs⟩

def empty : Metadata := ofPairs []

/-- The value under the spelling of a key that was configured last. -/
def get? (metadata : Metadata) (key : String) : Option String :=
  (metadata.entries.reverse.find? fun entry => Text.sameLower entry.1 key).map Prod.snd

def contains (metadata : Metadata) (key : String) : Bool :=
  (metadata.get? key).isSome

def keys (metadata : Metadata) : List String :=
  metadata.entries.map Prod.fst

def size (metadata : Metadata) : Nat :=
  metadata.entries.length

/-- Every key with the value that a lookup of it finds. -/
def toList (metadata : Metadata) : List (String × String) :=
  metadata.keys.map fun key => (key, (metadata.get? key).getD "")

/-- A copy holds what lookups in the source find. -/
def copy (metadata : Metadata) : Metadata :=
  ofPairs metadata.toList

/-- What the keys of a namespace start with, by the letter that stands for the namespace. Small
letters stand for capitals, the long s with them. -/
def namespaceStart? (letter : Char) : Option String :=
  match if letter.toNat = 0x17F then 'S' else letter.toUpper with
  | 'C' => some "wcs_"
  | 'O' => some "ows_"
  | 'M' => some "wms_"
  | 'F' => some "wfs_"
  | 'G' => some "gml_"
  | 'S' => some "sos_"
  | _ => none

/-- The value of a name in the first namespace that has it. Letters of no namespace are passed
over. -/
def lookup? (metadata : Metadata) (namespaces name : String) : Option String :=
  namespaces.toList.findSome? fun letter =>
    (namespaceStart? letter).bind fun start => metadata.get? (start ++ name)

/-- The lookup that everything served goes through: coverage, common and map service keys. -/
def find? (metadata : Metadata) (name : String) : Option String :=
  metadata.lookup? "COM" name

/-- The value of a name, if it is not empty. -/
def filled? (metadata : Metadata) (name : String) : Option String :=
  (metadata.find? name).filter (!·.isEmpty)

/-- A copy with values for the keys that are not there, which come first. -/
def withDefaults (metadata : Metadata) (defaults : List (String × String)) : Metadata :=
  ofPairs ((defaults.filter fun entry => !metadata.contains entry.1) ++ metadata.entries)

theorem not_contains_iff {metadata : Metadata} {key : String} :
    metadata.contains key = false ↔
      ∀ entry ∈ metadata.entries, Text.sameLower entry.1 key = false := by
  simp [contains, get?]

/-- Only the keys that were not there come with the defaults. -/
theorem entries_withDefaults {metadata : Metadata} {defaults : List (String × String)}
    (h : (defaults.map Prod.fst).Nodup) :
    (metadata.withDefaults defaults).entries =
      (defaults.filter fun entry => !metadata.contains entry.1) ++ metadata.entries := by
  refine Assoc.ofPairs_of_nodup ?_
  rw [List.map_append, List.nodup_append]
  refine ⟨h.sublist (List.filter_sublist.map _), metadata.nodup, ?_⟩
  rintro key hkey other hother rfl
  obtain ⟨entry, hentry, rfl⟩ := List.mem_map.1 hkey
  obtain ⟨present, hpresent, heq⟩ := List.mem_map.1 hother
  have habsent := not_contains_iff.1 (by simpa using (List.mem_filter.1 hentry).2) present hpresent
  rw [heq, Text.sameLower, beq_self_eq_true] at habsent
  cases habsent

theorem get?_congr {metadata : Metadata} {key other : String} (h : Text.sameLower key other) :
    metadata.get? key = metadata.get? other := by
  have heq : Text.lower key = Text.lower other := by simpa [Text.sameLower] using h
  unfold get? Text.sameLower
  rw [heq]

/-- What metadata has itself comes before the defaults. -/
theorem get?_withDefaults {metadata : Metadata} {defaults : List (String × String)}
    (h : (defaults.map Prod.fst).Nodup) (key : String) :
    (metadata.withDefaults defaults).get? key =
      (metadata.get? key).or ((ofPairs defaults).get? key) := by
  have hdefaults : (ofPairs defaults).entries = defaults := Assoc.ofPairs_of_nodup h
  cases hown : metadata.entries.reverse.find? fun entry => Text.sameLower entry.1 key with
  | some entry =>
    rw [get?, entries_withDefaults h, List.reverse_append, List.find?_append, get?, hown]
    rfl
  | none =>
    have hnone : metadata.get? key = none := by rw [get?, hown]; rfl
    -- No spelling of the key is there, so no default for it is left out.
    have hkept (entry : String × String) :
        (!metadata.contains entry.1 && Text.sameLower entry.1 key) =
          Text.sameLower entry.1 key := by
      cases hsame : Text.sameLower entry.1 key with
      | true => simp [contains, get?_congr hsame, hnone]
      | false => rw [Bool.and_false]
    rw [hnone, Option.none_or, get?, entries_withDefaults h, List.reverse_append,
      List.find?_append, hown, Option.none_or, get?, hdefaults, ← List.filter_reverse,
      List.find?_filter]
    simp only [Bool.decide_and, Bool.decide_eq_true, hkept]

/-- Keys and values in quotes, as they were configured. -/
def shown (metadata : Metadata) : String :=
  let entries := metadata.entries.map fun entry =>
    Text.quoted entry.1 ++ ": " ++ Text.quoted entry.2
  "MetadataDictionary(\x7b" ++ ", ".intercalate entries ++ "\x7d)"

end Metadata

end WebCoverage
