import WebCoverage.RangeSet

/-! Lookups in metadata by names. A lookup goes by one entry, the source of the name, and does not
see the others: not those under keys of no namespace that is looked in, nor those that an earlier
namespace or a later spelling of the same key keeps from being found (`Metadata.Unseen`). -/

namespace WebCoverage.Metadata

variable {metadata first second : Metadata} {entry : String × String} {key name : String}
  {keep : String → Bool}

/-- What the keys of a name start with, in the order in which lookups try them. -/
def starts : List String := ["wcs_", "ows_", "wms_"]

/-- The entry that has the value of a key. -/
def slot? (metadata : Metadata) (key : String) : Option (String × String) :=
  metadata.entries.reverse.find? fun entry => Text.sameLower entry.1 key

/-- The entry that a lookup of a name goes by. -/
def source? (metadata : Metadata) (name : String) : Option (String × String) :=
  starts.findSome? fun start => metadata.slot? (start ++ name)

theorem find?_eq_map_source? : metadata.find? name = (metadata.source? name).map Prod.snd := by
  rw [source?, List.map_findSome?]
  rfl

/-! ## Names in lower case -/

/-- A start is in lower case, and what stands after it does not depend on it. -/
theorem lower_start {start : String} (h : start ∈ starts) (name : String) :
    Text.lower (start ++ name) = start ++ Text.lower name := by
  have hword : ∃ word : String, word.toList.all Text.isSmall ∧ start = word ++ "_" := by
    simp only [starts, List.mem_cons, List.not_mem_nil, or_false] at h
    obtain rfl | rfl | rfl := h
    · exact ⟨"wcs", by decide, rfl⟩
    · exact ⟨"ows", by decide, rfl⟩
    · exact ⟨"wms", by decide, rfl⟩
  obtain ⟨word, hsmall, rfl⟩ := hword
  exact Text.lower_append_underscore hsmall name

theorem length_start {start : String} (h : start ∈ starts) : start.toList.length = 4 := by
  revert start
  decide

/-- Keys of names are the same in lower case only for the same start and the same name. -/
theorem lower_start_inj {start start' name' : String} (h : start ∈ starts) (h' : start' ∈ starts) :
    Text.lower (start ++ name) = Text.lower (start' ++ name') ↔
      start = start' ∧ Text.lower name = Text.lower name' := by
  rw [lower_start h, lower_start h']
  refine ⟨fun heq => ?_, fun ⟨hstart, hname⟩ => by rw [hstart, hname]⟩
  rw [← String.toList_inj, String.toList_append, String.toList_append] at heq
  obtain ⟨hstart, hname⟩ := List.append_inj heq ((length_start h).trans (length_start h').symm)
  exact ⟨String.toList_inj.1 hstart, String.toList_inj.1 hname⟩

/-! ## Entries that lookups do not see -/

/-- Why lookups of names do not see the entry under a key. -/
inductive Unseen (metadata : Metadata) (key : String) : Prop where
  /-- The key is in no namespace that is looked in. -/
  | foreign (h : ∀ start ∈ starts, ¬start.toList <+: (Text.lower key).toList)
  /-- The name has a value in a namespace that is tried before. -/
  | shadowed (start earlier name : String) (hstart : start ∈ starts)
      (hkey : Text.sameLower key (start ++ name))
      (hearlier : earlier ∈ starts.takeWhile (· ≠ start))
      (h : metadata.contains (earlier ++ name))
  /-- The key is spelled otherwise in a later entry. -/
  | respelled (before : List (String × String)) {after : List (String × String)} {value : String}
      {later : String × String} (hentries : metadata.entries = before ++ (key, value) :: after)
      (hlater : later ∈ after) (h : Text.sameLower later.1 key)

theorem slot?_congr {other : String} (h : Text.lower key = Text.lower other) :
    metadata.slot? key = metadata.slot? other := by
  unfold slot? Text.sameLower
  rw [h]

theorem contains_eq_isSome_slot? : metadata.contains key = (metadata.slot? key).isSome := by
  rw [contains, get?, Option.isSome_map]
  rfl

/-- Of several spellings of a key the last is found. -/
theorem ne_of_slot? {before after : List (String × String)} {value other : String}
    {later : String × String} (hentries : metadata.entries = before ++ (key, value) :: after)
    (hlater : later ∈ after) (hspelled : Text.sameLower later.1 key)
    (h : metadata.slot? other = some entry) : entry.1 ≠ key := by
  rintro rfl
  have hsame := List.find?_some h
  have hkeys := metadata.nodup
  rw [hentries, List.map_append, List.map_cons, List.nodup_append, List.nodup_cons] at hkeys
  -- Entries are searched from the last one on, so the later spelling is met before this one.
  have hisSome : (after.reverse.find? fun entry => Text.sameLower entry.1 other).isSome := by
    rw [List.find?_isSome]
    refine ⟨later, List.mem_reverse.2 hlater, ?_⟩
    simp only [Text.sameLower, beq_iff_eq] at hspelled hsame ⊢
    exact hspelled.trans hsame
  obtain ⟨found, hfound⟩ := Option.isSome_iff_exists.1 hisSome
  have heq : some found = some entry := by
    rw [← h, slot?, hentries, List.reverse_append, List.reverse_cons, List.append_assoc,
      List.find?_append, hfound]
    rfl
  cases heq
  have hmem := List.mem_reverse.1 (List.mem_of_find?_eq_some hfound)
  exact hkeys.2.1.1 (List.mem_map.2 ⟨entry, hmem, rfl⟩)

theorem mem_of_mem_takeWhile_ne {α : Type} [DecidableEq α] {before after : List α} {a b : α}
    (h : b ∈ (before ++ a :: after).takeWhile (· ≠ a)) : b ∈ before := by
  induction before with
  | nil => simp at h
  | cons first rest ih =>
    rw [List.cons_append, List.takeWhile_cons] at h
    split at h
    · rcases List.mem_cons.1 h with rfl | h
      · exact List.mem_cons_self
      · exact List.mem_cons_of_mem _ (ih h)
    · cases h

/-- The source of a name is seen. -/
theorem not_unseen_of_source? (h : metadata.source? name = some entry) :
    ¬metadata.Unseen entry.1 := by
  obtain ⟨before, start, after, hstarts, hentry, hnone⟩ := List.findSome?_eq_some_iff.1 h
  have hstart : start ∈ starts := by
    rw [hstarts]
    exact List.mem_append_right _ List.mem_cons_self
  have hsame : Text.lower entry.1 = Text.lower (start ++ name) := by
    simpa [Text.sameLower] using List.find?_some hentry
  intro hunseen
  cases hunseen with
  | foreign hforeign =>
    apply hforeign start hstart
    rw [hsame, lower_start hstart, String.toList_append]
    exact List.prefix_append _ _
  | shadowed _ _ _ hstart' hkey hearlier hcontains =>
    -- The lookup tried the earlier namespace before and found nothing there.
    obtain ⟨rfl, hname⟩ := (lower_start_inj hstart hstart').1
      (hsame.symm.trans (by simpa [Text.sameLower] using hkey))
    have htried := List.takeWhile_subset _ hearlier
    have hother := (lower_start_inj htried htried).2 ⟨rfl, hname⟩
    rw [hstarts] at hearlier
    rw [contains_eq_isSome_slot?, ← slot?_congr hother,
      hnone _ (mem_of_mem_takeWhile_ne hearlier)] at hcontains
    cases hcontains
  | respelled _ hentries hlater hspelled => exact ne_of_slot? hentries hlater hspelled hentry rfl

/-- The entries under the keys that are kept. -/
def filterKeys (metadata : Metadata) (keep : String → Bool) : Metadata :=
  ⟨metadata.entries.filter fun entry => keep entry.1,
    metadata.nodup.sublist (List.filter_sublist.map _)⟩

theorem slot?_filterKeys : (metadata.filterKeys keep).slot? key =
    metadata.entries.reverse.find? fun entry => keep entry.1 && Text.sameLower entry.1 key := by
  rw [slot?, filterKeys, ← List.filter_reverse, List.find?_filter]
  simp only [Bool.decide_and, Bool.decide_eq_true]

theorem slot?_filterKeys_of_none (h : metadata.slot? key = none) :
    (metadata.filterKeys keep).slot? key = none := by
  rw [slot?_filterKeys, List.find?_eq_none]
  intro entry hentry hkeep
  exact List.find?_eq_none.1 h entry hentry (Bool.and_eq_true_iff.1 hkeep).2

theorem slot?_filterKeys_of_some (h : metadata.slot? key = some entry) (hkeep : keep entry.1) :
    (metadata.filterKeys keep).slot? key = some entry := by
  obtain ⟨hsame, before, after, hentries, hbefore⟩ := List.find?_eq_some_iff_append.1 h
  rw [slot?_filterKeys, List.find?_eq_some_iff_append]
  refine ⟨Bool.and_eq_true_iff.2 ⟨hkeep, hsame⟩, before, after, hentries, fun other hother => ?_⟩
  rw [Bool.not_and, hbefore other hother, Bool.or_true]

/-- What lookups find does not depend on the entries that they do not see. -/
theorem find?_filterKeys
    (h : ∀ entry ∈ metadata.entries, keep entry.1 = false → metadata.Unseen entry.1) :
    (metadata.filterKeys keep).find? name = metadata.find? name := by
  rw [find?_eq_map_source?, find?_eq_map_source?]
  apply congrArg (Option.map Prod.snd)
  cases hsource : metadata.source? name with
  | none =>
    rw [source?, List.findSome?_eq_none_iff] at hsource ⊢
    intro start hstart
    exact slot?_filterKeys_of_none (hsource start hstart)
  | some entry =>
    obtain ⟨before, start, after, hstarts, hentry, hnone⟩ := List.findSome?_eq_some_iff.1 hsource
    have hmem := List.mem_reverse.1 (List.mem_of_find?_eq_some hentry)
    have hkeep : keep entry.1 := by
      cases hleft : keep entry.1 with
      | true => rfl
      | false => exact absurd (h entry hmem hleft) (not_unseen_of_source? hsource)
    exact List.findSome?_eq_some_iff.2 ⟨before, start, after, hstarts,
      slot?_filterKeys_of_some hentry hkeep,
      fun earlier hearlier => slot?_filterKeys_of_none (hnone earlier hearlier)⟩

/-- Keys may be spelled in any case. -/
theorem find?_eq_of_lower
    (h : (first.entries.map fun entry => (Text.lower entry.1, entry.2)) =
      second.entries.map fun entry => (Text.lower entry.1, entry.2)) :
    first.find? name = second.find? name := by
  have hget (metadata : Metadata) (key : String) : metadata.get? key =
      ((metadata.entries.map fun entry => (Text.lower entry.1, entry.2)).reverse.find?
        fun entry => entry.1 == Text.lower key).map Prod.snd := by
    rw [← List.map_reverse, List.find?_map, Option.map_map]
    rfl
  have hkeys : first.get? = second.get? := by
    funext key
    rw [hget, hget, h]
  unfold find? lookup?
  rw [hkeys]

end WebCoverage.Metadata
