import Mathlib.Data.List.Nodup
import WebCoverage.Proofs.Collected
import WebCoverage.Proofs.Crs.Code
import WebCoverage.Proofs.Crs.Native
import WebCoverage.Proofs.Grid.Resolution
import WebCoverage.Proofs.RangeSet
import WebCoverage.Proofs.Text.WordList

/-! Lists of reference systems. The URNs of a list are those that its tokens give, each once, and
they stand for themselves in a list of tokens, so that a list which is read again stays as it is
(`Crs.urns_canonical`). -/

namespace WebCoverage.Crs

variable {library : ProjectionLibrary} {projection : Option String} {metadata : Metadata}
  {tokens found : List String} {token urn : String}

/-! ## URNs -/

/-- What all URNs of reference systems start with. -/
def urnStart : String := "urn:ogc:def:crs:"

/-- A URN as a list of tokens can hold it. -/
structure IsUrn (urn : String) : Prop where
  start : urnStart.toList <+: urn.toList
  solid : ∀ c ∈ urn.toList, Text.isBlank c = false

theorem IsUrn.isWord (h : IsUrn urn) : Text.IsWord urn := by
  refine ⟨?_, h.solid⟩
  rintro rfl
  cases List.prefix_nil.1 h.start

/-- A text without blanks, as it is checked one character after the other. -/
theorem solid_of_all {text : List Char} (h : text.all fun c => !Text.isBlank c) :
    ∀ c ∈ text, Text.isBlank c = false := by
  simpa using h

theorem toList_epsgUrn (code : Nat) :
    (epsgUrn code).toList = "urn:ogc:def:crs:EPSG::".toList ++ Nat.toDigits 10 code := by
  have hdigits : toString (code : Int) = code.repr := rfl
  have hurn : epsgUrn code = "urn:ogc:def:crs:EPSG::" ++ toString (code : Int) := rfl
  rw [hurn, hdigits, Nat.repr_eq_ofList_toDigits, String.toList_append]
  exact congrArg _ String.toList_ofList

theorem isUrn_epsgUrn (code : Nat) : IsUrn (epsgUrn code) where
  start := by
    rw [toList_epsgUrn]
    exact List.prefix_append_of_prefix (by decide)
  solid := by
    rw [toList_epsgUrn]
    refine List.forall_mem_append.2 ⟨solid_of_all (by decide), ?_⟩
    intro c hc
    exact Text.isBlank_eq_false_of_isDigit (Nat.isDigit_of_mem_toDigits (by decide) (by decide) hc)

theorem isUrn_imageUrn : IsUrn imageUrn where
  start := by decide
  solid := solid_of_all (by decide)

/-- A URN is no code and not the name of the image system, so it is its own URN. -/
theorem urn?_of_isUrn (h : IsUrn urn) : urn? urn = .ok (some urn) := by
  obtain ⟨rest, hrest⟩ := h.start
  have hurn : urn = urnStart ++ String.ofList rest := by
    rw [← String.toList_inj, String.toList_append, String.toList_ofList, hrest]
  have hcode : epsgDigits? urn.toList = none := by
    rw [← hrest]
    rfl
  have himage : Text.lower urn ≠ "imagecrs" := by
    intro hlower
    -- The start of a URN is in small letters, so it is still there in lower case.
    have hstart : urnStart.toList <+: (Text.lower (urnStart ++ String.ofList rest)).toList :=
      Text.prefix_lower (by decide) (String.ofList rest)
    rw [← hurn, hlower] at hstart
    revert hstart
    decide
  have hstart : "urn:ogc:def:crs:".toList.isPrefixOf urn.toList :=
    List.isPrefixOf_iff_prefix.2 h.start
  rw [urn?, hcode]
  dsimp only
  rw [if_neg (by simpa using himage), if_pos hstart]

/-- The URN of a token is canonical, or the token is a URN itself. -/
theorem urn?_cases (h : urn? token = .ok (some urn)) :
    (∃ code : Nat, urn = epsgUrn code) ∨ urn = imageUrn ∨
      urn = token ∧ urnStart.toList <+: token.toList := by
  unfold urn? at h
  split at h
  · split at h
    · cases h
      exact .inl ⟨_, rfl⟩
    · cases h
  · split at h
    · cases h
      exact .inr (.inl rfl)
    · split at h
      · next hstart =>
        cases h
        exact .inr (.inr ⟨rfl, List.isPrefixOf_iff_prefix.1 hstart⟩)
      · cases h

/-! ## Tokens -/

/-- A definition has one token at most, which names a code. -/
theorem exists_of_mem_definitionTokens {definition : String}
    (h : library.definitionTokens definition = .ok tokens) (htoken : token ∈ tokens) :
    ∃ rest, token = "EPSG:" ++ rest := by
  unfold ProjectionLibrary.definitionTokens at h
  dsimp only at h
  split at h
  · cases h
    exact ⟨_, List.mem_singleton.1 htoken⟩
  · split at h
    · cases h
      exact ⟨_, List.mem_singleton.1 htoken⟩
    all_goals cases h <;> cases htoken

/-- Tokens that are listed are words, and the others are of a definition. -/
theorem isWord_or_of_mem_tokens (h : library.tokens projection metadata = .ok tokens)
    (htoken : token ∈ tokens) : Text.IsWord token ∨ ∃ rest, token = "EPSG:" ++ rest := by
  unfold ProjectionLibrary.tokens at h
  split at h
  · cases h
    exact .inl (Text.isWord_of_mem_wordList htoken)
  · refine .inr ?_
    split at h
    · split at h
      · cases h
        cases htoken
      · exact exists_of_mem_definitionTokens h htoken
    · cases h
      cases htoken

theorem isUrn_of_mem_tokens (htokens : library.tokens projection metadata = .ok tokens)
    (htoken : token ∈ tokens) (h : urn? token = .ok (some urn)) : IsUrn urn := by
  obtain ⟨code, rfl⟩ | rfl | ⟨rfl, hstart⟩ := urn?_cases h
  · exact isUrn_epsgUrn code
  · exact isUrn_imageUrn
  · obtain hword | ⟨rest, rfl⟩ := isWord_or_of_mem_tokens htokens htoken
    · exact ⟨hstart, hword.solid⟩
    · -- The token of a definition starts as a code does.
      rw [String.toList_append] at hstart
      obtain ⟨after, hafter⟩ := hstart
      cases hafter

/-! ## Lists -/

/-- The URN of a token that has one and can be read. -/
def urnOf? (token : String) : Option String :=
  (urn? token).toOption.join

theorem urn?_eq_ok_some_iff : urn? token = .ok (some urn) ↔ urnOf? token = some urn := by
  unfold urnOf?
  cases urn? token <;> simp [Except.toOption]

section

variable (htokens : library.tokens projection metadata = .ok tokens)

include htokens

theorem exists_given_of_urns (h : urns library projection metadata = .ok found) :
    ∃ given : List (Option String), tokens.map urn? = given.map .ok ∧
      (NameList.ofList (given.filterMap id)).items = found := by
  obtain ⟨_, hother, hgiven⟩ := urns_eq_ok_iff.1 h
  cases htokens.symm.trans hother
  exact hgiven

/-- The names of a list of reference systems are collected from its tokens. -/
theorem collects_of_urns (h : urns library projection metadata = .ok found) :
    NameList.Collects (fun token urn => urn? token = .ok (some urn)) tokens found := by
  obtain ⟨given, hgiven, rfl⟩ := exists_given_of_urns htokens h
  have hrow : given.filterMap id = tokens.filterMap urnOf? := by
    have hread : (given.map (Except.ok (ε := TokenFault))).filterMap (·.toOption.join) =
        given.filterMap id := by
      rw [List.filterMap_map]
      rfl
    rw [← hread, ← hgiven, List.filterMap_map]
    rfl
  have hgives : ∀ token urn, urn? token = .ok (some urn) ↔ urnOf? token = some urn :=
    fun _ _ => urn?_eq_ok_some_iff
  rw [hrow]
  exact NameList.collects_items_ofList hgives _

theorem exists_urn?_of_urns (h : urns library projection metadata = .ok found)
    (htoken : token ∈ tokens) : ∃ given, urn? token = .ok given := by
  obtain ⟨given, hgiven, -⟩ := exists_given_of_urns htokens h
  have hmem : urn? token ∈ given.map .ok := hgiven ▸ List.mem_map_of_mem htoken
  obtain ⟨result, -, hresult⟩ := List.mem_map.1 hmem
  exact ⟨result, hresult.symm⟩

theorem urn?_of_mem_tokens (h : urns library projection metadata = .ok found)
    (htoken : token ∈ tokens) {code : Nat} (hspells : SpellsCode token code) :
    urn? token = .ok (some (epsgUrn code)) := by
  obtain ⟨given, hgiven⟩ := exists_urn?_of_urns htokens h htoken
  rw [hgiven, urn?_of_spellsCode hspells hgiven]

theorem isUrn_of_urns (h : urns library projection metadata = .ok found) (hurn : urn ∈ found) :
    IsUrn urn := by
  obtain ⟨before, token, after, rfl, hgives, -⟩ := (collects_of_urns htokens h).first urn hurn
  have htoken : token ∈ before ++ token :: after :=
    List.mem_append_right _ List.mem_cons_self
  exact isUrn_of_mem_tokens htokens htoken hgives

end

/-! ## Lists that are read again -/

theorem tokens_of_listed (hwords : ∀ word ∈ tokens, Text.IsWord word) (hnonempty : tokens ≠ []) :
    library.tokens projection (Metadata.ofPairs [("wcs_srs", " ".intercalate tokens)]) =
      .ok tokens := by
  have hlist := Text.wordList_intercalate_of_isWord hwords
  have hget : (Metadata.ofPairs [("wcs_srs", " ".intercalate tokens)]).get? ("wcs_" ++ "srs") =
      some (" ".intercalate tokens) := by
    have hkey : "wcs_" ++ "srs" = "wcs_srs" := rfl
    simp [hkey, Metadata.get?, Metadata.ofPairs, Assoc.ofPairs, Assoc.put, Text.sameLower]
  have hfilled : (Metadata.ofPairs [("wcs_srs", " ".intercalate tokens)]).filled? "srs" =
      some (" ".intercalate tokens) := by
    rw [Metadata.filled?, Metadata.find?_of_get?_coverage hget, Option.filter_some_pos]
    rw [Bool.not_eq_true', String.isEmpty_eq_false_iff]
    intro hempty
    rw [hempty] at hlist
    exact hnonempty hlist.symm
  unfold ProjectionLibrary.tokens
  rw [hfilled]
  exact congrArg _ hlist

/-- A list of URNs is its own list of reference systems. -/
theorem urns_of_listed (hurns : ∀ urn ∈ found, IsUrn urn) (hdistinct : (found.map Text.fold).Nodup)
    (hnonempty : found ≠ []) :
    urns library projection (Metadata.ofPairs [("wcs_srs", " ".intercalate found)]) =
      .ok found := by
  have hwords : ∀ urn ∈ found, Text.IsWord urn := fun urn hurn => (hurns urn hurn).isWord
  refine urns_eq_ok_iff.2 ⟨found, tokens_of_listed hwords hnonempty, found.map some, ?_, ?_⟩
  · rw [List.map_map]
    exact List.map_congr_left fun urn hurn => urn?_of_isUrn (hurns urn hurn)
  · rw [List.filterMap_map, Function.id_comp, List.filterMap_some]
    exact NameList.items_ofList_eq_self_iff.2 hdistinct

/-! ## The list of reference systems -/

/-- An entry is what a token gives, up to the case of its letters. -/
def Yields (token entry : String) : Prop :=
  ∃ urn, urn? token = .ok (some urn) ∧ Text.fold urn = Text.fold entry

/-- All spellings of a code give one entry and no other. -/
theorem yields_of_spellsCode (htokens : library.tokens projection metadata = .ok tokens)
    (h : urns library projection metadata = .ok found) {code : Nat} {entry : String}
    (hentry : entry ∈ found) (hfold : Text.fold entry = Text.fold (epsgUrn code))
    (htoken : token ∈ tokens) (hspells : SpellsCode token code) (hurn : urn ∈ found) :
    Yields token urn ↔ urn = entry := by
  have hcode := urn?_of_mem_tokens htokens h htoken hspells
  have hyields : Yields token urn ↔ Text.fold (epsgUrn code) = Text.fold urn := by
    simp [Yields, hcode]
  rw [hyields, ← hfold, eq_comm]
  have hinjective := List.inj_on_of_nodup_map (collects_of_urns htokens h).distinct
  exact ⟨fun heq => hinjective hurn hentry heq, fun heq => congrArg _ heq⟩

/-- A list of reference systems holds URNs, those that its tokens give in their order and each once;
all spellings of a code give one entry; and the list is the one that its own entries give. -/
theorem urns_canonical (h : urns library projection metadata = .ok found) :
    (∀ urn ∈ found, "urn:ogc:def:crs:".toList <+: urn.toList) ∧
      (∃ tokens, library.tokens projection metadata = .ok tokens ∧
        NameList.Collects (fun token urn => urn? token = .ok (some urn)) tokens found ∧
        ∀ code, (∃ token ∈ tokens, SpellsCode token code) →
          ∃ entry ∈ found, ∀ token ∈ tokens, SpellsCode token code →
            ∀ urn ∈ found, Yields token urn ↔ urn = entry) ∧
      (found ≠ [] → ∀ other definition, urns other definition
        (Metadata.ofPairs [("wcs_srs", " ".intercalate found)]) = .ok found) := by
  obtain ⟨tokens, htokens, -⟩ := urns_eq_ok_iff.1 h
  have hcollects := collects_of_urns htokens h
  have hurns : ∀ urn ∈ found, IsUrn urn := fun urn hurn => isUrn_of_urns htokens h hurn
  refine ⟨fun urn hurn => (hurns urn hurn).start, ⟨tokens, htokens, hcollects, ?codes⟩, ?stable⟩
  case codes =>
    rintro code ⟨token, htoken, hspells⟩
    have hcode := urn?_of_mem_tokens htokens h htoken hspells
    obtain ⟨entry, hentry, hfold⟩ := hcollects.complete token htoken _ hcode
    refine ⟨entry, hentry, ?_⟩
    intro token htoken hspells urn hurn
    exact yields_of_spellsCode htokens h hentry hfold htoken hspells hurn
  case stable =>
    intro hnonempty other definition
    exact urns_of_listed hurns hcollects.distinct hnonempty

/-- One code spelt in two scripts, the image system, and a URN. -/
def mixedSystems : Metadata :=
  Metadata.ofPairs [("wcs_srs", "Epsg:4326 imageCRS EPSG:٠٤٣٢٦ urn:ogc:def:crs:EPSG::3857")]

/-- Both spellings of the code have its URN, which stands first, and the three URNs stand for
themselves. -/
theorem urns_canonical_mixedSystems :
    urns Grid.plainLibrary none mixedSystems =
        .ok ["urn:ogc:def:crs:EPSG::4326", imageUrn, "urn:ogc:def:crs:EPSG::3857"] ∧
      (∃ entry ∈ ["urn:ogc:def:crs:EPSG::4326", imageUrn, "urn:ogc:def:crs:EPSG::3857"],
        Yields "Epsg:4326" entry ∧ Yields "EPSG:٠٤٣٢٦" entry) ∧
      urns Grid.plainLibrary none (Metadata.ofPairs [("wcs_srs", " ".intercalate
          ["urn:ogc:def:crs:EPSG::4326", imageUrn, "urn:ogc:def:crs:EPSG::3857"])]) =
        .ok ["urn:ogc:def:crs:EPSG::4326", imageUrn, "urn:ogc:def:crs:EPSG::3857"] := by
  have hurns : urns Grid.plainLibrary none mixedSystems =
      .ok ["urn:ogc:def:crs:EPSG::4326", imageUrn, "urn:ogc:def:crs:EPSG::3857"] := by
    decide +kernel
  have htokens : Grid.plainLibrary.tokens none mixedSystems =
      .ok ["Epsg:4326", "imageCRS", "EPSG:٠٤٣٢٦", "urn:ogc:def:crs:EPSG::3857"] := by
    decide +kernel
  have hlatin : SpellsCode "Epsg:4326" 4326 :=
    ⟨"Epsg:", "4326".toList, [4, 3, 2, 6], by decide +kernel⟩
  have harabic : SpellsCode "EPSG:٠٤٣٢٦" 4326 :=
    ⟨"EPSG:", "٠٤٣٢٦".toList, [0, 4, 3, 2, 6], by decide +kernel⟩
  obtain ⟨-, ⟨tokens, hfound, -, hcodes⟩, hstable⟩ := urns_canonical hurns
  cases htokens.symm.trans hfound
  obtain ⟨entry, hentry, hspellings⟩ := hcodes 4326 ⟨"Epsg:4326", by decide, hlatin⟩
  refine ⟨hurns, ⟨entry, hentry, ?_, ?_⟩, hstable (List.cons_ne_nil _ _) _ _⟩
  · exact (hspellings _ (by decide) hlatin entry hentry).2 rfl
  · exact (hspellings _ (by decide) harabic entry hentry).2 rfl

end WebCoverage.Crs
