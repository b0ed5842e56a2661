import Mathlib.Data.List.Infix
import Mathlib.Data.List.TakeWhile
import WebCoverage.Crs.Urn
import WebCoverage.Text.Fold

/-! Tokens that spell EPSG codes. The word before a code may be in any case and its digits in any
script: what counts is the number that the digits stand for (`Crs.urn?_of_spellsCode`). -/

namespace WebCoverage

variable {c letter : Char} {letters word rest : List Char}

/-! ## Characters by their folded forms -/

namespace Text

/-- Why a character has its folded form. -/
inductive FoldsTo (c : Char) : List Char → Prop
  | ascii : c.toNat < 128 → FoldsTo c [c.toLower]
  | expansion {codes : List Nat} : (c.toNat, codes) ∈ foldExpansions →
      FoldsTo c (codes.map Char.ofNat)
  | run {run : CodeRun} {code : Nat} : run ∈ foldRuns → run.image? c.toNat = some code →
      FoldsTo c [Char.ofNat code]
  | self : 128 ≤ c.toNat → FoldsTo c [c]

theorem foldsTo_foldChar (c : Char) : FoldsTo c (foldChar c) := by
  unfold foldChar
  split
  · next hascii => exact .ascii hascii
  · next hascii =>
    split
    · next codes hcodes =>
      obtain ⟨before, after, htable, -⟩ := List.lookup_eq_some_iff.1 hcodes
      apply FoldsTo.expansion
      rw [htable]
      exact List.mem_append_right _ List.mem_cons_self
    · split
      · next code hcode =>
        obtain ⟨run, hrun, himage⟩ := List.exists_of_findSome?_eq_some hcode
        exact .run hrun himage
      · exact .self (Nat.le_of_not_lt hascii)

/-- No character is lost when a text is folded. -/
theorem FoldsTo.ne_nil {form : List Char} (h : FoldsTo c form) : form ≠ [] := by
  have hexpansions : ∀ entry ∈ foldExpansions, entry.2 ≠ [] := by decide +kernel
  cases h with
  | expansion hentry => exact fun hnil => hexpansions _ hentry (List.map_eq_nil_iff.1 hnil)
  | ascii | run | self => exact List.cons_ne_nil _ _

end Text

open Text

namespace Crs

/-- Of all runs of characters only those of the long s and of the Kelvin sign fold to ASCII. -/
private theorem run_target {run : CodeRun} (h : run ∈ foldRuns) (htarget : run.target < 128) :
    run.first = run.last ∧ (run.first = 0x17F ∧ run.target = 's'.toNat ∨
      run.target = 'k'.toNat) := by
  revert run
  decide +kernel

private theorem eq_toNat_of_ofNat_eq {code : Nat} (h : Char.ofNat code = letter)
    (hzero : letter ≠ Char.ofNat 0) : code = letter.toNat := by
  by_cases hvalid : code.isValidChar
  · have hchar : Char.ofNat code = Char.ofNatAux code hvalid := dif_pos hvalid
    rw [← h, hchar]
    rfl
  · exact absurd (h.symm.trans (dif_neg hvalid)) hzero

/-- Letters of ASCII to which, one after the other, nothing folds but their own cases. -/
structure FoldsAlone (letters : List Char) : Prop where
  ascii : ∀ letter ∈ letters, letter.toNat < 128 ∧ letter ≠ 'k' ∧ letter ≠ Char.ofNat 0
  alone : ∀ suffix, suffix <:+ letters → ∀ entry ∈ foldExpansions,
    ¬entry.2.map Char.ofNat <+: suffix

theorem FoldsAlone.tail (h : FoldsAlone (letter :: letters)) : FoldsAlone letters where
  ascii other hother := h.ascii other (List.mem_cons_of_mem _ hother)
  alone suffix hsuffix := h.alone suffix (hsuffix.trans (List.suffix_cons letter letters))

/-- What folds to the first of such letters is a case of it. -/
theorem FoldsAlone.isCaseOf {form : List Char} (h : FoldsAlone (letter :: letters))
    (hform : FoldsTo c form) (heq : form ++ rest = letter :: letters) :
    Crs.isCaseOf letter c ∧ rest = letters := by
  obtain ⟨hascii, hk, hzero⟩ := h.ascii letter List.mem_cons_self
  cases hform with
  | ascii _ =>
    rw [List.singleton_append, List.cons.injEq] at heq
    refine ⟨?_, heq.2⟩
    simp [Crs.isCaseOf, heq.1]
  | expansion hentry =>
    refine absurd ?_ (h.alone (letter :: letters) List.suffix_rfl _ hentry)
    exact ⟨rest, heq⟩
  | @run run code hrun himage =>
    rw [List.singleton_append, List.cons.injEq] at heq
    refine ⟨?_, heq.2⟩
    have hcode := eq_toNat_of_ofNat_eq heq.1 hzero
    obtain ⟨⟨hfirst, hlast, -⟩, himage⟩ := Option.ite_none_right_eq_some.1 himage
    rw [hcode, Option.some.injEq] at himage
    obtain ⟨hsingle, hs | htarget⟩ := run_target hrun (by omega)
    · have hletter : letter = 's' := Char.toNat_inj.1 (by omega)
      have hc : c.toNat = 0x17F := by omega
      simp [Crs.isCaseOf, hletter, hc]
    · exact absurd (Char.toNat_inj.1 (by omega)) hk
  | self hbeyond =>
    rw [List.singleton_append, List.cons.injEq] at heq
    rw [heq.1] at hbeyond
    exact absurd hascii (Nat.not_lt.2 hbeyond)

/-- A word that folds to such letters is taken off the start of a text as they are. -/
theorem dropWord?_append_of_foldsAlone (h : FoldsAlone letters)
    (hword : word.flatMap foldChar = letters) : dropWord? letters (word ++ rest) = some rest := by
  induction word generalizing letters with
  | nil =>
    rw [← hword]
    rfl
  | cons c word ih =>
    rw [List.flatMap_cons] at hword
    cases letters with
    | nil => exact absurd (List.append_eq_nil_iff.1 hword).1 (foldsTo_foldChar c).ne_nil
    | cons letter letters =>
      obtain ⟨hcase, hrest⟩ := h.isCaseOf (foldsTo_foldChar c) hword
      rw [List.cons_append, dropWord?, if_pos hcase]
      exact ih h.tail hrest

theorem foldsAlone_epsg : FoldsAlone "epsg:".toList where
  ascii := by
    intro letter hletter
    have hall : "epsg:".toList.all fun letter =>
        decide (letter.toNat < 128 ∧ letter ≠ 'k' ∧ letter ≠ Char.ofNat 0) := by decide
    exact of_decide_eq_true (List.all_eq_true.1 hall letter hletter)
  alone := by
    intro suffix hsuffix
    rw [← List.mem_tails] at hsuffix
    revert suffix
    decide +kernel

/-! ## Codes -/

/-- A token spells a code: after a word that is `epsg:` in any case come the digits of the code, of
any script and with any number of zeros before them. -/
def SpellsCode (token : String) (code : Nat) : Prop :=
  ∃ word digits values, token = word ++ String.ofList digits ∧ Text.fold word = "epsg:" ∧
    values ≠ [] ∧ digits.map Text.digit? = values.map some ∧ Number.Literal.value values = code

theorem digits?_of_forall {digits : List Char} (hnonempty : digits ≠ [])
    (h : ∀ c ∈ digits, (Text.digit? c).isSome) : digits? digits = some digits := by
  have hspan : digits.span (fun c => (Text.digit? c).isSome) = (digits, []) := by
    rw [List.span_eq_takeWhile_dropWhile, List.takeWhile_eq_self_iff.2 h,
      List.dropWhile_eq_nil_iff.2 h]
  rw [digits?, hspan]
  simp [hnonempty]

theorem SpellsCode.epsgDigits? {token : String} {code : Nat} (h : SpellsCode token code) :
    ∃ digits, Crs.epsgDigits? token.toList = some digits ∧
      Number.Literal.value (digits.filterMap Text.digit?) = code := by
  obtain ⟨word, digits, values, rfl, hword, hvalues, hdigits, rfl⟩ := h
  have hfolded : word.toList.flatMap foldChar = "epsg:".toList := by
    rw [← hword, fold, String.toList_ofList]
  have hread : digits? digits = some digits := by
    apply digits?_of_forall
    · rintro rfl
      exact hvalues (List.map_eq_nil_iff.1 hdigits.symm)
    · intro c hc
      have hmem : Text.digit? c ∈ values.map some := hdigits ▸ List.mem_map_of_mem hc
      obtain ⟨value, -, hvalue⟩ := List.mem_map.1 hmem
      rw [← hvalue]
      rfl
  refine ⟨digits, ?_, ?_⟩
  · have htoken : (word ++ String.ofList digits).toList = word.toList ++ digits := by
      rw [String.toList_append, String.toList_ofList]
    rw [Crs.epsgDigits?, htoken, dropWord?_append_of_foldsAlone foldsAlone_epsg hfolded,
      Option.bind_some, hread]
  · have hfiltered : digits.filterMap Text.digit? = (digits.map Text.digit?).filterMap id := by
      rw [List.filterMap_map]
      rfl
    rw [hfiltered, hdigits, List.filterMap_map]
    simp

/-- All spellings of a code that can be read have one URN. -/
theorem urn?_of_spellsCode {token : String} {code : Nat} (h : SpellsCode token code)
    {found : Option String} (hfound : urn? token = .ok found) : found = some (epsgUrn code) := by
  obtain ⟨digits, hdigits, hcode⟩ := h.epsgDigits?
  rw [urn?, hdigits] at hfound
  dsimp only at hfound
  split at hfound
  · cases hfound
    rw [hcode]
  · cases hfound

end Crs

end WebCoverage
