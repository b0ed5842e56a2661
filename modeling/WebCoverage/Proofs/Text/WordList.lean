import WebCoverage.Proofs.Text.Separated

/-! Lists of words with blanks between them. Words that are written with spaces between them are
read again as they were (`Text.wordList_intercalate_of_isWord`). -/

namespace WebCoverage.Text

variable {word text : String}

/-- A text that stands for itself in a list of words. -/
structure IsWord (word : String) : Prop where
  nonempty : word ≠ ""
  solid : ∀ c ∈ word.toList, isBlank c = false

theorem toNat_of_isDigit {c : Char} (h : c.isDigit) : 48 ≤ c.toNat ∧ c.toNat ≤ 57 := by
  simp only [Char.isDigit, Bool.and_eq_true, decide_eq_true_eq, UInt32.le_iff_toNat_le] at h
  exact h

theorem isBlank_eq_false_of_isDigit {c : Char} (h : c.isDigit) : isBlank c = false := by
  obtain ⟨hlow, hhigh⟩ := toNat_of_isDigit h
  simp only [isBlank, isWhiteSpace, Bool.or_eq_false_iff, Bool.and_eq_false_iff,
    decide_eq_false_iff_not, beq_eq_false_iff_ne]
  omega

/-- What has no blanks has none at its ends. -/
theorem isWord_iff_isToken : IsWord word ↔ IsToken ' ' word := by
  constructor
  · intro h
    obtain ⟨hstart, hfinish⟩ := trimWhere_eq_self_iff.1 (trimWhere_eq_self h.solid)
    exact ⟨h.nonempty, h.solid, hstart, hfinish⟩
  · intro h
    exact ⟨h.nonempty, h.unbroken⟩

theorem isWord_of_mem_wordList (h : word ∈ wordList text) : IsWord word :=
  isWord_iff_isToken.2 (isToken_of_mem_tokens h)

theorem wordList_intercalate_of_isWord {texts : List String} (h : ∀ text ∈ texts, IsWord text) :
    wordList (" ".intercalate texts) = texts :=
  (tokens_intercalate ' ' texts).trans
    (flatMap_tokens_of_isToken fun text htext => isWord_iff_isToken.1 (h text htext))

end WebCoverage.Text
