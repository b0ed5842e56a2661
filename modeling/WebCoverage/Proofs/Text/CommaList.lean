import WebCoverage.Proofs.Text.Separated

/-! Lists written with commas and read again. A list of texts is read as the items of each of them
(`commaList_intercalate`), which are these texts again if all of them are items
(`flatMap_commaList_of_isItem`). -/

namespace WebCoverage.Text

variable {item : String}

/-- A text that stands for itself in a list with commas. -/
structure IsItem (item : String) : Prop where
  nonempty : item ≠ ""
  comma : ',' ∉ item.toList
  trimmed : trim item.toList = item.toList

instance (item : String) : Decidable (IsItem item) :=
  decidable_of_iff (item ≠ "" ∧ ',' ∉ item.toList ∧ trim item.toList = item.toList)
    ⟨fun ⟨hnonempty, hcomma, htrimmed⟩ => ⟨hnonempty, hcomma, htrimmed⟩,
      fun h => ⟨h.nonempty, h.comma, h.trimmed⟩⟩

/-- An item ends at a comma only. -/
theorem isItem_iff_isToken : IsItem item ↔ IsToken ',' item := by
  have hends (c : Char) : endsItem ',' c = decide (c = ',') := rfl
  constructor
  · intro h
    obtain ⟨hstart, hfinish⟩ := trimWhere_eq_self_iff.1 h.trimmed
    refine ⟨h.nonempty, fun c hc => ?_, hstart, hfinish⟩
    rw [hends]
    exact decide_eq_false fun heq => h.comma (heq ▸ hc)
  · intro h
    refine ⟨h.nonempty, fun hcomma => ?_, h.trim_eq⟩
    have hnot := h.unbroken ',' hcomma
    rw [endsItem_self] at hnot
    cases hnot

theorem isItem_of_mem_commaList {text : String} (h : item ∈ commaList text) : IsItem item :=
  isItem_iff_isToken.2 (isToken_of_mem_tokens h)

theorem items_comma (text : List Char) :
    items [','] text = ((text.splitOnP (· = ',')).map trim).filter (!·.isEmpty) :=
  items_singleton ',' text

theorem commaList_intercalate (texts : List String) :
    commaList (",".intercalate texts) = texts.flatMap commaList :=
  tokens_intercalate ',' texts

theorem flatMap_commaList_of_isItem {texts : List String} (h : ∀ text ∈ texts, IsItem text) :
    texts.flatMap commaList = texts :=
  flatMap_tokens_of_isToken fun text htext => isItem_iff_isToken.1 (h text htext)

end WebCoverage.Text
