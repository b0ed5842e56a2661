import WebCoverage.Text.Blank

/-! Lists written as one text with separators between their items. -/

namespace WebCoverage.Text

private def consHead (c : Char) : List (List Char) → List (List Char)
  | [] => [[c]]
  | piece :: pieces => (c :: piece) :: pieces

/-- Splits at the leftmost occurrences of a separator that do not overlap. The first `skip`
characters belong to a separator that was found before. -/
def splitFrom (separator : List Char) : (skip : Nat) → List Char → List (List Char)
  | _, [] => [[]]
  | skip + 1, _ :: text => splitFrom separator skip text
  | 0, c :: text =>
    if separator.isPrefixOf (c :: text) then
      [] :: splitFrom separator (separator.length - 1) text
    else
      consHead c (splitFrom separator 0 text)

/-- Every occurrence of a separator of one character ends a piece. -/
theorem splitFrom_singleton (separator : Char) (text : List Char) :
    splitFrom [separator] 0 text = text.splitOnP (· = separator) := by
  have hcons (c : Char) {pieces : List (List Char)} (h : pieces ≠ []) :
      consHead c pieces = pieces.modifyHead (c :: ·) := by
    cases pieces with
    | nil => contradiction
    | cons piece rest => rfl
  induction text with
  | nil => rfl
  | cons c rest ih =>
    rw [splitFrom, List.splitOnP_cons_eq_if_modifyHead, List.length_singleton, ih,
      hcons c (List.splitOnP_ne_nil _ rest)]
    by_cases h : c = separator
    · simp [h]
    · simp [h, Ne.symm h]

/-- The items of a list written with `separator`: the pieces between separators, trimmed, those
that are blank left out. The single space stands for any run of blanks. -/
def items (separator text : List Char) : List (List Char) :=
  if separator = [' '] then
    words text
  else
    ((splitFrom separator 0 text).map trim).filter (!·.isEmpty)

/-- The items of a list written with commas. -/
def commaList (text : String) : List String :=
  (items [','] text.toList).map String.ofList

/-- The items of a list written with any separator; only an empty text can be split at an empty
separator. -/
def separated? (separator text : String) : Option (List String) :=
  if text.isEmpty then some []
  else if separator.isEmpty then none
  else some ((items separator.toList text.toList).map String.ofList)

end WebCoverage.Text
