import WebCoverage.Text.FoldTable

/-! Case folding: the form of a text that is the same for all its spellings in capitals and small
letters. Some characters fold to several. -/

namespace WebCoverage.Text

def foldChar (c : Char) : List Char :=
  if c.toNat < 128 then [c.toLower]
  else match foldExpansions.lookup c.toNat with
    | some codes => codes.map Char.ofNat
    | none => match lookupRun? foldRuns c.toNat with
      | some code => [Char.ofNat code]
      | none => [c]

/-- The folded form of a text. -/
def fold (text : String) : String :=
  String.ofList (text.toList.flatMap foldChar)

end WebCoverage.Text
