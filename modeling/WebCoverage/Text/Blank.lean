/-! White space: the blanks that end words and are trimmed from the ends of texts. -/

namespace WebCoverage.Text

/-- The White_Space property of Unicode. -/
def isWhiteSpace (c : Char) : Bool :=
  let code := c.toNat
  (9 ≤ code && code ≤ 13) || code == 0x20 || code == 0x85 || code == 0xA0 || code == 0x1680 ||
    (0x2000 ≤ code && code ≤ 0x200A) || code == 0x2028 || code == 0x2029 || code == 0x202F ||
    code == 0x205F || code == 0x3000

/-- Blanks are white space and the four information separators. -/
def isBlank (c : Char) : Bool :=
  isWhiteSpace c || (0x1C ≤ c.toNat && c.toNat ≤ 0x1F)

/-- Drops what satisfies `p` from both ends. -/
def trimWhere (p : Char → Bool) (text : List Char) : List Char :=
  ((text.dropWhile p).reverse.dropWhile p).reverse

/-- Drops the blanks from both ends. -/
def trim (text : List Char) : List Char :=
  trimWhere isBlank text

/-- The runs of characters between blanks. -/
def words (text : List Char) : List (List Char) :=
  (text.splitOnP isBlank).filter (!·.isEmpty)

/-- The words of a string. -/
def wordList (text : String) : List String :=
  (words text.toList).map String.ofList

/-- A text without any character but blanks. -/
def isBlankText (text : String) : Bool :=
  text.toList.all isBlank

end WebCoverage.Text
