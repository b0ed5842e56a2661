/-! The characters that an XML document can carry. A text is checked by its code points, and the
check is said of all of them, also of surrogates, which are the code points of no character. -/

namespace WebCoverage.Xml

/-- Controls other than tabulator and line ends, and the two last code points of the first plane,
cannot be carried. -/
def isWritableCode (code : Nat) : Bool :=
  !(code ≤ 8 || code == 0xB || code == 0xC || (0xE ≤ code && code ≤ 0x1F) || code == 0xFFFE ||
    code == 0xFFFF)

def isWritable (c : Char) : Bool :=
  isWritableCode c.toNat

def isWritableText (text : String) : Bool :=
  text.toList.all isWritable

/-- The code points that can be carried, of any code points. -/
def writableCodes (codes : List Nat) : List Nat :=
  codes.filter isWritableCode

/-- The text without the characters that cannot be carried. -/
def writable (text : String) : String :=
  String.ofList (text.toList.filter isWritable)

/-- Of a text the code points are kept that can be carried. -/
theorem map_toNat_writable (text : String) :
    (writable text).toList.map Char.toNat = writableCodes (text.toList.map Char.toNat) := by
  rw [writable, String.toList_ofList, writableCodes, List.filter_map]
  rfl

end WebCoverage.Xml
