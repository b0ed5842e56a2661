/-! Character encodings and their names. A character that an encoding lacks can be written in
ASCII, as a reference to its code point. The library has the encodings that most documents are in;
others are given to it. -/

namespace WebCoverage

abbrev Bytes := List UInt8

namespace Text

inductive Charset where
  | ascii
  | latin1
  | latin9
  | windows1252
  | utf8
  | utf16
  deriving DecidableEq, Repr

namespace Charset

/-- A name in small letters, with one underscore for every run of characters that are neither
ASCII letters or digits nor points. -/
def plainName (name : String) : String :=
  let parts := (name.toList.splitOnP fun c => !(c.isAlphanum || c = '.')).filter (!·.isEmpty)
  "_".intercalate (parts.map fun part => String.ofList (part.map Char.toLower))

/-- The encoding an alternative name stands for. -/
def ofAlias? : String → Option Charset
  | "646" | "ansi_x3.4_1968" | "ansi_x3.4_1986" | "ansi_x3_4_1968" | "cp367" | "csascii" | "ibm367"
  | "iso646_us" | "iso_646.irv_1991" | "iso_ir_6" | "us" | "us_ascii" => some ascii
  | "8859" | "cp819" | "csisolatin1" | "ibm819" | "iso8859" | "iso8859_1" | "iso_8859_1"
  | "iso_8859_1_1987" | "iso_ir_100" | "l1" | "latin" | "latin1" => some latin1
  | "iso_8859_15" | "l9" | "latin9" => some latin9
  | "1252" | "windows_1252" => some windows1252
  | "cp65001" | "u8" | "utf" | "utf8" | "utf8_ucs2" | "utf8_ucs4" => some utf8
  | "u16" | "utf16" => some utf16
  | _ => none

/-- The encoding a proper name stands for. -/
def ofProperName? : String → Option Charset
  | "ascii" => some ascii
  | "latin_1" => some latin1
  | "iso8859_15" => some latin9
  | "cp1252" => some windows1252
  | "utf_8" => some utf8
  | "utf_16" => some utf16
  | _ => none

/-- The encoding with the given name. In an alternative name a point may stand for an
underscore. -/
def ofName? (name : String) : Option Charset :=
  let plain := plainName name
  let pointless := String.ofList (plain.toList.map fun c => if c = '.' then '_' else c)
  (ofAlias? plain).orElse fun _ => (ofAlias? pointless).orElse fun _ => ofProperName? plain

/-- The bytes of the characters that Latin-9 has and Latin-1 has not. -/
def latin9Bytes : List (Nat × UInt8) :=
  [(338, 188), (339, 189), (352, 166), (353, 168), (376, 190), (381, 180), (382, 184), (8364, 164)]

/-- The bytes of the characters that Windows-1252 has and Latin-1 has not. -/
def windows1252Bytes : List (Nat × UInt8) :=
  [(338, 140), (339, 156), (352, 138), (353, 154), (376, 159), (381, 142), (382, 158), (402, 131),
   (710, 136), (732, 152), (8211, 150), (8212, 151), (8216, 145), (8217, 146), (8218, 130),
   (8220, 147), (8221, 148), (8222, 132), (8224, 134), (8225, 135), (8226, 149), (8230, 133),
   (8240, 137), (8249, 139), (8250, 155), (8364, 128), (8482, 153)]

/-- The two bytes of a code unit, the lower first. -/
def littleEndian (unit : Nat) : Bytes :=
  [UInt8.ofNat unit, UInt8.ofNat (unit / 0x100)]

/-- The code units of a character beyond the first plane are a surrogate pair. -/
def utf16Char (c : Char) : Bytes :=
  if c.toNat < 0x10000 then littleEndian c.toNat
  else
    let offset := c.toNat - 0x10000
    littleEndian (0xD800 + offset / 0x400) ++ littleEndian (0xDC00 + offset % 0x400)

/-- The bytes of a character, if the encoding has it. -/
def encodeChar? (charset : Charset) (c : Char) : Option Bytes :=
  let code := c.toNat
  match charset with
  | ascii => if code < 0x80 then some [UInt8.ofNat code] else none
  | latin1 => if code < 0x100 then some [UInt8.ofNat code] else none
  | latin9 =>
    match latin9Bytes.lookup code with
    | some byte => some [byte]
    | none =>
      let taken := latin9Bytes.any fun entry => entry.2.toNat = code
      if code < 0x100 ∧ ¬taken then some [UInt8.ofNat code] else none
  | windows1252 =>
    match windows1252Bytes.lookup code with
    | some byte => some [byte]
    | none =>
      if code < 0x80 ∨ (0xA0 ≤ code ∧ code < 0x100) then some [UInt8.ofNat code] else none
  | utf8 => some (String.utf8EncodeChar c)
  | utf16 => some (utf16Char c)

/-- A reference to a code point. -/
def reference (code : Nat) : List Char :=
  '&' :: '#' :: Nat.toDigits 10 code ++ [';']

/-- What stands for a character: its bytes, or a reference where the encoding lacks it. -/
def writeChar (charset : Charset) (c : Char) : Bytes :=
  match charset.encodeChar? c with
  | some bytes => bytes
  | none => (reference c.toNat).flatMap fun d => (charset.encodeChar? d).getD []

/-- The mark that a text in sixteen-bit units starts with. -/
def byteOrderMark : Charset → Bytes
  | utf16 => [0xFF, 0xFE]
  | _ => []

/-- A text in bytes, with references for the characters that the encoding lacks. -/
def write (charset : Charset) (text : List Char) : Bytes :=
  charset.byteOrderMark ++ text.flatMap charset.writeChar

/-- The text that bytes stand for, in the encodings that every reader knows. -/
def read? (charset : Charset) (content : Bytes) : Option (List Char) :=
  match charset with
  | ascii => content.mapM fun byte => if byte < 0x80 then some (Char.ofNat byte.toNat) else none
  | latin1 => some (content.map fun byte => Char.ofNat byte.toNat)
  | utf8 => content.toByteArray.utf8Decode?.map Array.toList
  | latin9 | windows1252 | utf16 => none

end Charset

/-- The encodings that the library has not itself. One fact about them is needed: where a text ends
in the sign that ends a tag, its bytes do not end in a line feed. -/
structure Codecs where
  /-- What writes texts in the encoding of a name, with references for the characters that it lacks.
  Some encodings cannot write every text. -/
  other? : (name : String) → Option (List Char → Option Bytes)
  tag_end : ∀ {name : String} {write : List Char → Option Bytes} {text : List Char}
    {content : Bytes}, other? name = some write → ['>'] <:+ text → write text = some content →
      ¬[10] <:+ content

namespace Codecs

/-- No encodings but those of the library. -/
def none : Codecs where
  other? _ := .none
  tag_end h := nomatch h

/-- What writes texts in the encoding of a name. -/
def find? (codecs : Codecs) (name : String) : Option (List Char → Option Bytes) :=
  match Charset.ofName? name with
  | some charset => some fun text => some (charset.write text)
  | .none => codecs.other? name

end Codecs

/-- A text in ASCII, if every character of it is. -/
def asciiBytes? (text : String) : Option Bytes :=
  if text.toList.all (·.toNat < 0x80) then some (text.toList.map fun c => UInt8.ofNat c.toNat)
  else none

end Text

end WebCoverage
