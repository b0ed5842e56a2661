import WebCoverage.Text.Charset

/-! Streams of parts, as a client takes them apart. A line made from the boundary stands before each
part and another one after the last, and the line end before such a line belongs to it. -/

namespace WebCoverage.Multipart

/-- The fields of a header, and what it heads. -/
structure Part where
  headers : List (String × String)
  payload : Bytes
  deriving DecidableEq, Repr

/-- The bytes of a text, one for each character. -/
def textBytes (text : String) : Bytes :=
  text.toList.map fun c => UInt8.ofNat c.toNat

/-- The text of bytes, one character for each. -/
def bytesText (content : Bytes) : String :=
  String.ofList (content.map fun byte => Char.ofNat byte.toNat)

/-- What stands between line ends. -/
def lines (content : Bytes) : List Bytes :=
  content.splitOn 10

/-- The line before each part. -/
def delimiter (boundary : String) : Bytes :=
  textBytes ("--" ++ boundary)

/-- The line after the last part. -/
def closeDelimiter (boundary : String) : Bytes :=
  textBytes ("--" ++ boundary ++ "--")

/-! ## Reading -/

/-- The field in a line of a header. One space may follow the colon. -/
def fieldOfLine (line : Bytes) : String × String :=
  let value := (line.dropWhile (· ≠ 58)).tail
  (bytesText (line.takeWhile (· ≠ 58)),
    bytesText (if value.head? = some 32 then value.tail else value))

/-- The header ends at the first line without content. -/
def Part.ofLines (lines : List Bytes) : Part where
  headers := (lines.takeWhile (!·.isEmpty)).map fieldOfLine
  payload := [10].intercalate (lines.dropWhile (!·.isEmpty)).tail

/-- The parts of a stream in which a line ends the last one. What stands before the first part and
after that line is passed over. -/
def read? (boundary : String) (stream : Bytes) : Option (List Part) :=
  let close := closeDelimiter boundary
  if close ∈ lines stream then
    let groups := ((lines stream).takeWhile (· ≠ close)).splitOn (delimiter boundary)
    some (groups.tail.map Part.ofLines)
  else none

/-! ## Writing -/

/-- The line of a field. -/
def lineOfField (field : String × String) : Bytes :=
  textBytes (field.1 ++ ": " ++ field.2)

def Part.bytes (part : Part) : Bytes :=
  part.headers.flatMap (fun field => lineOfField field ++ [10]) ++ 10 :: part.payload

/-- The stream of parts. -/
def write (boundary : String) (parts : List Part) : Bytes :=
  parts.flatMap (fun part => delimiter boundary ++ 10 :: part.bytes ++ [10]) ++
    closeDelimiter boundary ++ [10]

end WebCoverage.Multipart
