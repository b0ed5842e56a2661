import WebCoverage.Number.Format
import WebCoverage.Text.Quoted

/-! JSON values, and the text a value takes when it stands where a text is wanted. Integers are kept
apart from other numbers: `1` and `1.0` have different texts. -/

namespace WebCoverage

inductive Json where
  | null
  | boolean (value : Bool)
  | integer (value : Int)
  | real (value : Float)
  | string (value : String)
  | array (items : List Json)
  | object (members : List (String × Json))

namespace Json

mutual

/-- The text of a value inside an array or an object, where strings are quoted. -/
def shown : Json → String
  | null => "None"
  | boolean value => if value then "True" else "False"
  | integer value => toString value
  | real value => Number.roundTrip value
  | string value => Text.quoted value
  | array items => "[" ++ ", ".intercalate (shownItems items) ++ "]"
  | object members => "\x7b" ++ ", ".intercalate (shownMembers members) ++ "\x7d"

def shownItems : List Json → List String
  | [] => []
  | item :: items => item.shown :: shownItems items

def shownMembers : List (String × Json) → List String
  | [] => []
  | (name, value) :: members =>
    (Text.quoted name ++ ": " ++ value.shown) :: shownMembers members

end

/-- The text of a value on its own: a string is its own text. -/
def text : Json → String
  | string value => value
  | value => value.shown

/-- The value of a member of an object. -/
def member? (name : String) : Json → Option Json
  | object members => members.lookup name
  | _ => none

end Json

end WebCoverage
