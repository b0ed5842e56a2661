import WebCoverage.Failure
import WebCoverage.Json.Basic
import WebCoverage.Number.Grouped

/-! Validation: values of domain types from JSON values. A validation does not stop at the first
problem; the problems of all members are listed in the order in which the members are declared. -/

namespace WebCoverage

/-- A validated value, or all that is wrong with its source. -/
inductive Checked (α : Type) where
  | valid (value : α)
  | invalid (problems : List Problem)

namespace Checked

variable {α β : Type}

def map (f : α → β) : Checked α → Checked β
  | valid value => valid (f value)
  | invalid problems => invalid problems

/-- Applies a validated function to a validated argument; the problems of both are kept. -/
def apply : Checked (α → β) → Checked α → Checked β
  | valid f, argument => argument.map f
  | invalid problems, valid _ => invalid problems
  | invalid problems, invalid more => invalid (problems ++ more)

instance : Applicative Checked where
  pure := valid
  map := map
  seq f argument := f.apply (argument ())

/-- A further check of a valid value. -/
def andThen (checked : Checked α) (f : α → Checked β) : Checked β :=
  match checked with
  | valid value => f value
  | invalid problems => invalid problems

/-- A flaw of the value itself. -/
def flaw (flaw : Flaw) : Checked α :=
  invalid [⟨[], flaw⟩]

/-- Places the problems of a part under its name. -/
def under (name : String) : Checked α → Checked α
  | valid value => valid value
  | invalid problems => invalid (problems.map fun problem => ⟨name :: problem.path, problem.flaw⟩)

def ofOption (why : Flaw) : Option α → Checked α
  | some value => valid value
  | none => flaw why

def toExcept (failure : List Problem → Failure) : Checked α → Except Failure α
  | valid value => .ok value
  | invalid problems => .error (failure problems)

/-- Validates the elements of a list at their positions. -/
def elements (check : Json → Checked α) (start : Nat) : List Json → Checked (List α)
  | [] => valid []
  | item :: rest =>
    List.cons <$> (check item).under (toString start) <*> elements check (start + 1) rest

end Checked

/-- Validates a JSON value. -/
abbrev Validator (α : Type) := Json → Checked α

namespace Validator

variable {α : Type}

def text : Validator String
  | .string value => .valid value
  | _ => .flaw .notText

/-- Takes numbers, truth values and texts of numbers. -/
def float : Validator Float
  | .integer n => .ofOption .notFloat (Number.ofInt? n)
  | .real x => .valid x
  | .boolean value => .valid (if value then 1.0 else 0.0)
  | .string value => .ofOption .floatText (Number.Grouped.float? value)
  | _ => .flaw .notFloat

def integerOfText (value : String) : Checked Int :=
  match Number.Grouped.integer value with
  | .ok n => .valid n
  | .error .malformed => .flaw .integerText
  | .error .tooLong => .flaw .integerSize

/-- A floating-point number without a fraction that fits into 64 bits. -/
def integerOfFloat (x : Float) : Checked Int :=
  match Number.truncate x with
  | .error _ => .flaw .notFinite
  | .ok n =>
    if !(Float.ofInt n == x) then .flaw .fractional
    else if n.natAbs < 0x8000000000000000 then .valid n
    else .flaw .integerSize

/-- Takes integers, numbers without a fraction, truth values and texts of integers. -/
def integer : Validator Int
  | .integer n => .valid n
  | .real x => integerOfFloat x
  | .boolean value => .valid (if value then 1 else 0)
  | .string value => integerOfText value
  | _ => .flaw .notInteger

/-- A natural number above zero. -/
def positive (value : Json) : Checked { n : Nat // 0 < n } :=
  (integer value).andThen fun n =>
    if h : 0 < n.toNat then .valid ⟨n.toNat, h⟩ else .flaw .notPositive

def truthOfText (value : String) : Option Bool :=
  let small := String.ofList (value.toList.map Char.toLower)
  if ["1", "on", "t", "true", "y", "yes"].contains small then some true
  else if ["0", "off", "f", "false", "n", "no"].contains small then some false
  else none

def truthOfInt : Int → Option Bool
  | 0 => some false
  | 1 => some true
  | _ => none

/-- Whether an integer fits into 64 bits with a sign. -/
def fitsWord (n : Int) : Bool :=
  -0x8000000000000000 ≤ n && n < 0x8000000000000000

/-- Takes truth values, the numbers zero and one, and words for yes and no. -/
def truth : Validator Bool
  | .boolean value => .valid value
  | .integer n => if fitsWord n then .ofOption .truthText (truthOfInt n) else .flaw .notTruth
  | .real x =>
    match integerOfFloat x with
    | .valid n => .ofOption .truthText (truthOfInt n)
    | .invalid _ => .flaw .notTruth
  | .string value => .ofOption .truthText (truthOfText value)
  | _ => .flaw .notTruth

/-- One of the names of an enumeration. -/
def named (ofName? : String → Option α) : Validator α
  | .string name => .ofOption .notListed (ofName? name)
  | _ => .flaw .notListed

/-- A value or null. -/
def optional (check : Validator α) : Validator (Option α)
  | .null => .valid none
  | value => some <$> check value

def list (check : Validator α) : Validator (List α)
  | .array items => Checked.elements check 0 items
  | _ => .flaw .notList

/-- A record, validated by its members. -/
def record (check : List (String × Json) → Checked α) : Validator α
  | .object members => check members
  | _ => .flaw .notRecord

end Validator

/-- The members of a record, which are looked up by name. -/
abbrev Members := List (String × Json)

namespace Members

variable {α : Type}

/-- A member that must be there. -/
def required (members : Members) (name : String) (check : Validator α) : Checked α :=
  match members.lookup name with
  | some value => (check value).under name
  | none => .invalid [⟨[name], .missing⟩]

/-- A member that has a value when it is not there. -/
def defaulted (members : Members) (name : String) (default : α) (check : Validator α) : Checked α :=
  match members.lookup name with
  | some value => (check value).under name
  | none => .valid default

end Members

end WebCoverage
