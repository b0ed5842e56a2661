import WebCoverage.Validation

/-! Settings of a service. -/

namespace WebCoverage

structure Settings where
  encoding : String
  prettyPrint : Bool
  /-- The version of documents for which a request names none. -/
  defaultVersion : String
  exceptionVersion : String
  deriving DecidableEq, Repr

namespace Settings

def validator : Validator Settings :=
  Validator.record fun members =>
    Settings.mk
      <$> Members.defaulted members "encoding" "ISO-8859-1" Validator.text
      <*> Members.defaulted members "pretty_print" true Validator.truth
      <*> Members.defaulted members "default_version" "1.1.0" Validator.text
      <*> Members.defaulted members "exception_version" "1.1.0" Validator.text

/-- Settings come as an object. -/
def ofJson : Json → Except Failure Settings
  | .object members => (validator (.object members)).toExcept .invalidSettings
  | _ => .error (.plain .wrongType)

end Settings

end WebCoverage
