import WebCoverage.Validation

/-! What a client asks for, and what is known of the way the request came. -/

namespace WebCoverage

/-- The parameters of a request. Who carries the request out releases them. -/
structure RequestParameters where
  version : String
  operation : Option String
  /-- The requested identifiers; none means all. -/
  coverages : List String
  format : Option String
  released : Bool
  deriving DecidableEq, Repr

namespace RequestParameters

def release (parameters : RequestParameters) : RequestParameters :=
  { parameters with coverages := [], released := true }

def validator : Validator RequestParameters :=
  Validator.record fun members =>
    (fun version operation coverages format =>
        { version, operation, coverages, format, released := false })
      <$> Members.defaulted members "version" "1.1.0" Validator.text
      <*> Members.defaulted members "request" none (Validator.optional Validator.text)
      <*> Members.defaulted members "coverages" [] (Validator.list Validator.text)
      <*> Members.defaulted members "format" none (Validator.optional Validator.text)

end RequestParameters

/-- The address under which a request reached the server. -/
structure Origin where
  host : Option String
  port : Option Int
  script : String
  secure : Bool
  deriving DecidableEq, Repr

def Origin.validator : Validator Origin :=
  Validator.record fun members =>
    Origin.mk
      <$> Members.defaulted members "host" none (Validator.optional Validator.text)
      <*> Members.defaulted members "port" none (Validator.optional Validator.integer)
      <*> Members.defaulted members "script_name" "" Validator.text
      <*> Members.defaulted members "https" false Validator.truth

end WebCoverage
