/-! Failures: what keeps an operation from being carried out, and the reports by which a client
learns of it. -/

namespace WebCoverage

/-- What is wrong with a value. -/
inductive Flaw where
  | missing
  | notRecord
  | notText
  | notFloat
  | floatText
  | notInteger
  | integerText
  | integerSize
  | fractional
  | notFinite
  | notPositive
  | notTruth
  | truthText
  | notListed
  | notList
  | notTuple
  | tooLong
  | rejected (reason : String)
  deriving DecidableEq, Repr

/-- The code under which a flaw is listed. -/
def Flaw.code : Flaw → String
  | missing => "missing"
  | notRecord => "model_type"
  | notText => "string_type"
  | notFloat => "float_type"
  | floatText => "float_parsing"
  | notInteger => "int_type"
  | integerText => "int_parsing"
  | integerSize => "int_parsing_size"
  | fractional => "int_from_float"
  | notFinite => "finite_number"
  | notPositive => "greater_than"
  | notTruth => "bool_type"
  | truthText => "bool_parsing"
  | notListed => "enum"
  | notList => "list_type"
  | notTuple => "tuple_type"
  | tooLong => "too_long"
  | rejected _ => "value_error"

/-- A flaw and the members and positions that lead to it. -/
structure Problem where
  path : List String
  flaw : Flaw
  deriving DecidableEq, Repr

def Problem.location (problem : Problem) : String :=
  ".".intercalate problem.path

/-- The text that goes with a rejected value. -/
def Problem.text? (problem : Problem) : Option String :=
  match problem.flaw with
  | .rejected reason => some ("Value error, " ++ reason)
  | _ => none

/-- The kinds of failure that are reported to the client. -/
inductive ReportKind where
  | general
  | missingOnlineResource
  | coverageNotDefined
  | metadataResolution
  | imageEncoding
  deriving DecidableEq, Repr

/-- The code of a report that names none of its own. -/
def ReportKind.defaultCode : ReportKind → String
  | coverageNotDefined => "CoverageNotDefined"
  | _ => "NoApplicableCode"

/-- The status of the response that carries a report. -/
def ReportKind.status : ReportKind → Int
  | coverageNotDefined => 400
  | _ => 500

/-- The kinds of failure. -/
inductive FailureKind where
  | report (kind : ReportKind)
  | configuration
  | serviceMisuse
  | invalidRecord
  | invalidValue
  | overflow
  | unknownName
  | wrongType
  | unencodable
  | undecodable
  | unknownCrs
  | projection
  | missingFile
  | isDirectory
  | malformedJson
  /-- A failure of a part that this library only calls, by its own name. -/
  | foreign (name : String)
  deriving DecidableEq, Repr

/-- A failure that is reported to the client. -/
structure Report where
  kind : ReportKind
  message : String
  code : String
  locator : Option String
  cause : Option FailureKind
  deriving DecidableEq, Repr

def Report.status (report : Report) : Int :=
  report.kind.status

/-- Why an operation is not carried out. -/
inductive Failure where
  | reported (report : Report)
  | unreadableMap (path : String) (cause : FailureKind)
  | malformedMap (path : String)
  | invalidMap (problems : List Problem)
  | invalidSettings (problems : List Problem)
  | headersAlreadySent (contentType : String)
  | bodyBeforeHeaders
  | notInMemory
  | invalid (problems : List Problem)
  /-- The namespace of a name has no binding in the document. -/
  | unboundNamespace (space : String)
  /-- A name without a local part, in quotes. -/
  | emptyName (quotedName : String)
  /-- A text, in quotes, that is not four words. -/
  | extentWords (quotedText : String)
  /-- A failure of which only the kind is known. -/
  | plain (kind : FailureKind)
  deriving DecidableEq, Repr

namespace Failure

def kind : Failure → FailureKind
  | reported report => .report report.kind
  | unreadableMap .. | malformedMap _ | invalidMap _ | invalidSettings _ => .configuration
  | headersAlreadySent _ | bodyBeforeHeaders | notInMemory => .serviceMisuse
  | invalid _ => .invalidRecord
  | unboundNamespace _ | emptyName _ | extentWords _ => .invalidValue
  | plain kind => kind

/-- The failure behind a failure. -/
def cause : Failure → Option FailureKind
  | reported report => report.cause
  | unreadableMap _ cause => some cause
  | malformedMap _ => some .malformedJson
  | invalidMap _ | invalidSettings _ => some .invalidRecord
  | _ => none

/-- The message of a failure, where it has one of its own. -/
def message? : Failure → Option String
  | reported report => some report.message
  | unreadableMap path _ => some s!"Cannot read map file {path}"
  | malformedMap path => some s!"Map file {path} is not valid JSON"
  | invalidMap _ => some "Invalid map definition"
  | invalidSettings _ => some "Invalid WCS settings"
  | headersAlreadySent contentType => some s!"Response headers already sent as '{contentType}'"
  | bodyBeforeHeaders => some "Response body written before the headers"
  | notInMemory => some "Only in-memory transports can be read back"
  | unboundNamespace space =>
    some s!"Namespace prefix '{space}' is not bound in this document"
  | emptyName quotedName => some s!"Invalid element name: {quotedName}"
  | extentWords quotedText => some s!"Invalid extent: {quotedText}. Expected four numbers"
  | invalid _ | plain _ => none

/-- The problems that a validation found. -/
def problems? : Failure → Option (List Problem)
  | invalid problems | invalidMap problems | invalidSettings problems => some problems
  | _ => none

/-- A report with the code of its kind. -/
def ofKind (kind : ReportKind) (message : String) (locator : Option String)
    (cause : Option FailureKind) : Failure :=
  .reported ⟨kind, message, kind.defaultCode, locator, cause⟩

/-- The coverage of a layer could not be described. -/
def unresolved (message : String) (cause : Option FailureKind) : Failure :=
  ofKind .metadataResolution message none cause

/-- A requested identifier names no layer. -/
def coverageNotDefined (identifier : String) : Failure :=
  ofKind .coverageNotDefined s!"COVERAGE {identifier} cannot be opened / does not exist"
    (some identifier) none

/-- A value cannot be carried by an XML document. -/
def unwritable (name : String) : Failure :=
  ofKind .general s!"Value of '{name}' contains characters that cannot be written as XML" none none

end Failure

end WebCoverage
