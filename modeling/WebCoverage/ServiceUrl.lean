import WebCoverage.Layer
import WebCoverage.Request

/-! The URL under which a service can be reached. -/

namespace WebCoverage.ServiceUrl

/-- The URL, ending where query parameters can be appended. -/
def terminate (url : String) : String :=
  let chars := url.toList
  if chars.getLast? = some '?' ∨ chars.getLast? = some '&' then url
  else url ++ (if chars.contains '?' then "&" else "?")

/-- The URL that a request came by; a port that goes with the scheme is left out. -/
def ofOrigin (origin : Origin) (host : String) : String :=
  let scheme := if origin.secure then "https" else "http"
  let usual : Int := if origin.secure then 443 else 80
  let port := match origin.port with
    | some port => if port ≠ 0 ∧ port ≠ usual then s!":{port}" else ""
    | none => ""
  let script := if origin.script.isEmpty then "/" else origin.script
  let path := if script.toList.head? = some '/' then script else "/" ++ script
  scheme ++ "://" ++ host ++ port ++ path

/-- The configured URL, else the one that the request came by. -/
def ofMap? (map : MapDefinition) (origin : Option Origin) : Option String :=
  match map.metadata.filled? "onlineresource" with
  | some url => some (terminate url)
  | none => do
    let origin ← origin
    let host ← origin.host.filter (!·.isEmpty)
    return terminate (ofOrigin origin host)

end WebCoverage.ServiceUrl
