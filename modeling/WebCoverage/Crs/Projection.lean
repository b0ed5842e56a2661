import WebCoverage.Crs.Urn
import WebCoverage.Extent
import WebCoverage.Layer
import WebCoverage.NameList

/-! The reference systems that a projection definition and metadata name. What only a projection
database knows is asked of a library that is given as two functions. -/

namespace WebCoverage

/-- Why a projection library has no answer. -/
inductive ProjectionFault where
  /-- A definition cannot be interpreted. -/
  | unknownCrs
  | other
  deriving DecidableEq, Repr

def ProjectionFault.kind : ProjectionFault → FailureKind
  | unknownCrs => .unknownCrs
  | other => .projection

/-- Four bounds whose order is not known. -/
structure Bounds where
  minX : Float
  minY : Float
  maxX : Float
  maxY : Float

/-- A library of projections. -/
structure ProjectionLibrary where
  /-- The EPSG code of a definition, if it has one. -/
  identify : String → Except ProjectionFault (Option Int)
  transform : (source target : String) → Bounds → Except ProjectionFault Bounds

namespace ProjectionLibrary

/-- The rectangle around an extent in another reference system. -/
def transformExtent (library : ProjectionLibrary) (extent : Extent) (source target : String) :
    Except Failure Extent :=
  match library.transform source target ⟨extent.minX, extent.minY, extent.maxX, extent.maxY⟩ with
  | .error fault => .error (.plain fault.kind)
  | .ok bounds =>
    (Extent.ofBounds bounds.minX bounds.minY bounds.maxX bounds.maxY).mapError
      fun disorder => .invalid [disorder.problem]

/-- The token of a projection definition: the code it spells, else the code that the library
finds. A definition that the library cannot interpret has none; any other fault goes on. -/
def definitionTokens (library : ProjectionLibrary) (definition : String) :
    Except Crs.TokenFault (List String) :=
  let trimmed := Text.trim definition.toList
  match (Crs.initDigits? trimmed).orElse fun _ => Crs.epsgDigits? trimmed with
  | some digits => .ok ["EPSG:" ++ String.ofList digits]
  | none =>
    match library.identify (String.ofList trimmed) with
    | .ok (some code) => .ok [s!"EPSG:{code}"]
    | .ok none | .error .unknownCrs => .ok []
    | .error .other => .error .unidentified

/-- The tokens that metadata lists, else the one of the projection definition. -/
def tokens (library : ProjectionLibrary) (projection : Option String) (metadata : Metadata) :
    Except Crs.TokenFault (List String) :=
  match metadata.filled? "srs" with
  | some listed => .ok (Text.wordList listed)
  | none =>
    match projection with
    | some definition =>
      if definition.isEmpty then .ok [] else library.definitionTokens definition
    | none => .ok []

end ProjectionLibrary

namespace Crs

def TokenFault.kind : TokenFault → FailureKind
  | longCode => .invalidValue
  | unidentified => .projection

def TokenFault.failure (fault : TokenFault) : Failure :=
  .plain fault.kind

/-- The URNs of the tokens that have one, each once. -/
def urns (library : ProjectionLibrary) (projection : Option String) (metadata : Metadata) :
    Except Failure (List String) :=
  match library.tokens projection metadata >>= fun tokens => tokens.mapM urn? with
  | .ok found => .ok (NameList.ofList (found.filterMap id)).items
  | .error fault => .error fault.failure

/-- The URNs a layer can be served in: its own, else those of the map that owns it. -/
def supported (library : ProjectionLibrary) (owner : Option MapDefinition) (layer : Layer) :
    Except Failure (List String) := do
  let own ← urns library layer.projection layer.metadata
  if !own.isEmpty then return own
  match owner with
  | some map => urns library map.projection map.metadata
  | none => return []

/-- The first URN that a list of tokens gives. -/
def firstUrn? : List String → Except TokenFault (Option String)
  | [] => .ok none
  | token :: rest =>
    match urn? token with
    | .ok none => firstUrn? rest
    | found => found

/-- The URN of the reference system that a layer is stored in, looked for in the layer and then in
the map that owns it. -/
def native? (library : ProjectionLibrary) (owner : Option MapDefinition) (layer : Layer) :
    Except TokenFault (Option String) :=
  match library.tokens layer.projection layer.metadata >>= firstUrn? with
  | .ok none =>
    match owner with
    | some map => library.tokens map.projection map.metadata >>= firstUrn?
    | none => .ok none
  | found => found

end Crs

end WebCoverage
