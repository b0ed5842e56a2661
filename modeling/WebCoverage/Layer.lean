import WebCoverage.Extent
import WebCoverage.Metadata
import WebCoverage.OutputFormat

/-! Layers and the map that holds them. -/

namespace WebCoverage

/-- Metadata is an object, whose values become texts, or null. -/
def Metadata.validator : Validator Metadata
  | .null => .valid Metadata.empty
  | .object members => .valid (Metadata.ofPairs (members.map fun entry => (entry.1, entry.2.text)))
  | _ => .flaw (.rejected "metadata must be a mapping of strings")

inductive LayerKind where
  | raster
  | point
  | line
  | polygon
  | annotation
  deriving DecidableEq, Repr

namespace LayerKind

def name : LayerKind → String
  | raster => "raster"
  | point => "point"
  | line => "line"
  | polygon => "polygon"
  | annotation => "annotation"

def ofName? (name : String) : Option LayerKind :=
  [raster, point, line, polygon, annotation].find? (·.name = name)

end LayerKind

/-- A configured layer. An attached one is owned by the map that holds it. -/
structure Layer where
  name : String
  kind : LayerKind
  connection : Option String
  /-- Whether raw data may be served. -/
  dump : Bool
  projection : Option String
  extent : Option Extent
  metadata : Metadata
  attached : Bool

namespace Layer

/-- Coverages are raster layers with raw data that do not come from another map service. -/
def isCoverage (layer : Layer) : Bool :=
  layer.kind = .raster && !Text.sameLower (layer.connection.getD "") "wms" && layer.dump

def validator : Validator Layer :=
  Validator.record fun members =>
    (fun name kind connection dump projection extent metadata =>
        { name, kind, connection, dump, projection, extent, metadata, attached := false })
      <$> Members.required members "name" Validator.text
      <*> Members.defaulted members "type" .raster (Validator.named LayerKind.ofName?)
      <*> Members.defaulted members "connection_type" none (Validator.optional Validator.text)
      <*> Members.defaulted members "dump" false Validator.truth
      <*> Members.defaulted members "projection" none (Validator.optional Validator.text)
      <*> Members.defaulted members "extent" none (Validator.optional Extent.validator)
      <*> Members.defaulted members "metadata" Metadata.empty Metadata.validator

end Layer

/-- What one service serves: layers, output formats, and metadata of the whole. -/
structure MapDefinition where
  name : String
  projection : Option String
  extent : Option Extent
  metadata : Metadata
  formats : List OutputFormat
  /-- The name of the format of coverages for which a request names none. -/
  formatName : Option String
  layers : List Layer

namespace MapDefinition

def addLayer (map : MapDefinition) (layer : Layer) : MapDefinition :=
  { map with layers := map.layers ++ [{ layer with attached := true }] }

/-- Appends a layer without taking hold of it. -/
def appendLayer (map : MapDefinition) (layer : Layer) : MapDefinition :=
  { map with layers := map.layers ++ [layer] }

/-- The first layer with the given name. -/
def layer? (map : MapDefinition) (name : String) : Option Layer :=
  map.layers.find? (·.name = name)

/-- Lets go of the first layer with the given name. -/
def detachLayer (map : MapDefinition) (name : String) : MapDefinition :=
  match map.layers.findIdx? (·.name = name) with
  | some i =>
    { map with layers := map.layers.modify i fun layer => { layer with attached := false } }
  | none => map

/-- The map that owns one of its layers. -/
def owner? (map : MapDefinition) (layer : Layer) : Option MapDefinition :=
  if layer.attached then some map else none

/-- The first output format with the given name in any case. -/
def format? (map : MapDefinition) (name : String) : Option OutputFormat :=
  map.formats.find? fun format => Text.sameLower format.name name

def selectFormat (map : MapDefinition) (name : Option String) : MapDefinition :=
  { map with formatName := name }

def selectedFormat? (map : MapDefinition) : Option OutputFormat :=
  (map.formatName.filter (!·.isEmpty)).bind map.format?

/-- The layers that are coverages. -/
def coverages (map : MapDefinition) : List Layer :=
  map.layers.filter (·.isCoverage)

/-- The layers of a validated map are attached to it. -/
def validator : Validator MapDefinition :=
  Validator.record fun members =>
    (fun name projection extent metadata formats formatName layers =>
        { name, projection, extent, metadata, formats, formatName,
          layers := layers.map fun layer => { layer with attached := true } })
      <$> Members.defaulted members "name" "WCS" Validator.text
      <*> Members.defaulted members "projection" none (Validator.optional Validator.text)
      <*> Members.defaulted members "extent" none (Validator.optional Extent.validator)
      <*> Members.defaulted members "metadata" Metadata.empty Metadata.validator
      <*> Members.defaulted members "output_formats" [] (Validator.list OutputFormat.validator)
      <*> Members.defaulted members "output_format" none (Validator.optional Validator.text)
      <*> Members.defaulted members "layers" [] (Validator.list Layer.validator)

/-- A map definition without any member. -/
def empty : MapDefinition where
  name := "WCS"
  projection := none
  extent := none
  metadata := Metadata.empty
  formats := []
  formatName := none
  layers := []

end MapDefinition

end WebCoverage
