import WebCoverage.Text.Lower
import WebCoverage.Validation

/-! The output formats that a map is configured with. -/

namespace WebCoverage

/-- What renders an output format. -/
inductive Renderer where
  | gd
  | agg
  | rawData
  | imageMap
  | svg
  | pdf
  | template
  | ogr
  | other
  deriving DecidableEq, Repr

namespace Renderer

def name : Renderer → String
  | gd => "GD"
  | agg => "AGG"
  | rawData => "RAWDATA"
  | imageMap => "IMAGEMAP"
  | svg => "SVG"
  | pdf => "PDF"
  | template => "TEMPLATE"
  | ogr => "OGR"
  | other => "OTHER"

def all : List Renderer :=
  [gd, agg, rawData, imageMap, svg, pdf, template, ogr, other]

def ofName? (name : String) : Option Renderer :=
  all.find? (·.name = name)

/-- Renderers whose output can hold a coverage. -/
def isRaster : Renderer → Bool
  | gd | agg | rawData => true
  | _ => false

end Renderer

structure OutputFormat where
  name : String
  driver : String
  renderer : Renderer
  mimeType : String
  extension : String
  deriving DecidableEq, Repr

namespace OutputFormat

def isRaster (format : OutputFormat) : Bool :=
  format.renderer.isRaster

/-- The extension of a file, by default the name in small letters. -/
def fileExtension (format : OutputFormat) : String :=
  if format.extension.isEmpty then Text.lower format.name else format.extension

def validator : Validator OutputFormat :=
  Validator.record fun members =>
    OutputFormat.mk
      <$> Members.required members "name" Validator.text
      <*> Members.defaulted members "driver" "" Validator.text
      <*> Members.defaulted members "renderer" .other (Validator.named Renderer.ofName?)
      <*> Members.defaulted members "mimetype" "" Validator.text
      <*> Members.defaulted members "extension" "" Validator.text

end OutputFormat

end WebCoverage
