import WebCoverage.Layer
import WebCoverage.NameList
import WebCoverage.Text.Separated

/-! The MIME types in which a layer, or a whole map, can be delivered. -/

namespace WebCoverage.MapDefinition

/-- The format names of a layer, by default one; those of a map are its raster formats. -/
def formatNames (map : MapDefinition) : Option Layer → List String
  | some layer => Text.wordList ((layer.metadata.find? "formats").getD "GTiff")
  | none => (map.formats.filter (·.isRaster)).map (·.name)

/-- The MIME types of the named formats, each once. Names of no format are passed over, and so are
formats without a MIME type. -/
def mimeTypes (map : MapDefinition) (layer : Option Layer) : List String :=
  let found := (map.formatNames layer).filterMap map.format?
  (NameList.ofList ((found.map (·.mimeType)).filter (!·.isEmpty))).items

end WebCoverage.MapDefinition
