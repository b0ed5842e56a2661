import WebCoverage.Coverage.Raster
import WebCoverage.Failure
import WebCoverage.OutputFormat

/-! Encoders, which turn a rendered image into the bytes of an output format. -/

namespace WebCoverage

/-- A rendered image, or a value of another type, which no encoder here can take. -/
inductive Image where
  | raster (raster : Raster)
  | other (typeName : String)

/-- What turns an image into bytes. -/
abbrev Encoder := Image → OutputFormat → Except Failure Bytes

/-- A failure of an encoder itself. -/
def Failure.imageEncoding (message : String) (cause : Option FailureKind) : Failure :=
  .ofKind .imageEncoding message none cause

/-- Writes the samples as they are. -/
def rawEncoder : Encoder
  | .raster raster, _ =>
    if raster.isEmpty then .error (.imageEncoding "Cannot encode an empty image" none)
    else .ok raster.bytes
  | .other typeName, format =>
    .error (.imageEncoding
      s!"Cannot encode {typeName} as {format.name}, expected a numpy array" none)

end WebCoverage
