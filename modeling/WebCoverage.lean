import WebCoverage.Text.Separated
import WebCoverage.Text.Lower
import WebCoverage.Text.Fold
import WebCoverage.Text.Quoted
import WebCoverage.Number.Format
import WebCoverage.Number.Literal
import WebCoverage.Json.Reader
import WebCoverage.Text.Charset
import WebCoverage.Validation
import WebCoverage.NameList
import WebCoverage.Request
import WebCoverage.Settings
import WebCoverage.Loading
import WebCoverage.Grid
import WebCoverage.RangeSet
import WebCoverage.FormatCatalog
import WebCoverage.ServiceUrl
import WebCoverage.Xml.Document
import WebCoverage.Service
import WebCoverage.Proofs.Transport
import WebCoverage.Proofs.AllOrNothing
import WebCoverage.Proofs.Crs.Served
import WebCoverage.Proofs.Grid.Escape
import WebCoverage.Xml.Reader
import WebCoverage.Proofs.Xml.Composition
import WebCoverage.Proofs.Text.Decoding
import WebCoverage.Proofs.Xml.Reading
import WebCoverage.Proofs.Xml.RoundTrip
import WebCoverage.Proofs.Xml.WellFormed
import WebCoverage.Proofs.Written
import WebCoverage.Proofs.Xml.LineEnds
import WebCoverage.Proofs.Report.Reading
import WebCoverage.Proofs.Text.Separated
import WebCoverage.Proofs.Text.CommaList
import WebCoverage.Proofs.Advertised
import WebCoverage.Proofs.Number.Writable
import WebCoverage.Proofs.Described
import WebCoverage.Proofs.Coverage.Selection
import WebCoverage.Coverage.Parts
import WebCoverage.Proofs.Coverage.Parts
import WebCoverage.Proofs.Coverage.Manifest
import WebCoverage.Proofs.Report.Unsent
import WebCoverage.Proofs.Coverage.Delivery
import WebCoverage.Proofs.Coverage.Closing
import WebCoverage.Proofs.Coverage.InBand
import WebCoverage.Proofs.Coverage.Separable
import WebCoverage.Proofs.Answering
import WebCoverage.Proofs.Requested
import WebCoverage.Proofs.Lookup
import WebCoverage.Proofs.RangeSet
import WebCoverage.Proofs.Alike
import WebCoverage.Proofs.Hidden
import WebCoverage.Proofs.NameList
import WebCoverage.Proofs.FirstSeen
import WebCoverage.Proofs.Offered
import WebCoverage.Proofs.Xml.Layout
import WebCoverage.Proofs.Xml.Rejection
import WebCoverage.Proofs.Number.Exact
import WebCoverage.Proofs.Grid.Exact
import WebCoverage.Proofs.Grid.Degenerate
import WebCoverage.Proofs.Keys
import WebCoverage.Proofs.Collected
import WebCoverage.Proofs.FormatList
import WebCoverage.Proofs.Text.WordList
import WebCoverage.Proofs.Crs.Code
import WebCoverage.Proofs.Coverage.Integers
import WebCoverage.Proofs.Coverage.Pixels
import WebCoverage.Proofs.Crs.Canonical
import WebCoverage.Proofs.ServiceUrl
import WebCoverage.Proofs.Keywords
import WebCoverage.Proofs.Loading
import WebCoverage.Proofs.Coordinates
