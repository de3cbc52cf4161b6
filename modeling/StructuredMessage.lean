import StructuredMessage.Capture.Builtin
import StructuredMessage.Main
import StructuredMessage.Template.Cache
import StructuredMessage.Proofs.Template.Partition
import StructuredMessage.Proofs.Template.RoundTrip
import StructuredMessage.Proofs.Template.Append
import StructuredMessage.Proofs.Capture.Positional
import StructuredMessage.Proofs.Capture.Named
import StructuredMessage.Proofs.Capture.Depth
import StructuredMessage.Proofs.Capture.Length
import StructuredMessage.Proofs.Capture.Mapping
import StructuredMessage.Proofs.Capture.Document
import StructuredMessage.Proofs.Capture.Truncation
import StructuredMessage.Proofs.Capture.Deepen
import StructuredMessage.Proofs.Capture.Unending
import StructuredMessage.Proofs.Template.Sharing
import StructuredMessage.Proofs.Template.Spelling
import StructuredMessage.Proofs.Number.Fixed
import StructuredMessage.Proofs.Number.Section
import StructuredMessage.Proofs.Number.Abbreviation
import StructuredMessage.Proofs.Number.Quotient
import StructuredMessage.Proofs.Number.Value
import StructuredMessage.Proofs.Number.Nearest
import StructuredMessage.Proofs.Number.Closeness
import StructuredMessage.Proofs.Number.Conversion
import StructuredMessage.Proofs.Number.Percent
import StructuredMessage.Proofs.Number.Places
import StructuredMessage.Proofs.Number.Scientific
import StructuredMessage.Proofs.Number.Rendition
import StructuredMessage.Proofs.Number.Exactness
import StructuredMessage.Proofs.Number.Rounded
import StructuredMessage.Proofs.Number.Ties
import StructuredMessage.Proofs.Number.LastDigit
import StructuredMessage.Proofs.Number.Alike
import StructuredMessage.Proofs.Number.Unsigned
import StructuredMessage.Proofs.Number.Sign
import StructuredMessage.Proofs.Number.Decoding
import StructuredMessage.Proofs.Datum.Insertion
import StructuredMessage.Proofs.Datum.Names
import StructuredMessage.Proofs.Capture.Modes
import StructuredMessage.Proofs.Capture.Wrappers
import StructuredMessage.Proofs.Number.Interval
import StructuredMessage.Proofs.Text.Marks
import StructuredMessage.Proofs.Number.Legible
import StructuredMessage.Proofs.Calendar.Days
import StructuredMessage.Proofs.Calendar.Usual
import StructuredMessage.Proofs.Scalar.Name
import StructuredMessage.Proofs.Capture.Plain
import StructuredMessage.Proofs.Capture.Keys
import StructuredMessage.Proofs.Capture.Losses
import StructuredMessage.Proofs.Calendar.RoundTrip
import StructuredMessage.Proofs.Template.Locality
import StructuredMessage.Proofs.Calendar.SpanSign
import StructuredMessage.Proofs.Calendar.SpanReading
import StructuredMessage.Proofs.Calendar.Universal
import StructuredMessage.Proofs.Number.Quoting
