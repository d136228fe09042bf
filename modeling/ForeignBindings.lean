import ForeignBindings.Call.Param
import ForeignBindings.Call.Result
import ForeignBindings.Glue.Emission
import ForeignBindings.Library.View
import ForeignBindings.Main
import ForeignBindings.Metadata.Conversion
import ForeignBindings.Metadata.Reader
import ForeignBindings.Module
import ForeignBindings.Program.Environment
import ForeignBindings.Text.Blank
import ForeignBindings.Wire.Fixed
import ForeignBindings.Wire.Frame
import ForeignBindings.Wire.Structured
import ForeignBindings.Proofs.Json.Normal
import ForeignBindings.Proofs.Json.RoundTrip
import ForeignBindings.Proofs.Wire.StructuredText
import ForeignBindings.Proofs.Generation
import ForeignBindings.Proofs.Command.Generate
import ForeignBindings.Proofs.Metadata.Order
import ForeignBindings.Proofs.Glue.Resolution
import ForeignBindings.Proofs.Glue.PackedHelpers
import ForeignBindings.Proofs.Metadata.RoundTrip
import ForeignBindings.Proofs.Metadata.Listing
import ForeignBindings.Proofs.Module.VariantNames
import ForeignBindings.Proofs.Command.NothingToDo
import ForeignBindings.Proofs.Command.Output
import ForeignBindings.Proofs.Command.StaleArtifact
import ForeignBindings.Proofs.Consumption
import ForeignBindings.Proofs.Glue.Shapes
import ForeignBindings.Proofs.Text.StringValue
import ForeignBindings.Proofs.Glue.Comments
import ForeignBindings.Proofs.Wire.PackedBytes
import ForeignBindings.Proofs.Layout.Natural
import ForeignBindings.Proofs.Wire.ScalarRanges
import ForeignBindings.Proofs.Wire.CodecAgreement
import ForeignBindings.Proofs.Wire.Conformance
import ForeignBindings.Proofs.Decimal.Overflow
import ForeignBindings.Proofs.Wire.PackedOverflow
import ForeignBindings.Proofs.Wire.Framing
import ForeignBindings.Proofs.Glue.UsedHelpers
import ForeignBindings.Proofs.Glue.LiteralMembers
import ForeignBindings.Proofs.DeclSet
import ForeignBindings.Proofs.Glue.BindingNames
import ForeignBindings.Proofs.CommandLine.Forwarding
import ForeignBindings.Proofs.Library.Views
