import NodeProbe.Main
import NodeProbe.Proofs.Batch.Slots
import NodeProbe.Proofs.Rosetta.RoundTrip
import NodeProbe.Proofs.Sink.File
import NodeProbe.Proofs.Client.Exchange
import NodeProbe.Proofs.Client.Session
import NodeProbe.Proofs.Sink.Outcome
import NodeProbe.Proofs.Load.Fire
import NodeProbe.Json.Printer
import NodeProbe.Proofs.Json.Pretty
import NodeProbe.Proofs.Sink.Reread
import NodeProbe.Proofs.Json.Draft
import NodeProbe.Proofs.Json.MarkReading
import NodeProbe.Proofs.Json.NumeralReading
import NodeProbe.Proofs.Json.DraftReading
import NodeProbe.Proofs.Json.Recognition
import NodeProbe.Proofs.Json.Denotation
import NodeProbe.Proofs.Body
import NodeProbe.Proofs.Batch.Log
import NodeProbe.Proofs.Settings.Precedence
import NodeProbe.Proofs.Probe.Setup
import NodeProbe.Proofs.Probe.Inquiry
import NodeProbe.Proofs.Probe.Load
import NodeProbe.Proofs.Client.Redirect
import NodeProbe.Proofs.Json.Skipping
import NodeProbe.Proofs.Json.TypedReading
import NodeProbe.Proofs.Json.TypedRecognition
import NodeProbe.Proofs.Json.TypedMembers
import NodeProbe.Proofs.Rosetta.ErrorLanguage
import NodeProbe.Proofs.Decimal.Shortest
import NodeProbe.Proofs.Json.FloatLiteral
import NodeProbe.Proofs.Json.Unambiguous
import NodeProbe.Proofs.Json.Printed
import NodeProbe.Proofs.Json.Presentation
import NodeProbe.Proofs.Json.Flaw
import NodeProbe.Proofs.Rosetta.Presentation
import NodeProbe.Proofs.Json.Alike
import NodeProbe.Proofs.Json.ByteOrder
import NodeProbe.Proofs.Canonical
import NodeProbe.Proofs.Settings.Numeral
import NodeProbe.Proofs.Sink.Footprint
import NodeProbe.Proofs.Json.Squeeze
import NodeProbe.Proofs.Json.Lines
import NodeProbe.Proofs.Client.BaseUrl
import NodeProbe.Proofs.Settings.QuotedValue
import NodeProbe.Proofs.Sink.Saves
