import TickWalk.Text.Digit
import TickWalk.Text.Blank
import TickWalk.Text.Lowercase
import TickWalk.Decimal.Layout
import TickWalk.Decimal.Reading
import TickWalk.Failure
import TickWalk.Value.Integer
import TickWalk.Value.Items
import TickWalk.Bitmap.Search
import TickWalk.Scan.Walk
import TickWalk.Store.Form
import TickWalk.Store.Search
import TickWalk.Script
import TickWalk.Load.Batches
import TickWalk.Json.Read
import TickWalk.Document.Encode
import TickWalk.Document.Decode
import TickWalk.Pool.Key
import TickWalk.Pool.Price
import TickWalk.Chain.StateView
import TickWalk.Options.Read
import TickWalk.Options.Help
import TickWalk.Table
import TickWalk.Journal.Logger
import TickWalk.Main
import TickWalk.Proofs.Keyed
import TickWalk.Proofs.Bitmap.Search
import TickWalk.Proofs.Bitmap.OneWord
import TickWalk.Proofs.Action
import TickWalk.Proofs.Store.Snapshot
import TickWalk.Proofs.Store.Reachable
import TickWalk.Proofs.Scan.Store
import TickWalk.Proofs.Scan.Landmarks
import TickWalk.Proofs.Scan.Modes
import TickWalk.Proofs.Scan.Nearest
import TickWalk.Proofs.Scan.Progress
import TickWalk.Proofs.Agreement
import TickWalk.Proofs.Scan.Walk
import TickWalk.Proofs.Scan.Agreement
import TickWalk.Proofs.Load.Batching
import TickWalk.Proofs.Trace
import TickWalk.Proofs.Scan.Transcript
import TickWalk.Proofs.Scan.Noting
import TickWalk.Proofs.Load.Versions
import TickWalk.Proofs.Load.Agreement
import TickWalk.Proofs.Store.Commit
import TickWalk.Proofs.Compositional
import TickWalk.Proofs.Store.History
import TickWalk.Proofs.Store.Contents
import TickWalk.Proofs.Load.Band
import TickWalk.Proofs.Chain.Network
import TickWalk.Proofs.Chain.Node
import TickWalk.Proofs.Chain.View
import TickWalk.Proofs.Chain.Agreement
import TickWalk.Proofs.Chain.Faults
import TickWalk.Proofs.Document
import TickWalk.Proofs.Value.Conversion
import TickWalk.Proofs.Document.Canonical
import TickWalk.Proofs.Decimal.Rounding
import TickWalk.Proofs.Decimal.Scaled
import TickWalk.Proofs.Decimal.Reading
import TickWalk.Proofs.Decimal.Nearest
import TickWalk.Proofs.Decimal.Digits
import TickWalk.Proofs.Document.Doubles
import TickWalk.Proofs.Chain.Reads
import TickWalk.Proofs.Chain.Arguments
import TickWalk.Proofs.Chain.Failures
import TickWalk.Proofs.Chain.Pinned
import TickWalk.Proofs.Text.Hex
import TickWalk.Proofs.Json.Text
import TickWalk.Proofs.Json.Value
import TickWalk.Proofs.Json.Write
import TickWalk.Proofs.Json.Document
import TickWalk.Proofs.Options.Order
import TickWalk.Proofs.Abi.Word
import TickWalk.Proofs.Pool.Address
import TickWalk.Proofs.Pool.Key
import TickWalk.Proofs.Pool.Encoding
import TickWalk.Proofs.Pool.Identifier
import TickWalk.Proofs.Pool.Price
import TickWalk.Proofs.Command.Naming
import TickWalk.Proofs.Chain.Questions
import TickWalk.Proofs.Table
import TickWalk.Proofs.Command.Run
import TickWalk.Proofs.Command.Table
import TickWalk.Proofs.Command.Print
import TickWalk.Proofs.Command.View
import TickWalk.Proofs.Command.Failures
import TickWalk.Proofs.Command.Output
import TickWalk.Proofs.Journal.Logger
import TickWalk.Proofs.Command.Calling
