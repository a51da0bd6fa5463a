import FrameIngest.Arrow.Json
import FrameIngest.Arrow.Type
import FrameIngest.Bytes.Buffer
import FrameIngest.Bytes.LittleEndian
import FrameIngest.Bytes.LittleEndian.Lemmas
import FrameIngest.Bytes.Window
import FrameIngest.Cell
import FrameIngest.Column
import FrameIngest.ColumnWrite
import FrameIngest.Config
import FrameIngest.DataType
import FrameIngest.Decimal.Shortest
import FrameIngest.Decimal.Text
import FrameIngest.DecodeLock
import FrameIngest.Descriptor.Basic
import FrameIngest.Descriptor.Json
import FrameIngest.Error
import FrameIngest.Frame.Context
import FrameIngest.Frame.Input
import FrameIngest.Frame.Key
import FrameIngest.Frame.Range
import FrameIngest.Frame.Reconcile
import FrameIngest.Frame.Slicing
import FrameIngest.Frame.StringSize
import FrameIngest.Frame.Write
import FrameIngest.Json.Decode
import FrameIngest.Json.Fault
import FrameIngest.Json.Literal
import FrameIngest.Json.Message
import FrameIngest.Json.Node
import FrameIngest.Json.Number
import FrameIngest.Json.Print
import FrameIngest.Json.Record
import FrameIngest.Json.Value
import FrameIngest.Overflow
import FrameIngest.Schema
import FrameIngest.Segment
import FrameIngest.StringPool
import FrameIngest.Tensor.Basic
import FrameIngest.Tensor.Flatten
import FrameIngest.Text.Printable
import FrameIngest.Text.Quoted
import FrameIngest.Text.Utf8
import FrameIngest.Time.Calendar
import FrameIngest.Proofs.Cell
import FrameIngest.Proofs.Column
import FrameIngest.Proofs.DataType
import FrameIngest.Proofs.Text.Utf8
import FrameIngest.Proofs.Cell.Encoding
import FrameIngest.Proofs.Json.Literal
import FrameIngest.Proofs.Json.Number
import FrameIngest.Proofs.Json.Value
import FrameIngest.Proofs.Json.Tree
import FrameIngest.Proofs.Json.Reading
import FrameIngest.Proofs.Json.Readers
import FrameIngest.Proofs.Json.Record
import FrameIngest.Proofs.StringPool
import FrameIngest.Proofs.StringPool.History
import FrameIngest.Proofs.StringPool.AnyOffset
import FrameIngest.Proofs.StringPool.Growth
import FrameIngest.Proofs.Tensor.RowMajor
import FrameIngest.Proofs.Tensor.Packed
import FrameIngest.Proofs.Tensor.Rows
import FrameIngest.Proofs.Tensor.Origin
import FrameIngest.Proofs.Write.Check
import FrameIngest.Proofs.Write.Place
import FrameIngest.Proofs.Write.Pooling
import FrameIngest.Proofs.Write.Leaves
import FrameIngest.Proofs.Write.Step
import FrameIngest.Proofs.Write.Outcome
import FrameIngest.Proofs.Column.WellKept
import FrameIngest.Proofs.Segment.Reach
import FrameIngest.Proofs.Segment.FailedWrite
import FrameIngest.Proofs.Segment.BrokenOff
import FrameIngest.Proofs.Segment.RowCounts
import FrameIngest.Proofs.Segment.Strings
import FrameIngest.Proofs.Segment.Representation
import FrameIngest.Proofs.Segment.SparseFloats
import FrameIngest.Proofs.Write.Layout
import FrameIngest.Proofs.Write.Locking
import FrameIngest.Proofs.Write.Decoding
import FrameIngest.Proofs.Write.Retagged
import FrameIngest.Proofs.Frame.Slicing
import FrameIngest.Proofs.Frame.Reconcile
import FrameIngest.Proofs.Frame.RowPartition
import FrameIngest.Proofs.Frame.RowBlocks
import FrameIngest.Proofs.Frame.Write
import FrameIngest.Proofs.Frame.Fidelity
import FrameIngest.Proofs.Frame.Faults
import FrameIngest.Proofs.Frame.Failure
import FrameIngest.Proofs.Frame.AnyOrder
import FrameIngest.Proofs.Frame.SharedCells
import FrameIngest.Proofs.Frame.StringSizes
import FrameIngest.Proofs.Frame.StringExtent
import FrameIngest.Proofs.Frame.Tiling
import FrameIngest.Proofs.Frame.Totals
import FrameIngest.Proofs.Schema.Subset
import FrameIngest.Proofs.Descriptor.Parts
import FrameIngest.Proofs.Descriptor.RoundTrip
