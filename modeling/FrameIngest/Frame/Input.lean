import FrameIngest.Descriptor.Basic
import FrameIngest.Overflow
import FrameIngest.Tensor.Basic

namespace FrameIngest

structure InputFrame where
  schema : Schema
  tensors : List Tensor
  normalization : Normalization
  userMetadata : Option Json.Value
  rows : Nat
  /-- The row of the stream at which the frame starts. -/
  offset : Nat
  bucketizeDynamic : Bool

namespace InputFrame

/-- Checks that every tensor has the rows of the first one. -/
def checkTensors (rows : Nat) : List SchemaField → List Tensor → Except IngestError Unit
  | field :: fields, tensor :: tensors =>
    if tensor.rows ≠ rows then
      .error (.invalidTensor (.fieldRows field.name tensor.rows rows))
    else checkTensors rows fields tensors
  | _, _ => .ok ()

/-- A frame at the start of its stream, with one tensor per field. -/
def ofTensors (schema : Schema) (tensors : List Tensor)
    (normalization : Normalization) : Except IngestError InputFrame := do
  if tensors.length ≠ schema.fields.length then
    .error (.schemaMismatch
      (.tensorCount schema.streamId schema.fields.length tensors.length))
  let rows := (tensors.head?.map Tensor.rows).getD 0
  checkTensors rows schema.fields tensors
  return {
    schema, tensors, normalization, rows
    userMetadata := none
    offset := 0
    bucketizeDynamic := false }

/-- The descriptor of the index after the frame is appended to existing rows. -/
def indexDescriptor (frame : InputFrame) (existingRows : Nat) (previousKey : Option StorageKey) :
    FrameDescriptor where
  totalRows := (frame.rows + existingRows).toUInt64
  schema := frame.schema
  normalization := frame.normalization
  userMetadata := frame.userMetadata
  previousKey
  nextKey := none
  bucketizeDynamic := frame.bucketizeDynamic

def indexDescriptorWord (overflow : Overflow) (frame : InputFrame) (existingRows : Nat)
    (previousKey : Option StorageKey) : Option FrameDescriptor := do
  let totalRows ← overflow.add frame.rows existingRows
  return { frame.indexDescriptor existingRows previousKey with totalRows := totalRows.toUInt64 }

end InputFrame

end FrameIngest
