import FrameIngest.ColumnWrite
import FrameIngest.Frame.Context
import FrameIngest.Frame.Slicing

namespace FrameIngest

namespace InputFrame

/-- Writes columns of a slice, from the field at `column` on, into the columns of its segment from
the first one that is not written on. The rows of the tensors are those from `sourceRow` on. A cell
that cannot be encoded is an error of the frame. -/
def writeColumns (frame : InputFrame) (config : Config) (slice : Slice) (sourceRow : Nat) :
    (count column : Nat) → Segment → DecodeLock → Except IngestError Segment × DecodeLock
  | 0, _, segment, lock => (.ok segment, lock)
  | count + 1, column, segment, lock =>
    match frame.schema.field column, frame.tensors[column]? with
    | .error e, _ => (.error e, lock)
    | .ok field, none => (.error (.internal (.noTensor field.name)), lock)
    | .ok field, some tensor =>
      let result := segment.write lock {
        column := column - slice.columns.start
        type := field.type
        tensor
        firstRow := sourceRow
        rows := slice.rows.span
        sparsify := config.sparsifyFloats }
      match result.outcome with
      | .error e => (.error e, result.lock)
      | .ok (some failure) => (.error (failure.inFrame field.name sourceRow), result.lock)
      | .ok none =>
        writeColumns frame config slice sourceRow count (column + 1) result.segment result.lock

/-- Writes one slice. -/
def writeSlice (frame : InputFrame) (config : Config) (slice : Slice)
    (lock : DecodeLock) : Except IngestError SliceEntry × DecodeLock :=
  match frame.schema.subset slice.columns.start slice.columns.stop with
  | .error e => (.error e, lock)
  | .ok schema =>
    let (written, lock) := frame.writeColumns config slice (slice.rows.start - frame.offset)
      slice.columns.span slice.columns.start (.ofSchema schema) lock
    (written.map fun segment => ⟨slice, none, some segment⟩, lock)

/-- Writes slices one after the other, also after one that fails. -/
def writeSlices (frame : InputFrame) (config : Config) :
    List Slice → DecodeLock → List (Except IngestError SliceEntry) × DecodeLock
  | [], lock => ([], lock)
  | slice :: slices, lock =>
    let (entry, lock) := frame.writeSlice config slice lock
    let (entries, lock) := frame.writeSlices config slices lock
    (entry :: entries, lock)

/-- The first field that cannot be sparse. -/
def denseField? (frame : InputFrame) : Option SchemaField :=
  frame.schema.fields.find? fun field => !field.type.isFloat

/-- The context of written slices. -/
def gathered (frame : InputFrame) (entries : List SliceEntry) : FrameContext :=
  { FrameContext.empty frame.schema frame.normalization frame.userMetadata with entries }

/-- The context of written slices, with their rows in order. -/
def contextOf (frame : InputFrame) (entries : List SliceEntry) : FrameContext :=
  (frame.gathered entries).reconcile

/-- Writes a frame. No result depends on which slices are written at the same time. -/
def write (frame : InputFrame) (config : Config) (lock : DecodeLock) :
    Except IngestError FrameContext × DecodeLock :=
  match frame.slices config with
  | .error e => (.error e, lock)
  | .ok slices =>
    match config.sparsifyFloats, frame.denseField? with
    | true, some field => (.error (.sparsifyType field.type), lock)
    | _, _ =>
      let (entries, lock) := frame.writeSlices config slices lock
      ((entries.mapM id).map frame.contextOf, lock)

/-- The write of a slice whose rows are found in machine words. -/
def writeSliceWord (overflow : Overflow) (frame : InputFrame) (config : Config) (slice : Slice)
    (lock : DecodeLock) : Option (Except IngestError SliceEntry × DecodeLock) :=
  match frame.schema.subset slice.columns.start slice.columns.stop with
  | .error e => some (.error e, lock)
  | .ok schema => do
    let sourceRow ← overflow.sub slice.rows.start frame.offset
    let (written, lock) := frame.writeColumns config slice sourceRow slice.columns.span
      slice.columns.start (.ofSchema schema) lock
    return (written.map fun segment => ⟨slice, none, some segment⟩, lock)

def writeSlicesWord (overflow : Overflow) (frame : InputFrame) (config : Config) :
    List Slice → DecodeLock → Option (List (Except IngestError SliceEntry) × DecodeLock)
  | [], lock => some ([], lock)
  | slice :: slices, lock => do
    let (entry, lock) ← frame.writeSliceWord overflow config slice lock
    let (entries, lock) ← frame.writeSlicesWord overflow config slices lock
    return (entry :: entries, lock)

/-- The same write with its slices cut, found in the tensors, and put in order in machine words. -/
def writeWord (overflow : Overflow) (frame : InputFrame) (config : Config) (lock : DecodeLock) :
    Option (Except IngestError FrameContext × DecodeLock) := do
  match ← frame.slicesWord overflow config with
  | .error e => return (.error e, lock)
  | .ok slices =>
    match config.sparsifyFloats, frame.denseField? with
    | true, some field => return (.error (.sparsifyType field.type), lock)
    | _, _ =>
      let (entries, lock) ← frame.writeSlicesWord overflow config slices lock
      match entries.mapM id with
      | .error e => return (.error e, lock)
      | .ok entries =>
        let context ← (frame.gathered entries).reconcileWord overflow
        return (.ok context, lock)

end InputFrame

end FrameIngest
