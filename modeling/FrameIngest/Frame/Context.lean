import FrameIngest.Descriptor.Basic
import FrameIngest.Frame.Reconcile
import FrameIngest.Segment

namespace FrameIngest

/-- A slice with the key it is stored under and its segment, as far as they are known. -/
structure SliceEntry where
  slice : Slice
  key : Option StorageKey
  segment : Option Segment

def SliceEntry.pool (entry : SliceEntry) : Option StringPool :=
  entry.segment.bind (·.pool)

structure FrameContext where
  schema : Schema
  normalization : Normalization
  userMetadata : Option Json.Value
  entries : List SliceEntry
  /-- The number of rows that the last reconciliation counted. -/
  totalRows : Nat

namespace FrameContext

/-- A context without slices. -/
def empty (schema : Schema) (normalization : Normalization)
    (userMetadata : Option Json.Value) : FrameContext :=
  ⟨schema, normalization, userMetadata, [], 0⟩

def push (context : FrameContext) (entry : SliceEntry) : FrameContext :=
  { context with entries := context.entries ++ [entry] }

def slices (context : FrameContext) : List Slice :=
  context.entries.map (·.slice)

/-- Puts slices in the place of those of the entries. -/
def withSlices (context : FrameContext) (slices : List Slice) : FrameContext :=
  { context with
    entries := List.zipWith (fun entry slice => { entry with slice }) context.entries slices }

/-- The rows of all slices, those of a row group counted once. -/
def countRows (context : FrameContext) : Nat :=
  rowCount context.slices

def countRowsWord (overflow : Overflow) (context : FrameContext) : Option Nat :=
  rowCountWord overflow context.slices

/-- Renumbers the rows from zero, and counts them. -/
def adjustSlices (context : FrameContext) : Nat × FrameContext :=
  let (slices, stop) := rebaseRows 0 context.slices
  (stop, context.withSlices slices)

def adjustSlicesWord (overflow : Overflow) (context : FrameContext) :
    Option (Nat × FrameContext) := do
  let (slices, stop) ← rebaseRowsWord overflow 0 context.slices
  return (stop, context.withSlices slices)

/-- The first row of the first slice. -/
def firstRow (context : FrameContext) : Nat :=
  match context.entries with
  | [] => 0
  | entry :: _ => entry.slice.rows.start

/-- Renumbers the rows from the first row of the first slice on, and keeps their count. -/
def reconcile (context : FrameContext) : FrameContext :=
  let (slices, stop) := rebaseRows context.firstRow context.slices
  { context.withSlices slices with totalRows := stop - context.firstRow }

def reconcileWord (overflow : Overflow) (context : FrameContext) : Option FrameContext := do
  let (slices, stop) ← rebaseRowsWord overflow context.firstRow context.slices
  let totalRows ← overflow.sub stop context.firstRow
  return { context.withSlices slices with totalRows }

/-- The first row and the number of rows; both zero without slices. -/
def offsetAndRowCount (context : FrameContext) : Nat × Nat :=
  (context.firstRow, context.countRows)

def offsetAndRowCountWord (overflow : Overflow) (context : FrameContext) : Option (Nat × Nat) :=
  (context.countRowsWord overflow).map (context.firstRow, ·)

def entry (context : FrameContext) (position : Nat) : Except IngestError SliceEntry :=
  match context.entries[position]? with
  | some entry => .ok entry
  | none => .error (.outOfBounds (.contextRow position context.entries.length))

/-- The strings of the slice at a position. -/
def pool (context : FrameContext) (position : Nat) : Except IngestError StringPool := do
  match (← context.entry position).pool with
  | some pool => .ok pool
  | none => .error (.missingStringPool position)

/-- The descriptor of a context whose rows are in order. -/
def toDescriptor (context : FrameContext) (previousKey : Option StorageKey)
    (bucketizeDynamic : Bool) : FrameDescriptor where
  totalRows := context.countRows.toUInt64
  schema := context.schema
  normalization := context.normalization
  userMetadata := context.userMetadata
  previousKey
  nextKey := none
  bucketizeDynamic

def toDescriptorWord (overflow : Overflow) (context : FrameContext)
    (previousKey : Option StorageKey) (bucketizeDynamic : Bool) : Option FrameDescriptor := do
  let totalRows ← context.countRowsWord overflow
  return { context.toDescriptor previousKey bucketizeDynamic with
    totalRows := totalRows.toUInt64 }

end FrameContext

end FrameIngest
