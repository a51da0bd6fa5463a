import FrameIngest.DecodeLock
import FrameIngest.Segment
import FrameIngest.Tensor.Flatten

namespace FrameIngest

/-- A request to write rows of a tensor into a column. -/
structure ColumnWrite where
  column : Nat
  /-- The type that the column is declared to have. -/
  type : DataType
  tensor : Tensor
  /-- The first row of the tensor to write. -/
  firstRow : Nat
  rows : Nat
  /-- Whether missing numbers are left out. -/
  sparsify : Bool

/-- What a write leads to: success, a cell that could not be encoded, or an error; the segment and
the lock after it. -/
structure WriteResult where
  outcome : Except IngestError (Option EncodingError)
  segment : Segment
  lock : DecodeLock

namespace ColumnWrite

/-- The checks before a write, in the order in which they decide its error. -/
def check (write : ColumnWrite) (segment : Segment) : Except IngestError Unit := do
  let column ← segment.column write.column
  if column.type ≠ write.type ∨ write.tensor.type ≠ write.type then
    .error (.schemaMismatch
      (.columnTypes write.column column.type write.type write.tensor.type))
  if write.tensor.rank ≠ 1 then
    .error (.unsupportedType (.rank write.tensor.rank write.type))
  if write.tensor.holdsObjects && !write.type.isDynamicString then
    .error (.unsupportedType (.objectCells write.type))
  if write.sparsify && !write.type.isFloat then
    .error (.sparsifyType write.type)
  write.tensor.checkRows write.firstRow write.rows
  segment.checkRows write.column write.rows

def rowOffsets (write : ColumnWrite) : List Nat :=
  (List.range write.rows).map fun row => (write.firstRow + row) * write.tensor.rowStride

def dense (write : ColumnWrite) (element : Element) (column : Column) :
    Except IngestError Column := do
  if write.tensor.isPacked element.width then
    return column.attach (← write.tensor.contiguousBytes write.firstRow write.rows) write.rows
  else
    return column.keep ⟨← write.tensor.flatten element write.firstRow write.rows⟩ write.rows

def sparse (write : ColumnWrite) (element : Element) (column : Column) :
    Except IngestError Column := do
  let values ← write.tensor.elements element write.firstRow write.rows
  let isPresent bytes := !element.isMissing (LittleEndian.ofBytes bytes)
  return column.keepSparse ⟨(values.filter isPresent).flatten⟩ (values.map isPresent)

def numbers (write : ColumnWrite) (element : Element) (column : Column) :
    Except IngestError Column :=
  if write.sparsify then write.sparse element column else write.dense element column

/-- Writes the records of fixed-width strings. Records without bytes need no copy, however many
there are. -/
def records (write : ColumnWrite) (column : Column) : Except IngestError Column := do
  if write.tensor.width = 0 then return column.keepRecords 0 .empty write.rows
  else
    let records ← (List.range write.rows).mapM fun row =>
      write.tensor.recordAt (write.firstRow + row)
    return column.keepRecords write.tensor.width ⟨records.flatten⟩ write.rows

/-- How far the cells of a column were pooled: the offsets of the rows that were, and what comes
after the last of them. -/
structure Pooling where
  offsets : List Nat
  pool : StringPool
  lock : DecodeLock
  /-- An error, or the reason why the next row could not be encoded, or neither. -/
  ending : Except IngestError (Option EncodingFailure)

/-- The pooling with one more row before it. -/
def Pooling.after (offset : Nat) (pooling : Pooling) : Pooling :=
  { pooling with offsets := offset :: pooling.offsets }

/-- Encodes and pools cells in order. The lock is taken before the first cell that needs it and
not given back. -/
def poolCells (encoding : StringEncoding) :
    List (Except IngestError Cell) → StringPool → DecodeLock → Pooling
  | [], pool, lock => ⟨[], pool, lock, .ok none⟩
  | .error e :: _, pool, lock => ⟨[], pool, lock, .error e⟩
  | .ok cell :: cells, pool, lock =>
    let lock := if cell.needsLock encoding then lock.hold else lock
    match cell.encode encoding with
    | .error reason => ⟨[], pool, lock, .ok (some reason)⟩
    | .ok (.sentinel offset) => (poolCells encoding cells pool lock).after offset
    | .ok (.content bytes) =>
      let (interned, pool) := pool.intern bytes
      (poolCells encoding cells pool lock).after interned.offset

/-- The cells to write. Those of a strided tensor are copied first, so that what is wrong with
them is known before anything is written. -/
def cells (write : ColumnWrite) : Except IngestError (List (Except IngestError Cell)) := do
  if write.tensor.isPacked write.tensor.width then
    return write.rowOffsets.map write.tensor.cellAt
  else
    return (← write.tensor.flattenCells write.firstRow write.rows).map .ok

def encoding (write : ColumnWrite) : StringEncoding :=
  if write.type.isUtf8 then .utf8 else .ascii

/-- A column of the offsets that are known, with zeros in the rows after them. -/
def offsetColumn (write : ColumnWrite) (column : Column) (offsets : List Nat) : Column :=
  column.keepRecords stringOffsetWidth
    ⟨offsets.flatMap (LittleEndian.toBytes stringOffsetWidth) ++
      List.replicate ((write.rows - offsets.length) * stringOffsetWidth) 0⟩ write.rows

def strings (write : ColumnWrite) (segment : Segment) (lock : DecodeLock) (column : Column) :
    WriteResult :=
  match write.cells with
  | .error e => ⟨.error e, segment, lock⟩
  | .ok cells =>
    let pooling := poolCells write.encoding cells (segment.pool.getD .empty) lock
    let column := write.offsetColumn column pooling.offsets
    let segment := { segment.setColumn write.column column with pool := some pooling.pool }
    ⟨pooling.ending.map fun failure => failure.map fun reason => ⟨pooling.offsets.length, reason⟩,
      segment, pooling.lock.release⟩

/-- Puts a column in place that was written in full, or reports why it could not be. -/
def place (write : ColumnWrite) (segment : Segment) (lock : DecodeLock)
    (written : Except IngestError Column) : WriteResult :=
  match written with
  | .ok column => ⟨.ok none, segment.setColumn write.column column, lock⟩
  | .error e => ⟨.error e, segment, lock⟩

/-- Writes numbers by the code for a tag, which has to be that of the declared type. -/
def tagged (write : ColumnWrite) (tag : StaticTag) (segment : Segment) (lock : DecodeLock)
    (column : Column) : WriteResult :=
  if tag.type ≠ write.type then
    ⟨.error (.schemaMismatch (.staticTag tag.type write.type)), segment, lock⟩
  else write.place segment lock (write.numbers tag.element column)

/-- Writes after all checks, as the type of the column says. -/
def dispatch (write : ColumnWrite) (segment : Segment) (lock : DecodeLock) (column : Column) :
    WriteResult :=
  match write.type.layout with
  | .numeric tag => write.tagged tag segment lock column
  | .bool => write.tagged .bool8 segment lock column
  | .fixedString => write.place segment lock (write.records column)
  | .dynamicString => write.strings segment lock column
  | .empty => write.place segment lock (.ok (column.setRows write.rows))

end ColumnWrite

/-- Writes rows of a tensor into a column. The segment counts rows only from a write that reached
its end. -/
def Segment.write (segment : Segment) (lock : DecodeLock) (write : ColumnWrite) : WriteResult :=
  match write.check segment, segment.column write.column with
  | .error e, _ => ⟨.error e, segment, lock⟩
  | _, .error e => ⟨.error e, segment, lock⟩
  | .ok (), .ok column =>
    let result := write.dispatch segment lock column
    match result.outcome with
    | .ok none => { result with segment := { result.segment with rows := write.rows } }
    | _ => result

end FrameIngest
