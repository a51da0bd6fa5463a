import FrameIngest.Arrow.Type
import FrameIngest.Cell
import FrameIngest.Frame.Range
import FrameIngest.Json.Message

namespace FrameIngest

/-- The kinds of errors that callers tell apart. -/
inductive ErrorKind
  | schemaMismatch
  | unsupportedType
  | stringEncoding
  | sparsifyType
  | missingStringPool
  | invalidTensor
  | invalidConfig
  | outOfBounds
  | internal
  | json
  | io
  | cast
  deriving DecidableEq

/-- Why data does not fit its schema. -/
inductive SchemaMismatch
  | columnTypes (column : Nat) (stored declared tensor : DataType)
  | segmentRows (column rows segmentRows : Nat)
  | staticTag (arm declared : DataType)
  | elementWidth (element : PlainType) (width : Nat) (type : DataType)
  | columnWidth (type : DataType) (width : Nat) (element : PlainType)
  | notFixedString (type : DataType)
  | notPooled (column : Nat) (type : DataType)
  | tensorCount (stream : String) (fields tensors : Nat)
  deriving DecidableEq

/-- Why a type does not support an operation. -/
inductive UnsupportedType
  | unknownCode (code : Nat)
  | arrow (type : ArrowType)
  | rank (rank : Nat) (type : DataType)
  | objectCells (type : DataType)
  | plainCells (type : DataType)
  | objectRecords

/-- Why memory and its description make no tensor. -/
inductive InvalidTensor
  | zeroDimensional
  | negativeStride (stride : Int)
  | notFixedString (type : DataType)
  | shortStride (stride width : Nat)
  | shortMemory (rows width stride extent size : Nat)
  | dimensions (shape strides : List Nat)
  | objectSize (expected actual : Nat)
  | incompatibleTag (width : Nat) (old new : DataType)
  | fieldRows (field : String) (rows expected : Nat)
  deriving DecidableEq

/-- What lies outside of what. -/
inductive OutOfBounds
  | field (position : Nat) (stream : String) (count : Nat)
  | fieldRange (first last : Nat) (stream : String) (count : Nat)
  | tensorRows (first rows available : Nat)
  | tensorBytes (offset length extent : Nat)
  | column (column count : Nat)
  | columnRow (row rows : Nat)
  | contextRow (row count : Nat)
  | sentinel (offset : Nat)
  | poolOffset (offset size : Nat)
  | beforeBuffer (slice start first : Nat)
  | afterBuffer (slice : Nat) (rows : RowRange) (first last available : Nat)
  deriving DecidableEq

/-- What a correct program never reaches. -/
inductive InternalFault
  | notContiguous
  | missingValue (values row index : Nat)
  | sparseStrings
  | noPool (column : Nat)
  | noTensor (field : String)
  deriving DecidableEq

inductive IngestError
  | schemaMismatch (cause : SchemaMismatch)
  | unsupportedType (cause : UnsupportedType)
  | stringEncoding (column : String) (row : Nat) (reason : EncodingFailure)
  | sparsifyType (type : DataType)
  | missingStringPool (row : Nat)
  | invalidTensor (cause : InvalidTensor)
  /-- A slicing policy without rows or columns. -/
  | emptySlices (rows columns : Nat)
  | outOfBounds (cause : OutOfBounds)
  | internal (fault : InternalFault)
  | json (cause : Json.Error)
  /-- A file that is not there. -/
  | noSuchFile
  /-- Bytes that do not fill the last of the elements they are read as. -/
  | partialElement

def SchemaMismatch.message : SchemaMismatch → String
  | .columnTypes column stored declared tensor =>
    s!"Column {column} is stored as {stored.name}, declared as {declared.name}, " ++
      s!"tensor is {tensor.name}"
  | .segmentRows column rows held =>
    s!"Column {column} writes {rows} rows into a segment of {held} rows"
  | .staticTag arm declared =>
    s!"Dispatch arm for {arm.name} selected for a column declared as {declared.name}"
  | .elementWidth element width type =>
    s!"Cannot read {element.name} from a tensor of {width}-byte {type.name} elements"
  | .columnWidth type width element =>
    s!"Column of {type.name} has width {width}, requested {element.name} " ++
      s!"({element.width} bytes)"
  | .notFixedString type => s!"Column of {type.name} does not hold fixed-width strings"
  | .notPooled column type => s!"Column {column} of {type.name} is not a pooled string column"
  | .tensorCount stream fields tensors =>
    "Stream '" ++ stream ++ s!"' declares {fields} fields but {tensors} tensors were supplied"

def UnsupportedType.message : UnsupportedType → String
  | .unknownCode code => s!"Unknown type tag {code}"
  | .arrow type => s!"Cannot convert Arrow type {type.describe} to a tickstore DataType"
  | .rank dimensions type =>
    s!"Cannot write a {dimensions}-dimensional {type.name} tensor into a single column"
  | .objectCells type => s!"Object cells cannot be written as {type.name}"
  | .plainCells type => s!"Tensor of {type.name} does not hold string objects"
  | .objectRecords => "Object tensors have no fixed-width records"

/-- Numbers between brackets. -/
def listText (numbers : List Nat) : String :=
  "[" ++ ", ".intercalate (numbers.map fun number => s!"{number}") ++ "]"

def InvalidTensor.message : InvalidTensor → String
  | .zeroDimensional => "Zero-dimensional tensors cannot be written as columns"
  | .negativeStride stride => s!"Negative stride {stride} is not supported"
  | .notFixedString type => s!"{type.name} is not a fixed-width string type"
  | .shortStride stride width => s!"Stride {stride} is smaller than the record width {width}"
  | .shortMemory rows width stride extent size =>
    s!"{rows} records of width {width} at stride {stride} need {extent} bytes, " ++
      s!"buffer has {size}"
  | .dimensions shape strides =>
    s!"Shape {listText shape} and strides {listText strides} do not describe a tensor"
  | .objectSize expected actual =>
    s!"Object tensors need elements of {expected} bytes, got {actual}"
  | .incompatibleTag width old new =>
    s!"Cannot view {width}-byte {old.name} elements as {new.name}"
  | .fieldRows field rows expected =>
    "Field '" ++ field ++ s!"' has {rows} rows, expected {expected}"

def OutOfBounds.message : OutOfBounds → String
  | .field position stream count =>
    s!"Field {position} requested from stream '" ++ stream ++ s!"' with {count} fields"
  | .fieldRange first last stream count =>
    s!"Field range [{first}, {last}) outside stream '" ++ stream ++ s!"' with {count} fields"
  | .tensorRows first rows available =>
    s!"Rows [{first}, {first}+{rows}) requested from tensor with {available} rows"
  | .tensorBytes offset length extent =>
    s!"Byte range [{offset}, +{length}) outside tensor extent {extent}"
  | .column position count => s!"Column {position} requested from segment with {count} columns"
  | .columnRow row rows => s!"Row {row} requested from column with {rows} rows"
  | .contextRow row count => s!"Context row {row} requested from a context of {count} slices"
  | .sentinel offset =>
    s!"Sentinel offset 0x{String.ofList (Decimal.hexadecimal offset)} has no pooled string"
  | .poolOffset offset size =>
    s!"Offset {offset} is not a string entry in a pool of {size} bytes"
  | .beforeBuffer slice start first =>
    s!"Slice {slice} starts at row {start}, before the buffer's first row {first}"
  | .afterBuffer slice rows first last available =>
    s!"Slice {slice} rows {rows.describe} map to [{first}, {last}) of a buffer holding " ++
      s!"{available} offsets"

def InternalFault.message : InternalFault → String
  | .notContiguous => "Zero-copy access requested on a non-contiguous tensor"
  | .missingValue values row index =>
    s!"Column holds {values} values but row {row} maps to index {index}"
  | .sparseStrings => "String columns are never sparse"
  | .noPool column => s!"Column {column} holds string offsets but the segment has no pool"
  | .noTensor field => "No tensor for field '" ++ field ++ "'"

namespace IngestError

def kind : IngestError → ErrorKind
  | schemaMismatch _ => .schemaMismatch
  | unsupportedType _ => .unsupportedType
  | stringEncoding _ _ _ => .stringEncoding
  | sparsifyType _ => .sparsifyType
  | missingStringPool _ => .missingStringPool
  | invalidTensor _ => .invalidTensor
  | emptySlices _ _ => .invalidConfig
  | outOfBounds _ => .outOfBounds
  | internal _ => .internal
  | json _ => .json
  | noSuchFile => .io
  | partialElement => .cast

def message : IngestError → String
  | schemaMismatch cause => s!"Schema mismatch: {cause.message}"
  | unsupportedType cause =>
    s!"Unsupported data type for this operation: {cause.message}"
  | stringEncoding column row reason =>
    "String encoding failed in column '" ++ column ++ s!"' at row {row}: {reason.message}"
  | sparsifyType type =>
    s!"Sparse write is only supported for floating point columns, got {type.name}"
  | missingStringPool row => s!"String pool not found for context row {row}"
  | invalidTensor cause => s!"Invalid tensor: {cause.message}"
  | emptySlices rows columns =>
    "Invalid configuration: Slicing policy needs at least one row and one column per segment, " ++
      s!"got {rows} x {columns}"
  | outOfBounds cause => s!"Out of bounds: {cause.message}"
  | internal fault => s!"Internal logic error (this is a bug): {fault.message}"
  | json cause => cause.message
  | noSuchFile => "I/O error: No such file or directory (os error 2)"
  | partialElement => "Byte slice casting error: OutputSliceWouldHaveSlop"

end IngestError

/-- Makes a row that could not be encoded an error of its frame: the row counts from the start of
the frame. -/
def EncodingError.inFrame (e : EncodingError) (column : String) (sliceStart : Nat) :
    IngestError :=
  .stringEncoding column (sliceStart + e.row) e.reason

end FrameIngest
