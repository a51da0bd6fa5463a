import FrameIngest.Bytes.LittleEndian
import FrameIngest.Bytes.Window
import FrameIngest.Error
import FrameIngest.Overflow

namespace FrameIngest

/-- The bytes that one cell occupies in memory. -/
def cellWidth : Nat := 24

/-- The memory behind a tensor: bytes, or cells side by side. -/
inductive Memory
  | plain (bytes : Array UInt8)
  | objects (cells : Array Cell)

/-- One dimension of a tensor: its length, and the bytes from one index to the next. -/
structure Dimension where
  size : Nat
  stride : Nat
  deriving DecidableEq

structure Tensor where
  memory : Memory
  type : DataType
  /-- Bytes of one element. -/
  width : Nat
  dimensions : List Dimension
  dimensions_ne_nil : dimensions ≠ []

namespace Tensor

/-- The byte after the last one that an element occupies, counted from the first element. -/
def extentOf (width : Nat) (dimensions : List Dimension) : Nat :=
  if dimensions.any (·.size = 0) then 0
  else dimensions.foldr (fun d reach => (d.size - 1) * d.stride + reach) width

/-- The bytes of a row-major array with these dimensions, or none if some stride is not that of
such an array. A dimension of a single index may have any stride. -/
def packedSize? (width : Nat) : List Dimension → Option Nat
  | [] => some width
  | d :: inner => do
    let size ← packedSize? width inner
    if 1 < d.size ∧ d.stride ≠ size then none else some (size * d.size)

/-- The same extent by products and sums of machine words. -/
def extentWord (overflow : Overflow) (width : Nat) (dimensions : List Dimension) : Option Nat :=
  if dimensions.any (·.size = 0) then some 0
  else do
    let reaches ← dimensions.mapM fun d => overflow.mul (d.size - 1) d.stride
    overflow.add (← overflow.sum reaches) width

def holdsObjects (tensor : Tensor) : Bool :=
  match tensor.memory with
  | .plain _ => false
  | .objects _ => true

def rank (tensor : Tensor) : Nat :=
  tensor.dimensions.length

/-- The first dimension, which runs over the rows. -/
def rowDimension (tensor : Tensor) : Dimension :=
  tensor.dimensions.head tensor.dimensions_ne_nil

def rows (tensor : Tensor) : Nat :=
  tensor.rowDimension.size

def rowStride (tensor : Tensor) : Nat :=
  tensor.rowDimension.stride

def inner (tensor : Tensor) : List Dimension :=
  tensor.dimensions.tail

def rowElements (tensor : Tensor) : Nat :=
  (tensor.inner.map Dimension.size).foldr (· * ·) 1

def shape (tensor : Tensor) : List Nat :=
  tensor.dimensions.map Dimension.size

def strides (tensor : Tensor) : List Nat :=
  tensor.dimensions.map Dimension.stride

def extent (tensor : Tensor) : Nat :=
  extentOf tensor.width tensor.dimensions

/-- Whether elements of this width lie back to back in row-major order. -/
def isPacked (tensor : Tensor) (width : Nat) : Bool :=
  width = tensor.width ∧ (packedSize? width tensor.dimensions).isSome

def ofNumbers (element : Element) (values : List Nat) : Tensor where
  memory := .plain (values.flatMap (LittleEndian.toBytes element.width)).toArray
  type := element.dataType
  width := element.width
  dimensions := [⟨values.length, element.width⟩]
  dimensions_ne_nil := by simp

def ofBools (values : List Bool) : Tensor where
  memory := .plain (values.map fun value => if value then 1 else 0).toArray
  type := .bool8
  width := 1
  dimensions := [⟨values.length, 1⟩]
  dimensions_ne_nil := by simp

def ofCells (cells : List Cell) : Tensor where
  memory := .objects cells.toArray
  type := .utf8Dynamic64
  width := cellWidth
  dimensions := [⟨cells.length, cellWidth⟩]
  dimensions_ne_nil := by simp

/-- The byte strides for strides in elements, none of which may be negative. -/
def byteStrides (width : Nat) (strides : List Int) : Except IngestError (List Nat) :=
  strides.mapM fun stride =>
    if stride < 0 then .error (.invalidTensor (.negativeStride stride))
    else .ok (stride.toNat * width)

/-- A view of the elements of another tensor, laid out anew by lengths and strides in elements. -/
def view (source : Tensor) (shape : List Nat) (strides : List Int) : Except IngestError Tensor :=
  match shape, strides with
  | size :: shape, stride :: strides => do
    let strides ← byteStrides source.width (stride :: strides)
    match List.zipWith Dimension.mk (size :: shape) strides with
    | first :: inner => return { source with
        dimensions := first :: inner
        dimensions_ne_nil := by simp }
    | [] => .error (.invalidTensor .zeroDimensional)
  | _, _ => .error (.invalidTensor .zeroDimensional)

/-- Records of `width` bytes each, `stride` bytes apart, which reach as far as `extent`. -/
def recordsWithin (extent : Nat) (bytes : Array UInt8) (width stride rows : Nat)
    (type : DataType) : Except IngestError Tensor :=
  if !type.isFixedString then .error (.invalidTensor (.notFixedString type))
  else if stride < width then .error (.invalidTensor (.shortStride stride width))
  else if bytes.size < extent then
    .error (.invalidTensor (.shortMemory rows width stride extent bytes.size))
  else .ok {
    memory := .plain bytes
    type
    width
    dimensions := [⟨rows, stride⟩]
    dimensions_ne_nil := by simp }

def ofRecords (bytes : Array UInt8) (width stride rows : Nat) (type : DataType) :
    Except IngestError Tensor :=
  recordsWithin (extentOf width [⟨rows, stride⟩]) bytes width stride rows type

/-- The same records with their extent in machine words. What does not depend on it is checked
before it is formed. -/
def ofRecordsWord (overflow : Overflow) (bytes : Array UInt8) (width stride rows : Nat)
    (type : DataType) : Option (Except IngestError Tensor) :=
  if !type.isFixedString || stride < width then
    some (recordsWithin 0 bytes width stride rows type)
  else
    (extentWord overflow width [⟨rows, stride⟩]).map fun extent =>
      recordsWithin extent bytes width stride rows type

/-- A tensor from its parts, as they come from the host. That the memory reaches as far as the
dimensions say is the promise of the caller. -/
def ofParts (memory : Memory) (type : DataType) (width : Nat) (shape strides : List Nat) :
    Except IngestError Tensor :=
  if shape.length ≠ strides.length then
    .error (.invalidTensor (.dimensions shape strides))
  else
    match List.zipWith Dimension.mk shape strides with
    | [] => .error (.invalidTensor (.dimensions shape strides))
    | first :: inner =>
      match memory with
      | .plain bytes => .ok ⟨.plain bytes, type, width, first :: inner, by simp⟩
      | .objects cells =>
        if width ≠ cellWidth then .error (.invalidTensor (.objectSize cellWidth width))
        else .ok ⟨.objects cells, type, width, first :: inner, by simp⟩

/-- Whether elements of a tensor may be seen as a type: cells as dynamic strings, plain data as
fixed strings of any width or as a type of the same width. -/
def accepts (tensor : Tensor) (type : DataType) : Bool :=
  if tensor.holdsObjects then type.isDynamicString
  else type.isFixedString ||
    (type.fixedWidth? = some tensor.width && !type.isDynamicString)

/-- The same elements, seen as another type. -/
def retag (tensor : Tensor) (type : DataType) : Except IngestError Tensor :=
  if tensor.accepts type then .ok { tensor with type }
  else .error (.invalidTensor (.incompatibleTag tensor.width tensor.type type))

def checkRows (tensor : Tensor) (first count : Nat) : Except IngestError Unit :=
  if first + count ≤ tensor.rows then .ok ()
  else .error (.outOfBounds (.tensorRows first count tensor.rows))

def checkBytes (tensor : Tensor) (offset length : Nat) : Except IngestError Unit :=
  if offset + length ≤ tensor.extent then .ok ()
  else .error (.outOfBounds (.tensorBytes offset length tensor.extent))

def bytesAt (tensor : Tensor) (offset length : Nat) : List UInt8 :=
  match tensor.memory with
  | .plain bytes => window bytes offset length
  | .objects _ => []

/-- The bytes of the rows from `first` on, without a copy. Only for packed plain data. -/
def contiguousBytes (tensor : Tensor) (first count : Nat) : Except IngestError (List UInt8) := do
  if tensor.holdsObjects || !tensor.isPacked tensor.width then
    .error (.internal .notContiguous)
  else
    tensor.checkRows first count
    let rowBytes := tensor.rowElements * tensor.width
    if count * rowBytes = 0 then return []
    else
      tensor.checkBytes (first * rowBytes) (count * rowBytes)
      return tensor.bytesAt (first * rowBytes) (count * rowBytes)

/-- Checks that the elements are plain data of the width of an element type. -/
def checkElement (tensor : Tensor) (element : PlainType) : Except IngestError Unit :=
  if tensor.holdsObjects || element.width ≠ tensor.width then
    .error (.schemaMismatch (.elementWidth element tensor.width tensor.type))
  else .ok ()

def cells (tensor : Tensor) : Except IngestError (Array Cell) :=
  match tensor.memory with
  | .plain _ => .error (.unsupportedType (.plainCells tensor.type))
  | .objects cells => .ok cells

def cellIn (cells : Array Cell) (offset : Nat) : Cell :=
  cells.getD (offset / cellWidth) .none

def cellAt (tensor : Tensor) (offset : Nat) : Except IngestError Cell := do
  let cells ← tensor.cells
  tensor.checkBytes offset tensor.width
  return cellIn cells offset

def recordAt (tensor : Tensor) (row : Nat) : Except IngestError (List UInt8) := do
  if tensor.holdsObjects then .error (.unsupportedType .objectRecords)
  else
    tensor.checkRows row 1
    tensor.checkBytes (row * tensor.rowStride) tensor.width
    return tensor.bytesAt (row * tensor.rowStride) tensor.width

end Tensor

end FrameIngest
