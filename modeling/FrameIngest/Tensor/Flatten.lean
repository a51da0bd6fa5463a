import FrameIngest.Tensor.Basic

namespace FrameIngest.Tensor

/-- The offsets of all elements in row-major order, the first one at `base`. -/
def offsets : List Dimension → (base : Nat) → List Nat
  | [], base => [base]
  | d :: inner, base => (List.range d.size).flatMap fun index =>
    offsets inner (base + index * d.stride)

def rowOffsets (tensor : Tensor) (first count : Nat) : List Nat :=
  offsets (⟨count, tensor.rowStride⟩ :: tensor.inner) (first * tensor.rowStride)

/-- The elements of the rows from `first` on, each by its bytes. -/
def elements (tensor : Tensor) (element : PlainType) (first count : Nat) :
    Except IngestError (List (List UInt8)) := do
  tensor.checkRows first count
  if count * tensor.rowElements = 0 then return []
  else
    tensor.checkElement element
    return (tensor.rowOffsets first count).map fun offset => tensor.bytesAt offset tensor.width

def flatten (tensor : Tensor) (element : PlainType) (first count : Nat) :
    Except IngestError (List UInt8) := do
  return (← tensor.elements element first count).flatten

def flattenCells (tensor : Tensor) (first count : Nat) : Except IngestError (List Cell) := do
  tensor.checkRows first count
  if count * tensor.rowElements = 0 then return []
  else
    let cells ← tensor.cells
    return (tensor.rowOffsets first count).map (cellIn cells)

end FrameIngest.Tensor
