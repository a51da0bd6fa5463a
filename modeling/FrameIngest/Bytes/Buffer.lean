import FrameIngest.Bytes.LittleEndian
import FrameIngest.Error

namespace FrameIngest

structure Buffer where
  bytes : List UInt8
  deriving DecidableEq

namespace Buffer

def empty : Buffer := ⟨[]⟩

def zeroed (size : Nat) : Buffer := ⟨List.replicate size 0⟩

def size (buffer : Buffer) : Nat := buffer.bytes.length

def isEmpty (buffer : Buffer) : Bool := buffer.bytes.isEmpty

def ofNumbers (element : PlainType) (values : List Nat) : Buffer :=
  ⟨values.flatMap (LittleEndian.toBytes element.width)⟩

def append (buffer : Buffer) (bytes : List UInt8) : Buffer :=
  ⟨buffer.bytes ++ bytes⟩

def push (buffer : Buffer) (element : PlainType) (value : Nat) : Buffer :=
  buffer.append (LittleEndian.toBytes element.width value)

/-- The number of elements of the buffer, the last of which must be whole. -/
def count (buffer : Buffer) (element : PlainType) : Except IngestError Nat :=
  if buffer.size % element.width = 0 then .ok (buffer.size / element.width)
  else .error .partialElement

def get (buffer : Buffer) (element : PlainType) (position : Nat) : Nat :=
  LittleEndian.ofBytes ((buffer.bytes.drop (position * element.width)).take element.width)

def elements (buffer : Buffer) (element : PlainType) : Except IngestError (List Nat) := do
  let _ ← buffer.count element
  return LittleEndian.numbers element.width buffer.bytes

theorem getElem?_elements {buffer : Buffer} {element : PlainType} {size position : Nat}
    {values : List Nat} (counted : buffer.count element = .ok size)
    (found : buffer.elements element = .ok values) (inside : position < size) :
    values[position]? = some (buffer.get element position) := by
  rw [elements, counted] at found
  cases found
  rw [count] at counted
  split at counted
  · cases counted
    exact LittleEndian.getElem?_read inside
  · cases counted

def overwrite (buffer : Buffer) (offset : Nat) (bytes : List UInt8) : Buffer :=
  ⟨buffer.bytes.take offset ++ bytes ++ buffer.bytes.drop (offset + bytes.length)⟩

def set (buffer : Buffer) (element : PlainType) (position value : Nat) :
    Except IngestError Buffer := do
  let _ ← buffer.count element
  return buffer.overwrite (position * element.width)
    (LittleEndian.toBytes element.width value)

end Buffer

end FrameIngest
