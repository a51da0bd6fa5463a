import FrameIngest.Bytes.LittleEndian
import FrameIngest.Bytes.Window
import FrameIngest.Error
import Std.Data.TreeMap

namespace FrameIngest

structure StringPool where
  storage : Array UInt8
  /-- The position of the entry of each string. -/
  positions : Std.TreeMap (List UInt8) Nat

/-- Where a string is kept, and whether it was new. -/
structure Interned where
  offset : Nat
  inserted : Bool
  deriving DecidableEq

namespace StringPool

/-- The bytes that hold the length of an entry. -/
def lengthWidth : Nat := 8

/-- The string of an entry at a position, unless the entry would reach beyond the storage. -/
def entryAt (storage : Array UInt8) (offset : Nat) : Option (List UInt8) :=
  if offset + lengthWidth ≤ storage.size then
    let length := LittleEndian.ofBytes (window storage offset lengthWidth)
    if offset + lengthWidth + length ≤ storage.size then
      some (window storage (offset + lengthWidth) length)
    else none
  else none

def empty : StringPool := ⟨#[], ∅⟩

def entryOf (content : List UInt8) : List UInt8 :=
  LittleEndian.toBytes lengthWidth content.length ++ content

def size (pool : StringPool) : Nat := pool.positions.size

def isEmpty (pool : StringPool) : Bool := pool.positions.isEmpty

def byteSize (pool : StringPool) : Nat := pool.storage.size

/-- The position of the entry with this content. -/
def find? (pool : StringPool) (content : List UInt8) : Option Nat :=
  pool.positions[content]?

/-- Adds an entry at the end. -/
def add (pool : StringPool) (content : List UInt8) : StringPool :=
  let position := pool.storage.size
  { storage := pool.storage ++ (entryOf content).toArray
    positions := pool.positions.insert content position }

@[simp] theorem find?_empty (content : List UInt8) : empty.find? content = none := by
  simp [find?, empty]

theorem find?_add (pool : StringPool) (content other : List UInt8) :
    (pool.add content).find? other =
      if content = other then some pool.storage.size else pool.find? other := by
  simp [find?, add, Std.TreeMap.getElem?_insert]

/-- The entry with this content, which is added if there is none. -/
def intern (pool : StringPool) (content : List UInt8) : Interned × StringPool :=
  match pool.find? content with
  | some offset => (⟨offset, false⟩, pool)
  | none => (⟨pool.storage.size, true⟩, pool.add content)

def view (pool : StringPool) (offset : Nat) : Except IngestError (List UInt8) :=
  if !isString offset then .error (.outOfBounds (.sentinel offset))
  else
    match entryAt pool.storage offset with
    | some content => .ok content
    | none => .error (.outOfBounds (.poolOffset offset pool.byteSize))

/-- A summary for messages. -/
def describe (pool : StringPool) : String :=
  "StringPool \x7b strings: " ++ s!"{pool.size}, bytes: {pool.byteSize}" ++ " \x7d"

end StringPool

end FrameIngest
