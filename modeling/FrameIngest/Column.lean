import FrameIngest.Bytes.Buffer

namespace FrameIngest

inductive Storage
  /-- Nothing is written yet. -/
  | unallocated
  /-- Memory of the host. -/
  | external (bytes : List UInt8)
  | owned (buffer : Buffer)
  deriving DecidableEq

structure Column where
  type : DataType
  /-- Bytes of one value. -/
  width : Nat
  storage : Storage
  /-- For a sparse column, which rows have a value. -/
  presence : Option (List Bool)
  rows : Nat
  deriving DecidableEq

namespace Column

/-- A column before its first write. -/
def ofType (type : DataType) : Column where
  type
  width := type.fixedWidth?.getD 0
  storage := .unallocated
  presence := none
  rows := 0

def isAllocated (column : Column) : Bool :=
  match column.storage with
  | .unallocated => false
  | _ => true

def isExternal (column : Column) : Bool :=
  match column.storage with
  | .external _ => true
  | _ => false

def isSparse (column : Column) : Bool :=
  column.presence.isSome

/-- The stored bytes; of a sparse column the values that are present. -/
def bytes (column : Column) : List UInt8 :=
  match column.storage with
  | .unallocated => []
  | .external bytes => bytes
  | .owned buffer => buffer.bytes

def stored (column : Column) : Buffer :=
  ⟨column.bytes⟩

def checkWidth (column : Column) (element : PlainType) : Except IngestError Unit :=
  if element.width ≠ column.width then
    .error (.schemaMismatch (.columnWidth column.type column.width element))
  else .ok ()

/-- The stored values, as elements of a type that has their width. -/
def values (column : Column) (element : PlainType) : Except IngestError (List Nat) := do
  column.checkWidth element
  column.stored.elements element

def checkRow (column : Column) (row : Nat) : Except IngestError Unit :=
  if row < column.rows then .ok () else .error (.outOfBounds (.columnRow row column.rows))

/-- Where the value of a row is stored: in a sparse column behind as many values as rows before it
have one, and nowhere if the row has none. -/
def indexOf (column : Column) (row : Nat) : Option Nat :=
  match column.presence with
  | none => some row
  | some presence =>
    if presence.getD row false then some ((presence.take row).count true) else none

/-- The value of a row; none for a row that is absent from a sparse column. -/
def valueAt (column : Column) (element : PlainType) (row : Nat) :
    Except IngestError (Option Nat) := do
  column.checkRow row
  column.checkWidth element
  let count ← column.stored.count element
  match column.indexOf row with
  | none => return none
  | some index =>
    if index < count then return some (column.stored.get element index)
    else .error (.internal (.missingValue count row index))

def recordAt (column : Column) (row : Nat) : Except IngestError (List UInt8) := do
  if !column.type.isFixedString then .error (.schemaMismatch (.notFixedString column.type))
  else
    column.checkRow row
    return (column.bytes.drop (row * column.width)).take column.width

/-- Borrows the bytes of all rows. -/
def attach (column : Column) (bytes : List UInt8) (rows : Nat) : Column :=
  { column with storage := .external bytes, presence := none, rows }

def keep (column : Column) (buffer : Buffer) (rows : Nat) : Column :=
  { column with storage := .owned buffer, presence := none, rows }

def keepSparse (column : Column) (values : Buffer) (presence : List Bool) : Column :=
  { column with storage := .owned values, presence := some presence, rows := presence.length }

/-- Keeps records of a width of their own. -/
def keepRecords (column : Column) (width : Nat) (buffer : Buffer) (rows : Nat) : Column :=
  { column with width, storage := .owned buffer, presence := none, rows }

/-- Counts rows that need no storage. -/
def setRows (column : Column) (rows : Nat) : Column :=
  { column with storage := .unallocated, presence := none, rows }

end Column

end FrameIngest
