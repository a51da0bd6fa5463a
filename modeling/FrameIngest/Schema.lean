import FrameIngest.Error

namespace FrameIngest

/-- How the rows of a stream are found. -/
inductive IndexKind
  /-- By the nanosecond timestamps in the first fields. -/
  | timestamp
  /-- By position alone. -/
  | rowCount
  deriving DecidableEq

structure SchemaIndex where
  kind : IndexKind
  /-- How many of the first fields belong to the index. -/
  fieldCount : UInt32
  deriving DecidableEq

def SchemaIndex.rowCount : SchemaIndex :=
  ⟨.rowCount, 0⟩

structure SchemaField where
  name : String
  type : DataType
  deriving DecidableEq

structure Schema where
  streamId : String
  index : SchemaIndex
  fields : List SchemaField
  deriving DecidableEq

/-- A field of an Arrow schema, as far as column types come from it. -/
structure ArrowColumn where
  name : String
  type : ArrowType
  nullable : Bool

namespace Schema

def field (schema : Schema) (position : Nat) : Except IngestError SchemaField :=
  match schema.fields[position]? with
  | some field => .ok field
  | none => .error (.outOfBounds (.field position schema.streamId schema.fields.length))

def find? (schema : Schema) (name : String) : Option Nat :=
  schema.fields.findIdx? (·.name == name)

/-- The index of the fields from `first` to before `last`: what of it falls among them. -/
def subsetIndex (schema : Schema) (first last : Nat) : SchemaIndex :=
  if first < schema.index.fieldCount.toNat then
    ⟨schema.index.kind, (min (schema.index.fieldCount.toNat - first) (last - first)).toUInt32⟩
  else .rowCount

/-- The schema of the fields from `first` to before `last`. -/
def subset (schema : Schema) (first last : Nat) :
    Except IngestError Schema :=
  if last < first ∨ schema.fields.length < last then
    .error (.outOfBounds (.fieldRange first last schema.streamId schema.fields.length))
  else
    .ok {
      streamId := schema.streamId
      index := schema.subsetIndex first last
      fields := (schema.fields.take last).drop first }

/-- The Arrow schema. Every field may hold nulls, since strings and sparse numbers may be absent. -/
def toArrow (schema : Schema) : List ArrowColumn :=
  schema.fields.map fun field => ⟨field.name, field.type.toArrow none, true⟩

/-- The schema for an Arrow schema, whose types must all have a column type. -/
def ofArrow (streamId : String) (index : SchemaIndex) (columns : List ArrowColumn) :
    Except IngestError Schema := do
  let fields ← columns.mapM fun column =>
    match DataType.ofArrow? column.type with
    | some type => .ok ⟨column.name, type⟩
    | none => .error (.unsupportedType (.arrow column.type))
  return ⟨streamId, index, fields⟩

end Schema

end FrameIngest
