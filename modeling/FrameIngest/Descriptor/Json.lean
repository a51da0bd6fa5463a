import FrameIngest.Descriptor.Basic
import FrameIngest.Json.Print
import FrameIngest.Json.Record

namespace FrameIngest

open Json

/-- A member that is left out when there is nothing to say. -/
def optionalMember (name : String) (toJson : α → Value) : Option α → List (String × Value)
  | none => []
  | some value => [(name, toJson value)]

/-- The name that a value has in a table of names. -/
def nameIn [DecidableEq α] (names : List (String × α)) (value : α) : Value :=
  .string (((names.find? (·.2 = value)).map (·.1)).getD "")

def DataType.names : List (String × DataType) :=
  DataType.all.map fun type => (type.name, type)

def IndexKind.names : List (String × IndexKind) :=
  [("timestamp", .timestamp), ("row_count", .rowCount)]

namespace SchemaIndex

structure Draft where
  kind : Option IndexKind
  fieldCount : Option UInt32

def shape : Shape Draft SchemaIndex where
  title := "struct IndexDescriptor"
  slots := [
    .ofReader "kind" (.variant IndexKind.names) (·.kind) fun draft kind => { draft with kind },
    .ofReader "field_count" .short (·.fieldCount)
      fun draft fieldCount => { draft with fieldCount }]
  blank := ⟨none, none⟩
  complete draft := do
    let kind ← require "kind" draft.kind
    let fieldCount ← require "field_count" draft.fieldCount
    return { kind, fieldCount }

def toJson (index : SchemaIndex) : Value :=
  .object [
    ("kind", nameIn IndexKind.names index.kind),
    ("field_count", .nat index.fieldCount.toNat)]

end SchemaIndex

namespace SchemaField

structure Draft where
  name : Option String
  type : Option DataType

def shape : Shape Draft SchemaField where
  title := "struct FieldDescriptor"
  slots := [
    .ofReader "name" .string (·.name) fun draft name => { draft with name },
    .ofReader "data_type" (.variant DataType.names) (·.type)
      fun draft type => { draft with type }]
  blank := ⟨none, none⟩
  complete draft := do
    let name ← require "name" draft.name
    let type ← require "data_type" draft.type
    return { name, type }

def toJson (field : SchemaField) : Value :=
  .object [("name", .string field.name), ("data_type", .string field.type.name)]

end SchemaField

namespace Schema

structure Draft where
  streamId : Option String
  index : Option SchemaIndex
  fields : Option (List SchemaField)

def shape : Shape Draft Schema where
  title := "struct StreamDescriptor"
  slots := [
    .ofReader "stream_id" .string (·.streamId) fun draft streamId => { draft with streamId },
    .ofReader "index" SchemaIndex.shape.reader (·.index)
      fun draft index => { draft with index },
    .ofReader "fields" (.list SchemaField.shape.reader) (·.fields)
      fun draft fields => { draft with fields }]
  blank := ⟨none, none, none⟩
  complete draft := do
    let streamId ← require "stream_id" draft.streamId
    let index ← require "index" draft.index
    let fields ← require "fields" draft.fields
    return { streamId, index, fields }

def toJson (schema : Schema) : Value :=
  .object [
    ("stream_id", .string schema.streamId),
    ("index", schema.index.toJson),
    ("fields", .array (schema.fields.map SchemaField.toJson))]

end Schema

def KeyType.names : List (String × KeyType) :=
  [("table_data", .tableData), ("table_index", .tableIndex), ("version", .version)]

namespace StorageKey

structure Draft where
  streamId : Option String
  type : Option KeyType
  versionId : Option UInt64
  created : Option Int64
  contentHash : Option UInt64
  startIndex : Option Int64
  endIndex : Option Int64

def shape : Shape Draft StorageKey where
  title := "struct AtomKey"
  slots := [
    .ofReader "stream_id" .string (·.streamId) fun draft streamId => { draft with streamId },
    .ofReader "key_type" (.variant KeyType.names) (·.type) fun draft type => { draft with type },
    .ofReader "version_id" .word (·.versionId) fun draft versionId => { draft with versionId },
    .ofReader "creation_ts" .long (·.created) fun draft created => { draft with created },
    .ofReader "content_hash" .word (·.contentHash)
      fun draft contentHash => { draft with contentHash },
    .ofReader "start_index" .long (·.startIndex)
      fun draft startIndex => { draft with startIndex },
    .ofReader "end_index" .long (·.endIndex) fun draft endIndex => { draft with endIndex }]
  blank := ⟨none, none, none, none, none, none, none⟩
  complete draft := do
    let streamId ← require "stream_id" draft.streamId
    let type ← require "key_type" draft.type
    let versionId ← require "version_id" draft.versionId
    let created ← require "creation_ts" draft.created
    let contentHash ← require "content_hash" draft.contentHash
    let startIndex ← require "start_index" draft.startIndex
    let endIndex ← require "end_index" draft.endIndex
    return { streamId, type, versionId, created, contentHash, startIndex, endIndex }

def toJson (key : StorageKey) : Value :=
  .object [
    ("stream_id", .string key.streamId),
    ("key_type", nameIn KeyType.names key.type),
    ("version_id", .nat key.versionId.toNat),
    ("creation_ts", .int key.created.toInt),
    ("content_hash", .nat key.contentHash.toNat),
    ("start_index", .int key.startIndex.toInt),
    ("end_index", .int key.endIndex.toInt)]

/-- Reads a key. -/
def ofJson (text : String) : Except IngestError StorageKey :=
  (decode shape.reader text).mapError .json

end StorageKey

namespace IndexNormalization

structure Draft where
  name : Option (Option String)
  isPhysicallyStored : Option Bool
  timezone : Option (Option String)

def shape : Shape Draft IndexNormalization where
  title := "struct IndexNormalization"
  slots := [
    .ofReader "name" (.optional .string) (·.name) fun draft name => { draft with name },
    .ofReader "is_physically_stored" .boolean (·.isPhysicallyStored)
      fun draft isPhysicallyStored => { draft with isPhysicallyStored },
    .ofReader "timezone" (.optional .string) (·.timezone)
      fun draft timezone => { draft with timezone }]
  blank := ⟨none, none, none⟩
  complete draft := do
    let isPhysicallyStored ← require "is_physically_stored" draft.isPhysicallyStored
    return {
      name := draft.name.getD none
      isPhysicallyStored
      timezone := draft.timezone.getD none }

def toJson (index : IndexNormalization) : Value :=
  .object <|
    optionalMember "name" .string index.name ++
      ("is_physically_stored", .bool index.isPhysicallyStored) ::
      optionalMember "timezone" .string index.timezone

end IndexNormalization

namespace Normalization

/-- The shapes, as the tag tells them apart. -/
inductive Kind
  | dataFrame | series | ndArray | raw
  deriving DecidableEq

def Kind.names : List (String × Kind) :=
  [("data_frame", .dataFrame), ("series", .series), ("nd_array", .ndArray), ("raw", .raw)]

structure DataFrameDraft where
  index : Option IndexNormalization
  renamed : Option (List (String × String))

def dataFrameShape : Shape DataFrameDraft Normalization where
  title := "struct variant NormalizationMetadata::DataFrame"
  slots := [
    .ofReader "index" IndexNormalization.shape.reader (·.index)
      fun draft index => { draft with index },
    .ofReader "renamed_columns" (.list (.pair .string)) (·.renamed)
      fun draft renamed => { draft with renamed }]
  blank := ⟨none, none⟩
  complete draft := do
    let index ← require "index" draft.index
    return .dataFrame index (draft.renamed.getD [])

structure SeriesDraft where
  index : Option IndexNormalization
  name : Option (Option String)

def seriesShape : Shape SeriesDraft Normalization where
  title := "struct variant NormalizationMetadata::Series"
  slots := [
    .ofReader "index" IndexNormalization.shape.reader (·.index)
      fun draft index => { draft with index },
    .ofReader "name" (.optional .string) (·.name) fun draft name => { draft with name }]
  blank := ⟨none, none⟩
  complete draft := do
    let index ← require "index" draft.index
    return .series index (draft.name.getD none)

def ndArrayShape : Shape (Option (List UInt64)) Normalization where
  title := "struct variant NormalizationMetadata::NdArray"
  slots := [.ofReader "shape" (.list .size) id fun _ shape => shape]
  blank := none
  complete draft := do return .ndArray (← require "shape" draft)

/-- Nothing is read beside the tag; an array may hold nothing else. -/
def rawRest (reading : Reading) : Tagged Kind → Except Error Normalization
  | .inMembers _ _ => .ok .raw
  | .inItems _ items => do
    items.surplus reading 0
    return .raw

/-- Reads the fields that belong to a tag. -/
def ofTagged (reading : Reading) (tagged : Tagged Kind) : Except Error Normalization :=
  match tagged.variant with
  | .dataFrame => tagged.record dataFrameShape reading
  | .series => tagged.record seriesShape reading
  | .ndArray => tagged.record ndArrayShape reading
  | .raw => rawRest reading tagged

def reader : Reader Normalization := fun reading node => do
  let (reading, tagged) ← Tagged.reader "input_type"
    "internally tagged enum NormalizationMetadata" Kind.names reading node
  ofTagged reading tagged

def renamedToJson (renamed : List (String × String)) : List (String × Value) :=
  if renamed.isEmpty then []
  else [("renamed_columns",
    .array (renamed.map fun names => .array [.string names.1, .string names.2]))]

def toJson : Normalization → Value
  | dataFrame index renamed =>
    .object (("input_type", .string "data_frame") :: ("index", index.toJson) ::
      renamedToJson renamed)
  | series index name =>
    .object (("input_type", .string "series") :: ("index", index.toJson) ::
      optionalMember "name" .string name)
  | ndArray shape =>
    .object [("input_type", .string "nd_array"),
      ("shape", .array (shape.map fun size => .nat size.toNat))]
  | raw => .object [("input_type", .string "raw")]

/-- Reads a normalization. -/
def ofJson (text : String) : Except IngestError Normalization :=
  (decode reader text).mapError .json

end Normalization

namespace FrameDescriptor

structure Draft where
  totalRows : Option UInt64
  schema : Option Schema
  normalization : Option Normalization
  userMetadata : Option (Option Value)
  previousKey : Option (Option StorageKey)
  nextKey : Option (Option StorageKey)
  bucketizeDynamic : Option Bool

def shape : Shape Draft FrameDescriptor where
  title := "struct FrameDescriptor"
  slots := [
    .ofReader "total_rows" .word (·.totalRows) fun draft totalRows => { draft with totalRows },
    .ofReader "stream_descriptor" Schema.shape.reader (·.schema)
      fun draft schema => { draft with schema },
    .ofReader "normalization" Normalization.reader (·.normalization)
      fun draft normalization => { draft with normalization },
    .ofReader "user_metadata" (.optional .any) (·.userMetadata)
      fun draft userMetadata => { draft with userMetadata },
    .ofReader "prev_key" (.optional StorageKey.shape.reader) (·.previousKey)
      fun draft previousKey => { draft with previousKey },
    .ofReader "next_key" (.optional StorageKey.shape.reader) (·.nextKey)
      fun draft nextKey => { draft with nextKey },
    .ofReader "bucketize_dynamic" .boolean (·.bucketizeDynamic)
      fun draft bucketizeDynamic => { draft with bucketizeDynamic }]
  blank := ⟨none, none, none, none, none, none, none⟩
  complete draft := do
    let totalRows ← require "total_rows" draft.totalRows
    let schema ← require "stream_descriptor" draft.schema
    let normalization ← require "normalization" draft.normalization
    let bucketizeDynamic ← require "bucketize_dynamic" draft.bucketizeDynamic
    return {
      totalRows, schema, normalization, bucketizeDynamic
      userMetadata := draft.userMetadata.getD none
      previousKey := draft.previousKey.getD none
      nextKey := draft.nextKey.getD none }

def toValue (descriptor : FrameDescriptor) : Value :=
  .object <|
    ("total_rows", .nat descriptor.totalRows.toNat) ::
    ("stream_descriptor", descriptor.schema.toJson) ::
    ("normalization", descriptor.normalization.toJson) ::
    (optionalMember "user_metadata" id descriptor.userMetadata ++
      optionalMember "prev_key" StorageKey.toJson descriptor.previousKey ++
      optionalMember "next_key" StorageKey.toJson descriptor.nextKey ++
      [("bucketize_dynamic", .bool descriptor.bucketizeDynamic)])

/-- The text of a descriptor. -/
def toJson (descriptor : FrameDescriptor) : String :=
  descriptor.toValue.print

/-- Reads a descriptor. -/
def ofJson (text : String) : Except IngestError FrameDescriptor :=
  (decode shape.reader text).mapError .json

end FrameDescriptor

end FrameIngest
