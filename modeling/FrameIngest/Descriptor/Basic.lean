import FrameIngest.Frame.Key
import FrameIngest.Json.Value
import FrameIngest.Schema

namespace FrameIngest

/-- How the index that the host knows relates to stored fields. -/
structure IndexNormalization where
  name : Option String
  /-- Whether the index was a column, and not made up to count rows. -/
  isPhysicallyStored : Bool
  timezone : Option String
  deriving DecidableEq

/-- The shape that the host knows a frame by. -/
inductive Normalization
  /-- A table; `renamed` gives the host's names of columns that could not be field names, by the
  names of the fields. -/
  | dataFrame (index : IndexNormalization) (renamed : List (String × String))
  | series (index : IndexNormalization) (name : Option String)
  /-- An array of any rank, flattened to rows. -/
  | ndArray (shape : List UInt64)
  /-- Stored as it is. -/
  | raw
  deriving DecidableEq

structure FrameDescriptor where
  totalRows : UInt64
  schema : Schema
  normalization : Normalization
  /-- Metadata that the user attached, of any content. -/
  userMetadata : Option Json.Value
  previousKey : Option StorageKey
  nextKey : Option StorageKey
  bucketizeDynamic : Bool

namespace FrameDescriptor

/-- Whether two descriptors say the same. -/
def same (a b : FrameDescriptor) : Bool :=
  a.totalRows == b.totalRows && a.schema == b.schema && a.normalization == b.normalization &&
    a.userMetadata == b.userMetadata && a.previousKey == b.previousKey &&
    a.nextKey == b.nextKey && a.bucketizeDynamic == b.bucketizeDynamic

def arrowSchema (descriptor : FrameDescriptor) : List ArrowColumn :=
  descriptor.schema.toArrow

/-- The descriptor after an append: schema and metadata stay, and the next version is not known. -/
def append (existing : FrameDescriptor) (totalRows : Nat) (previousKey : Option StorageKey)
    (bucketizeDynamic : Bool) : FrameDescriptor :=
  { existing with totalRows := totalRows.toUInt64, previousKey, nextKey := none, bucketizeDynamic }

/-- What a catalog of versions knows about streams: the key before the current one, and the key
after it. -/
structure Catalog where
  previous : String → Option StorageKey
  next : String → Option StorageKey

/-- Takes over the links that the catalog knows for a stream. -/
def link (descriptor : FrameDescriptor) (catalog : Catalog) (streamId : String) :
    FrameDescriptor :=
  { descriptor with
    previousKey := (catalog.previous streamId).or descriptor.previousKey
    nextKey := (catalog.next streamId).or descriptor.nextKey }

end FrameDescriptor

end FrameIngest
