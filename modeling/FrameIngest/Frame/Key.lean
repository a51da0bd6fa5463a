import FrameIngest.Time.Calendar

namespace FrameIngest

inductive KeyType
  | tableData | tableIndex | version
  deriving DecidableEq

def KeyType.title : KeyType → String
  | .tableData => "TableData"
  | .tableIndex => "TableIndex"
  | .version => "Version"

/-- A storage key, as the catalog of versions gives it out. -/
structure StorageKey where
  streamId : String
  type : KeyType
  versionId : UInt64
  /-- Nanoseconds since the start of 1970. -/
  created : Int64
  contentHash : UInt64
  startIndex : Int64
  endIndex : Int64
  deriving DecidableEq

namespace StorageKey

def createdAt (key : StorageKey) : String :=
  Calendar.instant key.created.toInt

def describe (key : StorageKey) : String :=
  let hash := String.ofList (Decimal.hexadecimal key.contentHash.toNat)
  let created := String.ofList (Decimal.whole key.created.toInt)
  s!"{key.type.title}:{key.streamId}:v{key.versionId.toNat}:0x{hash}@{created}"

end StorageKey

end FrameIngest
