import FrameIngest.Error
import FrameIngest.Json.Print
import FrameIngest.Json.Record

namespace FrameIngest

structure Config where
  /-- The most rows of a slice. -/
  rowsPerSegment : Nat
  /-- The most columns of a slice. -/
  columnsPerSegment : Nat
  /-- Whether missing floating point numbers are left out of their columns. -/
  sparsifyFloats : Bool
  /-- Recorded for readers: columns may be grouped as they come rather than by the schema. -/
  bucketizeDynamic : Bool
  /-- Whether slices may be written at the same time. No result depends on it. -/
  parallelSlices : Bool
  deriving DecidableEq

namespace Config

def default : Config where
  rowsPerSegment := 100000
  columnsPerSegment := 127
  sparsifyFloats := false
  bucketizeDynamic := false
  parallelSlices := true

/-- A slice has room for a row and a column. -/
def validate (config : Config) : Except IngestError Unit :=
  if config.rowsPerSegment = 0 ∨ config.columnsPerSegment = 0 then
    .error (.emptySlices config.rowsPerSegment config.columnsPerSegment)
  else .ok ()

/-- What was read of a configuration so far. -/
structure Draft where
  rowsPerSegment : Option UInt64
  columnsPerSegment : Option UInt64
  sparsifyFloats : Option Bool
  bucketizeDynamic : Option Bool
  parallelSlices : Option Bool

open Json in
/-- The fields of a configuration, all of which may be missing. -/
def shape : Shape Draft Config where
  title := "struct IngestConfig"
  slots := [
    .ofReader "rows_per_segment" .size (·.rowsPerSegment)
      fun draft rowsPerSegment => { draft with rowsPerSegment },
    .ofReader "columns_per_segment" .size (·.columnsPerSegment)
      fun draft columnsPerSegment => { draft with columnsPerSegment },
    .ofReader "sparsify_floats" .boolean (·.sparsifyFloats)
      fun draft sparsifyFloats => { draft with sparsifyFloats },
    .ofReader "bucketize_dynamic" .boolean (·.bucketizeDynamic)
      fun draft bucketizeDynamic => { draft with bucketizeDynamic },
    .ofReader "parallel_slices" .boolean (·.parallelSlices)
      fun draft parallelSlices => { draft with parallelSlices }]
  blank := ⟨none, none, none, none, none⟩
  complete draft := .ok {
    rowsPerSegment := (draft.rowsPerSegment.map UInt64.toNat).getD default.rowsPerSegment
    columnsPerSegment := (draft.columnsPerSegment.map UInt64.toNat).getD default.columnsPerSegment
    sparsifyFloats := draft.sparsifyFloats.getD default.sparsifyFloats
    bucketizeDynamic := draft.bucketizeDynamic.getD default.bucketizeDynamic
    parallelSlices := draft.parallelSlices.getD default.parallelSlices }

def read (text : String) : Except IngestError Config :=
  (Json.decode shape.reader text).mapError .json

def ofJson (text : String) : Except IngestError Config := do
  let config ← read text
  config.validate
  return config

def toJson (config : Config) : Json.Value :=
  .object [
    ("rows_per_segment", .nat config.rowsPerSegment),
    ("columns_per_segment", .nat config.columnsPerSegment),
    ("sparsify_floats", .bool config.sparsifyFloats),
    ("bucketize_dynamic", .bool config.bucketizeDynamic),
    ("parallel_slices", .bool config.parallelSlices)]

end Config

/-- Checks that log lines can be appended to a file. An empty path names no file. -/
def checkLogFile (path : Option String) : Except IngestError Unit :=
  if path = some "" then .error .noSuchFile else .ok ()

end FrameIngest
