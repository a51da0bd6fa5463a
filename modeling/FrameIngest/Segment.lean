import FrameIngest.Column
import FrameIngest.Schema
import FrameIngest.StringPool

namespace FrameIngest

structure Segment where
  schema : Schema
  columns : List Column
  pool : Option StringPool
  rows : Nat

namespace Segment

/-- A segment before its first write. -/
def ofSchema (schema : Schema) : Segment where
  schema
  columns := schema.fields.map fun field => Column.ofType field.type
  pool := none
  rows := 0

def column (segment : Segment) (position : Nat) : Except IngestError Column :=
  match segment.columns[position]? with
  | some column => .ok column
  | none => .error (.outOfBounds (.column position segment.columns.length))

def setColumn (segment : Segment) (position : Nat) (column : Column) : Segment :=
  { segment with columns := segment.columns.set position column }

/-- Checks that a write agrees in length with the columns that have rows already. -/
def checkRows (segment : Segment) (position rows : Nat) : Except IngestError Unit :=
  if segment.rows ≠ 0 ∧ rows ≠ segment.rows then
    .error (.schemaMismatch (.segmentRows position rows segment.rows))
  else .ok ()

/-- The string in a row of a dynamic string column; none for a missing value or a NaN. -/
def stringAt (segment : Segment) (position row : Nat) :
    Except IngestError (Option (List UInt8)) := do
  let column ← segment.column position
  if !column.type.isDynamicString then
    .error (.schemaMismatch (.notPooled position column.type))
  else
    match ← column.valueAt Element.u64 row with
    | none => .error (.internal .sparseStrings)
    | some offset =>
      if !isString offset then return none
      else
        match segment.pool with
        | none => .error (.internal (.noPool position))
        | some pool => some <$> pool.view offset

end Segment

end FrameIngest
