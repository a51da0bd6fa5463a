namespace FrameIngest

/-- The rows from `start` to before `stop`. -/
structure RowRange where
  start : Nat
  stop : Nat
  deriving DecidableEq

namespace RowRange

/-- The number of rows covered. -/
def span (range : RowRange) : Nat :=
  range.stop - range.start

def contains (range : RowRange) (row : Nat) : Bool :=
  range.start ≤ row ∧ row < range.stop

def describe (range : RowRange) : String :=
  s!"[{range.start}, {range.stop})"

end RowRange

/-- The columns from `start` to before `stop`. -/
structure ColumnRange where
  start : Nat
  stop : Nat
  deriving DecidableEq

namespace ColumnRange

/-- The number of columns covered. -/
def span (range : ColumnRange) : Nat :=
  range.stop - range.start

def contains (range : ColumnRange) (column : Nat) : Bool :=
  range.start ≤ column ∧ column < range.stop

end ColumnRange

/-- The cells in some rows and some columns of a frame. -/
structure Slice where
  columns : ColumnRange
  rows : RowRange
  deriving DecidableEq

/-- Whether a cell lies in a slice. -/
def Slice.contains (slice : Slice) (row column : Nat) : Bool :=
  slice.rows.contains row && slice.columns.contains column

end FrameIngest
