import FrameIngest.Frame.Range
import FrameIngest.Overflow

namespace FrameIngest

/-- The row group that a walk through a sequence of slices is in: neighbours that cover the same rows
with different columns. -/
structure RowGroup where
  rows : Option RowRange
  columns : List ColumnRange
  deriving DecidableEq

namespace RowGroup

/-- Before the first slice. -/
def none : RowGroup := ⟨Option.none, []⟩

/-- Whether a slice starts a new group. Producers may all number their rows from zero, so equal rows
alone do not make a group. -/
def isLeftBy (group : RowGroup) (slice : Slice) : Bool :=
  group.rows ≠ some slice.rows || group.columns.contains slice.columns

/-- The group after a slice. -/
def next (group : RowGroup) (slice : Slice) : RowGroup :=
  if group.isLeftBy slice then ⟨some slice.rows, [slice.columns]⟩
  else { group with columns := group.columns ++ [slice.columns] }

/-- The number of rows of each group that a sequence of slices starts. -/
def spans : RowGroup → List Slice → List Nat
  | _, [] => []
  | group, slice :: slices =>
    if group.isLeftBy slice then slice.rows.span :: spans (group.next slice) slices
    else spans (group.next slice) slices

/-- Moves the groups one behind the other; `current` is where the last one went. -/
def rebase : RowGroup → (current : RowRange) → List Slice → List Slice × RowRange
  | _, current, [] => ([], current)
  | group, current, slice :: slices =>
    let placed := if group.isLeftBy slice then ⟨current.stop, current.stop + slice.rows.span⟩
      else current
    let (moved, last) := rebase (group.next slice) placed slices
    ({ slice with rows := placed } :: moved, last)

/-- Where a slice is moved to, as far as its end fits into a machine word. -/
def placeWord (overflow : Overflow) (group : RowGroup) (current : RowRange) (slice : Slice) :
    Option RowRange :=
  if group.isLeftBy slice then
    (overflow.add current.stop slice.rows.span).map (RowRange.mk current.stop)
  else some current

/-- The same move with the ends of the groups added as machine words. -/
def rebaseWord (overflow : Overflow) :
    RowGroup → (current : RowRange) → List Slice → Option (List Slice × RowRange)
  | _, current, [] => some ([], current)
  | group, current, slice :: slices => do
    let placed ← group.placeWord overflow current slice
    let (moved, last) ← rebaseWord overflow (group.next slice) placed slices
    return ({ slice with rows := placed } :: moved, last)

end RowGroup

/-- The rows of a sequence of slices, those of a group counted once. -/
def rowCount (slices : List Slice) : Nat :=
  (RowGroup.none.spans slices).foldr (· + ·) 0

def rowCountWord (overflow : Overflow) (slices : List Slice) : Option Nat :=
  overflow.sum (RowGroup.none.spans slices)

/-- The slices with their row groups one behind the other from row `base` on, and the row after
the last of them. -/
def rebaseRows (base : Nat) (slices : List Slice) : List Slice × Nat :=
  let (moved, last) := RowGroup.none.rebase ⟨base, base⟩ slices
  (moved, last.stop)

def rebaseRowsWord (overflow : Overflow) (base : Nat) (slices : List Slice) :
    Option (List Slice × Nat) := do
  let (moved, last) ← RowGroup.none.rebaseWord overflow ⟨base, base⟩ slices
  return (moved, last.stop)

end FrameIngest
