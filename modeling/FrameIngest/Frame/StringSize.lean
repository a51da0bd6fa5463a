import FrameIngest.Frame.Context

namespace FrameIngest.FrameContext

/-- The offsets that belong to a slice, out of the offsets of a whole column, the first of which
belongs to row `firstRow` of the frame. -/
def sliceOffsets (position : Nat) (slice : Slice) (source : Buffer) (firstRow : Nat) :
    Except IngestError (List Nat) := do
  let offsets ← source.elements Element.u64
  if slice.rows.start < firstRow then
    .error (.outOfBounds (.beforeBuffer position slice.rows.start firstRow))
  else
    let first := slice.rows.start - firstRow
    let last := first + slice.rows.span
    if offsets.length < last then
      .error (.outOfBounds (.afterBuffer position slice.rows first last offsets.length))
    else return (offsets.take last).drop first

/-- The pool of a slice, and those of its offsets that stand for strings. -/
def sliceStrings (context : FrameContext) (position : Nat) (source : Buffer) (firstRow : Nat) :
    Except IngestError (StringPool × List Nat) := do
  let pool ← context.pool position
  let entry ← context.entry position
  let offsets ← sliceOffsets position entry.slice source firstRow
  return (pool, offsets.filter isString)

/-- The length in bytes of the first string of a slice; zero if it has none. -/
def firstStringSize (context : FrameContext) (position : Nat) (source : Buffer)
    (firstRow : Nat) : Except IngestError Nat := do
  let (pool, offsets) ← context.sliceStrings position source firstRow
  match offsets with
  | [] => return 0
  | offset :: _ => return (← pool.view offset).length

/-- The length in bytes of the longest string of a slice; zero if it has none. -/
def maxStringSize (context : FrameContext) (position : Nat) (source : Buffer)
    (firstRow : Nat) : Except IngestError Nat := do
  let (pool, offsets) ← context.sliceStrings position source firstRow
  offsets.foldlM (fun longest offset => return max longest (← pool.view offset).length) 0

end FrameIngest.FrameContext
