import FrameIngest.Config
import FrameIngest.Frame.Input
import FrameIngest.Overflow

namespace FrameIngest

/-- Cuts the numbers from 0 to before `count` into runs of length `size`, the last of which may be
shorter. -/
def runs (count size : Nat) : List (Nat × Nat) :=
  (List.range ((count + size - 1) / size)).map fun index =>
    (index * size, min ((index + 1) * size) count)

/-- The same runs, where the sum that ends a run before it is cut off has to fit into a machine
word. -/
def runsWord (overflow : Overflow) (count size : Nat) : Option (List (Nat × Nat)) :=
  (List.range ((count + size - 1) / size)).mapM fun index => do
    let reach ← overflow.add (index * size) size
    return (index * size, min reach count)

namespace InputFrame

/-- The slices of a frame: all column groups of a block of rows before the next block. Rows count
from the start of the stream. A frame without columns has none, however many rows it counts. -/
def slices (frame : InputFrame) (config : Config) :
    Except IngestError (List Slice) := do
  config.validate
  if frame.tensors.isEmpty then return []
  else return (runs frame.rows config.rowsPerSegment).flatMap fun block =>
    (runs frame.tensors.length config.columnsPerSegment).map fun group =>
      ⟨⟨group.1, group.2⟩, ⟨frame.offset + block.1, frame.offset + block.2⟩⟩

/-- The slices of a block of rows, which begins and ends as far behind the start of the stream as
fits into a machine word. -/
def blockWord (overflow : Overflow) (offset : Nat) (groups : List (Nat × Nat))
    (block : Nat × Nat) : Option (List Slice) := do
  let start ← overflow.add offset block.1
  let stop ← overflow.add offset block.2
  return groups.map fun group => ⟨⟨group.1, group.2⟩, ⟨start, stop⟩⟩

/-- The same slices with all sums in machine words. Nothing is added up for a frame without
cells. -/
def slicesWord (overflow : Overflow) (frame : InputFrame) (config : Config) :
    Option (Except IngestError (List Slice)) :=
  match config.validate with
  | .error e => some (.error e)
  | .ok () =>
    if frame.tensors.isEmpty || frame.rows == 0 then some (.ok [])
    else do
      let blocks ← runsWord overflow frame.rows config.rowsPerSegment
      let groups ← runsWord overflow frame.tensors.length config.columnsPerSegment
      let slices ← blocks.mapM (blockWord overflow frame.offset groups)
      return .ok slices.flatten

end InputFrame

end FrameIngest
