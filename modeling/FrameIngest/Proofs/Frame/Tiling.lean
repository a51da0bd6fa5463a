import Mathlib
import FrameIngest.Proofs.Frame.Fidelity

namespace FrameIngest

section Runs

variable {count size : Nat}

theorem length_runs (count size : Nat) : (runs count size).length = count ⌈/⌉ size := by
  rw [runs, List.length_map, List.length_range, Nat.ceilDiv_eq_add_pred_div]

/-- Only the run that ends with the numbers may be short. -/
theorem span_of_mem_runs {run : Nat × Nat} (member : run ∈ runs count size) :
    run.2 - run.1 ≤ size ∧ (run.2 - run.1 < size → run.2 = count) := by
  obtain ⟨index, _, rfl⟩ := List.mem_map.1 member
  have width : (index + 1) * size = index * size + size := Nat.succ_mul ..
  simp only
  omega

end Runs

/-- The order by the start of the rows, and among the same rows by that of the columns. -/
def Slice.Before (slice other : Slice) : Prop :=
  slice.rows.start < other.rows.start ∨
    slice.rows.start = other.rows.start ∧ slice.columns.start < other.columns.start

theorem length_cut (blocks groups : List (Nat × Nat)) :
    (cut blocks groups).length = blocks.length * groups.length := by
  simp [cut, List.length_flatMap]

theorem cut_pairwise_before {top bottom left right : Nat} {blocks groups : List (Nat × Nat)}
    (rows : Tiles top bottom blocks) (columns : Tiles left right groups) :
    (cut blocks groups).Pairwise Slice.Before := by
  have forward {start stop : Nat} {ranges : List (Nat × Nat)} (tiles : Tiles start stop ranges) :
      ranges.Pairwise fun range other => range.1 < other.1 :=
    tiles.pairwise.imp_of_mem fun member _ behind => (tiles.bounds member).2.trans_le behind
  refine List.pairwise_flatMap.2 ⟨fun block _ => ?_, ?_⟩
  · exact List.pairwise_map.2 ((forward columns).imp fun behind => Or.inr ⟨rfl, behind⟩)
  · refine (forward rows).imp fun behind slice member other otherMember => ?_
    obtain ⟨_, _, rfl⟩ := List.mem_map.1 member
    obtain ⟨_, _, rfl⟩ := List.mem_map.1 otherMember
    exact Or.inl behind

namespace InputFrame

/-- Whether a row of the stream and a column belong to a frame. -/
def HasCell (frame : InputFrame) (row column : Nat) : Prop :=
  (frame.offset ≤ row ∧ row < frame.offset + frame.rows) ∧ column < frame.tensors.length

/-- Slices that cover a frame in order: every cell once and nothing else, each slice with as many
rows and columns as it may have unless the frame ends there, and one block of rows after the other,
with all groups of columns in each of them. -/
structure TiledBy (frame : InputFrame) (config : Config) (slices : List Slice) : Prop where
  once : ∀ row column, frame.HasCell row column →
    ∃! index : Nat, ∃ slice : Slice, slices[index]? = some slice ∧ slice.contains row column = true
  within : ∀ slice ∈ slices, ∀ row column, slice.contains row column = true →
    frame.HasCell row column
  rows : ∀ slice ∈ slices, (0 < slice.rows.span ∧ slice.rows.span ≤ config.rowsPerSegment) ∧
    (slice.rows.span < config.rowsPerSegment → slice.rows.stop = frame.offset + frame.rows)
  columns : ∀ slice ∈ slices,
    (0 < slice.columns.span ∧ slice.columns.span ≤ config.columnsPerSegment) ∧
    (slice.columns.span < config.columnsPerSegment → slice.columns.stop = frame.tensors.length)
  count : slices.length = (frame.rows ⌈/⌉ config.rowsPerSegment) *
    (frame.tensors.length ⌈/⌉ config.columnsPerSegment)
  ordered : slices.Pairwise Slice.Before
  adjacent : ∃ blocks groups, slices = cut blocks groups ∧
    blocks.length = frame.rows ⌈/⌉ config.rowsPerSegment ∧
    groups.length = frame.tensors.length ⌈/⌉ config.columnsPerSegment

/-- The sums that are formed to cut off a slice: where its rows and its columns would end if the
frame went on, and where its rows begin and end in the stream. -/
def sums (frame : InputFrame) (config : Config) (slice : Slice) : List Nat :=
  [slice.rows.start - frame.offset + config.rowsPerSegment, slice.rows.start, slice.rows.stop,
    slice.columns.start + config.columnsPerSegment]

variable {frame : InputFrame} {config : Config} {slices : List Slice}

theorem length_blocks (frame : InputFrame) (config : Config) :
    (frame.blocks config).length = frame.rows ⌈/⌉ config.rowsPerSegment := by
  rw [blocks, List.length_map, length_runs]

section Cuts

variable (cuts : frame.slices config = .ok slices)
include cuts

/-- The rows and the columns of a slice are runs of those of the frame. -/
theorem mem_slices {slice : Slice} (member : slice ∈ slices) :
    (∃ run ∈ runs frame.rows config.rowsPerSegment,
      slice.rows.start = frame.offset + run.1 ∧ slice.rows.stop = frame.offset + run.2 ∧
      run.1 < run.2 ∧ run.2 ≤ frame.rows) ∧
    ∃ run ∈ runs frame.tensors.length config.columnsPerSegment,
      slice.columns.start = run.1 ∧ slice.columns.stop = run.2 ∧
      run.1 < run.2 ∧ run.2 ≤ frame.tensors.length := by
  obtain ⟨rfl, rows, columns⟩ := slices_eq cuts
  obtain ⟨inRows, inColumns⟩ := mem_cut member
  have rowBounds := (rows.bounds inRows).2
  have rowStop := rows.le_stop inRows
  refine ⟨?_, _, inColumns, rfl, rfl, (columns.bounds inColumns).2, columns.le_stop inColumns⟩
  obtain ⟨run, inRuns, ends⟩ := List.mem_map.1 inRows
  obtain ⟨starts, stops⟩ := Prod.mk.inj ends
  simp only at rowBounds rowStop
  exact ⟨run, inRuns, starts.symm, stops.symm, by omega, by omega⟩

theorem tiledBy_of_slices : frame.TiledBy config slices where
  once row column cell := by
    obtain ⟨rfl, rows, columns⟩ := slices_eq cuts
    obtain ⟨index, slice, found, inside, only⟩ :=
      cut_exists_unique rows columns cell.1 ⟨Nat.zero_le column, cell.2⟩
    refine ⟨index, ⟨slice, found, inside⟩, ?_⟩
    rintro place ⟨other, atPlace, otherInside⟩
    exact only place other atPlace otherInside
  within slice member row column inside := by
    obtain ⟨⟨block, _, top, bottom, _, toRows⟩, group, _, left, right, _, toColumns⟩ :=
      mem_slices cuts member
    obtain ⟨inRows, inColumns⟩ := Slice.contains_iff.1 inside
    exact ⟨by omega, by omega⟩
  rows slice member := by
    obtain ⟨⟨run, inRuns, top, bottom, forward, _⟩, _⟩ := mem_slices cuts member
    have span := span_of_mem_runs inRuns
    rw [RowRange.span, top, bottom]
    omega
  columns slice member := by
    obtain ⟨_, run, inRuns, left, right, forward, _⟩ := mem_slices cuts member
    have span := span_of_mem_runs inRuns
    rw [ColumnRange.span, left, right]
    omega
  count := by
    obtain ⟨rfl, _, _⟩ := slices_eq cuts
    rw [length_cut, length_blocks, length_runs]
  ordered := by
    obtain ⟨rfl, rows, columns⟩ := slices_eq cuts
    exact cut_pairwise_before rows columns
  adjacent := ⟨_, _, (slices_eq cuts).1, length_blocks frame config, length_runs ..⟩

theorem sums_lt (fits : frame.FitsWords config) {slice : Slice} (member : slice ∈ slices) :
    ∀ sum ∈ frame.sums config slice, sum < UInt64.size := by
  obtain ⟨few_rows, few_columns, ends, limits⟩ := fits
  obtain ⟨⟨block, inBlocks, top, bottom, tall, toRows⟩, group, inGroups, left, right, wide,
    toColumns⟩ := mem_slices cuts member
  have rowSum := add_lt_of_mem_runs inBlocks (by omega) few_rows limits.1
  have columnSum := add_lt_of_mem_runs inGroups (by omega) few_columns limits.2
  have start : slice.rows.start - frame.offset = block.1 := by omega
  intro sum formed
  simp only [sums, start, left, List.mem_cons, List.not_mem_nil, or_false] at formed
  rcases formed with rfl | rfl | rfl | rfl
  · exact rowSum
  · omega
  · omega
  · exact columnSum

end Cuts

/-- The slices of any frame tile it, as long as a slice has room for a row and a column, and cutting
it does not overflow however large the limits are. -/
theorem slices_tile (room : 0 < config.rowsPerSegment ∧ 0 < config.columnsPerSegment) :
    ∃ slices, frame.slices config = .ok slices ∧ frame.TiledBy config slices ∧
      (frame.rows < 2 ^ 63 → frame.tensors.length < 2 ^ 63 →
        frame.offset + frame.rows < UInt64.size →
        config.rowsPerSegment < UInt64.size ∧ config.columnsPerSegment < UInt64.size →
        (∀ slice ∈ slices, ∀ sum ∈ frame.sums config slice, sum < UInt64.size) ∧
        ∀ overflow, frame.slicesWord overflow config = some (.ok slices)) := by
  have roomy : config.validate = .ok () := by
    rw [Config.validate, if_neg (by omega)]
  obtain ⟨slices, cuts⟩ := @exists_slices frame config roomy
  refine ⟨slices, cuts, tiledBy_of_slices cuts, fun few_rows few_columns ends limits => ?_⟩
  have fits : frame.FitsWords config := ⟨few_rows, few_columns, ends, limits⟩
  refine ⟨fun _ member => sums_lt cuts fits member, fun overflow => ?_⟩
  rw [slicesWord_eq_some fits, cuts]

/-- Slices as large as the numbers of a machine allow. -/
def widestSlices : Config :=
  { Config.default with
    rowsPerSegment := UInt64.size - 1, columnsPerSegment := UInt64.size - 1 }

/-- In narrow slices the last block is short; the widest slice holds all, and its ends still fit. -/
theorem slices_tile_threeTicks :
    (∃ slices, threeTicks.slices narrowSlices = .ok slices ∧
      threeTicks.TiledBy narrowSlices slices ∧
      slices.map (·.rows) = [⟨7, 9⟩, ⟨7, 9⟩, ⟨9, 10⟩, ⟨9, 10⟩]) ∧
    ∃ slices, threeTicks.slices widestSlices = .ok slices ∧
      threeTicks.TiledBy widestSlices slices ∧ slices = [⟨⟨0, 2⟩, ⟨7, 10⟩⟩] ∧
      (∀ slice ∈ slices, ∀ sum ∈ threeTicks.sums widestSlices slice, sum < UInt64.size) ∧
      ∀ overflow, threeTicks.slicesWord overflow widestSlices = some (.ok slices) := by
  have narrowRoom : 0 < narrowSlices.rowsPerSegment ∧ 0 < narrowSlices.columnsPerSegment := by
    decide
  have widestRoom : 0 < widestSlices.rowsPerSegment ∧ 0 < widestSlices.columnsPerSegment := by
    decide
  obtain ⟨narrow, narrowCuts, narrowTiled, _⟩ := @slices_tile threeTicks narrowSlices narrowRoom
  obtain ⟨widest, widestCuts, widestTiled, fits⟩ := @slices_tile threeTicks widestSlices widestRoom
  have narrowRows : narrow.map (·.rows) = [⟨7, 9⟩, ⟨7, 9⟩, ⟨9, 10⟩, ⟨9, 10⟩] := by
    cases narrowCuts
    rfl
  have whole : widest = [⟨⟨0, 2⟩, ⟨7, 10⟩⟩] := by
    cases widestCuts
    rfl
  exact ⟨⟨narrow, narrowCuts, narrowTiled, narrowRows⟩, widest, widestCuts, widestTiled, whole,
    fits (by decide) (by decide) (by decide) (by decide)⟩

end InputFrame

end FrameIngest
