import Mathlib
import FrameIngest.Proofs.Frame.RowBlocks
import FrameIngest.Proofs.Frame.Write

namespace FrameIngest

section Runs

variable {count size : Nat}

/-- Where a run would end fits a machine word, however long it may be: the first one ends at its
length, and any other begins behind one of that length. -/
theorem add_lt_of_mem_runs {run : Nat × Nat} (member : run ∈ runs count size)
    (inside : run.1 < count) (few : count < 2 ^ 63) (word : size < UInt64.size) :
    run.1 + size < UInt64.size := by
  obtain ⟨index, _, rfl⟩ := List.mem_map.1 member
  have limit : UInt64.size = 2 ^ 64 := rfl
  simp only at inside ⊢
  cases index with
  | zero => rwa [Nat.zero_mul, Nat.zero_add]
  | succ index =>
    have width : (index + 1) * size = index * size + size := Nat.succ_mul ..
    omega

theorem runsWord_eq_some {overflow : Overflow} (few : count < 2 ^ 63)
    (word : size < UInt64.size) : runsWord overflow count size = some (runs count size) := by
  refine mapM_eq_pure fun index member => ?_
  have inRuns : (index * size, min ((index + 1) * size) count) ∈ runs count size :=
    List.mem_map_of_mem member
  have inside : index * size < count := by
    rw [List.mem_range] at member
    rcases Nat.eq_zero_or_pos size with rfl | positive
    · rw [Nat.div_zero] at member
      cases member
    · exact (lt_runs_iff positive).1 member
  rw [Overflow.add_eq_some (add_lt_of_mem_runs inRuns inside few word), ← Nat.succ_mul]
  rfl

end Runs

/-- A cut has at most the rows between its ends: none if it has no columns. -/
theorem rowCount_cut_le {top bottom left right : Nat} {blocks groups : List (Nat × Nat)}
    (rows : Tiles top bottom blocks) (columns : Tiles left right groups) :
    top + rowCount (cut blocks groups) ≤ bottom := by
  by_cases no_groups : groups = []
  · rw [no_groups, cut_nil]
    exact rows.start_le_stop
  · exact (rowCount_cut rows columns no_groups).le

namespace InputFrame

/-- No end of a frame and no limit of its slices is beyond the machine words, of which less than
half are needed to count its rows, or its columns. -/
structure FitsWords (frame : InputFrame) (config : Config) : Prop where
  rows : frame.rows < 2 ^ 63
  columns : frame.tensors.length < 2 ^ 63
  ends : frame.offset + frame.rows < UInt64.size
  limits : config.rowsPerSegment < UInt64.size ∧ config.columnsPerSegment < UInt64.size

variable {frame : InputFrame} {config : Config} {slice : Slice} {slices : List Slice}
  {lock : DecodeLock} {overflow : Overflow}

theorem blockWord_eq_some {offset : Nat} {block : Nat × Nat}
    (groups : List (Nat × Nat)) (forward : block.1 < block.2)
    (fits : offset + block.2 < UInt64.size) :
    blockWord overflow offset groups block =
      some (groups.map fun group =>
        ⟨⟨group.1, group.2⟩, ⟨offset + block.1, offset + block.2⟩⟩) := by
  rw [blockWord, Overflow.add_eq_some (by omega), Overflow.add_eq_some fits]
  rfl

/-- Cutting a frame in machine words comes to the same slices. -/
theorem slicesWord_eq_some (fits : frame.FitsWords config) :
    frame.slicesWord overflow config = some (frame.slices config) := by
  unfold slicesWord InputFrame.slices
  cases valid : config.validate with
  | error e => rfl
  | ok =>
    by_cases no_tensors : frame.tensors.isEmpty = true
    · simp [no_tensors, bind, Except.bind, pure, Except.pure]
    by_cases no_rows : frame.rows = 0
    · simp [no_tensors, no_rows, runs_zero, bind, Except.bind, pure, Except.pure]
    have positive : 0 < config.rowsPerSegment := by
      unfold Config.validate at valid
      split at valid
      · cases valid
      · omega
    have blocks : (runs frame.rows config.rowsPerSegment).mapM
        (blockWord overflow frame.offset
          (runs frame.tensors.length config.columnsPerSegment)) =
        some ((runs frame.rows config.rowsPerSegment).map fun block =>
          (runs frame.tensors.length config.columnsPerSegment).map fun group =>
            ⟨⟨group.1, group.2⟩, ⟨frame.offset + block.1, frame.offset + block.2⟩⟩) := by
      refine mapM_eq_pure fun block member => ?_
      have tiles := runs_tiles frame.rows positive
      have ends := tiles.le_stop member
      have sum := fits.ends
      exact blockWord_eq_some _ (tiles.bounds member).2 (by omega)
    simp only [no_tensors, no_rows, runsWord_eq_some fits.rows fits.limits.1,
      runsWord_eq_some fits.columns fits.limits.2, blocks, Bool.false_or, beq_iff_eq,
      Bool.false_eq_true, if_false, bind, Option.bind, Except.bind, pure, Except.pure,
      List.flatMap]

/-- The rows of all slices that were written end with the frame. -/
theorem firstRow_add_rowCount_le {entries : List SliceEntry}
    (cuts : frame.slices config = .ok slices)
    (written : (frame.writeSlices config slices lock).1.mapM id = .ok entries) :
    (frame.gathered entries).firstRow + rowCount (frame.gathered entries).slices ≤
      frame.offset + frame.rows := by
  obtain ⟨whole, rows, columns⟩ := slices_eq cuts
  have here : (frame.gathered entries).slices = slices := (writeSlices_eq_ok written).1
  have total := rowCount_cut_le rows columns
  rw [here, whole]
  rcases FrameContext.firstRow_eq rows (here.trans whole) with nothing | first
  · have zero : (frame.gathered entries).firstRow = 0 := by
      rw [FrameContext.firstRow, nothing]
    omega
  · omega

theorem writeSliceWord_eq_some (behind : frame.offset ≤ slice.rows.start)
    (word : slice.rows.start < UInt64.size) :
    frame.writeSliceWord overflow config slice lock =
      some (frame.writeSlice config slice lock) := by
  unfold writeSliceWord writeSlice
  cases frame.schema.subset slice.columns.start slice.columns.stop with
  | error e => rfl
  | ok schema =>
    rw [Overflow.sub_eq_some behind word]
    rfl

theorem writeSlicesWord_eq_some
    (inside : ∀ slice ∈ slices, frame.offset ≤ slice.rows.start ∧
      slice.rows.start < UInt64.size) :
    frame.writeSlicesWord overflow config slices lock =
      some (frame.writeSlices config slices lock) := by
  induction slices generalizing lock with
  | nil => rfl
  | cons slice slices ih =>
    rw [List.forall_mem_cons] at inside
    rw [writeSlicesWord, writeSliceWord_eq_some inside.1.1 inside.1.2]
    simp only [bind, Option.bind, ih inside.2]
    rfl

/-- As long as the frame fits into the machine words, its slices are cut, written, and put in order
as if there were no end to them. -/
theorem writeWord_eq_some (fits : frame.FitsWords config) :
    frame.writeWord overflow config lock = some (frame.write config lock) := by
  unfold writeWord write
  rw [slicesWord_eq_some fits]
  cases cuts : frame.slices config with
  | error e => rfl
  | ok slices =>
    have ends := fits.ends
    have inside : ∀ slice ∈ slices, frame.offset ≤ slice.rows.start ∧
        slice.rows.start < UInt64.size := by
      obtain ⟨rfl, rows, _⟩ := slices_eq cuts
      intro slice member
      have bounds := rows.bounds (mem_cut member).1
      have stop := rows.le_stop (mem_cut member).1
      simp only at bounds stop
      omega
    simp only [bind, Option.bind, writeSlicesWord_eq_some inside]
    split
    · rfl
    · cases written : (frame.writeSlices config slices lock).1.mapM id with
      | error e => rfl
      | ok entries =>
        have below := firstRow_add_rowCount_le cuts written
        simp only [FrameContext.reconcileWord_eq_some (below.trans_lt ends)]
        rfl

end InputFrame

end FrameIngest
