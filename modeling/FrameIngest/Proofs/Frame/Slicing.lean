import Mathlib
import FrameIngest.Frame.Slicing

namespace FrameIngest

/-- Ranges that cover the numbers from `start` to before `stop` one behind the other, none of them
empty. -/
def Tiles (start stop : Nat) : List (Nat × Nat) → Prop
  | [] => start = stop
  | range :: ranges => range.1 = start ∧ start < range.2 ∧ Tiles range.2 stop ranges

theorem lt_runs_iff {count size index : Nat} (positive : 0 < size) :
    index < (count + size - 1) / size ↔ index * size < count := by
  rw [← Nat.succ_le_iff, Nat.le_div_iff_mul_le positive, Nat.succ_mul]
  omega

theorem runs_zero (size : Nat) : runs 0 size = [] := by
  rcases Nat.eq_zero_or_pos size with rfl | positive
  · rfl
  · rw [runs, Nat.div_eq_of_lt (by omega), List.range_zero, List.map_nil]

theorem runs_tiles {size : Nat} (count : Nat) (positive : 0 < size) :
    Tiles 0 count (runs count size) := by
  have rest : ∀ number first, first + number = (count + size - 1) / size →
      Tiles (min (first * size) count) count ((List.range' first number).map fun index =>
        (index * size, min ((index + 1) * size) count)) := by
    intro number
    induction number with
    | zero =>
      intro first last
      have beyond := mt (@lt_runs_iff count size first positive).2 (by omega)
      change min (first * size) count = count
      omega
    | succ number ih =>
      intro first last
      have inside := (@lt_runs_iff count size first positive).1 (by omega)
      have next := ih (first + 1) (by omega)
      rw [List.range'_succ, List.map_cons]
      have width : (first + 1) * size = first * size + size := Nat.succ_mul ..
      refine ⟨?_, ?_, next⟩
      · change first * size = _
        omega
      · change _ < min ((first + 1) * size) count
        omega
  have whole := rest _ 0 (Nat.zero_add _)
  rwa [Nat.zero_mul, Nat.zero_min, ← List.range_eq_range'] at whole

namespace Tiles

variable {start stop : Nat} {ranges : List (Nat × Nat)}

theorem shift (tiles : Tiles start stop ranges) (offset : Nat) :
    Tiles (offset + start) (offset + stop)
      (ranges.map fun range => (offset + range.1, offset + range.2)) := by
  induction ranges generalizing start with
  | nil => exact congrArg (offset + ·) tiles
  | cons range ranges ih =>
    obtain ⟨begins, some_inside, rest⟩ := tiles
    exact ⟨congrArg (offset + ·) begins, Nat.add_lt_add_left some_inside offset, ih rest⟩

theorem bounds (tiles : Tiles start stop ranges) {range : Nat × Nat} (member : range ∈ ranges) :
    start ≤ range.1 ∧ range.1 < range.2 := by
  induction ranges generalizing start with
  | nil => cases member
  | cons first ranges ih =>
    obtain ⟨begins, some_inside, rest⟩ := tiles
    rcases List.mem_cons.1 member with rfl | later
    · omega
    · have bound := ih rest later
      omega

theorem start_le_stop (tiles : Tiles start stop ranges) : start ≤ stop := by
  induction ranges generalizing start with
  | nil => exact Nat.le_of_eq tiles
  | cons first ranges ih =>
    obtain ⟨_, some_inside, rest⟩ := tiles
    exact some_inside.le.trans (ih rest)

theorem le_stop (tiles : Tiles start stop ranges) {range : Nat × Nat} (member : range ∈ ranges) :
    range.2 ≤ stop := by
  induction ranges generalizing start with
  | nil => cases member
  | cons first ranges ih =>
    obtain ⟨_, _, rest⟩ := tiles
    rcases List.mem_cons.1 member with rfl | later
    · exact rest.start_le_stop
    · exact ih rest later

theorem pairwise (tiles : Tiles start stop ranges) :
    ranges.Pairwise fun range other => range.2 ≤ other.1 := by
  induction ranges generalizing start with
  | nil => exact .nil
  | cons first ranges ih =>
    obtain ⟨_, _, rest⟩ := tiles
    exact .cons (fun _ member => (rest.bounds member).1) (ih rest)

theorem exists_mem (tiles : Tiles start stop ranges) {number : Nat} (from_start : start ≤ number)
    (below : number < stop) : ∃ range ∈ ranges, range.1 ≤ number ∧ number < range.2 := by
  induction ranges generalizing start with
  | nil =>
    have same : start = stop := tiles
    omega
  | cons first ranges ih =>
    obtain ⟨begins, _, rest⟩ := tiles
    by_cases inside : number < first.2
    · exact ⟨first, List.mem_cons_self, by omega, inside⟩
    · obtain ⟨range, member, found⟩ := ih rest (by omega)
      exact ⟨range, List.mem_cons_of_mem _ member, found⟩

theorem nodup_columnRanges (tiles : Tiles start stop ranges) :
    (ranges.map fun range => ColumnRange.mk range.1 range.2).Nodup := by
  refine List.pairwise_map.2 (tiles.pairwise.imp_of_mem fun member _ behind same => ?_)
  have some_inside := (tiles.bounds member).2
  have starts := congrArg ColumnRange.start same
  simp only at starts
  omega

end Tiles

/-- The slices of one block of rows. -/
def inBlock (block : RowRange) (columns : List ColumnRange) : List Slice :=
  columns.map fun range => ⟨range, block⟩

/-- The slices of blocks of rows, each cut into groups of columns. -/
def cut (blocks groups : List (Nat × Nat)) : List Slice :=
  blocks.flatMap fun block => groups.map fun group => ⟨⟨group.1, group.2⟩, ⟨block.1, block.2⟩⟩

theorem cut_nil (blocks : List (Nat × Nat)) : cut blocks [] = [] := by
  simp [cut]

theorem cut_cons (block : Nat × Nat) (blocks groups : List (Nat × Nat)) :
    cut (block :: blocks) groups =
      inBlock ⟨block.1, block.2⟩ (groups.map fun range => ⟨range.1, range.2⟩) ++
        cut blocks groups := by
  rw [cut, List.flatMap_cons, inBlock, List.map_map]
  rfl

/-- No cell lies in two slices. -/
def Slice.Apart (slice other : Slice) : Prop :=
  ∀ row column, ¬(slice.contains row column = true ∧ other.contains row column = true)

theorem RowRange.contains_iff {range : RowRange} {row : Nat} :
    range.contains row = true ↔ range.start ≤ row ∧ row < range.stop := by
  simp [contains]

theorem ColumnRange.contains_iff {range : ColumnRange} {column : Nat} :
    range.contains column = true ↔ range.start ≤ column ∧ column < range.stop := by
  simp [contains]

theorem Slice.contains_iff {slice : Slice} {row column : Nat} :
    slice.contains row column = true ↔
      (slice.rows.start ≤ row ∧ row < slice.rows.stop) ∧
        slice.columns.start ≤ column ∧ column < slice.columns.stop := by
  simp [contains, RowRange.contains, ColumnRange.contains]

section Cut

variable {top bottom left right : Nat} {blocks groups : List (Nat × Nat)}
  (rows : Tiles top bottom blocks) (columns : Tiles left right groups)
include rows columns

theorem cut_pairwise_apart : (cut blocks groups).Pairwise Slice.Apart := by
  refine List.pairwise_flatMap.2 ⟨fun block _ => ?_, ?_⟩
  · refine List.pairwise_map.2 (columns.pairwise.imp fun behind row column both => ?_)
    have here := Slice.contains_iff.1 both.1
    have there := Slice.contains_iff.1 both.2
    simp only at here there
    omega
  · refine rows.pairwise.imp fun behind slice member other otherMember row column both => ?_
    obtain ⟨_, _, rfl⟩ := List.mem_map.1 member
    obtain ⟨_, _, rfl⟩ := List.mem_map.1 otherMember
    have here := Slice.contains_iff.1 both.1
    have there := Slice.contains_iff.1 both.2
    simp only at here there
    omega

theorem cut_exists_mem {row column : Nat} (row_inside : top ≤ row ∧ row < bottom)
    (column_inside : left ≤ column ∧ column < right) :
    ∃ slice ∈ cut blocks groups, slice.contains row column = true := by
  obtain ⟨block, blockMember, inBlock⟩ := rows.exists_mem row_inside.1 row_inside.2
  obtain ⟨group, groupMember, inGroup⟩ := columns.exists_mem column_inside.1 column_inside.2
  exact ⟨_, List.mem_flatMap.2 ⟨block, blockMember, List.mem_map.2 ⟨group, groupMember, rfl⟩⟩,
    Slice.contains_iff.2 ⟨inBlock, inGroup⟩⟩

omit columns in
/-- The slices of a block of rows come before those of the next. -/
theorem cut_pairwise_start_le : (cut blocks groups).Pairwise fun slice other =>
    slice.rows.start ≤ other.rows.start := by
  refine List.pairwise_flatMap.2 ⟨fun block _ => ?_, ?_⟩
  · exact List.pairwise_map.2 (List.pairwise_of_forall fun _ _ => Nat.le_refl _)
  · refine rows.pairwise.imp_of_mem fun blockMember _ behind slice member other otherMember => ?_
    obtain ⟨_, _, rfl⟩ := List.mem_map.1 member
    obtain ⟨_, _, rfl⟩ := List.mem_map.1 otherMember
    exact (rows.bounds blockMember).2.le.trans behind

/-- Every cell lies in exactly one slice. -/
theorem cut_exists_unique {row column : Nat} (row_inside : top ≤ row ∧ row < bottom)
    (column_inside : left ≤ column ∧ column < right) :
    ∃ (index : Nat) (slice : Slice), (cut blocks groups)[index]? = some slice ∧
      slice.contains row column = true ∧
      ∀ (place : Nat) (other : Slice), (cut blocks groups)[place]? = some other →
        other.contains row column = true → place = index := by
  obtain ⟨slice, member, inside⟩ := cut_exists_mem rows columns row_inside column_inside
  obtain ⟨index, found⟩ := List.getElem?_of_mem member
  refine ⟨index, slice, found, inside, fun place other atPlace otherInside => ?_⟩
  have apart := List.pairwise_iff_getElem.1 (cut_pairwise_apart rows columns)
  obtain ⟨indexBelow, rfl⟩ := List.getElem?_eq_some_iff.1 found
  obtain ⟨placeBelow, rfl⟩ := List.getElem?_eq_some_iff.1 atPlace
  rcases Nat.lt_trichotomy place index with before | same | behind
  · exact absurd ⟨otherInside, inside⟩ (apart _ _ placeBelow indexBelow before row column)
  · exact same
  · exact absurd ⟨inside, otherInside⟩ (apart _ _ indexBelow placeBelow behind row column)

end Cut

theorem mem_cut {blocks groups : List (Nat × Nat)} {slice : Slice}
    (member : slice ∈ cut blocks groups) :
    (slice.rows.start, slice.rows.stop) ∈ blocks ∧
      (slice.columns.start, slice.columns.stop) ∈ groups := by
  obtain ⟨block, blockMember, within⟩ := List.mem_flatMap.1 member
  obtain ⟨group, groupMember, rfl⟩ := List.mem_map.1 within
  exact ⟨blockMember, groupMember⟩

/-- The place of a number in its run. -/
theorem sub_start_of_mem_runs {count size number : Nat} {run : Nat × Nat}
    (member : run ∈ runs count size) (from_start : run.1 ≤ number) (below : number < run.2) :
    number - run.1 = number % size := by
  obtain ⟨index, _, rfl⟩ := List.mem_map.1 member
  have width : (index + 1) * size = index * size + size := Nat.succ_mul ..
  simp only at from_start below ⊢
  have split : number = number - index * size + index * size := by omega
  rw [split, Nat.add_mul_mod_self_right, ← split, Nat.mod_eq_of_lt (by omega)]

namespace InputFrame

/-- The blocks of rows of a frame, counted from the start of the stream. -/
def blocks (frame : InputFrame) (config : Config) : List (Nat × Nat) :=
  (runs frame.rows config.rowsPerSegment).map fun block =>
    (frame.offset + block.1, frame.offset + block.2)

/-- The slices of a frame are a cut through all of it. -/
theorem slices_eq {frame : InputFrame} {config : Config} {slices : List Slice}
    (cuts : frame.slices config = .ok slices) :
    slices = cut (frame.blocks config) (runs frame.tensors.length config.columnsPerSegment) ∧
      Tiles frame.offset (frame.offset + frame.rows) (frame.blocks config) ∧
      Tiles 0 frame.tensors.length (runs frame.tensors.length config.columnsPerSegment) := by
  unfold InputFrame.slices Config.validate at cuts
  split at cuts
  · cases cuts
  · rename_i roomy
    have positive : 0 < config.rowsPerSegment ∧ 0 < config.columnsPerSegment := by omega
    have columns := runs_tiles frame.tensors.length positive.2
    refine ⟨?_, (runs_tiles frame.rows positive.1).shift frame.offset, columns⟩
    by_cases empty : frame.tensors.isEmpty = true
    · have nothing : frame.tensors.length = 0 := by simpa using empty
      simp only [empty, if_true, bind, Except.bind, pure, Except.pure] at cuts
      cases cuts
      simp [cut, nothing, runs_zero]
    · simp only [empty, bind, Except.bind, pure, Except.pure] at cuts
      cases cuts
      simp [cut, blocks, List.flatMap_map]

theorem exists_slices {frame : InputFrame} {config : Config} (roomy : config.validate = .ok ()) :
    ∃ slices, frame.slices config = .ok slices := by
  unfold InputFrame.slices
  rw [roomy]
  cases frame.tensors.isEmpty <;> exact ⟨_, rfl⟩

end InputFrame

end FrameIngest
