import Mathlib
import FrameIngest.Proofs.Frame.Reconcile
import FrameIngest.Proofs.Frame.WordRows

namespace FrameIngest

/-- A block of rows as its producer wrote it: its rows, and the columns of its slices in the order
of the slices. -/
structure RowBlock where
  rows : RowRange
  columns : List ColumnRange

namespace RowBlock

def slices (block : RowBlock) : List Slice :=
  inBlock block.rows block.columns

/-- The rows of some blocks together. -/
def rowSum (blocks : List RowBlock) : Nat :=
  (blocks.map (·.rows.span)).sum

/-- The blocks one behind the other from the row `base` on: each begins after the rows of all blocks
before it. -/
def stacked (base : Nat) (blocks : List RowBlock) : List RowBlock :=
  blocks.mapIdx fun position block =>
    { block with
      rows := ⟨base + rowSum (blocks.take position),
        base + rowSum (blocks.take position) + block.rows.span⟩ }

theorem rowSum_cons (block : RowBlock) (blocks : List RowBlock) :
    rowSum (block :: blocks) = block.rows.span + rowSum blocks := by
  rw [rowSum, List.map_cons, List.sum_cons, rowSum]

theorem stacked_cons (base : Nat) (block : RowBlock) (blocks : List RowBlock) :
    stacked base (block :: blocks) =
      { block with rows := ⟨base, base + block.rows.span⟩ } ::
        stacked (base + block.rows.span) blocks := by
  have first : rowSum ((block :: blocks).take 0) = 0 := rfl
  have later (position : Nat) : base + rowSum ((block :: blocks).take (position + 1)) =
      base + block.rows.span + rowSum (blocks.take position) := by
    rw [List.take_succ_cons, rowSum_cons, Nat.add_assoc]
  simp only [stacked, List.mapIdx_cons, first, later, Nat.add_zero]

end RowBlock

namespace RowGroup

open RowBlock

/-- After a block that listed all columns, and before the first block, every block starts a group
of its own, whatever rows it gives. -/
theorem rebase_blocks {columns : List ColumnRange} {blocks : List RowBlock}
    (some_columns : columns ≠ []) (distinct : columns.Nodup)
    (each : ∀ block ∈ blocks, block.columns.Perm columns) {group : RowGroup} {current : RowRange}
    (full : group.rows = Option.none ∨ ∀ column ∈ columns, column ∈ group.columns) :
    (rebase group current (blocks.flatMap slices)).1 =
        (stacked current.stop blocks).flatMap slices ∧
      (rebase group current (blocks.flatMap slices)).2.stop =
        current.stop + rowSum blocks := by
  induction blocks generalizing group current with
  | nil => exact ⟨rfl, rfl⟩
  | cons block blocks ih =>
    have same := each block (by simp)
    obtain ⟨first, others, listed⟩ : ∃ first others, block.columns = first :: others := by
      refine List.exists_cons_of_ne_nil fun nothing => some_columns ?_
      rw [nothing] at same
      exact same.nil_eq.symm
    have fresh : (first :: others).Nodup := by
      rw [← listed]
      exact same.nodup_iff.2 distinct
    have leaves : group.isLeftBy ⟨first, block.rows⟩ = true := by
      rw [isLeftBy_iff]
      rcases full with begun | seen
      · exact Or.inl (by simp [begun])
      · exact Or.inr (seen first (same.mem_iff.1 (by simp [listed])))
    have fullAfter : ∀ column ∈ columns, column ∈ first :: others := by
      intro column member
      rw [← listed]
      exact same.mem_iff.2 member
    have rest := @ih (fun block member => each block (List.mem_cons_of_mem _ member))
      ⟨some block.rows, first :: others⟩ ⟨current.stop, current.stop + block.rows.span⟩
      (Or.inr fullAfter)
    rw [List.flatMap_cons, slices, listed, rebase_block leaves fresh, rest.1, rest.2, stacked_cons,
      List.flatMap_cons, slices, listed, rowSum_cons, Nat.add_assoc]
    exact ⟨rfl, rfl⟩

end RowGroup

namespace RowBlock

section Blocks

variable {columns : List ColumnRange} {blocks : List RowBlock} (some_columns : columns ≠ [])
  (distinct : columns.Nodup) (each : ∀ block ∈ blocks, block.columns.Perm columns)
include some_columns distinct each

theorem rebaseRows_blocks (base : Nat) :
    rebaseRows base (blocks.flatMap slices) =
      ((stacked base blocks).flatMap slices, base + rowSum blocks) := by
  have moved := @RowGroup.rebase_blocks columns blocks some_columns distinct each .none ⟨base, base⟩
    (Or.inl rfl)
  exact Prod.ext moved.1 moved.2

theorem rowCount_blocks : rowCount (blocks.flatMap slices) = rowSum blocks := by
  have stop := rebaseRows_stop 0 (blocks.flatMap slices)
  rw [rebaseRows_blocks some_columns distinct each] at stop
  simp only at stop
  omega

end Blocks

section Reordered

variable {blocks shuffled : List RowBlock} (reorders : List.Forall₂ Reorders blocks shuffled)
include reorders

end Reordered

end RowBlock

section Cut

open RowBlock

/-- Blocks that lie one behind the other have the rows between their ends. -/
theorem rowSum_of_tiles {start stop : Nat} {blocks : List (Nat × Nat)}
    (tiles : Tiles start stop blocks) (columns : List ColumnRange) :
    start + rowSum (blocks.map fun block => ⟨⟨block.1, block.2⟩, columns⟩) = stop := by
  induction blocks generalizing start with
  | nil => exact tiles
  | cons block blocks ih =>
    obtain ⟨begins, some_inside, rest⟩ := tiles
    have later := ih rest
    rw [List.map_cons, rowSum_cons, RowRange.span]
    simp only
    omega

theorem cut_eq_flatMap_slices (blocks groups : List (Nat × Nat)) :
    cut blocks groups = (blocks.map fun block =>
      RowBlock.mk ⟨block.1, block.2⟩ (groups.map fun group => ⟨group.1, group.2⟩)).flatMap
        RowBlock.slices := by
  simp only [cut, List.flatMap_map, RowBlock.slices, inBlock, List.map_map]
  rfl

/-- The walk over the slices of a cut counts every block of rows once. -/
theorem rowCount_cut {top bottom left right : Nat} {blocks groups : List (Nat × Nat)}
    (rows : Tiles top bottom blocks) (columns : Tiles left right groups)
    (some_groups : groups ≠ []) : top + rowCount (cut blocks groups) = bottom := by
  rw [cut_eq_flatMap_slices]
  rw [rowCount_blocks (by simpa using some_groups) columns.nodup_columnRanges]
  · exact rowSum_of_tiles rows _
  · intro block member
    obtain ⟨_, _, rfl⟩ := List.mem_map.1 member
    exact List.Perm.refl _

end Cut

namespace FrameContext

open RowBlock

variable {context : FrameContext} {columns : List ColumnRange} {blocks : List RowBlock}

end FrameContext

end FrameIngest
