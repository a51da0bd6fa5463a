import Mathlib
import FrameIngest.Proofs.Frame.RowPartition

namespace FrameIngest

namespace RowGroup

variable {overflow : Overflow} {group : RowGroup} {current : RowRange} {slice : Slice}
  {slices : List Slice}

theorem placeWord_eq_some (fits : (group.place current slice).stop < UInt64.size) :
    group.placeWord overflow current slice = some (group.place current slice) := by
  unfold place at fits ⊢
  unfold placeWord
  split
  · rename_i leaves
    rw [if_pos leaves] at fits
    rw [Overflow.add_eq_some fits, Option.map_some]
  · rfl

theorem place_stop_le (group : RowGroup) (current : RowRange) (slice : Slice)
    (slices : List Slice) :
    (group.place current slice).stop ≤ (group.rebase current (slice :: slices)).2.stop := by
  rw [rebase_cons, rebase_stop]
  exact Nat.le_add_right ..

theorem rebaseWord_eq_some (fits : (group.rebase current slices).2.stop < UInt64.size) :
    group.rebaseWord overflow current slices = some (group.rebase current slices) := by
  induction slices generalizing group current with
  | nil => rfl
  | cons slice slices ih =>
    have first := (place_stop_le group current slice slices).trans_lt fits
    rw [rebase_cons] at fits ⊢
    rw [rebaseWord, placeWord_eq_some first]
    simp only [bind, Option.bind, ih fits, pure]

end RowGroup

section Words

variable {overflow : Overflow} {base : Nat} {slices : List Slice}

theorem rowCountWord_eq_some (fits : rowCount slices < UInt64.size) :
    rowCountWord overflow slices = some (rowCount slices) :=
  Overflow.sum_eq_some fits

theorem rebaseRowsWord_eq_some (fits : base + rowCount slices < UInt64.size) :
    rebaseRowsWord overflow base slices = some (rebaseRows base slices) := by
  rw [← rebaseRows_stop] at fits
  rw [rebaseRowsWord, RowGroup.rebaseWord_eq_some fits]
  rfl

/-- What a renumbering makes of slices, with all rows counted in machine words too. -/
structure RenumbersWord (overflow : Overflow) (base : Nat) (slices moved : List Slice)
    (total : Nat) : Prop extends Renumbers base slices moved total where
  countedWord : rowCountWord overflow slices = some total
  recountedWord : rowCountWord overflow moved = some total

theorem Renumbers.inWords {moved : List Slice} {total : Nat}
    (renumbers : Renumbers base slices moved total) (fits : total < UInt64.size) :
    RenumbersWord overflow base slices moved total where
  toRenumbers := renumbers
  countedWord := by
    rw [← renumbers.counted] at fits ⊢
    exact rowCountWord_eq_some fits
  recountedWord := by
    rw [← renumbers.recounted] at fits ⊢
    exact rowCountWord_eq_some fits

end Words

namespace FrameContext

variable {overflow : Overflow} {context : FrameContext}

theorem adjustSlicesWord_eq_some (fits : rowCount context.slices < UInt64.size) :
    context.adjustSlicesWord overflow = some context.adjustSlices := by
  rw [← Nat.zero_add (rowCount _)] at fits
  rw [adjustSlicesWord, rebaseRowsWord_eq_some fits]
  rfl

theorem reconcileWord_eq_some (fits : context.firstRow + rowCount context.slices < UInt64.size) :
    context.reconcileWord overflow = some context.reconcile := by
  have stop := rebaseRows_stop context.firstRow context.slices
  have total : overflow.sub (rebaseRows context.firstRow context.slices).2 context.firstRow =
      some ((rebaseRows context.firstRow context.slices).2 - context.firstRow) :=
    Overflow.sub_eq_some (by omega) (by omega)
  rw [reconcileWord, rebaseRowsWord_eq_some fits]
  simp only [bind, Option.bind, total]
  rfl

theorem offsetAndRowCountWord_eq_some (fits : rowCount context.slices < UInt64.size) :
    context.offsetAndRowCountWord overflow = some context.offsetAndRowCount := by
  rw [offsetAndRowCountWord, countRowsWord, rowCountWord_eq_some fits]
  rfl

theorem toDescriptorWord_eq_some (fits : rowCount context.slices < UInt64.size)
    {previousKey : Option StorageKey} {bucketizeDynamic : Bool} :
    context.toDescriptorWord overflow previousKey bucketizeDynamic =
      some (context.toDescriptor previousKey bucketizeDynamic) := by
  rw [toDescriptorWord, countRowsWord, rowCountWord_eq_some fits]
  rfl

end FrameContext

end FrameIngest
