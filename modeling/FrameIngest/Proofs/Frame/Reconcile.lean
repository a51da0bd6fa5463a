import Mathlib
import FrameIngest.Frame.Context
import FrameIngest.Proofs.Frame.Slicing

namespace FrameIngest

namespace RowGroup

/-- Slices with other columns of the same rows go where their group went. -/
theorem rebase_inBlock {rows current : RowRange} {seen columns : List ColumnRange}
    (fresh : (seen ++ columns).Nodup) (rest : List Slice) :
    rebase ⟨some rows, seen⟩ current (inBlock rows columns ++ rest) =
      (inBlock current columns ++ (rebase ⟨some rows, seen ++ columns⟩ current rest).1,
        (rebase ⟨some rows, seen ++ columns⟩ current rest).2) := by
  induction columns generalizing seen with
  | nil => simp only [inBlock, List.map_nil, List.nil_append, List.append_nil]
  | cons first columns ih =>
    rw [List.append_cons] at fresh
    have unseen : first ∉ seen := by
      have distinct := (List.nodup_append.1 fresh).1
      exact fun member => (List.nodup_append.1 distinct).2.2 first member first (by simp) rfl
    have stays : (RowGroup.mk (some rows) seen).isLeftBy ⟨first, rows⟩ = false := by
      simp [isLeftBy, unseen]
    have later := ih fresh
    rw [inBlock] at later ⊢
    rw [List.map_cons, List.cons_append, rebase]
    simp only [next, stays, Bool.false_eq_true, if_false]
    rw [later, List.append_assoc]
    rfl

/-- A block of rows whose first slice starts a group goes behind the group before it. -/
theorem rebase_block {group : RowGroup} {rows : RowRange} {first : ColumnRange}
    {columns : List ColumnRange} (leaves : group.isLeftBy ⟨first, rows⟩ = true)
    (fresh : (first :: columns).Nodup) (current : RowRange) (rest : List Slice) :
    rebase group current (inBlock rows (first :: columns) ++ rest) =
      (inBlock ⟨current.stop, current.stop + rows.span⟩ (first :: columns) ++
          (rebase ⟨some rows, first :: columns⟩ ⟨current.stop, current.stop + rows.span⟩ rest).1,
        (rebase ⟨some rows, first :: columns⟩ ⟨current.stop, current.stop + rows.span⟩ rest).2) := by
  have later := @rebase_inBlock rows ⟨current.stop, current.stop + rows.span⟩ [first] columns
    fresh rest
  rw [inBlock] at later ⊢
  rw [List.map_cons, List.cons_append, rebase]
  simp only [next, leaves, if_true]
  rw [later]
  rfl

theorem rebase_cut {group : RowGroup} {current : RowRange} {bottom left right : Nat}
    {blocks groups : List (Nat × Nat)} (rows : Tiles current.stop bottom blocks)
    (columns : Tiles left right groups)
    (behind : ∀ range, group.rows = some range → range.start < current.stop) :
    (rebase group current (cut blocks groups)).1 = cut blocks groups := by
  have fresh := columns.nodup_columnRanges
  cases groups with
  | nil =>
    rw [cut_nil, rebase]
  | cons firstGroup groups =>
    induction blocks generalizing group current with
    | nil => rfl
    | cons block blocks ih =>
      obtain ⟨begins, some_inside, rest⟩ := rows
      have elsewhere : group.rows ≠ some ⟨block.1, block.2⟩ := by
        intro here
        have before := behind _ here
        simp only at before
        omega
      have placed : RowRange.mk current.stop
          (current.stop + (RowRange.mk block.1 block.2).span) = ⟨block.1, block.2⟩ := by
        rw [← begins, RowRange.span, Nat.add_sub_cancel' (by simp only; omega)]
      rw [cut_cons]
      rw [List.map_cons] at fresh ⊢
      rw [rebase_block (by simp [isLeftBy, elsewhere]) fresh, placed]
      refine congrArg (_ ++ ·) (ih rest ?_)
      rintro range ⟨⟩
      simp only
      omega

end RowGroup

theorem rebaseRows_cut {top bottom left right : Nat} {blocks groups : List (Nat × Nat)}
    (rows : Tiles top bottom blocks) (columns : Tiles left right groups) :
    (rebaseRows top (cut blocks groups)).1 = cut blocks groups :=
  RowGroup.rebase_cut rows columns nofun

theorem rows_start_of_head?_cut {top bottom : Nat} {blocks groups : List (Nat × Nat)}
    (rows : Tiles top bottom blocks) {slice : Slice}
    (first : (cut blocks groups).head? = some slice) : slice.rows.start = top := by
  cases blocks with
  | nil => cases first
  | cons block blocks =>
    cases groups with
    | nil =>
      rw [cut_nil] at first
      cases first
    | cons group groups =>
      cases first
      exact rows.1

namespace FrameContext

theorem firstRow_eq {context : FrameContext} {top bottom : Nat} {blocks groups : List (Nat × Nat)}
    (rows : Tiles top bottom blocks) (slices : context.slices = cut blocks groups) :
    context.entries = [] ∨ context.firstRow = top := by
  cases entries : context.entries with
  | nil => exact Or.inl rfl
  | cons entry rest =>
    have first : (cut blocks groups).head? = some entry.slice := by
      rw [← slices, FrameContext.slices, entries, List.map_cons, List.head?_cons]
    rw [firstRow, entries]
    exact Or.inr (rows_start_of_head?_cut rows first)

/-- Reconciliation leaves the slices of a cut as they are. -/
theorem reconcile_entries {context : FrameContext} {top bottom left right : Nat}
    {blocks groups : List (Nat × Nat)} (rows : Tiles top bottom blocks)
    (columns : Tiles left right groups) (slices : context.slices = cut blocks groups) :
    context.reconcile.entries = context.entries := by
  have kept : (rebaseRows context.firstRow context.slices).1 = context.slices := by
    rcases firstRow_eq rows slices with nothing | first
    · rw [FrameContext.slices, nothing]
      rfl
    · rw [first, slices, rebaseRows_cut rows columns]
  change List.zipWith _ context.entries (rebaseRows context.firstRow context.slices).1 = _
  rw [kept, FrameContext.slices, List.zipWith_map_right]
  simp

end FrameContext

end FrameIngest
