import Mathlib
import FrameIngest.Proofs.Frame.WordRows

namespace FrameIngest

/-- No column lies in both ranges. -/
def ColumnRange.Apart (range other : ColumnRange) : Prop :=
  ∀ column, ¬(range.contains column = true ∧ other.contains column = true)

namespace RowGroup

/-- Slices with the numbers of their row groups, counted on from the number of the group that the
walk is in. -/
def numbered : RowGroup → (number : Nat) → List Slice → List (Nat × Slice)
  | _, _, [] => []
  | group, number, slice :: slices =>
    let number := if group.isLeftBy slice then number + 1 else number
    (number, slice) :: numbered (group.next slice) number slices

variable {group : RowGroup} {current : RowRange} {number : Nat}

theorem numbered_cons (group : RowGroup) (number : Nat) (slice : Slice) (slices : List Slice) :
    numbered group number (slice :: slices) =
      (if group.isLeftBy slice then number + 1 else number, slice) ::
        numbered (group.next slice) (if group.isLeftBy slice then number + 1 else number) slices :=
  rfl

theorem columns_subset_next {slice : Slice} (stays : group.isLeftBy slice = false)
    {columns : ColumnRange} (member : columns ∈ group.columns) :
    columns ∈ (group.next slice).columns := by
  simp only [next, stays, Bool.false_eq_true, if_false]
  exact List.mem_append_left _ member

theorem mem_next_columns (group : RowGroup) (slice : Slice) :
    slice.columns ∈ (group.next slice).columns := by
  unfold next
  split <;> simp

/-- A slice is of the group that the walk is in only if it has the rows of the group and columns
that the group has not; all other slices are of later groups. -/
theorem number_of_mem {slices : List Slice} {entry : Nat × Slice}
    (member : entry ∈ numbered group number slices) :
    entry.1 = number ∧ group.rows = some entry.2.rows ∧ entry.2.columns ∉ group.columns ∨
      number < entry.1 := by
  induction slices generalizing group number with
  | nil => cases member
  | cons slice slices ih =>
    rw [numbered_cons] at member
    cases leaves : group.isLeftBy slice with
    | true =>
      rw [leaves, if_pos rfl] at member
      refine Or.inr ?_
      rcases List.mem_cons.1 member with rfl | later
      · exact Nat.lt_succ_self number
      · rcases ih later with ⟨same, _⟩ | behind <;> omega
    | false =>
      have stays := mt (isLeftBy_iff group slice).2 (by simp [leaves])
      simp only [ne_eq, not_or, not_not] at stays
      rw [leaves, if_neg Bool.false_ne_true] at member
      rcases List.mem_cons.1 member with rfl | later
      · exact Or.inl ⟨rfl, stays⟩
      · rcases ih later with ⟨same, rows, unseen⟩ | behind
        · rw [next_rows] at rows
          exact Or.inl ⟨same, stays.1.trans rows, fun seen =>
            unseen (columns_subset_next leaves seen)⟩
        · exact Or.inr behind

/-- Slices of one group have the same rows and different columns. -/
theorem numbered_pairwise (group : RowGroup) (number : Nat) (slices : List Slice) :
    (numbered group number slices).Pairwise fun entry other =>
      entry.1 = other.1 → entry.2.rows = other.2.rows ∧ entry.2.columns ≠ other.2.columns := by
  induction slices generalizing group number with
  | nil => exact .nil
  | cons slice slices ih =>
    refine .cons (fun other member same => ?_) (ih _ _)
    rcases number_of_mem member with ⟨_, rows, unseen⟩ | behind
    · rw [next_rows] at rows
      refine ⟨Option.some.inj rows, fun sameColumns => unseen ?_⟩
      rw [← sameColumns]
      exact mem_next_columns group slice
    · simp only at same
      omega

/-- The slices of the group that the walk is in go where the group went, and those of later groups
behind it. -/
theorem place_of_mem {slices : List Slice} {entry : (Nat × Slice) × Slice}
    (member : entry ∈ (numbered group number slices).zip (rebase group current slices).1)
    (ordered : current.start ≤ current.stop) :
    entry.1.1 = number ∧ entry.2.rows = current ∨
      number < entry.1.1 ∧ current.stop ≤ entry.2.rows.start := by
  induction slices generalizing group number current with
  | nil => cases member
  | cons slice slices ih =>
    rw [numbered_cons, rebase_cons, List.zip_cons_cons] at member
    have placed := @place_ordered group current ordered slice
    cases leaves : group.isLeftBy slice with
    | true =>
      rw [leaves, if_pos rfl] at member
      rw [place, if_pos leaves] at member placed
      refine Or.inr ?_
      rcases List.mem_cons.1 member with rfl | later
      · exact ⟨Nat.lt_succ_self number, Nat.le_refl _⟩
      · rcases ih later placed with ⟨same, rows⟩ | ⟨behind, start⟩
        · rw [rows]
          exact ⟨by omega, Nat.le_refl _⟩
        · simp only at start
          exact ⟨by omega, by omega⟩
    | false =>
      have stays : ¬group.isLeftBy slice = true := by simp [leaves]
      rw [leaves, if_neg Bool.false_ne_true] at member
      rw [place, if_neg stays] at member
      rcases List.mem_cons.1 member with rfl | later
      · exact Or.inl ⟨rfl, rfl⟩
      · exact ih later ordered

/-- Slices of one group come to the same rows, and those of a later group behind them. -/
theorem rebase_pairwise (ordered : current.start ≤ current.stop) (slices : List Slice) :
    ((numbered group number slices).zip (rebase group current slices).1).Pairwise
      fun entry other => entry.1.1 = other.1.1 ∧ other.2.rows = entry.2.rows ∨
        entry.1.1 < other.1.1 ∧ entry.2.rows.stop ≤ other.2.rows.start := by
  induction slices generalizing group number current with
  | nil => exact .nil
  | cons slice slices ih =>
    have placed := @place_ordered group current ordered slice
    rw [numbered_cons, rebase_cons, List.zip_cons_cons]
    refine .cons (fun other member => ?_) (ih placed)
    rcases place_of_mem member placed with ⟨same, rows⟩ | later
    · exact Or.inl ⟨same.symm, rows⟩
    · exact Or.inr later

theorem numbered_map_snd (group : RowGroup) (number : Nat) (slices : List Slice) :
    (numbered group number slices).map Prod.snd = slices := by
  induction slices generalizing group number with
  | nil => rfl
  | cons slice slices ih => rw [numbered_cons, List.map_cons, ih]

end RowGroup

/-- The slices with the numbers of their row groups. -/
def grouped (slices : List Slice) : List (Nat × Slice) :=
  RowGroup.none.numbered 0 slices

theorem Slice.apart_of_behind {slice other : Slice} (behind : slice.rows.stop ≤ other.rows.start) :
    slice.Apart other := by
  intro row column both
  have here := Slice.contains_iff.1 both.1
  have there := Slice.contains_iff.1 both.2
  omega

/-- Slices with the same rows are apart if these are none, or if their columns are apart. -/
theorem Slice.apart_iff_of_rows_eq {slice other : Slice} (same : other.rows = slice.rows) :
    slice.Apart other ↔ slice.rows.span = 0 ∨ slice.columns.Apart other.columns := by
  rw [RowRange.span]
  constructor
  · intro apart
    by_cases nothing : slice.rows.stop - slice.rows.start = 0
    · exact Or.inl nothing
    · refine Or.inr fun column both => apart slice.rows.start column ?_
      have inRows : slice.rows.contains slice.rows.start = true := by
        rw [RowRange.contains_iff]
        omega
      rw [Slice.contains, Slice.contains, same, inRows, both.1, both.2]
      exact ⟨rfl, rfl⟩
  · intro either row column both
    have here := Slice.contains_iff.1 both.1
    rcases either with nothing | apart
    · omega
    · rw [Slice.contains, Slice.contains, Bool.and_eq_true, Bool.and_eq_true] at both
      exact apart column ⟨both.1.2, both.2.2⟩

/-- No cell comes to lie in two slices exactly if the slices of each row group that have rows have
no column in common. -/
theorem rebaseRows_apart_iff (base : Nat) (slices : List Slice) :
    (rebaseRows base slices).1.Pairwise Slice.Apart ↔
      (grouped slices).Pairwise fun entry other =>
        entry.1 = other.1 → entry.2.rows.span = 0 ∨ entry.2.columns.Apart other.2.columns := by
  have kept := (renumbers_rebaseRows base slices).kept
  nth_rewrite 1 [← RowGroup.numbered_map_snd .none 0 slices] at kept
  rw [List.forall₂_map_left_iff] at kept
  change List.Forall₂ _ (grouped slices) _ at kept
  have length := kept.length_eq
  obtain ⟨_, together⟩ := List.forall₂_iff_zip.1 kept
  have placed := @RowGroup.rebase_pairwise .none ⟨base, base⟩ 0 (Nat.le_refl base) slices
  change ((grouped slices).zip (rebaseRows base slices).1).Pairwise _ at placed
  have same : ((grouped slices).zip (rebaseRows base slices).1).Pairwise fun entry other =>
      (entry.2.Apart other.2 ↔ (entry.1.1 = other.1.1 →
        entry.1.2.rows.span = 0 ∨ entry.1.2.columns.Apart other.1.2.columns)) := by
    refine placed.imp_of_mem fun {entry other} member otherMember relation => ?_
    obtain ⟨columns, span⟩ := together member
    obtain ⟨otherColumns, _⟩ := together otherMember
    rcases relation with ⟨sameNumber, sameRows⟩ | ⟨later, behind⟩
    · rw [Slice.apart_iff_of_rows_eq sameRows, columns, otherColumns, span]
      exact ⟨fun apart _ => apart, fun apart => apart sameNumber⟩
    · exact iff_of_true (Slice.apart_of_behind behind)
        fun sameNumber => absurd sameNumber (by omega)
  constructor
  · intro apart
    rw [← List.map_snd_zip length.ge] at apart
    rw [← List.map_fst_zip length.le, List.pairwise_map]
    exact (List.pairwise_map.1 apart).imp₂ (fun _ _ apart iff => iff.1 apart) same
  · intro apart
    rw [← List.map_fst_zip length.le] at apart
    rw [← List.map_snd_zip length.ge, List.pairwise_map]
    exact (List.pairwise_map.1 apart).imp₂ (fun _ _ apart iff => iff.2 apart) same

theorem ColumnRange.apart_of_behind {range other : ColumnRange}
    (behind : range.stop ≤ other.start) : range.Apart other := by
  intro column both
  rw [ColumnRange.contains_iff, ColumnRange.contains_iff] at both
  omega

namespace FrameContext

/-- A renumbering leaves no cell in two slices exactly if in each row group the slices that have
rows have no column in common. So it is if slices whose rows are numbered alike have the same
columns or none in common, and it fails where producers that number their rows alike cut the columns
differently: the renumbering tells their blocks apart by equal columns only. In machine words it is
the same as long as the last row fits into one. -/
theorem adjusted_apart_iff (context : FrameContext) :
    (context.adjustSlices.2.slices.Pairwise Slice.Apart ↔
      (grouped context.slices).Pairwise fun entry other =>
        entry.1 = other.1 → entry.2.rows.span = 0 ∨ entry.2.columns.Apart other.2.columns) ∧
    ((context.slices.Pairwise fun slice other => slice.rows = other.rows →
        slice.columns = other.columns ∨ slice.columns.Apart other.columns) →
      context.adjustSlices.2.slices.Pairwise Slice.Apart) ∧
    (rowCount context.slices < UInt64.size → ∀ overflow,
      context.adjustSlicesWord overflow = some context.adjustSlices) := by
  refine and_assoc.1 ⟨?_, fun fits _ => adjustSlicesWord_eq_some fits⟩
  have exact_iff := rebaseRows_apart_iff 0 context.slices
  rw [adjustSlices_eq, slices_withSlices_rebaseRows]
  refine ⟨exact_iff, fun alike => exact_iff.2 ?_⟩
  have inGroups := RowGroup.numbered_pairwise .none 0 context.slices
  rw [← RowGroup.numbered_map_snd .none 0 context.slices, List.pairwise_map] at alike
  refine inGroups.imp₂ (fun entry other inGroup alike sameNumber => Or.inr ?_) alike
  obtain ⟨rows, different⟩ := inGroup sameNumber
  exact (alike rows).resolve_left different

/-- Two blocks that are both numbered from zero, with the same cut of the columns. -/
def cutAlike : List Slice :=
  [⟨⟨0, 2⟩, ⟨0, 10⟩⟩, ⟨⟨2, 4⟩, ⟨0, 10⟩⟩, ⟨⟨0, 2⟩, ⟨0, 10⟩⟩, ⟨⟨2, 4⟩, ⟨0, 10⟩⟩]

theorem adjusted_apart_iff_cutAlike :
    (cutAlike.Pairwise fun slice other => slice.rows = other.rows →
        slice.columns = other.columns ∨ slice.columns.Apart other.columns) ∧
      (ofSlices cutAlike).adjustSlices.2.slices.Pairwise Slice.Apart := by
  have leftRight : (ColumnRange.mk 0 2).Apart ⟨2, 4⟩ := ColumnRange.apart_of_behind (Nat.le_refl 2)
  have rightLeft : (ColumnRange.mk 2 4).Apart ⟨0, 2⟩ := fun column both =>
    leftRight column ⟨both.2, both.1⟩
  have alike : cutAlike.Pairwise fun slice other => slice.rows = other.rows →
      slice.columns = other.columns ∨ slice.columns.Apart other.columns := by
    simp [cutAlike, leftRight, rightLeft]
  exact ⟨alike, (adjusted_apart_iff (ofSlices cutAlike)).2.1 alike⟩

/-- Two blocks that are both numbered from zero, the second one with its columns in one piece. -/
def cutOnce : List Slice :=
  [⟨⟨0, 2⟩, ⟨0, 10⟩⟩, ⟨⟨2, 4⟩, ⟨0, 10⟩⟩, ⟨⟨0, 4⟩, ⟨0, 10⟩⟩]

/-- A renumbering may give a cell to two slices, though columns and rows are in order. -/
theorem not_forall_adjusted_apart :
    ¬∀ context : FrameContext,
      (∀ slice ∈ context.slices, slice.columns.start < slice.columns.stop ∧
        slice.rows.start ≤ slice.rows.stop) →
      context.adjustSlices.2.slices.Pairwise Slice.Apart := by
  intro apart
  have pairwise := apart (ofSlices cutOnce) (by decide)
  have moved : (ofSlices cutOnce).adjustSlices.2.slices = cutOnce := by decide
  rw [moved, List.pairwise_iff_getElem] at pairwise
  exact pairwise 0 2 (by decide) (by decide) (by decide) 0 0 (by decide)

end FrameContext

end FrameIngest
